/-
# Retarget.Proofs.IE32.Writing -- operands as they are written, and that they are read

`Written` is an operand as someone may have written it: the case of its register name, spaces and
tabs wherever some may stand, and any text at all for values, addresses and offsets.  The types
carry what the grammar asks for, so that whatever can be built is well-formed: a `Gap` is spaces
and tabs, a `Letter` names a register, a `BareText` is neither marked nor a register.

Each of the readers gets what was written, with its texts trimmed (`Written.readOperand_text`,
`readPlace_text`, `readTarget_text`, `readDelay_text`).  A text is split at the first comma
outside brackets: `Single` says, by counting brackets, that it has none.
-/
import Retarget.Proofs.IE32.Reading

namespace Retarget.IE32

set_option autoImplicit false

open Text (trim trimLeft trimRight AllBlank Spells upperChar)

/-! ## Pieces -/

/-- Spaces and tabs, or nothing. -/
structure Gap where
  text : Text
  layout : ∀ c ∈ text, Text.isIndent c = true

/-- A register, with its letter in either case. -/
structure Letter where
  register : Register
  text : Text
  listed : RegisterMap.standard.Lists register
  spells : Spells text register.name

/-- No mark says what kind of operand the text is. -/
def Unmarked (t : Text) : Prop := ∀ mark ∈ ['#', '@', '['], (trim t).head? ≠ some mark

/-- A text that is not marked and is no register. -/
structure BareText where
  text : Text
  some_text : trim text ≠ []
  unmarked : Unmarked text
  unnamed : RegisterMap.standard.find? text = none

/-- Where a jump goes: some text, with no blanks around it. -/
structure TargetText where
  text : Text
  some_text : text ≠ []
  trimmed : trim text = text

def Gap.space : Gap := ⟨" ", by decide⟩

def Gap.tab : Gap := ⟨"\t", by decide⟩

theorem Gap.allBlank (g : Gap) : AllBlank g.text :=
  fun c member => Text.isBlank_of_isIndent (g.layout c member)

/-! ## Names -/

/-- The text consists of capital letters, as all names do. -/
def IsName (name : Text) : Prop := name ≠ [] ∧ ∀ c ∈ name, c.isUpper = true

instance (name : Text) : Decidable (IsName name) := inferInstanceAs (Decidable (_ ∧ _))

section Names

variable {word name : Text}

/-- Other characters stand in no spelling of a name, unless they have an upper case. -/
theorem IsName.notMem (isName : IsName name) (spells : Spells word name) {c : Char}
    (fixed : c.toUpper = c) (other : c.isUpper = false) : c ∉ word := by
  intro member
  have upper := isName.2 c (Text.mem_of_spells spells fixed member)
  simp [other] at upper

theorem IsName.solid (isName : IsName name) (spells : Spells word name) :
    ∀ c ∈ word, Text.isBlank c = false := by
  intro c member
  cases blank : Text.isBlank c with
  | false => rfl
  | true =>
      have plain : ∀ d ∈ Text.blanks, d.toUpper = d ∧ d.isUpper = false := by decide +kernel
      obtain ⟨fixed, other⟩ := plain c ((Text.isBlank_iff c).mp blank)
      exact absurd member (isName.notMem spells fixed other)

theorem IsName.upper_eq (isName : IsName name) (spells : Spells word name) :
    Text.upper word = name := by
  refine Text.upper_of_spells (fun c member => ?_) spells
  have capital : c.val ≥ 'A'.val ∧ c.val ≤ 'Z'.val := of_decide_eq_true (isName.2 c member)
  exact Nat.lt_of_le_of_lt (UInt32.le_iff_toNat_le.mp capital.2) (by decide)

theorem IsName.word_ne_nil (isName : IsName name) (spells : Spells word name) : word ≠ [] := by
  rintro rfl
  exact isName.1 spells.symm

end Names

namespace Letter

theorem isName (l : Letter) : IsName l.register.name := by
  have names : ∀ entry ∈ RegisterMap.standard.table.entries, IsName entry.1 := by decide +kernel
  exact names _ l.listed

theorem notMem (l : Letter) {c : Char} (fixed : c.toUpper = c) (other : c.isUpper = false) :
    c ∉ l.text :=
  l.isName.notMem l.spells fixed other

theorem ne_nil (l : Letter) : l.text ≠ [] := l.isName.word_ne_nil l.spells

@[simp] theorem trim_text (l : Letter) : trim l.text = l.text :=
  have solid := l.isName.solid l.spells
  Text.trim_eq_self (fun c first => solid c (List.mem_of_head? first))
    (fun c last => solid c (List.mem_of_getLast? last))

/-- Blanks around it or not, the letter names its register. -/
theorem find?_eq (l : Letter) {t : Text} (same : trim t = l.text) :
    RegisterMap.standard.find? t = some l.register := by
  refine (RegisterMap.find?_eq_some_iff _ _ _).mpr ⟨?_, l.listed⟩
  rw [same, l.isName.upper_eq l.spells]

theorem unmarked (l : Letter) : Unmarked l.text := by
  intro mark listed first
  have plain : ∀ mark ∈ ['#', '@', '['], mark.toUpper = mark ∧ mark.isUpper = false := by decide
  obtain ⟨fixed, other⟩ := plain mark listed
  rw [l.trim_text] at first
  exact l.notMem fixed other (List.mem_of_head? first)

end Letter

/-- The register `B`, written as a small letter. -/
def smallB : Letter where
  register := ⟨"B", "r5"⟩
  text := "b"
  listed := by decide +kernel
  spells := by decide

/-- The letters are the names of the registers, and so is the long s, whose upper case is an
ordinary S. -/
theorem standard_contains_iff (t : Text) :
    RegisterMap.standard.contains t = true ↔ (∃ l : Letter, l.text = trim t) ∨ trim t = "ſ" := by
  constructor
  · intro named
    obtain ⟨r, found⟩ := Option.isSome_iff_exists.mp named
    obtain ⟨name, listed⟩ := (RegisterMap.find?_eq_some_iff _ _ _).mp found
    have names : ∀ entry ∈ RegisterMap.standard.table.entries, entry.1.length = 1 ∧
        ∀ d ∈ entry.1, d.toNat < 0x80 ∧ d ≠ '\x00' ∧ upperChar 'ı' ≠ [d] := by decide +kernel
    obtain ⟨short, letters⟩ := names _ listed
    obtain ⟨d, isLetter : r.name = [d]⟩ := List.length_eq_one_iff.mp short
    obtain ⟨ascii, some_char, dotted⟩ := letters d (isLetter ▸ List.mem_singleton_self d)
    obtain ⟨c, one, same⟩ := Text.exists_of_upper_eq_singleton (name.symm.trans isLetter)
    rcases Text.toUpper_of_upperChar ascii some_char same with upper | rfl | rfl
    · exact .inl ⟨⟨r, [c], listed, by rw [Spells, isLetter, ← upper]; rfl⟩, one.symm⟩
    · exact absurd same dotted
    · exact .inr one
  · rintro (⟨l, same⟩ | long)
    · simp [RegisterMap.contains, l.find?_eq same.symm]
    · unfold RegisterMap.contains RegisterMap.find?
      rw [long]
      decide +kernel

namespace Unmarked

variable {t : Text}

theorem ne_cons (unmarked : Unmarked t) {mark : Char} (listed : mark ∈ ['#', '@', '[']) :
    ∀ rest, trim t ≠ mark :: rest :=
  fun rest same => unmarked mark listed (by rw [same]; rfl)

theorem ofText_eq (unmarked : Unmarked t) : OperandKind.ofText t = .bare :=
  OperandKind.ofText_eq_bare (unmarked.ne_cons (by decide)) (unmarked.ne_cons (by decide))
    (unmarked.ne_cons (by decide))

theorem withoutMarker_eq (unmarked : Unmarked t) : withoutMarker t = trim t :=
  withoutMarker_of_unmarked (unmarked.ne_cons (by decide)) (unmarked.ne_cons (by decide))

theorem immediateValue_eq (unmarked : Unmarked t) : immediateValue t = trim t :=
  immediateValue_of_unmarked (unmarked.ne_cons (by decide))

end Unmarked

/-! ## Blanks around operands -/

theorem OperandKind.among_trim (m : RegisterMap) (t : Text) :
    OperandKind.among m (trim t) = OperandKind.among m t := by
  simp [OperandKind.among, OperandKind.ofText, RegisterMap.contains, RegisterMap.find?]

theorem Place.readIndirect_trim (m : RegisterMap) (t : Text) :
    Place.readIndirect m (trim t) = Place.readIndirect m t := by
  simp [Place.readIndirect, readIndexed, bracketed]

theorem Place.read_trim (m : RegisterMap) (t : Text) : Place.read m (trim t) = Place.read m t := by
  simp [Place.read, OperandKind.ofText, withoutMarker, Place.readIndirect_trim]

theorem Operand.read_trim (m : RegisterMap) (t : Text) :
    Operand.read m (trim t) = Operand.read m t := by
  simp [Operand.read, OperandKind.among_trim, RegisterMap.lookup, RegisterMap.find?,
    immediateValue, withoutMarker, Place.readIndirect_trim]

theorem Target.read_trim (m : RegisterMap) (op : StepOp) (t : Text) :
    Target.read m op (trim t) = Target.read m op t := by
  simp [Target.read, OperandKind.among_trim, RegisterMap.lookup, RegisterMap.find?,
    withoutMarker, Place.readIndirect_trim]

theorem readDelay_trim (m : RegisterMap) (t : Text) : readDelay m (trim t) = readDelay m t := by
  simp [readDelay, OperandKind.among_trim, immediateValue]

/-! ## Operands -/

/-- An operand as it is written. -/
inductive Written where
  | immediate (value : Text)
  | direct (address : Text)
  | indirect (left : Gap) (base : Letter) (right : Gap)
  | indexed (left : Gap) (base : Letter) (before after : Gap) (offset : Text) (right : Gap)
  | register (letter : Letter)
  | bare (text : BareText)

namespace Written

def text : Written → Text
  | .immediate value => '#' :: value
  | .direct address => '@' :: address
  | .indirect left base right => '[' :: (left.text ++ base.text ++ right.text) ++ [']']
  | .indexed left base before after offset right =>
      '[' :: (left.text ++ base.text ++ before.text ++
        '+' :: (after.text ++ offset ++ right.text)) ++ [']']
  | .register letter => letter.text
  | .bare b => b.text

/-- What the operand stands for as a source. -/
def operand : Written → Operand
  | .immediate value => .value (trimRight value)
  | .direct address => .memory (.direct (trim address))
  | .indirect _ base _ => .memory (.indexed base.register [])
  | .indexed _ base _ _ offset _ => .memory (.indexed base.register (trim offset))
  | .register letter => .register letter.register
  | .bare b => .value (trim b.text)

/-- What the operand stands for as the destination of a store. -/
def place : Written → Place
  | .immediate value => .direct (trim value)
  | .direct address => .direct (trim address)
  | .indirect _ base _ => .indexed base.register []
  | .indexed _ base _ _ offset _ => .indexed base.register (trim offset)
  | .register letter => .direct letter.text
  | .bare b => .direct (trim b.text)

end Written

theorem trim_hash (value : Text) : trim ('#' :: value) = '#' :: trimRight value :=
  Text.trim_append_mark (by decide) [] value

theorem trim_at (address : Text) : trim ('@' :: address) = '@' :: trimRight address :=
  Text.trim_append_mark (by decide) [] address

theorem trim_brackets (inner : Text) : trim ('[' :: inner ++ [']']) = '[' :: inner ++ [']'] := by
  refine Text.trim_eq_self ?_ ?_
  · intro c first
    cases first
    decide
  · intro c last
    rw [List.getLast?_concat] at last
    cases last
    decide

theorem bracketed_brackets (inner : Text) : bracketed ('[' :: inner ++ [']']) = trim inner := by
  simp only [bracketed, trim_brackets]
  simp

theorem readIndexed_indirect (left : Gap) (base : Letter) (right : Gap) :
    readIndexed .standard (Written.indirect left base right).text = .ok (base.register, []) := by
  have trimmed : trim (left.text ++ base.text ++ right.text) = base.text :=
    Text.trim_surrounded left.allBlank right.allBlank base.trim_text
  refine (readIndexed_eq_ok_iff _ _ _ _).mpr ?_
  rw [Written.text, bracketed_brackets, trimmed,
    Text.cutAt_of_notMem (base.notMem (by decide) (by decide))]
  exact ⟨base.find?_eq base.trim_text, rfl⟩

theorem readIndexed_indexed (left : Gap) (base : Letter) (before after : Gap) (offset : Text)
    (right : Gap) :
    readIndexed .standard (Written.indexed left base before after offset right).text =
      .ok (base.register, trim offset) := by
  have absent : '+' ∉ trimLeft (left.text ++ base.text ++ before.text) := by
    intro member
    have inside := (List.dropWhile_sublist _).mem member
    simp only [List.mem_append] at inside
    have noPlus : ∀ g : Gap, '+' ∉ g.text := fun g listed =>
      absurd (g.layout '+' listed) (by decide)
    have noPlus' : '+' ∉ base.text := base.notMem (by decide) (by decide)
    rcases inside with (inLeft | inBase) | inBefore
    · exact noPlus left inLeft
    · exact noPlus' inBase
    · exact noPlus before inBefore
  refine (readIndexed_eq_ok_iff _ _ _ _).mpr ?_
  rw [Written.text, bracketed_brackets, Text.trim_append_mark (by decide), Text.cutAt_append absent]
  constructor
  · refine base.find?_eq ?_
    rw [Text.trim_trimLeft]
    exact Text.trim_surrounded left.allBlank before.allBlank base.trim_text
  · rw [Option.getD_some, Text.trim_trimRight, Text.trim_append _ after.allBlank right.allBlank]

namespace Written

/-- The kind of the operand where registers may stand. -/
def kind : Written → OperandKind
  | .immediate _ => .immediate
  | .direct _ => .direct
  | .indirect _ _ _ | .indexed _ _ _ _ _ _ => .indirect
  | .register _ => .register
  | .bare _ => .bare

theorem ofText_eq (w : Written) (other : w.kind ≠ .register) :
    OperandKind.ofText w.text = w.kind := by
  cases w with
  | immediate value => simp [OperandKind.ofText, text, trim_hash, kind]
  | direct address => simp [OperandKind.ofText, text, trim_at, kind]
  | indirect left base right =>
      rw [OperandKind.ofText, text, trim_brackets]
      rfl
  | indexed left base before after offset right =>
      rw [OperandKind.ofText, text, trim_brackets]
      rfl
  | register l => exact absurd rfl other
  | bare b => exact b.unmarked.ofText_eq

theorem among_eq (w : Written) : OperandKind.among .standard w.text = w.kind := by
  unfold OperandKind.among
  cases w with
  | register l =>
      have named : RegisterMap.standard.contains (text (.register l)) = true := by
        simp [RegisterMap.contains, text, l.find?_eq l.trim_text]
      rw [if_pos ⟨l.unmarked.ofText_eq, named⟩]
      rfl
  | bare b =>
      rw [if_neg (by simp [RegisterMap.contains, text, b.unnamed])]
      exact b.unmarked.ofText_eq
  | immediate | direct | indirect | indexed =>
      rw [ofText_eq _ (by simp [kind])]
      simp [kind]

theorem withoutMarker_hash (value : Text) : withoutMarker ('#' :: value) = trim value := by
  simp [withoutMarker, trim_hash, Text.trim_trimRight]

theorem withoutMarker_at (address : Text) : withoutMarker ('@' :: address) = trim address := by
  simp [withoutMarker, trim_at, Text.trim_trimRight]

theorem readOperand_text (w : Written) :
    Operand.read .standard (trim w.text) = .ok w.operand := by
  rw [Operand.read_trim]
  unfold Operand.read
  rw [w.among_eq]
  cases w with
  | immediate value => simp [kind, operand, text, immediateValue, trim_hash]
  | direct address => simp [kind, operand, text, withoutMarker_at]
  | indirect left base right =>
      simp [kind, operand, Place.readIndirect, readIndexed_indirect, Except.map]
  | indexed left base before after offset right =>
      simp [kind, operand, Place.readIndirect, readIndexed_indexed, Except.map]
  | register l =>
      simp [kind, operand, text, RegisterMap.lookup, l.find?_eq l.trim_text, Except.map]
  | bare b => simp [kind, operand, text, b.unmarked.immediateValue_eq]

theorem readPlace_text (w : Written) : Place.read .standard (trim w.text) = .ok w.place := by
  rw [Place.read_trim]
  unfold Place.read
  cases w with
  | immediate value =>
      rw [ofText_eq _ (by simp [kind])]
      simp [kind, place, text, withoutMarker_hash]
  | direct address =>
      rw [ofText_eq _ (by simp [kind])]
      simp [kind, place, text, withoutMarker_at]
  | indirect left base right =>
      rw [ofText_eq _ (by simp [kind])]
      simp [kind, place, Place.readIndirect, readIndexed_indirect, Except.map]
  | indexed left base before after offset right =>
      rw [ofText_eq _ (by simp [kind])]
      simp [kind, place, Place.readIndirect, readIndexed_indexed, Except.map]
  | register l => simp [place, text, l.unmarked.ofText_eq, l.unmarked.withoutMarker_eq]
  | bare b => simp [place, text, b.unmarked.ofText_eq, b.unmarked.withoutMarker_eq]

def target : Written → Target
  | .register letter => .register letter.register
  | w => .memory w.place

theorem readTarget_text (w : Written) (changeable : w.kind ≠ .immediate ∧ w.kind ≠ .bare)
    (op : StepOp) : Target.read .standard op (trim w.text) = .ok w.target := by
  rw [Target.read_trim]
  unfold Target.read
  rw [w.among_eq]
  cases w with
  | immediate value => exact absurd rfl changeable.1
  | direct address => simp [kind, target, place, text, withoutMarker_at]
  | indirect left base right =>
      simp [kind, target, place, Place.readIndirect, readIndexed_indirect, Except.map]
  | indexed left base before after offset right =>
      simp [kind, target, place, Place.readIndirect, readIndexed_indexed, Except.map]
  | register l =>
      simp [kind, target, text, RegisterMap.lookup, l.find?_eq l.trim_text, Except.map]
  | bare b => exact absurd rfl changeable.2

def delay : Written → Text
  | .immediate value => trimRight value
  | .bare b => trim b.text
  | .direct _ | .indirect _ _ _ | .indexed _ _ _ _ _ _ | .register _ => []

theorem readDelay_text (w : Written) (valued : w.kind = .immediate ∨ w.kind = .bare) :
    readDelay .standard (trim w.text) = .ok w.delay := by
  rw [readDelay_trim]
  unfold readDelay
  rw [w.among_eq]
  cases w with
  | immediate value => simp [kind, delay, text, immediateValue, trim_hash]
  | bare b => simp [kind, delay, text, b.unmarked.immediateValue_eq]
  | direct | indirect | indexed | register => simp [kind] at valued

theorem ne_nil (w : Written) : trim w.text ≠ [] := by
  cases w with
  | immediate value => simp [text, trim_hash]
  | direct address => simp [text, trim_at]
  | indirect | indexed =>
      rw [text, trim_brackets]
      simp
  | register l => simpa [text] using l.ne_nil
  | bare b => exact b.some_text

end Written

/-! ## Splitting operands -/

/-- The text has no comma outside brackets, so it is one operand. -/
def Single (t : Text) : Prop :=
  ∀ before after, t = before ++ ',' :: after → before.count '[' ≠ before.count ']'

theorem cutAtComma_append {first : Text} (plain : ∀ c ∈ first, c ≠ ',' ∧ c ≠ '[' ∧ c ≠ ']')
    (second : Text) : cutAtComma 0 (first ++ ',' :: second) = some (first, second) := by
  induction first with
  | nil => simp [cutAtComma]
  | cons c rest ih =>
      rw [List.forall_mem_cons] at plain
      obtain ⟨⟨noComma, noOpen, noClose⟩, others⟩ := plain
      have level : depthAfter 0 c = 0 := by simp [depthAfter, noOpen, noClose]
      rw [List.cons_append, cutAtComma, if_neg (fun here => noComma here.1), level, ih others]
      rfl

theorem cutAtComma_eq_none {depth : Int} {t : Text}
    (uncut : ∀ before after, t = before ++ ',' :: after →
      depth + before.count '[' - before.count ']' ≠ 0) : cutAtComma depth t = none := by
  induction t generalizing depth with
  | nil => rfl
  | cons c rest ih =>
      have passes : ¬ (c = ',' ∧ depth = 0) := by
        rintro ⟨rfl, rfl⟩
        exact uncut [] rest rfl rfl
      have later : cutAtComma (depthAfter depth c) rest = none := by
        refine ih fun before after same => ?_
        have level := uncut (c :: before) after (by rw [same]; rfl)
        simp only [List.count_cons] at level
        unfold depthAfter
        grind
      rw [cutAtComma, if_neg passes, later]
      rfl

theorem splitOperands_trim (t : Text) : splitOperands (trim t) = splitOperands t := by
  simp [splitOperands]

theorem splitOperands_pair {first : Text} (plain : ∀ c ∈ first, c ≠ ',' ∧ c ≠ '[' ∧ c ≠ ']')
    (second : Text) : splitOperands (first ++ ',' :: second) = [trim first, trim second] := by
  have plainLeft : ∀ c ∈ trimLeft first, c ≠ ',' ∧ c ≠ '[' ∧ c ≠ ']' :=
    fun c member => plain c ((List.dropWhile_sublist _).mem member)
  simp only [splitOperands, Text.trim_append_mark (by decide : Text.isBlank ',' = false),
    cutAtComma_append plainLeft, Text.trim_trimLeft, Text.trim_trimRight]
  simp

theorem splitOperands_single {t : Text} (single : Single t) (some_text : trim t ≠ []) :
    splitOperands t = [trim t] := by
  have uncut : cutAtComma 0 (trim t) = none := by
    refine cutAtComma_eq_none fun before after same => ?_
    obtain ⟨left, right, blankLeft, -, around⟩ := Text.exists_trim t
    have whole : t = (left ++ before) ++ ',' :: (after ++ right) := by
      rw [around, same]
      simp
    -- The blanks in front hold no bracket, so the depth at the comma is the same.
    have noBracket : ∀ c, Text.isBlank c = false → left.count c = 0 := by
      intro c other
      refine List.count_eq_zero.mpr fun member => ?_
      simp [blankLeft c member] at other
    have level := single _ _ whole
    rw [List.count_append, List.count_append, noBracket '[' (by decide),
      noBracket ']' (by decide)] at level
    omega
  simp [splitOperands, some_text, uncut]

end Retarget.IE32
