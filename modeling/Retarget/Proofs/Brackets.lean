/-
# Retarget.Proofs.Brackets -- which operands in brackets are read

An operand in brackets is documented as `[register]` or `[register+offset]` (`WellFormed`).  The
reader is more generous.  It drops a closing bracket if there is one and looks up what stands before
the first plus, so behind the register it takes nothing at all, a bracket, or a plus and any text
(`wellBased_iff`).  And it looks names up in upper case, where the long s is an S.

That is all: what is read is well-formed exactly if its last character is the closing bracket and
its register is not the long s (`wellFormed_iff`).  An operand that is not closed is read as the one
that is (`readIndirect_closed`), and nothing is said about it.
-/
import Retarget.Proofs.OperandCounts

namespace Retarget

set_option autoImplicit false

open Text (trim AllBlank)

namespace IE32

/-! ## What stands in brackets -/

/-- An opening bracket, a name with or without blanks around it, and what follows them. -/
def Based (names ending : Text → Prop) (operand : Text) : Prop :=
  ∃ left name right behind, AllBlank left ∧ AllBlank right ∧ names name ∧ ending behind ∧
    operand = '[' :: (left ++ name ++ right ++ behind)

def IsLetter (name : Text) : Prop := ∃ l : Letter, l.text = name

/-- The closing bracket, or an offset and the closing bracket. -/
def Closes (behind : Text) : Prop :=
  behind = [']'] ∨ ∃ offset : Text, behind = '+' :: (offset ++ [']'])

/-- What may follow the register for the reader. -/
def Trailing (behind : Text) : Prop :=
  behind = [] ∨ behind = [']'] ∨ ∃ rest : Text, behind = '+' :: rest

/-- `[register]` or `[register+offset]`. -/
def WellFormed (operand : Text) : Prop := Based IsLetter Closes operand

/-- What the reader takes for one of them. -/
def Tolerated (operand : Text) : Prop :=
  Based (fun name => IsLetter name ∨ name = "ſ") Trailing operand

section Base

variable {operand base behind left name right : Text}

/-- No mark of the grammar stands in a text that names a register. -/
theorem notMem_of_contains {t : Text} (named : RegisterMap.standard.contains t = true) {mark : Char}
    (isMark : mark ∈ ['+', '[', ']', '#', '@']) : mark ∉ t := by
  have marks : ∀ mark ∈ ['+', '[', ']', '#', '@'], mark.toNat < 0x80 ∧ mark.toUpper = mark ∧
      Text.isBlank mark = false ∧
      ∀ entry ∈ RegisterMap.standard.table.entries, mark ∉ entry.1 := by decide +kernel
  obtain ⟨ascii, fixed, solid, unnamed⟩ := marks mark isMark
  obtain ⟨r, found⟩ := Option.isSome_iff_exists.mp named
  exact RegisterMap.notMem_of_find? ascii fixed solid unnamed found

/-- The base is followed by nothing, by a bracket, or by a plus. -/
theorem exists_baseText (bracket : operand.head? = some '[') :
    ∃ behind, Trailing behind ∧ operand = '[' :: (baseText operand ++ behind) := by
  obtain ⟨inner, rfl⟩ := List.head?_eq_some_iff.mp bracket
  obtain ⟨body, close, split, ends, base⟩ : ∃ body close : Text, inner = body ++ close ∧
      (close = [] ∨ close = [']']) ∧ baseText ('[' :: inner) = body.takeWhile (· != '+') := by
    by_cases closed : inner.getLast? = some ']'
    · obtain ⟨body, rfl⟩ := List.getLast?_eq_some_iff.mp closed
      exact ⟨body, [']'], rfl, .inr rfl, by simp [baseText]⟩
    · exact ⟨inner, [], by simp, .inl rfl, by simp [baseText, closed]⟩
  have parts : body.takeWhile (· != '+') ++ body.dropWhile (· != '+') = body :=
    List.takeWhile_append_dropWhile
  rw [base]
  cases after : body.dropWhile (· != '+') with
  | nil =>
      refine ⟨close, ends.elim .inl (.inr ∘ .inl), ?_⟩
      rw [after, List.append_nil] at parts
      rw [parts, split]
  | cons c rest =>
      have first : (body.dropWhile (· != '+')).head? = some c := by rw [after]; rfl
      obtain rfl : c = '+' := by simpa using Text.head?_dropWhile first
      refine ⟨'+' :: (rest ++ close), .inr (.inr ⟨_, rfl⟩), ?_⟩
      rw [split]
      conv_lhs => rw [← parts, after]
      simp

/-- A text that names a register is the base of the operand it stands in. -/
theorem baseText_eq (named : RegisterMap.standard.contains base = true)
    (trailing : Trailing behind) : baseText ('[' :: (base ++ behind)) = base := by
  have inside : ∀ c ∈ base, (c != '+') = true := by
    intro c member
    rw [bne_iff_ne]
    rintro rfl
    exact notMem_of_contains named (by decide) member
  have unclosed : base.getLast? ≠ some ']' := fun last =>
    notMem_of_contains named (by decide) (List.mem_of_getLast? last)
  unfold baseText
  rw [List.tail_cons]
  rcases trailing with rfl | rfl | ⟨rest, rfl⟩
  · rw [List.append_nil, if_neg unclosed]
    exact List.takeWhile_eq_self_iff.mpr inside
  · rw [if_pos List.getLast?_concat, List.dropLast_concat]
    exact List.takeWhile_eq_self_iff.mpr inside
  · -- Whether a bracket is dropped at the end or not, the plus stays where it is.
    have stops : ∀ more : Text, (base ++ '+' :: more).takeWhile (· != '+') = base := fun more =>
      Text.takeWhile_append inside (by simp)
    split
    · rename_i closed
      cases rest with
      | nil => simp at closed
      | cons c more =>
          rw [List.dropLast_append_of_ne_nil (by simp), List.dropLast_cons_of_ne_nil (by simp)]
          exact stops _
    · exact stops rest

/-- A name with blanks around it names its register. -/
theorem contains_surrounded (blankLeft : AllBlank left) (blankRight : AllBlank right)
    (named : IsLetter name ∨ name = "ſ") :
    trim (left ++ name ++ right) = name ∧
      RegisterMap.standard.contains (left ++ name ++ right) = true := by
  have trimmed : trim name = name := by
    rcases named with ⟨l, rfl⟩ | rfl
    · exact l.trim_text
    · decide
  have inside := Text.trim_surrounded blankLeft blankRight trimmed
  exact ⟨inside, (standard_contains_iff _).mpr (by rw [inside]; exact named)⟩

/-- The register stands where the reader looks for it, and what follows it is one of three. -/
theorem wellBased_iff (bracket : operand.head? = some '[') :
    WellBased .standard operand ↔ Tolerated operand := by
  constructor
  · intro based
    obtain ⟨behind, trailing, split⟩ := exists_baseText bracket
    obtain ⟨left, right, blankLeft, blankRight, around⟩ := Text.exists_trim (baseText operand)
    refine ⟨left, trim (baseText operand), right, behind, blankLeft, blankRight,
      (standard_contains_iff _).mp (based bracket), trailing, ?_⟩
    rw [← around]
    exact split
  · rintro ⟨left, name, right, behind, blankLeft, blankRight, named, trailing, rfl⟩ -
    have contained := (contains_surrounded blankLeft blankRight named).2
    rw [baseText_eq contained trailing]
    exact contained

theorem Closes.trailing (closes : Closes behind) : Trailing behind :=
  .inr (closes.imp id fun ⟨offset, split⟩ => ⟨offset ++ [']'], split⟩)

theorem Letter.text_ne_longS (l : Letter) : l.text ≠ "ſ" := by
  intro same
  have spells : l.register.name = "ſ".toList := l.spells.symm.trans (by rw [same]; decide)
  have capital := l.isName.2 'ſ' (by rw [spells]; decide)
  exact absurd capital (by decide)

theorem getLast?_behind (base : Text) (some_behind : behind ≠ []) :
    ('[' :: (base ++ behind)).getLast? = behind.getLast? := by
  rw [← List.cons_append, List.getLast?_append_of_ne_nil _ some_behind]

theorem WellFormed.getLast? (formed : WellFormed operand) : operand.getLast? = some ']' := by
  obtain ⟨left, name, right, behind, -, -, -, rfl | ⟨offset, rfl⟩, rfl⟩ := formed
  · rw [getLast?_behind _ (by simp)]
    rfl
  · rw [getLast?_behind _ (by simp), ← List.cons_append, List.getLast?_concat]

theorem WellFormed.base_ne (formed : WellFormed operand) : trim (baseText operand) ≠ "ſ" := by
  obtain ⟨left, name, right, behind, blankLeft, blankRight, ⟨l, rfl⟩, closes, rfl⟩ := formed
  obtain ⟨trimmed, contained⟩ := contains_surrounded blankLeft blankRight (.inl ⟨l, rfl⟩)
  rw [baseText_eq contained closes.trailing, trimmed]
  exact l.text_ne_longS

/-- What is tolerated and not well-formed is not closed, or based on the long s. -/
theorem wellFormed_iff (tolerated : Tolerated operand) :
    WellFormed operand ↔ operand.getLast? = some ']' ∧ trim (baseText operand) ≠ "ſ" := by
  refine ⟨fun formed => ⟨formed.getLast?, formed.base_ne⟩, ?_⟩
  rintro ⟨closed, ordinary⟩
  obtain ⟨left, name, right, behind, blankLeft, blankRight, named, trailing, rfl⟩ := tolerated
  obtain ⟨trimmed, contained⟩ := contains_surrounded blankLeft blankRight named
  rw [baseText_eq contained trailing, trimmed] at ordinary
  refine ⟨left, name, right, behind, blankLeft, blankRight, named.resolve_right ordinary, ?_, rfl⟩
  rcases trailing with rfl | rfl | ⟨rest, rfl⟩
  · -- The last character would be one of the base.
    have inside := List.mem_of_getLast? closed
    rw [List.append_nil, List.mem_cons] at inside
    exact absurd (inside.resolve_left (by decide)) (notMem_of_contains contained (by decide))
  · exact .inl rfl
  · rcases List.eq_nil_or_concat rest with rfl | ⟨offset, c, rfl⟩
    · rw [getLast?_behind _ (by simp)] at closed
      exact absurd closed (by decide)
    · rw [getLast?_behind _ (by simp), List.concat_eq_append, ← List.cons_append,
        List.getLast?_concat] at closed
      cases closed
      exact .inr ⟨offset, by rw [List.concat_eq_append]⟩

end Base

/-! ## Brackets that are not closed -/

section Closing

variable {m : RegisterMap} {operand : Text}

theorem trim_closed (bracket : operand.head? = some '[') :
    trim (operand ++ [']']) = operand ++ [']'] ∧ (operand ++ [']']).head? = some '[' := by
  obtain ⟨inner, rfl⟩ := List.head?_eq_some_iff.mp bracket
  exact ⟨trim_brackets inner, rfl⟩

/-- A missing bracket is not missed. -/
theorem readIndirect_closed (trimmed : trim operand = operand) (bracket : operand.head? = some '[')
    (unclosed : operand.getLast? ≠ some ']') :
    Place.readIndirect m (operand ++ [']']) = Place.readIndirect m operand := by
  have same : bracketed (operand ++ [']']) = bracketed operand := by
    obtain ⟨inner, rfl⟩ := List.head?_eq_some_iff.mp bracket
    have inside : inner.getLast? ≠ some ']' := by
      intro last
      obtain ⟨body, rfl⟩ := List.getLast?_eq_some_iff.mp last
      rw [← List.cons_append, List.getLast?_concat] at unclosed
      exact unclosed rfl
    refine (bracketed_brackets inner).trans ?_
    simp [bracketed, trimmed, inside]
  simp only [Place.readIndirect, readIndexed, same]

/-- The readers make the same of both operands. -/
structure ReadAlike (m : RegisterMap) (s t : Text) : Prop where
  source : Operand.read m s = Operand.read m t
  place : Place.read m s = Place.read m t
  target : ∀ op, Target.read m op s = Target.read m op t

theorem readAlike_closed (trimmed : trim operand = operand) (bracket : operand.head? = some '[')
    (unclosed : operand.getLast? ≠ some ']') : ReadAlike m (operand ++ [']']) operand := by
  obtain ⟨whole, start⟩ := trim_closed bracket
  obtain ⟨kind, among⟩ := among_of_bracket (m := m) trimmed bracket
  obtain ⟨kindClosed, amongClosed⟩ := among_of_bracket (m := m) whole start
  have same := readIndirect_closed (m := m) trimmed bracket unclosed
  exact ⟨by simp only [Operand.read, among, amongClosed, same],
    by simp only [Place.read, kind, kindClosed, same],
    fun op => by simp only [Target.read, among, amongClosed, same]⟩

end Closing

/-! ## Instructions -/

/-- The operand that may stand in brackets, and the register that the instruction names besides. -/
def LastOperand (rest : Text) (k : Mnemonic) (register : Option Text) (operand : Text) : Prop :=
  (k.takesOne = true ∧ register = k.letter?.map ([·]) ∧ Sole rest operand) ∨
    (k.takesTwo = true ∧ ∃ first, register = some first ∧ Pair rest first operand)

section Instructions

variable {m : RegisterMap} {k : Mnemonic} {rest operand : Text} {register : Option Text}

theorem LastOperand.trim_eq (operands : LastOperand rest k register operand) :
    trim operand = operand := by
  rcases operands with ⟨-, -, sole⟩ | ⟨-, first, -, pair⟩
  · exact sole.trim_eq
  · exact pair.trim_eq.2

theorem Sole.unique {other : Text} (sole : Sole rest operand) (also : Sole rest other) :
    other = operand :=
  (List.singleton_inj.mp (sole.1.symm.trans also.1)).symm

theorem Pair.unique {first otherFirst other : Text} (pair : Pair rest first operand)
    (also : Pair rest otherFirst other) : otherFirst = first ∧ other = operand := by
  have same := pair.1.symm.trans also.1
  simp only [List.cons.injEq, and_true] at same
  exact ⟨same.1.symm, same.2.symm⟩

/-- What the mnemonic asks of each operand, where it takes one in brackets. -/
theorem LastOperand.accepts_iff (operands : LastOperand rest k register operand)
    (takes : k.takesBase = true) :
    Accepts m rest k ↔ (∀ name, register = some name → m.contains name = true) ∧
      (∀ op, k = .step op → Changeable m operand) ∧ WellBased m operand := by
  rcases operands with ⟨one, rfl, sole⟩ | ⟨two, first, rfl, pair⟩
  · cases k with
    | loadNamed letter | storeNamed letter =>
        simp only [Accepts, Mnemonic.letter?, Option.map_some, Option.some.injEq, forall_eq',
          reduceCtorEq, false_implies, implies_true, true_and]
        refine and_congr_right fun _ => ⟨?_, fun based => ⟨operand, sole, based⟩⟩
        rintro ⟨other, also, based⟩
        exact sole.unique also ▸ based
    | step op =>
        simp only [Accepts, Mnemonic.letter?, Option.map_none, reduceCtorEq, false_implies,
          implies_true, true_and, Mnemonic.step.injEq, forall_eq']
        constructor
        · rintro ⟨other, also, changeable, based⟩
          obtain rfl := sole.unique also
          exact ⟨changeable, based⟩
        · rintro ⟨changeable, based⟩
          exact ⟨operand, sole, changeable, based⟩
    | wait => cases takes
    | _ => cases one
  · cases k with
    | load | store | binary =>
        simp only [Accepts, Option.some.injEq, forall_eq', reduceCtorEq, false_implies,
          implies_true, true_and]
        constructor
        · rintro ⟨otherFirst, other, also, named, based⟩
          obtain ⟨rfl, rfl⟩ := pair.unique also
          exact ⟨named, based⟩
        · rintro ⟨named, based⟩
          exact ⟨first, operand, pair, named, based⟩
    | branch => cases takes
    | _ => cases two

theorem takesTwo_of_takesOne (one : k.takesOne = true) : k.takesTwo = false := by
  cases k with
  | loadNamed | storeNamed | step | wait => rfl
  | _ => cases one

/-- Operands that are read alike make the same instruction. -/
theorem LastOperand.ofMnemonic_eq {otherRest other : Text}
    (operands : LastOperand rest k register operand)
    (others : LastOperand otherRest k register other) (takes : k.takesBase = true)
    (alike : ReadAlike m other operand) :
    Instruction.ofMnemonic m k otherRest = Instruction.ofMnemonic m k rest := by
  rcases operands with ⟨one, names, sole⟩ | ⟨two, first, names, pair⟩
  · rcases others with ⟨-, -, otherSole⟩ | ⟨two, -⟩
    · cases k with
      | loadNamed | storeNamed | step =>
          simp only [Instruction.ofMnemonic, oneOperand_of_sole sole, oneOperand_of_sole otherSole,
            except_ok_bind, alike.source, alike.place, alike.target]
      | wait => cases takes
      | _ => cases one
    · simp [takesTwo_of_takesOne one] at two
  · rcases others with ⟨one, -⟩ | ⟨-, otherFirst, otherNames, otherPair⟩
    · simp [takesTwo_of_takesOne one] at two
    · obtain rfl : first = otherFirst := Option.some.inj (names.symm.trans otherNames)
      cases k with
      | load | store | binary =>
          simp only [Instruction.ofMnemonic, twoOperands_of_pair pair,
            twoOperands_of_pair otherPair, except_ok_bind, alike.source, alike.place]
      | branch => cases takes
      | _ => cases two

theorem converted_iff_accepts {suffix indent code : Text}
    (word : k.text = Text.upper (Text.cutWord code).1) :
    (Lowering.ofCode m suffix indent code).failed = false ↔ Accepts m (Text.cutWord code).2 k := by
  refine ⟨accepts_of_converted word, fun accepts => ?_⟩
  obtain ⟨i, read⟩ := read_of_admits ⟨k, word, accepts⟩
  rw [Lowering.ofCode_of_ok ((read_trim m code).trans read)]
  rfl

end Instructions

end IE32

open IE32 (Mnemonic LastOperand Tolerated WellFormed baseText)

/-- **Which operands in brackets are converted.**  The register that an instruction names besides
its last operand is never in brackets.  If the last operand starts with one, the code is converted
exactly if that operand is tolerated and the other is a register.  Once it is converted, the
operand is well-formed exactly if a bracket is its last character and its register is not the long
s; and if it is not closed, the same code with the bracket becomes the same lines. -/
theorem bracketed_operands {k : Mnemonic} {code operand : Text} {register : Option Text}
    (word : k.text = Text.upper (Text.cutWord code).1) (takes : k.takesBase = true)
    (operands : LastOperand (Text.cutWord code).2 k register operand) (suffix indent : Text) :
    let lowering := Lowering.ofCode .standard suffix indent code
    (lowering.failed = false → ∀ name, register = some name → name.head? ≠ some '[') ∧
      (operand.head? = some '[' →
        (lowering.failed = false ↔ Tolerated operand ∧
          ∀ name, register = some name → RegisterMap.standard.contains name = true) ∧
        (lowering.failed = false →
          (WellFormed operand ↔
            operand.getLast? = some ']' ∧ trim (baseText operand) ≠ "ſ") ∧
          (operand.getLast? ≠ some ']' → ∀ other : Text,
            k.text = Text.upper (Text.cutWord other).1 →
            LastOperand (Text.cutWord other).2 k register (operand ++ [']']) →
            Lowering.ofCode .standard suffix indent other = lowering))) := by
  intro lowering
  have decided : lowering.failed = false ↔ _ :=
    (IE32.converted_iff_accepts word).trans (operands.accepts_iff takes)
  refine ⟨fun converted name names first => ?_, fun bracket => ?_⟩
  · have named := (decided.mp converted).1 name names
    exact IE32.notMem_of_contains named (by decide) (List.mem_of_head? first)
  · have changeable : ∀ op, k = .step op → IE32.Changeable .standard operand :=
      fun _ _ => .inr (.inr bracket)
    have based := IE32.wellBased_iff bracket
    refine ⟨?_, fun converted => ⟨?_, fun unclosed other otherWord others => ?_⟩⟩
    · rw [decided, based]
      exact ⟨fun ⟨named, _, tolerated⟩ => ⟨tolerated, named⟩,
        fun ⟨tolerated, named⟩ => ⟨named, changeable, tolerated⟩⟩
    · exact IE32.wellFormed_iff (based.mp (decided.mp converted).2.2)
    · have alike := IE32.readAlike_closed (m := .standard) operands.trim_eq bracket unclosed
      have same := operands.ofMnemonic_eq others takes alike
      rw [← IE32.read_of_word word, ← IE32.read_of_word otherWord] at same
      obtain ⟨i, read⟩ := IE32.read_of_admits ⟨k, word, IE32.accepts_of_converted word converted⟩
      have first := Lowering.ofCode_of_ok ((IE32.read_trim _ code).trans read) suffix indent
      have second := Lowering.ofCode_of_ok
        ((IE32.read_trim _ other).trans (same.trans read)) suffix indent
      exact second.trans first.symm

theorem openSum_converted :
    let lowering := Lowering.ofCode .standard ".q" "  " "add x, [ b\t+8"
    lowering.failed = false ∧ ¬ WellFormed "[ b\t+8" ∧
      Lowering.ofCode .standard ".q" "  " "ADD x,[ b\t+8]" = lowering := by
  have operands : LastOperand (Text.cutWord "add x, [ b\t+8").2 (.binary .add) (some "x")
      "[ b\t+8" := .inr ⟨rfl, "x", rfl, by decide +kernel, by decide, by decide⟩
  have shape := (bracketed_operands (by decide) rfl operands ".q" "  ").2 (by decide)
  have converted : (Lowering.ofCode .standard ".q" "  " "add x, [ b\t+8").failed = false := by
    decide +kernel
  refine ⟨converted, fun formed => ?_, ?_⟩
  · exact absurd ((shape.2 converted).1.mp formed).1 (by decide)
  · exact (shape.2 converted).2 (by decide) "ADD x,[ b\t+8]" (by decide)
      (.inr ⟨rfl, "x", rfl, by decide +kernel, by decide, by decide⟩)

/-- An operand that is not closed, one with text behind the bracket, and one based on the long s:
none is well-formed, and all are converted. -/
theorem malformed_operands_accepted :
    let lines code := (Lowering.ofCode .standard ".l" "" code).lines
    let failed code := (Lowering.ofCode .standard ".l" "" code).failed
    (failed "LDA [B+8" = false ∧ lines "LDA [B+8" = (["load.l r1, 8(r5)"] : List Text) ∧
        ¬ WellFormed "[B+8") ∧
      (failed "LDA [B+8] x" = false ∧
        lines "LDA [B+8] x" = (["load.l r1, 8] x(r5)"] : List Text) ∧
        ¬ WellFormed "[B+8] x") ∧
      (failed "LDA [ſ]" = false ∧ lines "LDA [ſ]" = (["load.l r1, (r12)"] : List Text) ∧
        ¬ WellFormed "[ſ]") := by
  intro lines failed
  refine ⟨⟨?_, ?_, fun formed => ?_⟩, ⟨?_, ?_, fun formed => ?_⟩, ?_, ?_, fun formed => ?_⟩
  · decide +kernel
  · decide +kernel
  · exact absurd formed.getLast? (by decide)
  · decide +kernel
  · decide +kernel
  · exact absurd formed.getLast? (by decide)
  · decide +kernel
  · decide +kernel
  · exact absurd (by decide) formed.base_ne

end Retarget
