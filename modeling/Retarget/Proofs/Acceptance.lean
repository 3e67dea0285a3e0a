/-
# Retarget.Proofs.Acceptance -- which code is converted, and what is wrong with the rest

Whether an instruction is converted is decided by its mnemonic and its operand text.  `Accepts`
says what each mnemonic needs, without regard to the order in which the reader looks at it;
`Refuses` says which fault is reported where something is missing, and there the order matters:
`LDx` and `STx` look up the register they name before they count operands, all others count first,
and registers are looked up from left to right.

The reader follows both tables: it reads what is accepted (`ofMnemonic_of_accepts`), reports what is
refused (`ofMnemonic_of_refuses`), and there is nothing else (`accepts_or_refuses`).  A register map
is free in its names.  A name that begins with a mark is never found where marks are looked at
first, and an empty name is never found where an operand is counted first.
-/
import Retarget.Proofs.IE32.Faults
import Retarget.Proofs.Lowering

namespace Retarget

set_option autoImplicit false

open Text (trim)

/-! ## What a map finds depends on the trimmed text -/

section Trimmed

variable (m : RegisterMap) {s t : Text}

theorem RegisterMap.find?_congr (same : trim s = trim t) : m.find? s = m.find? t := by
  simp only [find?, same]

theorem RegisterMap.lookup_congr (same : trim s = trim t) : m.lookup s = m.lookup t := by
  simp only [lookup, m.find?_congr same, same]

theorem RegisterMap.exists_lookup (named : m.contains t = true) : ∃ r, m.lookup t = .ok r := by
  obtain ⟨r, found⟩ := Option.isSome_iff_exists.mp named
  exact ⟨r, (m.lookup_eq_ok_iff t r).mpr found⟩

theorem RegisterMap.lookup_of_unnamed (unnamed : m.contains t = false) :
    m.lookup t = .error (.unknownRegister (trim t) (some m.hint)) := by
  have missing : m.find? t = none := by simpa [contains] using unnamed
  simp [lookup, missing]

end Trimmed

namespace IE32

/-! ## Operands -/

/-- There is one operand, and it is not empty. -/
def Sole (rest operand : Text) : Prop := splitOperands rest = [operand] ∧ operand ≠ []

/-- There are two operands, and neither is empty. -/
def Pair (rest first second : Text) : Prop :=
  splitOperands rest = [first, second] ∧ first ≠ [] ∧ second ≠ []

/-- What stands for the base register in an operand that starts with a bracket: what follows the
bracket, without one closing bracket at the end, up to the first plus. -/
def baseText (operand : Text) : Text :=
  (if operand.tail.getLast? = some ']' then operand.tail.dropLast else operand.tail).takeWhile
    (· != '+')

/-- If the operand starts with a bracket, its base is a register. -/
def WellBased (m : RegisterMap) (operand : Text) : Prop :=
  operand.head? = some '[' → m.contains (baseText operand) = true

/-- The operand has no mark in front and names a register. -/
def IsRegister (m : RegisterMap) (operand : Text) : Prop :=
  operand.head? ≠ some '#' ∧ operand.head? ≠ some '@' ∧ operand.head? ≠ some '[' ∧
    m.contains operand = true

instance (m : RegisterMap) (operand : Text) : Decidable (WellBased m operand) :=
  inferInstanceAs (Decidable (_ → _))

instance (m : RegisterMap) (operand : Text) : Decidable (IsRegister m operand) :=
  inferInstanceAs (Decidable (_ ∧ _))

section Operands

variable {m : RegisterMap} {rest operand first second : Text}

theorem Sole.trim_eq (sole : Sole rest operand) : trim operand = operand := by
  rw [(splitOperands_eq_single sole.1).1, Text.trim_trim]

theorem Pair.trim_eq (pair : Pair rest first second) :
    trim first = first ∧ trim second = second := by
  obtain ⟨before, after, -, rfl, rfl⟩ := splitOperands_eq_pair pair.1
  exact ⟨Text.trim_trim before, Text.trim_trim after⟩

/-- The base that the reader looks up is the base of the operand. -/
theorem lookup_base (trimmed : trim operand = operand) (bracket : operand.head? = some '[') :
    m.lookup (Text.cutAt '+' (bracketed operand)).1 = m.lookup (baseText operand) := by
  refine m.lookup_congr ?_
  have blanks : ∀ c, Text.isBlank c = true → (c != '+') = true := by
    intro c blank
    have solid : Text.isBlank '+' = false := by decide
    rw [bne_iff_ne]
    rintro rfl
    rw [solid] at blank
    exact absurd blank (by decide)
  simp only [bracketed, trimmed, bracket, if_true, Text.cutAt_fst, baseText]
  exact Text.trim_takeWhile_trim blanks _

theorem readIndirect_of_named (trimmed : trim operand = operand)
    (bracket : operand.head? = some '[') (named : m.contains (baseText operand) = true) :
    ∃ place, Place.readIndirect m operand = .ok place := by
  obtain ⟨r, found⟩ := m.exists_lookup named
  rw [← lookup_base trimmed bracket] at found
  exact ⟨_, by simp only [Place.readIndirect, readIndexed, found]; rfl⟩

theorem readIndirect_of_unnamed (trimmed : trim operand = operand)
    (bracket : operand.head? = some '[') (unnamed : m.contains (baseText operand) = false) :
    Place.readIndirect m operand =
      .error (.unknownRegister (trim (baseText operand)) (some m.hint)) := by
  have missing := m.lookup_of_unnamed unnamed
  rw [← lookup_base trimmed bracket] at missing
  simp only [Place.readIndirect, readIndexed, missing]
  rfl

/-- What an operand is taken for where registers may stand, told by its first character. -/
theorem among_cases (trimmed : trim operand = operand) :
    (OperandKind.among m operand = .immediate ∧ operand.head? = some '#') ∨
      (OperandKind.among m operand = .direct ∧ operand.head? = some '@') ∨
      (OperandKind.among m operand = .indirect ∧ operand.head? = some '[') ∨
      (OperandKind.among m operand = .register ∧ IsRegister m operand) ∨
      (OperandKind.among m operand = .bare ∧ m.contains operand = false ∧
        operand.head? ≠ some '#' ∧ operand.head? ≠ some '@' ∧ operand.head? ≠ some '[') := by
  by_cases hash : operand.head? = some '#'
  · have kind : OperandKind.ofText operand = .immediate := by
      simp [OperandKind.ofText, trimmed, hash]
    exact .inl ⟨by simp [OperandKind.among, kind], hash⟩
  by_cases atSign : operand.head? = some '@'
  · have kind : OperandKind.ofText operand = .direct := by
      simp [OperandKind.ofText, trimmed, atSign]
    exact .inr (.inl ⟨by simp [OperandKind.among, kind], atSign⟩)
  by_cases bracket : operand.head? = some '['
  · have kind : OperandKind.ofText operand = .indirect := by
      simp [OperandKind.ofText, trimmed, bracket]
    exact .inr (.inr (.inl ⟨by simp [OperandKind.among, kind], bracket⟩))
  have kind : OperandKind.ofText operand = .bare := by
    apply OperandKind.ofText_eq_bare <;> intro rest same <;> rw [trimmed] at same <;>
      simp_all
  by_cases named : m.contains operand = true
  · exact .inr (.inr (.inr (.inl
      ⟨by simp [OperandKind.among, kind, named], hash, atSign, bracket, named⟩)))
  · exact .inr (.inr (.inr (.inr
      ⟨by simp [OperandKind.among, kind, named], by simpa using named, hash, atSign, bracket⟩)))

theorem among_of_bracket (trimmed : trim operand = operand) (bracket : operand.head? = some '[') :
    OperandKind.ofText operand = .indirect ∧ OperandKind.among m operand = .indirect := by
  have kind : OperandKind.ofText operand = .indirect := by
    simp [OperandKind.ofText, trimmed, bracket]
  exact ⟨kind, by simp [OperandKind.among, kind]⟩

theorem not_wellBased_iff : ¬ WellBased m operand ↔
    operand.head? = some '[' ∧ m.contains (baseText operand) = false := by
  simp [WellBased]

def baseFault (m : RegisterMap) (operand : Text) : Fault :=
  .unknownRegister (trim (baseText operand)) (some m.hint)

/-- A source operand is read unless its base is no register. -/
theorem Operand.exists_read (trimmed : trim operand = operand) (based : WellBased m operand) :
    ∃ source, Operand.read m operand = .ok source := by
  rcases among_cases (m := m) trimmed with
    ⟨kind, -⟩ | ⟨kind, -⟩ | ⟨kind, bracket⟩ | ⟨kind, register⟩ | ⟨kind, -⟩
  · exact ⟨.value (immediateValue operand), by simp [Operand.read, kind]⟩
  · exact ⟨.memory (.direct (withoutMarker operand)), by simp [Operand.read, kind]⟩
  · obtain ⟨place, read⟩ := readIndirect_of_named trimmed bracket (based bracket)
    exact ⟨.memory place, by simp [Operand.read, kind, read, Except.map]⟩
  · obtain ⟨r, found⟩ := m.exists_lookup register.2.2.2
    exact ⟨.register r, by simp [Operand.read, kind, found, Except.map]⟩
  · exact ⟨.value (immediateValue operand), by simp [Operand.read, kind]⟩

theorem Operand.read_of_unbased (trimmed : trim operand = operand)
    (unbased : ¬ WellBased m operand) : Operand.read m operand = .error (baseFault m operand) := by
  obtain ⟨bracket, unnamed⟩ := not_wellBased_iff.mp unbased
  have kind := (among_of_bracket (m := m) trimmed bracket).2
  have failed := readIndirect_of_unnamed trimmed bracket unnamed
  simp [Operand.read, kind, failed, Except.map, baseFault]

/-- So is the destination of a store. -/
theorem Place.exists_read (trimmed : trim operand = operand) (based : WellBased m operand) :
    ∃ place, Place.read m operand = .ok place := by
  by_cases bracket : operand.head? = some '['
  · obtain ⟨place, read⟩ := readIndirect_of_named trimmed bracket (based bracket)
    have kind := (among_of_bracket (m := m) trimmed bracket).1
    exact ⟨place, by simp [Place.read, kind, read]⟩
  · have kind : OperandKind.ofText operand ≠ .indirect := by
      intro indirect
      obtain ⟨rest, start⟩ := OperandKind.ofText_eq_indirect indirect
      rw [trimmed] at start
      exact bracket (by simp [start])
    refine ⟨.direct (withoutMarker operand), ?_⟩
    unfold Place.read
    split
    · contradiction
    · rfl

theorem Place.read_of_unbased (trimmed : trim operand = operand)
    (unbased : ¬ WellBased m operand) : Place.read m operand = .error (baseFault m operand) := by
  obtain ⟨bracket, unnamed⟩ := not_wellBased_iff.mp unbased
  have kind := (among_of_bracket (m := m) trimmed bracket).1
  have failed := readIndirect_of_unnamed trimmed bracket unnamed
  simp [Place.read, kind, failed, baseFault]

/-- `INC` and `DEC` change a register, an address, or a place with a base. -/
def Changeable (m : RegisterMap) (operand : Text) : Prop :=
  IsRegister m operand ∨ operand.head? = some '@' ∨ operand.head? = some '['

theorem Target.exists_read (op : StepOp) (trimmed : trim operand = operand)
    (changeable : Changeable m operand) (based : WellBased m operand) :
    ∃ target, Target.read m op operand = .ok target := by
  rcases among_cases (m := m) trimmed with
    ⟨kind, hash⟩ | ⟨kind, -⟩ | ⟨kind, bracket⟩ | ⟨kind, register⟩ | ⟨kind, unnamed, -, marks⟩
  · simp [Changeable, IsRegister, hash] at changeable
  · exact ⟨.memory (.direct (withoutMarker operand)), by simp [Target.read, kind]⟩
  · obtain ⟨place, read⟩ := readIndirect_of_named trimmed bracket (based bracket)
    exact ⟨.memory place, by simp [Target.read, kind, read, Except.map]⟩
  · obtain ⟨r, found⟩ := m.exists_lookup register.2.2.2
    exact ⟨.register r, by simp [Target.read, kind, found, Except.map]⟩
  · simp [Changeable, IsRegister, marks, unnamed] at changeable

theorem Target.read_of_unbased (op : StepOp) (trimmed : trim operand = operand)
    (unbased : ¬ WellBased m operand) :
    Target.read m op operand = .error (baseFault m operand) := by
  obtain ⟨bracket, unnamed⟩ := not_wellBased_iff.mp unbased
  have kind := (among_of_bracket (m := m) trimmed bracket).2
  have failed := readIndirect_of_unnamed trimmed bracket unnamed
  simp [Target.read, kind, failed, Except.map, baseFault]

theorem Target.read_of_fixed (op : StepOp) (trimmed : trim operand = operand)
    (fixed : ¬ Changeable m operand) :
    Target.read m op operand = .error
      (.unsupportedOperand op.source (OperandKind.among m operand).describe none) := by
  rcases among_cases (m := m) trimmed with
    ⟨kind, -⟩ | ⟨kind, atSign⟩ | ⟨kind, bracket⟩ | ⟨kind, register⟩ | ⟨kind, -⟩
  · simp [Target.read, kind]
  · exact absurd (.inr (.inl atSign)) fixed
  · exact absurd (.inr (.inr bracket)) fixed
  · exact absurd (.inl register) fixed
  · simp [Target.read, kind]

/-- A delay is a value: neither a register nor a place in memory. -/
theorem exists_readDelay (trimmed : trim operand = operand) (value : ¬ Changeable m operand) :
    ∃ delay, readDelay m operand = .ok delay := by
  rcases among_cases (m := m) trimmed with
    ⟨kind, -⟩ | ⟨kind, atSign⟩ | ⟨kind, bracket⟩ | ⟨kind, register⟩ | ⟨kind, -⟩
  · exact ⟨immediateValue operand, by simp [readDelay, kind]⟩
  · exact absurd (.inr (.inl atSign)) value
  · exact absurd (.inr (.inr bracket)) value
  · exact absurd (.inl register) value
  · exact ⟨immediateValue operand, by simp [readDelay, kind]⟩

theorem readDelay_of_changeable (trimmed : trim operand = operand)
    (changeable : Changeable m operand) :
    readDelay m operand = .error (.unsupportedOperand Mnemonic.wait.text
      (OperandKind.among m operand).describe
      (some "IE64 wait only accepts immediate operand")) := by
  rcases among_cases (m := m) trimmed with
    ⟨kind, hash⟩ | ⟨kind, -⟩ | ⟨kind, -⟩ | ⟨kind, -⟩ | ⟨kind, unnamed, -, marks⟩
  · simp [Changeable, IsRegister, hash] at changeable
  · simp [readDelay, kind]
  · simp [readDelay, kind]
  · simp [readDelay, kind]
  · simp [Changeable, IsRegister, marks, unnamed] at changeable

end Operands

/-! ## The two tables -/

def Accepts (m : RegisterMap) (rest : Text) : Mnemonic → Prop
  | .control _ => True
  | .stack _ | .complement => rest ≠ [] ∧ m.contains rest = true
  | .jump _ => rest ≠ []
  | .branch _ => ∃ first target, Pair rest first target ∧ m.contains first = true
  | .load | .store | .binary _ =>
      ∃ first second, Pair rest first second ∧ m.contains first = true ∧ WellBased m second
  | .loadNamed letter | .storeNamed letter =>
      m.contains [letter] = true ∧ ∃ operand, Sole rest operand ∧ WellBased m operand
  | .step _ => ∃ operand, Sole rest operand ∧ Changeable m operand ∧ WellBased m operand
  | .wait => ∃ operand, Sole rest operand ∧ ¬ Changeable m operand

namespace Mnemonic

/-- All the text behind the mnemonic is its operand. -/
def takesText : Mnemonic → Bool
  | .stack _ | .jump _ | .complement => true
  | _ => false

/-- The operand is a register and nothing else. -/
def takesRegister : Mnemonic → Bool
  | .stack _ | .complement => true
  | _ => false

def takesOne : Mnemonic → Bool
  | .loadNamed _ | .storeNamed _ | .step _ | .wait => true
  | _ => false

/-- There are two operands, of which the first is a register. -/
def takesTwo : Mnemonic → Bool
  | .branch _ | .load | .store | .binary _ => true
  | _ => false

/-- The last operand may have a base. -/
def takesBase : Mnemonic → Bool
  | .loadNamed _ | .storeNamed _ | .load | .store | .binary _ | .step _ => true
  | _ => false

/-- The register that the mnemonic names itself. -/
def letter? : Mnemonic → Option Char
  | .loadNamed letter | .storeNamed letter => some letter
  | _ => none

end Mnemonic

/-- What is reported about an instruction that cannot be converted. -/
inductive Refuses (m : RegisterMap) (rest : Text) (k : Mnemonic) : Fault → Prop
  /-- Nothing stands behind the mnemonic. -/
  | missing (takes : k.takesText = true) (empty : rest = []) :
      Refuses m rest k (.operandCount k.text 1)
  /-- What stands behind it is no register. -/
  | unnamed (takes : k.takesRegister = true) (some_text : rest ≠ [])
      (unnamed : m.contains rest = false) :
      Refuses m rest k (.unknownRegister (trim rest) (some m.hint))
  /-- The mnemonic names no register. -/
  | letter {letter : Char} (takes : k.letter? = some letter)
      (unnamed : m.contains [letter] = false) :
      Refuses m rest k (.unknownRegister (trim [letter]) (some m.hint))
  /-- There is not exactly one operand. -/
  | notOne (takes : k.takesOne = true)
      (named : ∀ letter, k.letter? = some letter → m.contains [letter] = true)
      (count : ∀ operand, ¬ Sole rest operand) : Refuses m rest k (.operandCount k.text 1)
  /-- There are not exactly two operands. -/
  | notTwo (takes : k.takesTwo = true) (count : ∀ first second, ¬ Pair rest first second) :
      Refuses m rest k (.operandCount k.text 2)
  /-- The first operand is no register. -/
  | first {first second : Text} (takes : k.takesTwo = true) (pair : Pair rest first second)
      (unnamed : m.contains first = false) :
      Refuses m rest k (.unknownRegister (trim first) (some m.hint))
  /-- The base of the second operand is no register. -/
  | secondBase {first second : Text} (takes : k.takesTwo = true) (based : k.takesBase = true)
      (pair : Pair rest first second) (named : m.contains first = true)
      (unbased : ¬ WellBased m second) : Refuses m rest k (baseFault m second)
  /-- The base of the only operand is no register. -/
  | soleBase {operand : Text} (takes : k.takesOne = true) (based : k.takesBase = true)
      (named : ∀ letter, k.letter? = some letter → m.contains [letter] = true)
      (sole : Sole rest operand) (unbased : ¬ WellBased m operand) :
      Refuses m rest k (baseFault m operand)
  /-- What should be changed by one is a value. -/
  | fixed {op : StepOp} {operand : Text} (takes : k = .step op) (sole : Sole rest operand)
      (fixed : ¬ Changeable m operand) :
      Refuses m rest k
        (.unsupportedOperand op.source (OperandKind.among m operand).describe none)
  /-- The delay is not a value. -/
  | delay {operand : Text} (takes : k = .wait) (sole : Sole rest operand)
      (changeable : Changeable m operand) :
      Refuses m rest k (.unsupportedOperand Mnemonic.wait.text
        (OperandKind.among m operand).describe (some "IE64 wait only accepts immediate operand"))

/-! ## The reader follows them -/

section Reader

variable {m : RegisterMap} {k : Mnemonic} {rest : Text}

theorem oneOperand_of_sole {operand : Text} (sole : Sole rest operand) :
    oneOperand k rest = .ok operand :=
  (oneOperand_eq_ok_iff k rest operand).mpr sole.1

theorem oneOperand_of_not_sole (count : ∀ operand, ¬ Sole rest operand) :
    oneOperand k rest = .error (.operandCount k.text 1) := by
  unfold oneOperand
  split
  · rename_i operand split
    exact absurd ⟨split, (splitOperands_eq_single split).2.1⟩ (count operand)
  · rfl

theorem twoOperands_of_pair {first second : Text} (pair : Pair rest first second) :
    twoOperands k rest = .ok (first, second) :=
  (twoOperands_eq_ok_iff k rest first second).mpr pair

theorem twoOperands_of_not_pair (count : ∀ first second, ¬ Pair rest first second) :
    twoOperands k rest = .error (.operandCount k.text 2) := by
  unfold twoOperands
  split
  · rename_i first second split
    have missing : (first.isEmpty || second.isEmpty) = true := by
      by_contra both
      simp only [Bool.or_eq_true, List.isEmpty_iff, not_or] at both
      exact count first second ⟨split, both.1, both.2⟩
    rw [if_pos missing]
  · rfl

theorem someText_of_ne_nil (some_text : rest ≠ []) : someText k rest = .ok rest :=
  (someText_eq_ok_iff k rest rest).mpr ⟨some_text, rfl⟩

theorem someText_of_nil : someText k [] = .error (.operandCount k.text 1) := rfl

/-- What is accepted is read. -/
theorem ofMnemonic_of_accepts (accepts : Accepts m rest k) :
    ∃ i, Instruction.ofMnemonic m k rest = .ok i := by
  suffices reads : ∃ i, Reads m k rest i by
    obtain ⟨i, reads⟩ := reads
    exact ⟨i, (ofMnemonic_eq_ok_iff m k rest i).mpr reads⟩
  cases k with
  | control op => exact ⟨_, .control op rest⟩
  | jump op => exact ⟨_, .jump op accepts⟩
  | stack op =>
      obtain ⟨r, found⟩ := Option.isSome_iff_exists.mp accepts.2
      exact ⟨_, .stack op accepts.1 found⟩
  | complement =>
      obtain ⟨r, found⟩ := Option.isSome_iff_exists.mp accepts.2
      exact ⟨_, .complement accepts.1 found⟩
  | branch condition =>
      obtain ⟨first, target, ⟨split, some_first, some_target⟩, named⟩ := accepts
      obtain ⟨r, found⟩ := Option.isSome_iff_exists.mp named
      exact ⟨_, .branch condition split some_first some_target found⟩
  | load =>
      obtain ⟨first, second, pair, named, based⟩ := accepts
      obtain ⟨r, found⟩ := Option.isSome_iff_exists.mp named
      obtain ⟨source, read⟩ := Operand.exists_read pair.trim_eq.2 based
      exact ⟨_, .load pair.1 pair.2.1 pair.2.2 found read⟩
  | store =>
      obtain ⟨first, second, pair, named, based⟩ := accepts
      obtain ⟨r, found⟩ := Option.isSome_iff_exists.mp named
      obtain ⟨place, read⟩ := Place.exists_read pair.trim_eq.2 based
      exact ⟨_, .store pair.1 pair.2.1 pair.2.2 found read⟩
  | binary op =>
      obtain ⟨first, second, pair, named, based⟩ := accepts
      obtain ⟨r, found⟩ := Option.isSome_iff_exists.mp named
      obtain ⟨source, read⟩ := Operand.exists_read pair.trim_eq.2 based
      exact ⟨_, .binary op pair.1 pair.2.1 pair.2.2 found read⟩
  | loadNamed letter =>
      obtain ⟨named, operand, sole, based⟩ := accepts
      obtain ⟨r, found⟩ := Option.isSome_iff_exists.mp named
      obtain ⟨source, read⟩ := Operand.exists_read sole.trim_eq based
      exact ⟨_, .loadNamed letter found sole.1 read⟩
  | storeNamed letter =>
      obtain ⟨named, operand, sole, based⟩ := accepts
      obtain ⟨r, found⟩ := Option.isSome_iff_exists.mp named
      obtain ⟨place, read⟩ := Place.exists_read sole.trim_eq based
      exact ⟨_, .storeNamed letter found sole.1 read⟩
  | step op =>
      obtain ⟨operand, sole, changeable, based⟩ := accepts
      obtain ⟨target, read⟩ := Target.exists_read op sole.trim_eq changeable based
      exact ⟨_, .step op sole.1 read⟩
  | wait =>
      obtain ⟨operand, sole, value⟩ := accepts
      obtain ⟨delay, read⟩ := exists_readDelay sole.trim_eq value
      exact ⟨_, .wait sole.1 read⟩

/-- What is refused is reported. -/
theorem ofMnemonic_of_refuses {fault : Fault} (refuses : Refuses m rest k fault) :
    Instruction.ofMnemonic m k rest = .error fault := by
  -- A row is about a group of mnemonics; the others are excluded by what it says they take.
  cases refuses with
  | missing takes empty =>
      subst empty
      cases k with
      | stack | jump | complement =>
          simp only [Instruction.ofMnemonic, someText_of_nil, except_error_bind]
      | _ => cases takes
  | unnamed takes some_text unnamed =>
      have missing := m.lookup_of_unnamed unnamed
      cases k with
      | stack | complement =>
          simp only [Instruction.ofMnemonic, someText_of_ne_nil some_text, missing, except_ok_bind,
            except_error_bind]
      | _ => cases takes
  | letter takes unnamed =>
      have missing := m.lookup_of_unnamed unnamed
      cases k with
      | loadNamed | storeNamed =>
          cases takes
          simp only [Instruction.ofMnemonic, missing, except_error_bind]
      | _ => cases takes
  | notOne takes named count =>
      have missing := fun k => oneOperand_of_not_sole (k := k) count
      cases k with
      | loadNamed letter | storeNamed letter =>
          obtain ⟨r, found⟩ := m.exists_lookup (named letter rfl)
          simp only [Instruction.ofMnemonic, found, missing, except_ok_bind, except_error_bind]
      | step | wait => simp only [Instruction.ofMnemonic, missing, except_error_bind]
      | _ => cases takes
  | notTwo takes count =>
      have missing := fun k => twoOperands_of_not_pair (k := k) count
      cases k with
      | branch | load | store | binary =>
          simp only [Instruction.ofMnemonic, missing, except_error_bind]
      | _ => cases takes
  | first takes pair unnamed =>
      have missing := m.lookup_of_unnamed unnamed
      cases k with
      | branch | load | store | binary =>
          simp only [Instruction.ofMnemonic, twoOperands_of_pair pair, missing, except_ok_bind,
            except_error_bind]
      | _ => cases takes
  | secondBase takes based pair named unbased =>
      obtain ⟨r, found⟩ := m.exists_lookup named
      cases k with
      | load | binary =>
          simp only [Instruction.ofMnemonic, twoOperands_of_pair pair, found,
            Operand.read_of_unbased pair.trim_eq.2 unbased, except_ok_bind, except_error_bind]
      | store =>
          simp only [Instruction.ofMnemonic, twoOperands_of_pair pair, found,
            Place.read_of_unbased pair.trim_eq.2 unbased, except_ok_bind, except_error_bind]
      | branch => cases based
      | _ => cases takes
  | soleBase takes based named sole unbased =>
      cases k with
      | loadNamed letter =>
          obtain ⟨r, found⟩ := m.exists_lookup (named letter rfl)
          simp only [Instruction.ofMnemonic, found, oneOperand_of_sole sole,
            Operand.read_of_unbased sole.trim_eq unbased, except_ok_bind, except_error_bind]
      | storeNamed letter =>
          obtain ⟨r, found⟩ := m.exists_lookup (named letter rfl)
          simp only [Instruction.ofMnemonic, found, oneOperand_of_sole sole,
            Place.read_of_unbased sole.trim_eq unbased, except_ok_bind, except_error_bind]
      | step op =>
          simp only [Instruction.ofMnemonic, oneOperand_of_sole sole,
            Target.read_of_unbased op sole.trim_eq unbased, except_ok_bind, except_error_bind]
      | wait => cases based
      | _ => cases takes
  | fixed takes sole fixed =>
      subst takes
      simp only [Instruction.ofMnemonic, oneOperand_of_sole sole,
        Target.read_of_fixed _ sole.trim_eq fixed, except_ok_bind, except_error_bind]
  | delay takes sole changeable =>
      subst takes
      simp only [Instruction.ofMnemonic, oneOperand_of_sole sole,
        readDelay_of_changeable sole.trim_eq changeable, except_ok_bind, except_error_bind]

theorem accepts_or_refuses_two (two : k.takesTwo = true) :
    Accepts m rest k ∨ ∃ fault, Refuses m rest k fault := by
  by_cases count : ∃ first second, Pair rest first second
  · obtain ⟨first, second, pair⟩ := count
    cases named : m.contains first with
    | false => exact .inr ⟨_, .first two pair named⟩
    | true =>
        cases k with
        | branch => exact .inl ⟨first, second, pair, named⟩
        | load | store | binary =>
            by_cases based : WellBased m second
            · exact .inl ⟨first, second, pair, named, based⟩
            · exact .inr ⟨_, .secondBase two rfl pair named based⟩
        | _ => cases two
  · simp only [not_exists] at count
    exact .inr ⟨_, .notTwo two count⟩

theorem accepts_or_refuses_register (takes : k.takesRegister = true) :
    Accepts m rest k ∨ ∃ fault, Refuses m rest k fault := by
  have text : k.takesText = true := by
    cases k with
    | stack | complement => rfl
    | _ => cases takes
  by_cases empty : rest = []
  · exact .inr ⟨_, .missing text empty⟩
  cases named : m.contains rest with
  | false => exact .inr ⟨_, .unnamed takes empty named⟩
  | true =>
      left
      cases k with
      | stack | complement => exact ⟨empty, named⟩
      | _ => cases takes

theorem accepts_or_refuses_letter {letter : Char} (takes : k.letter? = some letter) :
    Accepts m rest k ∨ ∃ fault, Refuses m rest k fault := by
  have one : k.takesOne = true ∧ k.takesBase = true := by
    cases k with
    | loadNamed | storeNamed => exact ⟨rfl, rfl⟩
    | _ => cases takes
  cases named : m.contains [letter] with
  | false => exact .inr ⟨_, .letter takes named⟩
  | true =>
      have known : ∀ other, k.letter? = some other → m.contains [other] = true := by
        intro other same
        rw [takes] at same
        cases same
        exact named
      by_cases count : ∃ operand, Sole rest operand
      · obtain ⟨operand, sole⟩ := count
        by_cases based : WellBased m operand
        · left
          cases k with
          | loadNamed | storeNamed =>
              cases takes
              exact ⟨named, operand, sole, based⟩
          | _ => cases takes
        · exact .inr ⟨_, .soleBase one.1 one.2 known sole based⟩
      · exact .inr ⟨_, .notOne one.1 known (not_exists.mp count)⟩

/-- There is nothing between the tables. -/
theorem accepts_or_refuses (m : RegisterMap) (rest : Text) (k : Mnemonic) :
    Accepts m rest k ∨ ∃ fault, Refuses m rest k fault := by
  have unlettered : k.letter? = none →
      ∀ letter, k.letter? = some letter → m.contains [letter] = true := by
    intro none letter some
    rw [none] at some
    exact absurd some (by simp)
  cases k with
  | control => exact .inl trivial
  | stack | complement => exact accepts_or_refuses_register rfl
  | jump =>
      by_cases empty : rest = []
      · exact .inr ⟨_, .missing rfl empty⟩
      · exact .inl empty
  | branch | load | store | binary => exact accepts_or_refuses_two rfl
  | loadNamed | storeNamed => exact accepts_or_refuses_letter rfl
  | step op =>
      by_cases count : ∃ operand, Sole rest operand
      · obtain ⟨operand, sole⟩ := count
        by_cases changeable : Changeable m operand
        · by_cases based : WellBased m operand
          · exact .inl ⟨operand, sole, changeable, based⟩
          · exact .inr ⟨_, .soleBase rfl rfl (unlettered rfl) sole based⟩
        · exact .inr ⟨_, .fixed rfl sole changeable⟩
      · exact .inr ⟨_, .notOne rfl (unlettered rfl) (not_exists.mp count)⟩
  | wait =>
      by_cases count : ∃ operand, Sole rest operand
      · obtain ⟨operand, sole⟩ := count
        by_cases changeable : Changeable m operand
        · exact .inr ⟨_, .delay rfl sole changeable⟩
        · exact .inl ⟨operand, sole, changeable⟩
      · exact .inr ⟨_, .notOne rfl (unlettered rfl) (not_exists.mp count)⟩

end Reader

/-! ## Code -/

theorem ofWord?_text (k : Mnemonic) : Mnemonic.ofWord? k.text = some k := by
  cases k with
  | loadNamed | storeNamed | load | store | complement | wait => rfl
  | control op | stack op | jump op | branch op | binary op | step op => cases op <;> rfl

theorem ofWord?_eq_some_iff {word : Text} {k : Mnemonic} :
    Mnemonic.ofWord? word = some k ↔ k.text = word := by
  constructor
  · exact text_of_ofWord?
  · rintro rfl
    exact ofWord?_text k

theorem ofWord?_eq_none_iff {word : Text} :
    Mnemonic.ofWord? word = none ↔ ∀ k : Mnemonic, k.text ≠ word := by
  simp only [Option.eq_none_iff_forall_ne_some, ne_eq, ofWord?_eq_some_iff]

/-- The code starts with a mnemonic, and that mnemonic accepts the rest. -/
def Admits (m : RegisterMap) (code : Text) : Prop :=
  ∃ k : Mnemonic, k.text = Text.upper (Text.cutWord code).1 ∧ Accepts m (Text.cutWord code).2 k

/-- What is wrong with code: its first word is no mnemonic, or the mnemonic refuses the rest. -/
inductive Condemns (m : RegisterMap) (code : Text) : Fault → Prop
  | word (unknown : ∀ k : Mnemonic, k.text ≠ Text.upper (Text.cutWord code).1) :
      Condemns m code (.unknownMnemonic (Text.upper (Text.cutWord code).1))
  | operands {k : Mnemonic} {fault : Fault} (word : k.text = Text.upper (Text.cutWord code).1)
      (refused : Refuses m (Text.cutWord code).2 k fault) : Condemns m code fault

section Code

variable {m : RegisterMap} {code : Text}

theorem read_trim (m : RegisterMap) (code : Text) :
    Instruction.read m (trim code) = Instruction.read m code := by
  simp only [Instruction.read, Text.cutWord_trim]

theorem read_of_word {k : Mnemonic} (word : k.text = Text.upper (Text.cutWord code).1) :
    Instruction.read m code = Instruction.ofMnemonic m k (Text.cutWord code).2 := by
  simp [Instruction.read, ofWord?_eq_some_iff.mpr word]

theorem read_of_admits (admits : Admits m code) : ∃ i, Instruction.read m code = .ok i := by
  obtain ⟨k, word, accepts⟩ := admits
  rw [read_of_word word]
  exact ofMnemonic_of_accepts accepts

theorem read_of_condemns {fault : Fault} (condemns : Condemns m code fault) :
    Instruction.read m code = .error fault := by
  cases condemns with
  | word unknown => simp [Instruction.read, ofWord?_eq_none_iff.mpr unknown]
  | operands word refused =>
      rw [read_of_word word]
      exact ofMnemonic_of_refuses refused

theorem admits_or_condemns (m : RegisterMap) (code : Text) :
    Admits m code ∨ ∃ fault, Condemns m code fault := by
  cases found : Mnemonic.ofWord? (Text.upper (Text.cutWord code).1) with
  | none => exact .inr ⟨_, .word (ofWord?_eq_none_iff.mp found)⟩
  | some k =>
      have word := ofWord?_eq_some_iff.mp found
      rcases accepts_or_refuses m (Text.cutWord code).2 k with accepts | ⟨fault, refuses⟩
      · exact .inl ⟨k, word, accepts⟩
      · exact .inr ⟨fault, .operands word refuses⟩

theorem read_eq_ok_iff_admits : (∃ i, Instruction.read m code = .ok i) ↔ Admits m code := by
  refine ⟨?_, read_of_admits⟩
  rintro ⟨i, read⟩
  rcases admits_or_condemns m code with admits | ⟨fault, condemns⟩
  · exact admits
  · rw [read_of_condemns condemns] at read
    contradiction

theorem read_eq_error_iff {fault : Fault} :
    Instruction.read m code = .error fault ↔ Condemns m code fault := by
  refine ⟨?_, read_of_condemns⟩
  intro failed
  rcases admits_or_condemns m code with admits | ⟨other, condemns⟩
  · obtain ⟨i, read⟩ := read_of_admits admits
    rw [failed] at read
    contradiction
  · rw [read_of_condemns condemns] at failed
    cases failed
    exact condemns

end Code

end IE32

open IE32 (Admits Condemns)

/-- **Whether code is converted, and what is said if it is not.**  Code is converted if and only if
it is admitted.  Then there is no error, and the lines are the renderings of a program that is not
empty.  Otherwise there is a fault; the fault is the one that the code is condemned for, and the
lines are the two that say so, with no line of a conversion among them. -/
theorem lowering_decided (m : RegisterMap) (suffix indent code : Text) :
    let lowering := Lowering.ofCode m suffix indent code
    (lowering.failed = false ↔ Admits m code) ∧
      (lowering.failed = false → lowering.error = none ∧
        ∃ program : List IE64.Instruction, program ≠ [] ∧
          lowering.lines = program.map (indent ++ ·.render suffix)) ∧
      (lowering.failed = true ↔ ∃ fault, Condemns m code fault) ∧
      ∀ fault, Condemns m code fault ↔
        lowering =
          { lines := [indent ++ "; ERROR: " ++ fault.message, indent ++ "; " ++ trim code]
            error := some { fault, source := some (trim code) } } := by
  intro lowering
  cases read : IE32.Instruction.read m code with
  | ok i =>
      have lowered : lowering = { lines := i.lower.map (indent ++ ·.render suffix) } :=
        Lowering.ofCode_of_ok ((IE32.read_trim m code).trans read) suffix indent
      have admits : Admits m code := IE32.read_eq_ok_iff_admits.mp ⟨i, read⟩
      have spared : ∀ fault, ¬ Condemns m code fault := by
        intro fault condemns
        rw [IE32.read_of_condemns condemns] at read
        contradiction
      rw [lowered]
      refine ⟨iff_of_true rfl admits, fun _ => ⟨rfl, i.lower, IE32.lower_ne_nil i, rfl⟩, ?_, ?_⟩
      · simp [Lowering.failed, spared]
      · intro fault
        refine iff_of_false (spared fault) ?_
        simp
  | error fault =>
      have lowered : lowering =
          { lines := Lowering.annotation indent fault (trim code)
            error := some { fault, source := some (trim code) } } :=
        Lowering.ofCode_of_error ((IE32.read_trim m code).trans read) suffix indent
      have condemns : Condemns m code fault := IE32.read_eq_error_iff.mp read
      have barred : ¬ Admits m code := by
        intro admits
        obtain ⟨i, readable⟩ := IE32.read_of_admits admits
        rw [read] at readable
        contradiction
      rw [lowered]
      refine ⟨iff_of_false (by simp [Lowering.failed]) barred, by simp [Lowering.failed],
        iff_of_true rfl ⟨fault, condemns⟩, ?_⟩
      intro other
      constructor
      · intro also
        have agree : fault = other := by
          rw [IE32.read_of_condemns also] at read
          exact (Except.error.inj read).symm
        rw [agree]
        rfl
      · intro reported
        injection reported with _ errors
        injection errors with diagnostic
        injection diagnostic with agree
        rw [← agree]
        exact condemns

/-- Naming a register is not enough.  Where the map has an empty name, a `PUSH` with nothing behind
it names that register and still lacks its operand. -/
theorem empty_name_refused :
    let m := RegisterMap.ofList [("", "r1")]
    let lowering := Lowering.ofCode m ".l" "" "PUSH"
    IE32.Mnemonic.text (.stack .push) = Text.upper (Text.cutWord "PUSH").1 ∧
      m.contains (Text.cutWord "PUSH").2 = true ∧
      lowering.failed = true ∧
      lowering.error = some { fault := .operandCount "PUSH" 1, source := some "PUSH" } := by
  decide +kernel

end Retarget
