/-
# Retarget.Proofs.IE32.Reading -- what a reader that succeeds has read

`Reads m k rest i` says that the mnemonic `k` with the operand text `rest` is the instruction
`i`, one case a group of mnemonics, each with the checks that the reading makes.  It is the
whole of `Instruction.ofMnemonic` where that succeeds (`ofMnemonic_eq_ok_iff`), so later proofs
go by cases on `Reads` and never open the reader again.

An instruction that was read names registers of the map only (`Reads.lists`).  The text that it
carries over, an address, an offset, a value or a jump target, is an excerpt of the operand text
(`Reads.excerpt`): around it there is nothing but blanks, the marks `#`, `@`, `[`, `]`, `+` and
`,`, and register names.
-/
import Retarget.IE32.Instruction
import Retarget.Proofs.Fallible
import Retarget.Proofs.Registers
import Retarget.Proofs.Text.Cutting
import Retarget.Proofs.Text.Excerpt

namespace Retarget

set_option autoImplicit false

theorem RegisterMap.lookup_eq_ok_iff (m : RegisterMap) (t : Text) (r : Register) :
    m.lookup t = .ok r ↔ m.find? t = some r := by
  unfold RegisterMap.lookup
  cases m.find? t <;> simp

namespace IE32

open Text (trim Excerpt)

/-! ## Counting operands -/

theorem cutAtComma_eq_some {depth : Int} {t first second : Text}
    (cut : cutAtComma depth t = some (first, second)) : t = first ++ ',' :: second := by
  induction t generalizing depth first with
  | nil => simp [cutAtComma] at cut
  | cons c rest ih =>
      rw [cutAtComma] at cut
      split at cut
      · rename_i here
        simp only [Option.some.injEq, Prod.mk.injEq] at cut
        obtain ⟨rfl, rfl⟩ := cut
        simp [here.1]
      · obtain ⟨⟨before, after⟩, cutRest, same⟩ := Option.map_eq_some_iff.mp cut
        simp only [Prod.mk.injEq] at same
        obtain ⟨rfl, rfl⟩ := same
        rw [ih cutRest]
        simp

theorem splitOperands_eq_single {t operand : Text} (split : splitOperands t = [operand]) :
    operand = trim t ∧ operand ≠ [] ∧ cutAtComma 0 operand = none := by
  simp only [splitOperands] at split
  split at split
  · simp at split
  · rename_i some_text
    split at split
    · simp at split
    · rename_i uncut
      simp only [List.cons.injEq, and_true] at split
      subst split
      exact ⟨rfl, by simpa using some_text, uncut⟩

theorem splitOperands_eq_pair {t first second : Text}
    (split : splitOperands t = [first, second]) :
    ∃ before after, trim t = before ++ ',' :: after ∧ first = trim before ∧
      second = trim after := by
  simp only [splitOperands] at split
  split at split
  · simp at split
  · split at split
    · rename_i before after cut
      simp only [List.cons.injEq, and_true] at split
      exact ⟨before, after, cutAtComma_eq_some cut, split.1.symm, split.2.symm⟩
    · simp at split

@[simp] theorem text_loadNamed (letter : Char) :
    (Mnemonic.loadNamed letter).text = ['L', 'D', letter] := rfl

@[simp] theorem text_storeNamed (letter : Char) :
    (Mnemonic.storeNamed letter).text = ['S', 'T', letter] := rfl

theorem someText_eq_ok_iff (k : Mnemonic) (rest t : Text) :
    someText k rest = .ok t ↔ rest ≠ [] ∧ t = rest := by
  unfold someText
  cases rest <;> simp [eq_comm]

theorem oneOperand_eq_ok_iff (k : Mnemonic) (rest operand : Text) :
    oneOperand k rest = .ok operand ↔ splitOperands rest = [operand] := by
  unfold oneOperand
  split
  · rename_i found split
    have some_text : found ≠ [] := (splitOperands_eq_single split).2.1
    simp [some_text, split]
  · rename_i other
    constructor
    · simp
    · intro single
      exact absurd single (other operand)

theorem twoOperands_eq_ok_iff (k : Mnemonic) (rest first second : Text) :
    twoOperands k rest = .ok (first, second) ↔
      splitOperands rest = [first, second] ∧ first ≠ [] ∧ second ≠ [] := by
  unfold twoOperands
  split
  · rename_i a b split
    by_cases some_texts : a ≠ [] ∧ b ≠ []
    · simp only [split]
      simp only [List.isEmpty_eq_false_iff.mpr some_texts.1,
        List.isEmpty_eq_false_iff.mpr some_texts.2]
      grind
    · have missing : (a.isEmpty || b.isEmpty) = true := by
        simp only [Bool.or_eq_true, List.isEmpty_iff]
        tauto
      simp only [missing, if_true, split]
      grind
  · rename_i other
    constructor
    · simp
    · rintro ⟨pair, -, -⟩
      exact absurd pair (other first second)

/-! ## Reading an operand -/

/-- A text without a mark in front is bare. -/
theorem OperandKind.ofText_eq_bare {t : Text} (noHash : ∀ rest, trim t ≠ '#' :: rest)
    (noAt : ∀ rest, trim t ≠ '@' :: rest) (noBracket : ∀ rest, trim t ≠ '[' :: rest) :
    OperandKind.ofText t = .bare := by
  unfold OperandKind.ofText
  split
  · rename_i hash
    obtain ⟨rest, same⟩ := List.head?_eq_some_iff.mp hash
    exact absurd same (noHash rest)
  · rename_i atSign
    obtain ⟨rest, same⟩ := List.head?_eq_some_iff.mp atSign
    exact absurd same (noAt rest)
  · rename_i bracket
    obtain ⟨rest, same⟩ := List.head?_eq_some_iff.mp bracket
    exact absurd same (noBracket rest)
  · rfl

/-- Where registers may stand, every other kind is still the one that the mark shows. -/
theorem OperandKind.ofText_of_among {m : RegisterMap} {t : Text} {kind : OperandKind}
    (among : OperandKind.among m t = kind) (other : kind ≠ .register) :
    OperandKind.ofText t = kind := by
  unfold OperandKind.among at among
  split at among
  · exact absurd among.symm other
  · exact among

theorem OperandKind.ofText_eq_direct {t : Text} (kind : OperandKind.ofText t = .direct) :
    ∃ rest, trim t = '@' :: rest := by
  unfold OperandKind.ofText at kind
  split at kind
  · simp at kind
  · rename_i atSign
    exact List.head?_eq_some_iff.mp atSign
  · simp at kind
  · simp at kind

theorem OperandKind.ofText_eq_indirect {t : Text} (kind : OperandKind.ofText t = .indirect) :
    ∃ rest, trim t = '[' :: rest := by
  unfold OperandKind.ofText at kind
  split at kind
  · simp at kind
  · simp at kind
  · rename_i bracket
    exact List.head?_eq_some_iff.mp bracket
  · simp at kind

theorem withoutMarker_of_unmarked {t : Text} (noHash : ∀ rest, trim t ≠ '#' :: rest)
    (noAt : ∀ rest, trim t ≠ '@' :: rest) : withoutMarker t = trim t := by
  unfold withoutMarker
  split
  · rename_i rest same
    exact absurd same (noHash rest)
  · rename_i rest same
    exact absurd same (noAt rest)
  · rfl

theorem immediateValue_of_unmarked {t : Text} (noHash : ∀ rest, trim t ≠ '#' :: rest) :
    immediateValue t = trim t := by
  unfold immediateValue
  split
  · rename_i rest same
    exact absurd same (noHash rest)
  · rfl

theorem readIndexed_eq_ok_iff (m : RegisterMap) (t : Text) (base : Register) (offset : Text) :
    readIndexed m t = .ok (base, offset) ↔
      m.find? (Text.cutAt '+' (bracketed t)).1 = some base ∧
        offset = trim ((Text.cutAt '+' (bracketed t)).2.getD []) := by
  simp only [readIndexed, except_map_eq_ok_iff, RegisterMap.lookup_eq_ok_iff, Prod.mk.injEq]
  constructor
  · rintro ⟨r, found, rfl, rfl⟩
    exact ⟨found, rfl⟩
  · rintro ⟨found, rfl⟩
    exact ⟨base, found, rfl, rfl⟩

theorem Place.readIndirect_eq_ok_iff (m : RegisterMap) (t : Text) (place : Place) :
    Place.readIndirect m t = .ok place ↔
      ∃ base offset, readIndexed m t = .ok (base, offset) ∧ place = .indexed base offset := by
  simp only [Place.readIndirect, except_map_eq_ok_iff]
  constructor
  · rintro ⟨⟨base, offset⟩, found, rfl⟩
    exact ⟨base, offset, found, rfl⟩
  · rintro ⟨base, offset, found, rfl⟩
    exact ⟨(base, offset), found, rfl⟩

/-- What a place in memory is read from: a bracketed text, or any other. -/
theorem Place.read_eq_ok {m : RegisterMap} {t : Text} {place : Place}
    (read : Place.read m t = .ok place) :
    (OperandKind.ofText t = .indirect ∧
        ∃ base offset, readIndexed m t = .ok (base, offset) ∧ place = .indexed base offset) ∨
      (OperandKind.ofText t ≠ .indirect ∧ place = .direct (withoutMarker t)) := by
  unfold Place.read at read
  split at read
  · rename_i kind
    exact .inl ⟨kind, (Place.readIndirect_eq_ok_iff m t place).mp read⟩
  · rename_i kind
    simp only [Except.ok.injEq] at read
    exact .inr ⟨kind, read.symm⟩

/-- What a source operand is read from, kind by kind. -/
theorem Operand.read_eq_ok {m : RegisterMap} {t : Text} {operand : Operand}
    (read : Operand.read m t = .ok operand) :
    ((OperandKind.among m t = .immediate ∨ OperandKind.among m t = .bare) ∧
        operand = .value (immediateValue t)) ∨
      (∃ r, OperandKind.among m t = .register ∧ m.find? t = some r ∧ operand = .register r) ∨
      (OperandKind.among m t = .direct ∧ operand = .memory (.direct (withoutMarker t))) ∨
      (∃ base offset, OperandKind.among m t = .indirect ∧
        readIndexed m t = .ok (base, offset) ∧ operand = .memory (.indexed base offset)) := by
  unfold Operand.read at read
  cases kind : OperandKind.among m t with
  | immediate =>
      simp only [kind, Except.ok.injEq] at read
      exact .inl ⟨.inl rfl, read.symm⟩
  | bare =>
      simp only [kind, Except.ok.injEq] at read
      exact .inl ⟨.inr rfl, read.symm⟩
  | register =>
      simp only [kind, except_map_eq_ok_iff, RegisterMap.lookup_eq_ok_iff] at read
      obtain ⟨r, found, rfl⟩ := read
      exact .inr (.inl ⟨r, rfl, found, rfl⟩)
  | direct =>
      simp only [kind, Except.ok.injEq] at read
      exact .inr (.inr (.inl ⟨rfl, read.symm⟩))
  | indirect =>
      simp only [kind, except_map_eq_ok_iff, Place.readIndirect_eq_ok_iff] at read
      obtain ⟨_, ⟨base, offset, found, rfl⟩, rfl⟩ := read
      exact .inr (.inr (.inr ⟨base, offset, rfl, found, rfl⟩))

/-- What is changed by one is a register, an address, or a bracketed text. -/
theorem Target.read_eq_ok {m : RegisterMap} {op : StepOp} {t : Text} {target : Target}
    (read : Target.read m op t = .ok target) :
    (∃ r, OperandKind.among m t = .register ∧ m.find? t = some r ∧ target = .register r) ∨
      (OperandKind.among m t = .direct ∧ target = .memory (.direct (withoutMarker t))) ∨
      (∃ base offset, OperandKind.among m t = .indirect ∧
        readIndexed m t = .ok (base, offset) ∧ target = .memory (.indexed base offset)) := by
  unfold Target.read at read
  cases kind : OperandKind.among m t with
  | immediate => simp [kind] at read
  | bare => simp [kind] at read
  | register =>
      simp only [kind, except_map_eq_ok_iff, RegisterMap.lookup_eq_ok_iff] at read
      obtain ⟨r, found, rfl⟩ := read
      exact .inl ⟨r, rfl, found, rfl⟩
  | direct =>
      simp only [kind, Except.ok.injEq] at read
      exact .inr (.inl ⟨rfl, read.symm⟩)
  | indirect =>
      simp only [kind, except_map_eq_ok_iff, Place.readIndirect_eq_ok_iff] at read
      obtain ⟨_, ⟨base, offset, found, rfl⟩, rfl⟩ := read
      exact .inr (.inr ⟨base, offset, rfl, found, rfl⟩)

theorem readDelay_eq_ok {m : RegisterMap} {t delay : Text} (read : readDelay m t = .ok delay) :
    (OperandKind.among m t = .immediate ∨ OperandKind.among m t = .bare) ∧
      delay = immediateValue t := by
  unfold readDelay at read
  cases kind : OperandKind.among m t <;> simp_all

/-! ## Reading an instruction -/

/-- The mnemonic with this operand text is this instruction. -/
inductive Reads (m : RegisterMap) : Mnemonic → Text → Instruction → Prop
  | control (op : Control) (rest : Text) : Reads m (.control op) rest (.control op)
  | stack (op : StackOp) {rest : Text} {r : Register} (some_text : rest ≠ [])
      (found : m.find? rest = some r) : Reads m (.stack op) rest (.stack op r)
  | jump (op : Jump) {rest : Text} (some_text : rest ≠ []) :
      Reads m (.jump op) rest (.jump op rest)
  | branch (condition : Condition) {rest first target : Text} {r : Register}
      (split : splitOperands rest = [first, target]) (some_first : first ≠ [])
      (some_target : target ≠ []) (found : m.find? first = some r) :
      Reads m (.branch condition) rest (.branch condition r target)
  | loadNamed (letter : Char) {rest operand : Text} {dest : Register} {source : Operand}
      (found : m.find? [letter] = some dest) (split : splitOperands rest = [operand])
      (read : Operand.read m operand = .ok source) :
      Reads m (.loadNamed letter) rest (.load dest source)
  | storeNamed (letter : Char) {rest operand : Text} {source : Register} {dest : Place}
      (found : m.find? [letter] = some source) (split : splitOperands rest = [operand])
      (read : Place.read m operand = .ok dest) :
      Reads m (.storeNamed letter) rest (.store source dest)
  | load {rest first second : Text} {dest : Register} {source : Operand}
      (split : splitOperands rest = [first, second]) (some_first : first ≠ [])
      (some_second : second ≠ []) (found : m.find? first = some dest)
      (read : Operand.read m second = .ok source) : Reads m .load rest (.load dest source)
  | store {rest first second : Text} {source : Register} {dest : Place}
      (split : splitOperands rest = [first, second]) (some_first : first ≠ [])
      (some_second : second ≠ []) (found : m.find? first = some source)
      (read : Place.read m second = .ok dest) : Reads m .store rest (.store source dest)
  | binary (op : BinaryOp) {rest first second : Text} {dest : Register} {source : Operand}
      (split : splitOperands rest = [first, second]) (some_first : first ≠ [])
      (some_second : second ≠ []) (found : m.find? first = some dest)
      (read : Operand.read m second = .ok source) :
      Reads m (.binary op) rest (.binary op dest source)
  | complement {rest : Text} {r : Register} (some_text : rest ≠ [])
      (found : m.find? rest = some r) : Reads m .complement rest (.complement r)
  | step (op : StepOp) {rest operand : Text} {target : Target}
      (split : splitOperands rest = [operand]) (read : Target.read m op operand = .ok target) :
      Reads m (.step op) rest (.step op target)
  | wait {rest operand delay : Text} (split : splitOperands rest = [operand])
      (read : readDelay m operand = .ok delay) : Reads m .wait rest (.wait delay)

theorem ofMnemonic_eq_ok_iff (m : RegisterMap) (k : Mnemonic) (rest : Text) (i : Instruction) :
    Instruction.ofMnemonic m k rest = .ok i ↔ Reads m k rest i := by
  cases k <;>
    simp only [Instruction.ofMnemonic, except_bind_eq_ok_iff, except_pure_eq_ok_iff,
      someText_eq_ok_iff, oneOperand_eq_ok_iff, twoOperands_eq_ok_iff, Prod.exists,
      RegisterMap.lookup_eq_ok_iff, Except.ok.injEq] <;>
    constructor
  case control.mp op => rintro rfl; exact .control op rest
  case control.mpr op => rintro ⟨⟩; rfl
  case stack.mp op => rintro ⟨_, ⟨some_text, rfl⟩, r, found, rfl⟩; exact .stack op some_text found
  case stack.mpr op =>
    intro reads
    cases reads with
    | stack _ some_text found => exact ⟨rest, ⟨some_text, rfl⟩, _, found, rfl⟩
  case jump.mp op => rintro ⟨_, ⟨some_text, rfl⟩, rfl⟩; exact .jump op some_text
  case jump.mpr op =>
    intro reads
    cases reads with
    | jump _ some_text => exact ⟨rest, ⟨some_text, rfl⟩, rfl⟩
  case branch.mp condition =>
    rintro ⟨first, target, ⟨split, some_first, some_target⟩, r, found, rfl⟩
    exact .branch condition split some_first some_target found
  case branch.mpr condition =>
    intro reads
    cases reads with
    | branch _ split some_first some_target found =>
        exact ⟨_, _, ⟨split, some_first, some_target⟩, _, found, rfl⟩
  case loadNamed.mp letter =>
    rintro ⟨dest, found, operand, split, source, read, rfl⟩
    exact .loadNamed letter found split read
  case loadNamed.mpr letter =>
    intro reads
    cases reads with
    | loadNamed _ found split read => exact ⟨_, found, _, split, _, read, rfl⟩
  case storeNamed.mp letter =>
    rintro ⟨source, found, operand, split, dest, read, rfl⟩
    exact .storeNamed letter found split read
  case storeNamed.mpr letter =>
    intro reads
    cases reads with
    | storeNamed _ found split read => exact ⟨_, found, _, split, _, read, rfl⟩
  case load.mp =>
    rintro ⟨first, second, ⟨split, some_first, some_second⟩, dest, found, source, read, rfl⟩
    exact .load split some_first some_second found read
  case load.mpr =>
    intro reads
    cases reads with
    | load split some_first some_second found read =>
        exact ⟨_, _, ⟨split, some_first, some_second⟩, _, found, _, read, rfl⟩
  case store.mp =>
    rintro ⟨first, second, ⟨split, some_first, some_second⟩, source, found, dest, read, rfl⟩
    exact .store split some_first some_second found read
  case store.mpr =>
    intro reads
    cases reads with
    | store split some_first some_second found read =>
        exact ⟨_, _, ⟨split, some_first, some_second⟩, _, found, _, read, rfl⟩
  case binary.mp op =>
    rintro ⟨first, second, ⟨split, some_first, some_second⟩, dest, found, source, read, rfl⟩
    exact .binary op split some_first some_second found read
  case binary.mpr op =>
    intro reads
    cases reads with
    | binary _ split some_first some_second found read =>
        exact ⟨_, _, ⟨split, some_first, some_second⟩, _, found, _, read, rfl⟩
  case complement.mp =>
    rintro ⟨_, ⟨some_text, rfl⟩, r, found, rfl⟩
    exact .complement some_text found
  case complement.mpr =>
    intro reads
    cases reads with
    | complement some_text found => exact ⟨rest, ⟨some_text, rfl⟩, _, found, rfl⟩
  case step.mp op => rintro ⟨operand, split, target, read, rfl⟩; exact .step op split read
  case step.mpr op =>
    intro reads
    cases reads with
    | step _ split read => exact ⟨_, split, _, read, rfl⟩
  case wait.mp => rintro ⟨operand, split, delay, read, rfl⟩; exact .wait split read
  case wait.mpr =>
    intro reads
    cases reads with
    | wait split read => exact ⟨_, split, _, read, rfl⟩

theorem Mnemonic.ofWord?_cases {word : Text} {k : Mnemonic}
    (found : Mnemonic.ofWord? word = some k) :
    (∃ letter, k = .loadNamed letter) ∨ (∃ letter, k = .storeNamed letter) ∨
      k ∈ Mnemonic.spelled := by
  unfold Mnemonic.ofWord? at found
  split at found
  · exact .inl ⟨_, (Option.some.inj found).symm⟩
  · exact .inr (.inl ⟨_, (Option.some.inj found).symm⟩)
  · exact .inr (.inr (List.mem_of_find?_eq_some found))

theorem text_of_ofWord? {word : Text} {k : Mnemonic} (found : Mnemonic.ofWord? word = some k) :
    k.text = word := by
  unfold Mnemonic.ofWord? at found
  split at found
  · cases found
    rfl
  · cases found
    rfl
  · have same := List.find?_some found
    simpa using same

/-- **Code is an instruction if its first word is a mnemonic and what follows reads.** -/
theorem read_eq_ok_iff (m : RegisterMap) (code : Text) (i : Instruction) :
    Instruction.read m code = .ok i ↔
      ∃ k, Mnemonic.ofWord? (Text.upper (Text.cutWord code).1) = some k ∧
        Reads m k (Text.cutWord code).2 i := by
  unfold Instruction.read
  cases word : Mnemonic.ofWord? (Text.upper (Text.cutWord code).1) with
  | none => simp [word]
  | some k => simp [word, ofMnemonic_eq_ok_iff]

/-! ## The registers that are named -/

@[simp] def Place.registers : Place → List Register
  | .direct _ => []
  | .indexed base _ => [base]

@[simp] def Operand.registers : Operand → List Register
  | .value _ => []
  | .register r => [r]
  | .memory place => place.registers

@[simp] def Instruction.registers : Instruction → List Register
  | .control _ => []
  | .stack _ r => [r]
  | .jump _ _ => []
  | .branch _ r _ => [r]
  | .load dest source => dest :: source.registers
  | .store source dest => source :: dest.registers
  | .binary _ dest source => dest :: source.registers
  | .complement r => [r]
  | .step _ (.register r) => [r]
  | .step _ (.memory place) => place.registers
  | .wait _ => []

theorem lists_of_readIndexed {m : RegisterMap} {t : Text} {base : Register} {offset : Text}
    (read : readIndexed m t = .ok (base, offset)) : m.Lists base :=
  RegisterMap.lists_of_find? ((readIndexed_eq_ok_iff m t base offset).mp read).1

theorem Place.lists {m : RegisterMap} {t : Text} {place : Place}
    (read : Place.read m t = .ok place) : ∀ r ∈ place.registers, m.Lists r := by
  rcases Place.read_eq_ok read with ⟨-, base, offset, indexed, rfl⟩ | ⟨-, rfl⟩
  · simpa [Place.registers] using lists_of_readIndexed indexed
  · simp [Place.registers]

theorem Operand.lists {m : RegisterMap} {t : Text} {operand : Operand}
    (read : Operand.read m t = .ok operand) : ∀ r ∈ operand.registers, m.Lists r := by
  rcases Operand.read_eq_ok read with
    ⟨-, rfl⟩ | ⟨r, -, found, rfl⟩ | ⟨-, rfl⟩ | ⟨base, offset, -, indexed, rfl⟩
  · simp [Operand.registers]
  · simpa [Operand.registers] using RegisterMap.lists_of_find? found
  · simp [Operand.registers, Place.registers]
  · simpa [Operand.registers, Place.registers] using lists_of_readIndexed indexed

/-- An instruction names registers of the map it was read with. -/
theorem Reads.lists {m : RegisterMap} {k : Mnemonic} {rest : Text} {i : Instruction}
    (reads : Reads m k rest i) : ∀ r ∈ i.registers, m.Lists r := by
  intro r member
  cases reads with
  | control op => simp [Instruction.registers] at member
  | stack op some_text found =>
      rw [List.mem_singleton.mp member]
      exact RegisterMap.lists_of_find? found
  | jump op some_text => simp [Instruction.registers] at member
  | branch condition split some_first some_target found =>
      rw [List.mem_singleton.mp member]
      exact RegisterMap.lists_of_find? found
  | loadNamed letter found split read =>
      rcases List.mem_cons.mp member with rfl | inSource
      · exact RegisterMap.lists_of_find? found
      · exact Operand.lists read r inSource
  | storeNamed letter found split read =>
      rcases List.mem_cons.mp member with rfl | inDest
      · exact RegisterMap.lists_of_find? found
      · exact Place.lists read r inDest
  | load split some_first some_second found read =>
      rcases List.mem_cons.mp member with rfl | inSource
      · exact RegisterMap.lists_of_find? found
      · exact Operand.lists read r inSource
  | store split some_first some_second found read =>
      rcases List.mem_cons.mp member with rfl | inDest
      · exact RegisterMap.lists_of_find? found
      · exact Place.lists read r inDest
  | binary op split some_first some_second found read =>
      rcases List.mem_cons.mp member with rfl | inSource
      · exact RegisterMap.lists_of_find? found
      · exact Operand.lists read r inSource
  | complement some_text found =>
      rw [List.mem_singleton.mp member]
      exact RegisterMap.lists_of_find? found
  | step op split read =>
      rcases Target.read_eq_ok read with
        ⟨q, -, found, rfl⟩ | ⟨-, rfl⟩ | ⟨base, offset, -, indexed, rfl⟩
      · rw [List.mem_singleton.mp member]
        exact RegisterMap.lists_of_find? found
      · simp [Instruction.registers, Place.registers] at member
      · rw [List.mem_singleton.mp member]
        exact lists_of_readIndexed indexed
  | wait split read => simp [Instruction.registers] at member

/-! ## The texts that are carried over -/

@[simp] def Place.texts : Place → List Text
  | .direct address => [address]
  | .indexed _ offset => [offset]

@[simp] def Operand.texts : Operand → List Text
  | .value text => [text]
  | .register _ => []
  | .memory place => place.texts

/-- The texts that an instruction takes over from the source. -/
@[simp] def Instruction.texts : Instruction → List Text
  | .control _ => []
  | .stack _ _ => []
  | .jump _ target => [target]
  | .branch _ _ target => [target]
  | .load _ source => source.texts
  | .store _ dest => dest.texts
  | .binary _ _ source => source.texts
  | .complement _ => []
  | .step _ (.register _) => []
  | .step _ (.memory place) => place.texts
  | .wait delay => [delay]

/-- Blanks, the marks of the operand grammar and the letters of register names satisfy `P`. -/
structure Harmless (m : RegisterMap) (P : Char → Prop) : Prop where
  blank : ∀ c, Text.isBlank c = true → P c
  mark : ∀ c ∈ ['#', '@', '[', ']', '+', ','], P c
  name : ∀ t r, m.find? t = some r → ∀ c ∈ t, P c

section Carried

variable {m : RegisterMap} {P : Char → Prop}

theorem excerpt_withoutMarker (harmless : Harmless m P) (t : Text) :
    Excerpt P (withoutMarker t) t := by
  have trimmed := Excerpt.trim harmless.blank t
  unfold withoutMarker
  split
  · rename_i rest same
    rw [same] at trimmed
    exact ((Excerpt.trim harmless.blank rest).trans
      (.tail (harmless.mark '#' (by decide)) rest)).trans trimmed
  · rename_i rest same
    rw [same] at trimmed
    exact ((Excerpt.trim harmless.blank rest).trans
      (.tail (harmless.mark '@' (by decide)) rest)).trans trimmed
  · exact trimmed

theorem excerpt_immediateValue (harmless : Harmless m P) (t : Text) :
    Excerpt P (immediateValue t) t := by
  have trimmed := Excerpt.trim harmless.blank t
  unfold immediateValue
  split
  · rename_i rest same
    rw [same] at trimmed
    exact (Excerpt.tail (harmless.mark '#' (by decide)) rest).trans trimmed
  · exact trimmed

theorem excerpt_bracketed (harmless : Harmless m P) (t : Text) :
    Excerpt P (bracketed t) t := by
  have opened : ∀ s : Text, Excerpt P (if s.head? = some '[' then s.tail else s) s := by
    intro s
    split
    · rename_i bracket
      obtain ⟨rest, rfl⟩ : ∃ rest, s = '[' :: rest := List.head?_eq_some_iff.mp bracket
      exact .tail (harmless.mark '[' (by decide)) rest
    · exact .refl s
  have closed : ∀ s : Text, Excerpt P (if s.getLast? = some ']' then s.dropLast else s) s := by
    intro s
    split
    · rename_i bracket
      obtain ⟨rest, rfl⟩ := List.getLast?_eq_some_iff.mp bracket
      refine ⟨[], [']'], by simp, ?_, by simp⟩
      intro c member
      rw [List.mem_singleton.mp member]
      exact harmless.mark ']' (by decide)
    · exact .refl s
  exact (((Excerpt.trim harmless.blank _).trans (closed _)).trans (opened _)).trans
    (Excerpt.trim harmless.blank t)

theorem excerpt_offset (harmless : Harmless m P) {t : Text} {base : Register} {offset : Text}
    (read : readIndexed m t = .ok (base, offset)) : Excerpt P offset t := by
  obtain ⟨found, rfl⟩ := (readIndexed_eq_ok_iff m t base offset).mp read
  refine Excerpt.trans ?_ (excerpt_bracketed harmless t)
  have split := Text.cutAt_eq '+' (bracketed t)
  have name := harmless.name _ _ found
  cases behind : (Text.cutAt '+' (bracketed t)).2 with
  | none =>
      rw [behind] at split
      exact ⟨bracketed t, [], split ▸ (by simpa using name), by simp, by simp⟩
  | some rest =>
      rw [behind] at split
      refine (Excerpt.trim harmless.blank rest).trans
        ⟨(Text.cutAt '+' (bracketed t)).1 ++ ['+'], [], ?_, by simp, by simpa using split⟩
      intro c member
      rcases List.mem_append.mp member with inName | plus
      · exact name c inName
      · rw [List.mem_singleton.mp plus]
        exact harmless.mark '+' (by decide)

theorem excerpt_second (harmless : Harmless m P) {rest first second : Text} {r : Register}
    (split : splitOperands rest = [first, second]) (found : m.find? first = some r) :
    Excerpt P second rest := by
  obtain ⟨before, after, same, rfl, rfl⟩ := splitOperands_eq_pair split
  obtain ⟨left, right, blankLeft, blankRight, around⟩ := Text.exists_trim before
  have outer := Excerpt.trim harmless.blank rest
  rw [same] at outer
  refine ((Excerpt.trim harmless.blank after).trans
    ⟨before ++ [','], [], ?_, by simp, by simp⟩).trans outer
  intro c member
  rw [around] at member
  simp only [List.mem_append, List.mem_singleton] at member
  rcases member with ((inLeft | inName) | inRight) | rfl
  · exact harmless.blank c (blankLeft c inLeft)
  · exact harmless.name _ r found c inName
  · exact harmless.blank c (blankRight c inRight)
  · exact harmless.mark ',' (by decide)

theorem excerpt_single (harmless : Harmless m P) {rest operand : Text}
    (split : splitOperands rest = [operand]) : Excerpt P operand rest := by
  rw [(splitOperands_eq_single split).1]
  exact Excerpt.trim harmless.blank rest

theorem Place.excerpt (harmless : Harmless m P) {t : Text} {place : Place}
    (read : Place.read m t = .ok place) : ∀ text ∈ place.texts, Excerpt P text t := by
  rcases Place.read_eq_ok read with ⟨-, base, offset, indexed, rfl⟩ | ⟨-, rfl⟩
  · simpa [Place.texts] using excerpt_offset harmless indexed
  · simpa [Place.texts] using excerpt_withoutMarker harmless t

theorem Operand.excerpt (harmless : Harmless m P) {t : Text} {operand : Operand}
    (read : Operand.read m t = .ok operand) : ∀ text ∈ operand.texts, Excerpt P text t := by
  rcases Operand.read_eq_ok read with
    ⟨-, rfl⟩ | ⟨r, -, -, rfl⟩ | ⟨-, rfl⟩ | ⟨base, offset, -, indexed, rfl⟩
  · simpa [Operand.texts] using excerpt_immediateValue harmless t
  · simp [Operand.texts]
  · simpa [Operand.texts, Place.texts] using excerpt_withoutMarker harmless t
  · simpa [Operand.texts, Place.texts] using excerpt_offset harmless indexed

/-- Every text that an instruction carries over stands in its operand text, and only blanks,
marks and register names stand around it. -/
theorem Reads.excerpt (harmless : Harmless m P) {k : Mnemonic} {rest : Text} {i : Instruction}
    (reads : Reads m k rest i) : ∀ text ∈ i.texts, Excerpt P text rest := by
  intro text member
  cases reads with
  | control op => simp [Instruction.texts] at member
  | stack op some_text found => simp [Instruction.texts] at member
  | jump op some_text =>
      rw [List.mem_singleton.mp member]
      exact .refl rest
  | branch condition split some_first some_target found =>
      rw [List.mem_singleton.mp member]
      exact excerpt_second harmless split found
  | loadNamed letter found split read =>
      exact (Operand.excerpt harmless read text member).trans (excerpt_single harmless split)
  | storeNamed letter found split read =>
      exact (Place.excerpt harmless read text member).trans (excerpt_single harmless split)
  | load split some_first some_second found read =>
      exact (Operand.excerpt harmless read text member).trans (excerpt_second harmless split found)
  | store split some_first some_second found read =>
      exact (Place.excerpt harmless read text member).trans (excerpt_second harmless split found)
  | binary op split some_first some_second found read =>
      exact (Operand.excerpt harmless read text member).trans (excerpt_second harmless split found)
  | complement some_text found => simp [Instruction.texts] at member
  | step op split read =>
      refine Excerpt.trans ?_ (excerpt_single harmless split)
      rcases Target.read_eq_ok read with
        ⟨r, -, -, rfl⟩ | ⟨-, rfl⟩ | ⟨base, offset, -, indexed, rfl⟩
      · simp [Instruction.texts] at member
      · rw [List.mem_singleton.mp member]
        exact excerpt_withoutMarker harmless _
      · rw [List.mem_singleton.mp member]
        exact excerpt_offset harmless indexed
  | wait split read =>
      rw [List.mem_singleton.mp member, (readDelay_eq_ok read).2]
      exact (excerpt_immediateValue harmless _).trans (excerpt_single harmless split)

end Carried

end IE32

end Retarget
