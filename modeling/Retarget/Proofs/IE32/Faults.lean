/-
# Retarget.Proofs.IE32.Faults -- what a reader that fails has found

`Blames k rest fault` lists the faults that an instruction with the mnemonic `k` and the operand
text `rest` can have.  Every fault that reading finds is one of them (`blames_of_error`), so what
its message says comes from the mnemonic, from the operand text, or from a fixed wording.
-/
import Retarget.Proofs.IE32.Reading

namespace Retarget

set_option autoImplicit false

namespace IE32

open Text (trim)

theorem harmless_true (m : RegisterMap) : Harmless m (fun _ => True) where
  blank _ _ := trivial
  mark _ _ := trivial
  name _ _ _ _ _ := trivial

/-- The fault is that a part of the text names no register. -/
def NamesNone (t : Text) (fault : Fault) : Prop :=
  ∃ name hint, name ⊆ t ∧ fault = .unknownRegister name hint

section Operands

variable {m : RegisterMap} {t : Text} {fault : Fault}

theorem NamesNone.mono {s : Text} (inner : t ⊆ s) (blamed : NamesNone t fault) :
    NamesNone s fault := by
  obtain ⟨name, hint, part, rfl⟩ := blamed
  exact ⟨name, hint, fun c member => inner (part member), rfl⟩

theorem lookup_eq_error (failed : m.lookup t = .error fault) : NamesNone t fault := by
  unfold RegisterMap.lookup at failed
  split at failed
  · simp at failed
  · cases failed
    exact ⟨trim t, some m.hint, Text.trim_subset t, rfl⟩

theorem readIndirect_eq_error (failed : Place.readIndirect m t = .error fault) :
    NamesNone t fault := by
  simp only [Place.readIndirect, readIndexed, except_map_eq_error_iff] at failed
  refine (lookup_eq_error failed).mono fun c member => ?_
  have inside : c ∈ bracketed t := by
    rw [Text.cutAt_eq '+' (bracketed t)]
    exact List.mem_append_left _ member
  exact (excerpt_bracketed (harmless_true m) t).subset inside

theorem Place.read_eq_error (failed : Place.read m t = .error fault) : NamesNone t fault := by
  unfold Place.read at failed
  split at failed
  · exact readIndirect_eq_error failed
  · simp at failed

theorem Operand.read_eq_error (failed : Operand.read m t = .error fault) : NamesNone t fault := by
  unfold Operand.read at failed
  split at failed
  · simp at failed
  · simp at failed
  · exact lookup_eq_error ((except_map_eq_error_iff _ _ _).mp failed)
  · simp at failed
  · exact readIndirect_eq_error ((except_map_eq_error_iff _ _ _).mp failed)

theorem Target.read_eq_error {op : StepOp} (failed : Target.read m op t = .error fault) :
    NamesNone t fault ∨ ∃ kind : OperandKind,
      fault = .unsupportedOperand op.source kind.describe none := by
  unfold Target.read at failed
  split at failed
  · exact .inl (lookup_eq_error ((except_map_eq_error_iff _ _ _).mp failed))
  · simp at failed
  · exact .inl (readIndirect_eq_error ((except_map_eq_error_iff _ _ _).mp failed))
  · cases failed
    exact .inr ⟨_, rfl⟩

theorem readDelay_eq_error (failed : readDelay m t = .error fault) :
    ∃ kind : OperandKind, fault = .unsupportedOperand Mnemonic.wait.text kind.describe
      (some "IE64 wait only accepts immediate operand") := by
  unfold readDelay at failed
  split at failed
  · simp at failed
  · simp at failed
  · cases failed
    exact ⟨_, rfl⟩

end Operands

/-! ## Instructions -/

/-- The faults of an instruction with this mnemonic and operand text. -/
inductive Blames (k : Mnemonic) (rest : Text) : Fault → Prop
  | name {fault : Fault} (blamed : NamesNone k.text fault ∨ NamesNone rest fault) :
      Blames k rest fault
  | count {expected : Int} (few : expected = 1 ∨ expected = 2) :
      Blames k rest (.operandCount k.text expected)
  | kind (kind : OperandKind) {reason : Option Text}
      (known : reason = none ∨ reason = some "IE64 wait only accepts immediate operand") :
      Blames k rest (.unsupportedOperand k.text kind.describe reason)

section Instructions

variable {m : RegisterMap} {k : Mnemonic} {rest : Text} {fault : Fault}

theorem someText_eq_error (failed : someText k rest = .error fault) : Blames k rest fault := by
  unfold someText at failed
  split at failed
  · cases failed
    exact .count (.inl rfl)
  · simp at failed

theorem oneOperand_eq_error (failed : oneOperand k rest = .error fault) : Blames k rest fault := by
  have counted : fault = .operandCount k.text 1 := by
    unfold oneOperand at failed
    split at failed
    · split at failed
      · exact (Except.error.inj failed).symm
      · simp at failed
    · exact (Except.error.inj failed).symm
  rw [counted]
  exact .count (.inl rfl)

theorem twoOperands_eq_error (failed : twoOperands k rest = .error fault) :
    Blames k rest fault := by
  have counted : fault = .operandCount k.text 2 := by
    unfold twoOperands at failed
    split at failed
    · split at failed
      · exact (Except.error.inj failed).symm
      · simp at failed
    · exact (Except.error.inj failed).symm
  rw [counted]
  exact .count (.inr rfl)

theorem subset_of_single {operand : Text} (split : splitOperands rest = [operand]) :
    operand ⊆ rest := by
  rw [(splitOperands_eq_single split).1]
  exact Text.trim_subset rest

theorem subset_of_pair {first second : Text} (split : splitOperands rest = [first, second]) :
    first ⊆ rest ∧ second ⊆ rest := by
  obtain ⟨before, after, same, rfl, rfl⟩ := splitOperands_eq_pair split
  have inside : before ++ ',' :: after ⊆ rest := same ▸ Text.trim_subset rest
  constructor
  · intro c member
    exact inside (List.mem_append_left _ (Text.trim_subset before member))
  · intro c member
    exact inside (List.mem_append_right _ (List.mem_cons_of_mem _ (Text.trim_subset after member)))

/-- Two operands of which the first is a register: what can go wrong with them. -/
theorem blames_of_pair {α β : Type} {f : Register → α → β} (read : Text → Except Fault α)
    (blamed : ∀ t, read t = .error fault → NamesNone t fault)
    (failed : (do
      let (first, second) ← twoOperands k rest
      let r ← m.lookup first
      return f r (← read second)) = .error fault) : Blames k rest fault := by
  simp only [except_bind_eq_error_iff, except_pure_ne_error, Prod.exists, and_false, exists_false,
    or_false] at failed
  rcases failed with missing | ⟨first, second, found, unknown | ⟨r, -, unread⟩⟩
  · exact twoOperands_eq_error missing
  · have parts := subset_of_pair ((twoOperands_eq_ok_iff k rest first second).mp found).1
    exact .name (.inr ((lookup_eq_error unknown).mono parts.1))
  · have parts := subset_of_pair ((twoOperands_eq_ok_iff k rest first second).mp found).1
    exact .name (.inr ((blamed second unread).mono parts.2))

/-- A register that is the whole operand text. -/
theorem blames_of_register {β : Type} {f : Register → β}
    (failed : (do
      let t ← someText k rest
      let r ← m.lookup t
      return f r) = .error fault) : Blames k rest fault := by
  simp only [except_bind_eq_error_iff, except_pure_ne_error, and_false, exists_false,
    or_false] at failed
  rcases failed with missing | ⟨t, found, unknown⟩
  · exact someText_eq_error missing
  · obtain ⟨-, rfl⟩ := (someText_eq_ok_iff k rest t).mp found
    exact .name (.inr (lookup_eq_error unknown))

/-- A register that the mnemonic names, and one operand. -/
theorem blames_of_named {α β : Type} {f : Register → α → β} {letter : Char}
    (read : Text → Except Fault α) (named : [letter] ⊆ k.text)
    (blamed : ∀ t, read t = .error fault → NamesNone t fault)
    (failed : (do
      let r ← m.lookup [letter]
      let operand ← oneOperand k rest
      return f r (← read operand)) = .error fault) : Blames k rest fault := by
  simp only [except_bind_eq_error_iff, except_pure_ne_error, and_false, exists_false,
    or_false] at failed
  rcases failed with unknown | ⟨r, -, missing | ⟨operand, found, unread⟩⟩
  · exact .name (.inl ((lookup_eq_error unknown).mono named))
  · exact oneOperand_eq_error missing
  · have part := subset_of_single ((oneOperand_eq_ok_iff k rest operand).mp found)
    exact .name (.inr ((blamed operand unread).mono part))

/-- **Every fault that reading finds is one of the faults of the instruction.** -/
theorem blames_of_error (failed : Instruction.ofMnemonic m k rest = .error fault) :
    Blames k rest fault := by
  cases k with
  | control op => simp [Instruction.ofMnemonic] at failed
  | stack op => exact blames_of_register failed
  | complement => exact blames_of_register failed
  | jump op =>
      simp only [Instruction.ofMnemonic, except_bind_eq_error_iff, except_pure_ne_error, and_false,
        exists_false, or_false] at failed
      exact someText_eq_error failed
  | branch condition => exact blames_of_pair (fun t => .ok t) (by simp) failed
  | loadNamed letter =>
      exact blames_of_named (Operand.read m) (by simp)
        (fun _ => Operand.read_eq_error) failed
  | storeNamed letter =>
      exact blames_of_named (Place.read m) (by simp)
        (fun _ => Place.read_eq_error) failed
  | load => exact blames_of_pair (Operand.read m) (fun _ => Operand.read_eq_error) failed
  | store => exact blames_of_pair (Place.read m) (fun _ => Place.read_eq_error) failed
  | binary op => exact blames_of_pair (Operand.read m) (fun _ => Operand.read_eq_error) failed
  | step op =>
      simp only [Instruction.ofMnemonic, except_bind_eq_error_iff, except_pure_ne_error, and_false,
        exists_false, or_false] at failed
      rcases failed with missing | ⟨operand, found, unread⟩
      · exact oneOperand_eq_error missing
      · have part := subset_of_single ((oneOperand_eq_ok_iff _ rest operand).mp found)
        rcases Target.read_eq_error unread with blamed | ⟨kind, rfl⟩
        · exact .name (.inr (blamed.mono part))
        · exact .kind kind (.inl rfl)
  | wait =>
      simp only [Instruction.ofMnemonic, except_bind_eq_error_iff, except_pure_ne_error, and_false,
        exists_false, or_false] at failed
      rcases failed with missing | ⟨operand, found, unread⟩
      · exact oneOperand_eq_error missing
      · obtain ⟨kind, rfl⟩ := readDelay_eq_error unread
        exact .kind kind (.inr rfl)

/-- What code that cannot be read is blamed for: its first word is no mnemonic, or the
instruction has a fault. -/
theorem read_eq_error {code : Text} (failed : Instruction.read m code = .error fault) :
    fault = .unknownMnemonic (Text.upper (Text.cutWord code).1) ∨
      ∃ k : Mnemonic, k.text = Text.upper (Text.cutWord code).1 ∧
        Blames k (Text.cutWord code).2 fault := by
  unfold Instruction.read at failed
  cases word : Mnemonic.ofWord? (Text.upper (Text.cutWord code).1) with
  | none =>
      simp only [word, Except.error.injEq] at failed
      exact .inl failed.symm
  | some k =>
      simp only [word] at failed
      exact .inr ⟨k, text_of_ofWord? word, blames_of_error failed⟩

/-! ## Messages -/

theorem NamesNone.newline_notMem {t : Text} (blamed : NamesNone t fault) (clean : '\n' ∉ t) :
    '\n' ∉ fault.message := by
  obtain ⟨name, hint, part, rfl⟩ := blamed
  have cleanName : '\n' ∉ name := fun member => clean (part member)
  unfold Fault.message
  simp [cleanName]

theorem Blames.newline_notMem (blames : Blames k rest fault) (cleanWord : '\n' ∉ k.text)
    (cleanRest : '\n' ∉ rest) : '\n' ∉ fault.message := by
  cases blames with
  | name blamed =>
      rcases blamed with inWord | inRest
      · exact inWord.newline_notMem cleanWord
      · exact inRest.newline_notMem cleanRest
  | count few =>
      have digits : '\n' ∉ Text.ofInt 1 ∧ '\n' ∉ Text.ofInt 2 := by decide
      unfold Fault.message
      rcases few with rfl | rfl <;> simp [cleanWord, digits]
  | kind kind known =>
      have wording : '\n' ∉ kind.describe := by cases kind <;> decide
      unfold Fault.message
      rcases known with rfl | rfl <;>
        simp [Fault.given, Option.filter, cleanWord, wording]

/-- The message about code on one line is on one line. -/
theorem newline_notMem_message {code : Text} (failed : Instruction.read m code = .error fault)
    (clean : '\n' ∉ code) : '\n' ∉ fault.message := by
  have cleanWord : '\n' ∉ Text.upper (Text.cutWord code).1 := fun member =>
    clean ((Text.cutWord_subset code).1 (Text.newline_mem_upper member))
  have cleanRest : '\n' ∉ (Text.cutWord code).2 := fun member =>
    clean ((Text.cutWord_subset code).2 member)
  rcases read_eq_error failed with rfl | ⟨k, same, blames⟩
  · unfold Fault.message
    simp [cleanWord]
  · exact blames.newline_notMem (same ▸ cleanWord) cleanRest

end Instructions

end IE32

end Retarget
