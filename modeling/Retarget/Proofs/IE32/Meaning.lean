/-
# Retarget.Proofs.IE32.Meaning -- instructions mean what their code means

`IE32.exec` runs code as it is written.  Here an instruction that was read gets a meaning of its
own (`Instruction.exec`), by what it names and not by how it was spelled, and the two agree
(`exec_eq_of_read`): nothing that matters to the machine is lost or made up in the reading, and
the words are taken for what they are (`dataMnemonic?_eq`).
-/
import Retarget.Proofs.IE32.Reading
import Retarget.Proofs.Machine

namespace Retarget.IE32

set_option autoImplicit false

open Text (trim)

variable {W : Type} [AddZeroClass W] [One W] (I : Interpretation W)

def Place.word (s : State W) : Place → W
  | .direct address => I.value address
  | .indexed base offset => s.registers base.name + I.value offset

def Operand.word (s : State W) : Operand → W
  | .value text => I.value text
  | .register r => s.registers r.name
  | .memory place => s.memory (place.word I s)

/-! ## Operands -/

theorem register?_eq_some {t : Text} {r : Register}
    (found : RegisterMap.standard.find? t = some r) :
    register? t = some r.name := by
  simp [register?, found]

theorem register?_trim (t : Text) : register? (trim t) = register? t := by
  simp [register?, RegisterMap.find?]

theorem bracketAddress_eq_some {t : Text} {base : Register} {offset : Text}
    (read : readIndexed .standard t = .ok (base, offset)) (s : State W) :
    bracketAddress I s t = some ((Place.indexed base offset).word I s) := by
  simp [bracketAddress, read, Place.word]

theorem value_withoutMarker {t address : Text}
    (marked : trim t = '#' :: address ∨ trim t = '@' :: address) :
    I.value (withoutMarker t) = I.value address := by
  rcases marked with hash | atSign
  · simp [withoutMarker, hash, I.value_trim]
  · simp [withoutMarker, atSign, I.value_trim]

theorem destination_eq_some {t : Text} {place : Place}
    (read : Place.read .standard t = .ok place) (s : State W) :
    destination I s t = some (place.word I s) := by
  unfold destination
  split
  · rename_i inner bracket
    have kind : OperandKind.ofText t = .indirect := by simp [OperandKind.ofText, bracket]
    rcases Place.read_eq_ok read with ⟨-, base, offset, indexed, rfl⟩ | ⟨other, -⟩
    · exact bracketAddress_eq_some I indexed s
    · exact absurd kind other
  · rename_i address marked
    rcases Place.read_eq_ok read with ⟨kind, -⟩ | ⟨-, rfl⟩
    · simp [OperandKind.ofText, marked] at kind
    · rw [Place.word, value_withoutMarker I (.inl marked)]
  · rename_i address marked
    rcases Place.read_eq_ok read with ⟨kind, -⟩ | ⟨-, rfl⟩
    · simp [OperandKind.ofText, marked] at kind
    · rw [Place.word, value_withoutMarker I (.inr marked)]
  · rename_i noBracket noHash noAt
    rcases Place.read_eq_ok read with ⟨kind, -⟩ | ⟨-, rfl⟩
    · simp [OperandKind.ofText_eq_bare noHash noAt noBracket] at kind
    · rw [Place.word, withoutMarker_of_unmarked noHash noAt]

theorem source_eq_some {t : Text} {operand : Operand}
    (read : Operand.read .standard t = .ok operand) (s : State W) :
    source I s t = some (operand.word I s) := by
  unfold source
  split
  · rename_i inner bracket
    have kind : OperandKind.among .standard t = .indirect := by
      simp [OperandKind.among, OperandKind.ofText, bracket]
    simp only [Operand.read, kind, except_map_eq_ok_iff, Place.readIndirect_eq_ok_iff] at read
    obtain ⟨_, ⟨base, offset, indexed, rfl⟩, rfl⟩ := read
    simp [bracketAddress_eq_some I indexed, Operand.word]
  · rename_i address marked
    have kind : OperandKind.among .standard t = .direct := by
      simp [OperandKind.among, OperandKind.ofText, marked]
    simp only [Operand.read, kind, Except.ok.injEq] at read
    subst read
    rw [Operand.word, Place.word, value_withoutMarker I (.inr marked)]
  · rename_i value marked
    have kind : OperandKind.among .standard t = .immediate := by
      simp [OperandKind.among, OperandKind.ofText, marked]
    simp only [Operand.read, kind, Except.ok.injEq, immediateValue, marked] at read
    subst read
    rfl
  · rename_i noBracket noAt noHash
    have kind := OperandKind.ofText_eq_bare noHash noAt noBracket
    cases found : RegisterMap.standard.find? t with
    | some r =>
        have named : OperandKind.among .standard t = .register := by
          simp [OperandKind.among, kind, RegisterMap.contains, found]
        simp only [Operand.read, named, except_map_eq_ok_iff, RegisterMap.lookup_eq_ok_iff,
          found, Option.some.injEq] at read
        obtain ⟨_, rfl, rfl⟩ := read
        simp [register?, found, Operand.word]
    | none =>
        have unnamed : OperandKind.among .standard t = .bare := by
          simp [OperandKind.among, kind, RegisterMap.contains, found]
        simp only [Operand.read, unnamed, Except.ok.injEq,
          immediateValue_of_unmarked noHash] at read
        subst read
        simp [register?, found, Operand.word]

/-! ## Instructions -/

@[simp] def Mnemonic.movesData : Mnemonic → Bool
  | .loadNamed _ | .storeNamed _ | .load | .store | .binary _ | .complement | .step _ => true
  | .control _ | .stack _ | .jump _ | .branch _ | .wait => false

/-- The words that are read are the words of the machine. -/
theorem dataMnemonic?_eq {word : Text} {k : Mnemonic} (found : Mnemonic.ofWord? word = some k) :
    dataMnemonic? word = if k.movesData then some k else none := by
  have spelled : ∀ k ∈ Mnemonic.spelled,
      dataMnemonic? k.text = if k.movesData then some k else none := by decide +kernel
  rw [← text_of_ofWord? found]
  rcases Mnemonic.ofWord?_cases found with ⟨letter, rfl⟩ | ⟨letter, rfl⟩ | listed
  · rfl
  · rfl
  · exact spelled k listed

variable [DecidableEq W]

def Instruction.exec (s : State W) : Instruction → Option (State W)
  | .load dest source => some (s.setRegister dest.name (source.word I s))
  | .store source dest => some (s.setMemory (dest.word I s) (s.registers source.name))
  | .binary op dest source =>
      some (s.setRegister dest.name (I.binary op (s.registers dest.name) (source.word I s)))
  | .complement r => some (s.setRegister r.name (I.complement (s.registers r.name)))
  | .step op (.register r) => some (s.setRegister r.name (stepped I op (s.registers r.name)))
  | .step op (.memory place) =>
      some (s.setMemory (place.word I s) (stepped I op (s.memory (place.word I s))))
  | .control _ | .stack _ _ | .jump _ _ | .branch _ _ _ | .wait _ => none

theorem execStep_eq {t : Text} {op : StepOp} {target : Target}
    (read : Target.read .standard op t = .ok target) (s : State W) :
    execStep I s op t = (Instruction.step op target).exec I s := by
  unfold execStep
  split
  · rename_i inner bracket
    have kind : OperandKind.among .standard t = .indirect := by
      simp [OperandKind.among, OperandKind.ofText, bracket]
    simp only [Target.read, kind, except_map_eq_ok_iff, Place.readIndirect_eq_ok_iff] at read
    obtain ⟨_, ⟨base, offset, indexed, rfl⟩, rfl⟩ := read
    simp [destination, bracket, bracketAddress_eq_some I indexed, Instruction.exec]
  · rename_i address marked
    have kind : OperandKind.among .standard t = .direct := by
      simp [OperandKind.among, OperandKind.ofText, marked]
    simp only [Target.read, kind, Except.ok.injEq] at read
    subst read
    simp [destination, marked, Instruction.exec, Place.word, value_withoutMarker I (.inr marked)]
  · rename_i noBracket noAt
    rcases Target.read_eq_ok read with
      ⟨r, -, found, rfl⟩ | ⟨kind, -⟩ | ⟨base, offset, kind, -⟩
    · simp [register?_eq_some found, Instruction.exec]
    · obtain ⟨rest, same⟩ :=
        OperandKind.ofText_eq_direct (OperandKind.ofText_of_among kind (by decide))
      exact absurd same (noAt rest)
    · obtain ⟨rest, same⟩ :=
        OperandKind.ofText_eq_indirect (OperandKind.ofText_of_among kind (by decide))
      exact absurd same (noBracket rest)

/-- A register name has no comma in it, so it is an operand of its own. -/
theorem splitOperands_of_find? {t : Text} {r : Register}
    (found : RegisterMap.standard.find? t = some r) : splitOperands t = [trim t] := by
  obtain ⟨name, listed⟩ := (RegisterMap.find?_eq_some_iff _ _ _).mp found
  have noComma : ',' ∉ t :=
    RegisterMap.notMem_of_find? (by decide) (by decide) (by decide) (by decide +kernel) found
  have some_text : trim t ≠ [] := by
    intro empty
    rw [empty] at name
    have named : ∀ entry ∈ RegisterMap.standard.table.entries, entry.1 ≠ [] := by decide +kernel
    exact named _ listed name
  have uncut : cutAtComma 0 (trim t) = none := by
    cases cut : cutAtComma 0 (trim t) with
    | none => rfl
    | some parts =>
        have comma : ',' ∈ trim t := by
          rw [cutAtComma_eq_some cut]
          simp
        exact absurd (Text.trim_subset t comma) noComma
  simp [splitOperands, some_text, uncut]

/-- **An instruction that was read does what its code says.** -/
theorem exec_eq_of_read {code : Text} {i : Instruction}
    (readCode : Instruction.read .standard code = .ok i) (s : State W) :
    exec I s code = i.exec I s := by
  obtain ⟨k, word, reads⟩ := (read_eq_ok_iff .standard code i).mp readCode
  unfold exec
  simp only [dataMnemonic?_eq word]
  cases reads with
  | control op => simp [Instruction.exec]
  | stack op some_text found => simp [Instruction.exec]
  | jump op some_text => simp [Instruction.exec]
  | branch condition split some_first some_target found => simp [Instruction.exec]
  | loadNamed letter found split read =>
      simp [split, register?_eq_some found, source_eq_some I read, Instruction.exec]
  | storeNamed letter found split read =>
      simp [split, register?_eq_some found, destination_eq_some I read, Instruction.exec]
  | load split some_first some_second found read =>
      simp [split, register?_eq_some found, source_eq_some I read, Instruction.exec]
  | store split some_first some_second found read =>
      simp [split, register?_eq_some found, destination_eq_some I read, Instruction.exec]
  | binary op split some_first some_second found read =>
      simp [split, register?_eq_some found, source_eq_some I read, Instruction.exec]
  | complement some_text found =>
      simp [splitOperands_of_find? found, register?_trim, register?_eq_some found,
        Instruction.exec]
  | step op split read => simp [split, execStep_eq I read]
  | wait split read => simp [Instruction.exec]

end Retarget.IE32
