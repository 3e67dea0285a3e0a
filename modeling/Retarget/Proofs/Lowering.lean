/-
# Retarget.Proofs.Lowering -- what a lowering is made of

Code that is converted was read, and its lines are the renderings of the lowering of what was
read (`Lowering.exists_read`).  The lowering of an instruction that moves or computes data
consists of IE64 instructions that do, on registers that the map gives or that are set aside
(`isData_of_mem_lower`); so its lines can be read in one way only.
-/
import Retarget.Lowering
import Retarget.Proofs.IE32.Reading
import Retarget.Proofs.IE64.Reading

namespace Retarget

set_option autoImplicit false

theorem Lowering.ofCode_of_ok {registers : RegisterMap} {code : Text} {i : IE32.Instruction}
    (readCode : IE32.Instruction.read registers (Text.trim code) = .ok i) (suffix indent : Text) :
    Lowering.ofCode registers suffix indent code =
      { lines := i.lower.map (indent ++ ·.render suffix) } := by
  simp [Lowering.ofCode, readCode]

theorem Lowering.ofCode_of_error {registers : RegisterMap} {code : Text} {fault : Fault}
    (unread : IE32.Instruction.read registers (Text.trim code) = .error fault)
    (suffix indent : Text) :
    Lowering.ofCode registers suffix indent code =
      { lines := annotation indent fault (Text.trim code)
        error := some { fault, source := some (Text.trim code) } } := by
  simp [Lowering.ofCode, unread, Diagnostic.withSource_mk]

/-- Converted code was read, and its lines are those of its lowering. -/
theorem Lowering.exists_read {registers : RegisterMap} {suffix indent code : Text}
    (converted : (Lowering.ofCode registers suffix indent code).error = none) :
    ∃ i, IE32.Instruction.read registers (Text.trim code) = .ok i ∧
      (Lowering.ofCode registers suffix indent code).lines =
        i.lower.map (indent ++ ·.render suffix) := by
  cases readCode : IE32.Instruction.read registers (Text.trim code) with
  | ok i => exact ⟨i, rfl, by rw [ofCode_of_ok readCode]⟩
  | error fault => simp [ofCode, readCode] at converted

theorem standard_isRegister (r : Register) (listed : RegisterMap.standard.Lists r) :
    IE64.isRegister r.target = true := by
  have all : ∀ entry ∈ RegisterMap.standard.table.entries, IE64.isRegister entry.2 = true := by
    decide +kernel
  exact all _ listed

theorem scratchAddress_eq : scratchAddress = "r17" := rfl

theorem scratchValue_eq : scratchValue = "r18" := rfl

namespace IE32

variable {m : RegisterMap}

@[simp] def Instruction.isData : Instruction → Bool
  | .load _ _ | .store _ _ | .binary _ _ _ | .complement _ | .step _ _ => true
  | .control _ | .stack _ _ | .jump _ _ | .branch _ _ _ | .wait _ => false

/-- The IE64 registers that an instruction may use: those that stand for its own registers, and
the two that are set aside. -/
def Instruction.targets (i : Instruction) : List Text :=
  scratchAddress :: scratchValue :: i.registers.map Register.target

/-- What an instruction puts into an instruction of its lowering. -/
structure Instruction.Makes (i : Instruction) (j : IE64.Instruction) : Prop where
  registers : ∀ name ∈ j.registers, name ∈ i.targets
  foreign : j.foreign ∈ i.texts ∨ j.foreign = [] ∨ j.foreign = "1"
  computes : i.isData = true → j.computes = true

theorem Instruction.makes_iff (i : Instruction) (j : IE64.Instruction) :
    i.Makes j ↔ (∀ name ∈ j.registers, name ∈ i.targets) ∧
      (j.foreign ∈ i.texts ∨ j.foreign = [] ∨ j.foreign = "1") ∧
      (i.isData = true → j.computes = true) :=
  ⟨fun ⟨registers, foreign, computes⟩ => ⟨registers, foreign, computes⟩,
    fun ⟨registers, foreign, computes⟩ => ⟨registers, foreign, computes⟩⟩

/-- **An instruction of the lowering names what the instruction names.** -/
theorem lower_makes (i : Instruction) : ∀ j ∈ i.lower, i.Makes j := by
  cases i with
  | control | stack | jump | branch | complement | wait =>
      simp [Instruction.lower, Instruction.makes_iff, Instruction.targets]
  | load dest source =>
      cases source with
      | value | register => simp [Instruction.lower, Instruction.makes_iff, Instruction.targets]
      | memory place =>
          cases place <;>
            simp [Instruction.lower, Instruction.makes_iff, Instruction.targets, Place.reach]
  | store source dest =>
      cases dest <;>
        simp [Instruction.lower, Instruction.makes_iff, Instruction.targets, Place.reach]
  | binary op dest source =>
      cases source with
      | value | register =>
          simp [Instruction.lower, Instruction.makes_iff, Instruction.targets, Operand.fetch]
      | memory place =>
          cases place <;>
            simp [Instruction.lower, Instruction.makes_iff, Instruction.targets, Operand.fetch,
              Place.reach]
  | step op target =>
      cases target with
      | register r => simp [Instruction.lower, Instruction.makes_iff, Instruction.targets]
      | memory place =>
          cases place <;>
            simp [Instruction.lower, Instruction.makes_iff, Instruction.targets, Place.reach]

theorem isData_of_mem_lower {i : Instruction} {j : IE64.Instruction}
    (names : ∀ r, m.Lists r → IE64.isRegister r.target = true)
    (listed : ∀ r ∈ i.registers, m.Lists r) (data : i.isData = true) (member : j ∈ i.lower) :
    j.isData = true := by
  have made := lower_makes i j member
  refine (IE64.isData_iff j).mpr ⟨made.computes data, fun name named => ?_⟩
  have target := made.registers name named
  simp only [Instruction.targets, List.mem_cons, List.mem_map] at target
  rcases target with rfl | rfl | ⟨r, known, rfl⟩
  · decide
  · decide
  · exact names r (listed r known)

theorem lower_ne_nil (i : Instruction) : i.lower ≠ [] := by
  cases i with
  | load dest source => cases source <;> simp [Instruction.lower]
  | step op target => cases target <;> simp [Instruction.lower]
  | _ => simp [Instruction.lower]

/-- Around the foreign text of a converted line there are words of IE64, the size, and names that
the map gives. -/
theorem excerpt_of_mem_lower {P : Char → Prop} {suffix : Text} {i : Instruction}
    (fixed : ∀ c ∈ IE64.wording ++ scratchAddress ++ scratchValue ++ suffix, P c)
    (targets : ∀ entry ∈ m.table.entries, ∀ c ∈ entry.2, P c)
    (listed : ∀ r ∈ i.registers, m.Lists r) {j : IE64.Instruction} (member : j ∈ i.lower) :
    Text.Excerpt P j.foreign (j.render suffix) := by
  simp only [List.forall_mem_append] at fixed
  obtain ⟨⟨⟨wording, address⟩, value⟩, size⟩ := fixed
  refine IE64.render_excerpt ⟨wording, size, fun name named => ?_⟩
  have target := (lower_makes i j member).registers name named
  simp only [Instruction.targets, List.mem_cons, List.mem_map] at target
  rcases target with rfl | rfl | ⟨r, known, rfl⟩
  · exact address
  · exact value
  · exact targets _ (listed r known)

end IE32

end Retarget
