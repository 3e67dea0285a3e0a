/-
# Retarget.Proofs.Simulation -- converted programs do what they did

A program of IE32 instructions that move and compute data and the IE64 program it is converted to
end in the same memory and in the same registers, whatever the words are, whatever the operations
compute and whatever the texts of the operands stand for.

`Mirrors` relates the two states: each IE32 register has its value in the IE64 register that
stands for it, and the memories are one.  `Realizes` says of a piece of an IE64 program that it
takes mirrored states to mirrored states, and that it leaves every register alone that neither
stands for an IE32 register nor is a scratch register.  One instruction is realized by its
lowering (`lower_realizes`), and pieces compose (`Realizes.append`).

What runs is what the emitted lines say: they are read as the program, line by line, by a reader
that has a list of the words of IE64 of its own (`Simulates.read`).
-/
import Mathlib.Data.BitVec
import Retarget.Proofs.IE32.Meaning
import Retarget.Proofs.Lowering

namespace Retarget

set_option autoImplicit false

variable {W : Type}

/-! ## States -/

/-- The IE64 state holds what the IE32 state holds. -/
structure Mirrors (m : RegisterMap) (s t : State W) : Prop where
  registers : ∀ r, m.Lists r → t.registers r.target = s.registers r.name
  memory : t.memory = s.memory

/-- The name is that of an IE64 register with no part in a conversion. -/
structure Outside (m : RegisterMap) (name : Text) : Prop where
  target : ∀ r, m.Lists r → name ≠ r.target
  address : name ≠ scratchAddress
  value : name ≠ scratchValue

/-- A state on the way from `start`: it mirrors `s`, and all registers outside the conversion
are as they were. -/
structure Follows (m : RegisterMap) (start s t : State W) : Prop extends Mirrors m s t where
  outside : ∀ name, Outside m name → t.registers name = start.registers name

namespace Follows

variable {m : RegisterMap} {start s t : State W}

theorem setScratchAddress (separated : m.Separated) (follows : Follows m start s t) (word : W) :
    Follows m start s (t.setRegister scratchAddress word) where
  registers r listed :=
    (t.setRegister_of_ne word (separated.address _ listed)).trans (follows.registers r listed)
  memory := follows.memory
  outside name free := (t.setRegister_of_ne word free.address).trans (follows.outside name free)

theorem setScratchValue (separated : m.Separated) (follows : Follows m start s t) (word : W) :
    Follows m start s (t.setRegister scratchValue word) where
  registers r listed :=
    (t.setRegister_of_ne word (separated.value _ listed)).trans (follows.registers r listed)
  memory := follows.memory
  outside name free := (t.setRegister_of_ne word free.value).trans (follows.outside name free)

theorem setRegister (separated : m.Separated) (follows : Follows m start s t) {r : Register}
    (listed : m.Lists r) (word : W) :
    Follows m start (s.setRegister r.name word) (t.setRegister r.target word) where
  registers q listed' := by
    by_cases same : q.target = r.target
    · rw [same, separated.name_eq listed' listed same]
      simp
    · have apart : q.name ≠ r.name := fun name => same (RegisterMap.target_eq listed' listed name)
      rw [t.setRegister_of_ne word same, s.setRegister_of_ne word apart]
      exact follows.registers q listed'
  memory := follows.memory
  outside name free :=
    (t.setRegister_of_ne word (free.target r listed)).trans (follows.outside name free)

theorem setMemory [DecidableEq W] (follows : Follows m start s t) (address word : W) :
    Follows m start (s.setMemory address word) (t.setMemory address word) where
  registers := follows.registers
  memory := by simp [State.setMemory, follows.memory]
  outside := follows.outside

end Follows

/-! ## Pieces of a program -/

variable [AddZeroClass W] [One W] {I : Interpretation W}

theorem IE64.Address.word_setRegister {a : IE64.Address} {name : Text} (apart : a.base ≠ name)
    (t : State W) (word : W) : a.word I (t.setRegister name word) = a.word I t := by
  rw [Address.word, Address.word, t.setRegister_of_ne word apart]

theorem IE32.binary_value_one (op : StepOp) (word : W) :
    I.binary op.binary word (I.value "1") = stepped I op word := by
  rw [I.value_one]
  cases op <;> rfl

variable [DecidableEq W]

theorem IE64.run_append (s : State W) (first second : List IE64.Instruction) :
    IE64.run I s (first ++ second) = (IE64.run I s first).bind (IE64.run I · second) := by
  induction first generalizing s with
  | nil => rfl
  | cons i rest ih =>
      cases after : i.exec I s with
      | none => simp [IE64.run, after]
      | some next => simp [IE64.run, after, ih]

/-- Started where `s` is mirrored, the program ends where `s'` is. -/
def Realizes (I : Interpretation W) (m : RegisterMap) (program : List IE64.Instruction)
    (s s' : State W) : Prop :=
  ∀ start t, Follows m start s t → ∃ t', IE64.run I t program = some t' ∧ Follows m start s' t'

variable {m : RegisterMap} {s s' : State W}

theorem Realizes.nil (s : State W) : Realizes I m [] s s :=
  fun _ t follows => ⟨t, rfl, follows⟩

theorem Realizes.append {first second : List IE64.Instruction} {s'' : State W}
    (one : Realizes I m first s s') (two : Realizes I m second s' s'') :
    Realizes I m (first ++ second) s s'' := by
  intro start t follows
  obtain ⟨t', ran, follows'⟩ := one start t follows
  obtain ⟨t'', ran', follows''⟩ := two start t' follows'
  exact ⟨t'', by rw [IE64.run_append, ran, Option.bind_some, ran'], follows''⟩

namespace IE32

/-! ## Operands -/

/-- What is known where a place was made reachable: the address that reaches it stands for the
address of the place, and still does when a value is put aside. -/
structure Reached (I : Interpretation W) (s t : State W) (place : Place) : Prop where
  word : place.reach.2.word I t = place.word I s
  base : place.reach.2.base ≠ scratchValue

theorem Place.reach_spec (separated : m.Separated) {place : Place}
    (listed : ∀ r ∈ place.registers, m.Lists r) {start s t : State W}
    (follows : Follows m start s t) :
    ∃ t', IE64.run I t place.reach.1 = some t' ∧ Follows m start s t' ∧
      Reached I s t' place := by
  cases place with
  | direct address =>
      have apart : scratchAddress ≠ scratchValue := by decide
      refine ⟨t.setRegister scratchAddress (I.value address), rfl,
        follows.setScratchAddress separated _, ?_, apart⟩
      simp [Place.reach, IE64.Address.word, Place.word, I.value_nil]
  | indexed base offset =>
      have known := listed base (by simp [Place.registers])
      refine ⟨t, rfl, follows, ?_, separated.value _ known⟩
      simp [Place.reach, IE64.Address.word, Place.word, follows.registers base known]

/-- What follows may start from a state in which the place is reachable. -/
theorem Place.realizes_reach (separated : m.Separated) {place : Place}
    (listed : ∀ r ∈ place.registers, m.Lists r) {rest : List IE64.Instruction}
    (act : ∀ start t, Follows m start s t → Reached I s t place →
      ∃ t', IE64.run I t rest = some t' ∧ Follows m start s' t') :
    Realizes I m (place.reach.1 ++ rest) s s' := by
  intro start t follows
  obtain ⟨t', ran, follows', reached⟩ := place.reach_spec (I := I) separated listed follows
  obtain ⟨t'', ran', follows''⟩ := act start t' follows' reached
  exact ⟨t'', by rw [IE64.run_append, ran, Option.bind_some, ran'], follows''⟩

theorem Operand.fetch_spec (separated : m.Separated) {operand : Operand}
    (listed : ∀ r ∈ operand.registers, m.Lists r) {start s t : State W}
    (follows : Follows m start s t) :
    ∃ t', IE64.run I t operand.fetch.1 = some t' ∧ Follows m start s t' ∧
      operand.fetch.2.word I t' = operand.word I s := by
  cases operand with
  | value text => exact ⟨t, rfl, follows, rfl⟩
  | register r => exact ⟨t, rfl, follows, follows.registers r (listed r (by simp [registers]))⟩
  | memory place =>
      obtain ⟨t', ran, follows', reached⟩ := place.reach_spec (I := I) separated listed follows
      refine ⟨t'.setRegister scratchAddress (t'.memory (place.reach.2.word I t')), ?_,
        follows'.setScratchAddress separated _, ?_⟩
      · simp [Operand.fetch, IE64.run_append, ran, IE64.run, IE64.Instruction.exec]
      · simp [Operand.fetch, IE64.Source.word, Operand.word, reached.word, follows'.memory]

/-! ## One instruction -/

theorem load_realizes (separated : m.Separated) {dest : Register} {source : Operand}
    (known : m.Lists dest) (listed : ∀ r ∈ source.registers, m.Lists r) :
    Realizes I m (Instruction.load dest source).lower s
      (s.setRegister dest.name (source.word I s)) := by
  cases source with
  | value text =>
      intro start t follows
      exact ⟨_, rfl, follows.setRegister separated known _⟩
  | register r =>
      intro start t follows
      have same := follows.registers r (listed r (by simp [Operand.registers]))
      refine ⟨_, rfl, ?_⟩
      rw [IE64.Source.word, same]
      exact follows.setRegister separated known _
  | memory place =>
      refine place.realizes_reach separated listed fun start t follows reached => ⟨_, rfl, ?_⟩
      rw [reached.word, follows.memory]
      exact follows.setRegister separated known _

theorem store_realizes (separated : m.Separated) {source : Register} {dest : Place}
    (known : m.Lists source) (listed : ∀ r ∈ dest.registers, m.Lists r) :
    Realizes I m (Instruction.store source dest).lower s
      (s.setMemory (dest.word I s) (s.registers source.name)) := by
  refine dest.realizes_reach separated listed fun start t follows reached => ⟨_, rfl, ?_⟩
  rw [reached.word, follows.registers source known]
  exact follows.setMemory _ _

theorem binary_realizes (separated : m.Separated) (op : BinaryOp) {dest : Register}
    {source : Operand} (known : m.Lists dest) (listed : ∀ r ∈ source.registers, m.Lists r) :
    Realizes I m (Instruction.binary op dest source).lower s
      (s.setRegister dest.name (I.binary op (s.registers dest.name) (source.word I s))) := by
  intro start t follows
  obtain ⟨t', ran, follows', fetched⟩ := source.fetch_spec (I := I) separated listed follows
  refine ⟨t'.setRegister dest.target
    (I.binary op (t'.registers dest.target) (source.fetch.2.word I t')), ?_, ?_⟩
  · simp [Instruction.lower, IE64.run_append, ran, IE64.run, IE64.Instruction.exec]
  · rw [fetched, follows'.registers dest known]
    exact follows'.setRegister separated known _

theorem complement_realizes (separated : m.Separated) {r : Register} (known : m.Lists r) :
    Realizes I m (Instruction.complement r).lower s
      (s.setRegister r.name (I.complement (s.registers r.name))) := by
  intro start t follows
  refine ⟨_, rfl, ?_⟩
  rw [follows.registers r known]
  exact follows.setRegister separated known _

theorem step_register_realizes (separated : m.Separated) (op : StepOp) {r : Register}
    (known : m.Lists r) :
    Realizes I m (Instruction.step op (.register r)).lower s
      (s.setRegister r.name (stepped I op (s.registers r.name))) := by
  intro start t follows
  refine ⟨_, rfl, ?_⟩
  rw [IE64.Source.word, binary_value_one, follows.registers r known]
  exact follows.setRegister separated known _

/-- The value is changed in a register of its own, so the address is still there when it is
written back. -/
theorem step_memory_realizes (separated : m.Separated) (op : StepOp) {place : Place}
    (listed : ∀ r ∈ place.registers, m.Lists r) :
    Realizes I m (Instruction.step op (.memory place)).lower s
      (s.setMemory (place.word I s) (stepped I op (s.memory (place.word I s)))) := by
  refine place.realizes_reach separated listed fun start t follows reached => ⟨_, rfl, ?_⟩
  simp only [IE64.Address.word_setRegister reached.base, State.setRegister_self,
    IE64.Source.word, binary_value_one, reached.word, follows.memory]
  exact ((follows.setScratchValue separated _).setScratchValue separated _).setMemory _ _

/-- **The lowering of an instruction does what the instruction does.** -/
theorem lower_realizes (separated : m.Separated) {i : Instruction}
    (listed : ∀ r ∈ i.registers, m.Lists r) (meant : i.exec I s = some s') :
    Realizes I m i.lower s s' := by
  cases i with
  | control | stack | jump | branch | wait => simp [Instruction.exec] at meant
  | load dest source =>
      simp only [Instruction.registers, List.forall_mem_cons] at listed
      cases meant
      exact load_realizes separated listed.1 listed.2
  | store source dest =>
      simp only [Instruction.registers, List.forall_mem_cons] at listed
      cases meant
      exact store_realizes separated listed.1 listed.2
  | binary op dest source =>
      simp only [Instruction.registers, List.forall_mem_cons] at listed
      cases meant
      exact binary_realizes separated op listed.1 listed.2
  | complement r =>
      cases meant
      exact complement_realizes separated (listed r (by simp [Instruction.registers]))
  | step op target =>
      cases target with
      | register r =>
          cases meant
          exact step_register_realizes separated op (listed r (by simp [Instruction.registers]))
      | memory place =>
          cases meant
          exact step_memory_realizes separated op listed

/-! ## Programs -/

theorem Instruction.exists_exec {i : Instruction} (data : i.isData = true) (s : State W) :
    ∃ s', i.exec I s = some s' := by
  cases i with
  | control | stack | jump | branch | wait => simp [Instruction.isData] at data
  | step op target => cases target <;> exact ⟨_, rfl⟩
  | load | store | binary | complement => exact ⟨_, rfl⟩

theorem isData_of_movesData {code : Text} {i : Instruction}
    (readCode : Instruction.read m code = .ok i) (data : movesData code = true) :
    i.isData = true := by
  obtain ⟨k, word, reads⟩ := (read_eq_ok_iff m code i).mp readCode
  unfold movesData at data
  rw [dataMnemonic?_eq word] at data
  cases reads <;> first | rfl | exact absurd data Bool.false_ne_true

theorem exec_trim (s : State W) (code : Text) : exec I s (Text.trim code) = exec I s code := by
  simp [exec, Text.cutWord_trim]

theorem movesData_trim (code : Text) : movesData (Text.trim code) = movesData code := by
  unfold movesData
  rw [Text.cutWord_trim]

end IE32

open IE32 (movesData)

def loweredCode (code : Text) : List IE64.Instruction :=
  match IE32.Instruction.read .standard (Text.trim code) with
  | .ok i => i.lower
  | .error _ => []

/-- What is known of code that was converted. -/
theorem exists_of_converted {suffix indent code : Text} (data : movesData code = true)
    (converted : (Lowering.ofCode .standard suffix indent code).error = none) :
    ∃ i, IE32.Instruction.read .standard (Text.trim code) = .ok i ∧ i.isData = true ∧
      (∀ r ∈ i.registers, RegisterMap.standard.Lists r) ∧ loweredCode code = i.lower ∧
      (Lowering.ofCode .standard suffix indent code).lines =
        (loweredCode code).map (indent ++ ·.render suffix) := by
  obtain ⟨i, readCode, lines⟩ := Lowering.exists_read converted
  obtain ⟨k, -, reads⟩ := (IE32.read_eq_ok_iff _ _ _).mp readCode
  have lowered : loweredCode code = i.lower := by simp [loweredCode, readCode]
  have moves := IE32.isData_of_movesData readCode (IE32.movesData_trim code ▸ data)
  exact ⟨i, readCode, moves, reads.lists, lowered, lowered ▸ lines⟩

/-- One line of code: what the machine does with it, its lowering does. -/
theorem loweredCode_realizes {suffix indent code : Text} (data : movesData code = true)
    (converted : (Lowering.ofCode .standard suffix indent code).error = none) (s : State W) :
    ∃ s', IE32.exec I s code = some s' ∧ Realizes I .standard (loweredCode code) s s' := by
  obtain ⟨i, readCode, moves, listed, lowered, -⟩ := exists_of_converted data converted
  obtain ⟨s', meant⟩ := IE32.Instruction.exists_exec (I := I) moves s
  refine ⟨s', ?_, ?_⟩
  · rw [← IE32.exec_trim, IE32.exec_eq_of_read I readCode, meant]
  · rw [lowered]
    exact IE32.lower_realizes RegisterMap.standard_separated listed meant

theorem flatMap_loweredCode_realizes {suffix indent : Text} {codes : List Text}
    (data : ∀ code ∈ codes, movesData code = true)
    (converted : ∀ code ∈ codes, (Lowering.ofCode .standard suffix indent code).error = none)
    (s : State W) :
    ∃ s', IE32.run I s codes = some s' ∧
      Realizes I .standard (codes.flatMap loweredCode) s s' := by
  induction codes generalizing s with
  | nil => exact ⟨s, rfl, .nil s⟩
  | cons code rest ih =>
      rw [List.forall_mem_cons] at data converted
      obtain ⟨s', ran, realizes⟩ := loweredCode_realizes (I := I) data.1 converted.1 s
      obtain ⟨s'', ran', realizes'⟩ := ih data.2 converted.2 s'
      refine ⟨s'', by rw [IE32.run, ran, Option.bind_some, ran'], ?_⟩
      rw [List.flatMap_cons]
      exact realizes.append realizes'

/-- The IE64 program that IE32 code is converted to.  The emitted lines are read as its
instructions; they are the renderings of these and of those of no other program.  Started in states
that hold the same, code and program run to their ends, in states that hold the same; and no IE64
register outside the conversion has changed. -/
structure Simulates (suffix indent : Text) (codes : List Text)
    (program : List IE64.Instruction) : Prop where
  data : ∀ i ∈ program, i.isData = true
  lines : codes.flatMap (fun code => (Lowering.ofCode .standard suffix indent code).lines) =
    program.map (indent ++ ·.render suffix)
  read : (codes.flatMap fun code => (Lowering.ofCode .standard suffix indent code).lines).map
    (IE64.Instruction.ofLine? suffix indent) = program.map some
  unique : ∀ other : List IE64.Instruction, (∀ i ∈ other, i.isData = true) →
    other.map (indent ++ ·.render suffix) = program.map (indent ++ ·.render suffix) →
    other = program
  runs : ∀ (W : Type) [AddZeroClass W] [One W] [DecidableEq W] (I : Interpretation W)
    (s t : State W), Mirrors .standard s t →
    ∃ s' t', IE32.run I s codes = some s' ∧ IE64.run I t program = some t' ∧
      Mirrors .standard s' t' ∧
      ∀ name, Outside .standard name → t'.registers name = t.registers name

theorem isData_of_mem_loweredCode {suffix indent code : Text} (data : movesData code = true)
    (converted : (Lowering.ofCode .standard suffix indent code).error = none)
    {i : IE64.Instruction} (member : i ∈ loweredCode code) : i.isData = true := by
  obtain ⟨i', -, moves, registers, lowered, -⟩ := exists_of_converted data converted
  rw [lowered] at member
  exact IE32.isData_of_mem_lower standard_isRegister registers moves member

/-- **A converted program does what the program did.** -/
theorem converted_program_simulates {suffix indent : Text} {codes : List Text}
    (data : ∀ code ∈ codes, movesData code = true)
    (converted : ∀ code ∈ codes, (Lowering.ofCode .standard suffix indent code).error = none) :
    ∃ program, Simulates suffix indent codes program := by
  have known : ∀ i ∈ codes.flatMap loweredCode, i.isData = true := by
    intro i member
    obtain ⟨code, listed, inCode⟩ := List.mem_flatMap.mp member
    exact isData_of_mem_loweredCode (data code listed) (converted code listed) inCode
  have rendered : codes.flatMap (fun code => (Lowering.ofCode .standard suffix indent code).lines) =
      (codes.flatMap loweredCode).map (indent ++ ·.render suffix) := by
    rw [List.map_flatMap]
    refine List.flatMap_congr fun code listed => ?_
    obtain ⟨-, -, -, -, -, lines⟩ := exists_of_converted (data code listed) (converted code listed)
    exact lines
  refine ⟨codes.flatMap loweredCode, known, rendered, ?_, ?_, ?_⟩
  · rw [rendered]
    exact IE64.map_ofLine?_render known suffix indent
  · exact fun other data' same => IE64.map_render_inj data' known same
  · intro W _ _ _ I s t mirrors
    obtain ⟨s', ran, realizes⟩ := flatMap_loweredCode_realizes (I := I) data converted s
    obtain ⟨t', ran', follows⟩ := realizes t t ⟨mirrors, fun _ _ => rfl⟩
    exact ⟨s', t', ran, ran', follows.toMirrors, follows.outside⟩

/-- Words of 32 bits, written in decimal. -/
def Interpretation.decimal : Interpretation (BitVec 32) where
  binary
    | .add => (· + ·)
    | .sub => (· - ·)
    | .mul => (· * ·)
    | .div => (· / ·)
    | .mod => (· % ·)
    | .and => (· &&& ·)
    | .or => (· ||| ·)
    | .xor => (· ^^^ ·)
    | .shiftLeft => (· <<< ·)
    | .shiftRight => (· >>> ·)
  complement := (~~~ ·)
  value t := (Text.trim t).foldl (fun n c => 10 * n + (c.toNat - 48)) 0
  value_trim t := by simp
  value_nil := rfl
  value_one := rfl

/-- Code in which a source, a base and a destination are one register, or an address is needed
twice. -/
def aliasingCode : List Text := ["INC [B]", "add a, [A + 4]", "LDA @80", "sta #7", "DEC @ 12"]

theorem aliasingCode_simulates :
    (∀ code ∈ aliasingCode, movesData code = true) ∧
    (∀ code ∈ aliasingCode, (Lowering.ofCode .standard ".l" "  " code).error = none) ∧
    ∃ program, Simulates ".l" "  " aliasingCode program ∧
      ∀ s : State (BitVec 32), ∀ t, Mirrors .standard s t →
        ∃ s' t', IE32.run .decimal s aliasingCode = some s' ∧
          IE64.run .decimal t program = some t' ∧ Mirrors .standard s' t' := by
  have data : ∀ code ∈ aliasingCode, movesData code = true := by decide +kernel
  have converted : ∀ code ∈ aliasingCode,
      (Lowering.ofCode .standard ".l" "  " code).error = none := by decide +kernel
  obtain ⟨program, simulates⟩ := converted_program_simulates data converted
  refine ⟨data, converted, program, simulates, fun s t mirrors => ?_⟩
  obtain ⟨s', t', ran, ran', after, -⟩ := simulates.runs _ .decimal s t mirrors
  exact ⟨s', t', ran, ran', after⟩

end Retarget
