/-
# Retarget.Proofs.IE64.Reading -- reading a line of IE64

What a line of IE64 says is fixed here apart from how lines are written.  `words` lists the
mnemonics of the instructions that move or compute data.  `Instruction.ofLine?` reads the indent, a
mnemonic, the size suffix where one belongs, a space, and operands with commas between them.

Every such instruction is read back from its line, as soon as its registers are registers
(`ofLine?_render`): no mnemonic begins another one, a register name has no comma or parenthesis in
it, and the text that is taken over from the source program stands last or before the last
parenthesis.  So the lines of a program say which program it is (`map_render_inj`).
-/
import Mathlib.Data.List.Basic
import Retarget.Proofs.IE64.Rendering
import Retarget.Proofs.Text.Cutting

namespace Retarget.IE64

set_option autoImplicit false

/-! ## Lines -/

/-- The names of IE64 registers: the letter `r` and a number. -/
def isRegister : Text → Bool
  | 'r' :: digits => !digits.isEmpty && digits.all Char.isDigit
  | _ => false

inductive Word where
  | loadAddress | move | load | store | complement
  | binary (op : BinaryOp)
  deriving DecidableEq

def words : List (Text × Word) :=
  [("la", .loadAddress), ("move", .move), ("load", .load), ("store", .store), ("not", .complement),
    ("add", .binary .add), ("sub", .binary .sub), ("mulu", .binary .mul), ("divu", .binary .div),
    ("mod", .binary .mod), ("and", .binary .and), ("or", .binary .or), ("eor", .binary .xor),
    ("lsl", .binary .shiftLeft), ("lsr", .binary .shiftRight)]

/-- What a text begins with, and what stands behind it. -/
def readWord (t : Text) : Option (Word × Text) :=
  words.findSome? fun entry => (t.dropPrefix? entry.1).map (entry.2, ·)

/-- What stands between a mnemonic and its operands. -/
def Word.spacing (suffix : Text) : Word → Text
  | .loadAddress => [' ']
  | .move | .load | .store | .complement | .binary _ => suffix ++ [' ']

/-- A register, and what stands behind the comma and the space that follow it. -/
def readRegister (t : Text) : Option (Text × Text) :=
  match Text.cutAt ',' t with
  | (name, some (' ' :: rest)) => if isRegister name then some (name, rest) else none
  | _ => none

def Source.ofText? : Text → Option Source
  | '#' :: value => some (.immediate value)
  | name => if isRegister name then some (.register name) else none

/-- A base in parentheses, and the offset before them.  The offset may have parentheses of its own,
so the text is read from the right. -/
def Address.ofText? (t : Text) : Option Address :=
  match t.reverse with
  | ')' :: rest =>
      match Text.cutAt '(' rest with
      | (base, some offset) =>
          if isRegister base.reverse then some ⟨base.reverse, offset.reverse⟩ else none
      | _ => none
  | _ => none

def Word.readOperands (t : Text) : Word → Option Instruction
  | .loadAddress => do
      let (dest, address) ← readRegister t
      return .loadAddress dest address
  | .move => do
      let (dest, source) ← readRegister t
      return .move dest (← Source.ofText? source)
  | .load => do
      let (dest, address) ← readRegister t
      return .load dest (← Address.ofText? address)
  | .store => do
      let (source, address) ← readRegister t
      return .store source (← Address.ofText? address)
  | .complement => do
      let (dest, source) ← readRegister t
      if isRegister source then return .complement dest source else none
  | .binary op => do
      let (dest, rest) ← readRegister t
      let (left, right) ← readRegister rest
      return .binary op dest left (← Source.ofText? right)

/-- The instruction that a line stands for, if it moves or computes data. -/
def Instruction.ofLine? (suffix indent line : Text) : Option Instruction := do
  let (word, rest) ← readWord (← line.dropPrefix? indent)
  word.readOperands (← rest.dropPrefix? (word.spacing suffix))

/-! ## Instructions that are read -/

@[simp] def Instruction.computes : Instruction → Bool
  | .loadAddress _ _ | .move _ _ | .load _ _ | .store _ _ | .binary _ _ _ _ | .complement _ _ =>
      true
  | .control _ | .stack _ _ | .jump _ _ | .branch _ _ _ | .wait _ => false

/-- An instruction that moves or computes data, all of whose registers are registers. -/
def Instruction.isData (i : Instruction) : Bool := i.computes && i.registers.all isRegister

theorem isData_iff (i : Instruction) :
    i.isData = true ↔ i.computes = true ∧ ∀ name ∈ i.registers, isRegister name = true := by
  simp [Instruction.isData]

theorem dropPrefix?_append (first rest : Text) : (first ++ rest).dropPrefix? first = some rest :=
  List.dropPrefix?_eq_some_iff.mpr ⟨first, rfl, by simp⟩

/-! ## Operands -/

/-- A character other than `r` and the digits stands in no register name. -/
theorem notMem_register {t : Text} (name : isRegister t = true) {c : Char} (other : c ≠ 'r')
    (noDigit : c.isDigit = false) : c ∉ t := by
  unfold isRegister at name
  split at name
  · rename_i digits
    simp only [Bool.and_eq_true, List.all_eq_true] at name
    intro member
    rcases List.mem_cons.mp member with letter | inDigits
    · exact other letter
    · simp [name.2 c inDigits] at noDigit
  · simp at name

/-- A register that is written first ends at the first comma. -/
theorem readRegister_append {name : Text} (named : isRegister name = true) (rest : Text) :
    readRegister (name ++ ',' :: ' ' :: rest) = some (name, rest) := by
  have noComma : ',' ∉ name := notMem_register named (by decide) (by decide)
  simp [readRegister, Text.cutAt_append noComma, named]

theorem Source.ofText?_render {source : Source}
    (named : ∀ name ∈ source.registers, isRegister name = true) :
    Source.ofText? source.render = some source := by
  cases source with
  | immediate value => rfl
  | register name =>
      have isName := named name (by simp)
      have noHash : ∀ value, name ≠ '#' :: value := by
        rintro value rfl
        exact notMem_register isName (c := '#') (by decide) (by decide) List.mem_cons_self
      unfold Source.ofText?
      split
      · rename_i value marked
        exact absurd marked (noHash value)
      · simp [Source.render, isName]

theorem Address.ofText?_render {address : Address} (named : isRegister address.base = true) :
    Address.ofText? address.render = some address := by
  have noParen : '(' ∉ address.base.reverse := by
    simpa using notMem_register named (c := '(') (by decide) (by decide)
  have reversed : address.render.reverse =
      ')' :: (address.base.reverse ++ '(' :: address.offset.reverse) := by
    simp [Address.render]
  simp [Address.ofText?, reversed, Text.cutAt_append noParen, named]

/-! ## Mnemonics -/

/-- No mnemonic begins another one. -/
theorem words_apart : ∀ a ∈ words, ∀ b ∈ words, a.1 <+: b.1 → a = b := by
  decide +kernel

theorem readWord_append {name : Text} {word : Word} (listed : (name, word) ∈ words) (rest : Text) :
    readWord (name ++ rest) = some (word, rest) := by
  have found : (readWord (name ++ rest)).isSome = true := by
    refine List.findSome?_isSome_iff.mpr ⟨_, listed, ?_⟩
    rw [dropPrefix?_append]
    rfl
  obtain ⟨⟨other, behind⟩, read⟩ := Option.isSome_iff_exists.mp found
  obtain ⟨entry, listed', dropped⟩ := List.exists_of_findSome?_eq_some read
  obtain ⟨behind', begins, pair⟩ := Option.map_eq_some_iff.mp dropped
  obtain ⟨first, same, equal⟩ := List.dropPrefix?_eq_some_iff.mp begins
  obtain rfl := eq_of_beq equal
  -- Both mnemonics begin the text, so one of them begins the other.
  have one : name <+: name ++ rest := List.prefix_append _ _
  have two : entry.1 <+: name ++ rest := same ▸ List.prefix_append _ _
  have both : (name, word) = entry := by
    rcases List.prefix_or_prefix_of_prefix one two with shorter | longer
    · exact words_apart _ listed _ listed' shorter
    · exact (words_apart _ listed' _ listed longer).symm
  subst both
  rw [read, ← pair, List.append_cancel_left same]

/-! ## Instructions -/

/-- How a data instruction is written: a mnemonic of the list, the suffix where it belongs, and
operands that are read back. -/
theorem exists_word {i : Instruction} (data : i.isData = true) (suffix : Text) :
    ∃ name word, (name, word) ∈ words ∧
      i.render suffix = name ++ (word.spacing suffix ++ Text.join ", " i.operands) ∧
      word.readOperands (Text.join ", " i.operands) = some i := by
  obtain ⟨computes, named⟩ := (isData_iff i).mp data
  cases i with
  | control | stack | jump | branch | wait => simp at computes
  | loadAddress dest address =>
      simp only [Instruction.registers, List.forall_mem_cons] at named
      refine ⟨"la", .loadAddress, by decide, by simp [Word.spacing, Instruction.operands], ?_⟩
      simp [Word.readOperands, Instruction.operands, readRegister_append named.1]
  | move dest source =>
      simp only [Instruction.registers, List.forall_mem_cons] at named
      refine ⟨"move", .move, by decide, by simp [Word.spacing, Instruction.operands], ?_⟩
      simp [Word.readOperands, Instruction.operands, readRegister_append named.1,
        Source.ofText?_render named.2]
  | load dest address =>
      simp only [Instruction.registers, List.forall_mem_cons] at named
      refine ⟨"load", .load, by decide, by simp [Word.spacing, Instruction.operands], ?_⟩
      simp [Word.readOperands, Instruction.operands, readRegister_append named.1,
        Address.ofText?_render named.2.1]
  | store source address =>
      simp only [Instruction.registers, List.forall_mem_cons] at named
      refine ⟨"store", .store, by decide, by simp [Word.spacing, Instruction.operands], ?_⟩
      simp [Word.readOperands, Instruction.operands, readRegister_append named.1,
        Address.ofText?_render named.2.1]
  | complement dest source =>
      simp only [Instruction.registers, List.forall_mem_cons] at named
      refine ⟨"not", .complement, by decide, by simp [Word.spacing, Instruction.operands], ?_⟩
      simp [Word.readOperands, Instruction.operands, readRegister_append named.1, named.2.1]
  | binary op dest left right =>
      simp only [Instruction.registers, List.forall_mem_cons] at named
      refine ⟨op.target, .binary op, ?_, by simp [Word.spacing, Instruction.operands], ?_⟩
      · cases op <;> decide
      · simp [Word.readOperands, Instruction.operands, readRegister_append named.1,
          readRegister_append named.2.1, Source.ofText?_render named.2.2]

/-- **A data instruction is read back from its line.** -/
theorem ofLine?_render {i : Instruction} (data : i.isData = true) (suffix indent : Text) :
    Instruction.ofLine? suffix indent (indent ++ i.render suffix) = some i := by
  obtain ⟨name, word, listed, written, operands⟩ := exists_word data suffix
  rw [Instruction.ofLine?, dropPrefix?_append, written]
  simp only [Option.bind_eq_bind, Option.bind_some, readWord_append listed, dropPrefix?_append,
    operands]

/-- Of several parentheses, the last ones hold the base. -/
example : Instruction.ofLine? ".l" "  " "  load.l r1, f(x)(r5)" =
    some (.load "r1" ⟨"r5", "f(x)"⟩) := by decide

theorem map_ofLine?_render {program : List Instruction} (data : ∀ i ∈ program, i.isData = true)
    (suffix indent : Text) :
    (program.map (indent ++ ·.render suffix)).map (Instruction.ofLine? suffix indent) =
      program.map some := by
  rw [List.map_map]
  exact List.map_congr_left fun i member => ofLine?_render (data i member) suffix indent

theorem map_render_inj {suffix indent : Text} {program other : List Instruction}
    (one : ∀ i ∈ program, i.isData = true) (two : ∀ i ∈ other, i.isData = true)
    (same : program.map (indent ++ ·.render suffix) = other.map (indent ++ ·.render suffix)) :
    program = other := by
  have read := congrArg (List.map (Instruction.ofLine? suffix indent)) same
  rw [map_ofLine?_render one, map_ofLine?_render two] at read
  exact List.map_injective_iff.mpr (fun _ _ => Option.some.inj) read

end Retarget.IE64
