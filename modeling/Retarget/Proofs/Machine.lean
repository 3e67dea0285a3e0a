/-
# Retarget.Proofs.Machine -- what the instructions of both machines do

Both machines are given a meaning over words of any kind.  An `Interpretation` says what the
operations compute and what word a text stands for; texts are not evaluated beyond that, so all
that is asked is that blanks around a text do not matter, that no text at all is zero, and that
`1` is one.  A `State` is a register file, by name, and a memory.

IE64 executes instructions (`IE64.Instruction.exec`).  IE32 executes code as it is written
(`IE32.exec`), and its meaning does not go through the reader of instructions: the operand text
itself says what is meant, and the words are listed here (`dataWords`).  A source is a value unless
it is marked as an address, bracketed, or names a register; the destination of a store is an
address, whatever its mark, unless it is bracketed; what is between brackets is a register and an
offset.

Control flow, the stack and waiting have no meaning here: both machines refuse them.
-/
import Mathlib.Logic.Function.Basic
import Mathlib.Algebra.Group.Defs
import Retarget.Lowering

namespace Retarget

set_option autoImplicit false

/-- What operations compute, and the words that texts stand for. -/
structure Interpretation (W : Type) [Zero W] [One W] where
  binary : BinaryOp → W → W → W
  complement : W → W
  value : Text → W
  value_trim : ∀ t, value (Text.trim t) = value t
  value_nil : value [] = 0
  value_one : value "1" = 1

structure State (W : Type) where
  registers : Text → W
  memory : W → W

namespace State

variable {W : Type}

def setRegister (s : State W) (name : Text) (word : W) : State W :=
  { s with registers := Function.update s.registers name word }

def setMemory [DecidableEq W] (s : State W) (address word : W) : State W :=
  { s with memory := Function.update s.memory address word }

@[simp] theorem setRegister_memory (s : State W) (name : Text) (word : W) :
    (s.setRegister name word).memory = s.memory := rfl

@[simp] theorem setRegister_self (s : State W) (name : Text) (word : W) :
    (s.setRegister name word).registers name = word := by
  simp [setRegister]

theorem setRegister_of_ne (s : State W) {name other : Text} (word : W) (different : other ≠ name) :
    (s.setRegister name word).registers other = s.registers other := by
  simp [setRegister, different]

@[simp] theorem setMemory_registers [DecidableEq W] (s : State W) (address word : W) :
    (s.setMemory address word).registers = s.registers := rfl

end State

variable {W : Type} [AddZeroClass W] [One W] [DecidableEq W] (I : Interpretation W)

/-! ## IE64 -/

namespace IE64

def Address.word (s : State W) (a : Address) : W := s.registers a.base + I.value a.offset

def Source.word (s : State W) : Source → W
  | .register name => s.registers name
  | .immediate value => I.value value

/-- Execute an instruction that moves or computes data. -/
def Instruction.exec (s : State W) : Instruction → Option (State W)
  | .loadAddress dest address => some (s.setRegister dest (I.value address))
  | .move dest source => some (s.setRegister dest (source.word I s))
  | .load dest address => some (s.setRegister dest (s.memory (address.word I s)))
  | .store source address => some (s.setMemory (address.word I s) (s.registers source))
  | .binary op dest left right =>
      some (s.setRegister dest (I.binary op (s.registers left) (right.word I s)))
  | .complement dest source => some (s.setRegister dest (I.complement (s.registers source)))
  | .control _ | .stack _ _ | .jump _ _ | .branch _ _ _ | .wait _ => none

def run (s : State W) : List Instruction → Option (State W)
  | [] => some s
  | i :: rest => (i.exec I s).bind (run · rest)

end IE64

/-! ## IE32 -/

namespace IE32

open Text (trim)

def register? (t : Text) : Option Text := (RegisterMap.standard.find? t).map Register.name

/-- The address between brackets: the contents of a register plus an offset. -/
def bracketAddress (s : State W) (t : Text) : Option W :=
  match readIndexed .standard t with
  | .ok (base, offset) => some (s.registers base.name + I.value offset)
  | .error _ => none

/-- The address that a destination in memory stands for: between brackets, or what is left when
one leading `#` or `@` is dropped. -/
def destination (s : State W) (t : Text) : Option W :=
  match trim t with
  | '[' :: _ => bracketAddress I s t
  | '#' :: address | '@' :: address => some (I.value address)
  | address => some (I.value address)

/-- The word that a source operand stands for: memory if it is bracketed or marked with `@`, the
contents of a register it names, and else the value itself. -/
def source (s : State W) (t : Text) : Option W :=
  match trim t with
  | '[' :: _ => (bracketAddress I s t).map s.memory
  | '@' :: address => some (s.memory (I.value address))
  | '#' :: value => some (I.value value)
  | value =>
      match register? t with
      | some name => some (s.registers name)
      | none => some (I.value value)

def stepped : StepOp → W → W
  | .increment, word => I.binary .add word 1
  | .decrement, word => I.binary .sub word 1

/-- `INC` and `DEC`: of a register, or of the memory at an address. -/
def execStep (s : State W) (op : StepOp) (t : Text) : Option (State W) :=
  match trim t with
  | '[' :: _ | '@' :: _ => (destination I s t).map fun address =>
      s.setMemory address (stepped I op (s.memory address))
  | _ => (register? t).map fun name =>
      s.setRegister name (stepped I op (s.registers name))

def dataWords : List (Text × Mnemonic) :=
  [("LOAD", .load), ("STORE", .store), ("ADD", .binary .add), ("SUB", .binary .sub),
    ("MUL", .binary .mul), ("DIV", .binary .div), ("MOD", .binary .mod), ("AND", .binary .and),
    ("OR", .binary .or), ("XOR", .binary .xor), ("SHL", .binary .shiftLeft),
    ("SHR", .binary .shiftRight), ("NOT", .complement), ("INC", .step .increment),
    ("DEC", .step .decrement)]

/-- What an upper-case word says is to be done with data.  `LDx` and `STx` name a register. -/
def dataMnemonic? : Text → Option Mnemonic
  | ['L', 'D', letter] => some (.loadNamed letter)
  | ['S', 'T', letter] => some (.storeNamed letter)
  | word => dataWords.lookup word

/-- Execute code that moves or computes data. -/
def exec (s : State W) (code : Text) : Option (State W) :=
  let (word, rest) := Text.cutWord code
  match dataMnemonic? (Text.upper word), splitOperands rest with
  | some (.loadNamed letter), [operand] => do
      return s.setRegister (← register? [letter]) (← source I s operand)
  | some .load, [dest, operand] => do
      return s.setRegister (← register? dest) (← source I s operand)
  | some (.storeNamed letter), [operand] => do
      return s.setMemory (← destination I s operand) (s.registers (← register? [letter]))
  | some .store, [src, operand] => do
      return s.setMemory (← destination I s operand) (s.registers (← register? src))
  | some (.binary op), [dest, operand] => do
      let name ← register? dest
      return s.setRegister name (I.binary op (s.registers name) (← source I s operand))
  | some .complement, [operand] => do
      let name ← register? operand
      return s.setRegister name (I.complement (s.registers name))
  | some (.step op), [operand] => execStep I s op operand
  | _, _ => none

def run (s : State W) : List Text → Option (State W)
  | [] => some s
  | code :: rest => (exec I s code).bind (run · rest)

/-- Does the code start with a mnemonic that moves or computes data? -/
def movesData (code : Text) : Bool := (dataMnemonic? (Text.upper (Text.cutWord code).1)).isSome

end IE32

end Retarget
