/-
# Retarget.Operation -- the operations both machines have, in both spellings

Most instructions differ only in how they are written: the same operation has one mnemonic on
IE32 and another on IE64.  Each group of operations is a type here, with a list of all its
members and its two spellings, `source` for IE32 and `target` for IE64.
-/
import Retarget.Text.Basic

namespace Retarget

set_option autoImplicit false

/-- Operations without operands. -/
inductive Control where
  | nop | halt | rts | sei | cli | rti
  deriving DecidableEq, Repr

namespace Control

def all : List Control := [.nop, .halt, .rts, .sei, .cli, .rti]

def source : Control → Text
  | .nop => "NOP"
  | .halt => "HALT"
  | .rts => "RTS"
  | .sei => "SEI"
  | .cli => "CLI"
  | .rti => "RTI"

def target : Control → Text
  | .nop => "nop"
  | .halt => "halt"
  | .rts => "rts"
  | .sei => "sei"
  | .cli => "cli"
  | .rti => "rti"

end Control

inductive StackOp where
  | push | pop
  deriving DecidableEq, Repr

namespace StackOp

def all : List StackOp := [.push, .pop]

def source : StackOp → Text
  | .push => "PUSH"
  | .pop => "POP"

def target : StackOp → Text
  | .push => "push"
  | .pop => "pop"

end StackOp

/-- Jumps that are always taken. -/
inductive Jump where
  | goto | call
  deriving DecidableEq, Repr

namespace Jump

def all : List Jump := [.goto, .call]

def source : Jump → Text
  | .goto => "JMP"
  | .call => "JSR"

def target : Jump → Text
  | .goto => "bra"
  | .call => "jsr"

end Jump

/-- Comparisons of a register with zero, on which a branch is taken. -/
inductive Condition where
  | notZero | zero | positive | notNegative | negative | notPositive
  deriving DecidableEq, Repr

namespace Condition

def all : List Condition :=
  [.notZero, .zero, .positive, .notNegative, .negative, .notPositive]

def source : Condition → Text
  | .notZero => "JNZ"
  | .zero => "JZ"
  | .positive => "JGT"
  | .notNegative => "JGE"
  | .negative => "JLT"
  | .notPositive => "JLE"

def target : Condition → Text
  | .notZero => "bnez"
  | .zero => "beqz"
  | .positive => "bgtz"
  | .notNegative => "bgez"
  | .negative => "bltz"
  | .notPositive => "blez"

end Condition

inductive BinaryOp where
  | add | sub | mul | div | mod | and | or | xor | shiftLeft | shiftRight
  deriving DecidableEq, Repr

namespace BinaryOp

def all : List BinaryOp :=
  [.add, .sub, .mul, .div, .mod, .and, .or, .xor, .shiftLeft, .shiftRight]

def source : BinaryOp → Text
  | .add => "ADD"
  | .sub => "SUB"
  | .mul => "MUL"
  | .div => "DIV"
  | .mod => "MOD"
  | .and => "AND"
  | .or => "OR"
  | .xor => "XOR"
  | .shiftLeft => "SHL"
  | .shiftRight => "SHR"

def target : BinaryOp → Text
  | .add => "add"
  | .sub => "sub"
  | .mul => "mulu"
  | .div => "divu"
  | .mod => "mod"
  | .and => "and"
  | .or => "or"
  | .xor => "eor"
  | .shiftLeft => "lsl"
  | .shiftRight => "lsr"

end BinaryOp

/-- Changes of a value by one. -/
inductive StepOp where
  | increment | decrement
  deriving DecidableEq, Repr

namespace StepOp

def all : List StepOp := [.increment, .decrement]

def source : StepOp → Text
  | .increment => "INC"
  | .decrement => "DEC"

/-- IE64 has no operation of its own for it: one is added or subtracted. -/
def binary : StepOp → BinaryOp
  | .increment => .add
  | .decrement => .sub

end StepOp

end Retarget
