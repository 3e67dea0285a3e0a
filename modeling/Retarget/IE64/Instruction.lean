/-
# Retarget.IE64.Instruction -- IE64 instructions and how they are written

IE64 is a load/store machine: arithmetic has a destination, a left register and a right source,
and memory is reached through a base register only.  Texts that an operand carries over from
the source program (addresses, offsets, values, jump targets) stay text; nothing is evaluated.

`Instruction.render` writes an instruction as a line.  Moves, loads, stores and arithmetic carry
the size suffix (`Instruction.isSized`); no other mnemonic does.
-/
import Retarget.Operation

namespace Retarget.IE64

set_option autoImplicit false

/-- The memory at a base register plus an offset, which may be empty. -/
structure Address where
  base : Text
  offset : Text := []
  deriving DecidableEq, Repr

def Address.render (a : Address) : Text := a.offset ++ "(" ++ a.base ++ ")"

/-- The right source of an operation. -/
inductive Source where
  | register (name : Text)
  | immediate (value : Text)
  deriving DecidableEq, Repr

def Source.render : Source → Text
  | .register name => name
  | .immediate value => '#' :: value

inductive Instruction where
  | control (op : Control)
  | stack (op : StackOp) (register : Text)
  | jump (op : Jump) (target : Text)
  | branch (condition : Condition) (register target : Text)
  /-- Put an address itself into a register. -/
  | loadAddress (dest address : Text)
  | move (dest : Text) (source : Source)
  | load (dest : Text) (address : Address)
  | store (source : Text) (address : Address)
  | binary (op : BinaryOp) (dest left : Text) (right : Source)
  | complement (dest source : Text)
  | wait (delay : Source)
  deriving DecidableEq, Repr

namespace Instruction

/-- The mnemonic without a size suffix. -/
def mnemonic : Instruction → Text
  | .control op => op.target
  | .stack op _ => op.target
  | .jump op _ => op.target
  | .branch condition _ _ => condition.target
  | .loadAddress _ _ => "la"
  | .move _ _ => "move"
  | .load _ _ => "load"
  | .store _ _ => "store"
  | .binary op _ _ _ => op.target
  | .complement _ _ => "not"
  | .wait _ => "wait"

def isSized : Instruction → Bool
  | .move _ _ | .load _ _ | .store _ _ | .binary _ _ _ _ | .complement _ _ => true
  | _ => false

def operands : Instruction → List Text
  | .control _ => []
  | .stack _ register => [register]
  | .jump _ target => [target]
  | .branch _ register target => [register, target]
  | .loadAddress dest address => [dest, address]
  | .move dest source => [dest, source.render]
  | .load dest address => [dest, address.render]
  | .store source address => [source, address.render]
  | .binary _ dest left right => [dest, left, right.render]
  | .complement dest source => [dest, source]
  | .wait delay => [delay.render]

/-- A space and the operands, or nothing if there are none. -/
def operandText (i : Instruction) : Text :=
  match i.operands with
  | [] => []
  | operands => ' ' :: Text.join ", " operands

/-- The instruction as a line, with the given size suffix where one belongs. -/
def render (suffix : Text) (i : Instruction) : Text :=
  i.mnemonic ++ (if i.isSized then suffix else []) ++ i.operandText

end Instruction

end Retarget.IE64
