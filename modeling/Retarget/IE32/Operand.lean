/-
# Retarget.IE32.Operand -- the operands of IE32 instructions

An operand is written in one of five ways (`OperandKind`): `#value`, `@address`, `[register]` or
`[register+offset]`, a register name, or anything else, which is a number or a name.  The first
three are told apart by their first character alone.  Only where an instruction can take a
register does `OperandKind.among` look for one, so that `B` is a register as a source and an
address as the destination of a store.

`splitOperands` cuts the operand text of an instruction at its first comma outside brackets.
`Operand` and `Place` are what the texts mean: a value, a register or a place in memory.
-/
import Retarget.Register

namespace Retarget.IE32

set_option autoImplicit false

open Text (trim)

inductive OperandKind where
  | immediate
  | direct
  | indirect
  | register
  | bare
  deriving DecidableEq, Repr

namespace OperandKind

def describe : OperandKind → Text
  | .immediate => "immediate"
  | .direct => "direct memory"
  | .indirect => "register-indirect"
  | .register => "register"
  | .bare => "bare"

/-- The kind that the first character shows. -/
def ofText (t : Text) : OperandKind :=
  match (trim t).head? with
  | some '#' => .immediate
  | some '@' => .direct
  | some '[' => .indirect
  | _ => .bare

/-- The kind where registers may stand. -/
def among (registers : RegisterMap) (t : Text) : OperandKind :=
  if ofText t = .bare ∧ registers.contains t then .register else ofText t

end OperandKind

/-! ## Cutting operand text -/

/-- The bracket depth after one more character.  A surplus closing bracket counts below zero. -/
def depthAfter (depth : Int) (c : Char) : Int :=
  if c = '[' then depth + 1 else if c = ']' then depth - 1 else depth

/-- What stands before and after the first comma at depth zero, if there is one. -/
def cutAtComma (depth : Int) : Text → Option (Text × Text)
  | [] => none
  | c :: rest =>
      if c = ',' ∧ depth = 0 then some ([], rest)
      else (cutAtComma (depthAfter depth c) rest).map fun (first, second) =>
        (c :: first, second)

/-- The operands in a text: none, one, or two that the first comma outside brackets parts.  Any
further comma belongs to the second. -/
def splitOperands (t : Text) : List Text :=
  let s := trim t
  if s.isEmpty then []
  else match cutAtComma 0 s with
    | some (first, second) => [trim first, trim second]
    | none => [s]

/-! ## Reading one operand -/

/-- The operand without one leading `#` or `@`. -/
def withoutMarker (t : Text) : Text :=
  match trim t with
  | '#' :: rest => trim rest
  | '@' :: rest => trim rest
  | s => s

/-- The value that an operand is as an immediate: what follows the `#`, or all of it. -/
def immediateValue (t : Text) : Text :=
  match trim t with
  | '#' :: rest => rest
  | s => s

/-- What stands between the brackets of an operand.  Either bracket may be missing. -/
def bracketed (t : Text) : Text :=
  let s := trim t
  let s := if s.head? = some '[' then s.tail else s
  let s := if s.getLast? = some ']' then s.dropLast else s
  trim s

/-- The base register and the offset of a bracketed operand: the offset is what follows the
first `+`, and empty if there is none. -/
def readIndexed (registers : RegisterMap) (t : Text) : Except Fault (Register × Text) :=
  let (base, offset) := Text.cutAt '+' (bracketed t)
  (registers.lookup base).map fun register => (register, trim (offset.getD []))

inductive Place where
  /-- The address that the text stands for. -/
  | direct (address : Text)
  /-- A register's contents plus the offset that the text stands for. -/
  | indexed (base : Register) (offset : Text)
  deriving DecidableEq, Repr

inductive Operand where
  | value (text : Text)
  | register (register : Register)
  | memory (place : Place)
  deriving DecidableEq, Repr

namespace Place

def readIndirect (registers : RegisterMap) (t : Text) : Except Fault Place :=
  (readIndexed registers t).map fun (base, offset) => .indexed base offset

/-- The destination of a store.  Without brackets it is an address, whatever its marker. -/
def read (registers : RegisterMap) (t : Text) : Except Fault Place :=
  match OperandKind.ofText t with
  | .indirect => readIndirect registers t
  | _ => .ok (.direct (withoutMarker t))

end Place

namespace Operand

/-- A source operand.  One that is neither marked nor a register is a value. -/
def read (registers : RegisterMap) (t : Text) : Except Fault Operand :=
  match OperandKind.among registers t with
  | .immediate | .bare => .ok (.value (immediateValue t))
  | .register => (registers.lookup t).map .register
  | .direct => .ok (.memory (.direct (withoutMarker t)))
  | .indirect => (Place.readIndirect registers t).map .memory

end Operand

end Retarget.IE32
