/-
# Retarget.Lowering -- IE32 instructions as IE64 instructions

`Instruction.lower` gives the IE64 instructions that do the work of one IE32 instruction.  A
memory operand is fetched into a scratch register first, an address that is no register is put
into one before it is used, and a change of memory by one is a load, an addition and a store.
Lowering never fails: what cannot be converted was refused when the instruction was read.

`Lowering.ofCode` goes from text to text.  Code that cannot be read becomes two comment lines,
the message and the code.
-/
import Retarget.IE32.Instruction
import Retarget.IE64.Instruction

namespace Retarget

set_option autoImplicit false

namespace IE32

open IE64 (Address)

/-- The instructions that make a place in memory reachable, and the address it then has. -/
def Place.reach : Place → List IE64.Instruction × Address
  | .direct address => ([.loadAddress scratchAddress address], { base := scratchAddress })
  | .indexed base offset => ([], { base := base.target, offset })

/-- The instructions that make an operand a source of arithmetic, and the source it then is. -/
def Operand.fetch : Operand → List IE64.Instruction × IE64.Source
  | .value text => ([], .immediate text)
  | .register r => ([], .register r.target)
  | .memory place =>
      (place.reach.1 ++ [.load scratchAddress place.reach.2], .register scratchAddress)

def Instruction.lower : Instruction → List IE64.Instruction
  | .control op => [.control op]
  | .stack op register => [.stack op register.target]
  | .jump op target => [.jump op target]
  | .branch condition register target => [.branch condition register.target target]
  | .load dest (.value text) => [.move dest.target (.immediate text)]
  | .load dest (.register source) => [.move dest.target (.register source.target)]
  | .load dest (.memory place) => place.reach.1 ++ [.load dest.target place.reach.2]
  | .store source place => place.reach.1 ++ [.store source.target place.reach.2]
  | .binary op dest source =>
      source.fetch.1 ++ [.binary op dest.target dest.target source.fetch.2]
  | .complement register => [.complement register.target register.target]
  | .step op (.register register) =>
      [.binary op.binary register.target register.target (.immediate "1")]
  | .step op (.memory place) =>
      place.reach.1 ++
        [.load scratchValue place.reach.2,
          .binary op.binary scratchValue scratchValue (.immediate "1"),
          .store scratchValue place.reach.2]
  | .wait delay => [.wait (.immediate delay)]

end IE32

/-- The lines for one instruction, and the diagnostic if they say that it cannot be converted. -/
structure Lowering where
  lines : List Text
  error : Option Diagnostic := none
  deriving DecidableEq, Repr

namespace Lowering

/-- The two lines that stand for code that cannot be converted. -/
def annotation (indent : Text) (fault : Fault) (code : Text) : List Text :=
  [indent ++ "; ERROR: " ++ fault.message, indent ++ "; " ++ code]

def ofCode (registers : RegisterMap) (suffix indent code : Text) : Lowering :=
  let code := Text.trim code
  match IE32.Instruction.read registers code with
  | .ok instruction => { lines := instruction.lower.map (indent ++ ·.render suffix) }
  | .error fault =>
      { lines := annotation indent fault code
        error := some (Diagnostic.withSource { fault } code) }

def failed (l : Lowering) : Bool := l.error.isSome

end Lowering

end Retarget
