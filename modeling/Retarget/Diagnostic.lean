/-
# Retarget.Diagnostic -- what can be wrong with an instruction, and the report on it

A `Fault` is the cause for which one instruction cannot be converted, a `Diagnostic` a fault
together with the code it was found in.  A diagnostic keeps its text, which is written when the
diagnostic is made and again whenever it is given code (`Diagnostic.current`).

Faults never stop a conversion: they are collected in `Diagnostics` beside the warnings, and
`Diagnostics.report` lists both and counts them.
-/
import Retarget.Text.Basic

namespace Retarget

set_option autoImplicit false

/-- Why an instruction cannot be converted. -/
inductive Fault where
  /-- The name is that of no register. -/
  | unknownRegister (name : Text) (hint : Option Text)
  /-- The mnemonic takes another number of operands. -/
  | operandCount (mnemonic : Text) (expected : Int)
  /-- The mnemonic does not take an operand of this kind. -/
  | unsupportedOperand (mnemonic kind : Text) (reason : Option Text)
  /-- There is no such instruction. -/
  | unknownMnemonic (mnemonic : Text)
  /-- Any other cause, in words. -/
  | other (message : Text) (hint : Option Text)
  deriving DecidableEq, Repr

namespace Fault

/-- An optional text, unless it is empty. -/
def given (t : Option Text) : Option Text := t.filter (!·.isEmpty)

def message : Fault → Text
  | .unknownRegister name _ => "unknown IE32 register '" ++ name ++ "'"
  | .operandCount mnemonic expected =>
      mnemonic ++ " requires " ++ Text.ofInt expected ++
        (if expected = 1 then " operand" else " operands")
  | .unsupportedOperand mnemonic kind reason =>
      match given reason with
      | none => kind ++ " operand not supported for " ++ mnemonic
      | some reason => reason ++ "; " ++ kind ++ " operand cannot be converted"
  | .unknownMnemonic mnemonic => "unknown IE32 mnemonic '" ++ mnemonic ++ "'"
  | .other message _ => message

/-- What could be done about it. -/
def hint : Fault → Option Text
  | .unknownRegister _ hint => hint
  | .other _ hint => hint
  | _ => none

/-- The fault as a block of the report: the message, the code if it is known, and the hint unless
it is empty. -/
def block (f : Fault) (source : Option Text) : Text :=
  Text.unlines (["error: " ++ f.message] ++
    (source.map fun (code : Text) => "    " ++ code).toList ++
    ((given f.hint).map fun (hint : Text) => "hint: " ++ hint).toList)

end Fault

/-- A fault and, once it is known, the code it was found in. -/
structure Diagnostic where
  fault : Fault
  source : Option Text := none
  /-- The block of the report, as it was last written. -/
  text : Text := fault.block source
  current : text = fault.block source := by rfl
  deriving DecidableEq, Repr

namespace Diagnostic

/-- The diagnostic for the given code, whatever code it named before. -/
def withSource (d : Diagnostic) (code : Text) : Diagnostic :=
  { d with source := some code, text := d.fault.block (some code), current := rfl }

@[simp] theorem withSource_source (d : Diagnostic) (code : Text) :
    (d.withSource code).source = some code := rfl

theorem withSource_mk (fault : Fault) (code : Text) :
    withSource { fault } code = { fault, source := some code } := rfl

end Diagnostic

/-- The errors and warnings of a session, each in the order of their recording. -/
structure Diagnostics where
  errors : List Diagnostic := []
  warnings : List Text := []
  deriving DecidableEq, Repr

namespace Diagnostics

def addError (ds : Diagnostics) (d : Diagnostic) : Diagnostics :=
  { ds with errors := ds.errors ++ [d] }

def addWarning (ds : Diagnostics) (message : Text) : Diagnostics :=
  { ds with warnings := ds.warnings ++ [message] }

def errorCount (ds : Diagnostics) : Nat := ds.errors.length

def warningCount (ds : Diagnostics) : Nat := ds.warnings.length

def hasErrors (ds : Diagnostics) : Bool := !ds.errors.isEmpty

/-- A count with its noun, in the plural unless it is one. -/
def counted (n : Nat) (noun : Text) : Text :=
  Text.ofNat n ++ " " ++ noun ++ (if n = 1 then [] else ['s'])

def tally (ds : Diagnostics) : Text :=
  counted ds.errorCount "error" ++ ", " ++ counted ds.warningCount "warning"

def warningBlock (ds : Diagnostics) : Text :=
  Text.unlines (ds.warnings.map fun (warning : Text) => "warning: " ++ warning)

/-- Every error, then the warnings if there are any, then the tally, with an empty line between
two blocks. -/
def report (ds : Diagnostics) : Text :=
  Text.join "\n\n" (ds.errors.map Diagnostic.text ++
    (if ds.warnings.isEmpty then [] else [ds.warningBlock]) ++ [ds.tally])

end Diagnostics

end Retarget
