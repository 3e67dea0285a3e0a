/-
# Retarget.Failure -- what ends a run, and how it is reported

Faults of single instructions never end a run; what does is listed here: a setting that is not
valid, a path that cannot be used, a file that cannot be read or written, bytes that are no text.
Each kind has its message and its exit code.
-/
import Retarget.Diagnostic
import Retarget.Files.Access
import Retarget.Files.Path

namespace Retarget

set_option autoImplicit false

/-- How a run ended, as its caller is told. -/
inductive ExitCode where
  | success
  /-- The output was written, but not every line could be converted. -/
  | conversionErrors
  /-- Wrong arguments, or a file that cannot be read or written. -/
  | invalid
  /-- Something that should not happen. -/
  | internal
  deriving DecidableEq, Repr

def ExitCode.code : ExitCode → Nat
  | .success => 0
  | .conversionErrors => 1
  | .invalid => 2
  | .internal => 3

inductive Failure where
  /-- A setting that is not valid. -/
  | configuration (message : Text)
  /-- A conversion that was given up. -/
  | conversion (message : Text)
  /-- A diagnostic that nobody collected. -/
  | diagnostic (diagnostic : Diagnostic)
  /-- An argument that is not valid. -/
  | parameter (message : Text)
  /-- A path that cannot be used. -/
  | path (fault : PathFault)
  /-- A file that cannot be read or written. -/
  | file (fault : FileFault)
  /-- An input that is no text. -/
  | encoding (fault : Text.Utf8.Fault)
  /-- Anything else. -/
  | unexpected (message : Text)
  deriving DecidableEq, Repr

namespace Failure

def message : Failure → Text
  | .configuration message => message
  | .conversion message => message
  | .diagnostic d => d.text
  | .parameter message => message
  | .path fault => fault.message
  | .file fault => fault.message
  | .encoding fault => fault.message
  | .unexpected message => message

def exitCode : Failure → ExitCode
  | .configuration _ | .parameter _ | .file _ | .encoding _ => .invalid
  | .conversion _ | .diagnostic _ => .conversionErrors
  | .path _ | .unexpected _ => .internal

def heading : Failure → Text
  | .configuration _ | .parameter _ | .file _ => "Error: "
  | .conversion _ | .diagnostic _ => "Conversion error: "
  | .encoding _ => "Error: input is not valid UTF-8: "
  | .path _ | .unexpected _ => "Internal error: "

/-- The lines that report the failure.  A verbose report of an internal one ends with its trace,
which is empty here. -/
def report (f : Failure) (verbose : Bool) : List Text :=
  (f.heading ++ f.message) ::
    (if verbose && f.exitCode = .internal then ["NoneType: None"] else [])

end Failure

end Retarget
