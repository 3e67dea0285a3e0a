/-
# Retarget.Main -- the command on the disk

The command line program: its files are those on the disk, and what the run prints goes to the
standard streams.
-/
import Retarget.Command.Run

namespace Retarget

set_option autoImplicit false

/-- The number and the wording of an error of the system. -/
def Errno.ofError : IO.Error → Errno
  | .alreadyExists _ code details | .invalidArgument _ code details
  | .permissionDenied _ code details | .resourceExhausted _ code details
  | .inappropriateType _ code details | .noSuchThing _ code details
  | .interrupted _ code details | .noFileOrDirectory _ code details
  | .otherError code details | .resourceBusy code details | .resourceVanished code details
  | .unsupportedOperation code details | .hardwareFault code details
  | .unsatisfiedConstraints code details | .illegalOperation code details
  | .protocolError code details | .timeExpired code details => ⟨code.toNat, details⟩
  | .unexpectedEof => ⟨0, "unexpected end of file"⟩
  | .userError message => ⟨0, message⟩

def diskAccess : FileAccess IO where
  read path := do
    try
      let content ← IO.FS.readBinFile (String.ofList path)
      return .ok content.toList
    catch e => return .error (.ofError e)
  write path content := do
    try
      IO.FS.writeBinFile (String.ofList path) (ByteArray.mk content.toArray)
      return .ok ()
    catch e => return .error (.ofError e)

end Retarget

open Retarget in
def main (words : List String) : IO UInt32 := do
  match ← Command.run diskAccess (words.map String.toList) with
  | .ok outcome =>
      IO.print (String.ofList outcome.out)
      IO.eprint (String.ofList outcome.err)
      return outcome.exit.code.toUInt32
  | .error fault =>
      IO.eprintln (String.ofList fault.message)
      return 1
