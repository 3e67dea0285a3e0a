/-
# Retarget.Files.Access -- reading and writing files

`FileAccess` is what a conversion needs of a file system: reading and writing whole files by
path, either of which the system may refuse (`Errno`).  It leaves the monad open, so that the
same conversion runs on the disk and on a `FileTree`.
-/
import Retarget.Text.Utf8

namespace Retarget

set_option autoImplicit false

/-- Why the system refuses: the number of the error and its wording. -/
structure Errno where
  code : Int
  reason : Text
  deriving DecidableEq, Repr

namespace Errno

def noSuchFile : Errno := ⟨2, "No such file or directory"⟩

def notADirectory : Errno := ⟨20, "Not a directory"⟩

def isADirectory : Errno := ⟨21, "Is a directory"⟩

def nameTooLong : Errno := ⟨36, "File name too long"⟩

end Errno

/-- A refusal, and the path it concerns if there is one. -/
structure FileFault where
  errno : Errno
  path : Option Text := none
  deriving DecidableEq, Repr

namespace FileFault

def message (f : FileFault) : Text :=
  "[Errno " ++ Text.ofInt f.errno.code ++ "] " ++ f.errno.reason ++
    (match f.path with
    | none => []
    | some path => ": " ++ Text.quoted path)

end FileFault

inductive Presence where
  | missing
  | file
  | directory
  deriving DecidableEq, Repr

structure FileAccess (m : Type → Type) where
  read : Text → m (Except Errno Bytes)
  write : Text → Bytes → m (Except Errno Unit)

namespace FileAccess

variable {m : Type → Type} [Monad m]

/-- What stands at a path, as an attempt to read it shows. -/
def presence (files : FileAccess m) (path : Text) : m Presence := do
  match ← files.read path with
  | .ok _ => return .file
  | .error errno => return if errno.code = Errno.isADirectory.code then .directory else .missing

end FileAccess

end Retarget
