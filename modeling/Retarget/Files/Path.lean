/-
# Retarget.Files.Path -- paths and the name of the converted file

A path is an optional root and the names along it.  Reading one drops empty names and single
dots but keeps double dots, which only the file system can resolve.  Two leading slashes are a
root of their own; three or more are one.

`Path.defaultOutput` names the converted file: beside the source, with `_ie64.asm` in place of
`.asm`, or after the whole name if it does not end so.  A path without a final name has none, and
a path that holds a NUL cannot be handed to the system (`PathFault`).
-/
import Retarget.Text.Quoted

namespace Retarget

set_option autoImplicit false

inductive PathRoot where
  | relative
  | slash
  | doubleSlash
  deriving DecidableEq, Repr

def PathRoot.text : PathRoot → Text
  | .relative => []
  | .slash => "/"
  | .doubleSlash => "//"

/-- A root and the names along the path, none of them empty or a single dot. -/
structure Path where
  root : PathRoot
  names : List Text
  deriving DecidableEq, Repr

namespace Path

/-- The root that a number of leading slashes stands for. -/
def rootOf (slashes : Nat) : PathRoot :=
  if slashes = 0 then .relative else if slashes = 2 then .doubleSlash else .slash

def ofText (t : Text) : Path where
  root := rootOf (t.takeWhile (· == '/')).length
  names := (Text.piecesAt '/' t).filter fun name => !(name == [] || name == ['.'])

/-- The path as it is written; a relative path without names is a dot. -/
def text (p : Path) : Text :=
  if p.root = .relative ∧ p.names = [] then "." else p.root.text ++ Text.join "/" p.names

def name? (p : Path) : Option Text := p.names.getLast?

def withName (p : Path) (name : Text) : Path := { p with names := p.names.dropLast ++ [name] }

def sourceExtension : Text := ".asm"

/-- The name of the converted file for a source file of the given name. -/
def outputName (name : Text) : Text :=
  let stem :=
    if sourceExtension.isSuffixOf name then name.take (name.length - sourceExtension.length)
    else name
  stem ++ "_ie64.asm"

/-- Does the text hold a NUL?  The system would take a path to end there. -/
def holdsNul (t : Text) : Bool := t.contains '\x00'

end Path

/-- What makes a path unusable before any file is looked for. -/
inductive PathFault where
  /-- It holds a NUL. -/
  | nul
  /-- It has no final name. -/
  | noName (path : Path)
  deriving DecidableEq, Repr

def PathFault.message : PathFault → Text
  | .nul => "embedded null byte"
  | .noName path => "PosixPath(" ++ Text.quoted path.text ++ ") has an empty name"

/-- Where the converted file goes, unless the path has no final name. -/
def Path.defaultOutput (p : Path) : Except PathFault Path :=
  match p.name? with
  | some name => .ok (p.withName (outputName name))
  | none => .error (.noName p)

end Retarget
