/-
# Retarget.Files.Tree -- a file system as a value

A `FileTree` holds the files and directories below a working directory.  A path is resolved name
by name: every step leaves a directory, so a missing one or a file on the way is refused, and
double dots lead to the parent even of the working directory, above which there is nothing but
directories.

Lengths are limited, in bytes.  A path that is too long is refused as a whole; a name that is too
long is refused when its directory is searched for it, so only if there is one.
-/
import Retarget.Files.Access
import Retarget.Table

namespace Retarget

set_option autoImplicit false

/-- The names that lead from the working directory to a place, without dots except for the
double dots that lead out of it.  The root directory is the single name `/`. -/
abbrev Location := List Text

namespace Location

def rootDirectory : Location := [['/']]

/-- The working directory or one above it. -/
def isAbove (l : Location) : Bool := l.all (· == ['.', '.'])

def parent (l : Location) : Location :=
  if isAbove l then l ++ [['.', '.']] else if l = rootDirectory then l else l.dropLast

def follow (l : Location) (name : Text) : Location :=
  if name = [] ∨ name = ['.'] then l
  else if name = ['.', '.'] then parent l
  else l ++ [name]

def start (path : Text) : Location := if path.head? = some '/' then rootDirectory else []

end Location

inductive Node where
  | directory
  | file (content : Bytes)
  deriving DecidableEq, Repr

structure FileTree where
  nodes : Table Location Node

namespace FileTree

def empty : FileTree := ⟨Table.empty⟩

/-- What is at a place.  The working directory, those above it and the root directory are always
there. -/
def find? (tree : FileTree) (l : Location) : Option Node :=
  if Location.isAbove l || l == Location.rootDirectory then some .directory
  else tree.nodes.get? l

def maxNameSize : Nat := 255

def maxPathSize : Nat := 4095

/-- Follow names from a place, which must be a directory if a name is left. -/
def walk (tree : FileTree) (l : Location) : List Text → Except Errno Location
  | [] => .ok l
  | name :: rest =>
      match tree.find? l with
      | some .directory =>
          if maxNameSize < (Text.Utf8.encode name).length then .error .nameTooLong
          else walk tree (l.follow name) rest
      | some (.file _) => .error .notADirectory
      | none => .error .noSuchFile

/-- The place a path leads to.  Its parent is a directory; it need not exist itself. -/
def resolve (tree : FileTree) (path : Text) : Except Errno Location :=
  if path.isEmpty then .error .noSuchFile
  else if maxPathSize < (Text.Utf8.encode path).length then .error .nameTooLong
  else tree.walk (.start path) (Text.piecesAt '/' path)

def read (tree : FileTree) (path : Text) : Except Errno Bytes := do
  match tree.find? (← tree.resolve path) with
  | some (.file content) => .ok content
  | some .directory => .error .isADirectory
  | none => .error .noSuchFile

/-- The tree with the given contents in the file at a path. -/
def write (tree : FileTree) (path : Text) (content : Bytes) : Except Errno FileTree := do
  let l ← tree.resolve path
  match tree.find? l with
  | some .directory => .error .isADirectory
  | _ => .ok ⟨tree.nodes.insert l (.file content)⟩

/-- The place that a path names, whatever the tree holds. -/
def locate (path : Text) : Location :=
  (Text.piecesAt '/' path).foldl Location.follow (Location.start path)

/-- Make a place and all above it directories, where nothing is yet. -/
def withDirectories (tree : FileTree) (l : Location) : FileTree :=
  (List.range l.length).foldl (fun tree depth =>
    let l := l.take (depth + 1)
    if (tree.find? l).isSome then tree else ⟨tree.nodes.insert l .directory⟩) tree

/-- A tree with the given directories and files, and the directories these need. -/
def ofLists (directories : List Text) (files : List (Text × Bytes)) : FileTree :=
  let tree := directories.foldl (fun tree path => tree.withDirectories (locate path)) empty
  files.foldl (fun tree (path, content) =>
    let l := locate path
    ⟨(tree.withDirectories l.dropLast).nodes.insert l (.file content)⟩) tree

/-- The files below the working directory, by path. -/
def files (tree : FileTree) : List (Text × Bytes) :=
  tree.nodes.entries.filterMap fun
    | (l, .file content) =>
        if l.head? = some ['.', '.'] ∨ l.head? = some ['/'] then none
        else some (Text.join "/" l, content)
    | (_, .directory) => none

/-- Access to the files of a tree that is threaded through. -/
def access : FileAccess (StateM FileTree) where
  read path := do return (← get).read path
  write path content := do
    match (← get).write path content with
    | .ok tree =>
        set tree
        return .ok ()
    | .error errno => return .error errno

@[simp] theorem run_access_read (tree : FileTree) (path : Text) :
    (access.read path).run tree = (tree.read path, tree) := rfl

@[simp] theorem run_access_write (tree : FileTree) (path : Text) (content : Bytes) :
    (access.write path content).run tree =
      match tree.write path content with
      | .ok written => (.ok (), written)
      | .error errno => (.error errno, tree) := by
  simp only [access, StateT.run_bind, StateT.run_get, pure_bind]
  cases tree.write path content <;> rfl

end FileTree

end Retarget
