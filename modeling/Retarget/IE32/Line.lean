/-
# Retarget.IE32.Line -- one line of IE32 source

A line has an indent of spaces and tabs, code, and a comment.  The comment begins at the first
semicolon that stands outside quotes; a quoted span runs from a single or double quote to the
next quote of the same kind, and there are no escapes.  `splitComment` cuts there, `Line.parse`
takes a line apart, and `LineKind.ofCode` says what its code is.  Labels are recognised before
directives, so a name that starts with a dot and ends with a colon is a label.
-/
import Retarget.Text.Blank

namespace Retarget.IE32

set_option autoImplicit false

/-- Inside quotes of a kind, or outside (`none`), after one more character. -/
def quoteAfter : Option Char → Char → Option Char
  | some quote, c => if c = quote then none else some quote
  | none, c => if c = '\'' ∨ c = '"' then some c else none

/-- What stands before and after the first semicolon outside quotes, if there is one.  The text
begins inside quotes of the given kind, or outside. -/
def cutComment (quote : Option Char) : Text → Option (Text × Text)
  | [] => none
  | c :: rest =>
      if c = ';' ∧ quote = none then some ([], rest)
      else (cutComment (quoteAfter quote c) rest).map fun (code, comment) => (c :: code, comment)

/-- The code and the comment of a text.  At the cut the code loses its trailing spaces and tabs
and the comment its leading spaces; without a comment the text is all code, as it stands. -/
def splitComment (t : Text) : Text × Text :=
  match cutComment none t with
  | some (code, comment) =>
      (Text.dropRightWhile Text.isIndent code, comment.dropWhile (· == ' '))
  | none => (t, [])

inductive LineKind where
  | empty
  | label
  | directive
  | instruction
  deriving DecidableEq, Repr

namespace LineKind

/-- A label ends with a colon or has a first word that does; a directive starts with a dot. -/
def ofCode (code : Text) : LineKind :=
  let t := Text.trim code
  let word := (Text.cutWord t).1
  if t.isEmpty then .empty
  else if t.getLast? = some ':' ∨ word.getLast? = some ':' then .label
  else if word.head? = some '.' then .directive
  else .instruction

end LineKind

structure Line where
  indent : Text
  code : Text
  comment : Text
  deriving DecidableEq, Repr

namespace Line

def parse (raw : Text) : Line :=
  let (code, comment) := splitComment (Text.trim (raw.dropWhile Text.isIndent))
  { indent := raw.takeWhile Text.isIndent, code, comment }

def kind (line : Line) : LineKind := .ofCode line.code

/-- The comment as it is put after a converted line. -/
def suffix (line : Line) : Text :=
  if line.comment.isEmpty then [] else "    ; " ++ line.comment

end Line

end Retarget.IE32
