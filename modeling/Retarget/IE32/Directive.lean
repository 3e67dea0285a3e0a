/-
# Retarget.IE32.Directive -- assembler directives

A directive is a keyword that starts with a dot, in any case, and its arguments.  Most change
their keyword only; `.equ NAME VALUE` puts the name first, and `.include` replaces the name of
the standard include file.  The arguments are carried over as they stand.

A directive that the table does not have is no error: it becomes a warning in a comment.
-/
import Retarget.Table
import Retarget.Text.Blank
import Retarget.Text.Uppercase

namespace Retarget.IE32

set_option autoImplicit false

/-- How a directive is written on IE64. -/
inductive DirectiveForm where
  /-- A keyword of its own before the same arguments. -/
  | keyword (keyword : Text)
  /-- A name, `equ`, and the rest. -/
  | equate
  /-- An include file, by its IE64 name if it is the standard one. -/
  | includeFile
  deriving DecidableEq, Repr

namespace DirectiveForm

/-- The standard include file, in its quotes. -/
def standardInclude : Text := "\"ie32.inc\""

/-- What stands in its place on IE64. -/
def standardInclude64 : Text := "\"ie64.inc\""

def render : DirectiveForm → Text → Text
  | .keyword word, args => Text.trimRight (word ++ " " ++ args)
  | .equate, args =>
      let (name, value) := Text.cutWord args
      if value.isEmpty then Text.trimLeft (args ++ " equ") else name ++ " equ " ++ value
  | .includeFile, args =>
      let file := Text.trim args
      let file := if file = standardInclude then standardInclude64 else file
      Text.trimRight ("include " ++ file)

end DirectiveForm

/-- The form of each directive, by its keyword in upper case. -/
abbrev DirectiveTable := Table Text DirectiveForm

def DirectiveTable.standard : DirectiveTable :=
  Table.ofList [(".ORG", .keyword "org"), (".EQU", .equate), (".WORD", .keyword "dc.l"),
    (".BYTE", .keyword "dc.b"), (".SPACE", .keyword "ds.b"), (".ASCII", .keyword "dc.b"),
    (".INCBIN", .keyword "incbin"), (".INCLUDE", .includeFile)]

/-- Does the table have the keyword, in any case? -/
def DirectiveTable.supports (table : DirectiveTable) (keyword : Text) : Bool :=
  (table.get? (Text.upper keyword)).isSome

inductive Directive where
  | known (line : Text)
  | unknown (code : Text)
  deriving DecidableEq, Repr

namespace Directive

def convert (table : DirectiveTable) (code : Text) : Directive :=
  let (keyword, args) := Text.cutWord code
  match table.get? (Text.upper keyword) with
  | some form => .known (form.render args)
  | none => .unknown (Text.trim code)

def unknownMessage (code : Text) : Text := "unknown directive: " ++ code

def warning : Directive → Option Text
  | .known _ => none
  | .unknown code => some (unknownMessage code)

def text : Directive → Text
  | .known line => line
  | .unknown code => "; WARNING: " ++ unknownMessage code

end Directive

end Retarget.IE32
