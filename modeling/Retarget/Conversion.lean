/-
# Retarget.Conversion -- converting a line

`Settings` fix how lines are converted.  `Settings.convertLine` takes one line to one or more
lines of IE64 and says what it found wrong, if anything (`Finding`).  It looks at nothing but the
line, so what a session makes of a text is what it makes of its lines, one after the other.

Blank lines become empty lines, lines that are all comment stay as they are, and on every other
line the comment goes behind the first line of the result.
-/
import Retarget.Failure
import Retarget.IE32.Directive
import Retarget.IE32.Line
import Retarget.Lowering

namespace Retarget

set_option autoImplicit false

/-- The width of the words that converted instructions work on. -/
inductive Size where
  | long
  | quad
  deriving DecidableEq, Repr

namespace Size

def all : List Size := [.long, .quad]

def suffix : Size → Text
  | .long => ".l"
  | .quad => ".q"

def ofSuffix? (t : Text) : Option Size := all.find? (·.suffix == t)

/-- The width that a suffix stands for; any other text is no valid setting. -/
def ofSuffix (t : Text) : Except Failure Size :=
  match ofSuffix? t with
  | some size => .ok size
  | none => .error (.configuration ("invalid size suffix '" ++ t ++ "'. Valid suffixes: " ++
      Text.join ", " (all.map suffix)))

end Size

structure Settings where
  size : Size := .long
  /-- Is the output headed by a banner? -/
  banner : Bool := true
  registers : RegisterMap := .standard
  directives : IE32.DirectiveTable := .standard

/-- What was wrong with a line. -/
inductive Finding where
  | error (diagnostic : Diagnostic)
  | unknownDirective (code : Text)
  deriving DecidableEq, Repr

/-- The lines that one line became, and what was wrong with it. -/
structure Conversion where
  lines : List Text
  finding : Option Finding := none
  deriving DecidableEq, Repr

namespace Conversion

/-- The lines with a text behind the first. -/
def appendToFirst (suffix : Text) : List Text → List Text
  | [] => []
  | first :: rest => (first ++ suffix) :: rest

def ofDirective (line : IE32.Line) (directive : IE32.Directive) : Conversion where
  lines := [line.indent ++ directive.text ++ line.suffix]
  finding :=
    match directive with
    | .known _ => none
    | .unknown code => some (.unknownDirective code)

def ofLowering (line : IE32.Line) (lowering : Lowering) : Conversion where
  lines := appendToFirst line.suffix lowering.lines
  finding := lowering.error.map .error

end Conversion

namespace Settings

def convertCode (settings : Settings) (line : IE32.Line) : Conversion :=
  match line.kind with
  | .label => { lines := [line.indent ++ line.code ++ line.suffix] }
  | .directive => .ofDirective line (.convert settings.directives line.code)
  | .instruction | .empty =>
      .ofLowering line (.ofCode settings.registers settings.size.suffix line.indent line.code)

def convertLine (settings : Settings) (raw : Text) : Conversion :=
  match Text.trim raw with
  | [] => { lines := [[]] }
  | ';' :: _ => { lines := [raw] }
  | _ => settings.convertCode (.parse raw)

def convertLines (settings : Settings) (source : Text) : List Conversion :=
  source.lines.map settings.convertLine

def header (settings : Settings) : List Text :=
  if settings.banner then ["; Converted from IE32 by ie32to64", []] else []

end Settings

end Retarget
