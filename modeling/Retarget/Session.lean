/-
# Retarget.Session -- a run of conversions that shares its counters

A `Session` converts lines, texts and files under fixed settings.  It collects what was found
wrong over its whole life, keeps the statistics of the last text it converted, and journals what
it did (`Event`).  A file that cannot be read leaves the session as it was, and so does one that
cannot be written.
-/
import Retarget.Conversion

namespace Retarget

set_option autoImplicit false

/-- Something a session did, for those who want to follow it. -/
inductive Event where
  | planned (input output : Text)
  | started (name size : Text)
  | rejected (code message : Text)
  | unrecognized (code : Text)
  | finished (name : Text) (inputLines outputLines errors : Nat)
  | wrote (path : Text)
  deriving DecidableEq, Repr

def Event.message : Event → Text
  | .planned input output => "Converting " ++ input ++ " -> " ++ output
  | .started name size => "Converting " ++ name ++ " (size suffix " ++ size ++ ")"
  | .rejected code message => "Cannot convert " ++ Text.quoted code ++ ": " ++ message
  | .unrecognized code => "Directive not recognized: " ++ Text.quoted code
  | .finished name inputLines outputLines errors =>
      "Converted " ++ name ++ ": " ++ Text.ofNat inputLines ++ " lines in, " ++
        Text.ofNat outputLines ++ " lines out, " ++ Text.ofNat errors ++ " errors"
  | .wrote path => "Wrote " ++ path

/-- Line counts of one conversion, and what the session had found wrong when it ended. -/
structure Stats where
  inputLines : Int := 0
  outputLines : Int := 0
  errors : Int := 0
  warnings : Int := 0
  deriving DecidableEq, Repr

/-- The statistics, one a line; errors and warnings only if there are any. -/
def Stats.text (s : Stats) : Text :=
  Text.unlines (["Input lines:  " ++ Text.ofInt s.inputLines,
      "Output lines: " ++ Text.ofInt s.outputLines] ++
    (if s.errors = 0 then [] else ["Errors:       " ++ Text.ofInt s.errors]) ++
    (if s.warnings = 0 then [] else ["Warnings:     " ++ Text.ofInt s.warnings]))

namespace Finding

def diagnostic? : Finding → Option Diagnostic
  | .error d => some d
  | .unknownDirective _ => none

def warning? : Finding → Option Text
  | .error _ => none
  | .unknownDirective code => some (IE32.Directive.unknownMessage code)

def event : Finding → Event
  | .error diagnostic => .rejected (diagnostic.source.getD []) diagnostic.fault.message
  | .unknownDirective code => .unrecognized code

end Finding

structure Session where
  settings : Settings
  diagnostics : Diagnostics := {}
  stats : Stats := {}
  journal : List Event := []

namespace Session

def note (s : Session) (event : Event) : Session := { s with journal := s.journal ++ [event] }

/-- Collect and journal what was found wrong. -/
def record (s : Session) (findings : List Finding) : Session :=
  { s with
    diagnostics :=
      { errors := s.diagnostics.errors ++ findings.filterMap Finding.diagnostic?
        warnings := s.diagnostics.warnings ++ findings.filterMap Finding.warning? }
    journal := s.journal ++ findings.map Finding.event }

@[simp] theorem record_nil (s : Session) : s.record [] = s := by
  simp [record]

def convertLine (s : Session) (raw : Text) : List Text × Session :=
  let c := s.settings.convertLine raw
  (c.lines, s.record c.finding.toList)

/-- The name of a text that comes from no file. -/
def unnamed : Text := "<input>"

/-- Convert a text, under a name for the journal. -/
def convertText (s : Session) (name source : Text) : Text × Session :=
  let conversions := s.settings.convertLines source
  let output := s.settings.header ++ conversions.flatMap Conversion.lines
  let ended := (s.note (.started name s.settings.size.suffix)).record
    (conversions.filterMap Conversion.finding)
  let stats : Stats :=
    { inputLines := conversions.length, outputLines := output.length
      errors := ended.diagnostics.errorCount, warnings := ended.diagnostics.warningCount }
  (Text.unlines output,
    { ended with stats }.note (.finished name conversions.length output.length
      (ended.diagnostics.errorCount - s.diagnostics.errorCount)))

/-- The text in the bytes of a source file: any line ending counts as a newline. -/
def sourceText (bytes : Bytes) : Except Failure Text :=
  match Text.Utf8.decode bytes with
  | .ok text => .ok text.normalizeNewlines
  | .error fault => .error (.encoding fault)

variable {m : Type → Type} [Monad m]

def convertFile (s : Session) (files : FileAccess m) (path : Path) :
    m (Except Failure (Text × Session)) := do
  if Path.holdsNul path.text then return .error (.path .nul) else
  match ← files.read path.text with
  | .error errno => return .error (.file { errno, path := some path.text })
  | .ok bytes => return (sourceText bytes).map (s.convertText path.text)

def writeFile (s : Session) (files : FileAccess m) (path : Path) (text : Text) :
    m (Except Failure Session) := do
  if Path.holdsNul path.text then return .error (.path .nul) else
  match ← files.write path.text (Text.Utf8.encode text) with
  | .error errno => return .error (.file { errno, path := some path.text })
  | .ok () => return .ok (s.note (.wrote path.text))

end Session

end Retarget
