/-
# Retarget.Command.Run -- the command

`run` does what a command line asks for: it converts the input file, writes the output file, and
says what it did.  Values are checked before anything is done (`Request.ofScan`): the switches in
the order of their first use, then the input file, then that there are no further words.

The output is written even if lines could not be converted; the exit code tells.  Everything the
run prints is in its `Outcome`.  Messages are printed without control sequences, the journal as it
is.  Only a path that cannot be used (`PathFault`) breaks a command line off without an outcome.
-/
import Retarget.Command.Arguments
import Retarget.Session
import Retarget.Text.Control

namespace Retarget.Command

set_option autoImplicit false

structure Outcome where
  exit : ExitCode
  out : Text := []
  err : Text := []
  deriving DecidableEq, Repr

/-- Lines, each with a newline behind it. -/
def printed (lines : List Text) : Text := lines.flatMap (· ++ ['\n'])

/-- Messages for the user, which may quote any text but do not control the terminal. -/
def messages (lines : List Text) : Text := printed (lines.map Text.withoutControls)

/-! ## Information about the program -/

def usageLine : Text := "Usage: " ++ programName ++ " [OPTIONS] INPUT_FILE"

def versionText : Text := printed [programName ++ ", version 1.0.0"]

def helpText : Text :=
  printed
    [usageLine,
      "",
      "  Convert IE32 assembly source to IE64 assembly.",
      "",
      "  INPUT_FILE is the IE32 assembly source file (.asm) to convert.",
      "",
      "  Examples:",
      "      ie32to64 rotozoomer.asm                  # Outputs rotozoomer_ie64.asm",
      "      ie32to64 -o out.asm rotozoomer.asm       # Specify output file",
      "      ie32to64 -s .q program.asm               # 64-bit operations",
      "",
      "Options:",
      "  -o, --output FILE   Output file (default: input_ie64.asm)",
      "  -s, --size [.l|.q]  Size suffix for IE64 operations (.l = 32-bit, .q =",
      "                      64-bit)  [default: .l]",
      "  --no-header         Omit the '; Converted from IE32' header comment",
      "  --stats             Print conversion statistics",
      "  -v, --verbose       Verbose output",
      "  --version           Show the version and exit.",
      "  --help              Show this message and exit."]

def UsageError.outcome (e : UsageError) : Outcome where
  exit := .invalid
  err := messages
    ((if e.showsUsage then [usageLine, "Try '" ++ programName ++ " --help' for help.", []] else [])
      ++ ["Error: " ++ e.message])

def Outcome.ofFailure (failure : Failure) (verbose : Bool) : Outcome where
  exit := failure.exitCode
  err := messages (failure.report verbose)

/-! ## What is asked for -/

/-- What keeps a command line from being run. -/
inductive Refusal where
  | usage (error : UsageError)
  | path (fault : PathFault)
  deriving DecidableEq, Repr

/-- A command line that passed all checks. -/
structure Request where
  input : Path
  output : Option Path := none
  size : Size := .long
  banner : Bool := true
  stats : Bool := false
  verbose : Bool := false
  deriving DecidableEq, Repr

variable {m : Type → Type} [Monad m]

def presence (files : FileAccess m) (path : Text) : ExceptT Refusal m Presence :=
  if Path.holdsNul path then throw (.path .nul) else files.presence path

def checkSetting (files : FileAccess m) (scan : Scan) (setting : Setting) :
    ExceptT Refusal m Unit := do
  match setting, scan.value? setting with
  | .size, some value => if (Size.ofSuffix? value).isNone then throw (.usage (.invalidSize value))
  | .output, some path =>
      if (← presence files path) = .directory then throw (.usage (.outputIsDirectory path))
  | _, none => return

def checkInput (files : FileAccess m) (path : Text) : ExceptT Refusal m Unit := do
  match ← presence files path with
  | .missing => throw (.usage (.inputDoesNotExist path))
  | .directory => throw (.usage (.inputIsDirectory path))
  | .file => return

/-- The request that a command line makes, if it is in order. -/
def Request.ofScan (files : FileAccess m) (scan : Scan) : ExceptT Refusal m Request := do
  scan.settings.forM (checkSetting files scan)
  match scan.words with
  | [] => throw (.usage .inputRequired)
  | input :: surplus =>
      checkInput files input
      unless surplus.isEmpty do throw (.usage (.surplusWords surplus))
      return {
        input := .ofText input
        output := (scan.value? .output).map .ofText
        size := ((scan.value? .size).bind Size.ofSuffix?).getD .long
        banner := !scan.has .noHeader
        stats := scan.has .stats
        verbose := scan.has .verbose }

/-! ## Running it -/

namespace Request

/-- The journal, if it is asked for. -/
def journal (r : Request) (s : Session) : Text :=
  if r.verbose then printed (s.journal.map fun event => "DEBUG: " ++ event.message) else []

def failed (r : Request) (s : Session) (failure : Failure) : Outcome :=
  let outcome := Outcome.ofFailure failure r.verbose
  { outcome with err := r.journal s ++ outcome.err }

def statsLines (r : Request) (output : Path) (s : Session) : List Text :=
  if r.stats then
    ["Input:  " ++ r.input.text ++ " (" ++ Text.ofInt s.stats.inputLines ++ " lines)",
      "Output: " ++ output.text ++ " (" ++ Text.ofInt s.stats.outputLines ++ " lines)"] ++
    (if s.stats.errors = 0 then []
      else ["Errors: " ++ Text.ofInt s.stats.errors ++ " (search for '; ERROR:' in output)"])
  else []

/-- The end of a request whose output is written. -/
def finished (r : Request) (output : Path) (s : Session) : Outcome where
  exit := if s.diagnostics.hasErrors then .conversionErrors else .success
  out := messages (r.statsLines output s)
  err := r.journal s ++ messages (
    (if r.verbose && s.diagnostics.warningCount != 0 then
      [Text.ofNat s.diagnostics.warningCount ++ " unknown directive(s)"] else []) ++
    (if s.diagnostics.hasErrors then
      [Text.ofNat s.diagnostics.errorCount ++
        " conversion error(s) - search for '; ERROR:' in " ++ output.text] else []))

def session (r : Request) : Session := { settings := { size := r.size, banner := r.banner } }

def convertTo (r : Request) (files : FileAccess m) (output : Path) : m Outcome := do
  let s := r.session.note (.planned r.input.text output.text)
  match ← s.convertFile files r.input with
  | .error failure => return r.failed s failure
  | .ok (text, s) =>
      match ← s.writeFile files output text with
      | .error failure => return r.failed s failure
      | .ok s => return r.finished output s

/-- Where the output goes: beside the input unless it is told where. -/
def target (r : Request) : Except PathFault Path :=
  match r.output with
  | some output => .ok output
  | none => r.input.defaultOutput

def run (r : Request) (files : FileAccess m) : m (Except PathFault Outcome) := do
  match r.target with
  | .error fault => return .error fault
  | .ok output => return .ok (← r.convertTo files output)

end Request

def run (files : FileAccess m) (words : List Text) : m (Except PathFault Outcome) := do
  match Scan.ofWords words with
  | .error e => return .ok e.outcome
  | .ok scan =>
      match scan.inquiry? with
      | some .version => return .ok { exit := .success, out := versionText }
      | some _ => return .ok { exit := .success, out := helpText }
      | none =>
          match ← (Request.ofScan files scan).run with
          | .error (.usage e) => return .ok e.outcome
          | .error (.path fault) => return .error fault
          | .ok request => request.run files

end Retarget.Command
