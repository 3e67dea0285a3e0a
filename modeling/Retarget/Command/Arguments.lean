/-
# Retarget.Command.Arguments -- the words of a command line

A word that starts with a dash and is longer than that is an option, up to a double dash, after
which all words are plain.  A switch is known by a long name, whose value stands behind an equals
sign or in the next word, or by a letter; letters may be clustered behind one dash, and the first
that takes a value takes what is left of the word, or the next word.  A switch that takes a value
takes it whatever it looks like.

`Scan.ofWords` sorts the words and refuses what cannot be sorted (`UsageError`); it looks at no
value.  The switches keep their order, for values are checked in the order of the command line.
-/
import Retarget.Conversion

namespace Retarget.Command

set_option autoImplicit false

def programName : Text := "ie32to64"

/-- Switches without a value. -/
inductive Flag where
  | noHeader
  | stats
  | verbose
  | version
  | help
  deriving DecidableEq, Repr

/-- Switches with a value. -/
inductive Setting where
  | output
  | size
  deriving DecidableEq, Repr

inductive Switch where
  | flag (flag : Flag)
  | setting (setting : Setting)
  deriving DecidableEq, Repr

namespace Switch

def longNames : List (Text × Switch) :=
  [("--output", .setting .output), ("--size", .setting .size), ("--no-header", .flag .noHeader),
    ("--stats", .flag .stats), ("--verbose", .flag .verbose), ("--version", .flag .version),
    ("--help", .flag .help)]

def letters : List (Char × Switch) :=
  [('o', .setting .output), ('s', .setting .size), ('v', .flag .verbose)]

end Switch

/-- What is wrong with a command line. -/
inductive UsageError where
  /-- The name is given as it was written, and no option with a similar name is suggested. -/
  | noSuchOption (name : Text)
  | valueRequired (name : Text)
  | valueRefused (name : Text)
  | invalidSize (value : Text)
  | outputIsDirectory (path : Text)
  | inputRequired
  | inputDoesNotExist (path : Text)
  | inputIsDirectory (path : Text)
  | surplusWords (words : List Text)
  deriving DecidableEq, Repr

namespace UsageError

def message : UsageError → Text
  | .noSuchOption name => "No such option: " ++ name
  | .valueRequired name => "Option " ++ Text.quoted name ++ " requires an argument."
  | .valueRefused name => "Option " ++ Text.quoted name ++ " does not take a value."
  | .invalidSize value =>
      "Invalid value for '-s' / '--size': " ++ Text.quoted value ++ " is not one of " ++
        Text.join ", " (Size.all.map fun size => Text.quoted size.suffix) ++ "."
  | .outputIsDirectory path =>
      "Invalid value for '-o' / '--output': File " ++ Text.quoted path ++ " is a directory."
  | .inputRequired => "Missing argument 'INPUT_FILE'."
  | .inputDoesNotExist path =>
      "Invalid value for 'INPUT_FILE': File " ++ Text.quoted path ++ " does not exist."
  | .inputIsDirectory path =>
      "Invalid value for 'INPUT_FILE': File " ++ Text.quoted path ++ " is a directory."
  | .surplusWords words =>
      (if words.length = 1 then "Got unexpected extra argument ("
        else "Got unexpected extra arguments (") ++ Text.join " " words ++ ")"

/-- Is the message preceded by the usage? -/
def showsUsage : UsageError → Bool
  | .valueRequired _ | .valueRefused _ => false
  | _ => true

end UsageError

inductive Given where
  | flag (flag : Flag)
  | setting (setting : Setting) (value : Text)
  deriving DecidableEq, Repr

/-- The switches in one word. -/
structure WordScan where
  given : List Given := []
  /-- The last switch, if its value is the next word, and how it was written. -/
  pending : Option (Setting × Text) := none
  deriving DecidableEq, Repr

namespace WordScan

def ofLetters : List Char → Except UsageError WordScan
  | [] => .ok {}
  | letter :: rest =>
      match Switch.letters.lookup letter with
      | none => .error (.noSuchOption ['-', letter])
      | some (.flag flag) =>
          (ofLetters rest).map fun scan => { scan with given := .flag flag :: scan.given }
      | some (.setting setting) =>
          if rest.isEmpty then .ok { pending := some (setting, ['-', letter]) }
          else .ok { given := [.setting setting rest] }

/-- A word that is an option.  It is matched as a long name first. -/
def ofWord (word : Text) : Except UsageError WordScan :=
  let (name, value) := Text.cutAt '=' word
  match Switch.longNames.lookup name, value with
  | some (.flag flag), none => .ok { given := [.flag flag] }
  | some (.flag _), some _ => .error (.valueRefused name)
  | some (.setting setting), none => .ok { pending := some (setting, name) }
  | some (.setting setting), some value => .ok { given := [.setting setting value] }
  | none, _ =>
      match word with
      | '-' :: '-' :: _ => .error (.noSuchOption name)
      | _ => ofLetters word.tail

end WordScan

/-- The words of a command line, sorted. -/
structure Scan where
  /-- The switches in order. -/
  given : List Given := []
  /-- The plain words in order. -/
  words : List Text := []
  deriving DecidableEq, Repr

namespace Scan

/-- The scan with more switches before it. -/
def after (given : List Given) (scan : Scan) : Scan := { scan with given := given ++ scan.given }

def isOption : Text → Bool
  | '-' :: _ :: _ => true
  | _ => false

/-- Sort the words.  With a switch that waits for its value, the first word is that value. -/
def ofWordsAfter (pending : Option (Setting × Text)) : List Text → Except UsageError Scan
  | [] =>
      match pending with
      | some (_, name) => .error (.valueRequired name)
      | none => .ok {}
  | word :: rest =>
      match pending with
      | some (setting, _) => (ofWordsAfter none rest).map (after [.setting setting word])
      | none =>
          if word = "--".toList then .ok { words := rest }
          else if isOption word then
            match WordScan.ofWord word with
            | .error e => .error e
            | .ok scan => (ofWordsAfter scan.pending rest).map (after scan.given)
          else (ofWordsAfter none rest).map fun scan => { scan with words := word :: scan.words }

def ofWords (words : List Text) : Except UsageError Scan := ofWordsAfter none words

def has (scan : Scan) (flag : Flag) : Bool := scan.given.contains (.flag flag)

/-- The value of a setting: the last one given. -/
def value? (scan : Scan) (setting : Setting) : Option Text :=
  scan.given.reverse.findSome? fun
    | .setting s value => if s = setting then some value else none
    | .flag _ => none

/-- The settings that are given, in the order of their first use. -/
def settings (scan : Scan) : List Setting :=
  (scan.given.filterMap fun
    | .setting s _ => some s
    | .flag _ => none).eraseDups

/-- The first switch that asks for information instead of a run. -/
def inquiry? (scan : Scan) : Option Flag :=
  scan.given.findSome? fun
    | .flag .help => some .help
    | .flag .version => some .version
    | _ => none

end Scan

end Retarget.Command
