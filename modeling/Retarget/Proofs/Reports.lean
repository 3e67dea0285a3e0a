/-
# Retarget.Proofs.Reports -- the report, whatever the order of errors and warnings

Errors and warnings are added one by one, in the order in which they are found (`Note`).  Each goes
to the end of its own list (`addAll_eq`), so the report knows the order of the errors and the order
of the warnings and nothing of how the two were mixed (`report_of_notes`).  A session that records
its findings adds them so (`Session.record_eq_addAll`).

`reportText` says what the report is, line by line: every line is ended by a newline and every block
by an empty line, but for the tally at the end.  The report itself puts newlines and empty lines
between what it lists; the two are the same text (`report_eq_reportText`).

A diagnostic keeps its text.  However often it is given code, the text it keeps is the one it would
have been made with, had the last code been known (`text_foldl_withSource`).
-/
import Retarget.Proofs.Text.Lines
import Retarget.Session

namespace Retarget

set_option autoImplicit false

/-! ## Adding errors and warnings -/

inductive Note where
  | error (diagnostic : Diagnostic)
  | warning (message : Text)
  deriving DecidableEq

namespace Note

def error? : Note → Option Diagnostic
  | .error diagnostic => some diagnostic
  | .warning _ => none

def warning? : Note → Option Text
  | .error _ => none
  | .warning message => some message

end Note

def Finding.note : Finding → Note
  | .error diagnostic => .error diagnostic
  | .unknownDirective code => .warning (IE32.Directive.unknownMessage code)

namespace Diagnostics

def add (ds : Diagnostics) : Note → Diagnostics
  | .error diagnostic => ds.addError diagnostic
  | .warning message => ds.addWarning message

def addAll (ds : Diagnostics) (notes : List Note) : Diagnostics := notes.foldl add ds

theorem add_eq (ds : Diagnostics) (note : Note) :
    ds.add note = ⟨ds.errors ++ note.error?.toList, ds.warnings ++ note.warning?.toList⟩ := by
  cases note with
  | error diagnostic => simp [add, addError, Note.error?, Note.warning?]
  | warning message => simp [add, addWarning, Note.error?, Note.warning?]

/-- Errors and warnings are collected apart, each in their order. -/
theorem addAll_eq (ds : Diagnostics) (notes : List Note) :
    ds.addAll notes =
      ⟨ds.errors ++ notes.filterMap Note.error?, ds.warnings ++ notes.filterMap Note.warning?⟩ := by
  induction notes generalizing ds with
  | nil => simp [addAll]
  | cons note rest ih =>
      have step : ds.addAll (note :: rest) = (ds.add note).addAll rest := rfl
      rw [step, ih, add_eq]
      cases note with
      | error diagnostic => simp [List.filterMap_cons, Note.error?, Note.warning?]
      | warning message => simp [List.filterMap_cons, Note.error?, Note.warning?]

end Diagnostics

/-- What a session records is added finding by finding. -/
theorem Session.record_eq_addAll (s : Session) (findings : List Finding) :
    (s.record findings).diagnostics = s.diagnostics.addAll (findings.map Finding.note) := by
  have errors : Note.error? ∘ Finding.note = Finding.diagnostic? := by
    funext finding
    cases finding <;> rfl
  have warnings : Note.warning? ∘ Finding.note = Finding.warning? := by
    funext finding
    cases finding <;> rfl
  rw [Diagnostics.addAll_eq, List.filterMap_map, List.filterMap_map, errors, warnings]
  rfl

/-! ## The report, line by line -/

/-- A line and the newline that ends it. -/
def Text.asLine (t : Text) : Text := t ++ ['\n']

/-- The lines of an error, and an empty line. -/
def errorLines (d : Diagnostic) : Text :=
  Text.asLine ("error: " ++ d.fault.message) ++
    (match d.source with
      | none => []
      | some code => Text.asLine ("    " ++ code)) ++
    (match d.fault.hint with
      | none | some [] => []
      | some hint => Text.asLine ("hint: " ++ hint)) ++
    Text.asLine []

/-- The lines of the warnings, and an empty line if there are any. -/
def warningLines (warnings : List Text) : Text :=
  warnings.flatMap (fun (warning : Text) => Text.asLine ("warning: " ++ warning)) ++
    if warnings = [] then [] else Text.asLine []

def countLine (errors warnings : Nat) : Text :=
  Text.ofNat errors ++ (if errors = 1 then " error, " else " errors, ") ++
    Text.ofNat warnings ++ (if warnings = 1 then " warning" else " warnings")

def reportText (errors : List Diagnostic) (warnings : List Text) : Text :=
  errors.flatMap errorLines ++ warningLines warnings ++ countLine errors.length warnings.length

/-- Lines that are put together are ended one by one, and so is an empty line behind them. -/
theorem unlines_append_blank {ls : List Text} (some_line : ls ≠ []) :
    Text.unlines ls ++ "\n\n".toList = ls.flatMap Text.asLine ++ Text.asLine [] := by
  obtain ⟨init, last, rfl⟩ := (List.eq_nil_or_concat ls).resolve_left some_line
  have ends : last ++ "\n\n".toList = Text.asLine last ++ Text.asLine [] := by
    simp [Text.asLine]
  rw [List.concat_eq_append, Text.unlines, Text.join_concat, List.flatMap_append,
    List.flatMap_singleton, List.append_assoc, List.append_assoc, ends]
  rfl

theorem text_append_blank (d : Diagnostic) : d.text ++ "\n\n".toList = errorLines d := by
  rw [d.current, Fault.block, unlines_append_blank (by simp), List.flatMap_append,
    List.flatMap_append, errorLines, List.flatMap_singleton]
  -- An optional line is there or not, and a hint may be there and empty.
  congr 2
  · cases d.source <;> simp
  · rcases d.fault.hint with - | - | ⟨c, rest⟩
    · rfl
    · rfl
    · simp [Fault.given, Option.filter]

theorem warningBlock_append_blank {ds : Diagnostics} (some_warning : ds.warnings ≠ []) :
    ds.warningBlock ++ "\n\n".toList = warningLines ds.warnings := by
  rw [Diagnostics.warningBlock, unlines_append_blank (by simp [some_warning]), warningLines,
    if_neg some_warning, List.flatMap_map]

theorem tally_eq (ds : Diagnostics) : ds.tally = countLine ds.errors.length ds.warnings.length := by
  show Diagnostics.counted ds.errors.length "error" ++ ", ".toList ++
    Diagnostics.counted ds.warnings.length "warning" = _
  unfold Diagnostics.counted countLine
  by_cases oneError : ds.errors.length = 1 <;> by_cases oneWarning : ds.warnings.length = 1 <;>
    simp [oneError, oneWarning]

/-- The report is its lines. -/
theorem report_eq_reportText (ds : Diagnostics) : ds.report = reportText ds.errors ds.warnings := by
  have blocks : (ds.errors.map Diagnostic.text).flatMap (· ++ "\n\n".toList) =
      ds.errors.flatMap errorLines := by
    rw [List.flatMap_map]
    exact congrArg ds.errors.flatMap (funext text_append_blank)
  have warnings : (if ds.warnings.isEmpty then [] else [ds.warningBlock]).flatMap
      (· ++ "\n\n".toList) = warningLines ds.warnings := by
    by_cases none_left : ds.warnings = []
    · simp [none_left, warningLines]
    · rw [if_neg (by simpa using none_left), List.flatMap_singleton,
        warningBlock_append_blank none_left]
  rw [Diagnostics.report, Text.join_concat, List.flatMap_append, blocks, warnings, tally_eq,
    reportText]

/-! ## Code that is given later -/

theorem fault_foldl_withSource (d : Diagnostic) (codes : List Text) :
    (codes.foldl Diagnostic.withSource d).fault = d.fault := by
  induction codes generalizing d with
  | nil => rfl
  | cons code rest ih => exact ih (d.withSource code)

theorem source_foldl_withSource (d : Diagnostic) (codes : List Text) :
    (codes.foldl Diagnostic.withSource d).source = codes.getLast?.or d.source := by
  induction codes generalizing d with
  | nil => rfl
  | cons code rest ih =>
      rw [List.foldl_cons, ih, Diagnostic.withSource_source]
      cases rest <;> simp [List.getLast?_cons]

/-- The text that is kept is up to date, so the fault, which stays, and the last code say what it
is. -/
theorem text_foldl_withSource (d : Diagnostic) (codes : List Text) :
    (codes.foldl Diagnostic.withSource d).text = d.fault.block (codes.getLast?.or d.source) := by
  rw [Diagnostic.current, fault_foldl_withSource, source_foldl_withSource]

/-- A text that is not written again would not show the code. -/
example : Diagnostic.text { fault := .unknownMnemonic "FOO" } ≠
    Fault.block (.unknownMnemonic "FOO") (some "FOO".toList) := by decide

/-! ## Any order -/

/-- **The report does not know how errors and warnings were mixed.**  Notes with the same errors in
the same order and the same warnings in the same order give the same report: for each error its
message, its code if it has some and its hint unless that is empty, then the warnings if there are
any, one a line, then the two counts.  A fault that was given code once or more is written as the
fault with the last code. -/
theorem report_of_notes (ds : Diagnostics) (notes : List Note) :
    (∀ others : List Note, others.filterMap Note.error? = notes.filterMap Note.error? →
        others.filterMap Note.warning? = notes.filterMap Note.warning? →
        (ds.addAll others).report = (ds.addAll notes).report) ∧
      (ds.addAll notes).report = reportText (ds.errors ++ notes.filterMap Note.error?)
        (ds.warnings ++ notes.filterMap Note.warning?) ∧
      ∀ (fault : Fault) (codes : List Text) (code : Text),
        ((codes ++ [code]).foldl Diagnostic.withSource { fault }).text =
          Diagnostic.text { fault, source := some code } := by
  refine ⟨?_, ?_, ?_⟩
  · intro others sameErrors sameWarnings
    rw [Diagnostics.addAll_eq, Diagnostics.addAll_eq, sameErrors, sameWarnings]
  · rw [report_eq_reportText, Diagnostics.addAll_eq]
  · intro fault codes code
    rw [text_foldl_withSource, List.getLast?_concat, Option.some_or]

/-- Two errors, one with empty code and one with an empty hint, between warnings. -/
def mixedNotes : List Note :=
  [.warning "a", .error { fault := .unknownMnemonic "FOO", source := some [] }, .warning "b",
    .error { fault := .other "m" (some []) }]

/-- The same errors and warnings, one after the other. -/
def sortedNotes : List Note :=
  [.error { fault := .unknownMnemonic "FOO", source := some [] },
    .error { fault := .other "m" (some []) }, .warning "a", .warning "b"]

theorem mixedNotes_report :
    sortedNotes.filterMap Note.error? = mixedNotes.filterMap Note.error? ∧
      sortedNotes.filterMap Note.warning? = mixedNotes.filterMap Note.warning? ∧
      (({} : Diagnostics).addAll sortedNotes).report =
        (({} : Diagnostics).addAll mixedNotes).report := by
  have errors : sortedNotes.filterMap Note.error? = mixedNotes.filterMap Note.error? := by decide
  have warnings : sortedNotes.filterMap Note.warning? = mixedNotes.filterMap Note.warning? := by
    decide
  exact ⟨errors, warnings, (report_of_notes {} mixedNotes).1 sortedNotes errors warnings⟩

end Retarget
