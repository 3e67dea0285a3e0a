/-
# Retarget.Proofs.Accounting -- counters, annotations and report over a session

A session counts what it finds wrong, says so in the report, and leaves annotations in its
output.  Here a history of steps is followed with an account of all lines that went in and came
out (`Progress`).  One step adds its own lines to the account and its own findings to the session
(`Tracks.take`), so a whole history keeps them in agreement (`Tracks.run`): the counters are
counts of source lines, and the annotations are those of the recorded errors, one each and in
their order.
-/
import Retarget.Files.Tree
import Retarget.Proofs.Annotations
import Retarget.Proofs.Text.Lines
import Retarget.Session.Step

namespace Retarget

set_option autoImplicit false

/-! ## What a step takes in and puts out -/

/-- The lines that a text becomes, behind the header. -/
def Settings.emitText (settings : Settings) (source : Text) : List Emission :=
  settings.header.map (⟨·, none⟩) ++ source.lines.flatMap settings.emit

namespace Step

/-- The text that a step converts as a whole.  A file that cannot be read has none. -/
def source? (tree : FileTree) : Step → Option Text
  | .text source => some source
  | .file path =>
      if Path.holdsNul path.text then none
      else match tree.read path.text with
        | .ok bytes => (Session.sourceText bytes).toOption
        | .error _ => none
  | .line _ | .write _ _ | .report | .stats => none

def sources (tree : FileTree) (step : Step) : List Text :=
  match step with
  | .line raw => [raw]
  | _ => ((step.source? tree).map Text.lines).getD []

/-- The lines that a step puts out, and where they come from. -/
def emissions (settings : Settings) (tree : FileTree) (step : Step) : List Emission :=
  match step with
  | .line raw => settings.emit raw
  | _ => ((step.source? tree).map settings.emitText).getD []

/-- The lines of output in an answer. -/
def output : Step → Answer → List Text
  | .line _, .lines lines => lines
  | .text _, .text answer | .file _, .text answer => answer.lines
  | _, _ => []

end Step

/-- What the answer to a step is, and what the session is then. -/
inductive Session.Performs (s : Session) (tree : FileTree) : Step → Answer → Session → Prop
  | line (raw : Text) :
      Performs s tree (.line raw) (.lines (s.convertLine raw).1) (s.convertLine raw).2
  | text (source : Text) :
      Performs s tree (.text source) (.text (s.convertText unnamed source).1)
        (s.convertText unnamed source).2
  | file {path : Path} {source : Text} (read : (Step.file path).source? tree = some source) :
      Performs s tree (.file path) (.text (s.convertText path.text source).1)
        (s.convertText path.text source).2
  | unread {path : Path} (failure : Failure) (unread : (Step.file path).source? tree = none) :
      Performs s tree (.file path) (.failed failure) s
  | wrote (path : Path) (text : Text) :
      Performs s tree (.write path text) .written (s.note (.wrote path.text))
  | unwritten (path : Path) (text : Text) (failure : Failure) :
      Performs s tree (.write path text) (.failed failure) s
  | report : Performs s tree .report (.text s.diagnostics.report) s
  | stats : Performs s tree .stats (.stats s.stats) s

def Session.performOn (s : Session) (tree : FileTree) (step : Step) :
    (Answer × Session) × FileTree :=
  (s.perform FileTree.access step).run tree

/-- Converting a file reads it once and writes nothing. -/
theorem Session.run_convertFile (s : Session) (tree : FileTree) (path : Path) :
    (s.convertFile FileTree.access path).run tree =
      (if Path.holdsNul path.text then .error (.path .nul)
        else match tree.read path.text with
          | .error errno => .error (.file { errno, path := some path.text })
          | .ok bytes => (sourceText bytes).map (s.convertText path.text), tree) := by
  unfold convertFile
  split
  · rfl
  · rw [StateT.run_bind, FileTree.run_access_read]
    cases content : tree.read path.text <;> rfl

/-- Writing a file writes it or leaves the tree as it was. -/
theorem Session.run_writeFile (s : Session) (tree : FileTree) (path : Path) (text : Text) :
    (s.writeFile FileTree.access path text).run tree =
      if Path.holdsNul path.text then (.error (.path .nul), tree)
      else match tree.write path.text (Text.Utf8.encode text) with
        | .error errno => (.error (.file { errno, path := some path.text }), tree)
        | .ok written => (.ok (s.note (.wrote path.text)), written) := by
  unfold writeFile
  split
  · rfl
  · rw [StateT.run_bind, FileTree.run_access_write]
    cases tree.write path.text (Text.Utf8.encode text) <;> rfl

theorem Session.performs_file (s : Session) (tree : FileTree) (path : Path) :
    s.Performs tree (.file path) (s.performOn tree (.file path)).1.1
      (s.performOn tree (.file path)).1.2 := by
  simp only [performOn, perform, StateT.run_bind, run_convertFile]
  by_cases nul : Path.holdsNul path.text = true
  · have unread : (Step.file path).source? tree = none := by simp [Step.source?, nul]
    rw [if_pos nul]
    exact .unread _ unread
  · rw [if_neg nul]
    cases content : tree.read path.text with
    | error errno =>
        have unread : (Step.file path).source? tree = none := by simp [Step.source?, content]
        exact .unread _ unread
    | ok bytes =>
        cases decoded : sourceText bytes with
        | error failure =>
            have unread : (Step.file path).source? tree = none := by
              simp [Step.source?, content, decoded, Except.toOption]
            simp only [decoded]
            exact .unread _ unread
        | ok source =>
            have read : (Step.file path).source? tree = some source := by
              simp [Step.source?, nul, content, decoded, Except.toOption]
            simp only [decoded]
            exact .file read

theorem Session.performs_write (s : Session) (tree : FileTree) (path : Path) (text : Text) :
    s.Performs tree (.write path text) (s.performOn tree (.write path text)).1.1
      (s.performOn tree (.write path text)).1.2 := by
  simp only [performOn, perform, StateT.run_bind, run_writeFile]
  by_cases nul : Path.holdsNul path.text = true
  · rw [if_pos nul]
    exact .unwritten path text _
  · rw [if_neg nul]
    cases tree.write path.text (Text.Utf8.encode text) with
    | error errno => exact .unwritten path text _
    | ok written => exact .wrote path text

/-- Every step is one of these. -/
theorem Session.performs (s : Session) (tree : FileTree) (step : Step) :
    s.Performs tree step (s.performOn tree step).1.1 (s.performOn tree step).1.2 := by
  cases step with
  | line raw => exact .line raw
  | text source => exact .text source
  | file path => exact s.performs_file tree path
  | write path text => exact s.performs_write tree path text
  | report => exact .report
  | stats => exact .stats

/-! ## One step -/

section Step

variable {s ended : Session} {tree : FileTree} {step : Step} {answer : Answer}

theorem record_diagnostics (s : Session) (raws : List Text) :
    (s.record ((raws.map s.settings.convertLine).filterMap Conversion.finding)).diagnostics =
      { errors := s.diagnostics.errors ++ raws.filterMap s.settings.error?
        warnings := s.diagnostics.warnings ++ raws.filterMap s.settings.warning? } := by
  simp only [Session.record, List.filterMap_map, List.filterMap_filterMap]
  rfl

/-- A step records what is wrong with its source lines, in their order. -/
theorem Session.Performs.recorded (performs : s.Performs tree step answer ended) :
    ended.settings = s.settings ∧
      ended.diagnostics =
        { errors := s.diagnostics.errors ++ (step.sources tree).filterMap s.settings.error?
          warnings :=
            s.diagnostics.warnings ++ (step.sources tree).filterMap s.settings.warning? } := by
  cases performs with
  | line raw =>
      have recorded := record_diagnostics s [raw]
      have one : ([raw].map s.settings.convertLine).filterMap Conversion.finding =
          (s.settings.convertLine raw).finding.toList := by
        cases found : (s.settings.convertLine raw).finding <;> simp [found]
      rw [one] at recorded
      exact ⟨rfl, recorded⟩
  | text source => exact ⟨rfl, record_diagnostics s source.lines⟩
  | file read =>
      simp only [Step.sources, read]
      exact ⟨rfl, record_diagnostics s _⟩
  | unread failure unread => simp [Step.sources, unread]
  | wrote path text => simp [Step.sources, Step.source?, note]
  | unwritten path text failure => simp [Step.sources, Step.source?]
  | report => simp [Step.sources, Step.source?]
  | stats => simp [Step.sources, Step.source?]

theorem newline_notMem_header (settings : Settings) : ∀ line ∈ settings.header, '\n' ∉ line := by
  unfold Settings.header
  split
  · decide
  · simp

theorem Settings.map_line_emitText (settings : Settings) (source : Text) :
    (settings.emitText source).map Emission.line =
      settings.header ++ (settings.convertLines source).flatMap Conversion.lines := by
  simp [emitText, emit, convertLines, List.map_flatMap, List.flatMap_map, Function.comp_def]

/-- The text that a source becomes has the lines that its lines become. -/
theorem lines_convertText (standard : s.settings.directives = .standard)
    (targets : ∀ entry ∈ s.settings.registers.table.entries, '\n' ∉ entry.2) (name source : Text) :
    (s.convertText name source).1.lines = (s.settings.emitText source).map Emission.line := by
  rw [Settings.map_line_emitText]
  refine Text.lines_unlines ?_ ?_
  · obtain ⟨raw, rest, lines⟩ := List.exists_cons_of_ne_nil (Text.lines_ne_nil source)
    have some_line := (s.settings.converts raw).lines_ne_nil
    simp [Settings.convertLines, lines, some_line]
  · intro line member
    simp only [Settings.convertLines, List.mem_append, List.mem_flatMap, List.mem_map] at member
    rcases member with inHeader | ⟨conversion, ⟨raw, known, rfl⟩, inside⟩
    · exact newline_notMem_header s.settings line inHeader
    · have clean : '\n' ∉ raw := Text.notMem_of_mem_piecesAt known
      exact (s.settings.converts raw).newline_notMem standard targets clean line inside

/-- The output in the answer to a step is what its source lines become. -/
theorem Session.Performs.output_eq (performs : s.Performs tree step answer ended)
    (standard : s.settings.directives = .standard)
    (targets : ∀ entry ∈ s.settings.registers.table.entries, '\n' ∉ entry.2) :
    step.output answer = (step.emissions s.settings tree).map Emission.line := by
  cases performs with
  | line raw => simp [Step.output, Step.emissions, Settings.emit, convertLine, Function.comp_def]
  | text source => exact lines_convertText standard targets unnamed source
  | file read =>
      simp only [Step.output, Step.emissions, read]
      exact lines_convertText standard targets _ _
  | unread failure unread => simp [Step.output, Step.emissions, unread]
  | wrote path text => simp [Step.output, Step.emissions, Step.source?]
  | unwritten path text failure => simp [Step.output, Step.emissions, Step.source?]
  | report => simp [Step.output, Step.emissions, Step.source?]
  | stats => simp [Step.output, Step.emissions, Step.source?]

/-- The header has no annotations. -/
theorem isAnnotation_header (settings : Settings) :
    ∀ e ∈ settings.header.map (Emission.mk · none), e.isAnnotation = false := by
  unfold Settings.header
  split
  · decide
  · simp

theorem annotations_emitText {settings : Settings} (standard : settings.directives = .standard)
    (source : Text) :
    Closed (settings.emitText source) ∧
      annotations (settings.emitText source) =
        source.lines.filterMap fun raw => (settings.error? raw).map (annotationOf raw) := by
  have plain := isAnnotation_header settings
  constructor
  · exact closed_append (closed_of_forall plain) (closed_flatMap (settings.closed_emit standard) _)
  · rw [Settings.emitText, annotations_append (closed_of_forall plain), annotations_of_forall plain,
      settings.annotations_flatMap_emit standard, List.nil_append]

/-- The annotations that a step leaves are those of its errors. -/
theorem annotations_emissions {settings : Settings} (standard : settings.directives = .standard)
    (tree : FileTree) (step : Step) :
    Closed (step.emissions settings tree) ∧
      annotations (step.emissions settings tree) =
        (step.sources tree).filterMap fun raw => (settings.error? raw).map (annotationOf raw) := by
  cases step with
  | line raw =>
      have one := settings.annotations_flatMap_emit standard [raw]
      rw [List.flatMap_singleton] at one
      exact ⟨settings.closed_emit standard raw, one⟩
  | text source => exact annotations_emitText standard source
  | file path =>
      simp only [Step.emissions, Step.sources]
      cases (Step.file path).source? tree with
      | none => exact ⟨closed_nil, rfl⟩
      | some source => exact annotations_emitText standard source
  | write | report | stats => exact ⟨closed_nil, rfl⟩

end Step

/-! ## A history of steps -/

/-- How far a history has come: the session and the files as they are now, every answer with the
session after it, and the lines that went in and came out. -/
structure Progress where
  session : Session
  tree : FileTree
  answers : List (Answer × Session) := []
  sources : List Text := []
  emitted : List Emission := []
  output : List Text := []

namespace Progress

def start (settings : Settings) (tree : FileTree) : Progress where
  session := { settings }
  tree := tree

def take (p : Progress) (step : Step) : Progress where
  session := (p.session.performOn p.tree step).1.2
  tree := (p.session.performOn p.tree step).2
  answers := p.answers ++ [(p.session.performOn p.tree step).1]
  sources := p.sources ++ step.sources p.tree
  emitted := p.emitted ++ step.emissions p.session.settings p.tree
  output := p.output ++ step.output (p.session.performOn p.tree step).1.1

def run (p : Progress) (steps : List Step) : Progress := steps.foldl take p

theorem run_append (p : Progress) (steps more : List Step) :
    p.run (steps ++ more) = (p.run steps).run more := by
  simp [run]

theorem exists_sources_run (p : Progress) (steps : List Step) :
    ∃ added, (p.run steps).sources = p.sources ++ added := by
  induction steps generalizing p with
  | nil => exact ⟨[], (List.append_nil _).symm⟩
  | cons step rest ih =>
      obtain ⟨added, later⟩ := ih (p.take step)
      exact ⟨step.sources p.tree ++ added, later.trans (List.append_assoc _ _ _)⟩

/-- The answers are those that the session gives to all steps together. -/
theorem answers_run (p : Progress) (steps : List Step) :
    (p.run steps).answers =
      p.answers ++ ((p.session.performAll FileTree.access steps).run p.tree).1 := by
  induction steps generalizing p with
  | nil => exact (List.append_nil _).symm
  | cons step rest ih =>
      have first : ((p.session.performAll FileTree.access (step :: rest)).run p.tree).1 =
          (p.session.performOn p.tree step).1 ::
            (((p.take step).session.performAll FileTree.access rest).run
              (p.take step).tree).1 := rfl
      calc (p.run (step :: rest)).answers
          = (p.take step).answers ++
            (((p.take step).session.performAll FileTree.access rest).run (p.take step).tree).1 :=
            ih (p.take step)
        _ = p.answers ++ ((p.session.performAll FileTree.access (step :: rest)).run p.tree).1 := by
            rw [first]
            simp [take]

variable {settings : Settings} {p : Progress}

/-- The session has recorded what was wrong with the lines that went in, and nothing else. -/
structure Recorded (settings : Settings) (p : Progress) : Prop where
  kept : p.session.settings = settings
  diagnostics : p.session.diagnostics =
    { errors := p.sources.filterMap settings.error?
      warnings := p.sources.filterMap settings.warning? }

theorem recorded_start (settings : Settings) (tree : FileTree) :
    Recorded settings (start settings tree) where
  kept := rfl
  diagnostics := rfl

theorem Recorded.take (recorded : Recorded settings p) (step : Step) :
    Recorded settings (p.take step) := by
  obtain ⟨rfl, before⟩ := recorded
  obtain ⟨kept, added⟩ := (p.session.performs p.tree step).recorded
  exact {
    kept := kept
    diagnostics := by simp [Progress.take, added, before] }

theorem Recorded.run (recorded : Recorded settings p) (steps : List Step) :
    Recorded settings (p.run steps) := by
  induction steps generalizing p with
  | nil => exact recorded
  | cons step rest ih => exact ih (recorded.take step)

theorem Recorded.errorCount_eq (recorded : Recorded settings p) :
    p.session.diagnostics.errorCount = p.sources.countP settings.rejects := by
  rw [Diagnostics.errorCount, recorded.diagnostics]
  simp [List.length_filterMap_eq_countP, settings.isSome_error?]

theorem Recorded.warningCount_eq (recorded : Recorded settings p) :
    p.session.diagnostics.warningCount = p.sources.countP settings.hasUnknownDirective := by
  rw [Diagnostics.warningCount, recorded.diagnostics]
  simp [List.length_filterMap_eq_countP, settings.isSome_warning?]

/-- The account and the session say the same. -/
structure Tracks (settings : Settings) (p : Progress) : Prop where
  kept : p.session.settings = settings
  diagnostics : p.session.diagnostics =
    { errors := p.sources.filterMap settings.error?
      warnings := p.sources.filterMap settings.warning? }
  output : p.output = p.emitted.map Emission.line
  closed : Closed p.emitted
  annotations : annotations p.emitted =
    p.sources.filterMap fun raw => (settings.error? raw).map (annotationOf raw)

theorem Tracks.recorded (tracks : Tracks settings p) : Recorded settings p :=
  ⟨tracks.kept, tracks.diagnostics⟩

theorem tracks_start (settings : Settings) (tree : FileTree) :
    Tracks settings (start settings tree) where
  kept := rfl
  diagnostics := rfl
  output := rfl
  closed := closed_nil
  annotations := rfl

/-- A step adds to the account what it adds to the session. -/
theorem Tracks.take (tracks : Tracks settings p) (standard : settings.directives = .standard)
    (targets : ∀ entry ∈ settings.registers.table.entries, '\n' ∉ entry.2) (step : Step) :
    Tracks settings (p.take step) := by
  have recorded := tracks.recorded.take step
  obtain ⟨rfl, -, output, closed, annotated⟩ := tracks
  have performs := p.session.performs p.tree step
  obtain ⟨closedStep, annotatedStep⟩ := annotations_emissions standard p.tree step
  exact {
    kept := recorded.kept
    diagnostics := recorded.diagnostics
    output := by simp [Progress.take, output, performs.output_eq standard targets]
    closed := closed_append closed closedStep
    annotations := by
      simp only [Progress.take, List.filterMap_append]
      rw [annotations_append closed, annotated, annotatedStep] }

/-- So does a history. -/
theorem Tracks.run (tracks : Tracks settings p) (standard : settings.directives = .standard)
    (targets : ∀ entry ∈ settings.registers.table.entries, '\n' ∉ entry.2) (steps : List Step) :
    Tracks settings (p.run steps) := by
  induction steps generalizing p with
  | nil => exact tracks
  | cons step rest ih => exact ih (tracks.take standard targets step)

/-! ## Agreement -/

/-- The lines of a report: the errors, the warnings if there are any, and two counts. -/
def reportOf (errors : List Diagnostic) (warnings : List Text)
    (errorCount warningCount : Nat) : Text :=
  Text.join "\n\n" (errors.map Diagnostic.text ++
    (if warningCount = 0 then []
      else [Text.unlines (warnings.map fun (warning : Text) => "warning: " ++ warning)]) ++
    [Diagnostics.counted errorCount "error" ++ ", " ++
      Diagnostics.counted warningCount "warning"])

/-- Counters, annotations and report agree with the lines that went in and came out. -/
structure Agrees (settings : Settings) (p : Progress) : Prop where
  errorCount : p.session.diagnostics.errorCount = p.sources.countP settings.rejects
  warningCount : p.session.diagnostics.warningCount = p.sources.countP settings.hasUnknownDirective
  hasErrors : p.session.diagnostics.hasErrors = true ↔ 0 < p.session.diagnostics.errorCount
  output : p.output = p.emitted.map Emission.line
  annotations : annotations p.emitted =
    List.zipWith annotationOf (p.sources.filter settings.rejects) p.session.diagnostics.errors
  report : (p.session.performOn p.tree .report).1.1 =
    .text (reportOf p.session.diagnostics.errors p.session.diagnostics.warnings
      (p.sources.countP settings.rejects) (p.sources.countP settings.hasUnknownDirective))

/-- What is found item by item is what is found in the items where there is something. -/
theorem zipWith_filterMap {α β γ : Type} {f : α → Option β} {found : α → Bool}
    (same : ∀ a, (f a).isSome = found a) (g : α → β → γ) (items : List α) :
    List.zipWith g (items.filter found) (items.filterMap f) =
      items.filterMap fun a => (f a).map (g a) := by
  induction items with
  | nil => rfl
  | cons a rest ih =>
      cases here : f a with
      | none =>
          have skipped : found a = false := by rw [← same, here]; rfl
          simp [here, skipped, ih]
      | some b =>
          have kept : found a = true := by rw [← same, here]; rfl
          simp [here, kept, ih]

theorem Tracks.errorCount_eq (tracks : Tracks settings p) :
    p.session.diagnostics.errorCount = p.sources.countP settings.rejects :=
  tracks.recorded.errorCount_eq

theorem Tracks.warningCount_eq (tracks : Tracks settings p) :
    p.session.diagnostics.warningCount = p.sources.countP settings.hasUnknownDirective :=
  tracks.recorded.warningCount_eq

theorem Tracks.agrees (tracks : Tracks settings p) : Agrees settings p where
  errorCount := tracks.errorCount_eq
  warningCount := tracks.warningCount_eq
  hasErrors := by
    rw [Diagnostics.hasErrors, Diagnostics.errorCount, List.length_pos_iff]
    simp
  output := tracks.output
  annotations := by
    rw [tracks.annotations, tracks.diagnostics]
    exact (zipWith_filterMap settings.isSome_error? annotationOf p.sources).symm
  report := by
    rw [← tracks.errorCount_eq, ← tracks.warningCount_eq]
    have none_left : p.session.diagnostics.warningCount = 0 ↔
        p.session.diagnostics.warnings.isEmpty = true := by
      rw [Diagnostics.warningCount, List.length_eq_zero_iff, List.isEmpty_iff]
    simp only [reportOf, none_left]
    rfl

end Progress

open Progress in
/-- **Over every history, what a session has counted, written and reported agree**, and the errors
never get fewer. -/
theorem history_agrees {settings : Settings} (standard : settings.directives = .standard)
    (targets : ∀ entry ∈ settings.registers.table.entries, '\n' ∉ entry.2) (tree : FileTree)
    (steps more : List Step) :
    ((({ settings } : Session).performAll FileTree.access steps).run tree).1 =
        ((start settings tree).run steps).answers ∧
      Agrees settings ((start settings tree).run steps) ∧
      ((start settings tree).run steps).session.diagnostics.errorCount ≤
        ((start settings tree).run (steps ++ more)).session.diagnostics.errorCount := by
  have tracks := (tracks_start settings tree).run standard targets
  refine ⟨(answers_run (start settings tree) steps).symm, (tracks steps).agrees, ?_⟩
  obtain ⟨added, sources⟩ := exists_sources_run ((start settings tree).run steps) more
  rw [(tracks steps).errorCount_eq, (tracks (steps ++ more)).errorCount_eq, run_append, sources,
    List.countP_append]
  exact Nat.le_add_right _ _

/-- Settings under which an operand looks like an annotation. -/
def oddSettings : Settings := { size := .quad, registers := .ofList [("A", "; ERROR: a")] }

/-- A file with an error, a comment that looks like an annotation, and a label that does. -/
def mixedTree : FileTree :=
  .ofLists [] [("a.asm", Text.Utf8.encode "\tfoo 1 ; why\n; ERROR: old\nERROR: x")]

/-- Steps of every kind; one reads a file that an earlier one wrote, and one fails. -/
def mixedHistory : List Step :=
  [.line "  LDA", .text ".weird ;\nINC A ; ERROR: b\n  ; ERROR: c", .report,
    .file (Path.ofText "a.asm"), .write (Path.ofText "b.asm") "PUSH", .file (Path.ofText "b.asm"),
    .file (Path.ofText "missing"), .stats]

open Progress in
theorem mixedHistory_agrees :
    oddSettings.directives = .standard ∧
      (∀ entry ∈ oddSettings.registers.table.entries, '\n' ∉ entry.2) ∧
      Agrees oddSettings ((start oddSettings mixedTree).run mixedHistory) ∧
      ((start oddSettings mixedTree).run mixedHistory).session.diagnostics.errorCount = 3 ∧
      ((start oddSettings mixedTree).run mixedHistory).session.diagnostics.warningCount = 1 := by
  have targets : ∀ entry ∈ oddSettings.registers.table.entries, '\n' ∉ entry.2 := by decide +kernel
  have counts :
      ((start oddSettings mixedTree).run mixedHistory).session.diagnostics.errorCount = 3 ∧
      ((start oddSettings mixedTree).run mixedHistory).session.diagnostics.warningCount = 1 := by
    decide +kernel
  exact ⟨rfl, targets, (history_agrees rfl targets mixedTree mixedHistory []).2.1, counts⟩

end Retarget
