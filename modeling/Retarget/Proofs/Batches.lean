/-
# Retarget.Proofs.Batches -- a text is converted line by line, whatever went before

What a session makes of a text is fixed by its settings: the output, and what it adds to the
diagnostics (`Session.yields`).  Nothing that happened earlier in the session has a part in it, and
no step changes the settings (`Progress.settings_run`).

So texts may be cut at their newlines.  What comes of two texts with a newline between them is what
comes of the first, a newline, and what comes of the second (`Settings.batch_append`); the banner
stands in front of all that and changes nothing else (`Settings.batch_banner`).
-/
import Retarget.Proofs.Accounting

namespace Retarget

set_option autoImplicit false

/-- What comes of a text: the output, and what is added to the diagnostics. -/
structure Batch where
  output : Text
  errors : List Diagnostic := []
  warnings : List Text := []
  deriving DecidableEq, Repr

/-- Two batches, with a newline between their outputs. -/
def Batch.append (first second : Batch) : Batch where
  output := first.output ++ '\n' :: second.output
  errors := first.errors ++ second.errors
  warnings := first.warnings ++ second.warnings

def Batch.headed (heading : Text) (batch : Batch) : Batch :=
  { batch with output := heading ++ batch.output }

def Settings.batch (settings : Settings) (source : Text) : Batch where
  output := Text.unlines ((settings.emitText source).map Emission.line)
  errors := source.lines.filterMap settings.error?
  warnings := source.lines.filterMap settings.warning?

/-- As the session stands, this comes of the text, by whatever name it is converted. -/
structure Session.Yields (s : Session) (source : Text) (batch : Batch) : Prop where
  output (name : Text) : (s.convertText name source).1 = batch.output
  errors (name : Text) : (s.convertText name source).2.diagnostics.errors =
    s.diagnostics.errors ++ batch.errors
  warnings (name : Text) : (s.convertText name source).2.diagnostics.warnings =
    s.diagnostics.warnings ++ batch.warnings

/-- What comes of a text depends on the settings of the session alone. -/
theorem Session.yields (s : Session) (source : Text) :
    s.Yields source (s.settings.batch source) := by
  have recorded : ∀ name, (s.convertText name source).2.diagnostics =
      { errors := s.diagnostics.errors ++ source.lines.filterMap s.settings.error?
        warnings := s.diagnostics.warnings ++ source.lines.filterMap s.settings.warning? } :=
    fun _ => record_diagnostics s source.lines
  refine ⟨?_, ?_, ?_⟩
  · intro name
    show Text.unlines _ = Text.unlines _
    rw [s.settings.map_line_emitText]
  · intro name
    rw [recorded name]
    rfl
  · intro name
    rw [recorded name]
    rfl

/-! ## Settings stay as they are -/

namespace Progress

theorem settings_take (p : Progress) (step : Step) :
    (p.take step).session.settings = p.session.settings :=
  (p.session.performs p.tree step).recorded.1

theorem settings_run (p : Progress) (steps : List Step) :
    (p.run steps).session.settings = p.session.settings := by
  induction steps generalizing p with
  | nil => rfl
  | cons step rest ih => exact (ih (p.take step)).trans (p.settings_take step)

/-- A session with a history makes of a text what its settings say. -/
theorem yields_run (settings : Settings) (tree : FileTree) (steps : List Step) (source : Text) :
    ((start settings tree).run steps).session.Yields source (settings.batch source) := by
  have kept := settings_run (start settings tree) steps
  have yields := ((start settings tree).run steps).session.yields source
  rwa [kept] at yields

end Progress

/-! ## Cutting and heading -/

namespace Settings

variable (settings : Settings)

/-- The lines that a text becomes, without the header. -/
def bodyLines (source : Text) : List Text :=
  (settings.convertLines source).flatMap Conversion.lines

theorem bodyLines_ne_nil (source : Text) : settings.bodyLines source ≠ [] := by
  obtain ⟨raw, rest, lines⟩ := List.exists_cons_of_ne_nil (Text.lines_ne_nil source)
  have some_line := (settings.converts raw).lines_ne_nil
  simp [bodyLines, convertLines, lines, some_line]

theorem bodyLines_append (source more : Text) :
    settings.bodyLines (source ++ '\n' :: more) =
      settings.bodyLines source ++ settings.bodyLines more := by
  simp only [bodyLines, convertLines, Text.lines_append_newline, List.map_append,
    List.flatMap_append]

theorem output_batch (plain : settings.banner = false) (source : Text) :
    (settings.batch source).output = Text.unlines (settings.bodyLines source) := by
  have header : settings.header = [] := by simp [header, plain]
  simp only [batch, map_line_emitText, header, List.nil_append]
  rfl

/-- Without a banner, the batch of two texts with a newline between them is the batch of the
first and then that of the second. -/
theorem batch_append (plain : settings.banner = false) (source more : Text) :
    settings.batch (source ++ '\n' :: more) =
      (settings.batch source).append (settings.batch more) := by
  have output : (settings.batch (source ++ '\n' :: more)).output =
      (settings.batch source).output ++ '\n' :: (settings.batch more).output := by
    simp only [settings.output_batch plain, bodyLines_append]
    exact Text.unlines_append (settings.bodyLines_ne_nil source) (settings.bodyLines_ne_nil more)
  simp only [Batch.append, ← output]
  simp only [batch, Text.lines_append_newline, List.filterMap_append]

/-- The banner is two lines in front and nothing else. -/
theorem batch_banner (source : Text) :
    ({ settings with banner := true } : Settings).batch source =
      (({ settings with banner := false } : Settings).batch source).headed
        "; Converted from IE32 by ie32to64\n\n" := by
  let lines : List Text := ["; Converted from IE32 by ie32to64", []]
  have header : ({ settings with banner := true } : Settings).header = lines := rfl
  have heading (body : Text) :
      Text.unlines lines ++ '\n' :: body = "; Converted from IE32 by ie32to64\n\n" ++ body := by
    simp [lines, Text.unlines, Text.join, List.intercalate]
  have output : (({ settings with banner := true } : Settings).batch source).output =
      "; Converted from IE32 by ie32to64\n\n" ++
        (({ settings with banner := false } : Settings).batch source).output := by
    rw [output_batch { settings with banner := false } rfl, ← heading]
    simp only [batch, map_line_emitText, header]
    exact Text.unlines_append (by simp [lines]) (bodyLines_ne_nil _ source)
  -- No line is converted in another way because of the banner, so the diagnostics are the same.
  simp only [Batch.headed, ← output]
  rfl

end Settings

/-- **Conversion goes line by line and does not depend on what was converted before**: without a
banner, what comes of two texts with a newline between them is what comes of each, with a newline
between the outputs; and a banner is put in front and changes nothing else.  What comes of a text
is the same after every history. -/
theorem conversion_linewise (settings : Settings) (source more : Text) :
    ∃ first second : Batch, ∀ (tree : FileTree) (steps : List Step),
      let plain := ((Progress.start { settings with banner := false } tree).run steps).session
      let bannered := ((Progress.start { settings with banner := true } tree).run steps).session
      plain.Yields source first ∧ plain.Yields more second ∧
        plain.Yields (source ++ "\n" ++ more) (first.append second) ∧
        bannered.Yields source (first.headed "; Converted from IE32 by ie32to64\n\n") := by
  let plain : Settings := { settings with banner := false }
  refine ⟨plain.batch source, plain.batch more, ?_⟩
  intro tree steps
  refine ⟨Progress.yields_run plain tree steps source, Progress.yields_run plain tree steps more,
    ?_, ?_⟩
  · have together : source ++ "\n" ++ more = source ++ '\n' :: more := by simp
    rw [together, ← plain.batch_append rfl]
    exact Progress.yields_run plain tree steps (source ++ '\n' :: more)
  · rw [← settings.batch_banner]
    exact Progress.yields_run { settings with banner := true } tree steps source

end Retarget
