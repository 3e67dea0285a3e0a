/-
# Retarget.Proofs.Statistics -- what the statistics of a session count

The statistics that a session keeps are made when it converts a text or a file.  Their line counts
are those of that conversion, but their errors and warnings are read off the diagnostics, and these
go back to the start of the session (`Session.Performs.stats_eq`).  So they count what was wrong
with all lines that the session ever converted (`Progress.Recorded.stats_take`), and they describe
the last conversion by itself exactly if nothing was wrong with any line before it.
-/
import Retarget.Proofs.Accounting

namespace Retarget

set_option autoImplicit false

section Step

variable {s ended : Session} {tree : FileTree} {step : Step} {answer : Answer} {source : Text}

/-- A step that converts a whole text leaves statistics of everything that is then recorded. -/
theorem Session.Performs.stats_eq (performs : s.Performs tree step answer ended)
    (converts : step.source? tree = some source) :
    ended.stats.errors = ended.diagnostics.errorCount ∧
      ended.stats.warnings = ended.diagnostics.warningCount := by
  cases performs with
  | text source => exact ⟨rfl, rfl⟩
  | file read => exact ⟨rfl, rfl⟩
  | unread failure unread =>
      rw [unread] at converts
      contradiction
  | line | wrote | unwritten | report | stats => simp [Step.source?] at converts

theorem Step.sources_of_source? (converts : step.source? tree = some source) :
    step.sources tree = source.lines := by
  cases step with
  | line raw => simp [source?] at converts
  | text | file | write | report | stats => simp [sources, converts]

end Step

namespace Progress

variable {settings : Settings} {p : Progress}

/-- The statistics after a conversion count over the whole session. -/
theorem Recorded.stats_take (recorded : Recorded settings p) {step : Step} {source : Text}
    (converts : step.source? p.tree = some source) :
    (p.take step).session.stats.errors = (p.sources ++ source.lines).countP settings.rejects ∧
      (p.take step).session.stats.warnings =
        (p.sources ++ source.lines).countP settings.hasUnknownDirective := by
  have sources : (p.take step).sources = p.sources ++ source.lines := by
    rw [Progress.take, Step.sources_of_source? converts]
  obtain ⟨errors, warnings⟩ := (p.session.performs p.tree step).stats_eq converts
  rw [← sources, ← (recorded.take step).errorCount_eq, ← (recorded.take step).warningCount_eq]
  exact ⟨errors, warnings⟩

end Progress

theorem countP_append_eq_right_iff {α : Type} (q : α → Bool) (before items : List α) :
    (before ++ items).countP q = items.countP q ↔ ∀ a ∈ before, q a = false := by
  rw [List.countP_append, Nat.add_eq_right, List.countP_eq_zero]
  simp

open Progress (start) in
/-- **The statistics go back to the start of the session.**  After any history, a step that converts
a text or a file leaves statistics of all lines converted so far.  They are those of its own lines
exactly if no line before them was rejected, or had an unknown directive. -/
theorem stats_cumulative (settings : Settings) (tree : FileTree) (steps : List Step) {step : Step}
    {source : Text} (converts : step.source? ((start settings tree).run steps).tree = some source) :
    let before := (start settings tree).run steps
    let after := before.take step
    ∃ stats : Stats, (after.session.performOn after.tree .stats).1.1 = .stats stats ∧
      stats.errors = (before.sources ++ source.lines).countP settings.rejects ∧
      stats.warnings = (before.sources ++ source.lines).countP settings.hasUnknownDirective ∧
      (stats.errors = source.lines.countP settings.rejects ↔
        ∀ raw ∈ before.sources, settings.rejects raw = false) ∧
      (stats.warnings = source.lines.countP settings.hasUnknownDirective ↔
        ∀ raw ∈ before.sources, settings.hasUnknownDirective raw = false) := by
  intro before after
  have recorded : Progress.Recorded settings before :=
    (Progress.recorded_start settings tree).run steps
  obtain ⟨errors, warnings⟩ := recorded.stats_take converts
  refine ⟨after.session.stats, rfl, errors, warnings, ?_, ?_⟩
  · rw [errors, Int.ofNat_inj]
    exact countP_append_eq_right_iff settings.rejects before.sources source.lines
  · rw [warnings, Int.ofNat_inj]
    exact countP_append_eq_right_iff settings.hasUnknownDirective before.sources source.lines

/-- An error, an unknown directive, and a file that has neither. -/
def faultyHistory : List Step :=
  [.line "FOO", .write (Path.ofText "b.asm") "NOP", .text ".weird"]

open Progress (start) in
theorem faultyHistory_stats :
    let before := (start {} (.ofLists [] [])).run faultyHistory
    let step := Step.file (Path.ofText "b.asm")
    let after := before.take step
    step.source? before.tree = some "NOP" ∧
      ∃ stats : Stats, (after.session.performOn after.tree .stats).1.1 = .stats stats ∧
        stats.errors = 1 ∧ stats.warnings = 1 := by
  intro before step after
  have converts : step.source? before.tree = some "NOP" := by decide +kernel
  obtain ⟨stats, answer, errors, warnings, -⟩ :=
    stats_cumulative {} (.ofLists [] []) faultyHistory converts
  have counts : (before.sources ++ Text.lines "NOP").countP (Settings.rejects {}) = 1 ∧
      (before.sources ++ Text.lines "NOP").countP (Settings.hasUnknownDirective {}) = 1 := by
    decide +kernel
  exact ⟨converts, stats, answer, errors.trans (congrArg _ counts.1),
    warnings.trans (congrArg _ counts.2)⟩

open Progress (start) in
/-- A text without an error has the error of the line before it in its statistics. -/
theorem earlier_error_counted :
    ((start { banner := false } (.ofLists [] [])).run [.line "FOO", .text "NOP"]).session.stats =
        { inputLines := 1, outputLines := 1, errors := 1, warnings := 0 } ∧
      (Text.lines "NOP").countP (Settings.rejects { banner := false }) = 0 := by
  decide +kernel

end Retarget
