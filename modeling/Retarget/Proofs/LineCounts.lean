/-
# Retarget.Proofs.LineCounts -- the line counts of the statistics are those of the texts

The statistics count the lines that a conversion made before they are put together.  That these
are the lines of the text that comes out is a fact about every line: none has a newline in it.  And
a line never becomes more than four, nor fewer than one, so the counts bound each other
(`Settings.length_bodyLines`).

Statistics are made when a text is converted.  A step that converts none, or that fails, leaves them
as they are (`Session.Performs.stats_kept`), and so do many (`Progress.stats_run`).
-/
import Retarget.Proofs.Batches
import Retarget.Proofs.Expansion

namespace Retarget

set_option autoImplicit false

/-! ## How many lines come of a text -/

/-- Between one and `most` for each item, so between one and `most` times as many for all. -/
theorem length_flatMap_between {α β : Type} {f : α → List β} {most : Nat} {items : List α}
    (each : ∀ a ∈ items, 1 ≤ (f a).length ∧ (f a).length ≤ most) :
    items.length ≤ (items.flatMap f).length ∧ (items.flatMap f).length ≤ most * items.length := by
  induction items with
  | nil => simp
  | cons a rest ih =>
      obtain ⟨least, greatest⟩ := each a List.mem_cons_self
      obtain ⟨fewest, all⟩ := ih fun b later => each b (List.mem_cons_of_mem a later)
      rw [List.flatMap_cons, List.length_append, List.length_cons, Nat.mul_add, Nat.mul_one]
      omega

namespace Settings

variable (settings : Settings)

def headerLength : Nat := if settings.banner then 2 else 0

theorem length_header : settings.header.length = settings.headerLength := by
  unfold header headerLength
  split <;> rfl

theorem bodyLines_eq (source : Text) :
    settings.bodyLines source =
      source.lines.flatMap fun raw => (settings.convertLine raw).lines := by
  rw [bodyLines, convertLines, List.flatMap_map]

/-- A text becomes at least as many lines as it has, and at most four times as many. -/
theorem length_bodyLines (source : Text) :
    source.lines.length ≤ (settings.bodyLines source).length ∧
      (settings.bodyLines source).length ≤ 4 * source.lines.length := by
  rw [bodyLines_eq]
  apply length_flatMap_between
  intro raw _
  have converts := settings.converts raw
  exact ⟨List.length_pos_iff.mpr converts.lines_ne_nil, converts.length_le⟩

end Settings

/-! ## The statistics -/

namespace Step

/-- Does the step convert a text as a whole, from a file or not? -/
def convertsText : Step → Bool
  | .text _ | .file _ => true
  | .line _ | .write _ _ | .report | .stats => false

theorem source?_of_idle {step : Step} (idle : step.convertsText = false) (tree : FileTree) :
    step.source? tree = none := by
  cases step with
  | text | file => contradiction
  | line | write | report | stats => rfl

end Step

section Step

variable {s ended : Session} {tree : FileTree} {step : Step} {answer : Answer} {source : Text}

/-- A step that converts a text answers with the converted text, and ends as that conversion. -/
theorem Session.Performs.exists_convertText (performs : s.Performs tree step answer ended)
    (converts : step.source? tree = some source) :
    ∃ name, answer = .text (s.convertText name source).1 ∧
      ended = (s.convertText name source).2 := by
  cases performs with
  | text given =>
      obtain rfl : given = source := Option.some.inj converts
      exact ⟨unnamed, rfl, rfl⟩
  | @file path given read =>
      obtain rfl : given = source := Option.some.inj (read.symm.trans converts)
      exact ⟨path.text, rfl, rfl⟩
  | unread failure unread =>
      rw [unread] at converts
      contradiction
  | line | wrote | unwritten | report | stats => simp [Step.source?] at converts

/-- A step that converts no text keeps the statistics. -/
theorem Session.Performs.stats_kept (performs : s.Performs tree step answer ended)
    (idle : step.source? tree = none) : ended.stats = s.stats := by
  cases performs with
  | text given => simp [Step.source?] at idle
  | file read =>
      rw [read] at idle
      contradiction
  | line | unread | wrote | unwritten | report | stats => rfl

/-- A step that fails converts no text. -/
theorem Session.Performs.source?_of_failed {failure : Failure}
    (performs : s.Performs tree step (.failed failure) ended) : step.source? tree = none := by
  cases performs with
  | unread _ unread => exact unread
  | unwritten => rfl

end Step

/-- The statistics count the lines of the source and of the text it became. -/
structure Stats.Counts (stats : Stats) (settings : Settings) (source text : Text) : Prop where
  /-- The lines in are one more than the newlines of the source. -/
  inputLines : stats.inputLines = source.count '\n' + 1
  /-- The lines out are those that the text has when it is cut at its newlines. -/
  outputLines : stats.outputLines = text.lines.length
  /-- They are the header and what each line became. -/
  lines : text.lines =
    settings.header ++ source.lines.flatMap fun raw => (settings.convertLine raw).lines
  least : stats.inputLines ≤ stats.outputLines - settings.headerLength
  most : stats.outputLines - settings.headerLength ≤ 4 * stats.inputLines

/-- A conversion leaves statistics that count the lines of its texts. -/
theorem Session.counts_convertText {s : Session} (standard : s.settings.directives = .standard)
    (targets : ∀ entry ∈ s.settings.registers.table.entries, '\n' ∉ entry.2) (name source : Text) :
    (s.convertText name source).2.stats.Counts s.settings source (s.convertText name source).1 := by
  have linesIn : (s.convertText name source).2.stats.inputLines = source.lines.length := by
    show ((s.settings.convertLines source).length : Int) = _
    rw [Settings.convertLines, List.length_map]
  have linesOut : (s.convertText name source).2.stats.outputLines =
      (s.settings.headerLength + (s.settings.bodyLines source).length : Nat) := by
    show ((s.settings.header ++ s.settings.bodyLines source).length : Int) = _
    rw [List.length_append, Settings.length_header]
  have lines : (s.convertText name source).1.lines =
      s.settings.header ++ s.settings.bodyLines source := by
    rw [lines_convertText standard targets, Settings.map_line_emitText]
    rfl
  obtain ⟨fewest, all⟩ := s.settings.length_bodyLines source
  exact {
    inputLines := by
      rw [linesIn, Text.lines, Text.length_piecesAt]
      rfl
    outputLines := by rw [linesOut, lines, List.length_append, Settings.length_header]
    lines := by rw [lines, Settings.bodyLines_eq]
    least := by omega
    most := by omega }

namespace Progress

/-- The answer to someone who asks for the statistics. -/
def statistics (p : Progress) : Answer := (p.session.performOn p.tree .stats).1.1

theorem statistics_eq (p : Progress) : p.statistics = .stats p.session.stats := rfl

variable (p : Progress)

theorem stats_take {step : Step} (idle : step.source? p.tree = none) :
    (p.take step).session.stats = p.session.stats :=
  (p.session.performs p.tree step).stats_kept idle

theorem stats_run {steps : List Step} (idle : ∀ step ∈ steps, step.convertsText = false) :
    (p.run steps).session.stats = p.session.stats := by
  induction steps generalizing p with
  | nil => rfl
  | cons step rest ih =>
      obtain ⟨first, later⟩ := List.forall_mem_cons.mp idle
      exact (ih (p.take step) later).trans (p.stats_take (Step.source?_of_idle first p.tree))

end Progress

open Progress (start) in
/-- **The line counts are those of the texts.**  After any history, a step that converts a text or a
file leaves statistics that stay the same through all steps that convert none.  The lines in are one
more than the newlines of the source; the lines out are those of the answer, which are the header
and then what each line becomes; and without the header there are as many as lines in, or up to four
times as many.  A step that converts no text, or that fails, changes nothing in them. -/
theorem line_counts {settings : Settings} (standard : settings.directives = .standard)
    (targets : ∀ entry ∈ settings.registers.table.entries, '\n' ∉ entry.2) (tree : FileTree)
    (steps : List Step) :
    let before := (start settings tree).run steps
    (∀ step source more, step.source? before.tree = some source →
      (∀ later ∈ more, later.convertsText = false) →
      ∃ text stats, (before.session.performOn before.tree step).1.1 = .text text ∧
        ((before.take step).run more).statistics = .stats stats ∧
        stats.Counts settings source text) ∧
    ∀ step, step.convertsText = false ∨
        (∃ failure, (before.session.performOn before.tree step).1.1 = .failed failure) →
      (before.take step).statistics = before.statistics := by
  intro before
  have kept : before.session.settings = settings :=
    Progress.settings_run (start settings tree) steps
  constructor
  · intro step source more converts idle
    have performs := before.session.performs before.tree step
    obtain ⟨name, answered, ended⟩ := performs.exists_convertText converts
    refine ⟨_, (before.session.convertText name source).2.stats, answered, ?_, ?_⟩
    · rw [Progress.statistics_eq, Progress.stats_run _ idle, ← ended]
      rfl
    · have counts := Session.counts_convertText (s := before.session) (kept ▸ standard)
        (kept ▸ targets) name source
      rwa [kept] at counts
  · intro step quiet
    have idle : step.source? before.tree = none := by
      rcases quiet with idle | ⟨failure, failed⟩
      · exact Step.source?_of_idle idle before.tree
      · have performs := before.session.performs before.tree step
        rw [failed] at performs
        exact performs.source?_of_failed
    rw [Progress.statistics_eq, Progress.statistics_eq, before.stats_take idle]

open Progress (start) in
/-- A change of memory, a blank line and an error behind a long history, and then more lines. -/
theorem mixedHistory_lineCounts :
    let before := (start oddSettings mixedTree).run mixedHistory
    let step := Step.text "inc @x ; c\n\nFOO"
    (∀ entry ∈ oddSettings.registers.table.entries, '\n' ∉ entry.2) ∧
      (∃ stats, ((before.take step).run [.line "FOO", .report]).statistics = .stats stats ∧
        stats.inputLines = 3 ∧ stats.outputLines = 9) ∧
      (before.take (.file (Path.ofText "missing"))).statistics = before.statistics := by
  intro before step
  have targets : ∀ entry ∈ oddSettings.registers.table.entries, '\n' ∉ entry.2 := by decide +kernel
  obtain ⟨counted, quiet⟩ := line_counts rfl targets mixedTree mixedHistory
  refine ⟨targets, ?_, ?_⟩
  · obtain ⟨text, stats, -, answer, counts⟩ :=
      counted step "inc @x ; c\n\nFOO" [.line "FOO", .report] rfl (by decide)
    refine ⟨stats, answer, counts.inputLines, ?_⟩
    rw [counts.outputLines, counts.lines]
    decide +kernel
  · apply quiet
    right
    exact ⟨.file { errno := .noSuchFile, path := some "missing" }, by decide +kernel⟩

end Retarget
