/-
# Retarget.Proofs.Command.Effect -- what a run does to the files, and its exit code

A command line that passes the checks is run to its end.  `Effects` says what becomes of the tree
and of the exit code: an input that is no UTF-8 and an output that does not open leave the tree as
it was, and otherwise the converted text is put at the place of the output, even if lines could not
be converted (`effects_run`).  There is one such effect (`Effects.unique`), and it does not depend
on the switches for messages (`Effects.of_quiet`).
-/
import Retarget.Proofs.Accounting
import Retarget.Proofs.Command.Checking
import Retarget.Proofs.Files.Path
import Retarget.Proofs.Text.Decoding

namespace Retarget

set_option autoImplicit false

open Text.Utf8 (encode)

/-- The text that a source is converted into, under given settings. -/
def Settings.converted (settings : Settings) (source : Text) : Text :=
  (({ settings } : Session).convertText Session.unnamed source).1

/-- Some line of the source cannot be converted. -/
def Settings.rejectsSome (settings : Settings) (source : Text) : Bool :=
  source.lines.any settings.rejects

/-! ## Sessions -/

section Session

variable (s : Session) {tree : FileTree} {path : Path}

theorem Session.convertText_fst (name source : Text) :
    (s.convertText name source).1 = s.settings.converted source := rfl

theorem Session.hasErrors_convertText (fresh : s.diagnostics = {}) (name source : Text) :
    (s.convertText name source).2.diagnostics.hasErrors = s.settings.rejectsSome source := by
  have recorded : (s.convertText name source).2.diagnostics.errors =
      s.diagnostics.errors ++ source.lines.filterMap s.settings.error? :=
    congrArg Diagnostics.errors
      (record_diagnostics (s.note (.started name s.settings.size.suffix)) source.lines)
  have some_error : (source.lines.filterMap s.settings.error?).isEmpty =
      !source.lines.any s.settings.rejects := by
    rw [Bool.eq_iff_iff]
    simp [← Settings.isSome_error?]
  rw [Diagnostics.hasErrors, recorded, fresh, List.nil_append, some_error, Bool.not_not]
  rfl

theorem Session.run_convertFile_of_text {text : Text} (clean : Path.holdsNul path.text = false)
    (held : tree.At path.text (.file (encode text))) :
    (s.convertFile FileTree.access path).run tree =
      (.ok (s.convertText path.text text.normalizeNewlines), tree) := by
  rw [run_convertFile, clean, FileTree.read_eq_ok_iff.mpr held]
  simp [sourceText, Text.Utf8.decode_encode, Except.map]

theorem Session.run_convertFile_of_noText {bytes : Bytes} (clean : Path.holdsNul path.text = false)
    (held : tree.At path.text (.file bytes)) (noText : ∀ text, bytes ≠ encode text) :
    ∃ fault, (s.convertFile FileTree.access path).run tree = (.error (.encoding fault), tree) := by
  rw [run_convertFile, clean, FileTree.read_eq_ok_iff.mpr held]
  cases decoded : Text.Utf8.decode bytes with
  | ok text => exact absurd (Text.Utf8.decode_eq_ok_iff.mp decoded) (noText text)
  | error fault => exact ⟨fault, by simp [sourceText, decoded, Except.map]⟩

theorem Session.run_writeFile_of_opens {place : Location} (clean : Path.holdsNul path.text = false)
    (opens : tree.Opens path.text place) (text : Text) :
    (s.writeFile FileTree.access path text).run tree =
      (.ok (s.note (.wrote path.text)), tree.put place (encode text)) := by
  rw [run_writeFile, clean, FileTree.write_of_opens opens]
  simp

theorem Session.run_writeFile_of_closed (clean : Path.holdsNul path.text = false)
    (closed : ∀ place, ¬ tree.Opens path.text place) (text : Text) :
    ∃ fault, (s.writeFile FileTree.access path text).run tree = (.error (.file fault), tree) := by
  obtain ⟨errno, refused⟩ := FileTree.write_of_closed closed (encode text)
  exact ⟨{ errno, path := some path.text }, by rw [run_writeFile, clean, refused]; simp⟩

end Session

namespace Command

/-! ## What a run does -/

/-- What a run with the given input makes of the tree, and its exit code. -/
inductive Effects (tree : FileTree) (scan : Scan) (input : Text) : ExitCode → FileTree → Prop
  /-- The input is no UTF-8. -/
  | unread {bytes : Bytes} (held : tree.At input (.file bytes))
      (noText : ∀ text, bytes ≠ encode text) : Effects tree scan input .invalid tree
  /-- The output does not open. -/
  | unwritten {output : Path} (target : scan.outputPath input = .ok output)
      (closed : ∀ place, ¬ tree.Opens output.text place) : Effects tree scan input .invalid tree
  /-- The output is written. -/
  | written {text : Text} {output : Path} {place : Location}
      (held : tree.At input (.file (encode text)))
      (target : scan.outputPath input = .ok output) (opens : tree.Opens output.text place) :
      Effects tree scan input
        (if scan.conversion.rejectsSome text.normalizeNewlines then .conversionErrors else .success)
        (tree.put place (encode (scan.conversion.converted text.normalizeNewlines)))

namespace Request

def planned (r : Request) (output : Path) : Session :=
  r.session.note (.planned r.input.text output.text)

section Stages

variable {r : Request} {tree after : FileTree} {output : Path} {failure : Failure} {text : Text}
  {s ended : Session}

theorem run_convertTo_unread
    (unread : ((r.planned output).convertFile FileTree.access r.input).run tree =
      (.error failure, tree)) :
    (r.convertTo FileTree.access output).run tree =
      (r.failed (r.planned output) failure, tree) := by
  unfold planned at unread
  unfold convertTo
  rw [StateT.run_bind, unread]
  rfl

theorem run_convertTo_unwritten
    (read : ((r.planned output).convertFile FileTree.access r.input).run tree =
      (.ok (text, s), tree))
    (unwritten : (s.writeFile FileTree.access output text).run tree = (.error failure, tree)) :
    (r.convertTo FileTree.access output).run tree = (r.failed s failure, tree) := by
  unfold planned at read
  unfold convertTo
  rw [StateT.run_bind, read]
  show StateT.run (s.writeFile FileTree.access output text >>= _) tree = _
  rw [StateT.run_bind, unwritten]
  rfl

theorem run_convertTo_written
    (read : ((r.planned output).convertFile FileTree.access r.input).run tree =
      (.ok (text, s), tree))
    (written : (s.writeFile FileTree.access output text).run tree = (.ok ended, after)) :
    (r.convertTo FileTree.access output).run tree = (r.finished output ended, after) := by
  unfold planned at read
  unfold convertTo
  rw [StateT.run_bind, read]
  show StateT.run (s.writeFile FileTree.access output text >>= _) tree = _
  rw [StateT.run_bind, written]
  rfl

end Stages

end Request

section Run

variable {tree : FileTree} {scan : Scan} {input : Text}

/-- The paths of a command line that passes can be handed to the system. -/
theorem Scan.Passes.exists_outputPath (passes : scan.Passes tree input) :
    ∃ output, scan.outputPath input = .ok output ∧ Path.holdsNul output.text = false := by
  obtain ⟨clean, bytes, held⟩ := passes.file
  unfold outputPath
  cases value : scan.value? .output with
  | some path => exact ⟨.ofText path, rfl, Path.holdsNul_ofText (passes.output path value).1⟩
  | none => exact Path.exists_defaultOutput (FileTree.names_ne_nil held) clean

/-- A request that a command line makes has the effect that the command line has. -/
theorem effects_convertTo {output : Path} (passes : scan.Passes tree input)
    (target : scan.outputPath input = .ok output) (clean : Path.holdsNul output.text = false) :
    ∃ outcome after,
      ((scan.request input).convertTo FileTree.access output).run tree = (outcome, after) ∧
        Effects tree scan input outcome.exit after := by
  obtain ⟨cleanInput, bytes, held⟩ := passes.file
  -- The checks looked at the input as it was given; what is opened is the path it is read as.
  have cleanPath : Path.holdsNul (scan.request input).input.text = false :=
    Path.holdsNul_ofText cleanInput
  have heldPath : tree.At (scan.request input).input.text (.file bytes) := FileTree.at_ofText held
  by_cases encoded : ∃ text, bytes = encode text
  · obtain ⟨text, rfl⟩ := encoded
    let ended := ((scan.request input).planned output).convertText (scan.request input).input.text
      text.normalizeNewlines
    have read : (((scan.request input).planned output).convertFile FileTree.access
        (scan.request input).input).run tree = (.ok (ended.1, ended.2), tree) :=
      Session.run_convertFile_of_text _ cleanPath heldPath
    by_cases opening : ∃ place, tree.Opens output.text place
    · obtain ⟨place, opens⟩ := opening
      have written := ended.2.run_writeFile_of_opens clean opens ended.1
      refine ⟨_, _, Request.run_convertTo_written read written, ?_⟩
      have found : ended.2.diagnostics.hasErrors =
          scan.conversion.rejectsSome text.normalizeNewlines :=
        Session.hasErrors_convertText _ rfl _ _
      have converted : ended.1 = scan.conversion.converted text.normalizeNewlines :=
        Session.convertText_fst _ _ _
      show Effects tree scan input (if ended.2.diagnostics.hasErrors then _ else _) _
      rw [found, converted]
      exact .written held target opens
    · obtain ⟨fault, unwritten⟩ :=
        ended.2.run_writeFile_of_closed clean (not_exists.mp opening) ended.1
      refine ⟨_, _, Request.run_convertTo_unwritten read unwritten, ?_⟩
      exact .unwritten target (not_exists.mp opening)
  · have noText := not_exists.mp encoded
    obtain ⟨fault, unread⟩ := Session.run_convertFile_of_noText _ cleanPath heldPath noText
    exact ⟨_, _, Request.run_convertTo_unread unread, .unread held noText⟩

/-- A command line that passes is run to its end, and has its effect. -/
theorem effects_run {words : List Text} (parsed : Scan.ofWords words = .ok scan)
    (runs : scan.inquiry? = none) (passes : scan.Passes tree input) :
    ∃ outcome after, (run FileTree.access words).run tree = (.ok outcome, after) ∧
      Effects tree scan input outcome.exit after := by
  obtain ⟨output, target, clean⟩ := passes.exists_outputPath
  obtain ⟨outcome, after, converted, effects⟩ := effects_convertTo passes target clean
  refine ⟨outcome, after, ?_, effects⟩
  obtain ⟨verdict, checked, gives⟩ := finds_ofScan scan tree
  obtain rfl := (gives (scan.request input)).mpr ⟨input, passes, rfl⟩
  unfold run
  simp only [parsed, runs]
  rw [StateT.run_bind, checked]
  show ((scan.request input).run FileTree.access).run tree = _
  unfold Request.run
  rw [Scan.target_request, target]
  show StateT.run ((scan.request input).convertTo FileTree.access output >>= _) tree = _
  rw [StateT.run_bind, converted]
  rfl

/-- A command line has one effect. -/
theorem Effects.unique {exit exit' : ExitCode} {after after' : FileTree}
    (effects : Effects tree scan input exit after) (also : Effects tree scan input exit' after') :
    exit = exit' ∧ after = after' := by
  -- The first two cases may hold at once, and then they agree; the third excludes both.
  cases effects with
  | unread held noText =>
      cases also with
      | unread => exact ⟨rfl, rfl⟩
      | unwritten => exact ⟨rfl, rfl⟩
      | written encoded target opens =>
          cases held.eq encoded
          exact absurd rfl (noText _)
  | unwritten target closed =>
      cases also with
      | unread => exact ⟨rfl, rfl⟩
      | unwritten => exact ⟨rfl, rfl⟩
      | written encoded target' opens =>
          cases target.symm.trans target'
          exact absurd opens (closed _)
  | written encoded target opens =>
      cases also with
      | unread held noText =>
          cases held.eq encoded
          exact absurd rfl (noText _)
      | unwritten target' closed =>
          cases target.symm.trans target'
          exact absurd opens (closed _)
      | written encoded' target' opens' =>
          cases target.symm.trans target'
          cases opens.eq opens'
          have same := Node.file.inj (encoded.eq encoded')
          cases Text.Utf8.encode_injective same
          exact ⟨rfl, rfl⟩

theorem Effects.ne_internal {exit : ExitCode} {after : FileTree}
    (effects : Effects tree scan input exit after) : exit.code ≠ 3 := by
  cases effects with
  | unread => decide
  | unwritten => decide
  | written => split <;> decide

/-- The switches for messages change nothing. -/
theorem Effects.of_quiet {scan' : Scan} {exit : ExitCode} {after : FileTree}
    (same : scan'.quiet = scan.quiet) (effects : Effects tree scan' input exit after) :
    Effects tree scan input exit after := by
  have conversion : scan'.conversion = scan.conversion := by
    rw [← scan'.conversion_quiet, same, scan.conversion_quiet]
  have outputPath : scan'.outputPath input = scan.outputPath input := by
    rw [← scan'.outputPath_quiet, same, scan.outputPath_quiet]
  cases effects with
  | unread held noText => exact .unread held noText
  | unwritten target closed => exact .unwritten (outputPath ▸ target) closed
  | written held target opens =>
      rw [conversion]
      exact .written held (outputPath ▸ target) opens

end Run

/-- **What a command line does to the files, and its exit code.**  If the input is no UTF-8 or the
output does not open, the exit code is 2 and the files are as they were.  Otherwise the output, and
nothing else, holds the conversion of the input, and the exit code tells whether there was a line
that could not be converted.  The exit code is never 3, and the switches that ask for messages
change neither the files nor the exit code. -/
theorem run_effect {tree : FileTree} {words : List Text} {scan : Scan} {input : Text}
    (parsed : Scan.ofWords words = .ok scan) (runs : scan.inquiry? = none)
    (passes : scan.Passes tree input) :
    ∃ bytes output outcome after,
      tree.At input (.file bytes) ∧ scan.outputPath input = .ok output ∧
      (run FileTree.access words).run tree = (.ok outcome, after) ∧
      ((∀ text, bytes ≠ encode text) ∨ (∀ place, ¬ tree.Opens output.text place) →
        outcome.exit.code = 2 ∧ after = tree) ∧
      (∀ text place, bytes = encode text → tree.Opens output.text place →
        (∀ l, after.find? l =
          if l = place then
            some (.file (encode (scan.conversion.converted text.normalizeNewlines)))
          else tree.find? l) ∧
        outcome.exit.code = if scan.conversion.rejectsSome text.normalizeNewlines then 1 else 0) ∧
      outcome.exit.code ≠ 3 ∧
      ∀ words' scan', Scan.ofWords words' = .ok scan' → scan'.quiet = scan.quiet →
        ∃ outcome', (run FileTree.access words').run tree = (.ok outcome', after) ∧
          outcome'.exit = outcome.exit := by
  obtain ⟨-, bytes, held⟩ := passes.file
  obtain ⟨output, target, -⟩ := passes.exists_outputPath
  obtain ⟨outcome, after, ran, effects⟩ := effects_run parsed runs passes
  have refused : (∀ text, bytes ≠ encode text) ∨ (∀ place, ¬ tree.Opens output.text place) →
      outcome.exit = .invalid ∧ after = tree := by
    rintro (noText | closed)
    · exact effects.unique (.unread held noText)
    · exact effects.unique (.unwritten target closed)
  have written : ∀ text place, bytes = encode text → tree.Opens output.text place →
      outcome.exit = (if scan.conversion.rejectsSome text.normalizeNewlines then .conversionErrors
        else .success) ∧
      after = tree.put place (encode (scan.conversion.converted text.normalizeNewlines)) := by
    rintro text place rfl opens
    exact effects.unique (.written held target opens)
  refine ⟨bytes, output, outcome, after, held, target, ran, ?_, ?_, ?_, ?_⟩
  · intro cause
    obtain ⟨exit, same⟩ := refused cause
    exact ⟨by rw [exit]; rfl, same⟩
  · intro text place encoded opens
    obtain ⟨exit, same⟩ := written text place encoded opens
    refine ⟨?_, ?_⟩
    · intro l
      rw [same]
      exact FileTree.find?_put opens.2 _ l
    · rw [exit]
      split <;> rfl
  · exact effects.ne_internal
  · intro words' scan' parsed' same
    have runs' : scan'.inquiry? = none := by
      rw [← scan'.inquiry?_quiet, same, scan.inquiry?_quiet]
      exact runs
    have passes' : scan'.Passes tree input := by
      rw [← Scan.passes_quiet_iff, same, Scan.passes_quiet_iff]
      exact passes
    obtain ⟨outcome', after', ran', effects'⟩ := effects_run parsed' runs' passes'
    obtain ⟨exit, tree'⟩ := (effects'.of_quiet same).unique effects
    exact ⟨outcome', tree' ▸ ran', exit⟩

/-- A source with two line endings and an unknown mnemonic, beside a directory. -/
def mixedTree : FileTree :=
  .ofLists ["out"] [("src/a.asm", encode "LDA #1\r\nFOO\n")]

/-- The words of a command line with all kinds of switches. -/
def mixedWords : List Text := ["--stats", "-s.q", "src//./a.asm", "-o", "out/b.asm"]

def mixedScan : Scan where
  given := [.flag .stats, .setting .size ".q", .setting .output "out/b.asm"]
  words := ["src//./a.asm"]

theorem mixedScan_passes : mixedScan.Passes mixedTree "src//./a.asm" where
  words := rfl
  file := ⟨by decide +kernel, FileTree.presence_eq_file_iff.mp (by decide +kernel)⟩
  size := by
    intro value given
    have same : mixedScan.value? .size = some ".q" := by decide +kernel
    rw [same] at given
    exact ⟨.quad, Option.some.inj given⟩
  output := by
    intro path given
    have same : mixedScan.value? .output = some "out/b.asm" := by decide +kernel
    rw [same] at given
    cases given
    rw [← FileTree.presence_eq_directory_iff]
    decide +kernel

theorem mixedWords_effect :
    (Scan.ofWords mixedWords = .ok mixedScan ∧ mixedScan.inquiry? = none) ∧
      ∃ outcome after, (run FileTree.access mixedWords).run mixedTree = (.ok outcome, after) ∧
        outcome.exit.code = 1 ∧
        after.find? ["out", "b.asm"] = some (.file (encode
          ("; Converted from IE32 by ie32to64\n\nmove.q r1, #1\n" ++
            "; ERROR: unknown IE32 mnemonic 'FOO'\n; FOO\n"))) ∧
        after.find? ["src", "a.asm"] = mixedTree.find? ["src", "a.asm"] ∧
        ∃ outcome', (run FileTree.access mixedWords.tail).run mixedTree = (.ok outcome', after) ∧
          outcome'.exit = outcome.exit := by
  have parsed : Scan.ofWords mixedWords = .ok mixedScan := by decide +kernel
  have runs : mixedScan.inquiry? = none := by decide +kernel
  have source : mixedTree.At "src//./a.asm" (.file (encode "LDA #1\r\nFOO\n")) :=
    ⟨["src", "a.asm"], by decide +kernel, by decide +kernel⟩
  have opens : mixedTree.Opens (Path.ofText "out/b.asm").text ["out", "b.asm"] :=
    ⟨by decide +kernel, by decide +kernel⟩
  have outputs : mixedScan.outputPath "src//./a.asm" = .ok (.ofText "out/b.asm") := by
    decide +kernel
  obtain ⟨bytes, output, outcome, after, held, target, ran, -, written, -, quiet⟩ :=
    run_effect parsed runs mixedScan_passes
  obtain rfl := Node.file.inj (held.eq source)
  obtain rfl := Except.ok.inj (target.symm.trans outputs)
  obtain ⟨files, exit⟩ := written _ _ rfl opens
  refine ⟨⟨parsed, runs⟩, outcome, after, ran, ?_, ?_, ?_, ?_⟩
  · rw [exit]
    decide +kernel
  · rw [files, if_pos rfl]
    decide +kernel
  · rw [files]
    exact if_neg (by decide)
  · let scan : Scan := { mixedScan with given := mixedScan.given.tail }
    exact quiet mixedWords.tail scan (by decide +kernel) (by decide +kernel)

end Command

end Retarget
