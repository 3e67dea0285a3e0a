/-
# Retarget.Proofs.Command.Checking -- which command lines pass the checks

The values of a command line are checked on the file tree before anything is done.  `Finds` says of
such a check that it leaves the tree alone and which values it lets through.  A command line makes a
request if and only if it passes (`finds_ofScan`): one plain word, which names a file; a known size;
and an output path that is no directory.

The request depends on the switches only as far as `Scan.conversion` and `Scan.outputPath` go; the
two switches that ask for more messages change neither (`Scan.quiet`).
-/
import Retarget.Command.Run
import Retarget.Proofs.Files.Tree

namespace Retarget.Command

set_option autoImplicit false

/-! ## Checks on a tree -/

section Finds

variable {α β ι : Type} {tree : FileTree}

/-- The check leaves the tree alone, and gives the values that satisfy the condition and no
others. -/
def Finds (x : ExceptT Refusal (StateM FileTree) α) (tree : FileTree) (P : α → Prop) : Prop :=
  ∃ verdict, x.run.run tree = (verdict, tree) ∧ ∀ a, verdict = .ok a ↔ P a

theorem finds_pure {a : α} {P : α → Prop} (only : ∀ b, a = b ↔ P b) : Finds (pure a) tree P :=
  ⟨.ok a, rfl, fun b => by rw [Except.ok.injEq, only]⟩

theorem finds_throw {refusal : Refusal} {P : α → Prop} (refused : ∀ a, ¬ P a) :
    Finds (throw refusal) tree P :=
  ⟨.error refusal, rfl, fun b => by simp [refused b]⟩

theorem Finds.congr {x : ExceptT Refusal (StateM FileTree) α} {P Q : α → Prop}
    (finds : Finds x tree P) (same : ∀ a, P a ↔ Q a) : Finds x tree Q := by
  obtain ⟨verdict, ran, passes⟩ := finds
  exact ⟨verdict, ran, fun a => (passes a).trans (same a)⟩

theorem Finds.bind {x : ExceptT Refusal (StateM FileTree) α}
    {f : α → ExceptT Refusal (StateM FileTree) β} {P : α → Prop} {Q : α → β → Prop}
    (first : Finds x tree P) (second : ∀ a, P a → Finds (f a) tree (Q a)) :
    Finds (x >>= f) tree fun b => ∃ a, P a ∧ Q a b := by
  obtain ⟨verdict, ran, passes⟩ := first
  cases verdict with
  | error refusal =>
      refine ⟨.error refusal, ?_, ?_⟩
      · rw [ExceptT.run_bind, StateT.run_bind, ran]
        rfl
      · intro b
        have refused : ∀ a, ¬ P a := by
          intro a holds
          exact absurd ((passes a).mpr holds) (by simp)
        simp [refused]
  | ok a =>
      obtain ⟨later, ranLater, passesLater⟩ := second a ((passes a).mp rfl)
      refine ⟨later, ?_, ?_⟩
      · rw [ExceptT.run_bind, StateT.run_bind, ran]
        exact ranLater
      · intro b
        rw [passesLater b]
        have only : ∀ other, P other ↔ a = other := by
          intro other
          rw [← passes other, Except.ok.injEq]
        simp [only]

/-- A list of checks passes if every one does. -/
theorem finds_forM {checks : ι → ExceptT Refusal (StateM FileTree) Unit} {P : ι → Prop}
    (each : ∀ i, Finds (checks i) tree fun _ => P i) (is : List ι) :
    Finds (is.forM checks) tree fun _ => ∀ i ∈ is, P i := by
  induction is with
  | nil => exact finds_pure (by simp)
  | cons i rest ih =>
      show Finds (checks i >>= fun _ => rest.forM checks) tree _
      exact ((each i).bind fun _ _ => ih).congr (by simp)

end Finds

/-! ## What is asked for -/

namespace Scan

def conversion (scan : Scan) : Settings where
  size := ((scan.value? .size).bind Size.ofSuffix?).getD .long
  banner := !scan.has .noHeader

/-- Where the converted file goes: to the path that is given, or beside the input. -/
def outputPath (scan : Scan) (input : Text) : Except PathFault Path :=
  match scan.value? .output with
  | some path => .ok (.ofText path)
  | none => (Path.ofText input).defaultOutput

def request (scan : Scan) (input : Text) : Request where
  input := .ofText input
  output := (scan.value? .output).map .ofText
  size := scan.conversion.size
  banner := scan.conversion.banner
  stats := scan.has .stats
  verbose := scan.has .verbose

theorem target_request (scan : Scan) (input : Text) :
    (scan.request input).target = scan.outputPath input := by
  unfold Request.target request outputPath
  cases scan.value? .output <;> rfl

/-- The command line is in order: the input is a file, the size is known, and the output is no
directory.  No path holds a NUL. -/
structure Passes (scan : Scan) (tree : FileTree) (input : Text) : Prop where
  words : scan.words = [input]
  file : Path.holdsNul input = false ∧ ∃ bytes, tree.At input (.file bytes)
  size : ∀ value, scan.value? .size = some value → ∃ size : Size, size.suffix = value
  output : ∀ path, scan.value? .output = some path →
    Path.holdsNul path = false ∧ ¬ tree.At path .directory

/-- What is checked of a setting. -/
def Sound (scan : Scan) (tree : FileTree) : Setting → Prop
  | .size => ∀ value, scan.value? .size = some value → ∃ size : Size, size.suffix = value
  | .output => ∀ path, scan.value? .output = some path →
      Path.holdsNul path = false ∧ ¬ tree.At path .directory

/-- A setting with a value is among those that are checked. -/
theorem mem_settings {scan : Scan} {setting : Setting} {value : Text}
    (given : scan.value? setting = some value) : setting ∈ scan.settings := by
  obtain ⟨switch, listed, found⟩ := List.exists_of_findSome?_eq_some given
  rw [settings, List.mem_eraseDups, List.mem_filterMap]
  refine ⟨switch, List.mem_reverse.mp listed, ?_⟩
  cases switch with
  | flag => contradiction
  | setting other value =>
      by_cases same : other = setting
      · rw [same]
      · simp [same] at found

theorem forall_sound_iff {scan : Scan} {tree : FileTree} :
    (∀ setting ∈ scan.settings, scan.Sound tree setting) ↔ ∀ setting, scan.Sound tree setting := by
  constructor
  · intro checked setting
    cases setting with
    | size => exact fun value given => checked .size (mem_settings given) value given
    | output => exact fun path given => checked .output (mem_settings given) path given
  · intro sound setting _
    exact sound setting

end Scan

/-! ## The checks -/

section Checks

variable {tree : FileTree} {scan : Scan}

theorem finds_presence (path : Text) :
    Finds (presence FileTree.access path) tree fun found =>
      Path.holdsNul path = false ∧ tree.presence path = found := by
  unfold presence
  cases nul : Path.holdsNul path with
  | true => exact finds_throw (by simp)
  | false =>
      refine ⟨.ok (tree.presence path), ?_, by simp⟩
      show (Except.ok <$> FileTree.access.presence path).run tree = _
      rw [StateT.run_map, FileTree.run_presence]
      rfl

theorem ofSuffix?_isNone {value : Text} :
    (Size.ofSuffix? value).isNone = false ↔ ∃ size : Size, size.suffix = value := by
  rw [Option.isNone_eq_false_iff, Size.ofSuffix?, List.find?_isSome]
  constructor
  · rintro ⟨size, -, same⟩
    exact ⟨size, by simpa using same⟩
  · rintro ⟨size, same⟩
    exact ⟨size, by cases size <;> decide, by simpa using same⟩

theorem finds_checkSetting (setting : Setting) :
    Finds (checkSetting FileTree.access scan setting) tree fun _ => scan.Sound tree setting := by
  unfold checkSetting
  cases value : scan.value? setting with
  | none => cases setting <;> exact finds_pure (by simp [Scan.Sound, value])
  | some given =>
      cases setting with
      | size =>
          have sound : scan.Sound tree .size ↔ (Size.ofSuffix? given).isNone = false := by
            rw [ofSuffix?_isNone]
            simp [Scan.Sound, value]
          cases unknown : (Size.ofSuffix? given).isNone with
          | true =>
              simp only [unknown, if_true]
              exact finds_throw (by simp [sound, unknown])
          | false =>
              simp only [unknown, Bool.false_eq_true, if_false]
              exact finds_pure (by simp [sound, unknown])
      | output =>
          have sound : scan.Sound tree .output ↔
              Path.holdsNul given = false ∧ tree.presence given ≠ .directory := by
            rw [ne_eq, FileTree.presence_eq_directory_iff]
            simp [Scan.Sound, value]
          refine ((finds_presence given).bind (Q := fun found _ => found ≠ .directory) ?_).congr ?_
          · intro found _
            by_cases directory : found = .directory
            · simp only [directory, if_true]
              exact finds_throw (by simp)
            · simp only [directory, if_false]
              exact finds_pure (by simp [directory])
          · intro _
            rw [sound]
            constructor
            · rintro ⟨found, ⟨clean, rfl⟩, other⟩
              exact ⟨clean, other⟩
            · rintro ⟨clean, other⟩
              exact ⟨_, ⟨clean, rfl⟩, other⟩

theorem finds_checkInput (path : Text) :
    Finds (checkInput FileTree.access path) tree fun _ =>
      Path.holdsNul path = false ∧ ∃ bytes, tree.At path (.file bytes) := by
  refine ((finds_presence path).bind (Q := fun found _ => found = .file) ?_).congr ?_
  · intro found _
    cases found with
    | missing => exact finds_throw (by simp)
    | directory => exact finds_throw (by simp)
    | file => exact finds_pure (by simp)
  · intro _
    rw [← FileTree.presence_eq_file_iff]
    constructor
    · rintro ⟨found, ⟨clean, looked⟩, rfl⟩
      exact ⟨clean, looked⟩
    · rintro ⟨clean, looked⟩
      exact ⟨.file, ⟨clean, looked⟩, rfl⟩

theorem finds_request (scan : Scan) (tree : FileTree) (input : Text) (surplus : List Text) :
    Finds (do
      checkInput FileTree.access input
      unless surplus.isEmpty do throw (.usage (.surplusWords surplus))
      return scan.request input) tree fun request =>
        (Path.holdsNul input = false ∧ ∃ bytes, tree.At input (.file bytes)) ∧
          surplus = [] ∧ request = scan.request input := by
  refine ((finds_checkInput input).bind
    (Q := fun _ request => surplus = [] ∧ request = scan.request input) ?_).congr (by simp)
  intro _ _
  cases surplus with
  | nil => exact finds_pure (by simp [eq_comm])
  | cons word more => exact finds_throw (by simp)

/-- **A command line makes a request if and only if it passes**, and it makes the one that its
switches say. -/
theorem finds_ofScan (scan : Scan) (tree : FileTree) :
    Finds (Request.ofScan FileTree.access scan) tree fun request =>
      ∃ input, scan.Passes tree input ∧ request = scan.request input := by
  unfold Request.ofScan
  refine ((finds_forM finds_checkSetting scan.settings).bind (Q := fun _ request =>
    ∃ input, scan.words = [input] ∧
      (Path.holdsNul input = false ∧ ∃ bytes, tree.At input (.file bytes)) ∧
      request = scan.request input) ?_).congr ?_
  · intro _ _
    cases words : scan.words with
    | nil => exact finds_throw (by simp)
    | cons input surplus =>
        refine (finds_request scan tree input surplus).congr ?_
        intro request
        constructor
        · rintro ⟨file, rfl, same⟩
          exact ⟨input, rfl, file, same⟩
        · rintro ⟨other, same, file, made⟩
          cases same
          exact ⟨file, rfl, made⟩
  · intro request
    rw [Scan.forall_sound_iff]
    constructor
    · rintro ⟨-, sound, input, words, file, made⟩
      exact ⟨input, ⟨words, file, sound .size, sound .output⟩, made⟩
    · rintro ⟨input, passes, made⟩
      refine ⟨(), ?_, input, passes.words, passes.file, made⟩
      intro setting
      cases setting with
      | size => exact passes.size
      | output => exact passes.output

end Checks

/-! ## Switches for messages -/

/-- Does the switch ask for messages only? -/
def Given.talks : Given → Bool
  | .flag .stats | .flag .verbose => true
  | _ => false

namespace Scan

/-- The command line without the switches that ask for messages. -/
def quiet (scan : Scan) : Scan := { scan with given := scan.given.filter (!·.talks) }

theorem findSome?_filter_talks {β : Type} {f : Given → Option β}
    (skips : ∀ given, given.talks = true → f given = none) (givens : List Given) :
    (givens.filter (!·.talks)).findSome? f = givens.findSome? f := by
  induction givens with
  | nil => rfl
  | cons given rest ih =>
      cases talks : given.talks with
      | true =>
          rw [List.filter_cons_of_neg (by simp [talks]), List.findSome?_cons, skips given talks, ih]
      | false =>
          rw [List.filter_cons_of_pos (by simp [talks]), List.findSome?_cons, ih,
            List.findSome?_cons]

theorem value?_quiet (scan : Scan) (setting : Setting) :
    scan.quiet.value? setting = scan.value? setting := by
  unfold value? quiet
  rw [← List.filter_reverse]
  apply findSome?_filter_talks
  intro given talks
  cases given with
  | flag => rfl
  | setting => cases talks

theorem inquiry?_quiet (scan : Scan) : scan.quiet.inquiry? = scan.inquiry? := by
  unfold inquiry? quiet
  apply findSome?_filter_talks
  intro given talks
  cases given with
  | flag flag => cases flag <;> first | rfl | cases talks
  | setting => cases talks

theorem has_noHeader_quiet (scan : Scan) : scan.quiet.has .noHeader = scan.has .noHeader := by
  rw [Bool.eq_iff_iff]
  simp only [has, quiet, List.contains_iff_mem, List.mem_filter, and_iff_left_iff_imp]
  exact fun _ => rfl

theorem conversion_quiet (scan : Scan) : scan.quiet.conversion = scan.conversion := by
  simp only [conversion, value?_quiet, has_noHeader_quiet]

theorem outputPath_quiet (scan : Scan) (input : Text) :
    scan.quiet.outputPath input = scan.outputPath input := by
  simp only [outputPath, value?_quiet]

theorem passes_quiet_iff {scan : Scan} {tree : FileTree} {input : Text} :
    scan.quiet.Passes tree input ↔ scan.Passes tree input := by
  constructor
  · rintro ⟨words, file, size, output⟩
    simp only [value?_quiet] at size output
    exact ⟨words, file, size, output⟩
  · rintro ⟨words, file, size, output⟩
    refine ⟨words, file, ?_, ?_⟩ <;> simpa only [value?_quiet]

end Scan

end Retarget.Command
