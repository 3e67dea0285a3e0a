/-
# Retarget.Proofs.FileSteps -- steps on files are taken whole or not at all

A file can be converted if a text stands in it (`HoldsText`): the path leads to a file, and its
bytes are the UTF-8 of the text.  Then converting the file is converting the text, with its line
endings read as newlines, and no file is touched (`performOn_file_of_text`).  Otherwise the step
fails, and neither the session nor the tree is changed (`performOn_file_of_noText`).

A file can be written if its path opens (`Writable`).  Then it holds the bytes of the text and no
other place has changed (`performOn_write_of_writable`); otherwise nothing has.  A text consists of
characters, and no character is a lone surrogate.  So every text has its bytes, and writing cannot
fail for want of them.
-/
import Retarget.Proofs.Command.Effect
import Retarget.Proofs.Text.Newlines

namespace Retarget

set_option autoImplicit false

open Text.Utf8 (encode)
open Text (Ending)

/-- A file stands at the path, and its bytes are those of the text. -/
def FileTree.HoldsText (tree : FileTree) (path : Path) (content : Text) : Prop :=
  Path.holdsNul path.text = false ∧ tree.At path.text (.file (encode content))

/-- A file can be written at the path, and then it is at the place. -/
def FileTree.Writable (tree : FileTree) (path : Path) (place : Location) : Prop :=
  Path.holdsNul path.text = false ∧ tree.Opens path.text place

namespace Session

def silent (s : Session) : Session := { s with journal := [] }

section File

variable (s : Session) {tree : FileTree} {path : Path}

/-- What a step answers that converts a file with the given result. -/
def afterFile : Except Failure (Text × Session) → Answer × Session
  | .ok (output, ended) => (.text output, ended)
  | .error failure => (.failed failure, s)

theorem performOn_file_of_convertFile {result : Except Failure (Text × Session)}
    (converted : (s.convertFile FileTree.access path).run tree = (result, tree)) :
    s.performOn tree (.file path) = (s.afterFile result, tree) := by
  unfold performOn perform
  rw [StateT.run_bind, converted]
  rcases result with failure | ⟨output, ended⟩ <;> rfl

/-- A file that holds a text is converted as that text. -/
theorem performOn_file_of_text {content source : Text} (holds : tree.HoldsText path content)
    (reads : content.ReadsAs source) :
    s.performOn tree (.file path) =
      ((.text (s.convertText path.text source).1, (s.convertText path.text source).2), tree) := by
  have converted := s.run_convertFile_of_text holds.1 holds.2
  rw [← Text.readsAs_iff.mp reads] at converted
  exact s.performOn_file_of_convertFile converted

/-- A file that holds no text is left, and so is everything else. -/
theorem performOn_file_of_noText (noText : ∀ content, ¬ tree.HoldsText path content) :
    ∃ failure, s.performOn tree (.file path) = ((.failed failure, s), tree) := by
  suffices unread : ∃ failure,
      (s.convertFile FileTree.access path).run tree = (.error failure, tree) by
    obtain ⟨failure, unread⟩ := unread
    exact ⟨failure, s.performOn_file_of_convertFile unread⟩
  by_cases nul : Path.holdsNul path.text = true
  · exact ⟨.path .nul, by rw [run_convertFile, if_pos nul]⟩
  · have clean : Path.holdsNul path.text = false := by simpa using nul
    cases content : tree.read path.text with
    | error errno => exact ⟨_, by rw [run_convertFile, if_neg nul, content]⟩
    | ok bytes =>
        have held := FileTree.read_eq_ok_iff.mp content
        have undecoded : ∀ text, bytes ≠ encode text := by
          rintro text rfl
          exact noText text ⟨clean, held⟩
        obtain ⟨fault, unread⟩ := s.run_convertFile_of_noText clean held undecoded
        exact ⟨.encoding fault, unread⟩

/-- The name of a text matters to the journal alone. -/
theorem silent_convertText (name other source : Text) :
    (s.convertText name source).2.silent = (s.convertText other source).2.silent := rfl

end File

section Write

variable (s : Session) {tree : FileTree} {path : Path} {place : Location}

/-- What a step answers that writes a file with the given result. -/
def afterWrite : Except Failure Session → Answer × Session
  | .ok ended => (.written, ended)
  | .error failure => (.failed failure, s)

theorem performOn_write_of_writeFile {result : Except Failure Session} {after : FileTree}
    {text : Text}
    (wrote : (s.writeFile FileTree.access path text).run tree = (result, after)) :
    s.performOn tree (.write path text) = (s.afterWrite result, after) := by
  unfold performOn perform
  rw [StateT.run_bind, wrote]
  rcases result with failure | ended <;> rfl

/-- A file that can be written is written. -/
theorem performOn_write_of_writable (writable : tree.Writable path place) (text : Text) :
    s.performOn tree (.write path text) =
      ((.written, s.note (.wrote path.text)), tree.put place (encode text)) :=
  s.performOn_write_of_writeFile (s.run_writeFile_of_opens writable.1 writable.2 text)

/-- A file that cannot be written is left, and so is everything else. -/
theorem performOn_write_of_closed (closed : ∀ place, ¬ tree.Writable path place) (text : Text) :
    ∃ failure, s.performOn tree (.write path text) = ((.failed failure, s), tree) := by
  suffices unwritten : ∃ failure,
      (s.writeFile FileTree.access path text).run tree = (.error failure, tree) by
    obtain ⟨failure, unwritten⟩ := unwritten
    exact ⟨failure, s.performOn_write_of_writeFile unwritten⟩
  by_cases nul : Path.holdsNul path.text = true
  · exact ⟨.path .nul, by rw [run_writeFile, if_pos nul]⟩
  · have clean : Path.holdsNul path.text = false := by simpa using nul
    obtain ⟨fault, unwritten⟩ := s.run_writeFile_of_closed clean
      (fun place opens => closed place ⟨clean, opens⟩) text
    exact ⟨.file fault, unwritten⟩

end Write

end Session

/-! ## What a step does, whatever there is -/

/-- The same answer, and the same session but for its journal. -/
def Alike (done other : Answer × Session) : Prop :=
  done.1 = other.1 ∧ done.2.silent = other.2.silent

structure Session.ConvertsWhole (s : Session) (tree : FileTree) (path : Path)
    (done : (Answer × Session) × FileTree) : Prop where
  /-- Only a file that holds a text is converted. -/
  fails_iff : (∃ failure, done.1.1 = .failed failure) ↔ ∀ content, ¬ tree.HoldsText path content
  /-- A failure changes nothing. -/
  unchanged : ∀ failure, done.1.1 = .failed failure → done.1.2 = s ∧ done.2 = tree
  /-- The text is converted with its line endings read as newlines, under the name of the path, and
  no file is changed.  But for the name in the journal it is as if the text had been given. -/
  converted : ∀ content source, tree.HoldsText path content → content.ReadsAs source →
    done.1 = (.text (s.convertText path.text source).1, (s.convertText path.text source).2) ∧
      done.2 = tree ∧ Alike done.1 (s.performOn tree (.text source)).1
  /-- The ending that the lines were stored with does not matter. -/
  stored : ∀ (ending : Ending) (source : Text), '\r' ∉ source →
    tree.HoldsText path (source.stored ending) →
    Alike done.1 (s.performOn tree (.text source)).1

structure Session.WritesWhole (s : Session) (tree : FileTree) (path : Path) (text : Text)
    (done : (Answer × Session) × FileTree) : Prop where
  /-- Only a path that opens is written. -/
  written_iff : done.1.1 = .written ↔ ∃ place, tree.Writable path place
  /-- Anything else is a failure, and changes nothing. -/
  unchanged : done.1.1 ≠ .written →
    (∃ failure, done.1.1 = .failed failure) ∧ done.1.2 = s ∧ done.2 = tree
  /-- Nothing of the session is changed but its journal. -/
  session : ∀ place, tree.Writable path place → done.1.2.silent = s.silent
  /-- The place holds the bytes of the text, and every other place what it held. -/
  places : ∀ place, tree.Writable path place → ∀ l, done.2.find? l =
    if l = place then some (.file (encode text)) else tree.find? l
  /-- Paths that lead there read the bytes of the text, and every other path what it read. -/
  paths : ∀ place, tree.Writable path place → ∀ other bytes, done.2.read other = .ok bytes ↔
    (tree.resolve other = .ok place ∧ bytes = encode text) ∨
      (tree.resolve other ≠ .ok place ∧ tree.read other = .ok bytes)

section Whole

variable (s : Session) (tree : FileTree) (path : Path)

theorem Session.convertsWhole : s.ConvertsWhole tree path (s.performOn tree (.file path)) := by
  by_cases holding : ∃ content, tree.HoldsText path content
  · have step : ∀ content source, tree.HoldsText path content → content.ReadsAs source →
        s.performOn tree (.file path) =
          ((.text (s.convertText path.text source).1, (s.convertText path.text source).2), tree) :=
      fun content source => s.performOn_file_of_text
    have alike : ∀ content source, tree.HoldsText path content → content.ReadsAs source →
        Alike (s.performOn tree (.file path)).1 (s.performOn tree (.text source)).1 := by
      intro content source holds reads
      rw [step content source holds reads]
      exact ⟨rfl, s.silent_convertText path.text unnamed source⟩
    have answered : ∀ failure, (s.performOn tree (.file path)).1.1 ≠ .failed failure := by
      intro failure failed
      obtain ⟨content, holds⟩ := holding
      rw [step content _ holds content.readsAs_normalizeNewlines] at failed
      contradiction
    exact {
      fails_iff :=
        ⟨fun ⟨failure, failed⟩ => absurd failed (answered failure),
          fun noText => absurd holding (not_exists.mpr noText)⟩
      unchanged := fun failure failed => absurd failed (answered failure)
      converted := by
        intro content source holds reads
        have same := alike content source holds reads
        rw [step content source holds reads] at same ⊢
        exact ⟨rfl, rfl, same⟩
      stored := fun ending source clean holds =>
        alike _ source holds (Text.readsAs_stored ending clean) }
  · have noText := not_exists.mp holding
    obtain ⟨failure, failed⟩ := s.performOn_file_of_noText noText
    rw [failed]
    exact {
      fails_iff := ⟨fun _ => noText, fun _ => ⟨failure, rfl⟩⟩
      unchanged := fun _ _ => ⟨rfl, rfl⟩
      converted := fun content _ holds => absurd holds (noText content)
      stored := fun _ _ _ holds => absurd holds (noText _) }

theorem Session.writesWhole (text : Text) :
    s.WritesWhole tree path text (s.performOn tree (.write path text)) := by
  by_cases opening : ∃ place, tree.Writable path place
  · obtain ⟨place, writable⟩ := opening
    have only : ∀ other, tree.Writable path other → other = place :=
      fun other also => also.2.eq writable.2
    have free := writable.2.2
    rw [s.performOn_write_of_writable writable text]
    exact {
      written_iff := ⟨fun _ => ⟨place, writable⟩, fun _ => rfl⟩
      unchanged := fun other => absurd rfl other
      session := fun _ _ => rfl
      places := by
        intro other also l
        rw [only other also]
        exact FileTree.find?_put free _ l
      paths := by
        intro other also reader bytes
        rw [only other also]
        exact FileTree.read_put_eq_ok_iff free _ }
  · have closed := not_exists.mp opening
    obtain ⟨failure, failed⟩ := s.performOn_write_of_closed closed text
    rw [failed]
    exact {
      written_iff :=
        ⟨fun written => by contradiction, fun ⟨place, writable⟩ => absurd writable (closed place)⟩
      unchanged := fun _ => ⟨⟨failure, rfl⟩, rfl, rfl⟩
      session := fun place writable => absurd writable (closed place)
      places := fun place writable => absurd writable (closed place)
      paths := fun place writable => absurd writable (closed place) }

end Whole

/-- **Steps on files are taken whole or not at all**, in every state of a session and of the files.
Converting a file that holds no text fails and changes neither the session nor the files; converting
one that holds a text is converting that text, with its line endings read as newlines.  Writing to a
path that does not open fails and changes neither; writing to one that does makes the bytes of the
text the contents of that file, and changes no other. -/
theorem file_steps_whole (s : Session) (tree : FileTree) (path : Path) :
    s.ConvertsWhole tree path (s.performOn tree (.file path)) ∧
      ∀ text, s.WritesWhole tree path text (s.performOn tree (.write path text)) :=
  ⟨s.convertsWhole tree path, s.writesWhole tree path⟩

/-- A source that was stored with both characters at the end of a line, and one that breaks off in a
character behind a line that cannot be converted. -/
def storedTree : FileTree :=
  .ofLists ["out"] [("a.asm", encode (Text.stored .both "FOO\n\nNOP")),
    ("b.asm", encode "FOO\n" ++ [0xE2, 0x82])]

open Progress (start) in
theorem storedTree_steps :
    let s := ((start {} storedTree).run [.line "BAR", .text ".weird"]).session
    let text := s.performOn storedTree (.text "FOO\n\nNOP")
    let file (name : Text) := s.performOn storedTree (.file (Path.ofText name))
    let write (name : Text) := s.performOn storedTree (.write (Path.ofText name) "é")
    Alike (file "a.asm").1 text.1 ∧
      ((file "b.asm").1.2 = s ∧ (file "b.asm").2 = storedTree) ∧
      ((write "out").1.2 = s ∧ (write "out").2 = storedTree) ∧
      (write "out/b.asm").2.find? ["out", "b.asm"] = some (.file [0xC3, 0xA9]) ∧
      (write "out/b.asm").2.find? ["b.asm"] = storedTree.find? ["b.asm"] := by
  intro s text file write
  have steps := fun name => file_steps_whole s storedTree (Path.ofText name)
  have holds : storedTree.HoldsText (Path.ofText "a.asm") (Text.stored .both "FOO\n\nNOP") :=
    ⟨by decide +kernel, ["a.asm"], by decide +kernel, by decide +kernel⟩
  have writable : storedTree.Writable (Path.ofText "out/b.asm") ["out", "b.asm"] :=
    ⟨by decide +kernel, by decide +kernel, by decide +kernel⟩
  refine ⟨?_, ?_, ?_, ?_, ?_⟩
  · exact (steps "a.asm").1.stored .both "FOO\n\nNOP" (by decide) holds
  · refine (steps "b.asm").1.unchanged (.encoding ⟨0xE2, 4, 2, .ending⟩) ?_
    decide +kernel
  · refine (((steps "out").2 "é").unchanged ?_).2
    decide +kernel
  · exact ((steps "out/b.asm").2 "é").places _ writable ["out", "b.asm"]
  · exact ((steps "out/b.asm").2 "é").places _ writable ["b.asm"]

end Retarget
