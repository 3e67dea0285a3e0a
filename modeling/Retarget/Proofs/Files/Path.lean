/-
# Retarget.Proofs.Files.Path -- a path leads where its text leads

Reading a path from a text drops names that lead nowhere, and what is left is normal: every name
leads somewhere and holds no slash (`normal_ofText`).  Such a path leads where its names lead
(`resolve_text_eq_ok_iff`).

A text that leads to a file is read as a path with a name, and written out again that path leads to
the same file (`at_ofText`): it passes the same directories, and it is not longer.  The converse
does not hold, since a dot or a slash behind the name of a file is refused and dropped all the same.

A path without a NUL has none when it is written out, nor when its file is named anew
(`holdsNul_ofText`, `exists_defaultOutput`).
-/
import Mathlib.Data.List.Flatten
import Retarget.Files.Path
import Retarget.Proofs.Files.Tree
import Retarget.Proofs.Text.Lines

namespace Retarget

set_option autoImplicit false

/-! ## The root of a path -/

namespace PathRoot

/-- How many slashes the root is written as. -/
def slashes : PathRoot → Nat
  | .relative => 0
  | .slash => 1
  | .doubleSlash => 2

theorem text_eq (root : PathRoot) : root.text = List.replicate root.slashes '/' := by
  cases root <;> rfl

theorem rootOf_slashes (root : PathRoot) : Path.rootOf root.slashes = root := by
  cases root <;> rfl

/-- The root keeps no more slashes than there were, and one if there was any. -/
theorem slashes_rootOf (n : Nat) :
    (Path.rootOf n).slashes ≤ n ∧ ((Path.rootOf n).slashes = 0 ↔ n = 0) := by
  unfold Path.rootOf
  split
  · simp_all [slashes]
  split
  · simp_all [slashes]
  · simp only [slashes]
    omega

end PathRoot

/-! ## The names of a path -/

namespace Path

/-- A name that leads somewhere: neither empty nor a single dot. -/
def leads (name : Text) : Bool := !(name == [] || name == ['.'])

theorem names_ofText (t : Text) : (ofText t).names = (Text.piecesAt '/' t).filter leads := rfl

theorem names_ofText_slashes (n : Nat) (t : Text) :
    (ofText (List.replicate n '/' ++ t)).names = (ofText t).names := by
  induction n with
  | zero => rfl
  | succ n ih =>
      rw [← ih, names_ofText, List.replicate_succ, List.cons_append, Text.piecesAt_cons_mark,
        List.filter_cons_of_neg (by decide), names_ofText]

/-- Every name leads somewhere and holds no slash. -/
structure Normal (p : Path) : Prop where
  leads : ∀ name ∈ p.names, Path.leads name = true
  solid : ∀ name ∈ p.names, '/' ∉ name

theorem normal_ofText (t : Text) : (ofText t).Normal where
  leads := fun _ member => (List.mem_filter.mp member).2
  solid := fun _ member => Text.notMem_of_mem_piecesAt (List.mem_filter.mp member).1

theorem text_of_named {p : Path} (named : p.names ≠ []) :
    p.text = List.replicate p.root.slashes '/' ++ Text.join ['/'] p.names := by
  rw [text, if_neg (fun relative => named relative.2), p.root.text_eq]
  rfl

section Normal

variable {p : Path} (normal : p.Normal) (named : p.names ≠ [])

include normal named

theorem Normal.piecesAt_join : Text.piecesAt '/' (Text.join ['/'] p.names) = p.names :=
  Text.piecesAt_join named normal.solid

theorem Normal.head?_join : (Text.join ['/'] p.names).head? ≠ some '/' := by
  intro slash
  obtain ⟨more, shape⟩ := List.head?_eq_some_iff.mp slash
  have empty : [] ∈ p.names := by
    rw [← normal.piecesAt_join named, shape, Text.piecesAt_cons_mark]
    exact List.mem_cons_self
  exact absurd (normal.leads [] empty) (by decide)

end Normal

/-- The slashes in front of a text. -/
theorem exists_slashes (t : Text) : ∃ n rest, t = List.replicate n '/' ++ rest ∧
    rest.head? ≠ some '/' ∧ (ofText t).root = rootOf n := by
  let n := (t.takeWhile (· == '/')).length
  have front : t.takeWhile (· == '/') = List.replicate n '/' := by
    rw [List.eq_replicate_iff]
    refine ⟨rfl, fun c member => ?_⟩
    simpa using List.all_eq_true.mp List.all_takeWhile c member
  refine ⟨n, t.dropWhile (· == '/'), ?_, ?_, rfl⟩
  · rw [← front, List.takeWhile_append_dropWhile]
  · intro slash
    have stopped := List.head?_dropWhile_not (· == '/') t
    simp [slash] at stopped

/-- A path that is written out is not longer than the text it was read from, if it has a name. -/
theorem text_ofText_sublist {t : Text} (named : (ofText t).names ≠ []) :
    (ofText t).text.Sublist t := by
  obtain ⟨n, rest, split, -, root⟩ := exists_slashes t
  have names : (ofText t).names = (Text.piecesAt '/' rest).filter leads := by
    rw [split, names_ofText_slashes, names_ofText]
  have part := Text.join_filter_sublist ['/'] leads (Text.piecesAt '/' rest)
  rw [Text.join_piecesAt, ← names] at part
  have fewer : (ofText t).root.slashes ≤ n := root ▸ (PathRoot.slashes_rootOf n).1
  have whole := ((List.replicate_sublist_replicate '/').mpr fewer).append part
  rw [← split] at whole
  rwa [text_of_named named]

theorem start_slashes {n : Nat} {rest : Text} (other : rest.head? ≠ some '/') :
    Location.start (List.replicate n '/' ++ rest) =
      if n = 0 then [] else Location.rootDirectory := by
  cases n with
  | zero => simp [Location.start, other]
  | succ n => simp [Location.start, List.replicate_succ]

theorem Normal.start_text {p : Path} (normal : p.Normal) (named : p.names ≠ []) :
    Location.start p.text = if p.root.slashes = 0 then [] else Location.rootDirectory := by
  rw [text_of_named named]
  exact start_slashes (normal.head?_join named)

/-- A path that is written out starts where its text starts. -/
theorem start_ofText {t : Text} (named : (ofText t).names ≠ []) :
    Location.start (ofText t).text = Location.start t := by
  obtain ⟨n, rest, split, other, root⟩ := exists_slashes t
  have home : Location.start t = if n = 0 then [] else Location.rootDirectory := by
    rw [split]
    exact start_slashes other
  rw [(normal_ofText t).start_text named, home, root]
  simp only [(PathRoot.slashes_rootOf n).2]

end Path

/-! ## Where a path leads -/

namespace FileTree

variable {tree : FileTree}

theorem find?_start (tree : FileTree) (path : Text) :
    tree.find? (Location.start path) = some .directory := by
  unfold Location.start
  split <;> rfl

/-- Names that lead nowhere may be left out. -/
theorem walk_filter_leads {l place : Location} {names : List Text}
    (walked : tree.walk l names = .ok place) :
    tree.walk l (names.filter Path.leads) = .ok place := by
  induction names generalizing l with
  | nil => exact walked
  | cons name rest ih =>
      obtain ⟨held, short, further⟩ := walk_cons_eq_ok_iff.mp walked
      have later := ih further
      cases leads : Path.leads name with
      | true =>
          rw [List.filter_cons_of_pos leads]
          exact walk_cons_eq_ok_iff.mpr ⟨held, short, later⟩
      | false =>
          -- The name is dropped, and following it would not have left the directory.
          have nowhere : l.follow name = l := by
            simp only [Path.leads, Bool.not_eq_false', Bool.or_eq_true, beq_iff_eq] at leads
            rw [Location.follow, if_pos leads]
          rw [nowhere] at later
          rw [List.filter_cons_of_neg (by simp [leads])]
          exact later

/-- Slashes at a directory lead nowhere. -/
theorem walk_slashes {l : Location} (directory : tree.find? l = some .directory) (k : Nat)
    (names : List Text) : tree.walk l (List.replicate k [] ++ names) = tree.walk l names := by
  induction k with
  | zero => rfl
  | succ k ih =>
      rw [List.replicate_succ, List.cons_append, walk, directory]
      exact ih

theorem piecesAt_slashes (k : Nat) (t : Text) :
    Text.piecesAt '/' (List.replicate k '/' ++ t) = List.replicate k [] ++ Text.piecesAt '/' t := by
  induction k with
  | zero => rfl
  | succ k ih => rw [List.replicate_succ, List.cons_append, Text.piecesAt_cons_mark, ih]; rfl

/-- A normal path leads where its names lead. -/
theorem resolve_text_eq_ok_iff {p : Path} (normal : p.Normal) (named : p.names ≠ [])
    {place : Location} :
    tree.resolve p.text = .ok place ↔
      (Text.Utf8.encode p.text).length ≤ maxPathSize ∧
        tree.walk (.start p.text) p.names = .ok place := by
  have some_text : p.text ≠ [] := by
    intro empty
    have nothing : Text.join ['/'] p.names = [] := by
      rw [Path.text_of_named named] at empty
      exact (List.append_eq_nil_iff.mp empty).2
    have pieces := normal.piecesAt_join named
    rw [nothing, Text.piecesAt_nil] at pieces
    exact absurd (normal.leads [] (pieces ▸ List.mem_cons_self)) (by decide)
  have walks : tree.walk (.start p.text) (Text.piecesAt '/' p.text) =
      tree.walk (.start p.text) p.names := by
    have directory := find?_start tree p.text
    rw [Path.text_of_named named] at directory ⊢
    rw [piecesAt_slashes, walk_slashes directory, normal.piecesAt_join named]
  rw [resolve_eq_ok_iff, walks]
  exact and_iff_right some_text

/-- **A path that is written out leads where its text leads**, if it has a name. -/
theorem resolve_ofText {t : Text} {place : Location} (named : (Path.ofText t).names ≠ [])
    (resolved : tree.resolve t = .ok place) :
    tree.resolve (Path.ofText t).text = .ok place := by
  obtain ⟨-, short, walked⟩ := resolve_eq_ok_iff.mp resolved
  have shorter := ((Path.text_ofText_sublist named).flatMap String.utf8EncodeChar).length_le
  refine (resolve_text_eq_ok_iff (Path.normal_ofText t) named).mpr ⟨?_, ?_⟩
  · exact Nat.le_trans shorter short
  · rw [Path.start_ofText named]
    exact walk_filter_leads walked

/-- A text that leads to a file names it at its end. -/
theorem names_ne_nil {t : Text} {bytes : Bytes} (held : tree.At t (.file bytes)) :
    (Path.ofText t).names ≠ [] := by
  intro unnamed
  obtain ⟨place, resolved, file⟩ := held
  obtain ⟨-, -, walked⟩ := resolve_eq_ok_iff.mp resolved
  have stayed := walk_filter_leads walked
  rw [← Path.names_ofText, unnamed, walk] at stayed
  cases stayed
  rw [find?_start] at file
  cases file

/-- A path that is written out leads to the same file. -/
theorem at_ofText {t : Text} {bytes : Bytes} (held : tree.At t (.file bytes)) :
    tree.At (Path.ofText t).text (.file bytes) := by
  obtain ⟨place, resolved, file⟩ := held
  exact ⟨place, resolve_ofText (names_ne_nil ⟨place, resolved, file⟩) resolved, file⟩

end FileTree

/-! ## Paths without a NUL -/

namespace Path

theorem holdsNul_eq_false_iff {t : Text} : holdsNul t = false ↔ '\x00' ∉ t := by
  simp [holdsNul]

theorem holdsNul_text {p : Path} (clean : ∀ name ∈ p.names, '\x00' ∉ name) :
    holdsNul p.text = false := by
  rw [holdsNul_eq_false_iff]
  unfold text
  split
  · decide
  · have root : '\x00' ∉ p.root.text := by cases p.root <;> decide
    have names : '\x00' ∉ Text.join ['/'] p.names := by
      rw [Text.mem_join_iff (by decide)]
      rintro ⟨name, member, nul⟩
      exact clean name member nul
    rw [List.mem_append, not_or]
    exact ⟨root, names⟩

theorem nul_notMem_name {t name : Text} (clean : holdsNul t = false)
    (member : name ∈ (ofText t).names) : '\x00' ∉ name := by
  intro nul
  apply holdsNul_eq_false_iff.mp clean
  rw [← Text.join_piecesAt '/' t, Text.mem_join_iff (by decide)]
  exact ⟨name, (List.mem_filter.mp member).1, nul⟩

theorem holdsNul_ofText {t : Text} (clean : holdsNul t = false) :
    holdsNul (ofText t).text = false :=
  holdsNul_text fun _ => nul_notMem_name clean

/-- What stands neither in a name nor in the ending stands not in the name of the output. -/
theorem notMem_outputName {c : Char} (other : c ∉ "_ie64.asm".toList) {name : Text}
    (clean : c ∉ name) : c ∉ outputName name := by
  unfold outputName
  rw [List.mem_append, not_or]
  refine ⟨?_, other⟩
  split
  · exact fun inside => clean (List.mem_of_mem_take inside)
  · exact clean

/-- The converted file has a path if the source has a name, and no NUL is in it if none is in the
path of the source. -/
theorem exists_defaultOutput {t : Text} (named : (ofText t).names ≠ [])
    (clean : holdsNul t = false) :
    ∃ output, (ofText t).defaultOutput = .ok output ∧ holdsNul output.text = false := by
  let name := (ofText t).names.getLast named
  have last : (ofText t).name? = some name := List.getLast?_eq_some_getLast named
  refine ⟨(ofText t).withName (outputName name), by simp [defaultOutput, last], ?_⟩
  apply holdsNul_text
  intro other member
  rcases List.mem_append.mp member with inside | ending
  · exact nul_notMem_name clean ((List.dropLast_sublist _).subset inside)
  · rw [List.mem_singleton.mp ending]
    exact notMem_outputName (by decide) (nul_notMem_name clean (List.getLast_mem named))

end Path

end Retarget
