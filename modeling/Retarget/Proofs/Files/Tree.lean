/-
# Retarget.Proofs.Files.Tree -- what a tree holds, and what reading and writing do

A path is resolved to a place, and what matters then is what the place holds: `At` says what
stands at a path, `Opens` that a file can be written there.  All that is passed on the way is a
directory, and double dots lead from one to another (`Rooted.walk`, `Rooted.find?_parent`).

Reading succeeds if and only if a file stands at the path (`read_eq_ok_iff`); writing succeeds if
and only if the path opens, and then it changes that place and no other (`write_of_opens`,
`find?_put`, `write_of_closed`).  No path leads elsewhere afterwards, so by any other path there is
read what was read before (`read_put_eq_ok_iff`).
-/
import Retarget.Files.Tree
import Retarget.Proofs.Fallible

namespace Retarget.FileTree

set_option autoImplicit false

/-- The path leads to a place that holds the node. -/
def At (tree : FileTree) (path : Text) (node : Node) : Prop :=
  ∃ l, tree.resolve path = .ok l ∧ tree.find? l = some node

/-- The path can be opened for writing, and leads to the place. -/
def Opens (tree : FileTree) (path : Text) (place : Location) : Prop :=
  tree.resolve path = .ok place ∧ tree.find? place ≠ some .directory

def put (tree : FileTree) (place : Location) (content : Bytes) : FileTree :=
  ⟨tree.nodes.insert place (.file content)⟩

section

variable {tree : FileTree} {path : Text} {place : Location}

theorem At.eq {node other : Node} (held : tree.At path node) (also : tree.At path other) :
    node = other := by
  obtain ⟨l, resolved, found⟩ := held
  obtain ⟨l', resolved', found'⟩ := also
  rw [resolved] at resolved'
  cases resolved'
  rw [found] at found'
  exact Option.some.inj found'

theorem Opens.eq {other : Location} (opens : tree.Opens path place)
    (also : tree.Opens path other) : place = other := by
  have same := opens.1.symm.trans also.1
  exact Except.ok.inj same

/-! ## Following a path -/

/-- A step is taken from a directory, by a name that is not too long. -/
theorem walk_cons_eq_ok_iff {l : Location} {name : Text} {rest : List Text} :
    tree.walk l (name :: rest) = .ok place ↔
      tree.find? l = some .directory ∧ (Text.Utf8.encode name).length ≤ maxNameSize ∧
        tree.walk (l.follow name) rest = .ok place := by
  rw [walk]
  cases tree.find? l with
  | none => simp
  | some node =>
      cases node with
      | file content => simp
      | directory =>
          by_cases long : maxNameSize < (Text.Utf8.encode name).length
          · simp only [long, if_true, reduceCtorEq, false_iff, true_and, not_and]
            omega
          · simp [long, Nat.not_lt.mp long]

/-- The last step of a walk is taken from a directory. -/
theorem walk_concat_eq_ok_iff {l : Location} {names : List Text} {name : Text} :
    tree.walk l (names ++ [name]) = .ok place ↔
      ∃ directory, tree.walk l names = .ok directory ∧
        tree.find? directory = some .directory ∧
        (Text.Utf8.encode name).length ≤ maxNameSize ∧ directory.follow name = place := by
  induction names generalizing l with
  | nil =>
      rw [List.nil_append, walk_cons_eq_ok_iff]
      simp [walk]
  | cons first rest ih =>
      rw [List.cons_append, walk_cons_eq_ok_iff, ih]
      simp only [walk_cons_eq_ok_iff]
      constructor
      · rintro ⟨held, short, directory, walked, last⟩
        exact ⟨directory, ⟨held, short, walked⟩, last⟩
      · rintro ⟨directory, ⟨held, short, walked⟩, last⟩
        exact ⟨held, short, directory, walked, last⟩

/-- All that is passed on the way to a place is a directory. -/
def Rooted (tree : FileTree) (l : Location) : Prop :=
  ∀ above, above <+: l → above ≠ l → tree.find? above = some .directory

theorem rooted_start (tree : FileTree) (path : Text) : tree.Rooted (Location.start path) := by
  intro above before other
  have nothing : above = [] := by
    unfold Location.start at before other
    split at before
    · rename_i slash
      rw [if_pos slash] at other
      rcases List.prefix_cons_iff.mp before with empty | ⟨more, shape, inside⟩
      · exact empty
      · rw [List.prefix_nil.mp inside] at shape
        exact absurd shape other
    · exact List.prefix_nil.mp before
  rw [nothing]
  rfl

section Rooted

variable {l : Location} (rooted : tree.Rooted l) (held : tree.find? l = some .directory)

include rooted held

theorem Rooted.concat (name : Text) : tree.Rooted (l ++ [name]) := by
  intro above before other
  rcases List.prefix_concat_iff.mp before with whole | inside
  · exact absurd whole other
  · by_cases here : above = l
    · rw [here]
      exact held
    · exact rooted above inside here

theorem Rooted.follow (name : Text) : tree.Rooted (l.follow name) := by
  unfold Location.follow
  split
  · exact rooted
  split
  · unfold Location.parent
    split
    · exact rooted.concat held _
    split
    · exact rooted
    · intro above before other
      apply rooted above (before.trans (List.dropLast_prefix l))
      rintro rfl
      -- A prefix of what is left when its last name is dropped: it had none.
      have short := before.length_le
      rw [List.length_dropLast] at short
      have empty : above = [] := List.length_eq_zero_iff.mp (by omega)
      rw [empty] at other
      exact other rfl
  · exact rooted.concat held name

/-- The parent of a directory is a directory. -/
theorem Rooted.find?_parent : tree.find? l.parent = some .directory := by
  unfold Location.parent
  split
  · rename_i above
    have further : Location.isAbove (l ++ [['.', '.']]) = true := by
      simpa [Location.isAbove] using above
    rw [find?, further]
    rfl
  split
  · exact held
  · rename_i below _
    apply rooted _ (List.dropLast_prefix l)
    intro same
    have short := congrArg List.length same
    rw [List.length_dropLast] at short
    have empty : l = [] := List.length_eq_zero_iff.mp (by omega)
    rw [empty] at below
    exact below rfl

end Rooted

theorem Rooted.walk {l : Location} {names : List Text} (rooted : tree.Rooted l)
    (walked : tree.walk l names = .ok place) : tree.Rooted place := by
  induction names generalizing l with
  | nil =>
      cases walked
      exact rooted
  | cons name rest ih =>
      obtain ⟨held, -, further⟩ := walk_cons_eq_ok_iff.mp walked
      exact ih (rooted.follow held name) further

theorem resolve_eq_ok_iff {path : Text} {place : Location} :
    tree.resolve path = .ok place ↔
      path ≠ [] ∧ (Text.Utf8.encode path).length ≤ maxPathSize ∧
        tree.walk (.start path) (Text.piecesAt '/' path) = .ok place := by
  unfold resolve
  by_cases empty : path = []
  · simp [empty]
  · by_cases long : maxPathSize < (Text.Utf8.encode path).length
    · simp only [List.isEmpty_iff, empty, if_false, long, if_true, reduceCtorEq, false_iff, not_and]
      omega
    · simp [empty, long, Nat.not_lt.mp long]

/-! ## Reading -/

theorem read_eq_ok_iff {bytes : Bytes} :
    tree.read path = .ok bytes ↔ tree.At path (.file bytes) := by
  simp only [read, except_bind_eq_ok_iff, At]
  constructor
  · rintro ⟨l, resolved, found⟩
    refine ⟨l, resolved, ?_⟩
    split at found
    · rename_i content held
      cases found
      exact held
    · contradiction
    · contradiction
  · rintro ⟨l, resolved, held⟩
    exact ⟨l, resolved, by rw [held]⟩

theorem walk_eq_error {l : Location} {names : List Text} {errno : Errno}
    (stopped : tree.walk l names = .error errno) : errno.code ≠ Errno.isADirectory.code := by
  induction names generalizing l with
  | nil => cases stopped
  | cons name rest ih =>
      rw [walk] at stopped
      split at stopped
      · split at stopped
        · cases stopped
          decide
        · exact ih stopped
      · cases stopped
        decide
      · cases stopped
        decide

theorem resolve_eq_error {errno : Errno} (stopped : tree.resolve path = .error errno) :
    errno.code ≠ Errno.isADirectory.code := by
  unfold resolve at stopped
  split at stopped
  · cases stopped
    decide
  split at stopped
  · cases stopped
    decide
  · exact walk_eq_error stopped

def presence (tree : FileTree) (path : Text) : Presence :=
  match tree.read path with
  | .ok _ => .file
  | .error errno => if errno.code = Errno.isADirectory.code then .directory else .missing

theorem run_presence (tree : FileTree) (path : Text) :
    (access.presence path).run tree = (tree.presence path, tree) := by
  unfold FileAccess.presence presence
  rw [StateT.run_bind, run_access_read]
  cases tree.read path <;> rfl

theorem presence_eq_file_iff :
    tree.presence path = .file ↔ ∃ bytes, tree.At path (.file bytes) := by
  simp only [presence, ← read_eq_ok_iff]
  cases tree.read path with
  | ok bytes => simp
  | error errno =>
      simp only [reduceCtorEq, exists_false, iff_false]
      split <;> decide

theorem presence_eq_directory_iff : tree.presence path = .directory ↔ tree.At path .directory := by
  unfold presence read At
  cases resolved : tree.resolve path with
  | error errno =>
      have other := resolve_eq_error resolved
      simp [except_error_bind, other]
  | ok l =>
      simp only [except_ok_bind, Except.ok.injEq]
      cases held : tree.find? l with
      | none => simp [Errno.noSuchFile, Errno.isADirectory, held]
      | some node => cases node <;> simp [held]

/-! ## Writing -/

theorem write_of_opens (opens : tree.Opens path place) (content : Bytes) :
    tree.write path content = .ok (tree.put place content) := by
  simp only [write, opens.1, except_ok_bind]
  split
  · rename_i held
    exact absurd held opens.2
  · rfl

theorem write_of_closed (closed : ∀ place, ¬ tree.Opens path place) (content : Bytes) :
    ∃ errno, tree.write path content = .error errno := by
  unfold write
  cases resolved : tree.resolve path with
  | error errno => exact ⟨errno, rfl⟩
  | ok l =>
      have held : tree.find? l = some .directory :=
        Decidable.byContradiction fun other => closed l ⟨resolved, other⟩
      exact ⟨.isADirectory, by simp [except_ok_bind, held]⟩

/-- A file that is put at a place is found there, and nothing else is touched. -/
theorem find?_put (free : tree.find? place ≠ some .directory) (content : Bytes) (l : Location) :
    (tree.put place content).find? l =
      if l = place then some (.file content) else tree.find? l := by
  by_cases here : l = place
  · subst here
    have below : (Location.isAbove l || l == Location.rootDirectory) = false := by
      rw [← Bool.not_eq_true]
      intro above
      exact free (by rw [find?, if_pos above])
    rw [find?, below, if_pos rfl]
    simp [put, Table.get?_insert]
  · rw [if_neg here]
    unfold find?
    simp [put, Table.get?_insert, here]

section Put

variable (free : tree.find? place ≠ some .directory) (content : Bytes)

include free

/-- Putting a file somewhere makes and removes no directory. -/
theorem find?_put_eq_directory_iff {l : Location} :
    (tree.put place content).find? l = some .directory ↔ tree.find? l = some .directory := by
  rw [find?_put free]
  split
  · rename_i here
    simp [here, free]
  · exact Iff.rfl

theorem walk_put_eq_ok_iff {l found : Location} {names : List Text} :
    (tree.put place content).walk l names = .ok found ↔ tree.walk l names = .ok found := by
  induction names generalizing l with
  | nil => exact Iff.rfl
  | cons name rest ih =>
      rw [walk_cons_eq_ok_iff, walk_cons_eq_ok_iff, find?_put_eq_directory_iff free, ih]

/-- Paths lead where they led. -/
theorem resolve_put_eq_ok_iff {other : Text} {found : Location} :
    (tree.put place content).resolve other = .ok found ↔ tree.resolve other = .ok found := by
  rw [resolve_eq_ok_iff, resolve_eq_ok_iff, walk_put_eq_ok_iff free]

/-- **What is read after a file is put somewhere**: the file by the paths that lead to it, and by
all others what was read before. -/
theorem read_put_eq_ok_iff {other : Text} {bytes : Bytes} :
    (tree.put place content).read other = .ok bytes ↔
      (tree.resolve other = .ok place ∧ bytes = content) ∨
        (tree.resolve other ≠ .ok place ∧ tree.read other = .ok bytes) := by
  simp only [read_eq_ok_iff, At, resolve_put_eq_ok_iff free, find?_put free]
  constructor
  · rintro ⟨l, resolved, found⟩
    by_cases here : l = place
    · subst here
      rw [if_pos rfl] at found
      cases found
      exact .inl ⟨resolved, rfl⟩
    · rw [if_neg here] at found
      refine .inr ⟨fun also => here ?_, l, resolved, found⟩
      exact Except.ok.inj (resolved.symm.trans also)
  · rintro (⟨resolved, rfl⟩ | ⟨elsewhere, l, resolved, found⟩)
    · exact ⟨place, resolved, if_pos rfl⟩
    · refine ⟨l, resolved, ?_⟩
      rw [if_neg]
      · exact found
      · rintro rfl
        exact elsewhere resolved

end Put

end

end Retarget.FileTree
