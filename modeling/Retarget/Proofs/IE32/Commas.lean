/-
# Retarget.Proofs.IE32.Commas -- commas outside brackets

A comma parts operands where as many brackets have been closed as opened.  The search for one keeps
a signed depth; `Single` counts brackets instead, and says that a text has no such comma.  The two
agree (`cutAtComma_eq_none_iff`), also where brackets are closed that were never opened.

What stands around a text makes no difference to its commas if it holds neither commas nor brackets
(`single_surrounded`), so blanks make none.  Hence an operand text is one operand exactly if it is
`Single` and not blank (`splitOperands_eq_single_iff`), and otherwise it is two or none.
-/
import Retarget.Proofs.Acceptance
import Retarget.Proofs.IE32.Writing

namespace Retarget.IE32

set_option autoImplicit false

open Text (trim AllBlank)

/-- The character neither parts operands nor changes the depth. -/
def Level (c : Char) : Prop := c ≠ ',' ∧ c ≠ '[' ∧ c ≠ ']'

instance (c : Char) : Decidable (Level c) := inferInstanceAs (Decidable (_ ∧ _))

theorem level_of_isBlank {c : Char} (blank : Text.isBlank c = true) : Level c := by
  have all : ∀ d ∈ Text.blanks, Level d := by decide
  exact all c ((Text.isBlank_iff c).mp blank)

/-! ## The search and the count -/

/-- **The search fails exactly if every comma stands at another depth than zero.** -/
theorem cutAtComma_eq_none_iff (depth : Int) (t : Text) :
    cutAtComma depth t = none ↔ ∀ before after, t = before ++ ',' :: after →
      depth + before.count '[' - before.count ']' ≠ 0 := by
  refine ⟨?_, cutAtComma_eq_none⟩
  rintro uncut before after rfl
  -- The depth that the search has at the comma is the depth at the start plus the count.
  induction before generalizing depth with
  | nil =>
      intro level
      have zero : depth = 0 := by simpa using level
      simp [cutAtComma, zero] at uncut
  | cons c rest ih =>
      rw [List.cons_append, cutAtComma] at uncut
      split at uncut
      · simp at uncut
      · have later := ih (depthAfter depth c) (Option.map_eq_none_iff.mp uncut)
        simp only [List.count_cons]
        unfold depthAfter at later
        grind

theorem single_iff (t : Text) : Single t ↔ cutAtComma 0 t = none := by
  rw [cutAtComma_eq_none_iff]
  unfold Single
  constructor
  · intro single before after same
    have apart := single before after same
    omega
  · intro uncut before after same
    have level := uncut before after same
    omega

instance (t : Text) : Decidable (Single t) := decidable_of_iff _ (single_iff t).symm

/-! ## What stands around a text -/

theorem cutAtComma_append_level (depth : Int) (t : Text) {right : Text}
    (level : ∀ c ∈ right, Level c) :
    cutAtComma depth (t ++ right) = none ↔ cutAtComma depth t = none := by
  induction t generalizing depth with
  | nil =>
      refine iff_of_true (cutAtComma_eq_none ?_) rfl
      rintro before after rfl
      exact absurd rfl (level ',' (by simp)).1
  | cons c rest ih =>
      rw [List.cons_append, cutAtComma, cutAtComma]
      split
      · simp
      · rw [Option.map_eq_none_iff, Option.map_eq_none_iff]
        exact ih _

theorem cutAtComma_level_append (depth : Int) (t : Text) {left : Text}
    (level : ∀ c ∈ left, Level c) :
    cutAtComma depth (left ++ t) = none ↔ cutAtComma depth t = none := by
  induction left with
  | nil => rfl
  | cons c rest ih =>
      rw [List.forall_mem_cons] at level
      obtain ⟨⟨noComma, noOpen, noClose⟩, others⟩ := level
      have same : depthAfter depth c = depth := by simp [depthAfter, noOpen, noClose]
      rw [List.cons_append, cutAtComma, if_neg (fun here => noComma here.1), same,
        Option.map_eq_none_iff]
      exact ih others

/-- Only the text itself matters if there are neither commas nor brackets around it. -/
theorem single_surrounded {left right : Text} (t : Text) (levelLeft : ∀ c ∈ left, Level c)
    (levelRight : ∀ c ∈ right, Level c) : Single (left ++ t ++ right) ↔ Single t := by
  rw [single_iff, single_iff, cutAtComma_append_level 0 _ levelRight,
    cutAtComma_level_append 0 _ levelLeft]

theorem single_trim (t : Text) : Single (trim t) ↔ Single t := by
  obtain ⟨left, right, blankLeft, blankRight, around⟩ := Text.exists_trim t
  conv_rhs => rw [around]
  exact (single_surrounded _ (fun c member => level_of_isBlank (blankLeft c member))
    (fun c member => level_of_isBlank (blankRight c member))).symm

/-! ## How many operands there are -/

theorem splitOperands_eq_nil_iff (t : Text) : splitOperands t = [] ↔ trim t = [] := by
  constructor
  · intro none_left
    by_contra some_text
    simp only [splitOperands, List.isEmpty_iff, if_neg some_text] at none_left
    split at none_left <;> simp at none_left
  · intro empty
    simp [splitOperands, empty]

theorem splitOperands_eq_single_iff (t operand : Text) :
    splitOperands t = [operand] ↔ Single t ∧ trim t ≠ [] ∧ operand = trim t := by
  constructor
  · intro split
    obtain ⟨rfl, some_text, uncut⟩ := splitOperands_eq_single split
    exact ⟨(single_trim t).mp ((single_iff _).mpr uncut), some_text, rfl⟩
  · rintro ⟨single, some_text, rfl⟩
    exact splitOperands_single single some_text

theorem Sole.single {t operand : Text} (sole : Sole t operand) : Single t ∧ trim t ≠ [] := by
  obtain ⟨single, some_text, -⟩ := (splitOperands_eq_single_iff t operand).mp sole.1
  exact ⟨single, some_text⟩

/-- Two operands are what stands on either side of the first comma. -/
theorem cutAtComma_of_pair {t first second : Text} (split : splitOperands t = [first, second]) :
    ∃ before after, cutAtComma 0 (trim t) = some (before, after) ∧ first = trim before ∧
      second = trim after := by
  simp only [splitOperands] at split
  split at split
  · simp at split
  · split at split
    · rename_i before after cut
      simp only [List.cons.injEq, and_true] at split
      exact ⟨before, after, cut, split.1.symm, split.2.symm⟩
    · simp at split

/-- A comma outside brackets parts the text in two, whatever stands around it. -/
theorem exists_pair_of_not_single {t : Text} (parted : ¬ Single t) :
    ∃ first second, splitOperands t = [first, second] := by
  have cut : cutAtComma 0 (trim t) ≠ none := by
    rw [ne_eq, ← single_iff, single_trim]
    exact parted
  obtain ⟨⟨before, after⟩, found⟩ := Option.ne_none_iff_exists'.mp cut
  have some_text : trim t ≠ [] := by
    intro empty
    simp [empty, cutAtComma] at found
  exact ⟨trim before, trim after, by simp [splitOperands, some_text, found]⟩

theorem trim_ne_nil_of_not_single {t : Text} (parted : ¬ Single t) : trim t ≠ [] := by
  intro empty
  obtain ⟨first, second, split⟩ := exists_pair_of_not_single parted
  rw [(splitOperands_eq_nil_iff t).mpr empty] at split
  simp at split

end Retarget.IE32
