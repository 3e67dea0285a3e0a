/-
# Retarget.Proofs.Text.Lines -- lines and the text they make

Cutting at a mark is `List.splitOn` (`piecesAt_eq_splitOn`), so the pieces that were put together
are found again as long as none of them holds the mark (`piecesAt_join`), and lines as long as none
of them holds a newline (`lines_unlines`).  Two texts with a newline between them have the lines of
both (`lines_append_newline`), and lines that are put together in two parts need a newline between
the parts (`unlines_append`).
-/
import Retarget.Text.Basic

namespace Retarget.Text

set_option autoImplicit false

theorem piecesAt_eq_splitOn (mark : Char) (t : Text) : piecesAt mark t = t.splitOn mark := by
  induction t with
  | nil => simp
  | cons c rest ih =>
      by_cases here : c = mark
      · rw [here, piecesAt_cons_mark, ih]
        simp [List.splitOn_cons_eq_if_modifyHead]
      · obtain ⟨piece, more, pieces⟩ := List.exists_cons_of_ne_nil (piecesAt_ne_nil mark rest)
        rw [piecesAt_cons_of_ne here]
        simp [List.splitOn_cons_eq_if_modifyHead, here, ← ih, pieces]

theorem notMem_of_mem_piecesAt {mark : Char} {t piece : Text} (member : piece ∈ piecesAt mark t) :
    mark ∉ piece := by
  induction t generalizing piece with
  | nil => simp_all
  | cons c rest ih =>
      by_cases here : c = mark
      · rw [here, piecesAt_cons_mark, List.mem_cons] at member
        rcases member with rfl | later
        · simp
        · exact ih later
      · rw [piecesAt_cons_of_ne here, List.mem_cons] at member
        rcases member with rfl | later
        · have first := ih (List.head_mem (piecesAt_ne_nil mark rest))
          rw [List.mem_cons, not_or]
          exact ⟨Ne.symm here, first⟩
        · exact ih (List.mem_of_mem_tail later)

theorem join_piecesAt (mark : Char) (t : Text) : join [mark] (piecesAt mark t) = t := by
  rw [join, piecesAt_eq_splitOn]
  exact List.intercalate_splitOn mark

/-- **Pieces without a mark are the pieces of the text they make.** -/
theorem piecesAt_join {mark : Char} {pieces : List Text} (some_piece : pieces ≠ [])
    (plain : ∀ piece ∈ pieces, mark ∉ piece) : piecesAt mark (join [mark] pieces) = pieces := by
  rw [join, piecesAt_eq_splitOn]
  exact List.splitOn_intercalate mark plain some_piece

/-- Lines without newlines are the lines of the text they make. -/
theorem lines_unlines {ls : List Text} (some_line : ls ≠ []) (plain : ∀ line ∈ ls, '\n' ∉ line) :
    lines (unlines ls) = ls :=
  piecesAt_join some_line plain

/-- There is one piece more than there are marks. -/
theorem length_piecesAt (mark : Char) (t : Text) :
    (piecesAt mark t).length = t.count mark + 1 := by
  induction t with
  | nil => rfl
  | cons c rest ih =>
      by_cases here : c = mark
      · rw [here, piecesAt_cons_mark, List.length_cons, ih, List.count_cons_self]
      · rw [piecesAt_cons_of_ne here, List.length_cons, List.length_tail, ih,
          List.count_cons_of_ne here, Nat.add_sub_cancel]

/-- Leaving pieces out leaves characters out. -/
theorem join_filter_sublist (separator : Text) (keep : Text → Bool) (pieces : List Text) :
    (join separator (pieces.filter keep)).Sublist (join separator pieces) := by
  unfold join
  induction pieces with
  | nil => exact .refl _
  | cons piece rest ih =>
      by_cases last : rest = []
      · subst last
        cases kept : keep piece <;> simp [kept]
      rw [List.intercalate_cons_of_ne_nil last]
      by_cases kept : keep piece = true
      · rw [List.filter_cons_of_pos kept]
        by_cases alone : rest.filter keep = []
        · rw [alone, List.intercalate_singleton, List.append_assoc]
          exact List.sublist_append_left _ _
        · rw [List.intercalate_cons_of_ne_nil alone]
          exact (List.Sublist.refl _).append ih
      · rw [List.filter_cons_of_neg kept]
        exact ih.trans (List.sublist_append_right _ _)

/-- The separator stands behind every piece but the last. -/
theorem join_concat (separator last : Text) (pieces : List Text) :
    join separator (pieces ++ [last]) = pieces.flatMap (· ++ separator) ++ last := by
  unfold join
  induction pieces with
  | nil => simp
  | cons piece rest ih =>
      rw [List.cons_append, List.intercalate_cons_of_ne_nil (by simp), ih]
      simp

theorem mem_join_iff {c : Char} {separator : Text} {pieces : List Text} (apart : c ∉ separator) :
    c ∈ join separator pieces ↔ ∃ piece ∈ pieces, c ∈ piece := by
  unfold join
  induction pieces with
  | nil => simp
  | cons piece rest ih =>
      by_cases last : rest = []
      · simp [last]
      · rw [List.intercalate_cons_of_ne_nil last]
        simp [apart, ih]

/-- A newline parts the lines before it from those after it. -/
theorem lines_append_newline (s t : Text) : lines (s ++ '\n' :: t) = lines s ++ lines t := by
  simp only [lines, piecesAt_eq_splitOn]
  exact List.splitOn_append_cons_self s t

theorem unlines_append {first second : List Text} (some_first : first ≠ [])
    (some_second : second ≠ []) :
    unlines (first ++ second) = unlines first ++ '\n' :: unlines second := by
  simp only [unlines, join]
  induction first with
  | nil => exact absurd rfl some_first
  | cons line rest ih =>
      rw [List.cons_append, List.intercalate_cons_of_ne_nil (by simp [some_second])]
      by_cases last : rest = []
      · subst last
        simp [List.intercalate]
      · rw [ih last, List.intercalate_cons_of_ne_nil last]
        simp

end Retarget.Text
