/-
# Retarget.Proofs.Text.Cutting -- cutting a text at a mark

`cutAt` cuts at the first occurrence of a mark: put together again the two parts are the text
(`cutAt_eq`), and a text that is laid out around its first mark is cut there (`cutAt_append`).
Of two marks in a text, one stands before the other (`exists_of_earlier_mark`).
-/
import Retarget.Text.Basic

namespace Retarget.Text

set_option autoImplicit false

theorem cutAt_eq (mark : Char) (t : Text) :
    t = (cutAt mark t).1 ++ ((cutAt mark t).2.map (mark :: ·)).getD [] := by
  induction t with
  | nil => rfl
  | cons c rest ih =>
      rw [cutAt]
      split
      · rename_i here
        simp [here]
      · simpa using ih

theorem cutAt_fst (mark : Char) (t : Text) :
    (cutAt mark t).1 = t.takeWhile (· != mark) := by
  induction t with
  | nil => rfl
  | cons c rest ih =>
      rw [cutAt]
      split
      · rename_i here
        simp [here]
      · rename_i other
        simp [other, ih]

theorem cutAt_of_notMem {mark : Char} {t : Text} (absent : mark ∉ t) :
    cutAt mark t = (t, none) := by
  induction t with
  | nil => rfl
  | cons c rest ih =>
      have other : c ≠ mark := fun here => absent (here ▸ List.mem_cons_self)
      have later := ih (fun member => absent (List.mem_cons_of_mem c member))
      simp [cutAt, other, later]

theorem cutAt_append {mark : Char} {first : Text} (absent : mark ∉ first) (second : Text) :
    cutAt mark (first ++ mark :: second) = (first, some second) := by
  induction first with
  | nil => simp [cutAt]
  | cons c rest ih =>
      have other : c ≠ mark := fun here => absent (here ▸ List.mem_cons_self)
      have later := ih (fun member => absent (List.mem_cons_of_mem c member))
      simp [cutAt, other, later]

/-- A mark that stands before another is in what stands before the other. -/
theorem exists_of_earlier_mark {mark : Char} {first second before after : Text}
    (same : first ++ mark :: second = before ++ mark :: after)
    (earlier : before.length < first.length) : ∃ between, first = before ++ mark :: between := by
  rcases List.append_eq_append_iff.mp same with ⟨rest, rfl, -⟩ | ⟨rest, rfl, behind⟩
  · rw [List.length_append] at earlier
    omega
  · cases rest with
    | nil => simp at earlier
    | cons c between =>
        obtain ⟨rfl, -⟩ := List.cons.inj behind
        exact ⟨between, rfl⟩

end Retarget.Text
