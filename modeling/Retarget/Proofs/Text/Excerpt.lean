/-
# Retarget.Proofs.Text.Excerpt -- a text inside another, and what stands around it

Reading source text cuts it again and again: at blanks, at a comma, behind a marker, between
brackets.  Each cut leaves an excerpt, and what was cut off is known to be harmless in some sense
that depends on the purpose.  `Excerpt P t s` says that `t` stands in `s` and that all around it
satisfies `P`; excerpts of excerpts are excerpts (`Excerpt.trans`), so the cuts compose.
-/
import Retarget.Proofs.Text.Trimming

namespace Retarget.Text

set_option autoImplicit false

/-- `t` stands in `s`, and every character before and after it satisfies `P`. -/
def Excerpt (P : Char → Prop) (t s : Text) : Prop :=
  ∃ before after, (∀ c ∈ before, P c) ∧ (∀ c ∈ after, P c) ∧ s = before ++ t ++ after

namespace Excerpt

variable {P : Char → Prop}

theorem refl (t : Text) : Excerpt P t t := by
  refine ⟨[], [], ?_, ?_, ?_⟩ <;> simp

theorem trans {t s u : Text} (inner : Excerpt P t s) (outer : Excerpt P s u) :
    Excerpt P t u := by
  obtain ⟨a, b, ha, hb, rfl⟩ := inner
  obtain ⟨before, after, hbefore, hafter, rfl⟩ := outer
  refine ⟨before ++ a, b ++ after, ?_, ?_, ?_⟩
  · intro c member
    exact (List.mem_append.mp member).elim (hbefore c) (ha c)
  · intro c member
    exact (List.mem_append.mp member).elim (hb c) (hafter c)
  · simp

theorem subset {t s : Text} (inside : Excerpt P t s) : t ⊆ s := by
  obtain ⟨before, after, -, -, rfl⟩ := inside
  intro c member
  simp [member]

theorem trim (blanks : ∀ c, isBlank c = true → P c) (t : Text) : Excerpt P (Text.trim t) t := by
  obtain ⟨left, right, blankLeft, blankRight, split⟩ := exists_trim t
  exact ⟨left, right, fun c member => blanks c (blankLeft c member),
    fun c member => blanks c (blankRight c member), split⟩

theorem trimLeft (blanks : ∀ c, isBlank c = true → P c) (t : Text) :
    Excerpt P (Text.trimLeft t) t := by
  obtain ⟨left, blank, split⟩ := exists_trimLeft t
  exact ⟨left, [], fun c member => blanks c (blank c member), by simp, by simpa using split⟩

theorem trimRight (blanks : ∀ c, isBlank c = true → P c) (t : Text) :
    Excerpt P (Text.trimRight t) t := by
  obtain ⟨right, blank, split⟩ := exists_trimRight t
  exact ⟨[], right, by simp, fun c member => blanks c (blank c member), by simpa using split⟩

theorem tail {c : Char} (first : P c) (t : Text) : Excerpt P t (c :: t) := by
  refine ⟨[c], [], ?_, ?_, ?_⟩ <;> simp [first]

theorem prepend {before t s : Text} (plain : ∀ c ∈ before, P c) (inside : Excerpt P t s) :
    Excerpt P t (before ++ s) :=
  inside.trans ⟨before, [], plain, by simp, by simp⟩

theorem extend {t s after : Text} (plain : ∀ c ∈ after, P c) (inside : Excerpt P t s) :
    Excerpt P t (s ++ after) :=
  inside.trans ⟨[], after, by simp, plain, by simp⟩

/-- A text that is plain throughout has nothing in it that matters. -/
theorem nil {s : Text} (plain : ∀ c ∈ s, P c) : Excerpt P [] s :=
  ⟨s, [], plain, by simp, by simp⟩

end Excerpt

end Retarget.Text
