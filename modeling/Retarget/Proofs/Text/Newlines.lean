/-
# Retarget.Proofs.Text.Newlines -- line endings, and how they are read

A line may end in a newline, in a carriage return, or in both (`Ending`).  `ReadsAs` says what is
made of a text with any of them: a carriage return with a newline behind it is one newline, a
carriage return without is one as well, and nothing else changes.  `normalizeNewlines` is the
function of that relation (`readsAs_iff`).

So it does not matter which ending a text was stored with (`readsAs_stored`), as long as it had no
carriage returns of its own.
-/
import Retarget.Text.Basic

namespace Retarget.Text

set_option autoImplicit false

/-- The second text is what the first is read as. -/
inductive ReadsAs : Text → Text → Prop
  | nil : ReadsAs [] []
  /-- Both characters are one line ending. -/
  | both {s t : Text} (rest : ReadsAs s t) : ReadsAs ('\r' :: '\n' :: s) ('\n' :: t)
  /-- A lone carriage return is one. -/
  | alone {s t : Text} (lone : s.head? ≠ some '\n') (rest : ReadsAs s t) :
      ReadsAs ('\r' :: s) ('\n' :: t)
  | other {c : Char} {s t : Text} (plain : c ≠ '\r') (rest : ReadsAs s t) :
      ReadsAs (c :: s) (c :: t)

theorem normalizeNewlines_return {rest : Text} (lone : rest.head? ≠ some '\n') :
    normalizeNewlines ('\r' :: rest) = '\n' :: normalizeNewlines rest := by
  rw [normalizeNewlines]
  · rfl
  · rintro more - rfl
    exact lone rfl

theorem normalizeNewlines_plain {c : Char} (plain : c ≠ '\r') (rest : Text) :
    normalizeNewlines (c :: rest) = c :: normalizeNewlines rest := by
  rw [normalizeNewlines]
  · rw [if_neg plain]
  · rintro more rfl
    exact absurd rfl plain

/-- Every text is read as what it is normalized to. -/
theorem readsAs_normalizeNewlines (s : Text) : ReadsAs s s.normalizeNewlines := by
  fun_induction normalizeNewlines s with
  | case1 => exact .nil
  | case2 rest ih => exact .both ih
  | case3 c rest notBoth ih =>
      by_cases carriage : c = '\r'
      · subst carriage
        have lone : rest.head? ≠ some '\n' := by
          intro newline
          obtain ⟨more, shape⟩ := List.head?_eq_some_iff.mp newline
          exact notBoth more rfl shape
        exact .alone lone ih
      · rw [if_neg carriage]
        exact .other carriage ih

/-- **Reading line endings is a function.** -/
theorem readsAs_iff {s t : Text} : ReadsAs s t ↔ t = s.normalizeNewlines := by
  constructor
  · intro reads
    induction reads with
    | nil => rfl
    | both _ ih => rw [normalizeNewlines, ih]
    | alone lone _ ih => rw [normalizeNewlines_return lone, ih]
    | other plain _ ih => rw [normalizeNewlines_plain plain, ih]
  · rintro rfl
    exact readsAs_normalizeNewlines s

/-! ## Stored texts -/

/-- How the lines of a stored text end. -/
inductive Ending where
  | newline
  | carriageReturn
  | both
  deriving DecidableEq, Repr

def Ending.text : Ending → Text
  | .newline => ['\n']
  | .carriageReturn => ['\r']
  | .both => ['\r', '\n']

/-- The text with every newline written as the given ending. -/
def stored (ending : Ending) (t : Text) : Text :=
  t.flatMap fun c => if c = '\n' then ending.text else [c]

theorem stored_newline (ending : Ending) (t : Text) :
    stored ending ('\n' :: t) = ending.text ++ stored ending t := rfl

theorem stored_plain (ending : Ending) {c : Char} (plain : c ≠ '\n') (t : Text) :
    stored ending (c :: t) = c :: stored ending t := by
  simp [stored, plain]

/-- With carriage returns for line endings, no newline is left. -/
theorem head?_stored_carriageReturn (t : Text) :
    (stored .carriageReturn t).head? ≠ some '\n' := by
  cases t with
  | nil => simp [stored]
  | cons c rest =>
      by_cases here : c = '\n'
      · subst here
        rw [stored_newline]
        simp [Ending.text]
      · rw [stored_plain _ here]
        simpa using here

/-- A stored text is read as the text, if it had no carriage returns. -/
theorem readsAs_stored (ending : Ending) {t : Text} (clean : '\r' ∉ t) :
    ReadsAs (stored ending t) t := by
  induction t with
  | nil => exact .nil
  | cons c rest ih =>
      obtain ⟨plain, later⟩ := not_or.mp (mt List.mem_cons.mpr clean)
      have reads := ih later
      by_cases here : c = '\n'
      · subst here
        rw [stored_newline]
        cases ending with
        | newline => exact .other (by decide) reads
        | carriageReturn => exact .alone (head?_stored_carriageReturn rest) reads
        | both => exact .both reads
      · rw [stored_plain ending here]
        exact .other (Ne.symm plain) reads

end Retarget.Text
