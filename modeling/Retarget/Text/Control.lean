/-
# Retarget.Text.Control -- the control sequences of terminals

A control sequence is escape, an opening bracket, any number of parameter characters (digits,
semicolons and question marks) and a letter, all of them ASCII.  It tells a terminal to change a
colour or to move the cursor; a reader of plain text has no use for it.

`withoutControls` drops the control sequences of a text, from left to right.  What starts like one
and does not end like one is kept, and so is a sequence that only comes about by the dropping.  A
text without an escape is left alone (`withoutControls_of_not_mem`).
-/
import Retarget.Text.Basic

namespace Retarget.Text

set_option autoImplicit false

/-- The character that starts a control sequence. -/
def escapeChar : Char := '\x1b'

/-- May the character stand between the opening bracket and the final letter? -/
def isControlParameter (c : Char) : Bool := c.isDigit || c == ';' || c == '?'

/-- The length of the control sequence at the start of the text; zero if there is none. -/
def controlLength : Text → Nat
  | escape :: '[' :: rest =>
      if escape = escapeChar ∧ ((rest.dropWhile isControlParameter).head?.any Char.isAlpha) then
        (rest.takeWhile isControlParameter).length + 3
      else 0
  | _ => 0

/-- Skip a number of characters, then drop the control sequences of the rest. -/
def withoutControlsAfter : Nat → Text → Text
  | _, [] => []
  | skip + 1, _ :: rest => withoutControlsAfter skip rest
  | 0, c :: rest =>
      match controlLength (c :: rest) with
      | 0 => c :: withoutControlsAfter 0 rest
      | more + 1 => withoutControlsAfter more rest

def withoutControls (t : Text) : Text := withoutControlsAfter 0 t

@[simp] theorem withoutControls_nil : withoutControls [] = [] := rfl

theorem withoutControlsAfter_eq (skip : Nat) (t : Text) :
    withoutControlsAfter skip t = withoutControls (t.drop skip) := by
  induction t generalizing skip with
  | nil => cases skip <;> rfl
  | cons c rest ih =>
      cases skip with
      | zero => rfl
      | succ skip => simpa [withoutControlsAfter] using ih skip

/-- A control sequence at the start is dropped. -/
theorem withoutControls_of_controlLength {t : Text} (h : controlLength t ≠ 0) :
    withoutControls t = withoutControls (t.drop (controlLength t)) := by
  cases t with
  | nil => rfl
  | cons c rest =>
      obtain ⟨more, same⟩ := Nat.exists_eq_succ_of_ne_zero h
      rw [same, List.drop_succ_cons, ← withoutControlsAfter_eq]
      simp [withoutControls, withoutControlsAfter, same]

/-- A character that starts no control sequence is kept. -/
theorem withoutControls_cons {c : Char} {rest : Text} (h : controlLength (c :: rest) = 0) :
    withoutControls (c :: rest) = c :: withoutControls rest := by
  simp [withoutControls, withoutControlsAfter, h]

theorem controlLength_of_ne {c : Char} (h : c ≠ escapeChar) (rest : Text) :
    controlLength (c :: rest) = 0 := by
  unfold controlLength
  split
  · rename_i same
    cases same
    simp [h]
  · rfl

/-- A text without an escape holds no control sequence. -/
theorem withoutControls_of_not_mem {t : Text} (h : escapeChar ∉ t) : withoutControls t = t := by
  induction t with
  | nil => rfl
  | cons c rest ih =>
      simp only [List.mem_cons, not_or] at h
      rw [withoutControls_cons (controlLength_of_ne (Ne.symm h.1) rest), ih h.2]

/-- Parameters may be missing, but not the letter. -/
example : withoutControls "a\x1b[31;1mb\x1b[mc\x1b[31" = "abc\x1b[31".toList := by decide

/-- Dropping is not repeated on its result. -/
example : withoutControls "\x1b[\x1b[mm" = "\x1b[m".toList := by decide

end Retarget.Text
