/-
# Retarget.Text.Uppercase -- upper case, one character to several

`upper` maps every character to its full uppercase form, which may be longer: a sharp s
becomes `SS`.  ASCII letters go through core's `Char.toUpper`; all other characters through the
two tables of `Retarget.Text.UppercaseTable`, and a character in neither stays as it is.
-/
import Retarget.Text.Basic
import Retarget.Text.UppercaseTable

namespace Retarget.Text

set_option autoImplicit false

namespace CaseRun

def contains (r : CaseRun) (n : Nat) : Bool :=
  r.first ≤ n && n ≤ r.last && (n - r.first) % r.step == 0

/-- The code point a member of the run is mapped to. -/
def image (r : CaseRun) (n : Nat) : Nat := ((n : Int) + r.shift).toNat

end CaseRun

def upperBeyondAscii (c : Char) : Text :=
  match expansions.lookup c.toNat with
  | some codes => codes.map Char.ofNat
  | none =>
      match caseRuns.find? (·.contains c.toNat) with
      | some run => [Char.ofNat (run.image c.toNat)]
      | none => [c]

def upperChar (c : Char) : Text :=
  if c.toNat < 0x80 then [c.toUpper] else upperBeyondAscii c

def upper (t : Text) : Text := t.flatMap upperChar

@[simp] theorem upper_nil : upper [] = [] := rfl

@[simp] theorem upper_cons (c : Char) (t : Text) : upper (c :: t) = upperChar c ++ upper t := rfl

@[simp] theorem upper_append (s t : Text) : upper (s ++ t) = upper s ++ upper t := by
  simp [upper]

theorem upperChar_of_ascii {c : Char} (h : c.toNat < 0x80) : upperChar c = [c.toUpper] := by
  simp [upperChar, h]

/-- Beyond one character: the sharp s and the ligature of s and t. -/
example : upper "ßﬆ" = "SSST".toList := by decide +kernel

end Retarget.Text
