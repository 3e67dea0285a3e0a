/-
# Retarget.Text.Basic -- text as a list of characters

Source text is cut, trimmed and compared character by character, so it is a `List Char`: scans
are structural recursions and their laws are laws of lists.  A string literal stands for its
characters wherever text is expected.

`lines` and `unlines` cut a text at its newlines and put it together again;
`normalizeNewlines` reads the two other line endings, carriage return with or without a
newline after it, as newlines.
-/
namespace Retarget

set_option autoImplicit false

abbrev Text := List Char

instance : Coe String Text := ⟨String.toList⟩

namespace Text

/-- What is said of all characters of a text is decided one character after the other. -/
instance decidableForall {P : Char → Prop} [DecidablePred P] (t : Text) :
    Decidable (∀ c ∈ t, P c) := List.decidableBAll P t

/-- The decimal digits of a number, after a minus sign if it is negative. -/
def ofInt (n : Int) : Text := toString n

def ofNat (n : Nat) : Text := toString n

/-- Drop the characters at the end that satisfy `p`, up to the last one that does not. -/
def dropRightWhile (p : Char → Bool) (t : Text) : Text :=
  (t.reverse.dropWhile p).reverse

def join (separator : Text) (pieces : List Text) : Text :=
  separator.intercalate pieces

/-- The part before the first `mark`, and the part after it if there is one. -/
def cutAt (mark : Char) : Text → Text × Option Text
  | [] => ([], none)
  | c :: rest =>
      if c = mark then ([], some rest)
      else ((c :: (cutAt mark rest).1), (cutAt mark rest).2)

/-- The pieces between the occurrences of `mark`; a text without one is a single piece. -/
def piecesAt (mark : Char) (t : Text) : List Text :=
  t.foldr (fun c pieces =>
    if c = mark then [] :: pieces
    else match pieces with
      | [] => [[c]]
      | piece :: more => (c :: piece) :: more) [[]]

/-- The lines of a text: what stands between its newlines.  There is always at least one. -/
def lines (t : Text) : List Text := t.piecesAt '\n'

def unlines (ls : List Text) : Text := join ['\n'] ls

/-- Every carriage return, together with a newline directly after it, read as one newline. -/
def normalizeNewlines : Text → Text
  | [] => []
  | '\r' :: '\n' :: rest => '\n' :: normalizeNewlines rest
  | c :: rest => (if c = '\r' then '\n' else c) :: normalizeNewlines rest

@[simp] theorem piecesAt_nil (mark : Char) : piecesAt mark [] = [[]] := rfl

theorem piecesAt_cons_mark (mark : Char) (t : Text) :
    piecesAt mark (mark :: t) = [] :: piecesAt mark t := by
  simp [piecesAt]

theorem piecesAt_ne_nil (mark : Char) (t : Text) : piecesAt mark t ≠ [] := by
  induction t with
  | nil => simp
  | cons c rest ih =>
      rw [piecesAt, List.foldr_cons, ← piecesAt]
      split
      · simp
      · split <;> simp

theorem piecesAt_cons_of_ne {mark c : Char} (h : c ≠ mark) (t : Text) :
    piecesAt mark (c :: t) =
      (c :: (piecesAt mark t).head (piecesAt_ne_nil mark t)) :: (piecesAt mark t).tail := by
  have step : piecesAt mark (c :: t) = match piecesAt mark t with
      | [] => [[c]]
      | piece :: more => (c :: piece) :: more := by
    rw [piecesAt, List.foldr_cons, ← piecesAt, if_neg h]
  rw [step]
  split
  · rename_i none_left
    exact absurd none_left (piecesAt_ne_nil mark t)
  · rename_i piece more same
    simp [same]

theorem lines_ne_nil (t : Text) : t.lines ≠ [] := piecesAt_ne_nil '\n' t

end Text

end Retarget
