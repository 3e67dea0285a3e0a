/-
# Retarget.Text.Blank -- blank characters, trimming, and the first word

A blank is a character that separates words: the ASCII controls from tab to carriage return,
the four information separators, the space, next line, and the space separators and line and
paragraph separators of Unicode.  A zero-width space or a byte order mark is not one.

`trim` drops the blanks around a text; `cutWord` gives its first word and what follows it.
-/
import Retarget.Text.Basic

namespace Retarget.Text

set_option autoImplicit false

/-- The characters that separate words. -/
def blanks : List Char :=
  ['\t', '\n', '\x0b', '\x0c', '\r', '\x1c', '\x1d', '\x1e', '\x1f', ' ', '\u0085', '\u00a0',
   '\u1680', '\u2000', '\u2001', '\u2002', '\u2003', '\u2004', '\u2005', '\u2006', '\u2007',
   '\u2008', '\u2009', '\u200a', '\u2028', '\u2029', '\u202f', '\u205f', '\u3000']

def isBlank (c : Char) : Bool := blanks.contains c

/-- A space or a tab: what indents a line. -/
def isIndent (c : Char) : Bool := c == ' ' || c == '\t'

def trimLeft (t : Text) : Text := t.dropWhile isBlank

def trimRight (t : Text) : Text := t.dropRightWhile isBlank

def trim (t : Text) : Text := trimRight (trimLeft t)

/-- The first word of a text and the trimmed text after it.  Both are empty if there is no
word, and the second is empty exactly if there is no second word. -/
def cutWord (t : Text) : Text × Text :=
  let s := trim t
  (s.takeWhile (!isBlank ·), trim (s.dropWhile (!isBlank ·)))

theorem isBlank_iff (c : Char) : isBlank c = true ↔ c ∈ blanks := by
  simp [isBlank]

theorem isBlank_of_isIndent {c : Char} (h : isIndent c = true) : isBlank c = true := by
  simp only [isIndent, Bool.or_eq_true, beq_iff_eq] at h
  rcases h with rfl | rfl <;> decide

end Retarget.Text
