/-
# Retarget.Text.Quoted -- text between quotes, with escapes

Messages that show a piece of text put it between quotes so that every character can be seen.
`quoted` uses the single quote, or the double quote for a text that holds a single and no
double quote.  A backslash and the quote in use are escaped, tab, newline and carriage return
have letters, and any other character without a printed form is written as its code point in
hexadecimal, in the shortest of three widths.
-/
import Retarget.Text.Basic
import Retarget.Text.PrintableTable

namespace Retarget.Text

set_option autoImplicit false

def isPrinted (c : Char) : Bool :=
  let n := c.toNat
  if n < 0x7f then 0x20 ≤ n else !unprintedRanges.any fun (low, high) => low ≤ n && n ≤ high

/-- The number in hexadecimal, with leading zeros up to `width` digits. -/
def hexadecimal (width n : Nat) : Text :=
  let digits := Nat.toDigits 16 n
  List.replicate (width - digits.length) '0' ++ digits

/-- A code point as an escape: two, four or eight hexadecimal digits. -/
def escapedCode (n : Nat) : Text :=
  if n < 0x100 then "\\x" ++ hexadecimal 2 n
  else if n < 0x10000 then "\\u" ++ hexadecimal 4 n
  else "\\U" ++ hexadecimal 8 n

/-- One character inside quotes of the given kind. -/
def escaped (quote c : Char) : Text :=
  if c = quote ∨ c = '\\' then ['\\', c]
  else if c = '\t' then "\\t"
  else if c = '\n' then "\\n"
  else if c = '\r' then "\\r"
  else if isPrinted c then [c]
  else escapedCode c.toNat

/-- The quote a text is shown in. -/
def quoteFor (t : Text) : Char :=
  if t.contains '\'' && !t.contains '"' then '"' else '\''

def quoted (t : Text) : Text :=
  let quote := quoteFor t
  quote :: t.flatMap (escaped quote) ++ [quote]

/-- A single quote alone turns the quotes into double ones; with a double quote it is escaped. -/
example : quoted "it's" = "\"it's\"".toList ∧ quoted "'\"" = "'\\'\"'".toList := by decide +kernel

example : quoted "a\tb\u00a0" = "'a\\tb\\xa0'".toList := by decide +kernel

end Retarget.Text
