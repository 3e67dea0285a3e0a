/-
# Retarget.Text.Utf8 -- bytes and text

`encode` writes a text as UTF-8.  `decode` reads bytes strictly: overlong forms, surrogates and
code points past U+10FFFF are refused.  A refusal (`Fault`) names the offending bytes by their
position in the whole input: a byte that starts no character is a fault of its own, and a
sequence that breaks off covers its lead byte and the continuation bytes that were still good.

Reading what was written gives the text back (`decode_encode`).
-/
import Retarget.Text.Quoted

namespace Retarget

set_option autoImplicit false

abbrev Bytes := List UInt8

namespace Text.Utf8

def encode (t : Text) : Bytes := t.flatMap String.utf8EncodeChar

/-! ## Faults -/

/-- What is wrong with a sequence of bytes. -/
inductive Reason where
  /-- No character starts with this byte. -/
  | start
  /-- The byte after the sequence does not continue it. -/
  | continuation
  /-- The input ends inside the sequence. -/
  | ending
  deriving DecidableEq, Repr

def Reason.message : Reason → Text
  | .start => "invalid start byte"
  | .continuation => "invalid continuation byte"
  | .ending => "unexpected end of data"

/-- Bytes that are no UTF-8: the lead byte, its position, and how many bytes are at fault. -/
structure Fault where
  lead : UInt8
  position : Nat
  length : Nat
  reason : Reason
  deriving DecidableEq, Repr

/-- The fault as it is reported: one byte by its value, several by their positions. -/
def Fault.message (f : Fault) : Text :=
  "'utf-8' codec can't decode " ++
    (if f.length = 1 then
      "byte 0x" ++ hexadecimal 2 f.lead.toNat ++ " in position " ++ ofNat f.position
    else
      "bytes in position " ++ ofNat f.position ++ "-" ++ ofNat (f.position + f.length - 1)) ++
    ": " ++ f.reason.message

/-! ## Reading -/

/-- The form of a multi-byte sequence, as its lead byte announces it. -/
structure Lead where
  /-- The bits of the code point that the lead byte carries. -/
  bits : Nat
  /-- How many bytes follow the next one. -/
  more : Nat
  /-- The range of the next byte. -/
  low : Nat := 0x80
  high : Nat := 0xBF

/-- The sequence a byte starts, if it is no ASCII character and starts one. -/
def lead? (b : UInt8) : Option Lead :=
  let n := b.toNat
  if n < 0xC2 then none
  else if n < 0xE0 then some { bits := n - 0xC0, more := 0 }
  else if n = 0xE0 then some { bits := 0, more := 1, low := 0xA0 }
  else if n = 0xED then some { bits := 0xD, more := 1, high := 0x9F }
  else if n < 0xF0 then some { bits := n - 0xE0, more := 1 }
  else if n = 0xF0 then some { bits := 0, more := 2, low := 0x90 }
  else if n < 0xF4 then some { bits := n - 0xF0, more := 2 }
  else if n = 0xF4 then some { bits := 4, more := 2, high := 0x8F }
  else none

inductive State where
  /-- Between two characters. -/
  | ready
  /-- Inside a sequence: its lead byte, how many of its bytes were read, the code point's bits so
  far, how many bytes follow the next one, and the range of the next one. -/
  | inside (lead : UInt8) (read bits more low high : Nat)

/-- Read bytes; `position` is that of the next byte. -/
def decodeFrom : State → Nat → Bytes → Except Fault Text
  | .ready, _, [] => .ok []
  | .inside lead read _ _ _ _, position, [] => .error ⟨lead, position - read, read, .ending⟩
  | .ready, position, b :: rest =>
      if b.toNat < 0x80 then
        (Char.ofNat b.toNat :: ·) <$> decodeFrom .ready (position + 1) rest
      else match lead? b with
        | none => .error ⟨b, position, 1, .start⟩
        | some l => decodeFrom (.inside b 1 l.bits l.more l.low l.high) (position + 1) rest
  | .inside lead read bits more low high, position, b :: rest =>
      if low ≤ b.toNat ∧ b.toNat ≤ high then
        let bits := bits * 0x40 + (b.toNat - 0x80)
        match more with
        | 0 => (Char.ofNat bits :: ·) <$> decodeFrom .ready (position + 1) rest
        | more + 1 =>
            decodeFrom (.inside lead (read + 1) bits more 0x80 0xBF) (position + 1) rest
      else .error ⟨lead, position - read, read, .continuation⟩

def decode (bytes : Bytes) : Except Fault Text := decodeFrom .ready 0 bytes

/-! ## Reading what was written -/

theorem toNat_ofNat_of_lt {n : Nat} (h : n < 0x100) : (UInt8.ofNat n).toNat = n := by
  simp [UInt8.toNat_ofNat', Nat.mod_eq_of_lt h]

theorem decodeFrom_ascii {n : Nat} (h : n < 0x80) (position : Nat) (rest : Bytes) :
    decodeFrom .ready position (.ofNat n :: rest) =
      (Char.ofNat n :: ·) <$> decodeFrom .ready (position + 1) rest := by
  have byte : (UInt8.ofNat n).toNat = n := toNat_ofNat_of_lt (by omega)
  rw [decodeFrom, byte, if_pos h]

theorem decodeFrom_lead {b : UInt8} {bits more low high : Nat}
    (h : lead? b = some ⟨bits, more, low, high⟩) (position : Nat) (rest : Bytes) :
    decodeFrom .ready position (b :: rest) =
      decodeFrom (.inside b 1 bits more low high) (position + 1) rest := by
  have beyond : ¬ b.toNat < 0x80 := by
    intro ascii
    rw [lead?, if_pos (by omega)] at h
    cases h
  rw [decodeFrom, if_neg beyond, h]

theorem decodeFrom_last {lead : UInt8} {n read bits low high : Nat} (byte : n < 0x40)
    (least : low ≤ n + 0x80) (most : n + 0x80 ≤ high) (position : Nat) (rest : Bytes) :
    decodeFrom (.inside lead read bits 0 low high) position (.ofNat (n + 0x80) :: rest) =
      (Char.ofNat (bits * 0x40 + n) :: ·) <$> decodeFrom .ready (position + 1) rest := by
  have same : (UInt8.ofNat (n + 0x80)).toNat = n + 0x80 := toNat_ofNat_of_lt (by omega)
  rw [decodeFrom, same, if_pos ⟨least, most⟩, Nat.add_sub_cancel]

theorem decodeFrom_more {lead : UInt8} {n read bits more low high : Nat} (byte : n < 0x40)
    (least : low ≤ n + 0x80) (most : n + 0x80 ≤ high) (position : Nat) (rest : Bytes) :
    decodeFrom (.inside lead read bits (more + 1) low high) position (.ofNat (n + 0x80) :: rest) =
      decodeFrom (.inside lead (read + 1) (bits * 0x40 + n) more 0x80 0xBF) (position + 1)
        rest := by
  have same : (UInt8.ofNat (n + 0x80)).toNat = n + 0x80 := toNat_ofNat_of_lt (by omega)
  rw [decodeFrom, same, if_pos ⟨least, most⟩, Nat.add_sub_cancel]

/-- A lead byte of two announces its five bits, unless the sequence is overlong. -/
theorem lead?_two {n : Nat} (least : 2 ≤ n) (most : n < 0x20) :
    lead? (.ofNat (n + 0xC0)) = some ⟨n, 0, 0x80, 0xBF⟩ := by
  have same : (UInt8.ofNat (n + 0xC0)).toNat = n + 0xC0 := toNat_ofNat_of_lt (by omega)
  rw [lead?, same, if_neg (by omega), if_pos (by omega), Nat.add_sub_cancel]

/-- A lead byte of three announces its four bits, and takes every next byte that leads neither to
an overlong form nor to a surrogate. -/
theorem lead?_three {n : Nat} (most : n < 0x10) :
    ∃ low high, lead? (.ofNat (n + 0xE0)) = some ⟨n, 1, low, high⟩ ∧
      ∀ m < 0x40, 0x20 ≤ n * 0x40 + m → n * 0x40 + m < 0x360 ∨ 0x380 ≤ n * 0x40 + m →
        low ≤ m + 0x80 ∧ m + 0x80 ≤ high := by
  have same : (UInt8.ofNat (n + 0xE0)).toNat = n + 0xE0 := toNat_ofNat_of_lt (by omega)
  rw [lead?, same]
  by_cases first : n = 0
  · subst first
    exact ⟨0xA0, 0xBF, by simp, by omega⟩
  by_cases surrogate : n = 0xD
  · subst surrogate
    exact ⟨0x80, 0x9F, by simp, by omega⟩
  refine ⟨0x80, 0xBF, ?_, by omega⟩
  rw [if_neg (by omega), if_neg (by omega), if_neg (by omega), if_neg (by omega),
    if_pos (by omega), Nat.add_sub_cancel]

/-- A lead byte of four announces its bits, and takes every next byte that leads neither to an
overlong form nor past the last code point. -/
theorem lead?_four {n : Nat} (most : n < 5) :
    ∃ low high, lead? (.ofNat (n + 0xF0)) = some ⟨n, 2, low, high⟩ ∧
      ∀ m < 0x40, 0x10 ≤ n * 0x40 + m → n * 0x40 + m < 0x110 →
        low ≤ m + 0x80 ∧ m + 0x80 ≤ high := by
  have same : (UInt8.ofNat (n + 0xF0)).toNat = n + 0xF0 := toNat_ofNat_of_lt (by omega)
  rw [lead?, same]
  by_cases first : n = 0
  · subst first
    exact ⟨0x90, 0xBF, by simp, by omega⟩
  by_cases last : n = 4
  · subst last
    exact ⟨0x80, 0x8F, by simp, by omega⟩
  refine ⟨0x80, 0xBF, ?_, by omega⟩
  rw [if_neg (by omega), if_neg (by omega), if_neg (by omega), if_neg (by omega),
    if_neg (by omega), if_neg (by omega), if_pos (by omega), Nat.add_sub_cancel]

/-- Reading what was written for a character gives the character back. -/
theorem decodeFrom_encodeChar (c : Char) (position : Nat) (rest : Bytes) :
    decodeFrom .ready position (String.utf8EncodeChar c ++ rest) =
      (c :: ·) <$> decodeFrom .ready (position + (String.utf8EncodeChar c).length) rest := by
  have valid := c.valid
  simp only [UInt32.isValidChar, Nat.isValidChar] at valid
  obtain ⟨n, code⟩ : ∃ n, c.val.toNat = n := ⟨_, rfl⟩
  have same : Char.ofNat n = c := code ▸ Char.ofNat_toNat c
  rw [code] at valid
  simp only [String.utf8EncodeChar, code]
  split
  · simp only [List.cons_append, List.nil_append, List.length_cons, List.length_nil]
    rw [decodeFrom_ascii (by omega), same]
  split
  · simp only [List.cons_append, List.nil_append, List.length_cons, List.length_nil]
    rw [decodeFrom_lead (lead?_two (by omega) (by omega)),
      decodeFrom_last (by omega) (by omega) (by omega),
      show n / 64 % 32 * 0x40 + n % 64 = n by omega, same]
  split
  · simp only [List.cons_append, List.nil_append, List.length_cons, List.length_nil]
    obtain ⟨low, high, lead, range⟩ := lead?_three (n := n / 4096 % 16) (by omega)
    obtain ⟨least, most⟩ := range (n / 64 % 64) (by omega) (by omega) (by omega)
    rw [decodeFrom_lead lead, decodeFrom_more (by omega) least most,
      decodeFrom_last (by omega) (by omega) (by omega),
      show (n / 4096 % 16 * 0x40 + n / 64 % 64) * 0x40 + n % 64 = n by omega, same]
  · simp only [List.cons_append, List.nil_append, List.length_cons, List.length_nil]
    obtain ⟨low, high, lead, range⟩ := lead?_four (n := n / 262144 % 8) (by omega)
    obtain ⟨least, most⟩ := range (n / 4096 % 64) (by omega) (by omega) (by omega)
    rw [decodeFrom_lead lead, decodeFrom_more (by omega) least most,
      decodeFrom_more (by omega) (by omega) (by omega),
      decodeFrom_last (by omega) (by omega) (by omega),
      show ((n / 262144 % 8 * 0x40 + n / 4096 % 64) * 0x40 + n / 64 % 64) * 0x40 + n % 64 = n
        by omega, same]

theorem decodeFrom_encode (t : Text) (position : Nat) :
    decodeFrom .ready position (encode t) = .ok t := by
  induction t generalizing position with
  | nil => rfl
  | cons c rest ih =>
      rw [encode, List.flatMap_cons, ← encode, decodeFrom_encodeChar, ih]
      rfl

/-- Reading what was written gives the text back. -/
theorem decode_encode (t : Text) : decode (encode t) = .ok t := decodeFrom_encode t 0

end Text.Utf8

end Retarget
