/-
# Retarget.Proofs.Text.Decoding -- only UTF-8 is read as text

That reading gives back what was written is one half of being strict.  The other half is here: the
bytes that are read as a text are the bytes of that text (`decode_eq_ok_iff`), so no two sequences
of bytes are read alike, and bytes that no text is written as are refused.

Inside a character the reader knows the bits it has seen and the range of the next byte.
`Completes` says that this is enough: whatever bytes of the announced ranges come next, the
character that is then read is written as the bytes seen and those.
-/
import Retarget.Proofs.Fallible
import Retarget.Text.Utf8

namespace Retarget.Text.Utf8

set_option autoImplicit false

/-- Every way to complete a character gives one that is written as the bytes seen so far and those
that complete it. -/
def Completes (seen : Bytes) (bits low high : Nat) : Nat → Prop
  | 0 => ∀ b : UInt8, low ≤ b.toNat → b.toNat ≤ high →
      String.utf8EncodeChar (Char.ofNat (bits * 0x40 + (b.toNat - 0x80))) = seen ++ [b]
  | more + 1 => ∀ b : UInt8, low ≤ b.toNat → b.toNat ≤ high →
      Completes (seen ++ [b]) (bits * 0x40 + (b.toNat - 0x80)) 0x80 0xBF more

/-- What the state of the reader says about the bytes of the character it is in. -/
def State.Follows : State → Bytes → Prop
  | .ready, seen => seen = []
  | .inside _ _ bits more low high, seen => Completes seen bits low high more

/-! ## Writing a character of a known code -/

section Written

variable {n : Nat}

theorem val_ofNat (valid : n.isValidChar) : (Char.ofNat n).val.toNat = n := by
  rw [Char.ofNat, dif_pos valid]
  rfl

theorem ofNat_eq {b : UInt8} (same : n = b.toNat) : UInt8.ofNat n = b := by
  rw [same, UInt8.ofNat_toNat]

theorem utf8EncodeChar_one {b : UInt8} (ascii : b.toNat < 0x80) :
    String.utf8EncodeChar (Char.ofNat b.toNat) = [b] := by
  have valid : b.toNat.isValidChar := .inl (by omega)
  simp only [String.utf8EncodeChar, val_ofNat valid]
  rw [if_pos (by omega), UInt8.ofNat_toNat]

theorem utf8EncodeChar_two {b c : UInt8} (least : 0x80 ≤ n) (most : n < 0x800)
    (first : n / 64 + 0xC0 = b.toNat) (second : n % 64 + 0x80 = c.toNat) :
    String.utf8EncodeChar (Char.ofNat n) = [b, c] := by
  have valid : n.isValidChar := .inl (by omega)
  have lead : n / 64 % 32 + 0xC0 = b.toNat := by omega
  simp only [String.utf8EncodeChar, val_ofNat valid]
  rw [if_neg (by omega), if_pos (by omega), ofNat_eq lead, ofNat_eq second]

theorem utf8EncodeChar_three {b c d : UInt8} (least : 0x800 ≤ n) (most : n < 0x10000)
    (scalar : n < 0xD800 ∨ 0xDFFF < n) (first : n / 4096 + 0xE0 = b.toNat)
    (second : n / 64 % 64 + 0x80 = c.toNat) (third : n % 64 + 0x80 = d.toNat) :
    String.utf8EncodeChar (Char.ofNat n) = [b, c, d] := by
  have valid : n.isValidChar := scalar.imp id (fun above => ⟨above, by omega⟩)
  have lead : n / 4096 % 16 + 0xE0 = b.toNat := by omega
  simp only [String.utf8EncodeChar, val_ofNat valid]
  rw [if_neg (by omega), if_neg (by omega), if_pos (by omega), ofNat_eq lead, ofNat_eq second,
    ofNat_eq third]

theorem utf8EncodeChar_four {b c d e : UInt8} (least : 0x10000 ≤ n) (most : n < 0x110000)
    (first : n / 262144 + 0xF0 = b.toNat) (second : n / 4096 % 64 + 0x80 = c.toNat)
    (third : n / 64 % 64 + 0x80 = d.toNat) (fourth : n % 64 + 0x80 = e.toNat) :
    String.utf8EncodeChar (Char.ofNat n) = [b, c, d, e] := by
  have valid : n.isValidChar := .inr ⟨by omega, most⟩
  have lead : n / 262144 % 8 + 0xF0 = b.toNat := by omega
  simp only [String.utf8EncodeChar, val_ofNat valid]
  rw [if_neg (by omega), if_neg (by omega), if_neg (by omega), ofNat_eq lead, ofNat_eq second,
    ofNat_eq third, ofNat_eq fourth]

end Written

/-! ## A lead byte announces what completes it -/

section Lead

variable {b : UInt8} {bits low high : Nat}

theorem completes_two (least : 2 ≤ bits) (most : bits < 0x20) (lead : b.toNat = bits + 0xC0) :
    Completes [b] bits 0x80 0xBF 0 := by
  intro c above below
  apply utf8EncodeChar_two <;> omega

theorem completes_three (most : bits < 0x10) (lead : b.toNat = bits + 0xE0) (continues : 0x80 ≤ low)
    (ends : high ≤ 0xBF) (long : bits = 0 → 0xA0 ≤ low) (scalar : bits = 0xD → high ≤ 0x9F) :
    Completes [b] bits low high 1 := by
  intro c above below d aboveLast belowLast
  apply utf8EncodeChar_three <;> omega

theorem completes_four (most : bits < 5) (lead : b.toNat = bits + 0xF0) (continues : 0x80 ≤ low)
    (ends : high ≤ 0xBF) (long : bits = 0 → 0x90 ≤ low) (last : bits = 4 → high ≤ 0x8F) :
    Completes [b] bits low high 2 := by
  intro c above below d aboveNext belowNext e aboveLast belowLast
  apply utf8EncodeChar_four <;> omega

theorem completes_of_lead? {l : Lead} (found : lead? b = some l) :
    Completes [b] l.bits l.low l.high l.more := by
  simp only [lead?] at found
  split at found
  · contradiction
  split at found
  · obtain rfl := Option.some.inj found
    apply completes_two <;> simp only <;> omega
  split at found
  · obtain rfl := Option.some.inj found
    apply completes_three <;> simp only <;> omega
  split at found
  · obtain rfl := Option.some.inj found
    apply completes_three <;> simp only <;> omega
  split at found
  · obtain rfl := Option.some.inj found
    apply completes_three <;> simp only <;> omega
  split at found
  · obtain rfl := Option.some.inj found
    apply completes_four <;> simp only <;> omega
  split at found
  · obtain rfl := Option.some.inj found
    apply completes_four <;> simp only <;> omega
  split at found
  · obtain rfl := Option.some.inj found
    apply completes_four <;> simp only <;> omega
  · contradiction

end Lead

/-! ## What was read -/

theorem encode_cons (c : Char) (t : Text) : encode (c :: t) = String.utf8EncodeChar c ++ encode t :=
  List.flatMap_cons

/-- The bytes of the character that the reader is in and those still to be read are the bytes of the
text that is read. -/
theorem encode_of_decodeFrom {state : State} {position : Nat} {bytes seen : Bytes} {t : Text}
    (follows : state.Follows seen) (decoded : decodeFrom state position bytes = .ok t) :
    encode t = seen ++ bytes := by
  -- `Follows` carries the bytes before the reader through the induction: a lead byte sets it up,
  -- a continuation byte takes one step in `Completes`, and a character that ends discharges it.
  fun_induction decodeFrom state position bytes generalizing seen t with
  | case1 =>
      cases follows
      cases decoded
      rfl
  | case2 | case4 | case8 => contradiction
  | case3 position b rest ascii ih =>
      cases follows
      obtain ⟨later, read, rfl⟩ := (except_map_eq_ok_iff _ _ _).mp decoded
      rw [encode_cons, utf8EncodeChar_one ascii, ih rfl read]
      rfl
  | case5 position b rest beyond l found ih =>
      cases follows
      exact ih (completes_of_lead? found) decoded
  | case6 lead read bits low high position b rest range known =>
      rename_i ih
      obtain ⟨later, read, rfl⟩ := (except_map_eq_ok_iff _ _ _).mp decoded
      rw [encode_cons, follows b range.1 range.2, ih rfl read]
      simp
  | case7 lead read bits low high position b rest range known more =>
      rename_i ih
      have next := ih (follows b range.1 range.2) decoded
      simpa using next

/-- **Bytes are read as a text if and only if they are the bytes of that text.** -/
theorem decode_eq_ok_iff {bytes : Bytes} {t : Text} : decode bytes = .ok t ↔ bytes = encode t := by
  constructor
  · intro decoded
    have fresh : State.ready.Follows [] := rfl
    exact (encode_of_decodeFrom fresh decoded).symm
  · rintro rfl
    exact decode_encode t

theorem encode_injective {s t : Text} (same : encode s = encode t) : s = t := by
  have read : decode (encode s) = .ok t := decode_eq_ok_iff.mpr same
  rw [decode_encode] at read
  exact Except.ok.inj read

end Retarget.Text.Utf8
