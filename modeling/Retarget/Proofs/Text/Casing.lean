/-
# Retarget.Proofs.Text.Casing -- what a change to upper case keeps

Upper case is a map of characters, and most of what is needed of it is about the few that matter
to the grammar: a quote, a semicolon or a bracket stays what it is (`mem_upper_of_fixed`), a
newline never appears (`newline_mem_upper`), and a word that differs from a name in ASCII only by
the case of its letters becomes that name (`upper_of_spells`).  Two characters beyond ASCII have an
upper case in it: the dotless i and the long s (`toUpper_of_upperChar`).
-/
import Retarget.Text.Uppercase
import Mathlib.Data.List.Basic

namespace Retarget.Text

set_option autoImplicit false

/-- The word is the name with each of its ASCII letters in either case. -/
def Spells (word name : Text) : Prop := word.map Char.toUpper = name

instance (word name : Text) : Decidable (Spells word name) := inferInstanceAs (Decidable (_ = _))

/-- An ASCII character that has no other upper case stays where it is. -/
theorem mem_upper_of_fixed {c : Char} (ascii : c.toNat < 0x80) (fixed : c.toUpper = c) {t : Text}
    (member : c ∈ t) : c ∈ upper t := by
  refine List.mem_flatMap.mpr ⟨c, member, ?_⟩
  rw [upperChar_of_ascii ascii, fixed]
  exact List.mem_singleton.mpr rfl

/-- Core's upper case leaves every character beyond ASCII alone. -/
theorem toNat_lt_of_toUpper {c : Char} (ascii : c.toUpper.toNat < 0x80) : c.toNat < 0x80 := by
  unfold Char.toUpper at ascii
  split at ascii
  · rename_i lower
    have top : c.val ≤ 'z'.val := lower.2
    exact Nat.lt_of_le_of_lt (UInt32.le_iff_toNat_le.mp top) (by decide)
  · exact ascii

/-- A word spelled in any case is, in upper case, the name it spells. -/
theorem upper_of_spells {word name : Text} (ascii : ∀ c ∈ name, c.toNat < 0x80)
    (spells : Spells word name) : upper word = name := by
  subst spells
  induction word with
  | nil => rfl
  | cons c rest ih =>
      have here : c.toNat < 0x80 := toNat_lt_of_toUpper (ascii c.toUpper (by simp))
      have there := ih (fun d member => ascii d (List.mem_cons_of_mem _ member))
      rw [upper_cons, upperChar_of_ascii here, there]
      rfl

/-- A character that has no other upper case is in the word only if it is in the name. -/
theorem mem_of_spells {word name : Text} (spells : Spells word name) {c : Char}
    (fixed : c.toUpper = c) (member : c ∈ word) : c ∈ name := by
  rw [← spells]
  exact List.mem_map.mpr ⟨c, member, fixed⟩

/-- What has a given upper case is that character or its lower case. -/
theorem eq_or_eq_toLower {c d : Char} (same : c.toUpper = d) : c = d ∨ c = d.toLower := by
  unfold Char.toUpper at same
  split at same
  · rename_i lower
    have low : 'a'.val.toNat ≤ c.val.toNat := UInt32.le_iff_toNat_le.mp lower.1
    have high : c.val.toNat ≤ 'z'.val.toNat := UInt32.le_iff_toNat_le.mp lower.2
    have code := congrArg (fun d => d.val.toNat) same
    have start : 'a'.val.toNat = 97 := by decide
    have finish : 'z'.val.toNat = 122 := by decide
    have first : 'A'.val.toNat = 65 := by decide
    have last : 'Z'.val.toNat = 90 := by decide
    have up : ('A'.val - 'a'.val).toNat = 4294967264 := by decide
    have down : ('a'.val - 'A'.val).toNat = 32 := by decide
    simp only [UInt32.toNat_add, up] at code
    have capital : d.val ≥ 'A'.val ∧ d.val ≤ 'Z'.val := by
      rw [ge_iff_le, UInt32.le_iff_toNat_le, UInt32.le_iff_toNat_le]
      omega
    right
    unfold Char.toLower
    rw [dif_pos capital]
    apply Char.ext
    apply UInt32.toNat.inj
    simp only [UInt32.toNat_add, down]
    omega
  · exact .inl same

/-- Only a capital letter is the upper case of another character. -/
theorem eq_of_toUpper {c d : Char} (other : d.isUpper = false) (same : c.toUpper = d) : c = d := by
  have outside : ¬ (d.val ≥ 'A'.val ∧ d.val ≤ 'Z'.val) := of_decide_eq_false other
  rcases eq_or_eq_toLower same with here | lower
  · exact here
  · unfold Char.toLower at lower
    rwa [dif_neg outside] at lower

/-! ## Characters beyond ASCII -/

/-- What is not a code point becomes the null character; every other character has one number. -/
theorem eq_toNat_of_ofNat {n : Nat} {c : Char} (some_char : c ≠ '\x00') (same : Char.ofNat n = c) :
    n = c.toNat := by
  by_cases valid : n.isValidChar
  · rw [Char.ofNat, dif_pos valid] at same
    exact congrArg Char.toNat same
  · rw [Char.ofNat, dif_neg valid] at same
    exact absurd same.symm some_char

theorem expansions_long : ∀ entry ∈ expansions, 2 ≤ entry.2.length := by
  decide +kernel

/-- Two runs lead into ASCII, each with a single member: the dotless i and the long s. -/
theorem caseRuns_beyond : ∀ run ∈ caseRuns, (0x80 : Int) ≤ run.first + run.shift ∨
    (run.first = run.last ∧ (run.first = 'ı'.toNat ∨ run.first = 'ſ'.toNat)) := by
  decide +kernel

theorem mem_expansions {n : Nat} {codes : List Nat} (found : expansions.lookup n = some codes) :
    (n, codes) ∈ expansions := by
  obtain ⟨before, after, split, -⟩ := List.lookup_eq_some_iff.mp found
  rw [split]
  simp

theorem upperChar_ne_nil (c : Char) : upperChar c ≠ [] := by
  unfold upperChar
  split
  · simp
  · unfold upperBeyondAscii
    split
    · rename_i codes found
      have long : 2 ≤ codes.length := expansions_long _ (mem_expansions found)
      intro empty
      rw [List.map_eq_nil_iff.mp empty] at long
      simp at long
    · split <;> simp

/-- **Beyond ASCII, only the dotless i and the long s have an upper case in ASCII.** -/
theorem toUpper_of_upperChar {c d : Char} (ascii : d.toNat < 0x80) (some_char : d ≠ '\x00')
    (same : upperChar c = [d]) : c.toUpper = d ∨ c = 'ı' ∨ c = 'ſ' := by
  unfold upperChar at same
  split at same
  · exact .inl (List.singleton_inj.mp same)
  · rename_i beyond
    unfold upperBeyondAscii at same
    split at same
    · rename_i codes found
      have long : 2 ≤ codes.length := expansions_long _ (mem_expansions found)
      have short := congrArg List.length same
      rw [List.length_map, List.length_singleton] at short
      omega
    · split at same
      · rename_i run found
        have inRun := List.find?_some found
        have image := eq_toNat_of_ofNat some_char (List.singleton_inj.mp same)
        simp only [CaseRun.contains, Bool.and_eq_true, decide_eq_true_eq] at inRun
        unfold CaseRun.image at image
        rcases caseRuns_beyond run (List.mem_of_find?_eq_some found) with
          far | ⟨alone, dotless | long⟩
        · omega
        · exact .inr (.inl (Char.toNat_inj.mp (by omega)))
        · exact .inr (.inr (Char.toNat_inj.mp (by omega)))
      · rw [List.singleton_inj.mp same] at beyond
        exact absurd ascii beyond

/-- A text whose upper case is one character is one character. -/
theorem exists_of_upper_eq_singleton {t : Text} {d : Char} (same : upper t = [d]) :
    ∃ c, t = [c] ∧ upperChar c = [d] := by
  cases t with
  | nil => simp at same
  | cons c rest =>
      rw [upper_cons] at same
      rcases List.append_eq_singleton_iff.mp same with ⟨none_left, -⟩ | ⟨one, none_left⟩
      · exact absurd none_left (upperChar_ne_nil c)
      · cases rest with
        | nil => exact ⟨c, rfl, one⟩
        | cons b more =>
            rw [upper_cons] at none_left
            exact absurd (List.append_eq_nil_iff.mp none_left).1 (upperChar_ne_nil b)

/-! ## Newlines -/

theorem newline_notMem_expansions : ∀ entry ∈ expansions, ∀ code ∈ entry.2,
    Char.ofNat code ≠ '\n' := by
  decide +kernel

theorem newline_lt_caseRuns : ∀ run ∈ caseRuns, (10 : Int) < run.first + run.shift := by
  decide +kernel

theorem newline_of_toUpper {c : Char} (same : c.toUpper = '\n') : c = '\n' :=
  eq_of_toUpper (by decide) same

/-- Upper case makes no newlines. -/
theorem newline_of_mem_upperChar {c : Char} (member : '\n' ∈ upperChar c) : c = '\n' := by
  unfold upperChar at member
  split at member
  · exact newline_of_toUpper (List.mem_singleton.mp member).symm
  · unfold upperBeyondAscii at member
    split at member
    · rename_i codes found
      obtain ⟨code, listed, same⟩ := List.mem_map.mp member
      exact absurd same (newline_notMem_expansions _ (mem_expansions found) code listed)
    · split at member
      · rename_i run found
        have inRun := List.find?_some found
        have far := newline_lt_caseRuns run (List.mem_of_find?_eq_some found)
        have code : run.image c.toNat = 10 :=
          eq_toNat_of_ofNat (by decide) (List.mem_singleton.mp member).symm
        simp only [CaseRun.contains, Bool.and_eq_true, decide_eq_true_eq] at inRun
        unfold CaseRun.image at code
        omega
      · exact (List.mem_singleton.mp member).symm

theorem newline_mem_upper {t : Text} (member : '\n' ∈ upper t) : '\n' ∈ t := by
  obtain ⟨c, listed, newline⟩ := List.mem_flatMap.mp member
  rw [← newline_of_mem_upperChar newline]
  exact listed

end Retarget.Text
