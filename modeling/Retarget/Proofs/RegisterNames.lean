/-
# Retarget.Proofs.RegisterNames -- which texts name a register

The register file has sixteen names, each a letter in upper or in lower case (`IsRegisterName`).
A text is looked up without the blanks around it and in upper case, and upper case goes beyond
ASCII: the long s becomes an S.  So the texts that name a register are the sixteen names and the
long s (`standard_contains_iff_name`), and every other text is refused by name.

A register is never written like a marked operand, so wherever a register may stand a text that
names one is taken for it (`among_eq_register_iff`).
-/
import Mathlib.Data.List.TFAE
import Retarget.Proofs.Brackets

namespace Retarget

set_option autoImplicit false

open Text (trim)

/-! ## Letters in either case -/

/-- The letters of the register file, in its order. -/
def registerLetters : Text := "AXYZBCDEFGHSTUVW"

/-- The IE64 register for a letter: they are numbered in the order of the register file. -/
def letterTarget (c : Char) : Text := "r" ++ Text.ofNat (registerLetters.idxOf c + 1)

def letterRegister (c : Char) : Register := ⟨[c], letterTarget c⟩

/-- The text is a letter of the register file, in upper or in lower case. -/
def IsRegisterName (name : Text) : Prop :=
  ∃ c ∈ registerLetters, name = [c] ∨ name = [c.toLower]

theorem standard_entries : RegisterMap.standard.table.entries =
    registerLetters.map fun c => ([c], letterTarget c) := by
  decide +kernel

/-- A register of the file is that of one of the letters. -/
theorem standard_lists_iff (r : Register) :
    RegisterMap.standard.Lists r ↔ ∃ c ∈ registerLetters, r = letterRegister c := by
  rw [RegisterMap.Lists, standard_entries, List.mem_map]
  constructor
  · rintro ⟨c, letter, same⟩
    refine ⟨c, letter, ?_⟩
    cases r
    cases same
    rfl
  · rintro ⟨c, letter, rfl⟩
    exact ⟨c, letter, rfl⟩

theorem toUpper_registerLetters : ∀ c ∈ registerLetters, c.toUpper = c ∧ c.toLower.toUpper = c := by
  decide +kernel

/-- A letter of the file spells its own register, and so does its lower case. -/
theorem exists_letter_of_mem {c : Char} (letter : c ∈ registerLetters) {name : Text}
    (spelled : name = [c] ∨ name = [c.toLower]) :
    ∃ l : IE32.Letter, l.text = name ∧ l.register = letterRegister c := by
  obtain ⟨upper, lower⟩ := toUpper_registerLetters c letter
  have listed := (standard_lists_iff (letterRegister c)).mpr ⟨c, letter, rfl⟩
  refine ⟨⟨letterRegister c, name, listed, ?_⟩, rfl, rfl⟩
  rcases spelled with rfl | rfl
  · show [c.toUpper] = [c]
    rw [upper]
  · show [c.toLower.toUpper] = [c]
    rw [lower]

/-- The letters that spell a register are the sixteen names. -/
theorem isLetter_iff_name (name : Text) : IE32.IsLetter name ↔ IsRegisterName name := by
  constructor
  · rintro ⟨l, rfl⟩
    obtain ⟨c, letter, same⟩ := (standard_lists_iff l.register).mp l.listed
    have spells : l.text.map Char.toUpper = [c] := by
      have spelled := l.spells
      rwa [same] at spelled
    obtain ⟨d, one, upper⟩ := List.map_eq_singleton_iff.mp spells
    refine ⟨c, letter, ?_⟩
    rcases Text.eq_or_eq_toLower upper with rfl | rfl
    · exact .inl one
    · exact .inr one
  · rintro ⟨c, letter, spelled⟩
    obtain ⟨l, text, -⟩ := exists_letter_of_mem letter spelled
    exact ⟨l, text⟩

/-! ## Looking a text up -/

section LookUp

variable {t : Text}

/-- What names a register: the sixteen names, and the long s. -/
theorem standard_contains_iff_name (t : Text) :
    RegisterMap.standard.contains t = true ↔ IsRegisterName (trim t) ∨ trim t = "ſ" := by
  rw [IE32.standard_contains_iff, ← isLetter_iff_name]
  rfl

theorem standard_lookup_letter {c : Char} (letter : c ∈ registerLetters)
    (spelled : trim t = [c] ∨ trim t = [c.toLower]) :
    RegisterMap.standard.lookup t = .ok (letterRegister c) := by
  obtain ⟨l, text, register⟩ := exists_letter_of_mem letter spelled
  rw [RegisterMap.lookup_eq_ok_iff, ← register]
  exact l.find?_eq text.symm

/-- The long s is looked up as an S. -/
theorem standard_lookup_longS (long : trim t = "ſ") :
    RegisterMap.standard.lookup t = .ok (letterRegister 'S') := by
  have upper : Text.upper "ſ" = ['S'] := by decide +kernel
  rw [RegisterMap.lookup_eq_ok_iff, RegisterMap.find?_eq_some_iff, long]
  refine ⟨upper.symm, ?_⟩
  exact (standard_lists_iff _).mpr ⟨'S', by decide, rfl⟩

theorem not_isRegisterName_longS : ¬ IsRegisterName "ſ" := by
  intro name
  obtain ⟨l, text⟩ := (isLetter_iff_name _).mpr name
  exact l.text_ne_longS text

/-- No marked operand names a register. -/
theorem unmarked_of_contains (named : RegisterMap.standard.contains t = true) :
    IE32.Unmarked t := by
  have known : ∀ mark ∈ ['#', '@', '['], mark ∈ ['+', '[', ']', '#', '@'] := by decide
  intro mark isMark first
  apply IE32.notMem_of_contains named (known mark isMark)
  exact Text.trim_subset t (List.mem_of_head? first)

/-- Where a register may stand, what names one is one. -/
theorem among_eq_register_iff :
    IE32.OperandKind.among .standard t = .register ↔ RegisterMap.standard.contains t = true := by
  unfold IE32.OperandKind.among
  constructor
  · intro register
    split at register
    · rename_i bare
      exact bare.2
    · unfold IE32.OperandKind.ofText at register
      split at register <;> contradiction
  · intro named
    rw [if_pos ⟨(unmarked_of_contains named).ofText_eq, named⟩]

end LookUp

/-- **What the register file recognises.**  The ways to ask for a register agree on every text: one
is found if and only if the text without the blanks around it is one of the sixteen names or the
long s.  A name is looked up as its own register, the long s as S, and any other text is refused
with its trimmed name.  So what is recognised is what the names say, except at the long s. -/
theorem standard_recognises (name : Text) :
    let m := RegisterMap.standard
    [m.get? name ≠ none, ∃ r, m.lookup name = .ok r, m.contains name = true,
        IE32.OperandKind.among m name = .register,
        IsRegisterName (trim name) ∨ trim name = "ſ"].TFAE ∧
      (∀ c ∈ registerLetters, trim name = [c] ∨ trim name = [c.toLower] →
        m.lookup name = .ok (letterRegister c)) ∧
      (trim name = "ſ" → m.lookup name = .ok (letterRegister 'S')) ∧
      (¬ IsRegisterName (trim name) → trim name ≠ "ſ" →
        m.lookup name = .error (.unknownRegister (trim name) (some m.hint))) ∧
      ((m.contains name = true ↔ IsRegisterName (trim name)) ↔ trim name ≠ "ſ") := by
  intro m
  have contains_iff := standard_contains_iff_name name
  refine ⟨?_, fun c letter => standard_lookup_letter letter, standard_lookup_longS, ?_, ?_⟩
  · apply List.tfae_of_forall (m.contains name = true)
    intro way listed
    simp only [List.mem_cons, List.not_mem_nil, or_false] at listed
    rcases listed with rfl | rfl | rfl | rfl | rfl
    · simp [RegisterMap.get?, RegisterMap.contains, Option.isSome_iff_ne_none]
    · simp [RegisterMap.lookup_eq_ok_iff, RegisterMap.contains, Option.isSome_iff_exists]
    · exact Iff.rfl
    · exact among_eq_register_iff
    · exact contains_iff.symm
  · intro unnamed ordinary
    apply m.lookup_of_unnamed
    rw [← Bool.not_eq_true, contains_iff]
    exact not_or.mpr ⟨unnamed, ordinary⟩
  · constructor
    · intro agree long
      apply not_isRegisterName_longS
      rw [← long]
      exact agree.mp (contains_iff.mpr (.inr long))
    · intro ordinary
      rw [contains_iff]
      exact or_iff_left ordinary

/-- The long s is none of the names and is taken for a register all the same. -/
theorem longS_recognised :
    ¬ IsRegisterName (trim "ſ") ∧ RegisterMap.standard.get? "ſ" = some "r12" ∧
      RegisterMap.standard.contains "ſ" = true ∧
      IE32.OperandKind.among .standard "ſ" = .register := by
  refine ⟨?_, by decide +kernel, by decide +kernel, by decide +kernel⟩
  have trimmed : trim "ſ" = "ſ".toList := by decide
  rw [trimmed]
  exact not_isRegisterName_longS

end Retarget
