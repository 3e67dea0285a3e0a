/-
# Retarget.Proofs.IE32.Directives -- what a converted directive keeps

A directive of the standard table changes its keyword, and one changes the order of its pieces or
the name of a file.  None of this touches quotes: the converted directive is scanned as its code
was (`scan_render`), so it has a semicolon outside quotes only if the code has.  It starts with a
word (`head?_render`) and stays on its line (`newline_notMem_render`).
-/
import Retarget.IE32.Directive
import Retarget.Proofs.IE32.Quotes
import Retarget.Proofs.Registers

namespace Retarget.IE32

set_option autoImplicit false

open Text (trim trimLeft trimRight Excerpt isIndent)

/-- If the form has a keyword of its own, it is a plain word. -/
def DirectiveForm.IsPlain : DirectiveForm → Prop
  | .keyword word => word ≠ [] ∧ ∀ c ∈ word, Plain c ∧ Text.isBlank c = false
  | .equate | .includeFile => True

instance (form : DirectiveForm) : Decidable form.IsPlain :=
  match form with
  | .keyword word =>
      inferInstanceAs (Decidable (word ≠ [] ∧ ∀ c ∈ word, Plain c ∧ Text.isBlank c = false))
  | .equate | .includeFile => inferInstanceAs (Decidable True)

theorem standard_isPlain {keyword : Text} {form : DirectiveForm}
    (known : DirectiveTable.standard.get? keyword = some form) :
    form.IsPlain ∧ ∀ c ∈ keyword, Plain c := by
  have all : ∀ entry ∈ DirectiveTable.standard.entries,
      entry.2.IsPlain ∧ ∀ c ∈ entry.1, Plain c := by decide +kernel
  exact all _ ((Table.get?_eq_some_iff _ _ _).mp known)

/-- Putting `equ` between a name and its value changes nothing. -/
theorem scan_equate (args : Text) :
    scan none (DirectiveForm.equate.render args) = scan none args := by
  obtain ⟨left, gap, right, blankLeft, blankGap, blankRight, -, -, parts⟩ :=
    Text.exists_cutWord args
  have plainBlank : ∀ {t : Text}, Text.AllBlank t → ∀ c ∈ t, Plain c :=
    fun blank c member => plain_of_isBlank (blank c member)
  simp only [DirectiveForm.render]
  split
  · rw [scan_trimLeft, scan_append_right (by decide)]
  · have inner : Excerpt Plain ((Text.cutWord args).1 ++ gap ++ (Text.cutWord args).2) args :=
      ⟨left, right, plainBlank blankLeft, plainBlank blankRight, by
        conv_lhs => rw [parts]
        simp⟩
    rw [scan_excerpt inner]
    exact scan_between _ _ (by decide) (plainBlank blankGap)

theorem scan_includeFile (args : Text) :
    scan none (DirectiveForm.includeFile.render args) = scan none args := by
  simp only [DirectiveForm.render]
  rw [scan_trimRight, scan_append_left (by decide), ← scan_trim args]
  split
  · rename_i standard
    rw [standard]
    decide
  · rfl

theorem scan_keyword {word : Text} (isPlain : (DirectiveForm.keyword word).IsPlain) (args : Text) :
    scan none ((DirectiveForm.keyword word).render args) = scan none args := by
  have plain : ∀ c ∈ word ++ " ", Plain c := by
    rw [List.forall_mem_append]
    exact ⟨fun c member => (isPlain.2 c member).1, by decide⟩
  simp only [DirectiveForm.render]
  rw [scan_trimRight, scan_append_left plain]

theorem head?_render {form : DirectiveForm} (isPlain : form.IsPlain) (args : Text) :
    ∃ c, (form.render args).head? = some c ∧ isIndent c = false := by
  cases form with
  | keyword word =>
      obtain ⟨c, rest, rfl⟩ := List.exists_cons_of_ne_nil isPlain.1
      have solid : Text.isBlank c = false := (isPlain.2 c (by simp)).2
      exact ⟨c, Text.head?_dropRightWhile rfl solid, Text.isIndent_of_solid solid⟩
  | equate =>
      simp only [DirectiveForm.render]
      split
      · have some_left : trimLeft (args ++ " equ") ≠ [] := by
          intro none_left
          have blank := List.dropWhile_eq_nil_iff.mp none_left 'e' (by simp)
          exact absurd blank (by decide)
        obtain ⟨c, rest, start⟩ := List.exists_cons_of_ne_nil some_left
        have first : (trimLeft (args ++ " equ")).head? = some c := by rw [start]; rfl
        exact ⟨c, first, Text.isIndent_of_solid (Text.head?_dropWhile first)⟩
      · rename_i some_value
        have some_name := Text.cutWord_fst_ne_nil (t := args) (by simpa using some_value)
        obtain ⟨c, rest, name⟩ := List.exists_cons_of_ne_nil some_name
        obtain ⟨-, -, -, -, -, -, solid, -, -⟩ := Text.exists_cutWord args
        exact ⟨c, by rw [name]; rfl, Text.isIndent_of_solid (solid c (by simp [name]))⟩
  | includeFile =>
      exact ⟨'i', Text.head?_dropRightWhile rfl (by decide), by decide⟩

theorem newline_notMem_render {form : DirectiveForm} (isPlain : form.IsPlain) {args : Text}
    (clean : '\n' ∉ args) : '\n' ∉ form.render args := by
  have cleanRight : ∀ {t : Text}, '\n' ∉ t → '\n' ∉ trimRight t := fun absent member =>
    absent (Text.dropRightWhile_subset _ _ member)
  cases form with
  | keyword word =>
      have cleanWord : '\n' ∉ word := fun member =>
        absurd (isPlain.2 _ member).2 (by decide)
      exact cleanRight (by simp [cleanWord, clean])
  | equate =>
      obtain ⟨nameInside, valueInside⟩ := Text.cutWord_subset args
      have cleanName : '\n' ∉ (Text.cutWord args).1 := fun member => clean (nameInside member)
      have cleanValue : '\n' ∉ (Text.cutWord args).2 := fun member => clean (valueInside member)
      simp only [DirectiveForm.render]
      split
      · intro member
        have inside := (List.dropWhile_sublist _).subset member
        simp [clean] at inside
      · simp [cleanName, cleanValue]
  | includeFile =>
      have cleanFile : '\n' ∉ trim args := fun member => clean (Text.trim_subset args member)
      simp only [DirectiveForm.render]
      refine cleanRight ?_
      split
      · decide
      · simp [cleanFile]

/-- **A converted directive is scanned as its code was.** -/
theorem scan_render {code : Text} {form : DirectiveForm}
    (known : DirectiveTable.standard.get? (Text.upper (Text.cutWord code).1) = some form) :
    scan none (form.render (Text.cutWord code).2) = scan none code := by
  obtain ⟨isPlain, plainKeyword⟩ := standard_isPlain known
  rw [scan_cutWord (plain_of_upper plainKeyword)]
  cases form with
  | keyword word => exact scan_keyword isPlain _
  | equate => exact scan_equate _
  | includeFile => exact scan_includeFile _

end Retarget.IE32
