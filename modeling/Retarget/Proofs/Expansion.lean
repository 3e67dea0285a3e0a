/-
# Retarget.Proofs.Expansion -- the shape of what a line becomes

The code of a line becomes one to four bodies (`Settings.bodies`), and they depend on nothing else
of the line.  The line then becomes those bodies, each behind its indent, and its comment goes
behind the first of them and no other (`lines_convertCode`).

Every body begins with a word or the mark of a comment (`Converts.takeWhile_isIndent`), also where
source text comes first in it, as in an equate; so the indent of every line is that of the source.
There is always a body, since code is never blank: it begins with the first character of the line
that is neither a blank nor the mark of a comment.
-/
import Retarget.Proofs.Annotations

namespace Retarget

set_option autoImplicit false

open IE32 (HasCode Line LineKind Instruction)
open Text (trim isIndent isBlank)

namespace IE32

/-! ## How many lines there are -/

theorem Place.length_reach_le (place : Place) : place.reach.1.length ≤ 1 := by
  cases place <;> simp [Place.reach]

theorem Operand.length_fetch_le (operand : Operand) : operand.fetch.1.length ≤ 2 := by
  cases operand with
  | value | register => simp [Operand.fetch]
  | memory place =>
      have reach := place.length_reach_le
      simp only [Operand.fetch, List.length_append, List.length_singleton]
      omega

theorem length_lower_le (i : Instruction) : i.lower.length ≤ 4 := by
  cases i with
  | control | stack | jump | branch | complement | wait => simp [Instruction.lower]
  | load dest source =>
      cases source with
      | value | register => simp [Instruction.lower]
      | memory place =>
          have reach := place.length_reach_le
          simp only [Instruction.lower, List.length_append, List.length_singleton]
          omega
  | store source place =>
      have reach := place.length_reach_le
      simp only [Instruction.lower, List.length_append, List.length_singleton]
      omega
  | binary op dest source =>
      have fetch := source.length_fetch_le
      simp only [Instruction.lower, List.length_append, List.length_singleton]
      omega
  | step op target =>
      cases target with
      | register => simp [Instruction.lower]
      | memory place =>
          have reach := place.length_reach_le
          simp only [Instruction.lower, List.length_append, List.length_cons, List.length_nil]
          omega

/-- Code that begins with a character that is no blank is not empty. -/
theorem ofCode_ne_empty {code : Text} {c : Char} (first : code.head? = some c)
    (solid : isBlank c = false) : LineKind.ofCode code ≠ .empty := by
  have some_text : trim code ≠ [] := by
    intro empty
    have blank := (Text.trim_eq_nil_iff code).mp empty c (List.mem_of_head? first)
    simp [solid] at blank
  simp only [LineKind.ofCode, List.isEmpty_iff, if_neg some_text]
  split
  · simp
  · split <;> simp

end IE32

section Lines

variable {settings : Settings} {raw : Text} {conversion : Conversion}

theorem Settings.Converts.length_le (converts : settings.Converts raw conversion) :
    conversion.lines.length ≤ 4 := by
  cases converts with
  | blank | comment | label | directive | unknownDirective | rejected => simp
  | instruction code noLabel noDirective read lower =>
      have most := lower ▸ IE32.length_lower_le _
      simpa using most

/-! ## The indent -/

theorem takeWhile_around {line : Line} (layout : ∀ c ∈ line.indent, isIndent c = true)
    {body : Text} {c : Char} (first : body.head? = some c) (other : isIndent c = false) :
    (line.around body).takeWhile isIndent = line.indent :=
  IE32.takeWhile_isIndent_layout layout first other line.suffix

/-- Every line has the indent of the source. -/
theorem Settings.Converts.takeWhile_isIndent (converts : settings.Converts raw conversion)
    (standard : settings.directives = .standard) (code : HasCode raw) :
    ∀ line ∈ conversion.lines, line.takeWhile isIndent = (Line.parse raw).indent := by
  have parsed := IE32.parse_parsed code
  have layout := parsed.indent
  have plain : ∀ {body : Text} {c : Char}, body.head? = some c → isIndent c = false →
      ((Line.parse raw).indent ++ body).takeWhile isIndent = (Line.parse raw).indent := by
    intro body c first other
    simpa using IE32.takeWhile_isIndent_layout layout first other []
  cases converts with
  | blank empty => exact absurd empty code.1
  | comment marked => exact absurd marked code.2
  | label _ kind =>
      obtain ⟨c, first, solid, -⟩ := parsed.first
      simpa using takeWhile_around layout first (Text.isIndent_of_solid solid)
  | directive _ kind known =>
      rw [standard] at known
      obtain ⟨c, first, other⟩ := IE32.head?_render (IE32.standard_isPlain known).1
        (Text.cutWord (Line.parse raw).code).2
      simpa using takeWhile_around layout first other
  | unknownDirective _ kind unknown =>
      rw [List.forall_mem_singleton]
      exact takeWhile_around layout rfl (by decide)
  | instruction _ noLabel noDirective read lower =>
      have letter : ∀ c ∈ IE64.letters, isIndent c = false := by decide
      rw [List.forall_mem_cons, List.forall_mem_map]
      constructor
      · obtain ⟨c, known, first⟩ := head?_mnemonic _ settings.size.suffix
        exact takeWhile_around layout first (letter c known)
      · intro j later
        obtain ⟨c, known, first⟩ := head?_mnemonic j settings.size.suffix
        exact plain first (letter c known)
  | rejected _ noLabel noDirective failed =>
      rw [List.forall_mem_cons, List.forall_mem_singleton, List.append_assoc]
      exact ⟨takeWhile_around layout rfl (by decide), plain rfl (by decide)⟩

end Lines

/-! ## The comment -/

/-- What code becomes, without an indent and a comment. -/
def Settings.bodies (settings : Settings) (code : Text) : List Text :=
  (settings.convertCode ⟨[], code, []⟩).lines

theorem Lowering.lines_indent (registers : RegisterMap) (suffix indent code : Text) :
    (Lowering.ofCode registers suffix indent code).lines =
      (Lowering.ofCode registers suffix [] code).lines.map (indent ++ ·) := by
  cases read : Instruction.read registers (trim code) with
  | ok i => simp [ofCode_of_ok read]
  | error fault => simp [ofCode_of_error read, annotation]

/-- The indent goes before every body and the comment behind the first. -/
theorem lines_convertCode (settings : Settings) (line : Line) :
    (settings.convertCode line).lines =
      Conversion.appendToFirst line.suffix
        ((settings.bodies line.code).map (line.indent ++ ·)) := by
  have sameKind : Line.kind ⟨[], line.code, []⟩ = line.kind := rfl
  have noSuffix : Line.suffix ⟨[], line.code, []⟩ = [] := rfl
  unfold Settings.bodies Settings.convertCode
  rw [sameKind]
  cases line.kind with
  | label => simp [noSuffix, Conversion.appendToFirst]
  | directive => simp [Conversion.ofDirective, noSuffix, Conversion.appendToFirst]
  | instruction | empty =>
      have unchanged : ∀ lines, Conversion.appendToFirst [] lines = lines := by
        intro lines
        cases lines <;> simp [Conversion.appendToFirst]
      simp only [Conversion.ofLowering, noSuffix, unchanged]
      rw [Lowering.lines_indent]

/-- **The shape of every expansion.**  A line becomes one to four lines: a blank line an empty one,
a line that is all comment itself.  Any other line has code, which begins with neither a blank nor
a semicolon, and so is never empty; every line it becomes has its indent; and the comment goes
behind the first of them only, since what the lines are beside the indent and the comment is the
same for every line with that code. -/
theorem expansion_shape {s : Session} (standard : s.settings.directives = .standard) (raw : Text) :
    let p := Line.parse raw
    let lines := (s.convertLine raw).1
    (1 ≤ lines.length ∧ lines.length ≤ 4) ∧
      (trim raw = [] → lines = [[]]) ∧
      ((trim raw).head? = some ';' → lines = [raw]) ∧
      (HasCode raw →
        (∃ c, p.code.head? = some c ∧ isBlank c = false ∧ c ≠ ';') ∧ p.kind ≠ .empty ∧
        (∀ line ∈ lines, line.takeWhile isIndent = raw.takeWhile isIndent) ∧
        ∃ (first : Text) (rest : List Text),
          lines = (p.indent ++ first ++ p.suffix) :: rest.map (p.indent ++ ·) ∧
          ∀ other, HasCode other → (Line.parse other).code = p.code →
            (s.convertLine other).1 =
              ((Line.parse other).indent ++ first ++ (Line.parse other).suffix) ::
                rest.map ((Line.parse other).indent ++ ·)) := by
  intro p lines
  have converts : s.settings.Converts raw (s.settings.convertLine raw) := s.settings.converts raw
  refine ⟨⟨List.length_pos_iff.mpr converts.lines_ne_nil, converts.length_le⟩, ?_, ?_, ?_⟩
  · intro empty
    exact congrArg Conversion.lines (Settings.Converts.blank empty).eq
  · intro marked
    exact congrArg Conversion.lines (Settings.Converts.comment marked).eq
  · intro code
    have parsed := IE32.parse_parsed code
    obtain ⟨c, start, solid, -⟩ := parsed.first
    have expands : ∀ other, HasCode other → (s.convertLine other).1 =
        Conversion.appendToFirst (Line.parse other).suffix
          ((s.settings.bodies (Line.parse other).code).map ((Line.parse other).indent ++ ·)) := by
      intro other codeOther
      rw [← lines_convertCode, ← Settings.convertLine_of_hasCode _ codeOther]
      rfl
    have some_lines : lines ≠ [] := converts.lines_ne_nil
    obtain ⟨first, rest, bodies⟩ : ∃ first rest, s.settings.bodies p.code = first :: rest := by
      apply List.exists_cons_of_ne_nil
      intro none_left
      apply some_lines
      show (s.convertLine raw).1 = []
      rw [expands raw code, none_left]
      rfl
    refine ⟨parsed.first, IE32.ofCode_ne_empty start solid,
      converts.takeWhile_isIndent standard code, first, rest, ?_, ?_⟩
    · show (s.convertLine raw).1 = _
      rw [expands raw code, bodies]
      rfl
    · intro other codeOther same
      rw [expands other codeOther, same, bodies]
      rfl

/-- A change of memory behind a tab and an em space, with a semicolon in its address. -/
def spacedChange : Text := "\t\u2003inc @';' ;c"

theorem spacedChange_shape :
    let s : Session := { settings := {} }
    HasCode spacedChange ∧
      (s.convertLine spacedChange).1 =
        (["\tla r17, ';'    ; c", "\tload.l r18, (r17)", "\tadd.l r18, r18, #1",
          "\tstore.l r18, (r17)"] : List Text) ∧
      (∀ line ∈ (s.convertLine spacedChange).1, line.takeWhile isIndent = "\t") ∧
      (s.convertLine " ;").1 = [" ;"] := by
  intro s
  have code : HasCode spacedChange := by decide +kernel
  have shape := expansion_shape (s := s) rfl spacedChange
  refine ⟨code, by decide +kernel, (shape.2.2.2 code).2.2.1, ?_⟩
  exact (expansion_shape (s := s) rfl " ;").2.2.1 (by decide +kernel)

end Retarget
