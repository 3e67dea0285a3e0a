/-
# Retarget.Proofs.Comments -- no comment is lost and no code becomes one

The comment of a line goes behind the first line that its code becomes.  That it can be split off
there again, and that no other line has a comment, is a matter of quotes: a line without errors is
cut at commas, brackets and marks without regard to them, but what is cut off holds none, so the
text of each line leaves open what the code left open (`scan_lower`), or nothing.  Code with a
comment behind it leaves nothing open, and code with quotes left open hides every semicolon.
-/
import Retarget.Proofs.Conversion
import Retarget.Session

namespace Retarget

set_option autoImplicit false

open IE32 (HasCode Line Instruction Mnemonic Plain scan splitComment)
open Text (isIndent dropRightWhile)

namespace IE32

/-! ## Mnemonics and registers hold no quotes -/

/-- What the standard map and the syntax around operands are made of holds no quotes. -/
theorem harmless_standard : Harmless .standard Plain where
  blank _ := plain_of_isBlank
  mark := by decide
  name t r found := by
    have absent : ∀ c ∈ [';', '\'', '"'], c ∉ t := by
      intro c special
      have known : ∀ c ∈ [';', '\'', '"'], c.toNat < 0x80 ∧ c.toUpper = c ∧ Text.isBlank c = false ∧
          ∀ entry ∈ RegisterMap.standard.table.entries, c ∉ entry.1 := by decide +kernel
      obtain ⟨ascii, fixed, solid, unnamed⟩ := known c special
      exact RegisterMap.notMem_of_find? ascii fixed solid unnamed found
    intro c member
    refine ⟨?_, ?_, ?_⟩ <;> rintro rfl
    · exact absent ';' (by simp) member
    · exact absent '\'' (by simp) member
    · exact absent '"' (by simp) member

/-- The mnemonic of an instruction that is read is plain, with the register it may name. -/
theorem Reads.plain_text {m : RegisterMap} (harmless : Harmless m Plain) {word rest : Text}
    {k : Mnemonic} {i : Instruction} (found : Mnemonic.ofWord? word = some k)
    (reads : Reads m k rest i) : ∀ c ∈ k.text, Plain c := by
  rcases Mnemonic.ofWord?_cases found with ⟨letter, rfl⟩ | ⟨letter, rfl⟩ | listed
  · cases reads with
    | loadNamed _ named split read =>
        have plain := harmless.name _ _ named letter (by simp)
        have fixed : Plain 'L' ∧ Plain 'D' := by decide
        simp [plain, fixed]
  · cases reads with
    | storeNamed _ named split read =>
        have plain := harmless.name _ _ named letter (by simp)
        have fixed : Plain 'S' ∧ Plain 'T' := by decide
        simp [plain, fixed]
  · have all : ∀ k ∈ Mnemonic.spelled, ∀ c ∈ k.text, Plain c := by decide +kernel
    exact all k listed

/-- A line of a lowering leaves the quotes open that its code leaves open, or none. -/
theorem scan_lower {code : Text} {i : Instruction}
    (read : Instruction.read .standard (Text.trim code) = .ok i) (size : Size)
    {j : IE64.Instruction} (member : j ∈ i.lower) :
    scan none (j.render size.suffix) = scan none code ∨
      scan none (j.render size.suffix) = some none := by
  obtain ⟨k, found, reads⟩ := (read_eq_ok_iff _ _ _).mp read
  have fixed : ∀ c ∈ IE64.wording ++ scratchAddress ++ scratchValue ++ size.suffix, Plain c := by
    cases size <;> decide
  have targets : ∀ entry ∈ RegisterMap.standard.table.entries, ∀ c ∈ entry.2, Plain c := by
    decide +kernel
  rw [scan_excerpt (excerpt_of_mem_lower fixed targets reads.lists member)]
  rcases (lower_makes i j member).foreign with carried | none | one
  · left
    have plainText := reads.plain_text harmless_standard found
    have plainWord := plain_of_upper (text_of_ofWord? found ▸ plainText)
    rw [← scan_trim code, scan_cutWord plainWord,
      scan_excerpt (reads.excerpt harmless_standard _ carried)]
  · rw [none]
    exact .inr rfl
  · rw [one]
    exact .inr (by decide)

theorem Line.Admits.of_scan_eq {line : Line} {body other : Text} (admits : line.Admits body)
    (same : scan none other = scan none body ∨ scan none other = some none) :
    line.Admits other := by
  obtain ⟨quote, scanned, closed⟩ := admits
  rcases same with same | same
  · exact ⟨quote, same.trans scanned, closed⟩
  · exact ⟨none, same, fun _ => rfl⟩

theorem Line.Admits.scan_ne_none {line : Line} {body : Text} (admits : line.Admits body) :
    scan none body ≠ none := by
  obtain ⟨quote, scanned, -⟩ := admits
  simp [scanned]

/-! ## Splitting the comment off again -/

theorem splitComment_of_scan {t : Text} (scanned : scan none t ≠ none) :
    splitComment t = (t, []) := by
  simp [splitComment, (cutComment_eq_none_iff none t).mpr scanned]

/-- A comment that is put behind a text that admits it is split off again. -/
theorem splitComment_suffix {line : Line} (comment : line.comment.head? ≠ some ' ') {body : Text}
    (admits : line.Admits body) :
    (splitComment (body ++ line.suffix)).2 = line.comment ∧
      dropRightWhile isIndent (splitComment (body ++ line.suffix)).1 =
        dropRightWhile isIndent body := by
  by_cases none_left : line.comment = []
  · have suffix : line.suffix = [] := by simp [Line.suffix, none_left]
    rw [suffix, List.append_nil, splitComment_of_scan admits.scan_ne_none, none_left]
    exact ⟨rfl, rfl⟩
  · obtain ⟨quote, scanned, closed⟩ := admits
    obtain rfl := closed none_left
    have cut : cutComment none (body ++ line.suffix) =
        some (body ++ "    ", ' ' :: line.comment) := by
      rw [Line.suffix_of_comment none_left, ← List.append_assoc]
      exact cutComment_append ((scan_append_right (by decide) body).trans scanned) _
    simp only [splitComment, cut, Line.dropWhile_comment comment, true_and]
    rw [Text.dropRightWhile_append isIndent body (by decide)]
    exact Text.dropRightWhile_eq_self fun c => Text.getLast?_dropRightWhile

end IE32

section Conversion

variable {settings : Settings} {raw : Text} {conversion : Conversion}

/-- Without an error or a warning, the first line admits the comment, and the others admit any. -/
theorem Settings.Converts.admits (converts : settings.Converts raw conversion)
    (registers : settings.registers = .standard) (directives : settings.directives = .standard)
    (code : HasCode raw) (converted : conversion.finding = none) :
    ∃ body rest, conversion.lines = (body ++ (Line.parse raw).suffix) :: rest ∧
      (Line.parse raw).Admits body ∧ ∀ line ∈ rest, (Line.parse raw).Admits line := by
  have parsed := IE32.parse_parsed code
  have indented : ∀ {body : Text}, scan none ((Line.parse raw).indent ++ body) = scan none body :=
    IE32.scan_indent parsed.indent _
  cases converts with
  | blank empty => exact absurd empty code.1
  | comment marked => exact absurd marked code.2
  | label _ kind =>
      exact ⟨_, [], rfl, parsed.scanned.of_scan_eq (.inl indented), by simp⟩
  | directive _ kind known =>
      rw [directives] at known
      exact ⟨_, [], rfl,
        parsed.scanned.of_scan_eq (.inl (indented.trans (IE32.scan_render known))), by simp⟩
  | unknownDirective => simp at converted
  | @instruction _ _ _ i first rest read lower =>
      rw [registers] at read
      have admitted : ∀ j ∈ i.lower,
          (Line.parse raw).Admits ((Line.parse raw).indent ++ j.render settings.size.suffix) := by
        intro j member
        refine parsed.scanned.of_scan_eq ?_
        rw [indented]
        exact IE32.scan_lower read settings.size member
      rw [lower, List.forall_mem_cons] at admitted
      exact ⟨_, _, rfl, admitted.1, List.forall_mem_map.mpr admitted.2⟩
  | rejected => simp at converted

end Conversion

/-- A line that leaves the diagnostics as they were has nothing wrong with it. -/
theorem finding_of_recorded {s : Session} {raw : Text}
    (quiet : (s.convertLine raw).2.diagnostics = s.diagnostics) :
    (s.settings.convertLine raw).finding = none := by
  cases found : (s.settings.convertLine raw).finding with
  | none => rfl
  | some finding =>
      simp only [Session.convertLine, Session.record, found] at quiet
      cases finding with
      | error diagnostic =>
          have errors := congrArg Diagnostics.errors quiet
          simp [Finding.diagnostic?] at errors
      | unknownDirective code =>
          have warnings := congrArg Diagnostics.warnings quiet
          simp [Finding.warning?] at warnings

open IE32 (Shielded) in
/-- **No comment is lost, and no code becomes a comment**: where a line is converted without an
error or a warning, splitting the first line gives its comment back and leaves its code, and there
is nothing to split off the others. -/
theorem comment_survives {s : Session} (registers : s.settings.registers = .standard)
    (directives : s.settings.directives = .standard) {raw : Text} (code : HasCode raw)
    (quiet : (s.convertLine raw).2.diagnostics = s.diagnostics) :
    ∃ body rest, (s.convertLine raw).1 = (body ++ (Line.parse raw).suffix) :: rest ∧
      (splitComment (body ++ (Line.parse raw).suffix)).2 = (Line.parse raw).comment ∧
      dropRightWhile isIndent (splitComment (body ++ (Line.parse raw).suffix)).1 =
        dropRightWhile isIndent body ∧
      (∀ line ∈ rest, splitComment line = (line, [])) ∧
      ∀ line ∈ body :: rest, Shielded line := by
  obtain ⟨body, rest, lines, first, others⟩ :=
    (s.settings.converts raw).admits registers directives code (finding_of_recorded quiet)
  obtain ⟨comment, kept⟩ := IE32.splitComment_suffix (IE32.parse_parsed code).comment first
  refine ⟨body, rest, lines, comment, kept, ?_, ?_⟩
  · intro line member
    exact IE32.splitComment_of_scan (others line member).scan_ne_none
  · intro line member
    rcases List.mem_cons.mp member with rfl | later
    · exact IE32.shielded_of_scan first.scan_ne_none
    · exact IE32.shielded_of_scan (others line later).scan_ne_none

/-- An address with a semicolon in quotes, and a comment with a quote in it. -/
def quotedLine : Text := "\tadd a , @';+\"' ;  it's"

theorem quotedLine_survives :
    let s : Session := { settings := {} }
    HasCode quotedLine ∧ (s.convertLine quotedLine).2.diagnostics = s.diagnostics ∧
      (s.convertLine quotedLine).1 =
        ["\tla r17, ';+\"'    ; it's", "\tload.l r17, (r17)", "\tadd.l r1, r1, r17"] ∧
      ∃ body rest, (s.convertLine quotedLine).1 = (body ++ (Line.parse quotedLine).suffix) :: rest ∧
        (splitComment (body ++ (Line.parse quotedLine).suffix)).2 =
          (Line.parse quotedLine).comment ∧
        dropRightWhile isIndent (splitComment (body ++ (Line.parse quotedLine).suffix)).1 =
          dropRightWhile isIndent body ∧
        (∀ line ∈ rest, splitComment line = (line, [])) ∧
        ∀ line ∈ body :: rest, IE32.Shielded line := by
  intro s
  have code : HasCode quotedLine := by decide +kernel
  have quiet : (s.convertLine quotedLine).2.diagnostics = s.diagnostics := by decide +kernel
  exact ⟨code, quiet, by decide +kernel, comment_survives rfl rfl code quiet⟩

end Retarget
