/-
# Retarget.Proofs.Conversion -- what becomes of a line

A line is blank, all comment, a label, a directive that the table has or does not have, or an
instruction that can be read or cannot: seven cases, and `Converts` says what each becomes.
Every conversion is one of them (`converts`), and what holds of all conversions is proved from
there: there is a line for every line (`Converts.lines_ne_nil`), and a line without a newline
becomes lines without one (`Converts.newline_notMem`).
-/
import Retarget.Conversion
import Retarget.Proofs.IE32.Directives
import Retarget.Proofs.IE32.Faults
import Retarget.Proofs.IE32.Parsing
import Retarget.Proofs.Lowering

namespace Retarget

set_option autoImplicit false

open IE32 (HasCode Line Instruction)

/-- What the line is on the page: its indent, a body, its comment. -/
def IE32.Line.around (line : Line) (body : Text) : Text := line.indent ++ body ++ line.suffix

/-- What becomes of a line, case by case. -/
inductive Settings.Converts (settings : Settings) (raw : Text) : Conversion → Prop
  | blank (empty : Text.trim raw = []) : Converts settings raw { lines := [[]] }
  | comment (marked : (Text.trim raw).head? = some ';') : Converts settings raw { lines := [raw] }
  | label (code : HasCode raw) (kind : (Line.parse raw).kind = .label) :
      Converts settings raw { lines := [(Line.parse raw).around (Line.parse raw).code] }
  | directive (code : HasCode raw) (kind : (Line.parse raw).kind = .directive)
      {form : IE32.DirectiveForm}
      (known : settings.directives.get? (Text.upper (Text.cutWord (Line.parse raw).code).1) =
        some form) :
      Converts settings raw
        { lines := [(Line.parse raw).around
            (form.render (Text.cutWord (Line.parse raw).code).2)] }
  | unknownDirective (code : HasCode raw) (kind : (Line.parse raw).kind = .directive)
      (unknown : settings.directives.get? (Text.upper (Text.cutWord (Line.parse raw).code).1) =
        none) :
      Converts settings raw
        { lines := [(Line.parse raw).around
            ("; WARNING: " ++ IE32.Directive.unknownMessage (Text.trim (Line.parse raw).code))]
          finding := some (.unknownDirective (Text.trim (Line.parse raw).code)) }
  | instruction (code : HasCode raw) (noLabel : (Line.parse raw).kind ≠ .label)
      (noDirective : (Line.parse raw).kind ≠ .directive) {i : Instruction}
      {first : IE64.Instruction} {rest : List IE64.Instruction}
      (read : Instruction.read settings.registers (Text.trim (Line.parse raw).code) = .ok i)
      (lower : i.lower = first :: rest) :
      Converts settings raw
        { lines := (Line.parse raw).around (first.render settings.size.suffix) ::
            rest.map ((Line.parse raw).indent ++ ·.render settings.size.suffix) }
  | rejected (code : HasCode raw) (noLabel : (Line.parse raw).kind ≠ .label)
      (noDirective : (Line.parse raw).kind ≠ .directive) {fault : Fault}
      (failed : Instruction.read settings.registers (Text.trim (Line.parse raw).code) =
        .error fault) :
      Converts settings raw
        { lines := [(Line.parse raw).around ("; ERROR: " ++ fault.message),
            (Line.parse raw).indent ++ "; " ++ Text.trim (Line.parse raw).code]
          finding := some (.error { fault, source := some (Text.trim (Line.parse raw).code) }) }

namespace Settings

variable (settings : Settings) {raw : Text}

theorem convertLine_of_hasCode (code : HasCode raw) :
    settings.convertLine raw = settings.convertCode (Line.parse raw) := by
  unfold convertLine
  split
  · rename_i empty
    exact absurd empty code.1
  · rename_i marked
    exact absurd (congrArg List.head? marked) code.2
  · rfl

theorem convertCode_instruction {line : Line} (noLabel : line.kind ≠ .label)
    (noDirective : line.kind ≠ .directive) :
    settings.convertCode line =
      .ofLowering line (.ofCode settings.registers settings.size.suffix line.indent line.code) := by
  cases kind : line.kind with
  | label => exact absurd kind noLabel
  | directive => exact absurd kind noDirective
  | instruction | empty => simp [convertCode, kind]

/-- Instructions that are read become their lowering, the others an annotation. -/
theorem converts_instruction (code : HasCode raw) (noLabel : (Line.parse raw).kind ≠ .label)
    (noDirective : (Line.parse raw).kind ≠ .directive) :
    settings.Converts raw (settings.convertLine raw) := by
  rw [convertLine_of_hasCode settings code, convertCode_instruction settings noLabel noDirective]
  cases read : Instruction.read settings.registers (Text.trim (Line.parse raw).code) with
  | ok i =>
      obtain ⟨first, rest, lower⟩ := List.exists_cons_of_ne_nil (IE32.lower_ne_nil i)
      rw [Lowering.ofCode_of_ok read, lower]
      exact .instruction code noLabel noDirective read lower
  | error fault =>
      have first :
          (Line.parse raw).indent ++ "; ERROR: " ++ fault.message ++ (Line.parse raw).suffix =
          (Line.parse raw).around ("; ERROR: " ++ fault.message) := by simp [Line.around]
      simp only [Lowering.ofCode_of_error read, Conversion.ofLowering, Lowering.annotation,
        Conversion.appendToFirst, first]
      exact .rejected code noLabel noDirective read

/-- **Every conversion is one of the seven.** -/
theorem converts (raw : Text) : settings.Converts raw (settings.convertLine raw) := by
  by_cases code : HasCode raw
  · cases kind : (Line.parse raw).kind with
    | label =>
        rw [convertLine_of_hasCode settings code]
        simp only [convertCode, kind]
        exact .label code kind
    | directive =>
        rw [convertLine_of_hasCode settings code]
        simp only [convertCode, kind, IE32.Directive.convert]
        split
        · rename_i known
          exact .directive code kind known
        · rename_i unknown
          exact .unknownDirective code kind unknown
    | instruction | empty =>
        exact converts_instruction settings code (by simp [kind]) (by simp [kind])
  · by_cases empty : Text.trim raw = []
    · simp only [convertLine, empty]
      exact .blank empty
    · have marked : (Text.trim raw).head? = some ';' := by
        by_contra other
        exact code ⟨empty, other⟩
      obtain ⟨rest, start⟩ : ∃ rest, Text.trim raw = ';' :: rest := by
        cases start : Text.trim raw with
        | nil => exact absurd start empty
        | cons c rest =>
            rw [start] at marked
            exact ⟨rest, by rw [Option.some.inj marked]⟩
      simp only [convertLine, start]
      exact .comment marked

/-- The seven cases exclude one another, so a conversion is known from its case. -/
theorem Converts.eq {settings : Settings} {conversion : Conversion}
    (converts : settings.Converts raw conversion) : settings.convertLine raw = conversion := by
  cases converts with
  | blank empty => simp only [convertLine, empty]
  | comment marked =>
      obtain ⟨rest, start⟩ := List.head?_eq_some_iff.mp marked
      simp only [convertLine, start]
  | label code kind =>
      rw [convertLine_of_hasCode settings code]
      simp only [convertCode, kind]
      rfl
  | directive code kind known =>
      rw [convertLine_of_hasCode settings code]
      simp only [convertCode, kind, IE32.Directive.convert, known]
      rfl
  | unknownDirective code kind unknown =>
      rw [convertLine_of_hasCode settings code]
      simp only [convertCode, kind, IE32.Directive.convert, unknown]
      rfl
  | instruction code noLabel noDirective read lower =>
      rw [convertLine_of_hasCode settings code,
        convertCode_instruction settings noLabel noDirective, Lowering.ofCode_of_ok read, lower]
      rfl
  | rejected code noLabel noDirective failed =>
      rw [convertLine_of_hasCode settings code,
        convertCode_instruction settings noLabel noDirective]
      simp only [Lowering.ofCode_of_error failed, Conversion.ofLowering, Lowering.annotation,
        Conversion.appendToFirst]
      simp [Line.around]

end Settings

/-! ## Lines of the output -/

section Output

variable {settings : Settings} {raw : Text} {conversion : Conversion}

theorem Settings.Converts.lines_ne_nil (converts : settings.Converts raw conversion) :
    conversion.lines ≠ [] := by
  cases converts <;> simp

theorem newline_notMem_around {line : Line} (parsed : Line.Parsed raw line) (clean : '\n' ∉ raw)
    {body : Text} (cleanBody : '\n' ∉ body) : '\n' ∉ line.around body := by
  have cleanIndent : '\n' ∉ line.indent := fun member => clean (parsed.subset.1 member)
  have cleanComment : '\n' ∉ line.comment := fun member => clean (parsed.subset.2.2 member)
  have cleanSuffix : '\n' ∉ line.suffix := by
    unfold Line.suffix
    split <;> simp [cleanComment]
  simp [Line.around, cleanIndent, cleanBody, cleanSuffix]

/-- A lowering has a newline only where its code has one, or the register map. -/
theorem newline_notMem_lower {m : RegisterMap} (targets : ∀ entry ∈ m.table.entries, '\n' ∉ entry.2)
    {code : Text} (clean : '\n' ∉ code) {i : Instruction} (read : Instruction.read m code = .ok i)
    (size : Size) {j : IE64.Instruction} (member : j ∈ i.lower) : '\n' ∉ j.render size.suffix := by
  obtain ⟨k, -, reads⟩ := (IE32.read_eq_ok_iff m code i).mp read
  have cleanForeign : '\n' ∉ j.foreign := by
    rcases (IE32.lower_makes i j member).foreign with carried | none | one
    · intro inside
      have part := (reads.excerpt (IE32.harmless_true m) _ carried).subset inside
      exact clean ((Text.cutWord_subset code).2 part)
    · rw [none]
      decide
    · rw [one]
      decide
  have fixed : ∀ c ∈ IE64.wording ++ scratchAddress ++ scratchValue ++ size.suffix, c ≠ '\n' := by
    cases size <;> decide
  obtain ⟨before, after, plainBefore, plainAfter, split⟩ :=
    IE32.excerpt_of_mem_lower fixed (fun entry listed c inside same =>
      targets entry listed (same ▸ inside)) reads.lists member
  rw [split]
  simp only [List.mem_append, not_or]
  exact ⟨⟨fun inside => plainBefore _ inside rfl, cleanForeign⟩,
    fun inside => plainAfter _ inside rfl⟩

/-- A line without a newline becomes lines without one. -/
theorem Settings.Converts.newline_notMem (converts : settings.Converts raw conversion)
    (standard : settings.directives = .standard)
    (targets : ∀ entry ∈ settings.registers.table.entries, '\n' ∉ entry.2) (clean : '\n' ∉ raw) :
    ∀ line ∈ conversion.lines, '\n' ∉ line := by
  have cleanCode : HasCode raw → '\n' ∉ (Line.parse raw).code := fun code member =>
    clean ((IE32.parse_parsed code).subset.2.1 member)
  have cleanTrim : HasCode raw → '\n' ∉ Text.trim (Line.parse raw).code := fun code member =>
    cleanCode code (Text.trim_subset _ member)
  cases converts with
  | blank => simp
  | comment => simpa using clean
  | label code kind =>
      simpa using newline_notMem_around (IE32.parse_parsed code) clean (cleanCode code)
  | directive code kind known =>
      have args : '\n' ∉ (Text.cutWord (Line.parse raw).code).2 := fun member =>
        cleanCode code ((Text.cutWord_subset _).2 member)
      rw [standard] at known
      have body := IE32.newline_notMem_render (IE32.standard_isPlain known).1 args
      simpa using newline_notMem_around (IE32.parse_parsed code) clean body
  | unknownDirective code kind unknown =>
      have body : '\n' ∉ "; WARNING: " ++
          IE32.Directive.unknownMessage (Text.trim (Line.parse raw).code) := by
        unfold IE32.Directive.unknownMessage
        simp [cleanTrim code]
      simpa using newline_notMem_around (IE32.parse_parsed code) clean body
  | instruction code noLabel noDirective read lower =>
      have parsed := IE32.parse_parsed code
      have cleanIndent : '\n' ∉ (Line.parse raw).indent := fun member =>
        clean (parsed.subset.1 member)
      have body := @newline_notMem_lower _ targets _ (cleanTrim code) _ read settings.size
      intro line member
      rw [List.mem_cons, List.mem_map] at member
      rcases member with rfl | ⟨j, later, rfl⟩
      · exact newline_notMem_around parsed clean (body (by simp [lower]))
      · simp [cleanIndent, body (j := j) (by simp [lower, later])]
  | @rejected code noLabel noDirective fault failed =>
      have parsed := IE32.parse_parsed code
      have cleanIndent : '\n' ∉ (Line.parse raw).indent := fun member =>
        clean (parsed.subset.1 member)
      have message := IE32.newline_notMem_message failed (cleanTrim code)
      have body : '\n' ∉ "; ERROR: " ++ fault.message := by simpa using message
      simpa [cleanIndent, cleanTrim code] using newline_notMem_around parsed clean body

end Output

end Retarget
