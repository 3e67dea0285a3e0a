/-
# Retarget.Proofs.Literals -- quoted literals, and the commas in them

The search for a comment passes over a quoted literal whatever it holds (`Literal.scan_text`), so a
line that loads a literal is taken apart as it was put together (`LiteralLoad.parse_text`).  The
search for a comma does not know quotes: it looks into the literal and counts its brackets
(`Literal.single_text`).  So the line is converted exactly if every comma of the literal stands at
another depth than zero, and otherwise it is refused for the number of its operands.
-/
import Retarget.Proofs.Conversion
import Retarget.Proofs.Transfers
import Retarget.Session

namespace Retarget

set_option autoImplicit false

open Text (trim)

namespace IE32

/-- A text in quotes of a kind that it does not hold itself. -/
structure Literal where
  quote : Char
  content : Text
  isQuote : quote = '\'' ∨ quote = '"'
  closed : quote ∉ content

namespace Literal

variable (q : Literal)

def text : Text := q.quote :: q.content ++ [q.quote]

/-- A quote is no blank, no comma or bracket, and no semicolon or colon. -/
theorem quote_cases :
    Text.isBlank q.quote = false ∧ Level q.quote ∧ q.quote ≠ ';' ∧ q.quote ≠ ':' := by
  rcases q.isQuote with single | double
  · rw [single]
    decide
  · rw [double]
    decide

theorem getLast?_text : q.text.getLast? = some q.quote := List.getLast?_concat

/-- The search for a comment passes over the literal, and leaves no quotes open. -/
theorem scan_text : scan none q.text = some none := by
  have opened : scan none (q.quote :: q.content) = some (some q.quote) := by
    rw [scan, if_neg, quoteAfter, if_pos q.isQuote]
    · exact scan_inside q.closed
    · exact fun here => q.quote_cases.2.2.1 here.1
  rw [text, scan_append, opened]
  simp [scan, quoteAfter]

/-- The search for a comma looks into the literal. -/
theorem single_text : Single ('#' :: q.text) ↔ Single q.content := by
  have around : '#' :: q.text = ['#', q.quote] ++ q.content ++ [q.quote] := rfl
  have hash : Level '#' := by decide
  have level : Level q.quote := q.quote_cases.2.1
  rw [around]
  exact single_surrounded q.content (by simp [hash, level]) (by simp [level])

theorem trim_text : trim ('#' :: q.text) = '#' :: q.text := by
  refine Text.trim_eq_self ?_ ?_
  · intro c first
    cases first
    decide
  · intro c last
    rw [List.getLast?_cons_of_ne_nil (by simp [text]), q.getLast?_text] at last
    exact Option.some.inj last ▸ q.quote_cases.1

/-- As an operand, a literal with a hash is a value: the literal as it stands. -/
theorem read_text (r : Register) :
    Transfer.load.read r ('#' :: q.text) = .ok (.load r (.value q.text)) := by
  have kept : Text.trimRight q.text = q.text := by
    have trimmed := q.trim_text
    rw [trim_hash] at trimmed
    exact List.tail_eq_of_cons_eq trimmed
  have read := (Written.immediate q.text).readOperand_text
  simp only [Written.text, Written.operand, Operand.read_trim, kept] at read
  simp only [Transfer.read, read, Except.map]

end Literal

/-- A line that loads a literal into a register, with or without a comment. -/
structure LiteralLoad where
  indent : Gap
  letter : Letter
  literal : Literal
  comment : Option Text

namespace LiteralLoad

variable (l : LiteralLoad)

def code : Text := "LD" ++ l.letter.text ++ " #" ++ l.literal.text

def text : Text :=
  match l.comment with
  | none => l.indent.text ++ l.code
  | some comment => l.indent.text ++ l.code ++ " ;" ++ comment

/-- The comment without the spaces before it and the blanks behind it. -/
def remark : Text :=
  match l.comment with
  | none => []
  | some comment => (Text.trimRight comment).dropWhile (· == ' ')

def line : Line := ⟨l.indent.text, l.code, l.remark⟩

theorem code_eq : l.code = Transfer.load.named l.letter ('#' :: l.literal.text) := by
  simp [code, Transfer.named, Transfer.stem]

theorem getLast?_code : l.code.getLast? = some l.literal.quote := by
  rw [code, List.getLast?_append, l.literal.getLast?_text]
  rfl

theorem trim_code : trim l.code = l.code := by
  refine Text.trim_eq_self ?_ ?_
  · intro c first
    cases first
    decide
  · intro c last
    rw [l.getLast?_code] at last
    exact Option.some.inj last ▸ l.literal.quote_cases.1

theorem scan_code : scan none l.code = some none := by
  have fixed : (∀ c ∈ ("LD" : Text), Plain c) ∧ ∀ c ∈ (" #" : Text), Plain c := by decide
  have letter : ∀ c ∈ l.letter.text, Plain c := by
    have names : ∀ entry ∈ RegisterMap.standard.table.entries, ∀ c ∈ entry.1, Plain c := by
      decide +kernel
    apply plain_of_upper
    rw [l.letter.isName.upper_eq l.letter.spells]
    exact names _ l.letter.listed
  have plain : ∀ c ∈ "LD" ++ l.letter.text ++ " #", Plain c := by
    simp only [List.forall_mem_append]
    exact ⟨⟨fixed.1, letter⟩, fixed.2⟩
  rw [code, scan_append_left plain]
  exact l.literal.scan_text

/-- The line is taken apart as it was put together, whatever stands in the quotes. -/
theorem parse_text : Line.parse l.text = l.line := by
  have some_code : l.code ≠ [] := by simp [code]
  unfold text line remark
  cases l.comment with
  | none => exact parse_code l.indent.layout l.trim_code some_code (by simp [l.scan_code])
  | some comment =>
      have spaced : ∀ d ∈ [' '], Text.isIndent d = true := by decide
      have parsed := parse_comment l.indent.layout l.trim_code some_code l.scan_code spaced comment
      simpa using parsed

theorem hasCode_text : HasCode l.text := by
  rw [hasCode_iff, l.parse_text]
  simp [line, code]

theorem kind_line : l.line.kind = .instruction := by
  have isName := Transfer.load.isName_stem l.letter.listed
  have spells := Transfer.load.spells_stem l.letter
  have word : (Text.cutWord l.code).1 = "LD" ++ l.letter.text := by
    rw [l.code_eq, Transfer.cutWord_named]
    rfl
  have noColon : ("LD" ++ l.letter.text).getLast? ≠ some ':' := fun last =>
    isName.notMem spells (by decide) (by decide) (List.mem_of_getLast? last)
  have closing : l.code.getLast? ≠ some ':' := by
    rw [l.getLast?_code, Ne, Option.some.injEq]
    exact l.literal.quote_cases.2.2.2
  have noDot : ("LD" ++ l.letter.text).head? ≠ some '.' := by simp
  have some_code : l.code.isEmpty = false := rfl
  simp only [Line.kind, line, LineKind.ofCode, l.trim_code, word]
  rw [some_code, if_neg (by simp), if_neg (not_or.mpr ⟨closing, noColon⟩), if_neg noDot]

def converted (size : Size) : Text :=
  l.indent.text ++ "move" ++ size.suffix ++ " " ++ l.letter.register.target ++ ", #" ++
    l.literal.text ++ l.line.suffix

/-- What is wrong with the load if there are several operands in it. -/
def fault : Fault := .operandCount ("LD" ++ l.letter.register.name) 1

/-- The two lines that the load becomes if there are several operands in it. -/
def refused : List Text :=
  [l.indent.text ++ ("; ERROR: LD" ++ l.letter.register.name ++ " requires 1 operand") ++
    l.line.suffix, l.indent.text ++ "; " ++ l.code]

theorem message_fault :
    "; ERROR: " ++ l.fault.message =
      "; ERROR: LD" ++ l.letter.register.name ++ " requires 1 operand" := by
  have one : Text.ofInt 1 = "1" := by decide
  unfold fault Fault.message
  simp [one]

theorem read_code (single : Single l.literal.content) :
    Instruction.read .standard l.code = .ok (.load l.letter.register (.value l.literal.text)) := by
  have some_text : trim ('#' :: l.literal.text) ≠ [] := by simp [l.literal.trim_text]
  rw [l.code_eq, Transfer.read_named_of_single _ _ (l.literal.single_text.mpr single) some_text,
    l.literal.read_text]

theorem read_code_error (parted : ¬ Single l.literal.content) :
    Instruction.read .standard l.code = .error l.fault := by
  have count : ∀ operand, ¬ Sole ('#' :: l.literal.text) operand := fun operand sole =>
    parted (l.literal.single_text.mp sole.single.1)
  rw [l.code_eq, Transfer.read_named_of_count _ _ count]
  rfl

end LiteralLoad

end IE32

open IE32 (LiteralLoad Line smallB)

section Conversion

variable {settings : Settings} (standard : settings.registers = .standard) (l : LiteralLoad)

include standard

theorem convertLine_literal (single : IE32.Single l.literal.content) :
    settings.convertLine l.text = { lines := [l.converted settings.size] } := by
  have kind : (Line.parse l.text).kind = .instruction := l.parse_text ▸ l.kind_line
  have read : IE32.Instruction.read settings.registers (trim (Line.parse l.text).code) =
      .ok (.load l.letter.register (.value l.literal.text)) := by
    rw [standard, l.parse_text, IE32.read_trim]
    exact l.read_code single
  have converts : settings.Converts l.text _ :=
    .instruction l.hasCode_text (by simp [kind]) (by simp [kind]) read rfl
  rw [converts.eq, l.parse_text]
  simp [LiteralLoad.converted, Line.around, LiteralLoad.line, IE64.Source.render]

theorem convertLine_parted (parted : ¬ IE32.Single l.literal.content) :
    settings.convertLine l.text =
      { lines := l.refused
        finding := some (.error { fault := l.fault, source := some l.code }) } := by
  have kind : (Line.parse l.text).kind = .instruction := l.parse_text ▸ l.kind_line
  have failed : IE32.Instruction.read settings.registers (trim (Line.parse l.text).code) =
      .error l.fault := by
    rw [standard, l.parse_text, IE32.read_trim]
    exact l.read_code_error parted
  have converts : settings.Converts l.text _ :=
    .rejected l.hasCode_text (by simp [kind]) (by simp [kind]) failed
  rw [converts.eq, l.parse_text, l.message_fault]
  simp only [LiteralLoad.refused, Line.around, LiteralLoad.line, l.trim_code]

end Conversion

/-- **A quoted literal is safe from the search for comments, but not from that for commas.**  A line
that loads one is always taken apart as it was put together.  It becomes the one line that it
should, with nothing recorded, exactly if every comma in the quotes stands at another depth than
zero; otherwise it is refused for the number of its operands. -/
theorem literal_load {s : Session} (standard : s.settings.registers = .standard) (l : LiteralLoad) :
    Line.parse l.text = ⟨l.indent.text, l.code, l.remark⟩ ∧
      (s.convertLine l.text = ([l.converted s.settings.size], s) ↔ IE32.Single l.literal.content) ∧
      (¬ IE32.Single l.literal.content →
        s.convertLine l.text =
          (l.refused, s.record [.error { fault := l.fault, source := some l.code }])) := by
  have refused : ¬ IE32.Single l.literal.content →
      s.convertLine l.text =
        (l.refused, s.record [.error { fault := l.fault, source := some l.code }]) := by
    intro parted
    simp [Session.convertLine, convertLine_parted standard l parted]
  refine ⟨l.parse_text, ⟨?_, ?_⟩, refused⟩
  · intro same
    by_contra parted
    rw [refused parted, Prod.mk.injEq] at same
    have lines := congrArg List.length same.1
    simp [LiteralLoad.refused] at lines
  · intro single
    simp [Session.convertLine, convertLine_literal standard l single]

/-- A literal with a semicolon, a colon, a quote of the other kind, and a comma in brackets. -/
def awkwardLoad : LiteralLoad where
  indent := .tab
  letter := smallB
  literal := ⟨'\'', ";:\"[,]", .inl rfl, by decide⟩
  comment := some "  it's \t"

theorem awkwardLoad_converted :
    let s : Session := { settings := { size := .quad } }
    awkwardLoad.text = "\tLDb #';:\"[,]' ;  it's \t" ∧ IE32.Single awkwardLoad.literal.content ∧
      s.convertLine awkwardLoad.text = ([awkwardLoad.converted .quad], s) ∧
      awkwardLoad.converted .quad = "\tmove.q r5, #';:\"[,]'    ; it's" := by
  intro s
  have single : IE32.Single awkwardLoad.literal.content := by decide
  exact ⟨by decide, single, (literal_load rfl awkwardLoad).2.1.mpr single, by decide⟩

/-- A comma in quotes is taken for one between operands.  Where all that follows the first comma is
an operand anyway, it is not. -/
theorem quoted_comma_refused :
    let s : Session := { settings := { banner := false } }
    (s.convertLine "LDA #','").1 = ["; ERROR: LDA requires 1 operand", "; LDA #','"] ∧
      (s.convertLine "LDA #','").2.diagnostics.errorCount = 1 ∧
      (s.convertLine "LOAD A, #','").1 = ["move.l r1, #','"] := by
  decide +kernel

end Retarget
