/-
# Retarget.Proofs.DirectiveLines -- the arguments of a directive, character for character

A directive line is an indent, a keyword in any case, blanks, arguments, and a comment or none.  On
its way it is searched for a comment, told from a label, cut at its first blanks and trimmed again
and again.  None of this touches the arguments: the search passes over what is quoted
(`scan_of_shielded`), the line is no label if they do not end with a colon (`kind_line`), and what
is trimmed has no blanks at its ends.  So the arguments stand behind the new keyword as they stood
behind the old one (`Keyword.render_form`); an equate is cut at its first blank and nowhere else.

A text in quotes is always such an argument, whatever it holds (`Literal.arguments`).
-/
import Retarget.Proofs.Comments
import Retarget.Proofs.Literals

namespace Retarget

set_option autoImplicit false

open Text (trim trimLeft trimRight isBlank isIndent Spells)

namespace IE32

/-! ## Keywords and arguments -/

/-- The keywords that are replaced and nothing else, in upper case, with what replaces them. -/
def keywordRows : List (Text × Text) :=
  [(".ORG", "org"), (".WORD", "dc.l"), (".BYTE", "dc.b"), (".SPACE", "ds.b"), (".ASCII", "dc.b"),
    (".INCBIN", "incbin")]

inductive Keyword where
  | replaced (row : Row keywordRows)
  | equate
  | includeFile

/-- The arguments of a directive: some text, with no blanks around it, every semicolon in quotes,
and no colon at the end. -/
structure Arguments where
  text : Text
  some_text : text ≠ []
  trimmed : trim text = text
  shielded : Shielded text
  noColon : text.getLast? ≠ some ':'

namespace Keyword

def name : Keyword → Text
  | .replaced row => row.source
  | .equate => ".EQU"
  | .includeFile => ".INCLUDE"

/-- What the directive is to become. -/
def body (args : Text) : Keyword → Text
  | .replaced row => row.target ++ " " ++ args
  | .equate =>
      let name := args.takeWhile (!isBlank ·)
      let value := trim (args.dropWhile (!isBlank ·))
      if value = [] then name ++ " equ" else name ++ " equ " ++ value
  | .includeFile =>
      "include " ++ if args = "\"ie32.inc\"" then ("\"ie64.inc\"" : Text) else args

def form : Keyword → DirectiveForm
  | .replaced row => .keyword row.target
  | .equate => .equate
  | .includeFile => .includeFile

theorem get?_name (k : Keyword) : DirectiveTable.standard.get? k.name = some k.form := by
  cases k with
  | replaced row =>
      have rows : ∀ row ∈ keywordRows,
          DirectiveTable.standard.get? row.1 = some (.keyword row.2) := by decide +kernel
      exact rows _ row.listed
  | equate | includeFile => decide +kernel

/-- The keywords are those of the standard table. -/
theorem mem_keys_iff (name : Text) :
    name ∈ DirectiveTable.standard.keys ↔ ∃ k : Keyword, k.name = name := by
  constructor
  · intro listed
    have cases : ∀ name ∈ DirectiveTable.standard.keys,
        name = ".EQU" ∨ name = ".INCLUDE" ∨ ∃ row ∈ keywordRows, row.1 = name := by decide +kernel
    rcases cases name listed with rfl | rfl | ⟨row, member, same⟩
    · exact ⟨.equate, rfl⟩
    · exact ⟨.includeFile, rfl⟩
    · exact ⟨.replaced ⟨row.1, row.2, member⟩, same⟩
  · rintro ⟨k, rfl⟩
    exact List.mem_map.mpr ⟨_, (Table.get?_eq_some_iff _ _ _).mp k.get?_name, rfl⟩

/-- A keyword is a dot and letters: it has an upper case of its own, no blank and no colon. -/
theorem name_spec (k : Keyword) :
    k.name.head? = some '.' ∧
      ∀ c ∈ k.name, c.toNat < 0x80 ∧ Plain c ∧ isBlank c = false ∧ c ≠ ':' := by
  have all : ∀ name ∈ DirectiveTable.standard.keys, name.head? = some '.' ∧
      ∀ c ∈ name, c.toNat < 0x80 ∧ Plain c ∧ isBlank c = false ∧ c ≠ ':' := by decide +kernel
  exact all _ ((mem_keys_iff _).mpr ⟨k, rfl⟩)

end Keyword

namespace Arguments

variable (a : Arguments)

theorem solid_last {c : Char} (last : a.text.getLast? = some c) : isBlank c = false :=
  Text.getLast?_trim (a.trimmed.symm ▸ last)

/-- Nothing is trimmed behind arguments. -/
theorem trimRight_append (before : Text) : trimRight (before ++ a.text) = before ++ a.text := by
  refine Text.dropRightWhile_eq_self fun c last => ?_
  rw [List.getLast?_append_of_ne_nil _ a.some_text] at last
  exact a.solid_last last

theorem trimLeft_append (behind : Text) : trimLeft (a.text ++ behind) = a.text ++ behind := by
  obtain ⟨c, first, solid⟩ := Text.head?_of_trimmed a.trimmed a.some_text
  refine Text.dropWhile_eq_self fun d start => ?_
  rw [List.head?_append, first] at start
  exact Option.some.inj start ▸ solid

/-- Arguments with nothing behind their first word are that word. -/
theorem takeWhile_of_blank (blank : trim (a.text.dropWhile (!isBlank ·)) = []) :
    a.text.takeWhile (!isBlank ·) = a.text := by
  have split : a.text.takeWhile (!isBlank ·) ++ a.text.dropWhile (!isBlank ·) = a.text :=
    List.takeWhile_append_dropWhile
  have none_left : a.text.dropWhile (!isBlank ·) = [] := by
    -- Otherwise the last of them would be blank.
    by_contra some_left
    obtain ⟨rest, c, ends⟩ := List.eq_nil_or_concat _ |>.resolve_left some_left
    have last : a.text.getLast? = some c := by
      rw [← split, ends, List.concat_eq_append, ← List.append_assoc, List.getLast?_concat]
    have blankLast := (Text.trim_eq_nil_iff _).mp blank c (by rw [ends]; simp)
    simp [a.solid_last last] at blankLast
  rw [none_left, List.append_nil] at split
  exact split

end Arguments

/-- The arguments stand behind the new keyword as they stood behind the old one. -/
theorem Keyword.render_form (k : Keyword) (a : Arguments) :
    k.form.render a.text = k.body a.text := by
  cases k with
  | replaced row => exact a.trimRight_append (row.target ++ " ")
  | equate =>
      unfold form body DirectiveForm.render Text.cutWord
      simp only [a.trimmed, List.isEmpty_iff]
      split
      · rename_i blank
        rw [a.trimLeft_append, a.takeWhile_of_blank blank]
      · rfl
  | includeFile =>
      unfold form body DirectiveForm.render
      simp only [a.trimmed]
      unfold DirectiveForm.standardInclude
      split
      · decide
      · exact a.trimRight_append "include "

/-! ## Lines -/

/-- A directive line, with or without a comment.  A comment needs arguments that leave no quotes
open. -/
structure DirectiveLine where
  indent : Gap
  keyword : Keyword
  /-- The keyword as it is written. -/
  word : Text
  spells : Spells word keyword.name
  gap : Gap
  parted : gap.text ≠ []
  args : Arguments
  /-- What stands before the semicolon, and what stands behind it. -/
  tail : Option (Gap × Text)
  closed : tail ≠ none → args.text.foldl quoteAfter none = none

namespace DirectiveLine

variable (l : DirectiveLine)

def code : Text := l.word ++ l.gap.text ++ l.args.text

def text : Text :=
  match l.tail with
  | none => l.indent.text ++ l.code
  | some (gap, comment) => l.indent.text ++ l.code ++ gap.text ++ ';' :: comment

/-- The comment without the spaces before it and the blanks behind it. -/
def remark : Text :=
  match l.tail with
  | none => []
  | some (_, comment) => (trimRight comment).dropWhile (· == ' ')

def line : Line := ⟨l.indent.text, l.code, l.remark⟩

theorem upper_word : Text.upper l.word = l.keyword.name :=
  Text.upper_of_spells (fun c member => (l.keyword.name_spec.2 c member).1) l.spells

theorem solid_word : ∀ c ∈ l.word, isBlank c = false := by
  intro c member
  cases blank : isBlank c with
  | false => rfl
  | true =>
      have fixed : ∀ d ∈ Text.blanks, d.toUpper = d := by decide +kernel
      have inName := Text.mem_of_spells l.spells (fixed c ((Text.isBlank_iff c).mp blank)) member
      rw [(l.keyword.name_spec.2 c inName).2.2.1] at blank
      contradiction

theorem head?_word : l.word.head? = some '.' := by
  obtain ⟨rest, start⟩ := List.head?_eq_some_iff.mp l.keyword.name_spec.1
  have spells : l.word.map Char.toUpper = '.' :: rest := l.spells.trans start
  obtain ⟨c, others, word, upper, -⟩ := List.map_eq_cons_iff.mp spells
  rw [word, List.head?_cons, Text.eq_of_toUpper (by decide) upper]

theorem getLast?_code : l.code.getLast? = l.args.text.getLast? :=
  List.getLast?_append_of_ne_nil _ l.args.some_text

theorem head?_code : l.code.head? = some '.' := by
  rw [code, List.append_assoc, List.head?_append, l.head?_word]
  rfl

theorem code_ne_nil : l.code ≠ [] := by
  intro empty
  have start := l.head?_code
  simp [empty] at start

theorem trim_code : trim l.code = l.code := by
  refine Text.trim_eq_self ?_ ?_
  · intro c first
    rw [l.head?_code] at first
    cases first
    decide
  · intro c last
    rw [l.getLast?_code] at last
    exact l.args.solid_last last

theorem cutWord_code : Text.cutWord l.code = (l.word, l.args.text) := by
  have some_word : l.word ≠ [] := by
    intro empty
    have start := l.head?_word
    simp [empty] at start
  have cut := Text.cutWord_eq l.args.text Text.allBlank_nil some_word l.solid_word l.gap.allBlank
    (fun none_left => absurd none_left l.parted)
  simpa [code, l.args.trimmed] using cut

theorem scan_code : scan none l.code = some (l.args.text.foldl quoteAfter none) := by
  have plain : ∀ c ∈ (Text.cutWord l.code).1, Plain c := by
    rw [l.cutWord_code]
    apply plain_of_upper
    rw [l.upper_word]
    exact fun c member => (l.keyword.name_spec.2 c member).2.1
  rw [scan_cutWord plain, l.cutWord_code]
  exact scan_of_shielded l.args.shielded

/-- The line is taken apart as it was put together. -/
theorem parse_text : Line.parse l.text = l.line := by
  have scanned := l.scan_code
  have closed := l.closed
  unfold text line remark
  cases tail : l.tail with
  | none => exact parse_code l.indent.layout l.trim_code l.code_ne_nil (by simp [scanned])
  | some behind =>
      rw [closed (by simp [tail])] at scanned
      exact parse_comment l.indent.layout l.trim_code l.code_ne_nil scanned behind.1.layout behind.2

theorem hasCode_text : HasCode l.text := by
  rw [hasCode_iff, l.parse_text]
  exact l.code_ne_nil

theorem kind_line : l.line.kind = .directive := by
  have noColon : l.word.getLast? ≠ some ':' := by
    intro last
    have inName := Text.mem_of_spells l.spells (by decide) (List.mem_of_getLast? last)
    exact absurd rfl (l.keyword.name_spec.2 _ inName).2.2.2
  have noLabel : l.code.getLast? ≠ some ':' := l.getLast?_code ▸ l.args.noColon
  have some_code : l.code.isEmpty = false := List.isEmpty_eq_false_iff.mpr l.code_ne_nil
  simp only [Line.kind, line, LineKind.ofCode, l.trim_code, l.cutWord_code, some_code]
  rw [if_neg (by simp), if_neg (not_or.mpr ⟨noLabel, noColon⟩), if_pos l.head?_word]

end DirectiveLine

/-! ## Quoted data -/

/-- A text in quotes is an argument, whatever it holds. -/
def Literal.arguments (q : Literal) : Arguments where
  text := q.text
  some_text := by simp [Literal.text]
  trimmed := by
    refine Text.trim_eq_self ?_ ?_
    · intro c first
      cases first
      exact q.quote_cases.1
    · intro c last
      rw [q.getLast?_text] at last
      exact Option.some.inj last ▸ q.quote_cases.1
  shielded := shielded_of_scan (by simp [q.scan_text])
  noColon := by
    rw [q.getLast?_text, Ne, Option.some.injEq]
    exact q.quote_cases.2.2.2

/-- A line of string data. -/
def Literal.dataLine (q : Literal) (indent : Gap) {word : Text} (spells : Spells word ".ASCII")
    {gap : Gap} (parted : gap.text ≠ []) (tail : Option (Gap × Text)) : DirectiveLine where
  indent
  keyword := .replaced ⟨".ASCII", "dc.b", by decide⟩
  word
  spells
  gap
  parted
  args := q.arguments
  tail
  closed _ := foldl_quoteAfter_of_scan q.scan_text

end IE32

open IE32 (DirectiveLine Keyword Literal Gap Line DirectiveTable)

theorem convertLine_directive {settings : Settings} (standard : settings.directives = .standard)
    (l : DirectiveLine) :
    settings.convertLine l.text =
      { lines := [l.indent.text ++ l.keyword.body l.args.text ++ l.line.suffix] } := by
  have kind : (Line.parse l.text).kind = .directive := l.parse_text ▸ l.kind_line
  have known : settings.directives.get? (Text.upper (Text.cutWord (Line.parse l.text).code).1) =
      some l.keyword.form := by
    rw [standard, l.parse_text, show l.line.code = l.code from rfl, l.cutWord_code, l.upper_word,
      l.keyword.get?_name]
  have converts : settings.Converts l.text _ := .directive l.hasCode_text kind known
  rw [converts.eq, l.parse_text, show l.line.code = l.code from rfl, l.cutWord_code,
    l.keyword.render_form l.args]
  rfl

/-- **The arguments of a directive survive.**  A line with a keyword of the standard table, in any
case, becomes one line, and nothing is recorded: behind the indent stands what the keyword makes of
the arguments, character for character, and behind that the comment.  Text in quotes is such an
argument whatever it holds. -/
theorem directive_arguments_survive {s : Session}
    (standard : s.settings.directives = .standard) :
    (∀ name, name ∈ DirectiveTable.standard.keys ↔ ∃ k : Keyword, k.name = name) ∧
      (∀ l : DirectiveLine, Line.parse l.text = ⟨l.indent.text, l.code, l.remark⟩ ∧
        s.convertLine l.text =
          ([l.indent.text ++ l.keyword.body l.args.text ++ (Line.parse l.text).suffix], s)) ∧
      ∀ (q : Literal) (indent gap : Gap) (word : Text) (spells : Spells word ".ASCII")
        (parted : gap.text ≠ []) (tail : Option (Gap × Text)),
        let l := q.dataLine indent spells parted tail
        s.convertLine l.text =
          ([indent.text ++ "dc.b " ++ q.text ++ (Line.parse l.text).suffix], s) := by
  have survives : ∀ l : DirectiveLine, s.convertLine l.text =
      ([l.indent.text ++ l.keyword.body l.args.text ++ (Line.parse l.text).suffix], s) := by
    intro l
    rw [l.parse_text]
    simp [Session.convertLine, convertLine_directive standard l]
  refine ⟨Keyword.mem_keys_iff, fun l => ⟨l.parse_text, survives l⟩, ?_⟩
  intro q indent gap word spells parted tail l
  have data : l.keyword.body l.args.text = "dc.b " ++ q.text := rfl
  rw [survives l, data, ← List.append_assoc]
  rfl

/-- String data with a semicolon, a comma, a colon, a run of blanks and the other quote. -/
def awkwardData : Literal := ⟨'"', "a;  b,\tit's:", .inr rfl, by decide⟩

theorem awkwardData_survives :
    let s : Session := { settings := { size := .quad } }
    (s.convertLine "  .Ascii\t\"a;  b,\tit's:\"  ; say \"so\" ").1 =
        (["  dc.b \"a;  b,\tit's:\"    ; say \"so\""] : List Text) ∧
      (s.convertLine ".equ X+1 \t 'a ; b").1 = (["X+1 equ 'a ; b"] : List Text) := by
  intro s
  have data := (directive_arguments_survive (s := s) rfl).2.2 awkwardData ⟨"  ", by decide⟩
    ⟨"\t", by decide⟩ ".Ascii" (by decide) (by decide) (some (⟨"  ", by decide⟩, " say \"so\" "))
  have equate := (directive_arguments_survive (s := s) rfl).2.1
    ⟨⟨"", by decide⟩, .equate, ".equ", by decide, ⟨" ", by decide⟩, by decide,
      ⟨"X+1 \t 'a ; b", by decide, by decide, IE32.shielded_of_scan (by decide), by decide⟩, none,
      fun some_tail => absurd rfl some_tail⟩
  constructor
  · refine (congrArg Prod.fst data).trans ?_
    decide +kernel
  · refine (congrArg Prod.fst equate.2).trans ?_
    decide +kernel

end Retarget
