/-
# Retarget.Proofs.IE32.Parsing -- a line taken apart

A line has code if it is neither blank nor all comment (`HasCode`).  `Line.Parsed` says what is
then known of its parts: the indent is spaces and tabs, the code starts at the first character
that is not blank and has no semicolon outside quotes, and no quotes are open where a comment
starts.  The other way round, a line put together of an indent, code that leaves no quotes open and
a comment is taken apart into them (`parse_code`, `parse_comment`).
-/
import Retarget.Proofs.IE32.Quotes

namespace Retarget.IE32

set_option autoImplicit false

open Text (trim AllBlank isIndent dropRightWhile)

/-- The line is neither blank nor all comment. -/
def HasCode (raw : Text) : Prop := trim raw ≠ [] ∧ (trim raw).head? ≠ some ';'

instance (raw : Text) : Decidable (HasCode raw) := inferInstanceAs (Decidable (_ ∧ _))

/-- The text may stand before the comment of the line: it has no semicolon outside quotes, and if
there is a comment it leaves no quotes open. -/
def Line.Admits (line : Line) (body : Text) : Prop :=
  ∃ quote, scan none body = some quote ∧ (line.comment ≠ [] → quote = none)

/-- What is known of the parts of a line that has code. -/
structure Line.Parsed (raw : Text) (line : Line) : Prop where
  indent : ∀ c ∈ line.indent, isIndent c = true
  first : ∃ c, line.code.head? = some c ∧ Text.isBlank c = false ∧ c ≠ ';'
  scanned : line.Admits line.code
  comment : line.comment.head? ≠ some ' '
  subset : line.indent ⊆ raw ∧ line.code ⊆ raw ∧ line.comment ⊆ raw

/-- The code of a text with a comment leaves no quotes open, with or without the spaces and tabs
behind it. -/
theorem scan_dropRightWhile {code : Text} (scanned : scan none code = some none) :
    scan none (dropRightWhile isIndent code) = some none := by
  obtain ⟨right, layout, split⟩ := Text.exists_dropRightWhile isIndent code
  have plain : ∀ c ∈ right, Plain c :=
    fun c member => plain_of_isBlank (Text.isBlank_of_isIndent (layout c member))
  rw [← scanned]
  conv_rhs => rw [split]
  exact (scan_append_right plain _).symm

theorem trim_dropWhile_isIndent (raw : Text) : trim (raw.dropWhile isIndent) = trim raw := by
  have split : raw = raw.takeWhile isIndent ++ raw.dropWhile isIndent :=
    List.takeWhile_append_dropWhile.symm
  have blank : AllBlank (raw.takeWhile isIndent) :=
    fun c member => Text.isBlank_of_isIndent (List.mem_takeWhile_imp member)
  conv_rhs => rw [split]
  exact (Text.trim_append_left _ blank).symm

theorem splitComment_cases (t : Text) :
    (∃ code comment, t = code ++ ';' :: comment ∧ scan none code = some none ∧
        splitComment t = (dropRightWhile isIndent code, comment.dropWhile (· == ' '))) ∨
      (scan none t ≠ none ∧ splitComment t = (t, [])) := by
  unfold splitComment
  cases cut : cutComment none t with
  | some parts =>
      obtain ⟨split, scanned⟩ := cutComment_eq_some cut
      exact .inl ⟨parts.1, parts.2, split, scanned, rfl⟩
  | none => exact .inr ⟨(cutComment_eq_none_iff none t).mp cut, rfl⟩

/-- **The parts of a line that has code.** -/
theorem parse_parsed {raw : Text} (code : HasCode raw) : Line.Parsed raw (Line.parse raw) := by
  obtain ⟨c, start⟩ : ∃ c, (trim raw).head? = some c :=
    Option.ne_none_iff_exists'.mp (by simpa using code.1)
  have solid : Text.isBlank c = false := Text.head?_trim start
  have noSemicolon : c ≠ ';' := fun same => code.2 (same ▸ start)
  have noIndent := Text.isIndent_of_solid solid
  have kept := Text.trim_subset raw
  have indents : (raw.takeWhile isIndent) ⊆ raw := (List.takeWhile_sublist _).subset
  have layout : ∀ c ∈ raw.takeWhile isIndent, isIndent c = true :=
    fun c member => List.mem_takeWhile_imp member
  simp only [Line.parse, trim_dropWhile_isIndent]
  rcases splitComment_cases (trim raw) with ⟨before, after, split, scanned, same⟩ | ⟨scanned, same⟩
  · rw [same]
    have startBefore : before.head? = some c := by
      cases before with
      | nil =>
          rw [split] at start
          exact absurd (Option.some.inj start).symm noSemicolon
      | cons d rest =>
          rw [split] at start
          exact start
    have keptBefore : before ⊆ raw := fun d member => kept (split ▸ List.mem_append_left _ member)
    have keptAfter : after ⊆ raw := fun d member =>
      kept (split ▸ List.mem_append_right _ (List.mem_cons_of_mem _ member))
    exact {
      indent := layout
      first := ⟨c, Text.head?_dropRightWhile startBefore noIndent, solid, noSemicolon⟩
      scanned := ⟨none, scan_dropRightWhile scanned, fun _ => rfl⟩
      comment := fun space => by simpa using Text.head?_dropWhile space
      subset := ⟨indents,
        fun d member => keptBefore (Text.dropRightWhile_subset _ _ member),
        fun d member => keptAfter ((List.dropWhile_sublist _).subset member)⟩ }
  · rw [same]
    obtain ⟨quote, scanned⟩ := Option.ne_none_iff_exists'.mp scanned
    exact {
      indent := layout
      first := ⟨c, start, solid, noSemicolon⟩
      scanned := ⟨quote, scanned, fun comment => absurd rfl comment⟩
      comment := by simp
      subset := ⟨indents, kept, by simp⟩ }

/-- A line has code exactly if some is found. -/
theorem hasCode_iff (raw : Text) : HasCode raw ↔ (Line.parse raw).code ≠ [] := by
  constructor
  · intro code empty
    obtain ⟨c, first, -⟩ := (parse_parsed code).first
    simp [empty] at first
  · simp only [Line.parse, trim_dropWhile_isIndent]
    rcases splitComment_cases (trim raw) with
      ⟨before, after, split, scanned, same⟩ | ⟨scanned, same⟩
    · rw [same]
      intro some_code
      have some_text : before ≠ [] := by
        rintro rfl
        exact some_code rfl
      rw [HasCode, split, List.head?_append_of_ne_nil _ some_text]
      exact ⟨by simp, head?_ne_of_scan scanned⟩
    · rw [same]
      obtain ⟨quote, scanned⟩ := Option.ne_none_iff_exists'.mp scanned
      exact fun some_code => ⟨some_code, head?_ne_of_scan scanned⟩

/-! ## A line put together -/

theorem Line.suffix_of_comment {line : Line} (some_comment : line.comment ≠ []) :
    line.suffix = "    " ++ ';' :: ' ' :: line.comment := by
  simp [Line.suffix, some_comment]

/-- The space before a comment is all that is dropped there. -/
theorem Line.dropWhile_comment {line : Line} (comment : line.comment.head? ≠ some ' ') :
    (' ' :: line.comment).dropWhile (· == ' ') = line.comment := by
  rw [List.dropWhile_cons_of_pos (by decide)]
  refine Text.dropWhile_eq_self fun c first => ?_
  rw [beq_eq_false_iff_ne]
  exact fun space => comment (space ▸ first)

section Layout

variable {indent code : Text} (layout : ∀ c ∈ indent, isIndent c = true)

section Start

variable {c : Char} (first : code.head? = some c) (solid : Text.isBlank c = false)

include layout first

theorem takeWhile_isIndent_layout (other : isIndent c = false) (behind : Text) :
    (indent ++ code ++ behind).takeWhile isIndent = indent := by
  rw [List.append_assoc]
  refine Text.takeWhile_append layout fun d start => ?_
  rw [List.head?_append, first] at start
  exact Option.some.inj start ▸ other

include solid

/-- Without a comment the code loses the blanks behind it. -/
theorem parse_uncommented (scanned : scan none code ≠ none) :
    Line.parse (indent ++ code) = ⟨indent, Text.trimRight code, []⟩ := by
  have blank : AllBlank indent := fun c member => Text.isBlank_of_isIndent (layout c member)
  have start : (indent ++ code).takeWhile isIndent = indent := by
    simpa using takeWhile_isIndent_layout layout first (Text.isIndent_of_solid solid) []
  have left : Text.trimLeft code = code := by
    refine Text.dropWhile_eq_self fun d begins => ?_
    rw [first] at begins
    exact Option.some.inj begins ▸ solid
  have body : trim (indent ++ code) = Text.trimRight code := by
    rw [Text.trim_append_left code blank, trim, left]
  have uncut : cutComment none (Text.trimRight code) = none := by
    rw [cutComment_eq_none_iff, scan_trimRight]
    exact scanned
  simp only [Line.parse, trim_dropWhile_isIndent, start, body, splitComment, uncut]

/-- The comment loses the spaces before it and the blanks behind it. -/
theorem parse_commented (last : ∀ d, code.getLast? = some d → isIndent d = false)
    (scanned : scan none code = some none) {gap : Text} (spaced : ∀ d ∈ gap, isIndent d = true)
    (comment : Text) :
    Line.parse (indent ++ code ++ gap ++ ';' :: comment) =
      ⟨indent, code, (Text.trimRight comment).dropWhile (· == ' ')⟩ := by
  have start : (indent ++ code ++ gap ++ ';' :: comment).takeWhile isIndent = indent := by
    rw [List.append_assoc (indent ++ code)]
    exact takeWhile_isIndent_layout layout first (Text.isIndent_of_solid solid) _
  have body : trim (indent ++ code ++ gap ++ ';' :: comment) =
      code ++ gap ++ ';' :: Text.trimRight comment := by
    have blank : AllBlank indent := fun c member => Text.isBlank_of_isIndent (layout c member)
    have left : Text.trimLeft (code ++ gap) = code ++ gap := by
      refine Text.dropWhile_eq_self fun d begins => ?_
      rw [List.head?_append, first] at begins
      exact Option.some.inj begins ▸ solid
    rw [List.append_assoc indent, List.append_assoc indent, Text.trim_append_left _ blank,
      Text.trim_append_mark (by decide), left]
  have plain : ∀ d ∈ gap, Plain d :=
    fun d member => plain_of_isBlank (Text.isBlank_of_isIndent (spaced d member))
  have cut := cutComment_append ((scan_append_right plain code).trans scanned)
    (Text.trimRight comment)
  have kept : dropRightWhile isIndent (code ++ gap) = code := by
    rw [Text.dropRightWhile_append isIndent code spaced]
    exact Text.dropRightWhile_eq_self last
  simp only [Line.parse, trim_dropWhile_isIndent, start, body, splitComment, cut, kept]

end Start

variable (trimmed : trim code = code) (some_code : code ≠ [])

include layout trimmed some_code

theorem parse_code (scanned : scan none code ≠ none) :
    Line.parse (indent ++ code) = ⟨indent, code, []⟩ := by
  obtain ⟨c, first, solid⟩ := Text.head?_of_trimmed trimmed some_code
  rw [parse_uncommented layout first solid scanned, Text.trimRight_of_trimmed trimmed]

theorem parse_comment (scanned : scan none code = some none) {gap : Text}
    (spaced : ∀ d ∈ gap, isIndent d = true) (comment : Text) :
    Line.parse (indent ++ code ++ gap ++ ';' :: comment) =
      ⟨indent, code, (Text.trimRight comment).dropWhile (· == ' ')⟩ := by
  obtain ⟨c, first, solid⟩ := Text.head?_of_trimmed trimmed some_code
  refine parse_commented layout first solid (fun d last => ?_) scanned spaced comment
  rw [← trimmed] at last
  exact Text.isIndent_of_solid (Text.getLast?_trim last)

end Layout

end Retarget.IE32
