/-
# Retarget.Proofs.Reparsing -- a line put together again is taken apart as before

A line is taken apart with three trims of different reach: spaces and tabs before the code and
before the mark of a comment, spaces behind the mark, every blank at the two ends of the line.  Put
together, its parts are its parts again (`parse_around`): code before a comment no longer ends with
what the trim before the mark takes away, and a comment neither begins nor ends with what is taken
from it (`parse_ends`).  Only without a comment the end of the code is the end of the line, and
blanks that the mark of an empty comment had protected are lost.

So a label, which is put together again and nothing else, stays what it is when it is converted a
second time, unless that happens to it.
-/
import Retarget.Proofs.Conversion
import Retarget.Session

namespace Retarget

set_option autoImplicit false

open IE32 (HasCode Line LineKind)
open Text (trimRight isIndent isBlank)

namespace IE32

/-- A comment does not end with a blank, and code before a comment ends with neither a space nor a
tab. -/
theorem parse_ends (raw : Text) :
    (∀ c, (Line.parse raw).comment.getLast? = some c → isBlank c = false) ∧
      ((Line.parse raw).comment ≠ [] →
        ∀ c, (Line.parse raw).code.getLast? = some c → isIndent c = false) := by
  simp only [Line.parse, trim_dropWhile_isIndent]
  rcases splitComment_cases (Text.trim raw) with ⟨before, after, split, -, same⟩ | ⟨-, same⟩
  · rw [same]
    refine ⟨fun c last => ?_, fun _ c last => Text.getLast?_dropRightWhile last⟩
    -- The comment is the end of the trimmed line.
    obtain ⟨spaces, around⟩ := List.dropWhile_suffix (l := after) (· == ' ')
    have ends : (Text.trim raw).getLast? = some c := by
      rw [split, ← around, List.getLast?_append, List.getLast?_cons, List.getLast?_append, last]
      rfl
    exact Text.getLast?_trim ends
  · rw [same]
    simp

theorem ofCode_trimRight (code : Text) :
    LineKind.ofCode (trimRight code) = LineKind.ofCode code := by
  simp only [LineKind.ofCode, Text.trim_trimRight]

/-- The parts of a line, put together, are its parts again, but for blanks at the end of code
that has no comment behind it. -/
theorem parse_around {raw : Text} (code : HasCode raw) :
    Line.parse ((Line.parse raw).around (Line.parse raw).code) =
      { Line.parse raw with
        code := if (Line.parse raw).comment = [] then trimRight (Line.parse raw).code
          else (Line.parse raw).code } := by
  have parsed := parse_parsed code
  obtain ⟨c, first, solid, -⟩ := parsed.first
  obtain ⟨quote, scanned, closed⟩ := parsed.scanned
  obtain ⟨commentEnds, codeEnds⟩ := parse_ends raw
  by_cases none_left : (Line.parse raw).comment = []
  · have suffix : (Line.parse raw).suffix = [] := by simp [Line.suffix, none_left]
    rw [Line.around, suffix, List.append_nil, if_pos none_left,
      parse_uncommented parsed.indent first solid (by simp [scanned]), ← none_left]
  · have spaced : ∀ d ∈ ("    " : Text), isIndent d = true := by decide
    have kept : trimRight (' ' :: (Line.parse raw).comment) = ' ' :: (Line.parse raw).comment := by
      refine Text.dropRightWhile_eq_self fun d last => ?_
      rw [List.getLast?_cons_of_ne_nil none_left] at last
      exact commentEnds d last
    rw [Line.around, Line.suffix_of_comment none_left, ← List.append_assoc, if_neg none_left,
      parse_commented parsed.indent first solid (codeEnds none_left)
        (closed none_left ▸ scanned) spaced, kept, Line.dropWhile_comment parsed.comment]

theorem kind_around {raw : Text} (code : HasCode raw) :
    (Line.parse ((Line.parse raw).around (Line.parse raw).code)).kind = (Line.parse raw).kind := by
  rw [parse_around code]
  unfold Line.kind
  split
  · exact ofCode_trimRight _
  · rfl

theorem hasCode_around {raw : Text} (code : HasCode raw) :
    HasCode ((Line.parse raw).around (Line.parse raw).code) := by
  obtain ⟨c, first, solid, -⟩ := (parse_parsed code).first
  rw [hasCode_iff, parse_around code]
  split
  · intro empty
    have kept := Text.head?_dropRightWhile first solid
    rw [show Text.dropRightWhile isBlank (Line.parse raw).code = [] from empty] at kept
    simp at kept
  · exact (hasCode_iff raw).mp code

end IE32

/-- A label is put together again, and nothing is recorded. -/
theorem convertLine_label (s : Session) {raw : Text} (code : HasCode raw)
    (label : (Line.parse raw).kind = .label) :
    s.convertLine raw = ([(Line.parse raw).around (Line.parse raw).code], s) := by
  have converts : s.settings.Converts raw _ := .label code label
  simp [Session.convertLine, converts.eq]

/-- **A line that has code is taken apart in the same way when it is put together again**: indent,
comment and kind are the same, and so is the code, but for blanks at its end where there is no
comment.  A label is the same line after a second conversion exactly if that does not happen. -/
theorem reparsed_line {raw : Text} (code : HasCode raw) :
    let p := Line.parse raw
    let q := Line.parse (p.indent ++ p.code ++ p.suffix)
    (q.indent = p.indent ∧ q.comment = p.comment ∧ q.kind = p.kind ∧
        q.code = if p.comment = [] then trimRight p.code else p.code) ∧
      ∀ s : Session, p.kind = .label →
        ∃ line, s.convertLine raw = ([line], s) ∧
          (s.convertLine line = ([line], s) ↔ p.comment ≠ [] ∨ trimRight p.code = p.code) := by
  intro p q
  have again : q = { p with code := if p.comment = [] then trimRight p.code else p.code } :=
    IE32.parse_around code
  have kind : q.kind = p.kind := IE32.kind_around code
  refine ⟨⟨by rw [again], by rw [again], kind, by rw [again]⟩, ?_⟩
  intro s label
  refine ⟨p.around p.code, convertLine_label s code label, ?_⟩
  have second : s.convertLine (p.around p.code) = ([q.around q.code], s) :=
    convertLine_label s (IE32.hasCode_around code) (kind.trans label)
  -- The second line differs from the first by its code alone.
  have body : q.around q.code = p.indent ++ q.code ++ p.suffix := by
    rw [again]
    rfl
  have same : q.around q.code = p.around p.code ↔ q.code = p.code := by
    rw [body, Line.around, List.append_left_inj, List.append_right_inj]
  rw [second, Prod.mk.injEq, List.cons.injEq, same, again]
  by_cases none_left : p.comment = []
  · simp [none_left]
  · simp [none_left]

/-- A label with a no-break space behind it and a comment with a quote in it. -/
def spacedLabel : Text := "\t .loop:\u00a0\t;  it's \u2003"

/-- The comment keeps the blank before it; the mark of an empty comment does so only once. -/
theorem spacedLabel_reparsed :
    let s : Session := { settings := {} }
    let bare : Text := "x:\u00a0;"
    let p := Line.parse spacedLabel
    let q := Line.parse (p.indent ++ p.code ++ p.suffix)
    HasCode spacedLabel ∧ p = ⟨"\t ", ".loop:\u00a0", "it's"⟩ ∧
      (q.indent = p.indent ∧ q.comment = p.comment ∧ q.kind = p.kind ∧
        q.code = if p.comment = [] then trimRight p.code else p.code) ∧
      (∃ line, s.convertLine spacedLabel = ([line], s) ∧ s.convertLine line = ([line], s)) ∧
      ∃ line, s.convertLine bare = ([line], s) ∧ s.convertLine line ≠ ([line], s) := by
  intro s bare p q
  have code : HasCode spacedLabel := by decide +kernel
  have codeBare : HasCode bare := by decide +kernel
  obtain ⟨parts, twice⟩ := reparsed_line code
  obtain ⟨line, once, again⟩ := twice s (by decide +kernel)
  obtain ⟨lineBare, onceBare, againBare⟩ := (reparsed_line codeBare).2 s (by decide +kernel)
  refine ⟨code, by decide +kernel, parts, ⟨line, once, again.mpr (by decide +kernel)⟩,
    lineBare, onceBare, fun stays => ?_⟩
  have kept : ¬ ((Line.parse bare).comment ≠ [] ∨
      trimRight (Line.parse bare).code = (Line.parse bare).code) := by decide +kernel
  exact kept (againBare.mp stays)

end Retarget
