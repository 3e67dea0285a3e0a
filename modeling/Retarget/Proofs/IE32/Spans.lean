/-
# Retarget.Proofs.IE32.Spans -- quoted spans, and the semicolon that starts a comment

Where a semicolon stands outside quotes can be said without a scan: what stands before it is made
of characters that are no quotes and of spans, each from a quote to the next quote of its kind
(`Spans`).  The scan keeps the quote that is open, and it is outside quotes after exactly the texts
that are made so (`spans_iff`); so the cut for a comment is at the first semicolon that has such a
text before it (`firstMark_of_cutComment`).

Nothing is lost at the cut but the spaces and tabs before the semicolon and the spaces behind it
(`splitComment_first_mark`).  A quote that is never closed hides every semicolon behind it.
-/
import Retarget.Proofs.IE32.Quotes
import Retarget.Proofs.Text.Cutting

namespace Retarget.IE32

set_option autoImplicit false

open Text (isIndent dropRightWhile)

/-! ## Spans -/

/-- The text is made of characters that are no quotes and of quoted spans.  A span ends at the next
quote of the kind that it starts with, whatever stands in between. -/
inductive Spans : Text → Prop
  | nil : Spans []
  | plain {c : Char} {rest : Text} (noQuote : c ≠ '\'' ∧ c ≠ '"') (more : Spans rest) :
      Spans (c :: rest)
  | quoted {quote : Char} {body rest : Text} (isQuote : quote = '\'' ∨ quote = '"')
      (inside : quote ∉ body) (more : Spans rest) : Spans (quote :: body ++ quote :: rest)

/-- After spans no quotes are open. -/
theorem Spans.outside {t : Text} (spans : Spans t) : t.foldl quoteAfter none = none := by
  induction spans with
  | nil => rfl
  | @plain c rest noQuote _ ih =>
      have stays : quoteAfter none c = none := if_neg (not_or.mpr noQuote)
      rw [List.foldl_cons, stays]
      exact ih
  | @quoted quote body rest isQuote inside _ ih =>
      have opens : quoteAfter none quote = some quote := if_pos isQuote
      have passes : body.foldl quoteAfter (some quote) = some quote :=
        foldl_quoteAfter_of_scan (scan_inside inside)
      have closes : quoteAfter (some quote) quote = none := if_pos rfl
      rw [List.cons_append, List.foldl_cons, opens, List.foldl_append, passes, List.foldl_cons,
        closes]
      exact ih

/-- A text after which no quotes are open is made of spans.  If quotes were open before it, they
are closed at their first quote and the rest is made of spans. -/
theorem spans_of_outside (t : Text) :
    (t.foldl quoteAfter none = none → Spans t) ∧
      ∀ quote, t.foldl quoteAfter (some quote) = none →
        ∃ body rest, quote ∉ body ∧ Spans rest ∧ t = body ++ quote :: rest := by
  induction t with
  | nil =>
      refine ⟨fun _ => .nil, ?_⟩
      intro quote closed
      cases closed
  | cons c rest ih =>
      obtain ⟨outside, inside⟩ := ih
      constructor
      · intro closed
        by_cases isQuote : c = '\'' ∨ c = '"'
        · -- A span starts here; what is known of the rest says where it ends.
          rw [List.foldl_cons, quoteAfter, if_pos isQuote] at closed
          obtain ⟨body, more, absent, spans, rfl⟩ := inside c closed
          exact .quoted isQuote absent spans
        · rw [List.foldl_cons, quoteAfter, if_neg isQuote] at closed
          exact .plain (not_or.mp isQuote) (outside closed)
      · intro quote closed
        by_cases ends : c = quote
        · rw [List.foldl_cons, quoteAfter, if_pos ends] at closed
          exact ⟨[], rest, by simp, outside closed, by rw [ends]; rfl⟩
        · rw [List.foldl_cons, quoteAfter, if_neg ends] at closed
          obtain ⟨body, more, absent, spans, rfl⟩ := inside quote closed
          refine ⟨c :: body, more, ?_, spans, rfl⟩
          rw [List.mem_cons, not_or]
          exact ⟨Ne.symm ends, absent⟩

/-- The scan is outside quotes after exactly the texts that are made of spans. -/
theorem spans_iff (t : Text) : Spans t ↔ t.foldl quoteAfter none = none :=
  ⟨Spans.outside, (spans_of_outside t).1⟩

instance (t : Text) : Decidable (Spans t) := decidable_of_iff _ (spans_iff t).symm

/-! ## The semicolon that starts the comment -/

/-- A semicolon outside quotes, with what stands before and after it. -/
structure Marks (line before after : Text) : Prop where
  split : line = before ++ ';' :: after
  spans : Spans before

structure FirstMark (line before after : Text) : Prop extends Marks line before after where
  first : ∀ earlier later, Marks line earlier later → before.length ≤ earlier.length

variable {line before after : Text}

/-- There is no semicolon outside quotes exactly if the search for one fails. -/
theorem unmarked_iff (line : Text) :
    (∀ before after, ¬ Marks line before after) ↔ cutComment none line = none := by
  rw [cutComment_eq_none_iff]
  constructor
  · intro unmarked
    have shielded : Shielded line := fun before after split outside =>
      unmarked before after ⟨split, (spans_iff before).mpr outside⟩
    rw [scan_of_shielded shielded]
    exact Option.some_ne_none _
  · intro scanned before after mark
    exact shielded_of_scan scanned before after mark.split mark.spans.outside

/-- The search for a comment finds the first semicolon outside quotes. -/
theorem firstMark_of_cutComment (cut : cutComment none line = some (before, after)) :
    FirstMark line before after := by
  obtain ⟨split, scanned⟩ := cutComment_eq_some cut
  refine ⟨⟨split, (spans_iff before).mpr (foldl_quoteAfter_of_scan scanned)⟩, ?_⟩
  intro earlier later mark
  by_contra shorter
  -- An earlier one would stand in the text that was scanned, where all of them are quoted.
  obtain ⟨between, inside⟩ :=
    Text.exists_of_earlier_mark (split.symm.trans mark.split) (Nat.not_le.mp shorter)
  have shielded : Shielded before := shielded_of_scan (by simp [scanned])
  exact shielded earlier between inside mark.spans.outside

/-- What is cut off before the semicolon is spaces and tabs. -/
theorem exists_gap (before : Text) :
    ∃ gap, before = dropRightWhile isIndent before ++ gap ∧ (∀ c ∈ gap, c = ' ' ∨ c = '\t') ∧
      (dropRightWhile isIndent before).getLast? ≠ some ' ' ∧
      (dropRightWhile isIndent before).getLast? ≠ some '\t' := by
  obtain ⟨gap, layout, split⟩ := Text.exists_dropRightWhile isIndent before
  refine ⟨gap, split, ?_, ?_, ?_⟩
  · intro c member
    simpa [isIndent] using layout c member
  · intro space
    exact absurd (Text.getLast?_dropRightWhile space) (by decide)
  · intro tab
    exact absurd (Text.getLast?_dropRightWhile tab) (by decide)

/-- What is cut off behind the semicolon is spaces. -/
theorem exists_spaces (after : Text) :
    ∃ spaces, after = spaces ++ after.dropWhile (· == ' ') ∧ (∀ c ∈ spaces, c = ' ') ∧
      (after.dropWhile (· == ' ')).head? ≠ some ' ' := by
  refine ⟨after.takeWhile (· == ' '), List.takeWhile_append_dropWhile.symm, ?_, ?_⟩
  · intro c member
    simpa using List.mem_takeWhile_imp member
  · intro space
    exact absurd (Text.head?_dropWhile space) (by decide)

/-- **A line is cut at its first semicolon outside quotes, and loses nothing but blanks there.**
Without such a semicolon all of it is code.  With one, the line is the code, spaces and tabs, that
semicolon, spaces and the comment; the code ends with no space or tab and the comment starts with no
space. -/
theorem splitComment_first_mark (line : Text) :
    ((∀ before after, ¬ Marks line before after) → splitComment line = (line, [])) ∧
      ((∃ before after, Marks line before after) → ∃ code gap spaces comment,
        splitComment line = (code, comment) ∧
          FirstMark line (code ++ gap) (spaces ++ comment) ∧
          line = code ++ gap ++ ';' :: (spaces ++ comment) ∧
          (∀ c ∈ gap, c = ' ' ∨ c = '\t') ∧ (∀ c ∈ spaces, c = ' ') ∧
          code.getLast? ≠ some ' ' ∧ code.getLast? ≠ some '\t' ∧ comment.head? ≠ some ' ') := by
  constructor
  · intro unmarked
    rw [splitComment, (unmarked_iff line).mp unmarked]
  · rintro ⟨before, after, mark⟩
    have found : cutComment none line ≠ none := fun uncut =>
      (unmarked_iff line).mpr uncut before after mark
    obtain ⟨⟨left, right⟩, cut⟩ := Option.ne_none_iff_exists'.mp found
    have first := firstMark_of_cutComment cut
    obtain ⟨gap, leftParts, layout, noSpace, noTab⟩ := exists_gap left
    obtain ⟨spaces, rightParts, blanks, noStart⟩ := exists_spaces right
    refine ⟨dropRightWhile isIndent left, gap, spaces, right.dropWhile (· == ' '), ?_, ?_, ?_,
      layout, blanks, noSpace, noTab, noStart⟩
    · rw [splitComment, cut]
    · rw [← leftParts, ← rightParts]
      exact first
    · rw [← leftParts, ← rightParts]
      exact first.split

/-- A semicolon and a quote inside a span, and another semicolon in the comment. -/
def quotedSemicolon : Text := "LDA '\";' \t;  \t; x"

/-- The second span is never closed. -/
def unclosedSpan : Text := ".ascii \"a;'\" 'b; c"

theorem quotedSemicolon_split :
    (Marks quotedSemicolon "LDA '\";' \t" "  \t; x" ∧ ∃ code gap spaces comment : Text,
        code = "LDA '\";'" ∧ comment = "\t; x" ∧ splitComment quotedSemicolon = (code, comment) ∧
          FirstMark quotedSemicolon (code ++ gap) (spaces ++ comment)) ∧
      (∀ before after, ¬ Marks unclosedSpan before after) ∧
      splitComment unclosedSpan = (unclosedSpan, []) := by
  have mark : Marks quotedSemicolon "LDA '\";' \t" "  \t; x" := ⟨by decide, by decide⟩
  have unmarked : ∀ before after, ¬ Marks unclosedSpan before after :=
    (unmarked_iff unclosedSpan).mpr (by decide)
  obtain ⟨code, gap, spaces, comment, split, first, -⟩ :=
    (splitComment_first_mark quotedSemicolon).2 ⟨_, _, mark⟩
  have codeIs : (splitComment quotedSemicolon).1 = "LDA '\";'" := by decide
  have commentIs : (splitComment quotedSemicolon).2 = "\t; x" := by decide
  rw [split] at codeIs commentIs
  exact ⟨⟨mark, code, gap, spaces, comment, codeIs, commentIs, split, first⟩, unmarked,
    (splitComment_first_mark unclosedSpan).1 unmarked⟩

end Retarget.IE32
