/-
# Retarget.Proofs.IE32.Quotes -- quotes, and the semicolons outside them

`scan` reads a text as the search for a comment does.  It ends with the quotes that are open
there, or with nothing if it came to a semicolon outside quotes; so a text has no comment exactly
if it can be scanned (`cutComment_eq_none_iff`), and a comment that is put behind a text that
leaves no quotes open is found there (`cutComment_append`).

Texts are scanned piece by piece (`scan_append`), and a piece without quotes and semicolons makes
no difference (`scan_plain`).  A text is scanned as any of its excerpts is that leaves only such
pieces out (`scan_excerpt`).  A text in which every semicolon is quoted is scanned to its end, and
only such a text is (`scan_of_shielded`, `shielded_of_scan`).
-/
import Retarget.IE32.Line
import Retarget.Proofs.Text.Casing
import Retarget.Proofs.Text.Excerpt

namespace Retarget.IE32

set_option autoImplicit false

open Text (Excerpt)

/-- The quotes that are open after a text, unless it has a semicolon outside quotes. -/
def scan : Option Char → Text → Option (Option Char)
  | quote, [] => some quote
  | quote, c :: rest =>
      if c = ';' ∧ quote = none then none else scan (quoteAfter quote c) rest

/-- The character is neither a quote nor a semicolon. -/
def Plain (c : Char) : Prop := c ≠ ';' ∧ c ≠ '\'' ∧ c ≠ '"'

instance (c : Char) : Decidable (Plain c) := inferInstanceAs (Decidable (_ ∧ _))

/-- Outside quotes, or inside quotes that there are. -/
def Proper (quote : Option Char) : Prop := quote = none ∨ quote = some '\'' ∨ quote = some '"'

theorem scan_append (quote : Option Char) (first second : Text) :
    scan quote (first ++ second) = (scan quote first).bind (scan · second) := by
  induction first generalizing quote with
  | nil => rfl
  | cons c rest ih =>
      rw [List.cons_append, scan, scan]
      split
      · rfl
      · exact ih _

theorem head?_ne_of_scan {t : Text} {quote : Option Char} (scanned : scan none t = some quote) :
    t.head? ≠ some ';' := by
  intro first
  cases t with
  | nil => simp at first
  | cons c rest =>
      obtain rfl : c = ';' := Option.some.inj first
      simp [scan] at scanned

theorem proper_quoteAfter {quote : Option Char} (proper : Proper quote) (c : Char) :
    Proper (quoteAfter quote c) := by
  unfold Proper at proper ⊢
  rcases proper with rfl | rfl | rfl <;> simp only [quoteAfter] <;> grind

theorem proper_of_scan {quote after : Option Char} {t : Text} (proper : Proper quote)
    (scanned : scan quote t = some after) : Proper after := by
  induction t generalizing quote with
  | nil =>
      cases scanned
      exact proper
  | cons c rest ih =>
      rw [scan] at scanned
      split at scanned
      · simp at scanned
      · exact ih (proper_quoteAfter proper c) scanned

/-- A plain text changes nothing. -/
theorem scan_plain {quote : Option Char} (proper : Proper quote) {t : Text}
    (plain : ∀ c ∈ t, Plain c) : scan quote t = some quote := by
  induction t with
  | nil => rfl
  | cons c rest ih =>
      rw [List.forall_mem_cons] at plain
      obtain ⟨⟨noSemicolon, noSingle, noDouble⟩, others⟩ := plain
      have same : quoteAfter quote c = quote := by
        rcases proper with rfl | rfl | rfl <;> simp [quoteAfter, noSingle, noDouble]
      rw [scan, if_neg (fun here => noSemicolon here.1), same]
      exact ih others

/-- **Only the excerpt matters** if what stands around it is plain. -/
theorem scan_excerpt {t s : Text} (excerpt : Excerpt Plain t s) : scan none s = scan none t := by
  obtain ⟨before, after, plainBefore, plainAfter, rfl⟩ := excerpt
  have outside : Proper none := .inl rfl
  rw [List.append_assoc, scan_append, scan_plain outside plainBefore, Option.bind_some, scan_append]
  cases scanned : scan none t with
  | none => rfl
  | some quote => exact scan_plain (proper_of_scan outside scanned) plainAfter

/-- It does not matter which plain text stands between two pieces. -/
theorem scan_between (first second : Text) {gap other : Text} (plain : ∀ c ∈ gap, Plain c)
    (plain' : ∀ c ∈ other, Plain c) :
    scan none (first ++ gap ++ second) = scan none (first ++ other ++ second) := by
  rw [scan_append, scan_append none (first ++ other), scan_append, scan_append none first other]
  cases scanned : scan none first with
  | none => rfl
  | some quote =>
      have proper := proper_of_scan (.inl rfl) scanned
      rw [Option.bind_some, Option.bind_some, scan_plain proper plain, scan_plain proper plain']

theorem plain_of_isBlank {c : Char} (blank : Text.isBlank c = true) : Plain c := by
  have all : ∀ d ∈ Text.blanks, Plain d := by decide
  exact all c ((Text.isBlank_iff c).mp blank)

theorem scan_trimRight (t : Text) : scan none (Text.trimRight t) = scan none t :=
  (scan_excerpt (.trimRight (fun _ => plain_of_isBlank) t)).symm

theorem scan_trimLeft (t : Text) : scan none (Text.trimLeft t) = scan none t :=
  (scan_excerpt (.trimLeft (fun _ => plain_of_isBlank) t)).symm

theorem scan_trim (t : Text) : scan none (Text.trim t) = scan none t :=
  (scan_excerpt (.trim (fun _ => plain_of_isBlank) t)).symm

theorem scan_append_left {before : Text} (plain : ∀ c ∈ before, Plain c) (t : Text) :
    scan none (before ++ t) = scan none t :=
  scan_excerpt (.prepend plain (.refl t))

theorem scan_append_right {after : Text} (plain : ∀ c ∈ after, Plain c) (t : Text) :
    scan none (t ++ after) = scan none t :=
  scan_excerpt (.extend plain (.refl t))

theorem scan_indent {indent : Text} (layout : ∀ c ∈ indent, Text.isIndent c = true) (t : Text) :
    scan none (indent ++ t) = scan none t :=
  scan_append_left (fun c member => plain_of_isBlank (Text.isBlank_of_isIndent (layout c member))) t

/-- Upper case leaves quotes and semicolons alone. -/
theorem plain_of_upper {word : Text} (plain : ∀ c ∈ Text.upper word, Plain c) :
    ∀ c ∈ word, Plain c := by
  have kept : ∀ mark ∈ [';', '\'', '"'], mark ∉ word := by
    intro mark listed member
    have fixed : ∀ mark ∈ [';', '\'', '"'],
        mark.toNat < 0x80 ∧ mark.toUpper = mark ∧ ¬ Plain mark := by
      decide
    obtain ⟨ascii, same, notPlain⟩ := fixed mark listed
    exact notPlain (plain mark (Text.mem_upper_of_fixed ascii same member))
  intro c member
  refine ⟨?_, ?_, ?_⟩ <;> rintro rfl
  · exact kept _ (by decide) member
  · exact kept _ (by decide) member
  · exact kept _ (by decide) member

/-- Behind a plain first word, code is scanned as what follows the word. -/
theorem scan_cutWord {code : Text} (plain : ∀ c ∈ (Text.cutWord code).1, Plain c) :
    scan none code = scan none (Text.cutWord code).2 := by
  obtain ⟨left, gap, right, blankLeft, blankGap, blankRight, -, -, parts⟩ :=
    Text.exists_cutWord code
  have excerpt : Excerpt Plain (Text.cutWord code).2 code := by
    refine ⟨left ++ (Text.cutWord code).1 ++ gap, right, ?_, ?_, parts⟩
    · simp only [List.forall_mem_append]
      exact ⟨⟨fun c member => plain_of_isBlank (blankLeft c member), plain⟩,
        fun c member => plain_of_isBlank (blankGap c member)⟩
    · exact fun c member => plain_of_isBlank (blankRight c member)
  exact scan_excerpt excerpt

/-! ## Quotes that hide every semicolon -/

/-- Inside quotes nothing matters but the quote that ends them. -/
theorem scan_inside {quote : Char} {t : Text} (closed : quote ∉ t) :
    scan (some quote) t = some (some quote) := by
  induction t with
  | nil => rfl
  | cons c rest ih =>
      rw [List.mem_cons, not_or] at closed
      have inside : quoteAfter (some quote) c = some quote := if_neg (Ne.symm closed.1)
      rw [scan, if_neg (by simp), inside]
      exact ih closed.2

/-- Every semicolon stands inside quotes. -/
def Shielded (t : Text) : Prop :=
  ∀ before after, t = before ++ ';' :: after → before.foldl quoteAfter none ≠ none

theorem foldl_quoteAfter_of_scan {quote after : Option Char} {t : Text}
    (scanned : scan quote t = some after) : t.foldl quoteAfter quote = after := by
  induction t generalizing quote with
  | nil => exact Option.some.inj scanned
  | cons c rest ih =>
      rw [scan] at scanned
      split at scanned
      · simp at scanned
      · exact ih scanned

theorem shielded_of_scan {t : Text} (scanned : scan none t ≠ none) : Shielded t := by
  rintro before after rfl outside
  apply scanned
  rw [scan_append]
  cases first : scan none before with
  | none => rfl
  | some quote =>
      obtain rfl : quote = none := (foldl_quoteAfter_of_scan first).symm.trans outside
      simp [scan]

/-- The search for a comment stops at a semicolon outside quotes. -/
theorem exists_of_scan_eq_none {quote : Option Char} {t : Text} (stopped : scan quote t = none) :
    ∃ before after, t = before ++ ';' :: after ∧ before.foldl quoteAfter quote = none := by
  induction t generalizing quote with
  | nil => simp [scan] at stopped
  | cons c rest ih =>
      rw [scan] at stopped
      split at stopped
      · rename_i here
        exact ⟨[], rest, by rw [here.1]; rfl, here.2⟩
      · obtain ⟨before, after, rfl, outside⟩ := ih stopped
        exact ⟨c :: before, after, rfl, outside⟩

/-- Where every semicolon is quoted, the search goes through to the end. -/
theorem scan_of_shielded {t : Text} (shielded : Shielded t) :
    scan none t = some (t.foldl quoteAfter none) := by
  cases scanned : scan none t with
  | some quote => rw [foldl_quoteAfter_of_scan scanned]
  | none =>
      obtain ⟨before, after, split, outside⟩ := exists_of_scan_eq_none scanned
      exact absurd outside (shielded before after split)

/-! ## Comments -/

theorem cutComment_eq_none_iff (quote : Option Char) (t : Text) :
    cutComment quote t = none ↔ scan quote t ≠ none := by
  induction t generalizing quote with
  | nil => simp [cutComment, scan]
  | cons c rest ih =>
      rw [cutComment, scan]
      split
      · simp
      · rw [Option.map_eq_none_iff]
        exact ih _

theorem cutComment_eq_some {quote : Option Char} {t code comment : Text}
    (cut : cutComment quote t = some (code, comment)) :
    t = code ++ ';' :: comment ∧ scan quote code = some none := by
  induction t generalizing quote code with
  | nil => simp [cutComment] at cut
  | cons c rest ih =>
      rw [cutComment] at cut
      split at cut
      · rename_i here
        simp only [Option.some.injEq, Prod.mk.injEq] at cut
        obtain ⟨rfl, rfl⟩ := cut
        simp [here.1, here.2, scan]
      · rename_i other
        obtain ⟨⟨before, after⟩, cutRest, same⟩ := Option.map_eq_some_iff.mp cut
        simp only [Prod.mk.injEq] at same
        obtain ⟨rfl, rfl⟩ := same
        obtain ⟨rfl, scanned⟩ := ih cutRest
        rw [scan, if_neg other]
        exact ⟨rfl, scanned⟩

theorem cutComment_append {quote : Option Char} {code : Text}
    (scanned : scan quote code = some none) (comment : Text) :
    cutComment quote (code ++ ';' :: comment) = some (code, comment) := by
  induction code generalizing quote with
  | nil =>
      simp only [scan, Option.some.injEq] at scanned
      simp [cutComment, scanned]
  | cons c rest ih =>
      rw [scan] at scanned
      split at scanned
      · simp at scanned
      · rename_i other
        rw [List.cons_append, cutComment, if_neg other, ih scanned]
        rfl

end Retarget.IE32
