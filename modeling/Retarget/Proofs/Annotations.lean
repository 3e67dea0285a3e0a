/-
# Retarget.Proofs.Annotations -- the error annotations among the lines of output

An instruction that cannot be converted leaves two lines: the message behind `; ERROR: `, and its
code in a comment.  Nothing else that a conversion writes begins like that, except comments that
are copied: labels and directives begin with code, converted instructions with a mnemonic, and
the code behind an annotation is no label, so it does not itself begin with `ERROR: `.  The
annotations among the lines that one line becomes are therefore that of its error, if it has one
(`annotations_emit`), and those of many lines are those of each (`annotations_flatMap`).
-/
import Retarget.Proofs.Conversion
import Retarget.Session

namespace Retarget

set_option autoImplicit false

open IE32 (HasCode Line Instruction)

/-! ## Annotations -/

/-- What an annotation begins with, behind its indent. -/
def errorMark : Text := "; ERROR: "

def isMarked (line : Text) : Bool := errorMark.isPrefixOf (line.dropWhile Text.isIndent)

/-- The line is all comment. -/
def isComment (raw : Text) : Bool := (Text.trim raw).head? == some ';'

/-- A line of output, and the source line it was made from unless it belongs to the header. -/
structure Emission where
  line : Text
  source : Option Text
  deriving DecidableEq, Repr

/-- Does the line begin like an annotation, other than by being copied from a comment? -/
def Emission.isAnnotation (e : Emission) : Bool := isMarked e.line && !e.source.any isComment

/-- The annotations among lines of output, each with the line that follows it. -/
def annotations : List Emission → List (Text × Option Text)
  | [] => []
  | e :: rest =>
      if e.isAnnotation then (e.line, rest.head?.map Emission.line) :: annotations rest
      else annotations rest

/-- The last line is no annotation: what follows belongs to no line before it. -/
def Closed (es : List Emission) : Prop := ∀ e, es.getLast? = some e → e.isAnnotation = false

theorem closed_nil : Closed [] := by
  simp [Closed]

theorem annotations_append {first : List Emission} (closed : Closed first)
    (second : List Emission) :
    annotations (first ++ second) = annotations first ++ annotations second := by
  induction first with
  | nil => rfl
  | cons e rest ih =>
      cases rest with
      | nil =>
          have plain : e.isAnnotation = false := closed e rfl
          simp [annotations, plain]
      | cons next more =>
          have closedRest : Closed (next :: more) := fun last same =>
            closed last (by rw [List.getLast?_cons_cons, same])
          have split := ih closedRest
          by_cases marked : e.isAnnotation = true
          · simp only [List.cons_append, annotations, marked, if_true, List.head?_cons] at split ⊢
            rw [split]
          · simp only [List.cons_append, annotations, marked, Bool.false_eq_true,
              if_false] at split ⊢
            exact split

theorem closed_append {first second : List Emission} (one : Closed first) (two : Closed second) :
    Closed (first ++ second) := by
  intro e last
  rw [List.getLast?_append] at last
  cases tail : second.getLast? with
  | none =>
      rw [tail] at last
      exact one e last
  | some d =>
      rw [tail] at last
      exact two e (tail.trans last)

/-- The annotations of many pieces of output are those of each. -/
theorem annotations_flatMap {α : Type} {f : α → List Emission} (closed : ∀ a, Closed (f a))
    (items : List α) :
    annotations (items.flatMap f) = items.flatMap (fun a => annotations (f a)) := by
  induction items with
  | nil => rfl
  | cons a rest ih => rw [List.flatMap_cons, annotations_append (closed a), ih, List.flatMap_cons]

theorem closed_flatMap {α : Type} {f : α → List Emission} (closed : ∀ a, Closed (f a))
    (items : List α) : Closed (items.flatMap f) := by
  induction items with
  | nil => exact closed_nil
  | cons a rest ih =>
      rw [List.flatMap_cons]
      exact closed_append (closed a) ih

theorem annotations_of_forall {es : List Emission} (plain : ∀ e ∈ es, e.isAnnotation = false) :
    annotations es = [] := by
  induction es with
  | nil => rfl
  | cons e rest ih =>
      rw [List.forall_mem_cons] at plain
      simp [annotations, plain.1, ih plain.2]

theorem closed_of_forall {es : List Emission} (plain : ∀ e ∈ es, e.isAnnotation = false) :
    Closed es :=
  fun e last => plain e (List.mem_of_getLast? last)

/-! ## Lines that begin like an annotation -/

theorem dropWhile_isIndent_append {indent body : Text}
    (layout : ∀ c ∈ indent, Text.isIndent c = true) {c : Char} (first : body.head? = some c)
    (other : Text.isIndent c = false) : (indent ++ body).dropWhile Text.isIndent = body := by
  rw [List.dropWhile_append_of_pos layout]
  refine Text.dropWhile_eq_self fun d start => ?_
  rw [first] at start
  exact Option.some.inj start ▸ other

/-- A line that begins with code is not marked. -/
theorem isMarked_of_head? {indent body : Text} (layout : ∀ c ∈ indent, Text.isIndent c = true)
    {c : Char} (first : body.head? = some c) (other : Text.isIndent c = false) (code : c ≠ ';') :
    isMarked (indent ++ body) = false := by
  obtain ⟨rest, rfl⟩ : ∃ rest, body = c :: rest := by
    cases body with
    | nil => simp at first
    | cons d rest => exact ⟨rest, by rw [Option.some.inj first]⟩
  rw [isMarked, dropWhile_isIndent_append layout first other]
  unfold errorMark
  simp [List.isPrefixOf, Ne.symm code]

/-- A comment is marked if its text is. -/
theorem isMarked_comment {indent : Text} (layout : ∀ c ∈ indent, Text.isIndent c = true)
    (text : Text) : isMarked (indent ++ ("; " ++ text)) = List.isPrefixOf "ERROR: " text := by
  rw [isMarked, dropWhile_isIndent_append layout rfl (by decide)]
  unfold errorMark
  simp [List.isPrefixOf]

/-- Code that begins like a marked comment is a label. -/
theorem kind_of_mark {code : Text}
    (marked : List.isPrefixOf "ERROR: " (Text.trim code) = true) :
    IE32.LineKind.ofCode code = .label := by
  obtain ⟨rest, start⟩ := List.isPrefixOf_iff_prefix.mp marked
  have word : (Text.cutWord (Text.trim code)).1 = "ERROR:" := by
    rw [Text.cutWord, Text.trim_trim, ← start]
    rfl
  have some_code : (Text.trim code).isEmpty = false := by
    rw [← start]
    rfl
  simp [IE32.LineKind.ofCode, word, some_code]

theorem head?_mnemonic (i : IE64.Instruction) (suffix : Text) :
    ∃ c ∈ IE64.letters, (i.render suffix).head? = some c := by
  obtain ⟨some_word, letters⟩ := IE64.mnemonic_spec i
  obtain ⟨c, rest, word⟩ := List.exists_cons_of_ne_nil some_word
  exact ⟨c, letters c (by simp [word]), by simp [IE64.Instruction.render, word]⟩

/-! ## One line -/

/-- The annotation for an error in a line, and the line that follows it. -/
def annotationOf (raw : Text) (error : Diagnostic) : Text × Option Text :=
  ((Line.parse raw).indent ++ errorMark ++ error.fault.message ++ (Line.parse raw).suffix,
    some ((Line.parse raw).indent ++ "; " ++ error.source.getD []))

namespace Settings

variable (settings : Settings) (raw : Text)

/-- The line has code that is neither a label nor a directive, and its lowering fails. -/
def rejects : Bool :=
  decide (HasCode raw) && (Line.parse raw).kind != .label && (Line.parse raw).kind != .directive &&
    (Lowering.ofCode settings.registers settings.size.suffix (Line.parse raw).indent
      (Line.parse raw).code).failed

/-- The line is a directive, and its keyword is not in the table. -/
def hasUnknownDirective : Bool :=
  decide (HasCode raw) && (Line.parse raw).kind == .directive &&
    !settings.directives.supports (Text.cutWord (Line.parse raw).code).1

def error? : Option Diagnostic := (settings.convertLine raw).finding.bind Finding.diagnostic?

def warning? : Option Text := (settings.convertLine raw).finding.bind Finding.warning?

def emit : List Emission := (settings.convertLine raw).lines.map (⟨·, some raw⟩)

end Settings

section Line

variable {settings : Settings} {raw : Text} {conversion : Conversion}

theorem Settings.Converts.isSome_diagnostic? (converts : settings.Converts raw conversion) :
    (conversion.finding.bind Finding.diagnostic?).isSome = settings.rejects raw := by
  cases converts with
  | blank empty => simp [rejects, HasCode, empty]
  | comment marked => simp [rejects, HasCode, marked]
  | label code kind => simp [rejects, kind]
  | directive code kind known => simp [rejects, kind]
  | unknownDirective code kind unknown => simp [rejects, kind, Finding.diagnostic?]
  | instruction code noLabel noDirective read lower =>
      simp [rejects, Lowering.failed, Lowering.ofCode_of_ok read]
  | rejected code noLabel noDirective failed =>
      simp [rejects, code, noLabel, noDirective, Lowering.failed, Lowering.ofCode_of_error failed,
        Finding.diagnostic?]

theorem Settings.Converts.isSome_warning? (converts : settings.Converts raw conversion) :
    (conversion.finding.bind Finding.warning?).isSome = settings.hasUnknownDirective raw := by
  cases converts with
  | blank empty => simp [hasUnknownDirective, HasCode, empty]
  | comment marked => simp [hasUnknownDirective, HasCode, marked]
  | label code kind => simp [hasUnknownDirective, kind]
  | directive code kind known =>
      simp [hasUnknownDirective, IE32.DirectiveTable.supports, known]
  | unknownDirective code kind unknown =>
      simp [hasUnknownDirective, code, kind, IE32.DirectiveTable.supports, unknown,
        Finding.warning?]
  | instruction code noLabel noDirective read lower =>
      simp [hasUnknownDirective, noDirective]
  | rejected code noLabel noDirective failed =>
      simp [hasUnknownDirective, noDirective, Finding.warning?]

theorem isMarked_around {line : Line} (parsed : Line.Parsed raw line) {body : Text} {c : Char}
    (first : body.head? = some c) (other : Text.isIndent c = false) (code : c ≠ ';') :
    isMarked (line.around body) = false := by
  rw [Line.around, List.append_assoc]
  exact isMarked_of_head? parsed.indent (by simp [List.head?_append, first]) other code

/-- Only an error makes a line begin like an annotation. -/
theorem Settings.Converts.isMarked_eq_false (converts : settings.Converts raw conversion)
    (standard : settings.directives = .standard) (code : HasCode raw)
    (converted : conversion.finding.bind Finding.diagnostic? = none) :
    ∀ line ∈ conversion.lines, isMarked line = false := by
  have parsed := IE32.parse_parsed code
  cases converts with
  | blank empty => exact absurd empty code.1
  | comment marked => exact absurd marked code.2
  | label _ kind =>
      obtain ⟨c, first, word, noSemicolon⟩ := parsed.first
      simpa using isMarked_around parsed first (Text.isIndent_of_solid word) noSemicolon
  | directive _ kind known =>
      rw [standard] at known
      obtain ⟨c, first, other⟩ := IE32.head?_render (IE32.standard_isPlain known).1
        (Text.cutWord (Line.parse raw).code).2
      obtain ⟨quote, scanned, -⟩ := parsed.scanned
      rw [← IE32.scan_render known] at scanned
      have noSemicolon : c ≠ ';' := fun same =>
        IE32.head?_ne_of_scan scanned (same ▸ first)
      simpa using isMarked_around parsed first other noSemicolon
  | unknownDirective _ kind unknown =>
      have shape : ∀ message : Text, (Line.parse raw).around ("; WARNING: " ++ message) =
          (Line.parse raw).indent ++
            ("; " ++ ("WARNING: " ++ message ++ (Line.parse raw).suffix)) := by
        intro message
        simp [Line.around]
      rw [List.forall_mem_singleton, shape, isMarked_comment parsed.indent]
      rfl
  | instruction _ noLabel noDirective read lower =>
      have letter : ∀ c ∈ IE64.letters, Text.isIndent c = false ∧ c ≠ ';' := by decide
      intro line member
      rw [List.mem_cons, List.mem_map] at member
      rcases member with rfl | ⟨j, later, rfl⟩
      · obtain ⟨c, known, first⟩ := head?_mnemonic _ settings.size.suffix
        exact isMarked_around parsed first (letter c known).1 (letter c known).2
      · obtain ⟨c, known, first⟩ := head?_mnemonic j settings.size.suffix
        exact isMarked_of_head? parsed.indent first (letter c known).1 (letter c known).2
  | rejected _ noLabel noDirective failed => simp [Finding.diagnostic?] at converted

theorem isComment_of_hasCode (code : HasCode raw) : isComment raw = false := by
  simpa [isComment] using code.2

/-- Lines without an error have no annotations, and copied comments do not count. -/
theorem Settings.Converts.isAnnotation_eq_false (converts : settings.Converts raw conversion)
    (standard : settings.directives = .standard)
    (converted : conversion.finding.bind Finding.diagnostic? = none) :
    ∀ e ∈ conversion.lines.map (Emission.mk · (some raw)), e.isAnnotation = false := by
  rw [List.forall_mem_map]
  intro line member
  by_cases code : HasCode raw
  · simp [Emission.isAnnotation, converts.isMarked_eq_false standard code converted line member]
  · cases converts with
    | blank empty =>
        have plain : isMarked [] = false := by decide
        rw [List.mem_singleton.mp member]
        simp [Emission.isAnnotation, plain]
    | comment marked => simp [Emission.isAnnotation, isComment, marked]
    | label here | directive here | unknownDirective here | instruction here | rejected here =>
        exact absurd here code

/-- An error leaves an annotation, and the code behind it, which is no label, is none. -/
theorem annotations_rejected (code : HasCode raw) (noLabel : (Line.parse raw).kind ≠ .label)
    (fault : Fault) :
    let lines := [(Line.parse raw).around ("; ERROR: " ++ fault.message),
      (Line.parse raw).indent ++ "; " ++ Text.trim (Line.parse raw).code]
    Closed (lines.map (Emission.mk · (some raw))) ∧
      annotations (lines.map (Emission.mk · (some raw))) =
        [annotationOf raw { fault, source := some (Text.trim (Line.parse raw).code) }] := by
  have parsed := IE32.parse_parsed code
  have noComment := isComment_of_hasCode code
  have first : (Line.parse raw).around ("; ERROR: " ++ fault.message) =
      (Line.parse raw).indent ++
        ("; " ++ ("ERROR: " ++ fault.message ++ (Line.parse raw).suffix)) := by
    simp [Line.around]
  have marked : isMarked ((Line.parse raw).around ("; ERROR: " ++ fault.message)) = true := by
    rw [first, isMarked_comment parsed.indent]
    rfl
  have unmarked :
      isMarked ((Line.parse raw).indent ++ "; " ++ Text.trim (Line.parse raw).code) = false := by
    rw [List.append_assoc, isMarked_comment parsed.indent]
    by_contra begins
    exact noLabel (kind_of_mark (by simpa using begins))
  constructor
  · intro e last
    simp only [List.map_cons, List.map_nil, List.getLast?_cons_cons, List.getLast?_singleton,
      Option.some.injEq] at last
    rw [← last, Emission.isAnnotation, unmarked, Bool.false_and]
  · simp only [List.map_cons, List.map_nil, annotations, Emission.isAnnotation, marked, unmarked]
    unfold annotationOf errorMark
    simp [noComment, Line.around]

/-- **The annotations among the lines that a line becomes.** -/
theorem Settings.Converts.annotations_eq (converts : settings.Converts raw conversion)
    (standard : settings.directives = .standard) :
    Closed (conversion.lines.map (Emission.mk · (some raw))) ∧
      annotations (conversion.lines.map (Emission.mk · (some raw))) =
        ((conversion.finding.bind Finding.diagnostic?).map (annotationOf raw)).toList := by
  cases found : conversion.finding.bind Finding.diagnostic? with
  | none =>
      have plain := converts.isAnnotation_eq_false standard found
      exact ⟨closed_of_forall plain, annotations_of_forall plain⟩
  | some error =>
      cases converts with
      | rejected code noLabel noDirective failed =>
          obtain rfl : _ = error := Option.some.inj found
          exact annotations_rejected code noLabel _
      | unknownDirective => simp [Finding.diagnostic?] at found
      | blank | comment | label | directive | instruction => simp at found

end Line

namespace Settings

variable (settings : Settings)

theorem isSome_error? (raw : Text) : (settings.error? raw).isSome = settings.rejects raw :=
  (settings.converts raw).isSome_diagnostic?

theorem isSome_warning? (raw : Text) :
    (settings.warning? raw).isSome = settings.hasUnknownDirective raw :=
  (settings.converts raw).isSome_warning?

theorem closed_emit (standard : settings.directives = .standard) (raw : Text) :
    Closed (settings.emit raw) :=
  ((settings.converts raw).annotations_eq standard).1

/-- Many lines have the annotations of their errors. -/
theorem annotations_flatMap_emit (standard : settings.directives = .standard)
    (sources : List Text) :
    annotations (sources.flatMap settings.emit) =
      sources.filterMap fun raw => (settings.error? raw).map (annotationOf raw) := by
  rw [annotations_flatMap (settings.closed_emit standard), List.filterMap_eq_flatMap_toList]
  refine List.flatMap_congr fun raw _ => ?_
  exact ((settings.converts raw).annotations_eq standard).2

end Settings

end Retarget
