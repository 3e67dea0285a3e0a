/-
# Retarget.Proofs.Sizes -- the width of words shows in the size suffix and nowhere else

A text can be converted for either width.  Both conversions find the same things wrong with it and
write the same number of lines, and a line of the one differs from its counterpart in the letter
behind the dot of a sized mnemonic, if at all (`Resized`).

Which lines differ is said without looking at the other conversion: those of instructions that are
converted (`Settings.lowers`) and that begin with a mnemonic that carries a size
(`sizedMnemonics`).  What stands behind a mnemonic is no letter, so the mnemonic of a line can be
read off the line (`leadingMnemonic_append`).
-/
import Retarget.Proofs.Batches

namespace Retarget

set_option autoImplicit false

open IE32 (HasCode Line)

/-! ## The mnemonic of a line -/

namespace IE64

def sizedMnemonics : List Text :=
  ["move", "load", "store", "add", "sub", "mulu", "divu", "mod", "and", "or", "eor", "lsl", "lsr",
    "not"]

theorem isSized_iff (i : Instruction) : i.isSized = true ↔ i.mnemonic ∈ sizedMnemonics := by
  cases i with
  | control op =>
      have word : op.target ∉ sizedMnemonics := by cases op <;> decide
      exact iff_of_false (by simp [Instruction.isSized]) word
  | stack op =>
      have word : op.target ∉ sizedMnemonics := by cases op <;> decide
      exact iff_of_false (by simp [Instruction.isSized]) word
  | jump op =>
      have word : op.target ∉ sizedMnemonics := by cases op <;> decide
      exact iff_of_false (by simp [Instruction.isSized]) word
  | branch condition =>
      have word : condition.target ∉ sizedMnemonics := by cases condition <;> decide
      exact iff_of_false (by simp [Instruction.isSized]) word
  | loadAddress =>
      exact iff_of_false (by simp [Instruction.isSized])
        (show ("la" : Text) ∉ sizedMnemonics by decide)
  | wait =>
      exact iff_of_false (by simp [Instruction.isSized])
        (show ("wait" : Text) ∉ sizedMnemonics by decide)
  | binary op =>
      have word : op.target ∈ sizedMnemonics := by cases op <;> decide
      exact iff_of_true rfl word
  | move => exact iff_of_true rfl (show ("move" : Text) ∈ sizedMnemonics by decide)
  | load => exact iff_of_true rfl (show ("load" : Text) ∈ sizedMnemonics by decide)
  | store => exact iff_of_true rfl (show ("store" : Text) ∈ sizedMnemonics by decide)
  | complement => exact iff_of_true rfl (show ("not" : Text) ∈ sizedMnemonics by decide)

/-- The mnemonic that a line begins with, behind its indent: its first letters. -/
def leadingMnemonic (line : Text) : Text :=
  (line.dropWhile Text.isIndent).takeWhile letters.contains

/-- The text does not go on with a letter. -/
def Parted (t : Text) : Prop := ∀ c, t.head? = some c → c ∉ letters

theorem parted_operandText (i : Instruction) {tail : Text} (parted : Parted tail) :
    Parted (i.operandText ++ tail) := by
  unfold Instruction.operandText
  split
  · exact parted
  · intro c first
    obtain rfl : ' ' = c := by simpa using first
    decide

/-- What follows the mnemonic in a line, and what follows the line, is no letter. -/
theorem parted_render (i : Instruction) (size : Size) {tail : Text} (parted : Parted tail) :
    Parted ((if i.isSized then size.suffix else []) ++ i.operandText ++ tail) := by
  rw [List.append_assoc]
  split
  · intro c first
    have dot : ∀ more : Text, (size.suffix ++ more).head? = some '.' := by
      intro more
      cases size <;> rfl
    obtain rfl : '.' = c := by simpa [dot] using first
    decide
  · exact parted_operandText i parted

/-- The mnemonic of an instruction can be read off its line, whatever is behind it. -/
theorem leadingMnemonic_append {indent : Text} (layout : ∀ c ∈ indent, Text.isIndent c = true)
    (i : Instruction) (size : Size) {tail : Text} (parted : Parted tail) :
    leadingMnemonic (indent ++ i.render size.suffix ++ tail) = i.mnemonic := by
  obtain ⟨c, letter, first⟩ := head?_mnemonic i size.suffix
  have noIndent : ∀ c ∈ letters, Text.isIndent c = false := by decide
  have dropped : (indent ++ (i.render size.suffix ++ tail)).dropWhile Text.isIndent =
      i.render size.suffix ++ tail :=
    dropWhile_isIndent_append layout (by simp [List.head?_append, first]) (noIndent c letter)
  have word : ∀ c ∈ i.mnemonic, letters.contains c = true := by
    intro c member
    simpa using (mnemonic_spec i).2 c member
  have behind : ∀ c, ((if i.isSized then size.suffix else []) ++ i.operandText ++ tail).head? =
      some c → letters.contains c = false := by
    intro c first
    simpa using parted_render i size parted c first
  rw [leadingMnemonic, List.append_assoc, dropped, Instruction.render, List.append_assoc,
    List.append_assoc, ← List.append_assoc _ _ tail]
  exact Text.takeWhile_append word behind

theorem render_of_isSized {i : Instruction} (sized : i.isSized = true) (suffix : Text) :
    i.render suffix = i.mnemonic ++ suffix ++ " " ++ Text.join ", " i.operands := by
  have operands : i.operandText = ' ' :: Text.join ", " i.operands := by
    cases i <;> first | rfl | simp [Instruction.isSized] at sized
  simp [Instruction.render, sized, operands]

theorem render_of_unsized {i : Instruction} (unsized : i.isSized = false) (suffix other : Text) :
    i.render suffix = i.render other := by
  simp [Instruction.render, unsized]

end IE64

open IE64 (leadingMnemonic sizedMnemonics Parted)

/-! ## One line for either width -/

/-- The line has code that is neither a label nor a directive, and its lowering succeeds. -/
def Settings.lowers (settings : Settings) (raw : Text) : Bool :=
  decide (HasCode raw) && (Line.parse raw).kind != .label && (Line.parse raw).kind != .directive &&
    !(Lowering.ofCode settings.registers settings.size.suffix (Line.parse raw).indent
      (Line.parse raw).code).failed

/-- A line of output and its counterpart for the other width: they are the same except behind a
sized mnemonic, and they differ exactly if they were made from an instruction that is converted
and begin with such a mnemonic. -/
structure Resized (settings : Settings) (long quad : Emission) : Prop where
  source : long.source = quad.source
  line : long.line = quad.line ∨ ∃ indent mnemonic rest : Text,
    (∀ c ∈ indent, Text.isIndent c = true) ∧ mnemonic ∈ sizedMnemonics ∧
      long.line = indent ++ mnemonic ++ ".l " ++ rest ∧
      quad.line = indent ++ mnemonic ++ ".q " ++ rest
  differs : long.line ≠ quad.line ↔
    long.source.any settings.lowers = true ∧ leadingMnemonic long.line ∈ sizedMnemonics

theorem resized_self {settings : Settings} {e : Emission}
    (other : e.source.any settings.lowers = false) : Resized settings e e where
  source := rfl
  line := .inl rfl
  differs := by simp [other]

/-- An instruction for either width, with its indent and with what is behind it. -/
theorem resized_render {settings : Settings} {raw indent tail : Text}
    (lowers : settings.lowers raw = true) (layout : ∀ c ∈ indent, Text.isIndent c = true)
    (parted : Parted tail) (i : IE64.Instruction) :
    Resized settings ⟨indent ++ i.render Size.long.suffix ++ tail, some raw⟩
      ⟨indent ++ i.render Size.quad.suffix ++ tail, some raw⟩ := by
  have leading := IE64.leadingMnemonic_append layout i .long parted
  cases sized : i.isSized with
  | false =>
      have same := IE64.render_of_unsized sized Size.long.suffix Size.quad.suffix
      have plain : i.mnemonic ∉ sizedMnemonics := by
        rw [← IE64.isSized_iff, sized]
        decide
      exact {
        source := rfl
        line := .inl (by rw [same])
        differs := iff_of_false (fun differ => differ (by rw [same]))
          fun listed => plain (leading ▸ listed.2) }
  | true =>
      have listed := (IE64.isSized_iff i).mp sized
      have shape : ∀ size : Size, indent ++ i.render size.suffix ++ tail =
          indent ++ i.mnemonic ++ (size.suffix ++ " ") ++ (Text.join ", " i.operands ++ tail) := by
        intro size
        simp [IE64.render_of_isSized sized]
      have apart : indent ++ i.render Size.long.suffix ++ tail ≠
          indent ++ i.render Size.quad.suffix ++ tail := by
        rw [shape, shape]
        intro same
        simp [Size.suffix] at same
      exact {
        source := rfl
        line := .inr ⟨indent, i.mnemonic, Text.join ", " i.operands ++ tail, layout, listed,
          shape .long, shape .quad⟩
        differs := iff_of_true apart ⟨by simpa using lowers, leading.symm ▸ listed⟩ }

theorem parted_suffix (line : Line) : Parted line.suffix := by
  intro c first
  unfold Line.suffix at first
  split at first
  · simp at first
  · obtain rfl : ' ' = c := by simpa using first
    decide

namespace Settings

variable (settings : Settings)

def withSize (size : Size) : Settings := { settings with size }

/-- What a conversion is for one width is told by what it is for the other: the same finding, and
lines that are the same but for the size. -/
structure SameButSize (raw : Text) (long quad : Conversion) : Prop where
  finding : long.finding = quad.finding
  lines : List.Forall₂ (Resized settings) (long.lines.map (Emission.mk · (some raw)))
    (quad.lines.map (Emission.mk · (some raw)))

variable {settings} {raw : Text}

theorem sameButSize_self (other : settings.lowers raw = false) (conversion : Conversion) :
    settings.SameButSize raw conversion conversion where
  finding := rfl
  lines := by
    rw [List.forall₂_same]
    intro e member
    obtain ⟨line, -, rfl⟩ := List.mem_map.mp member
    exact resized_self (by simpa using other)

/-- The lines of an instruction that is converted. -/
theorem sameButSize_instruction (code : HasCode raw) (lowers : settings.lowers raw = true)
    (first : IE64.Instruction) (rest : List IE64.Instruction) :
    settings.SameButSize raw
      { lines := (Line.parse raw).around (first.render Size.long.suffix) ::
          rest.map ((Line.parse raw).indent ++ ·.render Size.long.suffix) }
      { lines := (Line.parse raw).around (first.render Size.quad.suffix) ::
          rest.map ((Line.parse raw).indent ++ ·.render Size.quad.suffix) } where
  finding := rfl
  lines := by
    have layout := (IE32.parse_parsed code).indent
    refine .cons (resized_render lowers layout (parted_suffix _) first) ?_
    rw [List.map_map, List.map_map, List.forall₂_map_left_iff, List.forall₂_map_right_iff,
      List.forall₂_same]
    intro i member
    have nothing : Parted [] := by simp [Parted]
    have line := resized_render lowers layout nothing i
    simpa using line

/-- A line is converted in the same way for either width, but for the size: the other
conversion is in the same one of the seven cases. -/
theorem Converts.sameButSize {long : Conversion}
    (converts : (settings.withSize .long).Converts raw long) :
    settings.SameButSize raw long ((settings.withSize .quad).convertLine raw) := by
  cases converts with
  | blank empty =>
      have quad : (settings.withSize .quad).Converts raw _ := .blank empty
      rw [quad.eq]
      exact sameButSize_self (by simp [lowers, HasCode, empty]) _
  | comment marked =>
      have quad : (settings.withSize .quad).Converts raw _ := .comment marked
      rw [quad.eq]
      exact sameButSize_self (by simp [lowers, HasCode, marked]) _
  | label code kind =>
      have quad : (settings.withSize .quad).Converts raw _ := .label code kind
      rw [quad.eq]
      exact sameButSize_self (by simp [lowers, kind]) _
  | directive code kind known =>
      have quad : (settings.withSize .quad).Converts raw _ := .directive code kind known
      rw [quad.eq]
      exact sameButSize_self (by simp [lowers, kind]) _
  | unknownDirective code kind unknown =>
      have quad : (settings.withSize .quad).Converts raw _ := .unknownDirective code kind unknown
      rw [quad.eq]
      exact sameButSize_self (by simp [lowers, kind]) _
  | instruction code noLabel noDirective read lower =>
      have quad : (settings.withSize .quad).Converts raw _ :=
        .instruction code noLabel noDirective read lower
      have lowers : settings.lowers raw = true := by
        have converted := Lowering.ofCode_of_ok read settings.size.suffix (Line.parse raw).indent
        simp only [withSize] at converted
        simp [lowers, code, noLabel, noDirective, Lowering.failed, converted]
      rw [quad.eq]
      exact sameButSize_instruction code lowers _ _
  | rejected code noLabel noDirective failed =>
      have quad : (settings.withSize .quad).Converts raw _ :=
        .rejected code noLabel noDirective failed
      rw [quad.eq]
      simp only [withSize] at failed
      exact sameButSize_self (by simp [lowers, Lowering.failed, Lowering.ofCode_of_error failed]) _

variable (settings)

theorem convertLine_sameButSize (raw : Text) :
    settings.SameButSize raw ((settings.withSize .long).convertLine raw)
      ((settings.withSize .quad).convertLine raw) :=
  ((settings.withSize .long).converts raw).sameButSize

theorem error?_withSize : (settings.withSize .quad).error? = (settings.withSize .long).error? := by
  funext raw
  simp only [error?, (settings.convertLine_sameButSize raw).finding]

theorem warning?_withSize :
    (settings.withSize .quad).warning? = (settings.withSize .long).warning? := by
  funext raw
  simp only [warning?, (settings.convertLine_sameButSize raw).finding]

/-- The lines that lines become for either width correspond to each other in their order. -/
theorem forall₂_flatMap_emit (raws : List Text) :
    List.Forall₂ (Resized settings) (raws.flatMap (settings.withSize .long).emit)
      (raws.flatMap (settings.withSize .quad).emit) := by
  induction raws with
  | nil => exact .nil
  | cons raw rest ih =>
      rw [List.flatMap_cons, List.flatMap_cons]
      exact List.rel_append (settings.convertLine_sameButSize raw).lines ih

theorem forall₂_emitText (source : Text) :
    List.Forall₂ (Resized settings) ((settings.withSize .long).emitText source)
      ((settings.withSize .quad).emitText source) := by
  have header : List.Forall₂ (Resized settings)
      ((settings.withSize .long).header.map (Emission.mk · none))
      ((settings.withSize .quad).header.map (Emission.mk · none)) := by
    show List.Forall₂ _ _ ((settings.withSize .long).header.map (Emission.mk · none))
    rw [List.forall₂_same]
    intro e member
    obtain ⟨line, -, rfl⟩ := List.mem_map.mp member
    exact resized_self rfl
  exact List.rel_append header (settings.forall₂_flatMap_emit source.lines)

end Settings

/-- **The width shows in the size suffixes and nowhere else**: for either width the same errors and
warnings are recorded, after every history, and the lines of output correspond to each other one
by one.  Two that correspond differ exactly if they were made from an instruction that is
converted and begin with a sized mnemonic, and then in its suffix alone. -/
theorem size_noninterference (settings : Settings) (source : Text) :
    let long := settings.withSize .long
    let quad := settings.withSize .quad
    (long.emitText source).length = (quad.emitText source).length ∧
      List.Forall₂ (Resized settings) (long.emitText source) (quad.emitText source) ∧
      ∃ (errors : List Diagnostic) (warnings : List Text),
        ∀ (tree : FileTree) (steps : List Step),
        ((Progress.start long tree).run steps).session.Yields source
            ⟨Text.unlines ((long.emitText source).map Emission.line), errors, warnings⟩ ∧
          ((Progress.start quad tree).run steps).session.Yields source
            ⟨Text.unlines ((quad.emitText source).map Emission.line), errors, warnings⟩ := by
  intro long quad
  have related := settings.forall₂_emitText source
  have errors : source.lines.filterMap quad.error? = source.lines.filterMap long.error? := by
    rw [settings.error?_withSize]
  have warnings : source.lines.filterMap quad.warning? = source.lines.filterMap long.warning? := by
    rw [settings.warning?_withSize]
  refine ⟨related.length_eq, related, source.lines.filterMap long.error?,
    source.lines.filterMap long.warning?, ?_⟩
  intro tree steps
  refine ⟨Progress.yields_run long tree steps source, ?_⟩
  rw [← errors, ← warnings]
  exact Progress.yields_run quad tree steps source

end Retarget
