/-
# Retarget.Proofs.OperandCounts -- how many operands an accepted instruction has

`commaPieces` cuts an operand text at every comma outside brackets, and `operandsIn` keeps the
pieces that are not blank.  Reading an instruction cuts at one comma at most, so the two views
differ where there are more.

Mnemonics that take one operand, other than jumps, see every such comma: they look for one, or for
a register name, and no name has a comma.  So an accepted instruction has exactly the one operand
(`operandsIn_of_accepts`), and anything beside it is refused.  Mnemonics that take two operands look
at the first comma only.  What stands before it is the first operand, all that stands behind it is
the second, and neither may be missing (`exists_pieces_of_pair`).  A jump takes all the text as its
target, and an instruction without operands does not look at the text.
-/
import Retarget.Proofs.IE32.Commas

namespace Retarget

set_option autoImplicit false

namespace IE32

open Text (trim)

/-! ## Cutting at every comma -/

/-- What stands between the commas outside brackets, where the text begins at this depth. -/
def commaPieces (depth : Int) : Text → List Text
  | [] => [[]]
  | c :: rest =>
      if c = ',' ∧ depth = 0 then [] :: commaPieces depth rest
      else (commaPieces (depthAfter depth c) rest).modifyHead (c :: ·)

/-- The operands of a text, if every comma outside brackets parts two and blanks are none. -/
def operandsIn (t : Text) : List Text := ((commaPieces 0 t).map trim).filter (!·.isEmpty)

theorem commaPieces_of_uncut {depth : Int} {t : Text} (uncut : cutAtComma depth t = none) :
    commaPieces depth t = [t] := by
  induction t generalizing depth with
  | nil => rfl
  | cons c rest ih =>
      rw [cutAtComma] at uncut
      split at uncut
      · simp at uncut
      · rename_i passes
        rw [commaPieces, if_neg passes, ih (Option.map_eq_none_iff.mp uncut)]
        rfl

/-- Behind the first comma the search starts anew, at depth zero. -/
theorem commaPieces_of_cut {depth : Int} {t before after : Text}
    (cut : cutAtComma depth t = some (before, after)) :
    commaPieces depth t = before :: commaPieces 0 after := by
  induction t generalizing depth before with
  | nil => simp [cutAtComma] at cut
  | cons c rest ih =>
      rw [cutAtComma] at cut
      split at cut
      · rename_i here
        simp only [Option.some.injEq, Prod.mk.injEq] at cut
        obtain ⟨rfl, rfl⟩ := cut
        rw [commaPieces, if_pos here, here.2]
      · rename_i passes
        obtain ⟨⟨first, second⟩, cutRest, same⟩ := Option.map_eq_some_iff.mp cut
        simp only [Prod.mk.injEq] at same
        obtain ⟨rfl, rfl⟩ := same
        rw [commaPieces, if_neg passes, ih cutRest]
        rfl

theorem commaPieces_ne_nil (depth : Int) (t : Text) : commaPieces depth t ≠ [] := by
  cases cut : cutAtComma depth t with
  | none => simp [commaPieces_of_uncut cut]
  | some parts => simp [commaPieces_of_cut cut]

/-- Nothing is lost but the commas. -/
theorem join_commaPieces (depth : Int) (t : Text) : Text.join "," (commaPieces depth t) = t := by
  induction t generalizing depth with
  | nil => rfl
  | cons c rest ih =>
      rw [commaPieces]
      split
      · rename_i here
        have later := ih depth
        obtain ⟨piece, more, pieces⟩ := List.exists_cons_of_ne_nil (commaPieces_ne_nil depth rest)
        rw [pieces] at later ⊢
        rw [IE64.join_cons_cons, later, here.1]
        rfl
      · have later := ih (depthAfter depth c)
        obtain ⟨piece, more, pieces⟩ :=
          List.exists_cons_of_ne_nil (commaPieces_ne_nil (depthAfter depth c) rest)
        rw [pieces] at later ⊢
        rw [← later, List.modifyHead_cons]
        cases more <;> simp

theorem operandsIn_of_single {t : Text} (single : Single t) (some_text : trim t ≠ []) :
    operandsIn t = [trim t] := by
  simp [operandsIn, commaPieces_of_uncut ((single_iff t).mp single), some_text]

/-- Two operands, as they are read, are the first piece and all the others together. -/
theorem exists_pieces_of_pair {rest first second : Text} (trimmed : trim rest = rest)
    (pair : Pair rest first second) :
    ∃ piece others, commaPieces 0 rest = piece :: others ∧ others ≠ [] ∧ first = trim piece ∧
      second = trim (Text.join "," others) := by
  obtain ⟨before, after, cut, rfl, rfl⟩ := cutAtComma_of_pair pair.1
  rw [trimmed] at cut
  refine ⟨before, commaPieces 0 after, commaPieces_of_cut cut, commaPieces_ne_nil 0 after, rfl, ?_⟩
  rw [join_commaPieces]

/-! ## What an accepted instruction has -/

namespace Mnemonic

def arity : Mnemonic → Nat
  | .control _ => 0
  | .stack _ | .jump _ | .complement | .step _ | .wait | .loadNamed _ | .storeNamed _ => 1
  | .branch _ | .load | .store | .binary _ => 2

/-- The mnemonic takes one operand and sees every comma: `PUSH`, `POP`, `NOT`, `INC`, `DEC`, `WAIT`,
`LDx` and `STx`. -/
def seesCommas (k : Mnemonic) : Bool := k.takesRegister || k.takesOne

theorem arity_of_seesCommas {k : Mnemonic} (sees : k.seesCommas = true) : k.arity = 1 := by
  cases k with
  | stack | complement | loadNamed | storeNamed | step | wait => rfl
  | _ => cases sees

theorem arity_of_takesTwo {k : Mnemonic} (two : k.takesTwo = true) : k.arity = 2 := by
  cases k with
  | branch | load | store | binary => rfl
  | _ => cases two

end Mnemonic

/-- No register has a comma in its name. -/
theorem single_of_contains {t : Text} (named : RegisterMap.standard.contains t = true) :
    Single t := by
  obtain ⟨r, found⟩ := Option.isSome_iff_exists.mp named
  have unnamed : ∀ entry ∈ RegisterMap.standard.table.entries, ',' ∉ entry.1 := by decide +kernel
  have absent : ',' ∉ t :=
    RegisterMap.notMem_of_find? (by decide) (by decide) (by decide) unnamed found
  rintro before after rfl
  exact absurd (by simp) absent

/-- Where every comma is seen, what is accepted is exactly one operand. -/
theorem operandsIn_of_accepts {k : Mnemonic} {rest : Text} (sees : k.seesCommas = true)
    (trimmed : trim rest = rest) (accepts : Accepts .standard rest k) :
    operandsIn rest = [rest] := by
  have one : Single rest ∧ trim rest ≠ [] := by
    cases k with
    | stack | complement => exact ⟨single_of_contains accepts.2, trimmed.symm ▸ accepts.1⟩
    | loadNamed | storeNamed =>
        obtain ⟨-, operand, sole, -⟩ := accepts
        exact sole.single
    | step =>
        obtain ⟨operand, sole, -, -⟩ := accepts
        exact sole.single
    | wait =>
        obtain ⟨operand, sole, -⟩ := accepts
        exact sole.single
    | _ => cases sees
  rw [operandsIn_of_single one.1 one.2, trimmed]

theorem exists_pair_of_accepts {m : RegisterMap} {k : Mnemonic} {rest : Text}
    (two : k.takesTwo = true) (accepts : Accepts m rest k) :
    ∃ first second, Pair rest first second := by
  cases k with
  | branch =>
      obtain ⟨first, second, pair, -⟩ := accepts
      exact ⟨first, second, pair⟩
  | load | store | binary =>
      obtain ⟨first, second, pair, -, -⟩ := accepts
      exact ⟨first, second, pair⟩
  | _ => cases two

/-- Converted code was accepted by its mnemonic. -/
theorem accepts_of_converted {m : RegisterMap} {suffix indent code : Text} {k : Mnemonic}
    (word : k.text = Text.upper (Text.cutWord code).1)
    (converted : (Lowering.ofCode m suffix indent code).failed = false) :
    Accepts m (Text.cutWord code).2 k := by
  have quiet : (Lowering.ofCode m suffix indent code).error = none := by
    simpa [Lowering.failed] using converted
  obtain ⟨i, read, -⟩ := Lowering.exists_read quiet
  rw [read_trim] at read
  obtain ⟨other, same, accepts⟩ := read_eq_ok_iff_admits.mp ⟨i, read⟩
  have both := ofWord?_eq_some_iff.mpr same
  rw [ofWord?_eq_some_iff.mpr word] at both
  cases both
  exact accepts

/-- An accepted jump has a target, and the line that it becomes holds all of it. -/
theorem jump_of_converted {m : RegisterMap} {suffix indent code : Text} {op : Jump}
    (word : op.source = Text.upper (Text.cutWord code).1)
    (converted : (Lowering.ofCode m suffix indent code).failed = false) :
    (Text.cutWord code).2 ≠ [] ∧
      (Lowering.ofCode m suffix indent code).lines =
        [indent ++ op.target ++ " " ++ (Text.cutWord code).2] := by
  have some_text : (Text.cutWord code).2 ≠ [] := accepts_of_converted (k := .jump op) word converted
  have read : Instruction.read m (trim code) = .ok (.jump op (Text.cutWord code).2) := by
    rw [read_trim, read_of_word (k := .jump op) word, ofMnemonic_eq_ok_iff]
    exact .jump op some_text
  refine ⟨some_text, ?_⟩
  rw [Lowering.ofCode_of_ok read]
  simp [Instruction.lower]

end IE32

open IE32 (Mnemonic Pair commaPieces operandsIn)
open Text (trim)

/-- **How many operands accepted code has.**  A mnemonic that sees every comma has exactly as many
as it takes, and with any other number the code is refused: its lines are the two that say so.  A
mnemonic that takes two has them on either side of its first comma outside brackets; the second is
all that follows, and the count is exact if no other such comma does.  A jump has a target, which
is all the text. -/
theorem accepted_operands {code : Text} {k : Mnemonic}
    (word : k.text = Text.upper (Text.cutWord code).1) (suffix indent : Text) :
    let rest := (Text.cutWord code).2
    let lowering := Lowering.ofCode .standard suffix indent code
    (k.seesCommas = true → lowering.failed = false → (operandsIn rest).length = k.arity) ∧
      (k.seesCommas = true → (operandsIn rest).length ≠ k.arity →
        ∃ fault, lowering =
          { lines := [indent ++ "; ERROR: " ++ fault.message, indent ++ "; " ++ trim code]
            error := some { fault, source := some (trim code) } }) ∧
      (k.takesTwo = true → lowering.failed = false →
        ∃ first others, commaPieces 0 rest = first :: others ∧ others ≠ [] ∧
          Pair rest (trim first) (trim (Text.join "," others)) ∧
          (others.length = 1 → (operandsIn rest).length = k.arity)) ∧
      (∀ op, k = .jump op → lowering.failed = false →
        rest ≠ [] ∧ lowering.lines = [indent ++ op.target ++ " " ++ rest]) := by
  intro rest lowering
  have trimmed : trim rest = rest := Text.trim_trim _
  have exact_count : k.seesCommas = true → lowering.failed = false →
      (operandsIn rest).length = k.arity := by
    intro sees converted
    rw [IE32.operandsIn_of_accepts sees trimmed (IE32.accepts_of_converted word converted),
      Mnemonic.arity_of_seesCommas sees]
    rfl
  refine ⟨exact_count, ?_, ?_, ?_⟩
  · intro sees wrong
    cases read : IE32.Instruction.read .standard (trim code) with
    | ok i =>
        have converted : lowering.failed = false := by
          show (Lowering.ofCode _ _ _ _).failed = false
          rw [Lowering.ofCode_of_ok read]
          rfl
        exact absurd (exact_count sees converted) wrong
    | error fault => exact ⟨fault, Lowering.ofCode_of_error read suffix indent⟩
  · intro two converted
    obtain ⟨first, second, pair⟩ :=
      IE32.exists_pair_of_accepts two (IE32.accepts_of_converted word converted)
    obtain ⟨piece, others, pieces, some_others, rfl, rfl⟩ :=
      IE32.exists_pieces_of_pair trimmed pair
    refine ⟨piece, others, pieces, some_others, pair, ?_⟩
    intro only
    obtain ⟨last, rfl⟩ := List.length_eq_one_iff.mp only
    obtain ⟨-, some_first, some_last⟩ := pair
    rw [IE64.join_singleton] at some_last
    simp [operandsIn, pieces, some_first, some_last, Mnemonic.arity_of_takesTwo two]
  · rintro op rfl converted
    exact IE32.jump_of_converted word converted

/-- A comma in brackets parts nothing, and a second operand may have a comma of its own. -/
theorem accepted_operands_commas :
    let step : Text := "inc [b+1,2]"
    let sum : Text := "add a, x, 2"
    Mnemonic.text (.step .increment) = Text.upper (Text.cutWord step).1 ∧
      (Lowering.ofCode .standard ".l" "" step).failed = false ∧
      (operandsIn (Text.cutWord step).2).length = 1 ∧
      Mnemonic.text (.binary .add) = Text.upper (Text.cutWord sum).1 ∧
      (Lowering.ofCode .standard ".l" "" sum).failed = false ∧
      ∃ first others, commaPieces 0 (Text.cutWord sum).2 = first :: others ∧ others ≠ [] ∧
        Pair (Text.cutWord sum).2 (trim first) (trim (Text.join "," others)) ∧
        (others.length = 1 → (operandsIn (Text.cutWord sum).2).length = 2) := by
  intro step sum
  have stepWord : Mnemonic.text (.step .increment) = Text.upper (Text.cutWord step).1 := by
    decide +kernel
  have stepConverted : (Lowering.ofCode .standard ".l" "" step).failed = false := by decide +kernel
  have sumWord : Mnemonic.text (.binary .add) = Text.upper (Text.cutWord sum).1 := by
    decide +kernel
  have sumConverted : (Lowering.ofCode .standard ".l" "" sum).failed = false := by decide +kernel
  exact ⟨stepWord, stepConverted, (accepted_operands stepWord ".l" "").1 rfl stepConverted,
    sumWord, sumConverted, (accepted_operands sumWord ".l" "").2.2.1 rfl sumConverted⟩

/-- Not every comma parts operands.  A jump takes all the text for its target, and the second of
two operands may go on behind a comma. -/
theorem surplus_operands_accepted :
    (Mnemonic.text (.jump .goto) = Text.upper (Text.cutWord "JMP a, b").1 ∧
      Lowering.ofCode .standard ".l" "" "JMP a, b" = { lines := ["bra a, b"] } ∧
      operandsIn (Text.cutWord "JMP a, b").2 = ["a", "b"] ∧ Mnemonic.arity (.jump .goto) = 1) ∧
    (Mnemonic.text .load = Text.upper (Text.cutWord "LOAD A, B, C").1 ∧
      Lowering.ofCode .standard ".l" "" "LOAD A, B, C" = { lines := ["move.l r1, #B, C"] } ∧
      operandsIn (Text.cutWord "LOAD A, B, C").2 = ["A", "B", "C"] ∧ Mnemonic.arity .load = 2) := by
  decide +kernel

end Retarget
