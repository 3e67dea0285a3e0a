/-
# Retarget.Proofs.Transfers -- loads and stores in their two spellings

A load is written `LDx source` or `LOAD x, source`, and a store likewise.  In the first spelling the
mnemonic names the register and one operand follows; in the second the register is the first of two
operands, and the second is all that follows its comma.  So the two see the same operand unless it
has a comma outside brackets itself: then the first spelling counts two operands where it takes one
(`Transfer.read_named_of_count`), while the second takes the whole of it (`Transfer.read_generic`).

`Transfer.read` is what both are read as where they agree.  The only fault it can have is a base
that is no register (`Transfer.read_eq_error`).
-/
import Retarget.Proofs.IE32.Commas
import Retarget.Proofs.LoweringTable

namespace Retarget

set_option autoImplicit false

namespace IE32

open Text (trim Spells)

/-- A move between a register and what an operand stands for. -/
inductive Transfer where
  | load
  | store
  deriving DecidableEq, Repr

namespace Transfer

/-- The mnemonic that a register letter follows. -/
def stem : Transfer → Text
  | .load => "LD"
  | .store => "ST"

/-- The mnemonic that takes the register as an operand. -/
def word : Transfer → Text
  | .load => "LOAD"
  | .store => "STORE"

/-- The spelling in which the mnemonic names the register. -/
def named (t : Transfer) (l : Letter) (op : Text) : Text := t.stem ++ l.text ++ ' ' :: op

/-- The spelling in which the register is an operand. -/
def generic (t : Transfer) (l : Letter) (op : Text) : Text :=
  t.word ++ ' ' :: (l.text ++ ',' :: ' ' :: op)

/-- The instruction that moves between the register and the whole of the operand text. -/
def read (t : Transfer) (r : Register) (op : Text) : Except Fault Instruction :=
  match t with
  | .load => (Operand.read .standard op).map (.load r)
  | .store => (Place.read .standard op).map (.store r)

def namedMnemonic (t : Transfer) (letter : Char) : Mnemonic :=
  match t with
  | .load => .loadNamed letter
  | .store => .storeNamed letter

def genericMnemonic : Transfer → Mnemonic
  | .load => .load
  | .store => .store

variable (t : Transfer)

theorem read_trim (r : Register) (op : Text) : t.read r (trim op) = t.read r op := by
  cases t with
  | load => simp only [read, Operand.read_trim]
  | store => simp only [read, Place.read_trim]

/-- A transfer with an operand is refused for its base or not at all. -/
theorem read_eq_error {r : Register} {op : Text} {fault : Fault}
    (failed : t.read r op = .error fault) : ∃ name hint, fault = .unknownRegister name hint := by
  have blamed : NamesNone op fault := by
    cases t with
    | load => exact Operand.read_eq_error ((except_map_eq_error_iff _ _ _).mp failed)
    | store => exact Place.read_eq_error ((except_map_eq_error_iff _ _ _).mp failed)
  obtain ⟨name, hint, -, rfl⟩ := blamed
  exact ⟨name, hint, rfl⟩

/-! ## The mnemonic that names a register -/

theorem text_namedMnemonic (letter : Char) :
    (t.namedMnemonic letter).text = t.stem ++ [letter] := by
  cases t <;> rfl

theorem isName_stem {r : Register} (listed : RegisterMap.standard.Lists r) :
    IsName (t.stem ++ r.name) := by
  have names : ∀ entry ∈ RegisterMap.standard.table.entries,
      IsName ("LD" ++ entry.1) ∧ IsName ("ST" ++ entry.1) := by decide +kernel
  cases t with
  | load => exact (names _ listed).1
  | store => exact (names _ listed).2

theorem spells_stem (l : Letter) : Spells (t.stem ++ l.text) (t.stem ++ l.register.name) := by
  have fixed : t.stem.map Char.toUpper = t.stem := by cases t <;> decide
  rw [Spells, List.map_append, fixed]
  exact congrArg _ l.spells

theorem cutWord_named (l : Letter) (op : Text) :
    Text.cutWord (t.named l op) = (t.stem ++ l.text, trim op) := by
  have name := t.isName_stem l.listed
  have spells := t.spells_stem l
  exact Text.cutWord_space op (name.word_ne_nil spells) (name.solid spells)

/-- The letter that the register is named by, and that it is read as that register. -/
theorem exists_mnemonic (l : Letter) (op : Text) :
    ∃ letter, l.register.name = [letter] ∧ RegisterMap.standard.lookup [letter] = .ok l.register ∧
      Instruction.read .standard (t.named l op) =
        Instruction.ofMnemonic .standard (t.namedMnemonic letter) (trim op) := by
  obtain ⟨letter, name, found⟩ := exists_letter l.listed
  refine ⟨letter, name, (RegisterMap.lookup_eq_ok_iff _ _ _).mpr found, ?_⟩
  have word : (t.namedMnemonic letter).text = Text.upper (Text.cutWord (t.named l op)).1 := by
    rw [t.cutWord_named, (t.isName_stem l.listed).upper_eq (t.spells_stem l), name,
      t.text_namedMnemonic]
  rw [read_of_word word, t.cutWord_named]

/-- One operand is read whole. -/
theorem read_named_of_single (l : Letter) {op : Text} (single : Single op)
    (some_text : trim op ≠ []) :
    Instruction.read .standard (t.named l op) = t.read l.register op := by
  obtain ⟨letter, -, found, read⟩ := t.exists_mnemonic l op
  have one : Sole (trim op) (trim op) := by
    refine ⟨?_, some_text⟩
    rw [splitOperands_trim]
    exact splitOperands_single single some_text
  rw [read, ← t.read_trim]
  cases t with
  | load | store =>
      simp only [namedMnemonic, Instruction.ofMnemonic, found, oneOperand_of_sole one,
        except_ok_bind]
      exact except_bind_pure _ _

/-- Any other number of operands is refused. -/
theorem read_named_of_count (l : Letter) {op : Text} (count : ∀ operand, ¬ Sole op operand) :
    Instruction.read .standard (t.named l op) =
      .error (.operandCount (t.stem ++ l.register.name) 1) := by
  obtain ⟨letter, name, found, read⟩ := t.exists_mnemonic l op
  have count' : ∀ operand, ¬ Sole (trim op) operand := by
    intro operand
    rw [Sole, splitOperands_trim]
    exact count operand
  rw [read, name, ← t.text_namedMnemonic]
  cases t with
  | load | store =>
      simp only [namedMnemonic, Instruction.ofMnemonic, found, oneOperand_of_not_sole count',
        except_ok_bind, except_error_bind]

/-! ## The mnemonic that takes the register as an operand -/

theorem splitOperands_generic (l : Letter) (op : Text) :
    splitOperands (trim (l.text ++ ',' :: ' ' :: op)) = [l.text, trim op] := by
  have split := splitOperands_pairText l ⟨[], by simp⟩ ⟨[' '], by decide⟩ op
  simpa [pairText] using split

theorem read_generic_eq (l : Letter) (op : Text) :
    Instruction.read .standard (t.generic l op) =
      Instruction.ofMnemonic .standard t.genericMnemonic (trim (l.text ++ ',' :: ' ' :: op)) := by
  have solid : t.word ≠ [] ∧ ∀ c ∈ t.word, Text.isBlank c = false := by cases t <;> decide
  have cut : Text.cutWord (t.generic l op) = (t.word, trim (l.text ++ ',' :: ' ' :: op)) :=
    Text.cutWord_space _ solid.1 solid.2
  have upper : t.genericMnemonic.text = Text.upper t.word := by cases t <;> decide
  have word : t.genericMnemonic.text = Text.upper (Text.cutWord (t.generic l op)).1 := by
    rw [cut, upper]
  rw [read_of_word word, cut]

/-- All that follows the comma is the operand, whatever commas it has. -/
theorem read_generic (l : Letter) {op : Text} (some_text : trim op ≠ []) :
    Instruction.read .standard (t.generic l op) = t.read l.register op := by
  have pair : Pair (trim (l.text ++ ',' :: ' ' :: op)) l.text (trim op) :=
    ⟨splitOperands_generic l op, l.ne_nil, some_text⟩
  have found : RegisterMap.standard.lookup l.text = .ok l.register :=
    (RegisterMap.lookup_eq_ok_iff _ _ _).mpr (l.find?_eq l.trim_text)
  rw [t.read_generic_eq, ← t.read_trim]
  cases t with
  | load | store =>
      simp only [genericMnemonic, Instruction.ofMnemonic, twoOperands_of_pair pair, found,
        except_ok_bind]
      exact except_bind_pure _ _

theorem read_generic_of_blank (l : Letter) {op : Text} (blank : trim op = []) :
    Instruction.read .standard (t.generic l op) = .error (.operandCount t.word 2) := by
  have count : ∀ first second, ¬ Pair (trim (l.text ++ ',' :: ' ' :: op)) first second := by
    rintro first second ⟨split, -, some_second⟩
    rw [splitOperands_generic l op, blank] at split
    simp only [List.cons.injEq, and_true] at split
    exact some_second split.2.symm
  have two : t.genericMnemonic.takesTwo = true := by cases t <;> rfl
  have text : t.genericMnemonic.text = t.word := by cases t <;> rfl
  rw [t.read_generic_eq, ← text]
  exact ofMnemonic_of_refuses (.notTwo two count)

end Transfer

end IE32

open IE32 (Transfer Letter Instruction splitOperands smallB)
open Text (trim)

/-- Two lowerings say the same: neither is an error and the lines are the same, or both report the
same fault, and begin with the same line. -/
def Lowering.Agrees (first second : Lowering) : Prop :=
  (first.error = none ∧ second.error = none ∧ first.lines = second.lines) ∨
    ∃ fault source other, first.error = some { fault, source } ∧
      second.error = some { fault, source := other } ∧
      first.lines.head? = second.lines.head? ∧ first.lines.head? ≠ none

/-- Codes that are read alike are lowered alike. -/
theorem Lowering.agrees_of_read {m : RegisterMap} {code other : Text}
    (same : Instruction.read m code = Instruction.read m other) (suffix indent : Text) :
    (Lowering.ofCode m suffix indent code).Agrees (Lowering.ofCode m suffix indent other) := by
  rw [← IE32.read_trim m code, ← IE32.read_trim m other] at same
  cases read : Instruction.read m (trim code) with
  | ok i =>
      rw [ofCode_of_ok read, ofCode_of_ok (same ▸ read)]
      exact .inl ⟨rfl, rfl, rfl⟩
  | error fault =>
      rw [ofCode_of_error read, ofCode_of_error (same ▸ read)]
      exact .inr ⟨fault, _, _, rfl, rfl, rfl, by simp [ annotation]⟩

theorem Lowering.error_of_read {m : RegisterMap} {code : Text} {fault : Fault}
    (failed : Instruction.read m code = .error fault) (suffix indent : Text) :
    (Lowering.ofCode m suffix indent code).error = some { fault, source := some (trim code) } := by
  rw [ofCode_of_error ((IE32.read_trim m code).trans failed)]

theorem Lowering.read_of_error {m : RegisterMap} {code suffix indent : Text} {d : Diagnostic}
    (failed : (Lowering.ofCode m suffix indent code).error = some d) :
    Instruction.read m code = .error d.fault := by
  rw [← IE32.read_trim]
  cases read : Instruction.read m (trim code) with
  | ok i => simp [ofCode_of_ok read] at failed
  | error fault =>
      rw [ofCode_of_error read] at failed
      cases failed
      rfl

/-- **The two spellings of a load or a store agree wherever the operand is one operand.**  A comma
outside brackets is where they part: the spelling that names its register refuses it for the number
of operands, the other takes the whole of it as its operand and never counts it.  Without an operand
both refuse, each for its own number. -/
theorem spellings_agree (t : Transfer) (l : Letter) (suffix indent op : Text) :
    let named := Lowering.ofCode .standard suffix indent (t.named l op)
    let generic := Lowering.ofCode .standard suffix indent (t.generic l op)
    (∀ operand, splitOperands op = [operand] → operand ≠ [] → named.Agrees generic) ∧
      (∀ before after, op = before ++ ',' :: after → before.count '[' = before.count ']' →
        named.error =
            some { fault := .operandCount (t.stem ++ l.register.name) 1
                   source := some (trim (t.named l op)) } ∧
          Instruction.read .standard (t.generic l op) = t.read l.register op ∧
          ∀ mnemonic expected source,
            generic.error ≠ some { fault := .operandCount mnemonic expected, source }) ∧
      (trim op = [] →
        named.error =
            some { fault := .operandCount (t.stem ++ l.register.name) 1
                   source := some (trim (t.named l op)) } ∧
          generic.error =
            some { fault := .operandCount t.word 2, source := some (trim (t.generic l op)) }) := by
  intro named generic
  refine ⟨?_, ?_, ?_⟩
  · intro operand split some_operand
    obtain ⟨single, some_text⟩ := IE32.Sole.single ⟨split, some_operand⟩
    apply Lowering.agrees_of_read
    rw [t.read_named_of_single l single some_text, t.read_generic l some_text]
  · intro before after parted level
    have notSingle : ¬ IE32.Single op := fun single => single before after parted level
    have count : ∀ operand, ¬ IE32.Sole op operand := fun operand sole => notSingle sole.single.1
    have whole := t.read_generic l (IE32.trim_ne_nil_of_not_single notSingle)
    refine ⟨Lowering.error_of_read (t.read_named_of_count l count) suffix indent, whole, ?_⟩
    intro mnemonic expected source failed
    have read := Lowering.read_of_error failed
    rw [whole] at read
    obtain ⟨name, hint, other⟩ := t.read_eq_error read
    simp at other
  · intro blank
    have count : ∀ operand, ¬ IE32.Sole op operand := fun operand sole => sole.single.2 blank
    exact ⟨Lowering.error_of_read (t.read_named_of_count l count) suffix indent,
      Lowering.error_of_read (t.read_generic_of_blank l blank) suffix indent⟩

/-- A comma in brackets leaves one operand; behind brackets that close before they open, it parts
two. -/
theorem spellings_agree_brackets :
    (Lowering.ofCode .standard ".q" "\t" (Transfer.store.named smallB "[x+1,2] ")).Agrees
        (Lowering.ofCode .standard ".q" "\t" (Transfer.store.generic smallB "[x+1,2] ")) ∧
      (Lowering.ofCode .standard ".q" "\t" (Transfer.store.named smallB "[x+1,2] ")).lines =
        ["\tstore.q r5, 1,2(r2)"] ∧
      (Lowering.ofCode .standard ".q" "\t" (Transfer.store.named smallB "],[ , 1")).error =
        some { fault := .operandCount "STB" 1, source := some "STb ],[ , 1".toList } := by
  refine ⟨?_, by decide +kernel, ?_⟩
  · exact (spellings_agree .store smallB ".q" "\t" "[x+1,2] ").1 "[x+1,2]" (by decide) (by decide)
  · exact ((spellings_agree .store smallB ".q" "\t" "],[ , 1").2.1 "],[ " " 1" rfl (by decide)).1

end Retarget
