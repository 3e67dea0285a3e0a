/-
# Retarget.Proofs.LoweringTable -- the lines that each IE32 instruction becomes

The table of the conversion, written out as lines of text: a row of mnemonics for each group of
instructions, and for each way to write an operand the lines that fetch it.  It stands beside the
conversion and does not use it.

A `Spelling` is any way to write an instruction of the grammar.  The conversion gives the lines of
the table for all of them (`ofCode_spelling`).
-/
import Retarget.Proofs.IE32.Writing
import Retarget.Proofs.Lowering

namespace Retarget.IE32

set_option autoImplicit false

open Text (trim trimRight Spells)

/-! ## The grammar -/

def controlRows : List (Text × Text) :=
  [("NOP", "nop"), ("HALT", "halt"), ("RTS", "rts"), ("SEI", "sei"), ("CLI", "cli"), ("RTI", "rti")]

def stackRows : List (Text × Text) := [("PUSH", "push"), ("POP", "pop")]

def jumpRows : List (Text × Text) := [("JMP", "bra"), ("JSR", "jsr")]

def branchRows : List (Text × Text) :=
  [("JNZ", "bnez"), ("JZ", "beqz"), ("JGT", "bgtz"), ("JGE", "bgez"), ("JLT", "bltz"),
    ("JLE", "blez")]

def arithmeticRows : List (Text × Text) :=
  [("ADD", "add"), ("SUB", "sub"), ("MUL", "mulu"), ("DIV", "divu"), ("MOD", "mod"),
    ("AND", "and"), ("OR", "or"), ("XOR", "eor"), ("SHL", "lsl"), ("SHR", "lsr")]

def stepRows : List (Text × Text) := [("INC", "add"), ("DEC", "sub")]

/-- A mnemonic of IE32 and the one that takes its place on IE64. -/
structure Row (rows : List (Text × Text)) where
  source : Text
  target : Text
  listed : (source, target) ∈ rows

/-- An instruction, with its operands as they are written. -/
inductive Form where
  | control (row : Row controlRows)
  | stack (row : Row stackRows) (register : Letter)
  | jump (row : Row jumpRows) (target : TargetText)
  | branch (row : Row branchRows) (register : Letter) (before after : Gap) (target : TargetText)
  | loadNamed (dest : Register) (listed : RegisterMap.standard.Lists dest) (source : Written)
      (single : Single source.text)
  | storeNamed (source : Register) (listed : RegisterMap.standard.Lists source) (dest : Written)
      (single : Single dest.text)
  | load (dest : Letter) (before after : Gap) (source : Written)
  | store (source : Letter) (before after : Gap) (dest : Written)
  | arithmetic (row : Row arithmeticRows) (dest : Letter) (before after : Gap) (source : Written)
  | complement (register : Letter)
  | step (row : Row stepRows) (target : Written) (single : Single target.text)
      (changeable : target.kind ≠ .immediate ∧ target.kind ≠ .bare)
  | wait (delay : Written) (single : Single delay.text)
      (valued : delay.kind = .immediate ∨ delay.kind = .bare)

def Form.name : Form → Text
  | .control row => row.source
  | .stack row _ => row.source
  | .jump row _ => row.source
  | .branch row _ _ _ _ => row.source
  | .loadNamed dest _ _ _ => "LD" ++ dest.name
  | .storeNamed source _ _ _ => "ST" ++ source.name
  | .load _ _ _ _ => "LOAD"
  | .store _ _ _ _ => "STORE"
  | .arithmetic row _ _ _ _ => row.source
  | .complement _ => "NOT"
  | .step row _ _ _ => row.source
  | .wait _ _ _ => "WAIT"

/-- A register, a comma and a second operand, with what stands around the comma. -/
def pairText (first : Letter) (before after : Gap) (second : Text) : Text :=
  first.text ++ before.text ++ ',' :: (after.text ++ second)

def Form.operands : Form → Text
  | .control _ => []
  | .stack _ register => register.text
  | .jump _ target => target.text
  | .branch _ register before after target => pairText register before after target.text
  | .loadNamed _ _ source _ => source.text
  | .storeNamed _ _ dest _ => dest.text
  | .load dest before after source => pairText dest before after source.text
  | .store source before after dest => pairText source before after dest.text
  | .arithmetic _ dest before after source => pairText dest before after source.text
  | .complement register => register.text
  | .step _ target _ _ => target.text
  | .wait delay _ _ => delay.text

structure Spelling where
  form : Form
  left : Gap
  word : Text
  gap : Gap
  right : Gap
  spells : Spells word form.name
  parted : form.operands = [] ∨ gap.text ≠ []

def Spelling.text (s : Spelling) : Text :=
  s.left.text ++ s.word ++ s.gap.text ++ (s.form.operands ++ s.right.text)

/-! ## The table -/

section Table

variable (size : Text)

def loadLines (dest : Text) : Written → List Text
  | .immediate value => ["move" ++ size ++ " " ++ dest ++ ", #" ++ trimRight value]
  | .direct address => ["la r17, " ++ trim address, "load" ++ size ++ " " ++ dest ++ ", (r17)"]
  | .indirect _ base _ => ["load" ++ size ++ " " ++ dest ++ ", (" ++ base.register.target ++ ")"]
  | .indexed _ base _ _ offset _ =>
      ["load" ++ size ++ " " ++ dest ++ ", " ++ trim offset ++ "(" ++ base.register.target ++ ")"]
  | .register source => ["move" ++ size ++ " " ++ dest ++ ", " ++ source.register.target]
  | .bare value => ["move" ++ size ++ " " ++ dest ++ ", #" ++ trim value.text]

/-- The lines that store a register.  Without brackets the destination is an address. -/
def storeLines (source : Text) : Written → List Text
  | .immediate address | .direct address =>
      ["la r17, " ++ trim address, "store" ++ size ++ " " ++ source ++ ", (r17)"]
  | .indirect _ base _ => ["store" ++ size ++ " " ++ source ++ ", (" ++ base.register.target ++ ")"]
  | .indexed _ base _ _ offset _ =>
      ["store" ++ size ++ " " ++ source ++ ", " ++ trim offset ++ "(" ++ base.register.target ++
        ")"]
  | .register letter => ["la r17, " ++ letter.text, "store" ++ size ++ " " ++ source ++ ", (r17)"]
  | .bare address =>
      ["la r17, " ++ trim address.text, "store" ++ size ++ " " ++ source ++ ", (r17)"]

def arithmeticLines (op dest : Text) : Written → List Text
  | .immediate value => [op ++ size ++ " " ++ dest ++ ", " ++ dest ++ ", #" ++ trimRight value]
  | .direct address =>
      ["la r17, " ++ trim address, "load" ++ size ++ " r17, (r17)",
        op ++ size ++ " " ++ dest ++ ", " ++ dest ++ ", r17"]
  | .indirect _ base _ =>
      ["load" ++ size ++ " r17, (" ++ base.register.target ++ ")",
        op ++ size ++ " " ++ dest ++ ", " ++ dest ++ ", r17"]
  | .indexed _ base _ _ offset _ =>
      ["load" ++ size ++ " r17, " ++ trim offset ++ "(" ++ base.register.target ++ ")",
        op ++ size ++ " " ++ dest ++ ", " ++ dest ++ ", r17"]
  | .register source =>
      [op ++ size ++ " " ++ dest ++ ", " ++ dest ++ ", " ++ source.register.target]
  | .bare value => [op ++ size ++ " " ++ dest ++ ", " ++ dest ++ ", #" ++ trim value.text]

/-- The lines that change a value in memory by one, given how the memory is written. -/
def changeLines (op reference : Text) : List Text :=
  ["load" ++ size ++ " r18, " ++ reference, op ++ size ++ " r18, r18, #1",
    "store" ++ size ++ " r18, " ++ reference]

/-- The lines that change an operand by one.  Values cannot be changed. -/
def stepLines (op : Text) : Written → List Text
  | .register letter =>
      [op ++ size ++ " " ++ letter.register.target ++ ", " ++ letter.register.target ++ ", #1"]
  | .direct address => ("la r17, " ++ trim address) :: changeLines size op "(r17)"
  | .indirect _ base _ => changeLines size op ("(" ++ base.register.target ++ ")")
  | .indexed _ base _ _ offset _ =>
      changeLines size op (trim offset ++ "(" ++ base.register.target ++ ")")
  | .immediate _ | .bare _ => []

/-- The lines that an instruction becomes, without their indent. -/
def Form.lines : Form → List Text
  | .control row => [row.target]
  | .stack row register => [row.target ++ " " ++ register.register.target]
  | .jump row target => [row.target ++ " " ++ target.text]
  | .branch row register _ _ target =>
      [row.target ++ " " ++ register.register.target ++ ", " ++ target.text]
  | .loadNamed dest _ source _ => loadLines size dest.target source
  | .storeNamed source _ dest _ => storeLines size source.target dest
  | .load dest _ _ source => loadLines size dest.register.target source
  | .store source _ _ dest => storeLines size source.register.target dest
  | .arithmetic row dest _ _ source => arithmeticLines size row.target dest.register.target source
  | .complement r => ["not" ++ size ++ " " ++ r.register.target ++ ", " ++ r.register.target]
  | .step row target _ _ => stepLines size row.target target
  | .wait delay _ _ => ["wait #" ++ delay.delay]

end Table

/-! ## Lowering gives the lines -/

variable (size : Text)

theorem lower_load (dest : Register) (w : Written) :
    (Instruction.load dest w.operand).lower.map (·.render size) = loadLines size dest.target w := by
  cases w <;>
    simp [Written.operand, Instruction.lower, Place.reach, loadLines, IE64.Source.render,
      IE64.Address.render, scratchAddress_eq]

theorem lower_store (source : Register) (w : Written) :
    (Instruction.store source w.place).lower.map (·.render size) =
      storeLines size source.target w := by
  cases w <;>
    simp [Written.place, Instruction.lower, Place.reach, storeLines, IE64.Address.render,
      scratchAddress_eq]

theorem lower_binary (op : BinaryOp) (dest : Register) (w : Written) :
    (Instruction.binary op dest w.operand).lower.map (·.render size) =
      arithmeticLines size op.target dest.target w := by
  cases w <;>
    simp [Written.operand, Instruction.lower, Operand.fetch, Place.reach, arithmeticLines,
      IE64.Source.render, IE64.Address.render, scratchAddress_eq]

theorem lower_step (op : StepOp) (w : Written)
    (changeable : w.kind ≠ .immediate ∧ w.kind ≠ .bare) :
    (Instruction.step op w.target).lower.map (·.render size) =
      stepLines size op.binary.target w := by
  cases w with
  | immediate value => exact absurd rfl changeable.1
  | bare b => exact absurd rfl changeable.2
  | register | direct | indirect | indexed =>
      simp [Written.target, Written.place, Instruction.lower, Place.reach, stepLines, changeLines,
        IE64.Source.render, IE64.Address.render, scratchAddress_eq, scratchValue_eq]

/-! ## Reading the forms -/

/-- The operation that a row of mnemonics stands for. -/
theorem Row.exists_op {α : Type} (all : List α) (make : α → Mnemonic) (target : α → Text)
    {rows : List (Text × Text)} (same : rows = all.map fun op => ((make op).text, target op))
    (spelled : ∀ op ∈ all, Mnemonic.ofWord? (make op).text = some (make op)) (row : Row rows) :
    ∃ op, Mnemonic.ofWord? row.source = some (make op) ∧ target op = row.target := by
  subst same
  obtain ⟨op, member, pair⟩ := List.mem_map.mp row.listed
  simp only [Prod.mk.injEq] at pair
  exact ⟨op, pair.1 ▸ spelled op member, pair.2⟩

theorem splitOperands_pairText (first : Letter) (before after : Gap) (second : Text) :
    splitOperands (trim (pairText first before after second)) = [first.text, trim second] := by
  have plain : ∀ c ∈ first.text ++ before.text, c ≠ ',' ∧ c ≠ '[' ∧ c ≠ ']' := by
    have marks : ∀ mark ∈ [',', '[', ']'], mark ∉ first.text ++ before.text := by
      intro mark listed member
      have plainMarks : ∀ mark ∈ [',', '[', ']'], mark.toUpper = mark ∧ mark.isUpper = false ∧
          Text.isIndent mark = false := by decide
      obtain ⟨fixed, other, noIndent⟩ := plainMarks mark listed
      rcases List.mem_append.mp member with inFirst | inBefore
      · exact first.notMem fixed other inFirst
      · simp [before.layout mark inBefore] at noIndent
    intro c member
    refine ⟨?_, ?_, ?_⟩ <;> rintro rfl
    · exact marks _ (by decide) member
    · exact marks _ (by decide) member
    · exact marks _ (by decide) member
  rw [splitOperands_trim, pairText, splitOperands_pair plain,
    Text.trim_append_right _ before.allBlank, first.trim_text,
    Text.trim_append_left _ after.allBlank]

/-- The letter at the end of `LDx` and `STx` names its register. -/
theorem exists_letter {r : Register} (listed : RegisterMap.standard.Lists r) :
    ∃ letter, r.name = [letter] ∧ RegisterMap.standard.find? [letter] = some r := by
  have names : ∀ entry ∈ RegisterMap.standard.table.entries,
      entry.1.length = 1 ∧ Text.upper (trim entry.1) = entry.1 := by decide +kernel
  obtain ⟨short, upper⟩ := names _ listed
  obtain ⟨letter, name⟩ := List.length_eq_one_iff.mp short
  refine ⟨letter, name, (RegisterMap.find?_eq_some_iff _ _ _).mpr ⟨?_, listed⟩⟩
  rw [← name]
  exact upper.symm

/-- What the form is read as, and that the table is its lowering. -/
theorem Form.exists_reads (form : Form) :
    ∃ k i, Mnemonic.ofWord? form.name = some k ∧ Reads .standard k (trim form.operands) i ∧
      i.lower.map (·.render size) = form.lines size := by
  cases form with
  | control row =>
      obtain ⟨op, word, target⟩ :=
        row.exists_op Control.all .control Control.target rfl (by decide)
      exact ⟨_, _, word, .control op _, by simp [Instruction.lower, Form.lines, target]⟩
  | stack row register =>
      obtain ⟨op, word, target⟩ := row.exists_op StackOp.all .stack StackOp.target rfl (by decide)
      have some_text : trim register.text ≠ [] := by simpa using register.ne_nil
      have found := register.find?_eq (t := trim register.text) (by simp)
      exact ⟨_, _, word, .stack op some_text found, by simp [Instruction.lower, Form.lines, target]⟩
  | jump row target =>
      obtain ⟨op, word, renamed⟩ := row.exists_op Jump.all .jump Jump.target rfl (by decide)
      have some_text : trim target.text ≠ [] := by
        rw [target.trimmed]
        exact target.some_text
      refine ⟨_, _, word, .jump op some_text, ?_⟩
      simp [Instruction.lower, Form.lines, Form.operands, renamed, target.trimmed]
  | branch row register before after target =>
      obtain ⟨condition, word, renamed⟩ :=
        row.exists_op Condition.all .branch Condition.target rfl (by decide)
      have split := splitOperands_pairText register before after target.text
      rw [target.trimmed] at split
      refine ⟨_, _, word, .branch condition split register.ne_nil target.some_text
        (register.find?_eq (by simp)), ?_⟩
      simp [Instruction.lower, Form.lines, renamed]
  | loadNamed dest listed source single =>
      obtain ⟨letter, name, found⟩ := exists_letter listed
      have split := splitOperands_single single source.ne_nil
      rw [← splitOperands_trim] at split
      refine ⟨.loadNamed letter, _, ?_, .loadNamed letter found split source.readOperand_text,
        lower_load size dest source⟩
      show Mnemonic.ofWord? ("LD" ++ dest.name) = some (.loadNamed letter)
      rw [name]
      rfl
  | storeNamed source listed dest single =>
      obtain ⟨letter, name, found⟩ := exists_letter listed
      have split := splitOperands_single single dest.ne_nil
      rw [← splitOperands_trim] at split
      refine ⟨.storeNamed letter, _, ?_, .storeNamed letter found split dest.readPlace_text,
        lower_store size source dest⟩
      show Mnemonic.ofWord? ("ST" ++ source.name) = some (.storeNamed letter)
      rw [name]
      rfl
  | load dest before after source =>
      have split := splitOperands_pairText dest before after source.text
      have found := dest.find?_eq dest.trim_text
      exact ⟨.load, _, rfl, .load split dest.ne_nil source.ne_nil found source.readOperand_text,
        lower_load size dest.register source⟩
  | store source before after dest =>
      have split := splitOperands_pairText source before after dest.text
      have found := source.find?_eq source.trim_text
      exact ⟨.store, _, rfl, .store split source.ne_nil dest.ne_nil found dest.readPlace_text,
        lower_store size source.register dest⟩
  | arithmetic row dest before after source =>
      obtain ⟨op, word, renamed⟩ :=
        row.exists_op BinaryOp.all .binary BinaryOp.target rfl (by decide)
      have split := splitOperands_pairText dest before after source.text
      have found := dest.find?_eq dest.trim_text
      refine ⟨_, _, word, .binary op split dest.ne_nil source.ne_nil found source.readOperand_text,
        ?_⟩
      rw [lower_binary, renamed]
      rfl
  | complement register =>
      have some_text : trim register.text ≠ [] := by simpa using register.ne_nil
      have found := register.find?_eq (t := trim register.text) (by simp)
      exact ⟨.complement, _, rfl, .complement some_text found,
        by simp [Instruction.lower, Form.lines]⟩
  | step row target single changeable =>
      obtain ⟨op, word, renamed⟩ :=
        row.exists_op StepOp.all .step (fun op => op.binary.target) rfl (by decide)
      have split := splitOperands_single single target.ne_nil
      rw [← splitOperands_trim] at split
      refine ⟨_, _, word, .step op split (target.readTarget_text changeable op), ?_⟩
      rw [lower_step size op target changeable, renamed]
      rfl
  | wait delay single valued =>
      have split := splitOperands_single single delay.ne_nil
      rw [← splitOperands_trim] at split
      refine ⟨.wait, _, rfl, .wait split (delay.readDelay_text valued), ?_⟩
      simp [Instruction.lower, Form.lines, IE64.Source.render]

theorem Row.isName {rows : List (Text × Text)} (names : ∀ entry ∈ rows, IsName entry.1)
    (row : Row rows) : IsName row.source :=
  names _ row.listed

/-- The mnemonic of a form, in upper case, consists of capital letters. -/
theorem Form.isName (form : Form) : IsName form.name := by
  have registers : ∀ entry ∈ RegisterMap.standard.table.entries,
      IsName ("LD" ++ entry.1) ∧ IsName ("ST" ++ entry.1) := by decide +kernel
  have fixed : ∀ word ∈ (["LOAD", "STORE", "NOT", "WAIT"] : List Text), IsName word := by decide
  cases form with
  | loadNamed dest listed source single => exact (registers _ listed).1
  | storeNamed source listed dest single => exact (registers _ listed).2
  | load => exact fixed "LOAD" (by decide)
  | store => exact fixed "STORE" (by decide)
  | complement => exact fixed "NOT" (by decide)
  | wait => exact fixed "WAIT" (by decide)
  | control row | stack row | jump row | branch row | arithmetic row | step row =>
      exact row.isName (by decide)

theorem Spelling.cutWord_text (s : Spelling) :
    Text.cutWord s.text = (s.word, trim s.form.operands) := by
  have name := s.form.isName
  have parted : s.gap.text = [] → Text.AllBlank (s.form.operands ++ s.right.text) := by
    intro noGap
    have noOperands : s.form.operands = [] :=
      s.parted.resolve_right (fun some_gap => some_gap noGap)
    rw [noOperands]
    exact s.right.allBlank
  rw [Spelling.text, Text.cutWord_eq _ s.left.allBlank (name.word_ne_nil s.spells)
    (name.solid s.spells) s.gap.allBlank parted, Text.trim_append_right _ s.right.allBlank]

/-- **Whatever way an instruction is written, it becomes the lines of the table.**  No error is
recorded, and each line of the table is emitted behind the indent. -/
theorem ofCode_spelling (size indent : Text) (s : Spelling) :
    Lowering.ofCode .standard size indent s.text =
      { lines := (s.form.lines size).map (indent ++ ·), error := none } := by
  obtain ⟨k, i, word, reads, table⟩ := s.form.exists_reads size
  have readCode : Instruction.read .standard (trim s.text) = .ok i := by
    refine (read_eq_ok_iff _ _ _).mpr ⟨k, ?_⟩
    rw [Text.cutWord_trim, s.cutWord_text, s.form.isName.upper_eq s.spells]
    exact ⟨word, reads⟩
  rw [Lowering.ofCode_of_ok readCode, ← table, List.map_map]
  rfl

/-- An addition in mixed case, with gaps wherever some may stand and a comma in its offset. -/
def spacedAddition : Spelling where
  form := .arithmetic ⟨"ADD", "add", by decide⟩ smallB .space .tab
    (.indexed .space ⟨⟨"X", "r2"⟩, "x", by decide +kernel, by decide⟩ .tab ⟨[], by decide⟩ "4, k+1"
      .space)
  left := .space
  word := "aDd"
  gap := .tab
  right := ⟨"\t ", by decide⟩
  spells := by decide
  parted := .inr (by decide)

theorem spacedAddition_lines :
    spacedAddition.text = " aDd\tb ,\t[ x\t+4, k+1 ]\t " ∧
      Lowering.ofCode .standard ".q" "    " spacedAddition.text =
        { lines := ["    load.q r17, 4, k+1(r2)", "    add.q r5, r5, r17"], error := none } := by
  refine ⟨by decide, (ofCode_spelling ".q" "    " spacedAddition).trans ?_⟩
  decide +kernel

end Retarget.IE32
