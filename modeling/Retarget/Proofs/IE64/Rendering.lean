/-
# Retarget.Proofs.IE64.Rendering -- what stands in a line

A line of IE64 is written in letters, digits and a few marks, the names of registers, and at most
one text that was taken over from the source program (`Instruction.foreign`).  Whatever holds of
the rest holds of all characters around that text (`render_excerpt`).
-/
import Retarget.IE64.Instruction
import Retarget.Proofs.Text.Excerpt

namespace Retarget.IE64

set_option autoImplicit false

/-! ## Lines -/

@[simp] theorem join_singleton (separator t : Text) : Text.join separator [t] = t := by
  simp [Text.join, List.intercalate]

@[simp] theorem join_cons_cons (separator first second : Text) (rest : List Text) :
    Text.join separator (first :: second :: rest) =
      first ++ separator ++ Text.join separator (second :: rest) := by
  simp [Text.join, List.intercalate]

namespace Instruction

variable (suffix : Text)

@[simp] theorem render_control (op : Control) : (control op).render suffix = op.target := by
  show op.target ++ [] ++ [] = _
  simp

@[simp] theorem render_stack (op : StackOp) (register : Text) :
    (stack op register).render suffix = op.target ++ " " ++ register := by
  show op.target ++ [] ++ ' ' :: Text.join ", " [register] = _
  simp

@[simp] theorem render_jump (op : Jump) (target : Text) :
    (jump op target).render suffix = op.target ++ " " ++ target := by
  show op.target ++ [] ++ ' ' :: Text.join ", " [target] = _
  simp

@[simp] theorem render_branch (condition : Condition) (register target : Text) :
    (branch condition register target).render suffix =
      condition.target ++ " " ++ register ++ ", " ++ target := by
  show condition.target ++ [] ++ ' ' :: Text.join ", " [register, target] = _
  simp

@[simp] theorem render_loadAddress (dest address : Text) :
    (loadAddress dest address).render suffix = "la " ++ dest ++ ", " ++ address := by
  show ("la" : Text) ++ [] ++ ' ' :: Text.join ", " [dest, address] = _
  simp

@[simp] theorem render_move (dest : Text) (source : Source) :
    (move dest source).render suffix =
      "move" ++ suffix ++ " " ++ dest ++ ", " ++ source.render := by
  show "move" ++ suffix ++ ' ' :: Text.join ", " [dest, source.render] = _
  simp

@[simp] theorem render_load (dest : Text) (address : Address) :
    (load dest address).render suffix =
      "load" ++ suffix ++ " " ++ dest ++ ", " ++ address.render := by
  show "load" ++ suffix ++ ' ' :: Text.join ", " [dest, address.render] = _
  simp

@[simp] theorem render_store (source : Text) (address : Address) :
    (store source address).render suffix =
      "store" ++ suffix ++ " " ++ source ++ ", " ++ address.render := by
  show "store" ++ suffix ++ ' ' :: Text.join ", " [source, address.render] = _
  simp

@[simp] theorem render_binary (op : BinaryOp) (dest left : Text) (right : Source) :
    (binary op dest left right).render suffix =
      op.target ++ suffix ++ " " ++ dest ++ ", " ++ left ++ ", " ++ right.render := by
  show op.target ++ suffix ++ ' ' :: Text.join ", " [dest, left, right.render] = _
  simp

@[simp] theorem render_complement (dest source : Text) :
    (complement dest source).render suffix =
      "not" ++ suffix ++ " " ++ dest ++ ", " ++ source := by
  show "not" ++ suffix ++ ' ' :: Text.join ", " [dest, source] = _
  simp

@[simp] theorem render_wait (delay : Source) :
    (wait delay).render suffix = "wait " ++ delay.render := by
  show ("wait" : Text) ++ [] ++ ' ' :: Text.join ", " [delay.render] = _
  simp

end Instruction

/-! ## What stands in a line -/

@[simp] def Source.registers : Source → List Text
  | .register name => [name]
  | .immediate _ => []

@[simp] def Source.foreign : Source → Text
  | .register _ => []
  | .immediate value => value

@[simp] def Instruction.registers : Instruction → List Text
  | .control _ | .jump _ _ => []
  | .stack _ register => [register]
  | .branch _ register _ => [register]
  | .loadAddress dest _ => [dest]
  | .move dest source => dest :: source.registers
  | .load dest address => [dest, address.base]
  | .store source address => [source, address.base]
  | .binary _ dest left right => dest :: left :: right.registers
  | .complement dest source => [dest, source]
  | .wait delay => delay.registers

/-- The text that an instruction takes over from the source program. -/
@[simp] def Instruction.foreign : Instruction → Text
  | .control _ | .stack _ _ | .complement _ _ => []
  | .jump _ target => target
  | .branch _ _ target => target
  | .loadAddress _ address => address
  | .move _ source => source.foreign
  | .load _ address => address.offset
  | .store _ address => address.offset
  | .binary _ _ _ right => right.foreign
  | .wait delay => delay.foreign

def letters : Text := "abcdefghijklmnopqrstuvwxyz"

/-- The characters of mnemonics, and of what stands between operands. -/
def wording : Text := letters ++ " ,#()"

theorem mnemonic_spec (i : Instruction) : i.mnemonic ≠ [] ∧ ∀ c ∈ i.mnemonic, c ∈ letters := by
  have fixed : ∀ word ∈ (["la", "move", "load", "store", "not", "wait"] : List Text),
      word ≠ [] ∧ ∀ c ∈ word, c ∈ letters := by decide
  cases i with
  | control op =>
      have word : op.target ≠ [] ∧ ∀ c ∈ op.target, c ∈ letters := by cases op <;> decide
      exact word
  | stack op =>
      have word : op.target ≠ [] ∧ ∀ c ∈ op.target, c ∈ letters := by cases op <;> decide
      exact word
  | jump op =>
      have word : op.target ≠ [] ∧ ∀ c ∈ op.target, c ∈ letters := by cases op <;> decide
      exact word
  | branch condition =>
      have word : condition.target ≠ [] ∧ ∀ c ∈ condition.target, c ∈ letters := by
        cases condition <;> decide
      exact word
  | binary op =>
      have word : op.target ≠ [] ∧ ∀ c ∈ op.target, c ∈ letters := by cases op <;> decide
      exact word
  | loadAddress => exact fixed "la" (by decide)
  | move => exact fixed "move" (by decide)
  | load => exact fixed "load" (by decide)
  | store => exact fixed "store" (by decide)
  | complement => exact fixed "not" (by decide)
  | wait => exact fixed "wait" (by decide)

/-- What holds of all characters that a line is written in, apart from its foreign text. -/
structure WrittenIn (P : Char → Prop) (suffix : Text) (i : Instruction) : Prop where
  wording : ∀ c ∈ wording, P c
  suffix : ∀ c ∈ suffix, P c
  registers : ∀ name ∈ i.registers, ∀ c ∈ name, P c

theorem Source.render_excerpt {P : Char → Prop} (hash : P '#') {source : Source}
    (registers : ∀ name ∈ source.registers, ∀ c ∈ name, P c) :
    Text.Excerpt P source.foreign source.render := by
  cases source with
  | register name => exact .nil (registers name (by simp [Source.registers]))
  | immediate value => exact .tail hash value

theorem Address.render_excerpt {P : Char → Prop} (parens : P '(' ∧ P ')') {address : Address}
    (base : ∀ c ∈ address.base, P c) : Text.Excerpt P address.offset address.render := by
  refine ⟨[], "(" ++ address.base ++ ")", by simp, ?_, by simp [Address.render]⟩
  intro c member
  simp only [List.mem_append] at member
  rcases member with (opening | inBase) | closing
  · simp at opening
    exact opening ▸ parens.1
  · exact base c inBase
  · simp at closing
    exact closing ▸ parens.2

/-- Behind a plain operand and a comma, the rest of the operands is what matters. -/
theorem join_excerpt {P : Char → Prop} (comma : P ',' ∧ P ' ') {first t : Text} {rest : List Text}
    (plain : ∀ c ∈ first, P c) (some_rest : rest ≠ [])
    (inner : Text.Excerpt P t (Text.join ", " rest)) :
    Text.Excerpt P t (Text.join ", " (first :: rest)) := by
  obtain ⟨second, more, rfl⟩ := List.exists_cons_of_ne_nil some_rest
  rw [join_cons_cons]
  refine inner.prepend ?_
  rw [List.forall_mem_append]
  exact ⟨plain, by simpa using comma⟩

/-- Every operand but the last is a register; the last one holds the foreign text. -/
theorem operands_excerpt {P : Char → Prop} {suffix : Text} {i : Instruction}
    (written : WrittenIn P suffix i) :
    Text.Excerpt P i.foreign (Text.join ", " i.operands) := by
  obtain ⟨fixed, -, named⟩ := written
  have comma : P ',' ∧ P ' ' := ⟨fixed _ (by decide), fixed _ (by decide)⟩
  have hash : P '#' := fixed _ (by decide)
  have parens : P '(' ∧ P ')' := ⟨fixed _ (by decide), fixed _ (by decide)⟩
  cases i with
  | control op => exact .refl []
  | stack op register =>
      rw [Instruction.operands, join_singleton]
      exact .nil (named register (by simp [Instruction.registers]))
  | jump op target =>
      rw [Instruction.operands, join_singleton]
      exact .refl target
  | branch condition register target =>
      refine join_excerpt comma (named register (by simp [Instruction.registers])) (by simp) ?_
      rw [join_singleton]
      exact .refl target
  | loadAddress dest address =>
      refine join_excerpt comma (named dest (by simp [Instruction.registers])) (by simp) ?_
      rw [join_singleton]
      exact .refl address
  | move dest source =>
      simp only [Instruction.registers, List.forall_mem_cons] at named
      refine join_excerpt comma named.1 (by simp) ?_
      rw [join_singleton]
      exact Source.render_excerpt hash named.2
  | load dest address =>
      simp only [Instruction.registers, List.forall_mem_cons] at named
      refine join_excerpt comma named.1 (by simp) ?_
      rw [join_singleton]
      exact Address.render_excerpt parens named.2.1
  | store source address =>
      simp only [Instruction.registers, List.forall_mem_cons] at named
      refine join_excerpt comma named.1 (by simp) ?_
      rw [join_singleton]
      exact Address.render_excerpt parens named.2.1
  | binary op dest left right =>
      simp only [Instruction.registers, List.forall_mem_cons] at named
      refine join_excerpt comma named.1 (by simp) (join_excerpt comma named.2.1 (by simp) ?_)
      rw [join_singleton]
      exact Source.render_excerpt hash named.2.2
  | complement dest source =>
      simp only [Instruction.registers, List.forall_mem_cons] at named
      refine join_excerpt comma named.1 (by simp) ?_
      rw [join_singleton]
      exact .nil named.2.1
  | wait delay =>
      rw [Instruction.operands, join_singleton]
      exact Source.render_excerpt hash named

/-- **Around the foreign text of a line there is nothing but what the line is written in.** -/
theorem render_excerpt {P : Char → Prop} {suffix : Text} {i : Instruction}
    (written : WrittenIn P suffix i) : Text.Excerpt P i.foreign (i.render suffix) := by
  have operands := operands_excerpt written
  have behind : Text.Excerpt P i.foreign i.operandText := by
    unfold Instruction.operandText
    cases none : i.operands with
    | nil =>
        rw [none] at operands
        exact operands
    | cons first rest =>
        rw [none] at operands
        exact operands.trans (.tail (written.wording ' ' (by decide)) _)
  refine behind.prepend ?_
  rw [List.forall_mem_append]
  constructor
  · intro c member
    exact written.wording c (List.mem_append_left _ ((mnemonic_spec i).2 c member))
  · split
    · exact written.suffix
    · simp

end Retarget.IE64
