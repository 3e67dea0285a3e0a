/-
# Retarget.IE32.Instruction -- IE32 instructions and how they are read

IE32 is a two-operand machine with memory operands on most instructions.  `Instruction.read`
reads one from its text: the mnemonic, in any case, says what operands there are, and each is
read as its place in the instruction allows.  The first thing found wrong is the fault reported:
a wrong number of operands before an unknown register, except in `LDx` and `STx`, whose mnemonic
names a register itself; and the registers from left to right.

Instructions without operands do not look at what follows them, and a jump takes all the text
after it as its target.
-/
import Retarget.IE32.Operand
import Retarget.Operation

namespace Retarget.IE32

set_option autoImplicit false

inductive Mnemonic where
  | control (op : Control)
  | stack (op : StackOp)
  | jump (op : Jump)
  | branch (condition : Condition)
  /-- `LDx`: load the register that the letter names. -/
  | loadNamed (letter : Char)
  /-- `STx`: store the register that the letter names. -/
  | storeNamed (letter : Char)
  | load
  | store
  | binary (op : BinaryOp)
  | complement
  | step (op : StepOp)
  | wait
  deriving DecidableEq, Repr

namespace Mnemonic

/-- The mnemonics with a spelling of their own. -/
def spelled : List Mnemonic :=
  Control.all.map .control ++ StackOp.all.map .stack ++ Jump.all.map .jump ++
    Condition.all.map .branch ++ [.load, .store] ++ BinaryOp.all.map .binary ++
    [.complement] ++ StepOp.all.map .step ++ [.wait]

def text : Mnemonic → Text
  | .control op => op.source
  | .stack op => op.source
  | .jump op => op.source
  | .branch condition => condition.source
  | .loadNamed letter => ['L', 'D', letter]
  | .storeNamed letter => ['S', 'T', letter]
  | .load => "LOAD"
  | .store => "STORE"
  | .binary op => op.source
  | .complement => "NOT"
  | .step op => op.source
  | .wait => "WAIT"

def ofWord? : Text → Option Mnemonic
  | ['L', 'D', letter] => some (.loadNamed letter)
  | ['S', 'T', letter] => some (.storeNamed letter)
  | word => spelled.find? (·.text == word)

end Mnemonic

/-- What `INC` and `DEC` change. -/
inductive Target where
  | register (register : Register)
  | memory (place : Place)
  deriving DecidableEq, Repr

inductive Instruction where
  | control (op : Control)
  | stack (op : StackOp) (register : Register)
  | jump (op : Jump) (target : Text)
  | branch (condition : Condition) (register : Register) (target : Text)
  | load (dest : Register) (source : Operand)
  | store (source : Register) (dest : Place)
  | binary (op : BinaryOp) (dest : Register) (source : Operand)
  | complement (register : Register)
  | step (op : StepOp) (target : Target)
  | wait (delay : Text)
  deriving DecidableEq, Repr

/-! ## Counting operands -/

/-- The operand text, if there is any. -/
def someText (mnemonic : Mnemonic) (rest : Text) : Except Fault Text :=
  if rest.isEmpty then .error (.operandCount mnemonic.text 1) else .ok rest

/-- The operand, if there is exactly one. -/
def oneOperand (mnemonic : Mnemonic) (rest : Text) : Except Fault Text :=
  match splitOperands rest with
  | [operand] =>
      if operand.isEmpty then .error (.operandCount mnemonic.text 1) else .ok operand
  | _ => .error (.operandCount mnemonic.text 1)

/-- The two operands, if there are two and neither is empty. -/
def twoOperands (mnemonic : Mnemonic) (rest : Text) : Except Fault (Text × Text) :=
  match splitOperands rest with
  | [first, second] =>
      if first.isEmpty || second.isEmpty then .error (.operandCount mnemonic.text 2)
      else .ok (first, second)
  | _ => .error (.operandCount mnemonic.text 2)

/-! ## Reading an instruction -/

/-- What is changed by one: a register or a place in memory. -/
def Target.read (registers : RegisterMap) (op : StepOp) (t : Text) : Except Fault Target :=
  match OperandKind.among registers t with
  | .register => (registers.lookup t).map .register
  | .direct => .ok (.memory (.direct (withoutMarker t)))
  | .indirect => (Place.readIndirect registers t).map .memory
  | kind => .error (.unsupportedOperand op.source kind.describe none)

/-- How long to wait.  IE64 encodes the delay in the instruction, so it must be a value. -/
def readDelay (registers : RegisterMap) (t : Text) : Except Fault Text :=
  match OperandKind.among registers t with
  | .immediate | .bare => .ok (immediateValue t)
  | kind => .error (.unsupportedOperand Mnemonic.wait.text kind.describe
      (some "IE64 wait only accepts immediate operand"))

namespace Instruction

def ofMnemonic (registers : RegisterMap) (mnemonic : Mnemonic) (rest : Text) :
    Except Fault Instruction :=
  match mnemonic with
  | .control op => .ok (.control op)
  | .stack op => do
      let register ← registers.lookup (← someText mnemonic rest)
      return .stack op register
  | .jump op => do
      return .jump op (← someText mnemonic rest)
  | .branch condition => do
      let (first, target) ← twoOperands mnemonic rest
      return .branch condition (← registers.lookup first) target
  | .loadNamed letter => do
      let dest ← registers.lookup [letter]
      return .load dest (← Operand.read registers (← oneOperand mnemonic rest))
  | .storeNamed letter => do
      let source ← registers.lookup [letter]
      return .store source (← Place.read registers (← oneOperand mnemonic rest))
  | .load => do
      let (first, second) ← twoOperands mnemonic rest
      let dest ← registers.lookup first
      return .load dest (← Operand.read registers second)
  | .store => do
      let (first, second) ← twoOperands mnemonic rest
      let source ← registers.lookup first
      return .store source (← Place.read registers second)
  | .binary op => do
      let (first, second) ← twoOperands mnemonic rest
      let dest ← registers.lookup first
      return .binary op dest (← Operand.read registers second)
  | .complement => do
      return .complement (← registers.lookup (← someText mnemonic rest))
  | .step op => do
      return .step op (← Target.read registers op (← oneOperand mnemonic rest))
  | .wait => do
      return .wait (← readDelay registers (← oneOperand mnemonic rest))

def read (registers : RegisterMap) (code : Text) : Except Fault Instruction :=
  let (word, rest) := Text.cutWord code
  match Mnemonic.ofWord? (Text.upper word) with
  | some mnemonic => ofMnemonic registers mnemonic rest
  | none => .error (.unknownMnemonic (Text.upper word))

end Instruction

end Retarget.IE32
