/-
# Retarget.Register -- the register file of IE32 and where it lives on IE64

IE32 has sixteen registers named by letters.  IE64 numbers its registers; the first sixteen take
the IE32 register file over in its own order, which is not that of the alphabet, and two more
are set aside for the values that a converted instruction needs on its way: `scratchAddress`
for addresses and fetched sources, `scratchValue` for a value that is changed in memory.

A `RegisterMap` says which names there are.  Names are matched without regard to case or the
blanks around them, so the map keeps its keys in upper case.
-/
import Retarget.Table
import Retarget.Diagnostic
import Retarget.Text.Blank
import Retarget.Text.Uppercase

namespace Retarget

set_option autoImplicit false

/-- A register of IE32: its name in upper case, and the IE64 register that stands for it. -/
structure Register where
  name : Text
  target : Text
  deriving DecidableEq, Repr

/-- Where addresses and fetched sources are put. -/
def scratchAddress : Text := "r17"

/-- Where a value in memory is put while it is changed. -/
def scratchValue : Text := "r18"

/-- The registers of IE32, by name in upper case. -/
structure RegisterMap where
  table : Table Text Text

namespace RegisterMap

/-- The map of a table of names and targets.  Names that differ only in case are one name: it
stands where the first of them stood and has the target of the last. -/
def ofTable (t : Table Text Text) : RegisterMap :=
  ⟨Table.ofList (t.entries.map fun (name, target) => (Text.upper name, target))⟩

def ofList (pairs : List (Text × Text)) : RegisterMap := ofTable (Table.ofList pairs)

/-- The IE32 register file. -/
def standard : RegisterMap :=
  ofList [("A", "r1"), ("X", "r2"), ("Y", "r3"), ("Z", "r4"), ("B", "r5"), ("C", "r6"),
    ("D", "r7"), ("E", "r8"), ("F", "r9"), ("G", "r10"), ("H", "r11"), ("S", "r12"),
    ("T", "r13"), ("U", "r14"), ("V", "r15"), ("W", "r16")]

def names (m : RegisterMap) : List Text := m.table.keys

def size (m : RegisterMap) : Nat := m.table.size

def find? (m : RegisterMap) (text : Text) : Option Register :=
  let name := Text.upper (Text.trim text)
  (m.table.get? name).map fun target => { name, target }

def get? (m : RegisterMap) (text : Text) : Option Text := (m.find? text).map Register.target

def contains (m : RegisterMap) (text : Text) : Bool := (m.find? text).isSome

/-- The list of the names, for someone who used another. -/
def hint (m : RegisterMap) : Text := "IE32 registers are " ++ Text.join ", " m.names

/-- The register a text names, or the fault that it names none. -/
def lookup (m : RegisterMap) (text : Text) : Except Fault Register :=
  match m.find? text with
  | some register => .ok register
  | none => .error (.unknownRegister (Text.trim text) (some m.hint))

end RegisterMap

end Retarget
