/-
# Retarget.Proofs.Registers -- what a register map finds, and the IE32 register file

A text names a register if, trimmed and in upper case, it is a key of the map
(`find?_eq_some_iff`).  So a character that upper case leaves alone and that stands in no key
stands in no text that names a register either (`notMem_of_find?`).

Of the IE32 register file it matters that no two registers share an IE64 register and that the
two scratch registers stand for none of them; `Separated` says so of any map.
-/
import Mathlib.Data.List.Nodup
import Retarget.Register
import Retarget.Proofs.Text.Casing
import Retarget.Proofs.Text.Trimming

namespace Retarget

set_option autoImplicit false

namespace Table

variable {κ α : Type} [DecidableEq κ]

theorem get?_eq_some_iff (t : Table κ α) (key : κ) (value : α) :
    t.get? key = some value ↔ (key, value) ∈ t.entries := by
  obtain ⟨entries, nodup⟩ := t
  simp only [get?]
  induction entries with
  | nil => simp
  | cons entry rest ih =>
      obtain ⟨first, v⟩ := entry
      rw [List.map_cons, List.nodup_cons] at nodup
      rw [lookup_cons_ite, List.mem_cons]
      by_cases here : key = first
      · subst here
        have absent : (key, value) ∉ rest := fun listed =>
          nodup.1 (List.mem_map.mpr ⟨_, listed, rfl⟩)
        simp [absent, eq_comm]
      · simp [here, ih nodup.2]

end Table

namespace RegisterMap

def Lists (m : RegisterMap) (r : Register) : Prop := (r.name, r.target) ∈ m.table.entries

instance (m : RegisterMap) (r : Register) : Decidable (m.Lists r) :=
  inferInstanceAs (Decidable (_ ∈ _))

theorem find?_eq_some_iff (m : RegisterMap) (t : Text) (r : Register) :
    m.find? t = some r ↔ r.name = Text.upper (Text.trim t) ∧ m.Lists r := by
  simp only [find?, Option.map_eq_some_iff, Lists, Table.get?_eq_some_iff]
  constructor
  · rintro ⟨target, listed, rfl⟩
    exact ⟨rfl, listed⟩
  · rintro ⟨name, listed⟩
    exact ⟨r.target, name ▸ listed, by rw [← name]⟩

theorem lists_of_find? {m : RegisterMap} {t : Text} {r : Register} (found : m.find? t = some r) :
    m.Lists r :=
  ((find?_eq_some_iff m t r).mp found).2

theorem target_eq {m : RegisterMap} {r q : Register} (first : m.Lists r) (second : m.Lists q)
    (same : r.name = q.name) : r.target = q.target := by
  have one := (m.table.get?_eq_some_iff _ _).mpr first
  have two := (m.table.get?_eq_some_iff _ _).mpr second
  rw [same, two] at one
  exact (Option.some.inj one).symm

/-- A text that names a register holds no character that no name holds, if upper case leaves the
character alone. -/
theorem notMem_of_find? {m : RegisterMap} {c : Char} (ascii : c.toNat < 0x80)
    (fixed : c.toUpper = c) (solid : Text.isBlank c = false)
    (unnamed : ∀ entry ∈ m.table.entries, c ∉ entry.1) {t : Text} {r : Register}
    (found : m.find? t = some r) : c ∉ t := by
  obtain ⟨name, listed⟩ := (find?_eq_some_iff m t r).mp found
  intro member
  have kept : c ∈ Text.trim t := by
    obtain ⟨left, right, blankLeft, blankRight, split⟩ := Text.exists_trim t
    rw [split] at member
    simp only [List.mem_append] at member
    rcases member with (inLeft | inside) | inRight
    · simp [blankLeft c inLeft] at solid
    · exact inside
    · simp [blankRight c inRight] at solid
  have inName : c ∈ r.name := name ▸ Text.mem_upper_of_fixed ascii fixed kept
  exact unnamed _ listed inName

/-- No two registers share an IE64 register, and none of them is a scratch register. -/
structure Separated (m : RegisterMap) : Prop where
  targets : (m.table.entries.map Prod.snd).Nodup
  address : ∀ entry ∈ m.table.entries, entry.2 ≠ scratchAddress
  value : ∀ entry ∈ m.table.entries, entry.2 ≠ scratchValue

theorem standard_separated : standard.Separated where
  targets := by decide +kernel
  address := by decide +kernel
  value := by decide +kernel

theorem Separated.name_eq {m : RegisterMap} (separated : m.Separated) {r q : Register}
    (first : m.Lists r) (second : m.Lists q) (same : r.target = q.target) : r.name = q.name :=
  congrArg Prod.fst (List.inj_on_of_nodup_map separated.targets first second same)

end RegisterMap

end Retarget
