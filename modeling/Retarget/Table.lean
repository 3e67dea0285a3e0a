/-
# Retarget.Table -- tables that keep the order of their keys

A `Table` pairs keys with values.  Putting a value under a key that is already there replaces
the value and leaves the key in its place; a new key goes to the end.  So a table built from
pairs lists every key where it came first and holds the value that came last.
-/
namespace Retarget

set_option autoImplicit false

/-- Pairs of a key and a value, no key twice. -/
structure Table (κ α : Type) where
  entries : List (κ × α)
  nodup : (entries.map Prod.fst).Nodup

namespace Table

variable {κ α : Type} [DecidableEq κ]

/-- The value under a key of a list of entries replaced, or the pair put at the end. -/
def put (key : κ) (value : α) : List (κ × α) → List (κ × α)
  | [] => [(key, value)]
  | (k, v) :: rest => if k = key then (k, value) :: rest else (k, v) :: put key value rest

theorem mem_keys_put (key : κ) (value : α) (entries : List (κ × α)) (k : κ) :
    k ∈ (put key value entries).map Prod.fst ↔ k = key ∨ k ∈ entries.map Prod.fst := by
  induction entries with
  | nil => simp [put]
  | cons entry rest ih =>
      obtain ⟨first, v⟩ := entry
      by_cases same : first = key
      · simp only [put, same, if_true, List.map_cons, List.mem_cons]
        grind
      · simp only [put, same, if_false, List.map_cons, List.mem_cons, ih]
        grind

theorem nodup_put (key : κ) (value : α) {entries : List (κ × α)}
    (nodup : (entries.map Prod.fst).Nodup) : ((put key value entries).map Prod.fst).Nodup := by
  induction entries with
  | nil => simp [put]
  | cons entry rest ih =>
      obtain ⟨first, v⟩ := entry
      rw [List.map_cons, List.nodup_cons] at nodup
      by_cases same : first = key
      · rw [put, if_pos same, List.map_cons, List.nodup_cons]
        exact nodup
      · simp only [put, same, if_false, List.map_cons, List.nodup_cons, mem_keys_put]
        exact ⟨by grind, ih nodup.2⟩

def empty : Table κ α := ⟨[], List.nodup_nil⟩

def insert (t : Table κ α) (key : κ) (value : α) : Table κ α :=
  ⟨put key value t.entries, nodup_put key value t.nodup⟩

def ofList (pairs : List (κ × α)) : Table κ α :=
  pairs.foldl (fun t pair => t.insert pair.1 pair.2) empty

def keys (t : Table κ α) : List κ := t.entries.map Prod.fst

def get? (t : Table κ α) (key : κ) : Option α := t.entries.lookup key

def size (t : Table κ α) : Nat := t.entries.length

theorem lookup_cons_ite (k first : κ) (v : α) (rest : List (κ × α)) :
    ((first, v) :: rest).lookup k = if k = first then some v else rest.lookup k := by
  by_cases same : k = first
  · simp [same]
  · rw [List.lookup_cons, beq_false_of_ne same, if_neg same]

theorem lookup_put (key : κ) (value : α) (entries : List (κ × α)) (k : κ) :
    (put key value entries).lookup k = if k = key then some value else entries.lookup k := by
  induction entries with
  | nil => simp only [put, lookup_cons_ite]
  | cons entry rest ih =>
      obtain ⟨first, v⟩ := entry
      by_cases here : first = key
      · subst here
        rw [put, if_pos rfl, lookup_cons_ite, lookup_cons_ite]
        grind
      · rw [put, if_neg here, lookup_cons_ite, lookup_cons_ite, ih]
        grind

/-- A value is found under the key it was put under, and no other key is touched. -/
theorem get?_insert (t : Table κ α) (key : κ) (value : α) (k : κ) :
    (t.insert key value).get? k = if k = key then some value else t.get? k :=
  lookup_put key value t.entries k

@[simp] theorem get?_empty (k : κ) : (empty : Table κ α).get? k = none := rfl

end Table

end Retarget
