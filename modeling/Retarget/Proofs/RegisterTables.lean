/-
# Retarget.Proofs.RegisterTables -- the register map of any table

A table that is built from pairs holds under each key the value that came last
(`Table.get?_ofList_eq_some_iff`) and lists each key where it came first (`Table.keys_ofList`).  A
register map is built so from the entries of a table with their names in upper case.  Names that
were different may then be one: it stands where the first of them stood and has the target of the
last.

All that can be asked of a map goes back to one search under the trimmed name in upper case, so the
answers agree (`RegisterMap.ofTable_answers`).  A target may be empty; the name is found all the
same.
-/
import Mathlib.Data.List.Induction
import Retarget.Register

namespace Retarget

set_option autoImplicit false

/-! ## Tables built from pairs -/

namespace Table

variable {κ α : Type}

/-- The value stands under the key, and behind it no other value does. -/
def Last (pairs : List (κ × α)) (key : κ) (value : α) : Prop :=
  ∃ before after, pairs = before ++ (key, value) :: after ∧ ∀ pair ∈ after, pair.1 ≠ key

theorem last_concat_self (pairs : List (κ × α)) (key : κ) (value other : α) :
    Last (pairs ++ [(key, other)]) key value ↔ other = value := by
  constructor
  · rintro ⟨before, after, split, apart⟩
    rcases List.eq_nil_or_concat after with rfl | ⟨init, last, rfl⟩
    · obtain ⟨-, same⟩ := List.append_inj' split rfl
      simpa using same
    · rw [List.concat_eq_append, ← List.cons_append, ← List.append_assoc] at split
      obtain ⟨-, same⟩ := List.append_inj' split rfl
      have key_eq : last.1 = key := by rw [← List.head_eq_of_cons_eq same]
      exact absurd key_eq (apart last (by simp))
  · rintro rfl
    exact ⟨pairs, [], rfl, by simp⟩

theorem last_concat_of_ne {first key : κ} (ne : first ≠ key) (pairs : List (κ × α))
    (value other : α) : Last (pairs ++ [(first, other)]) key value ↔ Last pairs key value := by
  constructor
  · rintro ⟨before, after, split, apart⟩
    rcases List.eq_nil_or_concat after with rfl | ⟨init, last, rfl⟩
    · obtain ⟨-, same⟩ := List.append_inj' split rfl
      simp [ne] at same
    · rw [List.concat_eq_append, ← List.cons_append, ← List.append_assoc] at split
      obtain ⟨rfl, -⟩ := List.append_inj' split rfl
      exact ⟨before, init, rfl, fun pair member => apart pair (by simp [member])⟩
  · rintro ⟨before, after, rfl, apart⟩
    refine ⟨before, after ++ [(first, other)], by simp, ?_⟩
    intro pair member
    rcases List.mem_append.mp member with inside | new
    · exact apart pair inside
    · rw [List.mem_singleton.mp new]
      exact ne

/-- The last pair under a key that other keys are mapped to. -/
theorem last_map_iff (f : κ → κ) (pairs : List (κ × α)) (key : κ) (value : α) :
    Last (pairs.map fun (k, v) => (f k, v)) key value ↔ ∃ before source after,
      pairs = before ++ (source, value) :: after ∧ f source = key ∧
        ∀ pair ∈ after, f pair.1 ≠ key := by
  constructor
  · rintro ⟨before, after, split, apart⟩
    obtain ⟨left, rest, rfl, -, right⟩ := List.map_eq_append_iff.mp split
    obtain ⟨⟨source, v⟩, tail, rfl, same, rfl⟩ := List.map_eq_cons_iff.mp right
    obtain ⟨named, rfl⟩ := Prod.mk.inj same
    refine ⟨left, source, tail, rfl, named, ?_⟩
    intro pair member
    exact apart _ (List.mem_map_of_mem member)
  · rintro ⟨before, source, after, rfl, rfl, apart⟩
    refine ⟨before.map fun (k, v) => (f k, v), after.map fun (k, v) => (f k, v), by simp, ?_⟩
    intro pair member
    obtain ⟨original, inside, rfl⟩ := List.mem_map.mp member
    exact apart original inside

variable [DecidableEq κ]

theorem ofList_concat (pairs : List (κ × α)) (pair : κ × α) :
    ofList (pairs ++ [pair]) = (ofList pairs).insert pair.1 pair.2 := by
  simp [ofList]

/-- Under a key there is the value that came last. -/
theorem get?_ofList_eq_some_iff (pairs : List (κ × α)) (key : κ) (value : α) :
    (ofList pairs).get? key = some value ↔ Last pairs key value := by
  induction pairs using List.reverseRecOn with
  | nil => simp [ofList, Last]
  | append_singleton pairs pair ih =>
      obtain ⟨first, other⟩ := pair
      rw [ofList_concat, get?_insert]
      by_cases same : key = first
      · rw [if_pos same, same, last_concat_self, Option.some.injEq]
      · rw [if_neg same, last_concat_of_ne (Ne.symm same), ih]

theorem get?_ofList_eq_none_iff (pairs : List (κ × α)) (key : κ) :
    (ofList pairs).get? key = none ↔ ∀ pair ∈ pairs, pair.1 ≠ key := by
  induction pairs using List.reverseRecOn with
  | nil => simp [ofList]
  | append_singleton pairs pair ih =>
      rw [ofList_concat, get?_insert, List.forall_mem_append, ← ih]
      by_cases same : key = pair.1
      · simp [same]
      · simp [same, Ne.symm same]

/-- A key that is there keeps its place, and another goes to the end. -/
theorem keys_put (key : κ) (value : α) (entries : List (κ × α)) :
    (put key value entries).map Prod.fst =
      if key ∈ entries.map Prod.fst then entries.map Prod.fst
      else entries.map Prod.fst ++ [key] := by
  induction entries with
  | nil => rfl
  | cons entry rest ih =>
      obtain ⟨first, v⟩ := entry
      by_cases same : first = key
      · simp [put, same]
      · rw [put, if_neg same, List.map_cons, ih]
        by_cases later : key ∈ rest.map Prod.fst
        · simp [later]
        · simp [later, Ne.symm same]

/-- The keys stand where they came first. -/
theorem keys_ofList [BEq κ] [LawfulBEq κ] (pairs : List (κ × α)) :
    (ofList pairs).keys = (pairs.map Prod.fst).eraseDups := by
  induction pairs using List.reverseRecOn with
  | nil => rfl
  | append_singleton pairs pair ih =>
      have listed : (ofList pairs).entries.map Prod.fst = (pairs.map Prod.fst).eraseDups := ih
      rw [ofList_concat, keys, insert, keys_put, listed, List.map_append, List.eraseDups_append]
      by_cases old : pair.1 ∈ pairs.map Prod.fst
      · rw [if_pos (List.mem_eraseDups.mpr old)]
        simp [List.removeAll, old]
      · rw [if_neg (mt List.mem_eraseDups.mp old)]
        simp [List.removeAll, List.eraseDups_cons, old]

end Table

/-! ## Register maps -/

namespace RegisterMap

open Text (trim upper)

theorem get?_eq (m : RegisterMap) (name : Text) :
    m.get? name = m.table.get? (upper (trim name)) := by
  simp [get?, find?, Option.map_map, Function.comp_def]

/-- The names are those of the table in upper case, each where it came first. -/
theorem names_ofTable (t : Table Text Text) :
    (ofTable t).names = (t.keys.map upper).eraseDups := by
  rw [names, ofTable, Table.keys_ofList, Table.keys, List.map_map, List.map_map]
  rfl

/-- The target of a name is that of the last entry with this name in upper case. -/
theorem get?_ofTable_eq_some_iff (t : Table Text Text) (name target : Text) :
    (ofTable t).get? name = some target ↔ ∃ before key after,
      t.entries = before ++ (key, target) :: after ∧ upper key = upper (trim name) ∧
        ∀ entry ∈ after, upper entry.1 ≠ upper (trim name) := by
  rw [get?_eq, ofTable, Table.get?_ofList_eq_some_iff, Table.last_map_iff]

theorem get?_ofTable_eq_none_iff (t : Table Text Text) (name : Text) :
    (ofTable t).get? name = none ↔ ∀ key ∈ t.keys, upper key ≠ upper (trim name) := by
  rw [get?_eq, ofTable, Table.get?_ofList_eq_none_iff, Table.keys, List.forall_mem_map,
    List.forall_mem_map]

/-- What is looked up is what is found, or a fault that lists the names. -/
theorem lookup_eq (m : RegisterMap) (name : Text) :
    m.lookup name = match m.get? name with
      | some target => .ok ⟨upper (trim name), target⟩
      | none => .error (.unknownRegister (trim name) (some m.hint)) := by
  rw [get?_eq, lookup, find?]
  cases m.table.get? (upper (trim name)) <;> rfl

/-- **A register map answers for its table.**  A name has the target of the last entry that has
the same name in upper case, and none if there is no such entry.  The names of the map are those of
the table in upper case, each where it came first, and a fault lists them so.  The ways to ask for a
register agree on every name. -/
theorem ofTable_answers (t : Table Text Text) (name : Text) :
    let m := ofTable t
    let distinct := (t.keys.map upper).eraseDups
    (∀ target, m.get? name = some target ↔ ∃ before key after,
        t.entries = before ++ (key, target) :: after ∧ upper key = upper (trim name) ∧
          ∀ entry ∈ after, upper entry.1 ≠ upper (trim name)) ∧
      (m.get? name = none ↔ ∀ key ∈ t.keys, upper key ≠ upper (trim name)) ∧
      m.names = distinct ∧ m.size = distinct.length ∧
      (∀ target, m.get? name = some target ↔ ∃ r, m.lookup name = .ok r ∧ r.target = target) ∧
      (m.get? name = none ↔ m.lookup name =
        .error (.unknownRegister (trim name)
          (some ("IE32 registers are ".toList ++ Text.join ", " distinct)))) ∧
      m.contains name = (m.get? name).isSome := by
  intro m distinct
  have names : m.names = distinct := names_ofTable t
  have size : m.size = distinct.length := by
    rw [← names, RegisterMap.names, Table.keys, List.length_map]
    rfl
  have listed : m.hint = "IE32 registers are ".toList ++ Text.join ", " distinct := by
    unfold hint
    rw [names]
  rw [lookup_eq, listed]
  refine ⟨get?_ofTable_eq_some_iff t name, get?_ofTable_eq_none_iff t name, names, size, ?_, ?_, ?_⟩
  · intro target
    cases m.get? name with
    | none => simp
    | some found => simp
  · cases m.get? name with
    | none => exact iff_of_true rfl rfl
    | some found => exact iff_of_false (Option.some_ne_none found) nofun
  · rw [contains, get?, Option.isSome_map]

/-- A map with two names that are one in upper case, and a name with an empty target. -/
def collidingMap : RegisterMap := ofList [("ſ", "r1"), ("b", ""), ("S", "r2")]

example : collidingMap.names = [['S'], ['B']] ∧ collidingMap.get? " s" = some "r2" ∧
    collidingMap.get? "B" = some [] := by
  decide +kernel

end RegisterMap

end Retarget
