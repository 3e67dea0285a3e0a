/-
# Retarget.Proofs.IE32.Groups -- where operand text is cut, by counting and by groups

The search for the comma between two operands keeps a signed depth.  It finds the first comma that
has as many opening as closing brackets before it (`isLeast_of_cutAtComma`), also where brackets are
closed that were never opened; `Parting` says by counting that a comma is such a one.  At the cut
nothing is lost but blanks (`exists_around_comma`).

Where brackets are well nested (`Nested`), counting and grouping agree: before a comma inside a
group there are more brackets opened than closed, and before any other comma there are as many
(`Nested.level_iff`).  So the operands are parted at the first comma outside all groups.
-/
import Mathlib.Order.Bounds.Basic
import Retarget.Proofs.IE32.Commas
import Retarget.Proofs.Text.Cutting

namespace Retarget.IE32

set_option autoImplicit false

open Text (trim trimLeft trimRight AllBlank)

/-! ## Commas that part operands -/

/-- There is a comma at the place, and before it as many opening as closing brackets. -/
def Parting (s : Text) (i : Nat) : Prop :=
  s[i]? = some ',' ∧ (s.take i).count '[' = (s.take i).count ']'

instance (s : Text) (i : Nat) : Decidable (Parting s i) := inferInstanceAs (Decidable (_ ∧ _))

theorem parting_iff (s : Text) (i : Nat) :
    Parting s i ↔ ∃ before after, s = before ++ ',' :: after ∧ before.length = i ∧
      before.count '[' = before.count ']' := by
  constructor
  · rintro ⟨comma, level⟩
    obtain ⟨inside, here⟩ := List.getElem?_eq_some_iff.mp comma
    refine ⟨s.take i, s.drop (i + 1), ?_, ?_, level⟩
    · rw [← here, ← List.drop_eq_getElem_cons inside, List.take_append_drop]
    · rw [List.length_take]
      omega
  · rintro ⟨before, after, rfl, rfl, level⟩
    constructor
    · simp
    · simpa using level

theorem single_iff_unparted (s : Text) : Single s ↔ ∀ i, ¬ Parting s i := by
  constructor
  · intro single i parting
    obtain ⟨before, after, split, -, level⟩ := (parting_iff s i).mp parting
    exact single before after split level
  · intro unparted before after split level
    exact unparted before.length ((parting_iff s _).mpr ⟨before, after, split, rfl, level⟩)

/-- Where the search stops the depth is zero, and it did not stop before. -/
theorem level_of_cutAtComma {depth : Int} {t first second : Text}
    (cut : cutAtComma depth t = some (first, second)) :
    depth + first.count '[' - first.count ']' = 0 ∧ cutAtComma depth first = none := by
  induction t generalizing depth first with
  | nil => simp [cutAtComma] at cut
  | cons c rest ih =>
      rw [cutAtComma] at cut
      split at cut
      · rename_i here
        simp only [Option.some.injEq, Prod.mk.injEq] at cut
        obtain ⟨rfl, -⟩ := cut
        exact ⟨by simp [here.2], rfl⟩
      · rename_i passes
        obtain ⟨⟨before, after⟩, later, same⟩ := Option.map_eq_some_iff.mp cut
        simp only [Prod.mk.injEq] at same
        obtain ⟨rfl, rfl⟩ := same
        obtain ⟨level, uncut⟩ := ih later
        constructor
        · simp only [List.count_cons]
          unfold depthAfter at level
          grind
        · rw [cutAtComma, if_neg passes, uncut]
          rfl

/-- The search finds the first comma that parts operands. -/
theorem isLeast_of_cutAtComma {s first second : Text}
    (cut : cutAtComma 0 s = some (first, second)) : IsLeast {i | Parting s i} first.length := by
  have split := cutAtComma_eq_some cut
  obtain ⟨level, uncut⟩ := level_of_cutAtComma cut
  constructor
  · exact (parting_iff s _).mpr ⟨first, second, split, rfl, by omega⟩
  · intro i parting
    obtain ⟨before, after, other, rfl, even⟩ := (parting_iff s i).mp parting
    by_contra shorter
    -- An earlier one would stand in the text that the search passed over.
    obtain ⟨between, inside⟩ :=
      Text.exists_of_earlier_mark (split.symm.trans other) (Nat.not_le.mp shorter)
    exact (single_iff first).mpr uncut before between inside even

/-- A comma parts a trimmed text into two operands and the blanks beside it. -/
theorem exists_around_comma {s before after : Text} (trimmed : trim s = s)
    (split : s = before ++ ',' :: after) :
    ∃ gap spaces, AllBlank gap ∧ AllBlank spaces ∧ before = trim before ++ gap ∧
      after = spaces ++ trim after := by
  obtain ⟨gap, blankGap, left⟩ := Text.exists_trimRight before
  obtain ⟨spaces, blankSpaces, right⟩ := Text.exists_trimLeft after
  have starts : trimLeft before = before := by
    refine Text.dropWhile_eq_self fun c first => ?_
    apply Text.head?_trim (t := s)
    rw [trimmed, split, List.head?_append, first]
    rfl
  have ends : trimRight (trimLeft after) = trimLeft after := by
    refine Text.dropRightWhile_eq_self fun c last => ?_
    apply Text.getLast?_trim (t := s)
    rw [trimmed, split, right, List.getLast?_append, ← List.cons_append, List.getLast?_append, last]
    rfl
  refine ⟨gap, spaces, blankGap, blankSpaces, ?_, ?_⟩
  · rw [Text.trim, starts]
    exact left
  · rw [Text.trim, ends]
    exact right

/-- Operand text is parted at the first comma that has even brackets before it. -/
theorem splitOperands_of_isLeast {t before after : Text} (split : trim t = before ++ ',' :: after)
    (least : IsLeast {i | Parting (trim t) i} before.length) :
    splitOperands t = [trim before, trim after] := by
  have parted : ¬ Single t := by
    rw [← single_trim, single_iff_unparted]
    exact fun unparted => unparted _ least.1
  obtain ⟨first, second, pair⟩ := exists_pair_of_not_single parted
  obtain ⟨left, right, cut, rfl, rfl⟩ := cutAtComma_of_pair pair
  have length : before.length = left.length := least.unique (isLeast_of_cutAtComma cut)
  have same : before ++ ',' :: after = left ++ ',' :: right :=
    split.symm.trans (cutAtComma_eq_some cut)
  obtain ⟨rfl, rest⟩ := List.append_inj same length
  obtain rfl := List.tail_eq_of_cons_eq rest
  exact pair

/-- The first comma that parts operands, and what stands around it. -/
theorem exists_isLeast_parting {t : Text} {i : Nat} (parting : Parting (trim t) i) :
    ∃ before after, IsLeast {i | Parting (trim t) i} before.length ∧
      trim t = before ++ ',' :: after := by
  have parted : cutAtComma 0 (trim t) ≠ none := by
    rw [ne_eq, ← single_iff, single_iff_unparted]
    exact fun unparted => unparted i parting
  obtain ⟨⟨before, after⟩, cut⟩ := Option.ne_none_iff_exists'.mp parted
  exact ⟨before, after, isLeast_of_cutAtComma cut, cutAtComma_eq_some cut⟩

/-! ## Groups -/

/-- Every bracket belongs to another: the text is made of characters that are no brackets and of
groups, each a nested text between brackets. -/
inductive Nested : Text → Prop
  | nil : Nested []
  | plain {c : Char} {rest : Text} (noBracket : c ≠ '[' ∧ c ≠ ']') (more : Nested rest) :
      Nested (c :: rest)
  | group {inner rest : Text} (inside : Nested inner) (more : Nested rest) :
      Nested ('[' :: inner ++ ']' :: rest)

/-- A comma between the two texts stands inside a group. -/
def InGroup (before after : Text) : Prop :=
  ∃ outer left right behind, before = outer ++ '[' :: left ∧ after = right ++ ']' :: behind ∧
    Nested (left ++ ',' :: right)

/-- What a bracket adds to the counts. -/
theorem counts_bracket (t : Text) :
    ('[' :: t).count '[' = t.count '[' + 1 ∧ ('[' :: t).count ']' = t.count ']' ∧
      (']' :: t).count '[' = t.count '[' ∧ (']' :: t).count ']' = t.count ']' + 1 := by
  simp

namespace Nested

variable {t before after : Text}

theorem of_plain (plain : ∀ c ∈ t, c ≠ '[' ∧ c ≠ ']') : Nested t := by
  induction t with
  | nil => exact .nil
  | cons c rest ih =>
      rw [List.forall_mem_cons] at plain
      exact .plain plain.1 (ih plain.2)

theorem count_eq (nested : Nested t) : t.count '[' = t.count ']' := by
  induction nested with
  | nil => rfl
  | plain noBracket _ ih => simp [noBracket.1, noBracket.2, ih]
  | group _ _ inside more =>
      simp only [List.cons_append, List.count_append, counts_bracket]
      omega

/-- Nowhere in a nested text have more brackets been closed than opened. -/
theorem count_le (nested : Nested t) (split : t = before ++ after) :
    before.count ']' ≤ before.count '[' := by
  induction nested generalizing before after with
  | nil =>
      obtain ⟨rfl, -⟩ := List.append_eq_nil_iff.mp split.symm
      exact Nat.le_refl _
  | @plain c rest noBracket _ ih =>
      cases before with
      | nil => exact Nat.le_refl _
      | cons d begun =>
          obtain ⟨rfl, later⟩ := List.cons.inj split
          simpa [noBracket.1, noBracket.2] using ih later
  | @group inner rest inside _ ihInner ihRest =>
      cases before with
      | nil => exact Nat.le_refl _
      | cons d begun =>
          obtain ⟨rfl, later⟩ := List.cons.inj split
          rcases List.append_eq_append_iff.mp later with ⟨more, rfl, behind⟩ | ⟨more, here, -⟩
          · have even := inside.count_eq
            cases more with
            | nil =>
                simp only [List.append_nil, counts_bracket]
                omega
            | cons e begun =>
                obtain ⟨rfl, last⟩ := List.cons.inj behind
                have bound := ihRest last
                simp only [List.count_append, counts_bracket]
                omega
          · have bound := ihInner here
            simp only [counts_bracket]
            omega

/-- A comma of a nested text has a nested text before it or stands in a group. -/
theorem outside_or_inGroup (nested : Nested t) (split : t = before ++ ',' :: after) :
    Nested before ∨ InGroup before after := by
  induction nested generalizing before with
  | nil => simp at split
  | @plain c rest noBracket _ ih =>
      cases before with
      | nil => exact .inl .nil
      | cons d begun =>
          obtain ⟨rfl, later⟩ := List.cons.inj split
          rcases ih later with outside | ⟨outer, left, right, behind, rfl, same, group⟩
          · exact .inl (.plain noBracket outside)
          · exact .inr ⟨c :: outer, left, right, behind, rfl, same, group⟩
  | @group inner rest inside _ _ ih =>
      cases before with
      | nil => simp at split
      | cons d begun =>
          obtain ⟨rfl, later⟩ := List.cons.inj split
          -- The comma stands behind this group or in it.
          rcases List.append_eq_append_iff.mp later with ⟨more, rfl, behind⟩ | ⟨more, rfl, here⟩
          · cases more with
            | nil => simp at behind
            | cons e begun =>
                obtain ⟨rfl, last⟩ := List.cons.inj behind
                rcases ih last with outside | ⟨outer, left, right, beyond, rfl, same, group⟩
                · exact .inl (.group inside outside)
                · refine .inr ⟨'[' :: inner ++ ']' :: outer, left, right, beyond, ?_, same, group⟩
                  simp
          · cases more with
            | nil => simp at here
            | cons e right =>
                obtain ⟨rfl, same⟩ := List.cons.inj here
                exact .inr ⟨[], begun, right, rest, rfl, same, inside⟩

/-- Before a comma brackets are even exactly if it stands in no group. -/
theorem level_iff (nested : Nested t) (split : t = before ++ ',' :: after) :
    before.count '[' = before.count ']' ↔ ¬ InGroup before after := by
  constructor
  · rintro level ⟨outer, left, right, behind, rfl, rfl, group⟩
    -- The group's own bracket is one too many, and neither part before the comma makes up for it.
    have around : outer.count ']' ≤ outer.count '[' :=
      nested.count_le (split.trans (List.append_assoc outer _ _))
    have within : left.count ']' ≤ left.count '[' := group.count_le rfl
    simp only [List.count_append, counts_bracket] at level
    omega
  · intro outside
    exact ((nested.outside_or_inGroup split).resolve_right outside).count_eq

variable {operands : Text}

/-- No text is parted at a comma in a group. -/
theorem splitOperands_ne (nested : Nested (trim operands))
    (split : trim operands = before ++ ',' :: after) (inside : InGroup before after) :
    splitOperands operands ≠ [trim before, trim after] := by
  intro same
  obtain ⟨first, second, cut, sameFirst, -⟩ := cutAtComma_of_pair same
  -- Blanks hold no brackets, so the brackets before the comma would be as even as at the cut.
  have counts : ∀ c, Text.isBlank c = false → before.count c = first.count c := by
    intro c solid
    rw [← Text.count_trim solid before, sameFirst, Text.count_trim solid]
  have level := (level_of_cutAtComma cut).1
  have opened := counts '[' (by decide)
  have closed := counts ']' (by decide)
  exact (nested.level_iff split).mp (by omega) inside

/-- The text is parted at the first comma that is in no group. -/
theorem splitOperands_eq (nested : Nested (trim operands))
    (split : trim operands = before ++ ',' :: after) (outside : ¬ InGroup before after)
    (first : ∀ earlier later, trim operands = earlier ++ ',' :: later →
      earlier.length < before.length → InGroup earlier later) :
    splitOperands operands = [trim before, trim after] := by
  apply splitOperands_of_isLeast split
  constructor
  · exact (parting_iff _ _).mpr ⟨before, after, split, rfl, (nested.level_iff split).mpr outside⟩
  · intro i parting
    obtain ⟨earlier, later, other, rfl, even⟩ := (parting_iff _ i).mp parting
    by_contra shorter
    exact (nested.level_iff other).mp even (first _ _ other (Nat.not_le.mp shorter))

end Nested

/-! ## The operands of a text -/

/-- **Operand text is cut by counting brackets, and loses nothing but blanks.**  Trimmed, the text
has no operands if it is empty.  If a comma has as many opening as closing brackets before it, the
first such comma parts two operands, with blanks beside it and nothing else; otherwise the text is
one operand.  So where brackets are well nested, a comma in a group parts nothing, and the first
comma outside all groups does. -/
theorem splitOperands_counted (t : Text) :
    let s := trim t
    (splitOperands t = [] ↔ s = []) ∧
      ((∃ i, Parting s i) → ∃ i, IsLeast {i | Parting s i} i ∧
        splitOperands t = [trim (s.take i), trim (s.drop (i + 1))] ∧
        ∃ gap spaces, AllBlank gap ∧ AllBlank spaces ∧
          s = trim (s.take i) ++ gap ++ ',' :: (spaces ++ trim (s.drop (i + 1)))) ∧
      (s ≠ [] → (∀ i, ¬ Parting s i) → splitOperands t = [s]) ∧
      (Nested s → ∀ before after, s = before ++ ',' :: after →
        (InGroup before after → splitOperands t ≠ [trim before, trim after]) ∧
        (¬ InGroup before after →
          (∀ earlier later, s = earlier ++ ',' :: later → earlier.length < before.length →
            InGroup earlier later) →
          splitOperands t = [trim before, trim after])) := by
  intro s
  refine ⟨splitOperands_eq_nil_iff t, ?_, ?_, ?_⟩
  · rintro ⟨i, parting⟩
    obtain ⟨before, after, least, split⟩ := exists_isLeast_parting parting
    have first : s.take before.length = before := by simp [s, split]
    have second : s.drop (before.length + 1) = after := by simp [s, split]
    obtain ⟨gap, spaces, blankGap, blankSpaces, left, right⟩ :=
      exists_around_comma (Text.trim_trim t) split
    refine ⟨before.length, least, ?_, gap, spaces, blankGap, blankSpaces, ?_⟩
    · rw [first, second]
      exact splitOperands_of_isLeast split least
    · rw [first, second, ← left, ← right]
      exact split
  · intro some_text unparted
    have single : Single t := (single_trim t).mp ((single_iff_unparted s).mpr unparted)
    exact splitOperands_single single some_text
  · intro nested before after split
    exact ⟨nested.splitOperands_ne split, nested.splitOperands_eq split⟩

/-- Brackets that close before they open, and a comma where they are even again. -/
def reversedBrackets : Text := " ],[ a , [b,c] "

/-- A group with a comma in it, and two commas behind it. -/
def groupedOperands : Text := "[A,B] ,x, y"

theorem groupedOperands_counted :
    (Parting (trim reversedBrackets) 6 ∧ ∃ i, IsLeast {i | Parting (trim reversedBrackets) i} i ∧
        splitOperands reversedBrackets =
          [trim ((trim reversedBrackets).take i), trim ((trim reversedBrackets).drop (i + 1))]) ∧
      Nested (trim groupedOperands) ∧
      (InGroup "[A" "B] ,x, y" ∧ splitOperands groupedOperands ≠ [trim "[A", trim "B] ,x, y"]) ∧
      ¬ InGroup "[A,B] " "x, y" ∧
      splitOperands groupedOperands = [trim "[A,B] ", trim "x, y"] := by
  have parting : Parting (trim reversedBrackets) 6 := by decide
  have group : Nested ('[' :: "A,B".toList ++ ']' :: " ,x, y".toList) :=
    .group (.of_plain (by decide)) (.of_plain (by decide))
  have nested : Nested (trim groupedOperands) := group
  have inside : InGroup "[A" "B] ,x, y" :=
    ⟨[], "A", "B", " ,x, y", by decide, by decide, .of_plain (by decide)⟩
  have outside : ¬ InGroup "[A,B] " "x, y" := (nested.level_iff (by decide)).mp (by decide)
  have unparted : ∀ i < 6, ¬ Parting (trim groupedOperands) i := by decide
  obtain ⟨i, least, split, -⟩ := (splitOperands_counted reversedBrackets).2.1 ⟨6, parting⟩
  have grouped := (splitOperands_counted groupedOperands).2.2.2 nested
  refine ⟨⟨parting, i, least, split⟩, nested, ⟨inside, (grouped _ _ (by decide)).1 inside⟩, outside,
    (grouped _ _ (by decide)).2 outside ?_⟩
  intro earlier later comma shorter
  by_contra apart
  have level := (nested.level_iff comma).mpr apart
  exact unparted _ shorter ((parting_iff _ _).mpr ⟨earlier, later, comma, rfl, level⟩)

end Retarget.IE32
