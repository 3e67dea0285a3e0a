/-
# Retarget.Proofs.Text.Trimming -- what trimming takes away, and the first word of a text

Trimming removes a run of blanks at either end and nothing else (`exists_trim`), it does not see
the blanks that were put around a text (`trim_append`), and it leaves a text alone whose two ends
are not blank (`trim_eq_self`).  `cutWord` is described twice in the same way: what it took away
(`exists_cutWord`), and what it finds in a text that is laid out as a word, blanks and a rest
(`cutWord_eq`).
-/
import Mathlib.Data.List.DropRight
import Mathlib.Data.List.TakeWhile
import Retarget.Text.Blank

namespace Retarget.Text

set_option autoImplicit false

/-- A run of blanks, possibly empty. -/
def AllBlank (t : Text) : Prop := ∀ c ∈ t, isBlank c = true

theorem allBlank_nil : AllBlank [] := by
  intro c member
  simp at member

theorem AllBlank.append {s t : Text} (first : AllBlank s) (second : AllBlank t) :
    AllBlank (s ++ t) := by
  intro c member
  rcases List.mem_append.mp member with inFirst | inSecond
  · exact first c inFirst
  · exact second c inSecond

/-! ## Trimming -/

theorem isIndent_of_solid {c : Char} (solid : isBlank c = false) : isIndent c = false := by
  by_contra layout
  rw [isBlank_of_isIndent (by simpa using layout)] at solid
  exact absurd solid (by decide)

theorem dropRightWhile_eq (p : Char → Bool) (t : Text) : dropRightWhile p t = t.rdropWhile p := rfl

/-- Dropping at the right removes a run of characters that satisfy the predicate. -/
theorem exists_dropRightWhile (p : Char → Bool) (t : Text) :
    ∃ right, (∀ c ∈ right, p c = true) ∧ t = dropRightWhile p t ++ right := by
  refine ⟨t.rtakeWhile p, ?_, List.rdropWhile_append_rtakeWhile.symm⟩
  intro c member
  exact List.mem_rtakeWhile_imp member

theorem dropRightWhile_subset (p : Char → Bool) (t : Text) : dropRightWhile p t ⊆ t :=
  (List.rdropWhile_prefix p t).subset

theorem dropRightWhile_append (p : Char → Bool) (t : Text) {right : Text}
    (dropped : ∀ c ∈ right, p c = true) :
    dropRightWhile p (t ++ right) = dropRightWhile p t := by
  unfold dropRightWhile
  rw [List.reverse_append, List.dropWhile_append_of_pos]
  intro c member
  exact dropped c (List.mem_reverse.mp member)

/-- A text whose last character does not satisfy the predicate loses nothing at the right. -/
theorem dropRightWhile_eq_self {p : Char → Bool} {t : Text}
    (last : ∀ c, t.getLast? = some c → p c = false) : dropRightWhile p t = t := by
  rw [dropRightWhile_eq, List.rdropWhile_eq_self_iff]
  intro notEmpty
  have stays := last (t.getLast notEmpty) (List.getLast?_eq_some_getLast notEmpty)
  simp [stays]

theorem getLast?_dropRightWhile {p : Char → Bool} {t : Text} {c : Char}
    (last : (dropRightWhile p t).getLast? = some c) : p c = false := by
  have notEmpty : dropRightWhile p t ≠ [] := by
    intro empty
    simp [empty] at last
  rw [List.getLast?_eq_some_getLast notEmpty] at last
  have stays : ¬ p ((dropRightWhile p t).getLast notEmpty) = true :=
    List.rdropWhile_last_not p t notEmpty
  rw [Option.some.inj last] at stays
  simpa using stays

/-- Dropping what satisfies a predicate at the right keeps a first character that does not. -/
theorem head?_dropRightWhile {p : Char → Bool} {t : Text} {c : Char} (first : t.head? = some c)
    (stays : p c = false) : (dropRightWhile p t).head? = some c := by
  obtain ⟨right, dropped, split⟩ := exists_dropRightWhile p t
  cases kept : dropRightWhile p t with
  | nil =>
      rw [kept, List.nil_append] at split
      have gone := dropped c (split ▸ List.mem_of_head? first)
      simp [stays] at gone
  | cons d rest =>
      rw [split, kept] at first
      exact first

theorem head?_dropWhile {p : Char → Bool} {t : Text} {c : Char}
    (first : (t.dropWhile p).head? = some c) : p c = false := by
  have stops := List.head?_dropWhile_not p t
  rw [first] at stops
  exact stops

theorem dropWhile_eq_self {p : Char → Bool} {t : Text}
    (first : ∀ c, t.head? = some c → p c = false) : t.dropWhile p = t := by
  cases t with
  | nil => rfl
  | cons c rest => rw [List.dropWhile_cons_of_neg]; simp [first c rfl]

/-- A run of characters of one kind ends where a character of another kind follows it. -/
theorem takeWhile_append {p : Char → Bool} {body rest : Text} (inside : ∀ c ∈ body, p c = true)
    (behind : ∀ c, rest.head? = some c → p c = false) : (body ++ rest).takeWhile p = body := by
  rw [List.takeWhile_append_of_pos inside]
  cases rest with
  | nil => simp
  | cons c more => simp [behind c rfl]

/-- **What trimming takes away is a run of blanks on either side.** -/
theorem exists_trim (t : Text) :
    ∃ left right, AllBlank left ∧ AllBlank right ∧ t = left ++ trim t ++ right := by
  obtain ⟨right, blankRight, split⟩ := exists_dropRightWhile isBlank (trimLeft t)
  refine ⟨t.takeWhile isBlank, right, ?_, blankRight, ?_⟩
  · intro c member
    exact List.mem_takeWhile_imp member
  · calc t = t.takeWhile isBlank ++ trimLeft t := List.takeWhile_append_dropWhile.symm
      _ = t.takeWhile isBlank ++ (trim t ++ right) := congrArg _ split
      _ = t.takeWhile isBlank ++ trim t ++ right := (List.append_assoc _ _ _).symm

/-- Every character that is left is one of the text. -/
theorem trim_subset (t : Text) : trim t ⊆ t := by
  obtain ⟨left, right, -, -, split⟩ := exists_trim t
  intro c member
  rw [split]
  simp [member]

/-- A character that is no blank stands in the trimmed text as often as in the text. -/
theorem count_trim {c : Char} (solid : isBlank c = false) (t : Text) :
    (trim t).count c = t.count c := by
  obtain ⟨left, right, blankLeft, blankRight, split⟩ := exists_trim t
  have absent : ∀ {blanks : Text}, AllBlank blanks → blanks.count c = 0 := by
    intro blanks blank
    refine List.count_eq_zero.mpr fun member => ?_
    simp [blank c member] at solid
  conv_rhs => rw [split, List.count_append, List.count_append, absent blankLeft, absent blankRight]
  omega

theorem head?_trim {t : Text} {c : Char} (first : (trim t).head? = some c) :
    isBlank c = false := by
  obtain ⟨right, -, split⟩ := exists_dropRightWhile isBlank (trimLeft t)
  have same : (trimLeft t).head? = some c := by
    rw [split, List.head?_append]
    simp only [trim, trimRight] at first
    rw [first]
    rfl
  exact head?_dropWhile same

theorem getLast?_trim {t : Text} {c : Char} (last : (trim t).getLast? = some c) :
    isBlank c = false :=
  getLast?_dropRightWhile last

/-- A text whose ends are not blank is trimmed already. -/
theorem trim_eq_self {t : Text} (first : ∀ c, t.head? = some c → isBlank c = false)
    (last : ∀ c, t.getLast? = some c → isBlank c = false) : trim t = t := by
  have left : trimLeft t = t := dropWhile_eq_self first
  rw [trim, left]
  exact dropRightWhile_eq_self last

theorem head?_of_trimmed {t : Text} (trimmed : trim t = t) (some_text : t ≠ []) :
    ∃ c, t.head? = some c ∧ isBlank c = false := by
  obtain ⟨c, rest, rfl⟩ := List.exists_cons_of_ne_nil some_text
  exact ⟨c, rfl, head?_trim (t := c :: rest) (by rw [trimmed]; rfl)⟩

theorem trimRight_of_trimmed {t : Text} (trimmed : trim t = t) : trimRight t = t := by
  refine dropRightWhile_eq_self fun c last => ?_
  rw [← trimmed] at last
  exact getLast?_trim last

@[simp] theorem trim_trim (t : Text) : trim (trim t) = trim t :=
  trim_eq_self (fun _ => head?_trim) (fun _ => getLast?_trim)

@[simp] theorem trim_nil : trim [] = [] := rfl

theorem trim_eq_nil_iff (t : Text) : trim t = [] ↔ AllBlank t := by
  constructor
  · intro empty
    obtain ⟨left, right, blankLeft, blankRight, split⟩ := exists_trim t
    rw [empty, List.append_nil] at split
    rw [split]
    exact blankLeft.append blankRight
  · intro blank
    have left : trimLeft t = [] := List.dropWhile_eq_nil_iff.mpr blank
    rw [trim, left]
    rfl

/-- Blanks around a text make no difference once it is trimmed. -/
theorem trim_append {left right : Text} (t : Text) (blankLeft : AllBlank left)
    (blankRight : AllBlank right) : trim (left ++ t ++ right) = trim t := by
  have start : trimLeft (left ++ t ++ right) = trimLeft (t ++ right) := by
    rw [List.append_assoc]
    exact List.dropWhile_append_of_pos blankLeft
  rw [trim, start, trimLeft, List.dropWhile_append]
  split
  · rename_i empty
    have blank : AllBlank t := List.dropWhile_eq_nil_iff.mp (List.isEmpty_iff.mp empty)
    rw [List.dropWhile_eq_nil_iff.mpr blankRight, (trim_eq_nil_iff t).mpr blank]
    rfl
  · exact dropRightWhile_append isBlank _ blankRight

theorem trim_append_left {left : Text} (t : Text) (blank : AllBlank left) :
    trim (left ++ t) = trim t := by
  simpa using trim_append t blank allBlank_nil

theorem trim_append_right {right : Text} (t : Text) (blank : AllBlank right) :
    trim (t ++ right) = trim t := by
  simpa using trim_append t allBlank_nil blank

/-- A trimmed text between blanks comes out as it is. -/
theorem trim_surrounded {left t right : Text} (blankLeft : AllBlank left)
    (blankRight : AllBlank right) (trimmed : trim t = t) : trim (left ++ t ++ right) = t := by
  rw [trim_append t blankLeft blankRight, trimmed]

theorem exists_trimLeft (t : Text) : ∃ left, AllBlank left ∧ t = left ++ trimLeft t :=
  ⟨t.takeWhile isBlank, fun _ member => List.mem_takeWhile_imp member,
    List.takeWhile_append_dropWhile.symm⟩

theorem exists_trimRight (t : Text) : ∃ right, AllBlank right ∧ t = trimRight t ++ right :=
  exists_dropRightWhile isBlank t

theorem trim_trimLeft (t : Text) : trim (trimLeft t) = trim t := by
  obtain ⟨left, blank, split⟩ := exists_trimLeft t
  conv_rhs => rw [split]
  exact (trim_append_left _ blank).symm

theorem trim_trimRight (t : Text) : trim (trimRight t) = trim t := by
  obtain ⟨right, blank, split⟩ := exists_trimRight t
  conv_rhs => rw [split]
  exact (trim_append_right _ blank).symm

/-- Around a mark that is not blank, a text is trimmed at the left before it and at the right
behind it. -/
theorem trim_append_mark {mark : Char} (solid : isBlank mark = false) (first second : Text) :
    trim (first ++ mark :: second) = trimLeft first ++ mark :: trimRight second := by
  have start : trimLeft (first ++ mark :: second) = trimLeft first ++ mark :: second := by
    induction first with
    | nil => simp [trimLeft, solid]
    | cons c rest ih =>
        by_cases blank : isBlank c = true
        · simpa [trimLeft, blank] using ih
        · simp [trimLeft, blank]
  have finish : ∀ before : Text, trimRight (before ++ mark :: second) =
      before ++ mark :: trimRight second := by
    intro before
    unfold trimRight dropRightWhile
    rw [List.reverse_append, List.reverse_cons, List.append_assoc, List.dropWhile_append]
    split
    · rename_i empty
      rw [List.isEmpty_iff.mp empty]
      simp [solid]
    · simp
  rw [trim, start, finish]

/-! ## The first word -/

theorem cutWord_trim (t : Text) : cutWord (trim t) = cutWord t := by
  simp [cutWord]

/-- The word that is cut off, and what stands around it.  The word has no blank in it, and
only where nothing follows it there may be no blank behind it. -/
theorem exists_cutWord (t : Text) :
    ∃ left gap right, AllBlank left ∧ AllBlank gap ∧ AllBlank right ∧
      (∀ c ∈ (cutWord t).1, isBlank c = false) ∧
      ((cutWord t).2 ≠ [] → gap ≠ []) ∧
      t = left ++ (cutWord t).1 ++ gap ++ (cutWord t).2 ++ right := by
  obtain ⟨left, right, blankLeft, blankRight, around⟩ := exists_trim t
  obtain ⟨gap, tail, blankGap, blankTail, behind⟩ :=
    exists_trim ((trim t).dropWhile (!isBlank ·))
  refine ⟨left, gap, tail ++ right, blankLeft, blankGap, blankTail.append blankRight, ?_, ?_, ?_⟩
  · intro c member
    have found := List.mem_takeWhile_imp member
    simpa using found
  · rintro some_rest rfl
    -- Without a gap the rest would start with the character at which the word ended, a blank.
    have start : ((trim t).dropWhile (!isBlank ·)).head? = (cutWord t).2.head? := by
      conv_lhs => rw [behind]
      exact List.head?_append_of_ne_nil _ some_rest
    obtain ⟨c, same⟩ : ∃ c, (cutWord t).2.head? = some c :=
      Option.ne_none_iff_exists'.mp (by simpa using some_rest)
    have notBlank : isBlank c = false := head?_trim same
    have blank := head?_dropWhile (start.trans same)
    simp [notBlank] at blank
  · have pieces : trim t = (cutWord t).1 ++ gap ++ (cutWord t).2 ++ tail := by
      calc trim t = (cutWord t).1 ++ (trim t).dropWhile (!isBlank ·) :=
            List.takeWhile_append_dropWhile.symm
        _ = (cutWord t).1 ++ (gap ++ (cutWord t).2 ++ tail) := congrArg _ behind
        _ = (cutWord t).1 ++ gap ++ (cutWord t).2 ++ tail := by simp
    calc t = left ++ trim t ++ right := around
      _ = left ++ ((cutWord t).1 ++ gap ++ (cutWord t).2 ++ tail) ++ right :=
          congrArg (left ++ · ++ right) pieces
      _ = left ++ (cutWord t).1 ++ gap ++ (cutWord t).2 ++ (tail ++ right) := by simp

theorem cutWord_subset (t : Text) : (cutWord t).1 ⊆ t ∧ (cutWord t).2 ⊆ t := by
  obtain ⟨left, gap, right, -, -, -, -, -, parts⟩ := exists_cutWord t
  constructor <;> intro c member
  · rw [parts]
    simp [member]
  · rw [parts]
    simp [member]

/-- Where something follows the first word, there is a first word. -/
theorem cutWord_fst_ne_nil {t : Text} (some_rest : (cutWord t).2 ≠ []) : (cutWord t).1 ≠ [] := by
  intro noWord
  have trimmed : trim t = [] := by
    cases start : trim t with
    | nil => rfl
    | cons c rest =>
        have solid : isBlank c = false := head?_trim (by rw [start]; rfl)
        simp [cutWord, start, solid] at noWord
  exact some_rest (by simp [cutWord, trimmed])

/-- The first word of a text that starts with a word, and the trimmed rest behind it. -/
theorem cutWord_eq {left word gap : Text} (rest : Text) (blankLeft : AllBlank left)
    (some_word : word ≠ []) (solid : ∀ c ∈ word, isBlank c = false) (blankGap : AllBlank gap)
    (parted : gap = [] → AllBlank rest) :
    cutWord (left ++ word ++ gap ++ rest) = (word, trim rest) := by
  -- Trimmed, the text is the word followed by something that is empty or starts with a blank.
  have shape : ∃ behind, trim (left ++ word ++ gap ++ rest) = word ++ behind ∧
      (∀ c, behind.head? = some c → isBlank c = true) ∧ trim behind = trim rest := by
    have wordStart : ∀ tail c, (word ++ tail).head? = some c → isBlank c = false := by
      intro tail c first
      rw [List.head?_append_of_ne_nil _ some_word] at first
      exact solid c (List.mem_of_head? first)
    by_cases blankRest : AllBlank rest
    · refine ⟨[], ?_, by simp, ?_⟩
      · have same : left ++ word ++ gap ++ rest = left ++ word ++ (gap ++ rest) := by simp
        rw [same, List.append_nil]
        refine trim_surrounded blankLeft (blankGap.append blankRest) (trim_eq_self ?_ ?_)
        · simpa using wordStart []
        · exact fun c last => solid c (List.mem_of_getLast? last)
      · rw [(trim_eq_nil_iff rest).mpr blankRest, trim_nil]
    · have some_rest : trim rest ≠ [] := mt (trim_eq_nil_iff rest).mp blankRest
      obtain ⟨inner, right, blankInner, blankRight, around⟩ := exists_trim rest
      refine ⟨gap ++ inner ++ trim rest, ?_, ?_, ?_⟩
      · have same : left ++ word ++ gap ++ rest =
            left ++ (word ++ (gap ++ inner ++ trim rest)) ++ right := by
          conv_lhs => rw [around]
          simp
        rw [same]
        refine trim_surrounded blankLeft blankRight (trim_eq_self (wordStart _) ?_)
        intro c last
        rw [← List.append_assoc, List.getLast?_append_of_ne_nil _ some_rest] at last
        exact getLast?_trim last
      · intro c first
        have some_gap : gap ≠ [] := fun none => blankRest (parted none)
        rw [List.append_assoc, List.head?_append_of_ne_nil _ some_gap] at first
        exact blankGap c (List.mem_of_head? first)
      · rw [trim_append_left _ (blankGap.append blankInner), trim_trim]
  obtain ⟨behind, trimmed, starts, sameRest⟩ := shape
  have taken : (word ++ behind).takeWhile (!isBlank ·) = word := by
    rw [List.takeWhile_append_of_pos (by simpa using solid)]
    cases behind with
    | nil => simp
    | cons c more => simp [starts c rfl]
  have dropped : (word ++ behind).dropWhile (!isBlank ·) = behind := by
    rw [List.dropWhile_append_of_pos (by simpa using solid)]
    exact dropWhile_eq_self (fun c first => by simp [starts c first])
  simp only [cutWord, trimmed, taken, dropped, sameRest]

/-- The first word of a text that starts with a word and a space. -/
theorem cutWord_space {word : Text} (rest : Text) (some_word : word ≠ [])
    (solid : ∀ c ∈ word, isBlank c = false) :
    cutWord (word ++ ' ' :: rest) = (word, trim rest) := by
  have space : AllBlank [' '] := by
    intro c member
    rw [List.mem_singleton.mp member]
    decide
  have cut := cutWord_eq rest allBlank_nil some_word solid space (by simp)
  simpa using cut

/-- A run from the start is the same, but for blanks around it, whether the text is trimmed first
or not. -/
theorem trim_takeWhile_trim {p : Char → Bool} (blanks : ∀ c, isBlank c = true → p c = true)
    (t : Text) : trim ((trim t).takeWhile p) = trim (t.takeWhile p) := by
  obtain ⟨left, right, blankLeft, blankRight, split⟩ := exists_trim t
  have passed : ∀ c ∈ left, p c = true := fun c member => blanks c (blankLeft c member)
  conv_rhs => rw [split, List.append_assoc, List.takeWhile_append_of_pos passed]
  by_cases all : ∀ c ∈ trim t, p c = true
  · have kept : right.takeWhile p = right :=
      List.takeWhile_eq_self_iff.mpr fun c member => blanks c (blankRight c member)
    rw [List.takeWhile_append_of_pos all, kept, List.takeWhile_eq_self_iff.mpr all,
      ← List.append_assoc, trim_append _ blankLeft blankRight]
  · have shorter : ((trim t).takeWhile p).length ≠ (trim t).length := by
      intro whole
      have same := (List.takeWhile_prefix p).eq_of_length whole
      exact all (List.takeWhile_eq_self_iff.mp same)
    rw [List.takeWhile_append, if_neg shorter, trim_append_left _ blankLeft]

end Retarget.Text
