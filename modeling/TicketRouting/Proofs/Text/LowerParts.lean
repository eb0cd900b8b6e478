import TicketRouting.Text.Lower
/-!
The lower case of a part of a text, in its place and alone. They differ in capital sigmas only: one at
the end of the part may end a word there that goes on behind the part, and one at its beginning may go
on with a word from before it.
-/
namespace TicketRouting.Text

/-- The lower case that a part of a text has in its place. What stands before it is given in reverse. -/
def lowerWithin (after before : List Char) : List Char → List Char
  | [] => []
  | c :: rest => lowerAt before c (rest ++ after) ++ lowerWithin after (c :: before) rest

section Within
variable (after before later earlier : List Char)

theorem lower_within_alone (part : List Char) :
    lowerWithin [] before part = lowerFrom before part := by
  induction part generalizing before with
  | nil => rfl
  | cons c rest ih => simp only [lowerWithin, lowerFrom, List.append_nil, ih]

theorem lower_within_append (first second : List Char) :
    lowerWithin after before (first ++ second) =
      lowerWithin (second ++ after) before first ++
        lowerWithin after (first.reverse ++ before) second := by
  induction first generalizing before with
  | nil => rfl
  | cons c rest ih => simp [lowerWithin, ih]

theorem lower_list_append (first second : List Char) :
    lowerList (first ++ second) =
      lowerWithin second [] first ++ lowerWithin [] first.reverse second := by
  rw [lower_list_eq, ← lower_within_alone, lower_within_append]
  simp only [List.append_nil]

theorem lower_at_length (c : Char) :
    (lowerAt before c after).length = (lowerAt earlier c later).length := by
  unfold lowerAt
  split <;> rfl

theorem lower_within_length (part : List Char) :
    (lowerWithin after before part).length = (lowerWithin later earlier part).length := by
  induction part generalizing before earlier with
  | nil => rfl
  | cons c rest ih =>
    simp only [lowerWithin, List.length_append, ih (c :: before) (c :: earlier)]
    rw [lower_at_length (rest ++ after) before (rest ++ later) earlier]

theorem lower_at_eq_iff (c : Char) :
    lowerAt before c after = lowerAt earlier c later ↔
      (c = 'Σ' → lowerSigma before after = lowerSigma earlier later) := by
  unfold lowerAt
  by_cases sigma : c = 'Σ' <;> simp [sigma]

/-- A part has one lower case in two places if its capital sigmas have. -/
theorem lower_within_eq_iff (part : List Char) :
    lowerWithin after before part = lowerWithin later earlier part ↔
      ∀ head tail, part = head ++ 'Σ' :: tail →
        lowerSigma (head.reverse ++ before) (tail ++ after) =
          lowerSigma (head.reverse ++ earlier) (tail ++ later) := by
  induction part generalizing before earlier with
  | nil => simp [lowerWithin]
  | cons c rest ih =>
    have sameLength := lower_at_length (rest ++ after) before (rest ++ later) earlier c
    simp only [lowerWithin]
    constructor
    · intro same head tail split
      obtain ⟨first, others⟩ := List.append_inj same sameLength
      cases head with
      | nil =>
        obtain ⟨rfl, rfl⟩ := List.cons.inj split
        exact (lower_at_eq_iff _ _ _ _ _).mp first rfl
      | cons d head =>
        obtain ⟨rfl, remaining⟩ := List.cons.inj split
        simpa using (ih (c :: before) (c :: earlier)).mp others head tail remaining
    · intro kept
      have first := (lower_at_eq_iff (rest ++ after) before (rest ++ later) earlier c).mpr
        fun sigma => kept [] rest (by simp [sigma])
      have others := (ih (c :: before) (c :: earlier)).mpr fun head tail split => by
        simpa using kept (c :: head) tail (by rw [split]; rfl)
      rw [first, others]

end Within

section Sigmas

/-- The text ends on a capital sigma with letters before it. It ends a word, if no letters follow. -/
def EndsOnSigma (text : List Char) : Prop :=
  ∃ word rest, text = word ++ 'Σ' :: rest ∧ meetsCased word.reverse = true ∧
    rest.all isCaseIgnorable = true

/-- The text begins on a capital sigma without letters behind it. It ends a word, if letters stand
before it. -/
def OpensOnSigma (text : List Char) : Prop :=
  ∃ skipped rest, text = skipped ++ 'Σ' :: rest ∧ skipped.all isCaseIgnorable = true ∧
    meetsCased rest = false

theorem meets_cased_append (first second : List Char) :
    meetsCased (first ++ second) =
      if first.all isCaseIgnorable then meetsCased second else meetsCased first := by
  induction first with
  | nil => rfl
  | cons c rest ih =>
    rw [List.cons_append, meets_cased_cons, meets_cased_cons, ih, List.all_cons]
    cases isCaseIgnorable c <;> rfl

theorem meets_cased_ignorable (text : List Char) (ignorable : text.all isCaseIgnorable = true) :
    meetsCased text = false := by
  have behind := meets_cased_append text []
  rw [List.append_nil, if_pos ignorable] at behind
  exact behind

variable (part after before : List Char)

/-- What follows a part changes its lower case just if it goes on with a word that the part ends. -/
theorem lower_before_iff :
    lowerWithin after [] part = lowerWithin [] [] part ↔
      ¬ (EndsOnSigma part ∧ meetsCased after = true) := by
  rw [lower_within_eq_iff]
  simp only [List.append_nil, lowerSigma, meets_cased_append]
  constructor
  · rintro kept ⟨⟨word, rest, split, cased, ignorable⟩, follows⟩
    have same := kept word rest split
    simp [cased, ignorable, follows, meets_cased_ignorable rest ignorable] at same
  · intro apart head tail split
    by_cases ignorable : tail.all isCaseIgnorable = true
    · rw [if_pos ignorable, meets_cased_ignorable tail ignorable]
      cases cased : meetsCased head.reverse with
      | false => rfl
      | true =>
        cases follows : meetsCased after with
        | false => rfl
        | true => exact absurd ⟨⟨head, tail, split, cased, ignorable⟩, follows⟩ apart
    · rw [if_neg ignorable]

theorem lower_behind_iff :
    lowerWithin [] before part = lowerWithin [] [] part ↔
      ¬ (OpensOnSigma part ∧ meetsCased before = true) := by
  rw [lower_within_eq_iff]
  simp only [List.append_nil, lowerSigma, meets_cased_append, List.all_reverse]
  constructor
  · rintro kept ⟨⟨skipped, rest, split, ignorable, uncased⟩, precedes⟩
    have same := kept skipped rest split
    have reversed : skipped.reverse.all isCaseIgnorable = true := by rwa [List.all_reverse]
    simp [ignorable, uncased, precedes, meets_cased_ignorable _ reversed] at same
  · intro apart head tail split
    by_cases ignorable : head.all isCaseIgnorable = true
    · have reversed : head.reverse.all isCaseIgnorable = true := by rwa [List.all_reverse]
      rw [if_pos ignorable, meets_cased_ignorable _ reversed]
      cases uncased : meetsCased tail with
      | true => simp
      | false =>
        cases precedes : meetsCased before with
        | false => rfl
        | true => exact absurd ⟨⟨head, tail, split, ignorable, uncased⟩, precedes⟩ apart
    · rw [if_neg ignorable]

theorem lower_between (endsApart : ¬ (EndsOnSigma part ∧ meetsCased after = true))
    (opensApart : ¬ (OpensOnSigma part ∧ meetsCased before = true)) :
    lowerWithin after before part = lowerWithin [] [] part := by
  rw [lower_within_eq_iff]
  intro head tail split
  have keptEnd := (lower_within_eq_iff after [] [] [] part).mp
    ((lower_before_iff part after).mpr endsApart) head tail split
  have keptOpening := (lower_within_eq_iff [] before [] [] part).mp
    ((lower_behind_iff part before).mpr opensApart) head tail split
  simp only [List.append_nil, lowerSigma, meets_cased_append, List.all_reverse] at keptEnd keptOpening ⊢
  by_cases skipped : head.all isCaseIgnorable = true
  · by_cases followed : tail.all isCaseIgnorable = true
    -- The sigma has both surroundings in its sight, and there is no word before it.
    · have reversed : head.reverse.all isCaseIgnorable = true := by rwa [List.all_reverse]
      have uncased := meets_cased_ignorable head.reverse reversed
      cases precedes : meetsCased before with
      | false => simp [skipped, uncased]
      | true => simp [skipped, uncased, precedes, meets_cased_ignorable tail followed] at keptOpening
    · rw [if_neg followed]
      exact keptOpening
  · rw [if_neg skipped]
    exact keptEnd

end Sigmas

end TicketRouting.Text
