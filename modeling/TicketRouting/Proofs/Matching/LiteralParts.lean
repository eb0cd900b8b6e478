import Mathlib.Data.List.Infix
import TicketRouting.Matching.Predicate
import TicketRouting.Proofs.Text.LowerParts
/-!
Texts that contain the value of a rule as it stands. They match, unless the value ends or begins within
a word on a capital sigma: this letter has one lower case at the end of a word and another one elsewhere,
and the value alone does not show where it stands.
-/
namespace TicketRouting.Matching
open TicketRouting.Text

@[simp] theorem of_bool_matched (holds : Bool) : Outcome.ofBool holds = .matched ↔ holds = true := by
  cases holds <;> simp [Outcome.ofBool]

section Places
variable {α : Type}

theorem prefix_append_iff (part whole rest : List α) (same : part.length = whole.length) :
    part <+: whole ++ rest ↔ part = whole := by
  constructor
  · intro front
    have shorter := List.prefix_of_prefix_length_le front (List.prefix_append whole rest) same.le
    exact shorter.eq_of_length same
  · rintro rfl
    exact List.prefix_append part rest

theorem suffix_append_iff (part whole rest : List α) (same : part.length = whole.length) :
    part <:+ rest ++ whole ↔ part = whole := by
  constructor
  · intro back
    have shorter := List.suffix_of_suffix_length_le back (List.suffix_append rest whole) same.le
    exact shorter.eq_of_length same
  · rintro rfl
    exact List.suffix_append rest part

theorem infix_entry_behind (part whole : List α) (entry : α) (same : part.length = whole.length)
    (ends : part.getLast? ≠ some entry) : part <:+: whole ++ [entry] ↔ part = whole := by
  constructor
  · intro inside
    obtain back | within := List.infix_concat_iff.mp inside
    · obtain rfl | ⟨front, rfl, -⟩ := List.suffix_concat_iff.mp back
      · exact (List.length_eq_zero_iff.mp same.symm).symm
      · simp at ends
    · exact within.eq_of_length same
  · rintro rfl
    exact (List.prefix_append part [entry]).isInfix

theorem infix_entry_before (part whole : List α) (entry : α) (same : part.length = whole.length)
    (begins : part.head? ≠ some entry) : part <:+: entry :: whole ↔ part = whole := by
  constructor
  · intro inside
    obtain front | within := List.infix_cons_iff.mp inside
    · obtain rfl | ⟨rest, rfl, -⟩ := List.prefix_cons_iff.mp front
      · exact (List.length_eq_zero_iff.mp same.symm).symm
      · simp at begins
    · exact within.eq_of_length same
  · rintro rfl
    exact (List.suffix_cons entry part).isInfix

end Places

section Texts
variable (before part after : List Char)

theorem lower_alone : lowerList part = lowerWithin [] [] part := by
  rw [lower_list_eq, lower_within_alone]

theorem starts_with_part_iff :
    lowerList part <+: lowerList (part ++ after) ↔
      ¬ (EndsOnSigma part ∧ meetsCased after = true) := by
  rw [lower_list_append, lower_alone, prefix_append_iff _ _ _ (lower_within_length _ _ _ _ part),
    eq_comm, lower_before_iff]

theorem ends_with_part_iff :
    lowerList part <:+ lowerList (before ++ part) ↔
      ¬ (OpensOnSigma part ∧ meetsCased before.reverse = true) := by
  rw [lower_list_append, lower_alone, suffix_append_iff _ _ _ (lower_within_length _ _ _ _ part),
    eq_comm, lower_behind_iff]

theorem contains_part (endsApart : ¬ (EndsOnSigma part ∧ meetsCased after = true))
    (opensApart : ¬ (OpensOnSigma part ∧ meetsCased before.reverse = true)) :
    lowerList part <:+: lowerList (before ++ part ++ after) := by
  have kept := lower_between part after before.reverse endsApart opensApart
  rw [lower_list_append, lower_within_append, lower_alone, List.append_nil, kept]
  exact ⟨_, _, rfl⟩

theorem some_other_letter (shown : Option Char) :
    ∃ letter, meetsCased [letter] = true ∧ letter ≠ 'Σ' ∧ lowerChar letter = [letter] ∧
      shown ≠ some letter := by
  by_cases taken : shown = some 'a'
  · exact ⟨'b', by decide +kernel, by decide, by decide, by simp [taken]⟩
  · exact ⟨'a', by decide +kernel, by decide, by decide, taken⟩

theorem contains_part_everywhere_iff :
    (∀ before after, lowerList part <:+: lowerList (before ++ part ++ after)) ↔
      ¬ EndsOnSigma part ∧ ¬ OpensOnSigma part := by
  constructor
  · intro everywhere
    constructor
    · intro ends
      obtain ⟨letter, cased, plain, low, other⟩ := some_other_letter (lowerList part).getLast?
      have inside := everywhere [] [letter]
      have shown : lowerList ([] ++ part ++ [letter]) = lowerWithin [letter] [] part ++ [letter] := by
        rw [List.nil_append, lower_list_append]
        simp [lowerWithin, lowerAt, plain, low]
      rw [shown, infix_entry_behind _ _ _ (by rw [lower_alone]; exact lower_within_length _ _ _ _ part)
        other, lower_alone, eq_comm, lower_before_iff] at inside
      exact inside ⟨ends, cased⟩
    · intro opens
      obtain ⟨letter, cased, plain, low, other⟩ := some_other_letter (lowerList part).head?
      have inside := everywhere [letter] []
      have shown : lowerList ([letter] ++ part ++ []) = letter :: lowerWithin [] [letter] part := by
        rw [List.append_nil, lower_list_append]
        simp [lowerWithin, lowerAt, plain, low]
      rw [shown, infix_entry_before _ _ _ (by rw [lower_alone]; exact lower_within_length _ _ _ _ part)
        other, lower_alone, eq_comm, lower_behind_iff] at inside
      exact inside ⟨opens, cased⟩
  · rintro ⟨ends, opens⟩ before after
    exact contains_part before part after (fun both => ends both.1) fun both => opens both.1

end Texts

/-- A text that has the value at its beginning or at its end matches just if the value does not end or
begin within a word on a capital sigma there. A text that has it anywhere matches if it does neither;
and only a value that neither ends nor begins on such a sigma matches wherever it stands. -/
theorem literal_part_matches_iff (matcher : Matcher) (value : String) :
    (∀ after, evaluate matcher (value ++ after) value .startsWith = .matched ↔
      ¬ (EndsOnSigma value.toList ∧ meetsCased after.toList = true)) ∧
    (∀ before, evaluate matcher (before ++ value) value .endsWith = .matched ↔
      ¬ (OpensOnSigma value.toList ∧ meetsCased before.toList.reverse = true)) ∧
    (∀ before after, ¬ (EndsOnSigma value.toList ∧ meetsCased after.toList = true) →
      ¬ (OpensOnSigma value.toList ∧ meetsCased before.toList.reverse = true) →
      evaluate matcher (before ++ value ++ after) value .contains = .matched) ∧
    ((∀ before after, evaluate matcher (before ++ value ++ after) value .contains = .matched) ↔
      ¬ EndsOnSigma value.toList ∧ ¬ OpensOnSigma value.toList) := by
  simp only [evaluate, of_bool_matched, String.toList_append, List.isPrefixOf_iff_prefix,
    List.isSuffixOf_iff_suffix, occurs_in_iff]
  refine ⟨fun after => starts_with_part_iff _ _, fun before => ends_with_part_iff _ _,
    fun before after => contains_part _ _ _, ?_⟩
  rw [← contains_part_everywhere_iff]
  constructor
  · intro everywhere before after
    simpa using everywhere (String.ofList before) (String.ofList after)
  · exact fun everywhere before after => everywhere before.toList after.toList

/-- A value that ends on a capital sigma is not found before a letter, nor one that is a capital sigma
behind a letter. -/
theorem literal_part_missed :
    evaluate {} ("" ++ "ΑΣ" ++ "Α") "ΑΣ" .contains = .notMatched ∧
      evaluate {} ("ΑΣ" ++ "Α") "ΑΣ" .startsWith = .notMatched ∧
      evaluate {} ("Α" ++ "Σ") "Σ" .endsWith = .notMatched := by decide +kernel

theorem whole_word_contained :
    ¬ (EndsOnSigma "ΟΔΟΣ".toList ∧ meetsCased " 5".toList = true) ∧
      ¬ (OpensOnSigma "ΟΔΟΣ".toList ∧ meetsCased "Η ".toList.reverse = true) ∧
      evaluate {} ("Η " ++ "ΟΔΟΣ" ++ " 5") "ΟΔΟΣ" .contains = .matched := by
  have number : meetsCased " 5".toList = false := by decide +kernel
  have space : meetsCased "Η ".toList.reverse = false := by decide +kernel
  have endsApart : ¬ (EndsOnSigma "ΟΔΟΣ".toList ∧ meetsCased " 5".toList = true) := by
    rintro ⟨-, goesOn⟩
    exact absurd (number.symm.trans goesOn) Bool.false_ne_true
  have opensApart : ¬ (OpensOnSigma "ΟΔΟΣ".toList ∧ meetsCased "Η ".toList.reverse = true) := by
    rintro ⟨-, goesOn⟩
    exact absurd (space.symm.trans goesOn) Bool.false_ne_true
  obtain ⟨-, -, contained, -⟩ := literal_part_matches_iff {} "ΟΔΟΣ"
  exact ⟨endsApart, opensApart, contained "Η " " 5" endsApart opensApart⟩

end TicketRouting.Matching
