import TicketRouting.Matching.Predicate
import TicketRouting.Proofs.Matching.LiteralParts
import TicketRouting.Proofs.Text.LowerTwice
/-!
Letter case in comparisons. A text and its lower case compare alike, whichever side of the comparison
they are on; patterns, in which an escaped letter says another thing in upper case, are left out.
-/
namespace TicketRouting.Matching
open TicketRouting.Text

section Sides
variable (matcher : Matcher) (field value : String)

theorem same_ignoring_lower (left right : String) :
    sameIgnoringCase (lower left) right = sameIgnoringCase left right ∧
      sameIgnoringCase left (lower right) = sameIgnoringCase left right := by
  simp only [sameIgnoringCase, lower_twice, and_self]

theorem lower_list_of_lower (text : String) :
    lowerList (lower text).toList = lowerList text.toList := by
  rw [lower, String.toList_ofList, lower_list_twice]

theorem any_alternative_lower :
    (splitItems (lower value)).any (sameIgnoringCase field) =
      (splitItems value).any (sameIgnoringCase field) := by
  have same : sameIgnoringCase field ∘ lower = sameIgnoringCase field :=
    funext fun alternative => (same_ignoring_lower field alternative).2
  rw [split_items_lower, List.any_map, same]

theorem evaluate_lower_field {operator : MatchOperator} (plain : operator ≠ .regex) :
    evaluate matcher (lower field) value operator = evaluate matcher field value operator := by
  cases operator with
  | regex => exact absurd rfl plain
  | equals => exact congrArg Outcome.ofBool (same_ignoring_lower field value).1
  | isIn =>
    have same : sameIgnoringCase (lower field) = sameIgnoringCase field :=
      funext fun alternative => (same_ignoring_lower field alternative).1
    simp only [evaluate, same]
  | contains | startsWith | endsWith => simp only [evaluate, lower_list_of_lower]

theorem evaluate_lower_value {operator : MatchOperator} (plain : operator ≠ .regex) :
    evaluate matcher field (lower value) operator = evaluate matcher field value operator := by
  cases operator with
  | regex => exact absurd rfl plain
  | equals => exact congrArg Outcome.ofBool (same_ignoring_lower field value).2
  | isIn => exact congrArg Outcome.ofBool (any_alternative_lower field value)
  | contains | startsWith | endsWith => simp only [evaluate, lower_list_of_lower]

theorem is_in_matched_iff : evaluate matcher field value .isIn = .matched ↔
    ∃ alternative ∈ splitItems value, lower field = lower alternative := by
  simp [evaluate, sameIgnoringCase]

end Sides

/-- A comparison comes out alike for a text and for its lower case, on either side. So a list in lower case
accepts what one of the alternatives of the list does, each compared alone. -/
theorem case_never_matters (matcher : Matcher) (field value : String) (operator : MatchOperator)
    (plain : operator ≠ .regex) :
    evaluate matcher (lower field) value operator = evaluate matcher field value operator ∧
      evaluate matcher field (lower value) operator = evaluate matcher field value operator ∧
      (evaluate matcher field (lower value) .isIn = .matched ↔
        ∃ alternative ∈ splitItems value, lower field = lower alternative) ∧
      splitItems (lower value) = (splitItems value).map lower := by
  refine ⟨evaluate_lower_field matcher field value plain, evaluate_lower_value matcher field value plain,
    ?_, split_items_lower value⟩
  rw [evaluate_lower_value matcher field value (by decide)]
  exact is_in_matched_iff matcher field value

section Sigmas

/-- The last letter of the word has another lower case than the same letter in its midst, and the list has
the word between white space. -/
theorem word_in_list_any_case :
    let word := "ΟΣΟΣ"
    let list := "İ,\u2003ΟΣΟΣ ,"
    MatchOperator.isIn ≠ .regex ∧ lower word = "οσος" ∧
      evaluate {} (lower word) list .isIn = .matched ∧
      evaluate {} word (lower list) .isIn = .matched := by
  intro word list
  have plain : MatchOperator.isIn ≠ .regex := by decide
  obtain ⟨sameField, sameValue, accepts, -⟩ := case_never_matters {} word list .isIn plain
  have matched : evaluate {} word (lower list) .isIn = .matched :=
    accepts.mpr ⟨word, by decide +kernel, rfl⟩
  exact ⟨plain, by decide +kernel, sameField.trans (sameValue.symm.trans matched), matched⟩

end Sigmas

end TicketRouting.Matching
