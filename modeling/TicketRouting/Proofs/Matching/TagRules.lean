import TicketRouting.Matching.Predicate
/-!
Rules about tags. Such a rule looks at each tag as at any other text, although three of the operators
prepare the value of the rule once for all tags; so what it says of a set is what it says of the tags
in it.
-/
namespace TicketRouting

namespace TagSet

def union (first second : TagSet) : TagSet := first.insertAll second.tags

theorem mem_insert_all (added : List String) (set : TagSet) (tag : String) :
    tag ∈ (set.insertAll added).tags ↔ tag ∈ set.tags ∨ tag ∈ added := by
  induction added generalizing set with
  | nil => simp [insertAll]
  | cons first rest ih =>
    have step : set.insertAll (first :: rest) = (set.insert first).insertAll rest := rfl
    rw [step, ih, mem_insert, List.mem_cons, or_assoc, or_left_comm]

theorem mem_union (first second : TagSet) (tag : String) :
    tag ∈ (first.union second).tags ↔ tag ∈ first.tags ∨ tag ∈ second.tags :=
  mem_insert_all second.tags first tag

end TagSet

namespace Matching

section Tags
variable (matcher : Matcher) (value : String) (operator : MatchOperator)

theorem holds_of_bool {field : String} {answer : Bool}
    (gives : evaluate matcher field value operator = .ofBool answer) :
    holds matcher field value operator = answer := by
  rw [holds, gives]
  cases answer <;> rfl

theorem any_tag_eq (tags : TagSet) : anyTagHolds matcher tags value operator =
    tags.tags.any fun tag => holds matcher tag value operator := by
  cases operator with
  | equals | contains | isIn =>
    rw [anyTagHolds]
    exact congrArg tags.tags.any (funext fun tag => (holds_of_bool matcher value _ rfl).symm)
  | startsWith | endsWith | regex => rfl

theorem any_tag_iff (tags : TagSet) : anyTagHolds matcher tags value operator = true ↔
    ∃ tag ∈ tags.tags, holds matcher tag value operator = true := by
  rw [any_tag_eq, List.any_eq_true]

theorem any_tag_mono {small large : TagSet} (within : ∀ tag ∈ small.tags, tag ∈ large.tags)
    (found : anyTagHolds matcher small value operator = true) :
    anyTagHolds matcher large value operator = true := by
  obtain ⟨tag, present, compares⟩ := (any_tag_iff matcher value operator small).mp found
  exact (any_tag_iff matcher value operator large).mpr ⟨tag, within tag present, compares⟩

theorem any_tag_union (first second : TagSet) :
    anyTagHolds matcher (first.union second) value operator =
      (anyTagHolds matcher first value operator || anyTagHolds matcher second value operator) := by
  rw [Bool.eq_iff_iff, Bool.or_eq_true]
  simp only [any_tag_iff, TagSet.mem_union, or_and_right, exists_or]

end Tags

/-- A rule about tags matches a set just if one of the tags compares with its value as any other text
does. So no tags match no rule, more tags match no fewer rules, and two sets together match just the
rules that one of them does. -/
theorem tag_rule_by_tags (matcher : Matcher) (value : String) (operator : MatchOperator) :
    (∀ tags, anyTagHolds matcher tags value operator = true ↔
      ∃ tag ∈ tags.tags, holds matcher tag value operator = true) ∧
    anyTagHolds matcher TagSet.empty value operator = false ∧
    (∀ small large : TagSet, (∀ tag ∈ small.tags, tag ∈ large.tags) →
      anyTagHolds matcher small value operator = true →
      anyTagHolds matcher large value operator = true) ∧
    (∀ first second, anyTagHolds matcher (first.union second) value operator =
      (anyTagHolds matcher first value operator || anyTagHolds matcher second value operator)) :=
  ⟨any_tag_iff matcher value operator, by rw [any_tag_eq]; rfl,
    fun _ _ => any_tag_mono matcher value operator, any_tag_union matcher value operator⟩

section Lists

theorem listed_tag_matches_beside_others :
    let small := TagSet.ofList ["Refund"]
    let large := TagSet.ofList ["", "Refund", "Refunds"]
    (∀ tag ∈ small.tags, tag ∈ large.tags) ∧
      anyTagHolds {} small " , REFUND,vip" .isIn = true ∧
      anyTagHolds {} large " , REFUND,vip" .isIn = true ∧
      anyTagHolds {} (TagSet.ofList ["", "Refunds"]) " , REFUND,vip" .isIn = false := by
  intro small large
  have within : ∀ tag ∈ small.tags, tag ∈ large.tags := by decide +kernel
  have alone : anyTagHolds {} small " , REFUND,vip" .isIn = true := by decide +kernel
  obtain ⟨-, -, mono, -⟩ := tag_rule_by_tags {} " , REFUND,vip" .isIn
  exact ⟨within, alone, mono small large within alone, by decide +kernel⟩

end Lists

end Matching

end TicketRouting
