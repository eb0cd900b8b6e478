import TicketRouting.Routing.Decision
/-!
The decision on a ticket, said without sorting and searching. A rule leads if it applies to the
ticket and stands before all others that apply, by its place in the order of its company and then by
its place in the list. `Decided` says which answer follows from the answers of the lookup; the main
statement is that `route` gives that answer and no other.
-/
namespace TicketRouting

section Foremost
variable {α : Type} (key : α → Int64) (admits : α → Bool)

def Foremost (entries : List α) (place : Nat) (entry : α) : Prop :=
  entries[place]? = some entry ∧ admits entry = true ∧
    ∀ (otherPlace : Nat) (other : α), entries[otherPlace]? = some other → admits other = true →
      key entry < key other ∨ (key entry = key other ∧ place ≤ otherPlace)

/-- One pass from the end of the list. An entry of equal key gives way to those before it. -/
def earliest : List α → Option α
  | [] => none
  | entry :: rest =>
    match earliest rest with
    | none => if admits entry then some entry else none
    | some other => if admits entry && decide (key entry ≤ key other) then some entry else some other

theorem earliest_none (entries : List α) :
    earliest key admits entries = none ↔ ∀ entry ∈ entries, admits entry = false := by
  induction entries with
  | nil => simp [earliest]
  | cons first rest ih =>
    cases later : earliest key admits rest with
    | none =>
      have absent := ih.mp later
      by_cases hit : admits first = true
      · simp [earliest, later, hit]
      · simpa [earliest, later, hit] using absent
    | some other =>
      have present : ¬ ∀ entry ∈ rest, admits entry = false := by
        rw [← ih, later]
        simp
      constructor
      · intro gone
        simp only [earliest, later] at gone
        split at gone <;> simp at gone
      · intro absent
        exact absurd (fun entry member => absent entry (List.mem_cons_of_mem first member)) present

theorem foremost_bound (entries : List α) (place : Nat) (entry other : α)
    (foremost : Foremost key admits entries place entry) (member : other ∈ entries)
    (hit : admits other = true) : key entry ≤ key other := by
  obtain ⟨otherPlace, stands⟩ := List.mem_iff_getElem?.mp member
  rcases foremost.2.2 otherPlace other stands hit with less | ⟨same, _⟩
  · exact Int64.le_of_lt less
  · exact same ▸ Int64.le_refl _

theorem foremost_head (first : α) (rest : List α) (hit : admits first = true)
    (least : ∀ other ∈ rest, admits other = true → key first ≤ key other) :
    Foremost key admits (first :: rest) 0 first := by
  refine ⟨rfl, hit, ?_⟩
  intro otherPlace other stands otherHit
  have bound : key first ≤ key other := by
    rcases List.mem_cons.mp (List.mem_of_getElem? stands) with same | member
    · exact same ▸ Int64.le_refl _
    · exact least other member otherHit
  rcases Int64.lt_or_eq_of_le bound with less | same
  · exact Or.inl less
  · exact Or.inr ⟨same, Nat.zero_le otherPlace⟩

theorem foremost_tail (first : α) (rest : List α) (place : Nat) (entry : α)
    (foremost : Foremost key admits rest place entry)
    (greater : admits first = true → key entry < key first) :
    Foremost key admits (first :: rest) (place + 1) entry := by
  refine ⟨foremost.1, foremost.2.1, ?_⟩
  intro otherPlace other stands hit
  cases otherPlace with
  | zero =>
    simp only [List.getElem?_cons_zero, Option.some.injEq] at stands
    subst stands
    exact Or.inl (greater hit)
  | succ otherPlace =>
    rcases foremost.2.2 otherPlace other stands hit with less | ⟨same, order⟩
    · exact Or.inl less
    · exact Or.inr ⟨same, Nat.succ_le_succ order⟩

theorem earliest_foremost (entries : List α) (entry : α)
    (found : earliest key admits entries = some entry) :
    ∃ place, Foremost key admits entries place entry := by
  induction entries generalizing entry with
  | nil => simp [earliest] at found
  | cons first rest ih =>
    cases later : earliest key admits rest with
    | none =>
      have absent := (earliest_none key admits rest).mp later
      by_cases hit : admits first = true
      · simp only [earliest, later, hit, ↓reduceIte, Option.some.injEq] at found
        subst found
        refine ⟨0, foremost_head key admits first rest hit ?_⟩
        intro other member otherHit
        rw [absent other member] at otherHit
        contradiction
      · simp [earliest, later, hit] at found
    | some least =>
      obtain ⟨place, foremost⟩ := ih least later
      by_cases wins : admits first = true ∧ key first ≤ key least
      · simp only [earliest, later, wins, decide_true, Bool.and_self, ↓reduceIte,
          Option.some.injEq] at found
        subst found
        refine ⟨0, foremost_head key admits first rest wins.1 ?_⟩
        intro other member hit
        exact Int64.le_trans wins.2
          (foremost_bound key admits rest place least other foremost member hit)
      · have loses : (admits first && decide (key first ≤ key least)) = false := by
          simpa using wins
        simp only [earliest, later, loses, Bool.false_eq_true, ↓reduceIte,
          Option.some.injEq] at found
        subst found
        refine ⟨place + 1, foremost_tail key admits first rest place least foremost ?_⟩
        intro hit
        exact Int64.not_le.mp fun bound => wins ⟨hit, bound⟩

theorem foremost_unique (entries : List α) {place otherPlace : Nat} {entry other : α}
    (first : Foremost key admits entries place entry)
    (second : Foremost key admits entries otherPlace other) :
    place = otherPlace ∧ entry = other := by
  have samePlace : place = otherPlace := by
    rcases first.2.2 otherPlace other second.1 second.2.1 with less | ⟨same, order⟩ <;>
      rcases second.2.2 place entry first.1 first.2.1 with greater | ⟨otherSame, reverse⟩
    · exact (Int64.lt_irrefl (Int64.lt_trans less greater)).elim
    · exact (Int64.lt_irrefl (otherSame ▸ less)).elim
    · exact (Int64.lt_irrefl (same ▸ greater)).elim
    · exact Nat.le_antisymm order reverse
  subst samePlace
  exact ⟨rfl, Option.some.inj (first.1.symm.trans second.1)⟩

theorem earliest_eq_some_iff (entries : List α) (entry : α) :
    earliest key admits entries = some entry ↔
      ∃ place, Foremost key admits entries place entry := by
  constructor
  · exact earliest_foremost key admits entries entry
  · rintro ⟨place, foremost⟩
    cases found : earliest key admits entries with
    | none =>
      have absent := (earliest_none key admits entries).mp found entry
        (List.mem_of_getElem? foremost.1)
      exact absurd foremost.2.1 (by simp [absent])
    | some other =>
      obtain ⟨otherPlace, otherForemost⟩ := earliest_foremost key admits entries other found
      rw [(foremost_unique key admits entries foremost otherForemost).2]

theorem earliest_filter (selected : α → Bool) (entries : List α) :
    earliest key admits (entries.filter selected) =
      earliest key (fun entry => selected entry && admits entry) entries := by
  induction entries with
  | nil => rfl
  | cons first rest ih =>
    by_cases hit : selected first = true
    · simp [earliest, hit, ih]
    · rw [List.filter_cons_of_neg hit, ih]
      simp only [earliest, hit, Bool.false_and, Bool.false_eq_true, ↓reduceIte]
      split <;> simp_all

-- What stands before the new head in the sorted list is of lesser key, what stands behind it is
-- not; so the head wins against exactly the answers that come from behind it.
theorem find_sorted (entries : List α) :
    (entries.mergeSort fun left right => decide (key left ≤ key right)).find? admits =
      earliest key admits entries := by
  have trans : ∀ a b c : α, decide (key a ≤ key b) = true → decide (key b ≤ key c) = true →
      decide (key a ≤ key c) = true := by
    intro a b c first second
    exact decide_eq_true
      (Int64.le_trans (of_decide_eq_true first) (of_decide_eq_true second))
  have total : ∀ a b : α, (decide (key a ≤ key b) || decide (key b ≤ key a)) = true := by
    intro a b
    simpa using Int64.le_total (key a) (key b)
  induction entries with
  | nil => simp [earliest]
  | cons first rest ih =>
    obtain ⟨before, behind, whole, tail, lesser⟩ := List.mergeSort_cons trans total first rest
    have ordered := List.pairwise_mergeSort trans total (first :: rest)
    rw [whole, List.pairwise_append, List.pairwise_cons] at ordered
    rw [tail, List.find?_append] at ih
    rw [whole, List.find?_append, List.find?_cons]
    cases front : before.find? admits with
    | some other =>
      rw [front, Option.some_or] at ih
      have greater : decide (key first ≤ key other) = false := by
        simpa using lesser other (List.mem_of_find?_eq_some front)
      simp [earliest, ← ih, greater]
    | none =>
      rw [front, Option.none_or] at ih
      cases back : behind.find? admits with
      | none =>
        rw [back] at ih
        cases hit : admits first <;> simp [earliest, ← ih, hit]
      | some other =>
        rw [back] at ih
        have bound := ordered.2.1.1 other (List.mem_of_find?_eq_some back)
        cases hit : admits first <;> simp [earliest, ← ih, hit, bound]

end Foremost

@[simp] theorem map_error_ok {ε δ α : Type} (change : ε → δ) (value : α) :
    (Except.ok value : Except ε α).mapError change = .ok value := rfl

@[simp] theorem map_error_error {ε δ α : Type} (change : ε → δ) (fault : ε) :
    (Except.error fault : Except ε α).mapError change = .error (change fault) := rfl

section Answer
variable (matcher : Matcher) (context : RoutingContext)

def RoutingRule.AppliesTo (rule : RoutingRule) : Prop :=
  rule.isActive = true ∧ rule.isDeleted = false ∧ rule.companyId = context.companyId ∧
    Matching.ruleMatches matcher rule context = true

/-- The rule stands at a place before all others that apply. -/
def Leads (rules : List RoutingRule) (rule : RoutingRule) : Prop :=
  ∃ place, rules[place]? = some rule ∧ rule.AppliesTo matcher context ∧
    ∀ (otherPlace : Nat) (other : RoutingRule), rules[otherPlace]? = some other →
      other.AppliesTo matcher context →
        rule.sortOrder < other.sortOrder ∨
          (rule.sortOrder = other.sortOrder ∧ place ≤ otherPlace)

/-- The answer to a ticket that follows from the answers of the lookup: to the question for rules
first, then to the question for the default queue. -/
inductive Decided : Except RoutingError (List RoutingRule) → Except RoutingError (Option Queue) →
    Except RoutingError RoutingResult → Prop where
  | rulesUnavailable (reason : String) (queues) :
    Decided (.error (.lookupUnavailable reason)) queues (.error (.lookupUnavailable reason))
  | rulesFailed (fault : RoutingError) (queues)
    (other : ∀ reason, fault ≠ .lookupUnavailable reason) :
    Decided (.error fault) queues
      (.error (.lookupUnavailable ("list_rules failed: " ++ fault.message)))
  | byRule (rules : List RoutingRule) (rule : RoutingRule) (queues)
    (leads : Leads matcher context rules rule) :
    Decided (.ok rules) queues (.ok {
      queue := some rule.queue
      autoAssignAgentId := rule.autoAssignAgentId
      priorityOverride := rule.priorityOverride
      tagsToAdd := match rule.tagsToAdd with
        | some tags => Text.splitItems tags
        | none => []
      matchedRule := some ⟨rule.id, rule.name⟩
      isDefaultFallback := false })
  | queuesUnavailable (rules : List RoutingRule) (reason : String)
    (unmatched : ∀ rule ∈ rules, ¬ rule.AppliesTo matcher context) :
    Decided (.ok rules) (.error (.lookupUnavailable reason)) (.error (.lookupUnavailable reason))
  | queuesFailed (rules : List RoutingRule) (fault : RoutingError)
    (unmatched : ∀ rule ∈ rules, ¬ rule.AppliesTo matcher context)
    (other : ∀ reason, fault ≠ .lookupUnavailable reason) :
    Decided (.ok rules) (.error fault)
      (.error (.lookupUnavailable ("find_default_queue failed: " ++ fault.message)))
  | byDefault (rules : List RoutingRule) (queue : Queue)
    (unmatched : ∀ rule ∈ rules, ¬ rule.AppliesTo matcher context)
    (own : queue.companyId = context.companyId) (default : queue.isDefault = true)
    (active : queue.isActive = true) (kept : queue.isDeleted = false) :
    Decided (.ok rules) (.ok (some queue)) (.ok {
      queue := some ⟨queue.id, queue.name⟩
      autoAssignAgentId := none
      priorityOverride := none
      tagsToAdd := []
      matchedRule := none
      isDefaultFallback := true })
  | unrouted (rules : List RoutingRule) (found : Option Queue)
    (unmatched : ∀ rule ∈ rules, ¬ rule.AppliesTo matcher context)
    (unusable : ∀ queue, found = some queue → ¬ (queue.companyId = context.companyId ∧
      queue.isDefault = true ∧ queue.isActive = true ∧ queue.isDeleted = false)) :
    Decided (.ok rules) (.ok found) (.ok {
      queue := none
      autoAssignAgentId := none
      priorityOverride := none
      tagsToAdd := []
      matchedRule := none
      isDefaultFallback := false })

theorem applies_iff (rule : RoutingRule) :
    (rule.isEligibleFor context.companyId && Matching.ruleMatches matcher rule context) = true ↔
      rule.AppliesTo matcher context := by
  simp [RoutingRule.isEligibleFor, RoutingRule.AppliesTo, and_assoc]

theorem first_match_earliest (rules : List RoutingRule) :
    firstMatch matcher context rules = earliest (·.sortOrder)
      (fun rule => rule.isEligibleFor context.companyId &&
        Matching.ruleMatches matcher rule context) rules := by
  unfold firstMatch rulesInOrder
  rw [find_sorted, earliest_filter]

theorem first_match_leads (rules : List RoutingRule) (rule : RoutingRule) :
    firstMatch matcher context rules = some rule ↔ Leads matcher context rules rule := by
  rw [first_match_earliest, earliest_eq_some_iff]
  simp only [Foremost, applies_iff, Leads]

theorem first_match_absent (rules : List RoutingRule) :
    firstMatch matcher context rules = none ↔ ∀ rule ∈ rules, ¬ rule.AppliesTo matcher context := by
  rw [first_match_earliest, earliest_none]
  simp only [← applies_iff, Bool.not_eq_true]

theorem usable_default_iff (queue : Queue) :
    (queue.companyId == context.companyId && queue.isUsableDefault) = true ↔
      queue.companyId = context.companyId ∧ queue.isDefault = true ∧ queue.isActive = true ∧
        queue.isDeleted = false := by
  simp [Queue.isUsableDefault, and_assoc]

theorem of_rule_eq (rule : RoutingRule) : RoutingResult.ofRule rule = {
    queue := some rule.queue
    autoAssignAgentId := rule.autoAssignAgentId
    priorityOverride := rule.priorityOverride
    tagsToAdd := match rule.tagsToAdd with
      | some tags => Text.splitItems tags
      | none => []
    matchedRule := some ⟨rule.id, rule.name⟩
    isDefaultFallback := false } := by
  unfold RoutingResult.ofRule RoutingRule.toRef
  cases rule.tagsToAdd <;> rfl

variable (lookup : Lookup)

theorem route_rules_error (fault : RoutingError)
    (failed : lookup.listRules context.companyId = .error fault) :
    route matcher lookup context = .error (fault.asUnavailable "list_rules") := by
  simp [route, failed, bind, Except.bind]

theorem route_matched (rules : List RoutingRule) (rule : RoutingRule)
    (listed : lookup.listRules context.companyId = .ok rules)
    (matched : firstMatch matcher context rules = some rule) :
    route matcher lookup context = .ok (.ofRule rule) := by
  simp [route, listed, matched, bind, Except.bind, pure, Except.pure]

theorem route_queues_error (rules : List RoutingRule) (fault : RoutingError)
    (listed : lookup.listRules context.companyId = .ok rules)
    (unmatched : firstMatch matcher context rules = none)
    (failed : lookup.findDefaultQueue context.companyId = .error fault) :
    route matcher lookup context = .error (fault.asUnavailable "find_default_queue") := by
  simp [route, listed, unmatched, failed, bind, Except.bind]

theorem route_unmatched (rules : List RoutingRule) (found : Option Queue)
    (listed : lookup.listRules context.companyId = .ok rules)
    (unmatched : firstMatch matcher context rules = none)
    (answered : lookup.findDefaultQueue context.companyId = .ok found) :
    route matcher lookup context = .ok (match found.filter fun queue =>
        queue.companyId == context.companyId && queue.isUsableDefault with
      | some queue => .ofDefaultQueue queue
      | none => {}) := by
  simp only [route, listed, unmatched, answered, map_error_ok, bind, Except.bind]
  cases found.filter fun queue => queue.companyId == context.companyId && queue.isUsableDefault <;>
    rfl

theorem decided_route : Decided matcher context (lookup.listRules context.companyId)
    (lookup.findDefaultQueue context.companyId) (route matcher lookup context) := by
  cases listed : lookup.listRules context.companyId with
  | error fault =>
    rw [route_rules_error matcher context lookup fault listed]
    cases fault with
    | lookupUnavailable reason => exact .rulesUnavailable reason _
    | _ => exact .rulesFailed _ _ (by simp)
  | ok rules =>
    cases matched : firstMatch matcher context rules with
    | some rule =>
      rw [route_matched matcher context lookup rules rule listed matched, of_rule_eq]
      exact .byRule rules rule _ ((first_match_leads matcher context rules rule).mp matched)
    | none =>
      have unmatched := (first_match_absent matcher context rules).mp matched
      cases answered : lookup.findDefaultQueue context.companyId with
      | error fault =>
        rw [route_queues_error matcher context lookup rules fault listed matched answered]
        cases fault with
        | lookupUnavailable reason => exact .queuesUnavailable rules reason unmatched
        | _ => exact .queuesFailed rules _ unmatched (by simp)
      | ok found =>
        rw [route_unmatched matcher context lookup rules found listed matched answered]
        cases usable : found.filter fun queue =>
            queue.companyId == context.companyId && queue.isUsableDefault with
        | some queue =>
          obtain ⟨same, passes⟩ := Option.filter_eq_some_iff.mp usable
          obtain ⟨own, default, active, kept⟩ := (usable_default_iff context queue).mp passes
          subst same
          exact .byDefault rules queue unmatched own default active kept
        | none =>
          refine .unrouted rules found unmatched ?_
          intro queue same fits
          have fails := Option.filter_eq_none_iff.mp usable queue same
          exact fails ((usable_default_iff context queue).mpr fits)

theorem matched_rule_listed (result : RoutingResult) (id : RuleId)
    (decided : route matcher lookup context = .ok result)
    (matched : result.matchedRuleId = some id) :
    ∃ rules rule, lookup.listRules context.companyId = .ok rules ∧ rule ∈ rules ∧ rule.id = id := by
  have answer := decided_route matcher context lookup
  rw [decided] at answer
  generalize listed : lookup.listRules context.companyId = rulesAnswer at answer ⊢
  generalize lookup.findDefaultQueue context.companyId = queueAnswer at answer
  cases answer with
  | byRule rules rule _ leads =>
    obtain ⟨place, stands, -, -⟩ := leads
    exact ⟨rules, rule, rfl, List.mem_of_getElem? stands, Option.some.inj matched⟩
  | byDefault | unrouted => cases matched

theorem fallback_queue_found (result : RoutingResult)
    (decided : route matcher lookup context = .ok result)
    (fallback : result.isDefaultFallback = true) :
    ∃ queue, lookup.findDefaultQueue context.companyId = .ok (some queue) ∧
      result.queue = some queue.toRef := by
  have answer := decided_route matcher context lookup
  rw [decided] at answer
  generalize lookup.listRules context.companyId = rulesAnswer at answer
  generalize asked : lookup.findDefaultQueue context.companyId = queueAnswer at answer ⊢
  cases answer with
  | byDefault rules queue => exact ⟨queue, rfl, rfl⟩
  | byRule | unrouted => cases fallback

theorem as_unavailable_other (operation : String) (fault : RoutingError)
    (other : ∀ reason, fault ≠ .lookupUnavailable reason) :
    fault.asUnavailable operation =
      .lookupUnavailable (operation ++ " failed: " ++ fault.message) := by
  cases fault with
  | lookupUnavailable reason => exact absurd rfl (other reason)
  | _ => rfl

theorem route_of_decided {rulesAnswer : Except RoutingError (List RoutingRule)}
    {queueAnswer : Except RoutingError (Option Queue)} {answer : Except RoutingError RoutingResult}
    (listed : lookup.listRules context.companyId = rulesAnswer)
    (asked : lookup.findDefaultQueue context.companyId = queueAnswer)
    (decided : Decided matcher context rulesAnswer queueAnswer answer) :
    route matcher lookup context = answer := by
  cases decided with
  | rulesUnavailable reason => exact route_rules_error matcher context lookup _ listed
  | rulesFailed fault _ other =>
    rw [route_rules_error matcher context lookup fault listed, as_unavailable_other _ fault other]
    rfl
  | byRule rules rule _ leads =>
    have matched := (first_match_leads matcher context rules rule).mpr leads
    rw [route_matched matcher context lookup rules rule listed matched, of_rule_eq]
  | queuesUnavailable rules reason unmatched =>
    have matched := (first_match_absent matcher context rules).mpr unmatched
    exact route_queues_error matcher context lookup rules _ listed matched asked
  | queuesFailed rules fault unmatched other =>
    have matched := (first_match_absent matcher context rules).mpr unmatched
    rw [route_queues_error matcher context lookup rules fault listed matched asked,
      as_unavailable_other _ fault other]
    rfl
  | byDefault rules queue unmatched own default active kept =>
    have matched := (first_match_absent matcher context rules).mpr unmatched
    have usable := (usable_default_iff context queue).mpr ⟨own, default, active, kept⟩
    rw [route_unmatched matcher context lookup rules _ listed matched asked]
    simp only [Option.filter_some, usable, ↓reduceIte]
    rfl
  | unrouted rules found unmatched unusable =>
    have matched := (first_match_absent matcher context rules).mpr unmatched
    have unusableDefault : found.filter (fun queue =>
        queue.companyId == context.companyId && queue.isUsableDefault) = none := by
      rw [Option.filter_eq_none_iff]
      intro queue same passes
      exact unusable queue same ((usable_default_iff context queue).mp passes)
    rw [route_unmatched matcher context lookup rules found listed matched asked, unusableDefault]

/-- The decision is the one answer that follows from what the lookup answers. -/
theorem route_eq_iff_decided (answer : Except RoutingError RoutingResult) :
    route matcher lookup context = answer ↔
      Decided matcher context (lookup.listRules context.companyId)
        (lookup.findDefaultQueue context.companyId) answer := by
  constructor
  · intro same
    exact same ▸ decided_route matcher context lookup
  · exact route_of_decided matcher context lookup rfl rfl

end Answer
end TicketRouting
