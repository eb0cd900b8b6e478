import TicketRouting.Proofs.Calendar.TimeLine
import TicketRouting.Proofs.Routing.KeyedHistory
/-!
What rules and queues held in memory answer after any calls. What is held follows the history of the
calls; a time in which the lookup was unavailable leaves nothing behind.
-/
namespace TicketRouting

inductive MemoryCall where
  | upsertRule (rule : RoutingRule)
  | removeRule (id : RuleId)
  | upsertQueue (queue : Queue)
  | removeQueue (id : QueueId)
  | setUnavailable (unavailable : Bool)

namespace MemoryCall

def perform (lookup : MemoryLookup) : MemoryCall → MemoryLookup
  | upsertRule rule => lookup.upsertRule rule
  | removeRule id => (lookup.removeRule id).2
  | upsertQueue queue => lookup.upsertQueue queue
  | removeQueue id => (lookup.removeQueue id).2
  | setUnavailable unavailable => lookup.setUnavailable unavailable

def ruleChange? : MemoryCall → Option (KeyedChange RoutingRule RuleId)
  | upsertRule rule => some (.put rule)
  | removeRule id => some (.drop id)
  | _ => none

def queueChange? : MemoryCall → Option (KeyedChange Queue QueueId)
  | upsertQueue queue => some (.put queue)
  | removeQueue id => some (.drop id)
  | _ => none

def unavailable? : MemoryCall → Option Bool
  | setUnavailable unavailable => some unavailable
  | _ => none

/-- The rule that is held after the calls, and since which of the changes of rules. -/
def heldRule? (calls : List MemoryCall) (id : RuleId) : Option (HeldEntry RoutingRule) :=
  heldAfter? (·.id) id (calls.filterMap ruleChange?) 0 none

def heldQueue? (calls : List MemoryCall) (id : QueueId) : Option (HeldEntry Queue) :=
  heldAfter? (·.id) id (calls.filterMap queueChange?) 0 none

end MemoryCall

def MemoryLookup.after (calls : List MemoryCall) : MemoryLookup :=
  calls.foldl MemoryCall.perform {}

/-- The queue stands before another as a default: it was made earlier, or at the same time and has the
lesser identifier. -/
def Queue.MadeBefore (left right : Queue) : Prop :=
  left.createdAt.isBefore right.createdAt = true ∨
    left.createdAt = right.createdAt ∧ left.id.text < right.id.text

/-- The earliest default that tickets of the company may go to, if there is any. -/
def IsDefaultAmong (queues : List Queue) (company : CompanyId) : Option Queue → Prop
  | none => ∀ queue ∈ queues, queue.companyId = company → queue.isUsableDefault = false
  | some found => found ∈ queues ∧ found.companyId = company ∧ found.isUsableDefault = true ∧
    ∀ other ∈ queues, other.companyId = company → other.isUsableDefault = true →
      other ≠ found → found.MadeBefore other

/-- The rules that may be tried on tickets of the company, each in its latest version and in order. -/
structure ListsRules (calls : List MemoryCall) (company : CompanyId) (rules : List RoutingRule) :
    Prop where
  distinct : (rules.map (·.id)).Nodup
  members : ∀ rule, rule ∈ rules ↔
    (MemoryCall.heldRule? calls rule.id).map (·.entry) = some rule ∧
      rule.companyId = company ∧ rule.isActive = true ∧ rule.isDeleted = false
  ordered : rules.Pairwise fun first second => first.sortOrder < second.sortOrder ∨
    first.sortOrder = second.sortOrder ∧
      IsHeldBefore (·.id) (MemoryCall.heldRule? calls) first second

structure AnswersFor (calls : List MemoryCall) (lookup : MemoryLookup) : Prop where
  ruleIds : (lookup.rules.map (·.id)).Nodup
  queueIds : (lookup.queues.map (·.id)).Nodup
  rules : ∀ rule, rule ∈ lookup.rules ↔
    (MemoryCall.heldRule? calls rule.id).map (·.entry) = some rule
  queues : ∀ queue, queue ∈ lookup.queues ↔
    (MemoryCall.heldQueue? calls queue.id).map (·.entry) = some queue
  ruleRemoved : ∀ id, (lookup.removeRule id).1 = true ↔
    (MemoryCall.heldRule? calls id).isSome = true
  queueRemoved : ∀ id, (lookup.removeQueue id).1 = true ↔
    (MemoryCall.heldQueue? calls id).isSome = true
  unavailable : lookup.isUnavailable = (calls.filterMap (·.unavailable?)).getLastD false
  fails : lookup.isUnavailable = true → ∀ company,
    lookup.listRules company =
        .error (.lookupUnavailable "in-memory lookup marked unavailable") ∧
      lookup.findDefaultQueue company =
        .error (.lookupUnavailable "in-memory lookup marked unavailable")
  listed : lookup.isUnavailable = false → ∀ company,
    ∃ rules, lookup.listRules company = .ok rules ∧ ListsRules calls company rules
  found : lookup.isUnavailable = false → ∀ company,
    ∃ queue, lookup.findDefaultQueue company = .ok queue ∧
      IsDefaultAmong lookup.queues company queue
  recovered : lookup.isUnavailable = false →
    lookup = MemoryLookup.after (calls.filter (·.unavailable?.isNone))

section Defaults

theorem precedes_iff (left right : Queue) :
    left.precedes right = true ↔ left.createdAt.isBefore right.createdAt = true ∨
      left.createdAt = right.createdAt ∧ left.id.text ≤ right.id.text := by
  simp [Queue.precedes]

theorem precedes_of_not {left right : Queue} (order : ¬ left.precedes right = true) :
    right.precedes left = true := by
  rw [precedes_iff] at order ⊢
  obtain before | same | after := Instant.before_or_equal left.createdAt right.createdAt
  · exact absurd (.inl before) order
  · refine .inr ⟨same.symm, (String.le_total _ _).resolve_left fun least => ?_⟩
    exact order (.inr ⟨same, least⟩)
  · exact .inl after

theorem precedes_trans {first second third : Queue} (earlier : first.precedes second = true)
    (later : second.precedes third = true) : first.precedes third = true := by
  rw [precedes_iff] at *
  obtain before | ⟨same, least⟩ := earlier
  · obtain after | ⟨alike, -⟩ := later
    · exact .inl (Instant.is_before_trans before after)
    · exact .inl (alike ▸ before)
  · rw [same]
    exact later.imp_right fun ⟨alike, further⟩ => ⟨alike, String.le_trans least further⟩

theorem made_before_of_precedes {left right : Queue} (order : left.precedes right = true)
    (different : left.id ≠ right.id) : left.MadeBefore right := by
  obtain before | ⟨same, least⟩ := (precedes_iff left right).mp order
  · exact .inl before
  · refine .inr ⟨same, String.not_le.mp fun back => different ?_⟩
    exact congrArg QueueId.mk (String.le_antisymm least back)

theorem queue_made_before_asymm {left right : Queue} (order : left.MadeBefore right) :
    ¬ right.MadeBefore left := by
  obtain before | ⟨same, less⟩ := order
  · rintro (after | ⟨alike, -⟩)
    · exact Instant.is_before_asymm before after
    · exact Instant.is_before_asymm before (alike ▸ before)
  · rintro (after | ⟨-, greater⟩)
    · exact Instant.is_before_asymm after (same ▸ after)
    · exact String.lt_asymm less greater

theorem earliest_queue_none {queues : List Queue} (none : earliestQueue queues = none) :
    queues = [] := by
  cases queues with
  | nil => rfl
  | cons queue rest =>
    rw [earliestQueue] at none
    split at none
    · cases none
    · split at none <;> cases none

theorem earliest_queue_least {queues : List Queue} {found : Queue}
    (earliest : earliestQueue queues = some found) :
    found ∈ queues ∧ ∀ other ∈ queues, found.precedes other = true := by
  induction queues generalizing found with
  | nil => cases earliest
  | cons queue rest ih =>
    have reflexive : queue.precedes queue = true :=
      (precedes_iff _ _).mpr (.inr ⟨rfl, String.le_refl _⟩)
    rw [earliestQueue] at earliest
    split at earliest
    · rename_i noOther
      obtain rfl := Option.some.inj earliest
      rw [earliest_queue_none noOther]
      simp [reflexive]
    · rename_i other others
      obtain ⟨member, least⟩ := ih others
      split at earliest
      · rename_i before
        obtain rfl := Option.some.inj earliest
        refine ⟨List.mem_cons_self, List.forall_mem_cons.mpr ⟨reflexive, fun third later => ?_⟩⟩
        exact precedes_trans before (least third later)
      · rename_i after
        obtain rfl := Option.some.inj earliest
        exact ⟨List.mem_cons_of_mem _ member,
          List.forall_mem_cons.mpr ⟨precedes_of_not after, least⟩⟩

theorem earliest_is_default {queues : List Queue} (distinct : (queues.map (·.id)).Nodup)
    (company : CompanyId) :
    IsDefaultAmong queues company (earliestQueue (queues.filter fun queue =>
      queue.companyId == company && queue.isUsableDefault)) := by
  have candidates : ∀ queue, (queue ∈ queues.filter fun queue =>
      queue.companyId == company && queue.isUsableDefault) ↔
        queue ∈ queues ∧ queue.companyId = company ∧ queue.isUsableDefault = true := by
    intro queue
    simp only [List.mem_filter, Bool.and_eq_true, beq_iff_eq]
  cases earliest : earliestQueue (queues.filter fun queue =>
      queue.companyId == company && queue.isUsableDefault) with
  | none =>
    intro queue member own
    by_contra usable
    have candidate := (candidates queue).mpr ⟨member, own, (Bool.not_eq_false _).mp usable⟩
    rw [earliest_queue_none earliest] at candidate
    cases candidate
  | some found =>
    obtain ⟨member, least⟩ := earliest_queue_least earliest
    obtain ⟨inQueues, own, usable⟩ := (candidates found).mp member
    refine ⟨inQueues, own, usable, fun other inOthers ownToo usableToo different => ?_⟩
    refine made_before_of_precedes (least other ((candidates other).mpr
      ⟨inOthers, ownToo, usableToo⟩)) fun same => different ?_
    exact (List.inj_on_of_nodup_map distinct inQueues inOthers same).symm

/-- What the default is follows from which queues there are, in whatever order. -/
theorem default_unique {first second : List Queue} {company : CompanyId}
    (same : ∀ queue, queue ∈ first ↔ queue ∈ second) {found other : Option Queue}
    (inFirst : IsDefaultAmong first company found)
    (inSecond : IsDefaultAmong second company other) : found = other := by
  cases found with
  | none =>
    cases other with
    | none => rfl
    | some queue =>
      obtain ⟨member, own, usable, -⟩ := inSecond
      exact absurd usable (Bool.eq_false_iff.mp (inFirst queue ((same queue).mpr member) own))
  | some queue =>
    obtain ⟨member, own, usable, first⟩ := inFirst
    cases other with
    | none => exact absurd usable (Bool.eq_false_iff.mp (inSecond queue ((same queue).mp member) own))
    | some rival =>
      obtain ⟨rivalMember, rivalOwn, rivalUsable, second⟩ := inSecond
      by_contra different
      have notSame : rival ≠ queue := fun alike => different (alike ▸ rfl)
      exact queue_made_before_asymm
        (first rival ((same rival).mpr rivalMember) rivalOwn rivalUsable notSame)
        (second queue ((same queue).mp member) own usable notSame.symm)

end Defaults

section Calls
variable (calls : List MemoryCall)

theorem calls_left (lookup : MemoryLookup) :
    calls.foldl MemoryCall.perform lookup = {
      rules := (calls.filterMap (·.ruleChange?)).foldl
        (fun all change => change.apply (·.id) all) lookup.rules
      queues := (calls.filterMap (·.queueChange?)).foldl
        (fun all change => change.apply (·.id) all) lookup.queues
      isUnavailable := (calls.filterMap (·.unavailable?)).getLastD lookup.isUnavailable } := by
  induction calls generalizing lookup with
  | nil => rfl
  | cons call rest ih =>
    rw [List.foldl_cons, ih]
    cases call with
    | setUnavailable unavailable =>
      have last : ((MemoryCall.setUnavailable unavailable :: rest).filterMap
          (·.unavailable?)).getLastD lookup.isUnavailable =
            (rest.filterMap (·.unavailable?)).getLastD unavailable :=
        List.getLastD_cons ..
      rw [last]
      rfl
    | _ => rfl

theorem rules_follow : FollowsHistory (·.id) (MemoryCall.heldRule? calls)
    (0 + (calls.filterMap (·.ruleChange?)).length) (MemoryLookup.after calls).rules := by
  rw [MemoryLookup.after, calls_left]
  exact follows_changes (calls.filterMap (·.ruleChange?)) follows_nothing

theorem queues_follow : FollowsHistory (·.id) (MemoryCall.heldQueue? calls)
    (0 + (calls.filterMap (·.queueChange?)).length) (MemoryLookup.after calls).queues := by
  rw [MemoryLookup.after, calls_left]
  exact follows_changes (calls.filterMap (·.queueChange?)) follows_nothing

theorem rules_listed (company : CompanyId) :
    ListsRules calls company (rulesInOrder company (MemoryLookup.after calls).rules) := by
  have follows := rules_follow calls
  constructor
  case distinct =>
    have sorted : (rulesInOrder company (MemoryLookup.after calls).rules).Perm
        ((MemoryLookup.after calls).rules.filter (·.isEligibleFor company)) :=
      List.mergeSort_perm _ _
    exact (sorted.map (·.id)).nodup_iff.mpr
      (follows.distinct.sublist (List.filter_sublist.map _))
  case members =>
    intro rule
    rw [← follows.known]
    simp only [rulesInOrder, List.mem_mergeSort, List.mem_filter, RoutingRule.isEligibleFor,
      Bool.and_eq_true, Bool.not_eq_true', beq_iff_eq]
    tauto
  case ordered => exact rules_in_order_pairwise company follows.ordered

/-- Without the times at which the lookup was unavailable the same is held. -/
theorem after_recovery (available : (MemoryLookup.after calls).isUnavailable = false) :
    MemoryLookup.after calls =
      MemoryLookup.after (calls.filter (·.unavailable?.isNone)) := by
  have rules : (calls.filter (·.unavailable?.isNone)).filterMap (·.ruleChange?) =
      calls.filterMap (·.ruleChange?) := by
    rw [List.filterMap_filter]
    refine List.filterMap_congr fun call _ => ?_
    cases call <;> rfl
  have queues : (calls.filter (·.unavailable?.isNone)).filterMap (·.queueChange?) =
      calls.filterMap (·.queueChange?) := by
    rw [List.filterMap_filter]
    refine List.filterMap_congr fun call _ => ?_
    cases call <;> rfl
  have never : (calls.filter (·.unavailable?.isNone)).filterMap (·.unavailable?) = [] := by
    rw [List.filterMap_filter, List.filterMap_eq_nil_iff]
    intro call _
    cases call <;> rfl
  simp only [MemoryLookup.after, calls_left] at available ⊢
  rw [rules, queues, never, available]
  rfl

theorem answers_for_calls : AnswersFor calls (MemoryLookup.after calls) := by
  have rules := rules_follow calls
  have queues := queues_follow calls
  constructor
  case ruleIds => exact rules.distinct
  case queueIds => exact queues.distinct
  case rules => exact rules.known
  case queues => exact queues.known
  case ruleRemoved => exact fun id => (drop_under_found id).trans (held_iff rules id).symm
  case queueRemoved => exact fun id => (drop_under_found id).trans (held_iff queues id).symm
  case unavailable => rw [MemoryLookup.after, calls_left]
  case fails =>
    intro down company
    simp only [MemoryLookup.listRules, MemoryLookup.findDefaultQueue, MemoryLookup.whenAvailable,
      down, ↓reduceIte, and_self]
  case listed =>
    intro up company
    refine ⟨_, ?_, rules_listed calls company⟩
    simp only [MemoryLookup.listRules, MemoryLookup.whenAvailable, up, Bool.false_eq_true,
      ↓reduceIte]
  case found =>
    intro up company
    refine ⟨_, ?_, earliest_is_default queues.distinct company⟩
    simp only [MemoryLookup.findDefaultQueue, MemoryLookup.whenAvailable, up, Bool.false_eq_true,
      ↓reduceIte]
  case recovered => exact after_recovery calls

end Calls

/-- A lookup in memory is a map that keeps the order of insertion: what it answers follows from the latest
versions that are held and from when they came there. The default queue does not even depend on that. -/
theorem memory_follows_calls :
    (∀ calls, AnswersFor calls (MemoryLookup.after calls)) ∧
    ∀ first second,
      (∀ queue, queue ∈ (MemoryLookup.after first).queues ↔
        queue ∈ (MemoryLookup.after second).queues) →
      (MemoryLookup.after first).isUnavailable = (MemoryLookup.after second).isUnavailable →
      ∀ company, (MemoryLookup.after first).findDefaultQueue company =
        (MemoryLookup.after second).findDefaultQueue company := by
  refine ⟨answers_for_calls, fun first second same alike company => ?_⟩
  cases down : (MemoryLookup.after first).isUnavailable with
  | true =>
    rw [((answers_for_calls first).fails down company).2,
      ((answers_for_calls second).fails (alike ▸ down) company).2]
  | false =>
    obtain ⟨queue, found, earliest⟩ := (answers_for_calls first).found down company
    obtain ⟨other, alsoFound, alsoEarliest⟩ :=
      (answers_for_calls second).found (alike ▸ down) company
    rw [found, alsoFound, default_unique same earliest alsoEarliest]

theorem equal_defaults_in_memory :
    let now : Instant := ⟨⟨2024, 1, 1, by decide, by decide⟩,
      ⟨0, 0, 0, 0, by decide, by decide, by decide, by decide⟩⟩
    let queue (id : String) : Queue :=
      ⟨⟨id⟩, ⟨"c1"⟩, "Help", none, true, true, false, now, now⟩
    let first : List MemoryCall := [.upsertQueue (queue "q2"), .setUnavailable true,
      .upsertQueue (queue "q1"), .setUnavailable false]
    let second : List MemoryCall := [.upsertQueue (queue "q1"), .upsertQueue (queue "q3"),
      .upsertQueue (queue "q2"), .removeQueue ⟨"q3"⟩]
    AnswersFor first (MemoryLookup.after first) ∧
      (MemoryLookup.after first).findDefaultQueue ⟨"c1"⟩ =
        (MemoryLookup.after second).findDefaultQueue ⟨"c1"⟩ := by
  intro now queue first second
  have firstQueues : (MemoryLookup.after first).queues = [queue "q2", queue "q1"] := by
    decide +kernel
  have secondQueues : (MemoryLookup.after second).queues = [queue "q1", queue "q2"] := by
    decide +kernel
  refine ⟨memory_follows_calls.1 first, memory_follows_calls.2 first second ?_ rfl ⟨"c1"⟩⟩
  intro other
  rw [firstQueues, secondQueues]
  simp only [List.mem_cons, List.not_mem_nil, or_false]
  exact or_comm

end TicketRouting
