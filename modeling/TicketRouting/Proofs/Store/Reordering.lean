import TicketRouting.Proofs.Store.RuleFields
import TicketRouting.Proofs.Store.RuleOrder
import TicketRouting.Proofs.Store.Steps
/-!
Putting the rules of a company into a given order. The rows are numbered one after another; a later list
is sorted by these numbers, and the numbers of an earlier reordering do not matter any more for rules
that are listed.
-/
namespace TicketRouting.Store

/-- The place at which an identifier is listed; of several the last one. -/
structure IsLastPlace (ids : List RuleId) (id : RuleId) (index : Nat) : Prop where
  listed : ids[index]? = some id
  last : ∀ later, index < later → ids[later]? ≠ some id

/-- What a reordering leaves of a row: a listed one has its place, counted from 1. -/
structure IsNumbered (ids : List RuleId) (stamp : Instant) (before later : RuleRow) : Prop where
  listed : ∀ index, IsLastPlace ids before.id index →
    later = { before with sortOrder := Int64.ofNat (index + 1), updatedAt := stamp }
  unlisted : before.id ∉ ids → later = before

structure IsReordered (ids : List RuleId) (stamp : Instant) (before later : Tables) : Prop where
  queues : later.queues = before.queues
  mailboxes : later.mailboxes = before.mailboxes
  rules : List.Forall₂ (IsNumbered ids stamp) before.rules later.rules

def Tables.rulesUnder (ids : List RuleId) (tables : Tables) : List RoutingRule :=
  ids.filterMap fun id => (tables.rule? id).toOption.join

/-- The rules of a company are listed and tried in the order that was asked for, and the first active one
that matches decides. A ticket that none of them matches is decided as before. -/
structure FollowsList (company : CompanyId) (ids : List RuleId) (before later : Connection) :
    Prop where
  under : (before.tables.rulesUnder ids).map (·.id) = ids
  all : (later.tables.companyRules company).map (·.id) = ids
  active : (later.tables.activeRules company).map (·.id) =
    ((before.tables.rulesUnder ids).filter (·.isActive)).map (·.id)
  decided : ∀ (matcher : Matcher) (context : RoutingContext) (rule : RoutingRule),
    context.companyId = company →
    ((before.tables.rulesUnder ids).find? fun rule =>
      rule.isActive && Matching.ruleMatches matcher rule context) = some rule →
    route matcher later.lookup context = .ok {
      queue := some rule.queue
      autoAssignAgentId := rule.autoAssignAgentId
      priorityOverride := rule.priorityOverride
      tagsToAdd := match rule.tagsToAdd with
        | some tags => Text.splitItems tags
        | none => []
      matchedRule := some ⟨rule.id, rule.name⟩
      isDefaultFallback := false }
  fallback : ∀ (matcher : Matcher) (context : RoutingContext), context.companyId = company →
    ((before.tables.rulesUnder ids).find? fun rule =>
      rule.isActive && Matching.ruleMatches matcher rule context) = none →
    route matcher later.lookup context = route matcher before.lookup context ∧
    route matcher before.lookup context = .ok {
      queue := (before.tables.defaultQueue? company).map fun queue => ⟨queue.id, queue.name⟩
      autoAssignAgentId := none
      priorityOverride := none
      tagsToAdd := []
      matchedRule := none
      isDefaultFallback := (before.tables.defaultQueue? company).isSome }

section Places
variable {ids : List RuleId} {id : RuleId}

theorem place_given_none (position : Nat) (unlisted : id ∉ ids) :
    placeGiven id position ids = none := by
  induction ids generalizing position with
  | nil => rfl
  | cons other rest ih =>
    obtain ⟨differs, absent⟩ : id ≠ other ∧ id ∉ rest := by simpa using unlisted
    simp [placeGiven, ih (position + 1) absent, Ne.symm differs]

theorem place_given_last (position index : Nat) (place : IsLastPlace ids id index) :
    placeGiven id position ids = some (Int64.ofNat (position + index)) := by
  induction ids generalizing position index with
  | nil => cases place.listed
  | cons other rest ih =>
    cases index with
    | zero =>
      have own : other = id := Option.some.inj place.listed
      have absent : id ∉ rest := by
        intro member
        obtain ⟨later, listed⟩ := List.mem_iff_getElem?.mp member
        exact place.last (later + 1) (Nat.succ_pos later) listed
      simp [placeGiven, place_given_none (position + 1) absent, own]
    | succ index =>
      have tail : IsLastPlace rest id index :=
        ⟨place.listed, fun later after => place.last (later + 1) (Nat.succ_lt_succ after)⟩
      rw [placeGiven, ih (position + 1) index tail, Option.some_or, Nat.add_right_comm]
      rfl

theorem last_place_of_nodup (distinct : ids.Nodup) {index : Nat} (listed : ids[index]? = some id) :
    IsLastPlace ids id index := by
  refine ⟨listed, fun later after again => ?_⟩
  have inside : index < ids.length := (List.getElem?_eq_some_iff.mp listed).1
  have same := (List.getElem?_inj inside distinct).mp (listed.trans again.symm)
  omega

end Places

section Rows
variable {tables : Tables} {company : CompanyId} {ids : List RuleId} {stamp : Instant}

theorem row_numbered (row : RuleRow)
    (owned : row.id ∈ ids → isLiveRuleOf company row.id row = true) :
    IsNumbered ids stamp row (renumberRow company stamp 1 ids row) := by
  rw [renumber_row_eq company stamp 1 ids row owned]
  constructor
  · intro index place
    rw [place_given_last 1 index place, Nat.add_comm]
  · intro unlisted
    rw [place_given_none 1 unlisted]

theorem tables_reordered (distinct : (tables.rules.map (·.id)).Nodup)
    (accepted : (Write.reorderRules company ids stamp).refusal? tables = none) :
    IsReordered ids stamp tables ((Write.reorderRules company ids stamp).applied tables) := by
  rw [reordered_tables]
  refine ⟨rfl, rfl, ?_⟩
  rw [List.forall₂_map_right_iff, List.forall₂_same]
  intro row member
  exact row_numbered row (listed_owned distinct accepted member)

theorem live_after_reordering (distinct : (tables.rules.map (·.id)).Nodup)
    (accepted : (Write.reorderRules company ids stamp).refusal? tables = none) (id : RuleId) :
    ((Write.reorderRules company ids stamp).applied tables).rules.any (isLiveRuleOf company id) =
      tables.rules.any (isLiveRuleOf company id) := by
  rw [reordered_tables, List.any_map, Bool.eq_iff_iff, List.any_eq_true, List.any_eq_true]
  refine exists_congr fun row => and_congr_right fun member => ?_
  rw [Function.comp_apply, renumber_row_eq company stamp 1 ids row
    (listed_owned distinct accepted member)]
  cases placeGiven row.id 1 ids <;> rfl

theorem numbered_places (tablesDistinct : (tables.rules.map (·.id)).Nodup)
    (accepted : (Write.reorderRules company ids stamp).refusal? tables = none)
    (distinct : ids.Nodup) :
    ∀ row ∈ ((Write.reorderRules company ids stamp).applied tables).rules, ∀ index,
      ids[index]? = some row.id → row.sortOrder = Int64.ofNat (index + 1) := by
  rw [reordered_tables]
  intro row member index listed
  obtain ⟨before, inTable, rfl⟩ := List.mem_map.mp member
  rw [(renumber_row_same company stamp 1 ids before).id] at listed
  have numbered : IsNumbered ids stamp before (renumberRow company stamp 1 ids before) :=
    row_numbered before (listed_owned tablesDistinct accepted inTable)
  rw [numbered.listed index (last_place_of_nodup distinct listed)]

end Rows

section Order
variable {company : CompanyId} {ids : List RuleId}

def ListedBefore (ids : List RuleId) (first second : RuleId) : Prop :=
  ∃ place later : Nat, place < later ∧ ids[place]? = some first ∧ ids[later]? = some second

theorem listed_pairwise (ids : List RuleId) : ids.Pairwise (ListedBefore ids) := by
  rw [List.pairwise_iff_getElem]
  intro place later inside insideLater ahead
  exact ⟨place, later, ahead, List.getElem?_eq_getElem inside,
    List.getElem?_eq_getElem insideLater⟩

theorem listed_before_asymm (distinct : ids.Nodup) {first second : RuleId}
    (order : ListedBefore ids first second) : ¬ ListedBefore ids second first := by
  rintro ⟨place, later, ahead, listed, listedLater⟩
  obtain ⟨firstPlace, secondPlace, before, firstListed, secondListed⟩ := order
  have firstLast := (last_place_of_nodup distinct firstListed).last later
  have secondLast := (last_place_of_nodup distinct listed).last secondPlace
  have notAfter : later ≤ firstPlace := Nat.not_lt.mp fun after => firstLast after listedLater
  have notBehind : secondPlace ≤ place := Nat.not_lt.mp fun after => secondLast after secondListed
  omega

theorem place_le_of_order (short : ids.length < 2 ^ 63) {place later : Nat} {first second : RuleId}
    (listed : ids[place]? = some first) (listedLater : ids[later]? = some second)
    (order : Int64.ofNat (place + 1) ≤ Int64.ofNat (later + 1)) : place ≤ later := by
  have inside := (List.getElem?_eq_some_iff.mp listed).1
  have insideLater := (List.getElem?_eq_some_iff.mp listedLater).1
  rw [Int64.le_iff_toInt_le, Int64.toInt_ofNat_of_lt (by omega),
    Int64.toInt_ofNat_of_lt (by omega)] at order
  omega

theorem stands_order {left right : RuleRow} (order : left.StandsBefore right) :
    left.sortOrder ≤ right.sortOrder := by
  obtain before | ⟨same, -⟩ := order
  · exact Int64.le_of_lt before
  · exact Int64.le_of_eq same

/-- Rows that have the places at which they are listed stand in the order of the list. -/
theorem listed_rows_in_order {tables : Tables} {rows : List RuleRow} (sound : Sound tables)
    (inOrder : InOrder tables (isLiveOf company) rows) (distinct : ids.Nodup)
    (short : ids.length < 2 ^ 63)
    (placed : ∀ row ∈ tables.rules, ∀ index, ids[index]? = some row.id →
      row.sortOrder = Int64.ofNat (index + 1))
    (present : ∀ id ∈ ids, tables.rules.any (isLiveRuleOf company id) = true) :
    (rows.map (·.id)).filter (· ∈ ids) = ids := by
  have own : (rows.map (·.id)).Nodup :=
    (inOrder.perm.map _).nodup_iff.mpr (sound.ruleIds.sublist (List.filter_sublist.map _))
  have perm : ((rows.map (·.id)).filter (· ∈ ids)).Perm ids := by
    refine (List.perm_ext_iff_of_nodup (own.filter _) distinct).mpr fun id => ?_
    simp only [List.mem_filter, decide_eq_true_eq, and_iff_right_iff_imp]
    intro listed
    obtain ⟨row, member, hit⟩ := List.any_eq_true.mp (present id listed)
    simp only [isLiveRuleOf, Bool.and_eq_true, beq_iff_eq, and_assoc] at hit
    obtain ⟨rfl, live⟩ := hit
    exact List.mem_map_of_mem ((in_order_mem inOrder row).mpr ⟨member, by simpa [isLiveOf] using live⟩)
  have sorted : ((rows.map (·.id)).filter (· ∈ ids)).Pairwise (ListedBefore ids) := by
    rw [List.filter_map, List.pairwise_map]
    refine (inOrder.ordered.filter _).imp_of_mem ?_
    intro left right inLeft inRight order
    obtain ⟨inLeft, listed⟩ := List.mem_filter.mp inLeft
    obtain ⟨inRight, listedLater⟩ := List.mem_filter.mp inRight
    obtain ⟨place, listed⟩ := List.mem_iff_getElem?.mp (of_decide_eq_true listed)
    obtain ⟨later, listedLater⟩ := List.mem_iff_getElem?.mp (of_decide_eq_true listedLater)
    have inTable := ((in_order_mem inOrder left).mp inLeft).1
    have inTableLater := ((in_order_mem inOrder right).mp inRight).1
    have bound : place ≤ later := by
      apply place_le_of_order short listed listedLater
      rw [← placed left inTable place listed, ← placed right inTableLater later listedLater]
      exact stands_order order
    -- Two rows at one place would be one row, which does not stand before itself.
    have apart : place ≠ later := by
      rintro rfl
      have same := same_rule sound left right inTable inTableLater
        (Option.some.inj (listed.symm.trans listedLater))
      exact stands_before_asymm (same ▸ order) (same ▸ order)
    exact ⟨place, later, by omega, listed, listedLater⟩
  -- One order and the same members: there is only one such list.
  exact perm.eq_of_pairwise
    (fun _ _ _ _ order back => absurd back (listed_before_asymm distinct order)) sorted
    (listed_pairwise ids)

end Order

section Rules
variable {tables : Tables} {company : CompanyId} {ids : List RuleId} {stamp : Instant}

def renumberRule (ids : List RuleId) (stamp : Instant) (rule : RoutingRule) : RoutingRule :=
  match placeGiven rule.id 1 ids with
  | some order => { rule with sortOrder := order, updatedAt := stamp }
  | none => rule

@[simp] theorem renumber_rule_active (rule : RoutingRule) :
    (renumberRule ids stamp rule).isActive = rule.isActive := by
  unfold renumberRule
  split <;> rfl

@[simp] theorem renumber_rule_id (rule : RoutingRule) :
    (renumberRule ids stamp rule).id = rule.id := by
  unfold renumberRule
  split <;> rfl

@[simp] theorem renumber_rule_matches (matcher : Matcher) (context : RoutingContext)
    (rule : RoutingRule) : Matching.ruleMatches matcher (renumberRule ids stamp rule) context =
      Matching.ruleMatches matcher rule context := by
  unfold renumberRule
  split <;> rfl

@[simp] theorem renumber_rule_result (rule : RoutingRule) :
    RoutingResult.ofRule (renumberRule ids stamp rule) = .ofRule rule := by
  unfold renumberRule
  split <;> rfl

theorem renumbered_read {row : RuleRow} {rule : RoutingRule}
    (owned : row.id ∈ ids → isLiveRuleOf company row.id row = true)
    (reads : tables.readRule row = .ok rule) :
    ((Write.reorderRules company ids stamp).applied tables).readRule
      (renumberRow company stamp 1 ids row) = .ok (renumberRule ids stamp rule) := by
  rw [reordered_tables, renumber_row_eq company stamp 1 ids row owned, renumberRule,
    (read_reference reads).1]
  cases placeGiven row.id 1 ids with
  | none => exact reads
  | some order =>
    refine (restated_read order row.isActive stamp reads).trans ?_
    rw [← (read_state reads).1, ← (read_reference reads).1]

theorem renumbered_known (sound : Sound tables)
    (accepted : (Write.reorderRules company ids stamp).refusal? tables = none) {id : RuleId}
    {rule : RoutingRule} (known : tables.rule? id = .ok (some rule)) :
    ((Write.reorderRules company ids stamp).applied tables).rule? id =
      .ok (some (renumberRule ids stamp rule)) := by
  obtain ⟨row, member, rfl, reads⟩ := (rule_read_iff sound id rule).mp known
  have owned := listed_owned sound.ruleIds accepted member
  rw [rule_read_iff (applied_sound sound accepted)]
  refine ⟨renumberRow company stamp 1 ids row, ?_, (renumber_row_same company stamp 1 ids row).id,
    renumbered_read owned reads⟩
  rw [reordered_tables]
  exact List.mem_map_of_mem member

theorem rules_under_renumbered (sound : Sound tables)
    (accepted : (Write.reorderRules company ids stamp).refusal? tables = none)
    (present : ∀ id ∈ ids, ∃ rule, tables.HasLiveRule company rule ∧ rule.id = id) :
    ((Write.reorderRules company ids stamp).applied tables).rulesUnder ids =
      (tables.rulesUnder ids).map (renumberRule ids stamp) := by
  simp only [Tables.rulesUnder, List.map_filterMap]
  apply List.filterMap_congr
  intro id listed
  obtain ⟨rule, holds, rfl⟩ := present id listed
  rw [holds.known, renumbered_known sound accepted holds.known]
  rfl

theorem rules_under_ids
    (present : ∀ id ∈ ids, ∃ rule, tables.HasLiveRule company rule ∧ rule.id = id) :
    (tables.rulesUnder ids).map (·.id) = ids := by
  have found : ∀ id ∈ ids, (tables.rule? id).toOption.join.map (·.id) = some id := by
    intro id listed
    obtain ⟨rule, holds, rfl⟩ := present id listed
    rw [holds.known]
    rfl
  rw [Tables.rulesUnder, List.map_filterMap]
  exact (List.filterMap_congr found).trans List.filterMap_some

theorem company_rules_under (sound : Sound tables)
    (all : (tables.companyRules company).map (·.id) = ids) :
    tables.companyRules company = tables.rulesUnder ids := by
  subst all
  have found : ∀ rule ∈ tables.companyRules company,
      (tables.rule? rule.id).toOption.join = some rule := by
    intro rule listed
    rw [((live_rule_listed sound rule).mpr listed).known]
    rfl
  rw [Tables.rulesUnder, List.filterMap_map]
  exact (List.filterMap_some.symm.trans (List.filterMap_congr fun rule listed =>
    (found rule listed).symm))

end Rules

section After
variable {tables : Tables} {company : CompanyId} {ids : List RuleId} {stamp : Instant}

theorem listed_after (sound : Sound tables) (named : AllNamed tables)
    (accepted : (Write.reorderRules company ids stamp).refusal? tables = none)
    (distinct : ids.Nodup) (short : ids.length < 2 ^ 63) :
    ((((Write.reorderRules company ids stamp).applied tables).companyRules company).map
      (·.id)).filter (· ∈ ids) = ids := by
  have laterSound := applied_sound sound accepted
  have laterNamed : AllNamed ((Write.reorderRules company ids stamp).applied tables) :=
    applied_named named
  obtain ⟨rows, inOrder⟩ := rows_in_order laterSound.ruleIds (isLiveOf company)
  have readable : ∀ row ∈ rows, row.IsNamed := fun row member =>
    laterNamed row ((in_order_mem inOrder row).mp member).1
  rw [company_rules_in_order laterSound.ruleIds inOrder, read_all_ids readable]
  apply listed_rows_in_order laterSound inOrder distinct short
  · exact numbered_places sound.ruleIds accepted distinct
  · intro id listed
    rw [live_after_reordering sound.ruleIds accepted]
    exact (reorder_accepted_iff company ids stamp).mp accepted id listed

theorem no_other_after (sound : Sound tables) (named : AllNamed tables)
    (accepted : (Write.reorderRules company ids stamp).refusal? tables = none)
    (every : ∀ rule, tables.HasLiveRule company rule → rule.id ∈ ids) :
    ∀ id ∈ (((Write.reorderRules company ids stamp).applied tables).companyRules company).map
      (·.id), id ∈ ids := by
  have laterSound := applied_sound sound accepted
  intro id member
  obtain ⟨rule, inList, rfl⟩ := List.mem_map.mp member
  have live := (live_rule_under laterSound (applied_named named) rule.id).mp
    ⟨rule, (live_rule_listed laterSound rule).mpr inList, rfl⟩
  rw [live_after_reordering sound.ruleIds accepted] at live
  obtain ⟨before, holds, same⟩ := (live_rule_under sound named rule.id).mpr live
  exact same ▸ every before holds

end After

section Whole
variable {connection : Connection} {company : CompanyId} {ids : List RuleId} {stamp : Instant}

theorem unmatched_before (sound : Sound connection.tables) (opened : connection.isOpen = true)
    (every : ∀ rule, connection.tables.HasLiveRule company rule → rule.id ∈ ids)
    (matcher : Matcher) (context : RoutingContext) (own : context.companyId = company)
    (unmatched : ((connection.tables.rulesUnder ids).find? fun rule =>
      rule.isActive && Matching.ruleMatches matcher rule context) = none) :
    route matcher connection.lookup context =
      .ok (.ofFallback (connection.tables.defaultQueue? company)) := by
  -- Whatever is tried is an active rule of the company, and so one of the listed.
  have none : (connection.tables.activeRules company).find?
      (Matching.ruleMatches matcher · context) = none := by
    rw [List.find?_eq_none] at unmatched ⊢
    intro rule tried
    rw [active_rules_filter sound.ruleIds, List.mem_filter] at tried
    have holds := (live_rule_listed sound rule).mpr tried.1
    have under : rule ∈ connection.tables.rulesUnder ids :=
      List.mem_filterMap.mpr ⟨rule.id, every rule holds, by rw [holds.known]; rfl⟩
    simpa [tried.2] using unmatched rule under
  rw [route_open matcher context opened, own, none]

theorem list_followed (sound : Sound connection.tables) (named : AllNamed connection.tables)
    (opened : connection.isOpen = true) (later : Connection)
    (accepted : (Write.reorderRules company ids stamp).refusal? connection.tables = none)
    (left : later = { connection with
      tables := (Write.reorderRules company ids stamp).applied connection.tables })
    (all : (later.tables.companyRules company).map (·.id) = ids)
    (every : ∀ rule, connection.tables.HasLiveRule company rule → rule.id ∈ ids) :
    FollowsList company ids connection later := by
  have laterSound : Sound later.tables := left ▸ applied_sound sound accepted
  have present : ∀ id ∈ ids, ∃ rule, connection.tables.HasLiveRule company rule ∧ rule.id = id :=
    fun id listed => (live_rule_under sound named id).mpr
      ((reorder_accepted_iff company ids stamp).mp accepted id listed)
  have rules : later.tables.companyRules company =
      (connection.tables.rulesUnder ids).map (renumberRule ids stamp) := by
    rw [company_rules_under laterSound all, left, rules_under_renumbered sound accepted present]
  have active : later.tables.activeRules company =
      ((connection.tables.rulesUnder ids).filter (·.isActive)).map (renumberRule ids stamp) := by
    rw [active_rules_filter laterSound.ruleIds, rules, List.filter_map]
    simp only [Function.comp_def, renumber_rule_active]
  have laterOpened : later.isOpen = true := left ▸ opened
  have tried : ∀ (matcher : Matcher) (context : RoutingContext),
      (later.tables.activeRules company).find? (Matching.ruleMatches matcher · context) =
        ((connection.tables.rulesUnder ids).find? fun rule =>
          rule.isActive && Matching.ruleMatches matcher rule context).map
            (renumberRule ids stamp) := by
    intro matcher context
    rw [active, List.find?_map, List.find?_filter]
    simp only [Function.comp_def, renumber_rule_matches, Bool.decide_and, Bool.decide_eq_true]
  refine ⟨rules_under_ids present, all, ?active, ?decided, ?fallback⟩
  case active =>
    rw [active, List.map_map]
    simp only [Function.comp_def, renumber_rule_id]
  case decided =>
    intro matcher context rule own found
    rw [route_open matcher context laterOpened, own, tried, found, Option.map_some]
    exact congrArg Except.ok ((renumber_rule_result rule).trans (of_rule_eq rule))
  case fallback =>
    intro matcher context own absent
    have before := unmatched_before sound opened every matcher context own absent
    have sameQueues : later.tables.queues = connection.tables.queues := by
      rw [left, reordered_tables]
    have sameDefault :
        later.tables.defaultQueue? company = connection.tables.defaultQueue? company := by
      simp only [Tables.defaultQueue?, sameQueues]
    refine ⟨?_, of_fallback_eq _ ▸ before⟩
    rw [before, route_open matcher context laterOpened, own, tried, absent, sameDefault]
    rfl

end Whole

/-- Reordering rules of a company succeeds exactly if every identifier is one of its rules. It then gives
each of them its place in the list and leaves everything else. If nothing is listed twice, the listed
rules follow the list among themselves; if also no rule of the company is missing, tickets are decided
in the order of the list. -/
theorem reordering_follows_list (connection : Connection) (steps : List Step)
    (reached : connection.tables = afterSteps steps {}) (opened : connection.isOpen = true)
    (company : CompanyId) (ids : List RuleId) (stamp : Instant) :
    let call := connection.perform (reorderRules company ids stamp)
    (call.1 = .ok () ↔
      ∀ id ∈ ids, ∃ rule, connection.tables.HasLiveRule company rule ∧ rule.id = id) ∧
    (call.1 = .ok () →
      IsReordered ids stamp connection.tables call.2.tables ∧
      -- No list in the memory of a machine is longer.
      (ids.Nodup → ids.length < 2 ^ 63 →
        ((call.2.tables.companyRules company).map (·.id)).filter (· ∈ ids) = ids ∧
        ((∀ rule, connection.tables.HasLiveRule company rule → rule.id ∈ ids) →
          FollowsList company ids connection call.2))) := by
  intro call
  have sound : Sound connection.tables := reached ▸ steps_sound steps {} empty_sound
  have named : AllNamed connection.tables := reached ▸ steps_named steps {} empty_named
  have performed : call = (((Write.reorderRules company ids stamp).outcome connection.tables).1,
      { connection with
        tables := ((Write.reorderRules company ids stamp).outcome connection.tables).2 }) := by
    rw [← perform_reorder_rules]
    exact connection_perform_open _ connection opened
  have succeeds : call.1 = .ok () ↔
      (Write.reorderRules company ids stamp).refusal? connection.tables = none := by
    rw [performed, ← accepted_iff, perform_action]
  refine ⟨?exactly, fun succeeded => ?_⟩
  case exactly =>
    rw [succeeds, reorder_accepted_iff]
    simp only [live_rule_under sound named]
  have accepted := succeeds.mp succeeded
  have left : call.2 = { connection with
      tables := (Write.reorderRules company ids stamp).applied connection.tables } := by
    rw [performed, Write.outcome, accepted]
    rfl
  have reordered : IsReordered ids stamp connection.tables call.2.tables :=
    left ▸ tables_reordered sound.ruleIds accepted
  refine ⟨reordered, fun distinct short => ?_⟩
  have listed : ((call.2.tables.companyRules company).map (·.id)).filter (· ∈ ids) = ids :=
    left ▸ listed_after sound named accepted distinct short
  refine ⟨listed, fun every =>
    list_followed sound named opened call.2 accepted left ?_ every⟩
  have noOther : ∀ id ∈ (call.2.tables.companyRules company).map (·.id), id ∈ ids :=
    left ▸ no_other_after sound named accepted every
  rwa [List.filter_eq_self.mpr fun id member => decide_eq_true (noOther id member)] at listed

section ThreeRules

def threeRules : List Step :=
  let placed (order : Int64) : NewRule :=
    ⟨⟨"c1"⟩, ⟨"q1"⟩, "Help", none, .subjectKeyword, .contains, "help", some order, none, none, none⟩
  [.write (.createQueue ⟨"q1"⟩ newYear newYear ⟨⟨"c1"⟩, "Help", none, true⟩),
    .write (.createRule ⟨"r1"⟩ newYear newYear (placed 5)),
    .write (.createRule ⟨"r2"⟩ newYear newYear (placed (-3))),
    .write (.createRule ⟨"r3"⟩ newYear newYear (placed 1)),
    .write (.createRule ⟨"r4"⟩ newYear newYear (placed 2)),
    .write (.setRuleActive ⟨"r3"⟩ false newYear), .write (.deleteRule ⟨"r4"⟩ newYear)]

def threeRuleDatabase : Connection :=
  { Connection.inMemory with tables := afterSteps threeRules {} }

theorem three_rules_reordered :
    let ids : List RuleId := [⟨"r3"⟩, ⟨"r1"⟩, ⟨"r2"⟩]
    let call := threeRuleDatabase.perform (reorderRules ⟨"c1"⟩ ids newYear)
    threeRuleDatabase.isOpen = true ∧ call.1 = .ok () ∧ ids.Nodup ∧ ids.length < 2 ^ 63 ∧
      (∀ rule, threeRuleDatabase.tables.HasLiveRule ⟨"c1"⟩ rule → rule.id ∈ ids) ∧
      IsReordered ids newYear threeRuleDatabase.tables call.2.tables ∧
      FollowsList ⟨"c1"⟩ ids threeRuleDatabase call.2 := by
  intro ids
  -- The call is written out, so that nothing has to be computed to see that it is the same.
  dsimp only
  have succeeded : (threeRuleDatabase.perform (reorderRules ⟨"c1"⟩ ids newYear)).1 = .ok () := by
    decide +kernel
  have every : ∀ rule, threeRuleDatabase.tables.HasLiveRule ⟨"c1"⟩ rule → rule.id ∈ ids := by
    intro rule holds
    have sound : Sound threeRuleDatabase.tables := steps_sound threeRules {} empty_sound
    obtain ⟨row, member, live, reads⟩ := (live_rule_iff sound rule).mp holds
    have listed : ∀ row ∈ threeRuleDatabase.tables.rules, isLiveOf ⟨"c1"⟩ row = true →
        row.id ∈ ids := by decide +kernel
    exact (read_reference reads).1 ▸ listed row member live
  have distinct : ids.Nodup := by decide
  have short : ids.length < 2 ^ 63 := by decide
  obtain ⟨reordered, followed⟩ :=
    (reordering_follows_list threeRuleDatabase threeRules rfl rfl ⟨"c1"⟩ ids newYear).2 succeeded
  exact ⟨rfl, succeeded, distinct, short, every, reordered, (followed distinct short).2 every⟩

/-- A rule that is listed twice has the later place, and one that is not listed keeps its own. -/
example :
    let ids : List RuleId := [⟨"r1"⟩, ⟨"r2"⟩, ⟨"r1"⟩]
    let call := threeRuleDatabase.perform (reorderRules ⟨"c1"⟩ ids newYear)
    call.2.tables.rules.map (·.sortOrder) = [3, 2, 1, 2] := by decide +kernel

end ThreeRules

end TicketRouting.Store
