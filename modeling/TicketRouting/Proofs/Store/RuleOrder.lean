import TicketRouting.Proofs.Store.Agreement
/-!
The order of the rules of a company as its rows have it, and what follows from it for the two lists and
for decisions. Rows of which each stands before the next are the list, wherever they are in the table.
-/
namespace TicketRouting

def RoutingResult.ofFallback (found : Option Queue) : RoutingResult :=
  match found with
  | some queue => .ofDefaultQueue queue
  | none => {}

@[simp] theorem fallback_names_none (found : Option Queue) :
    (RoutingResult.ofFallback found).matchedRule = none := by
  cases found <;> rfl

theorem of_fallback_eq (found : Option Queue) : RoutingResult.ofFallback found = {
    queue := found.map fun queue => ⟨queue.id, queue.name⟩
    autoAssignAgentId := none
    priorityOverride := none
    tagsToAdd := []
    matchedRule := none
    isDefaultFallback := found.isSome } := by
  cases found <;> rfl

namespace Store

/-- The row stands before another one by its columns: by its place, then by the text of its creation
time, then by its identifier. -/
def RuleRow.StandsBefore (left right : RuleRow) : Prop :=
  left.sortOrder < right.sortOrder ∨ left.sortOrder = right.sortOrder ∧
    (left.createdAt.columnText < right.createdAt.columnText ∨
      left.createdAt.columnText = right.createdAt.columnText ∧ left.id.text < right.id.text)

structure InOrder (tables : Tables) (selected : RuleRow → Bool) (rows : List RuleRow) : Prop where
  perm : rows.Perm (tables.rules.filter selected)
  ordered : rows.Pairwise RuleRow.StandsBefore

def isLiveOf (company : CompanyId) (row : RuleRow) : Bool :=
  row.companyId == company && !row.isDeleted

/-- The rule is one of the company and not deleted, as it is read under its identifier. -/
structure Tables.HasLiveRule (tables : Tables) (company : CompanyId) (rule : RoutingRule) : Prop where
  known : tables.rule? rule.id = .ok (some rule)
  own : rule.companyId = company
  live : rule.isDeleted = false

section Order
variable {tables : Tables}

theorem stands_before_asymm {left right : RuleRow} (order : left.StandsBefore right) :
    ¬ right.StandsBefore left := by
  rintro (after | ⟨samePlace, later | ⟨sameTime, greater⟩⟩) <;>
    obtain before | ⟨place, earlier | ⟨time, less⟩⟩ := order
  · exact Int64.lt_asymm before after
  · exact Int64.lt_irrefl (place ▸ after)
  · exact Int64.lt_irrefl (place ▸ after)
  · exact Int64.lt_irrefl (samePlace ▸ before)
  · exact String.lt_asymm earlier later
  · exact String.lt_irrefl _ (time ▸ later)
  · exact Int64.lt_irrefl (samePlace ▸ before)
  · exact String.lt_irrefl _ (sameTime ▸ earlier)
  · exact String.lt_asymm less greater

theorem stands_before_of_tried {left right : RuleRow} (different : left.id ≠ right.id)
    (order : (compareTried left right).isLE = true) : left.StandsBefore right := by
  obtain place | ⟨samePlace, made⟩ := then_is_le order
  · exact .inl (Std.compare_eq_lt.mp place)
  · refine .inr ⟨Std.compare_eq_iff_eq.mp samePlace, ?_⟩
    obtain earlier | ⟨sameTime, notAfter⟩ := then_is_le made
    · exact .inl (compare_text_lt.mp earlier)
    · exact .inr ⟨Std.compare_eq_iff_eq.mp sameTime, id_text_lt different notAfter⟩

theorem sorted_rows_stand (distinct : (tables.rules.map (·.id)).Nodup) {rows : List RuleRow}
    (inTable : rows.Sublist tables.rules) :
    (rows.mergeSort fun left right => (compareTried left right).isLE).Pairwise
      RuleRow.StandsBefore :=
  (sorted_rows distinct compareTried inTable).imp fun pair => stands_before_of_tried pair.2 pair.1

theorem sorted_filter (distinct : (tables.rules.map (·.id)).Nodup) (kept : RuleRow → Bool)
    {rows : List RuleRow} (inTable : rows.Sublist tables.rules) :
    ((rows.filter kept).mergeSort fun left right => (compareTried left right).isLE) =
      (rows.mergeSort fun left right => (compareTried left right).isLE).filter kept := by
  have perm : ((rows.filter kept).mergeSort fun left right => (compareTried left right).isLE).Perm
      ((rows.mergeSort fun left right => (compareTried left right).isLE).filter kept) :=
    (List.mergeSort_perm _ _).trans ((List.mergeSort_perm _ _).symm.filter kept)
  exact perm.eq_of_pairwise
    (fun left right _ _ order back => absurd back (stands_before_asymm order))
    (sorted_rows_stand distinct (List.filter_sublist.trans inTable))
    ((sorted_rows_stand distinct inTable).sublist List.filter_sublist)

end Order

section Lists
variable {tables : Tables} {selected : RuleRow → Bool} {rows : List RuleRow}

theorem rows_in_order (distinct : (tables.rules.map (·.id)).Nodup) (selected : RuleRow → Bool) :
    ∃ rows, InOrder tables selected rows :=
  ⟨_, List.mergeSort_perm _ _, sorted_rows_stand distinct List.filter_sublist⟩

theorem in_order_mem (inOrder : InOrder tables selected rows) (row : RuleRow) :
    row ∈ rows ↔ row ∈ tables.rules ∧ selected row = true := by
  rw [inOrder.perm.mem_iff, List.mem_filter]

theorem in_order_filter (inOrder : InOrder tables selected rows) (kept : RuleRow → Bool) :
    InOrder tables (fun row => selected row && kept row) (rows.filter kept) where
  perm := by
    simpa only [List.filter_filter, Bool.and_comm] using inOrder.perm.filter kept
  ordered := inOrder.ordered.sublist List.filter_sublist

theorem rules_where_in_order (distinct : (tables.rules.map (·.id)).Nodup)
    (inOrder : InOrder tables selected rows) : tables.rulesWhere selected = readAll tables rows := by
  have sorted := sorted_rows_stand distinct (List.filter_sublist (p := selected))
  have same := ((List.mergeSort_perm _ _).trans inOrder.perm.symm).eq_of_pairwise
    (fun _ _ _ _ order back => absurd back (stands_before_asymm order)) sorted inOrder.ordered
  rw [rules_where_eq, same]

theorem company_rules_in_order {company : CompanyId} (distinct : (tables.rules.map (·.id)).Nodup)
    (inOrder : InOrder tables (isLiveOf company) rows) :
    tables.companyRules company = readAll tables rows :=
  rules_where_in_order distinct inOrder

theorem active_rules_filter (distinct : (tables.rules.map (·.id)).Nodup) (company : CompanyId) :
    tables.activeRules company = (tables.companyRules company).filter (·.isActive) := by
  obtain ⟨rows, inOrder⟩ := rows_in_order distinct (isLiveOf company)
  have active : (fun row : RuleRow => row.companyId == company && row.isActive && !row.isDeleted) =
      fun row => isLiveOf company row && row.isActive := by
    funext row
    simp only [isLiveOf, Bool.and_right_comm]
  rw [Tables.activeRules, active, rules_where_in_order distinct (in_order_filter inOrder _),
    company_rules_in_order distinct inOrder]
  simp only [readAll, List.filterMap_filter, List.filter_filterMap]
  apply List.filterMap_congr
  intro row _
  cases reads : tables.readRule row with
  | error fault => simp [Except.toOption]
  | ok rule => simp [Except.toOption, (read_state reads).1, Option.filter]

theorem read_all_ids (named : ∀ row ∈ rows, row.IsNamed) :
    (readAll tables rows).map (·.id) = rows.map (·.id) := by
  induction rows with
  | nil => rfl
  | cons row rest ih =>
    obtain ⟨rule, reads⟩ := named_reads row (named row List.mem_cons_self) tables
    have tail := ih fun other member => named other (List.mem_cons_of_mem row member)
    have head : readAll tables (row :: rest) = rule :: readAll tables rest := by
      simp [readAll, reads, Except.toOption]
    rw [head, List.map_cons, List.map_cons, tail, (read_reference reads).1]

theorem rules_where_ordered (selected : RuleRow → Bool) (tables : Tables) :
    (tables.rulesWhere selected).Pairwise fun first second => first.sortOrder ≤ second.sortOrder := by
  have sorted := List.pairwise_mergeSort (fun _ _ _ => Std.TransCmp.isLE_trans)
    (order_total compareTried) (tables.rules.filter selected)
  rw [rules_where_eq, readAll, List.pairwise_filterMap]
  refine sorted.imp ?_
  intro left right order leftRule leftReads rightRule rightReads
  obtain ⟨-, -, leftOrder, -⟩ := read_state ((read_option_iff left leftRule).mp leftReads)
  obtain ⟨-, -, rightOrder, -⟩ := read_state ((read_option_iff right rightRule).mp rightReads)
  rw [leftOrder, rightOrder]
  obtain place | ⟨samePlace, -⟩ := then_is_le order
  · exact Int64.le_of_lt (Std.compare_eq_lt.mp place)
  · exact Int64.le_of_eq (Std.compare_eq_iff_eq.mp samePlace)

end Lists

section LiveRules
variable {tables : Tables} {company : CompanyId}

theorem live_rule_iff (sound : Sound tables) (rule : RoutingRule) :
    tables.HasLiveRule company rule ↔
      ∃ row ∈ tables.rules, isLiveOf company row = true ∧ tables.readRule row = .ok rule := by
  constructor
  · rintro ⟨known, own, live⟩
    obtain ⟨row, member, -, reads⟩ := (rule_read_iff sound rule.id rule).mp known
    have owner := (read_reference reads).2.1
    have deleted := (read_state reads).2.1
    exact ⟨row, member, by simp [isLiveOf, ← owner, ← deleted, own, live], reads⟩
  · rintro ⟨row, member, hit, reads⟩
    obtain ⟨same, owner, -⟩ := read_reference reads
    have deleted := (read_state reads).2.1
    simp only [isLiveOf, Bool.and_eq_true, beq_iff_eq, Bool.not_eq_true'] at hit
    exact ⟨(rule_read_iff sound rule.id rule).mpr ⟨row, member, same.symm, reads⟩,
      owner.trans hit.1, deleted.trans hit.2⟩

theorem live_rule_listed (sound : Sound tables) (rule : RoutingRule) :
    tables.HasLiveRule company rule ↔ rule ∈ tables.companyRules company := by
  rw [live_rule_iff sound, Tables.companyRules, rules_where_mem]
  rfl

theorem live_rule_under (sound : Sound tables) (named : AllNamed tables) (id : RuleId) :
    (∃ rule, tables.HasLiveRule company rule ∧ rule.id = id) ↔
      tables.rules.any (isLiveRuleOf company id) = true := by
  simp only [live_rule_iff sound, List.any_eq_true]
  constructor
  · rintro ⟨rule, ⟨row, member, hit, reads⟩, rfl⟩
    refine ⟨row, member, ?_⟩
    simpa [isLiveRuleOf, isLiveOf, (read_reference reads).1] using hit
  · rintro ⟨row, member, hit⟩
    obtain ⟨rule, reads⟩ := named_reads row (named row member) tables
    simp only [isLiveRuleOf, Bool.and_eq_true, beq_iff_eq, and_assoc] at hit
    refine ⟨rule, ⟨row, member, ?_, reads⟩, (read_reference reads).1.trans hit.1⟩
    simpa [isLiveOf] using hit.2

end LiveRules

section Decisions
variable {connection : Connection} (matcher : Matcher) (context : RoutingContext)

theorem rules_in_order_active (company : CompanyId) (tables : Tables) :
    rulesInOrder company (tables.activeRules company) = tables.activeRules company := by
  have eligible : (tables.activeRules company).filter (·.isEligibleFor company) =
      tables.activeRules company := by
    rw [List.filter_eq_self]
    intro rule listed
    obtain ⟨row, -, selected, reads⟩ := (rules_where_mem _ rule).mp listed
    exact (eligible_row reads company).mpr selected
  rw [rulesInOrder, eligible]
  apply List.mergeSort_of_pairwise
  exact (rules_where_ordered _ tables).imp fun order => decide_eq_true order

/-- An open database sends a ticket where the first active rule that matches does, and else to the
default queue. -/
theorem route_open (opened : connection.isOpen = true) :
    route matcher connection.lookup context =
      .ok (match (connection.tables.activeRules context.companyId).find?
          (Matching.ruleMatches matcher · context) with
        | some rule => .ofRule rule
        | none => .ofFallback (connection.tables.defaultQueue? context.companyId)) := by
  have listed : connection.lookup.listRules context.companyId =
      .ok (connection.tables.activeRules context.companyId) := by
    simp [Connection.lookup, Connection.query, opened, Except.mapError]
  have asked : connection.lookup.findDefaultQueue context.companyId =
      .ok (connection.tables.defaultQueue? context.companyId) := by
    simp [Connection.lookup, Connection.query, opened, Except.mapError]
  have tried : firstMatch matcher context (connection.tables.activeRules context.companyId) =
      (connection.tables.activeRules context.companyId).find?
        (Matching.ruleMatches matcher · context) := by
    rw [firstMatch, rules_in_order_active]
  cases matched : (connection.tables.activeRules context.companyId).find?
      (Matching.ruleMatches matcher · context) with
  | some rule => exact route_matched matcher context _ _ rule listed (tried.trans matched)
  | none =>
    rw [route_unmatched matcher context _ _ _ listed (tried.trans matched) asked]
    -- The default queue that the database finds is always one that may be used.
    cases found : connection.tables.defaultQueue? context.companyId with
    | none => rfl
    | some queue =>
      obtain ⟨-, own, usable⟩ := default_queue_row _ _ queue found
      have allowed : (queue.companyId == context.companyId && queue.isUsableDefault) = true := by
        simp [own, usable]
      simp only [Option.filter_some, allowed, ↓reduceIte]
      rfl

end Decisions

end Store
end TicketRouting
