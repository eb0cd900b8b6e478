import TicketRouting.Proofs.Routing.Decision
import TicketRouting.Proofs.Store.History
/-!
What is read of the rows of rules. The store writes match types and operators by their names, so every
row that it wrote can be read.
-/
namespace TicketRouting.Store

def RuleRow.IsNamed (row : RuleRow) : Prop :=
  ∃ matchType matchOperator, row.matchType = MatchType.name matchType ∧
    row.matchOperator = MatchOperator.name matchOperator

def AllNamed (tables : Tables) : Prop := ∀ row ∈ tables.rules, row.IsNamed

section Names
variable {write : Write} {tables : Tables}

theorem on_rule_named (row : RuleRow) (named : row.IsNamed) :
    (write.onRule tables row).IsNamed := by
  cases write with
  | updateRule id changes stamp =>
    simp only [Write.onRule]
    split
    · split
      · exact ⟨_, _, rfl, rfl⟩
      · exact named
    · exact named
  | reorderRules company ids stamp =>
    exact (renumber_row_keeps RuleRow.IsNamed (fun _ _ _ => rfl) company stamp 1 ids row).mpr named
  | setRuleActive | deleteRule =>
    simp only [Write.onRule]
    split <;> exact named
  | _ => exact named

theorem applied_named (named : AllNamed tables) : AllNamed (write.applied tables) := by
  intro row member
  obtain changed | added := List.mem_append.mp member
  · obtain ⟨before, inBefore, rfl⟩ := List.mem_map.mp changed
    exact on_rule_named before (named before inBefore)
  · cases write with
    | createRule id createdAt stamp request =>
      obtain rfl := List.mem_singleton.mp added
      exact ⟨_, _, rfl, rfl⟩
    | _ => cases added

theorem empty_named : AllNamed {} := fun row member => by cases member

theorem replay_named (writes : List Write) : AllNamed (replay writes {}) :=
  replay_invariant AllNamed (fun _ _ named _ => applied_named named) writes {} empty_named

theorem named_reads (row : RuleRow) (named : row.IsNamed) (tables : Tables) :
    ∃ rule, tables.readRule row = .ok rule := by
  obtain ⟨matchType, matchOperator, typeNamed, operatorNamed⟩ := named
  exact read_named row matchType matchOperator _ typeNamed operatorNamed

end Names

section Reads
variable {tables : Tables}

theorem rule_of_row {row : RuleRow} (distinct : (tables.rules.map (·.id)).Nodup)
    (member : row ∈ tables.rules) :
    tables.rule? row.id = (tables.readRule row).map some := by
  have found := find_keyed RuleRow.id tables.rules row distinct member
  simp only [Tables.rule?, found]

theorem rule_absent {id : RuleId} (distinct : (tables.rules.map (·.id)).Nodup)
    (unknown : tables.rule? id = .ok none) : id ∉ tables.rules.map (·.id) := by
  intro member
  obtain ⟨row, inTable, rfl⟩ := List.mem_map.mp member
  rw [rule_of_row distinct inTable] at unknown
  cases reads : tables.readRule row <;> simp [reads, Except.map] at unknown

theorem rule_read_iff (sound : Sound tables) (id : RuleId) (rule : RoutingRule) :
    tables.rule? id = .ok (some rule) ↔
      ∃ row ∈ tables.rules, row.id = id ∧ tables.readRule row = .ok rule := by
  constructor
  · intro known
    obtain ⟨row, found, same, reads⟩ := known_row known
    exact ⟨row, List.mem_of_find?_eq_some found, same, reads⟩
  · rintro ⟨row, member, rfl, reads⟩
    have found := find_keyed RuleRow.id tables.rules row sound.ruleIds member
    simp only [Tables.rule?, found, reads, Except.map]

theorem live_rule_read (sound : Sound tables) (named : AllNamed tables) {id : RuleId}
    (live : tables.rules.any (isLiveRule id) = true) :
    ∃ rule, tables.rule? id = .ok (some rule) ∧ rule.isDeleted = false := by
  obtain ⟨row, member, hit⟩ := List.any_eq_true.mp live
  obtain ⟨same, kept⟩ : row.id = id ∧ row.isDeleted = false := by simpa [isLiveRule] using hit
  obtain ⟨rule, reads⟩ := named_reads row (named row member) tables
  exact ⟨rule, (rule_read_iff sound id rule).mpr ⟨row, member, same, reads⟩,
    (read_state reads).2.1.trans kept⟩

theorem some_rule_iff (sound : Sound tables) (rule : RoutingRule) :
    (∃ id, tables.rule? id = .ok (some rule)) ↔
      ∃ row ∈ tables.rules, tables.readRule row = .ok rule := by
  simp only [rule_read_iff sound]
  constructor
  · rintro ⟨id, row, member, -, reads⟩
    exact ⟨row, member, reads⟩
  · rintro ⟨row, member, reads⟩
    exact ⟨row.id, row, member, rfl, reads⟩

theorem queue_known_iff (tables : Tables) (id : QueueId) :
    tables.queues.any (·.id == id) = true ↔ tables.queue? id ≠ none := by
  rw [Tables.queue?, Option.ne_none_iff_isSome, List.find?_isSome, List.any_eq_true]

theorem some_queue_iff (sound : Sound tables) (queue : Queue) :
    (∃ id, tables.queue? id = some queue) ↔ queue ∈ tables.queues := by
  constructor
  · rintro ⟨id, found⟩
    exact List.mem_of_find?_eq_some found
  · intro member
    exact ⟨queue.id, find_keyed Queue.id tables.queues queue sound.queueIds member⟩

theorem read_option_iff (row : RuleRow) (rule : RoutingRule) :
    (tables.readRule row).toOption = some rule ↔ tables.readRule row = .ok rule := by
  cases tables.readRule row <;> simp [Except.toOption]

theorem rules_where_mem (selected : RuleRow → Bool) (rule : RoutingRule) :
    rule ∈ tables.rulesWhere selected ↔
      ∃ row ∈ tables.rules, selected row = true ∧ tables.readRule row = .ok rule := by
  simp only [Tables.rulesWhere, List.mem_filterMap, List.mem_mergeSort, List.mem_filter,
    read_option_iff, and_assoc]

theorem default_queue_row (company : CompanyId) (tables : Tables) (queue : Queue)
    (found : tables.defaultQueue? company = some queue) :
    queue ∈ tables.queues ∧ queue.companyId = company ∧ queue.isUsableDefault = true := by
  have sorted := List.mem_of_mem_head? found
  rw [List.mem_mergeSort] at sorted
  simpa using List.mem_filter.mp sorted

end Reads

section Lookups
variable {connection : Connection}

theorem lookup_rules (company : CompanyId) (rules : List RoutingRule)
    (listed : connection.lookup.listRules company = .ok rules) :
    rules = connection.tables.activeRules company := by
  unfold Connection.lookup Connection.query at listed
  cases opened : connection.isOpen with
  | false => simp [opened] at listed
  | true => simpa [opened, eq_comm] using listed

theorem lookup_default (company : CompanyId) (found : Option Queue)
    (asked : connection.lookup.findDefaultQueue company = .ok found) :
    found = connection.tables.defaultQueue? company := by
  unfold Connection.lookup Connection.query at asked
  cases opened : connection.isOpen with
  | false => simp [opened] at asked
  | true => simpa [opened, eq_comm] using asked

end Lookups

end TicketRouting.Store
