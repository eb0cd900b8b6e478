import Mathlib.Data.List.Basic
import TicketRouting.Proofs.Store.History
/-!
What a company sees of the database does not depend on what is written for other companies. A rule of
the company may still name a queue of another one: of that queue it shows the name, which no write
changes.
-/
namespace TicketRouting.Store

/-- The write does not concern the company: it is called for another one, or for a row of another
one. The identifiers that it names besides may be anyone's. -/
def Write.AimedElsewhere (company : CompanyId) (tables : Tables) : Write → Prop
  | createQueue _ _ _ request => request.companyId ≠ company
  | setDefaultQueue other _ _ => other ≠ company
  | setQueueActive id _ _ => ∀ row ∈ tables.queues, row.id = id → row.companyId ≠ company
  | deleteQueue id _ => ∀ row ∈ tables.queues, row.id = id → row.companyId ≠ company
  | createRule _ _ _ request => request.companyId ≠ company
  | updateRule id _ _ => ∀ row ∈ tables.rules, row.id = id → row.companyId ≠ company
  | reorderRules other _ _ => other ≠ company
  | setRuleActive id _ _ => ∀ row ∈ tables.rules, row.id = id → row.companyId ≠ company
  | deleteRule id _ => ∀ row ∈ tables.rules, row.id = id → row.companyId ≠ company
  | createMailbox _ _ _ _ _ => True
  | markPolled _ _ _ => True
  | setMailboxActive _ _ _ => True
  | deleteMailbox _ _ => True

/-- The company sees the same of two databases: the same lists, the same default queue and the same
decisions, failures included. -/
structure SameView (company : CompanyId) (before later : Connection) : Prop where
  activeRules : later.query (fun tables => .ok (tables.activeRules company)) =
    before.query fun tables => .ok (tables.activeRules company)
  companyRules : later.query (fun tables => .ok (tables.companyRules company)) =
    before.query fun tables => .ok (tables.companyRules company)
  companyQueues : later.query (fun tables => .ok (tables.companyQueues company)) =
    before.query fun tables => .ok (tables.companyQueues company)
  defaultQueue : later.query (fun tables => .ok (tables.defaultQueue? company)) =
    before.query fun tables => .ok (tables.defaultQueue? company)
  decisions : ∀ (matcher : Matcher) (context : RoutingContext), context.companyId = company →
    route matcher later.lookup context = route matcher before.lookup context

section Rows

theorem company_rows_unchanged {α : Type} (owner : α → CompanyId) (company : CompanyId)
    (change : α → α) (rows added : List α) (among : α → Bool)
    (owned : ∀ row, owner (change row) = owner row)
    (kept : ∀ row ∈ rows, owner row = company → change row = row)
    (foreign : ∀ row ∈ added, owner row ≠ company) :
    (rows.map change ++ added).filter (fun row => owner row == company && among row) =
      rows.filter fun row => owner row == company && among row := by
  have noneAdded : added.filter (fun row => owner row == company && among row) = [] :=
    List.filter_eq_nil_iff.mpr fun row member => by simp [foreign row member]
  rw [List.filter_append, noneAdded, List.append_nil]
  clear noneAdded foreign
  -- A row of another company is left out before and after, whatever became of it.
  induction rows with
  | nil => rfl
  | cons row rest ih =>
    have tail := ih fun other member => kept other (List.mem_cons_of_mem row member)
    by_cases own : owner row = company
    · have same := kept row List.mem_cons_self own
      rw [List.map_cons, same, List.filter_cons, List.filter_cons, tail]
    · have missed : (owner (change row) == company && among (change row)) = false := by
        simp [owned, own]
      have skipped : (owner row == company && among row) = false := by simp [own]
      rw [List.map_cons, List.filter_cons_of_neg (by simp [missed]),
        List.filter_cons_of_neg (by simp [skipped]), tail]

variable {company : CompanyId} {write : Write} {tables : Tables}

theorem clear_mark_elsewhere (other : CompanyId) (stamp : Instant) (row : Queue)
    (elsewhere : row.companyId ≠ other) : clearMark other stamp row = row := by
  simp [clearMark, elsewhere]

theorem on_queue_elsewhere (aimed : write.AimedElsewhere company tables) (row : Queue)
    (member : row ∈ tables.queues) (own : row.companyId = company) : write.onQueue row = row := by
  cases write with
  | createQueue id createdAt stamp request =>
    have elsewhere : row.companyId ≠ request.companyId := own ▸ aimed.symm
    simp [Write.onQueue, clear_mark_elsewhere _ stamp row elsewhere]
  | setDefaultQueue other id stamp =>
    have elsewhere : row.companyId ≠ other := own ▸ aimed.symm
    simp [Write.onQueue, isLiveQueueOf, clear_mark_elsewhere _ stamp row elsewhere, elsewhere]
  | setQueueActive id | deleteQueue id =>
    have differs : row.id ≠ id := fun same => aimed row member same own
    simp [Write.onQueue, isLiveQueue, differs]
  | _ => rfl

theorem on_rule_elsewhere (aimed : write.AimedElsewhere company tables) (row : RuleRow)
    (member : row ∈ tables.rules) (own : row.companyId = company) :
    write.onRule tables row = row := by
  cases write with
  | updateRule id =>
    have differs : row.id ≠ id := fun same => aimed row member same own
    simp [Write.onRule, differs]
  | reorderRules other ids stamp =>
    have elsewhere : row.companyId ≠ other := own ▸ aimed.symm
    exact renumber_row_missed other stamp 1 ids row fun id => by simp [isLiveRuleOf, elsewhere]
  | setRuleActive id | deleteRule id =>
    have differs : row.id ≠ id := fun same => aimed row member same own
    simp [Write.onRule, isLiveRule, differs]
  | _ => rfl

theorem new_queues_elsewhere (aimed : write.AimedElsewhere company tables) :
    ∀ row ∈ write.newQueues, row.companyId ≠ company := by
  intro row member
  cases write with
  | createQueue id createdAt stamp request =>
    obtain rfl := List.mem_singleton.mp member
    exact aimed
  | _ => cases member

theorem new_rules_elsewhere (aimed : write.AimedElsewhere company tables) :
    ∀ row ∈ write.newRules tables, row.companyId ≠ company := by
  intro row member
  cases write with
  | createRule id createdAt stamp request =>
    obtain rfl := List.mem_singleton.mp member
    exact aimed
  | _ => cases member

theorem queues_unchanged (aimed : write.AimedElsewhere company tables) (among : Queue → Bool) :
    (write.applied tables).queues.filter (fun row => row.companyId == company && among row) =
      tables.queues.filter fun row => row.companyId == company && among row :=
  company_rows_unchanged (·.companyId) company write.onQueue tables.queues write.newQueues among
    (on_queue_company write) (on_queue_elsewhere aimed) (new_queues_elsewhere aimed)

theorem rules_unchanged (aimed : write.AimedElsewhere company tables) (among : RuleRow → Bool) :
    (write.applied tables).rules.filter (fun row => row.companyId == company && among row) =
      tables.rules.filter fun row => row.companyId == company && among row :=
  company_rows_unchanged (·.companyId) company (write.onRule tables) tables.rules
    (write.newRules tables) among (on_rule_company write tables) (on_rule_elsewhere aimed)
    (new_rules_elsewhere aimed)

end Rows

section Views

variable {company : CompanyId} {write : Write} {tables : Tables}

theorem queue_name_stays (write : Write) (tables : Tables) (id : QueueId)
    (known : ∃ queue ∈ tables.queues, queue.id = id) :
    (write.applied tables).queueName id = tables.queueName id := by
  have names : (fun row : Queue => row.name) ∘ write.onQueue = fun row => row.name := by
    funext row
    simp
  simp only [Tables.queueName, queue_found_after write tables id known, Option.map_map, names]

theorem rules_where_unchanged (sound : Sound tables) (selected among : RuleRow → Bool)
    (aimed : write.AimedElsewhere company tables)
    (own : selected = fun row => row.companyId == company && among row) :
    (write.applied tables).rulesWhere selected = tables.rulesWhere selected := by
  subst own
  unfold Tables.rulesWhere
  simp only [rules_unchanged aimed among]
  apply List.filterMap_congr
  intro row member
  -- The rows are the same; what is read with them from the other table is the name of a queue.
  have inTable : row ∈ tables.rules := by
    rw [List.mem_mergeSort] at member
    exact (List.mem_filter.mp member).1
  have named := queue_name_stays write tables row.queueId (sound.queueKnown row inTable)
  simp only [Tables.readRule, named]

theorem active_rules_unchanged (sound : Sound tables)
    (aimed : write.AimedElsewhere company tables) :
    (write.applied tables).activeRules company = tables.activeRules company := by
  apply rules_where_unchanged sound _ (fun row => row.isActive && !row.isDeleted) aimed
  funext row
  exact Bool.and_assoc _ _ _

theorem company_rules_unchanged (sound : Sound tables)
    (aimed : write.AimedElsewhere company tables) :
    (write.applied tables).companyRules company = tables.companyRules company :=
  rules_where_unchanged sound _ (fun row => !row.isDeleted) aimed rfl

theorem company_queues_unchanged (aimed : write.AimedElsewhere company tables) :
    (write.applied tables).companyQueues company = tables.companyQueues company := by
  unfold Tables.companyQueues
  rw [queues_unchanged aimed fun row => !row.isDeleted]

theorem default_queue_unchanged (aimed : write.AimedElsewhere company tables) :
    (write.applied tables).defaultQueue? company = tables.defaultQueue? company := by
  unfold Tables.defaultQueue?
  rw [queues_unchanged aimed (·.isUsableDefault)]

/-- A decision depends on the lookup by its answers for the company of the ticket alone. -/
theorem route_congr (matcher : Matcher) (context : RoutingContext) (first second : Lookup)
    (rules : first.listRules context.companyId = second.listRules context.companyId)
    (queue : first.findDefaultQueue context.companyId =
      second.findDefaultQueue context.companyId) :
    route matcher first context = route matcher second context := by
  unfold route
  rw [rules, queue]

theorem same_view_of_answers (before later : Connection)
    (openness : later.isOpen = before.isOpen)
    (activeRules : later.tables.activeRules company = before.tables.activeRules company)
    (companyRules : later.tables.companyRules company = before.tables.companyRules company)
    (companyQueues : later.tables.companyQueues company = before.tables.companyQueues company)
    (defaultQueue : later.tables.defaultQueue? company = before.tables.defaultQueue? company) :
    SameView company before later where
  activeRules := by simp only [Connection.query, openness, activeRules]
  companyRules := by simp only [Connection.query, openness, companyRules]
  companyQueues := by simp only [Connection.query, openness, companyQueues]
  defaultQueue := by simp only [Connection.query, openness, defaultQueue]
  decisions := by
    intro matcher context own
    apply route_congr
    · simp only [Connection.lookup, Connection.query, own, openness, activeRules]
    · simp only [Connection.lookup, Connection.query, own, openness, defaultQueue]

end Views

/-- What is written for other companies, or fails, is not seen by a company. -/
theorem write_elsewhere_unseen (connection : Connection) (writes : List Write)
    (reached : connection.tables = replay writes {}) (company : CompanyId) (write : Write)
    (aimed : write.AimedElsewhere company connection.tables) :
    SameView company connection (connection.perform write.action).2 := by
  have sound : Sound connection.tables := reached ▸ replay_sound writes
  cases opened : connection.isOpen with
  | false =>
    rw [connection_perform_closed _ connection opened]
    exact same_view_of_answers connection connection rfl rfl rfl rfl rfl
  | true =>
    rw [connection_perform_open _ connection opened, perform_left]
    cases write.refusal? connection.tables with
    | some fault => exact same_view_of_answers connection _ rfl rfl rfl rfl rfl
    | none =>
      exact same_view_of_answers connection _ rfl (active_rules_unchanged sound aimed)
        (company_rules_unchanged sound aimed) (company_queues_unchanged aimed)
        (default_queue_unchanged aimed)

theorem foreign_queue_deletion_unseen :
    let writes : List Write := [
      .createQueue ⟨"q1"⟩ newYear newYear ⟨⟨"c1"⟩, "Own", none, true⟩,
      .createQueue ⟨"q2"⟩ newYear newYear ⟨⟨"c2"⟩, "Foreign", none, true⟩,
      .createRule ⟨"r1"⟩ newYear newYear
        ⟨⟨"c1"⟩, ⟨"q2"⟩, "One", none, .subjectKeyword, .contains, "a", none, none, none, none⟩]
    let database : Connection := { Connection.inMemory with tables := replay writes {} }
    (Write.deleteQueue ⟨"q2"⟩ newYear).AimedElsewhere ⟨"c1"⟩ database.tables ∧
      SameView ⟨"c1"⟩ database (database.perform (Write.deleteQueue ⟨"q2"⟩ newYear).action).2 := by
  intro writes database
  have aimed : ∀ row ∈ database.tables.queues, row.id = ⟨"q2"⟩ → row.companyId ≠ ⟨"c1"⟩ := by
    decide +kernel
  exact ⟨aimed, write_elsewhere_unseen database writes rfl ⟨"c1"⟩ _ aimed⟩

end TicketRouting.Store
