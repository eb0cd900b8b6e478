import Mathlib.Data.List.Nodup
import TicketRouting.Proofs.Calendar.TimeLine
import TicketRouting.Proofs.Store.Outcome
import TicketRouting.Store.Connection
/-!
Writes asked for one after another, and what holds of the tables at any time. No two rows of a table
have one identifier, and the queue of a rule is there: nothing is ever taken out of a table, and a
write that would break either is refused.
-/
namespace TicketRouting.Store

def replay : List Write → Tables → Tables
  | [], tables => tables
  | write :: rest, tables => replay rest (write.action.perform tables).2

section Replay

@[simp] theorem settled_left {α : Type} (refusal : Option RoutingError) (value : α)
    (changed tables : Tables) :
    (settled refusal value changed tables).2 = if refusal.isSome then tables else changed := by
  cases refusal <;> rfl

theorem perform_left (write : Write) (tables : Tables) :
    (write.action.perform tables).2 =
      if (write.refusal? tables).isSome then tables else write.applied tables := by
  rw [perform_action, Write.outcome, settled_left]

theorem accepted_iff (write : Write) (tables : Tables) :
    (write.action.perform tables).1 = .ok () ↔ write.refusal? tables = none := by
  rw [perform_action, Write.outcome]
  cases write.refusal? tables <;> simp [settled]

theorem replay_invariant (holds : Tables → Prop)
    (kept : ∀ (tables : Tables) (write : Write), holds tables → write.refusal? tables = none →
      holds (write.applied tables))
    (writes : List Write) (tables : Tables) (before : holds tables) :
    holds (replay writes tables) := by
  induction writes generalizing tables with
  | nil => exact before
  | cons write rest ih =>
    apply ih
    rw [perform_left]
    cases refused : write.refusal? tables with
    | some fault => exact before
    | none => exact kept tables write before refused

theorem replay_append (first second : List Write) (tables : Tables) :
    replay (first ++ second) tables = replay second (replay first tables) := by
  induction first generalizing tables with
  | nil => rfl
  | cons write rest ih => exact ih _

end Replay

section Connections

theorem connection_perform_closed {α : Type} (action : Action α) (connection : Connection)
    (closed : connection.isOpen = false) :
    connection.perform action = (.error (.database .closed), connection) := by
  simp [Connection.perform, closed]

theorem connection_perform_open {α : Type} (action : Action α) (connection : Connection)
    (opened : connection.isOpen = true) :
    connection.perform action = ((action.perform connection.tables).1,
      { connection with tables := (action.perform connection.tables).2 }) := by
  simp [Connection.perform, opened]

end Connections

section Lookups

theorem only_keyed {α κ : Type} [BEq κ] [LawfulBEq κ] (key : α → κ) (rows : List α) (row : α)
    (distinct : (rows.map key).Nodup) (member : row ∈ rows) :
    rows.filter (key · == key row) = [row] := by
  induction rows with
  | nil => cases member
  | cons head rest ih =>
    obtain ⟨fresh, distinct⟩ := List.nodup_cons.mp distinct
    cases member with
    | head =>
      have others : rest.filter (key · == key row) = [] := by
        rw [List.filter_eq_nil_iff]
        intro other inRest same
        exact fresh (eq_of_beq same ▸ List.mem_map_of_mem inRest)
      rw [List.filter_cons, if_pos (beq_self_eq_true _), others]
    | tail _ member =>
      have differs : key head ≠ key row := by
        intro same
        exact fresh (same ▸ List.mem_map_of_mem member)
      rw [List.filter_cons_of_neg (by simpa using differs)]
      exact ih distinct member

theorem find_keyed {α κ : Type} [BEq κ] [LawfulBEq κ] (key : α → κ) (rows : List α) (row : α)
    (distinct : (rows.map key).Nodup) (member : row ∈ rows) :
    rows.find? (key · == key row) = some row := by
  rw [← List.head?_filter, only_keyed key rows row distinct member]
  rfl

theorem none_live {α κ : Type} [BEq κ] [LawfulBEq κ] (key : α → κ) (deleted live : α → Bool)
    (rows : List α) (row : α) (distinct : (rows.map key).Nodup) (member : row ∈ rows)
    (gone : deleted row = true)
    (liveOf : ∀ other, live other = true → key other = key row ∧ deleted other = false) :
    rows.any live = false := by
  rw [List.any_eq_false]
  intro other inRows isLive
  obtain ⟨same, kept⟩ := liveOf other isLive
  have found := find_keyed key rows other distinct inRows
  rw [same, find_keyed key rows row distinct member] at found
  obtain rfl := Option.some.inj found
  simp [gone] at kept

theorem append_fresh {κ : Type} (keys added : List κ) (distinct : keys.Nodup)
    (fresh : added = [] ∨ ∃ key, added = [key] ∧ key ∉ keys) : (keys ++ added).Nodup := by
  obtain rfl | ⟨key, rfl, absent⟩ := fresh
  · simpa using distinct
  · refine List.nodup_append.mpr ⟨distinct, by simp, ?_⟩
    intro other member single listed same
    rw [List.mem_singleton.mp listed] at same
    exact absent (same ▸ member)

end Lookups

/-- What holds of the tables at any time. -/
structure Sound (tables : Tables) : Prop where
  queueIds : (tables.queues.map (·.id)).Nodup
  ruleIds : (tables.rules.map (·.id)).Nodup
  mailboxIds : (tables.mailboxes.map (·.id)).Nodup
  queueKnown : ∀ row ∈ tables.rules, ∃ queue ∈ tables.queues, queue.id = row.queueId

section Soundness

variable (write : Write) (tables : Tables)

@[simp] theorem applied_queue_ids :
    (write.applied tables).queues.map (·.id) =
      tables.queues.map (·.id) ++ write.newQueues.map (·.id) := by
  simp [Write.applied, Function.comp_def]

@[simp] theorem applied_rule_ids :
    (write.applied tables).rules.map (·.id) =
      tables.rules.map (·.id) ++ (write.newRules tables).map (·.id) := by
  simp [Write.applied, Function.comp_def]

@[simp] theorem applied_mailbox_ids :
    (write.applied tables).mailboxes.map (·.id) =
      tables.mailboxes.map (·.id) ++ write.newMailboxes.map (·.id) := by
  simp [Write.applied, Function.comp_def]

variable {write tables}

theorem new_queues_fresh (accepted : write.refusal? tables = none) :
    write.newQueues.map (·.id) = [] ∨
      ∃ id, write.newQueues.map (·.id) = [id] ∧ id ∉ tables.queues.map (·.id) := by
  cases write with
  | createQueue id createdAt stamp request =>
    refine .inr ⟨id, rfl, ?_⟩
    simpa [Write.refusal?] using accepted
  | _ => exact .inl rfl

theorem create_rule_accepted {id : RuleId} {createdAt stamp : Instant} {request : NewRule}
    (accepted : (Write.createRule id createdAt stamp request).refusal? tables = none) :
    id ∉ tables.rules.map (·.id) ∧ ∃ queue ∈ tables.queues, queue.id = request.queueId := by
  simp only [Write.refusal?] at accepted
  split at accepted
  · cases accepted
  · split at accepted
    · cases accepted
    · rename_i taken
      exact ⟨by simpa using taken, by simpa using accepted⟩

theorem new_rules_fresh (accepted : write.refusal? tables = none) :
    (write.newRules tables).map (·.id) = [] ∨
      ∃ id, (write.newRules tables).map (·.id) = [id] ∧ id ∉ tables.rules.map (·.id) := by
  cases write with
  | createRule id createdAt stamp request =>
    exact .inr ⟨id, rfl, (create_rule_accepted accepted).1⟩
  | _ => exact .inl rfl

theorem new_mailboxes_fresh (accepted : write.refusal? tables = none) :
    write.newMailboxes.map (·.id) = [] ∨
      ∃ id, write.newMailboxes.map (·.id) = [id] ∧ id ∉ tables.mailboxes.map (·.id) := by
  cases write with
  | createMailbox defaultInterval id createdAt stamp request =>
    refine .inr ⟨id, rfl, ?_⟩
    simpa [Write.refusal?] using accepted
  | _ => exact .inl rfl

theorem read_parts {row : RuleRow} {queueName : String} {rule : RoutingRule}
    (reads : row.read queueName = .ok rule) :
    ∃ matchType matchOperator, MatchType.parse row.matchType = .ok matchType ∧
      MatchOperator.parse row.matchOperator = .ok matchOperator ∧ rule = {
        id := row.id
        companyId := row.companyId
        queue := ⟨row.queueId, queueName⟩
        name := row.name
        description := row.description
        matchType := matchType
        matchOperator := matchOperator
        matchValue := row.matchValue
        sortOrder := row.sortOrder
        isActive := row.isActive
        isDeleted := row.isDeleted
        autoAssignAgentId := row.autoAssignAgentId
        priorityOverride := row.priorityOverride.bind TicketPriority.ofText?
        tagsToAdd := row.tagsToAdd
        createdAt := row.createdAt
        updatedAt := row.updatedAt } := by
  unfold RuleRow.read at reads
  cases typed : MatchType.parse row.matchType with
  | error fault => simp [typed, bind, Except.bind] at reads
  | ok matchType =>
    cases compared : MatchOperator.parse row.matchOperator with
    | error fault => simp [typed, compared, bind, Except.bind] at reads
    | ok matchOperator =>
      simp only [typed, compared, bind, Except.bind, pure, Except.pure, Except.ok.injEq] at reads
      exact ⟨matchType, matchOperator, rfl, rfl, reads.symm⟩

theorem read_reference {row : RuleRow} {queueName : String} {rule : RoutingRule}
    (reads : row.read queueName = .ok rule) :
    rule.id = row.id ∧ rule.companyId = row.companyId ∧ rule.queue = ⟨row.queueId, queueName⟩ := by
  obtain ⟨_, _, -, -, rfl⟩ := read_parts reads
  exact ⟨rfl, rfl, rfl⟩

theorem read_state {row : RuleRow} {queueName : String} {rule : RoutingRule}
    (reads : row.read queueName = .ok rule) :
    rule.isActive = row.isActive ∧ rule.isDeleted = row.isDeleted ∧
      rule.sortOrder = row.sortOrder ∧ rule.createdAt = row.createdAt := by
  obtain ⟨_, _, -, -, rfl⟩ := read_parts reads
  exact ⟨rfl, rfl, rfl, rfl⟩

theorem apply_queue (changes : RuleChanges) (rule : RoutingRule) :
    (changes.apply rule).queue.id = changes.queueId.getD rule.queue.id := by
  unfold RuleChanges.apply
  cases changes.queueId <;> rfl

theorem update_rule_accepted {id : RuleId} {changes : RuleChanges} {stamp : Instant}
    (accepted : (Write.updateRule id changes stamp).refusal? tables = none) :
    ∃ row rule, tables.rules.find? (·.id == id) = some row ∧
      tables.rule? id = .ok (some rule) ∧ tables.readRule row = .ok rule ∧
      ∃ queue ∈ tables.queues, queue.id = changes.queueId.getD row.queueId := by
  simp only [Write.refusal?] at accepted
  cases known : tables.rule? id with
  | error fault => simp [known] at accepted
  | ok answer =>
    cases answer with
    | none => simp [known] at accepted
    | some rule =>
      obtain ⟨row, found, -, reads⟩ := known_row known
      simp only [known] at accepted
      split at accepted
      · cases accepted
      · refine ⟨row, rule, found, rfl, reads, ?_⟩
        have named := (read_reference reads).2.2
        simpa [apply_queue, named] using accepted

def Write.queueNamed : Write → RuleRow → QueueId
  | updateRule id changes _, row =>
    if row.id == id then changes.queueId.getD row.queueId else row.queueId
  | _, row => row.queueId

theorem on_rule_queue (accepted : write.refusal? tables = none)
    (distinct : (tables.rules.map (·.id)).Nodup) (row : RuleRow) (member : row ∈ tables.rules) :
    (write.onRule tables row).queueId = write.queueNamed row := by
  cases write with
  | updateRule id changes stamp =>
    obtain ⟨other, rule, found, known, reads, -⟩ := update_rule_accepted accepted
    simp only [Write.onRule, Write.queueNamed, known]
    split
    · rename_i hit
      have same : row = other := by
        rw [← eq_of_beq hit, find_keyed (·.id) tables.rules row distinct member] at found
        exact Option.some.inj found
      subst same
      have named := (read_reference reads).2.2
      simp only [RuleRow.overwrite, apply_queue, named]
    · rfl
  | reorderRules company ids stamp =>
    exact renumber_row_keeps (·.queueId) (fun _ _ _ => rfl) company stamp 1 ids row
  | setRuleActive | deleteRule =>
    simp only [Write.onRule, Write.queueNamed]
    split <;> rfl
  | _ => rfl

theorem queue_named_known (sound : Sound tables) (accepted : write.refusal? tables = none)
    (row : RuleRow) (member : row ∈ tables.rules) :
    ∃ queue ∈ tables.queues, queue.id = write.queueNamed row := by
  have before := sound.queueKnown row member
  cases write with
  | updateRule id changes stamp =>
    obtain ⟨other, rule, found, -, -, known⟩ := update_rule_accepted accepted
    simp only [Write.queueNamed]
    split
    · rename_i hit
      rw [← eq_of_beq hit, find_keyed (·.id) tables.rules row sound.ruleIds member] at found
      rw [Option.some.inj found]
      exact known
    · exact before
  | _ => exact before

theorem queue_found_after (write : Write) (tables : Tables) (id : QueueId)
    (known : ∃ queue ∈ tables.queues, queue.id = id) :
    (write.applied tables).queue? id = (tables.queue? id).map write.onQueue := by
  have hit : (tables.queues.find? (·.id == id)).isSome = true := by
    simpa [List.find?_isSome] using known
  obtain ⟨queue, found⟩ := Option.isSome_iff_exists.mp hit
  have same : (fun row : Queue => row.id == id) ∘ write.onQueue = fun row => row.id == id := by
    funext row
    simp
  simp only [Tables.queue?, Write.applied, List.find?_append, List.find?_map, same, found,
    Option.map_some, Option.some_or]

theorem queue_stays (write : Write) (tables : Tables) (id : QueueId)
    (known : ∃ queue ∈ tables.queues, queue.id = id) :
    ∃ queue ∈ (write.applied tables).queues, queue.id = id := by
  obtain ⟨queue, member, same⟩ := known
  refine ⟨write.onQueue queue, ?_, by simpa using same⟩
  exact List.mem_append_left _ (List.mem_map_of_mem member)

theorem applied_sound (sound : Sound tables) (accepted : write.refusal? tables = none) :
    Sound (write.applied tables) where
  queueIds := by
    rw [applied_queue_ids]
    exact append_fresh _ _ sound.queueIds (new_queues_fresh accepted)
  ruleIds := by
    rw [applied_rule_ids]
    exact append_fresh _ _ sound.ruleIds (new_rules_fresh accepted)
  mailboxIds := by
    rw [applied_mailbox_ids]
    exact append_fresh _ _ sound.mailboxIds (new_mailboxes_fresh accepted)
  queueKnown := by
    intro row member
    -- Queues stay, so it is enough that the queue that is named now was there before.
    apply queue_stays
    obtain changed | added := List.mem_append.mp member
    · obtain ⟨before, inBefore, rfl⟩ := List.mem_map.mp changed
      rw [on_rule_queue accepted sound.ruleIds before inBefore]
      exact queue_named_known sound accepted before inBefore
    · cases write with
      | createRule id createdAt stamp request =>
        obtain rfl := List.mem_singleton.mp added
        exact (create_rule_accepted accepted).2
      | _ => cases added

theorem same_queue (sound : Sound tables) (first second : Queue)
    (inFirst : first ∈ tables.queues) (inSecond : second ∈ tables.queues)
    (same : first.id = second.id) : first = second :=
  List.inj_on_of_nodup_map sound.queueIds inFirst inSecond same

theorem same_rule (sound : Sound tables) (first second : RuleRow)
    (inFirst : first ∈ tables.rules) (inSecond : second ∈ tables.rules)
    (same : first.id = second.id) : first = second :=
  List.inj_on_of_nodup_map sound.ruleIds inFirst inSecond same

theorem same_mailbox (sound : Sound tables) (first second : MailboxRow)
    (inFirst : first ∈ tables.mailboxes) (inSecond : second ∈ tables.mailboxes)
    (same : first.id = second.id) : first = second :=
  List.inj_on_of_nodup_map sound.mailboxIds inFirst inSecond same

theorem empty_sound : Sound {} := ⟨by simp, by simp, by simp, by simp⟩

theorem replay_sound (writes : List Write) : Sound (replay writes {}) :=
  replay_invariant Sound (fun _ _ => applied_sound) writes {} empty_sound

end Soundness

end TicketRouting.Store
