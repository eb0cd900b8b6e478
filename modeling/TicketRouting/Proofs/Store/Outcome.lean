import TicketRouting.Proofs.Store.Write
/-!
Carrying out a write comes to its outcome. Each operation of the store is opened here once; later
statements read `refusal?` and `applied` only.
-/
namespace TicketRouting.Store
open TicketRouting.Store.Action

section Primitives

@[simp] theorem refuse_unless_none (met : Bool) (fault : RoutingError) :
    Write.refuseUnless met fault = none ↔ met = true := by
  cases met <;> simp [Write.refuseUnless]

theorem map_unselected {α : Type} (selected : α → Bool) (change : α → α) (rows : List α)
    (absent : rows.any selected = false) :
    (rows.map fun row => if selected row then change row else row) = rows := by
  have kept : ∀ row ∈ rows, (if selected row then change row else row) = row := by
    intro row member
    have unselected := List.any_eq_false.mp absent row member
    exact if_neg unselected
  rw [List.map_congr_left kept, List.map_id']

theorem find_new {α : Type} (key : α → Bool) (rows : List α) (row : α)
    (absent : rows.any key = false) (hit : key row = true) : (rows ++ [row]).find? key = some row := by
  have noneFound : rows.find? key = none :=
    List.find?_eq_none.mpr (List.any_eq_false.mp absent)
  rw [List.find?_append, noneFound, Option.none_or, List.find?_cons_of_pos hit]

@[simp] theorem perform_ite {α : Type} (condition : Prop) [Decidable condition]
    (first second : Action α) (tables : Tables) :
    (if condition then first else second).perform tables =
      if condition then first.perform tables else second.perform tables :=
  apply_ite (·.perform tables) condition first second

@[simp] theorem perform_lift {α : Type} (answer : Except RoutingError α) (tables : Tables) :
    (liftM answer : Action α).perform tables = (answer, tables) := by
  cases answer <;> rfl

theorem settled_refused {α : Type} (refusal : Option RoutingError) (value : α)
    (changed tables : Tables) (fault : RoutingError) (refused : refusal = some fault) :
    settled refusal value changed tables = (.error fault, tables) := by
  rw [refused]
  rfl

theorem perform_discard {α : Type} (action : Action α) (refusal : Option RoutingError) (value : α)
    (changed tables : Tables)
    (performed : action.perform tables = settled refusal value changed tables) :
    (do let _ ← action : Action Unit).perform tables = settled refusal () changed tables := by
  rw [perform_bind, performed]
  cases refusal <;> rfl

/-- What a transaction leaves is settled already: what was changed before a refusal is gone. -/
theorem transaction_settled {α : Type} (action : Action α) (refusal : Option RoutingError)
    (value : α) (changed tables : Tables)
    (performed : ∃ left, action.perform tables = settled refusal value changed left) :
    action.transaction.perform tables = settled refusal value changed tables := by
  obtain ⟨left, performed⟩ := performed
  rw [perform_transaction, performed]
  cases refusal <;> rfl

@[simp] theorem perform_require_queue_exists (id : QueueId) (tables : Tables) :
    (requireQueueExists id).perform tables =
      settled (Write.refuseUnless (tables.queues.any (·.id == id)) (.database .unknownQueue)) ()
        tables tables := by
  simp only [requireQueueExists, perform_bind, perform_get, perform_ite, perform_pure,
    perform_throw]
  cases tables.queues.any (·.id == id) <;> rfl

@[simp] theorem perform_insert_queue (row : Queue) (tables : Tables) :
    (insertQueue row).perform tables =
      settled (Write.refuseUnless (!tables.queues.any (·.id == row.id))
          (.database (.duplicateKey "queues.id"))) ()
        { tables with queues := tables.queues ++ [row] } tables := by
  simp only [insertQueue, perform_bind, perform_get, perform_ite, perform_throw, perform_set]
  cases tables.queues.any (·.id == row.id) <;> rfl

@[simp] theorem perform_insert_rule (row : RuleRow) (tables : Tables) :
    (insertRule row).perform tables =
      settled (Write.refuseUnless (!tables.rules.any (·.id == row.id))
          (.database (.duplicateKey "routing_rules.id"))) ()
        { tables with rules := tables.rules ++ [row] } tables := by
  simp only [insertRule, perform_bind, perform_get, perform_ite, perform_throw, perform_set]
  cases tables.rules.any (·.id == row.id) <;> rfl

@[simp] theorem perform_insert_mailbox (row : MailboxRow) (tables : Tables) :
    (insertMailbox row).perform tables =
      settled (Write.refuseUnless (!tables.mailboxes.any (·.id == row.id))
          (.database (.duplicateKey "mailbox_configs.id"))) ()
        { tables with mailboxes := tables.mailboxes ++ [row] } tables := by
  simp only [insertMailbox, perform_bind, perform_get, perform_ite, perform_throw, perform_set]
  cases tables.mailboxes.any (·.id == row.id) <;> rfl

theorem applied_to_queues (write : Write) (tables : Tables)
    (rules : ∀ row, write.onRule tables row = row) (noRule : write.newRules tables = [])
    (mailboxes : ∀ row, write.onMailbox row = row) (noMailbox : write.newMailboxes = []) :
    write.applied tables =
      { tables with queues := tables.queues.map write.onQueue ++ write.newQueues } := by
  have sameRules : write.onRule tables = id := funext rules
  have sameMailboxes : write.onMailbox = id := funext mailboxes
  simp only [Write.applied, sameRules, noRule, sameMailboxes, noMailbox, List.map_id,
    List.append_nil]

theorem applied_to_rules (write : Write) (tables : Tables)
    (queues : ∀ row, write.onQueue row = row) (noQueue : write.newQueues = [])
    (mailboxes : ∀ row, write.onMailbox row = row) (noMailbox : write.newMailboxes = []) :
    write.applied tables = { tables with
      rules := tables.rules.map (write.onRule tables) ++ write.newRules tables } := by
  have sameQueues : write.onQueue = id := funext queues
  have sameMailboxes : write.onMailbox = id := funext mailboxes
  simp only [Write.applied, sameQueues, noQueue, sameMailboxes, noMailbox, List.map_id,
    List.append_nil]

theorem applied_to_mailboxes (write : Write) (tables : Tables)
    (queues : ∀ row, write.onQueue row = row) (noQueue : write.newQueues = [])
    (rules : ∀ row, write.onRule tables row = row) (noRule : write.newRules tables = []) :
    write.applied tables =
      { tables with mailboxes := tables.mailboxes.map write.onMailbox ++ write.newMailboxes } := by
  have sameQueues : write.onQueue = id := funext queues
  have sameRules : write.onRule tables = id := funext rules
  simp only [Write.applied, sameQueues, noQueue, sameRules, noRule, List.map_id,
    List.append_nil]

theorem perform_queue_update (selected : Queue → Bool) (change : Queue → Queue) (subject : String)
    (tables : Tables) :
    (do let found ← updateQueues selected change; orNotFound found subject : Action Unit).perform
        tables =
      settled (Write.refuseUnless (tables.queues.any selected) (.notFound subject)) ()
        { tables with
          queues := tables.queues.map fun row => if selected row then change row else row }
        tables := by
  simp only [perform_bind, perform_update_queues, perform_or_not_found]
  cases present : tables.queues.any selected with
  | true => rfl
  | false => rw [map_unselected selected change tables.queues present]; rfl

theorem perform_rule_update (selected : RuleRow → Bool) (change : RuleRow → RuleRow)
    (subject : String) (tables : Tables) :
    (do let found ← updateRules selected change; orNotFound found subject : Action Unit).perform
        tables =
      settled (Write.refuseUnless (tables.rules.any selected) (.notFound subject)) ()
        { tables with
          rules := tables.rules.map fun row => if selected row then change row else row }
        tables := by
  simp only [perform_bind, perform_update_rules, perform_or_not_found]
  cases present : tables.rules.any selected with
  | true => rfl
  | false => rw [map_unselected selected change tables.rules present]; rfl

theorem perform_mailbox_update (selected : MailboxRow → Bool) (change : MailboxRow → MailboxRow)
    (subject : String) (tables : Tables) :
    (do let found ← updateMailboxes selected change; orNotFound found subject : Action Unit).perform
        tables =
      settled (Write.refuseUnless (tables.mailboxes.any selected) (.notFound subject)) ()
        { tables with
          mailboxes := tables.mailboxes.map fun row => if selected row then change row else row }
        tables := by
  simp only [perform_bind, perform_update_mailboxes, perform_or_not_found]
  cases present : tables.mailboxes.any selected with
  | true => rfl
  | false => rw [map_unselected selected change tables.mailboxes present]; rfl

end Primitives

section Queues

theorem clear_mark_deleted (company : CompanyId) (stamp : Instant) (row : Queue) :
    (clearMark company stamp row).isDeleted = row.isDeleted := by
  unfold clearMark
  split <;> rfl

@[simp] theorem perform_clear_default (company : CompanyId) (stamp : Instant) (tables : Tables) :
    (clearDefault company stamp).perform tables =
      (.ok (), { tables with queues := tables.queues.map (clearMark company stamp) }) := rfl

theorem perform_require_queue (id : QueueId) (queue : Queue) (tables : Tables)
    (found : tables.queue? id = some queue) :
    (requireQueue id).perform tables = (.ok queue, tables) := by
  simp only [requireQueue, perform_bind, perform_get, found, perform_pure]

def putQueue (id : QueueId) (createdAt stamp : Instant) (request : NewQueue) : Action Unit := do
  if request.isDefault then clearDefault request.companyId stamp
  insertQueue (queueRow id createdAt stamp request)

theorem create_queue_eq (id : QueueId) (createdAt stamp : Instant) (request : NewQueue) :
    createQueue id createdAt stamp request =
      ((putQueue id createdAt stamp request).transaction >>= fun _ => requireQueue id) := rfl

theorem perform_put_queue (id : QueueId) (createdAt stamp : Instant) (request : NewQueue)
    (tables : Tables) :
    (putQueue id createdAt stamp request).perform tables =
      settled ((Write.createQueue id createdAt stamp request).refusal? tables) ()
        ((Write.createQueue id createdAt stamp request).applied tables)
        { tables with
          queues := tables.queues.map (Write.createQueue id createdAt stamp request).onQueue } := by
  have others : (Write.createQueue id createdAt stamp request).applied tables = { tables with
      queues := tables.queues.map (Write.createQueue id createdAt stamp request).onQueue ++
        [queueRow id createdAt stamp request] } :=
    applied_to_queues _ tables (fun _ => rfl) rfl (fun _ => rfl) rfl
  rw [others]
  cases marked : request.isDefault with
  | true =>
    simp [putQueue, Write.onQueue, Write.refusal?, marked, queueRow, Function.comp_def,
      (clear_mark_same request.companyId stamp _).id]
  | false => simp [putQueue, Write.onQueue, Write.refusal?, marked, queueRow]

theorem perform_create_queue (id : QueueId) (createdAt stamp : Instant) (request : NewQueue)
    (tables : Tables) :
    (createQueue id createdAt stamp request).perform tables =
      settled ((Write.createQueue id createdAt stamp request).refusal? tables)
        (queueRow id createdAt stamp request)
        ((Write.createQueue id createdAt stamp request).applied tables) tables := by
  rw [create_queue_eq, perform_bind,
    transaction_settled _ _ _ _ tables ⟨_, perform_put_queue id createdAt stamp request tables⟩]
  cases refused : (Write.createQueue id createdAt stamp request).refusal? tables with
  | some fault => rfl
  | none =>
    refine perform_require_queue id (queueRow id createdAt stamp request) _ ?_
    apply find_new (fun row : Queue => row.id == id) _ _ ?_ (beq_self_eq_true id)
    have fresh := (refuse_unless_none _ _).mp refused
    rw [List.any_map]
    simpa only [Function.comp_def, on_queue_id, Bool.not_eq_true'] using fresh

theorem perform_set_default_queue (company : CompanyId) (id : QueueId) (stamp : Instant)
    (tables : Tables) :
    (setDefaultQueue company id stamp).perform tables =
      (Write.setDefaultQueue company id stamp).outcome tables := by
  let mark (row : Queue) : Queue := { row with isDefault := true, updatedAt := stamp }
  -- The target is sought among the cleared rows, which are the same ones.
  have sought : isLiveQueueOf company id ∘ clearMark company stamp = isLiveQueueOf company id := by
    funext row
    have same := clear_mark_same company stamp row
    simp only [Function.comp_apply, isLiveQueueOf, same.id, same.companyId, clear_mark_deleted]
  have marked : (fun row => if isLiveQueueOf company id row then mark row else row) ∘
      clearMark company stamp = (Write.setDefaultQueue company id stamp).onQueue := by
    funext row
    have same := congrFun sought row
    simp only [Function.comp_apply] at same
    simp only [Function.comp_apply, same, Write.onQueue, mark]
    split
    · unfold clearMark
      split <;> rfl
    · rfl
  have changed : (do
        clearDefault company stamp
        let found ← updateQueues (isLiveQueueOf company id) mark
        orNotFound found ("queue " ++ id.text ++ " for company " ++ company.text) :
          Action Unit).perform tables =
      settled ((Write.setDefaultQueue company id stamp).refusal? tables) ()
        ((Write.setDefaultQueue company id stamp).applied tables)
        { tables with queues := tables.queues.map (clearMark company stamp) } := by
    rw [perform_bind, perform_clear_default]
    refine (perform_queue_update _ _ _ _).trans ?_
    rw [List.any_map, sought, List.map_map, marked,
      applied_to_queues _ tables (fun _ => rfl) rfl (fun _ => rfl) rfl]
    simp only [Write.refusal?, Write.newQueues, List.append_nil]
  exact transaction_settled _ _ _ _ tables ⟨_, changed⟩

end Queues

section Rules

theorem parse_match_type_name (matchType : MatchType) :
    MatchType.parse matchType.name = .ok matchType := by
  have known : MatchType.ofText? matchType.name = some matchType := by
    cases matchType <;> decide +kernel
  simp only [MatchType.parse, known]

theorem parse_match_operator_name (matchOperator : MatchOperator) :
    MatchOperator.parse matchOperator.name = .ok matchOperator := by
  have known : MatchOperator.ofText? matchOperator.name = some matchOperator := by
    cases matchOperator <;> decide +kernel
  simp only [MatchOperator.parse, known]

theorem read_named (row : RuleRow) (matchType : MatchType) (matchOperator : MatchOperator)
    (queueName : String) (typeNamed : row.matchType = matchType.name)
    (operatorNamed : row.matchOperator = matchOperator.name) :
    ∃ rule, row.read queueName = .ok rule := by
  unfold RuleRow.read
  rw [typeNamed, operatorNamed, parse_match_type_name, parse_match_operator_name]
  exact ⟨_, rfl⟩

theorem perform_require_rule (id : RuleId) (rule : RoutingRule) (tables : Tables)
    (found : tables.rule? id = .ok (some rule)) :
    (requireRule id).perform tables = (.ok rule, tables) := by
  simp only [requireRule, perform_bind, perform_get, found, perform_lift, perform_pure]

theorem perform_next_sort_order (company : CompanyId) (tables : Tables) :
    (nextSortOrder company).perform tables =
      settled (Write.refuseUnless (!tables.lastSortOrder company == Int64.maxValue)
          (.database .sortOrderOverflow))
        (tables.lastSortOrder company + 1) tables tables := by
  simp only [nextSortOrder, perform_bind, perform_get, perform_ite, perform_throw, perform_pure]
  cases tables.lastSortOrder company == Int64.maxValue <;> rfl

def putRule (row : RuleRow) : Action Unit := do
  insertRule row
  requireQueueExists row.queueId

def putRefusal? (tables : Tables) (row : RuleRow) : Option RoutingError :=
  if tables.rules.any (·.id == row.id) then some (.database (.duplicateKey "routing_rules.id"))
  else Write.refuseUnless (tables.queues.any (·.id == row.queueId)) (.database .unknownQueue)

theorem perform_put_rule (row : RuleRow) (tables : Tables) :
    (putRule row).transaction.perform tables =
      settled (putRefusal? tables row) () { tables with rules := tables.rules ++ [row] } tables := by
  apply transaction_settled
  simp only [putRule, perform_bind, perform_insert_rule, putRefusal?]
  cases tables.rules.any (·.id == row.id) with
  | true => exact ⟨tables, rfl⟩
  | false => exact ⟨_, perform_require_queue_exists row.queueId _⟩

theorem perform_put_required (row : RuleRow) (rule : RoutingRule) (tables : Tables)
    (readable : tables.readRule row = .ok rule) :
    ((putRule row).transaction >>= fun _ => requireRule row.id).perform tables =
      settled (putRefusal? tables row) rule { tables with rules := tables.rules ++ [row] }
        tables := by
  rw [perform_bind, perform_put_rule]
  cases refused : putRefusal? tables row with
  | some fault => rfl
  | none =>
    have fresh : tables.rules.any (·.id == row.id) = false := by
      unfold putRefusal? at refused
      split at refused
      · simp at refused
      · rename_i absent
        exact (Bool.not_eq_true _).mp absent
    have found := find_new (·.id == row.id) tables.rules row fresh (beq_self_eq_true row.id)
    refine perform_require_rule row.id rule _ ?_
    simp only [Tables.rule?, found]
    exact congrArg (Except.map some) readable

theorem create_rule_at (id : RuleId) (createdAt stamp : Instant) (request : NewRule)
    (order : Int64) (placed : request.sortOrder = some order) :
    createRule id createdAt stamp request =
      ((putRule (ruleRow id createdAt stamp order request)).transaction >>= fun _ =>
        requireRule id) := by
  simp only [createRule, placed]
  rfl

theorem create_rule_last (id : RuleId) (createdAt stamp : Instant) (request : NewRule)
    (unplaced : request.sortOrder = none) :
    createRule id createdAt stamp request =
      (nextSortOrder request.companyId >>= fun order =>
        (putRule (ruleRow id createdAt stamp order request)).transaction >>= fun _ =>
          requireRule id) := by
  simp only [createRule, unplaced]
  rfl

theorem created_tables (id : RuleId) (createdAt stamp : Instant) (request : NewRule)
    (tables : Tables) :
    (Write.createRule id createdAt stamp request).applied tables = { tables with
      rules := tables.rules ++ [ruleRow id createdAt stamp
        (request.sortOrder.getD (tables.lastSortOrder request.companyId + 1)) request] } := by
  rw [applied_to_rules _ tables (fun _ => rfl) rfl (fun _ => rfl) rfl]
  simp only [Write.onRule, List.map_id', Write.newRules]

theorem perform_create_rule (id : RuleId) (createdAt stamp : Instant) (request : NewRule)
    (tables : Tables) :
    ∃ rule, tables.readRule (ruleRow id createdAt stamp
        (request.sortOrder.getD (tables.lastSortOrder request.companyId + 1)) request) = .ok rule ∧
      (createRule id createdAt stamp request).perform tables =
        settled ((Write.createRule id createdAt stamp request).refusal? tables) rule
          ((Write.createRule id createdAt stamp request).applied tables) tables := by
  rw [created_tables]
  obtain ⟨rule, reads⟩ := read_named
    (ruleRow id createdAt stamp
      (request.sortOrder.getD (tables.lastSortOrder request.companyId + 1)) request)
    request.matchType request.matchOperator (tables.queueName request.queueId) rfl rfl
  refine ⟨rule, reads, ?_⟩
  -- Without a place the last one is asked for first, which can fail before anything is written.
  cases placed : request.sortOrder with
  | some order =>
    rw [placed] at reads
    rw [create_rule_at id createdAt stamp request order placed]
    refine (perform_put_required _ rule tables reads).trans ?_
    simp [Write.refusal?, placed, putRefusal?, ruleRow]
  | none =>
    rw [placed] at reads
    rw [create_rule_last id createdAt stamp request placed, perform_bind, perform_next_sort_order]
    cases full : tables.lastSortOrder request.companyId == Int64.maxValue with
    | true => simp [Write.refusal?, placed, full, settled, Write.refuseUnless]
    | false =>
      refine (perform_put_required _ rule tables reads).trans ?_
      simp [Write.refusal?, placed, full, putRefusal?, ruleRow]

theorem known_row {id : RuleId} {rule : RoutingRule} {tables : Tables}
    (known : tables.rule? id = .ok (some rule)) :
    ∃ row, tables.rules.find? (·.id == id) = some row ∧ row.id = id ∧
      tables.readRule row = .ok rule := by
  unfold Tables.rule? at known
  cases found : tables.rules.find? (·.id == id) with
  | none => simp [found] at known
  | some row =>
    refine ⟨row, rfl, by simpa using List.find?_some found, ?_⟩
    simp only [found] at known
    cases outcome : tables.readRule row with
    | error fault => simp [outcome, Except.map] at known
    | ok other => simpa [outcome, Except.map] using known

theorem perform_read_for_update (id : RuleId) (tables : Tables) :
    (readForUpdate id).perform tables =
      match tables.rule? id with
      | .error fault => (.error fault, tables)
      | .ok none => (.error (.notFound ("routing rule " ++ id.text)), tables)
      | .ok (some rule) =>
        settled (Write.refuseUnless (!rule.isDeleted) (.notFound ("routing rule " ++ id.text)))
          rule tables tables := by
  simp only [readForUpdate, perform_bind, perform_get, perform_lift]
  cases tables.rule? id with
  | error fault => rfl
  | ok known =>
    cases known with
    | none => rfl
    | some rule =>
      simp only [perform_bind, perform_or_not_found, perform_pure]
      cases rule.isDeleted <;> rfl

theorem perform_write_updated (id : RuleId) (rule : RoutingRule) (stamp : Instant) (row : RuleRow)
    (tables : Tables) (found : tables.rules.find? (·.id == id) = some row) :
    ∃ written, (row.overwrite rule stamp).read (tables.queueName rule.queue.id) = .ok written ∧
      (writeUpdated id rule stamp).perform tables =
        settled (Write.refuseUnless (tables.queues.any (·.id == rule.queue.id))
            (.database .unknownQueue)) written
          { tables with rules := tables.rules.map fun row =>
              if row.id == id then row.overwrite rule stamp else row } tables := by
  have hit := List.find?_some found
  have present : tables.rules.any (·.id == id) = true :=
    List.any_eq_true.mpr ⟨row, List.mem_of_find?_eq_some found, hit⟩
  obtain ⟨written, reads⟩ := read_named (row.overwrite rule stamp) rule.matchType
    rule.matchOperator (tables.queueName rule.queue.id) rfl rfl
  have changed : (do
        let found ← updateRules (fun row => row.id == id) fun row => row.overwrite rule stamp
        if found then requireQueueExists rule.queue.id : Action Unit).transaction.perform tables =
      settled (Write.refuseUnless (tables.queues.any (·.id == rule.queue.id))
          (.database .unknownQueue)) ()
        { tables with rules := tables.rules.map fun row =>
            if row.id == id then row.overwrite rule stamp else row } tables := by
    apply transaction_settled
    simp only [perform_bind, perform_update_rules, present, ↓reduceIte]
    exact ⟨_, perform_require_queue_exists rule.queue.id _⟩
  refine ⟨written, reads, ?_⟩
  unfold writeUpdated
  rw [perform_bind, changed]
  cases tables.queues.any (·.id == rule.queue.id) with
  | false => rfl
  | true =>
    -- The row is read back as it was written, its match type and operator by their names.
    refine perform_require_rule id written _ ?_
    have same : ((fun row : RuleRow => row.id == id) ∘ fun row =>
        if row.id == id then row.overwrite rule stamp else row) = fun row => row.id == id := by
      funext row
      simp only [Function.comp_apply]
      split <;> rfl
    simp only [Tables.rule?, List.find?_map, same, found, Option.map_some, hit, ↓reduceIte]
    exact congrArg (Except.map some) reads

theorem updated_tables {id : RuleId} {rule : RoutingRule} {changes : RuleChanges} {stamp : Instant}
    {tables : Tables} (known : tables.rule? id = .ok (some rule)) :
    (Write.updateRule id changes stamp).applied tables = { tables with
      rules := tables.rules.map fun row =>
        if row.id == id then row.overwrite (changes.apply rule) stamp else row } := by
  rw [applied_to_rules _ tables (fun _ => rfl) rfl (fun _ => rfl) rfl]
  simp only [Write.onRule, known, Write.newRules, List.append_nil]

theorem perform_update_rule (id : RuleId) (changes : RuleChanges) (stamp : Instant)
    (tables : Tables) :
    (Write.updateRule id changes stamp).action.perform tables =
      (Write.updateRule id changes stamp).outcome tables := by
  unfold Write.action updateRule Write.outcome
  rw [perform_bind, perform_bind, perform_read_for_update]
  cases known : tables.rule? id with
  | error fault => simp [Write.refusal?, known, settled]
  | ok answer =>
    cases answer with
    | none => simp [Write.refusal?, known, settled]
    | some rule =>
      cases deleted : rule.isDeleted with
      | true => simp [Write.refusal?, known, deleted, settled, Write.refuseUnless]
      | false =>
        obtain ⟨row, found, -, -⟩ := known_row known
        obtain ⟨written, -, performed⟩ :=
          perform_write_updated id (changes.apply rule) stamp row tables found
        simp only [Write.refusal?, known, deleted, updated_tables known, Bool.not_false, Write.refuseUnless,
          Bool.false_eq_true, ↓reduceIte, settled]
        rw [performed]
        cases tables.queues.any (·.id == (changes.apply rule).queue.id) <;> rfl

theorem perform_renumber_cons (company : CompanyId) (stamp : Instant) (position : Nat)
    (id : RuleId) (rest : List RuleId) (tables : Tables) :
    (renumber company stamp position (id :: rest)).perform tables =
      if tables.rules.any (isLiveRuleOf company id) then
        (renumber company stamp (position + 1) rest).perform
          { tables with rules := tables.rules.map (numberRow company stamp position id) }
      else (.error (.notFound ("routing rule " ++ id.text ++ " for company " ++ company.text)),
        { tables with rules := tables.rules.map (numberRow company stamp position id) }) := by
  have selected : (fun row : RuleRow => row.id == id && row.companyId == company &&
      !row.isDeleted) = isLiveRuleOf company id := rfl
  rw [renumber, selected, perform_bind, perform_update_rules]
  simp only [perform_bind, perform_or_not_found]
  cases tables.rules.any (isLiveRuleOf company id) <;> rfl

-- Numbering a rule leaves it what it was looked for as.
theorem live_after_numbering (company : CompanyId) (stamp : Instant) (position : Nat)
    (id other : RuleId) :
    isLiveRuleOf company other ∘ numberRow company stamp position id =
      isLiveRuleOf company other := by
  funext row
  simp only [Function.comp_apply, numberRow]
  split <;> rfl

/-- The numbering stops at the first rule that is not one of the company; what it did until then is
left to the transaction. -/
theorem perform_renumber (company : CompanyId) (stamp : Instant) (position : Nat)
    (ids : List RuleId) (tables : Tables) :
    ∃ left, (renumber company stamp position ids).perform tables =
      settled ((Write.reorderRules company ids stamp).refusal? tables) ()
        { tables with rules := tables.rules.map (renumberRow company stamp position ids) }
        left := by
  induction ids generalizing position tables with
  | nil =>
    refine ⟨tables, ?_⟩
    simp [renumber, renumberRow, Write.refusal?, settled]
  | cons id rest ih =>
    rw [perform_renumber_cons]
    cases present : tables.rules.any (isLiveRuleOf company id) with
    | true =>
      -- The rest meets rows that are numbered already, but still the rules that it looks for.
      obtain ⟨left, performed⟩ := ih (position + 1)
        { tables with rules := tables.rules.map (numberRow company stamp position id) }
      refine ⟨left, performed.trans ?_⟩
      simp only [Write.refusal?, List.find?_cons, List.any_map, live_after_numbering, present,
        Bool.not_true, List.map_map]
      rfl
    | false =>
      refine ⟨{ tables with
        rules := tables.rules.map (numberRow company stamp position id) }, ?_⟩
      simp [Write.refusal?, present, settled]

theorem reordered_tables (company : CompanyId) (ids : List RuleId) (stamp : Instant)
    (tables : Tables) :
    (Write.reorderRules company ids stamp).applied tables =
      { tables with rules := tables.rules.map (renumberRow company stamp 1 ids) } := by
  rw [applied_to_rules _ tables (fun _ => rfl) rfl (fun _ => rfl) rfl]
  simp only [Write.onRule, Write.newRules, List.append_nil]

theorem perform_reorder_rules (company : CompanyId) (ids : List RuleId) (stamp : Instant)
    (tables : Tables) :
    (reorderRules company ids stamp).perform tables =
      (Write.reorderRules company ids stamp).outcome tables := by
  unfold Write.outcome
  rw [reordered_tables]
  exact transaction_settled _ _ _ _ tables (perform_renumber company stamp 1 ids tables)

end Rules

section Mailboxes

theorem perform_require_mailbox (id : MailboxId) (row : MailboxRow) (tables : Tables)
    (found : tables.mailboxes.find? (·.id == id) = some row) :
    (requireMailbox id).perform tables = (.ok row.toMailbox, tables) := by
  simp only [requireMailbox, perform_bind, perform_get, Tables.mailbox?, found, Option.map_some,
    perform_pure]

theorem create_mailbox_eq (defaultInterval : UInt32) (id : MailboxId) (createdAt stamp : Instant)
    (request : NewMailbox) :
    createMailbox defaultInterval id createdAt stamp request =
      (insertMailbox (mailboxRow defaultInterval id createdAt stamp request) >>= fun _ =>
        requireMailbox id) := rfl

theorem perform_create_mailbox (defaultInterval : UInt32) (id : MailboxId)
    (createdAt stamp : Instant) (request : NewMailbox) (tables : Tables) :
    (createMailbox defaultInterval id createdAt stamp request).perform tables =
      settled ((Write.createMailbox defaultInterval id createdAt stamp request).refusal? tables)
        (mailboxRow defaultInterval id createdAt stamp request).toMailbox
        ((Write.createMailbox defaultInterval id createdAt stamp request).applied tables)
        tables := by
  have added : (Write.createMailbox defaultInterval id createdAt stamp request).applied tables =
      { tables with mailboxes :=
          tables.mailboxes ++ [mailboxRow defaultInterval id createdAt stamp request] } := by
    rw [applied_to_mailboxes _ tables (fun _ => rfl) rfl (fun _ => rfl) rfl]
    simp only [Write.onMailbox, List.map_id', Write.newMailboxes]
  rw [create_mailbox_eq, perform_bind, perform_insert_mailbox, added]
  simp only [Write.refusal?]
  cases taken : tables.mailboxes.any (·.id == id) with
  | true => simp [mailboxRow, taken, Write.refuseUnless, settled]
  | false =>
    have found := find_new (·.id == id) tables.mailboxes
      (mailboxRow defaultInterval id createdAt stamp request) taken (beq_self_eq_true id)
    simp only [mailboxRow, taken, Bool.not_false, Write.refuseUnless, ↓reduceIte, settled]
    exact perform_require_mailbox id _ _ found

end Mailboxes

/-- Carrying out a write comes to its outcome. -/
theorem perform_action (write : Write) (tables : Tables) :
    write.action.perform tables = write.outcome tables := by
  -- What is not created is changed by one of the three updates, or has its own lemma above.
  cases write with
  | createQueue id createdAt stamp request =>
    exact perform_discard _ _ _ _ tables (perform_create_queue id createdAt stamp request tables)
  | setDefaultQueue company id stamp => exact perform_set_default_queue company id stamp tables
  | createRule id createdAt stamp request =>
    obtain ⟨rule, -, performed⟩ := perform_create_rule id createdAt stamp request tables
    exact perform_discard _ _ _ _ tables performed
  | updateRule id changes stamp => exact perform_update_rule id changes stamp tables
  | reorderRules company ids stamp => exact perform_reorder_rules company ids stamp tables
  | createMailbox defaultInterval id createdAt stamp request =>
    exact perform_discard _ _ _ _ tables
      (perform_create_mailbox defaultInterval id createdAt stamp request tables)
  | setQueueActive | deleteQueue =>
    refine (perform_queue_update _ _ _ tables).trans ?_
    rw [Write.outcome, applied_to_queues _ tables (fun _ => rfl) rfl (fun _ => rfl) rfl]
    simp only [Write.refusal?, Write.onQueue, Write.newQueues, List.append_nil]
  | setRuleActive | deleteRule =>
    refine (perform_rule_update _ _ _ tables).trans ?_
    rw [Write.outcome, applied_to_rules _ tables (fun _ => rfl) rfl (fun _ => rfl) rfl]
    simp only [Write.refusal?, Write.onRule, Write.newRules, List.append_nil]
  | markPolled | setMailboxActive | deleteMailbox =>
    refine (perform_mailbox_update _ _ _ tables).trans ?_
    rw [Write.outcome, applied_to_mailboxes _ tables (fun _ => rfl) rfl (fun _ => rfl) rfl]
    simp only [Write.refusal?, Write.onMailbox, Write.newMailboxes, List.append_nil]

end TicketRouting.Store
