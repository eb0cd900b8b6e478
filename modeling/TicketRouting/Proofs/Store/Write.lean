import TicketRouting.Store.Mailboxes
import TicketRouting.Store.Rules
/-!
The writes of the store as data. `Write.action` is what the store does; beside it stands what a write
comes to, row by row: why it is refused (`refusal?`), what becomes of each row that is there, and
which rows are added (`applied`). `outcome` puts these together.
-/
namespace TicketRouting.Store

/-- What the stores may be asked to write. Identifiers and instants, which a store draws by itself,
are given here. -/
inductive Write where
  | createQueue (id : QueueId) (createdAt stamp : Instant) (request : NewQueue)
  | setDefaultQueue (company : CompanyId) (id : QueueId) (stamp : Instant)
  | setQueueActive (id : QueueId) (active : Bool) (stamp : Instant)
  | deleteQueue (id : QueueId) (stamp : Instant)
  | createRule (id : RuleId) (createdAt stamp : Instant) (request : NewRule)
  | updateRule (id : RuleId) (changes : RuleChanges) (stamp : Instant)
  | reorderRules (company : CompanyId) (ids : List RuleId) (stamp : Instant)
  | setRuleActive (id : RuleId) (active : Bool) (stamp : Instant)
  | deleteRule (id : RuleId) (stamp : Instant)
  | createMailbox (defaultInterval : UInt32) (id : MailboxId) (createdAt stamp : Instant)
    (request : NewMailbox)
  | markPolled (id : MailboxId) (polledAt stamp : Instant)
  | setMailboxActive (id : MailboxId) (active : Bool) (stamp : Instant)
  | deleteMailbox (id : MailboxId) (stamp : Instant)

def queueRow (id : QueueId) (createdAt stamp : Instant) (request : NewQueue) : Queue where
  id := id
  companyId := request.companyId
  name := request.name
  description := request.description
  isDefault := request.isDefault
  isActive := true
  isDeleted := false
  createdAt := createdAt
  updatedAt := stamp

def ruleRow (id : RuleId) (createdAt stamp : Instant) (sortOrder : Int64) (request : NewRule) :
    RuleRow where
  id := id
  companyId := request.companyId
  queueId := request.queueId
  name := request.name
  description := request.description
  matchType := request.matchType.name
  matchOperator := request.matchOperator.name
  matchValue := request.matchValue
  sortOrder := sortOrder
  isActive := true
  isDeleted := false
  autoAssignAgentId := request.autoAssignAgentId
  priorityOverride := request.priorityOverride.map (·.name)
  tagsToAdd := request.tagsToAdd
  createdAt := createdAt
  updatedAt := stamp

def mailboxRow (defaultInterval : UInt32) (id : MailboxId) (createdAt stamp : Instant)
    (request : NewMailbox) : MailboxRow where
  id := id
  companyId := request.companyId
  name := request.name
  address := request.address
  intervalMinutes := Int64.ofNat (request.pollingIntervalMinutes.getD defaultInterval).toNat
  lastPolledAt := none
  isActive := true
  isDeleted := false
  createdAt := createdAt
  updatedAt := stamp

def isLiveQueueOf (company : CompanyId) (id : QueueId) (row : Queue) : Bool :=
  row.id == id && row.companyId == company && !row.isDeleted

def isLiveRuleOf (company : CompanyId) (id : RuleId) (row : RuleRow) : Bool :=
  row.id == id && row.companyId == company && !row.isDeleted

def clearMark (company : CompanyId) (stamp : Instant) (row : Queue) : Queue :=
  if row.companyId == company && row.isDefault then
    { row with isDefault := false, updatedAt := stamp }
  else row

def numberRow (company : CompanyId) (stamp : Instant) (position : Nat) (id : RuleId)
    (row : RuleRow) : RuleRow :=
  if isLiveRuleOf company id row then
    { row with sortOrder := Int64.ofNat position, updatedAt := stamp }
  else row

/-- The row of a rule after a numbering; of a rule named twice the later place counts. -/
def renumberRow (company : CompanyId) (stamp : Instant) (position : Nat) :
    List RuleId → RuleRow → RuleRow
  | [], row => row
  | id :: rest, row =>
    renumberRow company stamp (position + 1) rest (numberRow company stamp position id row)

namespace Write

/-- What the store does; the value that a creation or a change gives back is left out. -/
def action : Write → Action Unit
  | createQueue id createdAt stamp request => do
    let _ ← Store.createQueue id createdAt stamp request
  | setDefaultQueue company id stamp => Store.setDefaultQueue company id stamp
  | setQueueActive id active stamp => Store.setQueueActive id active stamp
  | deleteQueue id stamp => Store.deleteQueue id stamp
  | createRule id createdAt stamp request => do
    let _ ← Store.createRule id createdAt stamp request
  | updateRule id changes stamp => do
    let _ ← Store.updateRule id changes stamp
  | reorderRules company ids stamp => Store.reorderRules company ids stamp
  | setRuleActive id active stamp => Store.setRuleActive id active stamp
  | deleteRule id stamp => Store.deleteRule id stamp
  | createMailbox defaultInterval id createdAt stamp request => do
    let _ ← Store.createMailbox defaultInterval id createdAt stamp request
  | markPolled id polledAt stamp => Store.markPolled id polledAt stamp
  | setMailboxActive id active stamp => Store.setMailboxActive id active stamp
  | deleteMailbox id stamp => Store.deleteMailbox id stamp

def refuseUnless (met : Bool) (fault : RoutingError) : Option RoutingError :=
  if met then none else some fault

def refusal? (tables : Tables) : Write → Option RoutingError
  | createQueue id _ _ _ =>
    refuseUnless (!tables.queues.any (·.id == id)) (.database (.duplicateKey "queues.id"))
  | setDefaultQueue company id _ =>
    refuseUnless (tables.queues.any (isLiveQueueOf company id))
      (.notFound ("queue " ++ id.text ++ " for company " ++ company.text))
  | setQueueActive id _ _ =>
    refuseUnless (tables.queues.any (isLiveQueue id)) (.notFound ("queue " ++ id.text))
  | deleteQueue id _ =>
    refuseUnless (tables.queues.any (isLiveQueue id)) (.notFound ("queue " ++ id.text))
  | createRule id _ _ request =>
    if request.sortOrder.isNone && tables.lastSortOrder request.companyId == Int64.maxValue then
      some (.database .sortOrderOverflow)
    else if tables.rules.any (·.id == id) then
      some (.database (.duplicateKey "routing_rules.id"))
    else refuseUnless (tables.queues.any (·.id == request.queueId)) (.database .unknownQueue)
  | updateRule id changes _ =>
    match tables.rule? id with
    | .error fault => some fault
    | .ok none => some (.notFound ("routing rule " ++ id.text))
    | .ok (some rule) =>
      if rule.isDeleted then some (.notFound ("routing rule " ++ id.text))
      else refuseUnless (tables.queues.any (·.id == (changes.apply rule).queue.id))
        (.database .unknownQueue)
  | reorderRules company ids _ =>
    (ids.find? fun id => !tables.rules.any (isLiveRuleOf company id)).map fun id =>
      .notFound ("routing rule " ++ id.text ++ " for company " ++ company.text)
  | setRuleActive id _ _ =>
    refuseUnless (tables.rules.any (isLiveRule id)) (.notFound ("routing rule " ++ id.text))
  | deleteRule id _ =>
    refuseUnless (tables.rules.any (isLiveRule id)) (.notFound ("routing rule " ++ id.text))
  | createMailbox _ id _ _ _ =>
    refuseUnless (!tables.mailboxes.any (·.id == id))
      (.database (.duplicateKey "mailbox_configs.id"))
  | markPolled id _ _ =>
    refuseUnless (tables.mailboxes.any (isLiveMailbox id)) (.notFound ("mailbox " ++ id.text))
  | setMailboxActive id _ _ =>
    refuseUnless (tables.mailboxes.any (isLiveMailbox id)) (.notFound ("mailbox " ++ id.text))
  | deleteMailbox id _ =>
    refuseUnless (tables.mailboxes.any (isLiveMailbox id)) (.notFound ("mailbox " ++ id.text))

def onQueue : Write → Queue → Queue
  | createQueue _ _ stamp request => fun row =>
    if request.isDefault then clearMark request.companyId stamp row else row
  | setDefaultQueue company id stamp => fun row =>
    if isLiveQueueOf company id row then { row with isDefault := true, updatedAt := stamp }
    else clearMark company stamp row
  | setQueueActive id active stamp => fun row =>
    if isLiveQueue id row then { row with isActive := active, updatedAt := stamp } else row
  | deleteQueue id stamp => fun row =>
    if isLiveQueue id row then { row with isDeleted := true, updatedAt := stamp } else row
  | _ => fun row => row

def newQueues : Write → List Queue
  | createQueue id createdAt stamp request => [queueRow id createdAt stamp request]
  | _ => []

def onRule (tables : Tables) : Write → RuleRow → RuleRow
  | updateRule id changes stamp => fun row =>
    if row.id == id then
      match tables.rule? id with
      | .ok (some rule) => row.overwrite (changes.apply rule) stamp
      | _ => row
    else row
  | reorderRules company ids stamp => renumberRow company stamp 1 ids
  | setRuleActive id active stamp => fun row =>
    if isLiveRule id row then { row with isActive := active, updatedAt := stamp } else row
  | deleteRule id stamp => fun row =>
    if isLiveRule id row then { row with isDeleted := true, updatedAt := stamp } else row
  | _ => fun row => row

def newRules (tables : Tables) : Write → List RuleRow
  | createRule id createdAt stamp request =>
    [ruleRow id createdAt stamp
      (request.sortOrder.getD (tables.lastSortOrder request.companyId + 1)) request]
  | _ => []

def onMailbox : Write → MailboxRow → MailboxRow
  | markPolled id polledAt stamp => fun row =>
    if isLiveMailbox id row then { row with lastPolledAt := some polledAt, updatedAt := stamp }
    else row
  | setMailboxActive id active stamp => fun row =>
    if isLiveMailbox id row then { row with isActive := active, updatedAt := stamp } else row
  | deleteMailbox id stamp => fun row =>
    if isLiveMailbox id row then { row with isDeleted := true, updatedAt := stamp } else row
  | _ => fun row => row

def newMailboxes : Write → List MailboxRow
  | createMailbox defaultInterval id createdAt stamp request =>
    [mailboxRow defaultInterval id createdAt stamp request]
  | _ => []

def applied (tables : Tables) (write : Write) : Tables where
  queues := tables.queues.map write.onQueue ++ write.newQueues
  rules := tables.rules.map (write.onRule tables) ++ write.newRules tables
  mailboxes := tables.mailboxes.map write.onMailbox ++ write.newMailboxes

end Write

/-- What an action comes to that either is refused and leaves the tables, or changes them. -/
def settled {α : Type} (refusal : Option RoutingError) (value : α) (changed tables : Tables) :
    Except RoutingError α × Tables :=
  match refusal with
  | some fault => (.error fault, tables)
  | none => (.ok value, changed)

def Write.outcome (tables : Tables) (write : Write) : Except RoutingError Unit × Tables :=
  settled (write.refusal? tables) () (write.applied tables) tables

section Unchanged

structure SameQueue (before later : Queue) : Prop where
  id : later.id = before.id
  companyId : later.companyId = before.companyId
  name : later.name = before.name
  description : later.description = before.description
  createdAt : later.createdAt = before.createdAt

structure SameRule (before later : RuleRow) : Prop where
  id : later.id = before.id
  companyId : later.companyId = before.companyId
  createdAt : later.createdAt = before.createdAt

structure SameMailbox (before later : MailboxRow) : Prop where
  id : later.id = before.id
  companyId : later.companyId = before.companyId
  name : later.name = before.name
  address : later.address = before.address
  intervalMinutes : later.intervalMinutes = before.intervalMinutes
  createdAt : later.createdAt = before.createdAt

theorem clear_mark_same (company : CompanyId) (stamp : Instant) (row : Queue) :
    SameQueue row (clearMark company stamp row) := by
  unfold clearMark
  split <;> exact ⟨rfl, rfl, rfl, rfl, rfl⟩

theorem on_queue_same (write : Write) (row : Queue) : SameQueue row (write.onQueue row) := by
  cases write with
  | createQueue _ _ stamp request =>
    simp only [Write.onQueue]
    split
    · exact clear_mark_same _ _ _
    · exact ⟨rfl, rfl, rfl, rfl, rfl⟩
  | setDefaultQueue company id stamp =>
    simp only [Write.onQueue]
    split
    · exact ⟨rfl, rfl, rfl, rfl, rfl⟩
    · exact clear_mark_same _ _ _
  | setQueueActive | deleteQueue =>
    simp only [Write.onQueue]
    split <;> exact ⟨rfl, rfl, rfl, rfl, rfl⟩
  | _ => exact ⟨rfl, rfl, rfl, rfl, rfl⟩

theorem renumber_row_keeps {β : Type} (column : RuleRow → β)
    (kept : ∀ (order : Int64) (stamp : Instant) (row : RuleRow),
      column { row with sortOrder := order, updatedAt := stamp } = column row)
    (company : CompanyId) (stamp : Instant) (position : Nat) (ids : List RuleId) (row : RuleRow) :
    column (renumberRow company stamp position ids row) = column row := by
  induction ids generalizing position row with
  | nil => rfl
  | cons id rest ih =>
    rw [renumberRow, ih]
    unfold numberRow
    split
    · exact kept _ _ row
    · rfl

theorem renumber_row_missed (company : CompanyId) (stamp : Instant) (position : Nat)
    (ids : List RuleId) (row : RuleRow) (missed : ∀ id, isLiveRuleOf company id row = false) :
    renumberRow company stamp position ids row = row := by
  induction ids generalizing position with
  | nil => rfl
  | cons id rest ih =>
    have skipped : numberRow company stamp position id row = row :=
      if_neg (by simp [missed id])
    rw [renumberRow, skipped]
    exact ih (position + 1)

theorem renumber_row_same (company : CompanyId) (stamp : Instant) (position : Nat)
    (ids : List RuleId) (row : RuleRow) :
    SameRule row (renumberRow company stamp position ids row) where
  id := renumber_row_keeps (·.id) (fun _ _ _ => rfl) ..
  companyId := renumber_row_keeps (·.companyId) (fun _ _ _ => rfl) ..
  createdAt := renumber_row_keeps (·.createdAt) (fun _ _ _ => rfl) ..

theorem on_rule_same (tables : Tables) (write : Write) (row : RuleRow) :
    SameRule row (write.onRule tables row) := by
  cases write with
  | updateRule id changes stamp =>
    simp only [Write.onRule]
    split
    · split <;> exact ⟨rfl, rfl, rfl⟩
    · exact ⟨rfl, rfl, rfl⟩
  | reorderRules company ids stamp => exact renumber_row_same company stamp 1 ids row
  | setRuleActive | deleteRule =>
    simp only [Write.onRule]
    split <;> exact ⟨rfl, rfl, rfl⟩
  | _ => exact ⟨rfl, rfl, rfl⟩

theorem on_mailbox_same (write : Write) (row : MailboxRow) :
    SameMailbox row (write.onMailbox row) := by
  cases write with
  | markPolled | setMailboxActive | deleteMailbox =>
    simp only [Write.onMailbox]
    split <;> exact ⟨rfl, rfl, rfl, rfl, rfl, rfl⟩
  | _ => exact ⟨rfl, rfl, rfl, rfl, rfl, rfl⟩

variable (write : Write) (tables : Tables)

@[simp] theorem on_queue_id (row : Queue) : (write.onQueue row).id = row.id :=
  (on_queue_same write row).id

@[simp] theorem on_queue_company (row : Queue) : (write.onQueue row).companyId = row.companyId :=
  (on_queue_same write row).companyId

@[simp] theorem on_queue_name (row : Queue) : (write.onQueue row).name = row.name :=
  (on_queue_same write row).name

@[simp] theorem on_rule_id (row : RuleRow) : (write.onRule tables row).id = row.id :=
  (on_rule_same tables write row).id

@[simp] theorem on_rule_company (row : RuleRow) :
    (write.onRule tables row).companyId = row.companyId :=
  (on_rule_same tables write row).companyId

@[simp] theorem on_mailbox_id (row : MailboxRow) : (write.onMailbox row).id = row.id :=
  (on_mailbox_same write row).id

end Unchanged

end TicketRouting.Store
