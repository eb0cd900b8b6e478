import TicketRouting.Calendar.Instant
import TicketRouting.RoutingError
import TicketRouting.Ticket.Basic
/-!
The tables that queues, rules and mailboxes are kept in, and what is done to them. No row ever leaves
its table: what is deleted is only marked so. Rows stand in the order in which they were inserted.
-/
namespace TicketRouting.Store

/-- A rule as its table holds it. What a text says is looked at only when the rule is read. -/
structure RuleRow where
  id : RuleId
  companyId : CompanyId
  queueId : QueueId
  name : String
  description : Option String
  matchType : String
  matchOperator : String
  matchValue : String
  sortOrder : Int64
  isActive : Bool
  isDeleted : Bool
  autoAssignAgentId : Option AgentId
  priorityOverride : Option String
  tagsToAdd : Option String
  createdAt : Instant
  updatedAt : Instant
deriving DecidableEq

/-- A mailbox as its table holds it. The interval has more room here than a mailbox has for it. -/
structure MailboxRow where
  id : MailboxId
  companyId : CompanyId
  name : String
  address : String
  intervalMinutes : Int64
  lastPolledAt : Option Instant
  isActive : Bool
  isDeleted : Bool
  createdAt : Instant
  updatedAt : Instant
deriving DecidableEq

structure Tables where
  queues : List Queue := []
  rules : List RuleRow := []
  mailboxes : List MailboxRow := []
deriving DecidableEq

namespace Tables

/-- The identifiers of the rows that were last written at an instant: queues, then rules, then
mailboxes, each in ascending order. -/
def writtenAt (stamp : Instant) (tables : Tables) : List String :=
  let ascending (ids : List String) : List String := ids.mergeSort fun a b => decide (a ≤ b)
  ascending ((tables.queues.filter (·.updatedAt == stamp)).map (·.id.text)) ++
    ascending ((tables.rules.filter (·.updatedAt == stamp)).map (·.id.text)) ++
    ascending ((tables.mailboxes.filter (·.updatedAt == stamp)).map (·.id.text))

end Tables

/-- Something done to the tables. What was done before a failure stays done, unless the whole is a
transaction. -/
abbrev Action := ExceptT RoutingError (StateM Tables)

namespace Action

def perform {α : Type} (action : Action α) (tables : Tables) : Except RoutingError α × Tables :=
  StateT.run (ExceptT.run action) tables

def transaction {α : Type} (action : Action α) : Action α := fun tables =>
  match action.perform tables with
  | (.ok value, changed) => (.ok value, changed)
  | (.error fault, _) => (.error fault, tables)

variable {α β : Type}

@[simp] theorem perform_pure (value : α) (tables : Tables) :
    perform (pure value) tables = (.ok value, tables) := rfl

@[simp] theorem perform_throw (fault : RoutingError) (tables : Tables) :
    perform (throw fault : Action α) tables = (.error fault, tables) := rfl

@[simp] theorem perform_get (tables : Tables) :
    perform (get : Action Tables) tables = (.ok tables, tables) := rfl

@[simp] theorem perform_set (changed tables : Tables) :
    perform (set changed : Action PUnit) tables = (.ok ⟨⟩, changed) := rfl

@[simp] theorem perform_bind (first : Action α) (next : α → Action β) (tables : Tables) :
    (first >>= next).perform tables =
      match first.perform tables with
      | (.ok value, changed) => (next value).perform changed
      | (.error fault, changed) => (.error fault, changed) := by
  simp only [perform, ExceptT.run, bind, ExceptT.bind, ExceptT.mk, StateT.run, StateT.bind]
  cases first tables with
  | mk answer changed => cases answer <;> rfl

theorem perform_transaction (action : Action α) (tables : Tables) :
    action.transaction.perform tables =
      match action.perform tables with
      | (.ok value, changed) => (.ok value, changed)
      | (.error fault, _) => (.error fault, tables) := rfl

end Action

def orNotFound (found : Bool) (subject : String) : Action Unit :=
  if found then pure () else throw (.notFound subject)

def updateQueues (selected : Queue → Bool) (change : Queue → Queue) : Action Bool := do
  let tables ← get
  set { tables with queues := tables.queues.map fun row => if selected row then change row else row }
  return tables.queues.any selected

def updateRules (selected : RuleRow → Bool) (change : RuleRow → RuleRow) : Action Bool := do
  let tables ← get
  set { tables with rules := tables.rules.map fun row => if selected row then change row else row }
  return tables.rules.any selected

def updateMailboxes (selected : MailboxRow → Bool) (change : MailboxRow → MailboxRow) :
    Action Bool := do
  let tables ← get
  set { tables with
    mailboxes := tables.mailboxes.map fun row => if selected row then change row else row }
  return tables.mailboxes.any selected

@[simp] theorem perform_or_not_found (found : Bool) (subject : String) (tables : Tables) :
    (orNotFound found subject).perform tables =
      (if found then .ok () else .error (.notFound subject), tables) := by
  cases found <;> rfl

@[simp] theorem perform_update_queues (selected : Queue → Bool) (change : Queue → Queue)
    (tables : Tables) :
    (updateQueues selected change).perform tables =
      (.ok (tables.queues.any selected), { tables with
        queues := tables.queues.map fun row => if selected row then change row else row }) := rfl

@[simp] theorem perform_update_rules (selected : RuleRow → Bool) (change : RuleRow → RuleRow)
    (tables : Tables) :
    (updateRules selected change).perform tables =
      (.ok (tables.rules.any selected), { tables with
        rules := tables.rules.map fun row => if selected row then change row else row }) := rfl

@[simp] theorem perform_update_mailboxes (selected : MailboxRow → Bool)
    (change : MailboxRow → MailboxRow) (tables : Tables) :
    (updateMailboxes selected change).perform tables =
      (.ok (tables.mailboxes.any selected), { tables with
        mailboxes := tables.mailboxes.map fun row =>
          if selected row then change row else row }) := rfl

/-- A row must name a queue that exists, deleted or not. -/
def requireQueueExists (id : QueueId) : Action Unit := do
  unless (← get).queues.any (·.id == id) do throw (.database .unknownQueue)

def insertQueue (row : Queue) : Action Unit := do
  let tables ← get
  if tables.queues.any (·.id == row.id) then throw (.database (.duplicateKey "queues.id"))
  set { tables with queues := tables.queues ++ [row] }

def insertRule (row : RuleRow) : Action Unit := do
  let tables ← get
  if tables.rules.any (·.id == row.id) then throw (.database (.duplicateKey "routing_rules.id"))
  set { tables with rules := tables.rules ++ [row] }

def insertMailbox (row : MailboxRow) : Action Unit := do
  let tables ← get
  if tables.mailboxes.any (·.id == row.id) then
    throw (.database (.duplicateKey "mailbox_configs.id"))
  set { tables with mailboxes := tables.mailboxes ++ [row] }

def firstDifference (comparisons : List Ordering) : Bool :=
  (comparisons.foldl Ordering.then .eq).isLE

def compareColumns (left right : Instant) : Ordering := compare left.columnText right.columnText

end TicketRouting.Store
