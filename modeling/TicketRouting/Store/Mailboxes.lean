import TicketRouting.Polling.Pass
import TicketRouting.Store.Requests
import TicketRouting.Store.Tables
/-!
The mailboxes of the store, and the store as the source of a polling pass.
-/
namespace TicketRouting.Store

/-- An interval as mailboxes have it: what is out of bounds counts as the nearest bound. -/
def intervalOfColumn (minutes : Int64) : UInt32 :=
  UInt32.ofNat (min minutes.toInt.toNat (UInt32.size - 1))

def MailboxRow.toMailbox (row : MailboxRow) : Mailbox where
  id := row.id
  companyId := row.companyId
  name := row.name
  address := row.address
  pollingIntervalMinutes := intervalOfColumn row.intervalMinutes
  lastPolledAt := row.lastPolledAt
  isActive := row.isActive
  isDeleted := row.isDeleted
  createdAt := row.createdAt
  updatedAt := row.updatedAt

namespace Tables

def mailbox? (id : MailboxId) (tables : Tables) : Option Mailbox :=
  (tables.mailboxes.find? fun row => row.id == id).map (·.toMailbox)

def activeMailboxes (tables : Tables) : List Mailbox :=
  ((tables.mailboxes.filter fun row => row.isActive && !row.isDeleted).mergeSort fun left right =>
    firstDifference [compare left.name right.name, compare left.id.text right.id.text]).map
      (·.toMailbox)

end Tables

def requireMailbox (id : MailboxId) : Action Mailbox := do
  match (← get).mailbox? id with
  | some mailbox => return mailbox
  | none => throw (.internal ("mailbox " ++ id.text ++ " missing after write"))

def createMailbox (defaultInterval : UInt32) (id : MailboxId) (createdAt stamp : Instant)
    (request : NewMailbox) : Action Mailbox := do
  let interval := request.pollingIntervalMinutes.getD defaultInterval
  insertMailbox {
    id := id
    companyId := request.companyId
    name := request.name
    address := request.address
    intervalMinutes := Int64.ofNat interval.toNat
    lastPolledAt := none
    isActive := true
    isDeleted := false
    createdAt := createdAt
    updatedAt := stamp }
  requireMailbox id

def isLiveMailbox (id : MailboxId) (row : MailboxRow) : Bool := row.id == id && !row.isDeleted

def markPolled (id : MailboxId) (polledAt stamp : Instant) : Action Unit := do
  let found ← updateMailboxes (isLiveMailbox id) fun row =>
    { row with lastPolledAt := some polledAt, updatedAt := stamp }
  orNotFound found ("mailbox " ++ id.text)

def setMailboxActive (id : MailboxId) (active : Bool) (stamp : Instant) : Action Unit := do
  let found ← updateMailboxes (isLiveMailbox id) fun row =>
    { row with isActive := active, updatedAt := stamp }
  orNotFound found ("mailbox " ++ id.text)

def deleteMailbox (id : MailboxId) (stamp : Instant) : Action Unit := do
  let found ← updateMailboxes (isLiveMailbox id) fun row =>
    { row with isDeleted := true, updatedAt := stamp }
  orNotFound found ("mailbox " ++ id.text)

def mailboxSource (stamp : Instant) : MailboxSource Tables where
  list tables := .ok tables.activeMailboxes
  recordPoll id polledAt tables :=
    match (markPolled id polledAt stamp).perform tables with
    | (.ok (), changed) => .ok changed
    | (.error fault, _) => .error fault

end TicketRouting.Store
