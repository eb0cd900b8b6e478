import TicketRouting.Store.Requests
import TicketRouting.Store.Tables
/-!
The queues of the store. At most one queue of a company is its default: whoever makes a queue the
default takes the mark from all others of the company first.
-/
namespace TicketRouting.Store

namespace Tables

def queue? (id : QueueId) (tables : Tables) : Option Queue :=
  tables.queues.find? fun row => row.id == id

def companyQueues (company : CompanyId) (tables : Tables) : List Queue :=
  (tables.queues.filter fun row => row.companyId == company && !row.isDeleted).mergeSort
    fun left right =>
      firstDifference [compare left.name right.name, compare left.id.text right.id.text]

/-- The default queue of a company; of several the oldest. -/
def defaultQueue? (company : CompanyId) (tables : Tables) : Option Queue :=
  let candidates := tables.queues.filter fun row =>
    row.companyId == company && row.isUsableDefault
  (candidates.mergeSort fun left right =>
    firstDifference [compareColumns left.createdAt right.createdAt,
      compare left.id.text right.id.text]).head?

end Tables

def clearDefault (company : CompanyId) (stamp : Instant) : Action Unit := do
  let _ ← updateQueues (fun row => row.companyId == company && row.isDefault) fun row =>
    { row with isDefault := false, updatedAt := stamp }

def requireQueue (id : QueueId) : Action Queue := do
  match (← get).queue? id with
  | some queue => return queue
  | none => throw (.internal ("queue " ++ id.text ++ " missing after write"))

def createQueue (id : QueueId) (createdAt stamp : Instant) (request : NewQueue) : Action Queue := do
  Action.transaction do
    if request.isDefault then clearDefault request.companyId stamp
    insertQueue {
      id := id
      companyId := request.companyId
      name := request.name
      description := request.description
      isDefault := request.isDefault
      isActive := true
      isDeleted := false
      createdAt := createdAt
      updatedAt := stamp }
  requireQueue id

def setDefaultQueue (company : CompanyId) (id : QueueId) (stamp : Instant) : Action Unit :=
  Action.transaction do
    clearDefault company stamp
    let found ← updateQueues
      (fun row => row.id == id && row.companyId == company && !row.isDeleted)
      fun row => { row with isDefault := true, updatedAt := stamp }
    orNotFound found ("queue " ++ id.text ++ " for company " ++ company.text)

def isLiveQueue (id : QueueId) (row : Queue) : Bool := row.id == id && !row.isDeleted

def setQueueActive (id : QueueId) (active : Bool) (stamp : Instant) : Action Unit := do
  let found ← updateQueues (isLiveQueue id) fun row =>
    { row with isActive := active, updatedAt := stamp }
  orNotFound found ("queue " ++ id.text)

/-- Marks a queue as deleted. Rules that name it stay as they are. -/
def deleteQueue (id : QueueId) (stamp : Instant) : Action Unit := do
  let found ← updateQueues (isLiveQueue id) fun row =>
    { row with isDeleted := true, updatedAt := stamp }
  orNotFound found ("queue " ++ id.text)

end TicketRouting.Store
