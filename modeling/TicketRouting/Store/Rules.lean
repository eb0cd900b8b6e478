import TicketRouting.Store.Queues
/-!
The rules of the store. The name of a rule's queue is not held with the rule but read from the queue.
A row whose match type or operator names none cannot be read as a rule: it is left out of lists, and
asking for it fails.
-/
namespace TicketRouting.Store

/-- A row read as a rule. An override that is no priority counts as none. -/
def RuleRow.read (row : RuleRow) (queueName : String) : Except RoutingError RoutingRule := do
  let matchType ← MatchType.parse row.matchType
  let matchOperator ← MatchOperator.parse row.matchOperator
  return {
    id := row.id
    companyId := row.companyId
    queue := ⟨row.queueId, queueName⟩
    name := row.name
    description := row.description
    matchType := matchType
    matchOperator := matchOperator
    matchValue := row.matchValue
    sortOrder := row.sortOrder
    isActive := row.isActive
    isDeleted := row.isDeleted
    autoAssignAgentId := row.autoAssignAgentId
    priorityOverride := row.priorityOverride.bind TicketPriority.ofText?
    tagsToAdd := row.tagsToAdd
    createdAt := row.createdAt
    updatedAt := row.updatedAt }

def RuleRow.overwrite (rule : RoutingRule) (stamp : Instant) (row : RuleRow) : RuleRow :=
  { row with
    queueId := rule.queue.id
    name := rule.name
    description := rule.description
    matchType := rule.matchType.name
    matchOperator := rule.matchOperator.name
    matchValue := rule.matchValue
    sortOrder := rule.sortOrder
    autoAssignAgentId := rule.autoAssignAgentId
    priorityOverride := rule.priorityOverride.map (·.name)
    tagsToAdd := rule.tagsToAdd
    updatedAt := stamp }

namespace Tables

def queueName (id : QueueId) (tables : Tables) : String :=
  ((tables.queue? id).map (·.name)).getD ""

def readRule (tables : Tables) (row : RuleRow) : Except RoutingError RoutingRule :=
  row.read (tables.queueName row.queueId)

def rule? (id : RuleId) (tables : Tables) : Except RoutingError (Option RoutingRule) :=
  match tables.rules.find? fun row => row.id == id with
  | none => .ok none
  | some row => (tables.readRule row).map some

/-- Those of the selected rows that can be read, in the order in which rules are tried. -/
def rulesWhere (selected : RuleRow → Bool) (tables : Tables) : List RoutingRule :=
  let rows := (tables.rules.filter selected).mergeSort fun left right =>
    firstDifference [compare left.sortOrder right.sortOrder,
      compareColumns left.createdAt right.createdAt, compare left.id.text right.id.text]
  rows.filterMap fun row => (tables.readRule row).toOption

def activeRules (company : CompanyId) (tables : Tables) : List RoutingRule :=
  tables.rulesWhere fun row => row.companyId == company && row.isActive && !row.isDeleted

def companyRules (company : CompanyId) (tables : Tables) : List RoutingRule :=
  tables.rulesWhere fun row => row.companyId == company && !row.isDeleted

/-- The greatest place in the order that a rule of the company has; 0 if it has none. -/
def lastSortOrder (company : CompanyId) (tables : Tables) : Int64 :=
  let orders := (tables.rules.filter fun row => row.companyId == company && !row.isDeleted).map
    (·.sortOrder)
  match orders with
  | [] => 0
  | first :: rest => rest.foldl (fun greatest order => if greatest ≤ order then order else greatest)
      first

end Tables

def nextSortOrder (company : CompanyId) : Action Int64 := do
  let last := (← get).lastSortOrder company
  if last == Int64.maxValue then throw (.database .sortOrderOverflow)
  return last + 1

def requireRule (id : RuleId) : Action RoutingRule := do
  match ← ((← get).rule? id : Except RoutingError (Option RoutingRule)) with
  | some rule => return rule
  | none => throw (.internal ("routing rule " ++ id.text ++ " missing after write"))

/-- Creates a rule, which is active. Its queue must exist but may be of any state and company. -/
def createRule (id : RuleId) (createdAt stamp : Instant) (request : NewRule) :
    Action RoutingRule := do
  let sortOrder ← match request.sortOrder with
    | some order => pure order
    | none => nextSortOrder request.companyId
  Action.transaction do
    insertRule {
      id := id
      companyId := request.companyId
      queueId := request.queueId
      name := request.name
      description := request.description
      matchType := request.matchType.name
      matchOperator := request.matchOperator.name
      matchValue := request.matchValue
      sortOrder := sortOrder
      isActive := true
      isDeleted := false
      autoAssignAgentId := request.autoAssignAgentId
      priorityOverride := request.priorityOverride.map (·.name)
      tagsToAdd := request.tagsToAdd
      createdAt := createdAt
      updatedAt := stamp }
    requireQueueExists request.queueId
  requireRule id

/-- The first step of a change: the rule as it is, which must not be deleted. -/
def readForUpdate (id : RuleId) : Action RoutingRule := do
  match ← ((← get).rule? id : Except RoutingError (Option RoutingRule)) with
  | some rule =>
    orNotFound (!rule.isDeleted) ("routing rule " ++ id.text)
    return rule
  | none => throw (.notFound ("routing rule " ++ id.text))

/-- The second step of a change: everything that may be changed is written, changed or not. -/
def writeUpdated (id : RuleId) (rule : RoutingRule) (stamp : Instant) : Action RoutingRule := do
  Action.transaction do
    let found ← updateRules (fun row => row.id == id) fun row => row.overwrite rule stamp
    if found then requireQueueExists rule.queue.id
  requireRule id

def updateRule (id : RuleId) (changes : RuleChanges) (stamp : Instant) : Action RoutingRule := do
  let rule ← readForUpdate id
  writeUpdated id (changes.apply rule) stamp

def renumber (company : CompanyId) (stamp : Instant) (position : Nat) : List RuleId → Action Unit
  | [] => pure ()
  | id :: rest => do
    let found ← updateRules
      (fun row => row.id == id && row.companyId == company && !row.isDeleted)
      fun row => { row with sortOrder := Int64.ofNat position, updatedAt := stamp }
    orNotFound found ("routing rule " ++ id.text ++ " for company " ++ company.text)
    renumber company stamp (position + 1) rest

/-- Puts rules of a company into the given order; either all of them or none. -/
def reorderRules (company : CompanyId) (ids : List RuleId) (stamp : Instant) : Action Unit :=
  Action.transaction (renumber company stamp 1 ids)

def isLiveRule (id : RuleId) (row : RuleRow) : Bool := row.id == id && !row.isDeleted

def setRuleActive (id : RuleId) (active : Bool) (stamp : Instant) : Action Unit := do
  let found ← updateRules (isLiveRule id) fun row =>
    { row with isActive := active, updatedAt := stamp }
  orNotFound found ("routing rule " ++ id.text)

def deleteRule (id : RuleId) (stamp : Instant) : Action Unit := do
  let found ← updateRules (isLiveRule id) fun row =>
    { row with isDeleted := true, updatedAt := stamp }
  orNotFound found ("routing rule " ++ id.text)

end TicketRouting.Store
