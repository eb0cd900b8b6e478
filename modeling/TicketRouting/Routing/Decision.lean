import TicketRouting.Matching.Predicate
import TicketRouting.Ticket.Basic
/-!
Where a ticket goes. The rules of its company are tried in their order and the first that matches
decides; if none does, the ticket goes to the default queue of the company, if there is one. Rules
and queues come from a lookup, which may fail, and may answer with more than was asked for. One
lookup holds them in memory, each under its identifier and in the order in which they were first
put there.
-/
namespace TicketRouting

structure Lookup where
  listRules : CompanyId → Except RoutingError (List RoutingRule)
  findDefaultQueue : CompanyId → Except RoutingError (Option Queue)

/-- A failure of the lookup as the one who asks for a decision sees it. -/
def RoutingError.asUnavailable (operation : String) : RoutingError → RoutingError
  | lookupUnavailable reason => lookupUnavailable reason
  | error => lookupUnavailable (operation ++ " failed: " ++ error.message)

namespace RoutingResult

def ofRule (rule : RoutingRule) : RoutingResult where
  queue := some rule.queue
  autoAssignAgentId := rule.autoAssignAgentId
  priorityOverride := rule.priorityOverride
  tagsToAdd := (rule.tagsToAdd.map Text.splitItems).getD []
  matchedRule := some rule.toRef

def ofDefaultQueue (queue : Queue) : RoutingResult where
  queue := some queue.toRef
  isDefaultFallback := true

end RoutingResult

/-- The rules that may be tried on tickets of a company, in the order in which they are tried; among
rules of one place in it, the order of the list. -/
def rulesInOrder (company : CompanyId) (rules : List RoutingRule) : List RoutingRule :=
  (rules.filter (·.isEligibleFor company)).mergeSort fun left right =>
    decide (left.sortOrder ≤ right.sortOrder)

def firstMatch (matcher : Matcher) (context : RoutingContext) (rules : List RoutingRule) :
    Option RoutingRule :=
  (rulesInOrder context.companyId rules).find? (Matching.ruleMatches matcher · context)

/-- Decides on a ticket. The default queue is asked for only when no rule matches. -/
def route (matcher : Matcher) (lookup : Lookup) (context : RoutingContext) :
    Except RoutingError RoutingResult := do
  let rules ← (lookup.listRules context.companyId).mapError (.asUnavailable "list_rules")
  match firstMatch matcher context rules with
  | some rule => return .ofRule rule
  | none =>
    let found ← (lookup.findDefaultQueue context.companyId).mapError
      (.asUnavailable "find_default_queue")
    match found.filter fun queue => queue.companyId == context.companyId && queue.isUsableDefault with
    | some queue => return .ofDefaultQueue queue
    | none => return {}

structure MemoryLookup where
  rules : List RoutingRule := []
  queues : List Queue := []
  isUnavailable : Bool := false

/-- The list with an entry in the place of the first one with the same key, or at the end. -/
def putUnder {α κ : Type} [BEq κ] (key : α → κ) (entry : α) : List α → List α
  | [] => [entry]
  | other :: rest =>
    if key other == key entry then entry :: rest else other :: putUnder key entry rest

def dropUnder {α κ : Type} [BEq κ] (key : α → κ) (id : κ) (entries : List α) : Bool × List α :=
  let kept := entries.filter fun entry => key entry != id
  (kept.length != entries.length, kept)

/-- The earlier of two queues; of two made at one time the one with the lesser identifier. -/
def Queue.precedes (left right : Queue) : Bool :=
  left.createdAt.isBefore right.createdAt ||
    (left.createdAt == right.createdAt && decide (left.id.text ≤ right.id.text))

def earliestQueue : List Queue → Option Queue
  | [] => none
  | queue :: rest =>
    match earliestQueue rest with
    | none => some queue
    | some other => if queue.precedes other then some queue else some other

namespace MemoryLookup

def upsertRule (rule : RoutingRule) (lookup : MemoryLookup) : MemoryLookup :=
  { lookup with rules := putUnder (·.id) rule lookup.rules }

def upsertQueue (queue : Queue) (lookup : MemoryLookup) : MemoryLookup :=
  { lookup with queues := putUnder (·.id) queue lookup.queues }

def removeRule (id : RuleId) (lookup : MemoryLookup) : Bool × MemoryLookup :=
  let (found, rules) := dropUnder (·.id) id lookup.rules
  (found, { lookup with rules := rules })

def removeQueue (id : QueueId) (lookup : MemoryLookup) : Bool × MemoryLookup :=
  let (found, queues) := dropUnder (·.id) id lookup.queues
  (found, { lookup with queues := queues })

def setUnavailable (unavailable : Bool) (lookup : MemoryLookup) : MemoryLookup :=
  { lookup with isUnavailable := unavailable }

def whenAvailable {α : Type} (lookup : MemoryLookup) (answer : α) : Except RoutingError α :=
  if lookup.isUnavailable then
    .error (.lookupUnavailable "in-memory lookup marked unavailable")
  else .ok answer

def listRules (lookup : MemoryLookup) (company : CompanyId) :
    Except RoutingError (List RoutingRule) :=
  lookup.whenAvailable (rulesInOrder company lookup.rules)

def findDefaultQueue (lookup : MemoryLookup) (company : CompanyId) :
    Except RoutingError (Option Queue) :=
  lookup.whenAvailable <| earliestQueue <| lookup.queues.filter fun queue =>
    queue.companyId == company && queue.isUsableDefault

def toLookup (lookup : MemoryLookup) : Lookup := ⟨lookup.listRules, lookup.findDefaultQueue⟩

end MemoryLookup

end TicketRouting
