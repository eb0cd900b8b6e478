import TicketRouting.Calendar.Instant
import TicketRouting.RoutingError
import TicketRouting.Text.Basic
/-!
What tickets are routed by and to: queues, rules and mailboxes of a company, and the result of a
decision. Identifiers are texts without a form of their own, kept apart by type.
-/
namespace TicketRouting

structure CompanyId where
  text : String
deriving DecidableEq, Inhabited

structure QueueId where
  text : String
deriving DecidableEq, Inhabited

structure RuleId where
  text : String
deriving DecidableEq, Inhabited

structure AgentId where
  text : String
deriving DecidableEq, Inhabited

structure MailboxId where
  text : String
deriving DecidableEq, Inhabited

inductive TicketPriority where
  | low
  | medium
  | high
  | urgent
deriving DecidableEq

namespace TicketPriority

def all : List TicketPriority := [low, medium, high, urgent]

def name : TicketPriority → String
  | low => "Low"
  | medium => "Medium"
  | high => "High"
  | urgent => "Urgent"

def rank : TicketPriority → Nat
  | low => 0
  | medium => 1
  | high => 2
  | urgent => 3

def ofText? (text : String) : Option TicketPriority :=
  all.find? fun priority => Text.sameName priority.name (Text.trimmed text)

def parse (text : String) : Except RoutingError TicketPriority :=
  match ofText? text with
  | some priority => .ok priority
  | none =>
    .error (.invalidInput ("unknown priority: " ++ Text.asciiLower (Text.trimmed text)))

def sorted (priorities : List TicketPriority) : List TicketPriority :=
  priorities.mergeSort fun left right => left.rank ≤ right.rank

end TicketPriority

structure QueueRef where
  id : QueueId
  name : String
deriving DecidableEq

structure Queue where
  id : QueueId
  companyId : CompanyId
  name : String
  description : Option String
  isDefault : Bool
  isActive : Bool
  isDeleted : Bool
  createdAt : Instant
  updatedAt : Instant
deriving DecidableEq

namespace Queue

def toRef (queue : Queue) : QueueRef := ⟨queue.id, queue.name⟩

def isUsableDefault (queue : Queue) : Bool :=
  queue.isDefault && queue.isActive && !queue.isDeleted

end Queue

/-- The part of a ticket that a rule looks at. No ticket carries a company code. -/
inductive MatchType where
  | senderDomain
  | subjectKeyword
  | bodyKeyword
  | issueType
  | system
  | requesterEmail
  | companyCode
  | tag
deriving DecidableEq

namespace MatchType

def all : List MatchType :=
  [senderDomain, subjectKeyword, bodyKeyword, issueType, system, requesterEmail, companyCode, tag]

def name : MatchType → String
  | senderDomain => "SenderDomain"
  | subjectKeyword => "SubjectKeyword"
  | bodyKeyword => "BodyKeyword"
  | issueType => "IssueType"
  | system => "System"
  | requesterEmail => "RequesterEmail"
  | companyCode => "CompanyCode"
  | tag => "Tag"

def ofText? (text : String) : Option MatchType :=
  all.find? fun matchType => Text.sameName matchType.name (Text.trimmed text)

def parse (text : String) : Except RoutingError MatchType :=
  match ofText? text with
  | some matchType => .ok matchType
  | none => .error (.invalidInput ("unknown match type: " ++ text))

end MatchType

/-- How the value of a rule is compared with the part of the ticket. The value of `isIn` is a comma
separated list of alternatives. -/
inductive MatchOperator where
  | equals
  | contains
  | startsWith
  | endsWith
  | regex
  | isIn
deriving DecidableEq

namespace MatchOperator

def all : List MatchOperator := [equals, contains, startsWith, endsWith, regex, isIn]

def name : MatchOperator → String
  | equals => "Equals"
  | contains => "Contains"
  | startsWith => "StartsWith"
  | endsWith => "EndsWith"
  | regex => "Regex"
  | isIn => "In"

def ofText? (text : String) : Option MatchOperator :=
  all.find? fun operator => Text.sameName operator.name (Text.trimmed text)

def parse (text : String) : Except RoutingError MatchOperator :=
  match ofText? text with
  | some operator => .ok operator
  | none => .error (.invalidInput ("unknown match operator: " ++ text))

end MatchOperator

structure RuleRef where
  id : RuleId
  name : String
deriving DecidableEq

structure RoutingRule where
  id : RuleId
  companyId : CompanyId
  queue : QueueRef
  name : String
  description : Option String
  matchType : MatchType
  matchOperator : MatchOperator
  matchValue : String
  sortOrder : Int64
  isActive : Bool
  isDeleted : Bool
  autoAssignAgentId : Option AgentId
  priorityOverride : Option TicketPriority
  tagsToAdd : Option String
  createdAt : Instant
  updatedAt : Instant
deriving DecidableEq

namespace RoutingRule

def toRef (rule : RoutingRule) : RuleRef := ⟨rule.id, rule.name⟩

def isEligibleFor (company : CompanyId) (rule : RoutingRule) : Bool :=
  rule.isActive && !rule.isDeleted && rule.companyId == company

end RoutingRule

structure RoutingResult where
  queue : Option QueueRef := none
  autoAssignAgentId : Option AgentId := none
  priorityOverride : Option TicketPriority := none
  tagsToAdd : List String := []
  matchedRule : Option RuleRef := none
  isDefaultFallback : Bool := false
deriving DecidableEq

namespace RoutingResult

def queueId (result : RoutingResult) : Option QueueId := result.queue.map (·.id)

def matchedRuleId (result : RoutingResult) : Option RuleId := result.matchedRule.map (·.id)

def isUnrouted (result : RoutingResult) : Bool :=
  result.queue.isNone && result.matchedRule.isNone

end RoutingResult

structure Mailbox where
  id : MailboxId
  companyId : CompanyId
  name : String
  address : String
  pollingIntervalMinutes : UInt32
  lastPolledAt : Option Instant
  isActive : Bool
  isDeleted : Bool
  createdAt : Instant
  updatedAt : Instant
deriving DecidableEq

namespace Mailbox

def intervalSeconds (mailbox : Mailbox) : Nat := mailbox.pollingIntervalMinutes.toNat * 60

def isPollable (mailbox : Mailbox) : Bool := mailbox.isActive && !mailbox.isDeleted

/-- A mailbox is due when it was never polled or its interval has passed since. One whose last poll
lies in the future is not due. -/
def isDue (now : Instant) (mailbox : Mailbox) : Bool :=
  match mailbox.lastPolledAt with
  | none => true
  | some last => mailbox.intervalSeconds * 1000000000 ≤ now.nanosSince last

end Mailbox

end TicketRouting
