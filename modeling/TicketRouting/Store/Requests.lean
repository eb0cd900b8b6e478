import TicketRouting.Ticket.JsonForm
/-!
What is asked for when something is created or changed.
-/
namespace TicketRouting

open Json (Codec Form)

structure NewQueue where
  companyId : CompanyId
  name : String
  description : Option String
  isDefault : Bool
deriving DecidableEq

/-- A rule without a place in the order is put behind all others of its company. -/
structure NewRule where
  companyId : CompanyId
  queueId : QueueId
  name : String
  description : Option String
  matchType : MatchType
  matchOperator : MatchOperator
  matchValue : String
  sortOrder : Option Int64
  autoAssignAgentId : Option AgentId
  priorityOverride : Option TicketPriority
  tagsToAdd : Option String
deriving DecidableEq

/-- A mailbox without an interval has the default of the store. -/
structure NewMailbox where
  companyId : CompanyId
  name : String
  address : String
  pollingIntervalMinutes : Option UInt32
deriving DecidableEq

/-- The fields of a rule to be replaced; the others stay. A field that a rule need not have can also
be taken away, which is `some none`. -/
structure RuleChanges where
  queueId : Option QueueId := none
  name : Option String := none
  description : Option (Option String) := none
  matchType : Option MatchType := none
  matchOperator : Option MatchOperator := none
  matchValue : Option String := none
  sortOrder : Option Int64 := none
  autoAssignAgentId : Option (Option AgentId) := none
  priorityOverride : Option (Option TicketPriority) := none
  tagsToAdd : Option (Option String) := none
deriving DecidableEq

/-- The rule with the changes made. A queue that is newly named has no name as yet. -/
def RuleChanges.apply (changes : RuleChanges) (rule : RoutingRule) : RoutingRule :=
  { rule with
    queue := (changes.queueId.map fun id => ⟨id, ""⟩).getD rule.queue
    name := changes.name.getD rule.name
    description := changes.description.getD rule.description
    matchType := changes.matchType.getD rule.matchType
    matchOperator := changes.matchOperator.getD rule.matchOperator
    matchValue := changes.matchValue.getD rule.matchValue
    sortOrder := changes.sortOrder.getD rule.sortOrder
    autoAssignAgentId := changes.autoAssignAgentId.getD rule.autoAssignAgentId
    priorityOverride := changes.priorityOverride.getD rule.priorityOverride
    tagsToAdd := changes.tagsToAdd.getD rule.tagsToAdd }

def NewQueue.codec : Codec NewQueue :=
  Form.start NewQueue NewQueue.mk
    |>.field (·.companyId) (.required "company_id" CompanyId.codec)
    |>.field (·.name) (.required "name" .text)
    |>.field (·.description) (.optional "description" .text)
    |>.field (·.isDefault) (.defaulted "is_default" .flag false)
    |>.codec "CreateQueueRequest"

def NewRule.codec : Codec NewRule :=
  Form.start NewRule NewRule.mk
    |>.field (·.companyId) (.required "company_id" CompanyId.codec)
    |>.field (·.queueId) (.required "queue_id" QueueId.codec)
    |>.field (·.name) (.required "name" .text)
    |>.field (·.description) (.optional "description" .text)
    |>.field (·.matchType) (.required "match_type" MatchType.codec)
    |>.field (·.matchOperator) (.required "match_operator" MatchOperator.codec)
    |>.field (·.matchValue) (.required "match_value" .text)
    |>.field (·.sortOrder) (.optional "sort_order" .int64)
    |>.field (·.autoAssignAgentId) (.optional "auto_assign_agent_id" AgentId.codec)
    |>.field (·.priorityOverride) (.optional "priority_override" TicketPriority.codec)
    |>.field (·.tagsToAdd) (.optional "tags_to_add" .text)
    |>.codec "CreateRuleRequest"

def NewMailbox.codec : Codec NewMailbox :=
  Form.start NewMailbox NewMailbox.mk
    |>.field (·.companyId) (.required "company_id" CompanyId.codec)
    |>.field (·.name) (.required "name" .text)
    |>.field (·.address) (.required "address" .text)
    |>.field (·.pollingIntervalMinutes) (.optional "polling_interval_minutes" .uint32)
    |>.codec "CreateMailboxRequest"

def Json.Field.change {α : Type} (name : String) (codec : Codec α) : Json.Field (Option α) :=
  .defaulted name codec.optional none

/-- Null stands for a field that stays, so a field cannot be taken away in JSON. -/
def Json.Field.nullableChange {α : Type} (name : String) (codec : Codec α) :
    Json.Field (Option (Option α)) :=
  .defaulted name (codec.optional.map (·.map some) Option.join) none

def RuleChanges.codec : Codec RuleChanges :=
  Form.start RuleChanges RuleChanges.mk
    |>.field (·.queueId) (.change "queue_id" QueueId.codec)
    |>.field (·.name) (.change "name" .text)
    |>.field (·.description) (.nullableChange "description" .text)
    |>.field (·.matchType) (.change "match_type" MatchType.codec)
    |>.field (·.matchOperator) (.change "match_operator" MatchOperator.codec)
    |>.field (·.matchValue) (.change "match_value" .text)
    |>.field (·.sortOrder) (.change "sort_order" .int64)
    |>.field (·.autoAssignAgentId) (.nullableChange "auto_assign_agent_id" AgentId.codec)
    |>.field (·.priorityOverride) (.nullableChange "priority_override" TicketPriority.codec)
    |>.field (·.tagsToAdd) (.nullableChange "tags_to_add" .text)
    |>.codec "UpdateRuleRequest"

end TicketRouting
