import TicketRouting.Json.Codec
import TicketRouting.Ticket.Basic
import TicketRouting.Ticket.Context
/-!
The JSON forms of tickets, rules, queues, results and mailboxes.
-/
namespace TicketRouting

open Json (Codec Field Form)

def CompanyId.codec : Codec CompanyId := Codec.text.map CompanyId.mk CompanyId.text

def QueueId.codec : Codec QueueId := Codec.text.map QueueId.mk QueueId.text

def RuleId.codec : Codec RuleId := Codec.text.map RuleId.mk RuleId.text

def AgentId.codec : Codec AgentId := Codec.text.map AgentId.mk AgentId.text

def MailboxId.codec : Codec MailboxId := Codec.text.map MailboxId.mk MailboxId.text

def TicketPriority.codec : Codec TicketPriority := Codec.oneOf TicketPriority.all TicketPriority.name

def MatchType.codec : Codec MatchType := Codec.oneOf MatchType.all MatchType.name

def MatchOperator.codec : Codec MatchOperator := Codec.oneOf MatchOperator.all MatchOperator.name

/-- A set of tags is an array in ascending order; arrays in any order and with repetitions are
read. -/
def TagSet.codec : Codec TagSet := Codec.text.list.map TagSet.ofList TagSet.tags

def QueueRef.codec : Codec QueueRef :=
  Form.start QueueRef QueueRef.mk
    |>.field (·.id) (.required "id" QueueId.codec)
    |>.field (·.name) (.required "name" .text)
    |>.codec "QueueRef"

def RuleRef.codec : Codec RuleRef :=
  Form.start RuleRef RuleRef.mk
    |>.field (·.id) (.required "id" RuleId.codec)
    |>.field (·.name) (.required "name" .text)
    |>.codec "RuleRef"

def Queue.codec : Codec Queue :=
  Form.start Queue Queue.mk
    |>.field (·.id) (.required "id" QueueId.codec)
    |>.field (·.companyId) (.required "company_id" CompanyId.codec)
    |>.field (·.name) (.required "name" .text)
    |>.field (·.description) (.optional "description" .text)
    |>.field (·.isDefault) (.required "is_default" .flag)
    |>.field (·.isActive) (.required "is_active" .flag)
    |>.field (·.isDeleted) (.required "is_deleted" .flag)
    |>.field (·.createdAt) (.required "created_at" .instant)
    |>.field (·.updatedAt) (.required "updated_at" .instant)
    |>.codec "Queue"

def RoutingRule.codec : Codec RoutingRule :=
  Form.start RoutingRule RoutingRule.mk
    |>.field (·.id) (.required "id" RuleId.codec)
    |>.field (·.companyId) (.required "company_id" CompanyId.codec)
    |>.field (·.queue) (.required "queue" QueueRef.codec)
    |>.field (·.name) (.required "name" .text)
    |>.field (·.description) (.optional "description" .text)
    |>.field (·.matchType) (.required "match_type" MatchType.codec)
    |>.field (·.matchOperator) (.required "match_operator" MatchOperator.codec)
    |>.field (·.matchValue) (.required "match_value" .text)
    |>.field (·.sortOrder) (.required "sort_order" .int64)
    |>.field (·.isActive) (.required "is_active" .flag)
    |>.field (·.isDeleted) (.required "is_deleted" .flag)
    |>.field (·.autoAssignAgentId) (.optional "auto_assign_agent_id" AgentId.codec)
    |>.field (·.priorityOverride) (.optional "priority_override" TicketPriority.codec)
    |>.field (·.tagsToAdd) (.optional "tags_to_add" .text)
    |>.field (·.createdAt) (.required "created_at" .instant)
    |>.field (·.updatedAt) (.required "updated_at" .instant)
    |>.codec "RoutingRule"

def RoutingContext.codec : Codec RoutingContext :=
  Form.start RoutingContext RoutingContext.mk
    |>.field (·.companyId) (.required "company_id" CompanyId.codec)
    |>.field (·.senderDomain) (.optional "sender_domain" .text)
    |>.field (·.subject) (.required "subject" .text)
    |>.field (·.body) (.required "body" .text)
    |>.field (·.issueType) (.optional "issue_type" .text)
    |>.field (·.system) (.optional "system" .text)
    |>.field (·.requesterEmail) (.optional "requester_email" .text)
    |>.field (·.tags) (.required "tags" TagSet.codec)
    |>.codec "RoutingContext"

def RoutingResult.codec : Codec RoutingResult :=
  Form.start RoutingResult RoutingResult.mk
    |>.field (·.queue) (.optional "queue" QueueRef.codec)
    |>.field (·.autoAssignAgentId) (.optional "auto_assign_agent_id" AgentId.codec)
    |>.field (·.priorityOverride) (.optional "priority_override" TicketPriority.codec)
    |>.field (·.tagsToAdd) (.required "tags_to_add" (.list .text))
    |>.field (·.matchedRule) (.optional "matched_rule" RuleRef.codec)
    |>.field (·.isDefaultFallback) (.required "is_default_fallback" .flag)
    |>.codec "RoutingResult"

def Mailbox.codec : Codec Mailbox :=
  Form.start Mailbox Mailbox.mk
    |>.field (·.id) (.required "id" MailboxId.codec)
    |>.field (·.companyId) (.required "company_id" CompanyId.codec)
    |>.field (·.name) (.required "name" .text)
    |>.field (·.address) (.required "address" .text)
    |>.field (·.pollingIntervalMinutes) (.required "polling_interval_minutes" .uint32)
    |>.field (·.lastPolledAt) (.optional "last_polled_at" .instant)
    |>.field (·.isActive) (.required "is_active" .flag)
    |>.field (·.isDeleted) (.required "is_deleted" .flag)
    |>.field (·.createdAt) (.required "created_at" .instant)
    |>.field (·.updatedAt) (.required "updated_at" .instant)
    |>.codec "MailboxConfig"

end TicketRouting
