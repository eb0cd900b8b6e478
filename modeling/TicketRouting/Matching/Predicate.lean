import TicketRouting.Pattern.Reader
import TicketRouting.Pattern.Regex
import TicketRouting.Text.Basic
import TicketRouting.Text.Lower
import TicketRouting.Ticket.Basic
import TicketRouting.Ticket.Context
/-!
The comparison of the texts of a ticket with the value of a rule. Case never counts: texts are
compared in lower case, and patterns are read without regard to case. A part that the ticket does
not have counts as the empty text.
-/
namespace TicketRouting

structure MatchLimits where
  patternBytes : UInt64 := 1048576
  cacheBytes : UInt64 := 2097152
  fieldBytes : UInt64 := 1048576
deriving DecidableEq

/-- What an engine makes of a pattern, read without regard to case, within bounds on its compiled
form and on the cache of a search: a test of texts, unless it refuses the pattern. -/
structure Pattern.Engine where
  compile? (patternBytes cacheBytes : Nat) (pattern : String) : Option (String → Bool)

def Pattern.Engine.marking : Pattern.Engine where
  compile? patternBytes _ pattern :=
    (Pattern.compile? patternBytes pattern.toList).map fun regex text =>
      Pattern.Machine.search regex text.toList

/-- How texts are compared: within which bounds, and with which engine where the value of a rule is
a pattern. -/
structure Matcher where
  limits : MatchLimits := {}
  engine : Pattern.Engine := .marking

namespace Matching

inductive Outcome where
  | matched
  | notMatched
  /-- The pattern is none, it is too large, or the text is too long to be searched. -/
  | rejected
deriving DecidableEq

namespace Outcome

def name : Outcome → String
  | matched => "Matched"
  | notMatched => "NotMatched"
  | rejected => "PatternRejected"

def ofBool (holds : Bool) : Outcome := if holds then matched else notMatched

def isMatch (outcome : Outcome) : Bool := outcome == matched

end Outcome

def sameIgnoringCase (left right : String) : Bool := Text.lower left == Text.lower right

/-- Searches a text for a pattern. The length of the text is looked at first. -/
def searchPattern (matcher : Matcher) (field pattern : String) : Outcome :=
  let limits := matcher.limits
  if limits.fieldBytes.toNat < field.utf8ByteSize then .rejected
  else
    match matcher.engine.compile? limits.patternBytes.toNat limits.cacheBytes.toNat pattern with
    | none => .rejected
    | some found => .ofBool (found field)

def evaluate (matcher : Matcher) (field value : String) : MatchOperator → Outcome
  | .equals => .ofBool (sameIgnoringCase field value)
  | .contains =>
    .ofBool (Text.occursIn (Text.lowerList value.toList) (Text.lowerList field.toList))
  | .startsWith =>
    .ofBool ((Text.lowerList value.toList).isPrefixOf (Text.lowerList field.toList))
  | .endsWith =>
    .ofBool ((Text.lowerList value.toList).isSuffixOf (Text.lowerList field.toList))
  | .regex => searchPattern matcher field value
  | .isIn => .ofBool ((Text.splitItems value).any (sameIgnoringCase field))

/-- Whether a text compares as the operator asks. A pattern that is rejected matches nothing. -/
def holds (matcher : Matcher) (field value : String) (operator : MatchOperator) : Bool :=
  (evaluate matcher field value operator).isMatch

/-- Whether some tag compares as the operator asks. Where the value can be prepared once for all
tags, it is. -/
def anyTagHolds (matcher : Matcher) (tags : TagSet) (value : String) (operator : MatchOperator) :
    Bool :=
  match operator with
  | .isIn =>
    let alternatives := Text.splitItems value
    tags.tags.any fun tag => alternatives.any (sameIgnoringCase tag)
  | .contains =>
    let part := Text.lowerList value.toList
    tags.tags.any fun tag => Text.occursIn part (Text.lowerList tag.toList)
  | .equals => tags.tags.any fun tag => sameIgnoringCase tag value
  | _ => tags.tags.any fun tag => holds matcher tag value operator

def ruleMatches (matcher : Matcher) (rule : RoutingRule) (context : RoutingContext) : Bool :=
  let compare (field : String) : Bool := holds matcher field rule.matchValue rule.matchOperator
  match rule.matchType with
  | .senderDomain => compare (context.senderDomain.getD "")
  | .subjectKeyword => compare context.subject
  | .bodyKeyword => compare context.body
  | .issueType => compare (context.issueType.getD "")
  | .system => compare (context.system.getD "")
  | .requesterEmail => compare (context.requesterEmail.getD "")
  | .companyCode => false
  | .tag => anyTagHolds matcher context.tags rule.matchValue rule.matchOperator

end Matching

end TicketRouting
