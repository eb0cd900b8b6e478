import TicketRouting.RoutingError
import TicketRouting.Ticket.Basic
/-!
One pass over the mailboxes: every mailbox that is due is polled once, in the order of the listing.
A poll that fails or breaks off is noted and the pass goes on; only a poll that succeeds is recorded.
-/
namespace TicketRouting

/-- Where mailboxes are listed and successful polls recorded; `σ` is what a record changes. What a
record leaves that fails is told apart, as it may have changed something all the same. -/
structure MailboxSource (σ : Type) where
  list : σ → Except RoutingError (List Mailbox)
  recordPoll : MailboxId → Instant → σ → Except RoutingError σ
  failedRecord : MailboxId → Instant → σ → σ := fun _ _ state => state

inductive PollOutcome where
  | processed (count : Nat)
  /-- The causes of a failure, the outermost first. -/
  | failed (causes : List String)
  /-- The poll broke off; the message may be missing. -/
  | brokeOff (message : Option String)
deriving DecidableEq

def PollOutcome.status : PollOutcome → Except String Nat
  | processed count => .ok count
  | failed causes => .error (": ".intercalate causes)
  | brokeOff message => .error ("poller panicked: " ++ message.getD "unknown panic payload")

structure PollResult where
  mailboxId : MailboxId
  mailboxName : String
  status : Except String Nat

namespace PollResult

def processed? (result : PollResult) : Option Nat := result.status.toOption

def failure? (result : PollResult) : Option (MailboxId × String) :=
  match result.status with
  | .ok _ => none
  | .error message => some (result.mailboxId, message)

end PollResult

structure PassSummary where
  results : List PollResult
  skipped : Nat

namespace PassSummary

def polled (summary : PassSummary) : Nat := summary.results.length

def processedTotal (summary : PassSummary) : Nat :=
  (summary.results.filterMap (·.processed?)).foldl (· + ·) 0

def failures (summary : PassSummary) : List (MailboxId × String) :=
  summary.results.filterMap (·.failure?)

def failureCount (summary : PassSummary) : Nat := summary.failures.length

end PassSummary

/-- What happened in a pass, and the state after it: the polls that were made, the records that were
asked for, and those among them that were made. -/
structure Pass (σ : Type) where
  outcome : Except RoutingError PassSummary
  calls : List MailboxId
  recordCalls : List (MailboxId × Instant)
  recorded : List (MailboxId × Instant)
  state : σ

structure PollTrace (σ : Type) where
  calls : List MailboxId
  results : List PollResult
  skipped : Nat
  recordCalls : List (MailboxId × Instant)
  recorded : List (MailboxId × Instant)
  state : σ

def MailboxSource.record {σ : Type} (source : MailboxSource σ) (id : MailboxId) (now : Instant)
    (state : σ) : List (MailboxId × Instant) × σ :=
  match source.recordPoll id now state with
  | .ok changed => ([(id, now)], changed)
  | .error _ => ([], source.failedRecord id now state)

/-- Goes along a listing and polls one mailbox after the other; `poll` says what becomes of the poll
with a given number. A record that fails is no failure of the poll. -/
def pollEach {σ : Type} (source : MailboxSource σ) (now : Instant)
    (poll : Nat → Mailbox → PollOutcome) (number : Nat) :
    List Mailbox → σ → PollTrace σ
  | [], state => ⟨[], [], 0, [], [], state⟩
  | mailbox :: rest, state =>
    if !mailbox.isPollable then pollEach source now poll number rest state
    else if !mailbox.isDue now then
      let later := pollEach source now poll number rest state
      { later with skipped := later.skipped + 1 }
    else
      let status := (poll number mailbox).status
      let (asked, recorded, state) :=
        match status with
        | .error _ => ([], [], state)
        | .ok _ => ([(mailbox.id, now)], source.record mailbox.id now state)
      let later := pollEach source now poll (number + 1) rest state
      { calls := mailbox.id :: later.calls
        results := ⟨mailbox.id, mailbox.name, status⟩ :: later.results
        skipped := later.skipped
        recordCalls := asked ++ later.recordCalls
        recorded := recorded ++ later.recorded
        state := later.state }

/-- Polls every mailbox of the listing that is due. Whether one is due depends on the listing alone,
not on records made in the same pass. -/
def runPass {σ : Type} (source : MailboxSource σ) (now : Instant)
    (poll : Nat → Mailbox → PollOutcome) (state : σ) : Pass σ :=
  match source.list state with
  | .error fault => ⟨.error fault, [], [], [], state⟩
  | .ok listing =>
    let trace := pollEach source now poll 0 listing state
    ⟨.ok ⟨trace.results, trace.skipped⟩, trace.calls, trace.recordCalls, trace.recorded, trace.state⟩

end TicketRouting
