import TicketRouting.Polling.Pass
/-!
What a pass over the mailboxes comes to: its polls and their results follow from the listing and from
what becomes of each poll, whatever is recorded on the way.
-/
namespace TicketRouting

variable {σ : Type}

def pollResults (poll : Nat → Mailbox → PollOutcome) (number : Nat) : List Mailbox → List PollResult
  | [] => []
  | mailbox :: rest =>
    ⟨mailbox.id, mailbox.name, (poll number mailbox).status⟩ :: pollResults poll (number + 1) rest

namespace PollResult

def isSuccessOf (id : MailboxId) (result : PollResult) : Bool :=
  result.mailboxId == id && result.status.isOk

def isFailureOf (id : MailboxId) (result : PollResult) : Bool :=
  result.mailboxId == id && !result.status.isOk

end PollResult

namespace Pass

def results (pass : Pass σ) : List PollResult :=
  match pass.outcome with
  | .ok summary => summary.results
  | .error _ => []

def succeededOn (id : MailboxId) (pass : Pass σ) : Bool := pass.results.any (·.isSuccessOf id)

def failedOn (id : MailboxId) (pass : Pass σ) : Bool := pass.results.any (·.isFailureOf id)

end Pass

def succeededIds (results : List PollResult) : List MailboxId :=
  (results.filter (·.status.isOk)).map (·.mailboxId)

def dueAmong (now : Instant) (listing : List Mailbox) : List Mailbox :=
  listing.filter fun mailbox => mailbox.isPollable && mailbox.isDue now

def waitingAmong (now : Instant) (listing : List Mailbox) : List Mailbox :=
  listing.filter fun mailbox => mailbox.isPollable && !mailbox.isDue now

def MailboxSource.recordAll (source : MailboxSource σ) (now : Instant) :
    List MailboxId → σ → List (MailboxId × Instant) × σ
  | [], state => ([], state)
  | id :: rest, state =>
    let (recorded, state) := source.record id now state
    let (later, left) := source.recordAll now rest state
    (recorded ++ later, left)

section Results
variable (source : MailboxSource σ) (now : Instant) (poll : Nat → Mailbox → PollOutcome)

/-- What happens along a listing: first comes what is polled, and of that what is recorded. -/
theorem poll_each_eq (number : Nat) (listing : List Mailbox) (state : σ) :
    let results := pollResults poll number (dueAmong now listing)
    let records := source.recordAll now (succeededIds results) state
    pollEach source now poll number listing state = {
      calls := (dueAmong now listing).map (·.id)
      results := results
      skipped := (waitingAmong now listing).length
      recordCalls := (succeededIds results).map fun id => (id, now)
      recorded := records.1
      state := records.2 } := by
  induction listing generalizing number state with
  | nil => rfl
  | cons mailbox rest ih =>
    cases pollable : mailbox.isPollable with
    | false => simp [pollEach, dueAmong, waitingAmong, pollable, ih]
    | true =>
      cases due : mailbox.isDue now with
      | false => simp [pollEach, dueAmong, waitingAmong, pollable, due, ih]
      | true =>
        -- The poll comes first; whether it is recorded depends on its result.
        have first : dueAmong now (mailbox :: rest) = mailbox :: dueAmong now rest := by
          simp [dueAmong, pollable, due]
        have skipped : waitingAmong now (mailbox :: rest) = waitingAmong now rest := by
          simp [waitingAmong, due]
        simp only [pollEach, pollable, due, Bool.not_true, Bool.false_eq_true, ↓reduceIte, first,
          skipped, pollResults, ih]
        cases (poll number mailbox).status <;>
          simp [succeededIds, Except.isOk, Except.toBool, MailboxSource.recordAll]

theorem poll_results_ids (number : Nat) (due : List Mailbox) :
    (pollResults poll number due).map (·.mailboxId) = due.map (·.id) := by
  induction due generalizing number with
  | nil => rfl
  | cons mailbox rest ih => simp only [pollResults, List.map_cons, ih]

theorem run_pass_listed (state : σ) (listing : List Mailbox)
    (listed : source.list state = .ok listing) :
    let results := pollResults poll 0 (dueAmong now listing)
    let records := source.recordAll now (succeededIds results) state
    runPass source now poll state = {
      outcome := .ok ⟨results, (waitingAmong now listing).length⟩
      calls := (dueAmong now listing).map (·.id)
      recordCalls := (succeededIds results).map fun id => (id, now)
      recorded := records.1
      state := records.2 } := by
  simp only [runPass, listed, poll_each_eq]

end Results

end TicketRouting
