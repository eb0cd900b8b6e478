import TicketRouting.Proofs.Polling.Results
import TicketRouting.Proofs.Store.Reading
/-!
Writes and polling passes, one after another. A pass changes the tables by the polls that it records
and by nothing else, so what holds after every run of writes holds with passes between them too.
-/
namespace TicketRouting.Store

/-- What is done to the store: a write, or a pass over its mailboxes that writes its records at
`stamp`. -/
inductive Step where
  | write (request : Write)
  | pass (now stamp : Instant) (poll : Nat → Mailbox → PollOutcome)

def tablesPass (now stamp : Instant) (poll : Nat → Mailbox → PollOutcome) (tables : Tables) :
    Pass Tables :=
  runPass (mailboxSource stamp) now poll tables

def Step.after (tables : Tables) : Step → Tables
  | .write request => (request.action.perform tables).2
  | .pass now stamp poll => (tablesPass now stamp poll tables).state

def afterSteps : List Step → Tables → Tables
  | [], tables => tables
  | step :: rest, tables => afterSteps rest (step.after tables)

section Records
variable (now stamp : Instant) (poll : Nat → Mailbox → PollOutcome)

def dueMailboxes (now : Instant) (tables : Tables) : List Mailbox :=
  tables.activeMailboxes.filter fun mailbox => mailbox.isPollable && mailbox.isDue now

theorem tables_pass_eq (tables : Tables) :
    let results := pollResults poll 0 (dueMailboxes now tables)
    let records := (mailboxSource stamp).recordAll now (succeededIds results) tables
    tablesPass now stamp poll tables = {
      outcome := .ok ⟨results, (waitingAmong now tables.activeMailboxes).length⟩
      calls := (dueMailboxes now tables).map (·.id)
      recordCalls := (succeededIds results).map fun id => (id, now)
      recorded := records.1
      state := records.2 } :=
  run_pass_listed (mailboxSource stamp) now poll tables tables.activeMailboxes rfl

theorem tables_pass_calls (tables : Tables) :
    (tablesPass now stamp poll tables).calls = (dueMailboxes now tables).map (·.id) := by
  rw [tables_pass_eq]

theorem tables_pass_results (tables : Tables) :
    (tablesPass now stamp poll tables).results = pollResults poll 0 (dueMailboxes now tables) := by
  rw [tables_pass_eq]
  rfl

theorem tables_pass_state (tables : Tables) :
    (tablesPass now stamp poll tables).state = ((mailboxSource stamp).recordAll now
      (succeededIds (tablesPass now stamp poll tables).results) tables).2 := by
  rw [tables_pass_results, tables_pass_eq]

def recordRow (results : List PollResult) (row : MailboxRow) : MailboxRow :=
  if results.any (·.isSuccessOf row.id) && !row.isDeleted then
    { row with lastPolledAt := some now, updatedAt := stamp }
  else row

theorem record_left (id : MailboxId) (tables : Tables) :
    ((mailboxSource stamp).record id now tables).2 = { tables with
      mailboxes := tables.mailboxes.map fun row => if isLiveMailbox id row then
        { row with lastPolledAt := some now, updatedAt := stamp } else row } := by
  have performed : (markPolled id now stamp).perform tables = _ :=
    perform_mailbox_update (isLiveMailbox id)
      (fun row => { row with lastPolledAt := some now, updatedAt := stamp })
      ("mailbox " ++ id.text) tables
  simp only [MailboxSource.record, mailboxSource, performed]
  cases present : tables.mailboxes.any (isLiveMailbox id) with
  | true => rfl
  | false =>
    rw [map_unselected (isLiveMailbox id) _ tables.mailboxes present]
    rfl

theorem record_row_success (result : PollResult) (rest : List PollResult)
    (succeeded : result.status.isOk = true) (row : MailboxRow) :
    recordRow now stamp (result :: rest) row =
      recordRow now stamp rest (if isLiveMailbox result.mailboxId row then
        { row with lastPolledAt := some now, updatedAt := stamp } else row) := by
  by_cases own : row.id = result.mailboxId
  · cases deleted : row.isDeleted <;>
      simp [recordRow, isLiveMailbox, PollResult.isSuccessOf, own, deleted, succeeded]
  · have other : ¬ result.mailboxId = row.id := fun same => own same.symm
    simp [recordRow, isLiveMailbox, PollResult.isSuccessOf, own, other]

theorem record_row_failure (result : PollResult) (rest : List PollResult)
    (failed : result.status.isOk = false) :
    recordRow now stamp (result :: rest) = recordRow now stamp rest := by
  funext row
  simp [recordRow, PollResult.isSuccessOf, failed]

theorem record_all_left (results : List PollResult) (tables : Tables) :
    ((mailboxSource stamp).recordAll now (succeededIds results) tables).2 = { tables with
      mailboxes := tables.mailboxes.map (recordRow now stamp results) } := by
  induction results generalizing tables with
  | nil =>
    have kept : recordRow now stamp [] = id := by
      funext row
      simp [recordRow]
    simp only [kept, List.map_id]
    rfl
  | cons result rest ih =>
    cases succeeded : result.status.isOk with
    | false =>
      have skipped : succeededIds (result :: rest) = succeededIds rest := by
        simp [succeededIds, succeeded]
      rw [skipped, ih, record_row_failure _ _ _ _ succeeded]
    | true =>
      have first : succeededIds (result :: rest) = result.mailboxId :: succeededIds rest := by
        simp [succeededIds, succeeded]
      rw [first, MailboxSource.recordAll, ih, record_left, List.map_map]
      congr 1
      apply List.map_congr_left
      intro row _
      exact (record_row_success now stamp result rest succeeded row).symm

theorem tables_pass_left (tables : Tables) :
    (tablesPass now stamp poll tables).state = { tables with
      mailboxes := tables.mailboxes.map
        (recordRow now stamp (tablesPass now stamp poll tables).results) } := by
  rw [tables_pass_state, record_all_left]

theorem recorded_state_eq (id : MailboxId) (tables : Tables) :
    ((mailboxSource stamp).record id now tables).2 =
      ((Write.markPolled id now stamp).action.perform tables).2 := by
  rw [record_left, perform_left,
    applied_to_mailboxes _ tables (fun _ => rfl) rfl (fun _ => rfl) rfl]
  simp only [Write.refusal?, Write.onMailbox, Write.newMailboxes, List.append_nil]
  cases present : tables.mailboxes.any (isLiveMailbox id) with
  | true => rfl
  | false => rw [map_unselected (isLiveMailbox id) _ tables.mailboxes present]; rfl

theorem record_all_replays (ids : List MailboxId) (tables : Tables) :
    ((mailboxSource stamp).recordAll now ids tables).2 =
      replay (ids.map fun id => .markPolled id now stamp) tables := by
  induction ids generalizing tables with
  | nil => rfl
  | cons id rest ih =>
    rw [MailboxSource.recordAll, ih, recorded_state_eq]
    rfl

end Records

section Replays

theorem step_replays (step : Step) (tables : Tables) :
    ∃ writes, step.after tables = replay writes tables := by
  cases step with
  | write request => exact ⟨[request], rfl⟩
  | pass now stamp poll =>
    exact ⟨_, (tables_pass_state now stamp poll tables).trans (record_all_replays now stamp _ tables)⟩

theorem steps_replay (steps : List Step) (tables : Tables) :
    ∃ writes, afterSteps steps tables = replay writes tables := by
  induction steps generalizing tables with
  | nil => exact ⟨[], rfl⟩
  | cons step rest ih =>
    obtain ⟨first, same⟩ := step_replays step tables
    obtain ⟨later, continued⟩ := ih (step.after tables)
    refine ⟨first ++ later, ?_⟩
    rw [replay_append, ← same]
    exact continued

/-- What every accepted write keeps holds after every run of steps. -/
theorem steps_invariant (holds : Tables → Prop)
    (kept : ∀ (tables : Tables) (write : Write), holds tables → write.refusal? tables = none →
      holds (write.applied tables))
    (steps : List Step) (tables : Tables) (before : holds tables) :
    holds (afterSteps steps tables) := by
  obtain ⟨writes, same⟩ := steps_replay steps tables
  rw [same]
  exact replay_invariant holds kept writes tables before

theorem steps_sound (steps : List Step) (tables : Tables) (sound : Sound tables) :
    Sound (afterSteps steps tables) :=
  steps_invariant Sound (fun _ _ => applied_sound) steps tables sound

theorem steps_named (steps : List Step) (tables : Tables) (named : AllNamed tables) :
    AllNamed (afterSteps steps tables) :=
  steps_invariant AllNamed (fun _ _ named _ => applied_named named) steps tables named

end Replays

end TicketRouting.Store
