import Mathlib.Data.List.Nodup
import TicketRouting.Proofs.Calendar.TimeLine
import TicketRouting.Proofs.Store.Steps
/-!
When mailboxes are polled, over whole runs. Between writes of any kind, passes are made at any times,
which may also go back. A mailbox keeps the time of its last successful poll; two successful polls are
never closer than its interval, and a poll that failed is made up for by the next pass.
-/
namespace TicketRouting.Store

/-- The poll of a mailbox is recorded by a pass and by nobody else, and the clock that passes go by
shows no leap seconds. -/
def Step.IsScheduled : Step → Prop
  | .write (.markPolled _ _ _) => False
  | .write _ => True
  | .pass now _ _ => now.IsPlain

def Step.IsWrite : Step → Prop
  | .write _ => True
  | .pass _ _ _ => False

def Step.nextSuccess? (id : MailboxId) (tables : Tables) (last : Option Instant) :
    Step → Option Instant
  | .write _ => last
  | .pass now stamp poll =>
    if (tablesPass now stamp poll tables).succeededOn id then some now else last

/-- The time of the last pass of the run in which the mailbox was polled with success; `last` is the
time before the run. -/
def lastSuccess? (id : MailboxId) : List Step → Tables → Option Instant → Option Instant
  | [], _, last => last
  | step :: rest, tables, last =>
    lastSuccess? id rest (step.after tables) (step.nextSuccess? id tables last)

section Polls
variable {tables : Tables} (now stamp : Instant) (poll : Nat → Mailbox → PollOutcome)

theorem polled_iff (id : MailboxId) :
    id ∈ (tablesPass now stamp poll tables).calls ↔
      ∃ row ∈ tables.mailboxes, row.id = id ∧ row.isActive = true ∧ row.isDeleted = false ∧
        row.toMailbox.isDue now = true := by
  rw [tables_pass_calls]
  simp only [dueMailboxes, Tables.activeMailboxes, List.mem_map, List.mem_filter,
    List.mem_mergeSort]
  constructor
  · rintro ⟨_, ⟨⟨row, ⟨member, listed⟩, rfl⟩, due⟩, rfl⟩
    obtain ⟨active, kept⟩ : row.isActive = true ∧ row.isDeleted = false := by simpa using listed
    exact ⟨row, member, rfl, active, kept, (Bool.and_eq_true_iff.mp due).2⟩
  · rintro ⟨row, member, rfl, active, kept, due⟩
    refine ⟨row.toMailbox, ⟨⟨row, ⟨member, by simp [active, kept]⟩, rfl⟩, ?_⟩, rfl⟩
    have pollable : row.toMailbox.isPollable = true := by
      simp [Mailbox.isPollable, MailboxRow.toMailbox, active, kept]
    exact Bool.and_eq_true_iff.mpr ⟨pollable, due⟩

theorem result_polled (result : PollResult)
    (listed : result ∈ (tablesPass now stamp poll tables).results) :
    result.mailboxId ∈ (tablesPass now stamp poll tables).calls := by
  rw [tables_pass_calls, ← poll_results_ids poll 0, ← tables_pass_results now stamp]
  exact List.mem_map_of_mem listed

theorem success_polled {id : MailboxId}
    (succeeded : (tablesPass now stamp poll tables).succeededOn id = true) :
    id ∈ (tablesPass now stamp poll tables).calls := by
  obtain ⟨result, listed, success⟩ := List.any_eq_true.mp succeeded
  obtain ⟨rfl, -⟩ : result.mailboxId = id ∧ result.status.isOk = true := by
    simpa [PollResult.isSuccessOf] using success
  exact result_polled now stamp poll result listed

theorem failure_polled {id : MailboxId}
    (failed : (tablesPass now stamp poll tables).failedOn id = true) :
    id ∈ (tablesPass now stamp poll tables).calls := by
  obtain ⟨result, listed, failure⟩ := List.any_eq_true.mp failed
  obtain ⟨rfl, -⟩ : result.mailboxId = id ∧ result.status.isOk = false := by
    simpa [PollResult.isFailureOf] using failure
  exact result_polled now stamp poll result listed

theorem calls_nodup (sound : Sound tables) :
    ((tablesPass now stamp poll tables).calls).Nodup := by
  rw [tables_pass_calls, dueMailboxes, Tables.activeMailboxes]
  refine List.Nodup.sublist (List.Sublist.map _ List.filter_sublist) ?_
  rw [List.map_map]
  have sorted := (List.mergeSort_perm
    (tables.mailboxes.filter fun row => row.isActive && !row.isDeleted)
    fun left right => firstDifference
      [compare left.name right.name, compare left.id.text right.id.text]).map MailboxRow.id
  refine (sorted.nodup_iff).mpr ?_
  exact List.Nodup.sublist (List.Sublist.map _ List.filter_sublist) sound.mailboxIds

theorem failure_excludes_success (sound : Sound tables) {id : MailboxId}
    (failed : (tablesPass now stamp poll tables).failedOn id = true) :
    (tablesPass now stamp poll tables).succeededOn id = false := by
  have distinct : ((tablesPass now stamp poll tables).results.map (·.mailboxId)).Nodup := by
    rw [tables_pass_results, poll_results_ids, ← tables_pass_calls now stamp poll]
    exact calls_nodup now stamp poll sound
  obtain ⟨result, listed, failure⟩ := List.any_eq_true.mp failed
  obtain ⟨rfl, bad⟩ : result.mailboxId = id ∧ result.status.isOk = false := by
    simpa [PollResult.isFailureOf] using failure
  rw [Pass.succeededOn, List.any_eq_false]
  intro other otherListed success
  obtain ⟨same, good⟩ : other.mailboxId = result.mailboxId ∧ other.status.isOk = true := by
    simpa [PollResult.isSuccessOf] using success
  obtain rfl := List.inj_on_of_nodup_map distinct otherListed listed same
  simp [bad] at good

end Polls

section Rows
variable {tables : Tables} {write : Write}

theorem on_mailbox_last_poll (scheduled : (Step.write write).IsScheduled) (row : MailboxRow) :
    (write.onMailbox row).lastPolledAt = row.lastPolledAt := by
  cases write with
  | markPolled => exact scheduled.elim
  | setMailboxActive | deleteMailbox =>
    simp only [Write.onMailbox]
    split <;> rfl
  | _ => rfl

@[simp] theorem on_mailbox_interval (row : MailboxRow) :
    (write.onMailbox row).intervalMinutes = row.intervalMinutes :=
  (on_mailbox_same write row).intervalMinutes

theorem record_row_same (now stamp : Instant) (results : List PollResult) (row : MailboxRow) :
    SameMailbox row (recordRow now stamp results row) := by
  unfold recordRow
  split <;> exact ⟨rfl, rfl, rfl, rfl, rfl, rfl⟩

theorem record_row_missed (now stamp : Instant) (poll : Nat → Mailbox → PollOutcome)
    (row : MailboxRow) (missed : (tablesPass now stamp poll tables).succeededOn row.id = false) :
    recordRow now stamp (tablesPass now stamp poll tables).results row = row := by
  rw [Pass.succeededOn] at missed
  simp only [recordRow, missed, Bool.false_and, Bool.false_eq_true, ↓reduceIte]

theorem record_row_hit (sound : Sound tables) (now stamp : Instant)
    (poll : Nat → Mailbox → PollOutcome) (row : MailboxRow) (member : row ∈ tables.mailboxes)
    (succeeded : (tablesPass now stamp poll tables).succeededOn row.id = true) :
    recordRow now stamp (tablesPass now stamp poll tables).results row =
      { row with lastPolledAt := some now, updatedAt := stamp } := by
  obtain ⟨other, inTable, same, -, kept, -⟩ :=
    (polled_iff now stamp poll row.id).mp (success_polled now stamp poll succeeded)
  obtain rfl := same_mailbox sound other row inTable member same
  rw [Pass.succeededOn] at succeeded
  simp only [recordRow, succeeded, kept, Bool.not_false, Bool.and_self, ↓reduceIte]

theorem record_row_last_poll (sound : Sound tables) (now stamp : Instant)
    (poll : Nat → Mailbox → PollOutcome) (row : MailboxRow) (member : row ∈ tables.mailboxes) :
    (recordRow now stamp (tablesPass now stamp poll tables).results row).lastPolledAt =
      if (tablesPass now stamp poll tables).succeededOn row.id then some now
      else row.lastPolledAt := by
  cases succeeded : (tablesPass now stamp poll tables).succeededOn row.id with
  | false =>
    rw [record_row_missed now stamp poll row succeeded]
    rfl
  | true =>
    rw [record_row_hit sound now stamp poll row member succeeded]
    rfl

end Rows

section History

/-- The rows hold the times that the history tells. -/
structure PollsRecorded (last : MailboxId → Option Instant) (tables : Tables) : Prop where
  recorded : ∀ row ∈ tables.mailboxes, row.lastPolledAt = last row.id
  unknown : ∀ id, (∀ row ∈ tables.mailboxes, row.id ≠ id) → last id = none
  plain : ∀ id time, last id = some time → time.IsPlain

variable {tables : Tables} {last : MailboxId → Option Instant}

theorem polls_recorded_write (write : Write) (scheduled : (Step.write write).IsScheduled)
    (accepted : write.refusal? tables = none) (polls : PollsRecorded last tables) :
    PollsRecorded last (write.applied tables) where
  recorded := by
    intro row member
    obtain changed | added := List.mem_append.mp member
    · obtain ⟨before, inBefore, rfl⟩ := List.mem_map.mp changed
      rw [on_mailbox_last_poll scheduled, on_mailbox_id]
      exact polls.recorded before inBefore
    · cases write with
      | createMailbox defaultInterval id createdAt stamp request =>
        obtain rfl := List.mem_singleton.mp added
        refine (polls.unknown id ?_).symm
        simpa [Write.refusal?] using accepted
      | _ => cases added
  unknown := by
    intro id absent
    apply polls.unknown id
    intro row member
    simpa using absent _ (List.mem_append_left _ (List.mem_map_of_mem member))
  plain := polls.plain

theorem polls_recorded_step (step : Step) (scheduled : step.IsScheduled) (sound : Sound tables)
    (polls : PollsRecorded last tables) :
    PollsRecorded (fun id => step.nextSuccess? id tables (last id)) (step.after tables) := by
  cases step with
  | write request =>
    simp only [Step.nextSuccess?, Step.after, perform_left]
    cases accepted : request.refusal? tables with
    | some fault => exact polls
    | none => exact polls_recorded_write request scheduled accepted polls
  | pass now stamp poll =>
    simp only [Step.nextSuccess?, Step.after, tables_pass_left]
    refine ⟨?_, ?_, ?_⟩
    · intro row member
      obtain ⟨before, inBefore, rfl⟩ := List.mem_map.mp member
      rw [record_row_last_poll sound now stamp poll before inBefore,
        (record_row_same now stamp _ before).id, polls.recorded before inBefore]
    · intro id absent
      have unknown : ∀ row ∈ tables.mailboxes, row.id ≠ id := by
        intro row member
        simpa [(record_row_same now stamp _ row).id] using absent _ (List.mem_map_of_mem member)
      split
      · rename_i succeeded
        obtain ⟨row, member, same, -⟩ :=
          (polled_iff now stamp poll id).mp (success_polled now stamp poll succeeded)
        exact absurd same (unknown row member)
      · exact polls.unknown id unknown
    · intro id time named
      split at named
      · obtain rfl := Option.some.inj named
        exact scheduled
      · exact polls.plain id time named

theorem polls_recorded_run (steps : List Step) (scheduled : ∀ step ∈ steps, step.IsScheduled)
    (sound : Sound tables) (polls : PollsRecorded last tables) :
    PollsRecorded (fun id => lastSuccess? id steps tables (last id)) (afterSteps steps tables) := by
  induction steps generalizing tables last with
  | nil => exact polls
  | cons step rest ih =>
    have first := polls_recorded_step step (scheduled step List.mem_cons_self) sound polls
    exact ih (fun other member => scheduled other (List.mem_cons_of_mem step member))
      (steps_sound [step] tables sound) first

theorem empty_polls : PollsRecorded (fun _ => none) {} := ⟨by simp, by simp, by simp⟩

end History

section Distance
variable {tables : Tables}

def intervalNanos (minutes : Int64) : Int := (intervalOfColumn minutes).toNat * 60 * 1000000000

theorem due_iff {row : MailboxRow} {now time : Instant} (polled : row.lastPolledAt = some time)
    (nowPlain : now.IsPlain) (timePlain : time.IsPlain) :
    row.toMailbox.isDue now = true ↔
      intervalNanos row.intervalMinutes ≤ now.nanos - time.nanos := by
  simp only [Mailbox.isDue, MailboxRow.toMailbox, polled, decide_eq_true_eq,
    Mailbox.intervalSeconds, Instant.nanos_since_eq nowPlain timePlain, intervalNanos]
  push_cast
  exact Iff.rfl

theorem interval_nonneg (minutes : Int64) : 0 ≤ intervalNanos minutes := by
  unfold intervalNanos
  omega

def PolledSince (start : Instant) (id : MailboxId) (minutes : Int64) (tables : Tables) : Prop :=
  ∃ row ∈ tables.mailboxes, row.id = id ∧ row.intervalMinutes = minutes ∧
    ∃ time, row.lastPolledAt = some time ∧ time.IsPlain ∧ start.nanos ≤ time.nanos

/-- A successful poll moves the time on, since the mailbox was due; all else leaves it. -/
theorem polled_since_step {start : Instant} {id : MailboxId} {minutes : Int64} (step : Step)
    (scheduled : step.IsScheduled) (sound : Sound tables)
    (polled : PolledSince start id minutes tables) :
    PolledSince start id minutes (step.after tables) := by
  obtain ⟨row, member, rfl, rfl, time, recorded, plain, since⟩ := polled
  cases step with
  | write request =>
    simp only [Step.after, perform_left]
    cases request.refusal? tables with
    | some fault => exact ⟨row, member, rfl, rfl, time, recorded, plain, since⟩
    | none =>
      exact ⟨request.onMailbox row, List.mem_append_left _ (List.mem_map_of_mem member),
        on_mailbox_id request row, on_mailbox_interval row, time,
        (on_mailbox_last_poll scheduled row).trans recorded, plain, since⟩
  | pass now stamp poll =>
    have same := record_row_same now stamp (tablesPass now stamp poll tables).results row
    have later := record_row_last_poll sound now stamp poll row member
    simp only [Step.after, tables_pass_left]
    refine ⟨_, List.mem_map_of_mem member, same.id, same.intervalMinutes, ?_⟩
    cases succeeded : (tablesPass now stamp poll tables).succeededOn row.id with
    | false => exact ⟨time, by rw [later, succeeded]; exact recorded, plain, since⟩
    | true =>
      -- The clock may have gone back, but not before the last poll: then the mailbox was not due.
      obtain ⟨other, inTable, sameId, -, -, due⟩ :=
        (polled_iff now stamp poll row.id).mp (success_polled now stamp poll succeeded)
      obtain rfl := same_mailbox sound other row inTable member sameId
      have elapsed := (due_iff recorded scheduled plain).mp due
      have forward := interval_nonneg other.intervalMinutes
      exact ⟨now, by rw [later, succeeded]; rfl, scheduled, by omega⟩

theorem polled_since_run {start : Instant} {id : MailboxId} {minutes : Int64} (steps : List Step)
    (scheduled : ∀ step ∈ steps, step.IsScheduled) (sound : Sound tables)
    (polled : PolledSince start id minutes tables) :
    PolledSince start id minutes (afterSteps steps tables) := by
  induction steps generalizing tables with
  | nil => exact polled
  | cons step rest ih =>
    exact ih (fun other member => scheduled other (List.mem_cons_of_mem step member))
      (steps_sound [step] tables sound)
      (polled_since_step step (scheduled step List.mem_cons_self) sound polled)

def DueAt (now : Instant) (id : MailboxId) (tables : Tables) : Prop :=
  ∃ row ∈ tables.mailboxes, row.id = id ∧ row.toMailbox.isDue now = true ∧
    ∀ time, row.lastPolledAt = some time → time.IsPlain

theorem due_congr (now : Instant) {row other : MailboxRow}
    (interval : other.intervalMinutes = row.intervalMinutes)
    (polled : other.lastPolledAt = row.lastPolledAt) :
    other.toMailbox.isDue now = row.toMailbox.isDue now := by
  unfold MailboxRow.toMailbox Mailbox.isDue Mailbox.intervalSeconds
  rw [interval, polled]

theorem due_at_writes {now : Instant} {id : MailboxId} (steps : List Step)
    (scheduled : ∀ step ∈ steps, step.IsScheduled) (writes : ∀ step ∈ steps, step.IsWrite)
    (due : DueAt now id tables) : DueAt now id (afterSteps steps tables) := by
  induction steps generalizing tables with
  | nil => exact due
  | cons step rest ih =>
    refine ih (fun other member => scheduled other (List.mem_cons_of_mem step member))
      (fun other member => writes other (List.mem_cons_of_mem step member)) ?_
    have ordered := scheduled step List.mem_cons_self
    cases step with
    | pass => exact (writes _ List.mem_cons_self).elim
    | write request =>
      simp only [Step.after, perform_left]
      cases request.refusal? tables with
      | some fault => exact due
      | none =>
        obtain ⟨row, member, rfl, isDue, plain⟩ := due
        have recorded := on_mailbox_last_poll ordered row
        exact ⟨request.onMailbox row, List.mem_append_left _ (List.mem_map_of_mem member),
          on_mailbox_id request row,
          (due_congr now (on_mailbox_interval row) recorded).trans isDue, recorded ▸ plain⟩

theorem due_later {row : MailboxRow} {now later : Instant} (nowPlain : now.IsPlain)
    (laterPlain : later.IsPlain)
    (recorded : ∀ time, row.lastPolledAt = some time → time.IsPlain)
    (order : later.isBefore now = false) (due : row.toMailbox.isDue now = true) :
    row.toMailbox.isDue later = true := by
  cases polled : row.lastPolledAt with
  | none => simp only [Mailbox.isDue, MailboxRow.toMailbox, polled]
  | some time =>
    have plain := recorded time polled
    have forward := Instant.nanos_le nowPlain laterPlain order
    rw [due_iff polled nowPlain plain] at due
    rw [due_iff polled laterPlain plain]
    omega

end Distance

/-- Two passes of a run from empty tables: the steps before the first, between the two and after the
second, and the time and the polls of each. -/
structure TwoPasses where
  done : List Step
  now : Instant
  stamp : Instant
  poll : Nat → Mailbox → PollOutcome
  between : List Step
  later : Instant
  laterStamp : Instant
  laterPoll : Nat → Mailbox → PollOutcome
  rest : List Step

namespace TwoPasses

def steps (passes : TwoPasses) : List Step :=
  passes.done ++ .pass passes.now passes.stamp passes.poll ::
    (passes.between ++ .pass passes.later passes.laterStamp passes.laterPoll :: passes.rest)

def tables (passes : TwoPasses) : Tables := afterSteps passes.done {}

def first (passes : TwoPasses) : Pass Tables :=
  tablesPass passes.now passes.stamp passes.poll passes.tables

def laterTables (passes : TwoPasses) : Tables := afterSteps passes.between passes.first.state

def second (passes : TwoPasses) : Pass Tables :=
  tablesPass passes.later passes.laterStamp passes.laterPoll passes.laterTables

end TwoPasses

section Passes
variable {passes : TwoPasses} {tables : Tables}

theorem passes_scheduled (scheduled : ∀ step ∈ passes.steps, step.IsScheduled) :
    (∀ step ∈ passes.done, step.IsScheduled) ∧ passes.now.IsPlain ∧
      (∀ step ∈ passes.between, step.IsScheduled) ∧ passes.later.IsPlain := by
  refine ⟨fun step member => scheduled step ?_,
    scheduled (.pass passes.now passes.stamp passes.poll) ?_,
    fun step member => scheduled step ?_,
    scheduled (.pass passes.later passes.laterStamp passes.laterPoll) ?_⟩
  all_goals simp [TwoPasses.steps, *]

theorem passes_sound (passes : TwoPasses) :
    Sound passes.tables ∧ Sound passes.first.state ∧ Sound passes.laterTables := by
  have sound : Sound passes.tables := steps_sound passes.done {} empty_sound
  have next : Sound passes.first.state :=
    steps_sound [.pass passes.now passes.stamp passes.poll] passes.tables sound
  exact ⟨sound, next, steps_sound passes.between _ next⟩

theorem mailbox_read (sound : Sound tables) {row : MailboxRow} (member : row ∈ tables.mailboxes) :
    tables.mailbox? row.id = some row.toMailbox := by
  rw [Tables.mailbox?, find_keyed MailboxRow.id tables.mailboxes row sound.mailboxIds member]
  rfl

theorem read_mailbox {id : MailboxId} {mailbox : Mailbox}
    (read : tables.mailbox? id = some mailbox) :
    ∃ row ∈ tables.mailboxes, row.id = id ∧ row.toMailbox = mailbox := by
  obtain ⟨row, found, same⟩ := Option.map_eq_some_iff.mp read
  exact ⟨row, List.mem_of_find?_eq_some found, by simpa using List.find?_some found, same⟩

theorem successes_apart (scheduled : ∀ step ∈ passes.steps, step.IsScheduled) {id : MailboxId}
    (success : passes.first.succeededOn id = true)
    (again : passes.second.succeededOn id = true) :
    ∃ before mailbox, passes.tables.mailbox? id = some before ∧
      passes.laterTables.mailbox? id = some mailbox ∧
      before.pollingIntervalMinutes = mailbox.pollingIntervalMinutes ∧
      mailbox.pollingIntervalMinutes.toNat * 60 * 1000000000 ≤
        passes.later.nanosSince passes.now := by
  obtain ⟨-, nowPlain, between, laterPlain⟩ := passes_scheduled scheduled
  obtain ⟨sound, nextSound, laterSound⟩ := passes_sound passes
  obtain ⟨row, member, rfl, -⟩ :=
    (polled_iff _ _ _ id).mp (success_polled _ _ _ success)
  -- What the first pass records is carried to the second one, where it makes the mailbox due.
  have since : PolledSince passes.now row.id row.intervalMinutes passes.first.state := by
    have same := record_row_same passes.now passes.stamp passes.first.results row
    rw [TwoPasses.first, tables_pass_left]
    refine ⟨_, List.mem_map_of_mem member, same.id, same.intervalMinutes, passes.now, ?_,
      nowPlain, Int.le_refl _⟩
    rw [record_row_last_poll sound passes.now passes.stamp passes.poll row member]
    exact if_pos success
  obtain ⟨last, inTable, sameId, sameInterval, time, recorded, plain, order⟩ :=
    polled_since_run passes.between between nextSound since
  obtain ⟨other, inLater, otherId, -, -, due⟩ :=
    (polled_iff _ _ _ row.id).mp (success_polled _ _ _ again)
  obtain rfl := same_mailbox laterSound other last inLater inTable (otherId.trans sameId.symm)
  refine ⟨row.toMailbox, other.toMailbox, mailbox_read sound member,
    sameId ▸ mailbox_read laterSound inLater, ?_, ?_⟩
  · exact congrArg intervalOfColumn sameInterval.symm
  · have elapsed := (due_iff recorded laterPlain plain).mp due
    rw [Instant.nanos_since_eq laterPlain nowPlain]
    change intervalNanos other.intervalMinutes ≤ _
    omega

theorem failure_retried (scheduled : ∀ step ∈ passes.steps, step.IsScheduled) {id : MailboxId}
    (failed : passes.first.failedOn id = true) (next : ∀ step ∈ passes.between, step.IsWrite)
    (order : passes.later.isBefore passes.now = false)
    (pollable : ∃ mailbox, passes.laterTables.mailbox? id = some mailbox ∧
      mailbox.isPollable = true) : id ∈ passes.second.calls := by
  obtain ⟨done, nowPlain, between, laterPlain⟩ := passes_scheduled scheduled
  obtain ⟨sound, nextSound, laterSound⟩ := passes_sound passes
  obtain ⟨row, member, rfl, -, -, due⟩ :=
    (polled_iff _ _ _ id).mp (failure_polled _ _ _ failed)
  have missed := failure_excludes_success _ _ _ sound failed
  have polls := polls_recorded_run passes.done done empty_sound empty_polls
  have plain : ∀ time, row.lastPolledAt = some time → time.IsPlain := fun time recorded =>
    polls.plain row.id time ((polls.recorded row member).symm.trans recorded)
  -- A poll that failed left the row as it was, and so did the writes after it.
  have dueThen : DueAt passes.now row.id passes.first.state := by
    rw [TwoPasses.first, tables_pass_left]
    refine ⟨row, ?_, rfl, due, plain⟩
    have unchanged := record_row_missed passes.now passes.stamp passes.poll row missed
    exact List.mem_map.mpr ⟨row, member, unchanged⟩
  obtain ⟨last, inTable, sameId, stillDue, lastPlain⟩ :=
    due_at_writes passes.between between next dueThen
  obtain ⟨mailbox, read, active⟩ := pollable
  obtain ⟨other, inLater, otherId, rfl⟩ := read_mailbox read
  obtain rfl := same_mailbox laterSound other last inLater inTable (otherId.trans sameId.symm)
  obtain ⟨isActive, kept⟩ : other.isActive = true ∧ other.isDeleted = false := by
    simpa [Mailbox.isPollable, MailboxRow.toMailbox] using active
  rw [TwoPasses.second, ← sameId]
  exact (polled_iff _ _ _ other.id).mpr ⟨other, inLater, rfl, isActive, kept,
    due_later nowPlain laterPlain lastPlain order stillDue⟩

end Passes

/-- Over every run in which passes alone record polls: a mailbox holds the time of the last pass that
polled it with success, and none when there is none. Whatever else the run does, two polls of a mailbox
that succeeded are never closer than its interval, to the nanosecond, and a mailbox whose poll failed is
polled again by the next pass at that or a later time, when it may be polled at all. -/
theorem polls_by_history (steps : List Step) (scheduled : ∀ step ∈ steps, step.IsScheduled) :
    (∀ id mailbox, (afterSteps steps {}).mailbox? id = some mailbox →
      mailbox.lastPolledAt = lastSuccess? id steps {} none) ∧
    ∀ passes : TwoPasses, passes.steps = steps → ∀ id,
      (passes.first.succeededOn id = true → passes.second.succeededOn id = true →
        ∃ before mailbox, passes.tables.mailbox? id = some before ∧
          passes.laterTables.mailbox? id = some mailbox ∧
          before.pollingIntervalMinutes = mailbox.pollingIntervalMinutes ∧
          mailbox.pollingIntervalMinutes.toNat * 60 * 1000000000 ≤
            passes.later.nanosSince passes.now) ∧
      (passes.first.failedOn id = true → (∀ step ∈ passes.between, step.IsWrite) →
        passes.later.isBefore passes.now = false →
        (∃ mailbox, passes.laterTables.mailbox? id = some mailbox ∧ mailbox.isPollable = true) →
        id ∈ passes.second.calls) := by
  refine ⟨?_, ?_⟩
  · intro id mailbox read
    obtain ⟨row, member, rfl, rfl⟩ := read_mailbox read
    exact (polls_recorded_run steps scheduled empty_sound empty_polls).recorded row member
  · rintro passes rfl id
    exact ⟨successes_apart scheduled, failure_retried scheduled⟩

/-- A mailbox with an interval of five minutes is polled, switched off and on and polled again at the
first moment that would be late enough after a success. -/
def polledTwice (outcome : PollOutcome) : TwoPasses where
  done := [.write (.createMailbox 5 ⟨"m1"⟩ newYear newYear ⟨⟨"c1"⟩, "One", "inbox@c1.test", none⟩)]
  now := newYear
  stamp := newYear
  poll := fun _ _ => outcome
  between := [.write (.setMailboxActive ⟨"m1"⟩ false newYear),
    .write (.setMailboxActive ⟨"m1"⟩ true newYear)]
  later := newYearAt 5 0
  laterStamp := newYear
  laterPoll := fun _ _ => .processed 0
  rest := []

theorem polled_twice_scheduled (outcome : PollOutcome) :
    ∀ step ∈ (polledTwice outcome).steps, step.IsScheduled := by
  simp [polledTwice, TwoPasses.steps, Step.IsScheduled, Instant.IsPlain, newYear, newYearAt]

theorem mailbox_polled_twice :
    let success := polledTwice (.processed 1)
    let failure := polledTwice (.failed ["no answer"])
    (∀ step ∈ success.steps, step.IsScheduled) ∧ (∀ step ∈ failure.steps, step.IsScheduled) ∧
      (∃ mailbox, (afterSteps success.steps {}).mailbox? ⟨"m1"⟩ = some mailbox ∧
        mailbox.lastPolledAt = some success.later) ∧
      (∃ before mailbox, success.tables.mailbox? ⟨"m1"⟩ = some before ∧
        success.laterTables.mailbox? ⟨"m1"⟩ = some mailbox ∧
        before.pollingIntervalMinutes = mailbox.pollingIntervalMinutes ∧
        mailbox.pollingIntervalMinutes.toNat * 60 * 1000000000 ≤
          success.later.nanosSince success.now) ∧
      ⟨"m1"⟩ ∈ failure.second.calls := by
  intro success failure
  have scheduled := polled_twice_scheduled (.processed 1)
  obtain ⟨kept, apart⟩ := polls_by_history success.steps scheduled
  obtain ⟨-, retried⟩ :=
    polls_by_history failure.steps (polled_twice_scheduled (.failed ["no answer"]))
  have present : ((afterSteps success.steps {}).mailbox? ⟨"m1"⟩).isSome = true := by
    decide +kernel
  have last : lastSuccess? ⟨"m1"⟩ success.steps {} none = some success.later := by decide +kernel
  obtain ⟨mailbox, read⟩ := Option.isSome_iff_exists.mp present
  have pollable : (failure.laterTables.mailbox? ⟨"m1"⟩).any (·.isPollable) = true := by
    decide +kernel
  refine ⟨scheduled, polled_twice_scheduled _, ⟨mailbox, read, (kept _ mailbox read).trans last⟩,
    (apart success rfl ⟨"m1"⟩).1 (by decide +kernel) (by decide +kernel),
    (retried failure rfl ⟨"m1"⟩).2 (by decide +kernel) ?_ (by decide +kernel)
      ((Option.any_eq_true _ _).mp pollable)⟩
  simp [failure, polledTwice, Step.IsWrite]

end TicketRouting.Store
