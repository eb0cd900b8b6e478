import TicketRouting.Proofs.Store.Deletion
import TicketRouting.Proofs.Store.PollTimes
import TicketRouting.Proofs.Store.Reordering
import TicketRouting.Proofs.Store.RuleOverlay
/-!
Which rows a write or a pass writes. The rows that it writes carry its time, all others keep every
column, and what it creates is read back as it was asked for.
-/
namespace TicketRouting.Store

namespace Write

def stamp : Write → Instant
  | createQueue _ _ stamp _ | setDefaultQueue _ _ stamp | setQueueActive _ _ stamp
  | deleteQueue _ stamp | createRule _ _ stamp _ | updateRule _ _ stamp | reorderRules _ _ stamp
  | setRuleActive _ _ stamp | deleteRule _ stamp | createMailbox _ _ _ stamp _
  | markPolled _ _ stamp | setMailboxActive _ _ stamp | deleteMailbox _ stamp => stamp

/-- The write takes the mark of the default from the queue, whatever state the queue is in. -/
def TakesMark : Write → Queue → Prop
  | createQueue _ _ _ request, row =>
    request.isDefault = true ∧ row.companyId = request.companyId ∧ row.isDefault = true
  | setDefaultQueue company _ _, row => row.companyId = company ∧ row.isDefault = true
  | _, _ => False

end Write

/-- A table before and after. Rows stay in their places; the written ones carry the time, the others
are as they were, and created rows come last. So where no row carried the time before, it tells which
rows were written. -/
structure TableWritten {α κ : Type} (key : α → κ) (updatedAt : α → Instant) (stamp : Instant)
    (written : α → Prop) (created before later : List α) : Prop where
  rows : ∃ kept, later = kept ++ created ∧ List.Forall₂ (fun row left => key left = key row ∧
    (written row → updatedAt left = stamp) ∧ (¬ written row → left = row)) before kept
  exactly : (∀ row ∈ before, updatedAt row ≠ stamp) → ∀ left ∈ later,
    updatedAt left = stamp ↔ left ∈ created ∨ ∃ row ∈ before, key row = key left ∧ written row

/-- The rows that an accepted write writes, in each table; whatever it names is there. -/
structure Footprint (write : Write) (tables later : Tables) : Prop where
  queues : TableWritten Queue.id Queue.updatedAt write.stamp
    (fun row => write.ChangesQueue row.id ∨ write.TakesMark row) write.newQueues tables.queues
    later.queues
  rules : TableWritten RuleRow.id RuleRow.updatedAt write.stamp
    (fun row => write.ChangesRule row.id) (write.newRules tables) tables.rules later.rules
  mailboxes : TableWritten MailboxRow.id MailboxRow.updatedAt write.stamp
    (fun row => write.ChangesMailbox row.id) write.newMailboxes tables.mailboxes later.mailboxes
  queuesThere : ∀ id, write.ChangesQueue id → ∃ row ∈ tables.queues, row.id = id
  rulesThere : ∀ id, write.ChangesRule id → ∃ row ∈ tables.rules, row.id = id
  mailboxesThere : ∀ id, write.ChangesMailbox id → ∃ row ∈ tables.mailboxes, row.id = id
  cleared : ∀ row ∈ tables.queues, write.TakesMark row → ¬ write.ChangesQueue row.id →
    { row with isDefault := false, updatedAt := write.stamp } ∈ later.queues

structure ShowsQueue (tables : Tables) (queue : Queue) : Prop where
  known : tables.queue? queue.id = some queue
  listed : ∀ company other, (other ∈ tables.companyQueues company ∧ other.id = queue.id) ↔
    other = queue ∧ company = queue.companyId

structure ShowsMailbox (tables : Tables) (mailbox : Mailbox) : Prop where
  known : tables.mailbox? mailbox.id = some mailbox
  listed : ∀ other, (other ∈ tables.activeMailboxes ∧ other.id = mailbox.id) ↔ other = mailbox

def createdRule (id : RuleId) (createdAt stamp : Instant) (request : NewRule) (tables : Tables) :
    RoutingRule where
  id := id
  companyId := request.companyId
  queue := ⟨request.queueId, tables.queueName request.queueId⟩
  name := request.name
  description := request.description
  matchType := request.matchType
  matchOperator := request.matchOperator
  matchValue := request.matchValue
  sortOrder := request.sortOrder.getD (tables.lastSortOrder request.companyId + 1)
  isActive := true
  isDeleted := false
  autoAssignAgentId := request.autoAssignAgentId
  priorityOverride := request.priorityOverride
  tagsToAdd := request.tagsToAdd
  createdAt := createdAt
  updatedAt := stamp

def createdMailbox (defaultInterval : UInt32) (id : MailboxId) (createdAt stamp : Instant)
    (request : NewMailbox) : Mailbox where
  id := id
  companyId := request.companyId
  name := request.name
  address := request.address
  pollingIntervalMinutes := request.pollingIntervalMinutes.getD defaultInterval
  lastPolledAt := none
  isActive := true
  isDeleted := false
  createdAt := createdAt
  updatedAt := stamp

/-- What a write creates is what it answers with and what is read from then on. -/
def ReadsBack (tables later : Tables) : Write → Prop
  | .createQueue id createdAt stamp request =>
    let queue := queueRow id createdAt stamp request
    (createQueue id createdAt stamp request).perform tables = (.ok queue, later) ∧
      ShowsQueue later queue
  | .createRule id createdAt stamp request =>
    let rule := createdRule id createdAt stamp request tables
    (createRule id createdAt stamp request).perform tables = (.ok rule, later) ∧ Shows later rule
  | .createMailbox defaultInterval id createdAt stamp request =>
    let mailbox := createdMailbox defaultInterval id createdAt stamp request
    (createMailbox defaultInterval id createdAt stamp request).perform tables =
        (.ok mailbox, later) ∧ ShowsMailbox later mailbox
  | _ => True

section Rows
variable {α κ : Type} {key : α → κ} {updatedAt : α → Instant} {stamp : Instant}
  {written : α → Prop} {before : List α}

theorem table_written (change : α → α) (created : List α) (distinct : (before.map key).Nodup)
    (sameKey : ∀ row, key (change row) = key row)
    (stamped : ∀ row ∈ before, written row → updatedAt (change row) = stamp)
    (kept : ∀ row ∈ before, ¬ written row → change row = row)
    (stampedNew : ∀ row ∈ created, updatedAt row = stamp) :
    TableWritten key updatedAt stamp written created before (before.map change ++ created) := by
  refine ⟨⟨before.map change, rfl, ?_⟩, fun fresh left member => ?_⟩
  · rw [List.forall₂_map_right_iff, List.forall₂_same]
    exact fun row member => ⟨sameKey row, stamped row member, kept row member⟩
  · obtain changed | added := List.mem_append.mp member
    · obtain ⟨row, inBefore, rfl⟩ := List.mem_map.mp changed
      constructor
      · intro carries
        refine .inr ⟨row, inBefore, (sameKey row).symm, ?_⟩
        by_contra unwritten
        rw [kept row inBefore unwritten] at carries
        exact fresh row inBefore carries
      · rintro (new | ⟨other, inTable, same, hit⟩)
        · exact stampedNew _ new
        · rw [sameKey] at same
          obtain rfl := List.inj_on_of_nodup_map distinct inTable inBefore same
          exact stamped other inTable hit
    · exact ⟨fun _ => .inl added, fun _ => stampedNew left added⟩

theorem live_iff_named (live : α → Bool) {id : κ} (distinct : (before.map key).Nodup)
    (found : before.any live = true) (liveKey : ∀ other, live other = true → key other = id)
    {row : α} (member : row ∈ before) : live row = true ↔ id = key row := by
  constructor
  · exact fun hit => (liveKey row hit).symm
  · rintro rfl
    obtain ⟨other, inTable, hit⟩ := List.any_eq_true.mp found
    exact List.inj_on_of_nodup_map distinct inTable member (liveKey other hit) ▸ hit

theorem live_there (live : α → Bool) {id : κ} (found : before.any live = true)
    (liveKey : ∀ other, live other = true → key other = id) : ∃ row ∈ before, key row = id := by
  obtain ⟨row, member, hit⟩ := List.any_eq_true.mp found
  exact ⟨row, member, liveKey row hit⟩

end Rows

section Live

theorem live_queue_id {id : QueueId} (row : Queue) (live : isLiveQueue id row = true) :
    row.id = id := by
  simp only [isLiveQueue, Bool.and_eq_true, beq_iff_eq] at live
  exact live.1

theorem live_queue_of_id {company : CompanyId} {id : QueueId} (row : Queue)
    (live : isLiveQueueOf company id row = true) : row.id = id := by
  simp only [isLiveQueueOf, Bool.and_eq_true, beq_iff_eq] at live
  exact live.1.1

theorem live_rule_id {id : RuleId} (row : RuleRow) (live : isLiveRule id row = true) :
    row.id = id := by
  simp only [isLiveRule, Bool.and_eq_true, beq_iff_eq] at live
  exact live.1

theorem live_rule_of_id {company : CompanyId} {id : RuleId} (row : RuleRow)
    (live : isLiveRuleOf company id row = true) : row.id = id := by
  simp only [isLiveRuleOf, Bool.and_eq_true, beq_iff_eq] at live
  exact live.1.1

theorem live_mailbox_id {id : MailboxId} (row : MailboxRow) (live : isLiveMailbox id row = true) :
    row.id = id := by
  simp only [isLiveMailbox, Bool.and_eq_true, beq_iff_eq] at live
  exact live.1

end Live

section Queues
variable {write : Write} {tables : Tables} {row : Queue}

theorem live_queue_iff {id : QueueId} (sound : Sound tables)
    (found : tables.queues.any (isLiveQueue id) = true) (member : row ∈ tables.queues) :
    isLiveQueue id row = true ↔ id = row.id :=
  live_iff_named (isLiveQueue id) sound.queueIds found live_queue_id member

theorem live_queue_of_iff {company : CompanyId} {id : QueueId} (sound : Sound tables)
    (found : tables.queues.any (isLiveQueueOf company id) = true) (member : row ∈ tables.queues) :
    isLiveQueueOf company id row = true ↔ id = row.id :=
  live_iff_named (isLiveQueueOf company id) sound.queueIds found live_queue_of_id member

theorem queue_written (sound : Sound tables) (accepted : write.refusal? tables = none)
    (member : row ∈ tables.queues) :
    (write.ChangesQueue row.id ∨ write.TakesMark row →
      (write.onQueue row).updatedAt = write.stamp) ∧
    (¬ (write.ChangesQueue row.id ∨ write.TakesMark row) → write.onQueue row = row) := by
  cases write with
  | createQueue id createdAt stamp request =>
    simp only [Write.ChangesQueue, Write.TakesMark, Write.onQueue, Write.stamp, clearMark]
    cases request.isDefault <;> simp +contextual
  | setDefaultQueue company id stamp =>
    have target := live_queue_of_iff sound ((refuse_unless_none _ _).mp accepted) member
    simp only [Write.ChangesQueue, Write.TakesMark, Write.onQueue, Write.stamp, target, clearMark,
      Bool.and_eq_true, beq_iff_eq]
    by_cases own : id = row.id
    · simp only [own, ↓reduceIte, true_or, implies_true, not_true, false_implies, and_self]
    · simp +contextual only [own, ↓reduceIte, false_or, implies_true, and_self]
  | setQueueActive id | deleteQueue id =>
    have target := live_queue_iff sound ((refuse_unless_none _ _).mp accepted) member
    simp only [Write.ChangesQueue, Write.TakesMark, Write.onQueue, Write.stamp, target, or_false]
    exact ⟨fun own => by rw [if_pos own], fun other => if_neg other⟩
  | _ => exact ⟨fun hit => hit.elim False.elim False.elim, fun _ => rfl⟩

theorem queue_cleared (sound : Sound tables) (accepted : write.refusal? tables = none)
    (member : row ∈ tables.queues) (taken : write.TakesMark row)
    (other : ¬ write.ChangesQueue row.id) :
    write.onQueue row = { row with isDefault := false, updatedAt := write.stamp } := by
  cases write with
  | createQueue id createdAt stamp request =>
    obtain ⟨asked, own, marked⟩ := taken
    simp only [Write.onQueue, asked, clearMark, own, marked, beq_self_eq_true, Bool.and_self,
      ↓reduceIte, Write.stamp]
  | setDefaultQueue company id stamp =>
    obtain ⟨own, marked⟩ := taken
    have missed : ¬ isLiveQueueOf company id row = true := fun live =>
      other ((live_queue_of_iff sound ((refuse_unless_none _ _).mp accepted) member).mp live)
    simp only [Write.onQueue, missed, clearMark, own, marked, beq_self_eq_true, Bool.and_self,
      ↓reduceIte, Bool.false_eq_true, Write.stamp]
  | _ => exact taken.elim

theorem queue_there {id : QueueId} (accepted : write.refusal? tables = none)
    (changes : write.ChangesQueue id) : ∃ row ∈ tables.queues, row.id = id := by
  cases write with
  | setDefaultQueue company other stamp =>
    obtain rfl : other = id := changes
    exact live_there _ ((refuse_unless_none _ _).mp accepted) live_queue_of_id
  | setQueueActive other | deleteQueue other =>
    obtain rfl : other = id := changes
    exact live_there _ ((refuse_unless_none _ _).mp accepted) live_queue_id
  | _ => exact changes.elim

end Queues

section Rules
variable {write : Write} {tables : Tables} {row : RuleRow}

theorem place_given_some {ids : List RuleId} {id : RuleId} (position : Nat) (listed : id ∈ ids) :
    ∃ order, placeGiven id position ids = some order := by
  induction ids generalizing position with
  | nil => cases listed
  | cons other rest ih =>
    by_cases later : id ∈ rest
    · obtain ⟨order, placed⟩ := ih (position + 1) later
      exact ⟨order, by rw [placeGiven, placed, Option.some_or]⟩
    · obtain rfl : id = other := (List.mem_cons.mp listed).resolve_right later
      exact ⟨Int64.ofNat position, by simp [placeGiven, place_given_none _ later]⟩

theorem rule_written (sound : Sound tables) (accepted : write.refusal? tables = none)
    (member : row ∈ tables.rules) :
    (write.ChangesRule row.id → (write.onRule tables row).updatedAt = write.stamp) ∧
    (¬ write.ChangesRule row.id → write.onRule tables row = row) := by
  cases write with
  | updateRule id changes stamp =>
    obtain ⟨-, rule, -, known, -⟩ := update_rule_accepted accepted
    simp only [Write.ChangesRule, Write.onRule, Write.stamp, known, beq_iff_eq]
    exact ⟨fun own => by rw [if_pos own.symm, RuleRow.overwrite], fun other => if_neg (Ne.symm other)⟩
  | reorderRules company ids stamp =>
    have owned := listed_owned sound.ruleIds accepted member
    simp only [Write.ChangesRule, Write.onRule, Write.stamp]
    rw [renumber_row_eq company stamp 1 ids row owned]
    constructor
    · intro listed
      obtain ⟨order, placed⟩ := place_given_some 1 listed
      rw [placed]
    · intro unlisted
      rw [place_given_none 1 unlisted]
  | setRuleActive id | deleteRule id =>
    have target : isLiveRule id row = true ↔ id = row.id :=
      live_iff_named (isLiveRule id) sound.ruleIds ((refuse_unless_none _ _).mp accepted)
        live_rule_id member
    simp only [Write.ChangesRule, Write.onRule, Write.stamp, target]
    exact ⟨fun own => by rw [if_pos own], fun other => if_neg other⟩
  | _ => exact ⟨False.elim, fun _ => rfl⟩

theorem rule_there {id : RuleId} (accepted : write.refusal? tables = none)
    (changes : write.ChangesRule id) : ∃ row ∈ tables.rules, row.id = id := by
  cases write with
  | updateRule other asked stamp =>
    obtain rfl : other = id := changes
    obtain ⟨row, -, found, -⟩ := update_rule_accepted accepted
    exact ⟨row, List.mem_of_find?_eq_some found, by simpa using List.find?_some found⟩
  | reorderRules company ids stamp =>
    have found := (reorder_accepted_iff company ids stamp).mp accepted id changes
    exact live_there _ found live_rule_of_id
  | setRuleActive other | deleteRule other =>
    obtain rfl : other = id := changes
    exact live_there _ ((refuse_unless_none _ _).mp accepted) live_rule_id
  | _ => exact changes.elim

end Rules

section Mailboxes
variable {write : Write} {tables : Tables} {row : MailboxRow}

theorem live_mailbox_iff {id : MailboxId} (sound : Sound tables)
    (found : tables.mailboxes.any (isLiveMailbox id) = true) (member : row ∈ tables.mailboxes) :
    isLiveMailbox id row = true ↔ id = row.id :=
  live_iff_named (isLiveMailbox id) sound.mailboxIds found live_mailbox_id member

theorem mailbox_written (sound : Sound tables) (accepted : write.refusal? tables = none)
    (member : row ∈ tables.mailboxes) :
    (write.ChangesMailbox row.id → (write.onMailbox row).updatedAt = write.stamp) ∧
    (¬ write.ChangesMailbox row.id → write.onMailbox row = row) := by
  cases write with
  | markPolled id | setMailboxActive id | deleteMailbox id =>
    have target := live_mailbox_iff sound ((refuse_unless_none _ _).mp accepted) member
    simp only [Write.ChangesMailbox, Write.onMailbox, Write.stamp, target]
    exact ⟨fun own => by rw [if_pos own], fun other => if_neg other⟩
  | _ => exact ⟨False.elim, fun _ => rfl⟩

theorem mailbox_there {id : MailboxId} (accepted : write.refusal? tables = none)
    (changes : write.ChangesMailbox id) : ∃ row ∈ tables.mailboxes, row.id = id := by
  cases write with
  | markPolled other | setMailboxActive other | deleteMailbox other =>
    obtain rfl : other = id := changes
    exact live_there _ ((refuse_unless_none _ _).mp accepted) live_mailbox_id
  | _ => exact changes.elim

end Mailboxes

section Writes
variable {write : Write} {tables : Tables}

theorem new_rows_stamped (write : Write) (tables : Tables) :
    (∀ row ∈ write.newQueues, row.updatedAt = write.stamp) ∧
    (∀ row ∈ write.newRules tables, row.updatedAt = write.stamp) ∧
    ∀ row ∈ write.newMailboxes, row.updatedAt = write.stamp := by
  cases write <;>
    simp [Write.newQueues, Write.newRules, Write.newMailboxes, Write.stamp, queueRow, ruleRow,
      mailboxRow]

theorem write_footprint (sound : Sound tables) (accepted : write.refusal? tables = none) :
    Footprint write tables (write.applied tables) := by
  obtain ⟨newQueues, newRules, newMailboxes⟩ := new_rows_stamped write tables
  constructor
  case queues =>
    exact table_written write.onQueue write.newQueues sound.queueIds (on_queue_id write)
      (fun row member => (queue_written sound accepted member).1)
      (fun row member => (queue_written sound accepted member).2) newQueues
  case rules =>
    exact table_written (write.onRule tables) (write.newRules tables) sound.ruleIds
      (on_rule_id write tables) (fun row member => (rule_written sound accepted member).1)
      (fun row member => (rule_written sound accepted member).2) newRules
  case mailboxes =>
    exact table_written write.onMailbox write.newMailboxes sound.mailboxIds (on_mailbox_id write)
      (fun row member => (mailbox_written sound accepted member).1)
      (fun row member => (mailbox_written sound accepted member).2) newMailboxes
  case queuesThere => exact fun id => queue_there accepted
  case rulesThere => exact fun id => rule_there accepted
  case mailboxesThere => exact fun id => mailbox_there accepted
  case cleared =>
    intro row member taken other
    rw [← queue_cleared sound accepted member taken other]
    exact List.mem_append_left _ (List.mem_map_of_mem member)

end Writes

section Creations
variable {tables : Tables}

theorem queue_shown {queue : Queue} (sound : Sound tables) (member : queue ∈ tables.queues)
    (live : queue.isDeleted = false) : ShowsQueue tables queue where
  known := find_keyed Queue.id tables.queues queue sound.queueIds member
  listed company other := by
    simp only [Tables.companyQueues, List.mem_mergeSort, List.mem_filter, Bool.and_eq_true,
      beq_iff_eq, Bool.not_eq_true']
    constructor
    · rintro ⟨⟨inTable, own, -⟩, sameId⟩
      obtain rfl := same_queue sound other queue inTable member sameId
      exact ⟨rfl, own.symm⟩
    · rintro ⟨rfl, rfl⟩
      exact ⟨⟨member, rfl, live⟩, rfl⟩

theorem mailbox_shown {row : MailboxRow} (sound : Sound tables) (member : row ∈ tables.mailboxes)
    (active : row.isActive = true) (live : row.isDeleted = false) :
    ShowsMailbox tables row.toMailbox where
  known := mailbox_read sound member
  listed other := by
    simp only [Tables.activeMailboxes, List.mem_map, List.mem_mergeSort, List.mem_filter,
      Bool.and_eq_true, Bool.not_eq_true']
    constructor
    · rintro ⟨⟨second, ⟨inTable, -, -⟩, rfl⟩, sameId⟩
      rw [same_mailbox sound second row inTable member sameId]
    · rintro rfl
      exact ⟨⟨row, ⟨member, active, live⟩, rfl⟩, rfl⟩

theorem created_rule_read (id : RuleId) (createdAt stamp : Instant) (request : NewRule)
    (tables : Tables) :
    tables.readRule (ruleRow id createdAt stamp
        (request.sortOrder.getD (tables.lastSortOrder request.companyId + 1)) request) =
      .ok (createdRule id createdAt stamp request tables) := by
  have priority : (request.priorityOverride.map (·.name)).bind TicketPriority.ofText? =
      request.priorityOverride := by
    cases request.priorityOverride with
    | none => rfl
    | some priority => rw [Option.map_some, Option.bind_some, priority_of_name]
  simp only [Tables.readRule, RuleRow.read, ruleRow, parse_match_type_name,
    parse_match_operator_name, priority]
  rfl

theorem interval_of_column (minutes : UInt32) :
    intervalOfColumn (Int64.ofNat minutes.toNat) = minutes := by
  have small : minutes.toNat < UInt32.size := minutes.toNat_lt
  have kept : (Int64.ofNat minutes.toNat).toInt = minutes.toNat :=
    Int64.toInt_ofNat_of_lt (Nat.lt_trans small (by decide))
  rw [intervalOfColumn, kept, Int.toNat_natCast, Nat.min_eq_left (Nat.le_sub_one_of_lt small),
    UInt32.ofNat_toNat]

theorem created_mailbox_read (defaultInterval : UInt32) (id : MailboxId)
    (createdAt stamp : Instant) (request : NewMailbox) :
    (mailboxRow defaultInterval id createdAt stamp request).toMailbox =
      createdMailbox defaultInterval id createdAt stamp request := by
  simp only [MailboxRow.toMailbox, mailboxRow, interval_of_column, createdMailbox]

theorem created_reads_back {write : Write} (sound : Sound tables)
    (accepted : write.refusal? tables = none) : ReadsBack tables (write.applied tables) write := by
  have later : Sound (write.applied tables) := applied_sound sound accepted
  cases write with
  | createQueue id createdAt stamp request =>
    refine ⟨by rw [perform_create_queue, accepted]; rfl, ?_⟩
    exact queue_shown later (List.mem_append_right _ (List.mem_singleton.mpr rfl)) rfl
  | createRule id createdAt stamp request =>
    have readNow := created_rule_read id createdAt stamp request tables
    obtain ⟨rule, reads, performed⟩ := perform_create_rule id createdAt stamp request tables
    obtain rfl : createdRule id createdAt stamp request tables = rule :=
      Except.ok.inj (readNow.symm.trans reads)
    refine ⟨by rw [performed, accepted]; rfl, ?_⟩
    rw [created_tables] at later ⊢
    -- The queues are the same, so the row is read afterwards as it is read before.
    exact row_shows later (List.mem_append_right _ (List.mem_singleton.mpr rfl)) reads rfl
  | createMailbox defaultInterval id createdAt stamp request =>
    have sameMailbox := created_mailbox_read defaultInterval id createdAt stamp request
    refine ⟨by rw [perform_create_mailbox, accepted, sameMailbox]; rfl, ?_⟩
    rw [← sameMailbox]
    exact mailbox_shown later (List.mem_append_right _ (List.mem_singleton.mpr rfl)) rfl rfl
  | _ => exact trivial

end Creations

theorem pass_footprint {tables : Tables} (sound : Sound tables) (now stamp : Instant)
    (poll : Nat → Mailbox → PollOutcome) :
    TableWritten MailboxRow.id MailboxRow.updatedAt stamp
      (fun row => (tablesPass now stamp poll tables).succeededOn row.id = true) []
      tables.mailboxes (tablesPass now stamp poll tables).state.mailboxes := by
  rw [tables_pass_left, ← List.append_nil (List.map _ _)]
  apply table_written _ [] sound.mailboxIds
  case sameKey => exact fun row => (record_row_same now stamp _ row).id
  case stamped =>
    intro row member succeeded
    rw [record_row_hit sound now stamp poll row member succeeded]
  case kept =>
    intro row _ missed
    exact record_row_missed now stamp poll row ((Bool.not_eq_true _).mp missed)
  case stampedNew => simp

/-- Every write that is accepted and every pass writes the rows that it is to write and no others, and
what is created is read back as it was asked for. -/
theorem written_rows_exact (steps : List Step) :
    let tables := afterSteps steps {}
    (∀ write : Write, (write.action.perform tables).1 = .ok () →
      let later := (write.action.perform tables).2
      Footprint write tables later ∧ ReadsBack tables later write) ∧
    ∀ (now stamp : Instant) (poll : Nat → Mailbox → PollOutcome),
      let pass := tablesPass now stamp poll tables
      pass.state.queues = tables.queues ∧ pass.state.rules = tables.rules ∧
        TableWritten MailboxRow.id MailboxRow.updatedAt stamp
          (fun row => pass.succeededOn row.id = true) [] tables.mailboxes
          pass.state.mailboxes := by
  intro tables
  have sound : Sound tables := steps_sound steps {} empty_sound
  constructor
  · intro write answered later
    have accepted : write.refusal? tables = none := (accepted_iff write tables).mp answered
    have left : later = write.applied tables := by
      simp only [later, perform_left, accepted, Option.isSome_none, Bool.false_eq_true, ↓reduceIte]
    rw [left]
    exact ⟨write_footprint sound accepted, created_reads_back sound accepted⟩
  · intro now stamp poll pass
    have left : pass.state = { tables with
        mailboxes := tables.mailboxes.map (recordRow now stamp pass.results) } :=
      tables_pass_left now stamp poll tables
    exact ⟨by rw [left], by rw [left], pass_footprint sound now stamp poll⟩

theorem second_default_queue_written :
    let newQueue (name : String) : NewQueue := ⟨⟨"c1"⟩, name, none, true⟩
    let steps : List Step := [
      .write (.createQueue ⟨"q1"⟩ newYear newYear (newQueue "Help")),
      .write (.createQueue ⟨"q2"⟩ newYear newYear ⟨⟨"c2"⟩, "Sales", none, true⟩),
      .write (.createMailbox 5 ⟨"m1"⟩ newYear newYear ⟨⟨"c1"⟩, "Inbox", "in@c1.test", none⟩),
      .pass (newYearAt 1 0) (newYearAt 1 0) fun _ _ => .processed 3]
    let tables := afterSteps steps {}
    let write : Write := .createQueue ⟨"q3"⟩ newYear (newYearAt 2 0) (newQueue "Care")
    let later := (write.action.perform tables).2
    (write.action.perform tables).1 = .ok () ∧ Footprint write tables later ∧
      ReadsBack tables later write := by
  intro newQueue steps tables write later
  have answered : (write.action.perform tables).1 = .ok () :=
    (accepted_iff write tables).mpr (by decide +kernel)
  exact ⟨answered, (written_rows_exact steps).1 write answered⟩

end TicketRouting.Store
