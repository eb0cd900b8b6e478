import TicketRouting.Proofs.Routing.Decision
import TicketRouting.Proofs.Store.DefaultQueue
import TicketRouting.Proofs.Store.Reading
import TicketRouting.Proofs.Store.Steps
/-!
Deletion is for good. A row that is marked as deleted stays in its table as it is, through all writes
and passes; only the mark of the default can still be taken from a deleted queue. Nothing lists the row
or acts on it any more.
-/
namespace TicketRouting.Store

namespace Write

def ChangesQueue (id : QueueId) : Write → Prop
  | setDefaultQueue _ other _ => other = id
  | setQueueActive other _ _ => other = id
  | deleteQueue other _ => other = id
  | _ => False

/-- The write is to change the rule; a reordering is to change every rule that it names. -/
def ChangesRule (id : RuleId) : Write → Prop
  | updateRule other _ _ => other = id
  | reorderRules _ ids _ => id ∈ ids
  | setRuleActive other _ _ => other = id
  | deleteRule other _ => other = id
  | _ => False

def ChangesMailbox (id : MailboxId) : Write → Prop
  | markPolled other _ _ => other = id
  | setMailboxActive other _ _ => other = id
  | deleteMailbox other _ => other = id
  | _ => False

end Write

/-- The write finds nothing to change and changes nothing. -/
def FindsNothing (write : Write) (tables : Tables) : Prop :=
  ∃ subject, write.action.perform tables = (.error (.notFound subject), tables)

/-- The queue is the same but for the mark of the default, which it may have lost. -/
def LostMarkAtMost (before later : Queue) : Prop :=
  later = before ∨ before.isDefault = true ∧
    ∃ stamp, later = { before with isDefault := false, updatedAt := stamp }

/-- What holds of a deleted queue from then on. -/
structure QueueIsGone (row : Queue) (tables : Tables) : Prop where
  kept : ∃ later, tables.queue? row.id = some later ∧ LostMarkAtMost row later
  unlisted : ∀ company, ∀ queue ∈ tables.companyQueues company, queue.id ≠ row.id
  notFound : ∀ company queue, tables.defaultQueue? company = some queue → queue.id ≠ row.id
  notFallenBackTo : ∀ connection : Connection, connection.tables = tables →
    ∀ matcher context result, route matcher connection.lookup context = .ok result →
      result.isDefaultFallback = true → result.queueId ≠ some row.id
  refused : ∀ write : Write, write.ChangesQueue row.id → FindsNothing write tables

structure RuleIsGone (row : RuleRow) (tables : Tables) : Prop where
  kept : tables.rules.find? (·.id == row.id) = some row
  notTried : ∀ company, ∀ rule ∈ tables.activeRules company, rule.id ≠ row.id
  unlisted : ∀ company, ∀ rule ∈ tables.companyRules company, rule.id ≠ row.id
  notMatched : ∀ connection : Connection, connection.tables = tables →
    ∀ matcher context result, route matcher connection.lookup context = .ok result →
      result.matchedRuleId ≠ some row.id
  refused : ∀ write : Write, write.ChangesRule row.id → FindsNothing write tables

structure MailboxIsGone (row : MailboxRow) (tables : Tables) : Prop where
  kept : tables.mailboxes.find? (·.id == row.id) = some row
  unlisted : ∀ mailbox ∈ tables.activeMailboxes, mailbox.id ≠ row.id
  notPolled : ∀ now stamp poll, row.id ∉ (tablesPass now stamp poll tables).calls
  refused : ∀ write : Write, write.ChangesMailbox row.id → FindsNothing write tables

theorem finds_nothing {write : Write} {tables : Tables} {subject : String}
    (refused : write.refusal? tables = some (.notFound subject)) : FindsNothing write tables :=
  ⟨subject, (perform_action write tables).trans (settled_refused _ _ _ _ _ refused)⟩

section Queues
variable {tables : Tables} {row : Queue}

theorem lost_mark_trans {first second third : Queue} (before : LostMarkAtMost first second)
    (after : LostMarkAtMost second third) : LostMarkAtMost first third := by
  obtain rfl | ⟨marked, stamp, rfl⟩ := before
  · exact after
  · obtain rfl | ⟨again, -⟩ := after
    · exact .inr ⟨marked, stamp, rfl⟩
    · cases again

theorem lost_mark_same {before later : Queue} (lost : LostMarkAtMost before later) :
    later.id = before.id ∧ later.isDeleted = before.isDeleted := by
  obtain rfl | ⟨-, stamp, rfl⟩ := lost <;> exact ⟨rfl, rfl⟩

theorem clear_mark_lost (company : CompanyId) (stamp : Instant) (row : Queue) :
    LostMarkAtMost row (clearMark company stamp row) := by
  unfold clearMark
  split
  · rename_i hit
    exact .inr ⟨(Bool.and_eq_true_iff.mp hit).2, stamp, rfl⟩
  · exact .inl rfl

/-- Every write to a queue looks for one that is not deleted; only the mark is taken without asking. -/
theorem on_queue_deleted (write : Write) (deleted : row.isDeleted = true) :
    LostMarkAtMost row (write.onQueue row) := by
  cases write with
  | createQueue id createdAt stamp request =>
    simp only [Write.onQueue]
    split
    · exact clear_mark_lost _ _ _
    · exact .inl rfl
  | setDefaultQueue company id stamp =>
    have notLive : isLiveQueueOf company id row = false := by simp [isLiveQueueOf, deleted]
    simp only [Write.onQueue, notLive]
    exact clear_mark_lost _ _ _
  | setQueueActive id | deleteQueue id =>
    have notLive : isLiveQueue id row = false := by simp [isLiveQueue, deleted]
    exact .inl (by simp [Write.onQueue, notLive])
  | _ => exact .inl rfl

theorem deleted_queue_stays (steps : List Step) (member : row ∈ tables.queues)
    (deleted : row.isDeleted = true) :
    ∃ later ∈ (afterSteps steps tables).queues, LostMarkAtMost row later := by
  apply steps_invariant (fun tables => ∃ later ∈ tables.queues, LostMarkAtMost row later)
  · rintro tables write ⟨later, inTable, lost⟩ -
    have stillDeleted : later.isDeleted = true := (lost_mark_same lost).2.trans deleted
    exact ⟨write.onQueue later, List.mem_append_left _ (List.mem_map_of_mem inTable),
      lost_mark_trans lost (on_queue_deleted write stillDeleted)⟩
  · exact ⟨row, member, .inl rfl⟩

theorem deleted_queue_refused (sound : Sound tables) (member : row ∈ tables.queues)
    (deleted : row.isDeleted = true) (write : Write) (changes : write.ChangesQueue row.id) :
    FindsNothing write tables := by
  cases write with
  | setDefaultQueue company id stamp =>
    obtain rfl : id = row.id := changes
    have absent : tables.queues.any (isLiveQueueOf company row.id) = false := by
      apply none_live Queue.id (·.isDeleted) _ tables.queues row sound.queueIds member deleted
      intro other live
      obtain ⟨same, -, kept⟩ : other.id = row.id ∧ other.companyId = company ∧
          other.isDeleted = false := by simpa [isLiveQueueOf, and_assoc] using live
      exact ⟨same, kept⟩
    exact finds_nothing (by simp only [Write.refusal?, absent]; rfl)
  | setQueueActive id | deleteQueue id =>
    obtain rfl : id = row.id := changes
    have absent : tables.queues.any (isLiveQueue row.id) = false :=
      none_live Queue.id (·.isDeleted) _ tables.queues row sound.queueIds member deleted
        fun other live => by simpa [isLiveQueue] using live
    exact finds_nothing (by simp only [Write.refusal?, absent]; rfl)
  | _ => exact changes.elim

theorem queue_is_gone {before : Queue} (sound : Sound tables) (member : row ∈ tables.queues)
    (lost : LostMarkAtMost before row) (deleted : row.isDeleted = true) :
    QueueIsGone before tables := by
  have same : row.id = before.id := (lost_mark_same lost).1
  have notFound : ∀ company queue, tables.defaultQueue? company = some queue →
      queue.id ≠ before.id := by
    intro company queue found sameId
    obtain ⟨inTable, -, usable⟩ := default_queue_row company tables queue found
    obtain rfl := same_queue sound queue row inTable member (sameId.trans same.symm)
    simp [Queue.isUsableDefault, deleted] at usable
  refine ⟨⟨row, ?_, lost⟩, ?_, notFound, ?_, ?_⟩
  · rw [← same]
    exact find_keyed Queue.id tables.queues row sound.queueIds member
  · intro company queue listed sameId
    simp only [Tables.companyQueues, List.mem_mergeSort, List.mem_filter] at listed
    obtain rfl := same_queue sound queue row listed.1 member (sameId.trans same.symm)
    simp [deleted] at listed
  · rintro connection rfl matcher context result decided fallback named
    obtain ⟨queue, asked, routed⟩ :=
      fallback_queue_found matcher context connection.lookup result decided fallback
    have found := lookup_default context.companyId (some queue) asked
    refine notFound context.companyId queue found.symm ?_
    simpa [RoutingResult.queueId, routed, Queue.toRef] using named
  · rw [← same]
    exact deleted_queue_refused sound member deleted

end Queues

section Rules
variable {tables : Tables} {row : RuleRow}

theorem deleted_rule_read (sound : Sound tables) (named : AllNamed tables)
    (member : row ∈ tables.rules) (deleted : row.isDeleted = true) :
    ∃ rule, tables.rule? row.id = .ok (some rule) ∧ rule.isDeleted = true := by
  obtain ⟨rule, reads⟩ := named_reads row (named row member) tables
  exact ⟨rule, (rule_read_iff sound row.id rule).mpr ⟨row, member, rfl, reads⟩,
    (read_state reads).2.1.trans deleted⟩

/-- The writing step of a change asks for no mark of deletion, but the reading step did. -/
theorem on_rule_deleted (sound : Sound tables) (named : AllNamed tables) (write : Write)
    (accepted : write.refusal? tables = none) (member : row ∈ tables.rules)
    (deleted : row.isDeleted = true) : write.onRule tables row = row := by
  cases write with
  | updateRule id changes stamp =>
    by_cases own : row.id = id
    · subst own
      obtain ⟨rule, known, gone⟩ := deleted_rule_read sound named member deleted
      simp [Write.refusal?, known, gone] at accepted
    · simp [Write.onRule, own]
  | reorderRules company ids stamp =>
    exact renumber_row_missed company stamp 1 ids row fun id => by simp [isLiveRuleOf, deleted]
  | setRuleActive id | deleteRule id => simp [Write.onRule, isLiveRule, deleted]
  | _ => rfl

theorem deleted_rule_stays (steps : List Step) (sound : Sound tables) (named : AllNamed tables)
    (member : row ∈ tables.rules) (deleted : row.isDeleted = true) :
    row ∈ (afterSteps steps tables).rules := by
  have kept := steps_invariant
    (fun tables => Sound tables ∧ AllNamed tables ∧ row ∈ tables.rules) ?step steps tables
    ⟨sound, named, member⟩
  case step =>
    rintro tables write ⟨sound, named, member⟩ accepted
    refine ⟨applied_sound sound accepted, applied_named named, List.mem_append_left _ ?_⟩
    rw [← on_rule_deleted sound named write accepted member deleted]
    exact List.mem_map_of_mem member
  exact kept.2.2

theorem deleted_rule_refused (sound : Sound tables) (named : AllNamed tables)
    (member : row ∈ tables.rules) (deleted : row.isDeleted = true) (write : Write)
    (changes : write.ChangesRule row.id) : FindsNothing write tables := by
  cases write with
  | updateRule id changed stamp =>
    obtain rfl : id = row.id := changes
    obtain ⟨rule, known, gone⟩ := deleted_rule_read sound named member deleted
    exact finds_nothing (by simp [Write.refusal?, known, gone]; rfl)
  | reorderRules company ids stamp =>
    have absent : tables.rules.any (isLiveRuleOf company row.id) = false := by
      apply none_live RuleRow.id (·.isDeleted) _ tables.rules row sound.ruleIds member deleted
      intro other live
      obtain ⟨same, -, kept⟩ : other.id = row.id ∧ other.companyId = company ∧
          other.isDeleted = false := by simpa [isLiveRuleOf, and_assoc] using live
      exact ⟨same, kept⟩
    -- The reordering fails at the first rule that is missing, which may stand before this one.
    have stops : (ids.find? fun id => !tables.rules.any (isLiveRuleOf company id)).isSome := by
      rw [List.find?_isSome]
      exact ⟨row.id, changes, by simp [absent]⟩
    obtain ⟨first, found⟩ := Option.isSome_iff_exists.mp stops
    exact finds_nothing (by simp only [Write.refusal?, found, Option.map_some]; rfl)
  | setRuleActive id | deleteRule id =>
    obtain rfl : id = row.id := changes
    have absent : tables.rules.any (isLiveRule row.id) = false :=
      none_live RuleRow.id (·.isDeleted) _ tables.rules row sound.ruleIds member deleted
        fun other live => by simpa [isLiveRule] using live
    exact finds_nothing (by simp only [Write.refusal?, absent]; rfl)
  | _ => exact changes.elim

theorem rule_is_gone (sound : Sound tables) (named : AllNamed tables) (member : row ∈ tables.rules)
    (deleted : row.isDeleted = true) : RuleIsGone row tables := by
  have unlisted : ∀ selected : RuleRow → Bool, (∀ other, selected other = true →
      other.isDeleted = false) → ∀ rule ∈ tables.rulesWhere selected, rule.id ≠ row.id := by
    intro selected live rule listed sameId
    obtain ⟨other, inTable, hit, reads⟩ := (rules_where_mem selected rule).mp listed
    have sameRow : other.id = row.id := (read_reference reads).1.symm.trans sameId
    obtain rfl := same_rule sound other row inTable member sameRow
    simp [live other hit] at deleted
  have notTried : ∀ company, ∀ rule ∈ tables.activeRules company, rule.id ≠ row.id :=
    fun company => unlisted _ fun other hit => by simpa using (Bool.and_eq_true_iff.mp hit).2
  refine ⟨find_keyed RuleRow.id tables.rules row sound.ruleIds member, notTried, ?_, ?_,
    deleted_rule_refused sound named member deleted⟩
  · exact fun company => unlisted _ fun other hit => by
      simpa using (Bool.and_eq_true_iff.mp hit).2
  · rintro connection rfl matcher context result decided matched
    obtain ⟨rules, rule, listed, inRules, sameId⟩ :=
      matched_rule_listed matcher context connection.lookup result row.id decided matched
    rw [lookup_rules context.companyId rules listed] at inRules
    exact notTried context.companyId rule inRules sameId

end Rules

section Mailboxes
variable {tables : Tables} {row : MailboxRow}

theorem on_mailbox_deleted (write : Write) (deleted : row.isDeleted = true) :
    write.onMailbox row = row := by
  cases write with
  | markPolled | setMailboxActive | deleteMailbox => simp [Write.onMailbox, isLiveMailbox, deleted]
  | _ => rfl

theorem deleted_mailbox_stays (steps : List Step) (member : row ∈ tables.mailboxes)
    (deleted : row.isDeleted = true) : row ∈ (afterSteps steps tables).mailboxes := by
  apply steps_invariant (fun tables => row ∈ tables.mailboxes) _ steps tables member
  intro tables write inTable _
  refine List.mem_append_left _ ?_
  rw [← on_mailbox_deleted write deleted]
  exact List.mem_map_of_mem inTable

theorem deleted_mailbox_refused (sound : Sound tables) (member : row ∈ tables.mailboxes)
    (deleted : row.isDeleted = true) (write : Write) (changes : write.ChangesMailbox row.id) :
    FindsNothing write tables := by
  have absent : tables.mailboxes.any (isLiveMailbox row.id) = false :=
    none_live MailboxRow.id (·.isDeleted) _ tables.mailboxes row sound.mailboxIds member deleted
      fun other live => by simpa [isLiveMailbox] using live
  cases write with
  | markPolled id | setMailboxActive id | deleteMailbox id =>
    obtain rfl : id = row.id := changes
    exact finds_nothing (by simp only [Write.refusal?, absent]; rfl)
  | _ => exact changes.elim

theorem mailbox_is_gone (sound : Sound tables) (member : row ∈ tables.mailboxes)
    (deleted : row.isDeleted = true) : MailboxIsGone row tables := by
  have unlisted : ∀ mailbox ∈ tables.activeMailboxes, mailbox.id ≠ row.id := by
    intro mailbox listed sameId
    simp only [Tables.activeMailboxes, List.mem_map, List.mem_mergeSort, List.mem_filter] at listed
    obtain ⟨other, ⟨inTable, active⟩, rfl⟩ := listed
    have sameRow : other = row := same_mailbox sound other row inTable member sameId
    simp [sameRow, deleted] at active
  refine ⟨find_keyed MailboxRow.id tables.mailboxes row sound.mailboxIds member, unlisted, ?_,
    deleted_mailbox_refused sound member deleted⟩
  intro now stamp poll polled
  rw [tables_pass_calls, List.mem_map] at polled
  obtain ⟨mailbox, due, sameId⟩ := polled
  exact unlisted mailbox (List.mem_filter.mp due).1 sameId

end Mailboxes

/-- What is deleted stays so through every further run of writes and passes, at every moment of it:
rules and mailboxes as they were, queues but for the mark of the default. Nothing lists it, no ticket is
decided by it, no pass polls it, and every write to it finds nothing. -/
theorem deletion_is_final (before after : List Step) :
    let tables := afterSteps before {}
    let later := afterSteps after tables
    (∀ row ∈ tables.queues, row.isDeleted = true → QueueIsGone row later) ∧
    (∀ row ∈ tables.rules, row.isDeleted = true → RuleIsGone row later) ∧
    (∀ row ∈ tables.mailboxes, row.isDeleted = true → MailboxIsGone row later) := by
  intro tables later
  have sound : Sound tables := steps_sound before {} empty_sound
  have named : AllNamed tables := steps_named before {} empty_named
  have laterSound : Sound later := steps_sound after tables sound
  have laterNamed : AllNamed later := steps_named after tables named
  refine ⟨?_, ?_, ?_⟩
  · intro row member deleted
    obtain ⟨kept, inTable, lost⟩ := deleted_queue_stays after member deleted
    exact queue_is_gone laterSound inTable lost ((lost_mark_same lost).2.trans deleted)
  · intro row member deleted
    have stays := deleted_rule_stays after sound named member deleted
    exact rule_is_gone laterSound laterNamed stays deleted
  · intro row member deleted
    exact mailbox_is_gone laterSound (deleted_mailbox_stays after member deleted) deleted

theorem deleted_rows_of_one_company :
    let newQueue : NewQueue := ⟨⟨"c1"⟩, "Help", none, true⟩
    let newRule : NewRule :=
      ⟨⟨"c1"⟩, ⟨"q1"⟩, "One", none, .subjectKeyword, .contains, "a", none, none, none, none⟩
    let newMailbox : NewMailbox := ⟨⟨"c1"⟩, "Inbox", "inbox@c1.test", none⟩
    let before : List Step := [
      .write (.createQueue ⟨"q1"⟩ newYear newYear newQueue),
      .write (.createRule ⟨"r1"⟩ newYear newYear newRule),
      .write (.createMailbox 5 ⟨"m1"⟩ newYear newYear newMailbox),
      .write (.deleteQueue ⟨"q1"⟩ newYear), .write (.deleteRule ⟨"r1"⟩ newYear),
      .write (.deleteMailbox ⟨"m1"⟩ newYear)]
    let after : List Step := [.write (.createQueue ⟨"q2"⟩ newYear newYear newQueue),
      .pass newYear newYear fun _ _ => .processed 1]
    let queue : Queue := { queueRow ⟨"q1"⟩ newYear newYear newQueue with isDeleted := true }
    let rule : RuleRow := { ruleRow ⟨"r1"⟩ newYear newYear 1 newRule with isDeleted := true }
    let mailbox : MailboxRow :=
      { mailboxRow 5 ⟨"m1"⟩ newYear newYear newMailbox with isDeleted := true }
    let later := afterSteps after (afterSteps before {})
    QueueIsGone queue later ∧ RuleIsGone rule later ∧ MailboxIsGone mailbox later := by
  intro newQueue newRule newMailbox before after queue rule mailbox later
  obtain ⟨queues, rules, mailboxes⟩ := deletion_is_final before after
  exact ⟨queues queue (by decide +kernel) rfl, rules rule (by decide +kernel) rfl,
    mailboxes mailbox (by decide +kernel) rfl⟩

end TicketRouting.Store
