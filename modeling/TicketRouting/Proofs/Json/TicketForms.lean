import TicketRouting.Config.Settings
import TicketRouting.Proofs.Calendar.WrittenForm
import TicketRouting.Proofs.Json.Record
import TicketRouting.Ticket.JsonForm
/-!
The JSON forms of tickets, rules, queues, results, mailboxes and the configuration lose nothing. JSON
has many ways to say one value: arrays for objects, fields in any order, tags more than once, instants
with any offset. What is read is written in one of them, and reading that changes nothing any more.
-/
namespace TicketRouting
open Json

section Parts

@[simp] theorem company_id_faithful : CompanyId.codec.Faithful := map_faithful text_faithful fun _ => rfl

@[simp] theorem queue_id_faithful : QueueId.codec.Faithful := map_faithful text_faithful fun _ => rfl

@[simp] theorem rule_id_faithful : RuleId.codec.Faithful := map_faithful text_faithful fun _ => rfl

@[simp] theorem agent_id_faithful : AgentId.codec.Faithful := map_faithful text_faithful fun _ => rfl

@[simp] theorem mailbox_id_faithful : MailboxId.codec.Faithful := map_faithful text_faithful fun _ => rfl

@[simp] theorem match_type_faithful : MatchType.codec.Faithful :=
  one_of_faithful (fun matchType => by cases matchType <;> decide) (by decide)

@[simp] theorem match_operator_faithful : MatchOperator.codec.Faithful :=
  one_of_faithful (fun matchOperator => by cases matchOperator <;> decide) (by decide)

@[simp] theorem priority_faithful : TicketPriority.codec.Faithful :=
  one_of_faithful (fun priority => by cases priority <;> decide) (by decide)

theorem insert_in_last (tag : String) (tags : List String) (last : ∀ other ∈ tags, other < tag) :
    TagSet.insertIn tag tags = tags ++ [tag] := by
  induction tags with
  | nil => rfl
  | cons first rest ih =>
    have before : first < tag := last first List.mem_cons_self
    have notBehind : ¬ tag < first := String.lt_asymm before
    have other : tag ≠ first := fun same => String.lt_irrefl first (same ▸ before)
    rw [TagSet.insertIn, if_neg notBehind, if_neg other,
      ih fun later member => last later (List.mem_cons_of_mem first member)]
    rfl

theorem insert_all_ascending (tags : List String) (set : TagSet)
    (ascending : (set.tags ++ tags).Pairwise (· < ·)) :
    (set.insertAll tags).tags = set.tags ++ tags := by
  induction tags generalizing set with
  | nil => exact (List.append_nil _).symm
  | cons tag rest ih =>
    have last : ∀ other ∈ set.tags, other < tag := fun other member =>
      (List.pairwise_append.mp ascending).2.2 other member tag List.mem_cons_self
    have inserted : (set.insert tag).tags = set.tags ++ [tag] := insert_in_last tag set.tags last
    have whole : (set.insert tag).tags ++ rest = set.tags ++ tag :: rest := by
      rw [inserted, List.append_assoc, List.singleton_append]
    exact (ih (set.insert tag) (whole ▸ ascending)).trans whole

theorem of_list_tags (set : TagSet) : TagSet.ofList set.tags = set := by
  have same : (TagSet.ofList set.tags).tags = set.tags :=
    insert_all_ascending set.tags TagSet.empty set.ascending
  cases built : TagSet.ofList set.tags with
  | mk tags ascending =>
    rw [built] at same
    cases set
    cases same
    rfl

@[simp] theorem tag_set_faithful : TagSet.codec.Faithful :=
  map_faithful (list_faithful text_faithful) of_list_tags

@[simp] theorem instant_keeps (instant : Instant) (fits : instant.FitsColumn) :
    Codec.instant.Keeps instant := by
  simp only [Codec.Keeps, Codec.instant, Instant.parse_text instant fits]
  rfl

theorem optional_instant_keeps (instant : Option Instant)
    (fits : ∀ given ∈ instant, given.FitsColumn) : Codec.instant.optional.Keeps instant :=
  optional_keeps_of fun given member => ⟨instant_keeps given (fits given member), nofun⟩

end Parts

structure Queue.TimesFit (queue : Queue) : Prop where
  made : queue.createdAt.FitsColumn
  changed : queue.updatedAt.FitsColumn

structure RoutingRule.TimesFit (rule : RoutingRule) : Prop where
  made : rule.createdAt.FitsColumn
  changed : rule.updatedAt.FitsColumn

structure Mailbox.TimesFit (mailbox : Mailbox) : Prop where
  polled : ∀ last ∈ mailbox.lastPolledAt, last.FitsColumn
  made : mailbox.createdAt.FitsColumn
  changed : mailbox.updatedAt.FitsColumn

section Records

-- A record is taken apart first, so that it can be seen to be put together from its fields one by one.

@[simp] theorem queue_ref_faithful : QueueRef.codec.Faithful := by
  refine form_faithful (fun queue => ?_) "QueueRef"
  cases queue
  repeat' refine field_restores ?_ _ _ ?_ (by decide)
  all_goals simp

@[simp] theorem rule_ref_faithful : RuleRef.codec.Faithful := by
  refine form_faithful (fun rule => ?_) "RuleRef"
  cases rule
  repeat' refine field_restores ?_ _ _ ?_ (by decide)
  all_goals simp

theorem queue_keeps (queue : Queue) (times : queue.TimesFit) : Queue.codec.Keeps queue := by
  obtain ⟨made, changed⟩ := times
  cases queue
  refine form_keeps ?_ "Queue"
  repeat' refine field_restores ?_ _ _ ?_ (by decide)
  all_goals simp [made, changed]

theorem rule_keeps (rule : RoutingRule) (times : rule.TimesFit) : RoutingRule.codec.Keeps rule := by
  obtain ⟨made, changed⟩ := times
  cases rule
  refine form_keeps ?_ "RoutingRule"
  repeat' refine field_restores ?_ _ _ ?_ (by decide)
  all_goals simp [made, changed]

theorem mailbox_keeps (mailbox : Mailbox) (times : mailbox.TimesFit) :
    Mailbox.codec.Keeps mailbox := by
  obtain ⟨polled, made, changed⟩ := times
  have lastPoll := optional_instant_keeps mailbox.lastPolledAt polled
  cases mailbox
  refine form_keeps ?_ "MailboxConfig"
  repeat' refine field_restores ?_ _ _ ?_ (by decide)
  all_goals simp [lastPoll, made, changed]

theorem context_faithful : RoutingContext.codec.Faithful := by
  refine form_faithful (fun context => ?_) "RoutingContext"
  cases context
  repeat' refine field_restores ?_ _ _ ?_ (by decide)
  all_goals simp

theorem result_faithful : RoutingResult.codec.Faithful := by
  refine form_faithful (fun result => ?_) "RoutingResult"
  cases result
  repeat' refine field_restores ?_ _ _ ?_ (by decide)
  all_goals simp

@[simp] theorem database_config_faithful : DatabaseConfig.codec.Faithful := by
  refine form_faithful (fun config => ?_) "DatabaseConfig"
  cases config
  repeat' refine field_restores ?_ _ _ ?_ (by decide)
  all_goals simp

@[simp] theorem match_limits_faithful : MatchLimits.codec.Faithful := by
  refine form_faithful (fun limits => ?_) "MatchingConfig"
  cases limits
  repeat' refine field_restores ?_ _ _ ?_ (by decide)
  all_goals simp

@[simp] theorem polling_config_faithful : PollingConfig.codec.Faithful := by
  refine form_faithful (fun config => ?_) "PollingConfig"
  cases config
  repeat' refine field_restores ?_ _ _ ?_ (by decide)
  all_goals simp

@[simp] theorem log_settings_faithful : LogSettings.codec.Faithful := by
  refine form_faithful (fun settings => ?_) "LogSettings"
  cases settings
  repeat' refine field_restores ?_ _ _ ?_ (by decide)
  all_goals simp

theorem routing_config_faithful : RoutingConfig.codec.Faithful := by
  refine form_faithful (fun config => ?_) "RoutingConfig"
  cases config
  repeat' refine field_restores ?_ _ _ ?_ (by decide)
  all_goals simp

end Records

/-- A codec loses nothing of the values within some limits: each is read back from its own JSON, and a
value that was read, in whatever form, is written in a form that is read as the same value and is
written the same way again. -/
structure Json.Codec.LosesNothing {α : Type} (codec : Codec α) (within : α → Prop) : Prop where
  kept : ∀ value, within value → codec.Keeps value
  settled : ∀ json value, codec.read json = .ok value → within value →
    codec.read (codec.write value) = codec.read json ∧
      (codec.read (codec.write value)).map codec.write = .ok (codec.write value)

section Lossless
variable {α : Type} {codec : Codec α} {within : α → Prop}

theorem loses_nothing (kept : ∀ value, within value → codec.Keeps value) :
    codec.LosesNothing within where
  kept := kept
  settled json value reads fits := by
    have back : codec.read (codec.write value) = .ok value := kept value fits
    rw [back, reads]
    exact ⟨rfl, rfl⟩

theorem faithful_loses_nothing (faithful : codec.Faithful) : codec.LosesNothing fun _ => True :=
  loses_nothing fun value _ => (faithful value).1

end Lossless

/-- No codec of the program loses anything, provided that instants have years of four digits. -/
theorem codecs_lossless :
    RoutingContext.codec.LosesNothing (fun _ => True) ∧
    RoutingRule.codec.LosesNothing RoutingRule.TimesFit ∧
    RoutingResult.codec.LosesNothing (fun _ => True) ∧
    Queue.codec.LosesNothing Queue.TimesFit ∧
    Mailbox.codec.LosesNothing Mailbox.TimesFit ∧
    RoutingConfig.codec.LosesNothing (fun _ => True) := by
  refine ⟨faithful_loses_nothing context_faithful, loses_nothing rule_keeps,
    faithful_loses_nothing result_faithful, loses_nothing queue_keeps, loses_nothing mailbox_keeps,
    faithful_loses_nothing routing_config_faithful⟩

section OneMailbox

def sentMailbox : Value := .array [.string "m1", .string "c1", .string "Inbox", .string "in@c1.test",
  .integer 4294967295, .string "2023-12-31 23:01:00-0100", .bool true, .bool false,
  .string "2024-01-01T00:00:00Z", .string " 2024-1-1t01:30:00.0000000009 +01:30"]

/-- The last poll was a minute after midnight, in a year that began later where the time was taken. -/
theorem sent_mailbox_settles :
    let newYear : Instant := ⟨⟨2024, 1, 1, by decide, by decide⟩,
      ⟨0, 0, 0, 0, by decide, by decide, by decide, by decide⟩⟩
    let lastPoll : Instant := ⟨newYear.date, ⟨0, 1, 0, 0, by decide, by decide, by decide, by decide⟩⟩
    let mailbox : Mailbox := ⟨⟨"m1"⟩, ⟨"c1"⟩, "Inbox", "in@c1.test", 4294967295, some lastPoll, true,
      false, newYear, newYear⟩
    Mailbox.codec.read sentMailbox = .ok mailbox ∧ mailbox.TimesFit ∧
      Mailbox.codec.read (Mailbox.codec.write mailbox) = Mailbox.codec.read sentMailbox ∧
      (Mailbox.codec.read (Mailbox.codec.write mailbox)).map Mailbox.codec.write =
        .ok (Mailbox.codec.write mailbox) := by
  intro newYear lastPoll mailbox
  have reads : Mailbox.codec.read sentMailbox = .ok mailbox := rfl
  have fits : mailbox.TimesFit := ⟨by simp [mailbox]; decide, by decide, by decide⟩
  obtain ⟨-, -, -, -, lossless, -⟩ := codecs_lossless
  exact ⟨reads, fits, lossless.settled sentMailbox mailbox reads fits⟩

end OneMailbox

end TicketRouting
