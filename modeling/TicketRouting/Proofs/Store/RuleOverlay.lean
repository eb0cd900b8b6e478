import TicketRouting.Proofs.Store.RuleFields
import TicketRouting.Proofs.Store.RuleOrder
import TicketRouting.Proofs.Store.Steps
/-!
A change of a rule as an overlay: each field has the value that is asked for, or the one it had. Two
changes one after another are one change, and the empty one is none.
-/
namespace TicketRouting

/-- Both changes at once; where both give a value, that of the later one counts. -/
def RuleChanges.followedBy (earlier later : RuleChanges) : RuleChanges where
  queueId := later.queueId.or earlier.queueId
  name := later.name.or earlier.name
  description := later.description.or earlier.description
  matchType := later.matchType.or earlier.matchType
  matchOperator := later.matchOperator.or earlier.matchOperator
  matchValue := later.matchValue.or earlier.matchValue
  sortOrder := later.sortOrder.or earlier.sortOrder
  autoAssignAgentId := later.autoAssignAgentId.or earlier.autoAssignAgentId
  priorityOverride := later.priorityOverride.or earlier.priorityOverride
  tagsToAdd := later.tagsToAdd.or earlier.tagsToAdd

theorem followed_by_value (earlier later : RuleChanges) (field : RuleField) :
    (earlier.followedBy later).value? field = (later.value? field).or (earlier.value? field) := by
  cases field <;> rfl

namespace Store

def CanUpdate (tables : Tables) (id : RuleId) (changes : RuleChanges) : Prop :=
  ∃ old, tables.rule? id = .ok (some old) ∧ old.isDeleted = false ∧
    ∀ queueId, changes.queueId = some queueId → tables.queue? queueId ≠ none

/-- The rule is the old one with the changes laid over it. Whether it is active is a field that no change
gives, so it stays. -/
structure IsOverlay (changes : RuleChanges) (stamp : Instant) (old rule : RoutingRule) : Prop where
  fields : ∀ field : RuleField, field.of rule = (changes.value? field).getD (field.of old)
  id : rule.id = old.id
  companyId : rule.companyId = old.companyId
  isDeleted : rule.isDeleted = old.isDeleted
  createdAt : rule.createdAt = old.createdAt
  updatedAt : rule.updatedAt = stamp

/-- Whatever is asked of the tables about the rule, the answer is the rule; it names its queue as the
queue is named. -/
structure Shows (tables : Tables) (rule : RoutingRule) : Prop where
  queue : ∃ queue, tables.queue? rule.queue.id = some queue ∧ rule.queue = queue.toRef
  known : tables.rule? rule.id = .ok (some rule)
  listed : ∀ company other, (other ∈ tables.companyRules company ∧ other.id = rule.id) ↔
    other = rule ∧ company = rule.companyId
  tried : ∀ company other, (other ∈ tables.activeRules company ∧ other.id = rule.id) ↔
    other = rule ∧ company = rule.companyId ∧ rule.isActive = true
  ordered : ∀ company,
    (tables.companyRules company).Pairwise fun first second => first.sortOrder ≤ second.sortOrder

structure LeavesOthers (id : RuleId) (before later : Tables) : Prop where
  queues : later.queues = before.queues
  mailboxes : later.mailboxes = before.mailboxes
  rules : ∀ other, other ≠ id → later.rule? other = before.rule? other

/-- The tables as if all rows had been written last at one time. -/
def Tables.restamped (stamp : Instant) (tables : Tables) : Tables where
  queues := tables.queues.map fun row => { row with updatedAt := stamp }
  rules := tables.rules.map fun row => { row with updatedAt := stamp }
  mailboxes := tables.mailboxes.map fun row => { row with updatedAt := stamp }

def RuleRow.NamesPriority (row : RuleRow) : Prop :=
  ∃ priority : Option TicketPriority, row.priorityOverride = priority.map (·.name)

section Overrides
variable {write : Write} {tables : Tables}

theorem on_rule_names_priority (row : RuleRow) (named : row.NamesPriority) :
    (write.onRule tables row).NamesPriority := by
  cases write with
  | updateRule id changes stamp =>
    simp only [Write.onRule]
    split
    · split
      · exact ⟨_, rfl⟩
      · exact named
    · exact named
  | reorderRules company ids stamp =>
    exact (renumber_row_keeps RuleRow.NamesPriority (fun _ _ _ => rfl) company stamp 1 ids row).mpr
      named
  | setRuleActive | deleteRule =>
    simp only [Write.onRule]
    split <;> exact named
  | _ => exact named

theorem steps_name_priorities (steps : List Step) :
    ∀ row ∈ (afterSteps steps {}).rules, row.NamesPriority := by
  apply steps_invariant (fun tables => ∀ row ∈ tables.rules, row.NamesPriority) _ steps {}
    (fun row member => by cases member)
  intro tables write named _ row member
  obtain changed | added := List.mem_append.mp member
  · obtain ⟨before, inBefore, rfl⟩ := List.mem_map.mp changed
    exact on_rule_names_priority before (named before inBefore)
  · cases write with
    | createRule id createdAt stamp request =>
      obtain rfl := List.mem_singleton.mp added
      exact ⟨_, rfl⟩
    | _ => cases added

end Overrides

section Rows
variable {row : RuleRow} {queueName : String}

theorem overwrite_congr {left right : RoutingRule} (stamp : Instant)
    (same : ∀ field : RuleField, field ≠ .isActive → field.of left = field.of right) :
    row.overwrite left stamp = row.overwrite right stamp := by
  have queue : left.queue.id = right.queue.id := same .queueId (by decide)
  have name : left.name = right.name := same .name (by decide)
  have description : left.description = right.description := same .description (by decide)
  have matchType : left.matchType = right.matchType := same .matchType (by decide)
  have operator : left.matchOperator = right.matchOperator := same .matchOperator (by decide)
  have value : left.matchValue = right.matchValue := same .matchValue (by decide)
  have order : left.sortOrder = right.sortOrder := same .sortOrder (by decide)
  have agent : left.autoAssignAgentId = right.autoAssignAgentId :=
    same .autoAssignAgentId (by decide)
  have priority : left.priorityOverride = right.priorityOverride :=
    same .priorityOverride (by decide)
  have tags : left.tagsToAdd = right.tagsToAdd := same .tagsToAdd (by decide)
  simp only [RuleRow.overwrite, queue, name, description, matchType, operator, value, order, agent,
    priority, tags]

theorem overwrite_read {rule : RoutingRule} (named : row.IsNamed) (priority : row.NamesPriority)
    (reads : row.read queueName = .ok rule) (stamp : Instant) :
    row.overwrite rule stamp = { row with updatedAt := stamp } := by
  obtain ⟨matchType, matchOperator, typeNamed, operatorNamed⟩ := named
  obtain ⟨priority, override⟩ := priority
  obtain ⟨typed, compared, parsed, operatorParsed, rfl⟩ := read_parts reads
  rw [typeNamed, parse_match_type_name] at parsed
  rw [operatorNamed, parse_match_operator_name] at operatorParsed
  obtain rfl := Except.ok.inj parsed
  obtain rfl := Except.ok.inj operatorParsed
  -- A text that names no priority would be read as none and so be lost.
  have readBack : (row.priorityOverride.bind TicketPriority.ofText?).map (·.name) =
      row.priorityOverride := by
    rw [override]
    cases priority with
    | none => rfl
    | some priority => simp [priority_of_name]
  simp only [RuleRow.overwrite, readBack, ← typeNamed, ← operatorNamed]

end Rows

section Answers
variable {tables : Tables} {id : RuleId} {changes : RuleChanges} {stamp : Instant}
  {old : RoutingRule}

def overlaid (changes : RuleChanges) (stamp : Instant) (tables : Tables) (old : RoutingRule) :
    RoutingRule :=
  let rule := changes.apply old
  { rule with
    queue := ⟨rule.queue.id, tables.queueName rule.queue.id⟩
    updatedAt := stamp }

theorem overlaid_is_overlay : IsOverlay changes stamp old (overlaid changes stamp tables old) where
  fields field := by
    rw [← apply_of]
    cases field <;> rfl
  id := rfl
  companyId := rfl
  isDeleted := rfl
  createdAt := rfl
  updatedAt := rfl

theorem overlaid_read {row : RuleRow} (reads : tables.readRule row = .ok old) :
    (row.overwrite (changes.apply old) stamp).read
      (tables.queueName (changes.apply old).queue.id) = .ok (overlaid changes stamp tables old) := by
  rw [overwritten_read]
  obtain ⟨_, _, -, -, rfl⟩ := read_parts reads
  rfl

theorem perform_update (known : tables.rule? id = .ok (some old)) (live : old.isDeleted = false) :
    (updateRule id changes stamp).perform tables =
      settled ((Write.updateRule id changes stamp).refusal? tables)
        (overlaid changes stamp tables old)
        ((Write.updateRule id changes stamp).applied tables) tables := by
  obtain ⟨row, found, rfl, reads⟩ := known_row known
  obtain ⟨written, readBack, performed⟩ :=
    perform_write_updated row.id (changes.apply old) stamp row tables found
  obtain rfl : overlaid changes stamp tables old = written :=
    Except.ok.inj ((overlaid_read reads).symm.trans readBack)
  rw [updateRule, Action.perform_bind, perform_read_for_update, known, updated_tables known]
  simpa [live, Write.refusal?, known, Write.refuseUnless, settled] using performed

theorem perform_update_missing
    (missing : ∀ old, tables.rule? id = .ok (some old) → old.isDeleted = true) :
    ∃ fault, (updateRule id changes stamp).perform tables = (.error fault, tables) := by
  rw [updateRule, Action.perform_bind, perform_read_for_update]
  cases known : tables.rule? id with
  | error fault => exact ⟨fault, rfl⟩
  | ok answer =>
    cases answer with
    | none => exact ⟨_, rfl⟩
    | some old => simp [missing old known, Write.refuseUnless, settled]

/-- The queue that a rule has is always there, so only a new one can be unknown. -/
theorem update_accepted_iff (sound : Sound tables) (known : tables.rule? id = .ok (some old))
    (live : old.isDeleted = false) :
    (Write.updateRule id changes stamp).refusal? tables = none ↔
      ∀ queueId, changes.queueId = some queueId → tables.queue? queueId ≠ none := by
  obtain ⟨row, member, -, reads⟩ := (rule_read_iff sound id old).mp known
  obtain ⟨queue, inTable, same⟩ := sound.queueKnown row member
  have held : tables.queue? old.queue.id ≠ none := by
    rw [← queue_known_iff, (read_reference reads).2.2, List.any_eq_true]
    exact ⟨queue, inTable, beq_iff_eq.mpr same⟩
  simp only [Write.refusal?, known, live, Bool.false_eq_true, ↓reduceIte, refuse_unless_none,
    queue_known_iff, apply_queue]
  cases changes.queueId <;> simp [held]

end Answers

section Views
variable {tables : Tables} {row : RuleRow} {rule : RoutingRule}

theorem listed_under (sound : Sound tables) (member : row ∈ tables.rules)
    (reads : tables.readRule row = .ok rule) (selected : RuleRow → Bool) (other : RoutingRule) :
    (other ∈ tables.rulesWhere selected ∧ other.id = rule.id) ↔
      other = rule ∧ selected row = true := by
  rw [rules_where_mem]
  constructor
  · rintro ⟨⟨otherRow, inTable, hit, otherReads⟩, sameId⟩
    rw [(read_reference otherReads).1, (read_reference reads).1] at sameId
    obtain rfl := same_rule sound otherRow row inTable member sameId
    exact ⟨Except.ok.inj (otherReads.symm.trans reads), hit⟩
  · rintro ⟨rfl, hit⟩
    exact ⟨⟨row, member, hit, reads⟩, rfl⟩

theorem row_shows (sound : Sound tables) (member : row ∈ tables.rules)
    (reads : tables.readRule row = .ok rule) (live : row.isDeleted = false) : Shows tables rule := by
  obtain ⟨sameId, own, reference⟩ := read_reference reads
  constructor
  case queue =>
    obtain ⟨queue, inTable, same⟩ := sound.queueKnown row member
    have found := find_keyed Queue.id tables.queues queue sound.queueIds inTable
    rw [same] at found
    refine ⟨queue, ?_, ?_⟩
    · rw [reference]
      exact found
    · rw [reference, Tables.queueName, Tables.queue?, found, ← same]
      rfl
  case known => exact (rule_read_iff sound rule.id rule).mpr ⟨row, member, sameId.symm, reads⟩
  case listed =>
    intro company other
    rw [Tables.companyRules, listed_under sound member reads]
    simp only [live, own, Bool.not_false, Bool.and_true, beq_iff_eq]
    exact and_congr_right fun _ => eq_comm
  case tried =>
    intro company other
    rw [Tables.activeRules, listed_under sound member reads]
    simp only [live, own, (read_state reads).1, Bool.not_false, Bool.and_true, Bool.and_eq_true,
      beq_iff_eq]
    exact and_congr_right fun _ => and_congr_left fun _ => eq_comm
  case ordered => exact fun company => rules_where_ordered _ tables

end Views

section Updates
variable {connection : Connection} {id : RuleId} {changes : RuleChanges} {stamp : Instant}

theorem can_update_of_answer {tables : Tables} (sound : Sound tables) {rule : RoutingRule}
    (answered : ((updateRule id changes stamp).perform tables).1 = .ok rule) :
    CanUpdate tables id changes := by
  by_cases missing : ∀ old, tables.rule? id = .ok (some old) → old.isDeleted = true
  · obtain ⟨fault, performed⟩ :
        ∃ fault, (updateRule id changes stamp).perform tables = (.error fault, tables) :=
      perform_update_missing missing
    rw [performed] at answered
    cases answered
  · obtain ⟨old, known, live⟩ :
        ∃ old, tables.rule? id = .ok (some old) ∧ old.isDeleted = false := by simpa using missing
    rw [perform_update known live] at answered
    cases refused : (Write.updateRule id changes stamp).refusal? tables with
    | some fault => simp [refused, settled] at answered
    | none => exact ⟨old, known, live, (update_accepted_iff sound known live).mp refused⟩

theorem update_accepted (opened : connection.isOpen = true) {old : RoutingRule}
    (known : connection.tables.rule? id = .ok (some old)) (live : old.isDeleted = false)
    (accepted : (Write.updateRule id changes stamp).refusal? connection.tables = none) :
    connection.perform (updateRule id changes stamp) =
      (.ok (overlaid changes stamp connection.tables old), { connection with
        tables := (Write.updateRule id changes stamp).applied connection.tables }) := by
  rw [connection_perform_open _ connection opened, perform_update known live, accepted]
  rfl

theorem update_answered (connection : Connection) (sound : Sound connection.tables)
    (opened : connection.isOpen = true) {rule : RoutingRule}
    (answered : (connection.perform (updateRule id changes stamp)).1 = .ok rule) :
    ∃ old, connection.tables.rule? id = .ok (some old) ∧ old.isDeleted = false ∧
      (Write.updateRule id changes stamp).refusal? connection.tables = none ∧
      connection.perform (updateRule id changes stamp) =
        (.ok (overlaid changes stamp connection.tables old), { connection with
          tables := (Write.updateRule id changes stamp).applied connection.tables }) := by
  rw [connection_perform_open _ connection opened] at answered
  obtain ⟨old, known, live, queueKnown⟩ := can_update_of_answer sound answered
  have accepted : (Write.updateRule id changes stamp).refusal? connection.tables = none :=
    (update_accepted_iff sound known live).mpr queueKnown
  exact ⟨old, known, live, accepted, update_accepted opened known live accepted⟩

theorem update_succeeds_iff (sound : Sound connection.tables) (opened : connection.isOpen = true) :
    (∃ rule, (connection.perform (updateRule id changes stamp)).1 = .ok rule) ↔
      CanUpdate connection.tables id changes := by
  constructor
  · rintro ⟨rule, answered⟩
    rw [connection_perform_open _ connection opened] at answered
    exact can_update_of_answer sound answered
  · rintro ⟨old, known, live, queueKnown⟩
    have accepted : (Write.updateRule id changes stamp).refusal? connection.tables = none :=
      (update_accepted_iff sound known live).mpr queueKnown
    exact ⟨_, by rw [update_accepted opened known live accepted]⟩

theorem others_left {tables : Tables} {old : RoutingRule}
    (known : tables.rule? id = .ok (some old)) :
    LeavesOthers id tables ((Write.updateRule id changes stamp).applied tables) := by
  rw [updated_tables known]
  refine ⟨rfl, rfl, fun other different => ?_⟩
  have sought : ((fun row : RuleRow => row.id == other) ∘ fun row =>
      if row.id == id then row.overwrite (changes.apply old) stamp else row) =
      fun row => row.id == other := by
    funext row
    simp only [Function.comp_apply]
    split <;> rfl
  simp only [Tables.rule?, List.find?_map, sought]
  cases found : tables.rules.find? (·.id == other) with
  | none => rfl
  | some row =>
    have same : row.id = other := by simpa using List.find?_some found
    have untouched : (row.id == id) = false := by simpa [same] using different
    simp only [Option.map_some, untouched, Bool.false_eq_true, ↓reduceIte]
    rfl

theorem update_shows {tables : Tables} (sound : Sound tables) {old : RoutingRule}
    (known : tables.rule? id = .ok (some old)) (live : old.isDeleted = false)
    (accepted : (Write.updateRule id changes stamp).refusal? tables = none) :
    Shows ((Write.updateRule id changes stamp).applied tables)
      (overlaid changes stamp tables old) := by
  have laterSound := applied_sound sound accepted
  obtain ⟨row, member, rfl, reads⟩ := (rule_read_iff sound id old).mp known
  rw [updated_tables known] at laterSound ⊢
  refine row_shows laterSound (List.mem_map.mpr ⟨row, member, if_pos (beq_self_eq_true row.id)⟩)
    (overlaid_read reads) ?_
  exact (read_state reads).2.1.symm.trans live

theorem updates_left {tables middle : Tables} {first second : RuleChanges}
    {firstStamp secondStamp : Instant} {old between : RoutingRule}
    (known : tables.rule? id = .ok (some old))
    (left : middle = (Write.updateRule id first firstStamp).applied tables)
    (knownBetween : middle.rule? id = .ok (some between))
    (overlay : IsOverlay first firstStamp old between) (time : Instant) :
    Tables.restamped time
        ((Write.updateRule id (first.followedBy second) stamp).applied tables) =
      Tables.restamped time ((Write.updateRule id second secondStamp).applied middle) := by
  -- Where the second change gives no value, it writes back what the first one left.
  have rewritten (row : RuleRow) : row.overwrite (second.apply between) secondStamp =
      row.overwrite ((first.followedBy second).apply old) secondStamp := by
    apply overwrite_congr
    intro field _
    rw [apply_of, apply_of, overlay.fields, followed_by_value]
    cases second.value? field <;> rfl
  rw [updated_tables knownBetween, updated_tables known, left, updated_tables known]
  simp only [Tables.restamped, List.map_map, Tables.mk.injEq, true_and, and_true]
  apply List.map_congr_left
  intro row _
  simp only [Function.comp_apply]
  cases own : row.id == id with
  | false => simp [own]
  | true =>
    have stays : ((row.overwrite (first.apply old) firstStamp).id == id) = true := own
    have twice := rewritten (row.overwrite (first.apply old) firstStamp)
    simp only [↓reduceIte, stays, twice]
    rfl

theorem update_overlays (sound : Sound connection.tables) (opened : connection.isOpen = true)
    {rule : RoutingRule}
    (answered : (connection.perform (updateRule id changes stamp)).1 = .ok rule) :
    ∃ old, connection.tables.rule? id = .ok (some old) ∧ IsOverlay changes stamp old rule ∧
      Shows (connection.perform (updateRule id changes stamp)).2.tables rule ∧
      LeavesOthers id connection.tables
        (connection.perform (updateRule id changes stamp)).2.tables := by
  obtain ⟨old, known, live, accepted, performed⟩ := update_answered connection sound opened answered
  rw [performed] at answered ⊢
  obtain rfl := Except.ok.inj answered
  exact ⟨old, known, overlaid_is_overlay, update_shows sound known live accepted, others_left known⟩

theorem both_accepted {tables : Tables} (sound : Sound tables) {first second : RuleChanges}
    {firstStamp secondStamp : Instant} {old between : RoutingRule}
    (known : tables.rule? id = .ok (some old)) (live : old.isDeleted = false)
    (accepted : (Write.updateRule id first firstStamp).refusal? tables = none)
    (knownBetween : ((Write.updateRule id first firstStamp).applied tables).rule? id =
      .ok (some between)) (liveBetween : between.isDeleted = false)
    (again : (Write.updateRule id second secondStamp).refusal?
      ((Write.updateRule id first firstStamp).applied tables) = none) :
    (Write.updateRule id (first.followedBy second) stamp).refusal? tables = none := by
  have sameQueues : ((Write.updateRule id first firstStamp).applied tables).queues =
      tables.queues := by rw [updated_tables known]
  have laterSound := applied_sound sound accepted
  rw [update_accepted_iff laterSound knownBetween liveBetween] at again
  rw [update_accepted_iff sound known live] at accepted ⊢
  simp only [Tables.queue?, sameQueues] at accepted again ⊢
  intro queueId given
  obtain later | ⟨-, earlier⟩ := Option.or_eq_some_iff.mp given
  · exact again queueId later
  · exact accepted queueId earlier

theorem updates_compose (sound : Sound connection.tables) (opened : connection.isOpen = true)
    {first second : RuleChanges} {firstStamp secondStamp : Instant} {middle last : RoutingRule}
    (between : Connection)
    (performed : connection.perform (updateRule id first firstStamp) = (.ok middle, between))
    (answered : (between.perform (updateRule id second secondStamp)).1 = .ok last) :
    (∃ rule, (connection.perform (updateRule id (first.followedBy second) stamp)).1 = .ok rule) ∧
      ∀ time, Tables.restamped time
          (connection.perform (updateRule id (first.followedBy second) stamp)).2.tables =
        Tables.restamped time (between.perform (updateRule id second secondStamp)).2.tables := by
  obtain ⟨old, known, live, accepted, left⟩ :=
    update_answered connection sound opened (congrArg Prod.fst performed)
  obtain ⟨-, sameBetween⟩ := Prod.mk.inj (performed.symm.trans left)
  have sameTables : between.tables =
      (Write.updateRule id first firstStamp).applied connection.tables :=
    congrArg Connection.tables sameBetween
  have openedBetween : between.isOpen = true := (congrArg Connection.isOpen sameBetween).trans opened
  obtain ⟨held, knownBetween, liveBetween, again, leftAgain⟩ :=
    update_answered between (sameTables ▸ applied_sound sound accepted) openedBetween answered
  rw [leftAgain]
  rw [sameTables] at knownBetween again
  -- The rule that the second change finds is the one that the first change answered with.
  have overlay : IsOverlay first firstStamp old held := by
    have shown := (update_shows sound known live accepted).known
    have sameId : (overlaid first firstStamp connection.tables old).id = id := by
      obtain ⟨row, -, rfl, reads⟩ := (rule_read_iff sound id old).mp known
      exact (read_reference reads).1
    rw [sameId, knownBetween, Except.ok.injEq, Option.some.injEq] at shown
    exact shown ▸ overlaid_is_overlay
  rw [update_accepted opened known live
    (both_accepted sound known live accepted knownBetween liveBetween again)]
  refine ⟨⟨_, rfl⟩, fun time => ?_⟩
  rw [sameTables]
  exact updates_left known rfl knownBetween overlay time

theorem empty_update_leaves (sound : Sound connection.tables) (named : AllNamed connection.tables)
    (priorities : ∀ row ∈ connection.tables.rules, row.NamesPriority)
    (opened : connection.isOpen = true) {rule : RoutingRule}
    (answered : (connection.perform (updateRule id {} stamp)).1 = .ok rule) :
    (connection.perform (updateRule id {} stamp)).2.tables = { connection.tables with
      rules := connection.tables.rules.map fun row =>
        if row.id = id then { row with updatedAt := stamp } else row } := by
  obtain ⟨old, known, -, -, performed⟩ := update_answered connection sound opened answered
  rw [performed, updated_tables known]
  refine congrArg (fun rules => { connection.tables with rules := rules }) ?_
  apply List.map_congr_left
  intro row member
  by_cases own : row.id = id
  · subst own
    have reads : connection.tables.readRule row = .ok old := by
      rw [rule_of_row sound.ruleIds member] at known
      cases read : connection.tables.readRule row <;> simp_all [Except.map]
    have unchanged := overwrite_read (named row member) (priorities row member) reads stamp
    have nothing : ({} : RuleChanges).apply old = old := rfl
    simpa [nothing] using unchanged
  · simp [own]

end Updates

/-- A change of a rule succeeds exactly if the rule is there, not deleted, and the queue that it is to have
exists. It lays the changes over the rule, which is then read so everywhere, and leaves all others. Two
changes leave what both at once leave, but for the times of the writes, and the empty change leaves
everything but the time. -/
theorem updates_overlay (connection : Connection) (steps : List Step)
    (reached : connection.tables = afterSteps steps {}) (opened : connection.isOpen = true)
    (id : RuleId) :
    (∀ (changes : RuleChanges) (stamp : Instant),
      let call := connection.perform (updateRule id changes stamp)
      ((∃ rule, call.1 = .ok rule) ↔ CanUpdate connection.tables id changes) ∧
      ∀ rule, call.1 = .ok rule → ∃ old, connection.tables.rule? id = .ok (some old) ∧
        IsOverlay changes stamp old rule ∧ Shows call.2.tables rule ∧
        LeavesOthers id connection.tables call.2.tables) ∧
    (∀ (first second : RuleChanges) (firstStamp secondStamp stamp : Instant),
      let one := connection.perform (updateRule id first firstStamp)
      let two := one.2.perform (updateRule id second secondStamp)
      let both := connection.perform (updateRule id (first.followedBy second) stamp)
      (∃ rule, one.1 = .ok rule) → (∃ rule, two.1 = .ok rule) →
        (∃ rule, both.1 = .ok rule) ∧
          ∀ time, both.2.tables.restamped time = two.2.tables.restamped time) ∧
    ∀ stamp : Instant,
      let call := connection.perform (updateRule id {} stamp)
      (∃ rule, call.1 = .ok rule) → call.2.tables = { connection.tables with
        rules := connection.tables.rules.map fun row =>
          if row.id = id then { row with updatedAt := stamp } else row } := by
  have sound : Sound connection.tables := reached ▸ steps_sound steps {} empty_sound
  have named : AllNamed connection.tables := reached ▸ steps_named steps {} empty_named
  have priorities : ∀ row ∈ connection.tables.rules, row.NamesPriority :=
    reached ▸ steps_name_priorities steps
  refine ⟨?overlays, ?compose, ?empty⟩
  case overlays =>
    exact fun changes stamp => ⟨update_succeeds_iff sound opened, fun _ answered =>
      update_overlays sound opened answered⟩
  case compose =>
    rintro first second firstStamp secondStamp stamp _ _ _ ⟨middle, answered⟩ ⟨last, again⟩
    exact updates_compose sound opened _ (Prod.ext answered rfl) again
  case empty =>
    rintro stamp _ ⟨rule, answered⟩
    exact empty_update_leaves sound named priorities opened answered

section MovedRule

def describedRule : List Step := [
  .write (.createQueue ⟨"q1"⟩ newYear newYear ⟨⟨"c1"⟩, "Help", none, false⟩),
  .write (.createQueue ⟨"q2"⟩ newYear newYear ⟨⟨"c1"⟩, "Bills", none, false⟩),
  .write (.createRule ⟨"r"⟩ newYear newYear ⟨⟨"c1"⟩, ⟨"q1"⟩, "help", some "All of it",
    .subjectKeyword, .contains, "help", none, none, some .high, none⟩)]

def describedDatabase : Connection :=
  { Connection.inMemory with tables := afterSteps describedRule {} }

theorem moved_rule_described_again :
    let moved : RuleChanges := { queueId := some ⟨"q2"⟩, description := some none }
    let described : RuleChanges := { sortOrder := some 7, description := some (some "Bills too") }
    let one := describedDatabase.perform (updateRule ⟨"r"⟩ moved newYear)
    let two := one.2.perform (updateRule ⟨"r"⟩ described newYear)
    let both := describedDatabase.perform (updateRule ⟨"r"⟩ (moved.followedBy described) newYear)
    let nothing := describedDatabase.perform (updateRule ⟨"r"⟩ {} (newYearAt 1 0))
    describedDatabase.isOpen = true ∧
      (∃ rule, one.1 = .ok rule ∧ Shows one.2.tables rule ∧ rule.queue = ⟨⟨"q2"⟩, "Bills"⟩ ∧
        rule.description = none ∧ rule.priorityOverride = some .high) ∧
      (∃ rule, both.1 = .ok rule) ∧
      (∀ time, both.2.tables.restamped time = two.2.tables.restamped time) ∧
      nothing.2.tables = { describedDatabase.tables with
        rules := describedDatabase.tables.rules.map fun row =>
          if row.id = ⟨"r"⟩ then { row with updatedAt := newYearAt 1 0 } else row } := by
  intro moved described
  -- The calls are written out, so that nothing has to be computed to see that they are the same.
  dsimp only
  have succeeds {answer : Except RoutingError RoutingRule} (good : answer.isOk = true) :
      ∃ rule, answer = .ok rule := by
    cases answer with
    | error fault => cases good
    | ok rule => exact ⟨rule, rfl⟩
  obtain ⟨overlays, composes, empty⟩ :=
    updates_overlay describedDatabase describedRule rfl rfl ⟨"r"⟩
  obtain ⟨rule, answered⟩ : ∃ rule,
      (describedDatabase.perform (updateRule ⟨"r"⟩ moved newYear)).1 = .ok rule :=
    succeeds (by decide +kernel)
  have shown : (describedDatabase.perform (updateRule ⟨"r"⟩ moved newYear)).1.toOption.map
      (fun rule => (rule.queue, rule.description, rule.priorityOverride)) =
        some (⟨⟨"q2"⟩, "Bills"⟩, none, some .high) := by
    decide +kernel
  simp only [answered, Except.toOption, Option.map_some, Option.some.injEq, Prod.mk.injEq] at shown
  obtain ⟨-, -, -, shows, -⟩ := (overlays moved newYear).2 rule answered
  obtain ⟨together, same⟩ := composes moved described newYear newYear newYear ⟨rule, answered⟩
    (succeeds (by decide +kernel))
  exact ⟨rfl, ⟨rule, answered, shows, shown⟩, together, same,
    empty (newYearAt 1 0) (succeeds (by decide +kernel))⟩

end MovedRule

end Store
end TicketRouting
