import TicketRouting.Proofs.Store.Reading
/-!
The fields of a rule that calls on it may set, and what each of the three kinds of call does to them: a
change of the rule, a reordering of the rules of its company, and setting it active or not.
-/
namespace TicketRouting

inductive RuleField where
  | queueId
  | name
  | description
  | matchType
  | matchOperator
  | matchValue
  | sortOrder
  | autoAssignAgentId
  | priorityOverride
  | tagsToAdd
  | isActive
deriving DecidableEq

namespace RuleField

def Value : RuleField → Type
  | queueId => QueueId
  | name | matchValue => String
  | description | tagsToAdd => Option String
  | matchType => MatchType
  | matchOperator => MatchOperator
  | sortOrder => Int64
  | autoAssignAgentId => Option AgentId
  | priorityOverride => Option TicketPriority
  | isActive => Bool

def of (rule : RoutingRule) : (field : RuleField) → field.Value
  | queueId => rule.queue.id
  | name => rule.name
  | description => rule.description
  | matchType => rule.matchType
  | matchOperator => rule.matchOperator
  | matchValue => rule.matchValue
  | sortOrder => rule.sortOrder
  | autoAssignAgentId => rule.autoAssignAgentId
  | priorityOverride => rule.priorityOverride
  | tagsToAdd => rule.tagsToAdd
  | isActive => rule.isActive

end RuleField

/-- The value that is asked for; a change cannot set a rule active. -/
def RuleChanges.value? (changes : RuleChanges) : (field : RuleField) → Option field.Value
  | .queueId => changes.queueId
  | .name => changes.name
  | .description => changes.description
  | .matchType => changes.matchType
  | .matchOperator => changes.matchOperator
  | .matchValue => changes.matchValue
  | .sortOrder => changes.sortOrder
  | .autoAssignAgentId => changes.autoAssignAgentId
  | .priorityOverride => changes.priorityOverride
  | .tagsToAdd => changes.tagsToAdd
  | .isActive => none

theorem apply_of (changes : RuleChanges) (rule : RoutingRule) (field : RuleField) :
    field.of (changes.apply rule) = (changes.value? field).getD (field.of rule) := by
  cases field with
  | queueId => exact Store.apply_queue changes rule
  | _ => rfl

namespace Store

/-- The place that a numbering of the listed rules gives to a rule; the last one counts. -/
def placeGiven (id : RuleId) (position : Nat) : List RuleId → Option Int64
  | [] => none
  | other :: rest => (placeGiven id (position + 1) rest).or
      (if other = id then some (Int64.ofNat position) else none)

inductive RuleCall where
  | update (changes : RuleChanges) (stamp : Instant)
  | reorder (company : CompanyId) (ids : List RuleId) (stamp : Instant)
  | setActive (active : Bool) (stamp : Instant)

namespace RuleCall

def write (id : RuleId) : RuleCall → Write
  | update changes stamp => .updateRule id changes stamp
  | reorder company ids stamp => .reorderRules company ids stamp
  | setActive active stamp => .setRuleActive id active stamp

def value? (id : RuleId) : RuleCall → (field : RuleField) → Option field.Value
  | update changes _, field => changes.value? field
  | reorder _ ids _, .sortOrder => placeGiven id 1 ids
  | setActive active _, .isActive => some active
  | _, _ => none

def IsKept (id : RuleId) (call : RuleCall) (rule : RoutingRule) : Prop :=
  ∀ (field : RuleField) (value : field.Value), call.value? id field = some value →
    field.of rule = value

end RuleCall

/-- A rule was written: it has the values that were given, and the others as `base` has them. -/
structure RuleWritten (id : RuleId) (given : (field : RuleField) → Option field.Value)
    (base : RoutingRule) (tables left : Tables) (later : RoutingRule) : Prop where
  sameIds : left.rules.map (·.id) = tables.rules.map (·.id)
  known : left.rule? id = .ok (some later)
  live : later.isDeleted = false
  fields : ∀ field : RuleField, field.of later = (given field).getD (field.of base)

section Rows
variable {row : RuleRow} {rule : RoutingRule} {queueName : String}

theorem priority_of_name (priority : TicketPriority) :
    TicketPriority.ofText? priority.name = some priority := by
  cases priority <;> decide +kernel

theorem overwritten_read (written : RoutingRule) (stamp : Instant) :
    (row.overwrite written stamp).read queueName = .ok { written with
      id := row.id
      companyId := row.companyId
      queue := ⟨written.queue.id, queueName⟩
      isActive := row.isActive
      isDeleted := row.isDeleted
      createdAt := row.createdAt
      updatedAt := stamp } := by
  have priority : (written.priorityOverride.map (·.name)).bind TicketPriority.ofText? =
      written.priorityOverride := by
    cases written.priorityOverride with
    | none => rfl
    | some priority => rw [Option.map_some, Option.bind_some, priority_of_name]
  simp only [RuleRow.read, RuleRow.overwrite, parse_match_type_name, parse_match_operator_name,
    priority]
  rfl

theorem restated_read (order : Int64) (active : Bool) (stamp : Instant)
    (reads : row.read queueName = .ok rule) :
    RuleRow.read { row with sortOrder := order, isActive := active, updatedAt := stamp } queueName =
      .ok { rule with sortOrder := order, isActive := active, updatedAt := stamp } := by
  obtain ⟨matchType, matchOperator, typed, compared, rfl⟩ := read_parts reads
  simp only [RuleRow.read, typed, compared]
  rfl

theorem renumber_row_eq (company : CompanyId) (stamp : Instant) (position : Nat)
    (ids : List RuleId) (row : RuleRow)
    (owned : row.id ∈ ids → isLiveRuleOf company row.id row = true) :
    renumberRow company stamp position ids row =
      match placeGiven row.id position ids with
      | some order => { row with sortOrder := order, updatedAt := stamp }
      | none => row := by
  induction ids generalizing position row with
  | nil => rfl
  | cons other rest ih =>
    by_cases own : other = row.id
    · subst own
      have live := owned List.mem_cons_self
      have numbered : numberRow company stamp position row.id row =
          { row with sortOrder := Int64.ofNat position, updatedAt := stamp } := if_pos live
      have placed := ih (position + 1)
        { row with sortOrder := Int64.ofNat position, updatedAt := stamp } fun _ => live
      rw [renumberRow, numbered, placed]
      cases later : placeGiven row.id (position + 1) rest <;> simp [placeGiven, later]
    · have unlisted : isLiveRuleOf company other row = false := by
        simp [isLiveRuleOf, Ne.symm own]
      have untouched : numberRow company stamp position other row = row :=
        if_neg (by simp [unlisted])
      have placed := ih (position + 1) row fun listed =>
        owned (List.mem_cons_of_mem other listed)
      rw [renumberRow, untouched, placed]
      simp [placeGiven, own]

theorem renumber_row_placed (company : CompanyId) (stamp : Instant) (position : Nat)
    (ids : List RuleId) (row : RuleRow)
    (owned : row.id ∈ ids → isLiveRuleOf company row.id row = true) :
    ∃ stamped, renumberRow company stamp position ids row = { row with
      sortOrder := (placeGiven row.id position ids).getD row.sortOrder, updatedAt := stamped } := by
  rw [renumber_row_eq company stamp position ids row owned]
  cases placeGiven row.id position ids with
  | some order => exact ⟨stamp, rfl⟩
  | none => exact ⟨row.updatedAt, rfl⟩

end Rows

section Writes
variable {tables left : Tables} {id : RuleId} {now : RoutingRule}

theorem written_by_change {given : (field : RuleField) → Option field.Value} {base later : RoutingRule}
    {row : RuleRow} (change : RuleRow → RuleRow) (sameId : ∀ row, (change row).id = row.id)
    (found : tables.rules.find? (·.id == id) = some row)
    (reads : tables.readRule (change row) = .ok later) (live : later.isDeleted = false)
    (fields : ∀ field : RuleField, field.of later = (given field).getD (field.of base)) :
    RuleWritten id given base tables { tables with rules := tables.rules.map change } later where
  sameIds := by
    rw [List.map_map]
    exact List.map_congr_left fun row _ => sameId row
  known := by
    have sought : (fun row : RuleRow => row.id == id) ∘ change = fun row => row.id == id := by
      funext row
      simp [sameId]
    simp only [Tables.rule?, List.find?_map, sought, found, Option.map_some]
    exact congrArg (Except.map some) reads
  live := live
  fields := fields

theorem settled_ok {α : Type} {refusal : Option RoutingError} {value answer : α}
    {changed : Tables} (settles : settled refusal value changed tables = (.ok answer, left)) :
    refusal = none ∧ left = changed := by
  cases refusal with
  | some fault => simp [settled] at settles
  | none =>
    obtain ⟨-, same⟩ := Prod.mk.inj settles
    exact ⟨rfl, same.symm⟩

theorem settled_error {α : Type} {refusal : Option RoutingError} {value : α} {changed : Tables}
    {fault : RoutingError} (settles : settled refusal value changed tables = (.error fault, left)) :
    left = tables := by
  cases refusal with
  | some other => exact (Prod.mk.inj settles).2.symm
  | none => simp [settled] at settles

/-- What the second step of a change writes is what its first step read, with the changes made. Only
whether the rule is active is left as it is by now. -/
theorem update_written (known : tables.rule? id = .ok (some now)) (live : now.isDeleted = false)
    (held : RoutingRule) (changes : RuleChanges) (stamp : Instant) (answer : RoutingRule)
    (performed : (writeUpdated id (changes.apply held) stamp).perform tables = (.ok answer, left)) :
    ∃ later, RuleWritten id changes.value? { held with isActive := now.isActive } tables left
      later := by
  obtain ⟨row, found, rfl, reads⟩ := known_row known
  obtain ⟨written, -, settles⟩ :=
    perform_write_updated row.id (changes.apply held) stamp row tables found
  obtain ⟨-, rfl⟩ := settled_ok (settles.symm.trans performed)
  obtain ⟨active, deleted, -, -⟩ := read_state reads
  refine ⟨?later, written_by_change _ ?sameId found ?reads ?live ?fields⟩
  case sameId =>
    intro other
    split <;> rfl
  case reads =>
    rw [if_pos (beq_self_eq_true row.id)]
    exact overwritten_read (changes.apply held) stamp
  case live => exact deleted.symm.trans live
  case fields =>
    intro field
    have given := apply_of changes held field
    cases field with
    | isActive => exact active.symm
    | _ => exact given

theorem reorder_accepted_iff (company : CompanyId) (ids : List RuleId) (stamp : Instant) :
    (Write.reorderRules company ids stamp).refusal? tables = none ↔
      ∀ id ∈ ids, tables.rules.any (isLiveRuleOf company id) = true := by
  simp [Write.refusal?]

theorem listed_owned (distinct : (tables.rules.map (·.id)).Nodup) {company : CompanyId}
    {ids : List RuleId} {stamp : Instant}
    (accepted : (Write.reorderRules company ids stamp).refusal? tables = none) {row : RuleRow}
    (member : row ∈ tables.rules) (listed : row.id ∈ ids) :
    isLiveRuleOf company row.id row = true := by
  have found := (reorder_accepted_iff company ids stamp).mp accepted row.id listed
  obtain ⟨other, inTable, hit⟩ := List.any_eq_true.mp found
  have same : other.id = row.id := by
    simp only [isLiveRuleOf, Bool.and_eq_true, beq_iff_eq] at hit
    exact hit.1.1
  exact List.inj_on_of_nodup_map distinct inTable member same ▸ hit

theorem reorder_written (distinct : (tables.rules.map (·.id)).Nodup)
    (known : tables.rule? id = .ok (some now)) (live : now.isDeleted = false)
    (company : CompanyId) (ids : List RuleId) (stamp : Instant)
    (performed : (Write.reorderRules company ids stamp).action.perform tables = (.ok (), left)) :
    ∃ later, RuleWritten id ((RuleCall.reorder company ids stamp).value? id) now tables left
      later := by
  obtain ⟨row, found, rfl, reads⟩ := known_row known
  rw [perform_action] at performed
  obtain ⟨accepted, rfl⟩ := settled_ok performed
  obtain ⟨active, deleted, order, -⟩ := read_state reads
  have owned := listed_owned distinct accepted (List.mem_of_find?_eq_some found)
  obtain ⟨stamped, placed⟩ := renumber_row_placed company stamp 1 ids row owned
  rw [applied_to_rules _ tables (fun _ => rfl) rfl (fun _ => rfl) rfl]
  simp only [Write.onRule, Write.newRules, List.append_nil]
  refine ⟨?later, written_by_change _ ?sameId found ?reads ?live ?fields⟩
  case sameId => exact fun other => (renumber_row_same company stamp 1 ids other).id
  case reads =>
    rw [placed]
    exact restated_read _ row.isActive stamped reads
  case live => exact live
  case fields =>
    intro field
    cases field with
    | sortOrder => exact congrArg (placeGiven row.id 1 ids).getD order.symm
    | isActive => exact active.symm
    | _ => rfl

theorem set_active_written (known : tables.rule? id = .ok (some now))
    (live : now.isDeleted = false) (active : Bool) (stamp : Instant)
    (performed : (Write.setRuleActive id active stamp).action.perform tables = (.ok (), left)) :
    ∃ later, RuleWritten id ((RuleCall.setActive active stamp).value? id) now tables left
      later := by
  obtain ⟨row, found, rfl, reads⟩ := known_row known
  rw [perform_action] at performed
  obtain ⟨-, rfl⟩ := settled_ok performed
  obtain ⟨-, deleted, order, -⟩ := read_state reads
  have hit : isLiveRule row.id row = true := by
    simp [isLiveRule, ← deleted, live]
  rw [applied_to_rules _ tables (fun _ => rfl) rfl (fun _ => rfl) rfl]
  simp only [Write.newRules, List.append_nil]
  refine ⟨?later, written_by_change _ (on_rule_id _ tables) found ?reads ?live ?fields⟩
  case reads =>
    simp only [Write.onRule, hit, ↓reduceIte]
    exact restated_read row.sortOrder active stamp reads
  case live => exact live
  case fields =>
    intro field
    cases field with
    | sortOrder => exact order.symm
    | _ => rfl

end Writes

end Store
end TicketRouting
