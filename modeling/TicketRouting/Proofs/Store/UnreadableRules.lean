import Mathlib.Data.List.TakeWhile
import TicketRouting.Proofs.Store.Atomicity
import TicketRouting.Proofs.Store.RuleOrder
/-!
Rows of rules that cannot be read, because the text of their match type or of their operator names
none. Such a row harms itself only: asking for its rule fails, lists go on without it, and tickets are
decided as if it were not there. The text of an override makes no row unreadable, whatever it says.
-/
namespace TicketRouting

def NamesNone {α : Type} (all : List α) (name : α → String) (text : String) : Prop :=
  ∀ value ∈ all, Text.sameName (name value) (Text.trimmed text) = false

instance {α : Type} (all : List α) (name : α → String) (text : String) :
    Decidable (NamesNone all name text) := by
  unfold NamesNone
  infer_instance

section Names
variable {α : Type} {all : List α} {name : α → String} {text : String}

theorem find_named_none (unknown : NamesNone all name text) :
    (all.find? fun value => Text.sameName (name value) (Text.trimmed text)) = none := by
  rw [List.find?_eq_none]
  intro value member
  simp [unknown value member]

theorem find_named_some (known : ¬ NamesNone all name text) :
    ∃ value, (all.find? fun value => Text.sameName (name value) (Text.trimmed text)) =
      some value := by
  rw [← Option.ne_none_iff_exists']
  intro absent
  refine known fun value member => ?_
  simpa using List.find?_eq_none.mp absent value member

theorem match_type_unknown (text : String) (unknown : NamesNone MatchType.all MatchType.name text) :
    MatchType.parse text = .error (.invalidInput ("unknown match type: " ++ text)) := by
  have absent : MatchType.ofText? text = none := find_named_none unknown
  simp only [MatchType.parse, absent]

theorem match_type_known (text : String) (known : ¬ NamesNone MatchType.all MatchType.name text) :
    ∃ matchType, MatchType.parse text = .ok matchType := by
  obtain ⟨matchType, found⟩ := find_named_some known
  have named : MatchType.ofText? text = some matchType := found
  exact ⟨matchType, by simp only [MatchType.parse, named]⟩

theorem match_operator_unknown (text : String)
    (unknown : NamesNone MatchOperator.all MatchOperator.name text) :
    MatchOperator.parse text = .error (.invalidInput ("unknown match operator: " ++ text)) := by
  have absent : MatchOperator.ofText? text = none := find_named_none unknown
  simp only [MatchOperator.parse, absent]

theorem match_operator_known (text : String)
    (known : ¬ NamesNone MatchOperator.all MatchOperator.name text) :
    ∃ matchOperator, MatchOperator.parse text = .ok matchOperator := by
  obtain ⟨matchOperator, found⟩ := find_named_some known
  have named : MatchOperator.ofText? text = some matchOperator := found
  exact ⟨matchOperator, by simp only [MatchOperator.parse, named]⟩

theorem priority_named_iff (text : String) (priority : TicketPriority) :
    TicketPriority.ofText? text = some priority ↔
      Text.sameName priority.name (Text.trimmed text) = true := by
  have apart : ∀ first ∈ TicketPriority.all, ∀ second ∈ TicketPriority.all,
      Text.asciiLower first.name = Text.asciiLower second.name → first = second := by
    decide +kernel
  have listed : priority ∈ TicketPriority.all := by cases priority <;> decide
  generalize spelled : Text.trimmed text = word
  constructor
  · intro found
    rw [TicketPriority.ofText?, spelled] at found
    exact List.find?_some (p := fun other => Text.sameName (TicketPriority.name other) word) found
  · intro named
    rw [TicketPriority.ofText?, spelled]
    obtain ⟨other, found⟩ := Option.isSome_iff_exists.mp
      (List.find?_isSome (p := fun other => Text.sameName (TicketPriority.name other) word).mpr
        ⟨priority, listed, named⟩)
    have otherNamed := List.find?_some (p := fun other =>
      Text.sameName (TicketPriority.name other) word) found
    simp only [Text.sameName, beq_iff_eq] at named otherNamed
    rw [found, apart other (List.mem_of_find?_eq_some found) priority listed
      (otherNamed.trans named.symm)]

theorem blank_names_none (blank : ∀ c ∈ text.toList, Text.isBlank c = true) :
    NamesNone TicketPriority.all TicketPriority.name text := by
  have nothing : Text.trimmed text = "" := by
    simp only [Text.trimmed, Text.trim, Text.trimStart, List.dropWhile_eq_nil_iff.mpr blank]
    rfl
  unfold NamesNone
  rw [nothing]
  decide

end Names

namespace Store

def RuleRow.IsUnreadable (row : RuleRow) : Prop :=
  NamesNone MatchType.all MatchType.name row.matchType ∨
    NamesNone MatchOperator.all MatchOperator.name row.matchOperator

instance : DecidablePred RuleRow.IsUnreadable := fun row => by
  unfold RuleRow.IsUnreadable
  infer_instance

/-- What is said of a row that cannot be read. Its match type is looked at first. -/
def RuleRow.complaint (row : RuleRow) : String :=
  if NamesNone MatchType.all MatchType.name row.matchType then
    "unknown match type: " ++ row.matchType
  else "unknown match operator: " ++ row.matchOperator

/-- The rules are what is read under the identifiers of the selected rows, in the order of the rows. A
row for which that fails is passed over. -/
def ListsRows (tables : Tables) (selected : RuleRow → Prop) (rules : List RoutingRule) : Prop :=
  ∃ rows : List RuleRow, rows.Pairwise RuleRow.StandsBefore ∧
    (∀ row, row ∈ rows ↔ row ∈ tables.rules ∧ selected row) ∧
    rules = rows.filterMap fun row => (tables.rule? row.id).toOption.join

def Tables.readable (tables : Tables) : Tables :=
  { tables with rules := tables.rules.filter fun row => !decide row.IsUnreadable }

section Rows
variable {row : RuleRow}

theorem unreadable_refused (unreadable : row.IsUnreadable) (queueName : String) :
    row.read queueName = .error (.invalidInput row.complaint) := by
  unfold RuleRow.read RuleRow.complaint
  split
  · rename_i untyped
    rw [match_type_unknown row.matchType untyped]
    rfl
  · rename_i typed
    obtain ⟨matchType, named⟩ := match_type_known row.matchType typed
    have unknown := unreadable.resolve_left typed
    rw [named, match_operator_unknown row.matchOperator unknown]
    rfl

theorem readable_answered (readable : ¬ row.IsUnreadable) (queueName : String) :
    ∃ rule, row.read queueName = .ok rule := by
  obtain ⟨typed, compared⟩ := not_or.mp readable
  obtain ⟨matchType, named⟩ := match_type_known row.matchType typed
  obtain ⟨matchOperator, operatorNamed⟩ := match_operator_known row.matchOperator compared
  unfold RuleRow.read
  rw [named, operatorNamed]
  exact ⟨_, rfl⟩

theorem override_ignored (text : String) (overridden : row.priorityOverride = some text)
    (unknown : NamesNone TicketPriority.all TicketPriority.name text) (queueName : String) :
    row.read queueName = { row with priorityOverride := none }.read queueName := by
  have absent : TicketPriority.ofText? text = none := find_named_none unknown
  unfold RuleRow.read
  rw [overridden, Option.bind_some, absent]
  rfl

theorem override_read_iff {rule : RoutingRule} {queueName : String}
    (reads : row.read queueName = .ok rule) (priority : TicketPriority) :
    rule.priorityOverride = some priority ↔ ∃ text, row.priorityOverride = some text ∧
      Text.sameName priority.name (Text.trimmed text) = true := by
  obtain ⟨_, _, -, -, rfl⟩ := read_parts reads
  simp only [Option.bind_eq_some_iff, priority_named_iff]

end Rows

section Answers
variable {tables : Tables} {row : RuleRow}

theorem unreadable_rule (distinct : (tables.rules.map (·.id)).Nodup) (member : row ∈ tables.rules)
    (unreadable : row.IsUnreadable) :
    tables.rule? row.id = .error (.invalidInput row.complaint) := by
  rw [rule_of_row distinct member, Tables.readRule, unreadable_refused unreadable]
  rfl

theorem readable_rule (distinct : (tables.rules.map (·.id)).Nodup) (member : row ∈ tables.rules)
    (readable : ¬ row.IsUnreadable) :
    ∃ rule, tables.rule? row.id = .ok (some rule) ∧ tables.readRule row = .ok rule := by
  obtain ⟨rule, reads⟩ := readable_answered readable (tables.queueName row.queueId)
  refine ⟨rule, ?_, reads⟩
  rw [rule_of_row distinct member, Tables.readRule, reads]
  rfl

theorem update_unreadable (id : RuleId) (fault : RoutingError)
    (refused : tables.rule? id = .error fault) (changes : RuleChanges) (stamp : Instant) :
    (updateRule id changes stamp).perform tables = (.error fault, tables) := by
  rw [updateRule, Action.perform_bind, perform_read_for_update, refused]

end Answers

section Lists
variable {tables : Tables}

theorem rules_where_lists (distinct : (tables.rules.map (·.id)).Nodup) (selected : RuleRow → Bool) :
    ListsRows tables (selected · = true) (tables.rulesWhere selected) := by
  refine ⟨_, sorted_rows_stand distinct (List.filter_sublist (p := selected)), ?_, ?_⟩
  · intro row
    rw [List.mem_mergeSort, List.mem_filter]
  · rw [rules_where_eq, readAll]
    apply List.filterMap_congr
    intro row member
    have inTable := (List.mem_filter.mp (List.mem_mergeSort.mp member)).1
    rw [rule_of_row distinct inTable]
    cases tables.readRule row <;> rfl

theorem rules_where_readable (distinct : (tables.rules.map (·.id)).Nodup)
    (selected : RuleRow → Bool) :
    tables.readable.rulesWhere selected = tables.rulesWhere selected := by
  have swapped : tables.readable.rules.filter selected =
      (tables.rules.filter selected).filter fun row => !decide row.IsUnreadable := by
    simp only [Tables.readable, List.filter_filter, Bool.and_comm]
  rw [rules_where_eq, rules_where_eq, swapped, sorted_filter distinct _ List.filter_sublist]
  simp only [readAll, List.filterMap_filter]
  apply List.filterMap_congr
  intro row _
  by_cases unreadable : row.IsUnreadable
  · simp [unreadable, Tables.readRule, unreadable_refused unreadable, Except.toOption]
  · simp only [unreadable, decide_false, Bool.not_false, ↓reduceIte]
    rfl

theorem lists_rows_congr {selected wanted : RuleRow → Prop} {rules : List RoutingRule}
    (same : ∀ row, selected row ↔ wanted row) (lists : ListsRows tables selected rules) :
    ListsRows tables wanted rules := by
  obtain ⟨rows, ordered, members, read⟩ := lists
  exact ⟨rows, ordered, fun row => by rw [members, same], read⟩

end Lists

/-- What a row comes to when its rule is asked for, or is to be changed. -/
structure AnswersForItself (connection : Connection) (row : RuleRow) : Prop where
  refused : (∃ reason, connection.query (Tables.rule? row.id) = .error (.invalidInput reason)) ↔
    row.IsUnreadable
  answered : (∃ rule, connection.query (Tables.rule? row.id) = .ok (some rule)) ↔
    ¬ row.IsUnreadable
  complains : ∀ fault, connection.query (Tables.rule? row.id) = .error fault →
    fault = .invalidInput row.complaint
  override : ∀ rule, connection.query (Tables.rule? row.id) = .ok (some rule) → ∀ priority,
    rule.priorityOverride = some priority ↔ ∃ text, row.priorityOverride = some text ∧
      Text.sameName priority.name (Text.trimmed text) = true
  harmless : ∀ text, row.priorityOverride = some text →
    (∀ c ∈ text.toList, Text.isBlank c = true) ∨
      NamesNone TicketPriority.all TicketPriority.name text →
    connection.tables.readRule row = connection.tables.readRule { row with priorityOverride := none }
  unchangeable : ∀ fault, connection.query (Tables.rule? row.id) = .error fault →
    ∀ (changes : RuleChanges) (stamp : Instant),
      connection.perform (updateRule row.id changes stamp) = (.error fault, connection)

structure ListsReadable (connection : Connection) (company : CompanyId) : Prop where
  answered : connection.lookup.listRules company = .ok (connection.tables.activeRules company)
  active : ListsRows connection.tables
    (fun row => row.companyId = company ∧ row.isActive = true ∧ row.isDeleted = false)
    (connection.tables.activeRules company)
  all : ListsRows connection.tables (fun row => row.companyId = company ∧ row.isDeleted = false)
    (connection.tables.companyRules company)
  inTime : (∀ row ∈ connection.tables.rules, row.createdAt.FitsColumn) →
    (connection.tables.activeRules company).Pairwise RoutingRule.TriedBefore ∧
      (connection.tables.companyRules company).Pairwise RoutingRule.TriedBefore
  unseen : SameView company connection { connection with tables := connection.tables.readable }

section Harm
variable {connection : Connection}

theorem answers_for_itself (opened : connection.isOpen = true)
    (distinct : (connection.tables.rules.map (·.id)).Nodup) (row : RuleRow)
    (member : row ∈ connection.tables.rules) : AnswersForItself connection row := by
  have asked : connection.query (Tables.rule? row.id) = connection.tables.rule? row.id := by
    simp [Connection.query, opened]
  have unreadable := unreadable_rule distinct member
  have readable := readable_rule distinct member
  constructor
  case refused =>
    rw [asked]
    refine ⟨?_, fun bad => ⟨_, unreadable bad⟩⟩
    rintro ⟨reason, refused⟩
    by_contra good
    obtain ⟨rule, answer, -⟩ := readable good
    simp [refused] at answer
  case answered =>
    rw [asked]
    constructor
    · rintro ⟨rule, answer⟩ bad
      simp [unreadable bad] at answer
    · intro good
      obtain ⟨rule, answer, -⟩ := readable good
      exact ⟨rule, answer⟩
  case complains =>
    rw [asked]
    intro fault refused
    by_cases bad : row.IsUnreadable
    · rw [unreadable bad] at refused
      exact (Except.error.inj refused).symm
    · obtain ⟨rule, answer, -⟩ := readable bad
      simp [answer] at refused
  case override =>
    rw [asked]
    intro rule answer
    have good : ¬ row.IsUnreadable := fun bad => by simp [unreadable bad] at answer
    obtain ⟨other, same, reads⟩ := readable good
    obtain rfl : rule = other := by simpa [answer] using same
    exact override_read_iff reads
  case harmless =>
    intro text overridden unknown
    exact override_ignored text overridden (unknown.elim blank_names_none id) _
  case unchangeable =>
    rw [asked]
    intro fault refused changes stamp
    exact connection_perform_refused _ connection fault opened
      (update_unreadable row.id fault refused changes stamp)

theorem lists_readable (opened : connection.isOpen = true)
    (distinct : (connection.tables.rules.map (·.id)).Nodup) (company : CompanyId) :
    ListsReadable connection company where
  answered := by simp [Connection.lookup, Connection.query, opened, Except.mapError]
  active := lists_rows_congr (fun row => by simp [and_assoc]) (rules_where_lists distinct _)
  all := lists_rows_congr (fun row => by simp) (rules_where_lists distinct _)
  inTime dated := ⟨rules_where_pairwise distinct dated _, rules_where_pairwise distinct dated _⟩
  unseen := same_view_of_answers connection _ rfl (rules_where_readable distinct _)
    (rules_where_readable distinct _) rfl rfl

end Harm

/-- One unreadable row harms itself only. Asking for its rule, or changing it, fails with what is wrong
with it; every list goes on without it, and every company sees what it would see if the row were not
there. An override that names no priority counts as none. -/
theorem unreadable_row_harms_itself (connection : Connection) (opened : connection.isOpen = true)
    (distinct : (connection.tables.rules.map (·.id)).Nodup) :
    (∀ row ∈ connection.tables.rules, AnswersForItself connection row) ∧
      ∀ company, ListsReadable connection company :=
  ⟨answers_for_itself opened distinct, lists_readable opened distinct⟩

section OneUnreadable

def oneUnreadable : Connection :=
  let row : RuleRow :=
    ⟨⟨"r1"⟩, ⟨"c1"⟩, ⟨"q1"⟩, "Help", none, " subjectKEYWORD\u00a0", "contains", "help", 2, true, false,
      none, some "asap", none, newYear, newYear⟩
  { Connection.inMemory with tables := {
      queues := [⟨⟨"q1"⟩, ⟨"c1"⟩, "Help", none, false, true, false, newYear, newYear⟩]
      rules := [row, { row with id := ⟨"r2"⟩, matchType := "Subject", sortOrder := 1 }] } }

theorem subject_row_unreadable :
    let database := oneUnreadable
    database.isOpen = true ∧ (database.tables.rules.map (·.id)).Nodup ∧
      (database.tables.rules.filter fun row => decide row.IsUnreadable).map (·.id) = [⟨"r2"⟩] ∧
      database.tables.rule? ⟨"r2"⟩ = .error (.invalidInput "unknown match type: Subject") ∧
      (∀ row ∈ database.tables.rules, AnswersForItself database row) ∧
      ∀ company, ListsReadable database company := by
  intro database
  have distinct : (database.tables.rules.map (·.id)).Nodup := by decide +kernel
  have harm := unreadable_row_harms_itself database rfl distinct
  exact ⟨rfl, distinct, by decide +kernel, rfl, harm.1, harm.2⟩

end OneUnreadable

end Store

end TicketRouting
