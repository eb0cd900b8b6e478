import TicketRouting.Proofs.Calendar.ColumnOrder
import TicketRouting.Proofs.Routing.MemoryLookup
import TicketRouting.Proofs.Store.DefaultQueue
import TicketRouting.Proofs.Store.Reading
import TicketRouting.Proofs.Store.Tenancy
/-!
The database and a lookup in memory with the same contents decide alike. The database orders its rules
by columns, creation times by their texts; in memory rules stand in the order of their creation and are
sorted by their place alone. Both come to one order.
-/
namespace TicketRouting

namespace RoutingRule

/-- The rule was made before another one; of two made at one time the one with the lesser identifier
counts as the earlier. -/
def MadeBefore (left right : RoutingRule) : Prop :=
  left.createdAt.isBefore right.createdAt = true ∨
    left.createdAt = right.createdAt ∧ left.id.text < right.id.text

def TriedBefore (left right : RoutingRule) : Prop :=
  left.sortOrder < right.sortOrder ∨ left.sortOrder = right.sortOrder ∧ left.MadeBefore right

instance (left right : RoutingRule) : Decidable (left.MadeBefore right) := by
  unfold MadeBefore
  infer_instance

theorem made_before_asymm {left right : RoutingRule} (order : left.MadeBefore right) :
    ¬ right.MadeBefore left := by
  rintro (after | ⟨same, greater⟩) <;> obtain before | ⟨sameTime, less⟩ := order
  · exact Instant.is_before_asymm before after
  · exact Instant.is_before_asymm (sameTime ▸ after) (sameTime ▸ after)
  · exact Instant.is_before_asymm (same ▸ before) (same ▸ before)
  · exact String.lt_asymm less greater

theorem tried_before_asymm {left right : RoutingRule} (order : left.TriedBefore right) :
    ¬ right.TriedBefore left := by
  rintro (after | ⟨same, greater⟩) <;> obtain before | ⟨samePlace, less⟩ := order
  · exact Int64.lt_asymm before after
  · exact Int64.lt_irrefl (samePlace ▸ after)
  · exact Int64.lt_irrefl (same ▸ before)
  · exact made_before_asymm less greater

end RoutingRule

namespace Store

section Comparisons

theorem compare_text_lt {left right : String} : compare left right = .lt ↔ left < right :=
  compareOfLessAndEq_eq_lt

theorem compare_columns {left right : Instant} (leftFits : left.FitsColumn)
    (rightFits : right.FitsColumn) :
    (compareColumns left right = .lt → left.isBefore right = true) ∧
      (compareColumns left right = .eq → left = right) := by
  obtain before | rfl | after := Instant.before_or_equal left right
  · have less := compare_text_lt.mpr (Instant.column_text_lt leftFits rightFits before)
    simp [compareColumns, less, before]
  · simp [compareColumns]
  · have greater := Std.OrientedCmp.gt_of_lt
      (compare_text_lt.mpr (Instant.column_text_lt rightFits leftFits after))
    simp [compareColumns, greater]

theorem order_total {α : Type} (cmp : α → α → Ordering) [Std.OrientedCmp cmp] (left right : α) :
    ((cmp left right).isLE || (cmp right left).isLE) = true := by
  rw [@Std.OrientedCmp.eq_swap α cmp _ right left]
  cases cmp left right <;> rfl

theorem then_is_le {first second : Ordering} (order : (first.then second).isLE = true) :
    first = .lt ∨ first = .eq ∧ second.isLE = true := by
  cases first with
  | lt => exact .inl rfl
  | eq => exact .inr ⟨rfl, order⟩
  | gt => cases order

def compareMade : RuleRow → RuleRow → Ordering :=
  compareLex (compareOn (·.createdAt.columnText)) (compareOn (·.id.text))

def compareTried : RuleRow → RuleRow → Ordering := compareLex (compareOn (·.sortOrder)) compareMade

instance : Std.TransCmp compareMade := by
  unfold compareMade
  infer_instance

instance : Std.TransCmp compareTried := by
  unfold compareTried
  infer_instance

theorem first_difference_then (first second third : Ordering) :
    firstDifference [first, second, third] = (first.then (second.then third)).isLE := by
  cases first <;> cases second <;> rfl

end Comparisons

section RuleLists
variable {tables : Tables}

def readAll (tables : Tables) (rows : List RuleRow) : List RoutingRule :=
  rows.filterMap fun row => (tables.readRule row).toOption

structure Comparable (left right : RuleRow) : Prop where
  different : left.id ≠ right.id
  leftFits : left.createdAt.FitsColumn
  rightFits : right.createdAt.FitsColumn

theorem id_text_lt {left right : RuleId} (different : left ≠ right)
    (notAfter : (compare left.text right.text).isLE = true) : left.text < right.text := by
  cases ids : compare left.text right.text with
  | lt => exact compare_text_lt.mp ids
  | eq => exact absurd (congrArg RuleId.mk (Std.compare_eq_iff_eq.mp ids)) different
  | gt => simp [ids] at notAfter

theorem made_before_read {left right : RuleRow} {leftRule rightRule : RoutingRule}
    (rows : Comparable left right) (order : (compareMade left right).isLE = true)
    (leftReads : tables.readRule left = .ok leftRule)
    (rightReads : tables.readRule right = .ok rightRule) : leftRule.MadeBefore rightRule := by
  obtain ⟨leftId, -, -⟩ := read_reference leftReads
  obtain ⟨rightId, -, -⟩ := read_reference rightReads
  obtain ⟨-, -, -, leftMade⟩ := read_state leftReads
  obtain ⟨-, -, -, rightMade⟩ := read_state rightReads
  have columns := compare_columns rows.leftFits rows.rightFits
  unfold RoutingRule.MadeBefore
  rw [leftId, rightId, leftMade, rightMade]
  obtain made | ⟨sameTime, notAfter⟩ := then_is_le order
  · exact .inl (columns.1 made)
  · refine .inr ⟨columns.2 sameTime, ?_⟩
    exact id_text_lt rows.different notAfter

theorem tried_before_read {left right : RuleRow} {leftRule rightRule : RoutingRule}
    (rows : Comparable left right) (order : (compareTried left right).isLE = true)
    (leftReads : tables.readRule left = .ok leftRule)
    (rightReads : tables.readRule right = .ok rightRule) : leftRule.TriedBefore rightRule := by
  obtain ⟨-, -, leftOrder, -⟩ := read_state leftReads
  obtain ⟨-, -, rightOrder, -⟩ := read_state rightReads
  unfold RoutingRule.TriedBefore
  rw [leftOrder, rightOrder]
  obtain place | ⟨samePlace, made⟩ := then_is_le order
  · exact .inl (Std.compare_eq_lt.mp place)
  · exact .inr ⟨Std.compare_eq_iff_eq.mp samePlace, made_before_read rows made leftReads rightReads⟩

theorem sorted_rows (distinct : (tables.rules.map (·.id)).Nodup)
    (cmp : RuleRow → RuleRow → Ordering) [Std.TransCmp cmp] {rows : List RuleRow}
    (inTable : rows.Sublist tables.rules) :
    (rows.mergeSort fun left right => (cmp left right).isLE).Pairwise fun left right =>
      (cmp left right).isLE = true ∧ left.id ≠ right.id := by
  have listed := List.pairwise_mergeSort (fun _ _ _ => Std.TransCmp.isLE_trans) (order_total cmp) rows
  have perm := List.mergeSort_perm rows fun left right => (cmp left right).isLE
  have apart := List.pairwise_map.mp
    ((perm.map RuleRow.id).nodup_iff.mpr (distinct.sublist (inTable.map _)))
  exact listed.and apart

theorem read_sorted (distinct : (tables.rules.map (·.id)).Nodup)
    (dated : ∀ row ∈ tables.rules, row.createdAt.FitsColumn)
    (cmp : RuleRow → RuleRow → Ordering) [Std.TransCmp cmp]
    {before : RoutingRule → RoutingRule → Prop}
    (ordered : ∀ left right leftRule rightRule, Comparable left right →
      (cmp left right).isLE = true → tables.readRule left = .ok leftRule →
      tables.readRule right = .ok rightRule → before leftRule rightRule)
    {rows : List RuleRow} (inTable : rows.Sublist tables.rules) :
    (readAll tables (rows.mergeSort fun left right => (cmp left right).isLE)).Pairwise before := by
  have fits : ∀ row ∈ rows.mergeSort fun left right => (cmp left right).isLE,
      row.createdAt.FitsColumn := fun row member =>
    dated row (inTable.subset (List.mem_mergeSort.mp member))
  rw [readAll, List.pairwise_filterMap]
  refine (sorted_rows distinct cmp inTable).imp_of_mem ?_
  rintro left right inLeft inRight ⟨order, different⟩ leftRule leftReads rightRule rightReads
  exact ordered left right leftRule rightRule ⟨different, fits left inLeft, fits right inRight⟩ order
    ((read_option_iff left leftRule).mp leftReads) ((read_option_iff right rightRule).mp rightReads)

theorem rules_where_eq (selected : RuleRow → Bool) (tables : Tables) :
    tables.rulesWhere selected = readAll tables
      ((tables.rules.filter selected).mergeSort fun left right => (compareTried left right).isLE) := by
  simp only [Tables.rulesWhere, first_difference_then]
  rfl

theorem rules_where_pairwise (distinct : (tables.rules.map (·.id)).Nodup)
    (dated : ∀ row ∈ tables.rules, row.createdAt.FitsColumn) (selected : RuleRow → Bool) :
    (tables.rulesWhere selected).Pairwise RoutingRule.TriedBefore := by
  rw [rules_where_eq]
  exact read_sorted distinct dated compareTried (fun _ _ _ _ => tried_before_read)
    List.filter_sublist

theorem eligible_row {row : RuleRow} {rule : RoutingRule} (reads : tables.readRule row = .ok rule)
    (company : CompanyId) : rule.isEligibleFor company = true ↔
      (row.companyId == company && row.isActive && !row.isDeleted) = true := by
  obtain ⟨-, own, -⟩ := read_reference reads
  obtain ⟨active, deleted, -, -⟩ := read_state reads
  simp only [RoutingRule.isEligibleFor, own, active, deleted, Bool.and_eq_true]
  constructor
  · rintro ⟨⟨active, kept⟩, own⟩
    exact ⟨⟨own, active⟩, kept⟩
  · rintro ⟨⟨own, active⟩, kept⟩
    exact ⟨⟨active, kept⟩, own⟩

end RuleLists

/-- Everything that the tables hold, as it is read under its identifier: the rules as they were made
one after another, the queues in any order. -/
structure Contents (tables : Tables) where
  rules : List RoutingRule
  queues : List Queue
  everyRule : ∀ rule, rule ∈ rules ↔ ∃ id, tables.rule? id = .ok (some rule)
  everyQueue : ∀ queue, queue ∈ queues ↔ ∃ id, tables.queue? id = some queue
  inTime : rules.Pairwise RoutingRule.MadeBefore
  onceEach : queues.Nodup

namespace Contents
variable {tables : Tables} (contents : Contents tables)

def inMemory : MemoryLookup := .filled contents.rules contents.queues

theorem rule_row (sound : Sound tables) (rule : RoutingRule) :
    rule ∈ contents.rules ↔ ∃ row ∈ tables.rules, tables.readRule row = .ok rule :=
  (contents.everyRule rule).trans (some_rule_iff sound rule)

theorem queue_row (sound : Sound tables) (queue : Queue) :
    queue ∈ contents.queues ↔ queue ∈ tables.queues :=
  (contents.everyQueue queue).trans (some_queue_iff sound queue)

theorem own_rule_ids (sound : Sound tables) :
    contents.rules.Pairwise fun first second => first.id ≠ second.id := by
  refine contents.inTime.imp_of_mem ?_
  intro first second inFirst inSecond order same
  obtain ⟨row, member, reads⟩ := (contents.rule_row sound first).mp inFirst
  obtain ⟨other, otherMember, otherReads⟩ := (contents.rule_row sound second).mp inSecond
  have sameRow : row = other := same_rule sound row other member otherMember
    ((read_reference reads).1.symm.trans (same.trans (read_reference otherReads).1))
  subst sameRow
  obtain rfl : first = second := Except.ok.inj (reads.symm.trans otherReads)
  exact RoutingRule.made_before_asymm order order

theorem own_queue_ids (sound : Sound tables) :
    contents.queues.Pairwise fun first second => first.id ≠ second.id := by
  refine contents.onceEach.imp_of_mem ?_
  intro first second inFirst inSecond different same
  exact different (same_queue sound first second ((contents.queue_row sound first).mp inFirst)
    ((contents.queue_row sound second).mp inSecond) same)

theorem in_memory_eq (sound : Sound tables) :
    contents.inMemory = ⟨contents.rules, contents.queues, false⟩ :=
  MemoryLookup.filled_held contents.rules contents.queues (contents.own_rule_ids sound)
    (contents.own_queue_ids sound)

theorem same_rules (sound : Sound tables)
    (dated : ∀ row ∈ tables.rules, row.createdAt.FitsColumn) (company : CompanyId) :
    tables.activeRules company = rulesInOrder company contents.rules := by
  have listed : (tables.activeRules company).Pairwise RoutingRule.TriedBefore :=
    rules_where_pairwise sound.ruleIds dated _
  have tried : (rulesInOrder company contents.rules).Pairwise RoutingRule.TriedBefore :=
    rules_in_order_pairwise company contents.inTime
  have differ {first second : RoutingRule} (order : first.TriedBefore second) : first ≠ second := by
    rintro rfl
    exact RoutingRule.tried_before_asymm order order
  -- Both lists are in the order of one strict relation, so they are equal once they have the same rules.
  have perm : (tables.activeRules company).Perm (rulesInOrder company contents.rules) := by
    refine (List.perm_ext_iff_of_nodup (listed.imp differ) (tried.imp differ)).mpr fun rule => ?_
    rw [Tables.activeRules, rules_where_mem, rulesInOrder, List.mem_mergeSort, List.mem_filter,
      contents.rule_row sound]
    constructor
    · rintro ⟨row, member, selected, reads⟩
      exact ⟨⟨row, member, reads⟩, (eligible_row reads company).mpr selected⟩
    · rintro ⟨⟨row, member, reads⟩, eligible⟩
      exact ⟨row, member, (eligible_row reads company).mp eligible, reads⟩
  exact perm.eq_of_pairwise
    (fun first second _ _ order back => absurd back (RoutingRule.tried_before_asymm order))
    listed tried

theorem same_default (sound : Sound tables) (company : CompanyId)
    (sole : (tables.queues.filter fun row =>
      row.companyId == company && row.isUsableDefault).length ≤ 1) :
    tables.defaultQueue? company = earliestQueue (contents.queues.filter fun queue =>
      queue.companyId == company && queue.isUsableDefault) := by
  have sameQueues : contents.queues.Perm tables.queues :=
    (List.perm_ext_iff_of_nodup contents.onceEach (nodup_queues sound)).mpr
      (contents.queue_row sound)
  have candidates := sameQueues.filter fun queue =>
    queue.companyId == company && queue.isUsableDefault
  simp only [Tables.defaultQueue?]
  -- With at most one candidate it does not matter by what the two sides choose.
  cases usable : tables.queues.filter fun queue =>
      queue.companyId == company && queue.isUsableDefault with
  | nil => simp [List.perm_nil.mp (usable ▸ candidates), earliestQueue]
  | cons queue others =>
    cases others with
    | nil => simp [List.perm_singleton.mp (usable ▸ candidates), earliestQueue]
    | cons => simp [usable] at sole

def ofRows (sound : Sound tables) (rows : List RuleRow) (queues : List Queue)
    (allRows : rows.Perm tables.rules) (allQueues : queues.Perm tables.queues)
    (inTime : (readAll tables rows).Pairwise RoutingRule.MadeBefore) : Contents tables where
  rules := readAll tables rows
  queues := queues
  everyRule rule := by
    simp only [some_rule_iff sound, readAll, List.mem_filterMap, allRows.mem_iff, read_option_iff]
  everyQueue queue := by rw [allQueues.mem_iff, some_queue_iff sound]
  inTime := inTime
  onceEach := allQueues.nodup_iff.mpr (nodup_queues sound)

/-- Rules whose times fit into columns can be put into the order in which they were made. -/
theorem nonempty_of_dated (sound : Sound tables)
    (dated : ∀ row ∈ tables.rules, row.createdAt.FitsColumn) : Nonempty (Contents tables) :=
  ⟨ofRows sound (tables.rules.mergeSort fun left right => (compareMade left right).isLE)
    tables.queues (List.mergeSort_perm _ _) (List.Perm.refl _)
    (read_sorted sound.ruleIds dated compareMade (fun _ _ _ _ => made_before_read) (List.Sublist.refl _))⟩

end Contents

/-- After every run of writes in which the rules were made at times that columns can hold, an open
database and a lookup in memory with its contents decide alike on every ticket. The contents can always
be had, and no rule is missing in them. -/
theorem lookups_agree (connection : Connection) (writes : List Write)
    (reached : connection.tables = replay writes {}) (opened : connection.isOpen = true)
    (dated : ∀ row ∈ connection.tables.rules, row.createdAt.FitsColumn) :
    Nonempty (Contents connection.tables) ∧
    ∀ contents : Contents connection.tables,
      (∀ row ∈ connection.tables.rules,
        ∃ rule ∈ contents.rules, connection.tables.rule? row.id = .ok (some rule)) ∧
      ∀ (matcher : Matcher) (context : RoutingContext),
        route matcher connection.lookup context =
          route matcher contents.inMemory.toLookup context := by
  have sound : Sound connection.tables := reached ▸ replay_sound writes
  have named : AllNamed connection.tables := reached ▸ replay_named writes
  have marks : Marks _ connection.tables := reached ▸ replay_marks writes
  refine ⟨Contents.nonempty_of_dated sound dated, fun contents => ⟨?_, ?_⟩⟩
  · intro row member
    obtain ⟨rule, reads⟩ := named_reads row (named row member) connection.tables
    exact ⟨rule, (contents.rule_row sound rule).mpr ⟨row, member, reads⟩,
      (rule_read_iff sound row.id rule).mpr ⟨row, member, rfl, reads⟩⟩
  · intro matcher context
    have sole := usable_at_most_one sound marks context.companyId
    apply route_congr
    · rw [contents.in_memory_eq sound]
      simp [Connection.lookup, Connection.query, opened, contents.same_rules sound dated,
        MemoryLookup.toLookup, MemoryLookup.listRules, MemoryLookup.whenAvailable, Except.mapError]
    · rw [contents.in_memory_eq sound]
      simp [Connection.lookup, Connection.query, opened, contents.same_default sound _ sole,
        MemoryLookup.toLookup, MemoryLookup.findDefaultQueue, MemoryLookup.whenAvailable,
        Except.mapError]

section TwoRules

/-- Two rules with one place in the order. The one with the greater identifier was made half a second
earlier, and its column has no fraction digits. -/
def twoRules : List Write :=
  let newRule : NewRule :=
    ⟨⟨"c1"⟩, ⟨"q1"⟩, "Help", none, .subjectKeyword, .contains, "help",
      some Int64.minValue, none, none, none⟩
  [.createQueue ⟨"q1"⟩ newYear newYear ⟨⟨"c1"⟩, "Help", none, true⟩,
    .createRule ⟨"r1"⟩ (newYearAt 0 500000000) newYear newRule,
    .createRule ⟨"r2"⟩ newYear newYear newRule]

def twoRuleDatabase : Connection :=
  { Connection.inMemory with tables := replay twoRules {} }

theorem two_rules_dated : ∀ row ∈ twoRuleDatabase.tables.rules, row.createdAt.FitsColumn := by
  decide +kernel

def twoRuleContents : Contents twoRuleDatabase.tables :=
  .ofRows (replay_sound twoRules) twoRuleDatabase.tables.rules.reverse
    twoRuleDatabase.tables.queues (List.reverse_perm _) (List.Perm.refl _) (by decide +kernel)

theorem earlier_rule_first :
    twoRuleDatabase.isOpen = true ∧
      (∀ row ∈ twoRuleDatabase.tables.rules, row.createdAt.FitsColumn) ∧
      twoRuleContents.rules.map (·.id) = [⟨"r2"⟩, ⟨"r1"⟩] ∧
      (twoRuleDatabase.tables.activeRules ⟨"c1"⟩).map (·.id) = [⟨"r2"⟩, ⟨"r1"⟩] ∧
      ∀ matcher context, route matcher twoRuleDatabase.lookup context =
        route matcher twoRuleContents.inMemory.toLookup context := by
  have agree := (lookups_agree twoRuleDatabase twoRules rfl rfl two_rules_dated).2 twoRuleContents
  refine ⟨rfl, two_rules_dated, by decide +kernel, ?_, agree.2⟩
  have tried : (twoRuleContents.rules.filter (·.isEligibleFor ⟨"c1"⟩)).Pairwise
      fun left right => decide (left.sortOrder ≤ right.sortOrder) = true := by decide +kernel
  rw [twoRuleContents.same_rules (replay_sound twoRules) two_rules_dated, rulesInOrder,
    List.mergeSort_of_pairwise tried]
  decide +kernel

end TwoRules

end Store
end TicketRouting
