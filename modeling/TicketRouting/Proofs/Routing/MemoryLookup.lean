import Mathlib.Data.List.Nodup
import TicketRouting.Routing.Decision
/-!
What rules and queues held in memory answer. Entries put under keys of their own stay in the order in
which they were put there, and rules of one place in the order of their company are tried in that
order.
-/
namespace TicketRouting

section Sorting
variable {α : Type} {le : α → α → Bool}

/-- Sorting leaves entries that stand on one level where they are among themselves. -/
theorem filter_merge_sort (trans : ∀ a b c, le a b = true → le b c = true → le a c = true)
    (total : ∀ a b, (le a b || le b a) = true) (selected : α → Bool)
    (level : ∀ a b, selected a = true → selected b = true → le a b = true) (entries : List α) :
    (entries.mergeSort le).filter selected = entries.filter selected := by
  have sorted : (entries.filter selected).Pairwise fun a b => le a b = true :=
    List.pairwise_of_forall_mem_list fun a inFirst b inSecond =>
      level a b (List.mem_filter.mp inFirst).2 (List.mem_filter.mp inSecond).2
  have kept : (entries.filter selected).Sublist ((entries.mergeSort le).filter selected) := by
    simpa only [List.filter_filter, Bool.and_self] using
      (List.sublist_mergeSort trans total sorted List.filter_sublist).filter selected
  have sameLength := ((List.mergeSort_perm entries le).filter selected).length_eq
  exact (kept.eq_of_length sameLength.symm).symm

theorem merge_sort_pairwise (trans : ∀ a b c, le a b = true → le b c = true → le a c = true)
    (total : ∀ a b, (le a b || le b a) = true) {before : α → α → Prop} {entries : List α}
    (ordered : entries.Pairwise before) :
    (entries.mergeSort le).Pairwise fun a b =>
      le a b = true ∧ (le b a = true → before a b) := by
  rw [List.pairwise_iff_forall_sublist]
  intro a b pair
  have least : le a b = true :=
    List.pairwise_iff_forall_sublist.mp (List.pairwise_mergeSort trans total entries) pair
  refine ⟨least, fun back => ?_⟩
  -- All entries on one level with `a` keep their order, and `b` is one of them.
  let level := fun other => le a other && le other a
  have reflexive : le a a = true := trans a b a least back
  have together : [a, b].Sublist ((entries.mergeSort le).filter level) := by
    simpa [level, reflexive, least, back] using pair.filter level
  rw [filter_merge_sort trans total level] at together
  · exact List.pairwise_iff_forall_sublist.mp ordered (together.trans List.filter_sublist)
  · intro first second inFirst inSecond
    simp only [level, Bool.and_eq_true] at inFirst inSecond
    exact trans first a second inFirst.2 inSecond.1

end Sorting

section Filling
variable {α κ : Type} [BEq κ] [LawfulBEq κ] (key : α → κ)

theorem put_under_fresh (entry : α) (entries : List α)
    (fresh : ∀ other ∈ entries, key other ≠ key entry) :
    putUnder key entry entries = entries ++ [entry] := by
  induction entries with
  | nil => rfl
  | cons other rest ih =>
    obtain ⟨different, later⟩ := List.forall_mem_cons.mp fresh
    rw [putUnder, if_neg (by simpa using different), ih later, List.cons_append]

theorem put_all (entries held : List α)
    (distinct : (held ++ entries).Pairwise fun first second => key first ≠ key second) :
    entries.foldl (fun all entry => putUnder key entry all) held = held ++ entries := by
  induction entries generalizing held with
  | nil => simp
  | cons entry rest ih =>
    have fresh : ∀ other ∈ held, key other ≠ key entry := fun other member =>
      (List.pairwise_append.mp distinct).2.2 other member entry List.mem_cons_self
    rw [List.foldl_cons, put_under_fresh key entry held fresh, ih]
    · simp
    · simpa using distinct

end Filling

namespace MemoryLookup

def filled (rules : List RoutingRule) (queues : List Queue) : MemoryLookup :=
  queues.foldl (fun lookup queue => lookup.upsertQueue queue)
    (rules.foldl (fun lookup rule => lookup.upsertRule rule) {})

theorem upsert_rules (rules : List RoutingRule) (lookup : MemoryLookup) :
    rules.foldl (fun lookup rule => lookup.upsertRule rule) lookup =
      { lookup with
        rules := rules.foldl (fun all rule => putUnder (·.id) rule all) lookup.rules } := by
  induction rules generalizing lookup with
  | nil => rfl
  | cons rule rest ih => exact ih (lookup.upsertRule rule)

theorem upsert_queues (queues : List Queue) (lookup : MemoryLookup) :
    queues.foldl (fun lookup queue => lookup.upsertQueue queue) lookup =
      { lookup with
        queues := queues.foldl (fun all queue => putUnder (·.id) queue all) lookup.queues } := by
  induction queues generalizing lookup with
  | nil => rfl
  | cons queue rest ih => exact ih (lookup.upsertQueue queue)

theorem filled_held (rules : List RoutingRule) (queues : List Queue)
    (ownRules : rules.Pairwise fun first second => first.id ≠ second.id)
    (ownQueues : queues.Pairwise fun first second => first.id ≠ second.id) :
    filled rules queues = ⟨rules, queues, false⟩ := by
  rw [filled, upsert_rules, upsert_queues, put_all (·.id) rules [] ownRules,
    put_all (·.id) queues [] ownQueues]
  rfl

end MemoryLookup

theorem rules_in_order_pairwise (company : CompanyId) {before : RoutingRule → RoutingRule → Prop}
    {rules : List RoutingRule} (ordered : rules.Pairwise before) :
    (rulesInOrder company rules).Pairwise fun first second =>
      first.sortOrder < second.sortOrder ∨
        first.sortOrder = second.sortOrder ∧ before first second := by
  have trans : ∀ first second third : RoutingRule,
      decide (first.sortOrder ≤ second.sortOrder) = true →
      decide (second.sortOrder ≤ third.sortOrder) = true →
      decide (first.sortOrder ≤ third.sortOrder) = true := by
    intro first second third
    simpa using Int64.le_trans
  have total : ∀ first second : RoutingRule, (decide (first.sortOrder ≤ second.sortOrder) ||
      decide (second.sortOrder ≤ first.sortOrder)) = true := by
    intro first second
    simpa using Int64.le_total first.sortOrder second.sortOrder
  refine (merge_sort_pairwise trans total (ordered.sublist List.filter_sublist)).imp ?_
  rintro first second ⟨bound, level⟩
  obtain less | same := Int64.lt_or_eq_of_le (of_decide_eq_true bound)
  · exact .inl less
  · exact .inr ⟨same, level (by simp [same])⟩

end TicketRouting
