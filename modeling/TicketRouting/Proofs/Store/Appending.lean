import TicketRouting.Proofs.Store.Atomicity
import TicketRouting.Proofs.Store.RuleOrder
import TicketRouting.Proofs.Store.Steps
/-!
A rule that is created without a place comes behind all others of its company, the inactive ones
included. So it changes no decision that a rule made before. Only where the last place is taken there is
no place behind it.
-/
namespace TicketRouting.Store

/-- What the creation of a rule behind all others of its company leaves. -/
structure IsAppended (company : CompanyId) (rule : RoutingRule) (before later : Connection) :
    Prop where
  holds : later.tables.HasLiveRule company rule
  active : rule.isActive = true
  behind : ∀ other, before.tables.HasLiveRule company other → other.sortOrder < rule.sortOrder
  alone : (∀ other, ¬ before.tables.HasLiveRule company other) → rule.sortOrder = 1
  listed : later.tables.companyRules company = before.tables.companyRules company ++ [rule]
  tried : later.tables.activeRules company = before.tables.activeRules company ++ [rule]
  decided : ∀ (matcher : Matcher) (context : RoutingContext) (result : RoutingResult),
    context.companyId = company → route matcher before.lookup context = .ok result →
    result.matchedRule.isSome = true → route matcher later.lookup context = .ok result

section Greatest

theorem fold_greatest (orders : List Int64) (first : Int64) :
    let greatest := orders.foldl
      (fun greatest order => if greatest ≤ order then order else greatest) first
    greatest ∈ first :: orders ∧ ∀ order ∈ first :: orders, order ≤ greatest := by
  induction orders generalizing first with
  | nil => simp
  | cons second rest ih =>
    -- The greater of the first two takes the place of both.
    obtain ⟨member, bound⟩ := ih (if first ≤ second then second else first)
    simp only [List.foldl_cons]
    by_cases less : first ≤ second
    · simp only [less, ↓reduceIte] at member bound ⊢
      refine ⟨List.mem_cons_of_mem first member, ?_⟩
      rintro order (_ | ⟨_, inRest⟩)
      · exact Int64.le_trans less (bound second List.mem_cons_self)
      · exact bound order inRest
    · simp only [less, ↓reduceIte] at member bound ⊢
      have greater : second ≤ first := Int64.le_of_lt (Int64.not_le.mp less)
      refine ⟨?_, ?_⟩
      · obtain same | inRest := List.mem_cons.mp member
        · exact List.mem_cons.mpr (.inl same)
        · exact List.mem_cons_of_mem first (List.mem_cons_of_mem second inRest)
      · intro order listed
        obtain rfl | listed := List.mem_cons.mp listed
        · exact bound order List.mem_cons_self
        · obtain rfl | inRest := List.mem_cons.mp listed
          · exact Int64.le_trans greater (bound first List.mem_cons_self)
          · exact bound order (List.mem_cons_of_mem first inRest)

variable {tables : Tables} {company : CompanyId}

theorem last_sort_order (tables : Tables) (company : CompanyId) :
    (∀ row ∈ tables.rules, isLiveOf company row = true →
      row.sortOrder ≤ tables.lastSortOrder company) ∧
    ((∃ row ∈ tables.rules, isLiveOf company row = true ∧
        row.sortOrder = tables.lastSortOrder company) ∨
      (∀ row ∈ tables.rules, isLiveOf company row = false) ∧ tables.lastSortOrder company = 0) := by
  have selected : (fun row : RuleRow => row.companyId == company && !row.isDeleted) =
      isLiveOf company := rfl
  simp only [Tables.lastSortOrder, selected]
  cases orders : (tables.rules.filter (isLiveOf company)).map (·.sortOrder) with
  | nil =>
    have unlisted : ∀ row ∈ tables.rules, isLiveOf company row = false := by
      simpa using List.map_eq_nil_iff.mp orders
    refine ⟨fun row member live => ?_, .inr ⟨unlisted, rfl⟩⟩
    simp [unlisted row member] at live
  | cons first rest =>
    obtain ⟨member, bound⟩ := fold_greatest rest first
    rw [← orders] at member bound
    refine ⟨fun row inTable live => ?_, .inl ?_⟩
    · exact bound _ (List.mem_map_of_mem (List.mem_filter.mpr ⟨inTable, live⟩))
    · obtain ⟨row, listed, same⟩ := List.mem_map.mp member
      obtain ⟨inTable, live⟩ := List.mem_filter.mp listed
      exact ⟨row, inTable, live, same⟩

end Greatest

section Full
variable {tables : Tables}

theorem last_place_taken (company : CompanyId) (sound : Sound tables) (named : AllNamed tables) :
    tables.lastSortOrder company = Int64.maxValue ↔
      ∃ other, tables.HasLiveRule company other ∧ other.sortOrder = Int64.maxValue := by
  obtain ⟨bound, attained⟩ := last_sort_order tables company
  constructor
  · intro full
    obtain ⟨row, member, live, same⟩ | ⟨-, zero⟩ := attained
    · obtain ⟨rule, reads⟩ := named_reads row (named row member) tables
      refine ⟨rule, (live_rule_iff sound rule).mpr ⟨row, member, live, reads⟩, ?_⟩
      exact (read_state reads).2.2.1.trans (same.trans full)
    · exact absurd (zero.symm.trans full) (by decide)
  · rintro ⟨other, holds, full⟩
    obtain ⟨row, member, live, reads⟩ := (live_rule_iff sound other).mp holds
    have least := bound row member live
    rw [← (read_state reads).2.2.1, full] at least
    exact Int64.le_antisymm (Int64.le_maxValue _) least

theorem less_than_next {order last : Int64} (notAfter : order ≤ last)
    (room : last ≠ Int64.maxValue) : order < last + 1 := by
  have upper : last.toInt < 2 ^ 63 - 1 := by
    have different : last.toInt ≠ 2 ^ 63 - 1 := fun same => room (Int64.toInt_inj.mp same)
    have bound := last.toInt_lt
    omega
  have next : (last + 1).toInt = last.toInt + 1 := by
    have lower := last.le_toInt
    rw [Int64.toInt_add]
    exact Int.bmod_eq_of_le (by simp; omega) (by simp; omega)
  rw [Int64.le_iff_toInt_le] at notAfter
  rw [Int64.lt_iff_toInt_lt]
  omega

end Full

section Lists
variable {tables : Tables} {row : RuleRow} {rule : RoutingRule}

theorem rules_where_append {selected : RuleRow → Bool} (distinct : (tables.rules.map (·.id)).Nodup)
    (fresh : row.id ∉ tables.rules.map (·.id)) (hit : selected row = true)
    (behind : ∀ other ∈ tables.rules, selected other = true → other.StandsBefore row)
    (reads : tables.readRule row = .ok rule) :
    Tables.rulesWhere selected { tables with rules := tables.rules ++ [row] } =
      tables.rulesWhere selected ++ [rule] := by
  obtain ⟨rows, inOrder⟩ := rows_in_order distinct selected
  have laterDistinct : ((tables.rules ++ [row]).map (·.id)).Nodup := by
    rw [List.map_append]
    exact append_fresh _ _ distinct (.inr ⟨row.id, rfl, fresh⟩)
  have appended : InOrder { tables with rules := tables.rules ++ [row] } selected (rows ++ [row]) := by
    constructor
    · simpa [List.filter_append, hit] using inOrder.perm.append_right [row]
    · rw [List.pairwise_append]
      refine ⟨inOrder.ordered, List.pairwise_singleton _ _, ?_⟩
      intro other inRows last isLast
      obtain rfl := List.mem_singleton.mp isLast
      obtain ⟨member, selects⟩ := (in_order_mem inOrder other).mp inRows
      exact behind other member selects
  rw [rules_where_in_order laterDistinct appended, rules_where_in_order distinct inOrder]
  -- The queues are the same ones, so every row is read as before.
  have last : (tables.readRule row).toOption = some rule := (read_option_iff row rule).mpr reads
  have whole : readAll tables (rows ++ [row]) = readAll tables rows ++ [rule] := by
    simp [readAll, last]
  exact whole

variable {company : CompanyId}

theorem appended_lists (sound : Sound tables)
    (fresh : row.id ∉ tables.rules.map (·.id)) (own : row.companyId = company)
    (active : row.isActive = true) (kept : row.isDeleted = false)
    (behind : ∀ other ∈ tables.rules, isLiveOf company other = true →
      other.sortOrder < row.sortOrder)
    (reads : tables.readRule row = .ok rule) :
    let later : Tables := { tables with rules := tables.rules ++ [row] }
    later.companyRules company = tables.companyRules company ++ [rule] ∧
      later.activeRules company = tables.activeRules company ++ [rule] := by
  constructor
  · exact rules_where_append sound.ruleIds fresh (by simp [own, kept])
      (fun other member selected => .inl (behind other member selected)) reads
  · refine rules_where_append sound.ruleIds fresh (by simp [own, active, kept]) ?_ reads
    intro other member selected
    -- A rule that is tried is also one of the company's list.
    refine .inl (behind other member ?_)
    simp only [Bool.and_eq_true] at selected
    simp [isLiveOf, selected]

end Lists

section Creation
variable {connection : Connection} {id : RuleId} {createdAt stamp : Instant} {request : NewRule}

theorem append_refusal {tables : Tables} (unplaced : request.sortOrder = none)
    (fresh : id ∉ tables.rules.map (·.id)) :
    (Write.createRule id createdAt stamp request).refusal? tables =
      if tables.lastSortOrder request.companyId = Int64.maxValue then
        some (.database .sortOrderOverflow)
      else if tables.queue? request.queueId = none then some (.database .unknownQueue)
      else none := by
  have free : tables.rules.any (·.id == id) = false := by simpa using fresh
  have known : tables.queues.any (·.id == request.queueId) =
      decide (tables.queue? request.queueId ≠ none) := by
    rw [Bool.eq_iff_iff, decide_eq_true_eq, queue_known_iff]
  simp only [Write.refusal?, unplaced, free, known, Write.refuseUnless]
  by_cases full : tables.lastSortOrder request.companyId = Int64.maxValue
  · simp [full]
  · by_cases absent : tables.queue? request.queueId = none <;> simp [full, absent]

theorem decided_before_appended (before later : Connection) (opened : before.isOpen = true)
    (laterOpened : later.isOpen = true) {rule : RoutingRule} (matcher : Matcher)
    (context : RoutingContext) (result : RoutingResult)
    (tried : later.tables.activeRules context.companyId =
      before.tables.activeRules context.companyId ++ [rule])
    (decided : route matcher before.lookup context = .ok result)
    (matched : result.matchedRule.isSome = true) :
    route matcher later.lookup context = .ok result := by
  rw [route_open matcher context opened] at decided
  rw [route_open matcher context laterOpened, tried, List.find?_append]
  cases found : (before.tables.activeRules context.companyId).find?
      (Matching.ruleMatches matcher · context) with
  | some first => simpa [found] using decided
  | none =>
    -- A fallback names no rule.
    simp only [found, Except.ok.injEq] at decided
    subst decided
    simp at matched

theorem row_appended {row : RuleRow} {rule : RoutingRule} {company : CompanyId}
    (sound : Sound connection.tables) (named : AllNamed connection.tables)
    (opened : connection.isOpen = true)
    (laterSound : Sound { connection.tables with rules := connection.tables.rules ++ [row] })
    (fresh : row.id ∉ connection.tables.rules.map (·.id)) (own : row.companyId = company)
    (active : row.isActive = true) (kept : row.isDeleted = false)
    (place : row.sortOrder = connection.tables.lastSortOrder company + 1)
    (room : connection.tables.lastSortOrder company ≠ Int64.maxValue)
    (reads : connection.tables.readRule row = .ok rule) :
    IsAppended company rule connection { connection with
      tables := { connection.tables with rules := connection.tables.rules ++ [row] } } := by
  obtain ⟨bound, attained⟩ := last_sort_order connection.tables company
  obtain ⟨isActive, -, order, -⟩ := read_state reads
  have behind : ∀ other ∈ connection.tables.rules, isLiveOf company other = true →
      other.sortOrder < row.sortOrder := fun other member live =>
    place ▸ less_than_next (bound other member live) room
  obtain ⟨listed, tried⟩ := appended_lists sound fresh own active kept behind reads
  refine ⟨?holds, isActive.trans active, ?behind, ?alone, listed, tried, ?decided⟩
  case holds =>
    refine (live_rule_iff laterSound rule).mpr ⟨row, by simp, ?_, reads⟩
    simp [isLiveOf, own, kept]
  case behind =>
    intro other holds
    obtain ⟨otherRow, member, live, otherReads⟩ := (live_rule_iff sound other).mp holds
    rw [(read_state otherReads).2.2.1, order]
    exact behind otherRow member live
  case alone =>
    intro none
    obtain ⟨otherRow, member, live, -⟩ | ⟨-, zero⟩ := attained
    · obtain ⟨other, otherReads⟩ := named_reads otherRow (named otherRow member) connection.tables
      exact absurd ((live_rule_iff sound other).mpr ⟨otherRow, member, live, otherReads⟩) (none other)
    · rw [order, place, zero]
      rfl
  case decided =>
    rintro matcher context result rfl decided matched
    refine decided_before_appended connection _ opened ?_ matcher context result tried decided matched
    exact opened

end Creation

/-- A rule that is created without a place is refused exactly if its queue is unknown or the last place is
taken by a rule of its company; nothing is written then. Otherwise it is active, comes behind all rules
of its company in both lists, and leaves every decision that a rule made. The identifier is a new one. -/
theorem unplaced_rule_appended (connection : Connection) (steps : List Step)
    (reached : connection.tables = afterSteps steps {}) (opened : connection.isOpen = true)
    (id : RuleId) (createdAt stamp : Instant) (request : NewRule)
    (unplaced : request.sortOrder = none) (fresh : connection.tables.rule? id = .ok none) :
    let call := connection.perform (createRule id createdAt stamp request)
    let blocked := connection.tables.queue? request.queueId = none ∨
      ∃ other, connection.tables.HasLiveRule request.companyId other ∧
        other.sortOrder = 9223372036854775807
    ((∃ fault, call = (.error (.database fault), connection)) ↔ blocked) ∧
    (¬ blocked → ∃ rule, call.1 = .ok rule ∧
      IsAppended request.companyId rule connection call.2) := by
  intro call blocked
  have sound : Sound connection.tables := reached ▸ steps_sound steps {} empty_sound
  have named : AllNamed connection.tables := reached ▸ steps_named steps {} empty_named
  have refusal : (Write.createRule id createdAt stamp request).refusal? connection.tables = _ :=
    append_refusal unplaced (rule_absent sound.ruleIds fresh)
  have taken := last_place_taken request.companyId sound named
  obtain ⟨rule, reads, performed⟩ := perform_create_rule id createdAt stamp request connection.tables
  rw [unplaced, Option.getD_none] at reads
  by_cases isBlocked : blocked
  · -- Whichever of the two blocks it, the creation is refused before anything is written.
    obtain ⟨fault, refused⟩ : ∃ fault, (Write.createRule id createdAt stamp request).refusal?
        connection.tables = some (.database fault) := by
      rw [refusal]
      split
      · exact ⟨_, rfl⟩
      · rename_i room
        exact ⟨_, if_pos (isBlocked.resolve_right (taken.not.mp room))⟩
    have failed : call = (.error (.database fault), connection) :=
      connection_perform_refused _ connection _ opened (performed.trans (by rw [refused]; rfl))
    exact ⟨iff_of_true ⟨fault, failed⟩ isBlocked, fun free => absurd isBlocked free⟩
  · obtain ⟨known, room⟩ := not_or.mp isBlocked
    have accepted : (Write.createRule id createdAt stamp request).refusal? connection.tables =
        none := by
      rw [refusal, if_neg (taken.not.mpr room), if_neg known]
    have left : call = (.ok rule, { connection with
        tables := (Write.createRule id createdAt stamp request).applied connection.tables }) := by
      refine (connection_perform_open _ connection opened).trans ?_
      rw [performed, accepted]
      rfl
    rw [left]
    refine ⟨iff_of_false ?_ isBlocked, fun _ => ⟨rule, rfl, ?_⟩⟩
    · rintro ⟨fault, failed⟩
      cases failed
    · have added := created_tables id createdAt stamp request connection.tables
      rw [unplaced, Option.getD_none] at added
      have laterSound := applied_sound sound accepted
      rw [added] at laterSound ⊢
      exact row_appended sound named opened laterSound (create_rule_accepted accepted).1 rfl rfl rfl
        rfl (taken.not.mpr room) reads

section LastPlaces

def unplacedRule : NewRule :=
  ⟨⟨"c1"⟩, ⟨"q1"⟩, "Help", none, .subjectKeyword, .contains, "help", none, none, none, none⟩

def lastPlaceDeleted : List Step := [
  .write (.createQueue ⟨"q1"⟩ newYear newYear ⟨⟨"c1"⟩, "Help", none, false⟩),
  .write (.createRule ⟨"r1"⟩ (newYearAt 1 0) newYear { unplacedRule with sortOrder := some (-4) }),
  .write (.createRule ⟨"r2"⟩ (newYearAt 1 0) newYear { unplacedRule with sortOrder := some 9 }),
  .write (.createRule ⟨"r3"⟩ (newYearAt 1 0) newYear
    { unplacedRule with sortOrder := some Int64.maxValue }),
  .write (.setRuleActive ⟨"r2"⟩ false newYear), .write (.deleteRule ⟨"r3"⟩ newYear)]

def lastPlaceDatabase : Connection :=
  { Connection.inMemory with tables := afterSteps lastPlaceDeleted {} }

theorem rule_behind_inactive :
    let call := lastPlaceDatabase.perform (createRule ⟨"r0"⟩ newYear newYear unplacedRule)
    lastPlaceDatabase.isOpen = true ∧ unplacedRule.sortOrder = none ∧
      lastPlaceDatabase.tables.rule? ⟨"r0"⟩ = .ok none ∧
      ∃ rule, call.1 = .ok rule ∧ rule.sortOrder = 10 ∧
        IsAppended ⟨"c1"⟩ rule lastPlaceDatabase call.2 := by
  intro call
  have fresh : lastPlaceDatabase.tables.rule? ⟨"r0"⟩ = .ok none := by decide +kernel
  have known : lastPlaceDatabase.tables.queue? ⟨"q1"⟩ ≠ none := by decide +kernel
  have room : ¬ ∃ other, lastPlaceDatabase.tables.HasLiveRule ⟨"c1"⟩ other ∧
      other.sortOrder = 9223372036854775807 := by
    rintro ⟨other, holds, last⟩
    have sound : Sound lastPlaceDatabase.tables := steps_sound lastPlaceDeleted {} empty_sound
    obtain ⟨row, member, live, reads⟩ := (live_rule_iff sound other).mp holds
    have before : ∀ row ∈ lastPlaceDatabase.tables.rules, isLiveOf ⟨"c1"⟩ row = true →
        row.sortOrder < 10 := by decide +kernel
    have less := before row member live
    rw [← (read_state reads).2.2.1, last] at less
    exact absurd less (by decide)
  obtain ⟨rule, answered, appended⟩ := (unplaced_rule_appended lastPlaceDatabase lastPlaceDeleted rfl
    rfl ⟨"r0"⟩ newYear newYear unplacedRule rfl fresh).2 (not_or.mpr ⟨known, room⟩)
  have place : call.1.toOption.map (·.sortOrder) = some 10 := by decide +kernel
  rw [answered] at place
  exact ⟨rfl, rfl, fresh, rule, answered, Option.some.inj place, appended⟩

end LastPlaces

end TicketRouting.Store
