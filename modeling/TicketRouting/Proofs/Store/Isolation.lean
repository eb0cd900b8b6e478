import TicketRouting.Proofs.Store.Reading
import TicketRouting.Proofs.Store.Tenancy
/-!
Whose queue a ticket goes to. The default queue is always one of the company. The queue of a rule is
so exactly if the rule was given one of its own company, which the store does not ask for.
-/
namespace TicketRouting.Store

def Tables.queueOwner? (id : QueueId) (tables : Tables) : Option CompanyId :=
  (tables.queue? id).map (·.companyId)

/-- The rule names a queue of its own company. -/
def RuleRow.KeepsToCompany (tables : Tables) (row : RuleRow) : Prop :=
  tables.queueOwner? row.queueId = some row.companyId

def TenantsApart (tables : Tables) : Prop := ∀ row ∈ tables.rules, row.KeepsToCompany tables

/-- The write gives a rule no queue but one of the company of the rule. -/
def Write.NamesOwnQueue (tables : Tables) : Write → Prop
  | createRule _ _ _ request => tables.queueOwner? request.queueId = some request.companyId
  | updateRule id changes _ => ∀ named, changes.queueId = some named →
      ∀ row ∈ tables.rules, row.id = id → tables.queueOwner? named = some row.companyId
  | _ => True

/-- All along a run, the writes that are accepted name own queues only. -/
def KeepsTenants : List Write → Tables → Prop
  | [], _ => True
  | write :: rest, tables =>
    ((write.action.perform tables).1 = .ok () → write.NamesOwnQueue tables) ∧
      KeepsTenants rest (write.action.perform tables).2

section Tenants

variable {write : Write} {tables : Tables}

theorem owner_stays (write : Write) (tables : Tables) (id : QueueId)
    (known : ∃ queue ∈ tables.queues, queue.id = id) :
    (write.applied tables).queueOwner? id = tables.queueOwner? id := by
  have owners : (fun row : Queue => row.companyId) ∘ write.onQueue = fun row => row.companyId := by
    funext row
    simp
  simp only [Tables.queueOwner?, queue_found_after write tables id known, Option.map_map, owners]

theorem changed_rule_keeps_iff (sound : Sound tables) (accepted : write.refusal? tables = none)
    (row : RuleRow) (member : row ∈ tables.rules) :
    (write.onRule tables row).KeepsToCompany (write.applied tables) ↔
      tables.queueOwner? (write.queueNamed row) = some row.companyId := by
  unfold RuleRow.KeepsToCompany
  rw [on_rule_queue accepted sound.ruleIds row member, on_rule_company,
    owner_stays write tables _ (queue_named_known sound accepted row member)]

theorem created_rule_keeps_iff {id : RuleId} {createdAt stamp : Instant} {request : NewRule}
    (accepted : (Write.createRule id createdAt stamp request).refusal? tables = none)
    (order : Int64) :
    (ruleRow id createdAt stamp order request).KeepsToCompany
        ((Write.createRule id createdAt stamp request).applied tables) ↔
      tables.queueOwner? request.queueId = some request.companyId := by
  have known := (create_rule_accepted accepted).2
  unfold RuleRow.KeepsToCompany
  simp only [ruleRow, owner_stays _ tables request.queueId known]

theorem tenants_stay_apart (sound : Sound tables) (apart : TenantsApart tables)
    (accepted : write.refusal? tables = none) (own : write.NamesOwnQueue tables) :
    TenantsApart (write.applied tables) := by
  intro row member
  -- Only a change of a rule that was there, or a new rule, names a queue anew.
  obtain changed | added := List.mem_append.mp member
  · obtain ⟨before, inBefore, rfl⟩ := List.mem_map.mp changed
    rw [changed_rule_keeps_iff sound accepted before inBefore]
    cases write with
    | updateRule id changes stamp =>
      simp only [Write.queueNamed]
      split
      · rename_i hit
        cases named : changes.queueId with
        | some queue => exact own queue named before inBefore (eq_of_beq hit)
        | none => exact apart before inBefore
      · exact apart before inBefore
    | _ => exact apart before inBefore
  · cases write with
    | createRule id createdAt stamp request =>
      obtain rfl := List.mem_singleton.mp added
      exact (created_rule_keeps_iff accepted _).mpr own
    | _ => cases added

theorem named_own_queue (sound : Sound tables) (accepted : write.refusal? tables = none)
    (apart : TenantsApart (write.applied tables)) : write.NamesOwnQueue tables := by
  cases write with
  | createRule id createdAt stamp request =>
    have keeps := apart _ (List.mem_append_right _ (List.mem_singleton_self _))
    exact (created_rule_keeps_iff accepted _).mp keeps
  | updateRule id changes stamp =>
    intro named given row member same
    have keeps := apart _ (List.mem_append_left _ (List.mem_map_of_mem member))
    rw [changed_rule_keeps_iff sound accepted row member] at keeps
    simpa [Write.queueNamed, same, given] using keeps
  | _ => trivial

theorem tenants_apart_step (sound : Sound tables) (apart : TenantsApart tables)
    (accepted : write.refusal? tables = none) :
    TenantsApart (write.applied tables) ↔ write.NamesOwnQueue tables :=
  ⟨named_own_queue sound accepted, tenants_stay_apart sound apart accepted⟩

/-- A whole run: tenants are apart at every moment just if every write that is accepted names own
queues. -/
theorem tenants_apart_throughout (writes : List Write) (tables : Tables) (sound : Sound tables)
    (apart : TenantsApart tables) :
    (∀ done rest, writes = done ++ rest → TenantsApart (replay done tables)) ↔
      KeepsTenants writes tables := by
  induction writes generalizing tables with
  | nil =>
    refine iff_of_true (fun done rest split => ?_) trivial
    obtain ⟨rfl, -⟩ := List.append_eq_nil_iff.mp split.symm
    exact apart
  | cons write rest ih =>
    -- At the first moment nothing is written yet; the others are those of the rest of the run.
    have moments : (∀ done later, write :: rest = done ++ later → TenantsApart (replay done tables)) ↔
        ∀ done later, rest = done ++ later →
          TenantsApart (replay done (write.action.perform tables).2) := by
      constructor
      · intro always done later split
        exact always (write :: done) later (by rw [split]; rfl)
      · intro always done later split
        cases done with
        | nil => exact apart
        | cons first done =>
          obtain ⟨rfl, tail⟩ := List.cons.inj split
          exact always done later tail
    rw [moments, KeepsTenants, accepted_iff, perform_left]
    cases refused : write.refusal? tables with
    | some fault => simpa using ih tables sound apart
    | none =>
      have step := tenants_apart_step sound apart refused
      have laterSound := applied_sound sound refused
      constructor
      · intro always
        have next : TenantsApart (write.applied tables) := always [] rest rfl
        exact ⟨fun _ => step.mp next, (ih _ laterSound next).mp always⟩
      · rintro ⟨own, kept⟩
        exact (ih _ laterSound (step.mpr (own rfl))).mpr kept

end Tenants

section Decisions

variable {matcher : Matcher} {context : RoutingContext}

theorem routed_queue_origin (lookup : Lookup) (result : RoutingResult) (target : QueueRef)
    (decided : route matcher lookup context = .ok result) (routed : result.queue = some target) :
    (∃ rules rule, lookup.listRules context.companyId = .ok rules ∧ rule ∈ rules ∧
      rule.companyId = context.companyId ∧ rule.queue = target ∧
      result.matchedRuleId = some rule.id ∧ result.isDefaultFallback = false) ∨
    ∃ queue, lookup.findDefaultQueue context.companyId = .ok (some queue) ∧
      queue.companyId = context.companyId ∧ queue.id = target.id ∧
      result.isDefaultFallback = true := by
  have answer := decided_route matcher context lookup
  rw [decided] at answer
  -- Of all ways to an answer two lead to a queue.
  generalize listed : lookup.listRules context.companyId = rulesAnswer at answer ⊢
  generalize asked : lookup.findDefaultQueue context.companyId = queueAnswer at answer ⊢
  cases answer with
  | byRule rules rule _ leads =>
    obtain ⟨place, stands, applies, -⟩ := leads
    exact .inl ⟨rules, rule, rfl, List.mem_of_getElem? stands, applies.2.2.1,
      Option.some.inj routed, rfl, rfl⟩
  | byDefault rules queue unmatched own default active kept =>
    refine .inr ⟨queue, rfl, own, ?_, rfl⟩
    exact congrArg QueueRef.id (Option.some.inj routed)
  | unrouted => cases routed

theorem active_rule_row (company : CompanyId) (tables : Tables) (rule : RoutingRule)
    (listed : rule ∈ tables.activeRules company) :
    ∃ row ∈ tables.rules, row.id = rule.id ∧ row.companyId = rule.companyId ∧
      row.queueId = rule.queue.id := by
  obtain ⟨row, member, -, reads⟩ := (rules_where_mem _ rule).mp listed
  obtain ⟨sameId, sameCompany, sameQueue⟩ := read_reference reads
  exact ⟨row, member, sameId.symm, sameCompany.symm, by rw [sameQueue]⟩

end Decisions

section Reached

variable {connection : Connection}

theorem queue_owner (tables : Tables) (sound : Sound tables) (queue : Queue)
    (member : queue ∈ tables.queues) :
    tables.queueOwner? queue.id = some queue.companyId := by
  have found := find_keyed (·.id) tables.queues queue sound.queueIds member
  simp only [Tables.queueOwner?, Tables.queue?, found, Option.map_some]

theorem routed_row (sound : Sound connection.tables) (matcher : Matcher)
    (context : RoutingContext) (result : RoutingResult) (target : QueueRef)
    (decided : route matcher connection.lookup context = .ok result)
    (routed : result.queue = some target) :
    (result.isDefaultFallback = true ∧
      connection.tables.queueOwner? target.id = some context.companyId) ∨
    (result.isDefaultFallback = false ∧ ∃ row ∈ connection.tables.rules,
      result.matchedRuleId = some row.id ∧ row.companyId = context.companyId ∧
        row.queueId = target.id) := by
  obtain matched | fallen := routed_queue_origin connection.lookup result target decided routed
  · obtain ⟨rules, rule, listed, member, own, rfl, named, chosen⟩ := matched
    rw [lookup_rules context.companyId rules listed] at member
    obtain ⟨row, inTable, sameId, sameCompany, sameQueue⟩ :=
      active_rule_row context.companyId connection.tables rule member
    exact .inr ⟨chosen, row, inTable, sameId ▸ named, sameCompany.trans own, sameQueue⟩
  · obtain ⟨queue, asked, own, same, chosen⟩ := fallen
    have found := lookup_default context.companyId (some queue) asked
    have member := (default_queue_row context.companyId connection.tables queue found.symm).1
    refine .inl ⟨chosen, ?_⟩
    rw [← same, queue_owner connection.tables sound queue member, own]

/-- A decision is within the company just if it fell to the default queue, or to a rule that keeps to
its company. -/
theorem routed_within_iff (sound : Sound connection.tables) (matcher : Matcher)
    (context : RoutingContext) (result : RoutingResult) (target : QueueRef)
    (decided : route matcher connection.lookup context = .ok result)
    (routed : result.queue = some target) :
    connection.tables.queueOwner? target.id = some context.companyId ↔
      result.isDefaultFallback = true ∨ ∃ row ∈ connection.tables.rules,
        result.matchedRuleId = some row.id ∧ row.KeepsToCompany connection.tables := by
  obtain ⟨fallback, own⟩ | ⟨chosen, row, inTable, named, own, sameQueue⟩ :=
    routed_row sound matcher context result target decided routed
  · exact iff_of_true own (.inl fallback)
  · have keepsIff : row.KeepsToCompany connection.tables ↔
        connection.tables.queueOwner? target.id = some context.companyId := by
      rw [RuleRow.KeepsToCompany, sameQueue, own]
    rw [← keepsIff]
    constructor
    · intro keeps
      exact .inr ⟨row, inTable, named, keeps⟩
    -- No other row has the identifier of the rule that matched.
    · rintro (fallback | ⟨other, otherInTable, otherNamed, keeps⟩)
      · simp [chosen] at fallback
      · have same := Option.some.inj (otherNamed.symm.trans named)
        rwa [same_rule sound other row otherInTable inTable same] at keeps

theorem routed_within_of_apart (sound : Sound connection.tables)
    (apart : TenantsApart connection.tables) (matcher : Matcher)
    (context : RoutingContext) (result : RoutingResult) (target : QueueRef)
    (decided : route matcher connection.lookup context = .ok result)
    (routed : result.queue = some target) :
    connection.tables.queueOwner? target.id = some context.companyId := by
  rw [routed_within_iff sound matcher context result target decided routed]
  obtain ⟨fallback, -⟩ | ⟨-, row, inTable, named, -, -⟩ :=
    routed_row sound matcher context result target decided routed
  · exact .inl fallback
  · exact .inr ⟨row, inTable, named, apart row inTable⟩

end Reached

/-- Tickets stay within their company just where no rule that decides names a queue of another one: so
it is after a run in which every accepted creation and change of a rule names a queue of the rule's
company, and these are the runs in which the tenants are apart at every moment. -/
theorem routed_queue_own_iff (connection : Connection) (writes : List Write)
    (reached : connection.tables = replay writes {}) :
    (∀ (matcher : Matcher) (context : RoutingContext) (result : RoutingResult)
        (target : QueueRef),
      route matcher connection.lookup context = .ok result → result.queue = some target →
        (connection.tables.queueOwner? target.id = some context.companyId ↔
          result.isDefaultFallback = true ∨ ∃ row ∈ connection.tables.rules,
            result.matchedRuleId = some row.id ∧ row.KeepsToCompany connection.tables)) ∧
    (KeepsTenants writes {} →
      ∀ (matcher : Matcher) (context : RoutingContext) (result : RoutingResult)
        (target : QueueRef),
        route matcher connection.lookup context = .ok result → result.queue = some target →
          connection.tables.queueOwner? target.id = some context.companyId) ∧
    (KeepsTenants writes {} ↔
      ∀ done rest, writes = done ++ rest → TenantsApart (replay done {})) := by
  have sound : Sound connection.tables := reached ▸ replay_sound writes
  have noneYet : TenantsApart {} := fun row member => by cases member
  have throughout := tenants_apart_throughout writes {} empty_sound noneYet
  refine ⟨routed_within_iff sound, ?_, throughout.symm⟩
  intro kept
  have apart := throughout.mpr kept writes [] (List.append_nil writes).symm
  exact routed_within_of_apart sound (reached ▸ apart)

section OneRule

def oneRule (owner : CompanyId) : List Write := [
  .createQueue ⟨"q2"⟩ newYear newYear ⟨owner, "Help", none, false⟩,
  .createRule ⟨"r"⟩ newYear newYear
    ⟨⟨"c1"⟩, ⟨"q2"⟩, "r", none, .subjectKeyword, .contains, "help", none, none, none, none⟩]

def oneRuleDatabase (owner : CompanyId) : Connection :=
  { Connection.inMemory with tables := replay (oneRule owner) {} }

def helpTicket : RoutingContext := { companyId := ⟨"c1"⟩, subject := "help" }

def helpResult : RoutingResult :=
  { queue := some ⟨⟨"q2"⟩, "Help"⟩, matchedRule := some ⟨⟨"r"⟩, "r"⟩ }

theorem help_decision (owner : CompanyId) (known : owner ∈ [⟨"c1"⟩, ⟨"c2"⟩]) :
    route {} (oneRuleDatabase owner).lookup helpTicket = .ok helpResult := by
  have evaluated : ∀ owner ∈ ([⟨"c1"⟩, ⟨"c2"⟩] : List CompanyId),
      (route {} (oneRuleDatabase owner).lookup helpTicket).toOption = some helpResult := by
    decide +kernel
  cases outcome : route {} (oneRuleDatabase owner).lookup helpTicket with
  | error fault => simpa [outcome, Except.toOption] using evaluated owner known
  | ok result => simpa [outcome, Except.toOption] using evaluated owner known

/-- A ticket of one company goes to the queue of another one that the rule was let name. -/
theorem foreign_queue_routed :
    ∃ result target, route {} (oneRuleDatabase ⟨"c2"⟩).lookup helpTicket = .ok result ∧
      result.queue = some target ∧
      (oneRuleDatabase ⟨"c2"⟩).tables.queueOwner? target.id = some ⟨"c2"⟩ ∧
      some ⟨"c2"⟩ ≠ some helpTicket.companyId :=
  ⟨helpResult, _, help_decision ⟨"c2"⟩ (by decide), rfl, by decide +kernel, by decide⟩

theorem own_queue_routed :
    KeepsTenants (oneRule ⟨"c1"⟩) {} ∧
      (oneRuleDatabase ⟨"c1"⟩).tables.queueOwner? ⟨"q2"⟩ = some helpTicket.companyId := by
  have kept : KeepsTenants (oneRule ⟨"c1"⟩) {} := by
    refine ⟨fun _ => trivial, fun _ => ?_, trivial⟩
    simp only [Write.NamesOwnQueue]
    decide +kernel
  obtain ⟨-, within, -⟩ := routed_queue_own_iff (oneRuleDatabase ⟨"c1"⟩) (oneRule ⟨"c1"⟩) rfl
  exact ⟨kept, within kept {} helpTicket helpResult ⟨⟨"q2"⟩, "Help"⟩
    (help_decision ⟨"c1"⟩ (by decide)) rfl⟩

end OneRule

end TicketRouting.Store
