import TicketRouting.Proofs.Store.Footprint
/-!
The queues of rules. A rule is shown with the name of its queue, which is not in its row: it is looked up
by the identifier that the row has, and would be empty if there were no such queue. There always is one,
and it is called as it was when it was created, whatever has become of it.
-/
namespace TicketRouting.Store

def CreatesQueue (id : QueueId) (name : String) : List Step → Tables → Prop
  | [], _ => False
  | step :: rest, tables =>
    (∃ createdAt stamp request, request.name = name ∧
      step = .write (.createQueue id createdAt stamp request) ∧
      ((Write.createQueue id createdAt stamp request).action.perform tables).1 = .ok ()) ∨
    CreatesQueue id name rest (step.after tables)

/-- The row names the queue and no other one, and the queue was created under the name that it has. -/
structure RefersTo (steps : List Step) (tables : Tables) (row : RuleRow) (queue : Queue) : Prop where
  sole : tables.queues.filter (·.id == row.queueId) = [queue]
  created : CreatesQueue queue.id queue.name steps {}

structure Grown (steps : List Step) (tables : Tables) : Prop extends Sound tables where
  created : ∀ queue ∈ tables.queues, CreatesQueue queue.id queue.name steps {}

/-- What is shown as the queue of the rule is the queue that its row names, under the name that this
queue was created with. -/
def NamesQueue (steps : List Step) (tables : Tables) (id : RuleId) (shown : Option QueueRef) : Prop :=
  ∃ row queue, tables.rules.filter (·.id == id) = [row] ∧ RefersTo steps tables row queue ∧
    shown = some queue.toRef

/-- The ways to ask a database for rules. Each answers with a rule and what it shows as its queue. -/
inductive Tells (connection : Connection) : RuleId → Option QueueRef → Prop where
  | asked (id : RuleId) (rule : RoutingRule)
    (answer : connection.query (Tables.rule? id) = .ok (some rule)) :
    Tells connection id (some rule.queue)
  | tried (company : CompanyId) (rules : List RoutingRule) (rule : RoutingRule)
    (answer : connection.lookup.listRules company = .ok rules) (listed : rule ∈ rules) :
    Tells connection rule.id (some rule.queue)
  | listed (company : CompanyId) (rules : List RoutingRule) (rule : RoutingRule)
    (answer : connection.query (fun tables => .ok (tables.companyRules company)) = .ok rules)
    (listed : rule ∈ rules) : Tells connection rule.id (some rule.queue)
  | decided (matcher : Matcher) (context : RoutingContext) (result : RoutingResult) (id : RuleId)
    (answer : route matcher connection.lookup context = .ok result)
    (matched : result.matchedRuleId = some id) : Tells connection id result.queue

section Creations

theorem queue_before_step (step : Step) (tables : Tables) (queue : Queue)
    (member : queue ∈ (step.after tables).queues) :
    (∃ before ∈ tables.queues, before.id = queue.id ∧ before.name = queue.name) ∨
      CreatesQueue queue.id queue.name [step] tables := by
  cases step with
  | pass now stamp poll =>
    rw [Step.after, tables_pass_left] at member
    exact .inl ⟨queue, member, rfl, rfl⟩
  | write write =>
    rw [Step.after, perform_left] at member
    cases refused : write.refusal? tables with
    | some fault =>
      rw [refused] at member
      exact .inl ⟨queue, member, rfl, rfl⟩
    | none =>
      rw [refused] at member
      obtain changed | added := List.mem_append.mp member
      · obtain ⟨before, inTable, rfl⟩ := List.mem_map.mp changed
        exact .inl ⟨before, inTable, (on_queue_id write before).symm, (on_queue_name write before).symm⟩
      · cases write with
        | createQueue id createdAt stamp request =>
          obtain rfl := List.mem_singleton.mp added
          exact .inr (.inl ⟨createdAt, stamp, request, rfl, rfl, (accepted_iff _ tables).mpr refused⟩)
        | _ => cases added

/-- A whole run: queues are never renamed, and none comes from anywhere but a creation. -/
theorem queue_before_steps (steps : List Step) (tables : Tables) (queue : Queue)
    (member : queue ∈ (afterSteps steps tables).queues) :
    (∃ before ∈ tables.queues, before.id = queue.id ∧ before.name = queue.name) ∨
      CreatesQueue queue.id queue.name steps tables := by
  induction steps generalizing tables with
  | nil => exact .inl ⟨queue, member, rfl, rfl⟩
  | cons step rest ih =>
    obtain ⟨middle, inMiddle, sameId, sameName⟩ | later := ih (step.after tables) member
    · rw [← sameId, ← sameName]
      obtain before | (now | never) := queue_before_step step tables middle inMiddle
      · exact .inl before
      · exact .inr (.inl now)
      · exact never.elim
    · exact .inr (.inr later)

theorem steps_grown (steps : List Step) : Grown steps (afterSteps steps {}) where
  toSound := steps_sound steps {} empty_sound
  created := by
    intro queue member
    obtain ⟨before, inTable, -⟩ | created := queue_before_steps steps {} queue member
    · cases inTable
    · exact created

end Creations

section Names
variable {steps : List Step} {tables : Tables}

theorem row_refers (grown : Grown steps tables) {row : RuleRow} (member : row ∈ tables.rules) :
    ∃ queue, RefersTo steps tables row queue := by
  obtain ⟨queue, inTable, same⟩ := grown.queueKnown row member
  have sole := only_keyed Queue.id tables.queues queue grown.queueIds inTable
  rw [same] at sole
  exact ⟨queue, sole, grown.created queue inTable⟩

theorem refers_found {row : RuleRow} {queue : Queue} (refers : RefersTo steps tables row queue) :
    tables.queue? row.queueId = some queue ∧ queue.id = row.queueId := by
  have found : tables.queues.find? (·.id == row.queueId) = some queue := by
    rw [← List.head?_filter, refers.sole]
    rfl
  exact ⟨found, by simpa using List.find?_some found⟩

theorem read_names_queue (grown : Grown steps tables) {row : RuleRow} {rule : RoutingRule}
    (member : row ∈ tables.rules) (reads : tables.readRule row = .ok rule) :
    NamesQueue steps tables rule.id (some rule.queue) := by
  obtain ⟨queue, refers⟩ := row_refers grown member
  obtain ⟨sameId, -, shown⟩ := read_reference reads
  have sole := only_keyed RuleRow.id tables.rules row grown.ruleIds member
  obtain ⟨found, sameQueue⟩ := refers_found refers
  refine ⟨row, queue, sameId ▸ sole, refers, ?_⟩
  rw [shown, Tables.queueName, found, ← sameQueue]
  rfl

theorem known_names_queue (grown : Grown steps tables) {id : RuleId} {rule : RoutingRule}
    (known : tables.rule? id = .ok (some rule)) :
    NamesQueue steps tables id (some rule.queue) := by
  obtain ⟨row, member, rfl, reads⟩ := (rule_read_iff grown.toSound id rule).mp known
  exact (read_reference reads).1 ▸ read_names_queue grown member reads

end Names

section Answers
variable {connection : Connection} {steps : List Step}

theorem query_answer {α : Type} {read : Tables → Except RoutingError α} {answer : α}
    (answered : connection.query read = .ok answer) : read connection.tables = .ok answer := by
  unfold Connection.query at answered
  split at answered
  · exact answered
  · cases answered

theorem decided_by_listed {matcher : Matcher} {lookup : Lookup} {context : RoutingContext}
    {result : RoutingResult} {id : RuleId} (decided : route matcher lookup context = .ok result)
    (matched : result.matchedRuleId = some id) :
    ∃ rules rule, lookup.listRules context.companyId = .ok rules ∧ rule ∈ rules ∧ rule.id = id ∧
      result.queue = some rule.queue := by
  have answer := decided_route matcher context lookup
  rw [decided] at answer
  generalize listed : lookup.listRules context.companyId = rulesAnswer at answer ⊢
  generalize lookup.findDefaultQueue context.companyId = queueAnswer at answer
  cases answer with
  | byRule rules rule _ leads =>
    obtain ⟨place, stands, -⟩ := leads
    exact ⟨rules, rule, rfl, List.mem_of_getElem? stands, Option.some.inj matched, rfl⟩
  | byDefault | unrouted => cases matched

theorem told_names_queue (grown : Grown steps connection.tables) {id : RuleId}
    {shown : Option QueueRef} (tells : Tells connection id shown) :
    NamesQueue steps connection.tables id shown := by
  have listed_names {selected : RuleRow → Bool} {rule : RoutingRule}
      (listed : rule ∈ connection.tables.rulesWhere selected) :
      NamesQueue steps connection.tables rule.id (some rule.queue) := by
    obtain ⟨row, member, -, reads⟩ := (rules_where_mem selected rule).mp listed
    exact read_names_queue grown member reads
  cases tells with
  | asked id rule answer => exact known_names_queue grown (query_answer answer)
  | tried company rules rule answer listed =>
    rw [lookup_rules company rules answer] at listed
    exact listed_names listed
  | listed company rules rule answer listed =>
    have answered := query_answer answer
    obtain rfl := Except.ok.inj answered
    exact listed_names listed
  | decided matcher context result id answer matched =>
    obtain ⟨rules, rule, listed, member, rfl, shown⟩ := decided_by_listed answer matched
    rw [lookup_rules context.companyId rules listed] at member
    exact shown ▸ listed_names member

theorem created_names_queue (grown : Grown steps connection.tables)
    {id : RuleId} {createdAt stamp : Instant} {request : NewRule} {rule : RoutingRule}
    (answered : (connection.perform (createRule id createdAt stamp request)).1 = .ok rule) :
    rule.queue.id = request.queueId ∧ NamesQueue steps
      (connection.perform (createRule id createdAt stamp request)).2.tables id (some rule.queue) := by
  cases opened : connection.isOpen with
  | false => simp [connection_perform_closed _ connection opened] at answered
  | true =>
    rw [connection_perform_open _ connection opened] at answered ⊢
    obtain ⟨read, -, performed⟩ := perform_create_rule id createdAt stamp request connection.tables
    obtain ⟨accepted, -⟩ := settled_ok (performed.symm.trans (Prod.ext answered rfl))
    obtain ⟨performed, shows⟩ :
        ReadsBack connection.tables _ (.createRule id createdAt stamp request) :=
      created_reads_back grown.toSound accepted
    rw [performed] at answered ⊢
    obtain rfl := Except.ok.inj answered
    have later := applied_sound grown.toSound accepted
    rw [created_tables] at later shows ⊢
    exact ⟨rfl, known_names_queue ⟨later, grown.created⟩ shows.known⟩

theorem updated_names_queue (grown : Grown steps connection.tables)
    {id : RuleId} {changes : RuleChanges} {stamp : Instant} {rule : RoutingRule}
    (answered : (connection.perform (updateRule id changes stamp)).1 = .ok rule) :
    (∀ queueId, changes.queueId = some queueId → rule.queue.id = queueId) ∧ NamesQueue steps
      (connection.perform (updateRule id changes stamp)).2.tables id (some rule.queue) := by
  cases opened : connection.isOpen with
  | false => simp [connection_perform_closed _ connection opened] at answered
  | true =>
    obtain ⟨old, known, live, accepted, performed⟩ :=
      update_answered connection grown.toSound opened answered
    rw [performed] at answered ⊢
    obtain rfl := Except.ok.inj answered
    have sameId : old.id = id := by
      obtain ⟨row, -, rfl, reads⟩ := known_row known
      exact (read_reference reads).1
    have later := applied_sound grown.toSound accepted
    have shows := update_shows grown.toSound known live accepted
    rw [updated_tables known] at later shows ⊢
    refine ⟨fun queueId given => ?_,
      sameId ▸ known_names_queue ⟨later, grown.created⟩ shows.known⟩
    exact (apply_queue changes old).trans (by rw [given]; rfl)

end Answers

/-- Every row of a rule, deleted or not, names one queue. Wherever the rule is shown, in an answer to a
creation or a change too, it is shown with this queue, under the name that the queue was created with. -/
theorem rules_name_their_queues (connection : Connection) (steps : List Step)
    (reached : connection.tables = afterSteps steps {}) :
    (∀ row ∈ connection.tables.rules, ∃ queue, RefersTo steps connection.tables row queue) ∧
    (connection.isOpen = true → ∀ row ∈ connection.tables.rules,
      ∃ rule, connection.query (Tables.rule? row.id) = .ok (some rule)) ∧
    (∀ id shown, Tells connection id shown → NamesQueue steps connection.tables id shown) ∧
    (∀ id createdAt stamp request rule,
      let call := connection.perform (createRule id createdAt stamp request)
      call.1 = .ok rule → rule.queue.id = request.queueId ∧
        NamesQueue steps call.2.tables id (some rule.queue)) ∧
    ∀ id changes stamp rule,
      let call := connection.perform (updateRule id changes stamp)
      call.1 = .ok rule → (∀ queueId, changes.queueId = some queueId → rule.queue.id = queueId) ∧
        NamesQueue steps call.2.tables id (some rule.queue) := by
  have grown : Grown steps connection.tables := reached ▸ steps_grown steps
  have named : AllNamed connection.tables := reached ▸ steps_named steps {} empty_named
  refine ⟨fun _ => row_refers grown, ?readable, fun _ _ => told_names_queue grown,
    fun _ _ _ _ _ => created_names_queue grown, fun _ _ _ _ => updated_names_queue grown⟩
  case readable =>
    intro opened row member
    obtain ⟨rule, reads⟩ := named_reads row (named row member) connection.tables
    refine ⟨rule, ?_⟩
    rw [Connection.query, if_pos opened, rule_of_row grown.ruleIds member, reads]
    rfl

section LostQueues

def lostQueues : List Step := describedRule ++ [
  .write (.createQueue ⟨"q3"⟩ newYear newYear ⟨⟨"c2"⟩, "", none, false⟩),
  .write (.setQueueActive ⟨"q1"⟩ false newYear),
  .write (.deleteQueue ⟨"q2"⟩ newYear)]

def lostDatabase : Connection := { Connection.inMemory with tables := afterSteps lostQueues {} }

theorem rule_moved_to_lost_queues :
    let asked := lostDatabase.query (Tables.rule? ⟨"r"⟩)
    let move (queue : QueueId) :=
      lostDatabase.perform (updateRule ⟨"r"⟩ { queueId := some queue } newYear)
    lostDatabase.isOpen = true ∧
      asked.toOption.join.map (·.queue) = some ⟨⟨"q1"⟩, "Help"⟩ ∧
      (∃ rule, asked = .ok (some rule) ∧
        NamesQueue lostQueues lostDatabase.tables ⟨"r"⟩ (some rule.queue)) ∧
      (∃ rule, (move ⟨"q2"⟩).1 = .ok rule ∧ rule.queue = ⟨⟨"q2"⟩, "Bills"⟩ ∧
        NamesQueue lostQueues (move ⟨"q2"⟩).2.tables ⟨"r"⟩ (some rule.queue)) ∧
      ∃ rule, (move ⟨"q3"⟩).1 = .ok rule ∧ rule.queue = ⟨⟨"q3"⟩, ""⟩ ∧
        NamesQueue lostQueues (move ⟨"q3"⟩).2.tables ⟨"r"⟩ (some rule.queue) := by
  -- The calls are written out, so that nothing has to be computed to see that they are the same.
  dsimp only
  obtain ⟨-, readable, told, -, updated⟩ := rules_name_their_queues lostDatabase lostQueues rfl
  have moved (queue : QueueId) (name : String)
      (shown : (lostDatabase.perform (updateRule ⟨"r"⟩ { queueId := some queue }
        newYear)).1.toOption.map (·.queue) = some ⟨queue, name⟩) :
      ∃ rule, (lostDatabase.perform (updateRule ⟨"r"⟩ { queueId := some queue } newYear)).1 =
        .ok rule ∧ rule.queue = ⟨queue, name⟩ ∧ NamesQueue lostQueues
          (lostDatabase.perform (updateRule ⟨"r"⟩ { queueId := some queue } newYear)).2.tables
          ⟨"r"⟩ (some rule.queue) := by
    cases answered : (lostDatabase.perform (updateRule ⟨"r"⟩ { queueId := some queue }
        newYear)).1 with
    | error fault => simp [answered, Except.toOption] at shown
    | ok rule =>
      have named := updated ⟨"r"⟩ { queueId := some queue } newYear rule answered
      exact ⟨rule, rfl, by simpa [answered, Except.toOption] using shown, named.2⟩
  obtain ⟨rule, answer⟩ := readable rfl
    (ruleRow ⟨"r"⟩ newYear newYear 1 ⟨⟨"c1"⟩, ⟨"q1"⟩, "help", some "All of it", .subjectKeyword,
      .contains, "help", none, none, some .high, none⟩) (by decide +kernel)
  exact ⟨rfl, by decide +kernel, ⟨rule, answer, told _ _ (.asked _ rule answer)⟩,
    moved ⟨"q2"⟩ "Bills" (by decide +kernel), moved ⟨"q3"⟩ "" (by decide +kernel)⟩

end LostQueues

end TicketRouting.Store
