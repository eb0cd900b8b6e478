import TicketRouting.Proofs.Store.History
/-!
A write that fails changes nothing, wherever it fails: not even the rows that it had changed before.
-/
namespace TicketRouting.Store

section Failures

theorem connection_perform_refused {α : Type} (action : Action α) (connection : Connection)
    (fault : RoutingError) (opened : connection.isOpen = true)
    (refused : action.perform connection.tables = (.error fault, connection.tables)) :
    connection.perform action = (.error fault, connection) := by
  rw [connection_perform_open action connection opened, refused]

theorem failed_leaves_tables (write : Write) (tables : Tables) (fault : RoutingError)
    (failed : (write.action.perform tables).1 = .error fault) :
    (write.action.perform tables).2 = tables := by
  rw [perform_action, Write.outcome] at failed ⊢
  cases refused : write.refusal? tables with
  | some reason => rfl
  | none =>
    rw [refused] at failed
    cases failed

theorem failed_leaves_connection (write : Write) (connection : Connection) (fault : RoutingError)
    (failed : (connection.perform write.action).1 = .error fault) :
    (connection.perform write.action).2 = connection := by
  cases opened : connection.isOpen with
  | false => rw [connection_perform_closed _ connection opened]
  | true =>
    rw [connection_perform_open _ connection opened] at failed ⊢
    rw [failed_leaves_tables write connection.tables fault failed]

end Failures

section Refusals

variable (tables : Tables)

/-- The marks that were taken away before the target was looked for are there again. -/
theorem set_default_missing (company : CompanyId) (id : QueueId) (stamp : Instant)
    (missing : ∀ row ∈ tables.queues, isLiveQueueOf company id row = false) :
    (setDefaultQueue company id stamp).perform tables =
      (.error (.notFound ("queue " ++ id.text ++ " for company " ++ company.text)), tables) := by
  have absent : tables.queues.any (isLiveQueueOf company id) = false := by
    rw [List.any_eq_false]
    intro row member
    simp [missing row member]
  rw [perform_set_default_queue]
  apply settled_refused
  simp [Write.refusal?, absent, Write.refuseUnless]

/-- The first identifier that is no rule of the company is named, and the rules before it have their
old places again. -/
theorem reorder_missing (company : CompanyId) (done : List RuleId) (id : RuleId)
    (rest : List RuleId) (stamp : Instant)
    (live : ∀ other ∈ done, ∃ row ∈ tables.rules, isLiveRuleOf company other row = true)
    (missing : ∀ row ∈ tables.rules, isLiveRuleOf company id row = false) :
    (reorderRules company (done ++ id :: rest) stamp).perform tables =
      (.error (.notFound ("routing rule " ++ id.text ++ " for company " ++ company.text)),
        tables) := by
  have passed : done.find? (fun other => !tables.rules.any (isLiveRuleOf company other)) = none := by
    rw [List.find?_eq_none]
    intro other member
    simpa using live other member
  have absent : tables.rules.any (isLiveRuleOf company id) = false := by
    rw [List.any_eq_false]
    intro row member
    simp [missing row member]
  rw [perform_reorder_rules]
  apply settled_refused
  simp only [Write.refusal?, List.find?_append, passed, Option.none_or]
  rw [List.find?_cons_of_pos (by simp [absent])]
  rfl

theorem refused_write (write : Write) (refused : write.refusal? tables ≠ none) :
    ∃ fault, write.action.perform tables = (.error fault, tables) := by
  obtain ⟨fault, reason⟩ := Option.ne_none_iff_exists'.mp refused
  exact ⟨fault, (perform_action write tables).trans (settled_refused _ _ _ _ fault reason)⟩

-- Leaving out what an action gives back does not make it fail.
theorem refused_before_discard {α : Type} (action : Action α) (fault : RoutingError)
    (changed : Tables)
    (failed : (do let _ ← action : Action Unit).perform tables = (.error fault, changed)) :
    action.perform tables = (.error fault, changed) := by
  rw [Action.perform_bind] at failed
  cases performed : action.perform tables with
  | mk answer left =>
    rw [performed] at failed
    cases answer with
    | ok value => cases failed
    | error reason => simpa using failed

theorem create_rule_unknown_queue (id : RuleId) (createdAt stamp : Instant) (request : NewRule)
    (unknown : ∀ row ∈ tables.queues, row.id ≠ request.queueId) :
    ∃ fault, (createRule id createdAt stamp request).perform tables = (.error fault, tables) := by
  have refused : (Write.createRule id createdAt stamp request).refusal? tables ≠ none := by
    intro accepted
    obtain ⟨queue, member, same⟩ := (create_rule_accepted accepted).2
    exact unknown queue member same
  obtain ⟨fault, failed⟩ := refused_write tables _ refused
  exact ⟨fault, refused_before_discard tables _ fault tables failed⟩

theorem update_rule_unknown_queue (id : RuleId) (changes : RuleChanges) (stamp : Instant)
    (named : QueueId) (given : changes.queueId = some named)
    (unknown : ∀ row ∈ tables.queues, row.id ≠ named) :
    ∃ fault, (updateRule id changes stamp).perform tables = (.error fault, tables) := by
  have refused : (Write.updateRule id changes stamp).refusal? tables ≠ none := by
    intro accepted
    obtain ⟨row, rule, -, -, -, queue, member, same⟩ := update_rule_accepted accepted
    rw [given] at same
    exact unknown queue member same
  obtain ⟨fault, failed⟩ := refused_write tables _ refused
  exact ⟨fault, refused_before_discard tables _ fault tables failed⟩

end Refusals

/-- All or nothing: a write that fails leaves the whole database as it was. So it is where the mark of
the old default was taken away before its successor was found missing, where rules were numbered
before one that is none of the company's, and where a rule would name a queue that is not there. -/
theorem failed_write_changes_nothing (connection : Connection) :
    (∀ (write : Write) (fault : RoutingError),
      (connection.perform write.action).1 = .error fault →
        (connection.perform write.action).2 = connection) ∧
    (connection.isOpen = true →
      (∀ (company : CompanyId) (id : QueueId) (stamp : Instant),
        (∀ row ∈ connection.tables.queues, isLiveQueueOf company id row = false) →
          connection.perform (setDefaultQueue company id stamp) =
            (.error (.notFound ("queue " ++ id.text ++ " for company " ++ company.text)),
              connection)) ∧
      (∀ (company : CompanyId) (done : List RuleId) (id : RuleId) (rest : List RuleId)
          (stamp : Instant),
        (∀ other ∈ done, ∃ row ∈ connection.tables.rules, isLiveRuleOf company other row = true) →
        (∀ row ∈ connection.tables.rules, isLiveRuleOf company id row = false) →
          connection.perform (reorderRules company (done ++ id :: rest) stamp) =
            (.error (.notFound ("routing rule " ++ id.text ++ " for company " ++ company.text)),
              connection)) ∧
      (∀ (id : RuleId) (createdAt stamp : Instant) (request : NewRule),
        (∀ row ∈ connection.tables.queues, row.id ≠ request.queueId) →
          ∃ fault, connection.perform (createRule id createdAt stamp request) =
            (.error fault, connection)) ∧
      (∀ (id : RuleId) (changes : RuleChanges) (stamp : Instant) (named : QueueId),
        changes.queueId = some named → (∀ row ∈ connection.tables.queues, row.id ≠ named) →
          ∃ fault, connection.perform (updateRule id changes stamp) =
            (.error fault, connection))) := by
  refine ⟨fun write fault => failed_leaves_connection write connection fault, fun opened => ?_⟩
  refine ⟨?set_default, ?reorder, ?create, ?update⟩
  case set_default =>
    intro company id stamp missing
    exact connection_perform_refused _ connection _ opened
      (set_default_missing connection.tables company id stamp missing)
  case reorder =>
    intro company done id rest stamp live missing
    exact connection_perform_refused _ connection _ opened
      (reorder_missing connection.tables company done id rest stamp live missing)
  case create =>
    intro id createdAt stamp request unknown
    obtain ⟨fault, refused⟩ :=
      create_rule_unknown_queue connection.tables id createdAt stamp request unknown
    exact ⟨fault, connection_perform_refused _ connection fault opened refused⟩
  case update =>
    intro id changes stamp named given unknown
    obtain ⟨fault, refused⟩ :=
      update_rule_unknown_queue connection.tables id changes stamp named given unknown
    exact ⟨fault, connection_perform_refused _ connection fault opened refused⟩

theorem failed_writes_of_two_rules :
    let company : CompanyId := ⟨"c1"⟩
    let tables : Tables := replay [
      .createQueue ⟨"q1"⟩ newYear newYear ⟨company, "Help", none, true⟩,
      .createRule ⟨"r1"⟩ newYear newYear
        ⟨company, ⟨"q1"⟩, "One", none, .subjectKeyword, .contains, "a", none, none, none, none⟩,
      .createRule ⟨"r2"⟩ newYear newYear
        ⟨company, ⟨"q1"⟩, "Two", none, .subjectKeyword, .contains, "b", none, none, none, none⟩] {}
    let database : Connection := { Connection.inMemory with tables := tables }
    (database.perform (Write.deleteQueue ⟨"q2"⟩ newYear).action).2 = database ∧
    database.perform (setDefaultQueue company ⟨"q2"⟩ newYear) =
      (.error (.notFound "queue q2 for company c1"), database) ∧
    database.perform (reorderRules company [⟨"r2"⟩, ⟨"r1"⟩, ⟨"r3"⟩, ⟨"r1"⟩] newYear) =
      (.error (.notFound "routing rule r3 for company c1"), database) ∧
    (∃ fault, database.perform (createRule ⟨"r3"⟩ newYear newYear
        ⟨company, ⟨"q2"⟩, "Three", none, .subjectKeyword, .contains, "c", none, none, none, none⟩) =
      (.error fault, database)) ∧
    ∃ fault, database.perform (updateRule ⟨"r1"⟩ { queueId := some ⟨"q2"⟩ } newYear) =
      (.error fault, database) := by
  intro company tables database
  obtain ⟨unchanged, refused⟩ := failed_write_changes_nothing database
  obtain ⟨unmarked, unordered, uncreated, unwritten⟩ := refused rfl
  have refusal : (Write.deleteQueue ⟨"q2"⟩ newYear).refusal? tables =
      some (.notFound "queue q2") := by decide +kernel
  have failed : (database.perform (Write.deleteQueue ⟨"q2"⟩ newYear).action).1 =
      .error (.notFound "queue q2") := by
    rw [connection_perform_open _ database rfl, perform_action, Write.outcome,
      settled_refused _ _ _ _ _ refusal]
  refine ⟨unchanged (.deleteQueue ⟨"q2"⟩ newYear) (.notFound "queue q2") failed,
    unmarked company ⟨"q2"⟩ newYear (by decide +kernel),
    unordered company [⟨"r2"⟩, ⟨"r1"⟩] ⟨"r3"⟩ [⟨"r1"⟩] newYear (by decide +kernel)
      (by decide +kernel),
    uncreated ⟨"r3"⟩ newYear newYear _ (by decide +kernel),
    unwritten ⟨"r1"⟩ _ newYear ⟨"q2"⟩ rfl (by decide +kernel)⟩

end TicketRouting.Store
