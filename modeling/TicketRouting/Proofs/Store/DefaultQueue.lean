import Mathlib.Data.List.Nodup
import TicketRouting.Proofs.Store.History
/-!
The default queue of a company is decided by what was written. No two queues of a company carry the
mark of the default, whatever state they are in, and the mark is where it was last put: it is not
moved by what becomes of the queue that carries it.
-/
namespace TicketRouting.Store

def Write.madeDefault? (company : CompanyId) : Write → Option QueueId
  | createQueue id _ _ request =>
    if request.companyId = company ∧ request.isDefault = true then some id else none
  | setDefaultQueue other id _ => if other = company then some id else none
  | _ => none

def nextDefault? (company : CompanyId) (write : Write) (tables : Tables) (last : Option QueueId) :
    Option QueueId :=
  match (write.action.perform tables).1 with
  | .ok () => (write.madeDefault? company).or last
  | .error _ => last

/-- The queue that was made the default one of the company by the last write that succeeded in
making one; `last` is the one before the run. -/
def lastDefault? (company : CompanyId) : List Write → Tables → Option QueueId → Option QueueId
  | [], _, last => last
  | write :: rest, tables, last =>
    lastDefault? company rest (write.action.perform tables).2 (nextDefault? company write tables last)

/-- The mark of a company is on the queue named for it, and on no other. -/
structure Marks (last : CompanyId → Option QueueId) (tables : Tables) : Prop where
  marked : ∀ row ∈ tables.queues, row.isDefault = true ↔ last row.companyId = some row.id
  known : ∀ company id, last company = some id →
    ∃ row ∈ tables.queues, row.id = id ∧ row.companyId = company

section Step
variable {write : Write} {tables : Tables}

theorem clear_mark_own (stamp : Instant) (row : Queue) :
    (clearMark row.companyId stamp row).isDefault = false := by
  unfold clearMark
  split
  · rfl
  · rename_i unmarked
    simpa using unmarked

theorem set_default_accepted {company : CompanyId} {id : QueueId} {stamp : Instant}
    (accepted : (Write.setDefaultQueue company id stamp).refusal? tables = none) :
    ∃ row ∈ tables.queues, row.id = id ∧ row.companyId = company ∧ row.isDeleted = false := by
  simpa [Write.refusal?, isLiveQueueOf, and_assoc] using accepted

theorem on_queue_marked (sound : Sound tables) (accepted : write.refusal? tables = none)
    (row : Queue) (member : row ∈ tables.queues) :
    (write.onQueue row).isDefault = true ↔
      match write.madeDefault? row.companyId with
      | some id => row.id = id
      | none => row.isDefault = true := by
  cases write with
  | createQueue id createdAt stamp request =>
    have fresh : row.id ≠ id := by
      rintro rfl
      have absent : ∀ other ∈ tables.queues, other.id ≠ row.id := by
        simpa [Write.refusal?] using accepted
      exact absent row member rfl
    by_cases marks : request.isDefault = true
    · by_cases own : request.companyId = row.companyId
      · simp [Write.onQueue, Write.madeDefault?, marks, own, clear_mark_own, fresh]
      · have elsewhere : row.companyId ≠ request.companyId := fun same => own same.symm
        simp [Write.onQueue, Write.madeDefault?, marks, own, clearMark, elsewhere]
    · simp [Write.onQueue, Write.madeDefault?, marks]
  | setDefaultQueue company id stamp =>
    by_cases own : company = row.companyId
    · subst own
      by_cases target : row.id = id
      · -- No other queue has the identifier, so this one is the target that is not deleted.
        obtain ⟨other, inTable, sameId, -, live⟩ := set_default_accepted accepted
        obtain rfl := same_queue sound other row inTable member (sameId.trans target.symm)
        simp [Write.onQueue, Write.madeDefault?, isLiveQueueOf, target, live]
      · simp [Write.onQueue, Write.madeDefault?, isLiveQueueOf, target, clear_mark_own]
    · have elsewhere : row.companyId ≠ company := fun same => own same.symm
      simp [Write.onQueue, Write.madeDefault?, own, isLiveQueueOf, clearMark, elsewhere]
  | setQueueActive | deleteQueue =>
    simp only [Write.onQueue, Write.madeDefault?]
    split <;> rfl
  | _ => rfl

theorem made_default_known (accepted : write.refusal? tables = none) (company : CompanyId)
    (id : QueueId) (made : write.madeDefault? company = some id) :
    ∃ row ∈ (write.applied tables).queues, row.id = id ∧ row.companyId = company := by
  cases write with
  | createQueue other createdAt stamp request =>
    simp only [Write.madeDefault?, Option.ite_none_right_eq_some, Option.some.injEq] at made
    obtain ⟨⟨own, -⟩, rfl⟩ := made
    exact ⟨queueRow other createdAt stamp request,
      List.mem_append_right _ (List.mem_singleton_self _), rfl, own⟩
  | setDefaultQueue other target stamp =>
    simp only [Write.madeDefault?, Option.ite_none_right_eq_some, Option.some.injEq] at made
    obtain ⟨rfl, rfl⟩ := made
    obtain ⟨row, member, same, own, -⟩ := set_default_accepted accepted
    exact ⟨_, List.mem_append_left _ (List.mem_map_of_mem member), by simp [same], by simp [own]⟩
  | _ => cases made

variable {last : CompanyId → Option QueueId}

theorem marks_step (sound : Sound tables) (marks : Marks last tables)
    (accepted : write.refusal? tables = none) :
    Marks (fun company => (write.madeDefault? company).or (last company))
      (write.applied tables) where
  marked := by
    intro row member
    obtain changed | added := List.mem_append.mp member
    · obtain ⟨before, inBefore, rfl⟩ := List.mem_map.mp changed
      rw [on_queue_marked sound accepted before inBefore, on_queue_company, on_queue_id]
      cases made : write.madeDefault? before.companyId with
      | some id => simp [eq_comm]
      | none => simpa using marks.marked before inBefore
    · cases write with
      | createQueue id createdAt stamp request =>
        obtain rfl := List.mem_singleton.mp added
        -- The company cannot have had its mark on a queue that is only created now.
        have fresh : last request.companyId ≠ some id := by
          intro held
          obtain ⟨other, inTable, sameId, -⟩ := marks.known _ _ held
          have absent : ∀ other ∈ tables.queues, other.id ≠ id := by
            simpa [Write.refusal?] using accepted
          exact absent other inTable sameId
        cases marked : request.isDefault <;> simp [queueRow, Write.madeDefault?, marked, fresh]
      | _ => cases added
  known := by
    intro company id named
    cases made : write.madeDefault? company with
    | some other =>
      rw [made, Option.some_or, Option.some.injEq] at named
      exact made_default_known accepted company id (named ▸ made)
    | none =>
      rw [made, Option.none_or] at named
      obtain ⟨row, member, sameId, own⟩ := marks.known company id named
      exact ⟨_, List.mem_append_left _ (List.mem_map_of_mem member), by simp [sameId],
        by simp [own]⟩

end Step

section Run

theorem marks_run (writes : List Write) (tables : Tables) (last : CompanyId → Option QueueId)
    (sound : Sound tables) (marks : Marks last tables) :
    Marks (fun company => lastDefault? company writes tables (last company))
      (replay writes tables) := by
  induction writes generalizing tables last with
  | nil => exact marks
  | cons write rest ih =>
    refine ih _ (fun company => nextDefault? company write tables (last company)) ?_ ?_
    · rw [perform_left]
      cases refused : write.refusal? tables with
      | some fault => exact sound
      | none => exact applied_sound sound refused
    · unfold nextDefault?
      rw [perform_action, Write.outcome]
      cases refused : write.refusal? tables with
      | some fault => exact marks
      | none => exact marks_step sound marks refused

theorem empty_marks : Marks (fun _ => none) {} := ⟨by simp, by simp⟩

theorem replay_marks (writes : List Write) :
    Marks (fun company => lastDefault? company writes {} none) (replay writes {}) :=
  marks_run writes {} (fun _ => none) empty_sound empty_marks

theorem last_default_append (company : CompanyId) (first second : List Write) (tables : Tables)
    (last : Option QueueId) :
    lastDefault? company (first ++ second) tables last =
      lastDefault? company second (replay first tables) (lastDefault? company first tables last) := by
  induction first generalizing tables last with
  | nil => rfl
  | cons write rest ih => exact ih _ _

end Run

section Choice
variable {last : CompanyId → Option QueueId} {tables : Tables}

theorem nodup_queues (sound : Sound tables) : tables.queues.Nodup :=
  List.Nodup.of_map _ sound.queueIds

theorem single_of_same {α : Type} (rows : List α) (sole : α) (distinct : rows.Nodup)
    (same : ∀ row ∈ rows, row = sole) : rows.length ≤ 1 := by
  have repeated := List.eq_replicate_of_mem same
  rw [repeated, List.nodup_replicate] at distinct
  exact distinct

theorem marked_at_most_one (sound : Sound tables) (marks : Marks last tables)
    (company : CompanyId) :
    (tables.queues.filter fun row => row.companyId == company && row.isDefault).length ≤ 1 := by
  cases named : last company with
  | none =>
    have noneMarked : (tables.queues.filter fun row =>
        row.companyId == company && row.isDefault) = [] := by
      rw [List.filter_eq_nil_iff]
      rintro row member hit
      obtain ⟨rfl, marked⟩ : row.companyId = company ∧ row.isDefault = true := by simpa using hit
      rw [marks.marked row member, named] at marked
      cases marked
    simp [noneMarked]
  | some id =>
    obtain ⟨sole, inTable, rfl, -⟩ := marks.known company id named
    apply single_of_same _ sole ((nodup_queues sound).filter _)
    intro row selected
    obtain ⟨member, hit⟩ := List.mem_filter.mp selected
    obtain ⟨rfl, marked⟩ : row.companyId = company ∧ row.isDefault = true := by simpa using hit
    rw [marks.marked row member, named, Option.some.injEq] at marked
    exact same_queue sound row sole member inTable marked.symm

theorem usable_at_most_one (sound : Sound tables) (marks : Marks last tables)
    (company : CompanyId) :
    (tables.queues.filter fun row => row.companyId == company && row.isUsableDefault).length ≤ 1 := by
  refine Nat.le_trans (List.Sublist.length_le ?_) (marked_at_most_one sound marks company)
  apply List.monotone_filter_right
  intro row usable
  simp only [Queue.isUsableDefault, Bool.and_eq_true, beq_iff_eq] at usable ⊢
  exact ⟨usable.1, usable.2.1.1⟩

theorem default_queue_cases (company : CompanyId) (queue : Queue)
    (sole : (tables.queues.filter fun row =>
      row.companyId == company && row.isUsableDefault).length ≤ 1) :
    tables.defaultQueue? company = some queue ↔
      queue ∈ tables.queues ∧ queue.companyId = company ∧ queue.isUsableDefault = true := by
  have selected : queue ∈ (tables.queues.filter fun row =>
      row.companyId == company && row.isUsableDefault) ↔
      queue ∈ tables.queues ∧ queue.companyId = company ∧ queue.isUsableDefault = true := by
    simp [List.mem_filter]
  rw [← selected]
  simp only [Tables.defaultQueue?]
  match candidates : tables.queues.filter fun row =>
      row.companyId == company && row.isUsableDefault with
  | [] => simp [candidates]
  | [other] => simp [candidates, eq_comm]
  | _ :: _ :: _ => simp [candidates] at sole

theorem default_queue_marked (sound : Sound tables) (marks : Marks last tables)
    (company : CompanyId) (id : QueueId) (named : last company = some id) :
    ∃ queue, tables.queue? id = some queue ∧ queue.companyId = company ∧
      tables.defaultQueue? company =
        if queue.isActive && !queue.isDeleted then some queue else none := by
  obtain ⟨queue, member, rfl, rfl⟩ := marks.known company id named
  refine ⟨queue, find_keyed Queue.id tables.queues queue sound.queueIds member, rfl, ?_⟩
  have marked : queue.isDefault = true := (marks.marked queue member).mpr named
  have sole := usable_at_most_one sound marks queue.companyId
  split
  · rename_i usable
    rw [default_queue_cases queue.companyId queue sole]
    exact ⟨member, rfl, by simpa [Queue.isUsableDefault, marked] using usable⟩
  · rename_i unusable
    rw [Option.eq_none_iff_forall_ne_some]
    intro other found
    obtain ⟨inTable, own, usable⟩ := (default_queue_cases queue.companyId other sole).mp found
    -- What is usable carries the mark, and only the queue that is not usable does.
    obtain ⟨⟨otherMarked, active⟩, live⟩ : (other.isDefault = true ∧ other.isActive = true) ∧
        other.isDeleted = false := by simpa [Queue.isUsableDefault] using usable
    rw [marks.marked other inTable, own, named, Option.some.injEq] at otherMarked
    obtain rfl := same_queue sound queue other member inTable otherMarked
    simp [active, live] at unusable

theorem default_queue_unmarked (sound : Sound tables) (marks : Marks last tables)
    (company : CompanyId) (unnamed : last company = none) :
    tables.defaultQueue? company = none := by
  rw [Option.eq_none_iff_forall_ne_some]
  intro other found
  obtain ⟨inTable, rfl, usable⟩ :=
    (default_queue_cases company other (usable_at_most_one sound marks company)).mp found
  have marked : other.isDefault = true := by
    simp only [Queue.isUsableDefault, Bool.and_eq_true] at usable
    exact usable.1.1
  rw [marks.marked other inTable, unnamed] at marked
  cases marked

end Choice

section Later
variable {company : CompanyId} {id : QueueId} {queue : Queue} {writes : List Write}

theorem replay_one_more (writes : List Write) (write : Write) :
    replay (writes ++ [write]) {} =
      if (write.refusal? (replay writes {})).isSome then replay writes {}
      else write.applied (replay writes {}) := by
  rw [replay_append]
  exact perform_left write (replay writes {})

/-- A write that makes no default leaves the mark, and the queue under it decides as it then is. -/
theorem default_after (write : Write) (makesNone : write.madeDefault? company = none)
    (named : lastDefault? company writes {} none = some id)
    (found : (replay writes {}).queue? id = some queue) :
    (replay (writes ++ [write]) {}).defaultQueue? company =
      let later := if (write.refusal? (replay writes {})).isSome then queue
        else write.onQueue queue
      if later.isActive && !later.isDeleted then some later else none := by
  have stillNamed : lastDefault? company (writes ++ [write]) {} none = some id := by
    rw [last_default_append, named]
    simp only [lastDefault?, nextDefault?, makesNone, Option.none_or]
    split <;> rfl
  obtain ⟨later, foundLater, -, decided⟩ := default_queue_marked
    (replay_sound (writes ++ [write])) (replay_marks (writes ++ [write])) company id stillNamed
  rw [decided]
  rw [replay_one_more] at foundLater
  cases refused : write.refusal? (replay writes {}) with
  | some fault =>
    rw [refused, Option.isSome_some, if_pos rfl, found] at foundLater
    obtain rfl := Option.some.inj foundLater
    rfl
  | none =>
    have known : ∃ row ∈ (replay writes {}).queues, row.id = id :=
      ⟨queue, List.mem_of_find?_eq_some found, by simpa using List.find?_some found⟩
    rw [refused, Option.isSome_none, if_neg Bool.false_ne_true,
      queue_found_after write _ id known, found] at foundLater
    obtain rfl := Option.some.inj foundLater
    rfl

theorem live_found (tables : Tables) (sound : Sound tables)
    (found : tables.queue? id = some queue) :
    tables.queues.any (isLiveQueue id) = !queue.isDeleted := by
  have member := List.mem_of_find?_eq_some found
  have same : queue.id = id := by simpa using List.find?_some found
  cases gone : queue.isDeleted with
  | true =>
    apply none_live Queue.id (·.isDeleted) _ tables.queues queue sound.queueIds member gone
    intro other live
    simpa [isLiveQueue, same] using live
  | false => exact List.any_eq_true.mpr ⟨queue, member, by simp [isLiveQueue, same, gone]⟩

end Later

/-- The history decides on the default queue of a company: at most one queue carries the mark, and
what is found is the queue that was last made the default, as long as it is active and not deleted.
Without its queue the mark is worth nothing, no queue before it is found again, and the queue is found
again once it is active. -/
theorem default_queue_by_history (writes : List Write) (company : CompanyId) :
    let tables := replay writes {}
    (tables.queues.filter fun row => row.companyId == company && row.isDefault).length ≤ 1 ∧
    match lastDefault? company writes {} none with
    | none => tables.defaultQueue? company = none
    | some id => ∃ queue, tables.queue? id = some queue ∧ queue.companyId = company ∧
      tables.defaultQueue? company =
        (if queue.isActive && !queue.isDeleted then some queue else none) ∧
      ∀ stamp : Instant,
        (replay (writes ++ [.setQueueActive id false stamp]) {}).defaultQueue? company = none ∧
        (replay (writes ++ [.deleteQueue id stamp]) {}).defaultQueue? company = none ∧
        (replay (writes ++ [.setQueueActive id true stamp]) {}).defaultQueue? company =
          if queue.isDeleted then none
          else some { queue with isActive := true, updatedAt := stamp } := by
  intro tables
  have sound : Sound tables := replay_sound writes
  have marks := replay_marks writes
  refine ⟨marked_at_most_one sound marks company, ?_⟩
  cases named : lastDefault? company writes {} none with
  | none => exact default_queue_unmarked sound marks company named
  | some id =>
    obtain ⟨queue, found, own, decided⟩ := default_queue_marked sound marks company id named
    refine ⟨queue, found, own, decided, fun stamp => ?_⟩
    have same : queue.id = id := by simpa using List.find?_some found
    have live := live_found tables sound found
    -- All three are writes to the row, which are refused just if it is deleted.
    have unreached := default_after (.setQueueActive id false stamp) rfl named found
    have deleted := default_after (.deleteQueue id stamp) rfl named found
    have reached := default_after (.setQueueActive id true stamp) rfl named found
    rw [unreached, deleted, reached]
    cases gone : queue.isDeleted <;>
      simp [Write.refusal?, Write.refuseUnless, Write.onQueue, isLiveQueue, tables, live, gone,
        same]

example :
    let writes : List Write := [
      .createQueue ⟨"q1"⟩ newYear newYear ⟨⟨"c1"⟩, "First", none, true⟩,
      .createQueue ⟨"q2"⟩ newYear newYear ⟨⟨"c1"⟩, "Second", none, true⟩]
    ((replay writes {}).defaultQueue? ⟨"c1"⟩).map (·.id) = some ⟨"q2"⟩ ∧
      (replay (writes ++ [.deleteQueue ⟨"q2"⟩ newYear]) {}).defaultQueue? ⟨"c1"⟩ = none := by
  decide +kernel

end TicketRouting.Store
