import Mathlib.Logic.Function.Basic
import TicketRouting.Proofs.Store.RuleFields
import TicketRouting.Proofs.Store.Steps
/-!
Two clients that call on one rule at the same time. An update is two steps, the reading of the rule and
the writing back of all of it but whether it is active; the other calls are one step. Steps of the two
may come in any order, and an update may so write back what the other call has changed meanwhile.
-/
namespace TicketRouting

/-- The change that also gives the fields it would leave alone a value, the one that a rule has. -/
def RuleChanges.over (changes : RuleChanges) (held : RoutingRule) : RuleChanges where
  queueId := some (changes.queueId.getD held.queue.id)
  name := some (changes.name.getD held.name)
  description := some (changes.description.getD held.description)
  matchType := some (changes.matchType.getD held.matchType)
  matchOperator := some (changes.matchOperator.getD held.matchOperator)
  matchValue := some (changes.matchValue.getD held.matchValue)
  sortOrder := some (changes.sortOrder.getD held.sortOrder)
  autoAssignAgentId := some (changes.autoAssignAgentId.getD held.autoAssignAgentId)
  priorityOverride := some (changes.priorityOverride.getD held.priorityOverride)
  tagsToAdd := some (changes.tagsToAdd.getD held.tagsToAdd)

namespace Store

inductive Stage where
  | asked
  | holding (rule : RoutingRule)
  | answered (answer : Except RoutingError Unit)

def RuleCall.advance (id : RuleId) (tables : Tables) : RuleCall → Stage → Stage × Tables
  | .update _ _, .asked =>
    match (readForUpdate id).perform tables with
    | (.ok rule, left) => (.holding rule, left)
    | (.error fault, left) => (.answered (.error fault), left)
  | .update changes stamp, .holding rule =>
    let (answer, left) := (writeUpdated id (changes.apply rule) stamp).perform tables
    (.answered (answer.map fun _ => ()), left)
  | call, .asked =>
    let (answer, left) := (call.write id).action.perform tables
    (.answered answer, left)
  | _, stage => (stage, tables)

inductive Client where
  | first
  | second
deriving DecidableEq

def Client.peer : Client → Client
  | first => second
  | second => first

structure Race where
  stage : Client → Stage
  tables : Tables

def Race.start (tables : Tables) : Race := ⟨fun _ => .asked, tables⟩

def Race.after (race : Race) (client : Client) (result : Stage × Tables) : Race :=
  ⟨Function.update race.stage client result.1, result.2⟩

def Race.IsDone (race : Race) : Prop := ∀ client, race.stage client = .answered (.ok ())

def Stage.isFine : Stage → Bool
  | .answered (.ok ()) => true
  | _ => false

theorem is_fine_iff (stage : Stage) : stage.isFine = true ↔ stage = .answered (.ok ()) := by
  cases stage with
  | answered answer => cases answer <;> simp [Stage.isFine]
  | asked | holding => simp [Stage.isFine]

instance (race : Race) : Decidable race.IsDone :=
  decidable_of_iff ((race.stage .first).isFine = true ∧ (race.stage .second).isFine = true) <| by
    simp only [is_fine_iff]
    refine ⟨?_, fun done => ⟨done .first, done .second⟩⟩
    rintro ⟨first, second⟩ (_ | _)
    · exact first
    · exact second

section Turns
variable (id : RuleId) (calls : Client → RuleCall)

def Race.turn (race : Race) (client : Client) : Race :=
  race.after client ((calls client).advance id race.tables (race.stage client))

def Race.run : List Client → Race → Race
  | [], race => race
  | client :: rest, race => run rest (race.turn id calls client)

/-- The client is about to write back a rule of which something that it does not leave alone has been
changed since it read it. -/
def Race.WritesOutdated (race : Race) (client : Client) : Prop :=
  ∃ held now, race.stage client = .holding held ∧ race.tables.rule? id = .ok (some now) ∧
    ∃ field : RuleField, field ≠ .isActive ∧ field.of held ≠ field.of now

def Race.NeverOutdated : List Client → Race → Prop
  | [], _ => True
  | client :: rest, race =>
    ¬ race.WritesOutdated id client ∧ NeverOutdated rest (race.turn id calls client)

end Turns

section Calls
variable {id : RuleId} {call : RuleCall} {now : RoutingRule} {tables : Tables} {stage : Stage}

def RuleCall.IsUpdate (call : RuleCall) : Prop := ∃ changes stamp, call = .update changes stamp

def Stage.base (now : RoutingRule) : Stage → RoutingRule
  | .holding held => { held with isActive := now.isActive }
  | _ => now

/-- What a step of a call may do to a rule, which is `now` before the step. -/
inductive RuleCall.Advances (id : RuleId) (call : RuleCall) (now : RoutingRule) (tables : Tables)
    (stage : Stage) : RoutingRule → Stage × Tables → Prop where
  | reads (asked : stage = .asked) (updates : call.IsUpdate) :
    Advances id call now tables stage now (.holding now, tables)
  | writes (later : RoutingRule) (left : Tables) (unanswered : ∀ answer, stage ≠ .answered answer)
    (written : RuleWritten id (call.value? id) (stage.base now) tables left later) :
    Advances id call now tables stage later (.answered (.ok ()), left)
  | refused (fault : RoutingError) (unanswered : ∀ answer, stage ≠ .answered answer) :
    Advances id call now tables stage now (.answered (.error fault), tables)
  | rests (answer : Except RoutingError Unit) (answered : stage = .answered answer) :
    Advances id call now tables stage now (stage, tables)

theorem read_for_update (known : tables.rule? id = .ok (some now)) (live : now.isDeleted = false) :
    (readForUpdate id).perform tables = (.ok now, tables) := by
  rw [perform_read_for_update, known]
  simp [live, Write.refuseUnless, settled]

theorem advance_whole (single : ¬ call.IsUpdate) :
    call.advance id tables .asked = (.answered ((call.write id).action.perform tables).1,
      ((call.write id).action.perform tables).2) := by
  cases call with
  | update changes stamp => exact absurd ⟨changes, stamp, rfl⟩ single
  | reorder | setActive => rfl

theorem whole_written (distinct : (tables.rules.map (·.id)).Nodup)
    (known : tables.rule? id = .ok (some now)) (live : now.isDeleted = false)
    (single : ¬ call.IsUpdate) {left : Tables}
    (performed : (call.write id).action.perform tables = (.ok (), left)) :
    ∃ later, RuleWritten id (call.value? id) now tables left later := by
  cases call with
  | update changes stamp => exact absurd ⟨changes, stamp, rfl⟩ single
  | reorder company ids stamp => exact reorder_written distinct known live company ids stamp performed
  | setActive active stamp => exact set_active_written known live active stamp performed

theorem advance_cases (distinct : (tables.rules.map (·.id)).Nodup)
    (known : tables.rule? id = .ok (some now)) (live : now.isDeleted = false)
    (updating : ∀ held, stage = .holding held → call.IsUpdate) :
    ∃ later, call.Advances id now tables stage later (call.advance id tables stage) := by
  cases stage with
  | answered answer => cases call <;> exact ⟨now, .rests answer rfl⟩
  | holding held =>
    obtain ⟨changes, stamp, rfl⟩ := updating held rfl
    obtain ⟨row, found, -, -⟩ := known_row known
    obtain ⟨written, -, settles⟩ :=
      perform_write_updated id (changes.apply held) stamp row tables found
    cases performed : (writeUpdated id (changes.apply held) stamp).perform tables with
    | mk answer left =>
      simp only [RuleCall.advance, performed]
      cases answer with
      | error fault =>
        obtain rfl := settled_error (settles.symm.trans performed)
        exact ⟨now, .refused fault nofun⟩
      | ok answer =>
        obtain ⟨later, writes⟩ := update_written known live held changes stamp answer performed
        exact ⟨later, .writes later left nofun writes⟩
  | asked =>
    by_cases updates : call.IsUpdate
    · obtain ⟨changes, stamp, rfl⟩ := updates
      simp only [RuleCall.advance, read_for_update known live]
      exact ⟨now, .reads rfl ⟨changes, stamp, rfl⟩⟩
    · rw [advance_whole updates]
      cases performed : (call.write id).action.perform tables with
      | mk answer left =>
        cases answer with
        | error fault =>
          obtain rfl := settled_error ((perform_action _ _).symm.trans performed)
          exact ⟨now, .refused fault nofun⟩
        | ok answer =>
          obtain ⟨later, written⟩ := whole_written distinct known live updates performed
          exact ⟨later, .writes later left nofun written⟩

theorem answered_rests (answer : Except RoutingError Unit) :
    call.advance id tables (.answered answer) = (.answered answer, tables) := by
  cases call <;> rfl

/-- Two steps of a call with nothing between them are the whole call. -/
theorem two_steps_whole (call : RuleCall) (id : RuleId) (tables : Tables) :
    call.advance id (call.advance id tables .asked).2 (call.advance id tables .asked).1 =
      (.answered ((call.write id).action.perform tables).1,
        ((call.write id).action.perform tables).2) := by
  cases call with
  | update changes stamp =>
    simp only [RuleCall.advance, RuleCall.write, Write.action, updateRule, Action.perform_bind]
    cases (readForUpdate id).perform tables with
    | mk answer left =>
      cases answer with
      | error fault => rfl
      | ok rule =>
        dsimp only
        cases (writeUpdated id (changes.apply rule) stamp).perform left with
        | mk answer left => cases answer <;> rfl
  | reorder | setActive => rfl

/-- An update writes back what a change would write that gives every field a value. -/
theorem over_writes (changes : RuleChanges) (held : RoutingRule) (stamp : Instant) :
    writeUpdated id ((changes.over held).apply now) stamp =
      writeUpdated id (changes.apply held) stamp := by
  have queue : (changes.apply held).queue.id = changes.queueId.getD held.queue.id :=
    apply_queue changes held
  simp only [writeUpdated, RuleRow.overwrite, queue]
  rfl

theorem base_of_held (held : RoutingRule) (field : RuleField) (column : field ≠ .isActive) :
    field.of ((Stage.holding held).base now) = field.of held := by
  cases field <;> first | rfl | contradiction

theorem fresh_base (fresh : ∀ held, stage = .holding held →
    ∀ field : RuleField, field ≠ .isActive → field.of held = field.of now) (field : RuleField) :
    field.of (stage.base now) = field.of now := by
  cases stage with
  | asked | answered => rfl
  | holding held =>
    by_cases column : field = .isActive
    · subst column
      rfl
    · exact (base_of_held held field column).trans (fresh held rfl field column)

end Calls

section Clients

theorem peer_peer (client : Client) : client.peer.peer = client := by
  cases client <;> rfl

theorem peer_ne (client : Client) : client.peer ≠ client := by
  cases client <;> nofun

theorem own_or_peer (client other : Client) : other = client ∨ other = client.peer := by
  cases client <;> cases other <;> simp [Client.peer]

variable (race : Race) (client : Client) (result : Stage × Tables)

@[simp] theorem after_own : (race.after client result).stage client = result.1 :=
  Function.update_self ..

@[simp] theorem after_peer :
    (race.after client result).stage client.peer = race.stage client.peer :=
  Function.update_of_ne (peer_ne client) ..

theorem after_same : race.after client (race.stage client, race.tables) = race := by
  simp only [Race.after, Function.update_eq_self]

theorem no_common_field {id : RuleId} {calls : Client → RuleCall}
    (apart : ∀ field, (calls .first).value? id field = none ∨ (calls .second).value? id field = none)
    (client : Client) (field : RuleField) {value : field.Value}
    (given : (calls client.peer).value? id field = some value) :
    (calls client).value? id field = none := by
  cases client with
  | first => exact (apart field).resolve_right (by rw [Client.peer] at given; simp [given])
  | second => exact (apart field).resolve_left (by rw [Client.peer] at given; simp [given])

end Clients

section Order
variable {id : RuleId} {calls : Client → RuleCall} {race : Race} {now : RoutingRule}

/-- What holds at any time of two calls on a rule. What a client holds is the rule as it is, or the
other client has written since, and then the rule differs by what that one's call gives it. -/
structure Race.InOrder (id : RuleId) (calls : Client → RuleCall) (race : Race) (now : RoutingRule) :
    Prop where
  distinct : (race.tables.rules.map (·.id)).Nodup
  known : race.tables.rule? id = .ok (some now)
  live : now.isDeleted = false
  updating : ∀ client held, race.stage client = .holding held → (calls client).IsUpdate
  behind : ∀ client held, race.stage client = .holding held →
    (∀ field : RuleField, field.of held = field.of now) ∨
      (race.stage client.peer = .answered (.ok ()) ∧ ∀ field : RuleField,
        field.of now = ((calls client.peer).value? id field).getD (field.of held))

theorem held_is_now (order : race.InOrder id calls now) {client : Client} {held : RoutingRule}
    (holds : race.stage client = .holding held)
    (unanswered : ∀ answer, race.stage client.peer ≠ .answered answer) (field : RuleField) :
    field.of held = field.of now := by
  obtain same | ⟨answered, -⟩ := order.behind client held holds
  · exact same field
  · exact absurd answered (unanswered _)

theorem start_in_order {tables : Tables} (distinct : (tables.rules.map (·.id)).Nodup)
    (known : tables.rule? id = .ok (some now)) (live : now.isDeleted = false) :
    (Race.start tables).InOrder id calls now where
  distinct := distinct
  known := known
  live := live
  updating _ _ holding := by cases holding
  behind _ _ holding := by cases holding

theorem turn_advances (order : race.InOrder id calls now) (client : Client) :
    ∃ later result, race.turn id calls client = race.after client result ∧
      (calls client).Advances id now race.tables (race.stage client) later result := by
  obtain ⟨later, moved⟩ :=
    advance_cases order.distinct order.known order.live (order.updating client)
  exact ⟨later, _, rfl, moved⟩

theorem in_order_unwritten (order : race.InOrder id calls now) (client : Client) (stage : Stage)
    (unanswered : ∀ answer, race.stage client ≠ .answered answer)
    (holds : ∀ held, stage = .holding held → held = now ∧ (calls client).IsUpdate) :
    (race.after client (stage, race.tables)).InOrder id calls now where
  distinct := order.distinct
  known := order.known
  live := order.live
  updating other held holding := by
    obtain rfl | rfl := own_or_peer client other
    · rw [after_own] at holding
      exact (holds held holding).2
    · rw [after_peer] at holding
      exact order.updating _ held holding
  behind other held holding := by
    obtain rfl | rfl := own_or_peer client other
    · rw [after_own] at holding
      obtain ⟨rfl, -⟩ := holds held holding
      exact .inl fun _ => rfl
    · rw [after_peer] at holding
      exact .inl (held_is_now order holding (by rwa [peer_peer]))

theorem in_order_written (order : race.InOrder id calls now) (client : Client)
    {later : RoutingRule} {left : Tables}
    (unanswered : ∀ answer, race.stage client ≠ .answered answer)
    (written : RuleWritten id ((calls client).value? id) ((race.stage client).base now) race.tables
      left later) :
    (race.after client (.answered (.ok ()), left)).InOrder id calls later where
  distinct := by
    rw [Race.after, written.sameIds]
    exact order.distinct
  known := written.known
  live := written.live
  updating other held holding := by
    obtain rfl | rfl := own_or_peer client other
    · simp at holding
    · exact order.updating _ held (after_peer .. ▸ holding)
  behind other held holding := by
    obtain rfl | rfl := own_or_peer client other
    · simp at holding
    · rw [after_peer] at holding
      refine .inr ⟨by rw [peer_peer, after_own], fun field => ?_⟩
      -- Neither client had written before, so both hold the rule as it was before this turn.
      have base : field.of ((race.stage client).base now) = field.of now :=
        fresh_base (fun own owns field _ => held_is_now order owns (by simp [holding]) field) field
      have same : field.of held = field.of now :=
        held_is_now order holding (by rwa [peer_peer]) field
      rw [peer_peer, written.fields, base, same]

theorem in_order_turn (order : race.InOrder id calls now) {client : Client} {later : RoutingRule}
    {result : Stage × Tables}
    (moved : (calls client).Advances id now race.tables (race.stage client) later result) :
    (race.after client result).InOrder id calls later := by
  cases moved with
  | reads asked updates =>
    refine in_order_unwritten order client (.holding now) (by simp [asked]) ?_
    rintro held ⟨⟩
    exact ⟨rfl, updates⟩
  | writes later left unanswered written => exact in_order_written order client unanswered written
  | refused fault unanswered =>
    exact in_order_unwritten order client _ unanswered fun _ holding => by cases holding
  | rests answer answered =>
    rw [after_same]
    exact order

/-- A turn leaves the tables as some whole writes would: of an update that is halfway, the change that
gives every field a value. -/
theorem turn_replays (order : race.InOrder id calls now) (client : Client) :
    ∃ writes, (race.turn id calls client).tables = replay writes race.tables := by
  unfold Race.turn Race.after
  cases stage : race.stage client with
  | answered answer => exact ⟨[], by rw [answered_rests]; rfl⟩
  | asked =>
    by_cases updates : (calls client).IsUpdate
    · obtain ⟨changes, stamp, same⟩ := updates
      refine ⟨[], ?_⟩
      simp only [same, RuleCall.advance, read_for_update order.known order.live]
      rfl
    · exact ⟨[(calls client).write id], by rw [advance_whole updates]; rfl⟩
  | holding held =>
    obtain ⟨changes, stamp, same⟩ := order.updating client held stage
    refine ⟨[.updateRule id (changes.over held) stamp], ?_⟩
    simp only [same, RuleCall.advance, replay, Write.action, updateRule, Action.perform_bind,
      read_for_update order.known order.live, over_writes]
    cases (writeUpdated id (changes.apply held) stamp).perform race.tables with
    | mk answer left => cases answer <;> rfl

theorem run_replays (turns : List Client) (order : race.InOrder id calls now) :
    ∃ writes, (race.run id calls turns).tables = replay writes race.tables := by
  induction turns generalizing race now with
  | nil => exact ⟨[], rfl⟩
  | cons client rest ih =>
    obtain ⟨first, turned⟩ := turn_replays order client
    obtain ⟨later, result, same, moved⟩ := turn_advances order client
    obtain ⟨others, continued⟩ := ih (same ▸ in_order_turn order moved)
    refine ⟨first ++ others, ?_⟩
    rw [replay_append, ← turned]
    exact continued

end Order

section Outcomes
variable {id : RuleId} {calls : Client → RuleCall} {race : Race} {now : RoutingRule}

theorem answered_stays (turns : List Client) {client : Client} {answer : Except RoutingError Unit}
    (answered : race.stage client = .answered answer) :
    (race.run id calls turns).stage client = .answered answer := by
  induction turns generalizing race with
  | nil => exact answered
  | cons other rest ih =>
    apply ih
    obtain rfl | rfl := own_or_peer other client
    · rw [Race.turn, after_own, answered, answered_rests]
    · rw [Race.turn, after_peer, answered]

theorem done_stays (turns : List Client) (done : race.IsDone) : race.run id calls turns = race := by
  induction turns with
  | nil => rfl
  | cons client rest ih =>
    have same : race.turn id calls client = race := by
      rw [Race.turn, done client, answered_rests, ← done client, after_same]
    rw [Race.run, same, ih]

section Apart
variable (apart : ∀ field,
  (calls .first).value? id field = none ∨ (calls .second).value? id field = none)
include apart

/-- What an answered call gave is still there after a turn that writes nothing outdated. -/
theorem kept_turn (order : race.InOrder id calls now)
    (kept : ∀ client, race.stage client = .answered (.ok ()) → (calls client).IsKept id now)
    {client : Client} (fresh : ¬ race.WritesOutdated id client) {later : RoutingRule}
    {result : Stage × Tables}
    (moved : (calls client).Advances id now race.tables (race.stage client) later result)
    (other : Client) (answered : (race.after client result).stage other = .answered (.ok ())) :
    (calls other).IsKept id later := by
  cases moved with
  | reads | refused =>
    obtain rfl | rfl := own_or_peer client other
    · simp at answered
    · exact kept _ (after_peer .. ▸ answered)
  | rests =>
    rw [after_same] at answered
    exact kept other answered
  | writes later left unanswered written =>
    intro field value given
    obtain rfl | rfl := own_or_peer client other
    · rw [written.fields, given, Option.getD_some]
    · rw [after_peer] at answered
      have base : field.of ((race.stage client).base now) = field.of now := by
        refine fresh_base (fun held holds field column => ?_) field
        by_contra differs
        exact fresh ⟨held, now, holds, order.known, field, column, differs⟩
      rw [written.fields, no_common_field apart client field given, Option.getD_none, base]
      exact kept _ answered field value given

/-- A client that writes back what is outdated takes back something that the other one gave. -/
theorem outdated_lost (order : race.InOrder id calls now) {client : Client}
    (outdated : race.WritesOutdated id client) {later : RoutingRule} {left : Tables}
    (written : RuleWritten id ((calls client).value? id) ((race.stage client).base now) race.tables
      left later) :
    race.stage client.peer = .answered (.ok ()) ∧ ¬ (calls client.peer).IsKept id later := by
  obtain ⟨held, found, holds, known, field, column, differs⟩ := outdated
  obtain rfl : found = now := by simpa [order.known, eq_comm] using known
  obtain same | ⟨answered, changed⟩ := order.behind client held holds
  · exact absurd (same field) differs
  · refine ⟨answered, fun kept => differs ?_⟩
    cases given : (calls client.peer).value? id field with
    | none => simp [changed field, given]
    | some value =>
      have taken : field.of later = field.of held := by
        rw [written.fields, no_common_field apart client field given, Option.getD_none, holds]
        exact base_of_held held field column
      rw [changed field, given, Option.getD_some, ← taken]
      exact kept field value given

theorem run_kept_iff (turns : List Client) (order : race.InOrder id calls now)
    (kept : ∀ client, race.stage client = .answered (.ok ()) → (calls client).IsKept id now)
    (done : (race.run id calls turns).IsDone) :
    ∃ last, (race.run id calls turns).tables.rule? id = .ok (some last) ∧
      ((∀ client, (calls client).IsKept id last) ↔ race.NeverOutdated id calls turns) := by
  -- The invariants go on from turn to turn until a client writes what is outdated. Both calls are
  -- answered then, and what that client took back stays lost.
  induction turns generalizing race now with
  | nil => exact ⟨now, order.known, fun _ => trivial, fun _ client => kept client (done client)⟩
  | cons client rest ih =>
    obtain ⟨later, result, turned, moved⟩ := turn_advances order client
    simp only [Race.run, Race.NeverOutdated, turned] at done ⊢
    by_cases outdated : race.WritesOutdated id client
    · cases moved with
      | writes later left unanswered written =>
        obtain ⟨answered, lost⟩ := outdated_lost apart order outdated written
        have finished : (race.after client (.answered (.ok ()), left)).IsDone := by
          intro other
          obtain rfl | rfl := own_or_peer client other
          · exact after_own ..
          · exact (after_peer ..).trans answered
        rw [done_stays rest finished]
        exact ⟨later, written.known, fun all => absurd (all client.peer) lost,
          fun never => absurd outdated never.1⟩
      | refused fault unanswered =>
        have failed : ((race.after client (.answered (.error fault), race.tables)).run id calls
            rest).stage client = .answered (.error fault) := answered_stays rest (after_own ..)
        cases failed.symm.trans (done client)
      | reads asked =>
        obtain ⟨held, -, holds, -⟩ := outdated
        cases asked.symm.trans holds
      | rests answer answered =>
        obtain ⟨held, -, holds, -⟩ := outdated
        cases answered.symm.trans holds
    · obtain ⟨last, known, iff⟩ := ih (in_order_turn order moved)
        (kept_turn apart order kept outdated moved) done
      refine ⟨last, known, iff.trans ⟨fun never => ⟨outdated, never⟩, And.right⟩⟩

end Apart

theorem never_outdated (turns : List Client) (order : race.InOrder id calls now) (client : Client)
    (column : ∀ field : RuleField, field ≠ .isActive → (calls client).value? id field = none)
    (single : ¬ (calls client).IsUpdate) : race.NeverOutdated id calls turns := by
  induction turns generalizing race now with
  | nil => trivial
  | cons other rest ih =>
    obtain ⟨later, result, turned, moved⟩ := turn_advances order other
    refine ⟨?_, turned ▸ ih (in_order_turn order moved)⟩
    rintro ⟨held, found, holds, known, field, written, differs⟩
    obtain rfl : found = now := by simpa [order.known, eq_comm] using known
    -- Only the other client can hold the rule, and all that has changed since is what this one gives.
    obtain rfl | rfl := own_or_peer client other
    · exact single (order.updating _ held holds)
    · obtain same | ⟨-, changed⟩ := order.behind _ held holds
      · exact differs (same field)
      · rw [changed field, peer_peer, column field written] at differs
        exact differs rfl

end Outcomes

/-- Two calls on a rule, of which neither sets a field that the other one sets, go well while their steps
come in any order. What they set is there in the end exactly if no update wrote back a rule that had
been changed since it was read. Setting a rule active is never lost and loses nothing. -/
theorem concurrent_calls_kept_iff (steps : List Step) (id : RuleId) (calls : Client → RuleCall)
    (turns : List Client) (live : (afterSteps steps {}).rules.any (isLiveRule id) = true)
    (apart : ∀ field, (calls .first).value? id field = none ∨ (calls .second).value? id field = none)
    (done : ((Race.start (afterSteps steps {})).run id calls turns).IsDone) :
    let race := Race.start (afterSteps steps {})
    ∃ last, (race.run id calls turns).tables.rule? id = .ok (some last) ∧
      ((∀ client, (calls client).IsKept id last) ↔ race.NeverOutdated id calls turns) ∧
      ((∃ client active stamp, calls client = .setActive active stamp) →
        ∀ client, (calls client).IsKept id last) := by
  intro race
  have sound : Sound race.tables := steps_sound steps {} empty_sound
  have named : AllNamed race.tables := steps_named steps {} empty_named
  obtain ⟨rule, known, kept⟩ := live_rule_read sound named live
  have order : race.InOrder id calls rule := start_in_order sound.ruleIds known kept
  obtain ⟨last, found, iff⟩ :=
    run_kept_iff apart turns order (fun _ answered => by cases answered) done
  refine ⟨last, found, iff, ?_⟩
  rintro ⟨client, active, stamp, setsActive⟩
  apply iff.mpr
  refine never_outdated turns order client ?_ ?_
  · intro field column
    rw [setsActive]
    cases field <;> first | rfl | contradiction
  · rintro ⟨_, _, updates⟩
    cases setsActive.symm.trans updates

section OneRule

def helpRule : List Step := [
  .write (.createQueue ⟨"q1"⟩ newYear newYear ⟨⟨"c1"⟩, "Help", none, false⟩),
  .write (.createRule ⟨"r"⟩ newYear newYear
    ⟨⟨"c1"⟩, ⟨"q1"⟩, "help", none, .subjectKeyword, .contains, "help", none, none, none, none⟩)]

def besideRenaming (other : RuleCall) : Client → RuleCall
  | .first => .update { name := some "urgent help" } newYear
  | .second => other

theorem renamed_while_set_inactive :
    let silencing : RuleCall := .setActive false newYear
    let race := Race.start (afterSteps helpRule {})
    ∃ last, (race.run ⟨"r"⟩ (besideRenaming silencing) [.first, .second, .first]).tables.rule? ⟨"r"⟩ =
        .ok (some last) ∧ last.name = "urgent help" ∧ last.isActive = false := by
  intro silencing race
  have apart : ∀ field, (besideRenaming silencing .first).value? ⟨"r"⟩ field = none ∨
      (besideRenaming silencing .second).value? ⟨"r"⟩ field = none := by
    intro field
    cases field <;> first | exact .inl rfl | exact .inr rfl
  have done : (race.run ⟨"r"⟩ (besideRenaming silencing) [.first, .second, .first]).IsDone := by
    decide +kernel
  obtain ⟨last, known, -, kept⟩ := concurrent_calls_kept_iff helpRule ⟨"r"⟩
    (besideRenaming silencing) [.first, .second, .first] (by decide +kernel) apart done
  have kept := kept ⟨.second, false, newYear, rfl⟩
  exact ⟨last, known, kept .first .name _ rfl, kept .second .isActive _ rfl⟩

/-- A priority that is set while the rule is renamed is taken back by the renaming. -/
theorem raised_while_renamed_lost :
    let raising : RuleCall := .update { priorityOverride := some (some .high) } newYear
    let race := Race.start (afterSteps helpRule {})
    let left := race.run ⟨"r"⟩ (besideRenaming raising) [.first, .second, .second, .first]
    race.tables.rules.any (isLiveRule ⟨"r"⟩) = true ∧
      (∀ field, (besideRenaming raising .first).value? ⟨"r"⟩ field = none ∨
        (besideRenaming raising .second).value? ⟨"r"⟩ field = none) ∧ left.IsDone ∧
      ∃ last, left.tables.rule? ⟨"r"⟩ = .ok (some last) ∧ ¬ raising.IsKept ⟨"r"⟩ last := by
  intro raising race left
  refine ⟨by decide +kernel, ?apart, by decide +kernel, ?lost⟩
  case apart =>
    intro field
    cases field <;> first | exact .inl rfl | exact .inr rfl
  case lost =>
    have unraised : (left.tables.rule? ⟨"r"⟩).toOption.join.map (·.priorityOverride) =
        some none := by decide +kernel
    cases found : left.tables.rule? ⟨"r"⟩ with
    | error fault => simp [found, Except.toOption] at unraised
    | ok answer =>
      cases answer with
      | none => simp [found, Except.toOption] at unraised
      | some last =>
        refine ⟨last, rfl, fun kept => ?_⟩
        have raised : last.priorityOverride = some .high := kept .priorityOverride _ rfl
        simp [found, Except.toOption, raised] at unraised

end OneRule

end Store
end TicketRouting
