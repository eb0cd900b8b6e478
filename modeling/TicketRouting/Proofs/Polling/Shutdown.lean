import Mathlib.Data.List.Induction
import TicketRouting.Polling.Schedule
import TicketRouting.Proofs.Calendar.TimeLine
import TicketRouting.Proofs.Polling.Results
/-!
When a schedule stops. The pass in which a stop is asked for is finished, and it is the last one. A loop
makes a pass in one turn and waits for the tick in the next, so its turns are counted in twos.
-/
namespace TicketRouting

variable {σ : Type}

def dueUnder (now : Instant) : Except RoutingError (List Mailbox) → List Mailbox
  | .ok listing => dueAmong now listing
  | .error _ => []

def repeatedCalls (due : List Mailbox) (passes : Nat) : List MailboxId :=
  (List.replicate passes (due.map (·.id))).flatten

namespace Schedule

/-- Asked for the mailboxes, the source always gives the same answer, be it a failure, and the same
mailboxes are due in every pass. -/
def IsFixed (schedule : Schedule σ) (due : List Mailbox) : Prop :=
  ∃ answer, (∀ state, schedule.source.list state = answer) ∧
    ∀ pass, dueUnder (schedule.clock pass) answer = due

/-- The schedule makes so many passes and stops at the time of the last one, whatever comes first where
two things are ready. -/
structure StopsAfter (schedule : Schedule σ) (state : σ) (due : List Mailbox) (passes : Nat) :
    Prop where
  goesOn : ∀ choices : List Bool, choices.length < 2 * passes →
    (schedule.after state choices).isOver = false
  stops : ∀ choices : List Bool, 2 * passes ≤ choices.length →
    let loop := schedule.after state choices
    loop.isOver = true ∧ loop.run.passes = passes ∧ loop.run.calls = repeatedCalls due passes ∧
      loop.time = (passes - 1) * schedule.tick
  outcome : ∃ run, schedule.outcome state = .stopped run ((passes - 1) * schedule.tick) ∧
    run.passes = passes ∧ run.calls = repeatedCalls due passes

/-- The schedule makes one pass at most, at the time of its start, and ends in its second turn at the
latest. The one pass is made exactly if the first tick comes before the loss of the sender. -/
structure StopsAtOnce (schedule : Schedule σ) (state : σ) (due : List Mailbox) : Prop where
  atMostOne : ∀ choices : List Bool,
    let loop := schedule.after state choices
    loop.run.passes ≤ 1 ∧ loop.run.calls = repeatedCalls due loop.run.passes ∧ loop.time = 0
  stops : ∀ (tickFirst choice : Bool) (later : List Bool),
    let loop := schedule.after state (tickFirst :: choice :: later)
    loop.isOver = true ∧ loop.run.passes = if tickFirst then 1 else 0
  outcome : ∃ run, schedule.outcome state = .stopped run 0 ∧ run.passes = 1 ∧
    run.calls = repeatedCalls due 1

/-- The loop after some turns while it goes on. Passes and waits take turns, and the signal is quiet until
the stop is asked for. -/
structure Underway (schedule : Schedule σ) (due : List Mailbox) (turns : Nat)
    (loop : ScheduleLoop σ) : Prop where
  isOver : loop.isOver = false
  time : loop.time = turns / 2 * schedule.tick
  nextTick : loop.nextTick = (turns + 1) / 2 * schedule.tick
  passes : loop.run.passes = (turns + 1) / 2
  calls : loop.run.calls = repeatedCalls due ((turns + 1) / 2)
  signal : loop.signal =
    if schedule.request.isMade loop.run then StopSignal.asked {} schedule.means else {}

def IsAskedIn (schedule : Schedule σ) (due : List Mailbox) (passes : Nat) : Prop :=
  ∀ run count, run.passes = count → run.calls = repeatedCalls due count →
    (schedule.request.isMade run = true ↔ passes ≤ count)

section Turns
variable {schedule : Schedule σ} {due : List Mailbox} {loop : ScheduleLoop σ} {state : σ}

theorem repeated_calls_succ (due : List Mailbox) (passes : Nat) :
    repeatedCalls due (passes + 1) = repeatedCalls due passes ++ due.map (·.id) := by
  simp only [repeatedCalls, List.replicate_succ', List.flatten_append, List.flatten_cons,
    List.flatten_nil, List.append_nil]

theorem pass_calls (fixed : schedule.IsFixed due) (number : Nat)
    (poll : Nat → Mailbox → PollOutcome) (state : σ) :
    (runPass schedule.source (schedule.clock number) poll state).calls = due.map (·.id) := by
  obtain ⟨answer, same, dueNow⟩ := fixed
  cases answer with
  | error fault =>
    rw [← dueNow number]
    simp only [runPass, same state, dueUnder, List.map_nil]
  | ok listing =>
    rw [run_pass_listed schedule.source _ poll state listing (same state), ← dueNow number]
    rfl

theorem asked_changes (means : StopMeans) :
    (StopSignal.asked {} means).isChanged = true ∧ (StopSignal.asked {} means).isStop = true := by
  cases means <;> exact ⟨rfl, rfl⟩

/-- After a wait, or at the beginning, the tick is due and a pass is made. -/
theorem pass_turn {passes : Nat} (fixed : schedule.IsFixed due)
    (underway : schedule.Underway due (2 * passes) loop)
    (notYet : schedule.request.isMade loop.run = false) (tickFirst : Bool) :
    schedule.Underway due (2 * passes + 1) (schedule.turn loop tickFirst) := by
  have waited : 2 * passes / 2 = passes ∧ (2 * passes + 1) / 2 = passes ∧
      (2 * passes + 1 + 1) / 2 = passes + 1 := by omega
  obtain ⟨goesOn, now, tick, made, calls, quiet⟩ := underway
  simp only [waited] at now tick made calls
  simp only [notYet, Bool.false_eq_true, ↓reduceIte] at quiet
  have due : schedule.turn loop tickFirst = schedule.makePass loop := by
    simp [turn, goesOn, now, tick, quiet, StopSignal.isChanged]
  rw [due]
  constructor
  case isOver => exact goesOn
  case time => rw [waited.2.1]; exact now
  case nextTick => rw [waited.2.2, Nat.succ_mul, ← now]; rfl
  case passes => rw [waited.2.2, ← made]; rfl
  case calls =>
    rw [waited.2.2, repeated_calls_succ, ← calls, ← pass_calls fixed]
    rfl
  case signal => simp only [makePass, notYet, quiet, Bool.not_false, Bool.and_true]

theorem wait_turn {passes : Nat} (positive : 0 < schedule.tick)
    (underway : schedule.Underway due (2 * passes + 1) loop)
    (notYet : schedule.request.isMade loop.run = false) (tickFirst : Bool) :
    schedule.Underway due (2 * passes + 2) (schedule.turn loop tickFirst) := by
  have passed : (2 * passes + 1) / 2 = passes ∧ (2 * passes + 1 + 1) / 2 = passes + 1 ∧
      (2 * passes + 2 + 1) / 2 = passes + 1 := by omega
  obtain ⟨goesOn, now, tick, made, calls, quiet⟩ := underway
  simp only [passed] at now tick made calls
  have silent : loop.signal = {} := by simpa [notYet] using quiet
  have early : ¬ loop.nextTick ≤ loop.time := by
    rw [now, tick, Nat.succ_mul]
    omega
  have waits : schedule.turn loop tickFirst = { loop with time := loop.nextTick } := by
    simp [turn, goesOn, early, silent, StopSignal.isChanged]
  rw [waits]
  exact ⟨goesOn, by rw [passed.2.1]; exact tick, by rw [passed.2.2]; exact tick,
    by rw [passed.2.2]; exact made, by rw [passed.2.2]; exact calls, quiet⟩

theorem stop_turn {passes : Nat} (positive : 0 < schedule.tick)
    (underway : schedule.Underway due (2 * passes + 1) loop)
    (asked : schedule.request.isMade loop.run = true) (tickFirst : Bool) :
    let left := schedule.turn loop tickFirst
    left.isOver = true ∧ left.run = loop.run ∧ left.time = loop.time := by
  have passed : (2 * passes + 1) / 2 = passes ∧ (2 * passes + 1 + 1) / 2 = passes + 1 := by omega
  obtain ⟨goesOn, now, tick, -, -, signal⟩ := underway
  simp only [passed] at now tick
  simp only [asked, ↓reduceIte] at signal
  have early : ¬ loop.nextTick ≤ loop.time := by
    rw [now, tick, Nat.succ_mul]
    omega
  obtain ⟨changed, stop⟩ := asked_changes schedule.means
  simp [turn, goesOn, early, signal, changed, stop]

theorem ended_stays (ended : loop.isOver = true) (choices : List Bool) :
    choices.foldl schedule.turn loop = loop := by
  induction choices with
  | nil => rfl
  | cons choice rest ih =>
    have stays : schedule.turn loop choice = loop := by simp only [turn, ended, ↓reduceIte]
    rw [List.foldl_cons, stays, ih]

end Turns

section Runs
variable {schedule : Schedule σ} {due : List Mailbox} {state : σ} {passes : Nat}

theorem underway_at_start (nonzero : 0 < passes) (asked : schedule.IsAskedIn due passes) :
    schedule.Underway due 0 (schedule.start state) := by
  have notYet : schedule.request.isMade {} = false := by
    rw [← Bool.not_eq_true, asked {} 0 rfl rfl]
    omega
  have later : schedule.request ≠ .beforeStart := by
    intro same
    rw [same] at notYet
    cases notYet
  constructor <;> simp [start, later, notYet, repeatedCalls]

theorem underway_turn (positive : 0 < schedule.tick) (fixed : schedule.IsFixed due)
    (asked : schedule.IsAskedIn due passes) {loop : ScheduleLoop σ} {turns : Nat}
    (underway : schedule.Underway due turns loop) (before : turns + 1 < 2 * passes)
    (choice : Bool) : schedule.Underway due (turns + 1) (schedule.turn loop choice) := by
  have notYet : schedule.request.isMade loop.run = false := by
    rw [← Bool.not_eq_true, asked loop.run _ underway.passes underway.calls]
    omega
  obtain ⟨half, rfl | rfl⟩ : ∃ half, turns = 2 * half ∨ turns = 2 * half + 1 :=
    ⟨turns / 2, by omega⟩
  · exact pass_turn fixed underway notYet choice
  · exact wait_turn positive underway notYet choice

theorem underway_run (positive : 0 < schedule.tick) (fixed : schedule.IsFixed due)
    (nonzero : 0 < passes) (asked : schedule.IsAskedIn due passes) (choices : List Bool)
    (before : choices.length < 2 * passes) :
    schedule.Underway due choices.length (schedule.after state choices) := by
  induction choices using List.reverseRecOn with
  | nil => exact underway_at_start nonzero asked
  | append_singleton earlier choice ih =>
    rw [List.length_append, List.length_singleton] at before ⊢
    have underway := ih (by omega)
    rw [after, List.foldl_append]
    exact underway_turn positive fixed asked underway before choice

/-- The turns are all those before the last pass, that pass, the one that stops, and what comes after. -/
theorem stopped_run (positive : 0 < schedule.tick) (fixed : schedule.IsFixed due)
    (nonzero : 0 < passes) (asked : schedule.IsAskedIn due passes) (choices : List Bool)
    (enough : 2 * passes ≤ choices.length) :
    let loop := schedule.after state choices
    loop.isOver = true ∧ loop.run.passes = passes ∧ loop.run.calls = repeatedCalls due passes ∧
      loop.time = (passes - 1) * schedule.tick := by
  intro loop
  obtain ⟨earlier, choice, later, rfl, count⟩ : ∃ earlier choice later,
      choices = earlier ++ choice :: later ∧ earlier.length = 2 * (passes - 1) + 1 := by
    have inside : 2 * (passes - 1) + 1 < choices.length := by omega
    refine ⟨choices.take (2 * (passes - 1) + 1), choices[2 * (passes - 1) + 1],
      choices.drop (2 * (passes - 1) + 2), ?_, List.length_take_of_le (Nat.le_of_lt inside)⟩
    rw [List.getElem_cons_drop, List.take_append_drop]
  have underway : schedule.Underway due (2 * (passes - 1) + 1) (schedule.after state earlier) :=
    count ▸ underway_run positive fixed nonzero asked earlier (by omega)
  have made : (2 * (passes - 1) + 1 + 1) / 2 = passes := by omega
  have isMade : schedule.request.isMade (schedule.after state earlier).run = true :=
    (asked _ _ underway.passes underway.calls).mpr (Nat.le_of_eq made.symm)
  obtain ⟨ended, sameRun, sameTime⟩ := stop_turn positive underway isMade choice
  have left : loop = schedule.turn (schedule.after state earlier) choice := by
    simp only [loop, after, List.foldl_append, List.foldl_cons]
    exact ended_stays ended later
  rw [left]
  refine ⟨ended, ?_, ?_, ?_⟩
  · rw [sameRun, underway.passes, made]
  · rw [sameRun, underway.calls, made]
  · rw [sameTime, underway.time]
    congr 1
    omega

theorem stops_after (positive : 0 < schedule.tick) (fixed : schedule.IsFixed due)
    (nonzero : 0 < passes) (asked : schedule.IsAskedIn due passes)
    (latest : passes ≤ schedule.request.latestPass) : schedule.StopsAfter state due passes where
  goesOn choices before := (underway_run positive fixed nonzero asked choices before).isOver
  stops := stopped_run positive fixed nonzero asked
  outcome := by
    have turns : 2 * passes ≤ (List.replicate schedule.mostTurns true).length := by
      rw [List.length_replicate, mostTurns]
      omega
    obtain ⟨ended, count, calls, time⟩ :=
      stopped_run positive fixed nonzero asked (List.replicate schedule.mostTurns true) turns
    refine ⟨_, ?_, count, calls⟩
    rw [Schedule.outcome, if_neg (Nat.ne_of_gt positive), ← time]
    exact if_pos ended

theorem asked_in_listing {number : Nat} (asks : schedule.request = .duringListing number) :
    schedule.IsAskedIn due number := by
  rintro run count rfl -
  simp [asks, StopRequest.isMade]

theorem asked_in_poll {number : Nat} (asks : schedule.request = .duringPoll number)
    (dueSome : due ≠ []) :
    schedule.IsAskedIn due ((number + due.length - 1) / due.length) := by
  rintro run count - calls
  have polls : run.calls.length = count * due.length := by simp [calls, repeatedCalls]
  have someDue : 0 < due.length := List.length_pos_iff.mpr dueSome
  rw [asks, StopRequest.isMade, decide_eq_true_iff, polls, Nat.div_le_iff_le_mul_add_pred someDue,
    Nat.mul_comm]
  omega

end Runs

/-- What holds of a loop whose sender is gone from the beginning: it has made no pass, or one, and the
next tick is still to come. -/
structure AtMostOnePass (schedule : Schedule σ) (due : List Mailbox) (loop : ScheduleLoop σ) :
    Prop where
  signal : loop.signal = { isSenderGone := true }
  time : loop.time = 0
  calls : loop.run.calls = repeatedCalls due loop.run.passes
  passes : loop.run.passes = 0 ∨ loop.run.passes = 1 ∧ loop.time < loop.nextTick

section SenderGone
variable {schedule : Schedule σ} {due : List Mailbox} {loop : ScheduleLoop σ}

theorem sender_gone_pass (positive : 0 < schedule.tick) (fixed : schedule.IsFixed due)
    (asks : schedule.request = .beforeStart) (before : AtMostOnePass schedule due loop)
    (noneYet : loop.run.passes = 0) : AtMostOnePass schedule due (schedule.makePass loop) where
  signal := by simpa [makePass, asks, StopRequest.isMade] using before.signal
  time := before.time
  calls := by
    have calls := before.calls
    rw [noneYet] at calls
    simp only [makePass, ScheduleRun.add, noneYet, repeated_calls_succ, ← calls]
    rw [← pass_calls fixed]
  passes := by
    refine .inr ⟨?_, Nat.lt_add_of_pos_right positive⟩
    simp only [makePass, ScheduleRun.add, noneYet]

theorem sender_gone_turn (before : AtMostOnePass schedule due loop) (goesOn : loop.isOver = false)
    (tickFirst : Bool) : schedule.turn loop tickFirst =
      if tickFirst && loop.nextTick ≤ loop.time then schedule.makePass loop
      else { loop with isOver := true } := by
  have gone := before.signal
  cases tickFirst <;>
    simp [turn, goesOn, gone, StopSignal.isChanged, StopSignal.isStop, StopSignal.seen]

theorem at_most_one_turn (positive : 0 < schedule.tick) (fixed : schedule.IsFixed due)
    (asks : schedule.request = .beforeStart) (before : AtMostOnePass schedule due loop)
    (tickFirst : Bool) : AtMostOnePass schedule due (schedule.turn loop tickFirst) := by
  cases goesOn : loop.isOver with
  | true => simpa only [turn, goesOn, ↓reduceIte] using before
  | false =>
    rw [sender_gone_turn before goesOn]
    split
    · rename_i ready
      -- A tick that is due is the first one, so this is the first pass.
      have noneYet : loop.run.passes = 0 :=
        before.passes.resolve_right fun passed => by simp [Nat.not_le.mpr passed.2] at ready
      exact sender_gone_pass positive fixed asks before noneYet
    · exact ⟨before.signal, before.time, before.calls, before.passes⟩

variable {state : σ}

theorem sender_gone_start (asks : schedule.request = .beforeStart)
    (gone : schedule.means = .senderDropped) :
    (schedule.start state).isOver = false ∧
      AtMostOnePass schedule due (schedule.start state) := by
  refine ⟨by simp [start, asks, gone, StopSignal.asked], ?_⟩
  constructor <;> simp [start, asks, gone, StopSignal.asked, repeatedCalls]

/-- Where the sender is gone before the start but the value was never set, the loop begins, and it may make
one pass before it looks at the signal. -/
theorem sender_gone_at_start (positive : 0 < schedule.tick) (fixed : schedule.IsFixed due)
    (asks : schedule.request = .beforeStart) (gone : schedule.means = .senderDropped)
    (choices : List Bool) : AtMostOnePass schedule due (schedule.after state choices) := by
  induction choices using List.reverseRecOn with
  | nil => exact (sender_gone_start asks gone).2
  | append_singleton earlier choice ih =>
    rw [after, List.foldl_append]
    exact at_most_one_turn positive fixed asks ih choice

/-- The same schedule, but asked to stop in its first listing. -/
def askedInFirst (schedule : Schedule σ) : Schedule σ :=
  { schedule with request := .duringListing 1 }

theorem turn_asked_in_first (asks : schedule.request = .beforeStart)
    (passed : 0 < loop.run.passes) (tickFirst : Bool) :
    schedule.turn loop tickFirst = schedule.askedInFirst.turn loop tickFirst ∧
      0 < (schedule.turn loop tickFirst).run.passes := by
  have samePass : schedule.makePass loop = schedule.askedInFirst.makePass loop := by
    simp [makePass, askedInFirst, asks, StopRequest.isMade, Nat.ne_of_gt passed]
  constructor
  · simp only [turn, samePass]
  · unfold turn
    split
    · exact passed
    · split
      · exact Nat.succ_pos _
      · split <;> exact passed

/-- Once the first tick is taken, the sender that is gone before the start is to the loop as one that goes
in the first listing. -/
theorem gone_as_in_first (asks : schedule.request = .beforeStart)
    (gone : schedule.means = .senderDropped) (choices : List Bool) :
    schedule.after state (true :: choices) = schedule.askedInFirst.after state (true :: choices) ∧
      0 < (schedule.after state (true :: choices)).run.passes := by
  induction choices using List.reverseRecOn with
  | nil =>
    constructor <;>
      simp [after, turn, start, makePass, askedInFirst, asks, gone, StopSignal.asked,
        StopRequest.isMade, ScheduleRun.add]
  | append_singleton earlier choice ih =>
    have next := turn_asked_in_first asks ih.2 choice
    simp only [after, ← List.cons_append, List.foldl_append, List.foldl_cons, List.foldl_nil]
      at ih next ⊢
    rw [← ih.1]
    exact next

theorem sender_gone_ends (positive : 0 < schedule.tick) (fixed : schedule.IsFixed due)
    (asks : schedule.request = .beforeStart) (gone : schedule.means = .senderDropped)
    (tickFirst choice : Bool) (later : List Bool) :
    let loop := schedule.after state (tickFirst :: choice :: later)
    loop.isOver = true ∧ loop.run.passes = if tickFirst then 1 else 0 := by
  intro loop
  cases tickFirst with
  | false =>
    obtain ⟨begins, atStart⟩ : (schedule.start state).isOver = false ∧
        AtMostOnePass schedule due (schedule.start state) := sender_gone_start asks gone
    have ended : loop = { schedule.start state with isOver := true } := by
      simp only [loop, after, List.foldl_cons]
      rw [sender_gone_turn atStart begins, ← List.foldl_cons]
      exact ended_stays rfl _
    rw [ended]
    exact ⟨rfl, rfl⟩
  | true =>
    have stops : schedule.askedInFirst.StopsAfter state due 1 :=
      stops_after positive fixed Nat.one_pos (asked_in_listing rfl) (Nat.le_refl 1)
    obtain ⟨ended, one, -⟩ := stops.stops (true :: choice :: later) (by simp)
    rw [← (gone_as_in_first asks gone (choice :: later)).1] at ended one
    exact ⟨ended, one⟩

theorem stops_at_once (positive : 0 < schedule.tick) (fixed : schedule.IsFixed due)
    (asks : schedule.request = .beforeStart) (gone : schedule.means = .senderDropped) :
    schedule.StopsAtOnce state due where
  atMostOne choices := by
    have kept : AtMostOnePass schedule due (schedule.after state choices) :=
      sender_gone_at_start positive fixed asks gone choices
    refine ⟨?_, kept.calls, kept.time⟩
    obtain zero | ⟨one, -⟩ := kept.passes <;> omega
  stops := sender_gone_ends positive fixed asks gone
  outcome := by
    have turns : List.replicate schedule.mostTurns true = [true, true] := by
      rw [mostTurns, asks]
      rfl
    have kept : AtMostOnePass schedule due (schedule.after state [true, true]) :=
      sender_gone_at_start positive fixed asks gone _
    obtain ⟨ended, one⟩ : (schedule.after state [true, true]).isOver = true ∧
        (schedule.after state [true, true]).run.passes = 1 :=
      sender_gone_ends positive fixed asks gone true true []
    refine ⟨_, ?_, one, one ▸ kept.calls⟩
    rw [Schedule.outcome, if_neg (Nat.ne_of_gt positive), turns, ← kept.time]
    exact if_pos ended

end SenderGone

/-- A schedule whose passes poll the same mailboxes stops after the pass in which it is asked to, be it by
the value of the signal or by the loss of its sender, and however the polls go. If the value is set
before, no pass is made; if only the sender is gone before, one pass at most. -/
theorem stops_after_asked_pass (schedule : Schedule σ) (state : σ) (due : List Mailbox)
    (positive : 0 < schedule.tick) (fixed : schedule.IsFixed due) :
    (∀ number, schedule.request = .duringListing number → 0 < number →
      schedule.StopsAfter state due number) ∧
    (∀ number, schedule.request = .duringPoll number → 0 < number → due ≠ [] →
      schedule.StopsAfter state due ((number + due.length - 1) / due.length)) ∧
    (schedule.request = .beforeStart → schedule.means = .valueSet →
      (∀ choices, schedule.after state choices = schedule.start state) ∧
        schedule.outcome state = .stopped {} 0) ∧
    (schedule.request = .beforeStart → schedule.means = .senderDropped →
      schedule.StopsAtOnce state due) := by
  refine ⟨?_, ?_, ?_, stops_at_once positive fixed⟩
  · intro number asks nonzero
    have latest : schedule.request.latestPass = number := by
      rw [asks]
      rfl
    exact stops_after positive fixed nonzero (asked_in_listing asks) (Nat.le_of_eq latest.symm)
  · intro number asks nonzero dueSome
    have someDue : 0 < due.length := List.length_pos_iff.mpr dueSome
    refine stops_after positive fixed ?_ (asked_in_poll asks dueSome) ?_
    · exact Nat.div_pos (by omega) someDue
    · -- Every pass makes a poll at least.
      rw [asks, StopRequest.latestPass, Nat.div_le_iff_le_mul_add_pred someDue]
      have polls : number ≤ due.length * number := Nat.le_mul_of_pos_left number someDue
      omega
  · intro asks valued
    have ended : (schedule.start state).isOver = true := by
      simp [start, asks, valued, StopSignal.asked]
    have stays : ∀ choices, schedule.after state choices = schedule.start state :=
      ended_stays ended
    refine ⟨stays, ?_⟩
    rw [outcome, if_neg (Nat.ne_of_gt positive), stays]
    exact if_pos ended

section TwoInboxes

def twoInboxes : List Mailbox :=
  let inbox : Mailbox :=
    ⟨⟨"m1"⟩, ⟨"c1"⟩, "Inbox", "in@c1.test", 5, none, true, false, newYear, newYear⟩
  [inbox, { inbox with id := ⟨"m2"⟩ }]

/-- Two mailboxes that are due in every pass. No poll is recorded, and the second one breaks off. -/
def inboxSchedule (request : StopRequest) (means : StopMeans) : Schedule Unit where
  source := {
    list := fun _ => .ok twoInboxes
    recordPoll := fun _ _ _ => .error (.internal "full") }
  tick := 60
  clock _ := newYear
  poll number _ := if number = 1 then .brokeOff none else .processed 3
  request := request
  means := means

/-- With the sender gone before the start a pass is made all the same, where the tick comes first. -/
theorem pass_after_lost_sender :
    let schedule := inboxSchedule .beforeStart .senderDropped
    (schedule.after () [true, true]).isOver = true ∧
      (schedule.after () [true, true]).run.passes = 1 ∧
      (schedule.after () [true, true]).run.calls = [⟨"m1"⟩, ⟨"m2"⟩] ∧
      ¬ ∀ choices, (schedule.after () choices).run.passes = 0 := by
  intro schedule
  have made : (schedule.after () [true, true]).run.passes = 1 := by decide +kernel
  refine ⟨by decide +kernel, made, by decide +kernel, fun noPass => ?_⟩
  rw [noPass] at made
  exact Nat.zero_ne_one made

theorem stopped_in_third_poll :
    (∀ request means, 0 < (inboxSchedule request means).tick ∧
        (inboxSchedule request means).IsFixed twoInboxes) ∧
      (inboxSchedule (.duringListing 3) .valueSet).StopsAfter () twoInboxes 3 ∧
      (inboxSchedule (.duringPoll 3) .senderDropped).StopsAfter () twoInboxes 2 ∧
      (inboxSchedule .beforeStart .valueSet).outcome () = .stopped {} 0 ∧
      (inboxSchedule .beforeStart .senderDropped).StopsAtOnce () twoInboxes := by
  have positive : 0 < 60 := by decide
  have fixed : ∀ request means, (inboxSchedule request means).IsFixed twoInboxes :=
    fun request means => ⟨.ok twoInboxes, fun _ => rfl, fun _ => rfl⟩
  obtain ⟨inListing, -⟩ := stops_after_asked_pass (inboxSchedule (.duringListing 3) .valueSet) ()
    twoInboxes positive (fixed _ _)
  obtain ⟨-, inPoll, -⟩ := stops_after_asked_pass (inboxSchedule (.duringPoll 3) .senderDropped) ()
    twoInboxes positive (fixed _ _)
  obtain ⟨-, -, valued, -⟩ := stops_after_asked_pass (inboxSchedule .beforeStart .valueSet) ()
    twoInboxes positive (fixed _ _)
  obtain ⟨-, -, -, gone⟩ := stops_after_asked_pass (inboxSchedule .beforeStart .senderDropped) ()
    twoInboxes positive (fixed _ _)
  have passes : (3 + twoInboxes.length - 1) / twoInboxes.length = 2 := rfl
  exact ⟨fun request means => ⟨positive, fixed request means⟩, inListing 3 rfl (by decide),
    passes ▸ inPoll 3 rfl (by decide) (List.cons_ne_nil _ _), (valued rfl rfl).2, gone rfl rfl⟩

end TwoInboxes

end Schedule

end TicketRouting
