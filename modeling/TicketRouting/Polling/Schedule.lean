import TicketRouting.Polling.Pass
/-!
Passes at a fixed distance in time, the first at once, until a stop is asked for. A loop waits for the
next tick and for a change of the stop signal, whichever comes first. A pass under way is finished;
passes themselves take no time here.
-/
namespace TicketRouting

/-- When a stop is asked for: before anything happens, or during the listing or the poll of a given
number, counted from 1 over all passes. -/
inductive StopRequest where
  | beforeStart
  | duringListing (number : Nat)
  | duringPoll (number : Nat)
deriving DecidableEq

inductive StopMeans where
  | valueSet
  | senderDropped
deriving DecidableEq

/-- The stop signal as the loop sees it. A value is new until the loop has seen it. -/
structure StopSignal where
  isSet : Bool := false
  isNew : Bool := false
  isSenderGone : Bool := false
deriving DecidableEq

namespace StopSignal

def asked (signal : StopSignal) : StopMeans → StopSignal
  | .valueSet => { signal with isSet := true, isNew := true }
  | .senderDropped => { signal with isSenderGone := true }

def isChanged (signal : StopSignal) : Bool := signal.isNew || signal.isSenderGone

/-- Whether the change is one to stop at. A new value is seen first, before it shows that the sender
is gone. -/
def isStop (signal : StopSignal) : Bool := !signal.isNew || signal.isSet

def seen (signal : StopSignal) : StopSignal := { signal with isNew := false }

end StopSignal

structure ScheduleRun where
  passes : Nat := 0
  calls : List MailboxId := []
  recorded : List MailboxId := []

namespace StopRequest

def isMade (request : StopRequest) (run : ScheduleRun) : Bool :=
  match request with
  | beforeStart => true
  | duringListing number => number ≤ run.passes
  | duringPoll number => number ≤ run.calls.length

def latestPass : StopRequest → Nat
  | beforeStart => 0
  | duringListing number => number
  | duringPoll number => number

end StopRequest

/-- How a run ends. A distance of no time between passes is refused. -/
inductive ScheduleOutcome where
  | refused
  | stopped (run : ScheduleRun) (elapsed : Nat)
  | neverStops

def ScheduleRun.add {σ : Type} (run : ScheduleRun) (pass : Pass σ) : ScheduleRun where
  passes := run.passes + 1
  calls := run.calls ++ pass.calls
  recorded := run.recorded ++ pass.recorded.map (·.1)

/-- What a schedule goes by: passes are `tick` apart, `clock` tells the time of each of them, and
`poll` what becomes of the poll with a given number. -/
structure Schedule (σ : Type) where
  source : MailboxSource σ
  tick : Nat
  clock : Nat → Instant
  poll : Nat → Mailbox → PollOutcome
  request : StopRequest
  means : StopMeans

structure ScheduleLoop (σ : Type) where
  isOver : Bool
  time : Nat
  nextTick : Nat
  signal : StopSignal
  run : ScheduleRun
  state : σ

namespace Schedule
variable {σ : Type}

/-- The loop before its first turn. It does not begin if the signal is set already. -/
def start (schedule : Schedule σ) (state : σ) : ScheduleLoop σ :=
  let signal : StopSignal :=
    if schedule.request = .beforeStart then StopSignal.asked {} schedule.means else {}
  ⟨signal.isSet, 0, 0, signal, {}, state⟩

/-- A pass, with all that is asked for in the course of it. The next tick is counted from now. -/
def makePass (schedule : Schedule σ) (loop : ScheduleLoop σ) : ScheduleLoop σ :=
  let pass := runPass schedule.source (schedule.clock loop.run.passes)
    (fun number => schedule.poll (loop.run.calls.length + number)) loop.state
  let run := loop.run.add pass
  { loop with
    nextTick := loop.time + schedule.tick
    signal := if schedule.request.isMade run && !schedule.request.isMade loop.run then
      loop.signal.asked schedule.means else loop.signal
    run := run
    state := pass.state }

/-- One turn of the loop. Where both the tick is due and the signal has changed, either may come first,
which `tickFirst` decides; where neither, time passes until the tick. -/
def turn (schedule : Schedule σ) (loop : ScheduleLoop σ) (tickFirst : Bool) : ScheduleLoop σ :=
  if loop.isOver then loop
  else if loop.nextTick ≤ loop.time && (tickFirst || !loop.signal.isChanged) then
    schedule.makePass loop
  else if loop.signal.isChanged then
    { loop with isOver := loop.signal.isStop, signal := loop.signal.seen }
  else { loop with time := loop.nextTick }

def after (schedule : Schedule σ) (state : σ) (choices : List Bool) : ScheduleLoop σ :=
  choices.foldl schedule.turn (schedule.start state)

/-- The turns after which a loop is given up that was not asked to stop until then: between two passes
it waits, and after the last one it stops. -/
def mostTurns (schedule : Schedule σ) : Nat := 2 * (schedule.request.latestPass + 1)

/-- How the schedule ends, the tick coming first wherever there is a choice. -/
def outcome (schedule : Schedule σ) (state : σ) : ScheduleOutcome :=
  if schedule.tick = 0 then .refused
  else
    let loop := schedule.after state (List.replicate schedule.mostTurns true)
    if loop.isOver then .stopped loop.run loop.time else .neverStops

end Schedule

def runSchedule {σ : Type} (source : MailboxSource σ) (tick : Nat) (clock : Nat → Instant)
    (poll : Nat → Mailbox → PollOutcome) (request : StopRequest) (means : StopMeans) (state : σ) :
    ScheduleOutcome :=
  ({ source, tick, clock, poll, request, means } : Schedule σ).outcome state

end TicketRouting
