import Itineraries.Rebuild.Coordinator

namespace Itineraries
namespace Rebuild

/-!
# A coordinator on a virtual clock

A simulation decides which move a coordinator makes when.  Time stands still
while anything can be done without it; only then does the clock go on, and it
stops at every moment for which an alarm is set.

Those who act are the scheduling loop, the callers and the clock of the loop.
Whoever can act stands in a second line, in the order of having been woken, and
acts until there is nothing left to do but wait.

Reads of the inventory can be delayed, held at a gate, and made to fail.
-/

inductive Agent where
  | holder (holder : Holder)
  | ticker
deriving DecidableEq, Repr

/-- A moment at which somebody wants to be woken. -/
structure Alarm where
  due : Nat
  agent : Agent
deriving DecidableEq, Repr

/-- How reads of the inventory fare.  Gate and delay, in milliseconds, are those at the
beginning of a read, the failure is that at its end.  So many reads as there are permits
may still pass a closed gate. -/
structure Conditions where
  gateClosed : Bool := false
  permits : Nat := 0
  delay : Nat := 0
  failure : Option InventoryFault := none
deriving DecidableEq, Repr

/-- How far a read has come: it waits at the gate with a delay still to come, it waits for
a moment, it has nothing more to wait for, a helper fetches the flights from a file, or the
flights are there and helpers fill the cache. -/
inductive ReadStage where
  | atGate (delay : Nat)
  | asleep (wakes : Nat)
  | ready
  | fetching
  | warming
deriving DecidableEq, Repr

/-- A read in progress, and the moment at which it is given up. -/
structure Reading where
  stage : ReadStage
  deadline : Nat
deriving DecidableEq, Repr

/-- A coordinator with its clock, which counts milliseconds, and those who act on it.
Alarms stand in the order in which they were set, and those who can act in the order in
which they were woken; the clock of the loop strikes at its next tick, if there is one.
For those outside it is known how many events the observer has been shown or has come too
late for, and which versions are held under which names. -/
structure Simulation where
  coordinator : Coordinator
  clock : Nat := 0
  conditions : Conditions := {}
  reading : Option Reading := none
  nextTick : Option Nat := none
  alarms : List Alarm := []
  ready : List Agent := []
  seen : Nat := 0
  holds : List (String × Nat) := []

namespace Simulation

/-! ## Waking and waiting -/

/-- Wake somebody, who then stands in the line of those who can act. -/
def wake (simulation : Simulation) (agent : Agent) : Simulation :=
  if agent ∈ simulation.ready then simulation
  else { simulation with ready := simulation.ready ++ [agent] }

def setAlarm (simulation : Simulation) (due : Nat) (agent : Agent) : Simulation :=
  { simulation with alarms := simulation.alarms ++ [⟨due, agent⟩] }

def clearAlarms (simulation : Simulation) (agent : Agent) : Simulation :=
  { simulation with alarms := simulation.alarms.filter (·.agent ≠ agent) }

/-- Wake the loop if it waits for a signal and there is one, or if it is to
end. -/
def wakeLoop (simulation : Simulation) : Simulation :=
  if simulation.coordinator.canTake ∨ simulation.coordinator.canLeave then
    simulation.wake (.holder .loop)
  else
    simulation

/-- Wake the first in the line for a rebuild, whose turn it is. -/
def wakeNext (simulation : Simulation) : Simulation :=
  match simulation.coordinator.line with
  | demand :: _ => simulation.wake (.holder demand.holder)
  | [] => simulation

/-! ## Reading the inventory -/

/-- The stage of a read that has passed the gate. -/
def afterGate (simulation : Simulation) (delay : Nat) : ReadStage :=
  if delay = 0 then .ready else .asleep (simulation.clock + delay)

/-- A read that has passed the gate waits for the rest of its delay. -/
def passGate (simulation : Simulation) (reading : Reading) (delay : Nat) (agent : Agent) :
    Simulation :=
  let passed := { simulation with reading := some { reading with stage := simulation.afterGate delay } }
  if delay = 0 then passed else passed.setAlarm (simulation.clock + delay) agent

/-- A read begins under the conditions of this moment. -/
def beginRead (simulation : Simulation) (agent : Agent) : Simulation :=
  let timeout := simulation.coordinator.engine.config.inventoryTimeoutMillis
  let deadline := simulation.clock + timeout
  let delay := simulation.conditions.delay
  let begun : Simulation :=
    if simulation.conditions.gateClosed then
      { simulation with reading := some ⟨.atGate delay, deadline⟩ }
    else
      simulation.passGate ⟨.ready, deadline⟩ delay agent
  begun.setAlarm deadline agent

/-- The rebuild in progress ends, and the line moves up. -/
def endRebuild (simulation : Simulation) (agent : Agent) : Simulation :=
  ({ simulation with
      coordinator := simulation.coordinator.finish
      reading := none }.clearAlarms agent).wakeNext

/-- A read ends without flights, and with it the rebuild. -/
def giveUp (simulation : Simulation) (agent : Agent) (readEnd : ReadEnd) : Simulation :=
  { simulation with coordinator := simulation.coordinator.endRead readEnd }.endRebuild agent

/-- Whether the inventory is a file, which only a helper can read.  Helpers
take no time, but everyone who can act already goes first. -/
def readsFile (simulation : Simulation) : Bool :=
  match simulation.coordinator.inventory with
  | .file _ => true
  | .memory _ => false

/-! ## Acting -/

/-- What somebody does when it is their turn to act.  It is one thing or nothing, after
which they go on, let everyone else who can act go first, or wait to be woken. -/
inductive Act where
  | goOn (simulation : Simulation)
  | yield (simulation : Simulation)
  | rest (simulation : Simulation)

/-- A read that cannot go on is given up when it is time. -/
def actWaiting (simulation : Simulation) (reading : Reading) (agent : Agent) : Act :=
  if reading.deadline ≤ simulation.clock then .goOn (simulation.giveUp agent .timedOut)
  else .rest simulation

/-- The flights are there.  If there are pairs to warm, helpers do that. -/
def actLoaded (simulation : Simulation) (reading : Reading) (agent : Agent) : Act :=
  let loaded := { simulation with coordinator := simulation.coordinator.endRead .loaded }
  if loaded.coordinator.isWarming then
    .yield { loaded with reading := some { reading with stage := .warming } }
  else
    .goOn (loaded.endRebuild agent)

/-- A read has nothing more to wait for.  When this happens just at the moment
at which it would be given up, only a file is too slow. -/
def actReady (simulation : Simulation) (reading : Reading) (agent : Agent) : Act :=
  match simulation.conditions.failure with
  | some fault => .goOn (simulation.giveUp agent (.failed fault))
  | none =>
    if simulation.readsFile then
      if reading.deadline ≤ simulation.clock then .goOn (simulation.giveUp agent .timedOut)
      else .yield { simulation with reading := some { reading with stage := .fetching } }
    else
      simulation.actLoaded reading agent

/-- Whoever runs a rebuild looks after the read. -/
def actReading (simulation : Simulation) (reading : Reading) (agent : Agent) : Act :=
  match reading.stage with
  | .atGate delay =>
    match simulation.conditions.permits with
    | permits + 1 =>
      let conditions := { simulation.conditions with permits := permits }
      .goOn ({ simulation with conditions := conditions }.passGate reading delay agent)
    | 0 => simulation.actWaiting reading agent
  | .asleep wakes =>
    if wakes ≤ simulation.clock then
      .goOn { simulation with reading := some { reading with stage := .ready } }
    else
      simulation.actWaiting reading agent
  | .ready => simulation.actReady reading agent
  | .fetching => simulation.actLoaded reading agent
  | .warming => .goOn (simulation.endRebuild agent)

/-- The first in the line is served.  If no rebuild begins, the line moves
up. -/
def actFirst (simulation : Simulation) (agent : Agent) : Act :=
  let served := { simulation with coordinator := simulation.coordinator.serveFirst }
  if served.coordinator.running.isSome then .goOn (served.beginRead agent)
  else .goOn served.wakeNext

def actAtQueue (simulation : Simulation) : Act :=
  if simulation.coordinator.canLeave then
    .rest { simulation with coordinator := simulation.coordinator.leave }
  else if simulation.coordinator.canTake then
    .goOn { simulation with coordinator := simulation.coordinator.take }
  else
    .rest simulation

/-- What somebody does who may stand in the line for a rebuild. -/
def actHolder (simulation : Simulation) (holder : Holder) : Act :=
  let coordinator := simulation.coordinator
  let otherwise : Act := if holder = .loop then simulation.actAtQueue else .rest simulation
  match coordinator.running, simulation.reading, coordinator.line with
  | some running, some reading, _ =>
    if running.demand.holder = holder then simulation.actReading reading (.holder holder)
    else otherwise
  | none, _, demand :: _ =>
    if demand.holder = holder then simulation.actFirst (.holder holder) else otherwise
  | _, _, _ => otherwise

/-- The time between two strokes of the clock of the loop. -/
def period (simulation : Simulation) : Nat :=
  1000 * simulation.coordinator.engine.config.rebuildIntervalSeconds

/-- The clock of the loop is set for its next stroke. -/
def setTick (simulation : Simulation) (due : Nat) : Simulation :=
  { simulation with nextTick := some due }.setAlarm due .ticker

/-- The first stroke of the clock of the loop after this moment, when a stroke
was due at a given one.  Strokes that have been missed are left out. -/
def strokeAfter (simulation : Simulation) (due : Nat) : Nat :=
  simulation.clock + (simulation.period - (simulation.clock - due) % simulation.period)

/-- What the clock of the loop does: it is set when it is first asked, strikes
when it is time, and stands still after the loop has been told to end.  A loop
may have no clock. -/
def actTicker (simulation : Simulation) : Act :=
  if simulation.coordinator.isListening ∧ 0 < simulation.period then
    match simulation.nextTick with
    | none => .rest (simulation.setTick (simulation.clock + simulation.period))
    | some due =>
      if due ≤ simulation.clock then
        .rest ({ simulation with coordinator := simulation.coordinator.tick }.wakeLoop.setTick
          (simulation.strokeAfter due))
      else
        .rest simulation
  else
    .rest ({ simulation with nextTick := none }.clearAlarms .ticker)

def act (simulation : Simulation) : Agent → Act
  | .holder holder => simulation.actHolder holder
  | .ticker => simulation.actTicker

/-- The first of those who can act has a turn. -/
def turn (simulation : Simulation) : Simulation :=
  match simulation.ready with
  | [] => simulation
  | agent :: others =>
    match { simulation with ready := others }.act agent with
    | .goOn next => { next with ready := agent :: next.ready }
    | .yield next => { next with ready := next.ready ++ [agent] }
    | .rest next => next

end Simulation
end Rebuild
end Itineraries
