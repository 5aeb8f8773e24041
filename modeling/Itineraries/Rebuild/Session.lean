import Itineraries.Rebuild.Standstill

namespace Itineraries
namespace Rebuild

/-!
# Sessions

A session names what somebody outside does with a simulated coordinator, one thing
after the other.  What is done is told apart from what comes of it: an intervention
changes something and wakes those who may now have something to do, and a step of a
session is an intervention after which everything happens that can happen before the
clock goes on.

The answer to a step is taken from the state in which the thing was done, so it does not
tell what came of it.
-/

/-- What somebody outside can do.  A released read has passed the gate, or will pass it
when it comes there; the versions of snapshots can be held under names; and an observer
who subscribes is shown only events that are still to come. -/
inductive Intervention where
  | start
  | shutdown
  | trigger (reason : Reason)
  | call (reason : Reason)
  | setGate (closed : Bool)
  | setDelay (milliseconds : Nat)
  | setFailure (failure : Option InventoryFault)
  | release (permits : Nat)
  | attach
  | upsert (flight : Flight)
  | replace (flights : List Flight)
  | remove (id : String)
  | setFile (content : FileContent)
  | search (pair : Pair) (given : Option Constraints)
  | invalidate
  | hold (name : String)
  | subscribe

namespace Simulation

def ofEngine (engine : Engine) (inventory : Inventory) : Simulation where
  coordinator := { engine := engine, inventory := inventory }

def withCoordinator (simulation : Simulation) (coordinator : Coordinator) : Simulation :=
  { simulation with coordinator := coordinator }

/-- Let so many reads pass the gate, and wake whoever may wait there. -/
def permit (simulation : Simulation) (permits : Nat) : Simulation :=
  let conditions := simulation.conditions
  let released :=
    { simulation with conditions := { conditions with permits := conditions.permits + permits } }
  match simulation.coordinator.running with
  | some running => released.wake (.holder running.demand.holder)
  | none => released

/-- What an intervention does before anybody acts on it. -/
def intervene (simulation : Simulation) : Intervention → Simulation
  | .start =>
    if simulation.coordinator.start.1 then
      ((simulation.withCoordinator simulation.coordinator.start.2).wake (.holder .loop)).wake
        .ticker
    else simulation
  | .shutdown => (simulation.withCoordinator simulation.coordinator.shutdown).wakeLoop.wake .ticker
  | .trigger reason =>
    (simulation.withCoordinator (simulation.coordinator.request reason).2).wakeLoop
  | .call reason =>
    (simulation.withCoordinator (simulation.coordinator.call reason).2).wake
      (.holder (.caller simulation.coordinator.calls))
  | .setGate closed =>
    { simulation with conditions := { simulation.conditions with gateClosed := closed } }
  | .setDelay milliseconds =>
    { simulation with conditions := { simulation.conditions with delay := milliseconds } }
  | .setFailure failure =>
    { simulation with conditions := { simulation.conditions with failure := failure } }
  | .release permits => simulation.permit permits
  | .attach => simulation.withCoordinator simulation.coordinator.attach
  | .upsert flight => (simulation.withCoordinator (simulation.coordinator.upsert flight)).wakeLoop
  | .replace flights =>
    (simulation.withCoordinator (simulation.coordinator.replace flights)).wakeLoop
  | .remove id => (simulation.withCoordinator (simulation.coordinator.remove id).2).wakeLoop
  | .setFile content => simulation.withCoordinator (simulation.coordinator.setFile content)
  | .search pair given =>
    simulation.withCoordinator (simulation.coordinator.search pair given).2
  | .invalidate => simulation.withCoordinator simulation.coordinator.invalidate.2
  | .hold name =>
    { simulation with holds := (name, simulation.coordinator.engine.version) :: simulation.holds }
  | .subscribe => { simulation with seen := simulation.coordinator.events.length }

/-- A step of a session. -/
def perform (simulation : Simulation) (intervention : Intervention) : Simulation :=
  (simulation.intervene intervention).settle

/-! ## Rebuilds -/

/-- Start the scheduling loop, and its clock if it has one. -/
def start (simulation : Simulation) : Bool × Simulation :=
  (simulation.coordinator.start.1, simulation.perform .start)

def shutdown (simulation : Simulation) : Simulation :=
  simulation.perform .shutdown

def trigger (simulation : Simulation) (reason : Reason) : Outcome × Simulation :=
  ((simulation.coordinator.request reason).1, simulation.perform (.trigger reason))

/-- Call for a rebuild.  The answer is the number of the call. -/
def call (simulation : Simulation) (reason : Reason) : Nat × Simulation :=
  (simulation.coordinator.calls, simulation.perform (.call reason))

/-! ## Conditions of reads

The gate and the delay are for reads to come, a failure also for the read in progress.
-/

def setGate (simulation : Simulation) (closed : Bool) : Simulation :=
  simulation.perform (.setGate closed)

def setDelay (simulation : Simulation) (milliseconds : Nat) : Simulation :=
  simulation.perform (.setDelay milliseconds)

def setFailure (simulation : Simulation) (failure : Option InventoryFault) : Simulation :=
  simulation.perform (.setFailure failure)

def release (simulation : Simulation) (permits : Nat) : Simulation :=
  simulation.perform (.release permits)

/-! ## The inventory -/

def attach (simulation : Simulation) : Simulation :=
  simulation.perform .attach

def upsert (simulation : Simulation) (flight : Flight) : Simulation :=
  simulation.perform (.upsert flight)

def replace (simulation : Simulation) (flights : List Flight) : Simulation :=
  simulation.perform (.replace flights)

/-- Take the flights with an id out of the inventory, and tell whether there were any. -/
def remove (simulation : Simulation) (id : String) : Bool × Simulation :=
  ((simulation.coordinator.remove id).1, simulation.perform (.remove id))

def setFile (simulation : Simulation) (content : FileContent) : Simulation :=
  simulation.perform (.setFile content)

/-! ## Searches and snapshots -/

def search (simulation : Simulation) (pair : Pair) (given : Option Constraints) :
    Except Fault (List Itinerary) × Simulation :=
  ((simulation.coordinator.search pair given).1, simulation.perform (.search pair given))

/-- Drop all entries of the current cache, and tell how many there were. -/
def invalidate (simulation : Simulation) : Nat × Simulation :=
  (simulation.coordinator.invalidate.1, simulation.perform .invalidate)

def hold (simulation : Simulation) (name : String) : Simulation :=
  simulation.perform (.hold name)

def held? (simulation : Simulation) (name : String) : Option Snapshot :=
  (simulation.holds.lookup name).bind simulation.coordinator.engine.snapshot?

/-! ## Events -/

/-- The number of events that wait for an observer who does not keep up: the
configured capacity, rounded up to a power of two. -/
def eventCapacity (simulation : Simulation) : Nat :=
  simulation.coordinator.engine.config.notificationCapacity.nextPowerOfTwo

def subscribe (simulation : Simulation) : Simulation :=
  simulation.perform .subscribe

/-- The number of events that the observer has missed, and those that wait.  Whoever
has been shown them is as one who subscribes now. -/
def observe (simulation : Simulation) : (Nat × List Event) × Simulation :=
  let unseen := simulation.coordinator.events.drop simulation.seen
  let lost := unseen.length - simulation.eventCapacity
  ((lost, unseen.drop lost), simulation.subscribe)

end Simulation
end Rebuild
end Itineraries
