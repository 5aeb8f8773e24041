import Itineraries.Engine
import Itineraries.Inventory

namespace Itineraries
namespace Rebuild

/-!
# The coordinator

A coordinator is the only one to replace the snapshot of its engine.  It runs
one rebuild at a time.  Whoever wants one stands in a line, first come, first
served: callers who wait for the outcome, and the scheduling loop on behalf of
the signals in its queue.  Everyone in the line holds a ticket.  When their
turn comes and a rebuild that began after the ticket was taken has ended in the
meantime, they get its outcome and no rebuild is run for them.

Everything here is a single move of the coordinator.  Which move is made when
is left open, so that what holds of all moves holds of every way in which they
can be interleaved.
-/

/-- What a successful rebuild has made. -/
structure Summary where
  graphVersion : Nat
  locationCount : Nat
  flightCount : Nat
  excludedCount : Nat
  warmedPairs : Nat
  reason : Reason
deriving DecidableEq, Repr

abbrev Result := Except Fault Summary

inductive Event where
  | completed (summary : Summary)
  | failed (reason : Reason) (message : String)
deriving DecidableEq, Repr

/-- Who can stand in the line and hold a ticket. -/
inductive Holder where
  | loop
  | caller (number : Nat)
deriving DecidableEq, Repr

/-- What somebody in the line waits for: a rebuild that begins after their
ticket was taken. -/
structure Demand where
  holder : Holder
  reason : Reason
  ticket : Nat
deriving DecidableEq, Repr

/-- How far a rebuild has come.  Once the inventory has been read, it is decided what the
next snapshot will be and how many pairs it is warmed with, or what has gone wrong; the
snapshot is published later, when the rebuild ends. -/
inductive Progress where
  | reading
  | decided (outcome : Except Fault (Snapshot × Nat))

/-- A rebuild in progress.  It covers all tickets up to the latest that had
been taken when it began. -/
structure Running where
  demand : Demand
  covers : Nat
  progress : Progress := .reading

/-- The rebuild that ended last. -/
structure Finished where
  covers : Nat
  result : Result

/-- What the scheduling loop is doing.  At its queue it waits for a signal; when it is busy
it stands in the line or runs a rebuild. -/
inductive LoopPhase where
  | unstarted
  | atQueue
  | busy
  | ended
deriving DecidableEq, Repr

/-- How a read of the inventory ends.  Flights that are loaded are those that the inventory
has when the read ends, not those that it had when it began. -/
inductive ReadEnd where
  | loaded
  | failed (fault : InventoryFault)
  | timedOut
deriving DecidableEq, Repr

/-- An engine with its inventory and all that is known about rebuilds.

Those who wait stand in the line, first come first; while no rebuild is in progress it is
the turn of the first.  The rebuilds that have begun cover all tickets up to one, and every
read that has begun is counted.  Events are kept from the first on.  Calls are numbered from
zero, and the answer to a call is kept under its number.  A loop that is stopping has been
told to end and has not done so yet. -/
structure Coordinator where
  engine : Engine
  inventory : Inventory
  requests : Requests := {}
  begun : Nat := 0
  line : List Demand := []
  running : Option Running := none
  finished : Option Finished := none
  succeeded : Nat := 0
  failed : Nat := 0
  reads : Nat := 0
  lastSummary : Option Summary := none
  events : List Event := []
  calls : Nat := 0
  answers : List (Nat × Result) := []
  loop : LoopPhase := .unstarted
  stopping : Bool := false

namespace Coordinator

def state (coordinator : Coordinator) : State :=
  if coordinator.running.isSome then .rebuilding else .idle

/-- Whether a ticket has been taken that no rebuild covers yet. -/
def pending (coordinator : Coordinator) : Bool :=
  decide (coordinator.begun < coordinator.requests.issued)

def answer? (coordinator : Coordinator) (number : Nat) : Option Result :=
  coordinator.answers.lookup number

def canTake (coordinator : Coordinator) : Bool :=
  coordinator.loop = .atQueue && !coordinator.stopping && coordinator.requests.receive.1.isSome

def canLeave (coordinator : Coordinator) : Bool :=
  coordinator.loop = .atQueue && coordinator.stopping

/-- Whether the loop runs and has not been told to end. -/
def isListening (coordinator : Coordinator) : Bool :=
  (coordinator.loop = .atQueue || coordinator.loop = .busy) && !coordinator.stopping

/-! ## Requests -/

/-- Ask the scheduling loop for a rebuild. -/
def request (coordinator : Coordinator) (reason : Reason) : Outcome × Coordinator :=
  let (outcome, requests) := coordinator.requests.request coordinator.state reason
  (outcome, { coordinator with requests := requests })

/-- Ask for a rebuild and wait for its outcome.  The answer is the number of
the call. -/
def call (coordinator : Coordinator) (reason : Reason) : Nat × Coordinator :=
  let requests := coordinator.requests.ticket
  (coordinator.calls,
    { coordinator with
      requests := requests
      calls := coordinator.calls + 1
      line := coordinator.line ++ [⟨.caller coordinator.calls, reason, requests.issued⟩] })

def tick (coordinator : Coordinator) : Coordinator :=
  if coordinator.isListening then (coordinator.request .timer).2 else coordinator

/-! ## The scheduling loop -/

/-- Start the loop with a request of its own, unless it has been started
before. -/
def start (coordinator : Coordinator) : Bool × Coordinator :=
  if coordinator.loop = .unstarted then
    (true, { (coordinator.request .startup).2 with loop := .atQueue })
  else
    (false, coordinator)

/-- Tell the loop to end.  Before it has been started there is nobody to be
told. -/
def shutdown (coordinator : Coordinator) : Coordinator :=
  if coordinator.isListening then { coordinator with stopping := true } else coordinator

/-- The loop takes the signal out of the queue and joins the line.  The signal
stands for every request up to now, so it takes the latest ticket. -/
def take (coordinator : Coordinator) : Coordinator :=
  if coordinator.loop = .atQueue ∧ ¬coordinator.stopping then
    match coordinator.requests.receive with
    | (some reason, requests) =>
      { coordinator with
        requests := requests
        line := coordinator.line ++ [⟨.loop, reason, requests.issued⟩]
        loop := .busy }
    | (none, _) => coordinator
  else
    coordinator

/-- The loop ends.  A signal that is still in the queue is lost. -/
def leave (coordinator : Coordinator) : Coordinator :=
  if coordinator.loop = .atQueue ∧ coordinator.stopping then
    { coordinator with
      requests := coordinator.requests.close
      loop := .ended }
  else
    coordinator

/-! ## The line -/

/-- Give an outcome to whoever stood in the line for it. -/
def deliver (coordinator : Coordinator) (holder : Holder) (result : Result) : Coordinator :=
  match holder with
  | .loop => { coordinator with loop := .atQueue }
  | .caller number => { coordinator with answers := coordinator.answers ++ [(number, result)] }

/-- The outcome that the last rebuild has for a ticket. -/
def coveredResult? (coordinator : Coordinator) (ticket : Nat) : Option Result :=
  coordinator.finished.bind fun finished =>
    if ticket ≤ finished.covers then some finished.result else none

/-- It is the turn of the first in line.  Either an outcome is there already, or
a rebuild begins, and with it a read of the inventory. -/
def serveFirst (coordinator : Coordinator) : Coordinator :=
  match coordinator.running, coordinator.line with
  | none, demand :: line =>
    match coordinator.coveredResult? demand.ticket with
    | some result =>
      let requests := coordinator.requests
      { coordinator with
        line := line
        requests := { requests with coalesced := requests.coalesced + 1 } }.deliver
          demand.holder result
    | none =>
      { coordinator with
        line := line
        running := some { demand := demand, covers := coordinator.requests.issued }
        begun := max coordinator.begun coordinator.requests.issued
        reads := coordinator.reads + 1 }
  | _, _ => coordinator

/-! ## The end of a rebuild -/

def flightsRead (coordinator : Coordinator) : ReadEnd → Except Fault (List Flight)
  | .loaded => coordinator.inventory.load.mapError .inventory
  | .failed fault => .error (.inventory fault)
  | .timedOut => .error (.timedOut coordinator.engine.config.inventoryTimeoutMillis)

/-- What a read leads to.  Inventory and warm pairs are those of this moment. -/
def outcomeOf (coordinator : Coordinator) (readEnd : ReadEnd) : Except Fault (Snapshot × Nat) :=
  (coordinator.flightsRead readEnd).bind coordinator.engine.nextSnapshot

def endRead (coordinator : Coordinator) (readEnd : ReadEnd) : Coordinator :=
  match coordinator.running with
  | some ⟨demand, covers, .reading⟩ =>
    { coordinator with
      running := some ⟨demand, covers, .decided (coordinator.outcomeOf readEnd)⟩ }
  | _ => coordinator

/-- Whether a snapshot is still to be filled with warm pairs. -/
def isWarming (coordinator : Coordinator) : Bool :=
  match coordinator.running with
  | some ⟨_, _, .decided (.ok _)⟩ => !coordinator.engine.policy.pairs.isEmpty
  | _ => false

def resultOf (reason : Reason) : Except Fault (Snapshot × Nat) → Result
  | .error fault => .error fault
  | .ok (snapshot, warmed) =>
    .ok
      { graphVersion := snapshot.version
        locationCount := snapshot.graph.locationCount
        flightCount := snapshot.graph.flightCount
        excludedCount := snapshot.graph.excludedCount
        warmedPairs := warmed
        reason := reason }

/-- What becomes of the engine.  A failure leaves it as it is. -/
def publish (coordinator : Coordinator) : Except Fault (Snapshot × Nat) → Engine
  | .error _ => coordinator.engine
  | .ok (snapshot, _) => coordinator.engine.publish snapshot

def eventOf (reason : Reason) : Result → Event
  | .ok summary => .completed summary
  | .error fault => .failed reason fault.message

/-- Enter a result into the books. -/
def book (coordinator : Coordinator) (reason : Reason) (result : Result) : Coordinator :=
  let told := { coordinator with events := coordinator.events ++ [eventOf reason result] }
  match result with
  | .ok summary =>
    { told with succeeded := told.succeeded + 1, lastSummary := some summary }
  | .error _ => { told with failed := told.failed + 1 }

/-- The rebuild in progress ends, once its outcome is decided. -/
def finish (coordinator : Coordinator) : Coordinator :=
  match coordinator.running with
  | some ⟨demand, covers, .decided outcome⟩ =>
    let result := resultOf demand.reason outcome
    let ended :=
      { coordinator with
        engine := coordinator.publish outcome
        running := none
        finished := some ⟨covers, result⟩ }
    (ended.book demand.reason result).deliver demand.holder result
  | _ => coordinator

/-! ## Changes of the inventory -/

/-- Change the inventory in memory, if that is the one. -/
def changeMemory (coordinator : Coordinator) (change : MemoryInventory → MemoryInventory) :
    Coordinator :=
  match coordinator.inventory with
  | .memory inventory => { coordinator with inventory := .memory (change inventory) }
  | .file _ => coordinator

/-- Let a change be followed by a request, if the inventory is attached. -/
def signalChange (coordinator : Coordinator) : Coordinator :=
  match coordinator.inventory with
  | .memory inventory =>
    { coordinator with requests := inventory.signal coordinator.state coordinator.requests }
  | .file _ => coordinator

def attach (coordinator : Coordinator) : Coordinator :=
  coordinator.changeMemory fun inventory => { inventory with attached := true }

def upsert (coordinator : Coordinator) (flight : Flight) : Coordinator :=
  (coordinator.changeMemory (·.upsert flight)).signalChange

def replace (coordinator : Coordinator) (flights : List Flight) : Coordinator :=
  (coordinator.changeMemory (·.replace flights)).signalChange

/-- Whether the inventory in memory lists a flight with an id. -/
def lists (coordinator : Coordinator) (id : String) : Bool :=
  match coordinator.inventory with
  | .memory inventory => inventory.contains id
  | .file _ => false

/-- Take the flights with an id out of the inventory.  Without such a flight
nothing changes and nothing is asked for. -/
def remove (coordinator : Coordinator) (id : String) : Bool × Coordinator :=
  if coordinator.lists id then (true, (coordinator.changeMemory (·.remove id)).signalChange)
  else (false, coordinator)

/-- Exchange the content of the inventory file, if that is the inventory. -/
def setFile (coordinator : Coordinator) (content : FileContent) : Coordinator :=
  match coordinator.inventory with
  | .memory _ => coordinator
  | .file _ => { coordinator with inventory := .file content }

/-! ## Searches -/

def search (coordinator : Coordinator) (pair : Pair) (given : Option Constraints) :
    Except Fault (List Itinerary) × Coordinator :=
  let (answer, engine) := coordinator.engine.search pair given
  (answer, { coordinator with engine := engine })

def invalidate (coordinator : Coordinator) : Nat × Coordinator :=
  let (dropped, engine) := coordinator.engine.invalidate
  (dropped, { coordinator with engine := engine })

/-! ## Moves -/

inductive Move where
  | request (reason : Reason)
  | call (reason : Reason)
  | tick
  | start
  | shutdown
  | take
  | leave
  | serveFirst
  | endRead (readEnd : ReadEnd)
  | finish
  | attach
  | upsert (flight : Flight)
  | replace (flights : List Flight)
  | remove (id : String)
  | setFile (content : FileContent)
  | search (pair : Pair) (given : Option Constraints)
  | invalidate

def apply (coordinator : Coordinator) : Move → Coordinator
  | .request reason => (coordinator.request reason).2
  | .call reason => (coordinator.call reason).2
  | .tick => coordinator.tick
  | .start => coordinator.start.2
  | .shutdown => coordinator.shutdown
  | .take => coordinator.take
  | .leave => coordinator.leave
  | .serveFirst => coordinator.serveFirst
  | .endRead readEnd => coordinator.endRead readEnd
  | .finish => coordinator.finish
  | .attach => coordinator.attach
  | .upsert flight => coordinator.upsert flight
  | .replace flights => coordinator.replace flights
  | .remove id => (coordinator.remove id).2
  | .setFile content => coordinator.setFile content
  | .search pair given => (coordinator.search pair given).2
  | .invalidate => coordinator.invalidate.2

def run (coordinator : Coordinator) (moves : List Move) : Coordinator :=
  moves.foldl apply coordinator

end Coordinator
end Rebuild
end Itineraries
