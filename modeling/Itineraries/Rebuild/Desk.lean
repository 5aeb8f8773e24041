import Itineraries.Inventory

namespace Itineraries
namespace Rebuild

/-!
# Inventory desks

Whoever changes an inventory need not know a coordinator.  All that they have in front of them
is the inventory itself and the queue that it can be attached to.  Others may ask for a rebuild
through the same queue, and signals may be taken out of it at any time, by a coordinator or by
anybody else who holds the other end.
-/

/-- An inventory in memory, a queue for signals, and what the coordinator at the other end
is doing.  Without a coordinator nothing is going on there. -/
structure Desk where
  inventory : MemoryInventory
  requests : Requests := {}
  state : State := .idle

namespace Desk

def attach (desk : Desk) : Desk :=
  { desk with inventory := { desk.inventory with attached := true } }

/-- Exchange the inventory for a changed one, which asks for a rebuild. -/
def change (desk : Desk) (inventory : MemoryInventory) : Desk :=
  { desk with
    inventory := inventory
    requests := inventory.signal desk.state desk.requests }

def upsert (desk : Desk) (flight : Flight) : Desk :=
  desk.change (desk.inventory.upsert flight)

def replace (desk : Desk) (flights : List Flight) : Desk :=
  desk.change (desk.inventory.replace flights)

/-- Take an id out of the inventory, and tell whether it was there.  Only then a rebuild is
asked for. -/
def remove (desk : Desk) (id : String) : Bool × Desk :=
  let removal := desk.inventory.removal id
  (removal.1,
    if removal.1 then desk.change removal.2 else { desk with inventory := removal.2 })

/-- Ask for a rebuild without a change. -/
def request (desk : Desk) (reason : Reason) : Outcome × Desk :=
  let (outcome, requests) := desk.requests.request desk.state reason
  (outcome, { desk with requests := requests })

def receive (desk : Desk) : Option Reason × Desk :=
  let (reason, requests) := desk.requests.receive
  (reason, { desk with requests := requests })

/-- Drop the other end of the queue. -/
def close (desk : Desk) : Desk :=
  { desk with requests := desk.requests.close }

/-- Note that the coordinator has begun or ended a rebuild. -/
def turn (desk : Desk) (state : State) : Desk :=
  { desk with state := state }

end Desk
end Rebuild
end Itineraries
