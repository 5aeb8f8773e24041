import Itineraries.File
import Itineraries.Rebuild.Requests

namespace Itineraries

/-!
# Inventories

An inventory is kept in memory or in a file.  The one in memory can be changed
flight by flight, and every change asks for a rebuild once a coordinator is
attached to it.
-/

/-- An inventory in memory.  Its flights stay in the order in which their ids came, and
changes ask for a rebuild once it is attached. -/
structure MemoryInventory where
  flights : List Flight := []
  attached : Bool := false
deriving DecidableEq, Repr

namespace MemoryInventory

/-- The list with a flight in the place of the first that has its id, or at the
end if none has. -/
def upsertInto (flight : Flight) : List Flight → List Flight
  | [] => [flight]
  | first :: rest =>
    if first.id = flight.id then flight :: rest else first :: upsertInto flight rest

/-- Put a flight into the inventory under its id. -/
def upsert (inventory : MemoryInventory) (flight : Flight) : MemoryInventory :=
  { inventory with flights := upsertInto flight inventory.flights }

/-- Take the flights with an id out of the inventory. -/
def remove (inventory : MemoryInventory) (id : String) : MemoryInventory :=
  { inventory with flights := inventory.flights.filter (·.id ≠ id) }

/-- What is left without an id, and whether that is less than before. -/
def removal (inventory : MemoryInventory) (id : String) : Bool × MemoryInventory :=
  let left := inventory.remove id
  (decide (left.flights.length ≠ inventory.flights.length), left)

def contains (inventory : MemoryInventory) (id : String) : Bool :=
  inventory.flights.any (·.id = id)

def replace (inventory : MemoryInventory) (flights : List Flight) : MemoryInventory :=
  { inventory with flights := flights }

/-- Ask for a rebuild after a change, if a coordinator is attached. -/
def signal (inventory : MemoryInventory) (state : Rebuild.State) (requests : Rebuild.Requests) :
    Rebuild.Requests :=
  if inventory.attached then (requests.request state .inventoryChanged).2 else requests

/-! ## What each operation does to the list -/

/-- A flight keeps the place of its id, and a new id comes last. -/
theorem ids_upsertInto (flight : Flight) (flights : List Flight) :
    (upsertInto flight flights).map (·.id) =
      if flight.id ∈ flights.map (·.id) then flights.map (·.id)
      else flights.map (·.id) ++ [flight.id] := by
  induction flights with
  | nil => rfl
  | cons first rest inductionHypothesis =>
    rw [upsertInto]
    by_cases same : first.id = flight.id
    · rw [if_pos same, List.map_cons, List.map_cons, same, if_pos List.mem_cons_self]
    · rw [if_neg same, List.map_cons, List.map_cons, inductionHypothesis]
      by_cases known : flight.id ∈ rest.map (·.id)
      · rw [if_pos known, if_pos (List.mem_cons_of_mem _ known)]
      · have absent : flight.id ∉ first.id :: rest.map (·.id) := by
          intro member
          rcases List.mem_cons.mp member with found | found
          · exact same found.symm
          · exact known found
        rw [if_neg known, if_neg absent, List.cons_append]

/-- Looked up by id, the flight stands under its own id and every other id
stands as before. -/
theorem find?_upsertInto (flight : Flight) (flights : List Flight) (id : String) :
    (upsertInto flight flights).find? (·.id = id) =
      if flight.id = id then some flight else flights.find? (·.id = id) := by
  induction flights with
  | nil =>
    rw [upsertInto, List.find?_cons, List.find?_nil]
    by_cases same : flight.id = id
    · rw [if_pos same, decide_eq_true same]
    · rw [if_neg same, decide_eq_false same]
  | cons first rest inductionHypothesis =>
    rw [upsertInto]
    by_cases taken : first.id = flight.id
    · rw [if_pos taken, List.find?_cons, List.find?_cons]
      by_cases same : flight.id = id
      · rw [if_pos same, decide_eq_true same]
      · rw [if_neg same, decide_eq_false same, taken, decide_eq_false same]
    · rw [if_neg taken, List.find?_cons, List.find?_cons, inductionHypothesis]
      by_cases same : flight.id = id
      · rw [if_pos same, if_pos same, decide_eq_false fun wrong => taken (wrong.trans same.symm)]
      · rw [if_neg same, if_neg same]

theorem upsertInto_nodup (flight : Flight) {flights : List Flight}
    (distinct : (flights.map (·.id)).Nodup) : ((upsertInto flight flights).map (·.id)).Nodup := by
  rw [ids_upsertInto]
  split
  · exact distinct
  · rename_i absent
    rw [List.nodup_append]
    refine ⟨distinct, List.nodup_cons.mpr ⟨List.not_mem_nil, List.nodup_nil⟩, ?_⟩
    intro id member last found same
    rw [List.mem_singleton] at found
    rw [same, found] at member
    exact absent member

theorem remove_nodup (inventory : MemoryInventory) (id : String)
    (distinct : (inventory.flights.map (·.id)).Nodup) :
    ((inventory.remove id).flights.map (·.id)).Nodup :=
  distinct.sublist (List.filter_sublist.map _)

end MemoryInventory

/-- Where flights come from. -/
inductive Inventory where
  | memory (inventory : MemoryInventory)
  | file (content : FileContent)

def Inventory.load : Inventory → Except InventoryFault (List Flight)
  | memory inventory => .ok inventory.flights
  | file content => content.flights

end Itineraries
