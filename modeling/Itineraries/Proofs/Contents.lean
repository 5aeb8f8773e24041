import Mathlib.Data.List.Induction
import Mathlib.Data.List.Nodup
import Itineraries.Inventory
import Itineraries.Proofs.Histories
import Itineraries.Proofs.Reordering

namespace Itineraries
namespace MemoryInventory

/-!
# What an inventory lists

An inventory in memory is a map from ids to flights that keeps its ids in the order in which
they have come.  The list itself does not guard against an id that stands in it twice.  It
need not, since no change can bring in a second flight under an id that is listed: one that
is put in takes the place of the first flight with its id.  So ids stay distinct as long as
no list with a repeated id is put in as a whole, and whatever is listed can be made a graph.

What is listed under an id was decided by the latest change that concerned the id.  The order
of the ids tells less: an id that has been taken out and put in again has lost its place.
But ids that have been listed all the time stay in their order, and before all ids that
have come later.
-/

/-- What can be done to the flights of an inventory. -/
inductive Change where
  | upsert (flight : Flight)
  | remove (id : String)
  | replace (flights : List Flight)
deriving DecidableEq

def apply (inventory : MemoryInventory) : Change → MemoryInventory
  | .upsert flight => inventory.upsert flight
  | .remove id => (inventory.removal id).2
  | .replace flights => inventory.replace flights

def changed (inventory : MemoryInventory) (changes : List Change) : MemoryInventory :=
  changes.foldl apply inventory

theorem changed_concat (start : MemoryInventory) (changes : List Change) (change : Change) :
    start.changed (changes ++ [change]) = (start.changed changes).apply change :=
  List.foldl_append

theorem flights_apply_congr {first second : MemoryInventory}
    (same : first.flights = second.flights) (change : Change) :
    (first.apply change).flights = (second.apply change).flights := by
  cases change with
  | upsert flight => exact congrArg (upsertInto flight) same
  | remove id => exact congrArg (List.filter (·.id ≠ id)) same
  | replace flights => rfl

def ids (inventory : MemoryInventory) : List String :=
  inventory.flights.map (·.id)

/-! ## What stands under an id -/

/-- Whether a change decides what stands under an id. -/
def Change.concerns (id : String) : Change → Bool
  | .upsert flight => flight.id = id
  | .remove removed => removed = id
  | .replace _ => true

/-- What such a change puts there. -/
def Change.flight? (id : String) : Change → Option Flight
  | .upsert flight => some flight
  | .remove _ => none
  | .replace flights => flights.find? (·.id = id)

/-- The flight that was put under an id last, by itself or with all others, unless it has been
taken out since. -/
def lastPut? (start : MemoryInventory) (changes : List Change) (id : String) : Option Flight :=
  (History.latest? (·.concerns id) (.replace start.flights :: changes)).bind (·.flight? id)

theorem lastPut?_concat (start : MemoryInventory) (changes : List Change) (change : Change)
    (id : String) :
    start.lastPut? (changes ++ [change]) id =
      if change.concerns id then change.flight? id else start.lastPut? changes id := by
  rw [lastPut?, ← List.cons_append, History.latest?_concat]
  split <;> rfl

theorem find?_remove (inventory : MemoryInventory) (removed id : String) :
    (inventory.remove removed).flights.find? (·.id = id) =
      if removed = id then none else inventory.flights.find? (·.id = id) := by
  rw [remove, List.find?_filter]
  by_cases same : removed = id
  · rw [if_pos same, List.find?_eq_none]
    intro flight _ found
    have both := of_decide_eq_true found
    exact of_decide_eq_true both.1 ((of_decide_eq_true both.2).trans same.symm)
  · rw [if_neg same]
    congr 1
    funext flight
    by_cases wanted : flight.id = id
    · simp [wanted, Ne.symm same]
    · simp [wanted]

theorem find?_apply (inventory : MemoryInventory) (change : Change) (id : String) :
    (inventory.apply change).flights.find? (·.id = id) =
      if change.concerns id then change.flight? id else inventory.flights.find? (·.id = id) := by
  cases change with
  | upsert flight =>
    rw [apply, upsert, find?_upsertInto]
    simp [Change.concerns, Change.flight?]
  | remove removed =>
    rw [apply, removal, find?_remove]
    simp [Change.concerns, Change.flight?]
  | replace flights => rfl

theorem find?_changed (start : MemoryInventory) (changes : List Change) (id : String) :
    (start.changed changes).flights.find? (·.id = id) = start.lastPut? changes id := by
  induction changes using List.reverseRecOn with
  | nil => rfl
  | append_singleton changes change inductionHypothesis =>
    rw [changed_concat, find?_apply, lastPut?_concat, inductionHypothesis]

/-- Where ids are distinct, a flight is listed if its id leads to it. -/
theorem mem_flights_iff {inventory : MemoryInventory} (distinct : inventory.ids.Nodup)
    (flight : Flight) :
    flight ∈ inventory.flights ↔
      inventory.flights.find? (·.id = flight.id) = some flight := by
  constructor
  · intro member
    cases found : inventory.flights.find? (·.id = flight.id) with
    | none =>
      have absent := List.find?_eq_none.mp found flight member
      exact absurd (decide_eq_true rfl) absent
    | some other =>
      have same : other.id = flight.id := by simpa using List.find?_some found
      have listed := List.mem_of_find?_eq_some found
      rw [List.inj_on_of_nodup_map distinct listed member same]
  · exact List.mem_of_find?_eq_some

/-! ## In which order ids stand -/

/-- A flight whose id is listed takes the place of the first that has it. -/
theorem upsertInto_of_mem {flight : Flight} {flights : List Flight}
    (known : flight.id ∈ flights.map (·.id)) :
    ∃ front old back, flights = front ++ old :: back ∧ old.id = flight.id ∧
      upsertInto flight flights = front ++ flight :: back := by
  induction flights with
  | nil => exact absurd known List.not_mem_nil
  | cons first rest inductionHypothesis =>
    rw [upsertInto]
    by_cases same : first.id = flight.id
    · rw [if_pos same]
      exact ⟨[], first, rest, rfl, same, rfl⟩
    · have later : flight.id ∈ rest.map (·.id) := by
        rcases List.mem_cons.mp known with found | found
        · exact absurd found.symm same
        · exact found
      rcases inductionHypothesis later with ⟨front, old, back, whole, taken, put⟩
      rw [if_neg same, put, whole]
      exact ⟨first :: front, old, back, rfl, taken, rfl⟩

theorem upsertInto_of_notMem {flight : Flight} {flights : List Flight}
    (new : flight.id ∉ flights.map (·.id)) :
    upsertInto flight flights = flights ++ [flight] := by
  induction flights with
  | nil => rfl
  | cons first rest inductionHypothesis =>
    rw [List.map_cons, List.mem_cons, not_or] at new
    rw [upsertInto, if_neg (Ne.symm new.1), inductionHypothesis new.2, List.cons_append]

theorem ids_remove (inventory : MemoryInventory) (id : String) :
    (inventory.remove id).ids = inventory.ids.filter (· ≠ id) := by
  rw [ids, ids, remove, List.filter_map]
  rfl

/-- Ids that are never taken out stay in front, in their order. -/
theorem ids_filter_prefix_changed (start : MemoryInventory) {changes : List Change}
    (kept : ∀ flights, .replace flights ∉ changes) :
    start.ids.filter (Change.remove · ∉ changes) <+: (start.changed changes).ids := by
  induction changes using List.reverseRecOn with
  | nil => simp [changed]
  | append_singleton changes change inductionHypothesis =>
    have before := inductionHypothesis fun flights member =>
      kept flights (List.mem_append_left _ member)
    rw [changed_concat]
    cases change with
    | upsert flight =>
      have grown : (start.changed changes).ids <+:
          ((start.changed changes).upsert flight).ids := by
        rw [ids, ids, upsert, ids_upsertInto]
        split
        · exact List.prefix_rfl
        · exact List.prefix_append _ _
      simpa [apply] using before.trans grown
    | remove removed =>
      have fewer := before.filter (· ≠ removed)
      rw [← ids_remove, List.filter_filter] at fewer
      simpa [apply, removal, Bool.and_comm] using fewer
    | replace flights =>
      exact absurd (List.mem_append_right _ (List.mem_singleton_self _)) (kept flights)

/-! ## What is taken out -/

theorem removal_fst_iff (inventory : MemoryInventory) (id : String) :
    (inventory.removal id).1 = true ↔ id ∈ inventory.ids := by
  rw [removal, remove, decide_eq_true_iff, ne_eq, List.length_filter_eq_length_iff, ids]
  simp

theorem removal_snd_of_fst {inventory : MemoryInventory} {id : String}
    (absent : (inventory.removal id).1 = false) : (inventory.removal id).2 = inventory := by
  have same : inventory.flights.filter (·.id ≠ id) = inventory.flights := by
    rw [List.filter_eq_self, ← List.length_filter_eq_length_iff]
    simpa [removal, remove] using absent
  rw [removal, remove, same]

/-! ## Distinct ids -/

theorem ids_nodup_apply {inventory : MemoryInventory} (distinct : inventory.ids.Nodup)
    {change : Change}
    (exchanged : ∀ flights, change = .replace flights → (flights.map (·.id)).Nodup) :
    (inventory.apply change).ids.Nodup := by
  cases change with
  | upsert flight => exact upsertInto_nodup flight distinct
  | remove id => exact inventory.remove_nodup id distinct
  | replace flights => exact exchanged flights rfl

theorem ids_nodup_changed {start : MemoryInventory} {changes : List Change}
    (distinct : start.ids.Nodup)
    (exchanged : ∀ flights, .replace flights ∈ changes → (flights.map (·.id)).Nodup) :
    (start.changed changes).ids.Nodup := by
  induction changes generalizing start with
  | nil => exact distinct
  | cons change rest inductionHypothesis =>
    have next : (start.apply change).ids.Nodup := by
      apply ids_nodup_apply distinct
      rintro flights rfl
      exact exchanged flights List.mem_cons_self
    exact inductionHypothesis next fun flights member =>
      exchanged flights (List.mem_cons_of_mem _ member)

/-- Whatever is put in, taken out or exchanged, as long as no list with a repeated id is put in
as a whole, every id is listed once, with the flight that was put there last.  A flight keeps
the place of its id, and a new id comes last.  Ids that have been listed all the time stay in
their order, in front of all others.  Whoever takes out an id is told whether it was
listed, and if it was not, nothing has changed.  So a graph can always be built of what is
loaded. -/
theorem flights_listed_once_in_order {start : MemoryInventory} {changes : List Change}
    (distinct : start.ids.Nodup)
    (exchanged : ∀ flights, .replace flights ∈ changes → (flights.map (·.id)).Nodup) :
    let now := start.changed changes
    (now.ids.Nodup ∧
      ∀ flight, flight ∈ now.flights ↔ start.lastPut? changes flight.id = some flight) ∧
    (∀ flight,
      (flight.id ∈ now.ids → ∃ front old back,
        now.flights = front ++ old :: back ∧ old.id = flight.id ∧
          (now.upsert flight).flights = front ++ flight :: back) ∧
      (flight.id ∉ now.ids → (now.upsert flight).flights = now.flights ++ [flight])) ∧
    (∀ earlier later, changes = earlier ++ later → (∀ flights, .replace flights ∉ later) →
      (start.changed earlier).ids.filter (Change.remove · ∉ later) <+: now.ids) ∧
    (∀ id, ((now.removal id).1 = true ↔ id ∈ now.ids) ∧
      (now.removal id).2.flights = now.flights.filter (·.id ≠ id) ∧
      ((now.removal id).1 = false → (now.removal id).2 = now)) ∧
    ∀ version, ∃ flights graph, (Inventory.memory now).load = .ok flights ∧
      Graph.build flights version = .ok graph := by
  intro now
  have apart : now.ids.Nodup := ids_nodup_changed distinct exchanged
  refine ⟨⟨apart, fun flight => ?_⟩, fun flight => ⟨upsertInto_of_mem, upsertInto_of_notMem⟩,
    fun earlier later whole kept => ?_,
    fun id => ⟨now.removal_fst_iff id, rfl, removal_snd_of_fst⟩,
    fun version => ⟨now.flights, _, rfl, Graph.build_of_nodup version apart⟩⟩
  · rw [mem_flights_iff apart, find?_changed]
  · have reached : now = (start.changed earlier).changed later := by
      rw [changed, changed, ← List.foldl_append, ← whole]
      rfl
    rw [reached]
    exact ids_filter_prefix_changed _ kept

private def board : MemoryInventory where
  flights :=
    [⟨"F1", "P", "Q", Graph.atHour 0, Graph.atHour 1, ⟨0⟩, 1⟩,
      ⟨"F2", "Q", "P", Graph.atHour 2, Graph.atHour 3, ⟨0⟩, 1⟩]

/-- The second flight has sold its seat. -/
private def seatSold : Flight :=
  ⟨"F2", "Q", "P", Graph.atHour 2, Graph.atHour 3, ⟨0⟩, 0⟩

private def late : Flight :=
  ⟨"F1", "P", "Q", Graph.atHour 4, Graph.atHour 5, ⟨0⟩, 1⟩

/-- The first flight is taken out and put in again at a later hour. -/
private def rescheduled : List Change :=
  [.upsert seatSold, .remove "F1", .upsert late]

theorem rescheduled_flights_listed_once :
    board.ids.Nodup ∧ (board.changed rescheduled).ids.Nodup ∧
      seatSold ∈ (board.changed rescheduled).flights ∧
      late ∈ (board.changed rescheduled).flights ∧
      ["F2"] <+: (board.changed rescheduled).ids := by
  have distinct : board.ids.Nodup := by decide
  have exchanged : ∀ flights, .replace flights ∈ rescheduled → (flights.map (·.id)).Nodup := by
    intro flights member
    simp [rescheduled] at member
  have listed := flights_listed_once_in_order distinct exchanged
  refine ⟨distinct, listed.1.1, (listed.1.2 seatSold).mpr ?_, (listed.1.2 late).mpr ?_, ?_⟩
  · rfl
  · rfl
  · have kept : ∀ flights, .replace flights ∉ rescheduled := by
      intro flights member
      simp [rescheduled] at member
    exact listed.2.2.1 [] rescheduled rfl kept

end MemoryInventory
end Itineraries
