import Itineraries.Inventory
import Itineraries.Proofs.Enumeration
import Itineraries.Proofs.Reordering
import Itineraries.Proofs.Sorting

namespace Itineraries

/-!
# Flights that are taken out

When flights are taken out of an inventory, timetables lose their departures, windows
are cut at other places, and a place that no other flight connects is gone from the
graph altogether.  All that a search shows of this is that the itineraries which use
one of these flights are missing from its answer.  The others are found in the same
order as before, and the ranking leaves them in the same order as before.

A flight that is put in is one that could be taken out again, so it changes no more
than that.
-/

def Itinerary.uses (itinerary : Itinerary) (id : String) : Bool :=
  itinerary.legs.any (·.id = id)

/-- A graph lists those departures of another one that pass a test, and no others. -/
def Graph.KeepsOnly (graph : Graph) (test : Flight → Bool) (whole : Graph) : Prop :=
  ∀ location, (graph.outbound location).toList = (whole.outbound location).toList.filter test

namespace Query

/-- If the members that are left out lead to nothing, the others lead to the same. -/
private theorem flatMap_filter_eq {α β : Type} {members : List α} {test : α → Bool}
    {first second : α → List β}
    (kept : ∀ member ∈ members, test member = true → first member = second member)
    (dropped : ∀ member ∈ members, test member = false → second member = []) :
    (members.filter test).flatMap first = members.flatMap second := by
  induction members with
  | nil => rfl
  | cons member rest inductionHypothesis =>
    have tail := inductionHypothesis
      (fun later inside => kept later (List.mem_cons_of_mem _ inside))
      (fun later inside => dropped later (List.mem_cons_of_mem _ inside))
    cases passes : test member with
    | true =>
      rw [List.filter_cons_of_pos passes, List.flatMap_cons, List.flatMap_cons, tail,
        kept member List.mem_cons_self passes]
    | false =>
      rw [List.filter_cons_of_neg (by rw [passes]; exact Bool.false_ne_true), List.flatMap_cons,
        tail, dropped member List.mem_cons_self passes, List.nil_append]

section

variable {graph whole : Graph} {test : Flight → Bool} {source destination : String}
  {constraints : Constraints}

theorem candidates_of_keepsOnly (keeps : graph.KeepsOnly test whole) (trail : List Flight)
    (location : String) :
    candidates ⟨graph, source, destination, constraints⟩ trail location =
      (candidates ⟨whole, source, destination, constraints⟩ trail location).filter test := by
  rw [candidates_eq_filter, candidates_eq_filter, List.filter_comm]
  change ((graph.outbound location).toList).filter _ = _
  rw [keeps]
  cases trail <;> rfl

/-- A flight that stays leads to the same, as long as what follows it is the same. -/
theorem journeysBy_of_kept {further : Nat} {trail : List Flight} {flight : Flight}
    (longer : ∀ leg ∈ flight :: trail, test leg = true)
    (onward : journeys ⟨graph, source, destination, constraints⟩ further (flight :: trail)
        flight.destination =
      (journeys ⟨whole, source, destination, constraints⟩ further (flight :: trail)
        flight.destination).filter (·.legs.all test)) :
    journeysBy ⟨graph, source, destination, constraints⟩ further trail flight =
      (journeysBy ⟨whole, source, destination, constraints⟩ further trail flight).filter
        (·.legs.all test) := by
  unfold journeysBy
  change (if flight.availableSeats < constraints.minSeats ∨
    hasVisited ⟨whole, source, destination, constraints⟩ trail flight.destination = true
      then _ else _) = _
  split
  · rfl
  · change (if flight.destination = destination then _ else _) = _
    split
    · symm
      apply List.filter_eq_self.mpr
      intro itinerary only
      rw [List.mem_singleton.mp only]
      exact List.all_eq_true.mpr fun leg member => longer leg (List.mem_reverse.mp member)
    · exact onward

/-- Whatever a flight that is gone leads to has it among its legs. -/
theorem journeysBy_of_gone (placed : IsPlaced ⟨whole, source, destination, constraints⟩)
    {further : Nat} {trail : List Flight} {location : String} {flight : Flight}
    (candidate : flight ∈
      candidates ⟨whole, source, destination, constraints⟩ trail location)
    (fails : test flight = false) :
    (journeysBy ⟨whole, source, destination, constraints⟩ further trail flight).filter
      (·.legs.all test) = [] := by
  apply List.filter_eq_nil_iff.mpr
  intro itinerary member all
  rcases legs_of_mem_journeysBy placed candidate member with ⟨onward, legs⟩
  have uses : flight ∈ itinerary.legs := by
    rw [legs]
    exact List.mem_append_right _ List.mem_cons_self
  exact absurd (List.all_eq_true.mp all flight uses) (by rw [fails]; exact Bool.false_ne_true)

/-- The walk finds the same itineraries in the same order, without those that use a
flight which is gone. -/
theorem journeys_of_keepsOnly (keeps : graph.KeepsOnly test whole)
    (placed : IsPlaced ⟨whole, source, destination, constraints⟩) (further : Nat)
    (trail : List Flight) (location : String) (kept : ∀ leg ∈ trail, test leg = true) :
    journeys ⟨graph, source, destination, constraints⟩ further trail location =
      (journeys ⟨whole, source, destination, constraints⟩ further trail location).filter
        (·.legs.all test) := by
  induction further generalizing trail location with
  | zero => rfl
  | succ further inductionHypothesis =>
    rw [journeys_succ, journeys_succ, List.filter_flatMap, candidates_of_keepsOnly keeps]
    apply flatMap_filter_eq
    · intro flight _ passes
      have longer : ∀ leg ∈ flight :: trail, test leg = true :=
        List.forall_mem_cons.mpr ⟨passes, kept⟩
      exact journeysBy_of_kept longer (inductionHypothesis _ _ longer)
    · intro flight candidate fails
      exact journeysBy_of_gone placed candidate fails

end

end Query

namespace Graph

section

variable {flights : List Flight} {test : Flight → Bool} {version otherVersion : Nat}
  {graph whole : Graph}

theorem keepsOnly_of_build (built : build flights version = .ok whole)
    (rebuilt : build (flights.filter test) otherVersion = .ok graph) :
    graph.KeepsOnly test whole := by
  intro location
  rw [(eq_ofBoardable_of_build built).2, (eq_ofBoardable_of_build rebuilt).2,
    outbound_ofBoardable, outbound_ofBoardable, ← Timetable.toList_ofList_filter]
  simp only [List.filter_filter, Bool.and_comm, Bool.and_left_comm]

/-- Without a limit on results, flights can be taken out of the inventory before a
search, or itineraries that use them out of its answer. -/
theorem search_filter (built : build flights version = .ok whole)
    (rebuilt : build (flights.filter test) otherVersion = .ok graph)
    (source destination : String) {constraints : Constraints}
    (unlimited : constraints.maxResults = none) :
    graph.search source destination constraints =
      (whole.search source destination constraints).map (·.filter (·.legs.all test)) := by
  have found : Query.found ⟨graph, source, destination, constraints⟩ =
      (Query.found ⟨whole, source, destination, constraints⟩).filter (·.legs.all test) := by
    rw [Query.found_eq_journeys built, Query.found_eq_journeys rebuilt]
    exact Query.journeys_of_keepsOnly (keepsOnly_of_build built rebuilt)
      (Query.isPlaced_of_build built _ _ _) _ _ _ (List.forall_mem_nil _)
  unfold search
  split
  · rfl
  · split
    · rfl
    · simp only [Query.best, unlimited, found, ← Itinerary.filter_ranked]
      rfl

end

end Graph

/-! ## Inventories in memory -/

theorem Itinerary.all_ids_ne (id : String) (itinerary : Itinerary) :
    itinerary.legs.all (·.id ≠ id) = !itinerary.uses id := by
  rw [uses, List.not_any_eq_all_not]
  exact List.all_congr rfl fun _ => decide_not

namespace MemoryInventory

/-- Taking a new flight out again leaves the flights from before. -/
theorem perm_of_filter_new {inventory : MemoryInventory} {flight : Flight} {flights : List Flight}
    (new : inventory.contains flight.id = false)
    (grown : flights.Perm (flight :: inventory.flights)) :
    (flights.filter (·.id ≠ flight.id)).Perm inventory.flights := by
  have others : ∀ other ∈ inventory.flights, decide (other.id ≠ flight.id) = true := by
    intro other member
    have apart := List.any_eq_false.mp new other member
    exact decide_eq_true fun same => apart (decide_eq_true same)
  have rest := grown.filter (·.id ≠ flight.id)
  rwa [List.filter_cons_of_neg (by simp), List.filter_eq_self.mpr others] at rest

/-- Ids stay distinct if a new one comes in, wherever its flight is listed. -/
theorem nodup_of_perm_new {inventory : MemoryInventory} {flight : Flight} {flights : List Flight}
    (distinct : (inventory.flights.map (·.id)).Nodup)
    (new : inventory.contains flight.id = false)
    (grown : flights.Perm (flight :: inventory.flights)) : (flights.map (·.id)).Nodup := by
  rw [(grown.map _).nodup_iff, List.map_cons, List.nodup_cons]
  refine ⟨?_, distinct⟩
  intro known
  rcases List.mem_map.mp known with ⟨other, member, same⟩
  exact List.any_eq_false.mp new other member (decide_eq_true same)

/-- Taking the flight with some id out of an inventory takes exactly those itineraries
out of an unlimited answer that use the flight, and all others stay in their order.
The other way round, a new flight, wherever it is listed, only puts itineraries that use
it among those that were there.  In either case a search that is refused is refused for
the same reason as before. -/
theorem removal_filters_search (inventory : MemoryInventory)
    (distinct : (inventory.flights.map (·.id)).Nodup) (version laterVersion : Nat) :
    ∃ graph, Graph.build inventory.flights version = .ok graph ∧
      (∀ id, ∃ smaller, Graph.build (inventory.remove id).flights laterVersion = .ok smaller ∧
        ∀ source destination constraints, constraints.maxResults = none →
          smaller.search source destination constraints =
            (graph.search source destination constraints).map (·.filter (!·.uses id))) ∧
      ∀ flight, inventory.contains flight.id = false →
        ∀ flights, flights.Perm (flight :: inventory.flights) →
          ∃ larger, Graph.build flights laterVersion = .ok larger ∧
            ∀ source destination constraints, constraints.maxResults = none →
              graph.search source destination constraints =
                  (larger.search source destination constraints).map
                    (·.filter (!·.uses flight.id)) ∧
                ∀ itineraries, graph.search source destination constraints = .ok itineraries →
                  ∃ more, larger.search source destination constraints = .ok more ∧
                    itineraries.Sublist more := by
  have built := Graph.build_of_nodup version distinct
  refine ⟨_, built, ?_, ?_⟩
  · intro id
    have rebuilt := Graph.build_of_nodup laterVersion (inventory.remove_nodup id distinct)
    refine ⟨_, rebuilt, ?_⟩
    intro source destination constraints unlimited
    rw [Graph.search_filter built rebuilt source destination unlimited]
    simp only [Itinerary.all_ids_ne]
  · intro flight new flights grown
    -- The old inventory is the new one without the new flight, in another order.
    have larger := Graph.build_of_nodup laterVersion (nodup_of_perm_new distinct new grown)
    have again := (Graph.build_eq_of_perm (perm_of_filter_new new grown) version).trans built
    refine ⟨_, larger, ?_⟩
    intro source destination constraints unlimited
    have fewer := Graph.search_filter larger again source destination unlimited
    simp only [Itinerary.all_ids_ne] at fewer
    refine ⟨fewer, ?_⟩
    intro itineraries answer
    cases found : Graph.search _ source destination constraints with
    | error fault =>
      rw [answer, found] at fewer
      cases fewer
    | ok more =>
      rw [answer, found] at fewer
      cases fewer
      exact ⟨more, rfl, List.filter_sublist⟩

/-- One can fly directly or change at a place that only the last flight leaves. -/
private def detour : MemoryInventory where
  flights :=
    [⟨"F1", "P", "R", Graph.atHour 0, Graph.atHour 2, ⟨0⟩, 1⟩,
      ⟨"F2", "P", "Q", Graph.atHour 0, Graph.atHour 1, ⟨0⟩, 1⟩,
      ⟨"F3", "Q", "R", Graph.atHour 2, Graph.atHour 3, ⟨0⟩, 1⟩]

/-- A second flight for the last part of the way. -/
private def lateFlight : Flight :=
  ⟨"F4", "Q", "R", Graph.atHour 3, Graph.atHour 4, ⟨0⟩, 1⟩

theorem detour_without_last_and_with_late_flight :
    (detour.flights.map (·.id)).Nodup ∧ detour.contains lateFlight.id = false ∧
      (detour.upsert lateFlight).flights.Perm (lateFlight :: detour.flights) ∧
      ({} : Constraints).maxResults = none ∧
      ∃ graph smaller larger, Graph.build detour.flights 1 = .ok graph ∧
        Graph.build (detour.remove "F3").flights 2 = .ok smaller ∧
        Graph.build (detour.upsert lateFlight).flights 2 = .ok larger ∧
        smaller.search "P" "R" {} = (graph.search "P" "R" {}).map (·.filter (!·.uses "F3")) ∧
        graph.search "P" "R" {} = (larger.search "P" "R" {}).map (·.filter (!·.uses "F4")) := by
  have distinct : (detour.flights.map (·.id)).Nodup := by decide
  have new : detour.contains lateFlight.id = false := by decide
  have grown : (detour.upsert lateFlight).flights.Perm (lateFlight :: detour.flights) :=
    List.perm_append_singleton lateFlight detour.flights
  rcases removal_filters_search detour distinct 1 2 with ⟨graph, built, removed, added⟩
  rcases removed "F3" with ⟨smaller, smallerBuilt, fewer⟩
  rcases added lateFlight new _ grown with ⟨larger, largerBuilt, more⟩
  exact ⟨distinct, new, grown, rfl, graph, smaller, larger, built, smallerBuilt, largerBuilt,
    fewer "P" "R" {} rfl, (more "P" "R" {} rfl).1⟩

end MemoryInventory
end Itineraries
