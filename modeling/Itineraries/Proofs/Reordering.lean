import Itineraries.Proofs.Sorting
import Itineraries.Search

namespace Itineraries

/-!
# The order of an inventory

An inventory lists its flights in some order, and a file may list them in any.  Ids
are distinct in every inventory that is accepted, so departures are always told
apart, and neither the timetables nor the places show in which order the flights
came.  Searches follow the timetables, so the order in which itineraries are found
does not show it either.  This matters where itineraries rank level, since these stay
in the order in which they were found.
-/

namespace Text

theorem sortedDistinct_eq_of_perm {texts others : List String} (reordered : texts.Perm others) :
    sortedDistinct texts = sortedDistinct others := by
  rw [sortedDistinct, sortedDistinct, mergeSort_eq_of_perm reordered]

theorem sortedRepeated_eq_of_perm {texts others : List String} (reordered : texts.Perm others) :
    sortedRepeated texts = sortedRepeated others := by
  rw [sortedRepeated, sortedRepeated, mergeSort_eq_of_perm reordered]

end Text

namespace Graph

theorem duplicateIds_eq_of_perm {flights others : List Flight} (reordered : flights.Perm others) :
    duplicateIds flights = duplicateIds others :=
  Text.sortedRepeated_eq_of_perm (reordered.map _)

theorem endpoints_eq_of_perm {flights others : List Flight} (reordered : flights.Perm others) :
    endpoints flights = endpoints others :=
  Text.sortedDistinct_eq_of_perm (reordered.flatMap_right _)

/-- The same places get the same timetables. -/
theorem ofBoardable_eq_of_perm (version excludedCount : Nat) {flights others : List Flight}
    (reordered : flights.Perm others) (distinct : (flights.map (·.id)).Nodup) :
    ofBoardable version excludedCount flights = ofBoardable version excludedCount others := by
  have boards : ∀ location,
      Timetable.ofList (flights.filter (·.source = location)) =
        Timetable.ofList (others.filter (·.source = location)) := by
    intro location
    exact Timetable.ofList_eq_of_perm (reordered.filter _)
      (distinct.sublist (List.filter_sublist.map _))
  simp only [ofBoardable, endpoints_eq_of_perm reordered, boards, reordered.length_eq]

/-- An inventory in another order is refused for the same ids or becomes the same
graph. -/
theorem build_eq_of_perm {flights others : List Flight} (reordered : flights.Perm others)
    (version : Nat) : build flights version = build others version := by
  by_cases distinct : (flights.map (·.id)).Nodup
  · have boardable := reordered.filter (·.IsBoardable)
    rw [build_of_nodup version distinct,
      build_of_nodup version ((reordered.map _).nodup_iff.mp distinct), reordered.length_eq,
      boardable.length_eq, ofBoardable_eq_of_perm _ _ boardable
        (distinct.sublist (List.filter_sublist.map _))]
  · have repeated := fun otherDistinct => distinct ((reordered.map _).nodup_iff.mpr otherDistinct)
    rw [build_of_not_nodup version distinct, build_of_not_nodup version repeated,
      duplicateIds_eq_of_perm reordered]

/-- In whatever order an inventory lists its flights, it is refused for the same
repeated ids, or it becomes a graph with the same places, the same departures from
each in the same order, and the same counts.  Then every search answers the same: the
same fault or the same itineraries in the same order, however many are asked for and
even if they rank level. -/
theorem inventory_order_immaterial {flights others : List Flight}
    (reordered : flights.Perm others) (version : Nat) :
    (∃ ids, ids ≠ [] ∧ build flights version = .error (.duplicateIds ids) ∧
        build others version = .error (.duplicateIds ids)) ∨
      ∃ graph other, build flights version = .ok graph ∧ build others version = .ok other ∧
        graph.locations = other.locations ∧
        (∀ location, (graph.outbound location).toList = (other.outbound location).toList) ∧
        graph.locationCount = other.locationCount ∧ graph.flightCount = other.flightCount ∧
        graph.excludedCount = other.excludedCount ∧
        ∀ source destination constraints,
          graph.search source destination constraints =
            other.search source destination constraints := by
  have same := build_eq_of_perm reordered version
  by_cases distinct : (flights.map (·.id)).Nodup
  · rw [build_of_nodup version distinct] at same ⊢
    exact Or.inr ⟨_, _, rfl, same.symm, rfl, fun _ => rfl, rfl, rfl, rfl, fun _ _ _ => rfl⟩
  · have repeated := mt (duplicateIds_eq_nil_iff flights).mp distinct
    rw [build_of_not_nodup version distinct] at same ⊢
    exact Or.inl ⟨_, repeated, rfl, same.symm⟩

theorem isSome_hour (hour : Nat) :
    (Time.Instant.ofParts? 0 (3600 * (hour % 24)) 0).isSome = true := by
  have second : 3600 * (hour % 24) < Time.secondsPerDay := by
    unfold Time.secondsPerDay
    omega
  unfold Time.Instant.ofParts?
  rw [dif_pos ⟨by decide, second, by decide, fun leap => absurd leap (by decide)⟩]
  rfl

/-- A full hour of some day. -/
def atHour (hour : Nat) : Time.Instant :=
  (Time.Instant.ofParts? 0 (3600 * (hour % 24)) 0).get (isSome_hour hour)

/-- Two ways to go, which rank level, since the ids of their legs are the same when
joined. -/
def levelWays : List Flight :=
  [⟨"A>B", "P", "Q", atHour 0, atHour 1, ⟨0⟩, 1⟩,
    ⟨"C", "Q", "R", atHour 2, atHour 3, ⟨0⟩, 1⟩,
    ⟨"A", "P", "S", atHour 0, atHour 1, ⟨0⟩, 1⟩,
    ⟨"B>C", "S", "R", atHour 2, atHour 3, ⟨0⟩, 1⟩]

theorem levelWays_build :
    build levelWays 1 = .ok (ofBoardable 1 0 levelWays) :=
  build_of_nodup 1 (by decide)

theorem level_ways_same_order :
    levelWays.Perm levelWays.reverse ∧
      Itinerary.rankKey ⟨levelWays.take 2, by decide⟩ =
        Itinerary.rankKey ⟨levelWays.drop 2, by decide⟩ ∧
      ∃ graph other, build levelWays 1 = .ok graph ∧ build levelWays.reverse 1 = .ok other ∧
        graph.search "P" "R" {} = other.search "P" "R" {} := by
  have reordered : levelWays.Perm levelWays.reverse := levelWays.reverse_perm.symm
  refine ⟨reordered, rfl, ?_⟩
  rcases inventory_order_immaterial reordered 1 with
    ⟨ids, _, refused, _⟩ | ⟨graph, other, accepted, otherAccepted, _, _, _, _, _, searches⟩
  · rw [levelWays_build] at refused
    cases refused
  · exact ⟨graph, other, accepted, otherAccepted, searches "P" "R" {}⟩

end Graph
end Itineraries
