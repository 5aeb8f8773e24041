import Itineraries.Proofs.Minutes
import Itineraries.Proofs.Ranking

namespace Itineraries

/-!
# Connections by the clock

A search allows a connection if the departure lies between two instants, which it finds
by adding minutes to the arrival.  A traveller looks at the clock and takes the
difference of the two times.  Both agree on the longest connection.  On the shortest
they agree as long as the difference sees every leap second in which one of its ends
lies.  A connection through midnight may have one of which the difference knows nothing,
and then it can look one minute shorter than it is.
-/

open Time (Instant)

theorem Constraints.Allows.minutes {constraints : Constraints} {hopsLimit : Nat}
    (valid : constraints.Valid hopsLimit) {arrival departure : Instant}
    (allowed : constraints.Allows arrival departure) :
    departure.minutesSince arrival ≤ constraints.maxConnection ∧
      constraints.minConnection - 1 ≤ departure.minutesSince arrival ∧
      (departure.minutesSince arrival < constraints.minConnection →
        0 < constraints.minConnection ∧ departure.MissesLeap arrival) := by
  have shortest : (constraints.minConnection.toNat : Int) = constraints.minConnection :=
    Int.toNat_of_nonneg valid.connection_nonneg
  have longest : (constraints.maxConnection.toNat : Int) = constraints.maxConnection :=
    Int.toNat_of_nonneg (Int.le_trans valid.connection_nonneg valid.connections_ordered)
  rcases allowed.not_short with ⟨earliest, found, passed⟩
  have least := Instant.le_minutesSince_of_addMinutes?_le found passed
  have most := Instant.minutesSince_le_of_le_addMinutes? allowed.not_long
  rw [shortest] at least
  rw [longest] at most
  refine ⟨most, least.1, ?_⟩
  intro short
  exact (least.2 short).imp_left fun positive => shortest ▸ Int.natCast_pos.mpr positive

namespace Graph

/-- In every itinerary that is returned, no connection lasts longer by the clock than the
constraints allow.  None lasts shorter either, unless a leap second at one of its ends is
missed; then it is one minute at most that is lacking. -/
theorem connections_by_the_clock {flights : List Flight} {version : Nat} {graph : Graph}
    (built : build flights version = .ok graph) {source destination : String}
    {constraints : Constraints} {itineraries : List Itinerary}
    (answer : graph.search source destination constraints = .ok itineraries)
    {itinerary : Itinerary} (member : itinerary ∈ itineraries) :
    itinerary.legs.IsChain fun previous next =>
      next.departure.minutesSince previous.arrival ≤ constraints.maxConnection ∧
        constraints.minConnection - 1 ≤ next.departure.minutesSince previous.arrival ∧
        (next.departure.minutesSince previous.arrival < constraints.minConnection →
          0 < constraints.minConnection ∧ next.departure.MissesLeap previous.arrival) := by
  have admissible := admissible_of_search built answer member
  apply admissible.connected.imp
  intro previous next connects
  exact connects.allowed.minutes (valid_of_search answer)

private theorem isSome_leapMidnight : (Instant.ofParts? 0 86399 1000000000).isSome = true := by
  decide

private theorem isSome_halfHourLater : (Instant.ofParts? 1 1799 0).isSome = true := by
  decide

private theorem isSome_nextMorning : (Instant.ofParts? 1 21600 0).isSome = true := by
  decide

/-- A flight that arrives in a leap second at midnight, and one that leaves half an hour
later. -/
def nightFlights : List Flight :=
  [⟨"F1", "A", "B", atHour 22, (Instant.ofParts? 0 86399 1000000000).get isSome_leapMidnight,
      ⟨0⟩, 1⟩,
    ⟨"F2", "B", "C", (Instant.ofParts? 1 1799 0).get isSome_halfHourLater,
      (Instant.ofParts? 1 21600 0).get isSome_nextMorning, ⟨0⟩, 1⟩]

theorem exists_search_nightFlights :
    build nightFlights 1 = .ok (ofBoardable 1 0 nightFlights) ∧
      ∃ itineraries, (ofBoardable 1 0 nightFlights).search "A" "C" {} = .ok itineraries ∧
        ⟨nightFlights, by decide⟩ ∈ itineraries := by
  have built : build nightFlights 1 = .ok (ofBoardable 1 0 nightFlights) :=
    build_of_nodup 1 (by decide)
  have accepted : ({} : Constraints).violation? legsCeiling = none := by decide
  rcases exists_search accepted (ofBoardable 1 0 nightFlights)
    (by decide : ¬("A" = "" ∨ "C" = "")) with ⟨itineraries, answer⟩
  exact ⟨built, itineraries, answer, (mem_iff_of_search built answer rfl _).mpr (by decide)⟩

/-- The leap second is missed here. -/
theorem night_connection_by_the_clock :
    build nightFlights 1 = .ok (ofBoardable 1 0 nightFlights) ∧
      ∃ itineraries, (ofBoardable 1 0 nightFlights).search "A" "C" {} = .ok itineraries ∧
        ⟨nightFlights, by decide⟩ ∈ itineraries ∧
        nightFlights.IsChain fun previous next =>
          next.departure.minutesSince previous.arrival ≤ 720 ∧
            29 ≤ next.departure.minutesSince previous.arrival ∧
            (next.departure.minutesSince previous.arrival < 30 →
              next.departure.MissesLeap previous.arrival) := by
  rcases exists_search_nightFlights with ⟨built, itineraries, answer, member⟩
  refine ⟨built, itineraries, answer, member, ?_⟩
  apply (connections_by_the_clock built answer member).imp
  rintro previous next ⟨most, least, short⟩
  exact ⟨most, least, fun lacking => (short lacking).2⟩

/-- Where a leap second is missed, a connection that is allowed can be shorter by the clock
than the shortest one. -/
theorem night_connection_looks_short :
    ∃ itineraries, (ofBoardable 1 0 nightFlights).search "A" "C" {} = .ok itineraries ∧
      build nightFlights 1 = .ok (ofBoardable 1 0 nightFlights) ∧
      ∃ itinerary ∈ itineraries, ¬itinerary.legs.IsChain fun previous next =>
        ({} : Constraints).minConnection ≤ next.departure.minutesSince previous.arrival ∧
          next.departure.minutesSince previous.arrival ≤ ({} : Constraints).maxConnection := by
  rcases exists_search_nightFlights with ⟨built, itineraries, answer, member⟩
  exact ⟨itineraries, answer, built, _, member, by decide⟩

end Graph
end Itineraries
