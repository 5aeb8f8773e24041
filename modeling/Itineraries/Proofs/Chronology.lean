import Itineraries.Proofs.Connections

namespace Itineraries

/-!
# Forward in time

Instants are ordered with every leap second in its place, but a difference may not know of
the leap second in which one of its ends lies.  So it can be negative although its ends are
in order: from a leap second at midnight to the next day there seems to be less than no time.
Less than two seconds can be missing in this way, and whole minutes do not show them.

An itinerary moves forward leg by leg.  That it does so as a whole is an argument about the
order alone; only then the difference between its ends is taken.
-/

open Time (Instant)

/-! ## Instants in order -/

theorem Time.Instant.le_of_addMinutes? {instant later : Instant} {minutes : Nat}
    (found : instant.addMinutes? minutes = some later) : instant ≤ later := by
  rcases exists_addMinutes?_le (Nat.zero_le minutes) found with ⟨sooner, same, ordered⟩
  rw [addMinutes?_zero] at same
  rw [Option.some.inj same]
  exact ordered

/-- No whole minute is missing between instants that are in order. -/
theorem Time.Instant.minutesSince_nonneg_of_le {earlier later : Instant}
    (ordered : earlier ≤ later) : 0 ≤ later.minutesSince earlier := by
  have lacking := (le_minutesSince_of_addMinutes?_le (addMinutes?_zero earlier) ordered).2
  apply Int.le_of_not_gt
  intro negative
  exact Nat.lt_irrefl 0 (lacking negative).1

/-! ## Legs in order -/

theorem Constraints.Allows.arrival_le_departure {constraints : Constraints}
    {arrival departure : Instant} (allowed : constraints.Allows arrival departure) :
    arrival ≤ departure := by
  rcases allowed.not_short with ⟨earliest, found, passed⟩
  exact Int.le_trans (Instant.le_of_addMinutes? found) passed

/-- If each of some legs moves forward, and each departs no earlier than the one before it
arrives, then they move forward as a whole. -/
theorem Flight.departure_lt_arrival_of_isChain {legs : List Flight} (legs_ne_nil : legs ≠ [])
    (forward : ∀ leg ∈ legs, leg.departure < leg.arrival)
    (ordered : legs.IsChain fun previous next => previous.arrival ≤ next.departure) :
    (legs.head legs_ne_nil).departure < (legs.getLast legs_ne_nil).arrival := by
  induction legs with
  | nil => exact absurd rfl legs_ne_nil
  | cons leg rest inductionHypothesis =>
    have departs := forward leg List.mem_cons_self
    cases rest with
    | nil => exact departs
    | cons next later =>
      rcases List.isChain_cons_cons.mp ordered with ⟨waits, further⟩
      have onward := inductionHypothesis (List.cons_ne_nil next later)
        (fun other member => forward other (List.mem_cons_of_mem leg member)) further
      exact Int.lt_trans (Int.lt_of_lt_of_le departs waits) onward

namespace Graph

/-- In every itinerary that is returned, each leg departs before it arrives and no earlier
than the one before it arrives.  So the itinerary departs before it arrives, and the whole
minutes that it takes are not negative, whatever leap seconds it meets. -/
theorem itineraries_move_forward {flights : List Flight} {version : Nat} {graph : Graph}
    (built : build flights version = .ok graph) {source destination : String}
    {constraints : Constraints} {itineraries : List Itinerary}
    (answer : graph.search source destination constraints = .ok itineraries)
    {itinerary : Itinerary} (member : itinerary ∈ itineraries) :
    (∀ leg ∈ itinerary.legs, leg.departure < leg.arrival) ∧
      (itinerary.legs.IsChain fun previous next => previous.arrival ≤ next.departure) ∧
      itinerary.departure < itinerary.arrival ∧ 0 ≤ itinerary.minutes := by
  have admissible := admissible_of_search built answer member
  have forward : ∀ leg ∈ itinerary.legs, leg.departure < leg.arrival :=
    fun leg listed => (admissible.offered leg listed).2.2.1
  have ordered : itinerary.legs.IsChain fun previous next => previous.arrival ≤ next.departure :=
    admissible.connected.imp fun _ _ connects => connects.allowed.arrival_le_departure
  have whole : itinerary.departure < itinerary.arrival :=
    Flight.departure_lt_arrival_of_isChain itinerary.legs_ne_nil forward ordered
  exact ⟨forward, ordered, whole, Instant.minutesSince_nonneg_of_le (Int.le_of_lt whole)⟩

private theorem isSome_withinLeap : (Instant.ofParts? 0 86399 1500000000).isSome = true := by
  decide

private theorem isSome_nextMidnight : (Instant.ofParts? 1 0 0).isSome = true := by
  decide

/-- A flight that departs in a leap second at midnight and arrives at the beginning of the
next day. -/
private def midnightFlight : Flight :=
  ⟨"F", "A", "B", (Instant.ofParts? 0 86399 1500000000).get isSome_withinLeap,
    (Instant.ofParts? 1 0 0).get isSome_nextMidnight, ⟨0⟩, 1⟩

/-- The difference between the ends of this flight is negative. -/
theorem midnight_flight_moves_forward :
    build [midnightFlight] 1 = .ok (ofBoardable 1 0 [midnightFlight]) ∧
      ∃ itineraries, (ofBoardable 1 0 [midnightFlight]).search "A" "B" {} = .ok itineraries ∧
        ⟨[midnightFlight], by decide⟩ ∈ itineraries ∧
        midnightFlight.arrival.nanosSince midnightFlight.departure < 0 ∧
        midnightFlight.departure < midnightFlight.arrival ∧ 0 ≤ midnightFlight.minutes := by
  have built : build [midnightFlight] 1 = .ok (ofBoardable 1 0 [midnightFlight]) :=
    build_of_nodup 1 (by decide)
  have accepted : ({} : Constraints).violation? legsCeiling = none := by decide
  rcases exists_search accepted (ofBoardable 1 0 [midnightFlight])
    (by decide : ¬("A" = "" ∨ "B" = "")) with ⟨itineraries, answer⟩
  have member : ⟨[midnightFlight], by decide⟩ ∈ itineraries :=
    (mem_iff_of_search built answer rfl _).mpr (by decide)
  rcases itineraries_move_forward built answer member with ⟨_, _, whole, minutes⟩
  exact ⟨built, itineraries, answer, member, by decide, whole, minutes⟩

end Graph
end Itineraries
