import Itineraries.Flight

namespace Itineraries

/-!
# Timetables

A timetable lists the departures from one place in the order in which they
leave.  Since it is sorted, the departures in a window of time stand side by
side, and both ends of the window are found by halving.
-/

open Time (Instant)

/-- Departures sorted by time. -/
structure Timetable where
  flights : Array Flight
  ordered : flights.toList.Pairwise fun first second => first.departure ≤ second.departure

/-- The order of departures: by time, and by id among those that leave at the
same time. -/
def Flight.leavesFirst (first second : Flight) : Bool :=
  decide (first.departure < second.departure) ||
    (decide (first.departure = second.departure) && decide (first.id ≤ second.id))

theorem Flight.departure_le_of_leavesFirst {first second : Flight}
    (goes : first.leavesFirst second = true) : first.departure ≤ second.departure := by
  simp only [leavesFirst, Bool.or_eq_true, Bool.and_eq_true, decide_eq_true_eq] at goes
  rcases goes with earlier | ⟨same, -⟩
  · exact Int.le_of_lt earlier
  · exact same ▸ Int.le_refl _

theorem Flight.leavesFirst_trans (first second third : Flight)
    (early : first.leavesFirst second = true) (late : second.leavesFirst third = true) :
    first.leavesFirst third = true := by
  simp only [leavesFirst, Bool.or_eq_true, Bool.and_eq_true, decide_eq_true_eq] at *
  rcases early with early | ⟨sameEarly, early⟩ <;> rcases late with late | ⟨sameLate, late⟩
  · exact Or.inl (Int.lt_trans early late)
  · exact Or.inl (sameLate ▸ early)
  · exact Or.inl (sameEarly ▸ late)
  · exact Or.inr ⟨sameEarly.trans sameLate, String.le_trans early late⟩

theorem Flight.leavesFirst_total (first second : Flight) :
    (first.leavesFirst second || second.leavesFirst first) = true := by
  simp only [leavesFirst, Bool.or_eq_true, Bool.and_eq_true, decide_eq_true_eq]
  rcases Int.lt_trichotomy first.departure.place second.departure.place with early | same | late
  · exact Or.inl (Or.inl early)
  · have equal := Instant.place_injective same
    rcases String.le_total first.id second.id with early | late
    · exact Or.inl (Or.inr ⟨equal, early⟩)
    · exact Or.inr (Or.inr ⟨equal.symm, late⟩)
  · exact Or.inr (Or.inl late)

namespace Timetable

def empty : Timetable :=
  ⟨#[], List.Pairwise.nil⟩

instance : Inhabited Timetable :=
  ⟨empty⟩

def toList (timetable : Timetable) : List Flight :=
  timetable.flights.toList

def ofList (flights : List Flight) : Timetable where
  flights := (flights.mergeSort Flight.leavesFirst).toArray
  ordered :=
    (List.pairwise_mergeSort Flight.leavesFirst_trans Flight.leavesFirst_total flights).imp
      Flight.departure_le_of_leavesFirst

theorem ofList_nil : ofList [] = empty := by
  simp only [ofList, empty, List.mergeSort_nil]

theorem mem_toList_ofList (flights : List Flight) (flight : Flight) :
    flight ∈ (ofList flights).toList ↔ flight ∈ flights :=
  (List.mergeSort_perm flights Flight.leavesFirst).mem_iff

/-- The number of flights at the front of an array that pass a test, found by
halving.  The answer means something when no flight that passes the test stands
behind one that fails it. -/
def countFront (flights : Array Flight) (test : Flight → Bool) : Nat :=
  halve 0 flights.size (Nat.le_refl _)
where
  halve (low high : Nat) (bounded : high ≤ flights.size) : Nat :=
    if open_ : low < high then
      let middle := low + (high - low) / 2
      have inside : middle < flights.size := by omega
      if test flights[middle] then halve (middle + 1) high bounded
      else halve low middle (by omega)
    else
      low
  termination_by high - low

/-- The departures that do not leave before an instant. -/
def since (timetable : Timetable) (earliest : Instant) : List Flight :=
  let start := countFront timetable.flights fun flight => flight.departure < earliest
  (timetable.flights.extract start timetable.flights.size).toList

/-- The departures between two instants, both included. -/
def between (timetable : Timetable) (earliest latest : Instant) : List Flight :=
  let start := countFront timetable.flights fun flight => flight.departure < earliest
  let stop := countFront timetable.flights fun flight => flight.departure ≤ latest
  (timetable.flights.extract start (max start stop)).toList

end Timetable
end Itineraries
