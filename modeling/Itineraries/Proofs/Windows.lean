import Itineraries.Proofs.Building
import Itineraries.Proofs.Minutes

namespace Itineraries

/-!
# Windows of departures

The departures that may follow some legs are cut out of a timetable.  Where the cut begins
and where it ends is found by halving, and neither search knows of the other.  That the cut
holds just what a look at each departure would pick out needs the order of the timetable
only.  That it is a cut at all, with its end not in front of its beginning, needs more: the
longest connection must not lead to an earlier instant than the shortest.

More minutes lead further, but this is not as plain as it looks.  From a leap second no
minutes lead back to the leap second itself, while any others start from the second before
it.  And the longest connection may lead beyond all time where the shortest does not; then
the cut goes on to the end of the timetable.
-/

open Time (Instant)

/-! ## Spans of time -/

/-- The most milliseconds that a span of time can have, forwards or backwards. -/
def Time.longestSpan : Nat := 9223372036854775807

/-- Whether there is a span of so many minutes. -/
def Time.IsSpan (minutes : Int) : Prop :=
  (60000 * minutes).natAbs ≤ Time.longestSpan

instance (minutes : Int) : Decidable (Time.IsSpan minutes) :=
  inferInstanceAs (Decidable (_ ≤ _))

example : Time.IsSpan 153722867280912 ∧ ¬Time.IsSpan 153722867280913 := by decide

/-- The connections that accepted constraints speak of do not go back in time and are short
enough to be added to an arrival. -/
theorem Constraints.Valid.isSpan {constraints : Constraints} {hopsLimit : Nat}
    (valid : constraints.Valid hopsLimit) :
    ∀ minutes ∈ [constraints.minConnection, constraints.maxConnection],
      0 ≤ minutes ∧ Time.IsSpan minutes := by
  have least := valid.connection_nonneg
  have ordered := valid.connections_ordered
  have most := valid.connection_le_ceiling
  unfold connectionCeiling at most
  intro minutes listed
  have inside : 0 ≤ minutes ∧ minutes ≤ 10080 := by
    rcases List.mem_pair.mp listed with rfl | rfl <;> omega
  refine ⟨inside.1, ?_⟩
  unfold Time.IsSpan Time.longestSpan
  omega

/-! ## Counting by halving -/

namespace Timetable

private theorem halve_le {flights : Array Flight} {test : Flight → Bool} (low high : Nat)
    (bounded : high ≤ flights.size) (ordered : low ≤ high) :
    countFront.halve flights test low high bounded ≤ high := by
  fun_induction countFront.halve flights test low high bounded with
  | case1 low high bounded nonempty middle inside passes inductionHypothesis =>
    exact inductionHypothesis (by omega)
  | case2 low high bounded nonempty middle inside fails inductionHypothesis =>
    exact Nat.le_trans (inductionHypothesis (by omega)) (by omega)
  | case3 low high bounded empty => exact ordered

theorem countFront_le_size (flights : Array Flight) (test : Flight → Bool) :
    countFront flights test ≤ flights.size :=
  halve_le 0 flights.size _ (Nat.zero_le _)

/-- Halving counts the flights that pass, although it does not look at all of them. -/
theorem countFront_eq_countP {flights : Array Flight} {test : Flight → Bool}
    (front : IsFrontTest flights test) :
    countFront flights test = flights.toList.countP test := by
  have inside : countFront flights test ≤ flights.toList.length :=
    countFront_le_size flights test
  rw [List.countP_eq_length_filter, ← take_countFront front, List.length_take,
    Nat.min_eq_left inside]

theorem countFront_before_le_upTo (timetable : Timetable) {earliest latest : Instant}
    (ordered : earliest ≤ latest) :
    countFront timetable.flights (fun flight => flight.departure < earliest) ≤
      countFront timetable.flights (fun flight => flight.departure ≤ latest) := by
  rw [countFront_eq_countP (timetable.isFrontTest_before earliest),
    countFront_eq_countP (timetable.isFrontTest_upTo latest)]
  apply List.countP_mono_left
  intro flight _ before
  rw [decide_eq_true_eq] at before ⊢
  exact Int.le_trans (Int.le_of_lt before) ordered

end Timetable

/-! ## The cut -/

namespace Query

/-- How many departures from a place stand in front of those that may follow the legs so far,
of which the latest comes first, and how many stand in front of their end.  Both numbers are
given as they are found, the second without regard to the first.  There is no window if the
shortest connection leads beyond all time. -/
def window? (query : Query) (trail : List Flight) (location : String) : Option (Nat × Nat) :=
  let departures := (query.graph.outbound location).flights
  let before (instant : Instant) : Nat :=
    Timetable.countFront departures fun flight => flight.departure < instant
  let upTo (instant : Instant) : Nat :=
    Timetable.countFront departures fun flight => flight.departure ≤ instant
  match trail with
  | [] => some (query.constraints.departureNotBefore.elim 0 before, departures.size)
  | previous :: _ =>
    (previous.arrival.addMinutes? query.constraints.minConnection.toNat).map fun earliest =>
      (before earliest,
        (previous.arrival.addMinutes? query.constraints.maxConnection.toNat).elim departures.size
          upTo)

/-- The candidates are what stands between the two numbers. -/
theorem candidates_eq_extract (query : Query) (trail : List Flight) (location : String) :
    query.candidates trail location =
      (query.window? trail location).elim [] fun window =>
        ((query.graph.outbound location).flights.extract window.1
          (max window.1 window.2)).toList := by
  -- Without a latest departure the cut goes on to the end of the timetable.
  have whole : ∀ test, max (Timetable.countFront (query.graph.outbound location).flights test)
      (query.graph.outbound location).flights.size =
        (query.graph.outbound location).flights.size :=
    fun test => Nat.max_eq_right (Timetable.countFront_le_size _ test)
  cases trail with
  | nil =>
    cases bound : query.constraints.departureNotBefore with
    | none =>
      simp only [candidates, window?, bound, Option.elim_some, Option.elim_none, Nat.zero_max,
        Array.extract_size, Timetable.toList]
    | some earliest =>
      simp only [candidates, window?, bound, Option.elim_some, whole, Timetable.since]
  | cons previous before =>
    cases shortest : previous.arrival.addMinutes? query.constraints.minConnection.toNat with
    | none => simp only [candidates, window?, shortest, Option.map_none, Option.elim_none]
    | some earliest =>
      cases longest : previous.arrival.addMinutes? query.constraints.maxConnection.toNat with
      | none =>
        simp only [candidates, window?, shortest, longest, Option.map_some, Option.elim_some,
          Option.elim_none, whole, Timetable.since]
      | some latest =>
        simp only [candidates, window?, shortest, longest, Option.map_some, Option.elim_some,
          Timetable.between]

/-- Under accepted constraints the window does not end in front of its beginning, nor behind
the last departure. -/
theorem window?_ordered {query : Query} {hopsLimit : Nat}
    (valid : query.constraints.Valid hopsLimit) {trail : List Flight} {location : String}
    {start stop : Nat} (found : query.window? trail location = some (start, stop)) :
    start ≤ stop ∧ stop ≤ (query.graph.outbound location).flights.size := by
  cases trail with
  | nil =>
    cases found
    refine ⟨?_, Nat.le_refl _⟩
    cases query.constraints.departureNotBefore with
    | none => exact Nat.zero_le _
    | some earliest => exact Timetable.countFront_le_size _ _
  | cons previous before =>
    rcases Option.map_eq_some_iff.mp found with ⟨earliest, shortest, cut⟩
    cases cut
    -- Without a latest departure the end is that of the timetable; with one, it was counted
    -- for an instant that is no earlier than the one the beginning was counted for.
    cases longest : previous.arrival.addMinutes? query.constraints.maxConnection.toNat with
    | none => exact ⟨Timetable.countFront_le_size _ _, Nat.le_refl _⟩
    | some latest =>
      have fewer : query.constraints.minConnection.toNat ≤
          query.constraints.maxConnection.toNat :=
        Int.toNat_le_toNat valid.connections_ordered
      rcases Instant.exists_addMinutes?_le fewer longest with ⟨sooner, reached, ordered⟩
      rw [shortest] at reached
      cases reached
      exact ⟨Timetable.countFront_before_le_upTo _ ordered, Timetable.countFront_le_size _ _⟩

/-- Under accepted constraints, the candidates are cut out of a timetable of the graph of an
inventory.  The timetable has the flights that can be boarded at its place, in the order in
which they leave.  The candidates are those of them that a look at each would pick out, and
they stand side by side: the window neither reaches beyond the timetable nor ends in front of
its beginning.  If there is no window there are no candidates.  The minutes that are added to
an arrival are spans of time. -/
theorem candidates_cut_out_of_timetable {flights : List Flight} {version hopsLimit : Nat}
    {query : Query} (built : Graph.build flights version = .ok query.graph)
    (accepted : query.constraints.violation? hopsLimit = none) (trail : List Flight)
    (location : String) :
    let departures := (query.graph.outbound location).toList
    departures =
        (flights.filter fun flight => flight.IsBoardable ∧ flight.source = location).mergeSort
          Flight.leavesFirst ∧
      query.candidates trail location =
        departures.filter (fun flight => query.AllowsNext trail flight.departure) ∧
      (query.window? trail location = none → query.candidates trail location = []) ∧
      (∀ start stop, query.window? trail location = some (start, stop) →
        start ≤ stop ∧ stop ≤ departures.length ∧
          query.candidates trail location = (departures.take stop).drop start) ∧
      ∀ minutes ∈ [query.constraints.minConnection, query.constraints.maxConnection],
        0 ≤ minutes ∧ Time.IsSpan minutes := by
  intro departures
  have valid := (query.constraints.violation?_eq_none_iff hopsLimit).mp accepted
  have cut := query.candidates_eq_extract trail location
  refine ⟨?_, query.candidates_eq_filter trail location, ?_, ?_, valid.isSpan⟩
  · rw [← Graph.Departures.board_collect]
    exact congrArg Timetable.toList (Graph.collected_of_build built location).2
  · intro beyond
    rw [cut, beyond]
    rfl
  · intro start stop found
    rcases window?_ordered valid found with ⟨ordered, inside⟩
    refine ⟨ordered, inside, ?_⟩
    rw [cut, found, Option.elim_some, Nat.max_eq_right ordered, Array.toList_extract,
      List.extract_eq_drop_take']
    rfl

theorem isSome_inLastSecond (half : Nat) :
    (Instant.ofParts? Time.lastDay 86399 (500000000 * (half % 4))).isSome = true := by
  have nano : 500000000 * (half % 4) < 2 * Time.nanosPerSecond := by
    unfold Time.nanosPerSecond
    omega
  unfold Instant.ofParts?
  rw [dif_pos ⟨by decide, by decide, nano, fun _ => by decide⟩]
  rfl

/-- A half of the last second of all time, or of the leap second behind it. -/
def inLastSecond (half : Nat) : Instant :=
  (Instant.ofParts? Time.lastDay 86399 (500000000 * (half % 4))).get (isSome_inLastSecond half)

/-- A flight that arrives when the leap second begins, one that leaves half a second before
that, and two that leave at that very moment. -/
private def lastDepartures : List Flight :=
  [⟨"F1", "A", "B", inLastSecond 0, inLastSecond 2, ⟨0⟩, 1⟩,
    ⟨"F2", "B", "C", inLastSecond 1, inLastSecond 3, ⟨0⟩, 1⟩,
    ⟨"F3", "B", "C", inLastSecond 2, inLastSecond 3, ⟨0⟩, 1⟩,
    ⟨"F4", "B", "D", inLastSecond 2, inLastSecond 3, ⟨0⟩, 1⟩]

/-- No connection is needed, and the longest leads beyond all time. -/
private def lastQuery : Query :=
  ⟨Graph.ofBoardable 1 0 lastDepartures, "A", "C", { minConnection := 0 }⟩

theorem last_departures_cut_out :
    Graph.build lastDepartures 1 = .ok lastQuery.graph ∧
      lastQuery.constraints.violation? legsCeiling = none ∧
      lastQuery.candidates (lastDepartures.take 1) "B" = lastDepartures.drop 2 ∧
      ∃ start stop, lastQuery.window? (lastDepartures.take 1) "B" = some (start, stop) ∧
        start ≤ stop ∧ stop ≤ 3 ∧
        ((lastDepartures.drop 1).take stop).drop start = lastDepartures.drop 2 := by
  have built : Graph.build lastDepartures 1 = .ok lastQuery.graph :=
    Graph.build_of_nodup 1 (by decide)
  have accepted : lastQuery.constraints.violation? legsCeiling = none := by decide
  rcases candidates_cut_out_of_timetable built accepted (lastDepartures.take 1) "B" with
    ⟨sorted, picked, -, cut, -⟩
  have listed : (lastQuery.graph.outbound "B").toList = lastDepartures.drop 1 :=
    sorted.trans (List.mergeSort_of_pairwise (by decide))
  rw [listed] at picked cut
  have candidates : lastQuery.candidates (lastDepartures.take 1) "B" = lastDepartures.drop 2 :=
    picked.trans (by decide)
  rcases cut _ _ rfl with ⟨ordered, inside, between⟩
  exact ⟨built, accepted, candidates, _, _, rfl, ordered, inside, between.symm.trans candidates⟩

end Query
end Itineraries
