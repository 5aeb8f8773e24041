import Itineraries.Timetable

namespace Itineraries
namespace Timetable

/-!
# Windows of a timetable

A timetable is sorted, so a test such as "leaves before noon" is passed by the
flights in front and by no other.  The number that halving finds is then the
place where the list is cut, and a window between two cuts holds exactly the
departures that a look at each of them would pick out.
-/

open Time (Instant)

/-! ## Cutting a list -/

/-- A list whose members pass a test just up to some place is cut there by the
test. -/
private theorem cut_eq_filter {flights : List Flight} {test : Flight → Bool} {count : Nat}
    (cut : ∀ index, (inside : index < flights.length) →
      (test flights[index] = true ↔ index < count)) :
    flights.take count = flights.filter test ∧
      flights.drop count = flights.filter fun flight => !test flight := by
  induction flights generalizing count with
  | nil => simp only [List.take_nil, List.drop_nil, List.filter_nil, and_self]
  | cons first rest inductionHypothesis =>
    have head := cut 0 (Nat.zero_lt_succ _)
    rw [List.getElem_cons_zero] at head
    have tail : ∀ index, (inside : index < rest.length) →
        (test rest[index] = true ↔ index < count - 1) := by
      intro index inside
      have shifted := cut (index + 1) (Nat.succ_lt_succ inside)
      rw [List.getElem_cons_succ] at shifted
      rw [shifted]
      omega
    rcases inductionHypothesis tail with ⟨taken, dropped⟩
    cases count with
    | zero =>
      have fails : test first = false := by
        rw [Bool.eq_false_iff]
        intro passes
        exact absurd (head.mp passes) (Nat.lt_irrefl 0)
      rw [Nat.zero_sub, List.take_zero] at taken
      rw [Nat.zero_sub, List.drop_zero] at dropped
      constructor
      · rw [List.take_zero, List.filter_cons, fails, ← taken]
        rfl
      · rw [List.drop_zero, List.filter_cons, fails, ← dropped]
        rfl
    | succ before =>
      have passes : test first = true := head.mpr (Nat.zero_lt_succ _)
      rw [Nat.add_sub_cancel] at taken dropped
      constructor
      · rw [List.take_succ_cons, List.filter_cons, passes, taken]
        rfl
      · rw [List.drop_succ_cons, List.filter_cons, passes, dropped]
        rfl

/-! ## Halving -/

/-- A test that no flight passes behind one that fails it. -/
def IsFrontTest (flights : Array Flight) (test : Flight → Bool) : Prop :=
  flights.toList.Pairwise fun first second => test second = true → test first = true

theorem IsFrontTest.test_of_le {flights : Array Flight} {test : Flight → Bool}
    (front : IsFrontTest flights test) {first second : Nat} (inside : second < flights.size)
    (ordered : first ≤ second) (passes : test flights[second] = true) :
    test flights[first] = true := by
  rcases Nat.lt_or_eq_of_le ordered with earlier | rfl
  · exact List.pairwise_iff_getElem.mp front first second (Nat.lt_trans earlier inside) inside
      earlier passes
  · exact passes

/-- Halving keeps what it starts from: everything in front of the lower bound
passes, and nothing from the upper bound on does. -/
private theorem test_iff_lt_halve {flights : Array Flight} {test : Flight → Bool}
    (front : IsFrontTest flights test) (low high : Nat) (bounded : high ≤ flights.size)
    (ordered : low ≤ high)
    (before : ∀ index, (inside : index < flights.size) → index < low →
      test flights[index] = true)
    (behind : ∀ index, (inside : index < flights.size) → test flights[index] = true →
      index < high)
    (index : Nat) (inside : index < flights.size) :
    test flights[index] = true ↔ index < countFront.halve flights test low high bounded := by
  fun_induction countFront.halve flights test low high bounded with
  | case1 low high bounded nonempty middle middleInside passes inductionHypothesis =>
    apply inductionHypothesis
    · omega
    · intro earlier earlierInside earlierBefore
      exact front.test_of_le middleInside (by omega) passes
    · exact behind
  | case2 low high bounded nonempty middle middleInside fails inductionHypothesis =>
    apply inductionHypothesis
    · omega
    · exact before
    · intro later laterInside laterPasses
      apply Nat.lt_of_not_le
      intro beyond
      exact fails (front.test_of_le laterInside beyond laterPasses)
  | case3 low high bounded empty =>
    constructor
    · intro passes
      have bound := behind index inside passes
      omega
    · exact before index inside

/-- The flights that pass are exactly those in front of their number. -/
theorem test_iff_lt_countFront {flights : Array Flight} {test : Flight → Bool}
    (front : IsFrontTest flights test) (index : Nat) (inside : index < flights.size) :
    test flights[index] = true ↔ index < countFront flights test := by
  apply test_iff_lt_halve front
  · exact Nat.zero_le _
  · intro earlier earlierInside impossible
    exact absurd impossible (Nat.not_lt_zero _)
  · intro later laterInside laterPasses
    exact laterInside

theorem take_countFront {flights : Array Flight} {test : Flight → Bool}
    (front : IsFrontTest flights test) :
    flights.toList.take (countFront flights test) = flights.toList.filter test :=
  (cut_eq_filter fun index inside => test_iff_lt_countFront front index inside).1

theorem drop_countFront {flights : Array Flight} {test : Flight → Bool}
    (front : IsFrontTest flights test) :
    flights.toList.drop (countFront flights test) =
      flights.toList.filter fun flight => !test flight :=
  (cut_eq_filter fun index inside => test_iff_lt_countFront front index inside).2

/-- The flights between two such numbers are those that pass the second test and
fail the first. -/
theorem window_eq_filter {flights : Array Flight} {early late : Flight → Bool}
    (earlyFront : IsFrontTest flights early) (lateFront : IsFrontTest flights late) :
    (flights.extract (countFront flights early)
        (max (countFront flights early) (countFront flights late))).toList =
      flights.toList.filter fun flight => late flight && !early flight := by
  rw [Array.toList_extract, List.extract_eq_take_drop, ← List.filter_filter,
    ← drop_countFront earlyFront]
  apply (cut_eq_filter _).1
  intro index inside
  rw [List.length_drop, Array.length_toList] at inside
  rw [List.getElem_drop, Array.getElem_toList, test_iff_lt_countFront lateFront]
  omega

/-! ## Departures in a window -/

theorem isFrontTest_before (timetable : Timetable) (earliest : Instant) :
    IsFrontTest timetable.flights fun flight => flight.departure < earliest := by
  apply timetable.ordered.imp
  intro first second ordered before
  rw [decide_eq_true_eq] at before ⊢
  exact Int.lt_of_le_of_lt ordered before

theorem isFrontTest_upTo (timetable : Timetable) (latest : Instant) :
    IsFrontTest timetable.flights fun flight => flight.departure ≤ latest := by
  apply timetable.ordered.imp
  intro first second ordered before
  rw [decide_eq_true_eq] at before ⊢
  exact Int.le_trans ordered before

/-- Halving finds the departures that a look at each of them would find. -/
theorem since_eq_filter (timetable : Timetable) (earliest : Instant) :
    timetable.since earliest =
      timetable.toList.filter fun flight => earliest ≤ flight.departure := by
  have dropped := drop_countFront (timetable.isFrontTest_before earliest)
  rw [since, Array.toList_extract, List.extract_eq_take_drop, dropped, List.take_of_length_le]
  · apply List.filter_congr
    intro flight member
    rw [← decide_not]
    exact decide_eq_decide.mpr Int.not_lt
  · apply Nat.le_of_eq
    rw [← dropped, List.length_drop, Array.length_toList]

/-- The same holds of both ends of a window, even if they stand crossed. -/
theorem between_eq_filter (timetable : Timetable) (earliest latest : Instant) :
    timetable.between earliest latest =
      timetable.toList.filter fun flight =>
        earliest ≤ flight.departure ∧ flight.departure ≤ latest := by
  rw [between, window_eq_filter (timetable.isFrontTest_before earliest)
    (timetable.isFrontTest_upTo latest)]
  apply List.filter_congr
  intro flight member
  rw [← decide_not, ← Bool.decide_and]
  exact decide_eq_decide.mpr (and_comm.trans (and_congr Int.not_lt Iff.rfl))

end Timetable
end Itineraries
