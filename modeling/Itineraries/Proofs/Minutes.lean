import Itineraries.Time.Instant
import Mathlib.Data.Int.Init

namespace Itineraries
namespace Time
namespace Instant

/-!
# Minutes later and minutes between

Some minutes after an instant there is another one, and between two instants there are
some minutes.  The two notions are not inverse to each other.  Whoever adds minutes
leaves a leap second at its beginning, by way of the second that it follows; whoever
takes a difference sees a leap second at an end only if the other end is at a later (or
an earlier) time of *its* day.  Past midnight a leap second is thus lost, and the
difference falls short of the minutes that were added.

It never falls short by two seconds, and it never exceeds them by one.  Since whole
minutes are cut off towards zero, at most one minute goes missing, and none is put in.
-/

/-- The seconds up to the one that an instant lies in, without leap seconds. -/
def seconds (instant : Instant) : Int :=
  instant.day * secondsPerDay + instant.second

/-- How far an instant is into its second, be it a leap second or another one. -/
def part (instant : Instant) : Nat :=
  if instant.isLeap then instant.nano - nanosPerSecond else instant.nano

theorem isLeap_iff (instant : Instant) :
    instant.isLeap = true ↔ nanosPerSecond ≤ instant.nano :=
  decide_eq_true_iff

theorem part_cases (instant : Instant) :
    nanosPerSecond ≤ instant.nano ∧ instant.nano = instant.part + nanosPerSecond ∨
      instant.nano < nanosPerSecond ∧ instant.nano = instant.part := by
  unfold part
  split
  · rename_i leap
    have late := (isLeap_iff instant).mp leap
    exact Or.inl ⟨late, (Nat.sub_add_cancel late).symm⟩
  · rename_i ordinary
    exact Or.inr ⟨Nat.lt_of_not_le (mt (isLeap_iff instant).mpr ordinary), rfl⟩

theorem part_lt (instant : Instant) : instant.part < nanosPerSecond := by
  have nano := instant.nano_lt
  have parts := instant.part_cases
  omega

theorem seconds_lt (instant : Instant) :
    instant.seconds < (lastDay + 1) * secondsPerDay := by
  have day := instant.le_lastDay
  have second := instant.second_lt
  simp only [seconds, secondsPerDay, lastDay] at *
  omega

/-- Instants are ordered by their seconds first. -/
theorem le_iff (first second : Instant) :
    first ≤ second ↔
      first.seconds < second.seconds ∨
        first.seconds = second.seconds ∧ first.nano ≤ second.nano := by
  have firstNano := first.nano_lt
  have secondNano := second.nano_lt
  change first.place ≤ second.place ↔ _
  simp only [place, seconds, nanosPerSecond, secondsPerDay] at *
  omega

/-! ## Minutes later -/

theorem addMinutes?_zero (instant : Instant) : instant.addMinutes? 0 = some instant :=
  rfl

theorem addMinutes?_of_pos (instant : Instant) {minutes : Nat} (positive : 0 < minutes) :
    instant.addMinutes? minutes =
      ofParts? (instant.day + ((instant.second + 60 * minutes) / secondsPerDay : Nat))
        ((instant.second + 60 * minutes) % secondsPerDay) instant.part :=
  if_neg (Nat.ne_of_gt positive)

theorem of_ofParts?_eq_some {day : Int} {second nano : Nat} {instant : Instant}
    (found : ofParts? day second nano = some instant) :
    instant.day = day ∧ instant.second = second ∧ instant.nano = nano := by
  unfold ofParts? at found
  split at found
  · cases found
    exact ⟨rfl, rfl, rfl⟩
  · cases found

/-- What comes some minutes later lies that many minutes on, just as far into its
second, and never in a leap second. -/
theorem of_addMinutes?_eq_some {instant later : Instant} {minutes : Nat} (positive : 0 < minutes)
    (found : instant.addMinutes? minutes = some later) :
    later.seconds = instant.seconds + 60 * minutes ∧ later.nano = instant.part := by
  rw [addMinutes?_of_pos instant positive] at found
  rcases of_ofParts?_eq_some found with ⟨day, second, nano⟩
  refine ⟨?_, nano⟩
  simp only [seconds, day, second, secondsPerDay]
  omega

/-- Only what lies behind the last day cannot be reached. -/
theorem of_addMinutes?_eq_none {instant : Instant} {minutes : Nat}
    (beyond : instant.addMinutes? minutes = none) :
    (lastDay + 1) * secondsPerDay ≤ instant.seconds + 60 * minutes := by
  rcases Nat.eq_zero_or_pos minutes with rfl | positive
  · rw [addMinutes?_zero] at beyond
    cases beyond
  · rw [addMinutes?_of_pos instant positive] at beyond
    have first := instant.firstDay_le
    have part := instant.part_lt
    unfold ofParts? at beyond
    split at beyond
    · cases beyond
    · rename_i invalid
      simp only [seconds, secondsPerDay, nanosPerSecond, firstDay, lastDay] at *
      omega

theorem exists_addMinutes?_le {instant later : Instant} {few many : Nat} (fewer : few ≤ many)
    (found : instant.addMinutes? many = some later) :
    ∃ sooner, instant.addMinutes? few = some sooner ∧ sooner ≤ later := by
  rcases Nat.eq_zero_or_pos many with rfl | manyPositive
  · rw [Nat.le_zero.mp fewer]
    exact ⟨later, found, Int.le_refl _⟩
  · have reached := of_addMinutes?_eq_some manyPositive found
    cases near : instant.addMinutes? few with
    | none =>
      have beyond := of_addMinutes?_eq_none near
      have inside := later.seconds_lt
      omega
    | some sooner =>
      refine ⟨sooner, rfl, (le_iff _ _).mpr ?_⟩
      rcases Nat.eq_zero_or_pos few with rfl | fewPositive
      · rw [addMinutes?_zero] at near
        cases near
        exact Or.inl (by omega)
      · have reachedSooner := of_addMinutes?_eq_some fewPositive near
        omega

/-! ## Minutes between -/

/-- The leap second that a difference counts: one more where it begins in one, one less
where it ends in one, and none unless the other end is on the far side within its day. -/
theorem nanosSince_cases (later earlier : Instant) :
    ∃ leap : Int, later.nanosSince earlier =
        (later.seconds - earlier.seconds + leap) * nanosPerSecond +
          (later.nano - earlier.nano : Int) ∧
      (leap = 1 ∧ earlier.isLeap = true ∧ earlier.second < later.second ∨
        leap = -1 ∧ later.isLeap = true ∧ later.second < earlier.second ∨
        leap = 0 ∧ (earlier.isLeap = true → later.second ≤ earlier.second) ∧
          (later.isLeap = true → earlier.second ≤ later.second)) := by
  have seconds : later.seconds - earlier.seconds =
      (later.day - earlier.day) * secondsPerDay + (later.second - earlier.second : Int) := by
    simp only [Instant.seconds, secondsPerDay]
    omega
  rw [seconds]
  refine ⟨_, rfl, ?_⟩
  split
  · rename_i after
    split
    · rename_i leap
      exact Or.inl ⟨rfl, leap, after⟩
    · rename_i ordinary
      exact Or.inr (Or.inr ⟨rfl, fun leap => absurd leap ordinary, fun _ => Nat.le_of_lt after⟩)
  · rename_i notAfter
    split
    · rename_i before
      split
      · rename_i leap
        exact Or.inr (Or.inl ⟨rfl, leap, before⟩)
      · rename_i ordinary
        exact Or.inr (Or.inr ⟨rfl, fun _ => Nat.le_of_lt before, fun leap => absurd leap ordinary⟩)
    · rename_i notBefore
      exact Or.inr (Or.inr ⟨rfl, fun _ => Nat.not_lt.mp notAfter, fun _ => Nat.not_lt.mp notBefore⟩)

/-- Whether a difference does not see the leap second in which one of its ends lies. -/
def MissesLeap (later earlier : Instant) : Prop :=
  earlier.isLeap ∧ later.second ≤ earlier.second ∨ later.isLeap ∧ later.second < earlier.second

instance (later earlier : Instant) : Decidable (later.MissesLeap earlier) :=
  inferInstanceAs (Decidable (_ ∨ _))

/-- A difference falls short of the minutes that have passed by less than two seconds, and
not at all unless it misses a leap second. -/
theorem nanosSince_of_addMinutes?_le {earlier later bound : Instant} {minutes : Nat}
    (found : earlier.addMinutes? minutes = some bound) (passed : bound ≤ later) :
    (60 * minutes - 2 : Int) * nanosPerSecond < later.nanosSince earlier ∧
      (0 < minutes → ¬later.MissesLeap earlier →
        (60 * minutes : Int) * nanosPerSecond ≤ later.nanosSince earlier) := by
  have earlierNano := earlier.nano_lt
  have laterNano := later.nano_lt
  have ordered := (le_iff _ _).mp passed
  rcases nanosSince_cases later earlier with ⟨leap, difference, counted⟩
  rw [difference]
  rcases Nat.eq_zero_or_pos minutes with rfl | positive
  · rw [addMinutes?_zero] at found
    cases found
    simp only [isLeap_iff, nanosPerSecond] at *
    omega
  · rcases of_addMinutes?_eq_some positive found with ⟨seconds, nano⟩
    have earlierParts := earlier.part_cases
    rw [seconds, nano] at ordered
    simp only [MissesLeap, isLeap_iff, nanosPerSecond] at *
    omega

/-- A difference exceeds the minutes within which it has stayed by less than one second. -/
theorem nanosSince_of_le_addMinutes? {earlier later : Instant} {minutes : Nat}
    (within : ∀ bound, earlier.addMinutes? minutes = some bound → later ≤ bound) :
    later.nanosSince earlier < (60 * minutes + 1 : Int) * nanosPerSecond := by
  have earlierNano := earlier.nano_lt
  have laterNano := later.nano_lt
  have earlierParts := earlier.part_cases
  rcases nanosSince_cases later earlier with ⟨leap, difference, counted⟩
  rw [difference]
  cases found : earlier.addMinutes? minutes with
  | none =>
    have beyond := of_addMinutes?_eq_none found
    have inside := later.seconds_lt
    simp only [isLeap_iff, nanosPerSecond] at *
    omega
  | some bound =>
    have ordered := (le_iff _ _).mp (within bound found)
    rcases Nat.eq_zero_or_pos minutes with rfl | positive
    · rw [addMinutes?_zero] at found
      cases found
      have earlierSecond := earlier.second_lt
      have laterSecond := later.second_lt
      simp only [seconds, secondsPerDay, isLeap_iff, nanosPerSecond] at *
      omega
    · rcases of_addMinutes?_eq_some positive found with ⟨seconds, nano⟩
      rw [seconds, nano] at ordered
      simp only [isLeap_iff, nanosPerSecond] at *
      omega

/-! ## Whole minutes -/

theorem le_minutesSince {later earlier : Instant} {minutes : Int}
    (passed : minutes * (60 * nanosPerSecond) ≤ later.nanosSince earlier) :
    minutes ≤ later.minutesSince earlier :=
  Int.le_tdiv_of_mul_le (by decide) passed

theorem minutesSince_nonneg {later earlier : Instant}
    (passed : -(60 * nanosPerSecond : Int) < later.nanosSince earlier) :
    0 ≤ later.minutesSince earlier := by
  have bound := Int.tdiv_le_tdiv (by decide : (0 : Int) < 60 * nanosPerSecond)
    (Int.add_one_le_of_lt passed)
  exact bound

theorem minutesSince_le {later earlier : Instant} {minutes : Int} (nonneg : 0 ≤ minutes)
    (within : later.nanosSince earlier < (minutes + 1) * (60 * nanosPerSecond)) :
    later.minutesSince earlier ≤ minutes := by
  have bound := Int.tdiv_le_tdiv (by decide : (0 : Int) < 60 * nanosPerSecond)
    (Int.le_sub_one_of_lt within)
  have limit : ((minutes + 1) * (60 * nanosPerSecond) - 1 : Int).tdiv (60 * nanosPerSecond) =
      minutes := by
    simp only [nanosPerSecond]
    rw [Int.tdiv_eq_ediv_of_nonneg (by omega)]
    omega
  exact limit ▸ bound

/-- After so many minutes at most one whole minute is missing from the difference, and
none unless the difference misses a leap second. -/
theorem le_minutesSince_of_addMinutes?_le {earlier later bound : Instant} {minutes : Nat}
    (found : earlier.addMinutes? minutes = some bound) (passed : bound ≤ later) :
    (minutes : Int) - 1 ≤ later.minutesSince earlier ∧
      (later.minutesSince earlier < minutes → 0 < minutes ∧ later.MissesLeap earlier) := by
  rcases nanosSince_of_addMinutes?_le found passed with ⟨nearly, fully⟩
  rcases Nat.eq_zero_or_pos minutes with rfl | positive
  · have nonneg : 0 ≤ later.minutesSince earlier := by
      apply minutesSince_nonneg
      simp only [nanosPerSecond] at *
      omega
    omega
  · refine ⟨?_, ?_⟩
    · apply le_minutesSince
      simp only [nanosPerSecond] at *
      omega
    · intro short
      refine ⟨positive, ?_⟩
      apply Decidable.byContradiction
      intro seen
      have enough : (minutes : Int) ≤ later.minutesSince earlier := by
        apply le_minutesSince
        have whole := fully positive seen
        simp only [nanosPerSecond] at *
        omega
      omega

/-- Within so many minutes the difference does not exceed them. -/
theorem minutesSince_le_of_le_addMinutes? {earlier later : Instant} {minutes : Nat}
    (within : ∀ bound, earlier.addMinutes? minutes = some bound → later ≤ bound) :
    later.minutesSince earlier ≤ minutes := by
  have short := nanosSince_of_le_addMinutes? within
  apply minutesSince_le (Int.natCast_nonneg minutes)
  simp only [nanosPerSecond] at *
  omega

end Instant
end Time
end Itineraries
