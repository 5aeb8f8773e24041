import Mathlib.Algebra.Order.Archimedean.Basic
import Itineraries.Proofs.Magnitudes

namespace Itineraries
namespace Price

/-!
# The shortest decimal rounds to its price

The search for a decimal goes through finer and finer grids.  On each it looks at the
two neighbours of the number and takes one that rounds to it, so what it finds is right.
It finds something as soon as a step of the grid is less than half the way to the next
number, and that happens within the grids it looks at, since the first of them is
estimated well enough.  So the decimal has no more digits than eighteen.
-/

/-! ## Powers of ten and of two -/

/-- Powers are compared by powers of their bases. -/
theorem zpow_le_zpow_of_pow {low high : ℚ} (low_pos : 0 < low) (one_le : 1 ≤ high)
    {lowSteps highSteps : ℕ} (some_steps : lowSteps ≠ 0) (bases : low ^ lowSteps ≤ high ^ highSteps)
    {lower upper : ℤ} (nonneg : 0 ≤ lower) (steps : highSteps * lower ≤ lowSteps * upper) :
    low ^ lower ≤ high ^ upper := by
  have high_pos : 0 < high := one_le.trans_lt' one_pos
  refine (pow_le_pow_iff_left₀ (by positivity) (by positivity) some_steps).mp ?_
  calc (low ^ lower) ^ lowSteps = (low ^ lowSteps) ^ lower := by
        rw [← zpow_natCast, ← zpow_natCast, zpow_comm]
    _ ≤ (high ^ highSteps) ^ lower := zpow_le_zpow_left₀ nonneg (by positivity) bases
    _ = high ^ (highSteps * lower) := by rw [← zpow_natCast, ← zpow_mul]
    _ ≤ high ^ (lowSteps * upper) := zpow_le_zpow_right₀ one_le steps
    _ = (high ^ upper) ^ lowSteps := by rw [mul_comm, zpow_mul, zpow_natCast]

/-- Three steps of ten are less than ten steps of two, and twenty-eight are more than
ninety-three. -/
theorem ten_zpow_le_two_zpow {tens twos : ℤ} (positive : 0 ≤ tens → 10 * tens ≤ 3 * twos)
    (negative : tens ≤ 0 → 93 * tens ≤ 28 * twos) : (10 : ℚ) ^ tens ≤ 2 ^ twos := by
  rcases le_total 0 tens with up | down
  · exact zpow_le_zpow_of_pow (by norm_num) one_le_two three_ne_zero
      (show (10 : ℚ) ^ 3 ≤ 2 ^ 10 by norm_num) up (by push_cast; exact positive up)
  · rcases le_total 0 twos with rise | fall
    · exact (zpow_le_one_of_nonpos₀ (by norm_num) down).trans (one_le_zpow₀ one_le_two rise)
    · have inverse := @zpow_le_zpow_of_pow 2 10 two_pos (by norm_num) 93 28 (by norm_num)
        (by norm_num) (-twos) (-tens) (by omega) (by push_cast; linarith [negative down])
      rw [zpow_neg, zpow_neg] at inverse
      exact (inv_le_inv₀ (by positivity) (by positivity)).mp inverse

theorem two_zpow_le_ten_zpow {tens twos : ℤ} (positive : 0 ≤ tens → 28 * twos ≤ 93 * tens)
    (negative : tens ≤ 0 → 3 * twos ≤ 10 * tens) : (2 : ℚ) ^ twos ≤ 10 ^ tens := by
  have inverse := @ten_zpow_le_two_zpow (-tens) (-twos) (by omega) (by omega)
  rw [zpow_neg, zpow_neg] at inverse
  exact (inv_le_inv₀ (by positivity) (by positivity)).mp inverse

/-! ## Points of a grid -/

theorem midpoint_eq (magnitude : ℕ) :
    midpoint magnitude = (4 * (binary magnitude).significand + 2) *
      2 ^ ((binary magnitude).exponent - 2) := by
  rw [midpoint, amount_succ, amount, gap, zpow_sub₀ two_ne_zero]
  norm_num
  ring

/-- The midpoint below is half a unit below, or a quarter of one when the unit there is
less. -/
theorem midpoint_pred {magnitude : ℕ} (positive : 0 < magnitude) :
    midpoint (magnitude - 1) = (4 * (binary magnitude).significand -
      if (binary magnitude).narrowBelow then 1 else 2) *
        2 ^ ((binary magnitude).exponent - 2) := by
  have below := gap_pred positive
  have step := amount_succ (magnitude - 1)
  rw [Nat.sub_add_cancel positive] at step
  have own : amount magnitude =
      4 * (binary magnitude).significand * 2 ^ ((binary magnitude).exponent - 2) := by
    rw [amount, zpow_sub₀ two_ne_zero]
    norm_num
    ring
  have unit : gap magnitude = 4 * 2 ^ ((binary magnitude).exponent - 2) := by
    rw [gap, zpow_sub₀ two_ne_zero]
    norm_num
    ring
  have halfway : midpoint (magnitude - 1) = amount magnitude - gap (magnitude - 1) / 2 := by
    rw [midpoint, Nat.sub_add_cancel positive]
    linarith
  rw [halfway, below, own, unit]
  split <;> ring

/-- A power is the quotient of two whole ones, of which one is one. -/
theorem pow_toNat_eq {base : ℚ} (nonzero : base ≠ 0) (exponent : ℤ) :
    base ^ exponent.toNat = base ^ exponent * base ^ (-exponent).toNat := by
  rw [← zpow_natCast, ← zpow_natCast, ← zpow_add₀ nonzero]
  congr 1
  omega

namespace Binary

/-- A quarter of the unit of a number, in the measure in which number and grid are whole. -/
def quarterUnit (number : Binary) (place : ℤ) : ℕ :=
  Nat.pow 2 (number.exponent - 2).toNat * Nat.pow 10 (-place).toNat

/-- A step of the grid in that measure. -/
def gridStep (number : Binary) (place : ℤ) : ℕ :=
  Nat.pow 10 place.toNat * Nat.pow 2 (-(number.exponent - 2)).toNat

/-- Whether a point of the grid lies where numbers round to this one. -/
abbrev IsInside (number : Binary) (place : ℤ) (point : ℕ) : Prop :=
  if number.significand % 2 = 0 then
    (4 * number.significand - if number.narrowBelow then 1 else 2) * number.quarterUnit place ≤
        point * number.gridStep place ∧
      point * number.gridStep place ≤ (4 * number.significand + 2) * number.quarterUnit place
  else
    (4 * number.significand - if number.narrowBelow then 1 else 2) * number.quarterUnit place <
        point * number.gridStep place ∧
      point * number.gridStep place < (4 * number.significand + 2) * number.quarterUnit place

/-- What one unit is in that measure. -/
def measure (number : Binary) (place : ℤ) : ℚ :=
  10 ^ (-place).toNat * 2 ^ (-(number.exponent - 2)).toNat

theorem measure_pos (number : Binary) (place : ℤ) : 0 < number.measure place := by
  unfold measure
  positivity

theorem quarterUnit_eq (number : Binary) (place : ℤ) :
    (number.quarterUnit place : ℚ) = 2 ^ (number.exponent - 2) * number.measure place := by
  rw [quarterUnit, measure, Nat.pow_eq, Nat.pow_eq]
  push_cast
  rw [pow_toNat_eq two_ne_zero (number.exponent - 2)]
  ring

theorem gridStep_eq (number : Binary) (place : ℤ) :
    (number.gridStep place : ℚ) = 10 ^ place * number.measure place := by
  rw [gridStep, measure, Nat.pow_eq, Nat.pow_eq]
  push_cast
  rw [pow_toNat_eq (show (10 : ℚ) ≠ 0 by norm_num) place]
  ring

theorem gridStep_pos (number : Binary) (place : ℤ) : 0 < number.gridStep place := by
  unfold gridStep
  exact Nat.mul_pos (Nat.pow_pos (by decide)) (Nat.pow_pos two_pos)

theorem isInside_iff {magnitude : ℕ} (positive : 0 < magnitude) (place : ℤ) (point : ℕ) :
    (binary magnitude).IsInside place point ↔ RoundsTo (point * 10 ^ place) magnitude := by
  have measure := measure_pos (binary magnitude) place
  have some_significand : 0 < (binary magnitude).significand := by
    rcases exists_eq_binary magnitude with ⟨power, significand, rfl, short, full⟩
    rw [(binary_eq short full).1]
    omega
  have parity : (binary magnitude).significand % 2 = magnitude % 2 := by
    rcases exists_eq_binary magnitude with ⟨power, significand, shape, short, full⟩
    have significands := (binary_eq short full).1
    rw [← shape] at significands
    omega
  have scaled : ((point * (binary magnitude).gridStep place : ℕ) : ℚ) =
      point * 10 ^ place * (binary magnitude).measure place := by
    push_cast
    rw [gridStep_eq]
    ring
  have upper : (((4 * (binary magnitude).significand + 2) *
      (binary magnitude).quarterUnit place : ℕ) : ℚ) =
        midpoint magnitude * (binary magnitude).measure place := by
    rw [midpoint_eq]
    push_cast
    rw [quarterUnit_eq]
    ring
  have lower : (((4 * (binary magnitude).significand -
      if (binary magnitude).narrowBelow then 1 else 2) *
        (binary magnitude).quarterUnit place : ℕ) : ℚ) =
          midpoint (magnitude - 1) * (binary magnitude).measure place := by
    rw [midpoint_pred positive]
    split
    · rw [Nat.cast_mul, Nat.cast_sub (by omega), quarterUnit_eq]
      push_cast
      ring
    · rw [Nat.cast_mul, Nat.cast_sub (by omega), quarterUnit_eq]
      push_cast
      ring
  rw [RoundsTo.iff_between positive, IsInside, parity]
  split
  · rw [← Nat.cast_le (α := ℚ), ← Nat.cast_le (α := ℚ), scaled, lower, upper,
      mul_le_mul_iff_of_pos_right measure, mul_le_mul_iff_of_pos_right measure]
  · rw [← Nat.cast_lt (α := ℚ), ← Nat.cast_lt (α := ℚ), scaled, lower, upper,
      mul_lt_mul_iff_of_pos_right measure, mul_lt_mul_iff_of_pos_right measure]

/-- The point of a grid next to the number on the side of zero. -/
def pointBelow (number : Binary) (place : ℤ) : ℕ :=
  4 * number.significand * number.quarterUnit place / number.gridStep place

theorem onGrid?_eq (number : Binary) (place : ℤ) :
    ∃ belowIsNearer : Bool, number.onGrid? place =
      if number.IsInside place (number.pointBelow place) ∧
          number.IsInside place (number.pointBelow place + 1) then
        some ⟨if belowIsNearer then number.pointBelow place else number.pointBelow place + 1, place⟩
      else if number.IsInside place (number.pointBelow place) then
        some ⟨number.pointBelow place, place⟩
      else if number.IsInside place (number.pointBelow place + 1) then
        some ⟨number.pointBelow place + 1, place⟩
      else none :=
  ⟨_, rfl⟩

/-- What is found on a grid is a neighbour of the number that is inside. -/
theorem onGrid?_cases (number : Binary) (place : ℤ) :
    (∃ point, number.onGrid? place = some ⟨point, place⟩ ∧ number.IsInside place point) ∨
      number.onGrid? place = none ∧ ¬ number.IsInside place (number.pointBelow place + 1) := by
  rcases onGrid?_eq number place with ⟨belowIsNearer, found⟩
  rw [found]
  by_cases lower : number.IsInside place (number.pointBelow place)
  · by_cases upper : number.IsInside place (number.pointBelow place + 1)
    · rw [if_pos ⟨lower, upper⟩]
      cases belowIsNearer with
      | false => exact Or.inl ⟨_, rfl, upper⟩
      | true => exact Or.inl ⟨_, rfl, lower⟩
    · rw [if_neg fun both => upper both.2, if_pos lower]
      exact Or.inl ⟨_, rfl, lower⟩
  · rw [if_neg fun both => lower both.1, if_neg lower]
    by_cases upper : number.IsInside place (number.pointBelow place + 1)
    · rw [if_pos upper]
      exact Or.inl ⟨_, rfl, upper⟩
    · rw [if_neg upper]
      exact Or.inr ⟨rfl, upper⟩

/-- A grid with steps of less than half the way to the next number has a point that
rounds to the number. -/
theorem isInside_of_fine {magnitude : ℕ} (positive : 0 < magnitude) {place : ℤ}
    (fine : (10 : ℚ) ^ place < gap magnitude / 2) :
    (binary magnitude).IsInside place ((binary magnitude).pointBelow place + 1) := by
  have measure := measure_pos (binary magnitude) place
  have step := gridStep_pos (binary magnitude) place
  have own : ((4 * (binary magnitude).significand * (binary magnitude).quarterUnit place : ℕ) : ℚ) =
      amount magnitude * (binary magnitude).measure place := by
    push_cast
    rw [quarterUnit_eq, amount, zpow_sub₀ two_ne_zero]
    norm_num
    ring
  have point (count : ℕ) : ((count * (binary magnitude).gridStep place : ℕ) : ℚ) =
      count * 10 ^ place * (binary magnitude).measure place := by
    push_cast
    rw [gridStep_eq]
    ring
  have above : amount magnitude <
      ((binary magnitude).pointBelow place + 1 : ℕ) * 10 ^ place := by
    have less := Nat.lt_mul_of_div_lt (Nat.lt_succ_self ((binary magnitude).pointBelow place)) step
    rw [← Nat.cast_lt (α := ℚ), own, point] at less
    exact lt_of_mul_lt_mul_right less measure.le
  have below : ((binary magnitude).pointBelow place : ℚ) * 10 ^ place ≤ amount magnitude := by
    have less := Nat.div_mul_le_self
      (4 * (binary magnitude).significand * (binary magnitude).quarterUnit place)
      ((binary magnitude).gridStep place)
    rw [← Nat.cast_le (α := ℚ), own, point] at less
    exact le_of_mul_le_mul_right less measure
  have within : ((binary magnitude).pointBelow place + 1 : ℕ) * 10 ^ place <
      midpoint magnitude := by
    rw [midpoint, amount_succ]
    push_cast
    linarith
  have low := midpoint_lt_amount (Nat.sub_lt positive Nat.one_pos)
  rw [isInside_iff positive, RoundsTo.iff_between positive]
  split
  · exact ⟨by linarith, within.le⟩
  · exact ⟨by linarith, within⟩

/-- The search finds a point that rounds to the number on a grid that is no finer than a
given one among those it goes through, if that one is fine enough. -/
theorem searchGrids_spec {magnitude : ℕ} (positive : 0 < magnitude) {finest : ℤ}
    (fine : (10 : ℚ) ^ finest < gap magnitude / 2) (grids : ℕ) {place : ℤ}
    (within : finest ≤ place) (enough : place < finest + grids) :
    let decimal := (binary magnitude).searchGrids grids place
    RoundsTo (decimal.coefficient * 10 ^ decimal.place) magnitude ∧ finest ≤ decimal.place := by
  induction grids generalizing place with
  | zero => omega
  | succ grids inductionHypothesis =>
    rw [searchGrids]
    rcases onGrid?_cases (binary magnitude) place with ⟨point, found, inside⟩ | ⟨none, outside⟩
    · rw [found]
      exact ⟨(isInside_iff positive place point).mp inside, within⟩
    · rw [none]
      have coarser : place ≠ finest := by
        rintro rfl
        exact outside (isInside_of_fine positive fine)
      exact inductionHypothesis (by omega) (by push_cast at enough; omega)

/-- The coarsest grid that is fine enough. -/
theorem exists_finest (magnitude : ℕ) :
    ∃ finest : ℤ, (10 : ℚ) ^ finest < gap magnitude / 2 ∧
      gap magnitude / 2 ≤ 10 ^ (finest + 1) :=
  exists_mem_Ioc_zpow (half_pos (gap_pos magnitude)) (by norm_num)

/-- The coarsest grid that is fine enough is among those that are searched. -/
theorem finest_range {magnitude : ℕ} (positive : 0 < magnitude) (finite : magnitude < infinite)
    {finest : ℤ} (fine : (10 : ℚ) ^ finest < gap magnitude / 2)
    (coarsest : gap magnitude / 2 ≤ 10 ^ (finest + 1)) :
    finest ≤ (binary magnitude).topPlace ∧ (binary magnitude).topPlace < finest + 21 ∧
      -325 ≤ finest := by
  rcases binary_range positive finite with ⟨some_significand, short, least, greatest⟩
  have length : (binary magnitude).significand.log2 ≤ 52 :=
    Nat.lt_succ_iff.mp ((Nat.log2_lt some_significand.ne').mpr short)
  have half : gap magnitude / 2 = 2 ^ ((binary magnitude).exponent - 1) := by
    rw [gap, zpow_sub_one₀ two_ne_zero]
    ring
  have less : (2 : ℚ) ^ ((binary magnitude).exponent - 2) <
      2 ^ ((binary magnitude).exponent - 1) :=
    zpow_lt_zpow_right₀ one_lt_two (by omega)
  rw [half] at fine coarsest
  have base : (1 : ℚ) < 10 := by norm_num
  unfold topPlace
  refine ⟨?_, ?_, ?_⟩
  · have above := @two_zpow_le_ten_zpow ((((binary magnitude).significand.log2 : ℤ) +
      (binary magnitude).exponent + 1) * 30103 / 100000 + 1 + 1) ((binary magnitude).exponent - 1)
      (by omega) (by omega)
    have := (zpow_lt_zpow_iff_right₀ base).mp (fine.trans_le above)
    omega
  · have below := @ten_zpow_le_two_zpow ((((binary magnitude).significand.log2 : ℤ) +
      (binary magnitude).exponent + 1) * 30103 / 100000 + 1 - 20) ((binary magnitude).exponent - 2)
      (by omega) (by omega)
    have := (zpow_lt_zpow_iff_right₀ base).mp ((below.trans_lt less).trans_le coarsest)
    omega
  · have below := @ten_zpow_le_two_zpow (-324) ((binary magnitude).exponent - 1)
      (by omega) (by omega)
    have := (zpow_le_zpow_iff_right₀ base).mp (below.trans coarsest)
    omega

/-- A decimal that rounds to a magnitude has no more digits than its grid is fine. -/
theorem coefficient_lt {coefficient : ℕ} {place finest : ℤ} {magnitude : ℕ}
    (rounds : RoundsTo (coefficient * 10 ^ place) magnitude)
    (coarsest : gap magnitude / 2 ≤ 10 ^ (finest + 1)) (coarser : finest ≤ place) :
    coefficient < 2 ^ 58 := by
  have unit := gap_pos magnitude
  have coarse : gap magnitude / 20 ≤ 10 ^ place := by
    have finer : (10 : ℚ) ^ finest ≤ 10 ^ place := zpow_le_zpow_right₀ (by norm_num) coarser
    rw [zpow_add_one₀ (by norm_num)] at coarsest
    linarith
  have small : (coefficient : ℚ) * (gap magnitude / 20) ≤ 2 ^ 53 * gap magnitude := by
    have scaled := mul_le_mul_of_nonneg_left coarse (Nat.cast_nonneg (α := ℚ) coefficient)
    have top := rounds.le_midpoint.trans (midpoint_le_gap magnitude)
    linarith
  have small : (coefficient : ℚ) < 2 ^ 58 := by nlinarith
  exact_mod_cast small

/-- A decimal other than zero that rounds to a finite magnitude has no place behind the
greatest power of ten. -/
theorem place_le {coefficient : ℕ} {place : ℤ} {magnitude : ℕ}
    (rounds : RoundsTo (coefficient * 10 ^ place) magnitude) (positive : 0 < coefficient)
    (finite : magnitude < infinite) : place ≤ 308 := by
  have one_le : (1 : ℚ) ≤ coefficient := Nat.one_le_cast.mpr positive
  have top : amount infinite = 2 ^ (52 + 972 : ℤ) := by
    have shape : infinite = 2046 * 2 ^ 52 + 2 ^ 52 := by decide
    rw [shape, amount_eq (by norm_num) (Or.inr le_rfl), zpow_add₀ two_ne_zero]
    exact congrArg₂ (· * ·) (by norm_num) rfl
  have below : (10 : ℚ) ^ place < 10 ^ (309 : ℤ) :=
    calc (10 : ℚ) ^ place ≤ coefficient * 10 ^ place :=
          le_mul_of_one_le_left (by positivity) one_le
      _ ≤ midpoint magnitude := rounds.le_midpoint
      _ < amount infinite := midpoint_lt_amount finite
      _ = 2 ^ (52 + 972 : ℤ) := top
      _ ≤ 10 ^ (309 : ℤ) := two_zpow_le_ten_zpow (by omega) (by omega)
  have := (zpow_lt_zpow_iff_right₀ (by norm_num)).mp below
  omega

/-- The shortest decimal of a positive finite magnitude rounds to it, and its parts have
bounds. -/
theorem shortest_spec {magnitude : ℕ} (positive : 0 < magnitude) (finite : magnitude < infinite) :
    RoundsTo ((binary magnitude).shortest.coefficient * 10 ^ (binary magnitude).shortest.place)
        magnitude ∧
      0 < (binary magnitude).shortest.coefficient ∧
      (binary magnitude).shortest.coefficient < 2 ^ 58 ∧
      -325 ≤ (binary magnitude).shortest.place ∧ (binary magnitude).shortest.place ≤ 308 := by
  rcases exists_finest magnitude with ⟨finest, fine, coarsest⟩
  rcases finest_range positive finite fine coarsest with ⟨within, enough, least⟩
  have found := searchGrids_spec positive fine 21 within (by push_cast; omega)
  change RoundsTo ((binary magnitude).shortest.coefficient *
    10 ^ (binary magnitude).shortest.place) magnitude ∧
      finest ≤ (binary magnitude).shortest.place at found
  generalize (binary magnitude).shortest = decimal at found ⊢
  rcases decimal with ⟨coefficient, place⟩
  rcases found with ⟨rounds, coarser⟩
  simp only at rounds coarser ⊢
  have some_coefficient : 0 < coefficient := by
    rcases Nat.eq_zero_or_pos coefficient with rfl | some_coefficient
    · have above := rounds.midpoint_le (magnitude - 1) (by omega)
      have low := (amount_nonneg (magnitude - 1)).trans_lt (amount_lt_midpoint (magnitude - 1))
      rw [Nat.cast_zero, zero_mul] at above
      exact absurd above (not_le.mpr low)
    · exact some_coefficient
  exact ⟨rounds, some_coefficient, coefficient_lt rounds coarsest coarser, least.trans coarser,
    place_le rounds some_coefficient finite⟩

end Binary
end Price
end Itineraries
