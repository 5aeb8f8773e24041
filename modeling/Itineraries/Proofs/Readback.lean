import Itineraries.Proofs.Arithmetic
import Itineraries.Proofs.Decimals
import Itineraries.Proofs.Gathering

namespace Itineraries
namespace Price

/-!
# Prices read back

A price is written as a decimal that rounds to it, but it is not read by rounding that
decimal.  The significand is rounded when it is taken over, the power of ten is a rounded
number, and their product or quotient is rounded again; below the least power of ten
there is a further quotient.  Each rounding is off by a factor that is next to one, and so
is the result, which is at most three magnitudes away from the price.  Where only the
last operation has something to round it is the price itself.
-/

/-! ## Errors -/

/-- By what factor a rounded number may differ from the number. -/
def slack : ℚ :=
  1 + 1 / 2 ^ 53

/-- Whether two numbers differ by no more than a factor. -/
def Within (factor first second : ℚ) : Prop :=
  second ≤ factor * first ∧ first ≤ factor * second

/-- A number and the number it is rounded to differ by a factor that is next to one. -/
theorem RoundsTo.within_slack {number : ℚ} {magnitude : ℕ} (rounds : RoundsTo number magnitude)
    (normal : 2 ^ 52 < magnitude) : Within slack number (amount magnitude) := by
  have units {normal : ℕ} (large : 2 ^ 52 ≤ normal) : 2 ^ 52 * gap normal ≤ amount normal := by
    rcases exists_eq_binary normal with ⟨exponent, significand, rfl, short, full⟩
    have full : (2 : ℚ) ^ 52 ≤ significand := by
      exact_mod_cast (show 2 ^ 52 ≤ significand by omega)
    rw [amount_eq short.le (by omega), gap_eq short (by omega)]
    exact mul_le_mul_of_nonneg_right full (by positivity)
  have own := units normal.le
  have previous := units (Nat.le_sub_one_of_lt normal)
  have step := amount_succ (magnitude - 1)
  rw [Nat.sub_add_cancel (Nat.zero_lt_of_lt normal)] at step
  have below := rounds.midpoint_le (magnitude - 1) (by omega)
  have above := rounds.le_midpoint
  rw [midpoint, amount_succ] at above
  rw [midpoint, Nat.sub_add_cancel (Nat.zero_lt_of_lt normal), step] at below
  unfold slack
  constructor <;> linarith

/-- A magnitude so many steps further on is at least so many units greater. -/
theorem midpoint_add_le (magnitude steps : ℕ) :
    midpoint magnitude + steps * gap magnitude ≤ midpoint (magnitude + steps) := by
  induction steps with
  | zero => simp
  | succ steps inductionHypothesis =>
    have first := gap_mono (Nat.le_add_right magnitude steps)
    have second := gap_mono (Nat.le_add_right magnitude (steps + 1))
    have lower := amount_succ (magnitude + steps)
    have upper := amount_succ (magnitude + steps + 1)
    have step :
        midpoint (magnitude + steps) + gap magnitude ≤ midpoint (magnitude + steps + 1) := by
      unfold midpoint
      rw [← add_assoc] at second
      linarith
    rw [← add_assoc]
    push_cast
    linarith

/-- A number that is greater by less than so many units rounds to a magnitude that is at
most so many steps further on. -/
theorem RoundsTo.le_add {first second : ℚ} {lower upper : ℕ} (firstRounds : RoundsTo first lower)
    (secondRounds : RoundsTo second upper) {steps : ℕ}
    (near : second < first + steps * gap lower) : upper ≤ lower + steps := by
  by_contra far
  have beyond := secondRounds.midpoint_le (lower + steps) (Nat.not_le.mp far)
  have within := midpoint_add_le lower steps
  have own := firstRounds.le_midpoint
  linarith

namespace Within

variable {factor further first second third fourth : ℚ}

theorem refl (number : ℚ) : Within 1 number number := by
  rw [Within, one_mul]
  exact ⟨le_rfl, le_rfl⟩

theorem symm (near : Within factor first second) : Within factor second first :=
  And.symm near

theorem trans (nonneg : 0 ≤ factor) (furtherNonneg : 0 ≤ further)
    (near : Within factor first second) (farther : Within further second third) :
    Within (factor * further) first third := by
  constructor
  · calc third ≤ further * second := farther.1
      _ ≤ further * (factor * first) := mul_le_mul_of_nonneg_left near.1 furtherNonneg
      _ = factor * further * first := by ring
  · calc first ≤ factor * second := near.2
      _ ≤ factor * (further * third) := mul_le_mul_of_nonneg_left farther.2 nonneg
      _ = factor * further * third := by ring

theorem mul (firstNonneg : 0 ≤ first) (secondNonneg : 0 ≤ second) (thirdNonneg : 0 ≤ third)
    (fourthNonneg : 0 ≤ fourth) (near : Within factor first second)
    (other : Within further third fourth) :
    Within (factor * further) (first * third) (second * fourth) := by
  constructor
  · calc second * fourth ≤ factor * first * (further * third) :=
          mul_le_mul near.1 other.1 fourthNonneg (secondNonneg.trans near.1)
      _ = factor * further * (first * third) := by ring
  · calc first * third ≤ factor * second * (further * fourth) :=
          mul_le_mul near.2 other.2 thirdNonneg (firstNonneg.trans near.2)
      _ = factor * further * (second * fourth) := by ring

theorem inv (firstPos : 0 < first) (secondPos : 0 < second) (near : Within factor first second) :
    Within factor first⁻¹ second⁻¹ := by
  constructor
  · rw [← div_eq_mul_inv, le_div_iff₀ firstPos, ← div_eq_inv_mul, div_le_iff₀ secondPos]
    exact near.2
  · rw [← div_eq_mul_inv, le_div_iff₀ secondPos, ← div_eq_inv_mul, div_le_iff₀ firstPos]
    exact near.1

theorem div (firstNonneg : 0 ≤ first) (secondNonneg : 0 ≤ second) (thirdPos : 0 < third)
    (fourthPos : 0 < fourth) (near : Within factor first second)
    (other : Within further third fourth) :
    Within (factor * further) (first / third) (second / fourth) := by
  rw [div_eq_mul_inv, div_eq_mul_inv]
  exact near.mul firstNonneg secondNonneg (inv_nonneg.mpr thirdPos.le)
    (inv_nonneg.mpr fourthPos.le) (other.inv thirdPos fourthPos)

/-- Numbers that differ by a factor next to one round to magnitudes next to each other. -/
theorem le_add {lower upper steps : ℕ} (near : Within factor first second)
    (firstRounds : RoundsTo first lower) (secondRounds : RoundsTo second upper)
    (one_le : 1 ≤ factor) (small : (factor - 1) * (2 ^ 53 - 1 / 2) < steps) :
    upper ≤ lower + steps := by
  refine firstRounds.le_add secondRounds ?_
  have unit := gap_pos lower
  have top := firstRounds.le_midpoint.trans (midpoint_le_gap lower)
  calc second ≤ first + (factor - 1) * first := by linarith [near.1]
    _ ≤ first + (factor - 1) * ((2 ^ 53 - 1 / 2) * gap lower) := by
        linarith [mul_le_mul_of_nonneg_left top (sub_nonneg.mpr one_le)]
    _ = first + (factor - 1) * (2 ^ 53 - 1 / 2) * gap lower := by ring
    _ < first + steps * gap lower := by
        linarith [mul_lt_mul_of_pos_right small unit]

end Within

/-! ## Reading with one power of ten -/

/-- A number that is one or more rounds to a magnitude of one or more. -/
theorem RoundsTo.one_le_amount {number : ℚ} {magnitude : ℕ} (rounds : RoundsTo number magnitude)
    (least : 1 ≤ number) : 1 ≤ amount magnitude := by
  rw [← amount_one] at least ⊢
  exact amount_strictMono.monotone ((RoundsTo.self _).mono rounds least)

theorem exists_power {exponent : ℕ} (most : exponent ≤ 308) :
    ∃ power, IsNormal power ∧ powerOfTen exponent = number power ∧ 1 ≤ amount power ∧
      Within slack (10 ^ exponent) (amount power) ∧
        (exponent < 23 → amount power = 10 ^ exponent) := by
  rcases exists_powerOfTen_eq most with ⟨power, rounds, normal, same⟩
  exact ⟨power, normal, same, rounds.one_le_amount (one_le_pow₀ (by norm_num)),
    rounds.within_slack normal.1, fun exact => amount_powerOfTen exact rounds⟩

theorem exists_significand {count : ℕ} (positive : 0 < count) (bound : count < 2 ^ 64) :
    ∃ significand, RoundsTo count significand ∧ IsNormal significand ∧
      count.toUInt64.toFloat = number significand := by
  rcases exists_toFloat_eq positive bound with ⟨significand, rounds, same⟩
  have least : (1 : ℚ) ≤ count := Nat.one_le_cast.mpr positive
  have greatest : (count : ℚ) ≤ 10 ^ 308 := by
    have bound : (count : ℚ) ≤ 10 ^ 20 := by exact_mod_cast bound.le.trans (by norm_num)
    exact bound.trans (pow_le_pow_right₀ (by norm_num) (by norm_num))
  have normal := rounds.isNormal least greatest
  rw [min_eq_left normal.2.le] at same
  exact ⟨significand, rounds, normal, same⟩

/-- Where the power of ten is positive the product is rounded, and too great a product is
refused. -/
theorem exists_scale?_product {first : ℕ} (normal : IsNormal first) {exponent : ℕ}
    (most : exponent ≤ 308) :
    ∃ power result, Within slack (10 ^ exponent) (amount power) ∧
      (exponent < 23 → amount power = 10 ^ exponent) ∧
      RoundsTo (amount first * amount power) result ∧
      scale? (number first) exponent =
        if infinite ≤ result then none else some (number result) := by
  rcases exists_power most with ⟨power, powerNormal, same, -, near, exact⟩
  rcases exists_mul_eq normal (Nat.zero_lt_of_lt powerNormal.1) powerNormal.2 with
    ⟨result, rounds, product⟩
  refine ⟨power, result, near, exact, rounds, ?_⟩
  rw [scale?, if_neg (by omega), if_pos (by omega), if_neg (by omega), Int.natAbs_natCast, same]
  simp only [product, isInf_number (min_le_right result infinite), decide_eq_true_eq]
  by_cases overflow : infinite ≤ result
  · rw [if_pos (min_eq_right overflow), if_pos overflow]
  · have finite : result < infinite := Nat.not_le.mp overflow
    rw [min_eq_left finite.le, if_neg finite.ne, if_neg overflow]

/-- Where the power of ten is negative the quotient is rounded. -/
theorem exists_scale?_quotient {first : ℕ} (positive : 0 < first) (finite : first < infinite)
    {exponent : ℕ} (some_places : 0 < exponent) (most : exponent ≤ 308) :
    ∃ power result, 1 ≤ amount power ∧ Within slack (10 ^ exponent) (amount power) ∧
      (exponent < 23 → amount power = 10 ^ exponent) ∧
      RoundsTo (amount first / amount power) result ∧ result < infinite ∧
      scale? (number first) (-exponent) = some (number result) := by
  rcases exists_power most with ⟨power, powerNormal, same, least, near, exact⟩
  rcases exists_div_eq positive finite (Nat.zero_lt_of_lt powerNormal.1) powerNormal.2 with
    ⟨result, rounds, quotient⟩
  have less : result ≤ first :=
    rounds.mono (RoundsTo.self first) (div_le_self (amount_nonneg first) least)
  refine ⟨power, result, least, near, exact, rounds, less.trans_lt finite, ?_⟩
  rw [scale?, if_neg (by omega), if_pos (by omega), if_pos (by omega), Int.natAbs_neg,
    Int.natAbs_natCast, same, quotient, min_eq_left (less.trans finite.le)]

/-! ## How far the result is off -/

/-- Whether two magnitudes are at most so many steps apart. -/
def AtMostApart (steps first second : ℕ) : Prop :=
  first ≤ second + steps ∧ second ≤ first + steps

/-- Whether a whole number is a binary64 number. -/
def IsExact (count : ℕ) : Prop :=
  ∃ magnitude, amount magnitude = count

theorem isExact_of_lt {count : ℕ} (short : count < 2 ^ 53) : IsExact count := by
  rcases exists_amount_eq 1074 short with ⟨magnitude, same⟩
  exact ⟨magnitude, by simpa using same⟩

/-- What holds of the magnitude that is read where some digits have been gathered and the
decimal that they make up rounds to a magnitude.  The result is at most two steps off, and
with a power of ten that is a number at most one.  If the significand is a number as well,
nothing is lost. -/
structure IsReadBack (digits : Gathered) (written read : ℕ) : Prop where
  two : AtMostApart 2 written read
  one : digits.power.natAbs ≤ 22 → AtMostApart 1 written read
  none : digits.power.natAbs ≤ 22 → IsExact digits.significand → read = written

theorem Within.atMostApart {factor first second : ℚ} {lower upper steps : ℕ}
    (near : Within factor first second) (firstRounds : RoundsTo first lower)
    (secondRounds : RoundsTo second upper) (one_le : 1 ≤ factor)
    (small : (factor - 1) * (2 ^ 53 - 1 / 2) < steps) : AtMostApart steps lower upper :=
  ⟨near.symm.le_add secondRounds firstRounds one_le small,
    near.le_add firstRounds secondRounds one_le small⟩

/-- Each operand that is rounded puts the result off by at most one step. -/
theorem IsReadBack.of_within {digits : Gathered} {written read : ℕ} {exact computed : ℚ}
    (writtenRounds : RoundsTo exact written) (readRounds : RoundsTo computed read)
    (two : Within (slack * slack) exact computed)
    (one : digits.power.natAbs ≤ 22 → Within slack exact computed)
    (none : digits.power.natAbs ≤ 22 → IsExact digits.significand → computed = exact) :
    IsReadBack digits written read where
  two := two.atMostApart writtenRounds readRounds (by norm_num [slack]) (by norm_num [slack])
  one few := (one few).atMostApart writtenRounds readRounds (by norm_num [slack])
    (by norm_num [slack])
  none few significand := by
    rw [none few significand] at readRounds
    exact readRounds.unique writtenRounds

/-- A product is read back, if it is not refused or the price is not next to the greatest. -/
theorem exists_isReadBack_of_nonneg {digits : Gathered} {written : ℕ}
    (positive : 0 < digits.significand) (bound : digits.significand < 2 ^ 64)
    (rounds : RoundsTo (digits.significand * 10 ^ digits.power) written)
    (least : 0 ≤ digits.power) (most : digits.power ≤ 308)
    (kept : written + 2 < infinite ∨
      scale? digits.significand.toUInt64.toFloat digits.power ≠ none) :
    ∃ read < infinite, scale? digits.significand.toUInt64.toFloat digits.power =
      some (number read) ∧ IsReadBack digits written read := by
  obtain ⟨exponent, exponent_eq⟩ : ∃ exponent : ℕ, digits.power = exponent :=
    ⟨digits.power.toNat, by omega⟩
  rcases exists_significand positive bound with ⟨significand, significandRounds, normal, same⟩
  have significandNear := significandRounds.within_slack normal.1
  rcases @exists_scale?_product _ normal exponent (by omega) with
    ⟨power, read, powerNear, powerExact, readRounds, scaled⟩
  have ten : (0 : ℚ) ≤ 10 ^ exponent := by positivity
  have count : (0 : ℚ) ≤ digits.significand := Nat.cast_nonneg _
  rw [exponent_eq, zpow_natCast] at rounds
  have readBack : IsReadBack digits written read := by
    refine .of_within rounds readRounds ?_ ?_ ?_
    · exact significandNear.mul count (amount_nonneg _) ten (amount_nonneg _) powerNear
    · intro few
      have once := significandNear.mul count (amount_nonneg _) ten ten (Within.refl (10 ^ exponent))
      rw [powerExact (by omega)]
      rwa [mul_one] at once
    · rintro few ⟨exact, equal⟩
      rw [powerExact (by omega), significandRounds.amount_eq_of_exact equal]
  rw [same, exponent_eq, scaled] at kept ⊢
  have readFinite : ¬ infinite ≤ read := by
    rcases kept with finite | accepted
    · have near := readBack.two.2
      omega
    · exact fun overflow => accepted (if_pos overflow)
  exact ⟨read, Nat.not_le.mp readFinite, if_neg readFinite, readBack⟩

/-- A quotient by a power of ten is read back. -/
theorem exists_isReadBack_of_neg {digits : Gathered} {written : ℕ}
    (positive : 0 < digits.significand) (bound : digits.significand < 2 ^ 64)
    (rounds : RoundsTo (digits.significand * 10 ^ digits.power) written)
    (least : -308 ≤ digits.power) (most : digits.power < 0) :
    ∃ read < infinite, scale? digits.significand.toUInt64.toFloat digits.power =
      some (number read) ∧ IsReadBack digits written read := by
  obtain ⟨exponent, exponent_eq⟩ : ∃ exponent : ℕ, digits.power = -exponent :=
    ⟨(-digits.power).toNat, by omega⟩
  rcases exists_significand positive bound with ⟨significand, significandRounds, normal, same⟩
  have significandNear := significandRounds.within_slack normal.1
  rcases @exists_scale?_quotient _ (Nat.zero_lt_of_lt normal.1) normal.2 exponent (by omega)
      (by omega) with
    ⟨power, read, powerLeast, powerNear, powerExact, readRounds, readFinite, scaled⟩
  have ten : (0 : ℚ) < 10 ^ exponent := by positivity
  have count : (0 : ℚ) ≤ digits.significand := Nat.cast_nonneg _
  rw [exponent_eq, zpow_neg, zpow_natCast, ← div_eq_mul_inv] at rounds
  rw [same, exponent_eq, scaled]
  refine ⟨read, readFinite, rfl, .of_within rounds readRounds ?_ ?_ ?_⟩
  · exact significandNear.div count (amount_nonneg _) ten (zero_lt_one.trans_le powerLeast)
      powerNear
  · intro few
    have once := significandNear.div count (amount_nonneg _) ten ten (Within.refl (10 ^ exponent))
    rw [powerExact (by omega)]
    rwa [mul_one] at once
  · rintro few ⟨exact, equal⟩
    rw [powerExact (by omega), significandRounds.amount_eq_of_exact equal]

end Price
end Itineraries
