import Itineraries.Proofs.Readback

namespace Itineraries
namespace Price

/-!
# Prices below the least power of ten

Digits that are to be divided by more than the greatest power of ten are first divided by
that power and then by what is left, so there is one rounding more.  The greatest power is
close to its number, and the significand and the first quotient cannot both be of the kind
that rounding puts off most.  So the result is still at most two magnitudes away.
-/

/-! ## The greatest power -/

/-- The significand of the greatest power of ten. -/
def greatestUnits : ℕ := 0x11CCF385EBC8A0

/-- The magnitude of the greatest power of ten. -/
def greatestPower : ℕ := 2045 * 2 ^ 52 + greatestUnits

/-- By what factor the greatest power of ten may differ from its number. -/
def closeness : ℚ :=
  1 + 1 / (9 * 10 ^ 16)

theorem powerOfTen_greatest : powerOfTen 308 = number greatestPower :=
  eq_number (by decide) (by decide +kernel)

theorem amount_greatestPower :
    amount greatestPower = greatestUnits * gap greatestPower := by
  rw [greatestPower, amount_eq (by decide) (Or.inr (by decide)),
    gap_eq (by decide) (Or.inr (by decide))]

theorem greatestPower_pos : 0 < amount greatestPower := by
  rw [amount_greatestPower]
  exact mul_pos (by norm_num [greatestUnits]) (gap_pos _)

theorem greatestPower_close : Within closeness (10 ^ 308) (amount greatestPower) := by
  have above : 9 * 10 ^ 16 * (greatestUnits * 2 ^ 971) ≤ (9 * 10 ^ 16 + 1) * 10 ^ 308 := by
    decide +kernel
  have below : 9 * 10 ^ 16 * 10 ^ 308 ≤ (9 * 10 ^ 16 + 1) * (greatestUnits * 2 ^ 971) := by
    decide +kernel
  have above := (Nat.cast_le (α := ℚ)).mpr above
  have below := (Nat.cast_le (α := ℚ)).mpr below
  have unit : gap greatestPower = 2 ^ 971 := by
    rw [greatestPower, gap_eq (by decide) (Or.inr (by decide)), ← zpow_natCast]
    norm_num
  simp only [Nat.cast_mul, Nat.cast_add, Nat.cast_pow, Nat.cast_ofNat, Nat.cast_one] at above below
  rw [← unit] at above below
  rw [Within, amount_greatestPower, closeness]
  generalize (10 : ℚ) ^ 308 = power at above below ⊢
  constructor <;> linarith

/-! ## Two significands -/

/-- A number is off from the number that it is rounded to by at most half a unit. -/
theorem RoundsTo.half_gap {number : ℚ} {magnitude : ℕ} (rounds : RoundsTo number magnitude)
    (positive : 0 < magnitude) :
    number ≤ amount magnitude + gap magnitude / 2 ∧
      amount magnitude - gap magnitude / 2 ≤ number := by
  have above := rounds.le_midpoint
  have below := rounds.midpoint_le (magnitude - 1) (by omega)
  have previous := amount_succ (magnitude - 1)
  have narrower := gap_mono (Nat.sub_le magnitude 1)
  rw [midpoint, amount_succ] at above
  rw [midpoint, Nat.sub_add_cancel positive] at below
  rw [Nat.sub_add_cancel positive] at previous
  constructor <;> linarith

/-- The more units a number has, the less it may be off. -/
theorem RoundsTo.within_units {number units : ℚ} {magnitude : ℕ}
    (rounds : RoundsTo number magnitude) (one_le : 1 ≤ units)
    (large : units * gap magnitude ≤ amount magnitude) :
    Within (1 + 1 / (2 * units - 1)) number (amount magnitude) := by
  have unit := gap_pos magnitude
  have positive : 0 < magnitude := by
    rcases Nat.eq_zero_or_pos magnitude with rfl | positive
    · rw [amount_zero] at large
      exact absurd large (not_le.mpr (mul_pos (zero_lt_one.trans_le one_le) unit))
    · exact positive
  have room : 0 < 2 * units - 1 := by linarith
  rcases rounds.half_gap positive with ⟨above, below⟩
  have share (part : ℚ) (enough : (2 * units - 1) * gap magnitude ≤ 2 * part) :
      gap magnitude / 2 ≤ 1 / (2 * units - 1) * part := by
    rw [one_div_mul_eq_div, le_div_iff₀ room]
    linarith
  constructor
  · have part := share number (by linarith)
    linarith
  · have part := share (amount magnitude) (by linarith)
    linarith

/-- A significand that is divided by the greatest power of ten, or else the quotient, is
no less than the significand of that power. -/
theorem greatestUnits_le {significand quotient : ℕ} (significandNormal : IsNormal significand)
    (quotientNormal : IsNormal quotient)
    (rounds : RoundsTo (amount significand / amount greatestPower) quotient) :
    greatestUnits * gap significand ≤ amount significand ∨
      greatestUnits * gap quotient ≤ amount quotient := by
  by_cases large : greatestUnits ≤ (binary significand).significand
  · exact Or.inl (mul_le_mul_of_nonneg_right (Nat.cast_le.mpr large) (gap_pos significand).le)
  · refine Or.inr ?_
    have units : (greatestUnits : ℚ) = 0x11CCF385EBC8A0 := by norm_num [greatestUnits]
    have powerUnit := gap_pos greatestPower
    obtain ⟨unit, unit_eq⟩ : ∃ unit : ℚ, unit = gap significand / gap greatestPower := ⟨_, rfl⟩
    have unit_pos : 0 < unit := unit_eq ▸ div_pos (gap_pos significand) powerUnit
    -- the quotient in this unit
    have ratio : greatestUnits * (amount significand / amount greatestPower) =
        (binary significand).significand * unit := by
      rw [amount_greatestPower, unit_eq, units, amount, ← gap]
      field_simp
    have most : ((binary significand).significand : ℚ) + 1 ≤ greatestUnits := by
      exact_mod_cast Nat.succ_le_of_lt (Nat.not_le.mp large)
    have least : (2 : ℚ) ^ 52 ≤ (binary significand).significand := by
      exact_mod_cast significandNormal.significand
    have full : (2 : ℚ) ^ 52 ≤ (binary quotient).significand := by
      exact_mod_cast quotientNormal.significand
    have own : amount quotient = (binary quotient).significand * gap quotient := rfl
    have quotientUnit := gap_pos quotient
    rcases rounds.half_gap (Nat.zero_lt_of_lt quotientNormal.1) with ⟨above, below⟩
    rw [units] at ratio most ⊢
    have below_unit := mul_le_mul_of_nonneg_right most unit_pos.le
    have above_unit := mul_le_mul_of_nonneg_right least unit_pos.le
    have below_amount := mul_le_mul_of_nonneg_right full quotientUnit.le
    rw [← own] at below_amount
    have finer : gap quotient < unit / 2 ^ 52 := by
      by_contra coarse
      have coarse := not_lt.mp coarse
      linarith
    have finest : gap quotient ≤ unit / 2 ^ 53 := by
      rw [unit_eq, gap, gap, gap, ← zpow_natCast, ← zpow_sub₀ two_ne_zero,
        ← zpow_sub₀ two_ne_zero] at finer ⊢
      have less := (zpow_lt_zpow_iff_right₀ one_lt_two).mp finer
      exact zpow_le_zpow_right₀ one_le_two (by push_cast at less ⊢; omega)
    linarith

/-! ## The first quotient -/

/-- Below the length of a significand all units are the least. -/
theorem gap_of_short {magnitude : ℕ} (short : magnitude < 2 ^ 53) :
    gap magnitude = 2 ^ (-1074 : ℤ) := by
  have own := @gap_eq 0 magnitude short (Or.inl rfl)
  rwa [zero_mul, zero_add, Nat.cast_zero, zero_sub] at own

theorem amount_of_short {magnitude : ℕ} (short : magnitude < 2 ^ 53) :
    amount magnitude = magnitude * gap 0 := by
  have own := @amount_eq 0 magnitude short.le (Or.inl rfl)
  rw [zero_mul, zero_add, Nat.cast_zero, zero_sub] at own
  rw [own, gap_of_short (by norm_num)]

/-- By what factor the first quotient may differ from the digits divided by the greatest
power of ten. -/
def firstSlack : ℚ :=
  slack * closeness * (1 + 1 / (2 * greatestUnits - 1))

theorem exists_first_quotient {significand : ℕ} (normal : IsNormal significand)
    (least : 1 ≤ amount significand) :
    ∃ quotient, RoundsTo (amount significand / amount greatestPower) quotient ∧
      0 < quotient ∧ quotient < infinite ∧
        number significand / powerOfTen 308 = number quotient := by
  have powerPositive : 0 < greatestPower := by decide
  have powerFinite : greatestPower < infinite := by decide
  rcases exists_div_eq (Nat.zero_lt_of_lt normal.1) normal.2 powerPositive powerFinite with
    ⟨quotient, rounds, same⟩
  have power_least : 1 ≤ amount greatestPower := by
    rw [← amount_one]
    exact amount_strictMono.monotone (by decide)
  have less : quotient ≤ significand :=
    rounds.mono (RoundsTo.self significand)
      (div_le_self (amount_nonneg significand) power_least)
  have positive : 0 < quotient := by
    rcases Nat.eq_zero_or_pos quotient with rfl | positive
    · have above := rounds.le_midpoint
      have small : midpoint 0 * amount greatestPower < 1 := by
        have units : gap 0 * gap greatestPower = 2 ^ (-103 : ℤ) := by
          rw [gap_of_short (by norm_num), greatestPower,
            gap_eq (by decide) (Or.inr (by decide)), ← zpow_add₀ two_ne_zero]
          norm_num
        rw [midpoint, amount_succ, amount_zero, amount_greatestPower]
        calc (0 + (0 + gap 0)) / 2 * (greatestUnits * gap greatestPower) =
              greatestUnits / 2 * (gap 0 * gap greatestPower) := by ring
          _ < 1 := by rw [units]; norm_num [greatestUnits]
      rw [div_le_iff₀ greatestPower_pos] at above
      linarith
    · exact positive
  refine ⟨quotient, rounds, positive, less.trans_lt normal.2, ?_⟩
  rw [powerOfTen_greatest, same, min_eq_left (less.trans normal.2.le)]

/-- A first quotient of full length is close to what it stands for. -/
theorem first_quotient_within {count significand quotient : ℕ}
    (significandRounds : RoundsTo count significand) (significandNormal : IsNormal significand)
    (rounds : RoundsTo (amount significand / amount greatestPower) quotient)
    (normal : IsNormal quotient) : Within firstSlack (count / 10 ^ 308) (amount quotient) := by
  have ten : (0 : ℚ) < 10 ^ 308 := by positivity
  have units : (1 : ℚ) ≤ greatestUnits := by norm_num [greatestUnits]
  have room : (0 : ℚ) ≤ 1 + 1 / (2 * greatestUnits - 1) := by norm_num [greatestUnits]
  have slack_nonneg : 0 ≤ slack := by norm_num [slack]
  have closeness_nonneg : 0 ≤ closeness := by norm_num [closeness]
  rcases greatestUnits_le significandNormal normal rounds with large | large
  · have first := (significandRounds.within_units units large).div (Nat.cast_nonneg _)
      (amount_nonneg _) ten greatestPower_pos greatestPower_close
    have both := first.trans (mul_nonneg room closeness_nonneg) slack_nonneg
      (rounds.within_slack normal.1)
    rwa [mul_comm _ closeness, mul_comm, ← mul_assoc] at both
  · have first := (significandRounds.within_slack significandNormal.1).div (Nat.cast_nonneg _)
      (amount_nonneg _) ten greatestPower_pos greatestPower_close
    exact first.trans (mul_nonneg slack_nonneg closeness_nonneg) room
      (rounds.within_units units large)

/-- A shorter first quotient is off by less than five units. -/
theorem first_quotient_near {count significand quotient : ℕ}
    (significandRounds : RoundsTo count significand) (significandNormal : IsNormal significand)
    (rounds : RoundsTo (amount significand / amount greatestPower) quotient)
    (positive : 0 < quotient) (short : quotient ≤ 2 ^ 52) :
    amount quotient < (count : ℚ) / 10 ^ 308 + 5 * gap 0 ∧
      (count : ℚ) / 10 ^ 308 < amount quotient + 5 * gap 0 := by
  have ten : (0 : ℚ) < 10 ^ 308 := by positivity
  have near := (significandRounds.within_slack significandNormal.1).div (Nat.cast_nonneg _)
    (amount_nonneg _) ten greatestPower_pos greatestPower_close
  generalize amount significand / amount greatestPower = exact at rounds near
  generalize (count : ℚ) / 10 ^ 308 = wanted at near ⊢
  have unit := gap_pos 0
  have finest : gap quotient = gap 0 := by
    rw [gap_of_short (by omega), gap_of_short (by norm_num)]
  have most : amount quotient ≤ 2 ^ 52 * gap 0 := by
    rw [amount_of_short (by omega)]
    exact mul_le_mul_of_nonneg_right (by exact_mod_cast short) unit.le
  rcases rounds.half_gap positive with ⟨above, below⟩
  rcases near with ⟨upper, lower⟩
  norm_num [slack, closeness] at upper lower
  rw [finest] at above below
  constructor <;> linarith

/-! ## Both quotients -/

/-- The first quotient is divided by the power of ten that is left, which is a number, and
the result is at most two steps off. -/
theorem atMostApart_of_both_quotients {count significand quotient written read exponent : ℕ}
    (significandRounds : RoundsTo count significand) (normal : IsNormal significand)
    (firstRounds : RoundsTo (amount significand / amount greatestPower) quotient)
    (positive : 0 < quotient) (finite : quotient < infinite) (some_places : 0 < exponent)
    (rounds : RoundsTo (count / 10 ^ 308 / 10 ^ exponent) written)
    (readRounds : RoundsTo (amount quotient / 10 ^ exponent) read) :
    AtMostApart 2 written read := by
  have ten : (0 : ℚ) < 10 ^ exponent := by positivity
  by_cases full : 2 ^ 52 < quotient
  · have near := first_quotient_within significandRounds normal firstRounds ⟨full, finite⟩
    have near := near.div (by positivity) (amount_nonneg _) ten ten (Within.refl (10 ^ exponent))
    exact near.atMostApart rounds readRounds
      (by norm_num [firstSlack, slack, closeness, greatestUnits])
      (by norm_num [firstSlack, slack, closeness, greatestUnits])
  · rcases first_quotient_near significandRounds normal firstRounds positive
      (not_lt.mp full) with ⟨above, below⟩
    generalize (count : ℚ) / 10 ^ 308 = wanted at rounds above below
    have unit := gap_pos 0
    -- what the quotient is off by does not count once it is divided by ten or more
    have tenth : 5 * gap 0 / 10 ^ exponent ≤ gap 0 := by
      have least : (5 : ℚ) ≤ 10 ^ exponent :=
        calc (5 : ℚ) ≤ 10 ^ 1 := by norm_num
          _ ≤ 10 ^ exponent := pow_le_pow_right₀ (by norm_num) some_places
      rw [div_le_iff₀ ten, mul_comm]
      exact mul_le_mul_of_nonneg_left least unit.le
    have above := div_lt_div_of_pos_right above ten
    have below := div_lt_div_of_pos_right below ten
    rw [add_div] at above below
    have writtenUnit := gap_mono (Nat.zero_le written)
    have readUnit := gap_mono (Nat.zero_le read)
    refine ⟨readRounds.le_add rounds ?_, rounds.le_add readRounds ?_⟩ <;>
      · push_cast
        linarith

/-- Digits with a very small power of ten are read back. -/
theorem exists_isReadBack_of_deep {digits : Gathered} {written : ℕ}
    (positive : 0 < digits.significand) (bound : digits.significand < 2 ^ 64)
    (rounds : RoundsTo (digits.significand * 10 ^ digits.power) written)
    (least : -330 ≤ digits.power) (most : digits.power < -308) :
    ∃ read < infinite, scale? digits.significand.toUInt64.toFloat digits.power =
      some (number read) ∧ IsReadBack digits written read := by
  obtain ⟨exponent, exponent_eq⟩ : ∃ exponent : ℕ, digits.power + 308 = -exponent :=
    ⟨(-(digits.power + 308)).toNat, by omega⟩
  rcases exists_significand positive bound with ⟨significand, significandRounds, normal, same⟩
  rcases exists_first_quotient normal
      (significandRounds.one_le_amount (Nat.one_le_cast.mpr positive)) with
    ⟨quotient, firstRounds, quotientPositive, quotientFinite, first⟩
  rcases @exists_scale?_quotient _ quotientPositive quotientFinite exponent (by omega)
      (by omega) with
    ⟨power, read, -, -, powerExact, readRounds, readFinite, scaled⟩
  have value : (digits.significand : ℚ) * 10 ^ digits.power =
      digits.significand / 10 ^ 308 / 10 ^ exponent := by
    rw [show digits.power = -(308 : ℕ) + -exponent by push_cast; omega,
      zpow_add₀ (by norm_num), zpow_neg, zpow_neg, zpow_natCast, zpow_natCast, ← mul_assoc,
      ← div_eq_mul_inv, ← div_eq_mul_inv]
  rw [powerExact (by omega)] at readRounds
  rw [value] at rounds
  have two := atMostApart_of_both_quotients significandRounds normal firstRounds quotientPositive
    quotientFinite (by omega) rounds readRounds
  refine ⟨read, readFinite, ?_, two, fun few => by omega, fun few => by omega⟩
  rw [same, scale?, if_pos most, number_beq_zero normal.2,
    decide_eq_false (Nat.zero_lt_of_lt normal.1).ne', if_neg Bool.false_ne_true, first,
    exponent_eq, scaled]

end Price
end Itineraries
