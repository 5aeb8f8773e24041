import Itineraries.Price.Reading
import Itineraries.Proofs.Rounding

namespace Itineraries
namespace Price

/-!
# Whole numbers, products and quotients

A price is read with three operations of binary64 arithmetic: a whole number of
sixty-four bits is taken over, and it is multiplied or divided by a power of ten.  Each
of them rounds the exact result once.
-/

open Float.Model Float.Model.UnpackedFloat

/-- A finite magnitude of which the significand has its full length, and which is not the
least of these. -/
def IsNormal (magnitude : ℕ) : Prop :=
  2 ^ 52 < magnitude ∧ magnitude < infinite

theorem IsNormal.significand {magnitude : ℕ} (normal : IsNormal magnitude) :
    2 ^ 52 ≤ (binary magnitude).significand := by
  rcases exists_eq_binary magnitude with ⟨power, significand, rfl, short, full⟩
  rw [(binary_eq short full).1]
  have large := normal.1
  omega

/-! ## Whole numbers -/

theorem exists_toFloat_eq {count : ℕ} (positive : 0 < count) (bound : count < 2 ^ 64) :
    ∃ magnitude, RoundsTo count magnitude ∧
      count.toUInt64.toFloat = number (min magnitude infinite) := by
  have kept : count.toUInt64.toNat = count := Nat.mod_eq_of_lt bound
  have normalized : count.toUInt64.toFloat = Float.ofModel (Float.Model.pack
      (UnpackedFloat.round Format.binary64 .positive count 0)) := by
    change Float.ofModel (Float.Model.pack (UnpackedFloat.normalize Format.binary64
      count.toUInt64.toNat 0 .positive)) = _
    rw [kept, UnpackedFloat.normalize, compare_gt_iff_gt.mpr (Int.natCast_pos.mpr positive),
      Int.toNat_natCast]
  obtain ⟨length, length_eq⟩ : ∃ length : ℕ,
      (0 - Format.binary64.targetExponent (totalExponent count 0)).toNat = length := ⟨_, rfl⟩
  have lengthened : 2 ^ 52 ≤ count <<< length := by
    have own : 2 ^ count.log2 ≤ count := Nat.log2_self_le positive.ne'
    have enough : 52 ≤ count.log2 + length := by
      simp only [Format.targetExponent, totalExponent, Format.mantissaBits,
        Format.minExponent] at length_eq
      omega
    calc 2 ^ 52 ≤ 2 ^ (count.log2 + length) := Nat.pow_le_pow_right two_pos enough
      _ = 2 ^ count.log2 * 2 ^ length := pow_add _ _ _
      _ ≤ count * 2 ^ length := Nat.mul_le_mul_right _ own
      _ = count <<< length := (Nat.shiftLeft_eq count length).symm
  rcases exists_ofModel_round (Represents.exact _) (Or.inr lengthened) with
    ⟨magnitude, rounds, packed⟩
  have value : ((count <<< length : ℕ) : ℚ) * 2 ^ (0 - (length : ℤ)) = count := by
    rw [Nat.shiftLeft_eq, zero_sub, zpow_neg, zpow_natCast]
    push_cast
    field_simp
  refine ⟨magnitude, value ▸ rounds, ?_⟩
  rw [normalized, ← packed]
  simp only [UnpackedFloat.round, decreaseExponent, length_eq]

/-! ## Products and quotients -/

theorem exists_mul_eq {first second : ℕ} (firstNormal : IsNormal first)
    (secondPositive : 0 < second) (secondFinite : second < infinite) :
    ∃ magnitude, RoundsTo (amount first * amount second) magnitude ∧
      number first * number second = number (min magnitude infinite) := by
  rcases unpack_number (Nat.zero_lt_of_lt firstNormal.1) firstNormal.2 with
    ⟨firstPresent, firstUnpacked⟩
  rcases unpack_number secondPositive secondFinite with ⟨secondPresent, secondUnpacked⟩
  have product : number first * number second = Float.ofModel (Float.Model.pack
      (roundWithAccuracy Format.binary64 .positive
        ((binary first).significand * (binary second).significand)
        ((binary first).exponent + (binary second).exponent) .exact)) := by
    change Float.ofModel (Float.Model.pack (UnpackedFloat.mul Format.binary64
      (number first).toModel.unpack (number second).toModel.unpack)) = _
    rw [firstUnpacked, secondUnpacked]
    rfl
  have full : 2 ^ 52 ≤ (binary first).significand * (binary second).significand :=
    firstNormal.significand.trans
      (Nat.le_mul_of_pos_right _ (binary_range secondPositive secondFinite).1)
  rcases exists_ofModel_round (Represents.exact _) (Or.inr full) with
    ⟨magnitude, rounds, packed⟩
  have value : amount first * amount second =
      ((binary first).significand * (binary second).significand : ℕ) *
        2 ^ ((binary first).exponent + (binary second).exponent) := by
    rw [amount, amount, zpow_add₀ two_ne_zero]
    push_cast
    ring
  exact ⟨magnitude, value ▸ rounds, product.trans packed⟩

/-- The part of a quotient that is computed before it is rounded has bits enough. -/
theorem exists_divCore_eq {dividend divisor : ℕ} (dividend_pos : 0 < dividend)
    (divisor_pos : 0 < divisor) (low high : ℤ) :
    ∃ (units : ℚ) (mantissa : ℕ) (exponent : ℤ) (accuracy : Accuracy),
      divCore Format.binary64 dividend low divisor high = (mantissa, exponent, accuracy) ∧
        Represents (ExtendedMantissa.ofMantissaAndAccuracy mantissa accuracy) units ∧
          units * 2 ^ exponent = dividend * 2 ^ low / (divisor * 2 ^ high) ∧
            (exponent ≤ -1074 ∨ 2 ^ 52 ≤ mantissa) := by
  obtain ⟨exponent, exponent_eq⟩ : ∃ exponent : ℤ,
      min (low - high) (Format.binary64.targetExponent
        (totalExponent dividend low - totalExponent divisor high)) = exponent := ⟨_, rfl⟩
  obtain ⟨length, length_eq⟩ : ∃ length : ℕ, (length : ℤ) = low - high - exponent :=
    ⟨(low - high - exponent).toNat, by omega⟩
  have lengthened : (low - high - exponent).toNat = length := by omega
  have divisor_ne : (divisor : ℚ) ≠ 0 := Nat.cast_ne_zero.mpr divisor_pos.ne'
  refine ⟨_, _, exponent, _, ?_, Represents.quotient (dividend <<< length) divisor_pos, ?_, ?_⟩
  · simp only [divCore, exponent_eq, lengthened]
  · have same : (2 : ℚ) ^ low = 2 ^ length * 2 ^ exponent * 2 ^ high := by
      rw [← zpow_natCast, length_eq, ← zpow_add₀ two_ne_zero, ← zpow_add₀ two_ne_zero]
      congr 1
      ring
    rw [Nat.shiftLeft_eq, same]
    push_cast
    field_simp
  · by_cases least : exponent ≤ -1074
    · exact Or.inl least
    · have own : 2 ^ dividend.log2 ≤ dividend := Nat.log2_self_le dividend_pos.ne'
      have below : divisor < 2 ^ (divisor.log2 + 1) := Nat.lt_log2_self
      have enough : 52 + (divisor.log2 + 1) ≤ dividend.log2 + length := by
        simp only [Format.targetExponent, totalExponent, Format.mantissaBits,
          Format.minExponent] at exponent_eq
        omega
      refine Or.inr ((Nat.le_div_iff_mul_le divisor_pos).mpr ?_)
      calc 2 ^ 52 * divisor ≤ 2 ^ 52 * 2 ^ (divisor.log2 + 1) := Nat.mul_le_mul_left _ below.le
        _ = 2 ^ (52 + (divisor.log2 + 1)) := (pow_add _ _ _).symm
        _ ≤ 2 ^ (dividend.log2 + length) := Nat.pow_le_pow_right two_pos enough
        _ = 2 ^ dividend.log2 * 2 ^ length := pow_add _ _ _
        _ ≤ dividend * 2 ^ length := Nat.mul_le_mul_right _ own
        _ = dividend <<< length := (Nat.shiftLeft_eq dividend length).symm

theorem exists_div_eq {first second : ℕ} (firstPositive : 0 < first)
    (firstFinite : first < infinite) (secondPositive : 0 < second)
    (secondFinite : second < infinite) :
    ∃ magnitude, RoundsTo (amount first / amount second) magnitude ∧
      number first / number second = number (min magnitude infinite) := by
  rcases unpack_number firstPositive firstFinite with ⟨firstPresent, firstUnpacked⟩
  rcases unpack_number secondPositive secondFinite with ⟨secondPresent, secondUnpacked⟩
  rcases exists_divCore_eq firstPresent secondPresent (binary first).exponent
    (binary second).exponent with
      ⟨units, mantissa, exponent, accuracy, computed, represents, value, enough⟩
  rcases exists_ofModel_round represents enough with ⟨magnitude, rounds, packed⟩
  have quotient : number first / number second = Float.ofModel (Float.Model.pack
      (roundWithAccuracy Format.binary64 .positive mantissa exponent accuracy)) := by
    change Float.ofModel (Float.Model.pack (UnpackedFloat.div Format.binary64
      (number first).toModel.unpack (number second).toModel.unpack)) = _
    rw [firstUnpacked, secondUnpacked]
    simp only [UnpackedFloat.div, computed]
    rfl
  exact ⟨magnitude, value ▸ rounds, quotient.trans packed⟩

/-! ## Powers of ten -/

/-- The power of ten is computed exactly as long as it is a number. -/
theorem powerOfTen_exact : ∀ exponent < 23,
    (powerOfTen exponent).toBits.toNat < infinite ∧
      0 ≤ (binary (powerOfTen exponent).toBits.toNat).exponent + (52 : ℕ) ∧
        (binary (powerOfTen exponent).toBits.toNat).significand *
          Nat.pow 2 ((binary (powerOfTen exponent).toBits.toNat).exponent + (52 : ℕ)).toNat =
            Nat.pow 10 exponent * Nat.pow 2 52 := by
  decide +kernel

/-- A magnitude told by whole numbers only. -/
theorem amount_eq_of_nat {magnitude count places : ℕ}
    (least : 0 ≤ (binary magnitude).exponent + places)
    (same : (binary magnitude).significand *
      Nat.pow 2 ((binary magnitude).exponent + places).toNat = count * Nat.pow 2 places) :
    amount magnitude = count := by
  have exponent : (2 : ℚ) ^ (binary magnitude).exponent * 2 ^ places =
      2 ^ ((binary magnitude).exponent + places).toNat := by
    rw [← zpow_natCast, ← zpow_natCast, ← zpow_add₀ two_ne_zero, Int.toNat_of_nonneg least]
  have scaled := congrArg (Nat.cast : ℕ → ℚ) same
  rw [Nat.pow_eq, Nat.pow_eq, Nat.cast_mul, Nat.cast_mul, Nat.cast_pow, Nat.cast_pow,
    Nat.cast_ofNat, ← exponent, ← mul_assoc] at scaled
  exact mul_right_cancel₀ (pow_ne_zero _ two_ne_zero) scaled

theorem amount_one : amount 0x3FF0000000000000 = 1 :=
  (@amount_eq_of_nat _ 1 52 (by decide) (by decide)).trans Nat.cast_one

/-- From one to the greatest power of ten all numbers round to a magnitude of full
length. -/
theorem RoundsTo.isNormal {number : ℚ} {magnitude : ℕ} (rounds : RoundsTo number magnitude)
    (least : 1 ≤ number) (greatest : number ≤ 10 ^ 308) : IsNormal magnitude := by
  have one : amount 0x3FF0000000000000 = (1 : ℕ) := 
    @amount_eq_of_nat _ 1 52 (by decide) (by decide)
  have top : (10 : ℚ) ^ 308 ≤ amount 0x7FEFFFFFFFFFFFFF := by
    have shape : 0x7FEFFFFFFFFFFFFF = 2045 * 2 ^ 52 + (2 ^ 53 - 1) := by norm_num
    have whole : 10 ^ 308 ≤ (2 ^ 53 - 1) * 2 ^ 971 := by decide +kernel
    have whole := (Nat.cast_le (α := ℚ)).mpr whole
    rw [Nat.cast_mul, Nat.cast_pow, Nat.cast_pow, Nat.cast_ofNat, Nat.cast_ofNat] at whole
    rw [shape, amount_eq (by norm_num) (Or.inr (by norm_num)),
      show ((2045 : ℕ) : ℤ) - 1074 = (971 : ℕ) by norm_num, zpow_natCast]
    exact whole
  have above := (RoundsTo.self 0x3FF0000000000000).mono rounds (amount_one.trans_le least)
  have below := rounds.mono (RoundsTo.self 0x7FEFFFFFFFFFFFFF) (greatest.trans top)
  have power : 2 ^ 52 = 0x10000000000000 := by norm_num
  rw [IsNormal, infinite, power]
  omega

theorem exists_powerOfTen_eq {exponent : ℕ} (most : exponent ≤ 308) :
    ∃ magnitude, RoundsTo (10 ^ exponent) magnitude ∧ IsNormal magnitude ∧
      powerOfTen exponent = number magnitude := by
  have least : (1 : ℚ) ≤ 10 ^ exponent := one_le_pow₀ (by norm_num)
  have greatest : (10 : ℚ) ^ exponent ≤ 10 ^ 308 := pow_le_pow_right₀ (by norm_num) most
  suffices rounded : ∃ magnitude, RoundsTo (10 ^ exponent) magnitude ∧
      powerOfTen exponent = number (min magnitude infinite) by
    rcases rounded with ⟨magnitude, rounds, same⟩
    have normal := rounds.isNormal least greatest
    rw [min_eq_left normal.2.le] at same
    exact ⟨magnitude, rounds, normal, same⟩
  by_cases exact : exponent < 23
  · rcases powerOfTen_exact exponent exact with ⟨finite, least, same⟩
    have value : amount (powerOfTen exponent).toBits.toNat = 10 ^ exponent :=
      (amount_eq_of_nat least same).trans (Nat.cast_pow 10 exponent)
    refine ⟨(powerOfTen exponent).toBits.toNat, value ▸ RoundsTo.self _, ?_⟩
    rw [min_eq_left finite.le]
    exact eq_number finite.le rfl
  · have computed : powerOfTen exponent = Float.ofModel (Float.Model.pack
        (roundWithAccuracy Format.binary64 .positive (1 <<< 53 * 10 ^ exponent) (-53) .exact)) := by
      have some_mantissa : ¬ (1 : ℕ) = 0 := one_ne_zero
      have within : ¬ ((exponent : ℕ) : ℤ) > 2 ^ 11 := by omega
      have above : ¬ ((exponent : ℕ) : ℤ) < -(2 ^ 11 + (Nat.log2 1 : ℤ)) := by omega
      rw [powerOfTen, Float.ofScientific, dif_neg (by omega)]
      change Float.ofModel (Float.Model.pack
        (UnpackedFloat.ofScientific Format.binary64 1 (exponent : ℤ))) = _
      rw [UnpackedFloat.ofScientific, dif_neg some_mantissa, if_neg within, if_neg above,
        if_pos (Int.natCast_nonneg exponent)]
      rfl
    have full : 2 ^ 52 ≤ 1 <<< 53 * 10 ^ exponent := by
      refine (show 2 ^ 52 ≤ 1 <<< 53 by decide).trans (Nat.le_mul_of_pos_right _ (by positivity))
    rcases exists_ofModel_round (Represents.exact _) (Or.inr full) with ⟨magnitude, rounds, packed⟩
    have value : ((1 <<< 53 * 10 ^ exponent : ℕ) : ℚ) * 2 ^ (-53 : ℤ) = 10 ^ exponent := by
      rw [Nat.shiftLeft_eq]
      push_cast
      norm_num
      ring
    exact ⟨magnitude, value ▸ rounds, computed.trans packed⟩

/-- Up to the power of ten with twenty-two zeros nothing is lost. -/
theorem amount_powerOfTen {exponent magnitude : ℕ} (exact : exponent < 23)
    (rounds : RoundsTo (10 ^ exponent) magnitude) : amount magnitude = 10 ^ exponent := by
  rcases powerOfTen_exact exponent exact with ⟨-, least, same⟩
  exact rounds.amount_eq_of_exact ((amount_eq_of_nat least same).trans (Nat.cast_pow 10 exponent))

/-! ## Tests and signs -/

theorem number_zero : (0 : Float) = number 0 :=
  eq_number (Nat.zero_le infinite) (by decide +kernel)

theorem isInf_number {magnitude : ℕ} (bound : magnitude ≤ infinite) :
    (number magnitude).isInf = decide (magnitude = infinite) := by
  change (number magnitude).toModel.unpack.isInf = _
  rcases Nat.eq_zero_or_pos magnitude with rfl | positive
  · rw [unpack_number_zero]
    rfl
  · rcases bound.lt_or_eq with finite | rfl
    · rcases unpack_number positive finite with ⟨present, unpacked⟩
      rw [unpacked, decide_eq_false finite.ne]
      rfl
    · rw [unpack_number_infinite]
      rfl

theorem number_beq_zero {magnitude : ℕ} (finite : magnitude < infinite) :
    (number magnitude == 0) = decide (magnitude = 0) := by
  rw [number_zero]
  change UnpackedFloat.beq (number magnitude).toModel.unpack (number 0).toModel.unpack = _
  rw [unpack_number_zero]
  rcases Nat.eq_zero_or_pos magnitude with rfl | positive
  · rw [unpack_number_zero]
    rfl
  · rcases unpack_number positive finite with ⟨present, unpacked⟩
    rw [unpacked, decide_eq_false positive.ne']
    rfl

/-- The other sign is a bit in front of the magnitude. -/
theorem toBits_neg_number {magnitude : ℕ} (finite : magnitude < infinite) :
    (-number magnitude).toBits.toNat = 2 ^ 63 + magnitude := by
  change (UnpackedFloat.pack Format.binary64 (number magnitude).toModel.unpack.neg).toNat = _
  rcases Nat.eq_zero_or_pos magnitude with rfl | positive
  · rw [unpack_number_zero]
    rfl
  · rcases unpack_number positive finite with ⟨present, unpacked⟩
    rcases exists_eq_binary magnitude with ⟨power, significand, shape, short, full⟩
    rcases binary_eq short full with ⟨significands, exponents⟩
    rw [← shape] at significands exponents
    rw [unpacked]
    simp only [UnpackedFloat.neg, significands, exponents] at present ⊢
    rw [toNat_pack _ _ short full, ← shape, min_eq_left finite.le]
    rfl

end Price
end Itineraries
