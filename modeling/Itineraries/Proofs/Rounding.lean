import Mathlib
import Itineraries.Proofs.Magnitudes

namespace Itineraries
namespace Price

/-!
# Binary64 arithmetic rounds to magnitudes

A number under way is a mantissa with two more bits: whether the next bit is set, and
whether any bit behind it is.  These are enough to round to the nearest even magnitude.
The bits of the mantissa that do not fit are shifted out one by one; what is kept of them
stays true of the number.  The rounded mantissa may be one too great for its length, but
then it denotes the next magnitude all the same, so that the step which repairs it has
nothing to change.
-/

open Float.Model Float.Model.UnpackedFloat

/-! ## Mantissas -/

/-- Whether a mantissa with its two more bits says of a number what they can say. -/
def Represents (extended : ExtendedMantissa) (number : ℚ) : Prop :=
  if extended.roundBit then
    if extended.stickyBit then extended.mantissa + 1 / 2 < number ∧ number < extended.mantissa + 1
    else number = extended.mantissa + 1 / 2
  else
    if extended.stickyBit then extended.mantissa < number ∧ number < extended.mantissa + 1 / 2
    else number = extended.mantissa

namespace Represents

variable {extended : ExtendedMantissa} {number : ℚ}

theorem exact (mantissa : ℕ) :
    Represents (ExtendedMantissa.ofMantissaAndAccuracy mantissa .exact) mantissa := by
  simp [Represents, ExtendedMantissa.ofMantissaAndAccuracy]

/-- The whole part of a quotient and what is known of its remainder. -/
theorem quotient (dividend : ℕ) {divisor : ℕ} (positive : 0 < divisor) :
    Represents (ExtendedMantissa.ofMantissaAndAccuracy (dividend / divisor)
      (accuracyOfFraction (dividend % divisor) divisor)) (dividend / divisor) := by
  have denominator : (0 : ℚ) < divisor := Nat.cast_pos.mpr positive
  have whole : (dividend : ℚ) / divisor =
      (dividend / divisor : ℕ) + (dividend % divisor : ℕ) / divisor := by
    rw [div_eq_iff denominator.ne', add_mul, div_mul_cancel₀ _ denominator.ne', mul_comm]
    exact_mod_cast (Nat.div_add_mod dividend divisor).symm
  have less : (dividend % divisor : ℕ) / (divisor : ℚ) < 1 :=
    (div_lt_one denominator).mpr (Nat.cast_lt.mpr (Nat.mod_lt dividend positive))
  rw [whole]
  generalize dividend % divisor = remainder at less ⊢
  unfold accuracyOfFraction
  by_cases none : remainder = 0
  · rw [if_pos none, none]
    simp [Represents, ExtendedMantissa.ofMantissaAndAccuracy]
  · have some_left : 0 < (remainder : ℚ) / divisor :=
      div_pos (Nat.cast_pos.mpr (Nat.pos_of_ne_zero none)) denominator
    have half : (remainder : ℚ) / divisor = (2 * remainder : ℕ) / divisor / 2 := by
      push_cast
      ring
    rw [if_neg none]
    rcases lt_trichotomy (2 * remainder) divisor with small | middle | large
    · have below : ((2 * remainder : ℕ) : ℚ) / divisor < 1 :=
        (div_lt_one denominator).mpr (Nat.cast_lt.mpr small)
      rw [compare_lt_iff_lt.mpr small]
      simp only [Represents, ExtendedMantissa.ofMantissaAndAccuracy, Bool.false_eq_true,
        if_false, if_true]
      constructor <;> linarith
    · have equal : ((2 * remainder : ℕ) : ℚ) / divisor = 1 := by
        rw [middle, div_self denominator.ne']
      rw [compare_eq_iff_eq.mpr middle]
      simp only [Represents, ExtendedMantissa.ofMantissaAndAccuracy, Bool.false_eq_true,
        if_false, if_true]
      linarith
    · have above : 1 < ((2 * remainder : ℕ) : ℚ) / divisor :=
        (one_lt_div denominator).mpr (Nat.cast_lt.mpr large)
      rw [compare_gt_iff_gt.mpr large]
      simp only [Represents, ExtendedMantissa.ofMantissaAndAccuracy, if_true]
      constructor <;> linarith

theorem mantissa_le (represents : Represents extended number) :
    (extended.mantissa : ℚ) ≤ number ∧ number < extended.mantissa + 1 := by
  rcases extended with ⟨mantissa, roundBit, stickyBit⟩
  cases roundBit <;> cases stickyBit <;> simp only [Represents, if_true, if_false,
    Bool.false_eq_true] at represents ⊢ <;> constructor <;> linarith

/-- A bit shifted out is kept in the two bits. -/
theorem shiftRightOne (represents : Represents extended number) :
    Represents extended.shiftRightOne (number / 2) := by
  rcases extended with ⟨mantissa, roundBit, stickyBit⟩
  have bits : (mantissa : ℚ) = 2 * (mantissa / 2 : ℕ) + (mantissa % 2 : ℕ) := by
    exact_mod_cast (Nat.div_add_mod mantissa 2).symm
  simp only [Represents, ExtendedMantissa.shiftRightOne] at represents ⊢
  rcases Nat.mod_two_eq_zero_or_one mantissa with even | odd
  · rw [even, Nat.cast_zero] at bits
    cases roundBit <;> cases stickyBit <;> simp [even] at represents ⊢ <;>
      (try constructor) <;> linarith
  · rw [odd, Nat.cast_one] at bits
    cases roundBit <;> cases stickyBit <;> simp [odd] at represents ⊢ <;>
      (try constructor) <;> linarith

theorem shiftRight (represents : Represents extended number) (count : ℕ) :
    Represents (extended >>> count) (number / 2 ^ count) := by
  change Represents (count.repeat ExtendedMantissa.shiftRightOne extended) _
  induction count with
  | zero => simpa [Nat.repeat] using represents
  | succ count inductionHypothesis =>
    rw [Nat.repeat, pow_succ, ← div_div]
    exact inductionHypothesis.shiftRightOne

/-- The rounded mantissa is the nearest number, and the even one of two. -/
theorem roundedMantissa (represents : Represents extended number) :
    (extended.roundedMantissa : ℚ) - 1 / 2 ≤ number ∧
      number ≤ extended.roundedMantissa + 1 / 2 ∧
        (extended.roundedMantissa % 2 = 1 → number ≠ extended.roundedMantissa - 1 / 2 ∧
          number ≠ extended.roundedMantissa + 1 / 2) := by
  rcases extended with ⟨mantissa, roundBit, stickyBit⟩
  cases roundBit <;> cases stickyBit <;>
    simp only [Represents, Bool.false_eq_true, if_false, if_true] at represents <;>
    simp only [ExtendedMantissa.roundedMantissa, ExtendedMantissa.accuracy,
      Accuracy.roundToNearestEven]
  · exact ⟨by linarith, by linarith, fun _ => ⟨by linarith, by linarith⟩⟩
  · exact ⟨by linarith, by linarith, fun _ => ⟨by linarith, by linarith⟩⟩
  · rcases Nat.mod_two_eq_zero_or_one mantissa with even | odd
    · rw [even, Nat.add_zero]
      exact ⟨by linarith, by linarith, fun odd => absurd odd (by omega)⟩
    · rw [odd]
      push_cast
      exact ⟨by linarith, by linarith, fun odd => absurd odd (by omega)⟩
  · push_cast
    exact ⟨by linarith, by linarith, fun _ => ⟨by linarith, by linarith⟩⟩

end Represents

/-! ## Bit patterns -/

/-- Sign, exponent and significand are put next to each other. -/
theorem toNat_packComponents (sign : Sign) (exponent : BitVec 11) (significand : BitVec 52) :
    (packComponents Format.binary64 sign exponent significand).toNat =
      (sign.toBitVec.toNat * 2 ^ 11 + exponent.toNat) * 2 ^ 52 + significand.toNat := by
  unfold packComponents
  rw [BitVec.toNat_append, ← Nat.shiftLeft_add_eq_or_of_lt significand.isLt, BitVec.toNat_append,
    ← Nat.shiftLeft_add_eq_or_of_lt exponent.isLt, Nat.shiftLeft_eq, Nat.shiftLeft_eq]

theorem log2_of_full {significand : ℕ} (short : significand < 2 ^ 53)
    (full : 2 ^ 52 ≤ significand) : significand.log2 = 52 :=
  (Nat.log2_eq_iff (by omega)).mpr ⟨full, short⟩

/-- The bits of a number with an exponent and a significand are its magnitude behind its
sign.  An exponent that does not fit makes it infinite. -/
theorem toNat_pack (sign : Sign) {exponent significand : ℕ} (positive : 0 < significand)
    (short : significand < 2 ^ 53) (full : exponent = 0 ∨ 2 ^ 52 ≤ significand) :
    (UnpackedFloat.pack Format.binary64
        (.finite sign significand ((exponent : ℤ) - 1074) positive)).toNat =
      sign.toBitVec.toNat * 2 ^ 63 + min (exponent * 2 ^ 52 + significand) infinite := by
  have biased : ((exponent : ℤ) - 1074 + Format.binary64.exponentBias +
      Format.binary64.mantissaBitsWithoutImplicit).toNat = exponent + 1 := by
    simp only [Format.exponentBias]
    omega
  simp only [UnpackedFloat.pack, biased]
  by_cases overflow : 2 ^ 11 ≤ exponent + 1 + 1
  · rw [if_pos overflow, packedInfinity, toNat_packComponents]
    have fields : (-1#11).toNat = 2047 ∧ (0 : BitVec 52).toNat = 0 := ⟨by decide, by decide⟩
    rw [fields.1, fields.2, infinite]
    omega
  · rw [if_neg overflow]
    by_cases normal : 2 ^ 52 ≤ significand
    · rw [log2_of_full short normal, if_pos (show 52 + 1 = Format.binary64.mantissaBits by rfl),
        toNat_packComponents, BitVec.toNat_ofNat,
        BitVec.toNat_ofNat, infinite]
      omega
    · have least : exponent = 0 := full.resolve_right normal
      have subnormal : ¬ significand.log2 + 1 = Format.binary64.mantissaBits := by
        have := (Nat.log2_lt (by omega)).mpr (Nat.not_le.mp normal)
        simp only [Format.mantissaBits]
        omega
      rw [if_neg subnormal, toNat_packComponents, BitVec.toNat_ofNat, BitVec.toNat_ofNat, least,
        infinite]
      omega

/-- The fields of a bit pattern without a sign. -/
theorem toNat_unpack (bits : BitVec 64) (positive : bits.toNat < 2 ^ 63) :
    (@unpackMantissa Format.binary64 bits).toNat = bits.toNat % 2 ^ 52 ∧
      (@unpackExponent Format.binary64 bits).toNat = bits.toNat / 2 ^ 52 ∧
        Sign.ofBitVec (@unpackSign Format.binary64 bits) = .positive := by
  refine ⟨?_, ?_, ?_⟩
  · simp [unpackMantissa]
  · simp [unpackExponent, Nat.shiftRight_eq_div_pow]
    omega
  · have unset : @unpackSign Format.binary64 bits = 0#1 := by
      apply BitVec.eq_of_toNat_eq
      simp [unpackSign, Nat.shiftRight_eq_div_pow]
      omega
    rw [unset]
    rfl

/-- A number is told by its sign, its significand and its exponent. -/
theorem finite_eq {sign : Sign} {first second : ℕ} {low high : ℤ} (significands : first = second)
    (exponents : low = high) (positive : 0 < first) :
    ∃ present, UnpackedFloat.finite sign first low positive = .finite sign second high present := by
  subst significands exponents
  exact ⟨positive, rfl⟩

/-- The number that a magnitude stands for, as its bits are understood. -/
theorem unpack_finite {magnitude : ℕ} (positive : 0 < magnitude) (finite : magnitude < infinite)
    {bits : BitVec 64} (same : bits.toNat = magnitude) :
    ∃ present, UnpackedFloat.unpack Format.binary64 bits =
      .finite .positive (binary magnitude).significand (binary magnitude).exponent present := by
  have bound : magnitude < 0x7FF0000000000000 := finite
  rcases toNat_unpack bits (by omega) with ⟨mantissa, exponent, sign⟩
  rw [same] at mantissa exponent
  have all : @unpackExponent Format.binary64 bits ≠ -1#_ := by
    intro all
    rw [all, show (-BitVec.ofNat Format.binary64.exponentBits 1).toNat = 2047 by decide] at exponent
    omega
  rcases exists_eq_binary magnitude with ⟨power, significand, shape, short, full⟩
  rcases binary_eq short full with ⟨significands, exponents⟩
  rw [← shape] at significands exponents
  rw [significands, exponents]
  simp only [UnpackedFloat.unpack, if_neg all, sign, exponent]
  by_cases normal : 2 ^ 52 ≤ significand
  · have some_power : @unpackExponent Format.binary64 bits ≠ 0#_ := by
      intro none
      rw [none, BitVec.toNat_zero] at exponent
      omega
    rw [if_neg some_power]
    refine finite_eq ?_ ?_ _
    · rw [BitVec.toNat_append, ← Nat.shiftLeft_add_eq_or_of_lt (BitVec.isLt _), mantissa,
        Nat.shiftLeft_eq]
      change 1 * 2 ^ 52 + magnitude % 2 ^ 52 = significand
      omega
    · simp only [Format.exponentBias]
      omega
  · have least : power = 0 := full.resolve_right normal
    have none : @unpackExponent Format.binary64 bits = 0#_ := by
      apply BitVec.eq_of_toNat_eq
      rw [exponent, BitVec.toNat_zero]
      omega
    have some_mantissa : @unpackMantissa Format.binary64 bits ≠ 0#_ := by
      intro zero
      rw [zero, BitVec.toNat_zero] at mantissa
      omega
    rw [if_pos none, dif_neg some_mantissa]
    refine finite_eq ?_ ?_ _
    · rw [mantissa]
      omega
    · simp only [Format.exponentBias]
      omega

theorem unpack_zero {bits : BitVec 64} (zero : bits.toNat = 0) :
    UnpackedFloat.unpack Format.binary64 bits = .zero .positive := by
  rw [BitVec.eq_of_toNat_eq (zero.trans BitVec.toNat_zero.symm)]
  rfl

theorem unpack_infinite {bits : BitVec 64} (same : bits.toNat = infinite) :
    UnpackedFloat.unpack Format.binary64 bits = .infinity .positive := by
  rw [BitVec.eq_of_toNat_eq (same.trans (show infinite = (0x7FF0000000000000#64).toNat by rfl))]
  rfl

/-! ## Numbers without sign -/

/-- The number that has a magnitude. -/
def number (magnitude : ℕ) : Float :=
  Float.ofBits (UInt64.ofNat magnitude)

theorem toBits_number {magnitude : ℕ} (bound : magnitude ≤ infinite) :
    (number magnitude).toBits.toNat = magnitude := by
  have bound : magnitude ≤ 0x7FF0000000000000 := bound
  have bits : (UInt64.ofNat magnitude).toBitVec.toNat = magnitude :=
    Nat.mod_eq_of_lt (by omega)
  rcases toNat_unpack (UInt64.ofNat magnitude).toBitVec (by omega) with ⟨mantissa, exponent, -⟩
  have meaningful : @isNaNBits Format.binary64 (UInt64.ofNat magnitude).toBitVec = false := by
    refine decide_eq_false fun ⟨all, some_mantissa⟩ => some_mantissa ?_
    rw [all, bits, show (-BitVec.ofNat Format.binary64.exponentBits 1).toNat = 2047 by decide]
      at exponent
    apply BitVec.eq_of_toNat_eq
    rw [mantissa, bits, BitVec.toNat_zero]
    omega
  change (UnpackedFloat.pack Format.binary64 (UnpackedFloat.unpack Format.binary64
    (UInt64.ofNat magnitude).toBitVec)).toNat = magnitude
  rw [pack_unpack, meaningful]
  exact bits

/-- Numbers with the same bits are the same. -/
theorem eq_number {float : Float} {magnitude : ℕ} (bound : magnitude ≤ infinite)
    (same : float.toBits.toNat = magnitude) : float = number magnitude :=
  Float.toBits_inj.mp (UInt64.toNat_inj.mp (same.trans (toBits_number bound).symm))

theorem unpack_number {magnitude : ℕ} (positive : 0 < magnitude) (finite : magnitude < infinite) :
    ∃ present, (number magnitude).toModel.unpack =
      .finite .positive (binary magnitude).significand (binary magnitude).exponent present :=
  unpack_finite positive finite (toBits_number finite.le)

theorem unpack_number_zero : (number 0).toModel.unpack = .zero .positive :=
  unpack_zero (toBits_number (Nat.zero_le infinite))

theorem unpack_number_infinite : (number infinite).toModel.unpack = .infinity .positive :=
  unpack_infinite (toBits_number le_rfl)

/-! ## One rounding -/

theorem ofModel_finite {exponent significand : ℕ} (positive : 0 < significand)
    (short : significand < 2 ^ 53) (full : exponent = 0 ∨ 2 ^ 52 ≤ significand) :
    Float.ofModel (Float.Model.pack
      (.finite .positive significand ((exponent : ℤ) - 1074) positive)) =
        number (min (exponent * 2 ^ 52 + significand) infinite) := by
  refine eq_number (min_le_right _ _) ((toNat_pack .positive positive short full).trans ?_)
  exact Nat.zero_add _

theorem ofModel_zero : Float.ofModel (Float.Model.pack (.zero .positive)) = number 0 :=
  eq_number (Nat.zero_le infinite) rfl

theorem shiftToTargetExponent_of_short {exponent significand : ℕ}
    (short : significand < 2 ^ 53) :
    shiftToTargetExponent Format.binary64 significand ((exponent : ℤ) - 1074) .exact =
      (⟨significand, false, false⟩, (exponent : ℤ) - 1074) := by
  have length : significand.log2 ≤ 52 := by
    rcases Nat.eq_zero_or_pos significand with rfl | positive
    · decide
    · exact Nat.lt_succ_iff.mp ((Nat.log2_lt positive.ne').mpr short)
  have stays : (Format.binary64.targetExponent
      (totalExponent significand ((exponent : ℤ) - 1074)) - ((exponent : ℤ) - 1074)).toNat = 0 := by
    simp only [Format.targetExponent, totalExponent, Format.mantissaBits, Format.minExponent]
    omega
  simp only [shiftToTargetExponent, shiftToExponent, stays]
  exact Prod.ext rfl (add_zero _)

/-- A mantissa that is one too great for its length loses its last bit, which is zero. -/
theorem shiftToTargetExponent_of_carry (exponent : ℕ) :
    shiftToTargetExponent Format.binary64 (2 ^ 53) ((exponent : ℤ) - 1074) .exact =
      (⟨2 ^ 52, false, false⟩, ((exponent + 1 : ℕ) : ℤ) - 1074) := by
  have once : (Format.binary64.targetExponent
      (totalExponent (2 ^ 53) ((exponent : ℤ) - 1074)) - ((exponent : ℤ) - 1074)).toNat = 1 := by
    simp only [Format.targetExponent, totalExponent, Format.mantissaBits, Format.minExponent,
      Nat.log2_two_pow]
    omega
  simp only [shiftToTargetExponent, shiftToExponent, once]
  refine Prod.ext rfl ?_
  push_cast
  ring

/-- A rounded significand of which the length is repaired becomes a number. -/
theorem ofModel_repaired {exponent significand : ℕ} (most : significand ≤ 2 ^ 53)
    (full : exponent = 0 ∨ 2 ^ 52 ≤ significand) :
    Float.ofModel (Float.Model.pack
      (if zero : (shiftToTargetExponent Format.binary64 significand ((exponent : ℤ) - 1074)
          .exact).1.mantissa = 0 then .zero .positive
        else .finite .positive (shiftToTargetExponent Format.binary64 significand
          ((exponent : ℤ) - 1074) .exact).1.mantissa
            (shiftToTargetExponent Format.binary64 significand ((exponent : ℤ) - 1074) .exact).2
              (Nat.pos_of_ne_zero zero))) =
        number (min (exponent * 2 ^ 52 + significand) infinite) := by
  rcases most.lt_or_eq with short | rfl
  · rw [shiftToTargetExponent_of_short short]
    split
    · rename_i zero
      have zero : significand = 0 := zero
      have least : exponent = 0 := full.resolve_right (by omega)
      rw [zero, least, ofModel_zero]
      rfl
    · rename_i positive
      exact ofModel_finite (Nat.pos_of_ne_zero positive) short full
  · have carried : exponent * 2 ^ 52 + 2 ^ 53 = (exponent + 1) * 2 ^ 52 + 2 ^ 52 := by ring
    rw [shiftToTargetExponent_of_carry exponent, dif_neg (by norm_num), carried]
    exact ofModel_finite (by norm_num) (by norm_num) (Or.inr le_rfl)

theorem mantissa_ofMantissaAndAccuracy (mantissa : ℕ) (accuracy : Accuracy) :
    (ExtendedMantissa.ofMantissaAndAccuracy mantissa accuracy).mantissa = mantissa := by
  unfold ExtendedMantissa.ofMantissaAndAccuracy
  split <;> rfl

/-- A mantissa that is shifted far enough has no more than a significand's bits. -/
theorem lt_of_log2_le {mantissa count : ℕ} {units : ℚ} (below : units < mantissa + 1)
    (enough : mantissa.log2 ≤ 52 + count) : units / 2 ^ count < 2 ^ 53 := by
  have within : mantissa + 1 ≤ 2 ^ (53 + count) :=
    (Nat.succ_le_of_lt Nat.lt_log2_self).trans (Nat.pow_le_pow_right two_pos (by omega))
  have within : ((mantissa : ℚ) + 1) ≤ 2 ^ 53 * 2 ^ count := by
    rw [← pow_add]
    exact_mod_cast within
  rw [div_lt_iff₀ (by positivity)]
  linarith

/-- A mantissa that is shifted just so far has no less. -/
theorem le_of_log2_eq {mantissa count : ℕ} {units : ℚ} (above : (mantissa : ℚ) ≤ units)
    (some_mantissa : mantissa ≠ 0) (exact : mantissa.log2 = 52 + count) :
    2 ^ 52 ≤ units / 2 ^ count := by
  have within : 2 ^ (52 + count) ≤ mantissa := exact ▸ Nat.log2_self_le some_mantissa
  have within : (2 : ℚ) ^ 52 * 2 ^ count ≤ mantissa := by
    rw [← pow_add]
    exact_mod_cast within
  rw [le_div_iff₀ (by positivity)]
  linarith

/-- Binary64 arithmetic rounds once: what is packed is the magnitude to which the number
rounds, or the infinite one if it is greater.  The mantissa that is rounded must have bits
enough, unless there is no room for them. -/
theorem exists_ofModel_round {mantissa : ℕ} {exponent : ℤ} {accuracy : Accuracy} {units : ℚ}
    (represents : Represents (ExtendedMantissa.ofMantissaAndAccuracy mantissa accuracy) units)
    (enough : exponent ≤ -1074 ∨ 2 ^ 52 ≤ mantissa) :
    ∃ magnitude, RoundsTo (units * 2 ^ exponent) magnitude ∧
      Float.ofModel (Float.Model.pack
        (roundWithAccuracy Format.binary64 .positive mantissa exponent accuracy)) =
          number (min magnitude infinite) := by
  have target_eq : Format.binary64.targetExponent (totalExponent mantissa exponent) =
      max ((mantissa.log2 : ℤ) + exponent - 52) (-1074) := by
    simp only [Format.targetExponent, totalExponent, Format.mantissaBits, Format.minExponent]
    omega
  obtain ⟨power, power_eq⟩ : ∃ power : ℕ, Format.binary64.targetExponent
      (totalExponent mantissa exponent) = (power : ℤ) - 1074 :=
    ⟨(Format.binary64.targetExponent (totalExponent mantissa exponent) + 1074).toNat, by omega⟩
  rw [power_eq] at target_eq
  have length : 2 ^ 52 ≤ mantissa → 52 ≤ mantissa.log2 := fun full =>
    (Nat.le_log2 (by omega)).mpr full
  obtain ⟨count, count_eq⟩ : ∃ count : ℕ, (power : ℤ) - 1074 = exponent + count :=
    ⟨((power : ℤ) - 1074 - exponent).toNat, by rcases enough with low | full <;> omega⟩
  have counted : ((power : ℤ) - 1074 - exponent).toNat = count := by omega
  have whole := represents.mantissa_le
  rw [mantissa_ofMantissaAndAccuracy] at whole
  have shifted := represents.shiftRight count
  have short := lt_of_log2_le whole.2 (show mantissa.log2 ≤ 52 + count by omega)
  have full : power = 0 ∨ 2 ^ 52 ≤ units / 2 ^ count := by
    by_cases none : power = 0
    · exact Or.inl none
    · refine Or.inr (le_of_log2_eq whole.1 ?_ (by omega))
      intro zero
      rw [zero, Nat.log2_zero] at target_eq
      omega
  rcases shifted.roundedMantissa with ⟨lower, upper, even⟩
  rcases RoundsTo.significand_range short full ⟨lower, upper⟩ with ⟨most, length⟩
  refine ⟨power * 2 ^ 52 +
    (ExtendedMantissa.ofMantissaAndAccuracy mantissa accuracy >>> count).roundedMantissa, ?_, ?_⟩
  · have rescaled : units * 2 ^ exponent = units / 2 ^ count * 2 ^ ((power : ℤ) - 1074) := by
      rw [count_eq, zpow_add₀ two_ne_zero, zpow_natCast]
      field_simp
    rw [rescaled]
    exact RoundsTo.of_significand short full ⟨lower, upper⟩ even
  · have first : shiftToTargetExponent Format.binary64 mantissa exponent accuracy =
        (ExtendedMantissa.ofMantissaAndAccuracy mantissa accuracy >>> count,
          (power : ℤ) - 1074) := by
      simp only [shiftToTargetExponent, shiftToExponent, power_eq, counted]
      rw [count_eq]
    simp only [roundWithAccuracy, first]
    exact ofModel_repaired most length

end Price
end Itineraries
