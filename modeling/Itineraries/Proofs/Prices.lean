import Itineraries.Proofs.Depths

namespace Itineraries
namespace Price

/-!
# Prices that are written and read again

A finite price is written as a number and comes back finite and with its sign.  Its
magnitude may be another one, but not by more than two steps, whether the price is
great or small.  The greatest prices are no exception: their numerals are not refused.
-/

open Json (Digit Numeral)

/-! ## What is written -/

def numeral (price : Price) : Numeral :=
  if price.magnitude = 0 then ⟨price.isNegative, [Digit.zero], [Digit.zero], none⟩
  else numeralOfDecimal price.isNegative (binary price.magnitude).shortest

/-- The digits that are gathered from that numeral. -/
def digits (price : Price) : Gathered :=
  Gathered.ofNumeral price.numeral

theorem toJson_eq {price : Price} (finite : price.isFinite = true) :
    price.toJson = .number price.numeral := by
  rw [toJson, if_pos finite, numeral]
  split <;> rfl

theorem numeral_negative (price : Price) : price.numeral.negative = price.isNegative := by
  unfold numeral numeralOfDecimal
  split
  · rfl
  · dsimp only
    split <;> rfl

theorem isFinite_iff {price : Price} : price.isFinite = true ↔ price.magnitude < infinite :=
  decide_eq_true_iff

/-- The numeral of a finite price is spelt as the grammar of documents demands. -/
theorem isStrict_numeral {price : Price} (finite : price.isFinite = true) :
    price.numeral.IsStrict := by
  unfold numeral
  split
  · exact ⟨List.cons_ne_nil _ _, fun _ zero => (List.cons.inj zero).2.symm,
      fun _ found => absurd found (Option.not_mem_none _)⟩
  · rename_i positive
    have spec := Binary.shortest_spec (Nat.pos_of_ne_zero positive) (isFinite_iff.mp finite)
    exact isStrict_numeralOfDecimal _ spec.2.1

/-! ## What is read -/

/-- What of a finite price is left when it is written and read again.  The result is a
finite price with the same sign, and at most two steps away.  If the power of ten is a
number, it is at most one step away; if the digits as one whole number are a number as
well, the price is the same. -/
structure IsReadAs (written read : Price) : Prop where
  finite : read.isFinite = true
  sign : read.isNegative = written.isNegative
  two : AtMostApart 2 written.magnitude read.magnitude
  one : written.digits.power.natAbs ≤ 22 → AtMostApart 1 written.magnitude read.magnitude
  none : written.digits.power.natAbs ≤ 22 → IsExact written.digits.significand → read = written

theorem eq_of_sign_magnitude {first second : Price} (sign : first.isNegative = second.isNegative)
    (magnitude : first.magnitude = second.magnitude) : first = second :=
  rank_injective (by rw [rank, rank, sign, magnitude])

theorem ofFloat_number {magnitude : ℕ} (finite : magnitude < infinite) (negative : Bool) :
    (ofFloat (if negative then -number magnitude else number magnitude)).isNegative = negative ∧
      (ofFloat (if negative then -number magnitude else number magnitude)).magnitude =
        magnitude := by
  have bound : magnitude < 0x7FF0000000000000 := finite
  cases negative with
  | true =>
    rw [if_pos rfl, isNegative, Price.magnitude, ofFloat, toBits_neg_number finite]
    exact ⟨decide_eq_true (by omega), by omega⟩
  | false =>
    rw [if_neg Bool.false_ne_true, isNegative, Price.magnitude, ofFloat,
      toBits_number finite.le]
    exact ⟨decide_eq_false (by omega), by omega⟩

/-- Where the digits are brought to their place as they should, the numeral spells a price
that is left of the one it was written for. -/
theorem exists_ofNumeral?_of_scale? {price : Price} {read : ℕ} (finite : read < infinite)
    (scaled : scale? price.digits.significand.toUInt64.toFloat price.digits.power =
      some (number read)) (readBack : IsReadBack price.digits price.magnitude read) :
    ∃ loaded, ofNumeral? price.numeral = some loaded ∧ price.IsReadAs loaded := by
  rcases ofFloat_number finite price.isNegative with ⟨sign, magnitude⟩
  refine ⟨ofFloat (if price.isNegative then -number read else number read), ?_, ?_⟩
  · rw [← numeral_negative]
    exact congrArg (Option.map _) scaled
  · generalize ofFloat (if price.isNegative then -number read else number read) = loaded
      at sign magnitude
    rw [← magnitude] at finite readBack
    exact ⟨isFinite_iff.mpr finite, sign, readBack.two, readBack.one, fun few exact =>
      eq_of_sign_magnitude sign (readBack.none few exact)⟩

/-! ## Zero -/

theorem digits_of_zero {price : Price} (zero : price.magnitude = 0) :
    price.digits = ⟨0, -1, false⟩ := by
  rw [digits, numeral, if_pos zero]
  rfl

theorem scale?_zero : scale? (Nat.toUInt64 0).toFloat (-1) = some (number 0) := by
  rw [scale?, if_neg (by decide), if_pos (by decide), if_pos (by decide)]
  exact congrArg some (eq_number (by decide) (by decide +kernel))

/-! ## All other prices -/

/-- The digits of a price other than zero and their place make up a decimal that rounds to
the price. -/
theorem digits_spec {price : Price} (positive : 0 < price.magnitude)
    (finite : price.magnitude < infinite) :
    0 < price.digits.significand ∧ price.digits.significand < 2 ^ 64 ∧
      RoundsTo (price.digits.significand * 10 ^ price.digits.power) price.magnitude ∧
        -325 ≤ price.digits.power ∧ price.digits.power ≤ 308 := by
  rcases Binary.shortest_spec positive finite with ⟨rounds, some_digit, bound, least, most⟩
  rw [digits, numeral, if_neg positive.ne']
  rcases ofNumeral_numeralOfDecimal price.isNegative bound with gathered | ⟨whole, small, gathered⟩
  · rw [gathered]
    exact ⟨some_digit, bound.trans (by norm_num), rounds, least, most⟩
  · rw [gathered]
    generalize (binary price.magnitude).shortest = decimal at *
    obtain ⟨place, place_eq⟩ : ∃ place : ℕ, decimal.place = place :=
      ⟨decimal.place.toNat, by omega⟩
    rw [place_eq, Int.toNat_natCast] at small ⊢
    refine ⟨by positivity, ?_, ?_, by norm_num, by norm_num⟩
    · change decimal.coefficient * 10 ^ place * 10 < 2 ^ 64
      omega
    · have same : ((decimal.coefficient * 10 ^ place * 10 : ℕ) : ℚ) * 10 ^ (-1 : ℤ) =
          decimal.coefficient * 10 ^ place := by
        push_cast
        rw [zpow_neg_one, mul_inv_cancel_right₀ (by norm_num)]
      rw [place_eq, zpow_natCast] at rounds
      rwa [same]

/-- The numerals of the two greatest prices are not refused. -/
theorem scale?_greatest {price : Price} (great : infinite ≤ price.magnitude + 2)
    (finite : price.magnitude < infinite) :
    scale? price.digits.significand.toUInt64.toFloat price.digits.power ≠ none := by
  have accepted {coefficient : ℕ} (some_digit : 0 < coefficient) (bound : coefficient < 2 ^ 58)
      (shortest : (binary price.magnitude).shortest = ⟨coefficient, 292⟩)
      (fits : (coefficient.toUInt64.toFloat * powerOfTen 292).isInf = false) :
      scale? price.digits.significand.toUInt64.toFloat price.digits.power ≠ none := by
    have positive : price.magnitude ≠ 0 := by
      intro zero
      rw [zero] at great
      exact absurd great (by decide)
    have gathered : price.digits = ⟨coefficient, 292, false⟩ := by
      rw [digits, numeral, if_neg positive, shortest]
      refine (@ofNumeral_numeralOfDecimal ⟨coefficient, 292⟩ _ bound).resolve_right fun small => ?_
      have large : 10 ^ 16 ≤ 10 ^ Int.toNat 292 := Nat.pow_le_pow_right (by decide) (by decide)
      exact absurd small.2.1 (not_lt.mpr (large.trans (Nat.le_mul_of_pos_left _ some_digit)))
    rw [gathered]
    change scale? coefficient.toUInt64.toFloat 292 ≠ none
    rw [scale?, if_neg (by decide), if_pos (by decide), if_neg (by decide)]
    change (if (coefficient.toUInt64.toFloat * powerOfTen 292).isInf then none else _) ≠ none
    rw [fits]
    exact Option.some_ne_none _
  have either : price.magnitude = infinite - 1 ∨ price.magnitude = infinite - 2 := by
    omega
  rcases either with last | previous
  · refine @accepted 17976931348623157 (by decide) (by decide) ?_ (by decide +kernel)
    rw [last]
    decide +kernel
  · refine @accepted 17976931348623155 (by decide) (by decide) ?_ (by decide +kernel)
    rw [previous]
    decide +kernel

/-- Every finite price is read as a price that is left of it. -/
theorem exists_ofJson?_toJson {price : Price} (finite : price.isFinite = true) :
    ∃ loaded, ofJson? price.toJson = some loaded ∧ price.IsReadAs loaded := by
  rw [toJson_eq finite, ofJson?]
  have bound := isFinite_iff.mp finite
  rcases Nat.eq_zero_or_pos price.magnitude with zero | positive
  · have gathered := digits_of_zero zero
    refine @exists_ofNumeral?_of_scale? price 0 (by decide) ?_ ?_
    · rw [gathered]
      exact scale?_zero
    · rw [zero]
      exact ⟨⟨by omega, by omega⟩, fun _ => ⟨by omega, by omega⟩, fun _ _ => rfl⟩
  · rcases digits_spec positive bound with ⟨some_digit, fits, rounds, least, most⟩
    suffices back : ∃ read < infinite,
        scale? price.digits.significand.toUInt64.toFloat price.digits.power =
          some (number read) ∧ IsReadBack price.digits price.magnitude read by
      rcases back with ⟨read, readFinite, scaled, readBack⟩
      exact exists_ofNumeral?_of_scale? readFinite scaled readBack
    by_cases deep : price.digits.power < -308
    · exact exists_isReadBack_of_deep some_digit fits rounds (by omega) deep
    · by_cases negative : price.digits.power < 0
      · exact exists_isReadBack_of_neg some_digit fits rounds (by omega) negative
      · refine exists_isReadBack_of_nonneg some_digit fits rounds (by omega) most ?_
        by_cases great : infinite ≤ price.magnitude + 2
        · exact Or.inr (scale?_greatest great bound)
        · exact Or.inl (by omega)

/-- Two steps do occur: 1.8150757853790338e-9 is read as 1.8150757853790334e-9. -/
example : ofJson? (Price.mk 0x3E1F2EC9A85D18FD).toJson = some ⟨0x3E1F2EC9A85D18FB⟩ := by
  decide +kernel

end Price
end Itineraries
