import Mathlib.Tactic.FieldSimp
import Mathlib.Tactic.Linarith
import Mathlib.Tactic.Positivity
import Itineraries.Price.Reading
import Itineraries.Price.Shortest
import Itineraries.Proofs.Spelling

namespace Itineraries
namespace Price

/-!
# The digits of a price

A decimal is spelt so that the reader of prices gathers its digits again.  Zeros in front
change nothing but the place.  Zeros behind, which only a whole number has, make the
significand greater by a power of ten and the place less, the zero after the point
included.
-/

open Json (Digit Numeral)

/-! ## Gathering -/

namespace Gathered

/-- The first of some digits fits where all of them do, and leaves room for the others. -/
theorem fits_of_all {gathered : Gathered} (room : gathered.full = false) {digit : Digit}
    {digits : List Digit} (fits : gathered.significand * 10 ^ (digit :: digits).length +
      Digit.value (digit :: digits) < 2 ^ 64) :
    gathered.fits digit = true ∧
      (10 * gathered.significand + digit.val) * 10 ^ digits.length + Digit.value digits =
        gathered.significand * 10 ^ (digit :: digits).length + Digit.value (digit :: digits) := by
  have total : (10 * gathered.significand + digit.val) * 10 ^ digits.length +
      Digit.value digits = gathered.significand * 10 ^ (digit :: digits).length +
        Digit.value (digit :: digits) := by
    rw [Digit.value_cons, List.length_cons, pow_succ]
    ring
  refine ⟨?_, total⟩
  have first : 10 * gathered.significand + digit.val < 2 ^ 64 :=
    calc 10 * gathered.significand + digit.val ≤
          (10 * gathered.significand + digit.val) * 10 ^ digits.length :=
          Nat.le_mul_of_pos_right _ (by positivity)
      _ ≤ _ := Nat.le_add_right _ (Digit.value digits)
      _ < 2 ^ 64 := total ▸ fits
  rw [Gathered.fits, room]
  exact decide_eq_true first

theorem foldl_takeWhole {gathered : Gathered} (room : gathered.full = false)
    {digits : List Digit}
    (fits : gathered.significand * 10 ^ digits.length + Digit.value digits < 2 ^ 64) :
    digits.foldl takeWhole gathered =
      { gathered with
        significand := gathered.significand * 10 ^ digits.length + Digit.value digits } := by
  induction digits generalizing gathered with
  | nil => simp [Digit.value]
  | cons digit digits inductionHypothesis =>
    rcases fits_of_all room fits with ⟨first, total⟩
    rw [← total] at fits ⊢
    rw [List.foldl_cons, takeWhole, if_pos first]
    exact @inductionHypothesis
      { gathered with significand := 10 * gathered.significand + digit.val } room fits

/-- Digits behind the point do so too, and each of them moves the point. -/
theorem foldl_takeFraction {gathered : Gathered} (room : gathered.full = false)
    {digits : List Digit}
    (fits : gathered.significand * 10 ^ digits.length + Digit.value digits < 2 ^ 64) :
    digits.foldl takeFraction gathered =
      { gathered with
        significand := gathered.significand * 10 ^ digits.length + Digit.value digits
        power := gathered.power - digits.length } := by
  induction digits generalizing gathered with
  | nil => simp [Digit.value]
  | cons digit digits inductionHypothesis =>
    rcases fits_of_all room fits with ⟨first, total⟩
    rw [← total] at fits ⊢
    rw [List.foldl_cons, takeFraction, if_pos first]
    refine (@inductionHypothesis
      { gathered with
        significand := 10 * gathered.significand + digit.val
        power := gathered.power - 1 } room fits).trans ?_
    simp only [List.length_cons, Gathered.mk.injEq, true_and, and_true]
    push_cast
    ring

/-- A numeral of which all digits fit is gathered as a whole number with its place. -/
theorem ofNumeral_eq {numeral : Numeral}
    (fits : Digit.value (numeral.whole ++ numeral.fraction) < 2 ^ 64) :
    ofNumeral numeral =
      { significand := Digit.value (numeral.whole ++ numeral.fraction)
        power := (numeral.exponent.map Json.Exponent.value).getD 0 - numeral.fraction.length
        full := false } := by
  rw [Digit.value_append] at fits ⊢
  have whole : 0 * 10 ^ numeral.whole.length + Digit.value numeral.whole < 2 ^ 64 := by
    rw [Nat.zero_mul, Nat.zero_add]
    exact (Nat.le_mul_of_pos_right _ (by positivity)).trans_lt
      ((Nat.le_add_right _ _).trans_lt fits)
  unfold ofNumeral
  rw [@foldl_takeWhole ⟨0, 0, false⟩ rfl numeral.whole whole]
  simp only [Nat.zero_mul, Nat.zero_add]
  rw [@foldl_takeFraction ⟨Digit.value numeral.whole, 0, false⟩ rfl numeral.fraction fits]
  cases numeral.exponent with
  | none => rfl
  | some exponent =>
    simp only [Gathered.mk.injEq, true_and, and_true, Option.map_some, Option.getD_some]
    ring

end Gathered

/-! ## The numeral of a decimal -/

/-- A decimal that is far from the point is spelt with an exponent. -/
theorem numeralOfDecimal_of_far {negative : Bool} {decimal : Decimal} {point : ℤ}
    (point_eq : point = (Digit.ofNat decimal.coefficient).length + decimal.place)
    (far : ¬ (-4 ≤ point ∧ point ≤ 16)) :
    numeralOfDecimal negative decimal =
      ⟨negative, (Digit.ofNat decimal.coefficient).take 1,
        (Digit.ofNat decimal.coefficient).drop 1,
          some ⟨decide (point - 1 < 0), Digit.ofNat (point - 1).natAbs⟩⟩ := by
  subst point_eq
  simp only [numeralOfDecimal, if_neg far]

/-- A decimal that lies wholly behind the point gets zeros in front. -/
theorem numeralOfDecimal_of_small {negative : Bool} {decimal : Decimal} {point : ℤ}
    (point_eq : point = (Digit.ofNat decimal.coefficient).length + decimal.place)
    (near : -4 ≤ point ∧ point ≤ 16) (small : point ≤ 0) :
    numeralOfDecimal negative decimal =
      ⟨negative, [0],
        List.replicate (-point).toNat 0 ++ Digit.ofNat decimal.coefficient, none⟩ := by
  subst point_eq
  simp only [numeralOfDecimal, if_pos near, if_pos small, Int.toNat_of_nonpos small,
    List.drop_zero]
  rw [if_neg (List.append_ne_nil_of_right_ne_nil _ (Digit.ofNat_ne_nil _))]

/-- A decimal with the point among its digits is spelt as it is. -/
theorem numeralOfDecimal_of_mixed {negative : Bool} {decimal : Decimal} {point : ℕ}
    (point_eq : (point : ℤ) = (Digit.ofNat decimal.coefficient).length + decimal.place)
    (near : point ≤ 16) (some_whole : 0 < point) (broken : decimal.place < 0) :
    numeralOfDecimal negative decimal =
      ⟨negative, (Digit.ofNat decimal.coefficient).take point,
        (Digit.ofNat decimal.coefficient).drop point, none⟩ := by
  have rest : (Digit.ofNat decimal.coefficient).drop point ≠ [] := by
    rw [Ne, List.drop_eq_nil_iff]
    omega
  simp only [numeralOfDecimal, ← point_eq]
  rw [if_pos (by omega), if_neg (by omega), Int.toNat_natCast, Int.toNat_of_nonpos broken.le,
    Int.toNat_of_nonpos (by omega), List.replicate_zero, List.append_nil, List.nil_append,
    if_neg rest]

/-- A whole number that is spelt out gets zeros behind and a zero after the point. -/
theorem numeralOfDecimal_of_whole {negative : Bool} {decimal : Decimal} {point : ℕ}
    (point_eq : (point : ℤ) = (Digit.ofNat decimal.coefficient).length + decimal.place)
    (near : point ≤ 16) (whole : 0 ≤ decimal.place) :
    numeralOfDecimal negative decimal =
      ⟨negative, Digit.ofNat decimal.coefficient ++ List.replicate decimal.place.toNat 0,
        [0], none⟩ := by
  have some_digit := List.length_pos_of_ne_nil (Digit.ofNat_ne_nil decimal.coefficient)
  have all : (Digit.ofNat decimal.coefficient).length ≤ point := by omega
  simp only [numeralOfDecimal, ← point_eq]
  rw [if_pos (by omega), if_neg (by omega), Int.toNat_natCast, List.take_of_length_le all,
    List.drop_of_length_le all, Int.toNat_of_nonpos (show -(point : ℤ) ≤ 0 by omega),
    List.replicate_zero, List.append_nil, if_pos rfl]

section

variable {decimal : Decimal} {negative : Bool} (bound : decimal.coefficient < 2 ^ 58)
include bound

/-- Far from the point the exponent makes up for the digits behind it. -/
theorem ofNumeral_of_far {point : ℤ}
    (point_eq : point = (Digit.ofNat decimal.coefficient).length + decimal.place)
    (far : ¬ (-4 ≤ point ∧ point ≤ 16)) :
    Gathered.ofNumeral (numeralOfDecimal negative decimal) =
      ⟨decimal.coefficient, decimal.place, false⟩ := by
  have some_digit := List.length_pos_of_ne_nil (Digit.ofNat_ne_nil decimal.coefficient)
  have all : Digit.value ((Digit.ofNat decimal.coefficient).take 1 ++
      (Digit.ofNat decimal.coefficient).drop 1) = decimal.coefficient := by
    rw [List.take_append_drop, Digit.value_ofNat]
  have exponent : Json.Exponent.value ⟨decide (point - 1 < 0),
      Digit.ofNat (point - 1).natAbs⟩ = point - 1 := by
    rw [Json.Exponent.value, Digit.value_ofNat]
    by_cases down : point - 1 < 0
    · rw [if_pos (decide_eq_true down)]
      omega
    · rw [if_neg (by simpa using down)]
      omega
  rw [numeralOfDecimal_of_far point_eq far, Gathered.ofNumeral_eq (all.trans_lt (by omega)), all,
    List.length_drop, Option.map_some, Option.getD_some, exponent]
  simp only [Gathered.mk.injEq, true_and, and_true]
  omega

theorem ofNumeral_of_small {point : ℤ}
    (point_eq : point = (Digit.ofNat decimal.coefficient).length + decimal.place)
    (near : -4 ≤ point ∧ point ≤ 16) (small : point ≤ 0) :
    Gathered.ofNumeral (numeralOfDecimal negative decimal) =
      ⟨decimal.coefficient, decimal.place, false⟩ := by
  have all : Digit.value ([0] ++ (List.replicate (-point).toNat 0 ++
      Digit.ofNat decimal.coefficient)) = decimal.coefficient := by
    rw [← List.append_assoc, ← List.replicate_one, ← List.replicate_add,
      Digit.value_zeros_append, Digit.value_ofNat]
  rw [numeralOfDecimal_of_small point_eq near small,
    Gathered.ofNumeral_eq (all.trans_lt (by omega)), all, List.length_append,
    List.length_replicate]
  simp only [Gathered.mk.injEq, true_and, and_true, Option.map_none, Option.getD_none]
  omega

theorem ofNumeral_of_mixed {point : ℕ}
    (point_eq : (point : ℤ) = (Digit.ofNat decimal.coefficient).length + decimal.place)
    (near : point ≤ 16) (some_whole : 0 < point) (broken : decimal.place < 0) :
    Gathered.ofNumeral (numeralOfDecimal negative decimal) =
      ⟨decimal.coefficient, decimal.place, false⟩ := by
  have all : Digit.value ((Digit.ofNat decimal.coefficient).take point ++
      (Digit.ofNat decimal.coefficient).drop point) = decimal.coefficient := by
    rw [List.take_append_drop, Digit.value_ofNat]
  rw [numeralOfDecimal_of_mixed point_eq near some_whole broken,
    Gathered.ofNumeral_eq (all.trans_lt (by omega)), all, List.length_drop]
  simp only [Gathered.mk.injEq, true_and, and_true, Option.map_none, Option.getD_none]
  omega

omit bound in
theorem ofNumeral_of_whole {point : ℕ}
    (point_eq : (point : ℤ) = (Digit.ofNat decimal.coefficient).length + decimal.place)
    (near : point ≤ 16) (whole : 0 ≤ decimal.place) :
    decimal.coefficient * 10 ^ decimal.place.toNat < 10 ^ 16 ∧
      Gathered.ofNumeral (numeralOfDecimal negative decimal) =
        ⟨decimal.coefficient * 10 ^ decimal.place.toNat * 10, -1, false⟩ := by
  have value : Digit.value (Digit.ofNat decimal.coefficient ++
      List.replicate decimal.place.toNat 0) =
        decimal.coefficient * 10 ^ decimal.place.toNat := by
    rw [Digit.value_append_zeros, Digit.value_ofNat]
  have large : decimal.coefficient * 10 ^ decimal.place.toNat < 10 ^ 16 := by
    have digits := Digit.value_lt (Digit.ofNat decimal.coefficient ++
      List.replicate decimal.place.toNat 0)
    rw [value, List.length_append, List.length_replicate] at digits
    exact digits.trans_le (Nat.pow_le_pow_right (by norm_num) (by omega))
  have all : Digit.value ((Digit.ofNat decimal.coefficient ++
      List.replicate decimal.place.toNat 0) ++ [0]) =
        decimal.coefficient * 10 ^ decimal.place.toNat * 10 := by
    rw [← List.replicate_one, Digit.value_append_zeros, value, pow_one]
  refine ⟨large, ?_⟩
  rw [numeralOfDecimal_of_whole point_eq near whole,
    Gathered.ofNumeral_eq (all.trans_lt (by omega)), all]
  rfl

variable (negative) in
/-- What is gathered from the numeral of a decimal is the decimal.  Only from a whole number
that is spelt out it is ten times that number, with the point one place further on. -/
theorem ofNumeral_numeralOfDecimal :
    Gathered.ofNumeral (numeralOfDecimal negative decimal) =
        ⟨decimal.coefficient, decimal.place, false⟩ ∨
      0 ≤ decimal.place ∧ decimal.coefficient * 10 ^ decimal.place.toNat < 10 ^ 16 ∧
        Gathered.ofNumeral (numeralOfDecimal negative decimal) =
          ⟨decimal.coefficient * 10 ^ decimal.place.toNat * 10, -1, false⟩ := by
  obtain ⟨point, point_eq⟩ : ∃ point : ℤ,
      point = (Digit.ofNat decimal.coefficient).length + decimal.place := ⟨_, rfl⟩
  by_cases near : -4 ≤ point ∧ point ≤ 16
  · by_cases small : point ≤ 0
    · exact Or.inl (ofNumeral_of_small bound point_eq near small)
    · obtain ⟨point, rfl⟩ : ∃ count : ℕ, point = count := ⟨point.toNat, by omega⟩
      by_cases broken : decimal.place < 0
      · exact Or.inl (ofNumeral_of_mixed bound point_eq (by omega) (by omega) broken)
      · exact Or.inr ⟨not_lt.mp broken,
          ofNumeral_of_whole point_eq (by omega) (not_lt.mp broken)⟩
  · exact Or.inl (ofNumeral_of_far bound point_eq near)

end

theorem isStrict_numeralOfDecimal (negative : Bool) {decimal : Decimal}
    (positive : 0 < decimal.coefficient) : (numeralOfDecimal negative decimal).IsStrict := by
  have some_digit := List.length_pos_of_ne_nil (Digit.ofNat_ne_nil decimal.coefficient)
  -- the first digit is no zero
  have leading (digits rest : List Digit) (spelt : digits ++ rest = Digit.ofNat decimal.coefficient)
      (later : List Digit) (zero : digits = 0 :: later) : False := by
    rw [zero, List.cons_append] at spelt
    exact positive.ne' (Digit.ofNat_eq_zero_cons spelt.symm).1
  obtain ⟨point, point_eq⟩ : ∃ point : ℤ,
      point = (Digit.ofNat decimal.coefficient).length + decimal.place := ⟨_, rfl⟩
  by_cases near : -4 ≤ point ∧ point ≤ 16
  · by_cases small : point ≤ 0
    · rw [numeralOfDecimal_of_small point_eq near small]
      exact ⟨List.cons_ne_nil _ _, fun _ zero => (List.cons.inj zero).2.symm, nofun⟩
    · obtain ⟨point, rfl⟩ : ∃ count : ℕ, point = count := ⟨point.toNat, by omega⟩
      by_cases broken : decimal.place < 0
      · rw [numeralOfDecimal_of_mixed point_eq (by omega) (by omega) broken]
        refine ⟨?_, ?_, nofun⟩
        · rw [← List.length_pos_iff, List.length_take]
          omega
        · intro later zero
          exact (leading _ _ (List.take_append_drop point _) later zero).elim
      · rw [numeralOfDecimal_of_whole point_eq (by omega) (by omega)]
        refine ⟨List.append_ne_nil_of_left_ne_nil (Digit.ofNat_ne_nil _) _, ?_, nofun⟩
        intro later zero
        rcases List.append_eq_cons_iff.mp zero with ⟨empty, -⟩ | ⟨front, digits, -⟩
        · exact absurd empty (Digit.ofNat_ne_nil _)
        · exact (leading _ [] (List.append_nil _) front digits).elim
  · rw [numeralOfDecimal_of_far point_eq near]
    refine ⟨?_, ?_, ?_⟩
    · rw [← List.length_pos_iff, List.length_take]
      omega
    · intro later zero
      exact (leading _ _ (List.take_append_drop 1 _) later zero).elim
    · intro exponent present
      rw [Option.mem_some_iff] at present
      rw [← present]
      exact Digit.ofNat_ne_nil _

end Price
end Itineraries
