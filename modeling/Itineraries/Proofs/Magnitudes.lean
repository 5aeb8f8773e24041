import Mathlib.Algebra.Order.Field.Power
import Mathlib.Data.Rat.Cast.Order
import Mathlib.Order.Monotone.Basic
import Mathlib.Tactic.FieldSimp
import Mathlib.Tactic.Linarith
import Mathlib.Tactic.Positivity
import Mathlib.Tactic.Ring
import Itineraries.Price.Shortest

namespace Itineraries
namespace Price

/-!
# Magnitudes and the numbers that round to them

Without its sign a finite price is a number, and the next magnitude is the next number.
The distance between neighbours doubles with the exponent.  A number rounds to a
magnitude when it lies between the midpoints on either side; a midpoint itself goes to
the even neighbour.  As the numbers grow, so do the magnitudes they round to, so there
is only one for each number, whatever way it was found.
-/

/-- The first magnitude that belongs to no finite price. -/
def infinite : ℕ := 0x7FF0000000000000

/-- The number that a magnitude stands for.  The infinite one stands for the power of two
behind the finite numbers. -/
def amount (magnitude : ℕ) : ℚ :=
  (binary magnitude).significand * 2 ^ (binary magnitude).exponent

/-- The distance to the next number. -/
def gap (magnitude : ℕ) : ℚ :=
  2 ^ (binary magnitude).exponent

theorem gap_pos (magnitude : ℕ) : 0 < gap magnitude := by
  unfold gap
  positivity

/-- An exponent and a significand that has its full length, unless the exponent is the
least, are those of one magnitude. -/
theorem binary_eq {exponent significand : ℕ} (short : significand < 2 ^ 53)
    (full : exponent = 0 ∨ 2 ^ 52 ≤ significand) :
    (binary (exponent * 2 ^ 52 + significand)).significand = significand ∧
      (binary (exponent * 2 ^ 52 + significand)).exponent = (exponent : ℤ) - 1074 := by
  have power : 2 ^ 52 = 0x10000000000000 := by norm_num
  rw [power] at full ⊢
  unfold binary
  by_cases least : (exponent * 0x10000000000000 + significand) / 0x10000000000000 = 0
  · simp only [if_pos least]
    omega
  · simp only [if_neg least]
    omega

theorem exists_eq_binary (magnitude : ℕ) :
    ∃ exponent significand : ℕ, magnitude = exponent * 2 ^ 52 + significand ∧
      significand < 2 ^ 53 ∧ (exponent = 0 ∨ 2 ^ 52 ≤ significand) := by
  by_cases least : magnitude < 2 ^ 52
  · exact ⟨0, magnitude, by omega, by omega, Or.inl rfl⟩
  · exact ⟨magnitude / 2 ^ 52 - 1, 2 ^ 52 + magnitude % 2 ^ 52, by omega, by omega,
      Or.inr (by omega)⟩

theorem binary_range {magnitude : ℕ} (positive : 0 < magnitude) (finite : magnitude < infinite) :
    0 < (binary magnitude).significand ∧ (binary magnitude).significand < 2 ^ 53 ∧
      -1074 ≤ (binary magnitude).exponent ∧ (binary magnitude).exponent ≤ 971 := by
  rcases exists_eq_binary magnitude with ⟨exponent, significand, rfl, short, full⟩
  have bound : exponent * 2 ^ 52 + significand < 0x7FF0000000000000 := finite
  rw [(binary_eq short full).1, (binary_eq short full).2]
  omega

/-- The unit of the number below is less where the significand is the least of its length
and the exponent could be less. -/
theorem narrowBelow_eq {exponent significand : ℕ} (short : significand < 2 ^ 53)
    (full : exponent = 0 ∨ 2 ^ 52 ≤ significand) :
    (binary (exponent * 2 ^ 52 + significand)).narrowBelow =
      decide (significand = 2 ^ 52 ∧ 0 < exponent) := by
  have power : 2 ^ 52 = 0x10000000000000 := by norm_num
  rw [power] at full ⊢
  unfold binary
  by_cases least : (exponent * 0x10000000000000 + significand) / 0x10000000000000 = 0
  · simp only [if_pos least]
    exact (decide_eq_false (by omega)).symm
  · simp only [if_neg least, decide_eq_decide]
    omega

theorem gap_eq {exponent significand : ℕ} (short : significand < 2 ^ 53)
    (full : exponent = 0 ∨ 2 ^ 52 ≤ significand) :
    gap (exponent * 2 ^ 52 + significand) = 2 ^ ((exponent : ℤ) - 1074) := by
  rw [gap, (binary_eq short full).2]

/-- The unit doubles with the exponent. -/
theorem unit_succ (exponent : ℕ) :
    (2 : ℚ) ^ (((exponent + 1 : ℕ) : ℤ) - 1074) = 2 * 2 ^ ((exponent : ℤ) - 1074) := by
  rw [← zpow_one_add₀ two_ne_zero]
  congr 1
  push_cast
  ring

/-- The number of an exponent and a significand.  A significand that is one too great for
its length counts as well. -/
theorem amount_eq {exponent significand : ℕ} (most : significand ≤ 2 ^ 53)
    (full : exponent = 0 ∨ 2 ^ 52 ≤ significand) :
    amount (exponent * 2 ^ 52 + significand) = significand * 2 ^ ((exponent : ℤ) - 1074) := by
  rcases most.lt_or_eq with short | rfl
  · rcases binary_eq short full with ⟨significands, exponents⟩
    rw [amount, significands, exponents]
  · have carried : exponent * 2 ^ 52 + 2 ^ 53 = (exponent + 1) * 2 ^ 52 + 2 ^ 52 := by ring
    rcases @binary_eq (exponent + 1) (2 ^ 52) (by norm_num) (Or.inr le_rfl) with
      ⟨significands, exponents⟩
    rw [carried, amount, significands, exponents, unit_succ]
    push_cast
    ring

/-- A significand that is too short for its exponent has a magnitude all the same. -/
theorem exists_amount_eq (exponent : ℕ) {significand : ℕ} (short : significand < 2 ^ 53) :
    ∃ magnitude, amount magnitude = significand * 2 ^ ((exponent : ℤ) - 1074) := by
  induction exponent generalizing significand with
  | zero => exact ⟨_, amount_eq short.le (Or.inl rfl)⟩
  | succ exponent inductionHypothesis =>
    by_cases full : 2 ^ 52 ≤ significand
    · exact ⟨_, amount_eq short.le (Or.inr full)⟩
    · rcases @inductionHypothesis (2 * significand) (by omega) with ⟨magnitude, same⟩
      refine ⟨magnitude, same.trans ?_⟩
      rw [unit_succ]
      push_cast
      ring

theorem amount_zero : amount 0 = 0 := by
  have zero := @amount_eq 0 0 (by norm_num) (Or.inl rfl)
  simpa using zero

theorem amount_succ (magnitude : ℕ) :
    amount (magnitude + 1) = amount magnitude + gap magnitude := by
  rcases exists_eq_binary magnitude with ⟨exponent, significand, rfl, short, full⟩
  rw [gap_eq short full, amount_eq short.le full, add_assoc,
    amount_eq (Nat.succ_le_of_lt short) (full.imp_right Nat.le_succ_of_le)]
  push_cast
  ring

theorem amount_strictMono : StrictMono amount :=
  strictMono_nat_of_lt_succ fun magnitude => by
    rw [amount_succ]
    exact lt_add_of_pos_right _ (gap_pos magnitude)

theorem amount_nonneg (magnitude : ℕ) : 0 ≤ amount magnitude := by
  rw [← amount_zero]
  exact amount_strictMono.monotone (Nat.zero_le magnitude)

theorem gap_mono : Monotone gap :=
  monotone_nat_of_le_succ fun magnitude => by
    rcases exists_eq_binary magnitude with ⟨exponent, significand, rfl, short, full⟩
    rw [gap_eq short full]
    rcases (Nat.succ_le_of_lt short).lt_or_eq with next | carried
    · rw [add_assoc, gap_eq next (full.imp_right Nat.le_succ_of_le)]
    · have shape : exponent * 2 ^ 52 + significand + 1 = (exponent + 1) * 2 ^ 52 + 2 ^ 52 := by
        omega
      rw [shape, gap_eq (by norm_num) (Or.inr le_rfl)]
      exact zpow_le_zpow_right₀ one_le_two (by push_cast; linarith)

/-- The distance to the number below is half the distance to the number above, or both are
the same. -/
theorem gap_pred {magnitude : ℕ} (positive : 0 < magnitude) :
    gap (magnitude - 1) =
      if (binary magnitude).narrowBelow then gap magnitude / 2 else gap magnitude := by
  rcases exists_eq_binary magnitude with ⟨exponent, significand, rfl, short, full⟩
  rw [narrowBelow_eq short full, gap_eq short full]
  by_cases narrow : significand = 2 ^ 52 ∧ 0 < exponent
  · have shape : exponent * 2 ^ 52 + significand - 1 = (exponent - 1) * 2 ^ 52 + (2 ^ 53 - 1) := by
      omega
    rw [if_pos (decide_eq_true narrow), shape, gap_eq (by norm_num) (Or.inr (by norm_num)),
      Nat.cast_sub narrow.2, Nat.cast_one, sub_sub, add_comm 1, ← sub_sub,
      zpow_sub_one₀ two_ne_zero]
    ring
  · have shape : exponent * 2 ^ 52 + significand - 1 =
        exponent * 2 ^ 52 + (significand - 1) := by omega
    rw [if_neg (by simpa using narrow), shape, gap_eq (by omega) (by omega)]

/-! ## Rounding -/

/-- The number halfway between a magnitude and the next. -/
def midpoint (magnitude : ℕ) : ℚ :=
  (amount magnitude + amount (magnitude + 1)) / 2

theorem midpoint_strictMono : StrictMono midpoint := by
  intro first second less
  have lower := amount_strictMono less
  have upper := amount_strictMono (Nat.succ_lt_succ less)
  unfold midpoint
  linarith

theorem amount_lt_midpoint (magnitude : ℕ) : amount magnitude < midpoint magnitude := by
  have next := amount_strictMono (Nat.lt_succ_self magnitude)
  unfold midpoint
  linarith

theorem midpoint_lt_amount {first second : ℕ} (less : first < second) :
    midpoint first < amount second := by
  have own := amount_strictMono (Nat.lt_succ_self first)
  have next := amount_strictMono.monotone (Nat.succ_le_of_lt less)
  unfold midpoint
  linarith

/-- A midpoint has no more units than a significand has room for. -/
theorem midpoint_le_gap (magnitude : ℕ) :
    midpoint magnitude ≤ (2 ^ 53 - 1 / 2) * gap magnitude := by
  rcases exists_eq_binary magnitude with ⟨exponent, significand, rfl, short, full⟩
  have most : (significand : ℚ) + 1 ≤ 2 ^ 53 := by exact_mod_cast Nat.succ_le_of_lt short
  have halfway : midpoint (exponent * 2 ^ 52 + significand) =
      (significand + 1 / 2) * gap (exponent * 2 ^ 52 + significand) := by
    rw [midpoint, amount_succ, amount_eq short.le full, ← gap_eq short full]
    ring
  rw [halfway]
  exact mul_le_mul_of_nonneg_right (by linarith) (gap_pos _).le

/-- Whether a number that is not negative rounds to a magnitude.  Of two magnitudes at the
same distance the even one is taken. -/
structure RoundsTo (number : ℚ) (magnitude : ℕ) : Prop where
  le_midpoint : number ≤ midpoint magnitude
  midpoint_le : ∀ below < magnitude, midpoint below ≤ number
  ne_of_odd : magnitude % 2 = 1 → number ≠ midpoint magnitude ∧ number ≠ midpoint (magnitude - 1)

namespace RoundsTo

variable {first second number : ℚ} {lower upper magnitude : ℕ}

theorem mono (firstRounds : RoundsTo first lower) (secondRounds : RoundsTo second upper)
    (ordered : first ≤ second) : lower ≤ upper := by
  by_contra less
  have less : upper < lower := Nat.not_le.mp less
  -- both numbers are then the one midpoint between the two magnitudes
  have below : midpoint (lower - 1) ≤ first := firstRounds.midpoint_le _ (by omega)
  have above := secondRounds.le_midpoint
  have between : midpoint upper ≤ midpoint (lower - 1) :=
    midpoint_strictMono.monotone (by omega)
  have neighbours : upper = lower - 1 :=
    midpoint_strictMono.injective (by linarith)
  rcases Nat.mod_two_eq_zero_or_one lower with even | odd
  · exact (secondRounds.ne_of_odd (by omega)).1 (by linarith)
  · exact (firstRounds.ne_of_odd odd).2 (by linarith)

theorem unique (firstRounds : RoundsTo number lower) (secondRounds : RoundsTo number upper) :
    lower = upper :=
  (firstRounds.mono secondRounds le_rfl).antisymm (secondRounds.mono firstRounds le_rfl)

/-- To be rounded to a positive magnitude is to lie between two midpoints, which belong to
it when it is even. -/
theorem iff_between (positive : 0 < magnitude) :
    RoundsTo number magnitude ↔
      if magnitude % 2 = 0 then
        midpoint (magnitude - 1) ≤ number ∧ number ≤ midpoint magnitude
      else midpoint (magnitude - 1) < number ∧ number < midpoint magnitude := by
  have lowest (less : midpoint (magnitude - 1) ≤ number) :
      ∀ below < magnitude, midpoint below ≤ number := fun below smaller =>
    (midpoint_strictMono.monotone (Nat.le_sub_one_of_lt smaller)).trans less
  split
  · rename_i even
    constructor
    · intro rounds
      exact ⟨rounds.midpoint_le _ (by omega), rounds.le_midpoint⟩
    · intro ⟨less, greater⟩
      exact ⟨greater, lowest less, fun odd => by omega⟩
  · rename_i odd
    constructor
    · intro rounds
      have apart := rounds.ne_of_odd (by omega)
      exact ⟨lt_of_le_of_ne (rounds.midpoint_le _ (by omega)) apart.2.symm,
        lt_of_le_of_ne rounds.le_midpoint apart.1⟩
    · intro ⟨less, greater⟩
      exact ⟨greater.le, lowest less.le, fun _ => ⟨greater.ne, less.ne'⟩⟩

theorem self (magnitude : ℕ) : RoundsTo (amount magnitude) magnitude where
  le_midpoint := (amount_lt_midpoint magnitude).le
  midpoint_le _ less := (midpoint_lt_amount less).le
  ne_of_odd odd := ⟨(amount_lt_midpoint magnitude).ne,
    (midpoint_lt_amount (by omega)).ne'⟩

/-- Nothing is lost of a number that has a magnitude. -/
theorem amount_eq_of_exact {exact : ℕ} (rounds : RoundsTo number magnitude)
    (same : amount exact = number) : amount magnitude = number := by
  rw [← same] at rounds ⊢
  rw [rounds.unique (self exact)]

/-- A significand that is nearest to a number of units has at most its full length or is
one too great for it, and has no less unless the exponent is the least. -/
theorem significand_range {exponent significand : ℕ} {units : ℚ} (short : units < 2 ^ 53)
    (full : exponent = 0 ∨ 2 ^ 52 ≤ units)
    (nearest : (significand : ℚ) - 1 / 2 ≤ units ∧ units ≤ significand + 1 / 2) :
    significand ≤ 2 ^ 53 ∧ (exponent = 0 ∨ 2 ^ 52 ≤ significand) := by
  refine ⟨?_, full.imp_right fun full => ?_⟩
  · have below : (significand : ℚ) < 2 ^ 53 + 1 := by linarith [nearest.1]
    exact Nat.lt_succ_iff.mp (by exact_mod_cast below)
  · have above : (2 : ℚ) ^ 52 < significand + 1 := by linarith [nearest.2]
    exact Nat.lt_succ_iff.mp (by exact_mod_cast above)

/-- The midpoint above a significand that is not too great for its length. -/
theorem midpoint_of_significand {exponent significand : ℕ} (most : significand ≤ 2 ^ 53)
    (least : exponent = 0 ∨ 2 ^ 52 ≤ significand) :
    midpoint (exponent * 2 ^ 52 + significand) =
        (significand + 1 / 2) * 2 ^ ((exponent : ℤ) - 1074) ∨ significand = 2 ^ 53 := by
  rcases most.lt_or_eq with fits | great
  · have next := @amount_eq exponent (significand + 1) fits (least.imp_right Nat.le_succ_of_le)
    refine Or.inl ?_
    rw [midpoint, amount_eq most least, add_assoc, next]
    push_cast
    ring
  · exact Or.inr great

/-- The midpoint below a significand that is not the least of full length. -/
theorem midpoint_pred_of_significand {exponent significand : ℕ} (most : significand ≤ 2 ^ 53)
    (least : exponent = 0 ∨ 2 ^ 52 ≤ significand)
    (positive : 0 < exponent * 2 ^ 52 + significand) :
    midpoint (exponent * 2 ^ 52 + significand - 1) =
        (significand - 1 / 2) * 2 ^ ((exponent : ℤ) - 1074) ∨
      significand = 2 ^ 52 ∧ exponent ≠ 0 := by
  by_cases shorter : 0 < significand ∧ (exponent = 0 ∨ 2 ^ 52 ≤ significand - 1)
  · have previous := amount_eq (most.trans' (Nat.sub_le significand 1)) shorter.2
    refine Or.inl ?_
    rw [midpoint, Nat.sub_add_cancel positive, amount_eq most least,
      Nat.add_sub_assoc shorter.1, previous, Nat.cast_sub shorter.1]
    push_cast
    ring
  · exact Or.inr (by omega)

/-- A number rounds to the magnitude of which the significand, which may be one too great
for its length, is the nearest to it in units of the least bit. -/
theorem of_significand {exponent significand : ℕ} {units : ℚ} (short : units < 2 ^ 53)
    (full : exponent = 0 ∨ 2 ^ 52 ≤ units)
    (nearest : (significand : ℚ) - 1 / 2 ≤ units ∧ units ≤ significand + 1 / 2)
    (even : significand % 2 = 1 →
      units ≠ significand - 1 / 2 ∧ units ≠ significand + 1 / 2) :
    RoundsTo (units * 2 ^ ((exponent : ℤ) - 1074)) (exponent * 2 ^ 52 + significand) := by
  have unit_pos : (0 : ℚ) < 2 ^ ((exponent : ℤ) - 1074) := by positivity
  rcases significand_range short full nearest with ⟨most, least⟩
  have own := amount_eq most least
  refine ⟨?_, ?_, ?_⟩
  · rcases midpoint_of_significand most least with same | rfl
    · rw [same]
      exact mul_le_mul_of_nonneg_right nearest.2 unit_pos.le
    · refine le_trans ?_ (amount_lt_midpoint _).le
      rw [own]
      exact mul_le_mul_of_nonneg_right (by exact_mod_cast short.le) unit_pos.le
  · intro lower less
    refine (midpoint_strictMono.monotone (Nat.le_sub_one_of_lt less)).trans ?_
    rcases midpoint_pred_of_significand most least (Nat.zero_lt_of_lt less) with
      same | ⟨rfl, some_exponent⟩
    · rw [same]
      exact mul_le_mul_of_nonneg_right nearest.1 unit_pos.le
    · have greater : ((2 ^ 52 : ℕ) : ℚ) ≤ units := by
        exact_mod_cast full.resolve_left some_exponent
      refine (midpoint_lt_amount (Nat.sub_lt (Nat.zero_lt_of_lt less) Nat.one_pos)).le.trans ?_
      rw [own]
      exact mul_le_mul_of_nonneg_right greater unit_pos.le
  · intro odd
    have odd : significand % 2 = 1 := by omega
    refine ⟨?_, ?_⟩
    · rcases midpoint_of_significand most least with same | rfl
      · rw [same]
        exact fun equal => (even odd).2 (mul_right_cancel₀ unit_pos.ne' equal)
      · exact absurd odd (by norm_num)
    · rcases midpoint_pred_of_significand most least (by omega) with same | ⟨rfl, -⟩
      · rw [same]
        exact fun equal => (even odd).1 (mul_right_cancel₀ unit_pos.ne' equal)
      · exact absurd odd (by norm_num)

end RoundsTo
end Price
end Itineraries
