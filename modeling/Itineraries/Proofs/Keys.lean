import Itineraries.Proofs.Bytes
import Itineraries.Proofs.Sorting

namespace Itineraries

/-!
# Rank keys

A ranking takes any sixty-four bits for a price, also those that are no number.  It does not
compare numbers, for which nothing would be less or greater than such a pattern, and the two
zeros would be the same.  It compares patterns: by their sign, and then by their magnitude,
upwards without the sign bit and downwards with it.  That makes a row of all patterns, in
which each has a place of its own.

So nothing is ever left open between two keys but what is the same in both of them, and a
sort has no choice: where keys are the same, it keeps to the order in which it found them.
-/

/-! ## Prices -/

namespace Price

/-- Whether a price comes before another one in the total order of binary64 patterns. -/
inductive ComesBefore (first second : Price) : Prop where
  | signs (negative : first.isNegative = true) (positive : second.isNegative = false)
  | downwards (negative : first.isNegative = true) (alsoNegative : second.isNegative = true)
      (less : second.magnitude < first.magnitude)
  | upwards (positive : first.isNegative = false) (alsoPositive : second.isNegative = false)
      (less : first.magnitude < second.magnitude)

theorem rank_of_negative {price : Price} (negative : price.isNegative = true) :
    price.rank = -(price.magnitude : Int) - 1 := by
  rw [rank, if_pos negative]

theorem rank_of_positive {price : Price} (positive : price.isNegative = false) :
    price.rank = price.magnitude := by
  rw [rank, positive, if_neg Bool.false_ne_true]

theorem rank_lt_iff {first second : Price} :
    first.rank < second.rank ↔ first.ComesBefore second := by
  constructor
  · intro before
    cases sign : first.isNegative <;> cases otherSign : second.isNegative
    · rw [rank_of_positive sign, rank_of_positive otherSign] at before
      exact .upwards sign otherSign (by omega)
    · rw [rank_of_positive sign, rank_of_negative otherSign] at before
      omega
    · exact .signs sign otherSign
    · rw [rank_of_negative sign, rank_of_negative otherSign] at before
      exact .downwards sign otherSign (by omega)
  · intro before
    cases before with
    | signs negative positive =>
      rw [rank_of_negative negative, rank_of_positive positive]
      omega
    | downwards negative alsoNegative less =>
      rw [rank_of_negative negative, rank_of_negative alsoNegative]
      omega
    | upwards positive alsoPositive less =>
      rw [rank_of_positive positive, rank_of_positive alsoPositive]
      omega

theorem compare_rank_eq_iff {first second : Price} :
    compare first.rank second.rank = .eq ↔ first = second := by
  rw [Std.compare_eq_iff_eq]
  exact ⟨rank_injective, congrArg rank⟩

end Price

/-! ## Keys -/

theorem Text.compare_eq_lt_iff {first second : String} :
    compare first second = .lt ↔ bytes first < bytes second := by
  rw [bytes_lt_bytes_iff]
  exact compareOfLessAndEq_eq_lt

namespace RankKey

/-- What the ranking looks at to put a key before another one. -/
theorem compare_eq_lt_iff {first second : RankKey} :
    compare first second = .lt ↔
      first.price.ComesBefore second.price ∨
        first.price = second.price ∧
          (first.minutes < second.minutes ∨
            first.minutes = second.minutes ∧
              (first.hops < second.hops ∨
                first.hops = second.hops ∧ Text.bytes first.id < Text.bytes second.id)) := by
  change RankKey.compare first second = .lt ↔ _
  rw [RankKey.compare, Ordering.then_eq_lt, Ordering.then_eq_lt, Ordering.then_eq_lt,
    Price.compare_rank_eq_iff, Std.compare_eq_iff_eq, Std.compare_eq_iff_eq, Int.compare_eq_lt,
    Int.compare_eq_lt, Nat.compare_eq_lt, Text.compare_eq_lt_iff, Price.rank_lt_iff]

theorem compare_eq_eq_iff {first second : RankKey} :
    compare first second = .eq ↔
      first.price.bits = second.price.bits ∧ first.minutes = second.minutes ∧
        first.hops = second.hops ∧ first.id = second.id := by
  rw [Std.compare_eq_iff_eq, RankKey.mk.injEq, Price.mk.injEq]

theorem leads_iff {first second : RankKey} :
    first.leads second = true ↔ compare first second ≠ .gt :=
  Ordering.isLE_iff_ne_gt

/-- Keys lead each other where the ranking does not tell them apart. -/
theorem areLevel_leads (first second : RankKey) :
    areLevel leads first second = decide (compare first second = .eq) := by
  have swapped : compare second first = (compare first second).swap := Std.OrientedCmp.eq_swap
  rw [areLevel, leads, leads, swapped]
  cases compare first second <;> rfl

/-- The ranking compares any two keys, either way round with the same result; it is
transitive, and level are only keys that have everything in common.  What is ranked by keys,
such as itineraries by theirs, is sorted in the one way that keeps the order of what ranks
level, whatever it is and in whatever order it comes. -/
theorem keys_sort_in_one_way :
    (∀ first second : RankKey, compare second first = (compare first second).swap) ∧
      (∀ first second third : RankKey, compare first second ≠ .gt →
        compare second third ≠ .gt → compare first third ≠ .gt) ∧
      (∀ first second : RankKey, compare first second = .eq ↔
        first.price.bits = second.price.bits ∧ first.minutes = second.minutes ∧
          first.hops = second.hops ∧ first.id = second.id) ∧
      (∀ first second : RankKey, compare first second = .lt ↔
        first.price.ComesBefore second.price ∨
          first.price = second.price ∧
            (first.minutes < second.minutes ∨
              first.minutes = second.minutes ∧
                (first.hops < second.hops ∨
                  first.hops = second.hops ∧ Text.bytes first.id < Text.bytes second.id))) ∧
      ∀ {Entry : Type} (key : Entry → RankKey) (entries arranged : List Entry),
        arranged = entries.mergeSort (fun first second => (key first).leads (key second)) ↔
          arranged.Perm entries ∧
            (arranged.Pairwise fun first second => compare (key first) (key second) ≠ .gt) ∧
            ∀ entry ∈ entries,
              arranged.filter (fun other => compare (key entry) (key other) = .eq) =
                entries.filter (fun other => compare (key entry) (key other) = .eq) := by
  refine ⟨fun _ _ => Std.OrientedCmp.eq_swap, ?_, fun _ _ => compare_eq_eq_iff,
    fun _ _ => compare_eq_lt_iff, ?_⟩
  · intro first second third early late
    rw [← leads_iff] at early late ⊢
    exact leads_trans first second third early late
  · intro Entry key entries arranged
    have transitive : ∀ first second third, (key first).leads (key second) = true →
        (key second).leads (key third) = true → (key first).leads (key third) = true :=
      fun first second third => leads_trans (key first) (key second) (key third)
    have total : ∀ first second,
        ((key first).leads (key second) || (key second).leads (key first)) = true :=
      fun first second => leads_total (key first) (key second)
    have level : ∀ entry,
        areLevel (fun first second => (key first).leads (key second)) entry =
          fun other => decide (compare (key entry) (key other) = .eq) :=
      fun entry => funext fun other => areLevel_leads (key entry) (key other)
    rw [eq_mergeSort_iff transitive total]
    simp only [level, leads_iff]

/-- Numbered keys, some with prices that are no finite numbers, and two that are the same. -/
private def oddKeys : List (Nat × RankKey) :=
  [(0, ⟨⟨0x7FF8000000000000⟩, 60, 0, "F"⟩), (1, ⟨⟨0⟩, 90, 0, "F"⟩),
    (2, ⟨⟨0x8000000000000000⟩, 60, 0, "F"⟩), (3, ⟨⟨0xFFF8000000000000⟩, 60, 0, "F"⟩),
    (4, ⟨⟨0x7FF0000000000000⟩, 60, 0, "F"⟩), (5, ⟨⟨0xFFF0000000000000⟩, 60, 0, "F"⟩),
    (6, ⟨⟨0x8000000000000000⟩, 60, 0, "F"⟩), (7, ⟨⟨0⟩, 60, 1, "F"⟩),
    (8, ⟨⟨0⟩, 60, 0, "F>G"⟩), (9, ⟨⟨0⟩, 60, 0, "F"⟩)]

/-- What is no number stands at both ends, the infinities next to it, and minus zero in front
of zero; the two keys that are the same keep their order. -/
theorem odd_keys_sort_in_one_way :
    (oddKeys.mergeSort fun first second => first.2.leads second.2).map (·.1) =
      [3, 5, 2, 6, 9, 8, 7, 1, 4, 0] := by
  rcases keys_sort_in_one_way with ⟨-, -, -, -, sorts⟩
  have sorted := (sorts Prod.snd oddKeys
    ([3, 5, 2, 6, 9, 8, 7, 1, 4, 0].filterMap fun number => oddKeys[number]?)).mpr
      ⟨by decide, by decide, by decide⟩
  rw [← sorted]
  decide

end RankKey
end Itineraries
