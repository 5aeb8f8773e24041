import Itineraries.Pair

namespace Itineraries

/-!
# Warm pairs

A rebuild fills the new cache for some pairs in advance.  Which pairs these are
is up to a policy: fixed ones, those that were asked for last, both, or whatever
else somebody derives from the pairs that were asked for.
-/

/-- The pairs asked for last, newest first, each once, and no more than fit. -/
structure RecentPairs where
  capacity : Nat
  pairs : List Pair := []
deriving DecidableEq, Repr

/-- Note that a pair has been asked for: it moves to the front, and what no
longer fits is forgotten. -/
def RecentPairs.record (recent : RecentPairs) (pair : Pair) : RecentPairs :=
  { recent with pairs := (pair :: recent.pairs.filter (· ≠ pair)).take recent.capacity }

/-- The way in which warm pairs are chosen: always the same pairs, as given; the pairs
asked for last; given pairs and behind them those asked for last; or any other choice that
depends on the pairs asked for so far, latest first. -/
inductive WarmPolicy where
  | fixed (pairs : List Pair)
  | recent (recent : RecentPairs)
  | combined (seeded : List Pair) (recent : RecentPairs)
  | custom (choose : List Pair → List Pair) (asked : List Pair)

namespace WarmPolicy

def record (policy : WarmPolicy) (pair : Pair) : WarmPolicy :=
  match policy with
  | fixed pairs => fixed pairs
  | recent recentPairs => recent (recentPairs.record pair)
  | combined seeded recentPairs => combined seeded (recentPairs.record pair)
  | custom choose asked => custom choose (pair :: asked)

/-- The pairs to be computed in advance, in order.  Of a pair that is both given
and asked for, the first occurrence counts. -/
def pairs (policy : WarmPolicy) : List Pair :=
  match policy with
  | fixed pairs => pairs
  | recent recentPairs => recentPairs.pairs
  | combined seeded recentPairs => (seeded ++ recentPairs.pairs).eraseDups
  | custom choose asked => choose asked

end WarmPolicy
end Itineraries
