namespace Itineraries

/-!
# Prices

A price is a binary64 number.  It is identified with its sixty-four bits, so
that equality of prices is equality of bits: the two zeros are different
prices, and so are any two that a ranking tells apart.
-/

/-- A price as the bits of a binary64 number: sign, eleven bits of exponent,
fifty-two bits of significand. -/
structure Price where
  bits : UInt64
deriving DecidableEq, Repr, Inhabited

namespace Price

def toFloat (price : Price) : Float :=
  Float.ofBits price.bits

def ofFloat (number : Float) : Price :=
  ⟨number.toBits⟩

/-- Minus zero, the neutral element of addition: adding it changes no price,
not even plus zero. -/
def negativeZero : Price :=
  ⟨0x8000000000000000⟩

/-- The sum of two prices, rounded to the nearest binary64 number. -/
def add (first second : Price) : Price :=
  ofFloat (first.toFloat + second.toFloat)

/-- The sum of a row of prices, taken from left to right. -/
def sum (prices : List Price) : Price :=
  prices.foldl add negativeZero

def isNegative (price : Price) : Bool :=
  decide (0x8000000000000000 ≤ price.bits.toNat)

/-- The bits without the sign bit. -/
def magnitude (price : Price) : Nat :=
  price.bits.toNat % 0x8000000000000000

/-- Whether the bits encode a number rather than an infinity or no number. -/
def isFinite (price : Price) : Bool :=
  decide (price.magnitude < 0x7FF0000000000000)

/-- The place of a price in the total order of binary64 bit patterns.  Among
patterns without sign the magnitudes count upwards from zero; with the sign
they count downwards from minus one, so that minus zero comes directly before
zero. -/
def rank (price : Price) : Int :=
  if price.isNegative then -(price.magnitude : Int) - 1 else price.magnitude

theorem rank_injective {first second : Price} (same : first.rank = second.rank) :
    first = second := by
  have firstBound := first.bits.toNat_lt
  have secondBound := second.bits.toNat_lt
  have bits : first.bits.toNat = second.bits.toNat := by
    by_cases firstSign : 0x8000000000000000 ≤ first.bits.toNat <;>
      by_cases secondSign : 0x8000000000000000 ≤ second.bits.toNat <;>
        simp only [rank, isNegative, magnitude, firstSign, secondSign, decide_true, decide_false,
          Bool.false_eq_true, if_true, if_false] at same <;>
        omega
  cases first
  cases second
  exact congrArg Price.mk (UInt64.toNat_inj.mp bits)

end Price
end Itineraries
