import Itineraries.Json.Value
import Itineraries.Price.Basic

namespace Itineraries
namespace Price

/-!
# Reading a price

A numeral is read in two steps.  Its digits are gathered in a significand of
sixty-four bits until the next one would not fit; after that, digits before the
point count only for their place and digits after it not at all.  The
significand is then brought to its place by one multiplication or division by a
power of ten in binary64 arithmetic.

Each of the steps rounds, so the result may be the neighbour of the number that
the numeral denotes when it has more digits than fit in a significand of
fifty-three bits.  An overflow is a fault; an underflow gives a zero that keeps
its sign.
-/

/-- The digits gathered so far, and the power of ten that they are to be
multiplied by. -/
structure Gathered where
  significand : Nat
  power : Int
  full : Bool
deriving Repr

namespace Gathered

/-- Whether another digit fits behind the significand. -/
def fits (gathered : Gathered) (digit : Json.Digit) : Bool :=
  !gathered.full && decide (10 * gathered.significand + digit.val < 0x10000000000000000)

def takeWhole (gathered : Gathered) (digit : Json.Digit) : Gathered :=
  if gathered.fits digit then
    { gathered with significand := 10 * gathered.significand + digit.val }
  else
    { gathered with power := gathered.power + 1, full := true }

def takeFraction (gathered : Gathered) (digit : Json.Digit) : Gathered :=
  if gathered.fits digit then
    { gathered with
      significand := 10 * gathered.significand + digit.val
      power := gathered.power - 1 }
  else
    { gathered with full := true }

/-- The digits of a numeral.  The point gives digits another chance to fit. -/
def ofNumeral (numeral : Json.Numeral) : Gathered :=
  let whole := numeral.whole.foldl takeWhole ⟨0, 0, false⟩
  let all := numeral.fraction.foldl takeFraction { whole with full := false }
  match numeral.exponent with
  | some exponent => { all with power := all.power + exponent.value }
  | none => all

end Gathered

/-- The power of ten with this exponent, which is at most 308. -/
def powerOfTen (exponent : Nat) : Float :=
  Float.ofScientific 1 false exponent

/-- A number times a power of ten, or `none` on overflow.  Below the least
power the number is brought down in steps of the greatest power of ten, until
it is zero. -/
def scale? (number : Float) (power : Int) : Option Float :=
  if power < -308 then
    if number == 0 then some number else scale? (number / powerOfTen 308) (power + 308)
  else if power ≤ 308 then
    if power < 0 then some (number / powerOfTen power.natAbs)
    else
      let product := number * powerOfTen power.natAbs
      if product.isInf then none else some product
  else
    if number == 0 then some number else none
termination_by (-power).toNat
decreasing_by omega

def ofNumeral? (numeral : Json.Numeral) : Option Price :=
  let gathered := Gathered.ofNumeral numeral
  (scale? gathered.significand.toUInt64.toFloat gathered.power).map fun number =>
    ofFloat (if numeral.negative then -number else number)

def ofJson? : Json.Value → Option Price
  | .number numeral => ofNumeral? numeral
  | _ => none

end Price
end Itineraries
