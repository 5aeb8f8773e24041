import Itineraries.Json.Value
import Itineraries.Price.Basic

namespace Itineraries
namespace Price

/-!
# Shortest decimal form

A finite price is written with the fewest digits that still read back to it.
A decimal reads back to a price when it lies among the reals that round to that
price, and those fill an interval around it; an end of the interval belongs to
it when the significand is even, because ties go to the even neighbour.

The decimals with a given last place form a grid.  The search goes from coarse
grids to fine ones and stops at the first that has a point in the interval.  If
any point of a grid lies there, so does one of the two neighbours of the price,
so two candidates are enough.
-/

/-- A positive binary64 number as `significand * 2 ^ exponent`, with the
distance to the number below it, which is half the usual one above a power of
two. -/
structure Binary where
  significand : Nat
  exponent : Int
  narrowBelow : Bool
deriving Repr

def binary (magnitude : Nat) : Binary :=
  let field : Nat := magnitude / 0x10000000000000
  let fraction : Nat := magnitude % 0x10000000000000
  if field = 0 then ⟨fraction, -1074, false⟩
  else ⟨0x10000000000000 + fraction, (field : Int) - 1075, decide (fraction = 0 ∧ 1 < field)⟩

/-- A decimal `coefficient * 10 ^ place`. -/
structure Decimal where
  coefficient : Nat
  place : Int
deriving DecidableEq, Repr

namespace Binary

/-- The point of the grid of a place that is nearest to the number, if a point
of that grid rounds to the number.  Number, ends and grid are measured in one
unit that makes all of them integers.  Of two points at the same distance the
even one is taken. -/
def onGrid? (number : Binary) (place : Int) : Option Decimal :=
  let quarter := number.exponent - 2
  let unit := Nat.pow 2 quarter.toNat * Nat.pow 10 (-place).toNat
  let grid := Nat.pow 10 place.toNat * Nat.pow 2 (-quarter).toNat
  let value := 4 * number.significand * unit
  let low := (4 * number.significand - if number.narrowBelow then 1 else 2) * unit
  let high := (4 * number.significand + 2) * unit
  let inside := fun point : Nat =>
    if number.significand % 2 = 0 then low ≤ point * grid ∧ point * grid ≤ high
    else low < point * grid ∧ point * grid < high
  let below := value / grid
  let above := below + 1
  let belowIsNearer : Bool :=
    2 * (value - below * grid) < grid || (2 * (value - below * grid) == grid && below % 2 == 0)
  if inside below ∧ inside above then some ⟨if belowIsNearer then below else above, place⟩
  else if inside below then some ⟨below, place⟩
  else if inside above then some ⟨above, place⟩
  else none

/-- The first grid with a point that rounds to the number, among so many grids
from a place downwards. -/
def searchGrids (number : Binary) : Nat → Int → Decimal
  | 0, place => ⟨0, place⟩
  | grids + 1, place =>
    match number.onGrid? place with
    | some decimal => decimal
    | none => searchGrids number grids (place - 1)

/-- A place that is at most two above the first digit of the number: the
logarithm is overestimated from the length of the significand. -/
def topPlace (number : Binary) : Int :=
  ((number.significand.log2 : Int) + number.exponent + 1) * 30103 / 100000 + 1

/-- The shortest decimal that reads back to the number.  Seventeen digits are
always enough, and the search starts at most three places above the first. -/
def shortest (number : Binary) : Decimal :=
  number.searchGrids 21 number.topPlace

end Binary

/-! ## Notation

A price from a hundred-thousandth up to ten to the sixteenth is written
positionally, with at least one digit on either side of the point.  Any other
has one digit before the point and an exponent.
-/

def numeralOfDecimal (negative : Bool) (decimal : Decimal) : Json.Numeral :=
  let digits := Json.Digit.ofNat decimal.coefficient
  let point := (digits.length : Int) + decimal.place
  if -4 ≤ point ∧ point ≤ 16 then
    let zeros := fun count : Int => List.replicate count.toNat (0 : Json.Digit)
    let whole := if point ≤ 0 then [0] else digits.take point.toNat ++ zeros decimal.place
    let fraction := zeros (-point) ++ digits.drop point.toNat
    ⟨negative, whole, if fraction = [] then [0] else fraction, none⟩
  else
    let power := point - 1
    ⟨negative, digits.take 1, digits.drop 1,
      some ⟨decide (power < 0), Json.Digit.ofNat power.natAbs⟩⟩

/-- A price as a value: the shortest numeral that reads back to it, `0.0` with
its sign for a zero, and null for what is no finite number. -/
def toJson (price : Price) : Json.Value :=
  if price.isFinite then
    if price.magnitude = 0 then .number ⟨price.isNegative, [0], [0], none⟩
    else .number (numeralOfDecimal price.isNegative (binary price.magnitude).shortest)
  else
    .null

end Price
end Itineraries
