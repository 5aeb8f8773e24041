namespace Itineraries
namespace Json

/-!
# JSON values

A number is kept as it is spelt, since what it means depends on where it
stands: a count must be an integer, a price may be any number.  A string
literal may hold the escape of a lone surrogate and then spells no text; it is
kept as a literal without text, because such literals are harmless in the
parts of a document that nobody reads.  An object keeps its members in order,
repeated keys included.
-/

abbrev Digit := Fin 10

namespace Digit

def ofChar? (character : Char) : Option Digit :=
  if bound : '0'.toNat ≤ character.toNat ∧ character.toNat ≤ '9'.toNat then
    some ⟨character.toNat - '0'.toNat, by
      have low : '0'.toNat = 48 := rfl
      have high : '9'.toNat = 57 := rfl
      omega⟩
  else
    none

def toChar (digit : Digit) : Char :=
  Char.ofNat ('0'.toNat + digit.val)

theorem ofChar?_toChar (digit : Digit) : ofChar? digit.toChar = some digit := by
  revert digit
  decide

/-- The number that a row of digits denotes, most significant digit first. -/
def value (digits : List Digit) : Nat :=
  digits.foldl (fun total digit => 10 * total + digit.val) 0

/-- The digits of a number, most significant first; zero has one digit. -/
def ofNat (number : Nat) : List Digit :=
  if small : number < 10 then
    [⟨number, small⟩]
  else
    ofNat (number / 10) ++ [⟨number % 10, Nat.mod_lt _ (by decide)⟩]
termination_by number

end Digit

/-- The part of a number after `e`.  A plus sign is not recorded: it changes
nothing. -/
structure Exponent where
  negative : Bool
  digits : List Digit
deriving DecidableEq, Repr

def Exponent.value (exponent : Exponent) : Int :=
  if exponent.negative then -(Digit.value exponent.digits : Int) else Digit.value exponent.digits

/-- A number as it is spelt.  An absent fraction and an absent exponent are
told apart from present ones: `1`, `1.0` and `1e0` are three numerals. -/
structure Numeral where
  negative : Bool
  whole : List Digit
  fraction : List Digit
  exponent : Option Exponent
deriving DecidableEq, Repr

namespace Numeral

def ofInt (number : Int) : Numeral where
  negative := decide (number < 0)
  whole := Digit.ofNat number.natAbs
  fraction := []
  exponent := none

/-- The integer that a numeral spells.  A fraction or an exponent makes it no
integer, whatever its value, and neither is minus zero one. -/
def integer? (numeral : Numeral) : Option Int :=
  if numeral.fraction = [] ∧ numeral.exponent = none then
    let magnitude := Digit.value numeral.whole
    if numeral.negative then
      if magnitude = 0 then none else some (-(magnitude : Int))
    else
      some magnitude
  else
    none

end Numeral

/-- The text that a string literal spells, or `none` if an escape in it names
half of a surrogate pair. -/
abbrev Literal := Option String

/-- A JSON document or a part of one. -/
inductive Value where
  | null
  | bool (value : Bool)
  | number (numeral : Numeral)
  | string (literal : Literal)
  | array (items : List Value)
  | object (members : List (Literal × Value))
deriving Repr

namespace Value

instance : Inhabited Value :=
  ⟨null⟩

def ofString (text : String) : Value :=
  string (some text)

def ofInt (number : Int) : Value :=
  .number (Numeral.ofInt number)

def ofNat (number : Nat) : Value :=
  ofInt number

/-- An object with readable keys. -/
def ofMembers (members : List (String × Value)) : Value :=
  object (members.map fun member => (some member.1, member.2))

end Value
end Json
end Itineraries
