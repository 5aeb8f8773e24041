import Itineraries.Json.Value

namespace Itineraries
namespace Json

/-!
# Records

A record has fields with fixed names in a fixed order.  It may be written as an
object, whose unknown members are ignored whatever they hold, or as an array of
the first so many fields.  A field given twice and an item too many are
faults.
-/

/-- The fields that a document gives, each at most once. -/
abbrev Record := List (String × Value)

namespace Value

/-- The fields that a document gives of a record with these names. -/
def record? (names : List String) : Value → Option Record
  | .array items => if items.length ≤ names.length then some (names.zip items) else none
  | .object members => do
    let readable ← members.mapM fun member => member.1.map (·, member.2)
    let known := readable.filter fun member => names.contains member.1
    if (known.map (·.1)).Nodup then some known else none
  | _ => none

/-- The text of a string literal that spells one. -/
def text? : Value → Option String
  | .string literal => literal
  | _ => none

def bool? : Value → Option Bool
  | .bool value => some value
  | _ => none

def list? {α : Type} (decode : Value → Option α) : Value → Option (List α)
  | .array items => items.mapM decode
  | _ => none

/-- What a value decodes to, where null stands for nothing. -/
def nullable? {α : Type} (decode : Value → Option α) : Value → Option (Option α)
  | .null => some none
  | value => (decode value).map some

/-- An integer without sign that fits in so many bits. -/
def unsigned? (bits : Nat) : Value → Option Nat
  | .number numeral => numeral.integer?.bind fun number =>
    if 0 ≤ number ∧ number < Nat.pow 2 bits then some number.toNat else none
  | _ => none

/-- An integer that fits in sixty-four bits, one of them for the sign. -/
def signed? : Value → Option Int
  | .number numeral => numeral.integer?.bind fun number =>
    if -0x8000000000000000 ≤ number ∧ number < 0x8000000000000000 then some number else none
  | _ => none

end Value

namespace Record

def required? {α : Type} (record : Record) (name : String) (decode : Value → Option α) : Option α :=
  (record.lookup name).bind decode

/-- A field that stands at a default when it is not given.  A field that is
given and does not decode is a fault all the same. -/
def optional? {α : Type} (record : Record) (name : String) (default : α)
    (decode : Value → Option α) : Option α :=
  match record.lookup name with
  | some value => decode value
  | none => some default

end Record
end Json
end Itineraries
