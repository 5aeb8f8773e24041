import Itineraries.Json.Record
import Itineraries.Json.Token
import Itineraries.Text.Blank
import Itineraries.Time.Instant

namespace Itineraries
namespace Time

/-!
# Reading a time

The form is date, one separator, time of day, offset from universal time.  It
is read generously: numbers need no leading zeros, and blank characters may
stand in front of every number, every mark between numbers and the offset, and
at the end.  Only the separator between date and time is exactly one character,
a `T` in either case or a space.
-/

open Text (skipBlank)

/-- The number at the front of a text, of at least one digit and at most so
many. -/
def takeNumber? (most : Nat) (text : List Char) : Option (Nat × List Char) :=
  let digits := (Json.takeDigits (text.take most)).1
  if digits = [] then none else some (Json.Digit.value digits, text.drop digits.length)

/-- A number of one or two digits, after blank characters. -/
def takePart? (text : List Char) : Option (Nat × List Char) :=
  takeNumber? 2 (skipBlank text)

/-- A mark, after blank characters. -/
def takeMark? (mark : Char) (text : List Char) : Option (List Char) :=
  match skipBlank text with
  | first :: rest => if first = mark then some rest else none
  | [] => none

/-- A year, after blank characters: four digits at most, or a sign and any
number of digits. -/
def takeYear? (text : List Char) : Option (Int × List Char) :=
  match skipBlank text with
  | '-' :: rest => (takeNumber? rest.length rest).map fun taken => (-(taken.1 : Int), taken.2)
  | '+' :: rest => (takeNumber? rest.length rest).map fun taken => ((taken.1 : Int), taken.2)
  | rest => (takeNumber? 4 rest).map fun taken => ((taken.1 : Int), taken.2)

def takeDate? (text : List Char) : Option (Date × List Char) := do
  let (year, rest) ← takeYear? text
  let rest ← takeMark? '-' rest
  let (month, rest) ← takePart? rest
  let rest ← takeMark? '-' rest
  let (day, rest) ← takePart? rest
  let date : Date := ⟨year, month, day⟩
  if date.Exists then some (date, rest) else none

/-- The one character between date and time of day. -/
def takeSeparator? : List Char → Option (List Char)
  | 'T' :: rest => some rest
  | 't' :: rest => some rest
  | ' ' :: rest => some rest
  | _ => none

/-- The nanoseconds that the digits behind a decimal point denote.  Nine digits
count; fewer are filled up with zeros. -/
def nanosOfDigits (digits : List Json.Digit) : Nat :=
  Json.Digit.value (digits.take 9) * Nat.pow 10 (9 - digits.length)

/-- The part of a second: nothing, or a point and at least one digit. -/
def takeNanos? : List Char → Option (Nat × List Char)
  | '.' :: rest =>
    match Json.takeDigits rest with
    | ([], _) => none
    | (digits, rest) => some (nanosOfDigits digits, rest)
  | text => some (0, text)

/-- A time of day as a second of the day and nanoseconds.  Second 60 may end
any minute: it is second 59 with a whole second more. -/
def takeTimeOfDay? (text : List Char) : Option ((Nat × Nat) × List Char) := do
  let (hour, rest) ← takePart? text
  let rest ← takeMark? ':' rest
  let (minute, rest) ← takePart? rest
  let rest ← takeMark? ':' rest
  let (second, rest) ← takePart? rest
  let (nano, rest) ← takeNanos? rest
  if hour < 24 ∧ minute < 60 ∧ second ≤ 60 then
    if second = 60 then
      some ((hour * 3600 + minute * 60 + 59, nanosPerSecond + nano), rest)
    else
      some ((hour * 3600 + minute * 60 + second, nano), rest)
  else
    none

def takePair? : List Char → Option (Nat × List Char)
  | tens :: units :: rest => do
    let tens ← Json.Digit.ofChar? tens
    let units ← Json.Digit.ofChar? units
    return (10 * tens.val + units.val, rest)
  | _ => none

/-- The minutes of an offset behind its sign.  Between hours and minutes any
colons and blank characters may stand, or nothing.  An offset is less than a
day. -/
def takeOffsetMinutes? (text : List Char) : Option (Nat × List Char) := do
  let (hours, rest) ← takePair? text
  let (minutes, rest) ← takePair? (rest.dropWhile fun character =>
    character == ':' || Text.isBlank character)
  if hours < 24 ∧ minutes < 60 then some (60 * hours + minutes, rest) else none

/-- An offset from universal time in minutes, after blank characters.  The
minus sign may be the typographic one. -/
def takeOffset? (text : List Char) : Option (Int × List Char) :=
  match skipBlank text with
  | 'Z' :: rest => some (0, rest)
  | 'z' :: rest => some (0, rest)
  | '+' :: rest => (takeOffsetMinutes? rest).map fun taken => ((taken.1 : Int), taken.2)
  | '-' :: rest => (takeOffsetMinutes? rest).map fun taken => (-(taken.1 : Int), taken.2)
  | '−' :: rest => (takeOffsetMinutes? rest).map fun taken => (-(taken.1 : Int), taken.2)
  | first :: second :: third :: rest =>
    if first.toUpper = 'U' ∧ second.toUpper = 'T' ∧ third.toUpper = 'C' then some (0, rest) else none
  | _ => none

namespace Instant

/-- The instant at which a clock with an offset shows a second of a day.  The
offset is in whole minutes, so a leap second stays at the end of a minute.  The
day that the clock shows must be in range as well. -/
def ofLocal? (day : Int) (second nano : Nat) (offset : Int) : Option Instant :=
  if firstDay ≤ day ∧ day ≤ lastDay then
    let total := (second : Int) - 60 * offset
    ofParts? (day + total / secondsPerDay) (total % secondsPerDay).toNat nano
  else
    none

def ofText? (text : List Char) : Option Instant := do
  let (date, rest) ← takeDate? text
  let rest ← takeSeparator? rest
  let ((second, nano), rest) ← takeTimeOfDay? rest
  let (offset, rest) ← takeOffset? rest
  if skipBlank rest = [] then ofLocal? date.toDay second nano offset else none

def ofJson? (value : Json.Value) : Option Instant :=
  value.text?.bind fun text => ofText? text.toList

end Instant
end Time
end Itineraries
