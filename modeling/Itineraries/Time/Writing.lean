import Itineraries.Time.Instant

namespace Itineraries
namespace Time

/-!
# Writing a time

A time is written in universal time with a `Z` behind it.  The part of a second
has no digits, three, six or nine, whichever is the least exact number.  A leap
second is second 60.  A year of four digits has no sign; any other has one, and
four digits at least.
-/

def padded (width number : Nat) : List Char :=
  let digits := Nat.toDigits 10 number
  List.replicate (width - digits.length) '0' ++ digits

def writeYear (year : Int) : List Char :=
  if 0 ≤ year ∧ year ≤ 9999 then padded 4 year.toNat
  else (if year < 0 then '-' else '+') :: padded 4 year.natAbs

def Date.write (date : Date) : List Char :=
  writeYear date.year ++ '-' :: padded 2 date.month ++ '-' :: padded 2 date.day

/-- The part of a second below one second, in nanoseconds. -/
def writeNanos (nano : Nat) : List Char :=
  if nano = 0 then []
  else if nano % 1000000 = 0 then '.' :: padded 3 (nano / 1000000)
  else if nano % 1000 = 0 then '.' :: padded 6 (nano / 1000)
  else '.' :: padded 9 nano

namespace Instant

def write (instant : Instant) : List Char :=
  let leap := if instant.isLeap then 1 else 0
  (Date.ofDay instant.day).write ++ 'T' :: padded 2 (instant.second / 3600) ++
    ':' :: padded 2 (instant.second / 60 % 60) ++ ':' :: padded 2 (instant.second % 60 + leap) ++
      writeNanos (instant.nano - leap * nanosPerSecond) ++ ['Z']

def render (instant : Instant) : String :=
  String.ofList instant.write

end Instant
end Time
end Itineraries
