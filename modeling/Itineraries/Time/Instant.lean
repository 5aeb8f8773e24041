import Itineraries.Time.Calendar

namespace Itineraries
namespace Time

/-!
# Instants

An instant is a day, a second of that day and a part of that second in
nanoseconds, all in universal time.  A leap second has no number of its own: it
is the last second of its minute with a part of one whole second or more.  It
thus lies behind every other instant of that second and before the next second.

The days that an instant can have form a fixed range of about half a million
years.
-/

/-- The first day that can be represented, 1 January of year -262143. -/
def firstDay : Int := -96465292

/-- The last day that can be represented, 31 December of year 262142. -/
def lastDay : Int := 95026236

example : (Date.mk (-262143) 1 1).toDay = firstDay := by decide

example : (Date.mk 262142 12 31).toDay = lastDay := by decide

def nanosPerSecond : Nat := 1000000000

def secondsPerDay : Nat := 86400

/-- A point in time.  Only the last second of a minute can be a leap second. -/
structure Instant where
  day : Int
  second : Nat
  nano : Nat
  firstDay_le : firstDay ≤ day
  le_lastDay : day ≤ lastDay
  second_lt : second < secondsPerDay
  nano_lt : nano < 2 * nanosPerSecond
  leap_ends_minute : nanosPerSecond ≤ nano → second % 60 = 59
deriving DecidableEq, Repr

namespace Instant

/-- The instant with these parts, if there is one. -/
def ofParts? (day : Int) (second nano : Nat) : Option Instant :=
  if valid : (firstDay ≤ day ∧ day ≤ lastDay) ∧ second < secondsPerDay ∧
      nano < 2 * nanosPerSecond ∧ (nanosPerSecond ≤ nano → second % 60 = 59) then
    some ⟨day, second, nano, valid.1.1, valid.1.2, valid.2.1, valid.2.2.1, valid.2.2.2⟩
  else
    none

def isLeap (instant : Instant) : Bool :=
  decide (nanosPerSecond ≤ instant.nano)

/-- The place of an instant on a line on which every second has room for a leap
second behind it.  Places order instants; differences of places mean nothing. -/
def place (instant : Instant) : Int :=
  (instant.day * secondsPerDay + instant.second) * (2 * nanosPerSecond) + instant.nano

instance : LE Instant where
  le first second := first.place ≤ second.place

instance : LT Instant where
  lt first second := first.place < second.place

instance (first second : Instant) : Decidable (first ≤ second) :=
  inferInstanceAs (Decidable (first.place ≤ second.place))

instance (first second : Instant) : Decidable (first < second) :=
  inferInstanceAs (Decidable (first.place < second.place))

theorem place_injective {first second : Instant} (same : first.place = second.place) :
    first = second := by
  have firstSecond := first.second_lt
  have secondSecond := second.second_lt
  have firstNano := first.nano_lt
  have secondNano := second.nano_lt
  simp only [place, secondsPerDay, nanosPerSecond] at *
  have days : first.day = second.day := by omega
  have seconds : first.second = second.second := by omega
  have nanos : first.nano = second.nano := by omega
  cases first
  cases second
  simp only at days seconds nanos
  subst days seconds nanos
  rfl

/-- The instant so many minutes later, if it can be represented.  No minutes
change nothing.  Otherwise a leap second counts as the second it follows, and
no leap second is met on the way. -/
def addMinutes? (instant : Instant) (minutes : Nat) : Option Instant :=
  if minutes = 0 then
    some instant
  else
    let total := instant.second + 60 * minutes
    ofParts? (instant.day + (total / secondsPerDay : Nat)) (total % secondsPerDay)
      (if instant.isLeap then instant.nano - nanosPerSecond else instant.nano)

/-- The time from an earlier instant to a later one in nanoseconds, negative if
they stand the other way round.  A leap second is one second long, and it is
known of the two ends only: it counts in full when one of them lies in it and
the other's second of the day is on the far side. -/
def nanosSince (later earlier : Instant) : Int :=
  let seconds := (later.day - earlier.day) * secondsPerDay + (later.second - earlier.second : Int)
  let leap : Int :=
    if earlier.second < later.second then (if earlier.isLeap then 1 else 0)
    else if later.second < earlier.second then (if later.isLeap then -1 else 0)
    else 0
  (seconds + leap) * nanosPerSecond + (later.nano - earlier.nano : Int)

/-- The whole minutes from an earlier instant to a later one, cut off towards
zero. -/
def minutesSince (later earlier : Instant) : Int :=
  (later.nanosSince earlier).tdiv (60 * nanosPerSecond)

end Instant
end Time
end Itineraries
