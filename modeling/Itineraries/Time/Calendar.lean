namespace Itineraries
namespace Time

/-!
# The calendar

Days are numbered from 1970-01-01, which is day zero, by the Gregorian calendar
continued in both directions.  The count goes through years that begin in
March, so that the leap day, if there is one, is the last day of its year, and
through cycles of four hundred years, after which the calendar repeats.
-/

/-- A calendar date.  The year before year 1 is year 0. -/
structure Date where
  year : Int
  month : Nat
  day : Nat
deriving DecidableEq, Repr

def isLeapYear (year : Int) : Bool :=
  year % 4 == 0 && (year % 100 != 0 || year % 400 == 0)

/-- The number of days of a month; numbers beyond the twelfth name no month and
have none. -/
def monthLength (year : Int) (month : Nat) : Nat :=
  match month with
  | 1 | 3 | 5 | 7 | 8 | 10 | 12 => 31
  | 4 | 6 | 9 | 11 => 30
  | 2 => if isLeapYear year then 29 else 28
  | _ => 0

namespace Date

def Exists (date : Date) : Prop :=
  1 ≤ date.day ∧ date.day ≤ monthLength date.year date.month

instance (date : Date) : Decidable date.Exists :=
  inferInstanceAs (Decidable (_ ∧ _))

/-- The number of days in the four hundred years after which the calendar
repeats. -/
def cycleDays : Int := 146097

/-- The day zero of the count, measured from the first of March of year 0. -/
def epoch : Int := 719468

def toDay (date : Date) : Int :=
  -- months are counted from March, with January and February in the year before
  let month : Int := (date.month + 9) % 12
  let year : Int := if date.month ≤ 2 then date.year - 1 else date.year
  let cycle := year / 400
  let yearOfCycle := year % 400
  let dayOfYear := (153 * month + 2) / 5 + date.day - 1
  cycle * cycleDays + (yearOfCycle * 365 + yearOfCycle / 4 - yearOfCycle / 100 + dayOfYear) - epoch

def ofDay (day : Int) : Date :=
  let shifted := day + epoch
  let cycle := shifted / cycleDays
  let dayOfCycle := shifted % cycleDays
  -- the leap days that have passed are taken out before years are counted
  let yearOfCycle :=
    (dayOfCycle - dayOfCycle / 1460 + dayOfCycle / 36524 - dayOfCycle / 146096) / 365
  let dayOfYear := dayOfCycle - (365 * yearOfCycle + yearOfCycle / 4 - yearOfCycle / 100)
  let month := (5 * dayOfYear + 2) / 153
  let dayOfMonth := dayOfYear - (153 * month + 2) / 5 + 1
  { year := cycle * 400 + yearOfCycle + (if month < 10 then 0 else 1)
    month := (if month < 10 then month + 3 else month - 9).toNat
    day := dayOfMonth.toNat }

end Date
end Time
end Itineraries
