import Itineraries.Time.Reading
import Itineraries.Time.Writing
import Itineraries.Proofs.Dates
import Itineraries.Proofs.Spelling

namespace Itineraries
namespace Time

/-!
# Times read as they are written

The reader of times takes much that is never written: blank characters, numbers without
their leading zeros, offsets.  What is written it takes in one way only, since every
number is either as wide as the reader looks or followed by a mark.
-/

open Json (Digit writeDigits takeDigits EndsDigits takeDigits_write)
open Text (skipBlank isBlank)

/-! ## Numbers -/

theorem toDigits_eq_write (number : Nat) :
    Nat.toDigits 10 number = writeDigits (Digit.ofNat number) := by
  have characters : ∀ digit : Digit, Nat.digitChar digit.val = digit.toChar := by decide
  fun_induction Digit.ofNat number with
  | case1 number small =>
    rw [Nat.toDigits_of_lt_base small]
    exact congrArg (fun character => [character]) (characters ⟨number, small⟩)
  | case2 number large inductionHypothesis =>
    rw [Nat.toDigits_of_base_le (by decide) (Nat.not_lt.mp large), inductionHypothesis,
      writeDigits, writeDigits, List.map_append]
    exact congrArg (fun character => _ ++ [character]) (characters ⟨number % 10, _⟩)

/-- The digits of a number behind so many zeros that they have a width. -/
def paddedDigits (width number : Nat) : List Digit :=
  List.replicate (width - (Digit.ofNat number).length) Digit.zero ++ Digit.ofNat number

theorem padded_eq_write (width number : Nat) :
    padded width number = writeDigits (paddedDigits width number) := by
  rw [padded, paddedDigits, toDigits_eq_write]
  simp only [writeDigits, List.map_append, List.map_replicate, List.length_map]
  rfl

theorem value_paddedDigits (width number : Nat) :
    Digit.value (paddedDigits width number) = number := by
  rw [paddedDigits, Digit.zero_eq, Digit.value_zeros_append, Digit.value_ofNat]

theorem paddedDigits_ne_nil (width number : Nat) : paddedDigits width number ≠ [] :=
  List.append_ne_nil_of_right_ne_nil _ (Digit.ofNat_ne_nil number)

/-- A number that is no wider than it should be is as wide as it should be. -/
theorem length_paddedDigits {width number : Nat} (positive : 0 < width)
    (bound : number < 10 ^ width) : (paddedDigits width number).length = width := by
  have short : (Digit.ofNat number).length ≤ width := by
    have digits := (Nat.length_toDigits_le_iff (by decide) positive).mpr bound
    rwa [toDigits_eq_write, writeDigits, List.length_map] at digits
  rw [paddedDigits, List.length_append, List.length_replicate]
  omega

/-! ## Parts -/

/-- A text that starts with a digit has no blank characters in front. -/
theorem skipBlank_write {digits : List Digit} (some_digits : digits ≠ []) (rest : List Char) :
    skipBlank (writeDigits digits ++ rest) = writeDigits digits ++ rest := by
  have visible : ∀ digit : Digit, isBlank digit.toChar = false := by decide
  cases digits with
  | nil => exact absurd rfl some_digits
  | cons digit digits =>
    exact List.dropWhile_cons_of_neg (ne_true_of_eq_false (visible digit))

theorem takeNumber?_padded {width number : Nat} (positive : 0 < width)
    (bound : number < 10 ^ width) (rest : List Char) :
    takeNumber? width (padded width number ++ rest) = some (number, rest) := by
  have length : (padded width number).length = width := by
    rw [padded_eq_write, writeDigits, List.length_map, length_paddedDigits positive bound]
  have digits := @takeDigits_write (paddedDigits width number) [] rfl
  rw [List.append_nil, ← padded_eq_write] at digits
  rw [takeNumber?, List.take_left' length, digits]
  dsimp only
  rw [if_neg (paddedDigits_ne_nil width number), value_paddedDigits,
    length_paddedDigits positive bound, List.drop_left' length]

/-- A number is read up to what is no digit when there is no limit to its width. -/
theorem takeNumber?_unlimited (width number : Nat) {rest : List Char} (ends : EndsDigits rest) :
    takeNumber? (padded width number ++ rest).length (padded width number ++ rest) =
      some (number, rest) := by
  have length : (padded width number).length = (paddedDigits width number).length := by
    rw [padded_eq_write, writeDigits, List.length_map]
  rw [takeNumber?, List.take_length, padded_eq_write, takeDigits_write _ ends]
  dsimp only
  rw [if_neg (paddedDigits_ne_nil width number), value_paddedDigits, ← padded_eq_write,
    List.drop_left' length]

/-- Two digits are a part of a date or of a time of day. -/
theorem takePart?_padded {number : Nat} (bound : number < 100) (rest : List Char) :
    takePart? (padded 2 number ++ rest) = some (number, rest) := by
  have part := @takeNumber?_padded 2 number (by decide) bound rest
  rw [takePart?]
  rw [padded_eq_write] at part ⊢
  rw [skipBlank_write (paddedDigits_ne_nil 2 number), part]

theorem takeMark?_cons {mark : Char} (visible : isBlank mark = false) (rest : List Char) :
    takeMark? mark (mark :: rest) = some rest := by
  have kept : skipBlank (mark :: rest) = mark :: rest :=
    List.dropWhile_cons_of_neg (ne_true_of_eq_false visible)
  rw [takeMark?, kept]
  exact if_pos rfl

/-! ## Dates -/

/-- Without a sign a year has four digits. -/
theorem takeYear?_digit (digit : Digit) (rest : List Char) :
    takeYear? (digit.toChar :: rest) =
      (takeNumber? 4 (digit.toChar :: rest)).map fun taken => ((taken.1 : Int), taken.2) := by
  have visible := skipBlank_write (List.cons_ne_nil digit []) rest
  have signs : ∀ digit : Digit, digit.toChar ≠ '-' ∧ digit.toChar ≠ '+' := by decide
  have kept : skipBlank (digit.toChar :: rest) = digit.toChar :: rest := visible
  unfold takeYear?
  rw [kept]
  split
  · rename_i same
    exact absurd (List.cons.inj same).1 (signs digit).1
  · rename_i same
    exact absurd (List.cons.inj same).1 (signs digit).2
  · rfl

/-- A year is read up to the mark behind it, with a sign or without one. -/
theorem takeYear?_write (year : Int) (rest : List Char) :
    takeYear? (writeYear year ++ '-' :: rest) = some (year, '-' :: rest) := by
  unfold writeYear
  by_cases plain : 0 ≤ year ∧ year ≤ 9999
  · have digits := @takeNumber?_padded 4 year.toNat (by decide) (by omega) ('-' :: rest)
    have year_eq : (year.toNat : Int) = year := by omega
    rw [if_pos plain]
    rw [padded_eq_write] at digits ⊢
    cases spelt : paddedDigits 4 year.toNat with
    | nil => exact absurd spelt (paddedDigits_ne_nil 4 _)
    | cons digit later =>
      rw [spelt] at digits
      have taken := takeYear?_digit digit (writeDigits later ++ '-' :: rest)
      exact taken.trans (congrArg (Option.map _) digits |>.trans
        (congrArg some (Prod.ext year_eq rfl)))
  · have digits := @takeNumber?_unlimited 4 year.natAbs ('-' :: rest) rfl
    rw [if_neg plain]
    by_cases negative : year < 0
    · have year_eq : -(year.natAbs : Int) = year := by omega
      rw [if_pos negative]
      exact (congrArg (Option.map _) digits).trans (congrArg some (Prod.ext year_eq rfl))
    · have year_eq : (year.natAbs : Int) = year := by omega
      rw [if_neg negative]
      exact (congrArg (Option.map _) digits).trans (congrArg some (Prod.ext year_eq rfl))

/-- Months and days that the calendar has are numbers of at most two digits. -/
theorem Date.Exists.narrow {date : Date} (valid : date.Exists) :
    date.month < 100 ∧ date.day < 100 := by
  rcases date with ⟨year, month, day⟩
  rcases valid with ⟨first, last⟩
  simp only at first last ⊢
  unfold monthLength at last
  split at last
  case h_13 => omega
  case h_12 => split at last <;> omega
  all_goals omega

theorem takeDate?_write {date : Date} (valid : date.Exists) (rest : List Char) :
    takeDate? (date.write ++ rest) = some (date, rest) := by
  rcases valid.narrow with ⟨month, day⟩
  have written : date.write ++ rest =
      writeYear date.year ++
        '-' :: (padded 2 date.month ++ '-' :: (padded 2 date.day ++ rest)) := by
    simp only [Date.write, List.append_assoc, List.cons_append]
  rw [written, takeDate?, takeYear?_write]
  simp only [Option.bind_eq_bind, Option.bind_some,
    takeMark?_cons (show isBlank '-' = false by rfl), takePart?_padded month, takePart?_padded day]
  exact if_pos valid

/-! ## Times of day -/

/-- Nine digits or fewer are read as a part of a second. -/
theorem takeNanos?_padded (width : Nat) {part : Nat} (positive : 0 < width) (most : width ≤ 9)
    (bound : part < 10 ^ width) {rest : List Char} (ends : EndsDigits rest) :
    takeNanos? ('.' :: padded width part ++ rest) = some (part * 10 ^ (9 - width), rest) := by
  have length := length_paddedDigits positive bound
  have nanos : nanosOfDigits (paddedDigits width part) = part * 10 ^ (9 - width) := by
    rw [nanosOfDigits, List.take_of_length_le (length.trans_le most), value_paddedDigits, length]
    rfl
  rw [List.cons_append, takeNanos?, padded_eq_write, takeDigits_write _ ends, ← nanos]
  cases spelt : paddedDigits width part with
  | nil => exact absurd spelt (paddedDigits_ne_nil width part)
  | cons digit digits => rfl

theorem takeNanos?_write {nano : Nat} (bound : nano < nanosPerSecond) (rest : List Char) :
    takeNanos? (writeNanos nano ++ 'Z' :: rest) = some (nano, 'Z' :: rest) := by
  have bound : nano < 1000000000 := bound
  have ends : EndsDigits ('Z' :: rest) := rfl
  unfold writeNanos
  by_cases whole : nano = 0
  · rw [if_pos whole, whole]
    rfl
  · rw [if_neg whole]
    by_cases milli : nano % 1000000 = 0
    · rw [if_pos milli, takeNanos?_padded 3 (by decide) (by decide) (by omega) ends]
      exact congrArg some (Prod.ext (Nat.div_mul_cancel (Nat.dvd_of_mod_eq_zero milli)) rfl)
    · rw [if_neg milli]
      by_cases micro : nano % 1000 = 0
      · rw [if_pos micro, takeNanos?_padded 6 (by decide) (by decide) (by omega) ends]
        exact congrArg some (Prod.ext (Nat.div_mul_cancel (Nat.dvd_of_mod_eq_zero micro)) rfl)
      · rw [if_neg micro, takeNanos?_padded 9 (by decide) (by decide) bound ends]
        exact congrArg some (Prod.ext (Nat.mul_one nano) rfl)

namespace Instant

/-- The hours, minutes and seconds of an instant as they are written. -/
def writeClock (instant : Instant) : List Char :=
  let leap := if instant.isLeap then 1 else 0
  padded 2 (instant.second / 3600) ++ ':' :: padded 2 (instant.second / 60 % 60) ++
    ':' :: padded 2 (instant.second % 60 + leap) ++
      writeNanos (instant.nano - leap * nanosPerSecond)

theorem write_eq (instant : Instant) :
    instant.write = (Date.ofDay instant.day).write ++ 'T' :: (instant.writeClock ++ ['Z']) := by
  simp only [write, writeClock, List.append_assoc, List.cons_append]

theorem takeTimeOfDay?_parts {hour minute second nano : Nat} (hours : hour < 24)
    (minutes : minute < 60) (seconds : second ≤ 60) (nanos : nano < nanosPerSecond)
    (rest : List Char) :
    takeTimeOfDay? (padded 2 hour ++ ':' :: (padded 2 minute ++ ':' :: (padded 2 second ++
      (writeNanos nano ++ 'Z' :: rest)))) =
        some (if second = 60 then (hour * 3600 + minute * 60 + 59, nanosPerSecond + nano)
          else (hour * 3600 + minute * 60 + second, nano), 'Z' :: rest) := by
  have visible : isBlank ':' = false := rfl
  rw [takeTimeOfDay?, takePart?_padded (by omega)]
  simp only [Option.bind_eq_bind, Option.bind_some, takeMark?_cons visible,
    takePart?_padded (show minute < 100 by omega), takePart?_padded (show second < 100 by omega),
    takeNanos?_write nanos]
  rw [if_pos ⟨hours, minutes, seconds⟩]
  split <;> rfl

/-- A time of day is read as it was written, a leap second as the second 60. -/
theorem takeTimeOfDay?_write (instant : Instant) (rest : List Char) :
    takeTimeOfDay? (instant.writeClock ++ 'Z' :: rest) =
      some ((instant.second, instant.nano), 'Z' :: rest) := by
  have day : instant.second < 86400 := instant.second_lt
  have nanos : instant.nano < 2 * 1000000000 := instant.nano_lt
  have ends_minute : 1000000000 ≤ instant.nano → instant.second % 60 = 59 :=
    instant.leap_ends_minute
  simp only [writeClock, List.append_assoc, List.cons_append, isLeap, decide_eq_true_eq]
  by_cases leap : nanosPerSecond ≤ instant.nano
  · have last := ends_minute leap
    have late : 1000000000 ≤ instant.nano := leap
    simp only [if_pos leap, Nat.one_mul]
    rw [takeTimeOfDay?_parts (by omega) (by omega) (by omega) (by
      rw [nanosPerSecond]
      omega), last, if_pos rfl, nanosPerSecond]
    exact congrArg some (Prod.ext (Prod.ext (by simp only; omega) (by simp only; omega)) rfl)
  · simp only [if_neg leap, Nat.zero_mul, Nat.sub_zero, Nat.add_zero]
    rw [takeTimeOfDay?_parts (by omega) (by omega) (by omega) (Nat.not_le.mp leap),
      if_neg (by omega)]
    exact congrArg some (Prod.ext (Prod.ext (by simp only; omega) rfl) rfl)

theorem ofText?_write (instant : Instant) : ofText? instant.write = some instant := by
  have separator (rest : List Char) : takeSeparator? ('T' :: rest) = some rest := rfl
  have zulu : takeOffset? ['Z'] = some (0, []) := rfl
  have valid : (firstDay ≤ instant.day ∧ instant.day ≤ lastDay) ∧
      instant.second < secondsPerDay ∧ instant.nano < 2 * nanosPerSecond ∧
        (nanosPerSecond ≤ instant.nano → instant.second % 60 = 59) :=
    ⟨⟨instant.firstDay_le, instant.le_lastDay⟩, instant.second_lt, instant.nano_lt,
      instant.leap_ends_minute⟩
  have second : instant.second < 86400 := instant.second_lt
  rw [write_eq, ofText?, takeDate?_write (Date.exists_ofDay instant.day)]
  simp only [Option.bind_eq_bind, Option.bind_some, separator, takeTimeOfDay?_write, zulu]
  rw [if_pos (show skipBlank [] = [] by rfl), Date.toDay_ofDay, ofLocal?, if_pos valid.1]
  have days : ((instant.second : Int) - 60 * 0) / secondsPerDay = 0 := by
    rw [secondsPerDay]
    omega
  have seconds : (((instant.second : Int) - 60 * 0) % secondsPerDay).toNat = instant.second := by
    rw [secondsPerDay]
    omega
  dsimp only
  rw [days, seconds, Int.add_zero, ofParts?, dif_pos valid]

theorem ofJson?_render (instant : Instant) :
    ofJson? (.ofString instant.render) = some instant := by
  rw [ofJson?, Json.Value.ofString, Json.Value.text?, Option.bind_some, render,
    String.toList_ofList, ofText?_write]

end Instant
end Time
end Itineraries
