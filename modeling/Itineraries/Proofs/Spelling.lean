import Mathlib.Data.List.Induction
import Mathlib.Tactic.Linarith
import Mathlib.Tactic.Ring
import Itineraries.Json.Token
import Itineraries.Json.Writer

namespace Itineraries
namespace Json

/-!
# Numbers and strings read as they are written

A token ends where the next character cannot continue it.  Only numbers depend on
what follows them, and in a document a space or one of three marks follows a number.  So a
writer and the reader of tokens can be compared piece by piece: each piece is read back,
and what stands behind it is left over.
-/

def EndsDigits (text : List Char) : Prop :=
  text.head?.bind Digit.ofChar? = none

/-- Whether a text is empty or starts with something that can follow a value. -/
def IsDelimited (text : List Char) : Prop :=
  ∀ first ∈ text.head?, isSpace first = true ∨ first = ',' ∨ first = ']' ∨ first = '}'

theorem IsDelimited.nil : IsDelimited [] :=
  nofun

theorem IsDelimited.cons {first : Char} (mark : first = ',' ∨ first = ']' ∨ first = '}')
    (rest : List Char) : IsDelimited (first :: rest) := by
  intro head found
  rw [List.head?_cons, Option.mem_some_iff] at found
  exact found ▸ Or.inr mark

/-- Spaces in front only help. -/
theorem IsDelimited.append {spaces text : List Char}
    (blank : ∀ character ∈ spaces, isSpace character = true) (delimited : IsDelimited text) :
    IsDelimited (spaces ++ text) := by
  cases spaces with
  | nil => exact delimited
  | cons space spaces =>
    intro head found
    rw [List.cons_append, List.head?_cons, Option.mem_some_iff] at found
    exact found ▸ Or.inl (blank space List.mem_cons_self)

theorem eq_of_isSpace {character : Char} (space : isSpace character = true) :
    character = ' ' ∨ character = '\t' ∨ character = '\n' ∨ character = '\r' := by
  simpa [isSpace, or_assoc] using space

/-- What can follow a value is no digit, no point and no exponent mark. -/
theorem IsDelimited.cases {text : List Char} (delimited : IsDelimited text) :
    text = [] ∨ ∃ first rest, text = first :: rest ∧ Digit.ofChar? first = none ∧
      first ≠ '.' ∧ first ≠ 'e' ∧ first ≠ 'E' := by
  cases text with
  | nil => exact Or.inl rfl
  | cons first rest =>
    refine Or.inr ⟨first, rest, rfl, ?_⟩
    rcases delimited first rfl with space | rfl | rfl | rfl
    · rcases eq_of_isSpace space with rfl | rfl | rfl | rfl <;> decide
    all_goals decide

theorem IsDelimited.endsDigits {text : List Char} (delimited : IsDelimited text) :
    EndsDigits text := by
  rcases delimited.cases with rfl | ⟨first, rest, rfl, stop, -⟩
  · rfl
  · exact stop

/-! ## Digits -/

namespace Digit

theorem zero_lt : 0 < 10 := by
  decide

def zero : Digit :=
  ⟨0, zero_lt⟩

theorem zero_eq : zero = 0 :=
  rfl

theorem value_concat (digits : List Digit) (digit : Digit) :
    value (digits ++ [digit]) = 10 * value digits + digit.val := by
  rw [value, List.foldl_append]
  rfl

/-- A digit more in front moves no other. -/
theorem value_append (front back : List Digit) :
    value (front ++ back) = value front * 10 ^ back.length + value back := by
  induction back using List.reverseRecOn with
  | nil => rw [List.append_nil]; exact (Nat.mul_one _).symm
  | append_singleton back digit inductionHypothesis =>
    rw [← List.append_assoc, value_concat, inductionHypothesis, value_concat,
      List.length_append, List.length_singleton, pow_succ]
    ring

theorem value_cons (digit : Digit) (digits : List Digit) :
    value (digit :: digits) = digit.val * 10 ^ digits.length + value digits := by
  have front : value [digit] = digit.val := Nat.zero_add _
  rw [← List.singleton_append, value_append, front]

/-- A number is less than the power of ten with as many zeros as it has digits. -/
theorem value_lt (digits : List Digit) : value digits < 10 ^ digits.length := by
  induction digits with
  | nil => exact Nat.one_pos
  | cons digit digits inductionHypothesis =>
    have room : (digit.val + 1) * 10 ^ digits.length ≤ 10 * 10 ^ digits.length :=
      Nat.mul_le_mul_right _ digit.isLt
    rw [value_cons, List.length_cons, pow_succ]
    linarith

theorem value_replicate_zero (count : Nat) : value (List.replicate count 0) = 0 := by
  induction count with
  | zero => rfl
  | succ count inductionHypothesis =>
    rw [List.replicate_succ', value_concat, inductionHypothesis]
    rfl

theorem value_ofNat (number : Nat) : value (ofNat number) = number := by
  fun_induction ofNat number with
  | case1 number small => exact Nat.zero_add _
  | case2 number large inductionHypothesis =>
    rw [value_concat, inductionHypothesis]
    exact Nat.div_add_mod number 10

theorem ofNat_ne_nil (number : Nat) : ofNat number ≠ [] := by
  unfold ofNat
  split
  · exact List.cons_ne_nil _ _
  · exact List.append_ne_nil_of_right_ne_nil _ (List.cons_ne_nil _ _)

theorem ofNat_eq_zero_cons {number : Nat} {digits : List Digit}
    (spelt : ofNat number = 0 :: digits) : number = 0 ∧ digits = [] := by
  fun_induction ofNat number generalizing digits with
  | case1 number small =>
    rw [List.cons.injEq, Fin.ext_iff] at spelt
    exact ⟨spelt.1, spelt.2.symm⟩
  | case2 number large inductionHypothesis =>
    rcases List.append_eq_cons_iff.mp spelt with ⟨empty, -⟩ | ⟨front, whole, -⟩
    · exact absurd empty (ofNat_ne_nil _)
    · have smaller := (inductionHypothesis whole).1
      omega

theorem toChar_ne_minus (digit : Digit) : digit.toChar ≠ '-' := by
  revert digit
  decide

theorem isSpace_toChar (digit : Digit) : isSpace digit.toChar = false := by
  revert digit
  decide

/-- A digit starts no token but a number. -/
theorem toChar_ne_mark (digit : Digit) :
    digit.toChar ≠ '[' ∧ digit.toChar ≠ ']' ∧ digit.toChar ≠ '{' ∧ digit.toChar ≠ '}' ∧
      digit.toChar ≠ ',' ∧ digit.toChar ≠ ':' ∧ digit.toChar ≠ '"' ∧ digit.toChar ≠ 'n' ∧
        digit.toChar ≠ 't' ∧ digit.toChar ≠ 'f' := by
  revert digit
  decide

theorem value_zeros_append (count : Nat) (digits : List Digit) :
    value (List.replicate count 0 ++ digits) = value digits := by
  rw [value_append, value_replicate_zero, Nat.zero_mul, Nat.zero_add]

/-- Zeros behind make a number greater by a power of ten. -/
theorem value_append_zeros (digits : List Digit) (count : Nat) :
    value (digits ++ List.replicate count 0) = value digits * 10 ^ count := by
  rw [value_append, value_replicate_zero, List.length_replicate, Nat.add_zero]

end Digit

theorem takeDigits_write (digits : List Digit) {rest : List Char} (ends : EndsDigits rest) :
    takeDigits (writeDigits digits ++ rest) = (digits, rest) := by
  induction digits with
  | nil =>
    cases rest with
    | nil => rfl
    | cons first rest =>
      have none : Digit.ofChar? first = none := ends
      rw [writeDigits, List.map_nil, List.nil_append, takeDigits, none]
  | cons digit digits inductionHypothesis =>
    rw [writeDigits, List.map_cons, List.cons_append, takeDigits, Digit.ofChar?_toChar]
    exact congrArg (fun taken => (digit :: taken.1, taken.2)) inductionHypothesis

/-! ## Numbers -/

/-- A fraction behind its point, or nothing. -/
def writeFraction (digits : List Digit) : List Char :=
  if digits = [] then [] else '.' :: writeDigits digits

def writeExponent : Option Exponent → List Char
  | none => []
  | some exponent => exponent.write

namespace Numeral

theorem write_eq (numeral : Numeral) :
    numeral.write = (if numeral.negative then ['-'] else []) ++
      (writeDigits numeral.whole ++
        (writeFraction numeral.fraction ++ writeExponent numeral.exponent)) := by
  rw [write, List.append_assoc, List.append_assoc]
  rfl

/-- Whether a number is spelt as the grammar demands: with digits before the point, no
zero in front of others, and digits in an exponent. -/
structure IsStrict (numeral : Numeral) : Prop where
  whole_ne_nil : numeral.whole ≠ []
  zero_alone : ∀ digits, numeral.whole = 0 :: digits → digits = []
  exponent_ne_nil : ∀ exponent ∈ numeral.exponent, exponent.digits ≠ []

theorem isStrict_ofInt (number : Int) : (ofInt number).IsStrict where
  whole_ne_nil := Digit.ofNat_ne_nil _
  zero_alone _ spelt := (Digit.ofNat_eq_zero_cons spelt).2
  exponent_ne_nil := nofun

theorem integer?_ofInt (number : Int) : (ofInt number).integer? = some number := by
  rw [integer?, if_pos ⟨rfl, rfl⟩]
  simp only [ofInt, Digit.value_ofNat]
  by_cases negative : number < 0
  · rw [if_pos (decide_eq_true negative), if_neg (by omega)]
    exact congrArg some (by omega)
  · rw [if_neg (by simpa using negative)]
    exact congrArg some (by omega)

theorem takeWhole?_write {digits : List Digit} (some_digits : digits ≠ [])
    (zero_alone : ∀ later, digits = 0 :: later → later = []) {rest : List Char}
    (ends : EndsDigits rest) : takeWhole? (writeDigits digits ++ rest) = some (digits, rest) := by
  rw [takeWhole?, takeDigits_write digits ends]
  cases digits with
  | nil => exact absurd rfl some_digits
  | cons digit digits =>
    refine if_neg ?_
    intro ⟨zero, more⟩
    exact more (zero_alone digits (congrArg (· :: digits) (Fin.ext zero)))

theorem takeFraction?_write (digits : List Digit) {rest : List Char} (ends : EndsDigits rest)
    (pointless : rest.head? ≠ some '.') :
    takeFraction? (writeFraction digits ++ rest) = some (digits, rest) := by
  cases digits with
  | nil =>
    rw [writeFraction, if_pos rfl, List.nil_append]
    unfold takeFraction?
    split
    · exact absurd rfl pointless
    · rfl
  | cons digit digits =>
    rw [writeFraction, if_neg (List.cons_ne_nil _ _), List.cons_append, takeFraction?,
      takeDigits_write _ ends]

theorem takeExponentDigits?_write (negative : Bool) {digits : List Digit}
    (some_digits : digits ≠ []) {rest : List Char} (ends : EndsDigits rest) :
    takeExponentDigits? negative (writeDigits digits ++ rest) =
      some (some ⟨negative, digits⟩, rest) := by
  rw [takeExponentDigits?, takeDigits_write digits ends]
  cases digits with
  | nil => exact absurd rfl some_digits
  | cons digit digits => rfl

/-- An exponent is read up to what can follow a value. -/
theorem takeExponent?_write {exponent : Option Exponent}
    (some_digits : ∀ present ∈ exponent, present.digits ≠ []) {rest : List Char}
    (delimited : IsDelimited rest) :
    takeExponent? (writeExponent exponent ++ rest) = some (exponent, rest) := by
  cases exponent with
  | none =>
    rcases delimited.cases with rfl | ⟨first, behind, rfl, -, -, lower, upper⟩
    · rfl
    · simp [writeExponent, takeExponent?, lower, upper]
  | some present =>
    have digits := takeExponentDigits?_write present.negative (some_digits present rfl)
      delimited.endsDigits
    rcases present with ⟨negative, spelt⟩
    cases negative with
    | false => exact digits
    | true => exact digits

/-- What follows the digits of a number in front of its exponent is neither a digit nor
a point. -/
theorem ends_writeExponent (exponent : Option Exponent) {rest : List Char}
    (delimited : IsDelimited rest) :
    EndsDigits (writeExponent exponent ++ rest) ∧
      (writeExponent exponent ++ rest).head? ≠ some '.' := by
  cases exponent with
  | none =>
    rcases delimited.cases with rfl | ⟨first, behind, rfl, stop, point, -⟩
    · exact ⟨rfl, nofun⟩
    · exact ⟨stop, fun same => point (Option.some.inj same)⟩
  | some present => exact ⟨rfl, fun same => absurd (Option.some.inj same) (by decide)⟩

theorem takeUnsigned?_write {numeral : Numeral} (strict : numeral.IsStrict) {rest : List Char}
    (delimited : IsDelimited rest) :
    takeUnsigned? numeral.negative (writeDigits numeral.whole ++
      (writeFraction numeral.fraction ++ (writeExponent numeral.exponent ++ rest))) =
        some (numeral, rest) := by
  rcases ends_writeExponent numeral.exponent delimited with ⟨ends, pointless⟩
  have pointed : EndsDigits
      (writeFraction numeral.fraction ++ (writeExponent numeral.exponent ++ rest)) := by
    unfold writeFraction
    split
    · exact ends
    · rfl
  rw [takeUnsigned?, takeWhole?_write strict.whole_ne_nil strict.zero_alone pointed]
  dsimp only [Option.bind_eq_bind, Option.bind_some]
  rw [takeFraction?_write _ ends pointless]
  dsimp only [Option.bind_some]
  rw [takeExponent?_write strict.exponent_ne_nil delimited]
  rfl

theorem take?_write {numeral : Numeral} (strict : numeral.IsStrict) {rest : List Char}
    (delimited : IsDelimited rest) : take? (numeral.write ++ rest) = some (numeral, rest) := by
  have unsigned := takeUnsigned?_write strict delimited
  rw [write_eq]
  simp only [List.append_assoc]
  cases sign : numeral.negative with
  | true =>
    rw [sign] at unsigned
    exact unsigned
  | false =>
    rw [sign] at unsigned
    rw [if_neg Bool.false_ne_true, List.nil_append]
    cases spelt : numeral.whole with
    | nil => exact absurd spelt strict.whole_ne_nil
    | cons digit digits =>
      rw [spelt] at unsigned
      rw [take?.eq_2]
      · exact unsigned
      · intro behind same
        exact digit.toChar_ne_minus (List.cons.inj same).1

theorem exists_write_eq_cons {numeral : Numeral} (strict : numeral.IsStrict) :
    ∃ first rest, numeral.write = first :: rest ∧
      (first = '-' ∨ ∃ digit : Digit, first = digit.toChar) := by
  rw [write_eq]
  cases numeral.negative with
  | true => exact ⟨'-', _, rfl, Or.inl rfl⟩
  | false =>
    cases spelt : numeral.whole with
    | nil => exact absurd spelt strict.whole_ne_nil
    | cons digit digits => exact ⟨digit.toChar, _, rfl, Or.inr ⟨digit, rfl⟩⟩

end Numeral

/-! ## String literals -/

/-- The two hexadecimal digits of a control spell it. -/
theorem hexUnit?_control :
    ∀ code < 0x20, hexUnit? '0' '0' (hexDigit (code / 16)) (hexDigit (code % 16)) = some code := by
  decide

/-- An escape of one letter is read as the character it names. -/
theorem takeUnits?_letter {letter character : Char} (named : escaped? letter = some character)
    (short : letter ≠ 'u') (text : List Char) :
    takeUnits? ('\\' :: letter :: text) =
      (takeUnits? text).map fun taken => (character.toNat :: taken.1, taken.2) := by
  rw [takeUnits?.eq_4]
  · rw [named]
    cases takeUnits? text <;> rfl
  · intro first second third fourth rest same
    exact absurd same short

/-- A character that is neither a control nor a quote nor a backslash is read as it
stands. -/
theorem takeUnits?_raw {character : Char} (printable : 0x20 ≤ character.toNat)
    (unquoted : character ≠ '"') (unescaped : character ≠ '\\') (text : List Char) :
    takeUnits? (character :: text) =
      (takeUnits? text).map fun taken => (character.toNat :: taken.1, taken.2) := by
  rw [takeUnits?.eq_5]
  · rw [if_neg]
    · cases takeUnits? text <;> rfl
    · rintro (control | backslash)
      · exact absurd control (Nat.not_lt.mpr printable)
      · exact unescaped backslash
  all_goals grind

/-- A character is read as one unit, its code point, whether it is escaped or not. -/
theorem takeUnits?_escape (character : Char) (text : List Char) :
    takeUnits? (escape character ++ text) =
      (takeUnits? text).map fun taken => (character.toNat :: taken.1, taken.2) := by
  unfold escape
  split
  case h_8 _ unquoted unescaped _ _ _ _ _ =>
    by_cases control : character.toNat < 0x20
    · rw [if_pos control]
      simp only [List.cons_append, List.nil_append, takeUnits?, hexUnit?_control _ control]
      cases takeUnits? text <;> rfl
    · rw [if_neg control]
      exact takeUnits?_raw (Nat.not_lt.mp control) unquoted unescaped text
  all_goals exact takeUnits?_letter rfl (by decide) text

theorem takeUnits?_write (text : List Char) (rest : List Char) :
    takeUnits? (text.flatMap escape ++ '"' :: rest) = some (text.map Char.toNat, rest) := by
  induction text with
  | nil => rfl
  | cons character text inductionHypothesis =>
    rw [List.flatMap_cons, List.append_assoc, takeUnits?_escape, inductionHypothesis]
    rfl

theorem not_surrogate (character : Char) :
    isHighSurrogate character.toNat = false ∧ isLowSurrogate character.toNat = false := by
  have valid : character.toNat < 0xD800 ∨ 0xDFFF < character.toNat ∧ character.toNat < 0x110000 :=
    character.valid
  simp only [isHighSurrogate, isLowSurrogate, Bool.and_eq_false_iff, decide_eq_false_iff_not]
  omega

theorem charactersOfUnits?_map_toNat (text : List Char) :
    charactersOfUnits? (text.map Char.toNat) = some text := by
  induction text with
  | nil => rfl
  | cons character text inductionHypothesis =>
    rcases not_surrogate character with ⟨high, low⟩
    cases text with
    | nil => simp [charactersOfUnits?, high, low]
    | cons next text =>
      rw [List.map_cons, List.map_cons, charactersOfUnits?, high, low, ← List.map_cons,
        inductionHypothesis]
      simp

/-! ## Tokens -/

namespace Token

/-- A literal is read as it was written, also one without a text. -/
theorem take?_writeLiteral (literal : Literal) (rest : List Char) :
    take? (writeLiteral literal ++ rest) = some (.literal literal, rest) := by
  cases literal with
  | none => rfl
  | some text =>
    have quoted : writeLiteral (some text) ++ rest =
        '"' :: (text.toList.flatMap escape ++ '"' :: rest) := by
      rw [writeLiteral, List.append_assoc]
      rfl
    rw [quoted, take?, takeUnits?_write, Option.map_some, literalOfUnits,
      charactersOfUnits?_map_toNat, Option.map_some, String.ofList_toList]

theorem take?_writeNumeral {numeral : Numeral} (strict : numeral.IsStrict) {rest : List Char}
    (delimited : IsDelimited rest) :
    take? (numeral.write ++ rest) = some (.scalar (.number numeral), rest) := by
  have taken := Numeral.take?_write strict delimited
  rcases Numeral.exists_write_eq_cons strict with ⟨first, behind, written, start⟩
  rw [written, List.cons_append] at taken ⊢
  have other : first ≠ '[' ∧ first ≠ ']' ∧ first ≠ '{' ∧ first ≠ '}' ∧ first ≠ ',' ∧
      first ≠ ':' ∧ first ≠ '"' ∧ first ≠ 'n' ∧ first ≠ 't' ∧ first ≠ 'f' := by
    rcases start with rfl | ⟨digit, rfl⟩
    · decide
    · exact digit.toChar_ne_mark
  rw [take?.eq_12, taken]
  · rfl
  -- no other token starts like a number
  all_goals grind

end Token
end Json
end Itineraries
