import Itineraries.Json.Value

namespace Itineraries
namespace Json

/-!
# Tokens of JSON text

The grammar is the strict one: no comments, no leading zeros, no digits left
out on either side of a decimal point, and only four characters may stand
between tokens.  Reading is by longest match, which is enough because no two
values stand side by side in a document without a mark between them.
-/

inductive Token where
  | beginArray
  | endArray
  | beginObject
  | endObject
  | comma
  | colon
  | scalar (value : Value)
  | literal (literal : Literal)

/-- The characters that may stand between tokens. -/
def isSpace (character : Char) : Bool :=
  character == ' ' || character == '\t' || character == '\n' || character == '\r'

/-- The digits at the front of a text, and what follows them. -/
def takeDigits : List Char → List Digit × List Char
  | [] => ([], [])
  | character :: rest =>
    match Digit.ofChar? character with
    | some digit => (digit :: (takeDigits rest).1, (takeDigits rest).2)
    | none => ([], character :: rest)

/-! ## Numbers -/

namespace Numeral

/-- The digits before the point: a zero stands alone. -/
def takeWhole? (text : List Char) : Option (List Digit × List Char) :=
  match takeDigits text with
  | ([], _) => none
  | (digit :: digits, rest) => if digit.val = 0 ∧ digits ≠ [] then none else some (digit :: digits, rest)

/-- The digits after the point, of which there is at least one if there is a
point. -/
def takeFraction? : List Char → Option (List Digit × List Char)
  | '.' :: rest =>
    match takeDigits rest with
    | ([], _) => none
    | (digits, rest) => some (digits, rest)
  | text => some ([], text)

/-- The digits of an exponent, of which there is at least one. -/
def takeExponentDigits? (negative : Bool) (text : List Char) :
    Option (Option Exponent × List Char) :=
  match takeDigits text with
  | ([], _) => none
  | (digits, rest) => some (some ⟨negative, digits⟩, rest)

/-- The exponent after its mark, with its optional sign. -/
def takeSignedExponent? : List Char → Option (Option Exponent × List Char)
  | '+' :: rest => takeExponentDigits? false rest
  | '-' :: rest => takeExponentDigits? true rest
  | text => takeExponentDigits? false text

/-- The exponent at the front of a text, if there is one. -/
def takeExponent? : List Char → Option (Option Exponent × List Char)
  | 'e' :: rest => takeSignedExponent? rest
  | 'E' :: rest => takeSignedExponent? rest
  | text => some (none, text)

def takeUnsigned? (negative : Bool) (text : List Char) : Option (Numeral × List Char) := do
  let (whole, rest) ← takeWhole? text
  let (fraction, rest) ← takeFraction? rest
  let (exponent, rest) ← takeExponent? rest
  return (⟨negative, whole, fraction, exponent⟩, rest)

def take? : List Char → Option (Numeral × List Char)
  | '-' :: rest => takeUnsigned? true rest
  | text => takeUnsigned? false text

end Numeral

/-! ## String literals -/

/-- The value of a hexadecimal digit in either case. -/
def hexDigit? (character : Char) : Option Nat :=
  let code := character.toNat
  if 0x30 ≤ code ∧ code ≤ 0x39 then some (code - 0x30)
  else if 0x41 ≤ code ∧ code ≤ 0x46 then some (code - 0x41 + 10)
  else if 0x61 ≤ code ∧ code ≤ 0x66 then some (code - 0x61 + 10)
  else none

/-- The code unit that four hexadecimal digits name. -/
def hexUnit? (first second third fourth : Char) : Option Nat := do
  let first ← hexDigit? first
  let second ← hexDigit? second
  let third ← hexDigit? third
  let fourth ← hexDigit? fourth
  return ((first * 16 + second) * 16 + third) * 16 + fourth

/-- The character that a one-letter escape names. -/
def escaped? : Char → Option Char
  | '"' => some '"'
  | '\\' => some '\\'
  | '/' => some '/'
  | 'b' => some '\x08'
  | 'f' => some '\x0c'
  | 'n' => some '\n'
  | 'r' => some '\r'
  | 't' => some '\t'
  | _ => none

/-- The code units of a string literal from behind its opening quote, and what
follows its closing quote.  A raw character counts as one unit whatever its
code point, so that a surrogate can only come from an escape. -/
def takeUnits? : List Char → Option (List Nat × List Char)
  | [] => none
  | '"' :: rest => some ([], rest)
  | '\\' :: 'u' :: first :: second :: third :: fourth :: rest => do
    let unit ← hexUnit? first second third fourth
    let (units, rest) ← takeUnits? rest
    return (unit :: units, rest)
  | '\\' :: letter :: rest => do
    let character ← escaped? letter
    let (units, rest) ← takeUnits? rest
    return (character.toNat :: units, rest)
  | character :: rest =>
    if character.toNat < 0x20 ∨ character = '\\' then none
    else do
      let (units, rest) ← takeUnits? rest
      return (character.toNat :: units, rest)

/-- Whether a unit is the first half of a surrogate pair. -/
def isHighSurrogate (unit : Nat) : Bool :=
  0xD800 ≤ unit && unit ≤ 0xDBFF

/-- Whether a unit is the second half of a surrogate pair. -/
def isLowSurrogate (unit : Nat) : Bool :=
  0xDC00 ≤ unit && unit ≤ 0xDFFF

/-- The characters of a row of units.  A surrogate counts only as a half of a
pair; alone it stands for no character. -/
def charactersOfUnits? : List Nat → Option (List Char)
  | [] => some []
  | high :: low :: rest =>
    if isHighSurrogate high then
      if isLowSurrogate low then
        (charactersOfUnits? rest).map
          (Char.ofNat (0x10000 + (high - 0xD800) * 0x400 + (low - 0xDC00)) :: ·)
      else none
    else if isLowSurrogate high then none
    else (charactersOfUnits? (low :: rest)).map (Char.ofNat high :: ·)
  | [unit] => if isHighSurrogate unit || isLowSurrogate unit then none else some [Char.ofNat unit]

def literalOfUnits (units : List Nat) : Literal :=
  (charactersOfUnits? units).map String.ofList

/-! ## Any token -/

/-- The token at the front of a text that starts with no space. -/
def Token.take? : List Char → Option (Token × List Char)
  | [] => none
  | '[' :: rest => some (beginArray, rest)
  | ']' :: rest => some (endArray, rest)
  | '{' :: rest => some (beginObject, rest)
  | '}' :: rest => some (endObject, rest)
  | ',' :: rest => some (comma, rest)
  | ':' :: rest => some (colon, rest)
  | '"' :: rest => (takeUnits? rest).map fun taken => (literal (literalOfUnits taken.1), taken.2)
  | 'n' :: 'u' :: 'l' :: 'l' :: rest => some (scalar .null, rest)
  | 't' :: 'r' :: 'u' :: 'e' :: rest => some (scalar (.bool true), rest)
  | 'f' :: 'a' :: 'l' :: 's' :: 'e' :: rest => some (scalar (.bool false), rest)
  | text => (Numeral.take? text).map fun taken => (scalar (.number taken.1), taken.2)

/-! ## A token consumes something

Reading a text token by token ends because each token leaves a shorter text.
-/

private theorem length_takeDigits (text : List Char) :
    (takeDigits text).1.length + (takeDigits text).2.length = text.length := by
  induction text with
  | nil => rfl
  | cons character rest inductionHypothesis =>
    simp only [takeDigits]
    cases Digit.ofChar? character with
    | some digit =>
      simp only [List.length_cons]
      omega
    | none => simp

private theorem length_lt_of_takeWhole? {text rest : List Char} {digits : List Digit}
    (taken : Numeral.takeWhole? text = some (digits, rest)) : rest.length < text.length := by
  have total := length_takeDigits text
  unfold Numeral.takeWhole? at taken
  split at taken
  · contradiction
  · rename_i digit digits rest split
    split at taken
    · contradiction
    · simp only [Option.some.injEq, Prod.mk.injEq] at taken
      rw [split] at total
      simp only [List.length_cons] at total
      rw [← taken.2]
      omega

private theorem length_le_of_takeFraction? {text rest : List Char} {digits : List Digit}
    (taken : Numeral.takeFraction? text = some (digits, rest)) : rest.length ≤ text.length := by
  unfold Numeral.takeFraction? at taken
  split at taken
  · rename_i behind
    have total := length_takeDigits behind
    split at taken
    · contradiction
    · rename_i split
      simp only [Option.some.injEq, Prod.mk.injEq] at taken
      rw [split] at total
      dsimp only at total
      rw [← taken.2]
      simp only [List.length_cons]
      omega
  · simp only [Option.some.injEq, Prod.mk.injEq] at taken
    exact Nat.le_of_eq (congrArg List.length taken.2.symm)

private theorem length_le_of_takeExponentDigits? {negative : Bool} {text rest : List Char}
    {exponent : Option Exponent}
    (taken : Numeral.takeExponentDigits? negative text = some (exponent, rest)) :
    rest.length ≤ text.length := by
  have total := length_takeDigits text
  unfold Numeral.takeExponentDigits? at taken
  split at taken
  · contradiction
  · rename_i split
    simp only [Option.some.injEq, Prod.mk.injEq] at taken
    rw [split] at total
    dsimp only at total
    rw [← taken.2]
    omega

private theorem length_le_of_takeSignedExponent? {text rest : List Char}
    {exponent : Option Exponent}
    (taken : Numeral.takeSignedExponent? text = some (exponent, rest)) :
    rest.length ≤ text.length := by
  unfold Numeral.takeSignedExponent? at taken
  split at taken
  · exact Nat.le_succ_of_le (length_le_of_takeExponentDigits? taken)
  · exact Nat.le_succ_of_le (length_le_of_takeExponentDigits? taken)
  · exact length_le_of_takeExponentDigits? taken

private theorem length_le_of_takeExponent? {text rest : List Char} {exponent : Option Exponent}
    (taken : Numeral.takeExponent? text = some (exponent, rest)) : rest.length ≤ text.length := by
  unfold Numeral.takeExponent? at taken
  split at taken
  · exact Nat.le_succ_of_le (length_le_of_takeSignedExponent? taken)
  · exact Nat.le_succ_of_le (length_le_of_takeSignedExponent? taken)
  · simp only [Option.some.injEq, Prod.mk.injEq] at taken
    exact Nat.le_of_eq (congrArg List.length taken.2.symm)

private theorem length_lt_of_takeUnsigned? {negative : Bool} {text rest : List Char}
    {numeral : Numeral} (taken : Numeral.takeUnsigned? negative text = some (numeral, rest)) :
    rest.length < text.length := by
  simp only [Numeral.takeUnsigned?, Option.bind_eq_bind, Option.bind_eq_some_iff,
    Option.pure_def, Option.some.injEq, Prod.mk.injEq, Prod.exists] at taken
  obtain ⟨whole, afterWhole, wholeTaken, fraction, afterFraction, fractionTaken, exponent,
    afterExponent, exponentTaken, -, rfl⟩ := taken
  have wholeShorter := length_lt_of_takeWhole? wholeTaken
  have fractionShorter := length_le_of_takeFraction? fractionTaken
  have exponentShorter := length_le_of_takeExponent? exponentTaken
  omega

private theorem length_lt_of_take? {text rest : List Char} {numeral : Numeral}
    (taken : Numeral.take? text = some (numeral, rest)) : rest.length < text.length := by
  unfold Numeral.take? at taken
  split at taken
  · exact Nat.lt_succ_of_lt (length_lt_of_takeUnsigned? taken)
  · exact length_lt_of_takeUnsigned? taken

private theorem length_lt_of_takeUnits? {text rest : List Char} {units : List Nat}
    (taken : takeUnits? text = some (units, rest)) : rest.length < text.length := by
  fun_induction takeUnits? text generalizing units rest with
  | case1 => contradiction
  | case2 behind =>
    simp only [Option.some.injEq, Prod.mk.injEq] at taken
    rw [← taken.2]
    exact Nat.lt_succ_self _
  | case3 first second third fourth behind inductionHypothesis =>
    simp only [Option.bind_eq_bind, Option.bind_eq_some_iff, Option.pure_def, Option.some.injEq,
      Prod.mk.injEq, Prod.exists] at taken
    obtain ⟨unit, -, laterUnits, after, laterTaken, -, rfl⟩ := taken
    have shorter := inductionHypothesis laterTaken
    simp only [List.length_cons]
    omega
  | case4 letter behind distinct inductionHypothesis =>
    simp only [Option.bind_eq_bind, Option.bind_eq_some_iff, Option.pure_def, Option.some.injEq,
      Prod.mk.injEq, Prod.exists] at taken
    obtain ⟨character, -, laterUnits, after, laterTaken, -, rfl⟩ := taken
    have shorter := inductionHypothesis laterTaken
    simp only [List.length_cons]
    omega
  | case5 => contradiction
  | case6 character behind _ _ _ allowed inductionHypothesis =>
    simp only [Option.bind_eq_bind, Option.bind_eq_some_iff, Option.pure_def, Option.some.injEq,
      Prod.mk.injEq, Prod.exists] at taken
    obtain ⟨laterUnits, after, laterTaken, -, rfl⟩ := taken
    have shorter := inductionHypothesis laterTaken
    simp only [List.length_cons]
    omega

theorem Token.length_lt_of_take? {text rest : List Char} {token : Token}
    (taken : Token.take? text = some (token, rest)) : rest.length < text.length := by
  unfold Token.take? at taken
  split at taken <;>
    try (simp only [Option.some.injEq, Prod.mk.injEq, reduceCtorEq] at taken <;>
      (rw [← taken.2]; simp only [List.length_cons]; omega))
  · simp only [Option.map_eq_some_iff, Prod.mk.injEq, Prod.exists] at taken
    obtain ⟨units, after, unitsTaken, -, rfl⟩ := taken
    exact Nat.lt_succ_of_lt (length_lt_of_takeUnits? unitsTaken)
  · simp only [Option.map_eq_some_iff, Prod.mk.injEq, Prod.exists] at taken
    obtain ⟨numeral, after, numeralTaken, -, rfl⟩ := taken
    exact Itineraries.Json.length_lt_of_take? numeralTaken

end Json
end Itineraries
