import Itineraries.Json.Value

namespace Itineraries
namespace Json

/-!
# Writing a document

One writer serves two forms, which differ only in what stands between tokens:
the compact one, which has no space anywhere, and the indented one, which gives
every item and every member a line of its own.

An exponent is always written with its sign.  In strings only the quote, the
backslash and the controls below the space are escaped.
-/

/-- A hexadecimal digit in lower case. -/
def hexDigit (number : Nat) : Char :=
  if number < 10 then Char.ofNat (0x30 + number) else Char.ofNat (0x61 + (number - 10))

/-- A character as it stands in a string literal. -/
def escape (character : Char) : List Char :=
  match character with
  | '"' => ['\\', '"']
  | '\\' => ['\\', '\\']
  | '\x08' => ['\\', 'b']
  | '\x0c' => ['\\', 'f']
  | '\n' => ['\\', 'n']
  | '\r' => ['\\', 'r']
  | '\t' => ['\\', 't']
  | character =>
    if character.toNat < 0x20 then
      ['\\', 'u', '0', '0', hexDigit (character.toNat / 16), hexDigit (character.toNat % 16)]
    else
      [character]

/-- A literal in its quotes.  One without a text is written as the escape of a
lone surrogate, which is what makes it one. -/
def writeLiteral : Literal → List Char
  | some text => '"' :: text.toList.flatMap escape ++ ['"']
  | none => ['"', '\\', 'u', 'd', '8', '0', '0', '"']

def writeDigits (digits : List Digit) : List Char :=
  digits.map Digit.toChar

def Exponent.write (exponent : Exponent) : List Char :=
  'e' :: (if exponent.negative then '-' else '+') :: writeDigits exponent.digits

def Numeral.write (numeral : Numeral) : List Char :=
  (if numeral.negative then ['-'] else []) ++ writeDigits numeral.whole ++
    (if numeral.fraction = [] then [] else '.' :: writeDigits numeral.fraction) ++
      (match numeral.exponent with
        | none => []
        | some exponent => exponent.write)

/-- What stands between the tokens of a document: in front of each item of a container
and of its closing bracket, by their depth of nesting, and behind each colon.  An empty
container is closed up whatever the layout. -/
structure Layout where
  gap : Nat → List Char
  space : List Char

namespace Layout

def compact : Layout where
  gap _ := []
  space := []

/-- A line for each item and for each closing bracket, two columns further in than
the container that it is in. -/
def indented : Layout where
  gap depth := '\n' :: List.replicate (2 * depth) ' '
  space := [' ']

end Layout

namespace Value

mutual

def write (layout : Layout) (depth : Nat) : Value → List Char
  | null => ['n', 'u', 'l', 'l']
  | bool true => ['t', 'r', 'u', 'e']
  | bool false => ['f', 'a', 'l', 's', 'e']
  | number numeral => numeral.write
  | string literal => writeLiteral literal
  | array [] => ['[', ']']
  | array items => '[' :: writeItems layout (depth + 1) items ++ layout.gap depth ++ [']']
  | object [] => ['{', '}']
  | object members => '{' :: writeMembers layout (depth + 1) members ++ layout.gap depth ++ ['}']

/-- The items of an array with commas behind all but the last. -/
def writeItems (layout : Layout) (depth : Nat) : List Value → List Char
  | [] => []
  | [item] => layout.gap depth ++ item.write layout depth
  | item :: items =>
    layout.gap depth ++ item.write layout depth ++ ',' :: writeItems layout depth items

/-- The members of an object with commas behind all but the last. -/
def writeMembers (layout : Layout) (depth : Nat) : List (Literal × Value) → List Char
  | [] => []
  | [(key, value)] =>
    layout.gap depth ++ writeLiteral key ++ ':' :: layout.space ++ value.write layout depth
  | (key, value) :: members =>
    layout.gap depth ++ writeLiteral key ++ ':' :: layout.space ++ value.write layout depth ++
      ',' :: writeMembers layout depth members

end

/-- The text of a document on one line. -/
def render (document : Value) : String :=
  String.ofList (document.write .compact 0)

/-- The text of a document on a line for each item. -/
def renderIndented (document : Value) : String :=
  String.ofList (document.write .indented 0)

end Value
end Json
end Itineraries
