import Itineraries.Text.Invisible

namespace Itineraries
namespace Text

/-!
# Quoted text in messages

A message shows a text between quotes so that the reader can tell what it is
made of: quotes and backslashes are escaped, four common controls have a short
name, and every other character without a form of its own is shown by its code
point in hexadecimal.
-/

/-- The code point of a character between braces. -/
def codePoint (character : Char) : List Char :=
  '\\' :: 'u' :: '{' :: Nat.toDigits 16 character.toNat ++ ['}']

def showCharacter (character : Char) : List Char :=
  match character with
  | '"' => ['\\', '"']
  | '\\' => ['\\', '\\']
  | '\n' => ['\\', 'n']
  | '\r' => ['\\', 'r']
  | '\t' => ['\\', 't']
  | '\x00' => ['\\', '0']
  | character => if isInvisible character then codePoint character else [character]

def quoted (text : String) : String :=
  String.ofList ('"' :: text.toList.flatMap showCharacter ++ ['"'])

def quotedList (texts : List String) : String :=
  "[" ++ ", ".intercalate (texts.map quoted) ++ "]"

end Text
end Itineraries
