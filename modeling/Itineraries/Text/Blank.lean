namespace Itineraries
namespace Text

/-!
# Blank characters

A character is blank when the Unicode property `White_Space` holds of it.
Times may be padded with any blank character, not only with ASCII ones.
-/

/-- The twenty-five code points with the property `White_Space`: five
controls, the space, the next-line control, and the separators of all
widths. -/
def isBlank (character : Char) : Bool :=
  let code := character.toNat
  (9 ≤ code && code ≤ 13) || code == 0x20 || code == 0x85 || code == 0xA0 || code == 0x1680 ||
    (0x2000 ≤ code && code ≤ 0x200A) || code == 0x2028 || code == 0x2029 || code == 0x202F ||
    code == 0x205F || code == 0x3000

/-- What is left of a text after its leading blank characters. -/
def skipBlank (text : List Char) : List Char :=
  text.dropWhile isBlank

end Text
end Itineraries
