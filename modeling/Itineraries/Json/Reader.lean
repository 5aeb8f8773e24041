import Itineraries.Json.Token

namespace Itineraries
namespace Json

/-!
# Reading a document

A document is read by a machine with a stack.  The machine takes one token at
a time, so reading always ends, and no depth of nesting is too great for it.
-/

/-- A container whose end has not been reached, with what it holds so far,
latest first.  An open object also remembers the key whose value is due. -/
inductive Frame where
  | array (items : List Value)
  | object (members : List (Literal × Value)) (key : Literal)

/-- What the machine waits for.  After an opening bracket an item or a key may come or the
end of the container; after a comma the end may not come, so that an object needs a further
key and an array a value; after a key a colon must come.  What comes after a complete value
depends on the innermost frame. -/
inductive ReaderState where
  | value (frames : List Frame)
  | firstItem (frames : List Frame)
  | firstKey (frames : List Frame)
  | nextKey (members : List (Literal × Value)) (frames : List Frame)
  | colon (members : List (Literal × Value)) (key : Literal) (frames : List Frame)
  | complete (value : Value) (frames : List Frame)

namespace ReaderState

/-- The machine takes a token where a value is due. -/
def beginValue? (frames : List Frame) : Token → Option ReaderState
  | .scalar scalar => some (complete scalar frames)
  | .literal literal => some (complete (.string literal) frames)
  | .beginArray => some (firstItem frames)
  | .beginObject => some (firstKey frames)
  | _ => none

def step? : ReaderState → Token → Option ReaderState
  | value frames, token => beginValue? frames token
  | firstItem frames, .endArray => some (complete (.array []) frames)
  | firstItem frames, token => beginValue? (.array [] :: frames) token
  | firstKey frames, .endObject => some (complete (.object []) frames)
  | firstKey frames, .literal key => some (colon [] key frames)
  | nextKey members frames, .literal key => some (colon members key frames)
  | colon members key frames, .colon => some (value (.object members key :: frames))
  | complete item (.array items :: frames), .comma => some (value (.array (item :: items) :: frames))
  | complete item (.array items :: frames), .endArray =>
    some (complete (.array (item :: items).reverse) frames)
  | complete item (.object members key :: frames), .comma =>
    some (nextKey ((key, item) :: members) frames)
  | complete item (.object members key :: frames), .endObject =>
    some (complete (.object ((key, item) :: members).reverse) frames)
  | _, _ => none

/-- The document that has been read, once no container is open. -/
def result? : ReaderState → Option Value
  | complete document [] => some document
  | _ => none

def readAll? (state : ReaderState) (text : List Char) : Option ReaderState :=
  match _sought : text.dropWhile isSpace with
  | [] => some state
  | first :: behind =>
    match _taken : Token.take? (first :: behind) with
    | none => none
    | some (token, rest) =>
      match state.step? token with
      | none => none
      | some next => next.readAll? rest
termination_by text.length
decreasing_by
  have shorter := Token.length_lt_of_take? _taken
  have skipped := (List.dropWhile_suffix isSpace (l := text)).length_le
  rw [_sought] at skipped
  omega

end ReaderState

namespace Value

/-- The document that a text spells, or `none` if it spells none. -/
def read? (text : String) : Option Value :=
  (ReaderState.readAll? (.value []) text.toList).bind ReaderState.result?

end Value
end Json
end Itineraries
