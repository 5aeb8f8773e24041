import Itineraries.Config
import Itineraries.Flight
import Itineraries.Json.Reader

namespace Itineraries

/-!
# Files

What a file holds decides what is read from it.  A file must exist, its bytes
must be UTF-8, and the text must be a document of the right form; the first of
these that fails is the fault reported.
-/

/-- What is found under the name of a file. -/
inductive FileContent where
  | missing
  | bytes (content : ByteArray)

namespace FileContent

def ofText (text : String) : FileContent :=
  .bytes text.toUTF8

def text : FileContent → Except FileFault String
  | .missing => .error .missing
  | .bytes content =>
    match String.fromUTF8? content with
    | some text => .ok text
    | none => .error .notText

def flights (content : FileContent) : Except InventoryFault (List Flight) :=
  match content.text with
  | .error fault => .error (.file fault)
  | .ok text =>
    match (Json.Value.read? text).bind Flight.listOfJson? with
    | some flights => .ok flights
    | none => .error .malformed

end FileContent

/-- The valid configuration that a text spells. -/
def Config.ofText (text : String) : Except ConfigFault Config :=
  match (Json.Value.read? text).bind Config.ofJson? with
  | none => .error .malformed
  | some config =>
    match config.violation? with
    | some broken => .error (.invalid broken)
    | none => .ok config

def FileContent.config (content : FileContent) : Except ConfigFault Config :=
  match content.text with
  | .error fault => .error (.file fault)
  | .ok text => Config.ofText text

end Itineraries
