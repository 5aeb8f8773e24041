import Itineraries.Json.Record

namespace Itineraries

/-!
# Pairs of places

The pair of source and destination is what itineraries are stored under and
what travellers ask for.
-/

structure Pair where
  source : String
  destination : String
deriving DecidableEq, Repr

namespace Pair

/-- Pairs in order: by source, then by destination. -/
def precedes (first second : Pair) : Bool :=
  decide (first.source < second.source) ||
    (decide (first.source = second.source) && decide (first.destination ≤ second.destination))

def ofJson? (value : Json.Value) : Option Pair := do
  let record ← value.record? ["source", "destination"]
  let source ← record.required? "source" Json.Value.text?
  let destination ← record.required? "destination" Json.Value.text?
  return ⟨source, destination⟩

end Pair
end Itineraries
