import Itineraries.Json.Record
import Itineraries.Price.Reading
import Itineraries.Price.Shortest
import Itineraries.Time.Reading
import Itineraries.Time.Writing

namespace Itineraries

/-!
# Flights

A flight is one entry of an inventory.  Its id is meant to be unique there, but
only a graph insists on that.  Endpoints are free text, compared exactly.
-/

open Time (Instant)

/-- A flight as the inventory lists it. -/
structure Flight where
  id : String
  source : String
  destination : String
  departure : Instant
  arrival : Instant
  price : Price
  availableSeats : Int
deriving DecidableEq, Repr

namespace Flight

/-- Whether a flight can be part of an itinerary: it has a seat left, takes
some time, and leads somewhere else. -/
def IsBoardable (flight : Flight) : Prop :=
  0 < flight.availableSeats ∧ flight.departure < flight.arrival ∧
    flight.source ≠ flight.destination

instance (flight : Flight) : Decidable flight.IsBoardable :=
  inferInstanceAs (Decidable (_ ∧ _))

def minutes (flight : Flight) : Int :=
  flight.arrival.minutesSince flight.departure

def fieldNames : List String :=
  ["id", "source", "destination", "departure", "arrival", "price", "availableSeats"]

def toJson (flight : Flight) : Json.Value :=
  .ofMembers
    [("id", .ofString flight.id), ("source", .ofString flight.source),
      ("destination", .ofString flight.destination),
      ("departure", .ofString flight.departure.render),
      ("arrival", .ofString flight.arrival.render), ("price", flight.price.toJson),
      ("availableSeats", .ofInt flight.availableSeats)]

/-- The flight that a value holds.  All fields are needed. -/
def ofJson? (value : Json.Value) : Option Flight := do
  let record ← value.record? fieldNames
  let id ← record.required? "id" Json.Value.text?
  let source ← record.required? "source" Json.Value.text?
  let destination ← record.required? "destination" Json.Value.text?
  let departure ← record.required? "departure" Instant.ofJson?
  let arrival ← record.required? "arrival" Instant.ofJson?
  let price ← record.required? "price" Price.ofJson?
  let availableSeats ← record.required? "availableSeats" Json.Value.signed?
  return ⟨id, source, destination, departure, arrival, price, availableSeats⟩

def listOfJson? (value : Json.Value) : Option (List Flight) :=
  value.list? ofJson?

def listToJson (flights : List Flight) : Json.Value :=
  .array (flights.map toJson)

end Flight
end Itineraries
