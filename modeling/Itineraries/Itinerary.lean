import Itineraries.Flight

namespace Itineraries

/-!
# Itineraries and their ranking

An itinerary is a row of flights, of which there is at least one.  Everything
else that is said of it is derived from its legs.

Itineraries are ranked by price, then by duration, then by the number of
connections, then by id.  Since the id names all legs, it makes the ranking
total wherever ids tell itineraries apart.
-/

open Time (Instant)

structure Itinerary where
  legs : List Flight
  legs_ne_nil : legs ≠ []
deriving DecidableEq, Repr

namespace Itinerary

def firstLeg (itinerary : Itinerary) : Flight :=
  itinerary.legs.head itinerary.legs_ne_nil

def lastLeg (itinerary : Itinerary) : Flight :=
  itinerary.legs.getLast itinerary.legs_ne_nil

/-- The ids of the legs, joined. -/
def id (itinerary : Itinerary) : String :=
  ">".intercalate (itinerary.legs.map (·.id))

/-- The sum of the prices of the legs, from left to right. -/
def price (itinerary : Itinerary) : Price :=
  Price.sum (itinerary.legs.map (·.price))

/-- The whole minutes from the first departure to the last arrival. -/
def minutes (itinerary : Itinerary) : Int :=
  itinerary.lastLeg.arrival.minutesSince itinerary.firstLeg.departure

/-- The seats that every leg still offers. -/
def availableSeats (itinerary : Itinerary) : Int :=
  itinerary.legs.foldl (fun least leg => min least leg.availableSeats)
    itinerary.firstLeg.availableSeats

def hops (itinerary : Itinerary) : Nat :=
  itinerary.legs.length - 1

def departure (itinerary : Itinerary) : Instant :=
  itinerary.firstLeg.departure

def arrival (itinerary : Itinerary) : Instant :=
  itinerary.lastLeg.arrival

def source (itinerary : Itinerary) : String :=
  itinerary.firstLeg.source

def destination (itinerary : Itinerary) : String :=
  itinerary.lastLeg.destination

end Itinerary

/-- What the place of an itinerary in a ranking depends on. -/
structure RankKey where
  price : Price
  minutes : Int
  hops : Nat
  id : String
deriving DecidableEq, Repr

namespace RankKey

/-- The ranking: each component decides only when those before it are equal. -/
protected def compare (first second : RankKey) : Ordering :=
  (compare first.price.rank second.price.rank).then
    ((compare first.minutes second.minutes).then
      ((compare first.hops second.hops).then (compare first.id second.id)))

instance : Ord RankKey :=
  ⟨RankKey.compare⟩

/-- Whether a key ranks before another or level with it. -/
def leads (first second : RankKey) : Bool :=
  (compare first second).isLE

end RankKey

namespace Itinerary

def rankKey (itinerary : Itinerary) : RankKey :=
  ⟨itinerary.price, itinerary.minutes, itinerary.hops, itinerary.id⟩

/-- Itineraries in ranking order.  Those that rank level keep their order. -/
def ranked (itineraries : List Itinerary) : List Itinerary :=
  itineraries.mergeSort fun first second => first.rankKey.leads second.rankKey

/-- An itinerary as a value, with its legs in full. -/
def toJson (itinerary : Itinerary) : Json.Value :=
  .ofMembers
    [("id", .ofString itinerary.id), ("legs", Flight.listToJson itinerary.legs),
      ("totalPrice", itinerary.price.toJson), ("totalDurationMinutes", .ofInt itinerary.minutes),
      ("availableSeats", .ofInt itinerary.availableSeats),
      ("numberOfHops", .ofNat itinerary.hops),
      ("firstDeparture", .ofString itinerary.departure.render),
      ("finalArrival", .ofString itinerary.arrival.render)]

def listToJson (itineraries : List Itinerary) : Json.Value :=
  .array (itineraries.map toJson)

end Itinerary
end Itineraries
