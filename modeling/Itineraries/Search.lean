import Itineraries.Graph
import Itineraries.Itinerary

namespace Itineraries

/-!
# Searching itineraries

A search follows departures in depth, shortest connection first, and never
returns to a place.  A leg that reaches the destination ends its itinerary; any
other may be followed by a further leg as long as the constraints allow one.
All itineraries within the constraints are found, so the ranking sees all of
them before the list is cut to its length.
-/

structure Query where
  graph : Graph
  source : String
  destination : String
  constraints : Constraints

namespace Query

/-- The departures from a place that may follow the legs so far, of which the
latest comes first.  After an arrival the connection must be neither too short
nor too long.  If the shortest connection leads beyond all time, nothing
follows; if only the longest does, there is no latest departure. -/
def candidates (query : Query) (trail : List Flight) (location : String) : List Flight :=
  let departures := query.graph.outbound location
  match trail with
  | [] =>
    match query.constraints.departureNotBefore with
    | some earliest => departures.since earliest
    | none => departures.toList
  | previous :: _ =>
    match previous.arrival.addMinutes? query.constraints.minConnection.toNat with
    | none => []
    | some earliest =>
      match previous.arrival.addMinutes? query.constraints.maxConnection.toNat with
      | some latest => departures.between earliest latest
      | none => departures.since earliest

/-- Whether the legs so far have been to a place. -/
def hasVisited (query : Query) (trail : List Flight) (location : String) : Bool :=
  query.source == location || trail.any (·.destination == location)

/-- The itineraries that continue the legs so far, of which the latest comes
first, from a place with at most so many further legs. -/
def journeys (query : Query) : Nat → List Flight → String → List Itinerary
  | 0, _, _ => []
  | further + 1, trail, location =>
    (query.candidates trail location).flatMap fun flight =>
      if flight.availableSeats < query.constraints.minSeats ∨
          query.hasVisited trail flight.destination then
        []
      else if flight.destination = query.destination then
        [⟨(flight :: trail).reverse, by simp⟩]
      else
        query.journeys further (flight :: trail) flight.destination

/-- All itineraries from source to destination, in the order in which they are
found. -/
def found (query : Query) : List Itinerary :=
  if query.source = query.destination ∨ ¬query.graph.contains query.source ∨
      ¬query.graph.contains query.destination then
    []
  else
    query.journeys query.constraints.maxHops [] query.source

/-- The best itineraries, as many as the constraints ask for. -/
def best (query : Query) : List Itinerary :=
  match query.constraints.maxResults with
  | some count => (Itinerary.ranked query.found).take count
  | none => Itinerary.ranked query.found

end Query

namespace Graph

/-- The ranked itineraries between two places.  Constraints that break a rule
and empty names of places are faults; a place that the graph does not have is
none, and nothing leads from a place to itself. -/
def search (graph : Graph) (source destination : String) (constraints : Constraints) :
    Except Fault (List Itinerary) :=
  match constraints.violation? legsCeiling with
  | some broken => .error (.violation broken)
  | none =>
    if source = "" ∨ destination = "" then .error (.violation .emptyEndpoint)
    else .ok (Query.best ⟨graph, source, destination, constraints⟩)

/-- Under accepted constraints only an empty name is refused. -/
theorem search_of_accepted {constraints : Constraints}
    (accepted : constraints.violation? legsCeiling = none) (graph : Graph)
    (source destination : String) :
    graph.search source destination constraints =
      if source = "" ∨ destination = "" then .error (.violation .emptyEndpoint)
      else .ok (Query.best ⟨graph, source, destination, constraints⟩) := by
  rw [search, accepted]

end Graph
end Itineraries
