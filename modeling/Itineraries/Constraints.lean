import Itineraries.Json.Record
import Itineraries.Time.Reading
import Itineraries.Time.Writing

namespace Itineraries

/-!
# Search constraints

Constraints say which itineraries a search may return.  They are checked before
a search begins; the check reports the first rule that is broken.
-/

open Time (Instant)

/-- The most legs that any itinerary can have, whatever the configuration. -/
def legsCeiling : Nat := 6

/-- The longest connection in minutes that constraints may allow: one week. -/
def connectionCeiling : Int := 10080

/-- What an itinerary must satisfy.  Hops are counted in legs. -/
structure Constraints where
  maxHops : Nat := 2
  minConnection : Int := 30
  maxConnection : Int := 720
  departureNotBefore : Option Instant := none
  minSeats : Int := 1
  maxResults : Option Nat := none
deriving DecidableEq, Repr, Inhabited

inductive Violation where
  | noHops
  | tooManyHops (hops limit : Nat)
  | negativeConnection
  | crossedConnections (least most : Int)
  | longConnection
  | noSeats
  | noResults
  | emptyEndpoint
deriving DecidableEq, Repr

def Violation.message : Violation → String
  | noHops => "max_hops must be at least 1"
  | tooManyHops hops limit => s!"max_hops {hops} exceeds the limit of {limit}"
  | negativeConnection => "min_connection_minutes must not be negative"
  | crossedConnections least most =>
    s!"min_connection_minutes {least} is greater than max_connection_minutes {most}"
  | longConnection => s!"max_connection_minutes must not exceed {connectionCeiling}"
  | noSeats => "min_seats must be at least 1"
  | noResults => "max_results must be at least 1 when set"
  | emptyEndpoint => "source and destination must not be empty"

namespace Constraints

/-- The first rule that constraints break under a limit on hops.  The ceiling
holds besides the limit. -/
def violation? (constraints : Constraints) (hopsLimit : Nat) : Option Violation :=
  let limit := min hopsLimit legsCeiling
  if constraints.maxHops = 0 then some .noHops
  else if limit < constraints.maxHops then some (.tooManyHops constraints.maxHops limit)
  else if constraints.minConnection < 0 then some .negativeConnection
  else if constraints.maxConnection < constraints.minConnection then
    some (.crossedConnections constraints.minConnection constraints.maxConnection)
  else if connectionCeiling < constraints.maxConnection then some .longConnection
  else if constraints.minSeats < 1 then some .noSeats
  else if constraints.maxResults = some 0 then some .noResults
  else none

structure Valid (constraints : Constraints) (hopsLimit : Nat) : Prop where
  hops_pos : 0 < constraints.maxHops
  hops_le_limit : constraints.maxHops ≤ hopsLimit
  hops_le_ceiling : constraints.maxHops ≤ legsCeiling
  connection_nonneg : 0 ≤ constraints.minConnection
  connections_ordered : constraints.minConnection ≤ constraints.maxConnection
  connection_le_ceiling : constraints.maxConnection ≤ connectionCeiling
  seats_pos : 1 ≤ constraints.minSeats
  results_pos : constraints.maxResults ≠ some 0

theorem violation?_eq_none_iff (constraints : Constraints) (hopsLimit : Nat) :
    constraints.violation? hopsLimit = none ↔ constraints.Valid hopsLimit := by
  constructor
  · intro accepted
    simp only [violation?] at accepted
    repeat' split at accepted
    all_goals first | contradiction | skip
    rename_i hops limit negative crossed long seats results
    exact
      { hops_pos := by omega
        hops_le_limit := by omega
        hops_le_ceiling := by omega
        connection_nonneg := by omega
        connections_ordered := by omega
        connection_le_ceiling := by omega
        seats_pos := by omega
        results_pos := results }
  · intro valid
    have hops := valid.hops_pos
    have limit := valid.hops_le_limit
    have ceiling := valid.hops_le_ceiling
    have connection := valid.connection_nonneg
    have ordered := valid.connections_ordered
    have short := valid.connection_le_ceiling
    have seats := valid.seats_pos
    simp only [violation?]
    rw [if_neg (by omega), if_neg (by omega), if_neg (by omega), if_neg (by omega),
      if_neg (by omega), if_neg (by omega), if_neg valid.results_pos]

def fieldNames : List String :=
  ["max_hops", "min_connection_minutes", "max_connection_minutes", "departure_not_before",
    "min_seats", "max_results"]

/-- The constraints that a value holds.  A field that is left out stands at its
default. -/
def ofJson? (value : Json.Value) : Option Constraints := do
  let record ← value.record? fieldNames
  let standard : Constraints := {}
  let maxHops ← record.optional? "max_hops" standard.maxHops (Json.Value.unsigned? 32)
  let minConnection ←
    record.optional? "min_connection_minutes" standard.minConnection Json.Value.signed?
  let maxConnection ←
    record.optional? "max_connection_minutes" standard.maxConnection Json.Value.signed?
  let departureNotBefore ←
    record.optional? "departure_not_before" standard.departureNotBefore
      (Json.Value.nullable? Instant.ofJson?)
  let minSeats ← record.optional? "min_seats" standard.minSeats Json.Value.signed?
  let maxResults ←
    record.optional? "max_results" standard.maxResults
      (Json.Value.nullable? (Json.Value.unsigned? 64))
  return { maxHops, minConnection, maxConnection, departureNotBefore, minSeats, maxResults }

/-- Constraints as a value, with all fields. -/
def toJson (constraints : Constraints) : Json.Value :=
  .ofMembers
    [("max_hops", .ofNat constraints.maxHops),
      ("min_connection_minutes", .ofInt constraints.minConnection),
      ("max_connection_minutes", .ofInt constraints.maxConnection),
      ("departure_not_before",
        constraints.departureNotBefore.elim .null fun instant => .ofString instant.render),
      ("min_seats", .ofInt constraints.minSeats),
      ("max_results", constraints.maxResults.elim .null .ofNat)]

end Constraints
end Itineraries
