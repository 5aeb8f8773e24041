import Itineraries.Constraints
import Itineraries.Fault
import Itineraries.Pair

namespace Itineraries

/-!
# Configuration

Every setting has a default, and a configuration written as a document may
leave out what it does not change.
-/

/-- The constraints of searches that bring none of their own. -/
structure SearchDefaults where
  maxHops : Nat := 2
  minConnection : Int := 30
  maxConnection : Int := 720
  minSeats : Int := 1
deriving DecidableEq, Repr

/-- The search defaults as constraints.  Results are not limited. -/
def SearchDefaults.constraints (defaults : SearchDefaults) : Constraints where
  maxHops := defaults.maxHops
  minConnection := defaults.minConnection
  maxConnection := defaults.maxConnection
  minSeats := defaults.minSeats

/-- Which pairs a rebuild computes in advance. -/
structure WarmSettings where
  pairs : List Pair := []
  recentCapacity : Nat := 64
deriving DecidableEq, Repr

/-- The settings of an engine and its coordinator.  An interval of zero seconds between
rebuilds by the clock means that there is no clock. -/
structure Config where
  search : SearchDefaults := {}
  maxHopsLimit : Nat := 4
  rebuildIntervalSeconds : Nat := 300
  inventoryTimeoutMillis : Nat := 5000
  warm : WarmSettings := {}
  notificationCapacity : Nat := 16
deriving DecidableEq, Repr

inductive ConfigViolation where
  | hopsLimit
  | inventoryTimeout
  | notificationCapacity
  | searchDefaults (violation : Violation)
deriving DecidableEq, Repr

def ConfigViolation.message : ConfigViolation → String
  | hopsLimit => s!"max_hops_limit must be between 1 and {legsCeiling}"
  | inventoryTimeout => "inventory_timeout_ms must be positive"
  | notificationCapacity => "notification_capacity must be positive"
  | searchDefaults broken => s!"search defaults: {(Fault.violation broken).message}"

/-- Why no configuration can be had from a file. -/
inductive ConfigFault where
  | file (fault : FileFault)
  | malformed
  | invalid (violation : ConfigViolation)
deriving DecidableEq, Repr

def ConfigFault.message : ConfigFault → String
  | file fault => s!"I/O error: {fault.message}"
  | malformed => "Configuration parse error"
  | invalid broken => s!"Invalid configuration: {broken.message}"

namespace SearchDefaults

def ofJson? (value : Json.Value) : Option SearchDefaults := do
  let record ← value.record?
    ["max_hops", "min_connection_minutes", "max_connection_minutes", "min_seats"]
  let standard : SearchDefaults := {}
  let maxHops ← record.optional? "max_hops" standard.maxHops (Json.Value.unsigned? 32)
  let minConnection ←
    record.optional? "min_connection_minutes" standard.minConnection Json.Value.signed?
  let maxConnection ←
    record.optional? "max_connection_minutes" standard.maxConnection Json.Value.signed?
  let minSeats ← record.optional? "min_seats" standard.minSeats Json.Value.signed?
  return { maxHops, minConnection, maxConnection, minSeats }

end SearchDefaults

namespace WarmSettings

def ofJson? (value : Json.Value) : Option WarmSettings := do
  let record ← value.record? ["pairs", "recent_capacity"]
  let standard : WarmSettings := {}
  let pairs ← record.optional? "pairs" standard.pairs (Json.Value.list? Pair.ofJson?)
  let recentCapacity ←
    record.optional? "recent_capacity" standard.recentCapacity (Json.Value.unsigned? 64)
  return { pairs, recentCapacity }

end WarmSettings

namespace Config

def violation? (config : Config) : Option ConfigViolation :=
  if config.maxHopsLimit = 0 ∨ legsCeiling < config.maxHopsLimit then some .hopsLimit
  else if config.inventoryTimeoutMillis = 0 then some .inventoryTimeout
  else if config.notificationCapacity = 0 then some .notificationCapacity
  else (config.search.constraints.violation? config.maxHopsLimit).map .searchDefaults

/-- A configuration that breaks no rule. -/
abbrev Valid (config : Config) : Prop :=
  config.violation? = none

theorem valid_default : Valid {} := by decide

/-- The configuration that a value holds, checked for its form only. -/
def ofJson? (value : Json.Value) : Option Config := do
  let record ← value.record?
    ["search", "max_hops_limit", "rebuild_interval_secs", "inventory_timeout_ms", "warm",
      "notification_capacity"]
  let standard : Config := {}
  let search ← record.optional? "search" standard.search SearchDefaults.ofJson?
  let maxHopsLimit ←
    record.optional? "max_hops_limit" standard.maxHopsLimit (Json.Value.unsigned? 32)
  let rebuildIntervalSeconds ←
    record.optional? "rebuild_interval_secs" standard.rebuildIntervalSeconds
      (Json.Value.unsigned? 64)
  let inventoryTimeoutMillis ←
    record.optional? "inventory_timeout_ms" standard.inventoryTimeoutMillis
      (Json.Value.unsigned? 64)
  let warm ← record.optional? "warm" standard.warm WarmSettings.ofJson?
  let notificationCapacity ←
    record.optional? "notification_capacity" standard.notificationCapacity
      (Json.Value.unsigned? 64)
  return {
    search, maxHopsLimit, rebuildIntervalSeconds, inventoryTimeoutMillis, warm,
    notificationCapacity }

end Config
end Itineraries
