import Itineraries.Cache
import Itineraries.Config
import Itineraries.Search
import Itineraries.WarmPairs

namespace Itineraries

/-!
# The engine

An engine answers searches from one snapshot at a time: a graph and the cache
that belongs to it.  Searches under the default constraints go through the
cache.  Under other constraints they are computed every time, since the cache
knows nothing of constraints.

A snapshot that has been replaced is kept, because whoever holds it goes on
seeing it as it was.
-/

/-- A graph with the cache for its version. -/
structure Snapshot where
  graph : Graph
  cache : Cache (List Itinerary)

def Snapshot.empty : Snapshot where
  graph := Graph.empty
  cache := { version := 0 }

instance : Inhabited Snapshot :=
  ⟨Snapshot.empty⟩

/-- The version of a snapshot is that of its graph. -/
def Snapshot.version (snapshot : Snapshot) : Nat :=
  snapshot.graph.version

/-- An engine with a configuration that breaks no rule.  Snapshots that have been replaced
are kept, latest first, for those who still hold one of them. -/
structure Engine where
  config : Config
  valid : config.Valid
  policy : WarmPolicy
  current : Snapshot := Snapshot.empty
  retired : List Snapshot := []

namespace Engine

/-- An engine that chooses its warm pairs by a policy. -/
def withPolicy (config : Config) (policy : WarmPolicy) : Except ConfigViolation Engine :=
  match checked : config.violation? with
  | none => .ok { config := config, valid := checked, policy := policy }
  | some broken => .error broken

/-- An engine that warms the configured pairs and those asked for last. -/
def ofConfig (config : Config) : Except ConfigViolation Engine :=
  withPolicy config (.combined config.warm.pairs ⟨config.warm.recentCapacity, []⟩)

/-- The constraints of searches that bring none of their own. -/
def defaults (engine : Engine) : Constraints :=
  engine.config.search.constraints

def version (engine : Engine) : Nat :=
  engine.current.version

def withCache (engine : Engine) (cache : Cache (List Itinerary)) : Engine :=
  { engine with current := { engine.current with cache := cache } }

def record (engine : Engine) (pair : Pair) : Engine :=
  { engine with policy := engine.policy.record pair }

def publish (engine : Engine) (snapshot : Snapshot) : Engine :=
  { engine with
    current := snapshot
    retired := engine.current :: engine.retired }

/-- The snapshot of a version, current or replaced. -/
def snapshot? (engine : Engine) (version : Nat) : Option Snapshot :=
  (engine.current :: engine.retired).find? fun snapshot => snapshot.version = version

/-- Drop all entries of the current cache.  The answer is their number. -/
def invalidate (engine : Engine) : Nat × Engine :=
  let (dropped, cache) := engine.current.cache.invalidate
  (dropped, engine.withCache cache)

/-- Search through the cache under the default constraints. -/
def searchCached (engine : Engine) (pair : Pair) : Except Fault (List Itinerary) × Engine :=
  match engine.current.cache.get pair engine.version with
  | (some itineraries, cache) => (.ok itineraries, (engine.withCache cache).record pair)
  | (none, cache) =>
    match engine.current.graph.search pair.source pair.destination engine.defaults with
    | .error fault => (.error fault, engine.withCache cache)
    | .ok itineraries =>
      let (_, filled) := cache.put pair itineraries engine.version
      (.ok itineraries, (engine.withCache filled).record pair)

def searchAfresh (engine : Engine) (pair : Pair) (constraints : Constraints) :
    Except Fault (List Itinerary) × Engine :=
  match engine.current.graph.search pair.source pair.destination constraints with
  | .error fault => (.error fault, engine)
  | .ok itineraries => (.ok itineraries, engine.record pair)

/-- The itineraries of a pair under given constraints, or under the default
ones if none are given.  Constraints must keep to the configured limit on hops
as well. -/
def search (engine : Engine) (pair : Pair) (given : Option Constraints) :
    Except Fault (List Itinerary) × Engine :=
  let constraints := given.getD engine.defaults
  match constraints.violation? engine.config.maxHopsLimit with
  | some broken => (.error (.violation broken), engine)
  | none =>
    if constraints = engine.defaults then engine.searchCached pair
    else engine.searchAfresh pair constraints

/-! ## Snapshots from an inventory -/

/-- Store the itineraries of a pair in a cache and count it, if it was stored.
A pair that cannot be searched is passed over. -/
def warmPair (graph : Graph) (constraints : Constraints)
    (warmed : Cache (List Itinerary) × Nat) (pair : Pair) : Cache (List Itinerary) × Nat :=
  match graph.search pair.source pair.destination constraints with
  | .error _ => warmed
  | .ok itineraries =>
    let (accepted, filled) := warmed.1.put pair itineraries graph.version
    (filled, if accepted then warmed.2 + 1 else warmed.2)

/-- A cache with the itineraries of some pairs, and the number of pairs that
were stored. -/
def warm (graph : Graph) (constraints : Constraints) (pairs : List Pair) :
    Cache (List Itinerary) × Nat :=
  pairs.foldl (warmPair graph constraints) ({ version := graph.version }, 0)

/-- The next snapshot, made from the flights of an inventory, and the number of
pairs that it was warmed with. -/
def nextSnapshot (engine : Engine) (flights : List Flight) : Except Fault (Snapshot × Nat) :=
  match Graph.build flights (engine.version + 1) with
  | .error fault => .error fault
  | .ok graph =>
    let (cache, warmed) := warm graph engine.defaults engine.policy.pairs
    .ok (⟨graph, cache⟩, warmed)

end Engine
end Itineraries
