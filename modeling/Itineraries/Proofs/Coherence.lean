import Itineraries.Proofs.Moves

namespace Itineraries

/-!
# Coherence of the cache

Neither the pairs of a cache nor its entries tell under which constraints an
itinerary was searched, or in which graph.  That an answer from the cache is the
answer of a search all the same rests on what is ever put into it: itineraries
of the graph that the cache was made for, under the default constraints, tagged
with the version of that graph.

Searches, rebuilds and whatever else can happen keep this, and so do snapshots
that a rebuild has filled but not published yet.
-/

/-- The cache of a snapshot belongs to its graph, and each entry is what a search
in that graph answers for its pair under the default constraints. -/
structure Snapshot.Coherent (defaults : Constraints) (snapshot : Snapshot) : Prop where
  bound : snapshot.cache.version = snapshot.graph.version
  tagged : ∀ pair entry, snapshot.cache.stored? pair = some entry →
    entry.version = snapshot.graph.version
  searched : ∀ pair entry, snapshot.cache.stored? pair = some entry →
    snapshot.graph.search pair.source pair.destination defaults = .ok entry.value

namespace Snapshot.Coherent

variable {defaults : Constraints} {graph : Graph} {cache : Cache (List Itinerary)}

/-- A cache is coherent as soon as everything in it comes from one that is. -/
private theorem of_stored (coherent : Coherent defaults ⟨graph, cache⟩)
    {other : Cache (List Itinerary)} (version : other.version = cache.version)
    (stored : ∀ pair entry, other.stored? pair = some entry → cache.stored? pair = some entry) :
    Coherent defaults ⟨graph, other⟩ where
  bound := version.trans coherent.bound
  tagged pair entry found := coherent.tagged pair entry (stored pair entry found)
  searched pair entry found := coherent.searched pair entry (stored pair entry found)

theorem ofVersion (defaults : Constraints) (graph : Graph) :
    Coherent defaults ⟨graph, { version := graph.version }⟩ where
  bound := rfl
  tagged _ _ impossible := absurd impossible nofun
  searched _ _ impossible := absurd impossible nofun

theorem get (coherent : Coherent defaults ⟨graph, cache⟩) (pair : Pair) (version : Nat) :
    Coherent defaults ⟨graph, (cache.get pair version).2⟩ := by
  refine coherent.of_stored (cache.version_get pair version) fun wanted entry found => ?_
  rw [Cache.stored?_get] at found
  split at found
  · rename_i same
    rw [same]
    exact Option.eq_some_of_filter_eq_some found
  · exact found

theorem invalidate (coherent : Coherent defaults ⟨graph, cache⟩) :
    Coherent defaults ⟨graph, cache.invalidate.2⟩ :=
  coherent.of_stored rfl fun _ _ impossible => absurd impossible nofun

theorem put (coherent : Coherent defaults ⟨graph, cache⟩) {pair : Pair}
    {itineraries : List Itinerary}
    (answer : graph.search pair.source pair.destination defaults = .ok itineraries) :
    Coherent defaults ⟨graph, (cache.put pair itineraries graph.version).2⟩ := by
  have bound : cache.version = graph.version := coherent.bound
  have stored := fun wanted => cache.stored?_put pair wanted itineraries
  rw [bound] at stored
  refine ⟨(cache.version_put ..).trans bound, ?_, ?_⟩
  · intro wanted entry found
    rw [stored] at found
    split at found
    · exact Option.some.inj found ▸ rfl
    · exact coherent.tagged wanted entry found
  · intro wanted entry found
    rw [stored] at found
    split at found
    · rename_i same
      rw [same, ← Option.some.inj found]
      exact answer
    · exact coherent.searched wanted entry found

theorem warmPair {warmed : Cache (List Itinerary) × Nat}
    (coherent : Coherent defaults ⟨graph, warmed.1⟩) (pair : Pair) :
    Coherent defaults ⟨graph, (Engine.warmPair graph defaults warmed pair).1⟩ := by
  unfold Engine.warmPair
  split
  · exact coherent
  · rename_i answer
    exact coherent.put answer

/-- A rebuild fills the cache with answers only. -/
theorem warm (defaults : Constraints) (graph : Graph) (pairs : List Pair) :
    Coherent defaults ⟨graph, (Engine.warm graph defaults pairs).1⟩ := by
  suffices filled : ∀ warmed : Cache (List Itinerary) × Nat, Coherent defaults ⟨graph, warmed.1⟩ →
      Coherent defaults ⟨graph, (pairs.foldl (Engine.warmPair graph defaults) warmed).1⟩ from
    filled _ (ofVersion defaults graph)
  induction pairs with
  | nil => exact fun _ coherent => coherent
  | cons pair rest inductionHypothesis =>
    intro warmed coherent
    exact inductionHypothesis _ (coherent.warmPair pair)

/-- What a coherent cache answers for its version is the answer of a search. -/
theorem search_of_get (coherent : Coherent defaults ⟨graph, cache⟩) {pair : Pair} {version : Nat}
    {itineraries : List Itinerary} (found : (cache.get pair version).1 = some itineraries) :
    graph.search pair.source pair.destination defaults = .ok itineraries :=
  coherent.searched pair _ ((cache.get_fst_eq_some_iff pair version itineraries).mp found)

end Snapshot.Coherent

namespace Engine

/-! ## Searches of an engine -/

theorem search_cases (engine : Engine) (pair : Pair) (given : Option Constraints) :
    (∃ broken,
      (given.getD engine.defaults).violation? engine.config.maxHopsLimit = some broken ∧
        engine.search pair given = (.error (.violation broken), engine)) ∨
    ((given.getD engine.defaults).violation? engine.config.maxHopsLimit = none ∧
      (given.getD engine.defaults = engine.defaults ∧
          engine.search pair given = engine.searchCached pair ∨
        given.getD engine.defaults ≠ engine.defaults ∧
          engine.search pair given =
            engine.searchAfresh pair (given.getD engine.defaults))) := by
  cases checked : (given.getD engine.defaults).violation? engine.config.maxHopsLimit with
  | some broken =>
    refine Or.inl ⟨broken, rfl, ?_⟩
    simp only [search, checked]
  | none =>
    refine Or.inr ⟨rfl, ?_⟩
    by_cases standard : given.getD engine.defaults = engine.defaults
    · refine Or.inl ⟨standard, ?_⟩
      rw [standard] at checked
      simp only [search, standard, checked, if_true]
    · refine Or.inr ⟨standard, ?_⟩
      simp only [search, standard, checked, if_false]

/-- Where a search goes through the cache, it answers as if it did not. -/
theorem searchCached_fst {engine : Engine} (coherent : engine.current.Coherent engine.defaults)
    (pair : Pair) :
    (engine.searchCached pair).1 =
      engine.current.graph.search pair.source pair.destination engine.defaults := by
  unfold searchCached
  split
  · rename_i itineraries cache looked
    exact (coherent.search_of_get (congrArg Prod.fst looked)).symm
  · split
    · rename_i fault failed
      exact failed.symm
    · rename_i itineraries answer
      exact answer.symm

theorem searchCached_coherent {engine : Engine}
    (coherent : engine.current.Coherent engine.defaults) (pair : Pair) :
    (engine.searchCached pair).2.current.Coherent engine.defaults := by
  have looked := coherent.get pair engine.version
  unfold searchCached
  split
  · rename_i itineraries cache got
    rw [got] at looked
    exact looked
  · rename_i cache got
    rw [got] at looked
    split
    · exact looked
    · rename_i itineraries answer
      exact looked.put answer

/-- A search answers with the first fault of its constraints, or else with what
a search in the current graph answers. -/
theorem search_fst {engine : Engine} (coherent : engine.current.Coherent engine.defaults)
    (pair : Pair) (given : Option Constraints) :
    (engine.search pair given).1 =
      match (given.getD engine.defaults).violation? engine.config.maxHopsLimit with
      | some broken => .error (.violation broken)
      | none =>
        engine.current.graph.search pair.source pair.destination
          (given.getD engine.defaults) := by
  rcases engine.search_cases pair given with
    ⟨broken, checked, same⟩ | ⟨checked, ⟨standard, same⟩ | ⟨_, same⟩⟩
  · rw [same, checked]
  · rw [same, checked, standard]
    exact searchCached_fst coherent pair
  · rw [same, checked]
    unfold searchAfresh
    split
    · rename_i failed
      exact failed.symm
    · rename_i answer
      exact answer.symm

/-- A search changes the cache and the policy and nothing else. -/
theorem search_snd (engine : Engine) (pair : Pair) (given : Option Constraints) :
    ∃ cache policy,
      (engine.search pair given).2 = { engine.withCache cache with policy := policy } := by
  rcases engine.search_cases pair given with
    ⟨_, _, same⟩ | ⟨_, ⟨_, same⟩ | ⟨_, same⟩⟩ <;> rw [same]
  · exact ⟨_, _, rfl⟩
  · unfold searchCached
    split
    · exact ⟨_, _, rfl⟩
    · rename_i cache _
      split
      · exact ⟨cache, engine.policy, rfl⟩
      · exact ⟨_, _, rfl⟩
  · unfold searchAfresh
    split <;> exact ⟨_, _, rfl⟩

theorem search_coherent {engine : Engine} (coherent : engine.current.Coherent engine.defaults)
    (pair : Pair) (given : Option Constraints) :
    (engine.search pair given).2.current.Coherent engine.defaults := by
  rcases engine.search_cases pair given with
    ⟨_, _, same⟩ | ⟨_, ⟨_, same⟩ | ⟨_, same⟩⟩ <;> rw [same]
  · exact coherent
  · exact searchCached_coherent coherent pair
  · unfold searchAfresh
    split <;> exact coherent

/-! ## Snapshots of an engine -/

/-- The next snapshot has the graph of the flights, under the next version, and
the cache that goes with it. -/
theorem nextSnapshot_eq_ok_iff (engine : Engine) (flights : List Flight) (snapshot : Snapshot)
    (warmed : Nat) :
    engine.nextSnapshot flights = .ok (snapshot, warmed) ↔
      Graph.build flights (engine.version + 1) = .ok snapshot.graph ∧
        warm snapshot.graph engine.defaults engine.policy.pairs = (snapshot.cache, warmed) := by
  unfold nextSnapshot
  split
  · rename_i failed
    rw [failed]
    exact ⟨fun impossible => absurd impossible nofun, fun both => absurd both.1 nofun⟩
  · rename_i graph built
    rw [built]
    constructor
    · intro same
      rcases Prod.mk.inj (Except.ok.inj same) with ⟨rfl, rfl⟩
      exact ⟨rfl, rfl⟩
    · rintro ⟨same, filled⟩
      rw [Except.ok.inj same, filled]

theorem nextSnapshot_coherent {engine : Engine} {flights : List Flight} {snapshot : Snapshot}
    {warmed : Nat} (made : engine.nextSnapshot flights = .ok (snapshot, warmed)) :
    snapshot.Coherent engine.defaults := by
  rcases (nextSnapshot_eq_ok_iff engine flights snapshot warmed).mp made with ⟨_, filled⟩
  have coherent := Snapshot.Coherent.warm engine.defaults snapshot.graph engine.policy.pairs
  rw [filled] at coherent
  exact coherent

/-- A new engine has the configuration that it was made with, and an empty
snapshot. -/
theorem withPolicy_eq_ok {config : Config} {policy : WarmPolicy} {engine : Engine}
    (created : withPolicy config policy = .ok engine) :
    engine.config = config ∧ engine.current = Snapshot.empty := by
  unfold withPolicy at created
  split at created
  · rw [← Except.ok.inj created]
    exact ⟨rfl, rfl⟩
  · cases created

end Engine

namespace Rebuild
namespace Coordinator

/-! ## Runs of a coordinator -/

/-- The current snapshot is coherent, and so is the one that a rebuild is about
to publish. -/
structure Coherent (config : Config) (coordinator : Coordinator) : Prop where
  configured : coordinator.engine.config = config
  current : coordinator.engine.current.Coherent config.search.constraints
  decided : ∀ demand covers snapshot warmed,
    coordinator.running = some ⟨demand, covers, .decided (.ok (snapshot, warmed))⟩ →
      snapshot.Coherent config.search.constraints

theorem Coherent.defaults {config : Config} {coordinator : Coordinator}
    (coherent : coordinator.Coherent config) :
    coordinator.engine.defaults = config.search.constraints := by
  rw [Engine.defaults, coherent.configured]

theorem Coherent.search {config : Config} {coordinator : Coordinator}
    (coherent : coordinator.Coherent config) (pair : Pair) (given : Option Constraints) :
    Coherent config
      { coordinator with engine := (coordinator.engine.search pair given).2 } := by
  have current := coherent.current
  rw [← coherent.defaults] at current
  have searched := Engine.search_coherent current pair given
  rw [coherent.defaults] at searched
  rcases coordinator.engine.search_snd pair given with ⟨cache, policy, changed⟩
  refine ⟨?_, searched, coherent.decided⟩
  rw [changed]
  exact coherent.configured

theorem outcomeOf_eq_ok {coordinator : Coordinator} {readEnd : ReadEnd} {snapshot : Snapshot}
    {warmed : Nat} (succeeded : coordinator.outcomeOf readEnd = .ok (snapshot, warmed)) :
    ∃ flights, coordinator.inventory.load = .ok flights ∧
      coordinator.engine.nextSnapshot flights = .ok (snapshot, warmed) := by
  cases readEnd with
  | loaded =>
    cases load : coordinator.inventory.load with
    | error fault =>
      rw [outcomeOf, flightsRead, load] at succeeded
      cases succeeded
    | ok flights =>
      rw [outcomeOf, flightsRead, load] at succeeded
      exact ⟨flights, rfl, succeeded⟩
  | failed fault => cases succeeded
  | timedOut => cases succeeded

theorem version_of_outcomeOf {coordinator : Coordinator} {readEnd : ReadEnd} {snapshot : Snapshot}
    {warmed : Nat} (succeeded : coordinator.outcomeOf readEnd = .ok (snapshot, warmed)) :
    snapshot.version = coordinator.engine.version + 1 := by
  rcases outcomeOf_eq_ok succeeded with ⟨flights, _, made⟩
  have built := ((Engine.nextSnapshot_eq_ok_iff _ _ _ _).mp made).1
  rw [Snapshot.version, (Graph.eq_ofBoardable_of_build built).2]
  rfl

theorem Coherent.initial {config : Config} {policy : WarmPolicy} {engine : Engine}
    (created : Engine.withPolicy config policy = .ok engine) (inventory : Inventory) :
    Coherent config { engine := engine, inventory := inventory } := by
  rcases Engine.withPolicy_eq_ok created with ⟨configured, empty⟩
  refine ⟨configured, ?_, fun _ _ _ _ impossible => absurd impossible nofun⟩
  change engine.current.Coherent _
  rw [empty]
  exact .ofVersion _ Graph.empty

/-- Every step keeps the cache coherent: a search fills it with its own answers,
and a rebuild publishes what it has filled in the same way. -/
theorem Coherent.step {config : Config} {coordinator next : Coordinator} {move : Move}
    (coherent : coordinator.Coherent config) (step : Step coordinator move next) :
    next.Coherent config := by
  have defaults := coherent.defaults
  rcases coherent with ⟨configured, current, decided⟩
  cases step with
  | stay | start | ask | change | call | stop | take | leave | satisfy =>
    exact ⟨configured, current, decided⟩
  | begin =>
    exact ⟨configured, current, fun _ _ _ _ impossible => absurd impossible nofun⟩
  | endRead readEnd =>
    refine ⟨configured, current, fun _ _ snapshot warmed found => ?_⟩
    have outcome := Progress.decided.inj (Running.mk.inj (Option.some.inj found)).2.2
    rcases outcomeOf_eq_ok outcome with ⟨flights, _, made⟩
    exact defaults ▸ Engine.nextSnapshot_coherent made
  | @finish demand covers outcome result found _ =>
    rcases outcome with fault | ⟨snapshot, warmed⟩
    · exact ⟨configured, current, fun _ _ _ _ impossible => absurd impossible nofun⟩
    · exact ⟨configured, decided _ _ _ _ found, fun _ _ _ _ impossible =>
        absurd impossible nofun⟩
  | search pair given => exact Coherent.search ⟨configured, current, decided⟩ pair given
  | invalidate => exact ⟨configured, current.invalidate, decided⟩

theorem Coherent.run {config : Config} {policy : WarmPolicy} {engine : Engine}
    (created : Engine.withPolicy config policy = .ok engine) (inventory : Inventory)
    (moves : List Move) :
    Coherent config (run { engine := engine, inventory := inventory } moves) :=
  run_induction (.initial created inventory) fun _ _ _ _ coherent step => coherent.step step

/-- The searches that succeed are those whose constraints keep to the configured
limit and which succeed in the current graph. -/
theorem Coherent.search_eq_ok_iff {config : Config} {coordinator : Coordinator}
    (coherent : coordinator.Coherent config) (pair : Pair) (given : Option Constraints)
    (itineraries : List Itinerary) :
    (coordinator.search pair given).1 = .ok itineraries ↔
      (given.getD config.search.constraints).violation? config.maxHopsLimit = none ∧
        coordinator.engine.current.graph.search pair.source pair.destination
          (given.getD config.search.constraints) = .ok itineraries := by
  have current := coherent.current
  rw [← coherent.defaults] at current ⊢
  have answer := Engine.search_fst current pair given
  rw [coherent.configured] at answer
  change (coordinator.engine.search pair given).1 = _ ↔ _
  rw [answer]
  split
  · rename_i broken
    rw [broken]
    exact ⟨fun impossible => absurd impossible nofun, fun both => absurd both.1 nofun⟩
  · rename_i accepted
    exact (and_iff_right accepted).symm

/-- Whatever has happened to an engine since it was made, a search answers what
a search in the current graph answers, whether or not the answer comes from the
cache: exactly the searches whose constraints keep to the configured limit and
which succeed in that graph succeed, and with the same itineraries. -/
theorem cached_search_eq_plain_search {config : Config} {policy : WarmPolicy} {engine : Engine}
    (created : Engine.withPolicy config policy = .ok engine) (inventory : Inventory)
    (moves : List Move) :
    let reached := run { engine := engine, inventory := inventory } moves
    reached.engine.current.Coherent config.search.constraints ∧
      ∀ (pair : Pair) (given : Option Constraints) (itineraries : List Itinerary),
        (reached.search pair given).1 = .ok itineraries ↔
          (given.getD config.search.constraints).violation? config.maxHopsLimit = none ∧
            reached.engine.current.graph.search pair.source pair.destination
              (given.getD config.search.constraints) = .ok itineraries := by
  intro reached
  have coherent : reached.Coherent config := .run created inventory moves
  exact ⟨coherent.current, coherent.search_eq_ok_iff⟩

def shuttle : Flight :=
  ⟨"F", "A", "B", (Time.Instant.ofParts? 0 0 0).get rfl, (Time.Instant.ofParts? 0 60 0).get rfl,
    ⟨0⟩, 1⟩

def warmEngine : Engine :=
  ⟨{}, Config.valid_default, .fixed [⟨"A", "B"⟩], Snapshot.empty, []⟩

/-- The engine after a rebuild and after searches past the cache and through
it. -/
private def warmed : Coordinator :=
  run { engine := warmEngine, inventory := .memory {} }
    [.upsert shuttle, .call .manual, .serveFirst, .endRead .loaded, .finish,
      .search ⟨"A", "B"⟩ (some { maxHops := 1 }), .search ⟨"A", "B"⟩ none]

theorem warmed_search_eq_plain_search :
    Engine.withPolicy {} (.fixed [⟨"A", "B"⟩]) = .ok warmEngine ∧
      (warmed.search ⟨"A", "B"⟩ none).1 =
        .ok (Query.best ⟨warmed.engine.current.graph, "A", "B", {}⟩) := by
  have created : Engine.withPolicy {} (.fixed [⟨"A", "B"⟩]) = .ok warmEngine := rfl
  have searches := (cached_search_eq_plain_search created (.memory {})
    [.upsert shuttle, .call .manual, .serveFirst, .endRead .loaded, .finish,
      .search ⟨"A", "B"⟩ (some { maxHops := 1 }), .search ⟨"A", "B"⟩ none]).2
  exact ⟨created, (searches ⟨"A", "B"⟩ none _).mpr ⟨by decide, rfl⟩⟩

end Coordinator
end Rebuild
end Itineraries
