import Mathlib.Data.List.Induction
import Itineraries.Proofs.Chronicle
import Itineraries.Proofs.Stages

namespace Itineraries

/-!
# What is stored in advance

Warm pairs are not checked when they are configured, and a policy may list a pair twice.
A pair with an empty name is passed over, and a pair that comes again replaces its own
entry by the same itineraries.  So a cache that has been filled for some pairs has an entry
for each of them that can be searched, in whatever order they came, and nobody has looked
anything up in it yet.

The pairs that were stored are counted as they come.  If a pair comes twice, this is more
than the cache has entries.  An engine with configured pairs lists no pair twice, although
the configuration and the searches may name the same ones, and whatever has been searched
while the inventory was read.
-/

/-- Whether both places of a pair have a name. -/
def Pair.IsNamed (pair : Pair) : Prop :=
  pair.source ≠ "" ∧ pair.destination ≠ ""

instance (pair : Pair) : Decidable pair.IsNamed :=
  inferInstanceAs (Decidable (_ ∧ _))

theorem Pair.not_isNamed_iff (pair : Pair) :
    ¬pair.IsNamed ↔ pair.source = "" ∨ pair.destination = "" := by
  rw [IsNamed, not_and_or, not_ne_iff, not_ne_iff]

/-! ## Policies -/

theorem nodup_eraseDups (pairs : List Pair) : pairs.eraseDups.Nodup := by
  match pairs with
  | [] => exact List.nodup_nil
  | pair :: rest =>
    rw [List.eraseDups_cons]
    refine List.nodup_cons.mpr ⟨?_, nodup_eraseDups _⟩
    intro again
    have other := (List.mem_filter.mp (List.mem_eraseDups.mp again)).2
    rw [beq_self_eq_true] at other
    cases other
termination_by pairs.length
decreasing_by exact Nat.lt_succ_of_le (List.length_filter_le _ _)

namespace Engine

theorem policy_search (engine : Engine) (pair : Pair) (given : Option Constraints) :
    (engine.search pair given).2.policy =
      if (engine.search pair given).1.isOk then engine.policy.record pair else engine.policy := by
  rcases engine.search_cases pair given with
    ⟨_, _, same⟩ | ⟨_, ⟨_, same⟩ | ⟨_, same⟩⟩ <;> rw [same]
  · rfl
  · unfold searchCached
    split
    · rfl
    · split <;> rfl
  · unfold searchAfresh
    split <;> rfl

theorem policy_of_withPolicy {config : Config} {policy : WarmPolicy} {engine : Engine}
    (created : withPolicy config policy = .ok engine) : engine.policy = policy := by
  unfold withPolicy at created
  split at created
  · rw [← Except.ok.inj created]
  · cases created

theorem policy_of_ofConfig {config : Config} {engine : Engine}
    (created : ofConfig config = .ok engine) :
    engine.policy = .combined config.warm.pairs ⟨config.warm.recentCapacity, []⟩ :=
  policy_of_withPolicy created

end Engine

/-! ## Filled caches -/

namespace Cache

variable {α : Type} (cache : Cache α)

theorem pairs_perm : cache.pairs.Perm (cache.entries.map (·.1)) :=
  List.mergeSort_perm _ _

theorem counts_put (pair : Pair) (value : α) :
    (cache.put pair value cache.version).2.counts = cache.counts := by
  rw [put, if_pos rfl]

/-- What is accepted adds its pair to those that are stored. -/
theorem isSome_stored?_put (pair wanted : Pair) (value : α) :
    ((cache.put pair value cache.version).2.stored? wanted).isSome ↔
      (cache.stored? wanted).isSome ∨ wanted = pair := by
  rw [stored?_put]
  split
  · rename_i same
    exact iff_of_true rfl (Or.inr same)
  · rename_i other
    exact (or_iff_left other).symm

/-- A cache has as many entries as there are pairs that have one. -/
theorem size_eq_countP {pairs : List Pair} (distinct : pairs.Nodup) {test : Pair → Bool}
    (stored : ∀ pair, (cache.stored? pair).isSome ↔ pair ∈ pairs ∧ test pair) :
    cache.size = pairs.countP test := by
  have listed : cache.pairs.Perm (pairs.filter test) := by
    refine (List.perm_ext_iff_of_nodup (cache.pairs_perm.nodup_iff.mpr cache.pairs_nodup)
      (distinct.filter _)).mpr fun pair => ?_
    rw [cache.mem_pairs, stored, List.mem_filter]
  rw [size, List.countP_eq_length_filter, ← listed.length_eq, cache.pairs_perm.length_eq,
    List.length_map]

end Cache

/-- A snapshot whose cache has been filled for some pairs and not been used yet. -/
structure Snapshot.IsWarmedWith (defaults : Constraints) (pairs : List Pair)
    (snapshot : Snapshot) : Prop extends snapshot.Coherent defaults where
  stored_iff : ∀ pair, (snapshot.cache.stored? pair).isSome ↔ pair ∈ pairs ∧ pair.IsNamed
  unused : snapshot.cache.counts = {}

theorem Snapshot.IsWarmedWith.size_eq {defaults : Constraints} {pairs : List Pair}
    {snapshot : Snapshot} (filled : snapshot.IsWarmedWith defaults pairs)
    (distinct : pairs.Nodup) : snapshot.cache.size = pairs.countP (·.IsNamed) :=
  snapshot.cache.size_eq_countP distinct fun pair => by
    rw [filled.stored_iff, decide_eq_true_eq]

namespace Engine

section

variable {graph : Graph} {defaults : Constraints}

theorem warmPair_of_not_isNamed (accepted : defaults.violation? legsCeiling = none)
    (warmed : Cache (List Itinerary) × Nat) {pair : Pair} (unnamed : ¬pair.IsNamed) :
    warmPair graph defaults warmed pair = warmed := by
  simp only [warmPair, Graph.search_of_accepted accepted,
    if_pos (pair.not_isNamed_iff.mp unnamed)]

/-- Any other pair is stored, whether or not it has been stored before. -/
theorem warmPair_of_isNamed (accepted : defaults.violation? legsCeiling = none)
    {cache : Cache (List Itinerary)} (bound : cache.version = graph.version) (count : Nat)
    {pair : Pair} (named : pair.IsNamed) :
    warmPair graph defaults (cache, count) pair =
      ((cache.put pair (Query.best ⟨graph, pair.source, pair.destination, defaults⟩)
        cache.version).2, count + 1) := by
  simp only [warmPair, Graph.search_of_accepted accepted, if_neg (not_or.mpr named), ← bound,
    Cache.put, if_true]

theorem warm_concat (pairs : List Pair) (pair : Pair) :
    warm graph defaults (pairs ++ [pair]) =
      warmPair graph defaults (warm graph defaults pairs) pair :=
  List.foldl_append

/-- The cache that is filled for some pairs, and how many of them are counted. -/
theorem warm_spec (accepted : defaults.violation? legsCeiling = none) (graph : Graph)
    (pairs : List Pair) :
    Snapshot.IsWarmedWith defaults pairs ⟨graph, (warm graph defaults pairs).1⟩ ∧
      (warm graph defaults pairs).2 = pairs.countP (·.IsNamed) := by
  induction pairs using List.reverseRecOn with
  | nil =>
    exact ⟨{ Snapshot.Coherent.ofVersion defaults graph with
      stored_iff := fun pair => iff_of_false nofun fun listed => nomatch listed.1
      unused := rfl }, rfl⟩
  | append_singleton pairs pair inductionHypothesis =>
    rcases inductionHypothesis with ⟨filled, counted⟩
    have coherent := Snapshot.Coherent.warm defaults graph (pairs ++ [pair])
    rw [warm_concat] at coherent ⊢
    rw [List.countP_append, ← counted]
    have listed : ∀ wanted, (wanted ∈ pairs ++ [pair] ∧ wanted.IsNamed) ↔
        (wanted ∈ pairs ∧ wanted.IsNamed) ∨ (wanted = pair ∧ pair.IsNamed) := by
      intro wanted
      rw [List.mem_append, List.mem_singleton, or_and_right]
      exact or_congr_right (and_congr_right fun same => by rw [same])
    by_cases named : pair.IsNamed
    · rw [List.countP_singleton, if_pos (decide_eq_true named)]
      rw [warmPair_of_isNamed accepted filled.bound _ named] at coherent ⊢
      refine ⟨{ coherent with stored_iff := fun wanted => ?_, unused := ?_ }, rfl⟩
      · rw [listed, ← filled.stored_iff, and_iff_left named]
        exact Cache.isSome_stored?_put _ _ _ _
      · exact (Cache.counts_put _ _ _).trans filled.unused
    · rw [List.countP_singleton, if_neg (by rwa [decide_eq_true_eq])]
      rw [warmPair_of_not_isNamed accepted _ named] at coherent ⊢
      refine ⟨{ coherent with stored_iff := fun wanted => ?_, unused := filled.unused }, rfl⟩
      rw [listed, ← filled.stored_iff, or_iff_left fun added => named added.2]

end

theorem defaults_accepted (engine : Engine) :
    engine.defaults.violation? legsCeiling = none :=
  Constraints.violation?_ceiling engine.valid.defaults_accepted

/-- Whether the next snapshot can be made does not depend on the warm pairs. -/
theorem exists_nextSnapshot_iff (engine : Engine) (flights : List Flight) :
    (∃ made, engine.nextSnapshot flights = .ok made) ↔ (flights.map (·.id)).Nodup := by
  constructor
  · rintro ⟨⟨snapshot, warmed⟩, made⟩
    have built := ((engine.nextSnapshot_eq_ok_iff flights snapshot warmed).mp made).1
    exact (Graph.eq_ofBoardable_of_build built).1
  · intro distinct
    rw [nextSnapshot, Graph.build_of_nodup (engine.version + 1) distinct]
    exact ⟨_, rfl⟩

theorem isWarmedWith_of_nextSnapshot {engine : Engine} {flights : List Flight}
    {snapshot : Snapshot} {warmed : Nat}
    (made : engine.nextSnapshot flights = .ok (snapshot, warmed)) :
    snapshot.IsWarmedWith engine.defaults engine.policy.pairs ∧
      warmed = engine.policy.pairs.countP (·.IsNamed) := by
  have filled := ((engine.nextSnapshot_eq_ok_iff flights snapshot warmed).mp made).2
  rcases warm_spec engine.defaults_accepted snapshot.graph engine.policy.pairs with
    ⟨warm, counted⟩
  rw [filled] at warm counted
  exact ⟨warm, counted⟩

end Engine

namespace Rebuild
namespace Coordinator

/-! ## What a rebuild has made -/

section

variable {coordinator next start : Coordinator} {move : Move} {moves : List Move}
  {episode : Episode} {read : Nat} {flights : List Flight}

/-- What is decided stays decided until the rebuild ends. -/
theorem Step.staysDecided (step : Step coordinator move next) {demand : Demand} {covers : Nat}
    {outcome : Except Fault (Snapshot × Nat)}
    (decided : coordinator.running = some ⟨demand, covers, .decided outcome⟩)
    (goesOn : next.running ≠ none) :
    next.running = some ⟨demand, covers, .decided outcome⟩ := by
  rcases step.rebuild_cases with ⟨same, _⟩ | ⟨_, _, idle, _⟩ | ⟨_, _, _, reading, _⟩ |
    ⟨_, _, _, again, ended⟩
  · exact same.trans decided
  · cases idle.symm.trans decided
  · cases reading.symm.trans decided
  · rw [ended, finish_of_decided again] at goesOn
    exact absurd rfl goesOn

/-- The outcome of an episode is what its read has led to. -/
theorem ReadsAt.outcome_eq (ran : start.Ran moves episode)
    (reads : start.ReadsAt moves episode read flights) :
    episode.outcome = (start.after moves read).engine.nextSnapshot flights := by
  suffices decided : ∀ moment, read < moment → moment ≤ episode.ended →
      (start.after moves moment).running = some ⟨episode.demand, episode.covers,
        .decided ((start.after moves read).engine.nextSnapshot flights)⟩ by
    have found := ran.decided.symm.trans (decided _ reads.within (Nat.le_refl _))
    exact Progress.decided.inj (Running.mk.inj (Option.some.inj found)).2.2
  intro moment later
  induction later with
  | refl =>
    intro _
    have brought : (start.after moves read).outcomeOf .loaded =
        (start.after moves read).engine.nextSnapshot flights := by
      rw [outcomeOf, flightsRead, reads.load]
      rfl
    have ended : (start.after moves read).apply (.endRead .loaded) =
        (start.after moves read).endRead .loaded := rfl
    rw [after_succ _ _ reads.made, ended, endRead_of_reading _ reads.reading, brought]
  | @step moment later inductionHypothesis =>
    intro within
    have since : episode.began < moment := Nat.lt_trans reads.since later
    rcases ran.inProgress (moment + 1) (Nat.lt_succ_of_lt since) within with ⟨_, running⟩
    rcases start.step_after moves moment with ⟨_, step, _⟩
    refine step.staysDecided (inductionHypothesis (Nat.le_of_succ_le within)) ?_
    rw [running]
    exact Option.some_ne_none _

/-- What an episode that has succeeded leaves as the current snapshot. -/
theorem ReadsAt.published (ran : start.Ran moves episode)
    (reads : start.ReadsAt moves episode read flights) {summary : Summary}
    (succeeded : episode.result = .ok summary) :
    let reader := (start.after moves read).engine
    let published := (start.after moves (episode.ended + 1)).engine.current
    Graph.build flights summary.graphVersion = .ok published.graph ∧
      published.IsWarmedWith reader.defaults reader.policy.pairs ∧
      summary.warmedPairs = reader.policy.pairs.countP (·.IsNamed) := by
  intro reader published
  have outcome := reads.outcome_eq ran
  have decided := ran.decided
  rcases made : reader.nextSnapshot flights with fault | ⟨snapshot, warmed⟩
  · rw [Episode.result, outcome, made] at succeeded
    cases succeeded
  · rw [made] at outcome
    rw [outcome] at decided
    rw [Episode.result, outcome] at succeeded
    cases succeeded
    have current : published = snapshot := by
      change (start.after moves (episode.ended + 1)).engine.current = snapshot
      rw [ran.finish, finish_of_decided decided]
      rfl
    have built := ((reader.nextSnapshot_eq_ok_iff _ _ _).mp made).1
    have version : snapshot.version = reader.version + 1 := by
      rw [Snapshot.version, (Graph.eq_ofBoardable_of_build built).2]
      rfl
    rw [← version] at built
    rw [current]
    exact ⟨built, Engine.isWarmedWith_of_nextSnapshot made⟩

/-- An engine with configured pairs goes on to warm these and those asked for last. -/
theorem exists_policy_of_ofConfig {config : Config} {engine : Engine}
    (created : Engine.ofConfig config = .ok engine) (inventory : Inventory) (moves : List Move)
    (moment : Nat) :
    ∃ recent, ((ofEngine engine inventory).after moves moment).engine.policy =
      .combined config.warm.pairs recent := by
  refine after_induction _ _ (motive := fun state =>
    ∃ recent, state.engine.policy = .combined config.warm.pairs recent) ?_ (Nat.zero_le moment)
    ⟨_, Engine.policy_of_ofConfig created⟩
  rintro coordinator next move step ⟨recent, policy⟩
  cases step with
  | search pair given =>
    rw [Engine.policy_search, policy]
    split
    · exact ⟨recent.record pair, rfl⟩
    · exact ⟨recent, rfl⟩
  | @finish _ _ outcome => cases outcome <;> exact ⟨recent, policy⟩
  | _ => exact ⟨recent, policy⟩

/-- Such an engine lists no pair twice. -/
theorem nodup_pairs_of_ofConfig {config : Config} {engine : Engine}
    (created : Engine.ofConfig config = .ok engine) (inventory : Inventory) (moves : List Move)
    (moment : Nat) :
    ((ofEngine engine inventory).after moves moment).engine.policy.pairs.Nodup := by
  rcases exists_policy_of_ofConfig created inventory moves moment with ⟨recent, policy⟩
  rw [policy]
  exact nodup_eraseDups _

end

/-- Whatever has happened before and in between: no warm pair keeps a rebuild that has read
its flights from success, for it succeeds exactly if their ids are distinct.  When it ends in
success, its cache has an entry for each pair that the policy listed when the flights came,
unless one of its names is empty, and for no other.  An entry is what a search in the new graph
answers under the defaults, and nothing has been looked up yet.  If the engine was made with
configured pairs, then as many pairs as the summary tells have an entry. -/
theorem publishes_warm_pairs {config : Config} {policy : WarmPolicy} {engine : Engine}
    (created : Engine.withPolicy config policy = .ok engine) (inventory : Inventory)
    (moves : List Move) {episode : Episode}
    (ran : (ofEngine engine inventory).Ran moves episode) :
    let start := ofEngine engine inventory
    (∀ read flights, start.ReadsAt moves episode read flights →
      ((∃ summary, episode.result = .ok summary) ↔ (flights.map (·.id)).Nodup)) ∧
    ∀ summary, episode.result = .ok summary →
      ∃ read flights, start.ReadsAt moves episode read flights ∧
        let pairs := (start.after moves read).engine.policy.pairs
        let published := (start.after moves (episode.ended + 1)).engine.current
        Graph.build flights summary.graphVersion = .ok published.graph ∧
        published.IsWarmedWith config.search.constraints pairs ∧
        summary.warmedPairs = pairs.countP (·.IsNamed) ∧
        (Engine.ofConfig config = .ok engine → summary.warmedPairs = published.cache.size) := by
  intro start
  constructor
  · intro read flights reads
    rw [← (start.after moves read).engine.exists_nextSnapshot_iff, ← reads.outcome_eq ran,
      Episode.result]
    cases episode.outcome with
    | error fault =>
      constructor
      · rintro ⟨_, impossible⟩
        cases impossible
      · rintro ⟨_, impossible⟩
        cases impossible
    | ok made => exact iff_of_true ⟨_, rfl⟩ ⟨made, rfl⟩
  · intro summary succeeded
    rcases ran.exists_readsAt succeeded with ⟨read, flights, reads, _⟩
    rcases reads.published ran succeeded with ⟨built, filled, counted⟩
    have defaults : (start.after moves read).engine.defaults = config.search.constraints :=
      (Coherent.run created inventory (moves.take read)).defaults
    rw [defaults] at filled
    refine ⟨read, flights, reads, built, filled, counted, fun configured => ?_⟩
    have distinct := nodup_pairs_of_ofConfig configured inventory moves read
    exact counted.trans (filled.size_eq distinct).symm

/-- A configuration that lists a pair twice, and one that cannot be searched. -/
private def carelessConfig : Config :=
  { warm := { pairs := [⟨"A", "B"⟩, ⟨"A", "B"⟩, ⟨"", "B"⟩], recentCapacity := 1 } }

private theorem carelessConfig_valid : carelessConfig.Valid := by decide

private def carelessEngine : Engine :=
  ⟨carelessConfig, carelessConfig_valid, .combined carelessConfig.warm.pairs ⟨1, []⟩,
    Snapshot.empty, []⟩

private def searchedMeanwhile : List Move :=
  [.call .manual, .serveFirst, .search ⟨"B", "A"⟩ none, .endRead .loaded, .finish]

theorem careless_pairs_warmed :
    let start := ofEngine carelessEngine (.memory {})
    Engine.ofConfig carelessConfig = .ok carelessEngine ∧
      ∃ episode summary, start.Ran searchedMeanwhile episode ∧ episode.result = .ok summary ∧
        let published := (start.after searchedMeanwhile (episode.ended + 1)).engine.current
        (published.cache.stored? ⟨"A", "B"⟩).isSome ∧
          (published.cache.stored? ⟨"B", "A"⟩).isSome ∧
          published.cache.stored? ⟨"", "B"⟩ = none ∧ summary.warmedPairs = 2 ∧
          published.cache.size = 2 := by
  intro start
  have created : Engine.ofConfig carelessConfig = .ok carelessEngine := rfl
  have running : (start.after searchedMeanwhile 4).running = some ⟨⟨.caller 0, .manual, 1⟩, 1,
      .decided ((start.after searchedMeanwhile 3).engine.nextSnapshot [])⟩ := rfl
  have gone : (start.after searchedMeanwhile 5).running = none := by
    have ended : start.after searchedMeanwhile 5 = (start.after searchedMeanwhile 4).finish := rfl
    rw [ended, finish_of_decided running]
  rcases exists_ran_of_decided rfl running gone with ⟨began, ran⟩
  rcases ((start.after searchedMeanwhile 3).engine.exists_nextSnapshot_iff []).mpr
    List.nodup_nil with ⟨made, same⟩
  rw [same] at ran
  refine ⟨created, _, _, ran, rfl, ?_⟩
  rcases (publishes_warm_pairs created (.memory {}) searchedMeanwhile ran).2 _ rfl with
    ⟨read, flights, reads, _, filled, counted, sized⟩
  have third : read = 3 := by
    have made := reads.made
    rcases read with _ | _ | _ | _ | read
    iterate 3 cases made
    · rfl
    · exact absurd reads.within (Nat.not_lt.mpr (Nat.le_add_left _ _))
  have pairs : (start.after searchedMeanwhile read).engine.policy.pairs =
      [⟨"A", "B"⟩, ⟨"", "B"⟩, ⟨"B", "A"⟩] := by
    rw [third]
    rfl
  rw [pairs] at filled counted
  refine ⟨(filled.stored_iff _).mpr (by decide), (filled.stored_iff _).mpr (by decide), ?_,
    counted, (sized created).symm.trans counted⟩
  rw [← Option.isNone_iff_eq_none, ← Option.isSome_eq_false_iff, ← Bool.not_eq_true,
    filled.stored_iff]
  decide

end Coordinator
end Rebuild
end Itineraries
