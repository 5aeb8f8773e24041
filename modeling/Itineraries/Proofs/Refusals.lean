import Itineraries.Proofs.Coherence

namespace Itineraries

/-!
# Searches that are refused

Constraints are checked against the limit of the configuration, and once more against
the ceiling, which is never the stricter of the two.  The defaults have been checked
with the configuration, so only constraints that a search brings along can be refused.

Names of places are checked behind the cache.  An entry for an empty name would be an
answer to a search that must be refused.  There is none, even though warm pairs are
configured without a check: whatever is stored has been searched first.  For the same
reason the look-up for such a pair drops nothing.
-/

/-! ## Constraints -/

/-- Constraints that keep to some limit on hops are never refused later, when only the
ceiling is known. -/
theorem Constraints.violation?_ceiling {constraints : Constraints} {hopsLimit : Nat}
    (accepted : constraints.violation? hopsLimit = none) :
    constraints.violation? legsCeiling = none := by
  have valid := (constraints.violation?_eq_none_iff hopsLimit).mp accepted
  exact (constraints.violation?_eq_none_iff legsCeiling).mpr
    { valid with hops_le_limit := valid.hops_le_ceiling }

namespace Config

theorem Valid.defaults_accepted {config : Config} (valid : config.Valid) :
    config.search.constraints.violation? config.maxHopsLimit = none := by
  unfold Valid violation? at valid
  split at valid
  · cases valid
  · split at valid
    · cases valid
    · split at valid
      · cases valid
      · exact Option.map_eq_none_iff.mp valid

/-- What there is to be said against a search.  Names of places are looked at only if
there is nothing wrong with the constraints that it brings along. -/
def objection? (config : Config) (pair : Pair) (given : Option Constraints) : Option Violation :=
  match given.bind (·.violation? config.maxHopsLimit) with
  | some broken => some broken
  | none => if pair.source = "" ∨ pair.destination = "" then some .emptyEndpoint else none

theorem objection?_ne_none_iff (config : Config) (pair : Pair) (given : Option Constraints) :
    config.objection? pair given ≠ none ↔
      (∃ constraints, given = some constraints ∧
        constraints.violation? config.maxHopsLimit ≠ none) ∨
        pair.source = "" ∨ pair.destination = "" := by
  have brings : (∃ constraints, given = some constraints ∧
      constraints.violation? config.maxHopsLimit ≠ none) ↔
        given.bind (·.violation? config.maxHopsLimit) ≠ none := by
    cases given with
    | none => exact iff_of_false (fun ⟨_, impossible, _⟩ => nomatch impossible) (absurd rfl)
    | some constraints =>
      exact ⟨fun ⟨_, same, wrong⟩ => Option.some.inj same ▸ wrong,
        fun wrong => ⟨constraints, rfl, wrong⟩⟩
  rw [brings, objection?]
  cases given.bind (·.violation? config.maxHopsLimit) with
  | some broken => exact iff_of_true (Option.some_ne_none _) (Or.inl (Option.some_ne_none _))
  | none =>
    dsimp only
    split
    · rename_i unnamed
      exact iff_of_true (Option.some_ne_none _) (Or.inr unnamed)
    · rename_i named
      exact iff_of_false (absurd rfl) (not_or.mpr ⟨absurd rfl, named⟩)

end Config

/-! ## Caches -/

/-- The cache after a look-up that finds nothing. -/
def Cache.countMiss {α : Type} (cache : Cache α) : Cache α :=
  { cache with counts := { cache.counts with misses := cache.counts.misses + 1 } }

/-- A coherent cache has no entry for a pair that cannot be searched, so that a look-up
only counts a miss. -/
theorem Snapshot.Coherent.get_of_error {defaults : Constraints} {snapshot : Snapshot}
    (coherent : snapshot.Coherent defaults) {pair : Pair} {fault : Fault}
    (refused : snapshot.graph.search pair.source pair.destination defaults = .error fault)
    (version : Nat) : snapshot.cache.get pair version = (none, snapshot.cache.countMiss) := by
  have missing : snapshot.cache.stored? pair = none := by
    apply Option.eq_none_iff_forall_ne_some.mpr
    intro entry found
    exact nomatch refused.symm.trans (coherent.searched pair entry found)
  unfold Cache.get
  rw [missing]
  rfl

/-! ## Engines -/

namespace Engine

/-- The engine after a look-up in its cache that finds nothing. -/
def countMiss (engine : Engine) : Engine :=
  engine.withCache engine.current.cache.countMiss

section

variable {engine : Engine} (coherent : engine.current.Coherent engine.defaults) (pair : Pair)
  (given : Option Constraints)

theorem violation?_getD (engine : Engine) (given : Option Constraints) :
    (given.getD engine.defaults).violation? engine.config.maxHopsLimit =
      given.bind (·.violation? engine.config.maxHopsLimit) := by
  cases given with
  | none => exact engine.valid.defaults_accepted
  | some constraints => rfl

include coherent

/-- A search fails with what there is to be said against it, and succeeds otherwise. -/
theorem search_fst_eq_objection :
    (engine.search pair given).1 =
      match engine.config.objection? pair given with
      | some broken => .error (.violation broken)
      | none =>
        .ok (Query.best
          ⟨engine.current.graph, pair.source, pair.destination, given.getD engine.defaults⟩) := by
  have answer := search_fst coherent pair given
  rw [violation?_getD] at answer
  unfold Config.objection?
  cases checked : given.bind (·.violation? engine.config.maxHopsLimit) with
  | some broken =>
    rw [checked] at answer
    exact answer
  | none =>
    have accepted := Constraints.violation?_ceiling ((violation?_getD engine given).trans checked)
    rw [checked] at answer
    rw [answer]
    dsimp only
    rw [Graph.search_of_accepted accepted]
    split <;> rfl

theorem search_eq_error_iff (fault : Fault) :
    (engine.search pair given).1 = .error fault ↔
      ∃ broken, engine.config.objection? pair given = some broken ∧ fault = .violation broken := by
  rw [search_fst_eq_objection coherent]
  cases engine.config.objection? pair given with
  | some broken =>
    constructor
    · intro same
      exact ⟨broken, rfl, (Except.error.inj same).symm⟩
    · rintro ⟨other, same, rfl⟩
      rw [Option.some.inj same]
  | none => exact iff_of_false nofun nofun

/-- A search that fails changes nothing, except that it may have missed the cache. -/
theorem search_snd_of_error {fault : Fault} (refused : (engine.search pair given).1 = .error fault) :
    (engine.search pair given).2 = engine ∨
      (engine.search pair given).2 = engine.countMiss := by
  rcases engine.search_cases pair given with
    ⟨_, _, same⟩ | ⟨_, ⟨_, same⟩ | ⟨_, same⟩⟩ <;> rw [same] at refused ⊢
  · exact Or.inl rfl
  · -- The fault does not come from the cache, so the look-up has found nothing.
    right
    rw [searchCached_fst coherent] at refused
    unfold searchCached
    rw [coherent.get_of_error refused engine.version]
    dsimp only
    rw [refused]
    rfl
  · left
    unfold searchAfresh at refused ⊢
    split at refused
    · rfl
    · cases refused

end

end Engine

namespace Rebuild
namespace Coordinator

/-- The coordinator after a look-up in the current cache that finds nothing. -/
def countMiss (coordinator : Coordinator) : Coordinator :=
  { coordinator with engine := coordinator.engine.countMiss }

/-- Whatever has happened to an engine since it was made, a search fails exactly if the
constraints that it brings along break a rule or a place has no name, and it fails with
the first of these violations.  Then nothing has changed, except that a miss may have
been counted: the graph, the entries of the cache and the warm pairs are as before. -/
theorem search_refused_exactly {config : Config} {policy : WarmPolicy} {engine : Engine}
    (created : Engine.withPolicy config policy = .ok engine) (inventory : Inventory)
    (moves : List Move) (pair : Pair) (given : Option Constraints) :
    let reached := run { engine := engine, inventory := inventory } moves
    let next := (reached.search pair given).2
    ((∃ fault, (reached.search pair given).1 = .error fault) ↔
      (∃ constraints, given = some constraints ∧
        constraints.violation? config.maxHopsLimit ≠ none) ∨
        pair.source = "" ∨ pair.destination = "") ∧
    (given = none → pair.source ≠ "" → pair.destination ≠ "" →
      ∃ itineraries, (reached.search pair given).1 = .ok itineraries) ∧
    ∀ fault, (reached.search pair given).1 = .error fault →
      (∃ broken, config.objection? pair given = some broken ∧ fault = .violation broken) ∧
      (next = reached ∨ next = reached.countMiss) ∧
      next.engine.current.graph = reached.engine.current.graph ∧
      next.engine.current.cache.entries = reached.engine.current.cache.entries ∧
      next.engine.policy.pairs = reached.engine.policy.pairs := by
  intro reached next
  have coherent : reached.Coherent config := .run created inventory moves
  have current := coherent.current
  rw [← coherent.defaults] at current
  have refused := Engine.search_eq_error_iff current pair given
  rw [coherent.configured] at refused
  have fails : (∃ fault, (reached.search pair given).1 = .error fault) ↔
      (∃ constraints, given = some constraints ∧
        constraints.violation? config.maxHopsLimit ≠ none) ∨
        pair.source = "" ∨ pair.destination = "" := by
    rw [← config.objection?_ne_none_iff, Option.ne_none_iff_exists']
    constructor
    · rintro ⟨fault, failed⟩
      rcases (refused fault).mp failed with ⟨broken, objection, _⟩
      exact ⟨broken, objection⟩
    · rintro ⟨broken, objection⟩
      exact ⟨_, (refused _).mpr ⟨broken, objection, rfl⟩⟩
  refine ⟨fails, ?_, ?_⟩
  · rintro rfl sourceNamed destinationNamed
    cases answer : (reached.search pair none).1 with
    | ok itineraries => exact ⟨itineraries, rfl⟩
    | error fault =>
      rcases fails.mp ⟨fault, answer⟩ with ⟨_, impossible, _⟩ | unnamed | unnamed
      · cases impossible
      · exact absurd unnamed sourceNamed
      · exact absurd unnamed destinationNamed
  · intro fault failed
    have unchanged : next = reached ∨ next = reached.countMiss :=
      (Engine.search_snd_of_error current pair given failed).imp
        (congrArg fun left => { reached with engine := left })
        (congrArg fun left => { reached with engine := left })
    refine ⟨(refused fault).mp failed, unchanged, ?_⟩
    rcases unchanged with same | counted
    · rw [same]
      exact ⟨rfl, rfl, rfl⟩
    · rw [counted]
      exact ⟨rfl, rfl, rfl⟩

/-- An engine that is to warm a pair of which one place has no name. -/
private def oddlyWarmed : Engine :=
  ⟨{}, Config.valid_default, .fixed [⟨"", "B"⟩], Snapshot.empty, []⟩

private def oddRebuild : List Move :=
  [.upsert shuttle, .call .manual, .serveFirst, .endRead .loaded, .finish]

theorem nameless_warm_pair_refused :
    Engine.withPolicy {} (.fixed [⟨"", "B"⟩]) = .ok oddlyWarmed ∧
      let reached := run { engine := oddlyWarmed, inventory := .memory {} } oddRebuild
      (reached.search ⟨"", "B"⟩ none).1 = .error (.violation .emptyEndpoint) ∧
        (reached.search ⟨"", "B"⟩ none).2.engine.current.cache.entries =
          reached.engine.current.cache.entries := by
  have created : Engine.withPolicy {} (.fixed [⟨"", "B"⟩]) = .ok oddlyWarmed := rfl
  rcases search_refused_exactly created (.memory {}) oddRebuild ⟨"", "B"⟩ none with
    ⟨fails, _, refusal⟩
  rcases fails.mpr (Or.inr (Or.inl rfl)) with ⟨fault, failed⟩
  rcases refusal fault failed with ⟨⟨broken, objection, rfl⟩, _, _, entries, _⟩
  have named : some Violation.emptyEndpoint = some broken := objection
  rw [← Option.some.inj named] at failed
  exact ⟨created, failed, entries⟩

end Coordinator
end Rebuild
end Itineraries
