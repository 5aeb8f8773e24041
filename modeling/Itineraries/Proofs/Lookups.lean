import Itineraries.Proofs.Warming

namespace Itineraries

/-!
# Every pair is computed once

What a cache has counted and what is stored in it tell of the searches that were made since
its snapshot was published: of those under the defaults, since others pass it by.  Each of
them is one look-up.  It is a hit if the pair was warmed or has been asked for before, and
otherwise a miss, after which the pair is stored unless one of its names is empty.  A pair
with an empty name is never stored, so it is missed every time it is asked for.

Entries and cache always have the version of the graph.  So nothing is ever stale or
rejected.  No search, no change of the inventory and no rebuild takes an entry out of a cache
that is in place.  Only somebody outside who holds the cache can empty it, and then there is
no telling any more what was stored; so that move is left out where the entries are counted.
-/

/-! ## One look-up -/

/-- How a cache changes when a pair is looked up in it and then, if it was missing and can be
searched, stored. -/
structure Cache.Serves {α : Type} (pair : Pair) (before after : Cache α) : Prop where
  stored_iff : ∀ wanted, (after.stored? wanted).isSome ↔
    (before.stored? wanted).isSome ∨ wanted = pair ∧ pair.IsNamed
  counts : after.counts =
    if (before.stored? pair).isSome then { before.counts with hits := before.counts.hits + 1 }
    else { before.counts with misses := before.counts.misses + 1 }

theorem Cache.get_of_stored {α : Type} {cache : Cache α} {pair : Pair} {entry : CacheEntry α}
    (found : cache.stored? pair = some entry) :
    cache.get pair entry.version =
      (some entry.value,
        { cache with counts := { cache.counts with hits := cache.counts.hits + 1 } }) := by
  simp only [get, found, if_true]

theorem Cache.get_of_missing {α : Type} {cache : Cache α} {pair : Pair} (version : Nat)
    (missing : cache.stored? pair = none) :
    cache.get pair version = (none, cache.countMiss) := by
  simp only [get, missing]
  rfl

namespace Engine

section

variable {engine : Engine} {given : Option Constraints}

theorem search_of_default (standard : given.getD engine.defaults = engine.defaults)
    (pair : Pair) : engine.search pair given = engine.searchCached pair := by
  rcases engine.search_cases pair given with
    ⟨broken, violated, _⟩ | ⟨_, ⟨_, same⟩ | ⟨other, _⟩⟩
  · rw [standard] at violated
    cases engine.valid.defaults_accepted.symm.trans violated
  · exact same
  · exact absurd standard other

/-- A search under other constraints passes the cache by. -/
theorem current_search_of_other (other : given.getD engine.defaults ≠ engine.defaults)
    (pair : Pair) : (engine.search pair given).2.current = engine.current := by
  rcases engine.search_cases pair given with
    ⟨_, _, same⟩ | ⟨_, ⟨standard, _⟩ | ⟨_, same⟩⟩
  · rw [same]
  · exact absurd standard other
  · rw [same, searchAfresh]
    split <;> rfl

variable (coherent : engine.current.Coherent engine.defaults)
  (standard : given.getD engine.defaults = engine.defaults)

include coherent standard

/-- A search under the defaults succeeds unless a place has no name. -/
theorem search_ok_iff_of_default (pair : Pair) :
    (∃ itineraries, (engine.search pair given).1 = .ok itineraries) ↔ pair.IsNamed := by
  rw [search_of_default standard, searchCached_fst coherent,
    Graph.search_of_accepted engine.defaults_accepted]
  split
  · rename_i unnamed
    exact iff_of_false nofun fun named => not_or.mpr named unnamed
  · rename_i named
    exact iff_of_true ⟨_, rfl⟩ (not_or.mp named)

/-- A search under the defaults is one look-up. -/
theorem serves_search_of_default (pair : Pair) :
    Cache.Serves pair engine.current.cache (engine.search pair given).2.current.cache := by
  rw [search_of_default standard, searchCached]
  cases stored : engine.current.cache.stored? pair with
  | some entry =>
    have tagged : entry.version = engine.version := coherent.tagged pair entry stored
    have found := Option.isSome_of_eq_some stored
    rw [← tagged, Cache.get_of_stored stored]
    constructor
    · intro wanted
      refine (or_iff_left_of_imp ?_).symm
      rintro ⟨rfl, _⟩
      exact found
    · rw [if_pos found]
      rfl
  | none =>
    have missing : ¬(engine.current.cache.stored? pair).isSome := by
      rw [stored]
      exact Bool.false_ne_true
    have bound : engine.current.cache.countMiss.version = engine.version := coherent.bound
    rw [Cache.get_of_missing _ stored]
    dsimp only
    rw [Graph.search_of_accepted engine.defaults_accepted]
    by_cases named : pair.IsNamed
    · rw [if_neg (not_or.mpr named), ← bound]
      constructor
      · intro wanted
        rw [and_iff_left named]
        exact Cache.isSome_stored?_put engine.current.cache.countMiss _ _ _
      · rw [if_neg missing]
        exact Cache.counts_put engine.current.cache.countMiss _ _
    · rw [if_pos (pair.not_isNamed_iff.mp named)]
      constructor
      · intro wanted
        exact (or_iff_left fun added => named added.2).symm
      · rw [if_neg missing]
        rfl

end

end Engine

/-! ## What many look-ups come to -/

private theorem length_eraseDups_concat (pairs : List Pair) (pair : Pair) :
    (pairs ++ [pair]).eraseDups.length =
      pairs.eraseDups.length + if pair ∈ pairs then 0 else 1 := by
  rw [List.eraseDups_append, List.length_append, List.cons_removeAll, List.nil_removeAll]
  by_cases again : pair ∈ pairs
  · rw [if_pos again, if_neg (Bool.not_eq_false _ ▸ List.contains_iff_mem.mpr again)]
    rfl
  · rw [if_neg again, if_pos (Bool.eq_false_iff.mpr (mt List.contains_iff_mem.mp again))]
    rfl

/-- The pairs among some that can be searched and were not warmed, each once. -/
def Pair.newcomers (warmPairs asked : List Pair) : List Pair :=
  (asked.filter fun pair => pair.IsNamed ∧ pair ∉ warmPairs).eraseDups

/-- Only a pair that has not been asked for before can be one more. -/
theorem Pair.length_newcomers_concat (warmPairs asked : List Pair) (pair : Pair) :
    (newcomers warmPairs (asked ++ [pair])).length =
      (newcomers warmPairs asked).length +
        if pair.IsNamed ∧ pair ∉ warmPairs ∧ pair ∉ asked then 1 else 0 := by
  rw [newcomers, newcomers, List.filter_append, List.filter_cons, List.filter_nil]
  by_cases new : pair.IsNamed ∧ pair ∉ warmPairs
  · rw [if_pos (decide_eq_true new), length_eraseDups_concat]
    by_cases again : pair ∈ asked
    · rw [if_pos (List.mem_filter.mpr ⟨again, decide_eq_true new⟩),
        if_neg fun added => added.2.2 again]
    · rw [if_neg fun listed => again (List.mem_filter.mp listed).1,
        if_pos ⟨new.1, new.2, again⟩]
  · rw [if_neg (mt of_decide_eq_true new), List.append_nil,
      if_neg fun added => new ⟨added.1, added.2.1⟩, Nat.add_zero]

namespace Cache

variable {α : Type} {warmPairs asked : List Pair} {pair : Pair} {before after : Cache α}

/-- What any number of look-ups leaves in the counters, whatever else is done. -/
structure HasCounted (asked : List Pair) (cache : Cache α) : Prop where
  lookups_eq : cache.counts.lookups = asked.length
  stale_eq : cache.counts.stale = 0
  rejected_eq : cache.counts.rejected = 0

/-- What look-ups leave in a cache that was filled for some pairs, unless its entries are
dropped. -/
structure HasServed (warmPairs asked : List Pair) (cache : Cache α) : Prop where
  stored_iff : ∀ pair, (cache.stored? pair).isSome ↔
    (pair ∈ warmPairs ∨ pair ∈ asked) ∧ pair.IsNamed
  misses_eq : cache.counts.misses =
    asked.countP (¬·.IsNamed) + (Pair.newcomers warmPairs asked).length
  invalidated_eq : cache.counts.invalidated = 0

theorem Serves.counts_eq (serves : Serves pair before after) :
    after.counts.lookups = before.counts.lookups + 1 ∧
      after.counts.stale = before.counts.stale ∧
      after.counts.rejected = before.counts.rejected ∧
      after.counts.invalidated = before.counts.invalidated := by
  rw [serves.counts]
  split
  · exact ⟨Nat.add_right_comm _ _ _, rfl, rfl, rfl⟩
  · exact ⟨(Nat.add_assoc _ _ _).symm, rfl, rfl, rfl⟩

theorem HasCounted.concat (counted : before.HasCounted asked)
    (serves : Serves pair before after) : after.HasCounted (asked ++ [pair]) := by
  rcases serves.counts_eq with ⟨lookups, stale, rejected, _⟩
  refine ⟨?_, stale.trans counted.stale_eq, rejected.trans counted.rejected_eq⟩
  rw [lookups, counted.lookups_eq, List.length_append, List.length_singleton]

theorem HasCounted.invalidate (counted : before.HasCounted asked) :
    before.invalidate.2.HasCounted asked :=
  ⟨counted.lookups_eq, counted.stale_eq, counted.rejected_eq⟩

/-- A pair is missed if it has no name, or the first time if it was not warmed. -/
theorem HasServed.concat (served : before.HasServed warmPairs asked)
    (serves : Serves pair before after) : after.HasServed warmPairs (asked ++ [pair]) := by
  have stored := served.stored_iff pair
  refine ⟨?_, ?_, serves.counts_eq.2.2.2.trans served.invalidated_eq⟩
  · intro wanted
    rw [serves.stored_iff, served.stored_iff, List.mem_append, List.mem_singleton, ← or_assoc,
      or_and_right (b := wanted = pair)]
    exact or_congr_right (and_congr_right fun same => by rw [same])
  · rw [Pair.length_newcomers_concat, List.countP_append, List.countP_singleton, serves.counts]
    have misses := served.misses_eq
    by_cases named : pair.IsNamed
    · rw [if_neg fun unnamed : decide (¬pair.IsNamed) = true => of_decide_eq_true unnamed named]
      by_cases known : pair ∈ warmPairs ∨ pair ∈ asked
      · rw [if_pos (stored.mpr ⟨known, named⟩),
          if_neg fun new => known.elim new.2.1 new.2.2]
        exact misses
      · rw [if_neg fun found => known (stored.mp found).1, if_pos ⟨named, not_or.mp known⟩]
        exact congrArg (· + 1) misses
    · rw [if_pos (decide_eq_true named), if_neg fun found => named (stored.mp found).2,
        if_neg fun new => named new.1, Nat.add_right_comm]
      exact congrArg (· + 1) misses

end Cache

section

variable {defaults : Constraints} {warmPairs : List Pair} {snapshot : Snapshot}

theorem Snapshot.IsWarmedWith.hasCounted (filled : snapshot.IsWarmedWith defaults warmPairs) :
    snapshot.cache.HasCounted [] where
  lookups_eq := by
    rw [filled.unused]
    rfl
  stale_eq := by rw [filled.unused]
  rejected_eq := by rw [filled.unused]

theorem Snapshot.IsWarmedWith.hasServed (filled : snapshot.IsWarmedWith defaults warmPairs) :
    snapshot.cache.HasServed warmPairs [] where
  stored_iff pair := by
    rw [filled.stored_iff, or_iff_left List.not_mem_nil]
  misses_eq := by
    rw [filled.unused]
    rfl
  invalidated_eq := by rw [filled.unused]

end

namespace Rebuild
namespace Coordinator

/-! ## The searches of a run -/

/-- The pair of a search under the defaults, with its answer. -/
def defaultCall? (coordinator : Coordinator) :
    Move → Option (Pair × Except Fault (List Itinerary))
  | .search pair given =>
    if given.getD coordinator.engine.defaults = coordinator.engine.defaults then
      some (pair, (coordinator.search pair given).1)
    else none
  | _ => none

/-- The searches under the defaults in the course of a run. -/
def defaultCalls : Coordinator → List Move → List (Pair × Except Fault (List Itinerary)) :=
  seen fun coordinator move => (coordinator.defaultCall? move).toList

/-- The versions that are published in the course of a run. -/
def publications : Coordinator → List Move → List Nat :=
  seen fun coordinator move => (coordinator.publishes? move).toList

section

variable {config : Config} {coordinator : Coordinator} {moves : List Move}

theorem Coherent.current_defaults (coherent : coordinator.Coherent config) :
    coordinator.engine.current.Coherent coordinator.engine.defaults := by
  rw [coherent.defaults]
  exact coherent.current

theorem engine_endRead (coordinator : Coordinator) (readEnd : ReadEnd) :
    (coordinator.endRead readEnd).engine = coordinator.engine := by
  unfold endRead
  split <;> rfl

theorem engine_finish (unprepared : coordinator.prepared? = none) :
    coordinator.finish.engine = coordinator.engine := by
  match running : coordinator.running with
  | none =>
    unfold finish
    rw [running]
  | some ⟨_, _, .reading⟩ =>
    unfold finish
    rw [running]
  | some ⟨_, _, .decided (.error _)⟩ =>
    rw [finish_of_decided running]
    rfl
  | some ⟨_, _, .decided (.ok _)⟩ =>
    rw [prepared?, running] at unprepared
    cases unprepared

/-- While a snapshot stays in place, there are three things that a move can do to its cache:
nothing, drop its entries, or look a pair up. -/
theorem cache_apply_cases (coherent : coordinator.Coherent config) (move : Move)
    (unpublished : coordinator.publishes? move = none) :
    (coordinator.defaultCall? move = none ∧
      (coordinator.apply move).engine.current.cache = coordinator.engine.current.cache) ∨
    (move = .invalidate ∧ (coordinator.apply move).engine.current.cache =
      coordinator.engine.current.cache.invalidate.2) ∨
    ∃ pair answer, coordinator.defaultCall? move = some (pair, answer) ∧
      Cache.Serves pair coordinator.engine.current.cache
        (coordinator.apply move).engine.current.cache := by
  have current := coherent.current_defaults
  have step := step_apply coordinator move
  cases move with
  | search pair given =>
    by_cases standard : given.getD coordinator.engine.defaults = coordinator.engine.defaults
    · exact Or.inr (Or.inr ⟨pair, _, if_pos standard,
        Engine.serves_search_of_default current standard pair⟩)
    · exact Or.inl ⟨if_neg standard,
        congrArg Snapshot.cache (Engine.current_search_of_other standard pair)⟩
  | invalidate => exact Or.inr (Or.inl ⟨rfl, rfl⟩)
  | endRead readEnd =>
    exact Or.inl ⟨rfl, congrArg (·.current.cache) (coordinator.engine_endRead readEnd)⟩
  | finish =>
    have unprepared := Option.map_eq_none_iff.mp unpublished
    exact Or.inl ⟨rfl, congrArg (·.current.cache) (engine_finish unprepared)⟩
  | _ => exact Or.inl ⟨rfl, congrArg (·.engine.current.cache) (step.stage_eq rfl).1⟩

/-- What look-ups keep true, and dropping the entries if that occurs, is true after all
searches of a run in which nothing is published. -/
theorem cache_run_induction {Holds : List Pair → Cache (List Itinerary) → Prop}
    (serve : ∀ {asked pair before after}, Cache.Serves pair before after →
      Holds asked before → Holds (asked ++ [pair]) after)
    (drop : .invalidate ∈ moves → ∀ {asked before}, Holds asked before →
      Holds asked before.invalidate.2)
    (coherent : coordinator.Coherent config) (unpublished : coordinator.publications moves = [])
    {asked : List Pair} (holds : Holds asked coordinator.engine.current.cache) :
    Holds (asked ++ (coordinator.defaultCalls moves).map (·.1))
      (coordinator.run moves).engine.current.cache := by
  induction moves generalizing coordinator asked with
  | nil =>
    rw [defaultCalls, seen, List.map_nil, List.append_nil]
    exact holds
  | cons move rest inductionHypothesis =>
    rcases List.append_eq_nil_iff.mp unpublished with ⟨here, later⟩
    rw [Option.toList_eq_nil_iff] at here
    have kept : Holds (asked ++ (coordinator.defaultCall? move).toList.map (·.1))
        (coordinator.apply move).engine.current.cache := by
      rcases cache_apply_cases coherent move here with
        ⟨uncalled, same⟩ | ⟨rfl, dropped⟩ | ⟨pair, answer, called, serves⟩
      · rw [uncalled, same, Option.toList_none, List.map_nil, List.append_nil]
        exact holds
      · have uncalled : coordinator.defaultCall? .invalidate = none := rfl
        rw [uncalled, dropped, Option.toList_none, List.map_nil, List.append_nil]
        exact drop List.mem_cons_self holds
      · rw [called]
        exact serve serves holds
    rw [defaultCalls, seen, List.map_append, ← List.append_assoc]
    exact inductionHypothesis (fun member => drop (List.mem_cons_of_mem _ member))
      (coherent.step (step_apply coordinator move)) later kept

theorem ok_iff_of_defaultCall? (coherent : coordinator.Coherent config) {move : Move}
    {call : Pair × Except Fault (List Itinerary)}
    (called : coordinator.defaultCall? move = some call) :
    (∃ itineraries, call.2 = .ok itineraries) ↔ call.1.IsNamed := by
  cases move with
  | search pair given =>
    by_cases standard : given.getD coordinator.engine.defaults = coordinator.engine.defaults
    · have found : some (pair, (coordinator.search pair given).1) = some call :=
        (if_pos standard).symm.trans called
      cases found
      exact Engine.search_ok_iff_of_default coherent.current_defaults standard pair
    · have none : none = some call := (if_neg standard).symm.trans called
      cases none
  | _ => cases called

/-- A search under the defaults fails only for want of a name. -/
theorem ok_iff_of_mem_defaultCalls (coherent : coordinator.Coherent config)
    {call : Pair × Except Fault (List Itinerary)}
    (member : call ∈ coordinator.defaultCalls moves) :
    (∃ itineraries, call.2 = .ok itineraries) ↔ call.1.IsNamed := by
  induction moves generalizing coordinator with
  | nil => cases member
  | cons move rest inductionHypothesis =>
    rcases List.mem_append.mp member with here | later
    · exact ok_iff_of_defaultCall? coherent (Option.mem_toList.mp here)
    · exact inductionHypothesis (coherent.step (step_apply coordinator move)) later

end

/-! ## The snapshot in place -/

/-- The current snapshot has been in place since a moment.  At first it is the empty one,
which nothing was stored in.  Later it is that of the last rebuild that has succeeded, and it
was filled for the pairs that the policy listed when the flights of this rebuild came. -/
inductive InPlaceSince (start : Coordinator) (moves : List Move) : Nat → List Pair → Prop where
  | empty (failed : ∀ episode, start.Ran moves episode → ∃ fault, episode.result = .error fault) :
      InPlaceSince start moves 0 []
  | published {episode : Episode} {summary : Summary} {read : Nat} {flights : List Flight}
      (ran : start.Ran moves episode) (succeeded : episode.result = .ok summary)
      (reads : start.ReadsAt moves episode read flights)
      (last : ∀ other, start.Ran moves other → episode.ended < other.ended →
        ∃ fault, other.result = .error fault) :
      InPlaceSince start moves (episode.ended + 1) (start.after moves read).engine.policy.pairs

section

variable {start : Coordinator} {moves : List Move} {placed : Nat} {warmPairs : List Pair}

theorem exists_inPlaceSince (start : Coordinator) (moves : List Move) :
    ∃ placed warmPairs, start.InPlaceSince moves placed warmPairs := by
  suffices since : ∀ bound, (∀ episode, start.Ran moves episode → bound ≤ episode.ended →
      ∃ fault, episode.result = .error fault) →
        ∃ placed warmPairs, start.InPlaceSince moves placed warmPairs from
    since moves.length fun episode ran beyond =>
      absurd ran.ended_lt_length (Nat.not_lt.mpr beyond)
  intro bound later
  induction bound with
  | zero => exact ⟨0, [], .empty fun episode ran => later episode ran (Nat.zero_le _)⟩
  | succ bound inductionHypothesis =>
    by_cases here : ∃ episode summary, start.Ran moves episode ∧ episode.ended = bound ∧
      episode.result = .ok summary
    · rcases here with ⟨episode, summary, ran, rfl, succeeded⟩
      rcases ran.exists_readsAt succeeded with ⟨read, flights, reads, _⟩
      exact ⟨_, _, .published ran succeeded reads later⟩
    · apply inductionHypothesis
      intro episode ran since
      rcases Nat.lt_or_eq_of_le since with after | same
      · exact later episode ran after
      · cases result : episode.result with
        | error fault => exact ⟨fault, rfl⟩
        | ok summary => exact absurd ⟨episode, summary, ran, same.symm, result⟩ here

theorem InPlaceSince.fails (inPlace : start.InPlaceSince moves placed warmPairs)
    {episode : Episode} (ran : start.Ran moves episode) (later : placed ≤ episode.ended) :
    ∃ fault, episode.result = .error fault := by
  cases inPlace with
  | empty failed => exact failed episode ran
  | published _ _ _ last => exact last episode ran later

theorem seen_eq_nil {α : Type} {look : Coordinator → Move → List α}
    (unseen : ∀ moment move, moves[moment]? = some move →
      look (start.after moves moment) move = []) :
    seen look start moves = [] := by
  induction moves generalizing start with
  | nil => rfl
  | cons move rest inductionHypothesis =>
    have first : look start move = [] := unseen 0 move rfl
    rw [seen, first, List.nil_append]
    exact inductionHypothesis fun moment next made => unseen (moment + 1) next made

theorem after_after (start : Coordinator) (moves : List Move) (earlier later : Nat) :
    (start.after moves earlier).after (moves.drop earlier) later =
      start.after moves (earlier + later) := by
  rw [after, after, after, ← run_append, List.take_add]

theorem InPlaceSince.unpublished (inPlace : start.InPlaceSince moves placed warmPairs)
    (unrun : start.running = none) :
    (start.after moves placed).publications (moves.drop placed) = [] := by
  apply seen_eq_nil
  intro moment move made
  rw [after_after, Option.toList_eq_nil_iff]
  rw [List.getElem?_drop] at made
  cases move with
  | finish =>
    rw [publishes?, Option.map_eq_none_iff]
    apply Option.eq_none_iff_forall_ne_some.mpr
    intro _ prepared
    rcases exists_decided_of_prepared? prepared with ⟨demand, covers, snapshot, decided⟩
    have gone : (start.after moves (placed + moment + 1)).running = none := by
      rw [after_succ _ _ made, apply, finish_of_decided decided]
    rcases exists_ran_of_decided unrun decided gone with ⟨began, ran⟩
    rcases inPlace.fails ran (Nat.le_add_right _ _) with ⟨fault, failed⟩
    cases failed
  | _ => rfl

variable {config : Config} {policy : WarmPolicy} {engine : Engine}
  (created : Engine.withPolicy config policy = .ok engine) {inventory : Inventory}
  (inPlace : (ofEngine engine inventory).InPlaceSince moves placed warmPairs)

include created inPlace

/-- When it was put in place, it was as it had been filled. -/
theorem InPlaceSince.isWarmedWith :
    ((ofEngine engine inventory).after moves placed).engine.current.IsWarmedWith
      config.search.constraints warmPairs := by
  cases inPlace with
  | empty =>
    have empty : ((ofEngine engine inventory).after moves 0).engine.current = Snapshot.empty :=
      (Engine.withPolicy_eq_ok created).2
    rw [empty]
    exact { Snapshot.Coherent.ofVersion config.search.constraints Graph.empty with
      stored_iff := fun pair => iff_of_false nofun fun listed => nomatch listed.1
      unused := rfl }
  | @published episode summary read flights ran succeeded reads =>
    have filled := (reads.published ran succeeded).2.1
    have defaults : ((ofEngine engine inventory).after moves read).engine.defaults =
        config.search.constraints := (Coherent.run created inventory (moves.take read)).defaults
    rw [defaults] at filled
    exact filled

/-- What is true of the cache when it is put in place, and is kept, is true now. -/
theorem InPlaceSince.cache_induction {Holds : List Pair → Cache (List Itinerary) → Prop}
    (serve : ∀ {asked pair before after}, Cache.Serves pair before after →
      Holds asked before → Holds (asked ++ [pair]) after)
    (drop : .invalidate ∈ moves.drop placed → ∀ {asked before}, Holds asked before →
      Holds asked before.invalidate.2)
    (holds : Holds [] ((ofEngine engine inventory).after moves placed).engine.current.cache) :
    Holds ((((ofEngine engine inventory).after moves placed).defaultCalls
        (moves.drop placed)).map (·.1))
      ((ofEngine engine inventory).run moves).engine.current.cache := by
  have arrived : ((ofEngine engine inventory).after moves placed).run (moves.drop placed) =
      (ofEngine engine inventory).run moves := by
    rw [after, ← run_append, List.take_append_drop]
  have coherent : ((ofEngine engine inventory).after moves placed).Coherent config :=
    .run created inventory (moves.take placed)
  have now := cache_run_induction serve drop coherent (inPlace.unpublished rfl) holds
  rw [arrived, List.nil_append] at now
  exact now

end

/-- Whatever has happened to an engine since it was made, nothing in its current cache has ever
been stale or rejected, and as many pairs have been looked up as searches under the defaults
have been made since the snapshot was put in place.  Neither a search nor a rebuild invalidates
entries.  As long as nobody outside empties the cache by hand, none are invalidated, exactly
those pairs have an entry which were warmed or searched with success, and the misses are the
searches for a pair with an empty name and one for each other pair that was not warmed.
Searches under other constraints leave the cache as it is. -/
theorem lookups_tell_searches {config : Config} {policy : WarmPolicy} {engine : Engine}
    (created : Engine.withPolicy config policy = .ok engine) (inventory : Inventory)
    (moves : List Move) :
    let start := ofEngine engine inventory
    let reached := start.run moves
    let cache := reached.engine.current.cache
    (∃ placed warmPairs, start.InPlaceSince moves placed warmPairs) ∧
    (∀ placed warmPairs, start.InPlaceSince moves placed warmPairs →
      let calls := (start.after moves placed).defaultCalls (moves.drop placed)
      let asked := calls.map (·.1)
      cache.counts.stale = 0 ∧ cache.counts.rejected = 0 ∧
      cache.counts.hits + cache.counts.misses = calls.length ∧
      (.invalidate ∉ moves.drop placed →
        cache.counts.invalidated = 0 ∧
        (∀ pair, pair ∈ cache.pairs ↔ pair ∈ warmPairs ∧ pair.IsNamed ∨
          ∃ itineraries, (pair, .ok itineraries) ∈ calls) ∧
        cache.counts.misses =
          asked.countP (¬·.IsNamed) + (Pair.newcomers warmPairs asked).length)) ∧
    ∀ pair given, given.getD config.search.constraints ≠ config.search.constraints →
      (reached.search pair given).2.engine.current.cache = cache := by
  intro start reached cache
  refine ⟨exists_inPlaceSince start moves, ?_, ?_⟩
  · intro placed warmPairs inPlace calls asked
    have coherent : (start.after moves placed).Coherent config :=
      .run created inventory (moves.take placed)
    have filled := inPlace.isWarmedWith created
    have counted : cache.HasCounted asked :=
      inPlace.cache_induction created (fun serves holds => holds.concat serves)
        (fun _ _ _ holds => holds.invalidate) filled.hasCounted
    refine ⟨counted.stale_eq, counted.rejected_eq,
      counted.lookups_eq.trans (List.length_map _), fun kept => ?_⟩
    have served : cache.HasServed warmPairs asked :=
      inPlace.cache_induction created (fun serves holds => holds.concat serves)
        (fun dropped => absurd dropped kept) filled.hasServed
    refine ⟨served.invalidated_eq, fun pair => ?_, served.misses_eq⟩
    rw [cache.mem_pairs, served.stored_iff, or_and_right]
    apply or_congr_right
    constructor
    · rintro ⟨listed, named⟩
      rcases List.mem_map.mp listed with ⟨⟨_, answer⟩, member, rfl⟩
      rcases (ok_iff_of_mem_defaultCalls coherent member).mpr named with ⟨itineraries, succeeded⟩
      exact ⟨itineraries, succeeded ▸ member⟩
    · rintro ⟨itineraries, member⟩
      exact ⟨List.mem_map_of_mem member,
        (ok_iff_of_mem_defaultCalls coherent member).mp ⟨itineraries, rfl⟩⟩
  · intro pair given other
    rw [← (Coherent.run created inventory moves).defaults] at other
    exact congrArg Snapshot.cache (Engine.current_search_of_other other pair)

/-- After a rebuild a warmed pair is searched, another one twice, one without a name, and one
under other constraints. -/
private def searchedOften : List Move :=
  [.call .manual, .serveFirst, .endRead .loaded, .finish, .search ⟨"A", "B"⟩ none,
    .search ⟨"C", "D"⟩ none, .search ⟨"C", "D"⟩ none, .search ⟨"", "B"⟩ none,
    .search ⟨"E", "F"⟩ (some { maxHops := 1 })]

private def searched : Coordinator :=
  (ofEngine warmEngine (.memory {})).run searchedOften

theorem searches_told_by_lookups :
    let start := ofEngine warmEngine (.memory {})
    Engine.withPolicy {} (.fixed [⟨"A", "B"⟩]) = .ok warmEngine ∧
      start.InPlaceSince searchedOften 4 [⟨"A", "B"⟩] ∧
      searched.engine.current.cache.counts.lookups = 4 ∧
      searched.engine.current.cache.counts.misses = 2 ∧
      ⟨"A", "B"⟩ ∈ searched.engine.current.cache.pairs := by
  intro start
  have created : Engine.withPolicy {} (.fixed [⟨"A", "B"⟩]) = .ok warmEngine := rfl
  have inPlace : start.InPlaceSince searchedOften 4 [⟨"A", "B"⟩] := by
    rcases (warmEngine.exists_nextSnapshot_iff []).mpr List.nodup_nil with ⟨made, same⟩
    have decided : (start.after searchedOften 3).running =
        some ⟨⟨.caller 0, .manual, 1⟩, 1, .decided (warmEngine.nextSnapshot [])⟩ := rfl
    have idle : ∀ moment < 9, 3 < moment → (start.after searchedOften moment).running.isNone := by
      decide +kernel
    rw [same] at decided
    rcases exists_ran_of_decided rfl decided
      (Option.isNone_iff_eq_none.mp (idle 4 (by decide) (by decide))) with ⟨began, ran⟩
    rcases ran.exists_readsAt rfl with ⟨read, flights, reads, _⟩
    have pairs : (start.after searchedOften read).engine.policy.pairs = [⟨"A", "B"⟩] := by
      have within : read < 3 := reads.within
      interval_cases read <;> rfl
    rw [← pairs]
    refine .published ran rfl reads fun other otherRan later => ?_
    have none := idle other.ended otherRan.ended_lt_length later
    rw [otherRan.decided] at none
    cases none
  rcases (lookups_tell_searches created (.memory {}) searchedOften).2.1 4 _ inPlace with
    ⟨_, _, lookups, rest⟩
  have kept : .invalidate ∉ searchedOften.drop 4 := by
    simp [searchedOften]
  rcases rest kept with ⟨_, keys, misses⟩
  exact ⟨created, inPlace, lookups.trans (by decide +kernel), misses.trans (by decide +kernel),
    (keys _).mpr (Or.inl (by decide))⟩

end Coordinator
end Rebuild
end Itineraries
