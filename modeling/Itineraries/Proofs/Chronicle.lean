import Itineraries.Proofs.Failures

namespace Itineraries

/-!
# The books tell one history

When a rebuild ends, a snapshot may be published, a counter goes up, observers are
told, and a success leaves its summary.  The version of the snapshot was chosen long
before, when the inventory had been read.  Since no other rebuild is in progress in
between, it is still the next one when the snapshot is published.  So versions count
the rebuilds that have succeeded, the events name all rebuilds one after the other,
and the last summary is about the current graph.
-/

/-- A graph accounts for every flight of its inventory, as a departure or as
excluded. -/
theorem Graph.counts_of_build {flights : List Flight} {version : Nat} {graph : Graph}
    (built : build flights version = .ok graph) :
    graph.flightCount + graph.excludedCount = flights.length := by
  rw [(eq_ofBoardable_of_build built).2]
  exact Nat.add_sub_of_le (List.length_filter_le _ _)

namespace Rebuild

def Event.summary? : Event → Option Summary
  | .completed summary => some summary
  | .failed _ _ => none

structure Summary.Describes (summary : Summary) (graph : Graph) : Prop where
  graphVersion : summary.graphVersion = graph.version
  locationCount : summary.locationCount = graph.locationCount
  flightCount : summary.flightCount = graph.flightCount
  excludedCount : summary.excludedCount = graph.excludedCount

namespace Coordinator

/-! ## What is on record -/

/-- The summaries that observers have been told of. -/
def summaries (coordinator : Coordinator) : List Summary :=
  coordinator.events.filterMap Event.summary?

theorem versions_eq (coordinator : Coordinator) :
    coordinator.versions = coordinator.summaries.map (·.graphVersion) := by
  rw [versions, summaries, List.map_filterMap]
  congr 1
  funext event
  cases event <;> rfl

theorem summary?_eventOf (reason : Reason) (result : Result) :
    (eventOf reason result).summary? = result.toOption := by
  cases result <;> rfl

theorem summaries_finish {coordinator : Coordinator} {demand : Demand} {covers : Nat}
    {outcome : Except Fault (Snapshot × Nat)}
    (decided : coordinator.running = some ⟨demand, covers, .decided outcome⟩) :
    coordinator.finish.summaries =
      coordinator.summaries ++ (resultOf demand.reason outcome).toOption.toList := by
  rw [finish_of_decided decided, summaries, List.filterMap_append]
  cases outcome <;> rfl

/-- The books agree with each other and with the engine. -/
structure Recorded (coordinator : Coordinator) : Prop extends Foreseen coordinator where
  counted : coordinator.engine.version = coordinator.succeeded
  versions : coordinator.versions = List.range' 1 coordinator.succeeded
  last : coordinator.lastSummary = coordinator.summaries.getLast?
  describes : ∀ summary, coordinator.lastSummary = some summary →
    summary.Describes coordinator.engine.current.graph

namespace Recorded

variable {coordinator next : Coordinator} {move : Move}

theorem initial {config : Config} {policy : WarmPolicy} {engine : Engine}
    (created : Engine.withPolicy config policy = .ok engine) (inventory : Inventory) :
    (ofEngine engine inventory).Recorded where
  toForeseen := .initial engine inventory
  counted := by
    change engine.current.version = 0
    rw [(Engine.withPolicy_eq_ok created).2]
    rfl
  versions := rfl
  last := rfl
  describes := nofun

/-- The end of a rebuild is entered into all books alike. -/
theorem finish (recorded : coordinator.Recorded) {demand : Demand} {covers : Nat}
    {outcome : Except Fault (Snapshot × Nat)}
    (decided : coordinator.running = some ⟨demand, covers, .decided outcome⟩) :
    coordinator.finish.Recorded := by
  have foreseen := recorded.toForeseen.step (step_finish coordinator)
  have told := summaries_finish decided
  have versions := coordinator.finish.versions_eq
  rw [told, List.map_append, ← versions_eq, recorded.versions] at versions
  cases outcome with
  | error fault =>
    change _ = _ ++ [] at told versions
    rw [List.append_nil] at told versions
    refine ⟨foreseen, ?_, ?_, ?_, ?_⟩
    · rw [finish_of_decided decided]
      exact recorded.counted
    · rw [versions, finish_of_decided decided]
      rfl
    · rw [told, finish_of_decided decided]
      exact recorded.last
    · rw [finish_of_decided decided]
      exact recorded.describes
  | ok made =>
    -- No other rebuild has ended since the version was chosen.
    have version : made.1.version = coordinator.succeeded + 1 := by
      rw [recorded.version _ _ _ _ decided, recorded.counted]
    refine ⟨foreseen, ?_, ?_, ?_, ?_⟩
    · rw [finish_of_decided decided]
      exact version
    · rw [versions, finish_of_decided decided]
      change _ ++ [made.1.version] = List.range' 1 (coordinator.succeeded + 1)
      rw [List.range'_1_concat, version, Nat.add_comm]
    · rw [told, finish_of_decided decided]
      exact List.getLast?_concat.symm
    · rw [finish_of_decided decided]
      intro summary left
      rw [← Option.some.inj left]
      exact ⟨rfl, rfl, rfl, rfl⟩

theorem step (recorded : coordinator.Recorded) (step : Step coordinator move next) :
    next.Recorded := by
  have foreseen := recorded.toForeseen.step step
  cases step with
  | search pair given =>
    rcases coordinator.engine.search_snd pair given with ⟨cache, policy, changed⟩
    rw [changed] at foreseen ⊢
    exact ⟨foreseen, recorded.counted, recorded.versions, recorded.last, recorded.describes⟩
  | finish decided told =>
    subst told
    rw [← finish_of_decided decided]
    exact recorded.finish decided
  | _ => exact ⟨foreseen, recorded.counted, recorded.versions, recorded.last, recorded.describes⟩

theorem run {config : Config} {policy : WarmPolicy} {engine : Engine}
    (created : Engine.withPolicy config policy = .ok engine) (inventory : Inventory)
    (moves : List Move) : ((ofEngine engine inventory).run moves).Recorded :=
  run_induction (.initial created inventory) fun _ _ _ _ recorded step => recorded.step step

theorem lastSummary_eq_none_iff (recorded : coordinator.Recorded) :
    coordinator.lastSummary = none ↔ coordinator.succeeded = 0 := by
  have versions := recorded.versions
  rw [versions_eq] at versions
  have counted := congrArg List.length versions
  rw [List.length_map, List.length_range'] at counted
  rw [recorded.last, List.getLast?_eq_none_iff, ← List.length_eq_zero_iff, counted]

end Recorded

/-! ## Episodes one after the other -/

section

variable {start : Coordinator} {moves : List Move} {first second episode : Episode}

theorem Ran.ended_lt_length (ran : start.Ran moves episode) : episode.ended < moves.length := by
  apply Nat.lt_of_not_le
  intro beyond
  have gone := ran.gone
  rw [after_succ_of_none _ _ (List.getElem?_eq_none beyond), ran.decided] at gone
  cases gone

theorem Ran.ended_lt_began (ran : start.Ran moves first) (other : start.Ran moves second)
    (before : first.ended < second.ended) : first.ended < second.began := by
  apply Nat.lt_of_not_le
  intro began
  rcases other.inProgress (first.ended + 1) (Nat.lt_succ_of_le began) before with ⟨_, running⟩
  rw [ran.gone] at running
  cases running

theorem Ran.eq_of_ended_eq (ran : start.Ran moves first) (other : start.Ran moves second)
    (same : first.ended = second.ended) : first = second := by
  refine ran.eq_of_began_eq other (eq_of_never_before (motive := fun moment =>
    ∃ episode, start.Ran moves episode ∧ episode.began = moment ∧ episode.ended = second.ended)
    ?_ ⟨first, ran, rfl, same⟩ ⟨second, other, rfl, rfl⟩)
  -- The one that began earlier would have been in progress when the other began.
  rintro _ _ ⟨one, ranOne, rfl, together⟩ ⟨another, ranAnother, rfl, again⟩ earlier
  have within : another.began ≤ one.ended :=
    together.trans again.symm ▸ Nat.le_of_lt ranAnother.began_lt
  rcases ranOne.inProgress _ earlier within with ⟨_, running⟩
  rw [ranAnother.idle] at running
  cases running

def Episode.event (episode : Episode) : Event :=
  eventOf episode.demand.reason episode.result

theorem Ran.events_eq (ran : start.Ran moves episode) :
    (start.after moves (episode.ended + 1)).events =
      (start.after moves episode.ended).events ++ [episode.event] := by
  rw [ran.finish, finish_of_decided ran.decided]
  rfl

theorem events_succ_eq (unrun : start.running = none) {moment : Nat}
    (none : ∀ episode, start.Ran moves episode → episode.ended ≠ moment) :
    (start.after moves (moment + 1)).events = (start.after moves moment).events := by
  rcases start.step_after moves moment with ⟨move, step, _⟩
  rcases step.rebuild_cases with ⟨_, kept⟩ | ⟨_, _, _, _, _, same⟩ | ⟨_, _, _, _, same⟩ |
    ⟨demand, covers, outcome, decided, ended⟩
  · exact kept.events
  · rw [same]
  · rw [same]
  · have gone : (start.after moves (moment + 1)).running = .none := by
      rw [ended, finish_of_decided decided]
    rcases exists_ran_of_decided unrun decided gone with ⟨began, ran⟩
    exact absurd rfl (none _ ran)

/-- A row of episodes is the history up to a moment: there are those that have ended
by then, one after the other, and observers have been told of each. -/
structure IsHistory (start : Coordinator) (moves : List Move) (moment : Nat)
    (history : List Episode) : Prop where
  complete : ∀ episode, episode ∈ history ↔ start.Ran moves episode ∧ episode.ended < moment
  ordered : history.Pairwise fun earlier later => earlier.ended < later.began
  told : (start.after moves moment).events = start.events ++ history.map Episode.event

namespace IsHistory

variable {history : List Episode} {moment : Nat}

/-- An episode that ends at a moment is the next in the history. -/
theorem concat (soFar : start.IsHistory moves moment history) (ran : start.Ran moves episode)
    (ends : episode.ended = moment) :
    start.IsHistory moves (moment + 1) (history ++ [episode]) where
  complete other := by
    rw [List.mem_append, List.mem_singleton, soFar.complete, Nat.lt_succ_iff_lt_or_eq, and_or_left]
    refine or_congr_right ⟨?_, ?_⟩
    · rintro rfl
      exact ⟨ran, ends⟩
    · rintro ⟨otherRan, same⟩
      exact otherRan.eq_of_ended_eq ran (same.trans ends.symm)
  ordered := by
    rw [List.pairwise_append]
    refine ⟨soFar.ordered, List.pairwise_singleton _ _, ?_⟩
    intro earlier member last only
    rcases (soFar.complete earlier).mp member with ⟨earlierRan, before⟩
    rw [List.mem_singleton.mp only]
    exact earlierRan.ended_lt_began ran (ends ▸ before)
  told := by
    rw [← ends, ran.events_eq, ends, soFar.told, List.map_append, List.append_assoc]
    rfl

/-- If none ends at a moment, the history does not go on. -/
theorem succ (soFar : start.IsHistory moves moment history) (unrun : start.running = none)
    (none : ∀ episode, start.Ran moves episode → episode.ended ≠ moment) :
    start.IsHistory moves (moment + 1) history where
  complete episode := by
    rw [soFar.complete, Nat.lt_succ_iff_lt_or_eq, and_or_left]
    exact (or_iff_left fun ⟨ran, ends⟩ => none episode ran ends).symm
  ordered := soFar.ordered
  told := by rw [events_succ_eq unrun none, soFar.told]

end IsHistory

theorem exists_isHistory (unrun : start.running = none) (moves : List Move) (moment : Nat) :
    ∃ history, start.IsHistory moves moment history := by
  induction moment with
  | zero =>
    refine ⟨[], ?_, List.Pairwise.nil, (List.append_nil _).symm⟩
    intro episode
    exact iff_of_false List.not_mem_nil fun both => Nat.not_lt_zero _ both.2
  | succ moment inductionHypothesis =>
    rcases inductionHypothesis with ⟨history, soFar⟩
    -- At most one episode ends at a moment, so the history grows by at most one.
    by_cases ends : ∃ episode, start.Ran moves episode ∧ episode.ended = moment
    · rcases ends with ⟨episode, ran, ends⟩
      exact ⟨_, soFar.concat ran ends⟩
    · exact ⟨history, soFar.succ unrun fun episode ran same => ends ⟨episode, ran, same⟩⟩

/-- The latest summary of a history is that of an episode which only failures follow. -/
theorem IsHistory.latest {history : List Episode} {moment : Nat}
    (soFar : start.IsHistory moves moment history) (untold : start.events = [])
    {summary : Summary}
    (last : (start.after moves moment).summaries.getLast? = some summary) :
    ∃ earlier episode later, history = earlier ++ episode :: later ∧
      episode.result = .ok summary ∧ ∀ other ∈ later, ∃ fault, other.result = .error fault := by
  have tells : Event.summary? ∘ Episode.event = fun episode => episode.result.toOption :=
    funext fun episode => summary?_eventOf episode.demand.reason episode.result
  rw [summaries, soFar.told, untold, List.nil_append, List.filterMap_map, tells,
    List.getLast?_filterMap, List.findSome?_eq_some_iff] at last
  rcases last with ⟨later, episode, earlier, split, succeeded, failures⟩
  refine ⟨earlier.reverse, episode, later.reverse, ?_, ?_, ?_⟩
  · rw [← List.reverse_reverse history, split, List.reverse_append, List.reverse_cons,
      List.append_assoc]
    rfl
  · cases result : episode.result with
    | ok told => rw [result] at succeeded; rw [Option.some.inj succeeded]
    | error fault => rw [result] at succeeded; cases succeeded
  · intro other member
    have failed := failures other (List.mem_reverse.mp member)
    cases result : other.result with
    | ok told => rw [result] at failed; cases failed
    | error fault => exact ⟨fault, rfl⟩

end

/-! ## What a rebuild has read -/

/-- The read of an episode ends at a moment, and with it come the flights that the
inventory lists then. -/
structure ReadsAt (start : Coordinator) (moves : List Move) (episode : Episode) (moment : Nat)
    (flights : List Flight) : Prop where
  since : episode.began < moment
  within : moment < episode.ended
  made : moves[moment]? = some (.endRead .loaded)
  reading : (start.after moves moment).running =
    some ⟨episode.demand, episode.covers, .reading⟩
  load : (start.after moves moment).inventory.load = .ok flights

section

variable {start : Coordinator} {moves : List Move} {moment began covers : Nat} {demand : Demand}
  {outcome : Except Fault (Snapshot × Nat)}

/-- A rebuild that is decided was so a moment ago, or its read has just ended. -/
theorem decided_cases
    (decided : (start.after moves (moment + 1)).running =
      some ⟨demand, covers, .decided outcome⟩) :
    (start.after moves moment).running = some ⟨demand, covers, .decided outcome⟩ ∨
      ∃ readEnd, moves[moment]? = some (.endRead readEnd) ∧
        (start.after moves moment).running = some ⟨demand, covers, .reading⟩ ∧
        outcome = (start.after moves moment).outcomeOf readEnd := by
  cases made : moves[moment]? with
  | none =>
    rw [after_succ_of_none _ _ made] at decided
    exact Or.inl decided
  | some move =>
    have step := step_apply (start.after moves moment) move
    rw [← after_succ _ _ made] at step
    generalize start.after moves (moment + 1) = next at step decided
    cases step with
    | begin | finish => cases decided
    | endRead readEnd reading =>
      cases decided
      exact Or.inr ⟨readEnd, rfl, reading, rfl⟩
    | _ => exact Or.inl decided

/-- If a rebuild is decided, its read has ended at some moment since it began. -/
theorem IsUnderWay.exists_endRead (underWay : start.IsUnderWay moves began demand covers moment)
    (decided : (start.after moves moment).running = some ⟨demand, covers, .decided outcome⟩) :
    ∃ read readEnd, began < read ∧ read < moment ∧ moves[read]? = some (.endRead readEnd) ∧
      (start.after moves read).running = some ⟨demand, covers, .reading⟩ ∧
      outcome = (start.after moves read).outcomeOf readEnd := by
  induction moment with
  | zero => exact absurd underWay.began_lt (Nat.not_lt_zero _)
  | succ moment inductionHypothesis =>
    -- At the moment at which it began, no rebuild was in progress yet.
    have since : ∀ {rebuild}, (start.after moves moment).running = some rebuild →
        began < moment := by
      intro rebuild running
      rcases Nat.lt_or_eq_of_le (Nat.le_of_lt_succ underWay.began_lt) with before | rfl
      · exact before
      · rw [underWay.idle] at running
        cases running
    rcases decided_cases decided with before | ⟨readEnd, made, reading, same⟩
    · have shorter : start.IsUnderWay moves began demand covers moment :=
        { underWay with
          began_lt := since before
          inProgress := fun between later within =>
            underWay.inProgress between later (Nat.le_succ_of_le within) }
      rcases inductionHypothesis shorter before with ⟨read, readEnd, later, within, rest⟩
      exact ⟨read, readEnd, later, Nat.lt_succ_of_lt within, rest⟩
    · exact ⟨moment, readEnd, since reading, Nat.lt_succ_self _, made, reading, same⟩

/-- A rebuild that has succeeded has read flights, and its summary accounts for each of
them. -/
theorem Ran.exists_readsAt {episode : Episode} (ran : start.Ran moves episode)
    {summary : Summary} (succeeded : episode.result = .ok summary) :
    ∃ moment flights, start.ReadsAt moves episode moment flights ∧
      summary.flightCount + summary.excludedCount = flights.length := by
  rcases ran.exists_endRead ran.decided with
    ⟨moment, readEnd, since, within, made, reading, outcome⟩
  rw [Episode.result, outcome] at succeeded
  cases readEnd with
  | failed | timedOut => cases succeeded
  | loaded =>
    cases came : (start.after moves moment).outcomeOf .loaded with
    | error fault =>
      rw [came] at succeeded
      cases succeeded
    | ok next =>
      rw [came] at succeeded
      rcases reflects_of_outcomeOf came with ⟨flights, load, built⟩
      refine ⟨moment, flights, ⟨since, within, made, reading, load⟩, ?_⟩
      rw [← Except.ok.inj succeeded]
      exact Graph.counts_of_build built

end

/-- Whatever has happened to an engine since it was made, the books tell one history
without gaps.  The version of the current graph is the number of rebuilds that have
succeeded.  Observers have been told of every rebuild that has ended, in this order,
and of the successes with the versions 1, 2, and so on.  There is a last summary
unless none has succeeded.  It is the latest that observers have been told, and it
describes the current graph; it comes from a rebuild which only failures have followed,
and it accounts for each of the flights that this rebuild has read. -/
theorem books_tell_one_history {config : Config} {policy : WarmPolicy} {engine : Engine}
    (created : Engine.withPolicy config policy = .ok engine) (inventory : Inventory)
    (moves : List Move) :
    let start := ofEngine engine inventory
    let reached := start.run moves
    reached.engine.version = reached.succeeded ∧
    reached.versions = List.range' 1 reached.succeeded ∧
    (reached.lastSummary = none ↔ reached.succeeded = 0) ∧
    reached.lastSummary = reached.summaries.getLast? ∧
    (∀ summary, reached.lastSummary = some summary →
      summary.Describes reached.engine.current.graph) ∧
    ∃ history : List Episode,
      (∀ episode, episode ∈ history ↔ start.Ran moves episode) ∧
      (history.Pairwise fun earlier later => earlier.ended < later.began) ∧
      reached.events = history.map Episode.event ∧
      ∀ summary, reached.lastSummary = some summary →
        ∃ earlier episode later, history = earlier ++ episode :: later ∧
          episode.result = .ok summary ∧
          (∀ other ∈ later, ∃ fault, other.result = .error fault) ∧
          ∃ moment flights, start.ReadsAt moves episode moment flights ∧
            summary.flightCount + summary.excludedCount = flights.length := by
  intro start reached
  have recorded : reached.Recorded := .run created inventory moves
  rcases exists_isHistory (rfl : start.running = none) moves moves.length with ⟨history, soFar⟩
  have arrived : start.after moves moves.length = reached := start.after_length moves
  refine ⟨recorded.counted, recorded.versions, recorded.lastSummary_eq_none_iff, recorded.last,
    recorded.describes, history, ?_, soFar.ordered, arrived ▸ soFar.told, ?_⟩
  · intro episode
    rw [soFar.complete]
    exact and_iff_left_of_imp Ran.ended_lt_length
  · intro summary left
    have last : (start.after moves moves.length).summaries.getLast? = some summary := by
      rw [arrived, ← recorded.last, left]
    rcases soFar.latest rfl last with ⟨earlier, episode, later, split, succeeded, failures⟩
    have ran := ((soFar.complete episode).mp (by
      rw [split]
      exact List.mem_append_right _ List.mem_cons_self)).1
    exact ⟨earlier, episode, later, split, succeeded, failures, ran.exists_readsAt succeeded⟩

/-- One rebuild has failed, and another has read the only flight. -/
private def afterFailure : List Move :=
  [.upsert shuttle, .call .manual, .serveFirst, .endRead .timedOut, .finish, .call .manual,
    .serveFirst, .endRead .loaded]

theorem success_after_failure_recorded :
    let start := ofEngine warmEngine (.memory {})
    let reached := start.run (afterFailure ++ [.finish])
    Engine.withPolicy {} (.fixed [⟨"A", "B"⟩]) = .ok warmEngine ∧
      reached.failed = 1 ∧ reached.engine.version = 1 ∧ reached.versions = [1] ∧
      ∃ summary, reached.lastSummary = some summary ∧
        ∃ episode moment flights,
          start.ReadsAt (afterFailure ++ [.finish]) episode moment flights ∧
            summary.flightCount + summary.excludedCount = flights.length := by
  intro start reached
  have created : Engine.withPolicy {} (.fixed [⟨"A", "B"⟩]) = .ok warmEngine := rfl
  have made := (Engine.nextSnapshot_eq_ok_iff warmEngine [shuttle]
    ⟨.ofBoardable 1 0 [shuttle], (Engine.warm (.ofBoardable 1 0 [shuttle]) {} [⟨"A", "B"⟩]).1⟩
    1).mpr ⟨Graph.build_of_nodup 1 (by decide), rfl⟩
  have decided : (start.run afterFailure).running =
      some ⟨⟨.caller 1, .manual, 2⟩, 2, .decided (warmEngine.nextSnapshot [shuttle])⟩ := rfl
  rw [made] at decided
  have ended : reached = (start.run afterFailure).finish := rfl
  rw [finish_of_decided decided] at ended
  rcases books_tell_one_history created (.memory {}) (afterFailure ++ [.finish]) with
    ⟨version, versions, _, _, _, _, _, _, _, latest⟩
  have succeeded : reached.succeeded = 1 := by rw [ended]; rfl
  have left := congrArg Coordinator.lastSummary ended
  rcases latest _ left with ⟨_, episode, _, _, _, _, moment, flights, read, counts⟩
  exact ⟨created, by rw [ended]; rfl, version.trans succeeded,
    versions.trans (congrArg (List.range' 1) succeeded), _, left, episode, moment, flights, read,
    counts⟩

end Coordinator
end Rebuild
end Itineraries
