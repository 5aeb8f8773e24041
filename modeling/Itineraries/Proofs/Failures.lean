import Mathlib.Tactic.IntervalCases
import Itineraries.Proofs.Replay

namespace Itineraries
namespace Rebuild
namespace Coordinator

/-!
# Rebuilds that fail

A rebuild can fail in its read or when its graph is built.  By then it has been
counted as begun and its tickets are covered, and the version of the next graph has
been derived from the current one.  It is entered into the books all the same, and
that is all that comes of it: searches and later rebuilds find the engine and the
inventory as if it had not been run.
-/

/-- What is entered into the books when a rebuild ends. -/
def books (coordinator : Coordinator) : Option Summary × Nat × Nat × List Event :=
  (coordinator.lastSummary, coordinator.succeeded, coordinator.failed, coordinator.events)

/-- A rebuild that has ended in a fault has changed nothing but the books.  The engine is
told move by move, since searches and invalidations change it while the rebuild is in
progress. -/
structure FailsWith (start : Coordinator) (moves : List Move) (episode : Episode)
    (fault : Fault) : Prop where
  cause : EndsRebuild start.engine.config fault
  engine : ∀ moment move, episode.began ≤ moment → moment ≤ episode.ended →
    moves[moment]? = some move → (∀ pair given, move ≠ .search pair given) →
      move ≠ .invalidate →
        (start.after moves (moment + 1)).engine = (start.after moves moment).engine
  inventory : ∀ moment move, moves[moment]? = some move → move.changesInventory = false →
    (start.after moves (moment + 1)).inventory = (start.after moves moment).inventory
  graph : (start.after moves (episode.ended + 1)).engine.current.graph =
    (start.after moves episode.began).engine.current.graph
  state : (start.after moves (episode.ended + 1)).state = .idle
  lastSummary : (start.after moves (episode.ended + 1)).lastSummary =
    (start.after moves episode.began).lastSummary
  succeeded : (start.after moves (episode.ended + 1)).succeeded =
    (start.after moves episode.began).succeeded
  failed : (start.after moves (episode.ended + 1)).failed =
    (start.after moves episode.began).failed + 1
  events : (start.after moves (episode.ended + 1)).events =
    (start.after moves episode.began).events ++ [.failed episode.demand.reason fault.message]

section

variable {coordinator next : Coordinator} {move : Move}

/-- Unless a snapshot is published, only searches and invalidations change the
engine. -/
theorem Step.engine_cases (step : Step coordinator move next)
    (unpublished : ∀ demand covers made, next.running = none →
      coordinator.running ≠ some ⟨demand, covers, .decided (.ok made)⟩) :
    next.engine = coordinator.engine ∨
      (∃ pair given, move = .search pair given ∧
        next.engine = (coordinator.engine.search pair given).2) ∨
      move = .invalidate ∧ next.engine = coordinator.engine.invalidate.2 := by
  cases step with
  | search pair given => exact Or.inr (Or.inl ⟨pair, given, rfl, rfl⟩)
  | invalidate => exact Or.inr (Or.inr ⟨rfl, rfl⟩)
  | @finish demand covers outcome _ decided =>
    cases outcome with
    | error fault => exact Or.inl rfl
    | ok made => exact absurd decided (unpublished demand covers made rfl)
  | _ => exact Or.inl rfl

theorem Step.graph_eq (step : Step coordinator move next)
    (unpublished : ∀ demand covers made, next.running = none →
      coordinator.running ≠ some ⟨demand, covers, .decided (.ok made)⟩) :
    next.engine.current.graph = coordinator.engine.current.graph := by
  rcases step.engine_cases unpublished with same | ⟨pair, given, _, searched⟩ | ⟨_, invalidated⟩
  · rw [same]
  · rcases coordinator.engine.search_snd pair given with ⟨cache, policy, changed⟩
    rw [searched, changed]
    rfl
  · rw [invalidated]
    rfl

theorem Step.config_eq (step : Step coordinator move next) :
    next.engine.config = coordinator.engine.config := by
  cases step with
  | search pair given =>
    rcases coordinator.engine.search_snd pair given with ⟨cache, policy, changed⟩
    rw [changed]
    rfl
  | @finish demand covers outcome => cases outcome <;> rfl
  | _ => rfl

theorem Step.books_eq (step : Step coordinator move next) (goesOn : next.running ≠ none) :
    next.books = coordinator.books := by
  rcases step.rebuild_cases with ⟨_, kept⟩ | ⟨_, _, _, _, _, rfl⟩ | ⟨_, _, _, _, rfl⟩ |
    ⟨_, _, _, decided, rfl⟩
  · rw [books, kept.lastSummary, kept.succeeded, kept.failed, kept.events]
    rfl
  · rfl
  · rfl
  · rw [finish_of_decided decided] at goesOn
    exact absurd rfl goesOn

end

section

variable {start : Coordinator} {moves : List Move} {episode : Episode} {fault : Fault}

theorem Ran.books_eq (ran : start.Ran moves episode) :
    (start.after moves episode.ended).books = (start.after moves episode.began).books := by
  suffices same : ∀ moment, episode.began ≤ moment → moment ≤ episode.ended →
      (start.after moves moment).books = (start.after moves episode.began).books from
    same episode.ended (Nat.le_of_lt ran.began_lt) (Nat.le_refl _)
  intro moment since
  induction since with
  | refl => exact fun _ => rfl
  | @step moment since inductionHypothesis =>
    intro within
    rcases ran.inProgress (moment + 1) (Nat.lt_succ_of_le since) within with ⟨progress, running⟩
    rcases start.step_after moves moment with ⟨move, step, _⟩
    rw [step.books_eq (by rw [running]; nofun)]
    exact inductionHypothesis (Nat.le_of_succ_le within)

/-- From its beginning to its end a rebuild that fails publishes nothing. -/
theorem Ran.unpublished (ran : start.Ran moves episode) (failed : episode.outcome = .error fault)
    {moment : Nat} (since : episode.began ≤ moment) (within : moment ≤ episode.ended) :
    ∀ demand covers made, (start.after moves (moment + 1)).running = none →
      (start.after moves moment).running ≠ some ⟨demand, covers, .decided (.ok made)⟩ := by
  intro demand covers made ended decided
  rcases Nat.lt_or_eq_of_le within with before | rfl
  · rcases ran.inProgress (moment + 1) (Nat.lt_succ_of_le since) before with ⟨progress, running⟩
    rw [ended] at running
    cases running
  · rw [ran.decided, failed] at decided
    cases decided

theorem Ran.graph_eq (ran : start.Ran moves episode) (failed : episode.outcome = .error fault) :
    (start.after moves (episode.ended + 1)).engine.current.graph =
      (start.after moves episode.began).engine.current.graph := by
  suffices same : ∀ moment, episode.began ≤ moment → moment ≤ episode.ended + 1 →
      (start.after moves moment).engine.current.graph =
        (start.after moves episode.began).engine.current.graph from
    same _ (Nat.le_succ_of_le (Nat.le_of_lt ran.began_lt)) (Nat.le_refl _)
  intro moment since
  induction since with
  | refl => exact fun _ => rfl
  | @step moment since inductionHypothesis =>
    intro within
    rcases start.step_after moves moment with ⟨move, step, _⟩
    rw [step.graph_eq (ran.unpublished failed since (Nat.le_of_succ_le_succ within))]
    exact inductionHypothesis (Nat.le_of_succ_le within)

end

theorem Ran.failsWith {engine : Engine} {inventory : Inventory} {moves : List Move}
    {episode : Episode} {fault : Fault} (ran : (ofEngine engine inventory).Ran moves episode)
    (failed : episode.outcome = .error fault) :
    (ofEngine engine inventory).FailsWith moves episode fault := by
  have decided := ran.decided
  rw [failed] at decided
  have ended := ran.finish
  rw [finish_of_decided decided] at ended
  have books := ran.books_eq
  rw [Coordinator.books, Coordinator.books, Prod.mk.injEq, Prod.mk.injEq, Prod.mk.injEq] at books
  rcases books with ⟨lastSummary, succeeded, failures, events⟩
  refine
    { cause := ?_
      engine := ?_
      inventory := ?_
      graph := ran.graph_eq failed
      state := state_eq_idle_iff.mpr ran.gone
      lastSummary := ?_
      succeeded := ?_
      failed := ?_
      events := ?_ }
  · have foreseen : ((ofEngine engine inventory).after moves episode.ended).Foreseen :=
      .run engine inventory _
    have cause := foreseen.fault _ _ _ decided
    have config := (ofEngine engine inventory).after_induction moves
      (motive := fun state => state.engine.config = engine.config)
      (fun step before => step.config_eq.trans before) (Nat.zero_le episode.ended) rfl
    rw [config] at cause
    exact cause
  · intro moment move since within made unsearched kept
    have step := step_apply ((ofEngine engine inventory).after moves moment) move
    have unpublished := ran.unpublished failed since within
    rw [after_succ _ _ made] at unpublished ⊢
    rcases step.engine_cases unpublished with same | ⟨pair, given, searches, _⟩ | ⟨invalidates, _⟩
    · exact same
    · exact absurd searches (unsearched pair given)
    · exact absurd invalidates kept
  · intro moment move made unchanged
    rw [after_succ _ _ made]
    exact inventory_apply_eq _ move unchanged
  · rw [ended]
    exact lastSummary
  · rw [ended]
    exact succeeded
  · rw [ended]
    exact congrArg (· + 1) failures
  · rw [ended, ← events]
    rfl

/-- Whatever has happened before and in between: a rebuild that ends in a fault has
changed nothing but the books.  Nothing that happens to the engine afterwards depends
on it: if in two runs of an engine the same searches and invalidations are made and
the rebuilds that succeed read the same flights, in the same order, then whatever
rebuilds fail in them, the same engine is left, all searches are answered alike, and
all rebuilds that succeed have the same versions.  And every run can be cleared of the
rebuilds that fail. -/
theorem failed_rebuild_leaves_no_trace (engine : Engine) (inventory : Inventory)
    (moves : List Move) :
    let start := ofEngine engine inventory
    (∀ episode fault, start.Ran moves episode → episode.outcome = .error fault →
      start.FailsWith moves episode fault) ∧
    (∀ other otherMoves,
      ((ofEngine engine other).deeds otherMoves).filter (!·.isFailure) =
          (start.deeds moves).filter (!·.isFailure) →
        ((ofEngine engine other).run otherMoves).engine = (start.run moves).engine ∧
        (ofEngine engine other).searchAnswers otherMoves = start.searchAnswers moves ∧
        ((ofEngine engine other).run otherMoves).versions = (start.run moves).versions) ∧
    ∃ otherMoves, start.deeds otherMoves = (start.deeds moves).filter (!·.isFailure) ∧
      (start.run otherMoves).failed = 0 := by
  intro start
  refine ⟨?_, ?_, ?_⟩
  · intro episode fault ran failed
    exact ran.failsWith failed
  · intro other otherMoves same
    exact same_of_same_deeds same
  · exact ⟨start.withoutFailures moves, (Mimics.initial engine inventory).withoutFailures moves⟩

/-- A search is made while a rebuild is in progress that fails, and another one
afterwards. -/
private def failing : List Move :=
  [.call .manual, .serveFirst, .search ⟨"A", "B"⟩ none, .endRead .timedOut, .finish,
    .search ⟨"A", "B"⟩ none]

theorem timed_out_rebuild_leaves_no_trace :
    (ofEngine warmEngine (.memory {})).FailsWith failing
        ⟨1, 4, ⟨.caller 0, .manual, 1⟩, 1, .error (.timedOut 5000)⟩ (.timedOut 5000) ∧
      (ofEngine warmEngine (.memory {})).searchAnswers [.search ⟨"A", "B"⟩ none,
          .search ⟨"A", "B"⟩ none] =
        (ofEngine warmEngine (.memory {})).searchAnswers failing := by
  have ran : (ofEngine warmEngine (.memory {})).Ran failing
      ⟨1, 4, ⟨.caller 0, .manual, 1⟩, 1, .error (.timedOut 5000)⟩ := by
    refine ⟨⟨rfl, rfl, rfl, rfl, by decide, ?_⟩, rfl, rfl⟩
    intro between later within
    change 1 < between at later
    change between ≤ 4 at within
    interval_cases between <;> exact ⟨_, rfl⟩
  have traces := failed_rebuild_leaves_no_trace warmEngine (.memory {}) failing
  exact ⟨traces.1 _ _ ran rfl, (traces.2.1 (.memory {}) [.search ⟨"A", "B"⟩ none,
    .search ⟨"A", "B"⟩ none] rfl).2.1⟩

end Coordinator
end Rebuild
end Itineraries
