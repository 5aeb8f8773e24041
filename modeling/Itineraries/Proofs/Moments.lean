import Itineraries.Proofs.Coherence
import Itineraries.Proofs.Tickets

namespace Itineraries
namespace Rebuild
namespace Coordinator

/-!
# Moments of a run

What a caller is told goes back to what others have done before, and a rebuild
is spread over many moves of a run, with anything else in between.  Statements
about such things name moments: the state at a moment is the one after so many
moves of the run.

A rebuild from its beginning to its end is an episode.  Whenever a rebuild is in
progress, there is a moment at which it began, and whatever result the last
rebuild has left is that of an episode which has ended.
-/

abbrev ofEngine (engine : Engine) (inventory : Inventory) : Coordinator :=
  { engine := engine, inventory := inventory }

def after (start : Coordinator) (moves : List Move) (moment : Nat) : Coordinator :=
  start.run (moves.take moment)

/-- At a moment somebody asks for a rebuild and is not turned away. -/
def AcceptsAt (start : Coordinator) (moves : List Move) (moment : Nat) : Prop :=
  ∃ move, moves[moment]? = some move ∧ (start.after moves moment).Accepts move

/-- At a moment somebody calls for a rebuild, and the call has a number. -/
def CallsAt (start : Coordinator) (moves : List Move) (moment number : Nat) : Prop :=
  (∃ reason, moves[moment]? = some (.call reason)) ∧ (start.after moves moment).calls = number

def BeginsAt (start : Coordinator) (moves : List Move) (moment : Nat) : Prop :=
  (start.after moves moment).BeginsInto (start.after moves (moment + 1))

/-- A rebuild of a run, from the moment at which it begins to the one at which
it ends. -/
structure Episode where
  began : Nat
  ended : Nat
  demand : Demand
  covers : Nat
  outcome : Except Fault (Snapshot × Nat)

def Episode.result (episode : Episode) : Result :=
  resultOf episode.demand.reason episode.outcome

/-- A rebuild has begun for the first in the line, with a read of the inventory,
and has been in progress ever since. -/
structure IsUnderWay (start : Coordinator) (moves : List Move) (began : Nat) (demand : Demand)
    (covers moment : Nat) : Prop where
  idle : (start.after moves began).running = none
  first : (start.after moves began).line.head? = some demand
  covers_eq : covers = (start.after moves began).requests.issued
  readBegins : (start.after moves (began + 1)).reads = (start.after moves began).reads + 1
  began_lt : began < moment
  inProgress : ∀ between, began < between → between ≤ moment →
    ∃ progress, (start.after moves between).running = some ⟨demand, covers, progress⟩

/-- An episode is one of the rebuilds of a run: it has been in progress until its
outcome was decided, and then it has ended. -/
structure Ran (start : Coordinator) (moves : List Move) (episode : Episode) : Prop extends
    start.IsUnderWay moves episode.began episode.demand episode.covers episode.ended where
  decided : (start.after moves episode.ended).running =
    some ⟨episode.demand, episode.covers, .decided episode.outcome⟩
  gone : (start.after moves (episode.ended + 1)).running = none

/-! ## From one moment to the next -/

section

variable (start : Coordinator) (moves : List Move) {moment : Nat}

theorem after_length : start.after moves moves.length = start.run moves := by
  rw [after, List.take_length]

theorem after_succ {move : Move} (made : moves[moment]? = some move) :
    start.after moves (moment + 1) = (start.after moves moment).apply move := by
  simp only [after, List.take_add_one, made, Option.toList_some, run_concat]

theorem after_succ_of_none (past : moves[moment]? = none) :
    start.after moves (moment + 1) = start.after moves moment := by
  simp only [after, List.take_add_one, past, Option.toList_none, List.append_nil]

/-- Each moment is a step away from the next.  After the last move this is a step
by which nobody asks for anything. -/
theorem step_after (moment : Nat) :
    ∃ move, Step (start.after moves moment) move (start.after moves (moment + 1)) ∧
      (moves[moment]? = some move ∨
        moves[moment]? = none ∧ (start.after moves moment).IsSilent move) := by
  cases made : moves[moment]? with
  | some move =>
    refine ⟨move, ?_, Or.inl rfl⟩
    rw [after_succ start moves made]
    apply step_apply
  | none =>
    have silent : (start.after moves moment).IsSilent .leave := ⟨rfl, nofun⟩
    rw [after_succ_of_none start moves made]
    exact ⟨.leave, .stay silent, Or.inr ⟨rfl, silent⟩⟩

/-- What every step keeps holds from any moment on. -/
theorem after_induction {motive : Coordinator → Prop} {earlier later : Nat}
    (kept : ∀ {coordinator next move}, Step coordinator move next →
      motive coordinator → motive next)
    (ordered : earlier ≤ later) (holds : motive (start.after moves earlier)) :
    motive (start.after moves later) := by
  induction ordered with
  | refl => exact holds
  | @step later _ inductionHypothesis =>
    rcases start.step_after moves later with ⟨move, step, _⟩
    exact kept step inductionHypothesis

end

theorem eq_of_never_before {motive : Nat → Prop}
    (never : ∀ {one another}, motive one → motive another → ¬one < another)
    {first second : Nat} (here : motive first) (there : motive second) : first = second :=
  Nat.le_antisymm (Nat.le_of_not_lt (never there here)) (Nat.le_of_not_lt (never here there))

theorem CallsAt.acceptsAt {start : Coordinator} {moves : List Move} {moment number : Nat}
    (called : start.CallsAt moves moment number) : start.AcceptsAt moves moment := by
  rcases called.1 with ⟨reason, made⟩
  exact ⟨_, made, Or.inl ⟨reason, rfl⟩⟩

/-! ## What a step can do to a rebuild -/

/-- What is known of rebuilds that have begun or ended stays as it is. -/
structure KeepsBooks (coordinator next : Coordinator) : Prop where
  finished : next.finished = coordinator.finished
  begun : next.begun = coordinator.begun
  reads : next.reads = coordinator.reads
  succeeded : next.succeeded = coordinator.succeeded
  failed : next.failed = coordinator.failed
  lastSummary : next.lastSummary = coordinator.lastSummary
  events : next.events = coordinator.events

section

variable {coordinator next : Coordinator} {move : Move}

theorem state_eq_idle_iff : coordinator.state = .idle ↔ coordinator.running = none := by
  cases running : coordinator.running <;> simp [state, running]

theorem state_eq_rebuilding_iff :
    coordinator.state = .rebuilding ↔ ∃ rebuild, coordinator.running = some rebuild := by
  cases running : coordinator.running <;> simp [state, running]

theorem Step.rebuild_cases (step : Step coordinator move next) :
    (next.running = coordinator.running ∧ coordinator.KeepsBooks next) ∨
    (∃ demand line, coordinator.running = none ∧ coordinator.line = demand :: line ∧
      (∀ finished, coordinator.finished = some finished → finished.covers < demand.ticket) ∧
      next =
        { coordinator with
          line := line
          running := some { demand := demand, covers := coordinator.requests.issued }
          begun := max coordinator.begun coordinator.requests.issued
          reads := coordinator.reads + 1 }) ∨
    (∃ demand covers readEnd, coordinator.running = some ⟨demand, covers, .reading⟩ ∧
      next =
        { coordinator with
          running := some ⟨demand, covers, .decided (coordinator.outcomeOf readEnd)⟩ }) ∨
    (∃ demand covers outcome,
      coordinator.running = some ⟨demand, covers, .decided outcome⟩ ∧
        next = coordinator.finish) := by
  cases step with
  | begin idle first uncovered => exact Or.inr (Or.inl ⟨_, _, idle, first, uncovered, rfl⟩)
  | endRead readEnd reading => exact Or.inr (Or.inr (Or.inl ⟨_, _, readEnd, reading, rfl⟩))
  | finish decided told =>
    subst told
    exact Or.inr (Or.inr (Or.inr ⟨_, _, _, decided, (finish_of_decided decided).symm⟩))
  | _ => exact Or.inl ⟨rfl, rfl, rfl, rfl, rfl, rfl, rfl, rfl⟩

/-- A rebuild that was not in progress before has begun by this step. -/
theorem Step.begins (step : Step coordinator move next) (idle : coordinator.running = none)
    {rebuild : Running} (running : next.running = some rebuild) :
    ∃ line, coordinator.line = rebuild.demand :: line ∧
      rebuild = { demand := rebuild.demand, covers := coordinator.requests.issued } ∧
      (∀ finished, coordinator.finished = some finished →
        finished.covers < rebuild.demand.ticket) ∧
      next.begun = max coordinator.begun coordinator.requests.issued ∧
      next.reads = coordinator.reads + 1 := by
  rcases step.rebuild_cases with ⟨same, _⟩ | ⟨demand, line, _, first, uncovered, rfl⟩ |
    ⟨_, _, _, reading, _⟩ | ⟨_, _, _, decided, _⟩
  · rw [same, idle] at running
    cases running
  · cases running
    exact ⟨line, first, rfl, uncovered, rfl, rfl⟩
  · rw [idle] at reading
    cases reading
  · rw [idle] at decided
    cases decided

/-- A rebuild that is no longer in progress has ended by this step. -/
theorem Step.ends (step : Step coordinator move next) {rebuild : Running}
    (running : coordinator.running = some rebuild) (gone : next.running = none) :
    ∃ outcome, rebuild.progress = .decided outcome ∧ next = coordinator.finish := by
  rcases step.rebuild_cases with ⟨same, _⟩ | ⟨_, _, idle, _⟩ | ⟨_, _, _, _, rfl⟩ |
    ⟨_, _, outcome, decided, ended⟩
  · rw [same, running] at gone
    cases gone
  · rw [running] at idle
    cases idle
  · cases gone
  · rw [running] at decided
    cases decided
    exact ⟨outcome, rfl, ended⟩

/-- A rebuild that goes on stays the same one, and nothing is entered into the
books. -/
theorem Step.goesOn (step : Step coordinator move next) {rebuild : Running}
    (running : coordinator.running = some rebuild) (goesOn : next.running ≠ none) :
    (∃ progress, next.running = some ⟨rebuild.demand, rebuild.covers, progress⟩) ∧
      coordinator.KeepsBooks next := by
  rcases step.rebuild_cases with ⟨same, kept⟩ | ⟨_, _, idle, _⟩ | ⟨_, _, _, reading, rfl⟩ |
    ⟨_, _, _, decided, rfl⟩
  · exact ⟨⟨_, same.trans running⟩, kept⟩
  · rw [running] at idle
    cases idle
  · rw [running] at reading
    cases reading
    exact ⟨⟨_, rfl⟩, rfl, rfl, rfl, rfl, rfl, rfl, rfl⟩
  · rw [finish_of_decided decided] at goesOn
    exact absurd rfl goesOn

/-- While no rebuild is in progress, the last one stays the last one, and only
the beginning of another changes the books. -/
theorem Step.staysIdle (step : Step coordinator move next) (idle : coordinator.running = none)
    (still : next.running = none) : coordinator.KeepsBooks next := by
  rcases step.rebuild_cases with ⟨_, kept⟩ | ⟨_, _, _, _, _, rfl⟩ | ⟨_, _, _, reading, _⟩ |
    ⟨_, _, _, decided, _⟩
  · exact kept
  · cases still
  · rw [idle] at reading
    cases reading
  · rw [idle] at decided
    cases decided

theorem Step.issued_le (step : Step coordinator move next) :
    coordinator.requests.issued ≤ next.requests.issued := by
  have asked : ∀ reason, coordinator.requests.issued ≤
      (coordinator.requests.request coordinator.state reason).2.issued := by
    intro reason
    by_cases isOpen : coordinator.requests.isOpen = true
    · rcases Requests.request_of_isOpen isOpen coordinator.state reason with
        ⟨_, _, _, _, accepted⟩
      rw [accepted]
      exact Nat.le_succ _
    · have closed := Requests.request_of_closed (Bool.eq_false_iff.mpr isOpen)
      apply Nat.le_of_eq
      rw [closed]
  cases step with
  | start => exact asked .startup
  | @ask _ reason => exact asked reason
  | call => exact Nat.le_succ _
  | _ => exact Nat.le_refl _

/-- Nobody is accepted at the moment at which a rebuild begins. -/
theorem Step.not_accepts_of_beginsInto (step : Step coordinator move next)
    (begins : coordinator.BeginsInto next) : ¬coordinator.Accepts move := by
  have running := begins.2
  cases step with
  | begin => exact IsSilent.not_accepts ⟨rfl, nofun⟩
  | endRead _ reading =>
    have idle := state_eq_idle_iff.mp begins.1
    rw [reading] at idle
    cases idle
  | finish => cases running
  | _ => exact absurd begins (not_beginsInto_of_running_eq rfl)

end

/-! ## What a rebuild can come to -/

/-- A rebuild can go wrong in three ways: the ids in the inventory are repeated,
or it does not deliver its flights, or not in time. -/
inductive EndsRebuild (config : Config) : Fault → Prop where
  | duplicateIds (ids : List String) : EndsRebuild config (.duplicateIds ids)
  | inventory (fault : InventoryFault) : EndsRebuild config (.inventory fault)
  | timedOut : EndsRebuild config (.timedOut config.inventoryTimeoutMillis)

/-- A snapshot that is about to be published has the next version, and a rebuild
that is about to fail does so in one of the three ways. -/
structure Foreseen (coordinator : Coordinator) : Prop where
  version : ∀ demand covers snapshot warmed,
    coordinator.running = some ⟨demand, covers, .decided (.ok (snapshot, warmed))⟩ →
      snapshot.version = coordinator.engine.version + 1
  fault : ∀ demand covers fault,
    coordinator.running = some ⟨demand, covers, .decided (.error fault)⟩ →
      EndsRebuild coordinator.engine.config fault

section

variable {coordinator next : Coordinator} {move : Move}

theorem endsRebuild_of_outcomeOf {readEnd : ReadEnd} {fault : Fault}
    (failed : coordinator.outcomeOf readEnd = .error fault) :
    EndsRebuild coordinator.engine.config fault := by
  cases readEnd with
  | failed cause =>
    cases failed
    exact .inventory cause
  | timedOut =>
    cases failed
    exact .timedOut
  | loaded =>
    rw [outcomeOf, flightsRead] at failed
    cases load : coordinator.inventory.load with
    | error cause =>
      rw [load] at failed
      cases failed
      exact .inventory cause
    | ok flights =>
      rw [load] at failed
      change coordinator.engine.nextSnapshot flights = _ at failed
      by_cases distinct : (flights.map (·.id)).Nodup
      · rw [Engine.nextSnapshot, Graph.build_of_nodup _ distinct] at failed
        cases failed
      · rw [Engine.nextSnapshot, Graph.build_of_not_nodup _ distinct] at failed
        cases failed
        exact .duplicateIds _

theorem Foreseen.initial (engine : Engine) (inventory : Inventory) :
    (ofEngine engine inventory).Foreseen where
  version := nofun
  fault := nofun

theorem Foreseen.step (foreseen : coordinator.Foreseen) (step : Step coordinator move next) :
    next.Foreseen := by
  rcases foreseen with ⟨version, fault⟩
  cases step with
  | stay | start | ask | change | call | stop | take | leave | satisfy =>
    exact ⟨version, fault⟩
  | begin | finish => exact ⟨nofun, nofun⟩
  | endRead readEnd =>
    refine ⟨fun _ _ _ _ found => ?_, fun _ _ _ found => ?_⟩
    · have outcome := Progress.decided.inj (Running.mk.inj (Option.some.inj found)).2.2
      exact version_of_outcomeOf outcome
    · have outcome := Progress.decided.inj (Running.mk.inj (Option.some.inj found)).2.2
      exact endsRebuild_of_outcomeOf outcome
  | search pair given =>
    rcases coordinator.engine.search_snd pair given with ⟨cache, policy, same⟩
    rw [same]
    exact ⟨version, fault⟩
  | invalidate => exact ⟨version, fault⟩

theorem Foreseen.run (engine : Engine) (inventory : Inventory) (moves : List Move) :
    ((ofEngine engine inventory).run moves).Foreseen :=
  run_induction (.initial engine inventory) fun _ _ _ _ foreseen step => foreseen.step step

end

/-! ## Tickets in the course of a run -/

section

variable (start : Coordinator) (moves : List Move)

theorem issued_le_issued {earlier later : Nat} (ordered : earlier ≤ later) :
    (start.after moves earlier).requests.issued ≤ (start.after moves later).requests.issued :=
  start.after_induction moves
    (motive := fun state => (start.after moves earlier).requests.issued ≤ state.requests.issued)
    (fun step before => Nat.le_trans before step.issued_le) ordered (Nat.le_refl _)

end

/-! ## Episodes -/

section

variable {start : Coordinator} {moves : List Move} {moment began covers : Nat} {demand : Demand}

theorem beginsAt_iff : start.BeginsAt moves moment ↔
    (start.after moves moment).running = none ∧
      ∃ rebuild, (start.after moves (moment + 1)).running = some rebuild := by
  rw [BeginsAt, BeginsInto, state_eq_idle_iff, state_eq_rebuilding_iff]

theorem IsUnderWay.beginsAt (underWay : start.IsUnderWay moves began demand covers moment) :
    start.BeginsAt moves began := by
  rcases underWay.inProgress (began + 1) (Nat.lt_succ_self _) underWay.began_lt with
    ⟨progress, running⟩
  exact beginsAt_iff.mpr ⟨underWay.idle, _, running⟩

theorem IsUnderWay.of_beginsAt (begins : start.BeginsAt moves moment) :
    ∃ demand, start.IsUnderWay moves moment demand
      (start.after moves moment).requests.issued (moment + 1) := by
  rcases beginsAt_iff.mp begins with ⟨idle, rebuild, running⟩
  rcases start.step_after moves moment with ⟨move, step, _⟩
  rcases step.begins idle running with ⟨line, first, same, _, _, reads⟩
  refine ⟨rebuild.demand, idle, by rw [first]; rfl, rfl, reads, Nat.lt_succ_self _, ?_⟩
  intro between began ended
  rw [Nat.le_antisymm ended began, running, same]
  exact ⟨_, rfl⟩

theorem IsUnderWay.succ (underWay : start.IsUnderWay moves began demand covers moment)
    {progress : Progress}
    (running : (start.after moves (moment + 1)).running = some ⟨demand, covers, progress⟩) :
    start.IsUnderWay moves began demand covers (moment + 1) := by
  refine { underWay with began_lt := Nat.lt_succ_of_lt underWay.began_lt, inProgress := ?_ }
  intro between later within
  rcases Nat.lt_or_eq_of_le within with before | rfl
  · exact underWay.inProgress between later (Nat.le_of_lt_succ before)
  · exact ⟨progress, running⟩

theorem exists_isUnderWay (fresh : start.running = none) {rebuild : Running}
    (running : (start.after moves moment).running = some rebuild) :
    ∃ began, start.IsUnderWay moves began rebuild.demand rebuild.covers moment := by
  induction moment generalizing rebuild with
  | zero =>
    change start.running = _ at running
    rw [fresh] at running
    cases running
  | succ moment inductionHypothesis =>
    cases before : (start.after moves moment).running with
    | none =>
      rcases IsUnderWay.of_beginsAt (beginsAt_iff.mpr ⟨before, rebuild, running⟩) with
        ⟨demand, underWay⟩
      rcases underWay.inProgress _ (Nat.lt_succ_self _) (Nat.le_refl _) with ⟨_, same⟩
      rw [running] at same
      cases same
      exact ⟨moment, underWay⟩
    | some earlier =>
      rcases start.step_after moves moment with ⟨move, step, _⟩
      rcases (step.goesOn before (by rw [running]; nofun)).1 with ⟨progress, same⟩
      rcases inductionHypothesis before with ⟨began, underWay⟩
      rw [running] at same
      cases same
      exact ⟨began, underWay.succ running⟩

/-- When a rebuild that was under way has ended, it has been an episode. -/
theorem IsUnderWay.ran (underWay : start.IsUnderWay moves began demand covers moment)
    (gone : (start.after moves (moment + 1)).running = none) :
    ∃ outcome, start.Ran moves ⟨began, moment, demand, covers, outcome⟩ := by
  rcases underWay.inProgress moment underWay.began_lt (Nat.le_refl _) with ⟨progress, running⟩
  rcases start.step_after moves moment with ⟨move, step, _⟩
  rcases step.ends running gone with ⟨outcome, rfl, _⟩
  exact ⟨outcome, underWay, running, gone⟩

/-- A rebuild that is decided and then no longer in progress has been an episode. -/
theorem exists_ran_of_decided (fresh : start.running = none)
    {outcome : Except Fault (Snapshot × Nat)}
    (decided : (start.after moves moment).running = some ⟨demand, covers, .decided outcome⟩)
    (gone : (start.after moves (moment + 1)).running = none) :
    ∃ began, start.Ran moves ⟨began, moment, demand, covers, outcome⟩ := by
  rcases exists_isUnderWay fresh decided with ⟨began, underWay⟩
  exact ⟨began, underWay, decided, gone⟩

/-- Later on a rebuild is still under way or has been an episode. -/
theorem IsUnderWay.later (underWay : start.IsUnderWay moves began demand covers moment)
    {later : Nat} (ordered : moment ≤ later) :
    start.IsUnderWay moves began demand covers later ∨
      ∃ ended outcome, moment ≤ ended ∧ ended < later ∧
        start.Ran moves ⟨began, ended, demand, covers, outcome⟩ := by
  induction ordered with
  | refl => exact Or.inl underWay
  | @step later ordered inductionHypothesis =>
    rcases inductionHypothesis with still | ⟨ended, outcome, after, before, ran⟩
    · cases running : (start.after moves (later + 1)).running with
      | none =>
        rcases still.ran running with ⟨outcome, ran⟩
        exact Or.inr ⟨later, outcome, ordered, Nat.lt_succ_self _, ran⟩
      | some rebuild =>
        rcases still.inProgress later still.began_lt (Nat.le_refl _) with ⟨progress, before⟩
        rcases start.step_after moves later with ⟨move, step, _⟩
        rcases (step.goesOn before (by rw [running]; nofun)).1 with ⟨_, same⟩
        exact Or.inl (still.succ same)
    · exact Or.inr ⟨ended, outcome, after, Nat.lt_succ_of_lt before, ran⟩

theorem Ran.finish {episode : Episode} (ran : start.Ran moves episode) :
    start.after moves (episode.ended + 1) = (start.after moves episode.ended).finish := by
  rcases start.step_after moves episode.ended with ⟨move, step, _⟩
  rcases step.ends ran.decided ran.gone with ⟨_, _, ended⟩
  exact ended

/-- The result that the last rebuild has left is that of an episode. -/
theorem exists_ran_of_finished (unrun : start.running = none) (unfinished : start.finished = none)
    {finished : Finished} (left : (start.after moves moment).finished = some finished) :
    ∃ episode, start.Ran moves episode ∧ episode.ended < moment ∧
      finished = ⟨episode.covers, episode.result⟩ := by
  induction moment with
  | zero =>
    change start.finished = _ at left
    rw [unfinished] at left
    cases left
  | succ moment inductionHypothesis =>
    have earlier : (start.after moves moment).finished = some finished →
        ∃ episode, start.Ran moves episode ∧ episode.ended < moment + 1 ∧
          finished = ⟨episode.covers, episode.result⟩ := by
      intro same
      rcases inductionHypothesis same with ⟨episode, ran, before, told⟩
      exact ⟨episode, ran, Nat.lt_succ_of_lt before, told⟩
    rcases start.step_after moves moment with ⟨move, step, _⟩
    rcases step.rebuild_cases with ⟨_, kept⟩ | ⟨_, _, _, _, _, same⟩ | ⟨_, _, _, _, same⟩ |
      ⟨demand, covers, outcome, decided, ended⟩
    · exact earlier (kept.finished.symm.trans left)
    · rw [same] at left
      exact earlier left
    · rw [same] at left
      exact earlier left
    · have gone : (start.after moves (moment + 1)).running = none := by
        rw [ended, finish_of_decided decided]
      rcases exists_ran_of_decided unrun decided gone with ⟨began, ran⟩
      refine ⟨_, ran, Nat.lt_succ_self _, ?_⟩
      rw [ended, finish_of_decided decided] at left
      exact (Option.some.inj left).symm

theorem Ran.eq_of_began_eq {first second : Episode} (ran : start.Ran moves first)
    (other : start.Ran moves second) (same : first.began = second.began) : first = second := by
  rcases first with ⟨began, ended, demand, covers, outcome⟩
  rcases second with ⟨_, otherEnded, otherDemand, otherCovers, otherOutcome⟩
  cases same
  have together : ended = otherEnded := by
    refine eq_of_never_before (motive := fun moment => ∃ demand covers outcome,
      start.Ran moves ⟨began, moment, demand, covers, outcome⟩) ?_ ⟨_, _, _, ran⟩ ⟨_, _, _, other⟩
    rintro one another ⟨_, _, _, ranOne⟩ ⟨_, _, _, ranAnother⟩ earlier
    rcases ranAnother.inProgress (one + 1) (Nat.lt_succ_of_lt ranOne.began_lt) earlier with
      ⟨_, running⟩
    rw [ranOne.gone] at running
    cases running
  cases together
  have decided := ran.decided
  rw [other.decided] at decided
  cases decided
  rfl

end

end Coordinator
end Rebuild
end Itineraries
