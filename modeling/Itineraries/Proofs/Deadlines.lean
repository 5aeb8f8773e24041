import Itineraries.Proofs.Wakefulness

namespace Itineraries
namespace Rebuild

/-!
# A stuck inventory

A read may take as long as it likes, and it may never return.  Whoever runs a rebuild
does not wait for that.  When the time that is set for the read has gone by, the rebuild
fails, and the line moves up.  So however long the line is, no rebuild is in progress for
longer than that time, and the time that one of them has used up is not taken from the
others.
-/

namespace Simulation

/-- A read has not come to its end.  Even one that has nothing more to wait for has not if
it is a file that is read. -/
def IsUnfinished (simulation : Simulation) (reading : Reading) : Prop :=
  match reading.stage with
  | .atGate _ => simulation.conditions.permits = 0
  | .asleep wakes => simulation.clock < wakes
  | .ready => simulation.readsFile = true ∧ simulation.conditions.failure = none
  | .fetching => True
  | .warming => False

/-- The time for the read of a rebuild has gone by, and it has not come to its end. -/
structure IsOverdue (simulation : Simulation) (demand : Demand) (covers : Nat) : Prop where
  busy : simulation.rebuild? = some (demand, covers)
  late : ∃ reading, simulation.reading = some reading ∧ reading.deadline ≤ simulation.clock ∧
    simulation.IsUnfinished reading

/-- A rebuild fails because the time for its read has gone by.  Nothing is published, and
nobody runs a rebuild any more. -/
structure GivesUp (timeout : Nat) (simulation next : Simulation) (demand : Demand)
    (covers : Nat) : Prop where
  busy : simulation.rebuild? = some (demand, covers)
  clock : next.clock = simulation.clock
  free : next.coordinator.running = none
  unread : next.reading = none
  finished : next.coordinator.finished = some ⟨covers, .error (.timedOut timeout)⟩
  failed : next.coordinator.failed = simulation.coordinator.failed + 1
  told : next.coordinator.answers =
    simulation.coordinator.answersAfter demand.holder (.error (.timedOut timeout))
  announced : next.coordinator.events = simulation.coordinator.events ++
    [.failed demand.reason (Fault.timedOut timeout).message]
  line : next.coordinator.line = simulation.coordinator.line
  engine : next.coordinator.engine = simulation.coordinator.engine

/-- A rebuild has begun for the first in the line and has been in progress ever since. -/
structure IsUnderWay (start : Simulation) (happenings : List Happening) (began : Nat)
    (demand : Demand) (covers moment : Nat) : Prop where
  idle : (start.after happenings began).coordinator.running = none
  first : (start.after happenings began).coordinator.line.head? = some demand
  began_lt : began < moment
  inProgress : ∀ between, began < between → between ≤ moment →
    (start.after happenings between).rebuild? = some (demand, covers)

/-- A rebuild begins for the first in the line, with a read of its own. -/
structure BeginsInto (simulation next : Simulation) (demand : Demand) : Prop where
  idle : simulation.coordinator.running = none
  first : simulation.coordinator.line.head? = some demand
  busy : next.rebuild? = some (demand, simulation.coordinator.requests.issued)
  reads : next.coordinator.reads = simulation.coordinator.reads + 1
  deadline : next.deadline? =
    some (simulation.clock + next.coordinator.engine.config.inventoryTimeoutMillis)

/-! ## Giving up -/

section

variable {simulation next : Simulation} {demand : Demand} {covers : Nat} {reading : Reading}

theorem rebuild?_eq_some (busy : simulation.rebuild? = some (demand, covers)) :
    ∃ progress, simulation.coordinator.running = some ⟨demand, covers, progress⟩ := by
  rcases Option.map_eq_some_iff.mp busy with ⟨⟨_, _, progress⟩, running, same⟩
  cases same
  exact ⟨progress, running⟩

theorem rebuild?_eq_none_iff :
    simulation.rebuild? = none ↔ simulation.coordinator.running = none :=
  Option.map_eq_none_iff

structure KeepsRead (simulation next : Simulation) : Prop where
  running : next.coordinator.running = simulation.coordinator.running
  inventory : next.coordinator.inventory = simulation.coordinator.inventory
  reading : next.reading = simulation.reading
  clock : next.clock = simulation.clock
  conditions : next.conditions = simulation.conditions

theorem IsOverdue.of_keepsRead (overdue : simulation.IsOverdue demand covers)
    (kept : KeepsRead simulation next) : next.IsOverdue demand covers := by
  rcases overdue with ⟨busy, read, found, late, unfinished⟩
  refine ⟨?_, read, kept.reading.trans found, kept.clock ▸ late, ?_⟩
  · rw [rebuild?, kept.running]
    exact busy
  · unfold IsUnfinished readsFile at unfinished ⊢
    rw [kept.clock, kept.conditions, kept.inventory]
    exact unfinished

theorem keepsRead_actAtQueue (simulation : Simulation) :
    KeepsRead simulation simulation.actAtQueue.outcome := by
  unfold actAtQueue Coordinator.leave Coordinator.take
  repeat' split
  all_goals exact ⟨rfl, rfl, rfl, rfl, rfl⟩

theorem keepsRead_actTicker (simulation : Simulation) :
    KeepsRead simulation simulation.actTicker.outcome := by
  unfold actTicker
  split
  · split
    · exact ⟨rfl, rfl, rfl, rfl, rfl⟩
    · split
      · dsimp only [Act.outcome]
        rw [wakeLoop_eq]
        refine ⟨running_tick _, ?_, rfl, rfl, rfl⟩
        change simulation.coordinator.tick.inventory = _
        unfold Coordinator.tick
        split <;> rfl
      · exact ⟨rfl, rfl, rfl, rfl, rfl⟩
  · exact ⟨rfl, rfl, rfl, rfl, rfl⟩

/-- Nobody but the one who runs a rebuild has to do with its read. -/
theorem keepsRead_act {progress : Progress}
    (busy : simulation.coordinator.running = some ⟨demand, covers, progress⟩) {agent : Agent}
    (foreign : agent ≠ .holder demand.holder) :
    KeepsRead simulation (simulation.act agent).outcome := by
  cases agent with
  | ticker => exact keepsRead_actTicker simulation
  | holder holder =>
    have otherwise : KeepsRead simulation
        (if holder = .loop then simulation.actAtQueue else .rest simulation).outcome := by
      split
      · exact keepsRead_actAtQueue simulation
      · exact ⟨rfl, rfl, rfl, rfl, rfl⟩
    change KeepsRead simulation (simulation.actHolder holder).outcome
    unfold actHolder
    dsimp only
    rw [busy]
    cases simulation.reading with
    | none => exact otherwise
    | some reading =>
      dsimp only
      rw [if_neg fun same => foreign (congrArg Agent.holder same.symm)]
      exact otherwise

theorem givesUp_giveUp
    (busy : simulation.coordinator.running = some ⟨demand, covers, .reading⟩) (agent : Agent)
    (before ready : List Agent) :
    GivesUp simulation.coordinator.engine.config.inventoryTimeoutMillis simulation
      { ({ simulation with ready := before } : Simulation).giveUp agent .timedOut with
        ready := ready } demand covers := by
  unfold giveUp
  rw [endRebuild_eq]
  dsimp only
  rw [Coordinator.finish_of_decided (running_endRead busy .timedOut), Coordinator.endRead, busy]
  refine ⟨by rw [rebuild?, busy]; rfl, rfl, rfl, rfl, rfl, rfl, ?_, rfl, rfl, rfl⟩
  cases demand.holder <;> rfl

/-- Whoever runs a rebuild whose read is overdue gives it up. -/
theorem act_eq_giveUp
    (busy : simulation.coordinator.running = some ⟨demand, covers, .reading⟩)
    (read : simulation.reading = some reading) (late : reading.deadline ≤ simulation.clock)
    (unfinished : simulation.IsUnfinished reading) (begun : reading.stage ≠ .fetching) :
    simulation.act (.holder demand.holder) =
      .goOn (simulation.giveUp (.holder demand.holder) .timedOut) := by
  have waiting : simulation.actWaiting reading (.holder demand.holder) =
      .goOn (simulation.giveUp (.holder demand.holder) .timedOut) := if_pos late
  change simulation.actHolder demand.holder = _
  unfold actHolder
  dsimp only
  rw [busy, read]
  dsimp only
  rw [if_pos rfl]
  unfold actReading
  unfold IsUnfinished at unfinished
  cases stage : reading.stage with
  | atGate delay =>
    rw [stage] at unfinished
    dsimp only at unfinished ⊢
    rw [unfinished]
    exact waiting
  | asleep wakes =>
    rw [stage] at unfinished
    dsimp only at unfinished ⊢
    rw [if_neg (Nat.not_le_of_lt unfinished)]
    exact waiting
  | ready =>
    rw [stage] at unfinished
    dsimp only at unfinished ⊢
    rw [actReady, unfinished.2]
    dsimp only
    rw [if_pos unfinished.1, if_pos late]
  | fetching => exact absurd stage begun
  | warming =>
    rw [stage] at unfinished
    exact unfinished.elim

/-- As long as a read is overdue, somebody can act.  In each turn the read is given up, or
nothing is done about it. -/
theorem IsOverdue.turn (alert : simulation.IsAlert simulation.ready)
    (overdue : simulation.IsOverdue demand covers) :
    simulation.ready ≠ [] ∧
      (GivesUp simulation.coordinator.engine.config.inventoryTimeoutMillis simulation
          simulation.turn demand covers ∨
        simulation.turn.IsOverdue demand covers) := by
  rcases overdue.late with ⟨reading, read, late, unfinished⟩
  rcases rebuild?_eq_some overdue.busy with ⟨progress, busy⟩
  rcases alert.watched _ busy with ⟨other, found, watched⟩
  cases read.symm.trans found
  have begun : reading.stage ≠ .fetching := fun fetching =>
    absurd (watched.fetches fetching) (Nat.not_lt_of_le late)
  have unwarmed : reading.stage ≠ .warming := by
    intro warming
    rw [IsUnfinished, warming] at unfinished
    exact unfinished
  have reads : progress = .reading := watched.reads unwarmed
  subst reads
  refine ⟨fun still => ?_, ?_⟩
  · rw [still] at watched
    exact absurd (watched.awake.resolve_left List.not_mem_nil).inTime (Nat.not_lt_of_le late)
  · unfold Simulation.turn
    split
    · rename_i still
      rw [still] at watched
      exact absurd (watched.awake.resolve_left List.not_mem_nil).inTime (Nat.not_lt_of_le late)
    · rename_i agent others someone
      let rested : Simulation := { simulation with ready := others }
      have restedBusy : rested.coordinator.running = some ⟨demand, covers, .reading⟩ := busy
      by_cases mine : agent = .holder demand.holder
      · subst mine
        have acts : rested.act (.holder demand.holder) =
            .goOn (rested.giveUp (.holder demand.holder) .timedOut) :=
          act_eq_giveUp restedBusy read late unfinished begun
        rw [acts]
        exact Or.inl (givesUp_giveUp busy _ others _)
      · have kept : KeepsRead rested (rested.act agent).outcome :=
          keepsRead_act restedBusy mine
        right
        have same : ∀ ready, KeepsRead simulation
            { (rested.act agent).outcome with ready := ready } := fun _ =>
          ⟨kept.running, kept.inventory, kept.reading, kept.clock, kept.conditions⟩
        split <;> rename_i next acts
        · rw [acts] at same
          exact overdue.of_keepsRead (same _)
        · rw [acts] at same
          exact overdue.of_keepsRead (same _)
        · rw [acts] at same
          exact overdue.of_keepsRead (same next.ready)

end

/-! ## From one moment to the next -/

section

variable {simulation : Simulation}

theorem exists_moves_happen (simulation : Simulation) (happening : Happening) :
    ∃ moves, (simulation.happen happening).coordinator = simulation.coordinator.run moves := by
  cases happening with
  | turn => exact (passage_turn simulation).moves
  | intervention intervention =>
    unfold happen
    dsimp only
    split
    · exact (intervened_intervene simulation intervention).moves
    · exact ⟨[], rfl⟩
  | clock upTo =>
    unfold happen tickUpTo
    dsimp only
    split
    · split
      · rename_i due _
        rcases ring_eq { simulation with clock := due } with ⟨_, same, _⟩
        rw [same]
        exact ⟨[], rfl⟩
      · exact ⟨[], rfl⟩
    · exact ⟨[], rfl⟩

theorem rebuild?_happen_of_not_turn {happening : Happening} (other : happening ≠ .turn) :
    (simulation.happen happening).rebuild? = simulation.rebuild? ∧
      (simulation.happen happening).deadline? = simulation.deadline? := by
  cases happening with
  | turn => exact absurd rfl other
  | intervention intervention =>
    have intervened := intervened_intervene simulation intervention
    unfold happen
    dsimp only
    split
    · exact ⟨congrArg (Option.map _) intervened.running,
        congrArg (Option.map _) intervened.reading⟩
    · exact ⟨rfl, rfl⟩
  | clock upTo =>
    unfold happen tickUpTo
    dsimp only
    split
    · split
      · rename_i due _
        rcases ring_eq { simulation with clock := due } with ⟨_, same, _⟩
        rw [same]
        exact ⟨rfl, rfl⟩
      · exact ⟨rfl, rfl⟩
    · exact ⟨rfl, rfl⟩

theorem rebuild?_happen (alert : simulation.IsAlert simulation.ready) (happening : Happening) :
    ((simulation.happen happening).rebuild? = simulation.rebuild? ∧
        (simulation.happen happening).deadline? = simulation.deadline?) ∨
      (∃ demand, BeginsInto simulation (simulation.happen happening) demand) ∨
      (simulation.happen happening).rebuild? = none := by
  by_cases other : happening ≠ .turn
  · exact Or.inl (rebuild?_happen_of_not_turn other)
  · have isTurn := not_not.mp other
    subst isTurn
    change (simulation.turn.rebuild? = _ ∧ _) ∨ (∃ demand, BeginsInto simulation simulation.turn
      demand) ∨ simulation.turn.rebuild? = none
    cases (passage_turn simulation).rebuild with
    | goesOn _ _ _ same deadline => exact Or.inl ⟨same, deadline⟩
    | begins idle step busy deadline =>
      rcases Option.isSome_iff_exists.mp busy with ⟨rebuild, running⟩
      rcases step.begins idle running with ⟨line, first, same, _, _, reads⟩
      refine Or.inr (Or.inl ⟨rebuild.demand, idle, by rw [first]; rfl, ?_, reads, deadline⟩)
      rw [rebuild?, running, same]
      rfl
    | ends _ free =>
      right
      right
      rw [rebuild?_eq_none_iff]
      cases running : simulation.turn.coordinator.running with
      | none => rfl
      | some rebuild =>
        rcases alert.turn.watched rebuild running with ⟨reading, read, _⟩
        cases free.symm.trans read

end

/-! ## Moments of a run -/

section

variable (start : Simulation) (happenings : List Happening)

/-- From one moment to the next something happens, until all has happened. -/
theorem after_succ (moment : Nat) :
    (∃ happening, start.after happenings (moment + 1) =
      (start.after happenings moment).happen happening) ∨
    start.after happenings (moment + 1) = start.after happenings moment := by
  cases made : happenings[moment]? with
  | none =>
    right
    simp only [after, List.take_add_one, made, Option.toList_none, List.append_nil]
  | some happening =>
    left
    refine ⟨happening, ?_⟩
    simp only [after, List.take_add_one, made, Option.toList_some, run_append]
    rfl

end

section

variable {engine : Engine} {inventory : Inventory} {happenings : List Happening}
  {moment covers : Nat} {demand : Demand}

theorem isAlert_after (engine : Engine) (inventory : Inventory) (happenings : List Happening)
    (moment : Nat) :
    ((ofEngine engine inventory).after happenings moment).IsAlert
      ((ofEngine engine inventory).after happenings moment).ready :=
  isAlert_run engine inventory _

theorem config_after (engine : Engine) (inventory : Inventory) (happenings : List Happening)
    (moment : Nat) :
    ((ofEngine engine inventory).after happenings moment).coordinator.engine.config =
      engine.config := by
  induction moment with
  | zero => rfl
  | succ moment inductionHypothesis =>
    rcases after_succ (ofEngine engine inventory) happenings moment with ⟨happening, same⟩ | same
    · rcases exists_moves_happen ((ofEngine engine inventory).after happenings moment) happening
        with ⟨moves, made⟩
      rw [same, made]
      exact Coordinator.run_induction inductionHypothesis
        fun _ _ _ _ before step => step.config_eq.trans before
    · rw [same]
      exact inductionHypothesis

/-- A rebuild in progress has begun at some moment, and its read is given up when the time
set for it has gone by since then. -/
theorem exists_isUnderWay
    (busy : ((ofEngine engine inventory).after happenings moment).rebuild? =
      some (demand, covers)) :
    ∃ began, IsUnderWay (ofEngine engine inventory) happenings began demand covers moment ∧
      ((ofEngine engine inventory).after happenings moment).deadline? =
        some (((ofEngine engine inventory).after happenings began).clock +
          engine.config.inventoryTimeoutMillis) := by
  induction moment generalizing demand covers with
  | zero => cases busy
  | succ moment inductionHypothesis =>
    have config := config_after engine inventory happenings (moment + 1)
    have goesOn (same : ((ofEngine engine inventory).after happenings (moment + 1)).rebuild? =
          ((ofEngine engine inventory).after happenings moment).rebuild?)
        (deadline : ((ofEngine engine inventory).after happenings (moment + 1)).deadline? =
          ((ofEngine engine inventory).after happenings moment).deadline?) :
        ∃ began, IsUnderWay (ofEngine engine inventory) happenings began demand covers
            (moment + 1) ∧
          ((ofEngine engine inventory).after happenings (moment + 1)).deadline? =
            some (((ofEngine engine inventory).after happenings began).clock +
              engine.config.inventoryTimeoutMillis) := by
      rcases inductionHypothesis (same.symm.trans busy) with ⟨began, underWay, set⟩
      refine ⟨began, ⟨underWay.idle, underWay.first, Nat.lt_succ_of_lt underWay.began_lt, ?_⟩,
        deadline.trans set⟩
      intro between later within
      rcases Nat.lt_or_eq_of_le within with before | now
      · exact underWay.inProgress between later (Nat.le_of_lt_succ before)
      · rw [now]
        exact busy
    rcases after_succ (ofEngine engine inventory) happenings moment with ⟨happening, made⟩ | same
    · have cases := rebuild?_happen (isAlert_after engine inventory happenings moment) happening
      rw [← made] at cases
      rcases cases with ⟨same, deadline⟩ | ⟨first, begins⟩ | free
      · exact goesOn same deadline
      · cases busy.symm.trans begins.busy
        refine ⟨moment, ⟨begins.idle, begins.first, Nat.lt_succ_self _, ?_⟩, ?_⟩
        · intro between later within
          rw [Nat.le_antisymm within later]
          exact busy
        · rw [begins.deadline, config]
      · cases busy.symm.trans free
    · exact goesOn (by rw [same]) (by rw [same])

end

end Simulation

namespace Coordinator

/-! ## Who comes next -/

/-- When no rebuild is in progress, the next one will be for somebody in the line: those
ahead of them get the outcome of the last one. -/
structure IsNext (coordinator : Coordinator) (covers : Nat) (demand : Demand) : Prop where
  idle : coordinator.running = none
  finished : ∃ result, coordinator.finished = some ⟨covers, result⟩
  waits : ∃ ahead behind, coordinator.line = ahead ++ demand :: behind ∧
    ∀ covered ∈ ahead, covered.ticket ≤ covers
  uncovered : covers < demand.ticket

/-- When no rebuild is in progress, the next one will be for a signal in the queue:
everybody in the line gets the outcome of the last one. -/
structure IsSignalled (coordinator : Coordinator) (covers : Nat) : Prop where
  idle : coordinator.running = none
  finished : ∃ result, coordinator.finished = some ⟨covers, result⟩
  covered : ∀ demand ∈ coordinator.line, demand.ticket ≤ covers
  listening : coordinator.isListening = true
  isOpen : coordinator.requests.isOpen = true
  queued : coordinator.requests.signal.isSome = true
  uncovered : covers < coordinator.requests.issued

section

variable {coordinator next : Coordinator} {move : Move} {covers : Nat} {demand : Demand}

/-- Nobody who comes later is served before the next in the line. -/
theorem IsNext.step (isNext : coordinator.IsNext covers demand)
    (step : Step coordinator move next) :
    next.IsNext covers demand ∨ coordinator.line.head? = some demand ∧ next.running ≠ none := by
  rcases isNext with ⟨idle, ⟨result, finished⟩, ⟨ahead, behind, line, covered⟩, uncovered⟩
  have grows : ∀ last, coordinator.line ++ [last] = ahead ++ demand :: (behind ++ [last]) := by
    intro last
    rw [line, List.append_assoc, List.cons_append]
  cases step with
  | call | take =>
    exact Or.inl ⟨idle, ⟨result, finished⟩, ⟨ahead, _, grows _, covered⟩, uncovered⟩
  | satisfy _ first ended enough =>
    cases finished.symm.trans ended
    rcases ahead with _ | ⟨earlier, ahead⟩
    · cases line.symm.trans first
      exact absurd enough (Nat.not_le_of_lt uncovered)
    · cases line.symm.trans first
      exact Or.inl ⟨idle, ⟨result, finished⟩, ⟨ahead, behind, rfl,
        fun _ member => covered _ (List.mem_cons_of_mem _ member)⟩, uncovered⟩
  | begin _ first later =>
    rcases ahead with _ | ⟨earlier, ahead⟩
    · exact Or.inr ⟨by rw [line]; rfl, nofun⟩
    · cases line.symm.trans first
      exact absurd (later _ finished) (Nat.not_lt_of_le (covered _ List.mem_cons_self))
  | endRead _ reading => exact nomatch idle.symm.trans reading
  | finish decided => exact nomatch idle.symm.trans decided
  | _ =>
    exact Or.inl ⟨idle, ⟨result, finished⟩, ⟨ahead, behind, line, covered⟩, uncovered⟩

/-- The loop takes the signal and stands in the line for it behind everybody else. -/
theorem IsSignalled.step (signalled : coordinator.IsSignalled covers)
    (own : Simulation.IsOwnMove move) (step : Step coordinator move next) :
    next.IsSignalled covers ∨ ∃ demand, demand.holder = .loop ∧ next.IsNext covers demand := by
  rcases signalled with
    ⟨idle, ⟨result, finished⟩, covered, listening, isOpen, queued, uncovered⟩
  cases step with
  | start | call | stop => exact own.elim
  | @ask _ reason _ asks =>
    rcases Requests.request_of_isOpen isOpen coordinator.state reason with
      ⟨_, _, _, _, same⟩
    rw [same]
    exact Or.inl ⟨idle, ⟨result, finished⟩, covered, listening, isOpen, rfl,
      Nat.lt_succ_of_lt uncovered⟩
  | take =>
    exact Or.inr ⟨_, rfl, idle, ⟨result, finished⟩, ⟨_, [], rfl, covered⟩, uncovered⟩
  | leave _ told =>
    rw [isListening, told] at listening
    exact absurd listening (by simp)
  | @satisfy demand line _ _ first =>
    refine Or.inl ⟨idle, ⟨result, finished⟩, ?_, ?_, isOpen, queued, uncovered⟩
    · intro other member
      exact covered other (first ▸ List.mem_cons_of_mem _ member)
    · unfold isListening at listening ⊢
      cases holder : demand.holder with
      | loop => simp_all [phaseAfter]
      | caller number => exact listening
  | begin _ first later =>
    exact absurd (later _ finished)
      (Nat.not_lt_of_le (covered _ (first ▸ List.mem_cons_self)))
  | endRead _ reading => cases idle.symm.trans reading
  | finish decided => cases idle.symm.trans decided
  | _ => exact Or.inl ⟨idle, ⟨result, finished⟩, covered, listening, isOpen, queued, uncovered⟩

end

end Coordinator

namespace Simulation

/-- At all moments from one up to another somebody can act. -/
def IsBusyUntil (start : Simulation) (happenings : List Happening) (moment later : Nat) : Prop :=
  ∀ between, moment ≤ between → between < later → (start.after happenings between).ready ≠ []

/-- A rebuild begins for somebody at one of the moments from one up to another, and no time
goes by until then. -/
def BeginsBetween (start : Simulation) (happenings : List Happening) (moment later : Nat)
    (demand : Demand) : Prop :=
  ∃ began, moment ≤ began ∧ began < later ∧
    (start.after happenings began).clock = (start.after happenings moment).clock ∧
    BeginsInto (start.after happenings began) (start.after happenings (began + 1)) demand

section

variable {simulation : Simulation} {covers : Nat} {demand : Demand}

/-- In a turn the next in the line stays the next, or a rebuild begins for them. -/
theorem turn_of_isNext (isNext : simulation.coordinator.IsNext covers demand) :
    simulation.turn.coordinator.IsNext covers demand ∨
      BeginsInto simulation simulation.turn demand := by
  cases (passage_turn simulation).rebuild with
  | goesOn _ _ step same _ =>
    rcases isNext.step step with still | ⟨_, busy⟩
    · exact Or.inl still
    · rw [rebuild?_eq_none_iff.mpr isNext.idle] at same
      exact absurd (rebuild?_eq_none_iff.mp same) busy
  | begins idle step busy deadline =>
    rcases Option.isSome_iff_exists.mp busy with ⟨rebuild, running⟩
    rcases isNext.step step with still | ⟨first, _⟩
    · exact nomatch still.idle.symm.trans running
    · rcases step.begins idle running with ⟨line, waiting, same, _, _, reads⟩
      rw [waiting] at first
      cases first
      refine Or.inr ⟨idle, by rw [waiting]; rfl, ?_, reads, deadline⟩
      rw [rebuild?, running, same]
      rfl
  | ends busy _ =>
    rw [isNext.idle] at busy
    cases busy

/-- In a turn the signal stays in the queue, or the loop stands in the line for it. -/
theorem turn_of_isSignalled (signalled : simulation.coordinator.IsSignalled covers) :
    simulation.turn.coordinator.IsSignalled covers ∨
      ∃ demand, demand.holder = .loop ∧ simulation.turn.coordinator.IsNext covers demand := by
  cases (passage_turn simulation).rebuild with
  | goesOn _ own step _ _ => exact signalled.step own step
  | begins _ step _ _ =>
    have own : IsOwnMove .serveFirst := trivial
    exact signalled.step own step
  | ends busy _ =>
    rw [signalled.idle] at busy
    cases busy

theorem IsAlert.not_isNext (alert : simulation.IsAlert []) :
    ¬simulation.coordinator.IsNext covers demand := by
  intro isNext
  rcases isNext.waits with ⟨ahead, behind, line, _⟩
  rw [alert.atStandstill.line_eq_nil isNext.idle] at line
  exact List.append_ne_nil_of_right_ne_nil ahead (List.cons_ne_nil demand behind) line.symm

/-- At a standstill no signal is left for a loop that could take it. -/
theorem IsAlert.not_isSignalled (alert : simulation.IsAlert []) :
    ¬simulation.coordinator.IsSignalled covers := by
  intro signalled
  have still := alert.atStandstill
  have nobody : simulation.coordinator.demands = [] := by
    rw [Coordinator.demands_of_idle signalled.idle, still.line_eq_nil signalled.idle]
  have waiting := alert.accounted.loop_eq_atQueue signalled.listening nobody
  refine List.not_mem_nil (alert.heeds ((Coordinator.isCalled_iff _).mpr ⟨waiting, Or.inr ?_⟩))
  exact ⟨signalled.isOpen, signalled.queued⟩

end

section

variable {engine : Engine} {inventory : Inventory} {happenings : List Happening}
  {moment later covers : Nat} {demand : Demand}

theorem after_succ_of_busy (start : Simulation)
    (busy : (start.after happenings moment).ready ≠ []) :
    start.after happenings (moment + 1) = (start.after happenings moment).turn ∨
      start.after happenings (moment + 1) = start.after happenings moment := by
  rcases after_succ start happenings moment with ⟨happening, same⟩ | same
  · cases happening with
    | turn => exact Or.inl same
    | intervention | clock =>
      rw [happen, if_neg busy] at same
      exact Or.inr same
  · exact Or.inr same

theorem BeginsBetween.earlier {start : Simulation}
    (begins : start.BeginsBetween happenings (moment + 1) later demand)
    (clock : (start.after happenings (moment + 1)).clock = (start.after happenings moment).clock) :
    start.BeginsBetween happenings moment later demand := by
  rcases begins with ⟨began, since, until', time, begins⟩
  exact ⟨began, Nat.le_of_succ_le since, until', time.trans clock, begins⟩

theorem IsBusyUntil.next {start : Simulation}
    (busy : start.IsBusyUntil happenings moment later) :
    start.IsBusyUntil happenings (moment + 1) later :=
  fun between since => busy between (Nat.le_of_succ_le since)

/-- Before all is done, a rebuild begins for the next in the line. -/
theorem beginsBetween_of_isNext (ordered : moment ≤ later)
    (still : ((ofEngine engine inventory).after happenings later).ready = [])
    (busy : (ofEngine engine inventory).IsBusyUntil happenings moment later)
    (isNext : ((ofEngine engine inventory).after happenings moment).coordinator.IsNext covers
      demand) : (ofEngine engine inventory).BeginsBetween happenings moment later demand := by
  induction left : later - moment generalizing moment with
  | zero =>
    have now : moment = later := Nat.le_antisymm ordered (Nat.le_of_sub_eq_zero left)
    have alert := isAlert_after engine inventory happenings later
    rw [still] at alert
    rw [now] at isNext
    exact absurd isNext alert.not_isNext
  | succ rest inductionHypothesis =>
    have before : moment < later := by omega
    have fewer : later - (moment + 1) = rest := by omega
    rcases after_succ_of_busy (ofEngine engine inventory)
      (busy moment (Nat.le_refl _) before) with same | same
    · have clock := (passage_turn ((ofEngine engine inventory).after happenings moment)).clock
      rcases turn_of_isNext isNext with stays | begins
      · rw [← same] at stays clock
        exact (inductionHypothesis before busy.next stays fewer).earlier clock
      · rw [← same] at begins
        exact ⟨moment, Nat.le_refl _, before, rfl, begins⟩
    · rw [← same] at isNext
      exact (inductionHypothesis before busy.next isNext fewer).earlier (by rw [same])

/-- A signal that nobody in the line stands for is taken and leads to a rebuild before all
is done. -/
theorem beginsBetween_of_isSignalled (ordered : moment ≤ later)
    (still : ((ofEngine engine inventory).after happenings later).ready = [])
    (busy : (ofEngine engine inventory).IsBusyUntil happenings moment later)
    (signalled : ((ofEngine engine inventory).after happenings
      moment).coordinator.IsSignalled covers) :
    ∃ demand, demand.holder = .loop ∧
      (ofEngine engine inventory).BeginsBetween happenings moment later demand := by
  induction left : later - moment generalizing moment with
  | zero =>
    have now : moment = later := Nat.le_antisymm ordered (Nat.le_of_sub_eq_zero left)
    have alert := isAlert_after engine inventory happenings later
    rw [still] at alert
    rw [now] at signalled
    exact absurd signalled alert.not_isSignalled
  | succ rest inductionHypothesis =>
    have before : moment < later := by omega
    have fewer : later - (moment + 1) = rest := by omega
    rcases after_succ_of_busy (ofEngine engine inventory)
      (busy moment (Nat.le_refl _) before) with same | same
    · have clock := (passage_turn ((ofEngine engine inventory).after happenings moment)).clock
      rcases turn_of_isSignalled signalled with stays | ⟨demand, isLoop, isNext⟩
      · rw [← same] at stays clock
        rcases inductionHypothesis before busy.next stays fewer with ⟨demand, isLoop, begins⟩
        exact ⟨demand, isLoop, begins.earlier clock⟩
      · rw [← same] at isNext clock
        exact ⟨demand, isLoop,
          (beginsBetween_of_isNext before still busy.next isNext).earlier clock⟩
    · rw [← same] at signalled
      rcases inductionHypothesis before busy.next signalled fewer with ⟨demand, isLoop, begins⟩
      exact ⟨demand, isLoop, begins.earlier (by rw [same])⟩

/-- A read that is overdue is given up before all is done. -/
theorem exists_givesUp_of_isOverdue (ordered : moment ≤ later)
    (still : ((ofEngine engine inventory).after happenings later).ready = [])
    (overdue : ((ofEngine engine inventory).after happenings moment).IsOverdue demand covers) :
    ∃ ended, moment ≤ ended ∧ ended < later ∧
      GivesUp engine.config.inventoryTimeoutMillis
        ((ofEngine engine inventory).after happenings ended)
        ((ofEngine engine inventory).after happenings (ended + 1)) demand covers := by
  induction left : later - moment generalizing moment with
  | zero =>
    have now : moment = later := Nat.le_antisymm ordered (Nat.le_of_sub_eq_zero left)
    rw [now] at overdue
    exact absurd still (overdue.turn (isAlert_after engine inventory happenings later)).1
  | succ rest inductionHypothesis =>
    have before : moment < later := by omega
    have fewer : later - (moment + 1) = rest := by omega
    rcases overdue.turn (isAlert_after engine inventory happenings moment) with ⟨busy, turn⟩
    rw [config_after] at turn
    have goesOn (stays : ((ofEngine engine inventory).after happenings
        (moment + 1)).IsOverdue demand covers) : ∃ ended, moment ≤ ended ∧ ended < later ∧
          GivesUp engine.config.inventoryTimeoutMillis
            ((ofEngine engine inventory).after happenings ended)
            ((ofEngine engine inventory).after happenings (ended + 1)) demand covers := by
      rcases inductionHypothesis before stays fewer with ⟨ended, since, until', givesUp⟩
      exact ⟨ended, Nat.le_of_succ_le since, until', givesUp⟩
    rcases after_succ_of_busy (ofEngine engine inventory) busy with same | same
    · rw [← same] at turn
      rcases turn with givesUp | stays
      · exact ⟨moment, Nat.le_refl _, before, givesUp⟩
      · exact goesOn stays
    · rw [← same] at overdue
      exact goesOn overdue

/-- Once a rebuild has been given up, another one is in progress only if it has begun since
then. -/
theorem idle_or_exists_isUnderWay {ended : Nat} (before : ended < later)
    (free : ((ofEngine engine inventory).after happenings (ended + 1)).coordinator.running =
      none) :
    ((ofEngine engine inventory).after happenings later).coordinator.state = .idle ∨
      ∃ began other covers, ended < began ∧
        IsUnderWay (ofEngine engine inventory) happenings began other covers later := by
  rw [Coordinator.state_eq_idle_iff, ← rebuild?_eq_none_iff]
  cases busy : ((ofEngine engine inventory).after happenings later).rebuild? with
  | none => exact Or.inl rfl
  | some rebuild =>
    rcases exists_isUnderWay busy with ⟨began, underWay, _⟩
    refine Or.inr ⟨began, _, _, Nat.lt_of_not_le fun since => ?_, underWay⟩
    have inProgress := underWay.inProgress (ended + 1) (Nat.lt_succ_of_le since) before
    rw [rebuild?_eq_none_iff.mpr free] at inProgress
    cases inProgress

theorem GivesUp.isNext {timeout : Nat} {simulation next : Simulation}
    (givesUp : GivesUp timeout simulation next demand covers) {ahead behind : List Demand}
    {uncovered : Demand} (line : next.coordinator.line = ahead ++ uncovered :: behind)
    (covered : ∀ other ∈ ahead, other.ticket ≤ covers) (later : covers < uncovered.ticket) :
    next.coordinator.IsNext covers uncovered :=
  ⟨givesUp.free, ⟨_, givesUp.finished⟩, ⟨ahead, behind, line, covered⟩, later⟩

theorem GivesUp.isSignalled {timeout : Nat} {simulation next : Simulation}
    (givesUp : GivesUp timeout simulation next demand covers)
    (accounted : next.coordinator.Accounted)
    (covered : ∀ other ∈ next.coordinator.line, other.ticket ≤ covers)
    (listening : next.coordinator.isListening = true)
    (pending : next.coordinator.pending = true) : next.coordinator.IsSignalled covers := by
  have begun := accounted.finished_le _ givesUp.finished
  have uncovered := of_decide_eq_true pending
  have alive : next.coordinator.loop ≠ .ended := by
    intro ended
    simp [Coordinator.isListening, ended] at listening
  refine ⟨givesUp.free, ⟨_, givesUp.finished⟩, covered, listening, accounted.isOpen alive, ?_,
    Nat.lt_of_le_of_lt begun uncovered⟩
  rcases accounted.stood alive uncovered with queued | ⟨other, member, later⟩
  · exact queued
  · exact absurd later (Nat.not_lt_of_le (Nat.le_trans (covered other member) begun))

end

/-- However long the inventory takes, and if it never answers, turns lead to a standstill
from wherever a run has come to, and at every standstill a rebuild in progress has begun
less than the configured time ago.  A read that has not ended when its time has gone by
lets its rebuild fail for that reason before the next standstill.  Then no rebuild is in
progress until another one begins, and one does begin, before any time goes by, for the
first in the line whom the failed one does not cover, or else for the loop if there is a
signal that it does not cover. -/
theorem stuck_read_given_up (engine : Engine) (inventory : Inventory)
    (happenings : List Happening) :
    let start := ofEngine engine inventory
    let state := start.after happenings
    let timeout := engine.config.inventoryTimeoutMillis
    (∀ moment, ∃ turns, (∀ happening ∈ turns, happening = .turn) ∧
      ((state moment).run turns).ready = []) ∧
    (∀ moment, (state moment).ready = [] → (state moment).coordinator.state = .rebuilding →
      ∃ began demand covers, start.IsUnderWay happenings began demand covers moment ∧
        (state moment).clock < (state began).clock + timeout) ∧
    ∀ moment demand covers, (state moment).IsOverdue demand covers →
      ∀ later, moment ≤ later → (state later).ready = [] →
        ∃ ended, moment ≤ ended ∧ ended < later ∧
          GivesUp timeout (state ended) (state (ended + 1)) demand covers ∧
          ((state later).coordinator.state = .idle ∨
            ∃ began other covers, ended < began ∧
              start.IsUnderWay happenings began other covers later) ∧
          (start.IsBusyUntil happenings (ended + 1) later →
            (∀ ahead uncovered behind,
              (state (ended + 1)).coordinator.line = ahead ++ uncovered :: behind →
              (∀ other ∈ ahead, other.ticket ≤ covers) → covers < uncovered.ticket →
                start.BeginsBetween happenings (ended + 1) later uncovered) ∧
            ((∀ other ∈ (state (ended + 1)).coordinator.line, other.ticket ≤ covers) →
              (state (ended + 1)).coordinator.isListening = true →
              (state (ended + 1)).coordinator.pending = true →
                ∃ uncovered, uncovered.holder = .loop ∧
                  start.BeginsBetween happenings (ended + 1) later uncovered)) := by
  intro start state timeout
  refine ⟨fun moment => ?_, ?_, ?_⟩
  · rcases (state moment).exists_run_eq_settle with ⟨turns, settled, onlyTurns⟩
    exact ⟨turns, onlyTurns, settled ▸ ready_settle _⟩
  · intro moment still busy
    rcases Coordinator.state_eq_rebuilding_iff.mp busy with ⟨rebuild, running⟩
    have alert : (state moment).IsAlert (state moment).ready :=
      isAlert_after engine inventory happenings moment
    rw [still] at alert
    have same : (state moment).rebuild? = some (rebuild.demand, rebuild.covers) := by
      rw [rebuild?, running]
      rfl
    rcases exists_isUnderWay same with ⟨began, underWay, deadline⟩
    rcases alert.rests running with ⟨reading, read, _, rests⟩
    refine ⟨began, _, _, underWay, ?_⟩
    have due : reading.deadline = (state began).clock + timeout := by
      rw [deadline?, read] at deadline
      exact Option.some.inj deadline
    exact due ▸ rests.inTime
  · intro moment demand covers overdue later ordered still
    rcases exists_givesUp_of_isOverdue ordered still overdue with ⟨ended, since, before, givesUp⟩
    refine ⟨ended, since, before, givesUp, idle_or_exists_isUnderWay before givesUp.free, ?_⟩
    intro busy
    refine ⟨fun ahead uncovered behind line covered later => ?_,
      fun covered listening pending => ?_⟩
    · exact beginsBetween_of_isNext before still busy (givesUp.isNext line covered later)
    · have accounted : (state (ended + 1)).coordinator.Accounted :=
        (isAlert_after engine inventory happenings (ended + 1)).accounted
      exact beginsBetween_of_isSignalled before still busy
        (givesUp.isSignalled accounted covered listening pending)

/-- An engine that gives up reads after five seconds. -/
private def patientEngine : Engine :=
  ⟨{}, Config.valid_default, .fixed [], Snapshot.empty, []⟩

/-- Two callers, of whom the first waits for a read that never passes the gate. -/
private def gated : List Happening :=
  [.intervention (.setGate true), .intervention (.call .manual), .turn, .turn,
    .intervention (.call .timer), .turn, .clock 9000, .turn, .turn, .turn, .turn]

theorem gated_read_given_up :
    let state := (ofEngine patientEngine (.memory {})).after gated
    (state 7).IsOverdue ⟨.caller 0, .manual, 1⟩ 1 ∧ (state 11).ready = [] ∧
      ∃ ended, 7 ≤ ended ∧ ended < 11 ∧
        GivesUp 5000 (state ended) (state (ended + 1)) ⟨.caller 0, .manual, 1⟩ 1 := by
  intro state
  have overdue : (state 7).IsOverdue ⟨.caller 0, .manual, 1⟩ 1 :=
    ⟨rfl, ⟨_, rfl, Nat.le_refl 5000, rfl⟩⟩
  have still : (state 11).ready = [] := rfl
  rcases (stuck_read_given_up patientEngine (.memory {}) gated).2.2 7 _ _ overdue 11
    (by decide) still with ⟨ended, since, before, givesUp, _⟩
  exact ⟨overdue, still, ended, since, before, givesUp⟩

end Simulation
end Rebuild
end Itineraries
