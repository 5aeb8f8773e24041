import Itineraries.Rebuild.Session
import Itineraries.Proofs.Failures

namespace Itineraries
namespace Rebuild

/-!
# What happens between two standstills

A session names what somebody does from outside and how much time goes by.  What comes
of it happens bit by bit: those who can act have their turns, one after the other, and
only when nobody can act does somebody outside do something, or the clock goes on to
the next alarm.  Between any two of these happenings a session can be looked at, so
that it can be said what is true at every standstill, and what has been done at which
moment of the clock.
-/

/-- What can happen to a simulation: the first of those who can act has a turn, somebody
outside does something, or the clock goes on. -/
inductive Happening where
  | turn
  | intervention (intervention : Intervention)
  | clock (upTo : Nat)

namespace Simulation

/-- The clock goes on to the next alarm, or to a moment if there is none before. -/
def tickUpTo (simulation : Simulation) (upTo : Nat) : Simulation :=
  match simulation.nextAlarm? simulation.clock upTo with
  | some due => { simulation with clock := due }.ring
  | none => { simulation with clock := max simulation.clock upTo }

/-- What comes of a happening.  As long as somebody can act, nothing else happens. -/
def happen (simulation : Simulation) : Happening → Simulation
  | .turn => simulation.turn
  | .intervention intervention =>
    if simulation.ready = [] then simulation.intervene intervention else simulation
  | .clock upTo => if simulation.ready = [] then simulation.tickUpTo upTo else simulation

def run (simulation : Simulation) (happenings : List Happening) : Simulation :=
  happenings.foldl happen simulation

def after (start : Simulation) (happenings : List Happening) (moment : Nat) : Simulation :=
  start.run (happenings.take moment)

/-! ## Sessions as rows of happenings -/

theorem run_append (simulation : Simulation) (first second : List Happening) :
    simulation.run (first ++ second) = (simulation.run first).run second :=
  List.foldl_append

/-- A standstill is reached by turns. -/
theorem exists_run_eq_settle (simulation : Simulation) :
    ∃ happenings, simulation.settle = simulation.run happenings ∧
      ∀ happening ∈ happenings, happening = .turn := by
  fun_induction settle simulation with
  | case1 simulation nobody =>
    exact ⟨[], rfl, fun _ impossible => absurd impossible List.not_mem_nil⟩
  | case2 simulation agent others someone inductionHypothesis =>
    rcases inductionHypothesis with ⟨happenings, same, turns⟩
    refine ⟨.turn :: happenings, same, ?_⟩
    intro happening member
    rcases List.mem_cons.mp member with first | later
    · exact first
    · exact turns happening later

/-- Whatever somebody outside does in a session is a row of happenings. -/
theorem exists_run_eq_perform {simulation : Simulation} (still : simulation.ready = [])
    (intervention : Intervention) :
    ∃ happenings, simulation.perform intervention = simulation.run happenings := by
  rcases (simulation.intervene intervention).exists_run_eq_settle with ⟨turns, same, _⟩
  refine ⟨.intervention intervention :: turns, ?_⟩
  rw [perform, same]
  change _ = (simulation.happen (.intervention intervention)).run turns
  rw [happen, if_pos still]

/-! ## What a turn can do -/

/-- The moves that a turn can make. -/
def IsOwnMove : Coordinator.Move → Prop
  | .tick | .take | .leave | .serveFirst | .endRead _ | .finish => True
  | _ => False

/-- Which rebuild is in progress, however far it has come. -/
def rebuild? (simulation : Simulation) : Option (Demand × Nat) :=
  simulation.coordinator.running.map fun rebuild => (rebuild.demand, rebuild.covers)

/-- The moment at which the read in progress is given up. -/
def deadline? (simulation : Simulation) : Option Nat :=
  simulation.reading.map (·.deadline)

/-- What becomes of the rebuild in progress by a turn, and of the moment at which its
read is given up.  If there is none and none begins, this counts as going on. -/
inductive RebuildPassage (simulation next : Simulation) : Prop where
  | goesOn (move : Coordinator.Move) (own : IsOwnMove move)
      (step : Coordinator.Step simulation.coordinator move next.coordinator)
      (same : next.rebuild? = simulation.rebuild?)
      (deadline : next.deadline? = simulation.deadline?)
  | begins (idle : simulation.coordinator.running = none)
      (step : Coordinator.Step simulation.coordinator .serveFirst next.coordinator)
      (busy : next.coordinator.running.isSome = true)
      (deadline : next.deadline? =
        some (simulation.clock + next.coordinator.engine.config.inventoryTimeoutMillis))
  | ends (busy : simulation.coordinator.running.isSome = true) (free : next.reading = none)

/-- What a turn can do.  It takes no time. -/
structure Passage (simulation next : Simulation) : Prop where
  clock : next.clock = simulation.clock
  moves : ∃ moves, next.coordinator = simulation.coordinator.run moves
  rebuild : RebuildPassage simulation next

/-- The state that an act leads to, whoever can act then. -/
def Act.outcome : Act → Simulation
  | goOn next => next
  | yield next => next
  | rest next => next

section

variable {simulation : Simulation} {reading : Reading} {rebuild : Running}

theorem wake_eq (simulation : Simulation) (agent : Agent) :
    simulation.wake agent = { simulation with ready := (simulation.wake agent).ready } := by
  unfold wake
  split <;> rfl

theorem wakeNext_eq (simulation : Simulation) :
    simulation.wakeNext = { simulation with ready := simulation.wakeNext.ready } := by
  unfold wakeNext
  split
  · exact wake_eq simulation _
  · rfl

theorem endRebuild_eq (simulation : Simulation) (agent : Agent) :
    simulation.endRebuild agent =
      { simulation with
        coordinator := simulation.coordinator.finish
        reading := none
        alarms := simulation.alarms.filter (·.agent ≠ agent)
        ready := (simulation.endRebuild agent).ready } := by
  unfold endRebuild
  rw [wakeNext_eq]
  rfl

/-- Nothing is done with the coordinator, and the read goes on. -/
theorem Passage.of_coordinator_eq {next : Simulation} (clock : next.clock = simulation.clock)
    (same : next.coordinator = simulation.coordinator)
    (deadline : next.deadline? = simulation.deadline?) : Passage simulation next := by
  have silent : simulation.coordinator.IsSilent .take := ⟨rfl, nofun⟩
  refine ⟨clock, ⟨[], same⟩, .goesOn .take trivial ?_ ?_ deadline⟩
  · rw [same]
    exact .stay silent
  · rw [rebuild?, rebuild?, same]

/-- The coordinator makes a move by which no rebuild begins or ends. -/
theorem Passage.of_apply {next : Simulation} (clock : next.clock = simulation.clock)
    (move : Coordinator.Move) (own : IsOwnMove move)
    (made : next.coordinator = simulation.coordinator.apply move)
    (same : next.rebuild? = simulation.rebuild?)
    (deadline : next.deadline? = simulation.deadline?) : Passage simulation next := by
  refine ⟨clock, ⟨[move], made⟩, .goesOn move own ?_ same deadline⟩
  rw [made]
  exact Coordinator.step_apply _ move

theorem passage_endRebuild (busy : simulation.coordinator.running = some rebuild)
    (agent : Agent) : Passage simulation (simulation.endRebuild agent) := by
  rw [endRebuild_eq]
  exact ⟨rfl, ⟨[.finish], rfl⟩, .ends (by rw [busy]; rfl) rfl⟩

theorem passage_giveUp (busy : simulation.coordinator.running = some rebuild) (agent : Agent)
    (readEnd : ReadEnd) : Passage simulation (simulation.giveUp agent readEnd) := by
  unfold giveUp
  rw [endRebuild_eq]
  exact ⟨rfl, ⟨[.endRead readEnd, .finish], rfl⟩, .ends (by rw [busy]; rfl) rfl⟩

theorem passage_actWaiting (busy : simulation.coordinator.running = some rebuild)
    (agent : Agent) : Passage simulation (simulation.actWaiting reading agent).outcome := by
  unfold actWaiting
  split
  · exact passage_giveUp busy agent .timedOut
  · exact .of_coordinator_eq rfl rfl rfl

theorem running_endRead_map (coordinator : Coordinator) (readEnd : ReadEnd) :
    (coordinator.endRead readEnd).running.map (fun rebuild => (rebuild.demand, rebuild.covers)) =
      coordinator.running.map fun rebuild => (rebuild.demand, rebuild.covers) := by
  unfold Coordinator.endRead
  split
  · rename_i running
    rw [running]
    rfl
  · rfl

theorem passage_actLoaded (busy : simulation.coordinator.running = some rebuild)
    (read : simulation.reading = some reading) (agent : Agent) :
    Passage simulation (simulation.actLoaded reading agent).outcome := by
  unfold actLoaded
  dsimp only
  split
  · refine .of_apply rfl (.endRead .loaded) trivial rfl (running_endRead_map _ _) ?_
    rw [deadline?, deadline?, read]
    rfl
  · exact passage_giveUp busy agent .loaded

theorem passage_actReady (busy : simulation.coordinator.running = some rebuild)
    (read : simulation.reading = some reading) (agent : Agent) :
    Passage simulation (simulation.actReady reading agent).outcome := by
  unfold actReady
  split
  · exact passage_giveUp busy agent _
  · split
    · split
      · exact passage_giveUp busy agent .timedOut
      · exact .of_coordinator_eq rfl rfl (by rw [deadline?, deadline?, read]; rfl)
    · exact passage_actLoaded busy read agent

theorem passGate_eq (simulation : Simulation) (reading : Reading) (delay : Nat) (agent : Agent) :
    simulation.passGate reading delay agent =
      { simulation with
        reading := some { reading with stage := simulation.afterGate delay }
        alarms := simulation.alarms ++
          if delay = 0 then [] else [⟨simulation.clock + delay, agent⟩] } := by
  unfold passGate
  by_cases immediate : delay = 0
  · simp only [if_pos immediate, List.append_nil]
  · simp only [if_neg immediate, setAlarm]

theorem passage_actReading (busy : simulation.coordinator.running = some rebuild)
    (read : simulation.reading = some reading) (agent : Agent) :
    Passage simulation (simulation.actReading reading agent).outcome := by
  have staged : ∀ stage, some ({ reading with stage := stage } : Reading).deadline =
      simulation.deadline? := fun _ => by rw [deadline?, read]; rfl
  unfold actReading
  split
  · split
    · dsimp only
      rw [passGate_eq]
      exact .of_coordinator_eq rfl rfl (staged _)
    · exact passage_actWaiting busy agent
  · split
    · exact .of_coordinator_eq rfl rfl (staged _)
    · exact passage_actWaiting busy agent
  · exact passage_actReady busy read agent
  · exact passage_actLoaded busy read agent
  · exact passage_endRebuild busy agent

/-- A read that begins waits at the gate or for its delay, and an alarm is set for the
moment at which it is given up. -/
theorem beginRead_eq (simulation : Simulation) (agent : Agent) :
    simulation.beginRead agent =
      { simulation with
        reading := some
          ⟨if simulation.conditions.gateClosed then .atGate simulation.conditions.delay
            else simulation.afterGate simulation.conditions.delay,
            simulation.clock + simulation.coordinator.engine.config.inventoryTimeoutMillis⟩
        alarms := simulation.alarms ++
          (if simulation.conditions.gateClosed ∨ simulation.conditions.delay = 0 then []
            else [⟨simulation.clock + simulation.conditions.delay, agent⟩]) ++
          [⟨simulation.clock + simulation.coordinator.engine.config.inventoryTimeoutMillis,
            agent⟩] } := by
  unfold beginRead setAlarm
  dsimp only
  by_cases closed : simulation.conditions.gateClosed = true
  · simp only [closed, true_or, if_true, List.append_nil]
  · simp only [closed, Bool.false_eq_true, false_or, if_false, passGate_eq]

theorem passage_actFirst (idle : simulation.coordinator.running = none) (agent : Agent) :
    Passage simulation (simulation.actFirst agent).outcome := by
  have step := Coordinator.step_serveFirst simulation.coordinator
  unfold actFirst
  dsimp only
  split
  · rename_i begun
    rw [beginRead_eq]
    exact ⟨rfl, ⟨[.serveFirst], rfl⟩, .begins idle step begun rfl⟩
  · rename_i still
    rw [wakeNext_eq]
    refine .of_apply rfl .serveFirst trivial rfl ?_ rfl
    have none : simulation.coordinator.serveFirst.running = none :=
      Option.not_isSome_iff_eq_none.mp still
    change Option.map _ simulation.coordinator.serveFirst.running = Option.map _ _
    rw [none, idle]

theorem passage_actAtQueue (simulation : Simulation) :
    Passage simulation simulation.actAtQueue.outcome := by
  have kept : ∀ move, move = .leave ∨ move = .take →
      (simulation.coordinator.apply move).running = simulation.coordinator.running := by
    rintro move (rfl | rfl)
    · change simulation.coordinator.leave.running = _
      unfold Coordinator.leave
      split <;> rfl
    · change simulation.coordinator.take.running = _
      unfold Coordinator.take
      split
      · split <;> rfl
      · rfl
  unfold actAtQueue
  split
  · refine .of_apply rfl .leave trivial rfl ?_ rfl
    exact congrArg (Option.map _) (kept .leave (Or.inl rfl))
  · split
    · refine .of_apply rfl .take trivial rfl ?_ rfl
      exact congrArg (Option.map _) (kept .take (Or.inr rfl))
    · exact .of_coordinator_eq rfl rfl rfl

theorem passage_actHolder (simulation : Simulation) (holder : Holder) :
    Passage simulation (simulation.actHolder holder).outcome := by
  have otherwise : Passage simulation
      (if holder = .loop then simulation.actAtQueue else .rest simulation).outcome := by
    split
    · exact passage_actAtQueue simulation
    · exact .of_coordinator_eq rfl rfl rfl
  unfold actHolder
  dsimp only
  split
  · rename_i busy read
    split
    · exact passage_actReading busy read _
    · exact otherwise
  · rename_i idle _
    split
    · exact passage_actFirst idle _
    · exact otherwise
  · exact otherwise

theorem running_tick (coordinator : Coordinator) :
    coordinator.tick.running = coordinator.running := by
  unfold Coordinator.tick
  split <;> rfl

theorem passage_actTicker (simulation : Simulation) :
    Passage simulation simulation.actTicker.outcome := by
  unfold actTicker
  split
  · split
    · exact .of_coordinator_eq rfl rfl rfl
    · split
      · dsimp only [Act.outcome]
        rw [wakeLoop_eq]
        refine .of_apply rfl .tick trivial rfl ?_ rfl
        exact congrArg (Option.map _) (running_tick _)
      · exact .of_coordinator_eq rfl rfl rfl
  · exact .of_coordinator_eq rfl rfl rfl

theorem passage_act (simulation : Simulation) (agent : Agent) :
    Passage simulation (simulation.act agent).outcome := by
  cases agent with
  | holder holder => exact passage_actHolder simulation holder
  | ticker => exact passage_actTicker simulation

/-- What becomes of a rebuild has nothing to do with who can act afterwards. -/
theorem Passage.withReady {next : Simulation} {before : List Agent}
    (passage : Passage { simulation with ready := before } next) (ready : List Agent) :
    Passage simulation { next with ready := ready } := by
  rcases passage with ⟨clock, moves, rebuild⟩
  refine ⟨clock, moves, ?_⟩
  cases rebuild with
  | goesOn move own step same deadline => exact .goesOn move own step same deadline
  | begins idle step busy deadline => exact .begins idle step busy deadline
  | ends busy free => exact .ends busy free

theorem passage_turn (simulation : Simulation) : Passage simulation simulation.turn := by
  unfold turn
  split
  · exact .of_coordinator_eq rfl rfl rfl
  · rename_i agent others someone
    have passage := passage_act { simulation with ready := others } agent
    split <;> rename_i next acts <;> rw [acts] at passage
    · exact passage.withReady (agent :: next.ready)
    · exact passage.withReady (next.ready ++ [agent])
    · exact passage.withReady next.ready

theorem clock_settle (simulation : Simulation) : simulation.settle.clock = simulation.clock := by
  fun_induction settle simulation with
  | case1 simulation nobody => rfl
  | case2 simulation agent others someone inductionHypothesis =>
    rw [inductionHypothesis]
    exact (passage_turn simulation).clock

end

theorem clock_ring (simulation : Simulation) : simulation.ring.clock = simulation.clock := by
  have rings : ∀ (alarms : List Alarm) (before : Simulation),
      (alarms.foldl (fun rung alarm => rung.wake alarm.agent) before).clock = before.clock := by
    intro alarms
    induction alarms with
    | nil => exact fun _ => rfl
    | cons alarm rest inductionHypothesis =>
      intro before
      rw [List.foldl_cons, inductionHypothesis, wake_eq]
  exact rings _ _

/-! ## What an intervention can do -/

/-- Nobody outside begins or ends a rebuild, or serves anybody in the line. -/
theorem step_of_intervention {coordinator changed : Coordinator} {move : Coordinator.Move}
    (step : Coordinator.Step coordinator move changed) (foreign : ¬IsOwnMove move)
    (uncalled : ∀ reason, move ≠ .call reason) :
    changed.running = coordinator.running ∧ changed.line = coordinator.line := by
  cases step with
  | call reason => exact absurd rfl (uncalled reason)
  | take | leave | satisfy | begin | endRead | finish => exact absurd trivial foreign
  | _ => exact ⟨rfl, rfl⟩

/-- What an intervention does to the coordinator is a row of moves, and it takes no time. -/
structure Intervened (simulation next : Simulation) : Prop where
  clock : next.clock = simulation.clock
  moves : ∃ moves, next.coordinator = simulation.coordinator.run moves
  running : next.coordinator.running = simulation.coordinator.running
  reading : next.reading = simulation.reading

theorem intervened_withCoordinator (simulation : Simulation) (move : Coordinator.Move)
    (foreign : ¬IsOwnMove move) :
    Intervened simulation (simulation.withCoordinator (simulation.coordinator.apply move)) := by
  refine ⟨rfl, ⟨[move], rfl⟩, ?_, rfl⟩
  by_cases called : ∃ reason, move = .call reason
  · rcases called with ⟨reason, rfl⟩
    rfl
  · exact (step_of_intervention (simulation.coordinator.step_apply move) foreign
      fun reason same => called ⟨reason, same⟩).1

theorem Intervened.wake {simulation next : Simulation} (intervened : Intervened simulation next)
    (agent : Agent) : Intervened simulation (next.wake agent) := by
  rw [wake_eq]
  exact ⟨intervened.clock, intervened.moves, intervened.running, intervened.reading⟩

theorem Intervened.wakeLoop {simulation next : Simulation}
    (intervened : Intervened simulation next) : Intervened simulation next.wakeLoop := by
  rw [wakeLoop_eq]
  exact ⟨intervened.clock, intervened.moves, intervened.running, intervened.reading⟩

theorem intervened_intervene (simulation : Simulation) (intervention : Intervention) :
    Intervened simulation (simulation.intervene intervention) := by
  have made := simulation.intervened_withCoordinator
  cases intervention with
  | start =>
    dsimp only [intervene]
    split
    · exact ((made .start not_false).wake _).wake _
    · exact ⟨rfl, ⟨[], rfl⟩, rfl, rfl⟩
  | shutdown => exact (made .shutdown not_false).wakeLoop.wake _
  | trigger reason => exact (made (.request reason) not_false).wakeLoop
  | call reason => exact (made (.call reason) not_false).wake _
  | release permits =>
    dsimp only [intervene, permit]
    split
    · rw [wake_eq]
      exact ⟨rfl, ⟨[], rfl⟩, rfl, rfl⟩
    · exact ⟨rfl, ⟨[], rfl⟩, rfl, rfl⟩
  | attach => exact made .attach not_false
  | upsert flight => exact (made (.upsert flight) not_false).wakeLoop
  | replace flights => exact (made (.replace flights) not_false).wakeLoop
  | remove name => exact (made (.remove name) not_false).wakeLoop
  | setFile content => exact made (.setFile content) not_false
  | search pair given => exact made (.search pair given) not_false
  | invalidate => exact made .invalidate not_false
  | _ => exact ⟨rfl, ⟨[], rfl⟩, rfl, rfl⟩

/-! ## The clock -/

section

variable {simulation : Simulation} {after upTo due : Nat}

/-- Of the alarms that are to come, the next is the first to ring. -/
theorem nextAlarm?_eq_some (found : simulation.nextAlarm? after upTo = some due) :
    after < due ∧ due ≤ upTo ∧
      ∀ alarm ∈ simulation.alarms, after < alarm.due → due ≤ alarm.due := by
  have within := List.mem_filter.mp (List.min?_mem found)
  rw [decide_eq_true_eq] at within
  refine ⟨within.2.1, within.2.2, fun alarm member later => ?_⟩
  by_cases soon : alarm.due ≤ upTo
  · have listed : alarm.due ∈ (simulation.alarms.map (·.due)).filter
        fun moment => after < moment ∧ moment ≤ upTo :=
      List.mem_filter.mpr ⟨List.mem_map_of_mem member, decide_eq_true ⟨later, soon⟩⟩
    exact (List.min?_eq_some_iff.mp found).2 _ listed
  · exact Nat.le_trans within.2.2 (Nat.le_of_not_le soon)

theorem nextAlarm?_eq_none (found : simulation.nextAlarm? after upTo = none) {alarm : Alarm}
    (member : alarm ∈ simulation.alarms) (later : after < alarm.due) : upTo < alarm.due := by
  have silent := List.filter_eq_nil_iff.mp (List.min?_eq_none_iff.mp found) alarm.due
    (List.mem_map_of_mem member)
  rw [decide_eq_true_eq] at silent
  exact Nat.lt_of_not_le fun soon => silent ⟨later, soon⟩

end

/-- The passing of time in a session is a row of happenings. -/
theorem exists_run_eq_advance (simulation : Simulation) (upTo : Nat)
    (still : simulation.ready = []) (ordered : simulation.clock ≤ upTo) :
    ∃ happenings, simulation.advance simulation.clock upTo = simulation.run happenings := by
  generalize moment : simulation.clock = after
  fun_induction advance simulation after upTo with
  | case1 simulation after none =>
    refine ⟨[.clock upTo], ?_⟩
    change _ = simulation.happen (.clock upTo)
    rw [happen, if_pos still, tickUpTo, moment, none]
    dsimp only
    rw [← moment, Nat.max_eq_right ordered]
  | case2 simulation after due found inductionHypothesis =>
    let rung : Simulation := { simulation with clock := due }.ring
    have clock : rung.settle.clock = due := (clock_settle rung).trans (clock_ring _)
    rcases exists_run_eq_settle rung with ⟨turns, settled, _⟩
    rcases inductionHypothesis (ready_settle rung)
      (Nat.le_trans (Nat.le_of_eq clock) (nextAlarm?_eq_some found).2.1) clock with
      ⟨happenings, same⟩
    refine ⟨.clock upTo :: (turns ++ happenings), ?_⟩
    have first : simulation.happen (.clock upTo) = rung := by
      rw [happen, if_pos still, tickUpTo, moment, found]
    change _ = (simulation.happen (.clock upTo)).run (turns ++ happenings)
    rw [first, run_append, ← settled]
    exact same

theorem exists_run_eq_elapse {simulation : Simulation} (still : simulation.ready = [])
    (milliseconds : Nat) :
    ∃ happenings, simulation.elapse milliseconds = simulation.run happenings :=
  exists_run_eq_advance simulation _ still (Nat.le_add_right _ _)

end Simulation
end Rebuild
end Itineraries
