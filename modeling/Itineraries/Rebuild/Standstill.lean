import Itineraries.Rebuild.Simulation

namespace Itineraries
namespace Rebuild

/-!
# Standstill

Between two moments of the clock a simulation comes to a standstill: the turns
end, because each of them uses up a part of the work that is left.  A signal
may become a demand, a demand a read, and a read goes from stage to stage; on the
way somebody may be woken, and whoever is woken has a turn at least.  The
weights are chosen so that each of these steps costs more than it brings.

Then the clock goes on to the next alarm, until the time asked for has gone by.
-/

/-- The turns that a read may still need, and one for whoever comes next in the
line. -/
def ReadStage.weight : ReadStage → Nat
  | atGate _ => 6
  | asleep _ => 5
  | ready => 4
  | fetching => 3
  | warming => 2

namespace Simulation

/-- The work that a signal in the queue stands for. -/
def signalWeight (simulation : Simulation) : Nat :=
  if simulation.coordinator.requests.signal.isSome then 8 else 0

/-- The work that a stroke of the clock stands for, if one is due. -/
def strokeWeight (simulation : Simulation) : Nat :=
  if simulation.nextTick.any (· ≤ simulation.clock) then 10 else 0

/-- The work that a read in progress stands for. -/
def readWeight (simulation : Simulation) : Nat :=
  simulation.reading.elim 0 (·.stage.weight)

/-- The work that is left before the clock goes on. -/
def weight (simulation : Simulation) : Nat :=
  simulation.ready.length + 7 * simulation.coordinator.line.length + simulation.readWeight +
    simulation.signalWeight + simulation.strokeWeight

/-! ## What each act leaves -/

theorem weight_wake_le (simulation : Simulation) (agent : Agent) :
    (simulation.wake agent).weight ≤ simulation.weight + 1 := by
  unfold wake
  split
  · exact Nat.le_succ _
  · simp only [weight, readWeight, signalWeight, strokeWeight, List.length_append,
      List.length_cons, List.length_nil]
    omega

theorem weight_wakeLoop_le (simulation : Simulation) :
    simulation.wakeLoop.weight ≤ simulation.weight + 1 := by
  unfold wakeLoop
  split
  · exact weight_wake_le simulation _
  · exact Nat.le_succ _

theorem weight_wakeNext_le (simulation : Simulation) :
    simulation.wakeNext.weight ≤ simulation.weight + 1 := by
  unfold wakeNext
  split
  · exact weight_wake_le simulation _
  · exact Nat.le_succ _

theorem weight_setAlarm (simulation : Simulation) (due : Nat) (agent : Agent) :
    (simulation.setAlarm due agent).weight = simulation.weight := rfl

theorem weight_clearAlarms (simulation : Simulation) (agent : Agent) :
    (simulation.clearAlarms agent).weight = simulation.weight := rfl

theorem line_deliver (coordinator : Coordinator) (holder : Holder) (result : Result) :
    (coordinator.deliver holder result).line = coordinator.line := by
  cases holder <;> rfl

theorem requests_deliver (coordinator : Coordinator) (holder : Holder) (result : Result) :
    (coordinator.deliver holder result).requests = coordinator.requests := by
  cases holder <;> rfl

theorem line_book (coordinator : Coordinator) (reason : Reason) (result : Result) :
    (coordinator.book reason result).line = coordinator.line := by
  cases result <;> rfl

theorem requests_book (coordinator : Coordinator) (reason : Reason) (result : Result) :
    (coordinator.book reason result).requests = coordinator.requests := by
  cases result <;> rfl

theorem line_endRead (coordinator : Coordinator) (readEnd : ReadEnd) :
    (coordinator.endRead readEnd).line = coordinator.line := by
  unfold Coordinator.endRead
  split <;> rfl

theorem requests_endRead (coordinator : Coordinator) (readEnd : ReadEnd) :
    (coordinator.endRead readEnd).requests = coordinator.requests := by
  unfold Coordinator.endRead
  split <;> rfl

theorem line_finish (coordinator : Coordinator) :
    coordinator.finish.line = coordinator.line := by
  unfold Coordinator.finish
  split
  · simp only [line_deliver, line_book]
  · rfl

theorem requests_finish (coordinator : Coordinator) :
    coordinator.finish.requests = coordinator.requests := by
  unfold Coordinator.finish
  split
  · simp only [requests_deliver, requests_book]
  · rfl

/-- Whoever is served leaves the line and no signal behind. -/
theorem serveFirst_of_line {coordinator : Coordinator} {demand : Demand} {line : List Demand}
    (idle : coordinator.running = none) (waiting : coordinator.line = demand :: line) :
    coordinator.serveFirst.line = line ∧
      coordinator.serveFirst.requests.signal = coordinator.requests.signal := by
  simp only [Coordinator.serveFirst, idle, waiting]
  split
  · simp only [line_deliver, requests_deliver, and_self]
  · simp only [and_self]

theorem weight_endRebuild_le (simulation : Simulation) (agent : Agent) :
    (simulation.endRebuild agent).weight + simulation.readWeight ≤ simulation.weight + 1 := by
  refine Nat.le_trans (Nat.add_le_add_right (weight_wakeNext_le _) _) ?_
  rw [weight_clearAlarms]
  simp only [weight, readWeight, signalWeight, strokeWeight, line_finish, requests_finish,
    Option.elim]
  omega

/-- The end of a read takes no work away and brings none. -/
theorem weight_withEndRead (simulation : Simulation) (readEnd : ReadEnd) :
    ({ simulation with coordinator := simulation.coordinator.endRead readEnd } :
      Simulation).weight = simulation.weight := by
  simp only [weight, readWeight, signalWeight, strokeWeight, line_endRead, requests_endRead]

theorem weight_giveUp_le (simulation : Simulation) (agent : Agent) (readEnd : ReadEnd) :
    (simulation.giveUp agent readEnd).weight + simulation.readWeight ≤ simulation.weight + 1 := by
  have ended := weight_endRebuild_le
    { simulation with coordinator := simulation.coordinator.endRead readEnd } agent
  rw [weight_withEndRead] at ended
  exact ended

theorem weight_passGate_le (simulation : Simulation) (reading : Reading) (delay : Nat)
    (agent : Agent) :
    (simulation.passGate reading delay agent).weight + simulation.readWeight ≤
      simulation.weight + 5 := by
  have staged : ∀ stage : ReadStage, stage.weight ≤ 5 →
      ({ simulation with reading := some { reading with stage := stage } } : Simulation).weight +
        simulation.readWeight ≤ simulation.weight + 5 := by
    intro stage light
    simp only [weight, readWeight, signalWeight, strokeWeight, Option.elim]
    omega
  unfold passGate afterGate
  by_cases noDelay : delay = 0
  · simp only [if_pos noDelay]
    exact staged .ready (by decide)
  · simp only [if_neg noDelay, weight_setAlarm]
    exact staged (.asleep _) (Nat.le_refl 5)

theorem weight_beginRead_le (simulation : Simulation) (agent : Agent) :
    (simulation.beginRead agent).weight ≤ simulation.weight + 6 := by
  unfold beginRead
  rw [weight_setAlarm]
  split
  · simp only [weight, readWeight, signalWeight, strokeWeight, Option.elim, ReadStage.weight]
    omega
  · have passed := weight_passGate_le simulation
      ⟨.ready, simulation.clock + simulation.coordinator.engine.config.inventoryTimeoutMillis⟩
      simulation.conditions.delay agent
    omega

/-- The work that is left after an act, with the turn that whoever goes on still
has. -/
def Act.weight : Act → Nat
  | goOn next => next.weight + 1
  | yield next => next.weight + 1
  | rest next => next.weight

theorem weight_actWaiting_le {simulation : Simulation} {reading : Reading} (agent : Agent)
    (read : simulation.reading = some reading) :
    (simulation.actWaiting reading agent).weight ≤ simulation.weight := by
  have ended := weight_giveUp_le simulation agent .timedOut
  have atLeast : 2 ≤ simulation.readWeight := by
    simp only [readWeight, read, Option.elim]
    cases reading.stage <;> simp only [ReadStage.weight] <;> omega
  unfold actWaiting
  split
  · simp only [Act.weight]
    omega
  · exact Nat.le_refl _

theorem weight_actLoaded_le {simulation : Simulation} {reading : Reading} (agent : Agent)
    (left : 3 ≤ simulation.readWeight) :
    (simulation.actLoaded reading agent).weight ≤ simulation.weight := by
  have loaded := weight_withEndRead simulation .loaded
  unfold actLoaded
  dsimp only
  split
  · simp only [weight, readWeight, signalWeight, strokeWeight, Option.elim, ReadStage.weight,
      Act.weight] at loaded left ⊢
    omega
  · have ended := weight_endRebuild_le
      { simulation with coordinator := simulation.coordinator.endRead .loaded } agent
    rw [loaded] at ended
    simp only [readWeight] at ended left
    simp only [Act.weight]
    omega

theorem weight_actReady_le {simulation : Simulation} {reading : Reading} (agent : Agent)
    (left : 4 ≤ simulation.readWeight) :
    (simulation.actReady reading agent).weight ≤ simulation.weight := by
  have ended := weight_giveUp_le simulation agent
  unfold actReady
  split
  · rename_i fault _
    have last := ended (.failed fault)
    simp only [Act.weight]
    omega
  · split
    · split
      · have last := ended .timedOut
        simp only [Act.weight]
        omega
      · simp only [weight, readWeight, signalWeight, strokeWeight, Option.elim, ReadStage.weight,
          Act.weight] at left ⊢
        omega
    · exact weight_actLoaded_le agent (Nat.le_of_succ_le left)

theorem weight_actReading_le {simulation : Simulation} {reading : Reading} (agent : Agent)
    (read : simulation.reading = some reading) :
    (simulation.actReading reading agent).weight ≤ simulation.weight := by
  have waiting := weight_actWaiting_le agent read
  have stageWeight : simulation.readWeight = reading.stage.weight := by
    simp only [readWeight, read, Option.elim]
  unfold actReading
  split
  · rename_i delay stage
    split
    · rename_i permits _
      have passed := weight_passGate_le
        { simulation with conditions := { simulation.conditions with permits := permits } }
        reading delay agent
      simp only [weight, readWeight, signalWeight, strokeWeight, read, Option.elim, stage,
        ReadStage.weight, Act.weight] at passed ⊢
      omega
    · exact waiting
  · rename_i wakes stage
    split
    · simp only [weight, readWeight, signalWeight, strokeWeight, read, Option.elim, stage,
        ReadStage.weight, Act.weight]
      omega
    · exact waiting
  · rename_i stage
    rw [stage] at stageWeight
    exact weight_actReady_le agent (Nat.le_of_eq stageWeight.symm)
  · rename_i stage
    rw [stage] at stageWeight
    exact weight_actLoaded_le agent (Nat.le_of_eq stageWeight.symm)
  · rename_i stage
    rw [stage] at stageWeight
    have last := weight_endRebuild_le simulation agent
    simp only [ReadStage.weight] at stageWeight
    simp only [Act.weight]
    omega

theorem weight_actFirst_le {simulation : Simulation} {demand : Demand} {line : List Demand}
    (agent : Agent) (idle : simulation.coordinator.running = none)
    (waiting : simulation.coordinator.line = demand :: line) :
    (simulation.actFirst agent).weight ≤ simulation.weight := by
  obtain ⟨lineLeft, signalLeft⟩ := serveFirst_of_line idle waiting
  have shorter :
      ({ simulation with coordinator := simulation.coordinator.serveFirst } : Simulation).weight + 7 ≤
        simulation.weight := by
    simp only [weight, readWeight, signalWeight, strokeWeight, lineLeft, signalLeft, waiting,
      List.length_cons]
    omega
  unfold actFirst
  dsimp only
  split
  · have begun := weight_beginRead_le
      { simulation with coordinator := simulation.coordinator.serveFirst } agent
    simp only [Act.weight]
    omega
  · have woken := weight_wakeNext_le
      { simulation with coordinator := simulation.coordinator.serveFirst }
    simp only [Act.weight]
    omega

theorem weight_actAtQueue_le (simulation : Simulation) :
    simulation.actAtQueue.weight ≤ simulation.weight := by
  unfold actAtQueue
  split
  · simp only [Act.weight, weight, readWeight, signalWeight, strokeWeight, Coordinator.leave]
    split <;> exact Nat.le_refl _
  · split
    · rename_i taking
      simp only [Coordinator.canTake, Bool.and_eq_true, decide_eq_true_eq, Bool.not_eq_true',
        Requests.receive] at taking
      obtain ⟨⟨atQueue, going⟩, some_⟩ := taking
      split at some_
      · rename_i isOpen
        obtain ⟨reason, signal⟩ := Option.isSome_iff_exists.mp some_
        simp only at signal
        simp only [Act.weight, weight, readWeight, signalWeight, strokeWeight, Coordinator.take,
          Requests.receive, atQueue, going, isOpen, signal, Bool.false_eq_true, not_false_eq_true,
          and_self, if_true, List.length_append, List.length_cons, List.length_nil,
          Option.isSome_some, Option.isSome_none, if_false]
        omega
      · contradiction
    · exact Nat.le_refl _

theorem weight_actHolder_le (simulation : Simulation) (holder : Holder) :
    (simulation.actHolder holder).weight ≤ simulation.weight := by
  have otherwise :
      (if holder = .loop then simulation.actAtQueue else .rest simulation).weight ≤
        simulation.weight := by
    split
    · exact weight_actAtQueue_le simulation
    · exact Nat.le_refl _
  unfold actHolder
  dsimp only
  split
  · rename_i read
    split
    · exact weight_actReading_le _ read
    · exact otherwise
  · rename_i idle waiting
    split
    · exact weight_actFirst_le _ idle waiting
    · exact otherwise
  · exact otherwise

/-- Waking the loop changes only who can act. -/
theorem wakeLoop_eq (simulation : Simulation) :
    simulation.wakeLoop = { simulation with ready := simulation.wakeLoop.ready } := by
  unfold wakeLoop wake
  repeat' split
  all_goals rfl

theorem strokeWeight_wakeLoop (simulation : Simulation) :
    simulation.wakeLoop.strokeWeight = simulation.strokeWeight := by
  rw [wakeLoop_eq]
  rfl

theorem clock_wakeLoop (simulation : Simulation) :
    simulation.wakeLoop.clock = simulation.clock := by
  rw [wakeLoop_eq]

theorem weight_tick_le (simulation : Simulation) :
    ({ simulation with coordinator := simulation.coordinator.tick } : Simulation).weight ≤
      simulation.weight + 8 := by
  simp only [weight, readWeight, signalWeight, strokeWeight, Coordinator.tick, Coordinator.request,
    Requests.request]
  repeat' split
  all_goals simp_all

theorem clock_lt_strokeAfter (simulation : Simulation) (due : Nat) (striking : 0 < simulation.period) :
    simulation.clock < simulation.strokeAfter due := by
  have left := Nat.mod_lt (simulation.clock - due) striking
  simp only [strokeAfter]
  omega

theorem weight_setTick (simulation : Simulation) (due : Nat) (later : simulation.clock < due) :
    (simulation.setTick due).weight + simulation.strokeWeight = simulation.weight := by
  have silent : ¬due ≤ simulation.clock := Nat.not_le.mpr later
  simp only [setTick, weight_setAlarm]
  simp only [weight, readWeight, signalWeight, strokeWeight, Option.any_some, decide_eq_true_eq,
    if_neg silent]
  omega

theorem weight_actTicker_le (simulation : Simulation) :
    simulation.actTicker.weight ≤ simulation.weight := by
  unfold actTicker
  split
  · rename_i running
    split
    · have set := weight_setTick simulation (simulation.clock + simulation.period) (by omega)
      simp only [Act.weight]
      omega
    · rename_i due next
      split
      · rename_i struck
        have ticked := weight_tick_le simulation
        have woken := weight_wakeLoop_le
          { simulation with coordinator := simulation.coordinator.tick }
        have set := weight_setTick
          ({ simulation with coordinator := simulation.coordinator.tick } : Simulation).wakeLoop
          (simulation.strokeAfter due)
          (Nat.lt_of_le_of_lt (Nat.le_of_eq (clock_wakeLoop _))
            (clock_lt_strokeAfter simulation due running.2))
        have stroke : simulation.strokeWeight = 10 := by
          simp only [strokeWeight, next, Option.any_some, struck, decide_true, if_true]
        have kept : ({ simulation with
            coordinator := simulation.coordinator.tick } : Simulation).wakeLoop.strokeWeight = 10 :=
          (strokeWeight_wakeLoop _).trans stroke
        simp only [Act.weight]
        omega
      · exact Nat.le_refl _
  · simp only [Act.weight, weight_clearAlarms]
    simp only [weight, readWeight, signalWeight, strokeWeight, Option.any_none,
      Bool.false_eq_true, if_false]
    omega

theorem weight_act_le (simulation : Simulation) (agent : Agent) :
    (simulation.act agent).weight ≤ simulation.weight := by
  cases agent with
  | holder holder => exact weight_actHolder_le simulation holder
  | ticker => exact weight_actTicker_le simulation

/-- Every turn uses up a part of the work that is left. -/
theorem weight_turn_lt (simulation : Simulation) (someone : simulation.ready ≠ []) :
    simulation.turn.weight < simulation.weight := by
  unfold turn
  split
  · contradiction
  · rename_i agent others waiting
    have acted := weight_act_le { simulation with ready := others } agent
    have before :
        simulation.weight = ({ simulation with ready := others } : Simulation).weight + 1 := by
      simp only [weight, readWeight, signalWeight, strokeWeight, waiting, List.length_cons]
      omega
    split <;> rename_i next acts <;> rw [acts] at acted <;> simp only [Act.weight] at acted
    · simp only [weight, readWeight, signalWeight, strokeWeight, List.length_cons] at *
      omega
    · simp only [weight, readWeight, signalWeight, strokeWeight, List.length_append,
        List.length_cons, List.length_nil] at *
      omega
    · omega

/-! ## Time -/

/-- Everything is done that can be done before the clock goes on. -/
def settle (simulation : Simulation) : Simulation :=
  match _someone : simulation.ready with
  | [] => simulation
  | _ :: _ => simulation.turn.settle
termination_by simulation.weight
decreasing_by exact weight_turn_lt simulation (by simp [_someone])

theorem ready_settle (simulation : Simulation) : simulation.settle.ready = [] := by
  fun_induction settle simulation with
  | case1 simulation nobody => exact nobody
  | case2 simulation agent others someone inductionHypothesis => exact inductionHypothesis

/-- The next moment after a given one, and not after another, for which an
alarm is set. -/
def nextAlarm? (simulation : Simulation) (after upTo : Nat) : Option Nat :=
  ((simulation.alarms.map (·.due)).filter fun due => after < due ∧ due ≤ upTo).min?

/-- The alarms of this moment ring, in the order in which they were set. -/
def ring (simulation : Simulation) : Simulation :=
  let (ringing, silent) := simulation.alarms.partition (·.due ≤ simulation.clock)
  ringing.foldl (fun rung alarm => rung.wake alarm.agent) { simulation with alarms := silent }

/-- The clock goes from one moment to another and stops at every alarm. -/
def advance (simulation : Simulation) (after upTo : Nat) : Simulation :=
  match _found : simulation.nextAlarm? after upTo with
  | none => { simulation with clock := upTo }
  | some due => ({ simulation with clock := due }.ring.settle).advance due upTo
termination_by upTo - after
decreasing_by
  have listed := List.min?_mem _found
  simp only [List.mem_filter, decide_eq_true_eq] at listed
  omega

def elapse (simulation : Simulation) (milliseconds : Nat) : Simulation :=
  simulation.advance simulation.clock (simulation.clock + milliseconds)

end Simulation
end Rebuild
end Itineraries
