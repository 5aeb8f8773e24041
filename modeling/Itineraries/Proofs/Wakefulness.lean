import Itineraries.Proofs.Alertness

namespace Itineraries
namespace Rebuild

/-!
# Nobody is left asleep

Those who can act leave everybody awake who could act after them.  The same is true of
what somebody outside does, since whoever is asked for something is woken, and of the
clock, since it stops at every alarm.  So it is true of every run.
-/

namespace Simulation

section

variable {simulation next : Simulation} {awake : List Agent} {rebuild : Running}
  {reading : Reading} {agent : Agent}

/-! ## Interventions -/

/-- What is done with the engine or the inventory alone calls nobody. -/
theorem IsAlert.withSameRequests (alert : simulation.IsAlert awake) {coordinator : Coordinator}
    (accounted : coordinator.Accounted)
    (running : coordinator.running = simulation.coordinator.running)
    (line : coordinator.line = simulation.coordinator.line)
    (loop : coordinator.loop = simulation.coordinator.loop)
    (stopping : coordinator.stopping = simulation.coordinator.stopping)
    (requests : coordinator.requests = simulation.coordinator.requests) :
    (simulation.withCoordinator coordinator).IsAlert awake := by
  refine alert.withCoordinator accounted running (fun _ => id) (fun called => alert.heeds ?_) ?_
    ⟨[], line.trans (List.append_nil _).symm⟩
  · rw [Coordinator.isCalled_iff, loop, stopping, requests] at called
    exact (Coordinator.isCalled_iff _).mpr called
  · intro _ demand rest waiting none
    rw [line, none] at waiting
    cases waiting

theorem IsAlert.wake (alert : simulation.IsAlert simulation.ready) (agent : Agent) :
    (simulation.wake agent).IsAlert (simulation.wake agent).ready := by
  have more := alert.mono fun _ => mem_wake_of_mem simulation agent
  rw [wake_eq]
  exact more.of_same rfl rfl rfl rfl fun _ _ => id

/-- Whoever runs a rebuild is woken when its read may pass the gate. -/
theorem IsAlert.permit (alert : simulation.IsAlert simulation.ready) (permits : Nat) :
    (simulation.permit permits).IsAlert (simulation.permit permits).ready := by
  unfold Simulation.permit
  dsimp only
  split
  · rename_i rebuild busy
    rcases alert.watched rebuild busy with ⟨reading, read, watched⟩
    rw [wake_eq]
    refine .of_busy alert.accounted (fun called => mem_wake_of_mem _ _ (alert.heeds called)) busy
      read ?_
    exact { watched with awake := Or.inl (mem_wake _ _) }
  · rename_i idle
    exact ⟨alert.accounted, alert.heeds, alert.unread, alert.first,
      fun _ busy => nomatch idle.symm.trans busy⟩

theorem IsAlert.wakeAfter (alert : simulation.IsAlert simulation.ready)
    {coordinator : Coordinator} (accounted : coordinator.Accounted)
    (running : coordinator.running = simulation.coordinator.running)
    (heeds : coordinator.IsCalled → simulation.coordinator.IsCalled ∨ agent = .holder .loop)
    (grows : ∃ added, coordinator.line = simulation.coordinator.line ++ added ∧
      ∀ demand ∈ added, .holder demand.holder = agent) :
    ((simulation.withCoordinator coordinator).wake agent).IsAlert
      ((simulation.withCoordinator coordinator).wake agent).ready := by
  rcases grows with ⟨added, line, mine⟩
  have woken : ∀ other ∈ simulation.ready,
      other ∈ ((simulation.withCoordinator coordinator).wake agent).ready :=
    fun _ => mem_wake_of_mem (simulation.withCoordinator coordinator) agent
  have changed : (simulation.withCoordinator coordinator).IsAlert
      ((simulation.withCoordinator coordinator).wake agent).ready := by
    refine alert.withCoordinator accounted running woken (fun called => ?_) ?_ ⟨added, line⟩
    · rcases heeds called with before | isLoop
      · exact woken _ (alert.heeds before)
      · rw [← isLoop]
        exact mem_wake _ _
    · intro _ demand rest waiting none
      rw [line, none, List.nil_append] at waiting
      rw [mine demand (waiting ▸ List.mem_cons_self)]
      exact mem_wake _ _
  rw [wake_eq]
  exact changed.of_same rfl rfl rfl rfl fun _ _ member => member

theorem IsAlert.intervene (alert : simulation.IsAlert simulation.ready)
    (intervention : Intervention) :
    (simulation.intervene intervention).IsAlert (simulation.intervene intervention).ready := by
  have accounted := fun move => alert.accounted.run_of [move]
  have kept := fun move => step_of_intervention (simulation.coordinator.step_apply move)
  cases intervention with
  | start =>
    rcases kept .start not_false nofun with ⟨running, line⟩
    dsimp only [Simulation.intervene]
    split
    · exact IsAlert.wake (alert.wakeAfter (accounted .start) running (fun _ => Or.inr rfl)
        ⟨[], line.trans (List.append_nil _).symm, nofun⟩) .ticker
    · exact alert
  | shutdown =>
    rcases kept .shutdown not_false nofun with ⟨running, line⟩
    exact IsAlert.wake (alert.wakeLoop (accounted .shutdown) running line) .ticker
  | trigger reason =>
    rcases kept (.request reason) not_false nofun with ⟨running, line⟩
    exact alert.wakeLoop (accounted (.request reason)) running line
  | call reason =>
    refine alert.wakeAfter (accounted (.call reason)) rfl (fun called => Or.inl ?_)
      ⟨_, rfl, fun demand member => by rw [List.mem_singleton.mp member]⟩
    rw [Coordinator.isCalled_iff] at called ⊢
    exact called
  | release permits => exact alert.permit permits
  | upsert flight =>
    rcases kept (.upsert flight) not_false nofun with ⟨running, line⟩
    exact alert.wakeLoop (accounted (.upsert flight)) running line
  | replace flights =>
    rcases kept (.replace flights) not_false nofun with ⟨running, line⟩
    exact alert.wakeLoop (accounted (.replace flights)) running line
  | remove name =>
    rcases kept (.remove name) not_false nofun with ⟨running, line⟩
    exact alert.wakeLoop (accounted (.remove name)) running line
  | attach =>
    have same := Coordinator.attach_eq simulation.coordinator
    exact alert.withSameRequests (accounted .attach) (congrArg (·.running) same)
      (congrArg (·.line) same) (congrArg (·.loop) same) (congrArg (·.stopping) same)
      (congrArg (·.requests) same)
  | setFile content =>
    have same := simulation.coordinator.setFile_eq content
    exact alert.withSameRequests (accounted (.setFile content)) (congrArg (·.running) same)
      (congrArg (·.line) same) (congrArg (·.loop) same) (congrArg (·.stopping) same)
      (congrArg (·.requests) same)
  | search pair given =>
    exact alert.withSameRequests (accounted (.search pair given)) rfl rfl rfl rfl rfl
  | invalidate => exact alert.withSameRequests (accounted .invalidate) rfl rfl rfl rfl rfl
  | _ => exact alert.of_same rfl rfl rfl rfl fun _ _ member => member

/-! ## The clock -/

/-- Whoever has set an alarm is awake when it has rung. -/
theorem foldl_wake (alarms : List Alarm) (simulation : Simulation) :
    ∃ ready, alarms.foldl (fun rung alarm => rung.wake alarm.agent) simulation =
        { simulation with ready := ready } ∧
      (∀ agent ∈ simulation.ready, agent ∈ ready) ∧ ∀ alarm ∈ alarms, alarm.agent ∈ ready := by
  induction alarms generalizing simulation with
  | nil => exact ⟨simulation.ready, rfl, fun _ member => member, nofun⟩
  | cons alarm rest inductionHypothesis =>
    rcases inductionHypothesis (simulation.wake alarm.agent) with ⟨ready, same, kept, rung⟩
    refine ⟨ready, ?_, ?_, ?_⟩
    · rw [List.foldl_cons, same, wake_eq]
    · exact fun agent member => kept agent (mem_wake_of_mem _ _ member)
    · intro other member
      rcases List.mem_cons.mp member with first | later
      · rw [first]
        exact kept _ (mem_wake _ _)
      · exact rung other later

theorem ring_eq (simulation : Simulation) :
    ∃ ready, simulation.ring =
        { simulation with
          alarms := simulation.alarms.filter fun alarm => !decide (alarm.due ≤ simulation.clock)
          ready := ready } ∧
      (∀ agent ∈ simulation.ready, agent ∈ ready) ∧
      ∀ alarm ∈ simulation.alarms, alarm.due ≤ simulation.clock → alarm.agent ∈ ready := by
  rcases foldl_wake (simulation.alarms.filter fun alarm => alarm.due ≤ simulation.clock)
    { simulation with
      alarms := simulation.alarms.filter fun alarm => !decide (alarm.due ≤ simulation.clock) } with
    ⟨ready, same, kept, rung⟩
  refine ⟨ready, ?_, kept, fun alarm member due => ?_⟩
  · unfold ring
    rw [List.partition_eq_filter_filter]
    exact same
  · exact rung alarm (List.mem_filter.mpr ⟨member, decide_eq_true due⟩)

/-- The clock does not go past the next alarm, so that whoever is to look after a read is
woken in time. -/
theorem IsWatched.later (watched : simulation.IsWatched [] rebuild reading)
    (rests : simulation.Rests reading) (goesOn : simulation.clock ≤ next.clock)
    (conditions : next.conditions = simulation.conditions)
    (ordered : ∀ alarm ∈ simulation.alarms, simulation.clock < alarm.due → next.clock ≤ alarm.due)
    (kept : ∀ alarm ∈ simulation.alarms, next.clock < alarm.due → alarm ∈ next.alarms)
    (rung : ∀ alarm ∈ simulation.alarms, simulation.clock < alarm.due → alarm.due ≤ next.clock →
      alarm.agent ∈ awake) : next.IsWatched awake rebuild reading := by
  have givesUp := watched.givesUp rests.inTime
  refine ⟨watched.reads, watched.warms, ordered _ givesUp rests.inTime, ?_, kept _ givesUp, ?_, ?_⟩
  · intro fetching
    rcases rests.waits with ⟨⟨_, stage⟩, _⟩ | ⟨_, stage, _⟩ <;> cases fetching.symm.trans stage
  · intro wakes asleep early
    exact kept _ (watched.wakesUp wakes asleep (Nat.lt_of_le_of_lt goesOn early)) early
  · by_cases late : reading.deadline ≤ next.clock
    · exact Or.inl (rung _ givesUp rests.inTime late)
    · rcases rests.waits with ⟨shut, permits⟩ | ⟨wakes, asleep, early⟩
      · exact Or.inr ⟨Nat.lt_of_not_le late, Or.inl ⟨shut, conditions ▸ permits⟩⟩
      · by_cases passed : wakes ≤ next.clock
        · exact Or.inl (rung _ (watched.wakesUp wakes asleep early) early passed)
        · exact Or.inr
            ⟨Nat.lt_of_not_le late, Or.inr ⟨wakes, asleep, Nat.lt_of_not_le passed⟩⟩

/-- What there is to show when the clock has gone on. -/
theorem IsAlert.later (alert : simulation.IsAlert [])
    (coordinator : next.coordinator = simulation.coordinator)
    (reading : next.reading = simulation.reading)
    (watched : ∀ rebuild read, simulation.IsWatched [] rebuild read → simulation.Rests read →
      next.IsWatched awake rebuild read) : next.IsAlert awake := by
  refine ⟨?_, ?_, ?_, ?_, ?_⟩ <;> rw [coordinator]
  · exact alert.accounted
  · exact fun called => absurd (alert.heeds called) List.not_mem_nil
  · exact fun idle => reading.trans (alert.unread idle)
  · exact fun idle demand line waiting =>
      absurd (alert.first idle demand line waiting) List.not_mem_nil
  · intro rebuild busy
    rcases alert.rests busy with ⟨read, found, before, rests⟩
    exact ⟨read, reading.trans found, watched rebuild read before rests⟩

/-- When the clock goes on from a standstill, everybody is awake for whom that is the
moment to act. -/
theorem IsAlert.tickUpTo (alert : simulation.IsAlert []) (still : simulation.ready = [])
    (upTo : Nat) : (simulation.tickUpTo upTo).IsAlert (simulation.tickUpTo upTo).ready := by
  unfold Simulation.tickUpTo
  split
  · rename_i due found
    rcases nextAlarm?_eq_some found with ⟨later, _, ordered⟩
    rcases ring_eq { simulation with clock := due } with ⟨ready, same, _, rung⟩
    rw [same]
    refine alert.later rfl rfl fun rebuild read watched rests => ?_
    refine watched.later rests (Nat.le_of_lt later) rfl ordered ?_ ?_
    · intro alarm member early
      refine List.mem_filter.mpr ⟨member, ?_⟩
      rw [decide_eq_false (Nat.not_le_of_lt early)]
      rfl
    · exact fun alarm member _ passed => rung alarm member passed
  · rename_i silent
    rw [still]
    refine alert.later rfl rfl fun rebuild read watched rests => ?_
    have quiet : ∀ alarm ∈ simulation.alarms, simulation.clock < alarm.due →
        max simulation.clock upTo < alarm.due := fun alarm member early =>
      Nat.max_lt.mpr ⟨early, nextAlarm?_eq_none silent member early⟩
    refine watched.later rests (Nat.le_max_left _ _) rfl
      (fun alarm member early => Nat.le_of_lt (quiet alarm member early))
      (fun _ member _ => member) ?_
    exact fun alarm member early passed =>
      absurd (quiet alarm member early) (Nat.not_lt_of_le passed)

/-! ## Runs -/

theorem IsAlert.happen (alert : simulation.IsAlert simulation.ready) (happening : Happening) :
    (simulation.happen happening).IsAlert (simulation.happen happening).ready := by
  cases happening with
  | turn => exact alert.turn
  | intervention intervention =>
    rw [Simulation.happen]
    split
    · exact alert.intervene intervention
    · exact alert
  | clock upTo =>
    rw [Simulation.happen]
    split
    · rename_i still
      rw [still] at alert
      exact alert.tickUpTo still upTo
    · exact alert

end

theorem isAlert_ofEngine (engine : Engine) (inventory : Inventory) :
    (ofEngine engine inventory).IsAlert (ofEngine engine inventory).ready where
  accounted := .initial engine inventory
  heeds called := nomatch ((Coordinator.isCalled_iff _).mp called).1
  unread _ := rfl
  first _ _ _ waiting := nomatch waiting
  watched _ busy := nomatch busy

/-- Whatever happens, whoever could act is awake. -/
theorem isAlert_run (engine : Engine) (inventory : Inventory) (happenings : List Happening) :
    ((ofEngine engine inventory).run happenings).IsAlert
      ((ofEngine engine inventory).run happenings).ready := by
  induction happenings using List.reverseRecOn with
  | nil => exact isAlert_ofEngine engine inventory
  | append_singleton happenings last inductionHypothesis =>
    rw [run_append]
    exact inductionHypothesis.happen last

end Simulation
end Rebuild
end Itineraries
