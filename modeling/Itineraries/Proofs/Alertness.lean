import Itineraries.Proofs.Happenings

namespace Itineraries
namespace Rebuild

/-!
# Nobody sleeps through their turn

At a standstill nobody can act.  That must not mean that somebody could act and has not
been woken.  The loop must be woken when there is a signal for it, the first in the line
when no rebuild is in progress, and whoever runs a rebuild when its read has come to its
end or is to be given up.

A read is the only thing that is waited for, and while it is, an alarm is set for the
moment at which it is given up.
-/

namespace Coordinator

/-- There is something to do for a loop that waits at its queue. -/
def IsCalled (coordinator : Coordinator) : Prop :=
  coordinator.canTake = true ∨ coordinator.canLeave = true

theorem isCalled_iff (coordinator : Coordinator) :
    coordinator.IsCalled ↔ coordinator.loop = .atQueue ∧
      (coordinator.stopping = true ∨
        coordinator.requests.isOpen = true ∧ coordinator.requests.signal.isSome = true) := by
  have received : coordinator.requests.receive.1.isSome = true ↔
      coordinator.requests.isOpen = true ∧ coordinator.requests.signal.isSome = true := by
    unfold Requests.receive
    split
    · rename_i isOpen
      exact ⟨fun queued => ⟨isOpen, queued⟩, fun both => both.2⟩
    · rename_i closed
      exact iff_of_false Bool.false_ne_true fun both => closed both.1
  simp only [IsCalled, canTake, canLeave, Bool.and_eq_true, decide_eq_true_eq, Bool.not_eq_true',
    received]
  cases coordinator.stopping <;> simp

theorem take_of_canTake {coordinator : Coordinator} (taking : coordinator.canTake = true) :
    ∃ reason, coordinator.take =
      { coordinator with
        requests := { coordinator.requests with signal := none }
        line := coordinator.line ++ [⟨.loop, reason, coordinator.requests.issued⟩]
        loop := .busy } := by
  rw [canTake, Bool.and_eq_true, Bool.and_eq_true, decide_eq_true_eq, Bool.not_eq_true'] at taking
  rcases taking with ⟨⟨waiting, goesOn⟩, received⟩
  have isOpen : coordinator.requests.isOpen = true := by
    by_contra closed
    rw [Requests.receive, if_neg closed] at received
    cases received
  rw [Requests.receive_of_isOpen isOpen] at received
  rcases Option.isSome_iff_exists.mp received with ⟨reason, queued⟩
  refine ⟨reason, ?_⟩
  change coordinator.requests.signal = some reason at queued
  rw [take, if_pos ⟨waiting, Bool.not_eq_true _ ▸ goesOn⟩, Requests.receive_of_isOpen isOpen,
    queued]

theorem Accounted.not_isCalled {coordinator : Coordinator} (accounted : coordinator.Accounted)
    {demand : Demand} (waits : demand ∈ coordinator.demands) (holder : demand.holder = .loop) :
    ¬coordinator.IsCalled := by
  intro called
  have once := accounted.loop_once
  have counted : 0 < coordinator.demands.countP (·.holder = .loop) :=
    List.countP_pos_iff.mpr ⟨demand, waits, decide_eq_true holder⟩
  rw [((isCalled_iff coordinator).mp called).1, if_neg nofun] at once
  exact absurd once (Nat.ne_of_gt counted)

theorem Accounted.run_of {coordinator : Coordinator} (accounted : coordinator.Accounted)
    (moves : List Move) : (coordinator.run moves).Accounted :=
  run_induction accounted fun _ _ _ _ before step => before.step step

/-- Whoever leaves the line or ends a rebuild calls at most the loop to its queue, and
only if it is the loop that leaves. -/
theorem isCalled_of_departed (coordinator : Coordinator) {next : Coordinator} (holder : Holder)
    (called : next.IsCalled) (loop : next.loop = coordinator.phaseAfter holder)
    (stopping : next.stopping = coordinator.stopping)
    (isOpen : next.requests.isOpen = coordinator.requests.isOpen)
    (signal : next.requests.signal = coordinator.requests.signal) :
    holder = .loop ∨ coordinator.IsCalled := by
  cases holder with
  | loop => exact Or.inl rfl
  | caller number =>
    rw [isCalled_iff, loop, stopping, isOpen, signal] at called
    exact Or.inr ((isCalled_iff coordinator).mpr called)

/-- The first in the line gets the outcome of the last rebuild, or a rebuild begins for
them. -/
theorem serveFirst_cases {coordinator : Coordinator} {demand : Demand} {line : List Demand}
    (idle : coordinator.running = none) (waiting : coordinator.line = demand :: line) :
    (∃ result,
      coordinator.serveFirst =
        { coordinator with
          line := line
          requests :=
            { coordinator.requests with coalesced := coordinator.requests.coalesced + 1 }
          loop := coordinator.phaseAfter demand.holder
          answers := coordinator.answersAfter demand.holder result }) ∨
    coordinator.serveFirst =
      { coordinator with
        line := line
        running := some { demand := demand, covers := coordinator.requests.issued }
        begun := max coordinator.begun coordinator.requests.issued
        reads := coordinator.reads + 1 } := by
  unfold serveFirst
  rw [idle, waiting]
  dsimp only
  split
  · rename_i result _
    rw [deliver_eq]
    exact Or.inl ⟨result, rfl⟩
  · exact Or.inr rfl

theorem attach_eq (coordinator : Coordinator) :
    coordinator.attach = { coordinator with inventory := coordinator.attach.inventory } := by
  unfold attach changeMemory
  split <;> rfl

theorem setFile_eq (coordinator : Coordinator) (content : FileContent) :
    coordinator.setFile content =
      { coordinator with inventory := (coordinator.setFile content).inventory } := by
  unfold setFile
  split <;> rfl

end Coordinator

namespace Simulation

/-- A read that still has to wait, and is not given up yet. -/
structure Rests (simulation : Simulation) (reading : Reading) : Prop where
  inTime : simulation.clock < reading.deadline
  waits : (∃ delay, reading.stage = .atGate delay) ∧ simulation.conditions.permits = 0 ∨
    ∃ wakes, reading.stage = .asleep wakes ∧ simulation.clock < wakes

/-- Whoever runs a rebuild looks after its read, or is woken when there is something to
look after. -/
structure IsWatched (simulation : Simulation) (awake : List Agent) (rebuild : Running)
    (reading : Reading) : Prop where
  reads : reading.stage ≠ .warming → rebuild.progress = .reading
  warms : reading.stage = .warming → ∃ outcome, rebuild.progress = .decided outcome
  inTime : simulation.clock ≤ reading.deadline
  fetches : reading.stage = .fetching → simulation.clock < reading.deadline
  givesUp : simulation.clock < reading.deadline →
    ⟨reading.deadline, .holder rebuild.demand.holder⟩ ∈ simulation.alarms
  wakesUp : ∀ wakes, reading.stage = .asleep wakes → simulation.clock < wakes →
    ⟨wakes, .holder rebuild.demand.holder⟩ ∈ simulation.alarms
  awake : .holder rebuild.demand.holder ∈ awake ∨ simulation.Rests reading

/-- Whoever could act is awake. -/
structure IsAlert (simulation : Simulation) (awake : List Agent) : Prop where
  accounted : simulation.coordinator.Accounted
  heeds : simulation.coordinator.IsCalled → .holder .loop ∈ awake
  unread : simulation.coordinator.running = none → simulation.reading = none
  first : simulation.coordinator.running = none → ∀ demand line,
    simulation.coordinator.line = demand :: line → .holder demand.holder ∈ awake
  watched : ∀ rebuild, simulation.coordinator.running = some rebuild →
    ∃ reading, simulation.reading = some reading ∧ simulation.IsWatched awake rebuild reading

/-- Whoever could act after an act is awake. -/
def Act.IsAlert (agent : Agent) : Act → Prop
  | goOn next => next.IsAlert (agent :: next.ready)
  | yield next => next.IsAlert (agent :: next.ready)
  | rest next => next.IsAlert next.ready

section

variable {simulation next : Simulation} {awake : List Agent} {rebuild : Running}
  {reading : Reading} {agent : Agent} {holder : Holder}

theorem IsWatched.mono (watched : simulation.IsWatched awake rebuild reading)
    {more : List Agent} (woken : ∀ agent ∈ awake, agent ∈ more) :
    simulation.IsWatched more rebuild reading :=
  { watched with awake := watched.awake.imp_left (woken _) }

theorem IsAlert.mono (alert : simulation.IsAlert awake) {more : List Agent}
    (woken : ∀ agent ∈ awake, agent ∈ more) : simulation.IsAlert more where
  accounted := alert.accounted
  heeds called := woken _ (alert.heeds called)
  unread := alert.unread
  first idle demand line waiting := woken _ (alert.first idle demand line waiting)
  watched rebuild running := by
    rcases alert.watched rebuild running with ⟨reading, read, watched⟩
    exact ⟨reading, read, watched.mono woken⟩

/-- At a standstill a read in progress still has to wait. -/
theorem IsAlert.rests (alert : simulation.IsAlert [])
    (running : simulation.coordinator.running = some rebuild) :
    ∃ reading, simulation.reading = some reading ∧
      simulation.IsWatched [] rebuild reading ∧ simulation.Rests reading := by
  rcases alert.watched rebuild running with ⟨reading, read, watched⟩
  exact ⟨reading, read, watched, watched.awake.resolve_left List.not_mem_nil⟩

theorem Rests.stage_ne_warming (rests : simulation.Rests reading) :
    reading.stage ≠ .warming := by
  rcases rests.waits with ⟨⟨_, stage⟩, _⟩ | ⟨_, stage, _⟩ <;> rw [stage] <;> nofun

/-- A simulation at a standstill has a coordinator at a standstill. -/
theorem IsAlert.atStandstill (alert : simulation.IsAlert []) :
    simulation.coordinator.AtStandstill where
  take := by
    have uncalled : ¬simulation.coordinator.canTake = true :=
      fun called => List.not_mem_nil (alert.heeds (Or.inl called))
    unfold Coordinator.take
    split
    · rename_i free
      rcases received : simulation.coordinator.requests.receive with ⟨_ | reason, requests⟩
      · rfl
      · refine absurd ?_ uncalled
        simp [Coordinator.canTake, free.1, free.2, received]
    · rfl
  leave := by
    have uncalled : ¬simulation.coordinator.canLeave = true :=
      fun called => List.not_mem_nil (alert.heeds (Or.inr called))
    unfold Coordinator.leave
    rw [if_neg]
    intro free
    simp [Coordinator.canLeave, free.1, free.2] at uncalled
  serveFirst := by
    unfold Coordinator.serveFirst
    split
    · rename_i demand line idle waiting
      exact absurd (alert.first idle demand line waiting) List.not_mem_nil
    · rfl
  finish := by
    cases running : simulation.coordinator.running with
    | none =>
      unfold Coordinator.finish
      rw [running]
    | some rebuild =>
      rcases alert.rests running with ⟨reading, _, watched, rests⟩
      have progress := watched.reads rests.stage_ne_warming
      rcases rebuild with ⟨demand, covers, progress'⟩
      subst progress
      unfold Coordinator.finish
      rw [running]

/-! ## Acts upon a read -/

theorem mem_wake (simulation : Simulation) (agent : Agent) :
    agent ∈ (simulation.wake agent).ready := by
  unfold wake
  split
  · assumption
  · exact List.mem_append_right _ List.mem_cons_self

theorem mem_wake_of_mem (simulation : Simulation) (agent : Agent) {other : Agent}
    (member : other ∈ simulation.ready) : other ∈ (simulation.wake agent).ready := by
  unfold wake
  split
  · exact member
  · exact List.mem_append_left _ member

theorem mem_wakeNext_of_mem {other : Agent} (member : other ∈ simulation.ready) :
    other ∈ simulation.wakeNext.ready := by
  unfold wakeNext
  split
  · exact mem_wake_of_mem _ _ member
  · exact member

theorem mem_wakeNext {demand : Demand} {line : List Demand}
    (waiting : simulation.coordinator.line = demand :: line) :
    .holder demand.holder ∈ simulation.wakeNext.ready := by
  unfold wakeNext
  rw [waiting]
  exact mem_wake _ _

theorem isAlert_wakeNext (simulation : Simulation)
    (accounted : simulation.coordinator.Accounted)
    (heeds : simulation.coordinator.IsCalled → .holder .loop ∈ agent :: simulation.ready)
    (idle : simulation.coordinator.running = none) (unread : simulation.reading = none) :
    simulation.wakeNext.IsAlert (agent :: simulation.wakeNext.ready) := by
  have woken : ∀ other ∈ agent :: simulation.ready,
      other ∈ agent :: simulation.wakeNext.ready := by
    intro other member
    rcases List.mem_cons.mp member with same | member
    · exact List.mem_cons.mpr (Or.inl same)
    · exact List.mem_cons_of_mem _ (mem_wakeNext_of_mem member)
  have coordinator : simulation.wakeNext.coordinator = simulation.coordinator := by
    rw [wakeNext_eq]
  refine ⟨?_, ?_, ?_, ?_, ?_⟩
  · rw [coordinator]
    exact accounted
  · rw [coordinator]
    exact fun called => woken _ (heeds called)
  · rw [wakeNext_eq]
    exact fun _ => unread
  · rw [coordinator]
    exact fun _ demand line waiting => List.mem_cons_of_mem _ (mem_wakeNext waiting)
  · rw [coordinator, idle]
    nofun

/-- Who is awake to hear the loop called still is when somebody has left the line. -/
theorem heeds_of_departed {demand : Demand} {next : Coordinator}
    (heeds : simulation.coordinator.IsCalled →
      .holder .loop ∈ Agent.holder demand.holder :: simulation.ready)
    (departed : next.IsCalled → demand.holder = .loop ∨ simulation.coordinator.IsCalled)
    (called : next.IsCalled) : .holder .loop ∈ Agent.holder demand.holder :: simulation.ready := by
  rcases departed called with same | before
  · rw [same]
    exact List.mem_cons_self
  · exact heeds before

theorem isAlert_endRebuild (simulation : Simulation) {demand : Demand} {covers : Nat}
    {outcome : Except Fault (Snapshot × Nat)} (accounted : simulation.coordinator.Accounted)
    (heeds : simulation.coordinator.IsCalled →
      .holder .loop ∈ Agent.holder demand.holder :: simulation.ready)
    (decided : simulation.coordinator.running = some ⟨demand, covers, .decided outcome⟩) :
    (simulation.endRebuild (.holder demand.holder)).IsAlert
      (.holder demand.holder :: (simulation.endRebuild (.holder demand.holder)).ready) := by
  have departed : simulation.coordinator.finish.IsCalled →
      demand.holder = .loop ∨ simulation.coordinator.IsCalled := by
    rw [Coordinator.finish_of_decided decided]
    exact fun called =>
      simulation.coordinator.isCalled_of_departed demand.holder called rfl rfl rfl rfl
  have heard := heeds_of_departed heeds departed
  refine isAlert_wakeNext _ (accounted.run_of [.finish]) heard ?_ rfl
  change simulation.coordinator.finish.running = none
  rw [Coordinator.finish_of_decided decided]

/-- What there is to show while a rebuild is in progress. -/
theorem IsAlert.of_busy (accounted : simulation.coordinator.Accounted)
    (heeds : simulation.coordinator.IsCalled → .holder .loop ∈ awake)
    (busy : simulation.coordinator.running = some rebuild)
    (read : simulation.reading = some reading)
    (watched : simulation.IsWatched awake rebuild reading) : simulation.IsAlert awake where
  accounted := accounted
  heeds := heeds
  unread idle := nomatch busy.symm.trans idle
  first idle := nomatch busy.symm.trans idle
  watched other running := by
    cases busy.symm.trans running
    exact ⟨reading, read, watched⟩

theorem isCalled_endRead (coordinator : Coordinator) (readEnd : ReadEnd) :
    (coordinator.endRead readEnd).IsCalled ↔ coordinator.IsCalled := by
  unfold Coordinator.endRead
  split
  · exact Iff.rfl
  · exact Iff.rfl

theorem running_endRead {coordinator : Coordinator} {demand : Demand} {covers : Nat}
    (reading : coordinator.running = some ⟨demand, covers, .reading⟩) (readEnd : ReadEnd) :
    (coordinator.endRead readEnd).running =
      some ⟨demand, covers, .decided (coordinator.outcomeOf readEnd)⟩ := by
  rw [Coordinator.endRead, reading]

section

variable {demand : Demand} {covers : Nat} {progress : Progress}
  (alert : simulation.IsAlert (.holder demand.holder :: simulation.ready))
  (busy : simulation.coordinator.running = some ⟨demand, covers, progress⟩)

include alert busy

theorem isAlert_giveUp (reads : progress = .reading) (readEnd : ReadEnd) :
    (Act.goOn (simulation.giveUp (.holder demand.holder) readEnd)).IsAlert
      (.holder demand.holder) := by
  subst reads
  refine isAlert_endRebuild
    { simulation with coordinator := simulation.coordinator.endRead readEnd }
    (alert.accounted.run_of [.endRead readEnd]) (fun called => ?_) (running_endRead busy readEnd)
  exact alert.heeds ((isCalled_endRead _ _).mp called)

variable (watched : simulation.IsWatched (.holder demand.holder :: simulation.ready)
  ⟨demand, covers, progress⟩ reading)

include watched

theorem isAlert_actLoaded (unwarmed : reading.stage ≠ .warming) :
    (simulation.actLoaded reading (.holder demand.holder)).IsAlert (.holder demand.holder) := by
  have reads := watched.reads unwarmed
  unfold actLoaded
  dsimp only
  split
  · subst reads
    refine .of_busy (alert.accounted.run_of [.endRead .loaded])
      (fun called => alert.heeds ((isCalled_endRead _ _).mp called)) (running_endRead busy .loaded)
      rfl ?_
    exact ⟨absurd rfl, fun _ => ⟨_, rfl⟩, watched.inTime, nofun, watched.givesUp, nofun,
      Or.inl List.mem_cons_self⟩
  · exact isAlert_giveUp alert busy reads .loaded

theorem isAlert_actReady (stage : reading.stage = .ready) :
    (simulation.actReady reading (.holder demand.holder)).IsAlert (.holder demand.holder) := by
  have unwarmed : reading.stage ≠ .warming := by rw [stage]; nofun
  have reads := watched.reads unwarmed
  unfold actReady
  split
  · exact isAlert_giveUp alert busy reads _
  · split
    · split
      · exact isAlert_giveUp alert busy reads .timedOut
      · rename_i early
        refine .of_busy alert.accounted alert.heeds busy rfl ?_
        exact ⟨fun _ => reads, nofun, watched.inTime, fun _ => Nat.lt_of_not_le early,
          watched.givesUp, nofun, Or.inl List.mem_cons_self⟩
    · exact isAlert_actLoaded alert busy watched unwarmed

variable (read : simulation.reading = some reading)

include read

/-- A read that waits is given up in time, and until then its alarms are set. -/
theorem isAlert_actWaiting
    (waits : (∃ delay, reading.stage = .atGate delay) ∧ simulation.conditions.permits = 0 ∨
      ∃ wakes, reading.stage = .asleep wakes ∧ simulation.clock < wakes) :
    (simulation.actWaiting reading (.holder demand.holder)).IsAlert (.holder demand.holder) := by
  unfold actWaiting
  split
  · refine isAlert_giveUp alert busy (watched.reads ?_) .timedOut
    rcases waits with ⟨⟨_, stage⟩, _⟩ | ⟨_, stage, _⟩ <;> rw [stage] <;> nofun
  · rename_i early
    have rests : simulation.Rests reading := ⟨Nat.lt_of_not_le early, waits⟩
    refine .of_busy alert.accounted (fun called => ?_) busy read
      { watched with awake := Or.inr rests }
    rcases List.mem_cons.mp (alert.heeds called) with first | member
    · have waiting : demand ∈ simulation.coordinator.demands := by
        rw [Coordinator.demands_of_running busy]
        exact List.mem_cons_self
      exact absurd called (alert.accounted.not_isCalled waiting (Agent.holder.inj first).symm)
    · exact member

/-- Whoever runs a rebuild does what there is to do about its read. -/
theorem isAlert_actReading :
    (simulation.actReading reading (.holder demand.holder)).IsAlert (.holder demand.holder) := by
  unfold actReading
  split
  · rename_i delay stage
    have reads := watched.reads (by rw [stage]; nofun)
    split
    · rename_i permits _
      dsimp only
      rw [passGate_eq]
      refine .of_busy alert.accounted alert.heeds busy rfl ?_
      refine ⟨fun _ => reads, ?_, watched.inTime, ?_,
        fun early => List.mem_append_left _ (watched.givesUp early), ?_,
        Or.inl List.mem_cons_self⟩
      · dsimp only [afterGate]
        split <;> nofun
      · dsimp only [afterGate]
        split <;> nofun
      · intro wakes asleep _
        dsimp only [afterGate] at asleep
        by_cases immediate : delay = 0
        · rw [if_pos immediate] at asleep
          cases asleep
        · rw [if_neg immediate] at asleep
          cases asleep
          refine List.mem_append_right _ ?_
          rw [if_neg immediate]
          exact List.mem_cons_self
    · rename_i shut
      exact isAlert_actWaiting alert busy watched read (Or.inl ⟨⟨delay, stage⟩, shut⟩)
  · rename_i wakes stage
    have reads := watched.reads (by rw [stage]; nofun)
    split
    · refine .of_busy alert.accounted alert.heeds busy rfl ?_
      exact ⟨fun _ => reads, nofun, watched.inTime, nofun, watched.givesUp, nofun,
        Or.inl List.mem_cons_self⟩
    · rename_i early
      exact isAlert_actWaiting alert busy watched read
        (Or.inr ⟨wakes, stage, Nat.lt_of_not_le early⟩)
  · rename_i stage
    exact isAlert_actReady alert busy watched stage
  · rename_i stage
    exact isAlert_actLoaded alert busy watched (by rw [stage]; nofun)
  · rename_i stage
    rcases watched.warms stage with ⟨outcome, decided⟩
    change progress = _ at decided
    subst decided
    exact isAlert_endRebuild simulation alert.accounted alert.heeds busy

end

/-! ## Other acts -/

/-- The first in the line either begins a rebuild, with the alarms for its read, or makes
room for the next. -/
theorem isAlert_actFirst {demand : Demand} {line : List Demand}
    (alert : simulation.IsAlert (.holder demand.holder :: simulation.ready))
    (idle : simulation.coordinator.running = none)
    (waiting : simulation.coordinator.line = demand :: line) :
    (simulation.actFirst (.holder demand.holder)).IsAlert (.holder demand.holder) := by
  have accounted : simulation.coordinator.serveFirst.Accounted :=
    alert.accounted.run_of [.serveFirst]
  unfold actFirst
  dsimp only
  rcases Coordinator.serveFirst_cases idle waiting with ⟨result, served⟩ | served
  · have still : simulation.coordinator.serveFirst.running = none := by
      rw [served]
      exact idle
    have departed : simulation.coordinator.serveFirst.IsCalled →
        demand.holder = .loop ∨ simulation.coordinator.IsCalled := by
      rw [served]
      exact fun called =>
        simulation.coordinator.isCalled_of_departed demand.holder called rfl rfl rfl rfl
    have heard := heeds_of_departed alert.heeds departed
    rw [if_neg (by rw [still]; nofun)]
    exact isAlert_wakeNext _ accounted heard still (alert.unread idle)
  · have busy : simulation.coordinator.serveFirst.running =
        some ⟨demand, simulation.coordinator.requests.issued, .reading⟩ := by rw [served]
    have called : simulation.coordinator.serveFirst.IsCalled → simulation.coordinator.IsCalled := by
      rw [served]
      exact id
    rw [if_pos (by rw [busy]; rfl), beginRead_eq]
    refine .of_busy accounted (fun before => alert.heeds (called before)) busy rfl ?_
    refine ⟨fun _ => rfl, ?_, Nat.le_add_right _ _, ?_,
      fun _ => List.mem_append_right _ List.mem_cons_self, ?_, Or.inl List.mem_cons_self⟩
    · dsimp only [afterGate]
      repeat' split
      all_goals nofun
    · dsimp only [afterGate]
      repeat' split
      all_goals nofun
    · intro wakes asleep _
      dsimp only [afterGate] at asleep
      by_cases closed : simulation.conditions.gateClosed = true
      · rw [if_pos closed] at asleep
        cases asleep
      · by_cases immediate : simulation.conditions.delay = 0
        · rw [if_neg closed, if_pos immediate] at asleep
          cases asleep
        · rw [if_neg closed, if_neg immediate] at asleep
          cases asleep
          refine List.mem_append_left _ (List.mem_append_right _ ?_)
          dsimp only
          rw [if_neg (not_or.mpr ⟨closed, immediate⟩)]
          exact List.mem_cons_self

/-- A move by which no rebuild begins or ends leaves a read to whoever looks after it. -/
theorem IsAlert.withCoordinator (alert : simulation.IsAlert awake) {coordinator : Coordinator}
    (accounted : coordinator.Accounted)
    (running : coordinator.running = simulation.coordinator.running) {more : List Agent}
    (woken : ∀ agent ∈ awake, agent ∈ more)
    (heeds : coordinator.IsCalled → .holder .loop ∈ more)
    (first : coordinator.running = none → ∀ demand line, coordinator.line = demand :: line →
      simulation.coordinator.line = [] → .holder demand.holder ∈ more)
    (grows : ∃ line, coordinator.line = simulation.coordinator.line ++ line) :
    (simulation.withCoordinator coordinator).IsAlert more where
  accounted := accounted
  heeds := heeds
  unread idle := alert.unread (running.symm.trans idle)
  first idle demand line waiting := by
    cases before : simulation.coordinator.line with
    | nil => exact first idle demand line waiting before
    | cons earlier rest =>
      rcases grows with ⟨added, same⟩
      change coordinator.line = _ at waiting
      rw [same, before, List.cons_append] at waiting
      rw [← (List.cons.inj waiting).1]
      exact woken _ (alert.first (running.symm.trans idle) earlier rest before)
  watched rebuild busy := by
    rcases alert.watched rebuild (running.symm.trans busy) with ⟨reading, read, watched⟩
    exact ⟨reading, read,
      { watched with
        awake := watched.awake.imp (woken _) fun rests => ⟨rests.inTime, rests.waits⟩ }⟩

theorem IsAlert.drop (alert : simulation.IsAlert (agent :: awake))
    (uncalled : agent = .holder .loop → ¬simulation.coordinator.IsCalled)
    (notFirst : simulation.coordinator.running = none → ∀ demand line,
      simulation.coordinator.line = demand :: line → .holder demand.holder ≠ agent)
    (notBusy : ∀ rebuild, simulation.coordinator.running = some rebuild →
      .holder rebuild.demand.holder ≠ agent) : simulation.IsAlert awake where
  accounted := alert.accounted
  heeds called := (List.mem_cons.mp (alert.heeds called)).resolve_left
    fun same => uncalled same.symm called
  unread := alert.unread
  first idle demand line waiting :=
    (List.mem_cons.mp (alert.first idle demand line waiting)).resolve_left
      (notFirst idle demand line waiting)
  watched rebuild busy := by
    rcases alert.watched rebuild busy with ⟨reading, read, watched⟩
    refine ⟨reading, read, { watched with awake := watched.awake.imp_left fun member => ?_ }⟩
    exact (List.mem_cons.mp member).resolve_left (notBusy rebuild busy)

theorem isAlert_actAtQueue (alert : simulation.IsAlert (.holder .loop :: simulation.ready))
    (notFirst : simulation.coordinator.running = none → ∀ demand line,
      simulation.coordinator.line = demand :: line → .holder demand.holder ≠ Agent.holder .loop)
    (notBusy : ∀ rebuild, simulation.coordinator.running = some rebuild →
      .holder rebuild.demand.holder ≠ Agent.holder .loop) :
    simulation.actAtQueue.IsAlert (.holder .loop) := by
  unfold actAtQueue
  split
  · rename_i leaving
    have left : simulation.coordinator.leave =
        { simulation.coordinator with
          requests := simulation.coordinator.requests.close
          loop := .ended } := by
      rw [Coordinator.canLeave, Bool.and_eq_true, decide_eq_true_eq] at leaving
      rw [Coordinator.leave, if_pos leaving]
    have uncalled : ¬simulation.coordinator.leave.IsCalled := by
      rw [left, Coordinator.isCalled_iff]
      intro called
      have waits : LoopPhase.ended = .atQueue := called.1
      cases waits
    have accounted : simulation.coordinator.leave.Accounted := alert.accounted.run_of [.leave]
    rw [left] at uncalled accounted ⊢
    refine IsAlert.drop (alert.withCoordinator accounted rfl (fun _ => id)
      (fun called => absurd called uncalled) ?_ ⟨[], (List.append_nil _).symm⟩)
      (fun _ => uncalled) notFirst notBusy
    intro _ demand line waiting none
    cases none.symm.trans waiting
  · split
    · have accounted : simulation.coordinator.take.Accounted := alert.accounted.run_of [.take]
      rename_i taking
      rcases Coordinator.take_of_canTake taking with ⟨reason, taken⟩
      rw [taken] at accounted ⊢
      refine alert.withCoordinator accounted rfl (fun _ => id) (fun _ => List.mem_cons_self) ?_
        ⟨_, rfl⟩
      intro _ demand line waiting none
      change simulation.coordinator.line ++ _ = _ at waiting
      rw [none, List.nil_append] at waiting
      rw [← (List.cons.inj waiting).1]
      exact List.mem_cons_self
    · rename_i staying going
      exact alert.drop (fun _ called => called.elim going staying) notFirst notBusy

theorem isAlert_actHolder (alert : simulation.IsAlert (.holder holder :: simulation.ready)) :
    (simulation.actHolder holder).IsAlert (.holder holder) := by
  have otherwise (notFirst : simulation.coordinator.running = none → ∀ demand line,
        simulation.coordinator.line = demand :: line → demand.holder ≠ holder)
      (notBusy : ∀ rebuild, simulation.coordinator.running = some rebuild →
        rebuild.demand.holder ≠ holder) :
      (if holder = .loop then simulation.actAtQueue else .rest simulation).IsAlert
        (.holder holder) := by
    have notFirst' := fun idle demand line waiting (same : Agent.holder _ = _) =>
      notFirst idle demand line waiting (Agent.holder.inj same)
    have notBusy' := fun rebuild busy (same : Agent.holder _ = _) =>
      notBusy rebuild busy (Agent.holder.inj same)
    split
    · rename_i isLoop
      subst isLoop
      exact isAlert_actAtQueue alert notFirst' notBusy'
    · rename_i other
      exact alert.drop (fun same => absurd (Agent.holder.inj same) other) notFirst' notBusy'
  unfold actHolder
  dsimp only
  split
  · rename_i rebuild reading busy read
    split
    · rename_i mine
      subst mine
      rcases alert.watched rebuild busy with ⟨other, found, watched⟩
      cases read.symm.trans found
      exact isAlert_actReading alert busy watched read
    · rename_i foreign
      refine otherwise (fun idle => nomatch busy.symm.trans idle) fun other running => ?_
      cases busy.symm.trans running
      exact foreign
  · rename_i demand line idle waiting
    split
    · rename_i mine
      subst mine
      exact isAlert_actFirst alert idle waiting
    · rename_i foreign
      refine otherwise (fun _ other rest first => ?_) fun _ running =>
        nomatch idle.symm.trans running
      cases waiting.symm.trans first
      exact foreign
  · rename_i unread empty
    refine otherwise (fun idle demand line waiting => (empty demand line idle waiting).elim) ?_
    intro rebuild busy
    rcases alert.watched rebuild busy with ⟨reading, read, _⟩
    exact (unread rebuild reading busy read).elim

/-- Whoever could act is awake as before if neither the coordinator nor a read has changed
and the alarms for reads are still set. -/
theorem IsAlert.of_same (alert : simulation.IsAlert awake)
    (coordinator : next.coordinator = simulation.coordinator)
    (clock : next.clock = simulation.clock) (reading : next.reading = simulation.reading)
    (permits : next.conditions.permits = simulation.conditions.permits)
    (alarms : ∀ due holder, ⟨due, .holder holder⟩ ∈ simulation.alarms →
      ⟨due, .holder holder⟩ ∈ next.alarms) : next.IsAlert awake := by
  refine ⟨?_, ?_, ?_, ?_, ?_⟩ <;> rw [coordinator]
  · exact alert.accounted
  · exact alert.heeds
  · exact fun idle => reading.trans (alert.unread idle)
  · exact alert.first
  · intro rebuild busy
    rcases alert.watched rebuild busy with ⟨read, found, watched⟩
    refine ⟨read, reading.trans found, watched.reads, watched.warms, ?_, ?_, ?_, ?_, ?_⟩
    · exact clock ▸ watched.inTime
    · exact clock ▸ watched.fetches
    · exact fun early => alarms _ _ (watched.givesUp (clock ▸ early))
    · exact fun wakes asleep early => alarms _ _ (watched.wakesUp wakes asleep (clock ▸ early))
    · refine watched.awake.imp_right fun rests => ⟨?_, ?_⟩
      · exact clock ▸ rests.inTime
      · rw [permits, clock]
        exact rests.waits

theorem heeds_wakeLoop (simulation : Simulation) (called : simulation.coordinator.IsCalled) :
    .holder .loop ∈ simulation.wakeLoop.ready := by
  unfold wakeLoop
  unfold Coordinator.IsCalled at called
  rw [if_pos called]
  exact mem_wake _ _

theorem mem_wakeLoop_of_mem (simulation : Simulation) {other : Agent}
    (member : other ∈ simulation.ready) : other ∈ simulation.wakeLoop.ready := by
  unfold wakeLoop
  split
  · exact mem_wake_of_mem _ _ member
  · exact member

theorem IsAlert.wakeLoop (alert : simulation.IsAlert simulation.ready)
    {coordinator : Coordinator} (accounted : coordinator.Accounted)
    (running : coordinator.running = simulation.coordinator.running)
    (line : coordinator.line = simulation.coordinator.line) :
    (simulation.withCoordinator coordinator).wakeLoop.IsAlert
      (simulation.withCoordinator coordinator).wakeLoop.ready := by
  have changed : (simulation.withCoordinator coordinator).IsAlert
      (simulation.withCoordinator coordinator).wakeLoop.ready := by
    refine alert.withCoordinator accounted running
      (fun _ => mem_wakeLoop_of_mem (simulation.withCoordinator coordinator))
      (heeds_wakeLoop (simulation.withCoordinator coordinator)) ?_
      ⟨[], line.trans (List.append_nil _).symm⟩
    intro _ demand rest waiting none
    rw [line, none] at waiting
    cases waiting
  rw [wakeLoop_eq]
  exact changed.of_same rfl rfl rfl rfl fun _ _ => id

theorem line_tick (coordinator : Coordinator) : coordinator.tick.line = coordinator.line := by
  unfold Coordinator.tick
  split <;> rfl

theorem isAlert_actTicker (alert : simulation.IsAlert (.ticker :: simulation.ready)) :
    simulation.actTicker.IsAlert .ticker := by
  have dropped : simulation.IsAlert simulation.ready :=
    alert.drop nofun (fun _ _ _ _ => nofun) fun _ _ => nofun
  unfold actTicker
  split
  · split
    · exact dropped.of_same rfl rfl rfl rfl fun _ _ => List.mem_append_left _
    · split
      · have woken := dropped.wakeLoop (dropped.accounted.run_of [.tick]) (running_tick _)
          (line_tick _)
        exact woken.of_same rfl rfl rfl rfl fun _ _ => List.mem_append_left _
      · exact dropped
  · refine dropped.of_same rfl rfl rfl rfl fun _ _ member => List.mem_filter.mpr ⟨member, ?_⟩
    exact decide_eq_true nofun

theorem isAlert_act (alert : simulation.IsAlert (agent :: simulation.ready)) :
    (simulation.act agent).IsAlert agent := by
  cases agent with
  | holder holder => exact isAlert_actHolder alert
  | ticker => exact isAlert_actTicker alert

/-- A turn leaves everybody awake who could act. -/
theorem IsAlert.turn (alert : simulation.IsAlert simulation.ready) :
    simulation.turn.IsAlert simulation.turn.ready := by
  unfold Simulation.turn
  split
  · exact alert
  · rename_i agent others someone
    rw [someone] at alert
    have rested : IsAlert { simulation with ready := others } (agent :: others) :=
      alert.of_same rfl rfl rfl rfl fun _ _ => id
    have acted := isAlert_act rested
    split <;> rename_i next acts <;> rw [acts] at acted
    · exact acted.of_same rfl rfl rfl rfl fun _ _ => id
    · refine (acted.mono ?_).of_same rfl rfl rfl rfl fun _ _ => id
      intro other member
      rcases List.mem_cons.mp member with same | member
      · exact List.mem_append_right _ (List.mem_singleton.mpr same)
      · exact List.mem_append_left _ member
    · exact acted

end

end Simulation
end Rebuild
end Itineraries
