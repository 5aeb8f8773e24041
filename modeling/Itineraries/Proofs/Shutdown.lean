import Itineraries.Proofs.Moments

namespace Itineraries
namespace Rebuild
namespace Coordinator

/-!
# The end of the loop

A loop that has been told to end looks at nothing else when it comes back to its
queue.  Until then it may stand in the line or run a rebuild, and the signal that it has
taken is still served.  Its clock hears of it at once.

There is one case in which nobody hears of it.  Whoever is told to end must have been
started, and what is said before that is forgotten.
-/

/-- From a moment on the loop takes no signal and its clock asks for nothing.  If it was
ever started, it has ended whenever nobody can act and no rebuild is in progress.  From
its end on every request is turned away and changes nothing. -/
structure IsShutFrom (start : Coordinator) (moves : List Move) (moment : Nat) : Prop where
  takesNothing : ∀ later, moment ≤ later →
    (start.after moves later).take = start.after moves later
  asksNothing : ∀ later, moment ≤ later →
    (start.after moves later).tick = start.after moves later
  ends : ∀ later, moment ≤ later → (start.after moves later).loop ≠ .unstarted →
    (start.after moves later).AtStandstill → (start.after moves later).running = none →
      (start.after moves later).loop = .ended
  turnsAway : ∀ ended later, moment ≤ ended → ended ≤ later →
    (start.after moves ended).loop = .ended →
      ∀ reason, (start.after moves later).request reason = (.stopped, start.after moves later)

/-! ## What a loop that was told to end does -/

/-- A loop that has been started and told to end. -/
structure IsTold (coordinator : Coordinator) : Prop where
  started : coordinator.loop ≠ .unstarted
  stopping : coordinator.stopping = true

/-- A loop ends only if it was told to, and nobody takes signals after that. -/
structure EndsTold (coordinator : Coordinator) : Prop where
  stopping : coordinator.loop = .ended → coordinator.stopping = true
  closed : coordinator.loop = .ended → coordinator.requests.isOpen = false

section

variable {coordinator next : Coordinator} {move : Move}

theorem phaseAfter_ne_unstarted (started : coordinator.loop ≠ .unstarted) (holder : Holder) :
    coordinator.phaseAfter holder ≠ .unstarted := by
  cases holder with
  | loop => exact nofun
  | caller _ => exact started

theorem loop_eq_ended_of_phaseAfter {holder : Holder}
    (ended : coordinator.phaseAfter holder = .ended) : coordinator.loop = .ended := by
  cases holder with
  | loop => cases ended
  | caller _ => exact ended

theorem IsTold.step (told : coordinator.IsTold) (step : Step coordinator move next) :
    next.IsTold := by
  cases step with
  | start unstarted => exact absurd unstarted told.started
  | stop => exact ⟨told.started, rfl⟩
  | take | leave => exact ⟨nofun, told.stopping⟩
  | satisfy | finish => exact ⟨phaseAfter_ne_unstarted told.started _, told.stopping⟩
  | _ => exact ⟨told.started, told.stopping⟩

theorem EndsTold.step (ends : coordinator.EndsTold) (step : Step coordinator move next) :
    next.EndsTold := by
  cases step with
  | start | take => exact ⟨nofun, nofun⟩
  | ask =>
    exact ⟨ends.stopping, fun ended => (Requests.isOpen_request ..).trans (ends.closed ended)⟩
  | stop => exact ⟨fun _ => rfl, ends.closed⟩
  | leave _ told => exact ⟨fun _ => told, fun _ => rfl⟩
  | satisfy | finish =>
    exact ⟨fun ended => ends.stopping (loop_eq_ended_of_phaseAfter ended),
      fun ended => ends.closed (loop_eq_ended_of_phaseAfter ended)⟩
  | _ => exact ⟨ends.stopping, ends.closed⟩

theorem Step.staysEnded (step : Step coordinator move next) (accounted : coordinator.Accounted)
    (ended : coordinator.loop = .ended) : next.loop = .ended := by
  cases step with
  | start unstarted => exact nomatch ended.symm.trans unstarted
  | take waiting => exact nomatch ended.symm.trans waiting
  | leave => rfl
  | satisfy idle first =>
    by_contra goesOn
    exact accounted.loop_ne_ended_of_departed ((demands_of_idle idle).trans first) goesOn ended
  | finish decided =>
    by_contra goesOn
    exact accounted.loop_ne_ended_of_departed (demands_of_running decided) goesOn ended
  | _ => exact ended

theorem EndsTold.isTold_shutdown (ends : coordinator.EndsTold)
    (started : coordinator.loop ≠ .unstarted) : coordinator.shutdown.IsTold := by
  unfold shutdown
  split
  · exact ⟨started, rfl⟩
  · rename_i deaf
    refine ⟨started, ?_⟩
    cases phase : coordinator.loop with
    | unstarted => exact absurd phase started
    | ended => exact ends.stopping phase
    | atQueue => simpa [isListening, phase] using deaf
    | busy => simpa [isListening, phase] using deaf

/-- Before the loop is started, shutting down changes nothing. -/
theorem shutdown_of_unstarted (unstarted : coordinator.loop = .unstarted) :
    coordinator.shutdown = coordinator := by
  rw [shutdown, if_neg]
  simp [isListening, unstarted]

theorem IsTold.take_eq (told : coordinator.IsTold) : coordinator.take = coordinator := by
  rw [take, if_neg]
  exact fun free => free.2 told.stopping

theorem IsTold.tick_eq (told : coordinator.IsTold) : coordinator.tick = coordinator := by
  rw [tick, if_neg]
  simp [isListening, told.stopping]

/-- Where nobody can act and no rebuild is in progress, a loop that was told to end has
ended. -/
theorem IsTold.loop_eq_ended (told : coordinator.IsTold) (accounted : coordinator.Accounted)
    (still : coordinator.AtStandstill) (idle : coordinator.running = none) :
    coordinator.loop = .ended := by
  cases phase : coordinator.loop with
  | ended => rfl
  | unstarted => exact absurd phase told.started
  | busy =>
    have once := accounted.loop_once
    rw [demands_of_idle idle, still.line_eq_nil idle, if_pos phase] at once
    cases once
  | atQueue =>
    have left : coordinator.leave.loop = .ended := by
      rw [leave, if_pos ⟨phase, told.stopping⟩]
    rw [still.leave, phase] at left
    cases left

theorem EndsTold.request_eq (ends : coordinator.EndsTold) (ended : coordinator.loop = .ended)
    (reason : Reason) : coordinator.request reason = (.stopped, coordinator) := by
  rw [request, Requests.request_of_closed (ends.closed ended)]

end

/-! ## Runs -/

theorem EndsTold.run (engine : Engine) (inventory : Inventory) (moves : List Move) :
    ((ofEngine engine inventory).run moves).EndsTold :=
  run_induction ⟨nofun, nofun⟩ fun _ _ _ _ ends step => ends.step step

/-- Whoever tells the loop to end after it was started is heard, whether the loop waits
for a signal, stands in the line or runs a rebuild.  From then on it takes no signal and
its clock asks for nothing.  It has ended as soon as nobody can act and no rebuild is in
progress, and from its end on every request is turned away and changes nothing.  Whoever
does so before that changes nothing. -/
theorem shutdown_obeyed_once_started (engine : Engine) (inventory : Inventory)
    (moves : List Move) (moment : Nat) (told : moves[moment]? = some .shutdown) :
    let start := ofEngine engine inventory
    ((start.after moves moment).loop ≠ .unstarted → start.IsShutFrom moves (moment + 1)) ∧
      ((start.after moves moment).loop = .unstarted →
        start.after moves (moment + 1) = start.after moves moment) := by
  intro start
  have shut : start.after moves (moment + 1) = (start.after moves moment).shutdown :=
    after_succ start moves told
  have accounted : ∀ later, (start.after moves later).Accounted :=
    fun later => .run engine inventory (moves.take later)
  have ends : ∀ later, (start.after moves later).EndsTold :=
    fun later => .run engine inventory (moves.take later)
  refine ⟨fun started => ?_, fun unstarted => shut.trans (shutdown_of_unstarted unstarted)⟩
  have remembers : ∀ later, moment + 1 ≤ later → (start.after moves later).IsTold := by
    intro later ordered
    have first : (start.after moves (moment + 1)).IsTold := by
      rw [shut]
      exact (ends moment).isTold_shutdown started
    exact after_induction start moves (fun step told => told.step step) ordered first
  refine ⟨fun later ordered => (remembers later ordered).take_eq,
    fun later ordered => (remembers later ordered).tick_eq,
    fun later ordered _ still idle =>
      (remembers later ordered).loop_eq_ended (accounted later) still idle, ?_⟩
  intro ended later _ ordered gone reason
  have stays : (start.after moves later).loop = .ended := by
    induction ordered with
    | refl => exact gone
    | @step later _ inductionHypothesis =>
      rcases start.step_after moves later with ⟨move, step, _⟩
      exact step.staysEnded (accounted later) inductionHypothesis
  exact (ends later).request_eq stays reason

private def plainEngine : Engine :=
  ⟨{}, Config.valid_default, .fixed [], Snapshot.empty, []⟩

/-- The loop is told to end while it runs its first rebuild, and a request comes before
that has ended. -/
private def interrupted : List Move :=
  [.start, .take, .serveFirst, .shutdown, .request .manual, .endRead .timedOut, .finish, .leave]

theorem interrupted_loop_ends :
    (ofEngine plainEngine (.memory {})).IsShutFrom interrupted 4 ∧
      ((ofEngine plainEngine (.memory {})).after interrupted 8).loop = .ended := by
  have obeyed := shutdown_obeyed_once_started plainEngine (.memory {}) interrupted 3 rfl
  have shut := obeyed.1 (by decide)
  exact ⟨shut, shut.ends 8 (by decide) (by decide) ⟨rfl, rfl, rfl, rfl⟩ rfl⟩

/-- The loop is told to end before it is started, and its first rebuild ends without
flights. -/
private def tooEarly : List Move :=
  [.shutdown, .start, .take, .serveFirst, .endRead .timedOut, .finish]

/-- What is said before the loop is started is forgotten: it takes its first signal, and
when all is done it waits for the next one and turns nobody away. -/
theorem early_shutdown_forgotten :
    ¬(ofEngine plainEngine (.memory {})).IsShutFrom tooEarly 1 ∧
      ((ofEngine plainEngine (.memory {})).after tooEarly 6).AtStandstill ∧
      ((ofEngine plainEngine (.memory {})).after tooEarly 6).loop = .atQueue ∧
      (((ofEngine plainEngine (.memory {})).after tooEarly 6).request .manual).1 = .scheduled := by
  have still : ((ofEngine plainEngine (.memory {})).after tooEarly 6).AtStandstill :=
    ⟨rfl, rfl, rfl, rfl⟩
  refine ⟨fun shut => ?_, still, rfl, rfl⟩
  have ended := shut.ends 6 (by decide) (by decide) still rfl
  cases ended

end Coordinator
end Rebuild
end Itineraries
