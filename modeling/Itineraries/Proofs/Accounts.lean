import Itineraries.Proofs.Moments

namespace Itineraries
namespace Rebuild

/-!
# Every request is counted once

A request is counted as coalesced when it finds a signal in the queue, or when its
turn comes and the last rebuild covers it; else it is counted with the rebuild that
is run for it.  Until then it passes through the queue, the loop and the line.
The tickets tell that none is lost on the way and none is counted twice.
-/

/-- A request takes a ticket, and either it puts a signal into the queue or it is
counted as coalesced. -/
theorem Requests.request_accounted (requests : Requests) (state : State) (reason : Reason) :
    (requests.request state reason).2.issued + requests.coalesced +
        requests.signal.toList.length =
      requests.issued + (requests.request state reason).2.coalesced +
        (requests.request state reason).2.signal.toList.length := by
  unfold request
  split
  · split
    · rename_i empty
      simp only [empty, Option.toList_none, Option.toList_some, List.length_nil,
        List.length_singleton]
      omega
    · simp only
      omega
  · rfl

namespace Coordinator

def Move.isCall : Move → Bool
  | .call _ => true
  | _ => false

/-- A move asks the scheduling loop for a rebuild and is not turned away. -/
def acceptsRequest (coordinator : Coordinator) (move : Move) : Bool :=
  (coordinator.asks? move).any fun reason => (coordinator.request reason).1 ≠ .stopped

def callsMade (moves : List Move) : Nat :=
  moves.countP Move.isCall

/-- The number of requests to the scheduling loop that are accepted in the course of
some moves. -/
def requestsAccepted (start : Coordinator) : List Move → Nat
  | [] => 0
  | move :: moves =>
    (if start.acceptsRequest move then 1 else 0) + (start.apply move).requestsAccepted moves

/-- Each read of the inventory and each ticket belongs to something that has been
counted or is still going on. -/
structure Balanced (coordinator : Coordinator) : Prop where
  reads : coordinator.reads =
    coordinator.succeeded + coordinator.failed + coordinator.running.toList.length
  tickets : coordinator.requests.issued =
    coordinator.succeeded + coordinator.failed + coordinator.requests.coalesced +
      coordinator.requests.signal.toList.length + coordinator.demands.length

variable {coordinator next : Coordinator} {move : Move}

/-! ## Who takes tickets -/

theorem Step.issued_eq (step : Step coordinator move next) :
    next.requests.issued = coordinator.requests.issued + (if move.isCall then 1 else 0) +
      if coordinator.acceptsRequest move then 1 else 0 := by
  have silently : coordinator.IsSilent move →
      coordinator.requests.issued = coordinator.requests.issued + (if move.isCall then 1 else 0) +
        if coordinator.acceptsRequest move then 1 else 0 := by
    intro silent
    have uncalled : move.isCall = false := by
      cases move with
      | call reason => exact absurd rfl (silent.2 reason)
      | _ => rfl
    rw [uncalled, acceptsRequest, silent.1]
    rfl
  have asked : ∀ reason, coordinator.asks? move = some reason →
      (coordinator.requests.request coordinator.state reason).2.issued =
        coordinator.requests.issued + (if move.isCall then 1 else 0) +
          if coordinator.acceptsRequest move then 1 else 0 := by
    intro reason asks
    have uncalled : move.isCall = false := by
      cases move with
      | call => cases asks
      | _ => rfl
    rw [uncalled, acceptsRequest, asks, Option.any_some, request]
    by_cases isOpen : coordinator.requests.isOpen = true
    · rcases Requests.request_of_isOpen isOpen coordinator.state reason with
        ⟨outcome, signal, coalesced, accepted, same⟩
      rw [same, decide_eq_true accepted]
      rfl
    · rw [Requests.request_of_closed (Bool.eq_false_iff.mpr isOpen)]
      rfl
  cases step with
  | stay silent | change silent => exact silently silent
  | start unstarted => exact asked .startup (if_pos unstarted)
  | ask _ asks => exact asked _ asks
  | _ => rfl

theorem issued_run (start : Coordinator) (moves : List Move) :
    (start.run moves).requests.issued =
      start.requests.issued + callsMade moves + start.requestsAccepted moves := by
  induction moves generalizing start with
  | nil => rfl
  | cons move rest inductionHypothesis =>
    have taken := (step_apply start move).issued_eq
    change ((start.apply move).run rest).requests.issued = _
    rw [inductionHypothesis, taken, callsMade, callsMade, List.countP_cons, requestsAccepted]
    omega

/-! ## Where their holders are -/

namespace Balanced

theorem initial (engine : Engine) (inventory : Inventory) :
    (ofEngine engine inventory).Balanced where
  reads := rfl
  tickets := rfl

theorem request (balanced : coordinator.Balanced) (reason : Reason) :
    (coordinator.request reason).2.Balanced where
  reads := balanced.reads
  tickets := by
    have tickets := balanced.tickets
    have accounted := coordinator.requests.request_accounted coordinator.state reason
    change (coordinator.requests.request coordinator.state reason).2.issued =
      coordinator.succeeded + coordinator.failed +
        (coordinator.requests.request coordinator.state reason).2.coalesced +
        (coordinator.requests.request coordinator.state reason).2.signal.toList.length +
        coordinator.demands.length
    omega

theorem step (balanced : coordinator.Balanced) (step : Step coordinator move next) :
    next.Balanced := by
  have reads := balanced.reads
  have tickets := balanced.tickets
  cases step with
  | stay | change | stop | leave | search | invalidate => exact ⟨reads, tickets⟩
  | start => exact ⟨reads, (balanced.request .startup).tickets⟩
  | @ask _ reason => exact ⟨reads, (balanced.request reason).tickets⟩
  | call reason =>
    refine ⟨reads, ?_⟩
    simp only [call, Requests.ticket, demands, List.length_append, List.length_singleton]
      at tickets ⊢
    omega
  | take waiting goesOn isOpen queued =>
    refine ⟨reads, ?_⟩
    simp only [queued, demands, Option.toList_some, Option.toList_none, List.length_append,
      List.length_singleton, List.length_nil] at tickets ⊢
    omega
  | satisfy idle first =>
    refine ⟨reads, ?_⟩
    simp only [demands, idle, first, List.length_append, List.length_cons] at tickets ⊢
    omega
  | begin idle first =>
    rw [idle] at reads
    rw [demands_of_idle idle, first] at tickets
    exact ⟨congrArg (· + 1) reads, tickets⟩
  | endRead readEnd reading =>
    rw [reading] at reads
    rw [demands_of_running reading] at tickets
    exact ⟨reads, tickets⟩
  | @finish demand covers outcome result decided =>
    rw [decided] at reads
    rw [demands_of_running decided, List.length_cons] at tickets
    have counted : (if result.isOk then 1 else 0) + (if result.isOk then 0 else 1) = 1 := by
      cases result <;> rfl
    constructor
    · simp only [Option.toList_some, Option.toList_none, List.length_singleton, List.length_nil]
        at reads ⊢
      omega
    · simp only [demands, Option.map_none, Option.toList_none, List.nil_append]
      omega

theorem run (engine : Engine) (inventory : Inventory) (moves : List Move) :
    ((ofEngine engine inventory).run moves).Balanced :=
  run_induction (.initial engine inventory) fun _ _ _ _ balanced step => balanced.step step

end Balanced

/-- Whatever has happened since the beginning: the reads of the inventory that have
begun are those of the rebuilds that have succeeded or failed and of the one in
progress.  The calls and the accepted requests are as many as the rebuilds that
have succeeded or failed, the requests that have been counted as coalesced, the signal
in the queue, and those who wait in the line or for whom a rebuild is in progress.
When nobody can do anything any more, with the loop listening and no read going on,
there are none but those that have been counted. -/
theorem requests_counted_once (engine : Engine) (inventory : Inventory) (moves : List Move) :
    let start := ofEngine engine inventory
    let reached := start.run moves
    reached.reads = reached.succeeded + reached.failed +
        (if reached.state = .rebuilding then 1 else 0) ∧
      callsMade moves + start.requestsAccepted moves =
        reached.succeeded + reached.failed + reached.requests.coalesced +
          (if reached.requests.signal.isSome then 1 else 0) + reached.demands.length ∧
      (reached.isListening = true → reached.AtStandstill → ¬reached.IsReading →
        callsMade moves + start.requestsAccepted moves =
          reached.succeeded + reached.failed + reached.requests.coalesced) := by
  intro start reached
  have balanced : reached.Balanced := .run engine inventory moves
  have taken : reached.requests.issued = 0 + callsMade moves + start.requestsAccepted moves :=
    issued_run start moves
  rw [Nat.zero_add] at taken
  have tickets := balanced.tickets
  rw [taken] at tickets
  refine ⟨?_, ?_, ?_⟩
  · rw [balanced.reads]
    cases running : reached.running <;> simp [state, running]
  · rw [← Option.length_toList]
    exact tickets
  · intro listening still noRead
    have accounted : reached.Accounted := .run engine inventory moves
    rw [accounted.signal_eq_none listening still noRead, still.demands_eq_nil noRead] at tickets
    exact tickets

/-- The request of the loop rides on the signal of another, and a rebuild for a caller
covers both before the loop takes the signal. -/
private def covered : List Move :=
  [.request .manual, .start, .call .manual, .serveFirst, .endRead .timedOut, .finish, .take,
    .serveFirst]

theorem covered_requests_counted_once :
    callsMade covered + (ofEngine warmEngine (.memory {})).requestsAccepted covered =
        ((ofEngine warmEngine (.memory {})).run covered).succeeded +
          ((ofEngine warmEngine (.memory {})).run covered).failed +
          ((ofEngine warmEngine (.memory {})).run covered).requests.coalesced ∧
      ((ofEngine warmEngine (.memory {})).run covered).failed = 1 ∧
      ((ofEngine warmEngine (.memory {})).run covered).requests.coalesced = 2 := by
  have noRead : ¬((ofEngine warmEngine (.memory {})).run covered).IsReading := by
    rintro ⟨demand, covers, reading⟩
    cases reading
  have counted := (requests_counted_once warmEngine (.memory {}) covered).2.2 rfl
    ⟨rfl, rfl, rfl, rfl⟩ noRead
  exact ⟨counted, rfl, rfl⟩

end Coordinator
end Rebuild
end Itineraries
