namespace Itineraries
namespace Rebuild

/-!
# Requests for a rebuild

Every request that is accepted takes the next ticket.  A rebuild covers all
tickets that were taken before it began, so a request does not need a rebuild
of its own, only one that begins later.  For the same reason the queue to the
scheduling loop has room for one signal only: a request that finds a signal in
it rides on that signal.
-/

inductive Reason where
  | startup
  | timer
  | inventoryChanged
  | manual
deriving DecidableEq, Repr

inductive State where
  | idle
  | rebuilding
deriving DecidableEq, Repr

/-- What becomes of a request to the scheduling loop.  The loop takes it up at once, or
after the rebuild in progress; or it rides on a signal that is in the queue already; or
the loop has ended, and the request is not accepted. -/
inductive Outcome where
  | scheduled
  | queued
  | coalesced
  | stopped
deriving DecidableEq, Repr

/-- The tickets and the queue, which holds one signal and is open as long as somebody
takes signals out of it, or may do so.  Tickets are numbered from one, so their number is
the latest of them.  Coalesced are the requests that were satisfied without a rebuild of
their own. -/
structure Requests where
  issued : Nat := 0
  signal : Option Reason := none
  isOpen : Bool := true
  coalesced : Nat := 0
deriving DecidableEq, Repr

namespace Requests

def request (requests : Requests) (state : State) (reason : Reason) : Outcome × Requests :=
  if requests.isOpen then
    let ticketed := { requests with issued := requests.issued + 1 }
    match requests.signal with
    | none =>
      (if state = .idle then .scheduled else .queued, { ticketed with signal := some reason })
    | some _ => (.coalesced, { ticketed with coalesced := requests.coalesced + 1 })
  else
    (.stopped, requests)

/-- Take a ticket without the scheduling loop. -/
def ticket (requests : Requests) : Requests :=
  { requests with issued := requests.issued + 1 }

/-- Take the signal out of the queue.  From a closed queue nothing is taken: a
signal left in it is lost. -/
def receive (requests : Requests) : Option Reason × Requests :=
  if requests.isOpen then (requests.signal, { requests with signal := none })
  else (none, requests)

/-- Nobody takes signals any more. -/
def close (requests : Requests) : Requests :=
  { requests with isOpen := false }

/-! ## Open and closed queues -/

variable {requests : Requests}

/-- An open queue has a signal for everyone who asks. -/
theorem request_of_isOpen (isOpen : requests.isOpen = true) (state : State) (reason : Reason) :
    ∃ outcome signal coalesced, outcome ≠ Outcome.stopped ∧
      requests.request state reason =
        (outcome,
          { requests with
            issued := requests.issued + 1
            signal := some signal
            coalesced := coalesced }) := by
  unfold request
  rw [if_pos isOpen]
  cases queued : requests.signal with
  | none =>
    refine ⟨_, reason, requests.coalesced, ?_, rfl⟩
    split <;> nofun
  | some earlier => exact ⟨.coalesced, earlier, requests.coalesced + 1, nofun, rfl⟩

theorem request_of_closed (closed : requests.isOpen = false) (state : State) (reason : Reason) :
    requests.request state reason = (.stopped, requests) := by
  unfold request
  rw [closed, if_neg Bool.false_ne_true]

/-- Only the first signal stays in an open queue. -/
theorem signal_request (isOpen : requests.isOpen = true) (state : State) (reason : Reason) :
    (requests.request state reason).2.signal = requests.signal.or (some reason) := by
  unfold request
  rw [if_pos isOpen]
  cases requests.signal <;> rfl

/-- A request rides on a signal if there is one in the queue. -/
theorem request_fst_eq_coalesced_iff (isOpen : requests.isOpen = true) (state : State)
    (reason : Reason) :
    (requests.request state reason).1 = .coalesced ↔ requests.signal.isSome = true := by
  unfold request
  rw [if_pos isOpen]
  cases requests.signal with
  | none => cases state <;> simp
  | some earlier => simp

theorem isOpen_request (state : State) (reason : Reason) :
    (requests.request state reason).2.isOpen = requests.isOpen := by
  by_cases isOpen : requests.isOpen = true
  · rcases request_of_isOpen isOpen state reason with ⟨_, _, _, _, same⟩
    rw [same]
  · rw [request_of_closed (Bool.eq_false_iff.mpr isOpen)]

theorem receive_of_isOpen (isOpen : requests.isOpen = true) :
    requests.receive = (requests.signal, { requests with signal := none }) := by
  rw [receive, if_pos isOpen]

/-- Only a closed queue turns anybody away. -/
theorem request_fst_ne_stopped_iff (state : State) (reason : Reason) :
    (requests.request state reason).1 ≠ .stopped ↔ requests.isOpen = true := by
  constructor
  · intro accepted
    by_cases isOpen : requests.isOpen = true
    · exact isOpen
    · rw [request_of_closed (Bool.eq_false_iff.mpr isOpen)] at accepted
      exact absurd rfl accepted
  · intro isOpen
    rcases request_of_isOpen isOpen state reason with ⟨outcome, _, _, accepted, same⟩
    rw [same]
    exact accepted

end Requests
end Rebuild
end Itineraries
