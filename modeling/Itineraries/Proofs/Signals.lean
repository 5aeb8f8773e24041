import Mathlib.Data.List.Induction
import Itineraries.Rebuild.Coordinator
import Itineraries.Rebuild.Desk
import Itineraries.Proofs.Contents

namespace Itineraries
namespace Rebuild
namespace Desk

/-!
# Signals for changes

A queue holds one signal.  Whoever asks for a rebuild while it is there leaves none of their
own, so the signals do not tell how much has changed, or whether anything has.  What can be
relied on is the other direction.  Since a signal is only ever taken out as a whole, the queue
is empty then, and the first change that follows fills it again.  As long as it is empty, the
flights are those of the moment at which it was emptied.

Signals leave the queue in the order in which they have come.  With room for one of them this
says that the signal taken out is that of the earliest request since the last one was taken.
Nothing of all this hinders changes: they take effect whether there is a signal for them or not.
-/

/-- What can be done at a desk. -/
inductive Act where
  | change (made : MemoryInventory.Change)
  | attach
  | request (reason : Reason)
  | receive
  | close
  | turn (state : State)
deriving DecidableEq

/-- The change of the inventory that an act consists in. -/
def Act.change? : Act → Option MemoryInventory.Change
  | .change made => some made
  | _ => none

def apply (desk : Desk) : Act → Desk
  | .change (.upsert flight) => desk.upsert flight
  | .change (.remove id) => (desk.remove id).2
  | .change (.replace flights) => desk.replace flights
  | .attach => desk.attach
  | .request reason => (desk.request reason).2
  | .receive => desk.receive.2
  | .close => desk.close
  | .turn state => desk.turn state

def run (desk : Desk) (acts : List Act) : Desk :=
  acts.foldl apply desk

/-- The acts of a row, each with the desk at which it takes place. -/
def visits (desk : Desk) (acts : List Act) : List (Desk × Act) :=
  History.visits apply desk acts

/-! ## What passes through the queue -/

/-- The reason for which an act asks for a rebuild, if it does. -/
def asks? (desk : Desk) : Act → Option Reason
  | .change (.upsert _) | .change (.replace _) =>
    if desk.inventory.attached then some .inventoryChanged else none
  | .change (.remove id) =>
    if desk.inventory.attached ∧ id ∈ desk.inventory.ids then some .inventoryChanged else none
  | .request reason => some reason
  | .attach | .receive | .close | .turn _ => none

/-- The signal of an act that asks for a rebuild and finds the queue open and empty. -/
def sends? (desk : Desk) (act : Act) : Option Reason :=
  if desk.requests.isOpen ∧ desk.requests.signal = none then desk.asks? act else none

def takes? (desk : Desk) : Act → Option Reason
  | .receive => desk.receive.1
  | _ => none

/-- The reasons of all requests in the course of some acts, those of changes among them. -/
def asked (desk : Desk) (acts : List Act) : List Reason :=
  (desk.visits acts).flatMap fun visit => (visit.1.asks? visit.2).toList

/-- The signals that come into the queue, in their order. -/
def sent (desk : Desk) (acts : List Act) : List Reason :=
  (desk.visits acts).flatMap fun visit => (visit.1.sends? visit.2).toList

/-- The signals that are taken out, in their order. -/
def taken (desk : Desk) (acts : List Act) : List Reason :=
  (desk.visits acts).flatMap fun visit => (visit.1.takes? visit.2).toList

/-! ## What one act does -/

variable {desk : Desk} {acts : List Act}

theorem requests_change (desk : Desk) (inventory : MemoryInventory)
    (same : inventory.attached = desk.inventory.attached) :
    (desk.change inventory).requests =
      (if desk.inventory.attached then some Reason.inventoryChanged else none).elim desk.requests
        fun reason => (desk.requests.request desk.state reason).2 := by
  rw [Desk.change, MemoryInventory.signal, same]
  split <;> rfl

/-- Whoever does not handle the queue itself can only ask. -/
theorem requests_apply (desk : Desk) {act : Act} (left : act ≠ .receive) (kept : act ≠ .close) :
    (desk.apply act).requests =
      (desk.asks? act).elim desk.requests fun reason =>
        (desk.requests.request desk.state reason).2 := by
  cases act with
  | change made =>
    cases made with
    | upsert | replace => exact desk.requests_change _ rfl
    | remove id =>
      have found := desk.inventory.removal_fst_iff id
      rw [apply, remove, asks?]
      by_cases gone : (desk.inventory.removal id).1 = true
      · simp only [gone, found.mp gone, and_true, if_true]
        exact desk.requests_change _ rfl
      · simp only [gone, mt found.mpr gone, and_false, if_false]
        rfl
  | receive => exact absurd rfl left
  | close => exact absurd rfl kept
  | _ => rfl

/-- Only those who hold the other end of the queue can close it. -/
theorem isOpen_apply (isOpen : desk.requests.isOpen = true) {act : Act} (kept : act ≠ .close) :
    (desk.apply act).requests.isOpen = true := by
  by_cases left : act = .receive
  · rw [left, apply, receive, Requests.receive_of_isOpen isOpen]
    exact isOpen
  · rw [desk.requests_apply left kept]
    cases desk.asks? act with
    | none => exact isOpen
    | some reason => exact (Requests.isOpen_request _ _).trans isOpen

/-- Nothing is left in a queue from which somebody has tried to take a signal. -/
theorem signal_receive (isOpen : desk.requests.isOpen = true) :
    (desk.apply .receive).requests.signal = none := by
  rw [apply, receive, Requests.receive_of_isOpen isOpen]

theorem requests_apply_of_closed (closed : desk.requests.isOpen = false) (act : Act) :
    (desk.apply act).requests = desk.requests := by
  by_cases left : act = .receive
  · rw [left, apply, receive, Requests.receive, closed]
    rfl
  · by_cases kept : act = .close
    · rw [kept, apply, close, Requests.close, ← closed]
    · rw [desk.requests_apply left kept]
      cases desk.asks? act with
      | none => rfl
      | some reason =>
        exact congrArg (·.2) (Requests.request_of_closed closed desk.state reason)

/-- An open queue takes in the first signal only. -/
theorem signal_apply (isOpen : desk.requests.isOpen = true) {act : Act} (left : act ≠ .receive)
    (kept : act ≠ .close) :
    (desk.apply act).requests.signal = desk.requests.signal.or (desk.asks? act) := by
  rw [desk.requests_apply left kept]
  cases desk.asks? act with
  | none => exact (Option.or_none).symm
  | some reason => exact Requests.signal_request isOpen desk.state reason

theorem takes?_of_ne_receive {act : Act} (left : act ≠ .receive) : desk.takes? act = none := by
  cases act <;> first | rfl | exact absurd rfl left

theorem takes?_of_closed (closed : desk.requests.isOpen = false) (act : Act) :
    desk.takes? act = none := by
  by_cases left : act = .receive
  · rw [left, takes?, receive, Requests.receive, closed]
    rfl
  · exact takes?_of_ne_receive left

/-- What is in the queue before an act or comes in with it is taken out or is there
afterwards. -/
theorem signal_append_sends? (desk : Desk) (act : Act) :
    desk.requests.signal.toList ++ (desk.sends? act).toList =
      (desk.takes? act).toList ++ (desk.apply act).requests.signal.toList := by
  by_cases isOpen : desk.requests.isOpen = true
  · by_cases left : act = .receive
    · rw [left, takes?, apply, receive, Requests.receive_of_isOpen isOpen, sends?, asks?, ite_self]
    · rw [takes?_of_ne_receive left]
      by_cases kept : act = .close
      · rw [kept, sends?, asks?, ite_self]
        exact List.append_nil _
      · -- The signal comes in if the queue is empty, and is dropped if it is not.
        rw [signal_apply isOpen left kept, sends?, isOpen]
        cases desk.requests.signal <;> simp
  · have closed : desk.requests.isOpen = false := Bool.eq_false_iff.mpr isOpen
    rw [requests_apply_of_closed closed, takes?_of_closed closed, sends?, closed]
    simp

theorem flights_apply (desk : Desk) (act : Act) :
    (desk.apply act).inventory.flights =
      (desk.inventory.changed act.change?.toList).flights := by
  cases act with
  | change made =>
    cases made with
    | remove id =>
      rw [apply, remove]
      split <;> rfl
    | _ => rfl
  | _ => rfl

theorem attached_apply (attached : desk.inventory.attached = true) (act : Act) :
    (desk.apply act).inventory.attached = true := by
  cases act with
  | change made =>
    cases made with
    | remove id =>
      rw [apply, remove]
      split <;> exact attached
    | _ => exact attached
  | attach => rfl
  | _ => exact attached

/-- In front of an attached inventory, an act that does not ask for a rebuild has not changed any
flight. -/
theorem flights_apply_of_not_asks (attached : desk.inventory.attached = true) {act : Act}
    (silent : desk.asks? act = none) :
    (desk.apply act).inventory.flights = desk.inventory.flights := by
  rw [flights_apply]
  cases act with
  | change made =>
    cases made with
    | upsert | replace =>
      rw [asks?, if_pos attached] at silent
      cases silent
    | remove id =>
      have absent : id ∉ desk.inventory.ids := by
        intro known
        rw [asks?, if_pos ⟨attached, known⟩] at silent
        cases silent
      have kept := mt (desk.inventory.removal_fst_iff id).mp absent
      exact congrArg (·.flights)
        (MemoryInventory.removal_snd_of_fst (Bool.eq_false_iff.mpr kept))
  | _ => rfl

/-! ## What a row of acts does -/

theorem run_append (desk : Desk) (earlier later : List Act) :
    desk.run (earlier ++ later) = (desk.run earlier).run later :=
  List.foldl_append

/-- Signals are taken out in the order in which they have come, and at most one is waiting. -/
theorem signal_append_sent (desk : Desk) (acts : List Act) :
    desk.requests.signal.toList ++ desk.sent acts =
      desk.taken acts ++ (desk.run acts).requests.signal.toList := by
  induction acts generalizing desk with
  | nil => exact List.append_nil _
  | cons act rest inductionHypothesis =>
    calc desk.requests.signal.toList ++ desk.sent (act :: rest)
        = (desk.requests.signal.toList ++ (desk.sends? act).toList) ++
            (desk.apply act).sent rest := (List.append_assoc _ _ _).symm
      _ = (desk.takes? act).toList ++
            ((desk.apply act).requests.signal.toList ++ (desk.apply act).sent rest) := by
        rw [desk.signal_append_sends?, List.append_assoc]
      _ = (desk.takes? act).toList ++ ((desk.apply act).taken rest ++
            ((desk.apply act).run rest).requests.signal.toList) := by
        rw [inductionHypothesis]
      _ = desk.taken (act :: rest) ++ (desk.run (act :: rest)).requests.signal.toList :=
        (List.append_assoc _ _ _).symm

theorem taken_eq_nil (left : .receive ∉ acts) : desk.taken acts = [] := by
  induction acts generalizing desk with
  | nil => rfl
  | cons act rest inductionHypothesis =>
    rw [List.mem_cons, not_or] at left
    change (desk.takes? act).toList ++ (desk.apply act).taken rest = []
    rw [takes?_of_ne_receive (Ne.symm left.1), inductionHypothesis left.2]
    rfl

theorem isOpen_run (isOpen : desk.requests.isOpen = true) (kept : .close ∉ acts) :
    (desk.run acts).requests.isOpen = true := by
  induction acts generalizing desk with
  | nil => exact isOpen
  | cons act rest inductionHypothesis =>
    rw [List.mem_cons, not_or] at kept
    exact inductionHypothesis (isOpen_apply isOpen (Ne.symm kept.1)) kept.2

theorem requests_run_of_closed (closed : desk.requests.isOpen = false) (acts : List Act) :
    (desk.run acts).requests = desk.requests := by
  induction acts generalizing desk with
  | nil => rfl
  | cons act rest inductionHypothesis =>
    have same := requests_apply_of_closed closed act
    have stillClosed : (desk.apply act).requests.isOpen = false := same ▸ closed
    exact (inductionHypothesis stillClosed).trans same

theorem isOpen_run_of_close (shut : .close ∈ acts) : (desk.run acts).requests.isOpen = false := by
  rcases List.append_of_mem shut with ⟨earlier, later, rfl⟩
  have closed : ((desk.run earlier).apply .close).requests.isOpen = false := rfl
  have same := requests_run_of_closed closed later
  rw [run_append]
  change (((desk.run earlier).apply .close).run later).requests.isOpen = false
  rw [same, closed]

/-- Until somebody takes it out, the signal is that of the earliest request.  Those that come later
find it there. -/
theorem signal_run (isOpen : desk.requests.isOpen = true) (left : .receive ∉ acts)
    (kept : .close ∉ acts) :
    (desk.run acts).requests.signal = desk.requests.signal.or (desk.asked acts).head? := by
  induction acts generalizing desk with
  | nil => exact (Option.or_none).symm
  | cons act rest inductionHypothesis =>
    rw [List.mem_cons, not_or] at left kept
    change ((desk.apply act).run rest).requests.signal =
      desk.requests.signal.or ((desk.asks? act).toList ++ (desk.apply act).asked rest).head?
    rw [inductionHypothesis (isOpen_apply isOpen (Ne.symm kept.1)) left.2 kept.2,
      signal_apply isOpen (Ne.symm left.1) (Ne.symm kept.1), List.head?_append, Option.or_assoc]
    cases desk.asks? act <;> rfl

theorem flights_run (desk : Desk) (acts : List Act) :
    (desk.run acts).inventory.flights =
      (desk.inventory.changed (acts.filterMap Act.change?)).flights := by
  induction acts using List.reverseRecOn with
  | nil => rfl
  | append_singleton acts act inductionHypothesis =>
    have last : [act].filterMap Act.change? = act.change?.toList := by
      cases made : act.change? <;> simp [made]
    rw [run_append, List.filterMap_append, last]
    change ((desk.run acts).apply act).inventory.flights = _
    rw [flights_apply]
    cases act.change? with
    | none =>
      rw [Option.toList_none, List.append_nil]
      exact inductionHypothesis
    | some made =>
      rw [Option.toList_some, MemoryInventory.changed_concat]
      exact MemoryInventory.flights_apply_congr inductionHypothesis made

/-- As long as nobody asks for a rebuild, an attached inventory lists the same flights. -/
theorem flights_run_of_not_asked (attached : desk.inventory.attached = true)
    (silent : desk.asked acts = []) :
    (desk.run acts).inventory.flights = desk.inventory.flights := by
  induction acts generalizing desk with
  | nil => rfl
  | cons act rest inductionHypothesis =>
    have apart : (desk.asks? act).toList = [] ∧ (desk.apply act).asked rest = [] :=
      List.append_eq_nil_iff.mp silent
    have next := inductionHypothesis (attached_apply attached act) apart.2
    exact next.trans (flights_apply_of_not_asks attached (Option.toList_eq_nil_iff.mp apart.1))

/-- If an attached inventory lists other flights than before, somebody has asked, and the signal is
still there. -/
theorem isSome_signal_run (isOpen : desk.requests.isOpen = true)
    (attached : desk.inventory.attached = true) (left : .receive ∉ acts) (kept : .close ∉ acts)
    (different : (desk.run acts).inventory.flights ≠ desk.inventory.flights) :
    (desk.run acts).requests.signal.isSome = true := by
  rw [signal_run isOpen left kept]
  cases asked : desk.asked acts with
  | nil => exact absurd (flights_run_of_not_asked attached asked) different
  | cons first rest => cases desk.requests.signal <;> rfl

/-- From a queue that was empty, the signal of the earliest request is taken out, the only one
that has found the queue empty. -/
theorem receive_run (isOpen : desk.requests.isOpen = true) (empty : desk.requests.signal = none)
    (left : .receive ∉ acts) (kept : .close ∉ acts) :
    (desk.run acts).receive.1 = (desk.sent acts).head? ∧
      (desk.run acts).receive.1 = (desk.asked acts).head? := by
  have answer : (desk.run acts).receive.1 = (desk.run acts).requests.signal :=
    congrArg (·.1) (Requests.receive_of_isOpen (isOpen_run isOpen kept))
  have passed := desk.signal_append_sent acts
  rw [empty, taken_eq_nil left, Option.toList_none, List.nil_append, List.nil_append] at passed
  have queued := signal_run isOpen left kept
  rw [empty, Option.none_or] at queued
  constructor
  · rw [answer, passed, Option.head?_toList]
  · rw [answer, queued]

/-- Whatever is done at a desk, changes take effect, and signals are taken out in the order in
which they have come, with at most one of them waiting.  While the queue is open, a signal is
there whenever the flights of an attached inventory are others than at some moment since which
none was taken out; what is taken out next is the signal of the earliest request since the
last attempt, which has found the queue empty; and a request rides on a signal if there is
one.  Once the queue is closed, requests are turned away and leave nothing behind, be it those
of changes or others. -/
theorem changes_leave_signals (flights : List Flight) (acts : List Act) :
    let start : Desk := { inventory := { flights := flights } }
    let now := start.run acts
    now.inventory.flights =
      (start.inventory.changed (acts.filterMap Act.change?)).flights ∧
    start.sent acts = start.taken acts ++ now.requests.signal.toList ∧
    (.close ∉ acts →
      (∀ earlier later, acts = earlier ++ later → .receive ∉ later →
        ((start.run earlier).inventory.attached = true →
          now.inventory.flights ≠ (start.run earlier).inventory.flights →
          now.requests.signal.isSome = true) ∧
        ((earlier = [] ∨ ∃ before, earlier = before ++ [.receive]) →
          now.receive.1 = ((start.run earlier).sent later).head? ∧
          now.receive.1 = ((start.run earlier).asked later).head?)) ∧
      ∀ reason, (now.request reason).1 = .coalesced ↔ now.requests.signal.isSome = true) ∧
    (.close ∈ acts →
      (∀ reason, now.request reason = (.stopped, now)) ∧
      ∀ act, (now.apply act).requests = now.requests) := by
  intro start now
  refine ⟨start.flights_run acts, start.signal_append_sent acts, fun kept => ?_, fun shut => ?_⟩
  · have isOpen : now.requests.isOpen = true := isOpen_run rfl kept
    refine ⟨fun earlier later whole left => ?_,
      fun reason => Requests.request_fst_eq_coalesced_iff isOpen now.state reason⟩
    subst whole
    rw [List.mem_append, not_or] at kept
    have before : (start.run earlier).requests.isOpen = true := isOpen_run rfl kept.1
    have reached : now = (start.run earlier).run later := start.run_append earlier later
    rw [reached]
    refine ⟨fun attached => isSome_signal_run before attached left kept.2, fun attempted => ?_⟩
    have empty : (start.run earlier).requests.signal = none := by
      rcases attempted with rfl | ⟨first, rfl⟩
      · rfl
      · rw [run_append]
        exact signal_receive (isOpen_run rfl fun shut => kept.1 (List.mem_append_left _ shut))
    exact receive_run before empty left kept.2
  · have closed : now.requests.isOpen = false := isOpen_run_of_close shut
    refine ⟨fun reason => ?_, requests_apply_of_closed closed⟩
    rw [request, Requests.request_of_closed closed]

end Desk

/-! ## At a coordinator -/

namespace Coordinator

/-- What those have in front of them who change the inventory of a coordinator. -/
def desk? (coordinator : Coordinator) : Option Desk :=
  match coordinator.inventory with
  | .memory inventory => some ⟨inventory, coordinator.requests, coordinator.state⟩
  | .file _ => none

def Move.act? : Move → Option Desk.Act
  | .attach => some .attach
  | .upsert flight => some (.change (.upsert flight))
  | .replace flights => some (.change (.replace flights))
  | .remove id => some (.change (.remove id))
  | .request reason => some (.request reason)
  | _ => none

/-- A coordinator makes of changes and requests what is made of them at its desk. -/
theorem desk?_apply (coordinator : Coordinator) {move : Move} {act : Desk.Act}
    (same : move.act? = some act) :
    (coordinator.apply move).desk? = coordinator.desk?.map (·.apply act) := by
  rcases coordinator with ⟨engine, inventory | content⟩
  · cases move with
    | remove id =>
      cases same
      have listed : (inventory.removal id).1 = inventory.contains id := by
        rw [Bool.eq_iff_iff, inventory.removal_fst_iff, MemoryInventory.contains,
          MemoryInventory.ids]
        simp
      cases known : inventory.contains id with
      | true =>
        simp only [apply, remove, lists, known, desk?, Desk.apply, Desk.remove, listed, if_true,
          Option.map_some]
        rfl
      | false =>
        have kept := MemoryInventory.removal_snd_of_fst (listed.trans known)
        simp [apply, remove, lists, known, desk?, Desk.apply, Desk.remove, listed, kept]
    | attach | upsert | replace | request =>
      cases same
      rfl
    | _ => cases same
  · cases move with
    | attach | upsert | replace | remove | request =>
      cases same
      rfl
    | _ => cases same

end Coordinator
end Rebuild
end Itineraries
