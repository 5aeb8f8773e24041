import Mathlib.Data.List.Induction
import Itineraries.Proofs.Moves

namespace Itineraries
namespace Rebuild
namespace Coordinator

/-!
# No request is forgotten

A request that finds a signal in the queue has none of its own, and a rebuild
for somebody else may cover a signal before the loop takes it.  What is owed to
those who have asked is therefore not to be read off the queue alone.  It is
read off the tickets: as long as the latest of them is covered by no rebuild,
there is a signal in the queue, or else somebody in the line whose ticket is
later than every rebuild that has begun.
-/

/-- Somebody asks for a rebuild by a move and is not turned away. -/
def Accepts (coordinator : Coordinator) (move : Move) : Prop :=
  (∃ reason, move = .call reason) ∨
    ∃ reason, coordinator.asks? move = some reason ∧ (coordinator.request reason).1 ≠ .stopped

/-- A rebuild begins on the way from one state to the next. -/
def BeginsInto (coordinator next : Coordinator) : Prop :=
  coordinator.state = .idle ∧ next.state = .rebuilding

/-- In the course of some moves a request has been accepted, and no rebuild has
begun after it. -/
def AskedSinceBegin (start : Coordinator) (moves : List Move) : Prop :=
  ∃ before move after, moves = before ++ move :: after ∧ (start.run before).Accepts move ∧
    ∀ earlier next later, after = earlier ++ next :: later →
      ¬(start.run (before ++ move :: earlier)).BeginsInto
        ((start.run (before ++ move :: earlier)).apply next)

/-- Those for whom a rebuild is in progress or who wait for one. -/
def demands (coordinator : Coordinator) : List Demand :=
  (coordinator.running.map (·.demand)).toList ++ coordinator.line

theorem demands_of_idle {coordinator : Coordinator} (idle : coordinator.running = none) :
    coordinator.demands = coordinator.line := by
  rw [demands, idle]
  rfl

theorem demands_of_running {coordinator : Coordinator} {rebuild : Running}
    (running : coordinator.running = some rebuild) :
    coordinator.demands = rebuild.demand :: coordinator.line := by
  rw [demands, running]
  rfl

/-- A signal is in the queue, or the loop has taken one and waits in the line
with a ticket above that of every rebuild that has begun, or a caller does. -/
def IsStoodFor (coordinator : Coordinator) : Prop :=
  coordinator.requests.signal.isSome = true ∨
    (coordinator.loop = .busy ∧
      ∃ demand ∈ coordinator.line,
        demand.holder = .loop ∧ coordinator.begun < demand.ticket) ∨
    ∃ demand ∈ coordinator.line,
      (∃ number, demand.holder = .caller number) ∧ coordinator.begun < demand.ticket

/-- Nobody can do anything but wait for requests or for a read. -/
structure AtStandstill (coordinator : Coordinator) : Prop where
  take : coordinator.take = coordinator
  leave : coordinator.leave = coordinator
  serveFirst : coordinator.serveFirst = coordinator
  finish : coordinator.finish = coordinator

/-- A read of the inventory has begun and not ended. -/
def IsReading (coordinator : Coordinator) : Prop :=
  ∃ demand covers, coordinator.running = some ⟨demand, covers, .reading⟩

/-! ## Who stands for the latest ticket -/

/-- What the tickets, the queue and the line have to do with each other.  The loop waits for
one rebuild at a time, and it is busy until then. -/
structure Accounted (coordinator : Coordinator) : Prop where
  begun_le : coordinator.begun ≤ coordinator.requests.issued
  running_le : ∀ running, coordinator.running = some running →
    running.covers ≤ coordinator.begun
  finished_le : ∀ finished, coordinator.finished = some finished →
    finished.covers ≤ coordinator.begun
  isOpen : coordinator.loop ≠ .ended → coordinator.requests.isOpen = true
  loop_once : coordinator.demands.countP (·.holder = .loop) =
    if coordinator.loop = .busy then 1 else 0
  stood : coordinator.loop ≠ .ended → coordinator.begun < coordinator.requests.issued →
    coordinator.requests.signal.isSome = true ∨
      ∃ demand ∈ coordinator.line, coordinator.begun < demand.ticket

namespace Accounted

variable {coordinator next : Coordinator} {move : Move}

theorem initial (engine : Engine) (inventory : Inventory) :
    Accounted { engine := engine, inventory := inventory } where
  begun_le := Nat.le_refl 0
  running_le := nofun
  finished_le := nofun
  isOpen _ := rfl
  loop_once := rfl
  stood _ impossible := absurd impossible (Nat.lt_irrefl 0)

/-- When somebody who has been waiting goes, the loop is busy as before, unless
it was the loop that went. -/
theorem loop_once_of_departed (accounted : coordinator.Accounted) {demand : Demand}
    {rest : List Demand} (waiting : coordinator.demands = demand :: rest) :
    rest.countP (·.holder = .loop) =
      if coordinator.phaseAfter demand.holder = .busy then 1 else 0 := by
  have once := accounted.loop_once
  rw [waiting, List.countP_cons] at once
  cases holder : demand.holder with
  | caller number =>
    rw [holder] at once
    exact once
  | loop =>
    rw [holder, decide_eq_true rfl, if_pos rfl] at once
    have nobodyElse : rest.countP (·.holder = .loop) = 0 := by
      split at once <;> omega
    rw [nobodyElse]
    rfl

/-- A loop that has ended has been waiting for nothing. -/
theorem loop_ne_ended_of_departed (accounted : coordinator.Accounted) {demand : Demand}
    {rest : List Demand} (waiting : coordinator.demands = demand :: rest)
    (goesOn : coordinator.phaseAfter demand.holder ≠ .ended) : coordinator.loop ≠ .ended := by
  cases holder : demand.holder with
  | caller number =>
    rw [holder] at goesOn
    exact goesOn
  | loop =>
    have once := accounted.loop_once
    rw [waiting, List.countP_cons, holder, decide_eq_true rfl, if_pos rfl] at once
    intro ended
    rw [ended, if_neg nofun] at once
    exact absurd once (Nat.succ_ne_zero _)

/-- Whoever asks while the loop has not ended finds a signal in the queue, if
only their own. -/
theorem request (accounted : coordinator.Accounted) (reason : Reason) :
    (coordinator.request reason).2.Accounted := by
  unfold Coordinator.request
  by_cases isOpen : coordinator.requests.isOpen = true
  · rcases Requests.request_of_isOpen isOpen coordinator.state reason with
      ⟨outcome, signal, coalesced, _, same⟩
    rw [same]
    exact
      { begun_le := Nat.le_succ_of_le accounted.begun_le
        running_le := accounted.running_le
        finished_le := accounted.finished_le
        isOpen := accounted.isOpen
        loop_once := accounted.loop_once
        stood := fun _ _ => Or.inl rfl }
  · rw [Requests.request_of_closed (Bool.eq_false_iff.mpr isOpen)]
    exact accounted

theorem step (accounted : coordinator.Accounted) (step : Step coordinator move next) :
    next.Accounted := by
  cases step with
  | stay | change | stop | search | invalidate =>
    exact ⟨accounted.begun_le, accounted.running_le, accounted.finished_le, accounted.isOpen,
      accounted.loop_once, accounted.stood⟩
  | start unstarted =>
    have asked := accounted.request .startup
    have running : coordinator.loop ≠ .ended := by
      rw [unstarted]
      nofun
    refine ⟨asked.begun_le, asked.running_le, asked.finished_le, fun _ => asked.isOpen running,
      ?_, fun _ => asked.stood running⟩
    have once := asked.loop_once
    change _ = if coordinator.loop = .busy then 1 else 0 at once
    rw [unstarted] at once
    exact once
  | @ask _ reason _ _ =>
    have asked := accounted.request reason
    exact ⟨asked.begun_le, asked.running_le, asked.finished_le, asked.isOpen, asked.loop_once,
      asked.stood⟩
  | call reason =>
    refine ⟨Nat.le_succ_of_le accounted.begun_le, accounted.running_le, accounted.finished_le,
      accounted.isOpen, ?_, fun _ _ => Or.inr ⟨_, List.mem_append_right _ List.mem_cons_self,
        Nat.lt_succ_of_le accounted.begun_le⟩⟩
    change List.countP _ (_ ++ (coordinator.line ++ [_])) = _
    rw [← List.append_assoc, List.countP_append]
    exact accounted.loop_once
  | @take reason waiting _ isOpen _ =>
    refine ⟨accounted.begun_le, accounted.running_le, accounted.finished_le, fun _ => isOpen, ?_,
      fun _ uncovered => Or.inr ⟨_, List.mem_append_right _ List.mem_cons_self, uncovered⟩⟩
    have once := accounted.loop_once
    rw [waiting, if_neg nofun] at once
    change List.countP _ (_ ++ (coordinator.line ++ [_])) = 1
    rw [← List.append_assoc, List.countP_append]
    change coordinator.demands.countP _ + 1 = 1
    rw [once]
  | leave waiting =>
    refine ⟨accounted.begun_le, accounted.running_le, accounted.finished_le,
      fun running => absurd rfl running, ?_, fun running => absurd rfl running⟩
    have once := accounted.loop_once
    rw [waiting] at once
    exact once
  | @satisfy demand line finished idle first ended covered =>
    have waiting := (demands_of_idle idle).trans first
    have alive := accounted.loop_ne_ended_of_departed waiting
    refine ⟨accounted.begun_le, accounted.running_le, accounted.finished_le,
      fun running => accounted.isOpen (alive running), ?_, fun running uncovered => ?_⟩
    · have once := accounted.loop_once_of_departed waiting
      rw [demands, idle]
      exact once
    · -- the first in line was covered, so it was not they who stood for the rest
      rcases accounted.stood (alive running) uncovered with signal | ⟨other, member, later⟩
      · exact Or.inl signal
      · rw [first] at member
        rcases List.mem_cons.mp member with same | member
        · rw [same] at later
          have enough := accounted.finished_le finished ended
          exact absurd (Nat.le_trans covered enough) (Nat.not_le_of_lt later)
        · exact Or.inr ⟨other, member, later⟩
  | @begin demand line idle first _ =>
    refine ⟨Nat.max_le.mpr ⟨accounted.begun_le, Nat.le_refl _⟩, ?_, ?_, accounted.isOpen, ?_, ?_⟩
    · intro running same
      rw [← Option.some.inj same]
      exact Nat.le_max_right _ _
    · intro finished ended
      exact Nat.le_trans (accounted.finished_le finished ended) (Nat.le_max_left _ _)
    · have once := accounted.loop_once
      rw [demands, idle, first] at once
      exact once
    · intro _ uncovered
      exact absurd uncovered (Nat.not_lt_of_le (Nat.le_max_right _ _))
  | @endRead demand covers readEnd reading =>
    refine ⟨accounted.begun_le, ?_, accounted.finished_le, accounted.isOpen, ?_, accounted.stood⟩
    · intro running same
      rw [← Option.some.inj same]
      exact accounted.running_le ⟨demand, covers, .reading⟩ reading
    · have once := accounted.loop_once
      rw [demands, reading] at once
      exact once
  | @finish demand covers outcome result decided _ =>
    have waiting := demands_of_running decided
    have alive := accounted.loop_ne_ended_of_departed waiting
    refine ⟨accounted.begun_le, nofun, ?_, fun running => accounted.isOpen (alive running),
      accounted.loop_once_of_departed waiting, fun running => accounted.stood (alive running)⟩
    intro finished same
    rw [← Option.some.inj same]
    exact accounted.running_le ⟨demand, covers, .decided outcome⟩ decided

theorem run (engine : Engine) (inventory : Inventory) (moves : List Move) :
    (Coordinator.run { engine := engine, inventory := inventory } moves).Accounted :=
  run_induction (initial engine inventory) fun _ _ _ _ accounted step => accounted.step step

end Accounted

/-! ## Who has asked since the latest rebuild began -/

section Asked

variable {coordinator next : Coordinator} {move : Move}

theorem IsSilent.not_accepts (silent : coordinator.IsSilent move) :
    ¬coordinator.Accepts move := by
  rintro (⟨reason, called⟩ | ⟨reason, asks, _⟩)
  · exact silent.2 reason called
  · rw [silent.1] at asks
    cases asks

theorem not_beginsInto_of_running_eq (same : next.running = coordinator.running) :
    ¬coordinator.BeginsInto next := by
  rintro ⟨idle, rebuilding⟩
  rw [state, same] at rebuilding
  rw [state, rebuilding] at idle
  cases idle

/-- A move by which nobody asks and no rebuild begins leaves pending what was. -/
private theorem pending_iff_of_silent (silent : coordinator.IsSilent move)
    (same : next.pending = coordinator.pending)
    (notBegun : ¬coordinator.BeginsInto next) :
    next.pending = true ↔ coordinator.Accepts move ∨
      coordinator.pending = true ∧ ¬coordinator.BeginsInto next := by
  rw [same]
  constructor
  · exact fun pending => Or.inr ⟨pending, notBegun⟩
  · rintro (accepted | ⟨pending, _⟩)
    · exact absurd accepted silent.not_accepts
    · exact pending

/-- When somebody asks the loop, something is pending if they were accepted, or
if it was before. -/
private theorem pending_iff_of_asks (begun_le : coordinator.begun ≤ coordinator.requests.issued)
    {reason : Reason} (asks : coordinator.asks? move = some reason)
    (begun : next.begun = coordinator.begun) (running : next.running = coordinator.running)
    (requests : next.requests =
      (coordinator.requests.request coordinator.state reason).2) :
    next.pending = true ↔ coordinator.Accepts move ∨
      coordinator.pending = true ∧ ¬coordinator.BeginsInto next := by
  have notBegun := not_beginsInto_of_running_eq running
  by_cases isOpen : coordinator.requests.isOpen = true
  · have accepted := (Requests.request_fst_ne_stopped_iff coordinator.state reason).mpr isOpen
    rcases Requests.request_of_isOpen isOpen coordinator.state reason with
      ⟨_, _, _, _, same⟩
    refine iff_of_true ?_ (Or.inl (Or.inr ⟨reason, asks, accepted⟩))
    rw [pending, begun, requests, same]
    exact decide_eq_true (Nat.lt_succ_of_le begun_le)
  · have closed := Bool.eq_false_iff.mpr isOpen
    rw [Requests.request_of_closed closed] at requests
    have same : next.pending = coordinator.pending := by rw [pending, pending, begun, requests]
    rw [same]
    constructor
    · exact fun pending => Or.inr ⟨pending, notBegun⟩
    · rintro ((⟨_, called⟩ | ⟨_, asked, accepted⟩) | ⟨pending, _⟩)
      · rw [called] at asks
        cases asks
      · exact absurd ((Requests.request_fst_ne_stopped_iff _ _).mp accepted) isOpen
      · exact pending

/-- What is pending after a step: a request that was accepted just now, or an
earlier one unless a rebuild has begun by this step. -/
theorem Step.pending_iff (step : Step coordinator move next)
    (begun_le : coordinator.begun ≤ coordinator.requests.issued) :
    next.pending = true ↔ coordinator.Accepts move ∨
      coordinator.pending = true ∧ ¬coordinator.BeginsInto next := by
  cases step with
  | stay silent | change silent =>
    exact pending_iff_of_silent silent rfl (not_beginsInto_of_running_eq rfl)
  | start unstarted => exact pending_iff_of_asks begun_le (if_pos unstarted) rfl rfl rfl
  | ask _ asks => exact pending_iff_of_asks begun_le asks rfl rfl rfl
  | call reason =>
    exact iff_of_true (decide_eq_true (Nat.lt_succ_of_le begun_le)) (Or.inl (Or.inl ⟨_, rfl⟩))
  | begin idle first _ =>
    have covered : ¬max coordinator.begun coordinator.requests.issued <
        coordinator.requests.issued := Nat.not_lt_of_le (Nat.le_max_right _ _)
    refine iff_of_false (fun pending => covered (of_decide_eq_true pending)) ?_
    rintro (accepted | ⟨_, notBegun⟩)
    · exact absurd accepted (IsSilent.not_accepts ⟨rfl, nofun⟩)
    · refine notBegun ⟨?_, rfl⟩
      rw [state, idle]
      rfl
  | endRead _ reading =>
    refine pending_iff_of_silent ⟨rfl, nofun⟩ rfl fun begun => ?_
    have idle := begun.1
    rw [state, reading] at idle
    cases idle
  | finish =>
    exact pending_iff_of_silent ⟨rfl, nofun⟩ rfl fun begun => absurd begun.2 nofun
  | stop | take | leave | satisfy | search | invalidate =>
    exact pending_iff_of_silent ⟨rfl, nofun⟩ rfl (not_beginsInto_of_running_eq rfl)

/-- The two ways in which a row with one more move at its end can be divided at
a move. -/
private theorem concat_eq_append_cons {moves before after : List Move} {last move : Move}
    (same : moves ++ [last] = before ++ move :: after) :
    (moves = before ∧ last = move ∧ after = []) ∨
      ∃ rest, moves = before ++ move :: rest ∧ after = rest ++ [last] := by
  rcases List.eq_nil_or_concat after with rfl | ⟨rest, final, rfl⟩
  · rcases List.append_inj' same rfl with ⟨front, back⟩
    exact Or.inl ⟨front, (List.cons.inj back).1, rfl⟩
  · rw [List.concat_eq_append, ← List.cons_append, ← List.append_assoc] at same
    rcases List.append_inj' same rfl with ⟨front, back⟩
    refine Or.inr ⟨rest, front, ?_⟩
    rw [back, List.concat_eq_append]

theorem not_askedSinceBegin_nil (start : Coordinator) : ¬AskedSinceBegin start [] := by
  rintro ⟨before, move, after, same, _⟩
  exact List.append_ne_nil_of_right_ne_nil before (List.cons_ne_nil move after) same.symm

theorem askedSinceBegin_concat (start : Coordinator) (moves : List Move) (last : Move) :
    AskedSinceBegin start (moves ++ [last]) ↔ (start.run moves).Accepts last ∨
      AskedSinceBegin start moves ∧
        ¬(start.run moves).BeginsInto ((start.run moves).apply last) := by
  constructor
  · rintro ⟨before, move, after, same, accepted, unbegun⟩
    rcases concat_eq_append_cons same with ⟨rfl, rfl, rfl⟩ | ⟨rest, rfl, rfl⟩
    · exact Or.inl accepted
    · refine Or.inr ⟨⟨before, move, rest, rfl, accepted, ?_⟩, unbegun rest last [] rfl⟩
      rintro earlier next later rfl
      refine unbegun earlier next (later ++ [last]) ?_
      rw [List.append_assoc, List.cons_append]
  · rintro (accepted | ⟨⟨before, move, after, rfl, accepted, unbegun⟩, notBegun⟩)
    · refine ⟨moves, last, [], rfl, accepted, ?_⟩
      intro earlier next later impossible
      exact absurd impossible.symm
        (List.append_ne_nil_of_right_ne_nil earlier (List.cons_ne_nil next later))
    · refine ⟨before, move, after ++ [last], ?_, accepted, ?_⟩
      · rw [List.append_assoc, List.cons_append]
      · intro earlier next later same
        rcases concat_eq_append_cons same with ⟨rfl, rfl, rfl⟩ | ⟨rest, rfl, rfl⟩
        · exact notBegun
        · exact unbegun earlier next rest rfl

/-- A rebuild is pending as long as somebody was accepted after the latest
rebuild began. -/
theorem pending_iff_askedSinceBegin (engine : Engine) (inventory : Inventory)
    (moves : List Move) :
    (run { engine := engine, inventory := inventory } moves).pending = true ↔
      AskedSinceBegin { engine := engine, inventory := inventory } moves := by
  induction moves using List.reverseRecOn with
  | nil => exact iff_of_false (by nofun) (not_askedSinceBegin_nil _)
  | append_singleton moves last inductionHypothesis =>
    have accounted := Accounted.run engine inventory moves
    rw [run_concat, askedSinceBegin_concat, ← inductionHypothesis]
    exact (step_apply _ last).pending_iff accounted.begun_le

end Asked

/-! ## Standstill -/

variable {coordinator : Coordinator}

namespace AtStandstill

/-- At a standstill without a read there is no rebuild in progress. -/
theorem running_eq_none (still : coordinator.AtStandstill) (noRead : ¬coordinator.IsReading) :
    coordinator.running = none := by
  cases running : coordinator.running with
  | none => rfl
  | some rebuild =>
    rcases rebuild with ⟨demand, covers, _ | outcome⟩
    · exact absurd ⟨demand, covers, running⟩ noRead
    · have ended : coordinator.finish.running = none := by rw [finish_of_decided running]
      rw [still.finish, running] at ended
      cases ended

theorem line_eq_nil (still : coordinator.AtStandstill) (idle : coordinator.running = none) :
    coordinator.line = [] := by
  cases first : coordinator.line with
  | nil => rfl
  | cons demand rest =>
    have shorter : coordinator.serveFirst.line = rest := by
      unfold Coordinator.serveFirst
      rw [idle, first]
      dsimp only
      split
      · rw [deliver_eq]
      · rfl
    rw [still.serveFirst, first] at shorter
    exact absurd shorter (List.cons_ne_self demand rest)

theorem demands_eq_nil (still : coordinator.AtStandstill) (noRead : ¬coordinator.IsReading) :
    coordinator.demands = [] := by
  have idle := still.running_eq_none noRead
  rw [demands_of_idle idle, still.line_eq_nil idle]

/-- A loop at its queue that cannot take anything finds the queue empty. -/
theorem signal_eq_none (still : coordinator.AtStandstill) (accounted : coordinator.Accounted)
    (waiting : coordinator.loop = .atQueue) (goesOn : coordinator.stopping = false) :
    coordinator.requests.signal = none := by
  cases queued : coordinator.requests.signal with
  | none => rfl
  | some reason =>
    have isOpen := accounted.isOpen (by rw [waiting]; nofun)
    have taken : coordinator.take.loop = .busy := by
      unfold Coordinator.take
      rw [if_pos ⟨waiting, Bool.not_eq_true _ ▸ goesOn⟩, Requests.receive_of_isOpen isOpen,
        queued]
    rw [still.take, waiting] at taken
    cases taken

end AtStandstill

namespace Accounted

theorem busy_of_mem_line (accounted : coordinator.Accounted) {demand : Demand}
    (member : demand ∈ coordinator.line) (holder : demand.holder = .loop) :
    coordinator.loop = .busy := by
  have once := accounted.loop_once
  have waits : 0 < coordinator.demands.countP (·.holder = .loop) :=
    List.countP_pos_iff.mpr ⟨demand, List.mem_append_right _ member, decide_eq_true holder⟩
  split at once
  · assumption
  · exact absurd once (Nat.ne_of_gt waits)

theorem isStoodFor (accounted : coordinator.Accounted) (goesOn : coordinator.loop ≠ .ended)
    (pending : coordinator.pending = true) : coordinator.IsStoodFor := by
  rcases accounted.stood goesOn (of_decide_eq_true pending) with signal | ⟨demand, member, later⟩
  · exact Or.inl signal
  · cases holder : demand.holder with
    | loop =>
      exact Or.inr (Or.inl
        ⟨accounted.busy_of_mem_line member holder, demand, member, holder, later⟩)
    | caller number => exact Or.inr (Or.inr ⟨demand, member, ⟨number, holder⟩, later⟩)

/-- A listening loop that waits for no rebuild waits for a signal. -/
theorem loop_eq_atQueue (accounted : coordinator.Accounted)
    (listening : coordinator.isListening = true) (nobody : coordinator.demands = []) :
    coordinator.loop = .atQueue := by
  rw [isListening, Bool.and_eq_true, Bool.or_eq_true] at listening
  rcases listening.1 with waiting | busy
  · exact of_decide_eq_true waiting
  · have once := accounted.loop_once
    rw [nobody, if_pos (of_decide_eq_true busy)] at once
    cases once

/-- At a standstill a listening loop has left nothing in the queue. -/
theorem signal_eq_none (accounted : coordinator.Accounted)
    (listening : coordinator.isListening = true) (still : coordinator.AtStandstill)
    (noRead : ¬coordinator.IsReading) : coordinator.requests.signal = none := by
  have waiting := accounted.loop_eq_atQueue listening (still.demands_eq_nil noRead)
  rw [isListening, Bool.and_eq_true, Bool.not_eq_true'] at listening
  exact still.signal_eq_none accounted waiting listening.2

theorem pending_eq_false (accounted : coordinator.Accounted)
    (listening : coordinator.isListening = true) (still : coordinator.AtStandstill)
    (noRead : ¬coordinator.IsReading) : coordinator.pending = false := by
  have nobody := still.demands_eq_nil noRead
  have waiting := accounted.loop_eq_atQueue listening nobody
  have empty := accounted.signal_eq_none listening still noRead
  refine Bool.eq_false_iff.mpr fun pending => ?_
  have goesOn : coordinator.loop ≠ .ended := by
    rw [waiting]
    nofun
  rcases accounted.stood goesOn (of_decide_eq_true pending) with signal | ⟨demand, member, _⟩
  · rw [empty] at signal
    cases signal
  · have waits : demand ∈ coordinator.demands := List.mem_append_right _ member
    rw [nobody] at waits
    cases waits

end Accounted

/-- Whatever has happened since the beginning, a rebuild is pending exactly if a
request has been accepted since the latest rebuild began.  Unless the loop has
ended, something will then lead to a rebuild, so that nothing is pending any more
when all who can act have acted. -/
theorem accepted_requests_stood_for (engine : Engine) (inventory : Inventory)
    (moves : List Move) :
    let start : Coordinator := { engine := engine, inventory := inventory }
    let reached := start.run moves
    (reached.pending = true ↔ AskedSinceBegin start moves) ∧
      (reached.loop ≠ .ended → reached.pending = true → reached.IsStoodFor) ∧
      (reached.isListening = true → reached.AtStandstill → ¬reached.IsReading →
        reached.pending = false) := by
  intro start reached
  have accounted : reached.Accounted := .run engine inventory moves
  exact ⟨pending_iff_askedSinceBegin engine inventory moves, accounted.isStoodFor,
    accounted.pending_eq_false⟩

private def untouched : Coordinator where
  engine := ⟨{}, Config.valid_default, .fixed [], Snapshot.empty, []⟩
  inventory := .memory {}

/-- The request with which the loop starts is stood for until its rebuild begins,
and once that has ended nothing is pending. -/
theorem startup_stood_for :
    (untouched.run [.start, .take]).IsStoodFor ∧
      (untouched.run [.start, .take, .serveFirst, .endRead .timedOut, .finish]).pending = false := by
  have taken := accepted_requests_stood_for untouched.engine untouched.inventory [.start, .take]
  have served := accepted_requests_stood_for untouched.engine untouched.inventory
    [.start, .take, .serveFirst, .endRead .timedOut, .finish]
  refine ⟨taken.2.1 (by decide) (by decide), served.2.2 (by decide) ⟨rfl, rfl, rfl, rfl⟩ ?_⟩
  rintro ⟨demand, covers, reading⟩
  cases reading

end Coordinator
end Rebuild
end Itineraries
