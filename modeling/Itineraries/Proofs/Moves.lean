import Itineraries.Rebuild.Coordinator

namespace Itineraries
namespace Rebuild
namespace Coordinator

/-!
# What a move can do

A move that cannot be made leaves everything as it is, and nobody asks for a
rebuild by it.  The other steps listed here are those that something comes of,
each with the conditions under which it is made and with the state that it
leaves.  What every step keeps holds after every
row of moves, so an invariant need not be compared with the moves themselves.
-/

/-! ## Requests and contents -/

def isAttached (coordinator : Coordinator) : Bool :=
  match coordinator.inventory with
  | .memory inventory => inventory.attached
  | .file _ => false

/-- What a move asks the scheduling loop for, if it does. -/
def asks? (coordinator : Coordinator) : Move → Option Reason
  | .request reason => some reason
  | .tick => if coordinator.isListening then some .timer else none
  | .start => if coordinator.loop = .unstarted then some .startup else none
  | .upsert _ | .replace _ => if coordinator.isAttached then some .inventoryChanged else none
  | .remove id =>
    if coordinator.lists id && coordinator.isAttached then some .inventoryChanged else none
  | _ => none

/-- By a move nobody asks for a rebuild, neither the loop nor in person. -/
def IsSilent (coordinator : Coordinator) (move : Move) : Prop :=
  coordinator.asks? move = none ∧ ∀ reason, move ≠ .call reason

def inventoryAfter (coordinator : Coordinator) : Move → Inventory
  | .attach => coordinator.attach.inventory
  | .upsert flight => (coordinator.changeMemory (·.upsert flight)).inventory
  | .replace flights => (coordinator.changeMemory (·.replace flights)).inventory
  | .remove id => (coordinator.changeMemory (·.remove id)).inventory
  | .setFile content => (coordinator.setFile content).inventory
  | _ => coordinator.inventory

/-- What the loop does once somebody has left the line. -/
def phaseAfter (coordinator : Coordinator) : Holder → LoopPhase
  | .loop => .atQueue
  | .caller _ => coordinator.loop

/-- The answers once somebody has been given a result. -/
def answersAfter (coordinator : Coordinator) (holder : Holder) (result : Result) :
    List (Nat × Result) :=
  match holder with
  | .loop => coordinator.answers
  | .caller number => coordinator.answers ++ [(number, result)]

/-- The steps of a coordinator.  A request, with or without a change of the inventory, is
one step whoever asks, except for the one that comes with the start of the loop; a change
that asks for nothing is another.  The first in line is served in one of two ways: with the
outcome of the last rebuild, or by a rebuild that begins. -/
inductive Step (coordinator : Coordinator) : Move → Coordinator → Prop where
  | stay {move : Move} (silent : coordinator.IsSilent move) : Step coordinator move coordinator
  | start (unstarted : coordinator.loop = .unstarted) :
      Step coordinator .start
        { coordinator with
          requests := (coordinator.requests.request coordinator.state .startup).2
          loop := .atQueue }
  | ask {move : Move} {reason : Reason} (other : move ≠ .start)
      (asks : coordinator.asks? move = some reason) :
      Step coordinator move
        { coordinator with
          inventory := coordinator.inventoryAfter move
          requests := (coordinator.requests.request coordinator.state reason).2 }
  | change {move : Move} (silent : coordinator.IsSilent move) :
      Step coordinator move
        { coordinator with inventory := coordinator.inventoryAfter move }
  | call (reason : Reason) : Step coordinator (.call reason) (coordinator.call reason).2
  | stop (listening : coordinator.isListening = true) :
      Step coordinator .shutdown { coordinator with stopping := true }
  | take {reason : Reason} (waiting : coordinator.loop = .atQueue)
      (goesOn : coordinator.stopping = false) (isOpen : coordinator.requests.isOpen = true)
      (queued : coordinator.requests.signal = some reason) :
      Step coordinator .take
        { coordinator with
          requests := { coordinator.requests with signal := none }
          line := coordinator.line ++ [⟨.loop, reason, coordinator.requests.issued⟩]
          loop := .busy }
  | leave (waiting : coordinator.loop = .atQueue) (told : coordinator.stopping = true) :
      Step coordinator .leave
        { coordinator with
          requests := coordinator.requests.close
          loop := .ended }
  | satisfy {demand : Demand} {line : List Demand} {finished : Finished}
      (idle : coordinator.running = none) (first : coordinator.line = demand :: line)
      (ended : coordinator.finished = some finished)
      (covered : demand.ticket ≤ finished.covers) :
      Step coordinator .serveFirst
        { coordinator with
          line := line
          requests :=
            { coordinator.requests with coalesced := coordinator.requests.coalesced + 1 }
          loop := coordinator.phaseAfter demand.holder
          answers := coordinator.answersAfter demand.holder finished.result }
  | begin {demand : Demand} {line : List Demand}
      (idle : coordinator.running = none) (first : coordinator.line = demand :: line)
      (uncovered : ∀ finished, coordinator.finished = some finished →
        finished.covers < demand.ticket) :
      Step coordinator .serveFirst
        { coordinator with
          line := line
          running := some { demand := demand, covers := coordinator.requests.issued }
          begun := max coordinator.begun coordinator.requests.issued
          reads := coordinator.reads + 1 }
  | endRead {demand : Demand} {covers : Nat} (readEnd : ReadEnd)
      (reading : coordinator.running = some ⟨demand, covers, .reading⟩) :
      Step coordinator (.endRead readEnd)
        { coordinator with
          running := some ⟨demand, covers, .decided (coordinator.outcomeOf readEnd)⟩ }
  | finish {demand : Demand} {covers : Nat} {outcome : Except Fault (Snapshot × Nat)}
      {result : Result}
      (decided : coordinator.running = some ⟨demand, covers, .decided outcome⟩)
      (told : result = resultOf demand.reason outcome) :
      Step coordinator .finish
        { coordinator with
          engine := coordinator.publish outcome
          running := none
          finished := some ⟨covers, result⟩
          succeeded := coordinator.succeeded + if result.isOk then 1 else 0
          failed := coordinator.failed + if result.isOk then 0 else 1
          lastSummary := result.toOption <|> coordinator.lastSummary
          events := coordinator.events ++ [eventOf demand.reason result]
          loop := coordinator.phaseAfter demand.holder
          answers := coordinator.answersAfter demand.holder result }
  | search (pair : Pair) (given : Option Constraints) :
      Step coordinator (.search pair given)
        { coordinator with engine := (coordinator.engine.search pair given).2 }
  | invalidate :
      Step coordinator .invalidate
        { coordinator with engine := coordinator.engine.invalidate.2 }

/-! ## Every move is a step -/

/-- A change of the inventory in memory, with the request that follows it. -/
private theorem signalChange_changeMemory (coordinator : Coordinator)
    (change : MemoryInventory → MemoryInventory)
    (keeps : ∀ inventory, (change inventory).attached = inventory.attached) :
    (coordinator.changeMemory change).signalChange =
      { coordinator with
        inventory := (coordinator.changeMemory change).inventory
        requests :=
          if coordinator.isAttached then
            (coordinator.requests.request coordinator.state .inventoryChanged).2
          else
            coordinator.requests } := by
  cases contents : coordinator.inventory with
  | memory inventory =>
    simp only [changeMemory, signalChange, isAttached, contents, MemoryInventory.signal, keeps]
    rfl
  | file content =>
    simp only [changeMemory, signalChange, isAttached, contents, Bool.false_eq_true, if_false]
    cases coordinator
    simp only at contents
    subst contents
    rfl

private theorem step_signalChange (coordinator : Coordinator) {move : Move}
    {change : MemoryInventory → MemoryInventory} (other : move ≠ .start)
    (uncalled : ∀ reason, move ≠ .call reason)
    (keeps : ∀ inventory, (change inventory).attached = inventory.attached)
    (contents : coordinator.inventoryAfter move = (coordinator.changeMemory change).inventory)
    (asks : coordinator.asks? move =
      if coordinator.isAttached then some .inventoryChanged else none) :
    Step coordinator move (coordinator.changeMemory change).signalChange := by
  rw [signalChange_changeMemory coordinator change keeps, ← contents]
  by_cases attached : coordinator.isAttached = true
  · rw [if_pos attached] at asks ⊢
    exact .ask other asks
  · rw [if_neg attached] at asks ⊢
    exact .change ⟨asks, uncalled⟩

theorem step_start (coordinator : Coordinator) :
    Step coordinator .start coordinator.start.2 := by
  unfold start
  split
  · rename_i unstarted
    exact .start unstarted
  · rename_i started
    exact .stay ⟨if_neg started, nofun⟩

theorem step_tick (coordinator : Coordinator) : Step coordinator .tick coordinator.tick := by
  unfold tick
  split
  · rename_i listening
    exact .ask nofun (if_pos listening)
  · rename_i deaf
    exact .stay ⟨if_neg deaf, nofun⟩

theorem step_remove (coordinator : Coordinator) (id : String) :
    Step coordinator (.remove id) (coordinator.remove id).2 := by
  unfold remove
  split
  · rename_i listed
    refine step_signalChange coordinator nofun nofun (fun _ => rfl) rfl ?_
    rw [asks?, listed, Bool.true_and]
  · rename_i unlisted
    refine .stay ⟨?_, nofun⟩
    rw [asks?, Bool.eq_false_iff.mpr unlisted, Bool.false_and, if_neg Bool.false_ne_true]

theorem step_shutdown (coordinator : Coordinator) :
    Step coordinator .shutdown coordinator.shutdown := by
  unfold shutdown
  split
  · rename_i listening
    exact .stop listening
  · exact .stay ⟨rfl, nofun⟩

theorem step_take (coordinator : Coordinator) : Step coordinator .take coordinator.take := by
  unfold take
  split
  · rename_i free
    by_cases isOpen : coordinator.requests.isOpen = true
    · rw [Requests.receive_of_isOpen isOpen]
      cases queued : coordinator.requests.signal with
      | none => exact .stay ⟨rfl, nofun⟩
      | some reason => exact .take free.1 (Bool.eq_false_iff.mpr free.2) isOpen queued
    · rw [Requests.receive, if_neg isOpen]
      exact .stay ⟨rfl, nofun⟩
  · exact .stay ⟨rfl, nofun⟩

theorem step_leave (coordinator : Coordinator) : Step coordinator .leave coordinator.leave := by
  unfold leave
  split
  · rename_i leaving
    exact .leave leaving.1 leaving.2
  · exact .stay ⟨rfl, nofun⟩

theorem deliver_eq (coordinator : Coordinator) (holder : Holder) (result : Result) :
    coordinator.deliver holder result =
      { coordinator with
        loop := coordinator.phaseAfter holder
        answers := coordinator.answersAfter holder result } := by
  cases holder <;> rfl

private theorem book_eq (coordinator : Coordinator) (reason : Reason) (result : Result) :
    coordinator.book reason result =
      { coordinator with
        succeeded := coordinator.succeeded + if result.isOk then 1 else 0
        failed := coordinator.failed + if result.isOk then 0 else 1
        lastSummary := result.toOption <|> coordinator.lastSummary
        events := coordinator.events ++ [eventOf reason result] } := by
  cases result <;> rfl

theorem step_serveFirst (coordinator : Coordinator) :
    Step coordinator .serveFirst coordinator.serveFirst := by
  unfold serveFirst
  split
  · rename_i demand line idle first
    split
    · rename_i result covered
      rcases Option.bind_eq_some_iff.mp covered with ⟨finished, ended, found⟩
      rcases Option.ite_none_right_eq_some.mp found with ⟨enough, same⟩
      rw [← Option.some.inj same, deliver_eq]
      exact .satisfy idle first ended enough
    · rename_i uncovered
      refine .begin idle first fun finished ended => Nat.lt_of_not_le fun enough => ?_
      rw [coveredResult?, ended, Option.bind_some, if_pos enough] at uncovered
      cases uncovered
  · exact .stay ⟨rfl, nofun⟩

theorem step_endRead (coordinator : Coordinator) (readEnd : ReadEnd) :
    Step coordinator (.endRead readEnd) (coordinator.endRead readEnd) := by
  unfold endRead
  split
  · rename_i demand covers reading
    exact .endRead readEnd reading
  · exact .stay ⟨rfl, nofun⟩

theorem finish_of_decided {coordinator : Coordinator} {demand : Demand} {covers : Nat}
    {outcome : Except Fault (Snapshot × Nat)}
    (decided : coordinator.running = some ⟨demand, covers, .decided outcome⟩) :
    coordinator.finish =
      { coordinator with
        engine := coordinator.publish outcome
        running := none
        finished := some ⟨covers, resultOf demand.reason outcome⟩
        succeeded :=
          coordinator.succeeded + if (resultOf demand.reason outcome).isOk then 1 else 0
        failed := coordinator.failed + if (resultOf demand.reason outcome).isOk then 0 else 1
        lastSummary := (resultOf demand.reason outcome).toOption <|> coordinator.lastSummary
        events := coordinator.events ++ [eventOf demand.reason (resultOf demand.reason outcome)]
        loop := coordinator.phaseAfter demand.holder
        answers :=
          coordinator.answersAfter demand.holder (resultOf demand.reason outcome) } := by
  unfold finish
  rw [decided]
  simp only [book_eq, deliver_eq]
  rfl

theorem step_finish (coordinator : Coordinator) :
    Step coordinator .finish coordinator.finish := by
  cases running : coordinator.running with
  | none =>
    unfold finish
    rw [running]
    exact .stay ⟨rfl, nofun⟩
  | some rebuild =>
    rcases rebuild with ⟨demand, covers, _ | outcome⟩
    · unfold finish
      rw [running]
      exact .stay ⟨rfl, nofun⟩
    · rw [finish_of_decided running]
      exact .finish running rfl

theorem step_attach (coordinator : Coordinator) :
    Step coordinator .attach coordinator.attach := by
  have same : coordinator.attach =
      { coordinator with inventory := coordinator.inventoryAfter .attach } := by
    unfold inventoryAfter attach changeMemory
    split <;> rfl
  rw [same]
  exact .change ⟨rfl, nofun⟩

theorem step_setFile (coordinator : Coordinator) (content : FileContent) :
    Step coordinator (.setFile content) (coordinator.setFile content) := by
  have same : coordinator.setFile content =
      { coordinator with inventory := coordinator.inventoryAfter (.setFile content) } := by
    unfold inventoryAfter setFile
    split <;> rfl
  rw [same]
  exact .change ⟨rfl, nofun⟩

/-- Every move is one of the steps. -/
theorem step_apply (coordinator : Coordinator) (move : Move) :
    Step coordinator move (coordinator.apply move) := by
  cases move with
  | request reason => exact .ask nofun rfl
  | call reason => exact .call reason
  | tick => exact step_tick coordinator
  | start => exact step_start coordinator
  | shutdown => exact step_shutdown coordinator
  | take => exact step_take coordinator
  | leave => exact step_leave coordinator
  | serveFirst => exact step_serveFirst coordinator
  | endRead readEnd => exact step_endRead coordinator readEnd
  | finish => exact step_finish coordinator
  | attach => exact step_attach coordinator
  | upsert flight => exact step_signalChange coordinator nofun nofun (fun _ => rfl) rfl rfl
  | replace flights => exact step_signalChange coordinator nofun nofun (fun _ => rfl) rfl rfl
  | remove id => exact step_remove coordinator id
  | setFile content => exact step_setFile coordinator content
  | search pair given => exact .search pair given
  | invalidate => exact .invalidate

/-! ## Rows of moves -/

theorem run_append (start : Coordinator) (first second : List Move) :
    start.run (first ++ second) = (start.run first).run second :=
  List.foldl_append

theorem run_concat (start : Coordinator) (moves : List Move) (move : Move) :
    start.run (moves ++ [move]) = (start.run moves).apply move :=
  run_append start moves [move]

/-- What holds at first and is kept by every step holds after every row of
moves. -/
theorem run_induction {Holds : Coordinator → Prop} {start : Coordinator} {moves : List Move}
    (first : Holds start)
    (kept : ∀ coordinator next, ∀ move ∈ moves, Holds coordinator →
      Step coordinator move next → Holds next) :
    Holds (start.run moves) := by
  induction moves generalizing start with
  | nil => exact first
  | cons move rest inductionHypothesis =>
    apply inductionHypothesis
    · exact kept start _ move List.mem_cons_self first (step_apply start move)
    · intro coordinator next later member
      exact kept coordinator next later (List.mem_cons_of_mem _ member)

end Coordinator
end Rebuild
end Itineraries
