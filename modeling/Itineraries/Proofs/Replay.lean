import Itineraries.Proofs.Freshness
import Itineraries.Proofs.Moments

namespace Itineraries
namespace Rebuild

/-!
# What is done to an engine

Requests, tickets and the line decide when rebuilds are run.  What becomes of the
engine depends on little of all that: on the searches, on the invalidations, and on
the rebuilds that succeed, each with the flights that it has read.  From these
deeds a run can be replayed.  A rebuild that fails is seen as well, but a replay
passes over it.

For the same reason every run can be cleared of the rebuilds that fail: there is
another one in which the same deeds are done except for these.
-/

def Event.version? : Event → Option Nat
  | .completed summary => some summary.graphVersion
  | .failed _ _ => none

namespace Coordinator

/-- What a move does to an engine.  A read makes a snapshot of some flights, which is
published later. -/
inductive Deed where
  | search (pair : Pair) (given : Option Constraints)
  | invalidate
  | read (flights : List Flight)
  | publish
  | fail (fault : Fault)

def Deed.isFailure : Deed → Bool
  | .fail _ => true
  | _ => false

def Move.concernsEngine : Move → Bool
  | .search _ _ | .invalidate | .endRead _ | .finish => true
  | _ => false

/-- What is seen of the moves of a run, one after the other. -/
def seen {α : Type} (look : Coordinator → Move → List α) : Coordinator → List Move → List α
  | _, [] => []
  | coordinator, move :: moves => look coordinator move ++ seen look (coordinator.apply move) moves

/-- The snapshot that is about to be published. -/
def prepared? (coordinator : Coordinator) : Option Snapshot :=
  match coordinator.running with
  | some ⟨_, _, .decided outcome⟩ => outcome.toOption.map Prod.fst
  | _ => none

/-- The flights that a read has brought, if a snapshot can be made of them. -/
def usable? (coordinator : Coordinator) (readEnd : ReadEnd) : Option (List Flight) :=
  (coordinator.flightsRead readEnd).toOption.filter fun flights =>
    (coordinator.engine.nextSnapshot flights).isOk

def deed? (coordinator : Coordinator) : Move → Option Deed
  | .search pair given => some (.search pair given)
  | .invalidate => some .invalidate
  | .endRead readEnd =>
    match coordinator.running with
    | some ⟨_, _, .reading⟩ => (coordinator.usable? readEnd).map .read
    | _ => none
  | .finish =>
    match coordinator.running with
    | some ⟨_, _, .decided (.ok _)⟩ => some .publish
    | some ⟨_, _, .decided (.error fault)⟩ => some (.fail fault)
    | _ => none
  | _ => none

/-- What is done to the engine in the course of a run. -/
def deeds : Coordinator → List Move → List Deed :=
  seen fun coordinator move => (coordinator.deed? move).toList

def answerTo? (coordinator : Coordinator) : Move → Option (Except Fault (List Itinerary))
  | .search pair given => some (coordinator.search pair given).1
  | _ => none

/-- The answers of all searches in the course of a run. -/
def searchAnswers : Coordinator → List Move → List (Except Fault (List Itinerary)) :=
  seen fun coordinator move => (coordinator.answerTo? move).toList

def publishes? (coordinator : Coordinator) : Move → Option Nat
  | .finish => coordinator.prepared?.map Snapshot.version
  | _ => none

def versions (coordinator : Coordinator) : List Nat :=
  coordinator.events.filterMap Event.version?

/-! ## Replays -/

/-- What a replay goes on from: an engine and the snapshot that it gets next. -/
structure Stage where
  engine : Engine
  prepared? : Option Snapshot

def stage (coordinator : Coordinator) : Stage :=
  ⟨coordinator.engine, coordinator.prepared?⟩

namespace Stage

def apply (stage : Stage) : Deed → Stage
  | .search pair given => { stage with engine := (stage.engine.search pair given).2 }
  | .invalidate => { stage with engine := stage.engine.invalidate.2 }
  | .read flights =>
    { stage with prepared? := (stage.engine.nextSnapshot flights).toOption.map Prod.fst }
  | .publish =>
    { engine := stage.prepared?.elim stage.engine stage.engine.publish, prepared? := none }
  | .fail _ => stage

def answerTo? (stage : Stage) : Deed → Option (Except Fault (List Itinerary))
  | .search pair given => some (stage.engine.search pair given).1
  | _ => none

def publishes? (stage : Stage) : Deed → Option Nat
  | .publish => stage.prepared?.map Snapshot.version
  | _ => none

/-- What is seen of some deeds in a replay, one after the other. -/
def seen {α : Type} (look : Stage → Deed → Option α) : Stage → List Deed → List α
  | _, [] => []
  | stage, deed :: deeds => (look stage deed).toList ++ seen look (stage.apply deed) deeds

/-- A replay passes over failures. -/
theorem seen_filter {α : Type} {look : Stage → Deed → Option α}
    (unseen : ∀ stage fault, look stage (.fail fault) = none) (stage : Stage)
    (deeds : List Deed) :
    stage.seen look (deeds.filter (!·.isFailure)) = stage.seen look deeds := by
  induction deeds generalizing stage with
  | nil => rfl
  | cons deed rest inductionHypothesis =>
    cases deed with
    | fail fault =>
      change stage.seen look (rest.filter (!·.isFailure)) = _
      rw [inductionHypothesis, seen, unseen]
      rfl
    | _ =>
      rw [List.filter_cons_of_pos rfl, seen, seen, inductionHypothesis]

theorem foldl_filter (stage : Stage) (deeds : List Deed) :
    (deeds.filter (!·.isFailure)).foldl apply stage = deeds.foldl apply stage := by
  induction deeds generalizing stage with
  | nil => rfl
  | cons deed rest inductionHypothesis =>
    cases deed with
    | fail fault => exact inductionHypothesis stage
    | _ => exact inductionHypothesis _

end Stage

section

variable {coordinator next : Coordinator} {move : Move}

theorem Step.stage_eq (step : Step coordinator move next) (aside : move.concernsEngine = false) :
    next.stage = coordinator.stage ∧ next.events = coordinator.events := by
  cases step with
  | endRead | finish | search | invalidate => cases aside
  | begin idle =>
    refine ⟨?_, rfl⟩
    rw [stage, stage, prepared?, prepared?, idle]
  | _ => exact ⟨rfl, rfl⟩

theorem outcomeOf_of_usable {readEnd : ReadEnd} {flights : List Flight}
    (usable : coordinator.usable? readEnd = some flights) :
    coordinator.outcomeOf readEnd = coordinator.engine.nextSnapshot flights ∧
      (coordinator.engine.nextSnapshot flights).isOk = true := by
  rcases Option.filter_eq_some_iff.mp usable with ⟨brought, made⟩
  refine ⟨?_, made⟩
  rw [outcomeOf]
  cases read : coordinator.flightsRead readEnd with
  | error fault => rw [read] at brought; cases brought
  | ok found =>
    rw [read] at brought
    rw [← Option.some.inj brought]
    rfl

theorem toOption_outcomeOf_of_not_usable {readEnd : ReadEnd}
    (useless : coordinator.usable? readEnd = none) :
    (coordinator.outcomeOf readEnd).toOption = none := by
  rw [usable?] at useless
  rw [outcomeOf]
  cases read : coordinator.flightsRead readEnd with
  | error fault => rfl
  | ok found =>
    rw [read] at useless
    have unmade := Option.filter_eq_none_iff.mp useless found rfl
    change (coordinator.engine.nextSnapshot found).toOption = none
    cases made : coordinator.engine.nextSnapshot found with
    | error fault => rfl
    | ok snapshot => rw [made] at unmade; exact absurd rfl unmade

/-- The ways in which something is done to an engine by a move, or nothing is. -/
inductive Does (coordinator : Coordinator) : Move → Option Deed → Prop where
  | search (pair : Pair) (given : Option Constraints) :
      Does coordinator (.search pair given) (some (.search pair given))
  | invalidate : Does coordinator .invalidate (some .invalidate)
  | read {readEnd : ReadEnd} {demand : Demand} {covers : Nat} {flights : List Flight}
      (reading : coordinator.running = some ⟨demand, covers, .reading⟩)
      (usable : coordinator.usable? readEnd = some flights) :
      Does coordinator (.endRead readEnd) (some (.read flights))
  | publish {demand : Demand} {covers : Nat} {made : Snapshot × Nat}
      (decided : coordinator.running = some ⟨demand, covers, .decided (.ok made)⟩) :
      Does coordinator .finish (some .publish)
  | fail {demand : Demand} {covers : Nat} {fault : Fault}
      (decided : coordinator.running = some ⟨demand, covers, .decided (.error fault)⟩) :
      Does coordinator .finish (some (.fail fault))
  | nothing {move : Move} (stage : (coordinator.apply move).stage = coordinator.stage)
      (events : (coordinator.apply move).events = coordinator.events)
      (unanswered : coordinator.answerTo? move = none)
      (unpublished : coordinator.publishes? move = none) : Does coordinator move none

theorem endRead_of_reading {demand : Demand} {covers : Nat} (readEnd : ReadEnd)
    (reading : coordinator.running = some ⟨demand, covers, .reading⟩) :
    coordinator.endRead readEnd =
      { coordinator with
        running := some ⟨demand, covers, .decided (coordinator.outcomeOf readEnd)⟩ } := by
  unfold endRead
  rw [reading]

theorem does_endRead (coordinator : Coordinator) (readEnd : ReadEnd) :
    coordinator.Does (.endRead readEnd) (coordinator.deed? (.endRead readEnd)) := by
  unfold deed?
  cases running : coordinator.running with
  | none =>
    have same : coordinator.endRead readEnd = coordinator := by unfold endRead; rw [running]
    exact .nothing (congrArg stage same) (congrArg events same) rfl rfl
  | some rebuild =>
    rcases rebuild with ⟨demand, covers, _ | outcome⟩
    · change coordinator.Does _ ((coordinator.usable? readEnd).map Deed.read)
      cases usable : coordinator.usable? readEnd with
      | some flights => exact .read running usable
      | none =>
        have ended := endRead_of_reading readEnd running
        have unprepared : (coordinator.endRead readEnd).stage = coordinator.stage := by
          rw [ended]
          simp only [stage, prepared?, running, toOption_outcomeOf_of_not_usable usable]
          rfl
        have untold : (coordinator.endRead readEnd).events = coordinator.events := by rw [ended]
        exact .nothing unprepared untold rfl rfl
    · have same : coordinator.endRead readEnd = coordinator := by unfold endRead; rw [running]
      exact .nothing (congrArg stage same) (congrArg events same) rfl rfl

theorem does_finish (coordinator : Coordinator) :
    coordinator.Does .finish (coordinator.deed? .finish) := by
  unfold deed?
  cases running : coordinator.running with
  | none =>
    have same : coordinator.finish = coordinator := by unfold finish; rw [running]
    refine .nothing (congrArg stage same) (congrArg events same) rfl ?_
    rw [publishes?, prepared?, running]
    rfl
  | some rebuild =>
    rcases rebuild with ⟨demand, covers, _ | fault | made⟩
    · have same : coordinator.finish = coordinator := by unfold finish; rw [running]
      refine .nothing (congrArg stage same) (congrArg events same) rfl ?_
      rw [publishes?, prepared?, running]
      rfl
    · exact .fail running
    · exact .publish running

theorem does_deed? (coordinator : Coordinator) (move : Move) :
    coordinator.Does move (coordinator.deed? move) := by
  cases move with
  | search pair given => exact .search pair given
  | invalidate => exact .invalidate
  | endRead readEnd => exact does_endRead coordinator readEnd
  | finish => exact does_finish coordinator
  | _ =>
    refine .nothing (Step.stage_eq (step_apply coordinator _) ?_).1
      (Step.stage_eq (step_apply coordinator _) ?_).2 rfl rfl <;> rfl

/-- A replay goes on in the same way as the run. -/
theorem stage_apply (coordinator : Coordinator) (move : Move) :
    (coordinator.apply move).stage =
      (coordinator.deed? move).elim coordinator.stage coordinator.stage.apply := by
  have done := does_deed? coordinator move
  generalize coordinator.deed? move = deed at done ⊢
  cases done with
  | search | invalidate => rfl
  | @read readEnd _ _ _ reading usable =>
    change (coordinator.endRead readEnd).stage = _
    rw [endRead_of_reading readEnd reading, (outcomeOf_of_usable usable).1]
    rfl
  | fail decided =>
    change coordinator.finish.stage = _
    rw [finish_of_decided decided]
    simp only [stage, prepared?, decided]
    rfl
  | publish decided =>
    change coordinator.finish.stage = _
    rw [finish_of_decided decided]
    simp only [stage, prepared?, decided]
    rfl
  | nothing stage => exact stage

theorem answerTo?_eq (coordinator : Coordinator) (move : Move) :
    coordinator.answerTo? move = (coordinator.deed? move).bind coordinator.stage.answerTo? := by
  have done := does_deed? coordinator move
  generalize coordinator.deed? move = deed at done ⊢
  cases done with
  | nothing _ _ unanswered _ => exact unanswered
  | _ => rfl

theorem publishes?_eq (coordinator : Coordinator) (move : Move) :
    coordinator.publishes? move = (coordinator.deed? move).bind coordinator.stage.publishes? := by
  have done := does_deed? coordinator move
  generalize coordinator.deed? move = deed at done ⊢
  cases done with
  | nothing _ _ _ unpublished => exact unpublished
  | fail decided =>
    rw [publishes?, prepared?, decided]
    rfl
  | _ => rfl

theorem versions_apply (coordinator : Coordinator) (move : Move) :
    (coordinator.apply move).versions =
      coordinator.versions ++ (coordinator.publishes? move).toList := by
  have done := does_deed? coordinator move
  generalize coordinator.deed? move = deed at done
  cases done with
  | nothing _ events _ unpublished =>
    rw [versions, events, unpublished]
    exact (List.append_nil _).symm
  | fail decided =>
    change coordinator.finish.versions = _
    rw [finish_of_decided decided, publishes?, prepared?, decided, versions, List.filterMap_append]
    rfl
  | publish decided =>
    change coordinator.finish.versions = _
    rw [finish_of_decided decided, publishes?, prepared?, decided, versions, List.filterMap_append]
    rfl
  | @read readEnd _ _ _ reading =>
    change (coordinator.endRead readEnd).versions = _
    rw [endRead_of_reading readEnd reading]
    exact (List.append_nil _).symm
  | search | invalidate => exact (List.append_nil _).symm

end

/-! ## Runs and their replays -/

section

variable (start : Coordinator) (moves : List Move)

theorem stage_run :
    (start.run moves).stage = (start.deeds moves).foldl Stage.apply start.stage := by
  induction moves generalizing start with
  | nil => rfl
  | cons move rest inductionHypothesis =>
    change ((start.apply move).run rest).stage = _
    rw [inductionHypothesis, stage_apply, deeds, seen, List.foldl_append]
    cases start.deed? move <;> rfl

/-- What is seen of a run is seen of its replay. -/
theorem seen_eq_seen_deeds {α : Type} {look : Coordinator → Move → Option α}
    {lookAgain : Stage → Deed → Option α}
    (same : ∀ coordinator move,
      look coordinator move = (coordinator.deed? move).bind (lookAgain coordinator.stage)) :
    seen (fun coordinator move => (look coordinator move).toList) start moves =
      start.stage.seen lookAgain (start.deeds moves) := by
  induction moves generalizing start with
  | nil => rfl
  | cons move rest inductionHypothesis =>
    rw [seen, inductionHypothesis, same, stage_apply, deeds, seen]
    cases start.deed? move <;> rfl

theorem versions_run :
    (start.run moves).versions = start.versions ++
      seen (fun coordinator move => (coordinator.publishes? move).toList) start moves := by
  induction moves generalizing start with
  | nil => exact (List.append_nil _).symm
  | cons move rest inductionHypothesis =>
    change ((start.apply move).run rest).versions = _
    rw [inductionHypothesis, versions_apply, seen, List.append_assoc]

end

/-- What is seen of the deeds is seen alike in two runs in which the same is done, apart
from rebuilds that fail. -/
theorem seen_eq_of_same_deeds {α : Type} {look : Coordinator → Move → Option α}
    {lookAgain : Stage → Deed → Option α}
    (replayed : ∀ coordinator move,
      look coordinator move = (coordinator.deed? move).bind (lookAgain coordinator.stage))
    (unseen : ∀ stage fault, lookAgain stage (.fail fault) = none) {start other : Coordinator}
    (stages : other.stage = start.stage) {moves otherMoves : List Move}
    (same : (other.deeds otherMoves).filter (!·.isFailure) =
      (start.deeds moves).filter (!·.isFailure)) :
    seen (fun coordinator move => (look coordinator move).toList) other otherMoves =
      seen (fun coordinator move => (look coordinator move).toList) start moves := by
  rw [seen_eq_seen_deeds other otherMoves replayed, seen_eq_seen_deeds start moves replayed,
    ← Stage.seen_filter unseen, same, Stage.seen_filter unseen, stages]

/-- Two runs of an engine in which the same is done, apart from rebuilds that fail,
leave the same engine, and the searches and the rebuilds that succeed come to the
same. -/
theorem same_of_same_deeds {engine : Engine} {inventory other : Inventory}
    {moves otherMoves : List Move}
    (same : ((ofEngine engine other).deeds otherMoves).filter (!·.isFailure) =
      ((ofEngine engine inventory).deeds moves).filter (!·.isFailure)) :
    ((ofEngine engine other).run otherMoves).engine =
        ((ofEngine engine inventory).run moves).engine ∧
      (ofEngine engine other).searchAnswers otherMoves =
        (ofEngine engine inventory).searchAnswers moves ∧
      ((ofEngine engine other).run otherMoves).versions =
        ((ofEngine engine inventory).run moves).versions := by
  have stages : (ofEngine engine other).stage = (ofEngine engine inventory).stage := rfl
  refine ⟨?_, ?_, ?_⟩
  · have replayed : ((ofEngine engine other).run otherMoves).stage =
        ((ofEngine engine inventory).run moves).stage := by
      rw [stage_run, stage_run, ← Stage.foldl_filter, same, Stage.foldl_filter, stages]
    exact congrArg Stage.engine replayed
  · exact seen_eq_of_same_deeds answerTo?_eq (fun _ _ => rfl) stages same
  · rw [versions_run, versions_run,
      seen_eq_of_same_deeds publishes?_eq (fun _ _ => rfl) stages same]
    rfl

/-! ## Runs without failures -/

def Move.changesInventory : Move → Bool
  | .attach | .upsert _ | .replace _ | .remove _ | .setFile _ => true
  | _ => false

/-- What is left of a move when rebuilds that fail are left out, and whatever else is
of no consequence to the engine.  A rebuild that succeeds begins just before its read
ends. -/
def kept (coordinator : Coordinator) (move : Move) : List Move :=
  match coordinator.deed? move with
  | some (.read _) => [.call .manual, .serveFirst, move]
  | some (.fail _) => []
  | some _ => [move]
  | none => if move.changesInventory then [move] else []

def withoutFailures : Coordinator → List Move → List Move :=
  seen kept

/-- Another run has come to the same engine and inventory without any failure. -/
structure Mimics (coordinator other : Coordinator) : Prop where
  stage : other.stage = coordinator.stage
  inventory : other.inventory = coordinator.inventory
  line : other.line = []
  settled : other.prepared? = none → other.running = none
  accounted : other.Accounted
  failed : other.failed = 0

section

variable {coordinator other next : Coordinator} {move : Move}

/-- A change of the inventory changes nothing else but requests. -/
theorem Step.eq_of_changesInventory (step : Step coordinator move next)
    (changes : move.changesInventory = true) :
    next = { coordinator with inventory := next.inventory, requests := next.requests } := by
  cases step with
  | stay | ask | change => rfl
  | _ => cases changes

/-- What is made of the inventory depends on nothing but the inventory. -/
theorem inventory_apply_congr (same : other.inventory = coordinator.inventory)
    (changes : move.changesInventory = true) :
    (other.apply move).inventory = (coordinator.apply move).inventory := by
  cases contents : coordinator.inventory with
  | file content =>
    rw [contents] at same
    cases move with
    | attach | upsert | replace | remove | setFile =>
      simp only [apply, attach, upsert, replace, remove, setFile, lists, changeMemory,
        signalChange, same, contents, Bool.false_eq_true, if_false]
    | _ => cases changes
  | memory now =>
    rw [contents] at same
    cases move with
    | attach | upsert | replace | setFile =>
      simp only [apply, attach, upsert, replace, setFile, changeMemory, signalChange, same,
        contents]
    | remove id =>
      simp only [apply, remove, lists, changeMemory, signalChange, same, contents]
      split
      · rfl
      · rw [same, contents]
    | _ => cases changes

theorem inventory_apply_eq (coordinator : Coordinator) (move : Move)
    (same : move.changesInventory = false) :
    (coordinator.apply move).inventory = coordinator.inventory := by
  rcases (step_apply coordinator move).inventory_cases with kept | changed
  · exact kept
  · rw [changed]
    cases move with
    | attach | upsert | replace | remove | setFile => cases same
    | _ => rfl

/-- With nobody in the line a call has a rebuild begin at once. -/
theorem call_serveFirst (idle : other.running = none) (nobody : other.line = [])
    (accounted : other.Accounted) (reason : Reason) :
    (other.call reason).2.serveFirst =
      { (other.call reason).2 with
        line := []
        running := some
          { demand := ⟨.caller other.calls, reason, other.requests.issued + 1⟩
            covers := other.requests.issued + 1 }
        begun := max other.begun (other.requests.issued + 1)
        reads := other.reads + 1 } := by
  have uncovered : other.coveredResult? (other.requests.issued + 1) = none := by
    unfold coveredResult?
    cases left : other.finished with
    | none => rfl
    | some finished =>
      have taken := Nat.le_trans (accounted.finished_le finished left) accounted.begun_le
      exact if_neg (Nat.not_le_of_lt (Nat.lt_succ_of_le taken))
  unfold serveFirst
  simp only [call, idle, nobody, List.nil_append, Requests.ticket]
  split
  · rename_i result covered
    have impossible := uncovered.symm.trans covered
    cases impossible
  · rfl

theorem usable?_congr (engine : other.engine = coordinator.engine)
    (inventory : other.inventory = coordinator.inventory) (readEnd : ReadEnd) :
    other.usable? readEnd = coordinator.usable? readEnd := by
  cases readEnd <;> simp only [usable?, flightsRead, engine, inventory]

theorem Mimics.engine (mimics : coordinator.Mimics other) : other.engine = coordinator.engine :=
  congrArg Stage.engine mimics.stage

theorem Mimics.prepared? (mimics : coordinator.Mimics other) :
    other.prepared? = coordinator.prepared? :=
  congrArg Stage.prepared? mimics.stage

theorem exists_decided_of_prepared? {snapshot : Snapshot}
    (prepared : other.prepared? = some snapshot) :
    ∃ demand covers made, other.running = some ⟨demand, covers, .decided (.ok made)⟩ := by
  unfold Coordinator.prepared? at prepared
  split at prepared
  · rename_i demand covers outcome decided
    cases outcome with
    | error fault => cases prepared
    | ok made => exact ⟨demand, covers, made, decided⟩
  · cases prepared

/-- Moves by which the same is done to the engine lead to the same stage. -/
theorem Mimics.of_deeds (mimics : coordinator.Mimics other) {moves : List Move}
    (deeds : other.deeds moves = (coordinator.deed? move).toList.filter (!·.isFailure))
    (inventory : (other.run moves).inventory = (coordinator.apply move).inventory)
    (line : (other.run moves).line = [])
    (settled : (other.run moves).prepared? = none → (other.run moves).running = none)
    (failed : (other.run moves).failed = 0) :
    (coordinator.apply move).Mimics (other.run moves) where
  stage := by
    rw [stage_run, deeds, Stage.foldl_filter, mimics.stage, stage_apply]
    cases coordinator.deed? move <;> rfl
  inventory := inventory
  line := line
  settled := settled
  accounted := run_induction mimics.accounted fun _ _ _ _ accounted step => accounted.step step
  failed := failed

theorem Mimics.publish (mimics : coordinator.Mimics other) {demand : Demand} {covers : Nat}
    {made : Snapshot × Nat}
    (decided : coordinator.running = some ⟨demand, covers, .decided (.ok made)⟩) :
    other.deed? .finish = some .publish ∧ other.finish.line = [] ∧
      other.finish.running = none ∧ other.finish.failed = 0 := by
  have prepared : coordinator.prepared? = some made.1 := by
    rw [Coordinator.prepared?, decided]
    rfl
  rcases exists_decided_of_prepared? (mimics.prepared?.trans prepared) with
    ⟨demand, covers, made, decided⟩
  rw [finish_of_decided decided, deed?, decided]
  exact ⟨rfl, mimics.line, rfl, mimics.failed⟩

/-- A rebuild that has read what leads to a snapshot can be run at once. -/
theorem Mimics.read (mimics : coordinator.Mimics other) {readEnd : ReadEnd} {demand : Demand}
    {covers : Nat} {flights : List Flight}
    (reading : coordinator.running = some ⟨demand, covers, .reading⟩)
    (usable : coordinator.usable? readEnd = some flights) :
    let begun := (other.call .manual).2.serveFirst
    begun.deed? (.endRead readEnd) = some (.read flights) ∧
      (begun.endRead readEnd).inventory = coordinator.inventory ∧
      (begun.endRead readEnd).line = [] ∧ (begun.endRead readEnd).prepared? ≠ none ∧
      (begun.endRead readEnd).failed = 0 := by
  intro begun
  have unprepared : coordinator.prepared? = none := by
    rw [Coordinator.prepared?, reading]
  have idle := mimics.settled (mimics.prepared?.trans unprepared)
  have begins := call_serveFirst idle mimics.line mimics.accounted .manual
  have engine : begun.engine = coordinator.engine :=
    (congrArg Coordinator.engine begins).trans mimics.engine
  have inventory : begun.inventory = coordinator.inventory :=
    (congrArg Coordinator.inventory begins).trans mimics.inventory
  have running := congrArg Coordinator.running begins
  have usable : begun.usable? readEnd = some flights :=
    (usable?_congr engine inventory readEnd).trans usable
  rcases outcomeOf_of_usable usable with ⟨outcome, made⟩
  rw [endRead_of_reading readEnd running]
  refine ⟨?_, inventory, congrArg Coordinator.line begins, ?_, ?_⟩
  · change begun.running = _ at running
    rw [deed?, running]
    change (begun.usable? readEnd).map _ = _
    rw [usable]
    rfl
  · change (begun.outcomeOf readEnd).toOption.map Prod.fst ≠ none
    rw [outcome]
    cases snapshot : begun.engine.nextSnapshot flights with
    | error fault => rw [snapshot] at made; cases made
    | ok snapshot => nofun
  · exact (congrArg Coordinator.failed begins).trans mimics.failed

/-- The other run does what is done to the engine, and nothing comes of what is left
out. -/
theorem Mimics.kept (mimics : coordinator.Mimics other) (move : Move) :
    (coordinator.apply move).Mimics (other.run (coordinator.kept move)) ∧
      other.deeds (coordinator.kept move) =
        (coordinator.deed? move).toList.filter (!·.isFailure) := by
  have done := does_deed? coordinator move
  have of_deeds := fun moves => @Mimics.of_deeds _ _ move mimics moves
  unfold Coordinator.kept
  generalize coordinator.deed? move = deed at done of_deeds ⊢
  cases done with
  | search | invalidate =>
    exact ⟨of_deeds _ rfl mimics.inventory mimics.line mimics.settled mimics.failed, rfl⟩
  | fail decided =>
    have inventory := mimics.inventory.trans (inventory_apply_eq coordinator .finish rfl).symm
    exact ⟨of_deeds _ rfl inventory mimics.line mimics.settled mimics.failed, rfl⟩
  | publish decided =>
    rcases mimics.publish decided with ⟨publishes, line, running, failed⟩
    have inventory : (other.apply .finish).inventory = (coordinator.apply .finish).inventory := by
      rw [inventory_apply_eq other _ rfl, inventory_apply_eq coordinator _ rfl, mimics.inventory]
    have deeds : other.deeds [.finish] = [.publish] := by
      rw [Coordinator.deeds, seen, publishes]
      rfl
    exact ⟨of_deeds _ deeds inventory line (fun _ => running) failed, deeds⟩
  | @read readEnd _ _ flights reading usable =>
    rcases mimics.read reading usable with ⟨reads, inventory, line, prepared, failed⟩
    have deeds : other.deeds [.call .manual, .serveFirst, .endRead readEnd] = [.read flights] := by
      change (((other.call .manual).2.serveFirst).deed? (.endRead readEnd)).toList ++ [] = _
      rw [reads]
      rfl
    refine ⟨of_deeds _ deeds (inventory.trans ?_) line (fun none => absurd none prepared) failed,
      deeds⟩
    exact (inventory_apply_eq coordinator _ rfl).symm
  | nothing stage events =>
    cases changes : move.changesInventory with
    | false =>
      have inventory := mimics.inventory.trans (inventory_apply_eq coordinator _ changes).symm
      exact ⟨of_deeds _ rfl inventory mimics.line mimics.settled mimics.failed, rfl⟩
    | true =>
      have changed := (step_apply other move).eq_of_changesInventory changes
      have deeds : other.deeds [move] = [] := by
        cases move with
        | attach | upsert | replace | remove | setFile => rfl
        | _ => cases changes
      refine ⟨of_deeds _ deeds (inventory_apply_congr mimics.inventory changes) ?_ ?_ ?_, deeds⟩
      · change (other.apply move).line = []
        rw [changed]
        exact mimics.line
      · change (other.apply move).prepared? = none → (other.apply move).running = none
        rw [changed]
        exact mimics.settled
      · change (other.apply move).failed = 0
        rw [changed]
        exact mimics.failed

end

theorem seen_append {α : Type} (look : Coordinator → Move → List α) (start : Coordinator)
    (first second : List Move) :
    seen look start (first ++ second) =
      seen look start first ++ seen look (start.run first) second := by
  induction first generalizing start with
  | nil => rfl
  | cons move rest inductionHypothesis =>
    rw [List.cons_append, seen, seen, inductionHypothesis, List.append_assoc]
    rfl

/-- A run without failures comes to the same. -/
theorem Mimics.withoutFailures {coordinator other : Coordinator}
    (mimics : coordinator.Mimics other) (moves : List Move) :
    other.deeds (coordinator.withoutFailures moves) =
        (coordinator.deeds moves).filter (!·.isFailure) ∧
      (other.run (coordinator.withoutFailures moves)).failed = 0 := by
  induction moves generalizing coordinator other with
  | nil => exact ⟨rfl, mimics.failed⟩
  | cons move rest inductionHypothesis =>
    rcases mimics.kept move with ⟨goesOn, same⟩
    rcases inductionHypothesis goesOn with ⟨later, unfailed⟩
    constructor
    · calc other.deeds (coordinator.kept move ++ (coordinator.apply move).withoutFailures rest)
        _ = other.deeds (coordinator.kept move) ++
              (other.run (coordinator.kept move)).deeds
                ((coordinator.apply move).withoutFailures rest) := seen_append ..
        _ = (coordinator.deed? move).toList.filter (!·.isFailure) ++
              ((coordinator.apply move).deeds rest).filter (!·.isFailure) := by rw [same, later]
        _ = (coordinator.deeds (move :: rest)).filter (!·.isFailure) :=
          (List.filter_append ..).symm
    · rw [Coordinator.withoutFailures, seen, run_append]
      exact unfailed

theorem Mimics.initial (engine : Engine) (inventory : Inventory) :
    (ofEngine engine inventory).Mimics (ofEngine engine inventory) where
  stage := rfl
  inventory := rfl
  line := rfl
  settled _ := rfl
  accounted := .initial engine inventory
  failed := rfl

end Coordinator
end Rebuild
end Itineraries
