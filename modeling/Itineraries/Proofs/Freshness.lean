import Itineraries.Proofs.Coherence
import Itineraries.Proofs.Tickets

namespace Itineraries

/-!
# No change of the inventory is lost

A change of the inventory may come at any moment of a rebuild, and its request
may find a signal in the queue that was sent for something else.  It takes a
ticket all the same.  While that ticket is uncovered something is pending, and
the rebuild that covers it begins after the change and reads the inventory later
still.  So whenever nothing is pending, what the latest rebuild has read is what
the inventory lists.
-/

/-- A graph is that of the flights which an inventory lists. -/
def Graph.Reflects (graph : Graph) (inventory : Inventory) : Prop :=
  ∃ flights, inventory.load = .ok flights ∧ build flights graph.version = .ok graph

theorem Graph.Reflects.of_load {graph : Graph} {inventory later : Inventory}
    (reflects : graph.Reflects inventory) (same : later.load = inventory.load) :
    graph.Reflects later := by
  rw [Reflects, same]
  exact reflects

namespace Rebuild
namespace Coordinator

/-- The moves that change which flights an inventory in memory lists. -/
def Move.ChangesFlights : Move → Prop
  | .upsert _ | .replace _ | .remove _ => True
  | _ => False

/-- The next graph reflects the inventory as soon as it has been read, and so
does the current graph once the latest rebuild has succeeded. -/
structure UpToDate (coordinator : Coordinator) : Prop where
  decided : ∀ demand covers snapshot warmed,
    coordinator.running = some ⟨demand, covers, .decided (.ok (snapshot, warmed))⟩ →
      snapshot.graph.Reflects coordinator.inventory
  published : coordinator.running = none → ∀ covers summary,
    coordinator.finished = some ⟨covers, .ok summary⟩ →
      coordinator.engine.current.graph.Reflects coordinator.inventory

/-- The inventory is in memory, and while the loop has not ended, what is not up
to date is pending. -/
structure Fresh (coordinator : Coordinator) : Prop extends Accounted coordinator where
  inMemory : ∃ now, coordinator.inventory = .memory now
  upToDate : coordinator.loop ≠ .ended → coordinator.pending = false → coordinator.UpToDate

/-- The inventory is attached as well, so that changes do no harm. -/
structure FreshAttached (coordinator : Coordinator) : Prop extends Fresh coordinator where
  attached : coordinator.isAttached = true

variable {coordinator next : Coordinator} {move : Move}

/-! ## Changes and requests -/

/-- While the loop has not ended, everybody who asks is accepted. -/
theorem Accounted.pending_of_not_silent (accounted : coordinator.Accounted)
    (goesOn : coordinator.loop ≠ .ended) (step : Step coordinator move next)
    (asked : ¬coordinator.IsSilent move) : next.pending = true := by
  refine (step.pending_iff accounted.begun_le).mpr (Or.inl ?_)
  by_cases called : ∃ reason, move = .call reason
  · exact Or.inl called
  · cases asks : coordinator.asks? move with
    | none => exact absurd ⟨asks, fun reason same => called ⟨reason, same⟩⟩ asked
    | some reason =>
      exact Or.inr ⟨reason, asks,
        (Requests.request_fst_ne_stopped_iff _ _).mpr (accounted.isOpen goesOn)⟩

theorem Accounted.loop_ne_ended (accounted : coordinator.Accounted)
    (step : Step coordinator move next) (goesOn : next.loop ≠ .ended) :
    coordinator.loop ≠ .ended := by
  cases step with
  | stay | ask | change | call | stop | begin | endRead | search | invalidate => exact goesOn
  | start unstarted =>
    rw [unstarted]
    nofun
  | take waiting | leave waiting =>
    rw [waiting]
    nofun
  | satisfy idle first =>
    exact accounted.loop_ne_ended_of_departed ((demands_of_idle idle).trans first) goesOn
  | finish decided =>
    exact accounted.loop_ne_ended_of_departed (demands_of_running decided) goesOn

theorem inventory_changeMemory {now : MemoryInventory}
    (memory : coordinator.inventory = .memory now) (change : MemoryInventory → MemoryInventory) :
    (coordinator.changeMemory change).inventory = .memory (change now) := by
  rw [changeMemory, memory]

theorem inventoryAfter_eq_memory {now : MemoryInventory}
    (memory : coordinator.inventory = .memory now) (move : Move) :
    ∃ later, coordinator.inventoryAfter move = .memory later ∧
      (now.attached = true → later.attached = true) := by
  cases move with
  | attach => exact ⟨_, inventory_changeMemory memory _, fun _ => rfl⟩
  | upsert | replace | remove => exact ⟨_, inventory_changeMemory memory _, id⟩
  | setFile content =>
    refine ⟨now, ?_, id⟩
    rw [inventoryAfter, setFile, memory]
    exact memory
  | _ => exact ⟨now, memory, id⟩

/-- Unless somebody asks, the flights in an attached inventory stay as they
are. -/
theorem load_inventoryAfter {now : MemoryInventory} (memory : coordinator.inventory = .memory now)
    (silent : coordinator.IsSilent move)
    (told : coordinator.isAttached = true ∨ ¬move.ChangesFlights) :
    (coordinator.inventoryAfter move).load = coordinator.inventory.load := by
  have asks := silent.1
  cases move with
  | attach =>
    rw [inventoryAfter, attach, inventory_changeMemory memory, memory]
    rfl
  | upsert | replace =>
    rcases told with attached | unchanged
    · rw [asks?, if_pos attached] at asks
      cases asks
    · exact absurd trivial unchanged
  | remove id =>
    rcases told with attached | unchanged
    · have unlisted : coordinator.lists id = false := by
        refine Bool.eq_false_iff.mpr fun listed => ?_
        rw [asks?, listed, attached] at asks
        cases asks
      rw [lists, memory] at unlisted
      rw [inventoryAfter, inventory_changeMemory memory, memory]
      refine congrArg Except.ok (List.filter_eq_self.mpr fun flight member => ?_)
      have other := List.any_eq_false.mp unlisted flight member
      exact decide_eq_true fun same => other (decide_eq_true same)
    · exact absurd trivial unchanged
  | setFile content =>
    rw [inventoryAfter, setFile, memory]
    exact congrArg Inventory.load memory
  | _ => rfl

/-- What a step leaves of the inventory is what its move makes of it, if it makes
anything of it. -/
theorem Step.inventory_cases (step : Step coordinator move next) :
    next.inventory = coordinator.inventory ∨
      next.inventory = coordinator.inventoryAfter move := by
  cases step with
  | ask | change => exact Or.inr rfl
  | _ => exact Or.inl rfl

theorem Step.inMemory (step : Step coordinator move next) {now : MemoryInventory}
    (memory : coordinator.inventory = .memory now) :
    ∃ later, next.inventory = .memory later ∧ (now.attached = true → later.attached = true) := by
  rcases step.inventory_cases with same | same
  · exact ⟨now, same.trans memory, id⟩
  · rw [same]
    exact inventoryAfter_eq_memory memory move

theorem Step.isAttached (step : Step coordinator move next)
    (attached : coordinator.isAttached = true) : next.isAttached = true := by
  cases inventory : coordinator.inventory with
  | file content =>
    rw [Coordinator.isAttached, inventory] at attached
    cases attached
  | memory now =>
    rcases step.inMemory inventory with ⟨later, memory, kept⟩
    rw [Coordinator.isAttached, inventory] at attached
    rw [Coordinator.isAttached, memory]
    exact kept attached

/-! ## Rebuilds -/

/-- What a read leads to reflects the inventory of that moment. -/
theorem reflects_of_outcomeOf {readEnd : ReadEnd} {snapshot : Snapshot} {warmed : Nat}
    (outcome : coordinator.outcomeOf readEnd = .ok (snapshot, warmed)) :
    snapshot.graph.Reflects coordinator.inventory := by
  rcases outcomeOf_eq_ok outcome with ⟨flights, load, made⟩
  have built := ((Engine.nextSnapshot_eq_ok_iff _ _ _ _).mp made).1
  have version : snapshot.graph.version = coordinator.engine.version + 1 :=
    version_of_outcomeOf outcome
  exact ⟨flights, load, version ▸ built⟩

/-- Unless somebody asks, only the beginning of a rebuild makes anything more
than it was up to date, and that by starting over. -/
theorem UpToDate.step (silent : coordinator.IsSilent move)
    (upToDate : coordinator.pending = false → coordinator.UpToDate)
    (step : Step coordinator move next)
    (load : next.inventory.load = coordinator.inventory.load)
    (covered : next.pending = false) : next.UpToDate := by
  cases step with
  | start unstarted =>
    have asks := silent.1
    rw [asks?, if_pos unstarted] at asks
    cases asks
  | ask _ asks =>
    rw [silent.1] at asks
    cases asks
  | call reason => exact absurd rfl (silent.2 reason)
  | begin =>
    constructor
    · intro _ _ _ _ impossible
      cases impossible
    · intro impossible
      cases impossible
  | stay | change | stop | take | leave | satisfy | invalidate =>
    rcases upToDate covered with ⟨decided, published⟩
    exact ⟨fun _ _ _ _ found => (decided _ _ _ _ found).of_load load,
      fun idle _ _ ended => (published idle _ _ ended).of_load load⟩
  | search pair given =>
    rcases upToDate covered with ⟨decided, published⟩
    have graph : (coordinator.engine.search pair given).2.current.graph =
        coordinator.engine.current.graph := by
      rcases coordinator.engine.search_snd pair given with ⟨cache, policy, same⟩
      rw [same]
      rfl
    refine ⟨decided, fun idle covers summary ended => ?_⟩
    rw [graph]
    exact published idle covers summary ended
  | endRead readEnd =>
    constructor
    · intro _ _ snapshot warmed found
      have outcome := Progress.decided.inj (Running.mk.inj (Option.some.inj found)).2.2
      exact reflects_of_outcomeOf outcome
    · intro impossible
      cases impossible
  | @finish demand covers outcome result found told =>
    constructor
    · intro _ _ _ _ impossible
      cases impossible
    · intro _ _ summary ended
      have succeeded := (Finished.mk.inj (Option.some.inj ended)).2
      rcases outcome with fault | ⟨snapshot, warmed⟩
      · rw [told] at succeeded
        cases succeeded
      · exact (upToDate covered).decided _ _ _ _ found

namespace Fresh

theorem initial (engine : Engine) (memory : MemoryInventory) :
    Fresh { engine := engine, inventory := .memory memory } where
  toAccounted := .initial engine _
  inMemory := ⟨memory, rfl⟩
  upToDate _ _ := ⟨nofun, fun _ _ _ impossible => absurd impossible nofun⟩

/-- Steps keep what is fresh: whoever changes what the inventory lists asks for a
rebuild, and then something is pending. -/
theorem step (fresh : coordinator.Fresh)
    (told : coordinator.isAttached = true ∨ ¬move.ChangesFlights)
    (step : Step coordinator move next) : next.Fresh := by
  have accounted := fresh.toAccounted
  rcases fresh.inMemory with ⟨now, memory⟩
  rcases step.inMemory memory with ⟨later, inMemory, _⟩
  refine ⟨accounted.step step, ⟨later, inMemory⟩, fun goesOn covered => ?_⟩
  have alive := accounted.loop_ne_ended step goesOn
  by_cases silent : coordinator.IsSilent move
  · refine UpToDate.step silent (fresh.upToDate alive) step ?_ covered
    rcases step.inventory_cases with same | same
    · rw [same]
    · rw [same, load_inventoryAfter memory silent told]
  · have pending := accounted.pending_of_not_silent alive step silent
    rw [covered] at pending
    cases pending

theorem attach (fresh : coordinator.Fresh) : coordinator.attach.FreshAttached := by
  refine ⟨fresh.step (Or.inr id) (step_attach coordinator), ?_⟩
  rcases fresh.inMemory with ⟨now, memory⟩
  rw [Coordinator.attach, changeMemory, memory]
  rfl

end Fresh

/-- In every run in which the inventory is attached before it is changed, nothing
is lost. -/
theorem FreshAttached.run (engine : Engine) (memory : MemoryInventory) {before : List Move}
    (unchanged : ∀ move ∈ before, ¬move.ChangesFlights) (after : List Move) :
    FreshAttached (Coordinator.run { engine := engine, inventory := .memory memory }
      (before ++ .attach :: after)) := by
  have fresh : Fresh (Coordinator.run { engine := engine, inventory := .memory memory } before) :=
    run_induction (.initial engine memory) fun _ _ _ member fresh step =>
      fresh.step (Or.inr (unchanged _ member)) step
  rw [run_append]
  change FreshAttached ((Coordinator.run _ before).attach.run after)
  refine run_induction fresh.attach fun _ _ _ _ fresh step => ?_
  exact ⟨fresh.toFresh.step (Or.inl fresh.attached) step, step.isAttached fresh.attached⟩

/-- Whatever has happened since an inventory in memory was attached, and as long
as it was not changed before: while the loop has not ended, whenever no rebuild
is in progress or pending and the latest one has succeeded, the current graph is
that of the flights which the inventory lists at this moment, and every search is
answered from it. -/
theorem current_graph_reflects_inventory {config : Config} {policy : WarmPolicy}
    {engine : Engine} (created : Engine.withPolicy config policy = .ok engine)
    (memory : MemoryInventory) {before : List Move}
    (unchanged : ∀ move ∈ before, ¬move.ChangesFlights) (after : List Move) :
    let reached := run { engine := engine, inventory := .memory memory }
      (before ++ .attach :: after)
    reached.loop ≠ .ended → reached.state = .idle → reached.pending = false →
      ∀ covers summary, reached.finished = some ⟨covers, .ok summary⟩ →
        ∃ now graph, reached.inventory = .memory now ∧
          Graph.build now.flights reached.engine.version = .ok graph ∧
          reached.engine.current.graph = graph ∧
          ∀ (pair : Pair) (given : Option Constraints) (itineraries : List Itinerary),
            (reached.search pair given).1 = .ok itineraries ↔
              (given.getD config.search.constraints).violation? config.maxHopsLimit = none ∧
                graph.search pair.source pair.destination
                  (given.getD config.search.constraints) = .ok itineraries := by
  intro reached goesOn idle covered covers summary ended
  have fresh : reached.FreshAttached := .run engine memory unchanged after
  have coherent : reached.Coherent config := .run created _ _
  have notRunning : reached.running = none := by
    cases running : reached.running with
    | none => rfl
    | some rebuild =>
      rw [state, running] at idle
      cases idle
  rcases fresh.inMemory with ⟨now, inMemory⟩
  rcases (fresh.upToDate goesOn covered).published notRunning covers summary ended with
    ⟨flights, load, built⟩
  rw [inMemory] at load
  rw [← Except.ok.inj load] at built
  exact ⟨now, _, inMemory, built, rfl, coherent.search_eq_ok_iff⟩

private def shuttleGraph : Graph :=
  .ofBoardable 1 0 [shuttle]

/-- A flight has come into the inventory, and a rebuild has read it. -/
private def shuttleRead : Coordinator :=
  run { engine := warmEngine, inventory := .memory {} }
    [.attach, .upsert shuttle, .call .manual, .serveFirst, .endRead .loaded]

theorem upserted_flight_reflected :
    ∃ now graph, shuttleRead.finish.inventory = .memory now ∧
      Graph.build now.flights shuttleRead.finish.engine.version = .ok graph ∧
      shuttleRead.finish.engine.current.graph = graph := by
  have built : Graph.build [shuttle] 1 = .ok shuttleGraph := Graph.build_of_nodup 1 (by decide)
  have made := (Engine.nextSnapshot_eq_ok_iff warmEngine [shuttle]
    ⟨shuttleGraph, (Engine.warm shuttleGraph {} [⟨"A", "B"⟩]).1⟩ 1).mpr ⟨built, rfl⟩
  have decided : shuttleRead.running =
      some ⟨⟨.caller 0, .manual, 2⟩, 2, .decided (warmEngine.nextSnapshot [shuttle])⟩ := rfl
  rw [made] at decided
  have ended := finish_of_decided decided
  have goesOn : shuttleRead.finish.loop ≠ .ended := by rw [ended]; nofun
  have idle : shuttleRead.finish.state = .idle := by rw [ended]; rfl
  have covered : shuttleRead.finish.pending = false := by rw [ended]; rfl
  have created : Engine.withPolicy {} (.fixed [⟨"A", "B"⟩]) = .ok warmEngine := rfl
  rcases current_graph_reflects_inventory created {} (List.forall_mem_nil _)
    [.upsert shuttle, .call .manual, .serveFirst, .endRead .loaded, .finish]
    goesOn idle covered _ _ (congrArg Coordinator.finished ended) with
    ⟨now, graph, inMemory, rebuilt, same, _⟩
  exact ⟨now, graph, inMemory, rebuilt, same⟩

end Coordinator
end Rebuild
end Itineraries
