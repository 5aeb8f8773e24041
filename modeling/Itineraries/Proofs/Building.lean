import Mathlib.Data.List.Induction
import Mathlib.Data.List.Perm.Basic
import Itineraries.Proofs.Bytes
import Itineraries.Proofs.Chronicle
import Itineraries.Proofs.Ranking

namespace Itineraries

/-!
# What a graph holds

A graph is defined place by place: each place of the inventory gets a board, and the
flights that leave it are picked out of the whole inventory.  It could as well be
collected in one pass, in which every flight makes its destination known and joins the
departures from its source.  Nothing would come out differently: a place is known as soon
as one flight has visited it, and the departures of a place are never mixed with others.

So a graph neither loses a flight nor has one twice, although it only knows the flights
board by board: every flight leaves from exactly one place, and that place has a board.
-/

namespace Graph

/-! ## One pass over the inventory -/

/-- The places that are known so far, each with the flights that leave it. -/
structure Departures where
  board? : String → Option (List Flight)

namespace Departures

/-- The flights that leave a place, as far as it is known. -/
def board (departures : Departures) (place : String) : List Flight :=
  (departures.board? place).getD []

def visit (departures : Departures) (location : String) : Departures where
  board? place :=
    if place = location then some (departures.board place) else departures.board? place

/-- Lets a flight join the departures from its source. -/
def join (departures : Departures) (flight : Flight) : Departures where
  board? place :=
    if place = flight.source then some (departures.board place ++ [flight])
    else departures.board? place

/-- Takes in a flight of the inventory, unless it cannot be boarded. -/
def enter (departures : Departures) (flight : Flight) : Departures :=
  if flight.IsBoardable then (departures.visit flight.destination).join flight else departures

/-- The departures of an inventory. -/
def collect (flights : List Flight) : Departures :=
  flights.foldl enter ⟨fun _ => none⟩

theorem collect_concat (flights : List Flight) (flight : Flight) :
    collect (flights ++ [flight]) = (collect flights).enter flight :=
  List.foldl_append

theorem board_visit (departures : Departures) (location place : String) :
    (departures.visit location).board place = departures.board place := by
  simp only [board, visit]
  split <;> rfl

/-- A flight that can be boarded makes both its places known. -/
theorem isSome_enter (departures : Departures) (flight : Flight) (place : String) :
    ((departures.enter flight).board? place).isSome ↔
      (departures.board? place).isSome ∨
        flight.IsBoardable ∧ (flight.source = place ∨ flight.destination = place) := by
  by_cases boardable : flight.IsBoardable
  · rw [enter, if_pos boardable, join, visit]
    by_cases leaves : flight.source = place
    · simp only [leaves, if_true, Option.isSome_some, boardable, true_or, and_self, or_true]
    · by_cases reaches : flight.destination = place
      · simp only [reaches, Ne.symm leaves, if_true, if_false, Option.isSome_some, boardable,
          or_true, and_self]
      · simp only [leaves, reaches, Ne.symm leaves, Ne.symm reaches, if_false, or_self, and_false,
          or_false]
  · simp only [enter, boardable, if_false, false_and, or_false]

/-- A flight that can be boarded is one more departure from its source. -/
theorem board_enter (departures : Departures) (flight : Flight) (place : String) :
    (departures.enter flight).board place =
      departures.board place ++ [flight].filter fun flight =>
        flight.IsBoardable ∧ flight.source = place := by
  simp only [List.filter_cons, List.filter_nil, decide_eq_true_eq]
  by_cases boardable : flight.IsBoardable
  · rw [enter, if_pos boardable, ← board_visit departures flight.destination]
    by_cases leaves : flight.source = place
    · rw [if_pos ⟨boardable, leaves⟩]
      simp only [join, leaves, if_true, board, Option.getD_some]
    · rw [if_neg fun joins => leaves joins.2, List.append_nil]
      simp only [join, Ne.symm leaves, if_false, board]
  · rw [if_neg fun joins => boardable joins.1, List.append_nil, enter, if_neg boardable]

theorem isSome_collect (flights : List Flight) (place : String) :
    ((collect flights).board? place).isSome ↔
      ∃ flight ∈ flights,
        flight.IsBoardable ∧ (flight.source = place ∨ flight.destination = place) := by
  induction flights using List.reverseRecOn with
  | nil => simp [collect]
  | append_singleton flights flight inductionHypothesis =>
    rw [collect_concat, isSome_enter, inductionHypothesis]
    simp only [List.mem_append, List.mem_singleton, or_and_right, exists_or, exists_eq_left]

theorem board_collect (flights : List Flight) (place : String) :
    (collect flights).board place =
      flights.filter fun flight => flight.IsBoardable ∧ flight.source = place := by
  induction flights using List.reverseRecOn with
  | nil => rfl
  | append_singleton flights flight inductionHypothesis =>
    rw [collect_concat, board_enter, inductionHypothesis, List.filter_append]

end Departures

/-- A graph holds what is collected in one pass, with the departures of each place sorted at
the end. -/
theorem collected_of_build {flights : List Flight} {version : Nat} {graph : Graph}
    (built : build flights version = .ok graph) (location : String) :
    graph.contains location = ((Departures.collect flights).board? location).isSome ∧
      graph.outbound location =
        Timetable.ofList ((Departures.collect flights).board location) := by
  rw [(eq_ofBoardable_of_build built).2]
  constructor
  · rw [Bool.eq_iff_iff, contains_ofBoardable, mem_endpoints, Departures.isSome_collect]
    simp only [List.mem_filter, decide_eq_true_eq, and_assoc]
  · rw [outbound_ofBoardable, Departures.board_collect, List.filter_filter]
    simp only [and_comm, Bool.decide_and]

/-! ## Place by place -/

theorem endpoints_nodup (flights : List Flight) : (endpoints flights).Nodup :=
  (Text.pairwise_sortedDistinct _).imp String.ne_of_lt

private theorem filter_source_of_ne {place other : String} (apart : other ≠ place)
    (flights : List Flight) :
    (flights.filter fun flight => !decide (flight.source = place)).filter (·.source = other) =
      flights.filter (·.source = other) := by
  rw [List.filter_filter]
  apply List.filter_congr
  intro flight _
  by_cases leaves : flight.source = other
  · have away : flight.source ≠ place := fun here => apart (leaves.symm.trans here)
    rw [decide_eq_true leaves, decide_eq_false away]
    rfl
  · rw [decide_eq_false leaves, Bool.false_and]

/-- Flights that are picked out place by place are all there, each once. -/
private theorem flatMap_filter_source_perm {places : List String} (distinct : places.Nodup)
    (flights : List Flight) (covered : ∀ flight ∈ flights, flight.source ∈ places) :
    (places.flatMap fun place => flights.filter (·.source = place)).Perm flights := by
  induction places generalizing flights with
  | nil =>
    have none : flights = [] :=
      List.eq_nil_iff_forall_not_mem.mpr fun flight member => nomatch covered flight member
    rw [none]
    exact List.Perm.nil
  | cons place rest inductionHypothesis =>
    rcases List.nodup_cons.mp distinct with ⟨apart, distinct⟩
    let elsewhere := flights.filter fun flight => !decide (flight.source = place)
    have unmoved : ∀ other ∈ rest, flights.filter (·.source = other) =
        elsewhere.filter (·.source = other) := by
      intro other member
      have different : other ≠ place := fun same => apart (same ▸ member)
      exact (filter_source_of_ne different flights).symm
    have others : (rest.flatMap fun other => elsewhere.filter (·.source = other)).Perm
        elsewhere := by
      refine inductionHypothesis distinct elsewhere fun flight member => ?_
      rcases List.mem_filter.mp member with ⟨listed, away⟩
      rw [Bool.not_eq_true', decide_eq_false_iff_not] at away
      exact (List.mem_cons.mp (covered flight listed)).resolve_left away
    rw [List.flatMap_cons, List.flatMap_congr unmoved]
    exact (others.append_left _).trans (List.filter_append_perm _ flights)

theorem flights_perm_of_build {flights : List Flight} {version : Nat} {graph : Graph}
    (built : build flights version = .ok graph) :
    graph.flights.Perm (flights.filter (·.IsBoardable)) := by
  rw [(eq_ofBoardable_of_build built).2, Graph.flights, ofBoardable, List.flatMap_map]
  have unsorted := List.Perm.flatMap_left (endpoints (flights.filter (·.IsBoardable)))
    (fun location _ => List.mergeSort_perm
      ((flights.filter (·.IsBoardable)).filter (·.source = location)) Flight.leavesFirst)
  refine unsorted.trans (flatMap_filter_source_perm (endpoints_nodup _) _ ?_)
  exact fun flight member => (mem_endpoints _ _).mpr ⟨flight, member, .inl rfl⟩

/-- What a graph holds of an inventory: the places that flights connect, for each of them the
flights that leave it, and the numbers of those that could be boarded and those that could
not. -/
structure Holds (graph : Graph) (flights : List Flight) (version : Nat) : Prop where
  version_eq : graph.version = version
  locations_nodup : graph.locations.Nodup
  mem_locations_iff : ∀ location, location ∈ graph.locations ↔
    ∃ flight ∈ flights, flight.IsBoardable ∧
      (flight.source = location ∨ flight.destination = location)
  contains_iff : ∀ location, graph.contains location ↔ location ∈ graph.locations
  outbound_ordered : ∀ location, (graph.outbound location).toList.Pairwise Flight.LeavesBefore
  outbound_perm : ∀ location, (graph.outbound location).toList.Perm
    (flights.filter fun flight => flight.IsBoardable ∧ flight.source = location)
  outbound_unknown : ∀ location, location ∉ graph.locations →
    (graph.outbound location).toList = []
  flights_perm : graph.flights.Perm (flights.filter (·.IsBoardable))
  flightCount_eq : graph.flightCount = flights.countP (·.IsBoardable)
  counts_add : graph.flightCount + graph.excludedCount = flights.length

theorem holds_of_build {flights : List Flight} {version : Nat} {graph : Graph}
    (built : build flights version = .ok graph) : graph.Holds flights version := by
  have shape := (eq_ofBoardable_of_build built).2
  have known : ∀ location, graph.contains location ↔ location ∈ graph.locations := by
    intro location
    rw [shape, contains_ofBoardable, locations_ofBoardable]
  have departures : ∀ location, (graph.outbound location).toList.Perm
      (flights.filter fun flight => flight.IsBoardable ∧ flight.source = location) := by
    intro location
    rw [(collected_of_build built location).2, Departures.board_collect]
    exact List.mergeSort_perm _ _
  exact {
    version_eq := by rw [shape]; rfl
    locations_nodup := by
      rw [shape, locations_ofBoardable]
      exact endpoints_nodup _
    mem_locations_iff := fun location => by
      rw [← known, (collected_of_build built location).1, Departures.isSome_collect]
    contains_iff := known
    outbound_ordered := outbound_pairwise_of_build built
    outbound_perm := departures
    outbound_unknown := by
      intro location unknown
      rw [← known, contains, Bool.not_eq_true, Option.isSome_eq_false_iff,
        Option.isNone_iff_eq_none] at unknown
      rw [outbound, unknown]
      rfl
    flights_perm := flights_perm_of_build built
    flightCount_eq := by
      rw [shape, List.countP_eq_length_filter]
      rfl
    counts_add := counts_of_build built
  }

/-! ## Whole inventories -/

theorem eq_duplicateIds_of_build {flights : List Flight} {version : Nat} {fault : Fault}
    (refused : build flights version = .error fault) :
    ¬(flights.map (·.id)).Nodup ∧ fault = .duplicateIds (duplicateIds flights) := by
  by_cases distinct : (flights.map (·.id)).Nodup
  · rw [build_of_nodup version distinct] at refused
    cases refused
  · rw [build_of_not_nodup version distinct] at refused
    exact ⟨distinct, (Except.error.inj refused).symm⟩

/-- An inventory is refused exactly when some id occurs in it twice, whether or not these
flights could be boarded, and the fault lists just those ids in the order of their bytes.  Any
other inventory becomes a graph that holds it. -/
theorem build_exact (flights : List Flight) (version : Nat) :
    ((∃ fault, build flights version = .error fault) ↔
        ∃ id, 2 ≤ (flights.map (·.id)).count id) ∧
      (∀ fault, build flights version = .error fault →
        ∃ ids, fault = .duplicateIds ids ∧
          (ids.Pairwise fun first second => Text.bytes first < Text.bytes second) ∧
          ∀ id, id ∈ ids ↔ 2 ≤ (flights.map (·.id)).count id) ∧
      ∀ graph, build flights version = .ok graph → graph.Holds flights version := by
  refine ⟨?_, ?_, fun graph => holds_of_build⟩
  · have repeated : (∃ id, 2 ≤ (flights.map (·.id)).count id) ↔ ¬(flights.map (·.id)).Nodup := by
      simp only [List.nodup_iff_count, not_forall, Nat.not_le, Nat.succ_le_iff]
    rw [repeated]
    exact ⟨fun ⟨_, refused⟩ => (eq_duplicateIds_of_build refused).1,
      fun twice => ⟨_, build_of_not_nodup version twice⟩⟩
  · intro fault refused
    refine ⟨duplicateIds flights, (eq_duplicateIds_of_build refused).2, ?_,
      mem_duplicateIds flights⟩
    exact (Text.pairwise_sortedRepeated _).imp Text.bytes_lt_bytes_iff.mpr

private def soldOut : Flight :=
  ⟨"F", "A", "B", atHour 0, atHour 1, ⟨0⟩, 0⟩

private def wayBack : Flight :=
  ⟨"G", "B", "A", atHour 0, atHour 1, ⟨0⟩, 1⟩

/-- If this flight is listed twice, the inventory is refused, and otherwise it is left out. -/
theorem sold_out_flight_refused_or_excluded :
    (∃ ids, build [soldOut, wayBack, soldOut] 1 = .error (.duplicateIds ids) ∧ "F" ∈ ids ∧
        "G" ∉ ids) ∧
      ∃ graph, build [soldOut, wayBack] 1 = .ok graph ∧ graph.contains "A" ∧
        graph.flights.Perm [wayBack] ∧ graph.flightCount = 1 ∧ graph.excludedCount = 1 := by
  constructor
  · rcases build_exact [soldOut, wayBack, soldOut] 1 with ⟨fails, lists, -⟩
    rcases fails.mpr ⟨"F", by decide⟩ with ⟨fault, refused⟩
    rcases lists fault refused with ⟨ids, rfl, -, listed⟩
    exact ⟨ids, refused, (listed "F").mpr (by decide), fun member =>
      absurd ((listed "G").mp member) (by decide)⟩
  · have built : build [soldOut, wayBack] 1 = _ := build_of_nodup 1 (by decide)
    have holds := (build_exact [soldOut, wayBack] 1).2.2 _ built
    have known := (holds.contains_iff "A").mpr ((holds.mem_locations_iff "A").mpr
      ⟨wayBack, by decide, by decide, .inr rfl⟩)
    exact ⟨_, built, known, holds.flights_perm, rfl, rfl⟩

end Graph
end Itineraries
