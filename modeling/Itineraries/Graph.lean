import Itineraries.Fault
import Itineraries.Text.Sorted
import Itineraries.Timetable

namespace Itineraries

/-!
# Flight graphs

A graph holds, for one version of the inventory, the places that boardable
flights connect and the timetable of each.  It is built from a whole inventory
at once and never changed.  An inventory in which an id occurs twice is refused
as a whole, even if the flights concerned could not be boarded; a flight that
cannot be boarded is merely left out and counted.
-/

/-- A version of the inventory, arranged for searching: every place that some flight leaves
or reaches, in order, with its departures.  A place that is only reached has an empty
timetable. -/
structure Graph where
  version : Nat
  boards : List (String × Timetable)
  flightCount : Nat
  excludedCount : Nat

namespace Graph

def empty : Graph where
  version := 0
  boards := []
  flightCount := 0
  excludedCount := 0

instance : Inhabited Graph :=
  ⟨empty⟩

def locations (graph : Graph) : List String :=
  graph.boards.map (·.1)

def locationCount (graph : Graph) : Nat :=
  graph.boards.length

def contains (graph : Graph) (location : String) : Bool :=
  (graph.boards.lookup location).isSome

/-- The departures from a place.  There are none from an unknown one. -/
def outbound (graph : Graph) (location : String) : Timetable :=
  (graph.boards.lookup location).getD Timetable.empty

def flights (graph : Graph) : List Flight :=
  graph.boards.flatMap fun board => board.2.toList

/-- The ids that occur more than once in an inventory, in order. -/
def duplicateIds (flights : List Flight) : List String :=
  Text.sortedRepeated (flights.map (·.id))

/-- The places that flights leave or reach, in order. -/
def endpoints (flights : List Flight) : List String :=
  Text.sortedDistinct (flights.flatMap fun flight => [flight.source, flight.destination])

/-- The graph of some boardable flights. -/
def ofBoardable (version excludedCount : Nat) (flights : List Flight) : Graph where
  version := version
  boards := (endpoints flights).map fun location =>
    (location, Timetable.ofList (flights.filter (·.source = location)))
  flightCount := flights.length
  excludedCount := excludedCount

def build (flights : List Flight) (version : Nat) : Except Fault Graph :=
  match duplicateIds flights with
  | [] =>
    let boardable := flights.filter (·.IsBoardable)
    .ok (ofBoardable version (flights.length - boardable.length) boardable)
  | duplicates => .error (.duplicateIds duplicates)

/-! ## What a graph is made of -/

theorem mem_duplicateIds (flights : List Flight) (id : String) :
    id ∈ duplicateIds flights ↔ 2 ≤ (flights.map (·.id)).count id :=
  Text.mem_sortedRepeated id _

/-- An inventory is accepted exactly when its ids are distinct. -/
theorem duplicateIds_eq_nil_iff (flights : List Flight) :
    duplicateIds flights = [] ↔ (flights.map (·.id)).Nodup := by
  rw [List.eq_nil_iff_forall_not_mem, List.nodup_iff_count]
  apply forall_congr'
  intro id
  rw [mem_duplicateIds, Nat.not_le]
  exact Nat.lt_succ_iff

theorem build_of_nodup {flights : List Flight} (version : Nat)
    (distinct : (flights.map (·.id)).Nodup) :
    build flights version =
      .ok (ofBoardable version (flights.length - (flights.filter (·.IsBoardable)).length)
        (flights.filter (·.IsBoardable))) := by
  rw [build, (duplicateIds_eq_nil_iff flights).mpr distinct]

theorem build_of_not_nodup {flights : List Flight} (version : Nat)
    (repeated : ¬(flights.map (·.id)).Nodup) :
    build flights version = .error (.duplicateIds (duplicateIds flights)) := by
  rw [build]
  split
  · rename_i none
    exact absurd ((duplicateIds_eq_nil_iff flights).mp none) repeated
  · rfl

theorem eq_ofBoardable_of_build {flights : List Flight} {version : Nat} {graph : Graph}
    (built : build flights version = .ok graph) :
    (flights.map (·.id)).Nodup ∧
      graph = ofBoardable version (flights.length - (flights.filter (·.IsBoardable)).length)
        (flights.filter (·.IsBoardable)) := by
  by_cases distinct : (flights.map (·.id)).Nodup
  · rw [build_of_nodup version distinct] at built
    exact ⟨distinct, (Except.ok.inj built).symm⟩
  · rw [build_of_not_nodup version distinct] at built
    exact absurd built nofun

theorem mem_endpoints (flights : List Flight) (location : String) :
    location ∈ endpoints flights ↔
      ∃ flight ∈ flights, flight.source = location ∨ flight.destination = location := by
  rw [endpoints, Text.mem_sortedDistinct, List.mem_flatMap]
  constructor
  · intro ⟨flight, member, place⟩
    rw [List.mem_cons, List.mem_singleton] at place
    exact ⟨flight, member, place.imp Eq.symm Eq.symm⟩
  · intro ⟨flight, member, place⟩
    refine ⟨flight, member, ?_⟩
    rw [List.mem_cons, List.mem_singleton]
    exact place.imp Eq.symm Eq.symm

theorem locations_ofBoardable (version excludedCount : Nat) (flights : List Flight) :
    (ofBoardable version excludedCount flights).locations = endpoints flights := by
  rw [locations, ofBoardable, List.map_map]
  exact List.map_id _

/-- The board that a row of boards, one for each place, has for a place. -/
private theorem lookup_boards (board : String → Timetable) (places : List String)
    (location : String) :
    (places.map fun place => (place, board place)).lookup location =
      if location ∈ places then some (board location) else none := by
  induction places with
  | nil => rfl
  | cons place rest inductionHypothesis =>
    rw [List.map_cons, List.lookup_cons, inductionHypothesis]
    by_cases same : location = place
    · rw [same, beq_self_eq_true, if_pos List.mem_cons_self]
    · rw [beq_false_of_ne same]
      by_cases known : location ∈ rest
      · rw [if_pos known, if_pos (List.mem_cons_of_mem _ known)]
      · have absent : location ∉ place :: rest := by
          intro member
          rcases List.mem_cons.mp member with here | there
          · exact same here
          · exact known there
        rw [if_neg known, if_neg absent]

theorem contains_ofBoardable (version excludedCount : Nat) (flights : List Flight)
    (location : String) :
    (ofBoardable version excludedCount flights).contains location ↔
      location ∈ endpoints flights := by
  rw [contains, ofBoardable, lookup_boards fun place =>
    Timetable.ofList (flights.filter (·.source = place))]
  split
  · rename_i known
    exact ⟨fun _ => known, fun _ => rfl⟩
  · rename_i unknown
    exact ⟨fun impossible => absurd impossible (by decide), fun member => absurd member unknown⟩

theorem outbound_ofBoardable (version excludedCount : Nat) (flights : List Flight)
    (location : String) :
    (ofBoardable version excludedCount flights).outbound location =
      Timetable.ofList (flights.filter (·.source = location)) := by
  rw [outbound, ofBoardable, lookup_boards fun place =>
    Timetable.ofList (flights.filter (·.source = place))]
  split
  · rfl
  · rename_i unknown
    have none : flights.filter (·.source = location) = [] := by
      rw [List.filter_eq_nil_iff]
      intro flight member leaves
      rw [decide_eq_true_eq] at leaves
      exact unknown ((mem_endpoints flights location).mpr ⟨flight, member, Or.inl leaves⟩)
    rw [none, Timetable.ofList_nil]
    rfl

theorem mem_outbound (version excludedCount : Nat) (flights : List Flight) (location : String)
    (flight : Flight) :
    flight ∈ ((ofBoardable version excludedCount flights).outbound location).toList ↔
      flight ∈ flights ∧ flight.source = location := by
  rw [outbound_ofBoardable, Timetable.mem_toList_ofList, List.mem_filter, decide_eq_true_eq]

end Graph
end Itineraries
