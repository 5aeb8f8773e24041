import Itineraries.Search
import Itineraries.Timetable.Window
import Mathlib.Data.List.Chain
import Mathlib.Data.List.Nodup

namespace Itineraries

/-!
# What a search finds

A search walks in depth, cuts windows out of sorted timetables and drops a
branch as soon as it cannot lead anywhere.  None of this shows in its answer:
that consists of all rows of flights which keep to the constraints, and of each
of them once.

What keeps to the constraints is said of a row of flights as a whole, without a
trail, a window or an order of the search.  The search is compared with it
through the rows that complete a trail: those are described in the same way, and
they fall apart into a first flight and a row that completes the longer trail.
-/

open Time (Instant)

/-- Whether a connection is neither too short nor too long.  If the shortest one
leads beyond all time none is possible; if only the longest does, there is no
latest departure. -/
structure Constraints.Allows (constraints : Constraints) (arrival departure : Instant) : Prop where
  not_short : ∃ earliest,
    arrival.addMinutes? constraints.minConnection.toNat = some earliest ∧ earliest ≤ departure
  not_long : ∀ latest,
    arrival.addMinutes? constraints.maxConnection.toNat = some latest → departure ≤ latest

theorem Constraints.allows_iff (constraints : Constraints) (arrival departure : Instant) :
    constraints.Allows arrival departure ↔
      (arrival.addMinutes? constraints.minConnection.toNat).any (· ≤ departure) = true ∧
        (arrival.addMinutes? constraints.maxConnection.toNat).all (departure ≤ ·) = true := by
  simp only [Option.any_eq_true, Option.all_eq_true, decide_eq_true_eq]
  exact ⟨fun allowed => ⟨allowed.not_short, allowed.not_long⟩, fun both => ⟨both.1, both.2⟩⟩

instance (constraints : Constraints) (arrival departure : Instant) :
    Decidable (constraints.Allows arrival departure) :=
  decidable_of_iff' _ (constraints.allows_iff arrival departure)

/-- Whether a flight can follow another one in an itinerary. -/
structure Constraints.Connects (constraints : Constraints) (previous next : Flight) : Prop where
  joined : next.source = previous.destination
  allowed : constraints.Allows previous.arrival next.departure

/-- A row of flights from an inventory that leads from one place to another and
keeps to the constraints. -/
structure Admissible (flights : List Flight) (source destination : String)
    (constraints : Constraints) (legs : List Flight) : Prop where
  legs_ne_nil : legs ≠ []
  length_le : legs.length ≤ constraints.maxHops
  offered : ∀ leg ∈ legs, leg ∈ flights ∧ leg.IsBoardable
  leaves : ∀ first ∈ legs.head?, first.source = source
  reaches : ∀ last ∈ legs.getLast?, last.destination = destination
  no_return : (source :: legs.map (·.destination)).Nodup
  seated : ∀ leg ∈ legs, constraints.minSeats ≤ leg.availableSeats
  not_early : ∀ first ∈ legs.head?, ∀ earliest ∈ constraints.departureNotBefore,
    earliest ≤ first.departure
  connected : legs.IsChain constraints.Connects

theorem Constraints.connects_iff (constraints : Constraints) (previous next : Flight) :
    constraints.Connects previous next ↔
      next.source = previous.destination ∧
        constraints.Allows previous.arrival next.departure :=
  ⟨fun connects => ⟨connects.joined, connects.allowed⟩, fun both => ⟨both.1, both.2⟩⟩

instance (constraints : Constraints) (previous next : Flight) :
    Decidable (constraints.Connects previous next) :=
  decidable_of_iff' _ (constraints.connects_iff previous next)

theorem admissible_iff (flights : List Flight) (source destination : String)
    (constraints : Constraints) (legs : List Flight) :
    Admissible flights source destination constraints legs ↔
      legs ≠ [] ∧ legs.length ≤ constraints.maxHops ∧
        (∀ leg ∈ legs, leg ∈ flights ∧ leg.IsBoardable) ∧
        (∀ first ∈ legs.head?, first.source = source) ∧
        (∀ last ∈ legs.getLast?, last.destination = destination) ∧
        (source :: legs.map (·.destination)).Nodup ∧
        (∀ leg ∈ legs, constraints.minSeats ≤ leg.availableSeats) ∧
        (∀ first ∈ legs.head?, ∀ earliest ∈ constraints.departureNotBefore,
          earliest ≤ first.departure) ∧
        legs.IsChain constraints.Connects := by
  constructor
  · intro admissible
    exact ⟨admissible.legs_ne_nil, admissible.length_le, admissible.offered, admissible.leaves,
      admissible.reaches, admissible.no_return, admissible.seated, admissible.not_early,
      admissible.connected⟩
  · rintro ⟨legs_ne_nil, length_le, offered, leaves, reaches, no_return, seated, not_early,
      connected⟩
    exact ⟨legs_ne_nil, length_le, offered, leaves, reaches, no_return, seated, not_early,
      connected⟩

instance (flights : List Flight) (source destination : String) (constraints : Constraints)
    (legs : List Flight) : Decidable (Admissible flights source destination constraints legs) :=
  decidable_of_iff' _ (admissible_iff flights source destination constraints legs)

namespace Query

/-! ## Candidates -/

/-- Whether the legs so far, of which the latest comes first, allow a departure
at an instant. -/
def AllowsNext (query : Query) : List Flight → Instant → Prop
  | [], departure => ∀ earliest ∈ query.constraints.departureNotBefore, earliest ≤ departure
  | previous :: _, departure => query.constraints.Allows previous.arrival departure

instance (query : Query) (departure : Instant) :
    (trail : List Flight) → Decidable (query.AllowsNext trail departure)
  | [] => inferInstanceAs
      (Decidable (∀ earliest ∈ query.constraints.departureNotBefore, earliest ≤ departure))
  | previous :: _ =>
    inferInstanceAs (Decidable (query.constraints.Allows previous.arrival departure))

theorem allowsNext_cons (query : Query) (previous : Flight) (before : List Flight)
    (departure : Instant) :
    query.AllowsNext (previous :: before) departure ↔
      query.constraints.Allows previous.arrival departure :=
  Iff.rfl

/-- The window that is cut out of a timetable holds what a look at each departure would
pick out. -/
theorem candidates_eq_filter (query : Query) (trail : List Flight) (location : String) :
    query.candidates trail location =
      (query.graph.outbound location).toList.filter fun flight =>
        query.AllowsNext trail flight.departure := by
  cases trail with
  | nil =>
    cases bound : query.constraints.departureNotBefore with
    | none =>
      simp only [candidates, AllowsNext, bound, Option.mem_def, reduceCtorEq, false_implies,
        implies_true, decide_true, List.filter_true]
    | some earliest =>
      simp only [candidates, AllowsNext, bound, Timetable.since_eq_filter, Option.mem_some_iff,
        forall_eq']
  | cons previous before =>
    simp only [allowsNext_cons, Constraints.allows_iff]
    cases shortest : previous.arrival.addMinutes? query.constraints.minConnection.toNat with
    | none =>
      simp only [candidates, shortest, Option.any_none, Bool.false_eq_true, false_and,
        decide_false, List.filter_false]
    | some earliest =>
      cases longest : previous.arrival.addMinutes? query.constraints.maxConnection.toNat with
      | none =>
        simp only [candidates, shortest, longest, Timetable.since_eq_filter, Option.any_some,
          Option.all_none, decide_eq_true_eq, and_true]
      | some latest =>
        simp only [candidates, shortest, longest, Timetable.between_eq_filter, Option.any_some,
          Option.all_some, decide_eq_true_eq]

theorem mem_candidates_iff (query : Query) (trail : List Flight) (location : String)
    (flight : Flight) :
    flight ∈ query.candidates trail location ↔
      flight ∈ (query.graph.outbound location).toList ∧
        query.AllowsNext trail flight.departure := by
  rw [candidates_eq_filter, List.mem_filter, decide_eq_true_eq]

theorem hasVisited_cons (query : Query) (flight : Flight) (trail : List Flight)
    (location : String) :
    query.hasVisited (flight :: trail) location = false ↔
      flight.destination ≠ location ∧ query.hasVisited trail location = false := by
  simp only [hasVisited, List.any_cons, Bool.or_eq_false_iff, beq_eq_false_iff_ne]
  exact and_left_comm

/-! ## Rows that complete a trail -/

/-- A row of flights that takes the legs so far from a place to the destination,
said of the row as a whole. -/
structure Completes (query : Query) (trail : List Flight) (location : String)
    (onward : List Flight) : Prop where
  onward_ne_nil : onward ≠ []
  offered : ∀ leg ∈ onward, leg ∈ (query.graph.outbound leg.source).toList
  leaves : ∀ first ∈ onward.head?, first.source = location
  allowed : ∀ first ∈ onward.head?, query.AllowsNext trail first.departure
  connected : onward.IsChain query.constraints.Connects
  reaches : ∀ last ∈ onward.getLast?, last.destination = query.destination
  seated : ∀ leg ∈ onward, query.constraints.minSeats ≤ leg.availableSeats
  unvisited : ∀ leg ∈ onward, query.hasVisited trail leg.destination = false
  distinct : (onward.map (·.destination)).Nodup

/-- What the search asks of a flight before it takes it. -/
structure Takes (query : Query) (trail : List Flight) (location : String) (flight : Flight) :
    Prop where
  candidate : flight ∈ query.candidates trail location
  seated : query.constraints.minSeats ≤ flight.availableSeats
  unvisited : query.hasVisited trail flight.destination = false

/-- Whether every timetable of the graph lists departures from its own place. -/
def IsPlaced (query : Query) : Prop :=
  ∀ location, ∀ flight ∈ (query.graph.outbound location).toList, flight.source = location

theorem Completes.takes {query : Query} {trail : List Flight} {location : String}
    {flight : Flight} {onward : List Flight}
    (completes : query.Completes trail location (flight :: onward)) :
    query.Takes trail location flight where
  candidate := by
    have leaves := completes.leaves flight rfl
    have offered := completes.offered flight List.mem_cons_self
    rw [leaves] at offered
    exact (mem_candidates_iff query trail location flight).mpr
      ⟨offered, completes.allowed flight rfl⟩
  seated := completes.seated flight List.mem_cons_self
  unvisited := completes.unvisited flight List.mem_cons_self

/-- Nothing follows a flight that reaches the destination: a row that went on
would have to come back there at its end. -/
theorem completes_iff_of_reaches {query : Query} (placed : query.IsPlaced) {trail : List Flight}
    {location : String} {flight : Flight} (reaches : flight.destination = query.destination)
    (onward : List Flight) :
    query.Completes trail location (flight :: onward) ↔
      query.Takes trail location flight ∧ onward = [] := by
  constructor
  · intro completes
    refine ⟨completes.takes, ?_⟩
    by_contra more
    have last := completes.reaches (onward.getLast more) (by
      rw [Option.mem_def, List.getLast?_cons, List.getLast?_eq_some_getLast more,
        Option.getD_some])
    have fresh : flight.destination ∉ onward.map (·.destination) :=
      (List.nodup_cons.mp completes.distinct).1
    apply fresh
    rw [reaches, ← last]
    exact List.mem_map_of_mem (List.getLast_mem more)
  · rintro ⟨takes, rfl⟩
    have candidate := (mem_candidates_iff query trail location flight).mp takes.candidate
    have leaves := placed location flight candidate.1
    exact
      { onward_ne_nil := List.cons_ne_nil _ _
        offered := List.forall_mem_singleton.mpr (leaves ▸ candidate.1)
        leaves := by simpa using leaves
        allowed := by simpa using candidate.2
        connected := List.isChain_singleton _
        reaches := by simpa using reaches
        seated := List.forall_mem_singleton.mpr takes.seated
        unvisited := List.forall_mem_singleton.mpr takes.unvisited
        distinct := List.nodup_singleton _ }

/-- After any other flight the rest completes the longer trail. -/
theorem completes_iff_of_not_reaches {query : Query} (placed : query.IsPlaced)
    {trail : List Flight} {location : String} {flight : Flight}
    (further : flight.destination ≠ query.destination) (onward : List Flight) :
    query.Completes trail location (flight :: onward) ↔
      query.Takes trail location flight ∧
        query.Completes (flight :: trail) flight.destination onward := by
  constructor
  · intro completes
    refine ⟨completes.takes, ?_⟩
    cases onward with
    | nil => exact absurd (completes.reaches flight rfl) further
    | cons next rest =>
      have connection := (List.isChain_cons_cons.mp completes.connected).1
      have fresh : flight.destination ∉ (next :: rest).map (·.destination) :=
        (List.nodup_cons.mp completes.distinct).1
      exact
        { onward_ne_nil := List.cons_ne_nil _ _
          offered := fun leg member => completes.offered leg (List.mem_cons_of_mem _ member)
          leaves := by simpa using connection.joined
          allowed := by simpa [allowsNext_cons] using connection.allowed
          connected := (List.isChain_cons_cons.mp completes.connected).2
          reaches := completes.reaches
          seated := fun leg member => completes.seated leg (List.mem_cons_of_mem _ member)
          unvisited := by
            intro leg member
            refine (hasVisited_cons query flight trail leg.destination).mpr ⟨?_, ?_⟩
            · intro again
              exact fresh (again ▸ List.mem_map_of_mem member)
            · exact completes.unvisited leg (List.mem_cons_of_mem _ member)
          distinct := (List.nodup_cons.mp completes.distinct).2 }
  · rintro ⟨takes, completes⟩
    have candidate := (mem_candidates_iff query trail location flight).mp takes.candidate
    have leaves := placed location flight candidate.1
    have apart : ∀ leg ∈ onward, flight.destination ≠ leg.destination ∧
        query.hasVisited trail leg.destination = false := by
      intro leg member
      exact (hasVisited_cons query flight trail leg.destination).mp
        (completes.unvisited leg member)
    cases onward with
    | nil => exact absurd rfl completes.onward_ne_nil
    | cons next rest =>
      have connection : query.constraints.Connects flight next :=
        ⟨completes.leaves next rfl, completes.allowed next rfl⟩
      exact
        { onward_ne_nil := List.cons_ne_nil _ _
          offered := List.forall_mem_cons.mpr ⟨leaves ▸ candidate.1, completes.offered⟩
          leaves := by simpa using leaves
          allowed := by simpa using candidate.2
          connected := List.isChain_cons_cons.mpr ⟨connection, completes.connected⟩
          reaches := completes.reaches
          seated := List.forall_mem_cons.mpr ⟨takes.seated, completes.seated⟩
          unvisited := List.forall_mem_cons.mpr
            ⟨takes.unvisited, fun leg member => (apart leg member).2⟩
          distinct := by
            refine List.nodup_cons.mpr ⟨?_, completes.distinct⟩
            intro again
            rcases List.mem_map.mp again with ⟨leg, member, same⟩
            exact (apart leg member).1 same.symm }

/-! ## What the walk finds -/

theorem reverse_cons_ne_nil (trail : List Flight) (flight : Flight) :
    (flight :: trail).reverse ≠ [] := by
  simp only [ne_eq, List.reverse_eq_nil_iff, reduceCtorEq, not_false_eq_true]

/-- The itineraries that go on with a flight after the legs so far. -/
def journeysBy (query : Query) (further : Nat) (trail : List Flight) (flight : Flight) :
    List Itinerary :=
  if flight.availableSeats < query.constraints.minSeats ∨
      query.hasVisited trail flight.destination then
    []
  else if flight.destination = query.destination then
    [⟨(flight :: trail).reverse, reverse_cons_ne_nil trail flight⟩]
  else
    query.journeys further (flight :: trail) flight.destination

theorem journeys_succ (query : Query) (further : Nat) (trail : List Flight) (location : String) :
    query.journeys (further + 1) trail location =
      (query.candidates trail location).flatMap (query.journeysBy further trail) :=
  rfl

private theorem reverse_cons_append (trail onward : List Flight) (flight : Flight) :
    (flight :: trail).reverse ++ onward = trail.reverse ++ flight :: onward := by
  rw [List.reverse_cons, List.append_assoc, List.singleton_append]

/-- One flight further, the search finds the rows that begin with that
flight. -/
private theorem mem_journeysBy_iff {query : Query} (placed : query.IsPlaced) {further : Nat}
    {trail : List Flight} {location : String} {flight : Flight} {itinerary : Itinerary}
    (candidate : flight ∈ query.candidates trail location)
    (deeper : itinerary ∈ query.journeys further (flight :: trail) flight.destination ↔
      ∃ onward, itinerary.legs = (flight :: trail).reverse ++ onward ∧
        onward.length ≤ further ∧ query.Completes (flight :: trail) flight.destination onward) :
    itinerary ∈ query.journeysBy further trail flight ↔
      ∃ onward, itinerary.legs = trail.reverse ++ flight :: onward ∧ onward.length ≤ further ∧
        query.Completes trail location (flight :: onward) := by
  by_cases barred : flight.availableSeats < query.constraints.minSeats ∨
      query.hasVisited trail flight.destination = true
  · rw [journeysBy, if_pos barred]
    refine ⟨fun member => absurd member List.not_mem_nil, ?_⟩
    rintro ⟨onward, _, _, completes⟩
    have takes := completes.takes
    rcases barred with full | again
    · exact absurd takes.seated (Int.not_le.mpr full)
    · exact absurd (takes.unvisited.symm.trans again) Bool.false_ne_true
  · have takes : query.Takes trail location flight :=
      { candidate := candidate
        seated := Int.not_lt.mp fun full => barred (Or.inl full)
        unvisited := Bool.eq_false_iff.mpr fun again => barred (Or.inr again) }
    rw [journeysBy, if_neg barred]
    by_cases reaches : flight.destination = query.destination
    · rw [if_pos reaches, List.mem_singleton]
      constructor
      · rintro rfl
        refine ⟨[], List.reverse_cons, Nat.zero_le _, ?_⟩
        exact (completes_iff_of_reaches placed reaches []).mpr ⟨takes, rfl⟩
      · rintro ⟨onward, legs, _, completes⟩
        rcases (completes_iff_of_reaches placed reaches onward).mp completes with ⟨_, rfl⟩
        cases itinerary
        simp only [Itinerary.mk.injEq, List.reverse_cons]
        exact legs
    · rw [if_neg reaches, deeper]
      apply exists_congr
      intro onward
      rw [reverse_cons_append, completes_iff_of_not_reaches placed reaches]
      exact and_congr_right fun _ => and_congr_right fun _ =>
        ⟨fun completes => ⟨takes, completes⟩, fun both => both.2⟩

/-- The search finds the rows that complete the trail within the legs that are
left, and nothing else. -/
theorem mem_journeys_iff {query : Query} (placed : query.IsPlaced) (further : Nat)
    (trail : List Flight) (location : String) (itinerary : Itinerary) :
    itinerary ∈ query.journeys further trail location ↔
      ∃ onward, itinerary.legs = trail.reverse ++ onward ∧ onward.length ≤ further ∧
        query.Completes trail location onward := by
  induction further generalizing trail location with
  | zero =>
    refine ⟨fun member => absurd member List.not_mem_nil, ?_⟩
    rintro ⟨onward, _, short, completes⟩
    exact absurd (List.length_eq_zero_iff.mp (Nat.le_zero.mp short)) completes.onward_ne_nil
  | succ further inductionHypothesis =>
    rw [journeys_succ, List.mem_flatMap]
    constructor
    · rintro ⟨flight, candidate, member⟩
      rcases (mem_journeysBy_iff placed candidate (inductionHypothesis _ _)).mp member with
        ⟨onward, legs, short, completes⟩
      exact ⟨flight :: onward, legs, Nat.succ_le_succ short, completes⟩
    · rintro ⟨onward, legs, short, completes⟩
      cases onward with
      | nil => exact absurd rfl completes.onward_ne_nil
      | cons flight rest =>
        have candidate := completes.takes.candidate
        refine ⟨flight, candidate, ?_⟩
        exact (mem_journeysBy_iff placed candidate (inductionHypothesis _ _)).mpr
          ⟨rest, legs, Nat.le_of_succ_le_succ short, completes⟩

/-- Whatever goes on with a flight has that flight behind the legs so far. -/
theorem legs_of_mem_journeysBy {query : Query} (placed : query.IsPlaced) {further : Nat}
    {trail : List Flight} {location : String} {flight : Flight} {itinerary : Itinerary}
    (candidate : flight ∈ query.candidates trail location)
    (member : itinerary ∈ query.journeysBy further trail flight) :
    ∃ onward, itinerary.legs = trail.reverse ++ flight :: onward := by
  rcases (mem_journeysBy_iff placed candidate (mem_journeys_iff placed _ _ _ _)).mp member with
    ⟨onward, legs, _⟩
  exact ⟨onward, legs⟩

/-- The walk takes up departures in their order, and is done with one of them before it
takes up the next.  What holds of any two itineraries that part there thus holds of any
two that are found one after the other. -/
theorem journeys_pairwise {query : Query} (placed : query.IsPlaced)
    {before : Flight → Flight → Prop} {relation : Itinerary → Itinerary → Prop}
    (ordered : ∀ location, (query.graph.outbound location).toList.Pairwise before)
    (parted : ∀ {shared onward otherOnward : List Flight} {flight other : Flight}
      {first second : Itinerary}, before flight other → first.legs = shared ++ flight :: onward →
        second.legs = shared ++ other :: otherOnward → relation first second)
    (further : Nat) (trail : List Flight) (location : String) :
    (query.journeys further trail location).Pairwise relation := by
  induction further generalizing trail location with
  | zero => exact List.Pairwise.nil
  | succ further inductionHypothesis =>
    rw [journeys_succ, List.pairwise_flatMap]
    constructor
    · intro flight _
      unfold journeysBy
      split
      · exact List.Pairwise.nil
      · split
        · exact List.pairwise_singleton _ _
        · exact inductionHypothesis _ _
    · have candidates : (query.candidates trail location).Pairwise before := by
        rw [candidates_eq_filter]
        exact (ordered location).filter _
      apply candidates.imp_of_mem
      intro flight other candidate otherCandidate earlier itinerary member later laterMember
      rcases legs_of_mem_journeysBy placed candidate member with ⟨onward, legs⟩
      rcases legs_of_mem_journeysBy placed otherCandidate laterMember with
        ⟨otherOnward, otherLegs⟩
      exact parted earlier legs otherLegs

/-- Nothing is found twice, since itineraries that go on with different flights
differ in that leg. -/
theorem journeys_nodup {query : Query} (placed : query.IsPlaced)
    (distinct : ∀ location, (query.graph.outbound location).toList.Nodup) (further : Nat)
    (trail : List Flight) (location : String) :
    (query.journeys further trail location).Nodup := by
  apply journeys_pairwise placed distinct
  rintro shared onward otherOnward flight other itinerary _ different legs otherLegs rfl
  have same := List.append_cancel_left (legs.symm.trans otherLegs)
  exact different (List.cons.inj same).1

end Query

/-! ## The graph of an inventory -/

namespace Graph

/-- A graph knows of the flights of its inventory that can be boarded, each
where it leaves. -/
theorem mem_outbound_of_build {flights : List Flight} {version : Nat} {graph : Graph}
    (built : build flights version = .ok graph) (location : String) (flight : Flight) :
    flight ∈ (graph.outbound location).toList ↔
      (flight ∈ flights ∧ flight.IsBoardable) ∧ flight.source = location := by
  rw [(eq_ofBoardable_of_build built).2, mem_outbound, List.mem_filter, decide_eq_true_eq]

theorem outbound_nodup_of_build {flights : List Flight} {version : Nat} {graph : Graph}
    (built : build flights version = .ok graph) (location : String) :
    (graph.outbound location).toList.Nodup := by
  rcases eq_ofBoardable_of_build built with ⟨distinct, rfl⟩
  rw [outbound_ofBoardable]
  apply (List.mergeSort_perm _ _).nodup_iff.mpr
  exact ((List.Nodup.of_map _ distinct).filter _).filter _

theorem contains_of_build {flights : List Flight} {version : Nat} {graph : Graph}
    (built : build flights version = .ok graph) {flight : Flight} (member : flight ∈ flights)
    (boardable : flight.IsBoardable) :
    graph.contains flight.source = true ∧ graph.contains flight.destination = true := by
  have listed : flight ∈ flights.filter (·.IsBoardable) :=
    List.mem_filter.mpr ⟨member, decide_eq_true boardable⟩
  rw [(eq_ofBoardable_of_build built).2, contains_ofBoardable, contains_ofBoardable,
    mem_endpoints, mem_endpoints]
  exact ⟨⟨flight, listed, Or.inl rfl⟩, ⟨flight, listed, Or.inr rfl⟩⟩

end Graph

/-! ## The answer of a search -/

namespace Query

/-- On the graph of an inventory, the rows that complete an empty trail at the
source within the legs allowed are the admissible ones. -/
theorem completes_iff_admissible {flights : List Flight} {version : Nat} {graph : Graph}
    (built : Graph.build flights version = .ok graph) (source destination : String)
    (constraints : Constraints) (legs : List Flight) :
    legs.length ≤ constraints.maxHops ∧
        Completes ⟨graph, source, destination, constraints⟩ [] source legs ↔
      Admissible flights source destination constraints legs := by
  have unvisited : ∀ location,
      hasVisited ⟨graph, source, destination, constraints⟩ [] location = false ↔
        source ≠ location := by
    intro location
    simp only [hasVisited, List.any_nil, Bool.or_false, beq_eq_false_iff_ne]
  have offered : ∀ leg, leg ∈ (graph.outbound leg.source).toList ↔
      leg ∈ flights ∧ leg.IsBoardable := by
    intro leg
    rw [Graph.mem_outbound_of_build built]
    exact and_iff_left rfl
  constructor
  · rintro ⟨short, completes⟩
    exact
      { legs_ne_nil := completes.onward_ne_nil
        length_le := short
        offered := fun leg member => (offered leg).mp (completes.offered leg member)
        leaves := completes.leaves
        reaches := completes.reaches
        no_return := by
          refine List.nodup_cons.mpr ⟨?_, completes.distinct⟩
          intro again
          rcases List.mem_map.mp again with ⟨leg, member, same⟩
          exact (unvisited _).mp (completes.unvisited leg member) same.symm
        seated := completes.seated
        not_early := completes.allowed
        connected := completes.connected }
  · intro admissible
    have fresh : source ∉ legs.map (·.destination) :=
      (List.nodup_cons.mp admissible.no_return).1
    exact
      ⟨admissible.length_le,
        { onward_ne_nil := admissible.legs_ne_nil
          offered := fun leg member => (offered leg).mpr (admissible.offered leg member)
          leaves := admissible.leaves
          allowed := admissible.not_early
          connected := admissible.connected
          reaches := admissible.reaches
          seated := admissible.seated
          unvisited := by
            intro leg member
            refine (unvisited _).mpr fun same => fresh ?_
            exact same ▸ List.mem_map_of_mem member
          distinct := (List.nodup_cons.mp admissible.no_return).2 }⟩

theorem isPlaced_of_build {flights : List Flight} {version : Nat} {graph : Graph}
    (built : Graph.build flights version = .ok graph) (source destination : String)
    (constraints : Constraints) : IsPlaced ⟨graph, source, destination, constraints⟩ := by
  intro location flight member
  exact ((Graph.mem_outbound_of_build built location flight).mp member).2

end Query

/-- An admissible row leads from one place of the graph to another, so the
search does not give up before it begins. -/
theorem Admissible.endpoints {flights : List Flight} {version : Nat} {graph : Graph}
    (built : Graph.build flights version = .ok graph) {source destination : String}
    {constraints : Constraints} {legs : List Flight}
    (admissible : Admissible flights source destination constraints legs) :
    source ≠ destination ∧ graph.contains source = true ∧
      graph.contains destination = true := by
  have first := admissible.leaves (legs.head admissible.legs_ne_nil)
    (List.head?_eq_some_head admissible.legs_ne_nil)
  have last := admissible.reaches (legs.getLast admissible.legs_ne_nil)
    (List.getLast?_eq_some_getLast admissible.legs_ne_nil)
  have firstOffered := admissible.offered _ (List.head_mem admissible.legs_ne_nil)
  have lastMember := List.getLast_mem admissible.legs_ne_nil
  have lastOffered := admissible.offered _ lastMember
  refine ⟨?_, ?_, ?_⟩
  · intro same
    have fresh : source ∉ legs.map (·.destination) :=
      (List.nodup_cons.mp admissible.no_return).1
    exact fresh (same.trans last.symm ▸ List.mem_map_of_mem lastMember)
  · exact first ▸ (Graph.contains_of_build built firstOffered.1 firstOffered.2).1
  · exact last ▸ (Graph.contains_of_build built lastOffered.1 lastOffered.2).2

/-- A search gives up before it begins only where it would not find anything. -/
theorem Query.found_eq_journeys {flights : List Flight} {version : Nat} {graph : Graph}
    (built : Graph.build flights version = .ok graph) (source destination : String)
    (constraints : Constraints) :
    Query.found ⟨graph, source, destination, constraints⟩ =
      Query.journeys ⟨graph, source, destination, constraints⟩ constraints.maxHops [] source := by
  unfold Query.found
  split
  · rename_i hopeless
    symm
    apply List.eq_nil_iff_forall_not_mem.mpr
    intro itinerary member
    rcases (mem_journeys_iff (isPlaced_of_build built _ _ _) _ _ _ _).mp member with
      ⟨legs, _, completes⟩
    have admissible := (completes_iff_admissible built _ _ _ legs).mp completes
    rcases admissible.endpoints built with ⟨different, sourceKnown, destinationKnown⟩
    rcases hopeless with same | unknown | unknown
    · exact different same
    · exact unknown sourceKnown
    · exact unknown destinationKnown
  · rfl

/-- What is found before the ranking is the admissible rows. -/
theorem Query.mem_found_iff {flights : List Flight} {version : Nat} {graph : Graph}
    (built : Graph.build flights version = .ok graph) (source destination : String)
    (constraints : Constraints) (itinerary : Itinerary) :
    itinerary ∈ Query.found ⟨graph, source, destination, constraints⟩ ↔
      Admissible flights source destination constraints itinerary.legs := by
  rw [found_eq_journeys built, mem_journeys_iff (isPlaced_of_build built _ _ _),
    ← completes_iff_admissible built]
  constructor
  · rintro ⟨onward, legs, completes⟩
    rw [List.reverse_nil, List.nil_append] at legs
    exact legs ▸ completes
  · intro completes
    exact ⟨itinerary.legs, rfl, completes⟩

theorem Query.found_nodup {flights : List Flight} {version : Nat} {graph : Graph}
    (built : Graph.build flights version = .ok graph) (source destination : String)
    (constraints : Constraints) :
    (Query.found ⟨graph, source, destination, constraints⟩).Nodup := by
  rw [found_eq_journeys built]
  exact journeys_nodup (isPlaced_of_build built source destination constraints)
    (Graph.outbound_nodup_of_build built) _ _ _

theorem Itinerary.legs_injective : Function.Injective Itinerary.legs := by
  intro first second same
  cases first
  cases second
  exact (Itinerary.mk.injEq ..).mpr same

private theorem le_foldl_seats_iff (least : Int) (legs : List Flight) (seats : Int) :
    least ≤ legs.foldl (fun fewest leg => min fewest leg.availableSeats) seats ↔
      least ≤ seats ∧ ∀ leg ∈ legs, least ≤ leg.availableSeats := by
  induction legs generalizing seats with
  | nil => simp only [List.foldl_nil, List.not_mem_nil, false_implies, implies_true, and_true]
  | cons leg rest inductionHypothesis =>
    rw [List.foldl_cons, inductionHypothesis, List.forall_mem_cons, Int.le_min, and_assoc]

theorem Itinerary.le_availableSeats_iff (itinerary : Itinerary) (least : Int) :
    least ≤ itinerary.availableSeats ↔ ∀ leg ∈ itinerary.legs, least ≤ leg.availableSeats := by
  rw [availableSeats, le_foldl_seats_iff]
  exact and_iff_right_of_imp fun seated => seated _ (List.head_mem itinerary.legs_ne_nil)

/-- Without a limit on results, a search under accepted constraints succeeds and
answers with the admissible rows of flights, each of them once.  What else an
itinerary says of itself agrees with what was asked for, and there is nothing to
find where the endpoints are the same or unknown. -/
theorem Graph.search_finds_exactly_admissible {flights : List Flight} {version : Nat}
    {graph : Graph} (built : Graph.build flights version = .ok graph)
    {source destination : String} (sourceNamed : source ≠ "") (destinationNamed : destination ≠ "")
    {constraints : Constraints} (accepted : constraints.violation? legsCeiling = none)
    (unlimited : constraints.maxResults = none) :
    ∃ itineraries, graph.search source destination constraints = .ok itineraries ∧
      (∀ legs, (∃ itinerary ∈ itineraries, itinerary.legs = legs) ↔
        Admissible flights source destination constraints legs) ∧
      (itineraries.map (·.legs)).Nodup ∧
      (∀ itinerary ∈ itineraries,
        itinerary.source = source ∧ itinerary.destination = destination ∧
          itinerary.hops < constraints.maxHops ∧
          constraints.minSeats ≤ itinerary.availableSeats) ∧
      (source = destination ∨ graph.contains source = false ∨
        graph.contains destination = false → itineraries = []) := by
  let query : Query := ⟨graph, source, destination, constraints⟩
  have answer : graph.search source destination constraints =
      .ok (Itinerary.ranked query.found) := by
    unfold search Query.best
    simp only [accepted, unlimited, sourceNamed, destinationNamed, or_self, if_false, query]
  have ranked : (Itinerary.ranked query.found).Perm query.found := List.mergeSort_perm _ _
  have found : ∀ itinerary, itinerary ∈ Itinerary.ranked query.found ↔
      Admissible flights source destination constraints itinerary.legs := by
    intro itinerary
    rw [ranked.mem_iff, Query.mem_found_iff built]
  refine ⟨_, answer, ?_, ?_, ?_, ?_⟩
  · intro legs
    constructor
    · rintro ⟨itinerary, member, rfl⟩
      exact (found itinerary).mp member
    · intro admissible
      exact ⟨⟨legs, admissible.legs_ne_nil⟩, (found _).mpr admissible, rfl⟩
  · apply List.Nodup.map Itinerary.legs_injective
    exact ranked.nodup_iff.mpr (Query.found_nodup built source destination constraints)
  · intro itinerary member
    have admissible := (found itinerary).mp member
    have legs := List.length_pos_iff.mpr itinerary.legs_ne_nil
    have short := admissible.length_le
    refine ⟨?_, ?_, ?_, ?_⟩
    · exact admissible.leaves _ (List.head?_eq_some_head itinerary.legs_ne_nil)
    · exact admissible.reaches _ (List.getLast?_eq_some_getLast itinerary.legs_ne_nil)
    · unfold Itinerary.hops
      omega
    · exact (itinerary.le_availableSeats_iff _).mpr admissible.seated
  · intro hopeless
    apply List.eq_nil_iff_forall_not_mem.mpr
    intro itinerary member
    rcases ((found itinerary).mp member).endpoints built with
      ⟨different, sourceKnown, destinationKnown⟩
    rcases hopeless with same | unknown | unknown
    · exact different same
    · exact absurd (sourceKnown.symm.trans unknown) nofun
    · exact absurd (destinationKnown.symm.trans unknown) nofun

private def onLastDay (second : Nat) (inside : second < Time.secondsPerDay) : Instant :=
  ⟨Time.lastDay, second, 0, by decide, Int.le_refl _, inside, by decide,
    fun leap => absurd leap (by decide)⟩

/-- Two flights in the last hour of all time. -/
private def lastFlights : List Flight :=
  [⟨"F1", "A", "B", onLastDay 82800 (by decide), onLastDay 84000 (by decide), ⟨0⟩, 1⟩,
    ⟨"F2", "B", "C", onLastDay 85800 (by decide), onLastDay 86399 (by decide), ⟨0⟩, 1⟩]

/-- The second flight is caught, although the longest connection leads beyond
all time. -/
theorem Graph.search_finds_last_connection :
    Graph.build lastFlights 1 = .ok (Graph.ofBoardable 1 0 lastFlights) ∧
      "A" ≠ "" ∧ "C" ≠ "" ∧ Constraints.violation? {} legsCeiling = none ∧
      ({} : Constraints).maxResults = none ∧
      ∃ itineraries, (Graph.ofBoardable 1 0 lastFlights).search "A" "C" {} = .ok itineraries ∧
        ∃ itinerary ∈ itineraries, itinerary.legs = lastFlights := by
  have built : Graph.build lastFlights 1 = .ok (Graph.ofBoardable 1 0 lastFlights) :=
    Graph.build_of_nodup 1 (by decide)
  have connected : Constraints.Connects {} lastFlights[0] lastFlights[1] :=
    { joined := rfl
      allowed :=
        { not_short := ⟨onLastDay 85800 (by decide), by decide, by decide⟩
          not_long := by
            intro latest found
            exact absurd (found.symm.trans (by decide : _ = none)) nofun } }
  have admissible : Admissible lastFlights "A" "C" {} lastFlights :=
    { legs_ne_nil := by decide
      length_le := by decide
      offered := by decide
      leaves := by decide
      reaches := by decide
      no_return := by decide
      seated := by decide
      not_early := by intro _ _ _ impossible; cases impossible
      connected := List.isChain_cons_cons.mpr ⟨connected, List.isChain_singleton _⟩ }
  have answer := Graph.search_finds_exactly_admissible built (by decide : "A" ≠ "")
    (by decide : "C" ≠ "") (by decide : Constraints.violation? {} legsCeiling = none) rfl
  rcases answer with ⟨itineraries, answer, found, _⟩
  exact ⟨built, by decide, by decide, by decide, rfl, itineraries, answer,
    (found lastFlights).mpr admissible⟩

end Itineraries
