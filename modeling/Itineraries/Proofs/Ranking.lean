import Itineraries.Proofs.Enumeration
import Itineraries.Proofs.Reordering
import Itineraries.Proofs.Sorting

namespace Itineraries

/-!
# The order of an answer

A search first finds all itineraries, then ranks them, and cuts the list to its length
at the very end.  Itineraries that rank level stay in the order in which they were
found.  That order can be told from the itineraries themselves: where two of them part,
the one that goes on with the earlier departure was found first, and of departures at
the same time the one with the smaller id.

So of any two itineraries it is settled which one precedes the other in an answer that
has both, whatever else it has, and whatever graph and constraints it comes from.
-/

/-! ## The order in which itineraries are found -/

/-- Whether a flight stands before another one in a timetable that lists both. -/
def Flight.LeavesBefore (first second : Flight) : Prop :=
  first.departure < second.departure ∨
    first.departure = second.departure ∧ first.id < second.id

theorem Flight.leavesBefore_of_leavesFirst {first second : Flight}
    (goes : first.leavesFirst second = true) (apart : first.id ≠ second.id) :
    first.LeavesBefore second := by
  simp only [leavesFirst, Bool.or_eq_true, Bool.and_eq_true, decide_eq_true_eq] at goes
  rcases goes with earlier | ⟨same, ordered⟩
  · exact Or.inl earlier
  · refine Or.inr ⟨same, String.not_le.mp fun back => apart ?_⟩
    exact String.le_antisymm ordered back

instance : Std.Asymm Flight.LeavesBefore where
  asymm first second := by
    rintro (early | ⟨same, early⟩) (late | ⟨otherSame, late⟩)
    · exact Int.lt_asymm early late
    · exact Int.lt_irrefl _ (otherSame ▸ early)
    · exact Int.lt_irrefl _ (same ▸ late)
    · exact String.lt_asymm early late

theorem Timetable.pairwise_leavesBefore {flights : List Flight}
    (distinct : (flights.map (·.id)).Nodup) :
    (ofList flights).toList.Pairwise Flight.LeavesBefore := by
  have sorted := List.pairwise_mergeSort Flight.leavesFirst_trans Flight.leavesFirst_total flights
  have apart : (ofList flights).toList.Pairwise fun first second => first.id ≠ second.id := by
    have reordered := (List.mergeSort_perm flights Flight.leavesFirst).map (·.id)
    exact List.pairwise_map.mp (reordered.nodup_iff.mpr distinct)
  exact sorted.imp₂ (fun _ _ => Flight.leavesBefore_of_leavesFirst) apart

theorem Graph.outbound_pairwise_of_build {flights : List Flight} {version : Nat} {graph : Graph}
    (built : build flights version = .ok graph) (location : String) :
    (graph.outbound location).toList.Pairwise Flight.LeavesBefore := by
  rcases eq_ofBoardable_of_build built with ⟨distinct, rfl⟩
  rw [outbound_ofBoardable]
  have kept := (List.filter_sublist (p := fun flight => decide (flight.source = location))).trans
    (List.filter_sublist (p := fun flight => decide flight.IsBoardable) (l := flights))
  exact Timetable.pairwise_leavesBefore (distinct.sublist (kept.map _))

/-- Whether an itinerary is found before another one: where they part, it goes on with
the departure that stands before the other. -/
def Itinerary.FoundBefore (first second : Itinerary) : Prop :=
  List.Lex Flight.LeavesBefore first.legs second.legs

instance : Std.Asymm Itinerary.FoundBefore where
  asymm first second := (List.Lex.asymm Flight.LeavesBefore).asymm first.legs second.legs

theorem Itinerary.FoundBefore.ne {first second : Itinerary}
    (before : first.FoundBefore second) : first ≠ second := by
  rintro rfl
  exact Std.Asymm.asymm _ _ before before

namespace Query

theorem found_pairwise_foundBefore {flights : List Flight} {version : Nat} {graph : Graph}
    (built : Graph.build flights version = .ok graph) (source destination : String)
    (constraints : Constraints) :
    (found ⟨graph, source, destination, constraints⟩).Pairwise Itinerary.FoundBefore := by
  rw [found_eq_journeys built]
  apply journeys_pairwise (isPlaced_of_build built source destination constraints)
    (Graph.outbound_pairwise_of_build built)
  intro shared onward otherOnward flight other first second earlier legs otherLegs
  unfold Itinerary.FoundBefore
  rw [legs, otherLegs]
  exact List.Lex.append_left _ (List.Lex.rel earlier) _

end Query

/-! ## The order after ranking -/

namespace Itinerary

/-- Whether an itinerary stands before another one in an answer that has both. -/
def Precedes (first second : Itinerary) : Prop :=
  compare first.rankKey second.rankKey = .lt ∨
    compare first.rankKey second.rankKey = .eq ∧ first.FoundBefore second

instance : Std.Asymm Precedes where
  asymm first second := by
    have swapped : compare second.rankKey first.rankKey =
      (compare first.rankKey second.rankKey).swap := Std.OrientedCmp.eq_swap
    rintro (better | ⟨level, before⟩) (worse | ⟨otherLevel, behind⟩)
    · rw [better, worse] at swapped
      cases swapped
    · rw [better, otherLevel] at swapped
      cases swapped
    · rw [level, worse] at swapped
      cases swapped
    · exact Std.Asymm.asymm _ _ before behind

def isLevelWith (first second : Itinerary) : Bool :=
  compare first.rankKey second.rankKey = .eq

theorem mem_ranked {itineraries : List Itinerary} {itinerary : Itinerary} :
    itinerary ∈ ranked itineraries ↔ itinerary ∈ itineraries :=
  (List.mergeSort_perm itineraries _).mem_iff

theorem ranked_pairwise_precedes {itineraries : List Itinerary}
    (found : itineraries.Pairwise FoundBefore) : (ranked itineraries).Pairwise Precedes := by
  have transitive : ∀ first second third : Itinerary,
      first.rankKey.leads second.rankKey = true → second.rankKey.leads third.rankKey = true →
        first.rankKey.leads third.rankKey = true :=
    fun first second third => RankKey.leads_trans first.rankKey second.rankKey third.rankKey
  have total : ∀ first second : Itinerary,
      (first.rankKey.leads second.rankKey || second.rankKey.leads first.rankKey) = true :=
    fun first second => RankKey.leads_total first.rankKey second.rankKey
  have sorted := List.pairwise_mergeSort transitive total itineraries
  have kept := pairwise_mergeSort_of_pairwise transitive total found
  refine sorted.imp₂ ?_ kept
  intro first second leads before
  rcases Ordering.isLE_iff_eq_lt_or_eq_eq.mp leads with better | level
  · exact Or.inl better
  · refine Or.inr ⟨level, before ?_⟩
    exact Ordering.isLE_iff_eq_lt_or_eq_eq.mpr (Or.inr (Std.OrientedCmp.eq_comm.mp level))

/-- Those that rank level with some itinerary keep their order. -/
theorem filter_isLevelWith_ranked (itineraries : List Itinerary) (itinerary : Itinerary) :
    (ranked itineraries).filter (·.isLevelWith itinerary) =
      itineraries.filter (·.isLevelWith itinerary) := by
  rw [filter_ranked]
  apply List.mergeSort_of_pairwise
  apply List.pairwise_of_forall_mem_list
  intro first member second otherMember
  have level := of_decide_eq_true (List.mem_filter.mp member).2
  have otherLevel := of_decide_eq_true (List.mem_filter.mp otherMember).2
  have same := Std.TransCmp.eq_trans level (Std.OrientedCmp.eq_comm.mp otherLevel)
  exact Ordering.isLE_iff_eq_lt_or_eq_eq.mpr (Or.inr same)

end Itinerary

/-! ## Answers -/

theorem Query.best_sublist (query : Query) :
    query.best.Sublist (Itinerary.ranked query.found) := by
  unfold best
  split
  · exact List.take_sublist _ _
  · exact List.Sublist.refl _

namespace Graph

section

variable {flights : List Flight} {version : Nat} {graph : Graph}
  (built : build flights version = .ok graph) {source destination : String}
  {constraints : Constraints} {itineraries : List Itinerary}
  (answer : graph.search source destination constraints = .ok itineraries)

include answer

/-- Whoever gets an answer has asked for it under accepted constraints. -/
theorem valid_of_search : constraints.Valid legsCeiling := by
  rw [← Constraints.violation?_eq_none_iff]
  unfold search at answer
  split at answer
  · cases answer
  · assumption

theorem eq_best_of_search :
    itineraries = Query.best ⟨graph, source, destination, constraints⟩ := by
  have accepted := (constraints.violation?_eq_none_iff legsCeiling).mpr (valid_of_search answer)
  rw [search_of_accepted accepted] at answer
  split at answer
  · cases answer
  · exact (Except.ok.inj answer).symm

include built

theorem admissible_of_search {itinerary : Itinerary} (member : itinerary ∈ itineraries) :
    Admissible flights source destination constraints itinerary.legs := by
  rw [eq_best_of_search answer] at member
  have found := Itinerary.mem_ranked.mp ((Query.best_sublist _).subset member)
  exact (Query.mem_found_iff built source destination constraints itinerary).mp found

theorem mem_iff_of_search (unlimited : constraints.maxResults = none) (itinerary : Itinerary) :
    itinerary ∈ itineraries ↔
      Admissible flights source destination constraints itinerary.legs := by
  rw [eq_best_of_search answer, Query.best, unlimited, ← Query.mem_found_iff built]
  exact Itinerary.mem_ranked

theorem precedes_of_search : itineraries.Pairwise Itinerary.Precedes := by
  rw [eq_best_of_search answer]
  have found := Query.found_pairwise_foundBefore built source destination constraints
  exact (Itinerary.ranked_pairwise_precedes found).sublist (Query.best_sublist _)

end

theorem exists_search {constraints : Constraints}
    (accepted : constraints.violation? legsCeiling = none) (graph : Graph)
    {source destination : String} (named : ¬(source = "" ∨ destination = "")) :
    ∃ itineraries, graph.search source destination constraints = .ok itineraries := by
  rw [search_of_accepted accepted, if_neg named]
  exact ⟨_, rfl⟩

end Graph

/-! ## Lists that are cut -/

/-- Any number of results but zero is as good as any other. -/
theorem Constraints.violation?_withResults {constraints : Constraints} {hopsLimit : Nat}
    (accepted : constraints.violation? hopsLimit = none) {results : Option Nat}
    (positive : results ≠ some 0) :
    { constraints with maxResults := results }.violation? hopsLimit = none := by
  have valid := (constraints.violation?_eq_none_iff hopsLimit).mp accepted
  exact (violation?_eq_none_iff _ hopsLimit).mpr
    { hops_pos := valid.hops_pos
      hops_le_limit := valid.hops_le_limit
      hops_le_ceiling := valid.hops_le_ceiling
      connection_nonneg := valid.connection_nonneg
      connections_ordered := valid.connections_ordered
      connection_le_ceiling := valid.connection_le_ceiling
      seats_pos := valid.seats_pos
      results_pos := positive }

namespace Query

section

variable (graph : Graph) (source destination : String) (constraints : Constraints)
  (results : Option Nat)

/-- The walk does not know how many results are asked for. -/
theorem journeys_withResults (further : Nat) (trail : List Flight) (location : String) :
    journeys ⟨graph, source, destination, { constraints with maxResults := results }⟩ further
        trail location =
      journeys ⟨graph, source, destination, constraints⟩ further trail location := by
  induction further generalizing trail location with
  | zero => rfl
  | succ further inductionHypothesis =>
    rw [journeys_succ, journeys_succ]
    apply congrArg₂ List.flatMap _ rfl
    funext flight
    unfold journeysBy
    rw [inductionHypothesis]
    rfl

theorem found_withResults :
    found ⟨graph, source, destination, { constraints with maxResults := results }⟩ =
      found ⟨graph, source, destination, constraints⟩ := by
  unfold found
  rw [journeys_withResults]

end

end Query

namespace Graph

section

variable {constraints : Constraints} (accepted : constraints.violation? legsCeiling = none)
  (graph : Graph) {source destination : String}

include accepted

theorem search_of_unnamed (unnamed : source = "" ∨ destination = "") {results : Option Nat}
    (positive : results ≠ some 0) :
    graph.search source destination { constraints with maxResults := results } =
      .error (.violation .emptyEndpoint) := by
  rw [search_of_accepted (Constraints.violation?_withResults accepted positive), if_pos unnamed]

theorem search_unlimited (named : ¬(source = "" ∨ destination = "")) :
    graph.search source destination { constraints with maxResults := none } =
      .ok (Itinerary.ranked (Query.found ⟨graph, source, destination, constraints⟩)) := by
  rw [search_of_accepted (Constraints.violation?_withResults accepted (by decide)),
    if_neg named, Query.best, Query.found_withResults]

theorem search_limited (named : ¬(source = "" ∨ destination = "")) {count : Nat}
    (positive : 0 < count) :
    graph.search source destination { constraints with maxResults := some count } =
      .ok ((Itinerary.ranked (Query.found ⟨graph, source, destination, constraints⟩)).take
        count) := by
  have results : some count ≠ some 0 := fun same => Nat.ne_of_gt positive (Option.some.inj same)
  rw [search_of_accepted (Constraints.violation?_withResults accepted results), if_neg named,
    Query.best, Query.found_withResults]

end

/-- Without a limit on results, an answer holds what the walk has found, sorted by rank;
those that rank level stand as they were found, and where two of them part the one with
the earlier departure was found first.  With a limit, the answer is the front of this list,
so that nothing which is left out ranks before anything that is not. -/
theorem answer_ranked_then_cut {flights : List Flight} {version : Nat} {graph : Graph}
    (built : build flights version = .ok graph) (source destination : String)
    {constraints : Constraints} (accepted : constraints.violation? legsCeiling = none) :
    ((source = "" ∨ destination = "") ∧ ∀ results, results ≠ some 0 →
        graph.search source destination { constraints with maxResults := results } =
          .error (.violation .emptyEndpoint)) ∨
      ∃ found ranking, found = Query.found ⟨graph, source, destination, constraints⟩ ∧
        found.Pairwise Itinerary.FoundBefore ∧
        graph.search source destination { constraints with maxResults := none } = .ok ranking ∧
        ranking.Perm found ∧
        ranking.Pairwise (fun first second => compare first.rankKey second.rankKey ≠ .gt) ∧
        (∀ itinerary, ranking.filter (·.isLevelWith itinerary) =
          found.filter (·.isLevelWith itinerary)) ∧
        ∀ count, 0 < count →
          graph.search source destination { constraints with maxResults := some count } =
              .ok (ranking.take count) ∧
            ∀ omitted ∈ ranking, omitted ∉ ranking.take count →
              ∀ returned ∈ ranking.take count,
                compare omitted.rankKey returned.rankKey ≠ .lt := by
  by_cases unnamed : source = "" ∨ destination = ""
  · exact Or.inl ⟨unnamed, fun _ => search_of_unnamed accepted graph unnamed⟩
  · let found := Query.found ⟨graph, source, destination, constraints⟩
    have foundInOrder : found.Pairwise Itinerary.FoundBefore :=
      Query.found_pairwise_foundBefore built source destination constraints
    have sorted : (Itinerary.ranked found).Pairwise fun first second =>
        compare first.rankKey second.rankKey ≠ .gt := by
      apply (Itinerary.ranked_pairwise_precedes foundInOrder).imp
      rintro first second (better | ⟨level, -⟩)
      · rw [better]
        decide
      · rw [level]
        decide
    refine Or.inr ⟨found, Itinerary.ranked found, rfl, foundInOrder,
      search_unlimited accepted graph unnamed, List.mergeSort_perm _ _, sorted,
      Itinerary.filter_isLevelWith_ranked found, ?_⟩
    intro count positive
    refine ⟨search_limited accepted graph unnamed positive, ?_⟩
    intro omitted member left returned kept
    have dropped : omitted ∈ (Itinerary.ranked found).drop count := by
      rw [← List.take_append_drop count (Itinerary.ranked found), List.mem_append] at member
      exact member.resolve_left left
    have ordered := sorted.rel_of_mem_take_of_mem_drop kept dropped
    exact fun better => ordered (Std.OrientedCmp.gt_iff_lt.mpr better)

theorem admissible_levelWays :
    Admissible levelWays "P" "R" {} (levelWays.take 2) ∧
      Admissible levelWays "P" "R" {} (levelWays.drop 2) := by
  decide

theorem level_ways_ranked_then_cut :
    build levelWays 1 = .ok (ofBoardable 1 0 levelWays) ∧
      ({} : Constraints).violation? legsCeiling = none ∧
      ∃ ranking, (ofBoardable 1 0 levelWays).search "P" "R" {} = .ok ranking ∧
        ⟨levelWays.take 2, by decide⟩ ∈ ranking ∧ ⟨levelWays.drop 2, by decide⟩ ∈ ranking ∧
        (ofBoardable 1 0 levelWays).search "P" "R" { maxResults := some 1 } =
          .ok (ranking.take 1) := by
  have accepted : ({} : Constraints).violation? legsCeiling = none := by decide
  refine ⟨levelWays_build, accepted, ?_⟩
  rcases answer_ranked_then_cut levelWays_build "P" "R" accepted with
    ⟨unnamed, -⟩ | ⟨found, ranking, rfl, -, answer, same, -, -, cut⟩
  · exact absurd unnamed (by decide)
  · have walked := Query.mem_found_iff levelWays_build "P" "R" {}
    exact ⟨ranking, answer, same.mem_iff.mpr ((walked _).mpr admissible_levelWays.1),
      same.mem_iff.mpr ((walked _).mpr admissible_levelWays.2), (cut 1 Nat.one_pos).1⟩

end Graph
end Itineraries
