import Itineraries.Proofs.Ranking

namespace Itineraries

/-!
# What the id of an itinerary tells

The id of an itinerary is made of the ids of its legs, joined by a mark.  Flights of one
inventory have different ids, so the legs can be told from the ids of the legs.  These
can be told from the id of the itinerary only if the mark occurs in none of them.  Then
different itineraries never rank level, and every answer is strictly sorted.

Nothing keeps the mark out of the ids of flights.  Where it occurs, the same text can be
joined from different parts.
-/

/-- Texts without the mark come apart at the marks again. -/
theorem Text.splitOn_intercalate {texts : List String} (nonempty : texts ≠ [])
    (plain : ∀ text ∈ texts, '>' ∉ text.toList) :
    (">".intercalate texts).toList.splitOn '>' = texts.map String.toList := by
  rw [String.toList_intercalate]
  apply List.splitOn_intercalate
  · intro characters member
    rcases List.mem_map.mp member with ⟨text, listed, rfl⟩
    exact plain text listed
  · exact mt List.map_eq_nil_iff.mp nonempty

/-- They can thus be told from what they are joined to. -/
theorem Text.eq_of_intercalate_eq {texts others : List String} (nonempty : texts ≠ [])
    (othersNonempty : others ≠ []) (plain : ∀ text ∈ texts, '>' ∉ text.toList)
    (othersPlain : ∀ text ∈ others, '>' ∉ text.toList)
    (same : ">".intercalate texts = ">".intercalate others) : texts = others := by
  have split := Text.splitOn_intercalate nonempty plain
  rw [same, Text.splitOn_intercalate othersNonempty othersPlain] at split
  exact (List.map_injective_iff.mpr fun _ _ => String.toList_inj.mp) split.symm

theorem Flight.legs_eq_of_ids_eq {flights : List Flight} (distinct : (flights.map (·.id)).Nodup)
    {first second : List Flight} (offered : ∀ leg ∈ first, leg ∈ flights)
    (otherOffered : ∀ leg ∈ second, leg ∈ flights)
    (same : first.map (·.id) = second.map (·.id)) : first = second := by
  induction first generalizing second with
  | nil => exact (List.map_eq_nil_iff.mp same.symm).symm
  | cons leg rest inductionHypothesis =>
    cases second with
    | nil => cases same
    | cons other others =>
      rcases List.cons.inj same with ⟨id, ids⟩
      rcases List.forall_mem_cons.mp offered with ⟨listed, restOffered⟩
      rcases List.forall_mem_cons.mp otherOffered with ⟨otherListed, othersOffered⟩
      rw [List.inj_on_of_nodup_map distinct listed otherListed id,
        inductionHypothesis restOffered othersOffered ids]

/-- Whether the mark that joins ids is not in the id of a flight. -/
def Flight.IsUnmarked (flight : Flight) : Prop :=
  '>' ∉ flight.id.toList

instance (flight : Flight) : Decidable flight.IsUnmarked :=
  inferInstanceAs (Decidable (¬_))

theorem Itinerary.legs_eq_of_id_eq {flights : List Flight}
    (distinct : (flights.map (·.id)).Nodup) {first second : Itinerary}
    (offered : ∀ leg ∈ first.legs, leg ∈ flights ∧ leg.IsUnmarked)
    (otherOffered : ∀ leg ∈ second.legs, leg ∈ flights ∧ leg.IsUnmarked)
    (same : first.id = second.id) : first.legs = second.legs := by
  apply Flight.legs_eq_of_ids_eq distinct (fun leg member => (offered leg member).1)
    (fun leg member => (otherOffered leg member).1)
  apply Text.eq_of_intercalate_eq _ _ _ _ same
  · exact mt List.map_eq_nil_iff.mp first.legs_ne_nil
  · exact mt List.map_eq_nil_iff.mp second.legs_ne_nil
  · exact List.forall_mem_map.mpr fun leg member => (offered leg member).2
  · exact List.forall_mem_map.mpr fun leg member => (otherOffered leg member).2

namespace Graph

/-- If no flight that can be boarded has the mark in its id, then different itineraries
of an answer have different ids and never rank level, and the answer is strictly
sorted. -/
theorem unmarked_ids_tell_apart {flights : List Flight} {version : Nat} {graph : Graph}
    (built : build flights version = .ok graph)
    (unmarked : ∀ flight ∈ flights, flight.IsBoardable → flight.IsUnmarked)
    {source destination : String} {constraints : Constraints} {itineraries : List Itinerary}
    (answer : graph.search source destination constraints = .ok itineraries) :
    (∀ first ∈ itineraries, ∀ second ∈ itineraries, first.legs ≠ second.legs →
        first.id ≠ second.id ∧ compare first.rankKey second.rankKey ≠ .eq) ∧
      itineraries.Pairwise fun first second =>
        compare first.rankKey second.rankKey = .lt := by
  have distinct := (eq_ofBoardable_of_build built).1
  have offered : ∀ itinerary ∈ itineraries, ∀ leg ∈ itinerary.legs,
      leg ∈ flights ∧ leg.IsUnmarked := by
    intro itinerary member leg inside
    rcases (admissible_of_search built answer member).offered leg inside with
      ⟨listed, boardable⟩
    exact ⟨listed, unmarked leg listed boardable⟩
  have apart : ∀ first ∈ itineraries, ∀ second ∈ itineraries, first.legs ≠ second.legs →
      first.id ≠ second.id ∧ compare first.rankKey second.rankKey ≠ .eq := by
    intro first member second otherMember different
    have ids : first.id ≠ second.id := fun same =>
      different (Itinerary.legs_eq_of_id_eq distinct (offered first member)
        (offered second otherMember) same)
    exact ⟨ids, fun level => ids (congrArg RankKey.id (Std.LawfulEqOrd.eq_of_compare level))⟩
  refine ⟨apart, ?_⟩
  apply (precedes_of_search built answer).imp_of_mem
  intro first second member otherMember precedes
  rcases precedes with better | ⟨level, before⟩
  · exact better
  · have different := mt (@Itinerary.legs_injective first second) before.ne
    exact absurd level (apart first member second otherMember different).2

/-- Two ways to go whose ids are not the same when joined, since neither has the mark in
the id of a leg. -/
def plainWays : List Flight :=
  [⟨"AB", "P", "Q", atHour 0, atHour 1, ⟨0⟩, 1⟩,
    ⟨"C", "Q", "R", atHour 2, atHour 3, ⟨0⟩, 1⟩,
    ⟨"A", "P", "S", atHour 0, atHour 1, ⟨0⟩, 1⟩,
    ⟨"BC", "S", "R", atHour 2, atHour 3, ⟨0⟩, 1⟩]

theorem plain_ways_told_apart :
    build plainWays 1 = .ok (ofBoardable 1 0 plainWays) ∧
      (∀ flight ∈ plainWays, flight.IsBoardable → flight.IsUnmarked) ∧
      ∃ itineraries, (ofBoardable 1 0 plainWays).search "P" "R" {} = .ok itineraries ∧
        ⟨plainWays.take 2, by decide⟩ ∈ itineraries ∧
        ⟨plainWays.drop 2, by decide⟩ ∈ itineraries ∧
        itineraries.Pairwise fun first second =>
          compare first.rankKey second.rankKey = .lt := by
  have built : build plainWays 1 = .ok (ofBoardable 1 0 plainWays) := build_of_nodup 1 (by decide)
  have unmarked : ∀ flight ∈ plainWays, flight.IsBoardable → flight.IsUnmarked := by decide
  have accepted : ({} : Constraints).violation? legsCeiling = none := by decide
  rcases exists_search accepted (ofBoardable 1 0 plainWays)
    (by decide : ¬("P" = "" ∨ "R" = "")) with ⟨itineraries, answer⟩
  have found := mem_iff_of_search built answer rfl
  exact ⟨built, unmarked, itineraries, answer, (found _).mpr (by decide),
    (found _).mpr (by decide), (unmarked_ids_tell_apart built unmarked answer).2⟩

/-- With the mark in the ids of flights, the id of an itinerary does not tell its legs, and
different itineraries rank level. -/
theorem marked_ids_rank_level :
    build levelWays 1 = .ok (ofBoardable 1 0 levelWays) ∧
      ∃ itineraries, (ofBoardable 1 0 levelWays).search "P" "R" {} = .ok itineraries ∧
        ∃ first ∈ itineraries, ∃ second ∈ itineraries, first.legs ≠ second.legs ∧
          first.id = second.id ∧ compare first.rankKey second.rankKey = .eq := by
  have accepted : ({} : Constraints).violation? legsCeiling = none := by decide
  rcases exists_search accepted (ofBoardable 1 0 levelWays)
    (by decide : ¬("P" = "" ∨ "R" = "")) with ⟨itineraries, answer⟩
  have found := mem_iff_of_search levelWays_build answer rfl
  refine ⟨levelWays_build, itineraries, answer, ⟨levelWays.take 2, by decide⟩,
    (found _).mpr admissible_levelWays.1, ⟨levelWays.drop 2, by decide⟩,
    (found _).mpr admissible_levelWays.2, by decide, rfl, ?_⟩
  exact Std.ReflOrd.compare_self

end Graph
end Itineraries
