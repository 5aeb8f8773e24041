import Itineraries.Proofs.Minutes
import Itineraries.Proofs.Ranking
import Mathlib.Data.List.Perm.Subperm

namespace Itineraries

/-!
# Constraints that are relaxed

Relaxed constraints let the walk go deeper, through wider windows, and into flights with
fewer seats.  Whatever was found before is found again, since it still keeps to the
constraints.  It may be found much later than before, with other itineraries in between,
but which of two itineraries precedes the other does not depend on the constraints.  The
former answer is thus left when the new itineraries are struck out of the latter.
-/

open Time (Instant)

/-- Whether constraints allow at least what others allow, one by one. -/
structure Constraints.Relaxes (relaxed strict : Constraints) : Prop where
  hops : strict.maxHops ≤ relaxed.maxHops
  shortest : relaxed.minConnection ≤ strict.minConnection
  longest : strict.maxConnection ≤ relaxed.maxConnection
  seats : relaxed.minSeats ≤ strict.minSeats
  departure : ∀ earliest ∈ relaxed.departureNotBefore,
    ∃ later ∈ strict.departureNotBefore, earliest ≤ later

section

variable {relaxed strict : Constraints} (relaxes : relaxed.Relaxes strict)

include relaxes

/-- The window of a connection grows at both ends, even where an end of it lies beyond all
time. -/
theorem Constraints.Relaxes.allows {arrival departure : Instant}
    (allowed : strict.Allows arrival departure) : relaxed.Allows arrival departure where
  not_short := by
    rcases allowed.not_short with ⟨earliest, found, passed⟩
    rcases Instant.exists_addMinutes?_le (Int.toNat_le_toNat relaxes.shortest) found with
      ⟨sooner, near, ordered⟩
    exact ⟨sooner, near, Int.le_trans ordered passed⟩
  not_long := by
    intro latest found
    rcases Instant.exists_addMinutes?_le (Int.toNat_le_toNat relaxes.longest) found with
      ⟨sooner, near, ordered⟩
    exact Int.le_trans (allowed.not_long sooner near) ordered

theorem Admissible.relax {flights : List Flight} {source destination : String}
    {legs : List Flight} (admissible : Admissible flights source destination strict legs) :
    Admissible flights source destination relaxed legs :=
  { admissible with
    length_le := Nat.le_trans admissible.length_le relaxes.hops
    seated := fun leg member => Int.le_trans relaxes.seats (admissible.seated leg member)
    not_early := by
      intro first isFirst earliest bound
      rcases relaxes.departure earliest bound with ⟨later, strictBound, ordered⟩
      exact Int.le_trans ordered (admissible.not_early first isFirst later strictBound)
    connected := admissible.connected.imp fun _ _ connects =>
      { connects with allowed := relaxes.allows connects.allowed } }

end

/-- Itineraries of one answer that are in another one too stand there in the same
order. -/
theorem Itinerary.sublist_of_precedes {few many : List Itinerary}
    (fewOrdered : few.Pairwise Precedes) (manyOrdered : many.Pairwise Precedes)
    (known : few ⊆ many) : few.Sublist many := by
  have distinct : few.Nodup := by
    apply fewOrdered.imp
    rintro itinerary _ precedes rfl
    exact Std.Asymm.asymm _ _ precedes precedes
  exact List.sublist_of_subperm_of_pairwise (List.subperm_of_subset distinct known) fewOrdered
    manyOrdered

namespace Graph

/-- An answer under relaxed constraints without a limit on results has everything that an
answer under the stricter ones has, and has it in the same order.  A search without a name is
refused under either. -/
theorem relaxed_search_keeps_itineraries {flights : List Flight} {version : Nat} {graph : Graph}
    (built : build flights version = .ok graph) (source destination : String)
    {strict relaxed : Constraints} (accepted : strict.violation? legsCeiling = none)
    (relaxedAccepted : relaxed.violation? legsCeiling = none) (relaxes : relaxed.Relaxes strict)
    (unlimited : relaxed.maxResults = none) :
    ((source = "" ∨ destination = "") ∧
        graph.search source destination strict = .error (.violation .emptyEndpoint) ∧
        graph.search source destination relaxed = .error (.violation .emptyEndpoint)) ∨
      ∃ few many, graph.search source destination strict = .ok few ∧
        graph.search source destination relaxed = .ok many ∧ few.Sublist many := by
  have answer := search_of_accepted accepted graph source destination
  have relaxedAnswer := search_of_accepted relaxedAccepted graph source destination
  by_cases unnamed : source = "" ∨ destination = ""
  · rw [if_pos unnamed] at answer relaxedAnswer
    exact Or.inl ⟨unnamed, answer, relaxedAnswer⟩
  · rw [if_neg unnamed] at answer relaxedAnswer
    refine Or.inr ⟨_, _, answer, relaxedAnswer, ?_⟩
    apply Itinerary.sublist_of_precedes (precedes_of_search built answer)
      (precedes_of_search built relaxedAnswer)
    intro itinerary member
    have admissible := (admissible_of_search built answer member).relax relaxes
    exact (mem_iff_of_search built relaxedAnswer unlimited itinerary).mpr admissible

/-- Constraints that allow a single time of departure, and a single time for a
connection. -/
def punctual : Constraints :=
  { minConnection := 60, maxConnection := 60, departureNotBefore := some (atHour 0) }

/-- Constraints that allow whatever constraints can. -/
def lenient : Constraints :=
  { maxHops := 6, minConnection := 0, maxConnection := 10080 }

theorem level_ways_under_lenient_constraints :
    build levelWays 1 = .ok (ofBoardable 1 0 levelWays) ∧
      punctual.violation? legsCeiling = none ∧ lenient.violation? legsCeiling = none ∧
      lenient.Relaxes punctual ∧ lenient.maxResults = none ∧
      ∃ few many, (ofBoardable 1 0 levelWays).search "P" "R" punctual = .ok few ∧
        (ofBoardable 1 0 levelWays).search "P" "R" lenient = .ok many ∧
        ⟨levelWays.take 2, by decide⟩ ∈ few ∧ few.Sublist many := by
  have accepted : punctual.violation? legsCeiling = none := by decide
  have lenientAccepted : lenient.violation? legsCeiling = none := by decide
  have relaxes : lenient.Relaxes punctual :=
    { hops := by decide
      shortest := by decide
      longest := by decide
      seats := by decide
      departure := by
        intro earliest impossible
        cases impossible }
  refine ⟨levelWays_build, accepted, lenientAccepted, relaxes, rfl, ?_⟩
  rcases relaxed_search_keeps_itineraries levelWays_build "P" "R" accepted lenientAccepted relaxes
      rfl with ⟨unnamed, -⟩ | ⟨few, many, answer, lenientAnswer, kept⟩
  · exact absurd unnamed (by decide)
  · refine ⟨few, many, answer, lenientAnswer, ?_, kept⟩
    exact (mem_iff_of_search levelWays_build answer rfl _).mpr (by decide)

end Graph
end Itineraries
