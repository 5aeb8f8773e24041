import Itineraries.Itinerary
import Itineraries.Text.Sorted
import Itineraries.Timetable
import Mathlib.Data.List.Sort

namespace Itineraries

/-!
# Sorted lists

Timetables, rankings and lists of texts are all made by one kind of sort: members
that the comparison does not tell apart keep their order.  Two things follow.
Where the comparison tells all members apart, nothing is left of the order in which
they came.  And whether members are left out before or after sorting makes no
difference, even if some of those that stay are not told apart.  Both are about one
thing: a list can be sorted in one way only if it must keep the order of what is not told
apart.
-/

section

variable {α : Type} {leads : α → α → Bool}
  (transitive : ∀ first second third,
    leads first second = true → leads second third = true → leads first third = true)
  (total : ∀ first second, (leads first second || leads second first) = true)

include transitive total

/-- The first member comes behind those that must stand before it, and in front of all
others. -/
theorem mergeSort_cons_eq_filter (first : α) (rest : List α) :
    (first :: rest).mergeSort leads =
        (rest.mergeSort leads).filter (!leads first ·) ++
          first :: (rest.mergeSort leads).filter (leads first ·) ∧
      rest.mergeSort leads =
        (rest.mergeSort leads).filter (!leads first ·) ++
          (rest.mergeSort leads).filter (leads first ·) := by
  rcases List.mergeSort_cons transitive total first rest with
    ⟨before, behind, sorted, sortedRest, beaten⟩
  have ordered := List.pairwise_mergeSort transitive total (first :: rest)
  rw [sorted] at ordered
  have follows : ∀ member ∈ behind, leads first member = true :=
    (List.pairwise_cons.mp (List.pairwise_append.mp ordered).2.1).1
  have front : (before ++ behind).filter (!leads first ·) = before := by
    rw [List.filter_append, List.filter_eq_self.mpr beaten, List.filter_eq_nil_iff.mpr,
      List.append_nil]
    intro member inside
    rw [follows member inside]
    exact Bool.false_ne_true
  have back : (before ++ behind).filter (leads first ·) = behind := by
    rw [List.filter_append, List.filter_eq_self.mpr follows, List.filter_eq_nil_iff.mpr,
      List.nil_append]
    intro member inside
    rw [Bool.not_eq_true]
    exact Bool.not_eq_true' _ ▸ beaten member inside
  rw [sortedRest, front, back]
  exact ⟨sorted, rfl⟩

theorem filter_mergeSort (test : α → Bool) (members : List α) :
    (members.mergeSort leads).filter test = (members.filter test).mergeSort leads := by
  induction members with
  | nil => simp only [List.mergeSort_nil, List.filter_nil]
  | cons first rest inductionHypothesis =>
    have exchange : ∀ side : α → Bool, ((rest.mergeSort leads).filter side).filter test =
        ((rest.filter test).mergeSort leads).filter side := by
      intro side
      rw [List.filter_comm, inductionHypothesis]
    rw [(mergeSort_cons_eq_filter transitive total first rest).1, List.filter_append]
    by_cases passes : test first = true
    · rw [List.filter_cons_of_pos passes, List.filter_cons_of_pos passes, exchange, exchange,
        (mergeSort_cons_eq_filter transitive total first _).1]
    · rw [List.filter_cons_of_neg passes, List.filter_cons_of_neg passes, exchange, exchange,
        ← (mergeSort_cons_eq_filter transitive total first _).2]

/-- Members that the comparison does not tell apart stay in an order in which they
came. -/
theorem pairwise_mergeSort_of_pairwise {before : α → α → Prop} {members : List α}
    (ordered : members.Pairwise before) :
    (members.mergeSort leads).Pairwise fun first second =>
      leads second first = true → before first second := by
  induction ordered with
  | nil =>
    rw [List.mergeSort_nil]
    exact List.Pairwise.nil
  | @cons first rest follows _ inductionHypothesis =>
    rcases List.mergeSort_cons transitive total first rest with
      ⟨front, back, sorted, sortedRest, beaten⟩
    rw [sortedRest, List.pairwise_append] at inductionHypothesis
    rcases inductionHypothesis with ⟨frontOrdered, backOrdered, across⟩
    have known : ∀ member ∈ back, member ∈ rest := by
      intro member inside
      rw [← (List.mergeSort_perm rest leads).mem_iff, sortedRest]
      exact List.mem_append_right front inside
    rw [sorted, List.pairwise_append, List.pairwise_cons]
    refine ⟨frontOrdered, ⟨?_, backOrdered⟩, ?_⟩
    · intro member inside _
      exact follows member (known member inside)
    · intro member inside
      rw [List.forall_mem_cons]
      refine ⟨?_, across member inside⟩
      intro level
      exact absurd (beaten member inside) (by rw [level]; exact Bool.false_ne_true)

/-- Members that are told apart are sorted into the same list, in whatever order they
come. -/
theorem mergeSort_eq_of_perm {members others : List α} (reordered : members.Perm others)
    (antisymmetric : ∀ first ∈ members, ∀ second ∈ members,
      leads first second = true → leads second first = true → first = second) :
    members.mergeSort leads = others.mergeSort leads := by
  have sorts := List.mergeSort_perm members leads
  have otherSorts := List.mergeSort_perm others leads
  refine List.Perm.eq_of_pairwise ?_ (List.pairwise_mergeSort transitive total members)
    (List.pairwise_mergeSort transitive total others)
    (sorts.trans (reordered.trans otherSorts.symm))
  intro first second inside otherInside
  exact antisymmetric first (sorts.mem_iff.mp inside) second
    (reordered.mem_iff.mpr (otherSorts.mem_iff.mp otherInside))

/-- Whether the comparison does not tell two members apart. -/
def areLevel (leads : α → α → Bool) (first second : α) : Bool :=
  leads first second && leads second first

omit transitive in
theorem leads_self (member : α) : leads member member = true :=
  (Bool.or_self _).symm.trans (total member member)

omit transitive in
/-- What comes first in a sorted list leads all that is in it. -/
theorem leads_of_mem_sorted {first : α} {rest : List α}
    (sorted : (first :: rest).Pairwise fun first second => leads first second = true) {member : α}
    (inside : member ∈ first :: rest) : leads first member = true := by
  rcases List.mem_cons.mp inside with rfl | behind
  · exact leads_self total member
  · exact (List.pairwise_cons.mp sorted).1 member behind

omit transitive in
/-- Two sorted lists of the same members are the same if both have those that are level in
the same order. -/
theorem eq_of_sorted_of_level {members others : List α} (reordered : members.Perm others)
    (sorted : members.Pairwise fun first second => leads first second = true)
    (otherSorted : others.Pairwise fun first second => leads first second = true)
    (kept : ∀ member ∈ members,
      members.filter (areLevel leads member) = others.filter (areLevel leads member)) :
    members = others := by
  induction members generalizing others with
  | nil => exact reordered.nil_eq
  | cons first rest inductionHypothesis =>
    cases others with
    | nil => exact reordered.eq_nil
    | cons other otherRest =>
      -- The two heads lead each other, so both are the first that is level with them.
      have leadsOther := leads_of_mem_sorted total sorted
        (reordered.mem_iff.mpr List.mem_cons_self)
      have otherLeads := leads_of_mem_sorted total otherSorted
        (reordered.mem_iff.mp List.mem_cons_self)
      have selfLevel : areLevel leads first first = true := by
        rw [areLevel, leads_self total, Bool.and_self]
      have otherLevel : areLevel leads first other = true := by
        rw [areLevel, leadsOther, otherLeads, Bool.and_self]
      have heads := kept first List.mem_cons_self
      rw [List.filter_cons_of_pos selfLevel, List.filter_cons_of_pos otherLevel] at heads
      cases (List.cons.inj heads).1
      rw [inductionHypothesis reordered.cons_inv sorted.of_cons otherSorted.of_cons]
      intro member inside
      have both := kept member (List.mem_cons_of_mem first inside)
      by_cases level : areLevel leads member first = true
      · rw [List.filter_cons_of_pos level, List.filter_cons_of_pos level] at both
        exact (List.cons.inj both).2
      · rwa [List.filter_cons_of_neg level, List.filter_cons_of_neg level] at both

/-- Sorting keeps the order of those that are level with some member. -/
theorem filter_mergeSort_of_level (members : List α) (member : α) :
    (members.mergeSort leads).filter (areLevel leads member) =
      members.filter (areLevel leads member) := by
  rw [filter_mergeSort transitive total]
  apply List.mergeSort_of_pairwise
  apply List.pairwise_of_forall_mem_list
  intro first inside second otherInside
  have level := (Bool.and_eq_true_iff.mp (List.mem_filter.mp inside).2).2
  have otherLevel := (Bool.and_eq_true_iff.mp (List.mem_filter.mp otherInside).2).1
  exact transitive first member second level otherLevel

/-- There is one way to sort a list such that members which are level keep their order. -/
theorem eq_mergeSort_iff (members arranged : List α) :
    arranged = members.mergeSort leads ↔
      arranged.Perm members ∧
        (arranged.Pairwise fun first second => leads first second = true) ∧
        ∀ member ∈ members,
          arranged.filter (areLevel leads member) = members.filter (areLevel leads member) := by
  have sorts := List.mergeSort_perm members leads
  have sorted := List.pairwise_mergeSort transitive total members
  constructor
  · rintro rfl
    exact ⟨sorts, sorted, fun member _ =>
      filter_mergeSort_of_level transitive total members member⟩
  · rintro ⟨reordered, ordered, kept⟩
    apply eq_of_sorted_of_level total (reordered.trans sorts.symm) ordered sorted
    intro member inside
    rw [filter_mergeSort_of_level transitive total]
    exact kept member (reordered.mem_iff.mp inside)

end

/-! ## Texts -/

namespace Text

theorem mergeSort_eq_of_perm {texts others : List String} (reordered : texts.Perm others) :
    texts.mergeSort = others.mergeSort := by
  apply Itineraries.mergeSort_eq_of_perm _ _ reordered
  · intro first _ second _ early late
    rw [decide_eq_true_eq] at early late
    exact String.le_antisymm early late
  · intro first second third early late
    rw [decide_eq_true_eq] at early late ⊢
    exact String.le_trans early late
  · intro first second
    rw [Bool.or_eq_true, decide_eq_true_eq, decide_eq_true_eq]
    exact String.le_total first second

end Text

/-! ## Timetables -/

theorem Flight.id_eq_of_leavesFirst {first second : Flight}
    (goes : first.leavesFirst second = true) (follows : second.leavesFirst first = true) :
    first.id = second.id := by
  simp only [leavesFirst, Bool.or_eq_true, Bool.and_eq_true, decide_eq_true_eq] at goes follows
  rcases goes with early | ⟨_, early⟩ <;> rcases follows with late | ⟨same, late⟩
  · exact absurd late (Int.lt_asymm early)
  · exact absurd early (same ▸ Int.lt_irrefl _)
  · rename_i same
    exact absurd late (same ▸ Int.lt_irrefl _)
  · exact String.le_antisymm early late

namespace Timetable

/-- A timetable does not show in which order its flights came. -/
theorem ofList_eq_of_perm {flights others : List Flight} (reordered : flights.Perm others)
    (distinct : (flights.map (·.id)).Nodup) : ofList flights = ofList others := by
  have same : flights.mergeSort Flight.leavesFirst = others.mergeSort Flight.leavesFirst := by
    apply mergeSort_eq_of_perm Flight.leavesFirst_trans Flight.leavesFirst_total reordered
    intro first inside second otherInside goes follows
    exact List.inj_on_of_nodup_map distinct inside otherInside
      (Flight.id_eq_of_leavesFirst goes follows)
  simp only [ofList, same]

theorem toList_ofList_filter (flights : List Flight) (test : Flight → Bool) :
    (ofList (flights.filter test)).toList = (ofList flights).toList.filter test :=
  (filter_mergeSort Flight.leavesFirst_trans Flight.leavesFirst_total test flights).symm

end Timetable

/-! ## Rankings -/

theorem RankKey.compare_eq_compareLex :
    RankKey.compare =
      compareLex (compareOn fun key => key.price.rank)
        (compareLex (compareOn fun key => key.minutes)
          (compareLex (compareOn fun key => key.hops) (compareOn fun key => key.id))) :=
  rfl

instance : Std.TransOrd RankKey := by
  change Std.TransCmp RankKey.compare
  rw [RankKey.compare_eq_compareLex]
  infer_instance

theorem RankKey.leads_trans (first second third : RankKey)
    (early : first.leads second = true) (late : second.leads third = true) :
    first.leads third = true :=
  Std.TransCmp.isLE_trans early late

theorem RankKey.leads_total (first second : RankKey) :
    (first.leads second || second.leads first) = true := by
  have swapped : compare first second = (compare second first).swap := Std.OrientedCmp.eq_swap
  rw [leads, leads, swapped]
  cases compare second first <;> rfl

/-- Keys that rank level are the same key. -/
instance : Std.LawfulEqOrd RankKey where
  eq_of_compare {first second} level := by
    change RankKey.compare first second = .eq at level
    rw [RankKey.compare_eq_compareLex] at level
    rcases compareLex_eq_eq.mp level with ⟨rank, rest⟩
    rcases compareLex_eq_eq.mp rest with ⟨minutes, rest⟩
    rcases compareLex_eq_eq.mp rest with ⟨hops, id⟩
    have price := Price.rank_injective (Std.LawfulEqOrd.eq_of_compare rank)
    rw [RankKey.mk.injEq]
    exact ⟨price, Std.LawfulEqOrd.eq_of_compare minutes, Std.LawfulEqOrd.eq_of_compare hops,
      Std.LawfulEqOrd.eq_of_compare id⟩

theorem Itinerary.filter_ranked (test : Itinerary → Bool) (itineraries : List Itinerary) :
    (ranked itineraries).filter test = ranked (itineraries.filter test) := by
  apply filter_mergeSort
  · intro first second third
    exact RankKey.leads_trans first.rankKey second.rankKey third.rankKey
  · intro first second
    exact RankKey.leads_total first.rankKey second.rankKey

end Itineraries
