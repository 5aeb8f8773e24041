namespace Itineraries
namespace Text

/-!
# Sorted lists of texts

Texts are ordered by their code points, which is also the order of their UTF-8
bytes.
-/

/-- A sorted list without repetitions: of equal neighbours the last is kept. -/
def dropRepeats : List String → List String
  | first :: second :: rest =>
    if first = second then dropRepeats (second :: rest)
    else first :: dropRepeats (second :: rest)
  | texts => texts

/-- The members of a list that equal their successor. -/
def keepRepeats : List String → List String
  | first :: second :: rest =>
    if first = second then first :: keepRepeats (second :: rest)
    else keepRepeats (second :: rest)
  | _ => []

def sortedDistinct (texts : List String) : List String :=
  dropRepeats texts.mergeSort

/-- The texts that a list holds more than once, in order, each once. -/
def sortedRepeated (texts : List String) : List String :=
  dropRepeats (keepRepeats texts.mergeSort)

/-! ## What is kept -/

theorem mem_dropRepeats (text : String) (texts : List String) :
    text ∈ dropRepeats texts ↔ text ∈ texts := by
  fun_induction dropRepeats texts with
  | case1 first rest inductionHypothesis =>
    rw [inductionHypothesis, List.mem_cons, List.mem_cons, List.mem_cons, ← or_assoc, or_self]
  | case2 first second rest different inductionHypothesis =>
    rw [List.mem_cons, inductionHypothesis]
    exact List.mem_cons.symm
  | case3 texts short => rfl

theorem pairwise_dropRepeats {texts : List String} (sorted : texts.Pairwise (· ≤ ·)) :
    (dropRepeats texts).Pairwise (· < ·) := by
  fun_induction dropRepeats texts with
  | case1 first rest inductionHypothesis => exact inductionHypothesis sorted.of_cons
  | case2 first second rest different inductionHypothesis =>
    apply List.pairwise_cons.mpr
    constructor
    · intro later member
      rw [mem_dropRepeats] at member
      rw [← String.not_le]
      intro notAfter
      have ahead : first ≤ second := List.rel_of_pairwise_cons sorted List.mem_cons_self
      have behind : second ≤ later := by
        rcases List.mem_cons.mp member with same | further
        · exact same ▸ String.le_refl _
        · exact List.rel_of_pairwise_cons sorted.of_cons further
      exact different (String.le_antisymm ahead (String.le_trans behind notAfter))
    · exact inductionHypothesis sorted.of_cons
  | case3 texts short =>
    match texts with
    | [] => exact List.Pairwise.nil
    | [only] => exact List.pairwise_singleton _ _
    | first :: second :: rest => exact absurd rfl (short first second rest)

/-- In a sorted list the members that equal their successor are those that occur
more than once. -/
theorem mem_keepRepeats (text : String) {texts : List String} (sorted : texts.Pairwise (· ≤ ·)) :
    text ∈ keepRepeats texts ↔ 2 ≤ texts.count text := by
  fun_induction keepRepeats texts with
  | case1 first rest inductionHypothesis =>
    rw [List.mem_cons, inductionHypothesis sorted.of_cons]
    by_cases same : first = text
    · have twice : 2 ≤ (text :: text :: rest).count text := by
        rw [List.count_cons_self, List.count_cons_self]
        exact Nat.le_add_left _ _
      rw [same]
      exact ⟨fun _ => twice, fun _ => Or.inl rfl⟩
    · have unchanged : (first :: first :: rest).count text = (first :: rest).count text :=
        List.count_cons_of_ne same
      rw [unchanged]
      exact ⟨fun found => found.resolve_left (Ne.symm same), Or.inr⟩
  | case2 first second rest different inductionHypothesis =>
    rw [inductionHypothesis sorted.of_cons]
    by_cases same : first = text
    · have absent : text ∉ second :: rest := by
        intro member
        rw [← same] at member
        have ahead : first ≤ second := List.rel_of_pairwise_cons sorted List.mem_cons_self
        rcases List.mem_cons.mp member with equal | further
        · exact different equal
        · exact different (String.le_antisymm ahead
            (List.rel_of_pairwise_cons sorted.of_cons further))
      rw [same, List.count_cons_self, List.count_eq_zero_of_not_mem absent]
      exact ⟨fun impossible => absurd impossible (by decide), fun impossible =>
        absurd impossible (by decide)⟩
    · rw [List.count_cons_of_ne same]
  | case3 texts short =>
    match texts with
    | [] => exact ⟨fun member => absurd member List.not_mem_nil, fun impossible =>
        absurd impossible (Nat.not_succ_le_zero _)⟩
    | [only] =>
      have once : [only].count text ≤ 1 := List.count_le_length
      exact ⟨fun member => absurd member List.not_mem_nil, fun twice =>
        absurd (Nat.le_trans twice once) (by decide)⟩
    | first :: second :: rest => exact absurd rfl (short first second rest)

private theorem keepRepeats_sublist (texts : List String) : (keepRepeats texts).Sublist texts := by
  fun_induction keepRepeats texts with
  | case1 first rest inductionHypothesis => exact inductionHypothesis.cons_cons _
  | case2 first second rest different inductionHypothesis => exact inductionHypothesis.cons _
  | case3 texts short => exact List.nil_sublist _

private theorem pairwise_sort (texts : List String) : texts.mergeSort.Pairwise (· ≤ ·) := by
  have sorted : texts.mergeSort.Pairwise fun first second => decide (first ≤ second) = true :=
    List.pairwise_mergeSort
      (fun first second third early late => by
        rw [decide_eq_true_eq] at early late ⊢
        exact String.le_trans early late)
      (fun first second => by
        rw [Bool.or_eq_true, decide_eq_true_eq, decide_eq_true_eq]
        exact String.le_total first second)
      texts
  exact sorted.imp fun ordered => by rwa [decide_eq_true_eq] at ordered

theorem mem_sortedDistinct (text : String) (texts : List String) :
    text ∈ sortedDistinct texts ↔ text ∈ texts := by
  rw [sortedDistinct, mem_dropRepeats, (List.mergeSort_perm _ _).mem_iff]

theorem pairwise_sortedDistinct (texts : List String) :
    (sortedDistinct texts).Pairwise (· < ·) :=
  pairwise_dropRepeats (pairwise_sort texts)

/-- The repeated texts are those that occur at least twice, wherever they
stand. -/
theorem mem_sortedRepeated (text : String) (texts : List String) :
    text ∈ sortedRepeated texts ↔ 2 ≤ texts.count text := by
  rw [sortedRepeated, mem_dropRepeats, mem_keepRepeats text (pairwise_sort texts),
    (List.mergeSort_perm _ _).count_eq]

theorem pairwise_sortedRepeated (texts : List String) :
    (sortedRepeated texts).Pairwise (· < ·) :=
  pairwise_dropRepeats ((pairwise_sort texts).sublist (keepRepeats_sublist _))

end Text
end Itineraries
