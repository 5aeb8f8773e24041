import Itineraries.Proofs.Warming

namespace Itineraries

/-!
# Pairs by recency

Of the pairs asked for last only so many are kept, and with every pair that is asked for
the others move back.  A pair that no longer fits is forgotten for good, but nothing is lost
with it that the whole history would still tell: before it could come up again, it would
have to be asked for again.  So what is kept is at any time the front of the list of all
pairs that have ever been asked for, the latest first.

This depends on no pair being listed twice.  If one could be, it would take up the place of
another pair, and moving it to the front would close a gap that can no longer be filled.
-/

/-! ## The whole history -/

/-- All pairs that have been asked for, those asked for last in front. -/
def Pair.byRecency (asked : List Pair) : List Pair :=
  asked.reverse.eraseDups

/-- One pair has been asked for since another one was asked for last. -/
def Pair.AskedSince (asked : List Pair) (one other : Pair) : Prop :=
  ∃ earlier later, asked = earlier ++ later ∧ one ∈ later ∧ other ∉ later

/-- It makes no difference whether pairs are left out before or after. -/
private theorem eraseDups_filter (test : Pair → Bool) (pairs : List Pair) :
    (pairs.filter test).eraseDups = pairs.eraseDups.filter test := by
  match pairs with
  | [] => rfl
  | pair :: rest =>
    have shorter := eraseDups_filter test (rest.filter fun other => !other == pair)
    rw [List.eraseDups_cons]
    by_cases passes : test pair
    · rw [List.filter_cons_of_pos passes, List.filter_cons_of_pos passes, List.eraseDups_cons,
        ← shorter, List.filter_filter, List.filter_filter]
      simp only [Bool.and_comm]
    · rw [List.filter_cons_of_neg passes, List.filter_cons_of_neg passes, ← shorter,
        List.filter_filter]
      congr 1
      apply List.filter_congr
      intro other _
      by_cases same : other = pair
      · simp [same, passes]
      · simp [same]
termination_by pairs.length
decreasing_by exact Nat.lt_succ_of_le (List.length_filter_le _ _)

private theorem filter_ne_of_notMem {pairs : List Pair} {pair : Pair} (absent : pair ∉ pairs) :
    pairs.filter (· ≠ pair) = pairs := by
  rw [List.filter_eq_self]
  intro other member
  simpa using fun same : other = pair => absent (same ▸ member)

private theorem filter_not_beq (pairs : List Pair) (pair : Pair) :
    (pairs.filter fun other => !other == pair) = pairs.filter (· ≠ pair) := by
  simp [beq_eq_decide]

private theorem eraseDups_of_nodup {pairs : List Pair} (distinct : pairs.Nodup) :
    pairs.eraseDups = pairs := by
  induction pairs with
  | nil => rfl
  | cons pair rest inductionHypothesis =>
    rcases List.nodup_cons.mp distinct with ⟨new, distinct⟩
    rw [List.eraseDups_cons, filter_not_beq, filter_ne_of_notMem new, inductionHypothesis distinct]

namespace Pair

theorem mem_byRecency (asked : List Pair) (pair : Pair) :
    pair ∈ byRecency asked ↔ pair ∈ asked := by
  simp [byRecency]

theorem byRecency_nodup (asked : List Pair) : (byRecency asked).Nodup :=
  nodup_eraseDups _

theorem byRecency_concat (asked : List Pair) (pair : Pair) :
    byRecency (asked ++ [pair]) = pair :: (byRecency asked).filter (· ≠ pair) := by
  rw [byRecency, List.reverse_append, List.reverse_singleton, List.singleton_append,
    List.eraseDups_cons, filter_not_beq, eraseDups_filter, byRecency]

theorem AskedSince.concat {asked : List Pair} {one other : Pair}
    (since : AskedSince asked one other) {pair : Pair} (different : other ≠ pair) :
    AskedSince (asked ++ [pair]) one other := by
  rcases since with ⟨earlier, later, rfl, again, absent⟩
  refine ⟨earlier, later ++ [pair], List.append_assoc _ _ _, List.mem_append_left _ again, ?_⟩
  simp [absent, different]

theorem pairwise_byRecency (asked : List Pair) :
    (byRecency asked).Pairwise (AskedSince asked) := by
  induction asked using List.reverseRecOn with
  | nil => exact List.Pairwise.nil
  | append_singleton asked pair inductionHypothesis =>
    rw [byRecency_concat]
    apply List.pairwise_cons.mpr
    constructor
    · intro other member
      have different : other ≠ pair := by simpa using (List.mem_filter.mp member).2
      exact ⟨asked, [pair], rfl, List.mem_singleton_self pair, by simpa using different⟩
    · apply (inductionHypothesis.sublist List.filter_sublist).imp_of_mem
      intro one other _ member since
      have different : other ≠ pair := by simpa using (List.mem_filter.mp member).2
      exact since.concat different

end Pair

/-! ## What is kept of it -/

/-- If one pair is left out, it makes no difference whether the list was cut before, as long as
one more was kept. -/
theorem take_filter_take_succ {pairs : List Pair} (distinct : pairs.Nodup) (pair : Pair)
    (room : Nat) :
    ((pairs.take (room + 1)).filter (· ≠ pair)).take room =
      (pairs.filter (· ≠ pair)).take room := by
  induction pairs generalizing room with
  | nil => rfl
  | cons first rest inductionHypothesis =>
    rcases List.nodup_cons.mp distinct with ⟨new, distinct⟩
    rw [List.take_succ_cons]
    by_cases same : first = pair
    · subst same
      have absent : first ∉ rest.take room := fun member => new (List.mem_of_mem_take member)
      rw [List.filter_cons_of_neg (by simp), List.filter_cons_of_neg (by simp),
        filter_ne_of_notMem absent, filter_ne_of_notMem new, List.take_take, Nat.min_self]
    · rw [List.filter_cons_of_pos (by simpa using same),
        List.filter_cons_of_pos (by simpa using same)]
      cases room with
      | zero => rfl
      | succ room => rw [List.take_succ_cons, List.take_succ_cons, inductionHypothesis distinct]

/-- What is kept is the front of the whole history. -/
theorem RecentPairs.foldl_record (capacity : Nat) (asked : List Pair) :
    asked.foldl RecentPairs.record ⟨capacity, []⟩ =
      ⟨capacity, (Pair.byRecency asked).take capacity⟩ := by
  induction asked using List.reverseRecOn with
  | nil =>
    rw [Pair.byRecency, List.reverse_nil, List.eraseDups_nil, List.take_nil]
    rfl
  | append_singleton asked pair inductionHypothesis =>
    rw [List.foldl_append, inductionHypothesis, Pair.byRecency_concat]
    cases capacity with
    | zero => rfl
    | succ room =>
      rw [List.take_succ_cons, ← take_filter_take_succ (Pair.byRecency_nodup asked)]
      rfl

namespace WarmPolicy

/-- Note that some pairs have been asked for, one after the other. -/
def recordAll (policy : WarmPolicy) (asked : List Pair) : WarmPolicy :=
  asked.foldl record policy

theorem pairs_recordAll_recent (capacity : Nat) (asked : List Pair) :
    ((recent ⟨capacity, []⟩).recordAll asked).pairs =
      (Pair.byRecency asked).take capacity := by
  have noted : (recent ⟨capacity, []⟩).recordAll asked =
      recent (asked.foldl RecentPairs.record ⟨capacity, []⟩) :=
    List.foldl_hom recent fun _ _ => rfl
  rw [noted, RecentPairs.foldl_record]
  rfl

theorem recordAll_combined (seeded : List Pair) (recents : RecentPairs) (asked : List Pair) :
    (combined seeded recents).recordAll asked =
      combined seeded (asked.foldl RecentPairs.record recents) :=
  List.foldl_hom (combined seeded) fun _ _ => rfl

theorem pairs_recordAll_combined (seeded : List Pair) (capacity : Nat) (asked : List Pair) :
    ((combined seeded ⟨capacity, []⟩).recordAll asked).pairs =
      seeded.eraseDups ++ ((Pair.byRecency asked).take capacity).filter (· ∉ seeded) := by
  rw [recordAll_combined, RecentPairs.foldl_record]
  have distinct : (((Pair.byRecency asked).take capacity).filter (· ∉ seeded)).Nodup :=
    ((Pair.byRecency_nodup asked).sublist (List.take_sublist _ _)).filter _
  rw [pairs, List.eraseDups_append, List.removeAll]
  conv_rhs => rw [← eraseDups_of_nodup distinct]
  simp

end WarmPolicy

namespace Rebuild
namespace Coordinator

/-! ## What an engine notes -/

/-- The pair of a search that succeeds by a move. -/
def answered? (coordinator : Coordinator) : Move → Option Pair
  | .search pair given => if (coordinator.search pair given).1.isOk then some pair else none
  | _ => none

/-- The pairs of all searches that succeed in the course of a run. -/
def answeredPairs : Coordinator → List Move → List Pair :=
  seen fun coordinator move => (coordinator.answered? move).toList

theorem Step.policy_eq {coordinator next : Coordinator} {move : Move}
    (step : Step coordinator move next) (other : ∀ pair given, move ≠ .search pair given) :
    next.engine.policy = coordinator.engine.policy := by
  cases step with
  | search pair given => exact absurd rfl (other pair given)
  | @finish _ _ outcome => cases outcome <;> rfl
  | _ => rfl

/-- Only searches are noted, and of these only those that succeed. -/
theorem policy_apply (coordinator : Coordinator) (move : Move) :
    (coordinator.apply move).engine.policy =
      coordinator.engine.policy.recordAll (coordinator.answered? move).toList := by
  have step := step_apply coordinator move
  cases move with
  | search pair given =>
    have noted := coordinator.engine.policy_search pair given
    change (coordinator.engine.search pair given).2.policy = _
    rw [noted, answered?, search]
    split <;> rfl
  | _ =>
    apply step.policy_eq
    intro _ _ impossible
    cases impossible

theorem policy_run (coordinator : Coordinator) (moves : List Move) :
    (coordinator.run moves).engine.policy =
      coordinator.engine.policy.recordAll (coordinator.answeredPairs moves) := by
  induction moves generalizing coordinator with
  | nil => rfl
  | cons move rest inductionHypothesis =>
    change ((coordinator.apply move).run rest).engine.policy = _
    rw [inductionHypothesis, policy_apply, answeredPairs, seen]
    exact List.foldl_append.symm

/-- For every capacity and whatever pairs have been asked for, the policy of recent pairs lists
the front of the list in which each of them stands once and in front of those that have been
asked for before it only.  The combined policy lists each given pair once, and then those of
these pairs that are not given.  What an engine notes are the pairs of the searches that have
succeeded since it was made, one after the other, whether they were answered from the cache,
computed, or made under constraints of their own. -/
theorem warm_pairs_by_recency {config : Config} {policy : WarmPolicy} {engine : Engine}
    (created : Engine.withPolicy config policy = .ok engine) (inventory : Inventory)
    (moves : List Move) (capacity : Nat) (seeded asked : List Pair) :
    let start := ofEngine engine inventory
    let reached := start.run moves
    let recents := (Pair.byRecency asked).take capacity
    let combined := ((WarmPolicy.combined seeded ⟨capacity, []⟩).recordAll asked).pairs
    ((Pair.byRecency asked).Nodup ∧ (∀ pair, pair ∈ Pair.byRecency asked ↔ pair ∈ asked) ∧
      (Pair.byRecency asked).Pairwise (Pair.AskedSince asked)) ∧
    ((WarmPolicy.recent ⟨capacity, []⟩).recordAll asked).pairs = recents ∧
    (combined = seeded.eraseDups ++ recents.filter (· ∉ seeded) ∧ combined.Nodup) ∧
    reached.engine.policy = policy.recordAll (start.answeredPairs moves) ∧
    (Engine.ofConfig config = .ok engine →
      reached.engine.policy.pairs = config.warm.pairs.eraseDups ++
        ((Pair.byRecency (start.answeredPairs moves)).take config.warm.recentCapacity).filter
          (· ∉ config.warm.pairs)) := by
  intro start reached recents combined
  have noted : reached.engine.policy = engine.policy.recordAll (start.answeredPairs moves) :=
    start.policy_run moves
  refine ⟨⟨Pair.byRecency_nodup asked, Pair.mem_byRecency asked, Pair.pairwise_byRecency asked⟩,
    WarmPolicy.pairs_recordAll_recent capacity asked,
    ⟨WarmPolicy.pairs_recordAll_combined seeded capacity asked, ?_⟩, ?_, fun configured => ?_⟩
  · change ((WarmPolicy.combined seeded ⟨capacity, []⟩).recordAll asked).pairs.Nodup
    rw [WarmPolicy.recordAll_combined]
    exact nodup_eraseDups _
  · rw [noted, Engine.policy_of_withPolicy created]
  · rw [noted, Engine.policy_of_ofConfig configured, WarmPolicy.pairs_recordAll_combined]

/-- One pair is searched under constraints of its own, another one through the cache, then a
pair without a name, and the first one once more. -/
private def searchedAgain : List Move :=
  [.search ⟨"A", "B"⟩ (some { maxHops := 1 }), .search ⟨"B", "A"⟩ none, .search ⟨"", "B"⟩ none,
    .search ⟨"B", "A"⟩ none, .search ⟨"A", "B"⟩ none]

private def standardEngine : Engine :=
  ⟨{}, Config.valid_default, .combined [] ⟨64, []⟩, Snapshot.empty, []⟩

theorem searched_pairs_by_recency :
    Engine.ofConfig {} = .ok standardEngine ∧
      ((ofEngine standardEngine (.memory {})).run searchedAgain).engine.policy.pairs =
        [⟨"A", "B"⟩, ⟨"B", "A"⟩] := by
  have created : Engine.withPolicy {} (.combined [] ⟨64, []⟩) = .ok standardEngine := rfl
  have listed := (warm_pairs_by_recency created (.memory {}) searchedAgain 0 [] []).2.2.2.2 rfl
  exact ⟨rfl, listed.trans (by decide +kernel)⟩

end Coordinator
end Rebuild
end Itineraries
