import Mathlib.Algebra.Ring.Nat
import Mathlib.Data.List.Induction
import Mathlib.Data.List.Nodup
import Itineraries.Cache
import Itineraries.Proofs.Histories

namespace Itineraries
namespace Cache

/-!
# What a cache remembers

A cache is a map from pairs to values that is guarded by one version.  It is never told
that an entry has become useless, it finds out when a pair is looked up for another
version, and drops the entry then.  So what is stored under a pair was decided by the
latest use that concerned the pair: a value was accepted for it, it was looked up for
another version, or all entries were dropped.

The counters can be read off the uses, each seen together with the cache that it met.
They account for every entry that there has ever been: it is still there, or it was dropped
by a look-up, or with all others.  That what a look-up drops is exactly what was stored
under its pair, whenever it names another version than the cache, is due to the tags of the
entries.  All of them are that of the cache, since nothing else is accepted.
-/

variable {α : Type}

inductive Use (α : Type) where
  | put (pair : Pair) (value : α) (version : Nat)
  | get (pair : Pair) (version : Nat)
  | invalidate

def apply (cache : Cache α) : Use α → Cache α
  | .put pair value version => (cache.put pair value version).2
  | .get pair version => (cache.get pair version).2
  | .invalidate => cache.invalidate.2

/-- A cache that was made for a version, after a row of uses. -/
def used (version : Nat) (uses : List (Use α)) : Cache α :=
  uses.foldl apply { version := version }

/-- The uses of a cache that was made for a version, each with the cache that it met. -/
def visits (version : Nat) (uses : List (Use α)) : List (Cache α × Use α) :=
  History.visits apply { version := version } uses

/-! ## What has been stored and not been dropped -/

/-- Whether a use decides what a cache for a version has stored under a pair. -/
def Use.concerns (version : Nat) (pair : Pair) : Use α → Bool
  | .put stored _ tag => stored = pair && tag = version
  | .get wanted tag => wanted = pair && tag ≠ version
  | .invalidate => true

/-- What such a use leaves under the pair. -/
def Use.value? : Use α → Option α
  | .put _ value _ => some value
  | .get _ _ | .invalidate => none

/-- What was accepted last for a pair, unless it has been dropped since. -/
def remembered? (version : Nat) (uses : List (Use α)) (pair : Pair) : Option α :=
  (History.latest? (·.concerns version pair) uses).bind Use.value?

theorem remembered?_concat (version : Nat) (uses : List (Use α)) (use : Use α) (pair : Pair) :
    remembered? version (uses ++ [use]) pair =
      if use.concerns version pair then use.value? else remembered? version uses pair := by
  rw [remembered?, History.latest?_concat]
  split <;> rfl

/-- A cache has stored what is remembered, and all of it for its own version. -/
structure Remembers (version : Nat) (known : Pair → Option α) (cache : Cache α) : Prop where
  bound : cache.version = version
  stored : ∀ pair, cache.stored? pair = (known pair).map (⟨·, version⟩)

namespace Remembers

variable {version : Nat} {uses : List (Use α)} {known : Pair → Option α} {cache : Cache α}

theorem apply (remembers : cache.Remembers version (remembered? version uses)) (use : Use α) :
    (cache.apply use).Remembers version (remembered? version (uses ++ [use])) := by
  rcases remembers with ⟨rfl, stored⟩
  cases use with
  | put pair value tag =>
    refine ⟨cache.version_put pair value tag, fun wanted => ?_⟩
    rw [remembered?_concat]
    by_cases accepted : tag = cache.version
    · rw [Cache.apply, accepted, stored?_put, stored]
      by_cases same : wanted = pair
      · simp [Use.concerns, Use.value?, same]
      · simp [Use.concerns, same, Ne.symm same]
    · rw [Cache.apply, stored?_put_of_ne _ _ _ _ accepted, stored]
      simp [Use.concerns, accepted]
  | get pair tag =>
    refine ⟨cache.version_get pair tag, fun wanted => ?_⟩
    rw [remembered?_concat, Cache.apply, stored?_get, stored, stored]
    by_cases same : wanted = pair
    · subst same
      by_cases current : tag = cache.version
      · cases remembered? cache.version uses wanted <;> simp [Use.concerns, current]
      · cases remembered? cache.version uses wanted <;>
          simp [Use.concerns, Use.value?, current, Ne.symm current]
    · simp [Use.concerns, same, Ne.symm same]
  | invalidate =>
    refine ⟨rfl, fun wanted => ?_⟩
    rw [remembered?_concat]
    rfl

theorem used (version : Nat) (uses : List (Use α)) :
    (Cache.used version uses).Remembers version (remembered? version uses) := by
  induction uses using List.reverseRecOn with
  | nil => exact ⟨rfl, fun _ => rfl⟩
  | append_singleton uses use inductionHypothesis =>
    rw [Cache.used, List.foldl_append]
    exact inductionHypothesis.apply use

/-- A look-up answers with what is remembered, if it is for the version of the cache. -/
theorem get_fst (remembers : cache.Remembers version known) (pair : Pair) (wanted : Nat) :
    (cache.get pair wanted).1 = if wanted = version then known pair else none := by
  ext value
  rw [get_fst_eq_some_iff, remembers.stored]
  by_cases same : wanted = version
  · simp [same]
  · simp [same, Ne.symm same]

end Remembers

/-! ## What is counted -/

def Use.isGet : Use α → Bool
  | .get _ _ => true
  | .put _ _ _ | .invalidate => false

/-- Whether a use is a look-up that finds something. -/
def finds (cache : Cache α) : Use α → Bool
  | .get pair version => (cache.get pair version).1.isSome
  | .put _ _ _ | .invalidate => false

/-- Whether a use is a look-up that drops an entry. -/
def evicts (cache : Cache α) : Use α → Bool
  | .get pair version =>
    (cache.stored? pair).isSome && ((cache.get pair version).2.stored? pair).isNone
  | .put _ _ _ | .invalidate => false

/-- Whether a use stores something that is not accepted. -/
def refuses (cache : Cache α) : Use α → Bool
  | .put pair value version => !(cache.put pair value version).1
  | .get _ _ | .invalidate => false

/-- Whether a use makes an entry for a pair that had none. -/
def admits (cache : Cache α) : Use α → Bool
  | .put pair value version =>
    (cache.put pair value version).1 && (cache.stored? pair).isNone
  | .get _ _ | .invalidate => false

/-- How many entries are dropped together with all others. -/
def cleared (cache : Cache α) : Use α → Nat
  | .invalidate => cache.size - cache.invalidate.2.size
  | .put _ _ _ | .get _ _ => 0

/-- The counters of a cache and its size tell what has been done with it. -/
structure IsAccountedFor (visits : List (Cache α × Use α)) (cache : Cache α) : Prop where
  hits_eq : cache.counts.hits = visits.countP fun visit => visit.1.finds visit.2
  lookups_eq : cache.counts.lookups = visits.countP fun visit => visit.2.isGet
  stale_eq : cache.counts.stale = visits.countP fun visit => visit.1.evicts visit.2
  stale_le : cache.counts.stale ≤ cache.counts.misses
  rejected_eq : cache.counts.rejected = visits.countP fun visit => visit.1.refuses visit.2
  invalidated_eq :
    cache.counts.invalidated = (visits.map fun visit => visit.1.cleared visit.2).sum
  admitted_eq : (visits.countP fun visit => visit.1.admits visit.2) =
    cache.size + cache.counts.stale + cache.counts.invalidated

/-- What one use adds to the counters, and what becomes of the entries. -/
structure IsEntered (cache : Cache α) (use : Use α) : Prop where
  hits_eq : (cache.apply use).counts.hits =
    cache.counts.hits + if cache.finds use then 1 else 0
  lookups_eq : (cache.apply use).counts.lookups =
    cache.counts.lookups + if use.isGet then 1 else 0
  stale_eq : (cache.apply use).counts.stale =
    cache.counts.stale + if cache.evicts use then 1 else 0
  misses_le : (cache.counts.misses + if cache.evicts use then 1 else 0) ≤
    (cache.apply use).counts.misses
  rejected_eq : (cache.apply use).counts.rejected =
    cache.counts.rejected + if cache.refuses use then 1 else 0
  invalidated_eq : (cache.apply use).counts.invalidated =
    cache.counts.invalidated + cache.cleared use
  size_eq : (cache.apply use).size + (if cache.evicts use then 1 else 0) + cache.cleared use =
    cache.size + if cache.admits use then 1 else 0

/-- Beside the other entries there is at most the one of the pair. -/
theorem length_others (cache : Cache α) (pair : Pair) :
    (cache.others pair).length + (if (cache.stored? pair).isSome then 1 else 0) = cache.size := by
  have listed : pair ∈ cache.entries.map (·.1) ↔ (cache.stored? pair).isSome := by
    rw [← cache.mem_pairs, pairs, (List.mergeSort_perm _ _).mem_iff]
  have alone := cache.pairs_nodup.count (a := pair)
  rw [if_congr listed rfl rfl] at alone
  have parted := cache.entries.length_eq_countP_add_countP fun entry => entry.1 ≠ pair
  rw [← alone, size, parted, others, List.countP_eq_length_filter, List.count_eq_countP,
    List.countP_map]
  congr 2
  funext entry
  simp [beq_eq_decide]

/-- A look-up hits, misses, or misses and drops what it has found. -/
theorem get_cases (cache : Cache α) (pair : Pair) (version : Nat) :
    let next := cache.apply (.get pair version)
    (cache.finds (.get pair version) = true ∧ cache.evicts (.get pair version) = false ∧
      next.entries = cache.entries ∧
      next.counts = { cache.counts with hits := cache.counts.hits + 1 }) ∨
    (cache.finds (.get pair version) = false ∧ cache.evicts (.get pair version) = false ∧
      next.entries = cache.entries ∧
      next.counts = { cache.counts with misses := cache.counts.misses + 1 }) ∨
    (cache.finds (.get pair version) = false ∧ cache.evicts (.get pair version) = true ∧
      (cache.stored? pair).isSome ∧ next.entries = cache.others pair ∧
      next.counts =
        { cache.counts with
          misses := cache.counts.misses + 1
          stale := cache.counts.stale + 1 }) := by
  have left := cache.stored?_get pair pair version
  rw [if_pos rfl] at left
  simp only [apply, finds, evicts, left]
  unfold get
  split
  · rename_i missing
    exact Or.inr (Or.inl ⟨rfl, by rw [missing]; rfl, rfl, rfl⟩)
  · rename_i entry present
    split
    · rename_i current
      exact Or.inl ⟨rfl, by simp [present, current], rfl, rfl⟩
    · rename_i other
      exact Or.inr (Or.inr ⟨rfl, by simp [present, other], by simp [present], rfl, rfl⟩)

theorem isEntered_put (cache : Cache α) (pair : Pair) (value : α) (version : Nat) :
    cache.IsEntered (.put pair value version) := by
  by_cases accepted : version = cache.version
  · have parted := cache.length_others pair
    constructor
    case size_eq =>
      simp only [apply, evicts, admits, cleared, put, accepted, if_true, size, List.length_cons]
      rw [size] at parted
      cases stored : cache.stored? pair <;> simp [stored] at parted ⊢ <;> omega
    all_goals simp [apply, finds, evicts, refuses, cleared, put, accepted, Use.isGet]
  · constructor <;>
      simp [apply, finds, evicts, refuses, admits, cleared, put, accepted, Use.isGet,
        CacheCounts.lookups, size]

theorem isEntered_get (cache : Cache α) (pair : Pair) (version : Nat) :
    cache.IsEntered (.get pair version) := by
  have parted := cache.length_others pair
  rcases cache.get_cases pair version with
    ⟨hit, kept, entries, counts⟩ | ⟨miss, kept, entries, counts⟩ |
    ⟨miss, dropped, found, entries, counts⟩
  · constructor <;>
      simp [refuses, admits, cleared, Use.isGet, CacheCounts.lookups, size, hit, kept, entries,
        counts]
    exact Nat.add_right_comm _ _ _
  · constructor <;>
      simp [refuses, admits, cleared, Use.isGet, CacheCounts.lookups, size, miss, kept, entries,
        counts]
    exact (Nat.add_assoc _ _ _).symm
  · rw [if_pos found] at parted
    constructor <;>
      simp [refuses, admits, cleared, Use.isGet, CacheCounts.lookups, size, miss, dropped, entries,
        counts]
    · exact (Nat.add_assoc _ _ _).symm
    · exact parted

theorem isEntered (cache : Cache α) (use : Use α) : cache.IsEntered use := by
  cases use with
  | put pair value version => exact cache.isEntered_put pair value version
  | get pair version => exact cache.isEntered_get pair version
  | invalidate =>
    constructor <;>
      simp [apply, finds, evicts, refuses, admits, cleared, invalidate, Use.isGet,
        CacheCounts.lookups, size]

theorem IsAccountedFor.apply {visits : List (Cache α × Use α)} {cache : Cache α}
    (accounted : cache.IsAccountedFor visits) (use : Use α) :
    (cache.apply use).IsAccountedFor (visits ++ [(cache, use)]) := by
  rcases accounted with ⟨hits, lookups, stale, stale_le, rejected, invalidated, admitted⟩
  have entered := cache.isEntered use
  constructor
  case hits_eq => simp [entered.hits_eq, hits]
  case lookups_eq => simp [entered.lookups_eq, lookups]
  case stale_eq => simp [entered.stale_eq, stale]
  case stale_le =>
    have missed := entered.misses_le
    rw [entered.stale_eq]
    omega
  case rejected_eq => simp [entered.rejected_eq, rejected]
  case invalidated_eq => simp [entered.invalidated_eq, invalidated]
  case admitted_eq =>
    have sized := entered.size_eq
    simp only [List.countP_append, List.countP_singleton, admitted, entered.stale_eq,
      entered.invalidated_eq]
    omega

theorem isAccountedFor_used (version : Nat) (uses : List (Use α)) :
    (used version uses).IsAccountedFor (visits version uses) := by
  induction uses using List.reverseRecOn with
  | nil => exact ⟨rfl, rfl, rfl, Nat.le_refl 0, rfl, rfl, rfl⟩
  | append_singleton uses use inductionHypothesis =>
    rw [visits, History.visits_concat, used, List.foldl_append]
    exact inductionHypothesis.apply use

/-- Whatever has been done with a cache since it was made for a version: a look-up for this
version answers with what was accepted last for the pair and has not been dropped since, and a
look-up for another version with nothing.  A look-up without an answer is a miss, after which
nothing is stored under the pair; otherwise it leaves all entries as they are.  Accepted is what
is stored for the version of the cache, and what is refused changes no entry.  The counters are
the numbers of what they count, and every entry that was ever made is still there or has been
counted when it was dropped. -/
theorem uses_remembered_and_counted (version : Nat) (uses : List (Use α)) :
    let cache := used version uses
    (∀ pair, pair ∈ cache.pairs ↔ (remembered? version uses pair).isSome) ∧
    (∀ pair wanted,
      let looked := cache.get pair wanted
      looked.1 = (if wanted = version then remembered? version uses pair else none) ∧
      (∀ other, looked.2.stored? other =
        if other = pair ∧ looked.1.isNone then none else cache.stored? other) ∧
      looked.2.counts.misses = cache.counts.misses + if looked.1.isNone then 1 else 0) ∧
    (∀ pair value tag,
      ((cache.put pair value tag).1 = true ↔ tag = version) ∧
      ((cache.put pair value tag).1 = false →
        (cache.put pair value tag).2.entries = cache.entries)) ∧
    cache.IsAccountedFor (visits version uses) := by
  intro cache
  have remembers : cache.Remembers version (remembered? version uses) := .used version uses
  refine ⟨fun pair => ?_, fun pair wanted => ?_, fun pair value tag => ?_,
    isAccountedFor_used version uses⟩
  · rw [cache.mem_pairs, remembers.stored, Option.isSome_map]
  · have answer := remembers.get_fst pair wanted
    refine ⟨answer, fun other => ?_, ?_⟩
    · rw [cache.stored?_get, answer]
      by_cases same : other = pair
      · rw [same, remembers.stored]
        by_cases current : wanted = version
        · cases remembered? version uses pair <;> simp [current]
        · cases remembered? version uses pair <;> simp [current, Ne.symm current]
      · simp [same]
    · have entered := cache.isEntered (.get pair wanted)
      have hits := entered.hits_eq
      have lookups := entered.lookups_eq
      change (cache.apply (.get pair wanted)).counts.misses = _
      simp only [finds, Use.isGet, CacheCounts.lookups, if_true] at hits lookups
      cases answered : (cache.get pair wanted).1 <;> simp [answered] at hits ⊢ <;> omega
  · rw [← remembers.bound]
    by_cases accepted : tag = cache.version <;> simp [put, accepted]

end Cache
end Itineraries
