import Itineraries.Pair

namespace Itineraries

/-!
# Route caches

A cache is bound to one version of the graph and accepts only what was computed
for that version.  Every entry is tagged with the version that it was computed
for, and a look-up names the version that it wants.  When that is another one,
the entry is of no use any more: it is dropped and the look-up fails.

What is stored is immaterial here, so the type of it is a parameter.
-/

/-- How a cache has been used. -/
structure CacheCounts where
  hits : Nat := 0
  misses : Nat := 0
  stale : Nat := 0
  rejected : Nat := 0
  invalidated : Nat := 0
deriving DecidableEq, Repr

def CacheCounts.lookups (counts : CacheCounts) : Nat :=
  counts.hits + counts.misses

/-- What is stored under a pair, with the version that it was computed for. -/
structure CacheEntry (α : Type) where
  value : α
  version : Nat
deriving DecidableEq, Repr

/-- What is known about pairs of places in one version of the graph.  No pair has two
entries, so that looking a pair up and counting entries are about the same thing. -/
structure Cache (α : Type) where
  version : Nat
  entries : List (Pair × CacheEntry α) := []
  counts : CacheCounts := {}
  pairs_nodup : (entries.map (·.1)).Nodup := by exact List.nodup_nil

namespace Cache

variable {α : Type}

def stored? (cache : Cache α) (pair : Pair) : Option (CacheEntry α) :=
  cache.entries.lookup pair

def others (cache : Cache α) (pair : Pair) : List (Pair × CacheEntry α) :=
  cache.entries.filter fun entry => entry.1 ≠ pair

theorem others_nodup (cache : Cache α) (pair : Pair) :
    ((cache.others pair).map (·.1)).Nodup :=
  cache.pairs_nodup.sublist (List.filter_sublist.map _)

theorem pair_notMem_others (cache : Cache α) (pair : Pair) :
    pair ∉ (cache.others pair).map (·.1) := by
  simp [others]

/-- Look up a pair for a version of the graph. -/
def get (cache : Cache α) (pair : Pair) (version : Nat) : Option α × Cache α :=
  match cache.stored? pair with
  | none =>
    (none, { cache with counts := { cache.counts with misses := cache.counts.misses + 1 } })
  | some entry =>
    if entry.version = version then
      (some entry.value, { cache with counts := { cache.counts with hits := cache.counts.hits + 1 } })
    else
      (none,
        { cache with
          entries := cache.others pair
          counts :=
            { cache.counts with
              misses := cache.counts.misses + 1
              stale := cache.counts.stale + 1 }
          pairs_nodup := cache.others_nodup pair })

/-- Store what was computed for a version of the graph, unless the cache is
bound to another version.  The answer tells whether it was accepted. -/
def put (cache : Cache α) (pair : Pair) (value : α) (version : Nat) : Bool × Cache α :=
  if version = cache.version then
    (true,
      { cache with
        entries := (pair, ⟨value, version⟩) :: cache.others pair
        pairs_nodup := List.nodup_cons.mpr ⟨cache.pair_notMem_others pair, cache.others_nodup pair⟩ })
  else
    (false, { cache with counts := { cache.counts with rejected := cache.counts.rejected + 1 } })

/-- Drop all entries.  The answer is their number. -/
def invalidate (cache : Cache α) : Nat × Cache α :=
  (cache.entries.length,
    { cache with
      entries := []
      counts :=
        { cache.counts with
          invalidated := cache.counts.invalidated + cache.entries.length }
      pairs_nodup := List.nodup_nil })

def size (cache : Cache α) : Nat :=
  cache.entries.length

/-- The pairs that have an entry, in order. -/
def pairs (cache : Cache α) : List Pair :=
  (cache.entries.map (·.1)).mergeSort Pair.precedes

/-! ## What each operation does to what is stored -/

theorem lookup_others (cache : Cache α) (pair wanted : Pair) :
    (cache.others pair).lookup wanted = if wanted = pair then none else cache.stored? wanted := by
  rw [others, stored?]
  induction cache.entries with
  | nil => simp only [List.filter_nil, List.lookup_nil, ite_self]
  | cons entry rest inductionHypothesis =>
    by_cases same : entry.1 = pair
    · rw [List.filter_cons_of_neg (by simpa using same), inductionHypothesis, List.lookup_cons]
      split
      · rfl
      · rename_i other
        rw [same, beq_false_of_ne other]
    · rw [List.filter_cons_of_pos (by simpa using same), List.lookup_cons, List.lookup_cons,
        inductionHypothesis]
      split
      · rename_i found
        rw [if_neg (by rw [eq_of_beq found]; exact same)]
      · rfl

theorem version_get (cache : Cache α) (pair : Pair) (version : Nat) :
    (cache.get pair version).2.version = cache.version := by
  unfold get
  split
  · rfl
  · split <;> rfl

theorem version_put (cache : Cache α) (pair : Pair) (value : α) (version : Nat) :
    (cache.put pair value version).2.version = cache.version := by
  unfold put
  split <;> rfl

/-- What is accepted is stored under its pair; under other pairs nothing
changes. -/
theorem stored?_put (cache : Cache α) (pair wanted : Pair) (value : α) :
    (cache.put pair value cache.version).2.stored? wanted =
      if wanted = pair then some ⟨value, cache.version⟩ else cache.stored? wanted := by
  rw [put, if_pos rfl, stored?, List.lookup_cons, lookup_others]
  by_cases same : wanted = pair
  · rw [same, beq_self_eq_true]
    exact (if_pos rfl).symm
  · rw [if_neg same, if_neg same, beq_false_of_ne same]

theorem stored?_put_of_ne (cache : Cache α) (pair wanted : Pair) (value : α) {version : Nat}
    (other : version ≠ cache.version) :
    (cache.put pair value version).2.stored? wanted = cache.stored? wanted := by
  rw [put, if_neg other]
  rfl

/-- A look-up answers with what is stored, if that is tagged with the wanted
version. -/
theorem get_fst_eq_some_iff (cache : Cache α) (pair : Pair) (version : Nat) (value : α) :
    (cache.get pair version).1 = some value ↔ cache.stored? pair = some ⟨value, version⟩ := by
  rw [get]
  split
  · rename_i missing
    rw [missing]
    exact ⟨fun impossible => absurd impossible nofun, fun impossible => absurd impossible nofun⟩
  · rename_i entry present
    rw [present, Option.some.injEq]
    split
    · rename_i current
      rw [Option.some.injEq, ← current]
      exact ⟨fun same => same ▸ rfl, fun same => same ▸ rfl⟩
    · rename_i other
      constructor
      · intro impossible
        exact absurd impossible nofun
      · intro same
        exact absurd (congrArg CacheEntry.version same) other

/-- A look-up only ever drops an entry of another version than the wanted one,
and only under its pair. -/
theorem stored?_get (cache : Cache α) (pair wanted : Pair) (version : Nat) :
    (cache.get pair version).2.stored? wanted =
      if wanted = pair then (cache.stored? pair).filter (·.version = version)
      else cache.stored? wanted := by
  rw [get]
  split
  · rename_i missing
    change cache.stored? wanted = _
    split
    · rename_i same
      rw [same, missing, Option.filter_none]
    · rfl
  · rename_i entry present
    rw [present]
    split
    · rename_i current
      change cache.stored? wanted = _
      split
      · rename_i same
        rw [same, present, Option.filter_some, if_pos (decide_eq_true current)]
      · rfl
    · rename_i other
      change (cache.others pair).lookup wanted = _
      rw [lookup_others, Option.filter_some, decide_eq_false other]
      rfl

theorem mem_pairs (cache : Cache α) (pair : Pair) :
    pair ∈ cache.pairs ↔ (cache.stored? pair).isSome := by
  rw [pairs, (List.mergeSort_perm _ _).mem_iff, stored?]
  induction cache.entries with
  | nil => simp only [List.map_nil, List.not_mem_nil, List.lookup_nil, Option.isSome_none,
      Bool.false_eq_true]
  | cons entry rest inductionHypothesis =>
    rw [List.map_cons, List.mem_cons, List.lookup_cons, inductionHypothesis]
    by_cases same : pair = entry.1
    · rw [same, beq_self_eq_true]
      exact ⟨fun _ => rfl, fun _ => Or.inl rfl⟩
    · rw [beq_false_of_ne same]
      exact ⟨fun found => found.resolve_left same, Or.inr⟩

end Cache
end Itineraries
