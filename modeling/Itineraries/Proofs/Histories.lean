namespace Itineraries
namespace History

/-!
# Histories

What a cache or an inventory holds is the work of everything that has been done with it.
Of one key it tells the latest deed only that has concerned this key.  What has been
counted goes back to every deed, and to the state that each of them has met.
-/

variable {State Deed : Type}

/-- The latest deed that passes a test. -/
def latest? (test : Deed → Bool) (deeds : List Deed) : Option Deed :=
  deeds.reverse.find? test

theorem latest?_concat (test : Deed → Bool) (deeds : List Deed) (deed : Deed) :
    latest? test (deeds ++ [deed]) = if test deed then some deed else latest? test deeds := by
  rw [latest?, List.reverse_append, List.reverse_singleton, List.singleton_append,
    List.find?_cons]
  cases test deed <;> rfl

/-- The deeds of a row, each with the state that it meets. -/
def visits (apply : State → Deed → State) : State → List Deed → List (State × Deed)
  | _, [] => []
  | state, deed :: deeds => (state, deed) :: visits apply (apply state deed) deeds

theorem visits_append (apply : State → Deed → State) (start : State)
    (earlier later : List Deed) :
    visits apply start (earlier ++ later) =
      visits apply start earlier ++ visits apply (earlier.foldl apply start) later := by
  induction earlier generalizing start with
  | nil => rfl
  | cons deed rest inductionHypothesis =>
    exact congrArg ((start, deed) :: ·) (inductionHypothesis (apply start deed))

theorem visits_concat (apply : State → Deed → State) (start : State) (deeds : List Deed)
    (deed : Deed) :
    visits apply start (deeds ++ [deed]) =
      visits apply start deeds ++ [(deeds.foldl apply start, deed)] :=
  visits_append apply start deeds [deed]

end History
end Itineraries
