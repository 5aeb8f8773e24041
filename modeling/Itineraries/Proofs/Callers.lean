import Itineraries.Proofs.Coherence
import Itineraries.Proofs.Moments

namespace Itineraries
namespace Rebuild
namespace Coordinator

/-!
# What callers are told

A caller may be given the outcome of a rebuild that somebody else has called
for.  That it is never one which had begun before the call rests on the tickets
alone: a rebuild covers the tickets that had been taken when it began, and the
ticket of a call is later than those taken before it.  By then other rebuilds may
have ended, but an outcome that is replaced is replaced by a later one.

Callers are answered once.  They wait from their call to their answer, and
whoever is given the outcome of a rebuild that has already ended has not had one
run for them.
-/

def AnsweredAt (start : Coordinator) (moves : List Move) (moment number : Nat)
    (result : Result) : Prop :=
  (start.after moves moment).answer? number = none ∧
    (start.after moves (moment + 1)).answer? number = some result

/-- At a moment no read of the inventory begins, observers are told of nothing,
and the engine stays as it is. -/
def IsQuietAt (start : Coordinator) (moves : List Move) (moment : Nat) : Prop :=
  (start.after moves (moment + 1)).reads = (start.after moves moment).reads ∧
    (start.after moves (moment + 1)).events = (start.after moves moment).events ∧
    (start.after moves (moment + 1)).engine = (start.after moves moment).engine

/-- At a moment a snapshot is published, under the next version. -/
def PublishesAt (start : Coordinator) (moves : List Move) (moment : Nat)
    (snapshot : Snapshot) : Prop :=
  (start.after moves (moment + 1)).engine =
      (start.after moves moment).engine.publish snapshot ∧
    snapshot.version = (start.after moves moment).engine.version + 1

/-! ## Who waits -/

section

variable {coordinator next : Coordinator} {move : Move}

/-- Those who wait change by one at a time: a caller joins them, or the loop, or
the first of them goes and is given a result. -/
theorem Step.demands_cases (step : Step coordinator move next) :
    (next.demands = coordinator.demands ∧ next.answers = coordinator.answers ∧
      next.calls = coordinator.calls) ∨
    (∃ reason, move = .call reason ∧
      next.demands = coordinator.demands ++
        [⟨.caller coordinator.calls, reason, coordinator.requests.issued + 1⟩] ∧
      next.answers = coordinator.answers ∧ next.calls = coordinator.calls + 1) ∨
    (∃ reason, coordinator.requests.signal = some reason ∧
      next.demands = coordinator.demands ++ [⟨.loop, reason, coordinator.requests.issued⟩] ∧
      next.answers = coordinator.answers ∧ next.calls = coordinator.calls) ∨
    (∃ demand result, coordinator.demands = demand :: next.demands ∧
      next.answers = coordinator.answersAfter demand.holder result ∧
      next.calls = coordinator.calls) := by
  cases step with
  | call reason =>
    refine Or.inr (Or.inl ⟨reason, rfl, ?_, rfl, rfl⟩)
    rw [demands, demands, List.append_assoc]
    rfl
  | @take reason _ _ _ queued =>
    refine Or.inr (Or.inr (Or.inl ⟨reason, queued, ?_, rfl, rfl⟩))
    rw [demands, demands, List.append_assoc]
  | satisfy idle first =>
    refine Or.inr (Or.inr (Or.inr ⟨_, _, ?_, rfl, rfl⟩))
    rw [demands_of_idle idle, first, demands_of_idle]
    exact idle
  | begin idle first =>
    refine Or.inl ⟨?_, rfl, rfl⟩
    rw [demands_of_idle idle, first, demands_of_running rfl]
  | endRead readEnd reading =>
    refine Or.inl ⟨?_, rfl, rfl⟩
    rw [demands_of_running reading, demands_of_running rfl]
  | finish decided =>
    refine Or.inr (Or.inr (Or.inr ⟨_, _, ?_, rfl, rfl⟩))
    rw [demands_of_running decided, demands_of_idle rfl]
  | _ => exact Or.inl ⟨rfl, rfl, rfl⟩

/-- Callers wait from their call until they are answered, each of them once. -/
structure CallersWait (coordinator : Coordinator) : Prop where
  once : ∀ number, coordinator.demands.countP (·.holder = .caller number) =
    if number < coordinator.calls ∧ coordinator.answer? number = none then 1 else 0
  unanswered : ∀ number, coordinator.calls ≤ number → coordinator.answer? number = none

theorem answer?_eq_of_answers {number : Nat} (same : next.answers = coordinator.answers) :
    next.answer? number = coordinator.answer? number := by
  rw [answer?, same, answer?]

/-- A result that somebody is given answers their call, unless it has been
answered before. -/
theorem answer?_of_answersAfter {holder : Holder} {result : Result} {number : Nat}
    (told : next.answers = coordinator.answersAfter holder result) :
    next.answer? number =
      (coordinator.answer? number).or (if holder = .caller number then some result else none) := by
  cases holder with
  | loop => simp [answer?, told, answersAfter]
  | caller other =>
    by_cases same : number = other
    · simp [answer?, told, answersAfter, List.lookup_append, same]
    · have different : ¬Holder.caller other = .caller number := fun impossible =>
        same (Holder.caller.inj impossible).symm
      simp [answer?, told, answersAfter, List.lookup_append, List.lookup_cons,
        beq_false_of_ne same, different]

theorem CallersWait.initial (engine : Engine) (inventory : Inventory) :
    (ofEngine engine inventory).CallersWait where
  once _ := rfl
  unanswered _ _ := rfl

theorem CallersWait.step (waits : coordinator.CallersWait) (step : Step coordinator move next) :
    next.CallersWait := by
  rcases step.demands_cases with ⟨demands, answers, calls⟩ | ⟨reason, _, demands, answers, calls⟩ |
    ⟨reason, _, demands, answers, calls⟩ | ⟨demand, result, demands, answers, calls⟩
  · refine ⟨fun number => ?_, fun number later => ?_⟩
    · rw [demands, waits.once, calls, answer?_eq_of_answers answers]
    · rw [answer?_eq_of_answers answers]
      exact waits.unanswered number (calls ▸ later)
  · refine ⟨fun number => ?_, fun number later => ?_⟩
    · rw [demands, List.countP_append, waits.once, calls, answer?_eq_of_answers answers]
      by_cases new : number = coordinator.calls
      · simp [new, waits.unanswered _ (Nat.le_refl _)]
      · have older : number < coordinator.calls + 1 ↔ number < coordinator.calls := by omega
        simp [older, Ne.symm new]
    · rw [answer?_eq_of_answers answers]
      exact waits.unanswered number (by omega)
  · refine ⟨fun number => ?_, fun number later => ?_⟩
    · rw [demands, List.countP_append, waits.once, calls, answer?_eq_of_answers answers]
      simp
    · rw [answer?_eq_of_answers answers]
      exact waits.unanswered number (calls ▸ later)
  · have once : ∀ number, next.demands.countP (·.holder = .caller number) +
        (if demand.holder = .caller number then 1 else 0) =
          if number < coordinator.calls ∧ coordinator.answer? number = none then 1 else 0 := by
      intro number
      rw [← waits.once, demands, List.countP_cons]
      simp only [decide_eq_true_eq]
    refine ⟨fun number => ?_, fun number later => ?_⟩
    · have counted := once number
      rw [answer?_of_answersAfter answers, calls]
      by_cases served : demand.holder = .caller number
      · rw [if_pos served] at counted ⊢
        rw [if_neg fun waiting => Option.some_ne_none result (Option.or_eq_none_iff.mp waiting.2).2]
        split at counted <;> omega
      · rw [if_neg served] at counted ⊢
        rw [Option.or_none, ← counted, Nat.add_zero]
    · have counted := once number
      have uncalled : ¬(number < coordinator.calls ∧ coordinator.answer? number = none) :=
        fun waiting => Nat.not_lt_of_le (calls ▸ later) waiting.1
      have other : ¬demand.holder = .caller number := by
        intro served
        rw [if_neg uncalled, if_pos served] at counted
        omega
      rw [answer?_of_answersAfter answers, if_neg other, Option.or_none]
      exact waits.unanswered number (calls ▸ later)

theorem CallersWait.run (engine : Engine) (inventory : Inventory) (moves : List Move) :
    ((ofEngine engine inventory).run moves).CallersWait :=
  run_induction (.initial engine inventory) fun _ _ _ _ waits step => waits.step step

theorem CallersWait.answer?_eq_none (callers : coordinator.CallersWait) {demand : Demand}
    (member : demand ∈ coordinator.demands) {number : Nat}
    (caller : demand.holder = .caller number) : coordinator.answer? number = none := by
  have counted := callers.once number
  have waits : 0 < coordinator.demands.countP (·.holder = .caller number) :=
    List.countP_pos_iff.mpr ⟨demand, member, decide_eq_true caller⟩
  by_cases waiting : number < coordinator.calls ∧ coordinator.answer? number = none
  · exact waiting.2
  · rw [if_neg waiting] at counted
    omega

end

/-! ## From a call to its answer -/

section

variable {coordinator next : Coordinator} {move : Move} {number : Nat} {result : Result}

theorem Step.calls_le (step : Step coordinator move next) : coordinator.calls ≤ next.calls := by
  rcases step.demands_cases with ⟨_, _, same⟩ | ⟨_, _, _, _, more⟩ | ⟨_, _, _, _, same⟩ |
    ⟨_, _, _, _, same⟩ <;> omega

theorem Step.answer?_eq_some (step : Step coordinator move next)
    (answered : coordinator.answer? number = some result) :
    next.answer? number = some result := by
  rcases step.demands_cases with ⟨_, same, _⟩ | ⟨_, _, _, same, _⟩ | ⟨_, _, _, same, _⟩ |
    ⟨demand, told, _, same, _⟩
  · rw [answer?_eq_of_answers same, answered]
  · rw [answer?_eq_of_answers same, answered]
  · rw [answer?_eq_of_answers same, answered]
  · rw [answer?_of_answersAfter same, answered, Option.some_or]

/-- A call is answered when it is the caller's turn, by the outcome of the last
rebuild, or when the rebuild ends that has been run for the caller. -/
theorem Step.answer_cases (step : Step coordinator move next)
    (waiting : coordinator.answer? number = none) (answered : next.answer? number = some result) :
    (∃ demand finished, coordinator.running = none ∧ demand ∈ coordinator.demands ∧
      demand.holder = .caller number ∧ coordinator.finished = some finished ∧
      demand.ticket ≤ finished.covers ∧ finished.result = result ∧
      next.engine = coordinator.engine ∧ coordinator.KeepsBooks next) ∨
    (∃ demand covers outcome, coordinator.running = some ⟨demand, covers, .decided outcome⟩ ∧
      demand.holder = .caller number ∧ resultOf demand.reason outcome = result ∧
      next.running = none) := by
  have given : ∀ {holder : Holder} {told : Result},
      next.answers = coordinator.answersAfter holder told →
      holder = .caller number ∧ told = result := by
    intro holder told same
    rw [answer?_of_answersAfter same, waiting, Option.none_or] at answered
    rcases Option.ite_none_right_eq_some.mp answered with ⟨caller, same⟩
    exact ⟨caller, Option.some.inj same⟩
  cases step with
  | @satisfy demand line finished idle first ended covered =>
    rcases given rfl with ⟨caller, told⟩
    have member : demand ∈ coordinator.demands := by
      rw [demands_of_idle idle, first]
      exact List.mem_cons_self
    exact Or.inl ⟨demand, finished, idle, member, caller, ended, covered, told, rfl,
      rfl, rfl, rfl, rfl, rfl, rfl, rfl⟩
  | @finish demand covers outcome told decided same =>
    rcases given rfl with ⟨caller, rfl⟩
    exact Or.inr ⟨demand, covers, outcome, decided, caller, same.symm, rfl⟩
  | _ =>
    have impossible : none = some result := waiting.symm.trans answered
    cases impossible

end

section

variable (start : Coordinator) (moves : List Move) {number : Nat} {result : Result}

theorem answer?_later {earlier later : Nat} (ordered : earlier ≤ later)
    (answered : (start.after moves earlier).answer? number = some result) :
    (start.after moves later).answer? number = some result :=
  start.after_induction moves (motive := fun state => state.answer? number = some result)
    (fun step => step.answer?_eq_some) ordered answered

theorem exists_answeredAt {moment : Nat} (unasked : start.answers = [])
    (answered : (start.after moves moment).answer? number = some result) :
    ∃ returned, returned < moment ∧ start.AnsweredAt moves returned number result := by
  induction moment with
  | zero =>
    change start.answers.lookup number = _ at answered
    rw [unasked] at answered
    cases answered
  | succ moment inductionHypothesis =>
    cases before : (start.after moves moment).answer? number with
    | none => exact ⟨moment, Nat.lt_succ_self _, before, answered⟩
    | some earlier =>
      have same := answer?_later start moves (Nat.le_succ moment) before
      rw [answered] at same
      rw [← same] at before
      rcases inductionHypothesis before with ⟨returned, within, answeredAt⟩
      exact ⟨returned, Nat.lt_succ_of_lt within, answeredAt⟩

theorem calls_le_calls {earlier later : Nat} (ordered : earlier ≤ later) :
    (start.after moves earlier).calls ≤ (start.after moves later).calls :=
  start.after_induction moves
    (motive := fun state => (start.after moves earlier).calls ≤ state.calls)
    (fun step before => Nat.le_trans before step.calls_le) ordered (Nat.le_refl _)

/-- Whoever waits as a caller has called, and holds the ticket of that call. -/
theorem exists_callsAt {moment : Nat} (nobody : start.demands = []) {demand : Demand}
    (member : demand ∈ (start.after moves moment).demands)
    (caller : demand.holder = .caller number) :
    ∃ called, called < moment ∧ start.CallsAt moves called number ∧
      demand.ticket = (start.after moves called).requests.issued + 1 := by
  induction moment with
  | zero =>
    change demand ∈ start.demands at member
    rw [nobody] at member
    cases member
  | succ moment inductionHypothesis =>
    have earlier : demand ∈ (start.after moves moment).demands →
        ∃ called, called < moment + 1 ∧ start.CallsAt moves called number ∧
          demand.ticket = (start.after moves called).requests.issued + 1 := by
      intro waiting
      rcases inductionHypothesis waiting with ⟨called, before, found⟩
      exact ⟨called, Nat.lt_succ_of_lt before, found⟩
    rcases start.step_after moves moment with ⟨move, step, made⟩
    rcases step.demands_cases with ⟨same, _⟩ | ⟨reason, called, same, _⟩ | ⟨reason, _, same, _⟩ |
      ⟨gone, _, same, _⟩
    · exact earlier (same ▸ member)
    · rw [same] at member
      rcases List.mem_append.mp member with waiting | new
      · exact earlier waiting
      · have demanded := List.mem_singleton.mp new
        rw [demanded] at caller ⊢
        have asked := made.resolve_right fun ended => ended.2.2 reason called
        exact ⟨moment, Nat.lt_succ_self _, ⟨⟨reason, called ▸ asked⟩, Holder.caller.inj caller⟩,
          rfl⟩
    · rw [same] at member
      rcases List.mem_append.mp member with waiting | new
      · exact earlier waiting
      · rw [List.mem_singleton.mp new] at caller
        cases caller
    · exact earlier (same ▸ List.mem_cons_of_mem _ member)

end

section

variable {start : Coordinator} {moves : List Move} {called number : Nat} {episode : Episode}

theorem CallsAt.calls_succ (calls : start.CallsAt moves called number) :
    (start.after moves (called + 1)).calls = number + 1 := by
  rcases calls with ⟨⟨reason, made⟩, same⟩
  rw [after_succ start moves made, ← same]
  rfl

theorem CallsAt.unique {other : Nat} (calls : start.CallsAt moves called number)
    (callsAgain : start.CallsAt moves other number) : called = other := by
  refine eq_of_never_before (motive := fun moment => start.CallsAt moves moment number) ?_
    calls callsAgain
  intro one another calls callsAgain before
  have later := calls_le_calls start moves before
  rw [calls.calls_succ, callsAgain.2] at later
  exact Nat.lt_irrefl _ later

/-- Nothing but a ticket comes of a call at the moment at which it is made. -/
theorem CallsAt.isQuietAt (calls : start.CallsAt moves called number) :
    start.IsQuietAt moves called := by
  rcases calls.1 with ⟨reason, made⟩
  rw [IsQuietAt, after_succ start moves made]
  exact ⟨rfl, rfl, rfl⟩

/-- When a rebuild has ended, the caller for whom it was run is answered. -/
theorem Ran.answer?_ne_none (ran : start.Ran moves episode)
    (caller : episode.demand.holder = .caller number) :
    (start.after moves (episode.ended + 1)).answer? number ≠ none := by
  rw [ran.finish, answer?_of_answersAfter
    (congrArg Coordinator.answers (finish_of_decided ran.decided)), if_pos caller]
  intro unanswered
  exact Option.some_ne_none _ (Option.or_eq_none_iff.mp unanswered).2

end

section

variable {engine : Engine} {inventory : Inventory} {moves : List Move} {number : Nat}
  {result : Result}

/-- While a call is unanswered and no rebuild is in progress, none has been run
for it. -/
theorem holder_ne_of_unanswered {earlier moment : Nat} {rebuild : Running}
    (idle : ((ofEngine engine inventory).after moves moment).running = none)
    (waiting : ((ofEngine engine inventory).after moves moment).answer? number = none)
    (ordered : earlier ≤ moment)
    (running : ((ofEngine engine inventory).after moves earlier).running = some rebuild) :
    rebuild.demand.holder ≠ .caller number := by
  intro caller
  rcases exists_isUnderWay rfl running with ⟨began, underWay⟩
  rcases underWay.later ordered with still | ⟨ended, outcome, _, before, ran⟩
  · rcases still.inProgress moment still.began_lt (Nat.le_refl _) with ⟨progress, inProgress⟩
    rw [idle] at inProgress
    cases inProgress
  · rcases Option.ne_none_iff_exists'.mp (ran.answer?_ne_none caller) with ⟨result, answered⟩
    rw [answer?_later _ _ before answered] at waiting
    cases waiting

/-- Whoever is answered is told of an episode that has begun since the call.  It
was run for them, or it had ended before. -/
theorem exists_ran_of_answeredAt {returned : Nat}
    (answered : (ofEngine engine inventory).AnsweredAt moves returned number result) :
    ∃ called episode, (ofEngine engine inventory).CallsAt moves called number ∧
      (ofEngine engine inventory).Ran moves episode ∧ episode.result = result ∧
      called < episode.began ∧
      (episode.demand.holder = .caller number ∧ episode.ended = returned ∨
        episode.ended < returned ∧
          ((ofEngine engine inventory).after moves returned).running = none ∧
          (ofEngine engine inventory).IsQuietAt moves returned) := by
  rcases (ofEngine engine inventory).step_after moves returned with ⟨move, step, _⟩
  rcases step.answer_cases answered.1 answered.2 with
    ⟨demand, finished, idle, member, caller, left, covered, told, same, kept⟩ |
    ⟨demand, covers, outcome, decided, caller, told, gone⟩
  · rcases exists_callsAt _ moves rfl member caller with ⟨called, _, calls, ticket⟩
    rcases exists_ran_of_finished rfl rfl left with ⟨episode, ran, ended, rfl⟩
    refine ⟨called, episode, calls, ran, told, Nat.lt_of_not_le fun later => ?_,
      Or.inr ⟨ended, idle, kept.reads, kept.events, same⟩⟩
    have taken := issued_le_issued (ofEngine engine inventory) moves later
    rw [← ran.covers_eq] at taken
    exact absurd (Nat.le_trans covered taken) (Nat.not_le_of_lt (ticket ▸ Nat.lt_succ_self _))
  · rcases exists_ran_of_decided rfl decided gone with ⟨began, ran⟩
    have member : demand ∈ ((ofEngine engine inventory).after moves began).demands := by
      rw [demands_of_idle ran.idle]
      exact List.mem_of_mem_head? ran.first
    rcases exists_callsAt _ moves rfl member caller with ⟨called, before, calls, _⟩
    exact ⟨called, _, calls, ran, told, before, Or.inl ⟨caller, rfl⟩⟩

/-- An episode that succeeds ends with the publication of its snapshot. -/
theorem Ran.publishesAt {episode : Episode}
    (ran : (ofEngine engine inventory).Ran moves episode) {summary : Summary}
    (succeeded : episode.result = .ok summary) :
    ∃ snapshot, (ofEngine engine inventory).PublishesAt moves episode.ended snapshot ∧
      snapshot.version = summary.graphVersion := by
  have decided := ran.decided
  rw [Episode.result] at succeeded
  rcases outcome : episode.outcome with fault | ⟨snapshot, warmed⟩
  · rw [outcome] at succeeded
    cases succeeded
  · rw [outcome] at succeeded decided
    have foreseen : ((ofEngine engine inventory).after moves episode.ended).Foreseen :=
      .run engine inventory _
    refine ⟨snapshot, ⟨?_, foreseen.version _ _ _ _ decided⟩,
      congrArg Summary.graphVersion (Except.ok.inj succeeded)⟩
    rw [ran.finish, finish_of_decided decided]
    rfl

end

/-- Whatever has happened before and in between, and whether it brings a success or
a failure: whoever is answered is given the outcome of a single rebuild, which has
begun after the call and has ended before the answer.  The version in a success is
that of the snapshot which this rebuild has published.  If the rebuild was not run
for the caller, none has been, and neither the call nor the answer lets a read of
the inventory begin, tells observers anything or changes the engine. -/
theorem answered_by_one_later_rebuild (engine : Engine) (inventory : Inventory)
    (moves : List Move) {called number : Nat} {result : Result}
    (calls : (ofEngine engine inventory).CallsAt moves called number)
    (answered : ((ofEngine engine inventory).run moves).answer? number = some result) :
    let start := ofEngine engine inventory
    ∃ returned episode, returned < moves.length ∧
      start.AnsweredAt moves returned number result ∧
      start.Ran moves episode ∧ episode.result = result ∧
      called < episode.began ∧ episode.ended ≤ returned ∧
      (∀ summary, result = .ok summary → ∃ snapshot,
        start.PublishesAt moves episode.ended snapshot ∧
          snapshot.version = summary.graphVersion) ∧
      (episode.demand.holder = .caller number ∧ episode.ended = returned ∨
        episode.ended < returned ∧ start.IsQuietAt moves called ∧
          start.IsQuietAt moves returned ∧
          ∀ moment rebuild, (start.after moves moment).running = some rebuild →
            rebuild.demand.holder ≠ .caller number) := by
  intro start
  rw [← after_length] at answered
  rcases exists_answeredAt start moves rfl answered with ⟨returned, within, answeredAt⟩
  rcases exists_ran_of_answeredAt answeredAt with
    ⟨asked, episode, asks, ran, told, since, served⟩
  cases asks.unique calls
  have published : ∀ summary, result = .ok summary → ∃ snapshot,
      start.PublishesAt moves episode.ended snapshot ∧ snapshot.version = summary.graphVersion :=
    fun summary succeeded => ran.publishesAt (told.trans succeeded)
  refine ⟨returned, episode, within, answeredAt, ran, told, since, ?_, published, ?_⟩
  · rcases served with ⟨_, same⟩ | ⟨before, _⟩
    · exact Nat.le_of_eq same
    · exact Nat.le_of_lt before
  · rcases served with own | ⟨before, idle, quiet⟩
    · exact Or.inl own
    · refine Or.inr ⟨before, calls.isQuietAt, quiet, fun moment rebuild running caller => ?_⟩
      rcases Nat.le_total moment returned with earlier | later
      · exact holder_ne_of_unanswered idle answeredAt.1 earlier running caller
      · have waits : (start.after moves moment).CallersWait := .run engine inventory _
        have waiting := waits.answer?_eq_none
          (by rw [demands_of_running running]; exact List.mem_cons_self) caller
        rcases Nat.lt_or_eq_of_le later with after | rfl
        · rw [answer?_later start moves after answeredAt.2] at waiting
          cases waiting
        · rw [idle] at running
          cases running

/-- A rebuild is in progress when two more callers ask for one.  It fails, and so
does the next one, which they share. -/
private def sharedFailure : List Move :=
  [.call .manual, .serveFirst, .call .manual, .call .manual, .endRead .timedOut, .finish,
    .serveFirst, .endRead .timedOut, .finish, .serveFirst]

theorem shared_failure_answered_by_later_rebuild :
    (ofEngine warmEngine (.memory {})).CallsAt sharedFailure 3 2 ∧
      ∃ episode, (ofEngine warmEngine (.memory {})).Ran sharedFailure episode ∧
        episode.result = .error (.timedOut warmEngine.config.inventoryTimeoutMillis) ∧
        3 < episode.began := by
  have calls : (ofEngine warmEngine (.memory {})).CallsAt sharedFailure 3 2 :=
    ⟨⟨.manual, rfl⟩, rfl⟩
  have answered : ((ofEngine warmEngine (.memory {})).run sharedFailure).answer? 2 =
      some (.error (.timedOut warmEngine.config.inventoryTimeoutMillis)) := rfl
  rcases answered_by_one_later_rebuild warmEngine (.memory {}) sharedFailure calls answered with
    ⟨_, episode, _, _, ran, told, since, _⟩
  exact ⟨calls, episode, ran, told, since⟩

end Coordinator
end Rebuild
end Itineraries
