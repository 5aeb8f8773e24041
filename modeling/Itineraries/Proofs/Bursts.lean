import Mathlib.Tactic.IntervalCases
import Itineraries.Proofs.Callers

namespace Itineraries
namespace Rebuild
namespace Coordinator

/-!
# Bursts collapse into one rebuild

The queue, the line and the loop each hold claims to a rebuild, and it depends on
the order of events who is served when.  How many rebuilds there are does not
depend on it.  A rebuild only begins for a ticket that has been taken since the
previous one began, and it covers every ticket taken by then.  So whatever is
asked for while a rebuild is in progress leads to one more and no other, whoever
it is run for.
-/

/-- Whatever is asked for after a rebuild has begun is asked for while this rebuild
is in progress. -/
def IsBurst (start : Coordinator) (moves : List Move) (began : Nat) : Prop :=
  ∀ asked, began < asked → start.AcceptsAt moves asked →
    ∀ between, began < between → between ≤ asked →
      (start.after moves between).state = .rebuilding

section

variable {coordinator next : Coordinator} {move : Move}

/-! ## What tickets tell -/

/-- Nobody holds a ticket that has not been taken.  The rebuild in progress is the
latest one that has begun; while none is in progress, that is the last one that has
ended. -/
structure Ticketed (coordinator : Coordinator) : Prop extends Accounted coordinator where
  ticket_le : ∀ demand ∈ coordinator.demands, demand.ticket ≤ coordinator.requests.issued
  ticket_pos : ∀ demand ∈ coordinator.demands, 0 < demand.ticket
  signal_pos : coordinator.requests.signal.isSome = true → 0 < coordinator.requests.issued
  latest : ∀ rebuild, coordinator.running = some rebuild → rebuild.covers = coordinator.begun
  settled : coordinator.running = none →
    coordinator.begun = coordinator.finished.elim 0 Finished.covers

theorem Step.issued_of_call {reason : Reason} (step : Step coordinator (.call reason) next) :
    next.requests.issued = coordinator.requests.issued + 1 := by
  cases step with
  | stay silent | change silent => exact absurd rfl (silent.2 reason)
  | ask _ asks => cases asks
  | call => rfl

/-- A signal in the queue has been there before or has come with a ticket. -/
theorem Step.signal_cases (step : Step coordinator move next)
    (queued : next.requests.signal.isSome = true) :
    coordinator.requests.signal.isSome = true ∨ 0 < next.requests.issued := by
  have asked : ∀ reason,
      next.requests = (coordinator.requests.request coordinator.state reason).2 →
      coordinator.requests.signal.isSome = true ∨ 0 < next.requests.issued := by
    intro reason same
    rw [same] at queued ⊢
    by_cases isOpen : coordinator.requests.isOpen = true
    · rcases Requests.request_of_isOpen isOpen coordinator.state reason with
        ⟨_, _, _, _, request⟩
      rw [request]
      exact Or.inr (Nat.succ_pos _)
    · rw [Requests.request_of_closed (Bool.eq_false_iff.mpr isOpen)] at queued
      exact Or.inl queued
  cases step with
  | start | ask => exact asked _ rfl
  | take => cases queued
  | _ => exact Or.inl queued

namespace Ticketed

theorem initial (engine : Engine) (inventory : Inventory) :
    (ofEngine engine inventory).Ticketed where
  toAccounted := .initial engine inventory
  ticket_le := List.forall_mem_nil _
  ticket_pos := List.forall_mem_nil _
  signal_pos := nofun
  latest := nofun
  settled _ := rfl

/-- Whoever waits after a step has waited before or holds a ticket taken by then. -/
theorem ticket_of_step (ticketed : coordinator.Ticketed) (step : Step coordinator move next)
    {demand : Demand} (member : demand ∈ next.demands) :
    0 < demand.ticket ∧ demand.ticket ≤ next.requests.issued := by
  have older : ∀ {other}, other ∈ coordinator.demands →
      0 < other.ticket ∧ other.ticket ≤ next.requests.issued := fun waiting =>
    ⟨ticketed.ticket_pos _ waiting, Nat.le_trans (ticketed.ticket_le _ waiting) step.issued_le⟩
  rcases step.demands_cases with ⟨same, _⟩ | ⟨reason, rfl, same, _⟩ | ⟨reason, queued, same, _⟩ |
    ⟨gone, result, same, _⟩
  · exact older (same ▸ member)
  · rw [same] at member
    rcases List.mem_append.mp member with waiting | new
    · exact older waiting
    · rw [List.mem_singleton.mp new, step.issued_of_call]
      exact ⟨Nat.succ_pos _, Nat.le_refl _⟩
  · rw [same] at member
    rcases List.mem_append.mp member with waiting | new
    · exact older waiting
    · rw [List.mem_singleton.mp new]
      exact ⟨ticketed.signal_pos (by rw [queued]; rfl), step.issued_le⟩
  · exact older (same ▸ List.mem_cons_of_mem _ member)

theorem step (ticketed : coordinator.Ticketed) (step : Step coordinator move next) :
    next.Ticketed where
  toAccounted := ticketed.toAccounted.step step
  ticket_le _ member := (ticketed.ticket_of_step step member).2
  ticket_pos _ member := (ticketed.ticket_of_step step member).1
  signal_pos queued := by
    rcases step.signal_cases queued with before | new
    · exact Nat.lt_of_lt_of_le (ticketed.signal_pos before) step.issued_le
    · exact new
  latest rebuild running := by
    cases before : coordinator.running with
    | none =>
      rcases step.begins before running with ⟨line, _, same, _, begun, _⟩
      rw [same, begun]
      exact (Nat.max_eq_right ticketed.begun_le).symm
    | some earlier =>
      rcases step.goesOn before (by rw [running]; nofun) with ⟨⟨progress, same⟩, kept⟩
      rw [← Option.some.inj (same.symm.trans running), kept.begun]
      exact ticketed.latest earlier before
  settled idle := by
    cases before : coordinator.running with
    | none =>
      have kept := step.staysIdle before idle
      rw [kept.begun, kept.finished]
      exact ticketed.settled before
    | some rebuild =>
      rcases rebuild with ⟨demand, covers, progress⟩
      rcases step.ends before idle with ⟨outcome, rfl, ended⟩
      rw [ended, finish_of_decided before]
      exact (ticketed.latest _ before).symm

theorem run (engine : Engine) (inventory : Inventory) (moves : List Move) :
    ((ofEngine engine inventory).run moves).Ticketed :=
  run_induction (.initial engine inventory) fun _ _ _ _ ticketed step => ticketed.step step

end Ticketed

theorem Ticketed.pending_of_beginsInto (ticketed : coordinator.Ticketed)
    (step : Step coordinator move next) (begins : coordinator.BeginsInto next) :
    coordinator.pending = true := by
  have idle := state_eq_idle_iff.mp begins.1
  rcases state_eq_rebuilding_iff.mp begins.2 with ⟨rebuild, running⟩
  rcases step.begins idle running with ⟨line, first, _, uncovered, _⟩
  have member : rebuild.demand ∈ coordinator.demands := by
    rw [demands_of_idle idle, first]
    exact List.mem_cons_self
  have taken := ticketed.ticket_le _ member
  apply decide_eq_true
  rw [ticketed.settled idle]
  cases left : coordinator.finished with
  | none => exact Nat.lt_of_lt_of_le (ticketed.ticket_pos _ member) taken
  | some finished => exact Nat.lt_of_lt_of_le (uncovered finished left) taken

theorem Step.begun_le (step : Step coordinator move next) : coordinator.begun ≤ next.begun := by
  rcases step.rebuild_cases with ⟨_, kept⟩ | ⟨_, _, _, _, _, rfl⟩ | ⟨_, _, _, _, rfl⟩ |
    ⟨_, _, _, decided, rfl⟩
  · exact Nat.le_of_eq kept.begun.symm
  · exact Nat.le_max_left _ _
  · exact Nat.le_refl _
  · apply Nat.le_of_eq
    rw [finish_of_decided decided]

/-- A read of the inventory begins with each rebuild and at no other moment. -/
theorem Step.reads_cases (step : Step coordinator move next) :
    ¬coordinator.BeginsInto next ∧ next.reads = coordinator.reads ∨
      coordinator.BeginsInto next ∧ next.reads = coordinator.reads + 1 := by
  rcases step.rebuild_cases with ⟨same, kept⟩ | ⟨_, _, idle, _, _, rfl⟩ |
    ⟨_, _, _, reading, rfl⟩ | ⟨_, _, _, decided, rfl⟩
  · exact Or.inl ⟨not_beginsInto_of_running_eq same, kept.reads⟩
  · exact Or.inr ⟨⟨state_eq_idle_iff.mpr idle, rfl⟩, rfl⟩
  · refine Or.inl ⟨fun begins => ?_, rfl⟩
    rw [state_eq_idle_iff.mp begins.1] at reading
    cases reading
  · refine Or.inl ⟨fun begins => ?_, by rw [finish_of_decided decided]⟩
    rw [state_eq_idle_iff.mp begins.1] at decided
    cases decided

end

/-! ## When rebuilds begin -/

section

variable {engine : Engine} {inventory : Inventory} {moves : List Move}

theorem pending_succ_iff (moment : Nat) :
    ((ofEngine engine inventory).after moves (moment + 1)).pending = true ↔
      (ofEngine engine inventory).AcceptsAt moves moment ∨
        ((ofEngine engine inventory).after moves moment).pending = true ∧
          ¬(ofEngine engine inventory).BeginsAt moves moment := by
  rcases (ofEngine engine inventory).step_after moves moment with ⟨move, step, made⟩
  have accounted := Accounted.run engine inventory (moves.take moment)
  rw [step.pending_iff accounted.begun_le, AcceptsAt, BeginsAt]
  rcases made with made | ⟨none, silent⟩
  · simp only [made, Option.some.injEq, exists_eq_left']
  · simp only [none, silent.not_accepts, reduceCtorEq, false_and, exists_false]

theorem BeginsAt.not_acceptsAt {start : Coordinator} {moment : Nat}
    (begins : start.BeginsAt moves moment) : ¬start.AcceptsAt moves moment := by
  rintro ⟨move, made, accepted⟩
  rw [BeginsAt, after_succ start moves made] at begins
  exact (step_apply _ move).not_accepts_of_beginsInto begins accepted

/-- What is pending has been asked for since the latest rebuild began. -/
theorem exists_acceptsAt_of_pending {moment : Nat}
    (pending : ((ofEngine engine inventory).after moves moment).pending = true) :
    ∃ asked, asked < moment ∧ (ofEngine engine inventory).AcceptsAt moves asked ∧
      ∀ earlier, earlier < moment → (ofEngine engine inventory).BeginsAt moves earlier →
        earlier < asked := by
  induction moment with
  | zero => cases pending
  | succ moment inductionHypothesis =>
    rcases (pending_succ_iff moment).mp pending with accepted | ⟨before, unbegun⟩
    · refine ⟨moment, Nat.lt_succ_self _, accepted, fun earlier within begins => ?_⟩
      rcases Nat.lt_or_eq_of_le (Nat.le_of_lt_succ within) with before | rfl
      · exact before
      · exact absurd accepted begins.not_acceptsAt
    · rcases inductionHypothesis before with ⟨asked, within, accepted, since⟩
      refine ⟨asked, Nat.lt_succ_of_lt within, accepted, fun earlier before begins => ?_⟩
      rcases Nat.lt_or_eq_of_le (Nat.le_of_lt_succ before) with before | rfl
      · exact since earlier before begins
      · exact absurd begins unbegun

/-- What has been asked for is pending until a rebuild begins. -/
theorem exists_beginsAt_of_acceptsAt {asked later : Nat} (ordered : asked < later)
    (accepted : (ofEngine engine inventory).AcceptsAt moves asked)
    (covered : ((ofEngine engine inventory).after moves later).pending = false) :
    ∃ begun, asked < begun ∧ begun < later ∧
      (ofEngine engine inventory).BeginsAt moves begun := by
  induction ordered with
  | refl =>
    rw [(pending_succ_iff asked).mpr (Or.inl accepted)] at covered
    cases covered
  | @step later after inductionHypothesis =>
    by_cases begins : (ofEngine engine inventory).BeginsAt moves later
    · exact ⟨later, after, Nat.lt_succ_self _, begins⟩
    · cases before : ((ofEngine engine inventory).after moves later).pending with
      | true =>
        rw [(pending_succ_iff later).mpr (Or.inr ⟨before, begins⟩)] at covered
        cases covered
      | false =>
        rcases inductionHypothesis before with ⟨begun, since, within, begins⟩
        exact ⟨begun, since, Nat.lt_succ_of_lt within, begins⟩

end

section

variable (engine : Engine) (inventory : Inventory) (moves : List Move)

/-- A rebuild begins only if somebody has asked since the previous one began. -/
theorem asked_before_beginsAt {later : Nat}
    (begins : (ofEngine engine inventory).BeginsAt moves later) :
    ∃ asked, asked < later ∧ (ofEngine engine inventory).AcceptsAt moves asked ∧
      ∀ earlier, earlier < later → (ofEngine engine inventory).BeginsAt moves earlier →
        earlier < asked := by
  rcases (ofEngine engine inventory).step_after moves later with ⟨move, step, _⟩
  have ticketed := Ticketed.run engine inventory (moves.take later)
  exact exists_acceptsAt_of_pending (ticketed.pending_of_beginsInto step begins)

/-- When a rebuild begins, the one before has ended, and that has covered fewer
tickets. -/
theorem ran_before_beginsAt {earlier later : Nat} {rebuild : Running} (ordered : earlier < later)
    (begins : (ofEngine engine inventory).BeginsAt moves earlier)
    (beginsAgain : (ofEngine engine inventory).BeginsAt moves later)
    (running : ((ofEngine engine inventory).after moves (later + 1)).running = some rebuild) :
    ∃ episode, (ofEngine engine inventory).Ran moves episode ∧ episode.began = earlier ∧
      episode.ended < later ∧ episode.covers < rebuild.covers := by
  rcases IsUnderWay.of_beginsAt begins with ⟨demand, underWay⟩
  rcases beginsAt_iff.mp beginsAgain with ⟨idle, _⟩
  rcases underWay.later ordered with still | ⟨ended, outcome, _, before, ran⟩
  · rcases still.inProgress later ordered (Nat.le_refl _) with ⟨progress, inProgress⟩
    rw [idle] at inProgress
    cases inProgress
  · refine ⟨_, ran, rfl, before, ?_⟩
    rcases (ofEngine engine inventory).step_after moves later with ⟨move, step, _⟩
    rcases step.begins idle running with ⟨_, _, same, _⟩
    have ticketed := Ticketed.run engine inventory (moves.take later)
    have pending := of_decide_eq_true (ticketed.pending_of_beginsInto step beginsAgain)
    have covered := (Ticketed.run engine inventory (moves.take ended)).running_le _ ran.decided
    have kept := (ofEngine engine inventory).after_induction moves
      (motive := fun state => ((ofEngine engine inventory).after moves ended).begun ≤ state.begun)
      (fun step before => Nat.le_trans before step.begun_le) (Nat.le_of_lt before)
      (Nat.le_refl _)
    rw [same]
    exact Nat.lt_of_le_of_lt (Nat.le_trans covered kept) pending

end

/-! ## How many rebuilds there are -/

section

variable {start : Coordinator} {moves : List Move} {earlier later : Nat}

theorem reads_eq_of_not_beginsAt (ordered : earlier ≤ later)
    (unbegun : ∀ moment, earlier ≤ moment → moment < later → ¬start.BeginsAt moves moment) :
    (start.after moves later).reads = (start.after moves earlier).reads := by
  induction ordered with
  | refl => rfl
  | @step later after inductionHypothesis =>
    rcases start.step_after moves later with ⟨move, step, _⟩
    rcases step.reads_cases with ⟨_, same⟩ | ⟨begins, _⟩
    · rw [same]
      exact inductionHypothesis fun moment since before =>
        unbegun moment since (Nat.lt_succ_of_lt before)
    · exact absurd begins (unbegun later after (Nat.lt_succ_self _))

theorem reads_eq_succ_of_beginsAt {followUp : Nat} (since : earlier ≤ followUp)
    (within : followUp < later) (begins : start.BeginsAt moves followUp)
    (only : ∀ moment, earlier ≤ moment → start.BeginsAt moves moment → moment = followUp) :
    (start.after moves later).reads = (start.after moves earlier).reads + 1 := by
  have before : (start.after moves followUp).reads = (start.after moves earlier).reads :=
    reads_eq_of_not_beginsAt since fun moment after early begun =>
      Nat.ne_of_lt early (only moment after begun)
  have after : (start.after moves later).reads = (start.after moves (followUp + 1)).reads :=
    reads_eq_of_not_beginsAt within fun moment late _ begun =>
      Nat.ne_of_gt late (only moment (Nat.le_trans since (Nat.le_of_lt late)) begun)
  rcases start.step_after moves followUp with ⟨move, step, _⟩
  rcases step.reads_cases with ⟨unbegun, _⟩ | ⟨_, more⟩
  · exact absurd begins unbegun
  · rw [after, more, before]

end

/-! ## Bursts -/

section

variable {engine : Engine} {inventory : Inventory} {moves : List Move} {began : Nat}

theorem BeginsAt.lt_length {start : Coordinator} (begins : start.BeginsAt moves began) :
    began < moves.length := by
  apply Nat.lt_of_not_le
  intro beyond
  rw [BeginsAt, after_succ_of_none _ _ (List.getElem?_eq_none beyond)] at begins
  have impossible := begins.1.symm.trans begins.2
  cases impossible

theorem AcceptsAt.lt_length {start : Coordinator} {asked : Nat}
    (accepted : start.AcceptsAt moves asked) : asked < moves.length := by
  rcases accepted with ⟨move, made, _⟩
  exact (List.getElem?_eq_some_iff.mp made).1

/-- After a burst a second rebuild would have to be asked for while the first is
not in progress any more. -/
theorem IsBurst.eq_of_beginsAt (burst : (ofEngine engine inventory).IsBurst moves began)
    {first second : Nat} (after : began < first) (afterwards : began < second)
    (begins : (ofEngine engine inventory).BeginsAt moves first)
    (beginsAgain : (ofEngine engine inventory).BeginsAt moves second) : first = second := by
  refine eq_of_never_before (motive := fun moment => began < moment ∧
    (ofEngine engine inventory).BeginsAt moves moment) ?_ ⟨after, begins⟩ ⟨afterwards, beginsAgain⟩
  rintro one another ⟨later, begins⟩ ⟨_, beginsAgain⟩ ordered
  rcases asked_before_beginsAt engine inventory moves beginsAgain with ⟨asked, _, accepted, since⟩
  have between := since one ordered begins
  have inProgress := burst asked (Nat.lt_trans later between) accepted one later
    (Nat.le_of_lt between)
  rw [begins.1] at inProgress
  cases inProgress

theorem IsBurst.reads_le (burst : (ofEngine engine inventory).IsBurst moves began)
    (begins : (ofEngine engine inventory).BeginsAt moves began) :
    ((ofEngine engine inventory).run moves).reads ≤
      ((ofEngine engine inventory).after moves (began + 1)).reads + 1 := by
  rw [← after_length]
  by_cases more : ∃ followUp, began < followUp ∧
      (ofEngine engine inventory).BeginsAt moves followUp
  · rcases more with ⟨followUp, after, beginsAgain⟩
    apply Nat.le_of_eq
    exact reads_eq_succ_of_beginsAt after beginsAgain.lt_length beginsAgain
      fun moment later begun => burst.eq_of_beginsAt later after begun beginsAgain
  · apply Nat.le_succ_of_le
    apply Nat.le_of_eq
    exact reads_eq_of_not_beginsAt begins.lt_length
      fun moment later _ begun => more ⟨moment, later, begun⟩

/-- Once nobody can do anything any more, all callers have been answered. -/
theorem exists_answer_of_atStandstill {called number : Nat}
    (calls : (ofEngine engine inventory).CallsAt moves called number)
    (still : ((ofEngine engine inventory).run moves).AtStandstill)
    (noRead : ¬((ofEngine engine inventory).run moves).IsReading) :
    ∃ result, ((ofEngine engine inventory).run moves).answer? number = some result := by
  have counted := (CallersWait.run engine inventory moves).once number
  rw [still.demands_eq_nil noRead] at counted
  have taken := calls_le_calls (ofEngine engine inventory) moves calls.acceptsAt.lt_length
  rw [calls.calls_succ, after_length] at taken
  apply Option.ne_none_iff_exists'.mp
  intro unanswered
  rw [if_pos ⟨taken, unanswered⟩] at counted
  cases counted

/-- What is asked for in a burst leads to a rebuild, and all callers of the burst
are told of it. -/
theorem IsBurst.exists_followUp (burst : (ofEngine engine inventory).IsBurst moves began)
    {asked : Nat} (since : began < asked)
    (accepted : (ofEngine engine inventory).AcceptsAt moves asked)
    (listening : ((ofEngine engine inventory).run moves).isListening = true)
    (still : ((ofEngine engine inventory).run moves).AtStandstill)
    (noRead : ¬((ofEngine engine inventory).run moves).IsReading) :
    ∃ episode, (ofEngine engine inventory).Ran moves episode ∧ began < episode.began ∧
      episode.ended < moves.length ∧
      ((ofEngine engine inventory).run moves).reads =
        ((ofEngine engine inventory).after moves (began + 1)).reads + 1 ∧
      ∀ called number, began < called →
        (ofEngine engine inventory).CallsAt moves called number →
          ((ofEngine engine inventory).run moves).answer? number = some episode.result := by
  have covered := (Accounted.run engine inventory moves).pending_eq_false listening still noRead
  rw [← after_length] at covered
  rcases exists_beginsAt_of_acceptsAt accepted.lt_length accepted covered with
    ⟨followUp, later, early, begins⟩
  have after : began < followUp := Nat.lt_trans since later
  rcases IsUnderWay.of_beginsAt begins with ⟨demand, underWay⟩
  rcases underWay.later early with unfinished | ⟨ended, outcome, _, inTime, ran⟩
  · rcases unfinished.inProgress moves.length early (Nat.le_refl _) with ⟨progress, running⟩
    rw [after_length, still.running_eq_none noRead] at running
    cases running
  · refine ⟨_, ran, after, inTime, ?_, ?_⟩
    · rw [← after_length]
      exact reads_eq_succ_of_beginsAt after early begins
        fun moment later begun => burst.eq_of_beginsAt later after begun begins
    · intro called number joined calls
      rcases exists_answer_of_atStandstill calls still noRead with ⟨result, answered⟩
      rw [answered]
      rw [← after_length] at answered
      rcases exists_answeredAt _ moves rfl answered with ⟨returned, _, answeredAt⟩
      rcases exists_ran_of_answeredAt answeredAt with
        ⟨other, episode, callsToo, ranToo, told, before, _⟩
      cases callsToo.unique calls
      have same := burst.eq_of_beginsAt (Nat.lt_trans joined before) after
        ranToo.toIsUnderWay.beginsAt begins
      rw [← told, ranToo.eq_of_began_eq ran same]

end

/-- Whatever happens, two rebuilds are never in progress at once: when one begins,
the one before has ended, and it has covered fewer tickets.  A rebuild begins only
if somebody has asked for one since the previous one began.  If all requests after
the beginning of a rebuild are made while it is in progress, then at most one more
begins.  If there are any such requests, then exactly one more has been run as soon
as nobody can do anything any more, with the loop listening and no read going on,
and all who have called among them are told of this one. -/
theorem burst_leads_to_one_rebuild (engine : Engine) (inventory : Inventory)
    (moves : List Move) :
    let start := ofEngine engine inventory
    let reached := start.run moves
    (∀ earlier later rebuild, earlier < later → start.BeginsAt moves earlier →
      start.BeginsAt moves later → (start.after moves (later + 1)).running = some rebuild →
        ∃ episode, start.Ran moves episode ∧ episode.began = earlier ∧
          episode.ended < later ∧ episode.covers < rebuild.covers) ∧
    (∀ later, start.BeginsAt moves later →
      ∃ asked, asked < later ∧ start.AcceptsAt moves asked ∧
        ∀ earlier, earlier < later → start.BeginsAt moves earlier → earlier < asked) ∧
    ∀ began, start.BeginsAt moves began → start.IsBurst moves began →
      (∀ first second, began < first → began < second → start.BeginsAt moves first →
        start.BeginsAt moves second → first = second) ∧
      reached.reads ≤ (start.after moves (began + 1)).reads + 1 ∧
      ∀ asked, began < asked → start.AcceptsAt moves asked →
        reached.isListening = true → reached.AtStandstill → ¬reached.IsReading →
          ∃ episode, start.Ran moves episode ∧ began < episode.began ∧
            episode.ended < moves.length ∧
            reached.reads = (start.after moves (began + 1)).reads + 1 ∧
            ∀ called number, began < called → start.CallsAt moves called number →
              reached.answer? number = some episode.result := by
  intro start reached
  refine ⟨?_, ?_, ?_⟩
  · intro earlier later rebuild ordered begins beginsAgain running
    exact ran_before_beginsAt engine inventory moves ordered begins beginsAgain running
  · intro later begins
    exact asked_before_beginsAt engine inventory moves begins
  · intro began begins burst
    refine ⟨?_, burst.reads_le begins, ?_⟩
    · intro first second after afterwards
      exact burst.eq_of_beginsAt after afterwards
    · intro asked since accepted listening still noRead
      exact burst.exists_followUp since accepted listening still noRead

/-- While the first rebuild is in progress, the clock strikes, somebody calls and
somebody asks.  The next rebuild is run for the caller and covers the signal. -/
private def burst : List Move :=
  [.start, .take, .serveFirst, .tick, .call .manual, .request .manual, .endRead .timedOut,
    .finish, .serveFirst, .endRead .timedOut, .finish, .take, .serveFirst]

theorem burst_of_three_leads_to_one_rebuild :
    ∃ episode, (ofEngine warmEngine (.memory {})).Ran burst episode ∧ 2 < episode.began ∧
      ((ofEngine warmEngine (.memory {})).run burst).reads = 2 ∧
      ((ofEngine warmEngine (.memory {})).run burst).answer? 0 = some episode.result := by
  have begins : (ofEngine warmEngine (.memory {})).BeginsAt burst 2 := ⟨rfl, rfl⟩
  have joined : (ofEngine warmEngine (.memory {})).IsBurst burst 2 := by
    intro asked since accepted between after within
    have early : asked < 6 := by
      have finite := accepted.lt_length
      rcases accepted with ⟨move, made, accepted⟩
      apply Nat.lt_of_not_le
      intro late
      change asked < 13 at finite
      interval_cases asked <;> cases made <;>
        exact absurd accepted (IsSilent.not_accepts ⟨rfl, nofun⟩)
    have inTime : between < 6 := Nat.lt_of_le_of_lt within early
    interval_cases between <;> rfl
  have calls : (ofEngine warmEngine (.memory {})).CallsAt burst 4 0 := ⟨⟨.manual, rfl⟩, rfl⟩
  have collapse := (burst_leads_to_one_rebuild warmEngine (.memory {}) burst).2.2 2 begins joined
  have noRead : ¬((ofEngine warmEngine (.memory {})).run burst).IsReading := by
    rintro ⟨demand, covers, reading⟩
    cases reading
  rcases collapse.2.2 4 (by decide) calls.acceptsAt rfl ⟨rfl, rfl, rfl, rfl⟩ noRead with
    ⟨episode, ran, later, _, reads, told⟩
  exact ⟨episode, ran, later, reads, told 4 0 (by decide) calls⟩

end Coordinator
end Rebuild
end Itineraries
