import TicketSandbox.Frontend.NotificationController
import TicketSandbox.Library.Traces

namespace TicketSandbox.Frontend

/-!
# Runs of the notification controller

What holds in every state that is reached by calls, timers and answers in any
order, when the answers are fair.
-/

open Runs (Run anything)
open Traces (Each Newest each_concat each_nil newest_concat)

/-! ## What is seen -/

/-- The displays since `next` was last called. -/
def displaysSince : List Effect → Nat
  | trace => trace.foldl
      (fun count effect =>
        match effect with
        | .nexted => 0
        | .displayed _ => count + 1
        | _ => count)
      0

/-- An event that is displayed was not acknowledged or reported as read
before. -/
def IsUnsettled (before : List Effect) (effect : Effect) : Prop :=
  ∀ eventId, effect = .displayed eventId →
    ∀ isRecorded, .settled eventId isRecorded ∉ before

/-- At most three notifications are displayed between two calls of `next`. -/
def IsPortion (before : List Effect) (effect : Effect) : Prop :=
  ∀ eventId, effect = .displayed eventId → displaysSince before < 3

/-- No call is started after `stop`. -/
def IsQuiet (before : List Effect) (effect : Effect) : Prop :=
  ∀ call shown token, effect = .called call shown token → .stopped ∉ before

/-- What is acknowledged is displayed, and with its token. -/
def IsShownAck (_before : List Effect) (effect : Effect) : Prop :=
  ∀ eventId token shown claimToken,
    effect = .called (.ack eventId token) shown claimToken →
      token = claimToken ∧ ∃ notification, shown = some notification ∧
          notification.eventId = eventId

/-- The effect is the answer of a claim of the event. -/
def IsClaimOf (eventId : Nat) (effect : Effect) : Prop :=
  ∃ notification token, effect = .claimed notification token ∧
    notification.eventId = eventId

/-- The effect is the start of a call, a record or the end of the page. -/
def Effect.IsPlain : Effect → Prop
  | .called _ _ _ => True
  | .settled _ _ => True
  | .navigated => True
  | _ => False

namespace Session

/-- What holds in every state. -/
structure IsConsistent (session : Session) : Prop where
  calls : session.controller.outstanding.length ≤ 1
  timers : session.controller.timers.length ≤ 1
  shown : ∀ notification, session.controller.current = some notification →
      Newest (IsClaimOf notification.eventId)
        (.claimed notification session.controller.claimToken) session.trace
  acks : Each IsShownAck session.trace
  unsettled : Each IsUnsettled session.trace
  portions : Each IsPortion session.trace
  quiet : Each IsQuiet session.trace

/-- The answer of a call is fair. -/
structure IsFair
    (session : Session) (pending : Pending) (answer : Answer) : Prop where
  current : pending.place = .current →
      ∀ failure, answer = .claim (.error failure) → failure.IsGone →
        ¬ session.IsStale pending.generation pending.signal
  candidate : ∀ others, pending.place = .candidate others →
      ∀ failure, answer = .claim (.error failure) → failure.IsGone →
        session.controller.stopped = true →
          ∀ other ∈ others, other.eventId ∈ session.controller.seen
  dismissal : ∀ shown opens, pending.place = .dismiss shown opens →
      ∀ failure, answer = .ack (.error failure) →
        ¬ session.MustPoll pending.generation
  same : ∀ eventId token, pending.call = .claim eventId token →
      ∀ notification, answer = .claim (.ok (some notification)) →
        ¬ session.IsStale pending.generation pending.signal →
          notification.eventId = eventId
  unsettled : ∀ others, pending.place = .candidate others →
      ∀ notification, answer = .claim (.ok (some notification)) →
        ¬ session.IsStale pending.generation pending.signal →
          .settled notification.eventId false ∉ session.trace

/-- An answer that arrives is fair. -/
def IsHandled (session : Session) (event : Event) : Prop :=
  ∀ index answer pending, event = .complete index answer →
      session.controller.outstanding[index]? = some pending →
        session.IsFair pending answer

/-! ## The invariant -/

/-- What is kept while the code runs. -/
structure Kept (session : Session) : Prop where
  request : session.controller.request < session.controller.opened
  signals :
    ∀ signal ∈ session.controller.signals, signal < session.controller.opened
  running : session.controller.active = true →
      session.controller.stopped = false →
        ¬ session.IsAborted session.controller.request
  halted : session.controller.stopped = true →
      session.IsAborted session.controller.request
  shown : ∀ notification, session.controller.current = some notification →
      Newest (IsClaimOf notification.eventId)
        (.claimed notification session.controller.claimToken) session.trace
  recorded : ∀ eventId, .settled eventId true ∈ session.trace →
      eventId ∈ session.controller.seen
  portion : session.controller.remaining + displaysSince session.trace ≤ 3
  stops : .stopped ∈ session.trace → session.controller.stopped = true
  acks : Each IsShownAck session.trace
  unsettled : Each IsUnsettled session.trace
  portions : Each IsPortion session.trace
  quiet : Each IsQuiet session.trace

/-- A call that is awaited by code of a generation. -/
structure IsAwaited (session : Session) (generation signal : Nat) : Prop where
  le : generation ≤ session.controller.generation
  same : generation = session.controller.generation →
      signal = session.controller.request ∧ session.controller.active = true
  other : generation ≠ session.controller.generation → session.IsAborted signal

/-- What is known where the code continues. -/
def IsPlaced (session : Session) (pending : Pending) : Prop :=
  match pending.place with
  | .current =>
      ∃ current, session.controller.current = some current ∧
        pending.call = .claim current.eventId session.controller.claimToken
  | .feed => pending.call = .feed
  | .candidate _ =>
      session.controller.current = none ∧ 0 < session.controller.remaining ∧
        ∃ eventId, pending.call = .claim eventId session.controller.claimToken ∧
            eventId ∉ session.controller.seen
  | .dismiss shown _ =>
      session.controller.current = some shown ∧
        pending.call = .ack shown.eventId session.controller.claimToken

/-- Nothing is awaited. -/
structure IsIdle (session : Session) : Prop where
  kept : session.Kept
  busy : session.controller.busy = false
  outstanding : session.controller.outstanding = []
  timers : session.controller.timers = [] ∨
      ∃ timer, session.controller.timers = [timer] ∧
        session.controller.timer = some timer

/-- One call is awaited. -/
structure IsWaiting (session : Session) : Prop where
  kept : session.Kept
  busy : session.controller.busy = true
  timers : session.controller.timers = []
  awaited : ∃ pending, session.controller.outstanding = [pending] ∧
      session.IsAwaited pending.generation pending.signal ∧
      session.IsPlaced pending

/-- Code runs, and nothing is awaited yet. -/
structure IsFree (session : Session) : Prop where
  kept : session.Kept
  outstanding : session.controller.outstanding = []
  timers : session.controller.timers = []

/-- The invariant between two steps. -/
def Holds (session : Session) : Prop :=
  session.IsIdle ∨ session.IsWaiting

variable {session : Session} {effect : Effect} {pending : Pending}
  {generation signal : Nat} {uuid : Nat → String} {answer : Answer}

/-- A session that holds its invariant is consistent. -/
theorem Holds.isConsistent (holds : session.Holds) : session.IsConsistent := by
  rcases holds with isIdle | isWaiting
  · have kept := isIdle.kept
    refine
      { calls := ?_
        timers := ?_
        shown := kept.shown
        acks := kept.acks
        unsettled := kept.unsettled
        portions := kept.portions
        quiet := kept.quiet }
    · rw [isIdle.outstanding]
      exact Nat.zero_le _
    · rcases isIdle.timers with isNone | ⟨timer, isOne, _⟩
      · rw [isNone]
        exact Nat.zero_le _
      · rw [isOne]
        exact Nat.le_refl _
  · have kept := isWaiting.kept
    obtain ⟨pending, isOne, _⟩ := isWaiting.awaited
    refine
      { calls := ?_
        timers := ?_
        shown := kept.shown
        acks := kept.acks
        unsettled := kept.unsettled
        portions := kept.portions
        quiet := kept.quiet }
    · rw [isOne]
      exact Nat.le_refl _
    · rw [isWaiting.timers]
      exact Nat.zero_le _

theorem initial_holds : Holds ⟨initial, []⟩ := by
  refine Or.inl
    { kept :=
        { request := Nat.zero_lt_one
          signals := nofun
          running := fun _ _ => List.not_mem_nil
          halted := nofun
          shown := nofun
          recorded := nofun
          portion := Nat.le_refl 3
          stops := nofun
          acks := each_nil _
          unsettled := each_nil _
          portions := each_nil _
          quiet := each_nil _ }
      busy := rfl
      outstanding := rfl
      timers := Or.inl rfl }

theorem Kept.of_same {next : Session} (kept : session.Kept)
    (request : next.controller.request = session.controller.request)
    (opened : next.controller.opened = session.controller.opened)
    (signals : next.controller.signals = session.controller.signals)
    (active : next.controller.active = session.controller.active)
    (stopped : next.controller.stopped = session.controller.stopped) (current :
      next.controller.current = session.controller.current ∨
        next.controller.current = none)
    (token : next.controller.claimToken = session.controller.claimToken ∨
        next.controller.current = none)
    (seen : next.controller.seen = session.controller.seen)
    (remaining : next.controller.remaining = session.controller.remaining)
    (trace : next.trace = session.trace) :
    next.Kept where
  request := by
    rw [request, opened]
    exact kept.request
  signals := by
    rw [signals, opened]
    exact kept.signals
  running := by
    unfold IsAborted
    rw [active, stopped, request, signals]
    exact kept.running
  halted := by
    unfold IsAborted
    rw [stopped, request, signals]
    exact kept.halted
  shown := by
    intro notification isShown
    rcases current with same | isNone
    · rcases token with sameToken | isNone
      · rw [trace, sameToken]
        exact kept.shown notification (same ▸ isShown)
      · rw [isNone] at isShown
        cases isShown
    · rw [isNone] at isShown
      cases isShown
  recorded := by
    rw [trace, seen]
    exact kept.recorded
  portion := by
    rw [remaining, trace]
    exact kept.portion
  stops := by
    rw [trace, stopped]
    exact kept.stops
  acks := trace ▸ kept.acks
  unsettled := trace ▸ kept.unsettled
  portions := trace ▸ kept.portions
  quiet := trace ▸ kept.quiet

theorem Kept.see (kept : session.Kept) (isOther :
      ∀ notification, session.controller.current = some notification →
        ¬ IsClaimOf notification.eventId effect)
    (recorded : ∀ eventId, effect = .settled eventId true →
        eventId ∈ session.controller.seen)
    (portion : session.controller.remaining +
        displaysSince (session.trace ++ [effect]) ≤ 3)
    (stops : effect = .stopped → session.controller.stopped = true)
    (isAck : IsShownAck session.trace effect)
    (isUnsettled : IsUnsettled session.trace effect)
    (isPortion : IsPortion session.trace effect)
    (isQuiet : IsQuiet session.trace effect) :
    (session.see effect).Kept where
  request := kept.request
  signals := kept.signals
  running := kept.running
  halted := kept.halted
  shown := fun notification isShown =>
    (kept.shown notification isShown).concat (isOther notification isShown)
  recorded := by
    intro eventId isSeen
    rcases List.mem_append.mp isSeen with before | isLast
    · exact kept.recorded eventId before
    · exact recorded eventId (List.mem_singleton.mp isLast).symm
  portion := portion
  stops := by
    intro isSeen
    rcases List.mem_append.mp isSeen with before | isLast
    · exact kept.stops before
    · exact stops (List.mem_singleton.mp isLast).symm
  acks := each_concat.mpr ⟨kept.acks, isAck⟩
  unsettled := each_concat.mpr ⟨kept.unsettled, isUnsettled⟩
  portions := each_concat.mpr ⟨kept.portions, isPortion⟩
  quiet := each_concat.mpr ⟨kept.quiet, isQuiet⟩

theorem displaysSince_plain {trace : List Effect} (isPlain : effect.IsPlain) :
    displaysSince (trace ++ [effect]) = displaysSince trace := by
  unfold displaysSince
  rw [List.foldl_append]
  cases effect with
  | nexted => exact isPlain.elim
  | displayed _ => exact isPlain.elim
  | _ => rfl

theorem displaysSince_claimed
    (trace : List Effect) (notification : Notification) (token : String) :
    displaysSince (trace ++ [.claimed notification token]) =
      displaysSince trace := by
  unfold displaysSince
  rw [List.foldl_append]
  rfl

theorem displaysSince_displayed (trace : List Effect) (eventId : Nat) :
    displaysSince (trace ++ [.displayed eventId]) =
      displaysSince trace + 1 := by
  unfold displaysSince
  rw [List.foldl_append]
  rfl

theorem displaysSince_nexted (trace : List Effect) :
    displaysSince (trace ++ [.nexted]) = 0 := by
  unfold displaysSince
  rw [List.foldl_append]
  rfl

theorem Kept.see_plain
    (kept : session.Kept) (isPlain : effect.IsPlain) (recorded :
      ∀ eventId, effect = .settled eventId true →
        eventId ∈ session.controller.seen)
    (isAck : IsShownAck session.trace effect)
    (isQuiet : IsQuiet session.trace effect) :
    (session.see effect).Kept := by
  refine kept.see ?_ recorded ?_ ?_ isAck ?_ ?_ isQuiet
  · rintro _ _ ⟨_, _, rfl, _⟩
    exact isPlain
  · rw [displaysSince_plain isPlain]
    exact kept.portion
  · rintro rfl
    exact isPlain.elim
  · rintro _ rfl
    exact isPlain.elim
  · rintro _ rfl
    exact isPlain.elim

theorem Kept.see_settled
    (kept : session.Kept) (eventId : Nat) (isRecorded : Bool)
    (recorded : isRecorded = true → eventId ∈ session.controller.seen) :
    (session.see (.settled eventId isRecorded)).Kept := by
  refine kept.see_plain trivial ?_ ?_ ?_
  · intro other isSettled
    cases isSettled
    exact recorded rfl
  · intro _ _ _ _ isCall
    cases isCall
  · intro _ _ _ isCall
    cases isCall

theorem Kept.see_navigated
    (kept : session.Kept) : (session.see .navigated).Kept := by
  refine kept.see_plain trivial nofun ?_ ?_
  · intro _ _ _ _ isCall
    cases isCall
  · intro _ _ _ isCall
    cases isCall

/-! ## Timers and calls -/

theorem IsFree.schedule
    (isFree : session.IsFree) (notBusy : session.controller.busy = false) :
    session.schedule.IsIdle := by
  unfold Session.schedule
  split
  · exact
      { kept := isFree.kept.of_same rfl rfl rfl rfl rfl (Or.inl rfl)
          (Or.inl rfl) rfl rfl rfl
        busy := notBusy
        outstanding := isFree.outstanding
        timers := Or.inr ⟨session.controller.spawned, by
          change session.controller.timers ++ _ = _
          rw [isFree.timers]
          rfl, rfl⟩ }
  · exact
      { kept := isFree.kept
        busy := notBusy
        outstanding := isFree.outstanding
        timers := Or.inl isFree.timers }

theorem IsIdle.clearTimer
    (isIdle : session.IsIdle) : session.clearTimer.IsFree where
  kept := isIdle.kept.of_same rfl rfl rfl rfl rfl (Or.inl rfl) (Or.inl rfl)
    rfl rfl rfl
  outstanding := isIdle.outstanding
  timers := by
    change session.controller.timers.filter _ = []
    rcases isIdle.timers with isNone | ⟨timer, isOne, isTimer⟩
    · rw [isNone]
      rfl
    · rw [isOne, isTimer]
      simp

theorem IsFree.idle
    (isFree : session.IsFree) (notBusy : session.controller.busy = false) :
    session.IsIdle where
  kept := isFree.kept
  busy := notBusy
  outstanding := isFree.outstanding
  timers := Or.inl isFree.timers

theorem IsFree.busy (isFree : session.IsFree) (isBusy : Bool) :
    (session.update fun controller =>
      { controller with busy := isBusy }).IsFree where
  kept := isFree.kept.of_same rfl rfl rfl rfl rfl (Or.inl rfl) (Or.inl rfl)
    rfl rfl rfl
  outstanding := isFree.outstanding
  timers := isFree.timers

theorem IsFree.start
    (isFree : session.IsFree) (isBusy : session.controller.busy = true)
    (notStopped : session.controller.stopped = false)
    (isAwaited : session.IsAwaited pending.generation pending.signal)
    (isPlaced : session.IsPlaced pending) :
    (session.start pending).IsWaiting := by
  have kept := isFree.kept
  refine
    { kept := ?_
      busy := isBusy
      timers := isFree.timers
      awaited := ⟨pending, ?_, ?_, isPlaced⟩ }
  · have same : (session.update fun controller =>
        { controller with
          outstanding := controller.outstanding ++ [pending] }).Kept :=
      kept.of_same rfl rfl rfl rfl rfl (Or.inl rfl) (Or.inl rfl) rfl rfl rfl
    refine same.see_plain trivial nofun ?_ ?_
    · intro eventId token shown claimToken isCall
      obtain ⟨isAck, rfl, rfl⟩ := Effect.called.inj isCall
      unfold IsPlaced at isPlaced
      split at isPlaced
      · obtain ⟨_, _, isClaim⟩ := isPlaced
        cases isAck.symm.trans isClaim
      · cases isAck.symm.trans isPlaced
      · obtain ⟨_, _, _, isClaim, _⟩ := isPlaced
        cases isAck.symm.trans isClaim
      · obtain ⟨isShown, isCalled⟩ := isPlaced
        cases isAck.symm.trans isCalled
        exact ⟨rfl, _, isShown, rfl⟩
    · intro _ _ _ _ isStopped
      have halts := kept.stops isStopped
      rw [notStopped] at halts
      cases halts
  · change session.controller.outstanding ++ [pending] = [pending]
    rw [isFree.outstanding]
    rfl
  · exact ⟨isAwaited.le, isAwaited.same, isAwaited.other⟩

/-! ## Polls -/

theorem isAwaited_now (isActive : session.controller.active = true) :
    session.IsAwaited session.controller.generation
      session.controller.request where
  le := Nat.le_refl _
  same := fun _ => ⟨rfl, isActive⟩
  other := fun differs => (differs rfl).elim

theorem Holds.poll (holds : session.Holds) : session.poll.Holds := by
  unfold Session.poll
  dsimp only
  split
  · exact holds
  · rename_i mayPoll
    simp only [not_or, Bool.not_eq_true, Bool.not_eq_false] at mayPoll
    obtain ⟨notStopped, notBusy, isActive, _⟩ := mayPoll
    rcases holds with isIdle | isWaiting
    · have isFree := isIdle.clearTimer.busy true
      have isAwaited := isAwaited_now isActive
      refine Or.inr ?_
      split
      · rename_i current isCurrent
        exact isFree.start rfl notStopped
          ⟨isAwaited.le, isAwaited.same, isAwaited.other⟩
          ⟨current, isCurrent, rfl⟩
      · exact isFree.start rfl notStopped
          ⟨isAwaited.le, isAwaited.same, isAwaited.other⟩ rfl
    · rw [isWaiting.busy] at notBusy
      cases notBusy

theorem IsFree.finishPoll (isFree : session.IsFree) (generation : Nat) :
    (session.finishPoll generation).Holds := by
  have isRest : session.rest.IsFree := isFree.busy false
  unfold Session.finishPoll
  split
  · exact Holds.poll (Or.inl (isRest.idle rfl))
  · exact Or.inl (isRest.schedule rfl)

theorem IsFree.tryCandidates (uuid : Nat → String) (isFree : session.IsFree)
    (isBusy : session.controller.busy = true)
    (notShown : session.controller.current = none)
    (mayShow : 0 < session.controller.remaining)
    (isAwaited : session.IsAwaited generation signal)
    (candidates : List Notification) (mayCall :
      session.controller.stopped = true →
        ∀ candidate ∈ candidates, candidate.eventId ∈ session.controller.seen) :
    (session.tryCandidates uuid generation signal candidates).Holds := by
  induction candidates with
  | nil => exact isFree.finishPoll generation
  | cons candidate others inductionHypothesis =>
      unfold Session.tryCandidates
      split
      · exact inductionHypothesis fun isStopped =>
          (List.forall_mem_cons.mp (mayCall isStopped)).2
      · rename_i notSeen
        have notStopped : session.controller.stopped = false := by
          cases isStopped : session.controller.stopped with
          | false => rfl
          | true =>
              exact (notSeen
                (mayCall isStopped candidate List.mem_cons_self)).elim
        have isTaken : (session.update fun controller =>
            { controller with
              claimToken := uuid session.controller.issued
              issued := controller.issued + 1 }).IsFree :=
          { kept := isFree.kept.of_same rfl rfl rfl rfl rfl (Or.inl rfl)
              (Or.inr notShown) rfl rfl rfl
            outstanding := isFree.outstanding
            timers := isFree.timers }
        exact Or.inr (isTaken.start isBusy notStopped
          ⟨isAwaited.le, isAwaited.same, isAwaited.other⟩
          ⟨notShown, mayShow, candidate.eventId, rfl, notSeen⟩)

/-! ## Answers -/

theorem IsAwaited.isStale
    (isAwaited : session.IsAwaited generation signal) (kept : session.Kept) :
    session.IsStale generation signal ↔
      generation ≠ session.controller.generation ∨
        session.controller.stopped = true := by
  constructor
  · rintro (isAborted | differs)
    · by_cases isSame : generation = session.controller.generation
      · obtain ⟨rfl, isActive⟩ := isAwaited.same isSame
        refine Or.inr ?_
        by_contra notStopped
        exact kept.running isActive (Bool.not_eq_true _ ▸ notStopped) isAborted
      · exact Or.inl isSame
    · exact Or.inl differs
  · rintro (differs | isStopped)
    · exact Or.inr differs
    · by_cases isSame : generation = session.controller.generation
      · obtain ⟨rfl, _⟩ := isAwaited.same isSame
        exact Or.inl (kept.halted isStopped)
      · exact Or.inr isSame

theorem Kept.fail (kept : session.Kept) (failure : Failure) :
    (session.fail failure).Kept := by
  unfold Session.fail
  split
  · exact kept
  · by_cases isAuth : failure.status = 401 ∨ failure.status = 403
    · refine kept.of_same ?_ ?_ ?_ ?_ ?_ (Or.inr ?_) (Or.inr ?_) ?_ ?_ rfl <;>
        simp [update, isAuth]
    · refine kept.of_same ?_ ?_ ?_ ?_ ?_ (Or.inl ?_) (Or.inl ?_) ?_ ?_ rfl <;>
        simp [update, isAuth]

theorem IsFree.caught
    (isFree : session.IsFree) (signal : Nat) (failure : Failure) :
    (session.caught signal failure).IsFree := by
  unfold Session.caught
  split
  · exact isFree
  · refine
      { kept := isFree.kept.fail failure
        outstanding := ?_
        timers := ?_ }
    · unfold Session.fail
      split
      · exact isFree.outstanding
      · simp only [update]
        split <;> exact isFree.outstanding
    · unfold Session.fail
      split
      · exact isFree.timers
      · simp only [update]
        split <;> exact isFree.timers

theorem Kept.settle (kept : session.Kept) (eventId : Nat) :
    ((session.see (.settled eventId true)).record eventId).Kept := by
  have isRecorded : (session.record eventId).Kept :=
    { request := kept.request
      signals := kept.signals
      running := kept.running
      halted := kept.halted
      shown := kept.shown
      recorded := fun other isSettled =>
        List.mem_cons_of_mem _ (kept.recorded other isSettled)
      portion := kept.portion
      stops := kept.stops
      acks := kept.acks
      unsettled := kept.unsettled
      portions := kept.portions
      quiet := kept.quiet }
  exact isRecorded.see_settled eventId true fun _ => List.mem_cons_self

theorem Kept.claim (kept : session.Kept) (notification : Notification)
    (remaining : Nat) (portion : remaining + displaysSince session.trace ≤ 3) :
    ((session.update fun controller =>
      { controller with
        current := some notification
        remaining := remaining }).see
      (.claimed notification session.controller.claimToken)).Kept where
  request := kept.request
  signals := kept.signals
  running := kept.running
  halted := kept.halted
  shown := by
    rintro _ ⟨⟩
    exact newest_concat _ _ _
  recorded := by
    intro eventId isSeen
    rcases List.mem_append.mp isSeen with before | isLast
    · exact kept.recorded eventId before
    · cases List.mem_singleton.mp isLast
  portion := by
    change remaining + displaysSince (session.trace ++ _) ≤ 3
    rw [displaysSince_claimed]
    exact portion
  stops := by
    intro isSeen
    rcases List.mem_append.mp isSeen with before | isLast
    · exact kept.stops before
    · cases List.mem_singleton.mp isLast
  acks := each_concat.mpr ⟨kept.acks, nofun⟩
  unsettled := each_concat.mpr ⟨kept.unsettled, nofun⟩
  portions := each_concat.mpr ⟨kept.portions, nofun⟩
  quiet := each_concat.mpr ⟨kept.quiet, nofun⟩

theorem Kept.see_displayed (kept : session.Kept) (eventId : Nat) (portion :
      session.controller.remaining + (displaysSince session.trace + 1) ≤ 3)
    (notSettled : ∀ isRecorded, .settled eventId isRecorded ∉ session.trace) :
    (session.see (.displayed eventId)).Kept := by
  refine kept.see ?_ nofun ?_ nofun nofun ?_ ?_ nofun
  · rintro _ _ ⟨_, _, isClaim, _⟩
    cases isClaim
  · rw [displaysSince_displayed]
    exact portion
  · rintro _ ⟨⟩
    exact notSettled
  · rintro _ ⟨⟩
    omega

theorem IsFree.startFeed
    (isFree : session.IsFree) (isBusy : session.controller.busy = true)
    (notStopped : session.controller.stopped = false)
    (isAwaited : session.IsAwaited generation signal) :
    (session.startFeed generation signal).Holds :=
  Or.inr (isFree.start isBusy notStopped isAwaited rfl)

theorem IsAwaited.notStopped (isAwaited : session.IsAwaited generation signal)
    (kept : session.Kept) (notStale : ¬ session.IsStale generation signal) :
    session.controller.stopped = false := by
  cases isStopped : session.controller.stopped with
  | false => rfl
  | true =>
      exact (notStale ((isAwaited.isStale kept).mpr (Or.inr isStopped))).elim

theorem IsFree.afterCurrent {current : Notification} (isFree : session.IsFree)
    (isBusy : session.controller.busy = true)
    (isAwaited : session.IsAwaited generation signal)
    (answer : Except Failure (Option Notification)) (notGone :
      ∀ failure, answer = .error failure → failure.IsGone →
        ¬ session.IsStale generation signal) :
    (session.afterCurrent current.eventId session.controller.claimToken
      generation signal answer).Holds := by
  cases answer with
  | ok found =>
      unfold Session.afterCurrent
      dsimp only
      cases found with
      | none =>
          have isSettled :
              (session.see (.settled current.eventId false)).IsFree :=
            { kept := isFree.kept.see_settled _ false nofun
              outstanding := isFree.outstanding
              timers := isFree.timers }
          split
          · exact isSettled.finishPoll generation
          · rename_i notStale
            have isHidden :
                ((session.see (.settled current.eventId false)).update
                  fun controller =>
                    { controller with current := none }).IsFree :=
              { kept := isSettled.kept.of_same rfl rfl rfl rfl rfl
                  (Or.inr rfl) (Or.inr rfl) rfl rfl rfl
                outstanding := isFree.outstanding
                timers := isFree.timers }
            exact isHidden.startFeed isBusy
              (isAwaited.notStopped isFree.kept notStale)
              ⟨isAwaited.le, isAwaited.same, isAwaited.other⟩
      | some notification =>
          split
          · exact isFree.finishPoll generation
          · rename_i notStale
            have isClaimed :=
              isFree.kept.claim notification session.controller.remaining
                isFree.kept.portion
            exact IsFree.startFeed
              { kept := isClaimed
                outstanding := isFree.outstanding
                timers := isFree.timers }
              isBusy (isAwaited.notStopped isFree.kept notStale)
              ⟨isAwaited.le, isAwaited.same, isAwaited.other⟩
  | error failure =>
      unfold Session.afterCurrent
      dsimp only
      split
      · rename_i isGone
        have notStale := notGone failure rfl isGone
        have isHidden : (session.update fun controller =>
            { controller with current := none }).IsFree :=
          { kept := isFree.kept.of_same rfl rfl rfl rfl rfl (Or.inr rfl)
              (Or.inr rfl) rfl rfl rfl
            outstanding := isFree.outstanding
            timers := isFree.timers }
        exact isHidden.startFeed isBusy
          (isAwaited.notStopped isFree.kept notStale)
          ⟨isAwaited.le, isAwaited.same, isAwaited.other⟩
      · exact (isFree.caught signal failure).finishPoll generation

theorem IsFree.afterFeed (uuid : Nat → String) (isFree : session.IsFree)
    (isBusy : session.controller.busy = true)
    (isAwaited : session.IsAwaited generation signal)
    (answer : Except Failure Feed) :
    (session.afterFeed uuid generation signal answer).Holds := by
  cases answer with
  | ok data =>
      unfold Session.afterFeed
      dsimp only
      split
      · exact isFree.finishPoll generation
      · rename_i notStale
        have notStopped := isAwaited.notStopped isFree.kept notStale
        have isUpdated : (session.update fun controller =>
            { controller with unread := data.unread, error := none }).IsFree :=
          { kept := isFree.kept.of_same rfl rfl rfl rfl rfl (Or.inl rfl)
              (Or.inl rfl) rfl rfl rfl
            outstanding := isFree.outstanding
            timers := isFree.timers }
        split
        · rename_i mayShow
          refine isUpdated.tryCandidates uuid isBusy mayShow.1 mayShow.2
            ⟨isAwaited.le, isAwaited.same, isAwaited.other⟩ data.items ?_
          intro isStopped
          cases notStopped.symm.trans isStopped
        · exact isUpdated.finishPoll generation
  | error failure => exact (isFree.caught signal failure).finishPoll generation

/-- A candidate that arrives keeps the invariant. -/
theorem IsFree.afterCandidate
    {eventId : Nat} {others : List Notification} (uuid : Nat → String)
    (isFree : session.IsFree) (isBusy : session.controller.busy = true)
    (notShown : session.controller.current = none)
    (mayShow : 0 < session.controller.remaining)
    (notSeen : eventId ∉ session.controller.seen)
    (isAwaited : session.IsAwaited generation signal)
    (answer : Except Failure (Option Notification)) (mayCall :
      ∀ failure, answer = .error failure → failure.IsGone →
        session.controller.stopped = true →
          ∀ other ∈ others, other.eventId ∈ session.controller.seen)
    (same : ∀ notification, answer = .ok (some notification) →
        ¬ session.IsStale generation signal → notification.eventId = eventId)
    (notSettled : ∀ notification, answer = .ok (some notification) →
        ¬ session.IsStale generation signal →
          .settled notification.eventId false ∉ session.trace) :
    (session.afterCandidate uuid eventId session.controller.claimToken
      generation signal others answer).Holds := by
  cases answer with
  | ok found =>
      unfold Session.afterCandidate
      dsimp only
      split
      · cases found with
        | none =>
            have isSettled : (session.see (.settled eventId false)).IsFree :=
              { kept := isFree.kept.see_settled _ false nofun
                outstanding := isFree.outstanding
                timers := isFree.timers }
            exact isSettled.finishPoll generation
        | some _ => exact isFree.finishPoll generation
      · rename_i notStale
        have notStopped := isAwaited.notStopped isFree.kept notStale
        cases found with
        | none =>
            have isSettled :
                ((session.see (.settled eventId true)).record eventId).IsFree :=
              { kept := isFree.kept.settle eventId
                outstanding := isFree.outstanding
                timers := isFree.timers }
            refine isSettled.tryCandidates uuid isBusy notShown mayShow
              ⟨isAwaited.le, isAwaited.same, isAwaited.other⟩ others ?_
            intro isStopped
            cases notStopped.symm.trans isStopped
        | some notification =>
            have portion := isFree.kept.portion
            have isClaimed := isFree.kept.claim notification
              (session.controller.remaining - 1) (by omega)
            have isDisplayed := isClaimed.see_displayed notification.eventId (by
                change session.controller.remaining - 1 +
                  (displaysSince (session.trace ++ _) + 1) ≤ 3
                rw [displaysSince_claimed]
                omega)
              (by
                intro isRecorded isSettled
                rcases List.mem_append.mp isSettled with before | isLast
                · cases isRecorded with
                  | false => exact notSettled notification rfl notStale before
                  | true =>
                      refine notSeen ?_
                      rw [← same notification rfl notStale]
                      exact isFree.kept.recorded _ before
                · cases List.mem_singleton.mp isLast)
            exact IsFree.finishPoll
              { kept := isDisplayed
                outstanding := isFree.outstanding
                timers := isFree.timers } generation
  | error failure =>
      unfold Session.afterCandidate
      dsimp only
      split
      · rename_i isGone
        exact isFree.tryCandidates uuid isBusy notShown mayShow isAwaited
          others (mayCall failure rfl isGone)
      · exact (isFree.caught signal failure).finishPoll generation

/-! ## Dismissals -/

theorem Holds.dismiss
    (holds : session.Holds) (opens : Bool) : (session.dismiss opens).Holds := by
  unfold Session.dismiss
  dsimp only
  split
  · exact holds
  · rename_i shown isShown
    split
    · exact holds
    · rename_i mayDismiss
      simp only [not_or, Bool.not_eq_true, Bool.not_eq_false] at mayDismiss
      obtain ⟨notStopped, notBusy, isActive⟩ := mayDismiss
      rcases holds with isIdle | isWaiting
      · have isFree := isIdle.clearTimer.busy true
        have isAwaited := isAwaited_now isActive
        exact Or.inr (isFree.start rfl notStopped
          ⟨isAwaited.le, isAwaited.same, isAwaited.other⟩ ⟨isShown, rfl⟩)
      · rw [isWaiting.busy] at notBusy
        cases notBusy

theorem IsFree.finishDismiss (isFree : session.IsFree) (generation : Nat) :
    (session.finishDismiss generation).Holds := by
  have isRest : session.rest.IsFree := isFree.busy false
  unfold Session.finishDismiss
  split
  · exact Holds.poll (Or.inl (isRest.idle rfl))
  · exact Or.inl (isRest.idle rfl)

theorem finishDismiss_rest (notPolled : ¬ session.MustPoll generation) :
    session.finishDismiss generation = session.rest :=
  if_neg notPolled

theorem caught_mustPoll {failure : Failure} :
    (session.caught signal failure).MustPoll generation ↔
      session.MustPoll generation := by
  unfold Session.caught Session.fail
  split
  · exact Iff.rfl
  · split
    · exact Iff.rfl
    · simp only [update]
      split <;> exact Iff.rfl

theorem IsFree.afterAck
    {shown : Notification} {opens : Bool} (isFree : session.IsFree)
    (answer : Except Failure Unit) (notPolled :
      ∀ failure, answer = .error failure → ¬ session.MustPoll generation) :
    (session.afterAck shown opens generation signal answer).Holds := by
  cases answer with
  | ok _ =>
      unfold Session.afterAck
      dsimp only
      split
      · exact IsFree.finishDismiss
          { kept := isFree.kept.see_settled _ false nofun
            outstanding := isFree.outstanding
            timers := isFree.timers } generation
      · rename_i notStale
        have isSame : generation = session.controller.generation := by
          by_contra differs
          exact notStale (Or.inr differs)
        have isSettled := isFree.kept.settle shown.eventId
        have isHidden : (session.acknowledge shown.eventId).IsFree :=
          { kept := isSettled.of_same rfl rfl rfl rfl rfl (Or.inr rfl)
              (Or.inr rfl) rfl rfl rfl
            outstanding := isFree.outstanding
            timers := isFree.timers }
        have isRest := isHidden.busy false
        have notPoll :
            ¬ (session.acknowledge shown.eventId).MustPoll generation :=
          fun mustPoll => mustPoll.1 isSame
        rw [finishDismiss_rest notPoll]
        split
        · exact Or.inl
            { kept := isRest.kept.see_navigated
              busy := rfl
              outstanding := isRest.outstanding
              timers := Or.inl isRest.timers }
        · exact Holds.poll (Or.inl (isRest.idle rfl))
  | error failure =>
      have notAgain : ¬ (session.caught signal failure).MustPoll generation :=
        fun mustPoll => notPolled failure rfl (caught_mustPoll.mp mustPoll)
      unfold Session.afterAck
      dsimp only
      rw [finishDismiss_rest notAgain]
      exact Or.inl (((isFree.caught signal failure).busy false).schedule rfl)

/-! ## Steps -/

/-- A call of `next` keeps the invariant. -/
theorem Holds.next (holds : session.Holds) : session.next.Holds := by
  have isReset {before : Session} (kept : before.Kept) :
      ((before.update fun controller =>
        { controller with
          remaining := 3
          authPaused := false
          error := none }).see .nexted).Kept :=
    { request := kept.request
      signals := kept.signals
      running := kept.running
      halted := kept.halted
      shown := fun notification isShown =>
        (kept.shown notification isShown).concat (by
          rintro ⟨_, _, isClaim, _⟩
          cases isClaim)
      recorded := by
        intro eventId isSeen
        rcases List.mem_append.mp isSeen with earlier | isLast
        · exact kept.recorded eventId earlier
        · cases List.mem_singleton.mp isLast
      portion := by
        have none := displaysSince_nexted before.trace
        change 3 + displaysSince (before.trace ++ [.nexted]) ≤ 3
        omega
      stops := by
        intro isSeen
        rcases List.mem_append.mp isSeen with earlier | isLast
        · exact kept.stops earlier
        · cases List.mem_singleton.mp isLast
      acks := each_concat.mpr ⟨kept.acks, nofun⟩
      unsettled := each_concat.mpr ⟨kept.unsettled, nofun⟩
      portions := each_concat.mpr ⟨kept.portions, nofun⟩
      quiet := each_concat.mpr ⟨kept.quiet, nofun⟩ }
  refine Holds.poll ?_
  rcases holds with isIdle | isWaiting
  · exact Or.inl
      { kept := isReset isIdle.kept
        busy := isIdle.busy
        outstanding := isIdle.outstanding
        timers := isIdle.timers }
  · obtain ⟨pending, isOne, isAwaited, isPlaced⟩ := isWaiting.awaited
    refine Or.inr
      { kept := isReset isWaiting.kept
        busy := isWaiting.busy
        timers := isWaiting.timers
        awaited := ⟨pending, isOne,
          ⟨isAwaited.le, isAwaited.same, isAwaited.other⟩, ?_⟩ }
    unfold IsPlaced at isPlaced ⊢
    split at isPlaced
    · exact isPlaced
    · exact isPlaced
    · exact ⟨isPlaced.1, Nat.zero_lt_succ 2, isPlaced.2.2⟩
    · exact isPlaced

theorem Kept.hide
    (kept : session.Kept) (notStopped : session.controller.stopped = false) :
    (session.update fun controller =>
      { controller with
        active := false
        generation := controller.generation + 1 }).abort.Kept where
  request := kept.request
  signals := List.forall_mem_cons.mpr ⟨kept.request, kept.signals⟩
  running := nofun
  halted := fun isStopped => by cases notStopped.symm.trans isStopped
  shown := kept.shown
  recorded := kept.recorded
  portion := kept.portion
  stops := kept.stops
  acks := kept.acks
  unsettled := kept.unsettled
  portions := kept.portions
  quiet := kept.quiet

theorem Kept.show
    (kept : session.Kept) (notStopped : session.controller.stopped = false) :
    (session.update fun controller =>
      { controller with
        active := true
        generation := controller.generation + 1
        request := controller.opened
        opened := controller.opened + 1 }).Kept where
  request := Nat.lt_succ_self _
  signals := fun signal isAborted =>
    Nat.lt_succ_of_lt (kept.signals signal isAborted)
  running := fun _ _ isAborted => Nat.lt_irrefl _ (kept.signals _ isAborted)
  halted := fun isStopped => by cases notStopped.symm.trans isStopped
  shown := kept.shown
  recorded := kept.recorded
  portion := kept.portion
  stops := kept.stops
  acks := kept.acks
  unsettled := kept.unsettled
  portions := kept.portions
  quiet := kept.quiet

theorem IsAwaited.isAborted (isAwaited : session.IsAwaited generation signal) :
    signal ∈ session.controller.request :: session.controller.signals := by
  by_cases isSame : generation = session.controller.generation
  · rw [(isAwaited.same isSame).1]
    exact List.mem_cons_self
  · exact List.mem_cons_of_mem _ (isAwaited.other isSame)

/-- A call of `setActive` keeps the invariant. -/
theorem Holds.setActive (holds : session.Holds) (active : Bool) :
    (session.setActive active).Holds := by
  unfold Session.setActive
  dsimp only
  split
  · exact holds
  · rename_i mayChange
    simp only [not_or, Bool.not_eq_true] at mayChange
    obtain ⟨notStopped, isChanged⟩ := mayChange
    cases active with
    | false =>
        rw [if_pos rfl]
        rcases holds with isIdle | isWaiting
        · exact Or.inl
            { kept := isIdle.clearTimer.kept.hide notStopped
              busy := isIdle.busy
              outstanding := isIdle.outstanding
              timers := Or.inl isIdle.clearTimer.timers }
        · obtain ⟨pending, isOne, isAwaited, isPlaced⟩ := isWaiting.awaited
          have isBelow := isAwaited.le
          refine Or.inr
            { kept := (isWaiting.kept.hide notStopped).of_same rfl rfl rfl
                rfl rfl (Or.inl rfl) (Or.inl rfl) rfl rfl rfl
              busy := isWaiting.busy
              timers := ?_
              awaited := ⟨pending, isOne,
                { le := Nat.le_succ_of_le isBelow
                  same := fun isSame => ?_
                  other := fun _ => isAwaited.isAborted }, isPlaced⟩ }
          · change session.controller.timers.filter _ = []
            rw [isWaiting.timers]
            rfl
          · change pending.generation =
              session.controller.generation + 1 at isSame
            omega
    | true =>
        rw [if_neg nofun]
        have wasHidden : session.controller.active = false := by
          cases isActive : session.controller.active with
          | false => rfl
          | true => exact (isChanged isActive).elim
        rcases holds with isIdle | isWaiting
        · split
          · exact Holds.poll (Or.inl
              { kept := isIdle.kept.show notStopped
                busy := isIdle.busy
                outstanding := isIdle.outstanding
                timers := isIdle.timers })
          · rename_i isBusy
            exact (isBusy isIdle.busy).elim
        · split
          · rename_i notBusy
            cases isWaiting.busy.symm.trans notBusy
          obtain ⟨pending, isOne, isAwaited, isPlaced⟩ := isWaiting.awaited
          have isBelow := isAwaited.le
          refine Or.inr
            { kept := isWaiting.kept.show notStopped
              busy := isWaiting.busy
              timers := isWaiting.timers
              awaited := ⟨pending, isOne,
                { le := Nat.le_succ_of_le isBelow
                  same := fun isSame => ?_
                  other := fun _ => ?_ }, isPlaced⟩ }
          · change pending.generation =
              session.controller.generation + 1 at isSame
            omega
          · refine isAwaited.other fun isSame => ?_
            cases wasHidden.symm.trans (isAwaited.same isSame).2

theorem Kept.stop (kept : session.Kept) : session.stop.Kept where
  request := kept.request
  signals := List.forall_mem_cons.mpr ⟨kept.request, kept.signals⟩
  running := nofun
  halted := fun _ => List.mem_cons_self
  shown := fun notification isShown =>
    (kept.shown notification isShown).concat (by
      rintro ⟨_, _, isClaim, _⟩
      cases isClaim)
  recorded := by
    intro eventId isSeen
    rcases List.mem_append.mp isSeen with before | isLast
    · exact kept.recorded eventId before
    · cases List.mem_singleton.mp isLast
  portion := by
    change session.controller.remaining +
      displaysSince (session.trace ++ [.stopped]) ≤ 3
    unfold displaysSince
    rw [List.foldl_append]
    exact kept.portion
  stops := fun _ => rfl
  acks := each_concat.mpr ⟨kept.acks, nofun⟩
  unsettled := each_concat.mpr ⟨kept.unsettled, nofun⟩
  portions := each_concat.mpr ⟨kept.portions, nofun⟩
  quiet := each_concat.mpr ⟨kept.quiet, nofun⟩

theorem Holds.stop (holds : session.Holds) : session.stop.Holds := by
  rcases holds with isIdle | isWaiting
  · exact Or.inl
      { kept := isIdle.kept.stop
        busy := isIdle.busy
        outstanding := isIdle.outstanding
        timers := Or.inl isIdle.clearTimer.timers }
  · obtain ⟨pending, isOne, isAwaited, isPlaced⟩ := isWaiting.awaited
    refine Or.inr
      { kept := isWaiting.kept.stop
        busy := isWaiting.busy
        timers := ?_
        awaited := ⟨pending, isOne,
          { le := isAwaited.le
            same := isAwaited.same
            other := fun differs =>
              List.mem_cons_of_mem _ (isAwaited.other differs) }, isPlaced⟩ }
    change session.controller.timers.filter _ = []
    rw [isWaiting.timers]
    rfl

theorem Holds.fire (holds : session.Holds) (timer : Nat) :
    (session.update fun controller =>
      { controller with
        timers := controller.timers.erase timer }).Holds := by
  rcases holds with isIdle | isWaiting
  · refine Or.inl
      { kept := isIdle.kept.of_same rfl rfl rfl rfl rfl (Or.inl rfl)
          (Or.inl rfl) rfl rfl rfl
        busy := isIdle.busy
        outstanding := isIdle.outstanding
        timers := ?_ }
    change session.controller.timers.erase timer = [] ∨
      ∃ other, session.controller.timers.erase timer = [other] ∧
        session.controller.timer = some other
    rcases isIdle.timers with isNone | ⟨other, isOne, isTimer⟩
    · rw [isNone]
      exact Or.inl rfl
    · by_cases isSame : other = timer
      · rw [isOne, isSame]
        exact Or.inl (List.erase_cons_head timer [])
      · rw [isOne, List.erase_of_not_mem (by
          rw [List.mem_singleton]
          exact fun same => isSame same.symm)]
        exact Or.inr ⟨other, rfl, isTimer⟩
  · obtain ⟨pending, isOne, isAwaited, isPlaced⟩ := isWaiting.awaited
    refine Or.inr
      { kept := isWaiting.kept.of_same rfl rfl rfl rfl rfl (Or.inl rfl)
          (Or.inl rfl) rfl rfl rfl
        busy := isWaiting.busy
        timers := ?_
        awaited := ⟨pending, isOne,
          ⟨isAwaited.le, isAwaited.same, isAwaited.other⟩, isPlaced⟩ }
    change session.controller.timers.erase timer = []
    rw [isWaiting.timers]
    rfl

theorem IsWaiting.resume {next : Session} (isWaiting : session.IsWaiting)
    (isOne : session.controller.outstanding = [pending])
    (isAwaited : session.IsAwaited pending.generation pending.signal)
    (isPlaced : session.IsPlaced pending)
    (isFair : session.IsFair pending answer) (isResumed :
      (session.update fun controller =>
        { controller with
          outstanding := controller.outstanding.eraseIdx 0 }).resume?
        uuid pending answer = some next) :
    next.Holds := by
  obtain ⟨call, place, generation, signal⟩ := pending
  have isFree : (session.update fun controller =>
      { controller with
        outstanding := controller.outstanding.eraseIdx 0 }).IsFree :=
    { kept := isWaiting.kept.of_same rfl rfl rfl rfl rfl (Or.inl rfl)
        (Or.inl rfl) rfl rfl rfl
      outstanding := by
        change session.controller.outstanding.eraseIdx 0 = []
        rw [isOne]
        rfl
      timers := isWaiting.timers }
  have isNow : (session.update fun controller =>
      { controller with
        outstanding := controller.outstanding.eraseIdx 0 }).IsAwaited
        generation signal :=
    ⟨isAwaited.le, isAwaited.same, isAwaited.other⟩
  unfold resume? at isResumed
  split at isResumed
  · rename_i isPlace isCall
    cases isPlace
    cases isCall
    obtain ⟨current, isShown, isClaim⟩ := isPlaced
    cases isClaim
    cases isResumed
    exact isFree.afterCurrent isWaiting.busy isNow _
      fun failure isFailure isGone =>
        isFair.current rfl failure (congrArg Answer.claim isFailure) isGone
  · rename_i isPlace isCall
    cases isPlace
    cases isResumed
    exact isFree.afterFeed uuid isWaiting.busy isNow _
  · rename_i isPlace isCall
    cases isPlace
    obtain ⟨notShown, mayShow, eventId, isClaim, notSeen⟩ := isPlaced
    cases isCall
    cases isClaim
    cases isResumed
    exact isFree.afterCandidate uuid isWaiting.busy notShown mayShow notSeen
      isNow _
      (fun failure isFailure isGone isStopped =>
        isFair.candidate _ rfl failure (congrArg Answer.claim isFailure)
          isGone isStopped)
      (fun notification isFound notStale =>
        isFair.same _ _ rfl notification (congrArg Answer.claim isFound)
          notStale)
      (fun notification isFound notStale =>
        isFair.unsettled _ rfl notification
          (congrArg Answer.claim isFound) notStale)
  · rename_i isPlace isCall
    cases isPlace
    cases isResumed
    exact isFree.afterAck _ fun failure isFailure =>
      isFair.dismissal _ _ rfl failure (congrArg Answer.ack isFailure)
  · cases isResumed

theorem step?_holds
    {next : Session} {event : Event} (isHandled : session.IsHandled event)
    (stepped : step? uuid session event = some next) (holds : session.Holds) :
    next.Holds := by
  cases event with
  | poll =>
      cases stepped
      exact holds.poll
  | fire timer =>
      unfold step? at stepped
      dsimp only at stepped
      split at stepped
      · cases stepped
        exact (holds.fire timer).poll
      · cases stepped
  | dismiss opens =>
      cases stepped
      exact holds.dismiss opens
  | next =>
      cases stepped
      exact holds.next
  | setActive active =>
      cases stepped
      exact holds.setActive active
  | externalAck _ =>
      cases stepped
      exact holds.poll
  | stop =>
      cases stepped
      exact holds.stop
  | complete index answer =>
      obtain ⟨pending, isPending, isResumed⟩ :=
        Option.bind_eq_some_iff.mp stepped
      have isFair := isHandled index answer pending rfl isPending
      rcases holds with isIdle | isWaiting
      · rw [isIdle.outstanding] at isPending
        cases isPending
      · obtain ⟨awaited, isOne, isAwaited, isPlaced⟩ := isWaiting.awaited
        rw [isOne] at isPending
        cases index with
        | zero =>
            cases isPending
            exact isWaiting.resume isOne isAwaited isPlaced isFair isResumed
        | succ _ => cases isPending

/-! ## Stale answers -/

/-- What is shown of the notifications. -/
def display (session : Session) : Option Notification × Nat × Option String :=
  (session.controller.current, session.controller.unread,
    session.controller.error)

theorem schedule_display (session : Session) :
    session.schedule.display = session.display := by
  unfold Session.schedule
  split <;> rfl

theorem poll_display (session : Session) :
    session.poll.display = session.display := by
  unfold Session.poll
  dsimp only
  split
  · rfl
  · split <;> rfl

theorem finishPoll_display (session : Session) (generation : Nat) :
    (session.finishPoll generation).display = session.display := by
  unfold Session.finishPoll
  split
  · exact poll_display _
  · exact schedule_display _

theorem finishDismiss_display (session : Session) (generation : Nat) :
    (session.finishDismiss generation).display = session.display := by
  unfold Session.finishDismiss
  split
  · exact poll_display _
  · rfl

theorem tryCandidates_display (uuid : Nat → String) (session : Session)
    (generation signal : Nat) (candidates : List Notification) :
    (session.tryCandidates uuid generation signal candidates).display =
      session.display := by
  induction candidates with
  | nil => exact finishPoll_display session generation
  | cons candidate others inductionHypothesis =>
      unfold Session.tryCandidates
      split
      · exact inductionHypothesis
      · rfl

theorem IsAwaited.caught_eq
    (isAwaited : session.IsAwaited generation signal) (kept : session.Kept)
    (isStale : session.IsStale generation signal) (failure : Failure) :
    session.caught signal failure = session := by
  refine if_pos ?_
  rcases (isAwaited.isStale kept).mp isStale with differs | isStopped
  · exact isAwaited.other differs
  · by_cases isSame : generation = session.controller.generation
    · rw [(isAwaited.same isSame).1]
      exact kept.halted isStopped
    · exact isAwaited.other isSame

/-- A stale answer leaves what is shown when it is fair. -/
theorem resume?_display {next : Session}
    (isResumed : session.resume? uuid pending answer = some next)
    (kept : session.Kept)
    (isAwaited : session.IsAwaited pending.generation pending.signal)
    (isStale : session.IsStale pending.generation pending.signal) (notGone :
      pending.place = .current →
        ∀ failure, answer = .claim (.error failure) → ¬ failure.IsGone) :
    next.display = session.display := by
  obtain ⟨call, place, generation, signal⟩ := pending
  unfold resume? at isResumed
  split at isResumed
  · rename_i eventId token answer isPlace isCall
    cases isPlace
    cases isResumed
    cases answer with
    | ok found =>
        unfold Session.afterCurrent
        dsimp only
        rw [if_pos isStale, finishPoll_display]
        cases found <;> rfl
    | error failure =>
        unfold Session.afterCurrent
        dsimp only
        rw [if_neg (notGone rfl failure rfl), finishPoll_display,
          isAwaited.caught_eq kept isStale]
  · rename_i answer isPlace isCall
    cases isPlace
    cases isResumed
    cases answer with
    | ok data =>
        unfold Session.afterFeed
        dsimp only
        rw [if_pos isStale, finishPoll_display]
    | error failure =>
        unfold Session.afterFeed
        dsimp only
        rw [finishPoll_display, isAwaited.caught_eq kept isStale]
  · rename_i others eventId token answer isPlace isCall
    cases isPlace
    cases isResumed
    cases answer with
    | ok found =>
        unfold Session.afterCandidate
        dsimp only
        rw [if_pos isStale, finishPoll_display]
        cases found <;> rfl
    | error failure =>
        unfold Session.afterCandidate
        dsimp only
        split
        · exact tryCandidates_display _ _ _ _ _
        · rw [finishPoll_display, isAwaited.caught_eq kept isStale]
  · rename_i shown opens _ _ answer isPlace isCall
    cases isPlace
    cases isResumed
    cases answer with
    | ok _ =>
        unfold Session.afterAck
        dsimp only
        rw [if_pos isStale, finishDismiss_display]
        rfl
    | error failure =>
        unfold Session.afterAck
        dsimp only
        rw [schedule_display, finishDismiss_display,
          isAwaited.caught_eq kept isStale]
  · cases isResumed

theorem Holds.complete_display
    {next : Session} {index : Nat} (holds : session.Holds)
    (isHandled : session.IsHandled (.complete index answer))
    (isPending : session.controller.outstanding[index]? = some pending) (isOld :
      pending.generation ≠ session.controller.generation ∨
        session.controller.stopped = true)
    (stepped : step? uuid session (.complete index answer) = some next) :
    next.display = session.display := by
  have isFair := isHandled index answer pending rfl isPending
  obtain ⟨found, isFound, isResumed⟩ := Option.bind_eq_some_iff.mp stepped
  cases isPending.symm.trans isFound
  rcases holds with isIdle | isWaiting
  · rw [isIdle.outstanding] at isPending
    cases isPending
  · obtain ⟨awaited, isOne, isAwaited, _⟩ := isWaiting.awaited
    have isMember : pending ∈ session.controller.outstanding :=
      List.mem_of_getElem? isPending
    rw [isOne, List.mem_singleton] at isMember
    cases isMember
    have isStale := (isAwaited.isStale isWaiting.kept).mpr isOld
    have isKept : (session.update fun controller =>
        { controller with
          outstanding := controller.outstanding.eraseIdx index }).display =
          session.display :=
      rfl
    rw [← isKept]
    refine resume?_display isResumed (isWaiting.kept.of_same rfl rfl rfl rfl
      rfl (Or.inl rfl) (Or.inl rfl) rfl rfl rfl)
      ⟨isAwaited.le, isAwaited.same, isAwaited.other⟩ isStale ?_
    intro isPlace failure isFailure isGone
    exact isFair.current isPlace failure isFailure isGone isStale

end Session

open Session

/-- In every run with fair answers the controller is consistent, and an answer
of a call that was started before the visibility changed or the controller
stopped leaves what is shown. -/
theorem controller_isConsistent
    (uuid : Nat → String) (events : List Event) (session : Session)
    (run : Run (step? uuid) IsHandled ⟨initial, []⟩ events session) :
    session.IsConsistent ∧ ∀ index answer pending next,
        session.IsHandled (.complete index answer) →
          session.controller.outstanding[index]? = some pending →
            pending.generation ≠ session.controller.generation ∨
                session.controller.stopped = true →
              step? uuid session (.complete index answer) = some next →
                next.display = session.display := by
  have holds : session.Holds := run.invariant Holds
      (fun _ _ _ isHandled stepped holds => step?_holds isHandled stepped holds)
      initial_holds
  exact ⟨holds.isConsistent,
    fun _ _ _ _ isHandled isPending isOld stepped =>
      holds.complete_display isHandled isPending isOld stepped⟩

/-- A notification. -/
def firstNotification : Notification :=
  ⟨1, "award"⟩

/-- The events up to the display of a notification. -/
def displayEvents : List Event :=
  [.poll, .complete 0 (.feed (.ok ⟨[firstNotification], 1⟩)),
    .complete 0 (.claim (.ok (some firstNotification)))]

/-- The page is hidden while the controller asks again for what it displays. -/
def hiddenEvents : List Event :=
  displayEvents ++ [.poll, .setActive false]

/-- The answer that comes too late leaves the notification on display. -/
theorem controller_isConsistent_hidden :
    ∃ session next : Session, ∃ pending : Pending,
      session.controller.outstanding = [pending] ∧
        pending.generation ≠ session.controller.generation ∧
        session.controller.current = some firstNotification ∧
        step? (fun _ => "token") session (.complete 0 (.claim (.ok none))) =
          some next ∧
        session.IsConsistent ∧ next.display = session.display := by
  have silent (session : Session) (event : Event)
      (noAnswer : ∀ index answer, event ≠ .complete index answer) :
      session.IsHandled event :=
    fun index answer _ isComplete => (noAnswer index answer isComplete).elim
  have second : IsHandled (Session.poll ⟨initial, []⟩)
        (.complete 0 (.feed (.ok ⟨[firstNotification], 1⟩))) := by
    rintro _ _ _ ⟨⟩ ⟨⟩
    exact
      { current := nofun
        candidate := nofun
        dismissal := nofun
        same := nofun
        unsettled := nofun }
  have third : IsHandled ((step? (fun _ => "token") (Session.poll ⟨initial, []⟩)
          (.complete 0 (.feed (.ok ⟨[firstNotification], 1⟩)))).get rfl)
        (.complete 0 (.claim (.ok (some firstNotification)))) := by
    rintro _ _ _ ⟨⟩ ⟨⟩
    exact
      { current := nofun
        candidate := nofun
        dismissal := nofun
        same := by
          rintro _ _ ⟨⟩ _ ⟨⟩ _
          rfl
        unsettled := by
          rintro _ _ _ ⟨⟩ _
          decide }
  obtain ⟨consistent, keeps⟩ := controller_isConsistent (fun _ => "token")
    hiddenEvents _ (.cons (silent _ .poll nofun) rfl (.cons second rfl
      (.cons third rfl (.cons (silent _ .poll nofun) rfl
        (.cons (silent _ (.setActive false) nofun) rfl .nil)))))
  refine ⟨_, _, _, rfl, by decide, rfl, rfl, consistent,
    keeps 0 (.claim (.ok none)) _ _ ?_ rfl (.inl (by decide)) rfl⟩
  rintro _ _ _ ⟨⟩ ⟨⟩
  exact
    { current := nofun
      candidate := nofun
      dismissal := nofun
      same := nofun
      unsettled := nofun }

/-- The events of a controller that stops while it asks again for the
notification that it displays, and then is told that it is gone. -/
def goneEvents : List Event :=
  displayEvents ++ [.poll, .stop, .complete 0 (.claim (.error ⟨404, none⟩))]

/-- A controller that has stopped starts a call when it is told that its
notification is gone. -/
theorem controller_not_quiet :
    ¬ ∀ (uuid : Nat → String) (events : List Event) (session : Session),
      Run (step? uuid) anything ⟨initial, []⟩ events session →
        session.IsConsistent := by
  intro isConsistent
  have isRun := Runs.run?_get (fun _ _ _ => trivial :
      ∀ state, ∀ action ∈ goneEvents, @anything Session Event state action)
    (by decide :
      (Runs.run? (step? fun _ => "token") ⟨initial, []⟩
        goneEvents).isSome = true)
  have quiet := (isConsistent _ _ _ isRun).quiet
  exact quiet [.called .feed none "", .called (.claim 1 "token") none "token",
      .claimed firstNotification "token", .displayed 1,
      .called (.claim 1 "token") (some firstNotification) "token", .stopped]
    (.called .feed none "token") [] rfl _ _ _ rfl (by decide)

end TicketSandbox.Frontend
