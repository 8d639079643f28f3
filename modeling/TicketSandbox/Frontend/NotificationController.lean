import TicketSandbox.Library.Runs

namespace TicketSandbox.Frontend

/-!
# The notification controller

`notifications/controller.ts`: calls of the API are awaited one after another
while timers fire, the page becomes hidden or visible, and answers arrive.
What runs until the next `await` is one step.
-/

/-! ## State -/

/-- A notification: its event, and what is shown of it. -/
structure Notification where
  eventId : Nat
  title : String
  deriving Repr, DecidableEq

/-- `Feed`. -/
structure Feed where
  items : List Notification
  unread : Nat

/-- What an API call is rejected with: the status, and the message if it has
one. -/
structure Failure where
  status : Int
  message : Option String

/-- A claim lost its event. -/
def Failure.IsGone (failure : Failure) : Prop :=
  failure.status = 404 ∨ failure.status = 409
  deriving Decidable

/-- A call of the API. -/
inductive Call where
  | claim (eventId : Nat) (token : String)
  | feed
  | ack (eventId : Nat) (token : String)
  deriving Repr, DecidableEq

/-- Where the code that awaits a call continues. -/
inductive Place where
  | current
  | feed
  | candidate (rest : List Notification)
  | dismiss (shown : Notification) (opens : Bool)

/-- A call that is outstanding, with the `generation` and the `signal` of the
code that awaits it. -/
structure Pending where
  call : Call
  place : Place
  generation : Nat
  signal : Nat

/-- `NotificationController`: `signals` are the requests that were aborted and
`timers` the timers that are pending; `spawned`, `issued` and `opened` number
the timers, the tokens and the requests. -/
structure Controller where
  current : Option Notification
  unread : Nat
  busy : Bool
  error : Option String
  active : Bool
  seen : List Nat
  remaining : Nat
  claimToken : String
  timer : Option Nat
  request : Nat
  stopped : Bool
  authPaused : Bool
  generation : Nat
  signals : List Nat
  timers : List Nat
  spawned : Nat
  issued : Nat
  opened : Nat
  outstanding : List Pending

/-- The state that the constructor leaves. -/
def initial : Controller where
  current := none
  unread := 0
  busy := false
  error := none
  active := true
  seen := []
  remaining := 3
  claimToken := ""
  timer := none
  request := 0
  stopped := false
  authPaused := false
  generation := 0
  signals := []
  timers := []
  spawned := 0
  issued := 0
  opened := 1
  outstanding := []

/-- What can be seen of a step: a call is started while something is shown with
a token, a claim is answered with a notification that is kept, a notification
is newly displayed, an event is acknowledged or reported as read (and recorded
or not), `next` or `stop` is called, and the page is left. -/
inductive Effect where
  | called (call : Call) (shown : Option Notification) (claimToken : String)
  | claimed (notification : Notification) (token : String)
  | displayed (eventId : Nat)
  | settled (eventId : Nat) (isRecorded : Bool)
  | nexted
  | stopped
  | navigated
  deriving Repr, DecidableEq

/-- A controller and what has been seen of it. -/
structure Session where
  controller : Controller
  trace : List Effect

namespace Session

variable (session : Session)

/-- The controller is changed. -/
def update (change : Controller → Controller) : Session :=
  { session with controller := change session.controller }

/-- Something is seen. -/
def see (effect : Effect) : Session :=
  { session with trace := session.trace ++ [effect] }

/-! ## Timers and failures -/

/-- `schedule`. -/
def schedule : Session :=
  if session.controller.stopped = false ∧ session.controller.active = true ∧
      session.controller.authPaused = false then
    session.update fun controller =>
      { controller with
        timer := some controller.spawned
        timers := controller.timers ++ [controller.spawned]
        spawned := controller.spawned + 1 }
  else
    session

/-- `clearTimer`. -/
def clearTimer : Session :=
  session.update fun controller =>
    { controller with
      timers := controller.timers.filter fun timer =>
        some timer ≠ controller.timer
      timer := none }

/-- The signal of some code is aborted. -/
def IsAborted (signal : Nat) : Prop :=
  signal ∈ session.controller.signals
  deriving Decidable

/-- `fail`. -/
def fail (failure : Failure) : Session :=
  if session.IsAborted session.controller.request ∨
      session.controller.stopped = true then
    session
  else
    session.update fun controller =>
      let failed :=
        { controller with
          error := some
            (failure.message.getD "Уведомления временно недоступны.") }
      if failure.status = 401 ∨ failure.status = 403 then
        { failed with authPaused := true, current := none }
      else
        failed

/-- The `catch` of `poll` and `dismiss`. -/
def caught (signal : Nat) (failure : Failure) : Session :=
  if session.IsAborted signal then session else session.fail failure

/-- The check behind an `await`. -/
def IsStale (generation signal : Nat) : Prop :=
  session.IsAborted signal ∨ generation ≠ session.controller.generation
  deriving Decidable

/-! ## Polling -/

/-- A call is started and awaited. -/
def start (pending : Pending) : Session :=
  (session.update fun controller =>
    { controller with outstanding := controller.outstanding ++ [pending] }).see
    (.called pending.call session.controller.current
      session.controller.claimToken)

/-- `api.feed` is awaited. -/
def startFeed (generation signal : Nat) : Session :=
  session.start
    { call := .feed
      place := .feed
      generation
      signal }

/-- `poll`, up to its first `await`. -/
def poll : Session :=
  let controller := session.controller
  if controller.stopped = true ∨ controller.busy = true ∨
      controller.active = false ∨ controller.authPaused = true then
    session
  else
    let begun := session.clearTimer.update fun controller =>
      { controller with busy := true }
    match controller.current with
    | some current =>
        begun.start
          { call := .claim current.eventId controller.claimToken
            place := .current
            generation := controller.generation
            signal := controller.request }
    | none => begun.startFeed controller.generation controller.request

/-- The `busy` flag is reset. -/
def rest : Session :=
  session.update fun controller => { controller with busy := false }

variable (generation : Nat)

/-- Code of another generation ends in an active controller. -/
def MustPoll : Prop :=
  generation ≠ session.controller.generation ∧
    session.controller.active = true ∧ session.controller.stopped = false
  deriving Decidable

/-- The `finally` of `poll`. -/
def finishPoll : Session :=
  if session.rest.MustPoll generation then session.rest.poll
  else session.rest.schedule

/-- The loop over the candidates of a feed, up to its next `await`. -/
def tryCandidates (uuid : Nat → String) (session : Session)
    (generation signal : Nat) : List Notification → Session
  | [] => session.finishPoll generation
  | candidate :: others =>
      if candidate.eventId ∈ session.controller.seen then
        tryCandidates uuid session generation signal others
      else
        let token := uuid session.controller.issued
        (session.update fun controller =>
          { controller with
            claimToken := token
            issued := controller.issued + 1 }).start
          { call := .claim candidate.eventId token
            place := .candidate others
            generation
            signal }

/-- An event is recorded in `seen`. -/
def record (eventId : Nat) : Session :=
  session.update fun controller =>
    { controller with seen := eventId :: controller.seen }

/-- `poll` behind the claim of the current notification. -/
def afterCurrent (eventId : Nat) (token : String) (generation signal : Nat)
    (answer : Except Failure (Option Notification)) : Session :=
  match answer with
  | .ok found =>
      let answered :=
        match found with
        | none => session.see (.settled eventId false)
        | some _ => session
      if session.IsStale generation signal then
        answered.finishPoll generation
      else
        let shown := answered.update fun controller =>
          { controller with current := found }
        let claimed :=
          match found with
          | none => shown
          | some notification => shown.see (.claimed notification token)
        claimed.startFeed generation signal
  | .error failure =>
      if Failure.IsGone failure then
        (session.update fun controller =>
          { controller with current := none }).startFeed generation signal
      else
        (session.caught signal failure).finishPoll generation

variable (uuid : Nat → String)

/-- `poll` behind the feed. -/
def afterFeed (session : Session) (generation signal : Nat)
    (answer : Except Failure Feed) : Session :=
  match answer with
  | .ok data =>
      if session.IsStale generation signal then
        session.finishPoll generation
      else
        let updated := session.update fun controller =>
          { controller with unread := data.unread, error := none }
        if updated.controller.current = none ∧
            0 < updated.controller.remaining then
          updated.tryCandidates uuid generation signal data.items
        else
          updated.finishPoll generation
  | .error failure => (session.caught signal failure).finishPoll generation

/-- `poll` behind the claim of a candidate. -/
def afterCandidate (session : Session) (eventId : Nat) (token : String)
    (generation signal : Nat) (others : List Notification)
    (answer : Except Failure (Option Notification)) : Session :=
  match answer with
  | .ok found =>
      if session.IsStale generation signal then
        let answered :=
          match found with
          | none => session.see (.settled eventId false)
          | some _ => session
        answered.finishPoll generation
      else
        match found with
        | none =>
            ((session.see (.settled eventId true)).record
              eventId).tryCandidates uuid generation signal others
        | some notification =>
            (((session.update fun controller =>
              { controller with
                current := some notification
                remaining := controller.remaining - 1 }).see
              (.claimed notification token)).see
              (.displayed notification.eventId)).finishPoll generation
  | .error failure =>
      if Failure.IsGone failure then
        session.tryCandidates uuid generation signal others
      else
        (session.caught signal failure).finishPoll generation

/-! ## Dismissal -/

/-- `dismiss`, up to its `await`. -/
def dismiss (session : Session) (opens : Bool) : Session :=
  let controller := session.controller
  match controller.current with
  | none => session
  | some shown =>
      if controller.stopped = true ∨ controller.busy = true ∨
          controller.active = false then
        session
      else
        (session.clearTimer.update fun controller =>
          { controller with busy := true }).start
          { call := .ack shown.eventId controller.claimToken
            place := .dismiss shown opens
            generation := controller.generation
            signal := controller.request }

/-- The `finally` of `dismiss`. -/
def finishDismiss : Session :=
  if session.rest.MustPoll generation then session.rest.poll else session.rest

/-- What a successful acknowledgement changes. -/
def acknowledge (eventId : Nat) : Session :=
  ((session.see (.settled eventId true)).record eventId).update
    fun controller =>
      { controller with
        current := none
        error := none
        unread := controller.unread - 1 }

/-- `dismiss` behind the acknowledgement. -/
def afterAck (shown : Notification) (opens : Bool)
    (generation signal : Nat) (answer : Except Failure Unit) : Session :=
  match answer with
  | .ok () =>
      if session.IsStale generation signal then
        (session.see (.settled shown.eventId false)).finishDismiss generation
      else
        let finished :=
          (session.acknowledge shown.eventId).finishDismiss generation
        if opens = true then finished.see .navigated else finished.poll
  | .error failure =>
      ((session.caught signal failure).finishDismiss generation).schedule

/-! ## Steps -/

/-- `next`. -/
def next : Session :=
  ((session.update fun controller =>
    { controller with
      remaining := 3
      authPaused := false
      error := none }).see .nexted).poll

/-- The current request is aborted. -/
def abort : Session :=
  session.update fun controller =>
    { controller with signals := controller.request :: controller.signals }

/-- `setActive`. -/
def setActive (active : Bool) : Session :=
  if session.controller.stopped = true ∨ session.controller.active = active then
    session
  else
    let changed := session.update fun controller =>
      { controller with
        active := active
        generation := controller.generation + 1 }
    if active = false then
      changed.clearTimer.abort
    else
      let reopened := changed.update fun controller =>
        { controller with
          request := controller.opened
          opened := controller.opened + 1 }
      if reopened.controller.busy = false then reopened.poll else reopened

/-- `stop`. -/
def stop : Session :=
  (((session.update fun controller =>
    { controller with stopped := true }).see .stopped).clearTimer).abort

/-- The answer of a call. -/
inductive Answer where
  | claim (answer : Except Failure (Option Notification))
  | feed (answer : Except Failure Feed)
  | ack (answer : Except Failure Unit)

/-- What happens next. -/
inductive Event where
  | poll
  | fire (timer : Nat)
  | dismiss (opens : Bool)
  | next
  | setActive (active : Bool)
  | externalAck (eventId : Nat)
  | stop
  | complete (index : Nat) (answer : Answer)

/-- The code behind a call that is answered; an answer is one of its call. -/
def resume? (session : Session) (pending : Pending)
    (answer : Answer) : Option Session :=
  match pending.place, pending.call, answer with
  | .current, .claim eventId token, .claim answer =>
      some (session.afterCurrent eventId token pending.generation
        pending.signal answer)
  | .feed, .feed, .feed answer =>
      some (session.afterFeed uuid pending.generation pending.signal answer)
  | .candidate others, .claim eventId token, .claim answer =>
      some (session.afterCandidate uuid eventId token pending.generation
        pending.signal others answer)
  | .dismiss shown opens, .ack _ _, .ack answer =>
      some (session.afterAck shown opens pending.generation pending.signal
        answer)
  | _, _, _ => none

/-- One step: only a pending timer fires, and only an outstanding call is
answered. -/
def step? (session : Session) (event : Event) : Option Session :=
  match event with
  | .poll => some session.poll
  | .fire timer =>
      if timer ∈ session.controller.timers then
        some (session.update fun controller =>
          { controller with timers := controller.timers.erase timer }).poll
      else
        none
  | .dismiss opens => some (session.dismiss opens)
  | .next => some session.next
  | .setActive active => some (session.setActive active)
  | .externalAck _ => some session.poll
  | .stop => some session.stop
  | .complete index answer => do
      let pending ← session.controller.outstanding[index]?
      (session.update fun controller =>
        { controller with
          outstanding := controller.outstanding.eraseIdx index }).resume?
        uuid pending answer

end Session

end TicketSandbox.Frontend
