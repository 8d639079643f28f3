import TicketSandbox.Achievements.Grants
import TicketSandbox.Library.Leases
import TicketSandbox.Library.Runs

namespace TicketSandbox.Achievements.Notifications

/-!
# Delivery of notifications

`services/notifications.py`: a client that shows a notification claims it for a
while and acknowledges it.  The steps interleave on one notification; what the
other services write beside it is left open.
-/

open Sandbox (Pk Timestamp Uuid)
open Leases (Lease)
open Raises

/-! ## What may be seen -/

/-- The tables, and which definitions are secret. -/
structure Server where
  db : Db
  isSecret : Pk → Bool

variable (db : Db)

/-- The event of a notification, with its entitlement. -/
def Db.award? (row : AchievementNotification) :
    Option (AchievementEvent × UserAchievement) := do
  let event ← db.events.find? fun event => decide (event.pk = row.eventId)
  let entitlement ← db.achievements.find? fun entitlement =>
      decide (entitlement.pk = event.entitlementId)
  return (event, entitlement)

/-- `owned`: the notification and its award belong to the user. -/
def Db.isOwned (userId : Pk) (row : AchievementNotification) : Bool :=
  decide (row.userId = userId) && (Db.award? db row).any fun award =>
      decide (award.2.userId = userId) && Grants.isProof award.1

/-- `visible`: the definition is active, and a secret one has been awarded. -/
def Server.isVisible (server : Server) (row : AchievementNotification) : Bool :=
  (Db.award? server.db row).any fun award =>
    (server.db.definition? award.2.definitionId).any fun definition =>
      definition.active &&
        (!server.isSecret definition.pk || award.2.activeTier.isSome)

/-- The notification of an event. -/
def Db.notification? (eventId : Pk) : Option AchievementNotification :=
  db.notifications.find? fun row => decide (row.eventId = eventId)

/-- Save a notification. -/
def Db.saveNotification (row : AchievementNotification) : Db :=
  { db with
    notifications :=
      Rows.modify AchievementNotification.eventId row.eventId
        (fun _ => row) db.notifications }

/-- `PAGE_SIZE`. -/
def pageSize : Nat := 10

/-- A page of notifications. -/
structure Feed where
  items : List AchievementNotification
  unreadCount : Nat
  hasMore : Bool

/-- No lease of the notification is running. -/
def isAvailable (now : Timestamp) (row : AchievementNotification) : Bool :=
  row.claimExpiresAt.all fun expires => decide (expires ≤ now)

/-- The unread notifications that the user may see. -/
def Server.unread
    (server : Server) (userId : Pk) : List AchievementNotification :=
  server.db.notifications.filter fun row =>
    Db.isOwned server.db userId row && row.readAt.isNone && server.isVisible row

/-- `feed`. -/
def Server.feed (server : Server) (userId : Pk) (now : Timestamp) : Feed :=
  let available := (server.unread userId).filter (isAvailable now)
  let rows := (available.insertionSort fun first second =>
      first.eventId ≤ second.eventId).take pageSize
  { items := rows
    unreadCount := (server.unread userId).length
    hasMore := decide (rows.length < available.length) }

/-! ## Claims -/

/-- `LEASE_SECONDS`, in microseconds. -/
def leaseTime : Int := 90 * 1000000

/-- What `claim` and `acknowledge` raise. -/
inductive Refusal where
  | doesNotExist
  | conflict (message : String)

/-- What `claim` returns. -/
inductive Claim where
  | read
  | leased

/-- `owned(user_id).get`. -/
def getOwned (userId eventId : Pk) : Except Refusal AchievementNotification :=
  required .doesNotExist
    ((Db.notification? db eventId).filter (Db.isOwned db userId))

/-- `claim`. -/
def Server.claim (server : Server) (userId eventId : Pk) (claimToken : Uuid)
    (now : Timestamp) : Except Refusal (Db × Claim) := do
  let row ← getOwned server.db userId eventId
  if row.readAt.isSome = true then
    pure (server.db, .read)
  else do
    ensure (server.isVisible row = true) .doesNotExist
    ensure (row.claimToken = some claimToken ∨ isAvailable now row = true)
      (.conflict "claimed")
    pure (Db.saveNotification server.db
        { row with
          claimToken := some claimToken
          claimExpiresAt := some (now + leaseTime) },
        .leased)

/-- `acknowledge`. -/
def acknowledge (userId eventId : Pk) (claimToken : Uuid)
    (now : Timestamp) : Except Refusal (Db × Timestamp) := do
  let row ← getOwned db userId eventId
  match row.readAt with
  | some readAt => pure (db, readAt)
  | none => do
      ensure (row.claimToken = some claimToken) (.conflict "claim_required")
      pure (Db.saveNotification db
          { row with readAt := some now, claimExpiresAt := none },
          now)

/-! ## Interleaved clients -/

/-- What a client was answered. -/
inductive Answer where
  | claimed (result : Except Refusal Claim)
  | acknowledged (wasRead : Bool) (result : Except Refusal Timestamp)

/-- An answer, with the token of the client and the instant. -/
structure Reply where
  claimToken : Uuid
  instant : Timestamp
  answer : Answer

/-- The server, the clock, and what the clients were answered so far. -/
structure System where
  server : Server
  now : Timestamp
  replies : List Reply

/-- What happens next. -/
inductive Action where
  | claim (userId : Pk) (claimToken : Uuid)
  | acknowledge (userId : Pk) (claimToken : Uuid)
  | passed (later : Timestamp)
  | changed (server : Server)

/-- A client claims the notification. -/
def System.claim
    (sys : System) (eventId userId : Pk) (claimToken : Uuid) : System :=
  let result := sys.server.claim userId eventId claimToken sys.now
  { sys with
    server :=
      { sys.server with
        db := (result.map Prod.fst).toOption.getD sys.server.db }
    replies :=
      sys.replies ++
        [{ claimToken
           instant := sys.now
           answer := .claimed (result.map Prod.snd) }] }

/-- The notification has been read. -/
def Db.isRead (eventId : Pk) : Bool :=
  (Db.notification? db eventId).any fun row => row.readAt.isSome

/-- A client acknowledges the notification. -/
def System.acknowledge
    (sys : System) (eventId userId : Pk) (claimToken : Uuid) : System :=
  let db := sys.server.db
  let result := Notifications.acknowledge db userId eventId claimToken sys.now
  { sys with
    server := { sys.server with db := (result.map Prod.fst).toOption.getD db }
    replies :=
      sys.replies ++
        [{ claimToken
           instant := sys.now
           answer :=
             .acknowledged (Db.isRead db eventId) (result.map Prod.snd) }] }

/-- One step: a request on the notification, time that passes, or a change of
everything but the notification. -/
def step? (eventId : Pk) (sys : System) : Action → Option System
  | .claim userId claimToken => some (sys.claim eventId userId claimToken)
  | .acknowledge userId claimToken =>
      some (sys.acknowledge eventId userId claimToken)
  | .passed later =>
      if sys.now ≤ later then some { sys with now := later } else none
  | .changed server =>
      if Db.notification? server.db eventId =
          Db.notification? sys.server.db eventId then
        some { sys with server }
      else
        none

/-- The lease that a reply gives. -/
def Reply.lease? (reply : Reply) : Option (Lease Uuid) :=
  match reply.answer with
  | .claimed (.ok .leased) =>
      some
        { holder := reply.claimToken
          start := reply.instant
          expires := reply.instant + leaseTime }
  | _ => none

/-- The leases that clients were given. -/
def System.leases (sys : System) : List (Lease Uuid) :=
  sys.replies.filterMap Reply.lease?

/-- The reply says that the client has read the notification. -/
def Reply.reads (reply : Reply) : Bool :=
  match reply.answer with
  | .acknowledged false (.ok _) => true
  | _ => false

end TicketSandbox.Achievements.Notifications
