import TicketSandbox.Achievements.Notifications

namespace TicketSandbox.Achievements.Notifications

/-!
# Runs of notification clients

In every run on one notification the leases are given in turn, the client with
the last lease is the only one that can acknowledge it, and what is read stays
read.
-/

open Sandbox (Pk Timestamp Uuid)
open Leases (InTurn Lease)
open Raises
open Runs (Run anything)

/-! ## What a request does -/

variable {db : Db} {eventId userId : Pk} {row after : AchievementNotification}
  {sys next last : System} {reply : Reply} {actions : List Action}
  {instant : Timestamp}

theorem notification?_save (found : Db.notification? db eventId = some row)
    (change : AchievementNotification → AchievementNotification)
    (same : ∀ other, (change other).eventId = other.eventId) :
    Db.notification? (Db.saveNotification db (change row)) eventId =
      some (change row) := by
  have isEvent : row.eventId = eventId := by
    simpa using List.find?_some found
  unfold Db.notification? Db.saveNotification
  rw [Rows.find?_modify]
  · unfold Db.notification? at found
    simp [found, same]
  · intro other _ isOther
    simp [isOther]

theorem getOwned_ok :
    getOwned db userId eventId = .ok row ↔
      Db.notification? db eventId = some row ∧
        Db.isOwned db userId row = true := by
  rw [getOwned, required_ok, Option.filter_eq_some_iff]

/-- The reply reports the notification as read, or not as one of the user. -/
def Reply.isSettled (reply : Reply) : Bool :=
  match reply.answer with
  | .claimed (.ok .read) => true
  | .claimed (.error .doesNotExist) => true
  | .acknowledged true _ => true
  | _ => false

/-- A claim that gives a lease. -/
structure GivesLease (sys : System) (row next : AchievementNotification)
    (claimToken : Uuid) : Prop where
  unread : row.readAt = none
  free : row.claimToken = some claimToken ∨ isAvailable sys.now row = true
  saved : next =
      { row with
        claimToken := some claimToken
        claimExpiresAt := some (sys.now + leaseTime) }

/-- An acknowledgement that marks the notification as read. -/
structure MarksRead (sys : System) (row next : AchievementNotification)
    (claimToken : Uuid) : Prop where
  unread : row.readAt = none
  own : row.claimToken = some claimToken
  saved : next = { row with readAt := some sys.now, claimExpiresAt := none }

/-- What a step does to the notification and to the replies. -/
inductive Effect
    (sys next : System) (row after : AchievementNotification) : Prop where
  | idle (kept : after = row) (replies : next.replies = sys.replies)
      (later : sys.now ≤ next.now)
  | refused (reply : Reply) (kept : after = row)
      (replies : next.replies = sys.replies ++ [reply])
      (now : next.now = sys.now)
      (instant : reply.instant = sys.now)
      (noLease : reply.lease? = none)
      (reads : reply.reads = false)
      (settled : row.readAt ≠ none → reply.isSettled = true)
  | leased (reply : Reply) (leases : GivesLease sys row after reply.claimToken)
      (replies : next.replies = sys.replies ++ [reply])
      (now : next.now = sys.now)
      (instant : reply.instant = sys.now)
      (answer : reply.answer = .claimed (.ok .leased))
  | acknowledged (reply : Reply)
      (acknowledges : MarksRead sys row after reply.claimToken)
      (replies : next.replies = sys.replies ++ [reply])
      (now : next.now = sys.now)
      (instant : reply.instant = sys.now)
      (answer : reply.answer = .acknowledged false (.ok sys.now))

theorem claim_read
    {server : Server} (found : Db.notification? server.db eventId = some row)
    (isRead : row.readAt ≠ none) (userId : Pk) (claimToken : Uuid)
    (now : Timestamp) :
    server.claim userId eventId claimToken now =
      if Db.isOwned server.db userId row = true then
        .ok (server.db, .read)
      else
        .error .doesNotExist := by
  have isSome : row.readAt.isSome = true := Option.isSome_iff_ne_none.mpr isRead
  split
  · rename_i owned
    have read := getOwned_ok.mpr ⟨found, owned⟩
    unfold Server.claim
    rw [read]
    exact if_pos isSome
  · rename_i other
    have missing :
        getOwned server.db userId eventId = .error .doesNotExist := by
      rw [getOwned, found, Option.filter_some, if_neg other]
      rfl
    unfold Server.claim
    rw [missing]
    rfl

theorem claim_effect
    (found : Db.notification? sys.server.db eventId = some row) (userId : Pk)
    (claimToken : Uuid) :
    ∃ after,
      Db.notification? (sys.claim eventId userId claimToken).server.db eventId =
        some after ∧
      Effect sys (sys.claim eventId userId claimToken) row after := by
  unfold System.claim
  cases result : sys.server.claim userId eventId claimToken sys.now with
  | error refusal =>
      refine ⟨row, found, .refused _ rfl rfl rfl rfl rfl rfl ?_⟩
      intro isRead
      rw [claim_read found isRead] at result
      split at result
      · cases result
      · cases result
        rfl
  | ok answered =>
      obtain ⟨db, claim⟩ := answered
      simp only [Server.claim, bind_ok, getOwned_ok] at result
      obtain ⟨other, ⟨isRow, owned⟩, result⟩ := result
      obtain rfl := Option.some.inj (found.symm.trans isRow)
      split at result
      · cases result
        exact ⟨row, found, .refused _ rfl rfl rfl rfl rfl rfl fun _ => rfl⟩
      · rename_i unread
        simp only [bind_ok, ensure_ok, pure_ok] at result
        obtain ⟨_, _, _, free, same⟩ := result
        cases same
        refine ⟨_, notification?_save found
          (fun row : AchievementNotification =>
            { row with
              claimToken := some claimToken
              claimExpiresAt := some (sys.now + leaseTime) })
          fun _ => rfl, ?_⟩
        exact .leased _ ⟨by simpa using unread, free, rfl⟩ rfl rfl rfl rfl

theorem acknowledge_effect
    (found : Db.notification? sys.server.db eventId = some row) (userId : Pk)
    (claimToken : Uuid) :
    ∃ after, Db.notification?
          (sys.acknowledge eventId userId claimToken).server.db eventId =
        some after ∧
      Effect sys (sys.acknowledge eventId userId claimToken) row after := by
  have isRead : Db.isRead sys.server.db eventId = row.readAt.isSome := by
    rw [Db.isRead, found]
    rfl
  simp only [System.acknowledge, isRead]
  cases result :
      acknowledge sys.server.db userId eventId claimToken sys.now with
  | error refusal =>
      refine ⟨row, found, .refused _ rfl rfl rfl rfl rfl ?_ ?_⟩
      · cases row.readAt with
        | none => rfl
        | some readAt => rfl
      · intro wasRead
        rw [Option.isSome_iff_ne_none.mpr wasRead]
        rfl
  | ok answered =>
      obtain ⟨db, instant⟩ := answered
      simp only [Notifications.acknowledge, bind_ok, getOwned_ok] at result
      obtain ⟨other, ⟨isRow, owned⟩, result⟩ := result
      obtain rfl := Option.some.inj (found.symm.trans isRow)
      split at result
      · rename_i readAt wasRead
        cases result
        rw [wasRead]
        exact ⟨row, found, .refused _ rfl rfl rfl rfl rfl rfl fun _ => rfl⟩
      · rename_i unread
        simp only [bind_ok, ensure_ok, pure_ok] at result
        obtain ⟨_, own, same⟩ := result
        cases same
        rw [unread]
        refine ⟨_, notification?_save found
          (fun row : AchievementNotification =>
            { row with readAt := some sys.now, claimExpiresAt := none })
          fun _ => rfl, ?_⟩
        exact .acknowledged _ ⟨unread, own, rfl⟩ rfl rfl rfl rfl

theorem step_effect {action : Action}
    (found : Db.notification? sys.server.db eventId = some row)
    (stepped : step? eventId sys action = some next) :
    ∃ after, Db.notification? next.server.db eventId = some after ∧
      Effect sys next row after := by
  cases action with
  | claim userId claimToken =>
      cases stepped
      exact claim_effect found userId claimToken
  | acknowledge userId claimToken =>
      cases stepped
      exact acknowledge_effect found userId claimToken
  | passed later =>
      simp only [step?] at stepped
      split at stepped
      · rename_i isLater
        cases stepped
        exact ⟨row, found, .idle rfl rfl isLater⟩
      · cases stepped
  | changed server =>
      simp only [step?] at stepped
      split at stepped
      · rename_i same
        cases stepped
        exact ⟨row, same.trans found, .idle rfl rfl (Int.le_refl _)⟩
      · cases stepped

/-! ## What holds in every run -/

/-- A reply that leases names the holder and the end of the lease. -/
theorem lease?_eq_some {lease : Lease Uuid} :
    reply.lease? = some lease ↔ reply.answer = .claimed (.ok .leased) ∧ lease =
          { holder := reply.claimToken
            start := reply.instant
            expires := reply.instant + leaseTime } := by
  unfold Reply.lease?
  split
  · rename_i isLease
    rw [Option.some.injEq, isLease]
    exact ⟨fun same => ⟨rfl, same.symm⟩, fun both => both.2.symm⟩
  · rename_i other
    exact iff_of_false nofun fun both => other both.1

/-- What the notification and the replies have in common. -/
structure Tracked (sys : System) (row : AchievementNotification) : Prop where
  timely : ∀ reply ∈ sys.replies, reply.instant ≤ sys.now
  inTurn : InTurn sys.leases
  holder : row.claimToken = sys.leases.getLast?.map Lease.holder
  expires : row.readAt = none →
      row.claimExpiresAt = sys.leases.getLast?.map Lease.expires
  unread : row.readAt = none → ∀ reply ∈ sys.replies, reply.reads = false
  once : sys.replies.countP Reply.reads ≤ 1
  settled : sys.replies.Pairwise fun first second =>
      first.reads = true → second.isSettled = true
  fair : ∀ before reply, before ++ [reply] <+: sys.replies →
      reply.reads = true →
        (before.filterMap Reply.lease?).getLast?.map Lease.holder =
          some reply.claimToken

theorem Tracked.lease (tracked : Tracked sys row) {lease : Lease Uuid}
    (member : lease ∈ sys.leases) :
    lease.start ≤ sys.now ∧ lease.expires = lease.start + leaseTime := by
  obtain ⟨reply, isReply, isLease⟩ := List.mem_filterMap.mp member
  obtain ⟨_, rfl⟩ := lease?_eq_some.mp isLease
  exact ⟨tracked.timely reply isReply, rfl⟩

theorem Tracked.timely_append (tracked : Tracked sys row)
    (replies : next.replies = sys.replies ++ [reply]) (now : next.now = sys.now)
    (instant : reply.instant = sys.now) :
    ∀ other ∈ next.replies, other.instant ≤ next.now := by
  intro other member
  rw [replies] at member
  rw [now]
  rcases List.mem_append.mp member with old | new
  · exact tracked.timely other old
  · rw [List.mem_singleton.mp new, instant]

theorem Tracked.settled_append (tracked : Tracked sys row)
    (settled : row.readAt ≠ none → reply.isSettled = true) :
    (sys.replies ++ [reply]).Pairwise fun first second =>
      first.reads = true → second.isSettled = true := by
  refine List.pairwise_append.mpr
    ⟨tracked.settled, List.pairwise_singleton _ _, ?_⟩
  intro first member second isSecond reads
  rw [List.mem_singleton.mp isSecond]
  refine settled fun unread => ?_
  rw [tracked.unread unread first member] at reads
  cases reads

theorem Tracked.fair_append
    (tracked : Tracked sys row) (own : reply.reads = true →
        sys.leases.getLast?.map Lease.holder = some reply.claimToken) :
    ∀ before other, before ++ [other] <+: sys.replies ++ [reply] →
      other.reads = true →
        (before.filterMap Reply.lease?).getLast?.map Lease.holder =
          some other.claimToken := by
  intro before other isPrefix reads
  rcases List.prefix_concat_iff.mp isPrefix with same | earlier
  · obtain ⟨rfl, isReply⟩ := List.append_inj' same rfl
    cases isReply
    exact own reads
  · exact tracked.fair before other earlier reads

/-- Every step keeps the notification tracked. -/
theorem Tracked.step
    (tracked : Tracked sys row) (effect : Effect sys next row after) :
    Tracked next after := by
  cases effect with
  | idle kept replies later =>
      subst kept
      have leases : next.leases = sys.leases := by
        rw [System.leases, replies]
        rfl
      refine ⟨?_, ?_, ?_, ?_, ?_, ?_, ?_, ?_⟩
      · intro reply member
        rw [replies] at member
        exact Int.le_trans (tracked.timely reply member) later
      · rw [leases]
        exact tracked.inTurn
      · rw [leases]
        exact tracked.holder
      · rw [leases]
        exact tracked.expires
      · rw [replies]
        exact tracked.unread
      · rw [replies]
        exact tracked.once
      · rw [replies]
        exact tracked.settled
      · rw [replies]
        exact tracked.fair
  | refused reply kept replies now instant noLease reads settled =>
      subst kept
      have leases : next.leases = sys.leases := by
        rw [System.leases, replies, List.filterMap_append]
        simp [System.leases, noLease]
      refine ⟨tracked.timely_append replies now instant, ?_, ?_, ?_, ?_, ?_,
        ?_, ?_⟩
      · rw [leases]
        exact tracked.inTurn
      · rw [leases]
        exact tracked.holder
      · rw [leases]
        exact tracked.expires
      · intro unread other member
        rw [replies] at member
        rcases List.mem_append.mp member with old | new
        · exact tracked.unread unread other old
        · rw [List.mem_singleton.mp new]
          exact reads
      · rw [replies, List.countP_append]
        simpa [reads] using tracked.once
      · rw [replies]
        exact tracked.settled_append settled
      · rw [replies]
        refine tracked.fair_append fun isRead => ?_
        rw [reads] at isRead
        cases isRead
  | leased reply gives replies now instant answer =>
      have isLease := lease?_eq_some.mpr ⟨answer, rfl⟩
      have reads : reply.reads = false := by
        rw [Reply.reads, answer]
      have leases : next.leases = sys.leases ++
              [{ holder := reply.claimToken
                 start := reply.instant
                 expires := reply.instant + leaseTime }] := by
        rw [System.leases, replies, List.filterMap_append]
        simp [System.leases, isLease]
      have last : next.leases.getLast? = some
              { holder := reply.claimToken
                start := reply.instant
                expires := reply.instant + leaseTime } := by
        rw [leases, List.getLast?_concat]
      refine ⟨tracked.timely_append replies now instant, ?_, ?_, ?_, ?_, ?_,
        ?_, ?_⟩
      · rw [leases]
        refine tracked.inTurn.append fun previous isLast => ?_
        obtain ⟨begun, lasts⟩ := tracked.lease (List.mem_of_getLast? isLast)
        rw [instant]
        refine ⟨⟨?_, ?_⟩, begun⟩
        · rcases gives.free with own | available
          · rw [tracked.holder, isLast] at own
            exact .inl (Option.some.inj own)
          · have running := tracked.expires gives.unread
            rw [isLast] at running
            rw [isAvailable, running] at available
            exact .inr (of_decide_eq_true available)
        · rw [lasts]
          exact Int.add_le_add_right begun _
      · rw [last, gives.saved]
        rfl
      · intro _
        rw [last, gives.saved, instant]
        rfl
      · intro _ other member
        rw [replies] at member
        rcases List.mem_append.mp member with old | new
        · exact tracked.unread gives.unread other old
        · rw [List.mem_singleton.mp new]
          exact reads
      · rw [replies, List.countP_append]
        simpa [reads] using tracked.once
      · rw [replies]
        exact tracked.settled_append fun isRead => (isRead gives.unread).elim
      · rw [replies]
        refine tracked.fair_append fun isRead => ?_
        rw [reads] at isRead
        cases isRead
  | acknowledged reply marks replies now instant answer =>
      have noLease : reply.lease? = none := by
        rw [Reply.lease?, answer]
      have leases : next.leases = sys.leases := by
        rw [System.leases, replies, List.filterMap_append]
        simp [System.leases, noLease]
      have isRead : after.readAt ≠ none := by
        rw [marks.saved]
        exact nofun
      refine ⟨tracked.timely_append replies now instant, ?_, ?_, ?_, ?_, ?_,
        ?_, ?_⟩
      · rw [leases]
        exact tracked.inTurn
      · rw [leases, marks.saved]
        exact tracked.holder
      · exact fun unread => (isRead unread).elim
      · exact fun unread => (isRead unread).elim
      · have none : sys.replies.countP Reply.reads = 0 :=
          List.countP_eq_zero.mpr fun other member => by
            simp [tracked.unread marks.unread other member]
        rw [replies, List.countP_append, none, Nat.zero_add]
        exact List.countP_le_length
      · rw [replies]
        exact tracked.settled_append fun wasRead => (wasRead marks.unread).elim
      · rw [replies]
        refine tracked.fair_append fun _ => ?_
        rw [← tracked.holder]
        exact marks.own

/-! ## Runs -/

/-- Nobody has claimed the notification, and nobody was answered. -/
structure IsFresh (eventId : Pk) (sys : System) : Prop where
  queued : ∃ row, Db.notification? sys.server.db eventId = some row ∧
      row.readAt = none ∧ row.claimToken = none ∧ row.claimExpiresAt = none
  replies : sys.replies = []

theorem IsFresh.tracked (fresh : IsFresh eventId sys) :
    ∃ row, Db.notification? sys.server.db eventId = some row ∧
      Tracked sys row := by
  obtain ⟨row, found, unread, unclaimed, unleased⟩ := fresh.queued
  have leases : sys.leases = [] := by
    rw [System.leases, fresh.replies]
    rfl
  refine ⟨row, found, ?_, ?_, ?_, ?_, ?_, ?_, ?_, ?_⟩
  · simp [fresh.replies]
  · rw [leases]
    exact List.Pairwise.nil
  · rw [leases]
    exact unclaimed
  · rw [leases]
    exact fun _ => unleased
  · simp [fresh.replies]
  · simp [fresh.replies]
  · simp [fresh.replies]
  · simp [fresh.replies]

theorem Tracked.run
    (run : Run (step? eventId) anything sys actions last) (initially :
      ∃ row, Db.notification? sys.server.db eventId = some row ∧
        Tracked sys row) :
    ∃ row, Db.notification? last.server.db eventId = some row ∧
      Tracked last row := by
  refine run.invariant (fun state =>
      ∃ row, Db.notification? state.server.db eventId = some row ∧
        Tracked state row) ?_ initially
  rintro state action next - stepped ⟨row, found, tracked⟩
  obtain ⟨after, isAfter, effect⟩ := step_effect found stepped
  exact ⟨after, isAfter, tracked.step effect⟩

theorem Effect.readAt
    (effect : Effect sys next row after) (isRead : row.readAt = some instant) :
    after.readAt = some instant := by
  cases effect with
  | idle kept => exact kept ▸ isRead
  | refused reply kept => exact kept ▸ isRead
  | leased reply gives =>
      rw [gives.unread] at isRead
      cases isRead
  | acknowledged reply marks =>
      rw [marks.unread] at isRead
      cases isRead

theorem readAt_run (run : Run (step? eventId) anything sys actions last)
    (found : Db.notification? sys.server.db eventId = some row)
    (isRead : row.readAt = some instant) :
    ∃ after, Db.notification? last.server.db eventId = some after ∧
      after.readAt = some instant := by
  refine run.invariant (fun state =>
      ∃ after, Db.notification? state.server.db eventId = some after ∧
        after.readAt = some instant) ?_ ⟨row, found, isRead⟩
  rintro state action next - stepped ⟨before, isBefore, wasRead⟩
  obtain ⟨after, isAfter, effect⟩ := step_effect isBefore stepped
  exact ⟨after, isAfter, effect.readAt wasRead⟩

theorem split_of_getLast? {replies : List Reply} {lease : Lease Uuid}
    (isLast : (replies.filterMap Reply.lease?).getLast? = some lease) :
    ∃ earlier own later, replies = earlier ++ own :: later ∧
      own.lease? = some lease ∧ ∀ other ∈ later, other.lease? = none := by
  obtain ⟨before, shape⟩ := List.getLast?_eq_some_iff.mp isLast
  obtain ⟨first, second, rfl, _, rest⟩ := List.filterMap_eq_append_iff.mp shape
  obtain ⟨between, own, later, rfl, _, isLease, others⟩ :=
    List.filterMap_eq_cons_iff.mp rest
  refine ⟨first ++ between, own, later, by simp, isLease, ?_⟩
  exact List.filterMap_eq_nil_iff.mp others

theorem mem_feed {server : Server} {now : Timestamp}
    (shown : row ∈ (server.feed userId now).items) :
    row ∈ server.db.notifications ∧ row.readAt = none ∧
      isAvailable now row = true := by
  have sorted := List.mem_of_mem_take shown
  obtain ⟨unread, available⟩ :=
    List.mem_filter.mp ((List.mem_insertionSort _).mp sorted)
  obtain ⟨listed, seen⟩ := List.mem_filter.mp unread
  simp only [Bool.and_eq_true, Option.isNone_iff_eq_none] at seen
  exact ⟨listed, seen.1.2, available⟩

/-- How a notification is delivered. -/
structure IsDelivered (eventId : Pk) (sys : System) : Prop where
  oneHolder : ∀ moment, ∀ first ∈ sys.leases, ∀ second ∈ sys.leases,
      first.IsHeld moment → second.IsHeld moment → first.holder = second.holder
  acknowledged : ∀ before reply, before ++ [reply] <+: sys.replies →
      reply.reads = true →
        ∃ earlier own later, before = earlier ++ own :: later ∧
          own.claimToken = reply.claimToken ∧
            own.answer = .claimed (.ok .leased) ∧
              ∀ other ∈ later, other.answer ≠ .claimed (.ok .leased)
  once : sys.replies.countP Reply.reads ≤ 1
  settled : sys.replies.Pairwise fun first second =>
      first.reads = true → second.isSettled = true
  fixed : ∀ row instant, Db.notification? sys.server.db eventId = some row →
      row.readAt = some instant →
        ∀ actions last, Run (step? eventId) anything sys actions last →
          ∃ after, Db.notification? last.server.db eventId = some after ∧
            after.readAt = some instant
  reported : ∀ row, Db.notification? sys.server.db eventId = some row →
      row.readAt ≠ none → ∀ userId claimToken now,
          sys.server.claim userId eventId claimToken now =
            if Db.isOwned sys.server.db userId row = true then
              .ok (sys.server.db, .read)
            else
              .error .doesNotExist
  shown : ∀ row, Db.notification? sys.server.db eventId = some row →
      ∀ userId, row ∈ (sys.server.feed userId sys.now).items →
        ∀ lease ∈ sys.leases, ¬ lease.IsHeld sys.now

/-- In every run of clients on a fresh notification it is delivered: one token
holds a lease, the last one to be given a lease acknowledges, and what is read
stays read. -/
theorem run_isDelivered {eventId : Pk} {first last : System}
    {actions : List Action} (fresh : IsFresh eventId first)
    (run : Run (step? eventId) anything first actions last) :
    IsDelivered eventId last := by
  obtain ⟨row, found, tracked⟩ := Tracked.run run fresh.tracked
  refine ⟨?_, ?_, tracked.once, tracked.settled, ?_, ?_, ?_⟩
  · intro moment one isOne other isOther
    exact tracked.inTurn.holder_eq isOne isOther
  · intro before reply isPrefix reads
    have holder := tracked.fair before reply isPrefix reads
    obtain ⟨lease, isLast, same⟩ := Option.map_eq_some_iff.mp holder
    obtain ⟨earlier, own, later, shape, isLease, others⟩ :=
      split_of_getLast? isLast
    obtain ⟨leased, isOwn⟩ := lease?_eq_some.mp isLease
    refine ⟨earlier, own, later, shape, ?_, leased, ?_⟩
    · rw [← same, isOwn]
    · intro other member again
      have isSome := lease?_eq_some.mpr ⟨again, rfl⟩
      rw [others other member] at isSome
      cases isSome
  · intro other instant isOther isRead rest final continued
    exact readAt_run continued isOther isRead
  · intro other isOther isRead userId claimToken now
    exact claim_read isOther isRead userId claimToken now
  · intro other isOther userId shown lease member held
    obtain rfl := Option.some.inj (found.symm.trans isOther)
    obtain ⟨_, unread, available⟩ := mem_feed shown
    cases isLast : last.leases.getLast? with
    | none =>
        rw [List.getLast?_eq_none_iff.mp isLast] at member
        cases member
    | some final =>
        have running := tracked.expires unread
        rw [isLast] at running
        rw [isAvailable, running] at available
        have expired : final.expires ≤ last.now := of_decide_eq_true available
        have lasts := tracked.inTurn.expires_le member isLast
        exact Int.not_lt.mpr (Int.le_trans lasts expired) held.lasts

/-- A definition with one award of it. -/
def awardedDb : Db where
  catalog :=
    { definitions :=
        [{ pk := 1
           code := "a"
           kind := .tiered
           active := true
           applicability := .both
           evaluatorKey := "training_program"
           ruleVersion := 1
           artKey := "" }]
      tiers := [] }
  hasUser := fun _ => true
  digest := fun _ => 0
  boundary := none
  serial := 2
  achievements :=
    [{ pk := 1
       userId := 5
       definitionId := 1
       activeTier := none
       firstGrantedAt := none
       lastUpgradedAt := none
       lastChangedAt := none
       revision := 1
       autoGrantBlocked := false
       evidenceDisputed := false }]
  events :=
    [{ pk := 1
       entitlementId := 1
       action := .grant
       fromTier := none
       toTier := none
       actorId := none
       occurredAt := 0
       recordedAt := 0
       sourceType := ""
       sourceRef := []
       ruleVersion := 1
       evidence := {}
       evidenceDigest := 0
       reason := []
       idempotencyKey := 0
       revokedEvent := none }]
  operations := []
  notifications :=
    [{ eventId := 1
       userId := 5
       readAt := none
       claimToken := none
       claimExpiresAt := none }]
  sources := []

/-- The award of the example has just been queued. -/
def queuedSystem : System where
  server := { db := awardedDb, isSecret := fun _ => false }
  now := 0
  replies := []

/-- The first client loses its lease to the second one, which acknowledges. -/
def lateActions : List Action :=
  [.claim 5 1, .claim 5 2, .passed leaseTime, .claim 5 2,
    .acknowledge 5 1, .acknowledge 5 2, .claim 5 1]

theorem run_isDelivered_late :
    IsDelivered 1 (Runs.after (step? 1) queuedSystem lateActions) :=
  @run_isDelivered 1 queuedSystem _ lateActions ⟨⟨_, rfl, rfl, rfl, rfl⟩, rfl⟩
    (Runs.run_after (fun _ _ _ => trivial) (by decide))

end TicketSandbox.Achievements.Notifications
