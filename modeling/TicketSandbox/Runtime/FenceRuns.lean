import TicketSandbox.Library.Upserts
import TicketSandbox.Runtime.CleanupRuns

namespace TicketSandbox.Runtime

/-!
# Fences over a run

What a fence is for is dispatched once, by the first transaction of the one
caller that may enter its body.  Entering consumes what that caller holds.
-/

open Runs
open Sandbox (Timestamp)
open Authority

/-- What a fence is for: a creation, the start of a target, or of a run. -/
inductive Subject where
  | create (kind : Kind) (intentUuid : Uuid)
  | targetStart (provisioningUuid : Uuid)
  | start (runUuid : Uuid)
  deriving Repr, DecidableEq

namespace Fence

/-- What the fence is for. -/
def subject : Fence → Subject
  | .create permit => .create permit.resource.kind permit.intentUuid
  | .targetStart provisioningUuid => .targetStart provisioningUuid
  | .start permit => .start permit.runUuid

end Fence

namespace Subject

/-- The object that the subject belongs to. -/
def object : Subject → Kind × Uuid
  | .create kind intentUuid => (kind, intentUuid)
  | .targetStart provisioningUuid => (.target, provisioningUuid)
  | .start runUuid => (.run, runUuid)

/-- The event enters a body for the subject. -/
def isEntered (subject : Subject) : Event → Bool
  | .entered fence => decide (fence.subject = subject)
  | _ => false

/-- The caller may enter a body for the subject. -/
def isHeld (subject : Subject) (held : Claimed) : Bool :=
  decide (held.fence.subject = subject)

end Subject

namespace System

/-- How often a body was entered for the subject. -/
def entries (sys : System) (subject : Subject) : Nat :=
  sys.log.countP subject.isEntered

/-- How often a body was entered for the subject or still may be. -/
def chances (sys : System) (subject : Subject) : Nat :=
  sys.entries subject + sys.claimed.countP subject.isHeld

end System

/-- The phases of a run before its start was dispatched. -/
def earlyPhases : List ObjectPhase :=
  [.reserved, .checkedCreate, .createRequested, .runnerOwned, .checkedStart,
    .startAuthorized]

/-- The subject was not dispatched yet. -/
def IsIdle (db : Journal) : Subject → Prop
  | .create kind intentUuid =>
      Documents.get? db.createDispatches (kind, intentUuid) = none
  | .targetStart provisioningUuid =>
      Documents.get? db.targetStartDispatches provisioningUuid = none
  | .start runUuid =>
      ∀ row ∈ db.objects, row.key = (.run, runUuid) → row.phase ∈ earlyPhases

variable {reopened : Option (Kind × Uuid)} {old new : Journal} {fence : Fence}
  {label : Label} {sys next : System} {action : Action}

namespace RowChange

theorem early {row : RuntimeObject} {after : After}
    (how : RowChange reopened old new row label after) (isRun : row.kind = .run)
    (isEarly : after.phase ∈ earlyPhases) :
    row.phase ∈ earlyPhases ∧ ∀ fence, label ≠ .claimed fence := by
  cases how with
  | requested idle => simp [idle, isRun, createPhase, earlyPhases]
  | owned awaited document fresh recorded isOpen expected =>
      cases awaited with
      | true => simp [expected rfl, earlyPhases]
      | false => simp [ownedState, earlyPhases] at isEarly
  | ownedLate => exact ⟨isEarly, by simp⟩
  | quarantined | revoked => simp [earlyPhases] at isEarly
  | verified isTarget | enrolled isTarget =>
      exact absurd (isRun.symm.trans isTarget) (by decide)
  | checked phase approval enrollment checked isRun before =>
      cases phase with
      | enroll => cases before
      | beforeCreate => simp [← Option.some.inj before, earlyPhases]
      | beforeStart => simp [← Option.some.inj before, earlyPhases]
      | beforeProbe | afterProbe | beforePublish =>
          simp [phaseAfter, earlyPhases] at isEarly
  | authorized permit owned isRun phase => simp [phase, earlyPhases]
  | claimed | invoked | live | probed | terminated =>
      simp [earlyPhases] at isEarly
  | cleaned => exact ⟨isEarly, by simp⟩

theorem claim {row : RuntimeObject} {after : After}
    (how : RowChange reopened old new row (.claimed fence) after) :
    fence.subject = .start row.id ∧ row.kind = .run ∧
      row.phase ∈ earlyPhases ∧ after.phase ∉ earlyPhases := by
  cases how with
  | claimed permit isRun phase issued runUuid =>
      simp [Fence.subject, runUuid, isRun, phase, earlyPhases]

end RowChange

namespace Change

/-- A change only adds documents. -/
theorem grown (changed : Change reopened old new label) :
    Grown old new := by
  cases changed with
  | quiet label uncounted objects docs dispatches grown => exact grown
  | inserted kind intent fingerprint absent resource targets enrolled
      objects docs dispatches grown =>
      exact grown
  | claimedCreate permit claims others objects docs grown => exact grown
  | claimedTargetStart provisioningUuid claims others objects docs grown =>
      exact grown
  | moved label row after member how frozen objects docs dispatches grown =>
      exact grown

theorem idle (changed : Change reopened old new label) (sound : Sound old)
    {subject : Subject} (isIdle : IsIdle new subject) :
    IsIdle old subject := by
  cases subject with
  | create kind intentUuid =>
      refine Option.eq_none_iff_forall_not_mem.mpr fun permit found => ?_
      have kept := changed.grown.createDispatches.kept _ _ found
      exact absurd (kept.symm.trans isIdle) (by simp)
  | targetStart provisioningUuid =>
      refine Option.eq_none_iff_forall_not_mem.mpr fun started found => ?_
      have kept := changed.grown.targetStartDispatches.kept _ _ found
      exact absurd (kept.symm.trans isIdle) (by simp)
  | start runUuid =>
      intro row member isRun
      cases changed with
      | quiet label uncounted objects =>
          exact isIdle row (objects ▸ member) isRun
      | claimedCreate permit claims others objects =>
          exact isIdle row (objects ▸ member) isRun
      | claimedTargetStart provisioningUuid claims others objects =>
          exact isIdle row (objects ▸ member) isRun
      | inserted kind intent fingerprint absent resource targets enrolled
          objects =>
          exact isIdle row (objects ▸ List.mem_append_left _ member) isRun
      | moved label moving after movingMember how frozen objects =>
          by_cases same : row.key = moving.key
          · have isMoving := Rows.eq_of_key sound.keys member movingMember same
            subst isMoving
            have isEarly := isIdle
                (Journal.movedRow row after.phase after.cleanup after.terminal)
                (objects ▸ (Journal.mem_moved member).mpr (.inl rfl)) isRun
            exact (how.early (congrArg Prod.fst isRun) isEarly).1
          · exact isIdle row (objects ▸
                  (Journal.mem_moved movingMember).mpr (.inr ⟨member, same⟩))
                isRun

theorem dispatches
    (changed : Change reopened old new (.claimed fence)) (sound : Sound old) :
    IsIdle old fence.subject ∧ ¬ IsIdle new fence.subject := by
  have isDispatched {κ α : Type} [DecidableEq κ]
      {before after : Documents.Table κ α} {key : κ}
      (claims : Claims before after key) :
      Documents.get? after key ≠ none := by
    intro absent
    have isSome := claims.2.1
    simp [absent] at isSome
  cases changed with
  | quiet label uncounted => simp at uncounted
  | claimedCreate permit claims => exact ⟨claims.1, isDispatched claims⟩
  | claimedTargetStart provisioningUuid claims =>
      exact ⟨claims.1, isDispatched claims⟩
  | moved label row after member how frozen objects =>
      obtain ⟨isStart, isRun, isEarly, isLate⟩ := how.claim
      have isKey : row.key = (.run, row.id) := by
        simp [RuntimeObject.key, isRun]
      rw [isStart]
      refine ⟨?_, ?_⟩
      · intro other otherMember sameKey
        have same := Rows.eq_of_key sound.keys otherMember member
            (sameKey.trans isKey.symm)
        exact same ▸ isEarly
      · intro isIdle
        exact isLate (isIdle
              (Journal.movedRow row after.phase after.cleanup after.terminal)
              (objects ▸ (Journal.mem_moved member).mpr (.inl rfl)) isKey)

end Change

/-- What is dispatched at most once is entered at most once. -/
structure Exclusive (sys : System) : Prop where
  sound : Sound sys.journal
  once : ∀ subject, sys.chances subject ≤ 1
  idle : ∀ subject, IsIdle sys.journal subject → sys.chances subject = 0

namespace Exclusive

theorem fresh (live : Bool) (digest : Digested → Digest) :
    Exclusive (System.fresh live digest) where
  sound := .fresh live digest
  once := fun _ => Nat.zero_le 1
  idle := fun _ _ => rfl

theorem chances_of_trail (trail : Trail sys next label) (subject : Subject) :
    next.chances subject ≤ sys.chances subject ∨ ∃ fence,
        label = .claimed fence ∧ fence.subject = subject ∧
          next.chances subject = sys.chances subject + 1 := by
  cases trail with
  | plain events claimed log rejections =>
      have none : events.countP subject.isEntered = 0 := by
        rw [List.countP_eq_zero]
        intro event member
        obtain ⟨runId, rfl⟩ := rejections event member
        simp [Subject.isEntered]
      left
      simp [System.chances, System.entries, claimed, log, none]
  | left index claimed log =>
      left
      simp only [System.chances, System.entries, claimed, log]
      exact Nat.add_le_add_left ((List.eraseIdx_sublist _ index).countP_le) _
  | entered index held found claimed log =>
      have taken := Rows.countP_eraseIdx subject.isHeld found
      have consumed :
          subject.isEntered (.entered held.fence) = subject.isHeld held :=
        rfl
      left
      simp only [System.chances, System.entries, claimed, log,
        List.countP_append, List.countP_singleton, taken, consumed]
      omega
  | checked runId phase claimed log =>
      left
      simp [System.chances, System.entries, claimed, log, Subject.isEntered]
  | probed runId signed claimed log =>
      left
      simp [System.chances, System.entries, claimed, log, Subject.isEntered]
  | claimed held claimed log =>
      by_cases same : held.fence.subject = subject
      · right
        refine ⟨held.fence, rfl, same, ?_⟩
        simp [System.chances, System.entries, claimed, log,
          Subject.isHeld, same, Nat.add_assoc]
      · left
        simp [System.chances, System.entries, claimed, log,
          Subject.isHeld, same]

theorem step
    (exclusive : Exclusive sys) (stepped : sys.step? action = some next) :
    Exclusive next := by
  obtain ⟨label, changed, trail⟩ := System.step?_moves stepped
  refine ⟨exclusive.sound.change changed, ?_, ?_⟩
  · intro subject
    rcases chances_of_trail trail subject with
      fewer | ⟨fence, rfl, rfl, more⟩
    · exact fewer.trans (exclusive.once subject)
    · have wasIdle := (changed.dispatches exclusive.sound).1
      rw [more, exclusive.idle _ wasIdle]
  · intro subject isIdle
    rcases chances_of_trail trail subject with
      fewer | ⟨fence, rfl, rfl, more⟩
    · have wasIdle := changed.idle exclusive.sound isIdle
      exact Nat.le_zero.mp (fewer.trans (exclusive.idle subject wasIdle).le)
    · exact absurd isIdle (changed.dispatches exclusive.sound).2

end Exclusive

/-- The object is current for its approval when the clock reads the time. -/
def IsValidAt
    (db : Journal) (object : Kind × Uuid) (reading : Timestamp) : Prop :=
  ∃ authority row approval, db.object? object.1 object.2 = some row ∧
      Documents.get? db.approvals row.intent.approvalUuid = some approval ∧
      IsCurrentRow authority db approval reading row

namespace System

theorem entrance_valid
    {claimed : Claimed} {reading second : Timestamp} {entered : Journal}
    (returned : sys.entrance claimed reading second = .ok entered) :
    IsValidAt sys.journal claimed.fence.subject.object reading := by
  have valid {kind : Kind} {id : Uuid} {row : RuntimeObject}
      {approval : RuntimeApproval}
      (isObject :
        claimed.authority.object sys.journal kind id = .ok (row, approval))
      (isCurrent : IsCurrentRow claimed.authority
          { sys.journal with clockHighwater := reading } approval reading
          row) :
      IsValidAt sys.journal (kind, id) reading := by
    obtain ⟨isRow, isApproval, _⟩ := object_ok.mp isObject
    exact
      ⟨claimed.authority, row, approval, isRow, isApproval, isCurrent.of_now⟩
  simp only [entrance] at returned
  cases isFence : claimed.fence with
  | create permit =>
      simp only [isFence, enterCreate, Raises.bind_ok, Journal.now_ok,
        currentRow_ok] at returned
      obtain ⟨⟨row, approval⟩, isObject, _, ⟨_, _, rfl⟩, _, isCurrent, _⟩ :=
        returned
      exact valid isObject isCurrent
  | targetStart provisioningUuid =>
      simp only [isFence, enterTargetStart, Raises.bind_ok, Journal.now_ok,
        currentRow_ok] at returned
      obtain ⟨⟨row, approval⟩, isObject, _, ⟨_, _, rfl⟩, _, isCurrent, _⟩ :=
        returned
      exact valid isObject isCurrent
  | start permit =>
      simp only [isFence, enterStart, Raises.bind_ok, Journal.now_ok,
        currentRow_ok] at returned
      obtain ⟨⟨row, approval⟩, isObject, _, ⟨_, _, rfl⟩, _, isCurrent, _⟩ :=
        returned
      exact valid isObject isCurrent

theorem commit_log (sys : System) (result : Except Failure Journal) :
    (sys.commit result).log = sys.log := by
  cases result with
  | error failure => rfl
  | ok journal => rfl

theorem claim_log
    (sys : System) (held : Claimed) (result : Except Failure Journal) :
    (sys.claim held result).log = sys.log := by
  cases result with
  | error failure => rfl
  | ok journal => rfl

/-- The step adds events to the log, none of which enters a body. -/
def Outside (sys next : System) : Prop :=
  ∃ events, next.log = sys.log ++ events ∧ ∀ fence, .entered fence ∉ events

theorem outside_of_log (log : next.log = sys.log) : Outside sys next :=
  ⟨[], by simp [log], by simp⟩

theorem reject_outside (log : next.log = sys.log) (runId : Uuid) :
    Outside sys (next.reject runId) := by
  simp only [reject]
  split
  · exact ⟨[.rejected runId], by simp [log], by simp⟩
  · exact outside_of_log log

theorem step?_outside (stepped : sys.step? action = some next) (notEnter :
      ∀ index reading second ending,
        action ≠ .enter index reading second ending) :
    Outside sys next := by
  cases action with
  | enter index reading second ending =>
      exact absurd rfl (notEnter index reading second ending)
  | requestStop =>
      cases stepped
      exact outside_of_log rfl
  | claimCreate | claimTargetStart | claimStart =>
      cases stepped
      exact outside_of_log (claim_log _ _ _)
  | guarded authority runId call reading =>
      cases stepped
      simp only [guard]
      split
      · exact reject_outside rfl runId
      · split
        · refine ⟨call.events runId, rfl, fun fence => ?_⟩
          cases call with
          | checkTarget => simp [Guarded.events]
          | recordRunnerLive => simp [Guarded.events]
          | recordProbe => simp [Guarded.events]
          | recordRunnerFinished => simp [Guarded.events]
        · exact outside_of_log rfl
        · exact outside_of_log rfl
  | publish authority runId reading =>
      cases stepped
      simp only [publish]
      split
      · exact outside_of_log rfl
      · exact outside_of_log rfl
      · exact outside_of_log rfl
  | close index reading =>
      obtain ⟨closing, _, result⟩ := Option.bind_eq_some_iff.mp stepped
      cases result
      simp only [close]
      split
      · refine reject_outside ?_ closing.runId
        exact commit_log sys _
      · exact outside_of_log (commit_log sys _)
  | _ =>
      cases stepped
      exact outside_of_log (commit_log _ _)

theorem entered_valid
    {events : List Event} (stepped : sys.step? action = some next)
    (log : next.log = sys.log ++ events) (isEntered : .entered fence ∈ events) :
    ∃ index reading second ending, action = .enter index reading second ending ∧
        IsValidAt sys.journal fence.subject.object reading := by
  by_cases isEnter :
      ∃ index reading second ending, action = .enter index reading second ending
  · obtain ⟨index, reading, second, ending, rfl⟩ := isEnter
    refine ⟨index, reading, second, ending, rfl, ?_⟩
    obtain ⟨claimed, found, result⟩ := Option.bind_eq_some_iff.mp stepped
    cases result
    simp only [enter] at log
    split at log
    · have none : events = [] := by
        simpa using log
      simp [none] at isEntered
    · rename_i entered returned
      have only : [.entered claimed.fence] = events :=
        List.append_cancel_left log
      rw [← only, List.mem_singleton, Event.entered.injEq] at isEntered
      exact isEntered ▸ entrance_valid returned
  · obtain ⟨others, otherLog, outside⟩ :=
      step?_outside stepped fun index reading second ending isAction =>
        isEnter ⟨index, reading, second, ending, isAction⟩
    have same : others = events :=
      List.append_cancel_left (otherLog.symm.trans log)
    exact absurd isEntered (same ▸ outside fence)

/--
In every run the body of a fence is entered at most once for what it is for,
and only while its object is current; a stop counts under a live approval.
-/
theorem fences_exclusive
    {live : Bool} {digest : Digested → Digest} {actions : List Action}
    {sys : System} (run : Run step? anything (fresh live digest) actions sys) :
    (∀ subject, sys.entries subject ≤ 1) ∧
      ∀ action next events fence, sys.step? action = some next →
        next.log = sys.log ++ events →
        .entered fence ∈ events →
        ∃ index reading second ending,
          action = .enter index reading second ending ∧
            IsValidAt sys.journal fence.subject.object reading := by
  have exclusive : Exclusive sys := run.invariant Exclusive
      (fun _ _ _ _ stepped exclusive => exclusive.step stepped)
      (.fresh live digest)
  refine ⟨?_, fun _ _ _ _ => entered_valid⟩
  intro subject
  exact (Nat.le_add_right _ _).trans (exclusive.once subject)

end System

/-- The first target is created up to the body of its fence. -/
def pilotClaimed : List Action :=
  pilotApproved ++ pilotCreated.take 3

/-- The caller may enter the body of the first target's fence. -/
def pilotHolding : System :=
  Runs.after System.step? pilotStart pilotClaimed

/-- The body of the first target's fence was entered. -/
def pilotEntered : System :=
  Runs.after System.step? pilotHolding [.enter 0 6 6 .returned]

theorem fences_exclusive_created :
    pilotHolding.entries (.create .target 10) ≤ 1 ∧
      pilotEntered.entries (.create .target 10) = 1 ∧
      ∃ index reading second ending,
        Action.enter 0 6 6 .returned = .enter index reading second ending ∧
          IsValidAt pilotHolding.journal (.target, 10) reading := by
  obtain ⟨once, valid⟩ := System.fences_exclusive
      (run_after (fun _ _ _ => trivial) (by decide) :
        Run System.step? anything pilotStart pilotClaimed pilotHolding)
  refine ⟨once _, by decide, ?_⟩
  exact valid (.enter 0 6 6 .returned) pilotEntered
      [.entered (.create pilotPermit)] (.create pilotPermit)
      (step?_after (by decide)) (by decide) (by decide)

/-- The stop of the offline journal is latched before the body is entered. -/
def pilotLatched : System :=
  Runs.after System.step? pilotStart (pilotClaimed ++ [.requestStop])

/-- The body was entered after the stop. -/
def pilotStopped : System :=
  Runs.after System.step? pilotLatched [.enter 0 6 6 .returned]

/-- A stop does not keep a caller out of a fence under an offline approval. -/
theorem pilotStopped_entered :
    Run System.step? anything pilotStart
        (pilotClaimed ++ [.requestStop]) pilotLatched ∧
      pilotLatched.journal.stopRequested = true ∧
      pilotLatched.step? (.enter 0 6 6 .returned) = some pilotStopped ∧
      pilotStopped.log = pilotLatched.log ++ [.entered (.create pilotPermit)] :=
  ⟨run_after (fun _ _ _ => trivial) (by decide), by decide,
    step?_after (by decide), by decide⟩

end TicketSandbox.Runtime
