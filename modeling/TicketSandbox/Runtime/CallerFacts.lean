import TicketSandbox.Runtime.ExecutionFacts

namespace TicketSandbox.Runtime

/-!
# What a step changes

Every step of a caller is a committed transaction or a transaction that was
rolled back, together with what it means to the fences and to the log.
-/

open Sandbox (Timestamp)
open Authority

/--
The authority's operator approved the object, and the clock reading is not
behind the high-water mark.
-/
def Authority.admits
    (authority : Authority) (db : Journal) (kind : Kind) (id : Uuid)
    (reading : Timestamp) : Bool :=
  (authority.object db kind id).isOk && (db.now reading).isOk

/-- The object that an action quarantines, whatever its cleanup is. -/
def Action.reopened? (db : Journal) : Action → Option (Kind × Uuid)
  | .quarantine authority intentUuid resource reading =>
      if authority.admits db resource.kind intentUuid reading then
        some (resource.kind, intentUuid)
      else
        none
  | .revokeBinding authority enrollment reading =>
      if authority.admits db .target enrollment.provisioningUuid reading ∧
          Documents.get? db.enrollments enrollment.provisioningUuid =
            some enrollment then
        some (.target, enrollment.provisioningUuid)
      else
        none
  | _ => none

variable {authority : Authority} {db : Journal} {reading : Timestamp}
  {next sys : System} {action : Action}

theorem quarantine_reopens
    {next : Journal} {intentUuid : Uuid} {resource : Resource} (returned :
      authority.quarantine db intentUuid resource reading = .ok next) :
    (Action.quarantine authority intentUuid resource reading).reopened? db =
      some (resource.kind, intentUuid) := by
  simp only [quarantine, Raises.bind_ok] at returned
  obtain ⟨_, isObject, _, isNow, _⟩ := returned
  simp [Action.reopened?, Authority.admits, isObject, isNow, Except.isOk,
    Except.toBool]

theorem revokeBinding_reopens {next : Journal} {enrollment : RuntimeEnrollment}
    (returned : authority.revokeBinding db enrollment reading = .ok next) :
    (Action.revokeBinding authority enrollment reading).reopened? db =
      some (.target, enrollment.provisioningUuid) := by
  simp only [revokeBinding, Raises.bind_ok, Journal.get_ok, require_ok]
    at returned
  obtain ⟨_, issued, _, rfl, _, isObject, _, isNow, _⟩ := returned
  simp [Action.reopened?, Authority.admits, isObject, isNow, issued,
    Except.isOk, Except.toBool]

/-- What a step does to the fences and to the log. -/
inductive Trail (sys next : System) : Label → Prop where
  | plain (events : List Event) (claimed : next.claimed = sys.claimed)
      (log : next.log = sys.log ++ events)
      (rejections : ∀ event ∈ events, ∃ runId, event = .rejected runId) :
      Trail sys next .plain
  | left (index : Nat) (claimed : next.claimed = sys.claimed.eraseIdx index)
      (log : next.log = sys.log) :
      Trail sys next .plain
  | entered (index : Nat) (held : Claimed)
      (found : sys.claimed[index]? = some held)
      (claimed : next.claimed = sys.claimed.eraseIdx index)
      (log : next.log = sys.log ++ [.entered held.fence]) :
      Trail sys next (.entered held.fence)
  | checked (runId : Uuid) (phase : Phase)
      (claimed : next.claimed = sys.claimed)
      (log : next.log = sys.log ++ [.checked runId phase]) :
      Trail sys next (.checked runId phase)
  | probed (runId : Uuid) (signed : Attestation ProbeResponse)
      (claimed : next.claimed = sys.claimed)
      (log : next.log = sys.log ++ [.probed runId signed]) :
      Trail sys next (.probed runId signed)
  | claimed (held : Claimed) (claimed : next.claimed = sys.claimed ++ [held])
      (log : next.log = sys.log) :
      Trail sys next (.claimed held.fence)

/-- A step changes the journal, the fences and the log under one label. -/
def Moves (action : Action) (sys next : System) : Prop :=
  ∃ label,
    Change (action.reopened? sys.journal) sys.journal next.journal label ∧
      Trail sys next label

namespace Moves

/-- A step without a write moves nothing. -/
theorem ofSame (journal : next.journal = sys.journal)
    (claimed : next.claimed = sys.claimed) (log : next.log = sys.log) :
    Moves action sys next := by
  refine ⟨.plain, ?_, .plain [] claimed (by simp [log]) (by simp)⟩
  rw [journal]
  exact .ofSame rfl rfl rfl

variable {result : Except Failure Journal}

theorem commit (change : ∀ journal, result = .ok journal →
        Change (action.reopened? sys.journal) sys.journal journal .plain) :
    Moves action sys (sys.commit result) := by
  cases result with
  | error failure => exact .ofSame rfl rfl rfl
  | ok journal =>
      exact ⟨.plain, change journal rfl,
          .plain [] rfl (List.append_nil _).symm (by simp)⟩

theorem commitFirst {α : Type} {result : Except Failure (Journal × α)} (change :
      ∀ journal answer, result = .ok (journal, answer) →
        Change (action.reopened? sys.journal) sys.journal journal .plain) :
    Moves action sys (sys.commit (result.map Prod.fst)) := by
  refine .commit fun journal returned => ?_
  cases result with
  | error failure => cases returned
  | ok pair =>
      cases returned
      exact change pair.1 pair.2 rfl

theorem claim {held : Claimed} (change : ∀ journal, result = .ok journal →
        Change (action.reopened? sys.journal) sys.journal journal
            (.claimed held.fence)) :
    Moves action sys (sys.claim held result) := by
  cases result with
  | error failure => exact .ofSame rfl rfl rfl
  | ok journal => exact ⟨_, change journal rfl, .claimed held rfl rfl⟩

theorem reject
    (moves : Change (action.reopened? sys.journal) sys.journal next.journal
        .plain)
    (claimed : next.claimed = sys.claimed) (log : next.log = sys.log)
    (runId : Uuid) :
    Moves action sys (next.reject runId) := by
  simp only [System.reject]
  split
  · exact ⟨.plain, moves,
        .plain [.rejected runId] claimed (by simp [log]) (by simp)⟩
  · exact ⟨.plain, moves, .plain [] claimed (by simp [log]) (by simp)⟩

end Moves

namespace System

variable {second : Timestamp} {ending : Ending} {index : Nat} {runId : Uuid}
  {claimed : Claimed}

theorem entrance_ok {entered : Journal}
    (returned : sys.entrance claimed reading second = .ok entered) :
    entered = { sys.journal with clockHighwater := reading } := by
  simp only [entrance] at returned
  split at returned
  · exact enterCreate_ok returned
  · exact enterTargetStart_ok returned
  · exact enterStart_ok returned

theorem afterBody_change {reopened : Option (Kind × Uuid)} {entered : Journal}
    (returned : sys.entrance claimed reading second = .ok entered) :
    Change reopened sys.journal (sys.afterBody claimed entered ending)
      (.entered claimed.fence) := by
  have quiet {new : Journal} (objects : new.objects = sys.journal.objects)
      (docs : new.runDocs = sys.journal.runDocs)
      (tables : new.tables = sys.journal.tables) :
      Change reopened sys.journal new (.entered claimed.fence) := by
    refine .quiet _ (.inr ⟨_, rfl⟩) objects docs ?_ (.ofSame tables)
    simp only [Journal.tables, Prod.mk.injEq] at tables
    exact ⟨tables.1.2.1, tables.1.2.2.1⟩
  have isEntered := entrance_ok returned
  subst isEntered
  cases ending with
  | raised => exact quiet rfl rfl rfl
  | returned =>
      simp only [afterBody]
      cases left : exit claimed
          { sys.journal with clockHighwater := reading } with
      | error failure => exact quiet rfl rfl rfl
      | ok journal =>
          cases isFence : claimed.fence with
          | create permit =>
              simp only [exit, isFence, Except.ok.injEq] at left
              subst left
              exact isFence ▸ quiet rfl rfl rfl
          | targetStart provisioningUuid =>
              simp only [exit, isFence, Except.ok.injEq] at left
              subst left
              exact isFence ▸ quiet rfl rfl rfl
          | start permit =>
              simp only [exit, isFence] at left
              exact leaveStart_change left

theorem enter_moves (found : sys.claimed[index]? = some claimed) :
    Moves action sys (sys.enter index claimed reading second ending) := by
  simp only [enter]
  split
  · exact ⟨.plain, .ofSame rfl rfl rfl, .left index rfl rfl⟩
  · rename_i entered returned
    exact ⟨_, afterBody_change returned, .entered index claimed found rfl rfl⟩

theorem guard_moves {call : Guarded} :
    Moves action sys (sys.guard authority runId call reading) := by
  simp only [guard]
  split
  · exact .reject (.ofSame rfl rfl rfl) rfl rfl runId
  · split
    · rename_i journal returned
      cases call with
      | checkTarget phase bundle runner =>
          exact ⟨_, checkTarget_change returned, .checked runId phase rfl rfl⟩
      | recordRunnerLive signed =>
          exact
            ⟨_, recordRunnerLive_change returned, .plain [] rfl rfl (by simp)⟩
      | recordProbe signed =>
          exact ⟨_, recordProbe_change returned, .probed runId signed rfl rfl⟩
      | recordRunnerFinished signed =>
          exact ⟨_, recordRunnerFinished_change returned,
              .plain [] rfl rfl (by simp)⟩
    · exact .ofSame rfl rfl rfl
    · exact .ofSame rfl rfl rfl

theorem publish_moves :
    Moves action sys (sys.publish authority runId reading) := by
  simp only [publish]
  split
  · rename_i journal terminal returned
    exact ⟨.plain, publish_change returned,
        .plain [] rfl (List.append_nil _).symm (by simp)⟩
  · exact .ofSame rfl rfl rfl
  · exact .ofSame rfl rfl rfl

theorem close_moves {closing : Closing} :
    Moves action sys (sys.close index closing reading) := by
  have change : Change (action.reopened? sys.journal) sys.journal (sys.commit
          ((closing.authority.unknown sys.journal closing.runId
            closing.reason reading).map Prod.fst)).journal .plain := by
    cases closed : closing.authority.unknown sys.journal closing.runId
        closing.reason reading with
    | error failure => exact .ofSame rfl rfl rfl
    | ok pair => exact unknown_change closed
  have kept (result : Except Failure Journal) :
      (sys.commit result).claimed = sys.claimed ∧
        (sys.commit result).log = sys.log := by
    cases result with
    | error failure => exact ⟨rfl, rfl⟩
    | ok journal => exact ⟨rfl, rfl⟩
  simp only [close]
  split
  · refine .reject ?_ ?_ ?_ closing.runId
    · exact change
    · exact (kept _).1
    · exact (kept _).2
  · exact
      ⟨.plain, change, .plain [] (kept _).1 (by simp [(kept _).2]) (by simp)⟩

/-- Every step changes the system under one label. -/
theorem step?_moves
    (stepped : sys.step? action = some next) : Moves action sys next := by
  cases action with
  | requestStop =>
      cases stepped
      exact ⟨.plain, .ofSame rfl rfl rfl, .plain [] rfl (by simp) (by simp)⟩
  | registerApproval authority signed reading =>
      cases stepped
      exact .commit fun _ => registerApproval_change
  | setEnabled enabled reading =>
      cases stepped
      exact .commit fun _ => setEnabled_change
  | revokeApproval authority approvalUuid reading =>
      cases stepped
      exact .commit fun _ => revokeApproval_change
  | provision authority request uuids reading =>
      cases stepped
      exact .commitFirst fun _ _ => provision_change
  | beginCreate authority intent receipt permitUuid reading =>
      cases stepped
      exact .commitFirst fun _ _ => beginCreate_change
  | claimCreate authority permit reading =>
      cases stepped
      exact .claim fun _ => claimCreate_change
  | claimTargetStart authority provisioningUuid receipt reading =>
      cases stepped
      exact .claim fun _ => claimTargetStart_change
  | claimStart authority permit reading =>
      cases stepped
      exact .claim fun _ => claimStart_change
  | enter index reading second ending =>
      obtain ⟨claimed, found, result⟩ := Option.bind_eq_some_iff.mp stepped
      cases result
      exact enter_moves found
  | recordCreateResponse authority permit signed reading =>
      cases stepped
      exact .commitFirst fun _ _ => recordCreateResponse_change
  | quarantine authority intentUuid resource reading =>
      cases stepped
      exact .commit fun _ returned =>
        quarantine_reopens returned ▸ quarantine_change returned
  | verifyProvision authority provisioningUuid bundle reading =>
      cases stepped
      exact .commit fun _ => verifyProvision_change
  | enroll authority provisioningUuid enrollmentUuid reading =>
      cases stepped
      exact .commitFirst fun _ _ => enroll_change
  | revokeBinding authority enrollment reading =>
      cases stepped
      exact .commit fun _ returned =>
        revokeBinding_reopens returned ▸ revokeBinding_change returned
  | reserveRun authority request enrollment intentUuid reading =>
      cases stepped
      exact .commitFirst fun _ _ => reserveRun_change
  | guarded authority runId call reading =>
      cases stepped
      exact guard_moves
  | authorizeStart authority runId permitUuid reading =>
      cases stepped
      exact .commitFirst fun _ _ => authorizeStart_change
  | publish authority runId reading =>
      cases stepped
      exact publish_moves
  | close index reading =>
      obtain ⟨closing, _, result⟩ := Option.bind_eq_some_iff.mp stepped
      cases result
      exact close_moves
  | expireRun authority runId reading =>
      cases stepped
      exact .commit fun _ => expireRun_change
  | abandonRun authority runId reading =>
      cases stepped
      exact .commitFirst fun _ _ => unknown_change
  | recordCleanup authority signed reading =>
      cases stepped
      exact .commit fun _ => recordCleanup_change

end System

end TicketSandbox.Runtime
