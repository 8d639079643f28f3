import TicketSandbox.Library.Runs
import TicketSandbox.Runtime.Executions

namespace TicketSandbox.Runtime

/-!
# Callers of the authority

The state machine of any number of callers on one journal.  A transaction that
raises is rolled back.  A fence is two transactions with a crash possible
between them, and so is a guarded call that is rejected: its second
transaction closes the run.  The log only records what happened; no step reads
it.
-/

open Sandbox (Timestamp)

/-- A fence between its two transactions. -/
inductive Fence where
  | create (permit : DispatchPermit)
  | targetStart (provisioningUuid : Uuid)
  | start (permit : StartPermit)
  deriving Repr, DecidableEq

/-- A fence that a caller holds. -/
structure Claimed where
  authority : Authority
  fence : Fence

/-- A call that was rejected and whose second transaction is still to come. -/
structure Closing where
  authority : Authority
  runId : Uuid
  reason : String
  guarded : Bool

/-- What happened. -/
inductive Event where
  | checked (runId : Uuid) (phase : Phase)
  | probed (runId : Uuid) (signed : Attestation ProbeResponse)
  | entered (fence : Fence)
  | rejected (runId : Uuid)
  deriving Repr, DecidableEq

/-- The journal, the callers between two transactions, and the log. -/
structure System where
  journal : Journal
  claimed : List Claimed
  closing : List Closing
  log : List Event

namespace System

/-- Nothing has happened on a new journal. -/
def fresh (live : Bool) (digest : Digested → Digest) : System where
  journal := Journal.fresh live digest
  claimed := []
  closing := []
  log := []

end System

/-- How the body of a fence ends. -/
inductive Ending where
  | returned
  | raised

/-- A guarded call, with what it is given. -/
inductive Guarded where
  | checkTarget (phase : Phase) (bundle : Authority.Bundle)
      (runner : Option (Attestation RunnerObservation))
  | recordRunnerLive (signed : Attestation RunnerObservation)
  | recordProbe (signed : Attestation ProbeResponse)
  | recordRunnerFinished (signed : Attestation RunnerObservation)

namespace Guarded

/-- The first transaction of the call. -/
def transaction (authority : Authority) (db : Journal) (runId : Uuid)
    (reading : Timestamp) : Guarded → Except Failure Journal
  | .checkTarget phase bundle runner =>
      authority.checkTarget db runId phase bundle runner reading
  | .recordRunnerLive signed =>
      authority.recordRunnerLive db runId signed reading
  | .recordProbe signed => authority.recordProbe db runId signed reading
  | .recordRunnerFinished signed =>
      authority.recordRunnerFinished db runId signed reading

/-- The reason with which a rejection closes the run. -/
def closingReason : Guarded → String
  | .checkTarget _ _ _ => "identity_or_authorization_unconfirmed"
  | _ => "execution_identity_or_protocol_unconfirmed"

/-- The call is refused before its guard. -/
def isMalformed : Guarded → Bool
  | .checkTarget phase _ _ => phase == .enroll
  | _ => false

/-- What an accepted call leaves in the log. -/
def events (runId : Uuid) : Guarded → List Event
  | .checkTarget phase _ _ => [.checked runId phase]
  | .recordProbe signed => [.probed runId signed]
  | _ => []

end Guarded

/-- A transaction of one of the callers, or the stop of a live journal. -/
inductive Action where
  | requestStop
  | registerApproval (authority : Authority)
      (signed : Attestation RuntimeApproval) (reading : Timestamp)
  | setEnabled (enabled : Bool) (reading : Timestamp)
  | revokeApproval (authority : Authority) (approvalUuid : Uuid)
      (reading : Timestamp)
  | provision (authority : Authority) (request : ProvisionRequest)
      (uuids : Authority.Uuids) (reading : Timestamp)
  | beginCreate (authority : Authority) (intent : CreateIntent)
      (receipt : Attestation DaemonObservation) (permitUuid : Uuid)
      (reading : Timestamp)
  | claimCreate (authority : Authority) (permit : DispatchPermit)
      (reading : Timestamp)
  | claimTargetStart (authority : Authority) (provisioningUuid : Uuid)
      (receipt : Attestation DaemonObservation) (reading : Timestamp)
  | claimStart (authority : Authority) (permit : StartPermit)
      (reading : Timestamp)
  | enter (index : Nat) (reading second : Timestamp) (ending : Ending)
  | recordCreateResponse (authority : Authority) (permit : DispatchPermit)
      (signed : Attestation CreateResponse) (reading : Timestamp)
  | quarantine (authority : Authority) (intentUuid : Uuid) (resource : Resource)
      (reading : Timestamp)
  | verifyProvision (authority : Authority) (provisioningUuid : Uuid)
      (bundle : Authority.Bundle) (reading : Timestamp)
  | enroll (authority : Authority) (provisioningUuid : Uuid)
      (enrollmentUuid : Uuid) (reading : Timestamp)
  | revokeBinding (authority : Authority) (enrollment : RuntimeEnrollment)
      (reading : Timestamp)
  | reserveRun (authority : Authority) (request : RunRequest)
      (enrollment : RuntimeEnrollment) (intentUuid : Uuid) (reading : Timestamp)
  | guarded (authority : Authority) (runId : Uuid) (call : Guarded)
      (reading : Timestamp)
  | authorizeStart (authority : Authority) (runId : Uuid) (permitUuid : Uuid)
      (reading : Timestamp)
  | publish (authority : Authority) (runId : Uuid) (reading : Timestamp)
  | close (index : Nat) (reading : Timestamp)
  | expireRun (authority : Authority) (runId : Uuid) (reading : Timestamp)
  | abandonRun (authority : Authority) (runId : Uuid) (reading : Timestamp)
  | recordCleanup (authority : Authority)
      (signed : Attestation CleanupConfirmation) (reading : Timestamp)

namespace System

variable (sys : System)

/-- A transaction that commits its journal, or is rolled back. -/
def commit : Except Failure Journal → System
  | .ok journal => { sys with journal := journal }
  | .error _ => sys

variable (claimed : Claimed)

/-- A first transaction of a fence, which leaves the fence behind. -/
def claim
    : Except Failure Journal → System
  | .ok journal =>
      { sys with journal := journal, claimed := sys.claimed ++ [claimed] }
  | .error _ => sys

/-- The second transaction of a fence, up to its body. -/
def entrance (reading second : Timestamp) : Except Failure Journal :=
  match claimed.fence with
  | .create permit => claimed.authority.enterCreate sys.journal permit reading
  | .targetStart provisioningUuid =>
      claimed.authority.enterTargetStart sys.journal provisioningUuid reading
  | .start permit =>
      claimed.authority.enterStart sys.journal permit reading second

/-- The second transaction of a fence, after its body. -/
def exit (journal : Journal) : Except Failure Journal :=
  match claimed.fence with
  | .start permit => Authority.leaveStart journal permit.runUuid
  | _ => .ok journal

/-- The journal after the body of a fence. -/
def afterBody (entered : Journal) : Ending → Journal
  | .returned =>
      match exit claimed entered with
      | .ok journal => journal
      | .error _ => sys.journal
  | .raised => sys.journal

/-- Enter the body of a fence, if its second transaction gets there. -/
def enter (index : Nat) (claimed : Claimed)
    (reading second : Timestamp) (ending : Ending) : System :=
  let left := { sys with claimed := sys.claimed.eraseIdx index }
  match sys.entrance claimed reading second with
  | .error _ => left
  | .ok entered =>
      { left with
        journal := sys.afterBody claimed entered ending
        log := sys.log ++ [.entered claimed.fence] }

/-- A rejection that reaches the caller of a guarded call on the run. -/
def reject (runId : Uuid) : System :=
  if (sys.journal.object? .run runId).isSome then
    { sys with log := sys.log ++ [.rejected runId] }
  else
    sys

/-- The first transaction of a guarded call. -/
def guard (authority : Authority) (runId : Uuid) (call : Guarded)
    (reading : Timestamp) : System :=
  if call.isMalformed then
    sys.reject runId
  else
    match call.transaction authority sys.journal runId reading with
    | .ok journal =>
        { sys with journal := journal, log := sys.log ++ call.events runId }
    | .error (.denied _) =>
        { sys with
          closing :=
            sys.closing ++
              [{ authority := authority
                 runId := runId
                 reason := call.closingReason
                 guarded := true }] }
    | .error .storage => sys

/-- The first transaction of `publish`. -/
def publish (sys : System) (authority : Authority) (runId : Uuid)
    (reading : Timestamp) : System :=
  match authority.publish sys.journal runId reading with
  | .ok (journal, _) => { sys with journal := journal }
  | .error (.denied _) =>
      { sys with
        closing :=
          sys.closing ++
            [{ authority := authority
               runId := runId
               reason := "publication_identity_or_deadline_unconfirmed"
               guarded := false }] }
  | .error .storage => sys

/--
The second transaction of a rejected call.  A guarded call then raises
`Denied`, whether that transaction was accepted or not.
-/
def close (index : Nat) (closing : Closing) (reading : Timestamp) : System :=
  let closed :=
    { sys.commit
        ((closing.authority.unknown sys.journal closing.runId closing.reason
          reading).map Prod.fst) with
      closing := sys.closing.eraseIdx index }
  if closing.guarded then closed.reject closing.runId else closed

/-- One transaction; a caller between two transactions is named by its place. -/
def step? : Action → Option System
  | .requestStop =>
      some { sys with journal := { sys.journal with stopRequested := true } }
  | .registerApproval authority signed reading =>
      some (sys.commit (authority.registerApproval sys.journal signed reading))
  | .setEnabled enabled reading =>
      some (sys.commit (Authority.setEnabled sys.journal enabled reading))
  | .revokeApproval authority approvalUuid reading =>
      some
        (sys.commit (authority.revokeApproval sys.journal approvalUuid reading))
  | .provision authority request uuids reading =>
      some (sys.commit
          ((authority.provision sys.journal request uuids reading).map
            Prod.fst))
  | .beginCreate authority intent receipt permitUuid reading =>
      some (sys.commit
          ((authority.beginCreate sys.journal intent receipt permitUuid
            reading).map Prod.fst))
  | .claimCreate authority permit reading =>
      some (sys.claim { authority := authority, fence := .create permit }
          (authority.claimCreate sys.journal permit reading))
  | .claimTargetStart authority provisioningUuid receipt reading =>
      some (sys.claim
          { authority := authority
            fence := .targetStart provisioningUuid }
          (authority.claimTargetStart sys.journal provisioningUuid receipt
            reading))
  | .claimStart authority permit reading =>
      some (sys.claim { authority := authority, fence := .start permit }
          (authority.claimStart sys.journal permit reading))
  | .enter index reading second ending => do
      let claimed ← sys.claimed[index]?
      return sys.enter index claimed reading second ending
  | .recordCreateResponse authority permit signed reading =>
      some (sys.commit
          ((authority.recordCreateResponse sys.journal permit signed
            reading).map Prod.fst))
  | .quarantine authority intentUuid resource reading =>
      some (sys.commit
          (authority.quarantine sys.journal intentUuid resource reading))
  | .verifyProvision authority provisioningUuid bundle reading =>
      some (sys.commit
          (authority.verifyProvision sys.journal provisioningUuid bundle
            reading))
  | .enroll authority provisioningUuid enrollmentUuid reading =>
      some (sys.commit
          ((authority.enroll sys.journal provisioningUuid enrollmentUuid
            reading).map Prod.fst))
  | .revokeBinding authority enrollment reading =>
      some (sys.commit (authority.revokeBinding sys.journal enrollment reading))
  | .reserveRun authority request enrollment intentUuid reading =>
      some (sys.commit
          ((authority.reserveRun sys.journal request enrollment intentUuid
            reading).map Prod.fst))
  | .guarded authority runId call reading =>
      some (sys.guard authority runId call reading)
  | .authorizeStart authority runId permitUuid reading =>
      some (sys.commit ((authority.authorizeStart sys.journal runId permitUuid
            reading).map Prod.fst))
  | .publish authority runId reading =>
      some (sys.publish authority runId reading)
  | .close index reading => do
      let closing ← sys.closing[index]?
      return sys.close index closing reading
  | .expireRun authority runId reading =>
      some (sys.commit (authority.expireRun sys.journal runId reading))
  | .abandonRun authority runId reading =>
      some (sys.commit
          ((authority.abandonRun sys.journal runId reading).map Prod.fst))
  | .recordCleanup authority signed reading =>
      some (sys.commit (authority.recordCleanup sys.journal signed reading))

end System

end TicketSandbox.Runtime
