import TicketSandbox.Runtime.Profiles

namespace TicketSandbox.Runtime

/-!
# Receipts

`trusted_checker_runtime/attestation.py`: who may sign which observation.
Whether a signature is the one made with the signer's key comes with the
attestation.
-/

/-- The roles of signers. -/
inductive Role where
  | operator
  | adapter
  | egress
  | validator
  | recovery
  deriving Repr, DecidableEq

/-- `SignerGrant`. -/
structure SignerGrant where
  principal : String
  role : Role
  scopes : List String

/-- `Attestation`. -/
structure Attestation (α : Type) where
  payload : α
  signer : String
  genuine : Bool
  digest : Digest
  deriving Repr, DecidableEq

/-- One instance of the authority, with the grants of its verifier. -/
structure Authority where
  operator : String
  daemon : DaemonIdentity
  grants : List SignerGrant

namespace Authority

/-- `ReceiptVerifier.verify` for a payload whose type has the role. -/
def verify
    {α : Type} (authority : Authority) (role : Role) (scopeOf : α → String)
    (receipt : Attestation α) (scope : String) : Except Failure α := do
  let grant ← Raises.required (.denied "receipt_signer_not_authorized")
    (authority.grants.find? fun grant =>
      decide (grant.principal = receipt.signer))
  require
    (grant.role = role ∧ scope ∈ grant.scopes ∧ scopeOf receipt.payload = scope)
    "receipt_signer_not_authorized"
  require (receipt.genuine = true) "receipt_signature_invalid"
  return receipt.payload

/-- `verify` for an approval, which its own operator signs. -/
def verifyApproval
    (authority : Authority) (receipt : Attestation RuntimeApproval) :
    Except Failure RuntimeApproval := do
  let approval ← authority.verify .operator RuntimeApproval.scope receipt
    receipt.payload.scope
  require (receipt.signer = approval.operatorPrincipal)
    "approval_operator_mismatch"
  return approval

/-- `verify` for an observation. -/
def verifyCommon
    {α : Type} (authority : Authority) (role : Role) (common : α → Common)
    (receipt : Attestation α) (approval : RuntimeApproval) : Except Failure α :=
  authority.verify role (fun payload => (common payload).scope) receipt
    approval.scope

end Authority

end TicketSandbox.Runtime

namespace TicketSandbox.Runtime

/-!
# The target authority

`trusted_checker_runtime/authority.py`: approvals, the provisioning of a
target and its enrollment.  Every definition is one transaction on the
journal; the clock reading and the new UUIDs come from outside.
-/

open Sandbox (Timestamp)

namespace Journal

/-- `_now`: the clock reading becomes the high-water mark. -/
def now (db : Journal) (reading : Timestamp) : Except Failure Journal := do
  require (0 < reading) "timestamp_invalid"
  require (db.clockHighwater ≤ reading) "clock_rollback"
  return { db with clockHighwater := reading }

/-- A row that keeps the circuit open. -/
def opensCircuit (row : RuntimeObject) : Bool :=
  decide (((row.phase = .createRequested ∨ row.phase = .quarantined) ∧
        row.cleanup ≠ .confirmed) ∨
      (row.terminal ≠ none ∧
        (row.cleanup = .pending ∨ row.cleanup = .quarantined)))

/-- `_circuit`. -/
def circuit
    (db : Journal) (exclude : Option (Kind × Uuid)) : Except Failure Unit :=
  require
    (∀ row ∈ db.objects, exclude ≠ some row.key → opensCircuit row = false)
    "circuit_open"

/-- `_fresh`. -/
def fresh_ (common : Common) (context : Uuid)
    (now : Timestamp) : Except Failure Unit :=
  require (common.contextUuid = context ∧ 0 ≤ now - common.observedAt ∧
      now - common.observedAt ≤ apiSeconds)
    "observation_context_or_freshness_invalid"

/-- `_dedupe`: the object that the request names already. -/
def dedupe (db : Journal) (kind : Kind) (requestUuid : Uuid)
    (canonical fingerprint : Digest) :
    Except Failure (Journal × Option Uuid) :=
  match db.requests.find? fun alias_ =>
      decide ((alias_.kind, alias_.id) = (kind, requestUuid)) with
  | some alias_ => do
      require (alias_.fingerprint = fingerprint) "request_payload_conflict"
      return (db, some alias_.objectId)
  | none =>
      match db.claims.find? fun claim =>
          decide ((claim.kind, claim.canonical) = (kind, canonical)) with
      | some old => do
          require (old.fingerprint = fingerprint)
            "attempt_or_sample_binding_conflict"
          return ({ db with
            requests :=
              db.requests ++
                [{ kind := kind
                   id := requestUuid
                   fingerprint := fingerprint
                   objectId := old.objectId }] }, some old.objectId)
      | none => .ok (db, none)

/-- The first phase of an object. -/
def firstPhase : Kind → ObjectPhase
  | .target => .intentRecorded
  | .run => .reserved

/-- The row of a new object. -/
def newObject (kind : Kind) (intent : CreateIntent) (fingerprint : Digest)
    (epoch : Nat) : RuntimeObject where
  kind := kind
  id := intent.intentUuid
  intent := intent
  fingerprint := fingerprint
  phase := firstPhase kind
  cleanup := .notRequired
  epoch := epoch
  deadline := intent.deadline
  terminal := none

/-- `_insert`, under the primary key of the objects. -/
def insert
    (db : Journal) (kind : Kind) (intent : CreateIntent) (canonical : Digest)
    (requestUuid : Uuid) (fingerprint : Digest) : Except Failure Journal := do
  Raises.ensure (db.object? kind intent.intentUuid = none) .storage
  return { db with
    objects := db.objects ++ [newObject kind intent fingerprint db.epoch]
    claims :=
      db.claims ++
        [{ kind := kind
           canonical := canonical
           objectId := intent.intentUuid
           fingerprint := fingerprint }]
    requests :=
      db.requests ++
        [{ kind := kind
           id := requestUuid
           fingerprint := fingerprint
           objectId := intent.intentUuid }] }

end Journal

/-- `_kind`. -/
def Resource.kind : Resource → Kind
  | .target => .target
  | .runner => .run

namespace Authority

/-- `_approval`. -/
def approval (authority : Authority) (db : Journal)
    (approvalUuid : Uuid) : Except Failure RuntimeApproval := do
  let approval ← Journal.get db.approvals approvalUuid
  require (approval.operatorPrincipal = authority.operator)
    "operator_scope_mismatch"
  return approval

/-- `_object`: the row, which holds the intent, and its approval. -/
def object (authority : Authority) (db : Journal) (kind : Kind)
    (id : Uuid) : Except Failure (RuntimeObject × RuntimeApproval) := do
  let row ← Raises.required (.denied "runtime_object_missing")
    (db.object? kind id)
  let approval ← authority.approval db row.intent.approvalUuid
  return (row, approval)

variable (authority : Authority) (db : Journal) (approval : RuntimeApproval)

/-- `_current` without a row. -/
def current (now : Timestamp) : Except Failure Unit := do
  require (approval.isLive = false ∨ db.stopRequested = false)
    "live_stop_latched"
  require (approval.daemon = authority.daemon) "registered_daemon_mismatch"
  require (approval.createdAt ≤ now ∧ now < approval.expiresAt)
    "approval_expired"
  require (.approval approval.approvalUuid ∉ db.revocations) "approval_revoked"
  require (db.enabled = true) "feature_disabled"

/-- `_current` with a row. -/
def currentRow
    (now : Timestamp) (row : RuntimeObject) : Except Failure Unit := do
  authority.current db approval now
  require (row.epoch = db.epoch) "control_epoch_changed"
  require (now < row.deadline) "deadline_exceeded"

/-- `register_approval`. -/
def registerApproval (signed : Attestation RuntimeApproval)
    (reading : Timestamp) : Except Failure Journal := do
  let approval ← authority.verifyApproval signed
  require (approval.isLive = db.live) "approval_journal_mode_mismatch"
  require (approval.operatorPrincipal = authority.operator ∧
      approval.daemon = authority.daemon)
    "approval_deployment_mismatch"
  let db ← db.now reading
  require (approval.createdAt ≤ reading ∧ reading < approval.expiresAt)
    "approval_expired"
  require (.approval approval.approvalUuid ∉ db.revocations) "approval_revoked"
  let db ← db.receipt approval.approvalUuid signed.digest
    approval.approvalUuid "approval"
  let approvals ← db.put .approval db.approvals approval.approvalUuid approval
  return { db with approvals := approvals }

/-- `set_enabled`. -/
def setEnabled
    (enabled : Bool) (reading : Timestamp) : Except Failure Journal := do
  let db ← db.now reading
  return { db with enabled := enabled, epoch := db.epoch + 1 }

/-- `INSERT OR IGNORE INTO rt_revocations`. -/
def revoke (revoked : Revoked) : Journal :=
  if revoked ∈ db.revocations then
    db
  else
    { db with revocations := db.revocations ++ [revoked] }

/-- `revoke_approval`. -/
def revokeApproval
    (approvalUuid : Uuid) (reading : Timestamp) : Except Failure Journal := do
  let _ ← authority.approval db approvalUuid
  let db ← db.now reading
  return revoke db (.approval approvalUuid)

/-- The UUIDs that a new intent takes. -/
structure Uuids where
  intent : Uuid
  runtimeBinding : Uuid
  generation : Uuid

/-- The intent that `provision` issues. -/
def targetIntent
    (request : ProvisionRequest) (fingerprint : Digest) (uuids : Uuids)
    (now : Timestamp) : CreateIntent where
  intentUuid := uuids.intent
  resource := .target
  approvalUuid := approval.approvalUuid
  approvalDigest := db.digest (.approval approval)
  scope := approval.scope
  attempt := request.attempt
  runtimeBindingUuid := uuids.runtimeBinding
  generationUuid := uuids.generation
  daemon := approval.daemon
  imageId := approval.targetImageId
  networkProfileDigest := db.digest (.network approval.network)
  policyDigest := approval.policyDigest
  profileDigest := approval.targetProfileDigest
  requestFingerprint := fingerprint
  createdAt := now
  deadline := min (now + runSeconds) approval.expiresAt

/-- The part of `provision` for a request that names no object yet. -/
def provisionNew (request : ProvisionRequest) (canonical fingerprint : Digest)
    (uuids : Uuids)
    (now : Timestamp) : Except Failure (Journal × CreateIntent) := do
  authority.current db approval now
  db.circuit none
  require (∀ row ∈ db.objects, row.kind = .target → row.cleanup = .confirmed)
    "pilot_target_capacity"
  let intent := targetIntent db approval request fingerprint uuids now
  let db ← db.insert .target intent canonical request.requestUuid fingerprint
  return (db, intent)

/-- `provision`. -/
def provision (authority : Authority) (db : Journal)
    (request : ProvisionRequest) (uuids : Uuids)
    (reading : Timestamp) : Except Failure (Journal × CreateIntent) := do
  let approval ← authority.approval db request.approvalUuid
  let db ← db.now reading
  let fingerprint :=
    db.digest (.provision request.attempt (db.digest (.approval approval)))
  let canonical := db.digest
      (.attempt request.attempt.sandboxInstance request.attempt.attemptId)
  let (db, old) ← db.dedupe .target request.requestUuid canonical fingerprint
  match old with
  | some id => do
      let (row, _) ← authority.object db .target id
      return (db, row.intent)
  | none =>
      authority.provisionNew db approval request canonical fingerprint uuids
        reading

/-- `_verify_enrollment`. -/
def verifyEnrollment (enrollment : RuntimeEnrollment)
    (now : Timestamp) : Except Failure RuntimeApproval := do
  let saved ← Journal.get db.enrollments enrollment.provisioningUuid
  require (saved = enrollment) "enrollment_not_issued"
  let (row, approval) ← authority.object db .target enrollment.provisioningUuid
  require (enrollment.verificationMode =
      if approval.isLive then .liveRuntimeChainV2 else .offlineRuntimeChainV1)
    "enrollment_mode_mismatch"
  require (row.phase = .enrolled ∧
      .binding enrollment.target.runtimeBindingUuid ∉ db.revocations)
    "runtime_binding_revoked"
  authority.current db approval now
  return approval

/-- `_enrollment_for_run`. -/
def enrollmentForRun (row : RuntimeObject)
    (now : Timestamp) : Except Failure RuntimeEnrollment := do
  let enrollment ← Journal.get db.runEnrollments row.id
  let _ ← authority.verifyEnrollment db enrollment now
  return enrollment

/-- `_phase_fresh`. -/
def phaseFresh
    (runId : Uuid) (phase : Phase) (now : Timestamp) : Except Failure Unit := do
  let saved ← Journal.get db.phaseChecks (phase, runId)
  require (0 ≤ now - saved.observedAt ∧ now - saved.observedAt ≤ apiSeconds)
    "phase_observation_stale"

/-- What creating or starting a runner requires besides its own phase. -/
def runChecked (row : RuntimeObject) (phase : Phase)
    (now : Timestamp) : Except Failure Unit := do
  let _ ← authority.enrollmentForRun db row now
  phaseFresh db row.id phase now

/-- The same, for the creation of an object of either kind. -/
def createChecked
    (row : RuntimeObject) (now : Timestamp) : Except Failure Unit :=
  match row.kind with
  | .target => .ok ()
  | .run => authority.runChecked db row .beforeCreate now

/-- The phase in which an object may be created. -/
def createPhase : Kind → ObjectPhase
  | .target => .intentRecorded
  | .run => .checkedCreate

/-- A receipt about the daemon, for the context. -/
def daemonReceipt (receipt : Attestation DaemonObservation) (context : Uuid)
    (purpose : String) (now : Timestamp) : Except Failure Journal := do
  let observed ← authority.verifyCommon .adapter DaemonObservation.common
    receipt approval
  Journal.fresh_ observed.common context now
  require (observed.daemon = approval.daemon) "daemon_or_endpoint_mismatch"
  db.receipt observed.common.receiptUuid receipt.digest context purpose

/-- `begin_create`. -/
def beginCreate (intent : CreateIntent)
    (receipt : Attestation DaemonObservation) (permitUuid : Uuid)
    (reading : Timestamp) : Except Failure (Journal × DispatchPermit) := do
  let kind := intent.resource.kind
  let (row, approval) ← authority.object db kind intent.intentUuid
  require (row.intent = intent) "intent_not_issued"
  let db ← db.now reading
  authority.currentRow db approval reading row
  db.circuit (some (kind, intent.intentUuid))
  require (row.phase = createPhase kind) "create_already_requested"
  authority.createChecked db row reading
  let db ← authority.daemonReceipt db approval receipt intent.intentUuid
    "create_daemon" reading
  let permit : DispatchPermit :=
    { permitUuid := permitUuid
      intentUuid := intent.intentUuid
      resource := intent.resource
      intentDigest := db.digest (.intent intent)
      controlEpoch := row.epoch
      deadline := row.deadline }
  let createPermits ← db.put .dispatchPermit db.createPermits (kind, row.id)
    permit
  let db ← { db with createPermits := createPermits }.update row
    .createRequested .quarantined row.terminal
  return (db, permit)

/-- The first transaction of `create_fence`. -/
def claimCreate (permit : DispatchPermit)
    (reading : Timestamp) : Except Failure Journal := do
  let kind := permit.resource.kind
  let (row, approval) ← authority.object db kind permit.intentUuid
  let db ← db.now reading
  authority.currentRow db approval reading row
  let issued ← Journal.get db.createPermits (kind, row.id)
  require (issued = permit) "dispatch_permit_not_issued"
  require (row.phase = .createRequested ∧
      Documents.get? db.createDispatches (kind, row.id) = none)
    "create_dispatch_already_claimed"
  authority.createChecked db row reading
  let createDispatches ← db.put .dispatchPermit db.createDispatches
    (kind, row.id) permit
  return { db with createDispatches := createDispatches }

/-- The second transaction of `create_fence`, up to its body. -/
def enterCreate (permit : DispatchPermit)
    (reading : Timestamp) : Except Failure Journal := do
  let (row, approval) ← authority.object db permit.resource.kind
    permit.intentUuid
  let db ← db.now reading
  authority.currentRow db approval reading row
  require (row.phase = .createRequested) "create_phase_closed"
  return db

/-- The first transaction of `target_start_fence`. -/
def claimTargetStart
    (provisioningUuid : Uuid) (receipt : Attestation DaemonObservation)
    (reading : Timestamp) : Except Failure Journal := do
  let (row, approval) ← authority.object db .target provisioningUuid
  let db ← db.now reading
  authority.currentRow db approval reading row
  require (row.phase = .exactIdRecorded ∧
      Documents.get? db.targetStartDispatches row.id = none)
    "target_start_not_authorized_or_consumed"
  let db ← authority.daemonReceipt db approval receipt row.id
    "target_start_daemon" reading
  let owned ← Journal.get db.ownerships (.target, row.id)
  let targetStartDispatches ← db.put .startReference
    db.targetStartDispatches row.id
    { provisioningUuid := row.id
      containerId := owned.receipt.containerId
      ownershipDigest := owned.attestationDigest
      approvalDigest := db.digest (.approval approval) }
  return { db with targetStartDispatches := targetStartDispatches }

/-- The second transaction of `target_start_fence`, up to its body. -/
def enterTargetStart (provisioningUuid : Uuid)
    (reading : Timestamp) : Except Failure Journal := do
  let (row, approval) ← authority.object db .target provisioningUuid
  let db ← db.now reading
  authority.currentRow db approval reading row
  require (row.phase = .exactIdRecorded) "target_start_phase_closed"
  return db

/-- `quarantine`. -/
def quarantine (intentUuid : Uuid)
    (resource : Resource) (reading : Timestamp) : Except Failure Journal := do
  let (row, _) ← authority.object db resource.kind intentUuid
  let db ← db.now reading
  if row.terminal = none then
    db.update row .quarantined .quarantined none
  else
    return db

/-- `revoke_binding`. -/
def revokeBinding (enrollment : RuntimeEnrollment)
    (reading : Timestamp) : Except Failure Journal := do
  let saved ← Journal.get db.enrollments enrollment.provisioningUuid
  require (saved = enrollment) "enrollment_not_issued"
  let (row, _) ← authority.object db .target enrollment.provisioningUuid
  let db ← db.now reading
  let db := revoke db (.binding enrollment.target.runtimeBindingUuid)
  db.update row .quarantined .pending row.terminal

end Authority

end TicketSandbox.Runtime
