import TicketSandbox.Runtime.Authority

namespace TicketSandbox.Runtime

/-!
# Ownership and enrollment

`trusted_checker_runtime/authority.py`: the response to a creation, the
observations of a bundle, and the enrollment of a verified target.
-/

open Sandbox (Timestamp)

namespace Authority

/-- The response belongs to the intent and its permit. -/
def ResponseMatches
    (db : Journal) (intent : CreateIntent) (permit : DispatchPermit)
    (response : CreateResponse) : Prop :=
  response.common.contextUuid = intent.intentUuid ∧
    response.permitUuid = permit.permitUuid ∧
    response.resource = intent.resource ∧
    response.intentDigest = db.digest (.intent intent) ∧
    response.daemon = intent.daemon ∧
    response.imageId = intent.imageId
  deriving Decidable

variable (authority : Authority) (db : Journal) (row : RuntimeObject)
  (approval : RuntimeApproval)

/-- Whether the object is still waited for when its response is recorded. -/
def isAwaited (now : Timestamp) : Except Failure Bool :=
  let checked : Except Failure Unit := do
    authority.currentRow db approval now row
    match row.kind with
    | .target => return ()
    | .run => do
        let _ ← authority.enrollmentForRun db row now
        return ()
  match checked with
  | .ok _ => .ok (row.terminal == none && row.phase == .createRequested)
  | .error (.denied _) => .ok false
  | .error .storage => .error .storage

/-- The phase and the cleanup of an object whose response is recorded. -/
def ownedState (kind : Kind) (awaited : Bool) : ObjectPhase × Cleanup :=
  match awaited, kind with
  | true, .target => (.exactIdRecorded, .retained)
  | true, .run => (.runnerOwned, .pending)
  | false, _ => (.quarantined, .pending)

/-- The update of `record_create_response`. -/
def updateOwned (awaited : Bool) : Except Failure Journal :=
  if row.terminal = none then
    let state := ownedState row.kind awaited
    db.update row state.1 state.2 none
  else
    db.update row row.phase .pending row.terminal

/-- The part of `record_create_response` for a first response. -/
def recordOwnership (signed : Attestation CreateResponse)
    (now : Timestamp) : Except Failure Journal := do
  let purpose :=
    match row.kind with
    | .target => "create_response_target"
    | .run => "create_response_run"
  let db ← db.receipt signed.payload.common.receiptUuid signed.digest row.id
    purpose
  let db ← db.ownership row.intent.resource row.id signed.payload signed.digest
  let awaited ← authority.isAwaited db row approval now
  updateOwned db row awaited

/-- `record_create_response`, which answers with the container. -/
def recordCreateResponse
    (permit : DispatchPermit) (signed : Attestation CreateResponse)
    (reading : Timestamp) : Except Failure (Journal × String) := do
  let kind := permit.resource.kind
  let (row, approval) ← authority.object db kind permit.intentUuid
  let response ← authority.verifyCommon .adapter CreateResponse.common signed
    approval
  let dispatched ← Journal.get db.createDispatches (kind, row.id)
  require (dispatched = permit) "trusted_dispatch_provenance_missing"
  require (ResponseMatches db row.intent permit response)
    "create_response_binding_mismatch"
  let db ← db.now reading
  require (row.intent.createdAt ≤ response.common.observedAt ∧
      response.common.observedAt ≤ reading)
    "create_response_time_invalid"
  match Documents.get? db.ownerships (row.intent.resource, row.id) with
  | some saved => do
      require (saved.attestationDigest = signed.digest) "ownership_conflict"
      return (db, response.containerId)
  | none => do
      let db ← authority.recordOwnership db row approval signed reading
      return (db, response.containerId)

/-- The snapshot belongs to the intent and the owned container. -/
def validateTarget (snapshot : TargetSnapshot) (intent : CreateIntent)
    (approval : RuntimeApproval)
    (ownership : Ownership) : Except Failure Unit := do
  require (snapshot.attempt = intent.attempt ∧
      snapshot.runtimeBindingUuid = intent.runtimeBindingUuid ∧
      snapshot.generationUuid = intent.generationUuid ∧
      snapshot.daemon = approval.daemon ∧
      snapshot.containerId = ownership.receipt.containerId ∧
      snapshot.imageId = approval.targetImageId ∧
      snapshot.policyDigest = approval.policyDigest)
    "target_identity_drift"
  require (snapshot.running = true ∧ snapshot.paused = false ∧
      snapshot.restarting = false ∧ snapshot.dead = false)
    "target_not_running"
  require (snapshot.endpoints.length = 1 ∧ ∀ endpoint ∈ snapshot.endpoints,
        endpoint.containerId = snapshot.containerId ∧
          endpoint.networkId = approval.network.networkId ∧
          endpoint.ipv4 = approval.network.targetIpv4)
    "target_network_drift"
  require (snapshot.config = expectedConfig db approval .target)
    "target_profile_drift"

/-- The four attestations of a check. -/
structure Bundle where
  identity : Attestation IdentityObservation
  network : Attestation NetworkEvidence
  egress : Attestation EgressEvidence
  validation : Attestation EgressValidation

/-- The earliest observation of a bundle. -/
def Bundle.observedAt (bundle : Bundle) : Timestamp :=
  min (min bundle.identity.payload.common.observedAt
      bundle.network.payload.common.observedAt)
    (min bundle.egress.payload.common.observedAt
      bundle.validation.payload.common.observedAt)

/-- The runner that the egress evidence has to name. -/
def expectedRunner
    (phase : Phase) (context : Uuid) : Except Failure (Option String) :=
  match phase with
  | .enroll => .ok none
  | .beforeCreate => .ok none
  | _ => do
      let owned ← Journal.get db.ownerships (.runner, context)
      return some owned.receipt.containerId

variable (context : Uuid) (phase : Phase)

/-- The requirements of `_check_bundle` on the network. -/
def checkNetwork (approval : RuntimeApproval) (snapshot : TargetSnapshot)
    (signed : Attestation NetworkEvidence) (runner : Option Endpoint)
    (now : Timestamp) : Except Failure Unit := do
  let network ← authority.verifyCommon .adapter NetworkEvidence.common signed
    approval
  Journal.fresh_ network.common context now
  require (network.phase = phase ∧ network.daemon = approval.daemon ∧
      network.internal = true ∧ network.driver = "bridge" ∧
      network.networkProfileDigest = db.digest (.network approval.network))
    "network_profile_drift"
  let endpoints := snapshot.endpoints ++ runner.toList
  require (network.endpoints.length = endpoints.length ∧
      network.endpoints ⊆ endpoints ∧ endpoints ⊆ network.endpoints)
    "extra_or_substituted_network_attachment"

/-- The requirements of `_check_bundle` on the egress. -/
def checkEgress (approval : RuntimeApproval) (snapshot : TargetSnapshot)
    (signed : Attestation EgressEvidence)
    (now : Timestamp) : Except Failure Unit := do
  let egress ← authority.verifyCommon .egress EgressEvidence.common signed
    approval
  Journal.fresh_ egress.common context now
  let runner ← expectedRunner db phase context
  require (egress.phase = phase ∧ egress.daemon = approval.daemon ∧
      egress.targetDigest = db.digest (.snapshot snapshot) ∧
      egress.runnerId = runner ∧
      egress.networkProfileDigest = db.digest (.network approval.network) ∧
      egress.enforcementReference = approval.network.enforcementReference ∧
      egress.rulesDigest = db.digest (.rules approval.network) ∧
      egress.defaultDeny = true ∧ egress.onlyTarget8080 = true ∧
      egress.deniesHostMetadataPlatform = true ∧ egress.antiSpoofing = true)
    "egress_unconfirmed"

/-- The requirements of `_check_bundle` on the validation. -/
def checkValidation (approval : RuntimeApproval) (egress : Digest)
    (signed : Attestation EgressValidation)
    (now : Timestamp) : Except Failure Unit := do
  let checked ← authority.verifyCommon .validator EgressValidation.common
    signed approval
  Journal.fresh_ checked.common context now
  require (checked.phase = phase ∧ checked.enforcementReceiptDigest = egress ∧
      checked.matrixDigest = expectedMatrix db approval phase ∧
      checked.passedCases = expectedCases approval phase)
    "independent_egress_validation_missing"

/-- The receipts of a bundle. -/
def receiveBundle (bundle : Bundle) : Except Failure Journal := do
  let db ← db.receipt bundle.identity.payload.common.receiptUuid
    bundle.identity.digest context (phase.value ++ "_identity")
  let db ← db.receipt bundle.network.payload.common.receiptUuid
    bundle.network.digest context (phase.value ++ "_network")
  let db ← db.receipt bundle.egress.payload.common.receiptUuid
    bundle.egress.digest context (phase.value ++ "_egress")
  db.receipt bundle.validation.payload.common.receiptUuid
    bundle.validation.digest context (phase.value ++ "_validation")

/-- `_check_bundle`. -/
def checkBundle (approval : RuntimeApproval) (snapshot : TargetSnapshot)
    (bundle : Bundle) (now : Timestamp)
    (runner : Option Endpoint) : Except Failure (Journal × Checked) := do
  let observation ← authority.verifyCommon .adapter
    IdentityObservation.common bundle.identity approval
  Journal.fresh_ observation.common context now
  require (observation.phase = phase ∧ observation.target = snapshot)
    "target_identity_drift"
  authority.checkNetwork db context phase approval snapshot bundle.network
    runner now
  authority.checkEgress db context phase approval snapshot bundle.egress now
  authority.checkValidation db context phase approval bundle.egress.digest
    bundle.validation now
  let db ← receiveBundle db context phase bundle
  return (db,
    { target := snapshot
      observedAt := bundle.observedAt
      identityReceipt := bundle.identity.digest
      networkReceipt := bundle.network.digest
      egressReceipt := bundle.egress.digest
      validationReceipt := bundle.validation.digest })

/-- `verify_provision`. -/
def verifyProvision (provisioningUuid : Uuid)
    (bundle : Bundle) (reading : Timestamp) : Except Failure Journal := do
  let (row, approval) ← authority.object db .target provisioningUuid
  let db ← db.now reading
  authority.currentRow db approval reading row
  require (row.phase = .exactIdRecorded) "creation_ownership_required"
  require (Documents.get? db.targetStartDispatches row.id ≠ none)
    "target_start_provenance_missing"
  let ownership ← Journal.get db.ownerships (.target, row.id)
  let observation ← authority.verifyCommon .adapter
    IdentityObservation.common bundle.identity approval
  validateTarget db observation.target row.intent approval ownership
  require (observation.target.restartCount = 0 ∧
      row.intent.createdAt ≤ observation.target.startedAt.timestamp ∧
      observation.target.startedAt.timestamp ≤ reading)
    "initial_target_generation_unconfirmed"
  let (db, checked) ← authority.checkBundle db row.id .enroll approval
    observation.target bundle reading none
  let targetBaselines ← db.put .checked db.targetBaselines row.id checked
  { db with targetBaselines := targetBaselines }.update row
    .identityVerified row.cleanup row.terminal

/-- The enrollment that `enroll` issues. -/
def newEnrollment
    (row : RuntimeObject) (baseline : Checked) (ownership : Ownership)
    (enrollmentUuid : Uuid) : RuntimeEnrollment where
  enrollmentUuid := enrollmentUuid
  provisioningUuid := row.id
  approvalUuid := approval.approvalUuid
  approvalDigest := db.digest (.approval approval)
  scope := approval.scope
  target := baseline.target
  creationReceiptUuid := ownership.receipt.common.receiptUuid
  creationReceiptDigest := ownership.attestationDigest
  policyDigest := approval.policyDigest
  verificationMode :=
    if approval.isLive then .liveRuntimeChainV2 else .offlineRuntimeChainV1

/-- The part of `enroll` for a target that is not enrolled yet. -/
def enrollNew (enrollmentUuid : Uuid) (reading : Timestamp) :
    Except Failure (Journal × RuntimeEnrollment) := do
  let db ← db.now reading
  authority.currentRow db approval reading row
  require (row.phase = .identityVerified) "verified_provisioning_chain_required"
  let baseline ← Journal.get db.targetBaselines row.id
  require (0 ≤ reading - baseline.observedAt ∧
      reading - baseline.observedAt ≤ apiSeconds)
    "enrollment_observation_stale"
  let ownership ← Journal.get db.ownerships (.target, row.id)
  let enrollment :=
    newEnrollment db approval row baseline ownership enrollmentUuid
  let enrollments ← db.put .enrollment db.enrollments row.id enrollment
  let enrollmentIndex ← db.put .enrollmentIndex db.enrollmentIndex
    enrollmentUuid row.id
  let db ← { db with
    enrollments := enrollments
    enrollmentIndex := enrollmentIndex }.update row .enrolled row.cleanup
    row.terminal
  return (db, enrollment)

/-- `enroll`. -/
def enroll
    (provisioningUuid : Uuid) (enrollmentUuid : Uuid) (reading : Timestamp) :
    Except Failure (Journal × RuntimeEnrollment) := do
  let (row, approval) ← authority.object db .target provisioningUuid
  if row.phase = .enrolled then
    let enrollment ← Journal.get db.enrollments row.id
    let db ← db.now reading
    let _ ← authority.verifyEnrollment db enrollment reading
    return (db, enrollment)
  else
    authority.enrollNew db row approval enrollmentUuid reading

end Authority

end TicketSandbox.Runtime
