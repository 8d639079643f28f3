import TicketSandbox.Runtime.Provisioning

namespace TicketSandbox.Runtime

/-!
# Runs

`trusted_checker_runtime/authority.py`: the reservation of a run, the checks
of its phases, its start, its probe, its terminal and its cleanup.
-/

open Sandbox (Timestamp)

namespace Authority

/-- The intent that `reserve_run` issues. -/
def runIntent (db : Journal) (approval : RuntimeApproval) (request : RunRequest)
    (enrollment : RuntimeEnrollment) (fingerprint : Digest) (intentUuid : Uuid)
    (now : Timestamp) : CreateIntent where
  intentUuid := intentUuid
  resource := .runner
  approvalUuid := approval.approvalUuid
  approvalDigest := db.digest (.approval approval)
  scope := approval.scope
  attempt := request.attempt
  runtimeBindingUuid := enrollment.target.runtimeBindingUuid
  generationUuid := enrollment.target.generationUuid
  daemon := approval.daemon
  imageId := approval.runnerImageId
  networkProfileDigest := db.digest (.network approval.network)
  policyDigest := approval.policyDigest
  profileDigest := approval.runnerProfileDigest
  requestFingerprint := fingerprint
  createdAt := now
  deadline := min (now + runSeconds) approval.expiresAt

variable (authority : Authority) (db : Journal) (approval : RuntimeApproval)

/-- The part of `reserve_run` for a request that names no run yet. -/
def reserveNew (request : RunRequest) (enrollment : RuntimeEnrollment)
    (canonical fingerprint : Digest) (intentUuid : Uuid)
    (now : Timestamp) : Except Failure (Journal × Uuid) := do
  db.circuit none
  require (∀ row ∈ db.objects, row.kind = .run → row.terminal ≠ none)
    "runtime_capacity"
  authority.current db approval now
  let intent :=
    runIntent db approval request enrollment fingerprint intentUuid now
  let db ← db.insert .run intent canonical request.requestUuid fingerprint
  let runEnrollments ← db.put .enrollment db.runEnrollments intentUuid
    enrollment
  let runRequests ← db.put .request db.runRequests intentUuid request
  return ({ db with
    runEnrollments := runEnrollments
    runRequests := runRequests }, intentUuid)

/-- `reserve_run`. -/
def reserveRun
    (request : RunRequest) (enrollment : RuntimeEnrollment) (intentUuid : Uuid)
    (reading : Timestamp) : Except Failure (Journal × Uuid) := do
  require (request.enrollmentUuid = enrollment.enrollmentUuid ∧
      request.attempt = enrollment.target.attempt)
    "run_owner_or_attempt_mismatch"
  let db ← db.now reading
  let approval ← authority.verifyEnrollment db enrollment reading
  let fingerprint := db.digest
      (.run request.enrollmentUuid request.attempt request.sampleSlot
        request.ordinary enrollment)
  let canonical := db.digest
      (.sample enrollment.enrollmentUuid request.sampleSlot
        (request.ordinary.bind OrdinaryMetadata.executionUuid))
  let (db, old) ← db.dedupe .run request.requestUuid canonical fingerprint
  match old with
  | some id => return (db, id)
  | none =>
      authority.reserveNew db approval request enrollment canonical
        fingerprint intentUuid reading

/-- The requirements of `_runner` on every observation. -/
def RunnerMatches (owned : Ownership) (observed : RunnerObservation) : Prop :=
  (observed.containerId = owned.receipt.containerId ∧
      observed.imageId = approval.runnerImageId ∧
      observed.daemon = approval.daemon ∧
      observed.config = expectedConfig db approval .runner) ∧
    observed.restartCount = 0 ∧ observed.paused = false ∧
    observed.restarting = false ∧ observed.dead = false
  deriving Decidable

/-- The endpoint of a runner is the one of its profile. -/
def checkEndpoint (observed : RunnerObservation) : Except Failure Unit :=
  require (∀ endpoint ∈ observed.endpoint,
      endpoint.containerId = observed.containerId ∧
        endpoint.networkId = approval.network.networkId ∧
        endpoint.ipv4 = approval.network.runnerIpv4)
    "runner_network_drift"

variable (row : RuntimeObject)

/-- A started runner is still the one that was seen live, if it was. -/
def checkGeneration (observed : RunnerObservation) : Except Failure Unit :=
  match Documents.get? db.runnerLives row.id with
  | some baseline =>
      require (observed.startedAt = baseline.startedAt ∧
          (observed.endpoint ≠ none ∧ observed.endpoint = baseline.endpoint ∨
            observed.endpoint = none ∧ observed.state = .exited))
        "runner_runtime_generation_drift"
  | none =>
      require (observed.state = .running ∧ observed.endpoint ≠ none)
        "runner_live_endpoint_unconfirmed"

/-- The branch of `_runner` for a started runner. -/
def checkStarted (approval : RuntimeApproval)
    (observed : RunnerObservation) (now : Timestamp) : Except Failure Unit := do
  require (observed.state = .running ∨ observed.state = .exited)
    "runner_start_unconfirmed"
  let startedAt ← Raises.required (.denied "runner_start_unconfirmed")
    observed.startedAt
  require (approval.isLive = true → observed.state = .exited →
      observed.exitCode = some 0)
    "runner_exit_unconfirmed"
  require
    (row.intent.createdAt ≤ startedAt.timestamp ∧ startedAt.timestamp ≤ now)
    "runner_start_time_unconfirmed"
  checkEndpoint approval observed
  checkGeneration db row observed

/-- `_runner`. -/
def runner (authority : Authority) (db : Journal) (row : RuntimeObject)
    (approval : RuntimeApproval)
    (signed : Option (Attestation RunnerObservation)) (now : Timestamp)
    (created : Bool) :
    Except Failure (Attestation RunnerObservation) := do
  let signed ← Raises.required (.denied "receipt_contract_invalid") signed
  let observed ← authority.verifyCommon .adapter RunnerObservation.common
    signed approval
  Journal.fresh_ observed.common row.id now
  let owned ← Journal.get db.ownerships (.runner, row.id)
  require (RunnerMatches db approval owned observed)
    "runner_identity_or_profile_drift"
  if created then
    require (observed.state = .created ∧ observed.startedAt = none ∧
        observed.endpoint = none)
      "runner_already_started"
  else
    checkStarted db row approval observed now
  return signed

/-- The phase of a run that a check follows. -/
def phaseBefore : Phase → Option ObjectPhase
  | .enroll => none
  | .beforeCreate => some .reserved
  | .beforeStart => some .runnerOwned
  | .beforeProbe => some .running
  | .afterProbe => some .probeRecorded
  | .beforePublish => some .postChecked

/-- The phase of a run that a check leads to. -/
def phaseAfter : Phase → ObjectPhase
  | .enroll => .enrolled
  | .beforeCreate => .checkedCreate
  | .beforeStart => .checkedStart
  | .beforeProbe => .probeReady
  | .afterProbe => .postChecked
  | .beforePublish => .publishChecked

/-- The runner of a check, whose receipt is kept. -/
def checkRunner (approval : RuntimeApproval) (phase : Phase)
    (signed : Option (Attestation RunnerObservation))
    (now : Timestamp) : Except Failure (Journal × Option Endpoint) :=
  if phase = .beforeCreate then
    .ok (db, none)
  else do
    let actual ← authority.runner db row approval signed now
      (phase == .beforeStart)
    let db ← db.receipt actual.payload.common.receiptUuid actual.digest
      row.id (phase.value ++ "_runner")
    return (db, actual.payload.endpoint)

variable (runId : Uuid)

/-- The transaction of `check_target`. -/
def checkTarget (phase : Phase) (bundle : Bundle)
    (signed : Option (Attestation RunnerObservation))
    (reading : Timestamp) : Except Failure Journal := do
  let (row, approval) ← authority.object db .run runId
  let db ← db.now reading
  authority.currentRow db approval reading row
  let enrollment ← authority.enrollmentForRun db row reading
  require (row.terminal = none) "execution_terminal"
  require (phase ≠ .beforeProbe ∨ approval.isLive = true) "live_phase_only"
  require (phaseBefore phase = some row.phase) "execution_phase_order_invalid"
  let (db, endpoint) ← authority.checkRunner db row approval phase signed
    reading
  let (db, checked) ← authority.checkBundle db runId phase approval
    enrollment.target bundle reading endpoint
  let phaseChecks ← db.put .checked db.phaseChecks (phase, runId) checked
  { db with phaseChecks := phaseChecks }.update row (phaseAfter phase)
    row.cleanup row.terminal

/-- `authorize_start`. -/
def authorizeStart (permitUuid : Uuid)
    (reading : Timestamp) : Except Failure (Journal × StartPermit) := do
  let (row, approval) ← authority.object db .run runId
  let db ← db.now reading
  authority.currentRow db approval reading row
  let enrollment ← authority.enrollmentForRun db row reading
  phaseFresh db runId .beforeStart reading
  require (row.phase = .checkedStart) "runner_start_not_authorized"
  let owned ← Journal.get db.ownerships (.runner, runId)
  let permit : StartPermit :=
    { permitUuid := permitUuid
      runUuid := runId
      enrollmentDigest := db.digest (.enrollment enrollment)
      runnerId := owned.receipt.containerId
      controlEpoch := row.epoch
      deadline := row.deadline }
  let startPermits ← db.put .startPermit db.startPermits runId permit
  let db ← { db with startPermits := startPermits }.update row
    .startAuthorized row.cleanup row.terminal
  return (db, permit)

/-- The first transaction of `start_fence`. -/
def claimStart
    (permit : StartPermit) (reading : Timestamp) : Except Failure Journal := do
  let (row, approval) ← authority.object db .run permit.runUuid
  let db ← db.now reading
  authority.currentRow db approval reading row
  authority.runChecked db row .beforeStart reading
  require (row.phase = .startAuthorized) "start_permit_not_issued_or_consumed"
  let issued ← Journal.get db.startPermits row.id
  require (issued = permit) "start_permit_not_issued_or_consumed"
  let startDispatches ← db.put .startPermit db.startDispatches row.id permit
  { db with startDispatches := startDispatches }.update row .startRequested
    row.cleanup row.terminal

/--
The second transaction of `start_fence`, up to its body.  The enrollment is
verified at a second clock reading.
-/
def enterStart (permit : StartPermit)
    (reading second : Timestamp) : Except Failure Journal := do
  let (row, approval) ← authority.object db .run permit.runUuid
  let db ← db.now reading
  authority.currentRow db approval reading row
  let _ ← authority.enrollmentForRun db row second
  return db

/-- The second transaction of `start_fence`, after its body. -/
def leaveStart : Except Failure Journal := do
  let row ← Raises.required (.denied "runtime_object_missing")
    (db.object? .run runId)
  db.update row .startInvoked row.cleanup row.terminal

/-- `record_runner_live`. -/
def recordRunnerLive (signed : Attestation RunnerObservation)
    (reading : Timestamp) : Except Failure Journal := do
  let (row, approval) ← authority.object db .run runId
  let db ← db.now reading
  authority.currentRow db approval reading row
  let _ ← authority.enrollmentForRun db row reading
  require (row.phase = .startInvoked) "runner_start_not_invoked"
  let actual ← authority.runner db row approval (some signed) reading false
  let db ← db.receipt actual.payload.common.receiptUuid actual.digest runId
    "runner_live"
  let runnerLives ← db.put .runner db.runnerLives runId actual.payload
  { db with runnerLives := runnerLives }.update row .running row.cleanup
    row.terminal

/-- The probe is the one of the owned runner on the enrolled target. -/
def ProbeMatches (enrollment : RuntimeEnrollment)
    (owned : Ownership) (probe : ProbeResponse) : Prop :=
  probe.runnerId = owned.receipt.containerId ∧
    probe.runnerImageId = approval.runnerImageId ∧
    probe.checkerSourceDigest = approval.checkerSourceDigest ∧
    probe.targetDigest = db.digest (.snapshot enrollment.target) ∧
    probe.policyDigest = approval.policyDigest
  deriving Decidable

/-- The phase in which a probe is recorded. -/
def probePhase : ObjectPhase :=
  if approval.isLive then .probeReady else .running

/-- `record_probe`. -/
def recordProbe (signed : Attestation ProbeResponse)
    (reading : Timestamp) : Except Failure Journal := do
  let (row, approval) ← authority.object db .run runId
  let db ← db.now reading
  authority.currentRow db approval reading row
  let enrollment ← authority.enrollmentForRun db row reading
  require (row.phase = probePhase approval) "runner_runtime_unconfirmed"
  let probe ← authority.verifyCommon .adapter ProbeResponse.common signed
    approval
  Journal.fresh_ probe.common runId reading
  let owned ← Journal.get db.ownerships (.runner, runId)
  require (ProbeMatches db approval enrollment owned probe)
    "probe_identity_mismatch"
  let outcome := probeOutcome db approval probe
  let db ← db.receipt probe.common.receiptUuid signed.digest runId "probe"
  let probes ← db.put .probe db.probes runId
    { outcome := outcome
      receiptDigest := signed.digest
      observedAt := probe.common.observedAt }
  { db with probes := probes }.update row .probeRecorded row.cleanup
    row.terminal

/-- The terminal of a run with the result and its reason. -/
def terminalOf
    (result : Verdict) (reason : String) (now : Timestamp) : Terminal where
  schemaVersion := approval.schemaVersion
  shadowRunUuid := runId
  result := result
  reason := reason
  finishedAt := now
  policyId := approval.policyId
  policyVersion := approval.policyVersion
  policyDigest := approval.policyDigest
  executionMode := approval.authorityMode

/-- The cleanup that a run needs once it has a terminal. -/
def terminalCleanup : Cleanup :=
  if (Documents.get? db.ownerships (.runner, runId)).isSome then
    .pending
  else if (Documents.get? db.createDispatches (.run, runId)).isSome then
    .quarantined
  else
    .notRequired

/-- `_terminal`. -/
def terminal (authority : Authority) (db : Journal) (row : RuntimeObject)
    (result : Verdict) (reason : String)
    (now : Timestamp) : Except Failure (Journal × Terminal) :=
  match row.terminal with
  | some terminal => .ok (db, terminal)
  | none => do
      let approval ← authority.approval db row.intent.approvalUuid
      let terminal := terminalOf approval row.id result reason now
      let db ← db.update row .terminal (terminalCleanup db row.id)
        (some terminal)
      return (db, terminal)

/-- `record_runner_finished`. -/
def recordRunnerFinished (signed : Attestation RunnerObservation)
    (reading : Timestamp) : Except Failure Journal := do
  let (row, approval) ← authority.object db .run runId
  let db ← db.now reading
  authority.currentRow db approval reading row
  require (approval.isLive = true ∧ row.phase = .publishChecked)
    "finalize_not_authorized"
  let _ ← authority.enrollmentForRun db row reading
  let actual ← authority.runner db row approval (some signed) reading false
  require (actual.payload.state = .exited ∧ actual.payload.exitCode = some 0)
    "runner_finish_unproven"
  let db ← db.receipt actual.payload.common.receiptUuid actual.digest runId
    "runner_finished"
  let runnerFinishes ← db.put .runner db.runnerFinishes runId actual.payload
  return { db with runnerFinishes := runnerFinishes }

/-- `_unknown`. -/
def unknown
    (authority : Authority) (db : Journal) (runId : Uuid) (reason : String)
    (reading : Timestamp) : Except Failure (Journal × Terminal) := do
  let (row, _) ← authority.object db .run runId
  let db ← db.now reading
  authority.terminal db row .unknown reason reading

/-- A live run is published while its finish is recent. -/
def checkFinished (now : Timestamp) : Except Failure Unit :=
  if approval.isLive then do
    let finished ← Journal.get db.runnerFinishes runId
    require (0 ≤ now - finished.common.observedAt ∧
        now - finished.common.observedAt ≤ apiSeconds)
      "runner_finish_stale"
  else
    .ok ()

/-- The part of `publish` for a run without a terminal. -/
def publishOpen (approval : RuntimeApproval)
    (reading : Timestamp) : Except Failure (Journal × Terminal) := do
  let db ← db.now reading
  authority.currentRow db approval reading row
  let _ ← authority.enrollmentForRun db row reading
  require (row.phase = .publishChecked) "publication_identity_unconfirmed"
  phaseFresh db row.id .beforePublish reading
  checkFinished db approval row.id reading
  let probe ← Journal.get db.probes row.id
  authority.terminal db row probe.outcome.result probe.outcome.reason reading

/-- The first transaction of `publish`. -/
def publish (reading : Timestamp) : Except Failure (Journal × Terminal) := do
  let (row, approval) ← authority.object db .run runId
  match row.terminal with
  | some terminal => return (db, terminal)
  | none => authority.publishOpen db row approval reading

/-- The run is still valid. -/
def isCurrent
    (approval : RuntimeApproval) (now : Timestamp) : Except Failure Unit := do
  authority.currentRow db approval now row
  let _ ← authority.enrollmentForRun db row now

/-- `expire_run`. -/
def expireRun (reading : Timestamp) : Except Failure Journal := do
  let (row, approval) ← authority.object db .run runId
  let db ← db.now reading
  match authority.isCurrent db row approval reading with
  | .ok _ => return db
  | .error (.denied _) => do
      let (db, _) ← authority.terminal db row .unknown
        "deadline_or_cancellation" reading
      return db
  | .error .storage => .error .storage

/-- `abandon_run`. -/
def abandonRun (reading : Timestamp) : Except Failure (Journal × Terminal) :=
  authority.unknown db runId "execution_outcome_unknown" reading

/-- The object may be cleaned up. -/
def IsCleanable : Prop :=
  if row.kind = .run then row.terminal ≠ none else row.phase = .quarantined
  deriving Decidable

/-- `record_cleanup`. -/
def recordCleanup (signed : Attestation CleanupConfirmation)
    (reading : Timestamp) : Except Failure Journal := do
  let kind := signed.payload.resource.kind
  let (row, approval) ← authority.object db kind
    signed.payload.common.contextUuid
  let confirmation ← authority.verifyCommon .recovery
    CleanupConfirmation.common signed approval
  let db ← db.now reading
  Journal.fresh_ confirmation.common row.id reading
  let owned ← Journal.get db.ownerships (row.intent.resource, row.id)
  require (confirmation.daemon = row.intent.daemon ∧
      confirmation.containerId = owned.receipt.containerId ∧
      confirmation.ownershipDigest = owned.attestationDigest)
    "cleanup_ownership_mismatch"
  require (IsCleanable row) "cleanup_phase_invalid"
  require (confirmation.outcome = "removed_confirmed") "cleanup_unconfirmed"
  let db ← db.receipt confirmation.common.receiptUuid signed.digest row.id
    "cleanup"
  let cleanups ← db.put .cleanup db.cleanups (kind, row.id)
    { receiptDigest := signed.digest
      at_ := reading }
  { db with cleanups := cleanups }.update row row.phase .confirmed row.terminal

end Authority

end TicketSandbox.Runtime
