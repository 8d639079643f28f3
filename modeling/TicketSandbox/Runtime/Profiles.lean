import TicketSandbox.Library.Documents
import TicketSandbox.Library.Raises
import TicketSandbox.Library.Rows
import TicketSandbox.Runtime.Contracts

namespace TicketSandbox.Runtime

/-!
# The provenance journal

`trusted_checker_runtime/journal.py`.  Documents, receipts and ownerships are
only appended; the binding of an object never changes, and once it has a
terminal neither the terminal nor the phase does.  The audit table, which only
reports read, is left out.
-/

open Raises
open Sandbox (Timestamp)

/-- `Verdict`. -/
inductive Verdict where
  | passed
  | failed
  | unknown
  deriving Repr, DecidableEq

/-- The outcome of a probe. -/
structure Outcome where
  result : Verdict
  reason : String
  httpStatus : Option Nat
  responseBytes : Option Nat
  responseDigest : Option Digest

/-- The document `ownership_…`. -/
structure Ownership where
  receipt : CreateResponse
  attestationDigest : Digest

/-- The document `target_start_dispatch`. -/
structure StartReference where
  provisioningUuid : Uuid
  containerId : String
  ownershipDigest : Digest
  approvalDigest : Digest

/-- What a bundle of observations leaves behind. -/
structure Checked where
  target : TargetSnapshot
  observedAt : Timestamp
  identityReceipt : Digest
  networkReceipt : Digest
  egressReceipt : Digest
  validationReceipt : Digest

/-- The document `probe`. -/
structure ProbeDocument where
  outcome : Outcome
  receiptDigest : Digest
  observedAt : Timestamp

/-- The document `cleanup_…`. -/
structure CleanupDocument where
  receiptDigest : Digest
  at_ : Timestamp

/-- What is hashed. -/
inductive Digested where
  | approval (approval : RuntimeApproval)
  | network (network : NetworkProfile)
  | rules (network : NetworkProfile)
  | matrix (network : NetworkProfile)
  | liveMatrix (network : NetworkProfile) (phase : Phase)
  | daemon (daemon : DaemonIdentity)
  | intent (intent : CreateIntent)
  | snapshot (snapshot : TargetSnapshot)
  | enrollment (enrollment : RuntimeEnrollment)
  | provision (attempt : AttemptReference) (approval : Digest)
  | attempt (sandboxInstance : String) (attemptId : Nat)
  | run (enrollmentUuid : Uuid) (attempt : AttemptReference) (sampleSlot : Uuid)
      (ordinary : Option OrdinaryMetadata) (enrollment : RuntimeEnrollment)
  | sample (enrollmentUuid : Uuid) (sampleSlot : Uuid) (ordinary : Option Uuid)
  | texts (texts : List String)
  | pairs (pairs : List (String × String))
  | command (entrypoint command : List String)
  | bytes (bytes : List UInt8)
  | dispatchPermit (permit : DispatchPermit)
  | startPermit (permit : StartPermit)
  | ownership (ownership : Ownership)
  | startReference (reference : StartReference)
  | checked (checked : Checked)
  | enrollmentIndex (provisioningUuid : Uuid)
  | request (request : RunRequest)
  | runner (observation : RunnerObservation)
  | probe (probe : ProbeDocument)
  | cleanup (cleanup : CleanupDocument)

/-- The `kind` of an object. -/
inductive Kind where
  | target
  | run
  deriving Repr, DecidableEq

/-- The `phase` of an object. -/
inductive ObjectPhase where
  | intentRecorded
  | reserved
  | checkedCreate
  | createRequested
  | exactIdRecorded
  | identityVerified
  | enrolled
  | quarantined
  | runnerOwned
  | checkedStart
  | startAuthorized
  | startRequested
  | startInvoked
  | running
  | probeReady
  | probeRecorded
  | postChecked
  | publishChecked
  | terminal
  deriving Repr, DecidableEq

/-- The `cleanup` of an object. -/
inductive Cleanup where
  | notRequired
  | retained
  | pending
  | quarantined
  | confirmed
  deriving Repr, DecidableEq

/-- The terminal of a run, without its constant fields. -/
structure Terminal where
  schemaVersion : Nat
  shadowRunUuid : Uuid
  result : Verdict
  reason : String
  finishedAt : Timestamp
  policyId : String
  policyVersion : Nat
  policyDigest : Digest
  executionMode : AuthorityMode
  deriving Repr, DecidableEq

/-- A row of `rt_objects`. -/
structure RuntimeObject where
  kind : Kind
  id : Uuid
  intent : CreateIntent
  fingerprint : Digest
  phase : ObjectPhase
  cleanup : Cleanup
  epoch : Nat
  deadline : Timestamp
  terminal : Option Terminal

/-- The primary key of an object. -/
def RuntimeObject.key (row : RuntimeObject) : Kind × Uuid :=
  (row.kind, row.id)

/-- A row of `rt_requests`. -/
structure RequestAlias where
  kind : Kind
  id : Uuid
  fingerprint : Digest
  objectId : Uuid

/-- A row of `rt_claims`. -/
structure Claim where
  kind : Kind
  canonical : Digest
  objectId : Uuid
  fingerprint : Digest

/-- What a revocation names. -/
inductive Revoked where
  | approval (approvalUuid : Uuid)
  | binding (runtimeBindingUuid : Uuid)
  deriving Repr, DecidableEq

/-- A row of `rt_ownership`. -/
structure OwnershipRow where
  domain : Resource
  resourceId : Uuid
  containerId : String
  daemonDigest : Digest
  receiptId : Uuid
  digest : Digest

/-- A row of `rt_receipts`. -/
structure ReceiptRow where
  id : Uuid
  digest : Digest
  context : Uuid
  purpose : String
  deriving Repr, DecidableEq

/-- What a call raises: `Denied` with its reason, or an error of SQLite. -/
inductive Failure where
  | denied (reason : String)
  | storage

/-- Raise `Denied` unless the condition holds. -/
def require (condition : Prop) [Decidable condition]
    (reason : String) : Except Failure Unit :=
  ensure condition (.denied reason)

/--
The journal with its stop latch.  Every kind of document has its own table,
and the hash function stands for SHA-256.
-/
structure Journal where
  live : Bool
  digest : Digested → Digest
  stopRequested : Bool
  enabled : Bool
  epoch : Nat
  clockHighwater : Timestamp
  objects : List RuntimeObject
  requests : List RequestAlias
  claims : List Claim
  revocations : List Revoked
  ownershipRows : List OwnershipRow
  receipts : List ReceiptRow
  approvals : Documents.Table Uuid RuntimeApproval
  createPermits : Documents.Table (Kind × Uuid) DispatchPermit
  createDispatches : Documents.Table (Kind × Uuid) DispatchPermit
  targetStartDispatches : Documents.Table Uuid StartReference
  ownerships : Documents.Table (Resource × Uuid) Ownership
  targetBaselines : Documents.Table Uuid Checked
  enrollments : Documents.Table Uuid RuntimeEnrollment
  enrollmentIndex : Documents.Table Uuid Uuid
  runEnrollments : Documents.Table Uuid RuntimeEnrollment
  runRequests : Documents.Table Uuid RunRequest
  phaseChecks : Documents.Table (Phase × Uuid) Checked
  startPermits : Documents.Table Uuid StartPermit
  startDispatches : Documents.Table Uuid StartPermit
  runnerLives : Documents.Table Uuid RunnerObservation
  runnerFinishes : Documents.Table Uuid RunnerObservation
  probes : Documents.Table Uuid ProbeDocument
  cleanups : Documents.Table (Kind × Uuid) CleanupDocument

namespace Journal

/-- A new journal: disabled, without any rows. -/
def fresh (live : Bool) (digest : Digested → Digest) : Journal where
  live := live
  digest := digest
  stopRequested := false
  enabled := false
  epoch := 0
  clockHighwater := 0
  objects := []
  requests := []
  claims := []
  revocations := []
  ownershipRows := []
  receipts := []
  approvals := []
  createPermits := []
  createDispatches := []
  targetStartDispatches := []
  ownerships := []
  targetBaselines := []
  enrollments := []
  enrollmentIndex := []
  runEnrollments := []
  runRequests := []
  phaseChecks := []
  startPermits := []
  startDispatches := []
  runnerLives := []
  runnerFinishes := []
  probes := []
  cleanups := []

/-- `put`, into the table of the document's kind. -/
def put {κ α : Type} [DecidableEq κ] (db : Journal) (digested : α → Digested)
    (table : Documents.Table κ α) (key : κ)
    (document : α) : Except Failure (Documents.Table κ α) :=
  required (.denied "immutable_document_conflict")
    (Documents.put? (fun other => db.digest (digested other)) table key
      document)

/-- `get`, from the table of the document's kind. -/
def get {κ α : Type} [DecidableEq κ] (table : Documents.Table κ α)
    (key : κ) : Except Failure α :=
  required (.denied "provenance_document_missing") (Documents.get? table key)

/-- `receipt`: remember an attestation together with what it was used for. -/
def receipt (db : Journal) (id : Uuid) (digest : Digest) (context : Uuid)
    (purpose : String) : Except Failure Journal :=
  let row : ReceiptRow :=
    { id := id
      digest := digest
      context := context
      purpose := purpose }
  match db.receipts.find? fun old => decide (old.id = id) with
  | some old => do
      require (old = row) "receipt_replay_conflict"
      return db
  | none => .ok { db with receipts := db.receipts ++ [row] }

/-- The object with the primary key. -/
def object? (db : Journal) (kind : Kind) (id : Uuid) : Option RuntimeObject :=
  db.objects.find? fun row => decide (row.key = (kind, id))

/--
An update of the phase, the cleanup and the terminal of one row, under the
trigger `rt_terminal_immutable`.
-/
def update (db : Journal) (row : RuntimeObject) (phase : ObjectPhase)
    (cleanup : Cleanup)
    (terminal : Option Terminal) : Except Failure Journal := do
  ensure (row.terminal ≠ none → terminal = row.terminal ∧ phase = row.phase)
    .storage
  return { db with
    objects := Rows.modify RuntimeObject.key row.key (fun _ =>
          { row with phase := phase, cleanup := cleanup, terminal := terminal })
        db.objects }

/-- `ownership`: the document and the row under its two unique keys. -/
def ownership
    (db : Journal) (resource : Resource) (id : Uuid) (response : CreateResponse)
    (digest : Digest) : Except Failure Journal := do
  let ownerships ← db.put .ownership db.ownerships (resource, id)
    { receipt := response
      attestationDigest := digest }
  let row : OwnershipRow :=
    { domain := resource
      resourceId := id
      containerId := response.containerId
      daemonDigest := db.digest (.daemon response.daemon)
      receiptId := response.common.receiptUuid
      digest := digest }
  ensure (∀ old ∈ db.ownershipRows,
      (old.domain, old.resourceId) ≠ (resource, id) ∧
        (old.daemonDigest, old.containerId) ≠
          (row.daemonDigest, row.containerId))
    .storage
  return { db with
    ownerships := ownerships
    ownershipRows := db.ownershipRows ++ [row] }

end Journal

end TicketSandbox.Runtime

namespace TicketSandbox.Runtime

/-!
# Profiles and the predicate of a probe

`trusted_checker_runtime/profiles.py` and `live_contract.py`: the fixed
configurations of target and runner and the digests of the egress rules.  The
predicate is `trusted_checker_shadow/predicate.py`.
-/

namespace RuntimeApproval

/-- The approval is for live runs. -/
def isLive (approval : RuntimeApproval) : Bool :=
  approval.authorityMode == .liveRuntimeV2

end RuntimeApproval

/-- `PATH_ENV`. -/
def pathEnv : String :=
  "PATH=/usr/local/sbin:/usr/local/bin:/usr/sbin:/usr/bin:/sbin:/bin"

/-- `live_environment`, in sorted order. -/
def liveEnvironment (approval : RuntimeApproval) : Resource → List String
  | .target => ["DEBIAN_FRONTEND=noninteractive", pathEnv]
  | .runner => [pathEnv, "TC_TARGET_IPV4=" ++ approval.network.targetIpv4]

/-- The `tmpfs` of a profile; the live digest sorts it. -/
def tmpfs (live : Bool) : Resource → List (String × String)
  | .target =>
      let temporary := ("/tmp", "rw,noexec,nosuid,nodev,size=128m")
      let volatile := ("/run", "rw,noexec,nosuid,nodev,size=64m")
      if live then [volatile, temporary] else [temporary, volatile]
  | .runner =>
      [("/scratch",
        "rw,noexec,nosuid,nodev,size=1m,uid=10001,gid=10001,mode=0700")]

/-- The entrypoint and the command of a profile. -/
def entrypoint (live : Bool) : Resource → List String × List String
  | .target => ([], ["/start.sh"])
  | .runner =>
      ([if live then "/usr/bin/python3" else "/usr/local/bin/python", "-I",
          "/checker/service_bind_peer.py"], [])

/-- `expected_config`. -/
def expectedConfig (db : Journal) (approval : RuntimeApproval)
    (resource : Resource) : RuntimeConfig :=
  let live := approval.isLive
  let runner := resource == .runner
  let program := entrypoint live resource
  { user := if runner then "10001:10001" else "0:0"
    readOnly := runner
    privileged := false
    capDrop := ["ALL"]
    capAdd := []
    noNewPrivileges := true
    pidMode := "private"
    ipcMode := "private"
    hostMounts := 0
    dockerSocket := false
    tmpfsDigest := db.digest (.pairs (tmpfs live resource))
    entrypointDigest := db.digest (.command program.1 program.2)
    cpuNanos := if runner then 250000000 else 1000000000
    memory := if runner then 64 * 1024 * 1024 else 768 * 1024 * 1024
    pids := if runner then 32 else 256
    networkMode := approval.network.networkId
    logLimitBytes := 16384
    outputLimitBytes := 4096
    networkCount := 1
    environmentDigest := db.digest
        (.texts (if live then liveEnvironment approval resource else []))
    logFiles := 1
    stdinOpen := live && runner
    tty := false
    workingDir := if live && runner then "/scratch" else "" }

/-- The phases that a live run passes before its namespace is active. -/
def Phase.isPreflight : Phase → Bool
  | .enroll => true
  | .beforeCreate => true
  | .beforeStart => true
  | _ => false

/-- The cases that a validation must have passed. -/
def expectedCases (approval : RuntimeApproval) (phase : Phase) : List String :=
  if approval.isLive && phase.isPreflight then livePreflightCases
  else egressCases

/-- `matrix_digest` or `live_matrix_digest`. -/
def expectedMatrix
    (db : Journal) (approval : RuntimeApproval) (phase : Phase) : Digest :=
  if approval.isLive then db.digest (.liveMatrix approval.network phase)
  else db.digest (.matrix approval.network)

/-- The bytes of an ASCII text. -/
def asciiBytes (text : String) : List UInt8 :=
  text.toList.map fun character => character.toNat.toUInt8

/-- `POLICY.expected_body`. -/
def expectedBody : List UInt8 :=
  asciiBytes "APP OK: customer service is running"

/-- `rstrip` of line feeds. -/
def stripLineFeeds (body : List UInt8) : List UInt8 :=
  (body.reverse.dropWhile fun byte => decide (byte = 10)).reverse

/-- An outcome with the status and the length of the response only. -/
def failedOutcome (reason : String) (status length : Nat) : Outcome where
  result := .failed
  reason := reason
  httpStatus := some status
  responseBytes := some length
  responseDigest := none

/-- An outcome without a response. -/
def silentOutcome (result : Verdict) (reason : String) : Outcome where
  result := result
  reason := reason
  httpStatus := none
  responseBytes := none
  responseDigest := none

/-- `evaluate_response`. -/
def evaluateResponse (db : Journal) (status : Nat) (body : List UInt8)
    (complete : Bool) : Outcome :=
  if !complete then
    silentOutcome .unknown "response_protocol_invalid"
  else if 1024 < body.length then
    failedOutcome "response_too_large" status 1025
  else if 300 ≤ status ∧ status < 400 then
    failedOutcome "redirect_rejected" status body.length
  else if status ≠ 200 then
    failedOutcome "unexpected_http_status" status body.length
  else if stripLineFeeds body ≠ expectedBody then
    failedOutcome "unexpected_http_body" status body.length
  else
    { result := .passed
      reason := "external_ipv4_http_observed"
      httpStatus := some status
      responseBytes := some body.length
      responseDigest := some (db.digest (.bytes body)) }

/-- The outcome that `record_probe` derives from a probe. -/
def probeOutcome (db : Journal) (approval : RuntimeApproval)
    (probe : ProbeResponse) : Outcome :=
  if probe.transport = .refused ∧ approval.isLive then
    silentOutcome .failed "peer_connection_refused"
  else if probe.transport ≠ .none then
    silentOutcome .unknown "transport_uncertain"
  else
    evaluateResponse db probe.status probe.body probe.complete

end TicketSandbox.Runtime
