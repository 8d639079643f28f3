import TicketSandbox.Library.Raises
import TicketSandbox.Sandbox.Models

namespace TicketSandbox.Shadow

/-!
# Contracts of the shadow checker

`trusted_checker_shadow/contracts.py`, `policy.py` and the ticket of
`backend.py`: what an operator asks for, what was enrolled, and what a probe
observed.  The formats of the single texts are left out.
-/

open Raises (ensure)
open Sandbox (Timestamp)

/-- A UUID. -/
abbrev Uuid := Nat

/-- A SHA-256 digest. -/
abbrev Digest := Nat

/-- How a call on the store fails. -/
inductive Failure where
  | rejected (code : String)
  | integrityError

/-- `require`. -/
def require (condition : Prop) [Decidable condition]
    (code : String) : Except Failure Unit :=
  ensure condition (.rejected code)

/-- `positive`. -/
def positive (value : Int) : Except Failure Unit :=
  require (0 < value ∧ value ≤ 1 <<< 63 - 1) "reference_invalid"

/-- `instant`. -/
def instant (value : Timestamp) : Except Failure Unit :=
  require (0 < value) "timestamp_invalid"

/-- `TASK`. -/
def task : String := "l1/service-bind-localhost"

/-- `CRITERIA_SCOPE`. -/
def criteriaScope : String := "external_ipv4_http_only"

/-- `PeerPolicy`, with its defaults. -/
structure PeerPolicy where
  policyId : String := "service-bind-localhost-peer-v1"
  version : Int := 1
  schemaVersion : Int := 1
  task : String := Shadow.task
  protocol : String := "http_ipv4"
  port : Nat := 8080
  path : String := "/"
  status : Nat := 200
  expectedBody : String := "APP OK: customer service is running"
  maxBodyBytes : Nat := 1024
  normalization : String := "trailing_lf_only"
  httpTimeoutSeconds : Nat := 2
  runTimeoutSeconds : Nat := 8
  criteriaScope : String := Shadow.criteriaScope
  localAccess : String := "unverified"
  applicationAuthenticity : String := "unproven"
  persistence : String := "unverified"
  executionMode : String := "offline_fake_only"
  deriving Repr, DecidableEq

/-- `POLICY`. -/
def policy : PeerPolicy := {}

/-- Microseconds in a second. -/
def second : Int := 1000000

/-- `Verdict`. -/
inductive Verdict where
  | passed
  | failed
  | unknown
  deriving Repr, DecidableEq

/-- `Reason`. -/
inductive Reason where
  | httpObserved
  | status
  | body
  | redirect
  | oversized
  | transport
  | timeout
  | protocol
  | identity
  | infrastructure
  | deadline
  | killed
  | issue
  | replay
  deriving Repr, DecidableEq

/-- `TECHNICAL_FAILURES`. -/
def technicalFailures : List Reason :=
  [.status, .body, .redirect, .oversized]

/-- `TargetIdentity`. -/
structure TargetIdentity where
  sandboxInstance : String
  attemptId : Int
  ownerId : Int
  task : String
  daemonId : String
  containerId : String
  imageId : String
  runtimeBindingUuid : Uuid
  generation : Uuid
  startedAt : String
  restartCount : Nat
  networkId : String
  endpointId : String
  ipv4 : String
  scope : String
  deriving Repr, DecidableEq

/-- `CreationProvenance`. -/
structure CreationProvenance where
  reference : String
  digest : Digest
  deriving Repr, DecidableEq

/-- `VerifiedEnrollment`. -/
structure VerifiedEnrollment where
  enrollmentUuid : Uuid
  authorityId : String
  fixtureUuid : Uuid
  target : TargetIdentity
  provenance : CreationProvenance
  policyId : String
  policyVersion : Int
  policyDigest : Digest
  operatorId : String
  verificationMode : String := "offline_fixture_only"
  schemaVersion : Int := 1
  deriving Repr, DecidableEq

/-- `RuntimeObservation`. -/
structure RuntimeObservation where
  target : TargetIdentity
  running : Bool := true
  paused : Bool := false
  restarting : Bool := false
  dead : Bool := false
  deriving Repr, DecidableEq

/-- `OrdinaryEvidence`. -/
structure OrdinaryEvidence where
  attemptId : Int
  ownerId : Int
  task : String := Shadow.task
  checkRunId : Option Int := none
  technicalExecutionUuid : Option Uuid := none
  result : Verdict := .unknown
  criteriaScope : String := "full_task_legacy"
  correlationQuality : String := "same_attempt_temporal"
  runtimeBindingUuid : Option Uuid := none
  generation : Option Uuid := none
  observedFrom : Option Timestamp := none
  observedUntil : Option Timestamp := none
  deriving Repr, DecidableEq

/-- `OrdinaryEvidence.__post_init__`. -/
def OrdinaryEvidence.postInit
    (evidence : OrdinaryEvidence) : Except Failure Unit := do
  positive evidence.attemptId
  positive evidence.ownerId
  require (evidence.task = Shadow.task) "task_not_allowed"
  match evidence.checkRunId with
  | some checkRunId => positive checkRunId
  | none => pure ()
  require (evidence.criteriaScope ∈ ["full_task_legacy", Shadow.criteriaScope])
    "criteria_scope_invalid"
  require (evidence.correlationQuality ∈
      ["same_attempt_temporal", "same_generation_proven", "unpaired"])
    "correlation_quality_invalid"
  match evidence.observedFrom, evidence.observedUntil with
  | none, none => pure ()
  | some observedFrom, some observedUntil => do
      instant observedFrom
      instant observedUntil
      require (observedFrom ≤ observedUntil) "window_invalid"
  | _, _ => throw (.rejected "window_invalid")

/-- What `OperatorRequest.payload` keeps of a request. -/
structure RequestPayload where
  enrollmentUuid : Uuid
  attemptId : Int
  ownerId : Int
  scope : String
  sampleSlot : Uuid
  deadline : Timestamp
  ordinary : Option OrdinaryEvidence := none
  task : String := Shadow.task
  policyId : String := policy.policyId
  policyVersion : Int := policy.version
  policyDigest : Digest
  schemaVersion : Int := 1
  deriving Repr, DecidableEq

/-- `OperatorRequest`: its payload and the identifier it is known by. -/
structure OperatorRequest where
  requestUuid : Uuid
  payload : RequestPayload

/-- `OperatorRequest.__post_init__`, given `POLICY.digest`. -/
def RequestPayload.postInit (payload : RequestPayload)
    (policyDigest : Digest) : Except Failure Unit := do
  positive payload.attemptId
  positive payload.ownerId
  instant payload.deadline
  require (payload.task = Shadow.task) "task_not_allowed"
  require (payload.policyId = policy.policyId ∧
      payload.policyVersion = policy.version ∧
      payload.policyDigest = policyDigest)
    "policy_mismatch"
  require (payload.schemaVersion = 1) "schema_invalid"
  match payload.ordinary with
  | none => pure ()
  | some ordinary => do
      ordinary.postInit
      require (ordinary.attemptId = payload.attemptId ∧
          ordinary.ownerId = payload.ownerId ∧
          ordinary.task = payload.task)
        "ordinary_identity_mismatch"

/-- `ProbeResult`. -/
structure ProbeResult where
  result : Verdict
  reason : Reason
  httpStatus : Option Nat := none
  responseBytes : Option Nat := none
  responseDigest : Option Digest := none
  deriving Repr, DecidableEq

/-- The verdict that goes with a reason. -/
def Reason.verdict (reason : Reason) : Verdict :=
  if reason = .httpObserved then .passed
  else if reason ∈ technicalFailures then .failed
  else .unknown

/-- `ProbeResult.__post_init__`. -/
def ProbeResult.postInit (result : ProbeResult) : Except Failure Unit := do
  require (result.result = result.reason.verdict) "result_reason_mismatch"
  match result.httpStatus with
  | some httpStatus =>
      require (100 ≤ httpStatus ∧ httpStatus ≤ 599) "status_invalid"
  | none => pure ()
  match result.responseBytes with
  | some responseBytes =>
      require (responseBytes ≤ 1025) "response_length_invalid"
  | none => pure ()

/-- `ExecutionTicket`. -/
structure ExecutionTicket where
  runUuid : Uuid
  executionUuid : Uuid
  enrollmentDigest : Digest
  policyDigest : Digest
  target : TargetIdentity
  deriving Repr, DecidableEq

/-- The documents that are digested. -/
inductive Digested where
  | policy (policy : PeerPolicy)
  | enrollment (enrollment : VerifiedEnrollment)
  | fingerprint (payload : RequestPayload) (enrollment : VerifiedEnrollment)
      (operatorId : String)
  | canonical (enrollment : Digest) (policy : Digest) (slot : Uuid)
      (checkRun : Option Int) (ordinaryExecution : Option Uuid)

end TicketSandbox.Shadow
