import TicketSandbox.Sandbox.Models

namespace TicketSandbox.Runtime

/-!
# Contracts of the trusted checker runtime

`trusted_checker_runtime/contracts.py` and `profiles.py`: what the operator
approves, what is created under an approval, and what adapters observe.  The
formats of the single texts are left out, and a task is always the one task.
-/

open Sandbox (Timestamp)

/-- A UUID. -/
abbrev Uuid := Nat

/-- A SHA-256 digest. -/
abbrev Digest := Nat

/-- `Resource`. -/
inductive Resource where
  | target
  | runner
  deriving Repr, DecidableEq

/-- `Phase`. -/
inductive Phase where
  | enroll
  | beforeCreate
  | beforeStart
  | beforeProbe
  | afterProbe
  | beforePublish
  deriving Repr, DecidableEq

/-- The value of a phase. -/
def Phase.value : Phase → String
  | .enroll => "enrollment"
  | .beforeCreate => "before_runner_create"
  | .beforeStart => "before_runner_start"
  | .beforeProbe => "before_probe"
  | .afterProbe => "after_probe"
  | .beforePublish => "before_publish"

/-- `authority_mode` of an approval. -/
inductive AuthorityMode where
  | liveRuntimeV2
  | offlineRuntimeContractOnly
  deriving Repr, DecidableEq

/-- `AttemptReference`. -/
structure AttemptReference where
  sandboxInstance : String
  attemptId : Nat
  ownerId : Nat
  deriving Repr, DecidableEq

/-- `DaemonIdentity`. -/
structure DaemonIdentity where
  daemonId : String
  endpointReference : String
  endpointConfigDigest : Digest
  sessionUuid : Uuid
  deriving Repr, DecidableEq

/-- `NetworkProfile`. -/
structure NetworkProfile where
  networkId : String
  networkName : String
  subnet : String
  targetIpv4 : String
  runnerIpv4 : String
  enforcementReference : String

/-- `RuntimeApproval`; the limits are always `LIMITS`. -/
structure RuntimeApproval where
  approvalUuid : Uuid
  operatorPrincipal : String
  scope : String
  daemon : DaemonIdentity
  targetImageId : String
  runnerImageId : String
  checkerSourceDigest : Digest
  network : NetworkProfile
  createdAt : Timestamp
  expiresAt : Timestamp
  policyId : String
  policyVersion : Nat
  policyDigest : Digest
  targetProfileDigest : Digest
  runnerProfileDigest : Digest
  schemaVersion : Nat
  authorityMode : AuthorityMode

/-- The microseconds of a second. -/
def second : Timestamp := 1000000

/-- `LIMITS.run_seconds`. -/
def runSeconds : Timestamp := 8 * second

/-- `LIMITS.api_seconds`. -/
def apiSeconds : Timestamp := 3 * second

/-- `ProvisionRequest`. -/
structure ProvisionRequest where
  requestUuid : Uuid
  approvalUuid : Uuid
  attempt : AttemptReference

/-- `CreateIntent`. -/
structure CreateIntent where
  intentUuid : Uuid
  resource : Resource
  approvalUuid : Uuid
  approvalDigest : Digest
  scope : String
  attempt : AttemptReference
  runtimeBindingUuid : Uuid
  generationUuid : Uuid
  daemon : DaemonIdentity
  imageId : String
  networkProfileDigest : Digest
  policyDigest : Digest
  profileDigest : Digest
  requestFingerprint : Digest
  createdAt : Timestamp
  deadline : Timestamp
  deriving Repr, DecidableEq

/-- `DispatchPermit`. -/
structure DispatchPermit where
  permitUuid : Uuid
  intentUuid : Uuid
  resource : Resource
  intentDigest : Digest
  controlEpoch : Nat
  deadline : Timestamp
  deriving Repr, DecidableEq

/-- The fields that `common` validates in every observation. -/
structure Common where
  receiptUuid : Uuid
  contextUuid : Uuid
  scope : String
  observedAt : Timestamp
  deriving Repr, DecidableEq

/-- `DaemonObservation`. -/
structure DaemonObservation where
  common : Common
  daemon : DaemonIdentity

/-- `CreateResponse`. -/
structure CreateResponse where
  common : Common
  daemon : DaemonIdentity
  permitUuid : Uuid
  resource : Resource
  intentDigest : Digest
  containerId : String
  imageId : String

/-- `Endpoint`. -/
structure Endpoint where
  containerId : String
  networkId : String
  endpointId : String
  ipv4 : String
  deriving Repr, DecidableEq

/-- `RuntimeConfig`. -/
structure RuntimeConfig where
  user : String
  readOnly : Bool
  privileged : Bool
  capDrop : List String
  capAdd : List String
  noNewPrivileges : Bool
  pidMode : String
  ipcMode : String
  hostMounts : Nat
  dockerSocket : Bool
  tmpfsDigest : Digest
  entrypointDigest : Digest
  cpuNanos : Nat
  memory : Nat
  pids : Nat
  networkMode : String
  logLimitBytes : Nat
  outputLimitBytes : Nat
  networkCount : Nat
  environmentDigest : Digest
  logFiles : Nat
  stdinOpen : Bool
  tty : Bool
  workingDir : String
  deriving Repr, DecidableEq

/-- A time as Docker writes it, with the instant that it denotes. -/
structure DockerTime where
  text : String
  timestamp : Timestamp
  deriving Repr, DecidableEq

/-- `TargetSnapshot`. -/
structure TargetSnapshot where
  attempt : AttemptReference
  runtimeBindingUuid : Uuid
  generationUuid : Uuid
  daemon : DaemonIdentity
  containerId : String
  imageId : String
  startedAt : DockerTime
  restartCount : Nat
  running : Bool
  paused : Bool
  restarting : Bool
  dead : Bool
  endpoints : List Endpoint
  config : RuntimeConfig
  policyDigest : Digest
  deriving Repr, DecidableEq

/-- `IdentityObservation`. -/
structure IdentityObservation where
  common : Common
  phase : Phase
  target : TargetSnapshot

/-- `NetworkEvidence`. -/
structure NetworkEvidence where
  common : Common
  phase : Phase
  daemon : DaemonIdentity
  networkProfileDigest : Digest
  internal : Bool
  driver : String
  endpoints : List Endpoint

/-- `EgressEvidence`. -/
structure EgressEvidence where
  common : Common
  phase : Phase
  targetDigest : Digest
  runnerId : Option String
  daemon : DaemonIdentity
  networkProfileDigest : Digest
  enforcementReference : String
  rulesDigest : Digest
  defaultDeny : Bool
  onlyTarget8080 : Bool
  deniesHostMetadataPlatform : Bool
  antiSpoofing : Bool

/-- `EgressValidation`. -/
structure EgressValidation where
  common : Common
  phase : Phase
  enforcementReceiptDigest : Digest
  matrixDigest : Digest
  passedCases : List String

/-- The state of a runner container. -/
inductive RunnerState where
  | created
  | running
  | exited
  deriving Repr, DecidableEq

/-- `RunnerObservation`. -/
structure RunnerObservation where
  common : Common
  daemon : DaemonIdentity
  containerId : String
  imageId : String
  config : RuntimeConfig
  state : RunnerState
  startedAt : Option DockerTime
  restartCount : Nat
  endpoint : Option Endpoint
  paused : Bool
  restarting : Bool
  dead : Bool
  exitCode : Option Nat

/-- How the exchange of a probe ended. -/
inductive Transport where
  | none
  | timeout
  | uncertain
  | refused
  deriving Repr, DecidableEq

/-- `ProbeResponse`. -/
structure ProbeResponse where
  common : Common
  runnerId : String
  runnerImageId : String
  checkerSourceDigest : Digest
  targetDigest : Digest
  policyDigest : Digest
  status : Nat
  body : List UInt8
  complete : Bool
  transport : Transport
  deriving Repr, DecidableEq

/-- `CleanupConfirmation`. -/
structure CleanupConfirmation where
  common : Common
  resource : Resource
  daemon : DaemonIdentity
  containerId : String
  ownershipDigest : Digest
  outcome : String

/-- `verification_mode` of an enrollment. -/
inductive VerificationMode where
  | liveRuntimeChainV2
  | offlineRuntimeChainV1
  deriving Repr, DecidableEq

/-- `RuntimeEnrollment`. -/
structure RuntimeEnrollment where
  enrollmentUuid : Uuid
  provisioningUuid : Uuid
  approvalUuid : Uuid
  approvalDigest : Digest
  scope : String
  target : TargetSnapshot
  creationReceiptUuid : Uuid
  creationReceiptDigest : Digest
  policyDigest : Digest
  verificationMode : VerificationMode
  deriving Repr, DecidableEq

/-- The part of `OrdinaryMetadata` that the authority reads. -/
structure OrdinaryMetadata where
  executionUuid : Option Uuid

/-- `RunRequest`. -/
structure RunRequest where
  requestUuid : Uuid
  enrollmentUuid : Uuid
  attempt : AttemptReference
  sampleSlot : Uuid
  ordinary : Option OrdinaryMetadata

/-- `StartPermit`. -/
structure StartPermit where
  permitUuid : Uuid
  runUuid : Uuid
  enrollmentDigest : Digest
  runnerId : String
  controlEpoch : Nat
  deadline : Timestamp
  deriving Repr, DecidableEq

/-- `EGRESS_CASES`. -/
def egressCases : List String :=
  ["allow_target_8080", "deny_other_target_ports", "deny_other_ipv4",
    "deny_host", "deny_metadata", "deny_db_redis_django", "deny_dns",
    "deny_ipv6", "deny_spoofing"]

/-- `LIVE_PREFLIGHT_CASES`. -/
def livePreflightCases : List String :=
  ["bootstrap_default_deny", "rules_readback_verified", "topology_bound"]

end TicketSandbox.Runtime
