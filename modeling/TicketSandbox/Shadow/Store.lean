import TicketSandbox.Library.Rows
import TicketSandbox.Shadow.Contracts

namespace TicketSandbox.Shadow

/-!
# The shadow store

`trusted_checker_shadow/state.py`: the tables of `ShadowStore`, the triggers
that guard them, and its transactions.  A transaction takes the store it began
on and what it read from the clock; one that raises is rolled back.
-/

open Raises (required)
open Sandbox (Timestamp)

/-- The lifecycle of a run. -/
inductive Lifecycle where
  | reserved
  | issuing
  | issued
  | running
  | terminal
  deriving Repr, DecidableEq

/-- The cleanup of a run. -/
inductive Cleanup where
  | notRequired
  | pending
  | confirmed
  | quarantined
  deriving Repr, DecidableEq

/-- A row of `shadow_runs`. -/
structure ShadowRun where
  id : Uuid
  canonicalKey : Digest
  fingerprint : Digest
  operatorId : String
  enrollment : VerifiedEnrollment
  request : RequestPayload
  policy : PeerPolicy
  executionId : Uuid
  epoch : Nat
  lifecycle : Lifecycle
  createdAt : Timestamp
  startedAt : Option Timestamp := none
  finishedAt : Option Timestamp := none
  observedFrom : Option Timestamp := none
  observedUntil : Option Timestamp := none
  observedBefore : Option RuntimeObservation := none
  observedAfter : Option RuntimeObservation := none
  deadline : Timestamp
  result : Option ProbeResult := none
  cleanup : Cleanup
  unresolved : Bool

/-- A row of `shadow_requests`. -/
structure ShadowRequest where
  operatorId : String
  requestId : Uuid
  fingerprint : Digest
  runId : Uuid

/-- `EVENTS`. -/
inductive AuditCode where
  | reserved
  | issueRequested
  | issueDispatched
  | issued
  | issueUnknown
  | startRequested
  | terminal
  | cleanupConfirmed
  | cleanupUnresolved
  | expired
  | killed
  deriving Repr, DecidableEq

/-- A row of `shadow_audit`; its sequence number is its place. -/
structure AuditRow where
  runId : Uuid
  code : AuditCode
  occurredAt : Timestamp

/-- A row of `shadow_control_audit`. -/
structure ControlAuditRow where
  operatorId : String
  enabled : Bool
  epoch : Nat
  occurredAt : Timestamp

/-- The row of `shadow_control`. -/
structure Control where
  enabled : Bool := false
  epoch : Nat := 0

/-- The tables of the store, and the digest that it computes. -/
structure Store where
  digest : Digested → Digest
  control : Control := {}
  runs : List ShadowRun := []
  requests : List ShadowRequest := []
  audit : List AuditRow := []
  controlAudit : List ControlAuditRow := []

/-- The triggers on an update of `shadow_runs`. -/
def ShadowRun.mayBecome (old new : ShadowRun) : Bool :=
  (new.id == old.id && new.canonicalKey == old.canonicalKey &&
    new.fingerprint == old.fingerprint &&
    new.operatorId == old.operatorId && new.enrollment == old.enrollment &&
    new.request == old.request && new.policy == old.policy &&
    new.executionId == old.executionId && new.epoch == old.epoch &&
    new.deadline == old.deadline && new.createdAt == old.createdAt) &&
  (old.lifecycle != .terminal ||
    (new.result == old.result && new.lifecycle == old.lifecycle &&
      new.finishedAt == old.finishedAt && new.startedAt == old.startedAt &&
      new.observedFrom == old.observedFrom &&
      new.observedUntil == old.observedUntil &&
      new.observedBefore == old.observedBefore &&
      new.observedAfter == old.observedAfter))

/-- The run keeps the circuit open. -/
def ShadowRun.opensCircuit (row : ShadowRun) : Bool :=
  row.unresolved || (row.lifecycle == .terminal &&
      (row.cleanup == .pending || row.cleanup == .quarantined))

namespace Store

variable (db : Store)

/-- `UPDATE shadow_runs SET … WHERE id=?`, under the triggers. -/
def update
    (runId : Uuid) (change : ShadowRun → ShadowRun) : Except Failure Store :=
  if ∀ row ∈ db.runs, row.id = runId → row.mayBecome (change row) = true then
    .ok { db with runs := Rows.modify ShadowRun.id runId change db.runs }
  else
    .error .integrityError

/-- The audit has the code for the run. -/
def isAudited (runId : Uuid) (code : AuditCode) : Bool :=
  db.audit.any fun row => row.runId = runId && row.code = code

/-- `_audit`: a code is kept once for each run. -/
def recordAudit (runId : Uuid) (code : AuditCode) (now : Timestamp) : Store :=
  if db.isAudited runId code then
    db
  else
    { db with
      audit :=
        db.audit ++ [{ runId := runId, code := code, occurredAt := now }] }

/-- `set_enabled`. -/
def setEnabled (enabled : Bool) (operatorId : String)
    (now : Timestamp) : Except Failure Store := do
  instant now
  let epoch := db.control.epoch + 1
  pure
    { db with
      control := { enabled := enabled, epoch := epoch }
      controlAudit :=
        db.controlAudit ++
          [{ operatorId := operatorId
             enabled := enabled
             epoch := epoch
             occurredAt := now }] }

/-- The fingerprint of a request. -/
def fingerprint
    (db : Store) (request : OperatorRequest) (enrollment : VerifiedEnrollment)
    (operatorId : String) : Digest :=
  db.digest (.fingerprint request.payload enrollment operatorId)

variable (request : OperatorRequest) (enrollment : VerifiedEnrollment)

/-- The canonical key of a request. -/
def canonicalKey : Digest :=
  db.digest (.canonical (db.digest (.enrollment enrollment))
      (db.digest (.policy policy)) request.payload.sampleSlot
      (request.payload.ordinary.bind OrdinaryEvidence.checkRunId)
      (request.payload.ordinary.bind OrdinaryEvidence.technicalExecutionUuid))

variable (operatorId : String)

/-- The request that the operator made under the identifier before. -/
def alias? (requestId : Uuid) : Option ShadowRequest :=
  db.requests.find? fun row =>
    row.operatorId = operatorId && row.requestId = requestId

/-- The run under a canonical key. -/
def canonical? (canonicalKey : Digest) : Option ShadowRun :=
  db.runs.find? fun row => row.canonicalKey = canonicalKey

/-- `INSERT INTO shadow_runs`, under the unique columns. -/
def insertRun (row : ShadowRun) : Except Failure Store :=
  if ∀ other ∈ db.runs,
      other.id ≠ row.id ∧ other.canonicalKey ≠ row.canonicalKey ∧
        other.executionId ≠ row.executionId then
    .ok { db with runs := db.runs ++ [row] }
  else
    .error .integrityError

/-- The row that `reserve` inserts for a new run. -/
def reservedRun (now : Timestamp) (runId executionId : Uuid) : ShadowRun where
  id := runId
  canonicalKey := db.canonicalKey request enrollment
  fingerprint := db.fingerprint request enrollment operatorId
  operatorId := operatorId
  enrollment := enrollment
  request := request.payload
  policy := policy
  executionId := executionId
  epoch := db.control.epoch
  lifecycle := .reserved
  createdAt := now
  deadline := request.payload.deadline
  cleanup := .notRequired
  unresolved := false

/-- The checks of `reserve` on a request for a new run. -/
def admitRun (now : Timestamp) (maxParallel : Nat) : Except Failure Unit := do
  require (db.control.enabled = true) "feature_disabled"
  require (now < request.payload.deadline ∧
      request.payload.deadline ≤ now + policy.runTimeoutSeconds * second)
    "deadline_invalid"
  require (db.runs.any ShadowRun.opensCircuit = false) "circuit_open"
  let active := db.runs.filter fun row => row.lifecycle != .terminal
  require (active.length < maxParallel) "capacity_exhausted"
  require (∀ row ∈ active, row.enrollment.target.runtimeBindingUuid ≠
        enrollment.target.runtimeBindingUuid)
    "target_busy"

/-- The run of `reserve`: the one under the canonical key, or a new one. -/
def runFor (now : Timestamp) (maxParallel : Nat) (newRun newExecution : Uuid) :
    Except Failure (Store × Uuid × Bool) :=
  match db.canonical? (db.canonicalKey request enrollment) with
  | some old => do
      require (old.fingerprint = db.fingerprint request enrollment operatorId)
        "canonical_payload_conflict"
      return (db, old.id, false)
  | none => do
      db.admitRun request enrollment now maxParallel
      let inserted ← db.insertRun
          (db.reservedRun request enrollment operatorId now newRun newExecution)
      return (inserted.recordAudit newRun .reserved now, newRun, true)

/-- The request as `reserve` keeps it. -/
def recordRequest
    (requestId : Uuid) (fingerprint : Digest) (runId : Uuid) : Store :=
  { db with
    requests :=
      db.requests ++
        [{ operatorId := operatorId
           requestId := requestId
           fingerprint := fingerprint
           runId := runId }] }

/-- `reserve`, given the UUIDs of a new run. -/
def reserve (now : Timestamp) (maxParallel : Nat) (newRun newExecution : Uuid) :
    Except Failure (Store × Uuid × Bool) := do
  request.payload.postInit (db.digest (.policy policy))
  let fingerprint := db.fingerprint request enrollment operatorId
  match db.alias? operatorId request.requestUuid with
  | some known => do
      require (known.fingerprint = fingerprint) "request_payload_conflict"
      return (db, known.runId, false)
  | none => do
      let (reserved, runId, created) ←
        db.runFor request enrollment operatorId now maxParallel newRun
          newExecution
      pure (reserved.recordRequest operatorId request.requestUuid fingerprint
            runId,
          runId, created)

/-- `_row`. -/
def row (db : Store) (runId : Uuid)
    (operatorId : String) : Except Failure ShadowRun :=
  required (.rejected "run_not_authorized")
    (db.runs.find? fun row => row.id = runId && row.operatorId = operatorId)

/-- `_ticket`. -/
def ticket (row : ShadowRun) : Except Failure ExecutionTicket := do
  require (db.digest (.policy row.policy) = row.enrollment.policyDigest)
    "policy_snapshot_mismatch"
  pure
    { runUuid := row.id
      executionUuid := row.executionId
      enrollmentDigest := db.digest (.enrollment row.enrollment)
      policyDigest := row.enrollment.policyDigest
      target := row.enrollment.target }

variable (ticket : ExecutionTicket)

/-- `_matched`. -/
def matched : Except Failure ShadowRun := do
  let row ← required (.rejected "execution_receipt_mismatch")
      (db.runs.find? fun row => row.id = ticket.runUuid)
  let expected ← db.ticket row
  require (expected = ticket) "execution_receipt_mismatch"
  return row

/-- `_terminal`. -/
def terminal
    (db : Store) (row : ShadowRun) (result : ProbeResult) (now : Timestamp)
    (event : AuditCode) : Except Failure (Store × Bool) :=
  if row.lifecycle = .terminal then
    return (db, false)
  else do
    result.postInit
    let closed ← db.update row.id fun run =>
        { run with
          lifecycle := .terminal
          result := some result
          finishedAt := some now }
    return (closed.recordAudit row.id event now, true)

/-- Why `_gate` closes a run. -/
def gateReason? (row : ShadowRun) (now : Timestamp) : Option Reason :=
  if row.deadline ≤ now then
    some .deadline
  else if db.control.enabled = false ∨ db.control.epoch ≠ row.epoch then
    some .killed
  else
    none

/-- `_gate`. -/
def gate (row : ShadowRun) (now : Timestamp) : Except Failure (Store × Bool) :=
  if row.lifecycle = .terminal then
    return (db, false)
  else
    match db.gateReason? row now with
    | none => return (db, true)
    | some reason => do
        let (closed, _) ←
          db.terminal row { result := .unknown, reason := reason } now
            (if reason = .deadline then .expired else .killed)
        return (closed, false)

/-- `claim_issue`. -/
def claimIssue (runId : Uuid) (operatorId : String)
    (now : Timestamp) : Except Failure (Store × Option ExecutionTicket) := do
  let row ← db.row runId operatorId
  let (gated, passes) ← db.gate row now
  if passes = false ∨ row.lifecycle ≠ .reserved then
    return (gated, none)
  else do
    let claimed ← gated.update runId fun run =>
        { run with
          lifecycle := .issuing
          cleanup := .quarantined
          unresolved := true }
    let ticket ← claimed.ticket row
    return (claimed.recordAudit runId .issueRequested now, some ticket)

variable (now : Timestamp)

/-- The first transaction of `dispatch_issue`; `false` ends the call. -/
def intendIssue : Except Failure (Store × Bool) := do
  let row ← db.matched ticket
  if row.lifecycle ≠ .issuing ∨ db.isAudited row.id .issueDispatched = true then
    return (db, false)
  else
    return (db.recordAudit row.id .issueDispatched now, true)

/-- Nothing is left to be resolved or cleaned up. -/
def settle (runId : Uuid) : Except Failure Store :=
  db.update runId fun run =>
    { run with cleanup := .notRequired, unresolved := false }

/--
The second transaction of `dispatch_issue`, up to `backend.issue`; without a
row the backend is not called.
-/
def enterIssue : Except Failure (Store × Option ShadowRun) := do
  let row ← db.matched ticket
  if row.lifecycle ≠ .issuing then
    return (db, none)
  else do
    let (gated, passes) ← db.gate row now
    if passes = false then do
      let settled ← gated.settle row.id
      return (settled, none)
    else
      return (gated, some row)

/--
The second transaction of `dispatch_issue`, after `backend.issue` answered
with the receipt of the ticket or did not.
-/
def leaveIssue (row : ShadowRun) (acknowledged : Bool)
    (now later : Timestamp) : Except Failure (Store × Bool) := do
  if acknowledged = false then do
    let (closed, _) ←
      db.terminal row { result := .unknown, reason := .issue } now .issueUnknown
    return (closed, false)
  else do
    let settled ← db.settle row.id
    let (gated, passes) ← settled.gate row now
    if passes = false then
      return (gated, false)
    else do
      let issued ←
        gated.update row.id fun run => { run with lifecycle := .issued }
      return (issued.recordAudit row.id .issued later, true)

/-- The first transaction of `start`; `false` ends the call. -/
def intendStart : Except Failure (Store × Bool) := do
  let row ← db.matched ticket
  let (gated, passes) ← db.gate row now
  if passes = false ∨ row.lifecycle ≠ .issued then
    return (gated, false)
  else do
    let started ← gated.update row.id fun run =>
        { run with
          lifecycle := .running
          startedAt := some now
          observedFrom := some now
          cleanup := .pending
          unresolved := true }
    return (started.recordAudit row.id .startRequested now, true)

/--
The second transaction of `start`, up to `backend.start`; without a row the
backend is not called.
-/
def enterStart : Except Failure (Store × Option ShadowRun) := do
  let row ← db.matched ticket
  let (gated, passes) ← db.gate row now
  if passes = false then do
    let settled ← gated.settle row.id
    return (settled, none)
  else
    return (gated, some row)

/--
The second transaction of `start`, after `backend.start` returned or raised.
-/
def leaveStart (row : ShadowRun) (returned : Bool)
    (now : Timestamp) : Except Failure (Store × Bool) := do
  if returned = true then
    return (db, true)
  else do
    let current ←
      required .integrityError (db.runs.find? fun run => run.id = row.id)
    let (closed, _) ←
      db.terminal current { result := .unknown, reason := .infrastructure }
        now .terminal
    let quarantined ←
      closed.update row.id fun run => { run with cleanup := .quarantined }
    return (quarantined, false)

/-- `finish`. -/
def finish (result : ProbeResult) (now : Timestamp)
    (before after : Option RuntimeObservation) :
    Except Failure (Store × Bool) := do
  let row ← db.matched ticket
  if row.lifecycle = .terminal then
    return (db, false)
  else do
    require (row.lifecycle = .running) "execution_phase_invalid"
    let observed ← db.update row.id fun run =>
        { run with
          observedUntil := some now
          observedBefore := before
          observedAfter := after }
    let (gated, passes) ← observed.gate row now
    if passes = false then
      return (gated, false)
    else
      gated.terminal row result now .terminal

/-- `confirm_cleanup`. -/
def confirmCleanup : Except Failure Store := do
  let row ← db.matched ticket
  require (row.lifecycle = .terminal ∧ row.startedAt ≠ none)
    "cleanup_phase_invalid"
  let confirmed ← db.update row.id fun run =>
      { run with cleanup := .confirmed, unresolved := false }
  return confirmed.recordAudit row.id .cleanupConfirmed now

/-- `expire`. -/
def expire (runId : Uuid) (operatorId : String)
    (now : Timestamp) : Except Failure Store := do
  let row ← db.row runId operatorId
  let (gated, _) ← db.gate row now
  return gated

end Store

end TicketSandbox.Shadow
