import TicketSandbox.Firewall.Rules
import TicketSandbox.Library.Documents
import TicketSandbox.Library.Rows

namespace TicketSandbox.Firewall

/-!
# The network journal

`trusted_checker_network/store.py` and the transactions of `installer.py`: the
tables of `NetworkStore`, the triggers that guard them, and what each
transaction writes.  A transaction that raises is rolled back.
-/

open Raises
open TicketSandbox.Runtime (Digest RuntimeApproval Uuid)
open TicketSandbox.Sandbox (Timestamp)

/-! ## Documents -/

/-- `NetworkApproval`; the policy and the mode are constant. -/
structure NetworkApproval where
  approvalUuid : Uuid
  operator : String
  binding : NetworkBinding
  bootstrapDigest : Digest
  activeDigest : Digest
  createdAt : Timestamp
  expiresAt : Timestamp
  deriving Repr, DecidableEq

/-- The scope of an approval is the one of its binding. -/
def NetworkApproval.scope (approval : NetworkApproval) : String :=
  approval.binding.scope

/-- What an installation does. -/
inductive Operation where
  | bootstrap
  | active
  | rollback
  deriving Repr, DecidableEq

/-- The families and names of tables. -/
abbrev Tables := List (Family × TableName)

/-- `ApplyAck`. -/
structure ApplyAck where
  contextUuid : Uuid
  scope : String
  bindingDigest : Digest
  ownerUuid : Uuid
  rulesDigest : Digest
  generation : Nat
  observedAt : Timestamp
  tables : Tables
  deriving Repr, DecidableEq

/-- `Readback`. -/
structure Readback where
  contextUuid : Uuid
  scope : String
  bindingDigest : Digest
  ownerUuid : Uuid
  generation : Nat
  rulesDigest : Digest
  tables : Tables
  observedAt : Timestamp

/-- `InstallReceipt`. -/
structure InstallReceipt where
  receiptUuid : Uuid
  contextUuid : Uuid
  scope : String
  bindingDigest : Digest
  operation : Operation
  transactionUuid : Uuid
  rulesDigest : Digest
  generation : Nat
  observedAt : Timestamp
  deriving Repr, DecidableEq

/-- The document `intent`. -/
structure Intent where
  approval : Uuid
  rules : Digest
  expectedGeneration : Nat
  deadline : Timestamp
  operation : Operation

/-- What a digest is taken of. -/
inductive Digested where
  | runtime (approval : RuntimeApproval)
  | approval (approval : NetworkApproval)
  | binding (binding : NetworkBinding)
  | rules (commands : List Command)
  | ack (ack : ApplyAck)
  | readback (readback : Readback)
  | receipt (receipt : InstallReceipt)
  | intent (intent : Intent)
  | request (approval : NetworkApproval) (operation : Operation)
      (rules : List Command) (deadline : Timestamp)

/-! ## Tables -/

/-- The status of a job. -/
inductive JobStatus where
  | dispatched
  | verified
  | quarantined
  deriving Repr, DecidableEq

/-- The reason of a job. -/
inductive JobReason where
  | none
  | installOutcomeUnknown
  | recoveredOwnership

/-- A row of `jobs`. -/
structure Job where
  id : Uuid
  approval : Uuid
  operation : Operation
  payloadHash : Digest
  status : JobStatus
  reason : JobReason
  receipt : Option InstallReceipt

/-- The stage of an approval. -/
inductive Stage where
  | new
  | bootstrap
  | active
  | quarantined
  deriving Repr, DecidableEq

/-- A row of `network_state`. -/
structure NetworkState where
  approval : Uuid
  stage : Stage
  generation : Nat
  blocked : Bool
  deriving Repr, DecidableEq

/-- The codes of events that an installation writes. -/
inductive EventCode where
  | dispatched
  | owned
  | verified
  | quarantined
  | recoveredOwnership
  deriving Repr, DecidableEq

/-- The tables of the store, and the digest that it computes. -/
structure NetworkStore where
  digest : Digested → Digest
  approvals : Documents.Table Uuid NetworkApproval := []
  bootstraps : Documents.Table Uuid (List Command) := []
  actives : Documents.Table Uuid (List Command) := []
  intents : Documents.Table Uuid Intent := []
  ownerships : Documents.Table Uuid ApplyAck := []
  readbacks : Documents.Table Uuid Readback := []
  receipts : Documents.Table Uuid InstallReceipt := []
  jobs : List Job := []
  states : List NetworkState := []
  events : List (Uuid × EventCode) := []

/-- `rules_hash`. -/
def NetworkStore.rulesHash
    (db : NetworkStore) (rules : List Command) : Digest :=
  db.digest (.rules rules)

/-- `exact_tables`. -/
def exactTables (rules : List Command) : Tables :=
  rules.filterMap fun command =>
    match command with
    | .table family name => some (family, name)
    | _ => none

/-- The two tables of an approval. -/
def ownTables (approvalUuid : Uuid) : Tables :=
  [(.bridge, .tc3 approvalUuid), (.inet, .tc3 approvalUuid)]

/-- The triggers on an update of `jobs`. -/
def Job.mayBecome (old new : Job) : Prop :=
  new.id = old.id ∧ new.approval = old.approval ∧
    new.operation = old.operation ∧ new.payloadHash = old.payloadHash ∧
    (old.receipt ≠ none → new.receipt = old.receipt ∧ new.status = old.status)
  deriving Decidable

namespace NetworkStore

/-- `put`, into the table of the document's kind. -/
def put {α : Type} (db : NetworkStore) (digested : α → Digested)
    (table : Documents.Table Uuid α) (key : Uuid)
    (document : α) : Except Denied (Documents.Table Uuid α) :=
  required ⟨"network_document_conflict"⟩
    (Documents.put? (fun other => db.digest (digested other)) table key
      document)

/-- `get`, from the table of the document's kind. -/
def get {α : Type} (table : Documents.Table Uuid α)
    (key : Uuid) : Except Denied α :=
  required ⟨"network_document_missing"⟩ (Documents.get? table key)

variable (db : NetworkStore)

/-- `event`: a code is kept once for each job. -/
def event (job : Uuid) (code : EventCode) : NetworkStore :=
  if (job, code) ∈ db.events then
    db
  else
    { db with events := db.events ++ [(job, code)] }

/-- `UPDATE jobs SET … WHERE id=?`, under the triggers. -/
def updateJob (id : Uuid) (change : Job → Job) : Except Denied NetworkStore :=
  if ∀ job ∈ db.jobs, job.id = id → job.mayBecome (change job) then
    .ok { db with jobs := Rows.modify Job.id id change db.jobs }
  else
    .error ⟨"immutable_network_job"⟩

/-- `UPDATE network_state SET … WHERE approval=?`. -/
def updateState (approvalUuid : Uuid)
    (change : NetworkState → NetworkState) : NetworkStore :=
  { db with
    states := Rows.modify NetworkState.approval approvalUuid change db.states }

/-- The job under an identifier. -/
def job? (id : Uuid) : Option Job :=
  db.jobs.find? fun job => job.id = id

/-- The row of `network_state` of an approval. -/
def state? (approvalUuid : Uuid) : Option NetworkState :=
  db.states.find? fun state => state.approval = approvalUuid

/-- Some job has no confirmed outcome. -/
def hasOpenJob : Bool :=
  db.jobs.any fun job => job.status = .dispatched || job.status = .quarantined

variable (approval : NetworkApproval)

/-- `_approved`. -/
def approved : Except Denied Unit := do
  let stored ← get db.approvals approval.approvalUuid
  require (approval = stored) "network_approval_not_issued"

/-- The transaction of `register`. -/
def register
    (bootstrap active : List Command) : Except Denied NetworkStore := do
  let id := approval.approvalUuid
  let approvals ← db.put .approval db.approvals id approval
  let bootstraps ← db.put .rules db.bootstraps id bootstrap
  let actives ← db.put .rules db.actives id active
  pure
    { db with
      approvals := approvals
      bootstraps := bootstraps
      actives := actives
      states :=
        if (db.state? id).isSome then
          db.states
        else
          db.states ++
            [{ approval := id
               stage := .new
               generation := 0
               blocked := false }] }

/-- The rules that an operation applies. -/
def rulesFor (approvalUuid : Uuid)
    (operation : Operation) : Except Denied (List Command) :=
  match operation with
  | .active => get db.actives approvalUuid
  | .bootstrap => get db.bootstraps approvalUuid
  | .rollback => get db.bootstraps approvalUuid

/-- What an operation requires of the state of its approval. -/
def admits (state : NetworkState) : Operation → Except Denied Unit
  | .rollback => require (0 < state.generation) "rollback_ownership_unproven"
  | .bootstrap => do
      require (state.blocked = false ∧ db.hasOpenJob = false)
        "network_circuit_open"
      require (state.stage = .new) "invalid_install_transition"
  | .active => do
      require (state.blocked = false ∧ db.hasOpenJob = false)
        "network_circuit_open"
      require (state.stage = .bootstrap) "invalid_install_transition"

/-- How `install` answers a request: as before, or with a new job. -/
inductive Answer where
  | replay (status : JobStatus) (receipt : Option InstallReceipt)
  | fresh (rules : List Command) (expectedGeneration : Nat)

/-- The row that `install` inserts for a new job. -/
def dispatchedJob
    (operation : Operation) (request : Uuid) (payloadHash : Digest) : Job where
  id := request
  approval := approval.approvalUuid
  operation := operation
  payloadHash := payloadHash
  status := .dispatched
  reason := .none
  receipt := none

/-- The first transaction of `install`, given what `_guard` says. -/
def dispatch (operation : Operation) (request : Uuid) (deadline : Timestamp)
    (guard : Except Denied Unit) : Except Denied (NetworkStore × Answer) := do
  db.approved approval
  let rules ← db.rulesFor approval.approvalUuid operation
  let fingerprint := db.digest (.request approval operation rules deadline)
  match db.job? request with
  | some old => do
      require (old.payloadHash = fingerprint) "install_request_conflict"
      return (db, .replay old.status old.receipt)
  | none => do
      let state ← required ⟨"network_state_missing"⟩
        (db.state? approval.approvalUuid)
      db.admits state operation
      guard
      let job := dispatchedJob approval operation request fingerprint
      let intents ← db.put .intent db.intents request
        { approval := approval.approvalUuid
          rules := db.rulesHash rules
          expectedGeneration := state.generation
          deadline := deadline
          operation := operation }
      let inserted := { db with jobs := db.jobs ++ [job], intents := intents }
      pure (inserted.event request .dispatched, .fresh rules state.generation)

/-- The transaction that records the ownership of what was applied. -/
def own (approvalUuid request : Uuid)
    (ack : ApplyAck) : Except Denied NetworkStore := do
  let ownerships ← db.put .ack db.ownerships request ack
  let owned := { db with ownerships := ownerships }.updateState approvalUuid
      fun state => { state with generation := ack.generation }
  pure (owned.event request .owned)

/-- The stage that a verified operation leads to. -/
def verifiedStage : Operation → Stage
  | .active => .active
  | .bootstrap => .bootstrap
  | .rollback => .bootstrap

/-- The last transaction of `install`. -/
def finish
    (approvalUuid request : Uuid) (operation : Operation) (readback : Readback)
    (receipt : InstallReceipt) : Except Denied NetworkStore := do
  let readbacks ← db.put .readback db.readbacks request readback
  let receipts ← db.put .receipt db.receipts request receipt
  let verified ←
    { db with readbacks := readbacks, receipts := receipts }.updateJob
      request fun job =>
        { job with status := .verified, receipt := some receipt }
  let staged := verified.updateState approvalUuid fun state =>
      { state with stage := verifiedStage operation }
  pure (staged.event request .verified)

/-- The row of a job whose outcome is unknown. -/
def quarantinedJob (job : Job) : Job :=
  if job.receipt = none then
    { job with status := .quarantined, reason := .installOutcomeUnknown }
  else
    job

/-- `_quarantine`. -/
def quarantine (approvalUuid request : Uuid) : Except Denied NetworkStore := do
  let marked ← db.updateJob request quarantinedJob
  let blocked := marked.updateState approvalUuid fun state =>
      { state with stage := .quarantined, blocked := true }
  pure (blocked.event request .quarantined)

/-- The transaction of `recover`. -/
def recover (failedJob : Uuid)
    (ack : ApplyAck) (now : Timestamp) : Except Denied NetworkStore := do
  let id := approval.approvalUuid
  db.approved approval
  let row ← required ⟨"recovery_install_missing"⟩ (db.job? failedJob)
  require
    ((row.status = .dispatched ∨ row.status = .quarantined) ∧ row.approval = id)
    "recovery_install_missing"
  let intent ← get db.intents failedJob
  require (ack.contextUuid = failedJob ∧ ack.ownerUuid = id ∧
      ack.bindingDigest = db.digest (.binding approval.binding) ∧
      ack.rulesDigest = intent.rules ∧
      ack.generation = intent.expectedGeneration + 1)
    "recovery_apply_trace_mismatch"
  let expected ← db.rulesFor id intent.operation
  require (ack.tables = exactTables expected ∧
      approval.createdAt ≤ ack.observedAt ∧ ack.observedAt ≤ now)
    "recovery_apply_trace_invalid"
  let ownerships ← db.put .ack db.ownerships failedJob ack
  let marked ←
    { db with ownerships := ownerships }.updateJob failedJob fun job =>
      { job with status := .quarantined, reason := .recoveredOwnership }
  let restored := marked.updateState id fun state =>
      { state with
        stage := .quarantined
        generation := ack.generation
        blocked := true }
  pure (restored.event failedJob .recoveredOwnership)

end NetworkStore

end TicketSandbox.Firewall
