import TicketSandbox.Firewall.Installer
import TicketSandbox.Library.Upserts

namespace TicketSandbox.Firewall

/-!
# What the transactions of an installation leave

Each transaction that returned, with the tables it leaves; the rules that
`register` admits; and when each part of an installation returns.
-/

open Raises
open TicketSandbox.Runtime (Digest RuntimeApproval Uuid)
open TicketSandbox.Sandbox (Timestamp)

/-! ## Approved rules -/

variable {approvalUuid : Uuid}

theorem approvedRules_tables {runtime : RuntimeApproval}
    {binding : NetworkBinding} {active : Bool} {rules : List Command}
    (approved : approvedRules approvalUuid runtime binding active = .ok rules) :
    exactTables rules = ownTables approvalUuid ∧
      rules.length = if active then 25 else 13 := by
  simp only [approvedRules, bind_ok, pure_ok] at approved
  obtain ⟨_, _, commands, compiled, rendered⟩ := approved
  subst rendered
  cases active with
  | false =>
      simp only [NetworkBinding.ports, Bool.false_eq_true, ↓reduceIte,
        compileRules, pure_ok] at compiled
      subst compiled
      exact ⟨rfl, rfl⟩
  | true =>
      simp only [NetworkBinding.ports, ↓reduceIte, compileRules,
        bind_ok, pure_ok] at compiled
      obtain ⟨_, _, _, _, _, _, _, _, _, _, compiled⟩ := compiled
      subst compiled
      exact ⟨rfl, rfl⟩

namespace NetworkStore

/-! ## Reading and writing -/

variable {key request : Uuid} {db next : NetworkStore}
  {guard : Except Denied Unit} {ack : ApplyAck}

theorem get_ok {α : Type} {table : Documents.Table Uuid α} {document : α} :
    get table key = .ok document ↔ Documents.get? table key = some document :=
  required_ok

theorem put_ok {α : Type} {digested : α → Digested}
    {table next : Documents.Table Uuid α} {document : α} :
    db.put digested table key document = .ok next ↔
      Documents.put? (fun other => db.digest (digested other)) table key
        document = some next :=
  required_ok

theorem event_eq (db : NetworkStore) (job : Uuid) (code : EventCode) :
    ∃ events, db.event job code = { db with events := events } := by
  unfold event
  split
  · exact ⟨db.events, rfl⟩
  · exact ⟨_, rfl⟩

theorem updateJob_ok {id : Uuid} {change : Job → Job}
    (updated : db.updateJob id change = .ok next) :
    (∀ job ∈ db.jobs, job.id = id → job.mayBecome (change job)) ∧
      next = { db with jobs := Rows.modify Job.id id change db.jobs } := by
  unfold updateJob at updated
  split at updated
  · rename_i admitted
    cases updated
    exact ⟨admitted, rfl⟩
  · cases updated

variable {approval : NetworkApproval}

theorem approved_ok {result : Unit} :
    db.approved approval = .ok result ↔
      Documents.get? db.approvals approval.approvalUuid = some approval := by
  simp only [approved, bind_ok, get_ok, require_ok]
  constructor
  · rintro ⟨stored, found, same⟩
    rw [found, same]
  · intro found
    exact ⟨approval, found, rfl⟩

/-! ## Transactions -/

theorem register_ok {bootstrap active : List Command}
    (registered : db.register approval bootstrap active = .ok next) :
    ∃ approvals bootstraps actives states,
      Documents.put? (fun other => db.digest (.approval other)) db.approvals
          approval.approvalUuid approval = some approvals ∧
        Documents.put? (fun other => db.digest (.rules other)) db.bootstraps
          approval.approvalUuid bootstrap = some bootstraps ∧
        Documents.put? (fun other => db.digest (.rules other)) db.actives
          approval.approvalUuid active = some actives ∧
        (states = db.states ∧ (db.state? approval.approvalUuid).isSome = true ∨
          states = db.states ++ [⟨approval.approvalUuid, .new, 0, false⟩] ∧
            db.state? approval.approvalUuid = none) ∧
        next =
          { db with
            approvals := approvals
            bootstraps := bootstraps
            actives := actives
            states := states } := by
  simp only [register, bind_ok, put_ok, pure_ok] at registered
  obtain ⟨approvals, approvalPut, bootstraps, bootstrapPut, actives,
    activePut, rfl⟩ := registered
  refine
    ⟨approvals, bootstraps, actives, _, approvalPut, bootstrapPut, activePut,
      ?_, rfl⟩
  split
  · rename_i present
    exact .inl ⟨rfl, present⟩
  · rename_i absent
    exact .inr ⟨rfl, by simpa using absent⟩

/-- What an operation other than a rollback finds. -/
structure IsOpenFor (db : NetworkStore) (state : NetworkState)
    (operation : Operation) : Prop where
  unblocked : state.blocked = false
  settled : db.hasOpenJob = false
  stage : state.stage = if operation = .active then .bootstrap else .new

variable {operation : Operation}

theorem admits_ok
    {state : NetworkState} (admitted : db.admits state operation = .ok ()) :
    operation = .rollback ∧ 0 < state.generation ∨
      operation ≠ .rollback ∧ db.IsOpenFor state operation := by
  cases operation with
  | rollback => exact .inl ⟨rfl, require_ok.mp admitted⟩
  | bootstrap =>
      simp only [admits, bind_ok, require_ok] at admitted
      obtain ⟨_, ⟨unblocked, settled⟩, stage⟩ := admitted
      exact .inr ⟨by decide, unblocked, settled, stage⟩
  | active =>
      simp only [admits, bind_ok, require_ok] at admitted
      obtain ⟨_, ⟨unblocked, settled⟩, stage⟩ := admitted
      exact .inr ⟨by decide, unblocked, settled, stage⟩

/-- The intent of a new job. -/
def intentOf (db : NetworkStore) (approval : NetworkApproval)
    (operation : Operation) (deadline : Timestamp) (rules : List Command)
    (expectedGeneration : Nat) : Intent where
  approval := approval.approvalUuid
  rules := db.rulesHash rules
  expectedGeneration := expectedGeneration
  deadline := deadline
  operation := operation

/-- What a fresh dispatch has found and written. -/
theorem dispatch_ok {deadline : Timestamp}
    {rules : List Command} {expectedGeneration : Nat} (dispatched :
      db.dispatch approval operation request deadline guard =
        .ok (next, .fresh rules expectedGeneration)) :
    ∃ state intents events,
      Documents.get? db.approvals approval.approvalUuid = some approval ∧
        db.rulesFor approval.approvalUuid operation = .ok rules ∧
        db.job? request = none ∧
        db.state? approval.approvalUuid = some state ∧
        state.generation = expectedGeneration ∧
        db.admits state operation = .ok () ∧
        Documents.put? (fun other => db.digest (.intent other)) db.intents
          request
          (db.intentOf approval operation deadline rules
            expectedGeneration) = some intents ∧
        next =
          { db with
            jobs := db.jobs ++ [dispatchedJob approval operation request
                  (db.digest (.request approval operation rules deadline))]
            intents := intents
            events := events } := by
  simp only [dispatch, bind_ok, approved_ok] at dispatched
  obtain ⟨_, isApproved, found, isRules, dispatched⟩ := dispatched
  cases known : db.job? request with
  | some old =>
      simp only [known, bind_ok, pure_ok] at dispatched
      obtain ⟨_, _, answered⟩ := dispatched
      cases answered
  | none =>
      simp only [known, bind_ok, required_ok, put_ok, pure_ok] at dispatched
      obtain ⟨state, row, _, admitted, _, _, intents, written, answered⟩ :=
        dispatched
      obtain ⟨events, written'⟩ := event_eq
          { db with
            jobs := db.jobs ++ [dispatchedJob approval operation request
                  (db.digest (.request approval operation found deadline))]
            intents := intents }
          request .dispatched
      rw [written'] at answered
      cases answered
      exact
        ⟨state, intents, events, isApproved, isRules, rfl, row, rfl, admitted,
          written, rfl⟩

theorem dispatch_replay {deadline : Timestamp}
    {status : JobStatus} {receipt : Option InstallReceipt} (dispatched :
      db.dispatch approval operation request deadline guard =
        .ok (next, .replay status receipt)) :
    next = db := by
  simp only [dispatch, bind_ok] at dispatched
  obtain ⟨_, _, _, _, dispatched⟩ := dispatched
  cases known : db.job? request with
  | some old =>
      simp only [known, bind_ok, pure_ok] at dispatched
      obtain ⟨_, _, answered⟩ := dispatched
      cases answered
      rfl
  | none =>
      simp only [known, bind_ok, pure_ok] at dispatched
      obtain ⟨_, _, _, _, _, _, _, _, answered⟩ := dispatched
      cases answered

/-- What taking an ownership has written. -/
theorem own_ok (owned : db.own approvalUuid request ack = .ok next) :
    ∃ ownerships events,
      Documents.put? (fun other => db.digest (.ack other)) db.ownerships
          request ack = some ownerships ∧
        next =
          { db with
            ownerships := ownerships
            states := Rows.modify NetworkState.approval approvalUuid
                (fun state => { state with generation := ack.generation })
                db.states
            events := events } := by
  simp only [own, bind_ok, put_ok, pure_ok] at owned
  obtain ⟨ownerships, written, rfl⟩ := owned
  obtain ⟨events, shape⟩ := event_eq
      ({ db with ownerships := ownerships }.updateState approvalUuid
        fun state => { state with generation := ack.generation })
      request .owned
  exact ⟨ownerships, events, written, shape⟩

/-- The row of a job that is verified. -/
def verifiedJob (receipt : InstallReceipt) (job : Job) : Job :=
  { job with status := .verified, receipt := some receipt }

/-- What finishing an operation has written. -/
theorem finish_ok {readback : Readback} {receipt : InstallReceipt} (finished :
      db.finish approvalUuid request operation readback receipt = .ok next) :
    ∃ readbacks receipts events,
      Documents.put? (fun other => db.digest (.readback other)) db.readbacks
          request readback = some readbacks ∧
        Documents.put? (fun other => db.digest (.receipt other)) db.receipts
          request receipt = some receipts ∧
        (∀ job ∈ db.jobs, job.id = request →
          job.mayBecome (verifiedJob receipt job)) ∧
        next =
          { db with
            readbacks := readbacks
            receipts := receipts
            jobs := Rows.modify Job.id request (verifiedJob receipt) db.jobs
            states := Rows.modify NetworkState.approval approvalUuid
                (fun state => { state with stage := verifiedStage operation })
                db.states
            events := events } := by
  simp only [finish, bind_ok, put_ok, pure_ok] at finished
  obtain ⟨readbacks, readbackPut, receipts, receiptPut, verified, updated,
    rfl⟩ := finished
  obtain ⟨admitted, rfl⟩ := updateJob_ok updated
  obtain ⟨events, shape⟩ := event_eq _ request .verified
  rw [shape]
  exact ⟨readbacks, receipts, events, readbackPut, receiptPut, admitted, rfl⟩

/-- The state of an approval whose installation failed. -/
def blockedState (state : NetworkState) : NetworkState :=
  { state with stage := .quarantined, blocked := true }

theorem quarantine_ok
    (quarantined : db.quarantine approvalUuid request = .ok next) :
    ∃ events, next =
        { db with
          jobs := Rows.modify Job.id request quarantinedJob db.jobs
          states := Rows.modify NetworkState.approval approvalUuid blockedState
              db.states
          events := events } := by
  simp only [quarantine, bind_ok, pure_ok] at quarantined
  obtain ⟨marked, updated, rfl⟩ := quarantined
  obtain ⟨_, rfl⟩ := updateJob_ok updated
  obtain ⟨events, shape⟩ := event_eq _ request .quarantined
  rw [shape]
  exact ⟨events, rfl⟩

/-- The row of a job whose ownership was restored. -/
def recoveredJob (job : Job) : Job :=
  { job with status := .quarantined, reason := .recoveredOwnership }

/-- The state of an approval whose ownership was restored. -/
def recoveredState (generation : Nat) (state : NetworkState) : NetworkState :=
  { state with
    stage := .quarantined
    generation := generation
    blocked := true }

theorem recover_ok {failedJob : Uuid} {now : Timestamp}
    (recovered : db.recover approval failedJob ack now = .ok next) :
    ∃ job ownerships events,
      db.job? failedJob = some job ∧ job.status ≠ .verified ∧
        ack.contextUuid = failedJob ∧
        ack.ownerUuid = approval.approvalUuid ∧
        Documents.put? (fun other => db.digest (.ack other)) db.ownerships
          failedJob ack = some ownerships ∧
        next =
          { db with
            ownerships := ownerships
            jobs := Rows.modify Job.id failedJob recoveredJob db.jobs
            states := Rows.modify NetworkState.approval approval.approvalUuid
                (recoveredState ack.generation) db.states
            events := events } := by
  simp only [recover, bind_ok, required_ok, require_ok, put_ok,
    pure_ok] at recovered
  obtain ⟨_, _, job, found, _, ⟨unsettled, _⟩, _, _, _, ⟨sameJob, sameOwner, _⟩,
    _, _, _, _, ownerships, written, marked, updated, rfl⟩ := recovered
  obtain ⟨_, rfl⟩ := updateJob_ok updated
  obtain ⟨events, shape⟩ := event_eq _ failedJob .recoveredOwnership
  rw [shape]
  refine ⟨job, ownerships, events, found, ?_, sameJob, sameOwner, written, rfl⟩
  intro isVerified
  rcases unsettled with still | still
  · rw [still] at isVerified
    cases isVerified
  · rw [still] at isVerified
    cases isVerified

end NetworkStore

end TicketSandbox.Firewall

namespace TicketSandbox.Firewall

/-!
# What an installer keeps

The journal and the host stay in step: the host applies every job once and in
the order of its generations, and the generation that is recorded for the
owner of the rules is behind that of the host only while the ownership of the
last transaction is not recorded.
-/

open TicketSandbox.Runtime (Digest RuntimeApproval Uuid)
open TicketSandbox.Sandbox (Timestamp)

namespace NetworkStore

/-- The identifiers, approvals and operations of all jobs. -/
def started (db : NetworkStore) : List (Uuid × Uuid × Operation) :=
  db.jobs.map fun job => (job.id, job.approval, job.operation)

/-- The tables have the keys that the schema asks for. -/
structure Keyed (db : NetworkStore) : Prop where
  jobs : (db.jobs.map Job.id).Nodup
  states : (db.states.map NetworkState.approval).Nodup
  receipt : ∀ job ∈ db.jobs, job.receipt ≠ none ↔ job.status = .verified
  intents : ∀ id, Documents.get? db.intents id ≠ none → id ∈ db.jobs.map Job.id
  readbacks :
    ∀ id, Documents.get? db.readbacks id ≠ none → id ∈ db.jobs.map Job.id
  receipts :
    ∀ id, Documents.get? db.receipts id ≠ none → id ∈ db.jobs.map Job.id

/-- What is registered can be installed. -/
structure Registered (db : NetworkStore) : Prop where
  bootstraps : ∀ id rules, Documents.get? db.bootstraps id = some rules →
      exactTables rules = ownTables id ∧ rules.length = 13
  actives : ∀ id rules, Documents.get? db.actives id = some rules →
      exactTables rules = ownTables id ∧ rules.length = 25
  complete : ∀ id approval, Documents.get? db.approvals id = some approval →
      Documents.get? db.bootstraps id ≠ none ∧
        id ∈ db.states.map NetworkState.approval

/-- Every job of an approval is verified. -/
def IsSettled (db : NetworkStore) (approvalUuid : Uuid) : Prop :=
  ∀ job ∈ db.jobs, job.approval = approvalUuid → job.status = .verified

/-- The job of a call waits for its outcome. -/
def IsPending (db : NetworkStore) (call : Install) : Prop :=
  ∃ job ∈ db.jobs,
    job.id = call.request ∧ job.approval = call.approval.approvalUuid ∧
      job.operation = call.operation ∧ job.status = .dispatched

/-- What a later journal keeps of an earlier one. -/
structure Preserves (early late : NetworkStore) : Prop where
  state : ∀ state ∈ early.states, ∃ later ∈ late.states,
        later.approval = state.approval ∧ state.generation ≤ later.generation ∧
          (state.blocked = true → later.blocked = true)
  job : ∀ job ∈ early.jobs, job.receipt ≠ none → job ∈ late.jobs

end NetworkStore

/-- The last transaction that was applied for an approval. -/
def NetworkHost.lastApplied?
    (host : NetworkHost) (approvalUuid : Uuid) : Option ApplyAck :=
  (host.trace.filter fun ack => ack.ownerUuid = approvalUuid).getLast?

/-- The host applies jobs of the journal, each once. -/
structure Traced
    (db : NetworkStore) (host : NetworkHost) (reached : List Uuid) : Prop where
  generation : host.generation = host.trace.length
  numbered : Rows.Numbered ApplyAck.generation host.trace
  contexts : (host.trace.map ApplyAck.contextUuid).Nodup
  once : reached.Nodup
  called : ∀ ack ∈ host.trace, ack.contextUuid ∈ reached
  dispatched : ∀ id ∈ reached, id ∈ db.jobs.map Job.id
  job : ∀ ack ∈ host.trace,
      ∃ operation, (ack.contextUuid, ack.ownerUuid, operation) ∈ db.started
  owner : ∀ ack ∈ host.trace, host.owner = some ack.ownerUuid
  unowned : host.trace = [] → host.owner = none
  state :
    ∀ ack ∈ host.trace, ack.ownerUuid ∈ db.states.map NetworkState.approval
  ownerships : ∀ id, Documents.get? db.ownerships id ≠ none →
      id ∈ host.trace.map ApplyAck.contextUuid

/-- Some transaction was applied last, and its ownership is not recorded. -/
def Unrecorded (db : NetworkStore) (host : NetworkHost) : Prop :=
  ∃ ack, host.trace.getLast? = some ack ∧
      Documents.get? db.ownerships ack.contextUuid = none

/-- The generation that is recorded for an approval. -/
def IsCounted
    (db : NetworkStore) (host : NetworkHost) (state : NetworkState) : Prop :=
  if host.owner = some state.approval then
    state.generation = host.generation ∨
      (state.generation + 1 = host.generation ∧ Unrecorded db host)
  else
    state.generation = 0

/-- The stage of an approval is the one that its last transaction led to. -/
def IsStaged
    (db : NetworkStore) (host : NetworkHost) (state : NetworkState) : Prop :=
  match host.lastApplied? state.approval with
  | none => state.stage = .new
  | some ack =>
      ∃ operation, (ack.contextUuid, state.approval, operation) ∈ db.started ∧
          state.stage = NetworkStore.verifiedStage operation

/-- What may be about to be applied. -/
structure MayApply
    (db : NetworkStore) (host : NetworkHost) (call : Install) : Prop where
  blocked : ∀ state, db.state? call.approval.approvalUuid = some state →
      state.blocked = true →
      call.operation = .rollback
  active :
    Documents.get? db.actives call.approval.approvalUuid = some call.rules →
    (∃ ack, ∃ job ∈ db.jobs,
        host.lastApplied? call.approval.approvalUuid = some ack ∧
          job.id = ack.contextUuid ∧ job.status = .verified ∧
          (job.operation = .bootstrap ∨ job.operation = .rollback)) ∧
      ∀ job ∈ db.jobs, job.id ≠ call.request → job.status = .verified

/-- The call in front of the host. -/
structure IsDispatched
    (db : NetworkStore) (host : NetworkHost) (reached : List Uuid)
    (call : Install) : Prop where
  pending : db.IsPending call
  fresh : call.request ∉ reached
  state : ∃ state ∈ db.states, state.approval = call.approval.approvalUuid ∧
        state.generation = call.expectedGeneration
  may : MayApply db host call

/-- The transaction of a call is the last one of the host. -/
structure IsApplied (db : NetworkStore) (host : NetworkHost) (call : Install)
    (ack : ApplyAck) : Prop where
  pending : db.IsPending call
  last : host.trace.getLast? = some ack
  context : ack.contextUuid = call.request
  owner : ack.ownerUuid = call.approval.approvalUuid

/-- How far the call that is going on has come. -/
def IsFramed (db : NetworkStore) (host : NetworkHost)
    (reached : List Uuid) : Option Ongoing → Prop
  | some (.install call .dispatched) => IsDispatched db host reached call
  | some (.install call (.applied ack)) => IsApplied db host call ack
  | some (.install call (.owned ack)) => IsApplied db host call ack
  | some (.install call (.confirmed ack _)) => IsApplied db host call ack
  | _ => True

namespace System

/-- What holds between any two actions. -/
structure Kept (sys : System) : Prop where
  keyed : sys.store.Keyed
  registered : sys.store.Registered
  traced : Traced sys.store sys.host sys.reached
  counted : ∀ state ∈ sys.store.states, IsCounted sys.store sys.host state
  staged : ∀ state ∈ sys.store.states, state.blocked = false →
      sys.store.IsSettled state.approval →
      IsStaged sys.store sys.host state
  framed : IsFramed sys.store sys.host sys.reached sys.frame

/-- Nothing older than what is recorded is recovered. -/
def Permitted (sys : System) : Action → Prop
  | .recover approval _ ack _ =>
      ∀ state, sys.store.state? approval.approvalUuid = some state →
        state.generation ≤ ack.generation
  | _ => True

end System

end TicketSandbox.Firewall
