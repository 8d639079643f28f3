import TicketSandbox.Firewall.InstallerSteps

namespace TicketSandbox.Firewall

/-!
# Rollbacks of recorded rules

While the recorded generation is that of the host, a rollback that is
requested on an undisturbed host goes through and is verified.
-/

open Raises
open Runs
open TicketSandbox.Runtime (Digest RuntimeApproval Uuid)
open TicketSandbox.Sandbox (Timestamp)

/-! ## Undisturbed hosts -/

/-- The host that `_guard` reads is the approved one. -/
structure GuardReading.IsUndisturbed
    (reading : GuardReading) (approval : NetworkApproval) : Prop where
  snapshot : reading.snapshot.postInit = .ok ()
  binding : reading.snapshot.binding = approval.binding
  hooks : reading.snapshot.foreignBridgeHooks = false
  lost : reading.snapshot.netlinkLost = 0

/-- What a rollback reads on its way. -/
structure RollbackReading where
  start : StartReading
  binding : NetworkBinding
  appliedAt : Timestamp
  ownedAt : Timestamp
  confirm : ConfirmReading
  receiptUuid : Uuid
  finishedAt : Timestamp

/-- The host is the approved one all the time, and in time. -/
structure RollbackReading.IsUndisturbed
    (reading : RollbackReading) (approval : NetworkApproval)
    (deadline : Timestamp) : Prop where
  start : reading.start.guard.IsUndisturbed approval
  binding : reading.binding = approval.binding
  applied : reading.start.started ≤ reading.appliedAt
  owned : reading.appliedAt ≤ reading.ownedAt
  first : reading.confirm.first.IsUndisturbed approval
  budget : reading.confirm.now - reading.start.started ≤ applySeconds
  second : reading.confirm.second.IsUndisturbed approval
  monotonic : reading.confirm.monotonic < reading.start.monotonic +
        min applySeconds (deadline - reading.start.started)

/-- A rollback that nothing interrupts. -/
def rollbackActions
    (approval : NetworkApproval) (request : Uuid) (deadline : Timestamp)
    (reading : RollbackReading) : List Action :=
  [.install approval .rollback request deadline reading.start,
    .apply reading.binding reading.appliedAt,
    .own reading.ownedAt,
    .confirm reading.confirm,
    .finish reading.receiptUuid reading.finishedAt,
    .answer]

/-- A rollback that is requested now succeeds on an undisturbed host. -/
def System.RollsBack (sys : System) (approval : NetworkApproval) : Prop :=
  ∀ request deadline reading, sys.store.job? request = none →
    reading.IsUndisturbed approval deadline →
    ∃ after, run? System.step? sys
          (rollbackActions approval request deadline reading) =
        some after ∧
      after.host.rules =
        Documents.get? sys.store.bootstraps approval.approvalUuid ∧
      ∃ job, after.store.job? request = some job ∧ job.status = .verified

theorem NetworkBinding.sameHost_refl (binding : NetworkBinding) :
    binding.SameHost binding :=
  ⟨rfl, rfl, rfl, rfl, rfl, rfl, rfl, rfl⟩

variable {approval : NetworkApproval} {request : Uuid} {rules : List Command}
  {state : NetworkState} {host : NetworkHost}

theorem GuardReading.IsUndisturbed.guard {reading : GuardReading}
    (undisturbed : reading.IsUndisturbed approval) (deadline : Timestamp) :
    Firewall.guard approval deadline true reading = .ok () := by
  simp only [Firewall.guard, bind_ok, require_ok, ↓reduceIte]
  refine ⟨(), undisturbed.snapshot, (), ?_, (), ?_, .inl trivial⟩
  · rw [undisturbed.binding]
    exact approval.binding.sameHost_refl
  · exact ⟨undisturbed.hooks, undisturbed.lost⟩

namespace NetworkStore

variable {db : NetworkStore}

theorem put_absent
    {α : Type} {digested : α → Digested} {table : Documents.Table Uuid α}
    {key : Uuid} {document : α} (absent : Documents.get? table key = none) :
    db.put digested table key document = .ok (table ++ [(key, document)]) := by
  simp [put, Documents.put?, absent, required]

theorem dispatch_rollback (deadline : Timestamp) (isApproved :
      Documents.get? db.approvals approval.approvalUuid = some approval)
    (isRules : Documents.get? db.bootstraps approval.approvalUuid = some rules)
    (unknown : db.job? request = none)
    (unintended : Documents.get? db.intents request = none)
    (found : db.state? approval.approvalUuid = some state)
    (positive : 0 < state.generation) :
    ∃ store, db.dispatch approval .rollback request deadline (.ok ()) =
        .ok (store, .fresh rules state.generation) := by
  have approvedNow : db.approved approval = .ok () := approved_ok.mpr isApproved
  have hasRules : db.rulesFor approval.approvalUuid .rollback = .ok rules :=
    get_ok.mpr isRules
  have admitted : db.admits state .rollback = .ok () := require_ok.mpr positive
  have row : required ⟨"network_state_missing"⟩
          (db.state? approval.approvalUuid) =
        (.ok state : Except Denied NetworkState) :=
    required_ok.mpr found
  simp only [dispatch, approvedNow, hasRules, unknown, row, admitted,
    put_absent unintended, bind, Except.bind]
  exact ⟨_, rfl⟩

theorem own_absent (approvalUuid : Uuid) (ack : ApplyAck)
    (absent : Documents.get? db.ownerships request = none) :
    ∃ store, db.own approvalUuid request ack = .ok store := by
  simp only [own, put_absent absent, bind, Except.bind]
  exact ⟨_, rfl⟩

theorem finish_absent (approvalUuid : Uuid) (operation : Operation)
    (readback : Readback) (receipt : InstallReceipt)
    (noReadback : Documents.get? db.readbacks request = none)
    (noReceipt : Documents.get? db.receipts request = none)
    (without : ∀ job ∈ db.jobs, job.id = request → job.receipt = none) :
    ∃ store, db.finish approvalUuid request operation readback receipt =
        .ok store := by
  have admitted : ∀ job ∈ db.jobs,
        job.id = request → job.mayBecome (verifiedJob receipt job) :=
    fun job isJob isRequest =>
      ⟨rfl, rfl, rfl, rfl, fun present =>
        absurd (without job isJob isRequest) present⟩
  simp only [finish, put_absent noReadback, put_absent noReceipt, bind,
    Except.bind, updateJob]
  split
  · rename_i failure failed
    split at failed
    · cases failed
    · rename_i refused
      exact absurd admitted refused
  · exact ⟨_, rfl⟩

end NetworkStore

/-! ## The host -/

theorem NetworkHost.apply_owned
    {expectedGeneration : Nat} (digest : Digested → Digest) (request : Uuid)
    (now : Timestamp) (owned : host.ownedFor approval expectedGeneration)
    (positive : 0 < expectedGeneration)
    (tables : exactTables rules = ownTables approval.approvalUuid) :
    ∃ next, host.apply digest approval request rules expectedGeneration
          approval.binding now =
        (next, some (host.ack digest approval request rules now)) := by
  have notFirst : expectedGeneration ≠ 0 := Nat.pos_iff_ne_zero.mp positive
  unfold NetworkHost.apply
  rw [if_neg (not_not.mpr owned)]
  simp only [tables, notFirst, approval.binding.sameHost_refl, ne_eq,
    not_true_eq_false, false_and, and_false, or_self, ↓reduceIte]
  exact ⟨_, rfl⟩

theorem NetworkHost.verify_applied
    {generation : Nat} (digest : Digested → Digest) (transaction : Uuid)
    (now : Timestamp) (isRules : host.rules = some rules)
    (owner : host.owner = some approval.approvalUuid)
    (isGeneration : host.generation = generation) :
    ∃ readback, host.verify digest approval transaction rules generation now =
        .ok readback := by
  simp only [NetworkHost.verify, isRules, required, owner,
    isGeneration, and_self, bind, Except.bind, require, ensure,
    ↓reduceIte]
  exact ⟨_, rfl⟩

namespace System

variable {sys : System} {call : Install}

theorem run?_step {next : System} {action : Action} {rest : List Action}
    (stepped : step? sys action = some next) :
    run? step? sys (action :: rest) = run? step? next rest := by
  simp only [run?, stepped]

/-- The owner has the generation of the host. -/
theorem Kept.generation_eq (kept : sys.Kept) (recorded : ∀ ack ∈ sys.host.trace,
        Documents.get? sys.store.ownerships ack.contextUuid ≠ none)
    (member : state ∈ sys.store.states)
    (owned : sys.host.owner = some state.approval) :
    state.generation = sys.host.generation := by
  have counted := kept.counted state member
  rw [IsCounted, if_pos owned] at counted
  rcases counted with same | ⟨_, ack, isLast, unowned⟩
  · exact same
  · exact absurd unowned (recorded ack (List.mem_of_getLast? isLast))

theorem Kept.unused
    (kept : sys.Kept) (unknown : sys.store.job? request = none) :
    Documents.get? sys.store.intents request = none ∧
      Documents.get? sys.store.ownerships request = none ∧
      Documents.get? sys.store.readbacks request = none ∧
      Documents.get? sys.store.receipts request = none := by
  have noKey : request ∉ sys.store.jobs.map Job.id := by
    intro present
    obtain ⟨job, isJob, same⟩ := List.mem_map.mp present
    exact NetworkStore.job?_none unknown job isJob same
  refine ⟨?_, ?_, ?_, ?_⟩
  · by_contra present
    exact noKey (kept.keyed.intents request present)
  · by_contra present
    obtain ⟨ack, isTraced, same⟩ :=
      List.mem_map.mp (kept.traced.ownerships request present)
    obtain ⟨operation, entry⟩ := kept.traced.job ack isTraced
    exact noKey (same ▸ NetworkStore.id_mem_of_started entry)
  · by_contra present
    exact noKey (kept.keyed.readbacks request present)
  · by_contra present
    exact noKey (kept.keyed.receipts request present)

theorem confirm_undisturbed
    {ack : ApplyAck} (digest : Digested → Digest) {reading : ConfirmReading}
    (isRollback : call.operation = .rollback)
    (first : reading.first.IsUndisturbed call.approval)
    (budget : reading.now - call.started ≤ applySeconds)
    (second : reading.second.IsUndisturbed call.approval)
    (monotonic : reading.monotonic < call.monotonicEnd)
    (isRules : host.rules = some call.rules)
    (owner : host.owner = some call.approval.approvalUuid)
    (generation : host.generation = ack.generation) :
    ∃ readback, call.confirm host digest ack reading = .ok readback := by
  obtain ⟨readback, isRead⟩ :=
    NetworkHost.verify_applied digest call.request reading.observedAt isRules
      owner generation
  refine ⟨readback, ?_⟩
  simp only [Install.confirm, isRollback, decide_true, bind_ok,
    require_ok, pure_ok]
  exact ⟨(), first.guard call.deadline, (), budget, readback, isRead, (),
      second.guard call.deadline, (), monotonic, rfl⟩

/-- A dispatched rollback of owned rules is verified. -/
theorem dispatched_finishes
    (framed : sys.frame = some (.install call .dispatched))
    (isRollback : call.operation = .rollback)
    (owned : sys.host.ownedFor call.approval call.expectedGeneration)
    (positive : 0 < call.expectedGeneration)
    (tables : exactTables call.rules = ownTables call.approval.approvalUuid)
    (unowned : Documents.get? sys.store.ownerships call.request = none)
    (noReadback : Documents.get? sys.store.readbacks call.request = none)
    (noReceipt : Documents.get? sys.store.receipts call.request = none)
    (without :
      ∀ job ∈ sys.store.jobs, job.id = call.request → job.receipt = none)
    {reading : RollbackReading}
    (binding : reading.binding = call.approval.binding)
    (applied : call.started ≤ reading.appliedAt)
    (later : reading.appliedAt ≤ reading.ownedAt)
    (first : reading.confirm.first.IsUndisturbed call.approval)
    (budget : reading.confirm.now - call.started ≤ applySeconds)
    (second : reading.confirm.second.IsUndisturbed call.approval)
    (monotonic : reading.confirm.monotonic < call.monotonicEnd) :
    ∃ after receipt, run? step? sys
          [.apply reading.binding reading.appliedAt, .own reading.ownedAt,
            .confirm reading.confirm,
            .finish reading.receiptUuid reading.finishedAt, .answer] =
        some after ∧
      after.host.rules = some call.rules ∧
      after.store.jobs =
        Rows.modify Job.id call.request (NetworkStore.verifiedJob receipt)
          sys.store.jobs := by
  obtain ⟨host, isApplied⟩ :=
    NetworkHost.apply_owned sys.store.digest call.request reading.appliedAt
      owned positive tables
  obtain ⟨calls, _, _, isHost⟩ := NetworkHost.apply_some isApplied
  obtain ⟨ack, isAck⟩ : ∃ ack, ack =
          sys.host.ack sys.store.digest call.approval call.request call.rules
            reading.appliedAt :=
    ⟨_, rfl⟩
  rw [← isAck] at isApplied isHost
  have acknowledged :
      call.acknowledges sys.store.digest ack reading.ownedAt := by
    rw [isAck]
    refine ⟨rfl, rfl, rfl, rfl, ?_, rfl, applied, later⟩
    exact congrArg (· + 1) owned.1
  obtain ⟨ownedStore, isOwned⟩ :=
    NetworkStore.own_absent call.approval.approvalUuid ack unowned
  obtain ⟨_, _, _, isStore⟩ := NetworkStore.own_ok isOwned
  have sameDigest : ownedStore.digest = sys.store.digest := by
    rw [isStore]
  have sameJobs : ownedStore.jobs = sys.store.jobs := by
    rw [isStore]
  have sameReadbacks : ownedStore.readbacks = sys.store.readbacks := by
    rw [isStore]
  have sameReceipts : ownedStore.receipts = sys.store.receipts := by
    rw [isStore]
  obtain ⟨readback, isConfirmed⟩ : ∃ readback,
        call.confirm host ownedStore.digest ack reading.confirm =
          .ok readback := by
    refine confirm_undisturbed ownedStore.digest isRollback first budget
      second monotonic ?_ ?_ ?_
    · rw [isHost]
    · rw [isHost]
    · rw [isHost, isAck]
      rfl
  obtain ⟨store, isFinished⟩ :=
    NetworkStore.finish_absent call.approval.approvalUuid call.operation
      readback
      (call.receipt ownedStore.digest ack reading.receiptUuid
        reading.finishedAt)
      (sameReadbacks ▸ noReadback) (sameReceipts ▸ noReceipt)
      (sameJobs ▸ without)
  obtain ⟨_, _, _, _, _, _, finalStore⟩ := NetworkStore.finish_ok isFinished
  refine ⟨⟨sys.operator, store, host, none, sys.reached ++ [call.request]⟩,
      call.receipt ownedStore.digest ack reading.receiptUuid reading.finishedAt,
      ?_, ?_, ?_⟩
  · simp only [run?, step?, framed, System.apply, binding, isApplied,
      System.own, acknowledged, ↓reduceIte, isOwned, System.confirm,
      isConfirmed, System.finish, isFinished]
  · rw [isHost]
  · rw [finalStore, sameJobs]

/-- A rollback succeeds while every ownership is recorded. -/
theorem Kept.rollsBack (kept : sys.Kept) (idle : sys.frame = none) (isApproved :
      Documents.get? sys.store.approvals approval.approvalUuid = some approval)
    (owned : sys.host.owner = some approval.approvalUuid)
    (recorded : ∀ ack ∈ sys.host.trace,
        Documents.get? sys.store.ownerships ack.contextUuid ≠ none) :
    sys.RollsBack approval := by
  intro request deadline reading unknown undisturbed
  have absent := NetworkStore.job?_none unknown
  obtain ⟨unintended, unowned, noReadback, noReceipt⟩ := kept.unused unknown
  obtain ⟨hasRules, hasState⟩ := kept.registered.complete _ _ isApproved
  obtain ⟨rules, isRules⟩ := Option.ne_none_iff_exists'.mp hasRules
  obtain ⟨state, isState, sameApproval⟩ := List.mem_map.mp hasState
  have tables := (kept.registered.bootstraps _ _ isRules).1
  have generation : state.generation = sys.host.generation :=
    kept.generation_eq recorded isState (sameApproval ▸ owned)
  have positive : 0 < state.generation := by
    rw [generation, kept.traced.generation]
    refine List.length_pos_iff.mpr fun empty => ?_
    rw [kept.traced.unowned empty] at owned
    cases owned
  have ownedFor : sys.host.ownedFor approval state.generation := by
    refine ⟨generation.symm, ?_⟩
    rw [if_neg (Nat.pos_iff_ne_zero.mp positive)]
    exact owned
  obtain ⟨store, dispatched⟩ :=
    NetworkStore.dispatch_rollback deadline isApproved isRules unknown
      unintended (sameApproval ▸ kept.keyed.state? isState) positive
  have starts :
      step? sys (.install approval .rollback request deadline reading.start) =
        some
          { sys with
            store := store
            frame := some (.install
                  (Install.begin approval .rollback request deadline rules
                    state.generation reading.start)
                  .dispatched) } := by
    simp only [step?, idle, System.install, decide_true,
      undisturbed.start.guard deadline, dispatched]
  obtain ⟨_, intents, events, _, _, _, _, _, _, _, rfl⟩ :=
    NetworkStore.dispatch_ok dispatched
  have without : ∀ job ∈ sys.store.jobs ++
            [NetworkStore.dispatchedJob approval .rollback request
              (sys.store.digest (.request approval .rollback rules deadline))],
        job.id = request → job.receipt = none := by
    intro job member isRequest
    rcases List.mem_append.mp member with before | isNew
    · exact absurd isRequest (absent job before)
    · rw [List.mem_singleton.mp isNew]
      rfl
  have framed : ({ sys with
          store :=
            { sys.store with
              jobs := sys.store.jobs ++
                  [NetworkStore.dispatchedJob approval .rollback request
                    (sys.store.digest
                      (.request approval .rollback rules deadline))]
              intents := intents
              events := events }
          frame := some (.install
                (Install.begin approval .rollback request deadline rules
                  state.generation reading.start)
                .dispatched) } : System).frame =
        some (.install (Install.begin approval .rollback request deadline rules
              state.generation reading.start)
            .dispatched) :=
    rfl
  obtain ⟨after, receipt, finishes, restored, jobs⟩ :=
    dispatched_finishes framed rfl ownedFor positive tables unowned noReadback
      noReceipt without undisturbed.binding undisturbed.applied
      undisturbed.owned undisturbed.first undisturbed.budget
      undisturbed.second undisturbed.monotonic
  refine ⟨after, ?_, ?_, ?_⟩
  · rw [rollbackActions, run?_step starts]
    exact finishes
  · rw [restored, isRules]
    rfl
  · refine ⟨NetworkStore.verifiedJob receipt
        (NetworkStore.dispatchedJob approval .rollback request
          (sys.store.digest (.request approval .rollback rules deadline))),
        ?_, rfl⟩
    have unchanged :
        sys.store.jobs.find? (fun job => decide (job.id = request)) = none :=
      unknown
    unfold NetworkStore.job?
    rw [jobs]
    change (Rows.modify Job.id
            (NetworkStore.dispatchedJob approval .rollback request
              (sys.store.digest
                (.request approval .rollback rules deadline))).id
            _ _).find? _ = _
    rw [Rows.modify_append_new absent, List.find?_append, unchanged]
    simp [NetworkStore.verifiedJob, NetworkStore.dispatchedJob]

end System

end TicketSandbox.Firewall
