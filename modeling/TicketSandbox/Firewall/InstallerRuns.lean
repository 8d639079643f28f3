import TicketSandbox.Firewall.DefaultDeny
import TicketSandbox.Firewall.Rollbacks

namespace TicketSandbox.Firewall

/-!
# Runs of the installer

In every run that recovers nothing older than what is recorded, the journal
and the host stay in step.  A run that recovers an older job puts the recorded
generation back, and no rollback succeeds any more.
-/

open Runs
open TicketSandbox.Runtime (Digest RuntimeApproval Uuid)
open TicketSandbox.Sandbox (Timestamp)

/-! ## What the journal keeps -/

variable {db : NetworkStore} {request : Uuid} {receipt : InstallReceipt}

namespace NetworkStore

namespace Preserves

theorem refl (db : NetworkStore) : Preserves db db where
  state := fun state member => ⟨state, member, rfl, Nat.le_refl _, id⟩
  job := fun _ member _ => member

theorem trans {first second third : NetworkStore}
    (early : Preserves first second) (late : Preserves second third) :
    Preserves first third where
  state := by
    intro state member
    obtain ⟨middle, isMiddle, sameMiddle, less, blocks⟩ :=
      early.state state member
    obtain ⟨later, isLater, same, lessLater, blocksLater⟩ :=
      late.state middle isMiddle
    exact ⟨later, isLater, same.trans sameMiddle, Nat.le_trans less lessLater,
        fun blocked => blocksLater (blocks blocked)⟩
  job := fun job member present =>
    late.job job (early.job job member present) present

variable {early late : NetworkStore}

theorem of_subset
    (states : early.states ⊆ late.states) (jobs : early.jobs ⊆ late.jobs) :
    Preserves early late where
  state := fun state member => ⟨state, states member, rfl, Nat.le_refl _, id⟩
  job := fun _ member _ => jobs member

theorem of_modify
    {approvalUuid : Uuid} {change : NetworkState → NetworkState} (states :
      late.states =
        Rows.modify NetworkState.approval approvalUuid change early.states)
    (raises : ∀ state ∈ early.states, state.approval = approvalUuid →
        (change state).approval = state.approval ∧
          state.generation ≤ (change state).generation ∧
          (state.blocked = true → (change state).blocked = true))
    (job : ∀ job ∈ early.jobs, job.receipt ≠ none → job ∈ late.jobs) :
    Preserves early late where
  state := by
    intro state member
    rw [states]
    by_cases isOwn : state.approval = approvalUuid
    · exact
        ⟨change state, Rows.mem_modify.mpr ⟨state, member, .inl ⟨isOwn, rfl⟩⟩,
          raises state member isOwn⟩
    · exact ⟨state, Rows.mem_modify.mpr ⟨state, member, .inr ⟨isOwn, rfl⟩⟩, rfl,
          Nat.le_refl _, id⟩
  job := job

end Preserves

theorem job_mem_modify {change : Job → Job} (spares : ∀ job ∈ db.jobs,
        job.id = request → job.receipt ≠ none → change job = job) :
    ∀ job ∈ db.jobs, job.receipt ≠ none →
      job ∈ Rows.modify Job.id request change db.jobs := by
  intro job member present
  refine Rows.mem_modify.mpr ⟨job, member, ?_⟩
  by_cases isRequest : job.id = request
  · exact .inl ⟨isRequest, (spares job member isRequest present).symm⟩
  · exact .inr ⟨isRequest, rfl⟩

theorem verifiedJob_eq
    {job : Job} (admitted : job.mayBecome (verifiedJob receipt job))
    (present : job.receipt ≠ none) :
    verifiedJob receipt job = job := by
  obtain ⟨_, _, _, _, keeps⟩ := admitted
  obtain ⟨sameReceipt, sameStatus⟩ := keeps present
  cases job
  simp only [verifiedJob] at sameReceipt sameStatus
  simp only [verifiedJob, sameReceipt, sameStatus]

end NetworkStore

namespace System

open NetworkStore (Preserves)

/-! ## Steps -/

variable {next : NetworkStore} {approval : NetworkApproval} {sys : System}
  {call : Install} {ack : ApplyAck} {operation : Operation}

theorem preserves_register {bootstrap active : List Command}
    (registered : db.register approval bootstrap active = .ok next) :
    Preserves db next := by
  obtain ⟨_, _, _, _, _, _, _, added, rfl⟩ :=
    NetworkStore.register_ok registered
  refine Preserves.of_subset ?_ (List.Subset.refl _)
  rcases added with ⟨rfl, _⟩ | ⟨rfl, _⟩
  · exact List.Subset.refl _
  · exact List.subset_append_left _ _

theorem Kept.preserves_own
    (kept : sys.Kept) (applied : IsApplied sys.store sys.host call ack) (owned :
      sys.store.own call.approval.approvalUuid call.request ack = .ok next) :
    Preserves sys.store next := by
  obtain ⟨_, _, _, rfl⟩ := NetworkStore.own_ok owned
  refine Preserves.of_modify rfl ?_ fun _ member _ => member
  intro state member isOwn
  refine ⟨rfl, ?_, id⟩
  have isOwner : sys.host.owner = some state.approval := by
    rw [kept.traced.owner ack (List.mem_of_getLast? applied.last),
      applied.owner, isOwn]
  have counted := kept.counted state member
  rw [IsCounted, if_pos isOwner] at counted
  change state.generation ≤ ack.generation
  rw [kept.traced.last_generation applied.last]
  rcases counted with same | ⟨behind, _⟩
  · exact Nat.le_of_eq same
  · exact Nat.le_of_succ_le (Nat.le_of_eq behind)

theorem preserves_finish {approvalUuid : Uuid} {readback : Readback} (finished :
      db.finish approvalUuid request operation readback receipt = .ok next) :
    Preserves db next := by
  obtain ⟨_, _, _, _, _, admitted, rfl⟩ := NetworkStore.finish_ok finished
  refine Preserves.of_modify rfl (fun _ _ _ => ⟨rfl, Nat.le_refl _, id⟩) ?_
  refine NetworkStore.job_mem_modify ?_
  intro job member isRequest present
  exact NetworkStore.verifiedJob_eq (admitted job member isRequest) present

theorem preserves_quarantine {approvalUuid : Uuid}
    (quarantined : db.quarantine approvalUuid request = .ok next) :
    Preserves db next := by
  obtain ⟨_, rfl⟩ := NetworkStore.quarantine_ok quarantined
  refine Preserves.of_modify rfl
    (fun _ _ _ => ⟨rfl, Nat.le_refl _, fun _ => rfl⟩) ?_
  refine NetworkStore.job_mem_modify ?_
  intro job _ _ present
  rcases NetworkStore.quarantinedJob_cases job with ⟨_, same⟩ | ⟨without, _⟩
  · exact same
  · exact absurd without present

theorem Kept.preserves_recover
    (kept : sys.Kept) {failedJob : Uuid} {now : Timestamp}
    (recovered : sys.store.recover approval failedJob ack now = .ok next)
    (permitted : ∀ state, sys.store.state? approval.approvalUuid = some state →
        state.generation ≤ ack.generation) :
    Preserves sys.store next := by
  obtain ⟨failed, _, _, found, unverified, _, _, _, rfl⟩ :=
    NetworkStore.recover_ok recovered
  obtain ⟨isFailed, sameId⟩ := NetworkStore.job?_some found
  refine Preserves.of_modify rfl ?_ ?_
  · intro state member isOwn
    exact
      ⟨rfl, permitted state (isOwn ▸ kept.keyed.state? member), fun _ => rfl⟩
  · refine NetworkStore.job_mem_modify ?_
    intro job member isRequest present
    have same : job = failed := Rows.eq_of_key kept.keyed.jobs member isFailed
        (isRequest.trans sameId.symm)
    have verified := (kept.keyed.receipt job member).mp present
    rw [same] at verified
    exact absurd verified unverified

theorem Kept.install
    (kept : sys.Kept) {deadline : Timestamp} {reading : StartReading} :
    (sys.install approval operation request deadline reading).Kept ∧
      Preserves sys.store
        (sys.install approval operation request deadline reading).store := by
  unfold System.install
  dsimp only
  split
  · rename_i store rules expectedGeneration dispatched
    refine ⟨kept.dispatch dispatched reading, ?_⟩
    obtain ⟨_, _, _, _, _, _, _, _, _, _, rfl⟩ :=
      NetworkStore.dispatch_ok dispatched
    exact Preserves.of_subset (List.Subset.refl _) (List.subset_append_left _ _)
  · rename_i store status receipt replayed
    rw [NetworkStore.dispatch_replay replayed]
    exact ⟨kept.reframe trivial, Preserves.refl _⟩
  · exact ⟨kept.reframe trivial, Preserves.refl _⟩

theorem Kept.reframed (kept : sys.Kept) {frame : Option Ongoing}
    (framed : IsFramed sys.store sys.host sys.reached frame) :
    Kept { sys with frame := frame } ∧ Preserves sys.store sys.store :=
  ⟨kept.reframe framed, Preserves.refl _⟩

theorem Kept.apply (kept : sys.Kept)
    (dispatched : IsDispatched sys.store sys.host sys.reached call)
    (binding : NetworkBinding) (now : Timestamp) :
    (sys.apply call binding now).Kept := by
  unfold System.apply
  split
  rename_i host answer applied
  cases answer with
  | none =>
      obtain ⟨calls, rfl⟩ := NetworkHost.apply_none applied
      exact kept.apply_none dispatched
  | some ack =>
      obtain ⟨calls, owned, isAck, rfl⟩ := NetworkHost.apply_some applied
      refine kept.apply_some dispatched owned ?_ ?_ ?_
      · rw [isAck]
        rfl
      · rw [isAck]
        rfl
      · rw [isAck]
        rfl

/-- Every permitted step keeps the invariant. -/
theorem Kept.step {next : System} {action : Action} (kept : sys.Kept)
    (permitted : sys.Permitted action)
    (stepped : step? sys action = some next) :
    next.Kept ∧ Preserves sys.store next.store := by
  have framed := kept.framed
  cases action with
  | register approval runtime bootstrap active now =>
      simp only [step?] at stepped
      split at stepped
      · rename_i idle
        cases stepped
        refine ⟨kept.register idle, ?_⟩
        unfold System.register
        split
        · split
          · rename_i store registered
            exact preserves_register registered
          · exact Preserves.refl _
        · exact Preserves.refl _
      · cases stepped
  | install approval operation request deadline reading =>
      simp only [step?] at stepped
      split at stepped
      · cases stepped
        exact kept.install
      · cases stepped
  | apply binding now =>
      simp only [step?] at stepped
      split at stepped
      · rename_i call isFrame
        cases stepped
        rw [isFrame] at framed
        exact ⟨kept.apply framed binding now, Preserves.refl _⟩
      · cases stepped
  | own now =>
      simp only [step?] at stepped
      split at stepped
      · rename_i call ack isFrame
        cases stepped
        rw [isFrame] at framed
        unfold System.own
        split
        · split
          · rename_i store owned
            exact ⟨kept.own framed owned, kept.preserves_own framed owned⟩
          · exact kept.reframed trivial
        · exact kept.reframed trivial
      · cases stepped
  | confirm reading =>
      simp only [step?] at stepped
      split at stepped
      · rename_i call ack isFrame
        cases stepped
        rw [isFrame] at framed
        unfold System.confirm
        split
        · exact kept.reframed framed
        · exact kept.reframed trivial
      · cases stepped
  | finish receiptUuid now =>
      simp only [step?] at stepped
      split at stepped
      · rename_i call ack readback isFrame
        cases stepped
        rw [isFrame] at framed
        unfold System.finish
        dsimp only
        split
        · rename_i store finished
          exact ⟨kept.finish framed finished, preserves_finish finished⟩
        · exact kept.reframed trivial
      · cases stepped
  | answer =>
      simp only [step?] at stepped
      split at stepped
      · cases stepped
        exact kept.reframed trivial
      · cases stepped
  | raise =>
      simp only [step?] at stepped
      split at stepped
      · cases stepped
        exact kept.reframed trivial
      · cases stepped
        exact kept.reframed trivial
      · cases stepped
        exact kept.reframed trivial
      · cases stepped
  | quarantine =>
      simp only [step?] at stepped
      split at stepped
      · rename_i call isFrame
        cases stepped
        unfold System.quarantine
        split
        · rename_i store quarantined
          refine ⟨kept.quarantine quarantined ?_,
            preserves_quarantine quarantined⟩
          split
          · trivial
          · trivial
        · exact kept.reframed trivial
      · cases stepped
  | rollBack request now reading =>
      simp only [step?] at stepped
      split at stepped
      · cases stepped
        exact kept.install
      · cases stepped
  | recover approval failedJob ack now =>
      simp only [step?] at stepped
      split at stepped
      · rename_i idle
        cases stepped
        unfold System.recover
        split
        · rename_i genuine
          split
          · rename_i store recovered
            exact ⟨kept.recover recovered genuine.1 permitted trivial,
                kept.preserves_recover recovered permitted⟩
          · exact ⟨kept, Preserves.refl _⟩
        · exact ⟨kept, Preserves.refl _⟩
      · cases stepped
  | check approval active reading now =>
      simp only [step?] at stepped
      split at stepped
      · cases stepped
        exact ⟨kept, Preserves.refl _⟩
      · cases stepped
  | crash =>
      cases stepped
      exact kept.reframed trivial

/-! ## Runs -/

/-- The invariant holds before anything is installed. -/
theorem Kept.fresh (operator : String) (digest : Digested → Digest) :
    (System.fresh operator digest).Kept := by
  refine ⟨?_, ?_, ?_, ?_, ?_, trivial⟩
  · constructor <;> simp [System.fresh, Documents.get?]
  · constructor <;> simp [System.fresh, Documents.get?]
  · constructor <;> simp [System.fresh, Documents.get?, Rows.Numbered]
  · intro state member
    cases member
  · intro state member
    cases member

/-- The ownership of every applied job is recorded. -/
def IsRecorded (sys : System) : Prop :=
  ∀ ack ∈ sys.host.trace,
    Documents.get? sys.store.ownerships ack.contextUuid ≠ none
  deriving Decidable

/-- What the installer promises of a state. -/
structure IsSound (sys : System) : Prop where
  applying : ∀ call, sys.frame = some (.install call .dispatched) →
      MayApply sys.store sys.host call
  once : sys.reached.Nodup
  generation : sys.IsRecorded → ∀ state ∈ sys.store.states,
      (sys.host.owner = none ∨ sys.host.owner = some state.approval) →
      state.generation = sys.host.generation
  rollback : sys.IsRecorded → sys.frame = none → ∀ approval,
      Documents.get? sys.store.approvals approval.approvalUuid = some approval →
      sys.host.owner = some approval.approvalUuid →
      sys.RollsBack approval

theorem Kept.sound (kept : sys.Kept) : sys.IsSound where
  applying := by
    intro call isFrame
    have framed := kept.framed
    rw [isFrame] at framed
    exact framed.may
  once := kept.traced.once
  generation := by
    intro recorded state member owned
    rcases owned with nobody | isOwner
    · have notOwner : sys.host.owner ≠ some state.approval := by
        rw [nobody]
        exact nofun
      have counted := kept.counted state member
      rw [IsCounted, if_neg notOwner] at counted
      have empty : sys.host.trace = [] := by
        refine List.eq_nil_iff_forall_not_mem.mpr fun ack isTraced => ?_
        rw [kept.traced.owner ack isTraced] at nobody
        cases nobody
      rw [counted, kept.traced.generation, empty]
      rfl
    · exact kept.generation_eq recorded member isOwner
  rollback := fun recorded idle _ isApproved owned =>
    kept.rollsBack idle isApproved owned recorded

theorem Kept.run {last : System} {actions : List Action} (kept : sys.Kept)
    (run : Run step? Permitted sys actions last) :
    last.Kept ∧ Preserves sys.store last.store := by
  refine run.invariant
    (fun later => later.Kept ∧ Preserves sys.store later.store) ?_
    ⟨kept, Preserves.refl _⟩
  rintro state action next permitted stepped ⟨stateKept, early⟩
  obtain ⟨nextKept, late⟩ := stateKept.step permitted stepped
  exact ⟨nextKept, early.trans late⟩

/--
In every run that recovers nothing older than what is recorded, what is
applied is allowed, no job is applied twice, the recorded generation is that
of the host while every ownership is recorded, and blocks, generations and
receipts are kept.
-/
theorem journal_kept
    {operator : String} {digest : Digested → Digest} {actions : List Action}
    {last : System} (run :
      Run step? Permitted (System.fresh operator digest) actions last) :
    last.IsSound ∧ ∀ more after, Run step? Permitted last more after →
        Preserves last.store after.store := by
  have kept := ((Kept.fresh operator digest).run run).1
  refine ⟨kept.sound, ?_⟩
  intro more after continued
  exact (kept.run continued).2

end System

/-! ## The pilot -/

/-- A digest that tells the documents of the pilot apart. -/
def pilotDigest : Digested → Digest
  | .runtime _ => 1
  | .approval approval => 10 + approval.approvalUuid
  | .binding _ => 2
  | .rules commands => 100 + commands.length
  | .ack ack => 1000 + ack.contextUuid
  | .readback readback => 2000 + readback.contextUuid
  | .receipt receipt => 3000 + receipt.receiptUuid
  | .intent intent => 4000 + intent.expectedGeneration
  | .request _ _ rules deadline => 5000 + rules.length + deadline.toNat

/-- The network approval of the pilot. -/
def pilotNetwork : NetworkApproval where
  approvalUuid := 7
  operator := "operator:pilot"
  binding := pilotBinding
  bootstrapDigest := 113
  activeDigest := 125
  createdAt := 1
  expiresAt := 1000000000

/-- The rules that deny everything, for the pilot. -/
def pilotBootstrap : List Command :=
  (baseCommands ++ inetCommands).map (approvedCommand 7)

/-- What the guard of the pilot reads. -/
def pilotGuard : GuardReading where
  snapshot :=
    { binding := pilotBinding
      bridgeNames := ["tcsh0"]
      physicalPorts := ["vethtarget", "vethrunner"]
      runnerInterfaces := [23]
      targetInterfaces := [22]
      netlinkSequenceStart := 1
      netlinkSequenceEnd := 1
      netlinkLost := 0
      foreignBridgeHooks := false
      brNetfilter := false
      bridgeConntrack := true }
  stopped := false
  now := 10
  later := 10

/-- What an installation of the pilot starts with. -/
def pilotStart : StartReading where
  guard := pilotGuard
  started := 10
  monotonic := 10

/-- What an installation of the pilot is confirmed with. -/
def pilotConfirm : ConfirmReading where
  first := pilotGuard
  now := 12
  observedAt := 12
  second := pilotGuard
  monotonic := 12

/-- A job of the pilot is applied and its ownership recorded. -/
def pilotApplied : List Action :=
  [.apply pilotBinding 11, .own 11]

/-- The bootstrap of the pilot fails behind its ownership and is rolled back. -/
def pilotFailure : List Action :=
  [.register pilotNetwork pilotApproval pilotBootstrap pilotCommands 5,
    .install pilotNetwork .bootstrap 20 500000 pilotStart] ++
    pilotApplied ++
    [.raise, .quarantine, .rollBack 21 10 pilotStart] ++
    pilotApplied ++
    [.confirm pilotConfirm, .finish 31 13, .answer]

/-- The trace of the bootstrap of the pilot. -/
def pilotTrace : ApplyAck where
  contextUuid := 20
  scope := "test-shadow-pilot"
  bindingDigest := 2
  ownerUuid := 7
  rulesDigest := 113
  generation := 1
  observedAt := 11
  tables := ownTables 7

/-- The bootstrap is recovered from its trace and rolled back once more. -/
def pilotRecovery : List Action :=
  [.recover pilotNetwork 20 pilotTrace 20, .rollBack 22 10 pilotStart,
    .apply pilotBinding 11, .quarantine]

/-- The installer of the pilot before anything happened. -/
def pilotInstaller : System :=
  System.fresh "operator:pilot" pilotDigest

/-- The installer of the pilot behind the failed bootstrap. -/
def pilotRestored : System :=
  after System.step? pilotInstaller pilotFailure

/-- The installer of the pilot behind the recovery. -/
def pilotRecovered : System :=
  after System.step? pilotRestored pilotRecovery

/--
A recovery of the bootstrap behind its rollback records the older generation
again, and no rollback succeeds any more.
-/
theorem pilotRecovered_behind :
    Run System.step? anything pilotInstaller pilotFailure pilotRestored ∧
      Run System.step? anything pilotRestored pilotRecovery pilotRecovered ∧
      ¬ pilotRestored.store.Preserves pilotRecovered.store ∧
      pilotRecovered.IsRecorded ∧
      ¬ pilotRecovered.IsSound := by
  have before : pilotRestored.store.states = [⟨7, .bootstrap, 2, true⟩] := by
    decide +kernel
  have after : pilotRecovered.store.states = [⟨7, .quarantined, 1, true⟩] := by
    decide +kernel
  have recorded : pilotRecovered.IsRecorded := by
    decide +kernel
  refine ⟨run_after (fun _ _ _ => trivial) (by decide +kernel),
      run_after (fun _ _ _ => trivial) (by decide +kernel), ?_, recorded, ?_⟩
  · intro preserves
    obtain ⟨later, isLater, _, raises, _⟩ :=
      preserves.state ⟨7, .bootstrap, 2, true⟩ (by rw [before]; simp)
    rw [after, List.mem_singleton] at isLater
    rw [isLater] at raises
    exact absurd raises (by decide +kernel)
  · intro sound
    have same := sound.generation recorded ⟨7, .quarantined, 1, true⟩
        (by rw [after]; simp) (.inr (by decide +kernel))
    exact absurd same (by decide +kernel)

/-- The bootstrap of the pilot is applied, and its answer is lost. -/
def pilotLost : List Action :=
  [.register pilotNetwork pilotApproval pilotBootstrap pilotCommands 5,
    .install pilotNetwork .bootstrap 20 500000 pilotStart,
    .apply pilotBinding 11, .raise, .quarantine, .raise]

/-- The bootstrap is recovered at once, and rolled back. -/
def pilotRepair : List Action :=
  [.recover pilotNetwork 20 pilotTrace 20, .rollBack 22 10 pilotStart] ++
    pilotApplied ++ [.confirm pilotConfirm, .finish 32 13, .answer]

/-- An action is permitted by what the store records. -/
instance (sys : System) (action : Action) : Decidable (sys.Permitted action) :=
  match action with
  | .recover approval _ ack _ =>
      inferInstanceAs (Decidable
          (∀ state ∈ sys.store.state? approval.approvalUuid,
            state.generation ≤ ack.generation))
  | .register .. => .isTrue trivial
  | .install .. => .isTrue trivial
  | .apply .. => .isTrue trivial
  | .own .. => .isTrue trivial
  | .confirm .. => .isTrue trivial
  | .finish .. => .isTrue trivial
  | .answer => .isTrue trivial
  | .raise => .isTrue trivial
  | .quarantine => .isTrue trivial
  | .rollBack .. => .isTrue trivial
  | .check .. => .isTrue trivial
  | .crash => .isTrue trivial

/-- The permitted steps of an installation. -/
def permittedStep? : System → Action → Option System :=
  guarded (fun sys action => decide (sys.Permitted action)) System.step?

theorem journal_kept_pilot :
    (after permittedStep? pilotInstaller pilotLost).IsSound ∧
      (after permittedStep? pilotInstaller pilotLost).store.Preserves
        (after permittedStep? (after permittedStep? pilotInstaller pilotLost)
          pilotRepair).store :=
  have lost : Run System.step? System.Permitted pilotInstaller pilotLost
        (after permittedStep? pilotInstaller pilotLost) :=
    run_after_guarded (fun _ _ => of_decide_eq_true) (by decide +kernel)
  ⟨(System.journal_kept lost).1, (System.journal_kept lost).2 pilotRepair _
      (run_after_guarded (fun _ _ => of_decide_eq_true) (by decide +kernel))⟩

end TicketSandbox.Firewall
