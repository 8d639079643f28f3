import TicketSandbox.Runtime.ObjectRuns

namespace TicketSandbox.Runtime

/-!
# Confirmed cleanups over a run

A cleanup is confirmed of a closed object that is owned.  Only a quarantine or
a revocation of such a target takes the confirmation back.
-/

open Runs
open Sandbox (Timestamp)
open Authority

/-- The object of the row is owned. -/
def IsOwned (db : Journal) (row : RuntimeObject) : Prop :=
  (Documents.get? db.ownerships (row.intent.resource, row.id)).isSome = true

/-- A confirmed cleanup is the one of a closed object that is owned. -/
structure Cleaned (db : Journal) : Prop where
  sound : Sound db
  closed : ∀ row ∈ db.objects, row.cleanup = .confirmed → IsCleanable row
  owned : ∀ row ∈ db.objects, row.cleanup = .confirmed → IsOwned db row

theorem Cleaned.fresh (live : Bool) (digest : Digested → Digest) :
    Cleaned (Journal.fresh live digest) where
  sound := .fresh live digest
  closed := by simp [Journal.fresh]
  owned := by simp [Journal.fresh]

variable {old new : Journal} {row : RuntimeObject}
  {reopened : Option (Kind × Uuid)} {label : Label}

theorem IsOwned.grown
    {later : RuntimeObject} (owned : IsOwned old row) (grown : Grown old new)
    (intent : later.intent = row.intent) (key : later.key = row.key) :
    IsOwned new later := by
  obtain ⟨document, found⟩ := Option.isSome_iff_exists.mp owned
  have sameId : later.id = row.id := congrArg Prod.snd key
  rw [IsOwned, intent, sameId, grown.ownerships.kept _ _ found]
  rfl

theorem terminalCleanup_ne (db : Journal) (runId : Uuid) :
    terminalCleanup db runId ≠ .confirmed := by
  simp only [terminalCleanup]
  split
  · simp
  · split
    · simp
    · simp

theorem ownedState_ne (kind : Kind) (awaited : Bool) :
    (ownedState kind awaited).2 ≠ .confirmed := by
  cases awaited with
  | false => simp [ownedState]
  | true =>
      cases kind with
      | target => simp [ownedState]
      | run => simp [ownedState]

namespace RowChange

variable {after : After}

theorem closed_of_run (isRun : row.kind = .run) (frozen : row.terminal ≠ none →
      after.terminal = row.terminal ∧ after.phase = row.phase)
    (closed : IsCleanable row) :
    IsCleanable
      (Journal.movedRow row after.phase after.cleanup after.terminal) := by
  have stored : row.terminal ≠ none := by
    simpa [IsCleanable, isRun] using closed
  simp only [IsCleanable, Journal.movedRow, isRun, ↓reduceIte]
  exact (frozen stored).1 ▸ stored

theorem confirmed (how : RowChange reopened old new row label after)
    (frozen : row.terminal ≠ none →
      after.terminal = row.terminal ∧ after.phase = row.phase)
    (before : row.cleanup = .confirmed → IsCleanable row ∧ IsOwned old row)
    (isConfirmed : after.cleanup = .confirmed) :
    IsCleanable
        (Journal.movedRow row after.phase after.cleanup after.terminal) ∧
      IsOwned old row := by
  have run (isRun : row.kind = .run) (already : row.cleanup = .confirmed) :
      IsCleanable
          (Journal.movedRow row after.phase after.cleanup after.terminal) ∧
        IsOwned old row :=
    ⟨closed_of_run isRun frozen (before already).1, (before already).2⟩
  have target (isTarget : row.kind = .target) (phase : row.phase ≠ .quarantined)
      (already : row.cleanup = .confirmed) : False := by
    have closed := (before already).1
    simp only [IsCleanable, isTarget, reduceCtorEq, ↓reduceIte] at closed
    exact phase closed
  cases how with
  | requested | ownedLate | quarantined | revoked => cases isConfirmed
  | owned awaited => exact absurd isConfirmed (ownedState_ne _ awaited)
  | verified isTarget phase =>
      exact (target isTarget (by simp [phase]) isConfirmed).elim
  | enrolled isTarget phase =>
      exact (target isTarget (by simp [phase]) isConfirmed).elim
  | checked phase approval enrollment checked isRun =>
      exact run isRun isConfirmed
  | authorized permit owned isRun => exact run isRun isConfirmed
  | claimed permit isRun => exact run isRun isConfirmed
  | invoked permit isRun => exact run isRun isConfirmed
  | live actual owned isRun => exact run isRun isConfirmed
  | probed approval document signed owned isRun => exact run isRun isConfirmed
  | terminated => exact absurd isConfirmed (terminalCleanup_ne _ _)
  | cleaned isClosed isOwned => exact ⟨isClosed, isOwned⟩

theorem keepsConfirmed (how : RowChange reopened old new row label after)
    (sound : row.terminal ≠ none → row.phase = .terminal)
    (closed : IsCleanable row) (owned : IsOwned old row)
    (isConfirmed : row.cleanup = .confirmed)
    (notReopened : row.kind = .target → reopened ≠ some row.key) :
    after.cleanup = .confirmed := by
  have isTarget (isOpen : row.terminal = none) : row.kind = .target := by
    cases isKind : row.kind with
    | target => rfl
    | run => simp [IsCleanable, isKind, isOpen] at closed
  have isUnowned (fresh :
        Documents.get? old.ownerships (row.intent.resource, row.id) =
          none) : False := by
    simp [IsOwned, fresh] at owned
  cases how with
  | requested idle =>
      cases isKind : row.kind with
      | target =>
          simp only [IsCleanable, isKind, reduceCtorEq, ↓reduceIte] at closed
          simp [isKind, closed, createPhase] at idle
      | run =>
          simp only [IsCleanable, isKind, ↓reduceIte] at closed
          simp [isKind, sound closed, createPhase] at idle
  | owned awaited document fresh => exact (isUnowned fresh).elim
  | ownedLate fresh => exact (isUnowned fresh).elim
  | quarantined named isOpen =>
      exact absurd named (notReopened (isTarget isOpen))
  | revoked named isKind => exact absurd named (notReopened isKind)
  | terminated terminal isRun isOpen =>
      exact absurd (isRun.symm.trans (isTarget isOpen)) (by decide)
  | cleaned => rfl
  | _ => exact isConfirmed

end RowChange

/-- A change keeps what was cleaned. -/
theorem Cleaned.change
    (cleaned : Cleaned old) (changed : Change reopened old new label) :
    Cleaned new := by
  have sound := cleaned.sound.change changed
  have ofSame (objects : new.objects = old.objects)
      (grown : Grown old new) : Cleaned new := by
    refine ⟨sound, objects ▸ cleaned.closed, ?_⟩
    intro row member isConfirmed
    exact (cleaned.owned row (objects ▸ member) isConfirmed).grown grown rfl rfl
  cases changed with
  | quiet label uncounted objects docs dispatches grown =>
      exact ofSame objects grown
  | claimedCreate permit claims others objects docs grown =>
      exact ofSame objects grown
  | claimedTargetStart provisioningUuid claims others objects docs grown =>
      exact ofSame objects grown
  | inserted kind intent fingerprint absent resource targets enrolled
      objects docs dispatches grown =>
      have isOld {row : RuntimeObject} (member : row ∈ new.objects)
          (isConfirmed : row.cleanup = .confirmed) :
          row ∈ old.objects := by
        rw [objects] at member
        rcases List.mem_append.mp member with early | isNew
        · exact early
        · rw [List.mem_singleton.mp isNew] at isConfirmed
          cases isConfirmed
      refine ⟨sound, ?_, ?_⟩
      · intro row member isConfirmed
        exact cleaned.closed row (isOld member isConfirmed) isConfirmed
      · intro row member isConfirmed
        exact (cleaned.owned row (isOld member isConfirmed) isConfirmed).grown
            grown rfl rfl
  | moved label row after member how frozen objects docs dispatches grown =>
      have before (isConfirmed : row.cleanup = .confirmed) :
          IsCleanable row ∧ IsOwned old row :=
        ⟨cleaned.closed row member isConfirmed,
          cleaned.owned row member isConfirmed⟩
      refine ⟨sound, ?_, ?_⟩
      · intro version versionMember isConfirmed
        rw [objects] at versionMember
        rcases (Journal.mem_moved member).mp versionMember with
          shape | ⟨oldMember, _⟩
        · subst shape
          exact (how.confirmed frozen before isConfirmed).1
        · exact cleaned.closed version oldMember isConfirmed
      · intro version versionMember isConfirmed
        rw [objects] at versionMember
        rcases (Journal.mem_moved member).mp versionMember with
          shape | ⟨oldMember, _⟩
        · subst shape
          exact (how.confirmed frozen before isConfirmed).2.grown grown rfl rfl
        · exact
            (cleaned.owned version oldMember isConfirmed).grown grown rfl rfl

/-- No action reopens a target whose cleanup is confirmed. -/
def KeepsConfirmed (sys : System) (action : Action) : Prop :=
  ∀ row ∈ sys.journal.objects, row.kind = .target → row.cleanup = .confirmed →
    action.reopened? sys.journal ≠ some row.key
  deriving Decidable

theorem Change.staysConfirmed
    (changed : Change reopened old new label) (cleaned : Cleaned old)
    (member : row ∈ old.objects) (isConfirmed : row.cleanup = .confirmed)
    (notReopened : row.kind = .target → reopened ≠ some row.key) :
    ∃ later ∈ new.objects,
      later.key = row.key ∧ later.cleanup = .confirmed := by
  cases changed with
  | quiet label uncounted objects =>
      exact ⟨row, objects ▸ member, rfl, isConfirmed⟩
  | claimedCreate permit claims others objects =>
      exact ⟨row, objects ▸ member, rfl, isConfirmed⟩
  | claimedTargetStart provisioningUuid claims others objects =>
      exact ⟨row, objects ▸ member, rfl, isConfirmed⟩
  | inserted kind intent fingerprint absent resource targets enrolled objects =>
      exact ⟨row, objects ▸ List.mem_append_left _ member, rfl, isConfirmed⟩
  | moved label changing after changingMember how frozen objects =>
      by_cases same : row.key = changing.key
      · have isChanging :=
          Rows.eq_of_key cleaned.sound.keys member changingMember same
        subst isChanging
        refine ⟨Journal.movedRow row after.phase after.cleanup after.terminal,
            ?_, rfl, ?_⟩
        · rw [objects]
          exact (Journal.mem_moved member).mpr (.inl rfl)
        · exact how.keepsConfirmed
              (fun stored => (cleaned.sound.terminals row member stored).2)
              (cleaned.closed row member isConfirmed)
              (cleaned.owned row member isConfirmed) isConfirmed notReopened
      · exact ⟨row, objects ▸
              (Journal.mem_moved changingMember).mpr (.inr ⟨member, same⟩),
            rfl, isConfirmed⟩

/-- The target is not known to be cleaned up. -/
def IsUnconfirmed (row : RuntimeObject) : Prop :=
  row.kind = .target ∧ row.cleanup ≠ .confirmed
  deriving Decidable

/-- The targets that are not known to be cleaned up. -/
def Journal.unconfirmed (db : Journal) : List RuntimeObject :=
  db.objects.filter fun row => decide (IsUnconfirmed row)

/-- All such targets are one. -/
def Journal.Singular (db : Journal) : Prop :=
  ∀ row ∈ db.objects, IsUnconfirmed row →
    ∀ other ∈ db.objects, IsUnconfirmed other → row.key = other.key

theorem Journal.Singular.length_le {db : Journal} (singular : db.Singular)
    (keys : (db.objects.map RuntimeObject.key).Nodup) :
    db.unconfirmed.length ≤ 1 := by
  have unique : (db.unconfirmed.map RuntimeObject.key).Nodup :=
    keys.sublist (List.filter_sublist.map _)
  cases found : db.unconfirmed with
  | nil => exact Nat.zero_le 1
  | cons first rest =>
      cases rest with
      | nil => exact le_refl 1
      | cons second others =>
          have isUnconfirmed (row : RuntimeObject)
              (member : row ∈ first :: second :: others) :
              row ∈ db.objects ∧ IsUnconfirmed row := by
            rw [← found] at member
            simpa [Journal.unconfirmed] using member
          have isFirst := isUnconfirmed first (by simp)
          have isSecond := isUnconfirmed second (by simp)
          have same :=
            singular first isFirst.1 isFirst.2 second isSecond.1 isSecond.2
          rw [found] at unique
          simp [same] at unique

/-- Under the condition a change leaves at most one such target. -/
theorem Change.singular
    (changed : Change reopened old new label) (cleaned : Cleaned old)
    (singular : old.Singular) (notReopened :
      ∀ row ∈ old.objects, row.kind = .target → row.cleanup = .confirmed →
        reopened ≠ some row.key) :
    new.Singular := by
  have ofSame (objects : new.objects = old.objects) : new.Singular := by
    rw [Journal.Singular, objects]
    exact singular
  cases changed with
  | quiet label uncounted objects => exact ofSame objects
  | claimedCreate permit claims others objects => exact ofSame objects
  | claimedTargetStart provisioningUuid claims others objects =>
      exact ofSame objects
  | inserted kind intent fingerprint absent resource targets enrolled objects =>
      cases kind with
      | target =>
          have isNew {row : RuntimeObject} (member : row ∈ new.objects)
              (isUnconfirmed : IsUnconfirmed row) :
              row = Journal.newObject .target intent fingerprint old.epoch := by
            rw [objects] at member
            rcases List.mem_append.mp member with isOld | isNew
            · exact
                absurd (targets rfl row isOld isUnconfirmed.1) isUnconfirmed.2
            · exact List.mem_singleton.mp isNew
          intro row member isUnconfirmed other otherMember isOther
          rw [isNew member isUnconfirmed, isNew otherMember isOther]
      | run =>
          have isOld {row : RuntimeObject} (member : row ∈ new.objects)
              (isUnconfirmed : IsUnconfirmed row) :
              row ∈ old.objects := by
            rw [objects] at member
            rcases List.mem_append.mp member with early | isNew
            · exact early
            · have isTarget := isUnconfirmed.1
              rw [List.mem_singleton.mp isNew] at isTarget
              cases isTarget
          intro row member isUnconfirmed other otherMember isOther
          exact singular row (isOld member isUnconfirmed) isUnconfirmed other
              (isOld otherMember isOther) isOther
  | moved label changing after changingMember how frozen objects =>
      have wasUnconfirmed {row : RuntimeObject} (member : row ∈ new.objects)
          (isUnconfirmed : IsUnconfirmed row) :
          ∃ early ∈ old.objects, early.key = row.key ∧ IsUnconfirmed early := by
        rw [objects] at member
        rcases (Journal.mem_moved changingMember).mp member with
          shape | ⟨oldMember, _⟩
        · subst shape
          refine ⟨changing, changingMember, rfl, isUnconfirmed.1, ?_⟩
          intro isConfirmed
          exact isUnconfirmed.2 (how.keepsConfirmed (fun stored =>
                  (cleaned.sound.terminals changing changingMember stored).2)
                (cleaned.closed changing changingMember isConfirmed)
                (cleaned.owned changing changingMember isConfirmed)
                isConfirmed
                (fun isTarget =>
                  notReopened changing changingMember isTarget isConfirmed))
        · exact ⟨row, oldMember, rfl, isUnconfirmed⟩
      intro row member isUnconfirmed other otherMember isOther
      obtain ⟨early, earlyMember, sameKey, wasEarly⟩ :=
        wasUnconfirmed member isUnconfirmed
      obtain ⟨past, pastMember, otherKey, wasPast⟩ :=
        wasUnconfirmed otherMember isOther
      rw [← sameKey, ← otherKey]
      exact singular early earlyMember wasEarly past pastMember wasPast

namespace System

theorem run_cleaned {first last : System} {actions : List Action}
    (cleaned : Cleaned first.journal) (singular : first.journal.Singular)
    (run : Run step? KeepsConfirmed first actions last) :
    Cleaned last.journal ∧ last.journal.Singular ∧
      ∀ row ∈ first.journal.objects, row.cleanup = .confirmed →
        ∃ later ∈ last.journal.objects,
          later.key = row.key ∧ later.cleanup = .confirmed := by
  refine run.invariant (fun sys =>
      Cleaned sys.journal ∧ sys.journal.Singular ∧
        ∀ row ∈ first.journal.objects, row.cleanup = .confirmed →
          ∃ later ∈ sys.journal.objects,
            later.key = row.key ∧ later.cleanup = .confirmed)
    ?_ ⟨cleaned, singular, fun row member isConfirmed =>
      ⟨row, member, rfl, isConfirmed⟩⟩
  rintro sys action next keeps stepped ⟨stillCleaned, stillSingular, stays⟩
  obtain ⟨label, changed, _⟩ := step?_moves stepped
  refine ⟨stillCleaned.change changed,
      changed.singular stillCleaned stillSingular keeps, ?_⟩
  intro row member isConfirmed
  obtain ⟨version, versionMember, sameKey, confirmed⟩ :=
    stays row member isConfirmed
  obtain ⟨later, laterMember, laterKey, laterConfirmed⟩ :=
    changed.staysConfirmed stillCleaned versionMember confirmed
      (fun isTarget => keeps version versionMember isTarget confirmed)
  exact ⟨later, laterMember, laterKey.trans sameKey, laterConfirmed⟩

/--
As long as no confirmed target is quarantined or revoked, a confirmed cleanup
is final, and at most one target is not known to be cleaned up.
-/
theorem cleanups_final {live : Bool} {digest : Digested → Digest}
    {early late : List Action} {first last : System}
    (start : Run step? KeepsConfirmed (fresh live digest) early first)
    (run : Run step? KeepsConfirmed first late last) :
    (∀ kind id row, first.journal.object? kind id = some row →
      row.cleanup = .confirmed →
      ∃ later, last.journal.object? kind id = some later ∧
          later.cleanup = .confirmed) ∧
      last.journal.unconfirmed.length ≤ 1 := by
  obtain ⟨cleaned, singular, _⟩ :=
    run_cleaned (.fresh live digest) (by simp [Journal.Singular, fresh,
      Journal.fresh]) start
  obtain ⟨lastCleaned, lastSingular, stays⟩ := run_cleaned cleaned singular run
  refine ⟨?_, lastSingular.length_le lastCleaned.sound.keys⟩
  intro kind id row found isConfirmed
  obtain ⟨member, isKey⟩ := Journal.object?_some found
  obtain ⟨later, laterMember, sameKey, confirmed⟩ :=
    stays row member isConfirmed
  exact ⟨later, Journal.object?_mem lastCleaned.sound.keys laterMember
        (sameKey.trans isKey),
      confirmed⟩

end System

/-- The daemon of the pilot. -/
def pilotDaemon : DaemonIdentity where
  daemonId := "daemon"
  endpointReference := "local"
  endpointConfigDigest := 1
  sessionUuid := 1

/-- The network of the pilot. -/
def pilotNetwork : NetworkProfile where
  networkId := "network"
  networkName := "pilot"
  subnet := "10.0.0.0/29"
  targetIpv4 := "10.0.0.2"
  runnerIpv4 := "10.0.0.3"
  enforcementReference := "rules"

/-- The offline approval of the pilot. -/
def pilotApproval : RuntimeApproval where
  approvalUuid := 1
  operatorPrincipal := "operator"
  scope := "pilot"
  daemon := pilotDaemon
  targetImageId := "target"
  runnerImageId := "runner"
  checkerSourceDigest := 2
  network := pilotNetwork
  createdAt := 1
  expiresAt := 1000000000
  policyId := "policy"
  policyVersion := 1
  policyDigest := 3
  targetProfileDigest := 4
  runnerProfileDigest := 5
  schemaVersion := 1
  authorityMode := .offlineRuntimeContractOnly

/-- A signer of the pilot. -/
def pilotGrant (principal : String) (role : Role) : SignerGrant where
  principal := principal
  role := role
  scopes := ["pilot"]

/-- The authority of the pilot. -/
def pilotAuthority : Authority where
  operator := "operator"
  daemon := pilotDaemon
  grants := [pilotGrant "operator" .operator, pilotGrant "adapter" .adapter,
      pilotGrant "egress" .egress, pilotGrant "validator" .validator,
      pilotGrant "recovery" .recovery]

/-- A receipt with a genuine signature. -/
def signedBy {α : Type} (signer : String) (digest : Digest)
    (payload : α) : Attestation α where
  payload := payload
  signer := signer
  genuine := true
  digest := digest

/-- The fields that every observation of the pilot has. -/
def observedNow
    (receiptUuid contextUuid : Uuid) (observedAt : Timestamp) : Common where
  receiptUuid := receiptUuid
  contextUuid := contextUuid
  scope := "pilot"
  observedAt := observedAt

/-- A hash without collisions among what the pilot hashes. -/
def pilotDigest : Digested → Digest
  | .approval approval => 100 + approval.approvalUuid
  | .network _ => 1
  | .rules _ => 2
  | .matrix _ => 3
  | .liveMatrix _ _ => 4
  | .daemon _ => 5
  | .intent intent => 1000 + intent.intentUuid
  | .snapshot snapshot => 2000 + snapshot.generationUuid
  | .enrollment enrollment => 3000 + enrollment.enrollmentUuid
  | .provision attempt _ => 4000 + attempt.attemptId
  | .attempt _ attemptId => 5000 + attemptId
  | .run _ _ sampleSlot _ _ => 6000 + sampleSlot
  | .sample _ sampleSlot _ => 7000 + sampleSlot
  | .texts texts => 8000 + texts.length
  | .pairs pairs => 9000 + pairs.length
  | .command entrypoint _ => 10000 + entrypoint.length
  | .bytes bytes => 11000 + bytes.length
  | .dispatchPermit permit => 12000 + permit.permitUuid
  | .startPermit permit => 13000 + permit.permitUuid
  | .ownership ownership => 14000 + ownership.attestationDigest
  | .startReference reference => 15000 + reference.provisioningUuid
  | .checked checked => 16000 + checked.identityReceipt
  | .enrollmentIndex provisioningUuid => 17000 + provisioningUuid
  | .request request => 18000 + request.requestUuid
  | .runner observation => 19000 + observation.common.receiptUuid
  | .probe probe => 20000 + probe.receiptDigest
  | .cleanup cleanup => 21000 + cleanup.receiptDigest

/-- Nothing has happened on the offline journal of the pilot. -/
def pilotStart : System := System.fresh false pilotDigest

/-- An attempt of the pilot. -/
def pilotAttempt (attemptId : Nat) : AttemptReference where
  sandboxInstance := "sandbox"
  attemptId := attemptId
  ownerId := 7

/-- The request for a target of the attempt. -/
def pilotRequest (attemptId : Nat) : ProvisionRequest where
  requestUuid := attemptId
  approvalUuid := 1
  attempt := pilotAttempt attemptId

/-- The UUIDs of a target of the pilot. -/
def pilotUuids (intent : Uuid) : Authority.Uuids where
  intent := intent
  runtimeBinding := intent + 1
  generation := intent + 2

/-- The intent of the first target. -/
def pilotIntent : CreateIntent :=
  targetIntent pilotStart.journal pilotApproval (pilotRequest 1) 4001
    (pilotUuids 10) 3

/-- The permit to create the first target. -/
def pilotPermit : DispatchPermit where
  permitUuid := 20
  intentUuid := 10
  resource := .target
  intentDigest := 1010
  controlEpoch := 1
  deadline := pilotIntent.deadline

/-- The feature is enabled, and the approval registered. -/
def pilotApproved : List Action :=
  [.setEnabled true 1,
    .registerApproval pilotAuthority (signedBy "operator" 50 pilotApproval) 2]

/-- The first target is created and owned. -/
def pilotCreated : List Action :=
  [.provision pilotAuthority (pilotRequest 1) (pilotUuids 10) 3,
    .beginCreate pilotAuthority pilotIntent (signedBy "adapter" 51
        { common := observedNow 51 10 3
          daemon := pilotDaemon })
      20 4,
    .claimCreate pilotAuthority pilotPermit 5,
    .enter 0 6 6 .returned,
    .recordCreateResponse pilotAuthority pilotPermit (signedBy "adapter" 52
        { common := observedNow 52 10 6
          daemon := pilotDaemon
          permitUuid := 20
          resource := .target
          intentDigest := 1010
          containerId := "container"
          imageId := "target" })
      7]

/-- The first target is quarantined, removed and confirmed. -/
def pilotRemoved : List Action :=
  [.quarantine pilotAuthority 10 .target 8, .recordCleanup pilotAuthority
      (signedBy "recovery" 53
        { common := observedNow 53 10 8
          resource := .target
          daemon := pilotDaemon
          containerId := "container"
          ownershipDigest := 52
          outcome := "removed_confirmed" })
      9]

/-- The first target is cleaned up. -/
def pilotCleaned : System :=
  Runs.after System.step? pilotStart
    (pilotApproved ++ pilotCreated ++ pilotRemoved)

/-- A second target is provisioned. -/
def pilotSecond : Action :=
  .provision pilotAuthority (pilotRequest 2) (pilotUuids 30) 10

/-- The check behind `KeepsConfirmed`. -/
def keepsConfirmed (sys : System) (action : Action) : Bool :=
  decide (KeepsConfirmed sys action)

/-- The first target is cleaned up, with the condition checked. -/
def pilotChecked : System :=
  Runs.after (guarded keepsConfirmed System.step?) pilotStart
    (pilotApproved ++ pilotCreated ++ pilotRemoved)

/-- The second target is provisioned, with the condition checked. -/
def pilotProvisioned : System :=
  Runs.after (guarded keepsConfirmed System.step?) pilotChecked [pilotSecond]

theorem cleanups_final_secondProvisioned :
    ∃ row later, pilotChecked.journal.object? .target 10 = some row ∧
        row.cleanup = .confirmed ∧
        pilotProvisioned.journal.object? .target 10 = some later ∧
        later.cleanup = .confirmed ∧
        pilotProvisioned.journal.unconfirmed.length ≤ 1 := by
  obtain ⟨final, single⟩ := System.cleanups_final
      (run_after_guarded (fun _ _ => of_decide_eq_true) (by decide) :
        Run System.step? KeepsConfirmed pilotStart
          (pilotApproved ++ pilotCreated ++ pilotRemoved) pilotChecked)
      (run_after_guarded (fun _ _ => of_decide_eq_true) (by decide) :
        Run System.step? KeepsConfirmed pilotChecked [pilotSecond]
          pilotProvisioned)
  have isFound : (pilotChecked.journal.object? .target 10).map
          RuntimeObject.cleanup = some .confirmed := by
    decide
  obtain ⟨row, found, isConfirmed⟩ := Option.map_eq_some_iff.mp isFound
  obtain ⟨later, laterFound, confirmed⟩ :=
    final .target 10 row found isConfirmed
  exact ⟨row, later, found, isConfirmed, laterFound, confirmed, single⟩

/-- The clean-up of the first target is taken back. -/
def pilotReopened : List Action :=
  [pilotSecond, .quarantine pilotAuthority 10 .target 11]

/--
A confirmed cleanup is taken back by a quarantine, which leaves two targets
that are not known to be cleaned up.
-/
theorem pilotReopened_unconfirmed :
    ∃ cleaned last : System, Run System.step? anything pilotStart
          (pilotApproved ++ pilotCreated ++ pilotRemoved) cleaned ∧
        Run System.step? anything cleaned pilotReopened last ∧
        (cleaned.journal.object? .target 10).map RuntimeObject.cleanup =
          some .confirmed ∧
        (last.journal.object? .target 10).map RuntimeObject.cleanup =
          some .quarantined ∧
        last.journal.unconfirmed.length = 2 :=
  ⟨pilotCleaned, Runs.after System.step? pilotCleaned pilotReopened,
    run_after (fun _ _ _ => trivial) (by decide),
    run_after (fun _ _ _ => trivial) (by decide), by decide, by decide,
    by decide⟩

end TicketSandbox.Runtime
