import TicketSandbox.Runtime.AuthorityFacts

namespace TicketSandbox.Runtime

/-!
# What the transactions of a run change

The remaining transactions: ownership and enrollment, the phases of a run, its
terminal and its cleanup.
-/

open Raises
open Sandbox (Timestamp)
open Authority

variable {reopened : Option (Kind × Uuid)} {base db next : Journal}
  {row : RuntimeObject}

namespace Change

/-- An update of a run moves it and writes its documents. -/
theorem writes {old new : Journal} {label : Label} {phase : ObjectPhase}
    {cleanup : Cleanup} {terminal : Option Terminal} {docs : RunDocs}
    (updated : base.update row phase cleanup terminal = .ok new)
    (member : row ∈ old.objects) (isRun : row.kind = .run) (how :
      RowChange reopened old new row label ⟨phase, cleanup, terminal, docs⟩)
    (objects : base.objects = old.objects)
    (written : ∀ runId, base.runDocs runId =
          if runId = row.id then docs else old.runDocs runId)
    (dispatches : SameDispatches old base) (grown : Grown old base) :
    Change reopened old new label := by
  obtain ⟨frozen, rfl⟩ := Journal.update_ok updated
  refine .moved label row _ member how frozen ?_ ?_ dispatches ?_
  · simp only [Journal.moved, objects]
  · intro runId
    simp only [isRun, true_and]
    exact written runId
  · exact ⟨grown.approvals, grown.createDispatches, grown.targetStartDispatches,
        grown.ownerships, grown.runEnrollments, grown.startDispatches,
        grown.runnerLives, grown.probes, grown.paired⟩

end Change

theorem Journal.ownership_ok {resource : Resource} {id : Uuid}
    {response : CreateResponse} {digest : Digest}
    (fresh : Documents.get? db.ownerships (resource, id) = none)
    (written : db.ownership resource id response digest = .ok next) :
    ∃ ownerships ownershipRows, next =
          { db with ownerships := ownerships, ownershipRows := ownershipRows } ∧
        Documents.Extends db.ownerships ownerships ∧
        (Documents.get? ownerships (resource, id)).isSome = true ∧
        (db.Paired → next.Paired) := by
  simp only [Journal.ownership, bind_ok, Journal.put_ok, ensure_ok] at written
  obtain ⟨ownerships, isWritten, _, _, result⟩ := written
  cases result
  refine ⟨_, _, rfl, .put isWritten, ?_, ?_⟩
  · rw [Documents.get?_put?_self isWritten]
    rfl
  · intro paired
    simp only [Documents.put?, fresh, Option.some.injEq] at isWritten
    subst isWritten
    rw [Journal.Paired] at paired ⊢
    simp only [paired, List.map_append, List.map_cons, List.map_nil]
    rfl

namespace Authority

variable {authority : Authority} {approval : RuntimeApproval}
  {now reading : Timestamp} {signed : Attestation CreateResponse}
  {provisioningUuid runId : Uuid} {bundle : Bundle}
  {enrollment : RuntimeEnrollment} {permit : StartPermit}
  {terminal : Terminal} {reason : String}

theorem isAwaited_ok
    (awaited : authority.isAwaited db row approval now = .ok true) :
    row.phase = .createRequested := by
  simp only [isAwaited] at awaited
  split at awaited
  · simp only [Except.ok.injEq, Bool.and_eq_true, beq_iff_eq] at awaited
    exact awaited.2
  · cases awaited
  · cases awaited

theorem recordOwnership_change (member : row ∈ db.objects)
    (fresh : Documents.get? db.ownerships (row.intent.resource, row.id) = none)
    (same : base = { db with clockHighwater := now }) (recorded :
      authority.recordOwnership base row approval signed now = .ok next) :
    Change reopened db next .plain := by
  subst same
  simp only [recordOwnership, bind_ok] at recorded
  obtain ⟨_, received, _, owned, awaited, isAwaited, updated⟩ := recorded
  obtain ⟨receipts, rfl⟩ := Journal.receipt_ok received
  obtain ⟨ownerships, ownershipRows, rfl, extended, recorded, paired⟩ :=
    Journal.ownership_ok (by exact fresh) owned
  obtain ⟨document, isDocument⟩ := Option.isSome_iff_exists.mp recorded
  have grown : Grown db
        { db with
          clockHighwater := now
          receipts := receipts
          ownerships := ownerships
          ownershipRows := ownershipRows } :=
    ⟨.refl _, .refl _, .refl _, extended, .refl _, .refl _, .refl _,
      .refl _, paired⟩
  simp only [updateOwned] at updated
  split at updated
  · rename_i isOpen
    have isResult := (Journal.update_ok updated).2
    refine .moves updated member
      (.owned awaited document fresh ?_ isOpen ?_) rfl rfl ⟨rfl, rfl⟩ grown
    · rw [isResult]
      exact isDocument
    · rintro rfl
      exact isAwaited_ok isAwaited
  · rename_i closed
    exact .moves updated member (.ownedLate fresh closed) rfl rfl
      ⟨rfl, rfl⟩ grown

theorem recordCreateResponse_change
    {permit : DispatchPermit} {containerId : String} (returned :
      authority.recordCreateResponse db permit signed reading =
        .ok (next, containerId)) :
    Change reopened db next .plain := by
  simp only [recordCreateResponse, bind_ok, Journal.now_ok] at returned
  obtain ⟨⟨row, approval⟩, isObject, _, _, _, _, _, _, _, _, _,
    ⟨_, _, rfl⟩, _, _, branch⟩ := returned
  obtain ⟨found, _, _⟩ := object_ok.mp isObject
  split at branch
  · obtain ⟨_, _, result⟩ := bind_ok.mp branch
    cases result
    exact .ofSame rfl rfl rfl
  · rename_i fresh
    obtain ⟨_, recorded, result⟩ := bind_ok.mp branch
    cases result
    exact recordOwnership_change (Journal.object?_some found).1 fresh rfl
      recorded

theorem verifyProvision_change (returned :
      authority.verifyProvision db provisioningUuid bundle reading = .ok next) :
    Change reopened db next .plain := by
  simp only [verifyProvision, bind_ok, Journal.now_ok, require_ok] at returned
  obtain ⟨⟨row, approval⟩, isObject, _, ⟨_, _, rfl⟩, _, _, _, phase, _, _,
    _, _, _, _, _, _, _, _, ⟨_, checked⟩, accepted, _, _, updated⟩ :=
    returned
  obtain ⟨found, _, _⟩ := object_ok.mp isObject
  obtain ⟨member, key⟩ := Journal.object?_some found
  obtain ⟨_, _, rfl⟩ := checkBundle_ok accepted
  exact .moves updated member (.verified (congrArg Prod.fst key) phase) rfl
    rfl ⟨rfl, rfl⟩ (.ofSame rfl)

theorem enroll_change {enrollmentUuid : Uuid} (returned :
      authority.enroll db provisioningUuid enrollmentUuid reading =
        .ok (next, enrollment)) :
    Change reopened db next .plain := by
  simp only [enroll, bind_ok] at returned
  obtain ⟨⟨row, approval⟩, isObject, branch⟩ := returned
  obtain ⟨found, _, _⟩ := object_ok.mp isObject
  obtain ⟨member, key⟩ := Journal.object?_some found
  split at branch
  · simp only [bind_ok, Journal.now_ok] at branch
    obtain ⟨_, _, _, ⟨_, _, rfl⟩, _, _, result⟩ := branch
    cases result
    exact .ofSame rfl rfl rfl
  · simp only [enrollNew, bind_ok, Journal.now_ok, require_ok] at branch
    obtain ⟨_, ⟨_, _, rfl⟩, _, _, _, phase, _, _, _, _, _, _, _, _, _, _, _,
      updated, result⟩ := branch
    cases result
    exact .moves updated member (.enrolled (congrArg Prod.fst key) phase)
      rfl rfl ⟨rfl, rfl⟩ (.ofSame rfl)

theorem reserveRun_change {request : RunRequest} {intentUuid : Uuid} (returned :
      authority.reserveRun db request enrollment intentUuid reading =
        .ok (next, runId)) :
    Change reopened db next .plain := by
  simp only [reserveRun, bind_ok, Journal.now_ok] at returned
  obtain ⟨_, _, _, ⟨_, _, rfl⟩, _, _, ⟨deduped, old⟩, isDeduped, branch⟩ :=
    returned
  obtain ⟨_, rfl⟩ := Journal.dedupe_ok isDeduped
  cases old with
  | some id =>
      cases branch
      exact .ofSame rfl rfl rfl
  | none =>
      simp only [reserveNew, bind_ok, Journal.put_ok] at branch
      obtain ⟨_, _, _, _, _, _, _, inserted, runEnrollments, written, _, _,
        result⟩ := branch
      cases result
      obtain ⟨absent, _, _, rfl⟩ := Journal.insert_ok inserted
      refine .inserted .run _ _ absent rfl (by simp) ?_ rfl rfl ⟨rfl, rfl⟩
        ⟨.refl _, .refl _, .refl _, .refl _, .put written, .refl _, .refl _,
          .refl _, fun paired => paired⟩
      intro _
      exact Option.isSome_iff_exists.mpr ⟨_, Documents.get?_put?_self written⟩

theorem checkTarget_change
    {phase : Phase} {signed : Option (Attestation RunnerObservation)}
    (returned :
      authority.checkTarget db runId phase bundle signed reading = .ok next) :
    Change reopened db next (.checked runId phase) := by
  simp only [checkTarget, bind_ok, Journal.now_ok, Journal.put_ok,
    require_ok] at returned
  obtain ⟨⟨row, approval⟩, isObject, _, ⟨_, _, rfl⟩, _, _, enrollment,
    enrolled, _, _, _, liveOnly, _, before, ⟨_, endpoint⟩, isRunner,
    ⟨_, checked⟩, accepted, phaseChecks, written, updated⟩ := returned
  obtain ⟨found, approved, _⟩ := object_ok.mp isObject
  obtain ⟨member, key⟩ := Journal.object?_some found
  obtain ⟨_, rfl⟩ := checkRunner_ok isRunner
  obtain ⟨target, _, rfl⟩ := checkBundle_ok accepted
  have isRun : row.kind = .run := congrArg Prod.fst key
  have id : row.id = runId := congrArg Prod.snd key
  subst id
  refine .writes updated member isRun
    (.checked phase approval enrollment checked isRun before approved
      liveOnly (enrollmentForRun_ok enrolled).1 target) rfl ?_ ⟨rfl, rfl⟩
    (.ofSame rfl)
  intro runId
  simp only [Journal.runDocs, Documents.get?_put? written, Prod.mk.injEq]
  split
  · rename_i same
    subst same
    congr 1
    funext other
    simp [Function.update_apply]
  · rename_i different
    simp [different]

theorem authorizeStart_change {permitUuid : Uuid} (returned :
      authority.authorizeStart db runId permitUuid reading =
        .ok (next, permit)) :
    Change reopened db next .plain := by
  simp only [authorizeStart, bind_ok, Journal.now_ok,
    Journal.get_ok, Journal.put_ok, require_ok] at returned
  obtain ⟨⟨row, approval⟩, isObject, _, ⟨_, _, rfl⟩, _, _, enrollment, _, _,
    _, _, phase, owned, isOwned, startPermits, written, _, updated,
    result⟩ := returned
  cases result
  obtain ⟨found, _, _⟩ := object_ok.mp isObject
  obtain ⟨member, key⟩ := Journal.object?_some found
  have isRun : row.kind = .run := congrArg Prod.fst key
  have id : row.id = runId := congrArg Prod.snd key
  subst id
  let issued : StartPermit :=
    { permitUuid := permitUuid
      runUuid := row.id
      enrollmentDigest := db.digest (.enrollment enrollment)
      runnerId := owned.receipt.containerId
      controlEpoch := row.epoch
      deadline := row.deadline }
  refine .writes updated member isRun
    (.authorized issued owned isRun phase isOwned rfl) rfl ?_ ⟨rfl, rfl⟩
    (.ofSame rfl)
  intro runId
  simp only [Journal.runDocs, Documents.get?_put? written]
  split
  · rename_i same
    rw [same]
  · rfl

theorem claimStart_change
    (returned : authority.claimStart db permit reading = .ok next) :
    Change reopened db next (.claimed (.start permit)) := by
  simp only [claimStart, bind_ok, Journal.now_ok,
    Journal.get_ok, Journal.put_ok, require_ok] at returned
  obtain ⟨⟨row, approval⟩, isObject, _, ⟨_, _, rfl⟩, _, _, _, _, _, phase,
    _, issued, _, rfl, startDispatches, written, updated⟩ := returned
  obtain ⟨found, _, _⟩ := object_ok.mp isObject
  obtain ⟨member, key⟩ := Journal.object?_some found
  have isRun : row.kind = .run := congrArg Prod.fst key
  have id : row.id = _ := congrArg Prod.snd key
  refine .writes updated member isRun
    (.claimed _ isRun phase issued id.symm) rfl ?_ ⟨rfl, rfl⟩
    ⟨.refl _, .refl _, .refl _, .refl _, .refl _, .put written, .refl _,
      .refl _, fun paired => paired⟩
  intro runId
  simp only [Journal.runDocs, Documents.get?_put? written]
  split
  · rename_i same
    rw [same]
  · rfl

theorem enterCreate_ok {permit : DispatchPermit}
    (entered : authority.enterCreate db permit reading = .ok next) :
    next = { db with clockHighwater := reading } := by
  simp only [enterCreate, bind_ok, Journal.now_ok] at entered
  obtain ⟨_, _, _, ⟨_, _, rfl⟩, _, _, _, _, result⟩ := entered
  cases result
  rfl

theorem enterTargetStart_ok (entered :
      authority.enterTargetStart db provisioningUuid reading = .ok next) :
    next = { db with clockHighwater := reading } := by
  simp only [enterTargetStart, bind_ok, Journal.now_ok] at entered
  obtain ⟨_, _, _, ⟨_, _, rfl⟩, _, _, _, _, result⟩ := entered
  cases result
  rfl

theorem enterStart_ok {second : Timestamp}
    (entered : authority.enterStart db permit reading second = .ok next) :
    next = { db with clockHighwater := reading } := by
  simp only [enterStart, bind_ok, Journal.now_ok] at entered
  obtain ⟨_, _, _, ⟨_, _, rfl⟩, _, _, _, _, result⟩ := entered
  cases result
  rfl

theorem leaveStart_change
    (left : leaveStart { db with clockHighwater := reading } permit.runUuid =
        .ok next) :
    Change reopened db next (.entered (.start permit)) := by
  simp only [leaveStart, bind_ok, required_ok] at left
  obtain ⟨row, found, updated⟩ := left
  obtain ⟨member, key⟩ := Journal.object?_some found
  exact .moves updated member
    (.invoked permit (congrArg Prod.fst key) (congrArg Prod.snd key).symm)
    rfl rfl ⟨rfl, rfl⟩ (.ofSame rfl)

theorem recordRunnerLive_change {signed : Attestation RunnerObservation}
    (returned : authority.recordRunnerLive db runId signed reading = .ok next) :
    Change reopened db next .plain := by
  simp only [recordRunnerLive, bind_ok, Journal.now_ok,
    Journal.put_ok, require_ok] at returned
  obtain ⟨⟨row, approval⟩, isObject, _, ⟨_, _, rfl⟩, _, _, _, _, _, phase,
    actual, accepted, _, received, runnerLives, written, updated⟩ :=
    returned
  obtain ⟨_, rfl⟩ := Journal.receipt_ok received
  obtain ⟨owned, isOwned, runner⟩ := runner_ok accepted
  obtain ⟨found, _, _⟩ := object_ok.mp isObject
  obtain ⟨member, key⟩ := Journal.object?_some found
  have isRun : row.kind = .run := congrArg Prod.fst key
  have id : row.id = runId := congrArg Prod.snd key
  subst id
  refine .writes updated member isRun
    (.live actual.payload owned isRun phase isOwned runner) rfl ?_
    ⟨rfl, rfl⟩
    ⟨.refl _, .refl _, .refl _, .refl _, .refl _, .refl _, .put written,
      .refl _, fun paired => paired⟩
  intro runId
  simp only [Journal.runDocs, Documents.get?_put? written]
  split
  · rename_i same
    rw [same]
  · rfl

theorem verifyCommon_ok
    {α : Type} {role : Role} {common : α → Common} {receipt : Attestation α}
    {payload : α} (verified :
      authority.verifyCommon role common receipt approval = .ok payload) :
    payload = receipt.payload := by
  simp only [verifyCommon, verify, bind_ok] at verified
  obtain ⟨_, _, _, _, _, _, result⟩ := verified
  cases result
  rfl

theorem fresh_ok {common : Common} {context : Uuid} {result : Unit}
    (isFresh : Journal.fresh_ common context now = .ok result) :
    common.contextUuid = context :=
  (require_ok.mp isFresh).1

theorem recordProbe_change {signed : Attestation ProbeResponse}
    (returned : authority.recordProbe db runId signed reading = .ok next) :
    Change reopened db next (.probed runId signed) := by
  simp only [recordProbe, bind_ok, Journal.now_ok, Journal.get_ok,
    Journal.put_ok, require_ok] at returned
  obtain ⟨⟨row, approval⟩, isObject, _, ⟨_, _, rfl⟩, _, _, _, _, _, phase,
    probe, verified, _, isFresh, owned, isOwned, _, same, _, received,
    probes, written, updated⟩ := returned
  obtain ⟨_, rfl⟩ := Journal.receipt_ok received
  have isPayload := verifyCommon_ok verified
  subst isPayload
  obtain ⟨found, approved, _⟩ := object_ok.mp isObject
  obtain ⟨member, key⟩ := Journal.object?_some found
  have isRun : row.kind = .run := congrArg Prod.fst key
  have id : row.id = runId := congrArg Prod.snd key
  subst id
  let document : ProbeDocument :=
    { outcome := probeOutcome db approval signed.payload
      receiptDigest := signed.digest
      observedAt := signed.payload.common.observedAt }
  refine .writes updated member isRun
    (.probed approval document signed owned isRun approved phase isOwned
      ⟨rfl, fresh_ok isFresh, same.1⟩) rfl ?_ ⟨rfl, rfl⟩
    ⟨.refl _, .refl _, .refl _, .refl _, .refl _, .refl _, .refl _,
      .put written, fun paired => paired⟩
  intro runId
  simp only [Journal.runDocs, Documents.get?_put? written]
  split
  · rename_i same
    rw [same]
    rfl
  · rfl

theorem recordRunnerFinished_change
    {signed : Attestation RunnerObservation} (returned :
      authority.recordRunnerFinished db runId signed reading = .ok next) :
    Change reopened db next .plain := by
  simp only [recordRunnerFinished, bind_ok, Journal.now_ok] at returned
  obtain ⟨_, _, _, ⟨_, _, rfl⟩, _, _, _, _, _, _, _, _, _, _, _, received,
    _, _, result⟩ := returned
  obtain ⟨_, rfl⟩ := Journal.receipt_ok received
  cases result
  exact .ofSame rfl rfl rfl

theorem terminal_change
    {result : Verdict} (member : row ∈ db.objects) (isRun : row.kind = .run)
    (same : base = { db with clockHighwater := reading })
    (published : result ≠ .unknown → ∃ publisher approval enrollment,
        IsPublication db row publisher approval enrollment reading)
    (closed :
      authority.terminal base row result reason now = .ok (next, terminal)) :
    Change reopened db next .plain := by
  subst same
  rcases terminal_ok closed with ⟨_, rfl⟩ | ⟨isOpen, isResult, rfl⟩
  · exact .ofSame rfl rfl rfl
  · refine .moved .plain row _ member
      (.terminated terminal isRun isOpen ?_) ?_ rfl ?_ ⟨rfl, rfl⟩
      (.ofSame rfl)
    · rw [isResult]
      exact published
    · exact fun stored => (stored isOpen).elim
    · intro runId
      split
      · rename_i same
        rw [same.2]
        rfl
      · rfl

/-- Closing a run as unknown is a plain change. -/
theorem unknown_change (returned :
      authority.unknown db runId reason reading = .ok (next, terminal)) :
    Change reopened db next .plain := by
  simp only [unknown, bind_ok, Journal.now_ok] at returned
  obtain ⟨⟨row, approval⟩, isObject, _, ⟨_, _, isNow⟩, closed⟩ := returned
  obtain ⟨found, _, _⟩ := object_ok.mp isObject
  obtain ⟨member, key⟩ := Journal.object?_some found
  exact terminal_change member (congrArg Prod.fst key) isNow
    (fun known => (known rfl).elim) closed

theorem publish_change
    (returned : authority.publish db runId reading = .ok (next, terminal)) :
    Change reopened db next .plain := by
  simp only [publish, bind_ok] at returned
  obtain ⟨⟨row, approval⟩, isObject, branch⟩ := returned
  obtain ⟨found, approved, _⟩ := object_ok.mp isObject
  obtain ⟨member, key⟩ := Journal.object?_some found
  split at branch
  · cases branch
    exact .ofSame rfl rfl rfl
  · simp only [publishOpen, bind_ok, Journal.now_ok, require_ok,
      currentRow_ok] at branch
    obtain ⟨_, ⟨_, _, isNow⟩, _, current, enrollment, enrolled, _, phase, _,
      _, _, _, _, _, closed⟩ := branch
    subst isNow
    obtain ⟨reserved, provisioned, isEnrolled⟩ := enrollmentForRun_ok enrolled
    exact terminal_change member (congrArg Prod.fst key) rfl (fun _ =>
        ⟨authority, approval, enrollment, phase, approved, current.of_now,
          reserved, provisioned, isEnrolled.of_now⟩)
      closed

theorem expireRun_change
    (returned : authority.expireRun db runId reading = .ok next) :
    Change reopened db next .plain := by
  simp only [expireRun, bind_ok, Journal.now_ok] at returned
  obtain ⟨⟨row, approval⟩, isObject, _, ⟨_, _, isNow⟩, branch⟩ := returned
  obtain ⟨found, _, _⟩ := object_ok.mp isObject
  obtain ⟨member, key⟩ := Journal.object?_some found
  split at branch
  · cases branch
    subst isNow
    exact .ofSame rfl rfl rfl
  · obtain ⟨_, closed, result⟩ := bind_ok.mp branch
    cases result
    exact terminal_change member (congrArg Prod.fst key) isNow
      (fun known => (known rfl).elim) closed
  · cases branch

/-- A confirmation of a cleanup changes the cleanup only. -/
theorem recordCleanup_change {signed : Attestation CleanupConfirmation}
    (returned : authority.recordCleanup db signed reading = .ok next) :
    Change reopened db next .plain := by
  simp only [recordCleanup, bind_ok, Journal.now_ok, Journal.get_ok,
    require_ok] at returned
  obtain ⟨⟨row, approval⟩, isObject, _, _, _, ⟨_, _, rfl⟩, _, _, owned,
    isOwned, _, _, _, isClosed, _, _, _, received, _, _, updated⟩ :=
    returned
  obtain ⟨_, rfl⟩ := Journal.receipt_ok received
  obtain ⟨found, _, _⟩ := object_ok.mp isObject
  exact .moves updated (Journal.object?_some found).1
    (.cleaned isClosed (Option.isSome_iff_exists.mpr ⟨owned, isOwned⟩)) rfl
    rfl ⟨rfl, rfl⟩ (.ofSame rfl)

end Authority

end TicketSandbox.Runtime
