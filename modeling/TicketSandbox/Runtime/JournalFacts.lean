import TicketSandbox.Runtime.Executions

namespace TicketSandbox.Runtime

/-!
# What the parts of a transaction did

One lemma for each part, from what it answered to what it required and what
it left in the journal.
-/

open Raises
open Sandbox (Timestamp)

variable {reason purpose : String} {db next : Journal} {kind : Kind}
  {id context : Uuid} {row : RuntimeObject}

/-- A requirement succeeds when its condition holds. -/
theorem require_ok {condition : Prop} [Decidable condition] {result : Unit} :
    require condition reason = .ok result ↔ condition :=
  ensure_ok

namespace Journal

/-- The journal with another phase, cleanup and terminal of a row. -/
def moved (db : Journal) (row : RuntimeObject) (phase : ObjectPhase)
    (cleanup : Cleanup) (terminal : Option Terminal) : List RuntimeObject :=
  Rows.modify RuntimeObject.key row.key (fun _ =>
      { row with phase := phase, cleanup := cleanup, terminal := terminal })
    db.objects

/-- An object that is found has the key. -/
theorem object?_some (found : db.object? kind id = some row) :
    row ∈ db.objects ∧ row.key = (kind, id) :=
  ⟨List.mem_of_find?_eq_some found, by simpa using List.find?_some found⟩

/-- A reading is not behind the high-water mark. -/
theorem now_ok {reading : Timestamp} :
    db.now reading = .ok next ↔ 0 < reading ∧ db.clockHighwater ≤ reading ∧
        next = { db with clockHighwater := reading } := by
  simp only [now, bind_ok, require_ok]
  constructor
  · rintro ⟨_, positive, _, notBehind, result⟩
    cases result
    exact ⟨positive, notBehind, rfl⟩
  · rintro ⟨positive, notBehind, rfl⟩
    exact ⟨(), positive, (), notBehind, rfl⟩

theorem put_ok {κ α : Type} [DecidableEq κ] {digested : α → Digested}
    {table next : Documents.Table κ α} {key : κ} {document : α} :
    db.put digested table key document = .ok next ↔
      Documents.put? (fun other => db.digest (digested other)) table key
        document = some next :=
  required_ok

theorem get_ok {κ α : Type} [DecidableEq κ] {table : Documents.Table κ α}
    {key : κ} {document : α} :
    Journal.get table key = .ok document ↔
      Documents.get? table key = some document :=
  required_ok

theorem receipt_ok {digest : Digest}
    (received : db.receipt id digest context purpose = .ok next) :
    ∃ receipts, next = { db with receipts := receipts } := by
  simp only [receipt] at received
  split at received
  · simp only [bind_ok, require_ok] at received
    obtain ⟨_, _, result⟩ := received
    cases result
    exact ⟨_, rfl⟩
  · cases received
    exact ⟨_, rfl⟩

theorem update_ok
    {phase : ObjectPhase} {cleanup : Cleanup} {terminal : Option Terminal}
    (updated : db.update row phase cleanup terminal = .ok next) :
    (row.terminal ≠ none → terminal = row.terminal ∧ phase = row.phase) ∧
      next = { db with objects := db.moved row phase cleanup terminal } := by
  simp only [update, bind_ok, ensure_ok] at updated
  obtain ⟨_, frozen, result⟩ := updated
  cases result
  exact ⟨frozen, rfl⟩

theorem circuit_ok {exclude : Option (Kind × Uuid)} {result : Unit} :
    db.circuit exclude = .ok result ↔
      ∀ row ∈ db.objects, exclude ≠ some row.key → opensCircuit row = false :=
  require_ok

variable {requestUuid : Uuid} {canonical fingerprint : Digest}

theorem dedupe_ok {old : Option Uuid} (deduped :
      db.dedupe kind requestUuid canonical fingerprint = .ok (next, old)) :
    ∃ requests, next = { db with requests := requests } := by
  simp only [dedupe] at deduped
  split at deduped
  · simp only [bind_ok, require_ok] at deduped
    obtain ⟨_, _, result⟩ := deduped
    cases result
    exact ⟨_, rfl⟩
  · split at deduped
    · simp only [bind_ok, require_ok] at deduped
      obtain ⟨_, _, result⟩ := deduped
      cases result
      exact ⟨_, rfl⟩
    · cases deduped
      exact ⟨_, rfl⟩

theorem insert_ok {intent : CreateIntent} (inserted :
      db.insert kind intent canonical requestUuid fingerprint = .ok next) :
    db.object? kind intent.intentUuid = none ∧ ∃ claims requests, next =
          { db with
            objects :=
              db.objects ++ [newObject kind intent fingerprint db.epoch]
            claims := claims
            requests := requests } := by
  simp only [insert, bind_ok, ensure_ok] at inserted
  obtain ⟨_, absent, result⟩ := inserted
  cases result
  exact ⟨absent, _, _, rfl⟩

end Journal

namespace Authority

variable {authority : Authority} {approval : RuntimeApproval}
  {now reading : Timestamp} {enrollment : RuntimeEnrollment} {phase : Phase}
  {bundle : Bundle} {endpoint : Option Endpoint}
  {signed : Option (Attestation RunnerObservation)}

theorem object_ok :
    authority.object db kind id = .ok (row, approval) ↔
      db.object? kind id = some row ∧
        Documents.get? db.approvals row.intent.approvalUuid = some approval ∧
        approval.operatorPrincipal = authority.operator := by
  simp only [object, Authority.approval, bind_ok,
    required_ok, Journal.get_ok, require_ok]
  constructor
  · rintro ⟨found, isFound, saved, ⟨_, isSaved, _, same, rest⟩, result⟩
    cases rest
    cases result
    exact ⟨isFound, isSaved, same⟩
  · rintro ⟨isFound, isSaved, same⟩
    exact ⟨row, isFound, approval, ⟨approval, isSaved, (), same, rfl⟩, rfl⟩

/-- What `_current` requires without a row. -/
structure IsCurrent
    (authority : Authority) (db : Journal) (approval : RuntimeApproval)
    (now : Timestamp) : Prop where
  notStopped : approval.isLive = false ∨ db.stopRequested = false
  daemon : approval.daemon = authority.daemon
  created : approval.createdAt ≤ now
  unexpired : now < approval.expiresAt
  notRevoked : .approval approval.approvalUuid ∉ db.revocations
  enabled : db.enabled = true

theorem current_ok {result : Unit} :
    authority.current db approval now = .ok result ↔
      IsCurrent authority db approval now := by
  simp only [current, bind_ok, require_ok]
  constructor
  · rintro ⟨_, notStopped, _, daemon, _, times, _, notRevoked, enabled⟩
    exact ⟨notStopped, daemon, times.1, times.2, notRevoked, enabled⟩
  · rintro ⟨notStopped, daemon, created, unexpired, notRevoked, enabled⟩
    exact ⟨(), notStopped, (), daemon, (), ⟨created, unexpired⟩, (),
        notRevoked, enabled⟩

/-- What `_current` requires of a row. -/
structure IsCurrentRow
    (authority : Authority) (db : Journal) (approval : RuntimeApproval)
    (now : Timestamp) (row : RuntimeObject) : Prop where
  current : IsCurrent authority db approval now
  epoch : row.epoch = db.epoch
  deadline : now < row.deadline

theorem currentRow_ok {result : Unit} :
    authority.currentRow db approval now row = .ok result ↔
      IsCurrentRow authority db approval now row := by
  simp only [currentRow, bind_ok, current_ok, require_ok]
  constructor
  · rintro ⟨_, isCurrent, _, epoch, deadline⟩
    exact ⟨isCurrent, epoch, deadline⟩
  · rintro ⟨isCurrent, epoch, deadline⟩
    exact ⟨(), isCurrent, (), epoch, deadline⟩

theorem IsCurrentRow.of_now (current :
      IsCurrentRow authority { db with clockHighwater := reading } approval
        now row) :
    IsCurrentRow authority db approval now row :=
  ⟨⟨current.current.notStopped, current.current.daemon,
      current.current.created, current.current.unexpired,
      current.current.notRevoked, current.current.enabled⟩,
    current.epoch, current.deadline⟩

theorem daemonReceipt_ok {receipt : Attestation DaemonObservation} (received :
      authority.daemonReceipt db approval receipt context purpose now =
        .ok next) :
    ∃ receipts, next = { db with receipts := receipts } := by
  simp only [daemonReceipt, bind_ok] at received
  obtain ⟨_, _, _, _, _, _, kept⟩ := received
  exact Journal.receipt_ok kept

/-- What `_verify_enrollment` requires. -/
structure IsEnrolled
    (authority : Authority) (db : Journal) (enrollment : RuntimeEnrollment)
    (approval : RuntimeApproval) (now : Timestamp) : Prop where
  issued :
    Documents.get? db.enrollments enrollment.provisioningUuid = some enrollment
  enrolled : ∃ row, db.object? .target enrollment.provisioningUuid = some row ∧
        row.phase = .enrolled ∧
        Documents.get? db.approvals row.intent.approvalUuid = some approval
  notRevoked : .binding enrollment.target.runtimeBindingUuid ∉ db.revocations
  current : IsCurrent authority db approval now

theorem IsEnrolled.of_now (enrolled :
      IsEnrolled authority { db with clockHighwater := reading } enrollment
        approval now) :
    IsEnrolled authority db enrollment approval now :=
  ⟨enrolled.issued, enrolled.enrolled, enrolled.notRevoked,
    ⟨enrolled.current.notStopped, enrolled.current.daemon,
      enrolled.current.created, enrolled.current.unexpired,
      enrolled.current.notRevoked, enrolled.current.enabled⟩⟩

theorem verifyEnrollment_ok
    (verified : authority.verifyEnrollment db enrollment now = .ok approval) :
    IsEnrolled authority db enrollment approval now := by
  simp only [verifyEnrollment, bind_ok, Journal.get_ok,
    require_ok, current_ok] at verified
  obtain ⟨saved, isSaved, _, same, ⟨row, found⟩, isObject, _, _, _,
    enrolled, _, isCurrent, result⟩ := verified
  obtain ⟨isRow, isApproval, _⟩ := object_ok.mp isObject
  cases result
  subst same
  exact ⟨isSaved, ⟨row, isRow, enrolled.1, isApproval⟩, enrolled.2, isCurrent⟩

theorem enrollmentForRun_ok
    (found : authority.enrollmentForRun db row now = .ok enrollment) :
    Documents.get? db.runEnrollments row.id = some enrollment ∧
      ∃ approval, IsEnrolled authority db enrollment approval now := by
  simp only [enrollmentForRun, bind_ok, Journal.get_ok] at found
  obtain ⟨saved, isSaved, approval, verified, result⟩ := found
  cases result
  exact ⟨isSaved, approval, verifyEnrollment_ok verified⟩

theorem receiveBundle_ok
    (received : receiveBundle db context phase bundle = .ok next) :
    ∃ receipts, next = { db with receipts := receipts } := by
  simp only [receiveBundle, bind_ok] at received
  obtain ⟨first, isFirst, second, isSecond, third, isThird, isLast⟩ := received
  obtain ⟨_, rfl⟩ := Journal.receipt_ok isFirst
  obtain ⟨_, rfl⟩ := Journal.receipt_ok isSecond
  obtain ⟨_, rfl⟩ := Journal.receipt_ok isThird
  obtain ⟨receipts, rfl⟩ := Journal.receipt_ok isLast
  exact ⟨receipts, rfl⟩

theorem checkBundle_ok
    {snapshot : TargetSnapshot} {checked : Checked} (accepted :
      authority.checkBundle db context phase approval snapshot bundle now
        endpoint = .ok (next, checked)) :
    checked.target = snapshot ∧
      ∃ receipts, next = { db with receipts := receipts } := by
  simp only [checkBundle, bind_ok] at accepted
  obtain ⟨_, _, _, _, _, _, _, _, _, _, _, _, kept, received, result⟩ :=
    accepted
  cases result
  exact ⟨rfl, receiveBundle_ok received⟩

theorem runner_ok
    {created : Bool} {actual : Attestation RunnerObservation} (accepted :
      authority.runner db row approval signed now created = .ok actual) :
    ∃ owned, Documents.get? db.ownerships (.runner, row.id) = some owned ∧
        actual.payload.containerId = owned.receipt.containerId := by
  simp only [runner, bind_ok, required_ok, Journal.get_ok,
    require_ok, verifyCommon, verify] at accepted
  obtain ⟨given, _, observed, verified, _, _, owned, isOwned, _, same,
    branch⟩ := accepted
  obtain ⟨_, _, _, _, _, _, isObserved⟩ := verified
  cases isObserved
  have isActual : given = actual := by
    split at branch
    · obtain ⟨_, _, result⟩ := bind_ok.mp branch
      cases result
      rfl
    · obtain ⟨_, _, result⟩ := bind_ok.mp branch
      cases result
      rfl
  rw [← isActual]
  exact ⟨owned, isOwned, same.1.1⟩

theorem checkRunner_ok
    (accepted : authority.checkRunner db row approval phase signed now =
        .ok (next, endpoint)) :
    ∃ receipts, next = { db with receipts := receipts } := by
  simp only [checkRunner] at accepted
  split at accepted
  · cases accepted
    exact ⟨_, rfl⟩
  · simp only [bind_ok] at accepted
    obtain ⟨_, _, _, received, result⟩ := accepted
    cases result
    exact Journal.receipt_ok received

theorem terminal_ok {result : Verdict} {terminal : Terminal} (closed :
      authority.terminal db row result reason now = .ok (next, terminal)) :
    (row.terminal = some terminal ∧ next = db) ∨
      (row.terminal = none ∧ terminal.result = result ∧ next =
          { db with
            objects := db.moved row .terminal (terminalCleanup db row.id)
                (some terminal) }) := by
  simp only [Authority.terminal] at closed
  split at closed
  · rename_i stored isStored
    cases closed
    exact .inl ⟨isStored, rfl⟩
  · rename_i isOpen
    simp only [bind_ok] at closed
    obtain ⟨approval, _, updated, isUpdated, isResult⟩ := closed
    cases isResult
    exact .inr ⟨isOpen, rfl, (Journal.update_ok isUpdated).2⟩

end Authority

end TicketSandbox.Runtime
