import TicketSandbox.Runtime.Changes

namespace TicketSandbox.Runtime

/-!
# What the transactions of the authority change

One lemma for each transaction: when it returns, the journal it leaves is one
of the changes.
-/

open Raises
open Sandbox (Timestamp)
open Authority

/-- The tables that `Grown` compares. -/
def Journal.tables (db : Journal) :=
  ((db.approvals, db.createDispatches, db.targetStartDispatches,
    db.ownerships, db.ownershipRows),
    (db.digest, db.runEnrollments, db.startDispatches, db.runnerLives,
      db.probes))

variable {old new : Journal} {reopened : Option (Kind × Uuid)}

namespace Grown

theorem ofSame (same : new.tables = old.tables) : Grown old new := by
  simp only [Journal.tables, Prod.mk.injEq] at same
  obtain ⟨⟨approvals, createDispatches, targetStartDispatches, ownerships,
    ownershipRows⟩, digest, runEnrollments, startDispatches, runnerLives,
    probes⟩ := same
  constructor
  · exact approvals ▸ .refl _
  · exact createDispatches ▸ .refl _
  · exact targetStartDispatches ▸ .refl _
  · exact ownerships ▸ .refl _
  · exact runEnrollments ▸ .refl _
  · exact startDispatches ▸ .refl _
  · exact runnerLives ▸ .refl _
  · exact probes ▸ .refl _
  · intro paired
    rw [Journal.Paired, ownershipRows, ownerships, digest]
    exact paired

end Grown

namespace Change

theorem ofSame
    (objects : new.objects = old.objects) (docs : new.runDocs = old.runDocs)
    (tables : new.tables = old.tables) :
    Change reopened old new .plain := by
  refine .quiet .plain (.inl rfl) objects docs ?_ (.ofSame tables)
  simp only [Journal.tables, Prod.mk.injEq] at tables
  exact ⟨tables.1.2.1, tables.1.2.2.1⟩

/-- An update moves one object and writes no document. -/
theorem moves {base : Journal} {label : Label} {row : RuntimeObject}
    {phase : ObjectPhase} {cleanup : Cleanup} {terminal : Option Terminal}
    (updated : base.update row phase cleanup terminal = .ok new)
    (member : row ∈ old.objects) (how : RowChange reopened old new row label
        ⟨phase, cleanup, terminal, old.runDocs row.id⟩)
    (objects : base.objects = old.objects)
    (docs : base.runDocs = old.runDocs)
    (dispatches : SameDispatches old base) (grown : Grown old base) :
    Change reopened old new label := by
  obtain ⟨frozen, rfl⟩ := Journal.update_ok updated
  refine .moved label row _ member how frozen ?_ ?_ dispatches ?_
  · simp only [Journal.moved, objects]
  · intro runId
    split
    · rename_i same
      rw [same.2]
      exact congrFun docs row.id
    · exact congrFun docs runId
  · exact ⟨grown.approvals, grown.createDispatches, grown.targetStartDispatches,
        grown.ownerships, grown.runEnrollments, grown.startDispatches,
        grown.runnerLives, grown.probes, grown.paired⟩

end Change

namespace Authority

variable {authority : Authority} {db next : Journal} {reading : Timestamp}
  {intent : CreateIntent} {receipt : Attestation DaemonObservation}
  {permit : DispatchPermit}

/-- An approval is only added. -/
theorem registerApproval_change {signed : Attestation RuntimeApproval}
    (returned : authority.registerApproval db signed reading = .ok next) :
    Change reopened db next .plain := by
  simp only [registerApproval, bind_ok, Journal.now_ok,
    Journal.put_ok] at returned
  obtain ⟨_, _, _, _, _, _, _, ⟨_, _, rfl⟩, _, _, _, _, _, received,
    approvals, written, result⟩ := returned
  obtain ⟨_, rfl⟩ := Journal.receipt_ok received
  cases result
  exact .quiet .plain (.inl rfl) rfl rfl ⟨rfl, rfl⟩
    ⟨.put written, .refl _, .refl _, .refl _, .refl _, .refl _, .refl _,
      .refl _, id⟩

theorem setEnabled_change
    {enabled : Bool} (returned : setEnabled db enabled reading = .ok next) :
    Change reopened db next .plain := by
  simp only [setEnabled, bind_ok, Journal.now_ok] at returned
  obtain ⟨_, ⟨_, _, rfl⟩, result⟩ := returned
  cases result
  exact .ofSame rfl rfl rfl

theorem revoke_eq (db : Journal) (revoked : Revoked) :
    ∃ revocations,
      revoke db revoked = { db with revocations := revocations } := by
  simp only [revoke]
  split
  · exact ⟨_, rfl⟩
  · exact ⟨_, rfl⟩

theorem revokeApproval_change {approvalUuid : Uuid}
    (returned : authority.revokeApproval db approvalUuid reading = .ok next) :
    Change reopened db next .plain := by
  simp only [revokeApproval, bind_ok, Journal.now_ok] at returned
  obtain ⟨_, _, _, ⟨_, _, rfl⟩, result⟩ := returned
  cases result
  obtain ⟨_, shape⟩ := revoke_eq
    { db with clockHighwater := reading } (.approval approvalUuid)
  rw [shape]
  exact .ofSame rfl rfl rfl

theorem provision_change
    {request : ProvisionRequest} {uuids : Uuids} (returned :
      authority.provision db request uuids reading = .ok (next, intent)) :
    Change reopened db next .plain := by
  simp only [provision, bind_ok, Journal.now_ok] at returned
  obtain ⟨approval, approved, _, ⟨_, _, rfl⟩, ⟨deduped, old⟩, isDeduped,
    branch⟩ := returned
  obtain ⟨_, rfl⟩ := Journal.dedupe_ok isDeduped
  cases old with
  | some id =>
      obtain ⟨_, _, result⟩ := bind_ok.mp branch
      cases result
      exact .ofSame rfl rfl rfl
  | none =>
      simp only [provisionNew, bind_ok, Journal.circuit_ok,
        require_ok] at branch
      obtain ⟨_, _, _, _, _, capacity, _, inserted, result⟩ := branch
      cases result
      obtain ⟨absent, _, _, rfl⟩ := Journal.insert_ok inserted
      exact .inserted .target _ _ absent rfl (fun _ => capacity) (by simp) rfl
        rfl ⟨rfl, rfl⟩ (.ofSame rfl)

theorem beginCreate_change {permitUuid : Uuid} (returned :
      authority.beginCreate db intent receipt permitUuid reading =
        .ok (next, permit)) :
    Change reopened db next .plain := by
  simp only [beginCreate, bind_ok, Journal.now_ok,
    Journal.put_ok, require_ok] at returned
  obtain ⟨⟨row, approval⟩, isObject, _, _, _, ⟨_, _, rfl⟩, _, _, _, _, _,
    idle, _, _, _, received, _, _, _, updated, result⟩ := returned
  obtain ⟨_, rfl⟩ := daemonReceipt_ok received
  cases result
  obtain ⟨found, _, _⟩ := object_ok.mp isObject
  obtain ⟨member, key⟩ := Journal.object?_some found
  have kind : row.kind = intent.resource.kind := congrArg Prod.fst key
  rw [← kind] at idle
  exact .moves updated member (.requested idle) rfl rfl ⟨rfl, rfl⟩ (.ofSame rfl)

theorem claims_put {κ α : Type} [DecidableEq κ] {digested : α → Digested}
    {table next : Documents.Table κ α} {key : κ} {document : α}
    (absent : Documents.get? table key = none) (written :
      Documents.put? (fun other => db.digest (digested other)) table key
        document = some next) :
    Claims table next key := by
  refine ⟨absent, ?_, ?_⟩
  · rw [Documents.get?_put?_self written]
    rfl
  · intro other different
    rw [Documents.get?_put? written, if_neg different]

theorem claimCreate_change
    (returned : authority.claimCreate db permit reading = .ok next) :
    Change reopened db next (.claimed (.create permit)) := by
  simp only [claimCreate, bind_ok, Journal.now_ok,
    Journal.put_ok, require_ok] at returned
  obtain ⟨⟨row, approval⟩, isObject, _, ⟨_, _, rfl⟩, _, _, _, _, _, _, _,
    unclaimed, _, _, _, written, result⟩ := returned
  cases result
  obtain ⟨found, _, _⟩ := object_ok.mp isObject
  have id : row.id = permit.intentUuid :=
    congrArg Prod.snd (Journal.object?_some found).2
  rw [id] at unclaimed written
  exact .claimedCreate permit (claims_put unclaimed.2 written) rfl rfl rfl
    ⟨.refl _, .put written, .refl _, .refl _, .refl _, .refl _, .refl _,
      .refl _, fun paired => paired⟩

theorem claimTargetStart_change {provisioningUuid : Uuid} (returned :
      authority.claimTargetStart db provisioningUuid receipt reading =
        .ok next) :
    Change reopened db next (.claimed (.targetStart provisioningUuid)) := by
  simp only [claimTargetStart, bind_ok, Journal.now_ok,
    Journal.put_ok, require_ok] at returned
  obtain ⟨⟨row, approval⟩, isObject, _, ⟨_, _, rfl⟩, _, _, _, unclaimed,
    _, received, _, _, _, written, result⟩ := returned
  obtain ⟨_, rfl⟩ := daemonReceipt_ok received
  cases result
  obtain ⟨found, _, _⟩ := object_ok.mp isObject
  have id : row.id = provisioningUuid :=
    congrArg Prod.snd (Journal.object?_some found).2
  rw [id] at unclaimed written
  exact .claimedTargetStart provisioningUuid
    (claims_put unclaimed.2 written) rfl rfl rfl
    ⟨.refl _, .refl _, .put written, .refl _, .refl _, .refl _, .refl _,
      .refl _, fun paired => paired⟩

theorem quarantine_change {intentUuid : Uuid} {resource : Resource} (returned :
      authority.quarantine db intentUuid resource reading = .ok next) :
    Change (some (resource.kind, intentUuid)) db next .plain := by
  simp only [quarantine, bind_ok, Journal.now_ok] at returned
  obtain ⟨⟨row, approval⟩, isObject, _, ⟨_, _, rfl⟩, branch⟩ := returned
  obtain ⟨found, _, _⟩ := object_ok.mp isObject
  obtain ⟨member, key⟩ := Journal.object?_some found
  split at branch
  · rename_i isOpen
    exact .moves branch member (.quarantined (congrArg some key.symm) isOpen)
      rfl rfl ⟨rfl, rfl⟩ (.ofSame rfl)
  · cases branch
    exact .ofSame rfl rfl rfl

theorem revokeBinding_change {enrollment : RuntimeEnrollment}
    (returned : authority.revokeBinding db enrollment reading = .ok next) :
    Change (some (.target, enrollment.provisioningUuid)) db next .plain := by
  simp only [revokeBinding, bind_ok, Journal.now_ok] at returned
  obtain ⟨_, _, _, _, ⟨row, approval⟩, isObject, _, ⟨_, _, rfl⟩, branch⟩ :=
    returned
  obtain ⟨found, _, _⟩ := object_ok.mp isObject
  obtain ⟨member, key⟩ := Journal.object?_some found
  obtain ⟨_, shape⟩ := revoke_eq { db with clockHighwater := reading }
    (.binding enrollment.target.runtimeBindingUuid)
  rw [shape] at branch
  exact .moves branch member
    (.revoked (congrArg some key.symm) (congrArg Prod.fst key)) rfl rfl
    ⟨rfl, rfl⟩ (.ofSame rfl)

end Authority

end TicketSandbox.Runtime
