import TicketSandbox.Runtime.Callers
import TicketSandbox.Runtime.JournalFacts

namespace TicketSandbox.Runtime

/-!
# What a transaction changes

Every committed transaction leaves the objects alone, inserts one, or moves
one.  The move says what it required of the row and which documents of the run
it wrote; all tables of documents only grow.
-/

open Sandbox (Timestamp)
open Authority

/-- The documents of one run that its phases go by. -/
structure RunDocs where
  checks : Phase → Option Checked
  startPermit : Option StartPermit
  startDispatch : Option StartPermit
  runnerLive : Option RunnerObservation
  probe : Option ProbeDocument

/-- No documents. -/
def RunDocs.none : RunDocs where
  checks := fun _ => Option.none
  startPermit := Option.none
  startDispatch := Option.none
  runnerLive := Option.none
  probe := Option.none

/-- The row of `rt_ownership` that belongs to a document. -/
def ownershipRow (digest : Digested → Digest)
    (entry : (Resource × Uuid) × Ownership) : OwnershipRow where
  domain := entry.1.1
  resourceId := entry.1.2
  containerId := entry.2.receipt.containerId
  daemonDigest := digest (.daemon entry.2.receipt.daemon)
  receiptId := entry.2.receipt.common.receiptUuid
  digest := entry.2.attestationDigest

namespace Journal

/-- The documents of the run. -/
def runDocs (db : Journal) (runId : Uuid) : RunDocs where
  checks := fun phase => Documents.get? db.phaseChecks (phase, runId)
  startPermit := Documents.get? db.startPermits runId
  startDispatch := Documents.get? db.startDispatches runId
  runnerLive := Documents.get? db.runnerLives runId
  probe := Documents.get? db.probes runId

/-- Every ownership has its document and its row. -/
def Paired (db : Journal) : Prop :=
  db.ownershipRows = db.ownerships.map (ownershipRow db.digest)

end Journal

/-- The tables that only grow. -/
structure Grown (old new : Journal) : Prop where
  approvals : Documents.Extends old.approvals new.approvals
  createDispatches : Documents.Extends old.createDispatches new.createDispatches
  targetStartDispatches :
    Documents.Extends old.targetStartDispatches new.targetStartDispatches
  ownerships : Documents.Extends old.ownerships new.ownerships
  runEnrollments : Documents.Extends old.runEnrollments new.runEnrollments
  startDispatches : Documents.Extends old.startDispatches new.startDispatches
  runnerLives : Documents.Extends old.runnerLives new.runnerLives
  probes : Documents.Extends old.probes new.probes
  paired : old.Paired → new.Paired

/-- What a transaction means to the fences and to the log. -/
inductive Label where
  | plain
  | entered (fence : Fence)
  | checked (runId : Uuid) (phase : Phase)
  | probed (runId : Uuid) (signed : Attestation ProbeResponse)
  | claimed (fence : Fence)

/-- What a move leaves of a row and of the documents of its run. -/
structure After where
  phase : ObjectPhase
  cleanup : Cleanup
  terminal : Option Terminal
  docs : RunDocs

/-- The document of the signed probe, which names the run and the container. -/
structure IsProbeOf
    (document : ProbeDocument) (signed : Attestation ProbeResponse)
    (runId : Uuid) (containerId : String) : Prop where
  digest : document.receiptDigest = signed.digest
  context : signed.payload.common.contextUuid = runId
  runner : signed.payload.runnerId = containerId

/-- At the clock reading the run may be published with a known result. -/
structure IsPublication
    (db : Journal) (row : RuntimeObject) (authority : Authority)
    (approval : RuntimeApproval) (enrollment : RuntimeEnrollment)
    (reading : Timestamp) : Prop where
  phase : row.phase = .publishChecked
  approved : Documents.get? db.approvals row.intent.approvalUuid = some approval
  current : IsCurrentRow authority db approval reading row
  reserved : Documents.get? db.runEnrollments row.id = some enrollment
  enrolled :
    ∃ provisioned, IsEnrolled authority db enrollment provisioned reading

/-- How a transaction moves a row; reopening names the row it is asked for. -/
inductive RowChange (reopened : Option (Kind × Uuid)) (old new : Journal)
    (row : RuntimeObject) : Label → After → Prop where
  | requested (idle : row.phase = createPhase row.kind) :
      RowChange reopened old new row .plain
        ⟨.createRequested, .quarantined, row.terminal, old.runDocs row.id⟩
  | owned (awaited : Bool) (owned : Ownership) (fresh :
        Documents.get? old.ownerships (row.intent.resource, row.id) = none)
      (recorded : Documents.get? new.ownerships (row.intent.resource, row.id) =
          some owned)
      (isOpen : row.terminal = none)
      (expected : awaited = true → row.phase = .createRequested) :
      RowChange reopened old new row .plain
        ⟨(ownedState row.kind awaited).1, (ownedState row.kind awaited).2,
          none, old.runDocs row.id⟩
  | ownedLate (fresh :
        Documents.get? old.ownerships (row.intent.resource, row.id) = none)
      (closed : row.terminal ≠ none) :
      RowChange reopened old new row .plain
        ⟨row.phase, .pending, row.terminal, old.runDocs row.id⟩
  | quarantined (named : reopened = some row.key)
      (isOpen : row.terminal = none) :
      RowChange reopened old new row .plain
        ⟨.quarantined, .quarantined, none, old.runDocs row.id⟩
  | revoked (named : reopened = some row.key) (isTarget : row.kind = .target) :
      RowChange reopened old new row .plain
        ⟨.quarantined, .pending, row.terminal, old.runDocs row.id⟩
  | verified (isTarget : row.kind = .target)
      (phase : row.phase = .exactIdRecorded) :
      RowChange reopened old new row .plain
        ⟨.identityVerified, row.cleanup, row.terminal, old.runDocs row.id⟩
  | enrolled (isTarget : row.kind = .target)
      (phase : row.phase = .identityVerified) :
      RowChange reopened old new row .plain
        ⟨.enrolled, row.cleanup, row.terminal, old.runDocs row.id⟩
  | checked (phase : Phase) (approval : RuntimeApproval)
      (enrollment : RuntimeEnrollment) (checked : Checked)
      (isRun : row.kind = .run)
      (before : phaseBefore phase = some row.phase)
      (approved :
        Documents.get? old.approvals row.intent.approvalUuid = some approval)
      (liveOnly : phase ≠ .beforeProbe ∨ approval.isLive = true)
      (enrolled : Documents.get? old.runEnrollments row.id = some enrollment)
      (target : checked.target = enrollment.target) :
      RowChange reopened old new row (.checked row.id phase)
        ⟨phaseAfter phase, row.cleanup, row.terminal,
          { old.runDocs row.id with
            checks := Function.update (old.runDocs row.id).checks phase
                (some (((old.runDocs row.id).checks phase).getD checked)) }⟩
  | authorized (permit : StartPermit) (owned : Ownership)
      (isRun : row.kind = .run)
      (phase : row.phase = .checkedStart)
      (isOwned : Documents.get? old.ownerships (.runner, row.id) = some owned)
      (runner : permit.runnerId = owned.receipt.containerId) :
      RowChange reopened old new row .plain
        ⟨.startAuthorized, row.cleanup, row.terminal,
          { old.runDocs row.id with
            startPermit :=
              some ((old.runDocs row.id).startPermit.getD permit) }⟩
  | claimed (permit : StartPermit) (isRun : row.kind = .run)
      (phase : row.phase = .startAuthorized)
      (issued : (old.runDocs row.id).startPermit = some permit)
      (runUuid : permit.runUuid = row.id) :
      RowChange reopened old new row (.claimed (.start permit))
        ⟨.startRequested, row.cleanup, row.terminal,
          { old.runDocs row.id with
            startDispatch :=
              some ((old.runDocs row.id).startDispatch.getD permit) }⟩
  | invoked (permit : StartPermit) (isRun : row.kind = .run)
      (runUuid : permit.runUuid = row.id) :
      RowChange reopened old new row (.entered (.start permit))
        ⟨.startInvoked, row.cleanup, row.terminal, old.runDocs row.id⟩
  | live (actual : RunnerObservation) (owned : Ownership)
      (isRun : row.kind = .run)
      (phase : row.phase = .startInvoked)
      (isOwned : Documents.get? old.ownerships (.runner, row.id) = some owned)
      (runner : actual.containerId = owned.receipt.containerId) :
      RowChange reopened old new row .plain
        ⟨.running, row.cleanup, row.terminal,
          { old.runDocs row.id with
            runnerLive := some ((old.runDocs row.id).runnerLive.getD actual) }⟩
  | probed (approval : RuntimeApproval) (document : ProbeDocument)
      (signed : Attestation ProbeResponse) (owned : Ownership)
      (isRun : row.kind = .run)
      (approved :
        Documents.get? old.approvals row.intent.approvalUuid = some approval)
      (phase : row.phase = probePhase approval)
      (isOwned : Documents.get? old.ownerships (.runner, row.id) = some owned)
      (runner : IsProbeOf document signed row.id owned.receipt.containerId) :
      RowChange reopened old new row (.probed row.id signed)
        ⟨.probeRecorded, row.cleanup, row.terminal,
          { old.runDocs row.id with
            probe := some ((old.runDocs row.id).probe.getD document) }⟩
  | terminated (terminal : Terminal) (isRun : row.kind = .run)
      (isOpen : row.terminal = none)
      (published : terminal.result ≠ .unknown → ∃ authority approval enrollment,
          IsPublication old row authority approval enrollment
            new.clockHighwater) :
      RowChange reopened old new row .plain
        ⟨.terminal, terminalCleanup old row.id, some terminal,
          old.runDocs row.id⟩
  | cleaned (isClosed : IsCleanable row) (isOwned :
        (Documents.get? old.ownerships
          (row.intent.resource, row.id)).isSome = true) :
      RowChange reopened old new row .plain
        ⟨row.phase, .confirmed, row.terminal, old.runDocs row.id⟩

/-- The fences of creations and of target starts that were dispatched. -/
def SameDispatches (old new : Journal) : Prop :=
  new.createDispatches = old.createDispatches ∧
    new.targetStartDispatches = old.targetStartDispatches

/-- A table where only the key was without a document and got one. -/
def Claims {κ α : Type} [DecidableEq κ] (old new : Documents.Table κ α)
    (key : κ) : Prop :=
  Documents.get? old key = none ∧ (Documents.get? new key).isSome = true ∧
    ∀ other, other ≠ key → Documents.get? new other = Documents.get? old other

/-- What a committed transaction does to the objects and their documents. -/
inductive Change
    (reopened : Option (Kind × Uuid)) (old new : Journal) : Label → Prop where
  | quiet (label : Label)
      (uncounted : label = .plain ∨ ∃ fence, label = .entered fence)
      (objects : new.objects = old.objects)
      (docs : new.runDocs = old.runDocs)
      (dispatches : SameDispatches old new) (grown : Grown old new) :
      Change reopened old new label
  | inserted (kind : Kind) (intent : CreateIntent) (fingerprint : Digest)
      (absent : old.object? kind intent.intentUuid = none)
      (resource : intent.resource.kind = kind)
      (targets : kind = .target →
        ∀ row ∈ old.objects, row.kind = .target → row.cleanup = .confirmed)
      (enrolled : kind = .run →
        (Documents.get? new.runEnrollments intent.intentUuid).isSome = true)
      (objects : new.objects =
          old.objects ++ [Journal.newObject kind intent fingerprint old.epoch])
      (docs : new.runDocs = old.runDocs)
      (dispatches : SameDispatches old new) (grown : Grown old new) :
      Change reopened old new .plain
  | claimedCreate (permit : DispatchPermit) (claims :
        Claims old.createDispatches new.createDispatches
          (permit.resource.kind, permit.intentUuid))
      (others : new.targetStartDispatches = old.targetStartDispatches)
      (objects : new.objects = old.objects)
      (docs : new.runDocs = old.runDocs)
      (grown : Grown old new) :
      Change reopened old new (.claimed (.create permit))
  | claimedTargetStart (provisioningUuid : Uuid) (claims :
        Claims old.targetStartDispatches new.targetStartDispatches
          provisioningUuid)
      (others : new.createDispatches = old.createDispatches)
      (objects : new.objects = old.objects)
      (docs : new.runDocs = old.runDocs)
      (grown : Grown old new) :
      Change reopened old new (.claimed (.targetStart provisioningUuid))
  | moved (label : Label) (row : RuntimeObject) (after : After)
      (member : row ∈ old.objects)
      (how : RowChange reopened old new row label after)
      (frozen : row.terminal ≠ none →
        after.terminal = row.terminal ∧ after.phase = row.phase)
      (objects :
        new.objects = old.moved row after.phase after.cleanup after.terminal)
      (docs : ∀ runId, new.runDocs runId =
            if row.kind = .run ∧ runId = row.id then after.docs
            else old.runDocs runId)
      (dispatches : SameDispatches old new) (grown : Grown old new) :
      Change reopened old new label

end TicketSandbox.Runtime
