import TicketSandbox.Runtime.FenceRuns

namespace TicketSandbox.Runtime

/-!
# Stages of a run

The phases of a run on its way to publication are numbered.  A stage says
which checks the run has passed, in their order, and which documents it has;
those of later stages are still missing.
-/

open Authority

/-- The place of a phase on the way of a run to its publication. -/
def ObjectPhase.stage? : ObjectPhase → Option Nat
  | .reserved => some 0
  | .checkedCreate => some 1
  | .createRequested => some 2
  | .runnerOwned => some 3
  | .checkedStart => some 4
  | .startAuthorized => some 5
  | .startRequested => some 6
  | .startInvoked => some 7
  | .running => some 8
  | .probeReady => some 9
  | .probeRecorded => some 10
  | .postChecked => some 11
  | .publishChecked => some 12
  | _ => none

/-- A run at the stage has passed the check. -/
def Phase.isPassed (live : Bool) (stage : Nat) : Phase → Bool
  | .enroll => false
  | .beforeCreate => decide (1 ≤ stage)
  | .beforeStart => decide (4 ≤ stage)
  | .beforeProbe => live && decide (9 ≤ stage)
  | .afterProbe => decide (11 ≤ stage)
  | .beforePublish => decide (12 ≤ stage)

/-- The checks that a run at the stage has passed, in their order. -/
def passedBy (live : Bool) (stage : Nat) : List Phase :=
  [Phase.beforeCreate, .beforeStart, .beforeProbe, .afterProbe,
    .beforePublish].filter fun phase => phase.isPassed live stage

/-- A document that fits where it is due, and no document elsewhere. -/
structure Written
    {α : Type} (due : Prop) (fits : α → Prop) (document : Option α) : Prop where
  present : due → ∃ written, document = some written ∧ fits written
  missing : ¬ due → document = none

namespace Written

variable {due : Prop}

theorem congr {α : Type} {later : Prop} {fits : α → Prop} {document : Option α}
    (written : Written due fits document) (same : later ↔ due) :
    Written later fits document where
  present := fun isDue => written.present (same.mp isDue)
  missing := fun notDue => written.missing fun isDue => notDue (same.mpr isDue)

theorem write {α : Type} {later : Prop} {fits : α → Prop} {document : Option α}
    (written : Written due fits document) (notYet : ¬ due) (isDue : later)
    {added : α} (fitting : fits added) :
    Written later fits (some (document.getD added)) where
  present := by
    intro _
    rw [written.missing notYet]
    exact ⟨added, rfl, fitting⟩
  missing := fun notDue => absurd isDue notDue

theorem weaken {α : Type} {fits weaker : α → Prop} {document : Option α}
    (written : Written due fits document)
    (implies : ∀ document, fits document → weaker document) :
    Written due weaker document where
  present := by
    intro isDue
    obtain ⟨present, isPresent, fitting⟩ := written.present isDue
    exact ⟨present, isPresent, implies present fitting⟩
  missing := written.missing

end Written

/-- The container is the one that is owned. -/
def Names (owned : Option Ownership) (containerId : String) : Prop :=
  owned.map (fun ownership => ownership.receipt.containerId) = some containerId

/-- What a run at the stage has passed and which documents it has. -/
structure AtStage (stage : Nat) (live : Bool) (target : TargetSnapshot)
    (runId : Uuid) (docs : RunDocs) (ownership : Option Ownership)
    (recorded : Attestation ProbeResponse → Prop)
    (phases : List Phase) : Prop where
  order : phases = passedBy live stage
  checks : ∀ phase, Written (phase.isPassed live stage = true)
        (fun checked => checked.target = target) (docs.checks phase)
  owned : 3 ≤ stage → ownership.isSome = true
  startPermit :
    Written (5 ≤ stage) (fun permit => Names ownership permit.runnerId)
      docs.startPermit
  startDispatch :
    Written (6 ≤ stage) (fun permit => Names ownership permit.runnerId)
      docs.startDispatch
  runnerLive :
    Written (8 ≤ stage) (fun observed => Names ownership observed.containerId)
      docs.runnerLive
  probe : Written (10 ≤ stage) (fun document =>
        ∃ signed containerId, recorded signed ∧ Names ownership containerId ∧
            IsProbeOf document signed runId containerId)
      docs.probe

/-- The two stages agree on the documents that are written by then. -/
def SameDocuments (stage later : Nat) : Prop :=
  ∀ since ∈ [5, 6, 8, 10], since ≤ later ↔ since ≤ stage
  deriving Decidable

/-- The two stages agree on the checks that are passed by then. -/
def SameChecks (live : Bool) (stage later : Nat) : Prop :=
  ∀ phase : Phase, phase.isPassed live later = phase.isPassed live stage

/-- What the check of a phase adds to what a run has passed. -/
structure Passes (live : Bool) (phase : Phase) (stage later : Nat) : Prop where
  order : passedBy live later = passedBy live stage ++ [phase]
  notYet : phase.isPassed live stage = false
  now : phase.isPassed live later = true
  others : ∀ other : Phase, other ≠ phase →
      other.isPassed live later = other.isPassed live stage
  documents : SameDocuments stage later
  owned : 3 ≤ later → 3 ≤ stage

/-- A check passes its own phase and no other. -/
theorem passes_of_check {live : Bool} {phase : Phase} {current : ObjectPhase}
    (before : phaseBefore phase = some current)
    (liveOnly : phase ≠ .beforeProbe ∨ live = true) :
    ∃ stage later,
      current.stage? = some stage ∧ (phaseAfter phase).stage? = some later ∧
        Passes live phase stage later := by
  have others {stage later : Nat} (differ :
        ∀ other ∈ [Phase.enroll, .beforeCreate, .beforeStart, .beforeProbe,
            .afterProbe, .beforePublish],
          other ≠ phase →
          other.isPassed live later = other.isPassed live stage) :
      ∀ other : Phase, other ≠ phase →
        other.isPassed live later = other.isPassed live stage := by
    intro other
    exact differ other (by cases other <;> decide)
  cases phase with
  | enroll => cases before
  | beforeCreate =>
      cases before
      refine ⟨0, 1, rfl, rfl, ?_, rfl, rfl, others ?_, ?_, ?_⟩
      · cases live <;> rfl
      · cases live <;> decide
      · decide
      · decide
  | beforeStart =>
      cases before
      refine ⟨3, 4, rfl, rfl, ?_, rfl, rfl, others ?_, ?_, ?_⟩
      · cases live <;> rfl
      · cases live <;> decide
      · decide
      · decide
  | beforeProbe =>
      cases before
      have isLive : live = true := by
        simpa using liveOnly
      subst isLive
      refine ⟨8, 9, rfl, rfl, rfl, rfl, rfl, others ?_, ?_, ?_⟩
      · decide
      · decide
      · decide
  | afterProbe =>
      cases before
      refine ⟨10, 11, rfl, rfl, ?_, rfl, rfl, others ?_, ?_, ?_⟩
      · cases live <;> rfl
      · cases live <;> decide
      · decide
      · decide
  | beforePublish =>
      cases before
      refine ⟨11, 12, rfl, rfl, ?_, rfl, rfl, others ?_, ?_, ?_⟩
      · cases live <;> rfl
      · cases live <;> decide
      · decide
      · decide

variable {later : Nat} {target : TargetSnapshot}
  {recorded remembered : Attestation ProbeResponse → Prop}
  {phases : List Phase}

namespace AtStage

variable {runId : Uuid} {ownership : Option Ownership} {stage : Nat}
  {docs : RunDocs} {live : Bool}

theorem reserved :
    AtStage 0 live target runId RunDocs.none ownership recorded [] where
  order := by
    cases live with
    | false => rfl
    | true => rfl
  checks := by
    intro phase
    refine ⟨fun passed => ?_, fun _ => rfl⟩
    cases phase <;> simp [Phase.isPassed] at passed
  owned := by simp
  startPermit := ⟨by simp, fun _ => rfl⟩
  startDispatch := ⟨by simp, fun _ => rfl⟩
  runnerLive := ⟨by simp, fun _ => rfl⟩
  probe := ⟨by simp, fun _ => rfl⟩

theorem grown {later : Option Ownership}
    (atStage : AtStage stage live target runId docs ownership recorded phases)
    (kept : ∀ document, ownership = some document → later = some document)
    (remembers : ∀ signed, recorded signed → remembered signed) :
    AtStage stage live target runId docs later remembered phases := by
  have names (containerId : String) (isNamed : Names ownership containerId) :
      Names later containerId := by
    obtain ⟨document, isOwned, same⟩ := Option.map_eq_some_iff.mp isNamed
    rw [Names, kept document isOwned]
    exact congrArg some same
  refine ⟨atStage.order, atStage.checks, ?_,
      atStage.startPermit.weaken fun _ => names _,
      atStage.startDispatch.weaken fun _ => names _,
      atStage.runnerLive.weaken fun _ => names _,
      atStage.probe.weaken ?_⟩
  · intro reached
    obtain ⟨document, isOwned⟩ :=
      Option.isSome_iff_exists.mp (atStage.owned reached)
    rw [kept document isOwned]
    rfl
  · rintro document ⟨signed, containerId, isRecorded, isNamed, isProbe⟩
    exact ⟨signed, containerId, remembers signed isRecorded,
        names containerId isNamed, isProbe⟩

theorem order_of_same
    (atStage : AtStage stage live target runId docs ownership recorded phases)
    (same : SameChecks live stage later) :
    phases = passedBy live later := by
  rw [atStage.order, passedBy, passedBy]
  exact List.filter_congr fun phase _ => (same phase).symm

theorem checks_of_same
    (atStage : AtStage stage live target runId docs ownership recorded phases)
    (same : SameChecks live stage later) (phase : Phase) :
    Written (phase.isPassed live later = true)
      (fun checked => checked.target = target) (docs.checks phase) :=
  (atStage.checks phase).congr (by rw [same phase])

theorem moveOn
    (atStage : AtStage stage live target runId docs ownership recorded phases)
    (sameChecks : SameChecks live stage later)
    (same : SameDocuments stage later)
    (isOwned : 3 ≤ later → ownership.isSome = true) :
    AtStage later live target runId docs ownership recorded phases where
  order := atStage.order_of_same sameChecks
  checks := atStage.checks_of_same sameChecks
  owned := isOwned
  startPermit := atStage.startPermit.congr (same 5 (by simp))
  startDispatch := atStage.startDispatch.congr (same 6 (by simp))
  runnerLive := atStage.runnerLive.congr (same 8 (by simp))
  probe := atStage.probe.congr (same 10 (by simp))

theorem check {phase : Phase} {checked : Checked}
    (atStage : AtStage stage live target runId docs ownership recorded phases)
    (passes : Passes live phase stage later)
    (isTarget : checked.target = target) :
    AtStage later live target runId
      { docs with
        checks := Function.update docs.checks phase
            (some ((docs.checks phase).getD checked)) }
      ownership recorded (phases ++ [phase]) where
  order := by
    rw [atStage.order, passes.order]
  checks := by
    intro other
    by_cases isPhase : other = phase
    · subst isPhase
      simp only [Function.update_self]
      exact (atStage.checks other).write (by simp [passes.notYet]) passes.now
          isTarget
    · simp only [Function.update_of_ne isPhase]
      exact (atStage.checks other).congr (by rw [passes.others other isPhase])
  owned := fun reached => atStage.owned (passes.owned reached)
  startPermit := atStage.startPermit.congr (passes.documents 5 (by simp))
  startDispatch := atStage.startDispatch.congr (passes.documents 6 (by simp))
  runnerLive := atStage.runnerLive.congr (passes.documents 8 (by simp))
  probe := atStage.probe.congr (passes.documents 10 (by simp))

/-- The start permit of the owned container is written at stage five. -/
theorem authorize {permit : StartPermit}
    (atStage : AtStage 4 live target runId docs ownership recorded phases)
    (named : Names ownership permit.runnerId) :
    AtStage 5 live target runId
      { docs with startPermit := some (docs.startPermit.getD permit) }
      ownership recorded phases :=
  have same : SameChecks live 4 5 := fun phase => by cases phase <;> rfl
  { order := atStage.order_of_same same
    checks := atStage.checks_of_same same
    owned := fun _ => atStage.owned (by decide)
    startPermit := atStage.startPermit.write (by decide) (by decide) named
    startDispatch := atStage.startDispatch.congr (by decide)
    runnerLive := atStage.runnerLive.congr (by decide)
    probe := atStage.probe.congr (by decide) }

/-- The issued permit is claimed at stage six. -/
theorem claim {permit : StartPermit}
    (atStage : AtStage 5 live target runId docs ownership recorded phases)
    (issued : docs.startPermit = some permit) :
    AtStage 6 live target runId
      { docs with startDispatch := some (docs.startDispatch.getD permit) }
      ownership recorded phases := by
  have same : SameChecks live 5 6 := fun phase => by cases phase <;> rfl
  obtain ⟨written, isWritten, named⟩ := atStage.startPermit.present (by decide)
  cases isWritten.symm.trans issued
  exact
    { order := atStage.order_of_same same
      checks := atStage.checks_of_same same
      owned := fun _ => atStage.owned (by decide)
      startPermit := atStage.startPermit.congr (by decide)
      startDispatch := atStage.startDispatch.write (by decide) (by decide) named
      runnerLive := atStage.runnerLive.congr (by decide)
      probe := atStage.probe.congr (by decide) }

/-- The started container is observed at stage eight. -/
theorem observe {actual : RunnerObservation}
    (atStage : AtStage 7 live target runId docs ownership recorded phases)
    (named : Names ownership actual.containerId) :
    AtStage 8 live target runId
      { docs with runnerLive := some (docs.runnerLive.getD actual) }
      ownership recorded phases :=
  have same : SameChecks live 7 8 := fun phase => by cases phase <;> rfl
  { order := atStage.order_of_same same
    checks := atStage.checks_of_same same
    owned := fun _ => atStage.owned (by decide)
    startPermit := atStage.startPermit.congr (by decide)
    startDispatch := atStage.startDispatch.congr (by decide)
    runnerLive := atStage.runnerLive.write (by decide) (by decide) named
    probe := atStage.probe.congr (by decide) }

/-- The probe of a running container is recorded at stage ten. -/
theorem probed {document : ProbeDocument} {signed : Attestation ProbeResponse}
    {containerId : String}
    (atStage : AtStage stage live target runId docs ownership recorded phases)
    (isStage : stage = if live = true then 9 else 8) (known : recorded signed)
    (named : Names ownership containerId)
    (isProbe : IsProbeOf document signed runId containerId) :
    AtStage 10 live target runId
      { docs with probe := some (docs.probe.getD document) }
      ownership recorded phases := by
  have same : SameChecks live stage 10 := by
    intro phase
    rw [isStage]
    cases live <;> cases phase <;> rfl
  have isReached : 8 ≤ stage ∧ ¬ 10 ≤ stage := by
    rw [isStage]
    cases live <;> decide
  have due {since : Nat} (early : since ≤ 8) : since ≤ 10 ↔ since ≤ stage :=
    ⟨fun _ => early.trans isReached.1, fun _ => early.trans (by decide)⟩
  exact
    { order := atStage.order_of_same same
      checks := atStage.checks_of_same same
      owned := fun _ => atStage.owned (le_trans (by decide) isReached.1)
      startPermit := atStage.startPermit.congr (due (by decide))
      startDispatch := atStage.startDispatch.congr (due (by decide))
      runnerLive := atStage.runnerLive.congr (due (by decide))
      probe := atStage.probe.write isReached.2 (by decide)
          ⟨signed, containerId, known, named, isProbe⟩ }

end AtStage

/-- The check of the run that the label stands for. -/
def Label.phasesOf (runId : Uuid) : Label → List Phase
  | .checked id phase => if id = runId then [phase] else []
  | .plain => []
  | .entered _ => []
  | .probed _ _ => []
  | .claimed _ => []

/-- The document of the owned container of a run. -/
def Journal.runner? (db : Journal) (runId : Uuid) : Option Ownership :=
  Documents.get? db.ownerships (.runner, runId)

/-- Every move of a run leads from one stage to another, or off the way. -/
theorem RowChange.atStage {reopened : Option (Kind × Uuid)} {old new : Journal}
    {row : RuntimeObject} {label : Label} {after : After} {live : Bool}
    (how : RowChange reopened old new row label after) (isRun : row.kind = .run)
    (resource : row.intent.resource = .runner) (grown : Grown old new) (isLive :
      ∀ approval,
        Documents.get? old.approvals row.intent.approvalUuid = some approval →
        approval.isLive = live)
    (isTarget :
      ∀ enrollment, Documents.get? old.runEnrollments row.id = some enrollment →
        enrollment.target = target)
    (before : ∀ stage, row.phase.stage? = some stage →
        AtStage stage live target row.id (old.runDocs row.id)
          (old.runner? row.id) recorded phases)
    (waiting : ∀ permit, label = .entered (.start permit) →
        AtStage 6 live target row.id (old.runDocs row.id)
          (old.runner? row.id) recorded phases)
    (remembers : ∀ signed, recorded signed → remembered signed)
    (remembersProbe :
      ∀ signed, label = .probed row.id signed → remembered signed)
    (isLater : after.phase.stage? = some later) :
    AtStage later live target row.id after.docs (new.runner? row.id)
      remembered (phases ++ label.phasesOf row.id) := by
  have kept (document : Ownership)
      (found : old.runner? row.id = some document) :
      new.runner? row.id = some document :=
    grown.ownerships.kept _ _ found
  have started {stage : Nat} (isStage : row.phase.stage? = some stage) :
      AtStage stage live target row.id (old.runDocs row.id)
        (new.runner? row.id) remembered phases :=
    (before stage isStage).grown kept remembers
  have names {owned : Ownership} {containerId : String}
      (isOwned : Documents.get? old.ownerships (.runner, row.id) = some owned)
      (same : containerId = owned.receipt.containerId) :
      Names (new.runner? row.id) containerId := by
    rw [Names, kept owned isOwned, same]
    rfl
  have unchecked : phases ++ [] = phases := List.append_nil phases
  cases how with
  | requested idle =>
      have isStage : row.phase.stage? = some 1 := by
        rw [idle, isRun]
        rfl
      cases isLater
      rw [Label.phasesOf, unchecked]
      exact (started isStage).moveOn (by intro phase; cases phase <;> rfl)
          (by decide) (by simp)
  | owned awaited document fresh recorded isOpen expected =>
      cases awaited with
      | false => cases isLater
      | true =>
          have isStage : row.phase.stage? = some 2 := by
            rw [expected rfl]
            rfl
          have isOwned : (new.runner? row.id).isSome = true := by
            rw [resource] at recorded
            rw [Journal.runner?, recorded]
            rfl
          simp only [ownedState, isRun] at isLater
          cases isLater
          rw [Label.phasesOf, unchecked]
          exact (started isStage).moveOn (by intro phase; cases phase <;> rfl)
              (by decide) fun _ => isOwned
  | ownedLate =>
      rw [Label.phasesOf, unchecked]
      exact started isLater
  | quarantined | revoked | terminated => cases isLater
  | verified isKind | enrolled isKind =>
      exact absurd (isRun.symm.trans isKind) (by decide)
  | checked phase approval enrollment checked isKind isBefore approved
      liveOnly enrolled sameTarget =>
      have same := isLive approval approved
      obtain ⟨stage, following, isStage, isFollowing, passes⟩ :=
        passes_of_check isBefore (same ▸ liveOnly)
      cases isFollowing.symm.trans isLater
      rw [Label.phasesOf, if_pos rfl]
      exact (started isStage).check passes
          (sameTarget.trans (isTarget enrollment enrolled))
  | authorized permit owned isKind phase isOwned runner =>
      have base : AtStage 4 _ _ _ _ _ _ _ := started (by rw [phase]; rfl)
      cases isLater
      rw [Label.phasesOf, unchecked]
      exact base.authorize (names isOwned runner)
  | claimed permit isKind phase issued runUuid =>
      have base : AtStage 5 _ _ _ _ _ _ _ := started (by rw [phase]; rfl)
      cases isLater
      rw [Label.phasesOf, unchecked]
      exact base.claim issued
  | invoked permit isKind runUuid =>
      have base := (waiting permit rfl).grown kept remembers
      cases isLater
      rw [Label.phasesOf, unchecked]
      exact base.moveOn (by intro phase; cases phase <;> rfl) (by decide)
          fun _ => base.owned (by decide)
  | live actual owned isKind phase isOwned runner =>
      have base : AtStage 7 _ _ _ _ _ _ _ := started (by rw [phase]; rfl)
      cases isLater
      rw [Label.phasesOf, unchecked]
      exact base.observe (names isOwned runner)
  | probed approval document signed owned isKind approved phase isOwned
      runner =>
      have isStage :
          row.phase.stage? = some (if live = true then 9 else 8) := by
        rw [phase, probePhase, isLive approval approved]
        cases live <;> rfl
      cases isLater
      rw [Label.phasesOf, unchecked]
      exact (started isStage).probed rfl (remembersProbe signed rfl)
        (names isOwned rfl) runner
  | cleaned =>
      rw [Label.phasesOf, unchecked]
      exact started isLater

end TicketSandbox.Runtime
