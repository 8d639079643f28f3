import TicketSandbox.Runtime.Stages

namespace TicketSandbox.Runtime

/-!
# Published runs

Whoever is on the way to publication stands at the stage of its phase, and
only a run at the last stage gets a terminal that says more than unknown.
-/

open Runs
open Sandbox (Timestamp)
open Authority

/-- The check of the run that the event stands for. -/
def Event.phase? (runId : Uuid) : Event → Option Phase
  | .checked id phase => if id = runId then some phase else none
  | .probed _ _ => none
  | .entered _ => none
  | .rejected _ => none

namespace System

/-- The checks that the run has passed, in the order in which it did. -/
def checkedPhases (sys : System) (runId : Uuid) : List Phase :=
  sys.log.filterMap (Event.phase? runId)

end System

variable {sys next : System} {label : Label} {runId : Uuid}
  {reopened : Option (Kind × Uuid)} {old new : Journal} {row : RuntimeObject}
  {after : After} {stage : Nat} {terminal : Terminal} {fence : Fence}
  {approval : RuntimeApproval} {enrollment : RuntimeEnrollment}

theorem Trail.checkedPhases (trail : Trail sys next label) (runId : Uuid) :
    next.checkedPhases runId =
      sys.checkedPhases runId ++ label.phasesOf runId := by
  cases trail with
  | plain events claimed log rejections =>
      have none : events.filterMap (Event.phase? runId) = [] := by
        rw [List.filterMap_eq_nil_iff]
        intro event member
        obtain ⟨id, rfl⟩ := rejections event member
        rfl
      simp [System.checkedPhases, log, none, Label.phasesOf]
  | left index claimed log => simp [System.checkedPhases, log, Label.phasesOf]
  | entered index held found claimed log =>
      simp [System.checkedPhases, log, Event.phase?, Label.phasesOf]
  | checked id phase claimed log =>
      by_cases same : id = runId
      · simp [System.checkedPhases, log, Event.phase?, Label.phasesOf, same]
      · simp [System.checkedPhases, log, Event.phase?, Label.phasesOf, same]
  | probed id signed claimed log =>
      simp [System.checkedPhases, log, Event.phase?, Label.phasesOf]
  | claimed held claimed log => simp [System.checkedPhases, log, Label.phasesOf]

theorem Trail.remembers (trail : Trail sys next label) {event : Event}
    (happened : event ∈ sys.log) :
    event ∈ next.log := by
  cases trail with
  | plain events claimed log rejections =>
      exact log ▸ List.mem_append_left _ happened
  | left index claimed log => exact log ▸ happened
  | entered index held found claimed log =>
      exact log ▸ List.mem_append_left _ happened
  | checked id phase claimed log => exact log ▸ List.mem_append_left _ happened
  | probed id signed claimed log => exact log ▸ List.mem_append_left _ happened
  | claimed held claimed log => exact log ▸ happened

theorem Trail.probe_logged {signed : Attestation ProbeResponse}
    (trail : Trail sys next (.probed runId signed)) :
    .probed runId signed ∈ next.log := by
  cases trail with
  | probed id signed claimed log => simp [log]

/-- The run stands at the stage, whatever its approval turns out to be. -/
def Stands (sys : System) (row : RuntimeObject) (stage : Nat) : Prop :=
  ∀ live enrollment, (∀ approval,
      Documents.get? sys.journal.approvals row.intent.approvalUuid =
        some approval →
      approval.isLive = live) →
    Documents.get? sys.journal.runEnrollments row.id = some enrollment →
    AtStage stage live enrollment.target row.id
      (sys.journal.runDocs row.id) (sys.journal.runner? row.id)
      (fun signed => .probed row.id signed ∈ sys.log)
      (sys.checkedPhases row.id)

/-- Where a run of a later journal comes from. -/
inductive Origin
    (reopened : Option (Kind × Uuid)) (old new : Journal) (label : Label)
    (version : RuntimeObject) : Prop where
  | kept (member : version ∈ old.objects)
      (docs : new.runDocs version.id = old.runDocs version.id)
      (unchecked : label.phasesOf version.id = [])
  | moved (row : RuntimeObject) (after : After) (member : row ∈ old.objects)
      (how : RowChange reopened old new row label after)
      (frozen : row.terminal ≠ none →
        after.terminal = row.terminal ∧ after.phase = row.phase)
      (shape :
        version = Journal.movedRow row after.phase after.cleanup after.terminal)
      (docs : new.runDocs row.id = after.docs)
  | inserted (absent : ∀ row ∈ old.objects, row.key ≠ version.key)
      (phase : version.phase = .reserved)
      (terminal : version.terminal = none)
      (enrolled : (Documents.get? new.runEnrollments version.id).isSome = true)
      (docs : new.runDocs version.id = old.runDocs version.id)
      (unchecked : label.phasesOf version.id = [])

theorem RowChange.phasesOf_other
    (how : RowChange reopened old new row label after)
    (other : row.key ≠ (.run, runId)) :
    label.phasesOf runId = [] := by
  cases how with
  | checked phase approval enrollment checked isRun =>
      have different : row.id ≠ runId := by
        rintro rfl
        exact other (by rw [RuntimeObject.key, isRun])
      rw [Label.phasesOf, if_neg different]
  | _ => rfl

namespace Change

theorem phasesOf_quiet
    (uncounted : label = .plain ∨ ∃ fence, label = .entered fence) :
    label.phasesOf runId = [] := by
  rcases uncounted with rfl | ⟨fence, rfl⟩
  · rfl
  · rfl

theorem origin
    (changed : Change reopened old new label) {version : RuntimeObject}
    (member : version ∈ new.objects) (isRun : version.kind = .run) :
    Origin reopened old new label version := by
  cases changed with
  | quiet label uncounted objects docs =>
      exact
        .kept (objects ▸ member) (congrFun docs _) (phasesOf_quiet uncounted)
  | claimedCreate permit claims others objects docs =>
      exact .kept (objects ▸ member) (congrFun docs _) rfl
  | claimedTargetStart provisioningUuid claims others objects docs =>
      exact .kept (objects ▸ member) (congrFun docs _) rfl
  | inserted kind intent fingerprint absent resource targets enrolled
      objects docs =>
      rw [objects] at member
      rcases List.mem_append.mp member with isOld | isNew
      · exact .kept isOld (congrFun docs _) rfl
      · have shape := List.mem_singleton.mp isNew
        subst shape
        cases isRun
        exact .inserted (Journal.object?_none absent) rfl rfl (enrolled rfl)
            (congrFun docs _) rfl
  | moved label row after rowMember how frozen objects docs =>
      rw [objects] at member
      rcases (Journal.mem_moved rowMember).mp member with
        shape | ⟨oldMember, different⟩
      · subst shape
        refine .moved row after rowMember how frozen rfl ?_
        rw [docs row.id]
        exact if_pos ⟨isRun, rfl⟩
      · have other : row.key ≠ (.run, version.id) := by
          intro same
          exact different (by rw [same, RuntimeObject.key, isRun])
        refine .kept oldMember ?_ (how.phasesOf_other other)
        rw [docs version.id]
        refine if_neg ?_
        rintro ⟨rowIsRun, sameId⟩
        exact other (by rw [RuntimeObject.key, rowIsRun, sameId])

theorem unborn (changed : Change reopened old new label)
    (absent : ∀ row ∈ old.objects, row.key ≠ (.run, runId)) :
    new.runDocs runId = old.runDocs runId ∧ label.phasesOf runId = [] := by
  cases changed with
  | quiet label uncounted objects docs =>
      exact ⟨congrFun docs _, phasesOf_quiet uncounted⟩
  | claimedCreate permit claims others objects docs =>
      exact ⟨congrFun docs _, rfl⟩
  | claimedTargetStart provisioningUuid claims others objects docs =>
      exact ⟨congrFun docs _, rfl⟩
  | inserted kind intent fingerprint missing resource targets enrolled
      objects docs =>
      exact ⟨congrFun docs _, rfl⟩
  | moved label row after member how frozen objects docs =>
      refine ⟨?_, how.phasesOf_other (absent row member)⟩
      rw [docs runId]
      refine if_neg ?_
      rintro ⟨isRun, sameId⟩
      exact absent row member (by rw [RuntimeObject.key, isRun, sameId])

theorem follow (changed : Change reopened old new label) (sound : Sound old)
    (member : row ∈ old.objects) (isRun : row.kind = .run) :
    ∃ version ∈ new.objects,
      version.key = row.key ∧ version.intent = row.intent ∧
        ((version = row ∧ new.runDocs row.id = old.runDocs row.id ∧
            label.phasesOf row.id = []) ∨
          ∃ after, RowChange reopened old new row label after ∧
              (row.terminal ≠ none →
                after.terminal = row.terminal ∧ after.phase = row.phase) ∧
              version =
                Journal.movedRow row after.phase after.cleanup after.terminal ∧
              new.runDocs row.id = after.docs) := by
  obtain ⟨version, versionMember, persists⟩ := changed.persists sound member
  have sameKind : version.kind = .run :=
    (congrArg Prod.fst persists.key).trans isRun
  refine ⟨version, versionMember, persists.key, persists.intent, ?_⟩
  cases changed.origin versionMember sameKind with
  | kept oldMember docs unchecked =>
      have same := Rows.eq_of_key sound.keys oldMember member persists.key
      subst same
      exact .inl ⟨rfl, docs, unchecked⟩
  | moved moving after movingMember how frozen shape docs =>
      have sameKey : moving.key = row.key := by
        rw [← persists.key, shape]
        rfl
      have same := Rows.eq_of_key sound.keys movingMember member sameKey
      subst same
      exact .inr ⟨after, how, frozen, shape, docs⟩
  | inserted absent => exact absurd persists.key.symm (absent row member)

end Change

namespace Stands

theorem frame
    {later : RuntimeObject} (stands : Stands sys row stage) (enrolled :
      (Documents.get? sys.journal.runEnrollments row.id).isSome = true)
    (grown : Grown sys.journal next.journal)
    (sameId : later.id = row.id)
    (sameIntent : later.intent = row.intent)
    (docs : next.journal.runDocs row.id = sys.journal.runDocs row.id)
    (trail : Trail sys next label)
    (unchecked : label.phasesOf row.id = []) :
    Stands next later stage := by
  intro live enrollment isLive isEnrolled
  obtain ⟨saved, isSaved⟩ := Option.isSome_iff_exists.mp enrolled
  have same := grown.runEnrollments.kept _ _ isSaved
  rw [sameId] at isEnrolled ⊢
  cases same.symm.trans isEnrolled
  rw [docs, trail.checkedPhases, unchecked, List.append_nil]
  have atStage := stands live enrollment (fun approval found =>
        isLive approval (sameIntent ▸ grown.approvals.kept _ _ found))
      isSaved
  exact atStage.grown (grown.ownerships.kept _) fun signed => trail.remembers

theorem owned (stands : Stands sys row stage) (enrolled :
      (Documents.get? sys.journal.runEnrollments row.id).isSome = true)
    (late : 3 ≤ stage) :
    (sys.journal.runner? row.id).isSome = true := by
  obtain ⟨enrollment, isEnrolled⟩ := Option.isSome_iff_exists.mp enrolled
  cases approved :
      Documents.get? sys.journal.approvals row.intent.approvalUuid with
  | none =>
      exact (stands false enrollment (by simp [approved]) isEnrolled).owned late
  | some approval =>
      exact (stands approval.isLive enrollment (fun other found => by
            rw [← Option.some.inj (approved.symm.trans found)])
          isEnrolled).owned late

end Stands

/-- The phases of a run whose start was dispatched but not recorded. -/
def waitingPhases : List ObjectPhase :=
  [.startRequested, .quarantined, .terminal]

/-- The invariant of the runs on their way to publication. -/
structure Ordered (sys : System) : Prop where
  exclusive : Exclusive sys
  enrolled : ∀ row ∈ sys.journal.objects, row.kind = .run →
      (Documents.get? sys.journal.runEnrollments row.id).isSome = true
  unborn : ∀ runId, (∀ row ∈ sys.journal.objects, row.key ≠ (.run, runId)) →
      sys.journal.runDocs runId = RunDocs.none ∧ sys.checkedPhases runId = []
  standing : ∀ row ∈ sys.journal.objects, row.kind = .run →
      ∀ stage, row.phase.stage? = some stage → Stands sys row stage
  published : ∀ row ∈ sys.journal.objects,
      ∀ terminal, row.terminal = some terminal → terminal.result ≠ .unknown →
        Stands sys row 12
  waiting : ∀ held ∈ sys.claimed, ∀ permit, held.fence = .start permit →
        ∃ row ∈ sys.journal.objects, row.key = (.run, permit.runUuid) ∧
            row.phase ∈ waitingPhases ∧ Stands sys row 6

namespace RowChange

theorem waits
    (how : RowChange reopened old new row label after) (isRun : row.kind = .run)
    (resource : row.intent.resource = .runner)
    (phase : row.phase ∈ waitingPhases)
    (owned : (old.runner? row.id).isSome = true) (notInvoked :
      ∀ permit, label = .entered (.start permit) → permit.runUuid ≠ row.id) :
    after.phase ∈ waitingPhases ∧ after.docs = old.runDocs row.id ∧
      label.phasesOf row.id = [] := by
  have isUnowned (fresh :
        Documents.get? old.ownerships (row.intent.resource, row.id) =
          none) : False := by
    rw [resource] at fresh
    simp [Journal.runner?, fresh] at owned
  cases how with
  | requested idle => simp [idle, isRun, createPhase, waitingPhases] at phase
  | owned awaited document fresh => exact (isUnowned fresh).elim
  | ownedLate fresh => exact (isUnowned fresh).elim
  | quarantined | revoked | terminated =>
      exact ⟨by simp [waitingPhases], rfl, rfl⟩
  | verified isTarget | enrolled isTarget =>
      exact absurd (isRun.symm.trans isTarget) (by decide)
  | checked checkedPhase approval enrollment checked isKind before =>
      cases checkedPhase with
      | enroll => cases before
      | beforeCreate | beforeStart | beforeProbe | afterProbe
        | beforePublish =>
          simp [← Option.some.inj before, waitingPhases] at phase
  | authorized permit document isKind current =>
      simp [current, waitingPhases] at phase
  | claimed permit isKind current => simp [current, waitingPhases] at phase
  | invoked permit isKind runUuid =>
      exact absurd runUuid (notInvoked permit rfl)
  | live actual document isKind current =>
      simp [current, waitingPhases] at phase
  | probed approval document signed ownership isKind approved current =>
      rw [current, probePhase] at phase
      split at phase
      · simp [waitingPhases] at phase
      · simp [waitingPhases] at phase
  | cleaned => exact ⟨phase, rfl, rfl⟩

theorem stored (how : RowChange reopened old new row label after)
    (sound : row.terminal ≠ none → row.phase = .terminal)
    (frozen : row.terminal ≠ none →
      after.terminal = row.terminal ∧ after.phase = row.phase)
    (isStored : after.terminal = some terminal) :
    (row.terminal = some terminal ∨ (row.terminal = none ∧
          (terminal.result ≠ .unknown → ∃ authority approval enrollment,
              IsPublication old row authority approval enrollment
                new.clockHighwater))) ∧
      after.docs = old.runDocs row.id ∧ label.phasesOf row.id = [] := by
  have closed {phase : ObjectPhase} (already : row.terminal = some terminal)
      (isPhase : row.phase = phase) :
      phase = .terminal :=
    isPhase.symm.trans (sound (by simp [already]))
  cases how with
  | requested | ownedLate | revoked | verified | enrolled | cleaned =>
      exact ⟨.inl isStored, rfl, rfl⟩
  | owned | quarantined => cases isStored
  | checked phase approval enrollment checked isRun before =>
      cases phase with
      | enroll => cases before
      | beforeCreate | beforeStart | beforeProbe | afterProbe
        | beforePublish => cases closed isStored (Option.some.inj before).symm
  | authorized permit document isRun current => cases closed isStored current
  | claimed permit isRun current => cases closed isStored current
  | invoked permit isRun =>
      have already : row.terminal = some terminal := isStored
      have isTerminal := sound (by simp [already])
      have kept := (frozen (by simp [already])).2
      cases kept.trans isTerminal
  | live actual document isRun current => cases closed isStored current
  | probed approval document signed ownership isRun approved current =>
      have isTerminal := closed isStored current
      rw [probePhase] at isTerminal
      split at isTerminal
      · cases isTerminal
      · cases isTerminal
  | terminated given isRun isOpen published =>
      cases isStored
      exact ⟨.inr ⟨isOpen, published⟩, rfl, rfl⟩

end RowChange

theorem Sound.runner
    {db : Journal} (sound : Sound db) (member : row ∈ db.objects)
    (isRun : row.kind = .run) :
    row.intent.resource = .runner := by
  have isKind := (sound.resources row member).trans isRun
  cases isResource : row.intent.resource with
  | runner => rfl
  | target =>
      rw [isResource] at isKind
      cases isKind

theorem Exclusive.not_held {held : Claimed} (exclusive : Exclusive sys)
    (isEntered : .entered fence ∈ sys.log) (isHeld : held ∈ sys.claimed) :
    held.fence.subject ≠ fence.subject := by
  intro same
  have entered : 0 < sys.entries fence.subject :=
    List.countP_pos_iff.mpr ⟨_, isEntered, by simp [Subject.isEntered]⟩
  have holding : 0 < sys.claimed.countP fence.subject.isHeld :=
    List.countP_pos_iff.mpr ⟨held, isHeld, by simp [Subject.isHeld, same]⟩
  have once := exclusive.once fence.subject
  rw [System.chances] at once
  omega

theorem Trail.held {held : Claimed} (trail : Trail sys next label)
    (isHeld : held ∈ next.claimed) :
    held ∈ sys.claimed ∨ label = .claimed held.fence := by
  cases trail with
  | plain events claimed => exact .inl (claimed ▸ isHeld)
  | left index claimed =>
      rw [claimed] at isHeld
      exact .inl (List.mem_of_mem_eraseIdx isHeld)
  | entered index entering found claimed =>
      rw [claimed] at isHeld
      exact .inl (List.mem_of_mem_eraseIdx isHeld)
  | checked runId phase claimed => exact .inl (claimed ▸ isHeld)
  | probed runId signed claimed => exact .inl (claimed ▸ isHeld)
  | claimed added claimed =>
      rw [claimed] at isHeld
      rcases List.mem_append.mp isHeld with isOld | isNew
      · exact .inl isOld
      · exact .inr (by rw [List.mem_singleton.mp isNew])

theorem Trail.fence_entered (trail : Trail sys next (.entered fence)) :
    (∃ held ∈ sys.claimed, held.fence = fence) ∧ .entered fence ∈ next.log := by
  cases trail with
  | entered index held found claimed log =>
      exact ⟨⟨held, List.mem_of_getElem? found, rfl⟩, by simp [log]⟩

namespace Ordered

variable {permit : StartPermit}

theorem stands_invoked (ordered : Ordered sys) (trail : Trail sys next label)
    (how : RowChange reopened sys.journal next.journal row label after)
    (member : row ∈ sys.journal.objects)
    (isInvoked : label = .entered (.start permit)) :
    Stands sys row 6 := by
  subst isInvoked
  obtain ⟨⟨held, isHeld, isFence⟩, _⟩ := trail.fence_entered
  obtain ⟨waiting, waitingMember, isKey, _, stands⟩ :=
    ordered.waiting held isHeld permit isFence
  cases how with
  | invoked permit isRun runUuid =>
      have sameKey : waiting.key = row.key := by
        rw [isKey, RuntimeObject.key, isRun, runUuid]
      have same :=
        Rows.eq_of_key ordered.exclusive.sound.keys waitingMember member sameKey
      exact same ▸ stands

theorem standing_step (ordered : Ordered sys)
    (changed : Change reopened sys.journal next.journal label)
    (trail : Trail sys next label) (member : row ∈ next.journal.objects)
    (isRun : row.kind = .run) (isStage : row.phase.stage? = some stage) :
    Stands next row stage := by
  have grown := changed.grown
  have sound := ordered.exclusive.sound
  cases changed.origin member isRun with
  | kept oldMember docs unchecked =>
      exact (ordered.standing row oldMember isRun stage isStage).frame
          (ordered.enrolled row oldMember isRun) grown rfl rfl docs trail
          unchecked
  | inserted absent phase terminal enrolled docs unchecked =>
      rw [phase] at isStage
      cases isStage
      obtain ⟨noDocs, noPhases⟩ := ordered.unborn row.id (by
          intro old oldMember same
          exact absent old oldMember (by rw [same, RuntimeObject.key, isRun]))
      intro live enrollment _ _
      rw [trail.checkedPhases, unchecked, docs, noDocs, noPhases]
      exact .reserved
  | moved old after oldMember how frozen shape docs =>
      subst shape
      have enrolled := ordered.enrolled old oldMember isRun
      obtain ⟨saved, isSaved⟩ := Option.isSome_iff_exists.mp enrolled
      intro live enrollment isLive isEnrolled
      have isLiveBefore (approval : RuntimeApproval) (found :
            Documents.get? sys.journal.approvals
              old.intent.approvalUuid = some approval) :
          approval.isLive = live :=
        isLive approval (grown.approvals.kept _ _ found)
      have same := grown.runEnrollments.kept _ _ isSaved
      cases same.symm.trans isEnrolled
      have resource := sound.runner oldMember isRun
      rw [trail.checkedPhases]
      refine docs ▸ how.atStage isRun resource grown isLiveBefore ?_ ?_ ?_
        (fun signed => trail.remembers) ?_ isStage
      · intro other found
        rw [← Option.some.inj (isSaved.symm.trans found)]
      · intro early isEarly
        exact ordered.standing old oldMember isRun early isEarly live saved
            isLiveBefore isSaved
      · intro permit isInvoked
        exact ordered.stands_invoked trail how oldMember isInvoked live saved
            isLiveBefore isSaved
      · rintro signed rfl
        exact trail.probe_logged

theorem published_step (ordered : Ordered sys)
    (changed : Change reopened sys.journal next.journal label)
    (trail : Trail sys next label) (member : row ∈ next.journal.objects)
    (isStored : row.terminal = some terminal)
    (isKnown : terminal.result ≠ .unknown) :
    Stands next row 12 := by
  have grown := changed.grown
  have sound := ordered.exclusive.sound
  have isRun : row.kind = .run :=
    ((sound.change changed).terminals row member (by simp [isStored])).1
  cases changed.origin member isRun with
  | kept oldMember docs unchecked =>
      exact (ordered.published row oldMember terminal isStored isKnown).frame
          (ordered.enrolled row oldMember isRun) grown rfl rfl docs trail
          unchecked
  | inserted absent phase noTerminal => cases noTerminal.symm.trans isStored
  | moved old after oldMember how frozen shape docs =>
      subst shape
      obtain ⟨origin, sameDocs, unchecked⟩ := how.stored
          (fun stored => (sound.terminals old oldMember stored).2) frozen
          isStored
      have stands : Stands sys old 12 := by
        rcases origin with already | ⟨_, published⟩
        · exact ordered.published old oldMember terminal already isKnown
        · obtain ⟨authority, approval, enrollment, publication⟩ :=
            published isKnown
          exact ordered.standing old oldMember isRun 12
              (by rw [publication.phase]; rfl)
      exact stands.frame (ordered.enrolled old oldMember isRun) grown rfl rfl
          (docs.trans sameDocs) trail unchecked

theorem waiting_step (ordered : Ordered sys) (exclusive : Exclusive next)
    (changed : Change reopened sys.journal next.journal label)
    (trail : Trail sys next label) {held : Claimed}
    (isHeld : held ∈ next.claimed) (isFence : held.fence = .start permit) :
    ∃ row ∈ next.journal.objects, row.key = (.run, permit.runUuid) ∧
        row.phase ∈ waitingPhases ∧ Stands next row 6 := by
  have grown := changed.grown
  have sound := ordered.exclusive.sound
  rcases trail.held isHeld with wasHeld | isClaimed
  · obtain ⟨row, member, isKey, phase, stands⟩ :=
      ordered.waiting held wasHeld permit isFence
    have isRun : row.kind = .run := congrArg Prod.fst isKey
    have isId : row.id = permit.runUuid := congrArg Prod.snd isKey
    have enrolled := ordered.enrolled row member isRun
    obtain ⟨version, versionMember, sameKey, sameIntent, origin⟩ :=
      changed.follow sound member isRun
    have sameId : version.id = row.id := congrArg Prod.snd sameKey
    refine ⟨version, versionMember, sameKey.trans isKey, ?_⟩
    rcases origin with ⟨same, docs, unchecked⟩ |
      ⟨after, how, frozen, shape, docs⟩
    · exact ⟨same ▸ phase,
          stands.frame enrolled grown sameId sameIntent docs trail unchecked⟩
    · have resource := sound.runner member isRun
      obtain ⟨stillWaits, sameDocs, unchecked⟩ :=
        how.waits isRun resource phase (stands.owned enrolled (by decide))
          (by
            rintro entering rfl sameRun
            refine exclusive.not_held trail.fence_entered.2 isHeld ?_
            rw [isFence, Fence.subject, Fence.subject, sameRun, isId])
      exact ⟨shape ▸ stillWaits, stands.frame enrolled grown sameId sameIntent
            (docs.trans sameDocs) trail unchecked⟩
  · subst isClaimed
    rw [isFence] at changed trail
    cases changed with
    | quiet label uncounted => simp at uncounted
    | moved label row after member how frozen objects docs =>
        have version :
            Journal.movedRow row after.phase after.cleanup after.terminal ∈
              next.journal.objects :=
          objects ▸ (Journal.mem_moved member).mpr (.inl rfl)
        have changedAgain : Change reopened sys.journal next.journal
              (.claimed (.start permit)) :=
          .moved _ row after member how frozen objects docs ‹_› ‹_›
        cases how with
        | claimed permit isRun phase issued runUuid =>
            refine ⟨_, version, ?_, by simp [Journal.movedRow, waitingPhases],
              ?_⟩
            · rw [runUuid]
              simp [RuntimeObject.key, Journal.movedRow, isRun]
            · exact ordered.standing_step changedAgain trail version isRun rfl

theorem step {action : Action} (ordered : Ordered sys)
    (stepped : sys.step? action = some next) :
    Ordered next := by
  obtain ⟨label, changed, trail⟩ := System.step?_moves stepped
  have exclusive := ordered.exclusive.step stepped
  have grown := changed.grown
  refine ⟨exclusive, ?_, ?_, ?_, ?_, ?_⟩
  · intro row member isRun
    have kept {id : Uuid} (enrolled :
          (Documents.get? sys.journal.runEnrollments id).isSome = true) :
        (Documents.get? next.journal.runEnrollments id).isSome = true := by
      obtain ⟨saved, isSaved⟩ := Option.isSome_iff_exists.mp enrolled
      rw [grown.runEnrollments.kept _ _ isSaved]
      rfl
    cases changed.origin member isRun with
    | kept oldMember => exact kept (ordered.enrolled row oldMember isRun)
    | inserted absent phase terminal enrolled => exact enrolled
    | moved old after oldMember how frozen shape =>
        subst shape
        exact kept (ordered.enrolled old oldMember isRun)
  · intro runId absent
    have wasAbsent : ∀ row ∈ sys.journal.objects, row.key ≠ (.run, runId) := by
      intro row member same
      obtain ⟨later, laterMember, persists⟩ :=
        changed.persists ordered.exclusive.sound member
      exact absent later laterMember (persists.key.trans same)
    obtain ⟨docs, unchecked⟩ := changed.unborn wasAbsent
    obtain ⟨noDocs, noPhases⟩ := ordered.unborn runId wasAbsent
    rw [docs, trail.checkedPhases, unchecked, noDocs, noPhases]
    exact ⟨rfl, rfl⟩
  · intro row member isRun stage isStage
    exact ordered.standing_step changed trail member isRun isStage
  · intro row member terminal isStored isKnown
    exact ordered.published_step changed trail member isStored isKnown
  · intro held isHeld permit isFence
    exact ordered.waiting_step exclusive changed trail isHeld isFence

theorem fresh (live : Bool) (digest : Digested → Digest) :
    Ordered (System.fresh live digest) where
  exclusive := .fresh live digest
  enrolled := by simp [System.fresh, Journal.fresh]
  unborn := fun _ _ => ⟨rfl, rfl⟩
  standing := by simp [System.fresh, Journal.fresh]
  published := by simp [System.fresh, Journal.fresh]
  waiting := by simp [System.fresh]

end Ordered

/-- The table has exactly one document under the key, and it fits. -/
structure HasOne
    {κ α : Type} [DecidableEq κ] (table : Documents.Table κ α) (key : κ)
    (fits : α → Prop) : Prop where
  one : (table.countP fun entry => decide (entry.1 = key)) = 1
  document :
    ∃ document, Documents.get? table key = some document ∧ fits document

theorem HasOne.ofGet {κ α : Type} [DecidableEq κ] {table : Documents.Table κ α}
    {key : κ} {document : α} {fits : α → Prop} (unique : Documents.Unique table)
    (found : Documents.get? table key = some document)
    (fitting : fits document) :
    HasOne table key fits where
  one := unique.countP found
  document := ⟨document, found, fitting⟩

/-- The tables of what a run has exactly one of. -/
structure Tidy (db : Journal) : Prop where
  enrollments : Documents.Unique db.runEnrollments
  ownerships : Documents.Unique db.ownerships
  startDispatches : Documents.Unique db.startDispatches
  runnerLives : Documents.Unique db.runnerLives
  probes : Documents.Unique db.probes
  paired : db.Paired

theorem Tidy.grown (tidy : Tidy old) (grown : Grown old new) : Tidy new where
  enrollments := grown.runEnrollments.unique tidy.enrollments
  ownerships := grown.ownerships.unique tidy.ownerships
  startDispatches := grown.startDispatches.unique tidy.startDispatches
  runnerLives := grown.runnerLives.unique tidy.runnerLives
  probes := grown.probes.unique tidy.probes
  paired := grown.paired tidy.paired

theorem Tidy.fresh (live : Bool) (digest : Digested → Digest) :
    Tidy (Journal.fresh live digest) where
  enrollments := .nil
  ownerships := .nil
  startDispatches := .nil
  runnerLives := .nil
  probes := .nil
  paired := rfl

/-- The checks that a run has to pass, in their order. -/
def requiredPhases (live : Bool) : List Phase :=
  if live then
    [.beforeCreate, .beforeStart, .beforeProbe, .afterProbe, .beforePublish]
  else
    [.beforeCreate, .beforeStart, .afterProbe, .beforePublish]

/-- What a run has passed and recorded, for its one enrollment. -/
structure Passed
    (sys : System) (row : RuntimeObject) (approval : RuntimeApproval)
    (enrollment : RuntimeEnrollment) (owned : Ownership) : Prop where
  approved :
    Documents.get? sys.journal.approvals row.intent.approvalUuid = some approval
  reserved :
    HasOne sys.journal.runEnrollments row.id fun saved => saved = enrollment
  order : sys.checkedPhases row.id = requiredPhases approval.isLive
  checks : ∀ phase ∈ requiredPhases approval.isLive, ∃ checked,
        Documents.get? sys.journal.phaseChecks (phase, row.id) = some checked ∧
          checked.target = enrollment.target
  ownership : HasOne sys.journal.ownerships (.runner, row.id) fun saved =>
      saved = owned
  ownershipRow : (sys.journal.ownershipRows.countP fun entry =>
      decide ((entry.domain, entry.resourceId) = (.runner, row.id))) = 1
  startDispatch : HasOne sys.journal.startDispatches row.id fun permit =>
      permit.runnerId = owned.receipt.containerId
  runnerLive : HasOne sys.journal.runnerLives row.id fun observed =>
      observed.containerId = owned.receipt.containerId
  probe : HasOne sys.journal.probes row.id fun document =>
      ∃ signed, .probed row.id signed ∈ sys.log ∧
          IsProbeOf document signed row.id owned.receipt.containerId

theorem Stands.passed
    (stands : Stands sys row 12) (tidy : Tidy sys.journal) (approved :
      Documents.get? sys.journal.approvals row.intent.approvalUuid =
        some approval)
    (reserved :
      Documents.get? sys.journal.runEnrollments row.id = some enrollment) :
    ∃ owned, Passed sys row approval enrollment owned := by
  have isLive (other : RuntimeApproval) (found :
        Documents.get? sys.journal.approvals row.intent.approvalUuid =
          some other) :
      other.isLive = approval.isLive := by
    rw [Option.some.inj (approved.symm.trans found)]
  have atStage := stands approval.isLive enrollment isLive reserved
  have order : passedBy approval.isLive 12 =
      requiredPhases approval.isLive := by
    cases approval.isLive <;> rfl
  obtain ⟨owned, isOwned⟩ :=
    Option.isSome_iff_exists.mp (atStage.owned (by decide))
  have names {containerId : String}
      (isNamed : Names (sys.journal.runner? row.id) containerId) :
      containerId = owned.receipt.containerId := by
    rw [Names, isOwned] at isNamed
    exact (Option.some.inj isNamed).symm
  have single := tidy.ownerships.countP isOwned
  obtain ⟨permit, isPermit, permitNames⟩ :=
    atStage.startDispatch.present (by decide)
  obtain ⟨observed, isObserved, observedNames⟩ :=
    atStage.runnerLive.present (by decide)
  obtain ⟨document, isDocument, signed, containerId, isRecorded, probeNames,
      isProbe⟩ :=
    atStage.probe.present (by decide)
  refine ⟨owned, approved, .ofGet tidy.enrollments reserved rfl,
      atStage.order.trans order, ?_,
      .ofGet tidy.ownerships isOwned rfl, ?_,
      .ofGet tidy.startDispatches isPermit (names permitNames),
      .ofGet tidy.runnerLives isObserved (names observedNames),
      .ofGet tidy.probes isDocument
        ⟨signed, isRecorded, names probeNames ▸ isProbe⟩⟩
  · intro phase member
    rw [← order, passedBy, List.mem_filter] at member
    exact (atStage.checks phase).present member.2
  · rw [tidy.paired, List.countP_map]
    exact single

/--
A step of the actions stored the terminal while the approval, the epoch and
the enrollment of the run were valid.
-/
def WasValid (first : System) (actions : List Action) (row : RuntimeObject)
    (terminal : Terminal) (approval : RuntimeApproval)
    (enrollment : RuntimeEnrollment) : Prop :=
  ∃ early action late middle next old version authority,
    actions = early ++ action :: late ∧
      Run System.step? anything first early middle ∧
      middle.step? action = some next ∧
      middle.journal.object? .run row.id = some old ∧
      old.terminal = none ∧
      next.journal.object? .run row.id = some version ∧
      version.terminal = some terminal ∧
      IsPublication middle.journal old authority approval enrollment
        next.journal.clockHighwater

namespace System

variable {first last : System} {actions : List Action}

theorem run_ordered (ordered : Ordered first) (tidy : Tidy first.journal)
    (run : Run step? anything first actions last) :
    Ordered last ∧ Tidy last.journal := by
  refine run.invariant (fun sys => Ordered sys ∧ Tidy sys.journal) ?_
    ⟨ordered, tidy⟩
  rintro sys action next _ stepped ⟨stillOrdered, stillTidy⟩
  obtain ⟨label, changed, _⟩ := step?_moves stepped
  exact ⟨stillOrdered.step stepped, stillTidy.grown changed.grown⟩

theorem run_documents {approvalUuid : Uuid}
    (run : Run step? anything first actions last) (approved :
      Documents.get? first.journal.approvals approvalUuid = some approval)
    (reserved :
      Documents.get? first.journal.runEnrollments runId = some enrollment) :
    Documents.get? last.journal.approvals approvalUuid = some approval ∧
      Documents.get? last.journal.runEnrollments runId =
        some enrollment := by
  refine run.invariant (fun sys =>
      Documents.get? sys.journal.approvals approvalUuid = some approval ∧
        Documents.get? sys.journal.runEnrollments runId = some enrollment)
    ?_ ⟨approved, reserved⟩
  rintro sys action next _ stepped ⟨stillApproved, stillReserved⟩
  obtain ⟨label, changed, _⟩ := step?_moves stepped
  exact ⟨changed.grown.approvals.kept _ _ stillApproved,
      changed.grown.runEnrollments.kept _ _ stillReserved⟩

/-- A known result was published by a valid step of the run. -/
theorem exists_publication {live : Bool} {digest : Digested → Digest}
    (run : Run step? anything (fresh live digest) actions sys)
    (member : row ∈ sys.journal.objects) (isRun : row.kind = .run)
    (isStored : row.terminal = some terminal)
    (isKnown : terminal.result ≠ .unknown) :
    ∃ approval enrollment,
      Documents.get? sys.journal.approvals row.intent.approvalUuid =
          some approval ∧
        Documents.get? sys.journal.runEnrollments row.id = some enrollment ∧
        WasValid (fresh live digest) actions row terminal approval
          enrollment := by
  obtain ⟨early, action, late, middle, next, split, earlyRun, stepped,
      lateRun, still, version, versionMember, isKey, versionStored⟩ :=
    run.exists_change (fun state =>
        ∃ version ∈ state.journal.objects,
          version.key = (.run, row.id) ∧ version.terminal = some terminal)
      (by simp [fresh, Journal.fresh])
      ⟨row, member, by rw [RuntimeObject.key, isRun], isStored⟩
  have sound := (run_ordered (.fresh live digest) (.fresh live digest)
      earlyRun).1.exclusive.sound
  obtain ⟨label, changed, _⟩ := step?_moves stepped
  have nextSound := sound.change changed
  cases changed.origin versionMember (congrArg Prod.fst isKey) with
  | kept oldMember =>
      exact absurd ⟨version, oldMember, isKey, versionStored⟩ still
  | inserted absent phase noTerminal =>
      cases noTerminal.symm.trans versionStored
  | moved old after oldMember how frozen shape docs =>
      subst shape
      have oldKey : old.key = (.run, row.id) := isKey
      obtain ⟨origin, _⟩ :=
        how.stored (fun stored => (sound.terminals old oldMember stored).2)
          frozen versionStored
      rcases origin with already | ⟨isOpen, published⟩
      · exact absurd ⟨old, oldMember, oldKey, already⟩ still
      obtain ⟨authority, approval, enrollment, publication⟩ := published isKnown
      have sameId : old.id = row.id := congrArg Prod.snd oldKey
      obtain ⟨lastSound, persists⟩ :=
        run_sound sound ((Run.single trivial stepped).append lateRun)
      obtain ⟨later, laterMember, persisted⟩ := persists old oldMember
      have isRow : later = row :=
        Rows.eq_of_key lastSound.keys laterMember member (persisted.key.trans
            (oldKey.trans (by rw [RuntimeObject.key, isRun])))
      have sameIntent : row.intent = old.intent := isRow ▸ persisted.intent
      obtain ⟨approved, reserved⟩ :=
        run_documents ((Run.single trivial stepped).append lateRun)
          publication.approved publication.reserved
      rw [← sameIntent] at approved
      rw [sameId] at reserved
      refine ⟨approval, enrollment, approved, reserved, early, action, late,
          middle, next, old, _, authority, split, earlyRun, stepped,
          Journal.object?_mem sound.keys oldMember oldKey, isOpen,
          Journal.object?_mem nextSound.keys versionMember isKey,
          versionStored, publication⟩

/--
A run with a known result has passed everything for its one enrollment, which
was valid when it was published, and a terminal never changes.
-/
theorem published_passed
    {live : Bool} {digest : Digested → Digest} {actions : List Action}
    {sys : System} {runId : Uuid} {row : RuntimeObject} {terminal : Terminal}
    (run : Run step? anything (fresh live digest) actions sys)
    (found : sys.journal.object? .run runId = some row)
    (isStored : row.terminal = some terminal) :
    (terminal.result ≠ .unknown → ∃ approval enrollment owned,
        Passed sys row approval enrollment owned ∧
          WasValid (fresh live digest) actions row terminal approval
            enrollment) ∧
      ∀ more last, Run step? anything sys more last → ∃ later,
          last.journal.object? .run runId = some later ∧
            later.terminal = some terminal ∧ later.phase = row.phase := by
  obtain ⟨ordered, tidy⟩ :=
    run_ordered (.fresh live digest) (.fresh live digest) run
  obtain ⟨member, isKey⟩ := Journal.object?_some found
  refine ⟨?_, ?_⟩
  · intro isKnown
    obtain ⟨approval, enrollment, approved, reserved, wasValid⟩ :=
      exists_publication run member (congrArg Prod.fst isKey) isStored isKnown
    obtain ⟨owned, passed⟩ :=
      (ordered.published row member terminal isStored isKnown).passed tidy
        approved reserved
    exact ⟨approval, enrollment, owned, passed, wasValid⟩
  · intro more last continued
    obtain ⟨lastSound, persists⟩ := run_sound ordered.exclusive.sound continued
    obtain ⟨later, laterMember, persisted⟩ := persists row member
    obtain ⟨sameTerminal, samePhase⟩ := persisted.frozen (by simp [isStored])
    exact ⟨later, Journal.object?_mem lastSound.keys laterMember
          (persisted.key.trans isKey),
        sameTerminal.trans isStored, samePhase⟩

end System

/-- The endpoint of a container of the pilot. -/
def pilotEndpoint (containerId ipv4 : String) : Endpoint where
  containerId := containerId
  networkId := "network"
  endpointId := containerId
  ipv4 := ipv4

/-- The first target as it was started. -/
def pilotTarget : TargetSnapshot where
  attempt := pilotAttempt 1
  runtimeBindingUuid := 11
  generationUuid := 12
  daemon := pilotDaemon
  containerId := "container"
  imageId := "target"
  startedAt :=
    { text := "9"
      timestamp := 9 }
  restartCount := 0
  running := true
  paused := false
  restarting := false
  dead := false
  endpoints := [pilotEndpoint "container" "10.0.0.2"]
  config := expectedConfig pilotStart.journal pilotApproval .target
  policyDigest := 3

/-- The observations of the first target and of its network. -/
def pilotBundle
    (receiptUuid contextUuid : Uuid) (phase : Phase) (runner : Option Endpoint)
    (runnerId : Option String) (observedAt : Timestamp) : Authority.Bundle where
  identity := signedBy "adapter" receiptUuid
      { common := observedNow receiptUuid contextUuid observedAt
        phase := phase
        target := pilotTarget }
  network := signedBy "adapter" (receiptUuid + 1)
      { common := observedNow (receiptUuid + 1) contextUuid observedAt
        phase := phase
        daemon := pilotDaemon
        networkProfileDigest := 1
        internal := true
        driver := "bridge"
        endpoints := pilotEndpoint "container" "10.0.0.2" :: runner.toList }
  egress := signedBy "egress" (receiptUuid + 2)
      { common := observedNow (receiptUuid + 2) contextUuid observedAt
        phase := phase
        targetDigest := 2012
        runnerId := runnerId
        daemon := pilotDaemon
        networkProfileDigest := 1
        enforcementReference := "rules"
        rulesDigest := 2
        defaultDeny := true
        onlyTarget8080 := true
        deniesHostMetadataPlatform := true
        antiSpoofing := true }
  validation := signedBy "validator" (receiptUuid + 3)
      { common := observedNow (receiptUuid + 3) contextUuid observedAt
        phase := phase
        enforcementReceiptDigest := receiptUuid + 2
        matrixDigest := 3
        passedCases := egressCases }

/-- The enrollment of the first target. -/
def pilotEnrollment : RuntimeEnrollment where
  enrollmentUuid := 40
  provisioningUuid := 10
  approvalUuid := 1
  approvalDigest := 101
  scope := "pilot"
  target := pilotTarget
  creationReceiptUuid := 52
  creationReceiptDigest := 52
  policyDigest := 3
  verificationMode := .offlineRuntimeChainV1

/-- The first target is started, verified and enrolled. -/
def pilotEnrolled : List Action :=
  [.claimTargetStart pilotAuthority 10 (signedBy "adapter" 54
        { common := observedNow 54 10 8
          daemon := pilotDaemon })
      8,
    .enter 0 9 9 .returned,
    .verifyProvision pilotAuthority 10
      (pilotBundle 60 10 .enroll none none 10) 10,
    .enroll pilotAuthority 10 40 11]

/-- The request for a run on the first target. -/
def pilotRunRequest : RunRequest where
  requestUuid := 41
  enrollmentUuid := 40
  attempt := pilotAttempt 1
  sampleSlot := 42
  ordinary := none

/-- The intent of the run. -/
def pilotRunIntent : CreateIntent :=
  runIntent pilotStart.journal pilotApproval pilotRunRequest
    pilotEnrollment 6042 43 12

/-- The permit to create the runner. -/
def pilotRunPermit : DispatchPermit where
  permitUuid := 44
  intentUuid := 43
  resource := .runner
  intentDigest := 1043
  controlEpoch := 1
  deadline := pilotRunIntent.deadline

/-- The permit to start the runner. -/
def pilotStartPermit : StartPermit where
  permitUuid := 45
  runUuid := 43
  enrollmentDigest := 3040
  runnerId := "checker"
  controlEpoch := 1
  deadline := pilotRunIntent.deadline

/-- The runner as it is observed. -/
def pilotRunner
    (receiptUuid : Uuid) (state : RunnerState) (startedAt : Option Timestamp)
    (observedAt : Timestamp) : Attestation RunnerObservation :=
  signedBy "adapter" receiptUuid
    { common := observedNow receiptUuid 43 observedAt
      daemon := pilotDaemon
      containerId := "checker"
      imageId := "runner"
      config := expectedConfig pilotStart.journal pilotApproval .runner
      state := state
      startedAt := startedAt.map fun timestamp =>
          { text := "started"
            timestamp := timestamp }
      restartCount := 0
      endpoint := startedAt.map fun _ => pilotEndpoint "checker" "10.0.0.3"
      paused := false
      restarting := false
      dead := false
      exitCode := none }

/-- The probe of the run, which finds the service. -/
def pilotProbe : Attestation ProbeResponse :=
  signedBy "adapter" 93
    { common := observedNow 93 43 23
      runnerId := "checker"
      runnerImageId := "runner"
      checkerSourceDigest := 2
      targetDigest := 2012
      policyDigest := 3
      status := 200
      body := expectedBody
      complete := true
      transport := .none }

/-- A run is reserved, and its runner created and owned. -/
def pilotReserved : List Action :=
  [.reserveRun pilotAuthority pilotRunRequest pilotEnrollment 43 12,
    .guarded pilotAuthority 43 (.checkTarget .beforeCreate
        (pilotBundle 70 43 .beforeCreate none none 13) none)
      13,
    .beginCreate pilotAuthority pilotRunIntent (signedBy "adapter" 55
        { common := observedNow 55 43 14
          daemon := pilotDaemon })
      44 14,
    .claimCreate pilotAuthority pilotRunPermit 15,
    .enter 0 16 16 .returned,
    .recordCreateResponse pilotAuthority pilotRunPermit (signedBy "adapter" 56
        { common := observedNow 56 43 17
          daemon := pilotDaemon
          permitUuid := 44
          resource := .runner
          intentDigest := 1043
          containerId := "checker"
          imageId := "runner" })
      17]

/-- The runner is started and probes the target. -/
def pilotProbed : List Action :=
  [.guarded pilotAuthority 43 (.checkTarget .beforeStart
        (pilotBundle 74 43 .beforeStart none (some "checker") 18)
        (some (pilotRunner 90 .created none 18)))
      18,
    .authorizeStart pilotAuthority 43 45 19,
    .claimStart pilotAuthority pilotStartPermit 20,
    .enter 0 21 21 .returned,
    .guarded pilotAuthority 43
      (.recordRunnerLive (pilotRunner 91 .running (some 21) 22)) 22,
    .guarded pilotAuthority 43 (.recordProbe pilotProbe) 23]

/-- The target is checked again, and the result published. -/
def pilotPublished : List Action :=
  [.guarded pilotAuthority 43 (.checkTarget .afterProbe
        (pilotBundle 78 43 .afterProbe
          (some (pilotEndpoint "checker" "10.0.0.3")) (some "checker") 24)
        (some (pilotRunner 94 .running (some 21) 24)))
      24,
    .guarded pilotAuthority 43 (.checkTarget .beforePublish
        (pilotBundle 82 43 .beforePublish
          (some (pilotEndpoint "checker" "10.0.0.3")) (some "checker") 25)
        (some (pilotRunner 95 .running (some 21) 25)))
      25,
    .publish pilotAuthority 43 26]

/-- All actions up to the publication of the run. -/
def pilotActions : List Action :=
  pilotApproved ++ pilotCreated ++ pilotEnrolled ++ pilotReserved ++
    pilotProbed ++ pilotPublished

/-- The run of the pilot is published. -/
def pilotDone : System := Runs.after System.step? pilotStart pilotActions

theorem published_passed_pilot :
    ∃ row terminal approval enrollment owned,
      pilotDone.journal.object? .run 43 = some row ∧
        row.terminal = some terminal ∧ terminal.result = .passed ∧
        Passed pilotDone row approval enrollment owned ∧
        WasValid pilotStart pilotActions row terminal approval
          enrollment := by
  have isStored : ((pilotDone.journal.object? .run 43).bind
          RuntimeObject.terminal).map Terminal.result = some .passed := by
    decide
  obtain ⟨terminal, found, isPassed⟩ := Option.map_eq_some_iff.mp isStored
  obtain ⟨row, isRow, stored⟩ := Option.bind_eq_some_iff.mp found
  obtain ⟨approval, enrollment, owned, passed, wasValid⟩ :=
    (System.published_passed (run_after (fun _ _ _ => trivial) (by decide) :
        Run System.step? anything pilotStart pilotActions pilotDone)
      isRow stored).1 (by simp [isPassed])
  exact ⟨row, terminal, approval, enrollment, owned, isRow, stored, isPassed,
      passed, wasValid⟩

/-! ## Records -/

theorem Grown.refl (db : Journal) : Grown db db :=
  ⟨.refl _, .refl _, .refl _, .refl _, .refl _, .refl _, .refl _, .refl _, id⟩

theorem Grown.trans {first second third : Journal} (early : Grown first second)
    (late : Grown second third) :
    Grown first third where
  approvals := early.approvals.trans late.approvals
  createDispatches := early.createDispatches.trans late.createDispatches
  targetStartDispatches :=
    early.targetStartDispatches.trans late.targetStartDispatches
  ownerships := early.ownerships.trans late.ownerships
  runEnrollments := early.runEnrollments.trans late.runEnrollments
  startDispatches := early.startDispatches.trans late.startDispatches
  runnerLives := early.runnerLives.trans late.runnerLives
  probes := early.probes.trans late.probes
  paired := late.paired ∘ early.paired

/-- From any moment of a run to any later one, every document that was recorded
(approvals, dispatches, ownerships, enrollments, runner lives and probes) is
the one that is found, and no object is removed or changes its intent. -/
theorem System.records_kept {live : Bool} {digest : Digested → Digest}
    {early late : List Action} {first last : System}
    (reached : Run step? anything (fresh live digest) early first)
    (run : Run step? anything first late last) :
    Grown first.journal last.journal ∧
      ∀ kind id row, first.journal.object? kind id = some row →
        ∃ later, last.journal.object? kind id = some later ∧
          later.intent = row.intent := by
  obtain ⟨ordered, _⟩ :=
    run_ordered (.fresh live digest) (.fresh live digest) reached
  obtain ⟨lastSound, persists⟩ := run_sound ordered.exclusive.sound run
  refine ⟨?_, fun kind id row found => ?_⟩
  · refine run.invariant (fun sys => Grown first.journal sys.journal) ?_
      (.refl _)
    rintro sys action next _ stepped grown
    obtain ⟨label, changed, _⟩ := step?_moves stepped
    exact grown.trans changed.grown
  · obtain ⟨member, isKey⟩ := Journal.object?_some found
    obtain ⟨later, laterMember, persisted⟩ := persists row member
    exact ⟨later, Journal.object?_mem lastSound.keys laterMember
          (persisted.key.trans isKey),
        persisted.intent⟩

/-- The records are kept while a clean-up is taken back. -/
theorem System.records_kept_reopened :
    Grown pilotCleaned.journal
      (Runs.after System.step? pilotCleaned pilotReopened).journal :=
  (System.records_kept (run_after (fun _ _ _ => trivial) (by decide) :
      Run System.step? anything pilotStart
        (pilotApproved ++ pilotCreated ++ pilotRemoved) pilotCleaned)
    (run_after (fun _ _ _ => trivial) (by decide) :
      Run System.step? anything pilotCleaned pilotReopened
        (Runs.after System.step? pilotCleaned pilotReopened))).1

end TicketSandbox.Runtime
