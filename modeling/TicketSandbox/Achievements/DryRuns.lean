import TicketSandbox.Achievements.Predictions
import TicketSandbox.Achievements.SourceOrder

namespace TicketSandbox.Achievements

/-!
# A dry run and the reconciliation it predicts

After any calls, a reconciliation of a stored definition that is applied
records what its dry run says, unless staff has used its operation id for
another grant.
-/

open Raises
open Runs
open Sandbox (Pk Timestamp Text)
open Grants Reconciliation

/-- A grant with other parameters has used the operation id of the
reconciliation. -/
def IsTaken (db : Db) (userId : Pk) (definition : AchievementDefinition)
    (evaluation : Evaluation) (version : Nat) (tier : AchievementTier) : Prop :=
  ∃ receipt, db.operation? (db.digest (.operation userId definition.pk "grant"
            (reconciledGrant db userId definition evaluation
              version).operationId)) =
      some receipt ∧
      receipt.requestDigest ≠ grantDigest db
          (reconciledGrant db userId definition evaluation version) tier

/-- The event that a dry run predicts. -/
def Reconciliation.Report.predicted? (report : Report) : Option EventAction :=
  match report.action with
  | some (.predicted outcome) => outcome.action?
  | _ => none

/-- The reconciliation that is applied does what its dry run says. -/
structure FollowsDryRun
    (db : Db) (world : World) (userId : Pk) (definition : AchievementDefinition)
    (version : Nat) (now : Timestamp) (dry : Report) : Prop where
  leaves : dry.predicted? = none → Leaves db
        (db.call (.reconcile world userId definition true version now)).1
        userId definition.pk
  records : ∀ action ∈ dry.predicted?, ∃ tier,
      db.tier? definition.pk (dry.evaluation.tierCode.getD "") = some tier ∧
        (IsTaken db userId definition dry.evaluation version tier →
          db.call (.reconcile world userId definition true version now) = (db,
              some (.grantConflict
                  "operation_id уже использован с другими параметрами."))) ∧
        (¬ IsTaken db userId definition dry.evaluation version tier →
          ∃ next report outcome eventId,
            reconcile db world userId definition true version now =
                .ok (next, report) ∧
              report.action = some (.applied outcome eventId) ∧
              outcome.action? = some action ∧
              Records db next userId definition.pk tier action eventId)

/-! ## The grant of a reconciliation -/

variable {definition : AchievementDefinition} {db flagged next : Db}
  {world : World} {version : Nat} {now : Timestamp} {dry : Report}
  {tier : AchievementTier}

theorem mem_tiersOf {catalog : Catalog} {tier : AchievementTier} :
    tier ∈ SandboxAdvanced.tiersOf catalog definition ↔
      tier ∈ catalog.tiers ∧ tier.definitionId = definition.pk := by
  simp [SandboxAdvanced.tiersOf]

theorem grantedTier_earned {db : Db} {definition : AchievementDefinition}
    {evaluation : Evaluation} {request : GrantRequest} {now : Timestamp}
    (grantable : Evaluators.IsGrantable db.catalog definition now evaluation)
    (stored : db.definition? definition.pk = some definition)
    (sameDefinition : request.definitionId = definition.pk)
    (sameCode : request.tierCode = evaluation.tierCode.getD "")
    (sameVersion : definition.ruleVersion = request.ruleVersion) :
    ∃ tier, db.tier? definition.pk (evaluation.tierCode.getD "") = some tier ∧
        grantedTier db request = .ok tier := by
  obtain ⟨⟨schema, checked⟩, ⟨earned, member, code, automatic⟩, _⟩ := grantable
  obtain ⟨listed, about⟩ := mem_tiersOf.mp member
  have isCode : evaluation.tierCode.getD "" = earned.code := by
    rw [code]
    rfl
  cases found : db.tier? definition.pk (evaluation.tierCode.getD "") with
  | none =>
      have unmatched := List.find?_eq_none.mp found earned listed
      exact (unmatched (decide_eq_true ⟨about, isCode.symm⟩)).elim
  | some tier =>
      have matched := List.find?_some found
      obtain ⟨isAbout, sameAsCode⟩ := of_decide_eq_true matched
      have isMember : tier ∈ SandboxAdvanced.tiersOf db.catalog definition :=
        mem_tiersOf.mpr ⟨List.mem_of_find?_eq_some found, isAbout⟩
      have same : tier.parameters = earned.parameters :=
        checked.parameters_eq isMember member (sameAsCode.trans isCode)
      refine ⟨tier, rfl, ?_⟩
      refine bind_ok.mpr
        ⟨definition, required_ok.mpr (sameDefinition ▸ stored), ?_⟩
      refine bind_ok.mpr ⟨schema, checked.validated, ?_⟩
      refine bind_ok.mpr ⟨(), ensure_ok.mpr ⟨checked.active, sameVersion⟩, ?_⟩
      refine bind_ok.mpr
        ⟨tier, required_ok.mpr (sameDefinition ▸ sameCode ▸ found), ?_⟩
      refine bind_ok.mpr ⟨(), checked.checked tier isMember, ?_⟩
      exact bind_ok.mpr ⟨(), ensure_ok.mpr
            (.inr ((congrArg Parameters.automatic same).trans automatic)),
          rfl⟩

theorem operationKey_reconciled (db : Db) (userId definitionId : Pk)
    {digest : Digest} (short : (toString digest).length ≤ 140) :
    operationKey db userId definitionId "grant"
        ("reconcile:" ++ toString digest).toList =
      .ok (db.digest (.operation userId definitionId "grant"
            ("reconcile:" ++ toString digest).toList)) := by
  have listed : ("reconcile:" ++ toString digest).toList =
        'r' :: ("econcile:".toList ++ (toString digest).toList) := by
    rw [String.toList_append]
    rfl
  refine bind_ok.mpr ⟨(), ensure_ok.mpr ⟨?_, ?_⟩, rfl⟩
  · rw [listed]
    exact Strip.strip_cons_ne_nil (by decide) _
  · rw [String.length_toList, String.length_append]
    exact Nat.add_le_add_left short 10

theorem reconciledGrant_passes
    {db flagged : Db} {userId : Pk} {definition : AchievementDefinition}
    {evaluation : Evaluation} {version : Nat} {now : Timestamp}
    (ground : SameGround db flagged) (known : db.hasUser userId = true)
    (stored : db.definition? definition.pk = some definition)
    (grantable : Evaluators.IsGrantable db.catalog definition now evaluation)
    (short : (toString (db.digest (.report evaluation))).length ≤ 140)
    (sameVersion : definition.ruleVersion = version) :
    ∃ tier, db.tier? definition.pk (evaluation.tierCode.getD "") = some tier ∧
        Passes flagged
          (reconciledGrant db userId definition evaluation version) now tier
          (db.digest (.operation userId definition.pk "grant"
              (reconciledGrant db userId definition evaluation
                version).operationId)) := by
  have sameTier : flagged.tier? = db.tier? := by
    funext definitionId code
    rw [Db.tier?, Db.tier?, ground.catalog]
  have isStored : flagged.definition? definition.pk = some definition := by
    rw [Db.definition?, ground.catalog]
    exact stored
  have isGrantable :
      Evaluators.IsGrantable flagged.catalog definition now evaluation := by
    rw [ground.catalog]
    exact grantable
  obtain ⟨tier, found, accepted⟩ :=
    @grantedTier_earned flagged definition evaluation
      (reconciledGrant db userId definition evaluation version) now
      isGrantable isStored rfl rfl sameVersion
  obtain ⟨instant, dated, past⟩ := grantable.earned.date
  refine ⟨tier, sameTier ▸ found, rfl, rfl, rfl, ⟨instant, ?_, past⟩, ?_,
    accepted, ?_⟩
  · simp [reconciledGrant, dated]
  · rw [ground.hasUser]
    exact known
  · rw [← ground.digest]
    exact operationKey_reconciled flagged userId definition.pk
      (ground.digest ▸ short)

/-! ## The reports -/

variable {userId : Pk}

theorem reconcile_dryRun {same : Db} (dryRun :
      reconcile db world userId definition false version now =
        .ok (same, dry)) :
    same = db ∧ definition.ruleVersion = version ∧
      dry.evaluation = world.evaluate userId definition ∧
      (dry.evaluation.status ≠ .eligible → dry.predicted? = none) ∧
      ∀ tier,
        db.tier? definition.pk (dry.evaluation.tierCode.getD "") = some tier →
          dry.evaluation.status = .eligible →
          dry.predicted? =
            ((db.award userId definition.pk).foretell tier).action? := by
  unfold reconcile at dryRun
  obtain ⟨_, version, dryRun⟩ := bind_ok.mp dryRun
  rw [if_neg Bool.false_ne_true] at dryRun
  unfold run at dryRun
  obtain ⟨_, _, dryRun⟩ := bind_ok.mp dryRun
  obtain ⟨flagged, undisputed, dryRun⟩ := bind_ok.mp dryRun
  cases undisputed
  obtain ⟨⟨next, action⟩, concluded, dryRun⟩ := bind_ok.mp dryRun
  cases dryRun
  refine ⟨?_, ensure_ok.mp version, rfl, ?_, ?_⟩
  · unfold conclude at concluded
    split at concluded
    · obtain ⟨tier, _, concluded⟩ := bind_ok.mp concluded
      rw [if_neg Bool.false_ne_true] at concluded
      cases concluded
      rfl
    · cases concluded
      rfl
  · intro other
    have unearned : ¬ (world.evaluate userId definition).status = .eligible :=
      other
    rw [conclude, if_neg unearned] at concluded
    cases concluded
    rfl
  · intro tier found earned
    have isEarned : (world.evaluate userId definition).status = .eligible :=
      earned
    rw [conclude, if_pos isEarned] at concluded
    obtain ⟨other, looked, concluded⟩ := bind_ok.mp concluded
    rw [if_neg Bool.false_ne_true] at concluded
    cases concluded
    have sameTier : some tier = some other :=
      found.symm.trans (required_ok.mp looked)
    cases sameTier
    rw [Report.predicted?, predict_eq]

theorem reconcile_applied {db flagged : Db} {world : World} {userId : Pk}
    {definition : AchievementDefinition} {version : Nat} {now : Timestamp}
    (known : db.hasUser userId = true)
    (stored : db.definition? definition.pk = some definition)
    (sameVersion : definition.ruleVersion = version) (disputed :
      disputeProblems db world userId definition
          (world.evaluate userId definition)
          (db.achievement? userId definition.pk) now =
        .ok flagged) :
    reconcile db world userId definition true version now =
      (conclude db flagged userId definition
          (world.evaluate userId definition) true version now).map
        fun concluded =>
          (concluded.1,
            { reportOf db world userId definition
                (world.evaluate userId definition) true with
              action := concluded.2 }) := by
  have versions : ensure (definition.ruleVersion = version)
          (Failure.validation "Версия правила изменилась.") =
        .ok () :=
    ensure_ok.mpr sameVersion
  have locks : lockUser db userId = .ok () := ensure_ok.mpr known
  have reads : required (Failure.doesNotExist "AchievementDefinition")
          (db.definition? definition.pk) =
        .ok definition :=
    required_ok.mpr stored
  simp only [reconcile, run, versions, locks, reads, disputeIfApplied,
    disputed, bind, Except.bind, if_true]
  cases conclude db flagged userId definition
      (world.evaluate userId definition) true version now with
  | error failure => rfl
  | ok concluded => rfl

theorem conclude_earned
    {db flagged : Db} {userId : Pk} {definition : AchievementDefinition}
    {evaluation : Evaluation} {version : Nat} {now : Timestamp}
    {tier : AchievementTier} (earned : evaluation.status = .eligible)
    (found : db.tier? definition.pk (evaluation.tierCode.getD "") = some tier) :
    conclude db flagged userId definition evaluation true version now =
      (grant flagged
          (reconciledGrant db userId definition evaluation version) now).map
        fun granted =>
          (granted.1, some (.applied granted.2.outcome granted.2.eventId)) := by
  have looks : required (Failure.doesNotExist "AchievementTier")
          (db.tier? definition.pk (evaluation.tierCode.getD "")) =
        .ok tier :=
    required_ok.mpr found
  rw [conclude, if_pos earned, looks]
  cases grant flagged
      (reconciledGrant db userId definition evaluation version) now with
  | error failure => rfl
  | ok granted => rfl

theorem OnlyDisputed.leaves_trans
    {definitionId : Pk} (disputed : OnlyDisputed db flagged)
    (leaves : Leaves flagged next userId definitionId) :
    Leaves db next userId definitionId where
  proofs := leaves.proofs.trans disputed.proofs
  award := leaves.award.trans (disputed.idle.awards userId definitionId)

theorem OnlyDisputed.records_trans {definitionId : Pk} {action : EventAction}
    {eventId : Option Pk} (disputed : OnlyDisputed db flagged)
    (records : Records flagged next userId definitionId tier action eventId) :
    Records db next userId definitionId tier action eventId := by
  obtain ⟨recorded, active⟩ := records
  rw [disputed.proofs] at recorded
  exact ⟨recorded, active⟩

theorem followsDryRun_unearned (disputed : OnlyDisputed db flagged)
    (unearned : ¬ (world.evaluate userId definition).status = .eligible)
    (applied : reconcile db world userId definition true version now =
        (conclude db flagged userId definition
            (world.evaluate userId definition) true version now).map
          fun concluded =>
            (concluded.1,
              { reportOf db world userId definition
                  (world.evaluate userId definition) true with
                action := concluded.2 }))
    (predicted : dry.predicted? = none) :
    FollowsDryRun db world userId definition version now dry := by
  refine ⟨fun _ => ?_, fun action isPredicted => ?_⟩
  · rw [conclude, if_neg unearned] at applied
    simp only [Db.call, applied, Except.map, atomic]
    exact disputed.leaves userId definition.pk
  · rw [predicted] at isPredicted
    cases isPredicted

/-- An eligible evaluation is granted as predicted, unless the operation id is
taken. -/
theorem followsDryRun_earned
    (honoured : Honoured flagged) (disputed : OnlyDisputed db flagged) (found :
      db.tier? definition.pk (dry.evaluation.tierCode.getD "") = some tier)
    (passes : Passes flagged
        (reconciledGrant db userId definition dry.evaluation version) now
        tier
        (db.digest (.operation userId definition.pk "grant"
            (reconciledGrant db userId definition dry.evaluation
              version).operationId)))
    (applied : reconcile db world userId definition true version now =
        ((grant flagged
            (reconciledGrant db userId definition dry.evaluation version)
            now).map
          fun granted =>
            (granted.1, some (ReportAction.applied granted.2.outcome
                granted.2.eventId))).map
          fun concluded =>
            (concluded.1,
              { reportOf db world userId definition dry.evaluation true with
                action := concluded.2 }))
    (predicted : dry.predicted? =
        ((db.award userId definition.pk).foretell tier).action?) :
    FollowsDryRun db world userId definition version now dry := by
  have sameOperation : flagged.operation? = db.operation? := by
    funext key
    rw [Db.operation?, Db.operation?, disputed.idle.operations]
  have sameDigest : grantDigest flagged
          (reconciledGrant db userId definition dry.evaluation version)
          tier =
        grantDigest db
          (reconciledGrant db userId definition dry.evaluation version)
          tier := by
    rw [grantDigest, grantDigest, disputed.idle.ground.digest]
  have sameAward := disputed.idle.awards userId definition.pk
  have conflicts : IsTaken db userId definition dry.evaluation version tier →
        db.call (.reconcile world userId definition true version now) = (db,
            some (.grantConflict
                "operation_id уже использован с другими параметрами.")) := by
    rintro ⟨receipt, held, other⟩
    have raises :=
      passes.grant_taken (sameOperation ▸ held) (sameDigest ▸ other)
    simp only [Db.call, applied, raises, Except.map, atomic]
  by_cases taken : IsTaken db userId definition dry.evaluation version tier
  · refine ⟨fun _ => ?_, fun action isPredicted => ?_⟩
    · rw [conflicts taken]
      exact ⟨rfl, rfl⟩
    · exact ⟨tier, found, conflicts, fun free => (free taken).elim⟩
  · have repeats : ∀ receipt, flagged.operation? (db.digest
                (.operation userId definition.pk "grant"
                  (reconciledGrant db userId definition dry.evaluation
                    version).operationId)) =
            some receipt →
          receipt.requestDigest = grantDigest flagged
              (reconciledGrant db userId definition dry.evaluation version)
              tier := by
      intro receipt held
      by_contra other
      exact taken ⟨receipt, sameOperation ▸ held, sameDigest ▸ other⟩
    obtain ⟨next, reply, granted, foretold⟩ :=
      passes.grant_foretold disputed.keyed disputed.logged honoured repeats
    rw [granted] at applied
    refine ⟨fun isNone => ?_, fun action isPredicted => ?_⟩
    · simp only [Db.call, applied, Except.map, atomic]
      refine disputed.leaves_trans (foretold.leaves ?_)
      exact sameAward ▸ predicted ▸ isNone
    · refine ⟨tier, found, conflicts, fun _ => ?_⟩
      have isForetold : action ∈
            ((flagged.award userId definition.pk).foretell tier).action? := by
        rw [sameAward, ← predicted]
        exact isPredicted
      obtain ⟨outcome, records⟩ := foretold.records action isForetold
      refine ⟨next, _, reply.outcome, reply.eventId, applied, rfl, ?_,
        disputed.records_trans records⟩
      rw [outcome]
      exact isForetold

/--
After any calls, a reconciliation of a stored definition that is applied
records the event that its dry run predicts, and none when it predicts none,
unless its operation id was used for another grant; it raises then.
-/
theorem reconcile_followsDryRun
    {catalog : Catalog} {hasUser : Pk → Bool} {digest : Digested → Digest}
    {boundary : Option Timestamp} (collisionFree : Function.Injective digest)
    (constraints : catalog.Constraints) {calls : List Call} {db : Db} (history :
      Run Db.step? anything (Db.empty catalog hasUser digest boundary) calls db)
    {world : World} {sources : Evaluators.Sources} {userId : Pk}
    {definition : AchievementDefinition} {version : Nat} {now : Timestamp}
    (known : db.hasUser userId = true)
    (stored : db.definition? definition.pk = some definition)
    (timely : sources.IsTimely now)
    (evaluated : Evaluators.evaluate db.catalog sources userId definition now =
        some (world.evaluate userId definition))
    (short : (toString
        (db.digest (.report (world.evaluate userId definition)))).length ≤ 140)
    {same : Db} {dry : Report}
    (dryRun : reconcile db world userId definition false version now =
        .ok (same, dry)) :
    same = db ∧
      FollowsDryRun db world userId definition version now dry := by
  obtain ⟨unchanged, sameVersion, isEvaluation, unearned, predicted⟩ :=
    reconcile_dryRun dryRun
  refine ⟨unchanged, ?_⟩
  have keyedFirst : Keyed (Db.empty catalog hasUser digest boundary) :=
    ⟨List.nodup_nil, by simp [Db.empty]⟩
  obtain ⟨honoured, keyed⟩ :=
    (Honoured.empty catalog hasUser digest boundary collisionFree
      constraints).run keyedFirst history
  have logged := (Logged.empty catalog hasUser digest boundary).run history
  obtain ⟨flagged, disputes, disputed⟩ :=
    OnlyDisputed.disputeProblems keyed logged world userId definition
      (world.evaluate userId definition)
      (db.achievement? userId definition.pk) now known
  have applied := reconcile_applied known stored sameVersion disputes
  by_cases earned : (world.evaluate userId definition).status = .eligible
  · have grantable := Evaluators.evaluate_grantable timely evaluated earned
    obtain ⟨tier, found, passes⟩ :=
      reconciledGrant_passes disputed.idle.ground known stored grantable
        short sameVersion
    rw [conclude_earned earned found] at applied
    rw [← isEvaluation] at applied found passes earned
    exact followsDryRun_earned (honoured.service (.idle disputed.idle)) disputed
        found passes applied (predicted tier found earned)
  · refine followsDryRun_unearned disputed earned applied (unearned ?_)
    rw [isEvaluation]
    exact earned

/-! ## Examples -/

/-- A card whose last visit began on the day, after one in another group. -/
def visitedDiary (first last : TraineeDiary.StageGroup)
    (day : TraineeDiary.Day) : TraineeDiary.Diary where
  stages := [TraineeDiary.sampleStage 1 first, TraineeDiary.sampleStage 2 last]
  journey := { TraineeDiary.sampleJourney 2 0 with stageStartedAt := day }
  history :=
    [{ id := 1
       journeyId := 1
       stageId := 1
       startedAt := 0
       endedAt := some day
       changedById := none
       note := [] },
      { id := 2
        journeyId := 1
        stageId := 2
        startedAt := day
        endedAt := none
        changedById := some 1
        note := [] }]
  metrics := []
  transfer := none
  historySequence := 3

/-- The tables of an example, in which every date is the instant one. -/
def sourcesOf (diary : TraineeDiary.Diary) : Evaluators.Sources where
  diary := some diary
  users := [{ id := 1, isStaff := true }]
  confirmations := []
  completion := none
  attempts := []
  creditAttempts := []
  ledger := SandboxAdvanced.passedProof
  today := 60
  atDate := fun _ => 1
  fingerprint := fun _ => ""
  ledgerEvidence := fun _ => {}
  write := fun _ => ""

theorem numbered_independence : numbered (.report independence) = 0 :=
  if_pos rfl

/-- The definition of the probation of new hires. -/
def probationNewHire : AchievementDefinition where
  pk := 5
  code := "probation_new_hire"
  kind := .tiered
  active := true
  applicability := .newHire
  evaluatorKey := "probation_new_hire"
  ruleVersion := 1
  artKey := "probation"

/-- A new hire who completed the probation on its fiftieth day. -/
def probationSources : Evaluators.Sources :=
  sourcesOf
    { visitedDiary .noReview .done 49 with
      journey :=
        { TraineeDiary.sampleJourney 2 0 with
          stageStartedAt := 49
          completionStatus := .success
          completedAt := some 49
          completedById := some 1 } }

theorem evaluate_probation :
    Evaluators.evaluate Catalog.seedCatalog probationSources 5
        probationNewHire 2 =
      some independence := by
  have tiers : SandboxAdvanced.tiersOf Catalog.seedCatalog probationNewHire =
        Catalog.seedCatalog.tiers.filter fun tier =>
          decide (tier.definitionId = 5) := by
    refine List.mergeSort_of_pairwise ?_
    decide
  simp only [Evaluators.evaluate, tiers]
  decide

/-- What the evaluators find for the new hire. -/
def probationWorld : World where
  metrics := []
  hasJourney := fun _ _ => true
  atDate := fun _ => 1
  evaluate := fun _ _ => independence

/-- Staff grants bronze, under the operation id of a reconciliation. -/
def staffGrant : GrantRequest where
  userId := 5
  definitionId := 5
  tierCode := "bronze"
  evidence := {}
  occurredAt := .aware 1
  sourceType := "manual"
  sourceRef := "reconcile:0".toList
  operationId := "reconcile:0".toList
  actor := some { pk := 1, isAuthenticated := true, isStaff := true }
  reason := "x".toList

/-- Staff has granted bronze under an operation id of its own. -/
noncomputable def Db.bronzeGranted : Db :=
  (Db.numbered.call
    (.grant { staffGrant with operationId := "staff".toList } 1)).1

/-- After that grant the dry run predicts an upgrade to silver. -/
theorem reconcile_followsDryRun_upgrade :
    ∃ dry, reconcile Db.bronzeGranted probationWorld 5 probationNewHire
          false 1 2 =
        .ok (Db.bronzeGranted, dry) ∧
        dry.predicted? = some .upgrade ∧
        FollowsDryRun Db.bronzeGranted probationWorld 5 probationNewHire 1 2
          dry := by
  have constraints : Catalog.seedCatalog.Constraints := ⟨by decide, by decide⟩
  have short : (toString (numbered (.report independence))).length ≤ 140 := by
    rw [numbered_independence]
    decide
  obtain ⟨dry, dryRun, predicted⟩ : ∃ dry,
        reconcile Db.bronzeGranted probationWorld 5 probationNewHire false 1 2 =
          .ok (Db.bronzeGranted, dry) ∧
          dry.predicted? = some .upgrade :=
    ⟨_, rfl, rfl⟩
  have follows := (@reconcile_followsDryRun Catalog.seedCatalog
      (fun userId => userId == 5) numbered none numbered_injective
      constraints [_] Db.bronzeGranted (.single trivial rfl) probationWorld
      probationSources 5 probationNewHire 1 2 rfl rfl
      (fun _ _ => (by decide : (1 : Timestamp) ≤ 2)) evaluate_probation short
      Db.bronzeGranted dry dryRun).2
  exact ⟨dry, dryRun, predicted, follows⟩

/-- The tables after the grant of staff. -/
noncomputable def Db.staffGranted : Db :=
  (Db.numbered.call (.grant staffGrant 1)).1

/--
Staff has granted bronze under the operation id that the reconciliation of the
new hire uses: the dry run predicts an upgrade to silver, and the
reconciliation that is applied raises.
-/
theorem reconcile_conflicts :
    Function.Injective numbered ∧
      Run Db.step? anything Db.numbered [.grant staffGrant 1] Db.staffGranted ∧
      Evaluators.evaluate Db.staffGranted.catalog probationSources 5
          probationNewHire 2 =
        some (probationWorld.evaluate 5 probationNewHire) ∧
      (∃ dry,
        reconcile Db.staffGranted probationWorld 5 probationNewHire false 1 2 =
          .ok (Db.staffGranted, dry) ∧
          dry.predicted? = some .upgrade) ∧
      Db.staffGranted.call
          (.reconcile probationWorld 5 probationNewHire true 1 2) =
        (Db.staffGranted, some (.grantConflict
              "operation_id уже использован с другими параметрами.")) := by
  refine ⟨numbered_injective, .single trivial rfl, evaluate_probation,
    ⟨_, rfl, rfl⟩, ?_⟩
  have grantable :=
    @Evaluators.evaluate_grantable Db.staffGranted.catalog probationSources 5
      probationNewHire 2 independence
      (fun _ _ => (by decide : (1 : Timestamp) ≤ 2)) evaluate_probation rfl
  have zero : Db.staffGranted.digest (.report independence) = 0 :=
    numbered_independence
  obtain ⟨tier, found, passes⟩ :=
    @reconciledGrant_passes Db.staffGranted Db.staffGranted 5
      probationNewHire independence 1 2 (.refl _) rfl rfl grantable
      (by rw [zero]; decide) rfl
  have applied :=
    @reconcile_applied Db.staffGranted Db.staffGranted probationWorld 5
      probationNewHire 1 2 rfl rfl rfl rfl
  have concluded :=
    @conclude_earned Db.staffGranted Db.staffGranted 5 probationNewHire
      independence 1 2 tier rfl found
  obtain ⟨receipt, operations, key, request⟩ : ∃ receipt,
        Db.staffGranted.operations = [receipt] ∧
          receipt.key = numbered (.operation 5 5 "grant" "reconcile:0".toList) ∧
          ∃ tier reason actor, receipt.requestDigest = numbered
                (.grantRequest tier {} "manual"
                  "reconcile:0".toList reason actor 1) :=
    ⟨_, rfl, rfl, _, _, _, rfl⟩
  obtain ⟨other, reason, actor, request⟩ := request
  have named : (reconciledGrant Db.staffGranted 5 probationNewHire independence
          1).operationId =
        "reconcile:0".toList := by
    simp only [reconciledGrant, zero]
    decide
  have held : Db.staffGranted.operation? (Db.staffGranted.digest
            (.operation 5 probationNewHire.pk "grant"
              (reconciledGrant Db.staffGranted 5 probationNewHire
                independence 1).operationId)) =
        some receipt := by
    rw [named, Db.operation?, operations]
    exact List.find?_cons_of_pos (decide_eq_true key)
  have differs : receipt.requestDigest ≠ grantDigest Db.staffGranted
          (reconciledGrant Db.staffGranted 5 probationNewHire independence 1)
          tier := by
    intro same
    have digests : Db.staffGranted.digest = numbered := rfl
    rw [request, grantDigest, digests] at same
    have requests := numbered_injective same
    simp [reconciledGrant] at requests
  have raises := passes.grant_taken held differs
  have evaluation : probationWorld.evaluate 5 probationNewHire = independence :=
    rfl
  rw [evaluation, concluded, raises] at applied
  simp only [Db.call, applied, Except.map, atomic]

end TicketSandbox.Achievements
