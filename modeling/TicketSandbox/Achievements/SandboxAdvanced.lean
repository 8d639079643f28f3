import Mathlib.Data.List.Dedup
import TicketSandbox.Achievements.Reconciliation
import TicketSandbox.TraineeDiary.Models

namespace TicketSandbox.Achievements.SandboxAdvanced

/-!
# Levels of the sandbox program

`evaluators/sandbox_advanced.py` over the evidence that
`program_evidence` reads from the ledger, and the part of
`evaluators/sandbox.py` that selects a tier by it.  The clock is read once.
-/

open Sandbox (Pk Timestamp)
open Catalog Reconciliation
open TraineeDiary (EntryType)

/-! ## Evidence -/

/-- The state of a source: whether it is complete, and why not. -/
inductive AxisStatus where
  | complete
  | unknown
  deriving Repr, DecidableEq

/-- The trust in one source.  It is unknown exactly when there are reasons. -/
structure Axis where
  status : AxisStatus
  reasons : List String
  reasoned : status = .complete ↔ reasons = []

/-- Only the empty set is sorted to nothing. -/
theorem sortedSet_eq_nil {texts : List String} :
    sortedSet texts = [] ↔ texts = [] := by
  unfold sortedSet
  rw [← List.length_eq_zero_iff, List.length_mergeSort, List.length_eq_zero_iff]
  constructor
  · intro empty
    refine List.eq_nil_iff_forall_not_mem.mpr fun text member => ?_
    rw [← List.mem_dedup, empty] at member
    cases member
  · rintro rfl
    exact List.dedup_nil

/-- The axis that `program_evidence` builds of the reasons it found. -/
def Axis.ofReasons (bad : List String) : Axis where
  status := if bad = [] then .complete else .unknown
  reasons := sortedSet bad
  reasoned := by
    rw [sortedSet_eq_nil]
    split <;> simp [*]

/-- The sources that a level may depend on. -/
inductive AxisName where
  | checks
  | resets
  | answers
  deriving Repr, DecidableEq

/-- A time in the evidence, with or without a zone. -/
inductive Moment where
  | aware (instant : Timestamp)
  | naive (instant : Timestamp)
  deriving Repr, DecidableEq

/-- One entry of `technical_checks`. -/
structure TechnicalCheck where
  requestedAt : Moment
  finishedAt : Option Moment
  result : String
  checkerStarted : Option Bool
  checkRunId : Option Pk

/-- One entry of `submissions`. -/
structure Submission where
  ordinal : Nat
  submittedAt : Moment
  reviewedAt : Option Moment
  decision : String

/-- One entry of `attempts`. -/
structure AttemptProof where
  requiresReview : Option Bool
  credit : Option Bool
  technicalCompleted : Option Bool
  coverageReasons : List String
  technicalChecks : List TechnicalCheck
  firstCheck : Option TechnicalCheck
  submissions : List Submission
  firstAnswerApproved : Option Bool

/-- `manifest`. -/
structure Manifest where
  source : String
  recordedAt : Moment
  tasks : List Pk

/-- The evidence of a program, as `program_evidence` returns it. -/
structure Proof where
  manifest : Option Manifest
  axes : AxisName → Axis
  attempts : List AttemptProof
  successfulResets : Option Nat
  validReturns : Option Nat
  firstFiveAnswers : Option (List Submission)

/-! ## Levels -/

/-- `state`. -/
structure State where
  status : EvaluationStatus
  reasons : List String

/-- `state`, with its reasons sorted. -/
def state (status : EvaluationStatus) (reasons : List String) : State where
  status := status
  reasons := sortedSet reasons

/-- What `assess` returns. -/
structure Levels where
  silver : State
  gold : State
  platinum : State
  cleanAnswers : State

/-- One state for all levels. -/
def Levels.all (level : State) : Levels where
  silver := level
  gold := level
  platinum := level
  cleanAnswers := level

/-- `PLATINUM_TRUST_REASON`. -/
def platinumTrustReason : String :=
  "runtime_checker_integrity_unproven"

/-- The times in the evidence. -/
def timestamps (manifest : Manifest) (proof : Proof) : List Moment :=
  manifest.recordedAt :: (proof.attempts.flatMap fun attempt =>
      attempt.submissions.map Submission.submittedAt) ++
    (proof.attempts.flatMap fun attempt =>
      attempt.submissions.filterMap Submission.reviewedAt) ++
    (proof.attempts.flatMap fun attempt =>
      attempt.technicalChecks.map fun check =>
        check.finishedAt.getD check.requestedAt)

/-- The time has no zone or has not come yet. -/
def isFutureOrNaive (now : Timestamp) : Moment → Bool
  | .aware instant => decide (now < instant)
  | .naive _ => true

/-- An unknown state, when there are reasons for one. -/
def unknownState? (reasons : List String) : Option State :=
  if reasons = [] then none else some (state .unknown reasons)

/-- `coverage`: the reasons of the sources that are not complete. -/
def coverage (axes : AxisName → Axis) (names : List AxisName) : Option State :=
  unknownState? ((names.filter fun name =>
      decide ((axes name).status ≠ .complete)).flatMap fun name =>
        (axes name).reasons)

/-- The reasons that contradict a registered success. -/
def conflicts : List String :=
  ["check_run_mutated", "check_run_details_mismatch",
    "technical_evidence_outside_ledger"]

/-- What speaks against the technical completion of one attempt. -/
def attemptProblem (attempt : AttemptProof) : Option State :=
  if attempt.technicalChecks.any fun check =>
      decide (check.result = "passed" ∧ check.checkerStarted = some true ∧
        check.checkRunId.isSome) then
    unknownState? (conflicts.filter fun reason =>
        decide (reason ∈ attempt.coverageReasons))
  else
    some (state .unknown ["technical_success_not_registered"])

/-- `technical`. -/
def technical (manifest : Manifest) (proof : Proof) : Option State :=
  if proof.attempts = [] ∨ proof.attempts.length ≠ manifest.tasks.length then
    some (state .unknown ["credit_attempt_missing"])
  else if proof.attempts.any fun attempt =>
      decide (attempt.technicalCompleted = none) then
    some (state .unknown ["technical_evidence_missing"])
  else if proof.attempts.all fun attempt =>
      decide (attempt.credit = some true ∧
        attempt.technicalCompleted = some true) then
    proof.attempts.findSome? attemptProblem
  else
    some (state .notMet ["technical_program_incomplete"])

variable (proof : Proof)

/-- The attempts whose answers are reviewed. -/
def required : List AttemptProof :=
  proof.attempts.filter fun attempt =>
    decide (attempt.requiresReview = some true)

/-- The silver level, once its sources are complete. -/
def silverLevel : State :=
  match proof.successfulResets with
  | none => state .unknown ["reset_count_unknown"]
  | some resets =>
      if resets ≤ 2 then state .eligible []
      else state .notMet ["too_many_resets"]

/-- The last answer is not approved. -/
def lacksApproval (attempt : AttemptProof) : Bool :=
  (attempt.submissions.getLast?).all fun submission =>
    decide (submission.decision ≠ "approved")

/-- The gold level, once its sources are complete. -/
def goldLevel : State :=
  match proof.successfulResets, proof.validReturns with
  | some resets, some returns =>
      if 2 < resets ∨ 2 < returns then
        state .notMet ["reset_or_revision_limit_exceeded"]
      else if (required proof).any lacksApproval then
        state .notMet ["required_answers_not_approved"]
      else
        state .eligible []
  | _, _ => state .unknown ["answer_or_reset_count_unknown"]

/-- The platinum level, once its sources are complete. -/
def platinumLevel : State :=
  if proof.successfulResets ≠ some 0 then
    state .notMet ["trainee_reset"]
  else if (required proof).any fun attempt =>
      decide (attempt.firstAnswerApproved ≠ some true) then
    state .notMet ["first_submission_not_approved"]
  else if proof.attempts.any fun attempt =>
      decide (attempt.firstCheck = none) then
    state .unknown ["first_real_check_unknown"]
  else if proof.attempts.any fun attempt =>
      attempt.firstCheck.any fun check =>
        decide (check.result ≠ "passed") then
    state .notMet ["first_real_check_failed"]
  else
    state .unknown [platinumTrustReason]

/-- The level of clean answers, once its sources are complete. -/
def cleanLevel : State :=
  if (required proof).length < 5 then
    state .notMet ["fewer_than_five_required_answers"]
  else
    match proof.firstFiveAnswers with
    | none => state .unknown ["first_answers_order_unknown"]
    | some first =>
        if first.length < 5 then
          state .notMet ["fewer_than_five_submitted_answers"]
        else if first.any fun submission =>
            decide (submission.decision ≠ "approved" ∨
              submission.ordinal ≠ 1) then
          state .notMet ["first_five_not_clean"]
        else
          state .eligible []

/-- The levels of evidence whose times are fine. -/
def assessTimely (manifest : Manifest) (proof : Proof) : Levels where
  silver := ((coverage proof.axes [.resets]).or (technical manifest proof)).getD
      (silverLevel proof)
  gold := ((coverage proof.axes [.resets, .answers]).or
      (technical manifest proof)).getD (goldLevel proof)
  platinum := ((coverage proof.axes [.checks, .resets, .answers]).or
      (technical manifest proof)).getD (platinumLevel proof)
  cleanAnswers := (coverage proof.axes [.answers]).getD (cleanLevel proof)

/-- `assess`. -/
def assess (now : Timestamp) : Levels :=
  match proof.manifest with
  | none => .all (state .unknown ["requirements_not_frozen_from_start"])
  | some manifest =>
      if manifest.source ≠ "from_start" then
        .all (state .unknown ["requirements_not_frozen_from_start"])
      else if (timestamps manifest proof).any (isFutureOrNaive now) then
        .all (state .unknown ["future_or_naive_evidence_time"])
      else
        assessTimely manifest proof

/-! ## The evaluator -/

/-- `SandboxProgramCompletion`, with the entries of its snapshot. -/
structure Completion where
  pk : Pk
  completedAt : Timestamp
  tasks : List (Pk × Pk)

/-- A stored attempt that a snapshot may name. -/
structure LinkedAttempt where
  pk : Pk
  userId : Pk
  taskId : Pk
  attemptNumber : Nat

/--
What the evaluator reads beside the evidence: the saved completion, whether
its snapshot is valid, the stored attempts, the adaptation of the user, and how
proofs are written down.
-/
structure Reads where
  journey : Option EntryType
  completion : Option Completion
  isValidSnapshot : Completion → Bool
  attempts : List LinkedAttempt
  snapshot : Proof → Evidence
  completionEvidence : Completion → Evidence

/-- `unknown`. -/
def unknown (reason : String) (required : List String) : Evaluation :=
  { status := .unknown, reason, required }

/-- `eligible`. -/
def eligible
    (tier : AchievementTier) (evidence : Evidence) (levels : List Level)
    (occurredAt : Timestamp) : Evaluation :=
  { status := .eligible
    tierCode := some tier.code
    evidence
    levels
    occurredAt := some occurredAt
    ruleVersion := tier.ruleVersion }

/-- The instant of a time. -/
def Moment.instant : Moment → Timestamp
  | .aware instant => instant
  | .naive instant => instant

/-- `proof_time`. -/
def proofTime (manifest : Manifest) (proof : Proof) : Timestamp :=
  ((timestamps manifest proof).map Moment.instant).foldl max
    manifest.recordedAt.instant

/-- The entry of the snapshot is about another attempt. -/
def isMismatched
    (attempts : List LinkedAttempt) (userId : Pk) (entry : Pk × Pk) : Bool :=
  (attempts.find? fun attempt => decide (attempt.pk = entry.2)).any
    fun attempt =>
      decide (attempt.userId ≠ userId ∨ attempt.taskId ≠ entry.1 ∨
        attempt.attemptNumber ≠ 1)

/-- What is wrong with the saved completion. -/
def completionProblem?
    (reads : Reads) (userId : Pk) (now : Timestamp) : Option Evaluation :=
  reads.completion.bind fun completion =>
    if reads.isValidSnapshot completion then
      if now < completion.completedAt then
        some (unknown "future_completion" ["valid completed_at"])
      else if completion.tasks.any (isMismatched reads.attempts userId) then
        some (unknown "completion_identity_mismatch"
            ["frozen credit evidence for the correct owner/task"])
      else
        none
    else
      some (unknown "invalid_completion_snapshot"
          ["valid frozen program evidence"])

/-- `context["levels"]`. -/
def Levels.listed (levels : Levels) : List Level :=
  [{ code := "silver"
     status := levels.silver.status
     reasons := levels.silver.reasons },
    { code := "gold"
      status := levels.gold.status
      reasons := levels.gold.reasons },
    { code := "platinum"
      status := levels.platinum.status
      reasons := levels.platinum.reasons },
    { code := "clean_answers"
      status := levels.cleanAnswers.status
      reasons := levels.cleanAnswers.reasons }]

/-- `proof_time` of evidence that has a manifest. -/
def occurredAt : Timestamp :=
  proof.manifest.elim 0 fun manifest => proofTime manifest proof

/-- The evaluation of `sandbox_first_five_clean_answers`. -/
def cleanAnswers (reads : Reads) (tiers : List AchievementTier) (proof : Proof)
    (levels : Levels) : Option Evaluation :=
  if levels.cleanAnswers.status = .eligible then
    tiers.head?.map fun tier =>
      eligible tier (reads.snapshot proof) levels.listed (occurredAt proof)
  else
    some
      { status := levels.cleanAnswers.status
        reason := ";".intercalate levels.cleanAnswers.reasons
        required := levels.cleanAnswers.reasons
        levels := levels.listed }

/-- The evaluation of `sandbox_program`. -/
def program (reads : Reads) (tiers : List AchievementTier) (proof : Proof)
    (levels : Levels) : Option Evaluation :=
  if levels.gold.status = .eligible then
    (tiers.find? fun tier => decide (tier.code = "gold")).map fun tier =>
      eligible tier (reads.snapshot proof) levels.listed (occurredAt proof)
  else if levels.silver.status = .eligible then
    (tiers.find? fun tier => decide (tier.code = "silver")).map fun tier =>
      eligible tier (reads.snapshot proof) levels.listed (occurredAt proof)
  else
    match reads.completion with
    | none =>
        some
          { status := .notMet
            reason := "no_saved_completion"
            levels := levels.listed }
    | some completion =>
        tiers.head?.map fun tier =>
          eligible tier (reads.completionEvidence completion) levels.listed
            completion.completedAt

/-- `sandbox`, for the two evaluators that read the ledger; it returns nothing
when a tier is missing. -/
def sandbox (reads : Reads) (userId : Pk) (tiers : List AchievementTier)
    (definition : AchievementDefinition) (proof : Proof)
    (now : Timestamp) : Option Evaluation :=
  match completionProblem? reads userId now with
  | some problem => some problem
  | none =>
      if definition.evaluatorKey = "sandbox_first_five_clean_answers" then
        cleanAnswers reads tiers proof (assess proof now)
      else
        program reads tiers proof (assess proof now)

/-- `definition.tiers.all()`, in the order of their ranks. -/
def tiersOf (catalog : Achievements.Catalog)
    (definition : AchievementDefinition) : List AchievementTier :=
  (catalog.tiers.filter fun tier =>
    decide (tier.definitionId = definition.pk)).mergeSort
      fun first second => decide (first.rank ≤ second.rank)

/-- The tiers have the codes of the schema. -/
def hasCodes (schema : Family) (tiers : List AchievementTier) : Bool :=
  decide ((∀ tier ∈ tiers, tier.code ∈ schema.tiers.map Prod.fst) ∧
      ∀ code ∈ schema.tiers.map Prod.fst, code ∈ tiers.map AchievementTier.code)

/-- What `evaluate` answers before it asks the evaluator, if anything. -/
def refused? (journey : Option EntryType) (definition : AchievementDefinition)
    (tiers : List AchievementTier) : Option Evaluation :=
  match validateDefinition definition with
  | .error _ =>
      some (unknown "invalid_catalog" ["validated rule schema/version"])
  | .ok schema =>
      if ¬ tiers.all fun tier => (validateTier definition tier).isOk then
        some (unknown "invalid_catalog" ["validated rule schema/version"])
      else if ¬ hasCodes schema tiers then
        some (unknown "invalid_catalog" ["complete validated tier schema"])
      else if ¬ definition.active then
        some { status := .notApplicable, reason := "inactive_definition" }
      else if definition.applicability = .newHire ∧ journey = none then
        some (unknown "adaptation_context_missing" ["NEW_HIRE adaptation"])
      else if definition.applicability = .newHire ∧ journey ≠ some .newHire then
        some { status := .notApplicable, reason := "new_hire_only" }
      else
        none

/-- `evaluate`, for the two evaluators that read the ledger. -/
def evaluate (catalog : Achievements.Catalog) (reads : Reads) (userId : Pk)
    (definition : AchievementDefinition) (proof : Proof)
    (now : Timestamp) : Option Evaluation :=
  match refused? reads.journey definition (tiersOf catalog definition) with
  | some refusal => some refusal
  | none =>
      sandbox reads userId (tiersOf catalog definition) definition proof now

end TicketSandbox.Achievements.SandboxAdvanced
