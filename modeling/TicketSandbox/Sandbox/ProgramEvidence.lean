import TicketSandbox.Sandbox.Completions
import TicketSandbox.Sandbox.LedgerEvidence

namespace TicketSandbox.Sandbox.ProgramEvidence

/-!
# The ledger evidence of a program

`program_evidence`: the evidence of the first attempts at the tasks that a
manifest froze, with the reasons not to trust it, and what the attempts amount
to where the axis that it rests on is complete.
-/

open Completions (Json)
open LedgerEvidence
open Raises

/-! ## Rows -/

/-- `SandboxProgramManifest`. -/
structure Manifest where
  pk : Pk
  userId : Pk
  programKey : String
  requirementsVersion : Nat
  source : String
  snapshot : Json
  digest : String
  recordedAt : Timestamp

/-- A task in the snapshot of a completion. -/
structure CompletedTask where
  taskId : Int
  attemptId : Int

/-- `SandboxProgramCompletion`, with the tasks of its snapshot. -/
structure Completion where
  pk : Pk
  userId : Pk
  programKey : String
  tasks : List CompletedTask

/-- The tables, and how a snapshot is hashed. -/
structure Store where
  digest : Json → String
  enabledAt : Option Timestamp
  manifests : List Manifest
  completions : List Completion
  attempts : List Db

/-- An entry of a manifest, read as far as the evidence needs it. -/
structure Entry where
  taskId : Int
  requiresReview : Option Json
  criteriaDigest : Option Json

/-- What the evidence raises. -/
inductive Failure where
  | keyError
  | typeError

/-! ## JSON values -/

/-- The value counts as true. -/
def isTruthy : Json → Bool
  | .null => false
  | .bool value => value
  | .int value => decide (value ≠ 0)
  | .float value => decide (value ≠ 0)
  | .text value => !value.isEmpty
  | .list items => !items.isEmpty
  | .object fields => !fields.isEmpty

/-- The value is `None`. -/
def isNull : Json → Bool
  | .null => true
  | _ => false

/-- The value is `False` itself. -/
def isFalse : Json → Bool
  | .bool value => !value
  | _ => false

/-- The value equals the digest of an execution. -/
def isDigest (expected : Option String) : Json → Bool
  | .null => expected.isNone
  | .text value => decide (expected.map String.toList = some value)
  | _ => false

/-! ## The manifest -/

/-- The tasks of a snapshot of the known version and digest. -/
def Store.tasks? (store : Store) (manifest : Manifest) : Option (List Json) :=
  match manifest.snapshot with
  | .object fields =>
      match Json.get? fields "schema_version", Json.get? fields "tasks" with
      | some version, some (.list tasks) =>
          if version.isVersion = true ∧ manifest.requirementsVersion = 1 ∧
              store.digest manifest.snapshot = manifest.digest then
            some tasks
          else
            none
      | _, _ => none
  | _ => none

/-- The reasons that a manifest contributes, with its entries. -/
def Store.readManifest (store : Store) :
    Option Manifest → List String × List Json
  | none => (["manifest_missing"], [])
  | some manifest =>
      let source :=
        if manifest.source = "from_start" then []
        else ["requirements_not_frozen_from_start"]
      match store.tasks? manifest with
      | none =>
          (source ++
            ["manifest_invalid_or_unknown_version", "manifest_empty"], [])
      | some [] => (source ++ ["manifest_empty"], [])
      | some (first :: rest) => (source, first :: rest)

/-- An entry that names its task. -/
def readEntry : Json → Except Failure Entry
  | .object fields =>
      match Json.get? fields "task_id" with
      | none => .error .keyError
      | some (.int taskId) =>
          pure
            { taskId
              requiresReview := Json.get? fields "requires_review"
              criteriaDigest := Json.get? fields "criteria_digest" }
      | some _ => .error .typeError
  | _ => .error .typeError

/-- The entries of the manifest. -/
def readEntries : List Json → Except Failure (List Entry)
  | [] => pure []
  | item :: items => do
      let entry ← readEntry item
      let entries ← readEntries items
      pure (entry :: entries)

/-! ## The attempts -/

/-- An attempt of the program, as the evidence shows it. -/
structure ProgramAttempt where
  taskId : Int
  requiresReview : Json
  evidence : AttemptEvidence

/-- The completion names another attempt at the task. -/
def Completion.namesOther
    (completion : Completion) (taskId : Int) (attemptId : Pk) : Bool :=
  completion.tasks.any fun task =>
    decide (task.taskId = taskId ∧ task.attemptId ≠ attemptId)

/-- A reason under a condition. -/
def reasonIf (condition : Bool) (reason : String) : List String :=
  if condition then [reason] else []

/-- The reasons that an entry contributes beside those of its attempt. -/
def entryReasons
    (db : Db) (requiresReview criteriaDigest : Json) : List String :=
  reasonIf (isNull requiresReview) "answer_requirement_unknown" ++
    reasonIf (isNull criteriaDigest) "criteria_version_unknown" ++
    reasonIf (db.checks.any fun execution =>
        !isDigest execution.criteriaDigest criteriaDigest)
      "criteria_version_changed"

/-- What an entry contributes: its reasons and its attempt, if there is one. -/
def entryEvidence
    (credit : List Db) (completion : Option Completion) (entry : Entry) :
    Except Failure (List String × Option ProgramAttempt) :=
  match credit.reverse.find? fun db =>
      decide ((db.identity.taskId : Int) = entry.taskId) with
  | none => pure (["credit_attempt_missing"], none)
  | some db => do
      let requiresReview ← required .keyError entry.requiresReview
      let criteriaDigest ← required .keyError entry.criteriaDigest
      let evidence := attemptEvidence db
      pure (reasonIf (completion.any fun row =>
              row.namesOther entry.taskId db.identity.pk)
            "completion_attempt_identity_mismatch" ++
          evidence.reasons ++
          entryReasons db requiresReview criteriaDigest,
          some { taskId := entry.taskId, requiresReview, evidence })

/-- What the entries contribute, in their order. -/
def entriesEvidence (credit : List Db) (completion : Option Completion) :
    List Entry → Except Failure (List String × List ProgramAttempt)
  | [] => pure ([], [])
  | entry :: entries => do
      let (reasons, attempt) ← entryEvidence credit completion entry
      let (others, attempts) ← entriesEvidence credit completion entries
      pure (reasons ++ others, attempt.toList ++ attempts)

/-! ## The axes -/

/-- The axes of the evidence. -/
inductive Axis where
  | checks
  | resets
  | answers
  deriving Repr, DecidableEq

/-- The axis of an attempt. -/
def Axis.of (axis : Axis) (evidence : AttemptEvidence) : SourceAxis :=
  match axis with
  | .checks => evidence.checks
  | .resets => evidence.resets
  | .answers => evidence.answers

/-- The prefixes of the reasons that taint one axis of the program alone. -/
def Axis.prefixes : Axis → List String
  | .checks => ["criteria_"]
  | .resets => []
  | .answers => ["answer_requirement_"]

/-- The attempt does not matter to the axis. -/
def Axis.skips (axis : Axis) (attempt : ProgramAttempt) : Bool :=
  decide (axis = .answers) && isFalse attempt.requiresReview

/-- The reasons that taint every axis of the program. -/
def commonProgramReasons (reasons : List String) : List String :=
  reasons.filter
    (startsWith ["manifest_", "requirements_", "completion_", "credit_"])

/-- The reasons of an attempt against an axis. -/
def Axis.attemptReasons
    (axis : Axis) (attempt : ProgramAttempt) : List String :=
  if axis.skips attempt = true ∨
      (axis.of attempt.evidence).isComplete = true then
    []
  else
    (axis.of attempt.evidence).reasons

/-- The confidence in an axis of the program. -/
def Axis.program (axis : Axis) (reasons : List String)
    (attempts : List ProgramAttempt) : SourceAxis :=
  let bad := commonProgramReasons reasons ++
      reasons.filter (startsWith axis.prefixes) ++
      attempts.flatMap axis.attemptReasons
  { isComplete := bad.isEmpty
    reasons := bad.dedup.insertionSort (· ≤ ·) }

/-! ## The program -/

/-- The first answer at a task. -/
structure FirstAnswer where
  taskId : Int
  submission : SubmissionEvidence

/-- What `program_evidence` answers. -/
structure Evidence where
  userId : Pk
  programKey : String
  ledgerEnabledAt : Option Timestamp
  manifest : Option Manifest
  completionId : Option Pk
  isComplete : Bool
  reasons : List String
  checks : SourceAxis
  resets : SourceAxis
  answers : SourceAxis
  attempts : List ProgramAttempt
  successfulResets : Option Nat
  validReturns : Option Nat
  firstFiveAnswers : Option (List FirstAnswer)
  observedFirstAnswers : List FirstAnswer
  allRequiredAnswersApproved : Option Bool

/-- The attempt counts for the answers. -/
def ProgramAttempt.isCounted (attempt : ProgramAttempt) : Bool :=
  isTruthy attempt.requiresReview

/-- The first answer of a counted attempt. -/
def ProgramAttempt.firstAnswer? (attempt : ProgramAttempt) :
    Option FirstAnswer :=
  if attempt.isCounted = true then
    attempt.evidence.submissions.head?.map fun submission =>
      { taskId := attempt.taskId, submission }
  else
    none

/-- The first five of the first answers. -/
def firstAnswers (attempts : List ProgramAttempt) : List FirstAnswer :=
  ((attempts.filterMap ProgramAttempt.firstAnswer?).insertionSort
    fun first second =>
      first.submission.submittedAt < second.submission.submittedAt ∨
        first.submission.submittedAt = second.submission.submittedAt ∧
          first.submission.submissionId ≤ second.submission.submissionId).take 5

/-- The last answer of the attempt was approved. -/
def ProgramAttempt.isApproved (attempt : ProgramAttempt) : Bool :=
  attempt.evidence.submissions.getLast?.any fun submission =>
    decide (submission.decision = .approved)

/-- The snapshot is a mapping. -/
def Manifest.isMapping (manifest : Manifest) : Bool :=
  match manifest.snapshot with
  | .object _ => true
  | _ => false

/-- What the reasons and the attempts amount to. -/
def summarized (store : Store) (userId : Pk) (programKey : String)
    (manifest : Option Manifest) (completion : Option Completion)
    (entries : List Entry) (reasons : List String)
    (attempts : List ProgramAttempt) : Evidence :=
  let resets := Axis.resets.program reasons attempts
  let answers := Axis.answers.program reasons attempts
  let observed := firstAnswers attempts
  let counted := attempts.filter ProgramAttempt.isCounted
  { userId
    programKey
    ledgerEnabledAt := store.enabledAt
    manifest
    completionId := completion.map Completion.pk
    isComplete := reasons.isEmpty
    reasons := reasons.dedup.insertionSort (· ≤ ·)
    checks := Axis.checks.program reasons attempts
    resets
    answers
    attempts
    successfulResets :=
      if resets.isComplete = true then
        some
          (attempts.map fun attempt =>
            attempt.evidence.observedSuccessfulResets).sum
      else
        none
    validReturns :=
      if answers.isComplete = true then
        some
          (counted.map fun attempt => attempt.evidence.validReturns.getD 0).sum
      else
        none
    firstFiveAnswers :=
      if answers.isComplete = true then some observed else none
    observedFirstAnswers := observed
    allRequiredAnswersApproved :=
      if !entries.isEmpty && reasons.isEmpty then
        some (counted.all ProgramAttempt.isApproved)
      else
        none }

/-- The tasks of a completion are not those of the manifest. -/
def Completion.differs (completion : Completion) (taskIds : List Int) : Bool :=
  decide (¬ ((∀ taskId ∈ taskIds,
          taskId ∈ completion.tasks.map CompletedTask.taskId) ∧
      ∀ task ∈ completion.tasks, task.taskId ∈ taskIds))

/-- `program_evidence`. -/
def programEvidence (store : Store) (userId : Pk)
    (programKey : String) : Except Failure Evidence := do
  let manifest := store.manifests.find? fun manifest =>
      decide (manifest.userId = userId ∧ manifest.programKey = programKey)
  let completion := store.completions.find? fun completion =>
      decide (completion.userId = userId ∧ completion.programKey = programKey)
  let (found, items) := store.readManifest manifest
  let entries ← readEntries items
  let taskIds := entries.map Entry.taskId
  let credit := store.attempts.filter fun db =>
      decide (db.identity.userId = userId ∧
          (db.identity.taskId : Int) ∈ taskIds ∧
          db.identity.attemptNumber = 1)
  let (reasons, attempts) ← entriesEvidence credit completion entries
  ensure (manifest.all Manifest.isMapping = true) Failure.typeError
  pure (summarized store userId programKey manifest completion entries (found ++
        reasonIf (completion.any fun row => row.differs taskIds)
          "completion_manifest_composition_mismatch" ++
        reasons)
      attempts)

end TicketSandbox.Sandbox.ProgramEvidence
