import Mathlib.Data.PNat.Defs
import Mathlib.Data.List.Sort
import TicketSandbox.Library.IsoDates
import TicketSandbox.Library.Raises
import TicketSandbox.Sandbox.Models

namespace TicketSandbox.Sandbox.Completions

/-!
# Completions of the program

`services/completions.py`: the snapshot of a program that a trainee has
completed, how it is built from the attempts, and how it is validated when the
completion is saved.
-/

open IsoDates (DateTime Moment isoformat fromisoformat)
open Raises

/-! ## Rows -/

/-- Primary keys, which the database counts from one. -/
abbrev Key := ℕ+

/-- `Queue`. -/
structure Queue where
  pk : Key
  slug : String
  isActive : Bool

/-- `Task`. -/
structure Task where
  pk : Key
  queueId : Key
  slug : String
  order : Nat
  isActive : Bool

/-- `TaskAttempt`. -/
structure TaskAttempt where
  pk : Key
  userId : Key
  taskId : Key
  attemptNumber : Nat
  technicalPassedAt : Option DateTime

/-- `CheckRun.Result`. -/
inductive Result where
  | passed
  | failed
  deriving Repr, DecidableEq

/-- `CheckRun`. -/
structure CheckRun where
  pk : Key
  attemptId : Key
  result : Result
  exitCode : Int
  createdAt : DateTime

/-- A JSON value, the fields of an object in their order. -/
inductive Json where
  | null
  | bool (value : Bool)
  | int (value : Int)
  | float (value : Rat)
  | text (value : Text)
  | list (items : List Json)
  | object (fields : List (String × Json))

/-- `SandboxProgramCompletion`; a date of another kind is absent. -/
structure Completion where
  userId : Key
  programKey : String
  completedAt : Option Moment
  source : String
  compositionFingerprint : String
  snapshot : Json

/-- The tables. -/
structure Db where
  queues : List Queue
  tasks : List Task
  attempts : List TaskAttempt
  runs : List CheckRun
  completions : List Completion

/-- What a fingerprint is computed from. -/
structure Payload where
  schemaVersion : Nat
  programKey : String
  taskIds : List Int

/-- How dates are read and payloads are hashed: `fromisoformat` of the texts
that `isoformat` does not write, and the SHA-256 of a payload as JSON. -/
structure Server where
  others : Text → Option Moment
  digest : Payload → String

/-! ## Fingerprints -/

/-- `PROGRAM_KEY`. -/
def programKey : String := "l1"

/-- `SNAPSHOT_VERSION`. -/
def snapshotVersion : Nat := 1

/-- The payload of `composition_fingerprint`. -/
def composition (programKey : String) (taskIds : List Int) : Payload where
  schemaVersion := snapshotVersion
  programKey
  taskIds := taskIds.insertionSort (· ≤ ·)

variable (server : Server)

/-- `composition_fingerprint`. -/
def Server.compositionFingerprint
    (programKey : String) (taskIds : List Int) : String :=
  server.digest (composition programKey taskIds)

/-! ## Validation -/

namespace Json

/-- `dict.get`. -/
def get? (fields : List (String × Json)) (name : String) : Option Json :=
  (fields.find? fun field => decide (field.1 = name)).map Prod.snd

/-- The value equals `SNAPSHOT_VERSION`. -/
def isVersion : Json → Bool
  | .bool value => value
  | .int value => decide (value = snapshotVersion)
  | .float value => decide (value = snapshotVersion)
  | _ => false

/-- The value is an `int` above zero. -/
def key? : Option Json → Option Int
  | some (.int value) => if 0 < value then some value else none
  | _ => none

/-- The value equals the text. -/
def isText (expected : String) : Option Json → Bool
  | some (.text value) => decide (value = expected.toList)
  | _ => false

/-- The value is absent or `None`. -/
def isNone : Option Json → Bool
  | none => true
  | some .null => true
  | _ => false

end Json

/-- The messages of a `ValidationError` under a field. -/
structure ValidationError where
  field : String
  messages : List String

/-- A list of one message where the condition holds. -/
def errorIf (condition : Bool) (message : String) : List String :=
  if condition then [message] else []

/-- The messages about the evidence of an entry. -/
def sourceErrors (fields : List (String × Json)) : List String :=
  let source := Json.get? fields "evidence_source"
  let checkId := Json.get? fields "check_run_id"
  errorIf (!Json.isText "technical_passed_at" source &&
        !Json.isText "check_run" source)
      "Неизвестное техническое доказательство." ++
    errorIf (!Json.isNone checkId && (Json.key? checkId).isNone)
      "Некорректный идентификатор CheckRun." ++
    errorIf (Json.isText "check_run" source && Json.isNone checkId)
      "Историческому доказательству нужен CheckRun."

/-- The date of an entry, if it can be read. -/
def Server.passedAt? (fields : List (String × Json)) : Option Moment :=
  match Json.get? fields "passed_at" with
  | some (.text value) => fromisoformat server.others value
  | _ => none

/-- The message where no date can be read or compared. -/
def dateMissing : String := "Нужна дата технического доказательства."

/-- The message where a date is naive or too late. -/
def dateWrong : String := "Некорректное время технического доказательства."

variable (completedAt : Option Moment)

/-- The messages about the date of an entry. -/
def timeErrors
    : Option Moment → List String
  | none => [dateMissing]
  | some (.naive _) => [dateWrong]
  | some (.aware instant) =>
      match completedAt with
      | some (.aware completed) =>
          errorIf (decide (completed < instant)) dateWrong
      | _ => [dateMissing]

/-- The task of an entry whose identifiers are valid. -/
def taskId? : Json → Option Int
  | .object fields =>
      match Json.key? (Json.get? fields "task_id"),
          Json.key? (Json.get? fields "attempt_id") with
      | some taskId, some _ => some taskId
      | _, _ => none
  | _ => none

/-- The messages about an entry. -/
def Server.entryErrors (entry : Json) : List String :=
  match entry with
  | .object fields =>
      if (taskId? entry).isNone then
        ["Нужны идентификаторы задания и зачётной попытки."]
      else
        sourceErrors fields ++ timeErrors completedAt (server.passedAt? fields)
  | _ => ["Некорректное задание снимка."]

/-- The message about a format that is not known. -/
def formatError : ValidationError where
  field := "snapshot"
  messages := ["Неизвестный формат снимка."]

/-- The entries of a snapshot. -/
def entries? : Json → Except ValidationError (List Json)
  | .object fields =>
      if ((Json.get? fields "schema_version").any Json.isVersion) = true then
        match Json.get? fields "tasks" with
        | some (.list (entry :: entries)) => .ok (entry :: entries)
        | _ =>
            .error
              { field := "snapshot"
                messages := ["Снимок должен содержать непустую программу."] }
      else
        .error formatError
  | _ => .error formatError

/-- The messages about the entries of a snapshot. -/
def Server.snapshotErrors (entries : List Json) : List String :=
  entries.flatMap (server.entryErrors completedAt) ++
    errorIf (decide (¬ (entries.filterMap taskId?).Nodup))
      "Задания снимка должны быть уникальны."

/-- `validate_completion_snapshot`. -/
def Server.validateCompletionSnapshot
    (completion : Completion) : Except ValidationError Unit := do
  let entries ← entries? completion.snapshot
  let errors := server.snapshotErrors completion.completedAt entries
  ensure (errors = []) { field := "snapshot", messages := errors }
  ensure (completion.compositionFingerprint =
      server.compositionFingerprint completion.programKey
        (entries.filterMap taskId?))
    { field := "composition_fingerprint"
      messages := ["Fingerprint не соответствует составу снимка."] }

/-! ## Technical evidence -/

/-- The run is a success of the attempt. -/
def isSuccessful (attempt : TaskAttempt) (run : CheckRun) : Bool :=
  decide (run.attemptId = attempt.pk ∧ run.result = .passed ∧ run.exitCode = 0)

variable (db : Db)

/-- The first successful run of an attempt, by its time and its key. -/
def technicalCheck? (attempt : TaskAttempt) : Option CheckRun :=
  ((db.runs.filter (isSuccessful attempt)).insertionSort fun first second =>
    first.createdAt.instant < second.createdAt.instant ∨
      first.createdAt.instant = second.createdAt.instant ∧
        first.pk ≤ second.pk).head?

/-- `TechnicalEvidence`. -/
structure TechnicalEvidence where
  source : String
  passedAt : Option DateTime := none
  checkRunId : Option Key := none

/-- `is_completed`. -/
def TechnicalEvidence.isCompleted (evidence : TechnicalEvidence) : Bool :=
  decide (evidence.source ≠ "missing")

/-- `get_technical_evidence`, of an attempt with its annotations. -/
def getTechnicalEvidence (attempt : TaskAttempt) : TechnicalEvidence :=
  match attempt.technicalPassedAt with
  | some passedAt =>
      { source := "technical_passed_at", passedAt := some passedAt }
  | none =>
      match technicalCheck? db attempt with
      | some run =>
          { source := "check_run"
            passedAt := some run.createdAt
            checkRunId := some run.pk }
      | none => { source := "missing" }

/-! ## Candidates -/

/-- An entry of a snapshot, as it is built. -/
structure Entry where
  taskId : Key
  taskSlug : String
  order : Nat
  attemptId : Key
  evidenceSource : String
  passedAt : Text
  checkRunId : Option Key

/-- The dictionary of an entry. -/
def Entry.json (entry : Entry) : Json :=
  .object
    [("task_id", .int entry.taskId), ("task_slug", .text entry.taskSlug.toList),
      ("order", .int entry.order),
      ("attempt_id", .int entry.attemptId),
      ("evidence_source", .text entry.evidenceSource.toList),
      ("passed_at", .text entry.passedAt),
      ("check_run_id", entry.checkRunId.elim .null fun runId => .int runId)]

/-- `CompletionCandidate`. -/
structure CompletionCandidate where
  userId : Key
  eligible : Bool
  reason : String
  fingerprint : String := ""
  entries : List Entry := []
  completedAt : Option Moment := none

/-- `candidate.snapshot`, of an eligible candidate. -/
def CompletionCandidate.snapshot (candidate : CompletionCandidate) : Json :=
  .object [("schema_version", .int snapshotVersion),
      ("tasks", .list (candidate.entries.map Entry.json))]

/-- `by_task.get`: the first attempt of the user at the task. -/
def creditAttempt? (userId taskId : Key) : Option TaskAttempt :=
  db.attempts.find? fun attempt =>
    decide (attempt.userId = userId ∧ attempt.taskId = taskId ∧
        attempt.attemptNumber = 1)

variable (userId : Key)

/-- The entry of a task, or the reason why there is none. -/
def entryOf (now : Timestamp) (task : Task) : Except String Entry := do
  let attempt ←
    required "missing_technical_evidence" (creditAttempt? db userId task.pk)
  let evidence := getTechnicalEvidence db attempt
  ensure (evidence.isCompleted = true) "missing_technical_evidence"
  let passedAt ← required "invalid_evidence_time" evidence.passedAt
  ensure (passedAt.instant ≤ now) "invalid_evidence_time"
  pure
    { taskId := task.pk
      taskSlug := task.slug
      order := task.order
      attemptId := attempt.pk
      evidenceSource := evidence.source
      passedAt := isoformat passedAt
      checkRunId :=
        evidence.checkRunId.or ((technicalCheck? db attempt).map CheckRun.pk) }

/-- The entries of the tasks; the clock is read once for each task. -/
def entriesOf (db : Db) (userId : Key)
    (clock : Nat → Timestamp) : List Task → Except String (List Entry)
  | [] => pure []
  | task :: tasks => do
      let entry ← entryOf db userId (clock 0) task
      let entries ←
        entriesOf db userId (fun reading => clock (reading + 1)) tasks
      pure (entry :: entries)

/-- The later of two dates; a date with an offset is not compared to one
without. -/
def later? : Moment → Moment → Option Moment
  | .aware first, .aware second =>
      some (.aware (if first < second then second else first))
  | .naive first, .naive second =>
      some (.naive (if first < second then second else first))
  | _, _ => none

/-- `max`, of a sequence that is not empty. -/
def latest? : List Moment → Option Moment
  | [] => none
  | moment :: moments => moments.foldlM later? moment

/-- The date of the last evidence, read from the entries. -/
def Server.completedAt? (entries : List Entry) : Option Moment :=
  (entries.mapM fun entry =>
    fromisoformat server.others entry.passedAt).bind latest?

/-- `_candidate`; it raises where no date is the latest. -/
def Server.candidate (tasks : List Task)
    (clock : Nat → Timestamp) : Option CompletionCandidate :=
  let fingerprint := server.compositionFingerprint programKey
      (tasks.map fun task => (task.pk : Int))
  if tasks = [] then
    some { userId, eligible := false, reason := "empty_program", fingerprint }
  else
    match entriesOf db userId clock tasks with
    | .error reason => some { userId, eligible := false, reason, fingerprint }
    | .ok entries =>
        (server.completedAt? entries).map fun completedAt =>
          { userId
            eligible := true
            reason := "eligible"
            fingerprint
            entries
            completedAt := some completedAt }

/-- The active tasks of the queue, in their order. -/
def activeTasks (queue : Queue) : List Task :=
  (db.tasks.filter fun task =>
      decide (task.queueId = queue.pk) && task.isActive).insertionSort
    fun first second =>
      first.order < second.order ∨
        first.order = second.order ∧ first.pk ≤ second.pk

/-- The active queue of the program. -/
def activeQueue? : Option Queue :=
  db.queues.find? fun queue =>
    decide (queue.slug = programKey) && queue.isActive

/-- `_locked_candidate`, and `analyze_program_completion`. -/
def Server.lockedCandidate
    (clock : Nat → Timestamp) : Option CompletionCandidate :=
  match activeQueue? db with
  | none => some { userId, eligible := false, reason := "active_queue_missing" }
  | some queue => server.candidate db userId (activeTasks db queue) clock

/-! ## Saving -/

/-- The completion of a user. -/
def Db.completion? : Option Completion :=
  db.completions.find? fun completion =>
    decide (completion.userId = userId ∧ completion.programKey = programKey)

/-- The completion that `_store` builds from a candidate. -/
def CompletionCandidate.completion
    (candidate : CompletionCandidate) (source : String) : Completion where
  userId := candidate.userId
  programKey := programKey
  completedAt := candidate.completedAt
  source
  compositionFingerprint := candidate.fingerprint
  snapshot := candidate.snapshot

/-- What the writers may raise. -/
inductive Failure where
  | invalid (error : ValidationError)
  | unconfirmed
  | compositionChanged
  | unproven (reason : String)
  | raised

/-- `_store`: an existing completion is returned, another one is validated and
saved. -/
def Server.store (candidate : CompletionCandidate)
    (source : String) : Except Failure (Db × Option Completion × Bool) :=
  match db.completion? candidate.userId with
  | some existing => pure (db, some existing, false)
  | none =>
      match server.validateCompletionSnapshot (candidate.completion source)
          with
      | .error error => .error (.invalid error)
      | .ok () =>
          pure ({ db with
                completions :=
                  db.completions ++ [candidate.completion source] },
              some (candidate.completion source), true)

/-- The first attempt that a check belongs to, in the program. -/
def trigger? (attemptId : Key) : Option (TaskAttempt × Task) := do
  let attempt ← db.attempts.find? fun attempt =>
    decide (attempt.pk = attemptId ∧ attempt.attemptNumber = 1)
  let task ← db.tasks.find? fun task => decide (task.pk = attempt.taskId)
  let queue ← db.queues.find? fun queue => decide (queue.pk = task.queueId)
  if queue.slug = programKey then some (attempt, task) else none

/-- The run is a success of the attempt. -/
def isValidRun (checkRunId : Key) (attempt : TaskAttempt) : Bool :=
  db.runs.any fun run =>
    decide (run.pk = checkRunId) && isSuccessful attempt run

/-- The last part of `record_completion_after_success`. -/
def Server.recordCandidate
    (attempt : TaskAttempt) (candidate : CompletionCandidate) :
    Except Failure (Db × Option Completion × Bool) :=
  if candidate.eligible = true ∧
      attempt.taskId ∈ candidate.entries.map Entry.taskId then
    server.store db candidate "technical_check"
  else
    pure (db, none, false)

/-- `record_completion_after_success`. -/
def Server.recordCompletionAfterSuccess
    (attemptId checkRunId : Key) (clock : Nat → Timestamp) :
    Except Failure (Db × Option Completion × Bool) :=
  match trigger? db attemptId with
  | none => pure (db, none, false)
  | some (attempt, _) => do
      ensure (isValidRun db checkRunId attempt = true ∧
          attempt.technicalPassedAt ≠ none)
        Failure.unconfirmed
      match db.completion? attempt.userId with
      | some existing => pure (db, some existing, false)
      | none =>
          let candidate ← required Failure.raised
              (server.lockedCandidate db attempt.userId clock)
          server.recordCandidate db attempt candidate

/-- `restore_program_completion`. -/
def Server.restoreProgramCompletion
    (expectedFingerprint : String) (clock : Nat → Timestamp) :
    Except Failure (Db × Option Completion × Bool) :=
  match db.completion? userId with
  | some existing => pure (db, some existing, false)
  | none => do
      let candidate ←
        required Failure.raised (server.lockedCandidate db userId clock)
      ensure (candidate.fingerprint = expectedFingerprint)
        Failure.compositionChanged
      ensure (candidate.eligible = true) (.unproven candidate.reason)
      server.store db candidate "legacy_restore"

end TicketSandbox.Sandbox.Completions
