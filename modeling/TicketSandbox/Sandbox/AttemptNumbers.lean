import TicketSandbox.Library.Rows
import TicketSandbox.Library.Runs
import TicketSandbox.Sandbox.Models

namespace TicketSandbox.Sandbox.AttemptNumbers

/-!
# Numbering the attempts at a task

The attempts of one user at one task, and any number of requests that read
them with `get_current_attempt` or add to them with `rerun_task`.  A statement
sees the rows committed before it began, and then waits for the locks of other
transactions; a commit that would break a unique constraint is rolled back.
-/

/-- One attempt with its recorded check runs. -/
structure Row where
  identity : AttemptIdentity
  attempt : TaskAttempt
  runs : List CheckRun

namespace Row

/-- The primary key. -/
def pk (row : Row) : Pk :=
  row.identity.pk

/-- `attempt_number`. -/
def number (row : Row) : Nat :=
  row.identity.attemptNumber

/-- `is_current`. -/
def isCurrent (row : Row) : Bool :=
  row.attempt.isCurrent

/-- `TaskAttempt.technical_locked`. -/
def technicalLocked (row : Row) : Bool :=
  technicalPassed row.attempt row.runs

/-- `TaskAttempt.can_rerun`. -/
def canRerun (row : Row) : Bool :=
  row.isCurrent && row.technicalLocked && decide (row.attempt.status = .passed)

/-- Set `is_current`. -/
def setCurrent (isCurrent : Bool) (row : Row) : Row :=
  { row with attempt := { row.attempt with isCurrent := isCurrent } }

/-- Another request passes the attempt. -/
def passed (now : Timestamp) (row : Row) : Row :=
  { row with
    attempt :=
      { row.attempt with
        status := .passed
        technicalPassedAt := row.attempt.technicalPassedAt.or (some now) } }

end Row

/-- `.order_by("-attempt_number", "-id").first()`; the numbers are unique. -/
def latest? (rows : List Row) : Option Row :=
  Rows.newest? Row.number rows

/-- The rows with `is_current`. -/
def current (rows : List Row) : List Row :=
  rows.filter Row.isCurrent

/-- The unique constraints of `TaskAttempt`. -/
def IsUnique (rows : List Row) : Prop :=
  (rows.map Row.number).Nodup ∧ (current rows).length ≤ 1
  deriving Decidable

/-- `last_check_output` of an attempt that `rerun_task` creates. -/
def rerunOutput : String :=
  "Создана дополнительная тренировочная попытка. " ++
    "Она не влияет на зачет по заданию и не отправляется наставнику " ++
    "на ручную проверку."

/-- How far a request has come, and what it has read. -/
inductive Phase where
  | read (row : Row)
  | selecting (row : Row) (latest : Option Row)
  | numbered (row : Row) (lock : Option Pk) (number : Nat)
  | updating (row : Row) (lock : Option Pk) (number : Nat) (seen : List Pk)
  | cleared (row : Row) (lock : Option Pk) (number : Nat) (held : List Pk)
  | missed
  | saving (row : Row)
  | creating
  | refused

/-- The rows that a transaction has locked. -/
def Phase.locks : Phase → List Pk
  | .numbered _ lock _ => lock.toList
  | .updating _ lock _ _ => lock.toList
  | .cleared _ lock _ held => lock.toList ++ held
  | _ => []

/-- A request that is going on. -/
structure Request where
  id : Pk
  phase : Phase

/-- The attempts of the user at the task, and the requests going on. -/
structure System where
  userId : Pk
  taskId : Pk
  rows : List Row := []
  nextPk : Pk := 1
  requests : List Request := []

/-- What happens next. -/
inductive Action where
  | rerun (id attemptId : Pk) (available : Bool)
  | select (id : Pk)
  | lock (id : Pk)
  | update (id : Pk)
  | clear (id : Pk)
  | create (id : Pk)
  | lookUp (id : Pk)
  | latest (id : Pk)
  | save (id : Pk)
  | first (id : Pk)
  | get (id : Pk)
  | abort (id : Pk)
  | pass (attemptId : Pk) (now : Timestamp)

namespace System

variable (sys : System) (id : Pk)

/-- The phase of a request. -/
def phase? : Option Phase :=
  (sys.requests.find? fun request => request.id = id).map Request.phase

/-- A request reaches a phase. -/
def enter (phase : Phase) : System :=
  { sys with
    requests :=
      Rows.modify Request.id id (fun request => { request with phase := phase })
        sys.requests }

/-- A request begins. -/
def begin (phase : Phase) : System :=
  { sys with requests := sys.requests ++ [⟨id, phase⟩] }

/-- A request ends. -/
def leave : System :=
  { sys with requests := sys.requests.filter fun request => request.id ≠ id }

/-- No other transaction has locked the row. -/
def isFree (id pk : Pk) : Bool :=
  sys.requests.all fun request =>
    request.id = id || decide (pk ∉ request.phase.locks)

/-- The row that the user and the task have next. -/
def created (number : Nat) (attempt : TaskAttempt) : Row where
  identity :=
    { pk := sys.nextPk
      userId := sys.userId
      taskId := sys.taskId
      attemptNumber := number }
  attempt := attempt
  runs := []

/-- The rows are committed, or refused for a constraint. -/
def commit (rows : List Row) : Option System :=
  if IsUnique rows then some { sys with rows := rows } else none

/-- The guards of `rerun_task` on the attempt that it read. -/
def admitsRerun (row : Row) (available : Bool) : Bool :=
  row.isCurrent && row.technicalLocked && row.canRerun && available

/-- `rerun_task` reads its attempt. -/
def rerun (id attemptId : Pk) (available : Bool) : System :=
  match sys.rows.find? fun row => row.pk = attemptId with
  | none => sys
  | some row =>
      if admitsRerun row available then sys.begin id (.read row) else sys

/-- `get_next_attempt_number` has its lock. -/
def lock? (row : Row) : Option Row → Option System
  | none => some (sys.enter id (.numbered row none 1))
  | some latest =>
      if sys.isFree id latest.pk then
        some (sys.enter id (.numbered row (some latest.pk) (latest.number + 1)))
      else
        none

/-- The rows that are seen to be current are not current any more. -/
def clear? (row : Row) (lock : Option Pk) (number : Nat)
    (seen : List Pk) : Option System :=
  if seen.all fun pk => sys.isFree id pk then
    let held :=
      (current sys.rows).map Row.pk |>.filter fun pk => decide (pk ∈ seen)
    some (sys.enter id (.cleared row lock number held))
  else
    none

/-- `rerun_task` inserts its attempt and commits. -/
def create (number : Nat) (held : List Pk) : System :=
  let added :=
    sys.created number
        { TaskAttempt.created with lastCheckOutput := rerunOutput }
  let rows := sys.rows.map fun row =>
      if row.pk ∈ held then row.setCurrent false else row
  let ended := { sys.leave id with nextPk := sys.nextPk + 1 }
  (ended.commit (rows ++ [added])).getD ended

/-- `get_current_attempt` asks for the current attempt. -/
def lookUp : System :=
  match latest? (current sys.rows) with
  | some _ => sys
  | none => sys.begin id .missed

/-- `get_current_attempt` asks for any attempt. -/
def latest (sys : System) (id : Pk) : System :=
  match latest? sys.rows with
  | some row => sys.enter id (.saving row)
  | none => sys.enter id .creating

/-- `get_current_attempt` saves that the latest attempt is current. -/
def save? (row : Row) : Option System :=
  if sys.isFree id row.pk then
    let ended := sys.leave id
    let rows := Rows.modify Row.pk row.pk (Row.setCurrent true) sys.rows
    some ((ended.commit rows).getD ended)
  else
    none

/-- `get_current_attempt` creates the first attempt. -/
def first : System :=
  let added := sys.created 1 TaskAttempt.created
  let ended := { sys.leave id with nextPk := sys.nextPk + 1 }
  let refused := { sys.enter id .refused with nextPk := sys.nextPk + 1 }
  (ended.commit (sys.rows ++ [added])).getD refused

/-- One statement of a request, or what another request does. -/
def step? : Action → Option System
  | .rerun id attemptId available =>
      match sys.phase? id with
      | none => some (sys.rerun id attemptId available)
      | some _ => none
  | .select id =>
      match sys.phase? id with
      | some (.read row) =>
          some (sys.enter id (.selecting row (latest? sys.rows)))
      | _ => none
  | .lock id =>
      match sys.phase? id with
      | some (.selecting row latest) => sys.lock? id row latest
      | _ => none
  | .update id =>
      match sys.phase? id with
      | some (.numbered row lock number) =>
          some (sys.enter id
              (.updating row lock number ((current sys.rows).map Row.pk)))
      | _ => none
  | .clear id =>
      match sys.phase? id with
      | some (.updating row lock number seen) =>
          sys.clear? id row lock number seen
      | _ => none
  | .create id =>
      match sys.phase? id with
      | some (.cleared _ _ number held) => some (sys.create id number held)
      | _ => none
  | .lookUp id =>
      match sys.phase? id with
      | none => some (sys.lookUp id)
      | some _ => none
  | .latest id =>
      match sys.phase? id with
      | some .missed => some (sys.latest id)
      | _ => none
  | .save id =>
      match sys.phase? id with
      | some (.saving row) => sys.save? id row
      | _ => none
  | .first id =>
      match sys.phase? id with
      | some .creating => some (sys.first id)
      | _ => none
  | .get id =>
      match sys.phase? id with
      | some .refused => some (sys.leave id)
      | _ => none
  | .abort id => some (sys.leave id)
  | .pass attemptId now =>
      some
        { sys with
          rows := Rows.modify Row.pk attemptId (Row.passed now) sys.rows }

end System

end TicketSandbox.Sandbox.AttemptNumbers
