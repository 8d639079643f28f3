import TicketSandbox.Sandbox.Views

namespace TicketSandbox.Sandbox

/-!
# What the ledger functions do

One lemma per function says everything that a successful call can have done,
for an attempt under coverage.  Later proofs work from these lemmas and never
unfold the functions again.
-/

variable {db : Db} {runId operation : Uuid} {row : TechnicalCheckExecution}

namespace Db

theorem execution?_some (found : db.execution? runId = some row) :
    row ∈ db.checks ∧ row.runId = runId := by
  refine ⟨List.mem_of_find?_eq_some found, ?_⟩
  simpa using List.find?_some found

theorem operation?_some
    {row : EnvironmentOperation} (found : db.operation? operation = some row) :
    row ∈ db.environment ∧ row.operationId = operation := by
  refine ⟨List.mem_of_find?_eq_some found, ?_⟩
  simpa using List.find?_some found

theorem execution?_of_mem
    (unique : (db.checks.map TechnicalCheckExecution.runId).Nodup)
    (member : row ∈ db.checks) :
    db.execution? row.runId = some row :=
  Rows.find?_of_key unique member (decide_eq_true rfl) fun _ same =>
    of_decide_eq_true same

theorem operation?_of_mem
    (unique : (db.environment.map EnvironmentOperation.operationId).Nodup)
    {row : EnvironmentOperation} (member : row ∈ db.environment) :
    db.operation? row.operationId = some row :=
  Rows.find?_of_key unique member (decide_eq_true rfl) fun _ same =>
    of_decide_eq_true same

end Db

namespace Ledger

/-- An attempt that is covered is observed already. -/
theorem observe_of_covered
    (covered : db.coverage.isSome = true) (attempt : TaskAttempt) :
    observe db attempt = db := by
  cases present : db.coverage with
  | none => simp [present] at covered
  | some coverage => simp [observe, present]

/-- A gap of a covered attempt is added behind the others. -/
theorem gap_of_covered
    (covered : db.coverage.isSome = true) (reason : GapReason) :
    gap db reason = { db with gaps := db.gaps ++ [reason] } := by
  simp [gap, covered]

theorem runId_ne_of_free
    (free : runIdTaken db runId = false) (member : row ∈ db.checks) :
    row.runId ≠ runId := by
  simp only [runIdTaken, Bool.or_eq_false_iff] at free
  have absent : db.execution? runId = none := by
    simpa using free.1
  simpa using List.find?_eq_none.mp absent row member

variable {next : Db} {attempt : TaskAttempt} {generated : Uuid}
  {now : Timestamp} {execution : TechnicalCheckExecution}

theorem requestCheck_ok
    {runId : OperationInput} (covered : db.coverage.isSome = true) (accepted :
      requestCheck db attempt .service runId generated now =
        .ok (next, execution)) :
    ∃ id,
      runIdTaken db id = false ∧ execution = newExecution db .service id now ∧
        next = { db with checks := db.checks ++ [execution] } := by
  simp only [requestCheck, observe_of_covered covered] at accepted
  cases parsed : operationId runId generated with
  | error failure => simp [parsed] at accepted
  | ok id =>
      cases taken : runIdTaken db id with
      | true => simp [parsed, taken] at accepted
      | false =>
          simp only [parsed, taken, Bool.false_eq_true, ↓reduceIte, ne_eq,
            not_true_eq_false, Except.ok.injEq, Prod.mk.injEq] at accepted
          obtain ⟨rfl, rfl⟩ := accepted
          exact ⟨id, taken, rfl, rfl⟩

/-- What `begin_check` can have done. -/
inductive CheckBegun
    (db : Db) (runId : Uuid) (now : Timestamp) : Db → Bool → Prop where
  | duplicate :
      CheckBegun db runId now (recordDuplicateCheck db runId now) false
  | started {execution : TechnicalCheckExecution} : execution ∈ db.checks →
      execution.runId = runId →
      hasEvents execution = false →
      CheckBegun db runId now (db.modifyExecution runId (startExecution now))
        true

theorem beginCheck_ok {started : Bool}
    (accepted : beginCheck db runId now = .ok (next, execution, started)) :
    CheckBegun db runId now next started := by
  simp only [beginCheck] at accepted
  split at accepted
  · simp at accepted
  · rename_i row found
    obtain ⟨member, sameRun⟩ := Db.execution?_some found
    split at accepted
    · simp only [Except.ok.injEq, Prod.mk.injEq] at accepted
      obtain ⟨rfl, rfl, rfl⟩ := accepted
      exact .duplicate
    · rename_i untouched
      simp only [Except.ok.injEq, Prod.mk.injEq] at accepted
      obtain ⟨rfl, rfl, rfl⟩ := accepted
      exact .started member sameRun (Bool.not_eq_true _ ▸ untouched)

theorem checkLive_ok (live : checkLive db (some runId) = .ok ())
    (found : db.execution? runId = some row) :
    row.finished = none := by
  cases finish : row.finished with
  | none => rfl
  | some event => simp [checkLive, found, finish] at live

/-- `request_environment` accepts the call and finds no such operation. -/
def mayRegister (db : Db) (actor : Option Pk) (origin : Origin)
    (opId : OperationInput) : Bool :=
  decide (origin = .trainee → actor = some db.identity.userId) &&
    decide (origin = .maintenance → actor.map db.isStaff ≠ some false) &&
    match opId with
    | .absent => true
    | .malformed => false
    | .given op => !foreignOperation db op && (db.operation? op).isNone

/-- What a request for an environment has written. -/
theorem requestEnvironment_ok
    {kind : EnvironmentKind} {actor : Option Pk} {origin : Origin}
    {opId : OperationInput} {event : EnvironmentOperation} {created : Bool}
    (covered : db.coverage.isSome = true) (accepted :
      requestEnvironment db attempt kind actor origin opId generated now =
        .ok (next, event, created)) :
    (created = false ∧ next = db ∧ event ∈ db.environment ∧ event.kind = kind ∧
        operationId opId generated = .ok event.operationId) ∨
      (created = true ∧ mayRegister db actor origin opId = true ∧
        (∀ row ∈ db.environment, row.operationId ≠ event.operationId) ∧
        (∃ id, operationId opId generated = .ok id ∧
          event = newOperation db.identity kind actor origin id now) ∧
        next = { db with environment := db.environment ++ [event] }) := by
  simp only [requestEnvironment, observe_of_covered covered] at accepted
  split at accepted
  · simp at accepted
  rename_i byTrainee
  split at accepted
  · simp at accepted
  rename_i byStaff
  cases parsed : operationId opId generated with
  | error failure => simp [parsed] at accepted
  | ok id =>
      simp only [parsed] at accepted
      split at accepted
      · simp at accepted
      rename_i foreign
      cases found : db.operation? id with
      | none =>
          simp only [found, Except.ok.injEq, Prod.mk.injEq] at accepted
          obtain ⟨rfl, rfl, rfl⟩ := accepted
          refine .inr ⟨rfl, ?_, ?_, ⟨id, rfl, rfl⟩, rfl⟩
          · cases opId with
            | absent => simp_all [mayRegister]
            | malformed => simp [operationId] at parsed
            | given op =>
                simp only [operationId, Except.ok.injEq] at parsed
                subst parsed
                simp_all [mayRegister]
          · intro row member
            simpa [newOperation] using List.find?_eq_none.mp found row member
      | some old =>
          obtain ⟨member, sameId⟩ := Db.operation?_some found
          simp only [found] at accepted
          split at accepted
          · rename_i same
            simp only [Except.ok.injEq, Prod.mk.injEq] at accepted
            obtain ⟨rfl, rfl, rfl⟩ := accepted
            exact .inl ⟨rfl, rfl, member, same.1, by rw [sameId]⟩
          · simp at accepted

theorem environmentLive_ok
    {row : EnvironmentOperation} (live : environmentLive db operation = .ok ())
    (found : db.operation? operation = some row) :
    row.finished = none := by
  cases finish : row.finished with
  | none => rfl
  | some event => simp [environmentLive, found, finish] at live

theorem beginRequested_cases
    (db : Db) (request : EnvironmentOperation) (now : Timestamp) :
    beginRequested db request now =
        (environmentDuplicate db request.operationId now, request, false) ∨
      (beginRequested db request now =
          (environmentFinished db request.operationId (refusedFinish now),
            request, false) ∧
        ∃ other ∈ db.environment,
          other.operationId ≠ request.operationId ∧ other.isOpen) ∨
      (beginRequested db request now =
          (environmentStarted db request.operationId now, request, true) ∧
        (∀ other ∈ db.environment, other.operationId ≠ request.operationId →
          other.isOpen = false) ∧
        ∀ row, db.operation? request.operationId = some row →
          row.started = none ∧ row.finished = none) := by
  simp only [beginRequested]
  split
  · exact .inl rfl
  · rename_i untouched
    split
    · rename_i busy
      refine .inr (.inl ⟨rfl, ?_⟩)
      obtain ⟨other, member, differs⟩ := List.any_eq_true.mp busy
      exact ⟨other, member, by simpa using differs⟩
    · rename_i idle
      refine .inr (.inr ⟨rfl, ?_, ?_⟩)
      · intro other member differs
        have none := List.any_eq_false.mp (Bool.not_eq_true _ ▸ idle)
          other member
        simpa [differs] using none
      · intro row found
        simp only [found, Option.getD_some, not_or,
          Bool.not_eq_true, Option.isSome_eq_false_iff,
          Option.isNone_iff_eq_none] at untouched
        exact untouched

theorem publish_ok
    {event : SourceEvent} (accepted : publish db event = .ok next) :
    (event ∈ db.sourceEvents ∧ next = db) ∨
      ((∀ row ∈ db.sourceEvents, row.key ≠ event.key) ∧
        next = { db with sourceEvents := db.sourceEvents ++ [event] }) := by
  cases found : db.sourceEvents.find? fun row => row.key = event.key with
  | none =>
      simp only [publish, found, Except.ok.injEq] at accepted
      subst accepted
      refine .inr ⟨?_, rfl⟩
      intro row member
      simpa using List.find?_eq_none.mp found row member
  | some existing =>
      simp only [publish, found] at accepted
      split at accepted
      · rename_i same
        simp only [Except.ok.injEq] at accepted
        subst accepted
        subst same
        exact .inl ⟨List.mem_of_find?_eq_some found, rfl⟩
      · simp at accepted

end Ledger

end TicketSandbox.Sandbox
