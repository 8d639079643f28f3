import TicketSandbox.Sandbox.LedgerFacts

namespace TicketSandbox.Sandbox.Environments

/-!
# What the environment transactions do

One relation per transaction of the environment services, listing everything
a successful call can have done to an attempt under coverage.
-/

/-- No row of the table carries the identity of the operation. -/
def IsNew (environment : List EnvironmentOperation)
    (event : EnvironmentOperation) : Prop :=
  ∀ row ∈ environment, row.operationId ≠ event.operationId

/-- What `try_mark_environment_starting` or `_restarting` can have done. -/
inductive Requested
    (kind : EnvironmentKind) (db : Db) (actor : Option Pk) (origin : Origin)
    (opId : OperationInput) (requestedAt now : Timestamp) : Db → Prop where
  | repeated : Requested kind db actor origin opId requestedAt now db
  | refused (id : Uuid) : IsNew db.environment
        (Ledger.newOperation db.identity kind actor origin id requestedAt) →
      db.attempt.environmentStatus.isSpinning = true →
      Requested kind db actor origin opId requestedAt now
        { db with
          environment := db.environment ++
              [Ledger.closeOperation (Ledger.refusedFinish now)
                (Ledger.newOperation db.identity kind actor origin id
                    requestedAt)] }
  | won (id : Uuid) : IsNew db.environment
        (Ledger.newOperation db.identity kind actor origin id requestedAt) →
      Ledger.mayRegister db actor origin opId = true →
      db.attempt.environmentStatus.isSpinning = false →
      Requested kind db actor origin opId requestedAt now
        { db with
          environment := db.environment ++
              [Ledger.newOperation db.identity kind actor origin id requestedAt]
          attempt := marked kind db.attempt now }

variable {kind : EnvironmentKind} {db next : Db} {copy : TaskAttempt}
  {generated operation : Uuid} {now : Timestamp}
  {base : List EnvironmentOperation} {request : EnvironmentOperation}

theorem tryMarkEnvironment_ok {actor : Option Pk} {origin : Origin}
    {opId : OperationInput} {requestedAt : Timestamp} {operation : Option Uuid}
    (covered : db.coverage.isSome = true) (accepted :
      tryMarkEnvironment kind db copy actor origin opId generated requestedAt
          now =
        .ok (next, operation)) :
    Requested kind db actor origin opId requestedAt now next := by
  simp only [tryMarkEnvironment] at accepted
  split at accepted
  · simp at accepted
  · rename_i requested event result
    simp only [Except.ok.injEq, Prod.mk.injEq] at accepted
    obtain ⟨rfl, rfl⟩ := accepted
    rcases Ledger.requestEnvironment_ok covered result with
      ⟨_, rfl, _⟩ | ⟨created, _⟩
    · exact .repeated
    · simp at created
  · rename_i requested event result
    rcases Ledger.requestEnvironment_ok covered result with
      ⟨created, _⟩ | ⟨_, may, isNew, ⟨id, _, rfl⟩, rfl⟩
    · simp at created
    · split at accepted
      · rename_i spinning
        simp only [Except.ok.injEq, Prod.mk.injEq] at accepted
        obtain ⟨rfl, rfl⟩ := accepted
        have shape : Ledger.environmentFinished
                { db with
                  environment := db.environment ++
                      [Ledger.newOperation db.identity kind actor origin id
                          requestedAt] }
                id (Ledger.refusedFinish now) =
              { db with
                environment := db.environment ++
                    [Ledger.closeOperation (Ledger.refusedFinish now)
                      (Ledger.newOperation db.identity kind actor origin id
                        requestedAt)] } := by
          simp only [Ledger.environmentFinished, Db.modifyOperation]
          exact congrArg
            (fun environment => { db with environment := environment })
            (Rows.modify_append_new isNew)
        have refused : Requested kind db actor origin opId requestedAt now _ :=
          .refused id isNew spinning
        rw [← shape] at refused
        exact refused
      · rename_i still
        simp only [Except.ok.injEq, Prod.mk.injEq] at accepted
        obtain ⟨rfl, rfl⟩ := accepted
        exact .won id isNew may (Bool.not_eq_true _ ▸ still)

/-- The table that `begin_environment` works on: its request is recorded. -/
inductive Registered
    (db : Db) (kind : EnvironmentKind) (operation : Uuid) (now : Timestamp) :
    List EnvironmentOperation → EnvironmentOperation → Prop where
  | found {request : EnvironmentOperation} : request ∈ db.environment →
      request.operationId = operation →
      request.kind = kind →
      Registered db kind operation now db.environment request
  | added : IsNew db.environment
        (Ledger.newOperation db.identity kind none .unknown operation now) →
      Registered db kind operation now (db.environment ++
          [Ledger.newOperation db.identity kind none .unknown operation now])
        (Ledger.newOperation db.identity kind none .unknown operation now)

/-- What `begin_environment` can have done with a queued operation. -/
inductive Begun (db : Db) (kind : EnvironmentKind) (operation : Uuid)
    (now : Timestamp) : Db → Bool → Prop where
  | duplicate {base : List EnvironmentOperation}
      {request : EnvironmentOperation} :
      Registered db kind operation now base request →
      Begun db kind operation now
        { db with
          environment := Rows.modify EnvironmentOperation.operationId operation
              (Ledger.noteDuplicateOperation now) base }
        false
  | refused {base : List EnvironmentOperation}
      {request other : EnvironmentOperation} :
      Registered db kind operation now base request →
      other ∈ base →
      other.operationId ≠ operation →
      other.isOpen = true →
      Begun db kind operation now
        { db with
          environment := Rows.modify EnvironmentOperation.operationId operation
              (Ledger.closeOperation (Ledger.refusedFinish now)) base }
        false
  | started {base : List EnvironmentOperation}
      {request : EnvironmentOperation} :
      Registered db kind operation now base request →
      (∀ other ∈ base, other.operationId ≠ operation → other.isOpen = false) →
      request.started = none →
      request.finished = none →
      Begun db kind operation now
        { db with
          environment := Rows.modify EnvironmentOperation.operationId operation
              (Ledger.startOperation now) base }
        true

theorem Registered.mem
    (registered : Registered db kind operation now base request) :
    request ∈ base ∧ request.operationId = operation ∧ request.kind = kind := by
  cases registered with
  | found member sameOperation sameKind =>
      exact ⟨member, sameOperation, sameKind⟩
  | added _ => exact ⟨by simp, rfl, rfl⟩

theorem Registered.unique
    (registered : Registered db kind operation now base request)
    (unique : (db.environment.map EnvironmentOperation.operationId).Nodup) :
    (base.map EnvironmentOperation.operationId).Nodup := by
  cases registered with
  | found _ _ _ => exact unique
  | added isNew => exact Rows.nodup_append_new unique isNew

theorem beginRequested_begun
    (unique : (db.environment.map EnvironmentOperation.operationId).Nodup)
    (registered : Registered db kind operation now base request) :
    Begun db kind operation now
      (Ledger.beginRequested { db with environment := base } request now).1
      (Ledger.beginRequested { db with environment := base } request
        now).2.2 := by
  obtain ⟨member, sameOperation, _⟩ := registered.mem
  have foundRequest : ({ db with environment := base } : Db).operation?
          request.operationId = some request :=
    Db.operation?_of_mem (registered.unique unique) member
  rcases Ledger.beginRequested_cases { db with environment := base } request
      now with
    shape | ⟨shape, other, otherMember, differs, otherOpen⟩ |
      ⟨shape, othersClosed, untouched⟩
  · rw [shape, sameOperation]
    exact .duplicate registered
  · rw [shape, sameOperation]
    rw [sameOperation] at differs
    exact .refused registered otherMember differs otherOpen
  · rw [shape, sameOperation]
    rw [sameOperation] at othersClosed
    obtain ⟨notStarted, notFinished⟩ := untouched request foundRequest
    exact .started registered othersClosed notStarted notFinished

theorem beginEnvironment_ok {begun : Bool} (covered : db.coverage.isSome = true)
    (unique : (db.environment.map EnvironmentOperation.operationId).Nodup)
    (accepted :
      Ledger.beginEnvironment db copy kind (.given operation) none .unknown
          generated now =
        .ok (next, request, begun)) :
    Begun db kind operation now next begun := by
  simp only [Ledger.beginEnvironment] at accepted
  split at accepted
  · rename_i found result
    simp only [Except.ok.injEq] at accepted
    have member := List.mem_of_find?_eq_some result
    have wanted := List.find?_some result
    simp only [Bool.decide_and, Bool.and_eq_true, decide_eq_true_eq] at wanted
    have registered : Registered db kind operation now db.environment found :=
      .found member wanted.1 wanted.2
    have begins := beginRequested_begun unique registered
    rw [accepted] at begins
    exact begins
  · rename_i missing
    simp only [reduceCtorEq, false_and, ↓reduceIte, and_false] at accepted
    split at accepted
    · simp at accepted
    · rename_i requested row created result
      simp only [Except.ok.injEq] at accepted
      rcases Ledger.requestEnvironment_ok covered result with
        ⟨_, rfl, member, sameKind, parsed⟩ |
          ⟨_, _, isNew, ⟨id, parsed, rfl⟩, rfl⟩
      · simp only [Ledger.operationId, Except.ok.injEq] at parsed
        have absent := List.find?_eq_none.mp missing row member
        simp [← parsed, sameKind] at absent
      · simp only [Ledger.operationId, Except.ok.injEq] at parsed
        subst parsed
        have begins := beginRequested_begun unique (.added isNew)
        rw [accepted] at begins
        exact begins

theorem saveLaunched_ok {request : Uuid} {launch : Launch}
    (accepted : saveLaunched kind db copy request launch now = .ok next) :
    Ledger.environmentLive db request = .ok () ∧ next =
        { db with
          attempt := launched kind db.attempt copy launch now
          environment := Rows.modify EnvironmentOperation.operationId request
              (Ledger.closeOperation (launchedFinish now))
              db.environment } := by
  simp only [saveLaunched] at accepted
  split at accepted
  · simp at accepted
  · rename_i live
    simp only [Except.ok.injEq] at accepted
    exact ⟨live, accepted.symm⟩

/-- What `mark_environment_*_error` can have done. -/
inductive Failed (kind : EnvironmentKind) (db : Db) (error : String)
    (now : Timestamp) : Db → Prop where
  | ignored : db.attempt.environmentStatus.isSpinning = false →
      Failed kind db error now db
  | failed : db.attempt.environmentStatus.isSpinning = true →
      Failed kind db error now (failEnvironment kind db error now)
  | legacy (id : Uuid) : db.attempt.environmentStatus.isSpinning = false →
      db.environment = [] →
      Failed kind db error now (failEnvironment kind
          { db with
            gaps := db.gaps ++ [.legacyEnvironmentDelivery]
            environment :=
              [Ledger.newOperation db.identity kind none .unknown id now] }
          error now)

/-- What `mark_environment_error` has done. -/
theorem markEnvironmentError_ok
    {error : String} (covered : db.coverage.isSome = true) (accepted :
      markEnvironmentError kind db copy error generated now = .ok next) :
    Failed kind db error now next := by
  simp only [markEnvironmentError] at accepted
  split at accepted
  · rename_i spinning
    simp only [Except.ok.injEq] at accepted
    subst accepted
    exact .failed spinning
  · rename_i still
    split at accepted
    · simp only [Except.ok.injEq] at accepted
      subst accepted
      exact .ignored (Bool.not_eq_true _ ▸ still)
    · rename_i untouched
      simp only [ne_eq, not_or, Decidable.not_not] at untouched
      split at accepted
      · simp at accepted
      · rename_i requested row created result
        simp only [Except.ok.injEq] at accepted
        subst accepted
        rw [Ledger.gap_of_covered covered] at result
        have gapCovered : ({ db with
                gaps := db.gaps ++ [.legacyEnvironmentDelivery] } : Db
              ).coverage.isSome = true := covered
        rcases Ledger.requestEnvironment_ok gapCovered result with
          ⟨_, rfl, member, _⟩ | ⟨_, _, _, ⟨id, _, rfl⟩, rfl⟩
        · simp [untouched.2] at member
        · have legacy : Failed kind db error now _ :=
            .legacy id (Bool.not_eq_true _ ▸ still) untouched.2
          simpa [untouched.2] using legacy

end TicketSandbox.Sandbox.Environments
