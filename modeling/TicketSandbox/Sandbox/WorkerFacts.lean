import TicketSandbox.Sandbox.Agreement

namespace TicketSandbox.Sandbox

/-!
# What the threads know

A thread acts on what it read or committed earlier.  `Thread.Grounded` is what
stays true of that knowledge while other threads run, and it is what the next
transaction of the thread relies on.
-/

/-- The execution was begun by some worker. -/
def Db.HasStarted (db : Db) (runId : Uuid) : Prop :=
  ∃ row ∈ db.checks, row.runId = runId ∧ row.started.isSome = true

/--
The operation was begun by a worker whose copy of the restart counter stays
good until the operation is closed.
-/
def Db.HasLaunched (db : Db) (kind : EnvironmentKind) (operation : Uuid)
    (copy : TaskAttempt) : Prop :=
  ∃ row ∈ db.environment,
    row.operationId = operation ∧ row.kind = kind ∧ row.started.isSome = true ∧
      (row.finished = none → copy.restartCount = db.attempt.restartCount)

/-- What a thread knows about the database. -/
def Thread.Grounded (db : Db) : Thread → Prop
  | .checkDuplicate _ => db.technicalPassed = true
  | .checkRead _ none => db.technicalPassed = true
  | .checkRead _ (some runId) => db.HasStarted runId
  | .checking _ none _ => False
  | .checking _ (some runId) _ => db.HasStarted runId
  | .launching kind operation copy => db.HasLaunched kind operation copy
  | _ => True

variable {db next : Db}

theorem CheckStep.hasStarted {transaction : Transaction} {runId : Uuid}
    (step : CheckStep db transaction next) (started : db.HasStarted runId) :
    next.HasStarted runId := by
  obtain ⟨row, member, rfl, isStarted⟩ := started
  have rewritten {added : TechnicalCheckExecution → CheckFinished → Prop}
      (rows : Phases.Rewritten TechnicalCheckExecution.phases added db.checks
          next.checks) :
      next.HasStarted row.runId := by
    obtain ⟨version, versionMember, later⟩ := rows.mem member
    exact ⟨version, versionMember,
      congrArg (fun key => key.1) later.identity, later.isStarted isStarted⟩
  rcases step.shape with
    ⟨_, _, _, _, checks, _⟩ | ⟨_, _, finish, facts⟩ | ⟨_, quiet⟩
  · refine ⟨row, ?_, rfl, isStarted⟩
    rw [checks]
    exact List.mem_append_left _ member
  · have closes :
        Phases.Rewritten TechnicalCheckExecution.phases (fun _ _ => True)
          db.checks next.checks := by
      rw [facts.checks]
      exact .modify fun _ _ _ => Ledger.closeExecution_later fun _ => trivial
    exact rewritten closes
  · exact rewritten quiet

theorem EnvironmentStep.hasLaunched {initial : Nat} {kind : EnvironmentKind}
    {operation : Uuid} {copy : TaskAttempt}
    (recorded : ResetsRecorded initial db) (step : EnvironmentStep db next)
    (launched : db.HasLaunched kind operation copy) :
    next.HasLaunched kind operation copy := by
  obtain ⟨row, member, sameOperation, sameKind, started, counted⟩ := launched
  cases step with
  | launched other now otherMember otherStarted otherOpen environment _ =>
      refine ⟨if row.operationId = other.operationId then
            Ledger.closeOperation (Environments.launchedFinish now) row
          else
            row, ?_, ?_⟩
      · rw [environment, Rows.modify]
        exact List.mem_map_of_mem member
      · by_cases same : row.operationId = other.operationId
        · have later :
              Phases.Later EnvironmentOperation.phases (fun _ _ => True) row
                (Ledger.closeOperation (Environments.launchedFinish now) row) :=
            Ledger.closeOperation_later fun _ => trivial
          rw [if_pos same]
          refine
            ⟨(congrArg (fun key => key.1) later.identity).trans sameOperation,
              (congrArg (fun key => key.2.1) later.identity).trans sameKind,
              later.isStarted started, ?_⟩
          intro stillOpen
          simp only [Ledger.closeOperation] at stillOpen
          split at stillOpen
          · simp at stillOpen
          · rename_i closed
            simp [stillOpen] at closed
        · rw [if_neg same]
          refine ⟨sameOperation, sameKind, started, ?_⟩
          intro stillOpen
          have sameRow : row = other :=
            recorded.exclusive row member other otherMember
              ⟨started, stillOpen⟩ ⟨otherStarted, otherOpen⟩
          exact (same (congrArg _ sameRow)).elim
  | advanced base change registered environment later _ count =>
      have inBase : row ∈ base := registered.mem member
      have version := later row inBase
      refine ⟨change row, ?_, ?_, ?_, version.isStarted started, ?_⟩
      · rw [environment]
        exact List.mem_map_of_mem inBase
      · exact (congrArg (fun key => key.1) version.identity).trans sameOperation
      · exact (congrArg (fun key => key.2.1) version.identity).trans sameKind
      · intro stillOpen
        rw [count]
        exact counted (version.unfinished stillOpen)

namespace Thread.Grounded

variable {reply : Reply} {thread : Thread}

theorem later {coverage : AttemptCoverage} {transaction : Transaction}
    (agrees : Agrees coverage db)
    (performed : Performed db transaction next reply)
    (grounded : thread.Grounded db) :
    thread.Grounded next := by
  have checkStep := performed.checkStep agrees.checks.uniqueRuns
  cases thread with
  | checkDuplicate runId => exact checkStep.technicalPassed grounded
  | checkRead runId execution =>
      cases execution with
      | none => exact checkStep.technicalPassed grounded
      | some started => exact checkStep.hasStarted grounded
  | checking runId execution copy =>
      cases execution with
      | none => exact grounded
      | some started => exact checkStep.hasStarted grounded
  | launching kind operation copy =>
      exact performed.environmentStep.hasLaunched agrees.resets grounded
  | _ => trivial

/-- A grounded thread runs grounded transactions. -/
theorem transaction {supply : Supply}
    {transaction : Transaction} (grounded : thread.Grounded db)
    (next : thread.transaction? db supply = some transaction) :
    transaction.Grounded db := by
  unfold Thread.transaction? at next
  split at next <;> cases next <;> try trivial
  rename_i runId execution copy outcome now
  cases execution with
  | none => exact grounded.elim
  | some started =>
      obtain ⟨row, member, rfl, isStarted⟩ := grounded
      exact ⟨row, member, rfl, isStarted⟩

theorem committed {supply : Supply} {transaction : Transaction}
    (grounded : thread.Grounded next)
    (runs : thread.transaction? db supply = some transaction)
    (performed : Performed db transaction next reply) :
    (thread.committed next reply).Grounded next := by
  cases thread with
  | checkDuplicate runId => exact grounded
  | checkBegin runId =>
      cases supply <;> cases runs
      cases performed with
      | beginCheck begun =>
          cases begun with
          | duplicate => trivial
          | started member sameRun _ =>
              refine ⟨_, Rows.mem_modify.mpr ⟨_, member, .inl ⟨sameRun, rfl⟩⟩,
                sameRun, rfl⟩
  | environmentBegin kind operation copy =>
      cases supply <;> cases runs
      cases performed with
      | beginEnvironment begun =>
          cases begun with
          | duplicate _ => trivial
          | refused _ _ _ _ => trivial
          | started registered _ notStarted _ =>
              obtain ⟨member, sameOperation, sameKind⟩ := registered.mem
              refine ⟨_, Rows.mem_modify.mpr
                ⟨_, member, .inl ⟨sameOperation, rfl⟩⟩, ?_, ?_, ?_,
                fun _ => rfl⟩
              · simp [Ledger.startOperation, notStarted, sameOperation]
              · simp [Ledger.startOperation, notStarted, sameKind]
              · simp [Ledger.startOperation, notStarted]
  | answerLooked post copy =>
      cases reply with
      | decided accepted =>
          cases accepted with
          | true =>
              simp only [Thread.committed]
              split <;> trivial
          | false => trivial
      | _ => trivial
  | answerDrafted post copy =>
      cases reply with
      | decided accepted =>
          cases accepted with
          | true =>
              simp only [Thread.committed]
              split <;> trivial
          | false => trivial
      | _ => trivial
  | _ => trivial

theorem raised : thread.raised.Grounded db := by
  cases thread with
  | checking runId execution copy => cases execution <;> trivial
  | _ => trivial

theorem read {next : Thread} (grounded : thread.Grounded db)
    (reads : thread.read? db = some next) :
    next.Grounded db := by
  cases thread with
  | checkRead runId execution =>
      simp only [Thread.read?] at reads
      split at reads <;> cases reads
      · trivial
      · rename_i unpassed
        cases execution with
        | none => exact (unpassed grounded).elim
        | some started => exact grounded
  | environmentFailed kind operation =>
      simp only [Thread.read?] at reads
      split at reads <;> cases reads <;> trivial
  | answerOpened post copy =>
      simp only [Thread.read?] at reads
      split at reads <;> cases reads <;> trivial
  | _ => simp [Thread.read?] at reads

/-- An entry is grounded. -/
theorem enter (db : Db) (entry : Entry) : (entry.enter db).Grounded db := by
  cases entry with
  | deliverCheck runId =>
      simp only [Entry.enter]
      split_ifs with observed passed
      · trivial
      · exact passed
      · trivial
  | deliverEnvironment kind operation => trivial
  | environmentTask kind opId isAvailable =>
      simp only [Entry.enter]
      split_ifs <;> trivial
  | checkTask post isAvailable =>
      simp only [Entry.enter]
      split
      · trivial
      · split <;> trivial
  | queryStuck kind now minutes =>
      simp only [Entry.enter]
      split <;> trivial

end Thread.Grounded

end TicketSandbox.Sandbox
