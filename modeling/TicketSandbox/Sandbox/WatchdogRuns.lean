import TicketSandbox.Library.Histories
import TicketSandbox.Sandbox.SystemFacts

namespace TicketSandbox.Sandbox

/-!
# The ledger only grows

No step removes an execution or an operation, changes what it is, or takes its
start or its finish back.
-/

/-- A later version of an execution. -/
def TechnicalCheckExecution.Later (old new : TechnicalCheckExecution) : Prop :=
  Phases.Later TechnicalCheckExecution.phases (fun _ _ => True) old new

/-- A later version of an environment operation. -/
def EnvironmentOperation.Later (old new : EnvironmentOperation) : Prop :=
  Phases.Later EnvironmentOperation.phases (fun _ _ => True) old new

variable {db next : Db} {coverage : AttemptCoverage}

theorem CheckStep.isExtended
    {transaction : Transaction} (step : CheckStep db transaction next) :
    Rows.Extends TechnicalCheckExecution.Later db.checks next.checks := by
  rcases step.shape with
    ⟨_, _, _, _, checks, _⟩ | ⟨row, _, finish, facts⟩ | ⟨_, rewritten⟩
  · rw [checks]
    exact .append (fun row => .refl row) _ _
  · have rewritten :
        Phases.Rewritten TechnicalCheckExecution.phases (fun _ _ => True)
          db.checks next.checks := by
      rw [facts.checks]
      exact .modify fun _ _ _ => Ledger.closeExecution_later fun _ => trivial
    exact rewritten.isExtended
  · exact rewritten.isExtended

theorem EnvironmentStep.isExtended (step : EnvironmentStep db next) :
    Rows.Extends EnvironmentOperation.Later db.environment
      next.environment := by
  cases step with
  | launched row now _ _ _ environment _ =>
      have rewritten :
          Phases.Rewritten EnvironmentOperation.phases (fun _ _ => True)
            db.environment next.environment := by
        rw [environment]
        exact .modify fun _ _ _ => Ledger.closeOperation_later fun _ => trivial
      exact rewritten.isExtended
  | advanced base change registered environment later _ _ =>
      have rewritten :
          Phases.Rewritten EnvironmentOperation.phases Unsuccessful base
            next.environment :=
        ⟨change, environment, later⟩
      have registers :
          Rows.Extends EnvironmentOperation.Later db.environment base := by
        cases registered with
        | same => exact .refl (fun row => .refl row) _
        | added event _ _ _ => exact .append (fun row => .refl row) _ _
      exact registers.trans (fun _ _ _ => Phases.Later.trans)
        rewritten.isExtended

namespace System.Agrees

theorem extendsChecks (system : System) (action : Action) (next : System)
    (stepped : system.step? action = some next)
    (agrees : system.Agrees coverage) :
    next.Agrees coverage ∧
      Rows.Extends TechnicalCheckExecution.Later system.db.checks
        next.db.checks := by
  have moves := System.step?_stepped stepped
  refine ⟨agrees.step moves, ?_⟩
  rcases agrees.performedOrSame moves with same | ⟨_, _, _, _, performed⟩
  · rw [same]
    exact .refl (fun row => .refl row) _
  · exact (performed.checkStep agrees.db.checks.uniqueRuns).isExtended

theorem extendsEnvironment (system : System) (action : Action) (next : System)
    (stepped : system.step? action = some next)
    (agrees : system.Agrees coverage) :
    next.Agrees coverage ∧
      Rows.Extends EnvironmentOperation.Later system.db.environment
        next.db.environment := by
  have moves := System.step?_stepped stepped
  refine ⟨agrees.step moves, ?_⟩
  rcases agrees.performedOrSame moves with same | ⟨_, _, _, _, performed⟩
  · rw [same]
    exact .refl (fun row => .refl row) _
  · exact performed.environmentStep.isExtended

end System.Agrees

end TicketSandbox.Sandbox

namespace TicketSandbox.Sandbox

/-!
# What the watchdog closes

The watchdog tests the age of an attempt in its query, and under the lock it
tests the status only.  In between the stuck operation may end and another one
may begin, which the watchdog then closes as well.
-/

open DetectStuckAttempts
open Runs

/-- The step gives a row its finish. -/
def Closes {ρ κ τ φ : Type} (view : Phases.View ρ κ τ φ) (before after : List ρ)
    (row : ρ) : Prop :=
  row ∈ before ∧ view.finish row = none ∧ ∃ version ∈ after,
      view.identity version = view.identity row ∧ view.finish version ≠ none

/--
The row was requested before the deadline, and it was recorded at the query,
where it was begun if it is begun now.
-/
def IsStuckRow
    {ρ κ τ φ : Type} (view : Phases.View ρ κ τ φ) (requestedAt : ρ → Timestamp)
    (queried : List ρ) (deadline : Timestamp) (row : ρ) : Prop :=
  requestedAt row < deadline ∧ ∃ old ∈ queried,
      view.identity old = view.identity row ∧
        ((view.started row).isSome = true → (view.started old).isSome = true)

/--
The watchdog closes whatever is open when it locks the attempt, so also rows
that were registered or begun after its query.  Here no step did either to a
row that is still open, and the rows open since the query were requested before
the deadline.
-/
structure NothingYoung
    {ρ κ τ φ : Type} (view : Phases.View ρ κ τ φ) (requestedAt : ρ → Timestamp)
    (rows : System → List ρ) (deadline : Timestamp) (queried : System)
    (between : List Action) (locked : System) : Prop where
  untouched : ∀ row ∈ rows locked, view.finish row = none →
      ¬ Histories.Touched view rows System.step? anything queried
          between locked (view.identity row)
  aged : ∀ row ∈ rows queried, (∃ version ∈ rows locked,
        view.identity version = view.identity row ∧
          view.finish version = none) →
      requestedAt row < deadline

variable {queried locked : System} {between : List Action} {thread : Nat}
  {now : Timestamp} {db : Db} {reason : Reason}

/-- When a round closes exactly the stuck rows. -/
theorem closes_stuck_iff
    {ρ κ τ φ : Type} (view : Phases.View ρ κ τ φ) (requestedAt : ρ → Timestamp)
    (rows : System → List ρ) (after : List ρ) (interrupts : Bool)
    (deadline : Timestamp) {holds : System → Prop} (grows :
      ∀ system action next, system.step? action = some next → holds system →
        holds next ∧
          Rows.Extends (Phases.Later view fun _ _ => True) (rows system)
            (rows next))
    (timed : ∀ first second, view.identity first = view.identity second →
        requestedAt first = requestedAt second)
    (run : Run System.step? anything queried between locked)
    (initially : holds queried)
    (uniqueQueried : ((rows queried).map view.identity).Nodup)
    (uniqueLocked : ((rows locked).map view.identity).Nodup)
    (interrupted : interrupts = true →
      ∀ row ∈ rows locked, view.finish row = none →
        Closes view (rows locked) after row)
    (kept : interrupts = false → after = rows locked) :
    (∀ row, Closes view (rows locked) after row →
        IsStuckRow view requestedAt (rows queried) deadline row) ↔
      (interrupts = true →
        NothingYoung view requestedAt rows deadline queried between
          locked) := by
  have untouched {row : ρ} (member : row ∈ rows locked) :=
    Histories.untouched_iff grows run initially uniqueQueried uniqueLocked
      member
  constructor
  · intro stuck marks
    refine ⟨?_, ?_⟩
    · intro row member unfinished
      rw [untouched member]
      exact (stuck row (interrupted marks row member unfinished)).2
    · rintro row _ ⟨version, versionMember, same, unfinished⟩
      rw [← timed version row same]
      exact
        (stuck version (interrupted marks version versionMember unfinished)).1
  · rintro young row ⟨member, unfinished, version, versionMember, same,
      finished⟩
    cases marks : interrupts with
    | false =>
        rw [kept marks] at versionMember
        rw [Rows.eq_of_key uniqueLocked versionMember member same] at finished
        exact (finished unfinished).elim
    | true =>
        have nothing := young marks
        obtain ⟨old, oldMember, sameOld, keeps⟩ :=
          (untouched member).mp (nothing.untouched row member unfinished)
        refine ⟨?_, old, oldMember, sameOld, keeps⟩
        rw [← timed old row sameOld]
        exact nothing.aged old oldMember ⟨row, member, sameOld.symm, unfinished⟩

theorem Stepped.stuckFound
    {system next : System} {action : Action} {found : Thread} (isFound :
      ∃ kind copy now minutes, found = .stuckFound kind copy now minutes)
    (stepped : Stepped system action next)
    (waits :
      system.threads thread = found ∨ system.threads thread = .returned) :
    next.threads thread = found ∨ next.threads thread = .returned := by
  obtain ⟨kind, copy, now, minutes, rfl⟩ := isFound
  by_cases moves : action.thread? = some thread
  · cases stepped with
    | entered idle =>
        obtain rfl := Option.some.inj moves
        rw [idle] at waits
        simp at waits
    | read reads =>
        obtain rfl := Option.some.inj moves
        rcases waits with isFound | isReturned
        · simp [isFound, Thread.read?] at reads
        · simp [isReturned, Thread.read?] at reads
    | raised outside =>
        obtain rfl := Option.some.inj moves
        rcases waits with isFound | isReturned
        · simp [isFound, Thread.runsOutside] at outside
        · simp [isReturned, Thread.runsOutside] at outside
    | called _ _ _ => simp [Action.thread?] at moves
    | callRaised _ _ => simp [Action.thread?] at moves
    | committed _ _ _ =>
        obtain rfl := Option.some.inj moves
        right
        rw [System.setThread_same]
        rcases waits with isFound | isReturned
        · rw [isFound]
          rfl
        · rw [isReturned]
          rfl
    | commitRaised _ _ =>
        obtain rfl := Option.some.inj moves
        right
        rw [System.setThread_same]
        rcases waits with isFound | isReturned
        · rw [isFound]
          rfl
        · rw [isReturned]
          rfl
  · rw [stepped.threads_of_other moves]
    exact waits

theorem markedDb
    {before marked : System} {kind : StuckKind} {minutes closedAt : Timestamp}
    (query : before.step? (.enter thread (.queryStuck kind now minutes)) =
        some queried)
    (run : Run System.step? anything queried between locked)
    (mark : locked.step? (.commit thread (.clock closedAt)) = some marked) :
    ∃ copy, marked.db = markStuckAttempt kind locked.db copy now closedAt := by
  have waits :
      queried.threads thread = .stuckFound kind before.db.attempt now minutes ∨
        queried.threads thread = .returned := by
    cases System.step?_stepped query with
    | entered _ =>
        rw [System.setThread_same]
        simp only [Entry.enter]
        split
        · exact .inl rfl
        · exact .inr rfl
  have stillWaits :
      locked.threads thread = .stuckFound kind before.db.attempt now minutes ∨
        locked.threads thread = .returned :=
    run.invariant (fun system : System =>
        system.threads thread = .stuckFound kind before.db.attempt now minutes ∨
          system.threads thread = .returned)
      (fun _ _ _ _ stepped waiting =>
        (System.step?_stepped stepped).stuckFound ⟨_, _, _, _, rfl⟩ waiting)
      waits
  refine ⟨before.db.attempt, ?_⟩
  cases System.step?_stepped mark with
  | committed runs _ ok =>
      rcases stillWaits with isFound | isReturned
      · rw [isFound] at runs
        cases runs
        cases ok
        rfl
      · rw [isReturned] at runs
        simp [Thread.transaction?] at runs
  | commitRaised runs raised =>
      rcases stillWaits with isFound | isReturned
      · rw [isFound] at runs
        cases runs
        cases raised
      · rw [isReturned] at runs
        simp [Thread.transaction?] at runs

theorem interrupt_closesChecks
    {row : TechnicalCheckExecution} (member : row ∈ db.checks)
    (unfinished : row.finished = none) :
    Closes TechnicalCheckExecution.phases db.checks
      (Ledger.interrupt db reason now).checks row := by
  refine ⟨member, unfinished, _, List.mem_map_of_mem member, ?_, ?_⟩
  · simp [Ledger.closeExecution, unfinished, TechnicalCheckExecution.phases]
  · simp [Ledger.closeExecution, unfinished, TechnicalCheckExecution.phases]

theorem interrupt_closesOperations
    {row : EnvironmentOperation} (member : row ∈ db.environment)
    (unfinished : row.finished = none) :
    Closes EnvironmentOperation.phases db.environment
      (Ledger.interrupt db reason now).environment row := by
  refine ⟨member, unfinished, _, List.mem_map_of_mem member, ?_, ?_⟩
  · simp [Ledger.closeOperation, unfinished, EnvironmentOperation.phases]
  · simp [Ledger.closeOperation, unfinished, EnvironmentOperation.phases]

theorem Db.UniqueRuns.identities (unique : db.UniqueRuns) :
    (db.checks.map TechnicalCheckExecution.phases.identity).Nodup := by
  refine List.Nodup.of_map (fun key : Uuid × Nat × Timestamp => key.1) ?_
  rw [List.map_map]
  exact unique

theorem Db.UniqueOperations.identities (unique : db.UniqueOperations) :
    (db.environment.map EnvironmentOperation.phases.identity).Nodup := by
  refine
    List.Nodup.of_map (fun key : Uuid × EnvironmentKind × Timestamp => key.1) ?_
  rw [List.map_map]
  exact unique

/--
A watchdog round closes only what was requested before its deadline, and
nothing that was registered or begun after its query, exactly when nothing
young is open at the lock, or the lock finds the attempt no longer stuck.
-/
theorem watchdog_closes_stuck_iff (identity : AttemptIdentity) (task : Task)
    (isStaff : Pk → Bool) (digest : Text → Text → Nat) (foreign : ForeignIds)
    {serial : Pk} (positive : 0 < serial) {history between : List Action}
    {before queried locked marked : System} {thread : Nat} {kind : StuckKind}
    {now minutes closedAt : Timestamp} (reached :
      Run System.step? anything (System.created
          (Db.created identity task isStaff digest foreign serial))
        history before)
    (query : before.step? (.enter thread (.queryStuck kind now minutes)) =
        some queried)
    (run : Run System.step? anything queried between locked)
    (mark : locked.step? (.commit thread (.clock closedAt)) = some marked) :
    ((∀ row, Closes TechnicalCheckExecution.phases locked.db.checks
          marked.db.checks row →
        IsStuckRow TechnicalCheckExecution.phases
          TechnicalCheckExecution.requestedAt queried.db.checks
          (stuckDeadline now minutes) row) ∧
      ∀ row, Closes EnvironmentOperation.phases locked.db.environment
          marked.db.environment row →
        IsStuckRow EnvironmentOperation.phases
          EnvironmentOperation.requestedAt queried.db.environment
          (stuckDeadline now minutes) row) ↔
      (stillStuck kind locked.db = true →
        NothingYoung TechnicalCheckExecution.phases
            TechnicalCheckExecution.requestedAt
            (fun system => system.db.checks) (stuckDeadline now minutes)
            queried between locked ∧
          NothingYoung EnvironmentOperation.phases
            EnvironmentOperation.requestedAt
            (fun system => system.db.environment)
            (stuckDeadline now minutes) queried between locked) := by
  obtain ⟨coverage, _, _, initially⟩ :=
    System.Agrees.created identity task isStaff digest foreign positive
  have queriedAgrees :=
    (initially.run reached).step (System.step?_stepped query)
  have lockedAgrees := queriedAgrees.run run
  obtain ⟨copy, shape⟩ := markedDb query run mark
  have checks := closes_stuck_iff
      TechnicalCheckExecution.phases TechnicalCheckExecution.requestedAt
      (fun system => system.db.checks) marked.db.checks
      (stillStuck kind locked.db) (stuckDeadline now minutes)
      System.Agrees.extendsChecks
      (fun _ _ same => congrArg (fun key => key.2.2) same)
      run queriedAgrees queriedAgrees.db.checks.uniqueRuns.identities
      lockedAgrees.db.checks.uniqueRuns.identities
      (by
        intro marks row member unfinished
        rw [shape, markStuckAttempt, if_pos marks]
        exact interrupt_closesChecks member unfinished)
      (by
        intro skips
        rw [shape, markStuckAttempt, skips]
        rfl)
  have operations := closes_stuck_iff
      EnvironmentOperation.phases EnvironmentOperation.requestedAt
      (fun system => system.db.environment) marked.db.environment
      (stillStuck kind locked.db) (stuckDeadline now minutes)
      System.Agrees.extendsEnvironment
      (fun _ _ same => congrArg (fun key => key.2.2) same)
      run queriedAgrees
      queriedAgrees.db.resets.uniqueOperations.identities
      lockedAgrees.db.resets.uniqueOperations.identities
      (by
        intro marks row member unfinished
        rw [shape, markStuckAttempt, if_pos marks]
        exact interrupt_closesOperations member unfinished)
      (by
        intro skips
        rw [shape, markStuckAttempt, skips]
        rfl)
  rw [checks, operations]
  exact ⟨fun young marks => ⟨young.1 marks, young.2 marks⟩,
    fun young => ⟨fun marks => (young marks).1, fun marks => (young marks).2⟩⟩

/-- A start that was requested at time one and is never delivered. -/
def startForgotten : List Action :=
  [.enter 0 (.environmentTask .start (.given 40) true),
    .commit 0 (.clocks 0 1 1)]

/-- The query of a watchdog with ten minutes, eleven minutes later. -/
def watchdogQuery : Action :=
  .enter 9 (.queryStuck .environment 660000000 10)

/-- The attempt whose start was forgotten. -/
def forgotten : System :=
  after System.step? System.firstAttempt startForgotten

/-- The watchdog has found the attempt. -/
def watched : System :=
  after System.step? forgotten [watchdogQuery]

theorem watchdog_closes_stuck_forgotten :
    ∃ marked : System, Run System.step? anything System.firstAttempt
          startForgotten forgotten ∧
        forgotten.step? watchdogQuery = some watched ∧
        watched.step? (.commit 9 (.clock 660000001)) = some marked ∧
        (∃ row, Closes EnvironmentOperation.phases watched.db.environment
            marked.db.environment row) ∧
        ∀ row, Closes EnvironmentOperation.phases watched.db.environment
            marked.db.environment row →
          IsStuckRow EnvironmentOperation.phases
            EnvironmentOperation.requestedAt watched.db.environment
            (stuckDeadline 660000000 10) row := by
  have reached : Run System.step? anything System.firstAttempt
        startForgotten forgotten :=
    run_after (fun _ _ _ => trivial) (by decide)
  have query : forgotten.step? watchdogQuery = some watched :=
    step?_after (by decide)
  have mark : watched.step? (.commit 9 (.clock 660000001)) =
        some (after System.step? watched [.commit 9 (.clock 660000001)]) :=
    step?_after (by decide)
  refine ⟨_, reached, query, mark, ?_, ?_⟩
  · exact ⟨_, List.mem_cons_self, by decide, _, List.mem_cons_self, by decide,
        by decide⟩
  · refine ((watchdog_closes_stuck_iff _ _ _ _ _ (by decide) reached query .nil
        mark).mpr ?_).2
    intro _
    refine ⟨⟨?_, ?_⟩, ?_, ?_⟩
    · rintro row _ _ ⟨early, action, late, _, _, split, _⟩
      simp at split
    · intro row member
      cases member
    · rintro row _ _ ⟨early, action, late, _, _, split, _⟩
      simp at split
    · intro row member _
      rw [List.mem_singleton.mp member]
      decide

/--
After the query the worker starts the forgotten environment, and the trainee
asks for a restart that a worker begins.
-/
def restartedUnderWatchdog : List Action :=
  [.enter 1 (.deliverEnvironment .start 40),
    .commit 1 (.clocks 0 660000001 660000001),
    .commit 1 (.launch boxLaunched 660000002),
    .enter 2 (.environmentTask .reset (.given 50) true),
    .commit 2 (.clocks 0 660000003 660000003),
    .enter 3 (.deliverEnvironment .reset 50),
    .commit 3 (.clocks 0 660000004 660000004)]

/-- The watchdog closes a restart that was requested after its query. -/
theorem restartedUnderWatchdog_closed :
    ∃ locked marked : System, ∃ row : EnvironmentOperation,
      Run System.step? anything System.firstAttempt startForgotten forgotten ∧
        forgotten.step? watchdogQuery = some watched ∧
        Run System.step? anything watched restartedUnderWatchdog locked ∧
        locked.step? (.commit 9 (.clock 660000005)) = some marked ∧
        Closes EnvironmentOperation.phases locked.db.environment
          marked.db.environment row ∧
        (∀ old ∈ watched.db.environment, old.operationId ≠ row.operationId) ∧
        ¬ row.requestedAt < stuckDeadline 660000000 10 :=
  ⟨_, _, _, run_after (fun _ _ _ => trivial) (by decide),
    step?_after (by decide),
    run_after (fun _ _ _ => trivial) (by decide),
    step?_after (by decide),
    ⟨List.mem_cons_of_mem _ List.mem_cons_self, by decide, _,
      List.mem_cons_of_mem _ List.mem_cons_self, by decide, by decide⟩,
    by decide, by decide⟩

/-! ## Between any two moments -/

/-- From any moment of a run to any later one the ledger only grows: a row
stays in its place and keeps its id, its number or kind, the time of its
request, its start, and its finish. -/
theorem reachable_ledger_grows (identity : AttemptIdentity) (task : Task)
    (isStaff : Pk → Bool) (digest : Text → Text → Nat) (foreign : ForeignIds)
    {serial : Pk} (positive : 0 < serial) {history between : List Action}
    {first last : System} (reached : Run System.step? anything (System.created
          (Db.created identity task isStaff digest foreign serial))
        history first)
    (run : Run System.step? anything first between last) :
    Rows.Extends TechnicalCheckExecution.Later first.db.checks last.db.checks ∧
      Rows.Extends EnvironmentOperation.Later first.db.environment
        last.db.environment := by
  obtain ⟨coverage, _, _, initially⟩ :=
    System.Agrees.created identity task isStaff digest foreign positive
  have agrees := initially.run reached
  have checks :=
    Histories.extends_of_run (fun system : System => system.db.checks)
      System.Agrees.extendsChecks run agrees
  have operations :=
    Histories.extends_of_run (fun system : System => system.db.environment)
      System.Agrees.extendsEnvironment run agrees
  exact ⟨checks.2, operations.2⟩

/-- The forgotten start stays while the environment is restarted. -/
theorem reachable_ledger_grows_restarted :
    Rows.Extends TechnicalCheckExecution.Later watched.db.checks
        (after System.step? watched restartedUnderWatchdog).db.checks ∧
      Rows.Extends EnvironmentOperation.Later watched.db.environment
        (after System.step? watched restartedUnderWatchdog).db.environment :=
  reachable_ledger_grows _ _ _ _ _ (by decide)
    (run_after (fun _ _ _ => trivial) (by decide) :
      Run System.step? anything System.firstAttempt
        (startForgotten ++ [watchdogQuery])
        (after System.step? System.firstAttempt
          (startForgotten ++ [watchdogQuery])))
    (run_after (fun _ _ _ => trivial) (by decide) :
      Run System.step? anything watched restartedUnderWatchdog
        (after System.step? watched restartedUnderWatchdog))

end TicketSandbox.Sandbox
