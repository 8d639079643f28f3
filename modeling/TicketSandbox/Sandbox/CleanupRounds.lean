import TicketSandbox.Sandbox.ContainerCleanups
import TicketSandbox.Sandbox.WatchdogRuns

namespace TicketSandbox.Sandbox.CleanupTaskContainers

/-!
# What a round of the cleanup clears

The command tests the age of an attempt in its query and nowhere else.  What
its first transaction closes and its last one clears is what the query saw as
long as no other environment came into the row in between.
-/

open Runs

namespace Workspace

/-- The database of the attempt. -/
def db (workspace : Workspace) : Db :=
  workspace.system.db

/--
The step is inside a round, and it neither opens an environment nor puts the
columns of an older one back.
-/
def Spares (workspace : Workspace) : Step → Prop
  | .other action =>
      ∀ transaction, workspace.system.transaction? action = some transaction →
        opensEnvironment workspace.cleanups workspace.db transaction = false
  | .remove => True
  | .raise => True
  | .refresh => True
  | _ => False

variable {workspace next : Workspace}

theorem run?_spared {transaction : Transaction} {thread? : Option Nat} (idle :
      opensEnvironment workspace.cleanups workspace.db transaction = false)
    (stepped : workspace.run? transaction thread? = some next) :
    Spared workspace.db next.db := by
  simp only [run?] at stepped
  split at stepped
  · split at stepped
    · rename_i performed
      simp only [Option.some.injEq] at stepped
      have kept := perform_spared idle performed
      subst stepped
      cases thread? <;> exact kept
    · simp only [Option.some.injEq] at stepped
      subst stepped
      cases thread? <;> exact .ofSame rfl rfl
  · simp at stepped

theorem read?_db {thread : Nat} {system : System}
    (stepped : workspace.read? thread = some system) :
    system.db = workspace.db := by
  have reads (stepped : workspace.system.step? (.read thread) = some system) :
      system.db = workspace.db := by
    obtain ⟨_, _, rfl⟩ := Option.map_eq_some_iff.mp stepped
    rfl
  simp only [read?] at stepped
  split at stepped
  · split at stepped
    · cases stepped
      rfl
    · exact reads stepped
  · exact reads stepped

theorem other?_spared
    {action : Action} (spares : workspace.Spares (.other action))
    (stepped : workspace.other? action = some next) :
    Spared workspace.db next.db := by
  cases action with
  | call transaction =>
      simp only [other?] at stepped
      split at stepped
      · simp at stepped
      · rename_i runs
        exact run?_spared (spares _ runs) stepped
  | enter thread entry =>
      obtain ⟨system, enters, rfl⟩ := Option.map_eq_some_iff.mp stepped
      simp only [System.step?] at enters
      split at enters
      · cases enters
        exact .ofSame rfl rfl
      · simp at enters
  | read thread =>
      obtain ⟨system, reads, rfl⟩ := Option.map_eq_some_iff.mp stepped
      have same := read?_db reads
      exact .ofSame (congrArg Db.attempt same) (congrArg Db.environment same)
  | raise thread =>
      obtain ⟨system, raises, rfl⟩ := Option.map_eq_some_iff.mp stepped
      simp only [System.step?] at raises
      split at raises
      · cases raises
        exact .ofSame rfl rfl
      · simp at raises
  | commit thread supply =>
      simp only [other?] at stepped
      split at stepped
      · simp at stepped
      · rename_i runs
        exact run?_spared (spares _ runs) stepped

theorem step?_spared {step : Step} (spares : workspace.Spares step)
    (stepped : workspace.step? step = some next) :
    Spared workspace.db next.db := by
  cases step with
  | other action => exact other?_spared spares stepped
  | query loop now => exact spares.elim
  | lock generated now => exact spares.elim
  | remove =>
      simp only [step?, remove?] at stepped
      split at stepped
      · cases stepped
        exact .ofSame rfl rfl
      · cases stepped
        exact .ofSame rfl rfl
      · simp at stepped
  | raise =>
      simp only [step?, raise?] at stepped
      split at stepped
      · cases stepped
        exact .ofSame rfl rfl
      · cases stepped
        exact .ofSame rfl rfl
      · simp at stepped
  | refresh =>
      simp only [step?, refresh?] at stepped
      split at stepped
      · cases stepped
        exact .ofSame rfl rfl
      · simp at stepped
  | save now => exact spares.elim

theorem run_spared {first last : Workspace} {steps : List Step}
    (run : Run Workspace.step? Spares first steps last) :
    Spared first.db last.db :=
  run.invariant (fun workspace => Spared first.db workspace.db)
    (fun _ _ _ spares stepped kept => kept.trans (step?_spared spares stepped))
    (.ofSame rfl rfl)

end Workspace

variable {now : Timestamp}

theorem query_found {before queried : Workspace} {loop : CleanupLoop}
    (query : before.step? (.query loop now) = some queried) :
    isExpired loop before.db (expiredTime now) = true ∧
      queried.db = before.db := by
  simp only [Workspace.step?] at query
  split at query
  · split at query
    · rename_i expired
      cases query
      exact ⟨expired, rfl⟩
    · simp at query
  · simp at query

theorem lock_spared {locked marked : Workspace} {generated : Uuid}
    (lock : locked.step? (.lock generated now) = some marked) :
    Spared locked.db marked.db := by
  simp only [Workspace.step?, Workspace.lock?] at lock
  split at lock
  · split at lock
    · cases lock
      have observed :=
        Untouched.observe (Ledger.interrupt locked.db .maintenanceCleanup now)
          locked.db.attempt
      have closed := (interrupt_spared locked.db .maintenanceCleanup now).trans
          observed.spared
      exact ⟨closed.environment, closed.operations⟩
    · simp at lock
  · simp at lock

theorem save_clears
    {final saved : Workspace} (save : final.step? (.save now) = some saved) :
    saved.db.environment = final.db.environment ∧
      saved.db.attempt.environmentStatus = .idle ∧
      saved.db.attempt.containerName = "" ∧
      saved.db.attempt.terminalContainerName = "" := by
  simp only [Workspace.step?, Workspace.save?] at save
  split at save
  · rename_i loop _ _ _ _
    cases save
    cases loop <;> exact ⟨rfl, rfl, rfl, rfl⟩
  · simp at save

theorem started_of_unfinished {db : Db} {expired : Timestamp}
    (found : isExpired .unfinished db expired = true) :
    DetectStuckAttempts.isBefore db.attempt.startedAt expired = true := by
  simp only [isExpired, isUnfinished, Bool.and_eq_true] at found
  exact found.1.2

/--
In a round during which no other environment comes into the row, the lock
closes only operations that the query saw open and as far as they were then,
and the save clears the environment that the query saw, started before the
limit, and closes no operation.
-/
theorem cleanup_spares {before queried locked marked final saved : Workspace}
    {loop : CleanupLoop} {now lockedAt savedAt : Timestamp} {generated : Uuid}
    {early late : List Step}
    (query : before.step? (.query loop now) = some queried)
    (aged : loop = .passed →
      DetectStuckAttempts.isBefore before.db.attempt.startedAt
        (expiredTime now) = true)
    (earlyRun : Run Workspace.step? Workspace.Spares queried early locked)
    (lock : locked.step? (.lock generated lockedAt) = some marked)
    (lateRun : Run Workspace.step? Workspace.Spares marked late final)
    (save : final.step? (.save savedAt) = some saved) :
    (∀ row, Closes EnvironmentOperation.phases locked.db.environment
          marked.db.environment row →
        ∃ prior ∈ before.db.environment, SameRequest prior row) ∧
      SameEnvironment before.db.attempt final.db.attempt ∧
      DetectStuckAttempts.isBefore final.db.attempt.startedAt
        (expiredTime now) = true ∧
      saved.db.environment = final.db.environment := by
  obtain ⟨found, same⟩ := query_found query
  have untilLock := Workspace.run_spared earlyRun
  rw [same] at untilLock
  have untilSave :=
    (untilLock.trans (lock_spared lock)).trans (Workspace.run_spared lateRun)
  refine ⟨?_, untilSave.environment, ?_, (save_clears save).1⟩
  · rintro row ⟨member, unfinished, _⟩
    exact untilLock.operations row member unfinished
  · rw [untilSave.environment.startedAt]
    cases loop with
    | unfinished => exact started_of_unfinished found
    | passed => exact aged rfl

/-- The steps beside the command. -/
def others (actions : List Action) : List Step :=
  actions.map Step.other

/-- The containers of the first start. -/
def firstLaunch : Environments.Launch where
  containerId := "id"
  containerName := "box"
  terminalContainerName := "tty"
  terminalPort := some 7681
  terminalUrl := "/terminal"

/-- The containers of a restart, under the same names. -/
def secondLaunch : Environments.Launch :=
  { firstLaunch with containerId := "new id" }

/-- A trainee starts the environment at time one and leaves it. -/
def abandoned : List Step :=
  others [.enter 0 (.environmentTask .start (.given 40) true),
      .commit 0 (.clocks 0 1 1),
      .enter 1 (.deliverEnvironment .start 40),
      .commit 1 (.clocks 0 2 2),
      .commit 1 (.launch firstLaunch 3)]

/-- The first attempt, before any cleanup. -/
def firstWorkspace : Workspace :=
  .created .firstAttempt

/-- The query of the command, three days and a second later. -/
def abandonedQuery : Step :=
  .query .unfinished 259201000000

/-- The attempt with an old environment. -/
def left : Workspace :=
  after Workspace.step? firstWorkspace abandoned

/-- The command has found the attempt. -/
def expired : Workspace :=
  after Workspace.step? left [abandonedQuery]

/-- The first transaction of the round. -/
def abandonedLock : Step :=
  .lock 60 259201000001

/-- The old environment is locked. -/
def interrupted : Workspace :=
  after Workspace.step? expired [abandonedLock]

/-- The removals and the refresh of a round. -/
def removals : List Step :=
  [.remove, .remove, .refresh]

/-- The containers are removed and the copy is refreshed. -/
def emptied : Workspace :=
  after Workspace.step? interrupted removals

/-- The sparing steps of the round, for runs on concrete inputs. -/
private theorem removals_spare :
    Run Workspace.step? Workspace.Spares interrupted removals
      emptied := by
  have first : interrupted.step? .remove = some _ := step?_after (by decide)
  have second : (after Workspace.step? interrupted [.remove]).step? .remove =
        some _ :=
    step?_after (by decide)
  have third : (after Workspace.step?
          (after Workspace.step? interrupted [.remove])
          [.remove]).step? .refresh =
        some _ :=
    step?_after (by decide)
  exact .cons trivial first (.cons trivial second (.cons trivial third .nil))

theorem cleanup_spares_abandoned :
    ∃ saved : Workspace,
      Run Workspace.step? anything firstWorkspace abandoned left ∧
        left.step? abandonedQuery = some expired ∧
        expired.step? abandonedLock = some interrupted ∧
        Run Workspace.step? Workspace.Spares interrupted removals emptied ∧
        emptied.step? (.save 259201000002) = some saved ∧
        left.db.attempt.containerName = "box" ∧
        saved.db.attempt.containerName = "" ∧
        SameEnvironment left.db.attempt emptied.db.attempt := by
  have query : left.step? abandonedQuery = some expired :=
    step?_after (by decide)
  have lock : expired.step? abandonedLock = some interrupted :=
    step?_after (by decide)
  have save : emptied.step? (.save 259201000002) =
        some (after Workspace.step? emptied [.save 259201000002]) :=
    step?_after (by decide)
  refine ⟨_, run_after (fun _ _ _ => trivial) (by decide), query, lock,
      removals_spare, save, by decide, by decide, ?_⟩
  exact (cleanup_spares query (by simp) .nil lock removals_spare save).2.1

/--
After the query the trainee restarts the environment, and then asks for
another restart that a worker begins.
-/
def restartedAfterQuery : List Step :=
  others [.enter 2 (.environmentTask .reset (.given 50) true),
      .commit 2 (.clocks 0 259201000001 259201000001),
      .enter 3 (.deliverEnvironment .reset 50),
      .commit 3 (.clocks 0 259201000002 259201000002),
      .commit 3 (.launch secondLaunch 259201000003),
      .enter 4 (.environmentTask .reset (.given 51) true),
      .commit 4 (.clocks 0 259201000004 259201000004),
      .enter 5 (.deliverEnvironment .reset 51),
      .commit 5 (.clocks 0 259201000005 259201000005)]

/--
The command closes a restart that was requested after its query, and clears
the containers of another one that was started within the limit.
-/
theorem restartedAfterQuery_cleared :
    ∃ locked marked final saved : Workspace, ∃ closed : EnvironmentOperation,
      Run Workspace.step? anything firstWorkspace abandoned left ∧
        left.step? abandonedQuery = some expired ∧
        Run Workspace.step? anything expired restartedAfterQuery locked ∧
        locked.step? (.lock 60 259201000006) = some marked ∧
        Run Workspace.step? anything marked removals final ∧
        final.step? (.save 259201000007) = some saved ∧
        Closes EnvironmentOperation.phases locked.db.environment
          marked.db.environment closed ∧
        (∀ prior ∈ left.db.environment,
          prior.operationId ≠ closed.operationId) ∧
        final.db.attempt.containerId = "new id" ∧
        final.db.attempt.environmentStatus = .restarting ∧
        DetectStuckAttempts.isBefore final.db.attempt.startedAt
          (expiredTime 259201000000) = false ∧
        saved.db.attempt.containerId = "" ∧
        saved.db.attempt.environmentStatus = .idle ∧
        saved.db.attempt.status = .new :=
  ⟨_, _, _, _, _, run_after (fun _ _ _ => trivial) (by decide),
    step?_after (by decide),
    run_after (fun _ _ _ => trivial) (by decide),
    step?_after (by decide),
    run_after (fun _ _ _ => trivial) (by decide),
    step?_after (by decide),
    ⟨List.mem_cons_of_mem _ (List.mem_cons_of_mem _ List.mem_cons_self),
      by decide, _,
      List.mem_cons_of_mem _ (List.mem_cons_of_mem _ List.mem_cons_self),
      by decide, by decide⟩,
    by decide, by decide, by decide, by decide, by decide, by decide,
    by decide⟩

end TicketSandbox.Sandbox.CleanupTaskContainers
