import TicketSandbox.Sandbox.SystemFacts

namespace TicketSandbox.Sandbox

/-!
# At most one open check

Two checks exclude each other through `check_status` alone.  The exclusion
holds as long as nobody resets that status under an open execution, and a
restart that read the attempt before a check was requested can do just that.
-/

open Runs

/-- An open execution is the newest one, and the attempt is running it. -/
structure OneCheck (db : Db) : Prop where
  newest :
    ∀ row ∈ db.checks, row.finished = none → db.checks.getLast? = some row
  running :
    ∀ row ∈ db.checks, row.finished = none → db.attempt.checkStatus = .running

namespace OneCheck

theorem created (identity : AttemptIdentity) (task : Task) (isStaff : Pk → Bool)
    (digest : Text → Text → Nat) (foreign : ForeignIds) (serial : Pk) :
    OneCheck (Db.created identity task isStaff digest foreign serial) where
  newest := by simp [Db.created]
  running := by simp [Db.created]

variable {db next : Db}

theorem allClosed
    (one : OneCheck db) (idle : db.attempt.checkStatus ≠ .running) :
    ∀ row ∈ db.checks, row.finished ≠ none :=
  fun row member unfinished => idle (one.running row member unfinished)

theorem rewrite
    {added : TechnicalCheckExecution → CheckFinished → Prop} (one : OneCheck db)
    (rewritten : Phases.Rewritten TechnicalCheckExecution.phases added db.checks
        next.checks)
    (running : ∀ row ∈ next.checks, row.finished = none →
        next.attempt.checkStatus = .running) :
    OneCheck next := by
  refine ⟨?_, running⟩
  obtain ⟨change, same, later⟩ := rewritten
  intro row member unfinished
  rw [same] at member
  obtain ⟨old, oldMember, rfl⟩ := List.mem_map.mp member
  have wasOpen : old.finished = none :=
    (later old oldMember).unfinished unfinished
  rw [same, List.getLast?_map, one.newest old oldMember wasOpen,
    Option.map_some]

theorem request {id : Uuid} {now : Timestamp}
    (closed : ∀ row ∈ db.checks, row.finished ≠ none) (checks :
      next.checks = db.checks ++ [Ledger.newExecution db .service id now])
    (status : next.attempt.checkStatus = .running) :
    OneCheck next := by
  refine ⟨?_, fun _ _ _ => status⟩
  intro row member unfinished
  rw [checks] at member
  rcases List.mem_append.mp member with old | new
  · exact (closed row old unfinished).elim
  · rw [checks, List.getLast?_concat, List.mem_singleton.mp new]

theorem close {runId : Uuid} {finish : CheckFinished}
    (isOpen : ∀ row ∈ db.checks, row.finished = none → row.runId = runId) :
    ∀ row ∈ Rows.modify TechnicalCheckExecution.runId runId
          (Ledger.closeExecution finish) db.checks,
      row.finished ≠ none := by
  intro row member unfinished
  obtain ⟨old, oldMember, ⟨_, rfl⟩ | ⟨other, rfl⟩⟩ := Rows.mem_modify.mp member
  · simp only [Ledger.closeExecution] at unfinished
    split at unfinished
    · simp at unfinished
    · rename_i closed
      simp [unfinished] at closed
  · exact other (isOpen row oldMember unfinished)

/-- A transaction that resets no running check keeps the exclusion. -/
theorem step {initial : Nat} {transaction : Transaction}
    (recorded : ChecksRecorded initial db) (one : OneCheck db)
    (calm : transaction.resetsCheck db = true → db.openChecks = [])
    (step : CheckStep db transaction next) :
    OneCheck next := by
  have closing (runId : Uuid) (finish : CheckFinished) :
      Phases.Rewritten TechnicalCheckExecution.phases (fun _ _ => True)
        db.checks
        (Rows.modify TechnicalCheckExecution.runId runId
          (Ledger.closeExecution finish) db.checks) :=
    .modify fun _ _ _ => Ledger.closeExecution_later fun _ => trivial
  have same_of_open {row : TechnicalCheckExecution} (member : row ∈ db.checks)
      (unfinished : row.finished = none) :
      ∀ other ∈ db.checks, other.finished = none → other.runId = row.runId := by
    intro other otherMember otherOpen
    have newest := one.newest other otherMember otherOpen
    rw [one.newest row member unfinished] at newest
    rw [Option.some.inj newest]
  cases step with
  | kept _ checks status =>
      refine ⟨?_, ?_⟩
      · rw [checks]
        exact one.newest
      · rw [checks, status]
        exact one.running
  | idled _ checks restart =>
      have closed : ∀ row ∈ next.checks, row.finished = none → False := by
        rw [checks]
        intro row member unfinished
        have isOpen : row ∈ db.openChecks := List.mem_filter.mpr ⟨member, by
              simp [TechnicalCheckExecution.isOpen, unfinished]⟩
        rw [calm restart] at isOpen
        simp at isOpen
      exact ⟨fun row member unfinished => (closed row member unfinished).elim,
          fun row member unfinished => (closed row member unfinished).elim⟩
  | requested id now may _ checks _ _ _ _ status =>
      simp only [Checks.mayStartCheck, Bool.and_eq_true, decide_eq_true_eq]
        at may
      exact request (one.allClosed may.2) checks status
  | touched runId change harmless _ checks status =>
      have rewritten : Phases.Rewritten TechnicalCheckExecution.phases
            (fun _ _ => True) db.checks next.checks := by
        rw [checks]
        exact .modify fun row member same => (harmless row member same).later
      refine one.rewrite rewritten ?_
      intro row member unfinished
      obtain ⟨old, oldMember, later⟩ := rewritten.ofMem member
      rw [status]
      exact one.running old oldMember (later.unfinished unfinished)
  | closed runId finish _ _ _ _ checks status =>
      have rewritten := closing runId finish
      rw [← checks] at rewritten
      refine one.rewrite rewritten ?_
      intro row member unfinished
      obtain ⟨old, oldMember, later⟩ := rewritten.ofMem member
      have wasOpen := later.unfinished unfinished
      have noneOpen (isOpen :
            ∀ other ∈ db.checks, other.finished = none → other.runId = runId) :
          False := by
        rw [checks] at member
        exact close isOpen row member unfinished
      rcases status with
        same | ⟨target, targetMember, rfl, targetOpen⟩ | isLatest
      · rw [same]
        exact one.running old oldMember wasOpen
      · exact (noneOpen (same_of_open targetMember targetOpen)).elim
      · have newest := one.newest old oldMember wasOpen
        rw [Db.latestExecution, recorded.numbered.newest?_eq_getLast?,
          newest] at isLatest
        have sameRun : old.runId = runId := Option.some.inj isLatest
        subst sameRun
        exact (noneOpen (same_of_open oldMember wasOpen)).elim
  | interrupted reason now _ checks =>
      have rewritten : Phases.Rewritten TechnicalCheckExecution.phases
            (fun _ _ => True) db.checks next.checks := by
        rw [checks]
        exact .map fun _ _ => Ledger.closeExecution_later fun _ => trivial
      refine one.rewrite rewritten ?_
      rw [checks]
      intro row member unfinished
      obtain ⟨old, _, rfl⟩ := List.mem_map.mp member
      simp only [Ledger.closeExecution] at unfinished
      split at unfinished
      · simp at unfinished
      · rename_i closed
        simp [unfinished] at closed
  | ran target run finish facts =>
      have rewritten := closing target.runId finish
      rw [← facts.checks] at rewritten
      refine one.rewrite rewritten ?_
      intro row member unfinished
      rw [facts.checks] at member
      exact (close (same_of_open facts.member facts.unfinished) row member
          unfinished).elim

theorem openChecks_length
    {initial : Nat} (recorded : ChecksRecorded initial db) (one : OneCheck db) :
    db.openChecks.length ≤ 1 := by
  have openNewest : ∀ row ∈ db.openChecks, db.checks.getLast? = some row := by
    intro row member
    obtain ⟨inChecks, isOpen⟩ := List.mem_filter.mp member
    refine one.newest row inChecks ?_
    simpa [TechnicalCheckExecution.isOpen] using isOpen
  have distinct : db.openChecks.Nodup :=
    (recorded.uniqueRuns.of_map _).sublist List.filter_sublist
  cases shape : db.openChecks with
  | nil => exact Nat.zero_le _
  | cons first rest =>
      cases rest with
      | nil => exact Nat.le_refl _
      | cons second others =>
          rw [shape] at openNewest distinct
          have firstNewest := openNewest first (by simp)
          have secondNewest := openNewest second (by simp)
          rw [firstNewest] at secondNewest
          simp [Option.some.inj secondNewest] at distinct

end OneCheck

/-- No step resets the check status under an open execution. -/
def ResetsNoOpenCheck (system : System) (action : Action) : Prop :=
  ∀ transaction, system.transaction? action = some transaction →
    transaction.resetsCheck system.db = true →
    system.db.openChecks = []

/--
While no restart resets the check status under an open execution, at most one
execution is open, and a check is requested only when none is.
-/
theorem reachable_oneOpenCheck
    (identity : AttemptIdentity) (task : Task) (isStaff : Pk → Bool)
    (digest : Text → Text → Nat) (foreign : ForeignIds) {serial : Pk}
    (positive : 0 < serial) {actions : List Action} {last : System} (run :
      Run System.step? ResetsNoOpenCheck (System.created
          (Db.created identity task isStaff digest foreign serial))
        actions last) :
    last.db.openChecks.length ≤ 1 ∧
      ∀ action next, last.step? action = some next →
        last.db.checks.length < next.db.checks.length →
        last.db.openChecks = [] := by
  obtain ⟨coverage, _, _, initially⟩ :=
    System.Agrees.created identity task isStaff digest foreign positive
  obtain ⟨agrees, one⟩ := System.Agrees.invariant OneCheck
      (fun system action transaction reply next calm runs agrees _ performed
          one =>
        one.step agrees.checks (calm transaction runs)
          (performed.checkStep agrees.checks.uniqueRuns))
      run initially
      (.created identity task isStaff digest foreign serial)
  refine ⟨one.openChecks_length agrees.db.checks, ?_⟩
  intro action next stepped grows
  rcases agrees.performedOrSame (System.step?_stepped stepped) with
    same | ⟨transaction, reply, _, _, performed⟩
  · rw [same] at grows
    exact (Nat.lt_irrefl _ grows).elim
  · have may := (performed.checkStep agrees.db.checks.uniqueRuns).mayStart grows
    simp only [Checks.mayStartCheck, Bool.and_eq_true, decide_eq_true_eq] at may
    refine List.filter_eq_nil_iff.mpr ?_
    intro row member isOpen
    refine one.allClosed may.2 row member ?_
    simpa [TechnicalCheckExecution.isOpen] using isOpen

/-- The trainee's own start of the environment, up to its container. -/
def environmentStarted : List Action :=
  [.enter 0 (.environmentTask .start (.given 40) true),
    .commit 0 (.clocks 0 1 1),
    .enter 1 (.deliverEnvironment .start 40),
    .commit 1 (.clocks 0 2 2),
    .commit 1 (.launch boxLaunched 3)]

/--
A check that fails, then a restart that resets the check status, and a second
check that is under way.
-/
def restartAfterCheck : List Action :=
  environmentStarted ++ [.call (.tryMarkCheck .absent 7 0 4),
      .enter 2 (.deliverCheck 7),
      .commit 2 (.clock 5),
      .read 2,
      .commit 2 (.outcome (.exited (some 1) "no") 6),
      .enter 3 (.environmentTask .reset (.given 50) true),
      .commit 3 (.clocks 0 7 7),
      .enter 4 (.deliverEnvironment .reset 50),
      .commit 4 (.clocks 0 8 8),
      .commit 4 (.launch boxLaunched 9),
      .call (.tryMarkCheck .absent 8 0 10), .enter 5 (.deliverCheck 8),
      .commit 5 (.clock 11)]

/-- `ResetsNoOpenCheck`, decided. -/
def isCalm (system : System) (action : Action) : Bool :=
  (system.transaction? action).all fun transaction =>
    !transaction.resetsCheck system.db || system.db.openChecks.isEmpty

theorem isCalm_resets
    {system : System} {action : Action} (calm : isCalm system action = true) :
    ResetsNoOpenCheck system action := by
  intro transaction runs resets
  simpa [isCalm, runs, resets] using calm

theorem reachable_oneOpenCheck_restarted :
    ∃ last : System, last.db.checks.length = 2 ∧
        last.db.attempt.restartCount = 1 ∧ last.db.openChecks.length ≤ 1 ∧
        ∀ action next, last.step? action = some next →
          last.db.checks.length < next.db.checks.length →
          last.db.openChecks = [] := by
  refine ⟨after (guarded isCalm System.step?) System.firstAttempt
    restartAfterCheck, by decide, by decide, ?_⟩
  exact reachable_oneOpenCheck _ _ _ _ _ (by decide)
    (run_after_guarded (fun _ _ => isCalm_resets) (by decide))

/--
A restart request reads the idle attempt, a check is requested, and only then
the restart resets the check status; after the restart succeeded, a second
check is requested.
-/
def restartUnderCheck : List Action :=
  environmentStarted ++ [.enter 2 (.environmentTask .reset (.given 50) true),
      .enter 3 (.checkTask
          { clientAnswer := []
            traineeReport := []
            operationId := .given 60 }
          true),
      .commit 3 (.clocks 0 4 4),
      .commit 2 (.clocks 0 5 5),
      .enter 4 (.deliverEnvironment .reset 50),
      .commit 4 (.clocks 0 6 6),
      .commit 4 (.launch boxLaunched 7),
      .enter 5 (.checkTask
          { clientAnswer := []
            traineeReport := []
            operationId := .given 61 }
          true),
      .commit 5 (.clocks 0 8 8)]

/-- Two executions are open after a restart under a running check. -/
theorem restartUnderCheck_twoOpen :
    ∃ last : System, Run System.step? anything System.firstAttempt
          restartUnderCheck last ∧
        last.db.openChecks.length = 2 :=
  ⟨_, run?_get (fun _ _ _ => trivial) (by decide), by decide⟩

end TicketSandbox.Sandbox
