import TicketSandbox.Sandbox.WorkerFacts

namespace TicketSandbox.Sandbox

/-!
# Runs of the whole system

The inversion of `System.step?` and the invariant rule for runs: a property of
the database holds in every reachable state when every transaction that can
commit preserves it.
-/

open Runs

/--
A trainee's first attempt at a reviewed task of the first line, with one staff
account.
-/
def System.firstAttempt : System :=
  System.created (Db.created
      { pk := 1
        userId := 5
        taskId := 3
        attemptNumber := 1 }
      { slug := "nginx-502"
        queueSlug := "l1"
        requiresManualReview := true
        aiReviewContext := true
        checkerFile := none
        observed := false }
      (fun account => account == 9)
      (fun clientAnswer traineeReport =>
        clientAnswer.length + 100 * traineeReport.length)
      { runs := []
        environment := []
        submissions := []
        reviews := [] }
      1)

/-- What one step of the system can do. -/
inductive Stepped (system : System) : Action → System → Prop where
  | entered {thread : Nat} {entry : Entry} : system.threads thread = .idle →
      Stepped system (.enter thread entry)
        (system.setThread thread (entry.enter system.db))
  | read {thread : Nat} {target : Thread} :
      (system.threads thread).read? system.db = some target →
      Stepped system (.read thread) (system.setThread thread target)
  | raised {thread : Nat} : (system.threads thread).runsOutside = true →
      Stepped system (.raise thread)
        (system.setThread thread (system.threads thread).raised)
  | called {transaction : Transaction} {db : Db} {reply : Reply} :
      transaction.isService = true →
      system.db.drawsUnused transaction = true →
      system.db.perform transaction = .ok (db, reply) →
      Stepped system (.call transaction) { system with db := db }
  | callRaised {transaction : Transaction} {failure : Failure} :
      transaction.isService = true →
      system.db.perform transaction = .error failure →
      Stepped system (.call transaction) system
  | committed {thread : Nat} {supply : Supply} {transaction : Transaction}
      {db : Db} {reply : Reply} :
      (system.threads thread).transaction? system.db supply = some transaction →
      system.db.drawsUnused transaction = true →
      system.db.perform transaction = .ok (db, reply) →
      Stepped system (.commit thread supply)
        ({ system with db := db }.setThread thread
          ((system.threads thread).committed db reply))
  | commitRaised {thread : Nat} {supply : Supply} {transaction : Transaction}
      {failure : Failure} :
      (system.threads thread).transaction? system.db supply = some transaction →
      system.db.perform transaction = .error failure →
      Stepped system (.commit thread supply)
        (system.setThread thread (system.threads thread).raised)

variable {thread : Nat} {system next first last : System} {action : Action}
  {permitted : System → Action → Prop} {actions : List Action}

namespace System

/-- The moved thread stands where it was moved to. -/
@[simp] theorem setThread_same
    (system : System) (thread : Nat) (next : Thread) :
    (system.setThread thread next).threads thread = next := by
  simp [setThread]

theorem setThread_other (system : System) {other : Nat} (next : Thread)
    (different : other ≠ thread) :
    (system.setThread thread next).threads other =
      system.threads other := by
  simp [setThread, different]

/-- Moving a thread leaves the database alone. -/
@[simp] theorem setThread_db
    (system : System) (thread : Nat) (next : Thread) :
    (system.setThread thread next).db = system.db :=
  rfl

/-- What a step of the system does. -/
theorem step?_stepped (stepped : system.step? action = some next) :
    Stepped system action next := by
  cases action with
  | call transaction =>
      simp only [step?, transaction?] at stepped
      by_cases service : transaction.isService = true
      · simp only [service, ↓reduceIte] at stepped
        split at stepped
        · rename_i unused
          split at stepped
          · rename_i db reply performed
            cases stepped
            exact .called service unused performed
          · rename_i failure performed
            cases stepped
            exact .callRaised service performed
        · simp at stepped
      · simp [service] at stepped
  | enter thread entry =>
      simp only [step?] at stepped
      split at stepped
      · rename_i idle
        cases stepped
        exact .entered idle
      · simp at stepped
  | read thread =>
      obtain ⟨target, reads, rfl⟩ := Option.map_eq_some_iff.mp stepped
      exact .read reads
  | raise thread =>
      simp only [step?] at stepped
      split at stepped
      · rename_i outside
        cases stepped
        exact .raised outside
      · simp at stepped
  | commit thread supply =>
      simp only [step?, transaction?] at stepped
      split at stepped
      · simp at stepped
      rename_i transaction runs
      split at stepped
      · rename_i unused
        split at stepped
        · rename_i db reply performed
          cases stepped
          exact .committed runs unused performed
        · rename_i failure performed
          cases stepped
          exact .commitRaised runs performed
      · simp at stepped

/-- The database agrees with its ledger, and every thread is grounded. -/
structure Agrees (coverage : AttemptCoverage) (system : System) : Prop where
  db : Sandbox.Agrees coverage system.db
  grounded : ∀ thread, (system.threads thread).Grounded system.db

end System

/-- The thread that an action moves. -/
def Action.thread? : Action → Option Nat
  | .call _ => none
  | .enter thread _ => some thread
  | .read thread => some thread
  | .raise thread => some thread
  | .commit thread _ => some thread

theorem Stepped.threads_of_other (stepped : Stepped system action next)
    (different : action.thread? ≠ some thread) :
    next.threads thread = system.threads thread := by
  have isOther {moved : Nat} (moves : action.thread? = some moved) :
      thread ≠ moved := by
    rintro rfl
    exact different moves
  cases stepped with
  | entered _ => exact System.setThread_other _ _ (isOther rfl)
  | read _ => exact System.setThread_other _ _ (isOther rfl)
  | raised _ => exact System.setThread_other _ _ (isOther rfl)
  | called _ _ _ => rfl
  | callRaised _ _ => rfl
  | committed _ _ _ => exact System.setThread_other _ _ (isOther rfl)
  | commitRaised _ _ => exact System.setThread_other _ _ (isOther rfl)

theorem System.threads_of_run
    (run : Run System.step? permitted first actions last)
    (untouched : ∀ action ∈ actions, action.thread? ≠ some thread) :
    last.threads thread = first.threads thread := by
  induction run with
  | nil => rfl
  | cons _ stepped _ inductionHypothesis =>
      rw [inductionHypothesis fun action member =>
          untouched action (List.mem_cons_of_mem _ member)]
      exact (System.step?_stepped stepped).threads_of_other
        (untouched _ List.mem_cons_self)

theorem Transaction.grounded_of_isService {db : Db} {transaction : Transaction}
    (service : transaction.isService = true) :
    transaction.Grounded db := by
  cases transaction <;> trivial

namespace System.Agrees

variable {coverage : AttemptCoverage}

theorem setThread {next : Thread} (agrees : system.Agrees coverage)
    (grounded : next.Grounded system.db) :
    (system.setThread thread next).Agrees coverage := by
  refine ⟨agrees.db, ?_⟩
  intro other
  by_cases same : other = thread
  · subst same
    rw [setThread_same]
    exact grounded
  · rw [setThread_other system next same]
    exact agrees.grounded other

theorem performed {transaction : Transaction} {db : Db} {reply : Reply}
    (agrees : system.Agrees coverage)
    (performed : Performed system.db transaction db reply) :
    ({ system with db := db } : System).Agrees coverage :=
  ⟨agrees.db.performed performed,
    fun thread => (agrees.grounded thread).later agrees.db performed⟩

theorem performedOrSame
    (agrees : system.Agrees coverage) (stepped : Stepped system action next) :
    next.db = system.db ∨ ∃ transaction reply,
        system.transaction? action = some transaction ∧
          system.db.drawsUnused transaction = true ∧
          Performed system.db transaction next.db reply := by
  cases stepped with
  | entered _ => exact .inl rfl
  | read _ => exact .inl rfl
  | raised _ => exact .inl rfl
  | @called transaction _ reply service unused ok =>
      refine .inr ⟨transaction, reply, ?_, unused, ?_⟩
      · simp [System.transaction?, service]
      · exact agrees.db.perform (Transaction.grounded_of_isService service) ok
  | callRaised _ _ => exact .inl rfl
  | @committed _ _ transaction _ reply runs unused ok =>
      refine .inr ⟨transaction, reply, runs, unused, ?_⟩
      exact agrees.db.perform ((agrees.grounded _).transaction runs) ok
  | commitRaised _ _ => exact .inl rfl

theorem step
    (agrees : system.Agrees coverage) (stepped : Stepped system action next) :
    next.Agrees coverage := by
  cases stepped with
  | entered _ => exact agrees.setThread (.enter system.db _)
  | read reads => exact agrees.setThread ((agrees.grounded _).read reads)
  | raised _ => exact agrees.setThread .raised
  | called service unused ok =>
      exact agrees.performed
        (agrees.db.perform (Transaction.grounded_of_isService service) ok)
  | callRaised _ _ => exact agrees
  | @committed thread _ _ _ _ runs unused ok =>
      have performed := agrees.db.perform
        ((agrees.grounded _).transaction runs) ok
      have after := agrees.performed performed
      exact after.setThread ((after.grounded thread).committed runs performed)
  | commitRaised _ _ => exact agrees.setThread .raised

theorem created (identity : AttemptIdentity) (task : Task) (isStaff : Pk → Bool)
    (digest : Text → Text → Nat) (foreign : ForeignIds) {serial : Pk}
    (positive : 0 < serial) :
    ∃ coverage, coverage.initialChecks = 0 ∧ coverage.initialResets = 0 ∧
        (System.created
          (Db.created identity task isStaff digest foreign serial)).Agrees
            coverage := by
  obtain ⟨coverage, noChecks, noResets, agrees⟩ :=
    Sandbox.Agrees.created identity task isStaff digest foreign positive
  exact ⟨coverage, noChecks, noResets, agrees, fun _ => trivial⟩

theorem run (agrees : first.Agrees coverage)
    (run : Run System.step? permitted first actions last) :
    last.Agrees coverage :=
  run.invariant (fun system => system.Agrees coverage)
    (fun _ _ _ _ stepped before => before.step (System.step?_stepped stepped))
    agrees

theorem invariant (holds : Db → Prop) (preserved :
      ∀ system action transaction reply next, permitted system action →
        system.transaction? action = some transaction →
        Sandbox.Agrees coverage system.db →
        system.db.drawsUnused transaction = true →
        Performed system.db transaction next reply →
        holds system.db →
        holds next)
    (run : Run System.step? permitted first actions last)
    (agrees : first.Agrees coverage) (initially : holds first.db) :
    last.Agrees coverage ∧ holds last.db := by
  refine run.invariant (fun system => system.Agrees coverage ∧ holds system.db)
    ?_ ⟨agrees, initially⟩
  rintro system action next isPermitted stepped ⟨before, held⟩
  have moves := System.step?_stepped stepped
  refine ⟨before.step moves, ?_⟩
  rcases before.performedOrSame moves with
    same | ⟨transaction, reply, runs, unused, performed⟩
  · rw [same]
    exact held
  · exact preserved system action transaction reply next.db isPermitted runs
      before.db unused performed held

end System.Agrees

end TicketSandbox.Sandbox

namespace TicketSandbox.Sandbox

/-!
# The ledger over whole runs

Whatever requests, workers and the watchdog do to an attempt that was created
under the ledger, its evidence never reports a disagreement between the ledger
and the attempt.
-/

open Runs

/--
In every state that a fresh attempt can reach, the evidence reports no
disagreement, and both counters count what the ledger records.
-/
theorem reachable_no_disagreement
    (identity : AttemptIdentity) (task : Task) (isStaff : Pk → Bool)
    (digest : Text → Text → Nat) (foreign : ForeignIds) {serial : Pk}
    (positive : 0 < serial) {actions : List Action} {last : System} (run :
      Run System.step? anything (System.created
          (Db.created identity task isStaff digest foreign serial))
        actions last) :
    (∀ reason ∈ LedgerEvidence.disagreements,
        reason.text ∉ (LedgerEvidence.attemptEvidence last.db).reasons) ∧
      last.db.attempt.attemptsCount =
        TaskAttempt.created.attemptsCount + last.db.checks.length ∧
      last.db.attempt.restartCount = TaskAttempt.created.restartCount +
          (LedgerEvidence.successfulResets last.db).length := by
  obtain ⟨coverage, noChecks, noResets, initially⟩ :=
    System.Agrees.created identity task isStaff digest foreign positive
  have agrees := (initially.run run).db
  refine ⟨?_, ?_, ?_⟩
  · intro reason member
    rw [LedgerEvidence.mem_attemptEvidence_reasons]
    exact LedgerEvidence.no_disagreement agrees reason member
  · rw [agrees.checks.counted, noChecks]
    rfl
  · rw [agrees.resets.counted, noResets, List.countP_eq_length_filter]
    rfl

/-- A container with its terminal. -/
def boxLaunched : Environments.Launch where
  containerId := "id"
  containerName := "box"
  terminalContainerName := "tty"
  terminalPort := some 7681
  terminalUrl := "/terminal"

/-- A check that fails once, delivered twice. -/
def checkDeliveredTwice : List Action :=
  [.call (.tryMarkCheck .absent 7 0 0), .enter 0 (.deliverCheck 7),
    .enter 1 (.deliverCheck 7),
    .commit 1 (.clock 1),
    .commit 0 (.clock 2),
    .read 1,
    .commit 1 (.outcome (.exited (some 1) "no") 3)]

theorem reachable_no_disagreement_checkDeliveredTwice :
    ∃ last : System, last.db.checks.length = 1 ∧
        (∀ reason ∈ LedgerEvidence.disagreements,
          reason.text ∉ (LedgerEvidence.attemptEvidence last.db).reasons) ∧
        last.db.attempt.attemptsCount =
          TaskAttempt.created.attemptsCount + last.db.checks.length ∧
        last.db.attempt.restartCount = TaskAttempt.created.restartCount +
            (LedgerEvidence.successfulResets last.db).length := by
  refine ⟨(run? System.step? System.firstAttempt checkDeliveredTwice).get
        (by decide), by decide, ?_⟩
  exact reachable_no_disagreement _ _ _ _ _ (by decide)
    (run?_get (fun _ _ _ => trivial) (by decide))

end TicketSandbox.Sandbox
