import TicketSandbox.Library.Phases
import TicketSandbox.Sandbox.CheckSteps

namespace TicketSandbox.Sandbox

/-!
# The check ledger agrees with the attempt

The invariant that ties the mutable check columns and the recorded runs of an
attempt to its append-only executions, and its preservation by every
transaction.
-/

/-- The execution is finished by the given event. -/
def TechnicalCheckExecution.FinishedBy
    (row : TechnicalCheckExecution) (finish : CheckFinished) : Prop :=
  row.finished = some finish

/-- A run carries the exit code and result of the event that names it. -/
structure RunMatches (finish : CheckFinished) (run : CheckRun) : Prop where
  exitCode : finish.exitCode = some run.exitCode
  result : run.result = if finish.result = .passed then .passed else .failed

/--
The executions account for the check counter, the recorded runs and the
technical pass of the attempt; `initial` is the counter at its creation.
-/
structure ChecksRecorded (initial : Nat) (db : Db) : Prop where
  uniqueRuns : db.UniqueRuns
  numbered : Rows.Numbered TechnicalCheckExecution.ordinal db.checks
  counted : db.attempt.attemptsCount = initial + db.checks.length
  started : ∀ row ∈ db.checks, ∀ finish, row.FinishedBy finish →
      finish.checkerStarted = some true →
      row.started.isSome = true
  runNamed : ∀ run ∈ db.checkRuns, ∃ row ∈ db.checks, ∃ finish,
      row.FinishedBy finish ∧ finish.checkRunId = some run.pk
  runMatches : ∀ row ∈ db.checks, ∀ finish, row.FinishedBy finish →
      ∀ pk, finish.checkRunId = some pk →
      ∃ run ∈ db.checkRuns, run.pk = pk ∧ RunMatches finish run
  uniqueRunPks : (db.checkRuns.map CheckRun.pk).Nodup
  runPks : ∀ run ∈ db.checkRuns, 0 < run.pk ∧ run.pk < db.serial
  serial : 0 < db.serial
  passed : db.attempt.technicalPassedAt.isSome = true →
    ∃ row ∈ db.checks, ∃ finish, row.FinishedBy finish ∧ finish.result = .passed

/-- The identity, start and finish of an execution. -/
def TechnicalCheckExecution.phases :
    Phases.View TechnicalCheckExecution (Uuid × Nat × Timestamp) Timestamp
      CheckFinished where
  identity := fun row => (row.runId, row.ordinal, row.requestedAt)
  started := TechnicalCheckExecution.started
  finish := TechnicalCheckExecution.finished

variable {added : TechnicalCheckExecution → CheckFinished → Prop}
  {old new : List TechnicalCheckExecution} {row : TechnicalCheckExecution}
  {db next : Db} {transaction : Transaction}

theorem TechnicalCheckExecution.sameRunIds (rewritten :
      Phases.Rewritten TechnicalCheckExecution.phases added old new) :
    new.map TechnicalCheckExecution.runId =
      old.map TechnicalCheckExecution.runId :=
  rewritten.map_eq fun _ _ same => congrArg (fun key => key.1) same

theorem TechnicalCheckExecution.staysNumbered
    (rewritten : Phases.Rewritten TechnicalCheckExecution.phases added old new)
    (numbered : Rows.Numbered TechnicalCheckExecution.ordinal old) :
    Rows.Numbered TechnicalCheckExecution.ordinal new := by
  have sameOrdinals : new.map TechnicalCheckExecution.ordinal =
        old.map TechnicalCheckExecution.ordinal :=
    rewritten.map_eq fun _ _ same => congrArg (fun key => key.2.1) same
  rw [Rows.Numbered, sameOrdinals, rewritten.length_eq]
  exact numbered

theorem Touched.later
    {old new : TechnicalCheckExecution} (touched : Touched old new) :
    Phases.Later TechnicalCheckExecution.phases added old new := by
  refine ⟨?_, touched.started, .inl touched.finished⟩
  simp [TechnicalCheckExecution.phases, touched.runId, touched.ordinal,
    touched.requestedAt]

/-- Closing an execution keeps what it has. -/
theorem Ledger.closeExecution_later
    {finish : CheckFinished} (known : row.finished = none → added row finish) :
    Phases.Later TechnicalCheckExecution.phases added row
      (closeExecution finish row) := by
  cases closed : row.finished with
  | none =>
      simp only [closeExecution, closed, Option.isNone_none, ↓reduceIte]
      exact ⟨rfl, fun _ => id, .inr ⟨closed, finish, rfl, known closed⟩⟩
  | some event =>
      simp only [closeExecution, closed, Option.isNone_some,
        Bool.false_eq_true, ↓reduceIte]
      exact .refl row

/-- A closing event that names no run and claims no start it has not seen. -/
structure Quiet
    (row : TechnicalCheckExecution) (finish : CheckFinished) : Prop where
  withoutRun : finish.checkRunId = none
  honest : finish.checkerStarted = some true → row.started.isSome = true

/-- A step requests, runs or rewrites executions. -/
theorem CheckStep.shape (step : CheckStep db transaction next) :
    (∃ id now,
        Checks.mayStartCheck db = true ∧ Ledger.runIdTaken db id = false ∧
          next.checks = db.checks ++ [Ledger.newExecution db .service id now] ∧
          next.checkRuns = db.checkRuns ∧
          next.attempt.attemptsCount = db.attempt.attemptsCount + 1 ∧
          next.attempt.technicalPassedAt = db.attempt.technicalPassedAt ∧
          next.serial = db.serial) ∨
      (∃ row run finish, Ran db next row run finish) ∨
      (SameCheckFacts db next ∧
        Phases.Rewritten TechnicalCheckExecution.phases Quiet db.checks
          next.checks) := by
  cases step with
  | kept same checks _ => exact .inr (.inr ⟨same, checks ▸ .refl _⟩)
  | idled same checks _ => exact .inr (.inr ⟨same, checks ▸ .refl _⟩)
  | requested id now may free checks runs count passedAt serial _ =>
      exact .inl ⟨id, now, may, free, checks, runs, count, passedAt, serial⟩
  | touched runId change harmless same checks _ =>
      exact .inr (.inr ⟨same, checks ▸ .modify fun row member same =>
        (harmless row member same).later⟩)
  | closed runId finish withoutRun _ honest same checks _ =>
      exact .inr (.inr ⟨same, checks ▸ .modify fun row member sameRun =>
        Ledger.closeExecution_later fun _ =>
          ⟨withoutRun, fun claims => honest claims row member sameRun⟩⟩)
  | interrupted reason now same checks =>
      exact .inr (.inr ⟨same, checks ▸ .map fun row _ =>
        Ledger.closeExecution_later fun _ =>
          ⟨rfl, by simp [Ledger.unknownFinish]⟩⟩)
  | ran row run finish facts => exact .inr (.inl ⟨row, run, finish, facts⟩)

theorem CheckStep.mayStart (step : CheckStep db transaction next)
    (grows : db.checks.length < next.checks.length) :
    Checks.mayStartCheck db = true := by
  rcases step.shape with
    ⟨_, _, may, _⟩ | ⟨_, _, _, facts⟩ | ⟨_, rewritten⟩
  · exact may
  · rw [facts.checks, Rows.length_modify] at grows
    exact (Nat.lt_irrefl _ grows).elim
  · rw [rewritten.length_eq] at grows
    exact (Nat.lt_irrefl _ grows).elim

theorem CheckStep.technicalPassed (step : CheckStep db transaction next)
    (passed : db.technicalPassed = true) :
    next.technicalPassed = true := by
  simp only [Db.technicalPassed, Sandbox.technicalPassed, Bool.or_eq_true]
    at passed ⊢
  rcases step.shape with
    ⟨_, _, _, _, _, runs, _, passedAt, _⟩ | ⟨_, run, _, facts⟩ | ⟨same, _⟩
  · rw [runs, passedAt]
    exact passed
  · rcases passed with stamped | ran
    · refine .inl ?_
      rcases facts.passedAt with ⟨_, isStamped⟩ | same
      · exact isStamped
      · rw [same]
        exact stamped
    · refine .inr ?_
      rw [facts.runs, List.any_append, ran, Bool.true_or]
  · rw [same.runs, same.passedAt]
    exact passed

namespace ChecksRecorded

theorem created (identity : AttemptIdentity) (task : Task) (isStaff : Pk → Bool)
    (digest : Text → Text → Nat) (foreign : ForeignIds) {serial : Pk}
    (positive : 0 < serial) :
    ChecksRecorded 0
      (Db.created identity task isStaff digest foreign serial) where
  uniqueRuns := List.nodup_nil
  numbered := Rows.Numbered.nil _
  counted := rfl
  started := by simp [Db.created]
  runNamed := by simp [Db.created]
  runMatches := by simp [Db.created]
  uniqueRunPks := List.nodup_nil
  runPks := by simp [Db.created]
  serial := positive
  passed := by simp [Db.created, TaskAttempt.created]

variable {initial : Nat}

theorem request
    {id : Uuid} {now : Timestamp} (recorded : ChecksRecorded initial db)
    (free : Ledger.runIdTaken db id = false) (checks :
      next.checks = db.checks ++ [Ledger.newExecution db .service id now])
    (runs : next.checkRuns = db.checkRuns)
    (count : next.attempt.attemptsCount = db.attempt.attemptsCount + 1)
    (passedAt : next.attempt.technicalPassedAt = db.attempt.technicalPassedAt)
    (serial : next.serial = db.serial) :
    ChecksRecorded initial next where
  uniqueRuns := by
    rw [Db.UniqueRuns, checks]
    exact Rows.nodup_append_new recorded.uniqueRuns
      fun row member => Ledger.runId_ne_of_free free member
  numbered := by
    rw [checks]
    exact recorded.numbered.append rfl
  counted := by
    rw [count, recorded.counted, checks, List.length_append,
      List.length_singleton, Nat.add_assoc]
  started := by
    intro row member finish finished
    rw [checks] at member
    rcases List.mem_append.mp member with old | new
    · exact recorded.started row old finish finished
    · rw [List.mem_singleton.mp new] at finished
      simp [TechnicalCheckExecution.FinishedBy, Ledger.newExecution] at finished
  runNamed := by
    intro run member
    rw [runs] at member
    obtain ⟨row, rowMember, found⟩ := recorded.runNamed run member
    exact ⟨row, by simp [checks, rowMember], found⟩
  runMatches := by
    intro row member finish finished
    rw [checks] at member
    rw [runs]
    rcases List.mem_append.mp member with old | new
    · exact recorded.runMatches row old finish finished
    · rw [List.mem_singleton.mp new] at finished
      simp [TechnicalCheckExecution.FinishedBy, Ledger.newExecution] at finished
  uniqueRunPks := by
    rw [runs]
    exact recorded.uniqueRunPks
  runPks := by
    rw [runs, serial]
    exact recorded.runPks
  serial := by
    rw [serial]
    exact recorded.serial
  passed := by
    rw [passedAt]
    intro isPassed
    obtain ⟨row, member, found⟩ := recorded.passed isPassed
    exact ⟨row, by simp [checks, member], found⟩

theorem rewrite
    (recorded : ChecksRecorded initial db) (same : SameCheckFacts db next)
    (rewritten : Phases.Rewritten TechnicalCheckExecution.phases Quiet db.checks
        next.checks) :
    ChecksRecorded initial next where
  uniqueRuns := by
    rw [Db.UniqueRuns, TechnicalCheckExecution.sameRunIds rewritten]
    exact recorded.uniqueRuns
  numbered := TechnicalCheckExecution.staysNumbered rewritten recorded.numbered
  counted := by
    rw [same.count, rewritten.length_eq]
    exact recorded.counted
  started := by
    intro row member finish finished claims
    obtain ⟨old, oldMember, later⟩ := rewritten.ofMem member
    rcases later.finishCases finished with before | ⟨_, quiet⟩
    · exact later.isStarted
        (recorded.started old oldMember finish before claims)
    · exact later.isStarted (quiet.honest claims)
  runNamed := by
    intro run member
    rw [same.runs] at member
    obtain ⟨row, rowMember, finish, finished, names⟩ :=
      recorded.runNamed run member
    obtain ⟨version, versionMember, later⟩ := rewritten.mem rowMember
    exact ⟨version, versionMember, finish, later.keepsFinish finished, names⟩
  runMatches := by
    intro row member finish finished pk names
    rw [same.runs]
    obtain ⟨old, oldMember, later⟩ := rewritten.ofMem member
    rcases later.finishCases finished with before | ⟨_, quiet⟩
    · exact recorded.runMatches old oldMember finish before pk names
    · rw [quiet.withoutRun] at names
      simp at names
  uniqueRunPks := by
    rw [same.runs]
    exact recorded.uniqueRunPks
  runPks := by
    rw [same.runs]
    intro run member
    obtain ⟨positive, below⟩ := recorded.runPks run member
    exact ⟨positive, Nat.lt_of_lt_of_le below same.serial⟩
  serial := Nat.lt_of_lt_of_le recorded.serial same.serial
  passed := by
    rw [same.passedAt]
    intro isPassed
    obtain ⟨row, member, finish, finished, result⟩ := recorded.passed isPassed
    obtain ⟨version, versionMember, later⟩ := rewritten.mem member
    exact ⟨version, versionMember, finish, later.keepsFinish finished, result⟩

/-- A finished run keeps the executions recorded. -/
theorem ran {run : CheckRun} {finish : CheckFinished}
    (recorded : ChecksRecorded initial db)
    (facts : Ran db next row run finish) :
    ChecksRecorded initial next := by
  have rewritten : Phases.Rewritten TechnicalCheckExecution.phases
        (fun old event => old = row ∧ event = finish) db.checks
        next.checks := by
    rw [facts.checks]
    refine .modify fun old member sameRun =>
      Ledger.closeExecution_later fun _ => ⟨?_, rfl⟩
    exact Rows.eq_of_key recorded.uniqueRuns member facts.member sameRun
  have finishedRow : (Ledger.closeExecution finish row).FinishedBy finish := by
    simp [Ledger.closeExecution, facts.unfinished,
      TechnicalCheckExecution.FinishedBy]
  have rowMember : Ledger.closeExecution finish row ∈ next.checks := by
    rw [facts.checks, Rows.mem_modify]
    exact ⟨row, facts.member, .inl ⟨rfl, rfl⟩⟩
  have keepsMember {old : TechnicalCheckExecution} {event : CheckFinished}
      (member : old ∈ db.checks) (finished : old.FinishedBy event) :
      ∃ new ∈ next.checks, new.FinishedBy event := by
    obtain ⟨version, versionMember, later⟩ := rewritten.mem member
    exact ⟨version, versionMember, later.keepsFinish finished⟩
  have newPk : ∀ old ∈ db.checkRuns, old.pk ≠ run.pk := by
    intro old member
    have below := (recorded.runPks old member).2
    rw [facts.runPk]
    exact Nat.ne_of_lt below
  exact
    { uniqueRuns := by
        rw [Db.UniqueRuns, TechnicalCheckExecution.sameRunIds rewritten]
        exact recorded.uniqueRuns
      numbered :=
        TechnicalCheckExecution.staysNumbered rewritten recorded.numbered
      counted := by
        rw [facts.count, rewritten.length_eq]
        exact recorded.counted
      started := by
        intro new member event finished claims
        obtain ⟨old, oldMember, later⟩ := rewritten.ofMem member
        rcases later.finishCases finished with before | ⟨_, rfl, rfl⟩
        · exact later.isStarted
            (recorded.started old oldMember event before claims)
        · exact later.isStarted facts.started
      runNamed := by
        intro named member
        rw [facts.runs] at member
        rcases List.mem_append.mp member with old | new
        · obtain ⟨row, rowMember, event, finished, names⟩ :=
            recorded.runNamed named old
          obtain ⟨later, laterMember, laterFinished⟩ :=
            keepsMember rowMember finished
          exact ⟨later, laterMember, event, laterFinished, names⟩
        · rw [List.mem_singleton.mp new]
          exact ⟨_, rowMember, finish, finishedRow, facts.recorded⟩
      runMatches := by
        intro new member event finished pk names
        rw [facts.runs]
        obtain ⟨old, oldMember, later⟩ := rewritten.ofMem member
        rcases later.finishCases finished with before | ⟨_, _, rfl⟩
        · obtain ⟨found, foundMember, found_pk, agrees⟩ :=
            recorded.runMatches old oldMember event before pk names
          exact ⟨found, List.mem_append_left _ foundMember, found_pk, agrees⟩
        · refine ⟨run, by simp, ?_, facts.exitCode, facts.result⟩
          rw [facts.recorded] at names
          exact Option.some.inj names
      uniqueRunPks := by
        rw [facts.runs]
        exact Rows.nodup_append_new recorded.uniqueRunPks newPk
      runPks := by
        rw [facts.runs, facts.serial]
        intro named member
        rcases List.mem_append.mp member with old | new
        · obtain ⟨positive, below⟩ := recorded.runPks named old
          exact ⟨positive, Nat.lt_succ_of_lt below⟩
        · rw [List.mem_singleton.mp new, facts.runPk]
          exact ⟨recorded.serial, Nat.lt_succ_self _⟩
      serial := by
        rw [facts.serial]
        exact Nat.succ_pos _
      passed := by
        intro isPassed
        rcases facts.passedAt with ⟨result, _⟩ | same
        · exact ⟨_, rowMember, finish, finishedRow, result⟩
        · rw [same] at isPassed
          obtain ⟨old, member, event, finished, result⟩ :=
            recorded.passed isPassed
          obtain ⟨later, laterMember, laterFinished⟩ :=
            keepsMember member finished
          exact ⟨later, laterMember, event, laterFinished, result⟩ }

theorem performed {reply : Reply} (recorded : ChecksRecorded initial db)
    (performed : Performed db transaction next reply) :
    ChecksRecorded initial next := by
  rcases (performed.checkStep recorded.uniqueRuns).shape with
    ⟨id, now, _, free, checks, runs, count, passedAt, serial⟩ |
      ⟨row, run, finish, facts⟩ | ⟨same, rewritten⟩
  · exact recorded.request free checks runs count passedAt serial
  · exact recorded.ran facts
  · exact recorded.rewrite same rewritten

theorem passedExecution (recorded : ChecksRecorded initial db)
    (technicalPassed : db.technicalPassed = true) :
    ∃ row ∈ db.checks, ∃ finish,
      row.FinishedBy finish ∧ finish.result = .passed := by
  simp only [Db.technicalPassed, Sandbox.technicalPassed,
    Bool.or_eq_true] at technicalPassed
  rcases technicalPassed with stamped | ran
  · exact recorded.passed stamped
  · obtain ⟨run, member, good⟩ := List.any_eq_true.mp ran
    simp only [Bool.decide_and, Bool.and_eq_true, decide_eq_true_eq] at good
    obtain ⟨row, rowMember, finish, finished, names⟩ :=
      recorded.runNamed run member
    obtain ⟨found, foundMember, samePk, agrees⟩ :=
      recorded.runMatches row rowMember finish finished _ names
    have sameRun : found = run :=
      Rows.eq_of_key recorded.uniqueRunPks foundMember member samePk
    subst sameRun
    have result := agrees.result
    rw [good.1] at result
    refine ⟨row, rowMember, finish, finished, ?_⟩
    by_contra different
    simp [different] at result

end ChecksRecorded

end TicketSandbox.Sandbox
