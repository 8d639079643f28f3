import TicketSandbox.Library.Histories
import TicketSandbox.Observations.DeliveryFacts

namespace TicketSandbox.Observations

/-!
# The observation runs over a run of the system

Over every interleaving the table keeps its constraints, a worker calls the
pilot once for its run, a run goes forward only, and a run that was finished
with an answer was finished while the facts were those of its request.
-/

open Phases (Later Rewritten)
open Runs
open Sandbox (Pk Uuid)

/-- What the table of the runs keeps. -/
structure TableKept (runs : List HTTPObservationRun) : Prop where
  runIds : (runs.map fun run => run.runId).Nodup
  places : (runs.map HTTPObservationRun.place).Nodup
  oneActive : ∀ first ∈ runs, ∀ second ∈ runs,
      first.isActive = true → second.isActive = true →
      first.attemptId = second.attemptId →
      first = second

/-- What the workers keep. -/
structure WorkersKept (sys : System) : Prop where
  distinct : (sys.workers.map Worker.runId).Nodup
  begun : ∀ worker ∈ sys.workers, ∃ run ∈ sys.runs,
      run.runId = worker.runId ∧ run.status ≠ .queued
  calls : sys.observeCalls.Nodup
  callers : ∀ runId ∈ sys.observeCalls, ∃ worker ∈ sys.workers,
      worker.runId = runId ∧ worker.stage.isBefore = false

variable {run : HTTPObservationRun} {sys next first last : System}
  {action : Action} {actions : List Action} {world : World}

namespace TableKept

variable {old new : List HTTPObservationRun}

theorem rewritten
    {added : HTTPObservationRun → Finish → Prop} (kept : TableKept old)
    (goesOn : Rewritten HTTPObservationRun.view added old new) :
    TableKept new := by
  have sameIds :
      (new.map fun run => run.runId) = old.map fun run => run.runId :=
    goesOn.map_eq fun _ _ same => congrArg RequestedRun.runId same
  have samePlaces :
      new.map HTTPObservationRun.place = old.map HTTPObservationRun.place :=
    goesOn.map_eq fun _ _ same =>
      congrArg
        (fun asked : RequestedRun => (asked.attemptId, asked.ordinal)) same
  refine ⟨sameIds ▸ kept.runIds, samePlaces ▸ kept.places, ?_⟩
  obtain ⟨change, rfl, later⟩ := goesOn
  have wasActive {row : HTTPObservationRun} (member : row ∈ old)
      (isActive : (change row).isActive = true) :
      row.isActive = true :=
    HTTPObservationRun.finish?_eq_none.mp ((later row member).unfinished
        (HTTPObservationRun.finish?_eq_none.mpr isActive))
  have sameAttempt {row : HTTPObservationRun} (member : row ∈ old) :
      (change row).attemptId = row.attemptId :=
    congrArg RequestedRun.attemptId (later row member).identity
  intro first firstMember second secondMember firstActive secondActive same
  obtain ⟨one, oneMember, rfl⟩ := List.mem_map.mp firstMember
  obtain ⟨other, otherMember, rfl⟩ := List.mem_map.mp secondMember
  rw [sameAttempt oneMember, sameAttempt otherMember] at same
  rw [kept.oneActive one oneMember other otherMember
    (wasActive oneMember firstActive) (wasActive otherMember secondActive)
    same]

theorem inserted (kept : TableKept old) (returned : insert old run = .ok new) :
    TableKept new := by
  obtain ⟨rfl, newId, newPlace, noneActive⟩ := insert_ok returned
  refine ⟨?_, ?_, ?_⟩
  · exact Rows.nodup_append_new kept.runIds newId
  · exact Rows.nodup_append_new kept.places newPlace
  · intro first firstMember second secondMember firstActive secondActive same
    rcases List.mem_append.mp firstMember with inOld | isNew
    · rcases List.mem_append.mp secondMember with alsoInOld | isNew
      · exact kept.oneActive first inOld second alsoInOld firstActive
            secondActive same
      · cases List.mem_singleton.mp isNew
        exact (noneActive first inOld firstActive secondActive same).elim
    · cases List.mem_singleton.mp isNew
      rcases List.mem_append.mp secondMember with inOld | alsoNew
      · exact (noneActive second inOld secondActive firstActive same.symm).elim
      · exact (List.mem_singleton.mp alsoNew).symm

/-- Every step keeps the table of runs. -/
theorem step (kept : TableKept sys.runs)
    (stepped : sys.step? action = some next) :
    TableKept next.runs := by
  rcases System.rows_step kept.runIds stepped with goesOn | ⟨run, _, inserted⟩
  · exact kept.rewritten goesOn
  · exact kept.inserted inserted

end TableKept

theorem System.extends_step
    (kept : TableKept sys.runs) (stepped : sys.step? action = some next) :
    Rows.Extends (Later HTTPObservationRun.view fun _ _ => True) sys.runs
      next.runs := by
  rcases rows_step kept.runIds stepped with goesOn | ⟨run, _, inserted⟩
  · exact goesOn.isExtended
  · rw [(insert_ok inserted).1]
    exact .append (fun row => .refl row) _ _

theorem System.Runs.extends
    (run : first.Runs actions last) (kept : TableKept first.runs) :
    TableKept last.runs ∧
      Rows.Extends (Later HTTPObservationRun.view fun _ _ => True) first.runs
        last.runs :=
  Histories.extends_of_run System.runs (fun _ _ _ stepped held =>
      ⟨held.step stepped, System.extends_step held stepped⟩)
    run kept

namespace WorkersKept

variable {index : Nat} {worker other : Worker} {stage : Stage} {runId : Uuid}

theorem runIds_moved
    (isWorker : sys.workers[index]? = some worker) (stage : Stage) :
    (sys.moved index worker stage).workers.map Worker.runId =
      sys.workers.map Worker.runId := by
  rw [System.moved, List.map_set]
  refine List.ext_getElem? fun position => ?_
  rw [List.getElem?_set]
  split
  · rename_i same
    subst same
    obtain ⟨inRange, rfl⟩ := List.getElem?_eq_some_iff.mp isWorker
    simp [inRange]
  · rfl

theorem mem_moved (member : other ∈ (sys.moved index worker stage).workers) :
    other ∈ sys.workers ∨ other = { worker with stage := stage } :=
  List.mem_or_eq_of_mem_set member

theorem moved_mem (isWorker : sys.workers[index]? = some worker) (stage : Stage)
    (member : other ∈ sys.workers) :
    other = worker ∨ other ∈ (sys.moved index worker stage).workers := by
  obtain ⟨position, isOther⟩ := List.getElem?_of_mem member
  by_cases same : position = index
  · subst same
    exact .inl (Option.some.inj (isOther.symm.trans isWorker))
  · refine .inr (List.mem_iff_getElem?.mpr ⟨position, ?_⟩)
    rw [System.moved, List.getElem?_set_ne (Ne.symm same)]
    exact isOther

theorem moved_self
    (isWorker : sys.workers[index]? = some worker) (stage : Stage) :
    { worker with stage := stage } ∈
      (sys.moved index worker stage).workers := by
  obtain ⟨inRange, _⟩ := List.getElem?_eq_some_iff.mp isWorker
  exact List.mem_set inRange _

theorem begun_step
    (table : TableKept sys.runs) (stepped : sys.step? action = some next)
    (begun : ∃ run ∈ sys.runs, run.runId = runId ∧ run.status ≠ .queued) :
    ∃ run ∈ next.runs, run.runId = runId ∧ run.status ≠ .queued := by
  obtain ⟨run, member, same, started⟩ := begun
  obtain ⟨version, versionMember, later⟩ :=
    (System.extends_step table stepped).mem member
  have sameRun : version.runId = run.runId :=
    congrArg RequestedRun.runId later.identity
  exact ⟨version, versionMember, sameRun.trans same,
      HTTPObservationRun.isStarted_iff.mp (later.isStarted
        (HTTPObservationRun.isStarted_iff.mpr started))⟩

theorem begun_moved (kept : WorkersKept sys) (table : TableKept sys.runs)
    (stepped : sys.step? action = some next)
    (isWorker : sys.workers[index]? = some worker) :
    ∀ other ∈ (sys.moved index worker stage).workers,
      ∃ run ∈ next.runs, run.runId = other.runId ∧ run.status ≠ .queued := by
  intro other member
  rcases mem_moved member with wasMember | rfl
  · exact begun_step table stepped (kept.begun other wasMember)
  · exact begun_step table stepped
        (kept.begun worker (List.mem_of_getElem? isWorker))

theorem callers_moved
    (kept : WorkersKept sys) (isWorker : sys.workers[index]? = some worker)
    (notBack : stage.isBefore = true → worker.stage.isBefore = true)
    (called : runId ∈ sys.observeCalls) :
    ∃ other ∈ (sys.moved index worker stage).workers,
      other.runId = runId ∧ other.stage.isBefore = false := by
  obtain ⟨caller, member, same, isOver⟩ := kept.callers runId called
  rcases moved_mem isWorker stage member with rfl | stays
  · refine ⟨{ caller with stage := stage }, moved_self isWorker stage, same, ?_⟩
    exact Bool.eq_false_iff.mpr fun isBefore =>
      Bool.false_ne_true (isOver.symm.trans (notBack isBefore))
  · exact ⟨caller, stays, same, isOver⟩

theorem uncalled (kept : WorkersKept sys) (member : worker ∈ sys.workers)
    (isBefore : worker.stage.isBefore = true) :
    worker.runId ∉ sys.observeCalls := by
  intro called
  obtain ⟨caller, callerMember, same, isOver⟩ :=
    kept.callers worker.runId called
  rw [Rows.eq_of_key kept.distinct callerMember member same, isBefore] at isOver
  cases isOver

theorem step (kept : WorkersKept sys) (table : TableKept sys.runs)
    (stepped : sys.step? action = some next) :
    WorkersKept next := by
  rcases System.workers_step stepped with ⟨sameWorkers, sameCalls⟩
    | ⟨index, worker, stage, isWorker, moved, notBack, sameCalls⟩
    | ⟨index, worker, stage, isWorker, moved, wasBefore, isOver, called⟩
    | ⟨run, member, queued, joined, version, sameCalls⟩
  · refine ⟨sameWorkers ▸ kept.distinct, ?_, sameCalls ▸ kept.calls, ?_⟩
    · rw [sameWorkers]
      exact fun worker isMember =>
        begun_step table stepped (kept.begun worker isMember)
    · rw [sameWorkers, sameCalls]
      exact kept.callers
  · refine ⟨?_, ?_, sameCalls ▸ kept.calls, ?_⟩
    · rw [moved, runIds_moved isWorker]
      exact kept.distinct
    · rw [moved]
      exact kept.begun_moved table stepped isWorker
    · rw [moved, sameCalls]
      exact fun runId => kept.callers_moved isWorker notBack
  · have uncalled := kept.uncalled (List.mem_of_getElem? isWorker) wasBefore
    refine ⟨?_, ?_, ?_, ?_⟩
    · rw [moved, runIds_moved isWorker]
      exact kept.distinct
    · rw [moved]
      exact kept.begun_moved table stepped isWorker
    · rw [called]
      exact List.nodup_append.mpr
          ⟨kept.calls, List.nodup_singleton _, fun runId isCall other isNew
              same =>
            uncalled (List.mem_singleton.mp isNew ▸ same ▸ isCall)⟩
    · rw [moved, called]
      intro runId isCall
      rcases List.mem_append.mp isCall with wasCall | isNew
      · exact kept.callers_moved isWorker (fun _ => wasBefore) wasCall
      · exact ⟨{ worker with stage := stage }, moved_self isWorker stage,
            (List.mem_singleton.mp isNew).symm, isOver⟩
  · have unclaimed : ∀ worker ∈ sys.workers, worker.runId ≠ run.runId := by
      intro worker isMember same
      obtain ⟨row, rowMember, sameRun, started⟩ := kept.begun worker isMember
      rw [Rows.eq_of_key table.runIds rowMember member (sameRun.trans same)]
        at started
      exact started queued
    refine ⟨?_, ?_, sameCalls ▸ kept.calls, ?_⟩
    · rw [joined]
      exact Rows.nodup_append_new kept.distinct unclaimed
    · rw [joined]
      intro worker isMember
      rcases List.mem_append.mp isMember with wasMember | isNew
      · exact begun_step table stepped (kept.begun worker wasMember)
      · cases List.mem_singleton.mp isNew
        exact version
    · rw [joined, sameCalls]
      intro runId isCall
      obtain ⟨worker, isMember, same, isOver⟩ := kept.callers runId isCall
      exact ⟨worker, List.mem_append_left _ isMember, same, isOver⟩

end WorkersKept

/-- The invariants hold in every run of the system. -/
theorem System.Runs.kept (run : (System.start world).Runs actions last) :
    TableKept last.runs ∧ WorkersKept last := by
  refine run.invariant (fun sys => TableKept sys.runs ∧ WorkersKept sys) ?_ ?_
  · rintro sys action next _ stepped ⟨table, workers⟩
    exact ⟨table.step stepped, workers.step table stepped⟩
  · exact ⟨⟨by simp [System.start], by simp [System.start],
          by simp [System.start]⟩,
        ⟨by simp [System.start], by simp [System.start],
          by simp [System.start], by simp [System.start]⟩⟩

/-- The order in which a run passes through its statuses. -/
def RunStatus.rank : RunStatus → Nat
  | .queued => 0
  | .running => 1
  | .finished => 2

/-- A later version of a run. -/
structure Succeeds (old new : HTTPObservationRun) : Prop where
  asked : new.toRequestedRun = old.toRequestedRun
  forward : old.status.rank ≤ new.status.rank
  settled : old.status = .finished →
      new.http = old.http ∧ new.reason = old.reason ∧ new.result = old.result

theorem Succeeds.ofLater {old new : HTTPObservationRun}
    (later : Later HTTPObservationRun.view (fun _ _ => True) old new) :
    Succeeds old new := by
  have finishes (isFinished : old.status = .finished) :
      new.status = .finished ∧ new.http = old.http ∧
        new.reason = old.reason ∧ new.result = old.result :=
    HTTPObservationRun.finish?_eq_some.mp
      (later.keepsFinish (HTTPObservationRun.finish?_finished isFinished))
  refine ⟨later.identity, ?_, fun isFinished => (finishes isFinished).2⟩
  cases status : old.status with
  | queued => exact Nat.zero_le _
  | running =>
      have started : new.status ≠ .queued :=
        HTTPObservationRun.isStarted_iff.mp (later.isStarted
          (HTTPObservationRun.isStarted_iff.mpr (by simp [status])))
      cases newStatus : new.status with
      | queued => exact (started newStatus).elim
      | running => exact le_rfl
      | finished => exact Nat.le_succ 1
  | finished => rw [(finishes status).1]

/-- Between the two states the run is requested. -/
def Appears (asked created : System) (runId : Uuid) : Prop :=
  (∀ run ∈ asked.runs, run.runId ≠ runId) ∧
    ∃ run ∈ created.runs, run.runId = runId ∧ run.status = .queued

/-- Between the two states the run is finished. -/
def Finishes (finishing finished : System) (runId : Uuid) : Prop :=
  (∀ run ∈ finishing.runs, run.runId = runId → run.status ≠ .finished) ∧
    ∃ run ∈ finished.runs, run.runId = runId ∧ run.status = .finished

theorem System.appears_step
    (table : TableKept sys.runs) (stepped : sys.step? action = some next)
    (member : run ∈ next.runs)
    (isNew : ∀ other ∈ sys.runs, other.runId ≠ run.runId) :
    run.status = .queued ∧ sys.world.facts run.attemptId = run.recorded := by
  rcases rows_step table.runIds stepped with goesOn | ⟨added, created, inserted⟩
  · obtain ⟨earlier, earlierMember, later⟩ := goesOn.ofMem member
    have same : run.runId = earlier.runId :=
      congrArg RequestedRun.runId later.identity
    exact (isNew earlier earlierMember same.symm).elim
  · rw [(insert_ok inserted).1] at member
    rcases List.mem_append.mp member with wasMember | isAdded
    · exact (isNew run wasMember rfl).elim
    · cases List.mem_singleton.mp isAdded
      obtain ⟨_, _, _, requested, _, returned, isCreated, rfl⟩ := created
      exact (requestObservation_created returned isCreated).2

theorem System.finishes_step
    (table : TableKept sys.runs) (stepped : sys.step? action = some next)
    (member : run ∈ next.runs) (isFinished : run.status = .finished)
    (isAnswer : run.http ≠ "unknown") (wasUnfinished :
      ∀ other ∈ sys.runs, other.runId = run.runId → other.status ≠ .finished) :
    sys.world.facts run.attemptId = run.recorded := by
  rcases rows_step table.runIds stepped with goesOn | ⟨added, created, inserted⟩
  · obtain ⟨earlier, earlierMember, later⟩ := goesOn.ofMem member
    have same : run.toRequestedRun = earlier.toRequestedRun := later.identity
    have finished := HTTPObservationRun.finish?_finished isFinished
    rcases later.finishCases finished with wasFinished | ⟨_, known⟩
    · have status := (HTTPObservationRun.finish?_eq_some.mp wasFinished).1
      exact (wasUnfinished earlier earlierMember
          (congrArg RequestedRun.runId same).symm status).elim
    · rcases known with isUnknown | ⟨attempt, passed⟩
      · exact (isAnswer isUnknown).elim
      · rw [same]
        exact current_facts passed
  · rw [(insert_ok inserted).1] at member
    rcases List.mem_append.mp member with wasMember | isAdded
    · exact (wasUnfinished run wasMember rfl isFinished).elim
    · cases List.mem_singleton.mp isAdded
      obtain ⟨_, _, _, requested, _, returned, isCreated, rfl⟩ := created
      have isQueued := (requestObservation_created returned isCreated).2.1
      rw [isFinished] at isQueued
      cases isQueued

/--
A run that was finished with an answer: the moments at which it was requested
and finished, and that the facts were the same in both.
-/
def IsGrounded (first : System) (actions : List Action) (last : System)
    (run : HTTPObservationRun) : Prop :=
  ∃ early asked request created between finishing finish finished late,
    actions = early ++ request :: (between ++ finish :: late) ∧
      first.Runs early asked ∧ asked.step? request = some created ∧
      created.Runs between finishing ∧
      finishing.step? finish = some finished ∧ finished.Runs late last ∧
      Appears asked created run.runId ∧
      Finishes finishing finished run.runId ∧
      finishing.world.facts run.attemptId = asked.world.facts run.attemptId

theorem System.Runs.later
    (runs : first.Runs actions last) (table : TableKept first.runs)
    {row : HTTPObservationRun} (rowMember : row ∈ first.runs)
    (runMember : run ∈ last.runs) (same : row.runId = run.runId) :
    Later HTTPObservationRun.view (fun _ _ => True) row run := by
  obtain ⟨kept, extended⟩ := System.Runs.extends runs table
  obtain ⟨version, versionMember, later⟩ := extended.mem rowMember
  have sameRow : version = run :=
    Rows.eq_of_key kept.runIds versionMember runMember
      ((congrArg RequestedRun.runId later.identity).trans same)
  exact sameRow ▸ later

/-- The run was requested: it was queued, with the facts as they were. -/
def IsRequested (first : System) (actions : List Action) (last : System)
    (run : HTTPObservationRun) : Prop :=
  ∃ early asked request created late, actions = early ++ request :: late ∧
      first.Runs early asked ∧ asked.step? request = some created ∧
      created.Runs late last ∧ Appears asked created run.runId ∧
      asked.world.facts run.attemptId = run.recorded

theorem System.Runs.requested
    (runs : (System.start world).Runs actions last) (member : run ∈ last.runs) :
    IsRequested (System.start world) actions last run := by
  obtain ⟨early, request, late, asked, created, split, earlyRun, requests,
    lateRun, absent, present⟩ :=
    Run.exists_change (fun sys => ∃ row ∈ sys.runs, row.runId = run.runId)
      runs (by simp [System.start]) ⟨run, member, rfl⟩
  obtain ⟨row, rowMember, sameId⟩ := present
  have table := (System.Runs.kept earlyRun).1
  have isNew : ∀ other ∈ asked.runs, other.runId ≠ run.runId :=
    fun other otherMember same => absent ⟨other, otherMember, same⟩
  obtain ⟨isQueued, recorded⟩ :=
    System.appears_step table requests rowMember (sameId ▸ isNew)
  have same : run.toRequestedRun = row.toRequestedRun :=
    (System.Runs.later lateRun (table.step requests) rowMember member
      sameId).identity
  refine
    ⟨early, asked, request, created, late, split, earlyRun, requests, lateRun,
      ⟨isNew, row, rowMember, sameId, isQueued⟩, ?_⟩
  rw [same]
  exact recorded

theorem System.Runs.grounded
    (runs : (System.start world).Runs actions last) (member : run ∈ last.runs)
    (isFinished : run.status = .finished) (isAnswer : run.http ≠ "unknown") :
    IsGrounded (System.start world) actions last run := by
  obtain ⟨untilFinish, finish, late, finishing, finished, split, earlyRun,
    finishes, lateRun, unfinished, row, rowMember, sameId, rowFinished⟩ :=
    Run.exists_change (fun sys => ∃ row ∈ sys.runs,
        row.runId = run.runId ∧ row.status = .finished)
      runs (by simp [System.start]) ⟨run, member, rfl, isFinished⟩
  have table := (System.Runs.kept earlyRun).1
  have wasUnfinished : ∀ other ∈ finishing.runs, other.runId = run.runId →
        other.status ≠ .finished :=
    fun other otherMember same status =>
      unfinished ⟨other, otherMember, same, status⟩
  have later :=
    System.Runs.later lateRun (table.step finishes) rowMember member sameId
  have same : run.toRequestedRun = row.toRequestedRun := later.identity
  have rowIsAnswer : row.http ≠ "unknown" := by
    rw [← ((Succeeds.ofLater later).settled rowFinished).1]
    exact isAnswer
  have facts : finishing.world.facts run.attemptId = run.recorded := by
    rw [same]
    exact System.finishes_step table finishes rowMember rowFinished rowIsAnswer
        (sameId ▸ wasUnfinished)
  have wasThere : ∃ old ∈ finishing.runs, old.runId = run.runId := by
    by_contra absent
    have isNew : ∀ other ∈ finishing.runs, other.runId ≠ row.runId :=
      fun other otherMember sameRow =>
        absent ⟨other, otherMember, sameRow.trans sameId⟩
    have isQueued := (System.appears_step table finishes rowMember isNew).1
    rw [rowFinished] at isQueued
    cases isQueued
  obtain ⟨old, oldMember, sameOld⟩ := wasThere
  have oldSame : row.toRequestedRun = old.toRequestedRun :=
    (System.Runs.later (.single trivial finishes) table oldMember rowMember
      (sameOld.trans sameId.symm)).identity
  obtain ⟨early, asked, request, created, between, splitEarly, askedRun,
    requests, betweenRun, appears, recorded⟩ :=
    System.Runs.requested earlyRun oldMember
  refine ⟨early, asked, request, created, between, finishing, finish, finished,
      late, ?_, askedRun, requests, betweenRun, finishes, lateRun,
      sameOld ▸ appears,
      ⟨wasUnfinished, row, rowMember, sameId, rowFinished⟩, ?_⟩
  · rw [split, splitEarly]
    simp
  · have sameRun : run.toRequestedRun = old.toRequestedRun := same.trans oldSame
    rw [facts, sameRun]
    exact recorded.symm

/--
The observation runs after a run of the system: the constraints of the table
hold, a request whose drawn id is new cannot break them, the pilot is called
once for a run, runs are requested queued and go forward only, and answers are
grounded.
-/
structure ObservationsKept
    (first : System) (actions : List Action) (last : System) : Prop where
  runIds : (last.runs.map fun run => run.runId).Nodup
  places : (last.runs.map HTTPObservationRun.place).Nodup
  oneActive : ∀ one ∈ last.runs, ∀ other ∈ last.runs,
      one.isActive = true → other.isActive = true →
      one.attemptId = other.attemptId →
      one = other
  noCollision : ∀ attemptId userId drawn constraint,
      (∀ run ∈ last.runs, run.runId ≠ drawn) →
      requestObservation last.world last.runs attemptId userId drawn ≠
        .error (.integrityError constraint)
  observedOnce : last.observeCalls.Nodup
  requested : ∀ run ∈ last.runs, IsRequested first actions last run
  forward : ∀ early late middle, actions = early ++ late →
      first.Runs early middle → middle.Runs late last →
      ∀ run ∈ middle.runs, ∃ version ∈ last.runs, Succeeds run version
  grounded : ∀ run ∈ last.runs, run.status = .finished → run.http ≠ "unknown" →
      IsGrounded first actions last run

/-- Every interleaving keeps the observation runs. -/
theorem observations_kept {world : World} {last : System}
    {actions : List Action} (runs : (System.start world).Runs actions last) :
    ObservationsKept (System.start world) actions last := by
  obtain ⟨table, workers⟩ := System.Runs.kept runs
  refine ⟨table.runIds, table.places, table.oneActive, ?_, workers.calls,
      fun run => System.Runs.requested runs, ?_, ?_⟩
  · intro attemptId userId drawn constraint isFresh raised
    exact requestObservation_only isFresh _ raised constraint rfl
  · intro early late middle _ earlyRun lateRun run member
    obtain ⟨version, versionMember, later⟩ :=
      (System.Runs.extends lateRun (System.Runs.kept earlyRun).1).2.mem member
    exact ⟨version, versionMember, .ofLater later⟩
  · intro run member isFinished isAnswer
    exact System.Runs.grounded runs member isFinished isAnswer

/-- An attempt whose environment is ready and pinned, with one idle check. -/
def readyWorld : World where
  settings := { observationEnabled := true, observationAttemptId := some 7 }
  configFile := .ok
      { daemonId := "daemon"
        networkId := "network"
        scope := "scope"
        subnet := "10.0.0.0/28"
        targetImage := "sha256:target"
        verifierImage := "sha256:verifier"
        apiSocket := "/run/docker.sock"
        artifactDir := "/var/observations" }
  attempts :=
    [{ pk := 7
       userId := 3
       taskId := 5
       attemptNumber := 1
       queueSlug := "l1"
       taskSlug := "service-bind-localhost"
       isCurrent := true
       isAvailable := true
       status := .inProgress
       technicalPassed := false
       checkStatus := .idle
       environmentStatus := .ready
       environmentStartedAt := some 10
       environmentFinishedAt := some 20
       restartCount := 0
       containerId := String.ofList (List.replicate 64 'a')
       httpObservationRuntime :=
         some
           [("environment_uuid", .uuid 40),
            ("container_id", .text (String.ofList (List.replicate 64 'a')))] }]
  environmentEvents :=
    [{ pk := 1
       operationId := 40
       attemptId := 7
       userId := 3
       taskId := 5
       attemptNumber := 1
       kind := some .start
       phase := .requested
       outcome := .unknown },
     { pk := 2
       operationId := 40
       attemptId := 7
       userId := 3
       taskId := 5
       attemptNumber := 1
       kind := some .start
       phase := .finished
       outcome := .success }]
  technicalChecks :=
    [{ pk := 11
       runId := 50
       attemptId := 7
       userId := 3
       taskId := 5
       attemptNumber := 1
       ordinal := 1 }]
  technicalEvents := []

/-- What the pilot returns for a target that answers as it should. -/
def matchedObservation : Observation where
  http := "matched"
  reason := "matched"
  binding := none
  executionUuid := 60
  verifierImage := "sha256:verifier"
  workerId := none

/-- A request that borrows the check's id, delivered twice and observed. -/
def matchedActions : List Action :=
  [.requested 7 3 90, .dispatched 50, .delivered 50 30, .delivered 50 31,
    .checked 0 readyWorld, .pinned 0 readyWorld,
    .observed 0 (some matchedObservation) 200, .concluded 0 35]

example :
    ((after System.step? (System.start readyWorld) matchedActions).runs.map
      fun run => (run.runId, run.status, run.http)) =
      [(50, .finished, "matched")] := by
  decide

theorem observations_kept_matched :
    ObservationsKept (System.start readyWorld) matchedActions
      (after System.step? (System.start readyWorld) matchedActions) :=
  observations_kept (run_after (fun _ _ _ => trivial) (by decide))

end TicketSandbox.Observations
