import TicketSandbox.Sandbox.TrainingTasks

namespace TicketSandbox.Sandbox.TrainingTasks

/-!
# When the tasks are synchronised

The directories are written one after another, each under the constraint that
no two tasks of a queue have one order.  The command gets through exactly when
every order that it writes is free by then.
-/

open AiReviewer (Str codes)
open Raises

/-! ## What is wanted -/

/-- The task that a directory stands for, unless it is skipped or refused. -/
def Site.task?
    (site : Site) (dir : TaskDir) (defaultOrder : Nat) : Option Task :=
  match site.queue? dir with
  | none => none
  | some queue =>
      match site.metadata dir defaultOrder with
      | .ok metadata => some ⟨queue, dir.taskSlug, taskValues metadata⟩
      | .error _ => none

/-- The tasks that numbered directories stand for. -/
def Site.tasksOf (site : Site) (dirs : List (TaskDir × Nat)) : List Task :=
  dirs.filterMap fun (dir, defaultOrder) => site.task? dir defaultOrder

/-- The directories in their order, with their default orders. -/
def numberedDirs (dirs : List TaskDir) : List (TaskDir × Nat) :=
  withDefaultOrders (fun _ => 0) (sortedDirs dirs)

/-- The tasks that the directories stand for, in the order of the command. -/
def Site.wanted (site : Site) (dirs : List TaskDir) : List Task :=
  site.tasksOf (numberedDirs dirs)

/-- The metadata of a directory that is not skipped is valid. -/
def Site.IsValid (site : Site) (dir : TaskDir) (defaultOrder : Nat) : Prop :=
  site.queue? dir ≠ none →
    ∃ metadata, site.metadata dir defaultOrder = .ok metadata

/-- Valid metadata, in which no two tasks of a queue have one order. -/
structure IsTaskSet (site : Site) (dirs : List TaskDir) : Prop where
  paths : (dirs.map fun dir => (dir.queueSlug, dir.taskSlug)).Nodup
  valid : ∀ dir defaultOrder, (dir, defaultOrder) ∈ numberedDirs dirs →
      site.IsValid dir defaultOrder
  orders : ((site.wanted dirs).map Task.place).Nodup

/-- The unique constraints of `Task`. -/
structure IsTable (tasks : List Task) : Prop where
  keys : (tasks.map Task.key).Nodup
  places : (tasks.map Task.place).Nodup

/-- What the synchronisation of the tasks is to do. -/
structure Synchronises (site : Site) (options : Options) (dirs : List TaskDir)
    (tasks : List Task) : Prop where
  completes : (handle site options (some dirs) tasks).2 = none
  exact : ∀ wanted ∈ site.wanted dirs,
      wanted ∈ (handle site options (some dirs) tasks).1.tasks ∧
        ∀ task ∈ (handle site options (some dirs) tasks).1.tasks,
          task.key = wanted.key → task = wanted
  again : (handle site options (some dirs)
          (handle site options (some dirs) tasks).1.tasks).2 = none ∧
      (handle site options (some dirs)
          (handle site options (some dirs) tasks).1.tasks).1.tasks =
        (handle site options (some dirs) tasks).1.tasks
  atomic : (handle site options (some dirs) tasks).2 ≠ none →
    (handle site options (some dirs) tasks).1.tasks = tasks

/-- Every text can be written, and every order is free by then. -/
structure IsAdmissible (site : Site) (options : Options) (dirs : List TaskDir)
    (tasks : List Task) : Prop where
  names : ∀ dir ∈ dirs, dir.IsNamed
  fits : ∀ wanted ∈ site.wanted dirs, wanted.fits = true
  free : ∀ early wanted late, site.wanted dirs = early ++ wanted :: late →
      ∀ task ∈ tasks, task.place = wanted.place →
        task.key = wanted.key ∨ task.key ∈ early.map Task.key
  strict : options.strict = true → ∀ dir ∈ dirs, site.queue? dir ≠ none

/-! ## The loop -/

variable {tasks after : List Task} {site : Site} {options : Options}
  {dir : TaskDir} {defaultOrder second third : Nat} {task : Task}
  {progress : Progress} {dirs : List TaskDir}

theorem updateOrCreate_ok {next : List Task} :
    updateOrCreate tasks task = .ok next ↔
      task.fits = true ∧ Upserts.IsFree Task.key Task.place task tasks ∧
        next = Upserts.upsert Task.key task tasks := by
  simp only [updateOrCreate, bind_ok, ensure_ok, pure_ok]
  constructor
  · rintro ⟨_, fits, _, isFree, rfl⟩
    exact ⟨fits, isFree, rfl⟩
  · rintro ⟨fits, isFree, rfl⟩
    exact ⟨(), fits, (), isFree, rfl⟩

/-- Counting changes no task and skips no directory. -/
@[simp] theorem Progress.count_skipped (progress : Progress) (existed : Bool) :
    (progress.count existed).skipped = progress.skipped := by
  cases existed with
  | true => rfl
  | false => rfl

/-- The number of directories that are skipped. -/
def Site.skips (site : Site) (dirs : List (TaskDir × Nat)) : Nat :=
  dirs.countP fun entry => (site.queue? entry.1).isNone

theorem Site.task?_metadata (isTask : site.task? dir defaultOrder = some task) :
    ∃ queue metadata, site.queue? dir = some queue ∧
      site.metadata dir defaultOrder = .ok metadata ∧
      task = ⟨queue, dir.taskSlug, taskValues metadata⟩ := by
  unfold Site.task? at isTask
  cases inQueue : site.queue? dir with
  | none =>
      simp only [inQueue] at isTask
      cases isTask
  | some queue =>
      simp only [inQueue] at isTask
      cases isMetadata : site.metadata dir defaultOrder with
      | error failure =>
          simp only [isMetadata] at isTask
          cases isTask
      | ok metadata =>
          simp only [isMetadata, Option.some.injEq] at isTask
          exact ⟨queue, metadata, rfl, rfl, isTask.symm⟩

theorem syncDir_task (notDry : options.dryRun = false) (named : dir.IsNamed)
    (isTask : site.task? dir defaultOrder = some task) (progress : Progress) :
    site.queue? dir ≠ none ∧ syncDir site options progress dir defaultOrder =
        (updateOrCreate progress.tasks task).map fun tasks =>
          { progress.count
              (progress.tasks.any fun other => other.key = task.key) with
            tasks := tasks } := by
  obtain ⟨queue, metadata, inQueue, isMetadata, rfl⟩ :=
    Site.task?_metadata isTask
  refine ⟨inQueue ▸ Option.some_ne_none queue, ?_⟩
  simp only [syncDir, if_pos named, inQueue, isMetadata, notDry, taskExists,
    Bool.false_eq_true, ↓reduceIte]
  by_cases isText : AiReviewer.IsText dir.taskSlug
  · simp only [ensure, if_pos isText]
    rfl
  · have notFits :
        (⟨queue, dir.taskSlug, taskValues metadata⟩ : Task).fits ≠ true := by
      simp [Task.fits, IsColumn, isText]
    simp only [updateOrCreate, ensure, if_neg isText, if_neg notFits]
    rfl

theorem syncDir_skip (valid : site.IsValid dir defaultOrder)
    (noTask : site.task? dir defaultOrder = none) :
    site.queue? dir = none := by
  by_contra inQueue
  obtain ⟨queue, isQueue⟩ := Option.ne_none_iff_exists'.mp inQueue
  obtain ⟨metadata, isMetadata⟩ := valid inQueue
  simp only [Site.task?, isQueue, isMetadata] at noTask
  cases noTask

theorem syncDirs_done
    (notDry : options.dryRun = false) {dirs : List (TaskDir × Nat)}
    (valid : ∀ entry ∈ dirs, site.IsValid entry.1 entry.2)
    (done : (syncDirs site options progress dirs).2 = none) :
    (∀ entry ∈ dirs, entry.1.IsNamed) ∧
      (∀ task ∈ site.tasksOf dirs, task.fits = true) ∧
      Upserts.writeAll? Task.key Task.place (site.tasksOf dirs) progress.tasks =
        some (syncDirs site options progress dirs).1.tasks ∧
      (syncDirs site options progress dirs).1.skipped =
        progress.skipped + site.skips dirs := by
  induction dirs generalizing progress with
  | nil =>
      refine ⟨?_, ?_, rfl, rfl⟩
      · exact fun entry member => (List.not_mem_nil member).elim
      · exact fun task member => (List.not_mem_nil member).elim
  | cons entry rest inductionHypothesis =>
      obtain ⟨dir, defaultOrder⟩ := entry
      have validRest : ∀ entry ∈ rest, site.IsValid entry.1 entry.2 :=
        fun entry member => valid entry (List.mem_cons_of_mem _ member)
      have named : dir.IsNamed := by
        by_contra notNamed
        simp only [syncDirs, syncDir, if_neg notNamed] at done
        cases done
      cases isTask : site.task? dir defaultOrder with
      | none =>
          have skipped :=
            syncDir_skip (valid (dir, defaultOrder) List.mem_cons_self) isTask
          have noTask : site.tasksOf ((dir, defaultOrder) :: rest) =
                site.tasksOf rest :=
            List.filterMap_cons_none isTask
          have counted :
              site.skips ((dir, defaultOrder) :: rest) = site.skips rest + 1 :=
            List.countP_cons_of_pos (by simp [skipped])
          simp only [syncDirs, syncDir, if_pos named, skipped] at done ⊢
          obtain ⟨names, fits, written, skips⟩ :=
            inductionHypothesis validRest done
          rw [noTask]
          refine ⟨List.forall_mem_cons.mpr ⟨named, names⟩, fits, written, ?_⟩
          rw [skips, counted, Nat.add_assoc, Nat.add_comm 1]
      | some task =>
          obtain ⟨inQueue, isWrite⟩ := syncDir_task notDry named isTask progress
          have isFirst : site.tasksOf ((dir, defaultOrder) :: rest) =
                task :: site.tasksOf rest :=
            List.filterMap_cons_some isTask
          have counted :
              site.skips ((dir, defaultOrder) :: rest) = site.skips rest :=
            List.countP_cons_of_neg (by simpa using inQueue)
          cases stepped : updateOrCreate progress.tasks task with
          | error failure =>
              simp only [syncDirs, isWrite, stepped, Except.map] at done
              cases done
          | ok tasks =>
              obtain ⟨fitsFirst, isFree, rfl⟩ := updateOrCreate_ok.mp stepped
              simp only [syncDirs, isWrite, stepped, Except.map] at done ⊢
              obtain ⟨names, fits, written, skips⟩ :=
                inductionHypothesis validRest done
              rw [isFirst]
              refine ⟨List.forall_mem_cons.mpr ⟨named, names⟩,
                List.forall_mem_cons.mpr ⟨fitsFirst, fits⟩, ?_, ?_⟩
              · rw [Upserts.writeAll?, if_pos isFree]
                exact written
              · rw [skips, counted, Progress.count_skipped]

theorem syncDirs_complete
    (notDry : options.dryRun = false) {dirs : List (TaskDir × Nat)}
    (valid : ∀ entry ∈ dirs, site.IsValid entry.1 entry.2)
    (names : ∀ entry ∈ dirs, entry.1.IsNamed)
    (fits : ∀ task ∈ site.tasksOf dirs, task.fits = true) (written :
      Upserts.writeAll? Task.key Task.place (site.tasksOf dirs) progress.tasks =
        some after) :
    (syncDirs site options progress dirs).2 = none := by
  induction dirs generalizing progress with
  | nil => rfl
  | cons entry rest inductionHypothesis =>
      obtain ⟨dir, defaultOrder⟩ := entry
      have validRest : ∀ entry ∈ rest, site.IsValid entry.1 entry.2 :=
        fun entry member => valid entry (List.mem_cons_of_mem _ member)
      obtain ⟨named, namesRest⟩ := List.forall_mem_cons.mp names
      cases isTask : site.task? dir defaultOrder with
      | none =>
          have skipped :=
            syncDir_skip (valid (dir, defaultOrder) List.mem_cons_self) isTask
          have noTask : site.tasksOf ((dir, defaultOrder) :: rest) =
                site.tasksOf rest :=
            List.filterMap_cons_none isTask
          rw [noTask] at fits written
          simp only [syncDirs, syncDir, if_pos named, skipped]
          exact inductionHypothesis validRest namesRest fits written
      | some task =>
          obtain ⟨_, isWrite⟩ := syncDir_task notDry named isTask progress
          have isFirst : site.tasksOf ((dir, defaultOrder) :: rest) =
                task :: site.tasksOf rest :=
            List.filterMap_cons_some isTask
          rw [isFirst] at fits written
          simp only [Upserts.writeAll?, Option.ite_none_right_eq_some]
            at written
          obtain ⟨isFree, writtenRest⟩ := written
          have stepped : updateOrCreate progress.tasks task =
                .ok (Upserts.upsert Task.key task progress.tasks) :=
            updateOrCreate_ok.mpr ⟨fits task List.mem_cons_self, isFree, rfl⟩
          simp only [syncDirs, isWrite, stepped, Except.map]
          exact inductionHypothesis validRest namesRest
            (fun other later => fits other (List.mem_cons_of_mem _ later))
            writtenRest

/-! ## The directories -/

theorem map_withDefaultOrders (orderByQueue : Str → Nat) (dirs : List TaskDir) :
    (withDefaultOrders orderByQueue dirs).map Prod.fst = dirs := by
  induction dirs generalizing orderByQueue with
  | nil => rfl
  | cons dir rest inductionHypothesis =>
      simp only [withDefaultOrders, List.map_cons, inductionHypothesis]

theorem numberedDirs_perm (dirs : List TaskDir) :
    ((numberedDirs dirs).map Prod.fst).Perm dirs := by
  rw [numberedDirs, map_withDefaultOrders]
  exact List.perm_insertionSort _ dirs

theorem Site.queue?_injective {first second : TaskDir} {queue : Pk}
    (isFirst : site.queue? first = some queue)
    (isSecond : site.queue? second = some queue) :
    first.queueSlug = second.queueSlug := by
  have isEntry : ∀ dir, site.queue? dir = some queue →
        (dir.queueSlug, queue) ∈ site.queues := by
    intro dir inQueue
    simp only [Site.queue?, Option.ite_none_right_eq_some] at inQueue
    obtain ⟨before, after, split, _⟩ := List.lookup_eq_some_iff.mp inQueue.2
    rw [split]
    exact List.mem_append_right _ List.mem_cons_self
  exact congrArg Prod.fst (Rows.eq_of_key site.distinct (isEntry first isFirst)
        (isEntry second isSecond) rfl)

theorem Site.task?_key (isTask : site.task? dir defaultOrder = some task) :
    site.queue? dir = some task.queue ∧ task.slug = dir.taskSlug := by
  obtain ⟨queue, metadata, inQueue, _, rfl⟩ := Site.task?_metadata isTask
  exact ⟨inQueue, rfl⟩

theorem IsTaskSet.keys (isSet : IsTaskSet site dirs) :
    ((site.wanted dirs).map Task.key).Nodup := by
  have paths : (numberedDirs dirs).Pairwise fun first second =>
        (first.1.queueSlug, first.1.taskSlug) ≠
          (second.1.queueSlug, second.1.taskSlug) := by
    have distinct : ((numberedDirs dirs).map fun entry =>
          (entry.1.queueSlug, entry.1.taskSlug)).Nodup := by
      have permuted := ((numberedDirs_perm dirs).map fun dir =>
          (dir.queueSlug, dir.taskSlug)).nodup_iff.mpr isSet.paths
      rwa [List.map_map] at permuted
    exact List.pairwise_map.mp distinct
  refine List.pairwise_map.mpr (paths.filterMap _ ?_)
  rintro first second differ task isTask other isOther same
  obtain ⟨inQueue, sameSlug⟩ := Site.task?_key isTask
  obtain ⟨otherQueue, otherSlug⟩ := Site.task?_key isOther
  obtain ⟨sameQueue, sameTaskSlug⟩ := Prod.mk.inj same
  rw [← sameQueue] at otherQueue
  refine differ (Prod.ext (Site.queue?_injective inQueue otherQueue) ?_)
  exact sameSlug.symm.trans (sameTaskSlug.trans otherSlug)

theorem Site.skips_eq_zero :
    site.skips (numberedDirs dirs) = 0 ↔
      ∀ dir ∈ dirs, site.queue? dir ≠ none := by
  rw [Site.skips, List.countP_eq_zero]
  constructor
  · intro none dir member
    have numbered : dir ∈ (numberedDirs dirs).map Prod.fst :=
      (numberedDirs_perm dirs).mem_iff.mpr member
    obtain ⟨entry, isEntry, rfl⟩ := List.mem_map.mp numbered
    simpa using none entry isEntry
  · intro all entry member
    have inDirs : entry.1 ∈ dirs :=
      (numberedDirs_perm dirs).mem_iff.mp (List.mem_map_of_mem member)
    simpa using all entry.1 inDirs

/-! ## The command -/

theorem handle_tasks (site : Site) (options : Options) (dirs : List TaskDir)
    (tasks : List Task) :
    (handle site options (some dirs) tasks).1 =
      (syncDirs site options { tasks := tasks } (numberedDirs dirs)).1 := by
  unfold handle numberedDirs
  dsimp only
  split
  · rfl
  · split
    · rfl
    · rfl

theorem handle_none :
    (handle site options (some dirs) tasks).2 = none ↔
      (syncDirs site options { tasks := tasks } (numberedDirs dirs)).2 = none ∧
        ¬ (options.strict = true ∧ 0 < (syncDirs site options { tasks := tasks }
              (numberedDirs dirs)).1.skipped) := by
  unfold handle numberedDirs
  dsimp only
  split
  · rename_i failure failed
    simp [failed]
  · rename_i done
    split
    · rename_i missed
      simp [done, missed]
    · rename_i notMissed
      simp [done, notMissed]

theorem handle_done
    (notDry : options.dryRun = false) (isSet : IsTaskSet site dirs)
    (done : (handle site options (some dirs) tasks).2 = none) :
    (∀ dir ∈ dirs, dir.IsNamed) ∧
      (∀ task ∈ site.wanted dirs, task.fits = true) ∧
      Upserts.writeAll? Task.key Task.place (site.wanted dirs) tasks =
        some (handle site options (some dirs) tasks).1.tasks ∧
      (options.strict = true → ∀ dir ∈ dirs, site.queue? dir ≠ none) := by
  obtain ⟨looped, notMissed⟩ := handle_none.mp done
  obtain ⟨names, fits, written, skipped⟩ :=
    syncDirs_done notDry (fun entry => isSet.valid entry.1 entry.2) looped
  refine ⟨fun dir member => ?_, fits, ?_, ?_⟩
  · obtain ⟨entry, isEntry, rfl⟩ :=
      List.mem_map.mp ((numberedDirs_perm dirs).mem_iff.mpr member)
    exact names entry isEntry
  · rw [handle_tasks]
    exact written
  · intro strict
    rw [← Site.skips_eq_zero]
    refine Nat.eq_zero_of_not_pos fun positive => notMissed ⟨strict, ?_⟩
    rw [skipped, Nat.zero_add]
    exact positive

theorem handle_complete
    (notDry : options.dryRun = false) (isSet : IsTaskSet site dirs)
    (names : ∀ dir ∈ dirs, dir.IsNamed)
    (fits : ∀ task ∈ site.wanted dirs, task.fits = true) (written :
      Upserts.writeAll? Task.key Task.place (site.wanted dirs) tasks =
        some after)
    (strict : options.strict = true → ∀ dir ∈ dirs, site.queue? dir ≠ none) :
    (handle site options (some dirs) tasks).2 = none ∧
      (handle site options (some dirs) tasks).1.tasks = after := by
  have valid : ∀ entry ∈ numberedDirs dirs, site.IsValid entry.1 entry.2 :=
    fun entry => isSet.valid entry.1 entry.2
  have looped :
      (syncDirs site options { tasks := tasks } (numberedDirs dirs)).2 =
        none :=
    syncDirs_complete notDry valid
      (fun _ member => names _ ((numberedDirs_perm dirs).mem_iff.mp
        (List.mem_map_of_mem member)))
      fits written
  obtain ⟨_, _, _, skipped⟩ := syncDirs_done notDry valid looped
  have done : (handle site options (some dirs) tasks).2 = none := by
    refine handle_none.mpr ⟨looped, ?_⟩
    rintro ⟨isStrict, missed⟩
    rw [skipped, Site.skips_eq_zero.mpr (strict isStrict)] at missed
    exact Nat.lt_irrefl 0 missed
  refine ⟨done, ?_⟩
  have writtenNow := (handle_done notDry isSet done).2.2.1
  rw [written, Option.some.injEq] at writtenNow
  exact writtenNow.symm

theorem completes_iff
    (notDry : options.dryRun = false) (isSet : IsTaskSet site dirs) :
    (handle site options (some dirs) tasks).2 = none ↔
      IsAdmissible site options dirs tasks := by
  constructor
  · intro done
    obtain ⟨names, fits, written, strict⟩ := handle_done notDry isSet done
    exact ⟨names, fits, (Upserts.writeAll?_iff isSet.orders).mp ⟨_, written⟩,
      strict⟩
  · rintro ⟨names, fits, free, strict⟩
    obtain ⟨after, written⟩ := (Upserts.writeAll?_iff isSet.orders).mpr free
    exact (handle_complete notDry isSet names fits written strict).1

theorem IsTable.apart
    (isTable : IsTable tasks) : Upserts.Apart Task.key Task.place tasks := by
  intro task member other otherMember same
  rw [Rows.eq_of_key isTable.places otherMember member same]

/--
The tasks are synchronised exactly when every queue can be looked up, every row
fits its columns, every order is free by the time it is written, and nothing is
skipped in strict mode.
-/
theorem synchronises_iff
    {site : Site} {options : Options} (notDry : options.dryRun = false)
    {dirs : List TaskDir} (isSet : IsTaskSet site dirs) {tasks : List Task}
    (isTable : IsTable tasks) :
    Synchronises site options dirs tasks ↔
      IsAdmissible site options dirs tasks := by
  constructor
  · intro synchronised
    exact (completes_iff notDry isSet).mp synchronised.completes
  · intro admissible
    have done := (completes_iff notDry isSet).mpr admissible
    obtain ⟨names, fits, written, strict⟩ := handle_done notDry isSet done
    obtain ⟨keys, apart, arrived, _⟩ :=
      Upserts.writeAll?_spec written isTable.keys isTable.apart isSet.keys
    refine ⟨done, ?_, ?_, fun failed => absurd done failed⟩
    · intro wanted member
      refine ⟨arrived wanted member, ?_⟩
      intro task isTask same
      exact Rows.eq_of_key keys isTask (arrived wanted member) same
    · exact handle_complete notDry isSet names fits
        (Upserts.writeAll?_again keys apart arrived) strict

/-! ## Two orders that are exchanged -/

/-- A site with one queue. -/
def exampleSite : Site where
  queues := [(codes "l1", 1)]
  capitalize := id
  distinct := by decide

/-- A directory of that queue with its metadata. -/
def exampleDir (taskSlug title : Str) (order : Nat) : TaskDir where
  queueSlug := codes "l1"
  taskSlug := taskSlug
  dockerfile := true
  checkScript := true
  filesCheckScript := false
  taskJson := .object
    [(codes "title", .str title), (codes "ticket_title", .str title),
      (codes "client_name", .str (codes "c")),
      (codes "client_email", .str (codes "e")),
      (codes "description", .str (codes "d")), (codes "order", .int order)]

/-- Three directories, with their orders. -/
def exampleDirs (title : Str) (first second third : Nat) : List TaskDir :=
  [exampleDir (codes "a") title first, exampleDir (codes "b") title second,
    exampleDir (codes "c") title third]

/-- The tasks that an earlier run has left. -/
def exampleTasks : List Task :=
  (handle exampleSite {} (some (exampleDirs (codes "Old") 1 2 3)) []).1.tasks

/-- The metadata of every directory that is not skipped is valid. -/
def allValid (dirs : List TaskDir) : Bool :=
  (numberedDirs dirs).all fun entry =>
    (exampleSite.metadata entry.1 entry.2).isOk

theorem isTaskSet_example
    (paths : (dirs.map fun dir => (dir.queueSlug, dir.taskSlug)).Nodup)
    (valid : allValid dirs = true)
    (orders : ((exampleSite.wanted dirs).map Task.place).Nodup) :
    IsTaskSet exampleSite dirs := by
  refine ⟨paths, fun dir defaultOrder member _ => ?_, orders⟩
  have isOk := List.all_eq_true.mp valid _ member
  cases isMetadata : exampleSite.metadata dir defaultOrder with
  | error failure =>
      rw [isMetadata] at isOk
      cases isOk
  | ok metadata => exact ⟨metadata, rfl⟩

/-- Tasks of an earlier run whose orders are exchanged are not synchronised. -/
theorem exchange_unsynchronised :
    (handle exampleSite {} (some (exampleDirs (codes "Old") 1 2 3)) []).2 =
        none ∧
      IsTaskSet exampleSite (exampleDirs (codes "Old") 1 2 3) ∧
      IsTaskSet exampleSite (exampleDirs (codes "New") 1 3 2) ∧
      (handle exampleSite {} (some (exampleDirs (codes "New") 1 3 2))
          exampleTasks).2 =
        some .integrityError ∧
      (handle exampleSite {} (some (exampleDirs (codes "New") 1 3 2))
          exampleTasks).1.tasks ≠
        exampleTasks ∧
      ¬ Synchronises exampleSite {} (exampleDirs (codes "New") 1 3 2)
        exampleTasks := by
  have failed : (handle exampleSite {}
      (some (exampleDirs (codes "New") 1 3 2)) exampleTasks).2 =
        some .integrityError := by
    decide +kernel
  refine ⟨by decide +kernel,
    isTaskSet_example (by decide +kernel) (by decide +kernel)
      (by decide +kernel),
    isTaskSet_example (by decide +kernel) (by decide +kernel)
      (by decide +kernel), failed, fun same => ?_, fun synchronised => ?_⟩
  · have sameTitles :=
      congrArg (List.map fun task : Task => task.values.title) same
    exact absurd sameTitles (by decide +kernel)
  · cases synchronised.completes.symm.trans failed

/-- Orders that move on, the highest first, are all free by then. -/
theorem synchronises_iff_example :
    exampleTasks.length = 3 ∧
      Synchronises exampleSite {} (exampleDirs (codes "New") 4 1 2)
        exampleTasks := by
  have isSet : IsTaskSet exampleSite (exampleDirs (codes "New") 4 1 2) :=
    isTaskSet_example (by decide +kernel) (by decide +kernel)
      (by decide +kernel)
  have isTable : IsTable exampleTasks := ⟨by decide +kernel, by decide +kernel⟩
  have written : (Upserts.writeAll? Task.key Task.place
      (exampleSite.wanted (exampleDirs (codes "New") 4 1 2))
      exampleTasks).isSome = true := by
    decide +kernel
  refine ⟨by decide +kernel, (synchronises_iff rfl isSet isTable).mpr
    { names := by decide +kernel
      fits := List.all_eq_true.mp (by decide +kernel)
      free := (Upserts.writeAll?_iff isSet.orders).mp
        (Option.isSome_iff_exists.mp written)
      strict := fun strict => nomatch strict }⟩

end TicketSandbox.Sandbox.TrainingTasks
