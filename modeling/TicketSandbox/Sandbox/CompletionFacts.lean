import TicketSandbox.Sandbox.Completions

namespace TicketSandbox.Sandbox.Completions

/-!
# What is built is valid

The snapshot of an eligible candidate lists every task once, with evidence
that has come, and is accepted where the completion is saved.  What the
validation accepts has none of the defects that it looks for.
-/

open IsoDates (DateTime Moment isoformat fromisoformat)
open Raises

/-! ## Entries that are built -/

/-- The entry rests on the date as evidence of the attempt. -/
inductive IsEvidence (db : Db) (attempt : TaskAttempt) (entry : Entry)
    (date : DateTime) : Prop where
  | timestamp (passed : attempt.technicalPassedAt = some date)
      (source : entry.evidenceSource = "technical_passed_at")
  | run (run : CheckRun) (listed : run ∈ db.runs)
      (successful : isSuccessful attempt run = true)
      (created : run.createdAt = date)
      (source : entry.evidenceSource = "check_run")
      (recorded : entry.checkRunId = some run.pk)

/-- The entry proves that the user has passed the task at the date. -/
structure Proves (db : Db) (userId : Key) (task : Task) (entry : Entry)
    (date : DateTime) : Prop where
  taskId : entry.taskId = task.pk
  evidence : ∃ attempt ∈ db.attempts, attempt.pk = entry.attemptId ∧
      attempt.userId = userId ∧ attempt.taskId = task.pk ∧
        attempt.attemptNumber = 1 ∧ IsEvidence db attempt entry date
  written : entry.passedAt = isoformat date

variable {db : Db} {attempt : TaskAttempt} {userId : Key} {task : Task}
  {entry : Entry} {clock : Nat → Timestamp} {date : DateTime}
  {fields : List (String × Json)} {completed : Timestamp} {server : Server}
  {candidate : CompletionCandidate} {completion : Completion}
  {allowed : Failure → Prop}

theorem technicalCheck?_mem
    {run : CheckRun} (found : technicalCheck? db attempt = some run) :
    run ∈ db.runs ∧ isSuccessful attempt run = true :=
  List.mem_filter.mp
    ((List.mem_insertionSort _).mp (List.mem_of_mem_head? found))

theorem entryOf_proves
    {now : Timestamp} (built : entryOf db userId now task = .ok entry) :
    ∃ date, Proves db userId task entry date ∧ date.instant ≤ now := by
  simp only [entryOf, bind_ok, required_ok, ensure_ok, pure_ok] at built
  obtain ⟨attempt, found, _, completed, date, passed, _, past, rfl⟩ := built
  unfold creditAttempt? at found
  have isFirst : attempt.userId = userId ∧ attempt.taskId = task.pk ∧
        attempt.attemptNumber = 1 := by
    simpa using List.find?_some found
  refine ⟨date, ⟨rfl, ?_, rfl⟩, past⟩
  refine ⟨attempt, List.mem_of_find?_eq_some found, rfl, isFirst.1,
    isFirst.2.1, isFirst.2.2, ?_⟩
  unfold getTechnicalEvidence at passed completed ⊢
  cases stamped : attempt.technicalPassedAt with
  | some passedAt =>
      simp only [stamped] at passed
      cases passed
      exact .timestamp stamped rfl
  | none =>
      cases checked : technicalCheck? db attempt with
      | some run =>
          simp only [stamped, checked] at passed
          cases passed
          obtain ⟨listed, successful⟩ := technicalCheck?_mem checked
          exact .run run listed successful rfl rfl rfl
      | none =>
          simp only [stamped, checked] at passed
          cases passed

variable {entries : List Entry}

theorem entriesOf_proves {tasks : List Task}
    (built : entriesOf db userId clock tasks = .ok entries) :
    entries.map Entry.taskId = tasks.map Task.pk ∧
      ∀ entry ∈ entries, ∃ task ∈ tasks, ∃ date reading,
        Proves db userId task entry date ∧ reading < tasks.length ∧
          date.instant ≤ clock reading := by
  induction tasks generalizing clock entries with
  | nil =>
      cases built
      exact ⟨rfl, nofun⟩
  | cons task tasks inductionHypothesis =>
      simp only [entriesOf, bind_ok, pure_ok] at built
      obtain ⟨first, one, rest, others, rfl⟩ := built
      obtain ⟨taskIds, proven⟩ := inductionHypothesis others
      obtain ⟨date, proves, past⟩ := entryOf_proves one
      refine ⟨by simp [taskIds, proves.taskId], ?_⟩
      intro entry member
      rcases List.mem_cons.mp member with rfl | later
      · exact ⟨task, List.mem_cons_self, date, 0, proves,
          Nat.zero_lt_succ _, past⟩
      · obtain ⟨other, listed, date, reading, proves, within, past⟩ :=
          proven entry later
        exact ⟨other, List.mem_cons_of_mem _ listed, date, reading + 1,
          proves, Nat.succ_lt_succ within, past⟩

/-! ## The latest date -/

theorem foldlM_later (instants : List Timestamp) (first : Timestamp) :
    ∃ last, (instants.map Moment.aware).foldlM later? (Moment.aware first) =
          some (.aware last) ∧
        last ∈ first :: instants ∧
          ∀ instant ∈ first :: instants, instant ≤ last := by
  induction instants generalizing first with
  | nil => exact ⟨first, rfl, by simp, by simp⟩
  | cons instant later inductionHypothesis =>
      obtain ⟨last, found, member, most⟩ :=
        inductionHypothesis (if first < instant then instant else first)
      refine ⟨last, ?_, ?_, ?_⟩
      · rw [List.map_cons, List.foldlM_cons]
        exact found
      · split at member
        · exact List.mem_cons_of_mem _ member
        · rcases List.mem_cons.mp member with rfl | isLater
          · exact List.mem_cons_self
          · exact List.mem_cons_of_mem _ (List.mem_cons_of_mem _ isLater)
      · have greatest := most _ List.mem_cons_self
        have both : first ≤ last ∧ instant ≤ last := by
          split at greatest
          · rename_i less
            exact ⟨Int.le_trans (Int.le_of_lt less) greatest, greatest⟩
          · rename_i less
            exact ⟨greatest, Int.le_trans (Int.not_lt.mp less) greatest⟩
        intro other isOther
        rcases List.mem_cons.mp isOther with rfl | isOther
        · exact both.1
        rcases List.mem_cons.mp isOther with rfl | isLater
        · exact both.2
        · exact most other (List.mem_cons_of_mem _ isLater)

theorem Server.mapM_fromisoformat (server : Server)
    (written : ∀ entry ∈ entries, ∃ date, entry.passedAt = isoformat date) :
    ∃ dates : List DateTime, entries.map Entry.passedAt = dates.map isoformat ∧
        (entries.mapM fun entry =>
            fromisoformat server.others entry.passedAt) =
          some (dates.map fun date => .aware date.instant) := by
  induction entries with
  | nil => exact ⟨[], rfl, rfl⟩
  | cons entry rest inductionHypothesis =>
      obtain ⟨date, isWritten⟩ := written entry List.mem_cons_self
      obtain ⟨dates, same, read⟩ := inductionHypothesis fun other member =>
          written other (List.mem_cons_of_mem _ member)
      refine ⟨date :: dates, by simp [isWritten, same], ?_⟩
      simp [List.mapM_cons, isWritten, read, IsoDates.fromisoformat_isoformat]

theorem Server.completedAt?_latest (server : Server) (nonempty : entries ≠ [])
    (written : ∀ entry ∈ entries, ∃ date, entry.passedAt = isoformat date) :
    ∃ completed, server.completedAt? entries = some (.aware completed) ∧
      (∃ entry ∈ entries, ∃ date,
        entry.passedAt = isoformat date ∧ date.instant = completed) ∧
      ∀ entry ∈ entries, ∀ date, entry.passedAt = isoformat date →
        date.instant ≤ completed := by
  obtain ⟨dates, same, read⟩ := server.mapM_fromisoformat written
  cases dates with
  | nil => exact (nonempty (List.map_eq_nil_iff.mp same)).elim
  | cons date later =>
      obtain ⟨completed, found, member, most⟩ :=
        foldlM_later (later.map DateTime.instant) date.instant
      refine ⟨completed, ?_, ?_, ?_⟩
      · rw [List.map_map] at found
        rw [Server.completedAt?, read]
        exact found
      · rw [← List.map_cons (f := DateTime.instant)] at member
        obtain ⟨last, isLast, isInstant⟩ := List.mem_map.mp member
        have text : isoformat last ∈ entries.map Entry.passedAt := by
          rw [same]
          exact List.mem_map_of_mem isLast
        obtain ⟨entry, listed, passedAt⟩ := List.mem_map.mp text
        exact ⟨entry, listed, last, passedAt, isInstant⟩
      · intro entry listed other isWritten
        have text : entry.passedAt ∈ (date :: later).map isoformat := by
          rw [← same]
          exact List.mem_map_of_mem listed
        obtain ⟨one, isOne, text⟩ := List.mem_map.mp text
        have equal : one = other :=
          IsoDates.isoformat_injective (text.trans isWritten)
        rw [← equal]
        exact most _ (List.mem_map_of_mem (f := DateTime.instant) isOne)

/-! ## What is built is accepted -/

theorem key?_pk (key : Key) :
    Json.key? (some (.int key)) = some (key : Int) := by
  simp [Json.key?]

theorem Entry.taskId?_json (entry : Entry) :
    taskId? entry.json = some (entry.taskId : Int) := by
  simp [taskId?, Entry.json, Json.get?, key?_pk]

theorem taskIds_json (entries : List Entry) :
    (entries.map Entry.json).filterMap taskId? =
      entries.map fun entry => (entry.taskId : Int) := by
  rw [List.filterMap_map]
  refine List.filterMap_eq_map_iff_forall_eq_some.mpr fun entry _ => ?_
  exact entry.taskId?_json

theorem IsEvidence.sourceErrors (evidence : IsEvidence db attempt entry date)
    (isJson : entry.json = .object fields) :
    Completions.sourceErrors fields = [] := by
  unfold Entry.json at isJson
  cases isJson
  cases evidence with
  | timestamp passed source =>
      cases entry.checkRunId with
      | none =>
          simp [Completions.sourceErrors, Json.get?, Json.isText,
            Json.isNone, errorIf, source]
      | some runId =>
          simp [Completions.sourceErrors, Json.get?, Json.isText,
            Json.isNone, errorIf, source, key?_pk]
  | run run listed successful created source recorded =>
      simp [Completions.sourceErrors, Json.get?, Json.isText, Json.isNone,
        errorIf, source, recorded, key?_pk]

theorem Proves.entryErrors (proves : Proves db userId task entry date)
    (server : Server) (within : date.instant ≤ completed) :
    server.entryErrors (some (.aware completed)) entry.json = [] := by
  obtain ⟨attempt, _, _, _, _, _, evidence⟩ := proves.evidence
  have known := entry.taskId?_json
  cases isJson : entry.json with
  | object fields =>
      have passedAt : server.passedAt? fields = some (.aware date.instant) := by
        have same := isJson
        unfold Entry.json at same
        cases same
        simp [Server.passedAt?, Json.get?, proves.written,
          IsoDates.fromisoformat_isoformat]
      rw [isJson] at known
      simp [Server.entryErrors, known, evidence.sourceErrors isJson,
        passedAt, timeErrors, errorIf, Int.not_lt.mpr within]
  | _ => cases isJson

theorem Server.validate_ok :
    server.validateCompletionSnapshot completion = .ok () ↔
      ∃ entries, entries? completion.snapshot = .ok entries ∧
        server.snapshotErrors completion.completedAt entries = [] ∧
          completion.compositionFingerprint =
            server.compositionFingerprint completion.programKey
              (entries.filterMap taskId?) := by
  simp only [Server.validateCompletionSnapshot, bind_ok, ensure_ok]
  constructor
  · rintro ⟨entries, found, _, fine, same⟩
    exact ⟨entries, found, fine, same⟩
  · rintro ⟨entries, found, fine, same⟩
    exact ⟨entries, found, (), fine, same⟩

theorem entries?_snapshot (nonempty : candidate.entries ≠ []) :
    entries? candidate.snapshot = .ok (candidate.entries.map Entry.json) := by
  cases shape : candidate.entries with
  | nil => exact (nonempty shape).elim
  | cons entry rest =>
      simp [entries?, CompletionCandidate.snapshot, shape, Json.get?,
        Json.isVersion]

theorem Server.candidate_eligible {tasks : List Task}
    (found : server.candidate db userId tasks clock = some candidate)
    (eligible : candidate.eligible = true) :
    tasks ≠ [] ∧ entriesOf db userId clock tasks = .ok candidate.entries ∧
        server.completedAt? candidate.entries = candidate.completedAt ∧
          candidate.completedAt ≠ none ∧ candidate.fingerprint =
              server.compositionFingerprint programKey
                (tasks.map fun task => (task.pk : Int)) := by
  simp only [Server.candidate] at found
  split at found
  · cases found
    cases eligible
  rename_i nonempty
  split at found
  · cases found
    cases eligible
  · rename_i entries built
    obtain ⟨completedAt, latest, rfl⟩ := Option.map_eq_some_iff.mp found
    exact ⟨nonempty, built, latest, nofun, rfl⟩

/-- What an eligible candidate is. -/
structure IsComplete
    (server : Server) (db : Db) (userId : Key) (tasks : List Task)
    (clock : Nat → Timestamp) (candidate : CompletionCandidate)
    (completed : Timestamp) : Prop where
  completedAt : candidate.completedAt = some (.aware completed)
  listed : candidate.entries.map Entry.taskId = tasks.map Task.pk
  once : (candidate.entries.map Entry.taskId).Nodup
  proven : ∀ entry ∈ candidate.entries, ∃ task ∈ tasks, ∃ date,
      Proves db userId task entry date ∧ date.instant ≤ completed ∧
        ∃ reading < tasks.length, date.instant ≤ clock reading
  latest : ∃ entry ∈ candidate.entries, ∃ task ∈ tasks, ∃ date,
      Proves db userId task entry date ∧ date.instant = completed
  past : ∃ reading < tasks.length, completed ≤ clock reading
  accepted : ∀ source,
      server.validateCompletionSnapshot (candidate.completion source) = .ok ()

/-- An eligible candidate is complete. -/
theorem Server.candidate_isComplete
    {tasks : List Task} (keyed : (tasks.map Task.pk).Nodup)
    (found : server.candidate db userId tasks clock = some candidate)
    (eligible : candidate.eligible = true) :
    ∃ completed,
      IsComplete server db userId tasks clock candidate completed := by
  obtain ⟨nonempty, built, isLatest, _, fingerprint⟩ :=
    server.candidate_eligible found eligible
  obtain ⟨taskIds, proven⟩ := entriesOf_proves built
  have nonempty : candidate.entries ≠ [] := by
    intro none
    rw [none, List.map_nil] at taskIds
    exact nonempty (List.map_eq_nil_iff.mp taskIds.symm)
  obtain ⟨completed, latest, ⟨last, isLast, date, written, instant⟩, most⟩ :=
    server.completedAt?_latest nonempty fun entry member => by
      obtain ⟨task, _, date, _, proves, _⟩ := proven entry member
      exact ⟨date, proves.written⟩
  have completedAt : candidate.completedAt = some (.aware completed) :=
    isLatest.symm.trans latest
  obtain ⟨task, listed, other, reading, proves, within, past⟩ :=
    proven last isLast
  have same : date = other :=
    IsoDates.isoformat_injective (written.symm.trans proves.written)
  refine ⟨completed,
    { completedAt
      listed := taskIds
      once := by rw [taskIds]; exact keyed
      proven := ?_
      latest := ⟨last, isLast, task, listed, other, proves, same ▸ instant⟩
      past := ⟨reading, within, by rw [← instant, same]; exact past⟩
      accepted := ?_ }⟩
  · intro entry member
    obtain ⟨task, listed, date, reading, proves, within, past⟩ :=
      proven entry member
    exact ⟨task, listed, date, proves,
      most entry member date proves.written, reading, within, past⟩
  · intro source
    have ids : (candidate.entries.map Entry.json).filterMap taskId? =
          tasks.map fun task => (task.pk : Int) := by
      have keys := congrArg (List.map fun key : Key => (key : Int)) taskIds
      rw [List.map_map, List.map_map] at keys
      exact (taskIds_json candidate.entries).trans keys
    refine Server.validate_ok.mpr
      ⟨candidate.entries.map Entry.json, entries?_snapshot nonempty, ?_, ?_⟩
    · refine List.append_eq_nil_iff.mpr ⟨?_, ?_⟩
      · refine List.flatMap_eq_nil_iff.mpr fun json isJson => ?_
        obtain ⟨entry, member, rfl⟩ := List.mem_map.mp isJson
        obtain ⟨task, _, date, _, proves, _⟩ := proven entry member
        simp only [CompletionCandidate.completion, completedAt]
        exact proves.entryErrors server (most entry member date proves.written)
      · have unique :
            ((candidate.entries.map Entry.json).filterMap taskId?).Nodup := by
          rw [ids, ← Function.comp_def (fun key : Key => (key : Int)),
            ← List.map_map]
          exact keyed.map fun first second same => by exact_mod_cast same
        have fine := decide_eq_false (not_not.mpr unique)
        rw [errorIf, fine]
        rfl
    · rw [ids]
      exact fingerprint

/-! ## What is refused -/

/-- A value in an entry. -/
def Json.field? (name : String) : Json → Option Json
  | .object fields => Json.get? fields name
  | _ => none

/-- The values in `tasks` of the snapshot. -/
def Completion.tasks (completion : Completion) : List Json :=
  match completion.snapshot.field? "tasks" with
  | some (.list entries) => entries
  | _ => []

/-- The date of an entry, if it has one that can be read. -/
def Server.date? (server : Server) : Json → Option Moment
  | .object fields => server.passedAt? fields
  | _ => none

/-- What a completion must not have. -/
inductive IsDefective (server : Server) (completion : Completion) : Prop where
  | duplicated (first second : Json)
      (listed : [first, second].Sublist completion.tasks) (taskId : Json)
      (isFirst : first.field? "task_id" = some taskId)
      (isSecond : second.field? "task_id" = some taskId)
  | dateMissing (entry : Json) (listed : entry ∈ completion.tasks)
      (missing : server.date? entry = none)
  | dateNaive (entry : Json) (listed : entry ∈ completion.tasks)
      (instant : Timestamp)
      (naive : server.date? entry = some (.naive instant))
  | dateLate (entry : Json) (listed : entry ∈ completion.tasks)
      (instant completed : Timestamp)
      (passedAt : server.date? entry = some (.aware instant))
      (completedAt : completion.completedAt = some (.aware completed))
      (late : completed < instant)
  | sourceUnknown (entry : Json) (listed : entry ∈ completion.tasks) (unknown :
        ∀ source, entry.field? "evidence_source" = some (.text source) →
          source ≠ "technical_passed_at".toList ∧ source ≠ "check_run".toList)
  | checkMissing (entry : Json) (listed : entry ∈ completion.tasks) (isCheck :
        entry.field? "evidence_source" = some (.text "check_run".toList))
      (missing : entry.field? "check_run_id" = none ∨
          entry.field? "check_run_id" = some .null)

/-- What an accepted completion says. -/
structure IsAccepted (server : Server) (completion : Completion) : Prop where
  entries : ∀ entry ∈ completion.tasks,
      server.entryErrors completion.completedAt entry = []
  unique : (completion.tasks.filterMap taskId?).Nodup
  fingerprint : completion.compositionFingerprint =
      server.compositionFingerprint completion.programKey
        (completion.tasks.filterMap taskId?)

theorem Server.validate_isAccepted
    (accepted : server.validateCompletionSnapshot completion = .ok ()) :
    IsAccepted server completion := by
  obtain ⟨entries, found, fine, fingerprint⟩ := Server.validate_ok.mp accepted
  have same : completion.tasks = entries := by
    unfold entries? at found
    split at found
    · rename_i fields shape
      split at found
      · split at found
        · rename_i entry rest isList
          cases found
          rw [Completion.tasks, shape, Json.field?, isList]
        · cases found
      · cases found
    · cases found
  obtain ⟨each, unique⟩ := List.append_eq_nil_iff.mp fine
  rw [← same] at each unique fingerprint
  refine ⟨List.flatMap_eq_nil_iff.mp each, ?_, fingerprint⟩
  by_contra repeated
  rw [errorIf, decide_eq_true repeated] at unique
  cases unique

theorem errorIf_eq_nil {condition : Bool} {message : String} :
    errorIf condition message = [] ↔ condition = false := by
  cases condition with
  | false => simp [errorIf]
  | true => simp [errorIf]

theorem isText_iff {expected : String} {value : Option Json} :
    Json.isText expected value = true ↔
      value = some (.text expected.toList) := by
  unfold Json.isText
  split
  · rename_i text
    rw [decide_eq_true_iff, Option.some.injEq, Json.text.injEq]
  · rename_i other
    exact iff_of_false nofun fun same => other _ same

theorem sourceErrors_eq_nil (fine : sourceErrors fields = []) :
    (Json.get? fields "evidence_source" =
          some (.text "technical_passed_at".toList) ∨
        Json.get? fields "evidence_source" = some (.text "check_run".toList)) ∧
      (Json.get? fields "evidence_source" = some (.text "check_run".toList) →
        Json.isNone (Json.get? fields "check_run_id") = false) := by
  obtain ⟨others, missing⟩ := List.append_eq_nil_iff.mp fine
  obtain ⟨unknown, _⟩ := List.append_eq_nil_iff.mp others
  have known := errorIf_eq_nil.mp unknown
  have recorded := errorIf_eq_nil.mp missing
  simp only [Bool.and_eq_false_iff, Bool.not_eq_false'] at known recorded
  refine ⟨known.imp isText_iff.mp isText_iff.mp, fun isCheck => ?_⟩
  rcases recorded with other | isSome
  · rw [isText_iff.mpr isCheck] at other
    cases other
  · exact isSome

theorem Server.entryErrors_eq_nil {completedAt : Option Moment} {entry : Json}
    (fine : server.entryErrors completedAt entry = []) :
    ∃ fields, entry = .object fields ∧ taskId? entry ≠ none ∧
      sourceErrors fields = [] ∧ ∃ instant completed,
          server.passedAt? fields = some (.aware instant) ∧
            completedAt = some (.aware completed) ∧ instant ≤ completed := by
  cases entry with
  | object fields =>
      simp only [Server.entryErrors] at fine
      split at fine
      · cases fine
      rename_i known
      obtain ⟨source, time⟩ := List.append_eq_nil_iff.mp fine
      refine ⟨fields, rfl, fun none => known (by rw [none]; rfl), source, ?_⟩
      unfold timeErrors at time
      split at time
      · cases time
      · cases time
      · rename_i instant passedAt
        split at time
        · rename_i completed
          refine ⟨instant, completed, passedAt, rfl, Int.not_lt.mp ?_⟩
          exact of_decide_eq_false (errorIf_eq_nil.mp time)
        · cases time
  | _ => cases fine

theorem taskId?_field
    {entry : Json} {taskId : Int} (found : taskId? entry = some taskId) :
    entry.field? "task_id" = some (.int taskId) := by
  cases entry with
  | object fields =>
      simp only [taskId?] at found
      split at found
      · rename_i id other isId _
        cases found
        unfold Json.key? at isId
        split at isId
        · rename_i value isValue
          split at isId
          · cases isId
            exact isValue
          · cases isId
        · cases isId
      · cases found
  | _ => cases found

/-- No candidate with a defect is accepted. -/
theorem IsDefective.not_accepted (defective : IsDefective server completion) :
    ¬ IsAccepted server completion := by
  intro accepted
  cases defective with
  | duplicated first second listed taskId isFirst isSecond =>
      have known : ∀ entry, entry ∈ completion.tasks →
            entry.field? "task_id" = some taskId →
              ∃ id, taskId = .int id ∧ taskId? entry = some id := by
        intro entry member isTask
        obtain ⟨fields, _, isKnown, _⟩ :=
          Server.entryErrors_eq_nil (accepted.entries entry member)
        obtain ⟨id, isId⟩ := Option.ne_none_iff_exists'.mp isKnown
        have same := taskId?_field isId
        rw [isTask] at same
        exact ⟨id, Option.some.inj same, isId⟩
      obtain ⟨id, isInt, one⟩ := known first (listed.subset (by simp)) isFirst
      obtain ⟨other, same, two⟩ :=
        known second (listed.subset (by simp)) isSecond
      rw [isInt] at same
      cases same
      have pair := accepted.unique.sublist (listed.filterMap taskId?)
      simp [one, two] at pair
  | dateMissing entry listed missing =>
      obtain ⟨fields, rfl, _, _, _, _, passedAt, _⟩ :=
        Server.entryErrors_eq_nil (accepted.entries entry listed)
      have isDate := passedAt.symm.trans missing
      cases isDate
  | dateNaive entry listed instant naive =>
      obtain ⟨fields, rfl, _, _, _, _, passedAt, _⟩ :=
        Server.entryErrors_eq_nil (accepted.entries entry listed)
      have isDate := passedAt.symm.trans naive
      cases isDate
  | dateLate entry listed instant completed isInstant completedAt late =>
      obtain ⟨fields, rfl, _, _, _, _, passedAt, isCompleted, within⟩ :=
        Server.entryErrors_eq_nil (accepted.entries entry listed)
      have isDate := passedAt.symm.trans isInstant
      have isEnd := isCompleted.symm.trans completedAt
      cases isDate
      cases isEnd
      exact Int.not_lt.mpr within late
  | sourceUnknown entry listed unknown =>
      obtain ⟨fields, rfl, _, source, _⟩ :=
        Server.entryErrors_eq_nil (accepted.entries entry listed)
      obtain ⟨isStamp | isCheck, _⟩ := sourceErrors_eq_nil source
      · exact (unknown _ isStamp).1 rfl
      · exact (unknown _ isCheck).2 rfl
  | checkMissing entry listed isCheck missing =>
      obtain ⟨fields, rfl, _, source, _⟩ :=
        Server.entryErrors_eq_nil (accepted.entries entry listed)
      have recorded := (sourceErrors_eq_nil source).2 isCheck
      rcases missing with isAbsent | isNull
      · rw [show Json.get? fields "check_run_id" = none from isAbsent]
          at recorded
        cases recorded
      · rw [show Json.get? fields "check_run_id" = some .null from isNull]
          at recorded
        cases recorded

/-! ## The builder and the validation -/

theorem mem_activeTasks {queue : Queue} :
    task ∈ activeTasks db queue ↔
      task ∈ db.tasks ∧ task.queueId = queue.pk ∧ task.isActive = true := by
  unfold activeTasks
  rw [List.mem_insertionSort, List.mem_filter, Bool.and_eq_true,
    decide_eq_true_iff]

theorem activeTasks_nodup
    (keyed : (db.tasks.map Task.pk).Nodup) (queue : Queue) :
    ((activeTasks db queue).map Task.pk).Nodup := by
  have sorted := (List.perm_insertionSort (fun first second : Task =>
        first.order < second.order ∨
          first.order = second.order ∧ first.pk ≤ second.pk)
      (db.tasks.filter fun task =>
        decide (task.queueId = queue.pk) && task.isActive)).map Task.pk
  exact sorted.nodup_iff.mpr (keyed.sublist (List.filter_sublist.map Task.pk))

theorem Server.candidate_ne_none (server : Server) (db : Db) (userId : Key)
    (tasks : List Task) (clock : Nat → Timestamp) :
    server.candidate db userId tasks clock ≠ none := by
  simp only [Server.candidate]
  split
  · exact nofun
  rename_i nonempty
  split
  · exact nofun
  · rename_i entries built
    obtain ⟨taskIds, proven⟩ := entriesOf_proves built
    have nonempty : entries ≠ [] := by
      intro none
      rw [none, List.map_nil] at taskIds
      exact nonempty (List.map_eq_nil_iff.mp taskIds.symm)
    obtain ⟨completed, latest, _⟩ :=
      server.completedAt?_latest nonempty fun entry member => by
        obtain ⟨task, _, date, _, proves, _⟩ := proven entry member
        exact ⟨date, proves.written⟩
    rw [latest]
    exact nofun

/-- An eligible candidate has completed every task of the queue. -/
theorem Server.lockedCandidate_isComplete (keyed : (db.tasks.map Task.pk).Nodup)
    (found : server.lockedCandidate db userId clock = some candidate)
    (eligible : candidate.eligible = true) :
    ∃ queue completed, activeQueue? db = some queue ∧
      IsComplete server db userId (activeTasks db queue) clock candidate
        completed := by
  unfold Server.lockedCandidate at found
  split at found
  · cases found
    cases eligible
  · rename_i queue isQueue
    obtain ⟨completed, complete⟩ :=
      Server.candidate_isComplete (activeTasks_nodup keyed queue) found eligible
    exact ⟨queue, completed, isQueue, complete⟩

/-- Every completion in the table is accepted. -/
def Db.IsValid (server : Server) (db : Db) : Prop :=
  ∀ completion ∈ db.completions,
    server.validateCompletionSnapshot completion = .ok ()

/-- The writer returns tables that are valid, or fails as it may. -/
structure Writes (server : Server) (db : Db) (allowed : Failure → Prop)
    (result : Except Failure (Db × Option Completion × Bool)) : Prop where
  valid : db.IsValid server → ∀ next written, result = .ok (next, written) →
      next.IsValid server
  fails : ∀ failure, result = .error failure → allowed failure

theorem Writes.unchanged (written : Option Completion × Bool) :
    Writes server db allowed (pure (db, written)) := by
  refine ⟨fun valid next other same => ?_, nofun⟩
  cases same
  exact valid

theorem Writes.ensure {condition : Prop} [Decidable condition]
    {failure : Failure} {rest : Except Failure (Db × Option Completion × Bool)}
    (isAllowed : allowed failure)
    (writes : condition → Writes server db allowed rest) :
    Writes server db allowed (do
        Raises.ensure condition failure
        rest) := by
  by_cases holds : condition
  · have passes : Raises.ensure condition failure = .ok () := if_pos holds
    rw [passes]
    exact writes holds
  · have refused : Raises.ensure condition failure = .error failure :=
      if_neg holds
    rw [refused]
    refine ⟨nofun, fun other same => ?_⟩
    cases same
    exact isAllowed

theorem Server.store_writes {tasks : List Task}
    (complete : IsComplete server db userId tasks clock candidate completed)
    (source : String) :
    Writes server db allowed (server.store db candidate source) := by
  unfold Server.store
  split
  · exact .unchanged _
  · rw [complete.accepted source]
    refine ⟨fun valid next written same => ?_, nofun⟩
    cases same
    intro completion member
    rcases List.mem_append.mp member with old | new
    · exact valid completion old
    · rw [List.mem_singleton.mp new]
      exact complete.accepted source

theorem Server.lockedCandidate_ne_none
    (server : Server) (db : Db) (userId : Key) (clock : Nat → Timestamp) :
    server.lockedCandidate db userId clock ≠ none := by
  unfold Server.lockedCandidate
  split
  · exact nofun
  · exact server.candidate_ne_none _ _ _ _

theorem Server.record_writes (keyed : (db.tasks.map Task.pk).Nodup)
    (attemptId checkRunId : Key) (clock : Nat → Timestamp) :
    Writes server db (fun failure => failure = .unconfirmed)
      (server.recordCompletionAfterSuccess db attemptId checkRunId clock) := by
  unfold Server.recordCompletionAfterSuccess
  split
  · exact .unchanged _
  refine .ensure rfl fun _ => ?_
  split
  · exact .unchanged _
  · rename_i attempt _ _ _ _ _
    cases found : server.lockedCandidate db attempt.userId clock with
    | none => exact (server.lockedCandidate_ne_none _ _ _ found).elim
    | some candidate =>
        change Writes server db _ (server.recordCandidate db attempt candidate)
        unfold Server.recordCandidate
        split
        · rename_i ready
          obtain ⟨_, _, _, complete⟩ :=
            Server.lockedCandidate_isComplete keyed found ready.1
          exact Server.store_writes complete _
        · exact .unchanged _

/-- What a restoration may be refused for. -/
def IsRefusal : Failure → Prop
  | .compositionChanged => True
  | .unproven _ => True
  | _ => False

theorem Server.restore_writes (keyed : (db.tasks.map Task.pk).Nodup)
    (userId : Key) (expectedFingerprint : String) (clock : Nat → Timestamp) :
    Writes server db IsRefusal
      (server.restoreProgramCompletion db userId expectedFingerprint
        clock) := by
  unfold Server.restoreProgramCompletion
  split
  · exact .unchanged _
  · cases found : server.lockedCandidate db userId clock with
    | none => exact (server.lockedCandidate_ne_none _ _ _ found).elim
    | some candidate =>
        refine .ensure trivial fun _ => .ensure trivial fun eligible => ?_
        obtain ⟨_, _, _, complete⟩ :=
          Server.lockedCandidate_isComplete keyed found eligible
        exact Server.store_writes complete _

/-- How the builder and the validation agree. -/
structure Agrees (server : Server) (db : Db) (userId : Key)
    (clock : Nat → Timestamp) : Prop where
  built : ∀ tasks, (tasks.map Task.pk).Nodup →
      ∀ candidate, server.candidate db userId tasks clock = some candidate →
        candidate.eligible = true → ∃ completed,
            IsComplete server db userId tasks clock candidate completed
  program :
    ∀ candidate, server.lockedCandidate db userId clock = some candidate →
      candidate.eligible = true →
        ∃ queue completed, activeQueue? db = some queue ∧
          (∀ task, task ∈ activeTasks db queue ↔
            task ∈ db.tasks ∧ task.queueId = queue.pk ∧ task.isActive = true) ∧
            IsComplete server db userId (activeTasks db queue) clock
              candidate completed
  recorded : ∀ attemptId checkRunId,
      Writes server db (fun failure => failure = .unconfirmed)
        (server.recordCompletionAfterSuccess db attemptId checkRunId clock)
  restored : ∀ expectedFingerprint, Writes server db IsRefusal
        (server.restoreProgramCompletion db userId expectedFingerprint clock)
  defective : ∀ completion, IsDefective server completion →
      ∃ error, server.validateCompletionSnapshot completion = .error error
  foreign : ∀ completion key taskIds, completion.compositionFingerprint =
          server.compositionFingerprint key taskIds →
        composition key taskIds ≠ composition completion.programKey
              (completion.tasks.filterMap taskId?) →
          (∀ payload, server.digest payload = server.digest
                  (composition completion.programKey
                    (completion.tasks.filterMap taskId?)) →
              payload = composition completion.programKey
                  (completion.tasks.filterMap taskId?)) →
            ∃ error, server.validateCompletionSnapshot completion = .error error

theorem Server.refused_of_not_accepted
    (other : ¬ IsAccepted server completion) :
    ∃ error, server.validateCompletionSnapshot completion = .error error := by
  cases validated : server.validateCompletionSnapshot completion with
  | error error => exact ⟨error, rfl⟩
  | ok result => exact (other (Server.validate_isAccepted validated)).elim

/-- An eligible candidate lists every active task once, with evidence that has
come, and its completion is accepted; a defective completion is refused. -/
theorem candidate_agrees {db : Db} (keyed : (db.tasks.map Task.pk).Nodup)
    (server : Server) (userId : Key) (clock : Nat → Timestamp) :
    Agrees server db userId clock := by
  refine ⟨?_, ?_, ?_, ?_, ?_, ?_⟩
  · intro tasks different candidate found eligible
    exact Server.candidate_isComplete different found eligible
  · intro candidate found eligible
    obtain ⟨queue, completed, isQueue, complete⟩ :=
      Server.lockedCandidate_isComplete keyed found eligible
    exact ⟨queue, completed, isQueue, fun _ => mem_activeTasks, complete⟩
  · intro attemptId checkRunId
    exact Server.record_writes keyed attemptId checkRunId clock
  · intro expectedFingerprint
    exact Server.restore_writes keyed userId expectedFingerprint clock
  · intro completion defective
    exact Server.refused_of_not_accepted defective.not_accepted
  · intro completion key taskIds isForeign different collisionFree
    refine Server.refused_of_not_accepted fun accepted => different ?_
    exact collisionFree _ (isForeign.symm.trans accepted.fingerprint)

/-- Noon of a day of January. -/
def sampleDate (day : Nat) (within : 1 ≤ day ∧ day ≤ 31) : DateTime where
  year := 2026
  month := 1
  day
  hour := 12
  minute := 0
  second := 0
  microsecond := 0
  isCalendar := ⟨by decide, by decide, within, by decide, by decide, by decide,
      by decide⟩

/-- One task with a run and one with a time, both passed at a first attempt.
-/
def sampleDb : Db where
  queues := [{ pk := 1, slug := "l1", isActive := true }]
  tasks :=
    [{ pk := 2, queueId := 1, slug := "a", order := 2, isActive := true },
      { pk := 1, queueId := 1, slug := "b", order := 1, isActive := true }]
  attempts :=
    [{ pk := 1
       userId := 5
       taskId := 1
       attemptNumber := 1
       technicalPassedAt := some (sampleDate 2 (by decide)) },
      { pk := 2
        userId := 5
        taskId := 2
        attemptNumber := 1
        technicalPassedAt := none }]
  runs :=
    [{ pk := 9
       attemptId := 2
       result := .passed
       exitCode := 0
       createdAt := sampleDate 1 (by decide) }]
  completions := []

/-- A server with a digest of the tasks. -/
def sampleServer : Server where
  others := fun _ => none
  digest := fun payload => payload.programKey ++ toString payload.taskIds

/-- The candidate of the example is eligible. -/
example :
    (sampleServer.lockedCandidate sampleDb 5 fun _ =>
        (sampleDate 3 (by decide)).instant).map
      CompletionCandidate.eligible = some true := by
  decide

theorem candidate_agrees_sample :
    Agrees sampleServer sampleDb 5 fun _ =>
      (sampleDate 3 (by decide)).instant :=
  candidate_agrees (by decide) sampleServer 5 _

end TicketSandbox.Sandbox.Completions
