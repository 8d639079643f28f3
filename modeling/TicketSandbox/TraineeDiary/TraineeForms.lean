import TicketSandbox.TraineeDiary.Completions

namespace TicketSandbox.TraineeDiary

/-!
# Editing a card

`EditTraineeForm` changes the start of the probation and the type of the entry
of a card that is loaded for it, and the checks that the audit makes of the
rows of a history.
-/

open Attempts
open Sandbox (Pk Text strip)

/-! ## The form -/

/-- What `EditTraineeForm` is submitted with for the card. -/
structure EditSubmission where
  entryType : EntryType
  probationStartDate : Day
  comment : Text

variable (session : Session)

/-- `_can_shift_initial_stage_start`. -/
def Session.CanShiftInitialStageStart : Prop :=
  session.journey.stageStartedAt = session.journey.probationStartDate ∧
    session.diary.history.length = 1 ∧
    ∃ row ∈ session.diary.history,
      row.stageId = session.journey.currentStageId ∧ row.endedAt = none
  deriving Decidable

/-- The errors that the form adds to the type of the entry. -/
def editEntryTypeErrors (stage : TraineeStage)
    (submission : EditSubmission) : List (String × String) :=
  if ¬ submission.entryType.IsKnown then
    [("entry_type", "invalid_choice")]
  else if stage.appliesToEntryType submission.entryType = false then
    [("entry_type", "Текущий этап не применим к выбранному типу входа.")]
  else
    []

/-- `EditTraineeForm.clean`, of a card on the stage. -/
def editClean (stage : TraineeStage) (submission : EditSubmission)
    (today : Day) : List (String × String) :=
  editEntryTypeErrors stage submission ++
    (if today < submission.probationStartDate then
      [("probation_start_date",
        "Дата начала испытательного срока не может быть в будущем.")]
    else
      []) ++
    if ¬ session.CanShiftInitialStageStart ∧
        session.journey.stageStartedAt < submission.probationStartDate then
      [("probation_start_date",
        "Дата начала испытательного срока не может быть позже " ++
          "начала текущего этапа.")]
    else
      []

/-- The object with what was submitted. -/
def TraineeJourney.edited
    (journey : TraineeJourney) (submission : EditSubmission)
    (shifts : Bool) : TraineeJourney :=
  { journey with
    entryType := submission.entryType
    probationStartDate := submission.probationStartDate
    comment := submission.comment
    stageStartedAt :=
      if shifts = true then submission.probationStartDate
      else journey.stageStartedAt }

/-- The row with the fields of the object that the form updates. -/
def TraineeJourney.withEditOf
    (row journey : TraineeJourney) (shifts : Bool) : TraineeJourney :=
  { row with
    entryType := journey.entryType
    probationStartDate := journey.probationStartDate
    comment := journey.comment
    stageStartedAt :=
      if shifts = true then journey.stageStartedAt else row.stageStartedAt }

/-- The history with the open rows of the stage begun at the date. -/
def beginAt (stageId : Pk) (date : Day)
    (history : List StageHistory) : List StageHistory :=
  history.map fun row =>
    if row.stageId = stageId ∧ row.endedAt = none then
      { row with startedAt := date }
    else
      row

/-- The initial stage is shifted with the start of the probation. -/
def Session.shifts (submission : EditSubmission) : Bool :=
  decide (session.CanShiftInitialStageStart ∧
      session.journey.probationStartDate ≠ submission.probationStartDate)

/-- `EditTraineeForm.save`. -/
def editSave (submission : EditSubmission) (today : Day) : Op PUnit :=
  atomic do
    let session ← inspect
    let shifts := session.shifts submission
    assign fun journey => journey.edited submission shifts
    fullClean today
    let cleaned ← inspect
    write fun diary =>
      { diary with
        journey := diary.journey.withEditOf cleaned.journey shifts
        history :=
          if shifts = true then
            beginAt cleaned.journey.currentStageId
              submission.probationStartDate diary.history
          else
            diary.history }

/-! ## The audit of a history -/

/-- A problem that `build_report` finds in the rows of a history. -/
inductive HistoryProblem where
  | historyStartDateMismatch
  | historyStageNotApplicable
  | invalidHistoryStartDate

/-- The stage is in the catalog of the scheme, for the type of the entry. -/
def AuditApplies (stage : TraineeStage) (journey : TraineeJourney) : Prop :=
  stage.appliesToEntryType journey.entryType = true ∧
    (stage.catalogScope = journey.stageScheme.scope ∨
      stage.catalogScope = .shared)
  deriving Decidable

/-- The problems of one row. -/
def rowProblems
    (diary : Diary) (today : Day) (row : StageHistory) : List HistoryProblem :=
  Findings.when (∃ stage ∈ stage? diary.stages row.stageId,
        ¬ AuditApplies stage diary.journey)
      .historyStageNotApplicable ++
    Findings.when (¬ (diary.journey.probationStartDate ≤ row.startedAt ∧
        row.startedAt ≤ today))
      .invalidHistoryStartDate

/-- The problems of the rows of a card. -/
def historyProblems (diary : Diary) (today : Day) : List HistoryProblem :=
  Findings.when (∃ entry ∈ (chronological diary.history).head?,
        entry.startedAt ≠ diary.journey.probationStartDate)
      .historyStartDateMismatch ++
    diary.history.flatMap (rowProblems diary today)

/-- Neither the check nor the audit finds anything in the card. -/
structure Diary.IsHealthy
    (diary : Diary) (stage : TraineeStage) (today : Day) : Prop where
  checked : checkJourneyIntegrity diary.load stage today = []
  audited : historyProblems diary today = []

/-- What an edit needs to leave nothing to find. -/
structure Diary.CanEdit (diary : Diary) (stage : TraineeStage)
    (submission : EditSubmission) : Prop where
  date : submission.probationStartDate = diary.journey.probationStartDate ∨
      diary.load.CanShiftInitialStageStart ∧ stage.group ≠ .done
  entryType : ∀ row ∈ diary.history, ∀ other ∈ stage? diary.stages row.stageId,
      other.appliesToEntryType submission.entryType = true

/-! ## What the form leaves -/

/-- The rows that a saved form leaves. -/
def Diary.edited (diary : Diary) (submission : EditSubmission) : Diary :=
  { diary with
    journey := diary.journey.edited submission (diary.load.shifts submission)
    history :=
      if diary.load.shifts submission = true then
        beginAt diary.journey.currentStageId submission.probationStartDate
          diary.history
      else
        diary.history }

variable {diary : Diary} {submission : EditSubmission} {today later : Day}
  {stage : TraineeStage} {row : StageHistory}

theorem editSave_returned {next : Session} {result : PUnit}
    (ran : editSave submission today diary.load = (.returned result, next)) :
    (∃ stage ∈ stage? diary.stages diary.journey.currentStageId,
        clean stage diary.journey.stageScheme
          (diary.edited submission).journey today = []) ∧
      next = (diary.edited submission).load := by
  unfold editSave atomic at ran
  have inner := restoring_returned.mp ran
  obtain ⟨_, _, isRead, inner⟩ := bind_returned.mp inner
  obtain ⟨rfl, rfl⟩ := inspect_returned.mp isRead
  obtain ⟨_, assigned, isAssigned, inner⟩ := bind_returned.mp inner
  obtain rfl := change_returned.mp isAssigned
  obtain ⟨_, _, isCleaned, inner⟩ := bind_returned.mp inner
  obtain ⟨isClean, rfl⟩ := fullClean_returned isCleaned
  obtain ⟨_, _, isRead, inner⟩ := bind_returned.mp inner
  obtain ⟨rfl, rfl⟩ := inspect_returned.mp isRead
  obtain rfl := change_returned.mp inner
  obtain ⟨stage, found, -, noErrors⟩ := isClean
  refine ⟨⟨stage, found, noErrors⟩, ?_⟩
  have sameJourney : diary.journey.withEditOf
          (diary.journey.edited submission (diary.load.shifts submission))
          (diary.load.shifts submission) =
        diary.journey.edited submission (diary.load.shifts submission) := by
    unfold TraineeJourney.withEditOf TraineeJourney.edited
    cases diary.load.shifts submission <;> rfl
  exact congrArg (fun row =>
        Session.mk { diary.edited submission with journey := row }
          (diary.edited submission).journey)
      sameJourney

theorem historyProblems_eq_nil :
    historyProblems diary today = [] ↔
      (∀ entry ∈ (chronological diary.history).head?,
          entry.startedAt = diary.journey.probationStartDate) ∧
        ∀ row ∈ diary.history, (∀ stage ∈ stage? diary.stages row.stageId,
              AuditApplies stage diary.journey) ∧
            diary.journey.probationStartDate ≤ row.startedAt ∧
            row.startedAt ≤ today := by
  unfold historyProblems rowProblems
  rw [List.append_eq_nil_iff, Findings.when_eq_nil, Findings.flatMap_eq_nil]
  simp only [List.append_eq_nil_iff, Findings.when_eq_nil, not_exists,
    not_and, not_not, Classical.not_imp]

theorem Diary.InOrder.head (inOrder : diary.InOrder stage today) :
    ∃ entry ∈ (chronological diary.history).head?,
      entry.startedAt = diary.journey.probationStartDate := by
  obtain ⟨earlier, last, shape, -, -⟩ := inOrder.consistent.split
  have first := inOrder.first
  cases isList : chronological diary.history with
  | nil =>
      rw [isList] at shape
      exact absurd shape.symm (List.concat_ne_nil last earlier)
  | cons entry rest =>
      rw [isList] at first
      exact ⟨entry, rfl, first entry rfl⟩

theorem date_of_healthy (healthy : diary.IsHealthy stage today)
    (after : (diary.edited submission).IsHealthy stage today) :
    submission.probationStartDate = diary.journey.probationStartDate ∨
      diary.load.CanShiftInitialStageStart ∧ stage.group ≠ .done := by
  obtain ⟨inOrder, complete⟩ :=
    (checkJourneyIntegrity_eq_nil _ _ _).mp healthy.checked
  obtain ⟨inOrderAfter, -⟩ :=
    (checkJourneyIntegrity_eq_nil _ _ _).mp after.checked
  by_cases sameDate :
      submission.probationStartDate = diary.journey.probationStartDate
  · exact .inl sameDate
  · right
    by_cases can : diary.load.CanShiftInitialStageStart
    · refine ⟨can, fun isDone => sameDate ?_⟩
      have shifts : diary.load.shifts submission = true :=
        decide_eq_true ⟨can, fun same => sameDate same.symm⟩
      obtain ⟨completed, isCompleted⟩ :=
        Option.ne_none_iff_exists'.mp (complete isDone).2
      have started :=
        (inOrder.completion.dates completed isCompleted).2.2 isDone
      have startedAfter :=
        (inOrderAfter.completion.dates completed isCompleted).2.2 isDone
      have isShifted : (diary.edited submission).journey.stageStartedAt =
            submission.probationStartDate := by
        unfold Diary.edited TraineeJourney.edited
        simp [shifts]
      rw [← isShifted, startedAfter, ← started]
      exact can.1
    · have stays : diary.load.shifts submission = false :=
        decide_eq_false fun both => can both.1
      have sameHistory : (diary.edited submission).history = diary.history := by
        unfold Diary.edited
        simp [stays]
      obtain ⟨entry, isFirst, started⟩ := inOrder.head
      have startedAfter := inOrderAfter.first
      rw [sameHistory] at startedAfter
      exact absurd ((startedAfter entry isFirst).symm.trans started) sameDate

theorem Diary.mem_edited (member : row ∈ diary.history) :
    ∃ other ∈ (diary.edited submission).history,
      other.stageId = row.stageId := by
  unfold Diary.edited
  simp only
  split
  · refine ⟨_, List.mem_map_of_mem member, ?_⟩
    split <;> rfl
  · exact ⟨row, member, rfl⟩

theorem entryType_of_healthy
    (after : (diary.edited submission).IsHealthy stage today)
    (member : row ∈ diary.history) {other : TraineeStage}
    (found : stage? diary.stages row.stageId = some other) :
    other.appliesToEntryType submission.entryType = true := by
  obtain ⟨-, rows⟩ := historyProblems_eq_nil.mp after.audited
  obtain ⟨edited, isEdited, sameStage⟩ :=
    @Diary.mem_edited diary submission row member
  exact ((rows edited isEdited).1 other (by rw [sameStage]; exact found)).1

/-! ## Edits that keep a card healthy -/

theorem healthy_of_inOrder
    (inOrder : diary.InOrder stage today) (complete : stage.group = .done →
        diary.journey.completionStatus ≠ .empty ∧
          diary.journey.completedAt ≠ none)
    (applies : ∀ row ∈ diary.history, ∀ other ∈ stage? diary.stages row.stageId,
        AuditApplies other diary.journey) :
    diary.IsHealthy stage today := by
  refine ⟨(checkJourneyIntegrity_eq_nil _ _ _).mpr ⟨inOrder, complete⟩,
      historyProblems_eq_nil.mpr ⟨inOrder.first, fun row member => ?_⟩⟩
  exact ⟨applies row member, inOrder.le_startedAt member,
      Nat.le_trans (inOrder.consistent.startedAt_le member) inOrder.notFuture⟩

theorem edited_applies (healthy : diary.IsHealthy stage today)
    (can : diary.CanEdit stage submission) :
    ∀ row ∈ (diary.edited submission).history,
      ∀ other ∈ stage? (diary.edited submission).stages row.stageId,
        AuditApplies other (diary.edited submission).journey := by
  obtain ⟨-, rows⟩ := historyProblems_eq_nil.mp healthy.audited
  have old : ∀ row ∈ diary.history, ∀ other ∈ stage? diary.stages row.stageId,
        AuditApplies other (diary.edited submission).journey :=
    fun row member other found =>
      ⟨can.entryType row member other found,
        ((rows row member).1 other found).2⟩
  intro row member other found
  unfold Diary.edited at member
  simp only at member
  split at member
  · obtain ⟨before, isBefore, isEdited⟩ := List.mem_map.mp member
    have sameStage : row.stageId = before.stageId := by
      rw [← isEdited]
      split <;> rfl
    rw [sameStage] at found
    exact old before isBefore other found
  · exact old row member other found

theorem Diary.edited_of_stays (stays : diary.load.shifts submission = false) :
    diary.edited submission =
      { diary with
        journey :=
          { diary.journey with
            entryType := submission.entryType
            probationStartDate := submission.probationStartDate
            comment := submission.comment } } := by
  unfold Diary.edited TraineeJourney.edited
  simp [stays]

theorem Diary.edited_of_shifts (can : diary.load.CanShiftInitialStageStart)
    (shifts : diary.load.shifts submission = true) :
    ∃ row, diary.history = [row] ∧ row.endedAt = none ∧
      diary.edited submission =
        { diary with
          journey :=
            { diary.journey with
              entryType := submission.entryType
              probationStartDate := submission.probationStartDate
              comment := submission.comment
              stageStartedAt := submission.probationStartDate }
          history :=
            [{ row with startedAt := submission.probationStartDate }] } := by
  obtain ⟨-, isOne, row, member, isStage, isOpen⟩ := can
  obtain ⟨only, isOnly⟩ := List.length_eq_one_iff.mp isOne
  change diary.history = [only] at isOnly
  change row ∈ diary.history at member
  rw [isOnly] at member
  obtain rfl := List.mem_singleton.mp member
  refine ⟨row, isOnly, isOpen, ?_⟩
  unfold Diary.edited TraineeJourney.edited beginAt
  simp [shifts, isOnly, isOpen, show row.stageId = diary.journey.currentStageId
    from isStage]

theorem clean_applies {stored : StageScheme} {journey : TraineeJourney}
    (noErrors : clean stage stored journey today = []) :
    StageApplies stage journey.stageScheme journey.entryType := by
  unfold clean at noErrors
  by_cases completed : journey.HasCompletionData
  · simp only [completed, ↓reduceIte, putErrorIf_eq_nil,
      cleanCompletedAt_eq_nil, cleanCompletionStatus_eq_nil, not_not]
      at noErrors
    obtain ⟨-, -, -, -, -, applies, -⟩ := noErrors
    exact applies
  · simp only [completed, ↓reduceIte, putErrorIf_eq_nil, not_not] at noErrors
    exact noErrors.2.1

theorem edited_inOrder_stays (inOrder : diary.InOrder stage today) (applies :
      StageApplies stage diary.journey.stageScheme submission.entryType)
    (sameDate :
      submission.probationStartDate = diary.journey.probationStartDate)
    (passes : today ≤ later) :
    (diary.edited submission).InOrder stage later := by
  have stays : diary.load.shifts submission = false :=
    decide_eq_false fun both => both.2 sameDate.symm
  rw [Diary.edited_of_stays stays, sameDate]
  have consistent := inOrder.consistent
  have completion := inOrder.completion
  exact
    { begun := inOrder.begun
      notFuture := Nat.le_trans inOrder.notFuture passes
      applies := applies
      consistent :=
        ⟨consistent.openRow, consistent.contiguous, consistent.intervals⟩
      first := inOrder.first
      completion :=
        ⟨completion.outside, completion.known, completion.reason,
          fun completed isCompleted =>
            ⟨(completion.dates completed isCompleted).1,
              Nat.le_trans (completion.dates completed isCompleted).2.1 passes,
              (completion.dates completed isCompleted).2.2⟩⟩ }

theorem edited_inOrder_shifts (inOrder : diary.InOrder stage today) (applies :
      StageApplies stage diary.journey.stageScheme submission.entryType)
    (can : diary.load.CanShiftInitialStageStart) (notDone : stage.group ≠ .done)
    (shifts : diary.load.shifts submission = true)
    (notFuture : submission.probationStartDate ≤ today)
    (passes : today ≤ later) :
    (diary.edited submission).InOrder stage later := by
  obtain ⟨row, isOnly, isOpen, isEdited⟩ := Diary.edited_of_shifts can shifts
  obtain ⟨current, inHistory, -, isCurrent, -⟩ := inOrder.consistent.current
  rw [isOnly] at inHistory
  obtain rfl := List.mem_singleton.mp inHistory
  obtain ⟨isEmpty, noDate, noComment, noUser⟩ :=
    inOrder.completion.outside notDone
  rw [isEdited]
  refine
    { begun := Nat.le_refl _
      notFuture := Nat.le_trans notFuture passes
      applies := applies
      consistent := ?_
      first := ?_
      completion :=
        ⟨fun _ => ⟨isEmpty, noDate, noComment, noUser⟩,
          inOrder.completion.known, inOrder.completion.reason, ?_⟩ }
  · refine ⟨⟨{ current with startedAt := submission.probationStartDate }, ?_,
          isCurrent, rfl⟩,
        .singleton _, ?_⟩
    · simp [isOpen]
    · intro other member ended isEnded
      obtain rfl := List.mem_singleton.mp member
      change ended ∈ current.endedAt at isEnded
      rw [isOpen] at isEnded
      cases isEnded
  · intro entry isFirst
    obtain rfl := Option.some.inj isFirst
    rfl
  · intro completed isCompleted
    change completed ∈ diary.journey.completedAt at isCompleted
    rw [noDate] at isCompleted
    cases isCompleted

/--
A form that was accepted and saved for a healthy card leaves it healthy on
every later day exactly when the start of the probation stays or the only
visit is shifted with it, not on a final stage, and every visit is of a stage
that applies to the type of the entry.
-/
theorem editSave_healthy {diary : Diary} {stage : TraineeStage}
    {submission : EditSubmission} {today : Day} {next : Session}
    (found : stage? diary.stages diary.journey.currentStageId = some stage)
    (healthy : diary.IsHealthy stage today)
    (accepted : editClean diary.load stage submission today = [])
    (ran : editSave submission today diary.load = (.returned .unit, next)) :
    (∀ later, today ≤ later → next.diary.IsHealthy stage later) ↔
      diary.CanEdit stage submission := by
  obtain ⟨⟨other, foundOther, noErrors⟩, rfl⟩ := editSave_returned ran
  obtain rfl : stage = other := Option.some.inj (found.symm.trans foundOther)
  have applies := clean_applies noErrors
  constructor
  · intro after
    have now := after today (Nat.le_refl today)
    exact ⟨date_of_healthy healthy now, fun row member other isOther =>
        entryType_of_healthy now member isOther⟩
  · intro can later passes
    obtain ⟨inOrder, complete⟩ :=
      (checkJourneyIntegrity_eq_nil _ _ _).mp healthy.checked
    have notFuture : submission.probationStartDate ≤ today := by
      unfold editClean at accepted
      obtain ⟨noType, -⟩ := List.append_eq_nil_iff.mp accepted
      obtain ⟨-, noFuture⟩ := List.append_eq_nil_iff.mp noType
      by_contra isFuture
      rw [if_pos (Nat.lt_of_not_le isFuture)] at noFuture
      cases noFuture
    have editedInOrder : (diary.edited submission).InOrder stage later := by
      by_cases sameDate :
          submission.probationStartDate = diary.journey.probationStartDate
      · exact edited_inOrder_stays inOrder applies sameDate passes
      · obtain ⟨shiftable, notDone⟩ := can.date.resolve_left sameDate
        exact edited_inOrder_shifts inOrder applies shiftable notDone
            (decide_eq_true ⟨shiftable, fun same => sameDate same.symm⟩)
            notFuture passes
    exact healthy_of_inOrder editedInOrder complete (edited_applies healthy can)

/-- A card that was moved once, three days after the start of its probation. -/
def movedDiary : Diary :=
  { stages := [sampleStage 1 .teachbase, sampleStage 2 .noReview]
    journey := { sampleJourney 2 0 with stageStartedAt := 3 }
    history :=
      [{ id := 1
         journeyId := 1
         stageId := 1
         startedAt := 0
         endedAt := some 3
         changedById := none
         note := [] },
        { id := 2
          journeyId := 1
          stageId := 2
          startedAt := 3
          endedAt := none
          changedById := none
          note := [] }]
    metrics := []
    transfer := none
    historySequence := 3 }

/-- A form that is submitted with the start of the probation. -/
def submitted (date : Day) : EditSubmission :=
  { entryType := .newHire
    probationStartDate := date
    comment := [] }

theorem movedDiary_healthy : movedDiary.IsHealthy (sampleStage 2 .noReview) 9 :=
  ⟨by decide, by decide⟩

/-- A card on its first stage, since the start of its probation. -/
def openDiary : Diary :=
  { movedDiary with
    journey := sampleJourney 1 0
    history :=
      [{ id := 1
         journeyId := 1
         stageId := 1
         startedAt := 0
         endedAt := none
         changedById := none
         note := [] }] }

/-- A form that moves the start of the probation and the type of the entry. -/
def transferred : EditSubmission :=
  { submitted 4 with entryType := .internalTransfer }

theorem editSave_healthy_shifted :
    (openDiary.edited transferred).journey.stageStartedAt = 4 ∧
      ((∀ later, 9 ≤ later → (openDiary.edited transferred).IsHealthy
            (sampleStage 1 .teachbase) later) ↔
        openDiary.CanEdit (sampleStage 1 .teachbase) transferred) :=
  ⟨by decide, @editSave_healthy openDiary (sampleStage 1 .teachbase) transferred
    9 (openDiary.edited transferred).load rfl ⟨by decide, by decide⟩ (by decide)
    rfl⟩

/-- A form that moves the start of the probation after the first visit is
accepted and saved, and the card is not healthy. -/
theorem editSave_moved_start :
    movedDiary.IsHealthy (sampleStage 2 .noReview) 9 ∧
      editClean movedDiary.load (sampleStage 2 .noReview) (submitted 2) 9 = [] ∧
      editSave (submitted 2) 9 movedDiary.load =
        (.returned .unit, (movedDiary.edited (submitted 2)).load) ∧
      ¬ (movedDiary.edited (submitted 2)).IsHealthy
        (sampleStage 2 .noReview) 9 := by
  refine ⟨movedDiary_healthy, by decide, rfl, fun healthy => ?_⟩
  exact absurd healthy.audited (by decide)

end TicketSandbox.TraineeDiary
