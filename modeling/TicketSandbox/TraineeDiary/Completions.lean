import TicketSandbox.TraineeDiary.IntegrityFacts

namespace TicketSandbox.TraineeDiary

/-!
# Completions that are proven

What `_probation` of the roadmap and the evaluator `probation` of the
achievements make of a card, and what `complete_probation` leaves for them.
-/

open Attempts
open Sandbox (Pk Text strip)

/-! ## Readers of the completion -/

/-- What `_probation` answers. -/
inductive ProbationOutcome where
  | active
  | insufficientData
  | success
  | terminated

/-- The completion is dated within the probation, at the start of the final
stage. -/
def TraineeJourney.HasProvenDate
    (journey : TraineeJourney) (today : Day) : Prop :=
  (∃ completed ∈ journey.completedAt,
      (journey.probationStartDate ≤ completed ∧ completed ≤ today) ∧
        journey.stageStartedAt = completed) ∧
    journey.completedById ≠ none
  deriving Decidable

/-- `_probation`, of a card on the stage. -/
def probation (journey : TraineeJourney) (stage : TraineeStage)
    (today : Day) : ProbationOutcome :=
  if stage.group ≠ .done then
    if journey.completionStatus = .empty then .active else .insufficientData
  else if ¬ journey.HasProvenDate today then
    .insufficientData
  else if journey.completionStatus = .success then
    .success
  else if journey.completionStatus = .terminated ∧
      strip journey.completionComment ≠ [] then
    .terminated
  else
    .insufficientData

/-- What the evaluator `probation` answers.  The tier of an eligible card is
chosen by the number of its days. -/
inductive ProbationEvaluation where
  | notMet (reason : String)
  | unknown (reason : String)
  | eligible (dayNumber : Nat)

/-- The evaluator `probation`, of a card on the stage that the user completed.
-/
def evaluateProbation
    (session : Session) (stage : TraineeStage) (completedBy : Option User)
    (today : Day) : ProbationEvaluation :=
  if session.journey.completionStatus = .terminated then
    .notMet "probation_terminated"
  else if session.journey.completionStatus ≠ .success then
    .notMet "no_successful_completion"
  else
    match session.journey.completedAt with
    | none => .unknown "unconfirmed_or_inconsistent_completion"
    | some completed =>
        if (completed < session.journey.probationStartDate ∨
              today < completed) ∨
            stage.group ≠ .done ∨
            session.journey.stageStartedAt ≠ completed ∨
            (¬ ∃ user ∈ completedBy, user.isStaff = true) ∨
            historyFor? session today = none then
          .unknown "unconfirmed_or_inconsistent_completion"
        else
          .eligible (completed - session.journey.probationStartDate + 1)

/-! ## Errors of `clean` -/

theorem putError_ne_nil
    (field text : String) (errors : List (String × String)) :
    putError field text errors ≠ [] := by
  simp [putError]

variable {errors : List (String × String)}

theorem putErrorIf_eq_nil
    {condition : Prop} [Decidable condition] {field text : String} :
    putErrorIf condition field text errors = [] ↔
      ¬ condition ∧ errors = [] := by
  unfold putErrorIf
  split
  next holds => simp [putError_ne_nil, holds]
  next fails => simp [fails]

variable {journey : TraineeJourney} {today : Day}
  {stage final newStage : TraineeStage} {diary next : Diary}
  {completedBy changedBy : Option User} {note comment : Text}

theorem cleanCompletedAt_eq_nil :
    cleanCompletedAt journey today errors = [] ↔ (∃ date ∈ journey.completedAt,
          journey.probationStartDate ≤ date ∧ date ≤ today) ∧
        errors = [] := by
  unfold cleanCompletedAt
  cases journey.completedAt with
  | none => simp [putError_ne_nil]
  | some completedAt =>
      simp only [Option.mem_some_iff, exists_eq_left']
      split
      next before => simp [putError_ne_nil, Nat.not_le_of_lt before]
      next notBefore => simp [putErrorIf_eq_nil, Nat.le_of_not_lt notBefore]

theorem cleanCompletionStatus_eq_nil :
    cleanCompletionStatus journey errors = [] ↔
      journey.completionStatus.IsKnown ∧ errors = [] := by
  unfold cleanCompletionStatus
  split
  next isEmpty => simp [putError_ne_nil, isEmpty, CompletionStatus.IsKnown]
  next => simp [putErrorIf_eq_nil]

theorem clean_completed
    {stored : StageScheme} (noErrors : clean stage stored journey today = [])
    (completed : journey.HasCompletionData) :
    StageApplies stage journey.stageScheme journey.entryType ∧
      stage.group = .done ∧ journey.completionStatus.IsKnown ∧
      (∃ date ∈ journey.completedAt,
        journey.probationStartDate ≤ date ∧ date ≤ today) ∧
      (journey.completionStatus = .terminated →
        strip journey.completionComment ≠ []) := by
  unfold clean at noErrors
  simp only [completed, ↓reduceIte, putErrorIf_eq_nil,
    cleanCompletedAt_eq_nil, cleanCompletionStatus_eq_nil, not_not, not_and,
    ne_eq] at noErrors
  obtain ⟨reason, dated, known, isDone, -, applies, -⟩ := noErrors
  exact ⟨applies, isDone, known, dated, reason⟩

/-! ## `complete_probation` -/

/-- The completion is proven for every reader. -/
structure Session.IsProven
    (session : Session) (completedBy : Option User) (today : Day) : Prop where
  proven : ∃ stage ∈ stage? session.diary.stages session.journey.currentStageId,
      checkJourneyIntegrity session stage today = [] ∧
        session.journey.completedAt = some session.journey.stageStartedAt ∧
        (probation session.journey stage today = .success ∨
          probation session.journey stage today = .terminated) ∧
        ∀ reason,
          evaluateProbation session stage completedBy today ≠ .unknown reason

/-- What a completion needs to be proven. -/
structure Diary.CanBeProven
    (diary : Diary) (stage : TraineeStage) (status : CompletionStatus)
    (date : Day) (completedBy : Option User) : Prop where
  date : stage.group = .done → date = diary.journey.stageStartedAt
  confirmed : completedBy ≠ none
  success : status = .success →
      (∃ user ∈ completedBy, user.isStaff = true) ∧ diary.VisitsApply

/-- The card that a completion left: its fields, its history and the dates of
its stage. -/
structure Diary.CompletedFrom
    (diary : Diary) (stage : TraineeStage) (status : CompletionStatus)
    (date : Day) (completedBy : Option User) (today : Day) (next : Diary)
    (final : TraineeStage) : Prop where
  found : stage? next.stages next.journey.currentStageId = some final
  applies : StageApplies final next.journey.stageScheme next.journey.entryType
  isDone : final.group = .done
  known : next.journey.completionStatus.IsKnown
  status : next.journey.completionStatus = status
  completedAt : next.journey.completedAt = some date
  completedById : next.journey.completedById = completedBy.map User.id
  reason : next.journey.completionStatus = .terminated →
      strip next.journey.completionComment ≠ []
  within : next.journey.probationStartDate ≤ date ∧ date ≤ today
  begun : next.journey.probationStartDate ≤ next.journey.stageStartedAt
  notFuture : next.journey.stageStartedAt ≤ today
  consistent : next.IsConsistent
  first : ∀ entry ∈ (chronological next.history).head?,
      entry.startedAt = next.journey.probationStartDate
  stayed : stage.group = .done →
      next.journey.stageStartedAt = diary.journey.stageStartedAt
  moved : stage.group ≠ .done → next.journey.stageStartedAt = date
  visits : next.VisitsApply ↔ diary.VisitsApply

variable {status : CompletionStatus} {date : Day}

theorem Diary.CompletedFrom.inOrder_iff (completed :
      diary.CompletedFrom stage status date completedBy today next final) :
    next.InOrder final today ↔ next.journey.stageStartedAt = date := by
  constructor
  · intro inOrder
    exact
      (inOrder.completion.dates date completed.completedAt).2.2 completed.isDone
  · intro same
    refine ⟨completed.begun, completed.notFuture, completed.applies,
        completed.consistent, completed.first, ?_⟩
    refine ⟨fun notDone => absurd completed.isDone notDone,
        fun _ => completed.known, completed.reason, ?_⟩
    intro other isOther
    have isDate := completed.completedAt
    rw [isOther] at isDate
    obtain rfl := Option.some.inj isDate
    exact ⟨completed.within.1, completed.within.2, fun _ => same⟩

theorem Diary.CompletedFrom.probation_iff (completed :
      diary.CompletedFrom stage status date completedBy today next final)
    (same : next.journey.stageStartedAt = date) :
    (probation next.journey final today = .success ∨
        probation next.journey final today = .terminated) ↔
      completedBy ≠ none := by
  have hasDate : next.journey.HasProvenDate today ↔ completedBy ≠ none := by
    unfold TraineeJourney.HasProvenDate
    rw [completed.completedById, completed.completedAt, same]
    simp [completed.within]
  unfold probation
  rw [if_neg (not_not.mpr completed.isDone)]
  by_cases confirmed : completedBy = none
  · rw [if_pos fun proven => hasDate.mp proven confirmed]
    simp [confirmed]
  · have known := completed.known
    have reason := completed.reason
    rw [if_neg (not_not.mpr (hasDate.mpr confirmed))]
    simp only [confirmed, ne_eq, not_false_eq_true, iff_true]
    cases isStatus : next.journey.completionStatus with
    | success => simp
    | terminated => simp [reason isStatus]
    | empty =>
        rw [isStatus] at known
        exact known.elim
    | other text =>
        rw [isStatus] at known
        exact known.elim

theorem Diary.CompletedFrom.evaluateProbation_iff (completed :
      diary.CompletedFrom stage status date completedBy today next final)
    (same : next.journey.stageStartedAt = date) :
    (∀ reason,
        evaluateProbation next.load final completedBy today ≠ .unknown reason) ↔
      (status = .success →
        (∃ user ∈ completedBy, user.isStaff = true) ∧ diary.VisitsApply) := by
  have inOrder := completed.inOrder_iff.mpr same
  have returned := inOrder.historyFor?_iff
  rw [completed.visits] at returned
  have isStatus : next.load.journey.completionStatus = status :=
    completed.status
  have isDate : next.load.journey.completedAt = some date :=
    completed.completedAt
  have isStart : next.load.journey.stageStartedAt = date := same
  have within := completed.within
  have begun : ¬ date < next.load.journey.probationStartDate :=
    Nat.not_lt_of_le within.1
  have past : ¬ today < date := Nat.not_lt_of_le within.2
  have known := completed.known
  rw [completed.status] at known
  unfold evaluateProbation
  rw [isStatus, isDate, isStart]
  cases status with
  | success =>
      simp only [reduceCtorEq, ↓reduceIte, ne_eq, not_true_eq_false, begun,
        past, completed.isDone, or_self, false_or, forall_const]
      rw [← returned]
      split
      next fails =>
        simp only [ne_eq, ProbationEvaluation.unknown.injEq, forall_eq',
          false_iff]
        rintro ⟨staff, isReturned⟩
        rcases fails with noStaff | notReturned
        · exact noStaff staff
        · exact isReturned notReturned
      next holds =>
        simp only [ne_eq, reduceCtorEq, not_false_eq_true, implies_true,
          true_iff]
        obtain ⟨staff, isReturned⟩ := not_or.mp holds
        exact ⟨not_not.mp staff, isReturned⟩
  | terminated => simp
  | empty => exact known.elim
  | other text => exact known.elim

theorem Diary.CompletedFrom.isProven_iff (completed :
      diary.CompletedFrom stage status date completedBy today next final) :
    next.load.IsProven completedBy today ↔
      diary.CanBeProven stage status date completedBy := by
  constructor
  · rintro ⟨other, found, noIssues, -, outcome, evaluated⟩
    obtain rfl : final = other :=
      Option.some.inj (completed.found.symm.trans found)
    have inOrder := ((checkJourneyIntegrity_eq_nil _ _ _).mp noIssues).1
    have same := completed.inOrder_iff.mp inOrder
    refine ⟨fun isDone => ?_, (completed.probation_iff same).mp outcome,
        (completed.evaluateProbation_iff same).mp evaluated⟩
    rw [← completed.stayed isDone, same]
  · intro can
    have same : next.journey.stageStartedAt = date := by
      by_cases isDone : stage.group = .done
      · rw [completed.stayed isDone, can.date isDone]
      · exact completed.moved isDone
    have inOrder := completed.inOrder_iff.mpr same
    have notMissing : next.journey.completionStatus ≠ .empty ∧
          next.journey.completedAt ≠ none := by
      refine ⟨fun isEmpty => ?_, ?_⟩
      · have known := completed.known
        rw [isEmpty] at known
        exact known
      · rw [completed.completedAt]
        exact Option.some_ne_none date
    refine ⟨final, completed.found, (checkJourneyIntegrity_eq_nil _ _ _).mpr
          ⟨inOrder, fun _ => notMissing⟩, ?_,
        (completed.probation_iff same).mpr can.confirmed,
        (completed.evaluateProbation_iff same).mpr can.success⟩
    exact completed.completedAt.trans (congrArg some same.symm)

theorem SameButStage.fields
    {first next : Session} (same : SameButStage first next) :
    next.journey.probationStartDate = first.journey.probationStartDate ∧
      next.journey.stageScheme = first.journey.stageScheme ∧
      next.journey.entryType = first.journey.entryType ∧
      next.journey.completionStatus = first.journey.completionStatus ∧
      next.journey.completedAt = first.journey.completedAt ∧
      next.journey.completedById = first.journey.completedById := by
  simp only [SameButStage, TraineeJourney.withoutStage,
    TraineeJourney.mk.injEq] at same
  simp_all

theorem head?_moved {date first : Day} (numbered : diary.IsNumbered)
    (notEarlier : ∀ row ∈ diary.history, row.startedAt ≤ date)
    (notEmpty : chronological diary.history ≠ []) (isFirst :
      ∀ entry ∈ (chronological diary.history).head?, entry.startedAt = first) :
    ∀ entry ∈ (chronological
        (diary.moved journey newStage changedBy note date).history).head?,
      entry.startedAt = first := by
  rw [chronological_moved numbered notEarlier]
  cases shape : chronological diary.history with
  | nil => exact absurd shape notEmpty
  | cons entry rest =>
      rw [shape] at isFirst
      have started : entry.startedAt = first := isFirst entry rfl
      intro other isOther
      simp only [endOpen, Timelines.closeOpen, List.map_cons,
        List.cons_append, List.head?_cons, Option.mem_some_iff] at isOther
      subst isOther
      split <;> exact started

theorem visitsApply_moved (numbered : diary.IsNumbered)
    (found : stage? diary.stages newStage.id = some final) (applies :
      StageApplies final diary.journey.stageScheme diary.journey.entryType) :
    (diary.moved journey newStage changedBy note date).VisitsApply ↔
      diary.VisitsApply := by
  constructor
  · intro all row member
    by_cases isOpen : row.endedAt = none
    · exact all { row with endedAt := some date } (List.mem_append_left _
            (mem_endOpen.mpr (.inr ⟨row, member, isOpen, rfl⟩)))
    · exact all row
          (List.mem_append_left _ (mem_endOpen.mpr (.inl ⟨member, isOpen⟩)))
  · intro all row member
    rcases List.mem_append.mp member with inHistory | isNew
    · rcases mem_endOpen.mp inHistory with
        ⟨isOld, -⟩ | ⟨opened, isOld, -, rfl⟩
      · exact all row isOld
      · exact all opened isOld
    · obtain rfl := List.mem_singleton.mp isNew
      refine ⟨final, ?_, applies⟩
      unfold Session.effectiveStage?
      rw [effectiveHistoryStage?_of_new]
      · exact found
      · intro transfer isTransfer isSource
        exact Nat.lt_irrefl _ (numbered.transfer transfer isTransfer _ isSource)

theorem completedFrom_stayed
    (found : stage? diary.stages diary.journey.currentStageId = some stage)
    (inOrder : diary.InOrder stage today) (isDone : stage.group = .done)
    (isFinal : stage? diary.stages diary.journey.currentStageId = some final)
    (noErrors : clean final diary.journey.stageScheme
        (diary.load.withCompletion status date completedBy comment).journey
        today = []) :
    diary.CompletedFrom stage status date completedBy today
      (diary.load.withCompletion status date completedBy
        comment).completionWritten.diary
      final := by
  obtain rfl : stage = final := Option.some.inj (found.symm.trans isFinal)
  obtain ⟨applies, -, known, ⟨other, isDate, within⟩, reason⟩ :=
    clean_completed noErrors (.inr (.inl (Option.some_ne_none date)))
  obtain rfl : date = other := Option.some.inj isDate
  exact
    { found := isFinal
      applies := applies
      isDone := isDone
      known := known
      status := rfl
      completedAt := rfl
      completedById := rfl
      reason := reason
      within := within
      begun := inOrder.begun
      notFuture := inOrder.notFuture
      consistent :=
        ⟨inOrder.consistent.openRow, inOrder.consistent.contiguous,
          inOrder.consistent.intervals⟩
      first := inOrder.first
      stayed := fun _ => rfl
      moved := fun notDone => absurd isDone notDone
      visits := Iff.rfl }

/-- A completion that enters the final stage ends the history with it. -/
theorem completedFrom_entered
    {done : TraineeStage} {moved : Session} (numbered : diary.IsNumbered)
    (inOrder : diary.InOrder stage today) (notDone : stage.group ≠ .done)
    (entered : Entered
        (diary.load.withCompletion status date completedBy comment) done date
        today moved)
    (isClean : moved.IsClean today)
    (loaded : moved.completionWritten = moved.completionWritten.diary.load) :
    ∃ final, diary.CompletedFrom stage status date completedBy today
        moved.completionWritten.diary final := by
  obtain ⟨sameProbation, sameScheme, sameType, sameStatus, sameDate, sameBy⟩ :=
    entered.outline.fields
  obtain ⟨changedBy, note, rows⟩ := entered.rows
  change moved.diary = diary.moved moved.journey done changedBy note date
    at rows
  have sameStages : moved.diary.stages = diary.stages := by
    rw [rows]
    rfl
  obtain ⟨final, isFinal, -, noErrors⟩ := isClean
  rw [sameStages, entered.stage] at isFinal
  obtain ⟨applies, isDone, known, ⟨other, isDate, within⟩, reason⟩ :=
    clean_completed noErrors (.inr (.inl (by
      rw [sameDate]
      exact Option.some_ne_none date)))
  rw [sameDate] at isDate
  obtain rfl : date = other := Option.some.inj isDate
  have rowJourney : moved.completionWritten.diary.journey = moved.journey :=
    (congrArg Session.journey loaded).symm
  have notEarlier : diary.journey.stageStartedAt ≤ date := entered.notEarlier
  have before : ∀ row ∈ diary.history, row.startedAt ≤ date :=
    fun row member =>
      Nat.le_trans (inOrder.consistent.startedAt_le member) notEarlier
  have notEmpty : chronological diary.history ≠ [] := by
    obtain ⟨earlier, last, shape, -, -⟩ := inOrder.consistent.split
    rw [shape]
    exact List.concat_ne_nil last earlier
  have consistent :=
    inOrder.consistent.enters numbered entered.enters notEarlier
  have first :=
    @head?_moved moved.journey done diary changedBy note date _ numbered before
      notEmpty inOrder.first
  have visits :=
    @visitsApply_moved moved.journey final done diary changedBy note date
      numbered isFinal (by
        rw [← show moved.journey.stageScheme = diary.journey.stageScheme from
            sameScheme,
          ← show moved.journey.entryType = diary.journey.entryType from
            sameType]
        exact applies)
  rw [← rows] at first visits
  refine ⟨final, ?_⟩
  exact
    { found := by
        rw [rowJourney, entered.stage]
        exact (congrArg (stage? · done.id) sameStages).trans isFinal
      applies := by
        rw [rowJourney]
        exact applies
      isDone := isDone
      known := by
        rw [rowJourney]
        exact known
      status := by
        rw [rowJourney, sameStatus]
        rfl
      completedAt := by
        rw [rowJourney, sameDate]
        rfl
      completedById := by
        rw [rowJourney, sameBy]
        rfl
      reason := by
        rw [rowJourney]
        exact reason
      within := by
        rw [rowJourney]
        exact within
      begun := by
        rw [rowJourney, entered.startedAt]
        exact within.1
      notFuture := by
        rw [rowJourney, entered.startedAt]
        exact entered.notFuture
      consistent :=
        ⟨consistent.openRow, consistent.contiguous, consistent.intervals⟩
      first := by
        rw [rowJourney, sameProbation]
        exact first
      stayed := fun isStageDone => absurd isStageDone notDone
      moved := fun _ => by
        rw [rowJourney, entered.startedAt]
      visits := visits }

/--
A completion of a card in order is proven for every reader exactly when the
final stage that the card was on already began at the completion, somebody
completed it, and a success was confirmed by the staff on a card whose visits
apply.
-/
theorem completeProbation_proven
    {diary : Diary} {stage previous : TraineeStage} {status : CompletionStatus}
    {completedAt : Option Day} {completedBy : Option User} {comment : Text}
    {today : Day} {accepted completionAccepted : Bool} {next : Session}
    (numbered : diary.IsNumbered)
    (found : stage? diary.stages diary.journey.currentStageId = some stage)
    (onlyMissing : ∀ issue ∈ checkJourneyIntegrity diary.load stage today,
        issue.code ∈ missingCodes)
    (ran :
      completeProbation status completedAt completedBy comment today accepted
        completionAccepted diary.load = (.returned previous, next)) :
    next.IsProven completedBy today ↔
      diary.CanBeProven stage status (completedAt.getD today) completedBy := by
  have inOrder := (checkJourneyIntegrity_missing _ _ _).mp onlyMissing
  have isCall :
      (Call.completeProbation status completedAt completedBy comment accepted
        completionAccepted).code today diary.load =
        (.returned previous, next) :=
    ran
  obtain ⟨_, _, effect⟩ := Call.returned isCall
  have loaded := effect.loaded
  obtain ⟨current, done, moved, isCurrent, isDone, isMoved, isClean, rfl⟩ :=
    completeProbation_returned ran
  obtain rfl : stage = current := Option.some.inj (found.symm.trans isCurrent)
  have completed : ∃ final,
        diary.CompletedFrom stage status (completedAt.getD today) completedBy
          today moved.completionWritten.diary final := by
    rcases isMoved with ⟨same, rfl⟩ | entered
    · obtain ⟨final, isFinal, -, noErrors⟩ := isClean
      have stayed :=
        clean_completed noErrors (.inr (.inl (Option.some_ne_none _)))
      obtain rfl : stage = final := Option.some.inj (found.symm.trans isFinal)
      exact
        ⟨stage, completedFrom_stayed found inOrder stayed.2.1 found noErrors⟩
    · refine completedFrom_entered numbered inOrder ?_ entered isClean loaded
      intro isStageDone
      unfold doneStage? at isDone
      rw [if_pos isStageDone] at isDone
      obtain rfl := Option.some.inj isDone
      exact entered.differs (stage?_id found).symm
  obtain ⟨final, completed⟩ := completed
  rw [loaded]
  exact completed.isProven_iff

/-- A card that was moved to its final stage, and not completed. -/
def finishedDiary : Diary :=
  { stages := [sampleStage 1 .noReview, sampleStage 2 .done]
    journey := { sampleJourney 2 0 with stageStartedAt := 7 }
    history :=
      [{ id := 1
         journeyId := 1
         stageId := 1
         startedAt := 0
         endedAt := some 7
         changedById := none
         note := [] },
        { id := 2
          journeyId := 1
          stageId := 2
          startedAt := 7
          endedAt := none
          changedById := some 1
          note := [] }]
    metrics := []
    transfer := none
    historySequence := 3 }

/-- The card after a member of the staff completed it on the day. -/
def completedOn (date : Day) : Session :=
  (completeProbation .success (some date) (some { id := 1, isStaff := true })
    [] 9 true true finishedDiary.load).2

theorem completeProbation_proven_in_time :
    (completedOn 7).IsProven (some { id := 1, isStaff := true }) 9 ↔
      finishedDiary.CanBeProven (sampleStage 2 .done) .success 7
        (some { id := 1, isStaff := true }) :=
  @completeProbation_proven finishedDiary (sampleStage 2 .done)
    (sampleStage 2 .done) .success (some 7)
    (some { id := 1, isStaff := true }) [] 9 true true (completedOn 7)
    ⟨by decide, by decide⟩ rfl (by decide) rfl

/-- A completion after the start of the final stage is written, and is not
proven. -/
theorem completeProbation_unproven :
    (∀ issue ∈ checkJourneyIntegrity finishedDiary.load (sampleStage 2 .done) 9,
      issue.code ∈ missingCodes) ∧
      completeProbation .success (some 9)
          (some { id := 1, isStaff := true }) [] 9 true true
          finishedDiary.load =
        (.returned (sampleStage 2 .done), completedOn 9) ∧
      ¬ (completedOn 9).IsProven (some { id := 1, isStaff := true }) 9 := by
  refine ⟨by decide, rfl, ?_⟩
  rintro ⟨stage, -, -, dated, -, -⟩
  exact absurd dated (by decide)

end TicketSandbox.TraineeDiary
