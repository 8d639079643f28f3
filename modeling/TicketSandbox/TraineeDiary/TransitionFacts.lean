import TicketSandbox.TraineeDiary.Transitions

namespace TicketSandbox.TraineeDiary

/-!
# What a change of the stage does

A call that does not return leaves the rows and the object as they were.  A
call that returns either leaves the stage or enters another one.
-/

open Attempts
open Sandbox (Pk Text strip)

/-! ## Fields that stay -/

/-- The card without its stage and its quality. -/
def TraineeJourney.withoutStage (journey : TraineeJourney) : TraineeJourney :=
  { journey with
    currentStageId := 0
    stageStartedAt := 0
    fixedQualityPercent := none
    qualityFixedAt := none }

/-- The card without its stage, its quality and its completion. -/
def TraineeJourney.outline (journey : TraineeJourney) : TraineeJourney :=
  { journey.withoutStage with
    completionStatus := .empty
    completedAt := none
    completionComment := []
    completedById := none }

variable {first : TraineeJourney} {next session : Session} {today : Day}
  {previous newStage : TraineeStage} {changedBy completedBy : Option User}
  {note comment : Text} {accepted completionAccepted : Bool}
  {status : CompletionStatus}

theorem TraineeJourney.withStageOf_of_withoutStage
    {next : TraineeJourney} (same : first.withoutStage = next.withoutStage) :
    next.withStageOf first = first := by
  cases first
  cases next
  simp only [withoutStage, TraineeJourney.mk.injEq] at same
  simp_all [withStageOf]

theorem TraineeJourney.restored_of_outline
    {next : TraineeJourney} (same : first.outline = next.outline) :
    (next.withStageOf first).withCompletionOf first = first := by
  cases first
  cases next
  simp only [outline, withoutStage, TraineeJourney.mk.injEq] at same
  simp_all [withStageOf, withCompletionOf]

theorem TraineeJourney.outline_of_withoutStage
    {next : TraineeJourney} (same : first.withoutStage = next.withoutStage) :
    first.outline = next.outline := by
  unfold outline
  rw [same]

/-- The card without its completion. -/
def TraineeJourney.withoutCompletion
    (journey : TraineeJourney) : TraineeJourney :=
  { journey with
    completionStatus := .empty
    completedAt := none
    completionComment := []
    completedById := none }

theorem TraineeJourney.withCompletionOf_of_withoutCompletion
    {next : TraineeJourney}
    (same : first.withoutCompletion = next.withoutCompletion) :
    next.withCompletionOf first = first := by
  cases first
  cases next
  simp only [withoutCompletion, TraineeJourney.mk.injEq] at same
  simp_all [withCompletionOf]

theorem TraineeJourney.fields_of_withoutCompletion {next : TraineeJourney}
    (same : first.withoutCompletion = next.withoutCompletion) :
    first.currentStageId = next.currentStageId ∧
      first.stageStartedAt = next.stageStartedAt ∧
      first.stageScheme = next.stageScheme ∧
      first.entryType = next.entryType := by
  simp only [withoutCompletion, TraineeJourney.mk.injEq] at same
  simp_all

theorem TraineeJourney.outline_of_withoutCompletion {next : TraineeJourney}
    (same : first.withoutCompletion = next.withoutCompletion) :
    first.outline = next.outline := by
  simp only [withoutCompletion, TraineeJourney.mk.injEq] at same
  simp_all [outline, withoutStage]

/-- The object is the same but for its stage and quality. -/
def SameButStage (first next : Session) : Prop :=
  first.journey.withoutStage = next.journey.withoutStage

/-- The object is the same but for its stage, quality and completion. -/
def SameOutline (first next : Session) : Prop :=
  first.journey.outline = next.journey.outline

instance : Std.Refl SameButStage :=
  ⟨fun _ => rfl⟩

instance : IsTrans Session SameButStage :=
  ⟨fun _ _ _ before after => Eq.trans before after⟩

instance : Std.Refl SameOutline :=
  ⟨fun _ => rfl⟩

instance : IsTrans Session SameOutline :=
  ⟨fun _ _ _ before after => Eq.trans before after⟩

/-! ## Calls that do not return -/

theorem stageOf_keeps (id : Pk) : Keeps Eq (stageOf id) := by
  unfold stageOf
  exact .bind .inspect fun _ => .required _ _

theorem fullClean_keeps (today : Day) : Keeps Eq (fullClean today) := by
  unfold fullClean
  refine .bind .inspect fun session => ?_
  exact .bind (stageOf_keeps _) fun _ => .ensure _ _

theorem stageOf_returned {id : Pk} {stage : TraineeStage}
    (ran : stageOf id session = (.returned stage, next)) :
    stage? session.diary.stages id = some stage ∧ session = next := by
  unfold stageOf at ran
  obtain ⟨_, _, isRead, ran⟩ := bind_returned.mp ran
  obtain ⟨rfl, rfl⟩ := inspect_returned.mp isRead
  exact required_returned.mp ran

/-- The object has no errors. -/
def Session.IsClean (session : Session) (today : Day) : Prop :=
  ∃ stage ∈ stage? session.diary.stages session.journey.currentStageId,
    cleanFields session.journey = [] ∧
      clean stage session.diary.journey.stageScheme session.journey today = []

theorem fullClean_returned {result : PUnit}
    (ran : fullClean today session = (.returned result, next)) :
    session.IsClean today ∧ session = next := by
  unfold fullClean at ran
  obtain ⟨_, _, isRead, ran⟩ := bind_returned.mp ran
  obtain ⟨rfl, rfl⟩ := inspect_returned.mp isRead
  obtain ⟨stage, _, isStage, ran⟩ := bind_returned.mp ran
  obtain ⟨found, rfl⟩ := stageOf_returned isStage
  obtain ⟨noErrors, same⟩ := ensure_returned.mp ran
  obtain ⟨noFields, noOthers⟩ := List.append_eq_nil_iff.mp noErrors
  exact ⟨⟨stage, found, noFields, noOthers⟩, same⟩

theorem publish_keeps (user : Option User) (accepted : Bool) :
    Keeps Eq (publish user accepted) :=
  .ensure _ _

theorem keeps_of_same {α : Type} {relation : Session → Session → Prop}
    [Std.Refl relation] {code : Op α} (keeps : Keeps Eq code) :
    Keeps relation code :=
  keeps.weaken fun state _ same => same ▸ refl state

theorem assign_keeps {update : TraineeJourney → TraineeJourney}
    (same : ∀ journey, journey.withoutStage = (update journey).withoutStage) :
    Keeps SameButStage (assign update) :=
  fun session => same session.journey

theorem applyQualityStageTransition_withoutStage (previous new : TraineeStage)
    (metrics : List WeeklyMetric) (date : Day) (journey : TraineeJourney) :
    journey.withoutStage =
      (applyQualityStageTransition previous new metrics date
        journey).withoutStage := by
  unfold applyQualityStageTransition
  split
  · rfl
  · split
    · split <;> rfl
    · rfl

theorem moving_keeps
    (previous newStage : TraineeStage) (changedBy : Option User) (note : Text)
    (date today : Day) (accepted : Bool) :
    Keeps SameButStage
      (moving previous newStage changedBy note date today accepted) := by
  unfold moving
  refine .bind (assign_keeps fun _ => rfl) fun _ => ?_
  refine .bind .inspect fun session => ?_
  refine .bind (assign_keeps (applyQualityStageTransition_withoutStage _ _ _ _))
    fun _ => ?_
  refine .bind (keeps_of_same (fullClean_keeps _)) fun _ => ?_
  refine .bind .inspect fun cleaned => ?_
  exact .bind (fun _ => rfl) fun _ => keeps_of_same (publish_keeps _ _)

theorem moveToStage_undone
    (newStage : TraineeStage) (changedBy : Option User) (note : Text)
    (transitionDate : Option Day) (today : Day) (accepted : Bool) :
    Undone
      (moveToStage newStage changedBy note transitionDate today accepted) := by
  unfold moveToStage
  refine .bind .inspect fun session => ?_
  refine .bind (stageOf_keeps _) fun previous => ?_
  split
  · exact .ofSame (.pure _)
  · refine .bind (.ensure _ _) fun _ => ?_
    refine .bind (.ensure _ _) fun _ => ?_
    refine .bind (.ensure _ _) fun _ => ?_
    refine .bindPure ?_
    unfold atomic
    rw [restoring_restoring]
    refine .restoring (moving_keeps _ _ _ _ _ _ _) ?_
    intro state next same
    exact congrArg (Session.mk state.diary)
      (TraineeJourney.withStageOf_of_withoutStage same)

/-! ## Transitions -/

/-- The object entered the stage at the date, and so did the rows. -/
structure Entered
    (session : Session) (newStage : TraineeStage) (date today : Day)
    (next : Session) : Prop where
  differs : session.journey.currentStageId ≠ newStage.id
  selectable : ∃ stage ∈ stage? session.diary.stages newStage.id,
      IsSelectable session.journey.stageScheme session.journey.entryType stage
  notFuture : date ≤ today
  notEarlier : session.journey.stageStartedAt ≤ date
  outline : SameButStage session next
  stage : next.journey.currentStageId = newStage.id
  startedAt : next.journey.stageStartedAt = date
  rows : ∃ changedBy note,
      next.diary = session.diary.moved next.journey newStage changedBy note date

theorem applyQualityStageTransition_stage (previous new : TraineeStage)
    (metrics : List WeeklyMetric) (date : Day) (journey : TraineeJourney) :
    (applyQualityStageTransition previous new metrics date
          journey).currentStageId = journey.currentStageId ∧
      (applyQualityStageTransition previous new metrics date
          journey).stageStartedAt = journey.stageStartedAt := by
  unfold applyQualityStageTransition
  split
  · exact ⟨rfl, rfl⟩
  · split
    · split <;> exact ⟨rfl, rfl⟩
    · exact ⟨rfl, rfl⟩

/-- The object of a move: its quality may be fixed, and its row is written. -/
theorem moving_returned {date : Day} (ran :
      moving previous newStage changedBy note date today accepted session =
        (.returned .unit, next)) :
    next.journey =
        applyQualityStageTransition previous newStage session.diary.metrics date
          { session.journey with
            currentStageId := newStage.id
            stageStartedAt := date } ∧
      next.diary =
        session.diary.moved next.journey newStage changedBy note date := by
  unfold moving at ran
  obtain ⟨_, entered, isEntered, ran⟩ := bind_returned.mp ran
  obtain rfl := change_returned.mp isEntered
  obtain ⟨_, _, isRead, ran⟩ := bind_returned.mp ran
  obtain ⟨rfl, rfl⟩ := inspect_returned.mp isRead
  obtain ⟨_, fixed, isFixed, ran⟩ := bind_returned.mp ran
  obtain rfl := change_returned.mp isFixed
  obtain ⟨_, cleaned, isCleaned, ran⟩ := bind_returned.mp ran
  obtain rfl := (fullClean_keeps _).ran isCleaned
  obtain ⟨_, _, isRead, ran⟩ := bind_returned.mp ran
  obtain ⟨rfl, rfl⟩ := inspect_returned.mp isRead
  obtain ⟨_, written, isWritten, ran⟩ := bind_returned.mp ran
  obtain rfl := change_returned.mp isWritten
  obtain rfl := (publish_keeps _ _).ran ran
  exact ⟨rfl, rfl⟩

/-- A move that was not refused has passed the checks before `moving`. -/
theorem moveToStage_moving {transitionDate : Option Day} (ran :
      moveToStage newStage changedBy note transitionDate today accepted
        session = (.returned previous, next)) :
    (session.journey.currentStageId = newStage.id ∧ next = session) ∨
      session.journey.currentStageId ≠ newStage.id ∧
      (∃ stage ∈ stage? session.diary.stages newStage.id,
        IsSelectable session.journey.stageScheme session.journey.entryType
          stage) ∧
      transitionDate.getD today ≤ today ∧
      session.journey.stageStartedAt ≤ transitionDate.getD today ∧
      ∃ stage ∈ stage? session.diary.stages session.journey.currentStageId,
        moving stage newStage changedBy note (transitionDate.getD today) today
          accepted session = (.returned .unit, next) := by
  unfold moveToStage at ran
  obtain ⟨_, _, isRead, ran⟩ := bind_returned.mp ran
  obtain ⟨rfl, rfl⟩ := inspect_returned.mp isRead
  obtain ⟨stage, _, isStage, ran⟩ := bind_returned.mp ran
  obtain ⟨found, rfl⟩ := stageOf_returned isStage
  by_cases same : session.journey.currentStageId = newStage.id
  · simp only [same, ↓reduceIte] at ran
    exact .inl ⟨same, (pure_returned.mp ran).2.symm⟩
  · simp only [same, ↓reduceIte] at ran
    obtain ⟨_, _, isSelectable, ran⟩ := bind_returned.mp ran
    obtain ⟨selectable, rfl⟩ := ensure_returned.mp isSelectable
    obtain ⟨_, _, isPast, ran⟩ := bind_returned.mp ran
    obtain ⟨notFuture, rfl⟩ := ensure_returned.mp isPast
    obtain ⟨_, _, isLater, ran⟩ := bind_returned.mp ran
    obtain ⟨notEarlier, rfl⟩ := ensure_returned.mp isLater
    obtain ⟨_, moved, isMoved, ran⟩ := bind_returned.mp ran
    obtain ⟨-, rfl⟩ := pure_returned.mp ran
    have inner := restoring_returned.mp (restoring_returned.mp isMoved)
    exact .inr ⟨same, selectable, notFuture, notEarlier, stage, found, inner⟩

theorem moveToStage_returned {transitionDate : Option Day} (ran :
      moveToStage newStage changedBy note transitionDate today accepted
        session = (.returned previous, next)) :
    (session.journey.currentStageId = newStage.id ∧ next = session) ∨
      Entered session newStage (transitionDate.getD today) today next := by
  rcases moveToStage_moving ran with same |
    ⟨differs, selectable, notFuture, notEarlier, stage, _, inner⟩
  · exact .inl same
  · obtain ⟨isJourney, rows⟩ := moving_returned inner
    obtain ⟨isStageId, isStart⟩ :=
      applyQualityStageTransition_stage stage newStage session.diary.metrics
        (transitionDate.getD today)
        { session.journey with
          currentStageId := newStage.id
          stageStartedAt := transitionDate.getD today }
    exact .inr
      { differs := differs
        selectable := selectable
        notFuture := notFuture
        notEarlier := notEarlier
        outline := (moving_keeps _ _ _ _ _ _ _).ran inner
        stage := isJourney ▸ isStageId
        startedAt := isJourney ▸ isStart
        rows := ⟨changedBy, note, rows⟩ }

theorem moveToStage_keeps
    (newStage : TraineeStage) (changedBy : Option User) (note : Text)
    (transitionDate : Option Day) (today : Day) (accepted : Bool) :
    Keeps SameButStage
      (moveToStage newStage changedBy note transitionDate today accepted) := by
  refine (moveToStage_undone _ _ _ _ _ _).keeps ?_
  intro session previous next ran
  rcases moveToStage_returned ran with ⟨-, rfl⟩ | entered
  · exact refl next
  · exact entered.outline

/-! ## Completions -/

theorem completing_keeps (done : TraineeStage) (status : CompletionStatus)
    (completedAt : Day) (completedBy : Option User) (comment : Text)
    (today : Day) (accepted completionAccepted : Bool) :
    Keeps SameOutline
      (completing done status completedAt completedBy comment today accepted
        completionAccepted) := by
  unfold completing
  refine .bind (fun _ => rfl) fun _ => ?_
  refine .bind ((moveToStage_keeps _ _ _ _ _ _).weaken ?_) fun previous => ?_
  · exact fun _ _ same => TraineeJourney.outline_of_withoutStage same
  refine .bind (keeps_of_same (fullClean_keeps _)) fun _ => ?_
  refine .bind .inspect fun session => ?_
  refine .bind (fun _ => rfl) fun _ => ?_
  exact .bind (keeps_of_same (publish_keeps _ _)) fun _ => .pure _

theorem completeProbation_undone (status : CompletionStatus)
    (completedAt : Option Day) (completedBy : Option User) (comment : Text)
    (today : Day) (accepted completionAccepted : Bool) :
    Undone
      (completeProbation status completedAt completedBy comment today accepted
        completionAccepted) := by
  unfold completeProbation
  refine .bind (.ensure _ _) fun _ => ?_
  refine .bind .inspect fun session => ?_
  refine .bind (.ensure _ _) fun _ => ?_
  refine .bind (stageOf_keeps _) fun current => ?_
  refine .bind (.ensure _ _) fun _ => ?_
  refine .bind (.required _ _) fun done => ?_
  unfold atomic
  rw [restoring_restoring]
  refine .restoring (completing_keeps _ _ _ _ _ _ _ _) ?_
  intro state next same
  exact congrArg (Session.mk state.diary)
    (TraineeJourney.restored_of_outline same)

/-- The object with a completion. -/
def Session.withCompletion
    (session : Session) (status : CompletionStatus) (completedAt : Day)
    (completedBy : Option User) (comment : Text) : Session :=
  { session with
    journey :=
      { session.journey with
        completionStatus := status
        completedAt := some completedAt
        completionComment := comment
        completedById := completedBy.map User.id } }

/-- The completion of the object is written to the row. -/
def Session.completionWritten (session : Session) : Session :=
  { session with
    diary :=
      { session.diary with
        journey := session.diary.journey.withCompletionOf session.journey } }

theorem completing_moved {done : TraineeStage} {completedAt : Day} (ran :
      completing done status completedAt completedBy comment today accepted
        completionAccepted session = (.returned previous, next)) :
    ∃ note moved,
      moveToStage done completedBy note (some completedAt) today accepted
          (session.withCompletion status completedAt completedBy comment) =
        (.returned previous, moved) ∧
        moved.IsClean today ∧ next = moved.completionWritten := by
  unfold completing at ran
  obtain ⟨_, assigned, isAssigned, ran⟩ := bind_returned.mp ran
  obtain rfl := change_returned.mp isAssigned
  obtain ⟨_, moved, isMoved, ran⟩ := bind_returned.mp ran
  obtain ⟨_, _, isCleaned, ran⟩ := bind_returned.mp ran
  obtain ⟨isClean, rfl⟩ := fullClean_returned isCleaned
  obtain ⟨_, _, isRead, ran⟩ := bind_returned.mp ran
  obtain ⟨rfl, rfl⟩ := inspect_returned.mp isRead
  obtain ⟨_, written, isWritten, ran⟩ := bind_returned.mp ran
  obtain rfl := change_returned.mp isWritten
  obtain ⟨_, _, isPublished, ran⟩ := bind_returned.mp ran
  obtain rfl := (publish_keeps _ _).ran isPublished
  obtain ⟨rfl, rfl⟩ := pure_returned.mp ran
  exact ⟨_, moved, isMoved, isClean, rfl⟩

/-- A completion that was not refused moves the card to the final stage. -/
theorem completeProbation_moved {completedAt : Option Day} (ran :
      completeProbation status completedAt completedBy comment today accepted
        completionAccepted session = (.returned previous, next)) :
    ∃ current done note moved,
      stage? session.diary.stages session.journey.currentStageId =
          some current ∧
        doneStage? session.diary.stages session.journey current = some done ∧
        moveToStage done completedBy note (some (completedAt.getD today))
            today accepted
            (session.withCompletion status (completedAt.getD today)
              completedBy (strip comment)) =
          (.returned previous, moved) ∧
        moved.IsClean today ∧ next = moved.completionWritten := by
  unfold completeProbation at ran
  obtain ⟨_, _, isKnown, ran⟩ := bind_returned.mp ran
  obtain ⟨-, rfl⟩ := ensure_returned.mp isKnown
  obtain ⟨_, _, isRead, ran⟩ := bind_returned.mp ran
  obtain ⟨rfl, rfl⟩ := inspect_returned.mp isRead
  obtain ⟨_, _, isValid, ran⟩ := bind_returned.mp ran
  obtain ⟨-, rfl⟩ := ensure_returned.mp isValid
  obtain ⟨current, _, isStage, ran⟩ := bind_returned.mp ran
  obtain ⟨found, rfl⟩ := stageOf_returned isStage
  obtain ⟨_, _, isUnfinished, ran⟩ := bind_returned.mp ran
  obtain ⟨-, rfl⟩ := ensure_returned.mp isUnfinished
  obtain ⟨done, _, isDone, ran⟩ := bind_returned.mp ran
  obtain ⟨foundDone, rfl⟩ := required_returned.mp isDone
  have inner := restoring_returned.mp (restoring_returned.mp ran)
  obtain ⟨note, moved, isMoved, written⟩ := completing_moved inner
  exact ⟨current, done, note, moved, found, foundDone, isMoved, written⟩

theorem completeProbation_returned {completedAt : Option Day} (ran :
      completeProbation status completedAt completedBy comment today accepted
        completionAccepted session = (.returned previous, next)) :
    ∃ current done moved,
      stage? session.diary.stages session.journey.currentStageId =
          some current ∧
        doneStage? session.diary.stages session.journey current = some done ∧
        (session.journey.currentStageId = done.id ∧ moved =
              session.withCompletion status (completedAt.getD today)
                completedBy (strip comment) ∨
          Entered (session.withCompletion status (completedAt.getD today)
              completedBy (strip comment))
            done (completedAt.getD today) today moved) ∧
        moved.IsClean today ∧ next = moved.completionWritten := by
  obtain ⟨current, done, _, moved, found, foundDone, isMoved, written⟩ :=
    completeProbation_moved ran
  refine ⟨current, done, moved, found, foundDone, ?_, written⟩
  rcases moveToStage_returned isMoved with ⟨same, rfl⟩ | entered
  · exact .inl ⟨same, rfl⟩
  · exact .inr entered

/-! ## Calls -/

/-- A call of one of the two methods. -/
inductive Call where
  | moveToStage (newStage : TraineeStage) (changedBy : Option User)
      (note : Text) (transitionDate : Option Day) (accepted : Bool)
  | completeProbation (status : CompletionStatus) (completedAt : Option Day)
      (completedBy : Option User) (comment : Text)
      (accepted completionAccepted : Bool)

/-- The code of a call. -/
def Call.code (today : Day) : Call → Op TraineeStage
  | .moveToStage newStage changedBy note transitionDate accepted =>
      TraineeDiary.moveToStage newStage changedBy note transitionDate today
        accepted
  | .completeProbation status completedAt completedBy comment accepted
      completionAccepted =>
      TraineeDiary.completeProbation status completedAt completedBy comment
        today accepted completionAccepted

theorem Call.undone (call : Call) (today : Day) : Undone (call.code today) := by
  cases call with
  | moveToStage newStage changedBy note transitionDate accepted =>
      exact moveToStage_undone _ _ _ _ _ _
  | completeProbation status completedAt completedBy comment accepted
      completionAccepted =>
      exact completeProbation_undone _ _ _ _ _ _ _

/-- The date of a call. -/
def Call.date (today : Day) : Call → Day
  | .moveToStage _ _ _ transitionDate _ => transitionDate.getD today
  | .completeProbation _ completedAt _ _ _ _ => completedAt.getD today

/-- What a call that returned did: it may fill in the completion of the object,
enter a stage and write the completion to the row, in this order. -/
structure Call.Effect (call : Call) (session : Session) (today : Day)
    (started moved next : Session) : Prop where
  sameRows : started.diary = session.diary
  sameCard :
    started.journey.withoutCompletion = session.journey.withoutCompletion
  moves : moved = started ∨
      ∃ newStage, Entered started newStage (call.date today) today moved
  writes : (started = session ∧ next = moved) ∨ next = moved.completionWritten

/-- What a call that returns has done. -/
theorem Call.returned
    {call : Call} (ran : call.code today session = (.returned previous, next)) :
    ∃ started moved, call.Effect session today started moved next := by
  cases call with
  | moveToStage newStage changedBy note transitionDate accepted =>
      refine ⟨session, next, rfl, rfl, ?_, .inl ⟨rfl, rfl⟩⟩
      rcases moveToStage_returned ran with ⟨-, same⟩ | entered
      · exact .inl same
      · exact .inr ⟨newStage, entered⟩
  | completeProbation status completedAt completedBy comment accepted
      completionAccepted =>
      obtain ⟨current, done, moved, -, -, isMoved, -, written⟩ :=
        completeProbation_returned ran
      refine ⟨session.withCompletion status (completedAt.getD today) completedBy
            (strip comment),
          moved, rfl, rfl, ?_, .inr written⟩
      rcases isMoved with ⟨-, same⟩ | entered
      · exact .inl same
      · exact .inr ⟨done, entered⟩

end TicketSandbox.TraineeDiary
