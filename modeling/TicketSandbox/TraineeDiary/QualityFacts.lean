import TicketSandbox.TraineeDiary.RequestRuns
import TicketSandbox.TraineeDiary.WeeklyMetrics

namespace TicketSandbox.TraineeDiary

/-!
# The quality in metrics and moves

What the latest quality depends on, and what a call makes of the fixed quality
of the card that it is made on.
-/

open Attempts
open Sandbox (Pk Text strip)

/-! ## The latest quality -/

/-- The quality of the highest week that has one. -/
def latestQuality? (metrics : List WeeklyMetric) : Option Nat :=
  (latestQualityMetric? metrics).bind WeeklyMetric.qualityPercent

/-- The week and the quality of a metric. -/
def WeeklyMetric.graded (metric : WeeklyMetric) : Nat × Option Nat :=
  (metric.weekNumber, metric.qualityPercent)

/-- The weeks with a quality, in the order of the rows. -/
def gradedWeeks (metrics : List WeeklyMetric) : List (Nat × Option Nat) :=
  (metrics.map WeeklyMetric.graded).filter fun graded => graded.2.isSome

/-- The latest quality is that of the graded weeks. -/
theorem latestQuality?_eq
    {old new : List WeeklyMetric} (same : gradedWeeks new = gradedWeeks old) :
    latestQuality? new = latestQuality? old := by
  have sorted (metrics : List WeeklyMetric) : latestQuality? metrics =
        (((gradedWeeks metrics).insertionSort
          fun first second => second.1 ≤ first.1).head?).bind Prod.snd := by
    have inOrder := List.map_insertionSort (fun first second : WeeklyMetric =>
          second.weekNumber ≤ first.weekNumber)
        (fun first second : Nat × Option Nat => second.1 ≤ first.1)
        WeeklyMetric.graded
        (metrics.filter fun metric => metric.qualityPercent.isSome)
        (fun _ _ _ _ => Iff.rfl)
    have filtered : gradedWeeks metrics =
          (metrics.filter fun metric => metric.qualityPercent.isSome).map
            WeeklyMetric.graded := by
      rw [gradedWeeks, List.filter_map]
      rfl
    rw [filtered, ← inOrder, List.head?_map, latestQuality?,
      latestQualityMetric?]
    cases ((metrics.filter fun metric =>
      metric.qualityPercent.isSome).insertionSort
        fun first second => second.weekNumber ≤ first.weekNumber).head? with
    | none => rfl
    | some metric => rfl
  rw [sorted, sorted, same]

theorem gradedWeeks_append {metrics : List WeeklyMetric} {row : WeeklyMetric}
    (ungraded : row.qualityPercent = none) :
    gradedWeeks (metrics ++ [row]) = gradedWeeks metrics := by
  simp [gradedWeeks, WeeklyMetric.graded, ungraded]

theorem gradedWeeks_modify {metrics : List WeeklyMetric} {id : Pk}
    {change : WeeklyMetric → WeeklyMetric} (same :
      ∀ metric ∈ metrics, metric.id = id →
        (change metric).graded = metric.graded) :
    gradedWeeks (Rows.modify WeeklyMetric.id id change metrics) =
      gradedWeeks metrics := by
  unfold gradedWeeks Rows.modify
  rw [List.map_map]
  congr 1
  refine List.map_congr_left fun metric member => ?_
  simp only [Function.comp_apply]
  split
  · rename_i isRow
    exact same metric member isRow
  · rfl

/-! ## The fixed quality -/

/-- What a transition makes of the fixed quality. -/
def fixedAfter (previous new : StageGroup) (metrics : List WeeklyMetric)
    (fixed : Option Nat) : Option Nat :=
  if previous ≠ .withReview ∧ new = .withReview then none
  else if previous = .withReview ∧ new ≠ .withReview then latestQuality? metrics
  else fixed

theorem applyQualityStageTransition_fixed (previous new : TraineeStage)
    (metrics : List WeeklyMetric) (date : Day) (journey : TraineeJourney) :
    (applyQualityStageTransition previous new metrics date
        journey).fixedQualityPercent =
      fixedAfter previous.group new.group metrics
        journey.fixedQualityPercent := by
  unfold applyQualityStageTransition fixedAfter latestQuality?
  split
  · rfl
  · split
    · cases latestQualityMetric? metrics with
      | none => rfl
      | some metric => rfl
    · rfl

variable {previous newStage done : TraineeStage}
  {changedBy completedBy : Option User} {note comment : Text} {today : Day}
  {accepted completionAccepted : Bool} {session next : Session}
  {transitionDate : Option Day} {status : CompletionStatus}

theorem moveToStage_fixed
    (ran : moveToStage newStage changedBy note transitionDate today accepted
        session = (.returned previous, next)) :
    (session.journey.currentStageId = newStage.id ∧ next = session) ∨
      Entered session newStage (transitionDate.getD today) today next ∧
        ∃ old ∈ stage? session.diary.stages session.journey.currentStageId,
          next.journey.fixedQualityPercent =
            fixedAfter old.group newStage.group session.diary.metrics
              session.journey.fixedQualityPercent := by
  rcases moveToStage_returned ran with same | entered
  · exact .inl same
  rcases moveToStage_moving ran with same | ⟨_, _, _, _, stage, found, inner⟩
  · exact .inl same
  · refine .inr ⟨entered, stage, found, ?_⟩
    rw [(moving_returned inner).1]
    exact applyQualityStageTransition_fixed _ _ _ _ _

/-! ## Calls -/

/-- The stage that the call names is the one in the catalog. -/
def Call.IsCatalogued (stages : List TraineeStage) : Call → Prop
  | .moveToStage newStage _ _ _ _ => stage? stages newStage.id = some newStage
  | .completeProbation .. => True

instance (stages : List TraineeStage) (call : Call) :
    Decidable (call.IsCatalogued stages) :=
  match call with
  | .moveToStage newStage _ _ _ _ =>
      inferInstanceAs (Decidable (stage? stages newStage.id = some newStage))
  | .completeProbation .. => inferInstanceAs (Decidable True)

/-- The rows differ at most in what no quality depends on. -/
structure Diary.SameQuality (diary next : Diary) : Prop where
  stages : next.stages = diary.stages
  metrics : next.metrics = diary.metrics
  stage : next.journey.currentStageId = diary.journey.currentStageId
  fixed : next.journey.fixedQualityPercent = diary.journey.fixedQualityPercent

/-- The call moved the card, with the fixed quality that its copy gives. -/
structure Diary.MovesQuality (diary next : Diary) (copy : TraineeJourney)
    (old new : StageGroup) : Prop where
  stages : next.stages = diary.stages
  metrics : next.metrics = diary.metrics
  leaves : group? diary.stages copy.currentStageId = some old
  enters : group? next.stages next.journey.currentStageId = some new
  fixed : next.journey.fixedQualityPercent =
      fixedAfter old new diary.metrics copy.fixedQualityPercent

/-- The stage that the call asks for is one with review. -/
def Call.ReturnsToReview : Call → Prop
  | .moveToStage newStage _ _ _ _ => newStage.group = .withReview
  | .completeProbation .. => False

instance (call : Call) : Decidable call.ReturnsToReview :=
  match call with
  | .moveToStage newStage _ _ _ _ =>
      inferInstanceAs (Decidable (newStage.group = .withReview))
  | .completeProbation .. => inferInstanceAs (Decidable False)

theorem moveToStage_quality
    (catalogued : stage? session.diary.stages newStage.id = some newStage)
    (ran : moveToStage newStage changedBy note transitionDate today accepted
        session = (.returned previous, next)) :
    next = session ∨
      next.journey.currentStageId ≠ session.journey.currentStageId ∧ ∃ old,
          session.diary.MovesQuality next.diary session.journey old
            newStage.group := by
  rcases moveToStage_fixed ran with ⟨-, same⟩ | ⟨entered, old, isOld, fixed⟩
  · exact .inl same
  · obtain ⟨changedBy, note, rows⟩ := entered.rows
    have isOldGroup :
        group? session.diary.stages session.journey.currentStageId =
          some old.group :=
      congrArg (Option.map TraineeStage.group) isOld
    have isNewGroup :
        group? session.diary.stages newStage.id = some newStage.group :=
      congrArg (Option.map TraineeStage.group) catalogued
    have isStage : next.journey.currentStageId = newStage.id := entered.stage
    refine .inr ⟨?_, old.group, ?_⟩
    · rw [isStage]
      exact entered.differs.symm
    rw [rows]
    refine ⟨rfl, rfl, isOldGroup, ?_, fixed⟩
    unfold Diary.moved TraineeJourney.withStageOf
    rw [isStage]
    exact isNewGroup

theorem stage?_of_mem {stages : List TraineeStage} {stage : TraineeStage}
    (unique : (stages.map TraineeStage.id).Nodup) (member : stage ∈ stages) :
    stage? stages stage.id = some stage :=
  Rows.find?_of_key unique member (decide_eq_true rfl) fun _ same =>
    of_decide_eq_true same

theorem doneStage?_catalogued
    {stages : List TraineeStage} {journey : TraineeJourney}
    {current : TraineeStage} (unique : (stages.map TraineeStage.id).Nodup)
    (found : stage? stages journey.currentStageId = some current)
    (isDone : doneStage? stages journey current = some done) :
    stage? stages done.id = some done := by
  unfold doneStage? at isDone
  split at isDone
  · cases isDone
    rw [stage?_id found]
    exact found
  · refine stage?_of_mem unique ?_
    have member := List.mem_of_mem_head? isDone
    rw [inOrder, List.mem_insertionSort] at member
    exact List.mem_of_mem_filter member

/-- What a call does to the fixed quality. -/
theorem Call.quality {call : Call} {today : Day} {session : Session}
    (unique : (session.diary.stages.map TraineeStage.id).Nodup)
    (catalogued : call.IsCatalogued session.diary.stages) :
    session.diary.SameQuality (call.code today session).2.diary ∨
      call.Enters today session ∧ ∃ old new,
          session.diary.MovesQuality (call.code today session).2.diary
              session.journey old new ∧
            (call.ReturnsToReview → new = .withReview) := by
  unfold Call.Enters
  rcases call.undone today session with ⟨previous, next, ran⟩ | same
  · rw [ran]
    cases call with
    | moveToStage newStage changedBy note transitionDate accepted =>
        rcases moveToStage_quality catalogued ran with
          rfl | ⟨enters, old, moves⟩
        · exact .inl ⟨rfl, rfl, rfl, rfl⟩
        · exact .inr ⟨enters, old, newStage.group, moves, id⟩
    | completeProbation status completedAt completedBy comment accepted
        completionAccepted =>
        obtain ⟨current, done, note, moved, found, isDone, isMoved, _, rfl⟩ :=
          completeProbation_moved ran
        have isCatalogued : stage?
                (session.withCompletion status (completedAt.getD today)
                  completedBy (strip comment)).diary.stages done.id =
              some done :=
          doneStage?_catalogued unique found isDone
        rcases moveToStage_quality isCatalogued isMoved with
          rfl | ⟨enters, old, moves⟩
        · exact .inl ⟨rfl, rfl, rfl, rfl⟩
        · exact .inr ⟨enters, old, done.group,
              ⟨moves.stages, moves.metrics, moves.leaves, moves.enters,
                moves.fixed⟩,
              False.elim⟩
  · rw [same]
    exact .inl ⟨rfl, rfl, rfl, rfl⟩

end TicketSandbox.TraineeDiary
