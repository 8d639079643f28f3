import TicketSandbox.TraineeDiary.WeeklyMetricRuns

namespace TicketSandbox.TraineeDiary

/-!
# The fixed quality over a run

While the stored card is on a stage with review its quality is not fixed; when
it leaves, the latest quality is fixed, and stays the latest as long as no
metric is graded and no other fixed quality is carried over.
-/

open Runs
open Sandbox (Pk Text)

/-! ## Numbered weeks and the fixed quality -/

/-- The weeks are numbered from one on, and a fixed quality is the latest. -/
structure Diary.QualityFixed (diary : Diary) : Prop where
  weeks : diary.metrics.map WeeklyMetric.weekNumber =
      List.range' 1 diary.metrics.length
  fixed : ∀ quality, diary.journey.fixedQualityPercent = some quality →
      latestQuality? diary.metrics = some quality

/-- A card without metrics and without a fixed quality. -/
structure Diary.IsUngraded (diary : Diary) : Prop where
  catalog : (diary.stages.map TraineeStage.id).Nodup
  metrics : diary.metrics = []
  fixed : diary.journey.fixedQualityPercent = none

/-! ## Requests that read what is still stored -/

variable {diary : Diary} {last : MetricRequests} {actions : List MetricStep}

namespace MetricRequests

/-- The save is not refused. -/
def Saves (state : MetricRequests) (prepared : PreparedMetric)
    (accepted : Bool) : Prop :=
  (saveMetricWithEvent state.table prepared accepted).isOk = true

/-- The request does not grade its week, whose stored quality is still the one
that it read. -/
def Keeps (state : MetricRequests) (request : MetricRequest) : Prop :=
  request.read.grades request.week = false ∧
    request.read.qualityOf? request.week = state.diary.qualityOf? request.week
  deriving Decidable

/--
A save finds the stored card on a stage with review, unless it keeps the
quality; and a call that enters another stage finds the fixed quality that its
copy carries in the stored card.
-/
def IsUpToDate (state : MetricRequests) : MetricStep → Prop
  | .request (.commit index today call) =>
      ∀ copy ∈ state.requests.loaded[index]?,
        call.Enters today { diary := state.diary, journey := copy } →
          call.ReturnsToReview ∨ copy.fixedQualityPercent = none ∨
            copy.fixedQualityPercent = state.diary.journey.fixedQualityPercent
  | .save index accepted =>
      ∀ request ∈ state.prepared[index]?, state.Saves request.copy accepted →
          state.Keeps request ∨ state.diary.isOnReview = true
  | _ => True

instance (state : MetricRequests) (action : MetricStep) :
    Decidable (state.IsUpToDate action) :=
  match action with
  | .request .load => inferInstanceAs (Decidable True)
  | .request (.commit index today call) =>
      inferInstanceAs (Decidable (∀ copy ∈ state.requests.loaded[index]?,
            call.Enters today { diary := state.diary, journey := copy } →
              call.ReturnsToReview ∨ copy.fixedQualityPercent = none ∨
                copy.fixedQualityPercent =
                  state.diary.journey.fixedQualityPercent))
  | .prepare .. => inferInstanceAs (Decidable True)
  | .save index accepted =>
      inferInstanceAs (Decidable (∀ request ∈ state.prepared[index]?,
            (saveMetricWithEvent state.table request.copy accepted).isOk =
                true →
              state.Keeps request ∨ state.diary.isOnReview = true))

/-- The same, while the stored card is on a stage without review. -/
def IsUpToDateOffReview (state : MetricRequests) (action : MetricStep) : Prop :=
  state.IsUpToDate action ∧ state.diary.isOnReview = false

/-! ## Steps -/

/-- What careful steps keep of the fixed quality. -/
structure IsFixed (state : MetricRequests) : Prop where
  numbered : state.IsNumbered
  onReview : state.diary.isOnReview = true →
      state.diary.journey.fixedQualityPercent = none
  latest : ∀ quality, state.diary.journey.fixedQualityPercent = some quality →
      latestQuality? state.diary.metrics = some quality
  copies : ∀ copy ∈ state.requests.loaded,
      group? state.diary.stages copy.currentStageId = some .withReview →
        copy.fixedQualityPercent = none

variable {state next first : MetricRequests} {accepted : Bool}

theorem IsNumbered.qualityOf?_week {metric : WeeklyMetric}
    (numbered : state.IsNumbered) (member : metric ∈ state.diary.metrics) :
    state.diary.qualityOf? metric.weekNumber = metric.qualityPercent := by
  have unique : (state.diary.metrics.map WeeklyMetric.weekNumber).Nodup := by
    have weeks := numbered.weeks
    unfold Rows.Numbered at weeks
    rw [weeks]
    exact List.nodup_range'
  have found : metricOf? state.diary.metrics metric.weekNumber =
      some metric :=
    Rows.find?_of_key unique member (decide_eq_true rfl) fun _ same =>
      of_decide_eq_true same
  rw [Diary.qualityOf?, found, Option.bind_some]

theorem gradedWeeks_save {request : MetricRequest} (numbered : state.IsNumbered)
    (member : request ∈ state.prepared)
    (careful : state.Saves request.copy accepted → state.Keeps request) :
    gradedWeeks (state.save request.copy accepted).diary.metrics =
      gradedWeeks state.diary.metrics := by
  unfold Saves at careful
  unfold MetricRequests.save
  split
  · rfl
  · rename_i table returned
    obtain ⟨ungraded, same⟩ := careful (by rw [returned]; rfl)
    obtain ⟨-, isWeek, isQuality⟩ := prepareMetric_copy request.isPrepared
    rw [ungraded, if_neg Bool.false_ne_true, same] at isQuality
    change gradedWeeks table.metrics = _
    rcases saveMetricWithEvent_rows returned with
      ⟨stored, found, -, rows⟩ | ⟨-, -, isNew, rows⟩
    · obtain ⟨inTable, sameWeek⟩ :=
        numbered.stored (numbered.fits request member) found
      have isStored := numbered.qualityOf?_week inTable
      rw [sameWeek, isWeek] at isStored
      rw [rows]
      refine gradedWeeks_modify fun metric isMetric isRow => ?_
      rw [Rows.eq_of_key numbered.ids isMetric inTable isRow]
      exact Prod.ext sameWeek.symm (isQuality.trans isStored)
    · have missing : metricOf? state.diary.metrics request.week = none := by
        refine List.find?_eq_none.mpr fun other isOther => ?_
        rw [decide_eq_true_eq, ← isWeek]
        exact isNew other isOther
      rw [Diary.qualityOf?, missing, Option.bind_none] at isQuality
      rw [rows]
      exact gradedWeeks_append isQuality

theorem save_rest
    (state : MetricRequests) (prepared : PreparedMetric) (accepted : Bool) :
    (state.save prepared accepted).diary.stages = state.diary.stages ∧
      (state.save prepared accepted).diary.journey = state.diary.journey ∧
      (state.save prepared accepted).requests.loaded =
        state.requests.loaded := by
  unfold MetricRequests.save
  split
  · exact ⟨rfl, rfl, rfl⟩
  · exact ⟨rfl, rfl, rfl⟩

/-- A save of what was read keeps the quality fixed. -/
theorem IsFixed.save {index : Nat} (kept : state.IsFixed)
    (careful : state.IsUpToDate (.save index accepted))
    (stepped : state.step? (.save index accepted) = some next) :
    next.IsFixed ∧ (state.diary.isOnReview = false →
        gradedWeeks next.diary.metrics = gradedWeeks state.diary.metrics) := by
  have numbered := kept.numbered.step stepped
  obtain ⟨request, found, isNext⟩ := Option.bind_eq_some_iff.mp stepped
  obtain rfl := Option.some.inj isNext
  obtain ⟨sameStages, sameJourney, sameLoaded⟩ :=
    state.save_rest request.copy accepted
  have sameReview : (state.save request.copy accepted).diary.isOnReview =
        state.diary.isOnReview := by
    unfold Diary.isOnReview
    rw [sameStages, sameJourney]
  have graded (offReview : state.diary.isOnReview = false) :
      gradedWeeks (state.save request.copy accepted).diary.metrics =
        gradedWeeks state.diary.metrics := by
    refine gradedWeeks_save kept.numbered (List.mem_of_getElem? found)
        fun saves => ?_
    rcases careful request found saves with keeps | isOn
    · exact keeps
    · rw [offReview] at isOn
      cases isOn
  refine ⟨⟨numbered, ?_, ?_, ?_⟩, graded⟩
  · change (state.save request.copy accepted).diary.isOnReview = true →
        (state.save request.copy accepted).diary.journey.fixedQualityPercent =
          none
    rw [sameReview, sameJourney]
    exact kept.onReview
  · change ∀ quality,
        (state.save request.copy accepted).diary.journey.fixedQualityPercent =
            some quality →
          latestQuality? (state.save request.copy accepted).diary.metrics =
            some quality
    rw [sameJourney]
    intro quality isFixed
    cases isOn : state.diary.isOnReview with
    | true =>
        rw [kept.onReview isOn] at isFixed
        cases isFixed
    | false =>
        rw [latestQuality?_eq (graded isOn)]
        exact kept.latest quality isFixed
  · change ∀ copy ∈ (state.save request.copy accepted).requests.loaded,
        group? (state.save request.copy accepted).diary.stages
            copy.currentStageId = some .withReview →
          copy.fixedQualityPercent = none
    rw [sameLoaded, sameStages]
    exact kept.copies

theorem IsFixed.moved
    {next : Diary} {copy : TraineeJourney} {old new : StageGroup}
    (kept : state.IsFixed) (member : copy ∈ state.requests.loaded)
    (moves : state.diary.MovesQuality next copy old new) (careful :
      new = .withReview ∨ copy.fixedQualityPercent = none ∨
        copy.fixedQualityPercent = state.diary.journey.fixedQualityPercent) :
    (next.isOnReview = true → next.journey.fixedQualityPercent = none) ∧
      ∀ quality, next.journey.fixedQualityPercent = some quality →
        latestQuality? next.metrics = some quality := by
  have fixed := moves.fixed
  unfold Diary.isOnReview
  rw [moves.enters, moves.metrics, fixed, fixedAfter]
  by_cases returns : new = .withReview
  · have cleared : (if old ≠ .withReview ∧ new = .withReview then none
          else if old = .withReview ∧ new ≠ .withReview then
            latestQuality? state.diary.metrics
          else copy.fixedQualityPercent) = none := by
      by_cases stays : old = .withReview
      · simp only [stays, returns, ne_eq, not_true_eq_false, false_and,
          and_false, ↓reduceIte]
        exact kept.copies copy member (stays ▸ moves.leaves)
      · simp [stays, returns]
    rw [cleared]
    exact ⟨fun _ => rfl, nofun⟩
  · refine ⟨fun isOn => ?_, fun quality => ?_⟩
    · exact absurd (Option.some.inj (of_decide_eq_true isOn)) returns
    · by_cases leaves : old = .withReview
      · simp [leaves, returns]
      · simp only [leaves, returns, ne_eq, and_false, false_and, ↓reduceIte]
        intro isFixed
        rcases careful with isReturn | isNone | same
        · exact absurd isReturn returns
        · rw [isNone] at isFixed
          cases isFixed
        · exact kept.latest quality (same ▸ isFixed)

theorem IsFixed.request {action : RequestStep} (kept : state.IsFixed)
    (careful : state.IsUpToDate (.request action))
    (stepped : state.step? (.request action) = some next) :
    next.IsFixed ∧ next.diary.metrics = state.diary.metrics := by
  have numbered := kept.numbered.step stepped
  simp only [step?] at stepped
  split at stepped
  · rename_i catalogued
    obtain ⟨requests, moved, rfl⟩ := Option.map_eq_some_iff.mp stepped
    obtain ⟨loaded, rows⟩ :=
      Requests.step_quality kept.numbered.catalog catalogued moved
    have copies (sameStages : requests.diary.stages = state.diary.stages) :
        ∀ copy ∈ requests.loaded,
          group? requests.diary.stages copy.currentStageId = some .withReview →
            copy.fixedQualityPercent = none := by
      rw [sameStages]
      intro copy member isOn
      rcases loaded copy member with isOld | rfl
      · exact kept.copies copy isOld isOn
      · exact kept.onReview (decide_eq_true isOn)
    rcases rows with same | ⟨copy, today, call, old, new, moves⟩
    · have sameReview : requests.diary.isOnReview = state.diary.isOnReview := by
        unfold Diary.isOnReview
        rw [same.stages, same.stage]
        rfl
      refine ⟨⟨numbered, ?_, ?_, copies same.stages⟩, same.metrics⟩
      · change requests.diary.isOnReview = true →
            requests.diary.journey.fixedQualityPercent = none
        rw [sameReview, same.fixed]
        exact kept.onReview
      · change ∀ quality,
            requests.diary.journey.fixedQualityPercent = some quality →
              latestQuality? requests.diary.metrics = some quality
        rw [same.fixed, same.metrics]
        exact kept.latest
    · obtain ⟨index, rfl, found⟩ := moves.commits
      have upToDate := careful copy found moves.enters
      obtain ⟨onReview, latest⟩ :=
        kept.moved (List.mem_of_getElem? found) moves.moves
          (upToDate.imp moves.returns id)
      exact ⟨⟨numbered, onReview, latest, copies moves.moves.stages⟩,
          moves.moves.metrics⟩
  · cases stepped

theorem IsFixed.prepare
    {isStaff : Bool} {week : Nat} {post : WeeklyPost} (kept : state.IsFixed)
    (stepped : state.step? (.prepare isStaff week post) = some next) :
    next.IsFixed ∧ next.diary.metrics = state.diary.metrics := by
  have numbered := kept.numbered.step stepped
  obtain rfl := Option.some.inj stepped
  have same : (state.prepare isStaff week post).requests = state.requests := by
    unfold MetricRequests.prepare
    split <;> rfl
  unfold diary
  rw [same]
  refine ⟨⟨numbered, ?_, ?_, ?_⟩, rfl⟩
  · unfold diary
    rw [same]
    exact kept.onReview
  · unfold diary
    rw [same]
    exact kept.latest
  · unfold diary
    rw [same]
    exact kept.copies

theorem IsFixed.step {action : MetricStep} (kept : state.IsFixed)
    (careful : state.IsUpToDate action)
    (stepped : state.step? action = some next) :
    next.IsFixed ∧ (state.diary.isOnReview = false →
        gradedWeeks next.diary.metrics = gradedWeeks state.diary.metrics) := by
  cases action with
  | request action =>
      obtain ⟨fixed, same⟩ := kept.request careful stepped
      exact ⟨fixed, fun _ => by rw [same]⟩
  | prepare isStaff week post =>
      obtain ⟨fixed, same⟩ := kept.prepare stepped
      exact ⟨fixed, fun _ => by rw [same]⟩
  | save index accepted => exact kept.save careful stepped

theorem IsFixed.ofStart (ungraded : diary.IsUngraded) (sequence : Pk) :
    (start diary sequence).IsFixed := by
  have noMetrics : (start diary sequence).diary.metrics = [] := ungraded.metrics
  have notFixed :
      (start diary sequence).diary.journey.fixedQualityPercent = none :=
    ungraded.fixed
  refine ⟨⟨ungraded.catalog, ?_, ?_, ?_, ?_⟩, fun _ => notFixed, ?_, ?_⟩
  · rw [noMetrics]
    exact .nil _
  · rw [noMetrics]
    exact .nil
  · rw [noMetrics]
    exact nofun
  · exact fun _ member => (List.not_mem_nil member).elim
  · rw [notFixed]
    exact nofun
  · exact fun _ member => (List.not_mem_nil member).elim

/-! ## Runs -/

theorem IsFixed.run
    (kept : first.IsFixed) (run : Run step? IsUpToDate first actions last) :
    last.IsFixed :=
  run.invariant IsFixed
    (fun _ _ _ careful stepped holds => (holds.step careful stepped).1) kept

/-- The weeks are numbered in every run, whatever its requests read. -/
theorem weeks_numbered
    (kept : first.IsNumbered) (run : Run step? anything first actions last) :
    last.diary.metrics.map WeeklyMetric.weekNumber =
      List.range' 1 last.diary.metrics.length :=
  (run.invariant IsNumbered (fun _ _ _ _ stepped holds => holds.step stepped)
    kept).weeks

theorem IsFixed.gradedWeeks_run (kept : first.IsFixed)
    (run : Run step? IsUpToDateOffReview first actions last) :
    gradedWeeks last.diary.metrics = gradedWeeks first.diary.metrics := by
  have both := run.invariant (fun state =>
        state.IsFixed ∧
          gradedWeeks state.diary.metrics = gradedWeeks first.diary.metrics)
      (fun _ _ _ careful stepped holds =>
        have stepFacts := holds.1.step careful.1 stepped
        ⟨stepFacts.1, (stepFacts.2 careful.2).trans holds.2⟩)
      ⟨kept, rfl⟩
  exact both.2

end MetricRequests

/--
On a card that starts without metrics, the weeks are numbered in every run.  In
every run of up-to-date steps a fixed quality is the latest in the state
reached, and over every part of the run off review no stored quality changes.
-/
theorem weeklyQuality_fixed
    {diary : Diary} (ungraded : diary.IsUngraded) (sequence : Pk) :
    (∀ actions last,
        Run MetricRequests.step? anything (.start diary sequence) actions last →
        last.diary.metrics.map WeeklyMetric.weekNumber =
          List.range' 1 last.diary.metrics.length) ∧
      ∀ actions last, Run MetricRequests.step? MetricRequests.IsUpToDate
          (.start diary sequence) actions last →
        last.diary.QualityFixed ∧ ∀ early late middle, actions = early ++ late →
          Run MetricRequests.step? MetricRequests.IsUpToDate
            (.start diary sequence) early middle →
          Run MetricRequests.step? MetricRequests.IsUpToDateOffReview middle
            late last →
          gradedWeeks last.diary.metrics =
            gradedWeeks middle.diary.metrics := by
  have initially := MetricRequests.IsFixed.ofStart ungraded sequence
  refine ⟨fun actions last run =>
    MetricRequests.weeks_numbered initially.numbered run, ?_⟩
  intro actions last run
  have kept := initially.run run
  refine ⟨⟨kept.numbered.weeks, kept.latest⟩, ?_⟩
  intro early late middle _ earlyRun lateRun
  exact (initially.run earlyRun).gradedWeeks_run lateRun

/-- A card that was created on a stage with review. -/
def reviewedDiary : Diary :=
  created [sampleStage 1 .withReview, sampleStage 2 .optionalReview] [] 1
    (sampleJourney 1 0)

/-- A weekly metric of six hours with the quality. -/
def gradedPost (quality : Nat) : WeeklyPost where
  speedHours := .value 60
  qualityPercent := .value quality
  mentorComment := []
  nextWeekGoal := []

/-- The first week is graded, and the card then leaves the review. -/
def gradedSteps : List MetricStep :=
  [.request .load, .prepare true 1 (gradedPost 80), .save 0 true, .request
      (.commit 0 9
        (.moveToStage (sampleStage 2 .optionalReview) none [] (some 5) true))]

theorem reviewedDiary_isUngraded : reviewedDiary.IsUngraded :=
  ⟨by decide, rfl, rfl⟩

theorem weeklyQuality_fixed_graded :
    let last := after
        (guarded (fun state action => decide (state.IsUpToDate action))
          MetricRequests.step?)
        (MetricRequests.start reviewedDiary 1) gradedSteps
    last.diary.QualityFixed ∧ ∀ early late middle, gradedSteps = early ++ late →
        Run MetricRequests.step? MetricRequests.IsUpToDate
          (.start reviewedDiary 1) early middle →
        Run MetricRequests.step? MetricRequests.IsUpToDateOffReview middle
          late last →
        gradedWeeks last.diary.metrics = gradedWeeks middle.diary.metrics :=
  (weeklyQuality_fixed reviewedDiary_isUngraded 1).2 _ _
    (run_after_guarded (fun _ _ => of_decide_eq_true) (by decide))

/-- A second grade of the first week is filled in before the move. -/
def beforeStaleSave : List MetricStep :=
  [.request .load, .prepare true 1 (gradedPost 80), .save 0 true,
    .prepare true 1 (gradedPost 60),
    .request (.commit 0 9
        (.moveToStage (sampleStage 2 .optionalReview) none [] (some 5) true))]

/-- The requests of an example up to the stale save. -/
def staleMoved : MetricRequests :=
  after MetricRequests.step? (.start reviewedDiary 1) beforeStaleSave

/-- The requests of an example after the stale save. -/
def staleSaved : MetricRequests :=
  after MetricRequests.step? staleMoved [.save 0 true]

/--
A grade that was filled in before the card left the review is saved after it:
the stored quality changes off review and is not the fixed one.
-/
theorem weeklyQuality_stale :
    reviewedDiary.IsUngraded ∧
      Run MetricRequests.step? anything (.start reviewedDiary 1)
        beforeStaleSave staleMoved ∧
      Run MetricRequests.step?
        (fun state _ => state.diary.isOnReview = false) staleMoved
        [.save 0 true] staleSaved ∧
      ¬ staleSaved.diary.QualityFixed ∧
      gradedWeeks staleSaved.diary.metrics ≠
        gradedWeeks staleMoved.diary.metrics := by
  refine ⟨reviewedDiary_isUngraded, ?_, ?_, ?_, by decide⟩
  · exact run_after (fun _ _ _ => trivial) (by decide)
  · exact .single (by decide) (step?_after (by decide))
  · intro isFixed
    have latest := isFixed.fixed 80 (by decide)
    exact absurd latest (by decide)

end TicketSandbox.TraineeDiary
