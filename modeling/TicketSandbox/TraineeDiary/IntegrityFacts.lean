import TicketSandbox.TraineeDiary.HistoryFacts

namespace TicketSandbox.TraineeDiary

/-!
# What the readers of the history accept

`history_for` returns the visits, and `check_journey_integrity` reports
nothing, under conditions on the card and on its visits one by one.
-/

open Sandbox (Pk Text strip)

/-! ## `history_for` -/

variable {today : Day} {code : IssueCode} {journey : TraineeJourney}
  {stage : TraineeStage} {issue : TraineeIntegrityIssue}
  {entries : List StageHistory} {diary : Diary} {allowed : IssueCode → Prop}
  {row : StageHistory}

/-- When all visits of a session agree. -/
theorem Session.visitsAgree_append
    {session : Session} {earlier : List StageHistory} {last : StageHistory} :
    session.VisitsAgree today (earlier ++ [last]) ↔
      (∀ visit ∈ earlier ++ [last], session.VisitAgrees today visit) ∧
        (earlier ++ [last]).IsChain
          (fun visit next => visit.endedAt = some next.startedAt) ∧
        last.endedAt = none ∧ session.IsCurrent last := by
  induction earlier with
  | nil => simp [VisitsAgree]
  | cons visit rest inductionHypothesis =>
      cases rest with
      | nil =>
          simp only [List.cons_append, List.nil_append, VisitsAgree,
            List.forall_mem_cons, List.isChain_cons_cons,
            List.isChain_singleton]
          simp only [List.not_mem_nil, false_imp_iff, implies_true]
          tauto
      | cons second others =>
          simp only [List.cons_append] at inductionHypothesis ⊢
          rw [VisitsAgree, inductionHypothesis, List.isChain_cons_cons]
          simp only [List.forall_mem_cons]
          tauto

/-! ## Issues about the history -/

theorem mem_addIssueIf {condition : Prop} [Decidable condition]
    {message : String} :
    issue ∈ addIssueIf condition code message ↔
      condition ∧ issue = { code, message } := by
  unfold addIssueIf Findings.when
  split <;> simp_all

/-- The codes about the history of the stages. -/
def historyCodes : List IssueCode :=
  [.openHistoryCount, .currentStageMismatch, .currentStageDateMismatch,
    .invalidHistoryInterval, .openHistoryNotLast, .historyGap,
    .historyOverlap]

theorem stageIssues_code (member : issue ∈ stageIssues journey stage today) :
    issue.code ∉ historyCodes := by
  simp only [stageIssues, List.mem_append, mem_addIssueIf] at member
  rcases member with
    (((⟨-, rfl⟩ | ⟨-, rfl⟩) | ⟨-, rfl⟩) | ⟨-, rfl⟩) | ⟨-, rfl⟩
  all_goals simp [historyCodes]

theorem firstIssues_code (member : issue ∈ firstIssues journey entries) :
    issue.code ∉ historyCodes := by
  cases entries with
  | nil => cases member
  | cons entry rest =>
      obtain ⟨-, rfl⟩ := mem_addIssueIf.mp member
      simp [historyCodes]

theorem completionIssues_code
    (member : issue ∈ completionIssues journey stage today) :
    issue.code ∉ historyCodes := by
  simp only [completionIssues, List.mem_append, mem_addIssueIf] at member
  rcases member with
    ((((((⟨-, rfl⟩ | ⟨-, rfl⟩) | ⟨-, rfl⟩) | ⟨-, rfl⟩) | ⟨-, rfl⟩) |
      ⟨-, rfl⟩) | ⟨-, rfl⟩) | ⟨-, rfl⟩
  all_goals simp [historyCodes]

theorem chainIssues_eq_nil (linked :
      entries.IsChain fun row next => row.endedAt = some next.startedAt) :
    chainIssues entries = [] := by
  induction entries with
  | nil => rfl
  | cons previous rest inductionHypothesis =>
      cases rest with
      | nil => rfl
      | cons next others =>
          rw [List.isChain_cons_cons] at linked
          obtain ⟨ends, linked⟩ := linked
          rw [chainIssues, inductionHypothesis linked]
          simp [linkIssues, ends, addIssueIf, Findings.when]

theorem Diary.IsConsistent.checks
    (consistent : diary.IsConsistent) (stage : TraineeStage) (today : Day) :
    ∀ issue ∈ checkJourneyIntegrity diary.load stage today,
      issue.code ∉ historyCodes := by
  obtain ⟨row, only, isCurrent⟩ := consistent.openRow
  have sorted :=
    (chronological_perm diary.history).filter fun row => row.endedAt.isNone
  rw [only, List.perm_singleton] at sorted
  have noOpen : openIssues diary.load (chronological diary.history) = [] := by
    unfold openIssues
    rw [sorted]
    simp [addIssueIf, isCurrent.1, isCurrent.2]
  have noChain := chainIssues_eq_nil consistent.contiguous
  have noIntervals :
      (chronological diary.history).flatMap intervalIssues = [] := by
    refine Findings.flatMap_eq_nil.mpr fun entry member => ?_
    refine Findings.when_eq_nil.mpr ?_
    rintro ⟨ended, isEnded, before⟩
    have ordered :=
      consistent.intervals entry (mem_chronological.mp member) ended isEnded
    exact Nat.not_le_of_lt before ordered
  intro issue member
  simp only [checkJourneyIntegrity, show diary.load.diary = diary from rfl,
    noOpen, noIntervals, noChain, List.append_nil, List.mem_append]
    at member
  rcases member with ((isStage | isEmpty) | isFirst) | isCompletion
  · exact stageIssues_code isStage
  · obtain ⟨-, rfl⟩ := mem_addIssueIf.mp isEmpty
    simp [historyCodes]
  · exact firstIssues_code isFirst
  · exact completionIssues_code isCompletion

/-! ## Cards without issues -/

/-- The codes of the issues that only data of a completion are missing. -/
def missingCodes : List IssueCode :=
  [.doneWithoutCompletionStatus, .doneWithoutCompletedAt]

/-- The completion of a card, as far as there is one, is in order. -/
structure TraineeJourney.CompletionInOrder
    (journey : TraineeJourney) (stage : TraineeStage) (today : Day) : Prop where
  outside : stage.group ≠ .done →
      journey.completionStatus = .empty ∧ journey.completedAt = none ∧
        strip journey.completionComment = [] ∧ journey.completedById = none
  known : journey.completionStatus ≠ .empty → journey.completionStatus.IsKnown
  reason : journey.completionStatus = .terminated →
      strip journey.completionComment ≠ []
  dates : ∀ completed ∈ journey.completedAt,
      journey.probationStartDate ≤ completed ∧ completed ≤ today ∧
        (stage.group = .done → journey.stageStartedAt = completed)

/-- A card that is in order, apart from missing data of its completion. -/
structure Diary.InOrder
    (diary : Diary) (stage : TraineeStage) (today : Day) : Prop where
  begun : diary.journey.probationStartDate ≤ diary.journey.stageStartedAt
  notFuture : diary.journey.stageStartedAt ≤ today
  applies : StageApplies stage diary.journey.stageScheme diary.journey.entryType
  consistent : diary.IsConsistent
  first : ∀ entry ∈ (chronological diary.history).head?,
      entry.startedAt = diary.journey.probationStartDate
  completion : diary.journey.CompletionInOrder stage today

theorem forall_addIssueIf
    {condition : Prop} [Decidable condition] {message : String} :
    (∀ issue ∈ addIssueIf condition code message, allowed issue.code) ↔
      (condition → allowed code) := by
  simp only [mem_addIssueIf]
  constructor
  · exact fun all holds => all _ ⟨holds, rfl⟩
  · rintro implies issue ⟨holds, rfl⟩
    exact implies holds

theorem stageIssues_allowed (only : ∀ code, allowed code → code ∈ missingCodes)
    (journey : TraineeJourney) (stage : TraineeStage) (today : Day) :
    (∀ issue ∈ stageIssues journey stage today, allowed issue.code) ↔
      journey.probationStartDate ≤ journey.stageStartedAt ∧
        journey.stageStartedAt ≤ today ∧
        StageApplies stage journey.stageScheme journey.entryType := by
  have never : ∀ code, code ∉ missingCodes → ¬ allowed code :=
    fun code other isAllowed => other (only code isAllowed)
  simp only [stageIssues, List.forall_mem_append, forall_addIssueIf,
    never .probationStartInFuture (by decide),
    never .stageBeforeProbation (by decide),
    never .stageStartInFuture (by decide),
    never .stageNotApplicable (by decide),
    never .stageSchemeMismatch (by decide), imp_false, not_not, not_lt,
    Bool.not_eq_false]
  constructor
  · rintro ⟨⟨⟨⟨-, begun⟩, notFuture⟩, -⟩, applies⟩
    exact ⟨begun, notFuture, applies⟩
  · rintro ⟨begun, notFuture, applies⟩
    exact ⟨⟨⟨⟨Nat.le_trans begun notFuture, begun⟩, notFuture⟩, applies.2.2⟩,
        applies⟩

theorem openIssues_allowed (only : ∀ code, allowed code → code ∈ missingCodes)
    (session : Session) (entries : List StageHistory) :
    (∀ issue ∈ openIssues session entries, allowed issue.code) ↔ ∃ row,
        entries.filter (fun entry => entry.endedAt.isNone) = [row] ∧
          session.IsCurrent row := by
  have never : ∀ code, code ∉ missingCodes → ¬ allowed code :=
    fun code other isAllowed => other (only code isAllowed)
  unfold openIssues
  split
  next row isOnly =>
    rw [isOnly]
    simp only [List.forall_mem_append, forall_addIssueIf,
      never .currentStageMismatch (by decide),
      never .currentStageDateMismatch (by decide), imp_false, not_not,
      List.cons.injEq, and_true, ne_eq]
    constructor
    · intro current
      exact ⟨row, rfl, current⟩
    · rintro ⟨_, rfl, current⟩
      exact current
  next openEntries notOne =>
    constructor
    · intro all
      exact absurd (all _ (.head _)) (never .openHistoryCount (by decide))
    · rintro ⟨row, isOnly, -⟩
      exact absurd isOnly (notOne row)

theorem firstIssues_allowed (only : ∀ code, allowed code → code ∈ missingCodes)
    (journey : TraineeJourney) (entries : List StageHistory) :
    (∀ issue ∈ firstIssues journey entries, allowed issue.code) ↔
      ∀ entry ∈ entries.head?,
        entry.startedAt = journey.probationStartDate := by
  have never : ∀ code, code ∉ missingCodes → ¬ allowed code :=
    fun code other isAllowed => other (only code isAllowed)
  cases entries with
  | nil => simp [firstIssues]
  | cons entry rest =>
      simp only [firstIssues, forall_addIssueIf,
        never .firstHistoryDateMismatch (by decide), imp_false, not_not,
        ne_eq, List.head?_cons, Option.mem_some_iff, forall_eq']

theorem intervalIssues_allowed
    (only : ∀ code, allowed code → code ∈ missingCodes)
    (entries : List StageHistory) :
    (∀ issue ∈ entries.flatMap intervalIssues, allowed issue.code) ↔
      ∀ entry ∈ entries, ∀ ended ∈ entry.endedAt, entry.startedAt ≤ ended := by
  have never : ∀ code, code ∉ missingCodes → ¬ allowed code :=
    fun code other isAllowed => other (only code isAllowed)
  simp only [List.forall_mem_flatMap, intervalIssues, forall_addIssueIf,
    never .invalidHistoryInterval (by decide), imp_false, not_exists,
    not_and, not_lt]

theorem chainIssues_allowed (only : ∀ code, allowed code → code ∈ missingCodes)
    (entries : List StageHistory) :
    (∀ issue ∈ chainIssues entries, allowed issue.code) ↔
      entries.IsChain fun row next => row.endedAt = some next.startedAt := by
  have never : ∀ code, code ∉ missingCodes → ¬ allowed code :=
    fun code other isAllowed => other (only code isAllowed)
  have link : ∀ previous next : StageHistory,
        (∀ issue ∈ linkIssues previous next, allowed issue.code) ↔
          previous.endedAt = some next.startedAt := by
    intro previous next
    unfold linkIssues
    cases previous.endedAt with
    | none => simp [never .openHistoryNotLast (by decide)]
    | some ended =>
        simp only [Option.some.injEq]
        split
        next gap => simp [never .historyGap (by decide), Nat.ne_of_lt gap]
        next noGap =>
          simp only [forall_addIssueIf, never .historyOverlap (by decide),
            imp_false, not_lt]
          exact ⟨fun before => Nat.le_antisymm before (Nat.le_of_not_lt noGap),
              fun same => same.le⟩
  induction entries with
  | nil => simp [chainIssues]
  | cons previous rest inductionHypothesis =>
      cases rest with
      | nil => simp [chainIssues]
      | cons next others =>
          rw [chainIssues, List.forall_mem_append, List.isChain_cons_cons]
          exact and_congr (link previous next) inductionHypothesis

theorem completionIssues_allowed
    (only : ∀ code, allowed code → code ∈ missingCodes)
    (journey : TraineeJourney) (stage : TraineeStage) (today : Day) :
    (∀ issue ∈ completionIssues journey stage today, allowed issue.code) ↔
      journey.CompletionInOrder stage today ∧
        (stage.group = .done ∧ journey.completionStatus = .empty →
          allowed .doneWithoutCompletionStatus) ∧
        (stage.group = .done ∧ journey.completedAt = none →
          allowed .doneWithoutCompletedAt) := by
  have never : ∀ code, code ∉ missingCodes → ¬ allowed code :=
    fun code other isAllowed => other (only code isAllowed)
  simp only [completionIssues, List.forall_mem_append, forall_addIssueIf,
    never .completionDataOutsideDone (by decide),
    never .unknownCompletionStatus (by decide),
    never .terminatedWithoutComment (by decide),
    never .completionBeforeProbation (by decide),
    never .completionInFuture (by decide),
    never .doneStageDateMismatch (by decide), imp_false, not_exists, not_and,
    not_not, not_lt, not_or, decide_eq_true_eq, decide_eq_false_iff_not,
    ne_eq]
  constructor
  · rintro ⟨⟨⟨⟨⟨⟨⟨status, date⟩, outside⟩, known⟩, reason⟩, before⟩, future⟩,
      mismatch⟩
    exact ⟨⟨outside, known, reason, fun completed isCompleted =>
          ⟨before completed isCompleted, future completed isCompleted,
            mismatch completed isCompleted⟩⟩,
        status, date⟩
  · rintro ⟨inOrder, status, date⟩
    exact
      ⟨⟨⟨⟨⟨⟨⟨status, date⟩, inOrder.outside⟩, inOrder.known⟩, inOrder.reason⟩,
          fun completed isCompleted => (inOrder.dates completed isCompleted).1⟩,
        fun completed isCompleted => (inOrder.dates completed isCompleted).2.1⟩,
        fun completed isCompleted => (inOrder.dates completed isCompleted).2.2⟩

theorem filter_chronological {holds : StageHistory → Bool}
    {history : List StageHistory} :
    (chronological history).filter holds = [row] ↔
      history.filter holds = [row] := by
  have perm := (chronological_perm history).filter holds
  rw [← List.perm_singleton, ← List.perm_singleton]
  exact ⟨perm.symm.trans, perm.trans⟩

theorem checkJourneyIntegrity_allowed
    (only : ∀ code, allowed code → code ∈ missingCodes) (diary : Diary)
    (stage : TraineeStage) (today : Day) :
    (∀ issue ∈ checkJourneyIntegrity diary.load stage today,
        allowed issue.code) ↔
      diary.InOrder stage today ∧
        (stage.group = .done ∧ diary.journey.completionStatus = .empty →
          allowed .doneWithoutCompletionStatus) ∧
        (stage.group = .done ∧ diary.journey.completedAt = none →
          allowed .doneWithoutCompletedAt) := by
  have noEmpty : ¬ allowed .noStageHistory :=
    fun isAllowed => absurd (only _ isAllowed) (by decide)
  simp only [checkJourneyIntegrity, List.forall_mem_append,
    forall_addIssueIf, noEmpty, imp_false]
  rw [stageIssues_allowed only, openIssues_allowed only,
    firstIssues_allowed only, intervalIssues_allowed only,
    chainIssues_allowed only, completionIssues_allowed only]
  simp only [show diary.load.diary = diary from rfl,
    show diary.load.journey = diary.journey from rfl, filter_chronological,
    mem_chronological]
  constructor
  · rintro ⟨⟨⟨⟨⟨⟨⟨begun, notFuture, applies⟩, -⟩, openRow⟩, first⟩,
      intervals⟩, contiguous⟩, completion, missing⟩
    exact ⟨⟨begun, notFuture, applies, ⟨openRow, contiguous, intervals⟩, first,
        completion⟩, missing⟩
  · rintro ⟨inOrder, missing⟩
    have consistent := inOrder.consistent
    have notEmpty : chronological diary.history ≠ [] := by
      obtain ⟨earlier, last, shape, -, -⟩ := consistent.split
      rw [shape]
      exact List.concat_ne_nil last earlier
    exact ⟨⟨⟨⟨⟨⟨⟨inOrder.begun, inOrder.notFuture, inOrder.applies⟩, notEmpty⟩,
                consistent.openRow⟩, inOrder.first⟩, consistent.intervals⟩,
          consistent.contiguous⟩, inOrder.completion, missing⟩

/-- The check finds nothing in a diary in order with its completion. -/
theorem checkJourneyIntegrity_eq_nil
    (diary : Diary) (stage : TraineeStage) (today : Day) :
    checkJourneyIntegrity diary.load stage today = [] ↔
      diary.InOrder stage today ∧ (stage.group = .done →
          diary.journey.completionStatus ≠ .empty ∧
            diary.journey.completedAt ≠ none) := by
  have iff :=
    @checkJourneyIntegrity_allowed (fun _ => False) (fun _ => False.elim)
      diary stage today
  simp only [imp_false] at iff
  rw [List.eq_nil_iff_forall_not_mem, iff]
  simp only [not_and, ne_eq]
  constructor
  · rintro ⟨inOrder, status, date⟩
    exact ⟨inOrder, fun isDone => ⟨status isDone, date isDone⟩⟩
  · rintro ⟨inOrder, complete⟩
    exact ⟨inOrder, fun isDone => (complete isDone).1,
        fun isDone => (complete isDone).2⟩

/-- In a diary in order at most the completion is missing. -/
theorem checkJourneyIntegrity_missing
    (diary : Diary) (stage : TraineeStage) (today : Day) :
    (∀ issue ∈ checkJourneyIntegrity diary.load stage today,
        issue.code ∈ missingCodes) ↔
      diary.InOrder stage today := by
  rw [checkJourneyIntegrity_allowed fun _ isMissing => isMissing]
  simp [missingCodes]

/-! ## Cards in order and their visits -/

theorem Diary.InOrder.le_startedAt
    (inOrder : diary.InOrder stage today) (member : row ∈ diary.history) :
    diary.journey.probationStartDate ≤ row.startedAt := by
  have sorted : (chronological diary.history).Pairwise
      StageHistory.Precedes :=
    List.pairwise_insertionSort _ _
  have first := inOrder.first
  have inList := mem_chronological.mpr member
  cases shape : chronological diary.history with
  | nil =>
      rw [shape] at inList
      cases inList
  | cons entry rest =>
      rw [shape] at sorted first inList
      have isFirst : entry.startedAt = diary.journey.probationStartDate :=
        first entry rfl
      rcases List.mem_cons.mp inList with rfl | inRest
      · exact isFirst.ge
      · have precedes := List.rel_of_pairwise_cons sorted inRest
        unfold StageHistory.Precedes at precedes
        lia

theorem Diary.InOrder.endedAt_le
    (inOrder : diary.InOrder stage today) {ended : Day}
    (member : row ∈ diary.history) (isEnded : row.endedAt = some ended) :
    ended ≤ today := by
  obtain ⟨earlier, last, shape, isCurrent, continuous⟩ :=
    inOrder.consistent.split
  obtain ⟨next, nextMember, same⟩ :=
    Timelines.exists_begins_of_linked continuous.linked continuous.lastOpen
      (mem_chronological.mpr member) isEnded
  have beforeCurrent :=
    inOrder.consistent.startedAt_le (mem_chronological.mp nextMember)
  rw [← same]
  exact Nat.le_trans beforeCurrent inOrder.notFuture

/-- Every visit is on a stage that applies to the card. -/
def Diary.VisitsApply (diary : Diary) : Prop :=
  ∀ row ∈ diary.history, ∃ stage ∈ diary.load.effectiveStage? row,
      StageApplies stage diary.journey.stageScheme diary.journey.entryType

theorem Diary.InOrder.historyFor?_iff (inOrder : diary.InOrder stage today) :
    historyFor? diary.load today ≠ none ↔ diary.VisitsApply := by
  obtain ⟨earlier, last, shape, isCurrent, continuous⟩ :=
    inOrder.consistent.split
  have begun : ¬ today < diary.load.journey.probationStartDate :=
    Nat.not_lt_of_le (Nat.le_trans inOrder.begun inOrder.notFuture)
  have isOpen : last.endedAt = none :=
    continuous.lastOpen last (by simp [shape])
  have agrees : diary.load.VisitsAgree today (chronological diary.history) ↔
        diary.VisitsApply := by
    rw [shape, Session.visitsAgree_append, ← shape]
    constructor
    · intro accepted row member
      exact (accepted.1 row (mem_chronological.mpr member)).2.1
    · intro applies
      refine ⟨fun row isVisit => ?_, continuous.linked, isOpen, isCurrent⟩
      have member := mem_chronological.mp isVisit
      have beforeCurrent := inOrder.consistent.startedAt_le member
      exact ⟨⟨inOrder.le_startedAt member,
            Nat.le_trans beforeCurrent inOrder.notFuture⟩,
          applies row member,
          fun ended isEnded =>
            ⟨inOrder.consistent.intervals row member ended isEnded,
              inOrder.endedAt_le member isEnded⟩⟩
  rw [← agrees]
  unfold historyFor?
  rw [show diary.load.diary = diary from rfl]
  have notEmpty : chronological diary.history ≠ [] := by
    rw [shape]
    exact List.concat_ne_nil last earlier
  simp only [notEmpty, begun, or_self, ↓reduceIte]
  split <;> simp_all

end TicketSandbox.TraineeDiary
