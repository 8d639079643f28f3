import TicketSandbox.TraineeDiary.Integrity
import TicketSandbox.TraineeDiary.TransitionFacts

namespace TicketSandbox.TraineeDiary

/-!
# Histories that agree with their card

In the order of the rows every visit ends where the next one begins, and the
last one is open and is the stage of the card.  A transition keeps this when
its date is not before the date of the stored stage.
-/

open Sandbox (Pk Text)

/-- The card as an object that is loaded from its row. -/
def Diary.load (diary : Diary) : Session :=
  { diary, journey := diary.journey }

variable {diary next : Diary} {today date : Day} {row : StageHistory}
  {stages : List TraineeStage} {journey : TraineeJourney}
  {newStage : TraineeStage}

theorem Call.Effect.loaded {call : Call} {started moved next : Session}
    (effect : call.Effect diary.load today started moved next) :
    next = next.diary.load := by
  have sameCard :
      started.journey.withoutCompletion = diary.journey.withoutCompletion :=
    effect.sameCard
  have sameRows : started.diary = diary := effect.sameRows
  rcases effect.moves with rfl | ⟨newStage, entered⟩
  · rcases effect.writes with ⟨rfl, rfl⟩ | rfl
    · rfl
    · refine congrArg (Session.mk _) ?_
      change moved.journey = moved.diary.journey.withCompletionOf moved.journey
      rw [sameRows]
      exact (TraineeJourney.withCompletionOf_of_withoutCompletion sameCard).symm
  · obtain ⟨changedBy, note, rows⟩ := entered.rows
    have rowJourney :
        moved.diary.journey = diary.journey.withStageOf moved.journey := by
      rw [rows, sameRows]
      rfl
    rcases effect.writes with ⟨rfl, rfl⟩ | rfl
    · refine congrArg (Session.mk _) ?_
      rw [rowJourney]
      exact
        (TraineeJourney.withStageOf_of_withoutStage entered.outline.symm).symm
    · refine congrArg (Session.mk _) ?_
      change moved.journey = moved.diary.journey.withCompletionOf moved.journey
      rw [rowJourney]
      refine (TraineeJourney.restored_of_outline ?_).symm
      exact (TraineeJourney.outline_of_withoutStage entered.outline).symm.trans
          (TraineeJourney.outline_of_withoutCompletion sameCard)

/-- One row is open and is the stage of the card, the rows in their order are
contiguous, and none ends before it begins. -/
structure Diary.IsConsistent (diary : Diary) : Prop where
  openRow : ∃ row,
      diary.history.filter (fun row => row.endedAt.isNone) = [row] ∧
        diary.load.IsCurrent row
  contiguous : (chronological diary.history).IsChain
      fun row next => row.endedAt = some next.startedAt
  intervals :
    ∀ row ∈ diary.history, ∀ ended ∈ row.endedAt, row.startedAt ≤ ended

/-- The next row gets a number that no row had. -/
structure Diary.IsNumbered (diary : Diary) : Prop where
  history : ∀ row ∈ diary.history, row.id < diary.historySequence
  transfer : ∀ transfer ∈ diary.transfer, ∀ id ∈ transfer.sourceHistoryIds,
      id < diary.historySequence

/-! ## The order of the rows -/

instance : Std.Total StageHistory.Precedes := by
  refine ⟨fun first second => ?_⟩
  unfold StageHistory.Precedes
  lia

instance : IsTrans StageHistory StageHistory.Precedes := by
  refine ⟨fun first second third before after => ?_⟩
  unfold StageHistory.Precedes at *
  lia

theorem chronological_perm (history : List StageHistory) :
    (chronological history).Perm history :=
  List.perm_insertionSort _ _

variable {history : List StageHistory}

theorem mem_chronological : row ∈ chronological history ↔ row ∈ history :=
  (chronological_perm history).mem_iff

theorem chronological_endOpen (date : Day) (history : List StageHistory) :
    chronological (endOpen date history) =
      endOpen date (chronological history) := by
  unfold chronological endOpen Timelines.closeOpen
  refine (List.map_insertionSort _ _ _ history ?_).symm
  intro first _ second _
  split <;> split <;> rfl

theorem mem_endOpen :
    row ∈ endOpen date history ↔ (row ∈ history ∧ row.endedAt ≠ none) ∨
        ∃ before ∈ history, before.endedAt = none ∧
          row = { before with endedAt := some date } := by
  unfold endOpen Timelines.closeOpen
  rw [List.mem_map]
  constructor
  · rintro ⟨before, member, rfl⟩
    by_cases isOpen : before.endedAt = none
    · exact .inr ⟨before, member, isOpen, by simp [isOpen]⟩
    · exact .inl (by simp [isOpen, member])
  · rintro (⟨member, isClosed⟩ | ⟨before, member, isOpen, rfl⟩)
    · exact ⟨row, member, by simp [isClosed]⟩
    · exact ⟨before, member, by simp [isOpen]⟩

theorem chronological_append (last : ∀ other ∈ history, other.Precedes row) :
    chronological (history ++ [row]) = chronological history ++ [row] :=
  Timelines.insertionSort_append last

/-! ## Consistent histories as timelines -/

/-- The last visit of a consistent diary is the current one. -/
theorem Diary.IsConsistent.split (consistent : diary.IsConsistent) :
    ∃ earlier last, chronological diary.history = earlier ++ [last] ∧
        diary.load.IsCurrent last ∧
        Timelines.Continuous StageHistory.startedAt StageHistory.endedAt
          (chronological diary.history) := by
  obtain ⟨row, only, isCurrent⟩ := consistent.openRow
  have sorted :=
    (chronological_perm diary.history).filter fun row => row.endedAt.isNone
  rw [only, List.perm_singleton] at sorted
  obtain ⟨earlier, shape, continuous⟩ :=
    Timelines.Continuous.ofOpen consistent.contiguous sorted
  exact ⟨earlier, row, shape, isCurrent, continuous⟩

theorem Diary.IsConsistent.ofTimeline
    {earlier : List StageHistory} {last : StageHistory}
    (shape : chronological diary.history = earlier ++ [last])
    (isCurrent : diary.load.IsCurrent last) (continuous :
      Timelines.Continuous StageHistory.startedAt StageHistory.endedAt
        (chronological diary.history))
    (intervals :
      ∀ row ∈ diary.history, ∀ ended ∈ row.endedAt, row.startedAt ≤ ended) :
    diary.IsConsistent := by
  refine ⟨⟨last, ?_, isCurrent⟩, continuous.linked, intervals⟩
  rw [shape] at continuous
  have sorted :=
    (chronological_perm diary.history).filter fun row => row.endedAt.isNone
  rw [shape, continuous.filter_open] at sorted
  exact List.perm_singleton.mp sorted.symm

theorem Diary.IsConsistent.current (consistent : diary.IsConsistent) :
    ∃ row ∈ diary.history, row.endedAt = none ∧ diary.load.IsCurrent row := by
  obtain ⟨row, only, isCurrent⟩ := consistent.openRow
  have member : row ∈ diary.history.filter fun row => row.endedAt.isNone := by
    simp [only]
  obtain ⟨inHistory, isOpen⟩ := List.mem_filter.mp member
  exact ⟨row, inHistory, by simpa using isOpen, isCurrent⟩

theorem Diary.IsConsistent.startedAt_le
    (consistent : diary.IsConsistent) (member : row ∈ diary.history) :
    row.startedAt ≤ diary.journey.stageStartedAt := by
  obtain ⟨earlier, last, shape, isCurrent, -⟩ := consistent.split
  have sorted : (chronological diary.history).Pairwise
      StageHistory.Precedes :=
    List.pairwise_insertionSort _ _
  have inOrder := mem_chronological.mpr member
  have isStart : last.startedAt = diary.journey.stageStartedAt := isCurrent.2
  rw [shape] at sorted inOrder
  rcases List.mem_append.mp inOrder with isEarlier | isLast
  · have precedes :=
      (List.pairwise_append.mp sorted).2.2 row isEarlier last (by simp)
    unfold StageHistory.Precedes at precedes
    lia
  · obtain rfl := List.mem_singleton.mp isLast
    lia

/-! ## Transitions -/

theorem effectiveHistoryStage?_of_new {transfer : Option StageSchemeTransfer}
    (isNew : ∀ found ∈ transfer, row.id ∉ found.sourceHistoryIds) :
    effectiveHistoryStage? stages journey transfer row =
      stage? stages row.stageId := by
  unfold effectiveHistoryStage?
  cases stage? stages row.stageId with
  | none => rfl
  | some stage =>
      cases transfer with
      | none => simp
      | some found => simp [isNew found rfl]

/-- A stage is found by its id. -/
theorem stage?_id
    {id : Pk} {stage : TraineeStage} (found : stage? stages id = some stage) :
    stage.id = id := by
  have isFound := List.find?_some found
  exact of_decide_eq_true isFound

theorem chronological_moved
    {changedBy : Option User} {note : Text} (numbered : diary.IsNumbered)
    (notEarlier : ∀ row ∈ diary.history, row.startedAt ≤ date) :
    chronological (diary.moved journey newStage changedBy note date).history =
      endOpen date (chronological diary.history) ++
        [{ id := diary.historySequence
           journeyId := journey.id
           stageId := newStage.id
           startedAt := date
           endedAt := none
           changedById := changedBy.map User.id
           note := Sandbox.strip note }] := by
  unfold Diary.moved
  rw [chronological_append, chronological_endOpen]
  intro row member
  rcases mem_endOpen.mp member with
    ⟨inHistory, -⟩ | ⟨before, inHistory, -, rfl⟩
  all_goals
    have isOld := numbered.history _ inHistory
    have isEarlier := notEarlier _ inHistory
    unfold StageHistory.Precedes
    simp only
    lia

/-- The card entered the stage at the date, as the rows show it. -/
def Diary.Enters (diary : Diary) (newStage : TraineeStage) (date : Day)
    (next : Diary) : Prop :=
  ∃ journey changedBy note,
    next = diary.moved journey newStage changedBy note date ∧
      journey.currentStageId = newStage.id ∧
      journey.stageStartedAt = date ∧
      ∃ stage, stage? diary.stages newStage.id = some stage

theorem Entered.enters {session next : Session}
    (entered : Entered session newStage date today next) :
    session.diary.Enters newStage date next.diary := by
  obtain ⟨changedBy, note, rows⟩ := entered.rows
  obtain ⟨stage, found, -⟩ := entered.selectable
  exact ⟨next.journey, changedBy, note, rows, entered.stage, entered.startedAt,
      stage, found⟩

theorem Diary.IsConsistent.enters (consistent : diary.IsConsistent)
    (numbered : diary.IsNumbered) (enters : diary.Enters newStage date next)
    (notEarlier : diary.journey.stageStartedAt ≤ date) :
    next.IsConsistent := by
  obtain ⟨journey, changedBy, note, rfl, isStage, isDate, stage, found⟩ :=
    enters
  obtain ⟨earlier, last, shape, isCurrent, continuous⟩ := consistent.split
  have before : ∀ row ∈ diary.history, row.startedAt ≤ date :=
    fun row member => Nat.le_trans (consistent.startedAt_le member) notEarlier
  have order := @chronological_moved diary date journey newStage changedBy
    note numbered before
  refine .ofTimeline order ⟨?_, isDate.symm⟩ ?_ ?_
  · have isNew : ∀ transfer ∈ diary.transfer,
          diary.historySequence ∉ transfer.sourceHistoryIds :=
      fun transfer isTransfer member =>
        Nat.lt_irrefl _ (numbered.transfer transfer isTransfer _ member)
    unfold Session.effectiveStage?
    rw [effectiveHistoryStage?_of_new isNew]
    change (stage? diary.stages newStage.id).map TraineeStage.id =
      some journey.currentStageId
    rw [found, Option.map_some, stage?_id found, isStage]
  · rw [order]
    exact continuous.extend (fun _ => rfl) (fun _ => rfl) rfl
  · intro row member ended isEnded
    rcases List.mem_append.mp member with inHistory | isNew
    · rcases mem_endOpen.mp inHistory with
        ⟨isOld, -⟩ | ⟨opened, isOld, -, rfl⟩
      · exact consistent.intervals row isOld ended isEnded
      · obtain rfl : date = ended := by simpa using isEnded
        exact before opened isOld
    · obtain rfl := List.mem_singleton.mp isNew
      cases isEnded

/-- Some row ends before it begins. -/
def Diary.HasBackwards (diary : Diary) : Prop :=
  ∃ row ∈ diary.history, ∃ ended ∈ row.endedAt, ended < row.startedAt

theorem Diary.HasBackwards.not_isConsistent
    (backwards : diary.HasBackwards) : ¬ diary.IsConsistent := by
  obtain ⟨row, member, ended, isEnded, before⟩ := backwards
  intro consistent
  exact Nat.not_le_of_lt before (consistent.intervals row member ended isEnded)

theorem Diary.Enters.backwards
    (enters : diary.Enters newStage date next) (consistent : diary.IsConsistent)
    (earlier : date < diary.journey.stageStartedAt) :
    next.HasBackwards := by
  obtain ⟨journey, changedBy, note, rfl, -, -, -⟩ := enters
  obtain ⟨row, inHistory, rowOpen, isCurrent⟩ := consistent.current
  have start : row.startedAt = diary.journey.stageStartedAt := isCurrent.2
  refine ⟨{ row with endedAt := some date }, List.mem_append_left _
        (mem_endOpen.mpr (.inr ⟨row, inHistory, rowOpen, rfl⟩)),
      date, rfl, ?_⟩
  exact start ▸ earlier

theorem Diary.HasBackwards.enters (backwards : diary.HasBackwards)
    (enters : diary.Enters newStage date next) :
    next.HasBackwards := by
  obtain ⟨journey, changedBy, note, rfl, -, -, -⟩ := enters
  obtain ⟨row, member, ended, isEnded, before⟩ := backwards
  refine ⟨row, List.mem_append_left _ (mem_endOpen.mpr (.inl ?_)), ended,
    isEnded, before⟩
  refine ⟨member, fun isOpen => ?_⟩
  rw [isOpen] at isEnded
  cases isEnded

theorem Diary.IsNumbered.enters
    (numbered : diary.IsNumbered) (enters : diary.Enters newStage date next) :
    next.IsNumbered := by
  obtain ⟨journey, changedBy, note, rfl, -, -, -⟩ := enters
  refine ⟨fun row member => ?_, fun transfer isTransfer id isSource => ?_⟩
  · rcases List.mem_append.mp member with inHistory | isNew
    · rcases mem_endOpen.mp inHistory with
        ⟨isOld, -⟩ | ⟨opened, isOld, -, rfl⟩
      · exact Nat.lt_succ_of_lt (numbered.history row isOld)
      · exact Nat.lt_succ_of_lt (numbered.history opened isOld)
    · obtain rfl := List.mem_singleton.mp isNew
      exact Nat.lt_succ_self _
  · exact Nat.lt_succ_of_lt (numbered.transfer transfer isTransfer id isSource)

end TicketSandbox.TraineeDiary
