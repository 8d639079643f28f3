import TicketSandbox.Library.Runs
import TicketSandbox.TraineeDiary.HistoryRuns

namespace TicketSandbox.TraineeDiary

/-!
# Requests on one card

A request loads the card without a lock, and calls one of the methods on its
copy later, in one transaction.
-/

open Attempts
open Runs
open Sandbox (Pk Text)

/-! ## Calls on a copy -/

/-- The call enters a stage that the copy is not on. -/
def Call.Enters (call : Call) (today : Day) (session : Session) : Prop :=
  (call.code today session).2.journey.currentStageId ≠
    session.journey.currentStageId
  deriving Decidable

/-- The rows are the same but for the completion of the card. -/
def Diary.SameHistory (diary next : Diary) : Prop :=
  next = diary ∨ ∃ journey,
      next = { diary with journey := diary.journey.withCompletionOf journey }

theorem Diary.SameHistory.isConsistent {diary next : Diary}
    (same : diary.SameHistory next) (consistent : diary.IsConsistent) :
    next.IsConsistent := by
  rcases same with rfl | ⟨journey, rfl⟩
  · exact consistent
  · exact ⟨consistent.openRow, consistent.contiguous, consistent.intervals⟩

theorem Diary.SameHistory.isNumbered {diary next : Diary}
    (same : diary.SameHistory next) (numbered : diary.IsNumbered) :
    next.IsNumbered := by
  rcases same with rfl | ⟨journey, rfl⟩
  · exact numbered
  · exact ⟨numbered.history, numbered.transfer⟩

theorem Diary.SameHistory.hasBackwards {diary next : Diary}
    (same : diary.SameHistory next) (backwards : diary.HasBackwards) :
    next.HasBackwards := by
  rcases same with rfl | ⟨journey, rfl⟩
  · exact backwards
  · exact backwards

theorem Call.rows (call : Call) (today : Day) (session : Session) :
    (¬ call.Enters today session ∧
        session.diary.SameHistory (call.code today session).2.diary) ∨
      (call.Enters today session ∧ ∃ newStage middle,
          session.diary.Enters newStage (call.date today) middle ∧
            middle.SameHistory (call.code today session).2.diary) := by
  unfold Call.Enters
  rcases call.undone today session with ⟨previous, next, ran⟩ | same
  · rw [ran]
    obtain ⟨started, moved, effect⟩ := Call.returned ran
    obtain ⟨sameStage, -, -, -⟩ :=
      TraineeJourney.fields_of_withoutCompletion effect.sameCard
    rcases effect.moves with rfl | ⟨newStage, entered⟩
    · left
      rcases effect.writes with ⟨rfl, rfl⟩ | rfl
      · exact ⟨fun differs => differs rfl, .inl rfl⟩
      · refine ⟨fun differs => differs sameStage, .inr ⟨moved.journey, ?_⟩⟩
        rw [← effect.sameRows]
        rfl
    · right
      have enters := entered.enters
      rw [effect.sameRows] at enters
      have differs := entered.differs
      rw [sameStage, ← entered.stage] at differs
      rcases effect.writes with ⟨-, rfl⟩ | rfl
      · exact ⟨differs.symm, newStage, next.diary, enters, .inl rfl⟩
      · exact ⟨differs.symm, newStage, moved.diary, enters,
            .inr ⟨moved.journey, rfl⟩⟩
  · rw [same]
    exact .inl ⟨fun differs => differs rfl, .inl rfl⟩

/-! ## Steps -/

/-- The rows, and the copies that requests loaded and did not use yet. -/
structure Requests where
  diary : Diary
  loaded : List TraineeJourney

/-- What a request does. -/
inductive RequestStep where
  | load
  | commit (copy : Nat) (today : Day) (call : Call)

/-- A request loads the card, or makes its call on the copy that it loaded. -/
def Requests.step? (state : Requests) : RequestStep → Option Requests
  | .load => some { state with loaded := state.loaded ++ [state.diary.journey] }
  | .commit copy today call => do
      let journey ← state.loaded[copy]?
      some
        { diary := (call.code today { diary := state.diary, journey }).2.diary
          loaded := state.loaded.eraseIdx copy }

/-- A call that enters a stage is not before the stage that is stored. -/
def InOrder (state : Requests) : RequestStep → Prop
  | .load => True
  | .commit copy today call =>
      ∀ journey ∈ state.loaded[copy]?,
        call.Enters today { diary := state.diary, journey } →
          state.diary.journey.stageStartedAt ≤ call.date today

variable {next state : Requests} {action : RequestStep}

theorem Requests.step_rows (stepped : state.step? action = some next) :
    state.diary.SameHistory next.diary ∧ InOrder state action ∨
      ∃ newStage date middle, state.diary.Enters newStage date middle ∧
          middle.SameHistory next.diary ∧
          (InOrder state action ↔
            state.diary.journey.stageStartedAt ≤ date) := by
  cases action with
  | load =>
      obtain rfl := Option.some.inj stepped
      exact .inl ⟨.inl rfl, trivial⟩
  | commit copy today call =>
      unfold step? at stepped
      obtain ⟨journey, found, isNext⟩ := Option.bind_eq_some_iff.mp stepped
      obtain rfl := Option.some.inj isNext
      have inOrder : InOrder state (.commit copy today call) ↔
            (call.Enters today { diary := state.diary, journey } →
              state.diary.journey.stageStartedAt ≤ call.date today) := by
        simp only [InOrder, found, Option.mem_some_iff, forall_eq']
      rcases call.rows today { diary := state.diary, journey } with
        ⟨stays, same⟩ | ⟨entered, newStage, middle, enters, same⟩
      · exact .inl ⟨same, inOrder.mpr fun entered => absurd entered stays⟩
      · refine .inr ⟨newStage, call.date today, middle, enters, same, ?_⟩
        rw [inOrder]
        exact ⟨fun implies => implies entered, fun isLater _ => isLater⟩

/-- The visits stay numbered in every step. -/
theorem Requests.step_isNumbered (stepped : state.step? action = some next)
    (numbered : state.diary.IsNumbered) :
    next.diary.IsNumbered := by
  rcases step_rows stepped with
    ⟨same, -⟩ | ⟨newStage, date, middle, enters, same, -⟩
  · exact same.isNumbered numbered
  · exact same.isNumbered (numbered.enters enters)

theorem Requests.step_isConsistent (stepped : state.step? action = some next)
    (numbered : state.diary.IsNumbered) (consistent : state.diary.IsConsistent)
    (inOrder : InOrder state action) :
    next.diary.IsConsistent := by
  rcases step_rows stepped with
    ⟨same, -⟩ | ⟨newStage, date, middle, enters, same, isLater⟩
  · exact same.isConsistent consistent
  · exact
      same.isConsistent (consistent.enters numbered enters (isLater.mp inOrder))

theorem Requests.step_hasBackwards (stepped : state.step? action = some next)
    (consistent : state.diary.IsConsistent) (early : ¬ InOrder state action) :
    next.diary.HasBackwards := by
  rcases step_rows stepped with
    ⟨-, inOrder⟩ | ⟨newStage, date, middle, enters, same, isLater⟩
  · exact absurd inOrder early
  · rw [isLater] at early
    exact
      same.hasBackwards (enters.backwards consistent (Nat.lt_of_not_le early))

theorem Requests.step_keepsBackwards (stepped : state.step? action = some next)
    (backwards : state.diary.HasBackwards) :
    next.diary.HasBackwards := by
  rcases step_rows stepped with
    ⟨same, -⟩ | ⟨newStage, date, middle, enters, same, -⟩
  · exact same.hasBackwards backwards
  · exact same.hasBackwards (backwards.enters enters)

/-! ## Runs -/

theorem inOrder_or_hasBackwards
    {start last : Requests} {actions : List RequestStep}
    (run : Run Requests.step? anything start actions last)
    (numbered : start.diary.IsNumbered)
    (consistent : start.diary.IsConsistent) :
    Run Requests.step? InOrder start actions last ∨
      last.diary.HasBackwards := by
  induction run with
  | nil => exact .inl .nil
  | @cons state next last action rest _ stepped tail inductionHypothesis =>
      by_cases inOrder : InOrder state action
      · have numberedNext := Requests.step_isNumbered stepped numbered
        have consistentNext :=
          Requests.step_isConsistent stepped numbered consistent inOrder
        rcases inductionHypothesis numberedNext consistentNext with
          restInOrder | backwards
        · exact .inl (.cons inOrder stepped restInOrder)
        · exact .inr backwards
      · have backwards := Requests.step_hasBackwards stepped consistent inOrder
        exact .inr (tail.invariant (fun state => state.diary.HasBackwards)
              (fun _ _ _ _ stepped => Requests.step_keepsBackwards stepped)
              backwards)

/--
However requests on a card with a consistent history interleave, the history
that they leave is consistent exactly when every call that entered a stage had
a date that was not before the stage stored at that time.
-/
theorem requests_consistent
    {diary : Diary} {last : Requests} {actions : List RequestStep}
    (numbered : diary.IsNumbered) (consistent : diary.IsConsistent)
    (run : Run Requests.step? anything { diary, loaded := [] } actions last) :
    last.diary.IsConsistent ↔
      Run Requests.step? InOrder { diary, loaded := [] } actions last := by
  constructor
  · intro isConsistent
    rcases inOrder_or_hasBackwards run numbered consistent with
      inOrder | backwards
    · exact inOrder
    · exact absurd isConsistent backwards.not_isConsistent
  · intro inOrder
    have both := inOrder.invariant
        (fun state => state.diary.IsNumbered ∧ state.diary.IsConsistent)
        (fun _ _ _ isInOrder stepped holds =>
          ⟨Requests.step_isNumbered stepped holds.1,
            Requests.step_isConsistent stepped holds.1 holds.2 isInOrder⟩)
        ⟨numbered, consistent⟩
    exact both.2

/-- A card that was created, on its first stage. -/
def sampleDiary : Diary :=
  created [sampleStage 1 .teachbase, sampleStage 2 .sandboxL1,
      sampleStage 3 .noReview]
    [] 1 (sampleJourney 1 0)

theorem sampleDiary_tracks : sampleDiary.Tracks 0 [(1, 0)] :=
  @created_tracks _ [] 1 (sampleJourney 1 0) 0 (sampleStage 1 .teachbase) rfl
    (by decide) (by decide) (by decide)

/-- Two requests, the second of which moves before the first one. -/
def staleRequests : List RequestStep :=
  [.load, .load, .commit 0 20
      (.moveToStage (sampleStage 2 .sandboxL1) none [] (some 10) true),
    .commit 0 20 (.moveToStage (sampleStage 3 .noReview) none [] (some 5) true)]

/-- What the two requests leave. -/
def staleResult : Requests :=
  (run? Requests.step? { diary := sampleDiary, loaded := [] }
    staleRequests).getD { diary := sampleDiary, loaded := [] }

theorem staleRequests_run :
    Run Requests.step? anything { diary := sampleDiary, loaded := [] }
      staleRequests staleResult :=
  .cons trivial rfl (.cons trivial rfl (.cons trivial rfl
    (.cons trivial rfl .nil)))

theorem requests_consistent_of_two :
    staleResult.diary.IsConsistent ↔
      Run Requests.step? InOrder { diary := sampleDiary, loaded := [] }
        staleRequests staleResult :=
  requests_consistent sampleDiary_tracks.numbered
    sampleDiary_tracks.consistent staleRequests_run

/-- The second of two requests ends the stage of the first one before it
begins. -/
theorem requests_stale :
    sampleDiary.IsNumbered ∧ sampleDiary.IsConsistent ∧
      Run Requests.step? anything { diary := sampleDiary, loaded := [] }
        staleRequests staleResult ∧
      ¬ staleResult.diary.IsConsistent := by
  refine ⟨sampleDiary_tracks.numbered, sampleDiary_tracks.consistent,
      staleRequests_run, ?_⟩
  refine Diary.HasBackwards.not_isConsistent ?_
  unfold Diary.HasBackwards
  decide

end TicketSandbox.TraineeDiary
