import TicketSandbox.TraineeDiary.IntegrityFacts

namespace TicketSandbox.TraineeDiary

/-!
# Runs of calls on one object

From the creation of a card on, every call finds the object as its row, and
leaves a history that both readers accept.
-/

open Attempts
open Sandbox (Pk Text)

/-! ## The card at its creation -/

/-- The rows after `save` of a card that is added. -/
def created (stages : List TraineeStage) (metrics : List WeeklyMetric)
    (historySequence : Pk) (journey : TraineeJourney) : Diary :=
  { stages
    journey
    history :=
      [{ id := historySequence
         journeyId := journey.id
         stageId := journey.currentStageId
         startedAt := journey.stageStartedAt
         endedAt := none
         changedById := none
         note := [] }]
    metrics
    transfer := none
    historySequence := historySequence + 1 }

/-- The stage and the date of a visit. -/
def StageHistory.visited (visit : StageHistory) : Pk × Day :=
  (visit.stageId, visit.startedAt)

/-- The rows show the visits of the list, and both readers accept them. -/
structure Diary.Tracks
    (diary : Diary) (today : Day) (log : List (Pk × Day)) : Prop where
  numbered : diary.IsNumbered
  consistent : diary.IsConsistent
  agrees : ∀ row ∈ diary.history, diary.load.VisitAgrees today row
  visits : (chronological diary.history).map StageHistory.visited = log

/-- A card that is created has its first visit. -/
theorem created_tracks {stages : List TraineeStage}
    {metrics : List WeeklyMetric} {historySequence : Pk}
    {journey : TraineeJourney} {today : Day} {stage : TraineeStage}
    (found : stage? stages journey.currentStageId = some stage)
    (applies : StageApplies stage journey.stageScheme journey.entryType)
    (started : journey.probationStartDate ≤ journey.stageStartedAt)
    (notFuture : journey.stageStartedAt ≤ today) :
    (created stages metrics historySequence journey).Tracks today
      [(journey.currentStageId, journey.stageStartedAt)] := by
  have effective : ∀ row : StageHistory, row.stageId = journey.currentStageId →
        (created stages metrics historySequence journey).load.effectiveStage?
          row = some stage := by
    intro row isStage
    unfold Session.effectiveStage?
    rw [effectiveHistoryStage?_of_new (by rintro _ ⟨⟩), isStage]
    exact found
  have isId := stage?_id found
  constructor
  · constructor
    · intro row member
      obtain rfl := List.mem_singleton.mp member
      exact Nat.lt_succ_self _
    · rintro _ ⟨⟩
  · refine ⟨⟨_, rfl, ?_, rfl⟩, .singleton _, ?_⟩
    · rw [effective _ rfl, Option.map_some, isId]
      rfl
    · intro row member ended isEnded
      obtain rfl := List.mem_singleton.mp member
      cases isEnded
  · intro row member
    obtain rfl := List.mem_singleton.mp member
    refine ⟨⟨started, notFuture⟩, ⟨stage, effective _ rfl, applies⟩, ?_⟩
    rintro _ ⟨⟩
  · rfl

/-! ## Steps -/

variable {today : Day} {diary : Diary} {log : List (Pk × Day)}
  {newStage : TraineeStage} {next started : Session} {call : Call}

theorem Session.VisitAgrees.later
    {session : Session} {later : Day} {visit : StageHistory}
    (agrees : session.VisitAgrees today visit) (passes : today ≤ later) :
    session.VisitAgrees later visit := by
  obtain ⟨⟨afterStart, notFuture⟩, applies, ends⟩ := agrees
  refine ⟨⟨afterStart, Nat.le_trans notFuture passes⟩, applies, ?_⟩
  intro ended isEnded
  exact ⟨(ends ended isEnded).1, Nat.le_trans (ends ended isEnded).2 passes⟩

theorem Diary.Tracks.later
    {later : Day} (tracks : diary.Tracks today log) (passes : today ≤ later) :
    diary.Tracks later log :=
  { tracks with
    agrees := fun row member => (tracks.agrees row member).later passes }

theorem Diary.Tracks.completed
    (tracks : diary.Tracks today log) (journey : TraineeJourney) :
    { diary with
      journey := diary.journey.withCompletionOf journey }.Tracks today log :=
  { numbered := ⟨tracks.numbered.history, tracks.numbered.transfer⟩
    consistent :=
      ⟨tracks.consistent.openRow, tracks.consistent.contiguous,
        tracks.consistent.intervals⟩
    agrees := tracks.agrees
    visits := tracks.visits }

theorem Diary.Tracks.enters {next : Diary} {date : Day} {stage : TraineeStage}
    (tracks : diary.Tracks today log) (enters : diary.Enters newStage date next)
    (found : stage? diary.stages newStage.id = some stage) (applies :
      StageApplies stage diary.journey.stageScheme diary.journey.entryType)
    (notEarlier : diary.journey.stageStartedAt ≤ date)
    (notFuture : date ≤ today) :
    next.Tracks today (log ++ [(newStage.id, date)]) := by
  have consistent := tracks.consistent.enters tracks.numbered enters notEarlier
  have numbered := tracks.numbered.enters enters
  obtain ⟨journey, changedBy, note, rfl, isStage, isDate, -⟩ := enters
  refine ⟨numbered, consistent, fun row member => ?_, ?_⟩
  · rcases List.mem_append.mp member with inHistory | isNew
    · rcases mem_endOpen.mp inHistory with
        ⟨isOld, -⟩ | ⟨opened, isOld, -, rfl⟩
      · exact tracks.agrees row isOld
      · obtain ⟨between, stageApplies, -⟩ := tracks.agrees opened isOld
        refine ⟨between, stageApplies, fun ended isEnded => ?_⟩
        obtain rfl : date = ended := by simpa using isEnded
        have before : opened.startedAt ≤ diary.journey.stageStartedAt :=
          tracks.consistent.startedAt_le isOld
        exact ⟨Nat.le_trans before notEarlier, notFuture⟩
    · obtain rfl := List.mem_singleton.mp isNew
      obtain ⟨last, inHistory, -, isCurrent⟩ := tracks.consistent.current
      have isStart : last.startedAt = diary.journey.stageStartedAt :=
        isCurrent.2
      have afterStart := (tracks.agrees last inHistory).1.1
      refine ⟨⟨?_, notFuture⟩, ⟨stage, ?_, applies⟩, ?_⟩
      · exact Nat.le_trans (Nat.le_trans afterStart isStart.le) notEarlier
      · unfold Session.effectiveStage?
        rw [effectiveHistoryStage?_of_new]
        · exact found
        · intro transfer isTransfer member
          exact Nat.lt_irrefl _
            (tracks.numbered.transfer transfer isTransfer _ member)
      · rintro _ ⟨⟩
  · rw [chronological_moved tracks.numbered fun row member =>
      Nat.le_trans (tracks.consistent.startedAt_le member) notEarlier]
    rw [List.map_append, ← tracks.visits]
    unfold endOpen Timelines.closeOpen
    rw [List.map_map]
    congr 1
    refine List.map_congr_left fun row _ => ?_
    simp only [Function.comp_apply]
    split <;> rfl

/-! ## Runs -/

/-- The object after a list of calls, each on its day. -/
def afterCalls (session : Session) : List (Day × Call) → Session
  | [] => session
  | (today, call) :: rest => afterCalls (call.code today session).2 rest

/-- The stages that a list of calls enters, with their dates. -/
def enteredBy (session : Session) : List (Day × Call) → List (Pk × Day)
  | [] => []
  | (today, call) :: rest =>
      let next := (call.code today session).2
      if next.journey.currentStageId = session.journey.currentStageId then
        enteredBy next rest
      else
        (next.journey.currentStageId, next.journey.stageStartedAt) ::
          enteredBy next rest

/-- The stage that a call enters, as a list. -/
def enteredIn (session next : Session) : List (Pk × Day) :=
  if next.journey.currentStageId = session.journey.currentStageId then []
  else [(next.journey.currentStageId, next.journey.stageStartedAt)]

theorem Call.Effect.tracks_stayed
    (effect : call.Effect diary.load today started started next)
    (tracks : diary.Tracks today log) :
    next.diary.Tracks today (log ++ enteredIn diary.load next) := by
  obtain ⟨sameStage, -, -, -⟩ :=
    TraineeJourney.fields_of_withoutCompletion effect.sameCard
  have sameRows : started.diary = diary := effect.sameRows
  rcases effect.writes with ⟨rfl, rfl⟩ | rfl
  · simp only [enteredIn, ↓reduceIte, List.append_nil]
    exact tracks
  · have noEntry : enteredIn diary.load started.completionWritten = [] :=
      if_pos sameStage
    rw [noEntry, List.append_nil]
    unfold Session.completionWritten
    rw [sameRows]
    exact tracks.completed started.journey

theorem Call.Effect.tracks_entered
    {moved : Session} (effect : call.Effect diary.load today started moved next)
    (entered : Entered started newStage (call.date today) today moved)
    (tracks : diary.Tracks today log) :
    next.diary.Tracks today (log ++ enteredIn diary.load next) := by
  have sameRows : started.diary = diary := effect.sameRows
  obtain ⟨sameStage, sameDate, sameScheme, sameType⟩ :=
    TraineeJourney.fields_of_withoutCompletion effect.sameCard
  have enters := entered.enters
  obtain ⟨stage, found, -, applies, -⟩ := entered.selectable
  have notEarlier := entered.notEarlier
  rw [sameRows] at enters found
  rw [sameScheme, sameType] at applies
  rw [sameDate] at notEarlier
  have movedTracks :=
    tracks.enters enters found applies notEarlier entered.notFuture
  have isEntry :
      enteredIn diary.load moved = [(newStage.id, call.date today)] := by
    have differs := entered.differs
    rw [sameStage] at differs
    unfold enteredIn
    rw [if_neg, entered.stage, entered.startedAt]
    rw [entered.stage]
    exact Ne.symm differs
  rcases effect.writes with ⟨rfl, rfl⟩ | rfl
  · rw [isEntry]
    exact movedTracks
  · have isLast : enteredIn diary.load moved.completionWritten =
          [(newStage.id, call.date today)] :=
      isEntry
    rw [isLast]
    exact movedTracks.completed moved.journey

theorem Call.tracks (tracks : diary.Tracks today log) :
    let next := (call.code today diary.load).2
    next = next.diary.load ∧
      next.diary.Tracks today (log ++ enteredIn diary.load next) := by
  rcases call.undone today diary.load with ⟨previous, next, ran⟩ | same
  · rw [ran]
    obtain ⟨started, moved, effect⟩ := Call.returned ran
    rcases effect.moves with rfl | ⟨newStage, entered⟩
    · exact ⟨effect.loaded, effect.tracks_stayed tracks⟩
    · exact ⟨effect.loaded, effect.tracks_entered entered tracks⟩
  · simp only [same, enteredIn, ↓reduceIte, List.append_nil]
    exact ⟨rfl, tracks⟩

theorem enteredBy_cons
    (session : Session) (today : Day) (call : Call) (rest : List (Day × Call)) :
    enteredBy session ((today, call) :: rest) =
      enteredIn session (call.code today session).2 ++
        enteredBy (call.code today session).2 rest := by
  rw [enteredBy, enteredIn]
  split <;> rfl

theorem afterCalls_tracks {calls : List (Day × Call)} {before : Day}
    (tracks : diary.Tracks before log) (ordered :
      (before :: (calls.map Prod.fst ++ [today])).IsChain (· ≤ ·)) :
    ∃ last : Diary, afterCalls diary.load calls = last.load ∧
        last.Tracks today (log ++ enteredBy diary.load calls) := by
  induction calls generalizing diary before log with
  | nil =>
      have passes : before ≤ today := by simpa using ordered
      refine ⟨diary, rfl, ?_⟩
      rw [enteredBy, List.append_nil]
      exact tracks.later passes
  | cons first rest inductionHypothesis =>
      obtain ⟨day, call⟩ := first
      rw [List.map_cons, List.cons_append, List.isChain_cons_cons] at ordered
      obtain ⟨passes, ordered⟩ := ordered
      have stepped := call.tracks (tracks.later passes)
      simp only at stepped
      obtain ⟨loaded, tracksNext⟩ := stepped
      obtain ⟨last, isLast, tracksLast⟩ :=
        inductionHypothesis tracksNext ordered
      rw [← loaded] at isLast tracksLast
      refine ⟨last, isLast, ?_⟩
      rw [enteredBy_cons, ← List.append_assoc]
      exact tracksLast

/-- `history_for` returns the listed visits, and no check of the history fails.
-/
structure Session.HistoryIsComplete
    (session : Session) (today : Day) (log : List (Pk × Day)) : Prop where
  returned : ∃ earlier last,
      historyFor? session today = some (earlier ++ [last]) ∧
        (earlier ++ [last]).Perm session.diary.history ∧
        (earlier ++ [last]).map StageHistory.visited = log ∧
        (∀ visit ∈ earlier, visit.endedAt ≠ none) ∧
        last.endedAt = none ∧ session.IsCurrent last ∧
        (earlier ++ [last]).IsChain
          (fun visit next => visit.endedAt = some next.startedAt)
  checked : ∀ stage, ∀ issue ∈ checkJourneyIntegrity session stage today,
      issue.code ∉ historyCodes

theorem Diary.Tracks.complete (tracks : diary.Tracks today log) :
    diary.load.HistoryIsComplete today log := by
  obtain ⟨earlier, last, shape, isCurrent, continuous⟩ :=
    tracks.consistent.split
  have agrees :
      ∀ visit ∈ earlier ++ [last], diary.load.VisitAgrees today visit := by
    intro visit member
    rw [← shape] at member
    exact tracks.agrees visit (mem_chronological.mp member)
  have begun : ¬ today < diary.load.journey.probationStartDate := by
    obtain ⟨⟨afterStart, notFuture⟩, -⟩ := agrees last (by simp)
    exact Nat.not_lt_of_le (Nat.le_trans afterStart notFuture)
  have sameVisits := tracks.visits
  have perm := chronological_perm diary.history
  rw [shape] at continuous sameVisits perm
  have isOpen : last.endedAt = none := continuous.lastOpen last (by simp)
  refine ⟨⟨earlier, last, ?_, perm, sameVisits, continuous.closed, isOpen,
      isCurrent, continuous.linked⟩,
      fun stage => tracks.consistent.checks stage today⟩
  have accepted : diary.load.VisitsAgree today (earlier ++ [last]) :=
    Session.visitsAgree_append.mpr
      ⟨agrees, continuous.linked, isOpen, isCurrent⟩
  unfold historyFor?
  rw [show diary.load.diary = diary from rfl, shape]
  simp only
  rw [if_neg (by simp [begun]), if_pos accepted]

/--
From the creation of a card on, whatever calls are made on it on days that go
on, its history is complete, and a call that is rejected leaves the rows and
the object.
-/
theorem history_complete
    {stages : List TraineeStage} {metrics : List WeeklyMetric}
    {historySequence : Pk} {journey : TraineeJourney} {stage : TraineeStage}
    {createdOn today : Day} {calls : List (Day × Call)}
    (found : stage? stages journey.currentStageId = some stage)
    (applies : StageApplies stage journey.stageScheme journey.entryType)
    (started : journey.probationStartDate ≤ journey.stageStartedAt)
    (notFuture : journey.stageStartedAt ≤ createdOn) (ordered :
      (createdOn :: (calls.map Prod.fst ++ [today])).IsChain (· ≤ ·)) :
    let card := (created stages metrics historySequence journey).load
    let session := afterCalls card calls
    session.HistoryIsComplete today
        ((journey.currentStageId, journey.stageStartedAt) ::
          enteredBy card calls) ∧
      ∀ (day : Day) (call : Call), (∃ previous next,
            call.code day session = (.returned previous, next)) ∨
          (call.code day session).2 = session := by
  obtain ⟨last, isLast, tracks⟩ :=
    afterCalls_tracks (created_tracks found applies started notFuture) ordered
  refine ⟨?_, fun day call => call.undone day _⟩
  rw [isLast]
  exact tracks.complete

theorem history_complete_same_day :
    let card := (created [sampleStage 1 .teachbase, sampleStage 2 .withReview,
          sampleStage 3 .noReview]
        [] 1 (sampleJourney 1 5)).load
    let calls : List (Day × Call) :=
      [(9, .moveToStage (sampleStage 2 .withReview) none [] (some 7) true),
        (9, .moveToStage (sampleStage 3 .noReview) none [] (some 7) true)]
    (afterCalls card calls).HistoryIsComplete 9 [(1, 5), (2, 7), (3, 7)] := by
  have complete := @history_complete
      [sampleStage 1 .teachbase, sampleStage 2 .withReview,
        sampleStage 3 .noReview]
      [] 1 (sampleJourney 1 5) (sampleStage 1 .teachbase) 9 9
      [(9, .moveToStage (sampleStage 2 .withReview) none [] (some 7) true),
        (9, .moveToStage (sampleStage 3 .noReview) none [] (some 7) true)]
      rfl (by decide) (by decide) (by decide) (by decide)
  exact complete.1

end TicketSandbox.TraineeDiary
