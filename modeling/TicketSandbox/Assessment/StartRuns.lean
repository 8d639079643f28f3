import TicketSandbox.Assessment.StartedAttempts

namespace TicketSandbox.Assessment.StartedAttempts

/-!
# Runs of starts

The attempts of an assignment are numbered without gaps and at most one of
them is in progress, in whatever order starts and changes of the status take
place.  Every attempt was created by a start, below the limit of that moment.
-/

open Sandbox (Pk Text Timestamp)
open QuestionSelection (selectQuestionsForBlueprint)
open Raises Runs

/-! ## One start -/

/-- The attempt is in progress. -/
def StartedAttempt.isInProgress (attempt : StartedAttempt) : Bool :=
  decide (attempt.status = .inProgress)

variable {attempt : StartedAttempt} {σ : Type} {seed : Text}
  {sys next : System σ} {action : Action σ} {assignment : Assignment}

theorem existingAttempt?_mem
    (found : existingAttempt? assignment = some attempt) :
    attempt ∈ assignment.attempts ∧ attempt.status = .inProgress := by
  have sorted := List.mem_of_mem_head? found
  have member := (List.mem_insertionSort _).mp sorted
  exact ⟨(List.mem_filter.mp member).1,
    of_decide_eq_true (List.mem_filter.mp member).2⟩

theorem existingAttempt?_none (missing : existingAttempt? assignment = none) :
    assignment.attempts.countP StartedAttempt.isInProgress = 0 := by
  have sorted := List.head?_eq_none_iff.mp missing
  have filtered : assignment.attempts.filter
        (fun attempt => decide (attempt.status = .inProgress)) = [] := by
    refine List.eq_nil_iff_forall_not_mem.mpr fun attempt member => ?_
    have still := (List.mem_insertionSort
      fun first second : StartedAttempt =>
        second.attemptNumber ≤ first.attemptNumber).mpr member
    rw [sorted] at still
    cases still
  rw [List.countP_eq_length_filter]
  exact congrArg List.length filtered

theorem createSnapshots_ok {server : Server σ} {shuffleAnswerOptions : Bool}
    {position : Nat} {questions : List QuestionSelection.Question}
    {snapshots : List StartedSnapshot} (created :
      createSnapshots server seed shuffleAnswerOptions position questions =
        .ok snapshots) :
    snapshots.map StartedSnapshot.sourceQuestionId =
        questions.map QuestionSelection.Question.pk ∧
      snapshots.map (fun started => started.snapshot.position) =
        List.range' position questions.length := by
  induction questions generalizing position snapshots with
  | nil =>
      cases created
      exact ⟨rfl, rfl⟩
  | cons question questions inductionHypothesis =>
      obtain ⟨snapshot, first, created⟩ := bind_ok.mp created
      obtain ⟨rest, later, created⟩ := bind_ok.mp created
      cases created
      obtain ⟨sources, positions⟩ := inductionHypothesis later
      have isFirst : snapshot.sourceQuestionId = question.pk ∧
            snapshot.snapshot.position = position := by
        simp only [createSnapshot] at first
        split at first
        · cases first
        · cases first
          exact ⟨rfl, rfl⟩
      constructor
      · rw [List.map_cons, List.map_cons, isFirst.1, sources]
      · rw [List.map_cons, isFirst.2, positions, List.length_cons,
          List.range'_succ]

/-- The attempt was created by a start in the state, below the limit, after
all others, and with one snapshot for each selected question. -/
structure System.Creates {σ : Type} (sys : System σ) (seed : Text)
    (attempt : StartedAttempt) : Prop where
  below : sys.assignment.attempts.length < sys.assignment.attemptLimit
  alone : sys.assignment.attempts.countP StartedAttempt.isInProgress = 0
  number : attempt.attemptNumber = lastAttemptNumber sys.assignment + 1
  drawn : attempt.selectionSeed = seed ∧ ∃ selected,
        selectQuestionsForBlueprint sys.server.rng sys.server.bank
            sys.assignment.campaign.blueprint seed =
          .ok selected ∧
        attempt.snapshots.map StartedSnapshot.sourceQuestionId =
          selected.map QuestionSelection.Question.pk ∧
        attempt.snapshots.map (fun started => started.snapshot.position) =
          List.range' 1 selected.length

/-- A start returns the attempt in progress or creates the next one. -/
theorem startExamAttempt_ok
    {now : Timestamp} {next : Assignment} {created : Bool} (started :
      startExamAttempt sys.server sys.assignment seed now =
        .ok (next, attempt, created)) :
    (created = false ∧ next = sys.assignment ∧
        attempt ∈ sys.assignment.attempts) ∧
        attempt.status = .inProgress ∨
      (created = true ∧ next =
          { sys.assignment with
            attempts := sys.assignment.attempts ++ [attempt] } ∧
        sys.Creates seed attempt) ∧
        attempt.status = .inProgress := by
  unfold startExamAttempt at started
  split at started
  · rename_i existing found
    cases started
    obtain ⟨member, isInProgress⟩ := existingAttempt?_mem found
    exact .inl ⟨⟨rfl, rfl, member⟩, isInProgress⟩
  · rename_i missing
    cases creation : createAttempt sys.server sys.assignment seed now with
    | error failure =>
        rw [creation] at started
        cases started
    | ok result =>
        rw [creation] at started
        cases started
        obtain ⟨_, _, creation⟩ := bind_ok.mp creation
        obtain ⟨_, below, creation⟩ := bind_ok.mp creation
        obtain ⟨selected, selection, creation⟩ := bind_ok.mp creation
        obtain ⟨_, _, creation⟩ := bind_ok.mp creation
        obtain ⟨snapshots, built, creation⟩ := bind_ok.mp creation
        cases creation
        have drawn : selectQuestionsForBlueprint sys.server.rng sys.server.bank
                sys.assignment.campaign.blueprint seed =
              .ok selected := by
          simp only [selectQuestions] at selection
          split at selection
          · cases selection
          · cases selection
            assumption
        refine .inr ⟨⟨rfl, rfl, ?_⟩, rfl⟩
        exact
          { below := ensure_ok.mp below
            alone := existingAttempt?_none missing
            number := rfl
            drawn := ⟨rfl, selected, drawn, createSnapshots_ok built⟩ }

/-! ## Every state -/

/-- The attempts are numbered without gaps and at most one is in progress. -/
structure Assignment.IsSound (assignment : Assignment) : Prop where
  numbered : assignment.attempts.map StartedAttempt.attemptNumber =
      List.range' 1 assignment.attempts.length
  single : assignment.attempts.countP StartedAttempt.isInProgress ≤ 1

theorem Assignment.IsSound.lastAttemptNumber (isSound : assignment.IsSound) :
    lastAttemptNumber assignment = assignment.attempts.length := by
  have numbered :
      Rows.Numbered StartedAttempt.attemptNumber assignment.attempts :=
    isSound.numbered
  rw [← numbered.largest]
  simp only [StartedAttempts.lastAttemptNumber, Rows.largest, List.foldr_map]

theorem Assignment.IsSound.created
    (isSound : sys.assignment.IsSound) (creates : sys.Creates seed attempt) :
    Assignment.IsSound
      { sys.assignment with
        attempts := sys.assignment.attempts ++ [attempt] } where
  numbered := by
    have number :
        attempt.attemptNumber = 1 + sys.assignment.attempts.length := by
      rw [creates.number, isSound.lastAttemptNumber, Nat.add_comm]
    simp only [List.map_append, List.map_cons, List.map_nil,
      List.length_append, List.length_cons, List.length_nil, Nat.zero_add,
      List.range'_1_concat]
    rw [isSound.numbered, number]
  single := by
    simp only [List.countP_append, creates.alone, Nat.zero_add]
    exact List.countP_le_length

theorem Assignment.IsSound.withStatus
    (isSound : assignment.IsSound) (attemptNumber : Nat)
    {status : ExamAttemptStatus} (ends : status ≠ .inProgress) :
    (assignment.withStatus attemptNumber status).IsSound where
  numbered := by
    have same : (assignment.withStatus attemptNumber status).attempts.map
            StartedAttempt.attemptNumber =
          assignment.attempts.map StartedAttempt.attemptNumber :=
      Rows.map_modify fun _ _ _ => rfl
    have count : (assignment.withStatus attemptNumber status).attempts.length =
          assignment.attempts.length :=
      Rows.length_modify _ _ _ _
    rw [same, count]
    exact isSound.numbered
  single := by
    refine Nat.le_trans ?_ isSound.single
    simp only [Assignment.withStatus, Rows.modify, List.countP_map]
    refine List.countP_mono_left fun attempt _ inProgress => ?_
    simp only [Function.comp_apply] at inProgress
    split at inProgress
    · exact absurd (of_decide_eq_true inProgress) ends
    · exact inProgress

theorem Assignment.IsSound.step (isSound : sys.assignment.IsSound)
    (stepped : step? sys action = some next) :
    next.assignment.IsSound := by
  cases action with
  | start seed now =>
      simp only [step?] at stepped
      split at stepped
      · cases stepped
        exact isSound
      · rename_i started
        cases stepped
        rcases startExamAttempt_ok started with
          ⟨⟨_, same, _⟩, _⟩ | ⟨⟨_, same, creates⟩, _⟩
        · rw [same]
          exact isSound
        · rw [same]
          exact isSound.created creates
  | complete attemptNumber =>
      simp only [step?] at stepped
      split at stepped
      · cases stepped
        exact isSound.withStatus attemptNumber (by decide)
      · cases stepped
  | invalidate attemptNumber =>
      cases stepped
      exact isSound.withStatus attemptNumber (by decide)
  | limit attemptLimit =>
      cases stepped
      exact ⟨isSound.numbered, isSound.single⟩
  | changed server isActive campaign employee =>
      cases stepped
      exact ⟨isSound.numbered, isSound.single⟩

theorem Assignment.isSound_of_fresh
    (fresh : assignment.attempts = []) : assignment.IsSound := by
  constructor
  · rw [fresh]
    rfl
  · rw [fresh]
    exact Nat.zero_le _

theorem Assignment.IsSound.number_free (isSound : assignment.IsSound) :
    StartedAttempts.lastAttemptNumber assignment + 1 ∉
      assignment.attempts.map StartedAttempt.attemptNumber := by
  rw [isSound.numbered, isSound.lastAttemptNumber]
  intro member
  have bounded := List.mem_range'_1.mp member
  omega

theorem selectQuestions_no_integrity (server : Server σ)
    (blueprint : QuestionSelection.ExamBlueprint) (seed : Text) :
    Only (· ≠ Failure.integrity) (selectQuestions server blueprint seed) := by
  intro failure raised
  simp only [selectQuestions] at raised
  split at raised
  · cases raised
    exact Failure.noConfusion
  · cases raised

theorem createSnapshots_no_integrity
    (server : Server σ) (seed : Text) (shuffleAnswerOptions : Bool)
    (position : Nat) (questions : List QuestionSelection.Question) :
    Only (· ≠ Failure.integrity)
      (createSnapshots server seed shuffleAnswerOptions position
        questions) := by
  induction questions generalizing position with
  | nil => exact only_pure _
  | cons question questions inductionHypothesis =>
      refine only_bind.mpr ⟨?_, fun snapshot _ => ?_⟩
      · intro failure raised
        simp only [createSnapshot] at raised
        split at raised
        · cases raised
          exact Failure.noConfusion
        · cases raised
      · exact only_bind.mpr
          ⟨inductionHypothesis (position + 1), fun _ _ => only_pure _⟩

theorem validateAssignmentForStart_no_integrity
    (assignment : Assignment) (now : Timestamp) :
    Only (· ≠ Failure.integrity)
      (validateAssignmentForStart assignment now) := by
  simp [validateAssignmentForStart, only_bind, only_ensure]

theorem Assignment.IsSound.no_integrity
    (isSound : sys.assignment.IsSound) (seed : Text) (now : Timestamp) :
    startExamAttempt sys.server sys.assignment seed now ≠
      .error .integrity := by
  have created : Only (· ≠ Failure.integrity)
        (createAttempt sys.server sys.assignment seed now) := by
    refine only_bind.mpr
      ⟨validateAssignmentForStart_no_integrity _ _, fun _ _ => ?_⟩
    refine only_bind.mpr
      ⟨only_ensure.mpr (.inr Failure.noConfusion), fun _ _ => ?_⟩
    refine only_bind.mpr ⟨selectQuestions_no_integrity _ _ _, fun _ _ => ?_⟩
    refine only_bind.mpr
      ⟨only_ensure.mpr (.inl isSound.number_free), fun _ _ => ?_⟩
    exact only_bind.mpr
      ⟨createSnapshots_no_integrity _ _ _ _ _, fun _ _ => only_pure _⟩
  intro raised
  unfold startExamAttempt at raised
  split at raised
  · cases raised
  · cases creation : createAttempt sys.server sys.assignment seed now with
    | error failure =>
        rw [creation] at raised
        cases raised
        exact created _ creation rfl
    | ok result =>
        rw [creation] at raised
        cases raised

/-! ## Where attempts come from -/

/-- The attempt as it was when it was created. -/
def StartedAttempt.opened (attempt : StartedAttempt) : StartedAttempt :=
  { attempt with status := .inProgress }

/-- A start of the run created the attempt. -/
def CreatedIn
    {σ : Type} (first : System σ) (actions : List (Action σ)) (last : System σ)
    (attempt : StartedAttempt) : Prop :=
  ∃ early seed now late middle next,
    actions = early ++ .start seed now :: late ∧
      Run step? anything first early middle ∧
      step? middle (.start seed now) = some next ∧
      Run step? anything next late last ∧
      middle.Creates seed attempt.opened

theorem attempt_of_step (stepped : step? sys action = some next)
    (member : attempt ∈ next.assignment.attempts) :
    (∃ old ∈ sys.assignment.attempts, old.opened = attempt.opened) ∨ ∃ seed now,
        action = .start seed now ∧ sys.Creates seed attempt.opened := by
  have modified : ∀ attemptNumber status,
        attempt ∈ (sys.assignment.withStatus attemptNumber status).attempts →
          ∃ old ∈ sys.assignment.attempts, old.opened = attempt.opened := by
    intro attemptNumber status changed
    obtain ⟨old, isOld, ⟨_, rfl⟩ | ⟨_, rfl⟩⟩ := Rows.mem_modify.mp changed
    · exact ⟨old, isOld, rfl⟩
    · exact ⟨attempt, isOld, rfl⟩
  cases action with
  | start seed now =>
      simp only [step?] at stepped
      split at stepped
      · cases stepped
        exact .inl ⟨attempt, member, rfl⟩
      · rename_i started
        cases stepped
        rcases startExamAttempt_ok started with
          ⟨⟨_, same, _⟩, _⟩ | ⟨⟨_, same, creates⟩, isInProgress⟩
        · rw [same] at member
          exact .inl ⟨attempt, member, rfl⟩
        · rw [same] at member
          rcases List.mem_append.mp member with earlier | added
          · exact .inl ⟨attempt, earlier, rfl⟩
          · cases List.mem_singleton.mp added
            have opened : attempt.opened = attempt := by
              rw [StartedAttempt.opened, ← isInProgress]
            rw [opened]
            exact .inr ⟨seed, now, rfl, creates⟩
  | complete attemptNumber =>
      simp only [step?] at stepped
      split at stepped
      · cases stepped
        exact .inl (modified attemptNumber .completed member)
      · cases stepped
  | invalidate attemptNumber =>
      cases stepped
      exact .inl (modified attemptNumber .invalidated member)
  | limit attemptLimit =>
      cases stepped
      exact .inl ⟨attempt, member, rfl⟩
  | changed server isActive campaign employee =>
      cases stepped
      exact .inl ⟨attempt, member, rfl⟩

theorem attempt_of_run {first last : System σ} {actions : List (Action σ)}
    (run : Run step? anything first actions last)
    (member : attempt ∈ last.assignment.attempts) :
    (∃ old ∈ first.assignment.attempts, old.opened = attempt.opened) ∨
      CreatedIn first actions last attempt := by
  induction run with
  | nil => exact .inl ⟨attempt, member, rfl⟩
  | @cons state next last action rest isPermitted stepped tail
      inductionHypothesis =>
      rcases inductionHypothesis member with
        ⟨old, isOld, same⟩ | ⟨early, seed, now, late, middle, after, split,
          earlyRun, starts, lateRun, creates⟩
      · rcases attempt_of_step stepped isOld with
          ⟨older, isOlder, still⟩ | ⟨seed, now, rfl, creates⟩
        · exact .inl ⟨older, isOlder, still.trans same⟩
        · rw [same] at creates
          exact .inr ⟨[], seed, now, rest, state, next, rfl, .nil, stepped,
            tail, creates⟩
      · refine .inr ⟨action :: early, seed, now, late, middle, after, ?_,
          .cons isPermitted stepped earlyRun, starts, lateRun, creates⟩
        rw [split, List.cons_append]

/-! ## Every run -/

/-- In every order of starts, ends of attempts and changes, the attempts of
an assignment are numbered without gaps, at most one is in progress, and each
was created by a start below the limit of that moment, with one snapshot for
each question that was selected.  A start that finds an attempt in progress
returns it and changes nothing. -/
theorem run_isSound {σ : Type} {first last : System σ}
    {actions : List (Action σ)} (run : Run step? anything first actions last)
    (fresh : first.assignment.attempts = []) :
    last.assignment.IsSound ∧ (∀ attempt ∈ last.assignment.attempts,
        CreatedIn first actions last attempt) ∧
      ∀ seed now, startExamAttempt last.server last.assignment seed now ≠
            .error .integrity ∧
          ∀ next attempt created,
            startExamAttempt last.server last.assignment seed now =
                .ok (next, attempt, created) →
              attempt.status = .inProgress ∧
                (created = false ∧ next = last.assignment ∧
                    attempt ∈ last.assignment.attempts ∨
                  created = true ∧ next =
                      { last.assignment with
                        attempts := last.assignment.attempts ++ [attempt] } ∧
                    last.Creates seed attempt) := by
  have isSound : last.assignment.IsSound :=
    run.invariant (fun sys => sys.assignment.IsSound)
      (fun _ _ _ _ stepped before => before.step stepped)
      (Assignment.isSound_of_fresh fresh)
  refine ⟨isSound, fun attempt member => ?_, fun seed now => ⟨?_, ?_⟩⟩
  · rcases attempt_of_run run member with ⟨old, isOld, _⟩ | created
    · rw [fresh] at isOld
      cases isOld
    · exact created
  · exact isSound.no_integrity seed now
  · intro next attempt created started
    rcases startExamAttempt_ok started with
      ⟨unchanged, isInProgress⟩ | ⟨creates, isInProgress⟩
    · exact ⟨isInProgress, .inl unchanged⟩
    · exact ⟨isInProgress, .inr creates⟩

/-- An assignment of two attempts, not yet started. -/
def sampleSystem : System Unit where
  server :=
    { bank := QuestionSelection.smallBank
      rng := .first
      shuffle := fun _ _ => .none
      casefold := id
      serial := 100 }
  assignment :=
    { attemptLimit := 2
      isActive := true
      campaign :=
        { name := ""
          blueprint := QuestionSelection.fullBlueprint
          isActive := true
          opensAt := some 10
          closesAt := some 20 }
      employee := { level := .l1, isActive := true }
      attempts := [] }

/-- Two attempts, and starts that come too early, again and too often. -/
def sampleActions : List (Action Unit) :=
  [.start ['a'] 5, .start ['b'] 10, .start ['c'] 11, .complete 1,
    .start ['d'] 12, .invalidate 2, .start ['e'] 13]

/-- The state after the actions. -/
def sampleEnd : System Unit :=
  after step? sampleSystem sampleActions

theorem run_isSound_sample :
    sampleEnd.assignment.attempts.length = 2 ∧ sampleEnd.assignment.IsSound ∧
      (∀ attempt ∈ sampleEnd.assignment.attempts,
        CreatedIn sampleSystem sampleActions sampleEnd attempt) ∧
      ∀ seed now,
        startExamAttempt sampleEnd.server sampleEnd.assignment seed now ≠
            .error .integrity ∧
          ∀ next attempt created,
            startExamAttempt sampleEnd.server sampleEnd.assignment seed now =
                .ok (next, attempt, created) →
              attempt.status = .inProgress ∧
                (created = false ∧ next = sampleEnd.assignment ∧
                    attempt ∈ sampleEnd.assignment.attempts ∨
                  created = true ∧ next =
                      { sampleEnd.assignment with
                        attempts :=
                          sampleEnd.assignment.attempts ++ [attempt] } ∧
                    sampleEnd.Creates seed attempt) :=
  ⟨by decide, run_isSound (run_after (fun _ _ _ => trivial) (by decide) :
        Run step? anything sampleSystem sampleActions sampleEnd)
      rfl⟩

end TicketSandbox.Assessment.StartedAttempts
