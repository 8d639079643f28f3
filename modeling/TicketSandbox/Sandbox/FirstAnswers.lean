import TicketSandbox.Library.IsoOrder
import TicketSandbox.Sandbox.EvidenceAxes

namespace TicketSandbox.Sandbox.ProgramEvidence

/-!
# The first answers of a program

`program_evidence` sorts the first answers by the texts that `isoformat`
writes for their times, and then by the numbers of the submissions.  The
`datetime` that stands for a stored time is a parameter.
-/

open IsoDates (DateTime isoformat isoformat_eq_iff isoformat_lt_iff)
open LedgerEvidence
open Raises

/-! ## The keys -/

/-- `submitted_at` of a first answer. -/
def FirstAnswer.submittedAtText
    (date : Timestamp → DateTime) (answer : FirstAnswer) : List Char :=
  isoformat (date answer.submission.submittedAt)

/-- The comparison of the keys `(submitted_at, submission_id)`. -/
def SortsBefore
    (date : Timestamp → DateTime) (first second : FirstAnswer) : Prop :=
  first.submittedAtText date < second.submittedAtText date ∨
    first.submittedAtText date = second.submittedAtText date ∧
      first.submission.submissionId ≤ second.submission.submissionId

instance (date : Timestamp → DateTime) : DecidableRel (SortsBefore date) :=
  fun _ _ => inferInstanceAs (Decidable (_ ∨ _))

/-- `first_answers`, sorted by texts. -/
def textFirstAnswers (date : Timestamp → DateTime)
    (attempts : List ProgramAttempt) : List FirstAnswer :=
  ((attempts.filterMap ProgramAttempt.firstAnswer?).insertionSort
    (SortsBefore date)).take 5

/-! ## The order of the times -/

/-- The answer is earlier, or as early and no later in number. -/
def FirstAnswer.IsEarlier (first second : FirstAnswer) : Prop :=
  first.submission.submittedAt < second.submission.submittedAt ∨
    first.submission.submittedAt = second.submission.submittedAt ∧
      first.submission.submissionId ≤ second.submission.submissionId

instance : DecidableRel FirstAnswer.IsEarlier :=
  fun _ _ => inferInstanceAs (Decidable (_ ∨ _))

instance : IsTrans FirstAnswer FirstAnswer.IsEarlier where
  trans first second third early late := by
    rcases early with early | ⟨sameEarly, early⟩
    · rcases late with late | ⟨sameLate, _⟩
      · exact Or.inl (early.trans late)
      · exact Or.inl (sameLate ▸ early)
    · rcases late with late | ⟨sameLate, late⟩
      · exact Or.inl (sameEarly ▸ late)
      · exact Or.inr ⟨sameEarly.trans sameLate, early.trans late⟩

instance : Std.Total FirstAnswer.IsEarlier where
  total first second := by
    rcases lt_trichotomy first.submission.submittedAt
      second.submission.submittedAt with less | same | more
    · exact Or.inl (Or.inl less)
    · rcases Nat.le_total first.submission.submissionId
        second.submission.submissionId with smaller | greater
      · exact Or.inl (Or.inr ⟨same, smaller⟩)
      · exact Or.inr (Or.inr ⟨same.symm, greater⟩)
    · exact Or.inr (Or.inl more)

/-- The dates stand for the times of the first answers. -/
def IsDated
    (date : Timestamp → DateTime) (attempts : List ProgramAttempt) : Prop :=
  ∀ answer ∈ attempts.filterMap ProgramAttempt.firstAnswer?,
    (date answer.submission.submittedAt).instant = answer.submission.submittedAt

/-- What is found are the five earliest of the first answers, or all of them
when they are fewer, in the order of their times. -/
structure AreEarliest
    (attempts : List ProgramAttempt) (found : List FirstAnswer) : Prop where
  length : found.length =
      min 5 (attempts.filterMap ProgramAttempt.firstAnswer?).length
  inOrder : found.Pairwise FirstAnswer.IsEarlier
  chosen : ∃ others, (found ++ others).Perm
          (attempts.filterMap ProgramAttempt.firstAnswer?) ∧
        ∀ answer ∈ found, ∀ other ∈ others, answer.IsEarlier other

/-- The submission is the first one of its attempt. -/
structure IsFirstSubmission (db : Db) (submission : AnswerSubmission) :
    Prop where
  stored : submission ∈ db.submissions
  lowest : ∀ other ∈ db.submissions, submission.ordinal ≤ other.ordinal

/-- The evidence of an attempt with its first answer, if it counts and has
one. -/
structure ShowsFirst (db : Db) (attempt : ProgramAttempt) : Prop where
  evidence : attempt.evidence = attemptEvidence db
  missing : attempt.firstAnswer? = none ↔
      attempt.isCounted = false ∨ db.submissions = []
  first : ∀ answer, attempt.firstAnswer? = some answer →
      ∃ submission, IsFirstSubmission db submission ∧
        answer = ⟨attempt.taskId, submissionEvidence db submission⟩

variable {date : Timestamp → DateTime} {attempts : List ProgramAttempt}
  {first second : FirstAnswer}

theorem sortsBefore_iff (isFirst : (date first.submission.submittedAt).instant =
        first.submission.submittedAt)
    (isSecond : (date second.submission.submittedAt).instant =
        second.submission.submittedAt) :
    SortsBefore date first second ↔ first.IsEarlier second := by
  unfold SortsBefore FirstAnswer.IsEarlier FirstAnswer.submittedAtText
  rw [isoformat_lt_iff, isoformat_eq_iff, isFirst, isSecond]

/-- The order of the texts is that of the times. -/
theorem textFirstAnswers_eq (dated : IsDated date attempts) :
    textFirstAnswers date attempts = firstAnswers attempts := by
  have same :=
    List.map_insertionSort (SortsBefore date) FirstAnswer.IsEarlier id
      (attempts.filterMap ProgramAttempt.firstAnswer?)
      fun first isFirst second isSecond =>
        sortsBefore_iff (dated first isFirst) (dated second isSecond)
  rw [List.map_id, List.map_id] at same
  rw [textFirstAnswers, same]
  rfl

theorem areEarliest_firstAnswers (attempts : List ProgramAttempt) :
    AreEarliest attempts (firstAnswers attempts) := by
  have sorted := List.pairwise_insertionSort FirstAnswer.IsEarlier
      (attempts.filterMap ProgramAttempt.firstAnswer?)
  have perm := List.perm_insertionSort FirstAnswer.IsEarlier
      (attempts.filterMap ProgramAttempt.firstAnswer?)
  rw [← List.take_append_drop 5 (List.insertionSort _ _)] at sorted perm
  obtain ⟨inOrder, _, between⟩ := List.pairwise_append.mp sorted
  refine ⟨?_, inOrder, _, perm, between⟩
  rw [← List.length_insertionSort FirstAnswer.IsEarlier
    (attempts.filterMap ProgramAttempt.firstAnswer?), ← List.length_take]
  rfl

/-! ## The first submission of an attempt -/

theorem orderedSubmissions_perm (db : Db) :
    (orderedSubmissions db).Perm db.submissions :=
  List.perm_insertionSort _ _

theorem orderedSubmissions_sorted (db : Db) :
    (orderedSubmissions db).Pairwise fun first second =>
      first.ordinal ≤ second.ordinal := by
  have total : Std.Total fun first second : AnswerSubmission =>
        first.ordinal ≤ second.ordinal :=
    ⟨fun first second => Nat.le_total first.ordinal second.ordinal⟩
  have transitive : IsTrans AnswerSubmission fun first second =>
        first.ordinal ≤ second.ordinal :=
    ⟨fun _ _ _ => Nat.le_trans⟩
  exact List.pairwise_insertionSort _ db.submissions

theorem isFirstSubmission_head {db : Db} {submission : AnswerSubmission}
    (isHead : (orderedSubmissions db).head? = some submission) :
    IsFirstSubmission db submission := by
  obtain ⟨rest, shape⟩ := List.head?_eq_some_iff.mp isHead
  have perm := orderedSubmissions_perm db
  have sorted := orderedSubmissions_sorted db
  rw [shape] at sorted perm
  refine ⟨perm.subset List.mem_cons_self, fun other member => ?_⟩
  rcases List.mem_cons.mp (perm.symm.subset member) with rfl | later
  · exact Nat.le_refl _
  · exact List.rel_of_pairwise_cons sorted later

theorem showsFirst {db : Db} {attempt : ProgramAttempt}
    (evidence : attempt.evidence = attemptEvidence db) :
    ShowsFirst db attempt := by
  have submissions : attempt.evidence.submissions =
        (orderedSubmissions db).map (submissionEvidence db) := by
    rw [evidence]
    rfl
  have perm := orderedSubmissions_perm db
  refine ⟨evidence, ?_, ?_⟩
  · unfold ProgramAttempt.firstAnswer?
    cases isCounted : attempt.isCounted with
    | false => simp
    | true =>
        rw [if_pos rfl, submissions, List.head?_map]
        simp only [Option.map_eq_none_iff, List.head?_eq_none_iff,
          Bool.true_eq_false, false_or]
        constructor
        · intro isEmpty
          rw [isEmpty] at perm
          exact perm.nil_eq.symm
        · intro isEmpty
          rw [isEmpty] at perm
          exact perm.eq_nil
  · intro answer isAnswer
    unfold ProgramAttempt.firstAnswer? at isAnswer
    split at isAnswer
    · rw [submissions, List.head?_map, Option.map_map] at isAnswer
      obtain ⟨submission, isHead, rfl⟩ := Option.map_eq_some_iff.mp isAnswer
      exact ⟨submission, isFirstSubmission_head isHead, rfl⟩
    · cases isAnswer

/-! ## What the program answers -/

variable {completion : Option Completion}

theorem summarized_firstFive {store : Store} {userId : Pk} {programKey : String}
    {manifest : Option Manifest} {entries : List Entry} {reasons : List String}
    {found : List FirstAnswer}
    (isFound : found ∈
        (summarized store userId programKey manifest completion entries reasons
          attempts).firstFiveAnswers) :
    found = firstAnswers attempts := by
  change found ∈ if _ then some _ else none at isFound
  by_cases isComplete :
      (Axis.answers.program reasons attempts).isComplete = true
  · rw [if_pos isComplete] at isFound
    exact (Option.some.inj isFound).symm
  · rw [if_neg isComplete] at isFound
    cases isFound

theorem entriesEvidence_showsFirst {credit : List Db}
    {entries : List Entry} {reasons : List String} (returned :
      entriesEvidence credit completion entries = .ok (reasons, attempts)) :
    ∀ attempt ∈ attempts, ∃ db ∈ credit, ShowsFirst db attempt := by
  induction entries generalizing reasons attempts with
  | nil =>
      cases returned
      exact fun _ member => (List.not_mem_nil member).elim
  | cons entry entries inductionHypothesis =>
      obtain ⟨⟨own, shown⟩, isShown, returned⟩ := bind_ok.mp returned
      obtain ⟨⟨others, later⟩, isLater, returned⟩ := bind_ok.mp returned
      cases returned
      intro attempt member
      rcases List.mem_append.mp member with isOwn | isOther
      · obtain rfl := Option.mem_toList.mp isOwn
        unfold entryEvidence at isShown
        cases isFound : credit.reverse.find? fun db =>
            decide ((db.identity.taskId : Int) = entry.taskId) with
        | none =>
            rw [isFound] at isShown
            cases isShown
        | some db =>
            rw [isFound] at isShown
            obtain ⟨_, _, isShown⟩ := bind_ok.mp isShown
            obtain ⟨_, _, isShown⟩ := bind_ok.mp isShown
            cases isShown
            exact ⟨db, List.mem_reverse.mp (List.mem_of_find?_eq_some isFound),
              showsFirst rfl⟩
      · exact inductionHypothesis isLater attempt isOther

/-- The first answers that `program_evidence` finds in the order of their
texts are the five earliest of the first submissions. -/
theorem firstAnswers_earliest
    {store : Store} {userId : Pk} {programKey : String} {evidence : Evidence}
    (returned : programEvidence store userId programKey = .ok evidence)
    (dated : IsDated date evidence.attempts) :
    evidence.observedFirstAnswers = textFirstAnswers date evidence.attempts ∧
      (∀ found ∈ evidence.firstFiveAnswers,
        found = textFirstAnswers date evidence.attempts) ∧
      AreEarliest evidence.attempts (textFirstAnswers date evidence.attempts) ∧
      ∀ attempt ∈ evidence.attempts,
        ∃ db ∈ store.attempts, ShowsFirst db attempt := by
  rw [textFirstAnswers_eq dated]
  unfold programEvidence at returned
  obtain ⟨_, _, returned⟩ := bind_ok.mp returned
  obtain ⟨⟨_, attempts⟩, isEvidence, returned⟩ := bind_ok.mp returned
  obtain ⟨_, _, returned⟩ := bind_ok.mp returned
  cases returned
  refine ⟨rfl, fun _ => summarized_firstFive, areEarliest_firstAnswers _, ?_⟩
  intro attempt member
  obtain ⟨db, isCredit, shows⟩ :=
    entriesEvidence_showsFirst isEvidence attempt member
  exact ⟨db, List.mem_of_mem_filter isCredit, shows⟩

/-- The attempt at a task with one answer. -/
def answeredAttempt (pk taskId submission : Pk) (submittedAt : Timestamp) :
    Db :=
  { resetAttempt pk taskId with
    submissions :=
      [{ pk := submission
         operationId := submission
         userId := 1
         taskId
         attemptNumber := 1
         ordinal := 1
         submittedAt
         clientAnswer := ['a']
         traineeReport := ['r']
         digest := 1 }] }

/-- A trainee who answered the second task first, in the last microsecond
before a full second. -/
def answeredStore : Store :=
  { sampleStore with
    manifests :=
      sampleStore.manifests.map fun manifest =>
        { manifest with
          snapshot :=
            .object
              [("schema_version", .int 1),
                ("tasks",
                  .list
                    [manifestTask 5 (.bool true),
                      manifestTask 6 (.bool true)])] }
    attempts :=
      [answeredAttempt 50 5 8 1000000, answeredAttempt 60 6 9 999999] }

/-- The dates of the two times. -/
def answeredDate (time : Timestamp) : DateTime :=
  if time = 1000000 then
    { year := 1970
      month := 1
      day := 1
      hour := 0
      minute := 0
      second := 1
      microsecond := 0
      isCalendar := by decide }
  else
    { year := 1970
      month := 1
      day := 1
      hour := 0
      minute := 0
      second := 0
      microsecond := 999999
      isCalendar := by decide }

theorem firstAnswers_earliest_answered :
    ∃ evidence, programEvidence answeredStore 1 "l1" = .ok evidence ∧
        evidence.observedFirstAnswers.map FirstAnswer.taskId = [6, 5] ∧
        evidence.observedFirstAnswers =
          textFirstAnswers answeredDate evidence.attempts ∧
        AreEarliest evidence.attempts
          (textFirstAnswers answeredDate evidence.attempts) := by
  have returned : ∃ evidence,
        programEvidence answeredStore 1 "l1" = .ok evidence ∧
          IsDated answeredDate evidence.attempts ∧
          evidence.observedFirstAnswers.map FirstAnswer.taskId = [6, 5] :=
    ⟨_, rfl, by unfold IsDated; decide, by decide⟩
  obtain ⟨evidence, isEvidence, dated, tasks⟩ := returned
  obtain ⟨observed, _, earliest, _⟩ := firstAnswers_earliest isEvidence dated
  exact ⟨evidence, isEvidence, tasks, observed, earliest⟩

end TicketSandbox.Sandbox.ProgramEvidence
