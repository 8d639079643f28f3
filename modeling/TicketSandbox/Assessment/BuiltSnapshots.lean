import TicketSandbox.Assessment.AcceptedResponses
import TicketSandbox.Assessment.Results

namespace TicketSandbox.Assessment.QuestionSnapshot

/-!
# Built snapshots

What a snapshot holds that was built from the rows of a valid question, and
what a submission saves once such a snapshot was opened.
-/

open Raises
open Sandbox (Pk Text Timestamp)
open AnswerGrading QuestionFlow

/-- The keys in a payload that are graded. -/
def Payload.gradedKeys (payload : Payload) : List String :=
  payload.grading.correctKeys ++ payload.grading.matches_.map Prod.fst ++
    payload.grading.matches_.map Prod.snd ++ payload.grading.correctOrder

/-- The keys in a payload that are shown. -/
def Payload.shownKeys (payload : Payload) : List String :=
  itemKeys payload.options ++ itemKeys payload.leftItems ++
    itemKeys payload.rightItems ++ itemKeys payload.items ++
    itemKeys payload.lines

/-- The payload of a choice between the rows. -/
def choicePayload (rows : List MarkedRow) : Payload :=
  { options := shown MarkedRow.text (numbered "option-" rows)
    grading := { correctKeys := correctKeys (numbered "option-" rows) } }

/-- The payload of a selection of lines. -/
def linePayload (rows : List MarkedRow) : Payload :=
  { lines := shown MarkedRow.text (numbered "line-" rows)
    grading := { correctKeys := correctKeys (numbered "line-" rows) } }

/-- The payload of a matching that shows the right items in an order. -/
def matchingPayload
    (pairs : List MatchingPair) (rights : List VisibleItem) : Payload :=
  { leftItems := shown MatchingPair.leftText (numbered "left-" pairs)
    rightItems := rights
    grading :=
      { matches_ := ((numbered "left-" pairs).map Prod.fst).zip
            ((numbered "right-" pairs).map Prod.fst) } }

/-- The payload of an ordering that shows the items in an order. -/
def orderingPayload (texts : List Text) (items : List VisibleItem) : Payload :=
  { items
    grading := { correctOrder := (numbered "item-" texts).map Prod.fst } }

variable {casefold : Text → Text} {question : Question} {rng : Shuffle}
  {shuffle : Bool} {payload : Payload} {db : Db}
  {snapshot : ExamQuestionSnapshot} {now : Timestamp} {response : Json}

theorem choice_built
    (built : buildChoicePayload casefold question rng shuffle = .ok payload) :
    validateAnswerConfiguration casefold question.answerType
        question.answerOptions =
        .ok () ∧
      ∃ rows : List MarkedRow, rows.Perm question.answerOptions ∧
        payload = choicePayload rows := by
  simp only [buildChoicePayload, bind_ok, pure_ok] at built
  obtain ⟨_, valid, rfl⟩ := built
  refine ⟨valid, _, ?_, rfl⟩
  split
  · exact rng.perm question.answerOptions
  · exact .refl _

theorem lineSelection_built
    (built : buildLineSelectionPayload casefold question = .ok payload) :
    validateLineSelectionConfiguration casefold question.selectableLines =
        .ok () ∧
      payload = linePayload question.selectableLines := by
  simp only [buildLineSelectionPayload, bind_ok, pure_ok] at built
  obtain ⟨_, valid, rfl⟩ := built
  exact ⟨valid, rfl⟩

theorem matching_built
    (built : buildMatchingPayload casefold question rng = .ok payload) :
    validateMatchingConfiguration casefold question.matchingPairs = .ok () ∧
      ∃ rights : List VisibleItem, rights.Perm (shown MatchingPair.rightText
            (numbered "right-" question.matchingPairs)) ∧
        payload = matchingPayload question.matchingPairs rights := by
  simp only [buildMatchingPayload, bind_ok, pure_ok] at built
  obtain ⟨_, valid, rfl⟩ := built
  exact ⟨valid, _, rng.perm _, rfl⟩

theorem ordering_built
    (built : buildOrderingPayload casefold question rng = .ok payload) :
    validateOrderingConfiguration casefold question.orderingItems = .ok () ∧
      ∃ items : List VisibleItem,
        items.Perm (shown id (numbered "item-" question.orderingItems)) ∧
        payload = orderingPayload question.orderingItems items := by
  simp only [buildOrderingPayload, bind_ok, pure_ok] at built
  obtain ⟨_, valid, rfl⟩ := built
  exact ⟨valid, _, rng.perm _, rfl⟩

/-- What is built for a question, by its type. -/
inductive Built
    (casefold : Text → Text) (question : Question) : Payload → Prop where
  | choice {rows : List MarkedRow} (type : question.answerType = .singleChoice ∨
          question.answerType = .multipleChoice)
      (valid : validateAnswerConfiguration casefold question.answerType
          question.answerOptions = .ok ())
      (reordered : rows.Perm question.answerOptions) :
      Built casefold question (choicePayload rows)
  | matching {rights : List VisibleItem}
      (type : question.answerType = .matching)
      (valid :
        validateMatchingConfiguration casefold question.matchingPairs = .ok ())
      (reordered : rights.Perm (shown MatchingPair.rightText
            (numbered "right-" question.matchingPairs))) :
      Built casefold question (matchingPayload question.matchingPairs rights)
  | ordering {items : List VisibleItem} (type : question.answerType = .ordering)
      (valid :
        validateOrderingConfiguration casefold question.orderingItems = .ok ())
      (reordered :
        items.Perm (shown id (numbered "item-" question.orderingItems))) :
      Built casefold question (orderingPayload question.orderingItems items)
  | lineSelection (type : question.answerType = .lineSelection) (valid :
        validateLineSelectionConfiguration casefold
          question.selectableLines = .ok ()) :
      Built casefold question (linePayload question.selectableLines)

/-- A snapshot that is built has the payload of its question. -/
theorem buildQuestionSnapshotData_ok {data : SnapshotData} (built :
      buildQuestionSnapshotData casefold question rng shuffle = .ok data) :
    data.question = question ∧ Built casefold question data.payload := by
  cases type : question.answerType with
  | singleChoice =>
      simp only [buildQuestionSnapshotData, type, bind_ok, pure_ok] at built
      obtain ⟨payload, branch, rfl⟩ := built
      obtain ⟨valid, rows, reordered, rfl⟩ := choice_built branch
      exact ⟨rfl, .choice (.inl type) valid reordered⟩
  | multipleChoice =>
      simp only [buildQuestionSnapshotData, type, bind_ok, pure_ok] at built
      obtain ⟨payload, branch, rfl⟩ := built
      obtain ⟨valid, rows, reordered, rfl⟩ := choice_built branch
      exact ⟨rfl, .choice (.inr type) valid reordered⟩
  | matching =>
      simp only [buildQuestionSnapshotData, type, bind_ok, pure_ok] at built
      obtain ⟨payload, branch, rfl⟩ := built
      obtain ⟨valid, rights, reordered, rfl⟩ := matching_built branch
      exact ⟨rfl, .matching type valid reordered⟩
  | ordering =>
      simp only [buildQuestionSnapshotData, type, bind_ok, pure_ok] at built
      obtain ⟨payload, branch, rfl⟩ := built
      obtain ⟨valid, items, reordered, rfl⟩ := ordering_built branch
      exact ⟨rfl, .ordering type valid reordered⟩
  | lineSelection =>
      simp only [buildQuestionSnapshotData, type, bind_ok, pure_ok] at built
      obtain ⟨payload, branch, rfl⟩ := built
      obtain ⟨valid, rfl⟩ := lineSelection_built branch
      exact ⟨rfl, .lineSelection type valid⟩

/-! ## Submissions -/

/-- The snapshot after it was opened. -/
def SnapshotData.opened (data : SnapshotData) (pk position : Nat)
    (startedAt : Timestamp) : ExamQuestionSnapshot :=
  { data.snapshot pk position with startedAt := some startedAt }

theorem submitExamAnswer_first {startedAt : Timestamp} {score : Percentage}
    (stored : db.snapshot? snapshot.pk = some snapshot)
    (active : db.attempt.status = .inProgress)
    (started : snapshot.startedAt = some startedAt)
    (unanswered : db.isAnswered snapshot.pk = false)
    (inTime : now < deadline snapshot startedAt)
    (graded : gradeSnapshotAnswer snapshot response = .ok score) :
    submitExamAnswer db snapshot.pk response now = .ok (createAnswer db
          (gradedAnswer snapshot response score
            (min (elapsedSeconds startedAt now)
              snapshot.timeLimitSeconds))) := by
  simp only [submitExamAnswer, bind_ok, required_ok, ensure_ok]
  refine ⟨snapshot, stored, (), active, startedAt, started, ?_⟩
  rw [if_neg (Bool.not_eq_true _ ▸ unanswered)]
  simp only [answerFirst]
  rw [if_neg (Int.not_le.mpr inTime), graded]
  rfl

/-- An answer is stored as correct only with the full score. -/
theorem submitExamAnswer_correct {next : Db} {answer : ExamAnswer}
    (stored : db.snapshot? snapshot.pk = some snapshot)
    (returned : submitExamAnswer db snapshot.pk response now = .ok next)
    (saved : answer ∈ next.answers) (correct : answer.isCorrect = true) :
    answer ∈ db.answers ∨ answer.responsePayload = response ∧
        gradeSnapshotAnswer snapshot response = .ok hundred := by
  simp only [submitExamAnswer, bind_ok, ensure_ok,
    required_ok, stored, Option.some.injEq] at returned
  obtain ⟨_, rfl, _, _, startedAt, _, branch⟩ := returned
  have ofScore :
      ∀ score seconds, gradeSnapshotAnswer snapshot response = .ok score →
        answer = gradedAnswer snapshot response score seconds →
        answer.responsePayload = response ∧
          gradeSnapshotAnswer snapshot response = .ok hundred := by
    rintro score seconds graded rfl
    have full : score = hundred := of_decide_eq_true correct
    exact ⟨rfl, full ▸ graded⟩
  split at branch
  · simp only [answerAgain, bind_ok, ensure_ok] at branch
    obtain ⟨_, _, _, _, score, graded, written⟩ := branch
    cases written
    obtain ⟨old, member, ⟨_, rewritten⟩ | ⟨_, rfl⟩⟩ := Rows.mem_modify.mp saved
    · exact .inr (ofScore _ _ graded rewritten)
    · exact .inl member
  · simp only [answerFirst] at branch
    split at branch
    · cases branch
      rcases List.mem_append.mp saved with old | new
      · exact .inl old
      · rw [List.mem_singleton.mp new] at correct
        cases correct
    · obtain ⟨score, graded, written⟩ := bind_ok.mp branch
      cases written
      rcases List.mem_append.mp saved with old | new
      · exact .inl old
      · exact .inr (ofScore _ _ graded (List.mem_singleton.mp new))

end TicketSandbox.Assessment.QuestionSnapshot
