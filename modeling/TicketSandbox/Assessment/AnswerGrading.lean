import Mathlib.Data.Rat.Defs
import TicketSandbox.Library.Raises
import TicketSandbox.Library.Rows
import TicketSandbox.Sandbox.Models

namespace TicketSandbox.Assessment

/-!
# Operational models of the assessment

One exam attempt with the snapshots of its questions, the answers given to
them and the result.  The columns that no modelled function reads or writes
are left out.
-/

open Raises
open Sandbox (Pk Timestamp)

/--
JSON values.  The fields of an object have different names, as in the
dictionary that the parser returns.
-/
inductive Json where
  | null
  | bool (value : Bool)
  | number (value : Rat)
  | text (value : String)
  | list (items : List Json)
  | object (fields : List (String × Json))

/-- The hashable JSON values, equal exactly when Python finds them equal. -/
inductive Scalar where
  | null
  | number (value : Rat)
  | text (value : String)
  deriving DecidableEq

namespace Json

/-- The value as an element of a set; lists and objects have no hash. -/
def scalar? : Json → Option Scalar
  | .null => some .null
  | .bool value => some (.number (if value then 1 else 0))
  | .number value => some (.number value)
  | .text value => some (.text value)
  | .list _ => none
  | .object _ => none

/-- `dict.get`. -/
def get? (fields : List (String × Json)) (name : String) : Option Json :=
  (fields.find? fun field => decide (field.1 = name)).map Prod.snd

end Json

/-- `QuestionType`. -/
inductive QuestionType where
  | singleChoice
  | multipleChoice
  | matching
  | ordering
  | lineSelection
  deriving Repr, DecidableEq

/-- `ExamAttemptStatus`. -/
inductive ExamAttemptStatus where
  | inProgress
  | completed
  | invalidated
  deriving Repr, DecidableEq

/-- The keys in `visible_payload`; an absent list is empty. -/
structure VisiblePayload where
  options : List String := []
  leftItems : List String := []
  rightItems : List String := []
  lines : List String := []

/-- `grading_payload`; an absent entry is empty. -/
structure GradingPayload where
  correctKeys : List String := []
  matches_ : List (String × String) := []
  correctOrder : List String := []

/-- `ExamQuestionSnapshot`. -/
structure ExamQuestionSnapshot where
  pk : Pk
  position : Nat
  topicName : String
  topicSlug : String
  skillName : String
  skillSlug : String
  questionType : QuestionType
  timeLimitSeconds : Nat
  startedAt : Option Timestamp
  visiblePayload : VisiblePayload
  gradingPayload : GradingPayload

/-- Percentages with two decimals, in hundredths. -/
abbrev Percentage := Nat

/-- `ExamAnswer`. -/
structure ExamAnswer where
  snapshotId : Pk
  responsePayload : Json
  scorePercentage : Percentage
  isCorrect : Bool
  timedOut : Bool
  responseTimeSeconds : Nat

/-- The part of a breakdown that belongs to one topic. -/
structure TopicBreakdown where
  name : String
  questionCount : Nat
  scorePercentage : Percentage

/-- The part of a breakdown that belongs to one skill. -/
structure SkillBreakdown where
  name : String
  topicSlug : String
  topicName : String
  questionCount : Nat
  scorePercentage : Percentage

/-- `AssessmentResult`; the breakdowns keep the order of their keys. -/
structure AssessmentResult where
  scorePercentage : Percentage
  passed : Bool
  totalQuestions : Nat
  fullyCorrectQuestions : Nat
  topicBreakdown : List (String × TopicBreakdown)
  skillBreakdown : List (String × SkillBreakdown)

/-- `ExamAttempt`. -/
structure ExamAttempt where
  status : ExamAttemptStatus
  passPercentage : Nat
  allowBackNavigation : Bool
  completedAt : Option Timestamp

/-- What the services raise. -/
inductive Failure where
  | validation (message : String)
  | doesNotExist
  | unhashable
  | unfinished

/--
The database as one attempt sees it.  The snapshots are listed in the order of
their positions, and an answer belongs to the snapshot it names.
-/
structure Db where
  attempt : ExamAttempt
  snapshots : List ExamQuestionSnapshot
  answers : List ExamAnswer
  results : List AssessmentResult

namespace Db

/-- The answer to the snapshot. -/
def answer? (db : Db) (snapshotId : Pk) : Option ExamAnswer :=
  db.answers.find? fun answer => decide (answer.snapshotId = snapshotId)

/-- The snapshot has an answer. -/
def isAnswered (db : Db) (snapshotId : Pk) : Bool :=
  (db.answer? snapshotId).isSome

/-- The snapshot with the primary key. -/
def snapshot? (db : Db) (pk : Pk) : Option ExamQuestionSnapshot :=
  db.snapshots.find? fun snapshot => decide (snapshot.pk = pk)

end Db

end TicketSandbox.Assessment

namespace TicketSandbox.Assessment.AnswerGrading

/-!
# Grading

`services/answer_grading.py`.  A percentage is computed exactly and rounded
half up to two decimals.
-/

open Raises

/-- A hundred percent. -/
def hundred : Percentage := 10000

/-- `_percentage`. -/
def percentage (correct total : Nat) : Percentage :=
  if total = 0 then 0 else (2 * 10000 * correct + total) / (2 * total)

/-- The values of a list as elements of a set. -/
def scalars (items : List Json) : Except Failure (List Scalar) :=
  required .unhashable (items.mapM Json.scalar?)

/-- Two lists have the same elements. -/
def sameSet {α : Type} [DecidableEq α] (first second : List α) : Bool :=
  decide (first ⊆ second ∧ second ⊆ first)

/-- Keys as elements of a set. -/
def keys (names : List String) : List Scalar :=
  names.map Scalar.text

/-- `_get_selected_keys`. -/
def getSelectedKeys (response : List (String × Json))
    (availableKeys : List String) : Except Failure (List Scalar) :=
  match Json.get? response "selected_keys" with
  | some (.list items) => do
      ensure (¬ items.isEmpty) (.validation "Выбери хотя бы один вариант.")
      let selected ← scalars items
      ensure selected.Nodup
        (.validation "Один вариант нельзя выбрать несколько раз.")
      ensure (selected ⊆ keys availableKeys)
        (.validation "Ответ содержит неизвестный вариант.")
      return selected
  | _ => .error (.validation "Ответ должен содержать список selected_keys.")

/-- All or nothing for the selected keys. -/
def gradeSelection
    (selected : List Scalar) (correctKeys : List String) : Percentage :=
  if sameSet selected (keys correctKeys) then hundred else 0

variable (snapshot : ExamQuestionSnapshot) (response : List (String × Json))

/-- `_grade_choice`. -/
def gradeChoice : Except Failure Percentage := do
  let selected ← getSelectedKeys response snapshot.visiblePayload.options
  ensure (snapshot.questionType = .singleChoice → selected.length = 1)
    (.validation "Для этого вопроса можно выбрать только один ответ.")
  return gradeSelection selected snapshot.gradingPayload.correctKeys

/-- `_grade_matching`. -/
def gradeMatching : Except Failure Percentage :=
  match Json.get? response "matches" with
  | some (.object submitted) => do
      let leftKeys := snapshot.visiblePayload.leftItems.dedup
      ensure (sameSet (submitted.map Prod.fst) leftKeys)
        (.validation "Необходимо сопоставить все элементы.")
      let rightKeys ← scalars (submitted.map Prod.snd)
      ensure (sameSet rightKeys (keys snapshot.visiblePayload.rightItems) ∧
          rightKeys.Nodup)
        (.validation
          "Каждый элемент справа должен быть использован ровно один раз.")
      let correct := leftKeys.filter fun left =>
        decide ((Json.get? submitted left).bind Json.scalar? =
            ((snapshot.gradingPayload.matches_.find? fun pair =>
              decide (pair.1 = left)).map fun pair => .text pair.2))
      return percentage correct.length leftKeys.length
  | _ => .error (.validation "Ответ должен содержать объект matches.")

/-- The pairs of elements, each one before the other. -/
def orderedPairs {α : Type} : List α → List (α × α)
  | [] => []
  | first :: rest => rest.map (first, ·) ++ orderedPairs rest

/-- `_grade_ordering`. -/
def gradeOrdering : Except Failure Percentage :=
  match Json.get? response "order" with
  | some (.list items) => do
      let correctOrder := keys snapshot.gradingPayload.correctOrder
      ensure (items.length = correctOrder.length)
        (.validation "Необходимо расположить все элементы.")
      let submitted ← scalars items
      ensure (sameSet submitted correctOrder)
        (.validation "Необходимо расположить все элементы.")
      ensure submitted.Nodup
        (.validation "Элементы последовательности не должны повторяться.")
      ensure (2 ≤ correctOrder.length)
        (.validation "Недостаточно элементов для проверки последовательности.")
      let pairs := orderedPairs correctOrder
      let correct := pairs.filter fun pair =>
        decide (submitted.idxOf pair.1 < submitted.idxOf pair.2)
      return percentage correct.length pairs.length
  | _ => .error (.validation "Ответ должен содержать список order.")

/-- `_grade_line_selection`. -/
def gradeLineSelection : Except Failure Percentage := do
  let selected ← getSelectedKeys response snapshot.visiblePayload.lines
  return gradeSelection selected snapshot.gradingPayload.correctKeys

/-- `grade_snapshot_answer`. -/
def gradeSnapshotAnswer (response : Json) : Except Failure Percentage :=
  match response with
  | .object fields =>
      match snapshot.questionType with
      | .singleChoice => gradeChoice snapshot fields
      | .multipleChoice => gradeChoice snapshot fields
      | .matching => gradeMatching snapshot fields
      | .ordering => gradeOrdering snapshot fields
      | .lineSelection => gradeLineSelection snapshot fields
  | _ => .error (.validation "Некорректный формат ответа.")

end TicketSandbox.Assessment.AnswerGrading
