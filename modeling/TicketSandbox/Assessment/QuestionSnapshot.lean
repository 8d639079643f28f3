import TicketSandbox.Assessment.AnswerGrading

namespace TicketSandbox.Assessment.QuestionSnapshot

/-!
# Snapshots of questions

`question_validation.py` and `services/question_snapshot.py`: the rows of a
question are validated, shuffled and given keys.  How texts are folded for a
comparison is a parameter.
-/

open Raises
open Sandbox (Text isSpace)

/-! ## Questions -/

/-- `AnswerOption` and `SelectableLine`: a text that is right or wrong. -/
structure MarkedRow where
  text : Text
  isCorrect : Bool

/-- `MatchingPair`. -/
structure MatchingPair where
  leftText : Text
  rightText : Text

/-- `Question`, with its rows in the order of `order` and `id`. -/
structure Question where
  topicName : String
  topicSlug : String
  skillName : String
  skillSlug : String
  answerType : QuestionType
  timeLimitSeconds : Nat
  answerOptions : List MarkedRow
  matchingPairs : List MatchingPair
  orderingItems : List Text
  selectableLines : List MarkedRow

/-! ## Validation -/

/-- `_normalize_text`: the words of a text, one blank apart. -/
def normalizeText (text : Text) : Text :=
  [' '].intercalate
    ((text.splitOnP isSpace).filter fun word => decide (word ≠ []))

/-- The marked rows that are not blank, normalized. -/
def preparedRows (rows : List MarkedRow) : List MarkedRow :=
  (rows.map fun row => { row with text := normalizeText row.text }).filter
    fun row => decide (row.text ≠ [])

/-- The number of the rows that are marked correct. -/
def correctCount (rows : List MarkedRow) : Nat :=
  rows.countP fun row => row.isCorrect

variable (casefold : Text → Text)

/-- `validate_answer_configuration`. -/
def validateAnswerConfiguration (answerType : QuestionType)
    (options : List MarkedRow) : Except Failure Unit := do
  let prepared := preparedRows options
  ensure (2 ≤ prepared.length)
    (.validation "Добавь минимум два варианта ответа.")
  ensure (prepared.map fun row => casefold row.text).Nodup
    (.validation "Варианты ответа не должны повторяться.")
  match answerType with
  | .singleChoice =>
      ensure (correctCount prepared = 1) (.validation
          ("Для одиночного выбора должен быть " ++
            "ровно один правильный ответ."))
  | .multipleChoice => do
      ensure (2 ≤ correctCount prepared) (.validation
          ("Для множественного выбора отметь " ++
            "минимум два правильных ответа."))
      ensure (correctCount prepared ≠ prepared.length) (.validation
          ("Для множественного выбора должен быть " ++
            "минимум один неправильный вариант."))
  | _ => .error (.validation "Неизвестный тип вопроса.")

/-- `validate_matching_configuration`. -/
def validateMatchingConfiguration
    (pairs : List MatchingPair) : Except Failure Unit := do
  let prepared := (pairs.map fun pair =>
      { leftText := normalizeText pair.leftText
        rightText := normalizeText pair.rightText : MatchingPair }).filter
      fun pair => decide (pair.leftText ≠ [] ∨ pair.rightText ≠ [])
  ensure (2 ≤ prepared.length)
    (.validation "Добавь минимум две пары для сопоставления.")
  ensure (prepared.map fun pair => casefold pair.leftText).Nodup
    (.validation "Левые части пар не должны повторяться.")
  ensure (prepared.map fun pair => casefold pair.rightText).Nodup
    (.validation "Правые части пар не должны повторяться.")

/-- `validate_ordering_configuration`. -/
def validateOrderingConfiguration
    (items : List Text) : Except Failure Unit := do
  let prepared :=
    (items.map normalizeText).filter fun text => decide (text ≠ [])
  ensure (3 ≤ prepared.length)
    (.validation "Добавь минимум три элемента последовательности.")
  ensure (prepared.map casefold).Nodup
    (.validation "Элементы последовательности не должны повторяться.")

/-- `validate_line_selection_configuration`. -/
def validateLineSelectionConfiguration
    (lines : List MarkedRow) : Except Failure Unit := do
  let prepared := preparedRows lines
  ensure (2 ≤ prepared.length) (.validation "Добавь минимум две строки.")
  ensure (prepared.map fun row => casefold row.text).Nodup
    (.validation "Строки не должны повторяться.")
  ensure (correctCount prepared ≠ 0) (.validation
      ("Отметь минимум одну строку, " ++ "которую должен выбрать сотрудник."))
  ensure (correctCount prepared ≠ prepared.length)
    (.validation "Минимум одна строка должна быть неправильной.")

/-! ## Payloads -/

/-- A shuffle, which reorders any list. -/
structure Shuffle where
  run : {α : Type} → List α → List α
  perm : ∀ {α : Type} (items : List α), (run items).Perm items

/-- The shuffle that leaves every list. -/
def Shuffle.none : Shuffle where
  run := id
  perm := fun _ => .refl _

/-- An entry that is shown: a key and its text. -/
structure VisibleItem where
  key : String
  text : Text

/-- `visible_payload` and `grading_payload`; an absent entry is empty. -/
structure Payload where
  options : List VisibleItem := []
  leftItems : List VisibleItem := []
  rightItems : List VisibleItem := []
  items : List VisibleItem := []
  lines : List VisibleItem := []
  grading : GradingPayload

variable (name : String)

/-- The rows with their keys, numbered from one. -/
def numbered {ρ : Type} (rows : List ρ) : List (String × ρ) :=
  rows.mapIdx fun index row => (name ++ toString (index + 1), row)

/-- The entries that show the rows. -/
def shown {ρ : Type} (text : ρ → Text) (rows : List (String × ρ)) :
    List VisibleItem :=
  rows.map fun row => { key := row.1, text := text row.2 }

/-- The keys of the rows that are marked correct. -/
def correctKeys (rows : List (String × MarkedRow)) : List String :=
  (rows.filter fun row => row.2.isCorrect).map Prod.fst

variable (question : Question)

/-- `_build_choice_payload`. -/
def buildChoicePayload
    (rng : Shuffle) (shuffle : Bool) : Except Failure Payload := do
  validateAnswerConfiguration casefold question.answerType
    question.answerOptions
  let options := numbered "option-" (if shuffle = true then
        rng.run question.answerOptions
      else
        question.answerOptions)
  pure
    { options := shown MarkedRow.text options
      grading := { correctKeys := correctKeys options } }

/-- `_build_matching_payload`. -/
def buildMatchingPayload (rng : Shuffle) : Except Failure Payload := do
  validateMatchingConfiguration casefold question.matchingPairs
  let lefts := numbered "left-" question.matchingPairs
  let rights := numbered "right-" question.matchingPairs
  pure
    { leftItems := shown MatchingPair.leftText lefts
      rightItems := rng.run (shown MatchingPair.rightText rights)
      grading :=
        { matches_ := (lefts.map Prod.fst).zip (rights.map Prod.fst) } }

/-- `_build_ordering_payload`. -/
def buildOrderingPayload (rng : Shuffle) : Except Failure Payload := do
  validateOrderingConfiguration casefold question.orderingItems
  let items := numbered "item-" question.orderingItems
  pure
    { items := rng.run (shown id items)
      grading := { correctOrder := items.map Prod.fst } }

/-- `_build_line_selection_payload`. -/
def buildLineSelectionPayload : Except Failure Payload := do
  validateLineSelectionConfiguration casefold question.selectableLines
  let lines := numbered "line-" question.selectableLines
  pure
    { lines := shown MarkedRow.text lines
      grading := { correctKeys := correctKeys lines } }

/-- What `build_question_snapshot_data` returns. -/
structure SnapshotData where
  question : Question
  payload : Payload

/-- `build_question_snapshot_data`. -/
def buildQuestionSnapshotData (rng : Shuffle)
    (shuffleAnswerOptions : Bool) : Except Failure SnapshotData := do
  let payload ←
    match question.answerType with
    | .singleChoice =>
        buildChoicePayload casefold question rng shuffleAnswerOptions
    | .multipleChoice =>
        buildChoicePayload casefold question rng shuffleAnswerOptions
    | .matching => buildMatchingPayload casefold question rng
    | .ordering => buildOrderingPayload casefold question rng
    | .lineSelection => buildLineSelectionPayload casefold question
  return { question, payload }

/-- The keys of the entries. -/
def itemKeys (items : List VisibleItem) : List String :=
  items.map VisibleItem.key

/-- The snapshot that is created with the data. -/
def SnapshotData.snapshot
    (data : SnapshotData) (pk position : Nat) : ExamQuestionSnapshot :=
  { pk
    position
    topicName := data.question.topicName
    topicSlug := data.question.topicSlug
    skillName := data.question.skillName
    skillSlug := data.question.skillSlug
    questionType := data.question.answerType
    timeLimitSeconds := data.question.timeLimitSeconds
    startedAt := none
    visiblePayload :=
      { options := itemKeys data.payload.options
        leftItems := itemKeys data.payload.leftItems
        rightItems := itemKeys data.payload.rightItems
        lines := itemKeys data.payload.lines }
    gradingPayload := data.payload.grading }

/-! ## Keys -/

theorem toString_injective {first second : Nat}
    (same : toString first = toString second) :
    first = second := by
  have digits : Nat.toDigits 10 first = Nat.toDigits 10 second := by
    rw [← Nat.toList_repr, ← Nat.toList_repr]
    exact congrArg String.toList same
  rw [← @Nat.ofDigitChars_ten_toDigits first, digits,
    Nat.ofDigitChars_ten_toDigits]

variable {ρ : Type}

theorem numbered_keys (rows : List ρ) :
    (numbered name rows).map Prod.fst =
      (List.range rows.length).map fun index =>
        name ++ toString (index + 1) := by
  unfold numbered
  refine List.ext_getElem (by simp) fun index _ _ => ?_
  simp

theorem numbered_rows
    (rows : List ρ) : (numbered name rows).map Prod.snd = rows := by
  unfold numbered
  refine List.ext_getElem (by simp) fun index _ _ => ?_
  simp

/-- The keys of a snapshot are distinct. -/
theorem numbered_nodup
    (rows : List ρ) : ((numbered name rows).map Prod.fst).Nodup := by
  rw [numbered_keys]
  refine List.Nodup.map ?_ List.nodup_range
  intro first second same
  have sameNumber := (String.append_right_inj name).mp same
  exact Nat.succ_injective (toString_injective sameNumber)

theorem itemKeys_shown (text : ρ → Text) (rows : List (String × ρ)) :
    itemKeys (shown text rows) = rows.map Prod.fst := by
  unfold itemKeys shown
  rw [List.map_map]
  rfl

theorem mem_correctKeys {rows : List (String × MarkedRow)} {key : String} :
    key ∈ correctKeys rows ↔
      ∃ row, (key, row) ∈ rows ∧ row.isCorrect = true := by
  unfold correctKeys
  rw [List.mem_map]
  constructor
  · rintro ⟨⟨_, row⟩, member, rfl⟩
    obtain ⟨inRows, isCorrect⟩ := List.mem_filter.mp member
    exact ⟨row, inRows, isCorrect⟩
  · rintro ⟨row, inRows, isCorrect⟩
    exact ⟨(key, row), List.mem_filter.mpr ⟨inRows, isCorrect⟩, rfl⟩

theorem length_correctKeys (rows : List MarkedRow) :
    (correctKeys (numbered name rows)).length = correctCount rows := by
  unfold correctKeys correctCount
  rw [List.length_map, ← List.countP_eq_length_filter]
  have counted := congrArg (List.countP fun row : MarkedRow => row.isCorrect)
      (numbered_rows name rows)
  rw [List.countP_map] at counted
  exact counted

end TicketSandbox.Assessment.QuestionSnapshot
