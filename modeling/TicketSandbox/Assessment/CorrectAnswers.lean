import TicketSandbox.Assessment.BuiltSnapshots

namespace TicketSandbox.Assessment.QuestionSnapshot

/-!
# Correct answers

A built snapshot has a correct answer, except that the validator leaves blank
rows out and the builder does not: a single choice may get a second correct
key from a blank row.
-/

open Raises
open Sandbox (Pk Text Timestamp)
open AnswerGrading QuestionFlow

/-- The question asks to select rows. -/
def QuestionType.IsSelection : QuestionType → Prop
  | .singleChoice | .multipleChoice | .lineSelection => True
  | .matching | .ordering => False

/-- The rows of a question that are marked as right or wrong. -/
def Question.markedRows (question : Question) : List MarkedRow :=
  match question.answerType with
  | .singleChoice => question.answerOptions
  | .multipleChoice => question.answerOptions
  | .lineSelection => question.selectableLines
  | .matching => []
  | .ordering => []

/-- The response is graded a hundred percent, and a submission in time saves
it as correct. -/
structure FullMarks
    (snapshot : ExamQuestionSnapshot) (response : Json) : Prop where
  graded : gradeSnapshotAnswer snapshot response = .ok hundred
  submitted : ∀ db startedAt now, db.snapshot? snapshot.pk =
          some { snapshot with startedAt := some startedAt } →
        db.attempt.status = .inProgress →
        db.isAnswered snapshot.pk = false →
        now < deadline snapshot startedAt →
        ∃ next, submitExamAnswer db snapshot.pk response now = .ok next ∧
          ∃ answer ∈ next.answers, answer.snapshotId = snapshot.pk ∧
            answer.responsePayload = response ∧
            answer.scorePercentage = hundred ∧ answer.isCorrect = true

/-- The selected keys are those of the rows that are marked correct. -/
def SelectsCorrect (rows : List (String × MarkedRow))
    (response : List (String × Json)) : Prop :=
  ∃ names : List String,
    Json.get? response "selected_keys" = some (.list (names.map Json.text)) ∧
      ∀ key, key ∈ names ↔ ∃ row, (key, row) ∈ rows ∧ row.isCorrect = true

/-- The snapshot has a correct answer, which selects the rows that are marked
correct, and its keys fit together. -/
structure IsAnswerable (data : SnapshotData) (pk position : Nat) : Prop where
  answered : ∃ response, FullMarks (data.snapshot pk position)
      (.object response)
  unique : QuestionType.IsSelection data.question.answerType →
      ∃ rows : List (String × MarkedRow),
        (rows.map Prod.snd).Perm data.question.markedRows ∧
          shown MarkedRow.text rows =
            data.payload.options ++ data.payload.lines ∧
          ∀ response, gradeSnapshotAnswer (data.snapshot pk position)
                (.object response) = .ok hundred →
              SelectsCorrect rows response
  single : data.question.answerType = .singleChoice →
      data.payload.grading.correctKeys.length = 1
  known : data.payload.gradedKeys ⊆ data.payload.shownKeys
  distinct : data.payload.shownKeys.Nodup

/-- In a single choice no blank row is marked correct. -/
def NoBlankAnswer (question : Question) : Prop :=
  question.answerType = .singleChoice →
    ∀ row ∈ question.answerOptions, row.isCorrect = true →
      normalizeText row.text ≠ []

/-! ## Validated rows -/

theorem correctCount_preparedRows (rows : List MarkedRow) :
    correctCount (preparedRows rows) = rows.countP fun row =>
        row.isCorrect && decide (normalizeText row.text ≠ []) := by
  unfold correctCount preparedRows
  rw [List.countP_filter, List.countP_map]
  rfl

theorem correctCount_preparedRows_le (rows : List MarkedRow) :
    correctCount (preparedRows rows) ≤ correctCount rows := by
  rw [correctCount_preparedRows]
  exact List.countP_mono_left fun row _ both => (Bool.and_eq_true_iff.mp both).1

theorem correctCount_preparedRows_eq {rows : List MarkedRow} :
    correctCount (preparedRows rows) = correctCount rows ↔
      ∀ row ∈ rows, row.isCorrect = true → normalizeText row.text ≠ [] := by
  have split := List.countP_eq_countP_filter_add rows (fun row => row.isCorrect)
      fun row => decide (normalizeText row.text ≠ [])
  rw [List.countP_filter, List.countP_filter] at split
  rw [correctCount_preparedRows]
  unfold correctCount
  rw [split, Nat.left_eq_add, List.countP_eq_zero]
  refine forall_congr' fun row => imp_congr_right fun _ => ?_
  simp

variable {casefold : Text → Text} {pairs : List MatchingPair} {name : String}
  {rows : List MarkedRow} {ρ : Type} {items rights : List VisibleItem}
  {question : Question} {response : List (String × Json)} {pk position : Nat}

theorem validateAnswerConfiguration_ok
    {answerType : QuestionType} {options : List MarkedRow}
    (valid : validateAnswerConfiguration casefold answerType options = .ok ()) :
    0 < correctCount (preparedRows options) ∧ (answerType = .singleChoice →
        correctCount (preparedRows options) = 1) := by
  unfold validateAnswerConfiguration at valid
  obtain ⟨_, _, valid⟩ := bind_ok.mp valid
  obtain ⟨_, _, counted⟩ := bind_ok.mp valid
  cases answerType with
  | singleChoice =>
      have one := ensure_ok.mp counted
      exact ⟨one ▸ Nat.one_pos, fun _ => one⟩
  | multipleChoice =>
      obtain ⟨_, two, _⟩ := bind_ok.mp counted
      exact ⟨Nat.lt_of_lt_of_le Nat.two_pos (ensure_ok.mp two), nofun⟩
  | matching => cases counted
  | ordering => cases counted
  | lineSelection => cases counted

theorem validateLineSelectionConfiguration_ok {lines : List MarkedRow}
    (valid : validateLineSelectionConfiguration casefold lines = .ok ()) :
    0 < correctCount (preparedRows lines) := by
  simp only [validateLineSelectionConfiguration, bind_ok, ensure_ok] at valid
  obtain ⟨_, _, _, _, _, some, _⟩ := valid
  exact Nat.pos_of_ne_zero some

/-- A valid matching has two pairs. -/
theorem validateMatchingConfiguration_ok
    (valid : validateMatchingConfiguration casefold pairs = .ok ()) :
    2 ≤ pairs.length := by
  simp only [validateMatchingConfiguration, bind_ok, ensure_ok] at valid
  obtain ⟨_, enough, _⟩ := valid
  refine Nat.le_trans enough (Nat.le_trans (List.length_filter_le ..) ?_)
  rw [List.length_map]

theorem validateOrderingConfiguration_ok {items : List Text}
    (valid : validateOrderingConfiguration casefold items = .ok ()) :
    3 ≤ items.length := by
  simp only [validateOrderingConfiguration, bind_ok, ensure_ok] at valid
  obtain ⟨_, enough, _⟩ := valid
  refine Nat.le_trans enough (Nat.le_trans (List.length_filter_le ..) ?_)
  rw [List.length_map]

/-! ## Full marks -/

theorem fullMarks_of_graded {snapshot : ExamQuestionSnapshot} {response : Json}
    (graded : gradeSnapshotAnswer snapshot response = .ok hundred) :
    FullMarks snapshot response := by
  refine ⟨graded, fun db startedAt now stored active unanswered inTime => ?_⟩
  have returned :=
    @submitExamAnswer_first db { snapshot with startedAt := some startedAt }
      now response startedAt hundred stored active rfl unanswered inTime
      graded
  exact ⟨_, returned, _, List.mem_append_right _ List.mem_cons_self, rfl, rfl,
    rfl, rfl⟩

theorem correctKeys_sublist (rows : List (String × MarkedRow)) :
    (correctKeys rows).Sublist (rows.map Prod.fst) :=
  List.filter_sublist.map Prod.fst

theorem correctKeys_nodup (name : String) (rows : List MarkedRow) :
    (correctKeys (numbered name rows)).Nodup :=
  (correctKeys_sublist _).nodup (numbered_nodup name rows)

theorem correctKeys_ne_nil (positive : 0 < correctCount rows) :
    correctKeys (numbered name rows) ≠ [] := by
  intro empty
  have counted := length_correctKeys name rows
  rw [empty] at counted
  exact Nat.ne_of_gt positive counted.symm

theorem length_numberedKeys (name : String) (rows : List ρ) :
    ((numbered name rows).map Prod.fst).length = rows.length := by
  rw [numbered_keys, List.length_map, List.length_range]

theorem itemKeys_perm {text : ρ → Text} {rows : List (String × ρ)}
    (reordered : items.Perm (shown text rows)) :
    (itemKeys items).Perm (rows.map Prod.fst) := by
  rw [← itemKeys_shown text rows]
  exact reordered.map VisibleItem.key

/-- The snapshot of a question with a payload. -/
abbrev snapshotOf
    (question : Question) (payload : Payload)
    (pk position : Nat) : ExamQuestionSnapshot :=
  SnapshotData.snapshot { question, payload } pk position

theorem choice_graded
    (pk position : Nat) (type : question.answerType = .singleChoice ∨
        question.answerType = .multipleChoice)
    (positive : 0 < correctCount rows)
    (single : question.answerType = .singleChoice → correctCount rows = 1) :
    gradeSnapshotAnswer (snapshotOf question (choicePayload rows) pk position)
        (.object (selectedResponse (correctKeys (numbered "option-" rows)))) =
      .ok hundred := by
  rw [gradeSnapshotAnswer_choice type, gradeChoice_ok]
  refine ⟨_, rfl, correctKeys_ne_nil positive, correctKeys_nodup _ _, ?_,
    ?_, (gradeSelection_eq_hundred.mpr fun _ => Iff.rfl).symm⟩
  · show _ ⊆ itemKeys (shown MarkedRow.text (numbered "option-" rows))
    rw [itemKeys_shown]
    exact (correctKeys_sublist _).subset
  · rw [length_correctKeys]
    exact single

theorem lineSelection_graded
    (pk position : Nat) (type : question.answerType = .lineSelection)
    (positive : 0 < correctCount question.selectableLines) :
    gradeSnapshotAnswer
        (snapshotOf question (linePayload question.selectableLines) pk position)
        (.object (selectedResponse
            (correctKeys (numbered "line-" question.selectableLines)))) =
      .ok hundred := by
  rw [gradeSnapshotAnswer_lineSelection type, gradeLineSelection_ok]
  refine ⟨_, rfl, correctKeys_ne_nil positive, correctKeys_nodup _ _, ?_,
    (gradeSelection_eq_hundred.mpr fun _ => Iff.rfl).symm⟩
  show _ ⊆
    itemKeys (shown MarkedRow.text (numbered "line-" question.selectableLines))
  rw [itemKeys_shown]
  exact (correctKeys_sublist _).subset

theorem matching_graded
    (pk position : Nat) (type : question.answerType = .matching)
    (enough : 2 ≤ question.matchingPairs.length) (reordered : rights.Perm
        (shown MatchingPair.rightText
          (numbered "right-" question.matchingPairs))) :
    gradeSnapshotAnswer
        (snapshotOf question (matchingPayload question.matchingPairs rights)
          pk position)
        (.object (matchResponse
            (((numbered "left-" question.matchingPairs).map Prod.fst).zip
              ((numbered "right-" question.matchingPairs).map Prod.fst)))) =
      .ok hundred := by
  have sameLength :
      ((numbered "left-" question.matchingPairs).map Prod.fst).length =
        ((numbered "right-" question.matchingPairs).map Prod.fst).length := by
    rw [length_numberedKeys, length_numberedKeys]
  have lefts := List.map_fst_zip (Nat.le_of_eq sameLength)
  have rightKeys := List.map_snd_zip (Nat.le_of_eq sameLength.symm)
  have all : rightly (snapshotOf question
            (matchingPayload question.matchingPairs rights) pk position)
          (((numbered "left-" question.matchingPairs).map Prod.fst).zip
            ((numbered "right-" question.matchingPairs).map Prod.fst)) =
        (itemKeys (shown MatchingPair.leftText
            (numbered "left-" question.matchingPairs))).dedup :=
    List.filter_eq_self.mpr fun _ _ => decide_eq_true rfl
  rw [gradeSnapshotAnswer_matching type, gradeMatching_ok]
  refine ⟨_, rfl, ?_, ?_, ?_, ?_⟩
  · intro left
    rw [lefts]
    show _ ↔ left ∈ itemKeys (shown _ (numbered "left-" _))
    rw [itemKeys_shown]
  · intro right
    rw [rightKeys]
    exact (itemKeys_perm reordered).mem_iff.symm
  · rw [rightKeys]
    exact numbered_nodup _ _
  · rw [all]
    refine (percentage_self ?_).symm
    rw [itemKeys_shown, (numbered_nodup _ _).dedup, length_numberedKeys]
    exact Nat.lt_of_lt_of_le Nat.two_pos enough

theorem ordering_graded
    (pk position : Nat) (type : question.answerType = .ordering)
    (enough : 3 ≤ question.orderingItems.length) :
    gradeSnapshotAnswer
        (snapshotOf question (orderingPayload question.orderingItems items)
          pk position)
        (.object (orderResponse
            ((numbered "item-" question.orderingItems).map Prod.fst))) =
      .ok hundred := by
  have nodup := numbered_nodup "item-" question.orderingItems
  have length := length_numberedKeys "item-" question.orderingItems
  rw [gradeSnapshotAnswer_ordering type, gradeOrdering_ok]
  refine ⟨_, rfl, nodup, .refl _, ?_, ?_⟩
  · show 2 ≤ ((numbered "item-" question.orderingItems).map Prod.fst).length
    rw [length]
    exact Nat.le_of_succ_le enough
  · show _ = percentage
        ((orderedPairs ((numbered "item-" _).map Prod.fst)).length -
          inversions ((numbered "item-" _).map Prod.fst) _) _
    rw [(inversions_eq_zero (.refl _) nodup).mpr rfl, Nat.sub_zero]
    refine (percentage_self ?_).symm
    show 0 < (orderedPairs ((numbered "item-" _).map Prod.fst)).length
    rw [length_orderedPairs, length]
    exact Nat.choose_pos (Nat.le_of_succ_le enough)

/-! ## Unique answers -/

theorem selectsCorrect_of_hundred {names : List String} (named :
      Json.get? response "selected_keys" = some (.list (names.map Json.text)))
    (full : hundred =
        gradeSelection (keys names) (correctKeys (numbered name rows))) :
    SelectsCorrect (numbered name rows) response := by
  refine ⟨names, named, fun key => ?_⟩
  rw [← mem_correctKeys]
  exact gradeSelection_eq_hundred.mp full.symm key

theorem choice_unique (type : question.answerType = .singleChoice ∨
        question.answerType = .multipleChoice)
    (full :
      gradeSnapshotAnswer (snapshotOf question (choicePayload rows) pk position)
          (.object response) = .ok hundred) :
    SelectsCorrect (numbered "option-" rows) response := by
  rw [gradeSnapshotAnswer_choice type, gradeChoice_ok] at full
  obtain ⟨names, named, _, _, _, _, score⟩ := full
  exact selectsCorrect_of_hundred named score

theorem lineSelection_unique
    (type : question.answerType = .lineSelection) (full :
      gradeSnapshotAnswer (snapshotOf question (linePayload rows) pk position)
          (.object response) = .ok hundred) :
    SelectsCorrect (numbered "line-" rows) response := by
  rw [gradeSnapshotAnswer_lineSelection type, gradeLineSelection_ok] at full
  obtain ⟨names, named, _, _, _, score⟩ := full
  exact selectsCorrect_of_hundred named score

/-! ## Keys of payloads -/

theorem left_ne_right (first second : String) :
    "left-" ++ first ≠ "right-" ++ second := by
  intro same
  have letters := congrArg String.toList same
  rw [String.toList_append, String.toList_append] at letters
  cases letters

theorem choicePayload_keys (rows : List MarkedRow) :
    (choicePayload rows).gradedKeys ⊆ (choicePayload rows).shownKeys ∧
      (choicePayload rows).shownKeys.Nodup := by
  have shownAre : (choicePayload rows).shownKeys =
        (numbered "option-" rows).map Prod.fst := by
    simp [Payload.shownKeys, choicePayload, itemKeys, shown]
  have gradedAre : (choicePayload rows).gradedKeys =
        correctKeys (numbered "option-" rows) := by
    simp [Payload.gradedKeys, choicePayload]
  rw [shownAre, gradedAre]
  exact ⟨(correctKeys_sublist _).subset, numbered_nodup _ _⟩

theorem linePayload_keys (rows : List MarkedRow) :
    (linePayload rows).gradedKeys ⊆ (linePayload rows).shownKeys ∧
      (linePayload rows).shownKeys.Nodup := by
  have shownAre :
      (linePayload rows).shownKeys = (numbered "line-" rows).map Prod.fst := by
    simp [Payload.shownKeys, linePayload, itemKeys, shown]
  have gradedAre :
      (linePayload rows).gradedKeys = correctKeys (numbered "line-" rows) := by
    simp [Payload.gradedKeys, linePayload]
  rw [shownAre, gradedAre]
  exact ⟨(correctKeys_sublist _).subset, numbered_nodup _ _⟩

theorem orderingPayload_keys {texts : List Text}
    (reordered : items.Perm (shown id (numbered "item-" texts))) :
    (orderingPayload texts items).gradedKeys ⊆
        (orderingPayload texts items).shownKeys ∧
      (orderingPayload texts items).shownKeys.Nodup := by
  have shownAre : (orderingPayload texts items).shownKeys = itemKeys items := by
    simp [Payload.shownKeys, orderingPayload, itemKeys]
  have gradedAre : (orderingPayload texts items).gradedKeys =
        (numbered "item-" texts).map Prod.fst := by
    simp [Payload.gradedKeys, orderingPayload]
  rw [shownAre, gradedAre]
  have same := itemKeys_perm reordered
  exact ⟨same.symm.subset, same.nodup_iff.mpr (numbered_nodup _ _)⟩

theorem matchingPayload_keys (reordered :
      rights.Perm (shown MatchingPair.rightText (numbered "right-" pairs))) :
    (matchingPayload pairs rights).gradedKeys ⊆
        (matchingPayload pairs rights).shownKeys ∧
      (matchingPayload pairs rights).shownKeys.Nodup := by
  have same := itemKeys_perm reordered
  have shownAre : (matchingPayload pairs rights).shownKeys =
        (numbered "left-" pairs).map Prod.fst ++ itemKeys rights := by
    simp [Payload.shownKeys, matchingPayload, itemKeys, shown]
  rw [shownAre]
  constructor
  · intro key member
    have zipped : key ∈ (((numbered "left-" pairs).map Prod.fst).zip
              ((numbered "right-" pairs).map Prod.fst)).map Prod.fst ∨
          key ∈ (((numbered "left-" pairs).map Prod.fst).zip
              ((numbered "right-" pairs).map Prod.fst)).map Prod.snd := by
      simpa [Payload.gradedKeys, matchingPayload] using member
    have sameLength : ((numbered "left-" pairs).map Prod.fst).length =
          ((numbered "right-" pairs).map Prod.fst).length := by
      rw [length_numberedKeys, length_numberedKeys]
    rw [List.map_fst_zip (Nat.le_of_eq sameLength),
      List.map_snd_zip (Nat.le_of_eq sameLength.symm)] at zipped
    rcases zipped with left | right
    · exact List.mem_append_left _ left
    · exact List.mem_append_right _ (same.symm.subset right)
  · refine List.nodup_append'.mpr
      ⟨numbered_nodup _ _, same.nodup_iff.mpr (numbered_nodup _ _), ?_⟩
    intro key left right
    rw [same.mem_iff, numbered_keys, List.mem_map] at right
    rw [numbered_keys, List.mem_map] at left
    obtain ⟨_, _, rfl⟩ := left
    obtain ⟨_, _, same⟩ := right
    exact left_ne_right _ _ same.symm

/-! ## Answerable questions -/

theorem choice_isAnswerable
    (pk position : Nat) (type : question.answerType = .singleChoice ∨
        question.answerType = .multipleChoice)
    (valid : validateAnswerConfiguration casefold question.answerType
        question.answerOptions = .ok ())
    (reordered : rows.Perm question.answerOptions) :
    IsAnswerable { question, payload := choicePayload rows } pk position ↔
      NoBlankAnswer question := by
  obtain ⟨positive, one⟩ := validateAnswerConfiguration_ok valid
  have counted : correctCount rows = correctCount question.answerOptions :=
    reordered.countP_eq _
  have bound := correctCount_preparedRows_le question.answerOptions
  constructor
  · intro answerable isSingle
    rw [← correctCount_preparedRows_eq, one isSingle, ← counted,
      ← length_correctKeys "option-"]
    exact (answerable.single isSingle).symm
  · intro noBlank
    have single :
        question.answerType = .singleChoice → correctCount rows = 1 := by
      intro isSingle
      rw [counted, ← correctCount_preparedRows_eq.mpr (noBlank isSingle)]
      exact one isSingle
    have marked : question.markedRows = question.answerOptions := by
      unfold Question.markedRows
      rcases type with type | type <;> simp only [type]
    obtain ⟨known, distinct⟩ := choicePayload_keys rows
    refine ⟨⟨_, fullMarks_of_graded (choice_graded pk position type ?_ single)⟩,
      fun _ => ⟨numbered "option-" rows, ?_, (List.append_nil _).symm,
        fun _ full => choice_unique type full⟩, ?_, known, distinct⟩
    · rw [counted]
      exact Nat.lt_of_lt_of_le positive bound
    · rw [numbered_rows, marked]
      exact reordered
    · intro isSingle
      rw [← single isSingle]
      exact length_correctKeys "option-" rows

theorem lineSelection_isAnswerable
    (pk position : Nat) (type : question.answerType = .lineSelection) (valid :
      validateLineSelectionConfiguration casefold question.selectableLines =
        .ok ()) :
    IsAnswerable
      { question, payload := linePayload question.selectableLines } pk
      position := by
  have positive :=
    Nat.lt_of_lt_of_le (validateLineSelectionConfiguration_ok valid)
      (correctCount_preparedRows_le question.selectableLines)
  have marked : question.markedRows = question.selectableLines := by
    unfold Question.markedRows
    simp only [type]
  obtain ⟨known, distinct⟩ := linePayload_keys question.selectableLines
  refine ⟨⟨_, fullMarks_of_graded
      (lineSelection_graded pk position type positive)⟩,
    fun _ => ⟨numbered "line-" question.selectableLines, ?_, rfl,
      fun _ full => lineSelection_unique type full⟩, ?_, known, distinct⟩
  · rw [numbered_rows, marked]
  · intro isSingle
    cases type.symm.trans isSingle

/-- A question that passes its validator has a correct answer, unique where
rows are selected, with keys that fit together, exactly when no blank option
of a single choice is marked correct. -/
theorem buildQuestionSnapshotData_isAnswerable
    {casefold : Text → Text} {question : Question} {rng : Shuffle}
    {shuffle : Bool} {data : SnapshotData} (pk position : Nat) (built :
      buildQuestionSnapshotData casefold question rng shuffle = .ok data) :
    IsAnswerable data pk position ↔ NoBlankAnswer question := by
  obtain ⟨owner, shape⟩ := buildQuestionSnapshotData_ok built
  obtain ⟨stored, payload⟩ := data
  have sameQuestion : stored = question := owner
  subst sameQuestion
  cases shape with
  | choice type valid reordered =>
      exact choice_isAnswerable pk position type valid reordered
  | matching type valid reordered =>
      obtain ⟨known, distinct⟩ := matchingPayload_keys reordered
      refine iff_of_true ⟨⟨_, fullMarks_of_graded
          (matching_graded pk position type
            (validateMatchingConfiguration_ok valid) reordered)⟩,
        fun selects => ?_, fun isSingle => ?_, known, distinct⟩
        fun isSingle => ?_
      · simp only [type] at selects
        exact selects.elim
      · cases type.symm.trans isSingle
      · cases type.symm.trans isSingle
  | ordering type valid reordered =>
      obtain ⟨known, distinct⟩ := orderingPayload_keys reordered
      refine iff_of_true ⟨⟨_, fullMarks_of_graded
          (ordering_graded pk position type
            (validateOrderingConfiguration_ok valid))⟩,
        fun selects => ?_, fun isSingle => ?_, known, distinct⟩
        fun isSingle => ?_
      · simp only [type] at selects
        exact selects.elim
      · cases type.symm.trans isSingle
      · cases type.symm.trans isSingle
  | lineSelection type valid =>
      refine iff_of_true (lineSelection_isAnswerable pk position type valid) ?_
      intro isSingle
      cases type.symm.trans isSingle

theorem buildQuestionSnapshotData_isAnswerable_port :
    ∃ data, buildQuestionSnapshotData id portQuestion .none false = .ok data ∧
        IsAnswerable data 1 1 :=
  ⟨_, rfl,
    (@buildQuestionSnapshotData_isAnswerable id portQuestion .none false _ 1
      1 rfl).mpr fun _ => by decide⟩

/-- A question with a blank row that is marked correct. -/
def blankQuestion : Question :=
  { portQuestion with
    answerOptions :=
      portQuestion.answerOptions ++ [{ text := [' '], isCorrect := true }] }

/-- The question passes its validator, and its single choice has two correct
keys. -/
theorem buildQuestionSnapshotData_blank :
    ∃ data, buildQuestionSnapshotData id blankQuestion .none false = .ok data ∧
        data.payload.grading.correctKeys = ["option-1", "option-3"] ∧
        ¬ IsAnswerable data 1 1 := by
  refine ⟨_, rfl, by decide, fun answerable => ?_⟩
  have one := answerable.single rfl
  revert one
  decide

end TicketSandbox.Assessment.QuestionSnapshot
