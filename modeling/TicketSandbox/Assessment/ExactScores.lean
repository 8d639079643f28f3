import TicketSandbox.Assessment.Matchings

namespace TicketSandbox.Assessment.QuestionSnapshot

/-!
# Exact scores

A score is rounded to two decimals before it is compared with a hundred.  A
share of one in twenty thousand that is missing is rounded away, and orderings
and matchings may be large enough for it.
-/

open Sandbox (Pk Text Timestamp)
open AnswerGrading QuestionFlow

/-- The selected keys are the correct ones. -/
def SelectsKeys (payload : Payload) (response : List (String × Json)) : Prop :=
  ∃ names : List String,
    Json.get? response "selected_keys" = some (.list (names.map Json.text)) ∧
      ∀ key, key ∈ names ↔ key ∈ payload.grading.correctKeys

/-- Every left item is matched with its own right item. -/
def MatchesAll (payload : Payload) (response : List (String × Json)) : Prop :=
  ∃ pairs, Json.get? response "matches" = some (.object (matchFields pairs)) ∧
      ∀ left ∈ itemKeys payload.leftItems,
        lookup? pairs left = lookup? payload.grading.matches_ left

/-- The items are in the correct order. -/
def OrdersAll (payload : Payload) (response : List (String × Json)) : Prop :=
  Json.get? response "order" =
    some (.list (payload.grading.correctOrder.map Json.text))

/-- The response is exactly the correct answer. -/
def IsCorrectAnswer
    (data : SnapshotData) (response : List (String × Json)) : Prop :=
  match data.question.answerType with
  | .singleChoice => SelectsKeys data.payload response
  | .multipleChoice => SelectsKeys data.payload response
  | .matching => MatchesAll data.payload response
  | .ordering => OrdersAll data.payload response
  | .lineSelection => SelectsKeys data.payload response

/-- Only correct answers get a hundred percent, and an order gets the less the
more pairs it inverts, up to rounding. -/
structure GradesExactly (data : SnapshotData) (pk position : Nat) : Prop where
  bounded : ∀ response score,
      gradeSnapshotAnswer (data.snapshot pk position) (.object response) =
          .ok score →
        score ≤ hundred
  exact : ∀ response score,
      gradeSnapshotAnswer (data.snapshot pk position) (.object response) =
          .ok score →
        (score = hundred ↔ IsCorrectAnswer data response)
  saved : ∀ db startedAt response now next answer,
      db.snapshot? pk = some (data.opened pk position startedAt) →
        submitExamAnswer db pk (.object response) now = .ok next →
          answer ∈ next.answers → answer ∉ db.answers →
            answer.isCorrect = true → IsCorrectAnswer data response
  decreasing : data.question.answerType = .ordering →
      ∀ (better worse : List String) (more less : Percentage),
        gradeSnapshotAnswer (data.snapshot pk position)
            (.object (orderResponse better)) = .ok more →
          gradeSnapshotAnswer (data.snapshot pk position)
              (.object (orderResponse worse)) = .ok less →
            inversions data.payload.grading.correctOrder better <
                inversions data.payload.grading.correctOrder worse →
              less ≤ more ∧ (less = more → 10000 *
                      (inversions data.payload.grading.correctOrder worse -
                        inversions data.payload.grading.correctOrder better) <
                    (orderedPairs data.payload.grading.correctOrder).length)
  reversed : data.question.answerType = .ordering →
      ∀ (names : List String) (score : Percentage),
        gradeSnapshotAnswer (data.snapshot pk position)
            (.object (orderResponse names)) = .ok score →
          (names = data.payload.grading.correctOrder.reverse → score = 0) ∧
            (score = 0 → 20000 *
                  ((orderedPairs data.payload.grading.correctOrder).length -
                    inversions data.payload.grading.correctOrder names) <
                (orderedPairs data.payload.grading.correctOrder).length)

/-- The question is too small for a wrong answer to be rounded away. -/
def IsSmall (question : Question) : Prop :=
  (question.answerType = .ordering → question.orderingItems.length ≤ 200) ∧
  (question.answerType = .matching → question.matchingPairs.length < 40000)

/-! ## Orderings -/

variable {snapshot : ExamQuestionSnapshot} {names : List String}
  {score : Percentage} {data : SnapshotData} {pk position : Nat}
  {response : List (String × Json)} {question : Question}
  {rights : List VisibleItem} {payload : Payload} {casefold : Text → Text}

theorem orderResponse_graded
    (type : snapshot.questionType = .ordering) (graded :
      gradeSnapshotAnswer snapshot (.object (orderResponse names)) =
        .ok score) :
    names.Nodup ∧ names.Perm snapshot.gradingPayload.correctOrder ∧
      0 < (orderedPairs snapshot.gradingPayload.correctOrder).length ∧
      score = percentage
          ((orderedPairs snapshot.gradingPayload.correctOrder).length -
            inversions snapshot.gradingPayload.correctOrder names)
          (orderedPairs snapshot.gradingPayload.correctOrder).length := by
  rw [gradeSnapshotAnswer_ordering type, gradeOrdering_ok] at graded
  obtain ⟨others, named, nodup, reordered, enough, rfl⟩ := graded
  have same : names = others :=
    List.map_injective_iff.mpr (fun _ _ => Json.text.inj)
      (Json.list.inj (Option.some.inj named))
  subst same
  refine ⟨nodup, reordered, ?_, rfl⟩
  rw [length_orderedPairs]
  exact Nat.choose_pos enough

theorem ordering_decreasing
    {better worse : List String} {more less : Percentage}
    (type : snapshot.questionType = .ordering) (gradedBetter :
      gradeSnapshotAnswer snapshot (.object (orderResponse better)) = .ok more)
    (gradedWorse :
      gradeSnapshotAnswer snapshot (.object (orderResponse worse)) = .ok less)
    (inverts : inversions snapshot.gradingPayload.correctOrder better <
        inversions snapshot.gradingPayload.correctOrder worse) :
    less ≤ more ∧ (less = more → 10000 *
            (inversions snapshot.gradingPayload.correctOrder worse -
              inversions snapshot.gradingPayload.correctOrder better) <
          (orderedPairs snapshot.gradingPayload.correctOrder).length) := by
  obtain ⟨_, _, positive, rfl⟩ := orderResponse_graded type gradedBetter
  obtain ⟨_, _, _, rfl⟩ := orderResponse_graded type gradedWorse
  have bound := inversions_le snapshot.gradingPayload.correctOrder worse
  refine ⟨percentage_mono (by omega), fun same => ?_⟩
  have close := lt_of_percentage_eq positive same
  omega

theorem ordering_reversed (type : snapshot.questionType = .ordering) (graded :
      gradeSnapshotAnswer snapshot (.object (orderResponse names)) =
        .ok score) :
    (names = snapshot.gradingPayload.correctOrder.reverse → score = 0) ∧
      (score = 0 → 20000 *
            ((orderedPairs snapshot.gradingPayload.correctOrder).length -
              inversions snapshot.gradingPayload.correctOrder names) <
          (orderedPairs snapshot.gradingPayload.correctOrder).length) := by
  obtain ⟨nodup, reordered, positive, rfl⟩ := orderResponse_graded type graded
  rw [percentage_eq_zero positive]
  refine ⟨fun reversed => ?_, id⟩
  rw [(inversions_eq_length reordered.symm nodup).mpr reversed, Nat.sub_self]
  exact positive

theorem ordering_hundred (type : data.question.answerType = .ordering) (graded :
      gradeSnapshotAnswer (data.snapshot pk position) (.object response) =
        .ok score) :
    score ≤ hundred ∧ ∃ inverted : Nat, (score = hundred ↔ 20000 * inverted ≤
            data.payload.grading.correctOrder.length.choose 2) ∧
        (IsCorrectAnswer data response ↔ inverted = 0) := by
  rw [gradeSnapshotAnswer_ordering type, gradeOrdering_ok] at graded
  obtain ⟨names, named, nodup, reordered, enough, rfl⟩ := graded
  have bound := inversions_le data.payload.grading.correctOrder names
  have positive :
      0 < (orderedPairs data.payload.grading.correctOrder).length := by
    rw [length_orderedPairs]
    exact Nat.choose_pos enough
  refine ⟨percentage_le (Nat.sub_le _ _),
    inversions data.payload.grading.correctOrder names, ?_, ?_⟩
  · refine (percentage_eq_hundred (Nat.sub_le _ _) positive).trans ?_
    rw [← length_orderedPairs]
    show 20000 * (_ - (_ - inversions data.payload.grading.correctOrder names))
      ≤ (orderedPairs data.payload.grading.correctOrder).length ↔ _
    rw [Nat.sub_sub_self bound]
  · refine Iff.trans ?_ (inversions_eq_zero reordered.symm nodup).symm
    unfold IsCorrectAnswer OrdersAll
    simp only [type, named, Option.some.injEq, Json.list.injEq]
    exact (List.map_injective_iff.mpr fun _ _ => Json.text.inj).eq_iff

theorem swapped_graded {first second : String} {rest : List String}
    (type : snapshot.questionType = .ordering)
    (stored : snapshot.gradingPayload.correctOrder = first :: second :: rest)
    (nodup : (first :: second :: rest).Nodup)
    (many : 20000 ≤ (rest.length + 2).choose 2) :
    gradeSnapshotAnswer snapshot
        (.object (orderResponse (second :: first :: rest))) =
      .ok hundred := by
  have reordered := List.Perm.swap first second rest
  have total : (orderedPairs (first :: second :: rest)).length =
        (rest.length + 2).choose 2 :=
    length_orderedPairs _
  rw [gradeSnapshotAnswer_ordering type, gradeOrdering_ok, stored]
  refine ⟨_, rfl, reordered.nodup_iff.mpr nodup, reordered, ?_, ?_⟩
  · rw [List.length_cons, List.length_cons]
    exact Nat.le_add_left 2 _
  · rw [inversions_swap nodup, total]
    refine ((percentage_eq_hundred (Nat.sub_le _ _) ?_).mpr ?_).symm <;> omega

theorem ordering_inexact {items : List VisibleItem} (pk position : Nat)
    (type : question.answerType = .ordering)
    (many : 200 < question.orderingItems.length) :
    ∃ response, gradeSnapshotAnswer
          (snapshotOf question (orderingPayload question.orderingItems items)
            pk position)
          (.object response) = .ok hundred ∧
        ¬ IsCorrectAnswer
          { question
            payload := orderingPayload question.orderingItems items }
          response := by
  have length := length_numberedKeys "item-" question.orderingItems
  have nodup := numbered_nodup "item-" question.orderingItems
  obtain ⟨order, stored⟩ :
      ∃ order, (numbered "item-" question.orderingItems).map Prod.fst = order :=
    ⟨_, rfl⟩
  rw [stored] at length nodup
  rw [← length] at many
  obtain _ | ⟨first, _ | ⟨second, rest⟩⟩ := order
  · cases many
  · cases many with
    | step never => cases never
  rw [List.length_cons, List.length_cons] at many
  have pairs : 20000 ≤ (rest.length + 2).choose 2 := by
    refine Nat.le_trans ?_ (Nat.choose_le_choose 2 (Nat.succ_le_of_lt many))
    rw [Nat.choose_two_right]
    decide
  refine ⟨_, swapped_graded type stored nodup pairs, ?_⟩
  unfold IsCorrectAnswer OrdersAll
  simp only [type]
  intro same
  have equal : second :: first :: rest =
        (numbered "item-" question.orderingItems).map Prod.fst :=
    List.map_injective_iff.mpr (fun _ _ => Json.text.inj)
      (Json.list.inj (Option.some.inj same))
  rw [stored, List.cons.injEq] at equal
  rw [equal.1] at nodup
  exact (List.nodup_cons.mp nodup).1 List.mem_cons_self

/-! ## Matchings -/

variable (pairs : List MatchingPair)

/-- The left keys of pairs. -/
def leftKeys : List String :=
  (numbered "left-" pairs).map Prod.fst

/-- The right keys of pairs. -/
def rightKeys : List String :=
  (numbered "right-" pairs).map Prod.fst

theorem length_leftKeys :
    (leftKeys pairs).length = (rightKeys pairs).length := by
  unfold leftKeys rightKeys
  rw [length_numberedKeys, length_numberedKeys]

theorem matchFields_injective : Function.Injective matchFields := by
  refine List.map_injective_iff.mpr ?_
  rintro ⟨_, _⟩ ⟨_, _⟩ same
  obtain ⟨left, right⟩ := (Prod.mk.injEq ..).mp same
  rw [Prod.mk.injEq]
  exact ⟨left, Json.text.inj right⟩

theorem matching_isCorrect
    {pairs : List (String × String)} (type : question.answerType = .matching)
    (named :
      Json.get? response "matches" = some (.object (matchFields pairs))) :
    IsCorrectAnswer
        { question
          payload := matchingPayload question.matchingPairs rights }
        response ↔
      ∀ left ∈ leftKeys question.matchingPairs, lookup? pairs left = lookup?
            ((leftKeys question.matchingPairs).zip
              (rightKeys question.matchingPairs)) left := by
  have lefts :
      itemKeys (matchingPayload question.matchingPairs rights).leftItems =
        leftKeys question.matchingPairs :=
    itemKeys_shown _ _
  unfold IsCorrectAnswer MatchesAll
  simp only [type, lefts, named, Option.some.injEq, Json.object.injEq,
    matchFields_injective.eq_iff, exists_eq_left']
  rfl

theorem exists_owner {pairs : List MatchingPair} {right : String}
    (member : right ∈ rightKeys pairs) :
    ∃ owner ∈ leftKeys pairs,
      lookup? ((leftKeys pairs).zip (rightKeys pairs)) owner =
        some right := by
  have unique : (leftKeys pairs).Nodup := numbered_nodup _ _
  have sameLength := length_leftKeys pairs
  rw [← List.map_snd_zip (Nat.le_of_eq sameLength.symm), List.mem_map] at member
  obtain ⟨⟨owner, _⟩, inZip, rfl⟩ := member
  refine ⟨owner, (List.of_mem_zip inZip).1, lookup?_of_mem ?_ inZip⟩
  rw [List.map_fst_zip (Nat.le_of_eq sameLength)]
  exact unique

/-- An accepted matching that is wrong has two wrong pairs. -/
theorem matching_hundred (type : question.answerType = .matching)
    (enough : 2 ≤ question.matchingPairs.length) (reordered : rights.Perm
        (shown MatchingPair.rightText
          (numbered "right-" question.matchingPairs)))
    (graded : gradeSnapshotAnswer (snapshotOf question
            (matchingPayload question.matchingPairs rights) pk position)
          (.object response) = .ok score) :
    score ≤ hundred ∧ (question.matchingPairs.length < 40000 →
        (score = hundred ↔ IsCorrectAnswer
            { question
              payload := matchingPayload question.matchingPairs rights }
            response)) := by
  rw [gradeSnapshotAnswer_matching type, gradeMatching_ok] at graded
  obtain ⟨pairs, named, lefts, rightsUsed, once, rfl⟩ := graded
  have unique : (leftKeys question.matchingPairs).Nodup := numbered_nodup _ _
  have total : (leftKeys question.matchingPairs).length =
        question.matchingPairs.length :=
    length_numberedKeys _ _
  have leftItems :
      itemKeys (matchingPayload question.matchingPairs rights).leftItems =
        leftKeys question.matchingPairs :=
    itemKeys_shown _ _
  have visible :
      (snapshotOf question (matchingPayload question.matchingPairs rights) pk
        position).visiblePayload.leftItems =
        leftKeys question.matchingPairs :=
    leftItems
  rw [visible] at lefts
  have correct : rightly (snapshotOf question
            (matchingPayload question.matchingPairs rights) pk position)
          pairs =
        (leftKeys question.matchingPairs).filter fun left =>
          decide (lookup? pairs left = lookup?
                ((leftKeys question.matchingPairs).zip
                  (rightKeys question.matchingPairs)) left) := by
    unfold rightly
    rw [visible, unique.dedup]
    rfl
  rw [visible, unique.dedup, correct, total]
  have part : ((leftKeys question.matchingPairs).filter fun left =>
        decide (lookup? pairs left = lookup?
              ((leftKeys question.matchingPairs).zip
                (rightKeys question.matchingPairs)) left)).length ≤
        question.matchingPairs.length :=
    total ▸ List.length_filter_le ..
  refine ⟨percentage_le part, fun few => ?_⟩
  rw [percentage_eq_hundred part (Nat.lt_of_lt_of_le Nat.two_pos enough),
    matching_isCorrect type named]
  constructor
  · intro nearly left member
    refine Decidable.byContradiction fun wrong => ?_
    have owned : ∀ right ∈ pairs.map Prod.snd,
          ∃ owner, owner ∈ pairs.map Prod.fst ∧ lookup?
                ((leftKeys question.matchingPairs).zip
                  (rightKeys question.matchingPairs)) owner =
              some right := by
      intro right used
      have known : right ∈ rightKeys question.matchingPairs :=
        (itemKeys_perm reordered).subset ((rightsUsed right).mp used)
      obtain ⟨owner, isLeft, owns⟩ := exists_owner known
      exact ⟨owner, (lefts owner).mpr isLeft, owns⟩
    obtain ⟨other, placed, different, wrong'⟩ :=
      exists_other_wrong ((lefts left).mpr member) owned once wrong
    have two := @length_filter_add_two_le _ _ (leftKeys question.matchingPairs)
        (fun left =>
          decide (lookup? pairs left = lookup?
                ((leftKeys question.matchingPairs).zip
                  (rightKeys question.matchingPairs)) left))
        left other member ((lefts other).mp placed) different
        (decide_eq_false wrong) (decide_eq_false wrong')
    rw [total] at two
    omega
  · intro all
    rw [List.filter_eq_self.mpr fun left member =>
      decide_eq_true (all left member), total, Nat.sub_self]
    exact Nat.zero_le _

theorem matching_inexact
    (pk position : Nat) (type : question.answerType = .matching) (reordered :
      rights.Perm (shown MatchingPair.rightText
          (numbered "right-" question.matchingPairs)))
    (many : 40000 ≤ question.matchingPairs.length) :
    ∃ response, gradeSnapshotAnswer (snapshotOf question
            (matchingPayload question.matchingPairs rights) pk position)
          (.object response) = .ok hundred ∧
        ¬ IsCorrectAnswer
          { question
            payload := matchingPayload question.matchingPairs rights }
          response := by
  have unique : (leftKeys question.matchingPairs).Nodup := numbered_nodup _ _
  have uniqueRights : (rightKeys question.matchingPairs).Nodup :=
    numbered_nodup _ _
  have sameLength := length_leftKeys question.matchingPairs
  have total : (leftKeys question.matchingPairs).length =
        question.matchingPairs.length :=
    length_numberedKeys _ _
  have visible :
      (snapshotOf question (matchingPayload question.matchingPairs rights) pk
        position).visiblePayload.leftItems =
        leftKeys question.matchingPairs :=
    itemKeys_shown _ _
  obtain ⟨wrongs, left, member, wrong⟩ :=
    length_rightly_exchanged sameLength (by omega) unique uniqueRights
  refine ⟨matchResponse (exchanged (leftKeys question.matchingPairs)
      (rightKeys question.matchingPairs)), ?_, ?_⟩
  · rw [gradeSnapshotAnswer_matching type, gradeMatching_ok]
    have same := exchanged_snd sameLength
    refine ⟨_, rfl, ?_, ?_, same.nodup_iff.mpr uniqueRights, ?_⟩
    · intro key
      rw [exchanged_fst sameLength, visible]
    · intro key
      exact same.mem_iff.trans (itemKeys_perm reordered).mem_iff.symm
    · unfold rightly
      rw [visible, unique.dedup]
      refine ((percentage_eq_hundred (List.length_filter_le ..) ?_).mpr ?_).symm
      · omega
      · show 20000 * (_ - ((leftKeys question.matchingPairs).filter fun left =>
                decide (lookup? (exchanged (leftKeys question.matchingPairs)
                        (rightKeys question.matchingPairs)) left =
                    lookup? ((leftKeys question.matchingPairs).zip
                        (rightKeys question.matchingPairs))
                      left)).length) ≤ _
        omega
  · rw [matching_isCorrect type rfl]
    exact fun all => wrong (all left member)

/-! ## Selections -/

theorem selection_exact (named :
      Json.get? response "selected_keys" = some (.list (names.map Json.text))) :
    gradeSelection (keys names) payload.grading.correctKeys = hundred ↔
      SelectsKeys payload response := by
  rw [gradeSelection_eq_hundred]
  unfold SelectsKeys
  simp only [named, Option.some.injEq, Json.list.injEq,
    (List.map_injective_iff.mpr fun _ _ => Json.text.inj).eq_iff,
    exists_eq_left']

theorem choice_exact (type : data.question.answerType = .singleChoice ∨
        data.question.answerType = .multipleChoice)
    (graded :
      gradeSnapshotAnswer (data.snapshot pk position) (.object response) =
        .ok score) :
    score ≤ hundred ∧ (score = hundred ↔ IsCorrectAnswer data response) := by
  rw [gradeSnapshotAnswer_choice type, gradeChoice_ok] at graded
  obtain ⟨names, named, _, _, _, _, rfl⟩ := graded
  refine ⟨gradeSelection_le _ _, (selection_exact named).trans ?_⟩
  unfold IsCorrectAnswer
  rcases type with type | type <;> simp only [type]

theorem lineSelection_exact
    (type : data.question.answerType = .lineSelection) (graded :
      gradeSnapshotAnswer (data.snapshot pk position) (.object response) =
        .ok score) :
    score ≤ hundred ∧ (score = hundred ↔ IsCorrectAnswer data response) := by
  rw [gradeSnapshotAnswer_lineSelection type, gradeLineSelection_ok] at graded
  obtain ⟨names, named, _, _, _, rfl⟩ := graded
  refine ⟨gradeSelection_le _ _, (selection_exact named).trans ?_⟩
  unfold IsCorrectAnswer
  simp only [type]

/-! ## All questions -/

theorem score_exact (shape : Built casefold question payload) (graded :
      gradeSnapshotAnswer (snapshotOf question payload pk position)
          (.object response) = .ok score) :
    score ≤ hundred ∧ (IsSmall question →
        (score = hundred ↔ IsCorrectAnswer { question, payload }
            response)) := by
  cases shape with
  | choice type valid reordered =>
      obtain ⟨bounded, exact⟩ := choice_exact type graded
      exact ⟨bounded, fun _ => exact⟩
  | matching type valid reordered =>
      obtain ⟨bounded, exact⟩ :=
        matching_hundred type (validateMatchingConfiguration_ok valid)
          reordered graded
      exact ⟨bounded, fun small => exact (small.2 type)⟩
  | ordering type valid reordered =>
      rename_i items
      obtain ⟨bounded, inverted, full, correct⟩ := ordering_hundred type graded
      refine ⟨bounded, fun small => full.trans (Iff.trans ?_ correct.symm)⟩
      have pairs : question.orderingItems.length.choose 2 ≤ 19900 := by
        refine Nat.le_trans (Nat.choose_le_choose 2 (small.1 type)) ?_
        rw [Nat.choose_two_right]
      have length : (orderingPayload question.orderingItems
              items).grading.correctOrder.length =
            question.orderingItems.length :=
        length_numberedKeys _ _
      rw [length]
      omega
  | lineSelection type valid =>
      obtain ⟨bounded, exact⟩ := lineSelection_exact type graded
      exact ⟨bounded, fun _ => exact⟩

theorem exists_inexact (pk position : Nat)
    (shape : Built casefold question payload) (large : ¬ IsSmall question) :
    ∃ response, gradeSnapshotAnswer (snapshotOf question payload pk position)
          (.object response) = .ok hundred ∧
        ¬ IsCorrectAnswer { question, payload } response := by
  cases shape with
  | choice type valid reordered =>
      refine (large ⟨fun other => ?_, fun other => ?_⟩).elim
      · rcases type with type | type <;> cases type.symm.trans other
      · rcases type with type | type <;> cases type.symm.trans other
  | matching type valid reordered =>
      refine matching_inexact pk position type reordered ?_
      refine Nat.le_of_not_lt fun few => large ⟨fun other => ?_, fun _ => few⟩
      cases type.symm.trans other
  | ordering type valid reordered =>
      refine ordering_inexact pk position type ?_
      refine Nat.lt_of_not_le fun few => large ⟨fun _ => few, fun other => ?_⟩
      cases type.symm.trans other
  | lineSelection type valid =>
      refine (large ⟨fun other => ?_, fun other => ?_⟩).elim
      · cases type.symm.trans other
      · cases type.symm.trans other

/-- Only correct answers to a built snapshot get a hundred percent, exactly
when the question has at most 200 items to order and fewer than 40000 pairs
to match. -/
theorem buildQuestionSnapshotData_gradesExactly
    {casefold : Text → Text} {question : Question} {rng : Shuffle}
    {shuffle : Bool} {data : SnapshotData} (pk position : Nat) (built :
      buildQuestionSnapshotData casefold question rng shuffle = .ok data) :
    GradesExactly data pk position ↔ IsSmall question := by
  obtain ⟨owner, shape⟩ := buildQuestionSnapshotData_ok built
  obtain ⟨own, payload⟩ := data
  have sameQuestion : own = question := owner
  subst sameQuestion
  constructor
  · intro exactly
    by_contra large
    obtain ⟨response, graded, wrong⟩ := exists_inexact pk position shape large
    exact wrong ((exactly.exact response hundred graded).mp rfl)
  · intro small
    have exactly : ∀ response score,
          gradeSnapshotAnswer (snapshotOf own payload pk position)
              (.object response) = .ok score →
            (score = hundred ↔
              IsCorrectAnswer { question := own, payload } response) :=
      fun response score graded => (score_exact shape graded).2 small
    refine ⟨fun response score graded => (score_exact shape graded).1,
      exactly, ?_, ?_, ?_⟩
    · intro db startedAt response now next answer stored returned member fresh
        correct
      rcases @submitExamAnswer_correct db
        (SnapshotData.opened _ pk position startedAt) now (.object response)
        next answer stored returned member correct with old | ⟨_, graded⟩
      · exact (fresh old).elim
      · exact (exactly response hundred graded).mp rfl
    · intro type better worse more less gradedBetter gradedWorse inverts
      exact ordering_decreasing type gradedBetter gradedWorse inverts
    · intro type names score graded
      exact ordering_reversed type graded

/-- A question with four steps to order. -/
def stepsQuestion : Question :=
  { portQuestion with
    answerType := .ordering
    orderingItems := [['a'], ['b'], ['c'], ['d']] }

/-- The shuffle that turns every list around. -/
def turned : Shuffle where
  run := List.reverse
  perm := List.reverse_perm

theorem buildQuestionSnapshotData_gradesExactly_steps :
    ∃ data, buildQuestionSnapshotData id stepsQuestion turned false = .ok data ∧
        itemKeys data.payload.items = ["item-4", "item-3", "item-2", "item-1"] ∧
        GradesExactly data 1 1 :=
  ⟨_, rfl, by decide,
    (@buildQuestionSnapshotData_gradesExactly id stepsQuestion turned false _ 1
      1 rfl).mpr ⟨fun _ => by decide, nofun⟩⟩

/-! ## A wrong order with a hundred percent -/

/-- Words of one letter, longer and longer. -/
def letters (number : Nat) : List Text :=
  (List.range number).map fun index => List.replicate (index + 1) 'a'

/-- A question with 201 items to order. -/
def longQuestion : Question :=
  { portQuestion with answerType := .ordering, orderingItems := letters 201 }

theorem normalizeText_replicate (index : Nat) :
    normalizeText (List.replicate (index + 1) 'a') =
      List.replicate (index + 1) 'a' := by
  have single : (List.replicate (index + 1) 'a').splitOnP Sandbox.isSpace =
        [List.replicate (index + 1) 'a'] := by
    refine List.splitOnP_eq_singleton fun letter member => ?_
    rw [List.eq_of_mem_replicate member]
    decide
  unfold normalizeText
  rw [single]
  simp [List.replicate_succ, List.intercalate]

theorem validateOrderingConfiguration_letters
    {number : Nat} (enough : 3 ≤ number) :
    validateOrderingConfiguration id (letters number) = .ok () := by
  have prepared : ((letters number).map normalizeText).filter
          (fun text => decide (text ≠ [])) =
        letters number := by
    have normalized : (letters number).map normalizeText = letters number := by
      unfold letters
      rw [List.map_map]
      exact List.map_congr_left fun index _ => normalizeText_replicate index
    rw [normalized, List.filter_eq_self]
    intro text member
    obtain ⟨index, _, rfl⟩ := List.mem_map.mp member
    rfl
  unfold validateOrderingConfiguration
  simp only [prepared, Raises.bind_ok, Raises.ensure_ok, List.map_id]
  refine ⟨(), ?_, ?_⟩
  · unfold letters
    rw [List.length_map, List.length_range]
    exact enough
  · refine List.Nodup.map ?_ List.nodup_range
    intro first second same
    have lengths := congrArg List.length same
    rw [List.length_replicate, List.length_replicate] at lengths
    exact Nat.succ_injective lengths

theorem buildQuestionSnapshotData_ordering
    (type : question.answerType = .ordering) (valid :
      validateOrderingConfiguration casefold question.orderingItems = .ok ()) :
    buildQuestionSnapshotData casefold question .none false = .ok
        { question
          payload := orderingPayload question.orderingItems
              (shown id (numbered "item-" question.orderingItems)) } := by
  simp only [buildQuestionSnapshotData, type, buildOrderingPayload, valid]
  rfl

/-- A wrong order of 201 items gets a hundred percent. -/
theorem buildQuestionSnapshotData_inexact :
    ∃ data, buildQuestionSnapshotData id longQuestion .none false = .ok data ∧
        ∃ response, gradeSnapshotAnswer (data.snapshot 1 1) (.object response) =
              .ok hundred ∧
            ¬ IsCorrectAnswer data response := by
  have valid :
      validateOrderingConfiguration id longQuestion.orderingItems = .ok () :=
    validateOrderingConfiguration_letters (by decide)
  have many : 200 < longQuestion.orderingItems.length := by
    show 200 < (letters 201).length
    unfold letters
    rw [List.length_map, List.length_range]
    exact Nat.lt_succ_self 200
  exact ⟨_, buildQuestionSnapshotData_ordering rfl valid,
    ordering_inexact 1 1 rfl many⟩

end TicketSandbox.Assessment.QuestionSnapshot
