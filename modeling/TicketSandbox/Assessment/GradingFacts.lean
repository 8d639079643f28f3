import Mathlib.Data.List.Dedup
import Mathlib.Data.Nat.Choose.Basic
import TicketSandbox.Assessment.QuestionSnapshot

namespace TicketSandbox.Assessment.AnswerGrading

/-!
# Inverted pairs

An order is compared with the right one pair by pair.  It inverts none of the
pairs exactly when it is the right order, and all of them exactly when it is
the right order reversed.
-/

open List
open Raises

/-- The number of pairs of `order` that stand the other way in `items`. -/
def inversions {α : Type} [DecidableEq α] (order items : List α) : Nat :=
  (orderedPairs order).countP fun pair =>
    decide (items.idxOf pair.2 < items.idxOf pair.1)

variable {α : Type}

theorem mem_orderedPairs {first second : α} {items : List α} :
    (first, second) ∈ orderedPairs items ↔ [first, second] <+ items := by
  induction items with
  | nil => simp [orderedPairs]
  | cons item rest inductionHypothesis =>
      unfold orderedPairs
      rw [mem_append, mem_map, inductionHypothesis]
      constructor
      · rintro (⟨other, member, same⟩ | later)
        · cases same
          exact (singleton_sublist.mpr member).cons_cons _
        · exact later.cons item
      · intro stands
        cases stands with
        | cons _ later => exact .inr later
        | cons_cons _ later =>
            exact .inl ⟨second, singleton_sublist.mp later, rfl⟩

theorem length_orderedPairs (items : List α) :
    (orderedPairs items).length = items.length.choose 2 := by
  induction items with
  | nil => rfl
  | cons item rest inductionHypothesis =>
      unfold orderedPairs
      rw [length_append, length_map, inductionHypothesis, length_cons,
        Nat.choose_succ_succ, Nat.choose_one_right]

theorem pairwise_iff_orderedPairs {relation : α → α → Prop} {items : List α} :
    items.Pairwise relation ↔
      ∀ pair ∈ orderedPairs items, relation pair.1 pair.2 := by
  rw [pairwise_iff_forall_sublist]
  constructor
  · exact fun holds pair member => holds (mem_orderedPairs.mp member)
  · exact fun holds first second stands =>
      holds (first, second) (mem_orderedPairs.mpr stands)

theorem pairwise_idxOf [DecidableEq α] {items : List α} (nodup : items.Nodup) :
    items.Pairwise fun first second =>
      items.idxOf first < items.idxOf second := by
  rw [pairwise_iff_getElem]
  intro i j inRange inRange' before
  rw [nodup.idxOf_getElem i inRange, nodup.idxOf_getElem j inRange']
  exact before

theorem idxOf_lt_of_sublist [DecidableEq α] {first second : α}
    {items : List α} (nodup : items.Nodup) (stands : [first, second] <+ items) :
    items.idxOf first < items.idxOf second :=
  pairwise_iff_forall_sublist.mp (pairwise_idxOf nodup) stands

theorem idxOf_injective [DecidableEq α] {first second : α} {items : List α}
    (member : first ∈ items) (same : items.idxOf first = items.idxOf second) :
    first = second :=
  (idxOf_inj member).mp same

theorem inversions_add [DecidableEq α] {order items : List α}
    (nodup : order.Nodup) (shared : ∀ item ∈ order, item ∈ items) :
    ((orderedPairs order).filter fun pair =>
        decide (items.idxOf pair.1 < items.idxOf pair.2)).length +
      inversions order items =
      (orderedPairs order).length := by
  rw [← countP_eq_length_filter, length_eq_countP_add_countP fun pair : α × α =>
      decide (items.idxOf pair.1 < items.idxOf pair.2)]
  refine congrArg _ (countP_congr fun pair member => ?_)
  have stands := mem_orderedPairs.mp member
  have different : items.idxOf pair.1 ≠ items.idxOf pair.2 := by
    intro same
    have equal := idxOf_injective (shared _ (stands.subset (by simp))) same
    have ordered := idxOf_lt_of_sublist nodup stands
    rw [equal] at ordered
    exact Nat.lt_irrefl _ ordered
  simp only [decide_eq_true_eq, not_lt]
  exact ⟨Nat.le_of_lt, fun later => Nat.lt_of_le_of_ne later different.symm⟩

theorem inversions_le [DecidableEq α] (order items : List α) :
    inversions order items ≤ (orderedPairs order).length :=
  countP_le_length

theorem eq_of_pairwise_idxOf
    [DecidableEq α] {order items : List α} (same : order.Perm items)
    (nodup : items.Nodup) (ordered : order.Pairwise fun first second =>
        items.idxOf first < items.idxOf second) :
    order = items := by
  refine Perm.eq_of_pairwise ?_ ordered (pairwise_idxOf nodup) same
  intro first second _ _ before after
  exact (Nat.lt_asymm before after).elim

theorem inversions_eq_zero [DecidableEq α] {order items : List α}
    (same : order.Perm items) (nodup : items.Nodup) :
    inversions order items = 0 ↔ items = order := by
  unfold inversions
  rw [countP_eq_zero]
  constructor
  · intro none
    refine (eq_of_pairwise_idxOf same nodup ?_).symm
    rw [pairwise_iff_orderedPairs]
    intro pair member
    have stands := mem_orderedPairs.mp member
    have notAfter := none pair member
    rw [decide_eq_true_eq, Nat.not_lt] at notAfter
    refine Nat.lt_of_le_of_ne notAfter fun position => ?_
    have inItems : pair.1 ∈ items := same.subset (stands.subset (by simp))
    have ordered := idxOf_lt_of_sublist (same.nodup_iff.mpr nodup) stands
    rw [idxOf_injective inItems position] at ordered
    exact Nat.lt_irrefl _ ordered
  · rintro rfl pair member
    rw [decide_eq_true_eq, Nat.not_lt]
    exact Nat.le_of_lt (idxOf_lt_of_sublist nodup (mem_orderedPairs.mp member))

theorem inversions_eq_length [DecidableEq α] {order items : List α}
    (same : order.Perm items) (nodup : items.Nodup) :
    inversions order items = (orderedPairs order).length ↔
      items = order.reverse := by
  unfold inversions
  rw [countP_eq_length]
  constructor
  · intro all
    refine
      (eq_of_pairwise_idxOf ((reverse_perm order).trans same) nodup ?_).symm
    rw [pairwise_reverse, pairwise_iff_orderedPairs]
    intro pair member
    exact of_decide_eq_true (all pair member)
  · rintro rfl pair member
    rw [decide_eq_true_eq]
    refine idxOf_lt_of_sublist nodup ?_
    exact (mem_orderedPairs.mp member).reverse

theorem inversions_swap [DecidableEq α] {first second : α}
    {rest : List α} (nodup : (first :: second :: rest).Nodup) :
    inversions (first :: second :: rest) (second :: first :: rest) = 1 := by
  have nodup' : (second :: first :: rest).Nodup :=
    (Perm.swap first second rest).nodup_iff.mpr nodup
  have different : first ≠ second := by
    intro same
    subst same
    exact (nodup_cons.mp nodup).1 mem_cons_self
  unfold inversions orderedPairs
  rw [map_cons, cons_append, countP_cons_of_pos, Nat.add_eq_right,
    countP_eq_zero]
  · intro pair member
    rw [decide_eq_true_eq, Nat.not_lt]
    refine Nat.le_of_lt (idxOf_lt_of_sublist nodup' ?_)
    rcases mem_append.mp member with withFirst | later
    · obtain ⟨other, inRest, rfl⟩ := mem_map.mp withFirst
      exact ((singleton_sublist.mpr inRest).cons_cons first).cons second
    · have stands := mem_orderedPairs.mp later
      exact stands.trans ((sublist_cons_self first rest).cons_cons second)
  · rw [decide_eq_true_eq]
    exact idxOf_lt_of_sublist nodup'
      (((nil_sublist rest).cons_cons first).cons_cons second)

end TicketSandbox.Assessment.AnswerGrading

namespace TicketSandbox.Assessment.AnswerGrading

/-!
# What a grade says

A response is accepted under conditions on its fields, and its grade is a
percentage of what is right in it.
-/

open Raises

/-! ## Percentages -/

variable {total correct less more : Nat} {items : List Json}

theorem percentage_self
    (positive : 0 < total) : percentage total total = hundred := by
  unfold percentage hundred
  rw [if_neg (Nat.ne_of_gt positive)]
  refine Nat.div_eq_of_lt_le ?_ ?_ <;> omega

theorem percentage_le
    (part : correct ≤ total) : percentage correct total ≤ hundred := by
  unfold percentage hundred
  split
  · exact Nat.zero_le _
  · refine Nat.le_of_lt_succ ?_
    rw [Nat.div_lt_iff_lt_mul (by omega)]
    omega

theorem percentage_mono (ordered : less ≤ more) :
    percentage less total ≤ percentage more total := by
  unfold percentage
  split
  · exact Nat.le_refl 0
  · refine Nat.div_le_div_right ?_
    omega

theorem percentage_eq_hundred (part : correct ≤ total) (positive : 0 < total) :
    percentage correct total = hundred ↔ 20000 * (total - correct) ≤ total := by
  have bound := percentage_le part
  unfold percentage hundred at *
  rw [if_neg (Nat.ne_of_gt positive)] at *
  rw [Nat.le_antisymm_iff, Nat.le_div_iff_mul_le (by omega)]
  constructor
  · rintro ⟨-, reached⟩
    omega
  · intro few
    exact ⟨bound, by omega⟩

theorem percentage_eq_zero (positive : 0 < total) :
    percentage correct total = 0 ↔ 20000 * correct < total := by
  unfold percentage
  rw [if_neg (Nat.ne_of_gt positive), Nat.div_eq_zero_iff]
  omega

theorem lt_of_percentage_eq (positive : 0 < total)
    (same : percentage less total = percentage more total) :
    10000 * (more - less) < total := by
  unfold percentage at same
  rw [if_neg (Nat.ne_of_gt positive), if_neg (Nat.ne_of_gt positive)] at same
  have lower := Nat.div_add_mod (2 * 10000 * less + total) (2 * total)
  have upper := Nat.div_add_mod (2 * 10000 * more + total) (2 * total)
  have lowerRest :=
    Nat.mod_lt (2 * 10000 * less + total) (show 0 < 2 * total by omega)
  have upperRest :=
    Nat.mod_lt (2 * 10000 * more + total) (show 0 < 2 * total by omega)
  rw [same] at lower
  omega

/-! ## Keys as elements of a set -/

theorem sameSet_iff {α : Type} [DecidableEq α] {first second : List α} :
    sameSet first second = true ↔ ∀ item, item ∈ first ↔ item ∈ second := by
  unfold sameSet
  rw [decide_eq_true_iff]
  constructor
  · rintro ⟨left, right⟩ item
    exact ⟨fun member => left member, fun member => right member⟩
  · intro same
    exact ⟨fun item => (same item).mp, fun item => (same item).mpr⟩

variable {names : List String}

/-- A key is among keys. -/
@[simp] theorem text_mem_keys {name : String} :
    Scalar.text name ∈ keys names ↔ name ∈ names := by
  unfold keys
  simp

/-- There are as many keys as texts. -/
@[simp] theorem length_keys (names : List String) :
    (keys names).length = names.length :=
  List.length_map _

theorem keys_nodup : (keys names).Nodup ↔ names.Nodup := by
  unfold keys
  refine List.nodup_map_iff ?_
  intro first second same
  exact Scalar.text.inj same

theorem scalars_ok {selected : List Scalar} :
    scalars items = .ok selected ↔ items.mapM Json.scalar? = some selected :=
  required_ok

theorem scalars_texts (names : List String) :
    scalars (names.map Json.text) = .ok (keys names) := by
  rw [scalars_ok]
  induction names with
  | nil => rfl
  | cons name rest inductionHypothesis =>
      rw [List.map_cons, List.mapM_cons, inductionHypothesis]
      rfl

theorem exists_texts
    {selected : List Scalar} (known : ∀ value ∈ selected, value ∈ keys names) :
    ∃ texts, selected = keys texts := by
  induction selected with
  | nil => exact ⟨[], rfl⟩
  | cons value rest inductionHypothesis =>
      rw [List.forall_mem_cons] at known
      obtain ⟨texts, rfl⟩ := inductionHypothesis known.2
      obtain ⟨name, _, rfl⟩ := List.mem_map.mp known.1
      exact ⟨name :: texts, rfl⟩

theorem scalar_text {value : Json} {name : String} :
    value.scalar? = some (.text name) ↔ value = .text name := by
  cases value <;> simp [Json.scalar?]

theorem scalars_keys
    : scalars items = .ok (keys names) ↔ items = names.map Json.text := by
  constructor
  · rw [scalars_ok]
    induction items generalizing names with
    | nil =>
        intro read
        cases names with
        | nil => rfl
        | cons name rest => cases read
    | cons item rest inductionHypothesis =>
        intro read
        rw [List.mapM_cons, Option.bind_eq_bind,
          Option.bind_eq_some_iff] at read
        obtain ⟨value, first, read⟩ := read
        rw [Option.bind_eq_bind, Option.bind_eq_some_iff] at read
        obtain ⟨values, later, same⟩ := read
        cases names with
        | nil => cases same
        | cons name others =>
            cases same
            rw [scalar_text.mp first, inductionHypothesis later, List.map_cons]
  · rintro rfl
    exact scalars_texts names

end TicketSandbox.Assessment.AnswerGrading

namespace TicketSandbox.Assessment.AnswerGrading

/-!
# Malformed responses

The graders check that a response has the right shape, and collect its keys
in a set before they know that the keys can be elements of one.
-/

open Raises
open QuestionSnapshot

/-- `ValidationError`. -/
def IsValidation : Failure → Prop
  | .validation _ => True
  | _ => False

/-- A value that can be an element of a set. -/
def IsHashable (value : Json) : Prop :=
  value.scalar?.isSome = true

/-- No list and no object stands for a selected key. -/
def HashableSelection (response : List (String × Json)) : Prop :=
  ∀ items, Json.get? response "selected_keys" = some (.list items) →
    ∀ item ∈ items, IsHashable item

/-- No list and no object stands for the right key of a full matching. -/
def HashableMatches (snapshot : ExamQuestionSnapshot)
    (response : List (String × Json)) : Prop :=
  ∀ submitted, Json.get? response "matches" = some (.object submitted) →
    (∀ left, left ∈ submitted.map Prod.fst ↔
      left ∈ snapshot.visiblePayload.leftItems) →
    ∀ pair ∈ submitted, IsHashable pair.2

/-- No list and no object stands for a key in an order of all elements. -/
def HashableOrder (snapshot : ExamQuestionSnapshot)
    (response : List (String × Json)) : Prop :=
  ∀ items, Json.get? response "order" = some (.list items) →
    items.length = snapshot.gradingPayload.correctOrder.length →
    ∀ item ∈ items, IsHashable item

/-- No list and no object stands where the grader expects a key. -/
def HashableResponse (snapshot : ExamQuestionSnapshot)
    (response : List (String × Json)) : Prop :=
  match snapshot.questionType with
  | .singleChoice => HashableSelection response
  | .multipleChoice => HashableSelection response
  | .matching => HashableMatches snapshot response
  | .ordering => HashableOrder snapshot response
  | .lineSelection => HashableSelection response

/-! ## Graders -/

theorem scalars_only {items : List Json} :
    Only IsValidation (scalars items) ↔ ∀ item ∈ items, IsHashable item := by
  unfold scalars
  rw [only_required, or_iff_left (by simp [IsValidation])]
  induction items with
  | nil => simp
  | cons item rest inductionHypothesis =>
      rw [List.forall_mem_cons, ← inductionHypothesis, List.mapM_cons]
      unfold IsHashable
      cases item.scalar? with
      | none => simp
      | some value => cases List.mapM Json.scalar? rest <;> simp

variable {response : List (String × Json)}

theorem getSelectedKeys_only {availableKeys : List String} :
    Only IsValidation (getSelectedKeys response availableKeys) ↔
      HashableSelection response := by
  unfold getSelectedKeys HashableSelection
  split
  · rename_i items found
    simp only [found, Option.some.injEq, Json.list.injEq, forall_eq',
      only_bind, only_ensure, ensure_ok,
      only_pure, scalars_only, IsValidation, or_true, true_and,
      implies_true, and_true]
    constructor
    · intro unlessEmpty
      cases items with
      | nil => simp
      | cons item rest => exact unlessEmpty () (by simp)
    · exact fun hashable _ _ => hashable
  · rename_i notList
    rw [only_error]
    exact ⟨fun _ items found => (notList items found).elim, fun _ => trivial⟩

variable {snapshot : ExamQuestionSnapshot}

theorem gradeChoice_only :
    Only IsValidation (gradeChoice snapshot response) ↔
      HashableSelection response := by
  unfold gradeChoice
  simp only [only_bind, getSelectedKeys_only, only_ensure,
    only_pure, IsValidation, or_true, implies_true, and_true]

theorem gradeLineSelection_only :
    Only IsValidation (gradeLineSelection snapshot response) ↔
      HashableSelection response := by
  unfold gradeLineSelection
  simp only [only_bind, getSelectedKeys_only, only_pure, implies_true, and_true]

theorem gradeMatching_only :
    Only IsValidation (gradeMatching snapshot response) ↔
      HashableMatches snapshot response := by
  unfold gradeMatching HashableMatches
  split
  · rename_i submitted found
    simp only [found, Option.some.injEq, Json.object.injEq, forall_eq',
      only_bind, only_ensure, ensure_ok,
      only_pure, scalars_only, sameSet_iff, List.mem_dedup,
      List.forall_mem_map, IsValidation, or_true, true_and, implies_true,
      and_true]
    exact ⟨fun hashable => hashable (), fun hashable _ => hashable⟩
  · rename_i notObject
    rw [only_error]
    exact ⟨fun _ submitted found => (notObject submitted found).elim,
      fun _ => trivial⟩

theorem gradeOrdering_only :
    Only IsValidation (gradeOrdering snapshot response) ↔
      HashableOrder snapshot response := by
  unfold gradeOrdering HashableOrder
  split
  · rename_i items found
    simp only [found, Option.some.injEq, Json.list.injEq, forall_eq',
      only_bind, only_ensure, ensure_ok,
      only_pure, scalars_only, IsValidation, or_true, true_and,
      implies_true, and_true, length_keys]
    exact ⟨fun hashable => hashable (), fun hashable _ => hashable⟩
  · rename_i notList
    rw [only_error]
    exact ⟨fun _ items found => (notList items found).elim, fun _ => trivial⟩

/-- A grade is a score or a validation error exactly when no list and no
object stands where a key is expected. -/
theorem gradeSnapshotAnswer_handled
    (snapshot : ExamQuestionSnapshot) (response : List (String × Json)) :
    ((∃ score, gradeSnapshotAnswer snapshot (.object response) = .ok score) ∨
      ∃ failure,
        gradeSnapshotAnswer snapshot (.object response) = .error failure ∧
          IsValidation failure) ↔
      HashableResponse snapshot response := by
  rw [← only_iff]
  unfold gradeSnapshotAnswer HashableResponse
  cases snapshot.questionType with
  | singleChoice => exact gradeChoice_only
  | multipleChoice => exact gradeChoice_only
  | matching => exact gradeMatching_only
  | ordering => exact gradeOrdering_only
  | lineSelection => exact gradeLineSelection_only

/-- A question with one right option of two. -/
def portQuestion : Question :=
  { topicName := "DNS"
    topicSlug := "dns"
    skillName := "Ports"
    skillSlug := "ports"
    answerType := .singleChoice
    timeLimitSeconds := 60
    answerOptions := [{ text := ['5', '3'], isCorrect := true },
        { text := ['8', '0'], isCorrect := false }]
    matchingPairs := []
    orderingItems := []
    selectableLines := [] }

/-- A list that stands for an option escapes as another exception. -/
theorem gradeSnapshotAnswer_unhashable :
    ∃ data, buildQuestionSnapshotData id portQuestion .none false = .ok data ∧
        ¬ ((∃ score, gradeSnapshotAnswer (data.snapshot 1 1)
                (.object [("selected_keys", .list [.list []])]) =
              .ok score) ∨
          ∃ failure, gradeSnapshotAnswer (data.snapshot 1 1)
                (.object [("selected_keys", .list [.list []])]) =
              .error failure ∧ IsValidation failure) := by
  refine ⟨_, rfl, ?_⟩
  rintro (⟨score, graded⟩ | ⟨failure, graded, validation⟩)
  · cases graded
  · cases graded
    exact validation

end TicketSandbox.Assessment.AnswerGrading
