import TicketSandbox.Assessment.GradingFacts

namespace TicketSandbox.Assessment.AnswerGrading

/-!
# Accepted responses

A response that is graded names texts only, and what it names determines its
grade.
-/

open Raises

/-- The response that selects the keys. -/
def selectedResponse (names : List String) : List (String × Json) :=
  [("selected_keys", .list (names.map Json.text))]

variable (pairs : List (String × String))

/-- The object with the pairs. -/
def matchFields : List (String × Json) :=
  pairs.map fun pair => (pair.1, .text pair.2)

/-- The response that matches the pairs. -/
def matchResponse : List (String × Json) :=
  [("matches", .object (matchFields pairs))]

/-- The response that orders the keys. -/
def orderResponse (names : List String) : List (String × Json) :=
  [("order", .list (names.map Json.text))]

/-- What stands beside a left key. -/
def lookup? (left : String) : Option String :=
  (pairs.find? fun pair => decide (pair.1 = left)).map Prod.snd

/-- The left keys that are matched as the snapshot says. -/
def rightly (snapshot : ExamQuestionSnapshot)
    (pairs : List (String × String)) : List String :=
  snapshot.visiblePayload.leftItems.dedup.filter fun left =>
    decide (lookup? pairs left = lookup? snapshot.gradingPayload.matches_ left)

variable {response : List (String × Json)} {snapshot : ExamQuestionSnapshot}
  {names order : List String}

theorem getSelectedKeys_ok
    {availableKeys : List String} {selected : List Scalar} :
    getSelectedKeys response availableKeys = .ok selected ↔ ∃ names,
        Json.get? response "selected_keys" =
            some (.list (names.map Json.text)) ∧
          names ≠ [] ∧ names.Nodup ∧ names ⊆ availableKeys ∧
          selected = keys names := by
  unfold getSelectedKeys
  split
  · rename_i items found
    simp only [bind_ok, ensure_ok, pure_ok]
    constructor
    · rintro ⟨_, notEmpty, values, read, _, nodup, _, known, rfl⟩
      obtain ⟨names, rfl⟩ := exists_texts fun value member => known member
      rw [scalars_keys] at read
      subst read
      refine ⟨names, found, ?_, keys_nodup.mp nodup, ?_, rfl⟩
      · rintro rfl
        exact notEmpty rfl
      · exact fun name member =>
          text_mem_keys.mp (known (text_mem_keys.mpr member))
    · rintro ⟨names, named, notEmpty, nodup, known, rfl⟩
      rw [found, Option.some.injEq, Json.list.injEq] at named
      refine ⟨(), ?_, keys names, scalars_keys.mpr named, (),
        keys_nodup.mpr nodup, (), List.map_subset _ known, rfl⟩
      rw [named, List.isEmpty_map, List.isEmpty_iff]
      exact notEmpty
  · rename_i notList
    refine ⟨fun isOk => ?_, ?_⟩
    · cases isOk
    rintro ⟨names, named, -⟩
    exact (notList _ named).elim

variable {score : Percentage}

theorem gradeChoice_ok :
    gradeChoice snapshot response = .ok score ↔ ∃ names,
        Json.get? response "selected_keys" =
            some (.list (names.map Json.text)) ∧
          names ≠ [] ∧ names.Nodup ∧
          names ⊆ snapshot.visiblePayload.options ∧
          (snapshot.questionType = .singleChoice → names.length = 1) ∧
          score =
            gradeSelection (keys names)
                snapshot.gradingPayload.correctKeys := by
  unfold gradeChoice
  simp only [bind_ok, ensure_ok, pure_ok, getSelectedKeys_ok]
  constructor
  · rintro ⟨_, ⟨names, named, notEmpty, nodup, known, rfl⟩, _, single, rfl⟩
    rw [length_keys] at single
    exact ⟨names, named, notEmpty, nodup, known, single, rfl⟩
  · rintro ⟨names, named, notEmpty, nodup, known, single, rfl⟩
    refine ⟨_, ⟨names, named, notEmpty, nodup, known, rfl⟩, (), ?_, rfl⟩
    rw [length_keys]
    exact single

theorem gradeLineSelection_ok :
    gradeLineSelection snapshot response = .ok score ↔ ∃ names,
        Json.get? response "selected_keys" =
            some (.list (names.map Json.text)) ∧
          names ≠ [] ∧ names.Nodup ∧
          names ⊆ snapshot.visiblePayload.lines ∧
          score =
            gradeSelection (keys names)
                snapshot.gradingPayload.correctKeys := by
  unfold gradeLineSelection
  simp only [bind_ok, pure_ok, getSelectedKeys_ok]
  constructor
  · rintro ⟨_, ⟨names, named, notEmpty, nodup, known, rfl⟩, rfl⟩
    exact ⟨names, named, notEmpty, nodup, known, rfl⟩
  · rintro ⟨names, named, notEmpty, nodup, known, rfl⟩
    exact ⟨_, ⟨names, named, notEmpty, nodup, known, rfl⟩, rfl⟩

/-- A selection is right when it has the right keys, in any order. -/
theorem gradeSelection_eq_hundred {names correctKeys : List String} :
    gradeSelection (keys names) correctKeys = hundred ↔
      ∀ name, name ∈ names ↔ name ∈ correctKeys := by
  unfold gradeSelection hundred
  have same : sameSet (keys names) (keys correctKeys) = true ↔
        ∀ name, name ∈ names ↔ name ∈ correctKeys := by
    rw [sameSet_iff]
    constructor
    · intro agree name
      rw [← text_mem_keys, agree, text_mem_keys]
    · intro agree value
      unfold keys
      simp only [List.mem_map, agree]
  rw [← same]
  split
  · rename_i agree
    exact iff_of_true rfl agree
  · rename_i differ
    exact iff_of_false (by decide) differ

theorem gradeSelection_le (selected : List Scalar) (correctKeys : List String) :
    gradeSelection selected correctKeys ≤ hundred := by
  unfold gradeSelection
  split
  · exact Nat.le_refl _
  · exact Nat.zero_le _

theorem get_matchFields (left : String) :
    (Json.get? (matchFields pairs) left).bind Json.scalar? =
      (lookup? pairs left).map Scalar.text := by
  unfold Json.get? matchFields lookup?
  rw [List.find?_map, Option.map_map, Option.map_map]
  simp only [Function.comp_def]
  cases pairs.find? fun pair => decide (pair.1 = left) with
  | none => rfl
  | some pair => rfl

theorem matchFields_fst :
    (matchFields pairs).map Prod.fst = pairs.map Prod.fst := by
  unfold matchFields
  rw [List.map_map]
  rfl

theorem matchFields_snd :
    (matchFields pairs).map Prod.snd = (pairs.map Prod.snd).map Json.text := by
  unfold matchFields
  rw [List.map_map, List.map_map]
  rfl

theorem exists_matchFields {submitted : List (String × Json)}
    (values : submitted.map Prod.snd = names.map Json.text) :
    ∃ pairs, submitted = matchFields pairs ∧ pairs.map Prod.snd = names := by
  induction submitted generalizing names with
  | nil =>
      have none : names = [] := List.map_eq_nil_iff.mp values.symm
      subst none
      exact ⟨[], rfl, rfl⟩
  | cons field rest inductionHypothesis =>
      cases names with
      | nil => cases values
      | cons name others =>
          rw [List.map_cons, List.map_cons, List.cons.injEq] at values
          obtain ⟨pairs, rfl, rfl⟩ := inductionHypothesis values.2
          obtain ⟨left, value⟩ := field
          have text : value = .text name := values.1
          subst text
          exact ⟨(left, name) :: pairs, rfl, rfl⟩

/-- A matching is graded by its right pairs. -/
theorem gradeMatching_ok :
    gradeMatching snapshot response = .ok score ↔ ∃ pairs,
        Json.get? response "matches" = some (.object (matchFields pairs)) ∧
          (∀ left, left ∈ pairs.map Prod.fst ↔
            left ∈ snapshot.visiblePayload.leftItems) ∧
          (∀ right, right ∈ pairs.map Prod.snd ↔
            right ∈ snapshot.visiblePayload.rightItems) ∧
          (pairs.map Prod.snd).Nodup ∧
          score = percentage (rightly snapshot pairs).length
              snapshot.visiblePayload.leftItems.dedup.length := by
  have graded : ∀ pairs : List (String × String),
        (snapshot.visiblePayload.leftItems.dedup.filter fun left =>
          decide ((Json.get? (matchFields pairs) left).bind Json.scalar? =
              ((snapshot.gradingPayload.matches_.find? fun pair =>
                decide (pair.1 = left)).map fun pair => .text pair.2))) =
          rightly snapshot pairs := by
    intro pairs
    unfold rightly
    refine List.filter_congr fun left _ => decide_eq_decide.mpr ?_
    rw [get_matchFields]
    have stored : ((snapshot.gradingPayload.matches_.find? fun pair =>
            decide (pair.1 = left)).map fun pair => Scalar.text pair.2) =
          (lookup? snapshot.gradingPayload.matches_ left).map Scalar.text :=
      (Option.map_map ..).symm
    rw [stored]
    exact (Option.map_injective fun _ _ => Scalar.text.inj).eq_iff
  unfold gradeMatching
  split
  · rename_i submitted found
    simp only [bind_ok, ensure_ok, pure_ok, sameSet_iff, List.mem_dedup]
    constructor
    · rintro ⟨_, lefts, rightKeys, read, _, ⟨rights, nodup⟩, rfl⟩
      obtain ⟨names, rfl⟩ :=
        exists_texts fun value member => (rights value).mp member
      obtain ⟨pairs, rfl, rfl⟩ := exists_matchFields (scalars_keys.mp read)
      refine ⟨pairs, found, ?_, ?_, keys_nodup.mp nodup, ?_⟩
      · rw [matchFields_fst] at lefts
        exact lefts
      · intro right
        rw [← text_mem_keys, rights, text_mem_keys]
      · rw [graded]
    · rintro ⟨pairs, named, lefts, rights, nodup, rfl⟩
      rw [found, Option.some.injEq, Json.object.injEq] at named
      subst named
      refine ⟨(), ?_, keys (pairs.map Prod.snd), ?_, (), ⟨?_, ?_⟩, ?_⟩
      · rw [matchFields_fst]
        exact lefts
      · exact scalars_keys.mpr (matchFields_snd pairs)
      · intro value
        unfold keys
        simp only [List.mem_map (f := Scalar.text), rights]
      · exact keys_nodup.mpr nodup
      · rw [graded]
  · rename_i notObject
    refine ⟨fun isOk => ?_, ?_⟩
    · cases isOk
    rintro ⟨pairs, named, -⟩
    exact (notObject _ named).elim

theorem orderedPairs_keys (names : List String) :
    orderedPairs (keys names) =
      (orderedPairs names).map fun pair => (.text pair.1, .text pair.2) := by
  unfold keys
  induction names with
  | nil => rfl
  | cons name rest inductionHypothesis =>
      rw [List.map_cons, orderedPairs, orderedPairs, inductionHypothesis,
        List.map_append, List.map_map, List.map_map]
      rfl

theorem idxOf_keys (names : List String) (name : String) :
    (keys names).idxOf (.text name) = names.idxOf name := by
  unfold keys
  induction names with
  | nil => rfl
  | cons other rest inductionHypothesis =>
      rw [List.map_cons, List.idxOf_cons, List.idxOf_cons, inductionHypothesis]
      refine congrArg (cond · _ _) ?_
      rw [Bool.eq_iff_iff, beq_iff_eq, beq_iff_eq, Scalar.text.injEq]

theorem rightPairs_keys
    (nodup : order.Nodup) (shared : ∀ name ∈ order, name ∈ names) :
    ((orderedPairs (keys order)).filter fun pair =>
        decide ((keys names).idxOf pair.1 < (keys names).idxOf pair.2)).length =
      (orderedPairs order).length - inversions order names := by
  rw [← inversions_add nodup shared, Nat.add_sub_cancel, orderedPairs_keys,
    List.filter_map, List.length_map]
  simp only [Function.comp_def, idxOf_keys]

theorem perm_of_subset
    (nodup : names.Nodup) (known : ∀ name ∈ names, name ∈ order)
    (sameLength : names.length = order.length) :
    names.Perm order :=
  (List.subperm_of_subset nodup fun name => known name).perm_of_length_le
    (Nat.le_of_eq sameLength.symm)

/-- An ordering is graded by its inversions. -/
theorem gradeOrdering_ok :
    gradeOrdering snapshot response = .ok score ↔ ∃ names,
        Json.get? response "order" = some (.list (names.map Json.text)) ∧
          names.Nodup ∧
          names.Perm snapshot.gradingPayload.correctOrder ∧
          2 ≤ snapshot.gradingPayload.correctOrder.length ∧
          score = percentage
              ((orderedPairs snapshot.gradingPayload.correctOrder).length -
                inversions snapshot.gradingPayload.correctOrder names)
              (orderedPairs snapshot.gradingPayload.correctOrder).length := by
  have total :
      (orderedPairs (keys snapshot.gradingPayload.correctOrder)).length =
        (orderedPairs snapshot.gradingPayload.correctOrder).length := by
    rw [orderedPairs_keys, List.length_map]
  unfold gradeOrdering
  split
  · rename_i items found
    simp only [bind_ok, ensure_ok, pure_ok, length_keys]
    constructor
    · rintro ⟨_, sameLength, selected, read, _, same, _, nodup, _, enough, rfl⟩
      rw [sameSet_iff] at same
      obtain ⟨names, rfl⟩ :=
        exists_texts fun value member => (same value).mp member
      have listed := scalars_keys.mp read
      subst listed
      rw [List.length_map] at sameLength
      have nodupNames := keys_nodup.mp nodup
      have reordered := perm_of_subset nodupNames (fun name member =>
            text_mem_keys.mp ((same _).mp (text_mem_keys.mpr member)))
          sameLength
      refine ⟨names, found, nodupNames, reordered, enough, ?_⟩
      rw [total, rightPairs_keys (reordered.nodup_iff.mp nodupNames)
          fun name member => reordered.symm.subset member]
    · rintro ⟨names, named, nodup, reordered, enough, rfl⟩
      rw [found, Option.some.injEq, Json.list.injEq] at named
      subst named
      refine ⟨(), ?_, keys names, scalars_texts names, (), ?_, (),
        keys_nodup.mpr nodup, (), enough, ?_⟩
      · rw [List.length_map]
        exact reordered.length_eq
      · rw [sameSet_iff]
        exact fun value => (reordered.map Scalar.text).mem_iff
      · rw [total, rightPairs_keys (reordered.nodup_iff.mp nodup)
            fun name member => reordered.symm.subset member]
  · rename_i notList
    refine ⟨fun isOk => ?_, ?_⟩
    · cases isOk
    rintro ⟨names, named, -⟩
    exact (notList _ named).elim

/-! ## Types of questions -/

theorem gradeSnapshotAnswer_choice
    (type : snapshot.questionType = .singleChoice ∨
        snapshot.questionType = .multipleChoice)
    (response : List (String × Json)) :
    gradeSnapshotAnswer snapshot (.object response) =
      gradeChoice snapshot response := by
  unfold gradeSnapshotAnswer
  rcases type with type | type <;> simp only [type]

theorem gradeSnapshotAnswer_matching (type : snapshot.questionType = .matching)
    (response : List (String × Json)) :
    gradeSnapshotAnswer snapshot (.object response) =
      gradeMatching snapshot response := by
  unfold gradeSnapshotAnswer
  simp only [type]

theorem gradeSnapshotAnswer_ordering (type : snapshot.questionType = .ordering)
    (response : List (String × Json)) :
    gradeSnapshotAnswer snapshot (.object response) =
      gradeOrdering snapshot response := by
  unfold gradeSnapshotAnswer
  simp only [type]

theorem gradeSnapshotAnswer_lineSelection
    (type : snapshot.questionType = .lineSelection)
    (response : List (String × Json)) :
    gradeSnapshotAnswer snapshot (.object response) =
      gradeLineSelection snapshot response := by
  unfold gradeSnapshotAnswer
  simp only [type]

end TicketSandbox.Assessment.AnswerGrading
