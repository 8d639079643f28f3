import Mathlib.Algebra.GroupWithZero.Nat
import TicketSandbox.Assessment.QuestionSelection

namespace TicketSandbox.Assessment.QuestionSelection

/-!
# Selected questions

A blueprint whose pool is sufficient gets its questions from any generator: as
many as each quota asks for, from different families.
-/

open Sandbox (Pk Text)
open Raises

/-! ## What is drawn -/

/-- The question of the bank may be drawn for the quota. -/
structure IsDrawn
    (bank : Bank) (level : SupportLevel) (quota : BlueprintSkillQuota)
    (question : Question) : Prop where
  listed : question ∈ bank.questions
  level : question.level = level
  active : question.status = .active
  family : ∃ family, bank.family? question.familyId = some family ∧
      family.skillId = quota.skillId ∧ family.isActive = true
  skill :
    ∃ skill, bank.skill? quota.skillId = some skill ∧ skill.isActive = true
  topic : ∃ skill topic, bank.skill? quota.skillId = some skill ∧
      bank.topic? skill.topicId = some topic ∧ topic.isActive = true

variable {bank : Bank} {quota : BlueprintSkillQuota}
  {quotas : List BlueprintSkillQuota} {level : SupportLevel}

theorem mem_pool {question : Question} :
    question ∈ bank.pool level quota ↔ question ∈ bank.questions ∧
        bank.isAvailable level quota question = true := by
  rw [Bank.pool, List.mem_insertionSort, List.mem_filter]

theorem isDrawn_of_available
    {question : Question} (listed : question ∈ bank.questions)
    (available : bank.isAvailable level quota question = true) :
    IsDrawn bank level quota question := by
  simp only [Bank.isAvailable, Bool.and_eq_true, decide_eq_true_eq,
    Option.any_eq_true] at available
  obtain ⟨⟨isLevel, active⟩, family, isFamily, ⟨sameSkill, familyActive⟩,
    skill, isSkill, skillActive⟩ := available
  simp only [Bank.isActiveSkill, Bool.and_eq_true, Option.any_eq_true]
    at skillActive
  obtain ⟨isActive, topic, isTopic, topicActive⟩ := skillActive
  rw [sameSkill] at isSkill
  exact
    { listed
      level := isLevel
      active
      family := ⟨family, isFamily, sameSkill, familyActive⟩
      skill := ⟨skill, isSkill, isActive⟩
      topic := ⟨skill, topic, isSkill, isTopic, topicActive⟩ }

theorem skillId_eq {first second : BlueprintSkillQuota}
    {one other : Question} (isOne : bank.isAvailable level first one = true)
    (isOther : bank.isAvailable level second other = true)
    (sameFamily : one.familyId = other.familyId) :
    first.skillId = second.skillId := by
  simp only [Bank.isAvailable, Bool.and_eq_true, Option.any_eq_true,
    decide_eq_true_eq] at isOne isOther
  obtain ⟨_, family, isFamily, ⟨sameSkill, _⟩, _⟩ := isOne
  obtain ⟨_, again, isAgain, ⟨otherSkill, _⟩, _⟩ := isOther
  rw [sameFamily] at isFamily
  cases isFamily.symm.trans isAgain
  exact sameSkill.symm.trans otherSkill

/-- The count that a blueprint is checked with is that of the families. -/
theorem length_familyIds
    (bank : Bank) (level : SupportLevel) (quota : BlueprintSkillQuota) :
    (familyIds (bank.pool level quota)).length =
      bank.availableFamilyCount level quota := by
  rw [familyIds, List.length_insertionSort]
  exact (((List.perm_insertionSort _ _).map Question.familyId).dedup).length_eq

/-! ## Families -/

theorem Random.drawFamilies_ok
    {σ : Type} (rng : Random σ) (questions : List Question) (state : σ)
    {ids : List Pk} (known : ∀ id ∈ ids, id ∈ questions.map Question.familyId) :
    ∃ selected next,
      rng.drawFamilies questions state ids = .ok (selected, next) ∧
        selected.map Question.familyId = ids ∧
          ∀ question ∈ selected, question ∈ questions := by
  induction ids generalizing state with
  | nil => exact ⟨[], state, rfl, rfl, nofun⟩
  | cons id ids inductionHypothesis =>
      obtain ⟨member, isMember, isFamily⟩ :=
        List.mem_map.mp (known id List.mem_cons_self)
      have nonempty : (questions.filter fun question =>
              decide (question.familyId = id)) ≠ [] :=
        List.ne_nil_of_mem
          (List.mem_filter.mpr ⟨isMember, decide_eq_true isFamily⟩)
      obtain ⟨⟨question, middle⟩, drawn⟩ :=
        Option.isSome_iff_exists.mp ((rng.choice?_isSome state _).mpr nonempty)
      obtain ⟨selected, next, rest, families, members⟩ :=
        inductionHypothesis middle fun other isOther =>
          known other (List.mem_cons_of_mem _ isOther)
      obtain ⟨isQuestion, isOfFamily⟩ :=
        List.mem_filter.mp (rng.choice?_mem _ _ _ _ drawn)
      refine ⟨question :: selected, next, ?_, ?_, ?_⟩
      · simp only [Random.drawFamilies]
        exact bind_ok.mpr ⟨(question, middle), required_ok.mpr drawn,
          bind_ok.mpr ⟨(selected, next), rest, rfl⟩⟩
      · rw [List.map_cons, families, of_decide_eq_true isOfFamily]
      · exact List.forall_mem_cons.mpr ⟨isQuestion, members⟩

/-! ## Quotas -/

/-- What is drawn for one quota. -/
structure IsPart
    (bank : Bank) (level : SupportLevel) (quota : BlueprintSkillQuota)
    (part : List Question) : Prop where
  length : part.length = quota.questionCount
  families : (part.map Question.familyId).Nodup
  available : ∀ question ∈ part, question ∈ bank.questions ∧
      bank.isAvailable level quota question = true

theorem Random.drawQuota_ok {σ : Type} (rng : Random σ)
    (sufficient : quota.questionCount ≤ bank.availableFamilyCount level quota)
    (state : σ) :
    ∃ part next, rng.drawQuota bank level quota state = .ok (part, next) ∧
        IsPart bank level quota part := by
  have enough :
      quota.questionCount ≤ (familyIds (bank.pool level quota)).length := by
    rw [length_familyIds]
    exact sufficient
  obtain ⟨⟨ids, middle⟩, drawn⟩ :=
    Option.isSome_iff_exists.mp ((rng.sample?_isSome state _ _).mpr enough)
  obtain ⟨count, different⟩ := rng.sample?_subperm _ _ _ _ _ drawn
  have sorted : (familyIds (bank.pool level quota)).Perm
        ((bank.pool level quota).map Question.familyId).dedup :=
    List.perm_insertionSort _ _
  obtain ⟨part, next, selected, families, members⟩ :=
    rng.drawFamilies_ok (bank.pool level quota) middle
      fun id isDrawn =>
        List.mem_dedup.mp (sorted.mem_iff.mp (different.subset isDrawn))
  refine ⟨part, next, ?_, ?_, ?_, ?_⟩
  · exact bind_ok.mpr ⟨(ids, middle), required_ok.mpr drawn, selected⟩
  · rw [← count, ← families, List.length_map]
  · rw [families]
    have unique := sorted.nodup_iff.mpr (List.nodup_dedup _)
    obtain ⟨between, isPerm, isSub⟩ := different
    exact isPerm.nodup_iff.mp (unique.sublist isSub)
  · exact fun question member => mem_pool.mp (members question member)

/-- What is selected for quotas: as many questions as each asks for, from
different families. -/
structure IsSelection
    (bank : Bank) (level : SupportLevel) (quotas : List BlueprintSkillQuota)
    (selected : List Question) : Prop where
  drawn : ∀ question ∈ selected, ∃ quota ∈ quotas,
      IsDrawn bank level quota question ∧
        bank.isAvailable level quota question = true
  parts : ∀ quota ∈ quotas,
      (selected.filter (bank.isAvailable level quota)).length =
        quota.questionCount
  families : (selected.map Question.familyId).Nodup
  total : selected.length = (quotas.map BlueprintSkillQuota.questionCount).sum

/-- Quotas with different skills that are not above their families are drawn.
-/
theorem Random.drawQuotas_ok {σ : Type} (rng : Random σ)
    (unique : (quotas.map BlueprintSkillQuota.skillId).Nodup) (sufficient :
      ∀ quota ∈ quotas,
        quota.questionCount ≤ bank.availableFamilyCount level quota)
    (state : σ) :
    ∃ selected next,
      rng.drawQuotas bank level state quotas = .ok (selected, next) ∧
        IsSelection bank level quotas selected := by
  induction quotas generalizing state with
  | nil => exact ⟨[], state, rfl, ⟨nofun, nofun, List.nodup_nil, rfl⟩⟩
  | cons quota quotas inductionHypothesis =>
      obtain ⟨isNew, uniqueRest⟩ := List.nodup_cons.mp unique
      obtain ⟨part, middle, one, isPart⟩ :=
        rng.drawQuota_ok (sufficient quota List.mem_cons_self) state
      obtain ⟨selected, next, rest, isRest⟩ := inductionHypothesis uniqueRest
          (fun other member => sufficient other (List.mem_cons_of_mem _ member))
          middle
      have otherSkill : ∀ other ∈ quotas, quota.skillId ≠ other.skillId :=
        fun other member same => isNew (same ▸ List.mem_map_of_mem member)
      have apart : ∀ question ∈ part, ∀ other ∈ selected,
            question.familyId ≠ other.familyId := by
        intro question isQuestion other isOther sameFamily
        obtain ⟨source, member, _, available⟩ := isRest.drawn other isOther
        exact otherSkill source member
          (skillId_eq (isPart.available question isQuestion).2 available
            sameFamily)
      refine ⟨part ++ selected, next, ?_, ?_, ?_, ?_, ?_⟩
      · exact bind_ok.mpr ⟨(part, middle), one,
          bind_ok.mpr ⟨(selected, next), rest, rfl⟩⟩
      · intro question member
        rcases List.mem_append.mp member with isMine | isOther
        · obtain ⟨listed, available⟩ := isPart.available question isMine
          exact ⟨quota, List.mem_cons_self,
            isDrawn_of_available listed available, available⟩
        · obtain ⟨other, isQuota, drawn⟩ := isRest.drawn question isOther
          exact ⟨other, List.mem_cons_of_mem _ isQuota, drawn⟩
      · intro other member
        rw [List.filter_append, List.length_append]
        rcases List.mem_cons.mp member with rfl | isLater
        · have all : part.filter (bank.isAvailable level other) = part :=
            List.filter_eq_self.mpr fun question isQuestion =>
              (isPart.available question isQuestion).2
          have none : selected.filter (bank.isAvailable level other) = [] := by
            refine List.filter_eq_nil_iff.mpr fun question isQuestion mine => ?_
            obtain ⟨source, isQuota, _, available⟩ :=
              isRest.drawn question isQuestion
            exact otherSkill source isQuota (skillId_eq mine available rfl)
          rw [all, none, isPart.length]
          rfl
        · have none : part.filter (bank.isAvailable level other) = [] := by
            refine List.filter_eq_nil_iff.mpr fun question isQuestion mine => ?_
            exact otherSkill other isLater
              (skillId_eq (isPart.available question isQuestion).2 mine rfl)
          rw [none, isRest.parts other isLater]
          exact Nat.zero_add _
      · rw [List.map_append]
        refine List.nodup_append.mpr ⟨isPart.families, isRest.families, ?_⟩
        rintro id isMine other isOther rfl
        obtain ⟨question, isQuestion, sameId⟩ := List.mem_map.mp isMine
        obtain ⟨again, isAgain, alsoId⟩ := List.mem_map.mp isOther
        exact apart question isQuestion again isAgain (sameId.trans alsoId.symm)
      · rw [List.length_append, isPart.length, isRest.total, List.map_cons,
          List.sum_cons]

/-! ## Blueprints -/

theorem Bank.sufficient_of_validated
    {blueprint : ExamBlueprint} {poolStatus : List PoolItem} (validated :
      bank.validateBlueprintQuestionPool blueprint = .ok poolStatus) :
    ∀ quota ∈ blueprint.skillQuotas, quota.questionCount ≤
        bank.availableFamilyCount blueprint.level quota := by
  simp only [Bank.validateBlueprintQuestionPool, bind_ok, ensure_ok]
    at validated
  obtain ⟨_, _, _, noShortage, _⟩ := validated
  intro quota member
  have filtered := List.map_eq_nil_iff.mp noShortage
  obtain ⟨item, isItem, sufficient⟩ :
      ∃ item ∈ bank.getBlueprintPoolStatus blueprint, item.isSufficient = decide
            (quota.questionCount ≤
              bank.availableFamilyCount blueprint.level quota) :=
    ⟨_, List.mem_map_of_mem member, rfl⟩
  have isSufficient := List.filter_eq_nil_iff.mp filtered item isItem
  rw [Bool.not_eq_true', Bool.not_eq_false, sufficient] at isSufficient
  exact of_decide_eq_true isSufficient

theorem IsSelection.perm {selected reordered : List Question}
    (isSelection : IsSelection bank level quotas selected)
    (perm : reordered.Perm selected) :
    IsSelection bank level quotas reordered where
  drawn question member := isSelection.drawn question (perm.mem_iff.mp member)
  parts quota member :=
    (perm.filter _).length_eq.trans (isSelection.parts quota member)
  families := (perm.map Question.familyId).nodup_iff.mpr isSelection.families
  total := perm.length_eq.trans isSelection.total

/-- A blueprint whose pool is accepted gets its questions, whatever the seed
and the generator: as many for each quota as it asks for, all from different
families, and no more families are asked for than there are. -/
theorem selectQuestionsForBlueprint_isSelection {σ : Type} {bank : Bank}
    {blueprint : ExamBlueprint} {poolStatus : List PoolItem}
    (unique : (blueprint.skillQuotas.map BlueprintSkillQuota.skillId).Nodup)
    (validated : bank.validateBlueprintQuestionPool blueprint = .ok poolStatus)
    (rng : Random σ) (seed : Text) :
    (∀ quota ∈ blueprint.skillQuotas, quota.questionCount ≤
          (familyIds (bank.pool blueprint.level quota)).length) ∧
      ∃ selected,
        selectQuestionsForBlueprint rng bank blueprint seed = .ok selected ∧
          IsSelection bank blueprint.level blueprint.skillQuotas
            selected := by
  have sufficient := Bank.sufficient_of_validated validated
  obtain ⟨selected, state, drawn, isSelection⟩ :=
    rng.drawQuotas_ok unique sufficient (rng.seeded seed)
  refine ⟨fun quota member => ?_, ?_⟩
  · rw [length_familyIds]
    exact sufficient quota member
  · refine ⟨_, bind_ok.mpr ⟨poolStatus, validated,
      bind_ok.mpr ⟨(selected, state), drawn, rfl⟩⟩, ?_⟩
    split
    · exact isSelection.perm (rng.shuffle_perm state selected)
    · exact isSelection

/-- The generator that takes what comes first. -/
def Random.first : Random Unit where
  seeded _ := ()
  sample? _ population count :=
    if count ≤ population.length then some (population.take count, ()) else none
  choice? _ items := items.head?.map fun item => (item, ())
  shuffle _ items := (items, ())
  sample?_isSome _ population count := by
    by_cases enough : count ≤ population.length
    · simp [enough]
    · simp [enough]
  sample?_subperm _ population count drawn next sampled := by
    split at sampled
    · rename_i enough
      cases sampled
      exact ⟨List.length_take_of_le enough,
        (List.take_sublist count population).subperm⟩
    · cases sampled
  choice?_isSome _ items := by
    cases items with
    | nil => simp
    | cons item rest => simp
  choice?_mem _ items item next chosen := by
    obtain ⟨head, isHead, same⟩ := Option.map_eq_some_iff.mp chosen
    cases same
    exact List.mem_of_mem_head? isHead
  shuffle_perm _ items := .refl items

/-- A question of the example. -/
def bankQuestion (pk familyId : Pk) : Question where
  pk
  familyId
  level := .l1
  status := .active
  content :=
    { topicName := ""
      topicSlug := ""
      skillName := ""
      skillSlug := ""
      answerType := .singleChoice
      timeLimitSeconds := 60
      answerOptions := [{ text := ['a'], isCorrect := true },
          { text := ['b'], isCorrect := false }]
      matchingPairs := []
      orderingItems := []
      selectableLines := [] }

/-- A bank with two skills, one of them with two families. -/
def smallBank : Bank where
  topics := [{ pk := 1, name := "", isActive := true }]
  skills := [{ pk := 1, topicId := 1, name := "", isActive := true },
      { pk := 2, topicId := 1, name := "", isActive := true }]
  families := [{ pk := 1, skillId := 1, isActive := true },
      { pk := 2, skillId := 1, isActive := true },
      { pk := 3, skillId := 2, isActive := true }]
  questions :=
    [bankQuestion 1 1, bankQuestion 2 1, bankQuestion 3 2, bankQuestion 4 3]

/-- A blueprint that asks for all families of the bank. -/
def fullBlueprint : ExamBlueprint where
  name := ""
  level := .l1
  passPercentage := 85
  allowBackNavigation := false
  shuffleQuestions := true
  shuffleAnswerOptions := false
  isActive := true
  skillQuotas :=
    [{ skillId := 2, questionCount := 1 }, { skillId := 1, questionCount := 2 }]

theorem selectQuestionsForBlueprint_isSelection_full :
    (∀ quota ∈ fullBlueprint.skillQuotas, quota.questionCount ≤
          (familyIds (smallBank.pool fullBlueprint.level quota)).length) ∧
      ∃ selected,
        selectQuestionsForBlueprint Random.first smallBank fullBlueprint ['s'] =
            .ok selected ∧
          IsSelection smallBank fullBlueprint.level
            fullBlueprint.skillQuotas selected :=
  @selectQuestionsForBlueprint_isSelection Unit smallBank fullBlueprint
    (smallBank.getBlueprintPoolStatus fullBlueprint) (by decide) rfl
    Random.first ['s']

end TicketSandbox.Assessment.QuestionSelection
