import Mathlib.Data.List.Dedup
import TicketSandbox.Assessment.QuestionSnapshot

namespace TicketSandbox.Assessment.QuestionSelection

/-!
# Selecting questions

`services/blueprint_validation.py` and `services/question_selection.py`: the
pool of a blueprint is checked, and questions are drawn from it.  The random
generator is any one that keeps what is documented of `sample`, `choice` and
`shuffle`.
-/

open Sandbox (Pk Text)
open Raises

/-! ## Rows -/

/-- `SupportLevel`. -/
inductive SupportLevel where
  | l1
  | l2
  | prime
  deriving Repr, DecidableEq

/-- `QuestionStatus`. -/
inductive QuestionStatus where
  | draft
  | active
  | archived
  deriving Repr, DecidableEq

/-- `Topic`. -/
structure Topic where
  pk : Pk
  name : String
  isActive : Bool

/-- `Skill`. -/
structure Skill where
  pk : Pk
  topicId : Pk
  name : String
  isActive : Bool

/-- `QuestionFamily`. -/
structure QuestionFamily where
  pk : Pk
  skillId : Pk
  isActive : Bool

/-- `Question`, with what a snapshot is built from. -/
structure Question where
  pk : Pk
  familyId : Pk
  level : SupportLevel
  status : QuestionStatus
  content : QuestionSnapshot.Question

/-- `BlueprintSkillQuota`. -/
structure BlueprintSkillQuota where
  skillId : Pk
  questionCount : Nat

/-- `ExamBlueprint`, with its quotas in the order of the queries. -/
structure ExamBlueprint where
  name : String
  level : SupportLevel
  passPercentage : Nat
  allowBackNavigation : Bool
  shuffleQuestions : Bool
  shuffleAnswerOptions : Bool
  isActive : Bool
  skillQuotas : List BlueprintSkillQuota

/-- The bank of questions. -/
structure Bank where
  topics : List Topic
  skills : List Skill
  families : List QuestionFamily
  questions : List Question

namespace Bank

/-- The topic with the primary key. -/
def topic? (bank : Bank) (pk : Pk) : Option Topic :=
  bank.topics.find? fun topic => decide (topic.pk = pk)

/-- The skill with the primary key. -/
def skill? (bank : Bank) (pk : Pk) : Option Skill :=
  bank.skills.find? fun skill => decide (skill.pk = pk)

/-- The family with the primary key. -/
def family? (bank : Bank) (pk : Pk) : Option QuestionFamily :=
  bank.families.find? fun family => decide (family.pk = pk)

end Bank

/-! ## The pool -/

variable (bank : Bank)

/-- The skill and its topic are active. -/
def Bank.isActiveSkill (skill : Skill) : Bool :=
  skill.isActive && (bank.topic? skill.topicId).any Topic.isActive

/-- The question passes the filter of the quota. -/
def Bank.isAvailable (level : SupportLevel) (quota : BlueprintSkillQuota)
    (question : Question) : Bool :=
  decide (question.level = level ∧ question.status = .active) &&
    (bank.family? question.familyId).any fun family =>
      decide (family.skillId = quota.skillId) && family.isActive &&
        (bank.skill? family.skillId).any bank.isActiveSkill

/-- The questions that a quota may draw, in the order of their families. -/
def Bank.pool
    (level : SupportLevel) (quota : BlueprintSkillQuota) : List Question :=
  (bank.questions.filter (bank.isAvailable level quota)).insertionSort
    fun first second =>
      first.familyId < second.familyId ∨
        first.familyId = second.familyId ∧ first.pk ≤ second.pk

/-- The number of families that a quota may draw from. -/
def Bank.availableFamilyCount
    (level : SupportLevel) (quota : BlueprintSkillQuota) : Nat :=
  ((bank.questions.filter (bank.isAvailable level quota)).map
    Question.familyId).dedup.length

/-- An item of `get_blueprint_pool_status`. -/
structure PoolItem where
  topicName : String
  skillName : String
  requiredCount : Nat
  availableFamilyCount : Nat
  isSufficient : Bool

/-- `get_blueprint_pool_status`. -/
def Bank.getBlueprintPoolStatus (blueprint : ExamBlueprint) : List PoolItem :=
  blueprint.skillQuotas.map fun quota =>
    let skill := bank.skill? quota.skillId
    let topic := skill.bind fun skill => bank.topic? skill.topicId
    let available := bank.availableFamilyCount blueprint.level quota
    { topicName := (topic.map Topic.name).getD ""
      skillName := (skill.map Skill.name).getD ""
      requiredCount := quota.questionCount
      availableFamilyCount := available
      isSufficient := decide (quota.questionCount ≤ available) }

/-- What the selection raises. -/
inductive Failure where
  | validation (field : String) (messages : List String)
  | sampleTooLarge
  | emptyChoice

/-- The message about a shortage. -/
def PoolItem.shortage (item : PoolItem) : String :=
  item.topicName ++ " → " ++ item.skillName ++ ": требуется " ++
    toString item.requiredCount ++ ", доступно " ++
      toString item.availableFamilyCount ++ "."

/-- `validate_blueprint_question_pool`. -/
def Bank.validateBlueprintQuestionPool
    (blueprint : ExamBlueprint) : Except Failure (List PoolItem) := do
  let poolStatus := bank.getBlueprintPoolStatus blueprint
  ensure (poolStatus ≠ []) (Failure.validation "skill_quotas"
      ["Добавь хотя бы одну квоту по проверяемому навыку."])
  let shortages :=
    (poolStatus.filter fun item => !item.isSufficient).map PoolItem.shortage
  ensure (shortages = []) (Failure.validation "skill_quotas" shortages)
  pure poolStatus

/-! ## The generator -/

/-- `random.Random` with its state: `sample` draws from different places,
`choice` draws an element and `shuffle` reorders.  The first two raise where
there is not enough to draw from. -/
structure Random (σ : Type) where
  seeded : Text → σ
  sample? : σ → List Pk → Nat → Option (List Pk × σ)
  choice? : σ → List Question → Option (Question × σ)
  shuffle : σ → List Question → List Question × σ
  sample?_isSome : ∀ state population count,
      (sample? state population count).isSome = true ↔ count ≤ population.length
  sample?_subperm : ∀ state population count drawn next,
      sample? state population count = some (drawn, next) →
        drawn.length = count ∧ drawn.Subperm population
  choice?_isSome :
    ∀ state items, (choice? state items).isSome = true ↔ items ≠ []
  choice?_mem : ∀ state items item next,
      choice? state items = some (item, next) → item ∈ items
  shuffle_perm : ∀ state items, (shuffle state items).1.Perm items

/-! ## Selection -/

/-- Draw a question of each family. -/
def Random.drawFamilies
    {σ : Type} (rng : Random σ) (questions : List Question) :
    σ → List Pk → Except Failure (List Question × σ)
  | state, [] => pure ([], state)
  | state, familyId :: familyIds => do
      let (question, state) ← required Failure.emptyChoice (rng.choice? state
            (questions.filter fun question =>
              decide (question.familyId = familyId)))
      let (selected, state) ← rng.drawFamilies questions state familyIds
      pure (question :: selected, state)

/-- The families of the questions, sorted. -/
def familyIds (questions : List Question) : List Pk :=
  (questions.map Question.familyId).dedup.insertionSort (· ≤ ·)

/-- Draw the questions of a quota. -/
def Random.drawQuota {σ : Type} (rng : Random σ) (bank : Bank)
    (level : SupportLevel) (quota : BlueprintSkillQuota)
    (state : σ) : Except Failure (List Question × σ) := do
  let questions := bank.pool level quota
  let (selectedFamilyIds, state) ← required Failure.sampleTooLarge
      (rng.sample? state (familyIds questions) quota.questionCount)
  rng.drawFamilies questions state selectedFamilyIds

/-- Draw the questions of all quotas. -/
def Random.drawQuotas
    {σ : Type} (rng : Random σ) (bank : Bank) (level : SupportLevel) :
    σ → List BlueprintSkillQuota → Except Failure (List Question × σ)
  | state, [] => pure ([], state)
  | state, quota :: quotas => do
      let (part, state) ← rng.drawQuota bank level quota state
      let (selected, state) ← rng.drawQuotas bank level state quotas
      pure (part ++ selected, state)

/-- `select_questions_for_blueprint`. -/
def selectQuestionsForBlueprint
    {σ : Type} (rng : Random σ) (bank : Bank) (blueprint : ExamBlueprint)
    (seed : Text) : Except Failure (List Question) := do
  let _ ← bank.validateBlueprintQuestionPool blueprint
  let (selected, state) ←
    rng.drawQuotas bank blueprint.level (rng.seeded seed) blueprint.skillQuotas
  pure (if blueprint.shuffleQuestions = true then
      (rng.shuffle state selected).1
    else
      selected)

end TicketSandbox.Assessment.QuestionSelection
