import Mathlib.Data.List.Sort
import TicketSandbox.Sandbox.Models

namespace TicketSandbox.TraineeDiary

/-!
# Models of the trainee diary

`traineediary/models.py`, `services/stages.py` and
`services/scheme_transfer.py`: the catalog of stages, the card of a trainee,
the history of its stages and the provenance of a transfer between schemes.
Dates are counted in days.
-/

open Sandbox (Pk Text)

/-- A date, as its number of days. -/
abbrev Day := Nat

/-! ## The catalog -/

/-- `StageGroup`. -/
inductive StageGroup where
  | teachbase
  | sandboxL1
  | withReview
  | optionalReview
  | noReview
  | done
  deriving Repr, DecidableEq

/-- `EntryType`, and any other text that the column holds. -/
inductive EntryType where
  | newHire
  | internalTransfer
  | other (text : String)
  deriving Repr, DecidableEq

/-- A value of `EntryType.values`. -/
def EntryType.IsKnown : EntryType → Prop
  | .other _ => False
  | _ => True

instance (entryType : EntryType) : Decidable entryType.IsKnown :=
  match entryType with
  | .newHire => inferInstanceAs (Decidable True)
  | .internalTransfer => inferInstanceAs (Decidable True)
  | .other _ => inferInstanceAs (Decidable False)

/-- `StageScheme`, and any other text that the column holds. -/
inductive StageScheme where
  | legacy
  | unified
  | other (text : String)
  deriving Repr, DecidableEq

/-- A value of `StageScheme.values`. -/
def StageScheme.IsKnown : StageScheme → Prop
  | .other _ => False
  | _ => True

instance (scheme : StageScheme) : Decidable scheme.IsKnown :=
  match scheme with
  | .legacy => inferInstanceAs (Decidable True)
  | .unified => inferInstanceAs (Decidable True)
  | .other _ => inferInstanceAs (Decidable False)

/-- `StageScope`, and any other text that the column holds. -/
inductive StageScope where
  | legacy
  | unified
  | shared
  | other (text : String)
  deriving Repr, DecidableEq

/-- The scope that has the text of a scheme. -/
def StageScheme.scope : StageScheme → StageScope
  | .legacy => .legacy
  | .unified => .unified
  | .other text => .other text

/-- `CompletionStatus`, no status, and any other text that the column holds. -/
inductive CompletionStatus where
  | empty
  | success
  | terminated
  | other (text : String)
  deriving Repr, DecidableEq

/-- A value of `CompletionStatus.values`. -/
def CompletionStatus.IsKnown : CompletionStatus → Prop
  | .success => True
  | .terminated => True
  | _ => False

instance (status : CompletionStatus) : Decidable status.IsKnown :=
  match status with
  | .empty => inferInstanceAs (Decidable False)
  | .success => inferInstanceAs (Decidable True)
  | .terminated => inferInstanceAs (Decidable True)
  | .other _ => inferInstanceAs (Decidable False)

/-- `TraineeStage`. -/
structure TraineeStage where
  id : Pk
  name : String
  slug : String
  order : Nat
  minDays : Nat
  maxDays : Nat
  progressWeightPercent : Nat
  color : String
  group : StageGroup
  isActive : Bool
  catalogScope : StageScope
  appliesToNewHire : Bool
  appliesToInternalTransfer : Bool
  deriving Repr, DecidableEq

/-- `applies_to_entry_type`. -/
def TraineeStage.appliesToEntryType
    (stage : TraineeStage) (entryType : EntryType) : Bool :=
  if entryType = .internalTransfer then stage.appliesToInternalTransfer
  else stage.appliesToNewHire

/-- `stage_applies`. -/
def StageApplies (stage : TraineeStage) (scheme : StageScheme)
    (entryType : EntryType) : Prop :=
  scheme.IsKnown ∧
    (stage.catalogScope = scheme.scope ∨ stage.catalogScope = .shared) ∧
    stage.appliesToEntryType entryType = true
  deriving Decidable

/-- What `selectable_stages` selects. -/
def IsSelectable (scheme : StageScheme) (entryType : EntryType)
    (stage : TraineeStage) : Prop :=
  entryType.IsKnown ∧ StageApplies stage scheme entryType ∧
    stage.isActive = true
  deriving Decidable

variable (stages : List TraineeStage)

/-- The stages in the order of `order` and `id`. -/
def inOrder : List TraineeStage :=
  stages.insertionSort fun first second =>
    first.order < second.order ∨
      first.order = second.order ∧ first.id ≤ second.id

/-- The stage with the primary key. -/
def stage? (id : Pk) : Option TraineeStage :=
  stages.find? fun stage => decide (stage.id = id)

/-! ## Cards and their history -/

/-- `TraineeJourney`. -/
structure TraineeJourney where
  id : Pk
  userId : Pk
  entryType : EntryType
  stageScheme : StageScheme
  probationStartDate : Day
  currentStageId : Pk
  stageStartedAt : Day
  comment : Text
  manualRiskOverride : String
  fixedQualityPercent : Option Nat
  qualityFixedAt : Option Day
  completionStatus : CompletionStatus
  completedAt : Option Day
  completionComment : Text
  completedById : Option Pk

/-- `StageHistory`. -/
structure StageHistory where
  id : Pk
  journeyId : Pk
  stageId : Pk
  startedAt : Day
  endedAt : Option Day
  changedById : Option Pk
  note : Text
  deriving Repr, DecidableEq

/-- The row does not come after the other in the order of `started_at` and
`id`. -/
def StageHistory.Precedes (first second : StageHistory) : Prop :=
  first.startedAt < second.startedAt ∨
    first.startedAt = second.startedAt ∧ first.id ≤ second.id

instance : DecidableRel StageHistory.Precedes :=
  fun _ _ => inferInstanceAs (Decidable (_ ∨ _ ∧ _))

/-- The rows in the order of `started_at` and `id`. -/
def chronological (history : List StageHistory) : List StageHistory :=
  history.insertionSort StageHistory.Precedes

/-- `WeeklyMetric`.  The speed is counted in tenths of an hour. -/
structure WeeklyMetric where
  id : Pk
  journeyId : Pk
  weekNumber : Nat
  weekStartDate : Option Day
  speedHours : Option Int
  qualityPercent : Option Nat
  mentorComment : Text
  nextWeekGoal : Text
  deriving Repr, DecidableEq

/-- A user, as far as the diary reads one. -/
structure User where
  id : Pk
  isStaff : Bool

/-- The user with the primary key. -/
def user? (users : List User) (id : Pk) : Option User :=
  users.find? fun user => decide (user.id = id)

/-! ## Examples -/

/-- A stage of an example. -/
def sampleStage (id : Pk) (group : StageGroup) : TraineeStage :=
  { id
    name := ""
    slug := ""
    order := id
    minDays := 1
    maxDays := 10
    progressWeightPercent := 10
    color := ""
    group
    isActive := true
    catalogScope := .shared
    appliesToNewHire := true
    appliesToInternalTransfer := true }

/-- A card of an example, on the stage since the date. -/
def sampleJourney (stageId : Pk) (date : Day) : TraineeJourney :=
  { id := 1
    userId := 1
    entryType := .newHire
    stageScheme := .unified
    probationStartDate := date
    currentStageId := stageId
    stageStartedAt := date
    comment := []
    manualRiskOverride := ""
    fixedQualityPercent := none
    qualityFixedAt := none
    completionStatus := .empty
    completedAt := none
    completionComment := []
    completedById := none }

/-! ## Transfers between the schemes -/

/-- `progress_basis` of a transfer. -/
structure ProgressBasis where
  totalWeight : Nat
  weightBefore : Nat
  currentWeight : Nat
  maxDays : Nat
  percentAtTransfer : Int
  completedWorkStages : List String
  probationOutcome : String

/-- `StageSchemeTransfer`, with whether its batch was reverted. -/
structure StageSchemeTransfer where
  journeyId : Pk
  sourceScheme : StageScheme
  sourceStageId : Pk
  targetStageId : Pk
  sourceStageStartedAt : Day
  sourceOpenHistoryId : Pk
  sourceHistoryIds : List Pk
  progressBasis : ProgressBasis
  isReverted : Bool

/-- `THEORY_SLUGS`. -/
def theorySlugs : List String :=
  ["first-day", "vds", "managed-services", "client-service", "before-tickets"]

/-- The stage of the training program. -/
def programStage? : Option TraineeStage :=
  stages.find? fun stage => decide (stage.slug = "training-program")

/-- `effective_history_stage`. -/
def effectiveHistoryStage?
    (journey : TraineeJourney) (transfer : Option StageSchemeTransfer)
    (entry : StageHistory) : Option TraineeStage := do
  let stage ← stage? stages entry.stageId
  if journey.stageScheme ≠ .unified ∨ stage.slug ∉ theorySlugs then
    some stage
  else
    match transfer with
    | none => some stage
    | some transfer =>
        if transfer.isReverted = true ∨
            entry.id ∉ transfer.sourceHistoryIds then
          some stage
        else
          programStage? stages

end TicketSandbox.TraineeDiary
