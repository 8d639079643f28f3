import TicketSandbox.Observations.HttpObservations

namespace TicketSandbox.Observations

/-!
# What requests and checks find

What the check of a run compares are the facts that its request recorded, and
a request under the constraints of the table never runs into them.
-/

open Raises
open Sandbox (Pk Uuid)

/-- What a result of the pilot is about. -/
structure Facts where
  container : Option String
  environment : Option Uuid
  restartCount : Option Nat
  policy : Option Config
  technicalCheck : Option Pk
  technicalEvent : Option Pk

/-- The facts about the attempt as they are. -/
def World.facts (world : World) (attemptId : Pk) : Facts where
  container := (world.attempt? attemptId).map TaskAttempt.containerId
  environment :=
    (world.newestRequest? attemptId).map SandboxEnvironmentEvent.operationId
  restartCount := (world.attempt? attemptId).map TaskAttempt.restartCount
  policy := (loadConfig world).toOption
  technicalCheck :=
    (world.newestCheck? attemptId).map TechnicalCheckExecution.pk
  technicalEvent := world.lastEvent? attemptId

/-- The facts that the request of a run recorded. -/
def RequestedRun.recorded (run : RequestedRun) : Facts where
  container := some run.identity.containerId
  environment := some run.identity.environmentUuid
  restartCount := some run.identity.restartCount
  policy := some run.policy
  technicalCheck := run.technicalExecutionId
  technicalEvent := run.technicalEventId

variable {world : World} {attemptId userId : Pk} {attempt : TaskAttempt}
  {found : Context} {run other : HTTPObservationRun}
  {runs : List HTTPObservationRun} {drawn : Uuid}

theorem World.attempt?_pk (found : world.attempt? attemptId = some attempt) :
    attempt.pk = attemptId := by
  simpa using List.find?_some found

theorem context_facts
    {config : Config} (isAttempt : world.attempt? attemptId = some attempt)
    (returned : context world attempt userId = .ok found)
    (loaded : loadConfig world = .ok config) :
    world.facts attemptId =
      { container := some found.identity.containerId
        environment := some found.identity.environmentUuid
        restartCount := some found.identity.restartCount
        policy := some config
        technicalCheck := found.technicalCheck.map TechnicalCheckExecution.pk
        technicalEvent := found.eventId } := by
  have samePk := World.attempt?_pk isAttempt
  simp only [context, bind_ok, ensure_ok, required_ok, pure_ok] at returned
  obtain ⟨_, _, _, _, _, _, _, _, event, isNewest, _, _, _, _, mapping, _, _,
    _, rfl⟩ := returned
  rw [samePk] at isNewest
  simp only [World.facts, isAttempt, isNewest, loaded, samePk,
    Option.map_some, Except.toOption]

theorem current_facts (passed : current world run = .ok attempt) :
    world.facts run.attemptId = run.recorded := by
  simp only [current, bind_ok, ensure_ok, required_ok] at passed
  obtain ⟨attempt, isAttempt, found, isFound, config, isConfig, _,
    ⟨sameIdentity, samePolicy, sameCheck, sameEvent, _⟩, _⟩ := passed
  rw [context_facts isAttempt isFound isConfig, sameIdentity, samePolicy,
    sameCheck, sameEvent]
  rfl

theorem insert_ok {inserted : List HTTPObservationRun}
    (returned : insert runs run = .ok inserted) :
    inserted = runs ++ [run] ∧ (∀ other ∈ runs, other.runId ≠ run.runId) ∧
      (∀ other ∈ runs, other.place ≠ run.place) ∧
      ∀ other ∈ runs, other.isActive = true → run.isActive = true →
        other.attemptId ≠ run.attemptId := by
  simp only [insert, bind_ok, ensure_ok, pure_ok] at returned
  obtain ⟨_, newId, _, newPlace, _, noneActive, rfl⟩ := returned
  exact ⟨rfl, newId, newPlace, noneActive⟩

/-- A request that creates a run queues it with its facts. -/
theorem requestObservation_created {requested : Requested} (returned :
      requestObservation world runs attemptId userId drawn = .ok requested)
    (isCreated : requested.created = true) :
    insert runs requested.run = .ok requested.runs ∧
      requested.run.status = .queued ∧
      world.facts requested.run.attemptId = requested.run.recorded := by
  simp only [requestObservation, bind_ok, required_ok] at returned
  obtain ⟨attempt, isAttempt, found, isFound, policy, isPolicy, provided⟩ :=
    returned
  have facts := context_facts isAttempt isFound isPolicy
  unfold provideRun at provided
  split at provided
  · cases provided
    simp at isCreated
  · simp only [createRun, bind_ok, pure_ok] at provided
    obtain ⟨inserted, isInserted, rfl⟩ := provided
    exact ⟨isInserted, rfl, facts⟩

/-- The failure is not one of a unique constraint. -/
def Refusal.IsChecked (failure : Refusal) : Prop :=
  ∀ constraint, failure ≠ .integrityError constraint

theorem context_only (world : World) (attempt : TaskAttempt) (userId : Pk) :
    Only Refusal.IsChecked (context world attempt userId) := by
  simp only [context, only_bind, only_ensure, only_required, only_pure,
    Refusal.IsChecked, ne_eq, reduceCtorEq, not_false_eq_true, implies_true,
    or_true, and_true]

theorem loadConfig_only (world : World) :
    Only Refusal.IsChecked (loadConfig world) := by
  have file : Only Refusal.IsChecked
        (world.configFile.mapError .configurationError) := by
    cases world.configFile with
    | error code => simp [Except.mapError, only_error, Refusal.IsChecked]
    | ok config => exact only_pure config
  simp [loadConfig, only_bind, only_ensure, only_required, file,
    Refusal.IsChecked]

theorem lt_nextOrdinal
    (member : run ∈ runs) : run.ordinal < nextOrdinal runs run.attemptId := by
  have isOwn : run ∈ runs.filter fun other =>
        decide (other.attemptId = run.attemptId) := by
    simp [member]
  have atMost := Rows.le_largest (fun other => other.ordinal) isOwn
  unfold nextOrdinal
  omega

theorem requestedRun_place {policy : Config} (member : other ∈ runs) :
    other.place ≠
      (requestedRun runs attemptId userId found policy drawn).place := by
  intro same
  simp only [HTTPObservationRun.place, requestedRun, origin] at same
  split at same
  · rename_i check isChosen
    obtain ⟨_, unused⟩ := Option.filter_eq_some_iff.mp isChosen
    simp only [isUnused, Bool.and_eq_true, Bool.not_eq_true',
      List.any_eq_false] at unused
    exact unused.2 other member (decide_eq_true same)
  · obtain ⟨sameAttempt, sameOrdinal⟩ := Prod.ext_iff.mp same
    have below := lt_nextOrdinal member
    simp only at sameAttempt sameOrdinal
    rw [sameAttempt, ← sameOrdinal] at below
    exact lt_irrefl _ below

theorem requestedRun_runId {policy : Config}
    (isFresh : ∀ run ∈ runs, run.runId ≠ drawn) (member : other ∈ runs) :
    other.runId ≠
      (requestedRun runs attemptId userId found policy drawn).runId := by
  intro same
  simp only [requestedRun, origin] at same
  split at same
  · rename_i check isChosen
    obtain ⟨_, unused⟩ := Option.filter_eq_some_iff.mp isChosen
    simp only [isUnused, Bool.and_eq_true, Bool.not_eq_true',
      List.any_eq_false] at unused
    exact unused.1.2 other member (decide_eq_true same)
  · exact isFresh other member same

/-- A request is refused by its checks only. -/
theorem requestObservation_only (isFresh : ∀ run ∈ runs, run.runId ≠ drawn) :
    Only Refusal.IsChecked
      (requestObservation world runs attemptId userId drawn) := by
  simp only [requestObservation, only_bind, only_required]
  refine ⟨.inr nofun, fun attempt _ => ⟨context_only world attempt userId,
    fun found _ => ⟨loadConfig_only world, fun policy _ => ?_⟩⟩⟩
  unfold provideRun
  split
  · exact only_pure _
  · rename_i noneActive
    have free : ∀ other ∈ runs, other.isActive = true →
        other.attemptId ≠ attemptId := by
      intro other member isActive sameAttempt
      have skipped := List.find?_eq_none.mp noneActive other member
      simp [sameAttempt, isActive] at skipped
    simp only [createRun, insert, only_bind, only_ensure]
    refine ⟨⟨.inl fun other => requestedRun_runId isFresh, fun _ _ =>
      ⟨.inl fun other => requestedRun_place, fun _ _ =>
        ⟨.inl fun other member isActive _ => ?_, fun _ _ => only_pure _⟩⟩⟩,
      fun _ _ => only_pure _⟩
    exact free other member isActive

end TicketSandbox.Observations
