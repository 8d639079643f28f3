import TicketSandbox.Achievements.EventKeys
import TicketSandbox.Achievements.AutomaticRuns

namespace TicketSandbox.Achievements

/-!
# Processing the source events of one user

With the source data, the catalog and the clock held fixed, every event that
is evaluated moves the awards of its families to the same place, and the
second evaluation of a family moves nothing.  The order and the number of the
calls therefore do not matter.
-/

open Raises
open Sandbox (Pk Timestamp Text)
open Grants Reconciliation Events

/-! ## What one evaluation moves -/

/-- The tier that `evaluate` selects for the user. -/
def selected? (world : World) (db : Db) (userId : Pk)
    (definition : AchievementDefinition) : Option AchievementTier :=
  let evaluation := world.evaluate userId definition
  if evaluation.status = .eligible then
    db.tier? definition.pk (evaluation.tierCode.getD "")
  else
    none

/--
The award that an evaluation leaves: the selected tier where it is higher,
unless automatic grants are blocked.
-/
def settled (world : World) (db : Db) (userId : Pk)
    (definition : AchievementDefinition) : Award :=
  match selected? world db userId definition with
  | none => db.award userId definition.pk
  | some tier => (db.award userId definition.pk).given false tier

/-- The event names no adaptation, or one that the user still has. -/
def isKnown (world : World) (event : AchievementSourceEvent) : Bool :=
  event.payload.journeyId.all fun journey =>
    world.hasJourney journey event.userId

/-- The provider of the event affects the family of the definition. -/
def affects (event : AchievementSourceEvent)
    (definition : AchievementDefinition) : Bool :=
  (evaluatorKeys? event.provider).any fun keys =>
    decide (definition.evaluatorKey ∈ keys)

/-- The definitions that processing the event evaluates. -/
def evaluated (world : World) (db : Db)
    (event : AchievementSourceEvent) : List AchievementDefinition :=
  if isKnown world event then db.catalog.definitions.filter (affects event)
  else []

/-- The families of the definitions were evaluated, and nothing else moved. -/
structure Evaluated
    (world : World) (userId : Pk) (definitions : List AchievementDefinition)
    (before after : Db) : Prop where
  ground : SameGround before after
  sources : after.sources = before.sources
  keyed : Keyed after
  honoured : Honoured after
  awards : ∀ definition ∈ definitions,
      after.award userId definition.pk = settled world before userId definition
  others : ∀ other definitionId, (other = userId →
        ∀ definition ∈ definitions, definition.pk ≠ definitionId) →
      after.award other definitionId = before.award other definitionId

variable {before after db next : Db} {world : World} {userId eventId : Pk}
  {definition : AchievementDefinition} {request : DisputeRequest}
  {now : Timestamp} {event : AchievementSourceEvent}
  {definitions : List AchievementDefinition} {keys : List String}

theorem selected?_of_ground (ground : SameGround before after) (world : World)
    (userId : Pk) (definition : AchievementDefinition) :
    selected? world after userId definition =
      selected? world before userId definition := by
  rw [selected?, selected?, Db.tier?, Db.tier?, ground.catalog]

/-- What an award settles to depends on the award only. -/
theorem settled_of_award (ground : SameGround before after) (award :
      after.award userId definition.pk = before.award userId definition.pk) :
    settled world after userId definition =
      settled world before userId definition := by
  rw [settled, settled, selected?_of_ground ground, award]

theorem settled_of_settled (ground : SameGround before after) (award :
      after.award userId definition.pk =
        settled world before userId definition) :
    settled world after userId definition =
      settled world before userId definition := by
  rw [settled, selected?_of_ground ground, award, settled]
  cases selected? world before userId definition with
  | none => rfl
  | some tier => exact Award.given_given ..

namespace Grants

theorem flagDisputed_sources
    (accepted : flagDisputed db request now = .ok next) :
    next.sources = db.sources := by
  obtain ⟨_, _, accepted⟩ := bind_ok.mp accepted
  refine foldlM_invariant (fun state : Db => state.sources = db.sources)
      ?_ rfl accepted
  intro before entitlement _ after same round
  unfold disputeOne at round
  split at round
  · cases round
    exact same
  · obtain ⟨recorded, inserted, round⟩ := bind_ok.mp round
    cases round
    rw [insertEvent_ok inserted]
    exact same

theorem getOrCreate_sources (db : Db) (userId definitionId : Pk) :
    (getOrCreate db userId definitionId).1.sources = db.sources := by
  unfold getOrCreate
  split <;> rfl

theorem enqueue_sources (db : Db) (userId : Pk) (event : AchievementEvent) :
    (enqueue db userId event).sources = db.sources := by
  unfold enqueue
  split
  · rfl
  · split <;> rfl

theorem grant_sources {request : GrantRequest} {reply : Reply}
    (accepted : grant db request now = .ok (next, reply)) :
    next.sources = db.sources := by
  have opened := getOrCreate_sources db request.userId request.definitionId
  rcases grant_cases accepted with rfl | ⟨tier, key, _, occurredAt, accepted⟩
  · rfl
  unfold grantNew at accepted
  generalize getOrCreate db request.userId request.definitionId = created
    at accepted opened
  obtain ⟨opening, entitlement⟩ := created
  obtain ⟨_, _, accepted⟩ := bind_ok.mp accepted
  split at accepted
  · cases accepted
    exact opened
  split at accepted
  · cases accepted
    exact opened
  obtain ⟨recorded, inserted, accepted⟩ := bind_ok.mp accepted
  cases accepted
  refine (enqueue_sources _ _ _).trans ?_
  rw [insertEvent_ok inserted]
  exact opened

end Grants

/-- Disputes move no award, no receipt and no source event. -/
structure Flagged (db next : Db) : Prop where
  keyed : Keyed next
  idle : Idle db next
  sources : next.sources = db.sources

namespace Flagged

theorem refl (keyed : Keyed db) : Flagged db db :=
  ⟨keyed, .refl db, rfl⟩

theorem trans {first second third : Db} (early : Flagged first second)
    (late : Flagged second third) :
    Flagged first third :=
  ⟨late.keyed, early.idle.trans late.idle, late.sources.trans early.sources⟩

theorem flagDisputed (keyed : Keyed db)
    (accepted : Grants.flagDisputed db request now = .ok next) :
    Flagged db next where
  keyed := (flagDisputed_writes keyed accepted : Writes true _ _).keyed keyed
  idle := flagDisputed_idle keyed accepted
  sources := flagDisputed_sources accepted

theorem flagIf {condition : Prop} [Decidable condition] (keyed : Keyed db)
    (accepted : Reconciliation.flagIf condition db request now = .ok next) :
    Flagged db next := by
  unfold Reconciliation.flagIf at accepted
  split at accepted
  · exact .flagDisputed keyed accepted
  · cases accepted
    exact .refl keyed

theorem disputeSources (keyed : Keyed db)
    (accepted : Events.disputeSources db world event now = .ok next) :
    Flagged db next := by
  obtain ⟨checked, first, accepted⟩ := bind_ok.mp accepted
  have weekly : Flagged db checked := by
    unfold disputeIfWeekly at first
    split at first
    · obtain ⟨metricId, _, first⟩ := bind_ok.mp first
      split at first
      · exact .flagDisputed keyed first
      · refine foldlM_invariant (fun state : Db => Flagged db state) ?_
            (.refl keyed) first
        exact fun _ _ _ _ held round => held.trans (.flagIf held.keyed round)
    · cases first
      exact .refl keyed
  exact weekly.trans (.flagIf weekly.keyed accepted)

end Flagged

/-- Evaluating one family settles its award. -/
theorem evaluateOne_evaluated {before after : Db × List SourceResult}
    (automatic : providerName event.provider ≠ "manual")
    (keyed : Keyed before.1) (honoured : Honoured before.1)
    (accepted : evaluateOne world event now before definition = .ok after) :
    Evaluated world event.userId [definition] before.1 after.1 := by
  have acts := evaluateOne_acts automatic accepted
  have afterKeyed := (acts_writes acts keyed).keyed keyed
  have afterHonoured := (acts_services acts keyed).invariant Honoured
      (fun _ _ service held => held.service service) honoured
  unfold evaluateOne at accepted
  obtain ⟨checked, first, accepted⟩ := bind_ok.mp accepted
  obtain ⟨⟨granted, result⟩, grants, accepted⟩ := bind_ok.mp accepted
  cases accepted
  obtain ⟨checkedKeyed, idle, sources⟩ := Flagged.flagIf keyed first
  have checkedHonoured := honoured.service (.idle idle)
  unfold grantIfEligible at grants
  split at grants
  · rename_i eligible
    obtain ⟨⟨next, reply⟩, gives, grants⟩ := bind_ok.mp grants
    cases grants
    obtain ⟨tier, key, admitted, given⟩ := grant_given checkedKeyed gives
    have selects :
        selected? world before.1 event.userId definition = some tier := by
      rw [← selected?_of_ground idle.ground, selected?, if_pos eligible]
      exact admitted.tier
    have notManual : (sourcedGrant before.1 event definition
          (world.evaluate event.userId definition)).isManual = false := by
      simp [GrantRequest.isManual, sourcedGrant, automatic]
    have nextSources := (grant_sources gives).trans sources
    cases given with
    | repeated receipt member isReceipt same =>
        subst same
        refine ⟨idle.ground, nextSources, afterKeyed, afterHonoured, ?_,
            fun other definitionId _ => idle.awards other definitionId⟩
        intro other isOther
        obtain rfl := List.mem_singleton.mp isOther
        have promise :=
          checkedHonoured.honoured receipt member _ tier key admitted isReceipt
        rw [settled, selects, idle.awards]
        refine (Award.given_eq ?_).symm
        rw [← idle.awards]
        exact promise
    | given receipt isReceipt ground award others operations =>
        refine ⟨idle.ground.trans ground, nextSources, afterKeyed,
            afterHonoured, ?_, ?_⟩
        · intro other isOther
          obtain rfl := List.mem_singleton.mp isOther
          rw [notManual, idle.awards] at award
          rw [settled, selects]
          exact award
        · intro other definitionId apart
          refine (others other definitionId ?_).trans
            (idle.awards other definitionId)
          intro same
          obtain ⟨isUser, isDefinition⟩ := Prod.mk.inj same
          exact apart isUser definition (List.mem_singleton_self definition)
              isDefinition.symm
  · rename_i ineligible
    cases grants
    refine ⟨idle.ground, sources, afterKeyed, afterHonoured, ?_,
        fun other definitionId _ => idle.awards other definitionId⟩
    intro other isOther
    obtain rfl := List.mem_singleton.mp isOther
    rw [settled, selected?, if_neg ineligible]
    exact idle.awards _ _

theorem evaluateAll_evaluated {before after : Db × List SourceResult}
    (automatic : providerName event.provider ≠ "manual")
    (unique : (definitions.map AchievementDefinition.pk).Nodup)
    (keyed : Keyed before.1) (honoured : Honoured before.1) (accepted :
      definitions.foldlM (evaluateOne world event now) before = .ok after) :
    Evaluated world event.userId definitions before.1 after.1 := by
  induction definitions generalizing before with
  | nil =>
      cases accepted
      exact ⟨.refl _, rfl, keyed, honoured, by simp, fun _ _ _ => rfl⟩
  | cons definition rest inductionHypothesis =>
      rw [List.foldlM_cons] at accepted
      obtain ⟨middle, one, accepted⟩ := bind_ok.mp accepted
      have first := evaluateOne_evaluated automatic keyed honoured one
      rw [List.map_cons, List.nodup_cons] at unique
      have later :=
        inductionHypothesis unique.2 first.keyed first.honoured accepted
      have apart {other : AchievementDefinition} (isOther : other ∈ rest) :
          definition.pk ≠ other.pk := by
        intro same
        exact unique.1 (List.mem_map.mpr ⟨other, isOther, same.symm⟩)
      refine ⟨first.ground.trans later.ground,
          later.sources.trans first.sources, later.keyed, later.honoured,
          ?_, ?_⟩
      · intro other isOther
        rcases List.mem_cons.mp isOther with rfl | isLater
        · rw [later.others event.userId other.pk
            (fun _ _ member => (apart member).symm)]
          exact first.awards other (List.mem_singleton_self other)
        · rw [later.awards other isLater]
          refine settled_of_award first.ground ?_
          refine first.others event.userId other.pk ?_
          intro _ only isOnly
          rw [List.mem_singleton.mp isOnly]
          exact apart isLater
      · intro other definitionId different
        refine (later.others other definitionId ?_).trans
          (first.others other definitionId ?_)
        · exact fun isUser item member =>
            different isUser item (List.mem_cons_of_mem _ member)
        · intro isUser item member
          rw [List.mem_singleton.mp member]
          exact different isUser definition List.mem_cons_self

/-! ## What one call does -/

theorem source?_some (found : db.source? eventId = some event) :
    event ∈ db.sources ∧ event.pk = eventId := by
  have same := List.find?_some found
  exact ⟨List.mem_of_find?_eq_some found, of_decide_eq_true same⟩

theorem source?_modify
    {change : AchievementSourceEvent → AchievementSourceEvent}
    (samePk : ∀ event, event.pk = eventId → (change event).pk = eventId)
    (sources : next.sources =
        Rows.modify AchievementSourceEvent.pk eventId change db.sources)
    (pk : Pk) :
    next.source? pk = (db.source? pk).map fun event =>
        if event.pk = eventId then change event else event := by
  rw [Db.source?, sources]
  refine Rows.find?_modify ?_
  intro event _ same
  rw [samePk event same, same]

theorem affects_iff (known : evaluatorKeys? event.provider = some keys) :
    affects event =
      fun definition => decide (definition.evaluatorKey ∈ keys) := by
  funext definition
  rw [affects, known, Option.any_some]

theorem isKnown_eq (world : World) (event : AchievementSourceEvent) :
    isKnown world event = !(event.payload.journeyId.any fun journey =>
          !world.hasJourney journey event.userId) := by
  rw [isKnown]
  cases event.payload.journeyId with
  | none => rfl
  | some journey => simp

theorem Evaluated.ofFlagged {disputed : Db} (flagged : Flagged db disputed)
    (evaluated : Evaluated world userId definitions disputed next) :
    Evaluated world userId definitions db next where
  ground := flagged.idle.ground.trans evaluated.ground
  sources := evaluated.sources.trans flagged.sources
  keyed := evaluated.keyed
  honoured := evaluated.honoured
  awards := fun definition member =>
    (evaluated.awards definition member).trans
      (settled_of_award flagged.idle.ground (flagged.idle.awards _ _))
  others := fun other definitionId apart =>
    (evaluated.others other definitionId apart).trans
      (flagged.idle.awards other definitionId)

/-- An event of a known provider is evaluated by its evaluators. -/
theorem evaluateIfKnown_evaluated {results : List SourceResult}
    (known : evaluatorKeys? event.provider = some keys) (keyed : Keyed db)
    (honoured : Honoured db)
    (accepted : evaluateIfKnown db world event keys now = .ok (next, results)) :
    Evaluated world event.userId (evaluated world db event) db next := by
  unfold evaluateIfKnown at accepted
  rw [evaluated, isKnown_eq]
  split at accepted
  · rename_i vanished
    cases accepted
    rw [vanished]
    exact ⟨.refl _, rfl, keyed, honoured, by simp, fun _ _ _ => rfl⟩
  · rename_i known'
    obtain ⟨disputed, disputes, accepted⟩ := bind_ok.mp accepted
    obtain ⟨_, _, accepted⟩ := bind_ok.mp accepted
    have flagged := Flagged.disputeSources keyed disputes
    rw [if_pos (by simpa using known'), affects_iff known,
      ← flagged.idle.ground.catalog]
    refine .ofFlagged flagged ?_
    refine evaluateAll_evaluated (providerName_ne_manual known) ?_
        flagged.keyed (honoured.service (.idle flagged.idle)) accepted
    rw [flagged.idle.ground.catalog]
    exact honoured.constraints.definitions.sublist (List.filter_sublist.map _)

end TicketSandbox.Achievements
