import TicketSandbox.Achievements.Events
import TicketSandbox.Library.Runs

namespace TicketSandbox.Achievements

/-!
# Calls on the achievements

The state machine that the services drive: every call is one transaction, and
a call that raises is rolled back.  Only processing a source event writes
after its rollback, to mark the event.
-/

open Raises
open Sandbox (Pk Timestamp Text)

/-- A call of one of the services, with its arguments. -/
inductive Call where
  | grant (request : Grants.GrantRequest) (now : Timestamp)
  | revoke (request : Grants.RevokeRequest) (now : Timestamp)
  | flagDisputed (request : Grants.DisputeRequest) (now : Timestamp)
  | publish (provider : Provider) (externalId : String) (userId : Pk)
      (payload : Payload) (availableAt : Option Timestamp) (now : Timestamp)
  | processSourceEvent (world : Reconciliation.World) (eventId : Pk)
      (now : Timestamp)
  | reconcile (world : Reconciliation.World) (userId : Pk)
      (definition : AchievementDefinition) (apply : Bool)
      (expectedRuleVersion : Nat) (now : Timestamp)

/-- No staff member is behind the call. -/
def Call.isAutomatic : Call → Bool
  | .grant request _ => !request.isManual
  | .revoke _ _ => false
  | _ => true

/-- A transaction that commits its result, or is rolled back and raises. -/
def atomic {α : Type} (db : Db)
    (result : Except Failure (Db × α)) : Db × Option Failure :=
  match result with
  | .ok (next, _) => (next, none)
  | .error failure => (db, some failure)

namespace Db

/-- Run one call: the database after it, and what it raised. -/
def call (db : Db) : Call → Db × Option Failure
  | .grant request now => atomic db (Grants.grant db request now)
  | .revoke request now => atomic db (Grants.revoke db request now)
  | .flagDisputed request now =>
      atomic db
        ((Grants.flagDisputed db request now).map fun next => (next, ()))
  | .publish provider externalId userId payload availableAt now =>
      atomic db
        (Events.publish db provider externalId userId payload availableAt now)
  | .processSourceEvent world eventId now =>
      let (next, result) := Events.processSourceEvent db world eventId now
      match result with
      | .ok _ => (next, none)
      | .error failure => (next, some failure)
  | .reconcile world userId definition apply expectedRuleVersion now =>
      atomic db (Reconciliation.reconcile db world userId definition apply
          expectedRuleVersion now)

/-- Every call can be made in every state. -/
def step? (db : Db) (call : Call) : Option Db :=
  some (db.call call).1

end Db

end TicketSandbox.Achievements

namespace TicketSandbox.Achievements

/-!
# Calls as sequences of services

Every call runs grants, revocations and disputes one after the other, and
writes rows beside the entitlements.  What each of them keeps, every call keeps.
-/

open Raises
open Sandbox (Pk Timestamp Text)
open Grants Reconciliation Events

/-- What stays the same whatever the services of one transaction write. -/
structure SameGround (db next : Db) : Prop where
  catalog : next.catalog = db.catalog
  hasUser : next.hasUser = db.hasUser
  digest : next.digest = db.digest

namespace SameGround

theorem refl (db : Db) : SameGround db db :=
  ⟨rfl, rfl, rfl⟩

/-- The ground is the same over two steps. -/
theorem trans {first second third : Db} (early : SameGround first second)
    (late : SameGround second third) :
    SameGround first third :=
  ⟨late.catalog.trans early.catalog, late.hasUser.trans early.hasUser,
    late.digest.trans early.digest⟩

end SameGround

/-- One service that succeeded, or a write beside the entitlements.  An
automatic one is no revocation and no manual grant. -/
inductive Act (automatic : Bool) (db next : Db) : Prop where
  | granted (request : GrantRequest) (now : Timestamp) (reply : Reply)
      (permitted : automatic = true → request.isManual = false)
      (accepted : grant db request now = .ok (next, reply))
  | revoked (request : RevokeRequest) (now : Timestamp) (reply : Reply)
      (manual : automatic = false)
      (accepted : revoke db request now = .ok (next, reply))
  | disputed (request : DisputeRequest) (now : Timestamp)
      (accepted : flagDisputed db request now = .ok next)
  | beside (ground : SameGround db next) (serial : db.serial ≤ next.serial)
      (achievements : next.achievements = db.achievements)
      (events : next.events = db.events)
      (operations : next.operations = db.operations)

/-- The services of one call, one after the other. -/
def Acts (automatic : Bool) : Db → Db → Prop :=
  Relation.ReflTransGen (Act automatic)

variable {automatic : Bool} {db next : Db} {now : Timestamp} {world : World}
  {userId : Pk} {definition : AchievementDefinition} {evaluation : Evaluation}

namespace Acts

theorem refl : Acts automatic db db :=
  Relation.ReflTransGen.refl

theorem single (act : Act automatic db next) : Acts automatic db next :=
  Relation.ReflTransGen.single act

/-- Acts follow one another. -/
theorem trans {middle : Db} (early : Acts automatic db middle)
    (late : Acts automatic middle next) :
    Acts automatic db next :=
  Relation.ReflTransGen.trans early late

theorem invariant (holds : Db → Prop)
    (kept : ∀ db next, Act automatic db next → holds db → holds next)
    (acts : Acts automatic db next) (initially : holds db) :
    holds next := by
  induction acts with
  | refl => exact initially
  | tail _ act inductionHypothesis => exact kept _ _ act inductionHypothesis

theorem ofLoop
    {α β : Type} (db : β → Db) {round : β → α → Except Failure β} (rounds :
      ∀ before item after, round before item = .ok after →
        Acts automatic (db before) (db after))
    {items : List α} {first last : β}
    (accepted : items.foldlM round first = .ok last) :
    Acts automatic (db first) (db last) := by
  refine foldlM_invariant (fun state => Acts automatic (db first) (db state))
      ?_ .refl accepted
  intro before item _ after early one
  exact early.trans (rounds before item after one)

end Acts

/-! ## Reconciliation -/

namespace Reconciliation

theorem flagIf_acts
    {condition : Prop} [Decidable condition] {request : DisputeRequest}
    (accepted : flagIf condition db request now = .ok next) :
    Acts automatic db next := by
  unfold flagIf at accepted
  split at accepted
  · exact .single (.disputed request now accepted)
  · cases accepted
    exact .refl

theorem disputeProblems_acts {entitlement : Option UserAchievement} (accepted :
      disputeProblems db world userId definition evaluation entitlement
        now = .ok next) :
    Acts true db next := by
  unfold disputeProblems at accepted
  obtain ⟨flagged, first, accepted⟩ := bind_ok.mp accepted
  refine (flagIf_acts first).trans ?_
  split at accepted
  · cases accepted
    exact .refl
  · exact .single (.disputed _ now accepted)

variable {apply : Bool} {version : Nat} {report : Report}

theorem conclude_acts {flagged : Db} {action : Option ReportAction} (accepted :
      conclude db flagged userId definition evaluation apply version now =
        .ok (next, action)) :
    Acts true flagged next := by
  unfold conclude at accepted
  split at accepted
  · obtain ⟨tier, _, accepted⟩ := bind_ok.mp accepted
    split at accepted
    · obtain ⟨⟨granted, reply⟩, grants, accepted⟩ := bind_ok.mp accepted
      cases accepted
      exact .single (.granted _ now reply (fun _ => rfl) grants)
    · cases accepted
      exact .refl
  · cases accepted
    exact .refl

theorem run_acts (accepted :
      run db world userId definition apply version now = .ok (next, report)) :
    Acts true db next := by
  unfold run at accepted
  obtain ⟨_, _, accepted⟩ := bind_ok.mp accepted
  obtain ⟨flagged, first, accepted⟩ := bind_ok.mp accepted
  have disputes : Acts true db flagged := by
    unfold disputeIfApplied at first
    split at first
    · exact disputeProblems_acts first
    · cases first
      exact .refl
  obtain ⟨⟨concluded, action⟩, concludes, accepted⟩ := bind_ok.mp accepted
  cases accepted
  exact disputes.trans (conclude_acts concludes)

theorem reconcile_acts {expectedRuleVersion : Nat} (accepted :
      reconcile db world userId definition apply expectedRuleVersion now =
        .ok (next, report)) :
    Acts true db next := by
  unfold reconcile at accepted
  obtain ⟨_, _, accepted⟩ := bind_ok.mp accepted
  split at accepted
  · obtain ⟨_, _, accepted⟩ := bind_ok.mp accepted
    obtain ⟨current, _, accepted⟩ := bind_ok.mp accepted
    exact run_acts accepted
  · exact run_acts accepted

end Reconciliation

/-! ## Source events -/

namespace Events

variable {provider : Provider} {event : AchievementSourceEvent}
  {keys : List String} {results : List SourceResult}

theorem publish_acts
    {externalId : String} {payload : Payload} {availableAt : Option Timestamp}
    (accepted : publish db provider externalId userId payload availableAt now =
        .ok (next, event)) :
    Acts true db next := by
  obtain ⟨_, _, accepted⟩ := bind_ok.mp accepted
  split at accepted
  · obtain ⟨_, _, accepted⟩ := bind_ok.mp accepted
    cases accepted
    exact .refl
  · cases accepted
    exact .single (.beside ⟨rfl, rfl, rfl⟩ (Nat.le_succ _) rfl rfl rfl)

theorem disputeMetric_acts
    (accepted : disputeMetric db world event now = .ok next) :
    Acts true db next := by
  unfold disputeMetric at accepted
  obtain ⟨metricId, _, accepted⟩ := bind_ok.mp accepted
  split at accepted
  · exact .single (.disputed _ now accepted)
  · exact .ofLoop id (fun _ _ _ round => flagIf_acts round) accepted

theorem disputeSources_acts
    (accepted : disputeSources db world event now = .ok next) :
    Acts true db next := by
  unfold disputeSources at accepted
  obtain ⟨checked, first, accepted⟩ := bind_ok.mp accepted
  have disputes : Acts true db checked := by
    unfold disputeIfWeekly at first
    split at first
    · exact disputeMetric_acts first
    · cases first
      exact .refl
  exact disputes.trans (flagIf_acts accepted)

theorem grantIfEligible_acts {checked : Db} {result : SourceResult}
    (automatic : providerName event.provider ≠ "manual") (accepted :
      grantIfEligible db checked event definition evaluation now =
        .ok (next, result)) :
    Acts true checked next := by
  unfold grantIfEligible at accepted
  split at accepted
  · obtain ⟨⟨granted, reply⟩, grants, accepted⟩ := bind_ok.mp accepted
    cases accepted
    refine .single (.granted _ now reply (fun _ => ?_) grants)
    exact decide_eq_false automatic
  · cases accepted
    exact .refl

theorem evaluateOne_acts {before after : Db × List SourceResult}
    (automatic : providerName event.provider ≠ "manual")
    (accepted : evaluateOne world event now before definition = .ok after) :
    Acts true before.1 after.1 := by
  unfold evaluateOne at accepted
  obtain ⟨checked, first, accepted⟩ := bind_ok.mp accepted
  obtain ⟨⟨granted, result⟩, grants, accepted⟩ := bind_ok.mp accepted
  cases accepted
  exact (flagIf_acts first).trans (grantIfEligible_acts automatic grants)

theorem providerName_ne_manual (known : evaluatorKeys? provider = some keys) :
    providerName provider ≠ "manual" := by
  cases provider with
  | other name => simp [evaluatorKeys?] at known
  | _ => simp [providerName]

theorem evaluateIfKnown_acts
    (automatic : providerName event.provider ≠ "manual")
    (accepted : evaluateIfKnown db world event keys now = .ok (next, results)) :
    Acts true db next := by
  unfold evaluateIfKnown at accepted
  split at accepted
  · cases accepted
    exact .refl
  · unfold evaluateSource at accepted
    obtain ⟨disputed, disputes, accepted⟩ := bind_ok.mp accepted
    obtain ⟨_, _, accepted⟩ := bind_ok.mp accepted
    refine (disputeSources_acts disputes).trans ?_
    exact Acts.ofLoop Prod.fst
        (fun _ _ _ round => evaluateOne_acts automatic round) accepted

theorem process_acts {eventId : Pk}
    (accepted : process db world eventId now = .ok (next, results)) :
    Acts true db next := by
  unfold process at accepted
  obtain ⟨event, _, accepted⟩ := bind_ok.mp accepted
  obtain ⟨_, _, accepted⟩ := bind_ok.mp accepted
  split at accepted
  · cases accepted
    exact .refl
  split at accepted
  · cases accepted
    exact .refl
  obtain ⟨keys, known, accepted⟩ := bind_ok.mp accepted
  have automatic := providerName_ne_manual (required_ok.mp known)
  obtain ⟨_, _, accepted⟩ := bind_ok.mp accepted
  obtain ⟨⟨evaluated, found⟩, evaluates, accepted⟩ := bind_ok.mp accepted
  obtain ⟨_, _, accepted⟩ := bind_ok.mp accepted
  cases accepted
  exact (evaluateIfKnown_acts automatic evaluates).trans
    (.single (.beside ⟨rfl, rfl, rfl⟩ (Nat.le_refl _) rfl rfl rfl))

theorem processSourceEvent_acts
    (db : Db) (world : World) (eventId : Pk) (now : Timestamp) :
    Acts true db (processSourceEvent db world eventId now).1 := by
  unfold processSourceEvent
  split
  · rename_i accepted
    exact process_acts accepted
  · exact .single (.beside ⟨rfl, rfl, rfl⟩ (Nat.le_refl _) rfl rfl rfl)

end Events

theorem atomic_acts {α : Type} {result : Except Failure (Db × α)} (acts :
      ∀ next value, result = .ok (next, value) → Acts automatic db next) :
    Acts automatic db (atomic db result).1 := by
  cases result with
  | error failure => exact .refl
  | ok value => exact acts value.1 value.2 rfl

/-- A call is a sequence of acts. -/
theorem call_acts
    (db : Db) (call : Call) : Acts call.isAutomatic db (db.call call).1 := by
  cases call with
  | grant request now =>
      refine atomic_acts fun next reply accepted => ?_
      refine .single (.granted request now reply (fun automatic => ?_) accepted)
      simpa [Call.isAutomatic] using automatic
  | revoke request now =>
      exact atomic_acts fun next reply accepted =>
        .single (.revoked request now reply rfl accepted)
  | flagDisputed request now =>
      refine atomic_acts fun next _ accepted => ?_
      cases flagged : flagDisputed db request now with
      | error failure => simp [flagged, Except.map] at accepted
      | ok other =>
          simp only [flagged, Except.map, Except.ok.injEq, Prod.mk.injEq,
            and_true] at accepted
          subst accepted
          exact .single (.disputed request now flagged)
  | publish provider externalId userId payload availableAt now =>
      exact atomic_acts fun _ _ accepted => publish_acts accepted
  | processSourceEvent world eventId now =>
      have acts := processSourceEvent_acts db world eventId now
      simp only [Db.call]
      split <;> exact acts
  | reconcile world userId definition apply version now =>
      exact atomic_acts fun _ _ accepted => reconcile_acts accepted

end TicketSandbox.Achievements
