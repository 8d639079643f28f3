import Mathlib.Data.Countable.Basic
import Mathlib.Logic.Equiv.List
import Mathlib.Tactic.DeriveCountable
import TicketSandbox.Achievements.SourceRuns

namespace TicketSandbox.Achievements

/-!
# The order of the source events of one user

Calls of `process_source_event` in any order, some of them raising or dying
on the way.  An award that is settled stays settled, so what is left of a run
is the set of the events that it processed.
-/

open Raises
open Runs
open Sandbox (Pk Timestamp Text)
open Grants Reconciliation Events

/-! ## Calls that may fail anywhere -/

/-- A call of `process_source_event`, and how it ends. -/
inductive Processing where
  | process (eventId : Pk)
  | raise (eventId : Pk) (failure : Failure)
  | die (eventId : Pk)

/-- The source event that the call is about. -/
def Processing.eventId : Processing → Pk
  | .process eventId => eventId
  | .raise eventId _ => eventId
  | .die eventId => eventId

/--
The database after the call, and whether the call returned.  What raises
inside the transaction is rolled back and marked; what dies is rolled back.
-/
def Db.processing
    (db : Db) (world : World) (now : Timestamp) : Processing → Db × Bool
  | .process eventId =>
      match process db world eventId now with
      | .ok (next, _) => (next, true)
      | .error failure => (markFailed db eventId failure, false)
  | .raise eventId failure => (markFailed db eventId failure, false)
  | .die _ => (db, false)

/-- Every call can be made in every state. -/
def Db.processing? (world : World) (now : Timestamp) (db : Db)
    (call : Processing) : Option Db :=
  some (db.processing world now call).1

/-- The call is about one of the events. -/
def IsAbout (eventIds : List Pk) (_ : Db) (call : Processing) : Prop :=
  call.eventId ∈ eventIds

/-- The event of the primary key is processed. -/
def Db.isProcessed (db : Db) (eventId : Pk) : Bool :=
  (db.source? eventId).any fun event => decide (event.status = .processed)

/--
The definition is reached by an event that is still to be processed and whose
adaptation, if it names one, is still there.
-/
def isReached (world : World) (db : Db) (eventIds : List Pk)
    (definition : AchievementDefinition) : Bool :=
  eventIds.any fun eventId =>
    (db.source? eventId).any fun event =>
      decide (event.status ≠ .processed) && isKnown world event &&
        affects event definition

/-- The later version of an event, which is final once it is processed. -/
structure SameEvent (event later : AchievementSourceEvent) : Prop where
  provider : later.provider = event.provider
  payload : later.payload = event.payload
  userId : later.userId = event.userId
  final : event.status = .processed → later = event

variable {event : AchievementSourceEvent} {db : Db} {world : World}
  {now : Timestamp} {results : List SourceResult} {call : Processing}

namespace SameEvent

theorem refl (event : AchievementSourceEvent) : SameEvent event event :=
  ⟨rfl, rfl, rfl, fun _ => rfl⟩

theorem trans {first second third : AchievementSourceEvent}
    (early : SameEvent first second) (late : SameEvent second third) :
    SameEvent first third where
  provider := late.provider.trans early.provider
  payload := late.payload.trans early.payload
  userId := late.userId.trans early.userId
  final := by
    intro isFinal
    obtain rfl := early.final isFinal
    exact late.final isFinal

variable {later : AchievementSourceEvent}

theorem isKnown_eq (same : SameEvent event later) (world : World) :
    isKnown world later = isKnown world event := by
  rw [isKnown, isKnown, same.payload, same.userId]

theorem affects_eq
    (same : SameEvent event later) : affects later = affects event := by
  funext definition
  rw [affects, affects, same.provider]

end SameEvent

theorem finished_same (unprocessed : event.status ≠ .processed) (world : World)
    (results : List SourceResult) (now : Timestamp) :
    SameEvent event (finished world event results now) := by
  unfold finished
  split <;> exact ⟨rfl, rfl, rfl, fun isFinal => (unprocessed isFinal).elim⟩

theorem finished_pk (world : World) (event : AchievementSourceEvent)
    (results : List SourceResult) (now : Timestamp) :
    (finished world event results now).pk = event.pk := by
  unfold finished
  split <;> rfl

/-! ## What a call that returns did -/

/-- The call left everything alone, or evaluated the event and saved it. -/
inductive Returned
    (world : World) (now : Timestamp) (db : Db) (event : AchievementSourceEvent)
    (results : List SourceResult) (next : Db) : Prop where
  | final (isFinal : event.status = .processed)
      (stored : results = event.result)
      (same : next = db)
  | postponed (unprocessed : event.status ≠ .processed) (same : next = db)
  | evaluated (unprocessed : event.status ≠ .processed) (middle : Db)
      (evaluates :
        Evaluated world event.userId (evaluated world db event) db middle)
      (same : next = saveSource middle (finished world event results now))

theorem process_returned
    {next : Db} {eventId : Pk} (keyed : Keyed db) (honoured : Honoured db)
    (accepted : process db world eventId now = .ok (next, results)) :
    ∃ event, db.source? eventId = some event ∧
        Returned world now db event results next := by
  obtain ⟨event, found, accepted⟩ := bind_ok.mp accepted
  refine ⟨event, required_ok.mp found, ?_⟩
  obtain ⟨_, _, accepted⟩ := bind_ok.mp accepted
  split at accepted
  · rename_i isFinal
    cases accepted
    exact .final isFinal rfl rfl
  rename_i unprocessed
  split at accepted
  · cases accepted
    exact .postponed unprocessed rfl
  obtain ⟨keys, known, accepted⟩ := bind_ok.mp accepted
  obtain ⟨_, _, accepted⟩ := bind_ok.mp accepted
  obtain ⟨⟨middle, found⟩, evaluates, accepted⟩ := bind_ok.mp accepted
  obtain ⟨_, _, accepted⟩ := bind_ok.mp accepted
  cases accepted
  exact .evaluated unprocessed middle
      (evaluateIfKnown_evaluated (required_ok.mp known) keyed
        honoured evaluates)
      rfl

theorem markFailed_idle (db : Db) (eventId : Pk) (failure : Failure) :
    Idle db (markFailed db eventId failure) :=
  .beside ⟨rfl, rfl, rfl⟩ rfl rfl

theorem markFailed_keyed (keyed : Keyed db) (eventId : Pk) (failure : Failure) :
    Keyed (markFailed db eventId failure) := by
  have writes : Writes true db (markFailed db eventId failure) :=
    .elsewhere (Nat.le_refl _) rfl rfl
  exact writes.keyed keyed

theorem markFailed_source?
    {eventId pk : Pk} {failure : Failure} (found : db.source? pk = some event) :
    ∃ later, (markFailed db eventId failure).source? pk = some later ∧
        SameEvent event later ∧
        (later.status = .processed → later = event) := by
  have finds := @source?_modify db (markFailed db eventId failure) eventId _
      (fun row same => by
        split
        · exact same
        · exact same)
      rfl pk
  rw [found, Option.map_some] at finds
  refine ⟨_, finds, ?_⟩
  split
  · split
    · exact ⟨.refl event, fun _ => rfl⟩
    · rename_i unprocessed
      exact ⟨⟨rfl, rfl, rfl, fun isFinal => (unprocessed isFinal).elim⟩,
          fun isFinal => by simp at isFinal⟩
  · exact ⟨.refl event, fun _ => rfl⟩

/-! ## What a run keeps -/

/--
What holds all along a run over the events: every event has a version of
itself, an award has not moved or is settled, and it is settled once an event
that reaches its family is processed.
-/
structure Underway
    (world : World) (first : Db) (userId : Pk) (eventIds : List Pk)
    (db : Db) : Prop where
  keyed : Keyed db
  honoured : Honoured db
  ground : SameGround first db
  versions : ∀ eventId event, first.source? eventId = some event →
      ∃ later, db.source? eventId = some later ∧ SameEvent event later
  awards : ∀ definition ∈ first.catalog.definitions,
      db.award userId definition.pk = first.award userId definition.pk ∨
        isReached world first eventIds definition = true ∧
          db.award userId definition.pk = settled world first userId definition
  settles : ∀ eventId ∈ eventIds, ∀ event, first.source? eventId = some event →
      event.status ≠ .processed →
      isKnown world event = true →
      db.isProcessed eventId = true →
      ∀ definition ∈ first.catalog.definitions,
        affects event definition = true →
        db.award userId definition.pk = settled world first userId definition

namespace Underway

variable {first : Db} {eventIds : List Pk}
  {definition : AchievementDefinition} {userId : Pk}

theorem start (keyed : Keyed first) (honoured : Honoured first) :
    Underway world first userId eventIds first where
  keyed := keyed
  honoured := honoured
  ground := .refl first
  versions := fun _ event found => ⟨event, found, .refl event⟩
  awards := fun _ _ => .inl rfl
  settles := by
    intro eventId _ event found unprocessed _ isProcessed
    rw [Db.isProcessed, found, Option.any_some] at isProcessed
    exact (unprocessed (of_decide_eq_true isProcessed)).elim

theorem idle {first db next : Db}
    (underway : Underway world first userId eventIds db) (keyed : Keyed next)
    (idle : Idle db next) (versions :
      ∀ eventId event, db.source? eventId = some event → ∃ later,
          next.source? eventId = some later ∧ SameEvent event later ∧
            (later.status = .processed → later = event)) :
    Underway world first userId eventIds next where
  keyed := keyed
  honoured := underway.honoured.service (.idle idle)
  ground := underway.ground.trans idle.ground
  versions := by
    intro eventId event found
    obtain ⟨middle, middleFound, early⟩ := underway.versions eventId event found
    obtain ⟨later, laterFound, late, _⟩ := versions eventId middle middleFound
    exact ⟨later, laterFound, early.trans late⟩
  awards := by
    intro definition member
    rw [idle.awards]
    exact underway.awards definition member
  settles := by
    intro eventId member event found unprocessed known isProcessed
      definition ofCatalog affected
    obtain ⟨middle, middleFound, _⟩ := underway.versions eventId event found
    obtain ⟨later, laterFound, _, isOld⟩ := versions eventId middle middleFound
    rw [idle.awards]
    refine underway.settles eventId member event found unprocessed known ?_
        definition ofCatalog affected
    rw [Db.isProcessed, laterFound, Option.any_some] at isProcessed
    obtain rfl := isOld (of_decide_eq_true isProcessed)
    rw [Db.isProcessed, middleFound, Option.any_some]
    exact isProcessed

theorem settled_eq (underway : Underway world first userId eventIds db)
    (member : definition ∈ first.catalog.definitions) :
    settled world db userId definition =
      settled world first userId definition := by
  rcases underway.awards definition member with same | ⟨_, isSettled⟩
  · exact settled_of_award underway.ground same
  · exact settled_of_settled underway.ground isSettled

/-- Evaluating one of the events keeps the others underway. -/
theorem evaluated {middle : Db} {eventId : Pk}
    (underway : Underway world first userId eventIds db)
    (member : eventId ∈ eventIds) (published : (first.source? eventId).isSome)
    (found : db.source? eventId = some event) (ofUser : event.userId = userId)
    (unprocessed : event.status ≠ .processed) (evaluates :
      Evaluated world event.userId (Achievements.evaluated world db event)
        db middle) :
    Underway world first userId eventIds
      (saveSource middle (finished world event results now)) := by
  subst ofUser
  obtain ⟨original, originalFound⟩ := Option.isSome_iff_exists.mp published
  obtain ⟨current, currentFound, same⟩ :=
    underway.versions eventId original originalFound
  obtain rfl := Option.some.inj (found.symm.trans currentFound)
  have wasUnprocessed : original.status ≠ .processed := by
    intro isFinal
    rw [same.final isFinal] at unprocessed
    exact unprocessed isFinal
  have saved :
      Idle middle (saveSource middle (finished world event results now)) :=
    .beside ⟨rfl, rfl, rfl⟩ rfl rfl
  have isEvaluated {definition : AchievementDefinition}
      (ofCatalog : definition ∈ first.catalog.definitions) :
      definition ∈ Achievements.evaluated world db event ↔
        isKnown world original = true ∧ affects original definition = true := by
    rw [Achievements.evaluated, same.isKnown_eq, same.affects_eq,
      underway.ground.catalog]
    by_cases known : isKnown world original = true
    · simp [known, ofCatalog]
    · simp [known]
  have settles {definition : AchievementDefinition}
      (ofCatalog : definition ∈ first.catalog.definitions)
      (affected : definition ∈ Achievements.evaluated world db event) :
      (saveSource middle (finished world event results now)).award
          event.userId definition.pk =
        settled world first event.userId definition := by
    rw [saved.awards, evaluates.awards definition affected]
    exact underway.settled_eq ofCatalog
  have others {definition : AchievementDefinition}
      (ofCatalog : definition ∈ first.catalog.definitions)
      (spared : definition ∉ Achievements.evaluated world db event) :
      (saveSource middle (finished world event results now)).award
          event.userId definition.pk =
        db.award event.userId definition.pk := by
    rw [saved.awards]
    refine evaluates.others event.userId definition.pk ?_
    intro _ other isEvaluated samePk
    have otherOfCatalog : other ∈ first.catalog.definitions := by
      rw [Achievements.evaluated] at isEvaluated
      split at isEvaluated
      · rw [← underway.ground.catalog]
        exact List.mem_of_mem_filter isEvaluated
      · contradiction
    have constraints := underway.honoured.constraints.definitions
    rw [underway.ground.catalog] at constraints
    obtain rfl := Rows.eq_of_key constraints otherOfCatalog ofCatalog samePk
    exact spared isEvaluated
  have finds (pk : Pk) :
      (saveSource middle (finished world event results now)).source? pk =
        (db.source? pk).map fun row =>
          if row.pk = eventId then
            finished world event results now
          else
            row := by
    have samePk := (source?_some found).2
    refine source?_modify (fun _ _ => ?_) ?_ pk
    · rw [finished_pk, samePk]
    · rw [saveSource, finished_pk, samePk, evaluates.sources]
  refine
    { keyed := ?_
      honoured := evaluates.honoured.service (.idle saved)
      ground := underway.ground.trans (evaluates.ground.trans saved.ground)
      versions := ?_
      awards := ?_
      settles := ?_ }
  · have writes : Writes true middle
          (saveSource middle (finished world event results now)) :=
      .elsewhere (Nat.le_refl _) rfl rfl
    exact writes.keyed evaluates.keyed
  · intro pk earliest earliestFound
    obtain ⟨version, versionFound, early⟩ :=
      underway.versions pk earliest earliestFound
    have laterFound := finds pk
    rw [versionFound, Option.map_some] at laterFound
    refine ⟨_, laterFound, early.trans ?_⟩
    split
    · rename_i isEvent
      rw [(source?_some versionFound).2] at isEvent
      subst isEvent
      obtain rfl := Option.some.inj (found.symm.trans versionFound)
      exact finished_same unprocessed world results now
    · exact .refl version
  · intro definition ofCatalog
    by_cases affected : definition ∈ Achievements.evaluated world db event
    · refine .inr ⟨?_, settles ofCatalog affected⟩
      obtain ⟨known, affectsIt⟩ := (isEvaluated ofCatalog).mp affected
      rw [isReached, List.any_eq_true]
      refine ⟨eventId, member, ?_⟩
      simp [originalFound, wasUnprocessed, known, affectsIt]
    · rw [others ofCatalog affected]
      exact underway.awards definition ofCatalog
  · intro pk pkMember row rowFound rowUnprocessed known isProcessed
      definition ofCatalog affectsIt
    by_cases affected : definition ∈ Achievements.evaluated world db event
    · exact settles ofCatalog affected
    · rw [others ofCatalog affected]
      refine underway.settles pk pkMember row rowFound rowUnprocessed known ?_
          definition ofCatalog affectsIt
      have apart : pk ≠ eventId := by
        rintro rfl
        obtain rfl := Option.some.inj (originalFound.symm.trans rowFound)
        exact affected ((isEvaluated ofCatalog).mpr ⟨known, affectsIt⟩)
      obtain ⟨version, versionFound, _⟩ := underway.versions pk row rowFound
      rw [Db.isProcessed, finds, versionFound, Option.map_some,
        if_neg ((source?_some versionFound).2.symm ▸ apart)] at isProcessed
      rw [Db.isProcessed, versionFound]
      exact isProcessed

theorem failed (underway : Underway world first userId eventIds db)
    (eventId : Pk) (failure : Failure) :
    Underway world first userId eventIds (markFailed db eventId failure) :=
  underway.idle (markFailed_keyed underway.keyed eventId failure)
    (markFailed_idle db eventId failure)
    (fun _ _ found => markFailed_source? found)

/-- Processing one of the events keeps the others underway. -/
theorem processing (underway : Underway world first userId eventIds db)
    (published : ∀ eventId ∈ eventIds, ∃ event,
        first.source? eventId = some event ∧ event.userId = userId)
    (about : call.eventId ∈ eventIds) :
    Underway world first userId eventIds (db.processing world now call).1 := by
  cases call with
  | process eventId =>
      simp only [Db.processing]
      cases processed : process db world eventId now with
      | error failure => exact underway.failed eventId failure
      | ok value =>
          obtain ⟨next, results⟩ := value
          obtain ⟨event, found, returned⟩ :=
            process_returned underway.keyed underway.honoured processed
          cases returned with
          | final _ _ same =>
              subst same
              exact underway
          | postponed _ same =>
              subst same
              exact underway
          | evaluated unprocessed middle evaluates same =>
              subst same
              obtain ⟨original, originalFound, ofUser⟩ :=
                published eventId about
              obtain ⟨version, versionFound, isVersion⟩ :=
                underway.versions eventId original originalFound
              obtain rfl := Option.some.inj (found.symm.trans versionFound)
              exact underway.evaluated about
                  (Option.isSome_iff_exists.mpr ⟨_, originalFound⟩) found
                  (isVersion.userId.trans ofUser) unprocessed evaluates
  | raise eventId failure => exact underway.failed eventId failure
  | die eventId => exact underway

theorem run {first last : Db} {calls : List Processing} (keyed : Keyed first)
    (honoured : Honoured first) (published : ∀ eventId ∈ eventIds, ∃ event,
        first.source? eventId = some event ∧ event.userId = userId)
    (run : Run (Db.processing? world now) (IsAbout eventIds) first calls last) :
    Underway world first userId eventIds last := by
  refine run.invariant (Underway world first userId eventIds) ?_
    (.start keyed honoured)
  rintro db call next about stepped underway
  cases stepped
  exact underway.processing published about

theorem award_eq
    {last : Db} (underway : Underway world first userId eventIds last)
    (finished : ∀ eventId ∈ eventIds, last.isProcessed eventId = true)
    (member : definition ∈ first.catalog.definitions) :
    last.award userId definition.pk =
      if isReached world first eventIds definition then
        settled world first userId definition
      else
        first.award userId definition.pk := by
  split
  · rename_i reached
    obtain ⟨eventId, eventMember, reached⟩ := List.any_eq_true.mp reached
    cases found : first.source? eventId with
    | none => simp [found] at reached
    | some event =>
        simp only [found, Option.any_some, Bool.and_eq_true,
          decide_eq_true_eq] at reached
        exact underway.settles eventId eventMember event found reached.1.1
            reached.1.2 (finished eventId eventMember) definition member
            reached.2
  · rename_i unreached
    rcases underway.awards definition member with same | ⟨reached, _⟩
    · exact same
    · exact (unreached reached).elim

end Underway

/-- A call that leaves the awards alone, and one event as it is. -/
structure Untouched (eventId : Pk) (db next : Db) : Prop where
  achievements : next.achievements = db.achievements
  events : next.events = db.events
  operations : next.operations = db.operations
  source : next.source? eventId = db.source? eventId

theorem process_final {eventId : Pk} (found : db.source? eventId = some event)
    (isFinal : event.status = .processed) (world : World) (now : Timestamp) :
    process db world eventId now =
      (lockUser db event.userId).map fun _ => (db, event.result) := by
  unfold process
  rw [found]
  cases locks : lockUser db event.userId with
  | error failure =>
      simp only [required, bind, Except.bind, locks]
      rfl
  | ok _ =>
      simp only [required, bind, Except.bind, locks, if_pos isFinal]
      rfl

theorem markFailed_untouched
    {eventId : Pk} (isProcessed : db.isProcessed eventId = true)
    (failure : Failure) :
    Untouched eventId db (markFailed db eventId failure) := by
  refine ⟨rfl, rfl, rfl, ?_⟩
  cases found : db.source? eventId with
  | none => simp [Db.isProcessed, found] at isProcessed
  | some event =>
      obtain ⟨later, laterFound, same, _⟩ := markFailed_source? found
      rw [Db.isProcessed, found, Option.any_some] at isProcessed
      rw [laterFound, same.final (of_decide_eq_true isProcessed)]

theorem processing_of_isProcessed
    (isProcessed : db.isProcessed call.eventId = true) (world : World)
    (now : Timestamp) :
    Untouched call.eventId db (db.processing world now call).1 := by
  cases call with
  | process eventId =>
      cases found : db.source? eventId with
      | none => simp [Db.isProcessed, Processing.eventId, found] at isProcessed
      | some event =>
          have isFinal := isProcessed
          rw [Processing.eventId, Db.isProcessed, found, Option.any_some]
            at isFinal
          simp only [Db.processing,
            process_final found (of_decide_eq_true isFinal)]
          cases lockUser db event.userId with
          | error failure => exact markFailed_untouched isProcessed failure
          | ok _ => exact ⟨rfl, rfl, rfl, rfl⟩
  | raise eventId failure => exact markFailed_untouched isProcessed failure
  | die eventId => exact ⟨rfl, rfl, rfl, rfl⟩

/-- The tables of the awards are as before, and no event got processed. -/
structure Abandoned (db next : Db) : Prop where
  achievements : next.achievements = db.achievements
  events : next.events = db.events
  operations : next.operations = db.operations
  unprocessed :
    ∀ eventId, db.isProcessed eventId = false → next.isProcessed eventId = false

theorem markFailed_abandoned (db : Db) (eventId : Pk) (failure : Failure) :
    Abandoned db (markFailed db eventId failure) := by
  refine ⟨rfl, rfl, rfl, ?_⟩
  intro pk unprocessed
  have finds := @source?_modify db (markFailed db eventId failure) eventId _
      (fun row same => by
        split
        · exact same
        · exact same)
      rfl pk
  cases found : db.source? pk with
  | none =>
      rw [Db.isProcessed, finds, found]
      rfl
  | some event =>
      obtain ⟨later, laterFound, _, isOld⟩ :=
        @markFailed_source? event db eventId pk failure found
      rw [Db.isProcessed, laterFound, Option.any_some, decide_eq_false_iff_not]
      intro isFinal
      obtain rfl := isOld isFinal
      rw [Db.isProcessed, found, Option.any_some] at unprocessed
      exact of_decide_eq_false unprocessed isFinal

theorem processing_abandoned
    (failed : (db.processing world now call).2 = false) :
    Abandoned db (db.processing world now call).1 := by
  cases call with
  | process eventId =>
      simp only [Db.processing] at failed ⊢
      cases processed : process db world eventId now with
      | error failure => exact markFailed_abandoned db eventId failure
      | ok value =>
          rw [processed] at failed
          contradiction
  | raise eventId failure => exact markFailed_abandoned db eventId failure
  | die eventId => exact ⟨rfl, rfl, rfl, fun _ => id⟩

/--
Calls of `process_source_event` on published events of one user, in any order
and with failures anywhere.  A processed event is answered from what is
stored, a call that fails leaves its event to be retried, and once every
event is processed the awards depend on neither the order nor the number of
the calls.
-/
theorem processing_settles
    (catalog : Catalog) (hasUser : Pk → Bool) (digest : Digested → Digest)
    (boundary : Option Timestamp) (collisionFree : Function.Injective digest)
    (constraints : catalog.Constraints) {earlier : List Call} {first : Db}
    (reached : Run Db.step? anything
        (Db.empty catalog hasUser digest boundary) earlier first)
    (world : World) (now : Timestamp) (userId : Pk) (eventIds : List Pk)
    (published : ∀ eventId ∈ eventIds, ∃ event,
        first.source? eventId = some event ∧ event.userId = userId)
    {calls : List Processing} {last : Db}
    (run : Run (Db.processing? world now) (IsAbout eventIds) first calls last) :
    (∀ call, last.isProcessed call.eventId = true → ∀ other later,
        process last other call.eventId later =
            process last world call.eventId now ∧
          Untouched call.eventId last (last.processing other later call).1) ∧
      (∀ call, (last.processing world now call).2 = false →
        Abandoned last (last.processing world now call).1) ∧
      ((∀ eventId ∈ eventIds, last.isProcessed eventId = true) →
        ∀ definition ∈ first.catalog.definitions,
          last.award userId definition.pk =
            if isReached world first eventIds definition then
              settled world first userId definition
            else
              first.award userId definition.pk) := by
  have keyed : Keyed (Db.empty catalog hasUser digest boundary) :=
    ⟨List.nodup_nil, fun _ member => absurd member List.not_mem_nil⟩
  obtain ⟨firstHonoured, firstKeyed⟩ :=
    (Honoured.empty catalog hasUser digest boundary collisionFree
      constraints).run keyed reached
  have underway := Underway.run firstKeyed firstHonoured published run
  refine ⟨?_, fun _ failed => processing_abandoned failed, ?_⟩
  · intro call isProcessed other later
    refine ⟨?_, processing_of_isProcessed isProcessed other later⟩
    cases found : last.source? call.eventId with
    | none => simp [Db.isProcessed, found] at isProcessed
    | some event =>
        rw [Db.isProcessed, found, Option.any_some] at isProcessed
        have isFinal := of_decide_eq_true isProcessed
        rw [process_final found isFinal, process_final found isFinal]
  · exact fun finished definition member => underway.award_eq finished member

/-- Characters are numbered by their code points. -/
instance countableChar : Countable Char :=
  ⟨Char.toNat, fun _ _ same => Char.toNat_inj.mp same⟩

/-- Texts are lists of characters. -/
instance countableString : Countable String := by
  have injective : Function.Injective String.toList :=
    fun _ _ same => String.toList_inj.mp same
  exact injective.countable

deriving instance Countable for Evidence
deriving instance Countable for SourceId
deriving instance Countable for EvaluationStatus
deriving instance Countable for Level
deriving instance Countable for Evaluation
deriving instance Countable for MetricProblem
deriving instance Countable for Digested

/-- The evaluation that selects the tier of the independent engineers. -/
def independence : Evaluation where
  status := .eligible
  tierCode := some "silver"
  occurredAt := some 1

/-- An engineer who has become independent in the adaptation. -/
def independentWorld (journeyId : Pk) : World where
  metrics := []
  hasJourney := fun journey _ => decide (journey = journeyId)
  atDate := fun date => date.toNat
  evaluate := fun _ definition =>
    if definition.evaluatorKey = "independent_engineer" then
      independence
    else
      { status := .notMet }

/-- The transition to the last stage is published. -/
def publishesTransition : List Call :=
  [.publish .stageTransition "3" 5 { journeyId := some 3 } none 1]

/-- The definition of the independent engineers. -/
def independentEngineer : AchievementDefinition :=
  { pk := 10
    code := "independent_engineer"
    kind := .fixed
    active := true
    applicability := .both
    evaluatorKey := "independent_engineer"
    ruleVersion := 1
    artKey := "independent" }

/-- Some numbering of the hashed values. -/
noncomputable def number : Digested → Nat :=
  (Countable.exists_injective_nat Digested).choose

/-- The numbers of the hashed values, the report of `independence` first. -/
noncomputable def numbered (value : Digested) : Digest :=
  if value = .report independence then 0 else number value + 1

theorem numbered_injective : Function.Injective numbered := by
  intro first second same
  unfold numbered at same
  split at same <;> split at same
  · simp_all
  · contradiction
  · contradiction
  · exact
      (Countable.exists_injective_nat Digested).choose_spec (Nat.succ.inj same)

/-- The seeded catalog with one user, before the transition. -/
noncomputable def Db.numbered : Db :=
  Db.empty Catalog.seedCatalog (fun userId => userId == 5)
    Achievements.numbered none

/-- The transition is published and waits to be processed. -/
noncomputable def Db.transition : Db :=
  after Db.step? Db.numbered publishesTransition

theorem Db.transition_reached :
    Run Db.step? anything Db.numbered publishesTransition
      Db.transition :=
  run_after (fun _ _ _ => trivial) rfl

/--
The adaptation of the transition was replaced by another one: the event is
processed, and what `evaluate` selects is not granted.
-/
theorem processing_settles_vanished :
    ∃ first last : Db, Function.Injective Db.numbered.digest ∧
        Run Db.step? anything Db.numbered publishesTransition first ∧
        Run (Db.processing? (independentWorld 4) 2) (IsAbout [1]) first
          [.process 1] last ∧
        last.isProcessed 1 = true ∧
        (first.source? 1).any
            (fun event => affects event independentEngineer) = true ∧
        independentEngineer ∈ first.catalog.definitions ∧
        (selected? (independentWorld 4) first 5 independentEngineer).isSome =
          true ∧
        first.award 5 independentEngineer.pk = .nothing ∧
        last.award 5 independentEngineer.pk = .nothing := by
  refine ⟨_, _, numbered_injective, Db.transition_reached,
      .single (List.mem_singleton_self 1) rfl, rfl, rfl, ?_, rfl, rfl, rfl⟩
  exact @List.mem_of_getElem? _ _ 9 _ rfl

/-- A failure, a processing and another one. -/
def processesTwice : List Processing :=
  [.raise 1 .integrity, .process 1, .process 1]

theorem processesTwice_isAbout (db : Db) :
    ∀ call ∈ processesTwice, IsAbout [1] db call := by
  intro call member
  have same : call.eventId = 1 := by
    revert call
    decide
  rw [IsAbout, same]
  exact List.mem_singleton_self 1

theorem processing_settles_silver :
    ∃ last : Db, Run (Db.processing? (independentWorld 3) 2) (IsAbout [1])
          Db.transition processesTwice last ∧
        Db.transition.award 5 independentEngineer.pk = .nothing ∧
        last.award 5 independentEngineer.pk =
          settled (independentWorld 3) Db.transition 5 independentEngineer ∧
        (settled (independentWorld 3) Db.transition 5
            independentEngineer).activeTier.map AchievementTier.code =
          some "silver" := by
  have constraints : Catalog.seedCatalog.Constraints := ⟨by decide, by decide⟩
  have run : Run (Db.processing? (independentWorld 3) 2) (IsAbout [1])
        Db.transition processesTwice
        (after (Db.processing? (independentWorld 3) 2) Db.transition
          processesTwice) :=
    run_after processesTwice_isAbout rfl
  have published : ∀ eventId ∈ [1], ∃ event,
        Db.transition.source? eventId = some event ∧ event.userId = 5 := by
    intro eventId member
    rw [List.mem_singleton.mp member]
    exact ⟨_, rfl, rfl⟩
  have finished : ∀ eventId ∈ [1],
        (after (Db.processing? (independentWorld 3) 2) Db.transition
          processesTwice).isProcessed eventId = true := by
    decide +kernel
  have settles :=
    (processing_settles Catalog.seedCatalog (fun userId => userId == 5)
      Achievements.numbered none numbered_injective constraints
      Db.transition_reached (independentWorld 3) 2 5 [1] published
      run).2.2 finished independentEngineer
      (@List.mem_of_getElem? _ _ 9 _ rfl)
  refine ⟨_, run, rfl, settles.trans ?_, by decide +kernel⟩
  exact if_pos (by decide +kernel)

end TicketSandbox.Achievements
