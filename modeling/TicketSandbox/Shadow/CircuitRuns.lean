import TicketSandbox.Shadow.StoreFacts

namespace TicketSandbox.Shadow

/-!
# The circuit over a run

A call on the backend is dispatched once, by the first transaction of the one
caller that may make it.  As long as it is not known how a call that was made
turned out, its run is unresolved, and no new run is reserved.
-/

open Raises
open Runs
open Sandbox (Timestamp)

namespace Call

/-- The event is the call. -/
def isInvoked (call : Call) (event : Event) : Bool :=
  decide (event = .invoked call)

/-- The caller may make the call. -/
def isHeld (call : Call) (held : Held) : Bool :=
  decide (held.call = call)

/-- The event that tells how the call turned out. -/
def settling (call : Call) : Event :=
  match call.kind with
  | .issue => .acknowledged call.runId
  | .start => .confirmed call.runId

end Call

namespace System

/-- How often the call was made, whether its transaction committed or not. -/
def invocations (sys : System) (call : Call) : Nat :=
  sys.log.countP call.isInvoked

/-- How often the call was made or still may be. -/
def chances (sys : System) (call : Call) : Nat :=
  sys.invocations call + sys.held.countP call.isHeld

/-- The call was possibly made, and it is not known how it turned out. -/
def IsAmbiguous (sys : System) (call : Call) : Prop :=
  .invoked call ∈ sys.log ∧ call.settling ∉ sys.log

end System

/-- The first transaction of the call went through. -/
def IsDispatched (db : Store) (call : Call) : Prop :=
  match call.kind with
  | .issue => db.isAudited call.runId .issueDispatched = true
  | .start => ∃ row ∈ db.runs, row.id = call.runId ∧ row.startedAt ≠ none

/-- The run waits for how a call turned out. -/
def ShadowRun.IsUnsettled (row : ShadowRun) : CallKind → Prop
  | .issue =>
      row.unresolved = true ∧ row.startedAt = none ∧
        row.lifecycle ∈ [.issuing, .terminal]
  | .start => row.unresolved = true ∧ row.lifecycle ∈ [.running, .terminal]

/-- The invariant of the runs. -/
structure Phased (db : Store) : Prop where
  unique : (db.runs.map ShadowRun.id).Nodup
  started : ∀ row ∈ db.runs, row.startedAt ≠ none →
      row.lifecycle ∈ [.running, .terminal]
  pending : ∀ row ∈ db.runs, row.lifecycle ∈ [.issuing, .running] →
      row.unresolved = true

variable {row after : ShadowRun} {label : Label} {old new : Store}
  {call : Call} {sys next : System} {index : Nat} {held : Held} {runId : Uuid}

namespace RowChange

theorem startedAt
    (how : RowChange row label after) (wasStarted : row.startedAt ≠ none) :
    after.startedAt ≠ none := by
  cases how with
  | startRequested now => simp [ShadowRun.startRequested]
  | _ => exact wasStarted

theorem started (how : RowChange row label after)
    (started : row.startedAt ≠ none → row.lifecycle ∈ [.running, .terminal])
    (isStarted : after.startedAt ≠ none) :
    after.lifecycle ∈ [.running, .terminal] := by
  cases how with
  | issueRequested isReserved =>
      have lifecycle := started isStarted
      simp [isReserved] at lifecycle
  | issueAccepted isIssuing =>
      have lifecycle := started isStarted
      simp [isIssuing] at lifecycle
  | unanswered => exact started isStarted
  | startRequested => simp [ShadowRun.startRequested]
  | startClosedLate isClosed => simp [ShadowRun.settled, isClosed]
  | confirmed isClosed => simp [ShadowRun.confirmed, isClosed]
  | _ => simp [ShadowRun.closed, ShadowRun.settled, ShadowRun.quarantined]

theorem pending (how : RowChange row label after)
    (pending : row.lifecycle ∈ [.issuing, .running] → row.unresolved = true)
    (waits : after.lifecycle ∈ [.issuing, .running]) :
    after.unresolved = true := by
  cases how with
  | unanswered => exact pending waits
  | issueRequested | startRequested => rfl
  | issueAccepted => simp [ShadowRun.issued] at waits
  | startClosedLate isClosed => simp [ShadowRun.settled, isClosed] at waits
  | confirmed isClosed => simp [ShadowRun.confirmed, isClosed] at waits
  | _ =>
      simp [ShadowRun.closed, ShadowRun.settled, ShadowRun.quarantined] at waits

theorem result
    (how : RowChange row label after) (isClosed : row.lifecycle = .terminal) :
    after.lifecycle = .terminal ∧ after.result = row.result := by
  cases how with
  | startClosedLate | confirmed => exact ⟨isClosed, rfl⟩
  | closed _ _ isOpen | startClosed _ _ isOpen | startRefused _ _ isOpen
  | unanswered _ isOpen => exact absurd isClosed isOpen
  | finished _ _ _ _ _ before | issueRequested before
  | issueClosed _ _ before | issueRefused _ _ before
  | issueAccepted before | issueAcceptedLate _ _ before
  | startRequested _ before =>
      exact absurd (before.symm.trans isClosed) (by decide)

end RowChange

namespace Phased

theorem fresh (digest : Digested → Digest) : Phased { digest := digest } where
  unique := List.nodup_nil
  started := by simp
  pending := by simp

theorem change
    (phased : Phased old) (changed : Change old new label) : Phased new := by
  have ofSame (runs : new.runs = old.runs) : Phased new :=
    ⟨runs ▸ phased.unique, runs ▸ phased.started, runs ▸ phased.pending⟩
  cases changed with
  | quiet label unclaimed uninvoked runs => exact ofSame runs
  | intended runId before after runs => exact ofSame runs
  | inserted row isNew isReserved unstarted runs =>
      constructor
      · rw [runs]
        exact Rows.nodup_append_new phased.unique isNew
      · intro version member isStarted
        rw [runs] at member
        rcases List.mem_append.mp member with isOld | isAdded
        · exact phased.started version isOld isStarted
        · rw [List.mem_singleton.mp isAdded] at isStarted
          exact absurd unstarted isStarted
      · intro version member waits
        rw [runs] at member
        rcases List.mem_append.mp member with isOld | isAdded
        · exact phased.pending version isOld waits
        · rw [List.mem_singleton.mp isAdded] at waits
          simp [isReserved] at waits
  | moved row after rowMember how moves =>
      have versions :
          ∀ version ∈ new.runs, version = after ∨ version ∈ old.runs := by
        intro version member
        rw [moves.runs] at member
        exact ((Rows.mem_put rowMember moves.same).mp member).imp_right And.left
      constructor
      · rw [moves.runs, Rows.map_put]
        exact phased.unique
      · intro version member
        rcases versions version member with rfl | isOld
        · exact how.started (phased.started row rowMember)
        · exact phased.started version isOld
      · intro version member
        rcases versions version member with rfl | isOld
        · exact how.pending (phased.pending row rowMember)
        · exact phased.pending version isOld

end Phased

namespace Change

theorem kept (changed : Change old new label) (phased : Phased old)
    (member : row ∈ old.runs) :
    row ∈ new.runs ∨
      ∃ after ∈ new.runs, RowChange row label after ∧ after.id = row.id := by
  cases changed with
  | quiet label unclaimed uninvoked runs =>
      rw [runs]
      exact .inl member
  | intended runId before after runs =>
      rw [runs]
      exact .inl member
  | inserted added isNew isReserved unstarted runs =>
      rw [runs]
      exact .inl (List.mem_append_left _ member)
  | moved moving after movingMember how moves =>
      rw [moves.runs]
      by_cases same : row.id = moving.id
      · have isMoving := Rows.eq_of_key phased.unique member movingMember same
        subst isMoving
        exact .inr ⟨after, (Rows.mem_put member moves.same).mpr (.inl rfl), how,
              moves.same⟩
      · refine .inl ((Rows.mem_put movingMember moves.same).mpr ?_)
        exact .inr ⟨member, fun isAfter => same (isAfter.trans moves.same)⟩

theorem dispatched (changed : Change old new label) (phased : Phased old)
    (isDispatched : IsDispatched old call) :
    IsDispatched new call := by
  obtain ⟨kind, runId⟩ := call
  cases kind with
  | issue =>
      have entries : ∀ entry ∈ old.audit, entry ∈ new.audit := by
        cases changed with
        | quiet label unclaimed uninvoked runs entries => exact entries
        | intended runId before after runs entries => exact entries
        | inserted row isNew isReserved unstarted runs entries => exact entries
        | moved row after member how moves => exact moves.audit
      simp only [IsDispatched, Store.isAudited, List.any_eq_true]
        at isDispatched ⊢
      obtain ⟨entry, member, isEntry⟩ := isDispatched
      exact ⟨entry, entries entry member, isEntry⟩
  | start =>
      obtain ⟨row, member, isId, wasStarted⟩ := isDispatched
      rcases changed.kept phased member with
        stays | ⟨after, isAfter, how, same⟩
      · exact ⟨row, stays, isId, wasStarted⟩
      · exact ⟨after, isAfter, same.trans isId, how.startedAt wasStarted⟩

theorem claims
    (changed : Change old new (.claimed call)) (phased : Phased old) :
    ¬ IsDispatched old call ∧ IsDispatched new call := by
  cases changed with
  | quiet label unclaimed => exact absurd rfl (unclaimed call)
  | intended runId before after =>
      refine ⟨?_, after⟩
      simp [IsDispatched, before]
  | moved row after member how moves =>
      cases how with
      | startRequested now isIssued =>
          constructor
          · rintro ⟨other, otherMember, same, wasStarted⟩
            have isRow : other = row :=
              Rows.eq_of_key phased.unique otherMember member same
            subst isRow
            have lifecycle := phased.started other member wasStarted
            simp [isIssued] at lifecycle
          · refine ⟨row.startRequested now, ?_, rfl, ?_⟩
            · rw [moves.runs]
              exact (Rows.mem_put member moves.same).mpr (.inl rfl)
            · simp [ShadowRun.startRequested]

end Change

namespace RowChange

theorem unsettled {kind : CallKind} (how : RowChange row label after)
    (waits : row.IsUnsettled kind)
    (uninvoked : ∀ acknowledged, label ≠ .invoked ⟨kind, row.id⟩ acknowledged)
    (unclosed : label ≠ .closed ⟨kind, row.id⟩)
    (unconfirmed : kind = .start → label ≠ .confirmed row.id)
    (started : label = .closed ⟨.start, row.id⟩ → row.startedAt ≠ none) :
    after.IsUnsettled kind := by
  cases kind with
  | issue =>
      obtain ⟨unresolved, unstarted, lifecycle⟩ := waits
      cases how with
      | closed => exact ⟨unresolved, unstarted, by simp [ShadowRun.closed]⟩
      | unanswered => exact ⟨unresolved, unstarted, lifecycle⟩
      | startRefused =>
          exact ⟨unresolved, unstarted, by
              simp [ShadowRun.closed, ShadowRun.quarantined]⟩
      | finished _ _ _ _ _ before | issueRequested before
      | startRequested _ before => simp [before] at lifecycle
      | issueClosed => exact absurd rfl unclosed
      | issueRefused | issueAccepted | issueAcceptedLate =>
          exact absurd rfl (uninvoked _)
      | startClosed | startClosedLate => exact absurd unstarted (started rfl)
      | confirmed _ wasStarted => exact absurd unstarted wasStarted
  | start =>
      obtain ⟨unresolved, lifecycle⟩ := waits
      cases how with
      | closed => exact ⟨unresolved, by simp [ShadowRun.closed]⟩
      | finished => exact ⟨unresolved, by simp [ShadowRun.closed]⟩
      | unanswered => exact ⟨unresolved, lifecycle⟩
      | startRefused => exact absurd rfl (uninvoked _)
      | startClosed | startClosedLate => exact absurd rfl unclosed
      | confirmed => exact absurd rfl (unconfirmed rfl)
      | issueRequested before | issueClosed _ _ before
      | issueRefused _ _ before | issueAccepted before
      | issueAcceptedLate _ _ before | startRequested _ before =>
          simp [before] at lifecycle

theorem invoked {acknowledged : Bool}
    (how : RowChange row (.invoked call acknowledged) after)
    (phased : Phased old) (member : row ∈ old.runs)
    (isDispatched : IsDispatched old call)
    (unknown : call.kind = .issue → acknowledged = false) :
    call.runId = row.id ∧ after.IsUnsettled call.kind := by
  have issuing (isIssuing : row.lifecycle = .issuing) :
      row.unresolved = true ∧ row.startedAt = none := by
    refine ⟨phased.pending row member (by simp [isIssuing]), ?_⟩
    by_contra wasStarted
    have lifecycle := phased.started row member wasStarted
    simp [isIssuing] at lifecycle
  have running (isStart : call = ⟨.start, row.id⟩)
      (isOpen : row.lifecycle ≠ .terminal) :
      row.unresolved = true ∧ row.lifecycle = .running := by
    subst isStart
    obtain ⟨other, otherMember, same, wasStarted⟩ := isDispatched
    have isRow : other = row :=
      Rows.eq_of_key phased.unique otherMember member same
    subst isRow
    have lifecycle := phased.started other member wasStarted
    simp only [List.mem_cons, isOpen, List.not_mem_nil, or_false] at lifecycle
    exact ⟨phased.pending other member (by simp [lifecycle]), lifecycle⟩
  cases how with
  | unanswered kind isOpen isIssuing =>
      refine ⟨rfl, ?_⟩
      cases kind with
      | issue =>
          obtain ⟨unresolved, unstarted⟩ := issuing (isIssuing rfl)
          exact ⟨unresolved, unstarted, by simp [isIssuing rfl]⟩
      | start =>
          obtain ⟨unresolved, isRunning⟩ := running rfl isOpen
          exact ⟨unresolved, by simp [isRunning]⟩
  | issueRefused result now isIssuing =>
      obtain ⟨unresolved, unstarted⟩ := issuing isIssuing
      exact ⟨rfl, unresolved, unstarted, by simp [ShadowRun.closed]⟩
  | issueAccepted => cases unknown rfl
  | issueAcceptedLate => cases unknown rfl
  | startRefused result now isOpen =>
      obtain ⟨unresolved, isRunning⟩ := running rfl isOpen
      exact ⟨rfl, unresolved, by
          simp [ShadowRun.closed, ShadowRun.quarantined]⟩

end RowChange

/-- The invariant of a run. -/
structure Sound (sys : System) : Prop where
  phased : Phased sys.store
  once : ∀ call, sys.chances call ≤ 1
  dispatched : ∀ call, 0 < sys.chances call → IsDispatched sys.store call
  unsettled : ∀ call, sys.IsAmbiguous call →
      ∃ row ∈ sys.store.runs, row.id = call.runId ∧ row.IsUnsettled call.kind

namespace Sound

theorem fresh (digest : Digested → Digest) : Sound (System.fresh digest) where
  phased := .fresh digest
  once := by
    simp [System.chances, System.invocations, System.fresh]
  dispatched := by
    simp [System.chances, System.invocations, System.fresh]
  unsettled := by
    simp [System.IsAmbiguous, System.fresh]

end Sound

namespace Step

theorem changed (step : Step sys next) :
    ∃ label, Change sys.store next.store label := by
  cases step with
  | plain changed => exact ⟨_, changed⟩
  | claimed held changed => exact ⟨_, changed⟩
  | closed index held isHeld changed => exact ⟨_, changed⟩
  | invoked index held acknowledged isHeld changed => exact ⟨_, changed⟩
  | confirmed runId changed => exact ⟨_, changed⟩

theorem chances (step : Step sys next) (call : Call) :
    next.chances call ≤ sys.chances call ∨
      (Change sys.store next.store (.claimed call) ∧
        next.chances call = sys.chances call + 1) := by
  cases step with
  | plain changed held log =>
      left
      simp only [System.chances, System.invocations, log]
      exact Nat.add_le_add_left held.countP_le _
  | claimed held changed claimed log =>
      by_cases same : held.call = call
      · right
        refine ⟨same ▸ changed, ?_⟩
        simp [System.chances, System.invocations, log, claimed, Call.isHeld,
          same, Nat.add_assoc]
      · left
        simp [System.chances, System.invocations, log, claimed, Call.isHeld,
          same]
  | closed index held isHeld changed claimed log =>
      left
      simp only [System.chances, System.invocations, log, claimed]
      exact
        Nat.add_le_add_left (List.eraseIdx_sublist sys.held index).countP_le _
  | invoked index held acknowledged isHeld changed claimed log =>
      left
      have taken := Rows.countP_eraseIdx call.isHeld isHeld
      have added : next.invocations call =
            sys.invocations call + if call.isHeld held then 1 else 0 := by
        cases acknowledged with
        | true =>
            simp [System.invocations, log, Call.isInvoked, Call.isHeld,
              List.countP_cons]
        | false =>
            simp [System.invocations, log, Call.isInvoked, Call.isHeld,
              List.countP_cons]
      simp only [System.chances, added, taken, claimed]
      omega
  | confirmed runId changed claimed log =>
      left
      simp [System.chances, System.invocations, log, claimed, Call.isInvoked]

theorem log (step : Step sys next) {event : Event} (member : event ∈ sys.log) :
    event ∈ next.log := by
  cases step with
  | plain _ _ log => exact log ▸ member
  | claimed _ _ _ log => exact log ▸ member
  | closed _ _ _ _ _ log => exact log ▸ member
  | invoked _ _ _ _ _ _ log => exact log ▸ List.mem_append_left _ member
  | confirmed _ _ _ log => exact log ▸ List.mem_append_left _ member

end Step

namespace System

theorem chances_of_held (isHeld : sys.held[index]? = some held) :
    sys.invocations held.call < sys.chances held.call := by
  have member := List.mem_of_getElem? isHeld
  have positive : 0 < sys.held.countP held.call.isHeld :=
    List.countP_pos_iff.mpr ⟨held, member, by simp [Call.isHeld]⟩
  exact Nat.lt_add_of_pos_right positive

theorem invocations_pos
    (member : .invoked call ∈ sys.log) : 0 < sys.invocations call :=
  List.countP_pos_iff.mpr ⟨.invoked call, member, by simp [Call.isInvoked]⟩

end System

namespace Sound

theorem not_held (sound : Sound sys) (member : .invoked call ∈ sys.log)
    (isHeld : sys.held[index]? = some held) :
    held.call ≠ call := by
  intro same
  have made := System.invocations_pos member
  have chance := System.chances_of_held isHeld
  have once := sound.once call
  rw [same] at chance
  omega

theorem held_dispatched
    (sound : Sound sys) (isHeld : sys.held[index]? = some held) :
    IsDispatched sys.store held.call :=
  sound.dispatched held.call
    (Nat.lt_of_le_of_lt (Nat.zero_le _) (System.chances_of_held isHeld))

theorem kept (sound : Sound sys) (changed : Change sys.store new label)
    (isAmbiguous : sys.IsAmbiguous call)
    (uninvoked : ∀ acknowledged, label ≠ .invoked call acknowledged)
    (unclosed : label ≠ .closed call)
    (unconfirmed : call.kind = .start → label ≠ .confirmed call.runId)
    (dispatched :
      ∀ other, label = .closed other → IsDispatched sys.store other) :
    ∃ row ∈ new.runs, row.id = call.runId ∧ row.IsUnsettled call.kind := by
  obtain ⟨row, member, isId, waits⟩ := sound.unsettled call isAmbiguous
  obtain ⟨kind, runId⟩ := call
  cases isId
  rcases changed.kept sound.phased member with
    stays | ⟨after, isAfter, how, same⟩
  · exact ⟨row, stays, rfl, waits⟩
  · refine ⟨after, isAfter, same, ?_⟩
    refine how.unsettled waits uninvoked unclosed unconfirmed ?_
    intro isClosed
    obtain ⟨other, otherMember, otherId, wasStarted⟩ := dispatched _ isClosed
    have isRow : other = row :=
      Rows.eq_of_key sound.phased.unique otherMember member otherId
    exact isRow ▸ wasStarted

/-- A call that is ambiguous has a row that is not settled. -/
theorem unsettled_step (sound : Sound sys) (step : Step sys next) (call : Call)
    (isAmbiguous : next.IsAmbiguous call) :
    ∃ row ∈ next.store.runs,
      row.id = call.runId ∧ row.IsUnsettled call.kind := by
  have unsettling : call.settling ∉ sys.log :=
    fun member => isAmbiguous.2 (step.log member)
  cases step with
  | plain changed _ log =>
      refine sound.kept changed ⟨log ▸ isAmbiguous.1, unsettling⟩ ?_ ?_ ?_ ?_
      all_goals simp
  | claimed held changed _ log =>
      refine sound.kept changed ⟨log ▸ isAmbiguous.1, unsettling⟩ ?_ ?_ ?_ ?_
      all_goals simp
  | closed index held isHeld changed _ log =>
      have member : .invoked call ∈ sys.log := log ▸ isAmbiguous.1
      refine sound.kept changed ⟨member, unsettling⟩ (by simp) ?_ (by simp) ?_
      · intro same
        exact sound.not_held member isHeld (Label.closed.inj same)
      · intro other same
        exact Label.closed.inj same ▸ sound.held_dispatched isHeld
  | confirmed runId changed _ log =>
      have member : .invoked call ∈ sys.log := by
        simpa [log] using isAmbiguous.1
      refine sound.kept changed ⟨member, unsettling⟩ (by simp) (by simp) ?_
          (by simp)
      intro isStart same
      apply isAmbiguous.2
      rw [log, Call.settling, isStart, Label.confirmed.inj same]
      exact List.mem_append_right _ (List.mem_singleton.mpr rfl)
  | invoked index held acknowledged isHeld changed _ log =>
      by_cases same : held.call = call
      · subst same
        cases changed with
        | quiet label unclaimed uninvoked =>
            exact absurd rfl (uninvoked held.call acknowledged)
        | moved row after member how moves =>
            have unknown : held.call.kind = .issue → acknowledged = false := by
              intro isIssue
              by_contra isAnswered
              apply isAmbiguous.2
              have isTold :
                  held.call.settling = .acknowledged held.call.runId := by
                rw [Call.settling, isIssue]
              rw [log, isTold, if_pos (by simpa using isAnswered)]
              exact List.mem_append_right _ (by simp [Held.call])
            obtain ⟨isId, waits⟩ :=
              how.invoked sound.phased member (sound.held_dispatched isHeld)
                unknown
            refine ⟨after, ?_, moves.same.trans isId.symm, waits⟩
            rw [moves.runs]
            exact (Rows.mem_put member moves.same).mpr (.inl rfl)
      · have member : .invoked call ∈ sys.log := by
          have later := isAmbiguous.1
          cases acknowledged with
          | true => simpa [log, Ne.symm same] using later
          | false => simpa [log, Ne.symm same] using later
        refine sound.kept changed ⟨member, unsettling⟩ ?_ (by simp) (by simp)
            (by simp)
        intro answer isCall
        exact same (Label.invoked.inj isCall).1

theorem step (sound : Sound sys) (step : Step sys next) :
    Sound next := by
  obtain ⟨label, changed⟩ := step.changed
  have isClaim {call : Call}
      (claims : Change sys.store next.store (.claimed call)) :
      sys.chances call = 0 ∧ IsDispatched next.store call := by
    obtain ⟨before, after⟩ := claims.claims sound.phased
    refine ⟨?_, after⟩
    by_contra some
    exact before (sound.dispatched call (Nat.pos_of_ne_zero some))
  constructor
  · exact sound.phased.change changed
  · intro call
    rcases step.chances call with fewer | ⟨claims, more⟩
    · exact fewer.trans (sound.once call)
    · rw [more, (isClaim claims).1]
  · intro call chance
    rcases step.chances call with fewer | ⟨claims, more⟩
    · exact changed.dispatched sound.phased
          (sound.dispatched call (Nat.lt_of_lt_of_le chance fewer))
    · exact (isClaim claims).2
  · exact sound.unsettled_step step

theorem run {first last : System} {actions : List Action}
    (run : Run System.step? anything first actions last) (sound : Sound first) :
    Sound last :=
  run.invariant Sound (fun _ _ _ _ stepped earlier =>
      earlier.step (.of_step earlier.phased.unique stepped))
    sound

end Sound

/-- The closed run stands in the store with its result. -/
def HasResult
    (runId : Uuid) (result : Option ProbeResult) (sys : System) : Prop :=
  ∃ row ∈ sys.store.runs,
    row.id = runId ∧ row.lifecycle = .terminal ∧ row.result = result

theorem HasResult.step
    {result : Option ProbeResult} (hasResult : HasResult runId result sys)
    (phased : Phased sys.store) (step : Step sys next) :
    HasResult runId result next := by
  obtain ⟨row, member, isId, isClosed, isResult⟩ := hasResult
  obtain ⟨label, changed⟩ := step.changed
  rcases changed.kept phased member with
    stays | ⟨after, isAfter, how, same⟩
  · exact ⟨row, stays, isId, isClosed, isResult⟩
  · obtain ⟨staysClosed, sameResult⟩ := how.result isClosed
    exact
      ⟨after, isAfter, same.trans isId, staysClosed, sameResult.trans isResult⟩

theorem HasResult.run
    {first last : System} {actions : List Action} {result : Option ProbeResult}
    (run : Run System.step? anything first actions last) (sound : Sound first)
    (hasResult : HasResult runId result first) :
    HasResult runId result last := by
  have both := run.invariant (fun sys => Sound sys ∧ HasResult runId result sys)
      (fun _ _ _ _ stepped earlier => by
        have step := Step.of_step earlier.1.phased.unique stepped
        exact ⟨earlier.1.step step, earlier.2.step earlier.1.phased step⟩)
      ⟨sound, hasResult⟩
  exact both.2

namespace Store

/-- The request is valid, and there is no run for it yet. -/
structure IsNewRequest
    (db : Store) (request : OperatorRequest) (enrollment : VerifiedEnrollment)
    (operatorId : String) : Prop where
  valid : request.payload.postInit (db.digest (.policy policy)) = .ok ()
  unknown : db.alias? operatorId request.requestUuid = none
  noRun : db.canonical? (db.canonicalKey request enrollment) = none

/-- The code with which a request is refused while the circuit is open. -/
def refusal
    (db : Store) (request : OperatorRequest) (now : Timestamp) : String :=
  if db.control.enabled = false then
    "feature_disabled"
  else if now < request.payload.deadline ∧
      request.payload.deadline ≤ now + policy.runTimeoutSeconds * second then
    "circuit_open"
  else
    "deadline_invalid"

variable {db : Store} {request : OperatorRequest}
  {enrollment : VerifiedEnrollment}

theorem admitRun_refused (isOpen : db.runs.any ShadowRun.opensCircuit = true)
    (request : OperatorRequest) (enrollment : VerifiedEnrollment)
    (now : Timestamp) (maxParallel : Nat) :
    db.admitRun request enrollment now maxParallel =
      .error (.rejected (db.refusal request now)) := by
  simp only [admitRun, refusal, require, ensure, isOpen]
  cases enabled : db.control.enabled with
  | false => rfl
  | true =>
      by_cases inTime : now < request.payload.deadline ∧
            request.payload.deadline ≤ now + policy.runTimeoutSeconds * second
      · simp only [inTime]
        rfl
      · simp only [inTime]
        rfl

/-- An open circuit refuses every new request. -/
theorem reserve_refused
    (isOpen : db.runs.any ShadowRun.opensCircuit = true) {operatorId : String}
    (isNew : db.IsNewRequest request enrollment operatorId) (now : Timestamp)
    (maxParallel : Nat) (newRun newExecution : Uuid) :
    db.reserve request enrollment operatorId now maxParallel newRun
        newExecution =
      .error (.rejected (db.refusal request now)) := by
  simp only [reserve, isNew.valid, isNew.unknown, runFor, isNew.noRun,
    admitRun_refused isOpen]
  rfl

theorem reserve_uncreated
    (isOpen : db.runs.any ShadowRun.opensCircuit = true) {operatorId : String}
    {now : Timestamp} {maxParallel : Nat} {newRun newExecution : Uuid}
    {created : Bool} (returned :
      db.reserve request enrollment operatorId now maxParallel newRun
          newExecution =
        .ok (new, runId, created)) :
    created = false := by
  simp only [reserve, bind_ok] at returned
  obtain ⟨_, _, returned⟩ := returned
  split at returned
  · simp only [bind_ok] at returned
    obtain ⟨_, _, result⟩ := returned
    cases result
    rfl
  · simp only [bind_ok] at returned
    obtain ⟨_, chosen, result⟩ := returned
    cases result
    simp only [runFor, admitRun_refused isOpen] at chosen
    split at chosen
    · simp only [bind_ok] at chosen
      obtain ⟨_, _, result⟩ := chosen
      cases result
      rfl
    · cases chosen

end Store

theorem Sound.opensCircuit
    (sound : Sound sys) (isAmbiguous : sys.IsAmbiguous call) :
    sys.store.runs.any ShadowRun.opensCircuit = true := by
  obtain ⟨row, member, _, waits⟩ := sound.unsettled call isAmbiguous
  have unresolved : row.unresolved = true := by
    obtain ⟨kind, runId⟩ := call
    cases kind with
    | issue => exact waits.1
    | start => exact waits.1
  exact List.any_eq_true.mpr
      ⟨row, member, by simp [ShadowRun.opensCircuit, unresolved]⟩

/--
On every run of a new store, with crashes anywhere: either call on the backend
is made at most once for a run, a closed run keeps its result, and while it is
not known how a call turned out no new run is created.
-/
theorem System.circuit_sound
    {digest : Digested → Digest} {early late : List Action}
    {middle last : System} (earlyRun :
      Run System.step? anything (System.fresh digest) early middle)
    (lateRun : Run System.step? anything middle late last) :
    (∀ call, last.invocations call ≤ 1) ∧ (∀ runId result,
        HasResult runId result middle → HasResult runId result last) ∧
      ∀ call, last.IsAmbiguous call →
        ∀ request enrollment operatorId now maxParallel newRun newExecution,
          (∀ store runId,
            last.store.reserve request enrollment operatorId now maxParallel
                newRun newExecution ≠
              .ok (store, runId, true)) ∧
            (last.store.IsNewRequest request enrollment operatorId →
              last.store.reserve request enrollment operatorId now
                  maxParallel newRun newExecution =
                .error (.rejected (last.store.refusal request now))) := by
  have middleSound := Sound.run earlyRun (.fresh digest)
  have lastSound := Sound.run lateRun middleSound
  refine ⟨?_, ?_, ?_⟩
  · intro call
    exact (Nat.le_add_right _ _).trans (lastSound.once call)
  · intro runId result hasResult
    exact hasResult.run lateRun middleSound
  · intro call isAmbiguous request enrollment operatorId now maxParallel
      newRun newExecution
    have isOpen := lastSound.opensCircuit isAmbiguous
    constructor
    · intro store runId returned
      have uncreated := Store.reserve_uncreated isOpen returned
      cases uncreated
    · intro isNew
      exact Store.reserve_refused isOpen isNew now maxParallel newRun
        newExecution

/-- A target of the shadow checker. -/
def sampleTarget : TargetIdentity where
  sandboxInstance := "fake-sandbox"
  attemptId := 1
  ownerId := 2
  task := task
  daemonId := "fake-daemon"
  containerId := "c"
  imageId := "sha256:i"
  runtimeBindingUuid := 3
  generation := 4
  startedAt := "2026-01-01T00:00:00Z"
  restartCount := 0
  networkId := "n"
  endpointId := "e"
  ipv4 := "10.0.0.2"
  scope := "offline-scope"

/-- Its enrollment, where every digest is zero. -/
def sampleEnrollment : VerifiedEnrollment where
  enrollmentUuid := 5
  authorityId := "fake-authority"
  fixtureUuid := 6
  target := sampleTarget
  provenance := { reference := "fixture:sample", digest := 0 }
  policyId := policy.policyId
  policyVersion := policy.version
  policyDigest := 0
  operatorId := "operator-one"

/-- A request for a run on the target. -/
def sampleRequest (requestUuid slot : Uuid) : OperatorRequest where
  requestUuid := requestUuid
  payload :=
    { enrollmentUuid := 5
      attemptId := 1
      ownerId := 2
      scope := "offline-scope"
      sampleSlot := slot
      deadline := 6000000
      policyDigest := 0 }

/-- The digest that tells the canonical keys apart by their slots. -/
def sampleDigest : Digested → Digest
  | .canonical _ _ slot _ _ => slot
  | _ => 0

/-- The ticket of the run. -/
def sampleTicket : ExecutionTicket where
  runUuid := 10
  executionUuid := 11
  enrollmentDigest := 0
  policyDigest := 0
  target := sampleTarget

/-- A run is issued, and its caller crashes after it started the run. -/
def sampleStart : List Action :=
  [.setEnabled true "operator-one" 1,
    .reserve (sampleRequest 7 8) sampleEnrollment "operator-one" 1000000 1 10
      11,
    .claimIssue 10 "operator-one" 1000001,
    .intend .issue sampleTicket 1000002,
    .invoke 0 1000003 1000004 1000005 .accepted,
    .intend .start sampleTicket 1000006,
    .invoke 0 1000007 1000008 1000009 .lost]

/-- The system after the crash. -/
def sampleCrashed : System :=
  Runs.after System.step? (System.fresh sampleDigest) sampleStart

theorem System.circuit_sound_crashed :
    ∃ last, Run System.step? anything sampleCrashed
          [.expire 10 "operator-one" 7000000] last ∧
        last.IsAmbiguous ⟨.start, 10⟩ ∧
        last.invocations ⟨.start, 10⟩ = 1 ∧
        (∀ call, last.invocations call ≤ 1) := by
  have earlyRun : Run System.step? anything (System.fresh sampleDigest)
        sampleStart sampleCrashed :=
    run_after (fun _ _ _ => trivial) (by decide)
  have lateRun : Run System.step? anything sampleCrashed
        [.expire 10 "operator-one" 7000000]
        (Runs.after System.step? sampleCrashed
          [.expire 10 "operator-one" 7000000]) :=
    run_after (fun _ _ _ => trivial) (by decide)
  refine ⟨_, lateRun, ⟨by decide, by decide⟩, by decide,
      (System.circuit_sound earlyRun lateRun).1⟩

/-- While the feature is off, a new request is refused for that. -/
theorem sampleDisabled_masked :
    ¬ ∀ (digest : Digested → Digest) (actions : List Action) (sys : System),
      Run System.step? anything (System.fresh digest) actions sys →
      ∀ call, sys.IsAmbiguous call →
        ∀ request enrollment operatorId now maxParallel newRun newExecution,
          sys.store.IsNewRequest request enrollment operatorId →
          sys.store.reserve request enrollment operatorId now maxParallel
              newRun newExecution =
            .error (.rejected "circuit_open") := by
  intro claimed
  have disabled : Run System.step? anything (System.fresh sampleDigest)
        (sampleStart ++ [.setEnabled false "operator-one" 1000010])
        (Runs.after System.step? (System.fresh sampleDigest)
          (sampleStart ++ [.setEnabled false "operator-one" 1000010])) :=
    run_after (fun _ _ _ => trivial) (by decide)
  have isNew : (Runs.after System.step? (System.fresh sampleDigest)
            (sampleStart ++
              [.setEnabled false "operator-one" 1000010])).store.IsNewRequest
          (sampleRequest 9 12) sampleEnrollment "operator-one" :=
    ⟨rfl, by decide, by decide⟩
  have expected :=
    claimed _ _ _ disabled ⟨.start, 10⟩ ⟨by decide, by decide⟩ _ _ _ 1000011 1
      13 14 isNew
  have refused := Store.reserve_refused (by decide) isNew 1000011 1 13 14
  have code :=
    Failure.rejected.inj (Except.error.inj (refused.symm.trans expected))
  exact absurd code (by decide)

end TicketSandbox.Shadow
