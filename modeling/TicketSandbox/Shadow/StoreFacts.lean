import TicketSandbox.Library.Upserts
import TicketSandbox.Shadow.Callers

namespace TicketSandbox.Shadow

/-!
# What the transactions of the shadow store change

Every transaction that commits leaves the runs alone, adds one, or moves one
in one of the ways listed here.
-/

open Raises
open Sandbox (Timestamp)

namespace ShadowRun

/-- The run with a terminal result. -/
def closed
    (row : ShadowRun) (result : ProbeResult) (now : Timestamp) : ShadowRun :=
  { row with
    lifecycle := .terminal
    result := some result
    finishedAt := some now }

/-- The run with nothing left to be resolved. -/
def settled (row : ShadowRun) : ShadowRun :=
  { row with cleanup := .notRequired, unresolved := false }

/-- The run whose issue was requested. -/
def issueRequested (row : ShadowRun) : ShadowRun :=
  { row with
    lifecycle := .issuing
    cleanup := .quarantined
    unresolved := true }

/-- The run that was issued. -/
def issued (row : ShadowRun) : ShadowRun :=
  { row with lifecycle := .issued }

/-- The run whose start was requested. -/
def startRequested (row : ShadowRun) (now : Timestamp) : ShadowRun :=
  { row with
    lifecycle := .running
    startedAt := some now
    observedFrom := some now
    cleanup := .pending
    unresolved := true }

/-- The run whose start may have happened. -/
def quarantined (row : ShadowRun) : ShadowRun :=
  { row with cleanup := .quarantined }

/-- The run with what was observed at its end. -/
def observed (row : ShadowRun) (now : Timestamp)
    (before after : Option RuntimeObservation) : ShadowRun :=
  { row with
    observedUntil := some now
    observedBefore := before
    observedAfter := after }

/-- The run whose cleanup was confirmed. -/
def confirmed (row : ShadowRun) : ShadowRun :=
  { row with cleanup := .confirmed, unresolved := false }

end ShadowRun

/-- The row stands in a table with unique keys. -/
structure IsRow (db : Store) (row : ShadowRun) : Prop where
  unique : (db.runs.map ShadowRun.id).Nodup
  member : row ∈ db.runs

/-- Only the row is rewritten, and the audit keeps its entries. -/
structure Moves (old new : Store) (row after : ShadowRun) : Prop where
  same : after.id = row.id
  runs : new.runs = Rows.put ShadowRun.id after old.runs
  audit : ∀ entry ∈ old.audit, entry ∈ new.audit

variable {db old new : Store} {row after current : ShadowRun} {runId : Uuid}
  {now later : Timestamp} {operatorId : String} {ticket : ExecutionTicket}
  {result : ProbeResult} {passes : Bool} {held : Held}

namespace Moves

theorem stays (isRow : IsRow db row) : Moves db db row row where
  same := rfl
  runs := (Rows.put_self isRow.unique isRow.member).symm
  audit := fun _ member => member

theorem trans {first second third : Store} {middle : ShadowRun}
    (early : Moves first second row middle)
    (late : Moves second third middle after) :
    Moves first third row after where
  same := late.same.trans early.same
  runs := by
    rw [late.runs, early.runs]
    exact Rows.put_put _ late.same
  audit := fun entry member => late.audit entry (early.audit entry member)

theorem isRow (moves : Moves old new row after) (isRow : IsRow old row) :
    IsRow new after where
  unique := by
    rw [moves.runs, Rows.map_put]
    exact isRow.unique
  member := by
    rw [moves.runs]
    exact (Rows.mem_put isRow.member moves.same).mpr (.inl rfl)

end Moves

theorem Store.mem_recordAudit
    {code : AuditCode} {entry : AuditRow} (member : entry ∈ db.audit) :
    entry ∈ (db.recordAudit runId code now).audit := by
  simp only [Store.recordAudit]
  split
  · exact member
  · exact List.mem_append_left _ member

theorem Store.isAudited_recordAudit
    (db : Store) (runId : Uuid) (code : AuditCode) (now : Timestamp) :
    (db.recordAudit runId code now).isAudited runId code = true := by
  simp only [Store.recordAudit]
  split
  · assumption
  · simp [Store.isAudited]

/-- An entry in the audit does not touch the runs. -/
@[simp] theorem Store.runs_recordAudit
    (db : Store) (runId : Uuid) (code : AuditCode) (now : Timestamp) :
    (db.recordAudit runId code now).runs = db.runs := by
  simp only [Store.recordAudit]
  split
  · rfl
  · rfl

theorem Moves.audited (moves : Moves old new row after) (runId : Uuid)
    (code : AuditCode) (now : Timestamp) :
    Moves old (new.recordAudit runId code now) row after where
  same := moves.same
  runs := by
    rw [Store.runs_recordAudit]
    exact moves.runs
  audit := fun entry member => Store.mem_recordAudit (moves.audit entry member)

/-- An update moves the row of its run. -/
theorem IsRow.update {change : ShadowRun → ShadowRun} (isRow : IsRow db row)
    (isId : row.id = runId) (updated : db.update runId change = .ok new) :
    Moves db new row (change row) := by
  subst isId
  simp only [Store.update] at updated
  split at updated
  · rename_i permitted
    cases updated
    have may := permitted row isRow.member rfl
    have same : (change row).id = row.id := by
      simp only [ShadowRun.mayBecome, Bool.and_eq_true, beq_iff_eq] at may
      exact may.1.1.1.1.1.1.1.1.1.1.1
    exact ⟨same, Rows.modify_eq_put isRow.unique isRow.member same,
        fun _ member => member⟩
  · cases updated

namespace Store

theorem require_ok
    {condition : Prop} [Decidable condition] {code : String} {result : Unit} :
    require condition code = .ok result ↔ condition :=
  ensure_ok

theorem row_ok (found : db.row runId operatorId = .ok row) :
    row ∈ db.runs ∧ row.id = runId := by
  have isFound := required_ok.mp found
  have test := List.find?_some isFound
  simp only [Bool.and_eq_true, decide_eq_true_eq] at test
  exact ⟨List.mem_of_find?_eq_some isFound, test.1⟩

/-- A ticket is matched with the row of its run. -/
theorem matched_ok (found : db.matched ticket = .ok row) :
    row ∈ db.runs ∧ row.id = ticket.runUuid := by
  simp only [matched, bind_ok, required_ok, require_ok] at found
  obtain ⟨candidate, isFound, _, _, _, _, result⟩ := found
  cases result
  exact ⟨List.mem_of_find?_eq_some isFound, by
      simpa using List.find?_some isFound⟩

theorem terminal_ok
    {event : AuditCode} {closed : Bool} (isRow : IsRow db current)
    (same : current.id = row.id) (isOpen : row.lifecycle ≠ .terminal)
    (returned : db.terminal row result now event = .ok (new, closed)) :
    Moves db new current (current.closed result now) := by
  simp only [terminal, isOpen, ↓reduceIte, bind_ok] at returned
  obtain ⟨_, _, updated, isUpdated, result⟩ := returned
  cases result
  exact (isRow.update same isUpdated).audited _ _ _

/-- What `_gate` did to a run. -/
inductive Gated (db new : Store) (current : ShadowRun) : Bool → Prop where
  | passed : new = db → Gated db new current true
  | closed (result : ProbeResult) (now : Timestamp) :
      Moves db new current (current.closed result now) →
      Gated db new current false

theorem gate_ok (isRow : IsRow db current) (same : current.id = row.id)
    (isOpen : row.lifecycle ≠ .terminal)
    (returned : db.gate row now = .ok (new, passes)) :
    Gated db new current passes := by
  simp only [gate, isOpen, ↓reduceIte] at returned
  split at returned
  · cases returned
    exact .passed rfl
  · simp only [bind_ok] at returned
    obtain ⟨⟨closed, _⟩, isClosed, result⟩ := returned
    cases result
    exact .closed _ _ (terminal_ok isRow same isOpen isClosed)

theorem gate_closed (isClosed : row.lifecycle = .terminal) :
    db.gate row now = .ok (db, false) := by
  simp [gate, isClosed]
  rfl

end Store

/-- What a transaction means to its caller. -/
inductive Label where
  | plain
  | claimed (call : Call)
  | closed (call : Call)
  | invoked (call : Call) (acknowledged : Bool)
  | confirmed (runId : Uuid)

/-- The ways in which a run moves. -/
inductive RowChange : ShadowRun → Label → ShadowRun → Prop where
  | closed {row : ShadowRun} (result : ProbeResult) (now : Timestamp) :
      row.lifecycle ≠ .terminal →
      RowChange row .plain (row.closed result now)
  | finished {row : ShadowRun} (result : ProbeResult) (now later : Timestamp)
      (before after : Option RuntimeObservation) :
      row.lifecycle = .running →
      RowChange row .plain ((row.observed now before after).closed result later)
  | issueRequested {row : ShadowRun} : row.lifecycle = .reserved →
      RowChange row .plain row.issueRequested
  | issueClosed {row : ShadowRun} (result : ProbeResult) (now : Timestamp) :
      row.lifecycle = .issuing →
      RowChange row (.closed ⟨.issue, row.id⟩) (row.closed result now).settled
  | unanswered {row : ShadowRun} (kind : CallKind) : row.lifecycle ≠ .terminal →
      (kind = .issue → row.lifecycle = .issuing) →
      RowChange row (.invoked ⟨kind, row.id⟩ false) row
  | issueRefused {row : ShadowRun} (result : ProbeResult) (now : Timestamp) :
      row.lifecycle = .issuing →
      RowChange row (.invoked ⟨.issue, row.id⟩ false) (row.closed result now)
  | issueAccepted {row : ShadowRun} : row.lifecycle = .issuing →
      RowChange row (.invoked ⟨.issue, row.id⟩ true) row.settled.issued
  | issueAcceptedLate {row : ShadowRun} (result : ProbeResult)
      (now : Timestamp) :
      row.lifecycle = .issuing →
      RowChange row (.invoked ⟨.issue, row.id⟩ true)
        (row.settled.closed result now)
  | startRequested {row : ShadowRun} (now : Timestamp) :
      row.lifecycle = .issued →
      RowChange row (.claimed ⟨.start, row.id⟩) (row.startRequested now)
  | startClosed {row : ShadowRun} (result : ProbeResult) (now : Timestamp) :
      row.lifecycle ≠ .terminal →
      RowChange row (.closed ⟨.start, row.id⟩) (row.closed result now).settled
  | startClosedLate {row : ShadowRun} : row.lifecycle = .terminal →
      RowChange row (.closed ⟨.start, row.id⟩) row.settled
  | startRefused {row : ShadowRun} (result : ProbeResult) (now : Timestamp) :
      row.lifecycle ≠ .terminal →
      RowChange row (.invoked ⟨.start, row.id⟩ false)
        (row.closed result now).quarantined
  | confirmed {row : ShadowRun} : row.lifecycle = .terminal →
      row.startedAt ≠ none →
      RowChange row (.confirmed row.id) row.confirmed

/-- The ways in which a transaction changes the store. -/
inductive Change (old new : Store) : Label → Prop where
  | quiet (label : Label) : (∀ call, label ≠ .claimed call) →
      (∀ call answer, label ≠ .invoked call answer) →
      new.runs = old.runs →
      (∀ entry ∈ old.audit, entry ∈ new.audit) →
      Change old new label
  | inserted (row : ShadowRun) : (∀ other ∈ old.runs, other.id ≠ row.id) →
      row.lifecycle = .reserved →
      row.startedAt = none →
      new.runs = old.runs ++ [row] →
      (∀ entry ∈ old.audit, entry ∈ new.audit) →
      Change old new .plain
  | intended (runId : Uuid) : old.isAudited runId .issueDispatched = false →
      new.isAudited runId .issueDispatched = true →
      new.runs = old.runs →
      (∀ entry ∈ old.audit, entry ∈ new.audit) →
      Change old new (.claimed ⟨.issue, runId⟩)
  | moved {label : Label} (row after : ShadowRun) : row ∈ old.runs →
      RowChange row label after →
      Moves old new row after →
      Change old new label

namespace Change

theorem refl (db : Store) : Change db db .plain :=
  .quiet .plain (by simp) (by simp) rfl fun _ member => member

theorem ofRuns {middle : Store} (changed : Change old middle .plain)
    (runs : new.runs = middle.runs) (audit : new.audit = middle.audit) :
    Change old new .plain := by
  have kept (entries : ∀ entry ∈ old.audit, entry ∈ middle.audit) :
      ∀ entry ∈ old.audit, entry ∈ new.audit := by
    rw [audit]
    exact entries
  cases changed with
  | quiet label unclaimed uninvoked same entries =>
      exact .quiet .plain unclaimed uninvoked (runs.trans same) (kept entries)
  | inserted row isNew isReserved unstarted shape entries =>
      exact .inserted row isNew isReserved unstarted (runs.trans shape)
          (kept entries)
  | moved row after member how moves =>
      exact .moved row after member how
          ⟨moves.same, runs.trans moves.runs, kept moves.audit⟩

theorem gate
    (isRow : IsRow db row) (gated : db.gate row now = .ok (new, passes)) :
    Change db new .plain := by
  by_cases isClosed : row.lifecycle = .terminal
  · rw [Store.gate_closed isClosed] at gated
    cases gated
    exact refl db
  · cases Store.gate_ok isRow rfl isClosed gated with
    | passed same =>
        rw [same]
        exact refl db
    | closed result now moves =>
        exact .moved row _ isRow.member (.closed result now isClosed) moves

end Change

namespace Store

theorem gate_passed
    (isRow : IsRow db row) (gated : db.gate row now = .ok (new, true)) :
    new = db ∧ row.lifecycle ≠ .terminal := by
  by_cases isClosed : row.lifecycle = .terminal
  · rw [gate_closed isClosed] at gated
    cases gated
  · cases gate_ok isRow rfl isClosed gated with
    | passed same => exact ⟨same, isClosed⟩

theorem setEnabled_change {enabled : Bool}
    (returned : db.setEnabled enabled operatorId now = .ok new) :
    Change db new .plain := by
  simp only [setEnabled, bind_ok] at returned
  obtain ⟨_, _, result⟩ := returned
  cases result
  exact .quiet .plain (by simp) (by simp) rfl fun _ member => member

theorem insertRun_ok (inserted : db.insertRun row = .ok new) :
    (∀ other ∈ db.runs, other.id ≠ row.id) ∧
      new = { db with runs := db.runs ++ [row] } := by
  simp only [insertRun] at inserted
  split at inserted
  · rename_i isNew
    cases inserted
    exact ⟨fun other member => (isNew other member).1, rfl⟩
  · cases inserted

variable {request : OperatorRequest} {enrollment : VerifiedEnrollment}
  {maxParallel : Nat} {newRun newExecution : Uuid}
  {goesOn answer accepted : Bool}

theorem runFor_change {answer : Uuid × Bool} (returned :
      db.runFor request enrollment operatorId now maxParallel newRun
          newExecution =
        .ok (new, answer)) :
    Change db new .plain := by
  simp only [runFor] at returned
  split at returned
  · simp only [bind_ok] at returned
    obtain ⟨_, _, result⟩ := returned
    cases result
    exact .refl db
  · simp only [bind_ok] at returned
    obtain ⟨_, _, inserted, isInserted, result⟩ := returned
    cases result
    obtain ⟨isNew, shape⟩ := insertRun_ok isInserted
    subst shape
    refine .inserted _ isNew rfl rfl ?_ ?_
    · simp only [runs_recordAudit]
    · exact fun entry member => mem_recordAudit member

theorem reserve_change {answer : Uuid × Bool} (returned :
      db.reserve request enrollment operatorId now maxParallel newRun
          newExecution =
        .ok (new, answer)) :
    Change db new .plain := by
  simp only [reserve, bind_ok] at returned
  obtain ⟨_, _, returned⟩ := returned
  split at returned
  · simp only [bind_ok] at returned
    obtain ⟨_, _, result⟩ := returned
    cases result
    exact .refl db
  · simp only [bind_ok] at returned
    obtain ⟨⟨reserved, runId, created⟩, chosen, result⟩ := returned
    cases result
    exact (runFor_change chosen).ofRuns rfl rfl

theorem claimIssue_change {answer : Option ExecutionTicket}
    (unique : (db.runs.map ShadowRun.id).Nodup)
    (returned : db.claimIssue runId operatorId now = .ok (new, answer)) :
    Change db new .plain := by
  simp only [claimIssue, bind_ok] at returned
  obtain ⟨row, isRead, ⟨gated, passes⟩, isGated, returned⟩ := returned
  obtain ⟨member, isId⟩ := row_ok isRead
  have isRow : IsRow db row := ⟨unique, member⟩
  split at returned
  · cases returned
    exact .gate isRow isGated
  · rename_i goesOn
    simp only [not_or, Bool.not_eq_false, not_not] at goesOn
    obtain ⟨rfl, isReserved⟩ := goesOn
    obtain ⟨rfl, _⟩ := gate_passed isRow isGated
    simp only [bind_ok] at returned
    obtain ⟨claimed, isClaimed, _, _, result⟩ := returned
    cases result
    exact .moved row row.issueRequested member (.issueRequested isReserved)
        ((isRow.update isId isClaimed).audited _ _ _)

theorem intendIssue_change
    (returned : db.intendIssue ticket now = .ok (new, goesOn)) :
    Change db new
      (if goesOn then .claimed ⟨.issue, ticket.runUuid⟩ else .plain) := by
  simp only [intendIssue, bind_ok] at returned
  obtain ⟨row, isRead, returned⟩ := returned
  obtain ⟨member, isId⟩ := matched_ok isRead
  split at returned
  · cases returned
    exact .refl db
  · rename_i isFirst
    simp only [not_or, Bool.not_eq_true] at isFirst
    cases returned
    rw [← isId]
    exact .intended row.id isFirst.2 (isAudited_recordAudit _ _ _ _)
        (runs_recordAudit _ _ _ _) fun entry member => mem_recordAudit member

theorem intendStart_change (unique : (db.runs.map ShadowRun.id).Nodup)
    (returned : db.intendStart ticket now = .ok (new, goesOn)) :
    Change db new
      (if goesOn then .claimed ⟨.start, ticket.runUuid⟩ else .plain) := by
  simp only [intendStart, bind_ok] at returned
  obtain ⟨row, isRead, ⟨gated, passes⟩, isGated, returned⟩ := returned
  obtain ⟨member, isId⟩ := matched_ok isRead
  have isRow : IsRow db row := ⟨unique, member⟩
  split at returned
  · cases returned
    exact .gate isRow isGated
  · rename_i passed
    simp only [not_or, Bool.not_eq_false, not_not] at passed
    obtain ⟨rfl, isIssued⟩ := passed
    obtain ⟨rfl, _⟩ := gate_passed isRow isGated
    simp only [bind_ok] at returned
    obtain ⟨started, isStarted, result⟩ := returned
    cases result
    rw [← isId]
    exact
      .moved row (row.startRequested now) member (.startRequested now isIssued)
        ((isRow.update rfl isStarted).audited _ _ _)

theorem finish_change {before after : Option RuntimeObservation}
    (unique : (db.runs.map ShadowRun.id).Nodup)
    (returned : db.finish ticket result now before after = .ok (new, answer)) :
    Change db new .plain := by
  simp only [finish, bind_ok] at returned
  obtain ⟨row, isRead, returned⟩ := returned
  obtain ⟨member, isId⟩ := matched_ok isRead
  have isRow : IsRow db row := ⟨unique, member⟩
  split at returned
  · cases returned
    exact .refl db
  · rename_i isOpen
    simp only [bind_ok, require_ok] at returned
    obtain ⟨_, isRunning, observed, isObserved, ⟨gated, passes⟩, isGated,
      returned⟩ := returned
    have early : Moves db observed row (row.observed now before after) :=
      isRow.update rfl isObserved
    have closes {final : ProbeResult} {closedAt : Timestamp} (late :
          Moves observed new (row.observed now before after)
            ((row.observed now before after).closed final closedAt)) :
        Change db new .plain :=
      .moved row _ member
        (.finished final now closedAt before after isRunning) (early.trans late)
    have isCurrent := early.isRow isRow
    cases Store.gate_ok isCurrent rfl isOpen isGated with
    | closed final closedAt moves =>
        cases returned
        exact closes moves
    | passed same =>
        subst same
        simp only [Bool.true_eq_false, ↓reduceIte] at returned
        exact closes (terminal_ok isCurrent rfl isOpen returned)

theorem confirmCleanup_change (unique : (db.runs.map ShadowRun.id).Nodup)
    (returned : db.confirmCleanup ticket now = .ok new) :
    Change db new (.confirmed ticket.runUuid) := by
  simp only [confirmCleanup, bind_ok, require_ok] at returned
  obtain ⟨row, isRead, _, ⟨isClosed, wasStarted⟩, confirmed, isConfirmed,
    result⟩ := returned
  cases result
  obtain ⟨member, isId⟩ := matched_ok isRead
  have isRow : IsRow db row := ⟨unique, member⟩
  rw [← isId]
  exact .moved row row.confirmed member (.confirmed isClosed wasStarted)
      ((isRow.update rfl isConfirmed).audited _ _ _)

theorem expire_change (unique : (db.runs.map ShadowRun.id).Nodup)
    (returned : db.expire runId operatorId now = .ok new) :
    Change db new .plain := by
  simp only [expire, bind_ok] at returned
  obtain ⟨row, isRead, ⟨gated, passes⟩, isGated, result⟩ := returned
  cases result
  exact .gate ⟨unique, (row_ok isRead).1⟩ isGated

theorem settle_ok
    {gated : Store} (isRow : IsRow db row) (moves : Moves db gated row current)
    (settled : gated.settle row.id = .ok new) :
    Moves db new row current.settled :=
  moves.trans ((moves.isRow isRow).update moves.same settled)

theorem enterIssue_closed (unique : (db.runs.map ShadowRun.id).Nodup)
    (returned : db.enterIssue ticket now = .ok (new, none)) :
    Change db new (.closed ⟨.issue, ticket.runUuid⟩) := by
  simp only [enterIssue, bind_ok] at returned
  obtain ⟨row, isRead, returned⟩ := returned
  obtain ⟨member, isId⟩ := matched_ok isRead
  have isRow : IsRow db row := ⟨unique, member⟩
  rw [← isId]
  split at returned
  · cases returned
    exact .quiet _ (by simp) (by simp) rfl fun _ member => member
  · rename_i isIssuing
    rw [not_not] at isIssuing
    have isOpen : row.lifecycle ≠ .terminal := by simp [isIssuing]
    simp only [bind_ok] at returned
    obtain ⟨⟨gated, passes⟩, isGated, returned⟩ := returned
    cases gate_ok isRow rfl isOpen isGated with
    | passed same => cases returned
    | closed result closedAt moves =>
        simp only [↓reduceIte, bind_ok] at returned
        obtain ⟨settled, isSettled, result⟩ := returned
        cases result
        exact .moved row _ member (.issueClosed _ closedAt isIssuing)
            (settle_ok isRow moves isSettled)

theorem enterIssue_invoked (unique : (db.runs.map ShadowRun.id).Nodup)
    (returned : db.enterIssue ticket now = .ok (new, some row)) :
    new = db ∧ row ∈ db.runs ∧ row.id = ticket.runUuid ∧
      row.lifecycle = .issuing := by
  simp only [enterIssue, bind_ok] at returned
  obtain ⟨read, isRead, returned⟩ := returned
  obtain ⟨member, isId⟩ := matched_ok isRead
  have isRow : IsRow db read := ⟨unique, member⟩
  split at returned
  · cases returned
  · rename_i isIssuing
    rw [not_not] at isIssuing
    simp only [bind_ok] at returned
    obtain ⟨⟨gated, passes⟩, isGated, returned⟩ := returned
    cases passes with
    | false =>
        simp only [↓reduceIte, bind_ok] at returned
        obtain ⟨_, _, result⟩ := returned
        cases result
    | true =>
        cases returned
        exact ⟨(gate_passed isRow isGated).1, member, isId, isIssuing⟩

theorem leaveIssue_change
    (isRow : IsRow db row) (isIssuing : row.lifecycle = .issuing)
    (returned : db.leaveIssue row accepted now later = .ok (new, answer)) :
    Change db new (.invoked ⟨.issue, row.id⟩ accepted) := by
  have isOpen : row.lifecycle ≠ .terminal := by simp [isIssuing]
  cases accepted with
  | false =>
      simp only [leaveIssue, ↓reduceIte, bind_ok] at returned
      obtain ⟨⟨closed, _⟩, isClosed, result⟩ := returned
      cases result
      exact .moved row _ isRow.member (.issueRefused _ now isIssuing)
          (terminal_ok isRow rfl isOpen isClosed)
  | true =>
      simp only [leaveIssue, Bool.true_eq_false, ↓reduceIte,
        bind_ok] at returned
      obtain ⟨settled, isSettled, ⟨gated, passes⟩, isGated, returned⟩ :=
        returned
      have early := settle_ok isRow (.stays isRow) isSettled
      have isCurrent := early.isRow isRow
      cases gate_ok isCurrent rfl isOpen isGated with
      | closed result closedAt moves =>
          cases returned
          exact .moved row _ isRow.member
              (.issueAcceptedLate result closedAt isIssuing)
              (early.trans moves)
      | passed same =>
          subst same
          simp only [Bool.true_eq_false, ↓reduceIte, bind_ok] at returned
          obtain ⟨issued, isIssued, result⟩ := returned
          cases result
          exact .moved row _ isRow.member (.issueAccepted isIssuing)
              ((early.trans (isCurrent.update rfl isIssued)).audited _ _ _)

theorem enterStart_closed (unique : (db.runs.map ShadowRun.id).Nodup)
    (returned : db.enterStart ticket now = .ok (new, none)) :
    Change db new (.closed ⟨.start, ticket.runUuid⟩) := by
  simp only [enterStart, bind_ok] at returned
  obtain ⟨row, isRead, ⟨gated, passes⟩, isGated, returned⟩ := returned
  obtain ⟨member, isId⟩ := matched_ok isRead
  have isRow : IsRow db row := ⟨unique, member⟩
  rw [← isId]
  cases passes with
  | true => cases returned
  | false =>
      simp only [↓reduceIte, bind_ok] at returned
      obtain ⟨settled, isSettled, result⟩ := returned
      cases result
      by_cases isClosed : row.lifecycle = .terminal
      · rw [gate_closed isClosed] at isGated
        cases isGated
        exact .moved row _ member (.startClosedLate isClosed)
            (settle_ok isRow (.stays isRow) isSettled)
      · cases gate_ok isRow rfl isClosed isGated with
        | closed result closedAt moves =>
            exact .moved row _ member (.startClosed result closedAt isClosed)
                (settle_ok isRow moves isSettled)

theorem enterStart_invoked (unique : (db.runs.map ShadowRun.id).Nodup)
    (returned : db.enterStart ticket now = .ok (new, some row)) :
    new = db ∧ row ∈ db.runs ∧ row.id = ticket.runUuid ∧
      row.lifecycle ≠ .terminal := by
  simp only [enterStart, bind_ok] at returned
  obtain ⟨read, isRead, ⟨gated, passes⟩, isGated, returned⟩ := returned
  obtain ⟨member, isId⟩ := matched_ok isRead
  have isRow : IsRow db read := ⟨unique, member⟩
  cases passes with
  | false =>
      simp only [↓reduceIte, bind_ok] at returned
      obtain ⟨_, _, result⟩ := returned
      cases result
  | true =>
      cases returned
      obtain ⟨same, isOpen⟩ := gate_passed isRow isGated
      exact ⟨same, member, isId, isOpen⟩

theorem leaveStart_change
    {returns : Bool} (isRow : IsRow db row) (isOpen : row.lifecycle ≠ .terminal)
    (returned : db.leaveStart row returns now = .ok (new, answer)) :
    Change db new (.invoked ⟨.start, row.id⟩ false) := by
  cases returns with
  | true =>
      cases returned
      exact .moved row row isRow.member (.unanswered .start isOpen (by simp))
          (.stays isRow)
  | false =>
      simp only [leaveStart, Bool.false_eq_true, ↓reduceIte, bind_ok,
        required_ok] at returned
      obtain ⟨current, isFound, ⟨closed, _⟩, isClosed, quarantined,
        isQuarantined, result⟩ := returned
      cases result
      have same : current = row :=
        Rows.eq_of_key isRow.unique (List.mem_of_find?_eq_some isFound)
          isRow.member (by simpa using List.find?_some isFound)
      subst same
      have early := terminal_ok isRow rfl isOpen isClosed
      exact .moved current _ isRow.member (.startRefused _ now isOpen)
          (early.trans ((early.isRow isRow).update early.same isQuarantined))

theorem intend_change (unique : (db.runs.map ShadowRun.id).Nodup)
    (returned : db.intend held.kind held.ticket now = .ok (new, goesOn)) :
    Change db new (if goesOn then .claimed held.call else .plain) := by
  obtain ⟨kind, ticket⟩ := held
  cases kind with
  | issue => exact intendIssue_change returned
  | start => exact intendStart_change unique returned

theorem enter_closed (unique : (db.runs.map ShadowRun.id).Nodup)
    (returned : db.enter held.kind held.ticket now = .ok (new, none)) :
    Change db new (.closed held.call) := by
  obtain ⟨kind, ticket⟩ := held
  cases kind with
  | issue => exact enterIssue_closed unique returned
  | start => exact enterStart_closed unique returned

theorem enter_invoked (unique : (db.runs.map ShadowRun.id).Nodup)
    (returned : db.enter held.kind held.ticket now = .ok (new, some row)) :
    new = db ∧ row ∈ db.runs ∧ row.id = held.ticket.runUuid ∧
      row.lifecycle ≠ .terminal ∧
      (held.kind = .issue → row.lifecycle = .issuing) := by
  obtain ⟨kind, ticket⟩ := held
  cases kind with
  | issue =>
      obtain ⟨same, member, isId, isIssuing⟩ :=
        enterIssue_invoked unique returned
      exact ⟨same, member, isId, by simp [isIssuing], fun _ => isIssuing⟩
  | start =>
      obtain ⟨same, member, isId, isOpen⟩ := enterStart_invoked unique returned
      exact ⟨same, member, isId, isOpen, by simp⟩

theorem leave_change {kind : CallKind} (isRow : IsRow db row)
    (isOpen : row.lifecycle ≠ .terminal)
    (isIssuing : kind = .issue → row.lifecycle = .issuing)
    (returned : db.leave kind row accepted now later = .ok (new, answer)) :
    Change db new
      (.invoked ⟨kind, row.id⟩ (decide (kind = .issue ∧ accepted = true))) := by
  cases kind with
  | issue =>
      have changed := leaveIssue_change isRow (isIssuing rfl) returned
      cases accepted with
      | true => exact changed
      | false => exact changed
  | start => exact leaveStart_change isRow isOpen returned

end Store

/-- What an action does to the store, to the calls and to the log. -/
inductive Step (sys next : System) : Prop where
  | plain : Change sys.store next.store .plain → next.held.Sublist sys.held →
      next.log = sys.log →
      Step sys next
  | claimed (held : Held) : Change sys.store next.store (.claimed held.call) →
      next.held = sys.held ++ [held] →
      next.log = sys.log →
      Step sys next
  | closed (index : Nat) (held : Held) : sys.held[index]? = some held →
      Change sys.store next.store (.closed held.call) →
      next.held = sys.held.eraseIdx index →
      next.log = sys.log →
      Step sys next
  | invoked (index : Nat) (held : Held) (acknowledged : Bool) :
      sys.held[index]? = some held →
      Change sys.store next.store (.invoked held.call acknowledged) →
      next.held = sys.held.eraseIdx index →
      next.log = sys.log ++ .invoked held.call ::
            (if acknowledged then [.acknowledged held.ticket.runUuid]
              else []) →
      Step sys next
  | confirmed (runId : Uuid) : Change sys.store next.store (.confirmed runId) →
      next.held = sys.held →
      next.log = sys.log ++ [.confirmed runId] →
      Step sys next

namespace Step

variable {sys : System}

theorem commit {result : Except Failure Store}
    (changed : ∀ store, result = .ok store → Change sys.store store .plain) :
    Step sys (sys.commit result) := by
  cases result with
  | error failure => exact .plain (.refl _) (List.Sublist.refl _) rfl
  | ok store => exact .plain (changed store rfl) (List.Sublist.refl _) rfl

theorem commitFirst
    {α : Type} {result : Except Failure (Store × α)} (changed : ∀ store answer,
        result = .ok (store, answer) → Change sys.store store .plain) :
    Step sys (sys.commit (result.map Prod.fst)) := by
  refine .commit fun store returned => ?_
  cases result with
  | error failure => cases returned
  | ok pair =>
      cases returned
      exact changed pair.1 pair.2 rfl

theorem invoke {index : Nat} {last : Timestamp} {answer : Answer}
    (unique : (sys.store.runs.map ShadowRun.id).Nodup)
    (isHeld : sys.held[index]? = some held) :
    Step sys (sys.invoke index held now later last answer) := by
  simp only [System.invoke]
  split
  · refine .closed index held isHeld ?_ rfl rfl
    exact .quiet _ (by simp) (by simp) rfl fun _ member => member
  · rename_i store entered
    exact .closed index held isHeld (Store.enter_closed unique entered) rfl rfl
  · rename_i store row entered
    obtain ⟨rfl, member, isId, isOpen, isIssuing⟩ :=
      Store.enter_invoked unique entered
    have isRow : IsRow sys.store row := ⟨unique, member⟩
    have isCall : held.call = ⟨held.kind, row.id⟩ := by
      rw [isId]
      rfl
    have lost : Change sys.store sys.store (.invoked held.call false) := by
      rw [isCall]
      exact .moved row row member (.unanswered held.kind isOpen isIssuing)
          (.stays isRow)
    have answered (accepted : Bool) : Step sys (System.answer
            { sys with
              held := sys.held.eraseIdx index
              log := sys.log ++ [.invoked held.call] }
            sys.store held.call row later last accepted) := by
      simp only [System.answer]
      split
      · rename_i store finished left
        have changed := Store.leave_change isRow isOpen isIssuing left
        rw [← isCall] at changed
        refine .invoked index held _ isHeld changed rfl ?_
        by_cases isAnswered : held.kind = .issue ∧ accepted = true
        · simp [Call.answered, Held.call, isAnswered]
        · simp only [Call.answered, Held.call, isAnswered, ↓reduceIte,
            decide_false, Bool.false_eq_true, List.append_nil]
      · exact .invoked index held false isHeld lost rfl rfl
    cases answer with
    | accepted => exact answered true
    | refused => exact answered false
    | lost => exact .invoked index held false isHeld lost rfl rfl

/-- What a step does to the store. -/
theorem of_step {next : System} {action : Action}
    (unique : (sys.store.runs.map ShadowRun.id).Nodup)
    (stepped : sys.step? action = some next) :
    Step sys next := by
  cases action with
  | setEnabled enabled operatorId now =>
      cases stepped
      exact .commit fun _ returned => Store.setEnabled_change returned
  | reserve request enrollment operatorId now maxParallel newRun newExecution =>
      cases stepped
      exact .commitFirst fun _ _ returned => Store.reserve_change returned
  | claimIssue runId operatorId now =>
      cases stepped
      exact .commitFirst fun _ _ returned =>
          Store.claimIssue_change unique returned
  | intend kind ticket now =>
      cases stepped
      cases returned : sys.store.intend kind ticket now with
      | error failure => exact .plain (.refl _) (List.Sublist.refl _) rfl
      | ok pair =>
          obtain ⟨store, goesOn⟩ := pair
          have changed :=
            @Store.intend_change _ _ _ ⟨kind, ticket⟩ _ unique returned
          cases goesOn with
          | false => exact .plain changed (List.Sublist.refl _) rfl
          | true => exact .claimed ⟨kind, ticket⟩ changed rfl rfl
  | invoke index now later last answer =>
      simp only [System.step?, Option.bind_eq_bind, Option.bind_eq_some_iff]
        at stepped
      obtain ⟨held, isHeld, result⟩ := stepped
      cases result
      exact .invoke unique isHeld
  | finish ticket result now before after =>
      cases stepped
      exact .commitFirst fun _ _ returned => Store.finish_change unique returned
  | confirmCleanup ticket now =>
      cases stepped
      cases returned : sys.store.confirmCleanup ticket now with
      | error failure => exact .plain (.refl _) (List.Sublist.refl _) rfl
      | ok store =>
          exact .confirmed ticket.runUuid
              (Store.confirmCleanup_change unique returned) rfl rfl
  | expire runId operatorId now =>
      cases stepped
      exact .commit fun _ returned => Store.expire_change unique returned
  | crash held =>
      cases held with
      | none =>
          cases stepped
          exact .plain (.refl _) (List.Sublist.refl _) rfl
      | some index =>
          cases stepped
          exact .plain (.refl _) (List.eraseIdx_sublist _ _) rfl

end Step

end TicketSandbox.Shadow
