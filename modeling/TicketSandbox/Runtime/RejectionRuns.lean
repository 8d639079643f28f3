import TicketSandbox.Runtime.PublicationRuns

namespace TicketSandbox.Runtime

/-!
# Rejected calls over a run

A rejected observation closes its run as unknown in a second transaction.
That transaction closes only a run of its own operator, under a clock reading
that is not behind, and it leaves a terminal that is already stored.
-/

open Raises
open Runs
open Sandbox (Timestamp)
open Authority

/-- Nothing better than unknown is stored of the run. -/
def LacksResult (row : RuntimeObject) : Prop :=
  ∀ terminal ∈ row.terminal, terminal.result = .unknown
  deriving Decidable

variable {db : Journal} {row : RuntimeObject} {reading : Timestamp}
  {terminal : Terminal}

namespace Authority

variable {authority : Authority}

theorem terminal_closes
    {approval : RuntimeApproval} (reason : String) (now : Timestamp)
    (approved : authority.approval db row.intent.approvalUuid = .ok approval)
    (lacksResult : LacksResult row) :
    ∃ next terminal,
      authority.terminal db row .unknown reason now = .ok (next, terminal) ∧
        terminal.result = .unknown := by
  cases stored : row.terminal with
  | some terminal =>
      exact ⟨db, terminal, by simp [Authority.terminal, stored],
          lacksResult terminal stored⟩
  | none =>
      have updated (phase : ObjectPhase) (cleanup : Cleanup)
          (terminal : Option Terminal) :
          db.update row phase cleanup terminal =
            .ok { db with objects := db.moved row phase cleanup terminal } := by
        simp [Journal.update, stored, ensure, bind, Except.bind, pure,
          Except.pure, Journal.moved]
      simp only [Authority.terminal, stored]
      exact ⟨_, _, bind_ok.mpr
            ⟨approval, approved, bind_ok.mpr ⟨_, updated _ _ _, rfl⟩⟩,
          rfl⟩

variable {runId : Uuid}

theorem unknown_closes
    (reason : String) (found : db.object? .run runId = some row)
    (admitted : authority.admits db .run runId reading = true)
    (lacksResult : LacksResult row) :
    ∃ next terminal,
      authority.unknown db runId reason reading = .ok (next, terminal) ∧
        terminal.result = .unknown := by
  simp only [Authority.admits, Bool.and_eq_true, isOk_iff] at admitted
  obtain ⟨⟨⟨other, approval⟩, isObject⟩, later, isNow⟩ := admitted
  obtain ⟨isRow, approved, sameOperator⟩ := object_ok.mp isObject
  cases found.symm.trans isRow
  obtain ⟨_, _, rfl⟩ := Journal.now_ok.mp isNow
  have isApproval : authority.approval { db with clockHighwater := reading }
        row.intent.approvalUuid = .ok approval := by
    simp only [Authority.approval, bind_ok, Journal.get_ok, require_ok]
    exact ⟨approval, approved, (), sameOperator, rfl⟩
  obtain ⟨next, terminal, closed, isUnknown⟩ :=
    terminal_closes reason reading isApproval lacksResult
  exact ⟨next, terminal,
      bind_ok.mpr ⟨_, isObject, bind_ok.mpr ⟨_, isNow, closed⟩⟩,
      isUnknown⟩

variable {next : Journal} {answer : Terminal}

theorem unknown_stored {reason : String} (sound : Sound db) (returned :
      authority.unknown db runId reason reading = .ok (next, terminal)) :
    ∃ version, next.object? .run runId = some version ∧
        version.terminal = some terminal := by
  have changed : Change none db next .plain := unknown_change returned
  have nextSound := sound.change changed
  simp only [unknown, bind_ok, Journal.now_ok] at returned
  obtain ⟨⟨row, approval⟩, isObject, _, ⟨_, _, rfl⟩, closed⟩ := returned
  obtain ⟨found, _, _⟩ := object_ok.mp isObject
  obtain ⟨member, isKey⟩ := Journal.object?_some found
  rcases terminal_ok closed with ⟨stored, rfl⟩ | ⟨_, _, rfl⟩
  · exact ⟨row, found, stored⟩
  · exact ⟨_, Journal.object?_mem nextSound.keys
          ((Journal.mem_moved member).mpr (.inl rfl)) isKey,
        rfl⟩

theorem publish_answers (found : db.object? .run runId = some row)
    (stored : row.terminal = some terminal)
    (returned : authority.publish db runId reading = .ok (next, answer)) :
    answer = terminal := by
  simp only [publish, bind_ok] at returned
  obtain ⟨⟨other, approval⟩, isObject, branch⟩ := returned
  cases found.symm.trans (object_ok.mp isObject).1
  simp only [stored] at branch
  cases branch
  rfl

theorem unknown_answers
    {reason : String} (found : db.object? .run runId = some row)
    (stored : row.terminal = some terminal) (returned :
      authority.unknown db runId reason reading = .ok (next, answer)) :
    answer = terminal := by
  simp only [unknown, bind_ok] at returned
  obtain ⟨⟨other, approval⟩, isObject, _, _, closed⟩ := returned
  cases found.symm.trans (object_ok.mp isObject).1
  rcases terminal_ok closed with ⟨already, _⟩ | ⟨isOpen, _, _⟩
  · exact Option.some.inj (already.symm.trans stored)
  · cases isOpen.symm.trans stored

end Authority

/-- The run is unknown, and `publish` answers nothing else. -/
structure IsUnknown (db : Journal) (runId : Uuid) : Prop where
  stored : ∃ row terminal,
      db.object? .run runId = some row ∧ row.terminal = some terminal ∧
        terminal.result = .unknown
  published : ∀ authority reading next answer,
      (Authority.publish authority db runId reading = .ok (next, answer) ∨
        ∃ reason, Authority.unknown authority db runId reason reading =
            .ok (next, answer)) →
      answer.result = .unknown

theorem IsUnknown.ofStored
    {runId : Uuid} (found : db.object? .run runId = some row)
    (stored : row.terminal = some terminal)
    (isUnknown : terminal.result = .unknown) :
    IsUnknown db runId where
  stored := ⟨row, terminal, found, stored, isUnknown⟩
  published := by
    rintro authority reading next answer (published | ⟨reason, closed⟩)
    · rw [publish_answers found stored published, isUnknown]
    · rw [unknown_answers found stored closed, isUnknown]

/--
The second transaction of a rejected guarded call on a run without a result,
by the run's operator and with a clock reading that is not behind.
-/
structure FailsClosed (sys : System) (index : Nat) (reading : Timestamp)
    (closing : Closing) : Prop where
  found : sys.closing[index]? = some closing
  guarded : closing.guarded = true
  admitted :
    closing.authority.admits sys.journal .run closing.runId reading = true
  lacksResult : ∀ row ∈ sys.journal.object? .run closing.runId, LacksResult row

namespace System

theorem close_stores
    {sys : System} {index : Nat} {closing : Closing} (sound : Sound sys.journal)
    (failsClosed : FailsClosed sys index reading closing) :
    ∃ next, sys.step? (.close index reading) = some next ∧
        next.log = sys.log ++ [.rejected closing.runId] ∧
        ∃ row terminal, next.journal.object? .run closing.runId = some row ∧
            row.terminal = some terminal ∧ terminal.result = .unknown := by
  have admitted := failsClosed.admitted
  simp only [Authority.admits, Bool.and_eq_true, isOk_iff] at admitted
  obtain ⟨⟨⟨row, approval⟩, isObject⟩, _⟩ := admitted
  have found := (object_ok.mp isObject).1
  obtain ⟨journal, terminal, closed, isUnknown⟩ :=
    unknown_closes closing.reason found failsClosed.admitted
      (failsClosed.lacksResult row found)
  obtain ⟨version, isVersion, stored⟩ := unknown_stored sound closed
  refine
    ⟨_, Option.bind_eq_some_iff.mpr ⟨closing, failsClosed.found, rfl⟩, ?_, ?_⟩
  · simp [close, closed, commit, Except.map, failsClosed.guarded, reject,
      isVersion]
  · refine ⟨version, terminal, ?_, stored, isUnknown⟩
    simp [close, closed, commit, Except.map, failsClosed.guarded, reject,
      isVersion]

/--
Whatever a guarded call was rejected for, once its second transaction fails
closed the run is unknown in every later state.
-/
theorem rejected_unknown
    {live : Bool} {digest : Digested → Digest} {early : List Action}
    {sys : System} {index : Nat} {reading : Timestamp} {closing : Closing}
    (start : Run step? anything (fresh live digest) early sys)
    (failsClosed : FailsClosed sys index reading closing) :
    ∃ next, sys.step? (.close index reading) = some next ∧
        next.log = sys.log ++ [.rejected closing.runId] ∧
        ∀ late last, Run step? anything next late last →
          IsUnknown last.journal closing.runId := by
  have sound := (run_sound (.fresh live digest) start).1
  obtain ⟨next, stepped, log, row, terminal, found, stored, isUnknown⟩ :=
    close_stores sound failsClosed
  refine ⟨next, stepped, log, ?_⟩
  intro late last run
  have rejected : Run step? anything sys [.close index reading] next :=
    .single trivial stepped
  have nextSound := (run_sound sound rejected).1
  obtain ⟨lastSound, persists⟩ := run_sound nextSound run
  obtain ⟨member, isKey⟩ := Journal.object?_some found
  obtain ⟨later, laterMember, persisted⟩ := persists row member
  obtain ⟨sameTerminal, _⟩ := persisted.frozen (by simp [stored])
  exact .ofStored (Journal.object?_mem lastSound.keys laterMember
        (persisted.key.trans isKey))
      (sameTerminal.trans stored) isUnknown

end System

/-- A probe that comes before its runner was started is rejected. -/
def pilotEarlyProbe : List Action :=
  pilotApproved ++ pilotCreated ++ pilotEnrolled ++ pilotReserved ++
    [.guarded pilotAuthority 43 (.recordProbe pilotProbe) 23]

/-- The second transaction of the early probe is still to come. -/
def pilotRejected : System :=
  Runs.after System.step? pilotStart pilotEarlyProbe

/-- The second transaction of the early probe. -/
def pilotClosing : Closing where
  authority := pilotAuthority
  runId := 43
  reason := "execution_identity_or_protocol_unconfirmed"
  guarded := true

theorem rejected_unknown_earlyProbe :
    ∃ next, pilotRejected.step? (.close 0 24) = some next ∧
        next.log = pilotRejected.log ++ [.rejected 43] ∧
        ∀ late last, Run System.step? anything next late last →
          IsUnknown last.journal 43 :=
  System.rejected_unknown (run_after (fun _ _ _ => trivial) (by decide) :
      Run System.step? anything pilotStart pilotEarlyProbe pilotRejected)
    { found := rfl
      guarded := rfl
      admitted := by decide
      lacksResult := by decide : FailsClosed pilotRejected 0 24 pilotClosing }

/-- A probe comes while the clock is behind, and so does its rejection. -/
def pilotRolledBack : List Action :=
  pilotApproved ++ pilotCreated ++ pilotEnrolled ++ pilotReserved ++
    [.guarded pilotAuthority 43 (.recordProbe pilotProbe) 5, .close 0 6] ++
    pilotProbed ++ pilotPublished

/-- A probe that is rejected while the clock is behind leaves the run open: sent
again in time, it is recorded, and the run is published as passed. -/
theorem pilotRolledBack_passed :
    ∃ last : System, Run System.step? anything pilotStart pilotRolledBack last ∧
        .rejected 43 ∈ last.log ∧
        ((last.journal.object? .run 43).bind
            RuntimeObject.terminal).map Terminal.result = some .passed :=
  ⟨Runs.after System.step? pilotStart pilotRolledBack,
    run_after (fun _ _ _ => trivial) (by decide), by decide, by decide⟩

/-- The run of the pilot is checked once more after its publication. -/
def pilotCheckedLate : List Action :=
  [.guarded pilotAuthority 43 (.checkTarget .afterProbe
        (pilotBundle 78 43 .afterProbe
          (some (pilotEndpoint "checker" "10.0.0.3")) (some "checker") 24)
        (some (pilotRunner 94 .running (some 21) 24)))
      27,
    .close 0 28]

/-- A check that is rejected after the publication leaves the result passed. -/
theorem pilotCheckedLate_passed :
    ∃ last : System, Run System.step? anything pilotStart
          (pilotActions ++ pilotCheckedLate) last ∧
        .rejected 43 ∈ last.log ∧
        ((last.journal.object? .run 43).bind
            RuntimeObject.terminal).map Terminal.result = some .passed :=
  ⟨Runs.after System.step? pilotStart (pilotActions ++ pilotCheckedLate),
    run_after (fun _ _ _ => trivial) (by decide), by decide, by decide⟩

end TicketSandbox.Runtime
