import TicketSandbox.Live.Exchanges
import TicketSandbox.Live.Protocol
import TicketSandbox.Runtime.PublicationRuns

namespace TicketSandbox.Live

/-!
# What a probe shows

The packet of a probe depends on the stream only, its line is decoded as it
was reported, and the outcome that is recorded of it says what the peer sent.
-/

open Crlf (Bytes)
open TicketSandbox.Firewall (IsPrivateIp)
open TicketSandbox.Runtime
  (Journal Outcome ProbeResponse RuntimeApproval Transport evaluateResponse
    expectedBody pilotApproval pilotProbe pilotStart probeOutcome
    stripLineFeeds)

/-! ## Outcomes -/

variable {outcome : Outcome} {passes fails : Prop} {target : Target}
  {ip : String}

theorem failed_result
    (isFailed : outcome.result = .failed) (notPasses : ¬ passes)
    (isFails : fails) :
    (outcome.result = .passed ↔ passes) ∧
      (outcome.result = .failed ↔ fails) := by
  rw [isFailed]
  constructor
  · constructor
    · intro isPassed
      cases isPassed
    · intro isPasses
      exact (notPasses isPasses).elim
  · exact ⟨fun _ => isFails, fun _ => rfl⟩

theorem unknown_result
    (isUnknown : outcome.result = .unknown) (notPasses : ¬ passes)
    (notFails : ¬ fails) :
    (outcome.result = .passed ↔ passes) ∧
      (outcome.result = .failed ↔ fails) := by
  rw [isUnknown]
  constructor
  · constructor
    · intro isPassed
      cases isPassed
    · intro isPasses
      exact (notPasses isPasses).elim
  · constructor
    · intro isFailed
      cases isFailed
    · intro isFails
      exact (notFails isFails).elim

/-- What a response is evaluated to. -/
theorem evaluateResponse_result
    (db : Journal) (status : Nat) (body : Bytes) (complete : Bool) :
    ((evaluateResponse db status body complete).result = .passed ↔
        complete = true ∧ body.length ≤ maxBody ∧ status = 200 ∧
          stripLineFeeds body = expectedBody) ∧
      ((evaluateResponse db status body complete).result = .failed ↔
        complete = true ∧ (maxBody < body.length ∨ status ≠ 200 ∨
            stripLineFeeds body ≠ expectedBody)) := by
  rw [evaluateResponse]
  cases complete with
  | false =>
      refine unknown_result rfl ?_ ?_
      · rintro ⟨isComplete, _⟩
        cases isComplete
      · rintro ⟨isComplete, _⟩
        cases isComplete
  | true =>
      rw [if_neg (by decide)]
      by_cases large : 1024 < body.length
      · rw [if_pos large]
        refine failed_result rfl ?_ ⟨rfl, Or.inl large⟩
        rintro ⟨_, small, _⟩
        exact Nat.not_lt_of_le small large
      · rw [if_neg large]
        by_cases redirect : 300 ≤ status ∧ status < 400
        · have other : status ≠ 200 := by
            omega
          rw [if_pos redirect]
          refine failed_result rfl ?_ ⟨rfl, Or.inr (Or.inl other)⟩
          rintro ⟨_, _, isStatus, _⟩
          exact other isStatus
        · rw [if_neg redirect]
          by_cases other : status ≠ 200
          · rw [if_pos other]
            refine failed_result rfl ?_ ⟨rfl, Or.inr (Or.inl other)⟩
            rintro ⟨_, _, isStatus, _⟩
            exact other isStatus
          · rw [if_neg other]
            by_cases differs : stripLineFeeds body ≠ expectedBody
            · rw [if_pos differs]
              refine failed_result rfl ?_ ⟨rfl, Or.inr (Or.inr differs)⟩
              rintro ⟨_, _, _, isBody⟩
              exact differs isBody
            · rw [if_neg differs]
              constructor
              · exact ⟨fun _ => ⟨rfl, Nat.le_of_not_lt large,
                  Decidable.not_not.mp other, Decidable.not_not.mp differs⟩,
                  fun _ => rfl⟩
              · constructor
                · intro isFailed
                  cases isFailed
                · rintro ⟨_, isLarge | isOther | isDifferent⟩
                  · exact (large isLarge).elim
                  · exact (other isOther).elim
                  · exact (differs isDifferent).elim

/-- The outcome that is recorded of a packet. -/
def recorded (db : Journal) (approval : RuntimeApproval) (run : ProbeResponse)
    (data : Packet) (body : Bytes) : Outcome :=
  probeOutcome db approval (probeResponse run data body)

/-- What is recorded of a packet says what the target does. -/
structure Shows (target : Target) (data : Packet) (body : Bytes) : Prop where
  passed : ∀ db approval run,
    (recorded db approval run data body).result = .passed ↔ Passes target
  failed : ∀ db approval run,
    (recorded db approval run data body).result = .failed ↔
      (Refuses target ∧ approval.isLive = true) ∨ Fails target

theorem not_answers
    (silent : ¬ target.Answers) : ¬ Passes target ∧ ¬ Fails target :=
  ⟨fun passes => silent passes.1, fun fails => silent fails.1⟩

theorem shows_silent
    (notRefused : ¬ Refuses target) (notPasses : ¬ Passes target)
    (notFails : ¬ Fails target) (ip : String) {transport : Transport}
    (isSilent : transport = .timeout ∨ transport = .uncertain) :
    Shows target (silent ip transport) [] := by
  have both (db : Journal) (approval : RuntimeApproval) (run : ProbeResponse) :
      ((recorded db approval run (silent ip transport) []).result =
          .passed ↔ Passes target) ∧
        ((recorded db approval run (silent ip transport) []).result = .failed ↔
          (Refuses target ∧ approval.isLive = true) ∨ Fails target) := by
    refine unknown_result ?_ notPasses ?_
    · rcases isSilent with rfl | rfl
      · rfl
      · rfl
    · rintro (⟨isRefused, _⟩ | fails)
      · exact notRefused isRefused
      · exact notFails fails
  exact
    { passed := fun db approval run => (both db approval run).1
      failed := fun db approval run => (both db approval run).2 }

theorem shows_refused (isRefused : Refuses target) (notPasses : ¬ Passes target)
    (notFails : ¬ Fails target) (ip : String) :
    Shows target (silent ip .refused) [] := by
  have both (db : Journal) (approval : RuntimeApproval) (run : ProbeResponse) :
      ((recorded db approval run (silent ip .refused) []).result =
          .passed ↔ Passes target) ∧
        ((recorded db approval run (silent ip .refused) []).result = .failed ↔
          (Refuses target ∧ approval.isLive = true) ∨ Fails target) := by
    cases isLive : approval.isLive with
    | true =>
        refine failed_result ?_ notPasses (Or.inl ⟨isRefused, rfl⟩)
        rw [recorded, probeOutcome, if_pos ⟨rfl, isLive⟩]
        rfl
    | false =>
        refine unknown_result ?_ notPasses ?_
        · rw [recorded, probeOutcome, if_neg]
          · rfl
          · rintro ⟨_, live⟩
            rw [isLive] at live
            cases live
        · rintro (⟨_, live⟩ | fails)
          · cases live
          · exact notFails fails
  exact
    { passed := fun db approval run => (both db approval run).1
      failed := fun db approval run => (both db approval run).2 }

theorem shows_response {response : ResponseHead} (answers : target.Answers)
    (begins : Begins target.peer response) {heard : Bytes × Bool} (isHeard :
      heardBody target.peer response.text.length response.contentLength? =
        .ok heard)
    (ip : String) :
    Shows target (bodyPacket ip response.status heard) heard.1 := by
  have bounds := begins.wellFormed.status_bounds
  have notRefused : ¬ Refuses target := by
    rw [refuses_iff answers ip fun _ => 1, exchange_of_begins begins, isHeard]
    intro isFault
    cases isFault
  have isEvaluated (db : Journal) (approval : RuntimeApproval)
      (run : ProbeResponse) :
      recorded db approval run (bodyPacket ip response.status heard) heard.1 =
        evaluateResponse db response.status heard.1 heard.2 := by
    have notZero : response.status ≠ 0 := by
      omega
    obtain ⟨status, isStatus⟩ := Nat.exists_eq_add_one_of_ne_zero notZero
    rw [recorded, probeOutcome, if_neg (fun refused => nomatch refused.1),
      if_neg (fun other => other rfl), isStatus]
    rfl
  have isOk {body : Bytes} :
      heardBody target.peer response.text.length response.contentLength? =
          .ok (body, true) ↔
        heard = (body, true) := by
    rw [isHeard]
    exact ⟨Except.ok.inj, congrArg Except.ok⟩
  constructor
  · intro db approval run
    rw [isEvaluated, (evaluateResponse_result _ _ _ _).1,
      passes_iff answers begins]
    simp only [isOk]
    constructor
    · rintro ⟨isComplete, passes⟩
      exact ⟨heard.1, Prod.ext rfl isComplete, passes⟩
    · rintro ⟨body, rfl, passes⟩
      exact ⟨rfl, passes⟩
  · intro db approval run
    rw [isEvaluated, (evaluateResponse_result _ _ _ _).2,
      fails_iff answers begins]
    simp only [isOk, notRefused, false_and, false_or]
    constructor
    · rintro ⟨isComplete, fails⟩
      exact ⟨heard.1, Prod.ext rfl isComplete, fails⟩
    · rintro ⟨body, rfl, fails⟩
      exact ⟨rfl, fails⟩

/-! ## Probes -/

theorem shows_fault
    {fault : Fault} (isRefused : Refuses target ↔ fault = .refused)
    (notPasses : ¬ Passes target) (notFails : ¬ Fails target) (ip : String) :
    IsReport ip (faulty ip fault) [] ∧ Shows target (faulty ip fault) [] := by
  cases fault with
  | timeout =>
      exact ⟨.silent .timeout Transport.noConfusion,
        shows_silent (fun refuses => nomatch isRefused.mp refuses) notPasses
          notFails ip (Or.inl rfl)⟩
  | refused =>
      exact ⟨.silent .refused Transport.noConfusion,
        shows_refused (isRefused.mpr rfl) notPasses notFails ip⟩
  | osError =>
      exact ⟨.silent .uncertain Transport.noConfusion,
        shows_silent (fun refuses => nomatch isRefused.mp refuses) notPasses
          notFails ip (Or.inr rfl)⟩

/-- What is reported of a target that answers. -/
theorem answers_shows (answers : target.Answers) (isPrivate : IsPrivateIp ip) :
    ∃ data body, (∀ size, probe ip target size = some data) ∧
        IsReport ip data body ∧ Shows target data body := by
  have refuses := refuses_iff answers ip fun _ => 1
  have sameProbe (size : Nat → Nat) :
      probe ip target size = probe ip target fun _ => 1 := by
    simp only [probe, exchange_size ip target.peer size fun _ => 1]
  cases isExchange : exchange ip target.peer (fun _ => 1) with
  | error fault =>
      obtain ⟨notPasses, notFails⟩ := not_verdict answers isExchange
      rw [isExchange, Except.error.injEq] at refuses
      have isProbe : probe ip target (fun _ => 1) = some (faulty ip fault) := by
        simp only [probe, if_pos isPrivate, answers.1, answers.2, isExchange]
      exact ⟨faulty ip fault, [], fun size => (sameProbe size).trans isProbe,
        shows_fault refuses notPasses notFails ip⟩
  | ok packet =>
      have isProbe : probe ip target (fun _ => 1) = some packet := by
        simp only [probe, if_pos isPrivate, answers.1, answers.2, isExchange]
      by_cases header : ∃ response, Begins target.peer response
      · obtain ⟨response, begins⟩ := header
        rw [exchange_of_begins begins] at isExchange
        cases isHeard : heardBody target.peer response.text.length
            response.contentLength? with
        | error fault =>
            rw [isHeard] at isExchange
            cases isExchange
        | ok heard =>
            rw [isHeard] at isExchange
            cases isExchange
            exact ⟨bodyPacket ip response.status heard, heard.1,
              fun size => (sameProbe size).trans isProbe,
              .response response.status heard.1 heard.2
                begins.wellFormed.status_bounds (heardBody_length isHeard),
              shows_response answers begins isHeard ip⟩
      · have noHeader (response : ResponseHead) :
            ¬ Begins target.peer response :=
          fun begins => header ⟨response, begins⟩
        have isSilent := (exchange_of_not_begins noHeader ip
          fun _ => 1).resolve_left (by
            rintro ⟨fault, isFault⟩
            rw [isFault] at isExchange
            cases isExchange)
        rw [isExchange] at isSilent refuses
        cases isSilent
        refine ⟨silent ip .uncertain, [],
          fun size => (sameProbe size).trans isProbe,
          .silent .uncertain Transport.noConfusion, shows_silent
            (fun isRefused => nomatch refuses.mp isRefused) ?_ ?_ ip
            (Or.inr rfl)⟩
        · rintro ⟨_, response, _, begins, _⟩
          exact noHeader response begins
        · rintro ⟨_, response, begins, _⟩
          exact noHeader response begins

theorem target_shows (isPrivate : IsPrivateIp ip) (target : Target) :
    ∃ data body, (∀ size, probe ip target size = some data) ∧
        IsReport ip data body ∧ Shows target data body := by
  have onFault (fault : Fault) (isRefused : Refuses target ↔ fault = .refused)
      (isSilent : ¬ target.Answers)
      (isProbe : ∀ size, probe ip target size = some (faulty ip fault)) :
      ∃ data body, (∀ size, probe ip target size = some data) ∧
        IsReport ip data body ∧ Shows target data body := by
    obtain ⟨notPasses, notFails⟩ := not_answers isSilent
    exact ⟨faulty ip fault, [], isProbe,
      shows_fault isRefused notPasses notFails ip⟩
  cases isConnect : target.connect with
  | some fault =>
      refine onFault fault ?_ ?_ fun size => ?_
      · simp [Refuses, Target.Answers, isConnect]
      · simp [Target.Answers, isConnect]
      · rw [probe, if_pos isPrivate, isConnect]
  | none =>
      cases isSend : target.sendall with
      | some fault =>
          refine onFault fault ?_ ?_ fun size => ?_
          · simp [Refuses, Target.Answers, isConnect, isSend]
          · simp [Target.Answers, isSend]
          · rw [probe, if_pos isPrivate, isConnect, isSend]
      | none => exact answers_shows ⟨isConnect, isSend⟩ isPrivate

/-- The packet of a probe depends on the stream and its ending only, its line
is decoded as the packet and the body that it carries, and what is recorded of
it says what the target does. -/
theorem probe_shows
    {ip : String} (isPrivate : IsPrivateIp ip) (target : Target) :
    ∃ data body, (∀ size, probe ip target size = some data) ∧
        decode (encode data) ip = .ok (data, body) ∧
        Shows target data body := by
  obtain ⟨data, body, isProbe, isReport, shows⟩ := target_shows isPrivate target
  exact ⟨data, body, isProbe, isReport.decode_encode isPrivate, shows⟩

/-- A stream of bytes and its ending. -/
def Peer.of (bytes : Bytes) (ending : Ending) : Peer where
  byte? := fun position => bytes[position]?
  ending
  closed := by
    intro position isNone
    rw [List.getElem?_eq_none_iff] at isNone ⊢
    exact Nat.le_succ_of_le isNone

/-- A target that serves the expected body. -/
def servingTarget : Target where
  connect := none
  sendall := none
  peer := .of (ascii "HTTP/1.0 200 OK\r\nContent-Length: 36\r\n\r\n" ++
        expectedBody ++ [10])
      .eof

theorem probe_shows_serving :
    ∃ data body, (∀ size, probe "10.0.0.7" servingTarget size = some data) ∧
        decode (encode data) "10.0.0.7" = .ok (data, body) ∧
        Shows servingTarget data body :=
  probe_shows (by decide +kernel) servingTarget

/-- A target that takes the connection, and refuses it while the first byte
is read. -/
def refusingTarget : Target where
  connect := none
  sendall := none
  peer := .of [] .refused

theorem exchange_refusing :
    exchange "10.0.0.7" refusingTarget.peer (fun _ => 1) = .error .refused := by
  decide +kernel

/-- A live run also fails where `recv` is refused after `connect` was not. -/
theorem probe_failed_connected :
    ¬ ∀ (target : Target) (approval : RuntimeApproval) (data : Packet)
        (body : Bytes), probe "10.0.0.7" target (fun _ => 1) = some data →
        decode (encode data) "10.0.0.7" = .ok (data, body) →
        ((recorded pilotStart.journal approval pilotProbe.payload data
            body).result = .failed ↔
          (target.connect = some .refused ∧ approval.isLive = true) ∨
            Fails target) := by
  intro claimed
  have isProbe : probe "10.0.0.7" refusingTarget (fun _ => 1) =
      some (silent "10.0.0.7" .refused) := by
    decide +kernel
  have isReport : IsReport "10.0.0.7" (silent "10.0.0.7" .refused) [] :=
    .silent .refused Transport.noConfusion
  have failed := (claimed refusingTarget
    { pilotApproval with authorityMode := .liveRuntimeV2 } _ [] isProbe
    (isReport.decode_encode (by decide +kernel))).mp rfl
  rcases failed with ⟨isConnect, _⟩ | fails
  · cases isConnect
  · exact (not_verdict ⟨rfl, rfl⟩ exchange_refusing).2 fails

/-- The target passes. -/
example : Passes servingTarget := by
  refine ⟨⟨rfl, rfl⟩,
    ⟨48, 50, 48, 48, ascii " OK", [⟨ascii "Content-Length", ascii " 36"⟩]⟩,
    expectedBody ++ [10], ?_, ?_, ?_, ?_, ?_⟩
  · exact
      { wellFormed :=
          { minor := by decide
            first := by decide
            second := by decide
            third := by decide
            reason := by decide
            count := by decide
            areLines := by
              intro field member
              rw [List.mem_singleton.mp member]
              rfl
            areKeys := by decide
            distinct := by decide
            noTransferEncoding := by decide
            noContentEncoding := by decide
            length := by decide }
        short := by decide
        has := rfl }
  · exact
      { has := rfl
        stated := by decide
        ended := fun unstated => absurd unstated (by decide) }
  · decide
  · decide
  · decide

end TicketSandbox.Live
