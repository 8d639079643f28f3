import TicketSandbox.Live.Responses
import TicketSandbox.Live.Streams
import TicketSandbox.Runtime.Profiles

namespace TicketSandbox.Live

/-!
# What a peer sends

The responses that pass and that fail, and what the runner hears of them: it
depends on the stream and its ending only, not on the pieces.
-/

open Crlf (Bytes IsBlock)
open TicketSandbox.Runtime (expectedBody stripLineFeeds)

/-! ## Verdicts -/

/-- The target takes the connection and the request. -/
def Target.Answers (target : Target) : Prop :=
  target.connect = none ∧ target.sendall = none

/-- The stream begins with the header of a response. -/
structure Begins (peer : Peer) (response : ResponseHead) : Prop where
  wellFormed : response.IsWellFormed
  short : response.text.length ≤ maxHeaders
  has : peer.Has 0 response.text

/-- The body behind a header is complete: it has as many bytes as the header
states, or all bytes up to the end of the stream. -/
structure IsComplete
    (peer : Peer) (response : ResponseHead) (body : Bytes) : Prop where
  has : peer.Has response.text.length body
  stated : ∀ length ∈ response.contentLength?, body.length = length
  ended : response.contentLength? = none →
    peer.byte? (response.text.length + body.length) = none ∧ peer.ending = .eof

/-- The body behind a header has more bytes than are allowed. -/
structure IsOversized (peer : Peer) (response : ResponseHead) : Prop where
  has : ∃ body, body.length = maxBody + 1 ∧ peer.Has response.text.length body
  stated : ∀ length ∈ response.contentLength?, maxBody < length

/-- The response that the policy asks for. -/
def Passes (target : Target) : Prop :=
  target.Answers ∧ ∃ response body,
      Begins target.peer response ∧ IsComplete target.peer response body ∧
        body.length ≤ maxBody ∧ response.status = 200 ∧
        stripLineFeeds body = expectedBody

/-- Another response, or one with too many bytes. -/
def Fails (target : Target) : Prop :=
  target.Answers ∧ ∃ response, Begins target.peer response ∧ ((∃ body,
            IsComplete target.peer response body ∧
              (response.status ≠ 200 ∨ stripLineFeeds body ≠ expectedBody)) ∨
          IsOversized target.peer response)

/-- The stream ends where the runner still reads: before a header is complete,
or behind a header before its body is. -/
def EndsEarly (peer : Peer) : Prop :=
  (∃ raw, EndsWithin peer maxHeaders raw) ∨
    ∃ response body, Begins peer response ∧ peer.Has response.text.length body ∧
      peer.byte? (response.text.length + body.length) = none ∧
      body.length ≤ maxBody ∧
      ∀ length ∈ response.contentLength?, body.length < length

/-- The connection is refused, by `connect`, by `sendall` or by the `recv`
that the stream ends early at. -/
def Refuses (target : Target) : Prop :=
  target.connect = some .refused ∨
    (target.connect = none ∧ target.sendall = some .refused) ∨
    (target.Answers ∧ target.peer.ending = .refused ∧ EndsEarly target.peer)

/-! ## Bodies -/

variable {peer : Peer} {response : ResponseHead} {target : Target}

/-- A complete body within the limit, or one byte more than the limit, is
heard as complete. -/
theorem heardBody_complete {body : Bytes} :
    heardBody peer response.text.length response.contentLength? =
        .ok (body, true) ↔
      (body.length ≤ maxBody ∧ IsComplete peer response body) ∨
        (body.length = maxBody + 1 ∧ peer.Has response.text.length body ∧
          ∀ length ∈ response.contentLength?, maxBody < length) := by
  cases isStated : response.contentLength? with
  | none =>
      constructor
      · intro isHeard
        rw [heardBody, bodyLimit] at isHeard
        have has := peer.has_read (maxBody + 1) response.text.length
        have bound := peer.length_read_le (maxBody + 1) response.text.length
        split at isHeard
        · rename_i full
          cases isHeard
          refine Or.inr ⟨full, has, ?_⟩
          intro length member
          cases member
        · rename_i notFull
          have short : (peer.read (maxBody + 1) response.text.length).length <
                maxBody + 1 :=
            Nat.lt_of_le_of_ne bound notFull
          obtain ⟨isEnding, same⟩ := Ending.map_heard.mp isHeard
          cases same
          refine Or.inl ⟨Nat.le_of_lt_succ short, has, ?_, ?_⟩
          · intro length member
            rw [isStated] at member
            cases member
          · intro _
            exact ⟨Peer.read_short short, isEnding⟩
      · rw [heardBody, bodyLimit]
        rintro (⟨isShort, isComplete⟩ | ⟨full, has, _⟩)
        · have ended := isComplete.ended isStated
          have parts := isComplete.has.read_add (maxBody + 1 - body.length)
          rw [Nat.add_sub_cancel' (Nat.le_succ_of_le isShort),
            Peer.read_end ended.1, List.append_nil] at parts
          rw [parts, if_neg (Nat.ne_of_lt (Nat.lt_succ_of_le isShort)), ended.2]
          rfl
        · have read : peer.read (maxBody + 1) response.text.length = body := by
            rw [← full]
            exact has
          rw [read, if_pos full]
  | some length =>
      constructor
      · intro isHeard
        rw [heardBody, bodyLimit] at isHeard
        have has :=
          peer.has_read (min length (maxBody + 1)) response.text.length
        split at isHeard
        · rename_i full
          cases isHeard
          by_cases small : length ≤ maxBody
          · have isLength : min length (maxBody + 1) = length :=
              Nat.min_eq_left (Nat.le_succ_of_le small)
            rw [isLength] at full has ⊢
            refine Or.inl ⟨?_, has, ?_, ?_⟩
            · rw [full]
              exact small
            · intro other member
              rw [isStated] at member
              rw [full]
              exact Option.some.inj member
            · intro isNone
              rw [isStated] at isNone
              cases isNone
          · have large := Nat.lt_of_not_le small
            rw [Nat.min_eq_right large] at full has ⊢
            refine Or.inr ⟨full, has, ?_⟩
            intro other member
            rw [← Option.some.inj member]
            exact large
        · cases (Ending.map_heard.mp isHeard).2
      · rw [heardBody, bodyLimit]
        rintro (⟨isShort, isComplete⟩ | ⟨full, has, isLarge⟩)
        · have isLength := isComplete.stated length isStated
          have read :
              peer.read (min length (maxBody + 1)) response.text.length =
                body := by
            rw [← isLength, Nat.min_eq_left (Nat.le_succ_of_le isShort)]
            exact isComplete.has
          rw [read, isLength, if_pos (Nat.min_eq_left
              (isLength ▸ Nat.le_succ_of_le isShort)).symm]
        · have isLimit : min length (maxBody + 1) = maxBody + 1 :=
            Nat.min_eq_right (isLarge length rfl)
          have read : peer.read (maxBody + 1) response.text.length = body := by
            rw [← full]
            exact has
          rw [isLimit, read, if_pos full]

variable {expected : Option Nat}

theorem heardBody_length {start : Nat} {heard : Bytes × Bool}
    (isHeard : heardBody peer start expected = .ok heard) :
    heard.1.length ≤ maxBody + 1 := by
  have limit : bodyLimit expected ≤ maxBody + 1 := by
    cases expected with
    | none => exact Nat.le_refl _
    | some expected => exact Nat.min_le_right _ _
  have bound :=
    Nat.le_trans (peer.length_read_le (bodyLimit expected) start) limit
  rw [heardBody] at isHeard
  split at isHeard
  · cases isHeard
    exact bound
  · rw [← (Ending.map_heard.mp isHeard).2]
    exact bound

/-! ## Exchanges -/

theorem readBody_start
    (peer : Peer) (size : Nat → Nat) (start : Nat) (expected : Option Nat) :
    readBody peer size start expected (maxBody + 2) [] =
      heardBody peer start expected := by
  refine readBody_eq size rfl (Nat.zero_le _) ?_
  cases expected with
  | none => exact Nat.lt_succ_self _
  | some expected => exact Nat.lt_succ_of_le (Nat.min_le_right _ _)

theorem exchange_size (ip : String) (peer : Peer) (size other : Nat → Nat) :
    exchange ip peer size = exchange ip peer other := by
  rw [exchange, exchange, readHead_size peer size other]
  simp only [readBody_start]

theorem exchange_of_begins
    (begins : Begins peer response) (ip : String) (size : Nat → Nat) :
    exchange ip peer size =
      (heardBody peer response.text.length response.contentLength?).map
        (bodyPacket ip response.status) := by
  have isRead : readHead peer size maxHeaders [] = .ok (some response.text) :=
    readHead_complete begins.wellFormed.isBlock begins.has size
      List.nil_prefix begins.short
  rw [exchange, isRead]
  simp only [begins.wellFormed.head?_text, readBody_start]

theorem heardBody_fault {start : Nat} {fault : Fault} :
    heardBody peer start expected = .error fault ↔
      peer.ending.heard = .error fault ∧ ∃ body, peer.Has start body ∧
        peer.byte? (start + body.length) = none ∧
        body.length < bodyLimit expected := by
  rw [heardBody]
  constructor
  · intro isHeard
    split at isHeard
    · cases isHeard
    · rename_i notFull
      have short := Nat.lt_of_le_of_ne (peer.length_read_le _ _) notFull
      exact ⟨Ending.map_heard_error.mp isHeard, _, peer.has_read _ _,
        Peer.read_short short, short⟩
  · rintro ⟨isFault, body, has, ended, short⟩
    have parts := has.read_add (bodyLimit expected - body.length)
    rw [Nat.add_sub_cancel' (Nat.le_of_lt short), Peer.read_end ended,
      List.append_nil] at parts
    rw [parts, if_neg (Nat.ne_of_lt short)]
    exact Ending.map_heard_error.mpr isFault

theorem lt_bodyLimit_iff {length : Nat} :
    length < bodyLimit expected ↔
      length ≤ maxBody ∧ ∀ stated ∈ expected, length < stated := by
  cases expected with
  | none =>
      exact ⟨fun short => ⟨Nat.le_of_lt_succ short, fun _ member =>
        (Option.not_mem_none _ member).elim⟩,
        fun short => Nat.lt_succ_of_le short.1⟩
  | some expected =>
      simp only [bodyLimit, Nat.lt_min, Nat.lt_succ_iff, Option.mem_some_iff,
        forall_eq']
      exact And.comm

/-- What is raised of an exchange is raised where the stream ends early. -/
theorem exchange_fault (ip : String) (size : Nat → Nat) {fault : Fault} :
    exchange ip peer size = .error fault ↔
      peer.ending.heard = .error fault ∧ EndsEarly peer := by
  constructor
  · intro isFault
    rw [exchange] at isFault
    cases isRead : readHead peer size maxHeaders [] with
    | error other =>
        rw [isRead] at isFault
        cases isFault
        obtain ⟨isEnding, whole, ends⟩ := readHead_fault isRead rfl
        exact ⟨isEnding, Or.inl ⟨whole, ends⟩⟩
    | ok found =>
        rw [isRead] at isFault
        cases found with
        | none => cases isFault
        | some raw =>
            obtain ⟨isBlock, has, isShort⟩ :=
              readHead_sound isRead fresh_nil rfl
            cases isHead : head? raw with
            | none =>
                simp only [isHead] at isFault
                cases isFault
            | some head =>
                obtain ⟨response, wellFormed, rfl, _⟩ :=
                  exists_response isBlock isHead
                have begins : Begins peer response := ⟨wellFormed, isShort, has⟩
                have isExchange := exchange_of_begins begins ip size
                rw [exchange, isRead, isFault] at isExchange
                cases isHeard : heardBody peer response.text.length
                    response.contentLength? with
                | ok heard =>
                    rw [isHeard] at isExchange
                    cases isExchange
                | error other =>
                    rw [isHeard] at isExchange
                    cases isExchange
                    obtain ⟨isEnding, body, has, ended, short⟩ :=
                      heardBody_fault.mp isHeard
                    exact ⟨isEnding, Or.inr ⟨response, body, begins, has,
                      ended, lt_bodyLimit_iff.mp short⟩⟩
  · rintro ⟨isEnding, ⟨raw, ends⟩ | ⟨response, body, begins, has, ended, short⟩⟩
    · have isRead : readHead peer size maxHeaders [] = .error fault :=
        readHead_ended ends List.nil_prefix isEnding
      rw [exchange, isRead]
    · have isHeard := heardBody_fault.mpr
        ⟨isEnding, body, has, ended, lt_bodyLimit_iff.mpr short⟩
      rw [exchange_of_begins begins, isHeard]
      rfl

theorem refuses_iff
    (answers : target.Answers) (ip : String) (size : Nat → Nat) :
    Refuses target ↔ exchange ip target.peer size = .error .refused := by
  have isRefused : target.peer.ending.heard = .error .refused ↔
      target.peer.ending = .refused := by
    cases target.peer.ending <;> simp [Ending.heard]
  rw [exchange_fault, isRefused, Refuses, answers.1, answers.2]
  constructor
  · rintro (isNone | ⟨_, isNone⟩ | ⟨_, ends⟩)
    · cases isNone
    · cases isNone
    · exact ends
  · exact fun ends => Or.inr (Or.inr ⟨answers, ends⟩)

theorem exchange_of_not_begins (noHeader : ∀ response, ¬ Begins peer response)
    (ip : String) (size : Nat → Nat) :
    (∃ fault, exchange ip peer size = .error fault) ∨
      exchange ip peer size = .ok (silent ip .uncertain) := by
  rw [exchange]
  cases isRead : readHead peer size maxHeaders [] with
  | error fault => exact Or.inl ⟨fault, rfl⟩
  | ok found =>
      cases found with
      | none => exact Or.inr rfl
      | some raw =>
          obtain ⟨isBlock, has, isShort⟩ := readHead_sound isRead fresh_nil rfl
          cases isHead : head? raw with
          | none =>
              refine Or.inr ?_
              simp only [isHead]
          | some head =>
              obtain ⟨response, wellFormed, rfl, _⟩ :=
                exists_response isBlock isHead
              exact (noHeader response ⟨wellFormed, isShort, has⟩).elim

/-! ## Streams that begin with a header -/

theorem Begins.unique {other : ResponseHead} (begins : Begins peer response)
    (alsoBegins : Begins peer other) :
    other.text = response.text ∧ other.status = response.status ∧
      other.contentLength? = response.contentLength? := by
  have isBlock := begins.wellFormed.isBlock
  have otherBlock := alsoBegins.wellFormed.isBlock
  have same : other.text = response.text := by
    rcases Nat.le_total other.text.length response.text.length with
      shorter | shorter
    · exact otherBlock.unique isBlock
        (alsoBegins.has.isPrefix begins.has shorter) List.prefix_rfl
    · exact otherBlock.unique isBlock List.prefix_rfl
        (begins.has.isPrefix alsoBegins.has shorter)
  have heads := alsoBegins.wellFormed.head?_text
  rw [same, begins.wellFormed.head?_text] at heads
  have sameHead := Head.mk.inj (Option.some.inj heads)
  exact ⟨same, sameHead.1.symm, sameHead.2.symm⟩

theorem IsComplete.oversized
    {body : Bytes} (isComplete : IsComplete peer response body)
    (large : maxBody < body.length) :
    IsOversized peer response where
  has := by
    refine ⟨body.take (maxBody + 1), ?_, ?_⟩
    · exact List.length_take_of_le large
    · have has := isComplete.has
      rw [← List.take_append_drop (maxBody + 1) body] at has
      exact (Peer.has_append.mp has).1
  stated := by
    intro length member
    rw [← isComplete.stated length member]
    exact large

theorem passes_iff
    (answers : target.Answers) (begins : Begins target.peer response) :
    Passes target ↔ ∃ body,
        heardBody target.peer response.text.length response.contentLength? =
          .ok (body, true) ∧
          body.length ≤ maxBody ∧ response.status = 200 ∧
            stripLineFeeds body = expectedBody := by
  constructor
  · rintro ⟨_, other, body, alsoBegins, isComplete, isShort, isStatus, isBody⟩
    obtain ⟨sameText, sameStatus, sameLength⟩ := begins.unique alsoBegins
    have isHeard := heardBody_complete.mpr (Or.inl ⟨isShort, isComplete⟩)
    rw [sameText, sameLength] at isHeard
    exact ⟨body, isHeard, isShort, sameStatus ▸ isStatus, isBody⟩
  · rintro ⟨body, isHeard, isShort, isStatus, isBody⟩
    rcases heardBody_complete.mp isHeard with
      ⟨_, isComplete⟩ | ⟨large, _⟩
    · exact ⟨answers, response, body, begins, isComplete, isShort, isStatus,
        isBody⟩
    · omega

theorem fails_iff
    (answers : target.Answers) (begins : Begins target.peer response) :
    Fails target ↔ ∃ body,
        heardBody target.peer response.text.length response.contentLength? =
          .ok (body, true) ∧
          (maxBody < body.length ∨ response.status ≠ 200 ∨
            stripLineFeeds body ≠ expectedBody) := by
  have ofOversized {other : ResponseHead}
      (alsoBegins : Begins target.peer other)
      (isOversized : IsOversized target.peer other) :
      ∃ body,
        heardBody target.peer response.text.length response.contentLength? =
          .ok (body, true) ∧
          (maxBody < body.length ∨ response.status ≠ 200 ∨
            stripLineFeeds body ≠ expectedBody) := by
    obtain ⟨sameText, _, sameLength⟩ := begins.unique alsoBegins
    obtain ⟨body, full, has⟩ := isOversized.has
    have isHeard :=
      heardBody_complete.mpr (Or.inr ⟨full, has, isOversized.stated⟩)
    rw [sameText, sameLength] at isHeard
    exact ⟨body, isHeard, Or.inl (by omega)⟩
  constructor
  · rintro ⟨_, other, alsoBegins, ⟨body, isComplete, differs⟩ | isOversized⟩
    · by_cases large : maxBody < body.length
      · exact ofOversized alsoBegins (isComplete.oversized large)
      · obtain ⟨sameText, sameStatus, sameLength⟩ := begins.unique alsoBegins
        have isHeard :=
          heardBody_complete.mpr (Or.inl ⟨Nat.le_of_not_lt large, isComplete⟩)
        rw [sameText, sameLength] at isHeard
        exact ⟨body, isHeard, Or.inr (sameStatus ▸ differs)⟩
    · exact ofOversized alsoBegins isOversized
  · rintro ⟨body, isHeard, differs⟩
    refine ⟨answers, response, begins, ?_⟩
    rcases heardBody_complete.mp isHeard with
      ⟨isShort, isComplete⟩ | ⟨full, has, isLarge⟩
    · refine Or.inl ⟨body, isComplete, ?_⟩
      exact differs.resolve_left (Nat.not_lt_of_le isShort)
    · exact Or.inr ⟨⟨body, full, has⟩, isLarge⟩

theorem not_verdict
    (answers : target.Answers) {ip : String} {size : Nat → Nat} {fault : Fault}
    (isFault : exchange ip target.peer size = .error fault) :
    ¬ Passes target ∧ ¬ Fails target := by
  have notHeard {response : ResponseHead} {heard : Bytes × Bool}
      (begins : Begins target.peer response) :
      heardBody target.peer response.text.length response.contentLength? ≠
        .ok heard := by
    intro isHeard
    rw [exchange_of_begins begins, isHeard] at isFault
    cases isFault
  constructor
  · intro passes
    obtain ⟨_, response, _, begins, _⟩ := id passes
    obtain ⟨_, isHeard, _⟩ := (passes_iff answers begins).mp passes
    exact notHeard begins isHeard
  · intro fails
    obtain ⟨_, response, begins, _⟩ := id fails
    obtain ⟨_, isHeard, _⟩ := (fails_iff answers begins).mp fails
    exact notHeard begins isHeard

/-- A status has three digits. -/
theorem ResponseHead.IsWellFormed.status_bounds
    (wellFormed : response.IsWellFormed) :
    100 ≤ response.status ∧ response.status ≤ 599 := by
  have isFirst := wellFormed.first
  have isSecond := of_decide_eq_true wellFormed.second
  have isThird := of_decide_eq_true wellFormed.third
  simp only [ResponseHead.status, decimal, List.foldl_cons, List.foldl_nil]
  omega

end TicketSandbox.Live
