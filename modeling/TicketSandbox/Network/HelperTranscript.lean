import Mathlib
import TicketSandbox.Network.HelperStreams

namespace TicketSandbox.Network.Helper

/-!
# The helper's transcript

`HelperTranscriptH1` of
`trusted_checker_network/native_v2_helper_runtime.py`: the frames of a helper
are accepted one after another when they are in order.
-/

open FixedWidth (Bytes length_pack pack unpack)
open Raises (bind_ok ensure ensure_ok)

/-! ## The transcript -/

/-- `MAX_AGGREGATE`. -/
def maxAggregate : Nat := 16 * 1048576

/-- The two streams of output. -/
inductive Stream where
  | stdout
  | stderr
  deriving Repr, DecidableEq

/-- The kind of the data of a stream. -/
def Stream.kind : Stream → Kind
  | .stdout => .stdout
  | .stderr => .stderr

/-- The kind of the end of a stream. -/
def Stream.eofKind : Stream → Kind
  | .stdout => .stdoutEof
  | .stderr => .stderrEof

/-- The violation of the cap of a stream. -/
def Stream.limit : Stream → Violation
  | .stdout => .stdoutLimit
  | .stderr => .stderrLimit

/-- The cap of a stream in the operation that is asked for. -/
def Invocation.cap (invocation : Invocation) : Stream → Nat
  | .stdout => invocation.stdoutCap
  | .stderr => invocation.stderrCap

/-- `phases`. -/
def phases : List Kind := [.ready, .entered, .credentials, .exec]

/-- What a message says, without its number. -/
abbrev Entry := Kind × Bytes

/-- What a message says. -/
def Message.entry (message : Message) : Entry :=
  (message.kind, message.payload)

/-- `HelperTranscriptH1`. -/
structure Transcript where
  sequence : Nat
  stage : Nat
  eof : Stream → Bool
  data : Stream → Bytes
  exit : Bool
  cleanup : Option Bytes
  complete : Bool
  error : Option (String × Bool)
  failed : Bool

/-- `HelperTranscriptH1.__init__`. -/
def Transcript.start : Transcript where
  sequence := 0
  stage := 0
  eof := fun _ => false
  data := fun _ => []
  exit := false
  cleanup := none
  complete := false
  error := none
  failed := false

/-- The branch for `stdout` and `stderr` in `_accept`. -/
def Transcript.append
    (invocation : Invocation) (transcript : Transcript) (stream : Stream)
    (data : Bytes) : Except Violation Transcript := do
  ensure (transcript.eof stream = false ∧ transcript.exit = false ∧
      transcript.cleanup = none)
    .sequenceInvalid
  ensure ((transcript.data stream).length + data.length ≤ invocation.cap stream)
    stream.limit
  ensure ((transcript.data .stdout).length + (transcript.data .stderr).length +
      data.length ≤ maxAggregate)
    .aggregateLimit
  pure
    { transcript with
      data := Function.update transcript.data stream
          (transcript.data stream ++ data) }

/-- The branch for `stdout_eof` and `stderr_eof` in `_accept`. -/
def Transcript.endStream (transcript : Transcript)
    (stream : Stream) : Except Violation Transcript := do
  ensure (transcript.eof stream = false ∧ transcript.exit = false)
    .sequenceInvalid
  pure { transcript with eof := Function.update transcript.eof stream true }

/-- `expected`: the payload of the message `complete`. -/
def completion (sha256 : Bytes → Block 32) (data : Stream → Bytes)
    (cleanup : Bytes) : Bytes :=
  (sha256 (data .stdout)).bytes ++ (sha256 (data .stderr)).bytes ++
    (pack 8 (data .stdout).length ++ pack 8 (data .stderr).length ++ cleanup)

/-- `_accept` behind the checks of the sequence: what a message says is taken
into the transcript. -/
def Transcript.take
    (sha256 : Bytes → Block 32) (invocation : Invocation) (before : Transcript)
    (entry : Entry) : Except Violation Transcript :=
  let transcript := { before with sequence := before.sequence + 1 }
  let data := entry.2
  if entry.1 = .error then
    .ok
      { transcript with
        error :=
          some (reasons.getD (unpack (data.take 2)) "", data.getD 2 0 != 0) }
  else if transcript.stage < 4 then do
    ensure (phases[transcript.stage]? = some entry.1 ∧
        data = (invocation.phaseCommitment entry.1).bytes)
      .sequenceInvalid
    pure { transcript with stage := transcript.stage + 1 }
  else
    match entry.1 with
    | .stdout => transcript.append invocation .stdout data
    | .stderr => transcript.append invocation .stderr data
    | .stdoutEof => transcript.endStream .stdout
    | .stderrEof => transcript.endStream .stderr
    | .exit => do
        ensure
          ((transcript.eof .stdout = true ∧ transcript.eof .stderr = true) ∧
            transcript.exit = false ∧ unpack data = 0)
          .incompleteOutput
        pure { transcript with exit := true }
    | .reaped => do
        ensure (transcript.exit = true ∧ transcript.cleanup = none)
          .sequenceInvalid
        pure { transcript with cleanup := some data }
    | .complete => do
        ensure (transcript.exit = true ∧ transcript.cleanup ≠ none)
          .sequenceInvalid
        ensure (data =
            completion sha256 transcript.data (transcript.cleanup.getD []))
          .incompleteOutput
        pure { transcript with complete := true }
    | _ => .error .sequenceInvalid

/-- `HelperTranscriptH1._accept`. -/
def Transcript.acceptFrame (sha256 : Bytes → Block 32) (invocation : Invocation)
    (transcript : Transcript) (raw : Bytes) : Except Violation Transcript := do
  let message ← decode invocation raw
  ensure (transcript.complete = false ∧ transcript.error = none ∧
      message.sequence = transcript.sequence)
    .sequenceInvalid
  transcript.take sha256 invocation message.entry

/-- `HelperTranscriptH1.accept`: a transcript that has failed accepts
nothing. -/
def Transcript.accept (sha256 : Bytes → Block 32) (invocation : Invocation)
    (transcript : Transcript)
    (raw : Bytes) : Except Violation Unit × Transcript :=
  if transcript.failed = true then
    (.error .protocolInvalid, transcript)
  else
    match transcript.acceptFrame sha256 invocation raw with
    | .ok after => (.ok (), after)
    | .error violation => (.error violation, { transcript with failed := true })

/-- `HelperTranscriptH1.finish`. -/
def Transcript.finish
    (transcript : Transcript) : Except Violation Unit × Transcript :=
  if transcript.failed = false ∧
      (transcript.complete = true ∨ transcript.error ≠ none) then
    (.ok (), transcript)
  else
    (.error .incompleteOutput, { transcript with failed := true })

/-- The answers to frames one after another, and the transcript behind
them. -/
def Transcript.acceptAll (sha256 : Bytes → Block 32) (invocation : Invocation) :
    Transcript → List Bytes → List (Except Violation Unit) × Transcript
  | transcript, [] => ([], transcript)
  | transcript, raw :: frames =>
      let accepted := transcript.accept sha256 invocation raw
      let others := Transcript.acceptAll sha256 invocation accepted.2 frames
      (accepted.1 :: others.1, others.2)

/-- The frames are accepted one after another, and then the transcript is
finished. -/
def Accepts (sha256 : Bytes → Block 32) (invocation : Invocation)
    (frames : List Bytes) : Prop :=
  let accepted := Transcript.acceptAll sha256 invocation .start frames
  (∀ answer ∈ accepted.1, answer = .ok ()) ∧ accepted.2.finish.1 = .ok ()

/-! ## The shape of a run -/

/-- The messages of the phases, with their commitments. -/
def opening (invocation : Invocation) : List Entry :=
  phases.map fun kind => (kind, (invocation.phaseCommitment kind).bytes)

variable (stream : Stream)

/-- The data of a stream among messages. -/
def dataOf (body : List Entry) : Bytes :=
  body.flatMap fun entry => if entry.1 = stream.kind then entry.2 else []

/-- A stream has ended among messages. -/
def hasEnded (body : List Entry) : Bool :=
  body.any fun entry => decide (entry.1 = stream.eofKind)

/-- A message is about a stream. -/
def IsAbout (entry : Entry) : Prop :=
  entry.1 = stream.kind ∨ entry.1 = stream.eofKind

/-- The output between the phases and the exit: data and ends of the two
streams, none behind the end of its stream, within the limits. -/
structure IsBody (invocation : Invocation) (body : List Entry) : Prop where
  ordered : ∀ before entry after, body = before ++ entry :: after →
        ∃ stream, IsAbout stream entry ∧ hasEnded stream before = false
  capped : ∀ stream, (dataOf stream body).length ≤ invocation.cap stream
  aggregate :
    (dataOf .stdout body).length + (dataOf .stderr body).length ≤ maxAggregate

/-- Both streams have ended. -/
def AreEnded (body : List Entry) : Prop :=
  ∀ stream, hasEnded stream body = true

/-- The shape of a whole run. -/
structure IsShape (sha256 : Bytes → Block 32) (invocation : Invocation)
    (entries : List Entry) : Prop where
  shaped : ∃ body status receipt,
      IsBody invocation body ∧ AreEnded body ∧ unpack status = 0 ∧ entries =
          opening invocation ++ body ++ [(.exit, status), (.reaped, receipt),
              (.complete,
                completion sha256 (fun stream => dataOf stream body) receipt)]
  valid : ∀ entry ∈ entries, IsPayload entry.1 entry.2

/-- The messages are numbered from zero on. -/
def AreNumbered (messages : List Message) : Prop :=
  messages.map (·.sequence) = List.range messages.length

/-- The messages of a whole run, or those of its beginning and an error
behind them. -/
def IsTranscript (sha256 : Bytes → Block 32) (invocation : Invocation)
    (messages : List Message) : Prop :=
  IsShape sha256 invocation (messages.map Message.entry) ∨ ∃ before error rest,
      messages = before ++ [error] ∧ error.kind = .error ∧ rest ≠ [] ∧
        IsShape sha256 invocation (before.map Message.entry ++ rest)

/-! ## Where a transcript is -/

theorem dataOf_concat (body : List Entry) (entry : Entry) :
    dataOf stream (body ++ [entry]) = dataOf stream body ++
        (if entry.1 = stream.kind then entry.2 else []) := by
  rw [dataOf, List.flatMap_append, List.flatMap_singleton]
  rfl

theorem hasEnded_concat (body : List Entry) (entry : Entry) :
    hasEnded stream (body ++ [entry]) =
      (hasEnded stream body || decide (entry.1 = stream.eofKind)) := by
  rw [hasEnded, List.any_append, List.any_cons, List.any_nil, Bool.or_false]
  rfl

/-- The transcript after some of the phases. -/
def Transcript.opened (stage : Nat) : Transcript :=
  { Transcript.start with sequence := stage, stage := stage }

/-- The transcript after some output. -/
def Transcript.during (body : List Entry) : Transcript :=
  { Transcript.start with
    sequence := 4 + body.length
    stage := 4
    eof := fun stream => hasEnded stream body
    data := fun stream => dataOf stream body }

/-- The transcript after the exit. -/
def Transcript.exited (body : List Entry) : Transcript :=
  { Transcript.during body with sequence := 5 + body.length, exit := true }

/-- The transcript after the helper was reaped. -/
def Transcript.reaped (body : List Entry) (receipt : Bytes) : Transcript :=
  { Transcript.exited body with
    sequence := 6 + body.length
    cleanup := some receipt }

/-- The transcript after the last message. -/
def Transcript.completed (body : List Entry) (receipt : Bytes) : Transcript :=
  { Transcript.reaped body receipt with
    sequence := 7 + body.length
    complete := true }

/-- Where a transcript is after messages without an error. -/
inductive Reached (sha256 : Bytes → Block 32)
    (invocation : Invocation) : List Entry → Transcript → Prop where
  | opening (stage : Nat) (isPhase : stage < 4) :
      Reached sha256 invocation ((opening invocation).take stage)
        (.opened stage)
  | output (body : List Entry) (isBody : IsBody invocation body) :
      Reached sha256 invocation (Helper.opening invocation ++ body)
        (.during body)
  | exited (body : List Entry) (status : Bytes)
      (isBody : IsBody invocation body) (areEnded : AreEnded body)
      (isZero : unpack status = 0) :
      Reached sha256 invocation
        (Helper.opening invocation ++ body ++ [(.exit, status)])
        (.exited body)
  | reaped (body : List Entry) (status receipt : Bytes)
      (isBody : IsBody invocation body) (areEnded : AreEnded body)
      (isZero : unpack status = 0) :
      Reached sha256 invocation (Helper.opening invocation ++ body ++
          [(.exit, status), (.reaped, receipt)])
        (.reaped body receipt)
  | completed (body : List Entry) (status receipt : Bytes)
      (isBody : IsBody invocation body) (areEnded : AreEnded body)
      (isZero : unpack status = 0) :
      Reached sha256 invocation (Helper.opening invocation ++ body ++
          [(.exit, status), (.reaped, receipt), (.complete,
              completion sha256 (fun stream => dataOf stream body) receipt)])
        (.completed body receipt)

theorem isBody_nil (invocation : Invocation) : IsBody invocation [] where
  ordered := by
    intro before entry after isNil
    cases before <;> cases isNil
  capped := fun _ => Nat.zero_le _
  aggregate := Nat.zero_le _

variable {invocation : Invocation} {body entries : List Entry}
  {sha256 : Bytes → Block 32} {after before : Transcript}
  {receipt status : Bytes} {messages : List Message} {frames : List Bytes}

theorem isBody_concat {entry : Entry} :
    IsBody invocation (body ++ [entry]) ↔ IsBody invocation body ∧
        (∃ stream, IsAbout stream entry ∧ hasEnded stream body = false) ∧
        (∀ stream,
          (dataOf stream (body ++ [entry])).length ≤ invocation.cap stream) ∧
        (dataOf .stdout (body ++ [entry])).length +
            (dataOf .stderr (body ++ [entry])).length ≤
          maxAggregate := by
  have grows : ∀ stream, (dataOf stream body).length ≤
        (dataOf stream (body ++ [entry])).length := by
    intro stream
    rw [dataOf_concat, List.length_append]
    exact Nat.le_add_right _ _
  constructor
  · intro isBody
    refine ⟨⟨?_, ?_, ?_⟩, isBody.ordered body entry [] rfl, isBody.capped,
      isBody.aggregate⟩
    · intro before other after isSplit
      refine isBody.ordered before other (after ++ [entry]) ?_
      rw [isSplit, List.append_assoc, List.cons_append]
    · exact fun stream => Nat.le_trans (grows stream) (isBody.capped stream)
    · exact Nat.le_trans (Nat.add_le_add (grows .stdout) (grows .stderr))
        isBody.aggregate
  · rintro ⟨isBody, isNext, capped, aggregate⟩
    refine ⟨?_, capped, aggregate⟩
    intro before other after isSplit
    rcases List.eq_nil_or_concat after with rfl | ⟨front, last, rfl⟩
    · obtain ⟨rfl, isLast⟩ := List.append_inj' isSplit rfl
      obtain ⟨rfl, -⟩ := List.cons.inj isLast
      exact isNext
    · rw [List.concat_eq_append, ← List.cons_append,
        ← List.append_assoc] at isSplit
      obtain ⟨isFront, -⟩ := List.append_inj' isSplit rfl
      exact isBody.ordered before other front isFront

theorem during_chunk (body : List Entry) (data : Bytes) :
    Transcript.during (body ++ [(stream.kind, data)]) =
      { Transcript.during body with
        sequence := (Transcript.during body).sequence + 1
        data := Function.update (Transcript.during body).data stream
            ((Transcript.during body).data stream ++ data) } := by
  have isEof : (fun other => hasEnded other (body ++ [(stream.kind, data)])) =
        fun other => hasEnded other body := by
    funext other
    rw [hasEnded_concat]
    cases stream <;> cases other <;> exact Bool.or_false _
  have isData : (fun other => dataOf other (body ++ [(stream.kind, data)])) =
        Function.update (fun other => dataOf other body) stream
          (dataOf stream body ++ data) := by
    funext other
    rw [dataOf_concat]
    cases stream <;> cases other <;> first
      | rfl
      | exact List.append_nil _
  unfold Transcript.during
  rw [isEof, isData, List.length_append]
  rfl

theorem during_eof (body : List Entry) (data : Bytes) :
    Transcript.during (body ++ [(stream.eofKind, data)]) =
      { Transcript.during body with
        sequence := (Transcript.during body).sequence + 1
        eof := Function.update (Transcript.during body).eof stream true } := by
  have isEof :
      (fun other => hasEnded other (body ++ [(stream.eofKind, data)])) =
        Function.update (fun other => hasEnded other body) stream true := by
    funext other
    rw [hasEnded_concat]
    cases stream <;> cases other <;> first
      | exact Bool.or_true _
      | exact Bool.or_false _
  have isData : (fun other => dataOf other (body ++ [(stream.eofKind, data)])) =
        fun other => dataOf other body := by
    funext other
    rw [dataOf_concat]
    cases stream <;> cases other <;> exact List.append_nil _
  unfold Transcript.during
  rw [isEof, isData, List.length_append]
  rfl

/-- Output is taken where its stream is open and within its cap. -/
theorem take_chunk (isBody : IsBody invocation body) (stream : Stream)
    (data : Bytes) (after : Transcript) :
    (Transcript.during body).take sha256 invocation (stream.kind, data) =
        .ok after ↔
      IsBody invocation (body ++ [(stream.kind, data)]) ∧
        after = .during (body ++ [(stream.kind, data)]) := by
  have isTaken :
      (Transcript.during body).take sha256 invocation (stream.kind, data) =
        Transcript.append invocation
          { Transcript.during body with
            sequence := (Transcript.during body).sequence + 1 }
          stream data := by
    cases stream <;> rfl
  have isOwn : ∀ other, dataOf other (body ++ [(stream.kind, data)]) =
          dataOf other body ++ if other = stream then data else [] := by
    intro other
    rw [dataOf_concat]
    cases stream <;> cases other <;> rfl
  have isSum : (dataOf .stdout (body ++ [(stream.kind, data)])).length +
          (dataOf .stderr (body ++ [(stream.kind, data)])).length =
        (dataOf .stdout body).length + (dataOf .stderr body).length +
          data.length := by
    rw [isOwn, isOwn, List.length_append, List.length_append]
    cases stream
    · rw [if_pos rfl, if_neg (by decide), List.length_nil]
      omega
    · rw [if_pos rfl, if_neg (by decide), List.length_nil]
      omega
  rw [isTaken, during_chunk, isBody_concat, isSum]
  constructor
  · intro isAppended
    obtain ⟨_, isOpen, isAppended⟩ := bind_ok.mp isAppended
    obtain ⟨_, isCapped, isAppended⟩ := bind_ok.mp isAppended
    obtain ⟨_, isWithin, isAppended⟩ := bind_ok.mp isAppended
    cases isAppended
    refine ⟨⟨isBody, ⟨stream, Or.inl rfl, (ensure_ok.mp isOpen).1⟩, ?_,
      ensure_ok.mp isWithin⟩, rfl⟩
    intro other
    rw [isOwn, List.length_append]
    by_cases isStream : other = stream
    · rw [if_pos isStream, isStream]
      exact ensure_ok.mp isCapped
    · rw [if_neg isStream]
      exact isBody.capped other
  · rintro ⟨⟨-, ⟨other, isAbout, isOpen⟩, capped, aggregate⟩, rfl⟩
    have isStream : other = stream := by
      rcases isAbout with isKind | isKind
      · cases other <;> cases stream <;> first | rfl | cases isKind
      · cases other <;> cases stream <;> cases isKind
    have isCapped := capped stream
    rw [isOwn, if_pos rfl, List.length_append] at isCapped
    rw [isStream] at isOpen
    exact bind_ok.mpr ⟨(), ensure_ok.mpr ⟨isOpen, rfl, rfl⟩,
      bind_ok.mpr ⟨(), ensure_ok.mpr isCapped,
        bind_ok.mpr ⟨(), ensure_ok.mpr aggregate, rfl⟩⟩⟩

theorem take_eof (isBody : IsBody invocation body) (stream : Stream)
    (data : Bytes) (after : Transcript) :
    (Transcript.during body).take sha256 invocation (stream.eofKind, data) =
        .ok after ↔
      IsBody invocation (body ++ [(stream.eofKind, data)]) ∧
        after = .during (body ++ [(stream.eofKind, data)]) := by
  have isTaken :
      (Transcript.during body).take sha256 invocation (stream.eofKind, data) =
        Transcript.endStream
          { Transcript.during body with
            sequence := (Transcript.during body).sequence + 1 }
          stream := by
    cases stream <;> rfl
  have isSame : ∀ other, dataOf other (body ++ [(stream.eofKind, data)]) =
          dataOf other body := by
    intro other
    rw [dataOf_concat]
    cases stream <;> cases other <;> exact List.append_nil _
  rw [isTaken, during_eof, isBody_concat]
  simp only [isSame]
  constructor
  · intro isEnded
    obtain ⟨_, isOpen, isEnded⟩ := bind_ok.mp isEnded
    cases isEnded
    exact ⟨⟨isBody, ⟨stream, Or.inr rfl, (ensure_ok.mp isOpen).1⟩,
      isBody.capped, isBody.aggregate⟩, rfl⟩
  · rintro ⟨⟨-, ⟨other, isAbout, isOpen⟩, -, -⟩, rfl⟩
    have isStream : other = stream := by
      rcases isAbout with isKind | isKind
      · cases other <;> cases stream <;> cases isKind
      · cases other <;> cases stream <;> first | rfl | cases isKind
    rw [isStream] at isOpen
    exact bind_ok.mpr ⟨(), ensure_ok.mpr ⟨isOpen, rfl⟩, rfl⟩

/-! ## One message -/

theorem take_opened {stage : Nat} {entry : Entry} (isPhase : stage < 4)
    (noError : entry.1 ≠ .error) (after : Transcript) :
    (Transcript.opened stage).take sha256 invocation entry = .ok after ↔
      (opening invocation)[stage]? = some entry ∧
        after = .opened (stage + 1) := by
  have isOpening : (opening invocation)[stage]? = some entry ↔
        phases[stage]? = some entry.1 ∧
          entry.2 = (invocation.phaseCommitment entry.1).bytes := by
    rw [opening, List.getElem?_map, Option.map_eq_some_iff]
    constructor
    · rintro ⟨kind, isKind, rfl⟩
      exact ⟨isKind, rfl⟩
    · rintro ⟨isKind, isData⟩
      exact ⟨entry.1, isKind, Prod.ext rfl isData.symm⟩
  have isTake : (Transcript.opened stage).take sha256 invocation entry = (ensure
            (phases[stage]? = some entry.1 ∧
              entry.2 = (invocation.phaseCommitment entry.1).bytes)
            .sequenceInvalid >>=
          fun _ => pure (.opened (stage + 1))) := by
    rw [Transcript.take, if_neg noError]
    exact if_pos isPhase
  rw [isOpening, isTake]
  constructor
  · intro isTaken
    obtain ⟨_, isNext, isTaken⟩ := bind_ok.mp isTaken
    cases isTaken
    exact ⟨ensure_ok.mp isNext, rfl⟩
  · rintro ⟨isNext, rfl⟩
    exact bind_ok.mpr ⟨(), ensure_ok.mpr isNext, rfl⟩

/-- The exit is taken once both streams have ended. -/
theorem take_exit (body : List Entry) (status : Bytes) (after : Transcript) :
    (Transcript.during body).take sha256 invocation (.exit, status) =
        .ok after ↔
      AreEnded body ∧ unpack status = 0 ∧ after = .exited body := by
  have isNext :
      { Transcript.during body with
        sequence := (Transcript.during body).sequence + 1
        exit := true } = Transcript.exited body := by
    unfold Transcript.exited
    rw [show (Transcript.during body).sequence + 1 = 5 + body.length from
      by change 4 + body.length + 1 = 5 + body.length; omega]
  constructor
  · intro isTaken
    obtain ⟨_, isEnded, isTaken⟩ := bind_ok.mp isTaken
    obtain ⟨areBoth, -, isZero⟩ := ensure_ok.mp isEnded
    cases isTaken
    refine ⟨?_, isZero, isNext⟩
    intro stream
    cases stream
    · exact areBoth.1
    · exact areBoth.2
  · rintro ⟨areEnded, isZero, rfl⟩
    refine bind_ok.mpr ⟨(), ensure_ok.mpr
      ⟨⟨areEnded .stdout, areEnded .stderr⟩, rfl, isZero⟩, ?_⟩
    rw [← isNext]
    rfl

theorem take_during {entry : Entry} (isBody : IsBody invocation body)
    (noError : entry.1 ≠ .error) (isTaken :
      (Transcript.during body).take sha256 invocation entry = .ok after) :
    (IsBody invocation (body ++ [entry]) ∧ after = .during (body ++ [entry])) ∨
      ∃ status, entry = (.exit, status) ∧ AreEnded body ∧
        unpack status = 0 ∧ after = .exited body := by
  obtain ⟨kind, data⟩ := entry
  cases kind with
  | stdout => exact Or.inl ((take_chunk isBody .stdout data after).mp isTaken)
  | stderr => exact Or.inl ((take_chunk isBody .stderr data after).mp isTaken)
  | stdoutEof => exact Or.inl ((take_eof isBody .stdout data after).mp isTaken)
  | stderrEof => exact Or.inl ((take_eof isBody .stderr data after).mp isTaken)
  | exit => exact Or.inr ⟨data, rfl, (take_exit body data after).mp isTaken⟩
  | reaped =>
      obtain ⟨_, isExit, -⟩ := bind_ok.mp isTaken
      cases (ensure_ok.mp isExit).1
  | complete =>
      obtain ⟨_, isExit, -⟩ := bind_ok.mp isTaken
      cases (ensure_ok.mp isExit).1
  | error => exact (noError rfl).elim
  | invoke | ready | entered | credentials | exec | cancel => cases isTaken

theorem take_exited
    {entry : Entry} (noError : entry.1 ≠ .error) (after : Transcript) :
    (Transcript.exited body).take sha256 invocation entry = .ok after ↔
      ∃ receipt, entry = (.reaped, receipt) ∧ after = .reaped body receipt := by
  have isNext : ∀ receipt : Bytes,
      { Transcript.exited body with
        sequence := (Transcript.exited body).sequence + 1
        cleanup := some receipt } = Transcript.reaped body receipt := by
    intro receipt
    unfold Transcript.reaped
    rw [show (Transcript.exited body).sequence + 1 = 6 + body.length from
      by change 5 + body.length + 1 = 6 + body.length; omega]
  constructor
  · intro isTaken
    obtain ⟨kind, data⟩ := entry
    cases kind with
    | stdout | stderr =>
        obtain ⟨_, isOpen, -⟩ := bind_ok.mp isTaken
        cases (ensure_ok.mp isOpen).2.1
    | stdoutEof | stderrEof =>
        obtain ⟨_, isOpen, -⟩ := bind_ok.mp isTaken
        cases (ensure_ok.mp isOpen).2
    | exit =>
        obtain ⟨_, isOpen, -⟩ := bind_ok.mp isTaken
        cases (ensure_ok.mp isOpen).2.1
    | reaped =>
        obtain ⟨_, -, isTaken⟩ := bind_ok.mp isTaken
        cases isTaken
        exact ⟨data, rfl, isNext data⟩
    | complete =>
        obtain ⟨_, isOpen, -⟩ := bind_ok.mp isTaken
        exact ((ensure_ok.mp isOpen).2 rfl).elim
    | error => exact (noError rfl).elim
    | invoke | ready | entered | credentials | exec | cancel => cases isTaken
  · rintro ⟨receipt, rfl, rfl⟩
    refine bind_ok.mpr ⟨(), ensure_ok.mpr ⟨rfl, rfl⟩, ?_⟩
    rw [← isNext]
    rfl

theorem take_reaped
    {entry : Entry} (noError : entry.1 ≠ .error) (after : Transcript) :
    (Transcript.reaped body receipt).take sha256 invocation entry = .ok after ↔
      entry = (.complete,
            completion sha256 (fun stream => dataOf stream body) receipt) ∧
        after = .completed body receipt := by
  have isNext :
      { Transcript.reaped body receipt with
        sequence := (Transcript.reaped body receipt).sequence + 1
        complete := true } = Transcript.completed body receipt := by
    unfold Transcript.completed
    rw [show (Transcript.reaped body receipt).sequence + 1 =
        7 + body.length from
      by change 6 + body.length + 1 = 7 + body.length; omega]
  constructor
  · intro isTaken
    obtain ⟨kind, data⟩ := entry
    cases kind with
    | stdout | stderr =>
        obtain ⟨_, isOpen, -⟩ := bind_ok.mp isTaken
        cases (ensure_ok.mp isOpen).2.1
    | stdoutEof | stderrEof =>
        obtain ⟨_, isOpen, -⟩ := bind_ok.mp isTaken
        cases (ensure_ok.mp isOpen).2
    | exit =>
        obtain ⟨_, isOpen, -⟩ := bind_ok.mp isTaken
        cases (ensure_ok.mp isOpen).2.1
    | reaped =>
        obtain ⟨_, isOpen, -⟩ := bind_ok.mp isTaken
        cases (ensure_ok.mp isOpen).2
    | complete =>
        obtain ⟨_, -, isTaken⟩ := bind_ok.mp isTaken
        obtain ⟨_, isData, isTaken⟩ := bind_ok.mp isTaken
        cases isTaken
        have isExpected := ensure_ok.mp isData
        exact ⟨Prod.ext rfl isExpected, isNext⟩
    | error => exact (noError rfl).elim
    | invoke | ready | entered | credentials | exec | cancel => cases isTaken
  · rintro ⟨rfl, rfl⟩
    refine bind_ok.mpr ⟨(), ensure_ok.mpr ⟨rfl, nofun⟩,
      bind_ok.mpr ⟨(), ensure_ok.mpr rfl, ?_⟩⟩
    rw [← isNext]
    rfl

/-! ## Messages one after another -/

/-- A message is taken into a transcript that is still open. -/
def Transcript.next (sha256 : Bytes → Block 32) (invocation : Invocation)
    (transcript : Transcript)
    (entry : Entry) : Except Violation Transcript := do
  ensure (transcript.complete = false ∧ transcript.error = none)
    .sequenceInvalid
  transcript.take sha256 invocation entry

/-- Messages one after another are taken into the transcript. -/
def takeAll (sha256 : Bytes → Block 32) (invocation : Invocation)
    (entries : List Entry) : Except Violation Transcript :=
  entries.foldlM (Transcript.next sha256 invocation) .start

theorem takeAll_append {others : List Entry} :
    takeAll sha256 invocation (entries ++ others) = .ok after ↔
      ∃ before, takeAll sha256 invocation entries = .ok before ∧
        others.foldlM (Transcript.next sha256 invocation) before =
          .ok after := by
  rw [takeAll, List.foldlM_append, bind_ok]
  rfl

theorem next_ok {entry : Entry} :
    before.next sha256 invocation entry = .ok after ↔
      (before.complete = false ∧ before.error = none) ∧
        before.take sha256 invocation entry = .ok after := by
  rw [Transcript.next, bind_ok]
  constructor
  · rintro ⟨_, isOpen, isTaken⟩
    exact ⟨ensure_ok.mp isOpen, isTaken⟩
  · rintro ⟨isOpen, isTaken⟩
    exact ⟨(), ensure_ok.mpr isOpen, isTaken⟩

/-- Messages are taken one after another. -/
theorem takeAll_concat {entry : Entry} :
    takeAll sha256 invocation (entries ++ [entry]) = .ok after ↔
      ∃ before, takeAll sha256 invocation entries = .ok before ∧
        (before.complete = false ∧ before.error = none) ∧
          before.take sha256 invocation entry = .ok after := by
  rw [takeAll_append]
  simp only [List.foldlM_cons, List.foldlM_nil, bind_pure, next_ok]

theorem Reached.take
    {entry : Entry} (isReached : Reached sha256 invocation entries before)
    (noError : entry.1 ≠ .error) (isOpen : before.complete = false)
    (isTaken : before.take sha256 invocation entry = .ok after) :
    Reached sha256 invocation (entries ++ [entry]) after := by
  cases isReached with
  | opening stage isPhase =>
      obtain ⟨isEntry, rfl⟩ := (take_opened isPhase noError after).mp isTaken
      have isTake : (Helper.opening invocation).take stage ++ [entry] =
            (Helper.opening invocation).take (stage + 1) := by
        rw [List.take_add_one, isEntry]
        rfl
      rw [isTake]
      by_cases isLast : stage + 1 < 4
      · exact .opening (stage + 1) isLast
      · have isThree : stage = 3 := by
          omega
        subst isThree
        exact .output [] (isBody_nil invocation)
  | output body isBody =>
      rcases take_during isBody noError isTaken with
        ⟨isLonger, rfl⟩ | ⟨status, rfl, areEnded, isZero, rfl⟩
      · rw [List.append_assoc]
        exact .output (body ++ [entry]) isLonger
      · exact .exited body status isBody areEnded isZero
  | exited body status isBody areEnded isZero =>
      obtain ⟨receipt, rfl, rfl⟩ := (take_exited noError after).mp isTaken
      rw [List.append_assoc]
      exact .reaped body status receipt isBody areEnded isZero
  | reaped body status receipt isBody areEnded isZero =>
      obtain ⟨rfl, rfl⟩ := (take_reaped noError after).mp isTaken
      rw [List.append_assoc]
      exact .completed body status receipt isBody areEnded isZero
  | completed body status receipt isBody areEnded isZero => cases isOpen

theorem opening_get
    (invocation : Invocation) {stage : Nat} (isPhase : stage < 4) :
    ∃ entry, (opening invocation)[stage]? = some entry ∧ entry.1 ≠ .error := by
  match stage with
  | 0 => exact ⟨_, rfl, nofun⟩
  | 1 => exact ⟨_, rfl, nofun⟩
  | 2 => exact ⟨_, rfl, nofun⟩
  | 3 => exact ⟨_, rfl, nofun⟩
  | stage + 4 => omega

theorem takeAll_opening (sha256 : Bytes → Block 32) (invocation : Invocation)
    {stage : Nat} (isPhase : stage ≤ 4) :
    takeAll sha256 invocation ((opening invocation).take stage) =
      .ok (.opened stage) := by
  induction stage with
  | zero => rfl
  | succ stage inductionHypothesis =>
      have isBefore : stage < 4 := by
        omega
      obtain ⟨entry, isEntry, noError⟩ := opening_get invocation isBefore
      rw [List.take_add_one, isEntry]
      exact takeAll_concat.mpr
        ⟨.opened stage, inductionHypothesis (by omega), ⟨rfl, rfl⟩,
          (take_opened isBefore noError _).mpr ⟨isEntry, rfl⟩⟩

theorem takeAll_output
    (sha256 : Bytes → Block 32) (isBody : IsBody invocation body) :
    takeAll sha256 invocation (opening invocation ++ body) =
      .ok (.during body) := by
  induction body using List.reverseRecOn with
  | nil =>
      rw [List.append_nil]
      exact takeAll_opening sha256 invocation (Nat.le_refl 4)
  | append_singleton body entry inductionHypothesis =>
      obtain ⟨isFront, ⟨stream, isAbout, -⟩, -, -⟩ := isBody_concat.mp isBody
      rw [← List.append_assoc]
      refine takeAll_concat.mpr
        ⟨.during body, inductionHypothesis isFront, ⟨rfl, rfl⟩, ?_⟩
      obtain ⟨kind, data⟩ := entry
      rcases isAbout with rfl | rfl
      · exact (take_chunk isFront stream data _).mpr ⟨isBody, rfl⟩
      · exact (take_eof isFront stream data _).mpr ⟨isBody, rfl⟩

theorem takeAll_shape (receipt : Bytes) (isBody : IsBody invocation body)
    (areEnded : AreEnded body) (isZero : unpack status = 0) :
    takeAll sha256 invocation (opening invocation ++ body ++
          [(.exit, status), (.reaped, receipt), (.complete,
              completion sha256 (fun stream => dataOf stream body) receipt)]) =
      .ok (.completed body receipt) := by
  have isOutput := takeAll_output sha256 isBody
  have isExit :
      (Transcript.during body).take sha256 invocation (.exit, status) =
        .ok (.exited body) :=
    (take_exit body status _).mpr ⟨areEnded, isZero, rfl⟩
  have isReaped :
      (Transcript.exited body).take sha256 invocation (.reaped, receipt) =
        .ok (.reaped body receipt) :=
    (take_exited Kind.noConfusion _).mpr ⟨receipt, rfl, rfl⟩
  have isComplete : (Transcript.reaped body receipt).take sha256 invocation
          (.complete,
            completion sha256 (fun stream => dataOf stream body) receipt) =
        .ok (.completed body receipt) :=
    (take_reaped Kind.noConfusion _).mpr ⟨rfl, rfl⟩
  have throughExit := takeAll_concat.mpr ⟨_, isOutput, ⟨rfl, rfl⟩, isExit⟩
  have throughReaped :=
    takeAll_concat.mpr ⟨_, throughExit, ⟨rfl, rfl⟩, isReaped⟩
  have throughComplete :=
    takeAll_concat.mpr ⟨_, throughReaped, ⟨rfl, rfl⟩, isComplete⟩
  rw [List.append_assoc, List.append_assoc] at throughComplete
  exact throughComplete

theorem takeAll_reached
    (isTaken : takeAll sha256 invocation entries = .ok after) :
    Reached sha256 invocation entries after ∨ ∃ before error transcript,
        entries = before ++ [error] ∧ error.1 = .error ∧
          Reached sha256 invocation before transcript ∧
            transcript.complete = false ∧ after.error ≠ none := by
  induction entries using List.reverseRecOn generalizing after with
  | nil =>
      cases isTaken
      exact Or.inl (.opening 0 (by decide))
  | append_singleton entries entry inductionHypothesis =>
      obtain ⟨before, isBefore, ⟨isOpen, noFailure⟩, isTaken⟩ :=
        takeAll_concat.mp isTaken
      rcases inductionHypothesis isBefore with
        isReached | ⟨_, _, _, -, -, -, -, isFailure⟩
      · by_cases isError : entry.1 = .error
        · rw [Transcript.take, if_pos isError] at isTaken
          cases isTaken
          exact Or.inr
            ⟨entries, entry, before, rfl, isError, isReached, isOpen, nofun⟩
        · exact Or.inl (isReached.take isError isOpen isTaken)
      · exact (isFailure noFailure).elim

/-! ## Beginnings of runs -/

theorem IsBody.endStream (isBody : IsBody invocation body) (stream : Stream) :
    ∃ more : List Entry, IsBody invocation (body ++ more) ∧
        (∀ other, hasEnded other body = true ∨ other = stream →
          hasEnded other (body ++ more) = true) ∧
        ∀ entry ∈ more, IsPayload entry.1 entry.2 := by
  by_cases isEnded : hasEnded stream body = true
  · refine ⟨[], ?_, ?_, nofun⟩
    · rwa [List.append_nil]
    · rintro other (isOther | rfl)
      · rwa [List.append_nil]
      · rwa [List.append_nil]
  · have isOpen : hasEnded stream body = false := Bool.not_eq_true _ ▸ isEnded
    have isSame : ∀ other, dataOf other (body ++ [(stream.eofKind, [])]) =
            dataOf other body := by
      intro other
      rw [dataOf_concat]
      cases stream <;> cases other <;> exact List.append_nil _
    refine ⟨[(stream.eofKind, [])], ?_, ?_, ?_⟩
    · rw [isBody_concat]
      simp only [isSame]
      exact ⟨isBody, ⟨stream, Or.inr rfl, isOpen⟩, isBody.capped,
        isBody.aggregate⟩
    · rintro other (isOther | rfl)
      · rw [hasEnded_concat, isOther]
        rfl
      · rw [hasEnded_concat, decide_eq_true rfl]
        exact Bool.or_true _
    · intro entry member
      rw [List.mem_singleton.mp member]
      cases stream
      · exact ⟨rfl, nofun, nofun⟩
      · exact ⟨rfl, nofun, nofun⟩

theorem opening_valid (invocation : Invocation) :
    ∀ entry ∈ opening invocation, IsPayload entry.1 entry.2 := by
  intro entry member
  obtain ⟨kind, isPhase, rfl⟩ := List.mem_map.mp member
  have isSized := (invocation.phaseCommitment kind).isSized
  dsimp only [phases] at isPhase
  simp only [List.mem_cons, List.not_mem_nil, or_false] at isPhase
  rcases isPhase with rfl | rfl | rfl | rfl <;> exact ⟨isSized, nofun, nofun⟩

theorem completion_valid (sha256 : Bytes → Block 32) (data : Stream → Bytes)
    (isReceipt : receipt.length = 32) :
    IsPayload .complete (completion sha256 data receipt) := by
  refine ⟨?_, nofun, nofun⟩
  change (completion sha256 data receipt).length = 112
  unfold completion
  simp only [List.length_append, Block.isSized, length_pack, isReceipt]

theorem isShape_of_exit
    (sha256 : Bytes → Block 32) (isBody : IsBody invocation body)
    (areEnded : AreEnded body) (isZero : unpack status = 0) (valid :
      ∀ entry ∈ opening invocation ++ body ++ [(.exit, status)],
        IsPayload entry.1 entry.2) :
    ∃ rest, rest ≠ [] ∧ IsShape sha256 invocation
        (opening invocation ++ body ++ [(.exit, status)] ++ rest) := by
  refine ⟨[(.reaped, List.replicate 32 0), (.complete,
      completion sha256 (fun stream => dataOf stream body)
        (List.replicate 32 0))], List.cons_ne_nil _ _,
    ⟨body, status, List.replicate 32 0, isBody, areEnded, isZero, ?_⟩, ?_⟩
  · rw [List.append_assoc]
    rfl
  · intro entry member
    rcases List.mem_append.mp member with isFront | isBehind
    · exact valid entry isFront
    · rcases List.mem_cons.mp isBehind with rfl | isLast
      · exact ⟨rfl, nofun, nofun⟩
      · rw [List.mem_singleton.mp isLast]
        exact completion_valid sha256 (fun stream => dataOf stream body)
          List.length_replicate

theorem isShape_of_body
    (sha256 : Bytes → Block 32) (isBody : IsBody invocation body)
    (valid : ∀ entry ∈ body, IsPayload entry.1 entry.2) :
    ∃ rest, rest ≠ [] ∧
      IsShape sha256 invocation (opening invocation ++ body ++ rest) := by
  obtain ⟨first, isFirst, endsFirst, validFirst⟩ := isBody.endStream .stdout
  obtain ⟨second, isSecond, endsSecond, validSecond⟩ :=
    isFirst.endStream .stderr
  have areEnded : AreEnded (body ++ first ++ second) := by
    intro stream
    cases stream
    · exact endsSecond .stdout (Or.inl (endsFirst .stdout (Or.inr rfl)))
    · exact endsSecond .stderr (Or.inr rfl)
  have validExit : ∀ entry ∈
        opening invocation ++ (body ++ first ++ second) ++ [(.exit, [0, 0])],
        IsPayload entry.1 entry.2 := by
    intro entry member
    simp only [List.mem_append, List.mem_singleton] at member
    rcases member with (isPhase | ((isOut | isOut) | isOut)) | rfl
    · exact opening_valid invocation entry isPhase
    · exact valid entry isOut
    · exact validFirst entry isOut
    · exact validSecond entry isOut
    · exact ⟨rfl, fun _ => by decide, nofun⟩
  obtain ⟨rest, isSome, isShape⟩ :=
    isShape_of_exit sha256 isSecond areEnded rfl validExit
  refine ⟨first ++ (second ++ ([(.exit, [0, 0])] ++ rest)), ?_, ?_⟩
  · intro isNil
    obtain ⟨-, isNil⟩ := List.append_eq_nil_iff.mp isNil
    obtain ⟨-, isNil⟩ := List.append_eq_nil_iff.mp isNil
    exact isSome (List.append_eq_nil_iff.mp isNil).2
  · simp only [List.append_assoc] at isShape ⊢
    exact isShape

theorem Reached.extends {transcript : Transcript}
    (isReached : Reached sha256 invocation entries transcript)
    (isOpen : transcript.complete = false)
    (valid : ∀ entry ∈ entries, IsPayload entry.1 entry.2) :
    ∃ rest, rest ≠ [] ∧ IsShape sha256 invocation (entries ++ rest) := by
  cases isReached with
  | opening stage isPhase =>
      obtain ⟨rest, isSome, isShape⟩ :=
        isShape_of_body sha256 (isBody_nil invocation) nofun
      refine ⟨(Helper.opening invocation).drop stage ++ rest, ?_, ?_⟩
      · exact fun isNil => isSome (List.append_eq_nil_iff.mp isNil).2
      · rw [← List.append_assoc, List.take_append_drop]
        rwa [List.append_nil] at isShape
  | output body isBody =>
      exact isShape_of_body sha256 isBody (fun entry member =>
          valid entry (List.mem_append_right _ member))
  | exited body status isBody areEnded isZero =>
      exact isShape_of_exit sha256 isBody areEnded isZero valid
  | reaped body status receipt isBody areEnded isZero =>
      have isSized : receipt.length = 32 := (valid (.reaped, receipt)
          (List.mem_append_right _
            (List.mem_cons_of_mem _ List.mem_cons_self))).sized
      refine ⟨[(.complete,
        completion sha256 (fun stream => dataOf stream body) receipt)],
        List.cons_ne_nil _ _, ⟨body, status, receipt, isBody, areEnded,
          isZero, ?_⟩, ?_⟩
      · rw [List.append_assoc]
        rfl
      · intro entry member
        rcases List.mem_append.mp member with isFront | isLast
        · exact valid entry isFront
        · rw [List.mem_singleton.mp isLast]
          exact completion_valid sha256 (fun stream => dataOf stream body)
            isSized
  | completed body status receipt isBody areEnded isZero => cases isOpen

/-! ## Frames one after another -/

theorem acceptFrame_ok {raw : Bytes} :
    before.acceptFrame sha256 invocation raw = .ok after ↔
      ∃ message, raw = encode invocation message ∧
        message.sequence = before.sequence ∧
          before.next sha256 invocation message.entry = .ok after := by
  constructor
  · intro isAccepted
    obtain ⟨message, isDecoded, isAccepted⟩ := bind_ok.mp isAccepted
    obtain ⟨_, isNext, isTaken⟩ := bind_ok.mp isAccepted
    obtain ⟨isOpen, noError, isNumber⟩ := ensure_ok.mp isNext
    exact ⟨message, (encode_of_decode isDecoded).symm, isNumber,
      next_ok.mpr ⟨⟨isOpen, noError⟩, isTaken⟩⟩
  · rintro ⟨message, rfl, isNumber, isNext⟩
    obtain ⟨⟨isOpen, noError⟩, isTaken⟩ := next_ok.mp isNext
    exact bind_ok.mpr ⟨message, decode_encode invocation message,
        bind_ok.mpr ⟨(), ensure_ok.mpr ⟨isOpen, noError, isNumber⟩, isTaken⟩⟩

theorem Transcript.take_keeps {entry : Entry}
    (isTaken : before.take sha256 invocation entry = .ok after) :
    after.sequence = before.sequence + 1 ∧ after.failed = before.failed := by
  have appends : ∀ (transcript : Transcript) (stream : Stream) (data : Bytes),
      transcript.append invocation stream data = .ok after →
        after.sequence = transcript.sequence ∧
          after.failed = transcript.failed := by
    intro transcript stream data isAppended
    obtain ⟨_, -, isAppended⟩ := bind_ok.mp isAppended
    obtain ⟨_, -, isAppended⟩ := bind_ok.mp isAppended
    obtain ⟨_, -, isAppended⟩ := bind_ok.mp isAppended
    cases isAppended
    exact ⟨rfl, rfl⟩
  have ends : ∀ (transcript : Transcript) (stream : Stream),
      transcript.endStream stream = .ok after →
        after.sequence = transcript.sequence ∧
          after.failed = transcript.failed := by
    intro transcript stream isEnded
    obtain ⟨_, -, isEnded⟩ := bind_ok.mp isEnded
    cases isEnded
    exact ⟨rfl, rfl⟩
  unfold take at isTaken
  dsimp only at isTaken
  split at isTaken
  · cases isTaken
    exact ⟨rfl, rfl⟩
  split at isTaken
  · obtain ⟨_, -, isTaken⟩ := bind_ok.mp isTaken
    cases isTaken
    exact ⟨rfl, rfl⟩
  split at isTaken
  · exact appends _ _ _ isTaken
  · exact appends _ _ _ isTaken
  · exact ends _ _ isTaken
  · exact ends _ _ isTaken
  · obtain ⟨_, -, isTaken⟩ := bind_ok.mp isTaken
    cases isTaken
    exact ⟨rfl, rfl⟩
  · obtain ⟨_, -, isTaken⟩ := bind_ok.mp isTaken
    cases isTaken
    exact ⟨rfl, rfl⟩
  · obtain ⟨_, -, isTaken⟩ := bind_ok.mp isTaken
    obtain ⟨_, -, isTaken⟩ := bind_ok.mp isTaken
    cases isTaken
    exact ⟨rfl, rfl⟩
  · cases isTaken

theorem takeAll_keeps
    (areTaken : takeAll sha256 invocation entries = .ok after) :
    after.sequence = entries.length ∧ after.failed = false := by
  induction entries using List.reverseRecOn generalizing after with
  | nil =>
      cases areTaken
      exact ⟨rfl, rfl⟩
  | append_singleton entries entry inductionHypothesis =>
      obtain ⟨before, areBefore, -, isTaken⟩ := takeAll_concat.mp areTaken
      obtain ⟨isCount, noFailure⟩ := inductionHypothesis areBefore
      obtain ⟨isCounted, isKept⟩ := Transcript.take_keeps isTaken
      rw [isCounted, isCount, isKept, List.length_append]
      exact ⟨rfl, noFailure⟩

theorem areNumbered_concat {message : Message} :
    AreNumbered (messages ++ [message]) ↔
      AreNumbered messages ∧ message.sequence = messages.length := by
  unfold AreNumbered
  rw [List.map_append, List.length_append, List.length_singleton,
    List.range_succ, List.map_singleton]
  constructor
  · intro areNumbered
    obtain ⟨areEarlier, isNumber⟩ := List.append_inj' areNumbered rfl
    exact ⟨areEarlier, (List.cons.inj isNumber).1⟩
  · rintro ⟨areEarlier, isNumber⟩
    rw [areEarlier, isNumber]

theorem foldlM_concat {raw : Bytes} :
    (frames ++ [raw]).foldlM (Transcript.acceptFrame sha256 invocation) .start =
        .ok after ↔
      ∃ before,
        frames.foldlM (Transcript.acceptFrame sha256 invocation) .start =
            .ok before ∧
          before.acceptFrame sha256 invocation raw = .ok after := by
  rw [List.foldlM_append, bind_ok]
  simp only [List.foldlM_cons, List.foldlM_nil, bind_pure]

theorem foldlM_acceptFrame :
    frames.foldlM (Transcript.acceptFrame sha256 invocation) .start =
        .ok after ↔
      ∃ messages : List Message, frames = messages.map (encode invocation) ∧
          AreNumbered messages ∧
            takeAll sha256 invocation (messages.map Message.entry) =
              .ok after := by
  induction frames using List.reverseRecOn generalizing after with
  | nil =>
      constructor
      · intro isStart
        cases isStart
        exact ⟨[], rfl, rfl, rfl⟩
      · rintro ⟨messages, isNil, -, areTaken⟩
        rw [List.map_eq_nil_iff.mp isNil.symm] at areTaken
        exact areTaken
  | append_singleton frames raw inductionHypothesis =>
      rw [foldlM_concat]
      constructor
      · rintro ⟨before, areBefore, isAccepted⟩
        obtain ⟨messages, rfl, areNumbered, areTaken⟩ :=
          inductionHypothesis.mp areBefore
        obtain ⟨message, rfl, isNumber, isNext⟩ := acceptFrame_ok.mp isAccepted
        have isCount := (takeAll_keeps areTaken).1
        rw [List.length_map] at isCount
        refine ⟨messages ++ [message], ?_, ?_, ?_⟩
        · rw [List.map_append, List.map_singleton]
        · exact areNumbered_concat.mpr ⟨areNumbered, isNumber.trans isCount⟩
        · rw [List.map_append]
          exact takeAll_concat.mpr ⟨before, areTaken, next_ok.mp isNext⟩
      · rintro ⟨messages, areFrames, areNumbered, areTaken⟩
        rcases List.eq_nil_or_concat messages with
          rfl | ⟨front, message, rfl⟩
        · exact (List.append_ne_nil_of_right_ne_nil _
            (List.cons_ne_nil _ _) areFrames).elim
        · rw [List.concat_eq_append] at *
          rw [List.map_append] at areFrames areTaken
          obtain ⟨areFront, isRaw⟩ := List.append_inj' areFrames rfl
          obtain ⟨rfl, -⟩ := List.cons.inj isRaw
          obtain ⟨before, areBefore, isNext⟩ := takeAll_concat.mp areTaken
          obtain ⟨areEarlier, isNumber⟩ := areNumbered_concat.mp areNumbered
          have isCount := (takeAll_keeps areBefore).1
          rw [List.length_map] at isCount
          exact ⟨before,
            inductionHypothesis.mpr ⟨front, areFront, areEarlier, areBefore⟩,
            acceptFrame_ok.mpr
              ⟨message, rfl, isNumber.trans isCount.symm, next_ok.mpr isNext⟩⟩

theorem acceptAll_ok (noFailure : before.failed = false) :
    frames.foldlM (Transcript.acceptFrame sha256 invocation) before =
        .ok after ↔
      (∀ answer ∈ (Transcript.acceptAll sha256 invocation before frames).1,
        answer = .ok ()) ∧
        (Transcript.acceptAll sha256 invocation before frames).2 =
          after := by
  induction frames generalizing before with
  | nil =>
      constructor
      · intro isStart
        cases isStart
        exact ⟨nofun, rfl⟩
      · rintro ⟨-, rfl⟩
        rfl
  | cons raw frames inductionHypothesis =>
      have isAccept : before.accept sha256 invocation raw =
            match before.acceptFrame sha256 invocation raw with
            | .ok after => (.ok (), after)
            | .error violation =>
                (.error violation, { before with failed := true }) := by
        rw [Transcript.accept, noFailure]
        exact if_neg Bool.false_ne_true
      rw [Transcript.acceptAll, isAccept, List.foldlM_cons]
      cases isNext : before.acceptFrame sha256 invocation raw with
      | error violation =>
          constructor
          · intro isFold
            cases isFold
          · rintro ⟨areOk, -⟩
            cases areOk _ List.mem_cons_self
      | ok next =>
          obtain ⟨_, -, -, isTaken⟩ := acceptFrame_ok.mp isNext
          have isKept := (Transcript.take_keeps (next_ok.mp isTaken).2).2
          rw [noFailure] at isKept
          refine (inductionHypothesis isKept).trans (and_congr_left fun _ => ?_)
          dsimp only
          constructor
          · exact fun areOk => List.forall_mem_cons.mpr ⟨rfl, areOk⟩
          · exact fun areOk => (List.forall_mem_cons.mp areOk).2

theorem Reached.noError {transcript : Transcript}
    (isReached : Reached sha256 invocation entries transcript) :
    transcript.error = none := by
  cases isReached <;> rfl

theorem isTranscript_of_takeAll (isTaken :
      takeAll sha256 invocation (messages.map Message.entry) = .ok after)
    (isLast : after.complete = true ∨ after.error ≠ none) :
    IsTranscript sha256 invocation messages := by
  have valid : ∀ (some : List Message), ∀ entry ∈ some.map Message.entry,
      IsPayload entry.1 entry.2 := by
    intro some entry member
    obtain ⟨message, -, rfl⟩ := List.mem_map.mp member
    exact message.isPayload
  rcases takeAll_reached isTaken with
    isReached | ⟨before, error, transcript, isSplit, isError, isReached,
      isOpen, -⟩
  · refine Or.inl ⟨?_, valid messages⟩
    have isComplete : after.complete = true :=
      isLast.resolve_right fun isError => isError isReached.noError
    generalize isEntries : messages.map Message.entry = entries at isReached
    cases isReached with
    | completed body status receipt isBody areEnded isZero =>
        exact ⟨body, status, receipt, isBody, areEnded, isZero, rfl⟩
    | opening | output | exited | reaped => cases isComplete
  · obtain ⟨front, back, rfl, rfl, isBack⟩ := List.map_eq_append_iff.mp isSplit
    obtain ⟨last, rfl, rfl⟩ := List.map_eq_singleton_iff.mp isBack
    obtain ⟨rest, isSome, isShape⟩ := isReached.extends isOpen (valid front)
    exact Or.inr ⟨front, last, rest, rfl, isError, isSome, isShape⟩

theorem takeAll_of_isTranscript
    (isTranscript : IsTranscript sha256 invocation messages) :
    ∃ after,
      takeAll sha256 invocation (messages.map Message.entry) = .ok after ∧
        (after.complete = true ∨ after.error ≠ none) := by
  rcases isTranscript with isShape | ⟨front, last, rest, rfl, isError,
    isSome, isShape⟩
  · obtain ⟨body, status, receipt, isBody, areEnded, isZero, isEntries⟩ :=
      isShape.shaped
    rw [isEntries]
    exact ⟨_, takeAll_shape receipt isBody areEnded isZero, Or.inl rfl⟩
  · obtain ⟨body, status, receipt, isBody, areEnded, isZero, isEntries⟩ :=
      isShape.shaped
    have isWhole : takeAll sha256 invocation _ = .ok _ :=
      takeAll_shape receipt isBody areEnded isZero
    rw [← isEntries] at isWhole
    obtain ⟨before, isBefore, isRest⟩ := takeAll_append.mp isWhole
    cases rest with
    | nil => exact (isSome rfl).elim
    | cons next others =>
        rw [List.foldlM_cons] at isRest
        obtain ⟨_, isNext, -⟩ := bind_ok.mp isRest
        obtain ⟨isOpen, -⟩ := next_ok.mp isNext
        have isTold :
            ∃ after, before.take sha256 invocation last.entry = .ok after ∧
              after.error ≠ none := by
          have isEntry : last.entry.1 = .error := isError
          rw [Transcript.take, if_pos isEntry]
          exact ⟨_, rfl, nofun⟩
        obtain ⟨after, isTaken, isFailure⟩ := isTold
        rw [List.map_append]
        exact ⟨after, takeAll_concat.mpr ⟨before, isBefore, isOpen, isTaken⟩,
          Or.inr isFailure⟩

/-- The frames that are accepted are the encoded transcripts. -/
theorem accepts_iff (sha256 : Bytes → Block 32) (invocation : Invocation)
    (frames : List Bytes) :
    Accepts sha256 invocation frames ↔ ∃ messages : List Message,
        frames = messages.map (encode invocation) ∧ AreNumbered messages ∧
            IsTranscript sha256 invocation messages := by
  unfold Accepts
  constructor
  · rintro ⟨areOk, isFinished⟩
    obtain ⟨messages, areFrames, areNumbered, areTaken⟩ :=
      foldlM_acceptFrame.mp ((acceptAll_ok rfl).mpr ⟨areOk, rfl⟩)
    refine ⟨messages, areFrames, areNumbered,
      isTranscript_of_takeAll areTaken ?_⟩
    unfold Transcript.finish at isFinished
    split at isFinished
    · rename_i isDone
      exact isDone.2
    · cases isFinished
  · rintro ⟨messages, areFrames, areNumbered, isTranscript⟩
    obtain ⟨after, areTaken, isLast⟩ := takeAll_of_isTranscript isTranscript
    have isFold :=
      foldlM_acceptFrame.mpr ⟨messages, areFrames, areNumbered, areTaken⟩
    obtain ⟨areOk, isAfter⟩ := (acceptAll_ok rfl).mp isFold
    refine ⟨areOk, ?_⟩
    rw [isAfter, Transcript.finish, if_pos ⟨(takeAll_keeps areTaken).2, isLast⟩]

/-! ## The protocol -/

/-- Encoding and decoding are inverse to each other. -/
structure IsExactCodec (invocation : Invocation) : Prop where
  returned :
    ∀ message, decode invocation (encode invocation message) = .ok message
  only : ∀ raw message,
      decode invocation raw = .ok message → raw = encode invocation message

/-- The wire format of a helper: single frames, streams of them, and whole
runs. -/
theorem helper_isExact (sha256 : Bytes → Block 32) (invocation : Invocation) :
    IsExactCodec invocation ∧ IsStreamDecoder invocation ∧ ∀ frames,
        Accepts sha256 invocation frames ↔ ∃ messages : List Message,
            frames = messages.map (encode invocation) ∧ AreNumbered messages ∧
                IsTranscript sha256 invocation messages :=
  ⟨⟨decode_encode invocation,
      fun _ _ isDecoded => (encode_of_decode isDecoded).symm⟩,
    isStreamDecoder invocation, accepts_iff sha256 invocation⟩

end TicketSandbox.Network.Helper
