import TicketSandbox.Library.Framing
import TicketSandbox.Network.HelperProtocol

namespace TicketSandbox.Network.Helper

/-!
# The helper's streams

`HelperStreamDecoderH1`: a stream of messages is decoded byte by byte.
-/

open FixedWidth (Bytes)
open Framing (Format Outcome)
open Raises (bind_error bind_ok ensure ensure_error ensure_ok)

/-! ## The decoder -/

/-- One round of the loop in `feed`: the byte is put behind the buffer, and a
frame that is whole is decoded. -/
def push (invocation : Invocation) (frames : Nat) (buffer : Bytes)
    (value : UInt8) : Except Violation (List Message × Nat × Bytes) := do
  ensure (buffer.length < maxFrame) .protocolInvalid
  let buffer := buffer ++ [value]
  if headerSize ≤ buffer.length then
    let header := Header.unpackFrom buffer
    ensure header.IsSound .protocolInvalid
    if buffer.length = headerSize + header.size then
      ensure (frames + 1 ≤ maxMessages) .protocolInvalid
      let message ← decode invocation buffer
      pure ([message], frames + 1, [])
    else
      pure ([], frames, buffer)
  else
    pure ([], frames, buffer)

/-- The loop in `feed`. -/
def feedBytes (invocation : Invocation) :
    Nat → Bytes → Bytes → Except Violation (List Message × Nat × Bytes)
  | frames, buffer, [] => .ok ([], frames, buffer)
  | frames, buffer, value :: values =>
      match push invocation frames buffer value with
      | .error violation => .error violation
      | .ok (found, frames, buffer) =>
          match feedBytes invocation frames buffer values with
          | .error violation => .error violation
          | .ok (others, frames, buffer) =>
              .ok (found ++ others, frames, buffer)

/-- `HelperStreamDecoderH1`. -/
structure Decoder where
  buffer : Bytes
  failed : Bool
  frames : Nat
  finished : Bool

/-- `HelperStreamDecoderH1.__init__`. -/
def Decoder.start : Decoder := ⟨[], false, 0, false⟩

/-- A decoder that has raised. -/
def Decoder.fail (decoder : Decoder) : Decoder :=
  { decoder with failed := true, buffer := [] }

/-- `HelperStreamDecoderH1.feed`. -/
def Decoder.feed (invocation : Invocation) (decoder : Decoder)
    (piece : Bytes) : Except Violation (List Message) × Decoder :=
  if decoder.failed = false ∧ decoder.finished = false ∧
      piece.length ≤ maxFrame then
    match feedBytes invocation decoder.frames decoder.buffer piece with
    | .error violation => (.error violation, decoder.fail)
    | .ok (messages, frames, buffer) =>
        (.ok messages, { decoder with frames := frames, buffer := buffer })
  else
    (.error .protocolInvalid, decoder.fail)

/-- `HelperStreamDecoderH1.finish`. -/
def Decoder.finish (decoder : Decoder) : Except Violation Unit × Decoder :=
  if decoder.failed = true ∨ decoder.buffer ≠ [] then
    (.error .protocolInvalid, decoder.fail)
  else
    (.ok (), { decoder with finished := true })

/-- The answers to the pieces of a stream, and the decoder behind them. -/
def Decoder.feedAll (invocation : Invocation) :
    Decoder → List Bytes → List (Except Violation (List Message)) × Decoder
  | decoder, [] => ([], decoder)
  | decoder, piece :: pieces =>
      let fed := decoder.feed invocation piece
      let others := Decoder.feedAll invocation fed.2 pieces
      (fed.1 :: others.1, others.2)

/-- The messages of an answer. -/
def yielded : Except Violation (List Message) → List Message
  | .error _ => []
  | .ok messages => messages

/-! ## Frames -/

/-- The frame in front of a buffer, its bytes not yet decoded. -/
def nextFrame (buffer : Bytes) : Outcome UInt8 Unit Bytes Violation :=
  if buffer.length < headerSize then
    .incomplete
  else if (Header.unpackFrom buffer).IsSound then
    if buffer.length < headerSize + (Header.unpackFrom buffer).size then
      .incomplete
    else
      .frame (buffer.take (headerSize + (Header.unpackFrom buffer).size)) ()
        (buffer.drop (headerSize + (Header.unpackFrom buffer).size))
  else
    .rejected .protocolInvalid

/-- A buffer with a sound header in front of it. -/
structure Headed (buffer : Bytes) : Prop where
  isLong : headerSize ≤ buffer.length
  isSound : (Header.unpackFrom buffer).IsSound

variable {buffer : Bytes}

theorem Headed.append
    (headed : Headed buffer) (later : Bytes) : Headed (buffer ++ later) where
  isLong := by
    have isLong := headed.isLong
    rw [List.length_append]
    omega
  isSound := by
    rw [Header.unpackFrom_append headed.isLong]
    exact headed.isSound

theorem nextFrame_headed (headed : Headed buffer) :
    nextFrame buffer =
      if buffer.length < headerSize + (Header.unpackFrom buffer).size then
        .incomplete
      else
        .frame (buffer.take (headerSize + (Header.unpackFrom buffer).size)) ()
          (buffer.drop (headerSize + (Header.unpackFrom buffer).size)) := by
  rw [nextFrame, if_neg (Nat.not_lt.mpr headed.isLong), if_pos headed.isSound]

/-- A short buffer is incomplete. -/
theorem nextFrame_short (isShort : buffer.length < headerSize) :
    nextFrame buffer = .incomplete := by
  rw [nextFrame, if_pos isShort]

theorem nextFrame_unsound (isLong : headerSize ≤ buffer.length)
    (isUnsound : ¬ (Header.unpackFrom buffer).IsSound) :
    nextFrame buffer = .rejected .protocolInvalid := by
  rw [nextFrame, if_neg (Nat.not_lt.mpr isLong), if_neg isUnsound]

variable {rest held piece : Bytes} {violation : Violation}
  {invocation : Invocation} {message : Message} {value : UInt8}
  {after : Unit × Nat} {messages : List Message} {pieces : List Bytes}
  {frame : Bytes}

theorem nextFrame_frame
    {after : Unit} (isNext : nextFrame buffer = .frame frame after rest) :
    Headed buffer ∧
      headerSize + (Header.unpackFrom buffer).size ≤ buffer.length ∧
      frame = buffer.take (headerSize + (Header.unpackFrom buffer).size) ∧
      rest = buffer.drop (headerSize + (Header.unpackFrom buffer).size) := by
  by_cases isShort : buffer.length < headerSize
  · rw [nextFrame_short isShort] at isNext
    cases isNext
  · have isLong := Nat.le_of_not_lt isShort
    by_cases isSound : (Header.unpackFrom buffer).IsSound
    · have headed : Headed buffer := ⟨isLong, isSound⟩
      rw [nextFrame_headed headed] at isNext
      split at isNext
      · cases isNext
      · rename_i isWhole
        cases isNext
        exact ⟨headed, Nat.le_of_not_lt isWhole, rfl, rfl⟩
    · rw [nextFrame_unsound isLong isSound] at isNext
      cases isNext

theorem nextFrame_rejected (isNext : nextFrame buffer = .rejected violation) :
    headerSize ≤ buffer.length ∧
      ¬ (Header.unpackFrom buffer).IsSound ∧ violation = .protocolInvalid := by
  by_cases isShort : buffer.length < headerSize
  · rw [nextFrame_short isShort] at isNext
    cases isNext
  · have isLong := Nat.le_of_not_lt isShort
    by_cases isSound : (Header.unpackFrom buffer).IsSound
    · rw [nextFrame_headed ⟨isLong, isSound⟩] at isNext
      split at isNext
      · cases isNext
      · cases isNext
    · rw [nextFrame_unsound isLong isSound] at isNext
      cases isNext
      exact ⟨isLong, isSound, rfl⟩

/-- The frames of a stream, their bytes not yet decoded. -/
def rawFrames : Format UInt8 Unit Bytes Violation where
  next := fun _ buffer => nextFrame buffer
  shorter := by
    intro _ buffer frame after rest isNext
    obtain ⟨headed, isWhole, -, rfl⟩ := nextFrame_frame isNext
    have isLong := headed.isLong
    unfold headerSize at *
    rw [List.length_drop]
    omega
  frame_append := by
    intro _ buffer frame after rest isNext later
    obtain ⟨headed, isWhole, rfl, rfl⟩ := nextFrame_frame isNext
    have isWhole' : ¬ (buffer ++ later).length <
          headerSize + (Header.unpackFrom buffer).size := by
      rw [List.length_append]
      omega
    rw [nextFrame_headed (headed.append later),
      Header.unpackFrom_append headed.isLong, if_neg isWhole',
      List.take_append_of_le_length isWhole,
      List.drop_append_of_le_length isWhole]
  rejected_append := by
    intro _ buffer violation isNext later
    obtain ⟨isLong, isUnsound, rfl⟩ := nextFrame_rejected isNext
    refine nextFrame_unsound ?_ ?_
    · rw [List.length_append]
      omega
    · rwa [Header.unpackFrom_append isLong]

/-- A frame is counted and decoded. -/
def count (invocation : Invocation) (frames : Nat)
    (frame : Bytes) : Except Violation (Message × Nat) := do
  ensure (frames + 1 ≤ maxMessages) .protocolInvalid
  let message ← decode invocation frame
  pure (message, frames + 1)

/-- The messages of a stream, one frame after another. -/
def frameByFrame (invocation : Invocation) :
    Format UInt8 (Unit × Nat) Message Violation :=
  rawFrames.refine (count invocation)

variable {frames : Nat}

theorem count_ok {after : Nat} :
    count invocation frames frame = .ok (message, after) ↔
      frames + 1 ≤ maxMessages ∧ decode invocation frame = .ok message ∧
        after = frames + 1 := by
  constructor
  · intro isCounted
    obtain ⟨_, isFew, isCounted⟩ := bind_ok.mp isCounted
    obtain ⟨found, isDecoded, isCounted⟩ := bind_ok.mp isCounted
    cases isCounted
    exact ⟨ensure_ok.mp isFew, isDecoded, rfl⟩
  · rintro ⟨isFew, isDecoded, rfl⟩
    exact bind_ok.mpr ⟨(), ensure_ok.mpr isFew,
      bind_ok.mpr ⟨message, isDecoded, rfl⟩⟩

/-- The answer to bytes behind a buffer, from the frames that are cut from
both. -/
def settled :
    List Message × Except Violation ((Unit × Nat) × Bytes) →
      Except Violation (List Message × Nat × Bytes)
  | (_, .error violation) => .error violation
  | (messages, .ok (state, held)) => .ok (messages, state.2, held)

theorem isHeld (isIncomplete :
      (frameByFrame invocation).next ((), frames) buffer = .incomplete) :
    buffer.length < headerSize ∨ Headed buffer ∧
        buffer.length < headerSize + (Header.unpackFrom buffer).size := by
  by_cases isShort : buffer.length < headerSize
  · exact Or.inl isShort
  · have isLong := Nat.le_of_not_lt isShort
    have isNext : nextFrame buffer = .incomplete := by
      cases isNext : nextFrame buffer with
      | incomplete => rfl
      | rejected violation =>
          simp only [frameByFrame, Format.refine, rawFrames, isNext]
            at isIncomplete
          cases isIncomplete
      | frame frame after rest =>
          simp only [frameByFrame, Format.refine, rawFrames, isNext]
            at isIncomplete
          cases isCounted : count invocation frames frame with
          | error violation =>
              simp only [isCounted] at isIncomplete
              cases isIncomplete
          | ok counted =>
              simp only [isCounted] at isIncomplete
              cases isIncomplete
    by_cases isSound : (Header.unpackFrom buffer).IsSound
    · have headed : Headed buffer := ⟨isLong, isSound⟩
      rw [nextFrame_headed headed] at isNext
      split at isNext
      · rename_i isCut
        exact Or.inr ⟨headed, isCut⟩
      · cases isNext
    · rw [nextFrame_unsound isLong isSound] at isNext
      cases isNext

theorem next_incomplete (isNext : nextFrame buffer = .incomplete) :
    (frameByFrame invocation).next ((), frames) buffer = .incomplete := by
  simp only [frameByFrame, Format.refine, rawFrames, isNext]

theorem next_rejected (isNext : nextFrame buffer = .rejected violation) :
    (frameByFrame invocation).next ((), frames) buffer =
      .rejected violation := by
  simp only [frameByFrame, Format.refine, rawFrames, isNext]

theorem next_refused (isNext : nextFrame buffer = .frame frame () rest)
    (isCounted : count invocation frames frame = .error violation) :
    (frameByFrame invocation).next ((), frames) buffer =
      .rejected violation := by
  simp only [frameByFrame, Format.refine, rawFrames, isNext, isCounted]

theorem next_message
    {after : Nat} (isNext : nextFrame buffer = .frame frame () rest)
    (isCounted : count invocation frames frame = .ok (message, after)) :
    (frameByFrame invocation).next ((), frames) buffer =
      .frame message ((), after) rest := by
  simp only [frameByFrame, Format.refine, rawFrames, isNext, isCounted]

theorem drain_nil (invocation : Invocation) (state : Unit × Nat) :
    (frameByFrame invocation).drain state [] = ([], .ok (state, [])) :=
  Format.drain_incomplete (next_incomplete (nextFrame_short (by decide)))

theorem push_held (isFew : buffer.length < maxFrame) (isHeld :
      (buffer ++ [value]).length < headerSize ∨ Headed (buffer ++ [value]) ∧
          (buffer ++ [value]).length ≠
            headerSize + (Header.unpackFrom (buffer ++ [value])).size) :
    push invocation frames buffer value =
      .ok ([], frames, buffer ++ [value]) := by
  refine bind_ok.mpr ⟨(), ensure_ok.mpr isFew, ?_⟩
  rcases isHeld with isShort | ⟨headed, isCut⟩
  · dsimp only
    rw [if_neg (Nat.not_le.mpr isShort)]
    rfl
  · dsimp only
    rw [if_pos headed.isLong]
    refine bind_ok.mpr ⟨(), ensure_ok.mpr headed.isSound, ?_⟩
    rw [if_neg isCut]
    rfl

theorem push_unsound (isFew : buffer.length < maxFrame)
    (isLong : headerSize ≤ (buffer ++ [value]).length)
    (isUnsound : ¬ (Header.unpackFrom (buffer ++ [value])).IsSound) :
    push invocation frames buffer value = .error .protocolInvalid := by
  refine bind_error.mpr (Or.inr ⟨(), ensure_ok.mpr isFew, ?_⟩)
  dsimp only
  rw [if_pos isLong]
  exact bind_error.mpr (Or.inl (ensure_error.mpr ⟨isUnsound, rfl⟩))

theorem push_whole (isFew : buffer.length < maxFrame)
    (headed : Headed (buffer ++ [value])) (isWhole :
      (buffer ++ [value]).length =
        headerSize + (Header.unpackFrom (buffer ++ [value])).size) :
    push invocation frames buffer value =
      match count invocation frames (buffer ++ [value]) with
      | .error violation => .error violation
      | .ok (message, after) => .ok ([message], after, []) := by
  unfold push
  rw [ensure, if_pos isFew]
  dsimp only [bind, Except.bind]
  rw [if_pos headed.isLong, ensure, if_pos headed.isSound]
  dsimp only
  rw [if_pos isWhole]
  unfold count
  dsimp only [bind, Except.bind]
  cases ensure (frames + 1 ≤ maxMessages) Violation.protocolInvalid with
  | error violation => rfl
  | ok _ =>
      cases decode invocation (buffer ++ [value]) with
      | error violation => rfl
      | ok message => rfl

theorem held_room (isHeld : buffer.length < headerSize ∨ Headed buffer ∧
          buffer.length < headerSize + (Header.unpackFrom buffer).size)
    (value : UInt8) :
    buffer.length < maxFrame ∧ (Headed (buffer ++ [value]) →
        (buffer ++ [value]).length ≤
          headerSize + (Header.unpackFrom (buffer ++ [value])).size) := by
  have isLength : (buffer ++ [value]).length = buffer.length + 1 :=
    List.length_append
  rcases isHeld with isShort | ⟨headed, isCut⟩
  · constructor
    · unfold headerSize at isShort
      unfold maxFrame headerSize
      omega
    · intro headed
      rw [isLength]
      omega
  · have isSmall := headed.isSound.sizeMax
    constructor
    · unfold maxFrame
      omega
    · intro _
      rw [Header.unpackFrom_append headed.isLong, isLength]
      omega

theorem push_eq (isIncomplete :
      (frameByFrame invocation).next ((), frames) buffer = .incomplete)
    (value : UInt8) :
    settled ((frameByFrame invocation).drain ((), frames) (buffer ++ [value])) =
      push invocation frames buffer value := by
  obtain ⟨isFew, atMost⟩ := held_room (isHeld isIncomplete) value
  by_cases isShort : (buffer ++ [value]).length < headerSize
  · rw [push_held isFew (Or.inl isShort),
      Format.drain_incomplete (next_incomplete (nextFrame_short isShort))]
    rfl
  have isLong := Nat.le_of_not_lt isShort
  by_cases isSound : (Header.unpackFrom (buffer ++ [value])).IsSound
  · have headed : Headed (buffer ++ [value]) := ⟨isLong, isSound⟩
    have isMost := atMost headed
    have isNext := nextFrame_headed headed
    by_cases isWhole : (buffer ++ [value]).length =
          headerSize + (Header.unpackFrom (buffer ++ [value])).size
    · rw [if_neg (by omega), ← isWhole, List.take_length,
        List.drop_length] at isNext
      rw [push_whole isFew headed isWhole]
      cases isCounted : count invocation frames (buffer ++ [value]) with
      | error violation =>
          rw [Format.drain_rejected (next_refused isNext isCounted)]
          rfl
      | ok counted =>
          rw [Format.drain_frame (next_message isNext isCounted), drain_nil]
          rfl
    · rw [if_pos (by omega)] at isNext
      rw [push_held isFew (Or.inr ⟨headed, isWhole⟩),
        Format.drain_incomplete (next_incomplete isNext)]
      rfl
  · rw [push_unsound isFew isLong isSound,
      Format.drain_rejected (next_rejected (nextFrame_unsound isLong isSound))]
    rfl

theorem feedBytes_eq (isIncomplete :
      (frameByFrame invocation).next ((), frames) buffer = .incomplete)
    (values : Bytes) :
    feedBytes invocation frames buffer values = settled
        ((frameByFrame invocation).drain ((), frames) (buffer ++ values)) := by
  induction values generalizing frames buffer with
  | nil =>
      rw [List.append_nil, Format.drain_incomplete isIncomplete]
      rfl
  | cons value values inductionHypothesis =>
      have isSplit : buffer ++ value :: values = buffer ++ [value] ++ values :=
        List.append_cons buffer value values
      rw [feedBytes, ← push_eq isIncomplete, isSplit,
        (frameByFrame invocation).drain_append ((), frames)
          (buffer ++ [value]) values]
      cases isDrained :
          (frameByFrame invocation).drain ((), frames) (buffer ++ [value]) with
      | mk found stop =>
          cases stop with
          | error violation => rfl
          | ok behind =>
              obtain ⟨⟨_, after⟩, rest⟩ := behind
              dsimp only [settled]
              rw [inductionHypothesis (Format.drain_held isDrained)]
              cases (frameByFrame invocation).drain ((), after)
                  (rest ++ values) with
              | mk others last =>
                  cases last with
                  | error violation => rfl
                  | ok held => rfl

/-- The messages of a stream from its first byte on, and what is held back or
was wrong. -/
def decodeStream (invocation : Invocation) (stream : Bytes) :
    List Message × Except Violation ((Unit × Nat) × Bytes) :=
  (frameByFrame invocation).drain ((), 0) stream

theorem nextFrame_encode
    (invocation : Invocation) (message : Message) (rest : Bytes) :
    nextFrame (encode invocation message ++ rest) =
      .frame (encode invocation message) () rest := by
  have isLength := length_encode invocation message
  have isHeader := unpackFrom_encode invocation message rest
  have headed : Headed (encode invocation message ++ rest) := by
    refine ⟨?_, ?_⟩
    · rw [List.length_append]
      omega
    · rw [isHeader]
      exact message.header_isSound
  have isWhole : ¬ (encode invocation message ++ rest).length <
        headerSize + message.header.size := by
    rw [List.length_append]
    omega
  rw [nextFrame_headed headed, isHeader, if_neg isWhole,
    List.take_left' isLength, List.drop_left' isLength]

theorem drain_encode (invocation : Invocation) (messages : List Message)
    (isFew : frames + messages.length ≤ maxMessages) :
    (frameByFrame invocation).drain ((), frames)
        (messages.flatMap (encode invocation)) =
      (messages, .ok (((), frames + messages.length), [])) := by
  induction messages generalizing frames with
  | nil => exact drain_nil invocation ((), frames)
  | cons message messages inductionHypothesis =>
      rw [List.length_cons] at isFew
      have isCounted : count invocation frames (encode invocation message) =
            .ok (message, frames + 1) :=
        count_ok.mpr ⟨by omega, decode_encode invocation message, rfl⟩
      have isNext := next_message (nextFrame_encode invocation message
            (messages.flatMap (encode invocation)))
          isCounted
      have isFewer : frames + 1 + messages.length ≤ maxMessages := by
        omega
      have others := inductionHypothesis isFewer
      rw [List.flatMap_cons, Format.drain_frame isNext, others,
        List.length_cons]
      dsimp only
      rw [Nat.add_assoc, Nat.add_comm 1]

theorem next_frame
    (isNext : (frameByFrame invocation).next ((), frames) buffer =
        .frame message after rest) :
    buffer = encode invocation message ++ rest ∧
      after = ((), frames + 1) ∧ frames + 1 ≤ maxMessages := by
  cases isCut : nextFrame buffer with
  | incomplete =>
      rw [next_incomplete isCut] at isNext
      cases isNext
  | rejected violation =>
      rw [next_rejected isCut] at isNext
      cases isNext
  | frame frame state behind =>
      cases isCounted : count invocation frames frame with
      | error violation =>
          rw [next_refused isCut isCounted] at isNext
          cases isNext
      | ok counted =>
          obtain ⟨found, later⟩ := counted
          rw [next_message isCut isCounted] at isNext
          cases isNext
          obtain ⟨isFew, isDecoded, rfl⟩ := count_ok.mp isCounted
          obtain ⟨-, -, rfl, rfl⟩ := nextFrame_frame isCut
          rw [encode_of_decode isDecoded, List.take_append_drop]
          exact ⟨rfl, rfl, isFew⟩

theorem encode_of_drain (isFew : frames ≤ maxMessages) (isDrained :
      (frameByFrame invocation).drain ((), frames) buffer =
        (messages, .ok (after, held))) :
    buffer = messages.flatMap (encode invocation) ++ held ∧
      after = ((), frames + messages.length) ∧
        frames + messages.length ≤ maxMessages := by
  induction messages generalizing frames buffer with
  | nil =>
      cases isNext : (frameByFrame invocation).next ((), frames) buffer with
      | incomplete =>
          rw [Format.drain_incomplete isNext] at isDrained
          cases isDrained
          exact ⟨rfl, rfl, isFew⟩
      | rejected violation =>
          rw [Format.drain_rejected isNext] at isDrained
          cases isDrained
      | frame message after rest =>
          rw [Format.drain_frame isNext] at isDrained
          cases (Prod.mk.inj isDrained).1
  | cons message messages inductionHypothesis =>
      cases isNext : (frameByFrame invocation).next ((), frames) buffer with
      | incomplete =>
          rw [Format.drain_incomplete isNext] at isDrained
          cases isDrained
      | rejected violation =>
          rw [Format.drain_rejected isNext] at isDrained
          cases isDrained
      | frame first next rest =>
          rw [Format.drain_frame isNext] at isDrained
          obtain ⟨isFirst, isStop⟩ := Prod.mk.inj isDrained
          obtain ⟨rfl, isRest⟩ := List.cons.inj isFirst
          obtain ⟨rfl, rfl, isNumber⟩ := next_frame isNext
          obtain ⟨rfl, rfl, isCount⟩ :=
            inductionHypothesis isNumber (Prod.ext isRest isStop)
          rw [List.flatMap_cons, List.append_assoc, List.length_cons]
          refine ⟨rfl, ?_, ?_⟩
          · rw [Nat.add_assoc, Nat.add_comm 1]
          · omega

/-! ## Pieces -/

/-- A decoder that waits for the rest of a frame. -/
structure Decoder.IsReading
    (invocation : Invocation) (decoder : Decoder) : Prop where
  unfailed : decoder.failed = false
  unfinished : decoder.finished = false
  incomplete :
    (frameByFrame invocation).next ((), decoder.frames) decoder.buffer =
      .incomplete

/-- No piece is longer than a frame can be. -/
def AreFit (pieces : List Bytes) : Prop :=
  ∀ piece ∈ pieces, piece.length ≤ maxFrame

variable {decoder : Decoder}

theorem Decoder.feed_eq (isReading : decoder.IsReading invocation)
    (fits : piece.length ≤ maxFrame) :
    decoder.feed invocation piece =
      match (frameByFrame invocation).drain ((), decoder.frames)
          (decoder.buffer ++ piece) with
      | (_, .error violation) => (.error violation, decoder.fail)
      | (messages, .ok (after, held)) =>
          (.ok messages,
            { decoder with frames := after.2, buffer := held }) := by
  rw [feed, if_pos ⟨isReading.unfailed, isReading.unfinished, fits⟩,
    feedBytes_eq isReading.incomplete]
  cases (frameByFrame invocation).drain ((), decoder.frames)
      (decoder.buffer ++ piece) with
  | mk messages stop =>
      cases stop with
      | error violation => rfl
      | ok behind => rfl

theorem Decoder.feedAll_failed (invocation : Invocation) (decoder : Decoder)
    (isFailed : decoder.failed = true) (pieces : List Bytes) :
    (Decoder.feedAll invocation decoder pieces).1 =
        pieces.map (fun _ => .error .protocolInvalid) ∧
      (Decoder.feedAll invocation decoder pieces).2.failed = true := by
  induction pieces generalizing decoder with
  | nil => exact ⟨rfl, isFailed⟩
  | cons piece pieces inductionHypothesis =>
      have isFed : decoder.feed invocation piece =
            (.error .protocolInvalid, decoder.fail) := by
        rw [feed, if_neg]
        rintro ⟨isUnfailed, -⟩
        rw [isFailed] at isUnfailed
        cases isUnfailed
      obtain ⟨others, stays⟩ := inductionHypothesis decoder.fail rfl
      rw [feedAll, isFed]
      refine ⟨?_, stays⟩
      rw [others, List.map_cons]

theorem Decoder.feedAll_ok (isReading : decoder.IsReading invocation)
    (fit : AreFit pieces) (isDrained :
      (frameByFrame invocation).drain ((), decoder.frames)
          (decoder.buffer ++ pieces.flatten) =
        (messages, .ok (after, held))) :
    ∃ answers : List (List Message), answers.flatten = messages ∧
        Decoder.feedAll invocation decoder pieces = (answers.map .ok,
            { decoder with frames := after.2, buffer := held }) := by
  induction pieces generalizing decoder messages with
  | nil =>
      rw [List.flatten_nil, List.append_nil,
        Format.drain_incomplete isReading.incomplete] at isDrained
      cases isDrained
      exact ⟨[], rfl, rfl⟩
  | cons piece pieces inductionHypothesis =>
      rw [List.flatten_cons, ← List.append_assoc,
        Format.drain_append] at isDrained
      have isFed := feed_eq isReading (fit piece List.mem_cons_self)
      cases isCut : (frameByFrame invocation).drain ((), decoder.frames)
            (decoder.buffer ++ piece) with
      | mk found stop =>
          rw [isCut] at isDrained isFed
          cases stop with
          | error violation => cases isDrained
          | ok behind =>
              obtain ⟨⟨_, frames⟩, rest⟩ := behind
              dsimp only at isDrained isFed
              obtain ⟨isMessages, isStop⟩ := Prod.mk.inj isDrained
              have isNext : Decoder.IsReading invocation
                    { decoder with frames := frames, buffer := rest } :=
                ⟨isReading.unfailed, isReading.unfinished,
                  Format.drain_held isCut⟩
              obtain ⟨answers, areAnswers, areFed⟩ := inductionHypothesis isNext
                  (fun other member =>
                    fit other (List.mem_cons_of_mem _ member))
                  (Prod.ext rfl isStop)
              refine ⟨found :: answers, ?_, ?_⟩
              · rw [List.flatten_cons, areAnswers, isMessages]
              · rw [feedAll, isFed]
                dsimp only
                rw [areFed, List.map_cons]

/-- The answers to the pieces of a stream with something wrong in it. -/
structure Decoder.Fails
    (invocation : Invocation) (decoder : Decoder) (pieces : List Bytes)
    (violation : Violation) (before : List Bytes) (piece : Bytes)
    (after : List Bytes) (answers : List (List Message)) : Prop where
  split : pieces = before ++ piece :: after
  stop : ((frameByFrame invocation).drain ((), decoder.frames)
      (decoder.buffer ++ (before.flatten ++ piece))).2 = .error violation
  found : ∃ behind, (frameByFrame invocation).drain ((), decoder.frames)
          (decoder.buffer ++ before.flatten) =
        (answers.flatten, .ok behind)
  fed : (Decoder.feedAll invocation decoder pieces).1 = answers.map .ok ++
        .error violation :: after.map fun _ => .error .protocolInvalid
  failed : (Decoder.feedAll invocation decoder pieces).2.failed = true

/-- A stream with something wrong in it fails at one of its pieces. -/
theorem Decoder.feedAll_error (isReading : decoder.IsReading invocation)
    (fit : AreFit pieces) (isDrained :
      ((frameByFrame invocation).drain ((), decoder.frames)
        (decoder.buffer ++ pieces.flatten)).2 = .error violation) :
    ∃ before piece after answers,
      decoder.Fails invocation pieces violation before piece after
        answers := by
  induction pieces generalizing decoder with
  | nil =>
      rw [List.flatten_nil, List.append_nil,
        Format.drain_incomplete isReading.incomplete] at isDrained
      cases isDrained
  | cons piece pieces inductionHypothesis =>
      have isFed := feed_eq isReading (fit piece List.mem_cons_self)
      have whole := (frameByFrame invocation).drain_append ((), decoder.frames)
          (decoder.buffer ++ piece)
      have isNone : (frameByFrame invocation).drain ((), decoder.frames)
              (decoder.buffer ++ [].flatten) =
            ([], .ok (((), decoder.frames), decoder.buffer)) := by
        rw [List.flatten_nil, List.append_nil,
          Format.drain_incomplete isReading.incomplete]
      rw [List.flatten_cons, ← List.append_assoc, whole] at isDrained
      cases isCut : (frameByFrame invocation).drain ((), decoder.frames)
            (decoder.buffer ++ piece) with
      | mk found stop =>
          rw [isCut] at isDrained isFed whole
          cases stop with
          | error other =>
              cases isDrained
              obtain ⟨others, stays⟩ :=
                feedAll_failed invocation decoder.fail rfl pieces
              refine ⟨[], piece, pieces, [], rfl, ?_, ⟨_, isNone⟩, ?_, ?_⟩
              · rw [List.flatten_nil, List.nil_append, isCut]
              · rw [feedAll, isFed]
                dsimp only
                rw [others]
                rfl
              · rw [feedAll, isFed]
                exact stays
          | ok behind =>
              obtain ⟨⟨_, frames⟩, rest⟩ := behind
              dsimp only at isDrained isFed whole
              have isNext : Decoder.IsReading invocation
                    { decoder with frames := frames, buffer := rest } :=
                ⟨isReading.unfailed, isReading.unfinished,
                  Format.drain_held isCut⟩
              obtain ⟨before, last, after, answers, fails⟩ :=
                inductionHypothesis isNext (fun other member =>
                    fit other (List.mem_cons_of_mem _ member))
                  isDrained
              obtain ⟨later, isFound⟩ := fails.found
              dsimp only at isFound
              refine ⟨piece :: before, last, after, found :: answers,
                ?_, ?_, ⟨later, ?_⟩, ?_, ?_⟩
              · rw [fails.split, List.cons_append]
              · rw [List.flatten_cons, List.append_assoc,
                  ← List.append_assoc, whole]
                exact fails.stop
              · rw [List.flatten_cons, ← List.append_assoc, whole, isFound,
                  List.flatten_cons]
              · rw [feedAll, isFed]
                dsimp only
                rw [fails.fed, List.map_cons, List.cons_append]
              · rw [feedAll, isFed]
                exact fails.failed

/-! ## What a decoder does -/

/-- The decoder of an invocation cuts a stream into its messages. -/
structure IsStreamDecoder (invocation : Invocation) : Prop where
  whole : ∀ (pieces : List Bytes) (messages : List Message)
      (frames : Nat) (held : Bytes),
      AreFit pieces → decodeStream invocation pieces.flatten =
            (messages, .ok (((), frames), held)) →
          ∃ answers : List (List Message), answers.flatten = messages ∧
              Decoder.feedAll invocation .start pieces =
                (answers.map .ok, ⟨held, false, frames, false⟩)
  failing :
    ∀ (pieces : List Bytes) (messages : List Message) (violation : Violation),
      AreFit pieces →
        decodeStream invocation pieces.flatten = (messages, .error violation) →
          ∃ before piece after answers,
            Decoder.start.Fails invocation pieces violation before piece
                after answers ∧
              answers.flatten <+: messages
  latched : ∀ (decoder : Decoder) (pieces : List Bytes), decoder.failed = true →
        (Decoder.feedAll invocation decoder pieces).1 =
            pieces.map (fun _ => .error .protocolInvalid) ∧
          (Decoder.feedAll invocation decoder pieces).2.failed = true ∧
            decoder.finish.1 = .error .protocolInvalid
  finished : ∀ pieces : List Bytes, AreFit pieces →
        ((Decoder.feedAll invocation .start pieces).2.finish.1 = .ok () ↔
          ∃ messages : List Message, messages.length ≤ maxMessages ∧
              pieces.flatten = messages.flatMap (encode invocation))
  framed : ∀ (stream held : Bytes) (messages : List Message) (frames : Nat),
      decodeStream invocation stream = (messages, .ok (((), frames), held)) →
        stream = messages.flatMap (encode invocation) ++ held ∧
          frames = messages.length ∧ messages.length ≤ maxMessages

theorem Decoder.start_isReading (invocation : Invocation) :
    Decoder.start.IsReading invocation where
  unfailed := rfl
  unfinished := rfl
  incomplete := next_incomplete (nextFrame_short (by decide))

theorem Decoder.Fails.isPrefix
    {before after : List Bytes} {answers : List (List Message)} (fails :
      Decoder.start.Fails invocation pieces violation before piece after
        answers) :
    answers.flatten <+: (decodeStream invocation pieces.flatten).1 := by
  obtain ⟨behind, isFound⟩ := fails.found
  have whole := (frameByFrame invocation).drain_append ((), 0) before.flatten
      (piece :: after).flatten
  have isStart : Decoder.start.buffer ++ before.flatten = before.flatten :=
    List.nil_append _
  have isCut : (frameByFrame invocation).drain ((), 0) before.flatten =
        (answers.flatten, .ok behind) := by
    rw [← isFound, isStart]
    rfl
  rw [isCut] at whole
  rw [fails.split, List.flatten_append, decodeStream, whole]
  exact List.prefix_append _ _

theorem finish_iff (invocation : Invocation) (fit : AreFit pieces) :
    (Decoder.feedAll invocation .start pieces).2.finish.1 = .ok () ↔
      ∃ messages : List Message, messages.length ≤ maxMessages ∧
          pieces.flatten = messages.flatMap (encode invocation) := by
  have isReading := Decoder.start_isReading invocation
  constructor
  · intro isFinished
    cases isDrained : decodeStream invocation pieces.flatten with
    | mk messages stop =>
        cases stop with
        | error violation =>
            obtain ⟨_, _, _, _, fails⟩ :=
              Decoder.feedAll_error isReading fit (congrArg Prod.snd isDrained)
            rw [Decoder.finish, if_pos (Or.inl fails.failed)] at isFinished
            cases isFinished
        | ok behind =>
            obtain ⟨after, held⟩ := behind
            obtain ⟨_, -, areFed⟩ := Decoder.feedAll_ok isReading fit isDrained
            obtain ⟨isStream, -, isFew⟩ :=
              encode_of_drain (Nat.zero_le _) isDrained
            rw [areFed] at isFinished
            by_cases isEmpty : held = []
            · rw [isEmpty, List.append_nil] at isStream
              rw [Nat.zero_add] at isFew
              exact ⟨messages, isFew, isStream⟩
            · rw [Decoder.finish, if_pos (Or.inr isEmpty)] at isFinished
              cases isFinished
  · rintro ⟨messages, isFew, isStream⟩
    have isFewer : 0 + messages.length ≤ maxMessages := by
      rwa [Nat.zero_add]
    have isDrained := drain_encode invocation messages isFewer
    rw [← isStream] at isDrained
    obtain ⟨_, -, areFed⟩ := Decoder.feedAll_ok isReading fit isDrained
    rw [areFed]
    rfl

/-- The decoder of frames is a stream decoder. -/
theorem isStreamDecoder (invocation : Invocation) :
    IsStreamDecoder invocation where
  whole := by
    intro pieces messages frames held fit isDrained
    exact Decoder.feedAll_ok (Decoder.start_isReading invocation) fit isDrained
  failing := by
    intro pieces messages violation fit isDrained
    obtain ⟨before, piece, after, answers, fails⟩ :=
      Decoder.feedAll_error (Decoder.start_isReading invocation) fit
        (congrArg Prod.snd isDrained)
    have isPrefix := fails.isPrefix
    rw [isDrained] at isPrefix
    exact ⟨before, piece, after, answers, fails, isPrefix⟩
  latched := by
    intro decoder pieces isFailed
    obtain ⟨answers, stays⟩ :=
      Decoder.feedAll_failed invocation decoder isFailed pieces
    refine ⟨answers, stays, ?_⟩
    rw [Decoder.finish, if_pos (Or.inl isFailed)]
  finished := fun _ fit => finish_iff invocation fit
  framed := by
    intro stream held messages frames isDrained
    obtain ⟨isStream, isCount, isFew⟩ :=
      encode_of_drain (Nat.zero_le _) isDrained
    rw [Nat.zero_add] at isCount isFew
    exact ⟨isStream, congrArg Prod.snd isCount, isFew⟩

/-! ## A failing stream in pieces -/

/-- The messages a decoder yields for the pieces of a stream. -/
def total (invocation : Invocation) (pieces : List Bytes) : List Message :=
  (Decoder.feedAll invocation .start pieces).1.flatMap yielded

/-- Bytes that all are one. -/
def onesBlock (size : Nat) : Block size where
  bytes := List.replicate size 1
  isSized := List.length_replicate

/-- An invocation. -/
def someInvocation : Invocation where
  sessionUuid := onesBlock 16
  invocationUuid := onesBlock 16
  nonce := onesBlock 32
  requestDigest := onesBlock 32
  namespaceDigest := onesBlock 32
  executableDigest := onesBlock 32
  principalDigest := onesBlock 32
  writerEpochUuid := onesBlock 16
  installEpochUuid := onesBlock 16
  installGeneration := 1
  deadlineMonotonicUs := 500000
  digest := onesBlock 32
  phaseCommitment := fun _ => onesBlock 32
  stdoutCap := 4096
  stderrCap := 4096

/-- A message. -/
def cancelMessage : Message where
  kind := .cancel
  sequence := 1
  payload := []
  isNumber := by decide
  isPayload := ⟨rfl, nofun, nofun⟩

/-- Twelve bytes that are no header. -/
def wrongHeader : Bytes := List.replicate 12 0

theorem nextFrame_wrongHeader :
    nextFrame wrongHeader = .rejected .protocolInvalid :=
  nextFrame_unsound (by decide) (by decide)

theorem drain_wrong :
    (frameByFrame someInvocation).drain ((), 0)
        (encode someInvocation cancelMessage ++ wrongHeader) =
      ([cancelMessage], .error .protocolInvalid) := by
  have isCounted :
      count someInvocation 0 (encode someInvocation cancelMessage) =
        .ok (cancelMessage, 1) :=
    count_ok.mpr ⟨by decide, decode_encode someInvocation cancelMessage, rfl⟩
  rw [Format.drain_frame
      (next_message (nextFrame_encode _ _ wrongHeader) isCounted),
    Format.drain_rejected (next_rejected nextFrame_wrongHeader)]

/-- A message and a wrong header, in one piece or in two: the message is
yielded only when it comes in a piece of its own. -/
theorem total_not_same :
    let message := encode someInvocation cancelMessage
    AreFit [message ++ wrongHeader] ∧ AreFit [message, wrongHeader] ∧
      [message ++ wrongHeader].flatten = [message, wrongHeader].flatten ∧
        total someInvocation [message ++ wrongHeader] = [] ∧
          total someInvocation [message, wrongHeader] = [cancelMessage] := by
  have isReading := Decoder.start_isReading someInvocation
  have isLength : (encode someInvocation cancelMessage).length = 284 :=
    length_encode someInvocation cancelMessage
  have isWrong : wrongHeader.length = 12 := rfl
  have fitsBoth : (encode someInvocation cancelMessage ++ wrongHeader).length ≤
        maxFrame := by
    rw [List.length_append, isLength, isWrong]
    decide
  have fitsMessage :
      (encode someInvocation cancelMessage).length ≤ maxFrame := by
    rw [isLength]
    decide
  have fitsWrong : wrongHeader.length ≤ maxFrame := by
    decide
  have isFew : 0 + [cancelMessage].length ≤ maxMessages := by
    decide
  have isMessage := drain_encode someInvocation [cancelMessage] isFew
  have isRejected : (frameByFrame someInvocation).drain ((), 1) wrongHeader =
        ([], .error .protocolInvalid) :=
    Format.drain_rejected (next_rejected nextFrame_wrongHeader)
  have fedBoth : Decoder.start.feed someInvocation
          (encode someInvocation cancelMessage ++ wrongHeader) =
        (.error .protocolInvalid, Decoder.start.fail) := by
    rw [Decoder.feed_eq isReading fitsBoth]
    rw [show Decoder.start.buffer ++
        (encode someInvocation cancelMessage ++ wrongHeader) =
          encode someInvocation cancelMessage ++ wrongHeader from rfl,
      show Decoder.start.frames = 0 from rfl, drain_wrong]
  have fedMessage :
      Decoder.start.feed someInvocation (encode someInvocation cancelMessage) =
        (.ok [cancelMessage], ⟨[], false, 1, false⟩) := by
    rw [List.flatMap_singleton] at isMessage
    rw [Decoder.feed_eq isReading fitsMessage]
    rw [show Decoder.start.buffer ++ encode someInvocation cancelMessage =
          encode someInvocation cancelMessage from rfl,
      show Decoder.start.frames = 0 from rfl, isMessage]
    rfl
  have fedWrong :
      (Decoder.mk [] false 1 false).feed someInvocation wrongHeader =
        (.error .protocolInvalid, ⟨[], true, 1, false⟩) := by
    rw [Decoder.feed_eq
      ⟨rfl, rfl, next_incomplete (nextFrame_short (by decide))⟩ fitsWrong]
    rw [show (Decoder.mk [] false 1 false).buffer ++ wrongHeader =
        wrongHeader from rfl, isRejected]
    rfl
  refine ⟨?_, ?_, ?_, ?_, ?_⟩
  · exact List.forall_mem_singleton.mpr fitsBoth
  · exact List.forall_mem_cons.mpr
      ⟨fitsMessage, List.forall_mem_singleton.mpr fitsWrong⟩
  · rw [List.flatten_singleton, List.flatten_cons, List.flatten_singleton]
  · rw [total, Decoder.feedAll, fedBoth]
    rfl
  · rw [total, Decoder.feedAll, fedMessage]
    dsimp only
    rw [Decoder.feedAll, fedWrong]
    rfl

end TicketSandbox.Network.Helper
