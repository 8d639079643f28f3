import TicketSandbox.Library.FixedWidth
import TicketSandbox.Library.Framing
import TicketSandbox.Library.JsonValues

namespace TicketSandbox.Terminal

/-!
# The terminal protocol

`terminal/protocol.py`: a frame is a kind, the length of its payload and the
payload.  A socket answers each read with some of the bytes that are behind.
-/

open FixedWidth (Bytes length_pack pack unpack unpack_pack)
open Framing (Format Outcome)
open JsonValues (Value)

/-! ## Frames -/

/-- `MAX_FRAME`. -/
def maxFrame : Nat := 16384

/-- `HEADER.size`. -/
def headerSize : Nat := 5

/-- A frame. -/
structure Frame where
  kind : UInt8
  payload : Bytes

/-- What is raised where frames are read, written or handled. -/
inductive Raised where
  | ended
  | tooLarge
  | notJson
  | invalidDimensions
  | unknownOperation
  | failed
  deriving Repr, DecidableEq

/-- The bytes of a frame. -/
def Frame.bytes (frame : Frame) : Bytes :=
  frame.kind :: pack 4 frame.payload.length ++ frame.payload

/-- `send`: the bytes that are sent. -/
def send (frame : Frame) : Except Raised Bytes :=
  if maxFrame < frame.payload.length then .error .tooLarge else .ok frame.bytes

/-! ## Sockets -/

/-- `recv`: some of the bytes that are behind, in the pieces in which they
arrive, and nothing when the stream has ended. -/
def recv (count : Nat) : List Bytes → Bytes × List Bytes
  | [] => ([], [])
  | [] :: pieces => recv count pieces
  | piece :: pieces =>
      if piece.length ≤ count then (piece, pieces)
      else (piece.take count, piece.drop count :: pieces)

theorem recv_flatten (count : Nat) (pieces : List Bytes) :
    (recv count pieces).1 ++ (recv count pieces).2.flatten =
      pieces.flatten := by
  induction pieces using recv.induct count with
  | case1 => rfl
  | case2 pieces inductionHypothesis =>
      rw [recv, inductionHypothesis]
      rfl
  | case3 piece pieces isPiece fits =>
      rw [recv, if_pos fits, List.flatten_cons]
      exact isPiece
  | case4 piece pieces isPiece tooLong =>
      rw [recv, if_neg tooLong, List.flatten_cons, List.flatten_cons,
        ← List.append_assoc, List.take_append_drop]
      exact isPiece

theorem length_recv_le (count : Nat) (pieces : List Bytes) :
    (recv count pieces).1.length ≤ count := by
  induction pieces using recv.induct count with
  | case1 => exact Nat.zero_le _
  | case2 pieces inductionHypothesis =>
      rw [recv]
      exact inductionHypothesis
  | case3 piece pieces isPiece fits =>
      rw [recv, if_pos fits]
      · exact fits
      · exact isPiece
  | case4 piece pieces isPiece tooLong =>
      rw [recv, if_neg tooLong]
      · exact List.length_take_le _ _
      · exact isPiece

variable {pieces : List Bytes} {frame : Frame} {buffer : Bytes}
  {missing : Nat}

theorem recv_eq_nil
    {count : Nat} (isSome : 0 < count) (isNil : (recv count pieces).1 = []) :
    pieces.flatten = [] := by
  induction pieces using recv.induct count with
  | case1 => rfl
  | case2 pieces inductionHypothesis =>
      rw [recv] at isNil
      exact inductionHypothesis isNil
  | case3 piece pieces isPiece fits =>
      rw [recv, if_pos fits] at isNil
      · exact (isPiece isNil).elim
      · exact isPiece
  | case4 piece pieces isPiece tooLong =>
      rw [recv, if_neg tooLong] at isNil
      · rcases List.take_eq_nil_iff.mp isNil with isZero | isEmpty
        · exact (Nat.ne_of_gt isSome isZero).elim
        · exact (isPiece isEmpty).elim
      · exact isPiece

/-- `receive_exact`, without a deadline. -/
def receiveExact (missing : Nat)
    (pieces : List Bytes) : Except Raised (Bytes × List Bytes) :=
  if missing = 0 then
    .ok ([], pieces)
  else
    match (recv missing pieces).1 with
    | [] => .error .ended
    | byte :: data =>
        (receiveExact (missing - (data.length + 1)) (recv missing pieces).2).map
          fun received => (byte :: data ++ received.1, received.2)
termination_by missing
decreasing_by omega

/-- `receive`, without a deadline. -/
def receive (pieces : List Bytes) : Except Raised (Frame × List Bytes) := do
  let (header, behind) ← receiveExact headerSize pieces
  let size := unpack (header.drop 1)
  if maxFrame < size then
    .error .tooLarge
  else
    let (payload, rest) ← receiveExact size behind
    .ok (⟨header.headD 0, payload⟩, rest)

/-! ## Dimensions -/

/-- `dimensions`, where `loads` is `json.loads`. -/
def dimensions (loads : Bytes → Option Value)
    (payload : Bytes) : Except Raised (Int × Int) :=
  match loads payload with
  | none => .error .notJson
  | some (.arr [.int rows, .int cols]) =>
      if 1 ≤ rows ∧ rows ≤ 1000 ∧ 1 ≤ cols ∧ cols ≤ 1000 then .ok (rows, cols)
      else .error .invalidDimensions
  | some _ => .error .invalidDimensions

/-! ## The format -/

/-- The frame in front of a buffer. -/
def nextFrame (buffer : Bytes) : Outcome UInt8 Unit Frame Raised :=
  if buffer.length < headerSize then
    .incomplete
  else
    let size := unpack ((buffer.take headerSize).drop 1)
    if maxFrame < size then
      .rejected .tooLarge
    else if buffer.length < headerSize + size then
      .incomplete
    else
      .frame ⟨buffer.headD 0, (buffer.drop headerSize).take size⟩ ()
        (buffer.drop (headerSize + size))

theorem nextFrame_bytes
    (fits : frame.payload.length ≤ maxFrame) (rest : Bytes) :
    nextFrame (frame.bytes ++ rest) = .frame frame () rest := by
  have isSize : unpack (pack 4 frame.payload.length) = frame.payload.length :=
    unpack_pack (Nat.lt_of_le_of_lt fits (by decide))
  have shape : frame.bytes ++ rest = frame.kind ::
          (pack 4 frame.payload.length ++ (frame.payload ++ rest)) := by
    rw [Frame.bytes, List.cons_append, List.cons_append, List.append_assoc]
  have header : ((frame.bytes ++ rest).take headerSize).drop 1 =
        pack 4 frame.payload.length := by
    rw [shape]
    exact List.take_left' (length_pack _ _)
  have behind :
      (frame.bytes ++ rest).drop headerSize = frame.payload ++ rest := by
    rw [shape]
    exact List.drop_left' (length_pack _ _)
  have total : (frame.bytes ++ rest).length =
        headerSize + (frame.payload.length + rest.length) := by
    rw [shape, List.length_cons, List.length_append, length_pack,
      List.length_append, headerSize]
    omega
  rw [nextFrame, header, isSize, if_neg (by omega),
    if_neg (Nat.not_lt_of_le fits), if_neg (by omega), ← List.drop_drop,
    behind, List.take_left, List.drop_left, shape]
  rfl

/-- The buffer starts with the frame that is read. -/
theorem nextFrame_eq_frame
    {rest : Bytes} (isFrame : nextFrame buffer = .frame frame () rest) :
    frame.payload.length ≤ maxFrame ∧ buffer = frame.bytes ++ rest := by
  rw [nextFrame] at isFrame
  by_cases isShort : buffer.length < headerSize
  · rw [if_pos isShort] at isFrame
    cases isFrame
  · rw [if_neg isShort] at isFrame
    dsimp only at isFrame
    by_cases isLarge : maxFrame < unpack ((buffer.take headerSize).drop 1)
    · rw [if_pos isLarge] at isFrame
      cases isFrame
    · rw [if_neg isLarge] at isFrame
      by_cases isPartial :
          buffer.length < headerSize + unpack ((buffer.take headerSize).drop 1)
      · rw [if_pos isPartial] at isFrame
        cases isFrame
      · rw [if_neg isPartial] at isFrame
        cases isFrame
        cases buffer with
        | nil => exact (isShort (by decide)).elim
        | cons kind behind =>
            have isHeader : ((kind :: behind).take headerSize).drop 1 =
                  behind.take 4 := rfl
            have width : (behind.take 4).length = 4 := by
              rw [List.length_cons, headerSize] at isShort
              rw [List.length_take]
              omega
            rw [isHeader] at isLarge isPartial ⊢
            rw [List.length_cons, headerSize] at isPartial
            have length :
                ((behind.drop 4).take (unpack (behind.take 4))).length =
                  unpack (behind.take 4) := by
              rw [List.length_take, List.length_drop]
              omega
            have packed := FixedWidth.pack_unpack (behind.take 4)
            rw [width] at packed
            refine ⟨?_, ?_⟩
            · exact Nat.le_trans (Nat.le_of_eq length)
                (Nat.le_of_not_lt isLarge)
            · have whole : behind = behind.take 4 ++
                      ((behind.drop 4).take (unpack (behind.take 4)) ++
                        (behind.drop 4).drop (unpack (behind.take 4))) := by
                rw [List.take_append_drop, List.take_append_drop]
              rw [Frame.bytes]
              change kind :: behind = kind :: pack 4
                      ((behind.drop 4).take (unpack (behind.take 4))).length ++
                    (behind.drop 4).take (unpack (behind.take 4)) ++
                  (kind :: behind).drop (headerSize + unpack (behind.take 4))
              rw [length, packed, ← List.drop_drop, List.cons_append,
                List.cons_append, List.append_assoc]
              exact congrArg (List.cons kind) whole

theorem nextFrame_eq_rejected {error : Raised} :
    nextFrame buffer = .rejected error ↔
      error = .tooLarge ∧ headerSize ≤ buffer.length ∧
        maxFrame < unpack ((buffer.take headerSize).drop 1) := by
  rw [nextFrame]
  by_cases isShort : buffer.length < headerSize
  · rw [if_pos isShort]
    constructor
    · intro isRejected
      cases isRejected
    · rintro ⟨_, isLong, _⟩
      exact (Nat.not_lt_of_le isLong isShort).elim
  · rw [if_neg isShort]
    dsimp only
    by_cases isLarge : maxFrame < unpack ((buffer.take headerSize).drop 1)
    · rw [if_pos isLarge]
      constructor
      · intro isRejected
        cases isRejected
        exact ⟨rfl, Nat.le_of_not_lt isShort, isLarge⟩
      · rintro ⟨rfl, _⟩
        rfl
    · rw [if_neg isLarge]
      constructor
      · intro isRejected
        split at isRejected
        · cases isRejected
        · cases isRejected
      · rintro ⟨_, _, isTooLarge⟩
        exact (isLarge isTooLarge).elim

/-- An incomplete buffer is shorter than a frame. -/
theorem length_of_incomplete (isIncomplete : nextFrame buffer = .incomplete) :
    buffer.length < headerSize + maxFrame := by
  rw [nextFrame] at isIncomplete
  by_cases isShort : buffer.length < headerSize
  · exact Nat.lt_of_lt_of_le isShort (Nat.le_add_right _ _)
  · rw [if_neg isShort] at isIncomplete
    dsimp only at isIncomplete
    by_cases isLarge : maxFrame < unpack ((buffer.take headerSize).drop 1)
    · rw [if_pos isLarge] at isIncomplete
      cases isIncomplete
    · rw [if_neg isLarge] at isIncomplete
      by_cases isPartial :
          buffer.length < headerSize + unpack ((buffer.take headerSize).drop 1)
      · omega
      · rw [if_neg isPartial] at isIncomplete
        cases isIncomplete

/-- The format of a stream of frames. -/
def wire : Format UInt8 Unit Frame Raised where
  next := fun _ buffer => nextFrame buffer
  shorter := by
    intro _ buffer frame _ rest isFrame
    obtain ⟨_, rfl⟩ := nextFrame_eq_frame isFrame
    rw [List.length_append, Frame.bytes, List.length_append, List.length_cons]
    omega
  frame_append := by
    intro _ buffer frame _ rest isFrame later
    obtain ⟨fits, rfl⟩ := nextFrame_eq_frame isFrame
    rw [List.append_assoc]
    exact nextFrame_bytes fits (rest ++ later)
  rejected_append := by
    intro _ buffer error isRejected later
    obtain ⟨rfl, isLong, isLarge⟩ := nextFrame_eq_rejected.mp isRejected
    refine nextFrame_eq_rejected.mpr ⟨rfl, ?_, ?_⟩
    · rw [List.length_append]
      exact Nat.le_add_right_of_le isLong
    · rw [List.take_append_of_le_length isLong]
      exact isLarge

/-! ## Receiving -/

theorem receiveExact_ok (isLong : missing ≤ pieces.flatten.length) :
    ∃ rest, receiveExact missing pieces =
        .ok (pieces.flatten.take missing, rest) ∧
      rest.flatten = pieces.flatten.drop missing := by
  induction missing using Nat.strongRecOn generalizing pieces with
  | _ missing inductionHypothesis =>
      rw [receiveExact]
      by_cases isZero : missing = 0
      · rw [if_pos isZero, isZero]
        exact ⟨pieces, rfl, rfl⟩
      · rw [if_neg isZero]
        have whole := recv_flatten missing pieces
        have fits := length_recv_le missing pieces
        cases isData : (recv missing pieces).1 with
        | nil =>
            have isEnd := recv_eq_nil (Nat.pos_of_ne_zero isZero) isData
            rw [isEnd, List.length_nil] at isLong
            exact (isZero (Nat.le_zero.mp isLong)).elim
        | cons byte data =>
            rw [isData, List.length_cons] at fits
            rw [isData] at whole
            rw [← whole, List.length_append, List.length_cons] at isLong
            have fewer : missing - (data.length + 1) < missing := by
              omega
            have isLeft : missing - (data.length + 1) ≤
                  (recv missing pieces).2.flatten.length := by
              omega
            obtain ⟨rest, isReceived, isRest⟩ :=
              inductionHypothesis _ fewer isLeft
            refine ⟨rest, ?_, ?_⟩
            · dsimp only
              rw [isReceived, ← whole]
              have taken : ((byte :: data) ++
                      (recv missing pieces).2.flatten).take missing =
                    (byte :: data) ++ (recv missing pieces).2.flatten.take
                        (missing - (data.length + 1)) := by
                rw [List.take_append, List.take_of_length_le fits]
                rfl
              rw [taken]
              rfl
            · have dropped : (byte :: data).drop missing = [] :=
                List.drop_of_length_le fits
              rw [isRest, ← whole, List.drop_append, dropped]
              rfl

theorem receiveExact_ended (isShort : pieces.flatten.length < missing) :
    receiveExact missing pieces = .error .ended := by
  induction missing using Nat.strongRecOn generalizing pieces with
  | _ missing inductionHypothesis =>
      have isSome : missing ≠ 0 := by omega
      rw [receiveExact, if_neg isSome]
      have whole := recv_flatten missing pieces
      cases isData : (recv missing pieces).1 with
      | nil => rfl
      | cons byte data =>
          rw [isData] at whole
          rw [← whole, List.length_append, List.length_cons] at isShort
          have fewer : missing - (data.length + 1) < missing := by
            omega
          have isLeft : (recv missing pieces).2.flatten.length <
                missing - (data.length + 1) := by
            omega
          dsimp only
          rw [inductionHypothesis _ fewer isLeft]
          rfl

/-- `receive` answers what is in front of the stream. -/
theorem receive_eq (pieces : List Bytes) :
    match nextFrame pieces.flatten with
    | .incomplete => receive pieces = .error .ended
    | .rejected error => receive pieces = .error error
    | .frame frame _ behind =>
        ∃ rest, receive pieces = .ok (frame, rest) ∧ rest.flatten = behind := by
  rw [nextFrame, receive]
  by_cases isShort : pieces.flatten.length < headerSize
  · rw [if_pos isShort, receiveExact_ended isShort]
    rfl
  · obtain ⟨behind, isHeader, isBehind⟩ :=
      receiveExact_ok (Nat.le_of_not_lt isShort)
    rw [if_neg isShort, isHeader]
    by_cases isLarge :
        maxFrame < unpack ((pieces.flatten.take headerSize).drop 1)
    · rw [if_pos isLarge]
      exact if_pos isLarge
    · rw [if_neg isLarge]
      have length := congrArg List.length isBehind
      rw [List.length_drop] at length
      have isRead {result : Except Raised (Frame × List Bytes)} (isResult :
            (receiveExact (unpack ((pieces.flatten.take headerSize).drop 1))
                behind >>=
              fun received =>
                Except.ok (Frame.mk ((pieces.flatten.take headerSize).headD 0)
                    received.1, received.2)) = result) :
          (do
            let (header, behind) ←
              Except.ok (pieces.flatten.take headerSize, behind)
            let size := unpack (header.drop 1)
            if maxFrame < size then
              Except.error Raised.tooLarge
            else
              let (payload, rest) ← receiveExact size behind
              Except.ok (Frame.mk (header.headD 0) payload, rest)) =
            result := by
        rw [← isResult]
        exact if_neg isLarge
      by_cases isPartial : pieces.flatten.length <
            headerSize + unpack ((pieces.flatten.take headerSize).drop 1)
      · rw [if_pos isPartial]
        refine isRead ?_
        rw [receiveExact_ended (by omega)]
        rfl
      · rw [if_neg isPartial]
        have isLong : unpack ((pieces.flatten.take headerSize).drop 1) ≤
              behind.flatten.length := by
          omega
        obtain ⟨rest, isPayload, isRest⟩ := receiveExact_ok isLong
        refine ⟨rest, isRead ?_, ?_⟩
        · rw [isPayload, isBehind]
          have isKind : (pieces.flatten.take headerSize).headD 0 =
                pieces.flatten.headD 0 := by
            cases pieces.flatten with
            | nil => rfl
            | cons kind others => rfl
          rw [isKind]
          rfl
        · rw [isRest, isBehind, List.drop_drop]

end TicketSandbox.Terminal
