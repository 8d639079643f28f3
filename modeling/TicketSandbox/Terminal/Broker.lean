import TicketSandbox.Terminal.Protocol

namespace TicketSandbox.Terminal

/-!
# Sessions of a broker

`Broker.session` of `terminal/broker_v2.py`: the loop that reads what arrives
from a client into a buffer, and handles each frame that is complete.
-/

open FixedWidth (Bytes unpack)
open Framing (Format interpret)
open JsonValues (Value)

/-! ## Frames that are received -/

variable {pieces wires received : List Bytes} {frames : List Frame}

theorem receive_shorter {rest : List Bytes} {frame : Frame}
    (isReceived : receive pieces = .ok (frame, rest)) :
    rest.flatten.length < pieces.flatten.length := by
  have answered := receive_eq pieces
  cases isNext : nextFrame pieces.flatten with
  | incomplete =>
      rw [isNext, isReceived] at answered
      cases answered
  | rejected error =>
      rw [isNext, isReceived] at answered
      cases answered
  | frame found state behind =>
      rw [isNext, isReceived] at answered
      obtain ⟨_, same, isBehind⟩ := answered
      obtain ⟨_, rfl⟩ := Prod.mk.inj (Except.ok.inj same)
      rw [isBehind]
      have isFrame :
          wire.next () pieces.flatten = .frame found state behind := isNext
      exact wire.shorter isFrame

/-- `receive` again and again, up to what it raises. -/
def receiveAll (pieces : List Bytes) : List Frame × Raised :=
  match _isReceived : receive pieces with
  | .error raised => ([], raised)
  | .ok (frame, rest) =>
      let others := receiveAll rest
      (frame :: others.1, others.2)
termination_by pieces.flatten.length
decreasing_by exact receive_shorter _isReceived

/-! ## The loop of a session -/

/-- What a session does with a frame. -/
inductive Action where
  | input (payload : Bytes)
  | resize (rows cols : Int)

variable (loads : Bytes → Option Value)

/-- What a frame asks for. -/
def operation (frame : Frame) : Except Raised Action :=
  if frame.kind = 73 then
    .ok (.input frame.payload)
  else if frame.kind = 82 then
    (dimensions loads frame.payload).map fun size => .resize size.1 size.2
  else
    .error .unknownOperation

variable (fails : Nat → Bool)

/-- A frame is handled after some others; the terminal may fail. -/
def operate (done : Nat) (frame : Frame) : Except Raised (Action × Nat) :=
  match operation loads frame with
  | .error raised => .error raised
  | .ok action =>
      if fails done then .error .failed else .ok (action, done + 1)

/-- The frames of the buffer are handled. -/
def handleFrames
    (loads : Bytes → Option Value) (fails : Nat → Bool) (done : Nat)
    (buffer : Bytes) : List Action × Except Raised (Nat × Bytes) :=
  if _isShort : buffer.length < headerSize then
    ([], .ok (done, buffer))
  else
    let size := unpack ((buffer.take headerSize).drop 1)
    if maxFrame < size then
      ([], .error .tooLarge)
    else if buffer.length < headerSize + size then
      ([], .ok (done, buffer))
    else
      let payload := (buffer.drop headerSize).take size
      match operate loads fails done ⟨buffer.headD 0, payload⟩ with
      | .error raised => ([], .error raised)
      | .ok (action, after) =>
          let others := handleFrames loads fails after
              (buffer.drop (headerSize + size))
          (action :: others.1, others.2)
termination_by buffer.length
decreasing_by
  rw [List.length_drop]
  rw [headerSize] at _isShort ⊢
  omega

/-- The bytes of one read. -/
def readSize : Nat := 16384

/-- The loop of a session, until it is stopped after some reads. -/
def session (loads : Bytes → Option Value) (fails : Nat → Bool) :
    Nat → Nat → Bytes → List Bytes → List Action × Except Raised (Nat × Bytes)
  | 0, done, buffer, _ => ([], .ok (done, buffer))
  | steps + 1, done, buffer, pieces =>
      match (recv readSize pieces).1 with
      | [] => ([], .ok (done, buffer))
      | byte :: data =>
          match handleFrames loads fails done (buffer ++ byte :: data)
          with
          | (actions, .error raised) => (actions, .error raised)
          | (actions, .ok (after, rest)) =>
              let others := session loads fails steps after rest
                  (recv readSize pieces).2
              (actions ++ others.1, others.2)

/-- What the loop reads, until it is stopped after some reads. -/
def reads : Nat → List Bytes → List Bytes
  | 0, _ => []
  | steps + 1, pieces =>
      match (recv readSize pieces).1 with
      | [] => []
      | byte :: data => (byte :: data) :: reads steps (recv readSize pieces).2

/-! ## Streams -/

theorem reads_flatten (steps : Nat) (pieces : List Bytes) :
    ∃ behind, pieces.flatten = (reads steps pieces).flatten ++ behind ∧
        (pieces.flatten.length < steps → behind = []) := by
  induction steps generalizing pieces with
  | zero =>
      exact ⟨pieces.flatten, rfl, fun less => (Nat.not_lt_zero _ less).elim⟩
  | succ steps inductionHypothesis =>
      have whole := recv_flatten readSize pieces
      rw [reads]
      cases isData : (recv readSize pieces).1 with
      | nil =>
          have isEnd := recv_eq_nil (by decide) isData
          exact ⟨[], isEnd, fun _ => rfl⟩
      | cons byte data =>
          obtain ⟨behind, isRead, isAll⟩ :=
            inductionHypothesis (recv readSize pieces).2
          rw [isData] at whole
          refine ⟨behind, ?_, ?_⟩
          · rw [← whole, isRead, List.flatten_cons, List.append_assoc]
          · intro less
            refine isAll ?_
            rw [← whole, List.length_append, List.length_cons] at less
            omega

theorem length_reads_le
    {steps : Nat} {data : Bytes} (isRead : data ∈ reads steps pieces) :
    data.length ≤ readSize := by
  induction steps generalizing pieces with
  | zero => cases isRead
  | succ steps inductionHypothesis =>
      have fits := length_recv_le readSize pieces
      rw [reads] at isRead
      cases isData : (recv readSize pieces).1 with
      | nil =>
          rw [isData] at isRead
          cases isRead
      | cons byte others =>
          rw [isData] at isRead fits
          rcases List.mem_cons.mp isRead with rfl | later
          · exact fits
          · exact inductionHypothesis later

theorem drain_frames
    (fits : ∀ frame ∈ frames, frame.payload.length ≤ maxFrame) (rest : Bytes) :
    wire.drain () (frames.flatMap Frame.bytes ++ rest) =
      (frames ++ (wire.drain () rest).1, (wire.drain () rest).2) := by
  induction frames with
  | nil => rfl
  | cons frame frames inductionHypothesis =>
      have isFrame : wire.next ()
              ((frame :: frames).flatMap Frame.bytes ++ rest) =
            .frame frame () (frames.flatMap Frame.bytes ++ rest) := by
        rw [List.flatMap_cons, List.append_assoc]
        exact nextFrame_bytes (fits frame List.mem_cons_self) _
      rw [Format.drain_frame isFrame, inductionHypothesis fun other member =>
        fits other (List.mem_cons_of_mem _ member)]
      rfl

theorem drain_bytes (stream : Bytes) :
    ∃ rest, stream = (wire.drain () stream).1.flatMap Frame.bytes ++ rest ∧
        (∀ frame ∈ (wire.drain () stream).1, frame.payload.length ≤ maxFrame) ∧
        ((wire.drain () stream).2 = .ok ((), rest) ∧
            nextFrame rest = .incomplete ∨
          (wire.drain () stream).2 = .error .tooLarge ∧
            nextFrame rest = .rejected .tooLarge) := by
  generalize isState : () = state
  induction state, stream using Format.drain_induction wire with
  | incomplete state buffer isNext =>
      rw [Format.drain_incomplete isNext]
      exact ⟨buffer, rfl, fun _ member => (List.not_mem_nil member).elim,
        Or.inl ⟨rfl, isNext⟩⟩
  | rejected state buffer error isNext =>
      rw [Format.drain_rejected isNext]
      obtain ⟨rfl, _⟩ := nextFrame_eq_rejected.mp isNext
      exact ⟨buffer, rfl, fun _ member => (List.not_mem_nil member).elim,
        Or.inr ⟨rfl, isNext⟩⟩
  | frame state buffer frame after behind isNext inductionHypothesis =>
      obtain ⟨rest, isRest, fits, ends⟩ := inductionHypothesis isState
      obtain ⟨isSmall, isBuffer⟩ := nextFrame_eq_frame isNext
      rw [Format.drain_frame isNext]
      refine ⟨rest, ?_, ?_, ends⟩
      · rw [List.flatMap_cons, List.append_assoc, ← isRest]
        exact isBuffer
      · intro other member
        rcases List.mem_cons.mp member with rfl | later
        · exact isSmall
        · exact fits other later

/-- However the stream is cut, the same frames are received. -/
theorem receiveAll_eq (pieces : List Bytes) :
    receiveAll pieces = ((wire.drain () pieces.flatten).1,
        match (wire.drain () pieces.flatten).2 with
        | .error raised => raised
        | .ok _ => .ended) := by
  induction pieces using receiveAll.induct with
  | case1 pieces raised isReceived =>
      have answered := receive_eq pieces
      rw [receiveAll]
      split
      · rename_i other isOther
        rw [isReceived] at isOther
        cases isOther
        cases isNext : nextFrame pieces.flatten with
        | incomplete =>
            rw [isNext, isReceived] at answered
            cases answered
            have isFrame : wire.next () pieces.flatten = .incomplete := isNext
            rw [Format.drain_incomplete isFrame]
        | rejected error =>
            rw [isNext, isReceived] at answered
            cases answered
            have isFrame : wire.next () pieces.flatten = .rejected _ := isNext
            rw [Format.drain_rejected isFrame]
        | frame found state behind =>
            rw [isNext, isReceived] at answered
            obtain ⟨_, same, _⟩ := answered
            cases same
      · rename_i isOther
        rw [isReceived] at isOther
        cases isOther
  | case2 pieces frame rest isReceived inductionHypothesis =>
      have answered := receive_eq pieces
      rw [receiveAll]
      split
      · rename_i isOther
        rw [isReceived] at isOther
        cases isOther
      · rename_i isOther
        rw [isReceived] at isOther
        cases isOther
        cases isNext : nextFrame pieces.flatten with
        | incomplete =>
            rw [isNext, isReceived] at answered
            cases answered
        | rejected error =>
            rw [isNext, isReceived] at answered
            cases answered
        | frame found state behind =>
            rw [isNext, isReceived] at answered
            obtain ⟨_, same, isBehind⟩ := answered
            obtain ⟨rfl, rfl⟩ := Prod.mk.inj (Except.ok.inj same)
            have isFrame :
                wire.next () pieces.flatten = .frame _ () behind := isNext
            rw [Format.drain_frame isFrame, inductionHypothesis, isBehind]

/-! ## Sessions and streams -/

/-- The format whose frames are handled. -/
def handled : Format UInt8 (Unit × Nat) Action Raised :=
  wire.refine (operate loads fails)

theorem handleFrames_step (done : Nat) (buffer : Bytes) :
    handleFrames loads fails done buffer =
      match nextFrame buffer with
      | .incomplete => ([], .ok (done, buffer))
      | .rejected raised => ([], .error raised)
      | .frame frame _ rest =>
          match operate loads fails done frame with
          | .error raised => ([], .error raised)
          | .ok (action, after) =>
              (action :: (handleFrames loads fails after rest).1,
                (handleFrames loads fails after rest).2) := by
  rw [handleFrames, nextFrame]
  by_cases isShort : buffer.length < headerSize
  · rw [dif_pos isShort, if_pos isShort]
  · rw [dif_neg isShort, if_neg isShort]
    dsimp only
    by_cases isLarge : maxFrame < unpack ((buffer.take headerSize).drop 1)
    · rw [if_pos isLarge, if_pos isLarge]
    · rw [if_neg isLarge, if_neg isLarge]
      by_cases isPartial : buffer.length <
            headerSize + unpack ((buffer.take headerSize).drop 1)
      · rw [if_pos isPartial, if_pos isPartial]
      · rw [if_neg isPartial, if_neg isPartial]

theorem handleFrames_eq (done : Nat) (buffer : Bytes) :
    handleFrames loads fails done buffer =
      (((handled loads fails).drain ((), done) buffer).1,
        ((handled loads fails).drain ((), done) buffer).2.map
          fun held => (held.1.2, held.2)) := by
  generalize isLength : buffer.length = length
  induction length using Nat.strongRecOn generalizing done buffer with
  | _ length inductionHypothesis =>
      rw [handleFrames_step]
      cases isNext : nextFrame buffer with
      | incomplete =>
          have isHandled : (handled loads fails).next ((), done) buffer =
                .incomplete := by
            simp only [handled, Format.refine, wire, isNext]
          rw [Format.drain_incomplete isHandled]
          rfl
      | rejected raised =>
          have isHandled : (handled loads fails).next ((), done) buffer =
                .rejected raised := by
            simp only [handled, Format.refine, wire, isNext]
          rw [Format.drain_rejected isHandled]
          rfl
      | frame frame state rest =>
          dsimp only
          cases isDone : operate loads fails done frame with
          | error raised =>
              have isHandled : (handled loads fails).next ((), done) buffer =
                    .rejected raised := by
                simp only [handled, Format.refine, wire, isNext, isDone]
              rw [Format.drain_rejected isHandled]
              rfl
          | ok acted =>
              obtain ⟨action, after⟩ := acted
              have isHandled : (handled loads fails).next ((), done) buffer =
                    .frame action (state, after) rest := by
                simp only [handled, Format.refine, wire, isNext, isDone]
              have isShorter : rest.length < length := by
                rw [← isLength]
                have isFrame :
                    wire.next () buffer = .frame frame state rest := isNext
                exact wire.shorter isFrame
              have others :=
                inductionHypothesis rest.length isShorter after rest rfl
              rw [Format.drain_frame isHandled]
              dsimp only
              rw [others]

/-- A session handles the frames of what it has read, whatever the pieces
are. -/
theorem session_eq (steps done : Nat) {buffer : Bytes}
    (isHeld : nextFrame buffer = .incomplete) (pieces : List Bytes) :
    session loads fails steps done buffer pieces =
      (((handled loads fails).drain ((), done)
          (buffer ++ (reads steps pieces).flatten)).1,
        ((handled loads fails).drain ((), done)
            (buffer ++ (reads steps pieces).flatten)).2.map
          fun held => (held.1.2, held.2)) := by
  have isIncomplete (done : Nat) {held : Bytes}
      (isHeld : nextFrame held = .incomplete) :
      (handled loads fails).next ((), done) held = .incomplete := by
    simp only [handled, Format.refine, wire, isHeld]
  induction steps generalizing done buffer pieces with
  | zero =>
      rw [reads, List.flatten_nil, List.append_nil,
        Format.drain_incomplete (isIncomplete done isHeld)]
      rfl
  | succ steps inductionHypothesis =>
      rw [session, reads]
      cases isData : (recv readSize pieces).1 with
      | nil =>
          dsimp only
          rw [List.flatten_nil, List.append_nil,
            Format.drain_incomplete (isIncomplete done isHeld)]
          rfl
      | cons byte data =>
          have whole := (handled loads fails).drain_append ((), done)
              (buffer ++ byte :: data)
              (reads steps (recv readSize pieces).2).flatten
          rw [List.append_assoc] at whole
          dsimp only
          rw [List.flatten_cons, whole, handleFrames_eq]
          cases isDrained : (handled loads fails).drain ((), done)
                (buffer ++ byte :: data) with
          | mk actions stop =>
              cases stop with
              | error raised => rfl
              | ok held =>
                  obtain ⟨⟨_, after⟩, rest⟩ := held
                  have isRest := Format.drain_held isDrained
                  have isStill : nextFrame rest = .incomplete := by
                    simp only [handled, Format.refine, wire] at isRest
                    cases isNext : nextFrame rest with
                    | incomplete => rfl
                    | rejected error =>
                        rw [isNext] at isRest
                        cases isRest
                    | frame frame next behind =>
                        rw [isNext] at isRest
                        dsimp only at isRest
                        cases isDone : operate loads fails after frame with
                        | error raised =>
                            rw [isDone] at isRest
                            cases isRest
                        | ok acted =>
                            rw [isDone] at isRest
                            cases isRest
                  have later := inductionHypothesis after isStill
                      (recv readSize pieces).2
                  simp only [Except.map]
                  rw [later]
                  rfl

/-- What is forwarded to the terminal. -/
def Action.forwarded : Action → Bytes
  | .input payload => payload
  | .resize _ _ => []

/-- The dimensions that are applied. -/
def Action.size? : Action → Option (Int × Int)
  | .input _ => none
  | .resize rows cols => some (rows, cols)

/-- The input that is handled is forwarded, and the dimensions are applied, in
the order of the frames. -/
theorem interpret_operate
    {loads : Bytes → Option Value} {fails : Nat → Bool} {done after : Nat}
    {actions : List Action} (isHandled :
      interpret (operate loads fails) done frames = (actions, .ok after)) :
    actions.length = frames.length ∧ actions.flatMap Action.forwarded =
        (frames.filter fun frame => frame.kind = 73).flatMap Frame.payload ∧
      (actions.filterMap Action.size?).map Except.ok =
        (frames.filter fun frame => frame.kind = 82).map
          fun frame => dimensions loads frame.payload := by
  induction frames generalizing done actions with
  | nil =>
      cases isHandled
      exact ⟨rfl, rfl, rfl⟩
  | cons frame frames inductionHypothesis =>
      rw [interpret] at isHandled
      cases isDone : operate loads fails done frame with
      | error raised =>
          rw [isDone] at isHandled
          cases isHandled
      | ok acted =>
          obtain ⟨action, next⟩ := acted
          rw [isDone] at isHandled
          dsimp only at isHandled
          cases isRest : interpret (operate loads fails) next frames with
          | mk others stop =>
              rw [isRest] at isHandled
              cases isHandled
              obtain ⟨lengths, forwarded, sizes⟩ := inductionHypothesis isRest
              refine ⟨by rw [List.length_cons, List.length_cons, lengths], ?_⟩
              rw [List.flatMap_cons, forwarded]
              rw [operate, operation] at isDone
              by_cases isInput : frame.kind = 73
              · have notSize : frame.kind ≠ 82 := by
                  rw [isInput]
                  decide
                rw [if_pos isInput] at isDone
                dsimp only at isDone
                split at isDone
                · cases isDone
                · cases isDone
                  simp only [List.filter_cons, decide_eq_true isInput,
                    decide_eq_false notSize, if_true, Bool.false_eq_true,
                    if_false]
                  exact ⟨rfl, sizes⟩
              · rw [if_neg isInput] at isDone
                by_cases isSize : frame.kind = 82
                · rw [if_pos isSize] at isDone
                  cases isRead : dimensions loads frame.payload with
                  | error raised =>
                      rw [isRead] at isDone
                      cases isDone
                  | ok size =>
                      rw [isRead] at isDone
                      dsimp only [Except.map] at isDone
                      split at isDone
                      · cases isDone
                      · cases isDone
                        simp only [List.filter_cons,
                          decide_eq_false isInput, decide_eq_true isSize,
                          if_true, Bool.false_eq_true, if_false,
                          List.map_cons, isRead]
                        exact ⟨rfl, congrArg (List.cons _) sizes⟩
                · rw [if_neg isSize] at isDone
                  cases isDone

theorem mapM_send (isSent : frames.mapM send = .ok wires) :
    (∀ frame ∈ frames, frame.payload.length ≤ maxFrame) ∧
      wires = frames.map Frame.bytes := by
  induction frames generalizing wires with
  | nil =>
      cases isSent
      exact ⟨fun _ member => (List.not_mem_nil member).elim, rfl⟩
  | cons frame frames inductionHypothesis =>
      rw [List.mapM_cons, send] at isSent
      by_cases isLarge : maxFrame < frame.payload.length
      · rw [if_pos isLarge] at isSent
        cases isSent
      · rw [if_neg isLarge] at isSent
        cases isRest : frames.mapM send with
        | error raised =>
            rw [isRest] at isSent
            cases isSent
        | ok others =>
            rw [isRest] at isSent
            cases isSent
            obtain ⟨fits, rfl⟩ := inductionHypothesis isRest
            refine ⟨?_, rfl⟩
            intro other member
            rcases List.mem_cons.mp member with rfl | later
            · exact Nat.le_of_not_lt isLarge
            · exact fits other later

theorem receiveAll_sent (isSent : frames.mapM send = .ok wires)
    (same : received.flatten = wires.flatten) :
    receiveAll received = (frames, .ended) := by
  obtain ⟨fits, rfl⟩ := mapM_send isSent
  have isEnd : wire.drain () [] = ([], .ok ((), [])) :=
    Format.drain_incomplete (rfl : wire.next () [] = .incomplete)
  have drained := drain_frames fits []
  rw [List.append_nil, isEnd, List.append_nil] at drained
  rw [receiveAll_eq, same, ← List.flatMap_def, drained]

theorem session_complete
    {read : List Bytes} (same : read.flatten = received.flatten) {rest : Bytes}
    (isRest : received.flatten =
        (receiveAll received).1.flatMap Frame.bytes ++ rest)
    {steps : Nat} (isLong : received.flatten.length < steps) :
    session loads fails steps 0 [] read =
      match interpret (operate loads fails) 0 (receiveAll received).1 with
      | (actions, .error raised) => (actions, .error raised)
      | (actions, .ok done) =>
          (actions,
            if (receiveAll received).2 = .ended then
              .ok (done, rest)
            else
              .error (receiveAll received).2) := by
  have isStart : nextFrame [] = .incomplete := rfl
  obtain ⟨behind, isRead, isAll⟩ := reads_flatten steps read
  rw [same] at isRead isAll
  rw [isAll isLong, List.append_nil] at isRead
  rw [session_eq loads fails steps 0 isStart, ← isRead, List.nil_append,
    handled, Format.drain_refine, receiveAll_eq]
  rw [receiveAll_eq] at isRest
  obtain ⟨left, isStream, _, ends⟩ := drain_bytes received.flatten
  have isLeft : left = rest :=
    List.append_cancel_left (isStream.symm.trans isRest)
  rw [isLeft] at ends
  cases interpret (operate loads fails) 0
      (wire.drain () received.flatten).1 with
  | mk actions stop =>
      cases stop with
      | error raised => rfl
      | ok done =>
          rcases ends with ⟨isOk, _⟩ | ⟨isError, _⟩
          · simp only [isOk]
            rfl
          · simp only [isError]
            rfl

/-- Both parsers agree on every stream, in whatever pieces it arrives. -/
theorem session_agrees (loads : Bytes → Option Value) (fails : Nat → Bool)
    (received read : List Bytes) (same : read.flatten = received.flatten) :
    (∀ frames wires, frames.mapM send = .ok wires →
        received.flatten = wires.flatten →
        receiveAll received = (frames, .ended)) ∧
      (∃ rest, received.flatten =
            (receiveAll received).1.flatMap Frame.bytes ++ rest ∧
          ∀ steps, received.flatten.length < steps →
            session loads fails steps 0 [] read =
              match interpret (operate loads fails) 0 (receiveAll received).1
              with
              | (actions, .error raised) => (actions, .error raised)
              | (actions, .ok done) =>
                  (actions,
                    if (receiveAll received).2 = .ended then .ok (done, rest)
                    else .error (receiveAll received).2)) ∧
      (∀ steps, (∀ data ∈ reads steps read, data.length ≤ readSize) ∧
          match session loads fails steps 0 [] read with
          | (actions, .error raised) =>
              session loads fails (received.flatten.length + 1) 0 [] read =
                (actions, .error raised)
          | (actions, .ok (done, buffer)) =>
              buffer.length < headerSize + maxFrame ∧ ∃ count behind,
                  interpret (operate loads fails) 0
                      ((receiveAll received).1.take count) =
                    (actions, .ok done) ∧
                  received.flatten =
                    ((receiveAll received).1.take count).flatMap Frame.bytes ++
                      buffer ++ behind) ∧
      ∀ frames actions done,
        interpret (operate loads fails) 0 frames = (actions, .ok done) →
        actions.length = frames.length ∧ actions.flatMap Action.forwarded =
            (frames.filter fun frame => frame.kind = 73).flatMap Frame.payload ∧
          (actions.filterMap Action.size?).map Except.ok =
            (frames.filter fun frame => frame.kind = 82).map
              fun frame => dimensions loads frame.payload := by
  have isStart : nextFrame [] = .incomplete := rfl
  refine ⟨fun frames wires isSent isStream =>
    receiveAll_sent isSent isStream, ?_, ?_,
    fun frames actions done isHandled => interpret_operate isHandled⟩
  · obtain ⟨rest, isStream, _⟩ := drain_bytes received.flatten
    have isRest : received.flatten =
          (receiveAll received).1.flatMap Frame.bytes ++ rest := by
      rw [receiveAll_eq]
      exact isStream
    exact ⟨rest, isRest, fun steps isLong =>
      session_complete loads fails same isRest isLong⟩
  · intro steps
    refine ⟨fun data isRead => length_reads_le isRead, ?_⟩
    obtain ⟨behind, isRead, _⟩ := reads_flatten steps read
    obtain ⟨nothing, isWhole, isAll⟩ :=
      reads_flatten (received.flatten.length + 1) read
    rw [same] at isRead isWhole isAll
    rw [isAll (Nat.lt_succ_self _), List.append_nil] at isWhole
    have later := (handled loads fails).drain_append ((), 0)
        (reads steps read).flatten behind
    rw [session_eq loads fails _ 0 isStart,
      session_eq loads fails _ 0 isStart, ← isWhole, List.nil_append,
      List.nil_append, isRead, later]
    cases isDrained : (handled loads fails).drain ((), 0)
          (reads steps read).flatten with
    | mk actions stop =>
        cases stop with
        | error raised => rfl
        | ok held =>
            obtain ⟨⟨_, done⟩, buffer⟩ := held
            have drained :=
              wire.drain_append () (reads steps read).flatten behind
            rw [handled, Format.drain_refine] at isDrained
            obtain ⟨rest, isStream, fits, ends⟩ :=
              drain_bytes (reads steps read).flatten
            cases isHandled : interpret (operate loads fails) 0
                  (wire.drain () (reads steps read).flatten).1 with
            | mk results stop =>
                rw [isHandled] at isDrained
                cases stop with
                | error raised => cases isDrained
                | ok after =>
                    rcases ends with ⟨isOk, isHeld⟩ | ⟨isError, _⟩
                    · rw [isOk] at isDrained
                      cases isDrained
                      refine ⟨length_of_incomplete isHeld,
                        (wire.drain () (reads steps read).flatten).1.length,
                        behind, ?_⟩
                      have isPair : wire.drain () (reads steps read).flatten =
                            ((wire.drain () (reads steps read).flatten).1,
                              .ok ((), rest)) :=
                        Prod.ext rfl isOk
                      rw [isPair] at drained
                      have taken : (receiveAll received).1.take (wire.drain ()
                                (reads steps read).flatten).1.length =
                            (wire.drain () (reads steps read).flatten).1 := by
                        rw [receiveAll_eq, isRead, drained]
                        exact List.take_left' rfl
                      rw [taken]
                      exact ⟨isHandled, congrArg (· ++ behind) isStream⟩
                    · rw [isError] at isDrained
                      cases isDrained

/-- Two frames: input and dimensions. -/
def typedFrames : List Frame :=
  [⟨73, [108, 115]⟩, ⟨82, [91, 50, 52, 44, 56, 48, 93]⟩]

/-- An ASCII text that is read as a value. -/
def loadsAscii (payload : Bytes) : Option Value :=
  JsonValues.loads? (fun _ => true)
    (payload.map fun byte => Char.ofNat byte.toNat)

theorem session_agrees_typed :
    receiveAll [typedFrames.flatMap Frame.bytes] = (typedFrames, .ended) ∧
      session loadsAscii (fun _ => false) 20 0 []
          ((typedFrames.flatMap Frame.bytes).map fun byte => [byte]) =
        ([.input [108, 115], .resize 24 80], .ok (2, [])) := by
  have same : ((typedFrames.flatMap Frame.bytes).map
          fun byte : UInt8 => [byte]).flatten =
        [typedFrames.flatMap Frame.bytes].flatten := rfl
  obtain ⟨sent, ⟨rest, isStream, complete⟩, _⟩ :=
    session_agrees loadsAscii (fun _ => false) [typedFrames.flatMap Frame.bytes]
      ((typedFrames.flatMap Frame.bytes).map fun byte => [byte]) same
  have isReceived := sent typedFrames (typedFrames.map Frame.bytes) rfl rfl
  refine ⟨isReceived, ?_⟩
  rw [isReceived] at isStream complete
  have isEmpty : rest = [] := by
    have whole : (typedFrames.flatMap Frame.bytes) ++ [] =
        typedFrames.flatMap Frame.bytes ++ rest := isStream
    exact (List.append_cancel_left whole).symm
  rw [complete 20 (by decide), isEmpty]
  rfl

end TicketSandbox.Terminal
