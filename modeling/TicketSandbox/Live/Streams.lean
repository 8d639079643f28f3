import TicketSandbox.Live.Runner

namespace TicketSandbox.Live

/-!
# Reading a stream

However a stream is split into pieces, the reader of the header stops behind
the first empty line and the reader of the body hears the same bytes.
-/

open Crlf (Bytes IsBlock blockEnd isBlock_concat)

/-! ## Streams -/

/-- The stream has the bytes from a position on. -/
def Peer.Has (peer : Peer) (position : Nat) (bytes : Bytes) : Prop :=
  peer.read bytes.length position = bytes

variable {peer : Peer} {raw block : Bytes} {room length : Nat}
  {expected : Option Nat} {size : Nat → Nat} {fault : Fault}

namespace Ending

theorem heard_cases (ending : Ending) :
    ending.heard = .ok [] ∨ ∃ fault, ending.heard = .error fault := by
  cases ending with
  | eof => exact Or.inl rfl
  | _ => exact Or.inr ⟨_, rfl⟩

theorem map_heard
    {α : Type} {ending : Ending} {value : Bytes → α} {result : α} :
    ending.heard.map value = .ok result ↔
      ending = .eof ∧ value [] = result := by
  cases ending with
  | eof =>
      exact ⟨fun same => ⟨rfl, Except.ok.inj same⟩,
        fun same => congrArg Except.ok same.2⟩
  | _ =>
      constructor
      · intro same
        cases same
      · rintro ⟨same, _⟩
        cases same

theorem map_heard_error {α : Type} {ending : Ending} {value : Bytes → α} :
    ending.heard.map value = .error fault ↔ ending.heard = .error fault := by
  cases ending with
  | eof => constructor <;> intro same <;> cases same
  | _ => simp only [heard, Except.map, Except.error.injEq]

end Ending

namespace Peer

variable {position : Nat} {byte : UInt8}

theorem read_end (ended : peer.byte? position = none) (count : Nat) :
    peer.read count position = [] := by
  cases count with
  | zero => rfl
  | succ count => rw [read, ended]

theorem length_read_le (peer : Peer) (count position : Nat) :
    (peer.read count position).length ≤ count := by
  induction count generalizing position with
  | zero => exact Nat.le_refl _
  | succ count inductionHypothesis =>
      rw [read]
      split
      · exact Nat.zero_le _
      · exact Nat.succ_le_succ (inductionHypothesis _)

theorem read_short
    {count : Nat} (short : (peer.read count position).length < count) :
    peer.byte? (position + (peer.read count position).length) = none := by
  induction count generalizing position with
  | zero => exact (Nat.not_lt_zero _ short).elim
  | succ count inductionHypothesis =>
      rw [read] at short ⊢
      cases isByte : peer.byte? position with
      | none => exact isByte
      | some byte =>
          rw [isByte] at short
          have ended := inductionHypothesis (Nat.lt_of_succ_lt_succ short)
          have moved :
              position + (byte :: peer.read count (position + 1)).length =
                position + 1 + (peer.read count (position + 1)).length := by
            rw [List.length_cons]
            omega
          exact (congrArg peer.byte? moved).trans ended

theorem read_add (peer : Peer) (first second position : Nat) :
    peer.read (first + second) position = peer.read first position ++
        peer.read second (position + (peer.read first position).length) := by
  induction first generalizing position with
  | zero =>
      rw [Nat.zero_add]
      rfl
  | succ first inductionHypothesis =>
      rw [Nat.succ_add, read, read]
      cases isByte : peer.byte? position with
      | none => exact (read_end isByte second).symm
      | some byte =>
          have moved :
              position + (byte :: peer.read first (position + 1)).length =
                position + 1 + (peer.read first (position + 1)).length := by
            rw [List.length_cons]
            omega
          simp only [moved, List.cons_append, inductionHypothesis]

theorem Has.read_add
    {bytes : Bytes} (has : peer.Has position bytes) (count : Nat) :
    peer.read (bytes.length + count) position =
      bytes ++ peer.read count (position + bytes.length) := by
  rw [Peer.read_add, has]

/-- A stream has a text when it has its parts in turn. -/
theorem has_append {first second : Bytes} :
    peer.Has position (first ++ second) ↔
      peer.Has position first ∧ peer.Has (position + first.length) second := by
  constructor
  · intro has
    have parts := peer.read_add first.length second.length position
    rw [← List.length_append, has] at parts
    have whole := congrArg List.length parts
    have firstBound := peer.length_read_le first.length position
    have secondBound := peer.length_read_le second.length
        (position + (peer.read first.length position).length)
    rw [List.length_append, List.length_append] at whole
    have firstLength :
        first.length = (peer.read first.length position).length := by
      omega
    have same := List.append_inj parts firstLength
    refine ⟨same.1.symm, ?_⟩
    rw [← firstLength] at same
    exact same.2.symm
  · rintro ⟨hasFirst, hasSecond⟩
    rw [Has, List.length_append, hasFirst.read_add, hasSecond]

theorem has_read (peer : Peer) (count position : Nat) :
    peer.Has position (peer.read count position) := by
  induction count generalizing position with
  | zero => rfl
  | succ count inductionHypothesis =>
      rw [read]
      cases isByte : peer.byte? position with
      | none => rfl
      | some byte =>
          rw [Has, List.length_cons, read, isByte]
          exact congrArg (byte :: ·) (inductionHypothesis (position + 1))

theorem has_byte
    (isByte : peer.byte? position = some byte) : peer.Has position [byte] := by
  rw [Has, List.length_singleton, read, isByte]
  rfl

theorem byte?_of_has {rest : Bytes} (has : peer.Has position (byte :: rest)) :
    peer.byte? position = some byte := by
  rw [Has, List.length_cons, read] at has
  cases isByte : peer.byte? position with
  | none =>
      rw [isByte] at has
      cases has
  | some found =>
      rw [isByte] at has
      rw [(List.cons.inj has).1]

theorem Has.isPrefix {first second : Bytes} (hasFirst : peer.Has position first)
    (hasSecond : peer.Has position second)
    (shorter : first.length ≤ second.length) :
    first <+: second := by
  have parts := hasFirst.read_add (second.length - first.length)
  rw [Nat.add_sub_cancel' shorter, hasSecond] at parts
  exact ⟨_, parts.symm⟩

/-! ## Pieces -/

/-- A read of one byte cannot be split. -/
theorem recv_one (peer : Peer) (size : Nat → Nat) (position : Nat) :
    peer.recv size position 1 =
      match peer.byte? position with
      | some byte => .ok [byte]
      | none => peer.ending.heard := by
  rw [recv]
  cases isByte : peer.byte? position with
  | none => rfl
  | some byte =>
      have one : max 1 (min (size position) 1) = 1 := by
        omega
      simp only [one, read, isByte]

theorem recv_some (isByte : peer.byte? position = some byte) (size : Nat → Nat)
    {requested : Nat} (positive : 0 < requested) :
    ∃ rest, peer.recv size position requested = .ok (byte :: rest) ∧
        peer.Has position (byte :: rest) ∧
        (byte :: rest).length ≤ requested := by
  have shape (count : Nat) : peer.read (count + 1) position =
        byte :: peer.read count (position + 1) := by
    rw [read, isByte]
  obtain ⟨count, isCount⟩ : ∃ count,
      max 1 (min (size position) requested) = count + 1 :=
    ⟨max 1 (min (size position) requested) - 1, by omega⟩
  have bound : count + 1 ≤ requested := by
    omega
  refine ⟨peer.read count (position + 1), ?_, ?_, ?_⟩
  · rw [recv, isByte]
    simp only [isCount, shape]
  · rw [← shape]
    exact peer.has_read (count + 1) position
  · rw [← shape]
    exact Nat.le_trans (peer.length_read_le _ _) bound

end Peer

/-! ## Headers -/

theorem readHead_size
    (peer : Peer) (size other : Nat → Nat) (room : Nat) (raw : Bytes) :
    readHead peer size room raw = readHead peer other room raw := by
  induction room generalizing raw with
  | zero => rw [readHead, readHead, peer.recv_one size, peer.recv_one other]
  | succ room inductionHypothesis =>
      rw [readHead, readHead, peer.recv_one size, peer.recv_one other]
      simp only [inductionHypothesis]

/-- Nothing that begins the bytes has an empty line. -/
def Fresh (raw : Bytes) : Prop :=
  ∀ earlier, earlier <+: raw → earlier ≠ raw → ¬ blockEnd <:+: earlier

theorem fresh_nil : Fresh [] := by
  intro earlier isPrefix differs
  exact (differs (List.prefix_nil.mp isPrefix)).elim

theorem fresh_concat
    (noEnd : ¬ blockEnd <:+: raw) (byte : UInt8) : Fresh (raw ++ [byte]) := by
  intro earlier isPrefix differs isInfix
  rcases List.prefix_concat_iff.mp isPrefix with same | shorter
  · exact differs same
  · exact noEnd (isInfix.trans shorter.isInfix)

theorem Fresh.isBlock
    (fresh : Fresh raw) (isEnd : blockEnd <:+: raw) : IsBlock raw := by
  rcases List.eq_nil_or_concat raw with rfl | ⟨front, byte, rfl⟩
  · have long := isEnd.length_le
    exact (Nat.not_succ_le_zero _ long).elim
  · rw [List.concat_eq_append] at fresh isEnd ⊢
    refine isBlock_concat (fresh front (List.prefix_append _ _) ?_) isEnd
    intro same
    have lengths := congrArg List.length same
    rw [List.length_append] at lengths
    exact Nat.succ_ne_self _ lengths.symm

theorem readHead_sound (isRead : readHead peer size room raw = .ok (some block))
    (fresh : Fresh raw) (has : peer.Has 0 raw) :
    IsBlock block ∧ peer.Has 0 block ∧ block.length ≤ room + raw.length := by
  induction room generalizing raw with
  | zero =>
      rw [readHead] at isRead
      split at isRead
      · rename_i isEnd
        cases isRead
        exact ⟨fresh.isBlock isEnd, has, Nat.le_add_left _ _⟩
      · cases isPiece : peer.recv size raw.length 1 with
        | error fault =>
            rw [isPiece] at isRead
            cases isRead
        | ok piece =>
            rw [isPiece] at isRead
            cases isRead
  | succ room inductionHypothesis =>
      rw [readHead] at isRead
      split at isRead
      · rename_i isEnd
        cases isRead
        exact ⟨fresh.isBlock isEnd, has, Nat.le_add_left _ _⟩
      · rename_i noEnd
        rw [peer.recv_one] at isRead
        cases isByte : peer.byte? raw.length with
        | none =>
            rw [isByte] at isRead
            rcases peer.ending.heard_cases with isEmpty | ⟨fault, isFault⟩
            · rw [isEmpty] at isRead
              cases isRead
            · rw [isFault] at isRead
              cases isRead
        | some byte =>
            rw [isByte] at isRead
            have hasByte : peer.Has (0 + raw.length) [byte] := by
              rw [Nat.zero_add]
              exact Peer.has_byte isByte
            have later := inductionHypothesis isRead (fresh_concat noEnd byte)
                (Peer.has_append.mpr ⟨has, hasByte⟩)
            refine ⟨later.1, later.2.1, Nat.le_trans later.2.2 ?_⟩
            rw [List.length_append, List.length_singleton]
            omega

theorem readHead_complete
    (isBlock : IsBlock block) (hasBlock : peer.Has 0 block) (size : Nat → Nat)
    (isPrefix : raw <+: block) (enough : block.length ≤ room + raw.length) :
    readHead peer size room raw = .ok (some block) := by
  induction room generalizing raw with
  | zero =>
      have same : raw = block := isPrefix.eq_of_length_le (by omega)
      rw [readHead, same, if_pos isBlock.ends.isInfix]
  | succ room inductionHypothesis =>
      by_cases same : raw = block
      · rw [readHead, same, if_pos isBlock.ends.isInfix]
      · have noEnd := isBlock.first raw isPrefix same
        obtain ⟨behind, rfl⟩ := isPrefix
        cases behind with
        | nil => exact (same (List.append_nil raw).symm).elim
        | cons byte behind =>
            have hasBehind := (Peer.has_append.mp hasBlock).2
            rw [Nat.zero_add] at hasBehind
            rw [readHead, if_neg noEnd, peer.recv_one,
              Peer.byte?_of_has hasBehind]
            refine inductionHypothesis ⟨behind, ?_⟩ ?_
            · rw [List.append_assoc]
              rfl
            · have longer := @List.length_append _ raw [byte]
              rw [List.length_singleton] at longer
              omega

/-- The stream ends before an empty line, with so many bytes at most. -/
def EndsWithin (peer : Peer) (limit : Nat) (raw : Bytes) : Prop :=
  peer.Has 0 raw ∧ peer.byte? raw.length = none ∧ raw.length ≤ limit ∧
    ¬ blockEnd <:+: raw

/-- A fault while a head is read is the ending of the stream. -/
theorem readHead_fault (isRead : readHead peer size room raw = .error fault)
    (has : peer.Has 0 raw) :
    peer.ending.heard = .error fault ∧
      ∃ whole, EndsWithin peer (room + raw.length) whole := by
  have atEnd (noEnd : ¬ blockEnd <:+: raw)
      (isByte : peer.byte? raw.length = none) :
      ∃ whole, EndsWithin peer (room + raw.length) whole :=
    ⟨raw, has, isByte, Nat.le_add_left _ _, noEnd⟩
  induction room generalizing raw with
  | zero =>
      rw [readHead] at isRead
      split at isRead
      · cases isRead
      · rename_i noEnd
        rw [peer.recv_one] at isRead
        cases isByte : peer.byte? raw.length with
        | none =>
            rw [isByte] at isRead
            exact ⟨Ending.map_heard_error.mp isRead, atEnd noEnd isByte⟩
        | some byte =>
            rw [isByte] at isRead
            cases isRead
  | succ room inductionHypothesis =>
      rw [readHead] at isRead
      split at isRead
      · cases isRead
      · rename_i noEnd
        rw [peer.recv_one] at isRead
        cases isByte : peer.byte? raw.length with
        | none =>
            rw [isByte] at isRead
            refine ⟨?_, atEnd noEnd isByte⟩
            rcases peer.ending.heard_cases with isEmpty | ⟨other, isFault⟩
            · rw [isEmpty] at isRead
              cases isRead
            · rw [isFault] at isRead
              cases isRead
              exact isFault
        | some byte =>
            rw [isByte] at isRead
            have hasByte : peer.Has (0 + raw.length) [byte] := by
              rw [Nat.zero_add]
              exact Peer.has_byte isByte
            have has := Peer.has_append.mpr ⟨has, hasByte⟩
            have grown : room + (raw ++ [byte]).length =
                room + 1 + raw.length := by
              rw [List.length_append, List.length_singleton]
              omega
            rw [← grown]
            exact inductionHypothesis isRead has fun noEnd isByte =>
              ⟨_, has, isByte, Nat.le_add_left _ _, noEnd⟩

theorem readHead_ended
    {whole : Bytes} (ends : EndsWithin peer (room + raw.length) whole)
    (isPrefix : raw <+: whole) (isFault : peer.ending.heard = .error fault) :
    readHead peer size room raw = .error fault := by
  have noEnd : ¬ blockEnd <:+: raw :=
    fun isInfix => ends.2.2.2 (isInfix.trans isPrefix.isInfix)
  induction room generalizing raw with
  | zero =>
      have same : raw = whole := isPrefix.eq_of_length_le (by
        have short := ends.2.2.1
        omega)
      rw [readHead, if_neg noEnd, peer.recv_one, same, ends.2.1]
      exact Ending.map_heard_error.mpr isFault
  | succ room inductionHypothesis =>
      rw [readHead, if_neg noEnd, peer.recv_one]
      obtain ⟨behind, rfl⟩ := isPrefix
      cases behind with
      | nil =>
          have ended := ends.2.1
          rw [List.append_nil] at ended
          rw [ended]
          simp only [isFault]
      | cons byte behind =>
          have hasBehind := (Peer.has_append.mp ends.1).2
          rw [Nat.zero_add] at hasBehind
          rw [Peer.byte?_of_has hasBehind]
          have grown : room + (raw ++ [byte]).length =
              room + 1 + raw.length := by
            rw [List.length_append, List.length_singleton]
            omega
          have isPrefix : raw ++ [byte] <+: raw ++ byte :: behind :=
            ⟨behind, by rw [List.append_assoc]; rfl⟩
          exact inductionHypothesis (grown ▸ ends) isPrefix fun isInfix =>
            ends.2.2.2 (isInfix.trans isPrefix.isInfix)

/-! ## Bodies -/

/-- How many bytes of a body are read at most. -/
def bodyLimit : Option Nat → Nat
  | some expected => min expected (maxBody + 1)
  | none => maxBody + 1

/-- What is heard of a body that starts at a position. -/
def heardBody (peer : Peer) (start : Nat)
    (expected : Option Nat) : Except Fault (Bytes × Bool) :=
  if (peer.read (bodyLimit expected) start).length = bodyLimit expected then
    .ok (peer.read (bodyLimit expected) start, true)
  else
    peer.ending.heard.map fun _ =>
      (peer.read (bodyLimit expected) start, expected.isNone)

theorem lt_bodyLimit
    (notLarge : ¬ maxBody < length) (notFull : isFull expected length ≠ true) :
    length < bodyLimit expected := by
  cases expected with
  | none => exact Nat.lt_succ_of_le (Nat.le_of_not_lt notLarge)
  | some expected =>
      have short : length < expected := by
        by_contra long
        exact notFull (decide_eq_true (Nat.le_of_not_lt long))
      exact Nat.lt_min.mpr
        ⟨short, Nat.lt_succ_of_le (Nat.le_of_not_lt notLarge)⟩

theorem bodyLimit_le (done : maxBody < length ∨ isFull expected length = true) :
    bodyLimit expected ≤ length := by
  cases expected with
  | none =>
      rcases done with large | isFull
      · exact large
      · cases isFull
  | some expected =>
      rcases done with large | isFull
      · exact Nat.le_trans (Nat.min_le_right _ _) large
      · exact Nat.le_trans (Nat.min_le_left _ _) (of_decide_eq_true isFull)

theorem requested_eq
    (expected : Option Nat) (short : length < bodyLimit expected) :
    requested expected length = bodyLimit expected - length := by
  cases expected with
  | none =>
      rw [requested, bodyLimit]
      omega
  | some expected =>
      rw [bodyLimit] at short ⊢
      rw [requested]
      omega

/-- The body is the same however the stream is split. -/
theorem readBody_eq (size : Nat → Nat) {start : Nat} {fuel : Nat} {body : Bytes}
    (has : peer.Has start body) (within : body.length ≤ bodyLimit expected)
    (enough : bodyLimit expected < fuel + body.length) :
    readBody peer size start expected fuel body =
      heardBody peer start expected := by
  induction fuel generalizing body with
  | zero => omega
  | succ fuel inductionHypothesis =>
      have whole := has.read_add (bodyLimit expected - body.length)
      rw [Nat.add_sub_cancel' within] at whole
      by_cases done : maxBody < body.length ∨ isFull expected body.length = true
      · have atLimit : bodyLimit expected = body.length :=
          Nat.le_antisymm (bodyLimit_le done) within
        have isRead : readBody peer size start expected (fuel + 1) body =
              .ok (body, true) := by
          rw [readBody]
          rcases done with large | isFull
          · rw [if_pos large]
          · rw [if_pos isFull, ite_self]
        have heard : peer.read (bodyLimit expected) start = body := by
          rw [atLimit]
          exact has
        rw [isRead, heardBody, heard, if_pos atLimit.symm]
      · have notLarge : ¬ maxBody < body.length :=
          fun large => done (Or.inl large)
        have notFull : isFull expected body.length ≠ true :=
          fun isFull => done (Or.inr isFull)
        have short := lt_bodyLimit notLarge notFull
        have isRequested := requested_eq expected short
        rw [readBody, if_neg notLarge, if_neg notFull]
        cases isByte : peer.byte? (start + body.length) with
        | none =>
            have heard : peer.read (bodyLimit expected) start = body := by
              rw [whole, Peer.read_end isByte, List.append_nil]
            have notEqual : expected ≠ some body.length := by
              intro same
              exact notFull (by
                rw [isFull, same]
                exact decide_eq_true (Nat.le_refl _))
            have isEnd : peer.recv size (start + body.length)
                    (requested expected body.length) =
                  peer.ending.heard := by
              rw [Peer.recv, isByte]
            rw [isEnd, heardBody, heard, if_neg (Nat.ne_of_lt short)]
            cases peer.ending with
            | eof =>
                simp only [Ending.heard, notEqual, decide_false, Bool.or_false,
                  Except.map]
            | _ => rfl
        | some byte =>
            have positive : 0 < requested expected body.length := by
              omega
            obtain ⟨rest, received, hasPiece, bound⟩ :=
              Peer.recv_some isByte size positive
            rw [received]
            have longer := @List.length_append _ body (byte :: rest)
            have grown := @List.length_cons _ byte rest
            refine inductionHypothesis
              (Peer.has_append.mpr ⟨has, hasPiece⟩) ?_ ?_
            · omega
            · omega

end TicketSandbox.Live
