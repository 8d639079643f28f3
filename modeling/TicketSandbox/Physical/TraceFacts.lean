import TicketSandbox.Library.Raises
import TicketSandbox.Physical.Trace

namespace TicketSandbox.Physical

/-!
# Datagrams of traces

Which datagrams are decoded, to which records, and which ones raise something
else than `Denied`.
-/

open FixedWidth (Bytes unpack)
open Raises (bind_error bind_ok)

/-! ## What is on the wire -/

/-- The bytes of an attribute: its length, its type below two flags, its value
and padding. -/
def IsAttribute
    (order : ByteOrder) (entry : Nat × Bytes) (bytes : Bytes) : Prop :=
  ∃ header padding, bytes = header ++ entry.2 ++ padding ∧ header.length = 4 ∧
      native order (header.take 2) = 4 + entry.2.length ∧
      native order (header.drop 2) % 0x4000 = entry.1 ∧
      padding.length = padded (4 + entry.2.length) - (4 + entry.2.length)

/-- The bytes of a list of attributes. -/
def IsAttributes (order : ByteOrder) : Attributes → Bytes → Prop
  | [], bytes => bytes = []
  | entry :: attributes, bytes =>
      ∃ part rest, bytes = part ++ rest ∧ IsAttribute order entry part ∧
        IsAttributes order attributes rest

/-- No type is there twice. -/
def IsDistinct (attributes : Attributes) : Prop :=
  (attributes.map Prod.fst).Nodup
  deriving Decidable

/-- The bytes of a message of the kernel with attributes. -/
structure IsMessage (order : ByteOrder) (attributes : Attributes)
    (header body : Bytes) : Prop where
  length : header.length = 16
  size : native order (header.take 4) = 20 + body.length
  kind : native order ((header.drop 4).take 2) = 0x0a11
  flags : native order ((header.drop 6).take 2) = 0
  sequence : native order ((header.drop 8).take 4) = 0
  pid : native order (header.drop 12) = 0
  entries : IsAttributes order attributes body
  distinct : IsDistinct attributes

/-- The bytes of a message with a family. -/
def messageBytes (header body : Bytes) : Bytes :=
  header ++ [7, 0, 0, 0] ++ body

/-! ## What is recorded -/

/-- A number of four bytes. -/
def IsNumber
    (read : Bytes → Nat) (attributes : Attributes) (key value : Nat) : Prop :=
  ∃ raw, (key, raw) ∈ attributes ∧ raw.length = 4 ∧ value = read raw

/-- A name. -/
def IsName (attributes : Attributes) (key : Nat) (name : List Char) : Prop :=
  ∃ raw, (key, raw) ∈ attributes ∧ IsTerminated raw ∧
    (∀ byte ∈ raw.dropLast, IsAscii byte) ∧
    name = characters raw.dropLast

/-- The verdict is its attribute, or else the code of the nested one. -/
def IsVerdict (order : ByteOrder) (attributes : Attributes)
    (verdict : Option Nat) : Prop :=
  (∃ code, verdict = some code ∧ IsNumber unpack attributes 16 code) ∨
    ¬ Has attributes 16 ∧ (∃ raw nested code,
        verdict = some code ∧ (5, raw) ∈ attributes ∧
          IsAttributes order nested raw ∧ IsDistinct nested ∧
          IsNumber unpack nested 1 code) ∨
    ¬ Has attributes 16 ∧ ¬ Has attributes 5 ∧ verdict = none

/-- The frame is its three headers, when they are all there. -/
def IsFrame (attributes : Attributes) (frame : Option Bytes) : Prop :=
  (∃ link header transport, (7, link) ∈ attributes ∧ (8, header) ∈ attributes ∧
      (9, transport) ∈ attributes ∧
      frame = some (link ++ header ++ transport) ∧
      14 ≤ (link ++ header ++ transport).length ∧
      (link ++ header ++ transport).length ≤ 128) ∨
    ¬ (Has attributes 7 ∧ Has attributes 8 ∧ Has attributes 9) ∧ frame = none

/-- The incoming interface is its attribute. -/
def IsIif (attributes : Attributes) (iif : Option Nat) : Prop :=
  (∃ index, iif = some index ∧ IsNumber unpack attributes 10 index) ∨
    ¬ Has attributes 10 ∧ iif = none

/-- The attributes are those of an event of a trace. -/
structure IsEvent (attributes : Attributes) (eventType : Nat) : Prop where
  allowed : ∀ key, Has attributes key → key ∈ allowedKinds
  required : ∀ key ∈ requiredKinds, Has attributes key
  family : IsNumber unpack attributes 15 7
  numbered : IsNumber unpack attributes 4 eventType
  known : eventType ∈ [1, 2, 3]

/-- The record has the values of the attributes. -/
structure IsRecord (order : ByteOrder) (attributes : Attributes)
    (record : TraceRecord) : Prop where
  event : IsEvent attributes record.eventType
  verdict : IsVerdict order attributes record.verdict
  frame : IsFrame attributes record.frame
  traceId : IsNumber (native order) attributes 6 record.traceId
  table : IsName attributes 1 record.table
  chain : IsName attributes 2 record.chain
  iif : IsIif attributes record.iif

/-- The bytes of a datagram with records. -/
def IsDatagram (order : ByteOrder) : List TraceRecord → Bytes → Prop
  | [], bytes => bytes = []
  | record :: records, bytes =>
      ∃ attributes header body rest, bytes = messageBytes header body ++ rest ∧
          IsMessage order attributes header body ∧
          IsRecord order attributes record ∧
          IsDatagram order records rest

/-! ## What is not handled -/

/-- The verdict has no code. -/
def LacksCode (order : ByteOrder) (attributes : Attributes) : Prop :=
  ¬ Has attributes 16 ∧ ∃ raw nested,
      (5, raw) ∈ attributes ∧ IsAttributes order nested raw ∧
        IsDistinct nested ∧ ¬ Has nested 1

/-- A name that is not an ASCII one. -/
def IsForeignName (attributes : Attributes) (key : Nat) : Prop :=
  ∃ raw, (key, raw) ∈ attributes ∧ IsTerminated raw ∧
    ∃ byte ∈ raw.dropLast, ¬ IsAscii byte

/-- One of the names is reached and is not an ASCII one. -/
structure HasForeignName
    (order : ByteOrder) (attributes : Attributes) : Prop where
  verdict : ∃ verdict, IsVerdict order attributes verdict
  frame : ∃ frame, IsFrame attributes frame
  traceId : ∃ traceId, IsNumber (native order) attributes 6 traceId
  name : IsForeignName attributes 1 ∨
      (∃ name, IsName attributes 1 name) ∧ IsForeignName attributes 2

/-- The attributes of an event that are not handled. -/
def Stumbles (order : ByteOrder) (attributes : Attributes) : Prop :=
  (∃ eventType, IsEvent attributes eventType) ∧
    (LacksCode order attributes ∨ HasForeignName order attributes)

/-- Behind messages that are decoded stands one that is not handled. -/
def HasStumbling (order : ByteOrder) (raw : Bytes) : Prop :=
  ∃ records front attributes header body behind,
    raw = front ++ messageBytes header body ++ behind ∧
      IsDatagram order records front ∧
      IsMessage order attributes header body ∧
      Stumbles order attributes

/-! ## Attributes -/

variable {attributes result : Attributes} {key : Nat} {raised : Raised}
  {read : Bytes → Nat} {order : ByteOrder}
  {bytes rest raw header body : Bytes} {events : List TraceRecord}
  {peer : Peer}

theorem valueOf_ok (distinct : IsDistinct attributes) {raw : Bytes} :
    valueOf attributes key = .ok raw ↔ (key, raw) ∈ attributes := by
  rw [valueOf]
  induction attributes with
  | nil =>
      constructor
      · intro isOk
        cases isOk
      · intro member
        cases member
  | cons entry attributes inductionHypothesis =>
      obtain ⟨kind, value⟩ := entry
      obtain ⟨isNew, distinct⟩ := List.nodup_cons.mp distinct
      rw [List.lookup_cons]
      by_cases isKey : key = kind
      · subst isKey
        rw [beq_self_eq_true]
        constructor
        · intro isOk
          cases isOk
          exact List.mem_cons_self
        · intro member
          rcases List.mem_cons.mp member with same | later
          · cases same
            rfl
          · exact (isNew (List.mem_map.mpr ⟨_, later, rfl⟩)).elim
      · rw [beq_eq_false_iff_ne.mpr isKey]
        refine (inductionHypothesis distinct).trans ?_
        constructor
        · exact List.mem_cons_of_mem _
        · intro member
          rcases List.mem_cons.mp member with same | later
          · cases same
            exact (isKey rfl).elim
          · exact later

theorem has_iff
    {key : Nat} : Has attributes key ↔ ∃ raw, (key, raw) ∈ attributes := by
  rw [Has, List.mem_map]
  constructor
  · rintro ⟨⟨kind, raw⟩, member, rfl⟩
    exact ⟨raw, member⟩
  · rintro ⟨raw, member⟩
    exact ⟨(key, raw), member, rfl⟩

theorem valueOf_error (isRaised : valueOf attributes key = .error raised) :
    ¬ Has attributes key ∧ raised = .keyError := by
  rw [valueOf] at isRaised
  cases isFound : attributes.lookup key with
  | some raw =>
      rw [isFound] at isRaised
      cases isRaised
  | none =>
      rw [isFound] at isRaised
      cases isRaised
      refine ⟨fun isThere => ?_, rfl⟩
      obtain ⟨raw, member⟩ := has_iff.mp isThere
      have missing := List.lookup_eq_none_iff.mp isFound _ member
      rw [bne_self_eq_false] at missing
      cases missing

theorem number_ok (distinct : IsDistinct attributes) {key value : Nat} :
    number read attributes key = .ok value ↔
      IsNumber read attributes key value := by
  rw [number]
  cases isValue : valueOf attributes key with
  | error raised =>
      have missing := (valueOf_error isValue).1
      constructor
      · intro isOk
        cases isOk
      · rintro ⟨raw, member, _⟩
        exact (missing (has_iff.mpr ⟨raw, member⟩)).elim
  | ok raw =>
      have member := (valueOf_ok distinct).mp isValue
      change (if raw.length = 4 then Except.ok (read raw) else _) = _ ↔ _
      by_cases isLength : raw.length = 4
      · rw [if_pos isLength]
        constructor
        · intro isOk
          cases isOk
          exact ⟨raw, member, isLength, rfl⟩
        · rintro ⟨other, isOther, _, rfl⟩
          have found := (valueOf_ok distinct).mpr isOther
          rw [isValue] at found
          cases found
          rfl
      · rw [if_neg isLength]
        constructor
        · intro isOk
          cases isOk
        · rintro ⟨other, isOther, isFour, _⟩
          have found := (valueOf_ok distinct).mpr isOther
          rw [isValue] at found
          cases found
          exact (isLength isFour).elim

theorem number_error (isRaised : number read attributes key = .error raised) :
    (∃ reason, raised = .denied reason) ∨
      ¬ Has attributes key ∧ raised = .keyError := by
  rw [number] at isRaised
  cases isValue : valueOf attributes key with
  | error other =>
      rw [isValue] at isRaised
      cases isRaised
      exact Or.inr (valueOf_error isValue)
  | ok raw =>
      rw [isValue] at isRaised
      change (if raw.length = 4 then _ else _) = _ at isRaised
      by_cases isLength : raw.length = 4
      · rw [if_pos isLength] at isRaised
        cases isRaised
      · rw [if_neg isLength] at isRaised
        cases isRaised
        exact Or.inl ⟨_, rfl⟩

theorem IsAttribute.length
    {entry : Nat × Bytes} (isAttribute : IsAttribute order entry bytes) :
    bytes.length = padded (4 + entry.2.length) := by
  obtain ⟨header, padding, rfl, isHeader, _, _, isPadding⟩ := isAttribute
  have isLonger := le_padded (4 + entry.2.length)
  rw [List.length_append, List.length_append, isHeader, isPadding]
  omega

theorem length_attributes_mod
    (isAttributes : IsAttributes order attributes bytes) :
    bytes.length % 4 = 0 := by
  induction attributes generalizing bytes with
  | nil =>
      cases isAttributes
      rfl
  | cons entry attributes inductionHypothesis =>
      obtain ⟨part, rest, rfl, isAttribute, isRest⟩ := isAttributes
      have length := isAttribute.length
      have others := inductionHypothesis isRest
      unfold padded at length
      rw [List.length_append]
      omega

theorem isAttribute_front
    (isLong : 4 ≤ rest.length) (isSize : 4 ≤ native order (rest.take 2))
    (isInside : padded (native order (rest.take 2)) ≤ rest.length) :
    IsAttribute order (native order ((rest.drop 2).take 2) % 0x4000,
        (rest.take (native order (rest.take 2))).drop 4)
      (rest.take (padded (native order (rest.take 2)))) := by
  have isLonger := le_padded (native order (rest.take 2))
  have lengthValue : ((rest.take (native order (rest.take 2))).drop 4).length =
        native order (rest.take 2) - 4 := by
    rw [List.length_drop, List.length_take]
    omega
  have isHeader :
      rest.take 4 ++ (rest.take (native order (rest.take 2))).drop 4 =
        rest.take (native order (rest.take 2)) := by
    have front :
        (rest.take (native order (rest.take 2))).take 4 = rest.take 4 := by
      rw [List.take_take, Nat.min_eq_left isSize]
    rw [← front, List.take_append_drop]
  refine ⟨rest.take 4, (rest.take (padded (native order (rest.take 2)))).drop
      (native order (rest.take 2)), ?_, ?_, ?_, ?_, ?_⟩
  · have front : (rest.take (padded (native order (rest.take 2)))).take
            (native order (rest.take 2)) =
          rest.take (native order (rest.take 2)) := by
      rw [List.take_take, Nat.min_eq_left isLonger]
    rw [isHeader, ← front, List.take_append_drop]
  · rw [List.length_take, Nat.min_eq_left isLong]
  · rw [List.take_take, lengthValue]
    change native order (rest.take 2) = _
    omega
  · rw [List.drop_take]
  · rw [List.length_drop, List.length_take, lengthValue]
    have same :
        4 + (native order (rest.take 2) - 4) = native order (rest.take 2) := by
      omega
    rw [same]
    omega

theorem IsAttribute.front {entry : Nat × Bytes} {part : Bytes}
    (isAttribute : IsAttribute order entry part) (behind : Bytes) :
    native order ((part ++ behind).take 2) = 4 + entry.2.length ∧
      native order (((part ++ behind).drop 2).take 2) % 0x4000 = entry.1 ∧
      ((part ++ behind).take (4 + entry.2.length)).drop 4 = entry.2 ∧
      (part ++ behind).drop (padded (4 + entry.2.length)) = behind := by
  have length := isAttribute.length
  obtain ⟨header, padding, rfl, isHeader, isSize, isKind, _⟩ := isAttribute
  have isShort : 2 ≤ header.length := by
    omega
  refine ⟨?_, ?_, ?_, ?_⟩
  · rw [List.append_assoc, List.append_assoc,
      List.take_append_of_le_length isShort]
    exact isSize
  · have second : ((header ++ entry.2 ++ padding ++ behind).drop 2).take 2 =
          header.drop 2 := by
      rw [List.append_assoc, List.append_assoc,
        List.drop_append_of_le_length isShort, List.take_append_of_le_length]
      · rw [List.take_of_length_le]
        rw [List.length_drop]
        omega
      · rw [List.length_drop]
        omega
    rw [second]
    exact isKind
  · rw [List.append_assoc, ← isHeader, ← List.length_append,
      List.take_left, List.drop_left]
  · rw [← length]
    exact List.drop_left

/-- The attributes of a text are those that it consists of. -/
theorem attrsFrom_ok (distinct : IsDistinct result) {found : Attributes} :
    attrsFrom order result rest = .ok found ↔
      ∃ attributes, found = result ++ attributes ∧
        IsAttributes order attributes rest ∧ IsDistinct found := by
  generalize isLength : rest.length = length
  induction length using Nat.strongRecOn generalizing result rest with
  | _ length inductionHypothesis =>
      rw [attrsFrom]
      by_cases isNil : rest.length = 0
      · rw [if_pos isNil]
        obtain rfl := List.length_eq_zero_iff.mp isNil
        constructor
        · intro isOk
          cases isOk
          exact ⟨[], (List.append_nil _).symm, rfl, distinct⟩
        · rintro ⟨attributes, rfl, isAttributes, _⟩
          cases attributes with
          | nil => rw [List.append_nil]
          | cons entry attributes =>
              obtain ⟨part, others, isBytes, isAttribute, _⟩ := isAttributes
              have length := congrArg List.length isBytes
              have isLonger := le_padded (4 + entry.2.length)
              rw [List.length_append, isAttribute.length,
                List.length_nil] at length
              omega
      · rw [if_neg isNil]
        constructor
        · intro isOk
          by_cases isShort : rest.length < 4
          · rw [if_pos isShort] at isOk
            cases isOk
          · rw [if_neg isShort] at isOk
            dsimp only at isOk
            split at isOk
            · cases isOk
            · rename_i isValid
              rw [not_or, not_or, Nat.not_lt, Nat.not_lt] at isValid
              obtain ⟨isSize, _, isNew⟩ := isValid
              by_cases isCut : rest.length < padded (native order (rest.take 2))
              · rw [if_pos isCut] at isOk
                cases isOk
              · rw [if_neg isCut] at isOk
                have isLonger := le_padded (native order (rest.take 2))
                have isFewer : (rest.drop
                      (padded (native order (rest.take 2)))).length <
                        length := by
                  rw [List.length_drop]
                  omega
                have isMore : IsDistinct (result ++
                        [(native order ((rest.drop 2).take 2) % 0x4000,
                          (rest.take (native order (rest.take 2))).drop
                            4)]) := by
                  rw [IsDistinct, List.map_append, List.map_singleton,
                    ← List.concat_eq_append]
                  exact (List.nodup_concat _ _).mpr ⟨isNew, distinct⟩
                obtain ⟨attributes, isFound, isAttributes, isDistinct⟩ :=
                  (inductionHypothesis _ isFewer isMore rfl).mp isOk
                rw [List.append_assoc] at isFound
                refine ⟨_, isFound, ?_, isDistinct⟩
                refine ⟨_, _, (List.take_append_drop _ _).symm, ?_,
                  isAttributes⟩
                exact isAttribute_front (Nat.le_of_not_lt isShort) isSize
                  (Nat.le_of_not_lt isCut)
        · rintro ⟨attributes, isFound, isAttributes, isDistinct⟩
          cases attributes with
          | nil =>
              rw [isAttributes] at isNil
              exact (isNil rfl).elim
          | cons entry attributes =>
              obtain ⟨part, others, rfl, isAttribute, isRest⟩ := isAttributes
              obtain ⟨isSize, isKind, isValue, isBehind⟩ :=
                isAttribute.front others
              have isPart := isAttribute.length
              have isLonger := le_padded (4 + entry.2.length)
              rw [List.length_append] at isLength isNil
              have isNew : entry.1 ∉ result.map Prod.fst := by
                intro isOld
                rw [IsDistinct, isFound, List.map_append,
                  List.map_cons] at isDistinct
                exact (List.nodup_append.mp isDistinct).2.2 _ isOld _
                  List.mem_cons_self rfl
              have isMore : IsDistinct (result ++ [entry]) := by
                rw [IsDistinct, List.map_append, List.map_singleton,
                  ← List.concat_eq_append]
                exact (List.nodup_concat _ _).mpr ⟨isNew, distinct⟩
              have isFewer : others.length < length := by
                omega
              have isRead := (inductionHypothesis _ isFewer isMore rfl).mpr
                  ⟨attributes, by
                    rw [isFound, List.append_assoc]
                    rfl, isRest, isDistinct⟩
              rw [if_neg (by rw [List.length_append]; omega)]
              dsimp only
              rw [isSize, isKind, isValue, isBehind, dif_neg, if_neg]
              · exact isRead
              · rw [List.length_append]
                omega
              · rw [not_or, not_or, List.length_append]
                exact ⟨by omega, by omega, isNew⟩

theorem attrsFrom_error
    (isRaised : attrsFrom order result rest = .error raised) :
    ∃ reason, raised = .denied reason := by
  generalize isLength : rest.length = length
  induction length using Nat.strongRecOn generalizing result rest with
  | _ length inductionHypothesis =>
      rw [attrsFrom] at isRaised
      by_cases isNil : rest.length = 0
      · rw [if_pos isNil] at isRaised
        cases isRaised
      · rw [if_neg isNil] at isRaised
        by_cases isShort : rest.length < 4
        · rw [if_pos isShort] at isRaised
          cases isRaised
          exact ⟨_, rfl⟩
        · rw [if_neg isShort] at isRaised
          dsimp only at isRaised
          split at isRaised
          · cases isRaised
            exact ⟨_, rfl⟩
          · rename_i isValid
            rw [not_or, not_or, Nat.not_lt, Nat.not_lt] at isValid
            have isLonger := le_padded (native order (rest.take 2))
            split at isRaised
            · cases isRaised
              exact ⟨_, rfl⟩
            · refine inductionHypothesis _ ?_ isRaised rfl
              rw [List.length_drop]
              omega

theorem attrs_ok {attributes : Attributes} :
    attrs order raw = .ok attributes ↔
      IsAttributes order attributes raw ∧ IsDistinct attributes := by
  have distinct : IsDistinct [] := List.nodup_nil
  rw [attrs, attrsFrom_ok distinct]
  constructor
  · rintro ⟨found, rfl, isAttributes⟩
    exact isAttributes
  · intro isAttributes
    exact ⟨attributes, rfl, isAttributes⟩

/-! ## Fields -/

theorem IsNumber.has
    {value : Nat} (isNumber : IsNumber read attributes key value) :
    Has attributes key := by
  obtain ⟨raw, member, _⟩ := isNumber
  exact has_iff.mpr ⟨raw, member⟩

theorem verdictOf_ok (distinct : IsDistinct attributes) {verdict : Option Nat} :
    verdictOf order attributes = .ok verdict ↔
      IsVerdict order attributes verdict := by
  rw [verdictOf, IsVerdict]
  by_cases hasVerdict : Has attributes 16
  · rw [if_pos hasVerdict, bind_ok]
    simp only [number_ok distinct, Except.ok.injEq]
    constructor
    · rintro ⟨code, isCode, rfl⟩
      exact Or.inl ⟨code, rfl, isCode⟩
    · rintro (⟨code, rfl, isCode⟩ | ⟨missing, _⟩ | ⟨missing, _⟩)
      · exact ⟨code, isCode, rfl⟩
      · exact (missing hasVerdict).elim
      · exact (missing hasVerdict).elim
  · rw [if_neg hasVerdict]
    by_cases hasNested : Has attributes 5
    · rw [if_pos hasNested]
      simp only [bind_ok, valueOf_ok distinct, attrs_ok, Except.ok.injEq]
      constructor
      · rintro ⟨raw, member, nested, ⟨isNested, isDistinct⟩, code, isCode, rfl⟩
        exact Or.inr (Or.inl ⟨hasVerdict, raw, nested, code, rfl, member,
          isNested, isDistinct, (number_ok isDistinct).mp isCode⟩)
      · rintro (⟨_, _, isCode⟩ |
          ⟨_, raw, nested, code, rfl, member, isNested, isDistinct,
            isCode⟩ | ⟨_, missing, _⟩)
        · exact (hasVerdict isCode.has).elim
        · exact ⟨raw, member, nested, ⟨isNested, isDistinct⟩, code,
            (number_ok isDistinct).mpr isCode, rfl⟩
        · exact (missing hasNested).elim
    · rw [if_neg hasNested]
      constructor
      · intro isOk
        cases isOk
        exact Or.inr (Or.inr ⟨hasVerdict, hasNested, rfl⟩)
      · rintro (⟨_, _, isCode⟩ | ⟨_, raw, _, _, _, member, _⟩ | ⟨_, _, rfl⟩)
        · exact (hasVerdict isCode.has).elim
        · exact (hasNested (has_iff.mpr ⟨raw, member⟩)).elim
        · rfl

theorem verdictOf_error (distinct : IsDistinct attributes) {raised : Raised} :
    verdictOf order attributes = .error raised →
      (∃ reason, raised = .denied reason) ∨
        LacksCode order attributes ∧ raised = .keyError := by
  rw [verdictOf]
  by_cases hasVerdict : Has attributes 16
  · rw [if_pos hasVerdict, bind_error]
    rintro (isRaised | ⟨_, _, isRaised⟩)
    · rcases number_error isRaised with denied | ⟨missing, _⟩
      · exact Or.inl denied
      · exact (missing hasVerdict).elim
    · cases isRaised
  · rw [if_neg hasVerdict]
    by_cases hasNested : Has attributes 5
    · rw [if_pos hasNested, bind_error]
      rintro (isRaised | ⟨raw, isRaw, isRaised⟩)
      · exact ((valueOf_error isRaised).1 hasNested).elim
      · rcases bind_error.mp isRaised with isRaised | ⟨nested, isNested,
          isRaised⟩
        · exact Or.inl (attrsFrom_error isRaised)
        · rcases bind_error.mp isRaised with isRaised | ⟨_, _, isRaised⟩
          · obtain ⟨isAttributes, isDistinct⟩ := attrs_ok.mp isNested
            rcases number_error isRaised with denied | ⟨missing, isKey⟩
            · exact Or.inl denied
            · exact Or.inr ⟨⟨hasVerdict, raw, nested,
                (valueOf_ok distinct).mp isRaw, isAttributes, isDistinct,
                missing⟩, isKey⟩
          · cases isRaised
    · rw [if_neg hasNested]
      intro isRaised
      cases isRaised

theorem LacksCode.raises
    (distinct : IsDistinct attributes) (lacks : LacksCode order attributes) :
    verdictOf order attributes = .error .keyError := by
  obtain ⟨hasVerdict, raw, nested, member, isNested, isDistinct, missing⟩ :=
    lacks
  have hasNested : Has attributes 5 := has_iff.mpr ⟨raw, member⟩
  rw [verdictOf, if_neg hasVerdict, if_pos hasNested,
    (valueOf_ok distinct).mpr member]
  refine bind_error.mpr (Or.inr ⟨raw, rfl, ?_⟩)
  refine bind_error.mpr
    (Or.inr ⟨nested, attrs_ok.mpr ⟨isNested, isDistinct⟩, ?_⟩)
  refine bind_error.mpr (Or.inl (bind_error.mpr (Or.inl ?_)))
  cases isValue : valueOf nested 1 with
  | ok value =>
      have isThere := (valueOf_ok isDistinct).mp isValue
      exact (missing (has_iff.mpr ⟨value, isThere⟩)).elim
  | error raised => rw [(valueOf_error isValue).2]

theorem frameOf_ok (distinct : IsDistinct attributes) {frame : Option Bytes} :
    frameOf attributes = .ok frame ↔ IsFrame attributes frame := by
  rw [frameOf, IsFrame]
  by_cases hasAll : Has attributes 7 ∧ Has attributes 8 ∧ Has attributes 9
  · rw [if_pos hasAll]
    simp only [bind_ok, valueOf_ok distinct]
    constructor
    · rintro ⟨link, isLink, header, isHeader, transport, isTransport, isFrame⟩
      split at isFrame
      · rename_i fits
        cases isFrame
        exact Or.inl ⟨link, header, transport, isLink, isHeader,
          isTransport, rfl, fits⟩
      · cases isFrame
    · rintro (⟨link, header, transport, isLink, isHeader, isTransport, rfl,
        fits⟩ | ⟨missing, _⟩)
      · exact ⟨link, isLink, header, isHeader, transport, isTransport,
          if_pos fits⟩
      · exact (missing hasAll).elim
  · rw [if_neg hasAll]
    constructor
    · intro isOk
      cases isOk
      exact Or.inr ⟨hasAll, rfl⟩
    · rintro (⟨link, header, transport, isLink, isHeader, isTransport, _⟩ |
        ⟨_, rfl⟩)
      · exact (hasAll ⟨has_iff.mpr ⟨link, isLink⟩,
          has_iff.mpr ⟨header, isHeader⟩,
          has_iff.mpr ⟨transport, isTransport⟩⟩).elim
      · rfl

theorem frameOf_error (isRaised : frameOf attributes = .error raised) :
    ∃ reason, raised = .denied reason := by
  rw [frameOf] at isRaised
  by_cases hasAll : Has attributes 7 ∧ Has attributes 8 ∧ Has attributes 9
  · rw [if_pos hasAll] at isRaised
    rcases bind_error.mp isRaised with isRaised | ⟨link, _, isRaised⟩
    · exact ((valueOf_error isRaised).1 hasAll.1).elim
    · rcases bind_error.mp isRaised with isRaised | ⟨header, _, isRaised⟩
      · exact ((valueOf_error isRaised).1 hasAll.2.1).elim
      · rcases bind_error.mp isRaised with isRaised | ⟨transport, _, isRaised⟩
        · exact ((valueOf_error isRaised).1 hasAll.2.2).elim
        · dsimp only at isRaised
          split at isRaised
          · cases isRaised
          · cases isRaised
            exact ⟨_, rfl⟩
  · rw [if_neg hasAll] at isRaised
    cases isRaised

theorem iifOf_ok (distinct : IsDistinct attributes) {iif : Option Nat} :
    iifOf attributes = .ok iif ↔ IsIif attributes iif := by
  rw [iifOf, IsIif]
  by_cases hasIif : Has attributes 10
  · rw [if_pos hasIif, bind_ok]
    simp only [number_ok distinct, Except.ok.injEq]
    constructor
    · rintro ⟨index, isIndex, rfl⟩
      exact Or.inl ⟨index, rfl, isIndex⟩
    · rintro (⟨index, rfl, isIndex⟩ | ⟨missing, _⟩)
      · exact ⟨index, isIndex, rfl⟩
      · exact (missing hasIif).elim
  · rw [if_neg hasIif]
    constructor
    · intro isOk
      cases isOk
      exact Or.inr ⟨hasIif, rfl⟩
    · rintro (⟨_, _, isIndex⟩ | ⟨_, rfl⟩)
      · exact (hasIif isIndex.has).elim
      · rfl

theorem iifOf_error (isRaised : iifOf attributes = .error raised) :
    ∃ reason, raised = .denied reason := by
  rw [iifOf] at isRaised
  by_cases hasIif : Has attributes 10
  · rw [if_pos hasIif] at isRaised
    rcases bind_error.mp isRaised with isRaised | ⟨_, _, isRaised⟩
    · rcases number_error isRaised with denied | ⟨missing, _⟩
      · exact denied
      · exact (missing hasIif).elim
    · cases isRaised
  · rw [if_neg hasIif] at isRaised
    cases isRaised

theorem name_ok (distinct : IsDistinct attributes) {name : List Char} :
    (valueOf attributes key).bind text = .ok name ↔
      IsName attributes key name := by
  have bound : (valueOf attributes key).bind text =
        (valueOf attributes key >>= text) := rfl
  rw [bound, bind_ok]
  simp only [valueOf_ok distinct, text]
  constructor
  · rintro ⟨raw, member, isText⟩
    split at isText
    · rename_i isTerminated
      split at isText
      · rename_i isAscii
        cases isText
        exact ⟨raw, member, isTerminated, isAscii, rfl⟩
      · cases isText
    · cases isText
  · rintro ⟨raw, member, isTerminated, isAscii, rfl⟩
    refine ⟨raw, member, ?_⟩
    rw [if_pos isTerminated, if_pos isAscii]

theorem name_error
    (distinct : IsDistinct attributes) (isThere : Has attributes key)
    (isRaised : (valueOf attributes key).bind text = .error raised) :
    (∃ reason, raised = .denied reason) ∨
      IsForeignName attributes key ∧ raised = .unicodeDecodeError := by
  have bound : (valueOf attributes key).bind text =
        (valueOf attributes key >>= text) := rfl
  rw [bound] at isRaised
  rcases bind_error.mp isRaised with isRaised | ⟨raw, isRaw, isRaised⟩
  · exact ((valueOf_error isRaised).1 isThere).elim
  · rw [text] at isRaised
    split at isRaised
    · rename_i isTerminated
      split at isRaised
      · cases isRaised
      · rename_i isForeign
        cases isRaised
        rw [not_forall] at isForeign
        obtain ⟨byte, isForeign⟩ := isForeign
        rw [Classical.not_imp] at isForeign
        exact Or.inr ⟨⟨raw, (valueOf_ok distinct).mp isRaw, isTerminated,
          byte, isForeign⟩, rfl⟩
    · cases isRaised
      exact Or.inl ⟨_, rfl⟩

theorem IsForeignName.raises (distinct : IsDistinct attributes)
    (isForeign : IsForeignName attributes key) :
    (valueOf attributes key).bind text = .error .unicodeDecodeError := by
  obtain ⟨raw, member, isTerminated, byte, isByte, notAscii⟩ := isForeign
  rw [(valueOf_ok distinct).mpr member]
  change text raw = _
  rw [text, if_pos isTerminated, if_neg]
  intro isAscii
  exact notAscii (isAscii byte isByte)

/-! ## Records of messages -/

/-- What is done with the attributes of an event. -/
def eventRecord (order : ByteOrder) (attributes : Attributes)
    (eventType : Nat) : Except Raised TraceRecord := do
  let verdict ← verdictOf order attributes
  let frame ← frameOf attributes
  let traceId ← number (native order) attributes 6
  let table ← (valueOf attributes 1).bind text
  let chain ← (valueOf attributes 2).bind text
  let iif ← iifOf attributes
  .ok { traceId, table, chain, verdict, iif, frame, eventType }

/-- The attributes are either those of an event, or denied. -/
theorem traceRecord_event
    (order : ByteOrder) (distinct : IsDistinct attributes) :
    (∃ eventType, IsEvent attributes eventType ∧
        traceRecord order attributes = eventRecord order attributes eventType) ∨
      (¬ ∃ eventType, IsEvent attributes eventType) ∧
        ∃ reason, traceRecord order attributes = .error (.denied reason) := by
  by_cases isSet : (∀ key ∈ attributes.map Prod.fst, key ∈ allowedKinds) ∧
        ∀ key ∈ requiredKinds, Has attributes key
  · have unfolded (result : Except Raised TraceRecord) (isResult :
          (number unpack attributes 15 >>= fun family =>
            if family ≠ 7 then
              Except.error (.denied "physical_trace_nfproto_invalid")
            else
              number unpack attributes 4 >>= fun eventType =>
                if eventType ∉ [1, 2, 3] then
                  .error (.denied "physical_trace_event_type_invalid")
                else
                  eventRecord order attributes eventType) = result) :
        traceRecord order attributes = result := by
      rw [← isResult]
      exact if_pos isSet
    cases isFamily : number unpack attributes 15 with
    | error raised =>
        rcases number_error isFamily with ⟨reason, rfl⟩ | ⟨missing, _⟩
        · refine Or.inr ⟨?_, reason, unfolded _ ?_⟩
          · rintro ⟨eventType, isEvent⟩
            have isOk := (number_ok distinct).mpr isEvent.family
            rw [isFamily] at isOk
            cases isOk
          · rw [isFamily]
            rfl
        · exact (missing (isSet.2 15 (by decide))).elim
    | ok family =>
        by_cases isSeven : family = 7
        · cases isType : number unpack attributes 4 with
          | error raised =>
              rcases number_error isType with ⟨reason, rfl⟩ | ⟨missing, _⟩
              · refine Or.inr ⟨?_, reason, unfolded _ ?_⟩
                · rintro ⟨eventType, isEvent⟩
                  have isOk := (number_ok distinct).mpr isEvent.numbered
                  rw [isType] at isOk
                  cases isOk
                · rw [isFamily, isType]
                  exact if_neg (not_not.mpr isSeven)
              · exact (missing (isSet.2 4 (by decide))).elim
          | ok eventType =>
              by_cases isKnown : eventType ∈ [1, 2, 3]
              · refine Or.inl ⟨eventType, ?_, unfolded _ ?_⟩
                · exact
                    { allowed := isSet.1
                      required := isSet.2
                      family := isSeven ▸ (number_ok distinct).mp isFamily
                      numbered := (number_ok distinct).mp isType
                      known := isKnown }
                · rw [isFamily, isType]
                  exact (if_neg (not_not.mpr isSeven)).trans
                    (if_neg (not_not.mpr isKnown))
              · refine Or.inr ⟨?_, "physical_trace_event_type_invalid",
                  unfolded _ ?_⟩
                · rintro ⟨other, isEvent⟩
                  have isOk := (number_ok distinct).mpr isEvent.numbered
                  rw [isType] at isOk
                  cases isOk
                  exact isKnown isEvent.known
                · rw [isFamily, isType]
                  exact (if_neg (not_not.mpr isSeven)).trans (if_pos isKnown)
        · refine Or.inr ⟨?_, "physical_trace_nfproto_invalid", unfolded _ ?_⟩
          · rintro ⟨eventType, isEvent⟩
            have isOk := (number_ok distinct).mpr isEvent.family
            rw [isFamily] at isOk
            cases isOk
            exact isSeven rfl
          · rw [isFamily]
            exact if_pos isSeven
  · refine Or.inr ⟨?_, _, if_neg isSet⟩
    rintro ⟨eventType, isEvent⟩
    exact isSet ⟨isEvent.allowed, isEvent.required⟩

theorem IsEvent.unique (distinct : IsDistinct attributes) {first second : Nat}
    (isFirst : IsEvent attributes first)
    (isSecond : IsEvent attributes second) :
    first = second := by
  have one := (number_ok distinct).mpr isFirst.numbered
  have other := (number_ok distinct).mpr isSecond.numbered
  rw [one] at other
  exact Except.ok.inj other

theorem traceRecord_ok
    (distinct : IsDistinct attributes) {record : TraceRecord} :
    traceRecord order attributes = .ok record ↔
      IsRecord order attributes record := by
  rcases traceRecord_event order distinct with
    ⟨eventType, isEvent, isRecorded⟩ | ⟨notEvent, reason, isDenied⟩
  · rw [isRecorded, eventRecord]
    simp only [bind_ok, verdictOf_ok distinct, frameOf_ok distinct,
      number_ok distinct, name_ok distinct, iifOf_ok distinct]
    constructor
    · rintro ⟨verdict, isVerdict, frame, isFrame, traceId, isTraceId, table,
        isTable, chain, isChain, iif, isIif, same⟩
      obtain rfl := Except.ok.inj same
      exact
        { event := isEvent
          verdict := isVerdict
          frame := isFrame
          traceId := isTraceId
          table := isTable
          chain := isChain
          iif := isIif }
    · intro isRecord
      have isType := isEvent.unique distinct isRecord.event
      subst isType
      exact ⟨_, isRecord.verdict, _, isRecord.frame, _, isRecord.traceId, _,
        isRecord.table, _, isRecord.chain, _, isRecord.iif, rfl⟩
  · rw [isDenied]
    constructor
    · intro isOk
      cases isOk
    · intro isRecord
      exact (notEvent ⟨_, isRecord.event⟩).elim

/-- The attributes of a message raise something else than `Denied` exactly
when they stumble. -/
theorem traceRecord_error (distinct : IsDistinct attributes) :
    (∃ raised, traceRecord order attributes = .error raised ∧
        ∀ reason, raised ≠ .denied reason) ↔
      Stumbles order attributes := by
  rcases traceRecord_event order distinct with
    ⟨eventType, isEvent, isRecorded⟩ | ⟨notEvent, reason, isDenied⟩
  · rw [isRecorded, eventRecord]
    constructor
    · rintro ⟨raised, isRaised, notDenied⟩
      refine ⟨⟨eventType, isEvent⟩, ?_⟩
      rcases bind_error.mp isRaised with isRaised | ⟨verdict, isVerdict,
        isRaised⟩
      · rcases verdictOf_error distinct isRaised with ⟨reason, isDenied⟩ |
          ⟨lacks, _⟩
        · exact (notDenied reason isDenied).elim
        · exact Or.inl lacks
      rcases bind_error.mp isRaised with isRaised | ⟨frame, isFrame, isRaised⟩
      · obtain ⟨reason, isDenied⟩ := frameOf_error isRaised
        exact (notDenied reason isDenied).elim
      rcases bind_error.mp isRaised with isRaised | ⟨traceId, isTraceId,
        isRaised⟩
      · rcases number_error isRaised with ⟨reason, isDenied⟩ | ⟨missing, _⟩
        · exact (notDenied reason isDenied).elim
        · exact (missing (isEvent.required 6 (by decide))).elim
      have reached (isName : IsForeignName attributes 1 ∨
            (∃ name, IsName attributes 1 name) ∧ IsForeignName attributes 2) :
          HasForeignName order attributes :=
        { verdict := ⟨verdict, (verdictOf_ok distinct).mp isVerdict⟩
          frame := ⟨frame, (frameOf_ok distinct).mp isFrame⟩
          traceId := ⟨traceId, (number_ok distinct).mp isTraceId⟩
          name := isName }
      rcases bind_error.mp isRaised with isRaised | ⟨table, isTable, isRaised⟩
      · rcases name_error distinct (isEvent.required 1 (by decide))
          isRaised with ⟨reason, isDenied⟩ | ⟨isForeign, _⟩
        · exact (notDenied reason isDenied).elim
        · exact Or.inr (reached (Or.inl isForeign))
      rcases bind_error.mp isRaised with isRaised | ⟨chain, _, isRaised⟩
      · rcases name_error distinct (isEvent.required 2 (by decide))
          isRaised with ⟨reason, isDenied⟩ | ⟨isForeign, _⟩
        · exact (notDenied reason isDenied).elim
        · exact Or.inr (reached
            (Or.inr ⟨⟨table, (name_ok distinct).mp isTable⟩, isForeign⟩))
      rcases bind_error.mp isRaised with isRaised | ⟨_, _, isRaised⟩
      · obtain ⟨reason, isDenied⟩ := iifOf_error isRaised
        exact (notDenied reason isDenied).elim
      · cases isRaised
    · rintro ⟨_, lacks | foreign⟩
      · exact ⟨.keyError, bind_error.mpr (Or.inl (lacks.raises distinct)),
          fun _ => Raised.noConfusion⟩
      · obtain ⟨⟨verdict, isVerdict⟩, ⟨frame, isFrame⟩,
          ⟨traceId, isTraceId⟩, isName⟩ := foreign
        refine ⟨.unicodeDecodeError, ?_, fun _ => Raised.noConfusion⟩
        refine bind_error.mpr (Or.inr
          ⟨verdict, (verdictOf_ok distinct).mpr isVerdict, ?_⟩)
        refine bind_error.mpr (Or.inr
          ⟨frame, (frameOf_ok distinct).mpr isFrame, ?_⟩)
        refine bind_error.mpr (Or.inr
          ⟨traceId, (number_ok distinct).mpr isTraceId, ?_⟩)
        rcases isName with isForeign | ⟨⟨name, isName⟩, isForeign⟩
        · exact bind_error.mpr (Or.inl (isForeign.raises distinct))
        · refine bind_error.mpr (Or.inr
            ⟨name, (name_ok distinct).mpr isName, ?_⟩)
          exact bind_error.mpr (Or.inl (isForeign.raises distinct))
  · rw [isDenied]
    constructor
    · rintro ⟨_, same, notDenied⟩
      exact (notDenied reason (Except.error.inj same).symm).elim
    · rintro ⟨isEvent, _⟩
      exact (notEvent isEvent).elim

/-! ## Messages of datagrams -/

/-- What is read of a message in front of others. -/
theorem IsMessage.front
    (isMessage : IsMessage order attributes header body) (behind : Bytes) :
    20 ≤ (messageBytes header body ++ behind).length ∧
      IsTraceHeader order (messageBytes header body ++ behind) ∧
      ((messageBytes header body ++ behind).drop 16).take 4 = [7, 0, 0, 0] ∧
      native order ((messageBytes header body ++ behind).take 4) =
        20 + body.length ∧
      ((messageBytes header body ++ behind).take
        (20 + body.length)).drop 20 = body ∧
      padded (20 + body.length) ≤ (messageBytes header body ++ behind).length ∧
      (messageBytes header body ++ behind).drop
        (padded (20 + body.length)) = behind := by
  have isLength := isMessage.length
  have isWords := length_attributes_mod isMessage.entries
  have isPadded : padded (20 + body.length) = 20 + body.length := by
    unfold padded
    omega
  have whole : messageBytes header body ++ behind =
        header ++ ([7, 0, 0, 0] ++ (body ++ behind)) := by
    rw [messageBytes, List.append_assoc, List.append_assoc]
  have length : (messageBytes header body ++ behind).length =
        20 + body.length + behind.length := by
    rw [whole, List.length_append, List.length_append, List.length_append,
      isLength]
    simp only [List.length_cons, List.length_nil]
    omega
  have taken (count : Nat) (few : count ≤ 16) :
      (messageBytes header body ++ behind).take count =
        header.take count := by
    rw [whole, List.take_append_of_le_length (by omega)]
  have inside (start count : Nat) (few : start + count ≤ 16) :
      ((messageBytes header body ++ behind).drop start).take count =
        (header.drop start).take count := by
    rw [whole, List.drop_append_of_le_length (by omega),
      List.take_append_of_le_length]
    rw [List.length_drop]
    omega
  have last : (header.drop 12).take 4 = header.drop 12 := by
    rw [List.take_of_length_le]
    rw [List.length_drop]
    omega
  have isSize : native order ((messageBytes header body ++ behind).take 4) =
        20 + body.length := by
    rw [taken 4 (by omega)]
    exact isMessage.size
  have front : messageBytes header body =
        (messageBytes header body ++ behind).take (20 + body.length) := by
    have size : (messageBytes header body).length = 20 + body.length := by
      rw [List.length_append] at length
      omega
    rw [← size, List.take_left]
  refine ⟨by omega, ⟨?_, ?_, ?_, ?_, ?_, ?_⟩, ?_, isSize, ?_, by omega, ?_⟩
  · omega
  · omega
  · rw [inside 4 2 (by omega)]
    exact isMessage.kind
  · rw [inside 12 4 (by omega), last]
    exact isMessage.pid
  · rw [inside 8 4 (by omega)]
    exact isMessage.sequence
  · rw [inside 6 2 (by omega)]
    exact isMessage.flags
  · rw [whole, List.drop_left' isLength]
    rfl
  · rw [← front, messageBytes]
    exact List.drop_left' (by
      rw [List.length_append, isLength]
      rfl)
  · rw [isPadded]
    exact List.drop_left' (by
      rw [List.length_append] at length
      omega)

theorem decodeMessages_front
    (isMessage : IsMessage order attributes header body)
    (events : List TraceRecord) (behind : Bytes) :
    decodeMessages order events (messageBytes header body ++ behind) =
      match traceRecord order attributes with
      | .error raised => .error raised
      | .ok record => decodeMessages order (events ++ [record]) behind := by
  obtain ⟨isLong, isHeader, isFamily, isSize, isBody, isInside, isBehind⟩ :=
    isMessage.front behind
  rw [decodeMessages, if_neg (by omega), if_neg (by omega),
    dif_neg (not_not.mpr isHeader), if_neg (not_not.mpr isFamily)]
  dsimp only
  rw [isSize, isBody, attrs_ok.mpr ⟨isMessage.entries, isMessage.distinct⟩,
    isBehind]
  dsimp only
  cases traceRecord order attributes with
  | error raised => rfl
  | ok record => exact if_neg (Nat.not_lt_of_le isInside)

/-- A text that is not empty and has no message in front is denied. -/
theorem decodeMessages_denied
    (isSome : rest.length ≠ 0) (noMessage : ¬ ∃ attributes header body behind,
      rest = messageBytes header body ++ behind ∧
        IsMessage order attributes header body)
    (events : List TraceRecord) :
    ∃ reason, decodeMessages order events rest = .error (.denied reason) := by
  rw [decodeMessages, if_neg isSome]
  by_cases isShort : rest.length < 20
  · rw [if_pos isShort]
    exact ⟨_, rfl⟩
  · rw [if_neg isShort]
    by_cases isHeader : IsTraceHeader order rest
    · rw [dif_neg (not_not.mpr isHeader)]
      by_cases isFamily : (rest.drop 16).take 4 = [7, 0, 0, 0]
      · rw [if_neg (not_not.mpr isFamily)]
        dsimp only
        cases isRead :
            attrs order ((rest.take (native order (rest.take 4))).drop 20) with
        | error raised =>
            obtain ⟨reason, rfl⟩ := attrsFrom_error isRead
            exact ⟨reason, rfl⟩
        | ok attributes =>
            obtain ⟨isAttributes, isDistinct⟩ := attrs_ok.mp isRead
            obtain ⟨isSize, isInside, isKind, isPid, isSequence, isFlags⟩ :=
              isHeader
            have lengthBody :
                ((rest.take (native order (rest.take 4))).drop 20).length =
                  native order (rest.take 4) - 20 := by
              rw [List.length_drop, List.length_take]
              omega
            refine (noMessage ⟨attributes, rest.take 16,
              (rest.take (native order (rest.take 4))).drop 20,
              rest.drop (native order (rest.take 4)), ?_, ?_⟩).elim
            · have early : rest.take 16 ++ [7, 0, 0, 0] =
                    (rest.take (native order (rest.take 4))).take 20 := by
                rw [← isFamily, List.take_take, Nat.min_eq_left isSize,
                  ← List.take_add]
              rw [messageBytes, early, List.take_append_drop,
                List.take_append_drop]
            · exact
                { length := by
                    rw [List.length_take]
                    omega
                  size := by
                    rw [List.take_take, lengthBody]
                    change native order (rest.take 4) = _
                    omega
                  kind := by
                    rw [List.drop_take, List.take_take]
                    exact isKind
                  flags := by
                    rw [List.drop_take, List.take_take]
                    exact isFlags
                  sequence := by
                    rw [List.drop_take, List.take_take]
                    exact isSequence
                  pid := by
                    rw [List.drop_take]
                    exact isPid
                  entries := isAttributes
                  distinct := isDistinct }
      · rw [if_pos isFamily]
        exact ⟨_, rfl⟩
    · rw [dif_pos isHeader]
      exact ⟨_, rfl⟩

theorem IsMessage.length_lt
    (isMessage : IsMessage order attributes header body) (behind : Bytes) :
    behind.length < (messageBytes header body ++ behind).length := by
  rw [messageBytes, List.length_append, List.length_append,
    List.length_append, isMessage.length]
  omega

/-- What the messages of a datagram decode to. -/
theorem decodeMessages_ok {found : List TraceRecord} {rest : Bytes} :
    decodeMessages order events rest = .ok found ↔
      ∃ records, found = events ++ records ∧
        IsDatagram order records rest := by
  constructor
  · intro isOk
    generalize isLength : rest.length = length
    induction length using Nat.strongRecOn generalizing events rest with
    | _ length inductionHypothesis =>
        by_cases isNil : rest.length = 0
        · rw [decodeMessages, if_pos isNil] at isOk
          cases isOk
          exact ⟨[], (List.append_nil _).symm, List.length_eq_zero_iff.mp isNil⟩
        · by_cases hasMessage : ∃ attributes header body behind,
              rest = messageBytes header body ++ behind ∧
                IsMessage order attributes header body
          · obtain ⟨attributes, header, body, behind, rfl, isMessage⟩ :=
              hasMessage
            have isFewer := isMessage.length_lt behind
            rw [decodeMessages_front isMessage] at isOk
            cases isRecorded : traceRecord order attributes with
            | error raised =>
                rw [isRecorded] at isOk
                cases isOk
            | ok record =>
                rw [isRecorded] at isOk
                obtain ⟨records, rfl, isDatagram⟩ :=
                  inductionHypothesis _ (isLength ▸ isFewer) isOk rfl
                refine ⟨record :: records, ?_, attributes, header, body,
                  behind, rfl, isMessage,
                  (traceRecord_ok isMessage.distinct).mp isRecorded,
                  isDatagram⟩
                rw [List.append_assoc]
                rfl
          · obtain ⟨reason, isDenied⟩ :=
              decodeMessages_denied isNil hasMessage events
            rw [isDenied] at isOk
            cases isOk
  · rintro ⟨records, rfl, isDatagram⟩
    induction records generalizing events rest with
    | nil =>
        cases isDatagram
        rw [decodeMessages, if_pos List.length_nil, List.append_nil]
    | cons record records inductionHypothesis =>
        obtain ⟨attributes, header, body, behind, rfl, isMessage, isRecord,
          isRest⟩ := isDatagram
        rw [decodeMessages_front isMessage,
          (traceRecord_ok isMessage.distinct).mpr isRecord]
        dsimp only
        rw [inductionHypothesis isRest, List.append_assoc]
        rfl

/-- Something else than `Denied` is raised exactly where a message
stumbles. -/
theorem decodeMessages_error {rest : Bytes} :
    (∃ raised, decodeMessages order events rest = .error raised ∧
        ∀ reason, raised ≠ .denied reason) ↔
      HasStumbling order rest := by
  constructor
  · rintro ⟨raised, isRaised, notDenied⟩
    generalize isLength : rest.length = length
    induction length using Nat.strongRecOn generalizing events rest with
    | _ length inductionHypothesis =>
        by_cases isNil : rest.length = 0
        · rw [decodeMessages, if_pos isNil] at isRaised
          cases isRaised
        · by_cases hasMessage : ∃ attributes header body behind,
              rest = messageBytes header body ++ behind ∧
                IsMessage order attributes header body
          · obtain ⟨attributes, header, body, behind, rfl, isMessage⟩ :=
              hasMessage
            have isFewer := isMessage.length_lt behind
            rw [decodeMessages_front isMessage] at isRaised
            cases isRecorded : traceRecord order attributes with
            | error other =>
                rw [isRecorded] at isRaised
                cases isRaised
                exact ⟨[], [], attributes, header, body, behind, rfl, rfl,
                  isMessage, (traceRecord_error isMessage.distinct).mp
                    ⟨raised, isRecorded, notDenied⟩⟩
            | ok record =>
                rw [isRecorded] at isRaised
                obtain ⟨records, front, others, head, tail, last, rfl,
                  isDatagram, isOther, stumbles⟩ :=
                  inductionHypothesis _ (isLength ▸ isFewer) isRaised rfl
                refine ⟨record :: records, messageBytes header body ++ front,
                  others, head, tail, last, ?_, ?_, isOther, stumbles⟩
                · rw [List.append_assoc, List.append_assoc, List.append_assoc]
                · exact ⟨attributes, header, body, front, rfl, isMessage,
                    (traceRecord_ok isMessage.distinct).mp isRecorded,
                    isDatagram⟩
          · obtain ⟨reason, isDenied⟩ :=
              decodeMessages_denied isNil hasMessage events
            rw [isDenied] at isRaised
            exact (notDenied reason (Except.error.inj isRaised).symm).elim
  · rintro ⟨records, front, attributes, header, body, behind, rfl,
      isDatagram, isMessage, stumbles⟩
    induction records generalizing events front with
    | nil =>
        cases isDatagram
        obtain ⟨raised, isRaised, notDenied⟩ :=
          (traceRecord_error isMessage.distinct).mpr stumbles
        refine ⟨raised, ?_, notDenied⟩
        rw [List.nil_append, decodeMessages_front isMessage, isRaised]
    | cons record records inductionHypothesis =>
        obtain ⟨others, head, tail, last, rfl, isOther, isRecord, isRest⟩ :=
          isDatagram
        obtain ⟨raised, isRaised, notDenied⟩ :=
          @inductionHypothesis (events ++ [record]) last isRest
        refine ⟨raised, ?_, notDenied⟩
        rw [List.append_assoc, List.append_assoc, decodeMessages_front isOther,
          (traceRecord_ok isOther.distinct).mpr isRecord]
        dsimp only
        rw [← List.append_assoc]
        exact isRaised

/-! ## Datagrams of the kernel -/

/-- The address is that of the kernel. -/
def Peer.IsKernel : Peer → Prop
  | .other => False
  | .tuple [] => False
  | .tuple (sender :: _) => sender = 0

/-- The datagram is one that the kernel may send. -/
def IsSized (raw : Bytes) : Prop :=
  20 ≤ raw.length ∧ raw.length ≤ 8192

/-- A datagram is decoded to one record for each message with the values of
its attributes, or denied. -/
def IsDecoded (order : ByteOrder) (raw : Bytes) (peer : Peer) : Prop :=
  (∃ records, decodeKernel order raw peer = .ok records ∧
      IsSized raw ∧ peer.IsKernel ∧ IsDatagram order records raw) ∨
    ∃ reason, decodeKernel order raw peer = .error (.denied reason)

/-- The input is handled: an empty tuple is no address, and no message behind
decoded ones stumbles. -/
def IsHandled (order : ByteOrder) (raw : Bytes) (peer : Peer) : Prop :=
  IsSized raw → peer ≠ .tuple [] ∧ (peer.IsKernel → ¬ HasStumbling order raw)

theorem decodeKernel_unsized (notSized : ¬ IsSized raw) :
    decodeKernel order raw peer =
      .error (.denied "physical_kernel_event_not_kernel") :=
  if_neg notSized

theorem decodeKernel_kernel (isSized : IsSized raw) (isKernel : peer.IsKernel) :
    decodeKernel order raw peer = decodeMessages order [] raw := by
  unfold decodeKernel
  refine (if_pos isSized).trans ?_
  cases peer with
  | other => exact isKernel.elim
  | tuple entries =>
      cases entries with
      | nil => exact isKernel.elim
      | cons sender others => exact if_pos isKernel

theorem decodeKernel_empty (isSized : IsSized raw) :
    decodeKernel order raw (.tuple []) = .error .indexError :=
  if_pos isSized

theorem decodeKernel_foreign (isSized : IsSized raw)
    (isAddress : peer ≠ .tuple []) (notKernel : ¬ peer.IsKernel) :
    decodeKernel order raw peer =
      .error (.denied "physical_kernel_event_not_kernel") := by
  unfold decodeKernel
  refine (if_pos isSized).trans ?_
  cases peer with
  | other => rfl
  | tuple entries =>
      cases entries with
      | nil => exact (isAddress rfl).elim
      | cons sender others => exact if_neg notKernel

theorem decodeKernel_ok {records : List TraceRecord} :
    decodeKernel order raw peer = .ok records ↔
      IsSized raw ∧ peer.IsKernel ∧ IsDatagram order records raw := by
  by_cases isSized : IsSized raw
  · by_cases isKernel : peer.IsKernel
    · rw [decodeKernel_kernel isSized isKernel, decodeMessages_ok]
      constructor
      · rintro ⟨found, rfl, isDatagram⟩
        exact ⟨isSized, isKernel, isDatagram⟩
      · rintro ⟨_, _, isDatagram⟩
        exact ⟨records, rfl, isDatagram⟩
    · constructor
      · intro isOk
        by_cases isEmpty : peer = .tuple []
        · rw [isEmpty, decodeKernel_empty isSized] at isOk
          cases isOk
        · rw [decodeKernel_foreign isSized isEmpty isKernel] at isOk
          cases isOk
      · rintro ⟨_, isSender, _⟩
        exact (isKernel isSender).elim
  · constructor
    · intro isOk
      rw [decodeKernel_unsized isSized] at isOk
      cases isOk
    · rintro ⟨isLong, _⟩
      exact (isSized isLong).elim

/-- A datagram is decoded as it should be, or denied, exactly when it is
handled; and every datagram of the kernel that consists of messages is
decoded to their records. -/
theorem decodeKernel_isDecoded_iff
    (order : ByteOrder) (raw : Bytes) (peer : Peer) :
    (IsDecoded order raw peer ↔ IsHandled order raw peer) ∧ ∀ records,
        decodeKernel order raw peer = .ok records ↔
          IsSized raw ∧ peer.IsKernel ∧ IsDatagram order records raw := by
  refine ⟨⟨?_, ?_⟩, fun _ => decodeKernel_ok⟩
  · rintro isDecoded isSized
    refine ⟨?_, ?_⟩
    · rintro rfl
      rw [IsDecoded, decodeKernel_empty isSized] at isDecoded
      rcases isDecoded with ⟨_, isOk, _⟩ | ⟨_, isDenied⟩
      · cases isOk
      · cases isDenied
    · intro isKernel stumbles
      obtain ⟨raised, isRaised, notDenied⟩ :=
        (@decodeMessages_error order [] raw).mpr stumbles
      rw [IsDecoded, decodeKernel_kernel isSized isKernel,
        isRaised] at isDecoded
      rcases isDecoded with ⟨_, isOk, _⟩ | ⟨reason, isDenied⟩
      · cases isOk
      · exact notDenied reason (Except.error.inj isDenied)
  · intro isHandled
    by_cases isSized : IsSized raw
    · obtain ⟨isAddress, noStumbling⟩ := isHandled isSized
      by_cases isKernel : peer.IsKernel
      · cases isDecode : decodeKernel order raw peer with
        | ok records =>
            exact Or.inl ⟨records, isDecode, decodeKernel_ok.mp isDecode⟩
        | error raised =>
            refine Or.inr ?_
            by_contra notDenied
            rw [decodeKernel_kernel isSized isKernel] at isDecode
            refine noStumbling isKernel
              ((@decodeMessages_error order [] raw).mp ⟨raised, isDecode, ?_⟩)
            rintro reason rfl
            exact notDenied
              ⟨reason, (decodeKernel_kernel isSized isKernel).trans isDecode⟩
      · exact Or.inr ⟨_, decodeKernel_foreign isSized isAddress isKernel⟩
    · exact Or.inr ⟨_, decodeKernel_unsized isSized⟩

/-- The attributes of an event whose verdict has no code. -/
def codelessAttributes : Attributes :=
  [(1, [97, 0]), (2, [97, 0]), (4, [0, 0, 0, 1]), (6, [1, 0, 0, 0]),
    (15, [0, 0, 0, 7]), (5, [8, 0, 2, 0, 0, 0, 0, 0])]

/-- The attributes of `codelessAttributes` as bytes. -/
def codelessBody : Bytes :=
  [6, 0, 1, 0, 97, 0, 0, 0, 6, 0, 2, 0, 97, 0, 0, 0,
    8, 0, 4, 0, 0, 0, 0, 1, 8, 0, 6, 0, 1, 0, 0, 0,
    8, 0, 15, 0, 0, 0, 0, 7, 12, 0, 5, 128, 8, 0, 2, 0, 0, 0, 0, 0]

/-- The header of the message of `codelessBody`. -/
def codelessHeader : Bytes :=
  [72, 0, 0, 0, 17, 10, 0, 0, 0, 0, 0, 0, 0, 0, 0, 0]

theorem codeless_isMessage :
    IsMessage .little codelessAttributes codelessHeader codelessBody where
  length := rfl
  size := by decide
  kind := by decide
  flags := by decide
  sequence := by decide
  pid := by decide
  entries := ⟨[6, 0, 1, 0, 97, 0, 0, 0], _, rfl,
      ⟨[6, 0, 1, 0], [0, 0], rfl, rfl, by decide, by decide, by decide⟩,
      [6, 0, 2, 0, 97, 0, 0, 0], _, rfl,
      ⟨[6, 0, 2, 0], [0, 0], rfl, rfl, by decide, by decide, by decide⟩,
      [8, 0, 4, 0, 0, 0, 0, 1], _, rfl,
      ⟨[8, 0, 4, 0], [], rfl, rfl, by decide, by decide, by decide⟩,
      [8, 0, 6, 0, 1, 0, 0, 0], _, rfl,
      ⟨[8, 0, 6, 0], [], rfl, rfl, by decide, by decide, by decide⟩,
      [8, 0, 15, 0, 0, 0, 0, 7], _, rfl,
      ⟨[8, 0, 15, 0], [], rfl, rfl, by decide, by decide, by decide⟩,
      [12, 0, 5, 128, 8, 0, 2, 0, 0, 0, 0, 0], _, rfl,
      ⟨[12, 0, 5, 128], [], rfl, rfl, by decide, by decide, by decide⟩,
      rfl⟩
  distinct := by decide

theorem codeless_stumbles : Stumbles .little codelessAttributes := by
  refine ⟨⟨1, ?_⟩, Or.inl ⟨by decide, [8, 0, 2, 0, 0, 0, 0, 0],
    [(2, [0, 0, 0, 0])], by decide, ?_, by decide, by decide⟩⟩
  · exact
      { allowed := by
          unfold Has
          decide
        required := by decide
        family := ⟨[0, 0, 0, 7], by decide, rfl, by decide⟩
        numbered := ⟨[0, 0, 0, 1], by decide, rfl, by decide⟩
        known := by decide }
  · exact ⟨[8, 0, 2, 0, 0, 0, 0, 0], [], rfl,
      ⟨[8, 0, 2, 0], [], rfl, rfl, by decide, by decide, by decide⟩, rfl⟩

/-- A datagram of the kernel whose nested verdict has no code is neither
decoded nor denied. -/
theorem decodeKernel_codeless :
    ¬ IsDecoded .little (messageBytes codelessHeader codelessBody)
      (.tuple [0, 0]) := by
  have isSized : IsSized (messageBytes codelessHeader codelessBody) := by
    unfold IsSized
    decide
  have isKernel : (Peer.tuple [0, 0]).IsKernel := rfl
  have isDecode :
      decodeKernel .little (messageBytes codelessHeader codelessBody)
        (.tuple [0, 0]) =
        decodeMessages .little []
          (messageBytes codelessHeader codelessBody ++ []) :=
    (decodeKernel_kernel isSized isKernel).trans
      (congrArg _ (List.append_nil _).symm)
  rw [decodeMessages_front codeless_isMessage] at isDecode
  obtain ⟨raised, isRaised, notDenied⟩ :=
    (traceRecord_error codeless_isMessage.distinct).mpr codeless_stumbles
  rw [isRaised] at isDecode
  rintro (⟨records, isOk, _⟩ | ⟨reason, isDenied⟩)
  · cases isDecode.symm.trans isOk
  · exact notDenied reason (Except.error.inj (isDecode.symm.trans isDenied))

end TicketSandbox.Physical
