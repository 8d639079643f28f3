import Mathlib.Data.List.Nodup
import TicketSandbox.Live.Runner

namespace TicketSandbox.Live

/-!
# The grammar of responses

The header of a response: a status line, fields with distinct keys, and an
empty line.  The runner reads a block as the head of a response exactly when
the block is the text of one that is well formed.
-/

open Crlf
  (Bytes IsBlock IsLine blockEnd isBlock_of_lines isLine_of_mem
    isLine_of_not_mem join split split_join)

/-! ## Heads -/

/-- A field of a header. -/
structure Field where
  key : Bytes
  value : Bytes

/-- The line of a field. -/
def Field.line (field : Field) : Bytes :=
  field.key ++ 58 :: field.value

/-- The name of a field, whatever its case. -/
def Field.name (field : Field) : Bytes :=
  lower field.key

/-- The name and the value of a field. -/
def Field.entry (field : Field) : Bytes × Bytes :=
  (field.name, strip field.value)

/-- The head of a response: the minor version, the digits of the status, the
reason and the fields. -/
structure ResponseHead where
  minor : UInt8
  first : UInt8
  second : UInt8
  third : UInt8
  reason : Bytes
  fields : List Field

namespace ResponseHead

/-- The status line. -/
def statusLine (response : ResponseHead) : Bytes :=
  72 :: 84 :: 84 :: 80 :: 47 :: 49 :: 46 :: response.minor :: 32 ::
    response.first :: response.second :: response.third :: response.reason

/-- The lines of the header. -/
def lines (response : ResponseHead) : List Bytes :=
  response.statusLine :: response.fields.map Field.line

/-- The text of the header. -/
def text (response : ResponseHead) : Bytes :=
  join response.lines ++ blockEnd

/-- The status. -/
def status (response : ResponseHead) : Nat :=
  decimal [response.first, response.second, response.third]

/-- The names of the fields. -/
def names (response : ResponseHead) : List Bytes :=
  response.fields.map Field.name

/-- The value of a field. -/
def value? (response : ResponseHead) (name : String) : Option Bytes :=
  (response.fields.find? fun field => decide (field.name = ascii name)).map
    fun field => strip field.value

/-- The length of the body that the header states. -/
def contentLength? (response : ResponseHead) : Option Nat :=
  (response.value? "content-length").map decimal

/-- The grammar of a header. -/
structure IsWellFormed (response : ResponseHead) : Prop where
  minor : response.minor = 48 ∨ response.minor = 49
  first : 49 ≤ response.first.toNat ∧ response.first.toNat ≤ 53
  second : isDigit response.second = true
  third : isDigit response.third = true
  reason : isReason response.reason = true
  count : response.fields.length ≤ 32
  areLines : ∀ field ∈ response.fields, IsLine field.line
  areKeys : ∀ field ∈ response.fields, isKey field.key = true
  distinct : response.names.Nodup
  noTransferEncoding : ascii "transfer-encoding" ∉ response.names
  noContentEncoding : ascii "content-encoding" ∉ response.names
  length : ∀ value ∈ response.value? "content-length", isLength value = true

end ResponseHead

/-! ## Status lines -/

theorem status?_eq_some {line : Bytes} {status : Nat} :
    status? line = some status ↔ ∃ minor first second third reason, line =
            72 :: 84 :: 84 :: 80 :: 47 :: 49 :: 46 :: minor :: 32 ::
              first :: second :: third :: reason ∧
          (minor = 48 ∨ minor = 49) ∧
          (49 ≤ first.toNat ∧ first.toNat ≤ 53) ∧
          isDigit second = true ∧ isDigit third = true ∧
          isReason reason = true ∧ decimal [first, second, third] = status := by
  constructor
  · intro isRead
    unfold status? at isRead
    split at isRead
    · rename_i minor first second third reason
      split at isRead
      · rename_i shape
        exact ⟨minor, first, second, third, reason, rfl, shape.1, shape.2.1,
          shape.2.2.1, shape.2.2.2.1, shape.2.2.2.2,
          Option.some.inj isRead⟩
      · cases isRead
    · cases isRead
  · rintro ⟨minor, first, second, third, reason, rfl, isMinor, isFirst,
      isSecond, isThird, isReason, rfl⟩
    rw [status?, if_pos ⟨isMinor, isFirst, isSecond, isThird, isReason⟩]

theorem reason_noReturn
    {reason : Bytes} (isReason : Live.isReason reason = true) :
    13 ∉ reason := by
  intro member
  cases reason with
  | nil => cases member
  | cons byte rest =>
      rw [Live.isReason, Bool.and_eq_true] at isReason
      rcases List.mem_cons.mp member with isFirst | later
      · have isSpace := of_decide_eq_true isReason.1
        rw [← isFirst] at isSpace
        cases isSpace
      · have printable :=
          of_decide_eq_true (List.all_eq_true.mp isReason.2 13 later)
        exact absurd printable.1 (by decide)

variable {byte : UInt8} {response : ResponseHead} {field : Field}
  {headers : List (Bytes × Bytes)}

theorem ne_of_isDigit (isDigit : Live.isDigit byte = true) : byte ≠ 13 := by
  rintro rfl
  cases isDigit

theorem ResponseHead.IsWellFormed.isLine
    (wellFormed : response.IsWellFormed) : IsLine response.statusLine := by
  apply isLine_of_not_mem
  have notMinor : (13 : UInt8) ≠ response.minor := by
    intro same
    have isMinor := wellFormed.minor
    rw [← same] at isMinor
    rcases isMinor with isMinor | isMinor
    · cases isMinor
    · cases isMinor
  have notFirst : (13 : UInt8) ≠ response.first := by
    intro same
    have isFirst := wellFormed.first
    rw [← same] at isFirst
    exact absurd isFirst.1 (by decide)
  have notSecond := (ne_of_isDigit wellFormed.second).symm
  have notThird := (ne_of_isDigit wellFormed.third).symm
  have notReason := reason_noReturn wellFormed.reason
  simp [ResponseHead.statusLine, notMinor, notFirst, notSecond, notThird,
    notReason]

/-! ## Fields -/

theorem keyByte_ne
    (isByte : isKeyByte byte = true) : byte ≠ 58 ∧ isBlank byte = false := by
  constructor
  · rintro rfl
    cases isByte
  · cases blank : isBlank byte with
    | false => rfl
    | true =>
        rw [isBlank, Bool.or_eq_true] at blank
        rcases blank with blank | blank
        · rw [of_decide_eq_true blank] at isByte
          cases isByte
        · rw [of_decide_eq_true blank] at isByte
          cases isByte

theorem isKey_iff {key : Bytes} :
    isKey key = true ↔ key ≠ [] ∧ ∀ byte ∈ key, isKeyByte byte = true := by
  rw [isKey, Bool.and_eq_true, List.all_eq_true, Bool.not_eq_true',
    List.isEmpty_eq_false_iff]

theorem isKey_noColon {key : Bytes} (isKey : Live.isKey key = true) :
    ∀ byte ∈ key, decide (byte ≠ 58) = true := by
  intro byte member
  exact decide_eq_true (keyByte_ne ((isKey_iff.mp isKey).2 byte member)).1

theorem lineKey_line
    (isKey : Live.isKey field.key = true) : lineKey field.line = field.key := by
  rw [lineKey, Field.line, List.takeWhile_append_of_pos (isKey_noColon isKey)]
  exact List.append_nil _

theorem lineValue_line (isKey : Live.isKey field.key = true) :
    lineValue field.line = field.value := by
  rw [lineValue, Field.line, List.dropWhile_append_of_pos (isKey_noColon isKey)]
  rfl

theorem line_shape (isKey : Live.isKey field.key = true) :
    ¬ (58 ∉ field.line ∨ (field.line.head?.any isBlank) = true) := by
  rintro (noColon | blank)
  · exact noColon (List.mem_append_right _ List.mem_cons_self)
  · obtain ⟨nonempty, areBytes⟩ := isKey_iff.mp isKey
    rw [Field.line] at blank
    cases shape : field.key with
    | nil => exact nonempty shape
    | cons byte rest =>
        rw [shape] at blank areBytes
        have notBlank := (keyByte_ne (areBytes byte List.mem_cons_self)).2
        rw [List.cons_append, List.head?_cons, Option.any_some,
          notBlank] at blank
        cases blank

theorem exists_line {line : Bytes} (colon : 58 ∈ line) :
    Field.line ⟨lineKey line, lineValue line⟩ = line := by
  have parts := @List.takeWhile_append_dropWhile _
    (fun byte : UInt8 => decide (byte ≠ 58)) line
  cases shape : line.dropWhile (fun byte => decide (byte ≠ 58)) with
  | nil =>
      have all := List.dropWhile_eq_nil_iff.mp shape 58 colon
      exact absurd rfl (of_decide_eq_true all)
  | cons byte rest =>
      have isColon : byte = 58 := by
        have first := List.head?_dropWhile_not
          (fun byte : UInt8 => decide (byte ≠ 58)) line
        rw [shape] at first
        have notOther := first
        simpa using notOther
      rw [Field.line, lineValue, shape]
      rw [shape, isColon] at parts
      exact parts

theorem readHeaders_lines
    {fields : List Field} (areKeys : ∀ field ∈ fields, isKey field.key = true)
    (distinct : (headers.map Prod.fst ++ fields.map Field.name).Nodup) :
    readHeaders headers (fields.map Field.line) =
      some (headers ++ fields.map Field.entry) := by
  induction fields generalizing headers with
  | nil =>
      rw [List.map_nil, List.map_nil, List.append_nil]
      rfl
  | cons field others inductionHypothesis =>
      have isKey := areKeys field List.mem_cons_self
      have isNew : lower field.key ∉ headers.map Prod.fst := by
        intro member
        exact (List.nodup_append.mp distinct).2.2 _ member _
          List.mem_cons_self rfl
      have shifted : ((headers ++ [field.entry]).map Prod.fst ++
              others.map Field.name).Nodup := by
        rw [List.map_append, List.append_assoc]
        exact distinct
      have accepted : ¬ (Live.isKey field.key = false ∨
            lower field.key ∈ headers.map Prod.fst) := by
        rintro (notKey | member)
        · rw [isKey] at notKey
          cases notKey
        · exact isNew member
      rw [List.map_cons, readHeaders, if_neg (line_shape isKey),
        lineKey_line isKey, lineValue_line isKey, if_neg accepted]
      refine (inductionHypothesis (fun other member =>
          areKeys other (List.mem_cons_of_mem _ member)) shifted).trans ?_
      rw [List.append_assoc]
      rfl

/-- The lines of a head are its fields. -/
theorem exists_fields {found : List (Bytes × Bytes)} {lines : List Bytes}
    (isRead : readHeaders headers lines = some found)
    (distinct : (headers.map Prod.fst).Nodup) :
    ∃ fields : List Field, lines = fields.map Field.line ∧
        (∀ field ∈ fields, isKey field.key = true) ∧
        (headers.map Prod.fst ++ fields.map Field.name).Nodup ∧
        found = headers ++ fields.map Field.entry := by
  induction lines generalizing headers with
  | nil =>
      refine ⟨[], rfl, ?_, ?_, ?_⟩
      · intro field member
        cases member
      · rw [List.map_nil, List.append_nil]
        exact distinct
      · rw [List.map_nil, List.append_nil]
        exact (Option.some.inj isRead).symm
  | cons line others inductionHypothesis =>
      rw [readHeaders] at isRead
      split at isRead
      · cases isRead
      · rename_i shape
        split at isRead
        · cases isRead
        · rename_i accepted
          have colon : 58 ∈ line := by
            by_contra noColon
            exact shape (Or.inl noColon)
          have isKey : Live.isKey (lineKey line) = true := by
            by_contra notKey
            exact accepted (Or.inl (Bool.eq_false_iff.mpr notKey))
          have isNew : lower (lineKey line) ∉ headers.map Prod.fst :=
            fun member => accepted (Or.inr member)
          have shifted :
              ((headers ++ [(lower (lineKey line), strip (lineValue line))]).map
                Prod.fst).Nodup := by
            rw [List.map_append]
            refine List.Nodup.append distinct (List.nodup_singleton _) ?_
            intro name member isName
            rw [List.mem_singleton.mp isName] at member
            exact isNew member
          obtain ⟨fields, isLines, areKeys, areDistinct, isFound⟩ :=
            inductionHypothesis isRead shifted
          refine ⟨⟨lineKey line, lineValue line⟩ :: fields, ?_, ?_, ?_, ?_⟩
          · rw [List.map_cons, exists_line colon, isLines]
          · intro field member
            rcases List.mem_cons.mp member with rfl | later
            · exact isKey
            · exact areKeys field later
          · rw [List.map_append, List.append_assoc] at areDistinct
            exact areDistinct
          · rw [isFound, List.append_assoc]
            rfl

theorem header?_entries (response : ResponseHead) (name : String) :
    header? (response.fields.map Field.entry) name =
      response.value? name := by
  rw [header?, ResponseHead.value?, List.find?_map, Option.map_map]
  rfl

theorem ResponseHead.value?_isSome {name : String} :
    (response.value? name).isSome = true ↔ ascii name ∈ response.names := by
  rw [ResponseHead.value?, Option.isSome_map, List.find?_isSome,
    ResponseHead.names, List.mem_map]
  constructor
  · rintro ⟨field, member, isName⟩
    exact ⟨field, member, of_decide_eq_true isName⟩
  · rintro ⟨field, member, isName⟩
    exact ⟨field, member, decide_eq_true isName⟩

/-! ## Framing -/

theorem framing?_eq_some {status : Nat} {head : Head} :
    framing? status (response.fields.map Field.entry) = some head ↔
      ascii "transfer-encoding" ∉ response.names ∧
        ascii "content-encoding" ∉ response.names ∧
        (∀ value ∈ response.value? "content-length", isLength value = true) ∧
        head = { status, expected := response.contentLength? } := by
  rw [framing?, header?_entries, ResponseHead.contentLength?]
  simp only [header?_entries, ResponseHead.value?_isSome]
  constructor
  · intro isFramed
    split at isFramed
    · cases isFramed
    · rename_i noEncoding
      rw [not_or] at noEncoding
      refine ⟨noEncoding.1, noEncoding.2, ?_⟩
      cases isValue : response.value? "content-length" with
      | none =>
          rw [isValue] at isFramed
          refine ⟨?_, (Option.some.inj isFramed).symm⟩
          intro value member
          cases member
      | some value =>
          rw [isValue] at isFramed
          dsimp only at isFramed
          by_cases isLength : Live.isLength value = true
          · rw [if_pos isLength] at isFramed
            refine ⟨?_, (Option.some.inj isFramed).symm⟩
            intro other member
            rw [← Option.some.inj member]
            exact isLength
          · rw [if_neg isLength] at isFramed
            cases isFramed
  · rintro ⟨noTransfer, noContent, areLengths, rfl⟩
    rw [if_neg (not_or.mpr ⟨noTransfer, noContent⟩)]
    cases isValue : response.value? "content-length" with
    | none => rfl
    | some value => exact if_pos (areLengths value isValue)

/-! ## Blocks -/

theorem ResponseHead.IsWellFormed.lines (wellFormed : response.IsWellFormed) :
    ∀ line ∈ response.lines, IsLine line ∧ line ≠ [] := by
  intro line member
  rcases List.mem_cons.mp member with rfl | later
  · exact ⟨wellFormed.isLine, List.cons_ne_nil _ _⟩
  · obtain ⟨field, isField, rfl⟩ := List.mem_map.mp later
    refine ⟨wellFormed.areLines field isField, ?_⟩
    intro isEmpty
    have parts := List.append_eq_nil_iff.mp isEmpty
    exact List.cons_ne_nil _ _ parts.2

/-- A response head is a block. -/
theorem ResponseHead.IsWellFormed.isBlock
    (wellFormed : response.IsWellFormed) : IsBlock response.text :=
  isBlock_of_lines (List.cons_ne_nil _ _) wellFormed.lines

theorem take_text (response : ResponseHead) :
    response.text.take (response.text.length - 4) = join response.lines := by
  have sized : response.text.length - 4 = (join response.lines).length := by
    rw [ResponseHead.text, List.length_append]
    rfl
  rw [sized, ResponseHead.text, List.take_left]

/-- A head is read back from its text. -/
theorem ResponseHead.IsWellFormed.head?_text
    (wellFormed : response.IsWellFormed) :
    head? response.text = some
        { status := response.status
          expected := response.contentLength? } := by
  have isSplit : split (join response.lines) = response.lines :=
    split_join (List.cons_ne_nil _ _) fun line member =>
      (wellFormed.lines line member).1
  have isStatus : status? response.statusLine = some response.status :=
    status?_eq_some.mpr ⟨_, _, _, _, _, rfl, wellFormed.minor, wellFormed.first,
        wellFormed.second, wellFormed.third, wellFormed.reason, rfl⟩
  have areRead : readHeaders [] (response.fields.map Field.line) =
        some (response.fields.map Field.entry) :=
    readHeaders_lines wellFormed.areKeys wellFormed.distinct
  have few : ¬ 33 < (response.fields.map Field.line).length + 1 := by
    have count := wellFormed.count
    rw [List.length_map]
    omega
  rw [head?, take_text, isSplit, ResponseHead.lines]
  simp only [if_neg few]
  refine Option.bind_eq_some_iff.mpr ⟨_, isStatus, ?_⟩
  refine Option.bind_eq_some_iff.mpr ⟨_, areRead, ?_⟩
  exact framing?_eq_some.mpr
    ⟨wellFormed.noTransferEncoding, wellFormed.noContentEncoding,
      wellFormed.length, rfl⟩

/-- A head that is read is the text of a response. -/
theorem exists_response {raw : Bytes} {head : Head} (isBlock : IsBlock raw)
    (isRead : head? raw = some head) :
    ∃ response : ResponseHead, response.IsWellFormed ∧ raw = response.text ∧
        head =
          { status := response.status
            expected := response.contentLength? } := by
  have made := isBlock.lines
  rw [head?] at isRead
  split at isRead
  · cases isRead
  · rename_i line lines isSplit
    split at isRead
    · cases isRead
    · rename_i few
      obtain ⟨status, isStatus, isRead⟩ := Option.bind_eq_some_iff.mp isRead
      obtain ⟨headers, areHeaders, isFramed⟩ :=
        Option.bind_eq_some_iff.mp isRead
      obtain ⟨minor, first, second, third, reason, rfl, isMinor, isFirst,
        isSecond, isThird, isReason, rfl⟩ := status?_eq_some.mp isStatus
      obtain ⟨fields, rfl, areKeys, distinct, rfl⟩ :=
        exists_fields areHeaders List.nodup_nil
      obtain ⟨noTransfer, noContent, areLengths, isHead⟩ := @framing?_eq_some
          ⟨minor, first, second, third, reason, fields⟩ _ _ |>.mp isFramed
      rw [isSplit] at made
      refine ⟨⟨minor, first, second, third, reason, fields⟩, ?_, made, isHead⟩
      refine
        { minor := isMinor
          first := isFirst
          second := isSecond
          third := isThird
          reason := isReason
          count := ?_
          areLines := ?_
          areKeys
          distinct
          noTransferEncoding := noTransfer
          noContentEncoding := noContent
          length := areLengths }
      · rw [List.length_map] at few
        exact Nat.le_of_not_lt fun many => few (Nat.succ_lt_succ many)
      · intro field member
        apply @isLine_of_mem (raw.take (raw.length - 4))
        rw [isSplit]
        exact List.mem_cons_of_mem _ (List.mem_map_of_mem member)

end TicketSandbox.Live
