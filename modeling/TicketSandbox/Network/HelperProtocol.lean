import Mathlib.Data.List.Basic
import TicketSandbox.Library.FixedWidth
import TicketSandbox.Library.Raises

namespace TicketSandbox.Network.Helper

/-!
# The helper's wire format

`trusted_checker_network/native_v2_helper_protocol.py`: a message of a helper
is a header, the binding of the invocation and a payload.
-/

open FixedWidth (Bytes length_pack pack pack_unpack unpack
  unpack_pack)
open Raises (bind_ok ensure ensure_ok)

/-! ## Messages -/

/-- `KINDS`. -/
inductive Kind where
  | invoke
  | ready
  | entered
  | credentials
  | exec
  | stdout
  | stderr
  | stdoutEof
  | stderrEof
  | exit
  | reaped
  | complete
  | error
  | cancel
  deriving Repr, DecidableEq

/-- `KINDS`, in their order. -/
def kinds : List Kind :=
  [.invoke, .ready, .entered, .credentials, .exec, .stdout, .stderr,
    .stdoutEof, .stderrEof, .exit, .reaped, .complete, .error, .cancel]

/-- `REASONS`. -/
def reasons : List String :=
  ["protocol_invalid", "binding_mismatch", "replay", "sequence_invalid",
    "fd_transfer_invalid", "identity_mismatch", "pid_reuse",
    "credential_drift", "executable_mismatch", "privilege_drop_failed",
    "timeout", "clock_rollback", "killed", "parent_died", "helper_crashed",
    "spawn_response_lost", "incomplete_output", "stdout_limit",
    "stderr_limit", "aggregate_limit", "cleanup_unproven",
    "native_identity_unreviewed", "disabled", "evidence_invalid"]

/-- What `ContractViolation2` is raised for. -/
inductive Violation where
  | integerInvalid
  | protocolInvalid
  | bindingMismatch
  | sequenceInvalid
  | incompleteOutput
  | stdoutLimit
  | stderrLimit
  | aggregateLimit

/-- The text of a violation. -/
def Violation.text : Violation → String
  | .integerInvalid => "v2_integer_invalid"
  | .protocolInvalid => "v2_helper_protocol_invalid"
  | .bindingMismatch => "v2_helper_binding_mismatch"
  | .sequenceInvalid => "v2_helper_sequence_invalid"
  | .incompleteOutput => "v2_helper_incomplete_output"
  | .stdoutLimit => "v2_helper_stdout_limit"
  | .stderrLimit => "v2_helper_stderr_limit"
  | .aggregateLimit => "v2_helper_aggregate_limit"

/-- `VERSION`. -/
def version : Nat := 1

/-- `MAGIC`, the bytes of `TCH1`. -/
def magic : Bytes := [84, 67, 72, 49]

/-- `CHUNK`. -/
def chunk : Nat := 4096

/-- `HEADER.size`. -/
def headerSize : Nat := 12

/-- `BINDING.size`. -/
def bindingSize : Nat := 272

/-- `MAX_BODY`. -/
def maxBody : Nat := bindingSize + chunk

/-- `MAX_FRAME`. -/
def maxFrame : Nat := headerSize + maxBody

/-- `MAX_MESSAGES`. -/
def maxMessages : Nat := 4096

/-- `exact`: the size of the payloads of a kind whose payloads have one. -/
def exactSize? : Kind → Option Nat
  | .invoke => some 32
  | .ready => some 32
  | .entered => some 32
  | .credentials => some 32
  | .exec => some 32
  | .stdout => none
  | .stderr => none
  | .stdoutEof => some 0
  | .stderrEof => some 0
  | .exit => some 2
  | .reaped => some 32
  | .complete => some 112
  | .error => some 3
  | .cancel => some 0

variable (kind : Kind)

/-- A payload has the size of its kind. -/
def IsSized (payload : Bytes) : Prop :=
  match exactSize? kind with
  | none => 0 < payload.length ∧ payload.length ≤ chunk
  | some size => payload.length = size

instance (payload : Bytes) : Decidable (IsSized kind payload) := by
  unfold IsSized
  split
  · infer_instance
  · infer_instance

/-- The checks of a payload in `HelperMessageH1.__post_init__`. -/
structure IsPayload (kind : Kind) (payload : Bytes) : Prop where
  sized : IsSized kind payload
  status : kind = .exit → unpack payload ≤ 255
  reason : kind = .error → unpack (payload.take 2) < reasons.length ∧
      (payload.getD 2 0 = 0 ∨ payload.getD 2 0 = 1)

theorem isPayload_iff {kind : Kind} {payload : Bytes} :
    IsPayload kind payload ↔ IsSized kind payload ∧
        (kind = .exit → unpack payload ≤ 255) ∧ (kind = .error →
            unpack (payload.take 2) < reasons.length ∧
              (payload.getD 2 0 = 0 ∨ payload.getD 2 0 = 1)) :=
  ⟨fun isPayload =>
      ⟨isPayload.sized, isPayload.status, isPayload.reason⟩,
    fun ⟨sized, status, reason⟩ => ⟨sized, status, reason⟩⟩

instance (payload : Bytes) : Decidable (IsPayload kind payload) :=
  decidable_of_iff' _ isPayload_iff

/-- `HelperMessageH1`. -/
structure Message where
  kind : Kind
  sequence : Nat
  payload : Bytes
  isNumber : sequence < maxMessages
  isPayload : IsPayload kind payload

/-- `HelperMessageH1`: the message of checked values. -/
def Message.make
    (sequence : Nat) (payload : Bytes) : Except Violation Message :=
  if isNumber : sequence < maxMessages then
    if isPayload : IsPayload kind payload then
      .ok ⟨kind, sequence, payload, isNumber, isPayload⟩
    else
      .error .protocolInvalid
  else
    .error .integerInvalid

theorem Message.make_self (message : Message) :
    Message.make message.kind message.sequence message.payload =
      .ok message := by
  rw [make, dif_pos message.isNumber, dif_pos message.isPayload]

variable {message : Message} {raw : Bytes}

theorem Message.make_ok {kind : Kind} {sequence : Nat} {payload : Bytes}
    (isMade : Message.make kind sequence payload = .ok message) :
    message.kind = kind ∧ message.sequence = sequence ∧
      message.payload = payload := by
  unfold make at isMade
  split at isMade
  · split at isMade
    · cases isMade
      exact ⟨rfl, rfl, rfl⟩
    · cases isMade
  · cases isMade

theorem Message.length_payload_le (message : Message) :
    message.payload.length ≤ chunk := by
  have sized := message.isPayload.sized
  unfold IsSized at sized
  cases isExact : exactSize? message.kind with
  | none =>
      rw [isExact] at sized
      exact sized.2
  | some size =>
      rw [isExact] at sized
      have isSmall : size ≤ 112 := by
        cases isKind : message.kind <;> rw [isKind] at isExact <;>
          cases isExact <;>
          decide
      unfold chunk
      omega

/-! ## Invocations -/

/-- Bytes of a fixed number. -/
structure Block (size : Nat) where
  bytes : Bytes
  isSized : bytes.length = size

/-- What `HelperInvocationH1` gives to the wire, the caps of the operation it
asks for, and what `hash` makes of it for each phase. -/
structure Invocation where
  sessionUuid : Block 16
  invocationUuid : Block 16
  nonce : Block 32
  requestDigest : Block 32
  namespaceDigest : Block 32
  executableDigest : Block 32
  principalDigest : Block 32
  writerEpochUuid : Block 16
  installEpochUuid : Block 16
  installGeneration : UInt64
  deadlineMonotonicUs : UInt64
  digest : Block 32
  phaseCommitment : Kind → Block 32
  stdoutCap : Nat
  stderrCap : Nat

variable (invocation : Invocation)

/-- `binding_h1`. -/
def Invocation.binding : Bytes :=
  invocation.sessionUuid.bytes ++ invocation.invocationUuid.bytes ++
    invocation.nonce.bytes ++ invocation.requestDigest.bytes ++
    invocation.namespaceDigest.bytes ++ invocation.executableDigest.bytes ++
    invocation.principalDigest.bytes ++ invocation.writerEpochUuid.bytes ++
    invocation.installEpochUuid.bytes ++
    pack 8 invocation.installGeneration.toNat ++
    pack 8 invocation.deadlineMonotonicUs.toNat ++ invocation.digest.bytes

/-- A binding has its fixed size. -/
@[simp] theorem Invocation.length_binding :
    invocation.binding.length = bindingSize := by
  unfold binding
  simp only [List.length_append, Block.isSized, length_pack]
  rfl

/-! ## Headers -/

/-- The values of `HEADER`. -/
structure Header where
  magic : Bytes
  version : Nat
  kind : Nat
  sequence : Nat
  size : Nat

/-- `HEADER.pack`. -/
def Header.bytes (header : Header) : Bytes :=
  header.magic ++ pack 1 header.version ++ pack 1 header.kind ++
    pack 2 header.sequence ++ pack 4 header.size

/-- `HEADER.unpack_from`. -/
def Header.unpackFrom (raw : Bytes) : Header where
  magic := raw.take 4
  version := unpack ((raw.drop 4).take 1)
  kind := unpack ((raw.drop 5).take 1)
  sequence := unpack ((raw.drop 6).take 2)
  size := unpack ((raw.drop 8).take 4)

/-- The values fit their widths. -/
structure Header.Fits (header : Header) : Prop where
  magic : header.magic.length = 4
  version : header.version < 256
  kind : header.kind < 256
  sequence : header.sequence < 65536
  size : header.size < 4294967296

/-- The check of a header in `decode` and in `feed`. -/
structure Header.IsSound (header : Header) : Prop where
  magic : header.magic = Helper.magic
  version : header.version = Helper.version
  kindMin : 1 ≤ header.kind
  kindMax : header.kind ≤ kinds.length
  sizeMin : bindingSize ≤ header.size
  sizeMax : header.size ≤ maxBody

theorem Header.isSound_iff {header : Header} :
    header.IsSound ↔
      header.magic = Helper.magic ∧ header.version = Helper.version ∧
        1 ≤ header.kind ∧ header.kind ≤ kinds.length ∧
          bindingSize ≤ header.size ∧ header.size ≤ maxBody :=
  ⟨fun isSound =>
      ⟨isSound.magic, isSound.version, isSound.kindMin, isSound.kindMax,
        isSound.sizeMin, isSound.sizeMax⟩,
    fun ⟨isMagic, isVersion, kindMin, kindMax, sizeMin, sizeMax⟩ =>
      ⟨isMagic, isVersion, kindMin, kindMax, sizeMin, sizeMax⟩⟩

instance (header : Header) : Decidable header.IsSound :=
  decidable_of_iff' _ Header.isSound_iff

theorem Header.length_bytes {header : Header} (fits : header.Fits) :
    header.bytes.length = headerSize := by
  unfold bytes
  simp only [List.length_append, fits.magic, length_pack]
  rfl

theorem Header.unpackFrom_bytes
    {header : Header} (fits : header.Fits) (rest : Bytes) :
    Header.unpackFrom (header.bytes ++ rest) = header := by
  obtain ⟨isMagic, isVersion, isKind, isSequence, isSize⟩ := fits
  obtain ⟨found, version, kind, sequence, size⟩ := header
  dsimp only at isMagic isVersion isKind isSequence isSize
  obtain ⟨first, second, third, fourth, rfl⟩ :
      ∃ first second third fourth, found = [first, second, third, fourth] :=
    List.length_eq_four.mp isMagic
  have readVersion : unpack (pack 1 version) = version := unpack_pack isVersion
  have readKind : unpack (pack 1 kind) = kind := unpack_pack isKind
  have readSequence : unpack (pack 2 sequence) = sequence :=
    unpack_pack isSequence
  have readSize : unpack (pack 4 size) = size := unpack_pack isSize
  calc
    Header.unpackFrom (Header.bytes _ ++ rest) =
        ⟨[first, second, third, fourth], unpack (pack 1 version),
          unpack (pack 1 kind), unpack (pack 2 sequence),
          unpack (pack 4 size)⟩ := rfl
    _ = ⟨[first, second, third, fourth], version, kind, sequence, size⟩ := by
        rw [readVersion, readKind, readSequence, readSize]

theorem pack_unpack_take {width : Nat} (isLong : width ≤ raw.length) :
    pack width (unpack (raw.take width)) = raw.take width := by
  have packed := pack_unpack (raw.take width)
  rwa [List.length_take, Nat.min_eq_left isLong] at packed

theorem Header.bytes_unpackFrom (isLong : headerSize ≤ raw.length) :
    (Header.unpackFrom raw).bytes = raw.take headerSize := by
  unfold headerSize at isLong
  have pieces : raw.take headerSize =
        raw.take 4 ++ (raw.drop 4).take 1 ++ (raw.drop 5).take 1 ++
          (raw.drop 6).take 2 ++ (raw.drop 8).take 4 := by
    rw [show headerSize = 4 + 1 + 1 + 2 + 4 from rfl, List.take_add,
      List.take_add, List.take_add, List.take_add]
  unfold bytes unpackFrom
  dsimp only
  rw [pieces, pack_unpack_take (by rw [List.length_drop]; omega),
    pack_unpack_take (by rw [List.length_drop]; omega),
    pack_unpack_take (by rw [List.length_drop]; omega),
    pack_unpack_take (by rw [List.length_drop]; omega)]

theorem Header.unpackFrom_append
    (isLong : headerSize ≤ raw.length) (later : Bytes) :
    Header.unpackFrom (raw ++ later) = Header.unpackFrom raw := by
  unfold headerSize at isLong
  unfold unpackFrom
  rw [List.take_append_of_le_length (by omega),
    List.drop_append_of_le_length (by omega),
    List.drop_append_of_le_length (by omega),
    List.drop_append_of_le_length (by omega),
    List.drop_append_of_le_length (by omega),
    List.take_append_of_le_length (by rw [List.length_drop]; omega),
    List.take_append_of_le_length (by rw [List.length_drop]; omega),
    List.take_append_of_le_length (by rw [List.length_drop]; omega),
    List.take_append_of_le_length (by rw [List.length_drop]; omega)]

/-! ## The codec -/

/-- The header of a message. -/
def Message.header (message : Message) : Header where
  magic := Helper.magic
  version := Helper.version
  kind := kinds.idxOf message.kind + 1
  sequence := message.sequence
  size := bindingSize + message.payload.length

/-- `HelperCodecH1.encode`. -/
def encode (message : Message) : Bytes :=
  message.header.bytes ++ (invocation.binding ++ message.payload)

/-- `HelperCodecH1.decode`. -/
def decode (raw : Bytes) : Except Violation Message := do
  ensure (headerSize + bindingSize ≤ raw.length ∧ raw.length ≤ maxFrame)
    .protocolInvalid
  let header := Header.unpackFrom raw
  ensure (header.IsSound ∧ raw.length = headerSize + header.size)
    .protocolInvalid
  ensure ((raw.drop headerSize).take bindingSize = invocation.binding)
    .bindingMismatch
  match kinds[header.kind - 1]? with
  | none => .error .protocolInvalid
  | some kind =>
      Message.make kind header.sequence (raw.drop (headerSize + bindingSize))

theorem kinds_idxOf : kinds[kinds.idxOf kind]? = some kind := by
  cases kind <;> rfl

theorem idxOf_lt : kinds.idxOf kind < kinds.length := by
  cases kind <;> decide

theorem idxOf_of_get
    {place : Nat} {kind : Kind} (isFound : kinds[place]? = some kind) :
    kinds.idxOf kind = place := by
  obtain ⟨isPlace, rfl⟩ := List.getElem?_eq_some_iff.mp isFound
  exact List.Nodup.idxOf_getElem (by decide) place isPlace

theorem Message.header_fits (message : Message) : message.header.Fits where
  magic := rfl
  version := by
    change Helper.version < 256
    decide
  kind := by
    have isPlace := idxOf_lt message.kind
    have isLength : kinds.length = 14 := rfl
    change kinds.idxOf message.kind + 1 < 256
    omega
  sequence := by
    have isNumber := message.isNumber
    unfold maxMessages at isNumber
    change message.sequence < 65536
    omega
  size := by
    have isShort := message.length_payload_le
    unfold chunk at isShort
    change bindingSize + message.payload.length < 4294967296
    unfold bindingSize
    omega

theorem Message.header_isSound (message : Message) :
    message.header.IsSound where
  magic := rfl
  version := rfl
  kindMin := Nat.succ_pos _
  kindMax := idxOf_lt message.kind
  sizeMin := Nat.le_add_right _ _
  sizeMax := Nat.add_le_add_left message.length_payload_le _

theorem length_encode (message : Message) :
    (encode invocation message).length = headerSize + message.header.size := by
  rw [encode, List.length_append, Header.length_bytes message.header_fits,
    List.length_append, Invocation.length_binding]
  rfl

theorem unpackFrom_encode (message : Message) (rest : Bytes) :
    Header.unpackFrom (encode invocation message ++ rest) =
      message.header := by
  rw [encode, List.append_assoc, Header.unpackFrom_bytes message.header_fits]

theorem drop_encode (message : Message) :
    (encode invocation message).drop headerSize =
      invocation.binding ++ message.payload := by
  rw [encode, List.drop_left' (Header.length_bytes message.header_fits)]

/-- A message is read back from its bytes. -/
theorem decode_encode (message : Message) :
    decode invocation (encode invocation message) = .ok message := by
  have isSound := message.header_isSound
  have isLength := length_encode invocation message
  have isHeader :
      Header.unpackFrom (encode invocation message) = message.header := by
    have read := unpackFrom_encode invocation message []
    rwa [List.append_nil] at read
  refine bind_ok.mpr ⟨(), ensure_ok.mpr ?_, ?_⟩
  · rw [isLength]
    exact ⟨Nat.add_le_add_left isSound.sizeMin _,
      Nat.add_le_add_left isSound.sizeMax _⟩
  refine bind_ok.mpr ⟨(), ensure_ok.mpr ?_, ?_⟩
  · rw [isHeader]
    exact ⟨isSound, isLength⟩
  refine bind_ok.mpr ⟨(), ensure_ok.mpr ?_, ?_⟩
  · rw [drop_encode, List.take_left' invocation.length_binding]
  have isKind : kinds[message.header.kind - 1]? = some message.kind :=
    kinds_idxOf message.kind
  rw [isHeader, isKind, ← List.drop_drop, drop_encode,
    List.drop_left' invocation.length_binding]
  exact message.make_self

/-- A message that is decoded is encoded as it was read. -/
theorem encode_of_decode {invocation : Invocation}
    (isDecoded : decode invocation raw = .ok message) :
    encode invocation message = raw := by
  obtain ⟨_, isFirst, isDecoded⟩ := bind_ok.mp isDecoded
  obtain ⟨isLong, -⟩ := ensure_ok.mp isFirst
  obtain ⟨_, isSecond, isDecoded⟩ := bind_ok.mp isDecoded
  obtain ⟨isSound, isLength⟩ := ensure_ok.mp isSecond
  obtain ⟨_, isThird, isDecoded⟩ := bind_ok.mp isDecoded
  have isBound := ensure_ok.mp isThird
  cases isKind : kinds[(Header.unpackFrom raw).kind - 1]? with
  | none =>
      rw [isKind] at isDecoded
      cases isDecoded
  | some kind =>
      rw [isKind] at isDecoded
      obtain ⟨sameKind, sameSequence, samePayload⟩ := Message.make_ok isDecoded
      have isHeader : message.header = Header.unpackFrom raw := by
        have kindMin := isSound.kindMin
        have place := idxOf_of_get isKind
        have isSize : bindingSize + message.payload.length =
              (Header.unpackFrom raw).size := by
          rw [samePayload, List.length_drop]
          omega
        have isNumbered :
            kinds.idxOf message.kind + 1 = (Header.unpackFrom raw).kind := by
          rw [sameKind, place]
          omega
        rw [Message.header, isSize, isNumbered, sameSequence,
          ← isSound.magic, ← isSound.version]
      have isShort : headerSize ≤ raw.length := by
        omega
      rw [encode, isHeader, Header.bytes_unpackFrom isShort, ← isBound,
        samePayload, ← List.drop_drop, List.take_append_drop,
        List.take_append_drop]

end TicketSandbox.Network.Helper
