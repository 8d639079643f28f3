import Mathlib
import TicketSandbox.Library.FixedWidth

namespace TicketSandbox.Physical

/-!
# Traces of the kernel

`trusted_checker_physical/trace.py`: a datagram of netlink messages is decoded
to records.  What is behind the offset of a loop is its remaining text.
-/

open FixedWidth (Bytes unpack)

/-! ## Attributes -/

/-- What is raised: `Denied` with its reason, or another exception. -/
inductive Raised where
  | denied (reason : String)
  | keyError
  | indexError
  | unicodeDecodeError
  deriving Repr, DecidableEq

/-- `sys.byteorder`. -/
inductive ByteOrder where
  | little
  | big

variable (order : ByteOrder)

/-- A native number. -/
def native (bytes : Bytes) : Nat :=
  match order with
  | .little => unpack bytes.reverse
  | .big => unpack bytes

/-- A length with its padding. -/
def padded (size : Nat) : Nat :=
  (size + 3) / 4 * 4

/-- Padding removes nothing. -/
theorem le_padded (size : Nat) : size ≤ padded size := by
  unfold padded
  omega

/-- The attributes by their types, in the order in which they stand. -/
abbrev Attributes := List (Nat × Bytes)

/-- The loop of `attrs`. -/
def attrsFrom (order : ByteOrder) (result : Attributes)
    (rest : Bytes) : Except Raised Attributes :=
  if rest.length = 0 then
    .ok result
  else if rest.length < 4 then
    .error (.denied "physical_netlink_attribute_short")
  else
    let size := native order (rest.take 2)
    let kind := native order ((rest.drop 2).take 2) % 0x4000
    if _isInvalid :
        size < 4 ∨ rest.length < size ∨ kind ∈ result.map Prod.fst then
      .error (.denied "physical_netlink_attribute_invalid")
    else if rest.length < padded size then
      .error (.denied "physical_netlink_padding_invalid")
    else
      attrsFrom order (result ++ [(kind, (rest.take size).drop 4)])
        (rest.drop (padded size))
termination_by rest.length
decreasing_by
  have isLonger := le_padded (native order (rest.take 2))
  rw [List.length_drop]
  omega

variable (raw : Bytes)

/-- `attrs`. -/
def attrs : Except Raised Attributes :=
  attrsFrom order [] raw

variable (attributes : Attributes)

/-- An attribute is looked up. -/
def valueOf (key : Nat) : Except Raised Bytes :=
  match attributes.lookup key with
  | none => .error .keyError
  | some value => .ok value

/-- `number`, where `read` is the order of the bytes. -/
def number (read : Bytes → Nat) (attributes : Attributes)
    (key : Nat) : Except Raised Nat := do
  let raw ← valueOf attributes key
  if raw.length = 4 then .ok (read raw)
  else .error (.denied "physical_netlink_scalar_invalid")

/-- A text ends with a zero and has no other one. -/
def IsTerminated : Prop :=
  raw.getLast? = some 0 ∧ 1 < raw.length ∧ raw.length ≤ 64 ∧ 0 ∉ raw.dropLast
  deriving Decidable

/-- A byte of an ASCII text. -/
def IsAscii (byte : UInt8) : Prop :=
  byte.toNat < 128
  deriving Decidable

/-- The characters of ASCII bytes. -/
def characters (bytes : Bytes) : List Char :=
  bytes.map fun byte => Char.ofNat byte.toNat

/-- `text`. -/
def text : Except Raised (List Char) :=
  if IsTerminated raw then
    if ∀ byte ∈ raw.dropLast, IsAscii byte then .ok (characters raw.dropLast)
    else .error .unicodeDecodeError
  else
    .error (.denied "physical_netlink_string_invalid")

/-! ## Records -/

/-- `TraceRecord`. -/
structure TraceRecord where
  traceId : Nat
  table : List Char
  chain : List Char
  verdict : Option Nat
  iif : Option Nat
  frame : Option Bytes
  eventType : Nat

/-- The attribute has the type. -/
def Has (key : Nat) : Prop :=
  key ∈ attributes.map Prod.fst
  deriving Decidable

/-- The types of the attributes that a trace may have. -/
def allowedKinds : List Nat :=
  [1, 2, 3, 4, 5, 6, 7, 8, 9, 10, 11, 12, 13, 14, 15, 16, 17]

/-- The types of the attributes that a trace must have. -/
def requiredKinds : List Nat :=
  [1, 2, 4, 6, 15]

/-- The verdict of a trace. -/
def verdictOf : Except Raised (Option Nat) :=
  if Has attributes 16 then do
    let verdict ← number unpack attributes 16
    .ok (some verdict)
  else if Has attributes 5 then do
    let raw ← valueOf attributes 5
    let nested ← attrs order raw
    let verdict ← number unpack nested 1
    .ok (some verdict)
  else
    .ok none

/-- The frame of a trace. -/
def frameOf : Except Raised (Option Bytes) :=
  if Has attributes 7 ∧ Has attributes 8 ∧ Has attributes 9 then do
    let link ← valueOf attributes 7
    let header ← valueOf attributes 8
    let transport ← valueOf attributes 9
    let frame := link ++ header ++ transport
    if 14 ≤ frame.length ∧ frame.length ≤ 128 then .ok (some frame)
    else .error (.denied "physical_trace_frame_invalid")
  else
    .ok none

/-- The incoming interface of a trace. -/
def iifOf : Except Raised (Option Nat) :=
  if Has attributes 10 then do
    let iif ← number unpack attributes 10
    .ok (some iif)
  else
    .ok none

/-- The record of the attributes of a message. -/
def traceRecord : Except Raised TraceRecord := do
  if (∀ key ∈ attributes.map Prod.fst, key ∈ allowedKinds) ∧
      ∀ key ∈ requiredKinds, Has attributes key then
    let family ← number unpack attributes 15
    if family ≠ 7 then
      .error (.denied "physical_trace_nfproto_invalid")
    else
      let eventType ← number unpack attributes 4
      if eventType ∉ [1, 2, 3] then
        .error (.denied "physical_trace_event_type_invalid")
      else
        let verdict ← verdictOf order attributes
        let frame ← frameOf attributes
        let traceId ← number (native order) attributes 6
        let table ← (valueOf attributes 1).bind text
        let chain ← (valueOf attributes 2).bind text
        let iif ← iifOf attributes
        .ok { traceId, table, chain, verdict, iif, frame, eventType }
  else
    .error (.denied "physical_trace_attribute_set_invalid")

/-! ## Datagrams -/

/-- The header of a message is that of a trace. -/
def IsTraceHeader (rest : Bytes) : Prop :=
  20 ≤ native order (rest.take 4) ∧ native order (rest.take 4) ≤ rest.length ∧
    native order ((rest.drop 4).take 2) = 0x0a11 ∧
    native order ((rest.drop 12).take 4) = 0 ∧
    native order ((rest.drop 8).take 4) = 0 ∧
    native order ((rest.drop 6).take 2) = 0
  deriving Decidable

/-- The loop of `decode_kernel`. -/
def decodeMessages (order : ByteOrder) (events : List TraceRecord)
    (rest : Bytes) : Except Raised (List TraceRecord) :=
  if rest.length = 0 then
    .ok events
  else if rest.length < 20 then
    .error (.denied "physical_netlink_message_short")
  else if _isForeign : ¬ IsTraceHeader order rest then
    .error (.denied "physical_kernel_trace_header_invalid")
  else if (rest.drop 16).take 4 ≠ [7, 0, 0, 0] then
    .error (.denied "physical_kernel_trace_family_invalid")
  else
    let size := native order (rest.take 4)
    match attrs order ((rest.take size).drop 20) with
    | .error raised => .error raised
    | .ok attributes =>
        match traceRecord order attributes with
        | .error raised => .error raised
        | .ok record =>
            if rest.length < padded size then
              .error (.denied "physical_netlink_message_padding_invalid")
            else
              decodeMessages order (events ++ [record])
                (rest.drop (padded size))
termination_by rest.length
decreasing_by
  have isSize : 20 ≤ native order (rest.take 4) := (not_not.mp _isForeign).1
  have isLonger := le_padded (native order (rest.take 4))
  rw [List.length_drop]
  omega

/-- The address of the sender of a datagram: a tuple or something else. -/
inductive Peer where
  | other
  | tuple (entries : List Int)
  deriving Repr, DecidableEq

/-- `decode_kernel`. -/
def decodeKernel (peer : Peer) : Except Raised (List TraceRecord) :=
  if 20 ≤ raw.length ∧ raw.length ≤ 8192 then
    match peer with
    | .other => .error (.denied "physical_kernel_event_not_kernel")
    | .tuple [] => .error .indexError
    | .tuple (sender :: _) =>
        if sender = 0 then decodeMessages order [] raw
        else .error (.denied "physical_kernel_event_not_kernel")
  else
    .error (.denied "physical_kernel_event_not_kernel")

end TicketSandbox.Physical
