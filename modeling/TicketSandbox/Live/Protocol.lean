import TicketSandbox.Library.JsonValues
import TicketSandbox.Live.Streams
import TicketSandbox.Network.NativeV2Json

namespace TicketSandbox.Live

/-!
# The runner's protocol

`main` of the runner prints its packet as a line of JSON;
`trusted_checker_live/protocol.py` decodes the line, and the adapter makes a
response of it that it signs.
-/

open Base64 (b64decode?)
open Crlf (Bytes)
open JsonValues (Value dumps loads?)
open TicketSandbox.Runtime (ProbeResponse Transport)

/-! ## Encoding -/

/-- The text of a transport. -/
def transportText : Transport → String
  | .none => "none"
  | .timeout => "timeout"
  | .uncertain => "uncertain"
  | .refused => "refused"

/-- The value of a status. -/
def statusValue : Option Nat → Value
  | some status => .int status
  | none => .null

/-- The dictionary of a packet. -/
def Packet.members (data : Packet) : List (List Char × Value) :=
  [("protocol_version".toList, .int data.protocolVersion),
    ("policy_id".toList, .str data.policyId.toList),
    ("policy_version".toList, .int data.policyVersion),
    ("target_ipv4".toList, .str data.targetIpv4.toList),
    ("status".toList, statusValue data.status),
    ("body_b64".toList, .str data.bodyB64),
    ("complete".toList, .bool data.complete),
    ("transport".toList, .str (transportText data.transport).toList)]

/-- The line that `main` prints. -/
def encode (data : Packet) : ByteArray :=
  (String.ofList (dumps (.obj data.members) ++ ['\n'])).toUTF8

/-! ## Decoding -/

/-- `Denied`. -/
structure Denied where
  reason : String

variable (members : List (List Char × Value))

/-- `pairs`: no key is there twice. -/
def pairs : Bool :=
  decide (members.map Prod.fst).Nodup

/-- The keys of the dictionary. -/
def keys : List (List Char) :=
  ["protocol_version".toList, "policy_id".toList, "policy_version".toList,
    "target_ipv4".toList, "status".toList, "body_b64".toList,
    "complete".toList, "transport".toList]

/-- The value of a key. -/
def field? (key : String) : Option Value :=
  (members.find? fun member => decide (member.1 = key.toList)).map Prod.snd

/-- The value is the integer. -/
def isInt (expected : Nat) : Option Value → Bool
  | some (.int value) => decide (value = expected)
  | _ => false

/-- The value is the text. -/
def isText (expected : String) : Option Value → Bool
  | some (.str text) => decide (text = expected.toList)
  | _ => false

/-- The value of a boolean. -/
def bool? : Option Value → Option Bool
  | some (.bool value) => some value
  | _ => none

/-- The transport that a value names. -/
def transport? (value : Option Value) : Option Transport :=
  [Transport.none, .timeout, .uncertain, .refused].find? fun transport =>
    isText (transportText transport) value

/-- The text of a body. -/
def text? : Option Value → Option (List Char)
  | some (.str text) => some text
  | _ => none

/-- A status between 100 and 599. -/
def statusCode? : Option Value → Option Nat
  | some (.int value) =>
      if 100 ≤ value ∧ value ≤ 599 then some value.toNat else none
  | _ => none

/-- The value is `None`. -/
def isNull : Option Value → Bool
  | some .null => true
  | _ => false

/-- The status that goes with a transport; without a response there is no
body and nothing complete. -/
def decodedStatus? (transport : Transport) (value : Option Value) (body : Bytes)
    (complete : Bool) : Option (Option Nat) :=
  if transport = .none then (statusCode? value).map some
  else if isNull value = true ∧ body = [] ∧ complete = false then some none
  else none

/-- Keys are compared by their characters. -/
theorem lawfulKeys : LawfulBEq (List Char) :=
  inferInstance

attribute [local instance] lawfulKeys in
/-- What is decoded of a dictionary. -/
def decodeMembers? (targetIpv4 : String) : Option (Packet × Bytes) :=
  if (∀ key ∈ keys, key ∈ members.map Prod.fst) ∧
      (∀ key ∈ members.map Prod.fst, key ∈ keys) ∧
      isInt 2 (field? members "protocol_version") = true ∧
      isInt policyVersion (field? members "policy_version") = true ∧
      isText policyId (field? members "policy_id") = true ∧
      isText targetIpv4 (field? members "target_ipv4") = true then do
    let complete ← bool? (field? members "complete")
    let transport ← transport? (field? members "transport")
    let bodyB64 ← text? (field? members "body_b64")
    let body ← b64decode? bodyB64
    if body.length ≤ 1025 then do
      let status ←
        decodedStatus? transport (field? members "status") body complete
      pure
        ({ protocolVersion := 2
           policyId
           policyVersion
           targetIpv4
           status
           bodyB64
           complete
           transport }, body)
    else
      none
  else
    none

/-- What is decoded of a document. -/
def decodeText? (text : List Char) (targetIpv4 : String) :
    Option (Packet × Bytes) :=
  match loads? pairs text with
  | some (.obj members) => decodeMembers? members targetIpv4
  | _ => none

/-- `decode`. -/
def decode
    (raw : ByteArray) (targetIpv4 : String) : Except Denied (Packet × Bytes) :=
  if 0 < raw.size ∧ raw.size ≤ 4096 then
    match raw.utf8Decode? with
    | none => .error ⟨"runner_protocol_invalid"⟩
    | some text =>
        match decodeText? text.toList targetIpv4 with
        | none => .error ⟨"runner_protocol_invalid"⟩
        | some decoded => .ok decoded
  else
    .error ⟨"runner_output_invalid"⟩

/-! ## Responses -/

/-- The response that the adapter signs: what was decoded, with the fields
that it takes from the run. -/
def probeResponse
    (run : ProbeResponse) (data : Packet) (body : Bytes) : ProbeResponse :=
  { run with
    status :=
      match data.status with
      | none => 200
      | some 0 => 200
      | some status => status
    body
    complete := data.complete
    transport := data.transport }

end TicketSandbox.Live

namespace TicketSandbox.Live

/-!
# Packets between the runner and the decoder

Whatever the runner reports is decoded as it was reported: its dictionary is
flat, fits the limit of the decoder and passes its checks.
-/

open Base64
  (alphabet b64decode?_b64encode b64encode b64encode_mem length_b64encode)
open Crlf (Bytes)
open JsonText (Text)
open JsonValues
  (FlatMembers IsFlat Plain Value dumps dumps_int loads? loads?_flat
    quoted_plain size_utf8Encode sortMembers)
open TicketSandbox.Firewall (IsPrivateIp ipv4Text ipv4?_length octetText)
open TicketSandbox.Runtime (Transport)

/-! ## Reports -/

/-- The packets that the runner reports, with the bodies that they carry. -/
inductive IsReport (ip : String) : Packet → Bytes → Prop where
  | silent (transport : Transport) :
      transport ≠ .none → IsReport ip (silent ip transport) []
  | response (status : Nat) (body : Bytes) (complete : Bool) :
      100 ≤ status ∧ status ≤ 599 →
      body.length ≤ 1025 →
      IsReport ip (packet ip (some status) body complete .none) body

variable {ip : String} {data : Packet} {body : Bytes} {text : Text}
  {status : Option Nat}

theorem IsReport.isPacket (isReport : IsReport ip data body) :
    ∃ status complete transport,
      data = packet ip status body complete transport ∧
        body.length ≤ 1025 ∧ (∀ value ∈ status, value ≤ 599) ∧
        decodedStatus? transport (some (statusValue status)) body complete =
          some status := by
  cases isReport with
  | silent transport notNone =>
      refine ⟨none, false, transport, rfl, Nat.zero_le _, ?_, ?_⟩
      · intro status member
        cases member
      · rw [decodedStatus?, if_neg notNone]
        rfl
  | response status body complete isStatus isShort =>
      refine ⟨some status, complete, .none, rfl, isShort, ?_, ?_⟩
      · intro other member
        rw [← Option.some.inj member]
        exact isStatus.2
      · have bounds : (100 : Int) ≤ status ∧ (status : Int) ≤ 599 := by
          omega
        rw [decodedStatus?, if_pos rfl]
        exact congrArg (Option.map some) (if_pos bounds)

/-! ## Texts -/

theorem octetText_small (octet : UInt8) :
    (octetText octet).length ≤ 3 ∧
      ∀ char ∈ octetText octet, char ∈ "0123456789".toList := by
  have all : ((List.range 256).all fun value =>
        decide ((Nat.toDigits 10 value).length ≤ 3) &&
          (Nat.toDigits 10 value).all "0123456789".toList.contains) =
        true := by
    decide +kernel
  have isOctet := List.all_eq_true.mp all octet.toNat
      (List.mem_range.mpr octet.toNat_lt)
  obtain ⟨short, digits⟩ := Bool.and_eq_true_iff.mp isOctet
  exact ⟨of_decide_eq_true short, fun char member =>
    List.contains_iff_mem.mp (List.all_eq_true.mp digits char member)⟩

theorem privateIp_text (isPrivate : IsPrivateIp ip) :
    ip.toList.length ≤ 15 ∧ ∀ char ∈ ip.toList, Plain char := by
  obtain ⟨bytes, read, text, _⟩ := isPrivate
  have sized := ipv4?_length read
  obtain ⟨a, b, c, d, rfl⟩ : ∃ a b c d, bytes = [a, b, c, d] :=
    match bytes, sized with
    | [a, b, c, d], _ => ⟨a, b, c, d, rfl⟩
  have shape : ip.toList =
        octetText a ++ '.' :: (octetText b ++ '.' :: (octetText c ++
          '.' :: octetText d)) := by
    rw [← text]
    simp [ipv4Text, List.intercalate]
  have digitPlain : ∀ char ∈ '.' :: "0123456789".toList,
      Plain char := by
    have all : (('.' :: "0123456789".toList).all fun char =>
          decide ((32 ≤ char.toNat ∧ char.toNat ≤ 126) ∧ char ≠ '"' ∧
            char ≠ '\\')) = true := by
      decide
    intro char member
    obtain ⟨printable, notQuote, notBackslash⟩ :=
      of_decide_eq_true (List.all_eq_true.mp all char member)
    exact ⟨printable, notQuote, notBackslash⟩
  rw [shape]
  constructor
  · have first := (octetText_small a).1
    have second := (octetText_small b).1
    have third := (octetText_small c).1
    have fourth := (octetText_small d).1
    simp only [List.length_append, List.length_cons]
    omega
  · intro char member
    apply digitPlain
    have inOctet (octet : UInt8) (inText : char ∈ octetText octet) :
        char ∈ '.' :: "0123456789".toList :=
      List.mem_cons_of_mem _ ((octetText_small octet).2 char inText)
    simp only [List.mem_append, List.mem_cons] at member
    rcases member with inFirst | rfl | inSecond | rfl | inThird | rfl | inFourth
    · exact inOctet a inFirst
    · exact List.mem_cons_self
    · exact inOctet b inSecond
    · exact List.mem_cons_self
    · exact inOctet c inThird
    · exact List.mem_cons_self
    · exact inOctet d inFourth

theorem plain_of_all (all : (text.all fun char =>
      decide ((32 ≤ char.toNat ∧ char.toNat ≤ 126) ∧ char ≠ '"' ∧
        char ≠ '\\')) = true) :
    ∀ char ∈ text, Plain char := by
  intro char member
  obtain ⟨printable, notQuote, notBackslash⟩ :=
    of_decide_eq_true (List.all_eq_true.mp all char member)
  exact ⟨printable, notQuote, notBackslash⟩

theorem b64encode_plain (body : Bytes) :
    ∀ char ∈ b64encode body, Plain char := by
  intro char member
  exact @plain_of_all ('=' :: alphabet) rfl char (b64encode_mem member)

/-! ## Dictionaries -/

/-- The dictionary of a packet in the order of its keys. -/
def sortedMembers (data : Packet) : List (Text × Value) :=
  [("body_b64".toList, .str data.bodyB64),
    ("complete".toList, .bool data.complete),
    ("policy_id".toList, .str data.policyId.toList),
    ("policy_version".toList, .int data.policyVersion),
    ("protocol_version".toList, .int data.protocolVersion),
    ("status".toList, statusValue data.status),
    ("target_ipv4".toList, .str data.targetIpv4.toList),
    ("transport".toList, .str (transportText data.transport).toList)]

theorem sortMembers_members (data : Packet) :
    sortMembers data.members = sortedMembers data := by
  rfl

theorem members_flat (isPrivate : IsPrivateIp ip) (status : Option Nat)
    (body : Bytes) (complete : Bool) (transport : Transport) :
    FlatMembers (packet ip status body complete transport).members := by
  intro member isMember
  have isText := (privateIp_text isPrivate).2
  have isBody := b64encode_plain body
  simp only [Packet.members, packet, List.mem_cons, List.not_mem_nil,
    or_false] at isMember
  rcases isMember with rfl | rfl | rfl | rfl | rfl | rfl | rfl | rfl
  · exact ⟨plain_of_all rfl, .int 2⟩
  · exact ⟨plain_of_all rfl, .str (plain_of_all rfl)⟩
  · exact ⟨plain_of_all rfl, .int 2⟩
  · exact ⟨plain_of_all rfl, .str isText⟩
  · refine ⟨plain_of_all rfl, ?_⟩
    cases status with
    | none => exact .null
    | some status => exact .int status
  · exact ⟨plain_of_all rfl, .str isBody⟩
  · exact ⟨plain_of_all rfl, .bool complete⟩
  · refine ⟨plain_of_all rfl, .str ?_⟩
    cases transport with
    | none => exact plain_of_all rfl
    | timeout => exact plain_of_all rfl
    | uncertain => exact plain_of_all rfl
    | refused => exact plain_of_all rfl

theorem length_str (isPlain : ∀ char ∈ text, Plain char) :
    (dumps (.str text)).length = text.length + 2 := by
  rw [dumps, quoted_plain isPlain, List.length_cons, List.length_append,
    List.length_singleton]

theorem length_status (bound : ∀ value ∈ status, value ≤ 599) :
    (dumps (statusValue status)).length ≤ 4 := by
  cases status with
  | none => exact Nat.le_refl _
  | some value =>
      have all : ∀ value : Fin 600, (Nat.toDigits 10 value.val).length ≤ 3 := by
        decide +kernel
      rw [statusValue, dumps_int]
      exact Nat.le_succ_of_le (all ⟨value, Nat.lt_succ_of_le (bound value rfl)⟩)

theorem length_transport (transport : Transport) :
    (dumps (.str (transportText transport).toList)).length ≤ 11 := by
  cases transport with
  | none => decide
  | timeout => decide
  | uncertain => decide
  | refused => decide

theorem length_line
    (isPrivate : IsPrivateIp ip) (bound : ∀ value ∈ status, value ≤ 599)
    (isShort : body.length ≤ 1025) (complete : Bool) (transport : Transport) :
    (dumps (.obj (packet ip status body complete transport).members) ++
      ['\n']).length ≤ 4096 := by
  have isFlat := members_flat isPrivate status body complete transport
  have isText := privateIp_text isPrivate
  have ofIp := length_str isText.2
  have ofBody := length_str (b64encode_plain body)
  have encoded := length_b64encode body
  have ofStatus := length_status bound
  have ofTransport := length_transport transport
  have ofComplete : (dumps (.bool complete)).length ≤ 5 := by
    cases complete with
    | false => decide
    | true => decide
  have ofVersion : (dumps (.int (2 : Nat))).length = 1 := by
    decide
  have ofPolicy : (dumps (.str policyId.toList)).length = 37 := by
    decide
  have keys : "protocol_version".toList.length = 16 ∧
        "policy_id".toList.length = 9 ∧
        "policy_version".toList.length = 14 ∧
        "target_ipv4".toList.length = 11 ∧
        "status".toList.length = 6 ∧ "body_b64".toList.length = 8 ∧
        "complete".toList.length = 8 ∧ "transport".toList.length = 9 := by
    decide
  rw [List.length_append, List.length_singleton]
  refine Nat.le_trans (Nat.succ_le_succ isFlat.length_le) ?_
  simp only [Packet.members, packet, List.map_cons, List.map_nil,
    List.sum_cons, List.sum_nil, policyVersion, protocolVersion, ofIp,
    ofBody, ofVersion, ofPolicy, keys]
  omega

/-! ## Decoding -/

theorem keys_sortedMembers (data : Packet) :
    (sortedMembers data).map Prod.fst =
      ["body_b64".toList, "complete".toList, "policy_id".toList,
        "policy_version".toList, "protocol_version".toList,
        "status".toList, "target_ipv4".toList, "transport".toList] := by
  rfl

theorem sortedMembers_keys (data : Packet) :
    pairs (sortedMembers data) = true ∧
      (∀ key ∈ keys, key ∈ (sortedMembers data).map Prod.fst) ∧
      ∀ key ∈ (sortedMembers data).map Prod.fst, key ∈ keys := by
  rw [pairs, keys_sortedMembers]
  decide

theorem transport?_text (transport : Transport) :
    transport? (some (.str (transportText transport).toList)) =
      some transport := by
  cases transport with
  | none => decide
  | timeout => decide
  | uncertain => decide
  | refused => decide

theorem isText_self (text : String) :
    isText text (some (.str text.toList)) = true := by
  rw [isText]
  exact decide_eq_true rfl

theorem decodeMembers?_packet
    {complete : Bool} {transport : Transport} (isShort : body.length ≤ 1025)
    (isStatus :
      decodedStatus? transport (some (statusValue status)) body complete =
        some status) :
    decodeMembers?
        (sortedMembers (packet ip status body complete transport)) ip =
      some (packet ip status body complete transport, body) := by
  obtain ⟨_, keysIn, keysOf⟩ :=
    sortedMembers_keys (packet ip status body complete transport)
  rw [decodeMembers?,
    if_pos ⟨keysIn, keysOf, rfl, rfl, isText_self _, isText_self _⟩]
  refine Option.bind_eq_some_iff.mpr ⟨complete, rfl, ?_⟩
  refine Option.bind_eq_some_iff.mpr ⟨transport, transport?_text transport, ?_⟩
  refine Option.bind_eq_some_iff.mpr ⟨b64encode body, rfl, ?_⟩
  refine Option.bind_eq_some_iff.mpr ⟨body, b64decode?_b64encode body, ?_⟩
  rw [if_pos isShort]
  exact Option.bind_eq_some_iff.mpr ⟨status, isStatus, rfl⟩

/-- A report is read back from its bytes. -/
theorem IsReport.decode_encode
    (isReport : IsReport ip data body) (isPrivate : IsPrivateIp ip) :
    decode (encode data) ip = .ok (data, body) := by
  obtain ⟨status, complete, transport, rfl, isShort, bound, isStatus⟩ :=
    isReport.isPacket
  have isFlat := members_flat isPrivate status body complete transport
  have fits := length_line isPrivate bound isShort complete transport
  have isText : decodeText? (dumps
              (.obj (packet ip status body complete transport).members) ++
            ['\n'])
          ip =
        some (packet ip status body complete transport, body) := by
    have nonempty : (packet ip status body complete transport).members ≠ [] :=
      List.cons_ne_nil _ _
    have read := loads?_flat nonempty isFlat
        (sortedMembers_keys (packet ip status body complete transport)).1
    rw [sortMembers_members] at read
    rw [decodeText?, read]
    exact decodeMembers?_packet isShort isStatus
  rw [decode, encode, String.toUTF8_eq_toByteArray, String.toByteArray_ofList]
  generalize isLine :
    dumps (.obj (packet ip status body complete transport).members) ++
      ['\n'] = line at fits isText ⊢
  have isAscii : ∀ char ∈ line, char.toNat ≤ 127 := by
    intro char member
    rw [← isLine] at member
    rcases List.mem_append.mp member with inLine | atEnd
    · exact Nat.le_succ_of_le (isFlat.printable char inLine).2
    · rw [List.mem_singleton.mp atEnd]
      decide
  have sized := size_utf8Encode isAscii
  have nonempty : 0 < line.length := by
    rw [← isLine, List.length_append]
    exact Nat.succ_pos _
  rw [if_pos (sized.symm ▸ ⟨nonempty, fits⟩), List.utf8Decode?_utf8Encode]
  simp only [isText]

end TicketSandbox.Live
