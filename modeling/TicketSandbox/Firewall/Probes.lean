import Mathlib.Algebra.Group.Int.Defs
import TicketSandbox.Firewall.Contracts

namespace TicketSandbox.Firewall

/-!
# Probes

`trusted_checker_network/packets.py` and `sample_plan`: the frames that the
runner sends to see what the rules let pass.
-/

open TicketSandbox.Runtime (Digest RuntimeApproval Uuid)

/-- A SHA-256 digest as bytes. -/
structure Sha256 where
  bytes : Bytes
  length_bytes : bytes.length = 32

/-- What a counter of the recipe counts. -/
inductive Purpose where
  | allow
  | guardDrop
  | ingress
  | terminalDrop
  | fallbackDrop

/-- The digests that are taken of what the operator approved. -/
structure Hashes where
  runtime : RuntimeApproval → Digest
  probe : Uuid → Nat → NetworkBinding → Sha256
  counter : Uuid → Nat → Nat → Purpose → Digest

/-- `struct.pack('!H', value)`. -/
def pack16 (value : Nat) : Bytes :=
  [UInt8.ofNat (value / 256), UInt8.ofNat value]

/-- `struct.pack('!I', value)`. -/
def pack32 (value : Nat) : Bytes :=
  [UInt8.ofNat (value >>> 24), UInt8.ofNat (value >>> 16),
    UInt8.ofNat (value >>> 8), UInt8.ofNat value]

/-- The sum of the words of a byte string, padded to whole words. -/
def words : Bytes → Nat
  | [] => 0
  | [last] => last.toNat * 256
  | first :: second :: rest => first.toNat * 256 + second.toNat + words rest

/-- Add the carries of a sum back to it. -/
def carried (total : Nat) : Nat :=
  if total < 65536 then total else carried (total % 65536 + total / 65536)
  termination_by total
  decreasing_by
    have := Nat.div_add_mod total 65536
    omega

/-- `checksum`. -/
def checksum (raw : Bytes) : Nat :=
  65535 - carried (words raw)

/-- Replace the word at an offset. -/
def patch (bytes : Bytes) (offset value : Nat) : Bytes :=
  bytes.take offset ++ pack16 value ++ bytes.drop (offset + 2)

/-- `mac` of a text that was checked. -/
def mac (value : String) : Bytes :=
  (mac? value).getD []

/-- `ipaddress.IPv4Address(value).packed` of a text that was checked. -/
def packed (value : String) : Bytes :=
  (ipv4? value).getD []

/-- The transport header of a probe before its checksum. -/
def segment (udp reverse : Bool) (port sequence flags : Nat) : Bytes :=
  let sport := if reverse then port else 49152
  let dport := if reverse then 49152 else port
  if udp then
    pack16 sport ++ pack16 dport ++ pack16 8 ++ pack16 0
  else
    pack16 sport ++ pack16 dport ++ pack32 (if reverse then 0 else sequence) ++
      pack32 (if reverse then sequence + 1 else 0) ++
      [80, UInt8.ofNat flags] ++ pack16 1024 ++ pack16 0 ++ pack16 0

/-- `ipv4_frame`. -/
def ipv4Frame (sourceMac destinationMac sourceIp destinationIp : String)
    (port sequence : Nat) (udp : Bool) (flags : Nat) (reverse : Bool) : Bytes :=
  let src := packed sourceIp
  let dst := packed destinationIp
  let protocol : UInt8 := if udp then 17 else 6
  let bare := segment udp reverse port sequence flags
  let pseudo := src ++ dst ++ [0, protocol] ++ pack16 bare.length
  let offset := if udp then 6 else 16
  let segment := patch bare offset (checksum (pseudo ++ bare))
  let header :=
    [69, 0] ++ pack16 (20 + segment.length) ++ pack16 (sequence % 65536) ++
      pack16 16384 ++ [64, protocol] ++ pack16 0 ++ src ++ dst
  mac destinationMac ++ mac sourceMac ++ [8, 0] ++
    patch header 10 (checksum header) ++ segment

/-- `Probe`. -/
structure Probe where
  case : String
  probeId : Sha256
  frame : Bytes
  destinationIp : String
  port : Nat
  sequence : Nat
  responseRequired : Bool

/-- The case, destination, port and protocol of each probe. -/
def specifications
    (binding : NetworkBinding) : List (String × String × Nat × Bool) :=
  [("allow_target_8080", binding.target.ipv4, 8080, false),
    ("deny_other_target_ports", binding.target.ipv4, 8081, false),
    ("deny_other_target_ports", binding.target.ipv4, 22, false),
    ("deny_other_ipv4", binding.otherIpv4, 443, false),
    ("deny_host", binding.gatewayIpv4, 443, false),
    ("deny_metadata", "169.254.169.254", 80, false),
    ("deny_db_redis_django", binding.dbIpv4, 5432, false),
    ("deny_db_redis_django", binding.redisIpv4, 6379, false),
    ("deny_db_redis_django", binding.djangoIpv4, 8000, false),
    ("deny_dns", binding.gatewayIpv4, 53, true),
    ("deny_dns", binding.gatewayIpv4, 53, false),
    ("deny_ipv6", "fe80::1", 8080, false),
    ("deny_spoofing", binding.target.ipv4, 8080, false),
    ("deny_spoofing", binding.target.ipv4, 8080, true),
    ("deny_extra_attachment", binding.otherIpv4, 8080, false)]

/-- `ipaddress.IPv6Address('fe80::…').packed`. -/
def linkLocal (last : UInt8) : Bytes :=
  [254, 128, 0, 0, 0, 0, 0, 0, 0, 0, 0, 0, 0, 0, 0, last]

/-- The IPv6 frame of a probe. -/
def ipv6Frame (sourceMac destinationMac : String) (sequence : Nat) : Bytes :=
  let s6 := linkLocal 2
  let d6 := linkLocal 1
  let tcp := segment false false 8080 sequence 2
  let check := checksum (s6 ++ d6 ++ pack32 20 ++ [0, 0, 0, 6] ++ tcp)
  mac destinationMac ++ mac sourceMac ++ [134, 221] ++
    pack32 0x60000000 ++ pack16 20 ++ [6, 64] ++ s6 ++ d6 ++
    patch tcp 16 check

/-- The number of the first seven digits of an identifier. -/
def sequenceOf (ident : Sha256) : Nat :=
  Bytes.number (ident.bytes.take 4) / 16

/-- The frame of a probe. -/
def probeFrame
    (binding : NetworkBinding) (case ip : String) (port sequence : Nat)
    (udp : Bool) : Bytes :=
  let destinationMac :=
    if ip = binding.target.ipv4 then binding.target.mac else binding.bridgeMac
  let src :=
    if case = "deny_spoofing" then "172.31.255.254" else binding.runner.ipv4
  if case = "deny_ipv6" then
    ipv6Frame binding.runner.mac destinationMac sequence
  else
    let frame :=
      ipv4Frame binding.runner.mac destinationMac src ip port sequence udp
        2 false
    if case = "deny_spoofing" ∧ udp then
      frame.take 12 ++ [129, 0, 0, 1] ++ frame.drop 12
    else
      frame

/-- One probe of `plan`. -/
def probeOf (hashes : Hashes) (binding : NetworkBinding) (matrixUuid : Uuid)
    (index : Nat) (specification : String × String × Nat × Bool) : Probe :=
  let (case, ip, port, udp) := specification
  let ident := hashes.probe matrixUuid index binding
  let sequence := sequenceOf ident
  { case := case
    probeId := ident
    frame := probeFrame binding case ip port sequence udp
    destinationIp := ip
    port := port
    sequence := sequence
    responseRequired := case = "allow_target_8080" }

/-- `plan`. -/
def plan (hashes : Hashes) (binding : NetworkBinding)
    (matrixUuid : Uuid) : List Probe :=
  (specifications binding).mapIdx fun index specification =>
    probeOf hashes binding matrixUuid index specification

/-- What `sample_plan` makes of the frame of a probe. -/
def sampleFrame (raw token : Bytes) : Bytes :=
  let offset := if (raw.drop 12).take 2 = [129, 0] then 18 else 14
  if (raw.getD offset 0).toNat / 16 = 4 ∧ raw.getD (offset + 9) 0 = 17 then
    let ip := (raw.drop offset).take 20
    let long := raw.drop (offset + 20) ++ token
    let sized := patch (patch long 4 long.length) 6 0
    let pseudo := (ip.drop 12).take 8 ++ [0, 17] ++ pack16 sized.length
    let check := checksum (pseudo ++ sized)
    let udp := patch sized 6 (if check = 0 then 65535 else check)
    let resized := patch (patch ip 2 (20 + udp.length)) 10 0
    raw.take offset ++ patch resized 10 (checksum resized) ++ udp
  else
    raw

/-- `sample_plan`. -/
def samplePlan (hashes : Hashes) (binding : NetworkBinding)
    (context : Uuid) : List Probe :=
  (plan hashes binding context).map fun probe =>
    { probe with
      frame := sampleFrame probe.frame (probe.probeId.bytes.take 12) }

end TicketSandbox.Firewall

namespace TicketSandbox.Firewall

/-!
# Replies

`trusted_checker_network/packets.py`: how a frame is built from any texts and
numbers, how Ethernet padding is taken off a frame, and which frames are
replies to a probe.
-/

/-! ## Building -/

/-- A character between the bytes of a hexadecimal text. -/
def isAsciiSpace (char : Char) : Bool :=
  char = ' ' || (9 ≤ char.toNat && char.toNat ≤ 13)

/-- The byte of two hexadecimal digits of any case. -/
def anyHexByte? (high low : Char) : Option UInt8 :=
  hexByte? high.toLower low.toLower

/-- `bytes.fromhex`. -/
def fromhex? : List Char → Option Bytes
  | [] => some []
  | [single] => if isAsciiSpace single then some [] else none
  | high :: low :: rest =>
      if isAsciiSpace high then
        fromhex? (low :: rest)
      else do
        pure ((← anyHexByte? high low) :: (← fromhex? rest))

/-- `mac`, or nothing where it raises. -/
def macBytes? (value : String) : Option Bytes :=
  fromhex? (value.toList.filter fun char => char ≠ ':')

/-- `ipv4_frame` of the bytes of its addresses. -/
def ipv4FrameOf (sourceMac destinationMac src dst : Bytes) (port sequence : Nat)
    (udp : Bool) (flags : Nat) (reverse : Bool) : Bytes :=
  let protocol : UInt8 := if udp then 17 else 6
  let bare := segment udp reverse port sequence flags
  let pseudo := src ++ dst ++ [0, protocol] ++ pack16 bare.length
  let offset := if udp then 6 else 16
  let segment := patch bare offset (checksum (pseudo ++ bare))
  let header :=
    [69, 0] ++ pack16 (20 + segment.length) ++ pack16 (sequence % 65536) ++
      pack16 16384 ++ [64, protocol] ++ pack16 0 ++ src ++ dst
  destinationMac ++ sourceMac ++ [8, 0] ++
    patch header 10 (checksum header) ++ segment

/-- A number that `struct.pack` takes for a field of some bytes. -/
def fits (bytes : Nat) (value : Int) : Prop :=
  0 ≤ value ∧ value < 256 ^ bytes
  deriving Decidable

/-- What `struct.pack` takes for a segment. -/
def segmentFits (udp reverse : Bool) (port sequence flags : Int) : Prop :=
  fits 2 port ∧ (udp = false →
      fits 4 (if reverse then sequence + 1 else sequence) ∧ fits 1 flags)
  deriving Decidable

/-- `ipv4_frame`, or nothing where it raises.  The numbers that are packed of
a sequence are the same for all sequences with the same last four bytes. -/
def ipv4Frame? (sourceMac destinationMac sourceIp destinationIp : String)
    (port sequence : Int) (udp : Bool) (flags : Int)
    (reverse : Bool) : Option Bytes := do
  let src ← ipv4? sourceIp
  let dst ← ipv4? destinationIp
  let source ← macBytes? sourceMac
  let destination ← macBytes? destinationMac
  if segmentFits udp reverse port sequence flags then
    some (ipv4FrameOf source destination src dst port.toNat
        (sequence % 4294967296).toNat udp flags.toNat reverse)
  else
    none

/-! ## Padding -/

/-- Where the packet of a frame begins, and its EtherType. -/
def packetStart (frame : Bytes) : Except Denied (Nat × Bytes) :=
  if (frame.drop 12).take 2 = [129, 0] then do
    require (18 ≤ frame.length) "packet_vlan_invalid"
    pure (18, (frame.drop 16).take 2)
  else
    pure (14, (frame.drop 12).take 2)

/-- Where the packet of a frame ends. -/
def packetEnd
    (frame : Bytes) (offset : Nat) (kind : Bytes) : Except Denied Nat :=
  if kind = [8, 0] then do
    require (offset + 20 ≤ frame.length) "packet_ipv4_short"
    pure (offset + Bytes.number ((frame.drop (offset + 2)).take 2))
  else if kind = [134, 221] then do
    require (offset + 40 ≤ frame.length) "packet_ipv6_short"
    pure (offset + 40 + Bytes.number ((frame.drop (offset + 4)).take 2))
  else
    .error ⟨"packet_ethertype_invalid"⟩

/-- `unpad`. -/
def unpad (frame : Bytes) : Except Denied Bytes := do
  require (14 ≤ frame.length ∧ frame.length ≤ 128) "packet_frame_invalid"
  let (offset, kind) ← packetStart frame
  let last ← packetEnd frame offset kind
  require (offset < last ∧ last ≤ frame.length ∧ (frame.length = last ∨
        frame.length ≤ 60 ∧
          frame.drop last = List.replicate (frame.length - last) 0))
    "packet_padding_invalid"
  pure (frame.take last)

/-! ## Classification -/

/-- What a reply proves. -/
inductive PathOpen where
  | rst
  | synack

/-- The loop over the options of a segment, with the bytes that are still to
be skipped of the last one. -/
def scanOptions : Nat → Bytes → Bool
  | _, [] => true
  | skip + 1, _ :: rest => scanOptions skip rest
  | 0, option :: rest =>
      if option = 0 then
        rest.all fun byte => byte = 0
      else if option = 1 then
        scanOptions 0 rest
      else
        match rest with
        | [] => false
        | size :: more =>
            decide (2 ≤ size.toNat ∧ size.toNat ≤ more.length + 2) &&
              scanOptions (size.toNat - 2) more

/-- `classify_reply`. -/
def classifyReply (probe : Probe) (binding : NetworkBinding)
    (frame : Bytes) : Except Denied PathOpen := do
  let frame ← unpad frame
  require (54 ≤ frame.length ∧ frame.take 14 =
        mac binding.runner.mac ++ mac binding.target.mac ++ [8, 0])
    "reply_l2_invalid"
  let ip := (frame.drop 14).take 20
  let tcp := frame.drop 34
  require (ip.getD 0 0 = 69 ∧ ip.getD 9 0 = 6 ∧ checksum ip = 0 ∧
      (ip.drop 12).take 4 = packed binding.target.ipv4 ∧
      (ip.drop 16).take 4 = packed binding.runner.ipv4 ∧
      Bytes.number ((ip.drop 2).take 2) = frame.length - 14 ∧
      Bytes.number ((ip.drop 6).take 2) % 16384 = 0)
    "reply_ipv4_invalid"
  let pseudo := (ip.drop 12).take 8 ++ [0, 6] ++ pack16 tcp.length
  let words := (tcp.getD 12 0).toNat / 16
  require (Bytes.number (tcp.take 2) = 8080 ∧
      Bytes.number ((tcp.drop 2).take 2) = 49152 ∧
      Bytes.number ((tcp.drop 8).take 4) = probe.sequence + 1 ∧
      20 ≤ words * 4 ∧ words * 4 = tcp.length ∧ tcp.length ≤ 60 ∧
      (tcp.getD 12 0).toNat % 16 = 0 ∧
      checksum (pseudo ++ tcp) = 0 ∧
      (tcp.getD 13 0 = 18 ∨ tcp.getD 13 0 = 20))
    "reply_flow_invalid"
  require (scanOptions 0 (tcp.drop 20) = true) "reply_option_invalid"
  pure (if tcp.getD 13 0 = 20 then .rst else .synack)

end TicketSandbox.Firewall
