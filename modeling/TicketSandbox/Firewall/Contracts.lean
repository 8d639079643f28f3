import TicketSandbox.Library.Raises
import TicketSandbox.Runtime.Contracts

namespace TicketSandbox.Firewall

/-!
# Addresses

The texts of interfaces, MAC addresses and IPv4 addresses as
`trusted_checker_network/contracts.py` checks them, and their bytes as
`packets.py` and the standard library read them.
-/

/-- A byte string. -/
abbrev Bytes := List UInt8

/-- The number a byte string is in network order. -/
def Bytes.number (bytes : Bytes) : Nat :=
  bytes.foldl (fun value byte => value * 256 + byte.toNat) 0

/-- The decimal digit a character is. -/
def digit? (char : Char) : Option Nat :=
  "0123456789".toList.idxOf? char

/-- The lowercase hexadecimal digit a character is. -/
def hexDigit? (char : Char) : Option Nat :=
  "0123456789abcdef".toList.idxOf? char

/-- The number a text of decimal digits is. -/
def decimal? (text : List Char) : Option Nat :=
  if text = [] then
    none
  else
    text.foldl (fun value? char => do
        let value ← value?
        let digit ← digit? char
        pure (value * 10 + digit))
      (some 0)

/-! ## IPv4 -/

/-- An octet of a dotted text: no sign, no leading zero, at most 255. -/
def octet? (text : List Char) : Option UInt8 :=
  if 3 < text.length ∨ (text ≠ ['0'] ∧ text.head? = some '0') then
    none
  else
    match decimal? text with
    | some value => if value ≤ 255 then some (UInt8.ofNat value) else none
    | none => none

/-- The bytes of `ipaddress.IPv4Address(value)`. -/
def ipv4? (value : String) : Option Bytes :=
  match (value.toList.splitOn '.').map octet? with
  | [some first, some second, some third, some fourth] =>
      some [first, second, third, fourth]
  | _ => none

/-- The text of an octet. -/
def octetText (octet : UInt8) : List Char :=
  Nat.toDigits 10 octet.toNat

/-- `str(ip)` of the bytes of an address. -/
def ipv4Text (bytes : Bytes) : List Char :=
  ['.'].intercalate (bytes.map octetText)

/-- `IPv4Network`: its lowest and its highest address and its prefix. -/
structure Subnet where
  first : Nat
  last : Nat
  prefixLength : Nat

/-- The subnet of an address and a prefix length. -/
def Subnet.of (address prefixLength : Nat) : Subnet where
  first := address
  last := address + 1 <<< (32 - prefixLength) - 1
  prefixLength := prefixLength

/-- Whether an address is in a subnet. -/
def Subnet.Has (subnet : Subnet) (address : Nat) : Prop :=
  subnet.first ≤ address ∧ address ≤ subnet.last
  deriving Decidable

/-- The private networks. -/
def privateNetworks : List Subnet :=
  [.of (10 <<< 24) 8, .of (172 <<< 24 + 16 <<< 16) 12,
    .of (192 <<< 24 + 168 <<< 16) 16]

/-- What `private_ip` asks of an address. -/
def IsPrivateIp (value : String) : Prop :=
  ∃ bytes ∈ ipv4? value, ipv4Text bytes = value.toList ∧
      ∃ network ∈ privateNetworks, network.Has bytes.number
  deriving Decidable

/-- `_make_netmask`: a prefix length, a netmask or a host mask. -/
def prefixLength? (mask : String) : Option Nat :=
  match decimal? mask.toList with
  | some length => if length ≤ 32 then some length else none
  | none => do
      let address := Bytes.number (← ipv4? mask)
      let lengths := List.range 33
      ((lengths.find? fun length => 1 <<< 32 - 1 <<< (32 - length) = address).or
        (lengths.find? fun length => 1 <<< (32 - length) - 1 = address))

/-- `ipaddress.IPv4Network(value, strict=True)`. -/
def subnet? (value : String) : Option Subnet := do
  let (address, length) ←
    match value.toList.splitOn '/' with
    | [address] => some (address, 32)
    | [address, mask] => do
        pure (address, ← prefixLength? (String.ofList mask))
    | _ => none
  let first := Bytes.number (← ipv4? (String.ofList address))
  if first % 1 <<< (32 - length) = 0 then some (.of first length) else none

/-! ## MAC addresses and interfaces -/

/-- The byte two lowercase hexadecimal digits are. -/
def hexByte? (high low : Char) : Option UInt8 := do
  pure (UInt8.ofNat (16 * (← hexDigit? high) + (← hexDigit? low)))

/-- `mac` of a text of six pairs of lowercase hexadecimal digits. -/
def mac? (value : String) : Option Bytes :=
  match value.toList with
  | [a, b, ':', c, d, ':', e, f, ':', g, h, ':', i, j, ':', k, l] => do
      pure [← hexByte? a b, ← hexByte? c d, ← hexByte? e f,
        ← hexByte? g h, ← hexByte? i j, ← hexByte? k l]
  | _ => none

/-- The MAC address of a port is locally administered: `02:…`. -/
def IsPortMac (value : String) : Prop :=
  ∃ bytes ∈ mac? value, bytes.head? = some 2
  deriving Decidable

/-- `veth[a-zA-Z0-9]{1,10}`. -/
def IsVeth (value : String) : Prop :=
  value.toList.take 4 = "veth".toList ∧ 4 < value.toList.length ∧
    value.toList.length ≤ 14 ∧
    ∀ char ∈ value.toList.drop 4, char.isAlphanum

instance (value : String) : Decidable (IsVeth value) :=
  haveI : Decidable (∀ char ∈ value.toList.drop 4, char.isAlphanum) :=
    List.decidableBAll _ _
  inferInstanceAs (Decidable (_ ∧ _ ∧ _ ∧ _))

/-! ## Reading -/

variable {value other : String} {bytes : Bytes} {char : Char} {digit : Nat}

theorem ipv4?_length (read : ipv4? value = some bytes) : bytes.length = 4 := by
  unfold ipv4? at read
  split at read
  · cases read
    rfl
  · cases read

theorem IsPrivateIp.injective
    (isPrivate : IsPrivateIp value) (otherPrivate : IsPrivateIp other)
    (same : ipv4? value = ipv4? other) :
    value = other := by
  obtain ⟨bytes, read, text, _⟩ := isPrivate
  obtain ⟨otherBytes, otherRead, otherText, _⟩ := otherPrivate
  have sameBytes : bytes = otherBytes :=
    Option.some.inj (read.symm.trans (same.trans otherRead))
  subst otherBytes
  exact String.toList_injective (text.symm.trans otherText)

theorem IsPrivateIp.exists_bytes
    (isPrivate : IsPrivateIp value) : ∃ bytes, ipv4? value = some bytes := by
  obtain ⟨bytes, read, _⟩ := isPrivate
  exact ⟨bytes, read⟩

theorem hexDigit?_lt (read : hexDigit? char = some digit) : digit < 16 :=
  (List.findIdx?_eq_some_iff_getElem.mp read).1

theorem hexDigit?_injective {other : Char} (read : hexDigit? char = some digit)
    (otherRead : hexDigit? other = some digit) :
    char = other := by
  obtain ⟨_, isChar, _⟩ := List.findIdx?_eq_some_iff_getElem.mp read
  obtain ⟨_, isOther, _⟩ := List.findIdx?_eq_some_iff_getElem.mp otherRead
  exact (beq_iff_eq.mp isChar).symm.trans (beq_iff_eq.mp isOther)

theorem hexByte?_injective {high low otherHigh otherLow : Char} {byte : UInt8}
    (read : hexByte? high low = some byte)
    (otherRead : hexByte? otherHigh otherLow = some byte) :
    high = otherHigh ∧ low = otherLow := by
  simp only [hexByte?, Option.bind_eq_bind, Option.pure_def,
    Option.bind_eq_some_iff, Option.some.injEq] at read otherRead
  obtain ⟨a, readHigh, b, readLow, value⟩ := read
  obtain ⟨c, readOtherHigh, d, readOtherLow, otherValue⟩ := otherRead
  have aLt := hexDigit?_lt readHigh
  have bLt := hexDigit?_lt readLow
  have cLt := hexDigit?_lt readOtherHigh
  have dLt := hexDigit?_lt readOtherLow
  have sameByte := congrArg UInt8.toNat (value.trans otherValue.symm)
  simp only [UInt8.toNat_ofNat'] at sameByte
  have sameHigh : a = c := by omega
  have sameLow : b = d := by omega
  subst sameHigh sameLow
  exact ⟨hexDigit?_injective readHigh readOtherHigh,
    hexDigit?_injective readLow readOtherLow⟩

theorem mac?_length (read : mac? value = some bytes) : bytes.length = 6 := by
  unfold mac? at read
  split at read
  · simp only [Option.bind_eq_bind, Option.pure_def,
      Option.bind_eq_some_iff, Option.some.injEq] at read
    obtain ⟨_, _, _, _, _, _, _, _, _, _, _, _, rfl⟩ := read
    rfl
  · cases read

theorem mac?_injective
    (read : mac? value = some bytes) (otherRead : mac? other = some bytes) :
    value = other := by
  unfold mac? at read otherRead
  split at read
  case h_2 => cases read
  case h_1 text =>
    split at otherRead
    case h_2 => cases otherRead
    case h_1 otherText =>
      simp only [Option.bind_eq_bind, Option.pure_def,
        Option.bind_eq_some_iff, Option.some.injEq] at read otherRead
      obtain ⟨_, r0, _, r1, _, r2, _, r3, _, r4, _, r5, rfl⟩ := read
      obtain ⟨_, o0, _, o1, _, o2, _, o3, _, o4, _, o5, same⟩ := otherRead
      simp only [List.cons.injEq, and_true] at same
      obtain ⟨rfl, rfl, rfl, rfl, rfl, rfl⟩ := same
      obtain ⟨rfl, rfl⟩ := hexByte?_injective r0 o0
      obtain ⟨rfl, rfl⟩ := hexByte?_injective r1 o1
      obtain ⟨rfl, rfl⟩ := hexByte?_injective r2 o2
      obtain ⟨rfl, rfl⟩ := hexByte?_injective r3 o3
      obtain ⟨rfl, rfl⟩ := hexByte?_injective r4 o4
      obtain ⟨rfl, rfl⟩ := hexByte?_injective r5 o5
      exact String.toList_injective (text.trans otherText.symm)

/-- The address of a port has bytes. -/
theorem IsPortMac.exists_bytes
    (isPortMac : IsPortMac value) : ∃ bytes, mac? value = some bytes := by
  obtain ⟨bytes, read, _⟩ := isPortMac
  exact ⟨bytes, read⟩

example : ipv4? "172.31.255.254" = some [172, 31, 255, 254] := by
  decide

example : ipv4? "10.0.0.02" = none := by
  decide

example : mac? "02:00:00:00:0a:ff" = some [2, 0, 0, 0, 10, 255] := by
  decide

end TicketSandbox.Firewall

namespace TicketSandbox.Firewall

/-!
# Contracts of the network proof

`trusted_checker_network/contracts.py`: the two ports an operator approves and
the binding they are part of, with what the constructors check.  Identifiers
with a fixed text format are left as they are; the addresses are checked.
-/

open Raises
open TicketSandbox.Runtime
    (DaemonIdentity Digest DockerTime NetworkProfile Uuid)
open TicketSandbox.Sandbox (Timestamp)

/-- `Denied`. -/
structure Denied where
  reason : String
  deriving Repr, DecidableEq

/-- Raise `Denied` unless the condition holds. -/
def require (condition : Prop) [Decidable condition]
    (reason : String) : Except Denied Unit :=
  ensure condition ⟨reason⟩

theorem require_ok
    {condition : Prop} [Decidable condition] {reason : String} {result : Unit} :
    require condition reason = .ok result ↔ condition :=
  ensure_ok

/-- `private_ip`. -/
def privateIp (value : String) : Except Denied Unit :=
  require (IsPrivateIp value) "private_ipv4_required"

/-- What `NetworkProfile` checks of its addresses. -/
def NetworkProfile.checkAddresses
    (network : NetworkProfile) : Except Denied Unit := do
  let net ← required ⟨"network_address_invalid"⟩ (subnet? network.subnet)
  let target ← required ⟨"network_address_invalid"⟩ (ipv4? network.targetIpv4)
  let runner ← required ⟨"network_address_invalid"⟩ (ipv4? network.runnerIpv4)
  require (24 ≤ net.prefixLength ∧ net.prefixLength ≤ 28 ∧
      ∃ base ∈ privateNetworks, base.first ≤ net.first ∧ net.last ≤ base.last)
    "network_subnet_invalid"
  require (target ≠ runner ∧ (∀ ip ∈ [Bytes.number target, Bytes.number runner],
        net.Has ip ∧ ip ≠ net.first ∧ ip ≠ net.last) ∧
      ipv4Text target = network.targetIpv4.toList ∧
      ipv4Text runner = network.runnerIpv4.toList)
    "network_endpoint_invalid"

/-- `NamespaceIdentity`. -/
structure NamespaceIdentity where
  containerId : String
  pid : Nat
  processStartTicks : Nat
  netnsInode : Nat
  dockerStartedAt : DockerTime
  restartCount : Nat
  endpointId : String
  interface : String
  ifindex : Nat
  peerIfindex : Nat
  mac : String
  ipv4 : String
  deriving Repr, DecidableEq

/-- `NamespaceIdentity.__post_init__`. -/
def NamespaceIdentity.postInit
    (identity : NamespaceIdentity) : Except Denied Unit := do
  require (0 < identity.pid ∧ 0 < identity.processStartTicks ∧
      0 < identity.netnsInode ∧ 0 < identity.ifindex ∧
      0 < identity.peerIfindex ∧ 1 < identity.pid ∧
      identity.restartCount = 0)
    "namespace_identity_invalid"
  require (IsVeth identity.interface ∧ IsPortMac identity.mac)
    "physical_port_invalid"
  privateIp identity.ipv4

/-- `NetworkBinding`. -/
structure NetworkBinding where
  hostBootUuid : Uuid
  hostIdentityDigest : Digest
  hostNetnsInode : Nat
  daemon : DaemonIdentity
  scope : String
  runtimeApprovalDigest : Digest
  runtimeBindingUuid : Uuid
  generationUuid : Uuid
  networkId : String
  bridgeName : String
  bridgeIfindex : Nat
  bridgeMac : String
  target : NamespaceIdentity
  runner : NamespaceIdentity
  gatewayIpv4 : String
  otherIpv4 : String
  dbIpv4 : String
  redisIpv4 : String
  djangoIpv4 : String
  deriving Repr, DecidableEq

/-- The addresses of a binding, which must all differ. -/
def NetworkBinding.ips (binding : NetworkBinding) : List String :=
  [binding.target.ipv4, binding.runner.ipv4, binding.gatewayIpv4,
    binding.otherIpv4, binding.dbIpv4, binding.redisIpv4,
    binding.djangoIpv4]

/-- `NetworkBinding.__post_init__`. -/
def NetworkBinding.postInit
    (binding : NetworkBinding) : Except Denied Unit := do
  require (binding.bridgeName = "tcsh0" ∧ 0 < binding.bridgeIfindex ∧
      0 < binding.hostNetnsInode)
    "host_binding_invalid"
  binding.target.postInit
  binding.runner.postInit
  require (binding.target.containerId ≠ binding.runner.containerId ∧
      binding.target.netnsInode ≠ binding.runner.netnsInode ∧
      binding.target.ifindex ≠ binding.runner.ifindex ∧
      binding.target.interface ≠ binding.runner.interface ∧
      binding.target.mac ≠ binding.runner.mac)
    "namespace_alias_rejected"
  require ((mac? binding.bridgeMac).isSome = true) "bridge_mac_invalid"
  binding.ips.forM privateIp
  require binding.ips.Nodup "negative_endpoint_alias_rejected"

/-- `NetworkPolicy`: the priorities of the compiled chains. -/
def bridgePriority : Int :=
  0

/-- `POLICY.inet_priority`. -/
def inetPriority : Int :=
  -310

/-- `POLICY.apply_seconds`. -/
def applySeconds : Timestamp :=
  1000000

/-! ## What the constructors establish -/

/-- What `NamespaceIdentity` establishes of a port. -/
structure NamespaceIdentity.IsPort (identity : NamespaceIdentity) : Prop where
  ifindex_positive : 0 < identity.ifindex
  interface_veth : IsVeth identity.interface
  mac_local : IsPortMac identity.mac
  ipv4_private : IsPrivateIp identity.ipv4

theorem NamespaceIdentity.postInit_ok
    {identity : NamespaceIdentity} (constructed : identity.postInit = .ok ()) :
    identity.IsPort := by
  simp only [postInit, privateIp, bind_ok, require_ok,
    exists_const] at constructed
  obtain ⟨⟨_, _, _, ifindexPositive, _⟩, ⟨interfaceVeth, macLocal⟩,
    isPrivate⟩ := constructed
  exact ⟨ifindexPositive, interfaceVeth, macLocal, isPrivate⟩

/-- What `NetworkBinding` establishes of the addresses. -/
structure NetworkBinding.IsBound (binding : NetworkBinding) : Prop where
  target_port : binding.target.IsPort
  runner_port : binding.runner.IsPort
  ifindex_distinct : binding.target.ifindex ≠ binding.runner.ifindex
  interface_distinct : binding.target.interface ≠ binding.runner.interface
  mac_distinct : binding.target.mac ≠ binding.runner.mac
  bridge_mac : ∃ bytes, mac? binding.bridgeMac = some bytes
  ips_private : ∀ value ∈ binding.ips, IsPrivateIp value
  ips_distinct : binding.ips.Nodup

theorem forM_privateIp_ok {values : List String} {result : Unit} :
    values.forM privateIp = .ok result ↔
      ∀ value ∈ values, IsPrivateIp value := by
  induction values with
  | nil => simp [pure, Except.pure]
  | cons value rest inductionHypothesis =>
      change (privateIp value >>= fun _ => rest.forM privateIp) = .ok result ↔ _
      simp only [privateIp, bind_ok, require_ok, exists_const,
        inductionHypothesis, List.forall_mem_cons]

/-- A binding that is constructed is bound. -/
theorem NetworkBinding.postInit_ok
    {binding : NetworkBinding} (constructed : binding.postInit = .ok ()) :
    binding.IsBound := by
  simp only [postInit, bind_ok, require_ok, exists_const,
    forM_privateIp_ok] at constructed
  obtain ⟨_, _, targetPort, _, runnerPort, ⟨_, _, ifindices, interfaces,
    macs⟩, bridgeMac, isPrivate, distinct⟩ := constructed
  exact
    { target_port := NamespaceIdentity.postInit_ok targetPort
      runner_port := NamespaceIdentity.postInit_ok runnerPort
      ifindex_distinct := ifindices
      interface_distinct := interfaces
      mac_distinct := macs
      bridge_mac := Option.isSome_iff_exists.mp bridgeMac
      ips_private := isPrivate
      ips_distinct := distinct }

end TicketSandbox.Firewall
