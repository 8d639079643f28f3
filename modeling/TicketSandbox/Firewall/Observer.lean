import TicketSandbox.Firewall.DefaultDeny
import TicketSandbox.Firewall.ProbeFacts
import TicketSandbox.Firewall.RecipeFacts

namespace TicketSandbox.Firewall

/-!
# The counter recipe as an observer

The recipe gives every frame the verdict of the approved rules, and each probe
tests what it says, exactly when the runner does not have the address that the
spoofing probe pretends to have.
-/

open Filters (Verdict)
open Raises
open TicketSandbox.Runtime (RuntimeApproval Uuid)

/-! ## What the probes test -/

/-- The port of a namespace on the host. -/
def NamespaceIdentity.hostPort (identity : NamespaceIdentity) : Port where
  name := identity.interface
  index := identity.ifindex

/-- A probe as it enters through the port of the runner. -/
def probePacket (binding : NetworkBinding) (probe : Probe) (oif : Option Port)
    (established : Bool) : Packet where
  frame := probe.frame
  iif := some binding.runner.hostPort
  oif := oif
  established := established

/-- One transaction gives every packet the verdict of another. -/
def SameVerdicts (commands others : List Command) : Prop :=
  ∀ (family : Family), ∀ hook ∈ family.hooks, ∀ packet : Packet,
    hookVerdict commands family hook packet =
      hookVerdict others family hook packet

/-- The rules let the first probe pass and drop every other one. -/
structure TestsMatrix (binding : NetworkBinding) (rules : List Command)
    (probes : List Probe) : Prop where
  fifteen : probes.length = 15
  first : ∀ probe ∈ probes.head?, ∀ established,
      hookVerdict rules .bridge .prerouting
          (probePacket binding probe none established) = .accept ∧
        hookVerdict rules .bridge .forward
          (probePacket binding probe (some binding.target.hostPort)
            established) = .accept
  others : ∀ probe ∈ probes.tail, ∀ established,
      hookVerdict rules .bridge .prerouting
        (probePacket binding probe none established) = .drop

/-- The recipe treats every packet as the rules do, and the probes that are
planned and sampled exercise one that passes and fourteen that are dropped. -/
structure Observes (hashes : Hashes) (binding : NetworkBinding) (context : Uuid)
    (recipe rules : List Command) : Prop where
  same : SameVerdicts recipe rules
  plan_tests :
    ∀ matrixUuid, TestsMatrix binding rules (plan hashes binding matrixUuid)
  sample_tests : TestsMatrix binding rules (samplePlan hashes binding context)

/-- The address that the spoofing probes pretend to have. -/
def spoofedIpv4 : String :=
  "172.31.255.254"

/-! ## Denied frames -/

/-- A frame of the runner that is neither ARP nor a request. -/
structure IsDenied (binding : NetworkBinding) (frame : Frame) : Prop where
  sender : frame.slice? 6 6 = mac? binding.runner.mac
  no_arp : frame.etherType? ≠ some [8, 6]
  no_request : frame.etherType? ≠ some [8, 0] ∨
      frame.ipv4? 12 4 ≠ ipv4? binding.runner.ipv4 ∨
      frame.ipv4? 16 4 ≠ ipv4? binding.target.ipv4 ∨
      frame.tcp? 2 2 ≠ some port8080

variable {binding : NetworkBinding} {packet : Packet}
  {approval : RuntimeApproval} {commands rules approved : List Command}
  {dest source etherType payload head src dst rest dm : Bytes}
  {port sequence : Nat}
  {destinationMac sourceIp destinationIp case ip : String} {iif : Port}

theorem IsDenied.not_selected
    (isBound : binding.IsBound) (denied : IsDenied binding packet.frame) :
    ¬ Selects binding.runner binding.target false packet iif ∧
      ¬ Selects binding.target binding.runner true packet iif := by
  have noArp {source dest : NamespaceIdentity} {operation : Bytes} :
      ¬ IsArpPacket source dest operation packet.frame := by
    intro isArp
    exact denied.no_arp (Frame.etherType_of_arp isArp.operation)
  constructor
  · rintro ⟨_, ⟨isTcp, dport⟩ | isArp | isArp⟩
    · obtain ⟨src, readSrc, isSrc⟩ := isTcp.source_ip
      obtain ⟨dst, readDst, isDst⟩ := isTcp.dest_ip
      rcases denied.no_request with otherType | otherSrc | otherDst | otherPort
      · exact otherType (Frame.etherType_of_ipv4 readSrc)
      · exact otherSrc (readSrc.trans isSrc.symm)
      · exact otherDst (readDst.trans isDst.symm)
      · exact otherPort dport
    · exact noArp isArp
    · exact noArp isArp
  · rintro ⟨isFrom, _⟩
    obtain ⟨bytes, read, isTarget⟩ := isFrom.mac
    have isRunner : mac? binding.runner.mac = some bytes :=
      denied.sender.symm.trans read
    exact isBound.mac_distinct (mac?_injective isTarget isRunner)

theorem IsDenied.dropped
    (active : IsActive approval binding commands) (isBound : binding.IsBound)
    (enters : packet.iif = some iif) (denied : IsDenied binding packet.frame) :
    hookVerdict commands .bridge .prerouting packet = .drop := by
  cases decided : hookVerdict commands .bridge .prerouting packet with
  | drop => rfl
  | accept =>
      rw [active.passing (Or.inl rfl) enters, bridge_accepts enters] at decided
      obtain ⟨noRequest, noReply⟩ := denied.not_selected isBound
      rcases decided with ⟨selected, _⟩ | ⟨selected, _⟩
      · exact (noRequest selected).elim
      · exact (noReply selected).elim

/-- A frame is denied however long it is padded. -/
def Denies (binding : NetworkBinding) (frame : Frame) : Prop :=
  ∀ more, IsDenied binding (frame ++ more)

variable {frame : Bytes}

theorem HasEthernet.denies
    (layout : HasEthernet frame dest source etherType payload)
    (isRunner : mac? binding.runner.mac = some source)
    (noArp : etherType ≠ [8, 6]) (noIpv4 : etherType ≠ [8, 0]) :
    Denies binding frame := by
  intro more
  have longer := layout.append more
  have isType := longer.type_eq
  exact
    { sender := longer.source_eq.trans isRunner.symm
      no_arp := by
        rw [isType]
        exact fun same => noArp (Option.some.inj same)
      no_request := Or.inl (by
        rw [isType]
        exact fun same => noIpv4 (Option.some.inj same)) }

theorem HasIpv4.denies (layout : HasIpv4 frame dest source head src dst rest)
    (isRunner : mac? binding.runner.mac = some source) (otherAddress :
      some src ≠ ipv4? binding.runner.ipv4 ∨
        some dst ≠ ipv4? binding.target.ipv4) :
    Denies binding frame := by
  intro more
  have longer := layout.append more
  refine
    { sender := longer.ethernet.source_eq.trans isRunner.symm
      no_arp := ?_
      no_request := Or.inr ?_ }
  · rw [longer.ethernet.type_eq]
    decide
  · rw [longer.src_eq, longer.dst_eq]
    rcases otherAddress with otherSrc | otherDst
    · exact Or.inl otherSrc
    · exact Or.inr (Or.inl otherDst)

theorem HasTcp.denies (tcp : HasTcp head rest port)
    (layout : HasIpv4 frame dest source head src dst rest)
    (isRunner : mac? binding.runner.mac = some source)
    (otherPort : pack16 port ≠ port8080) :
    Denies binding frame := by
  intro more
  have longer := layout.append more
  refine
    { sender := longer.ethernet.source_eq.trans isRunner.symm
      no_arp := ?_
      no_request := Or.inr (Or.inr (Or.inr ?_)) }
  · rw [longer.ethernet.type_eq]
    decide
  · rw [tcp.dport_eq longer]
    exact fun same => otherPort (Option.some.inj same)

/-! ## Each probe -/

/-- A frame is denied, and so is what sampling makes of it. -/
def DeniesProbe (binding : NetworkBinding) (frame : Frame) : Prop :=
  Denies binding frame ∧ ∀ token, Denies binding (sampleFrame frame token)

theorem ipv4Frame_denied (isBound : binding.IsBound)
    (readDestination : mac? destinationMac = some dm)
    (readSrc : ipv4? sourceIp = some src)
    (readDst : ipv4? destinationIp = some dst) (otherAddress :
      ipv4? sourceIp ≠ ipv4? binding.runner.ipv4 ∨
        ipv4? destinationIp ≠ ipv4? binding.target.ipv4)
    (port sequence : Nat) (udp : Bool) :
    DeniesProbe binding
      (ipv4Frame binding.runner.mac destinationMac sourceIp destinationIp
        port sequence udp 2 false) := by
  obtain ⟨sm, readSource⟩ := isBound.runner_port.mac_local.exists_bytes
  have layout :=
    ipv4Frame_layout readSource readDestination readSrc readDst port sequence
      udp
  rw [readSrc, readDst] at otherAddress
  refine ⟨layout.denies readSource otherAddress, fun token => ?_⟩
  obtain ⟨head, rest, sampled⟩ := layout.sampled token
  exact sampled.denies readSource otherAddress

theorem ipv4Frame_denied_port (isBound : binding.IsBound)
    (readDestination : mac? destinationMac = some dm)
    (readSrc : ipv4? sourceIp = some src)
    (readDst : ipv4? destinationIp = some dst)
    (otherPort : pack16 port ≠ port8080) (sequence : Nat) :
    DeniesProbe binding
      (ipv4Frame binding.runner.mac destinationMac sourceIp destinationIp
        port sequence false 2 false) := by
  obtain ⟨sm, readSource⟩ := isBound.runner_port.mac_local.exists_bytes
  have layout :=
    ipv4Frame_layout readSource readDestination readSrc readDst port sequence
      false
  have tcp := probeHead_tcp src dst port sequence
  refine ⟨tcp.denies layout readSource otherPort, fun token => ?_⟩
  rw [tcp.sampled layout token]
  exact tcp.denies layout readSource otherPort

theorem HasEthernet.deniesProbe
    (layout : HasEthernet frame dest source etherType payload)
    (isRunner : mac? binding.runner.mac = some source)
    (noArp : etherType ≠ [8, 6]) (noIpv4 : etherType ≠ [8, 0]) :
    DeniesProbe binding frame := by
  refine ⟨layout.denies isRunner noArp noIpv4, fun token => ?_⟩
  obtain ⟨other, sampled⟩ := layout.sampled token
  exact sampled.denies isRunner noArp noIpv4

theorem destinationMac_read (isBound : binding.IsBound) (ip : String) :
    ∃ dm, mac? (if ip = binding.target.ipv4 then
        binding.target.mac
      else
        binding.bridgeMac) = some dm := by
  split
  · exact isBound.target_port.mac_local.exists_bytes
  · exact isBound.bridge_mac

theorem probeFrame_plain (noIpv6 : case ≠ "deny_ipv6")
    (noSpoofing : case ≠ "deny_spoofing") (port sequence : Nat) (udp : Bool) :
    probeFrame binding case ip port sequence udp = ipv4Frame binding.runner.mac
        (if ip = binding.target.ipv4 then
          binding.target.mac
        else
          binding.bridgeMac)
        binding.runner.ipv4 ip port sequence udp 2 false := by
  simp only [probeFrame, if_neg noIpv6, noSpoofing, false_and, ↓reduceIte]

theorem probeFrame_denied
    (isBound : binding.IsBound) (noIpv6 : case ≠ "deny_ipv6")
    (noSpoofing : case ≠ "deny_spoofing") (readDst : ipv4? ip = some dst)
    (otherAddress : ipv4? ip ≠ ipv4? binding.target.ipv4) (port sequence : Nat)
    (udp : Bool) :
    DeniesProbe binding (probeFrame binding case ip port sequence udp) := by
  obtain ⟨dm, readDestination⟩ := destinationMac_read isBound ip
  obtain ⟨src, readSrc⟩ := isBound.runner_port.ipv4_private.exists_bytes
  rw [probeFrame_plain noIpv6 noSpoofing]
  exact ipv4Frame_denied isBound readDestination readSrc readDst
    (Or.inr otherAddress) port sequence udp

theorem probeFrame_denied_port (isBound : binding.IsBound)
    (noIpv6 : case ≠ "deny_ipv6") (noSpoofing : case ≠ "deny_spoofing")
    (otherPort : pack16 port ≠ port8080) (sequence : Nat) :
    DeniesProbe binding
      (probeFrame binding case binding.target.ipv4 port sequence false) := by
  obtain ⟨dm, readDestination⟩ :=
    destinationMac_read isBound binding.target.ipv4
  obtain ⟨src, readSrc⟩ := isBound.runner_port.ipv4_private.exists_bytes
  obtain ⟨dst, readDst⟩ := isBound.target_port.ipv4_private.exists_bytes
  rw [probeFrame_plain noIpv6 noSpoofing]
  exact ipv4Frame_denied_port isBound readDestination readSrc readDst
    otherPort sequence

theorem probeFrame_denied_ipv6 (isBound : binding.IsBound) (ip : String)
    (port sequence : Nat) (udp : Bool) :
    DeniesProbe binding
      (probeFrame binding "deny_ipv6" ip port sequence udp) := by
  obtain ⟨dm, readDestination⟩ := destinationMac_read isBound ip
  obtain ⟨sm, readSource⟩ := isBound.runner_port.mac_local.exists_bytes
  have isFrame : probeFrame binding "deny_ipv6" ip port sequence udp =
        ipv6Frame binding.runner.mac (if ip = binding.target.ipv4 then
            binding.target.mac
          else
            binding.bridgeMac)
          sequence := by
    simp only [probeFrame, ↓reduceIte]
  have layout : ∃ payload,
        HasEthernet (probeFrame binding "deny_ipv6" ip port sequence udp) dm
          sm [134, 221] payload := by
    rw [isFrame]
    simp only [ipv6Frame, mac, readSource, readDestination,
      Option.getD_some, List.append_assoc]
    exact ⟨_, rfl, mac?_length readDestination, mac?_length readSource, rfl⟩
  obtain ⟨payload, ethernet⟩ := layout
  exact ethernet.deniesProbe readSource (by decide) (by decide)

theorem probeFrame_denied_tagged
    (isBound : binding.IsBound) (port sequence : Nat) :
    DeniesProbe binding
      (probeFrame binding "deny_spoofing" binding.target.ipv4 port sequence
        true) := by
  obtain ⟨dm, readDestination⟩ :=
    destinationMac_read isBound binding.target.ipv4
  obtain ⟨sm, readSource⟩ := isBound.runner_port.mac_local.exists_bytes
  obtain ⟨dst, readDst⟩ := isBound.target_port.ipv4_private.exists_bytes
  have readSrc : ipv4? "172.31.255.254" = some [172, 31, 255, 254] := by
    decide
  have layout :=
    ipv4Frame_layout readSource readDestination readSrc readDst port sequence
      true
  have twelve : (dm ++ sm).length = 12 := by
    rw [List.length_append, layout.ethernet.dest_length,
      layout.ethernet.source_length]
  have front : (ipv4Frame binding.runner.mac
        (if binding.target.ipv4 = binding.target.ipv4 then
          binding.target.mac
        else
          binding.bridgeMac)
        "172.31.255.254" binding.target.ipv4 port sequence true 2
        false).take 12 = dm ++ sm := by
    rw [layout.ethernet.split, ← List.append_assoc, ← twelve, List.take_left]
  have isFrame :
      probeFrame binding "deny_spoofing" binding.target.ipv4 port sequence
          true =
        dm ++ (sm ++ ([129, 0] ++ ([0, 1] ++ (ipv4Frame binding.runner.mac
            (if binding.target.ipv4 = binding.target.ipv4 then
              binding.target.mac
            else
              binding.bridgeMac)
            "172.31.255.254" binding.target.ipv4 port sequence true 2
            false).drop 12))) := by
    have noIpv6 : "deny_spoofing" ≠ "deny_ipv6" := by
      decide
    simp only [probeFrame, if_neg noIpv6, and_self, ↓reduceIte] at front ⊢
    rw [front]
    simp only [List.append_assoc]
    rfl
  have ethernet : HasEthernet
        (probeFrame binding "deny_spoofing" binding.target.ipv4 port sequence
          true)
        dm sm [129, 0] _ :=
    ⟨isFrame, layout.ethernet.dest_length, layout.ethernet.source_length, rfl⟩
  exact ethernet.deniesProbe readSource (by decide) (by decide)

theorem probeFrame_spoofing (binding : NetworkBinding) (port sequence : Nat) :
    probeFrame binding "deny_spoofing" binding.target.ipv4 port sequence false =
      ipv4Frame binding.runner.mac binding.target.mac spoofedIpv4
        binding.target.ipv4 port sequence false 2 false := by
  have noIpv6 : "deny_spoofing" ≠ "deny_ipv6" := by
    decide
  simp only [probeFrame, if_neg noIpv6, ↓reduceIte, Bool.false_eq_true,
    and_false, spoofedIpv4]

theorem probeFrame_denied_spoofing (isBound : binding.IsBound)
    (notSpoofed : binding.runner.ipv4 ≠ spoofedIpv4) (port sequence : Nat) :
    DeniesProbe binding
      (probeFrame binding "deny_spoofing" binding.target.ipv4 port sequence
        false) := by
  obtain ⟨dm, readDestination⟩ := isBound.target_port.mac_local.exists_bytes
  obtain ⟨dst, readDst⟩ := isBound.target_port.ipv4_private.exists_bytes
  have readSrc : ipv4? spoofedIpv4 = some [172, 31, 255, 254] := by
    decide
  have spoofedPrivate : IsPrivateIp spoofedIpv4 := by
    decide
  have otherSource : ipv4? spoofedIpv4 ≠ ipv4? binding.runner.ipv4 :=
    fun same =>
      notSpoofed
        (spoofedPrivate.injective isBound.runner_port.ipv4_private same).symm
  rw [probeFrame_spoofing]
  exact ipv4Frame_denied isBound readDestination readSrc readDst
    (Or.inl otherSource) port sequence false

theorem other_address
    (isBound : binding.IsBound) (member : ip ∈ binding.ips.tail) :
    (∃ dst, ipv4? ip = some dst) ∧ ipv4? ip ≠ ipv4? binding.target.ipv4 := by
  have isPrivate := isBound.ips_private ip (List.mem_of_mem_tail member)
  refine ⟨isPrivate.exists_bytes, fun same => ?_⟩
  have sameText := isPrivate.injective isBound.target_port.ipv4_private same
  have distinct : (binding.target.ipv4 :: binding.ips.tail).Nodup :=
    isBound.ips_distinct
  rw [sameText] at member
  exact (List.nodup_cons.mp distinct).1 member

theorem metadata_address (isBound : binding.IsBound) :
    ipv4? "169.254.169.254" ≠ ipv4? binding.target.ipv4 := by
  intro same
  have read : ipv4? "169.254.169.254" = some [169, 254, 169, 254] := by
    decide
  obtain ⟨bytes, isTarget, _, inPrivate⟩ := isBound.target_port.ipv4_private
  have isTargetRead : ipv4? binding.target.ipv4 = some bytes := isTarget
  have sameBytes : [169, 254, 169, 254] = bytes :=
    Option.some.inj (read.symm.trans (same.trans isTargetRead))
  subst sameBytes
  exact absurd inPrivate (by decide)

theorem probeFrame_denied_member (isBound : binding.IsBound)
    (noIpv6 : case ≠ "deny_ipv6") (noSpoofing : case ≠ "deny_spoofing")
    (member : ip ∈ binding.ips.tail) (port sequence : Nat) (udp : Bool) :
    DeniesProbe binding (probeFrame binding case ip port sequence udp) := by
  obtain ⟨⟨dst, readDst⟩, otherAddress⟩ := other_address isBound member
  exact probeFrame_denied isBound noIpv6 noSpoofing readDst otherAddress port
    sequence udp

/-- Every probe but the first is denied. -/
theorem plan_denied
    (isBound : binding.IsBound) (notSpoofed : binding.runner.ipv4 ≠ spoofedIpv4)
    (hashes : Hashes) (matrixUuid : Uuid) :
    ∀ probe ∈ (plan hashes binding matrixUuid).tail,
      DeniesProbe binding probe.frame := by
  have readMetadata : ipv4? "169.254.169.254" = some [169, 254, 169, 254] := by
    decide
  have gateway : binding.gatewayIpv4 ∈ binding.ips.tail := by
    simp [NetworkBinding.ips]
  have other : binding.otherIpv4 ∈ binding.ips.tail := by
    simp [NetworkBinding.ips]
  have db : binding.dbIpv4 ∈ binding.ips.tail := by
    simp [NetworkBinding.ips]
  have redis : binding.redisIpv4 ∈ binding.ips.tail := by
    simp [NetworkBinding.ips]
  have django : binding.djangoIpv4 ∈ binding.ips.tail := by
    simp [NetworkBinding.ips]
  simp only [plan, specifications, List.mapIdx_cons, List.mapIdx_nil,
    List.tail_cons, List.forall_mem_cons, probeOf]
  refine ⟨?_, ?_, ?_, ?_, ?_, ?_, ?_, ?_, ?_, ?_, ?_, ?_, ?_, ?_,
    List.forall_mem_nil _⟩
  · exact probeFrame_denied_port isBound (by decide) (by decide) (by decide) _
  · exact probeFrame_denied_port isBound (by decide) (by decide) (by decide) _
  · exact probeFrame_denied_member isBound (by decide) (by decide) other _ _ _
  · exact probeFrame_denied_member isBound (by decide) (by decide) gateway
      _ _ _
  · exact probeFrame_denied isBound (by decide) (by decide) readMetadata
      (metadata_address isBound) _ _ _
  · exact probeFrame_denied_member isBound (by decide) (by decide) db _ _ _
  · exact probeFrame_denied_member isBound (by decide) (by decide) redis _ _ _
  · exact probeFrame_denied_member isBound (by decide) (by decide) django
      _ _ _
  · exact probeFrame_denied_member isBound (by decide) (by decide) gateway
      _ _ _
  · exact probeFrame_denied_member isBound (by decide) (by decide) gateway
      _ _ _
  · exact probeFrame_denied_ipv6 isBound _ _ _ _
  · exact probeFrame_denied_spoofing isBound notSpoofed _ _
  · exact probeFrame_denied_tagged isBound _ _
  · exact probeFrame_denied_member isBound (by decide) (by decide) other _ _ _

/-- Every sample but the first is denied. -/
theorem samplePlan_denied
    (isBound : binding.IsBound) (notSpoofed : binding.runner.ipv4 ≠ spoofedIpv4)
    (hashes : Hashes) (context : Uuid) :
    ∀ probe ∈ (samplePlan hashes binding context).tail,
      Denies binding probe.frame := by
  intro probe member
  rw [samplePlan, ← List.map_tail] at member
  obtain ⟨planned, isPlanned, rfl⟩ := List.mem_map.mp member
  exact (plan_denied isBound notSpoofed hashes context planned isPlanned).2 _

/-! ## The allowed flow -/

theorem request_selected (isBound : binding.IsBound)
    (fromRunner : iif.name = binding.runner.interface) (isFrame : packet.frame =
        ipv4Frame binding.runner.mac binding.target.mac binding.runner.ipv4
          binding.target.ipv4 8080 sequence false 2 false) :
    Selects binding.runner binding.target false packet iif := by
  obtain ⟨sm, readSource⟩ := isBound.runner_port.mac_local.exists_bytes
  obtain ⟨dm, readDestination⟩ := isBound.target_port.mac_local.exists_bytes
  obtain ⟨src, readSrc⟩ := isBound.runner_port.ipv4_private.exists_bytes
  obtain ⟨dst, readDst⟩ := isBound.target_port.ipv4_private.exists_bytes
  have layout :=
    ipv4Frame_layout readSource readDestination readSrc readDst 8080 sequence
      false
  have tcp := probeHead_tcp src dst 8080 sequence
  have padded := layout.append []
  rw [← isFrame] at layout
  rw [List.append_nil, ← isFrame] at padded
  refine ⟨⟨fromRunner, sm, layout.ethernet.source_eq, readSource⟩,
    Or.inl ⟨?_, ?_⟩⟩
  · exact
      { mac := ⟨dm, layout.ethernet.dest_eq, readDestination⟩
        source_ip := ⟨src, layout.src_eq, readSrc⟩
        dest_ip := ⟨dst, layout.dst_eq, readDst⟩
        unfragmented := ⟨[64, 0], tcp.fragment_eq layout, by decide, by decide⟩
        protocol := ⟨_, tcp.transport_eq padded, rfl⟩ }
  · exact tcp.dport_eq padded

/-- The request to the target passes the first hook. -/
theorem request_accepted
    (active : IsActive approval binding commands) (isBound : binding.IsBound)
    (enters : packet.iif = some iif)
    (fromRunner : iif.name = binding.runner.interface) (isFrame : packet.frame =
        ipv4Frame binding.runner.mac binding.target.mac binding.runner.ipv4
          binding.target.ipv4 8080 sequence false 2 false) :
    hookVerdict commands .bridge .prerouting packet = .accept := by
  rw [active.passing (Or.inl rfl) enters, bridge_accepts enters]
  exact Or.inl
    ⟨request_selected isBound fromRunner isFrame, evaluate_hook_prerouting⟩

theorem request_forwarded
    (active : IsActive approval binding commands) (isBound : binding.IsBound)
    {oif : Port} (enters : packet.iif = some iif)
    (fromRunner : iif.name = binding.runner.interface)
    (leaves : packet.oif = some oif)
    (toTarget : oif.name = binding.target.interface) (isFrame : packet.frame =
        ipv4Frame binding.runner.mac binding.target.mac binding.runner.ipv4
          binding.target.ipv4 8080 sequence false 2 false) :
    hookVerdict commands .bridge .forward packet = .accept := by
  rw [active.passing (Or.inr rfl) enters, bridge_accepts enters]
  exact Or.inl ⟨request_selected isBound fromRunner isFrame,
      (evaluate_hook_forward leaves).mpr toTarget⟩

/-- The first probe is a request to the target. -/
theorem plan_first
    (hashes : Hashes) (binding : NetworkBinding) (matrixUuid : Uuid) :
    ∀ probe ∈ (plan hashes binding matrixUuid).head?, ∃ sequence, probe.frame =
          ipv4Frame binding.runner.mac binding.target.mac
            binding.runner.ipv4 binding.target.ipv4 8080 sequence false 2
            false := by
  intro probe isFirst
  obtain rfl := Option.some.inj isFirst
  refine ⟨sequenceOf (hashes.probe matrixUuid 0 binding), ?_⟩
  change probeFrame binding "allow_target_8080" binding.target.ipv4 8080
    (sequenceOf (hashes.probe matrixUuid 0 binding)) false = _
  rw [probeFrame_plain (by decide) (by decide), if_pos rfl]

/-- The first sample is a request to the target. -/
theorem samplePlan_first
    (isBound : binding.IsBound) (hashes : Hashes) (context : Uuid) :
    ∀ probe ∈ (samplePlan hashes binding context).head?, ∃ sequence,
        probe.frame = ipv4Frame binding.runner.mac binding.target.mac
            binding.runner.ipv4 binding.target.ipv4 8080 sequence false 2
            false := by
  intro probe isFirst
  rw [samplePlan, List.head?_map] at isFirst
  obtain ⟨planned, isPlanned, rfl⟩ := Option.map_eq_some_iff.mp isFirst
  obtain ⟨sequence, isFrame⟩ := plan_first hashes binding context planned
    isPlanned
  obtain ⟨sm, readSource⟩ := isBound.runner_port.mac_local.exists_bytes
  obtain ⟨dm, readDestination⟩ := isBound.target_port.mac_local.exists_bytes
  obtain ⟨src, readSrc⟩ := isBound.runner_port.ipv4_private.exists_bytes
  obtain ⟨dst, readDst⟩ := isBound.target_port.ipv4_private.exists_bytes
  have layout :=
    ipv4Frame_layout readSource readDestination readSrc readDst 8080 sequence
      false
  have tcp := probeHead_tcp src dst 8080 sequence
  refine ⟨sequence, ?_⟩
  simp only [isFrame]
  exact tcp.sampled layout _

/-! ## The recipe -/

theorem compileCounterRules_ok
    {hashes : Hashes} {identifier : Uuid} {runtime : RuntimeApproval}
    {context : Uuid} {recipe : Recipe} (compiled :
      compileCounterRules hashes identifier runtime binding context true =
        .ok recipe) :
    binding.postInit = .ok () ∧ ∃ approved,
        approvedRules identifier runtime binding true = .ok approved ∧
          recipe.commands =
            (recipeCommands hashes identifier binding context true
              approved).map Prod.fst := by
  simp only [compileCounterRules, bind_ok, pure_ok] at compiled
  obtain ⟨_, _, _, constructed, _, _, approved, isApproved, isRecipe⟩ :=
    compiled
  subst isRecipe
  exact ⟨constructed, approved, isApproved, rfl⟩

theorem approvedRules_isTable {approvalUuid : Uuid}
    (approved : approvedRules approvalUuid approval binding true = .ok rules) :
    IsTable rules (.tc3 approvalUuid) := by
  obtain ⟨commands, compiled, rfl⟩ := approvedRules_ok approved
  rw [(compileRules_ok compiled).1]
  exact (activeCommands_isTable _ _).approved approvalUuid

variable {name : TableName}

theorem recipe_prerouting
    (isTable : IsTable approved name) (hashes : Hashes) (identifier : Uuid)
    (binding : NetworkBinding) (context : Uuid) (packet : Packet) :
    hookVerdict ((recipeCommands hashes identifier binding context true
          approved).map Prod.fst)
        .bridge .prerouting packet = .accept ↔
      hookVerdict approved .bridge .prerouting packet = .accept ∧
        ¬ ∃ probe ∈ (samplePlan hashes binding context).tail,
          Hits binding packet probe := by
  have hasChain : Hook.prerouting ∈ Family.bridge.hooks := by
    decide
  rw [(isTable.recipe hashes identifier binding context).hookVerdict_eq
      hasChain,
    isTable.hookVerdict_eq hasChain, exprsOn_recipe, exprsOn_diagnostics,
    exprsOn_fallback_bridge, List.append_assoc, Filters.verdict_append]
  change Filters.verdict _ (Filters.verdict _ .drop _ _) _ _ = _ ↔
    Filters.verdict _ .drop _ _ = _ ∧ _
  rw [counted_verdict]
  have drops :
      ∀ expr ∈ diagnosticExprs binding (samplePlan hashes binding context),
        ∀ decided, evaluate packet expr = some decided → decided = .drop :=
    fun expr member decided decides =>
      (diagnostic_decides.mp ⟨expr, member, decides⟩).2
  cases Filters.verdict (fun expr packet => evaluate packet expr) .drop
      (exprsOn approved .bridge .prerouting) packet with
  | drop =>
      rw [Filters.verdict_of_idle drops]
      simp
  | accept =>
      have differs : Verdict.drop ≠ Verdict.accept := by
        decide
      have dropped :
          Filters.verdict (fun expr packet => evaluate packet expr) .accept
              (diagnosticExprs binding (samplePlan hashes binding context))
              packet = .drop ↔
            ∃ expr ∈ diagnosticExprs binding
                (samplePlan hashes binding context),
              evaluate packet expr = some .drop :=
        Filters.verdict_iff_exists differs drops
      rw [diagnostic_decides] at dropped
      simp only [and_true, true_and] at dropped ⊢
      rw [← dropped]
      cases Filters.verdict (fun expr packet => evaluate packet expr) .accept
          (diagnosticExprs binding (samplePlan hashes binding context))
          packet with
      | accept => simp
      | drop => simp

theorem plan_length
    (hashes : Hashes) (binding : NetworkBinding) (matrixUuid : Uuid) :
    (plan hashes binding matrixUuid).length = 15 := by
  simp [plan, specifications]

theorem samplePlan_length
    (hashes : Hashes) (binding : NetworkBinding) (context : Uuid) :
    (samplePlan hashes binding context).length = 15 := by
  rw [samplePlan, List.length_map, plan_length]

theorem verdict_ext
    {first second : Verdict} (alike : first = .accept ↔ second = .accept) :
    first = second := by
  cases first with
  | accept => exact (alike.mp rfl).symm
  | drop =>
      cases second with
      | accept => exact alike.mpr rfl
      | drop => rfl

theorem recipe_other (isTable : IsTable approved name) (hashes : Hashes)
    (identifier : Uuid) (binding : NetworkBinding) (context : Uuid)
    {family : Family} {hook : Hook} (hasChain : hook ∈ family.hooks)
    (isOther : family ≠ .bridge ∨ hook ≠ .prerouting) (packet : Packet) :
    hookVerdict ((recipeCommands hashes identifier binding context true
          approved).map Prod.fst)
        family hook packet =
      hookVerdict approved family hook packet := by
  rw [(isTable.recipe hashes identifier binding context).hookVerdict_eq
      hasChain,
    isTable.hookVerdict_eq hasChain, exprsOn_recipe,
    exprsOn_diagnostics_other isOther, List.nil_append]
  cases family with
  | bridge =>
      rw [exprsOn_fallback_bridge]
      exact counted_verdict packet _
  | inet =>
      rw [exprsOn_fallback_inet, List.append_nil]
      exact Filters.verdict_map .accept
        fun expr _ => evaluate_withCounter packet expr

theorem recipe_sameVerdicts (active : IsActive approval binding approved)
    (isTable : IsTable approved name) (isBound : binding.IsBound)
    (notSpoofed : binding.runner.ipv4 ≠ spoofedIpv4) (hashes : Hashes)
    (identifier context : Uuid) :
    SameVerdicts ((recipeCommands hashes identifier binding context true
        approved).map Prod.fst)
      approved := by
  intro family hook hasChain packet
  by_cases isPrerouting : family = .bridge ∧ hook = .prerouting
  · obtain ⟨rfl, rfl⟩ := isPrerouting
    refine verdict_ext ?_
    rw [recipe_prerouting isTable]
    refine and_iff_left_of_imp fun accepted => ?_
    rintro ⟨probe, member, isRunner, more, isFrame⟩
    obtain ⟨iif, enters, _⟩ := Option.map_eq_some_iff.mp isRunner
    have denied :=
      samplePlan_denied isBound notSpoofed hashes context probe member more
    rw [isFrame] at denied
    rw [denied.dropped active isBound enters] at accepted
    cases accepted
  · exact recipe_other isTable hashes identifier binding context hasChain
      (not_and_or.mp isPrerouting) packet

theorem testsMatrix
    (active : IsActive approval binding rules) (isBound : binding.IsBound)
    {probes : List Probe} (fifteen : probes.length = 15) (first :
      ∀ probe ∈ probes.head?, ∃ sequence, probe.frame =
          ipv4Frame binding.runner.mac binding.target.mac
            binding.runner.ipv4 binding.target.ipv4 8080 sequence false 2
            false)
    (others : ∀ probe ∈ probes.tail, Denies binding probe.frame) :
    TestsMatrix binding rules probes where
  fifteen := fifteen
  first := by
    intro probe isFirst established
    obtain ⟨sequence, isFrame⟩ := first probe isFirst
    constructor
    · have enters : (probePacket binding probe none established).iif =
            some binding.runner.hostPort :=
        rfl
      exact request_accepted active isBound enters rfl isFrame
    · have enters : (probePacket binding probe (some binding.target.hostPort)
            established).iif = some binding.runner.hostPort :=
        rfl
      exact request_forwarded active isBound enters rfl rfl rfl isFrame
  others := by
    intro probe member established
    have denied := others probe member []
    rw [List.append_nil] at denied
    have enters : (probePacket binding probe none established).iif =
          some binding.runner.hostPort :=
      rfl
    exact denied.dropped active isBound enters

theorem spoofing_mem
    (hashes : Hashes) (binding : NetworkBinding) (matrixUuid : Uuid) :
    ∃ probe ∈ (plan hashes binding matrixUuid).tail, ∃ sequence, probe.frame =
        ipv4Frame binding.runner.mac binding.target.mac spoofedIpv4
          binding.target.ipv4 8080 sequence false 2 false := by
  refine ⟨probeOf hashes binding matrixUuid 12
      ("deny_spoofing", binding.target.ipv4, 8080, false), ?_,
      sequenceOf (hashes.probe matrixUuid 12 binding),
      probeFrame_spoofing binding 8080 _⟩
  simp [plan, specifications]

theorem spoofed_accepted
    (active : IsActive approval binding rules) (isBound : binding.IsBound)
    (spoofed : binding.runner.ipv4 = spoofedIpv4) (hashes : Hashes)
    (matrixUuid : Uuid) :
    ¬ TestsMatrix binding rules (plan hashes binding matrixUuid) := by
  intro tests
  obtain ⟨probe, member, sequence, isFrame⟩ :=
    spoofing_mem hashes binding matrixUuid
  have dropped := tests.others probe member false
  have enters : (probePacket binding probe none false).iif =
        some binding.runner.hostPort :=
    rfl
  rw [← spoofed] at isFrame
  rw [request_accepted active isBound enters rfl isFrame] at dropped
  cases dropped

theorem spoofing_mem_sample
    (isBound : binding.IsBound) (hashes : Hashes) (context : Uuid) :
    ∃ probe ∈ (samplePlan hashes binding context).tail, ∃ sequence,
      probe.frame = ipv4Frame binding.runner.mac binding.target.mac spoofedIpv4
          binding.target.ipv4 8080 sequence false 2 false := by
  obtain ⟨probe, member, sequence, isFrame⟩ :=
    spoofing_mem hashes binding context
  obtain ⟨sm, readSource⟩ := isBound.runner_port.mac_local.exists_bytes
  obtain ⟨dm, readDestination⟩ := isBound.target_port.mac_local.exists_bytes
  obtain ⟨dst, readDst⟩ := isBound.target_port.ipv4_private.exists_bytes
  have readSrc : ipv4? spoofedIpv4 = some [172, 31, 255, 254] := by
    decide
  have layout :=
    ipv4Frame_layout readSource readDestination readSrc readDst 8080 sequence
      false
  have tcp := probeHead_tcp [172, 31, 255, 254] dst 8080 sequence
  rw [samplePlan, ← List.map_tail]
  refine ⟨_, List.mem_map_of_mem member, sequence, ?_⟩
  simp only [isFrame]
  exact tcp.sampled layout _

theorem spoofed_differs (active : IsActive approval binding approved)
    (isTable : IsTable approved name) (isBound : binding.IsBound)
    (spoofed : binding.runner.ipv4 = spoofedIpv4) (hashes : Hashes)
    (identifier context : Uuid) :
    ¬ SameVerdicts ((recipeCommands hashes identifier binding context true
        approved).map Prod.fst)
      approved := by
  intro same
  obtain ⟨probe, member, sequence, isFrame⟩ :=
    spoofing_mem_sample isBound hashes context
  have enters : (probePacket binding probe none false).iif =
        some binding.runner.hostPort :=
    rfl
  have hits : Hits binding (probePacket binding probe none false) probe :=
    ⟨rfl, List.prefix_rfl⟩
  rw [← spoofed] at isFrame
  have accepted := request_accepted active isBound enters rfl isFrame
  rw [← same .bridge .prerouting (by decide),
    recipe_prerouting isTable] at accepted
  exact accepted.2 ⟨probe, member, hits⟩

/--
The recipe observes, and the probes test what they say, exactly when the
runner does not have the address that the spoofing probe pretends to have.
-/
theorem observes_iff
    {hashes : Hashes} {identifier context : Uuid} {runtime : RuntimeApproval}
    {binding : NetworkBinding} {recipe : Recipe} {rules : List Command}
    (compiled :
      compileCounterRules hashes identifier runtime binding context true =
        .ok recipe)
    (approved : approvedRules identifier runtime binding true = .ok rules) :
    Observes hashes binding context recipe.commands rules ↔
      binding.runner.ipv4 ≠ spoofedIpv4 := by
  obtain ⟨constructed, others, isApproved, isRecipe⟩ :=
    compileCounterRules_ok compiled
  have sameRules : others = rules :=
    Except.ok.inj (isApproved.symm.trans approved)
  subst others
  have isBound := NetworkBinding.postInit_ok constructed
  have active : IsActive runtime binding rules := Or.inr ⟨identifier, approved⟩
  constructor
  · intro observes spoofed
    exact spoofed_accepted active isBound spoofed hashes context
      (observes.plan_tests context)
  · intro notSpoofed
    rw [isRecipe]
    exact
      { same :=
          recipe_sameVerdicts active (approvedRules_isTable approved) isBound
            notSpoofed hashes identifier context
        plan_tests := fun matrixUuid =>
          testsMatrix active isBound (plan_length hashes binding matrixUuid)
            (plan_first hashes binding matrixUuid) fun probe member more => by
              have denied :=
                plan_denied isBound notSpoofed hashes matrixUuid probe member
              exact denied.1 more
        sample_tests :=
          testsMatrix active isBound (samplePlan_length hashes binding context)
            (samplePlan_first isBound hashes context)
            (samplePlan_denied isBound notSpoofed hashes context) }

/-! ## The pilot -/

/-- The digests of the pilot. -/
def pilotHashes : Hashes where
  runtime := fun _ => 1
  probe := fun _ _ _ => ⟨List.replicate 32 0, rfl⟩
  counter := fun _ index _ _ => index

/-- The recipe of the pilot. -/
def pilotRecipe (binding : NetworkBinding) (rules : List Command) : Recipe :=
  let commands := recipeCommands pilotHashes 7 binding 8 true rules
  { commands := commands.map Prod.fst
    counters := countersOf pilotHashes 8 commands }

theorem pilotRecipe_compiled {runtime : RuntimeApproval}
    (addresses : NetworkProfile.checkAddresses runtime.network = .ok ())
    (constructed : binding.postInit = .ok ()) (isBinding :
      binding.runtimeApprovalDigest = pilotHashes.runtime runtime ∧
        binding.daemon = runtime.daemon ∧
        binding.networkId = runtime.network.networkId ∧
        binding.scope = runtime.scope ∧
        binding.target.ipv4 = runtime.network.targetIpv4 ∧
        binding.runner.ipv4 = runtime.network.runnerIpv4)
    (approved : approvedRules 7 runtime binding true = .ok rules) :
    compileCounterRules pilotHashes 7 runtime binding 8 true =
      .ok (pilotRecipe binding rules) := by
  simp only [compileCounterRules, bind_ok, require_ok, pure_ok, exists_const]
  exact ⟨(), addresses, (), constructed, isBinding, rules, approved, rfl⟩

theorem pilot_compiled :
    compileCounterRules pilotHashes 7 pilotApproval pilotBinding 8 true =
      .ok (pilotRecipe pilotBinding pilotCommands) :=
  pilotRecipe_compiled (by decide +kernel) (by decide +kernel)
    (by decide +kernel) (by decide +kernel)

theorem observes_iff_pilot :
    Observes pilotHashes pilotBinding 8
      (pilotRecipe pilotBinding pilotCommands).commands pilotCommands :=
  (observes_iff pilot_compiled (by decide +kernel)).mpr (by decide +kernel)

/-- An approval whose runner has the spoofed address. -/
def spoofedApproval : RuntimeApproval :=
  { pilotApproval with
    network :=
      { pilotApproval.network with
        subnet := "172.31.255.240/28"
        targetIpv4 := "172.31.255.242"
        runnerIpv4 := "172.31.255.254" } }

/-- A binding whose runner has the spoofed address. -/
def spoofedBinding : NetworkBinding :=
  { pilotBinding with
    target := pilotIdentity 2 "vethtarget" "02:00:00:00:00:02" "172.31.255.242"
    runner := pilotIdentity 3 "vethrunner" "02:00:00:00:00:03" "172.31.255.254"
    gatewayIpv4 := "172.31.255.241" }

/-- The approved rules of that binding. -/
def spoofedCommands : List Command :=
  (activeCommands spoofedBinding.target.port
    spoofedBinding.runner.port).map (approvedCommand 7)

/-- The recipe drops a frame that the approved rules accept. -/
theorem spoofedBinding_differs :
    compileCounterRules pilotHashes 7 spoofedApproval spoofedBinding 8 true =
        .ok (pilotRecipe spoofedBinding spoofedCommands) ∧
      approvedRules 7 spoofedApproval spoofedBinding true =
        .ok spoofedCommands ∧
      ¬ SameVerdicts (pilotRecipe spoofedBinding spoofedCommands).commands
        spoofedCommands ∧
      ¬ TestsMatrix spoofedBinding spoofedCommands
        (plan pilotHashes spoofedBinding 8) := by
  have constructed : spoofedBinding.postInit = .ok () := by
    decide +kernel
  have approved : approvedRules 7 spoofedApproval spoofedBinding true =
        .ok spoofedCommands := by
    decide +kernel
  have isBound := NetworkBinding.postInit_ok constructed
  have active : IsActive spoofedApproval spoofedBinding spoofedCommands :=
    Or.inr ⟨7, approved⟩
  exact ⟨pilotRecipe_compiled (by decide +kernel) constructed
        (by decide +kernel) approved, approved,
      spoofed_differs active (approvedRules_isTable approved) isBound rfl
        pilotHashes 7 8,
      spoofed_accepted active isBound rfl pilotHashes 8⟩

end TicketSandbox.Firewall
