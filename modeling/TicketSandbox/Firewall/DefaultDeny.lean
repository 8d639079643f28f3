import TicketSandbox.Firewall.RuleFacts

namespace TicketSandbox.Firewall

/-!
# Default deny

With the active rules of an approval the bridge forwards exactly the TCP flow
from the runner to the port of the target and the ARP packets between the two
ports; nothing reaches the host or leaves it through the bridge.
-/

open Filters (Verdict)
open Raises
open TicketSandbox.Runtime (RuntimeApproval Uuid)

/-! ## What may pass -/

/-- The more-fragments bit and the fragment offset are zero. -/
def Frame.IsUnfragmented (frame : Frame) : Prop :=
  ∃ bits, frame.ipv4? 6 2 = some bits ∧
    bits.number / 8192 % 2 = 0 ∧ bits.number % 8192 = 0

/-- A frame has the sender address of a port. -/
structure IsFrom
    (source : NamespaceIdentity) (frame : Frame) (iif : Port) : Prop where
  interface : iif.name = source.interface
  mac : ∃ bytes, frame.slice? 6 6 = some bytes ∧ mac? source.mac = some bytes

/-- An unfragmented IPv4 TCP frame from one port to another. -/
structure IsTcp (source dest : NamespaceIdentity) (frame : Frame) : Prop where
  mac : ∃ bytes, frame.slice? 0 6 = some bytes ∧ mac? dest.mac = some bytes
  source_ip :
    ∃ bytes, frame.ipv4? 12 4 = some bytes ∧ ipv4? source.ipv4 = some bytes
  dest_ip :
    ∃ bytes, frame.ipv4? 16 4 = some bytes ∧ ipv4? dest.ipv4 = some bytes
  unfragmented : frame.IsUnfragmented
  protocol :
    ∃ transport, frame.transport? = some transport ∧ transport.protocol = 6

/-- The bytes of port 8080. -/
def port8080 : Bytes :=
  [31, 144]

/-- A TCP frame of the runner to port 8080 of the target. -/
structure IsRequest
    (binding : NetworkBinding) (frame : Frame) (iif oif : Port) : Prop where
  sender : IsFrom binding.runner frame iif
  tcp : IsTcp binding.runner binding.target frame
  dport : frame.tcp? 2 2 = some port8080
  egress : oif.name = binding.target.interface

/-- A TCP frame of port 8080 of the target to the runner. -/
structure IsReply
    (binding : NetworkBinding) (frame : Frame) (iif oif : Port) : Prop where
  sender : IsFrom binding.target frame iif
  tcp : IsTcp binding.target binding.runner frame
  sport : frame.tcp? 0 2 = some port8080
  egress : oif.name = binding.runner.interface

/-- An ARP request or reply of one port about the address of another. -/
structure IsArp (source dest : NamespaceIdentity) (frame : Frame)
    (iif oif : Port) : Prop where
  sender : IsFrom source frame iif
  operation : frame.arp? 6 2 = some [0, 1] ∨ frame.arp? 6 2 = some [0, 2]
  sender_mac :
    ∃ bytes, frame.arp? 8 6 = some bytes ∧ mac? source.mac = some bytes
  sender_ip :
    ∃ bytes, frame.arp? 14 4 = some bytes ∧ ipv4? source.ipv4 = some bytes
  target_ip :
    ∃ bytes, frame.arp? 24 4 = some bytes ∧ ipv4? dest.ipv4 = some bytes
  egress : oif.name = dest.interface

/-- What may pass after the earlier packets. -/
def MayPass (commands : List Command) (binding : NetworkBinding)
    (earlier : List Event) : Event → Prop
  | .bridged frame iif oif =>
      IsRequest binding frame iif oif ∨ (IsReply binding frame iif oif ∧
          ∃ flow, frame.flow? = some flow ∧
            WasForwarded commands earlier flow.opposite) ∨
        IsArp binding.runner binding.target frame iif oif ∨
        IsArp binding.target binding.runner frame iif oif
  | .delivered _ _ => False
  | .originated _ _ => False
  | .inetInput _ iif => iif.name ≠ "tcsh0"
  | .inetForward _ iif oif => iif.name ≠ "tcsh0" ∧ oif.name ≠ "tcsh0"
  | .inetOutput _ oif => oif.name ≠ "tcsh0"

/-! ## The rules on each hook -/

/-- What a hook of the bridge adds to a rule of `accepts`. -/
def hookExpr (dest : PortBinding) (hook : Hook) : List Expression :=
  (if hook = .forward then
    [.match .oifname (.text dest.interface)]
  else
    []) ++
    [.accept]

/-- The rules of one direction on a hook of the bridge. -/
def directionExprs (source dest : PortBinding) (response : Bool)
    (hook : Hook) : List (List Expression) :=
  [tcp source dest response ++ hookExpr dest hook,
    arp source dest "request" ++ hookExpr dest hook,
    arp source dest "reply" ++ hookExpr dest hook]

/-- The compiled commands of two ports. -/
def activeCommands (target runner : PortBinding) : List Command :=
  baseCommands ++ inetCommands ++ direction runner target false ++
    direction target runner true

variable {approval : RuntimeApproval} {commands : List Command}
  {binding : NetworkBinding} {hook : Hook} {source dest : NamespaceIdentity}
  {packet : Packet} {iif oif : Port} {rest : List Expression}
  {response : Bool} {frame : Frame} {flow : Frame.Flow}

theorem compileRules_ok {target runner : PortBinding}
    (compiled : compileRules approval [target, runner] = .ok commands) :
    commands = activeCommands target runner ∧
      target.ipv4 = approval.network.targetIpv4 ∧
      runner.ipv4 = approval.network.runnerIpv4 := by
  simp only [compileRules, bind_ok, require_ok, PortBinding.postInit,
    pure_ok, exists_const] at compiled
  obtain ⟨_, targetIp, _, runnerIp, _, rendered⟩ := compiled
  exact ⟨rendered.symm, targetIp, runnerIp⟩

theorem approvedRules_ok {approvalUuid : Uuid} {rules : List Command}
    (approved : approvedRules approvalUuid approval binding true = .ok rules) :
    ∃ commands, compileRules approval (binding.ports true) = .ok commands ∧
        rules = commands.map (approvedCommand approvalUuid) := by
  simp only [approvedRules, bind_ok, pure_ok] at approved
  obtain ⟨_, _, commands, compiled, rendered⟩ := approved
  exact ⟨commands, compiled, rendered.symm⟩

theorem baseCommands_installed (family : Family) :
    ∀ hook ∈ family.hooks,
      .chain ⟨family, .tcShadow, hook, -310, family.policy⟩ ∈
        baseCommands := by
  cases family with
  | bridge => decide
  | inet => decide

/-- The active commands are one table. -/
theorem activeCommands_isTable (target runner : PortBinding) :
    IsTable (activeCommands target runner) .tcShadow := by
  constructor
  · intro chain member
    simp [activeCommands, baseCommands, inetCommands, direction, accepts,
      rule] at member
    rcases member with rfl | rfl | rfl | rfl | rfl | rfl | rfl
    all_goals exact ⟨rfl, rfl⟩
  · intro rule member
    simp [activeCommands, baseCommands, inetCommands, direction, accepts,
      Firewall.rule] at member
    rcases member with rfl | rfl | rfl | rfl | rfl | rfl | rfl | rfl | rfl |
      rfl | rfl | rfl | rfl | rfl | rfl | rfl
    all_goals rfl
  · intro family hook hasChain
    refine ⟨⟨family, .tcShadow, hook, -310, family.policy⟩, ?_, rfl, rfl⟩
    have inBase := baseCommands_installed family hook hasChain
    simp only [activeCommands, List.append_assoc]
    exact List.mem_append_left _ inBase

theorem exprsOn_active (target runner : PortBinding)
    (passing : hook = .prerouting ∨ hook = .forward) :
    exprsOn (activeCommands target runner) .bridge hook =
      directionExprs runner target false hook ++
        directionExprs target runner true hook := by
  rcases passing with rfl | rfl
  · rfl
  · rfl

theorem exprsOn_active_local (target runner : PortBinding)
    (notPassing : hook = .input ∨ hook = .output) :
    exprsOn (activeCommands target runner) .bridge hook = [] := by
  rcases notPassing with rfl | rfl
  · rfl
  · rfl

/-! ## When a rule accepts -/

theorem unfragmented_iff :
    frame.IsUnfragmented ↔
      (frame.ipv4? 6 2).map (fun bytes => Bytes.number bytes &&& 16383) =
        some 0 := by
  have mask (value : Nat) :
      value &&& 16383 = 0 ↔ value / 8192 % 2 = 0 ∧ value % 8192 = 0 := by
    have isMod : value &&& 16383 = value % 16384 :=
      Nat.and_two_pow_sub_one_eq_mod value 14
    rw [isMod]
    omega
  simp only [Frame.IsUnfragmented, Option.map_eq_some_iff, mask]

theorem isFrom_iff (enters : packet.iif = some iif) :
    (Left.iifname.holds packet (.text source.interface) = true ∧
        (Left.payload .etherSaddr).holds packet (.text source.mac) = true) ↔
      IsFrom source packet.frame iif := by
  simp only [Left.holds, enters, Option.map_some, Field.load, Field.encode]
  rw [agree_some_iff, agree_iff, Option.some.injEq]
  constructor
  · rintro ⟨interface, mac⟩
    exact ⟨interface, mac⟩
  · intro isFrom
    exact ⟨isFrom.interface, isFrom.mac⟩

theorem isTcp_iff :
    ((Left.payload .etherDaddr).holds packet (.text dest.mac) = true ∧
        (Left.payload .ipSaddr).holds packet (.text source.ipv4) = true ∧
        (Left.payload .ipDaddr).holds packet (.text dest.ipv4) = true ∧
        (Left.masked .ipFragOff 16383).holds packet (.number 0) = true ∧
        Left.l4proto.holds packet (.text "tcp") = true) ↔
      IsTcp source dest packet.frame := by
  simp only [Left.holds, Field.load, Field.encode, ↓reduceIte]
  rw [agree_iff, agree_iff, agree_iff, agree_some_iff, agree_some_iff,
    ← unfragmented_iff, Option.map_eq_some_iff]
  constructor
  · rintro ⟨mac, sourceIp, destIp, unfragmented, protocol⟩
    exact ⟨mac, sourceIp, destIp, unfragmented, protocol⟩
  · intro isTcp
    exact ⟨isTcp.mac, isTcp.source_ip, isTcp.dest_ip, isTcp.unfragmented,
        isTcp.protocol⟩

variable {decided : Verdict}

theorem evaluate_tcp_request (enters : packet.iif = some iif) :
    evaluate packet (tcp source.port dest.port false ++ rest) = some decided ↔
      (IsFrom source packet.frame iif ∧ IsTcp source dest packet.frame) ∧
        packet.frame.tcp? 2 2 = some port8080 ∧
        evaluate packet rest = some decided := by
  have portHolds : (Left.payload .tcpDport).holds packet (.number 8080) = true ↔
        packet.frame.tcp? 2 2 = some port8080 :=
    agree_some_iff
  rw [← isFrom_iff enters, ← isTcp_iff, ← portHolds]
  simp only [tcp, ingress, NamespaceIdentity.port, Bool.false_eq_true,
    ↓reduceIte, List.cons_append, List.nil_append, evaluate_match,
    and_assoc]

theorem evaluate_tcp_response (enters : packet.iif = some iif) :
    evaluate packet (tcp source.port dest.port true ++ rest) = some decided ↔
      (IsFrom source packet.frame iif ∧ IsTcp source dest packet.frame) ∧
        packet.frame.tcp? 0 2 = some port8080 ∧
        packet.established = true ∧
        evaluate packet rest = some decided := by
  have portHolds : (Left.payload .tcpSport).holds packet (.number 8080) = true ↔
        packet.frame.tcp? 0 2 = some port8080 :=
    agree_some_iff
  have stateHolds : Left.ctState.holds packet (.text "established") = true ↔
        packet.established = true := by
    simp [Left.holds]
  rw [← isFrom_iff enters, ← isTcp_iff, ← portHolds, ← stateHolds]
  simp only [tcp, ingress, NamespaceIdentity.port, ↓reduceIte,
    List.cons_append, List.nil_append, evaluate_match, and_assoc]

/-- The packet that an ARP rule asks for. -/
structure IsArpPacket (source dest : NamespaceIdentity) (operation : Bytes)
    (frame : Frame) : Prop where
  operation : frame.arp? 6 2 = some operation
  sender_mac :
    ∃ bytes, frame.arp? 8 6 = some bytes ∧ mac? source.mac = some bytes
  sender_ip :
    ∃ bytes, frame.arp? 14 4 = some bytes ∧ ipv4? source.ipv4 = some bytes
  target_ip :
    ∃ bytes, frame.arp? 24 4 = some bytes ∧ ipv4? dest.ipv4 = some bytes

theorem evaluate_arp {symbol : String} {operation : Bytes}
    (encoded : Field.encode .arpOperation (.text symbol) = some operation)
    (enters : packet.iif = some iif) :
    evaluate packet (arp source.port dest.port symbol ++ rest) = some decided ↔
      (IsFrom source packet.frame iif ∧
        IsArpPacket source dest operation packet.frame) ∧
        evaluate packet rest = some decided := by
  have isPacket :
      ((Left.payload .arpOperation).holds packet (.text symbol) = true ∧
          (Left.payload .arpSaddrEther).holds packet (.text source.mac) = true ∧
          (Left.payload .arpSaddrIp).holds packet (.text source.ipv4) = true ∧
          (Left.payload .arpDaddrIp).holds packet (.text dest.ipv4) = true) ↔
        IsArpPacket source dest operation packet.frame := by
    simp only [Left.holds, encoded]
    rw [agree_some_iff, agree_iff, agree_iff, agree_iff]
    constructor
    · rintro ⟨isOperation, mac, sourceIp, targetIp⟩
      exact ⟨isOperation, mac, sourceIp, targetIp⟩
    · intro isPacket
      exact ⟨isPacket.operation, isPacket.sender_mac, isPacket.sender_ip,
          isPacket.target_ip⟩
  rw [← isFrom_iff enters, ← isPacket]
  simp only [arp, ingress, NamespaceIdentity.port, List.cons_append,
    List.nil_append, evaluate_match, and_assoc]

theorem evaluate_hook_prerouting :
    evaluate packet (hookExpr dest.port .prerouting) = some .accept :=
  rfl

theorem evaluate_hook_forward (leaves : packet.oif = some oif) :
    evaluate packet (hookExpr dest.port .forward) = some .accept ↔
      oif.name = dest.interface := by
  have atEnd : hookExpr dest.port .forward =
        [.match .oifname (.text dest.interface), .accept] :=
    rfl
  rw [atEnd, evaluate_match]
  simp only [Left.holds, leaves, Option.map_some]
  rw [agree_some_iff, Option.some.injEq]
  exact and_iff_left rfl

theorem evaluate_hook_accepts {dest : PortBinding}
    (decides : evaluate packet (hookExpr dest hook) = some decided) :
    decided = .accept := by
  by_cases isForward : hook = .forward
  · subst isForward
    have atEnd : hookExpr dest .forward =
          [.match .oifname (.text dest.interface), .accept] :=
      rfl
    rw [atEnd, evaluate_match, evaluate_accept] at decides
    exact decides.2
  · simp only [hookExpr, isForward, ↓reduceIte, List.nil_append,
      evaluate_accept] at decides
    exact decides

/-! ## One direction -/

/-- The port, and for a reply the state, that a TCP rule asks for. -/
def HasPort8080 (response : Bool) (packet : Packet) : Prop :=
  match response with
  | false => packet.frame.tcp? 2 2 = some port8080
  | true => packet.frame.tcp? 0 2 = some port8080 ∧ packet.established = true

/-- What the rules of one direction select. -/
def Selects
    (source dest : NamespaceIdentity) (response : Bool) (packet : Packet)
    (iif : Port) : Prop :=
  IsFrom source packet.frame iif ∧
    ((IsTcp source dest packet.frame ∧ HasPort8080 response packet) ∨
      IsArpPacket source dest [0, 1] packet.frame ∨
      IsArpPacket source dest [0, 2] packet.frame)

theorem evaluate_tcp (enters : packet.iif = some iif) :
    evaluate packet (tcp source.port dest.port response ++ rest) =
        some decided ↔
      (IsFrom source packet.frame iif ∧ IsTcp source dest packet.frame ∧
          HasPort8080 response packet) ∧
        evaluate packet rest = some decided := by
  cases response with
  | false =>
      rw [evaluate_tcp_request enters]
      simp only [HasPort8080, and_assoc]
  | true =>
      rw [evaluate_tcp_response enters]
      simp only [HasPort8080, and_assoc]

theorem direction_decides (enters : packet.iif = some iif) :
    (∃ expr ∈ directionExprs source.port dest.port response hook,
        evaluate packet expr = some decided) ↔
      Selects source dest response packet iif ∧
        evaluate packet (hookExpr dest.port hook) = some decided := by
  have request :
      Field.encode .arpOperation (.text "request") = some [0, 1] := by
    decide
  have reply : Field.encode .arpOperation (.text "reply") = some [0, 2] := by
    decide
  simp only [directionExprs, List.exists_mem_cons_iff, List.not_mem_nil,
    false_and, exists_false, or_false, evaluate_tcp enters,
    evaluate_arp request enters, evaluate_arp reply enters, Selects]
  constructor
  · rintro (⟨⟨isFrom, selected⟩, atEnd⟩ | ⟨⟨isFrom, selected⟩, atEnd⟩ |
      ⟨⟨isFrom, selected⟩, atEnd⟩)
    · exact ⟨⟨isFrom, Or.inl selected⟩, atEnd⟩
    · exact ⟨⟨isFrom, Or.inr (Or.inl selected)⟩, atEnd⟩
    · exact ⟨⟨isFrom, Or.inr (Or.inr selected)⟩, atEnd⟩
  · rintro ⟨⟨isFrom, selected | selected | selected⟩, atEnd⟩
    · exact Or.inl ⟨⟨isFrom, selected⟩, atEnd⟩
    · exact Or.inr (Or.inl ⟨⟨isFrom, selected⟩, atEnd⟩)
    · exact Or.inr (Or.inr ⟨⟨isFrom, selected⟩, atEnd⟩)

theorem evaluate_etherTypeOf
    (enters : packet.iif = some iif) {expr : List Expression}
    (member : expr ∈ directionExprs source.port dest.port response hook) :
    evaluate packet (etherTypeOf expr :: expr) = evaluate packet expr := by
  simp only [directionExprs, List.mem_cons, List.not_mem_nil,
    or_false] at member
  have arpDependency (operation : String) : etherTypeOf
          (arp source.port dest.port operation ++ hookExpr dest.port hook) =
        .match (.payload .etherType) (.text "arp") :=
    rfl
  have tcpDependency : etherTypeOf
          (tcp source.port dest.port response ++ hookExpr dest.port hook) =
        .match (.payload .etherType) (.text "ip") := by
    cases response with
    | false =>
        cases hook with
        | prerouting | input | forward | output => rfl
    | true =>
        cases hook with
        | prerouting | input | forward | output => rfl
  have request :
      Field.encode .arpOperation (.text "request") = some [0, 1] := by
    decide
  have reply : Field.encode .arpOperation (.text "reply") = some [0, 2] := by
    decide
  rcases member with rfl | rfl | rfl
  · rw [tcpDependency]
    refine evaluate_implied fun decided decides => ?_
    obtain ⟨⟨_, isTcp, _⟩, _⟩ := (evaluate_tcp enters).mp decides
    obtain ⟨bytes, read, _⟩ := isTcp.dest_ip
    exact agree_some_iff.mpr (Frame.etherType_of_ipv4 read)
  · rw [arpDependency]
    refine evaluate_implied fun decided decides => ?_
    obtain ⟨⟨_, isArp⟩, _⟩ := (evaluate_arp request enters).mp decides
    exact agree_some_iff.mpr (Frame.etherType_of_arp isArp.operation)
  · rw [arpDependency]
    refine evaluate_implied fun decided decides => ?_
    obtain ⟨⟨_, isArp⟩, _⟩ := (evaluate_arp reply enters).mp decides
    exact agree_some_iff.mpr (Frame.etherType_of_arp isArp.operation)

/-! ## What the hooks decide -/

/-- The rules on a hook of the bridge and their meaning. -/
def bridgeExprs (binding : NetworkBinding) (hook : Hook) :
    List (List Expression) :=
  directionExprs binding.runner.port binding.target.port false hook ++
    directionExprs binding.target.port binding.runner.port true hook

theorem bridge_accepts (enters : packet.iif = some iif) :
    Filters.verdict (fun expr packet => evaluate packet expr) .drop
        (bridgeExprs binding hook) packet = .accept ↔
      (Selects binding.runner binding.target false packet iif ∧
          evaluate packet (hookExpr binding.target.port hook) = some .accept) ∨
        (Selects binding.target binding.runner true packet iif ∧
          evaluate packet (hookExpr binding.runner.port hook) =
            some .accept) := by
  have exceptions : ∀ expr ∈ bridgeExprs binding hook, ∀ decided,
        evaluate packet expr = some decided → decided = .accept := by
    intro expr member decided decides
    rcases List.mem_append.mp member with request | reply
    · exact evaluate_hook_accepts
        ((direction_decides enters).mp ⟨expr, request, decides⟩).2
    · exact evaluate_hook_accepts
        ((direction_decides enters).mp ⟨expr, reply, decides⟩).2
  rw [Filters.verdict_iff_exists (by decide) exceptions,
    ← direction_decides enters, ← direction_decides enters]
  simp only [bridgeExprs, List.mem_append, or_and_right, exists_or]

/-- The active rules of a binding, in either version. -/
def IsActive (approval : RuntimeApproval) (binding : NetworkBinding)
    (commands : List Command) : Prop :=
  compileRules approval (binding.ports true) = .ok commands ∨ ∃ approvalUuid,
      approvedRules approvalUuid approval binding true = .ok commands

theorem NamespaceIdentity.IsPort.postInit
    {identity : NamespaceIdentity} (isPort : identity.IsPort) :
    identity.port.postInit = .ok () :=
  require_ok.mpr
    ⟨isPort.interface_veth, isPort.ifindex_positive, isPort.mac_local⟩

/-- Every binding of the approved addresses has active rules. -/
theorem IsActive.exists (constructed : binding.postInit = .ok ())
    (targetIp : binding.target.ipv4 = approval.network.targetIpv4)
    (runnerIp : binding.runner.ipv4 = approval.network.runnerIpv4) :
    ∃ commands, IsActive approval binding commands := by
  have isBound := NetworkBinding.postInit_ok constructed
  refine ⟨activeCommands binding.target.port binding.runner.port, Or.inl ?_⟩
  change compileRules approval [binding.target.port, binding.runner.port] = _
  simp only [compileRules, bind_ok, require_ok, pure_ok, exists_const]
  exact ⟨(), isBound.target_port.postInit, targetIp,
      (), isBound.runner_port.postInit, runnerIp,
      ⟨isBound.interface_distinct, isBound.ifindex_distinct,
        isBound.mac_distinct⟩,
      rfl⟩

theorem IsActive.cases (active : IsActive approval binding commands) :
    commands = activeCommands binding.target.port binding.runner.port ∨
      ∃ approvalUuid, commands =
          (activeCommands binding.target.port binding.runner.port).map
            (approvedCommand approvalUuid) := by
  rcases active with compiled | ⟨approvalUuid, approved⟩
  · exact Or.inl (compileRules_ok compiled).1
  · obtain ⟨shadow, compiled, rfl⟩ := approvedRules_ok approved
    refine Or.inr ⟨approvalUuid, ?_⟩
    rw [(compileRules_ok compiled).1]

theorem IsActive.passing (active : IsActive approval binding commands)
    (passing : hook = .prerouting ∨ hook = .forward)
    (enters : packet.iif = some iif) :
    hookVerdict commands .bridge hook packet =
      Filters.verdict (fun expr packet => evaluate packet expr) .drop
        (bridgeExprs binding hook) packet := by
  have hasChain : hook ∈ Family.bridge.hooks := by
    rcases passing with rfl | rfl
    · decide
    · decide
  have isTable := activeCommands_isTable binding.target.port binding.runner.port
  rcases active.cases with rfl | ⟨approvalUuid, rfl⟩
  · rw [isTable.hookVerdict_eq hasChain, exprsOn_active _ _ passing]
    rfl
  · rw [(isTable.approved approvalUuid).hookVerdict_eq hasChain,
      exprsOn_approved_bridge, exprsOn_active _ _ passing]
    refine Filters.verdict_map .drop ?_
    intro expr member
    rcases List.mem_append.mp member with request | reply
    · exact evaluate_etherTypeOf enters request
    · exact evaluate_etherTypeOf enters reply

theorem IsActive.localHook (active : IsActive approval binding commands)
    (notPassing : hook = .input ∨ hook = .output) (packet : Packet) :
    hookVerdict commands .bridge hook packet = .drop := by
  have hasChain : hook ∈ Family.bridge.hooks := by
    rcases notPassing with rfl | rfl
    · decide
    · decide
  have isTable := activeCommands_isTable binding.target.port binding.runner.port
  rcases active.cases with rfl | ⟨approvalUuid, rfl⟩
  · rw [isTable.hookVerdict_eq hasChain, exprsOn_active_local _ _ notPassing]
    rfl
  · rw [(isTable.approved approvalUuid).hookVerdict_eq hasChain,
      exprsOn_approved_bridge, exprsOn_active_local _ _ notPassing]
    rfl

/-- The rule that drops what enters through the bridge. -/
def fromBridge : List Expression :=
  [.match .iifname (.text "tcsh0"), .drop]

/-- The rule that drops what leaves through the bridge. -/
def toBridge : List Expression :=
  [.match .oifname (.text "tcsh0"), .drop]

/-- The rules on a hook of the routing. -/
def inetExprs : Hook → List (List Expression)
  | .prerouting => []
  | .input => [fromBridge]
  | .forward => [fromBridge, toBridge]
  | .output => [toBridge]

theorem exprsOn_active_inet (target runner : PortBinding) (hook : Hook) :
    exprsOn (activeCommands target runner) .inet hook = inetExprs hook := by
  cases hook with
  | prerouting | input | forward | output => rfl

theorem evaluate_fromBridge (enters : packet.iif = some iif) :
    evaluate packet fromBridge =
      if iif.name = "tcsh0" then some .drop else none := by
  simp [fromBridge, evaluate, Left.holds, enters, agree]

theorem evaluate_toBridge (leaves : packet.oif = some oif) :
    evaluate packet toBridge =
      if oif.name = "tcsh0" then some .drop else none := by
  simp [toBridge, evaluate, Left.holds, leaves, agree]

theorem IsActive.routing (active : IsActive approval binding commands)
    (hasChain : hook ∈ Family.inet.hooks) (packet : Packet) :
    hookVerdict commands .inet hook packet =
      Filters.verdict (fun expr packet => evaluate packet expr) .accept
        (inetExprs hook) packet := by
  have isTable := activeCommands_isTable binding.target.port binding.runner.port
  rcases active.cases with rfl | ⟨approvalUuid, rfl⟩
  · rw [isTable.hookVerdict_eq hasChain, exprsOn_active_inet]
    rfl
  · rw [(isTable.approved approvalUuid).hookVerdict_eq hasChain,
      exprsOn_approved_inet, exprsOn_active_inet]
    rfl

/-- A packet passes both hooks when it passes each. -/
theorem both_accept {first second : Verdict} :
    both first second = .accept ↔ first = .accept ∧ second = .accept := by
  cases first with
  | accept => simp [both]
  | drop => simp [both]

theorem selects_packetOf
    {tracked : List Frame.Flow} {entry exit other : Option Port} :
    Selects source dest response (packetOf tracked frame entry exit) iif ↔
      Selects source dest response (packetOf tracked frame entry other)
        iif := by
  cases response with
  | false => exact Iff.rfl
  | true => exact Iff.rfl

theorem IsActive.bridged (active : IsActive approval binding commands)
    (tracked : List Frame.Flow) (frame : Frame) (iif oif : Port) :
    decision commands tracked (.bridged frame iif oif) = .accept ↔
      (Selects binding.runner binding.target false
            (packetOf tracked frame (some iif) (some oif)) iif ∧
          oif.name = binding.target.interface) ∨
        (Selects binding.target binding.runner true
            (packetOf tracked frame (some iif) (some oif)) iif ∧
          oif.name = binding.runner.interface) := by
  have enters : (packetOf tracked frame (some iif) none).iif = some iif := rfl
  have passes : (packetOf tracked frame (some iif) (some oif)).iif = some iif :=
    rfl
  have leaves : (packetOf tracked frame (some iif) (some oif)).oif = some oif :=
    rfl
  simp only [decision]
  rw [both_accept, active.passing (Or.inl rfl) enters,
    active.passing (Or.inr rfl) passes, bridge_accepts enters,
    bridge_accepts passes, evaluate_hook_forward leaves,
    evaluate_hook_forward leaves, evaluate_hook_prerouting,
    evaluate_hook_prerouting]
  simp only [and_true]
  constructor
  · exact And.right
  · intro forwarded
    refine ⟨?_, forwarded⟩
    rcases forwarded with ⟨selected, _⟩ | ⟨selected, _⟩
    · exact Or.inl (selects_packetOf.mp selected)
    · exact Or.inr (selects_packetOf.mp selected)

/-! ## The result -/

theorem isArp_iff :
    IsArp source dest frame iif oif ↔ (IsFrom source frame iif ∧
        (IsArpPacket source dest [0, 1] frame ∨
          IsArpPacket source dest [0, 2] frame)) ∧
        oif.name = dest.interface := by
  constructor
  · intro isArp
    refine ⟨⟨isArp.sender, ?_⟩, isArp.egress⟩
    rcases isArp.operation with request | reply
    · exact Or.inl ⟨request, isArp.sender_mac, isArp.sender_ip, isArp.target_ip⟩
    · exact Or.inr ⟨reply, isArp.sender_mac, isArp.sender_ip, isArp.target_ip⟩
  · rintro ⟨⟨sender, request | reply⟩, egress⟩
    · exact ⟨sender, Or.inl request.operation, request.sender_mac,
        request.sender_ip, request.target_ip, egress⟩
    · exact ⟨sender, Or.inr reply.operation, reply.sender_mac,
        reply.sender_ip, reply.target_ip, egress⟩

theorem selects_request :
    (Selects binding.runner binding.target false packet iif ∧
        oif.name = binding.target.interface) ↔
      IsRequest binding packet.frame iif oif ∨
        IsArp binding.runner binding.target packet.frame iif oif := by
  rw [isArp_iff]
  constructor
  · rintro ⟨⟨sender, ⟨isTcp, dport⟩ | isArp⟩, egress⟩
    · exact Or.inl ⟨sender, isTcp, dport, egress⟩
    · exact Or.inr ⟨⟨sender, isArp⟩, egress⟩
  · rintro (request | ⟨⟨sender, isArp⟩, egress⟩)
    · exact
        ⟨⟨request.sender, Or.inl ⟨request.tcp, request.dport⟩⟩, request.egress⟩
    · exact ⟨⟨sender, Or.inr isArp⟩, egress⟩

theorem selects_reply :
    (Selects binding.target binding.runner true packet iif ∧
        oif.name = binding.runner.interface) ↔
      (IsReply binding packet.frame iif oif ∧ packet.established = true) ∨
        IsArp binding.target binding.runner packet.frame iif oif := by
  rw [isArp_iff]
  constructor
  · rintro ⟨⟨sender, ⟨isTcp, sport, isEstablished⟩ | isArp⟩, egress⟩
    · exact Or.inl ⟨⟨sender, isTcp, sport, egress⟩, isEstablished⟩
    · exact Or.inr ⟨⟨sender, isArp⟩, egress⟩
  · rintro (⟨reply, isEstablished⟩ | ⟨⟨sender, isArp⟩, egress⟩)
    · exact ⟨⟨reply.sender, Or.inl ⟨reply.tcp, reply.sport, isEstablished⟩⟩,
          reply.egress⟩
    · exact ⟨⟨sender, Or.inr isArp⟩, egress⟩

theorem IsActive.inetInput (active : IsActive approval binding commands)
    (tracked : List Frame.Flow) (frame : Frame) (iif : Port) :
    decision commands tracked (.inetInput frame iif) = .accept ↔
      iif.name ≠ "tcsh0" := by
  have enters : (packetOf tracked frame (some iif) none).iif = some iif := rfl
  have hasChain : Hook.input ∈ Family.inet.hooks := by
    decide
  simp only [decision]
  rw [active.routing hasChain]
  simp only [inetExprs, Filters.verdict_cons, Filters.verdict_nil,
    evaluate_fromBridge enters]
  by_cases isBridge : iif.name = "tcsh0"
  · simp [isBridge]
  · simp [isBridge]

theorem IsActive.inetOutput (active : IsActive approval binding commands)
    (tracked : List Frame.Flow) (frame : Frame) (oif : Port) :
    decision commands tracked (.inetOutput frame oif) = .accept ↔
      oif.name ≠ "tcsh0" := by
  have leaves : (packetOf tracked frame none (some oif)).oif = some oif := rfl
  have hasChain : Hook.output ∈ Family.inet.hooks := by
    decide
  simp only [decision]
  rw [active.routing hasChain]
  simp only [inetExprs, Filters.verdict_cons, Filters.verdict_nil,
    evaluate_toBridge leaves]
  by_cases isBridge : oif.name = "tcsh0"
  · simp [isBridge]
  · simp [isBridge]

theorem IsActive.inetForward (active : IsActive approval binding commands)
    (tracked : List Frame.Flow) (frame : Frame) (iif oif : Port) :
    decision commands tracked (.inetForward frame iif oif) = .accept ↔
      iif.name ≠ "tcsh0" ∧ oif.name ≠ "tcsh0" := by
  have enters : (packetOf tracked frame (some iif) (some oif)).iif = some iif :=
    rfl
  have leaves : (packetOf tracked frame (some iif) (some oif)).oif = some oif :=
    rfl
  have hasChain : Hook.forward ∈ Family.inet.hooks := by
    decide
  simp only [decision]
  rw [active.routing hasChain]
  simp only [inetExprs, Filters.verdict_cons, Filters.verdict_nil,
    evaluate_fromBridge enters, evaluate_toBridge leaves]
  by_cases fromBridge : iif.name = "tcsh0"
  · simp [fromBridge]
  · by_cases toBridge : oif.name = "tcsh0"
    · simp [fromBridge, toBridge]
    · simp [fromBridge, toBridge]

/--
Default deny: with the active rules of a binding, in either version, a packet
passes after any earlier ones exactly when it may.
-/
theorem defaultDeny {approval : RuntimeApproval} {binding : NetworkBinding}
    {commands : List Command} (active : IsActive approval binding commands)
    (earlier : List Event) (event : Event) :
    decisionAfter commands earlier event = .accept ↔
      MayPass commands binding earlier event := by
  unfold decisionAfter
  cases event with
  | bridged frame iif oif =>
      rw [active.bridged, selects_request, selects_reply]
      simp only [packetOf, isEstablished_after, MayPass]
      constructor
      · rintro ((request | isArp) | (reply | isArp))
        · exact Or.inl request
        · exact Or.inr (Or.inr (Or.inl isArp))
        · exact Or.inr (Or.inl reply)
        · exact Or.inr (Or.inr (Or.inr isArp))
      · rintro (request | reply | isArp | isArp)
        · exact Or.inl (Or.inl request)
        · exact Or.inr (Or.inl reply)
        · exact Or.inl (Or.inr isArp)
        · exact Or.inr (Or.inr isArp)
  | delivered frame iif =>
      simp only [decision]
      rw [both_accept, active.localHook (Or.inl rfl)]
      simp [MayPass]
  | originated frame oif =>
      simp only [decision]
      rw [active.localHook (Or.inr rfl)]
      simp [MayPass]
  | inetInput frame iif => exact active.inetInput _ frame iif
  | inetForward frame iif oif => exact active.inetForward _ frame iif oif
  | inetOutput frame oif => exact active.inetOutput _ frame oif

/-! ## Established flows -/

/-- The daemon of the pilot. -/
def pilotDaemon : TicketSandbox.Runtime.DaemonIdentity where
  daemonId := "daemon"
  endpointReference := "endpoint:local"
  endpointConfigDigest := 1
  sessionUuid := 1

/-- The approval of the pilot. -/
def pilotApproval : RuntimeApproval where
  approvalUuid := 1
  operatorPrincipal := "operator:pilot"
  scope := "test-shadow-pilot"
  daemon := pilotDaemon
  targetImageId := "target"
  runnerImageId := "runner"
  checkerSourceDigest := 2
  network :=
    { networkId := "network"
      networkName := "tc-shadow-pilot-net"
      subnet := "10.0.0.0/28"
      targetIpv4 := "10.0.0.2"
      runnerIpv4 := "10.0.0.3"
      enforcementReference := "egress:pilot" }
  createdAt := 1
  expiresAt := 1000000000
  policyId := "policy"
  policyVersion := 1
  policyDigest := 3
  targetProfileDigest := 4
  runnerProfileDigest := 5
  schemaVersion := 2
  authorityMode := .liveRuntimeV2

/-- A namespace of the pilot. -/
def pilotIdentity
    (number : Nat) (interface mac ipv4 : String) : NamespaceIdentity where
  containerId := interface
  pid := 100 + number
  processStartTicks := 1
  netnsInode := number
  dockerStartedAt := ⟨"2026-01-01T00:00:00Z", 1⟩
  restartCount := 0
  endpointId := interface
  interface := interface
  ifindex := number
  peerIfindex := 20 + number
  mac := mac
  ipv4 := ipv4

/-- The binding of the pilot. -/
def pilotBinding : NetworkBinding where
  hostBootUuid := 1
  hostIdentityDigest := 1
  hostNetnsInode := 1
  daemon := pilotDaemon
  scope := "test-shadow-pilot"
  runtimeApprovalDigest := 1
  runtimeBindingUuid := 2
  generationUuid := 3
  networkId := "network"
  bridgeName := "tcsh0"
  bridgeIfindex := 1
  bridgeMac := "02:00:00:00:00:01"
  target := pilotIdentity 2 "vethtarget" "02:00:00:00:00:02" "10.0.0.2"
  runner := pilotIdentity 3 "vethrunner" "02:00:00:00:00:03" "10.0.0.3"
  gatewayIpv4 := "10.0.0.1"
  otherIpv4 := "10.0.0.4"
  dbIpv4 := "10.0.0.5"
  redisIpv4 := "10.0.0.6"
  djangoIpv4 := "10.0.0.7"

/-- The active rules of the pilot. -/
def pilotCommands : List Command :=
  (activeCommands pilotBinding.target.port pilotBinding.runner.port).map
    (approvedCommand 7)

/-- A TCP frame of the pilot that opens a connection. -/
def pilotRequest : Frame :=
  [2, 0, 0, 0, 0, 2, 2, 0, 0, 0, 0, 3, 8, 0] ++
    [69, 0, 0, 40, 0, 1, 64, 0, 64, 6, 0, 0, 10, 0, 0, 3, 10, 0, 0, 2] ++
    [192, 0, 31, 144, 0, 0, 0, 1, 0, 0, 0, 0, 80, 2, 4, 0, 0, 0, 0, 0]

/-- The frame that answers it. -/
def pilotReply : Frame :=
  [2, 0, 0, 0, 0, 3, 2, 0, 0, 0, 0, 2, 8, 0] ++
    [69, 0, 0, 40, 0, 1, 64, 0, 64, 6, 0, 0, 10, 0, 0, 2, 10, 0, 0, 3] ++
    [31, 144, 192, 0, 0, 0, 0, 1, 0, 0, 0, 2, 80, 18, 4, 0, 0, 0, 0, 0]

/-- The ports of the pilot. -/
def pilotTargetPort : Port :=
  ⟨"vethtarget", 2⟩

/-- The port of the runner of the pilot. -/
def pilotRunnerPort : Port :=
  ⟨"vethrunner", 3⟩

theorem pilot_active : IsActive pilotApproval pilotBinding pilotCommands :=
  Or.inr ⟨7, by decide +kernel⟩

theorem defaultDeny_pilot :
    MayPass pilotCommands pilotBinding
      [.bridged pilotRequest pilotRunnerPort pilotTargetPort]
      (.bridged pilotReply pilotTargetPort pilotRunnerPort) :=
  (defaultDeny pilot_active _ _).mp (by decide +kernel)

end TicketSandbox.Firewall
