import TicketSandbox.Firewall.Contracts
import TicketSandbox.Library.Filters

namespace TicketSandbox.Firewall

/-!
# Compiled rules

`compile_rules` of `trusted_checker_live/egress.py` and `approved_rules` of
`trusted_checker_network/rules.py`: the nft transaction that is rendered for
an approval and the two ports of its binding.
-/

open TicketSandbox.Runtime (RuntimeApproval Uuid)

/-- The family of a table. -/
inductive Family where
  | bridge
  | inet
  deriving Repr, DecidableEq

/-- A hook, which is also the name of the chain on it. -/
inductive Hook where
  | prerouting
  | input
  | forward
  | output
  deriving Repr, DecidableEq

/-- The protocol of a payload field. -/
inductive Protocol where
  | ether
  | ip
  | tcp
  | arp
  deriving Repr, DecidableEq

/-- The payload fields that rules read. -/
inductive Field where
  | etherType
  | etherSaddr
  | etherDaddr
  | ipSaddr
  | ipDaddr
  | ipFragOff
  | tcpSport
  | tcpDport
  | arpOperation
  | arpSaddrEther
  | arpSaddrIp
  | arpDaddrIp
  deriving Repr, DecidableEq

/-- The protocol that a field is of. -/
def Field.protocol : Field → Protocol
  | .etherType | .etherSaddr | .etherDaddr => .ether
  | .ipSaddr | .ipDaddr | .ipFragOff => .ip
  | .tcpSport | .tcpDport => .tcp
  | .arpOperation | .arpSaddrEther | .arpSaddrIp | .arpDaddrIp => .arp

/-- The left side of a match. -/
inductive Left where
  | iifname
  | oifname
  | iif
  | l4proto
  | ctState
  | payload (field : Field)
  | masked (field : Field) (mask : Nat)
  | linkLayer (offset len : Nat)
  deriving Repr, DecidableEq

/-- The right side of a match. -/
inductive Right where
  | text (value : String)
  | number (value : Nat)
  | hex (value : Bytes)
  deriving Repr, DecidableEq

/-- An expression of a rule. -/
inductive Expression where
  | match (left : Left) (right : Right)
  | counter
  | accept
  | drop
  deriving Repr, DecidableEq

/-- The name of a table. -/
inductive TableName where
  | tcShadow
  | tc3 (approvalUuid : Uuid)
  | tcc1 (identifier : Uuid)
  deriving Repr, DecidableEq

/-- A base chain. -/
structure Chain where
  family : Family
  table : TableName
  hook : Hook
  prio : Int
  policy : Filters.Verdict
  deriving Repr, DecidableEq

/-- A rule. -/
structure Rule where
  family : Family
  table : TableName
  chain : Hook
  expr : List Expression
  deriving Repr, DecidableEq

/-- What a transaction adds. -/
inductive Command where
  | table (family : Family) (name : TableName)
  | chain (chain : Chain)
  | rule (rule : Rule)
  deriving Repr, DecidableEq

/-- `PortBinding`. -/
structure PortBinding where
  interface : String
  ifindex : Nat
  containerId : String
  endpointId : String
  mac : String
  ipv4 : String

/-- `PortBinding.__post_init__`. -/
def PortBinding.postInit (port : PortBinding) : Except Denied Unit :=
  require (IsVeth port.interface ∧ 0 < port.ifindex ∧ IsPortMac port.mac)
    "port_binding_invalid"

/-- The port of a namespace. -/
def NamespaceIdentity.port (identity : NamespaceIdentity) : PortBinding where
  interface := identity.interface
  ifindex := identity.ifindex
  containerId := identity.containerId
  endpointId := identity.endpointId
  mac := identity.mac
  ipv4 := identity.ipv4

/-- The tables and chains of `compile_rules`. -/
def baseCommands : List Command :=
  [(Family.bridge, [Hook.prerouting, .input, .forward, .output]),
    (.inet, [.input, .forward, .output])].flatMap fun (family, hooks) =>
      .table family .tcShadow :: hooks.map fun hook =>
          .chain
            { family := family
              table := .tcShadow
              hook := hook
              prio := -310
              policy :=
                match family with
                | .bridge => .drop
                | .inet => .accept }

/-- `rule` of `compile_rules`. -/
def rule (family : Family) (chain : Hook) (expr : List Expression) : Command :=
  .rule
    { family := family
      table := .tcShadow
      chain := chain
      expr := expr }

/-- The rules that keep the bridge out of the routing of the host. -/
def inetCommands : List Command :=
  [.input, .forward].map (fun hook =>
        rule .inet hook [.match .iifname (.text "tcsh0"), .drop]) ++
    [.output, .forward].map (fun hook =>
        rule .inet hook [.match .oifname (.text "tcsh0"), .drop])

/-- The sender of what a port may send. -/
def ingress (source : PortBinding) : List Expression :=
  [.match .iifname (.text source.interface),
    .match (.payload .etherSaddr) (.text source.mac)]

/-- The TCP flow from one port to another. -/
def tcp (source dest : PortBinding) (response : Bool) : List Expression :=
  ingress source ++ [.match (.payload .etherDaddr) (.text dest.mac),
      .match (.payload .ipSaddr) (.text source.ipv4),
      .match (.payload .ipDaddr) (.text dest.ipv4),
      .match (.masked .ipFragOff 16383) (.number 0),
      .match .l4proto (.text "tcp"),
      .match (.payload (if response then .tcpSport else .tcpDport))
        (.number 8080)] ++
    if response then [.match .ctState (.text "established")] else []

/-- The ARP packets from one port to another. -/
def arp (source dest : PortBinding) (operation : String) : List Expression :=
  ingress source ++ [.match (.payload .arpOperation) (.text operation),
      .match (.payload .arpSaddrEther) (.text source.mac),
      .match (.payload .arpSaddrIp) (.text source.ipv4),
      .match (.payload .arpDaddrIp) (.text dest.ipv4)]

/-- The rules that accept `expr` in both hooks of the bridge. -/
def accepts (dest : PortBinding) (expr : List Expression) : List Command :=
  [.prerouting, .forward].map fun hook =>
    rule .bridge hook (expr ++ (if hook = .forward then
          [.match .oifname (.text dest.interface)]
        else
          []) ++
        [.accept])

/-- The rules of one direction between the two ports. -/
def direction (source dest : PortBinding) (response : Bool) : List Command :=
  accepts dest (tcp source dest response) ++
    ["request", "reply"].flatMap fun operation =>
      accepts dest (arp source dest operation)

/-- `compile_rules`. -/
def compileRules (approval : RuntimeApproval)
    (ports : List PortBinding) : Except Denied (List Command) :=
  let commands := baseCommands ++ inetCommands
  match ports with
  | [] => pure commands
  | [target, runner] => do
      target.postInit
      require (target.ipv4 = approval.network.targetIpv4) "port_ip_mismatch"
      runner.postInit
      require (runner.ipv4 = approval.network.runnerIpv4) "port_ip_mismatch"
      require (target.interface ≠ runner.interface ∧
          target.ifindex ≠ runner.ifindex ∧ target.mac ≠ runner.mac)
        "port_alias_rejected"
      pure (commands ++ direction runner target false ++
        direction target runner true)
  | _ => .error ⟨"bootstrap_or_exact_two_ports_required"⟩

/-- Replace `tc_shadow` by another table. -/
def TableName.rename (table name : TableName) : TableName :=
  match table with
  | .tcShadow => name
  | other => other

/-- Whether an expression reads a field of ARP. -/
def Expression.readsArp : Expression → Bool
  | .match (.payload field) _ => field.protocol = .arp
  | .match (.masked field _) _ => field.protocol = .arp
  | _ => false

/-- The EtherType dependency that `approved_rules` inserts. -/
def etherTypeOf (expr : List Expression) : Expression :=
  .match (.payload .etherType)
    (.text (if expr.any Expression.readsArp then "arp" else "ip"))

/-- What `approved_rules` makes of one command. -/
def approvedCommand (approvalUuid : Uuid) : Command → Command
  | .table family name => .table family (name.rename (.tc3 approvalUuid))
  | .chain chain =>
      .chain
        { chain with
          table := chain.table.rename (.tc3 approvalUuid)
          prio :=
            match chain.family with
            | .bridge => bridgePriority
            | .inet => inetPriority }
  | .rule rule =>
      .rule
        { rule with
          table := rule.table.rename (.tc3 approvalUuid)
          expr :=
            match rule.family with
            | .bridge => etherTypeOf rule.expr :: rule.expr
            | .inet => rule.expr }

/-- The ports of `approved_rules`: the target and the runner. -/
def NetworkBinding.ports
    (binding : NetworkBinding) (active : Bool) : List PortBinding :=
  if active then [binding.target.port, binding.runner.port] else []

/-- `approved_rules`. -/
def approvedRules (approvalUuid : Uuid) (runtimeApproval : RuntimeApproval)
    (binding : NetworkBinding)
    (active : Bool) : Except Denied (List Command) := do
  (binding.ports active).forM PortBinding.postInit
  let rules ← compileRules runtimeApproval (binding.ports active)
  pure (rules.map (approvedCommand approvalUuid))

end TicketSandbox.Firewall
