import TicketSandbox.Firewall.Probes
import TicketSandbox.Firewall.Rules

namespace TicketSandbox.Firewall

/-!
# Counter recipe

`compile_counter_rules` of `trusted_checker_network/counter_rules.py`: the
approved rules with a counter in each of them, with rules in front that count
each probe and drop it, and with a last rule that counts what falls through.
-/

open TicketSandbox.Runtime (Digest RuntimeApproval Uuid)

/-- `CounterSpec`. -/
structure CounterSpec where
  identity : Digest
  objectIndex : Nat
  expressionIndex : Nat
  purpose : Purpose
  probeIndex : Option Nat

/-- `Recipe`: the commands of its JSON and its counters. -/
structure Recipe where
  commands : List Command
  counters : List CounterSpec

/-- A counter that waits for the index of its rule. -/
structure Pending where
  position : Nat
  purpose : Purpose
  probe : Option Nat

/-- Move a command to the table of the recipe. -/
def Command.moveTo (name : TableName) : Command → Command
  | .table family _ => .table family name
  | .chain base => .chain { base with table := name }
  | .rule filter => .rule { filter with table := name }

/-- `append_counter`: the counter stands in front of the verdict. -/
def withCounter (expr : List Expression) : List Expression :=
  expr.take (expr.length - 1) ++ .counter :: expr.drop (expr.length - 1)

/-- The counter of an approved rule. -/
def counted : Command → Command × Option Pending
  | .rule rule =>
      (.rule { rule with expr := withCounter rule.expr }, some
          { position := rule.expr.length - 1
            purpose :=
              if rule.expr.getLast? = some .accept then .allow else .guardDrop
            probe := none })
  | command => (command, none)

/-- The comparisons of a whole frame, sixteen bytes each. -/
def frameMatches (frame : Bytes) : List Expression :=
  (List.range ((frame.length + 15) / 16)).map fun chunk =>
    let part := (frame.drop (chunk * 16)).take 16
    .match (.linkLayer (chunk * 16 * 8) (part.length * 8)) (.hex part)

/-- A rule of the recipe in prerouting. -/
def diagnostic (table : TableName) (expr : List Expression) : Command :=
  .rule
    { family := .bridge
      table := table
      chain := .prerouting
      expr := expr }

/-- What a probe has to match. -/
def probeMatches (binding : NetworkBinding) (probe : Probe) : List Expression :=
  .match .iif (.number binding.runner.ifindex) :: frameMatches probe.frame

/-- The rules that count a probe and, except for the first, drop it. -/
def diagnostics (table : TableName) (binding : NetworkBinding) (index : Nat)
    (probe : Probe) : List (Command × Option Pending) :=
  let expr := probeMatches binding probe
  (diagnostic table (expr ++ [.counter]),
    some ⟨expr.length, .ingress, some index⟩) ::
    if index = 0 then
      []
    else
      [(diagnostic table (expr ++ [.counter, .drop]),
        some ⟨expr.length, .terminalDrop, some index⟩)]

/-- The last rule on a hook of the bridge. -/
def fallback (table : TableName) (hook : Hook) : Command × Option Pending :=
  (.rule
    { family := .bridge
      table := table
      chain := hook
      expr := [.counter, .drop] },
    some ⟨0, .fallbackDrop, none⟩)

/-- Whether a command adds a rule. -/
def Command.isRule : Command → Bool
  | .rule _ => true
  | _ => false

/-- Insert commands in front of the first rule. -/
def insertBeforeRules (extra commands : List (Command × Option Pending)) :
    List (Command × Option Pending) :=
  commands.takeWhile (fun command => !command.1.isRule) ++ extra ++
    commands.dropWhile (fun command => !command.1.isRule)

/-- The counters of the rules, with the index each rule ended up at. -/
def countersOf (hashes : Hashes) (context : Uuid)
    (commands : List (Command × Option Pending)) : List CounterSpec :=
  commands.zipIdx.filterMap fun ((_, pending?), index) =>
    pending?.map fun pending =>
      { identity :=
          hashes.counter context index pending.position pending.purpose
        objectIndex := index
        expressionIndex := pending.position
        purpose := pending.purpose
        probeIndex := pending.probe }

/-- The commands of `compile_counter_rules`. -/
def recipeCommands (hashes : Hashes) (identifier : Uuid)
    (binding : NetworkBinding) (context : Uuid) (active : Bool)
    (approved : List Command) : List (Command × Option Pending) :=
  let table := TableName.tcc1 identifier
  let commands := approved.map fun command => counted (command.moveTo table)
  let extra :=
    if active then
      ((samplePlan hashes binding context).mapIdx
        (diagnostics table binding)).flatten
    else
      []
  insertBeforeRules extra commands ++
    [.prerouting, .input, .forward, .output].map (fallback table)

/-- `compile_counter_rules`. -/
def compileCounterRules (hashes : Hashes) (identifier : Uuid)
    (runtime : RuntimeApproval) (binding : NetworkBinding) (context : Uuid)
    (active : Bool) : Except Denied Recipe := do
  NetworkProfile.checkAddresses runtime.network
  binding.postInit
  require (binding.runtimeApprovalDigest = hashes.runtime runtime ∧
      binding.daemon = runtime.daemon ∧
      binding.networkId = runtime.network.networkId ∧
      binding.scope = runtime.scope ∧
      binding.target.ipv4 = runtime.network.targetIpv4 ∧
      binding.runner.ipv4 = runtime.network.runnerIpv4)
    "counter_runtime_binding_mismatch"
  let approved ← approvedRules identifier runtime binding active
  let commands :=
    recipeCommands hashes identifier binding context active approved
  pure
    { commands := commands.map Prod.fst
      counters := countersOf hashes context commands }

end TicketSandbox.Firewall
