import Mathlib.Data.String.Basic
import TicketSandbox.Library.Groupings

namespace TicketSandbox.Network

/-!
# The contracts of a native installation

`trusted_checker_network/native_v2_contracts.py`: the tables, chains and rules
of an installation, the catalog that they come from, and the binding that pins
them.  The formats of texts and numbers are those of the types.
-/

/-- A content digest. -/
abbrev Digest := Nat

/-- `MAX_OBJECTS`. -/
def maxObjects2 : Nat := 128

/-- `MAX_EXPRESSIONS`. -/
def maxExpressions2 : Nat := 64

/-- `NamespaceKey2`. -/
structure NamespaceKey2 where
  hostBootUuid : String
  netnsInode : Nat
  readerSessionUuid : String
  namespaceBindingGeneration : Nat
  deriving Repr, DecidableEq

/-! ## Paths -/

/-- The families of a table. -/
inductive Family2 where
  | bridge
  | inet
  deriving Repr, DecidableEq

/-- The text of a family. -/
def Family2.text : Family2 → String
  | .bridge => "bridge"
  | .inet => "inet"

/-- `_table_path`. -/
structure TablePath2 where
  family : Family2
  name : String
  deriving Repr, DecidableEq

/-- `_chain_path`. -/
structure ChainPath2 where
  table : TablePath2
  name : String
  deriving Repr, DecidableEq

/-- The texts that a table is sorted by. -/
def TablePath2.key (path : TablePath2) : List String :=
  [path.family.text, path.name]

/-- The texts that a chain is sorted by. -/
def ChainPath2.key (path : ChainPath2) : List String :=
  [path.table.family.text, path.table.name, path.name]

/-! ## Expressions -/

/-- `Meta2`. -/
inductive Meta2 where
  | iif
  | oif
  | iifname
  | oifname
  | l4proto
  deriving Repr, DecidableEq

/-- `Payload2`: a protocol and one of its fields. -/
inductive Payload2 where
  | etherType
  | etherSaddr
  | etherDaddr
  | ipSaddr
  | ipDaddr
  | ipProtocol
  | ipFragOff
  | tcpSport
  | tcpDport
  | udpSport
  | udpDport
  | arpOperation
  | arpSaddrEther
  | arpSaddrIp
  | arpDaddrIp
  deriving Repr, DecidableEq

/-- What is matched: `Meta2`, `Payload2`, `Ct2`, `FragmentMask2` or
`RawPayload2`. -/
inductive Left2 where
  | header (key : Meta2)
  | payload (field : Payload2)
  | ct
  | fragmentMask (mask : Nat)
  | rawPayload (offset length : Nat)
  deriving Repr, DecidableEq

/-- The operators of a match. -/
inductive Operator2 where
  | equals
  | isIn
  deriving Repr, DecidableEq

/-- What is matched with. -/
inductive Literal2 where
  | text (value : String)
  | number (value : Nat)
  deriving Repr, DecidableEq

/-- The verdicts, which are also the policies of a chain. -/
inductive Verdict2 where
  | accept
  | drop
  deriving Repr, DecidableEq

/-- `Match2`, `AnonymousCounter2` or `Verdict2`. -/
inductive Expression2 where
  | compare (left : Left2) (op : Operator2) (right : Literal2)
  | counter
  | verdict (verdict : Verdict2)
  deriving Repr, DecidableEq

/-- The expression is a counter. -/
def Expression2.isCounter : Expression2 → Bool
  | .counter => true
  | _ => false

/-- The verdict of an expression. -/
def Expression2.verdict? : Expression2 → Option Verdict2
  | .verdict found => some found
  | _ => none

/-- The positions of the counters. -/
def counterPositions (expressions : List Expression2) : List Nat :=
  expressions.findIdxs Expression2.isCounter

/-- `_expressions`. -/
structure IsLayout (expressions : List Expression2) : Prop where
  size : 1 ≤ expressions.length ∧ expressions.length ≤ maxExpressions2
  counters : (counterPositions expressions).length ≤ 1
  verdicts : expressions.filterMap Expression2.verdict? = [] ∨
      expressions.findIdxs (fun node => node.verdict?.isSome) =
        [expressions.length - 1]

/-! ## Identities -/

/-- The types of a chain. -/
inductive ChainType2 where
  | filter
  deriving Repr, DecidableEq

/-- The hooks of a chain. -/
inductive Hook2 where
  | prerouting
  | input
  | forward
  | output
  deriving Repr, DecidableEq

/-- `InstallKey2`. -/
structure InstallKey2 where
  approvalDigest : Digest
  contextUuid : String
  bindingDigest : Digest
  writerEpochUuid : String
  installEpochUuid : String
  installGeneration : Nat
  deriving Repr, DecidableEq

/-- `TableIdentity2`. -/
structure TableIdentity2 where
  namespaceKey : NamespaceKey2
  installation : InstallKey2
  family : Family2
  name : String
  handle : Nat
  deriving Repr, DecidableEq

/-- `_table_path`. -/
def TableIdentity2.path (table : TableIdentity2) : TablePath2 :=
  ⟨table.family, table.name⟩

/-- `ChainIdentity2`. -/
structure ChainIdentity2 where
  parent : TableIdentity2
  name : String
  handle : Nat
  chainType : ChainType2
  hook : Hook2
  priority : Int
  policy : Verdict2
  deriving Repr, DecidableEq

/-- `_chain_path`. -/
def ChainIdentity2.path (chain : ChainIdentity2) : ChainPath2 :=
  ⟨chain.parent.path, chain.name⟩

/-- `RuleIdentity2`. -/
structure RuleIdentity2 where
  parent : ChainIdentity2
  handle : Nat
  canonicalRuleId : Digest
  ordinal : Nat
  staticExpressionDigest : Digest
  deriving Repr, DecidableEq

/-- What a counter counts. -/
inductive Purpose2 where
  | ingress
  | terminalDrop
  | allow
  | guardDrop
  | fallbackDrop
  deriving Repr, DecidableEq

/-- `CounterSlot2`. -/
structure CounterSlot2 where
  parent : RuleIdentity2
  canonicalCounterId : Digest
  expressionPosition : Nat
  purpose : Purpose2
  probeId : Option Digest

/-! ## Catalogs -/

/-- `CanonicalTableSpec2`. -/
structure CanonicalTableSpec2 where
  family : Family2
  name : String
  deriving Repr, DecidableEq

/-- `_table_path`. -/
def CanonicalTableSpec2.path (table : CanonicalTableSpec2) : TablePath2 :=
  ⟨table.family, table.name⟩

/-- `CanonicalChainSpec2`. -/
structure CanonicalChainSpec2 where
  parent : CanonicalTableSpec2
  name : String
  chainType : ChainType2
  hook : Hook2
  priority : Int
  policy : Verdict2
  ruleCount : Nat
  deriving Repr, DecidableEq

/-- `_chain_path`. -/
def CanonicalChainSpec2.path (chain : CanonicalChainSpec2) : ChainPath2 :=
  ⟨chain.parent.path, chain.name⟩

/-- `CanonicalRuleSpec2`. -/
structure CanonicalRuleSpec2 where
  parent : CanonicalChainSpec2
  canonicalRuleId : Digest
  ordinal : Nat
  staticExpressionDigest : Digest
  expressionCount : Nat
  counterPosition : Nat
  purpose : Purpose2
  probeId : Option Digest
  deriving Repr, DecidableEq

/-- `CanonicalRuleCatalog2`. -/
structure CanonicalRuleCatalog2 where
  canonicalRecipeDigest : Digest
  tables : List CanonicalTableSpec2
  chains : List CanonicalChainSpec2
  rules : List CanonicalRuleSpec2
  allowedProbeIds : List Digest
  deriving Repr, DecidableEq

/-! ## Installations -/

/-- `OfflineApproval2`. -/
structure OfflineApproval2 where
  approvalUuid : String
  contextUuid : String
  scope : String
  canonicalRecipeDigest : Digest
  catalogDigest : Digest
  bindingDigest : Digest
  nativeProfileDigest : Digest
  topologyProfileDigest : Digest
  deriving Repr, DecidableEq

/-- `InstallIntent2`. -/
structure InstallIntent2 where
  approval : OfflineApproval2
  namespaceKey : NamespaceKey2
  installation : InstallKey2
  catalog : CanonicalRuleCatalog2
  transactionUuid : String
  creationRecordDigest : Digest
  deriving Repr, DecidableEq

/-- `WitnessReference2`. -/
structure WitnessReference2 where
  intentDigest : Digest
  installationKeyDigest : Digest
  transactionUuid : String
  referenceDigest : Digest

/-- `InstallationBinding2`. -/
structure InstallationBinding2 where
  intent : InstallIntent2
  witnessReference : WitnessReference2
  independentReadbackReferenceDigest : Digest
  tables : List TableIdentity2
  chains : List ChainIdentity2
  rules : List RuleIdentity2
  counters : List CounterSlot2

/-- `NativeFormatProfile2`, without its constant fields. -/
structure NativeFormatProfile2 where
  nftBinaryDigest : Digest
  deriving Repr, DecidableEq

/-- `ExpectedRuleExpressions2`. -/
structure ExpectedRuleExpressions2 where
  canonicalRuleId : Digest
  expressions : List Expression2

/-! ## Digests -/

/-- What is hashed, by its kind. -/
inductive Hashed where
  | canonicalRulePath (path : ChainPath2) (ordinal : Nat)
  | canonicalCounterSlot (ruleId : Digest) (position : Nat) (purpose : Purpose2)
      (probeId : Option Digest)
  | staticExpressions (expressions : List Expression2)
  | expectedRecipe (tables : List TablePath2)
      (chains : List CanonicalChainSpec2)
      (rules :
        List (Digest × Nat × Digest × Nat × Nat × Purpose2 × Option Digest))
      (allowedProbeIds : List Digest)
      (expressions : List ExpectedRuleExpressions2)
  | profile (profile : NativeFormatProfile2)
  | installation (installation : InstallKey2)
  | approval (approval : OfflineApproval2)
  | catalog (catalog : CanonicalRuleCatalog2)
  | intent (intent : InstallIntent2)

/-- `canonical_rule_id2`. -/
def canonicalRuleId2
    (hash : Hashed → Digest) (path : ChainPath2) (ordinal : Nat) : Digest :=
  hash (.canonicalRulePath path ordinal)

/-- `canonical_counter_id2`. -/
def canonicalCounterId2
    (hash : Hashed → Digest) (ruleId : Digest) (position : Nat)
    (purpose : Purpose2) (probeId : Option Digest) : Digest :=
  hash (.canonicalCounterSlot ruleId position purpose probeId)

/-- `static_expression_digest2`. -/
def staticExpressionDigest2
    (hash : Hashed → Digest) (expressions : List Expression2) : Digest :=
  hash (.staticExpressions expressions)

end TicketSandbox.Network

namespace TicketSandbox.Network

/-!
# Readback of a native installation

`trusted_checker_network/native_v2_readback.py`: a dump is a list of tables,
chains and rules.  It is scanned into a graph, whose tables and chains are then
sorted by their paths.
-/

open Groupings (group lookup? sortedBy)

/-! ## Dumps -/

/-- `CounterNumbers2`. -/
structure CounterNumbers2 where
  packets : Nat
  bytes : Nat

/-- `NativeTable2`. -/
structure NativeTable2 where
  family : Family2
  name : String
  handle : Nat

/-- The path of a table. -/
def NativeTable2.path (table : NativeTable2) : TablePath2 :=
  ⟨table.family, table.name⟩

/-- `NativeChain2`. -/
structure NativeChain2 where
  family : Family2
  table : String
  name : String
  handle : Nat
  chainType : ChainType2
  hook : Hook2
  priority : Int
  policy : Verdict2

/-- The path of the table of a chain. -/
def NativeChain2.parent (chain : NativeChain2) : TablePath2 :=
  ⟨chain.family, chain.table⟩

/-- The path of a chain. -/
def NativeChain2.path (chain : NativeChain2) : ChainPath2 :=
  ⟨chain.parent, chain.name⟩

/-- `NativeRule2`: numbers stand where there is a counter. -/
structure NativeRule2 where
  family : Family2
  table : String
  chain : String
  handle : Nat
  expressions : List Expression2
  counter : Option CounterNumbers2
  layout : IsLayout expressions
  counted : counter.isSome = expressions.any Expression2.isCounter

/-- The path of the table of a rule. -/
def NativeRule2.scope (rule : NativeRule2) : TablePath2 :=
  ⟨rule.family, rule.table⟩

/-- The path of the chain of a rule. -/
def NativeRule2.parent (rule : NativeRule2) : ChainPath2 :=
  ⟨rule.scope, rule.chain⟩

/-- An object of a dump. -/
inductive NativeObject2 where
  | table (table : NativeTable2)
  | chain (chain : NativeChain2)
  | rule (rule : NativeRule2)

/-- `ReadbackContext2`, as far as it is read. -/
structure ReadbackContext2 where
  namespaceKey : NamespaceKey2
  installation : InstallKey2

/-- `DecodedNative2`. -/
structure DecodedNative2 where
  profile : NativeFormatProfile2
  context : ReadbackContext2
  objects : List NativeObject2
  limited : objects.length ≤ maxObjects2 - 1

/-! ## Graphs -/

/-- `NormalizedRule2`: numbers stand where there is a counter. -/
structure NormalizedRule2 where
  identity : RuleIdentity2
  expressions : List Expression2
  counter : Option CounterNumbers2
  layout : IsLayout expressions
  counted : counter.isSome = expressions.any Expression2.isCounter

/-- `NormalizedChain2`. -/
structure NormalizedChain2 where
  identity : ChainIdentity2
  rules : List NormalizedRule2

/-- `NormalizedTable2`. -/
structure NormalizedTable2 where
  identity : TableIdentity2
  chains : List NormalizedChain2

/-- What is collected of a dump. -/
structure Graph2 where
  tables : List TableIdentity2
  chains : List ChainIdentity2
  rules : ChainPath2 → List NormalizedRule2
  tableHandles : List (Family2 × Nat)
  chainHandles : List (TablePath2 × Nat)
  ruleHandles : List (TablePath2 × Nat)
  hooks : List (Family2 × Hook2 × Int)

/-- What is collected of nothing. -/
def Graph2.empty : Graph2 where
  tables := []
  chains := []
  rules := fun _ => []
  tableHandles := []
  chainHandles := []
  ruleHandles := []
  hooks := []

/-- The codes of `ContractViolation2` that normalization raises. -/
inductive ReadbackViolation2 where
  | scopeCollision
  | parentMissing
  | integerInvalid

/-- The identity of a table. -/
def NativeTable2.identity
    (table : NativeTable2) (context : ReadbackContext2) : TableIdentity2 where
  namespaceKey := context.namespaceKey
  installation := context.installation
  family := table.family
  name := table.name
  handle := table.handle

/-- The identity of a chain in its table. -/
def NativeChain2.identity
    (chain : NativeChain2) (parent : TableIdentity2) : ChainIdentity2 where
  parent
  name := chain.name
  handle := chain.handle
  chainType := chain.chainType
  hook := chain.hook
  priority := chain.priority
  policy := chain.policy

variable (hash : Hashed → Digest)

/-- A rule at its position in a chain. -/
def NativeRule2.normalized (parent : ChainIdentity2) (ordinal : Nat)
    (rule : NativeRule2) : NormalizedRule2 where
  identity :=
    { parent
      handle := rule.handle
      canonicalRuleId := canonicalRuleId2 hash rule.parent ordinal
      ordinal
      staticExpressionDigest := staticExpressionDigest2 hash rule.expressions }
  expressions := rule.expressions
  counter := rule.counter
  layout := rule.layout
  counted := rule.counted

/-- A table is added. -/
def Graph2.addTable (context : ReadbackContext2) (graph : Graph2)
    (table : NativeTable2) : Except ReadbackViolation2 Graph2 :=
  if table.path ∈ graph.tables.map TableIdentity2.path then
    .error .scopeCollision
  else if (table.family, table.handle) ∈ graph.tableHandles then
    .error .scopeCollision
  else
    .ok
      { graph with
        tables := graph.tables ++ [table.identity context]
        tableHandles := graph.tableHandles ++ [(table.family, table.handle)] }

/-- A chain is added to its table. -/
def Graph2.addChain (graph : Graph2)
    (chain : NativeChain2) : Except ReadbackViolation2 Graph2 :=
  match lookup? TableIdentity2.path graph.tables chain.parent with
  | none => .error .parentMissing
  | some parent =>
      if chain.path ∈ graph.chains.map ChainIdentity2.path then
        .error .scopeCollision
      else if (chain.parent, chain.handle) ∈ graph.chainHandles then
        .error .scopeCollision
      else if (chain.family, chain.hook, chain.priority) ∈ graph.hooks then
        .error .scopeCollision
      else
        .ok
          { graph with
            chains := graph.chains ++ [chain.identity parent]
            rules := Function.update graph.rules chain.path []
            chainHandles := graph.chainHandles ++ [(chain.parent, chain.handle)]
            hooks :=
              graph.hooks ++ [(chain.family, chain.hook, chain.priority)] }

/-- A rule is added to its chain. -/
def Graph2.addRule
    (graph : Graph2) (rule : NativeRule2) : Except ReadbackViolation2 Graph2 :=
  match lookup? ChainIdentity2.path graph.chains rule.parent with
  | none => .error .parentMissing
  | some parent =>
      if (rule.scope, rule.handle) ∈ graph.ruleHandles then
        .error .scopeCollision
      else if maxObjects2 - 1 < (graph.rules rule.parent).length then
        .error .integerInvalid
      else
        .ok
          { graph with
            rules := Function.update graph.rules rule.parent
                (graph.rules rule.parent ++ [rule.normalized hash parent
                    (graph.rules rule.parent).length])
            ruleHandles := graph.ruleHandles ++ [(rule.scope, rule.handle)] }

/-- An object of the dump is added. -/
def Graph2.add (context : ReadbackContext2) (graph : Graph2) :
    NativeObject2 → Except ReadbackViolation2 Graph2
  | .table table => graph.addTable context table
  | .chain chain => graph.addChain chain
  | .rule rule => graph.addRule hash rule

/-- The chains of a table with their rules, in the order of their paths. -/
def Graph2.chainsOf
    (graph : Graph2) (path : TablePath2) : List NormalizedChain2 :=
  (group (fun chain => chain.path.table)
      (sortedBy (fun chain => chain.path.key) graph.chains) path).map
    fun chain =>
      { identity := chain
        rules := graph.rules chain.path }

/-- The tables with their chains, in the order of their paths. -/
def Graph2.normalized (graph : Graph2) : List NormalizedTable2 :=
  (sortedBy (fun table => table.path.key) graph.tables).map fun table =>
    { identity := table
      chains := graph.chainsOf table.path }

/-- `_build_graph`. -/
def buildGraph (decoded : DecodedNative2) :
    Except ReadbackViolation2 (List NormalizedTable2) := do
  let graph ←
    decoded.objects.foldlM (Graph2.add hash decoded.context) Graph2.empty
  if ∃ scope ∈ graph.chainHandles, scope ∈ graph.ruleHandles then
    .error .scopeCollision
  else
    .ok graph.normalized

/-- `NormalizedRules2`. -/
structure NormalizedRules2 where
  decoded : DecodedNative2
  tables : List NormalizedTable2

/-- `normalize_rules2`. -/
def normalizeRules2
    (decoded : DecodedNative2) : Except ReadbackViolation2 NormalizedRules2 :=
  (buildGraph hash decoded).map fun tables => { decoded, tables }

end TicketSandbox.Network
