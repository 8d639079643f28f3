import TicketSandbox.Library.Findings
import TicketSandbox.Network.Readback

namespace TicketSandbox.Network

/-!
# Recipes

`native_v2_contracts.py` and `native_v2_readback.py`: what the constructors of
a catalog, an intent, a binding and an expected recipe check, and the exact
comparison of a normalized dump with them.
-/

open Findings (SameMembers lastWith)

/-! ## Catalogs -/

/-- The positions behind the counter of a rule, with its own. -/
def Purpose2.tail : Purpose2 → Nat
  | .ingress => 1
  | _ => 2

variable (hash : Hashed → Digest)

/-- `canonical_counter_id`. -/
def CanonicalRuleSpec2.canonicalCounterId
    (spec : CanonicalRuleSpec2) : Digest :=
  canonicalCounterId2 hash spec.canonicalRuleId spec.counterPosition
    spec.purpose spec.probeId

/-- The slot of a chain. -/
def CanonicalChainSpec2.slot (chain : CanonicalChainSpec2) :
    Family2 × Hook2 × Int :=
  (chain.parent.family, chain.hook, chain.priority)

/-- What the constructor of a rule of a catalog checks. -/
structure CanonicalRuleSpec2.Accepted
    (hash : Hashed → Digest) (spec : CanonicalRuleSpec2) : Prop where
  path :
    spec.canonicalRuleId = canonicalRuleId2 hash spec.parent.path spec.ordinal
  ordinal :
    spec.ordinal < spec.parent.ruleCount ∧ spec.ordinal ≤ maxObjects2 - 1
  count : 1 ≤ spec.expressionCount ∧ spec.expressionCount ≤ maxExpressions2
  probe :
    spec.probeId.isSome ↔ spec.purpose = .ingress ∨ spec.purpose = .terminalDrop
  position : spec.counterPosition + spec.purpose.tail = spec.expressionCount
  fallback : spec.purpose = .fallbackDrop ↔ spec.counterPosition = 0

/-- What the constructor of a catalog checks. -/
structure CanonicalRuleCatalog2.Accepted
    (hash : Hashed → Digest) (catalog : CanonicalRuleCatalog2) : Prop where
  accepted : ∀ rule ∈ catalog.rules, rule.Accepted hash
  counts : ∀ chain ∈ catalog.chains, chain.ruleCount ≤ maxObjects2
  nonempty : catalog.tables ≠ [] ∧ catalog.chains ≠ [] ∧ catalog.rules ≠ []
  size : catalog.tables.length + catalog.chains.length + catalog.rules.length ≤
      maxObjects2
  probes : catalog.allowedProbeIds.length ≤ 15 ∧ catalog.allowedProbeIds.Nodup
  tablePaths : (catalog.tables.map CanonicalTableSpec2.path).Nodup
  chainPaths : (catalog.chains.map CanonicalChainSpec2.path).Nodup
  slots : (catalog.chains.map CanonicalChainSpec2.slot).Nodup
  ruleIds : (catalog.rules.map CanonicalRuleSpec2.canonicalRuleId).Nodup
  counterIds :
    (catalog.rules.map (CanonicalRuleSpec2.canonicalCounterId hash)).Nodup
  tableChains : ∀ table ∈ catalog.tables,
    ∃ chain ∈ catalog.chains, chain.parent = table
  chainTables : ∀ chain ∈ catalog.chains, chain.parent ∈ catalog.tables
  chainRules : ∀ chain ∈ catalog.chains,
    (catalog.rules.filter fun rule => decide (rule.parent = chain)).map
        CanonicalRuleSpec2.ordinal =
      List.range chain.ruleCount
  ruleChains : ∀ rule ∈ catalog.rules, rule.parent ∈ catalog.chains
  coverage : SameMembers catalog.allowedProbeIds
      (catalog.rules.filterMap CanonicalRuleSpec2.probeId)

/-! ## Installations -/

/-- What the constructor of an intent checks. -/
structure InstallIntent2.Accepted
    (hash : Hashed → Digest) (intent : InstallIntent2) : Prop where
  catalog : intent.catalog.Accepted hash
  approvalDigest :
    intent.installation.approvalDigest = hash (.approval intent.approval)
  contextUuid : intent.installation.contextUuid = intent.approval.contextUuid
  bindingDigest :
    intent.installation.bindingDigest = intent.approval.bindingDigest
  catalogDigest : intent.approval.catalogDigest = hash (.catalog intent.catalog)
  recipeDigest :
    intent.approval.canonicalRecipeDigest = intent.catalog.canonicalRecipeDigest

/-- What the constructor of the identity of a rule checks. -/
def RuleIdentity2.Accepted (rule : RuleIdentity2) : Prop :=
  rule.canonicalRuleId = canonicalRuleId2 hash rule.parent.path rule.ordinal

/-- What the constructor of a counter slot checks. -/
def CounterSlot2.Accepted (slot : CounterSlot2) : Prop :=
  slot.canonicalCounterId = canonicalCounterId2 hash slot.parent.canonicalRuleId
      slot.expressionPosition slot.purpose slot.probeId

/-- The scope of the handle of a table. -/
def TableIdentity2.handleScope (table : TableIdentity2) : Family2 × Nat :=
  (table.family, table.handle)

/-- The scope of the handle of a chain. -/
def ChainIdentity2.handleScope (chain : ChainIdentity2) : TablePath2 × Nat :=
  (chain.parent.path, chain.handle)

/-- The scope of the handle of a rule. -/
def RuleIdentity2.handleScope (rule : RuleIdentity2) : TablePath2 × Nat :=
  (rule.parent.parent.path, rule.handle)

/-- A table is pinned as the catalog specifies it. -/
structure TableIdentity2.Pins (intent : InstallIntent2) (table : TableIdentity2)
    (spec : CanonicalTableSpec2) : Prop where
  namespaceKey : table.namespaceKey = intent.namespaceKey
  installation : table.installation = intent.installation
  path : table.path = spec.path

/-- A chain is pinned as the catalog specifies it. -/
structure ChainIdentity2.Pins
    (tables : List TableIdentity2) (chain : ChainIdentity2)
    (spec : CanonicalChainSpec2) : Prop where
  parent : chain.parent ∈ tables
  path : chain.path = spec.path
  attributes : (chain.chainType, chain.hook, chain.priority, chain.policy) =
      (spec.chainType, spec.hook, spec.priority, spec.policy)

/-- A rule is pinned as the catalog specifies it. -/
structure RuleIdentity2.Pins
    (chains : List ChainIdentity2) (rule : RuleIdentity2)
    (spec : CanonicalRuleSpec2) : Prop where
  parent : rule.parent ∈ chains
  path : rule.parent.path = spec.parent.path
  identity : (rule.canonicalRuleId, rule.ordinal, rule.staticExpressionDigest) =
      (spec.canonicalRuleId, spec.ordinal, spec.staticExpressionDigest)

/-- A counter is pinned as the catalog specifies it. -/
structure CounterSlot2.Pins
    (hash : Hashed → Digest) (slot : CounterSlot2) (rule : RuleIdentity2)
    (spec : CanonicalRuleSpec2) : Prop where
  parent : slot.parent = rule
  identity : (slot.canonicalCounterId, slot.expressionPosition, slot.purpose,
        slot.probeId) =
      (spec.canonicalCounterId hash, spec.counterPosition, spec.purpose,
        spec.probeId)

/-- What the constructor of a binding checks. -/
structure InstallationBinding2.Accepted
    (hash : Hashed → Digest) (binding : InstallationBinding2) : Prop where
  intent : binding.intent.Accepted hash
  witness :
    binding.witnessReference.intentDigest = hash (.intent binding.intent) ∧
      binding.witnessReference.installationKeyDigest =
        hash (.installation binding.intent.installation) ∧
      binding.witnessReference.transactionUuid = binding.intent.transactionUuid
  rulePaths : ∀ rule ∈ binding.rules, rule.Accepted hash
  counterPaths : ∀ slot ∈ binding.counters, slot.Accepted hash
  tablePaths : (binding.tables.map TableIdentity2.path).Nodup
  tableHandles : (binding.tables.map TableIdentity2.handleScope).Nodup
  chainPaths : (binding.chains.map ChainIdentity2.path).Nodup
  chainHandles : (binding.chains.map ChainIdentity2.handleScope).Nodup
  ruleHandles : (binding.rules.map RuleIdentity2.handleScope).Nodup
  apart : ∀ scope ∈ binding.chains.map ChainIdentity2.handleScope,
    scope ∉ binding.rules.map RuleIdentity2.handleScope
  ruleIds : (binding.rules.map RuleIdentity2.canonicalRuleId).Nodup
  counterIds : (binding.counters.map CounterSlot2.canonicalCounterId).Nodup
  tables : List.Forall₂ (TableIdentity2.Pins binding.intent) binding.tables
      binding.intent.catalog.tables
  chains : List.Forall₂ (ChainIdentity2.Pins binding.tables) binding.chains
      binding.intent.catalog.chains
  rules : List.Forall₂ (RuleIdentity2.Pins binding.chains) binding.rules
      binding.intent.catalog.rules
  counters : List.Forall₂ (fun slot pinned =>
        CounterSlot2.Pins hash slot pinned.1 pinned.2)
      binding.counters
      (binding.rules.zip binding.intent.catalog.rules)

/-! ## Recipes -/

/-- `ExpectedRecipe2`. -/
structure ExpectedRecipe2 where
  intent : InstallIntent2
  profile : NativeFormatProfile2
  rules : List ExpectedRuleExpressions2

/-- `expected_recipe_digest2`. -/
def expectedRecipeDigest2 (catalog : CanonicalRuleCatalog2)
    (expressions : List ExpectedRuleExpressions2) : Digest :=
  hash (.expectedRecipe (catalog.tables.map CanonicalTableSpec2.path)
      catalog.chains
      (catalog.rules.map fun rule =>
        (rule.canonicalRuleId, rule.ordinal, rule.staticExpressionDigest,
          rule.expressionCount, rule.counterPosition, rule.purpose,
          rule.probeId))
      catalog.allowedProbeIds expressions)

/-- The verdicts of a rule with the purpose. -/
def Purpose2.verdicts : Purpose2 → List Verdict2
  | .ingress => []
  | .allow => [.accept]
  | _ => [.drop]

/-- The expressions are as the catalog specifies them. -/
structure ExpectedRuleExpressions2.Follows
    (hash : Hashed → Digest) (rule : ExpectedRuleExpressions2)
    (spec : CanonicalRuleSpec2) : Prop where
  layout : IsLayout rule.expressions
  ruleId : rule.canonicalRuleId = spec.canonicalRuleId
  count : rule.expressions.length = spec.expressionCount
  digest :
    staticExpressionDigest2 hash rule.expressions = spec.staticExpressionDigest
  positions : counterPositions rule.expressions = [spec.counterPosition]
  verdicts :
    rule.expressions.filterMap Expression2.verdict? = spec.purpose.verdicts

/-- What the constructor of an expected recipe checks. -/
structure ExpectedRecipe2.Accepted
    (hash : Hashed → Digest) (expected : ExpectedRecipe2) : Prop where
  intent : expected.intent.Accepted hash
  profile : expected.intent.approval.nativeProfileDigest =
      hash (.profile expected.profile)
  rules : List.Forall₂ (ExpectedRuleExpressions2.Follows hash) expected.rules
      expected.intent.catalog.rules
  digest : expected.intent.catalog.canonicalRecipeDigest =
      expectedRecipeDigest2 hash expected.intent.catalog expected.rules

/-! ## Comparison -/

/-- The codes of `ContractViolation2` that the comparison raises. -/
inductive RecipeViolation2 where
  | staleBinding
  | generationChanged
  | nativeProfileMismatch
  | recipeMismatch
  | identityMismatch
  | expressionMismatch
  | counterLayoutInvalid

/-- What the comparison says of a recipe that it accepts. -/
inductive RecipeReason2 where
  | rawPayloadRepresentationUnproven
  | ctSemanticsUnproven
  | offlineStructuralRecipeMatched

/-- The comparison of one rule with the pinned one. -/
def ruleViolation? (rules : List NormalizedRule2) (pinned : RuleIdentity2)
    (slot : CounterSlot2)
    (expected : ExpectedRuleExpressions2) : Option RecipeViolation2 :=
  match lastWith (fun rule => rule.identity.canonicalRuleId)
      pinned.canonicalRuleId rules
  with
  | none => some .recipeMismatch
  | some actual =>
      if actual.expressions ≠ expected.expressions then
        some .expressionMismatch
      else if actual.identity ≠ pinned then
        some .identityMismatch
      else if counterPositions actual.expressions = [slot.expressionPosition] ∧
          actual.counter.isSome then
        none
      else
        some .counterLayoutInvalid

/-- What is matched is the state of a connection. -/
def Expression2.isCt : Expression2 → Bool
  | .compare .ct _ _ => true
  | _ => false

/-- What is matched is a raw payload. -/
def Expression2.isRawPayload : Expression2 → Bool
  | .compare (.rawPayload _ _) _ _ => true
  | _ => false

/-- The reason of an accepted recipe. -/
def ExpectedRecipe2.reason (expected : ExpectedRecipe2) : RecipeReason2 :=
  if expected.rules.any fun rule =>
      rule.expressions.any Expression2.isRawPayload then
    .rawPayloadRepresentationUnproven
  else if expected.rules.any fun rule =>
      rule.expressions.any Expression2.isCt then
    .ctSemanticsUnproven
  else
    .offlineStructuralRecipeMatched

variable (normalized : NormalizedRules2)

/-- The normalized table of a pinned one. -/
def actualTable? (pinned : TableIdentity2) : Option NormalizedTable2 :=
  lastWith (fun table => table.identity.path) pinned.path normalized.tables

/-- The chains of the tables that are pinned. -/
def actualChains (binding : InstallationBinding2) : List NormalizedChain2 :=
  (binding.tables.filterMap (actualTable? normalized)).flatMap
    NormalizedTable2.chains

/-- The rules of the tables that are pinned. -/
def actualRules (binding : InstallationBinding2) : List NormalizedRule2 :=
  (actualChains normalized binding).flatMap NormalizedChain2.rules

/-- `_compare`, behind the checks of the constructors. -/
def compare (expected : ExpectedRecipe2) (binding : InstallationBinding2)
    (intent : InstallIntent2) : Except RecipeViolation2 RecipeReason2 :=
  let context := normalized.decoded.context
  let chains := actualChains normalized binding
  let rules := actualRules normalized binding
  if binding.intent ≠ intent ∨ expected.intent ≠ intent then
    .error .staleBinding
  else if context.namespaceKey ≠ intent.namespaceKey ∨
      context.installation ≠ intent.installation then
    .error .generationChanged
  else if normalized.decoded.profile ≠ expected.profile then
    .error .nativeProfileMismatch
  else if ¬ SameMembers (normalized.tables.map fun table => table.identity.path)
      (binding.tables.map TableIdentity2.path) then
    .error .recipeMismatch
  else if ∃ pinned ∈ binding.tables,
      (actualTable? normalized pinned).map NormalizedTable2.identity ≠
        some pinned then
    .error .identityMismatch
  else if ¬ SameMembers (chains.map fun chain => chain.identity.path)
        (binding.chains.map ChainIdentity2.path) ∨
      ¬ SameMembers (rules.map fun rule => rule.identity.canonicalRuleId)
        (binding.rules.map RuleIdentity2.canonicalRuleId) then
    .error .recipeMismatch
  else if ∃ pinned ∈ binding.chains,
      (lastWith (fun chain => chain.identity.path) pinned.path chains).map
          NormalizedChain2.identity ≠
        some pinned then
    .error .identityMismatch
  else
    match (binding.rules.zip (binding.counters.zip expected.rules)).findSome?
        fun row => ruleViolation? rules row.1 row.2.1 row.2.2
    with
    | some violation => .error violation
    | none => .ok expected.reason

/-- `ValidatedRecipe2`. -/
structure ValidatedRecipe2 where
  normalized : NormalizedRules2
  expected : ExpectedRecipe2
  pinnedBinding : InstallationBinding2
  expectedIntent : InstallIntent2

/-- `validate_recipe2`. -/
def validateRecipe2 (expected : ExpectedRecipe2)
    (pinnedBinding : InstallationBinding2) (expectedIntent : InstallIntent2) :
    Except RecipeViolation2 ValidatedRecipe2 :=
  (compare normalized expected pinnedBinding expectedIntent).map fun _ =>
    { normalized, expected, pinnedBinding, expectedIntent }

end TicketSandbox.Network
