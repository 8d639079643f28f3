import Mathlib.Logic.Equiv.List
import Mathlib.Tactic.DeriveEncodable
import TicketSandbox.Network.Recipes
import TicketSandbox.Network.Reorderings

namespace TicketSandbox.Network

/-!
# Recipes and dumps

A dump is validated against a recipe exactly when it has the tables, the chains
and the rules that are pinned, whatever the digests are, as long as no two
contents have the same one.
-/

open Findings
  (SameMembers carried_perm kept_perm lastWith lastWith_some)
open Groupings
  (filter_map_of_forall₂ group group_flatMap group_map
    groups_perm lookup?_eq_some mapIdx_injective mapIdx_perm map_eq_mapIdx
    mem_group sortedBy sortedBy_perm)

/-! ## What is pinned -/

/-- The handles and the expressions of the rules that a dump has in a
chain. -/
def dumpedRules (objects : List NativeObject2)
    (path : ChainPath2) : List (Nat × List Expression2) :=
  (group NativeRule2.parent (rulesOf objects) path).map fun rule =>
    (rule.handle, rule.expressions)

/-- The handles and the expressions of the rules that are pinned in a
chain. -/
def pinnedRules (binding : InstallationBinding2) (expected : ExpectedRecipe2)
    (chain : ChainIdentity2) : List (Nat × List Expression2) :=
  (group (fun row => row.1.parent) (binding.rules.zip expected.rules)
      chain).map fun row => (row.1.handle, row.2.expressions)

/-- The dump has the tables, the chains and, in their order, the rules of the
recipe, as they are pinned, and nothing else. -/
structure Realizes (decoded : DecodedNative2) (binding : InstallationBinding2)
    (expected : ExpectedRecipe2) : Prop where
  namespaceKey : decoded.context.namespaceKey = binding.intent.namespaceKey
  installation : decoded.context.installation = binding.intent.installation
  profile : decoded.profile = expected.profile
  tables :
    (tablesOf decoded.objects).Perm (binding.tables.map TableIdentity2.native)
  chains :
    (chainsOf decoded.objects).Perm (binding.chains.map ChainIdentity2.native)
  rules : ∀ chain ∈ binding.chains,
    dumpedRules decoded.objects chain.path = pinnedRules binding expected chain
  noOthers : ∀ rule ∈ rulesOf decoded.objects,
    rule.parent ∈ binding.chains.map ChainIdentity2.path

/-! ## The comparison -/

theorem guarded_ok {ε ρ : Type} {violated : Prop} [Decidable violated]
    {violation : ε} {rest : Except ε ρ} :
    (∃ result, (if violated then .error violation else rest) = .ok result) ↔
      ¬ violated ∧ ∃ result, rest = .ok result := by
  by_cases isViolated : violated
  · rw [if_pos isViolated]
    constructor
    · rintro ⟨_, isOk⟩
      cases isOk
    · rintro ⟨fails, _⟩
      exact (fails isViolated).elim
  · rw [if_neg isViolated]
    exact ⟨fun isOk => ⟨isViolated, isOk⟩, fun ⟨_, isOk⟩ => isOk⟩

variable {normalized : NormalizedRules2} {expected : ExpectedRecipe2}
  {binding : InstallationBinding2} {hash : Hashed → Digest} {graph : Graph2}
  {chain : ChainIdentity2} {decoded : DecodedNative2}

/-- The tables, chains and rules of a dump are those of the binding. -/
def Matches (normalized : NormalizedRules2) (binding : InstallationBinding2)
    (expected : ExpectedRecipe2) : Prop :=
  SameMembers (normalized.tables.map fun table => table.identity.path)
    (binding.tables.map TableIdentity2.path) ∧
  (∀ pinned ∈ binding.tables,
    (actualTable? normalized pinned).map NormalizedTable2.identity =
      some pinned) ∧
  (SameMembers ((actualChains normalized binding).map
        fun chain => chain.identity.path)
      (binding.chains.map ChainIdentity2.path) ∧
    SameMembers ((actualRules normalized binding).map
        fun rule => rule.identity.canonicalRuleId)
      (binding.rules.map RuleIdentity2.canonicalRuleId)) ∧
  (∀ pinned ∈ binding.chains,
    (lastWith (fun chain => chain.identity.path) pinned.path
        (actualChains normalized binding)).map
        NormalizedChain2.identity =
      some pinned) ∧
  ∀ row ∈ binding.rules.zip (binding.counters.zip expected.rules),
    ruleViolation? (actualRules normalized binding) row.1 row.2.1
      row.2.2 = none

/-- What a dump has to be for its validation to succeed. -/
theorem validateRecipe2_ok {intent : InstallIntent2} :
    (∃ validated,
        validateRecipe2 normalized expected binding intent = .ok validated) ↔
      (binding.intent = intent ∧ expected.intent = intent) ∧
        (normalized.decoded.context.namespaceKey = intent.namespaceKey ∧
          normalized.decoded.context.installation = intent.installation) ∧
        normalized.decoded.profile = expected.profile ∧
        Matches normalized binding expected := by
  have compared : (∃ validated,
          validateRecipe2 normalized expected binding intent = .ok validated) ↔
        ∃ reason, compare normalized expected binding intent =
          .ok reason := by
    rw [validateRecipe2]
    cases compare normalized expected binding intent with
    | error violation =>
        constructor
        · rintro ⟨_, isOk⟩
          cases isOk
        · rintro ⟨_, isOk⟩
          cases isOk
    | ok reason => exact ⟨fun _ => ⟨reason, rfl⟩, fun _ => ⟨_, rfl⟩⟩
  rw [compared, compare, Matches]
  simp only [guarded_ok, not_or, not_not, not_exists, not_and, ne_eq]
  iterate 7 refine and_congr_right fun _ => ?_
  rw [← List.findSome?_eq_none_iff]
  cases (binding.rules.zip (binding.counters.zip expected.rules)).findSome?
      fun row =>
        ruleViolation? (actualRules normalized binding) row.1 row.2.1
          row.2.2 with
  | some violation =>
      constructor
      · rintro ⟨_, isOk⟩
        cases isOk
      · intro isNone
        cases isNone
  | none => exact ⟨fun _ => rfl, fun _ => ⟨_, rfl⟩⟩

theorem ruleViolation?_eq_none
    {rules : List NormalizedRule2} {pinned : RuleIdentity2}
    {slot : CounterSlot2} {expected : ExpectedRuleExpressions2} :
    ruleViolation? rules pinned slot expected = none ↔ ∃ actual,
        lastWith (fun rule => rule.identity.canonicalRuleId)
            pinned.canonicalRuleId rules =
          some actual ∧
        actual.expressions = expected.expressions ∧
        actual.identity = pinned ∧
        counterPositions actual.expressions = [slot.expressionPosition] ∧
        actual.counter.isSome := by
  rw [ruleViolation?]
  cases lastWith (fun rule => rule.identity.canonicalRuleId)
      pinned.canonicalRuleId rules with
  | none =>
      constructor
      · intro isNone
        cases isNone
      · rintro ⟨_, isSome, _⟩
        cases isSome
  | some actual =>
      dsimp only
      constructor
      · intro isNone
        by_cases differs : actual.expressions ≠ expected.expressions
        · rw [if_pos differs] at isNone
          cases isNone
        · rw [if_neg differs] at isNone
          by_cases other : actual.identity ≠ pinned
          · rw [if_pos other] at isNone
            cases isNone
          · rw [if_neg other] at isNone
            by_cases counted : counterPositions actual.expressions =
                    [slot.expressionPosition] ∧
                  actual.counter.isSome = true
            · exact ⟨actual, rfl, not_not.mp differs, not_not.mp other, counted⟩
            · rw [if_neg counted] at isNone
              cases isNone
      · rintro ⟨found, isSome, same, isPinned, counted⟩
        obtain rfl := Option.some.inj isSome
        rw [if_neg (not_not.mpr same), if_neg (not_not.mpr isPinned),
          if_pos counted]

/-! ## Graphs -/

/-- A chain of a graph with its rules. -/
def Graph2.chainOf
    (graph : Graph2) (chain : ChainIdentity2) : NormalizedChain2 where
  identity := chain
  rules := graph.rules chain.path

/-- The rules of all chains of a graph. -/
def Graph2.allRules (graph : Graph2) : List NormalizedRule2 :=
  graph.chains.flatMap fun chain => graph.rules chain.path

/-- What is collected has distinct keys, chains have their tables, and digests
are those of the expressions. -/
structure Graph2.IsSound (hash : Hashed → Digest) (graph : Graph2) : Prop where
  tables : (graph.tables.map TableIdentity2.path).Nodup
  chains : (graph.chains.map ChainIdentity2.path).Nodup
  covered : ∀ chain ∈ graph.chains,
    chain.path.table ∈ graph.tables.map TableIdentity2.path
  ruleIds : (graph.allRules.map fun rule => rule.identity.canonicalRuleId).Nodup
  digests : ∀ rule ∈ graph.allRules, rule.identity.staticExpressionDigest =
      staticExpressionDigest2 hash rule.expressions

theorem Graph2.normalized_tables (graph : Graph2) :
    (graph.normalized.map NormalizedTable2.identity).Perm graph.tables := by
  rw [Graph2.normalized, List.map_map]
  exact (List.map_id _).symm ▸ sortedBy_perm _ graph.tables

theorem Graph2.normalized_chains (sound : graph.IsSound hash) :
    (graph.normalized.flatMap NormalizedTable2.chains).Perm
      (graph.chains.map graph.chainOf) := by
  have paths := (sortedBy_perm (fun table : TableIdentity2 => table.path.key)
      graph.tables).map TableIdentity2.path
  have sorted :=
    sortedBy_perm (fun chain : ChainIdentity2 => chain.path.key) graph.chains
  have blocks : graph.normalized.flatMap NormalizedTable2.chains =
        (((sortedBy (fun table => table.path.key) graph.tables).map
              TableIdentity2.path).flatMap
            (group (fun chain => chain.path.table)
              (sortedBy (fun chain => chain.path.key) graph.chains))).map
          graph.chainOf := by
    rw [Graph2.normalized, List.flatMap_map, List.flatMap_map, List.map_flatMap]
    rfl
  rw [blocks]
  refine ((groups_perm (paths.nodup_iff.mpr sound.tables) ?_).trans
    sorted).map graph.chainOf
  intro chain member
  exact paths.mem_iff.mpr (sound.covered chain (sorted.mem_iff.mp member))

theorem tables_compared
    (sound : graph.IsSound hash) (isBinding : binding.Accepted hash)
    (isGraph : normalized.tables = graph.normalized) :
    (SameMembers (normalized.tables.map fun table => table.identity.path)
          (binding.tables.map TableIdentity2.path) ∧
        ∀ pinned ∈ binding.tables,
          (actualTable? normalized pinned).map NormalizedTable2.identity =
            some pinned) ↔
      graph.tables.Perm binding.tables := by
  have tables := graph.normalized_tables
  rw [← isGraph] at tables
  have distinct := (tables.map TableIdentity2.path).nodup_iff.mpr sound.tables
  rw [List.map_map] at distinct
  refine (@carried_perm _ _ _ _ NormalizedTable2.identity
    TableIdentity2.path normalized.tables binding.tables distinct
    isBinding.tablePaths).trans ?_
  exact ⟨fun perm => tables.symm.trans perm, fun perm => tables.trans perm⟩

theorem actualChains_perm (sound : graph.IsSound hash)
    (isGraph : normalized.tables = graph.normalized)
    (perm : graph.tables.Perm binding.tables) :
    (actualChains normalized binding).Perm
      (graph.chains.map graph.chainOf) := by
  have tables := graph.normalized_tables
  rw [← isGraph] at tables
  have distinct := (tables.map TableIdentity2.path).nodup_iff.mpr sound.tables
  rw [List.map_map] at distinct
  have kept := @kept_perm _ _ _ _ NormalizedTable2.identity TableIdentity2.path
      normalized.tables _ distinct (tables.trans perm)
  have chains := kept.flatMap_right NormalizedTable2.chains
  rw [isGraph] at chains
  rw [actualChains]
  unfold actualTable?
  rw [isGraph]
  exact chains.trans (Graph2.normalized_chains sound)

theorem actualRules_perm (sound : graph.IsSound hash)
    (isGraph : normalized.tables = graph.normalized)
    (perm : graph.tables.Perm binding.tables) :
    (actualRules normalized binding).Perm graph.allRules := by
  have chains := actualChains_perm sound isGraph perm
  have rules := chains.flatMap_right NormalizedChain2.rules
  rw [List.flatMap_map] at rules
  exact rules

theorem chains_compared
    (sound : graph.IsSound hash) (isBinding : binding.Accepted hash)
    (isGraph : normalized.tables = graph.normalized)
    (perm : graph.tables.Perm binding.tables) :
    (SameMembers ((actualChains normalized binding).map
            fun chain => chain.identity.path)
          (binding.chains.map ChainIdentity2.path) ∧
        ∀ pinned ∈ binding.chains,
          (lastWith (fun chain => chain.identity.path) pinned.path
              (actualChains normalized binding)).map
              NormalizedChain2.identity =
            some pinned) ↔
      graph.chains.Perm binding.chains := by
  have chains :=
    (actualChains_perm sound isGraph perm).map NormalizedChain2.identity
  have same : (graph.chains.map graph.chainOf).map
      NormalizedChain2.identity = graph.chains := by
    rw [List.map_map]
    exact List.map_id _
  rw [same] at chains
  have distinct := (chains.map ChainIdentity2.path).nodup_iff.mpr sound.chains
  rw [List.map_map] at distinct
  refine (@carried_perm _ _ _ _ NormalizedChain2.identity
    ChainIdentity2.path (actualChains normalized binding) binding.chains
    distinct isBinding.chainPaths).trans ?_
  exact ⟨fun perm => chains.symm.trans perm, fun perm => chains.trans perm⟩

theorem rules_compared
    (sound : graph.IsSound hash) (isBinding : binding.Accepted hash)
    (isGraph : normalized.tables = graph.normalized)
    (perm : graph.tables.Perm binding.tables) :
    (SameMembers ((actualRules normalized binding).map
            fun rule => rule.identity.canonicalRuleId)
          (binding.rules.map RuleIdentity2.canonicalRuleId) ∧
        ∀ pinned ∈ binding.rules,
          (lastWith (fun rule => rule.identity.canonicalRuleId)
              pinned.canonicalRuleId
              (actualRules normalized binding)).map
              NormalizedRule2.identity =
            some pinned) ↔
      (graph.allRules.map NormalizedRule2.identity).Perm
        binding.rules := by
  have rules := actualRules_perm sound isGraph perm
  have distinct :=
    (rules.map fun rule => rule.identity.canonicalRuleId).nodup_iff.mpr
      sound.ruleIds
  have identities := rules.map NormalizedRule2.identity
  refine (carried_perm distinct isBinding.ruleIds).trans ?_
  exact
    ⟨fun perm => identities.symm.trans perm, fun perm => identities.trans perm⟩

/-! ## Identities -/

/-- The identity of a rule at a position in a chain. -/
def identityAt (hash : Hashed → Digest) (chain : ChainIdentity2) (ordinal : Nat)
    (rule : Nat × List Expression2) : RuleIdentity2 where
  parent := chain
  handle := rule.1
  canonicalRuleId := canonicalRuleId2 hash chain.path ordinal
  ordinal
  staticExpressionDigest := staticExpressionDigest2 hash rule.2

theorem identityAt_injective (collisionFree : Function.Injective hash)
    (chain : ChainIdentity2) (ordinal : Nat) :
    Function.Injective (identityAt hash chain ordinal) := by
  intro rule other same
  have handles := congrArg RuleIdentity2.handle same
  have digests := congrArg RuleIdentity2.staticExpressionDigest same
  have expressions := Hashed.staticExpressions.inj (collisionFree digests)
  exact Prod.ext handles expressions

theorem ruleIds_nodup
    (collisionFree : Function.Injective hash) {chains : List ChainIdentity2}
    (distinct : (chains.map ChainIdentity2.path).Nodup)
    (rules : ChainIdentity2 → List (Nat × List Expression2)) :
    ((chains.flatMap fun chain =>
        (rules chain).mapIdx (identityAt hash chain)).map
      RuleIdentity2.canonicalRuleId).Nodup := by
  have isPath {path other : ChainPath2} {ordinal position : Nat} (same :
        canonicalRuleId2 hash path ordinal =
          canonicalRuleId2 hash other position) :
      path = other ∧ ordinal = position :=
    Hashed.canonicalRulePath.inj (collisionFree same)
  rw [List.map_flatMap, List.nodup_flatMap]
  constructor
  · intro chain _
    refine List.pairwise_iff_getElem.mpr ?_
    intro earlier later inEarlier inLater before same
    rw [List.getElem_map, List.getElem_map, List.getElem_mapIdx,
      List.getElem_mapIdx] at same
    exact Nat.ne_of_lt before (isPath same).2
  · refine (List.pairwise_map.mp distinct).imp ?_
    intro chain other differs id isId isOther
    obtain ⟨first, isFirst, rfl⟩ := List.mem_map.mp isId
    obtain ⟨second, isSecond, same⟩ := List.mem_map.mp isOther
    obtain ⟨_, _, rfl⟩ := List.mem_mapIdx.mp isFirst
    obtain ⟨_, _, rfl⟩ := List.mem_mapIdx.mp isSecond
    exact differs (isPath same).1.symm

variable {objects : List NativeObject2}

theorem collected_identities (unique : IsUnique objects)
    (hash : Hashed → Digest) (context : ReadbackContext2)
    (member : chain ∈ (collected hash context objects).chains) :
    (collectedRules hash context objects chain.path).map
        NormalizedRule2.identity =
      (dumpedRules objects chain.path).mapIdx (identityAt hash chain) := by
  obtain ⟨native, isNative, rfl⟩ := List.mem_map.mp member
  have isPath := chainIdentity_path context (tablesOf objects) native
  have isAt : chainAt (chainsOf objects) native.path = native := by
    rw [chainAt, lookup?_eq_some unique.chains isNative]
    rfl
  rw [collectedRules, dumpedRules, isPath, isAt]
  refine List.ext_getElem
    (by simp only [List.length_map, List.length_mapIdx]) ?_
  intro index inFirst inSecond
  rw [List.getElem_map, List.getElem_mapIdx, List.getElem_mapIdx,
    List.getElem_map]
  rw [List.length_map, List.length_mapIdx] at inFirst
  have isRule :
      (group NativeRule2.parent (rulesOf objects) native.path)[index] ∈
        group NativeRule2.parent (rulesOf objects) native.path :=
    List.getElem_mem inFirst
  have isParent := (mem_group.mp isRule).2
  simp only [NativeRule2.normalized, identityAt, isParent, isPath]

theorem collected_isSound
    (collisionFree : Function.Injective hash) (first : ParentsFirst objects)
    (unique : IsUnique objects) (context : ReadbackContext2) :
    (collected hash context objects).IsSound hash := by
  obtain ⟨tables, chains⟩ := collected_paths hash context objects
  have distinct : ((collected hash context objects).chains.map
        ChainIdentity2.path).Nodup := by
    rw [chains]
    exact unique.chains
  refine
    { tables := ?_
      chains := distinct
      covered := ?_
      ruleIds := ?_
      digests := ?_ }
  · rw [tables]
    exact unique.tables
  · intro chain member
    obtain ⟨native, isNative, rfl⟩ := List.mem_map.mp member
    obtain ⟨table, isTable, isParent⟩ := first.hasParent.1 native isNative
    rw [tables, chainIdentity_path]
    exact List.mem_map.mpr ⟨table, isTable, isParent⟩
  · have identities :
        (collected hash context objects).allRules.map NormalizedRule2.identity =
          (collected hash context objects).chains.flatMap fun chain =>
            (dumpedRules objects chain.path).mapIdx
              (identityAt hash chain) := by
      rw [Graph2.allRules, List.map_flatMap]
      exact List.flatMap_congr fun chain member =>
        collected_identities unique hash context member
    have ids := ruleIds_nodup collisionFree distinct
      fun chain => dumpedRules objects chain.path
    rw [← identities, List.map_map] at ids
    exact ids
  · intro rule member
    obtain ⟨chain, _, isRule⟩ := List.mem_flatMap.mp member
    obtain ⟨_, _, rfl⟩ := List.mem_mapIdx.mp isRule
    rfl

/-! ## Pinned rules -/

theorem pinned_at
    (isBinding : binding.Accepted hash) (isRecipe : expected.Accepted hash)
    (same : expected.intent = binding.intent) {index : Nat}
    (inRules : index < binding.rules.length)
    (inExpected : index < expected.rules.length) :
    binding.rules[index].staticExpressionDigest =
        staticExpressionDigest2 hash expected.rules[index].expressions ∧
      ∀ inCounters : index < binding.counters.length,
        counterPositions expected.rules[index].expressions =
          [binding.counters[index].expressionPosition] := by
  have specs := isRecipe.rules
  rw [same] at specs
  have inCatalog : index < binding.intent.catalog.rules.length :=
    isBinding.rules.length_eq ▸ inRules
  have pins := isBinding.rules.get inRules inCatalog
  have follows := specs.get inExpected inCatalog
  have digests := congrArg (fun identity => identity.2.2) pins.identity
  refine ⟨digests.trans follows.digest.symm, fun inCounters => ?_⟩
  have inZip :
      index < (binding.rules.zip binding.intent.catalog.rules).length :=
    isBinding.counters.length_eq ▸ inCounters
  have counter := (isBinding.counters.get inCounters inZip).identity
  have position := congrArg (fun identity => identity.2.1) counter
  simp only [List.get_eq_getElem, List.getElem_zip] at position follows
  rw [position]
  exact follows.positions

theorem pinned_ordinals
    (isBinding : binding.Accepted hash) (member : chain ∈ binding.chains) :
    (group RuleIdentity2.parent binding.rules chain).map RuleIdentity2.ordinal =
      List.range (group RuleIdentity2.parent binding.rules chain).length := by
  have isCatalog := isBinding.intent.catalog
  obtain ⟨index, inChains, rfl⟩ := List.mem_iff_getElem.mp member
  have inCatalog : index < binding.intent.catalog.chains.length :=
    isBinding.chains.length_eq ▸ inChains
  have pins := isBinding.chains.get inChains inCatalog
  have isSpec := List.getElem_mem inCatalog
  have numbered := isCatalog.chainRules _ isSpec
  have kept : (group RuleIdentity2.parent binding.rules
          binding.chains[index]).map RuleIdentity2.ordinal =
        (binding.intent.catalog.rules.filter fun rule =>
          decide (rule.parent = binding.intent.catalog.chains[index])).map
          CanonicalRuleSpec2.ordinal := by
    refine filter_map_of_forall₂ isBinding.rules ?_
    intro rule isRule spec isRuleSpec isPinned
    refine ⟨?_, congrArg (fun identity => identity.2.1) isPinned.identity⟩
    refine decide_eq_decide.mpr ⟨fun isParent => ?_, fun isParent => ?_⟩
    · refine List.inj_on_of_nodup_map isCatalog.chainPaths
        (isCatalog.ruleChains spec isRuleSpec) isSpec ?_
      rw [← isPinned.path, isParent]
      exact pins.path
    · refine List.inj_on_of_nodup_map isBinding.chainPaths isPinned.parent
        member ?_
      rw [isPinned.path, isParent]
      exact pins.path.symm
  rw [numbered] at kept
  have lengths := congrArg List.length kept
  rw [List.length_map, List.length_range] at lengths
  rw [kept, lengths]

theorem pinned_identities
    (isBinding : binding.Accepted hash) (isRecipe : expected.Accepted hash)
    (same : expected.intent = binding.intent)
    (member : chain ∈ binding.chains) :
    group RuleIdentity2.parent binding.rules chain =
      (pinnedRules binding expected chain).mapIdx (identityAt hash chain) := by
  have specs := isRecipe.rules
  rw [same] at specs
  have lengths : binding.rules.length = expected.rules.length :=
    isBinding.rules.length_eq.trans specs.length_eq.symm
  have isFirst :
      (binding.rules.zip expected.rules).map Prod.fst = binding.rules :=
    List.map_fst_zip (Nat.le_of_eq lengths)
  have grouped : group RuleIdentity2.parent binding.rules chain =
        (group (fun row => row.1.parent)
          (binding.rules.zip expected.rules) chain).map Prod.fst := by
    have rows := @group_map _ _ _ _ RuleIdentity2.parent Prod.fst
        (fun row : RuleIdentity2 × ExpectedRuleExpressions2 => row.1.parent)
        (fun _ => rfl) (binding.rules.zip expected.rules) chain
    rw [isFirst] at rows
    exact rows
  have ordinals := pinned_ordinals isBinding member
  rw [grouped, List.map_map, List.length_map] at ordinals
  have numbered := map_eq_mapIdx ordinals fun ordinal row =>
      identityAt hash chain ordinal (row.1.handle, row.2.expressions)
  have unfolded :
      (pinnedRules binding expected chain).mapIdx (identityAt hash chain) =
        (group (fun row => row.1.parent)
          (binding.rules.zip expected.rules) chain).mapIdx
          fun ordinal row =>
            identityAt hash chain ordinal
              (row.1.handle, row.2.expressions) := by
    refine List.ext_getElem
      (by simp only [pinnedRules, List.length_map, List.length_mapIdx]) ?_
    intro index _ _
    simp only [pinnedRules, List.getElem_mapIdx, List.getElem_map]
  rw [grouped, unfolded, ← numbered]
  refine List.map_congr_left fun row isRow => ?_
  obtain ⟨isZipped, isParent⟩ := mem_group.mp isRow
  obtain ⟨index, inZip, rfl⟩ := List.mem_iff_getElem.mp isZipped
  rw [List.length_zip] at inZip
  have inRules := Nat.lt_of_lt_of_le inZip (Nat.min_le_left _ _)
  have inExpected := Nat.lt_of_lt_of_le inZip (Nat.min_le_right _ _)
  have digests := (pinned_at isBinding isRecipe same inRules inExpected).1
  have isId := isBinding.rulePaths _ (List.getElem_mem inRules)
  rw [List.getElem_zip] at isParent ⊢
  rw [RuleIdentity2.Accepted] at isId
  simp only [Function.comp_apply, identityAt]
  rw [← isParent, ← digests, ← isId]

theorem isSome_of_position {rule : NormalizedRule2} {position : Nat}
    (positions : counterPositions rule.expressions = [position]) :
    rule.counter.isSome = true := by
  have isPosition : position ∈ counterPositions rule.expressions := by
    rw [positions]
    exact List.mem_singleton_self position
  rw [rule.counted]
  obtain ⟨inRange, isCounter⟩ :=
    List.mem_findIdxs_iff_exists_getElem_pos.mp isPosition
  exact List.any_eq_true.mpr ⟨_, List.getElem_mem inRange, isCounter⟩

theorem rows_compared (collisionFree : Function.Injective hash)
    (isBinding : binding.Accepted hash) (isRecipe : expected.Accepted hash)
    (same : expected.intent = binding.intent) {rules : List NormalizedRule2}
    (digests : ∀ rule ∈ rules, rule.identity.staticExpressionDigest =
        staticExpressionDigest2 hash rule.expressions) :
    (∀ row ∈ binding.rules.zip (binding.counters.zip expected.rules),
        ruleViolation? rules row.1 row.2.1 row.2.2 = none) ↔
      ∀ pinned ∈ binding.rules,
        (lastWith (fun rule => rule.identity.canonicalRuleId)
            pinned.canonicalRuleId rules).map NormalizedRule2.identity =
          some pinned := by
  have specs := isRecipe.rules
  rw [same] at specs
  have ofCatalog := isBinding.rules.length_eq
  have ofRecipe : binding.rules.length = expected.rules.length :=
    ofCatalog.trans specs.length_eq.symm
  have ofCounters : binding.rules.length = binding.counters.length := by
    rw [isBinding.counters.length_eq, List.length_zip, ← ofCatalog,
      Nat.min_self]
  constructor
  · intro passed pinned isPinned
    obtain ⟨index, inRules, rfl⟩ := List.mem_iff_getElem.mp isPinned
    have inZip : index <
          (binding.rules.zip (binding.counters.zip expected.rules)).length := by
      rw [List.length_zip, List.length_zip, ← ofCounters, ← ofRecipe,
        Nat.min_self, Nat.min_self]
      exact inRules
    have isNone := passed _ (List.getElem_mem inZip)
    rw [List.getElem_zip] at isNone
    obtain ⟨actual, found, _, isIdentity, _⟩ := ruleViolation?_eq_none.mp isNone
    rw [found, Option.map_some, isIdentity]
  · intro kept row isRow
    obtain ⟨index, inZip, rfl⟩ := List.mem_iff_getElem.mp isRow
    have inRules : index < binding.rules.length := by
      rw [List.length_zip] at inZip
      exact Nat.lt_of_lt_of_le inZip (Nat.min_le_left _ _)
    have inCounters : index < binding.counters.length := ofCounters ▸ inRules
    have inExpected : index < expected.rules.length := ofRecipe ▸ inRules
    obtain ⟨isDigest, positions⟩ :=
      pinned_at isBinding isRecipe same inRules inExpected
    have isKept := kept _ (List.getElem_mem inRules)
    obtain ⟨actual, found, isIdentity⟩ := Option.map_eq_some_iff.mp isKept
    have isRule := (lastWith_some found).1
    have isActual := digests actual isRule
    rw [isIdentity, isDigest] at isActual
    have expressions := Hashed.staticExpressions.inj (collisionFree isActual)
    have isCounted := positions inCounters
    rw [expressions] at isCounted
    rw [List.getElem_zip, List.getElem_zip]
    exact ruleViolation?_eq_none.mpr
      ⟨actual, found, expressions.symm, isIdentity, isCounted,
        isSome_of_position isCounted⟩

/-- A dump matches when its objects are those of the binding. -/
theorem compared_iff
    (collisionFree : Function.Injective hash) (sound : graph.IsSound hash)
    (isGraph : normalized.tables = graph.normalized)
    (isBinding : binding.Accepted hash) (isRecipe : expected.Accepted hash)
    (same : expected.intent = binding.intent) :
    Matches normalized binding expected ↔
      graph.tables.Perm binding.tables ∧ graph.chains.Perm binding.chains ∧
        (graph.allRules.map NormalizedRule2.identity).Perm
          binding.rules := by
  have tables := tables_compared sound isBinding isGraph
  have rows (perm : graph.tables.Perm binding.tables) :=
    rows_compared collisionFree isBinding isRecipe same
      fun rule member =>
        sound.digests rule
          ((actualRules_perm sound isGraph perm).mem_iff.mp member)
  unfold Matches
  constructor
  · rintro ⟨sameTables, tablesKept, ⟨sameChains, sameRules⟩, chainsKept, passed⟩
    have perm := tables.mp ⟨sameTables, tablesKept⟩
    exact ⟨perm, (chains_compared sound isBinding isGraph perm).mp
        ⟨sameChains, chainsKept⟩,
      (rules_compared sound isBinding isGraph perm).mp
        ⟨sameRules, (rows perm).mp passed⟩⟩
  · rintro ⟨perm, chains, rules⟩
    obtain ⟨sameTables, tablesKept⟩ := tables.mpr perm
    obtain ⟨sameChains, chainsKept⟩ :=
      (chains_compared sound isBinding isGraph perm).mpr chains
    obtain ⟨sameRules, rulesKept⟩ :=
      (rules_compared sound isBinding isGraph perm).mpr rules
    exact ⟨sameTables, tablesKept, ⟨sameChains, sameRules⟩, chainsKept,
      (rows perm).mpr rulesKept⟩

/-! ## Dumps of recipes -/

variable {context : ReadbackContext2}

theorem tables_realized (isBinding : binding.Accepted hash)
    (isNamespace : context.namespaceKey = binding.intent.namespaceKey)
    (isInstallation : context.installation = binding.intent.installation)
    (objects : List NativeObject2) :
    (collected hash context objects).tables.Perm binding.tables ↔
      (tablesOf objects).Perm (binding.tables.map TableIdentity2.native) := by
  constructor
  · intro perm
    have natives := perm.map TableIdentity2.native
    rw [collected, List.map_map] at natives
    exact (List.map_id (tablesOf objects)) ▸ natives
  · intro perm
    have identities :=
      perm.map fun table : NativeTable2 => table.identity context
    have same : (binding.tables.map TableIdentity2.native).map
            (fun table => table.identity context) =
          binding.tables := by
      rw [List.map_map]
      refine (List.map_congr_left fun table member => ?_).trans (List.map_id _)
      obtain ⟨index, inTables, rfl⟩ := List.mem_iff_getElem.mp member
      have pins := isBinding.tables.get inTables
        (isBinding.tables.length_eq ▸ inTables)
      have isKey := pins.namespaceKey
      have isInstalled := pins.installation
      rw [List.get_eq_getElem] at isKey isInstalled
      simp only [Function.comp_apply, TableIdentity2.native,
        NativeTable2.identity, isNamespace, isInstallation, ← isKey,
        ← isInstalled, id_eq]
    rw [same] at identities
    exact identities

theorem chains_realized (isBinding : binding.Accepted hash)
    (distinct : ((tablesOf objects).map NativeTable2.path).Nodup)
    (tables : (collected hash context objects).tables.Perm binding.tables) :
    (collected hash context objects).chains.Perm binding.chains ↔
      (chainsOf objects).Perm (binding.chains.map ChainIdentity2.native) := by
  constructor
  · intro perm
    have natives := perm.map ChainIdentity2.native
    rw [collected, List.map_map] at natives
    refine (List.map_id (chainsOf objects)) ▸ ?_
    refine List.Perm.trans (List.Perm.of_eq ?_) natives
    exact List.map_congr_left fun chain _ =>
      (chainIdentity_native context (tablesOf objects) chain).symm
  · intro perm
    have identities := perm.map (chainIdentity context (tablesOf objects))
    have same : (binding.chains.map ChainIdentity2.native).map
            (chainIdentity context (tablesOf objects)) =
          binding.chains := by
      rw [List.map_map]
      refine (List.map_congr_left fun chain member => ?_).trans (List.map_id _)
      obtain ⟨index, inChains, rfl⟩ := List.mem_iff_getElem.mp member
      have isTable := (isBinding.chains.get inChains
        (isBinding.chains.length_eq ▸ inChains)).parent
      rw [List.get_eq_getElem] at isTable
      obtain ⟨table, isThere, isParent⟩ :=
        List.mem_map.mp (tables.mem_iff.mpr isTable)
      have isPath : binding.chains[index].native.parent = table.path :=
        (congrArg TableIdentity2.path isParent).symm
      have isAt : tableAt (tablesOf objects)
              binding.chains[index].native.parent = table := by
        rw [tableAt, isPath, lookup?_eq_some distinct isThere]
        rfl
      rw [Function.comp_apply, chainIdentity, isAt, isParent]
      rfl
    rw [same] at identities
    exact identities

/-- The rules match when the dump has them in order. -/
theorem rules_realized (collisionFree : Function.Injective hash)
    (isBinding : binding.Accepted hash) (isRecipe : expected.Accepted hash)
    (same : expected.intent = binding.intent) (unique : IsUnique objects)
    (chains : (collected hash context objects).chains.Perm binding.chains) :
    ((collected hash context objects).allRules.map
        NormalizedRule2.identity).Perm binding.rules ↔
      ∀ chain ∈ binding.chains, dumpedRules objects chain.path =
          pinnedRules binding expected chain := by
  have distinct : binding.chains.Nodup := isBinding.chainPaths.of_map
  have identities : ((collected hash context objects).allRules.map
          NormalizedRule2.identity).Perm
        (binding.chains.flatMap fun chain =>
          (dumpedRules objects chain.path).mapIdx (identityAt hash chain)) := by
    rw [Graph2.allRules, List.map_flatMap]
    refine List.Perm.trans (List.Perm.of_eq ?_)
      (chains.flatMap_right fun chain =>
        (dumpedRules objects chain.path).mapIdx (identityAt hash chain))
    exact List.flatMap_congr fun chain member =>
      collected_identities unique hash context member
  have pinned (chain : ChainIdentity2) (member : chain ∈ binding.chains) :=
    pinned_identities isBinding isRecipe same member
  constructor
  · intro perm chain member
    have grouped := (identities.symm.trans perm).filter
        fun rule => decide (rule.parent = chain)
    have ofDump := @group_flatMap _ _ _ RuleIdentity2.parent binding.chains
        (fun chain =>
          (dumpedRules objects chain.path).mapIdx (identityAt hash chain))
        distinct
        (fun wanted _ rule isRule => by
          obtain ⟨_, _, rfl⟩ := List.mem_mapIdx.mp isRule
          rfl)
        chain
    rw [if_pos member, group] at ofDump
    have ofBinding := pinned chain member
    rw [group] at ofBinding
    rw [ofDump, ofBinding] at grouped
    exact @mapIdx_perm _ _ (identityAt hash chain) RuleIdentity2.ordinal
      (fun _ _ => rfl) (identityAt_injective collisionFree chain) _ _
      grouped
  · intro rules
    refine identities.trans ?_
    have groups : (binding.chains.flatMap fun chain =>
            (dumpedRules objects chain.path).mapIdx (identityAt hash chain)) =
          binding.chains.flatMap
            (group RuleIdentity2.parent binding.rules) := by
      refine List.flatMap_congr fun chain member => ?_
      rw [rules chain member, pinned chain member]
    rw [groups]
    refine groups_perm distinct fun rule member => ?_
    obtain ⟨index, inRules, rfl⟩ := List.mem_iff_getElem.mp member
    exact (isBinding.rules.get inRules
      (isBinding.rules.length_eq ▸ inRules)).parent

theorem Realizes.ruleHandles (realizes : Realizes decoded binding expected)
    (isBinding : binding.Accepted hash) (isRecipe : expected.Accepted hash)
    (same : expected.intent = binding.intent) :
    ((rulesOf decoded.objects).map NativeRule2.handleScope).Perm
      (binding.rules.map RuleIdentity2.handleScope) := by
  have ofDump := (groups_perm isBinding.chainPaths realizes.noOthers).map
      NativeRule2.handleScope
  have ofBinding :=
    (@groups_perm _ _ _ RuleIdentity2.parent binding.chains binding.rules
      isBinding.chainPaths.of_map fun rule member => by
        obtain ⟨index, inRules, rfl⟩ := List.mem_iff_getElem.mp member
        exact (isBinding.rules.get inRules
          (isBinding.rules.length_eq ▸ inRules)).parent).map
      RuleIdentity2.handleScope
  refine ofDump.symm.trans (List.Perm.trans (List.Perm.of_eq ?_) ofBinding)
  rw [List.flatMap_map, List.map_flatMap, List.map_flatMap]
  refine List.flatMap_congr fun chain member => ?_
  have dumped : (group NativeRule2.parent (rulesOf decoded.objects)
          chain.path).map NativeRule2.handleScope =
        (dumpedRules decoded.objects chain.path).map
          fun rule => (chain.parent.path, rule.1) := by
    rw [dumpedRules, List.map_map]
    refine List.map_congr_left fun rule isRule => ?_
    have isScope := congrArg ChainPath2.table (mem_group.mp isRule).2
    exact congrArg (fun scope => (scope, rule.handle)) isScope
  rw [dumped, realizes.rules chain member,
    pinned_identities isBinding isRecipe same member]
  refine List.ext_getElem
    (by simp only [List.length_map, List.length_mapIdx]) ?_
  intro index _ _
  rw [List.getElem_map, List.getElem_map, List.getElem_mapIdx]
  rfl

theorem pinned_slots (isBinding : binding.Accepted hash) :
    (binding.chains.map ChainIdentity2.native).map NativeChain2.slot =
      binding.intent.catalog.chains.map CanonicalChainSpec2.slot := by
  rw [List.map_map]
  refine List.ext_getElem
    (by simp only [List.length_map, isBinding.chains.length_eq]) ?_
  intro index inFirst inSecond
  rw [List.getElem_map, List.getElem_map]
  rw [List.length_map] at inFirst inSecond
  have pins := isBinding.chains.get inFirst inSecond
  have family := congrArg (fun path => path.table.family) pins.path
  have hook := congrArg (fun chain => chain.2.1) pins.attributes
  have priority := congrArg (fun chain => chain.2.2.1) pins.attributes
  exact congrArg₂ Prod.mk family (congrArg₂ Prod.mk hook priority)

theorem Realizes.accepted (realizes : Realizes decoded binding expected)
    (isBinding : binding.Accepted hash) (isRecipe : expected.Accepted hash)
    (same : expected.intent = binding.intent) :
    IsUnique decoded.objects ∧ HandlesApart decoded.objects := by
  have rules := realizes.ruleHandles isBinding isRecipe same
  have tablePaths := realizes.tables.map NativeTable2.path
  have tableHandles := realizes.tables.map NativeTable2.handleScope
  have chainPaths := realizes.chains.map NativeChain2.path
  have chainHandles := realizes.chains.map NativeChain2.handleScope
  have slots := realizes.chains.map NativeChain2.slot
  rw [List.map_map] at tablePaths tableHandles chainPaths chainHandles
  rw [pinned_slots isBinding] at slots
  constructor
  · exact
      { tables := tablePaths.nodup_iff.mpr isBinding.tablePaths
        tableHandles := tableHandles.nodup_iff.mpr isBinding.tableHandles
        chains := chainPaths.nodup_iff.mpr isBinding.chainPaths
        chainHandles := chainHandles.nodup_iff.mpr isBinding.chainHandles
        slots := slots.nodup_iff.mpr isBinding.intent.catalog.slots
        ruleHandles := rules.nodup_iff.mpr isBinding.ruleHandles }
  · intro scope ofChain ofRule
    exact isBinding.apart scope (chainHandles.mem_iff.mp ofChain)
      (rules.mem_iff.mp ofRule)

/-- A dump is validated exactly when the binding and the recipe are of the
expected intent and the dump realizes the recipe as it is pinned; and whatever
realizes it with parents first can be normalized. -/
theorem validateRecipe2_exact
    (hash : Hashed → Digest) (collisionFree : Function.Injective hash)
    (decoded : DecodedNative2) (expected : ExpectedRecipe2)
    (isRecipe : expected.Accepted hash) (binding : InstallationBinding2)
    (isBinding : binding.Accepted hash) (intent : InstallIntent2) :
    (∀ normalized, normalizeRules2 hash decoded = .ok normalized →
        ((∃ validated, validateRecipe2 normalized expected binding intent =
              .ok validated) ↔
          binding.intent = intent ∧ expected.intent = intent ∧
            Realizes decoded binding expected)) ∧
      (binding.intent = intent → expected.intent = intent →
        Realizes decoded binding expected →
        ParentsFirst decoded.objects →
        ∃ normalized, normalizeRules2 hash decoded = .ok normalized) := by
  constructor
  · intro normalized isNormalized
    obtain ⟨tables, isBuilt, rfl⟩ :
        ∃ tables, buildGraph hash decoded = .ok tables ∧
          normalized = { decoded, tables } := by
      rw [normalizeRules2] at isNormalized
      cases isBuilt : buildGraph hash decoded with
      | error violation =>
          rw [isBuilt] at isNormalized
          cases isNormalized
      | ok tables =>
          rw [isBuilt] at isNormalized
          exact ⟨tables, rfl, (Except.ok.inj isNormalized).symm⟩
    obtain ⟨first, unique, _, rfl⟩ :=
      (buildGraph_eq hash decoded tables).mp isBuilt
    have sound := collected_isSound collisionFree first unique decoded.context
    rw [validateRecipe2_ok]
    constructor
    · rintro ⟨⟨rfl, same⟩, ⟨isNamespace, isInstallation⟩, isProfile, compared⟩
      obtain ⟨tables, chains, rules⟩ :=
        (compared_iff collisionFree sound rfl isBinding isRecipe same).mp
          compared
      have dumped := (chains_realized isBinding unique.tables tables).mp chains
      refine ⟨rfl, same, ?_⟩
      exact
        { namespaceKey := isNamespace
          installation := isInstallation
          profile := isProfile
          tables :=
            (tables_realized isBinding isNamespace isInstallation _).mp tables
          chains := dumped
          rules := (rules_realized collisionFree isBinding isRecipe same unique
              chains).mp rules
          noOthers := by
            intro rule member
            obtain ⟨chain, isChain, isParent⟩ := first.hasParent.2 rule member
            obtain ⟨pinned, isPinned, rfl⟩ :=
              List.mem_map.mp (dumped.mem_iff.mp isChain)
            rw [← isParent]
            exact List.mem_map_of_mem isPinned }
    · rintro ⟨rfl, same, realizes⟩
      have tables : (collected hash decoded.context decoded.objects).tables.Perm
            binding.tables :=
        (tables_realized isBinding realizes.namespaceKey
          realizes.installation decoded.objects).mpr realizes.tables
      have chains :=
        (chains_realized isBinding unique.tables tables).mpr realizes.chains
      have rules := (rules_realized collisionFree isBinding isRecipe same unique
          chains).mpr realizes.rules
      exact ⟨⟨rfl, same⟩, ⟨realizes.namespaceKey, realizes.installation⟩,
        realizes.profile,
        (compared_iff collisionFree sound rfl isBinding isRecipe same).mpr
          ⟨tables, chains, rules⟩⟩
  · rintro rfl same realizes first
    obtain ⟨unique, apart⟩ := realizes.accepted isBinding isRecipe same
    have isBuilt :=
      (buildGraph_eq hash decoded _).mpr ⟨first, unique, apart, rfl⟩
    refine ⟨{ decoded,
              tables := (collected hash decoded.context
                  decoded.objects).normalized }, ?_⟩
    rw [normalizeRules2, isBuilt]
    rfl

/-! ## A recipe of two tables -/

/-- Characters have numbers. -/
instance encodableChar : Encodable Char :=
  Encodable.ofLeftInverse Char.toNat Char.ofNat Char.ofNat_toNat

/-- Texts are lists of characters. -/
instance encodableString : Encodable String :=
  Encodable.ofLeftInverse String.toList String.ofList
    fun _ => String.ofList_toList

deriving instance Encodable for Family2
deriving instance Encodable for TablePath2
deriving instance Encodable for ChainPath2
deriving instance Encodable for Meta2
deriving instance Encodable for Payload2
deriving instance Encodable for Left2
deriving instance Encodable for Operator2
deriving instance Encodable for Literal2
deriving instance Encodable for Verdict2
deriving instance Encodable for Expression2
deriving instance Encodable for ChainType2
deriving instance Encodable for Hook2
deriving instance Encodable for Purpose2
deriving instance Encodable for CanonicalTableSpec2
deriving instance Encodable for CanonicalChainSpec2
deriving instance Encodable for CanonicalRuleSpec2
deriving instance Encodable for CanonicalRuleCatalog2
deriving instance Encodable for OfflineApproval2
deriving instance Encodable for NamespaceKey2
deriving instance Encodable for InstallKey2
deriving instance Encodable for InstallIntent2
deriving instance Encodable for NativeFormatProfile2
deriving instance Encodable for ExpectedRuleExpressions2
deriving instance Encodable for Hashed

/-- What lets the name service through. -/
def allowExpressions : List Expression2 :=
  [.compare (.payload .udpDport) .equals (.number 53), .counter,
    .verdict .accept]

/-- What drops everything. -/
def dropExpressions : List Expression2 :=
  [.counter, .verdict .drop]

theorem allowExpressions_layout : IsLayout allowExpressions :=
  ⟨by decide, by decide, by decide⟩

theorem dropExpressions_layout : IsLayout dropExpressions :=
  ⟨by decide, by decide, by decide⟩

/-- The table of a family. -/
def guardTable (family : Family2) : CanonicalTableSpec2 :=
  ⟨family, "guard"⟩

/-- A chain of two rules. -/
def inputChain : CanonicalChainSpec2 :=
  ⟨guardTable .inet, "input", .filter, .input, 0, .drop, 2⟩

/-- A chain of one rule. -/
def forwardChain : CanonicalChainSpec2 :=
  ⟨guardTable .bridge, "forward", .filter, .forward, 0, .drop, 1⟩

/-- A rule of a chain. -/
def guardRule (hash : Hashed → Digest) (chain : CanonicalChainSpec2)
    (ordinal position : Nat) (expressions : List Expression2)
    (purpose : Purpose2) : CanonicalRuleSpec2 where
  parent := chain
  canonicalRuleId := canonicalRuleId2 hash chain.path ordinal
  ordinal := ordinal
  staticExpressionDigest := staticExpressionDigest2 hash expressions
  expressionCount := expressions.length
  counterPosition := position
  purpose := purpose
  probeId := none

/-- The rules of both chains. -/
def guardRules (hash : Hashed → Digest) : List CanonicalRuleSpec2 :=
  [guardRule hash inputChain 0 1 allowExpressions .allow,
    guardRule hash inputChain 1 0 dropExpressions .fallbackDrop,
    guardRule hash forwardChain 0 0 dropExpressions .fallbackDrop]

/-- The expressions of the rules. -/
def guardExpected (hash : Hashed → Digest) : List ExpectedRuleExpressions2 :=
  [⟨canonicalRuleId2 hash inputChain.path 0, allowExpressions⟩,
    ⟨canonicalRuleId2 hash inputChain.path 1, dropExpressions⟩,
    ⟨canonicalRuleId2 hash forwardChain.path 0, dropExpressions⟩]

/-- The catalog with a digest. -/
def guardCatalogWith
    (hash : Hashed → Digest) (digest : Digest) : CanonicalRuleCatalog2 where
  canonicalRecipeDigest := digest
  tables := [guardTable .inet, guardTable .bridge]
  chains := [inputChain, forwardChain]
  rules := guardRules hash
  allowedProbeIds := []

/-- The catalog. -/
def guardCatalog (hash : Hashed → Digest) : CanonicalRuleCatalog2 :=
  guardCatalogWith hash
    (expectedRecipeDigest2 hash (guardCatalogWith hash 0) (guardExpected hash))

/-- The approval of the catalog. -/
def guardApproval (hash : Hashed → Digest) : OfflineApproval2 where
  approvalUuid := "approval"
  contextUuid := "context"
  scope := "scope"
  canonicalRecipeDigest := (guardCatalog hash).canonicalRecipeDigest
  catalogDigest := hash (.catalog (guardCatalog hash))
  bindingDigest := 0
  nativeProfileDigest := hash (.profile ⟨0⟩)
  topologyProfileDigest := 0

/-- The intent of a transaction. -/
def guardIntent
    (hash : Hashed → Digest) (transaction : String) : InstallIntent2 where
  approval := guardApproval hash
  namespaceKey := ⟨"boot", 1, "session", 1⟩
  installation :=
    ⟨hash (.approval (guardApproval hash)), "context", 0, "writer", "epoch", 1⟩
  catalog := guardCatalog hash
  transactionUuid := transaction
  creationRecordDigest := 0

/-- The pinned table of a family. -/
def pinnedTable (hash : Hashed → Digest) (family : Family2) (handle : Nat) :
    TableIdentity2 :=
  ⟨(guardIntent hash "first").namespaceKey,
    (guardIntent hash "first").installation, family, "guard", handle⟩

/-- The pinned chain of the two rules. -/
def pinnedInput (hash : Hashed → Digest) : ChainIdentity2 :=
  ⟨pinnedTable hash .inet 1, "input", 2, .filter, .input, 0, .drop⟩

/-- The pinned chain of the one rule. -/
def pinnedForward (hash : Hashed → Digest) : ChainIdentity2 :=
  ⟨pinnedTable hash .bridge 2, "forward", 1, .filter, .forward, 0, .drop⟩

/-- A pinned rule. -/
def pinnedRule
    (hash : Hashed → Digest) (chain : ChainIdentity2) (handle ordinal : Nat)
    (expressions : List Expression2) : RuleIdentity2 :=
  ⟨chain, handle, canonicalRuleId2 hash chain.path ordinal, ordinal,
    staticExpressionDigest2 hash expressions⟩

/-- The counter of a pinned rule. -/
def pinnedCounter
    (hash : Hashed → Digest) (rule : RuleIdentity2) (position : Nat)
    (purpose : Purpose2) : CounterSlot2 :=
  ⟨rule, canonicalCounterId2 hash rule.canonicalRuleId position purpose none,
    position, purpose, none⟩

/-- The binding of the first transaction. -/
def guardBinding (hash : Hashed → Digest) : InstallationBinding2 where
  intent := guardIntent hash "first"
  witnessReference := ⟨hash (.intent (guardIntent hash "first")),
      hash (.installation (guardIntent hash "first").installation), "first",
      0⟩
  independentReadbackReferenceDigest := 0
  tables := [pinnedTable hash .inet 1, pinnedTable hash .bridge 2]
  chains := [pinnedInput hash, pinnedForward hash]
  rules := [pinnedRule hash (pinnedInput hash) 3 0 allowExpressions,
      pinnedRule hash (pinnedInput hash) 4 1 dropExpressions,
      pinnedRule hash (pinnedForward hash) 2 0 dropExpressions]
  counters := [pinnedCounter hash
        (pinnedRule hash (pinnedInput hash) 3 0 allowExpressions) 1 .allow,
      pinnedCounter hash
        (pinnedRule hash (pinnedInput hash) 4 1 dropExpressions) 0
        .fallbackDrop,
      pinnedCounter hash
        (pinnedRule hash (pinnedForward hash) 2 0 dropExpressions) 0
        .fallbackDrop]

/-- The recipe of the first transaction. -/
def guardRecipe (hash : Hashed → Digest) : ExpectedRecipe2 where
  intent := guardIntent hash "first"
  profile := ⟨0⟩
  rules := guardExpected hash

/-- A dump of the recipe. -/
def guardDump (hash : Hashed → Digest) : DecodedNative2 where
  profile := ⟨0⟩
  context := ⟨(guardIntent hash "first").namespaceKey,
      (guardIntent hash "first").installation⟩
  objects := [.table ⟨.bridge, "guard", 2⟩, .table ⟨.inet, "guard", 1⟩,
      .chain ⟨.inet, "guard", "input", 2, .filter, .input, 0, .drop⟩,
      .rule ⟨.inet, "guard", "input", 3, allowExpressions, some ⟨7, 420⟩,
          allowExpressions_layout, rfl⟩,
      .chain ⟨.bridge, "guard", "forward", 1, .filter, .forward, 0, .drop⟩,
      .rule ⟨.bridge, "guard", "forward", 2, dropExpressions, some ⟨0, 0⟩,
          dropExpressions_layout, rfl⟩,
      .rule ⟨.inet, "guard", "input", 4, dropExpressions, some ⟨5, 300⟩,
          dropExpressions_layout, rfl⟩]
  limited := by decide

theorem canonicalRuleIds_nodup
    {hash : Hashed → Digest} (collisionFree : Function.Injective hash) :
    ((guardRules hash).map CanonicalRuleSpec2.canonicalRuleId).Nodup := by
  have places : [(inputChain.path, 0), (inputChain.path, 1),
      (forwardChain.path, 0)].Nodup := by
    decide
  refine places.map (f := fun place => canonicalRuleId2 hash place.1 place.2) ?_
  intro first second same
  have paths := collisionFree same
  rw [Hashed.canonicalRulePath.injEq] at paths
  exact Prod.ext paths.1 paths.2

theorem canonicalCounterIds_nodup
    {hash : Hashed → Digest} (collisionFree : Function.Injective hash) :
    ((guardRules hash).map
      (CanonicalRuleSpec2.canonicalCounterId hash)).Nodup := by
  refine List.pairwise_map.mpr ((List.pairwise_map.mp
    (canonicalRuleIds_nodup collisionFree)).imp fun differ same => differ ?_)
  have slots := collisionFree same
  rw [Hashed.canonicalCounterSlot.injEq] at slots
  exact slots.1

theorem guardRule_accepted (hash : Hashed → Digest)
    {chain : CanonicalChainSpec2} {ordinal position : Nat}
    {expressions : List Expression2} {purpose : Purpose2}
    (isOrdinal : ordinal < chain.ruleCount ∧ ordinal ≤ maxObjects2 - 1)
    (count : 1 ≤ expressions.length ∧ expressions.length ≤ maxExpressions2)
    (noProbe : ¬ (purpose = .ingress ∨ purpose = .terminalDrop))
    (isPosition : position + purpose.tail = expressions.length)
    (fallback : purpose = .fallbackDrop ↔ position = 0) :
    (guardRule hash chain ordinal position expressions purpose).Accepted
      hash where
  path := rfl
  ordinal := isOrdinal
  count := count
  probe := iff_of_false Bool.false_ne_true noProbe
  position := isPosition
  fallback := fallback

theorem guardIntent_accepted {hash : Hashed → Digest}
    (collisionFree : Function.Injective hash) (transaction : String) :
    (guardIntent hash transaction).Accepted hash where
  catalog :=
    { accepted := List.forall_mem_cons.mpr ⟨guardRule_accepted hash (by decide)
          (by decide) (by decide) rfl (by decide),
        List.forall_mem_cons.mpr ⟨guardRule_accepted hash (by decide)
            (by decide) (by decide) rfl (by decide),
          List.forall_mem_singleton.mpr (guardRule_accepted hash (by decide)
            (by decide) (by decide) rfl (by decide))⟩⟩
      counts := (by decide : ∀ chain ∈ [inputChain, forwardChain],
        chain.ruleCount ≤ maxObjects2)
      nonempty :=
        ⟨List.cons_ne_nil _ _, List.cons_ne_nil _ _, List.cons_ne_nil _ _⟩
      size := Nat.le_of_ble_eq_true rfl
      probes := ⟨Nat.zero_le _, List.nodup_nil⟩
      tablePaths := (by decide : ([guardTable .inet, guardTable .bridge].map
        CanonicalTableSpec2.path).Nodup)
      chainPaths := (by decide : ([inputChain, forwardChain].map
        CanonicalChainSpec2.path).Nodup)
      slots := (by decide : ([inputChain, forwardChain].map
        CanonicalChainSpec2.slot).Nodup)
      ruleIds := canonicalRuleIds_nodup collisionFree
      counterIds := canonicalCounterIds_nodup collisionFree
      tableChains := (by decide :
        ∀ table ∈ [guardTable .inet, guardTable .bridge],
          ∃ chain ∈ [inputChain, forwardChain], chain.parent = table)
      chainTables := (by decide : ∀ chain ∈ [inputChain, forwardChain],
        chain.parent ∈ [guardTable .inet, guardTable .bridge])
      chainRules := List.forall_mem_cons.mpr
        ⟨rfl, List.forall_mem_singleton.mpr rfl⟩
      ruleChains := List.forall_mem_cons.mpr ⟨List.mem_cons_self,
        List.forall_mem_cons.mpr ⟨List.mem_cons_self,
          List.forall_mem_singleton.mpr
            (List.mem_cons_of_mem _ List.mem_cons_self)⟩⟩
      coverage := ⟨fun _ member => (List.not_mem_nil member).elim,
          fun _ member => (List.not_mem_nil member).elim⟩ }
  approvalDigest := rfl
  contextUuid := rfl
  bindingDigest := rfl
  catalogDigest := rfl
  recipeDigest := rfl

theorem guardBinding_accepted
    {hash : Hashed → Digest} (collisionFree : Function.Injective hash) :
    (guardBinding hash).Accepted hash where
  intent := guardIntent_accepted collisionFree "first"
  witness := ⟨rfl, rfl, rfl⟩
  rulePaths := List.forall_mem_cons.mpr ⟨rfl, List.forall_mem_cons.mpr
    ⟨rfl, List.forall_mem_singleton.mpr rfl⟩⟩
  counterPaths := List.forall_mem_cons.mpr ⟨rfl, List.forall_mem_cons.mpr
    ⟨rfl, List.forall_mem_singleton.mpr rfl⟩⟩
  tablePaths := (by decide : [TablePath2.mk .inet "guard",
    TablePath2.mk .bridge "guard"].Nodup)
  tableHandles := (by decide : [(Family2.inet, 1), (Family2.bridge, 2)].Nodup)
  chainPaths := (by decide : ([inputChain, forwardChain].map
    CanonicalChainSpec2.path).Nodup)
  chainHandles := (by decide : [(TablePath2.mk .inet "guard", 2),
    (TablePath2.mk .bridge "guard", 1)].Nodup)
  ruleHandles := (by decide : [(TablePath2.mk .inet "guard", 3),
    (TablePath2.mk .inet "guard", 4), (TablePath2.mk .bridge "guard", 2)].Nodup)
  apart := (by decide : ∀ scope ∈ [(TablePath2.mk .inet "guard", 2),
      (TablePath2.mk .bridge "guard", 1)],
    scope ∉ [(TablePath2.mk .inet "guard", 3),
      (TablePath2.mk .inet "guard", 4), (TablePath2.mk .bridge "guard", 2)])
  ruleIds := canonicalRuleIds_nodup collisionFree
  counterIds := canonicalCounterIds_nodup collisionFree
  tables := .cons ⟨rfl, rfl, rfl⟩ (.cons ⟨rfl, rfl, rfl⟩ .nil)
  chains := .cons ⟨List.mem_cons_self, rfl, rfl⟩
    (.cons ⟨List.mem_cons_of_mem _ List.mem_cons_self, rfl, rfl⟩ .nil)
  rules := .cons ⟨List.mem_cons_self, rfl, rfl⟩
    (.cons ⟨List.mem_cons_self, rfl, rfl⟩
      (.cons ⟨List.mem_cons_of_mem _ List.mem_cons_self, rfl, rfl⟩ .nil))
  counters := .cons ⟨rfl, rfl⟩ (.cons ⟨rfl, rfl⟩ (.cons ⟨rfl, rfl⟩ .nil))

theorem guardRecipe_accepted
    {hash : Hashed → Digest} (collisionFree : Function.Injective hash) :
    (guardRecipe hash).Accepted hash where
  intent := guardIntent_accepted collisionFree "first"
  profile := rfl
  rules := .cons ⟨allowExpressions_layout, rfl, rfl, rfl, rfl, rfl⟩
    (.cons ⟨dropExpressions_layout, rfl, rfl, rfl, rfl, rfl⟩
      (.cons ⟨dropExpressions_layout, rfl, rfl, rfl, rfl, rfl⟩ .nil))
  digest := rfl

theorem guardDump_parentsFirst (hash : Hashed → Digest) :
    ParentsFirst (guardDump hash).objects := by
  have isBuilt : ∃ tables, buildGraph hash (guardDump hash) = .ok tables :=
    ⟨_, rfl⟩
  obtain ⟨tables, isTables⟩ := isBuilt
  exact ((buildGraph_eq hash (guardDump hash) tables).mp isTables).1

theorem pinnedInput_ne (hash : Hashed → Digest) :
    pinnedInput hash ≠ pinnedForward hash :=
  fun same => absurd (congrArg ChainIdentity2.name same)
    (by decide : "input" ≠ "forward")

theorem guardDump_realizes (hash : Hashed → Digest) :
    Realizes (guardDump hash) (guardBinding hash) (guardRecipe hash) where
  namespaceKey := rfl
  installation := rfl
  profile := rfl
  tables := .swap _ _ _
  chains := .refl _
  rules := by
    have differ := pinnedInput_ne hash
    refine List.forall_mem_cons.mpr ⟨?_, List.forall_mem_singleton.mpr ?_⟩
    · simp [pinnedRules, group, guardBinding, guardRecipe, guardExpected,
        pinnedRule, differ.symm]
      rfl
    · simp [pinnedRules, group, guardBinding, guardRecipe, guardExpected,
        pinnedRule, differ]
      rfl
  noOthers := List.forall_mem_cons.mpr ⟨List.mem_cons_self,
    List.forall_mem_cons.mpr ⟨List.mem_cons_of_mem _ List.mem_cons_self,
      List.forall_mem_singleton.mpr List.mem_cons_self⟩⟩

/-- A dump of two tables that meets its recipe. -/
theorem validateRecipe2_exact_guard :
    ∃ normalized validated,
      normalizeRules2 Encodable.encode (guardDump Encodable.encode) =
          .ok normalized ∧
        validateRecipe2 normalized (guardRecipe Encodable.encode)
            (guardBinding Encodable.encode)
            (guardIntent Encodable.encode "first") =
          .ok validated := by
  have exact := validateRecipe2_exact Encodable.encode
    Encodable.encode_injective (guardDump Encodable.encode)
    (guardRecipe Encodable.encode)
    (guardRecipe_accepted Encodable.encode_injective)
    (guardBinding Encodable.encode)
    (guardBinding_accepted Encodable.encode_injective)
    (guardIntent Encodable.encode "first")
  have realizes := guardDump_realizes Encodable.encode
  have first : ParentsFirst (guardDump Encodable.encode).objects :=
    guardDump_parentsFirst Encodable.encode
  obtain ⟨normalized, isNormalized⟩ := exact.2 rfl rfl realizes first
  obtain ⟨validated, isValidated⟩ :=
    (exact.1 normalized isNormalized).mpr ⟨rfl, rfl, realizes⟩
  exact ⟨normalized, validated, isNormalized, isValidated⟩

/-- The same dump, recipe and binding are rejected for the intent of another
transaction, although the namespace, the installation, the profile and the
catalog are the same. -/
theorem validateRecipe2_otherTransaction :
    Function.Injective (Encodable.encode : Hashed → Digest) ∧
      (guardRecipe Encodable.encode).Accepted Encodable.encode ∧
      (guardBinding Encodable.encode).Accepted Encodable.encode ∧
      (guardIntent Encodable.encode "second").Accepted Encodable.encode ∧
      (guardIntent Encodable.encode "second").namespaceKey =
        (guardDump Encodable.encode).context.namespaceKey ∧
      (guardIntent Encodable.encode "second").installation =
        (guardDump Encodable.encode).context.installation ∧
      (guardIntent Encodable.encode "second").catalog =
        (guardRecipe Encodable.encode).intent.catalog ∧
      Realizes (guardDump Encodable.encode) (guardBinding Encodable.encode)
        (guardRecipe Encodable.encode) ∧
      ∃ normalized,
        normalizeRules2 Encodable.encode (guardDump Encodable.encode) =
            .ok normalized ∧
          ¬ ∃ validated,
            validateRecipe2 normalized (guardRecipe Encodable.encode)
                (guardBinding Encodable.encode)
                (guardIntent Encodable.encode "second") =
              .ok validated := by
  obtain ⟨normalized, isNormalized⟩ : ∃ normalized,
        normalizeRules2 Encodable.encode (guardDump Encodable.encode) =
          .ok normalized :=
    ⟨_, rfl⟩
  have collisionFree : (Encodable.encode : Hashed → Digest).Injective :=
    Encodable.encode_injective
  refine ⟨collisionFree, guardRecipe_accepted collisionFree,
    guardBinding_accepted collisionFree, guardIntent_accepted collisionFree _,
    rfl, rfl, rfl,
    guardDump_realizes _, normalized, isNormalized, ?_⟩
  intro isValidated
  obtain ⟨⟨same, _⟩, _⟩ := validateRecipe2_ok.mp isValidated
  have transactions := congrArg InstallIntent2.transactionUuid same
  revert transactions
  decide

end TicketSandbox.Network
