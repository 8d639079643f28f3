import TicketSandbox.Network.ReadbackFacts

namespace TicketSandbox.Network

/-!
# Dumps in another order

The normalized tables do not depend on the order of the tables and the chains
of a dump, and the dump can be rebuilt from them up to that order.
-/

open Groupings
  (group group_groups group_map groups_perm heads_perm lookup?_perm
    map_mapIdx mem_group mem_sortedBy sortedBy sortedBy_eq_of_perm
    sortedBy_map sortedBy_perm)

/-! ## Acceptance -/

/-- No chain and no rule of a table have the same handle. -/
def HandlesApart (objects : List NativeObject2) : Prop :=
  ∀ scope ∈ (chainsOf objects).map NativeChain2.handleScope,
    scope ∉ (rulesOf objects).map NativeRule2.handleScope

variable (hash : Hashed → Digest)

/-- A graph is built of the dumps that are ordered and unique. -/
theorem buildGraph_eq
    (decoded : DecodedNative2) (tables : List NormalizedTable2) :
    buildGraph hash decoded = .ok tables ↔
      ParentsFirst decoded.objects ∧ IsUnique decoded.objects ∧
        HandlesApart decoded.objects ∧
        tables =
          (collected hash decoded.context decoded.objects).normalized := by
  have scan := scan_eq hash decoded.context decoded.limited
  rw [buildGraph]
  cases isScanned :
    decoded.objects.foldlM (Graph2.add hash decoded.context) Graph2.empty with
  | error violation =>
      constructor
      · intro isOk
        cases isOk
      · rintro ⟨first, unique, _⟩
        have isOk := (scan _).mpr ⟨first, unique, rfl⟩
        rw [isScanned] at isOk
        cases isOk
  | ok graph =>
      obtain ⟨first, unique, rfl⟩ := (scan graph).mp isScanned
      by_cases shared : ∃ scope ∈
              (collected hash decoded.context decoded.objects).chainHandles,
            scope ∈ (collected hash decoded.context decoded.objects).ruleHandles
      · have isError :
            (Except.ok (collected hash decoded.context decoded.objects) >>=
              fun graph =>
                if ∃ scope ∈ graph.chainHandles, scope ∈ graph.ruleHandles then
                  .error .scopeCollision
                else
                  .ok graph.normalized) =
              .error ReadbackViolation2.scopeCollision :=
          if_pos shared
        rw [isError]
        constructor
        · intro isOk
          cases isOk
        · rintro ⟨_, _, apart, _⟩
          obtain ⟨scope, ofChain, ofRule⟩ := shared
          exact (apart scope ofChain ofRule).elim
      · have isOk :
            (Except.ok (collected hash decoded.context decoded.objects) >>=
              fun graph =>
                if ∃ scope ∈ graph.chainHandles, scope ∈ graph.ruleHandles then
                  .error ReadbackViolation2.scopeCollision
                else
                  .ok graph.normalized) =
              .ok (collected hash decoded.context decoded.objects).normalized :=
          if_neg shared
        rw [isOk]
        constructor
        · intro isTables
          refine ⟨first, unique, ?_, (Except.ok.inj isTables).symm⟩
          intro scope ofChain ofRule
          exact shared ⟨scope, ofChain, ofRule⟩
        · rintro ⟨_, _, _, rfl⟩
          rfl

/-! ## Orders -/

/-- A dump in another order: the same objects, where each table is kept in
front of its chains, each chain in front of its rules, and the rules of each
chain in their order. -/
structure Reordering (first second : List NativeObject2) : Prop where
  perm : first.Perm second
  parents : ParentsFirst first ↔ ParentsFirst second
  rules : ∀ path, group NativeRule2.parent (rulesOf first) path =
      group NativeRule2.parent (rulesOf second) path

variable {first second base : List NativeObject2} {α : Type}
  {object : NativeObject2} {items : List α}

theorem Reordering.parts (reordering : Reordering first second) :
    (tablesOf first).Perm (tablesOf second) ∧
      (chainsOf first).Perm (chainsOf second) ∧
      (rulesOf first).Perm (rulesOf second) :=
  ⟨reordering.perm.filterMap _, reordering.perm.filterMap _,
    reordering.perm.filterMap _⟩

theorem Reordering.isUnique
    (reordering : Reordering first second) (unique : IsUnique first) :
    IsUnique second := by
  obtain ⟨tables, chains, rules⟩ := reordering.parts
  exact
    { tables := (tables.map _).nodup_iff.mp unique.tables
      tableHandles := (tables.map _).nodup_iff.mp unique.tableHandles
      chains := (chains.map _).nodup_iff.mp unique.chains
      chainHandles := (chains.map _).nodup_iff.mp unique.chainHandles
      slots := (chains.map _).nodup_iff.mp unique.slots
      ruleHandles := (rules.map _).nodup_iff.mp unique.ruleHandles }

theorem Reordering.handlesApart
    (reordering : Reordering first second) (apart : HandlesApart first) :
    HandlesApart second := by
  obtain ⟨_, chains, rules⟩ := reordering.parts
  intro scope ofChain ofRule
  exact apart scope ((chains.map _).mem_iff.mpr ofChain)
    ((rules.map _).mem_iff.mpr ofRule)

theorem Reordering.symm
    (reordering : Reordering first second) : Reordering second first where
  perm := reordering.perm.symm
  parents := reordering.parents.symm
  rules path := (reordering.rules path).symm

theorem Family2.text_injective : Function.Injective Family2.text := by
  intro family other same
  cases family with
  | bridge =>
      cases other with
      | bridge => rfl
      | inet => exact absurd same (by decide)
  | inet =>
      cases other with
      | bridge => exact absurd same (by decide)
      | inet => rfl

theorem TablePath2.key_injective : Function.Injective TablePath2.key := by
  rintro ⟨family, name⟩ ⟨other, otherName⟩ same
  simp only [TablePath2.key, List.cons.injEq, and_true] at same
  rw [Family2.text_injective same.1, same.2]

theorem ChainPath2.key_injective : Function.Injective ChainPath2.key := by
  rintro ⟨⟨family, table⟩, name⟩ ⟨⟨other, otherTable⟩, otherName⟩ same
  simp only [ChainPath2.key, List.cons.injEq, and_true] at same
  rw [Family2.text_injective same.1, same.2.1, same.2.2]

theorem nodup_keys {κ : Type} {path : α → κ} (distinct : (items.map path).Nodup)
    {key : κ → List String} (injective : Function.Injective key) :
    (items.map fun item => key (path item)).Nodup := by
  have keys := distinct.map injective
  rw [List.map_map] at keys
  exact keys

theorem Reordering.normalized
    (reordering : Reordering first second) (unique : IsUnique first)
    (hash : Hashed → Digest) (context : ReadbackContext2) :
    (collected hash context first).normalized =
      (collected hash context second).normalized := by
  obtain ⟨tables, chains, _⟩ := reordering.parts
  obtain ⟨tablePaths, chainPaths⟩ := collected_paths hash context first
  have sameTables (path : TablePath2) :
      tableAt (tablesOf first) path = tableAt (tablesOf second) path := by
    rw [tableAt, tableAt, lookup?_perm tables unique.tables]
  have sameChains (path : ChainPath2) :
      chainAt (chainsOf first) path = chainAt (chainsOf second) path := by
    rw [chainAt, chainAt, lookup?_perm chains unique.chains]
  have sameIdentity : chainIdentity context (tablesOf first) =
        chainIdentity context (tablesOf second) := by
    funext chain
    rw [chainIdentity, chainIdentity, sameTables]
  have sameRules : (collected hash context first).rules =
        (collected hash context second).rules := by
    funext path
    change collectedRules hash context first path =
      collectedRules hash context second path
    rw [collectedRules, collectedRules, reordering.rules path, sameIdentity,
      sameChains]
  have sortedTables : sortedBy (fun table => table.path.key)
          (collected hash context first).tables =
        sortedBy (fun table => table.path.key)
          (collected hash context second).tables := by
    refine sortedBy_eq_of_perm (tables.map _) ?_
    refine nodup_keys ?_ TablePath2.key_injective
    rw [tablePaths]
    exact unique.tables
  have sortedChains : sortedBy (fun chain => chain.path.key)
          (collected hash context first).chains =
        sortedBy (fun chain => chain.path.key)
          (collected hash context second).chains := by
    refine sortedBy_eq_of_perm ?_ ?_
    · change ((chainsOf first).map _).Perm ((chainsOf second).map _)
      rw [sameIdentity]
      exact chains.map _
    · refine nodup_keys ?_ ChainPath2.key_injective
      rw [chainPaths]
      exact unique.chains
  have sameChainsOf : (collected hash context first).chainsOf =
        (collected hash context second).chainsOf := by
    funext path
    rw [Graph2.chainsOf, Graph2.chainsOf, sortedChains, sameRules]
  rw [Graph2.normalized, Graph2.normalized, sortedTables, sameChainsOf]

/-! ## Rebuilding -/

/-- The table of an identity. -/
def TableIdentity2.native (table : TableIdentity2) : NativeTable2 :=
  ⟨table.family, table.name, table.handle⟩

/-- The chain of an identity. -/
def ChainIdentity2.native (chain : ChainIdentity2) : NativeChain2 :=
  ⟨chain.parent.family, chain.parent.name, chain.name, chain.handle,
    chain.chainType, chain.hook, chain.priority, chain.policy⟩

/-- The rule of a normalized one. -/
def NormalizedRule2.native (rule : NormalizedRule2) : NativeRule2 where
  family := rule.identity.parent.parent.family
  table := rule.identity.parent.parent.name
  chain := rule.identity.parent.name
  handle := rule.identity.handle
  expressions := rule.expressions
  counter := rule.counter
  layout := rule.layout
  counted := rule.counted

/-- The objects of a chain. -/
def NormalizedChain2.objects (chain : NormalizedChain2) : List NativeObject2 :=
  .chain chain.identity.native :: chain.rules.map fun rule => .rule rule.native

/-- The objects of a table. -/
def NormalizedTable2.objects (table : NormalizedTable2) : List NativeObject2 :=
  .table table.identity.native :: table.chains.flatMap NormalizedChain2.objects

/-- The objects of normalized tables. -/
def rebuild (tables : List NormalizedTable2) : List NativeObject2 :=
  tables.flatMap NormalizedTable2.objects

/-- A chain with its rules, as they stand in a dump. -/
def chainBlock (objects : List NativeObject2)
    (chain : NativeChain2) : List NativeObject2 :=
  .chain chain :: (group NativeRule2.parent (rulesOf objects) chain.path).map
      NativeObject2.rule

/-- The chains of a dump in the order of their paths. -/
def sortedChains (objects : List NativeObject2) : List NativeChain2 :=
  sortedBy (fun chain => chain.path.key) (chainsOf objects)

/-- The tables of a dump in the order of their paths. -/
def sortedTables (objects : List NativeObject2) : List NativeTable2 :=
  sortedBy (fun table => table.path.key) (tablesOf objects)

/-- A table with its chains, as they stand in a dump. -/
def tableBlock (objects : List NativeObject2)
    (table : NativeTable2) : List NativeObject2 :=
  .table table ::
    (group NativeChain2.parent (sortedChains objects) table.path).flatMap
      (chainBlock objects)

variable (context : ReadbackContext2)

theorem collectedRules_native
    (objects : List NativeObject2) (path : ChainPath2) :
    (collectedRules hash context objects path).map NormalizedRule2.native =
      group NativeRule2.parent (rulesOf objects) path := by
  refine map_mapIdx fun index rule member => ?_
  have isPath : (chainIdentity context (tablesOf objects)
        (chainAt (chainsOf objects) path)).path = rule.parent := by
    rw [chainIdentity_path, chainAt_path, (mem_group.mp member).2]
  obtain ⟨family, table, chain, handle, expressions, counter, layout,
    counted⟩ := rule
  have isTable := congrArg ChainPath2.table isPath
  have isFamily := congrArg TablePath2.family isTable
  have isName := congrArg TablePath2.name isTable
  have isChain := congrArg ChainPath2.name isPath
  simp only [ChainIdentity2.path, TableIdentity2.path, NativeRule2.parent,
    NativeRule2.scope] at isFamily isName isChain
  simp only [NativeRule2.normalized, NormalizedRule2.native, isFamily,
    isName, isChain]

theorem chainIdentity_native
    (tables : List NativeTable2) (chain : NativeChain2) :
    (chainIdentity context tables chain).native = chain := by
  have isParent := tableAt_path tables chain.parent
  have isFamily := congrArg TablePath2.family isParent
  have isName := congrArg TablePath2.name isParent
  obtain ⟨family, table, name, handle, chainType, hook, priority, policy⟩ :=
    chain
  simp only [NativeTable2.path, NativeChain2.parent] at isFamily isName
  simp only [chainIdentity, NativeChain2.identity, ChainIdentity2.native,
    NativeTable2.identity, NativeChain2.parent, isFamily, isName]

theorem rebuild_normalized (objects : List NativeObject2) :
    rebuild (collected hash context objects).normalized =
      (sortedTables objects).flatMap (tableBlock objects) := by
  have tables : sortedBy (fun table => table.path.key)
          (collected hash context objects).tables =
        (sortedTables objects).map fun table => table.identity context :=
    sortedBy_map (fun _ => rfl) (tablesOf objects)
  have chains : sortedBy (fun chain => chain.path.key)
          (collected hash context objects).chains =
        (sortedChains objects).map
          (chainIdentity context (tablesOf objects)) := by
    refine sortedBy_map (fun chain => ?_) (chainsOf objects)
    rw [chainIdentity_path]
  have ofTable (path : TablePath2) :
      (collected hash context objects).chainsOf path =
        (group NativeChain2.parent (sortedChains objects) path).map
          fun chain =>
            { identity := chainIdentity context (tablesOf objects) chain
              rules := collectedRules hash context objects chain.path } := by
    have isTable (chain : NativeChain2) :
        (chainIdentity context (tablesOf objects) chain).path.table =
          chain.parent := by
      rw [chainIdentity_path]
      rfl
    have grouped :=
      @group_map _ _ _ _ (fun chain : ChainIdentity2 => chain.path.table)
        (chainIdentity context (tablesOf objects)) _ isTable
    rw [Graph2.chainsOf, chains, grouped, List.map_map]
    refine List.map_congr_left fun chain _ => ?_
    rw [Function.comp_apply, chainIdentity_path]
    rfl
  have ofChain (chain : NativeChain2) : NormalizedChain2.objects
          { identity := chainIdentity context (tablesOf objects) chain
            rules := collectedRules hash context objects chain.path } =
        chainBlock objects chain := by
    have rules := collectedRules_native hash context objects chain.path
    rw [NormalizedChain2.objects, chainIdentity_native, chainBlock, ← rules,
      List.map_map]
    rfl
  rw [rebuild, Graph2.normalized, tables, List.map_map, List.flatMap_map]
  refine List.flatMap_congr fun table _ => ?_
  rw [NormalizedTable2.objects, tableBlock, Function.comp_apply]
  refine congrArg (List.cons _) ?_
  change List.flatMap _
    ((collected hash context objects).chainsOf table.path) = _
  rw [ofTable, List.flatMap_map]
  exact List.flatMap_congr fun chain _ => ofChain chain

theorem kinds_perm (objects : List NativeObject2) :
    objects.Perm ((tablesOf objects).map NativeObject2.table ++
        ((chainsOf objects).map NativeObject2.chain ++
          (rulesOf objects).map NativeObject2.rule)) := by
  induction objects with
  | nil => exact List.Perm.nil
  | cons object others inductionHypothesis =>
      cases object with
      | table table => exact List.Perm.cons _ inductionHypothesis
      | chain chain =>
          refine (List.Perm.cons _ inductionHypothesis).trans ?_
          exact List.perm_middle.symm
      | rule rule =>
          refine (List.Perm.cons _ inductionHypothesis).trans ?_
          rw [← List.append_assoc]
          refine List.perm_middle.symm.trans ?_
          rw [List.append_assoc]
          exact List.Perm.refl _

/-- The chains as they stand in the blocks. -/
def blockChains (objects : List NativeObject2) : List NativeChain2 :=
  (sortedTables objects).flatMap fun table =>
    group NativeChain2.parent (sortedChains objects) table.path

theorem blockChains_perm {objects : List NativeObject2}
    (first : ParentsFirst objects) (unique : IsUnique objects) :
    (blockChains objects).Perm (chainsOf objects) := by
  have distinct : ((sortedTables objects).map NativeTable2.path).Nodup :=
    ((sortedBy_perm _ _).map _).nodup_iff.mpr unique.tables
  have groups : (blockChains objects).Perm (sortedChains objects) := by
    rw [blockChains, ← List.flatMap_map (f := NativeTable2.path)
      (g := group NativeChain2.parent (sortedChains objects))]
    refine groups_perm distinct fun chain member => ?_
    obtain ⟨table, isTable, isParent⟩ :=
      first.hasParent.1 chain (mem_sortedBy.mp member)
    exact List.mem_map.mpr ⟨table, mem_sortedBy.mpr isTable, isParent⟩
  exact groups.trans (sortedBy_perm _ _)

theorem blockRules_perm {objects : List NativeObject2}
    (first : ParentsFirst objects) (unique : IsUnique objects) :
    ((blockChains objects).flatMap fun chain =>
      group NativeRule2.parent (rulesOf objects) chain.path).Perm
        (rulesOf objects) := by
  have chains := blockChains_perm first unique
  have distinct : ((blockChains objects).map NativeChain2.path).Nodup :=
    (chains.map _).nodup_iff.mpr unique.chains
  rw [← List.flatMap_map (f := NativeChain2.path)
    (g := group NativeRule2.parent (rulesOf objects))]
  refine groups_perm distinct fun rule member => ?_
  obtain ⟨chain, isChain, isParent⟩ := first.hasParent.2 rule member
  exact List.mem_map.mpr ⟨chain, chains.mem_iff.mpr isChain, isParent⟩

theorem blocks_perm {objects : List NativeObject2}
    (first : ParentsFirst objects) (unique : IsUnique objects) :
    objects.Perm ((sortedTables objects).flatMap (tableBlock objects)) := by
  have tableHeads := heads_perm NativeObject2.table (fun table =>
        (group NativeChain2.parent (sortedChains objects)
          table.path).flatMap (chainBlock objects))
      (sortedTables objects)
  have chainHeads := heads_perm NativeObject2.chain (fun chain =>
        (group NativeRule2.parent (rulesOf objects) chain.path).map
          NativeObject2.rule)
      (blockChains objects)
  have flattened : ((sortedTables objects).flatMap fun table =>
          (group NativeChain2.parent (sortedChains objects)
            table.path).flatMap (chainBlock objects)) =
        (blockChains objects).flatMap (chainBlock objects) := by
    rw [blockChains, List.flatMap_assoc]
  rw [← List.map_flatMap] at chainHeads
  rw [flattened] at tableHeads
  refine (kinds_perm objects).trans ?_
  refine List.Perm.trans ?_ tableHeads.symm
  refine List.Perm.append ((sortedBy_perm _ _).symm.map _) ?_
  refine List.Perm.trans ?_ chainHeads.symm
  exact List.Perm.append ((blockChains_perm first unique).symm.map _)
    ((blockRules_perm first unique).symm.map _)

/-- Each object behind others has its parent in front of it. -/
def ParentsBehind (base objects : List NativeObject2) : Prop :=
  ∀ earlier object later, objects = earlier ++ object :: later →
    HasParent (base ++ earlier) object

theorem parentsBehind_cons
    {objects : List NativeObject2} (hasParent : HasParent base object)
    (behind : ParentsBehind (base ++ [object]) objects) :
    ParentsBehind base (object :: objects) := by
  intro earlier other later split
  cases earlier with
  | nil =>
      obtain ⟨rfl, _⟩ := List.cons.inj split
      rw [List.append_nil]
      exact hasParent
  | cons head earlier =>
      obtain ⟨rfl, rest⟩ := List.cons.inj split
      have found := behind earlier other later rest
      rw [List.append_assoc] at found
      exact found

theorem parentsBehind_flatMap {block : α → List NativeObject2}
    (each : ∀ item ∈ items, ∀ front, base ⊆ front →
      ParentsBehind front (block item)) :
    ParentsBehind base (items.flatMap block) := by
  induction items generalizing base with
  | nil =>
      intro earlier object later split
      have lengths := congrArg List.length split
      rw [List.length_append] at lengths
      exact (Nat.succ_ne_zero _ lengths.symm).elim
  | cons item others inductionHypothesis =>
      have ofFirst := each item List.mem_cons_self base (List.Subset.refl _)
      have ofOthers :
          ParentsBehind (base ++ block item) (others.flatMap block) :=
        inductionHypothesis fun other member front included =>
          each other (List.mem_cons_of_mem _ member) front
            fun object inBase => included (List.mem_append_left _ inBase)
      intro earlier object later split
      rw [List.flatMap_cons] at split
      rcases List.append_eq_append_iff.mp split with
        ⟨between, rfl, isOthers⟩ | ⟨between, isBlock, isLater⟩
      · have found := ofOthers between object later isOthers
        rw [List.append_assoc] at found
        exact found
      · cases between with
        | nil =>
            rw [List.append_nil] at isBlock
            have found := ofOthers [] object later isLater.symm
            rw [List.append_nil, isBlock] at found
            exact found
        | cons head between =>
            obtain ⟨rfl, _⟩ := List.cons.inj isLater
            exact ofFirst earlier _ between isBlock

theorem blocks_parentsFirst (objects : List NativeObject2) :
    ParentsFirst ((sortedTables objects).flatMap (tableBlock objects)) := by
  have behind : ParentsBehind []
        ((sortedTables objects).flatMap (tableBlock objects)) := by
    refine parentsBehind_flatMap fun table _ front _ => ?_
    refine parentsBehind_cons trivial ?_
    refine parentsBehind_flatMap fun chain isChain before included => ?_
    have hasTable : HasParent before (.chain chain) := by
      refine ⟨table, ?_, (mem_group.mp isChain).2.symm⟩
      exact List.mem_filterMap.mpr ⟨.table table,
          included (List.mem_append_right _ List.mem_cons_self), rfl⟩
    refine parentsBehind_cons hasTable ?_
    intro earlier object later split
    have member : object ∈
          (group NativeRule2.parent (rulesOf objects) chain.path).map
            NativeObject2.rule := by
      rw [split]
      exact List.mem_append_right _ List.mem_cons_self
    obtain ⟨rule, isRule, rfl⟩ := List.mem_map.mp member
    refine ⟨chain, ?_, (mem_group.mp isRule).2.symm⟩
    refine List.mem_filterMap.mpr ⟨.chain chain, ?_, rfl⟩
    exact List.mem_append_left _ (List.mem_append_right _ List.mem_cons_self)
  intro earlier object later split
  exact behind earlier object later split

theorem rulesOf_blocks (objects : List NativeObject2) :
    rulesOf ((sortedTables objects).flatMap (tableBlock objects)) =
      (blockChains objects).flatMap fun chain =>
        group NativeRule2.parent (rulesOf objects) chain.path := by
  have ofChain (chain : NativeChain2) : rulesOf (chainBlock objects chain) =
        group NativeRule2.parent (rulesOf objects) chain.path := by
    rw [rulesOf, chainBlock, List.filterMap_cons_none rfl, List.filterMap_map]
    exact List.filterMap_some
  have ofTable (table : NativeTable2) : rulesOf (tableBlock objects table) =
        (group NativeChain2.parent (sortedChains objects)
          table.path).flatMap fun chain =>
            group NativeRule2.parent (rulesOf objects) chain.path := by
    rw [rulesOf, tableBlock, List.filterMap_cons_none rfl,
      List.filterMap_flatMap]
    exact List.flatMap_congr fun chain _ => ofChain chain
  rw [rulesOf, List.filterMap_flatMap, blockChains, List.flatMap_assoc]
  exact List.flatMap_congr fun table _ => ofTable table

theorem rebuild_reordering {objects : List NativeObject2}
    (first : ParentsFirst objects) (unique : IsUnique objects)
    (hash : Hashed → Digest) (context : ReadbackContext2) :
    Reordering objects
      (rebuild (collected hash context objects).normalized) := by
  have chains := blockChains_perm first unique
  have distinct : ((blockChains objects).map NativeChain2.path).Nodup :=
    (chains.map _).nodup_iff.mpr unique.chains
  rw [rebuild_normalized]
  refine
    { perm := blocks_perm first unique
      parents := iff_of_true first (blocks_parentsFirst objects)
      rules := ?_ }
  intro path
  have grouped :=
    @group_groups _ _ _ NativeRule2.parent _ (rulesOf objects) distinct path
  rw [List.flatMap_map] at grouped
  rw [rulesOf_blocks, grouped]
  split
  · rfl
  · rename_i missing
    refine List.filter_eq_nil_iff.mpr fun rule member isPath => ?_
    obtain ⟨chain, isChain, isParent⟩ := first.hasParent.2 rule member
    refine missing (List.mem_map.mpr ⟨chain, chains.mem_iff.mpr isChain, ?_⟩)
    rw [isParent]
    exact of_decide_eq_true isPath

/-! ## Normalization -/

/-- An object whose parent is not in front of it. -/
def HasMissingParent (objects : List NativeObject2) : Prop :=
  ∃ earlier object later,
    objects = earlier ++ object :: later ∧ ¬ HasParent earlier object

/-- A handle that a chain and a rule of one table share. -/
def HasSharedHandle (objects : List NativeObject2) : Prop :=
  ∃ chain ∈ chainsOf objects, ∃ rule ∈ rulesOf objects,
    chain.handleScope = rule.handleScope

/-- What is wrong with a dump that is rejected. -/
def IsFlawed (objects : List NativeObject2) : Prop :=
  HasMissingParent objects ∨
    ¬ ((tablesOf objects).map NativeTable2.path).Nodup ∨
    ¬ ((chainsOf objects).map NativeChain2.path).Nodup ∨
    ¬ ((chainsOf objects).map NativeChain2.slot).Nodup ∨
    ¬ ((tablesOf objects).map NativeTable2.handleScope).Nodup ∨
    ¬ ((chainsOf objects).map NativeChain2.handleScope).Nodup ∨
    ¬ ((rulesOf objects).map NativeRule2.handleScope).Nodup ∨
    HasSharedHandle objects

theorem isFlawed_iff (objects : List NativeObject2) :
    IsFlawed objects ↔
      ¬ (ParentsFirst objects ∧ IsUnique objects ∧ HandlesApart objects) := by
  have missing : HasMissingParent objects ↔ ¬ ParentsFirst objects := by
    simp only [HasMissingParent, ParentsFirst, not_forall, exists_prop]
  have shared : HasSharedHandle objects ↔ ¬ HandlesApart objects := by
    constructor
    · rintro ⟨chain, isChain, rule, isRule, same⟩ apart
      exact apart _ (List.mem_map_of_mem isChain)
        (List.mem_map.mpr ⟨rule, isRule, same.symm⟩)
    · intro shared
      by_contra none
      refine shared fun scope ofChain ofRule => none ?_
      obtain ⟨chain, isChain, rfl⟩ := List.mem_map.mp ofChain
      obtain ⟨rule, isRule, same⟩ := List.mem_map.mp ofRule
      exact ⟨chain, isChain, rule, isRule, same.symm⟩
  have unique : IsUnique objects ↔
        ((tablesOf objects).map NativeTable2.path).Nodup ∧
          ((chainsOf objects).map NativeChain2.path).Nodup ∧
          ((chainsOf objects).map NativeChain2.slot).Nodup ∧
          ((tablesOf objects).map NativeTable2.handleScope).Nodup ∧
          ((chainsOf objects).map NativeChain2.handleScope).Nodup ∧
          ((rulesOf objects).map NativeRule2.handleScope).Nodup :=
    ⟨fun unique =>
      ⟨unique.tables, unique.chains, unique.slots, unique.tableHandles,
        unique.chainHandles, unique.ruleHandles⟩,
      fun ⟨tables, chains, slots, tableHandles, chainHandles, ruleHandles⟩ =>
        { tables, tableHandles, chains, chainHandles, slots, ruleHandles }⟩
  rw [IsFlawed, missing, shared, unique]
  tauto

/-- The normalized tables of a dump, if it is accepted. -/
def normalizedTables?
    (decoded : DecodedNative2) : Option (List NormalizedTable2) :=
  (normalizeRules2 hash decoded).toOption.map NormalizedRules2.tables

/-- The tables of a dump are those of its graph. -/
theorem normalizedTables?_eq {hash : Hashed → Digest} {decoded : DecodedNative2}
    {tables : List NormalizedTable2} :
    normalizedTables? hash decoded = some tables ↔
      buildGraph hash decoded = .ok tables := by
  rw [normalizedTables?, normalizeRules2]
  cases buildGraph hash decoded with
  | error violation =>
      constructor
      · intro isSome
        cases isSome
      · intro isOk
        cases isOk
  | ok found =>
      constructor
      · intro isSome
        exact congrArg Except.ok (Option.some.inj isSome)
      · intro isOk
        exact congrArg some (Except.ok.inj isOk)

/-- The normalized tables do not depend on the order of a dump; the dump can
be rebuilt from them up to that order; and exactly the flawed dumps are
rejected. -/
theorem normalizeRules2_canonical
    (hash : Hashed → Digest) (decoded : DecodedNative2) :
    (∀ other : DecodedNative2, other.context = decoded.context →
        Reordering decoded.objects other.objects →
        normalizedTables? hash other = normalizedTables? hash decoded) ∧
      (∀ tables, normalizedTables? hash decoded = some tables →
        Reordering decoded.objects (rebuild tables)) ∧
      (normalizedTables? hash decoded = none ↔ IsFlawed decoded.objects) := by
  refine ⟨?_, ?_, ?_⟩
  · intro other sameContext reordering
    have one {one two : DecodedNative2} (same : two.context = one.context)
        (reordered : Reordering one.objects two.objects)
        {tables : List NormalizedTable2}
        (isSome : normalizedTables? hash one = some tables) :
        normalizedTables? hash two = some tables := by
      obtain ⟨first, unique, apart, rfl⟩ :=
        (buildGraph_eq hash one tables).mp (normalizedTables?_eq.mp isSome)
      refine normalizedTables?_eq.mpr ((buildGraph_eq hash two _).mpr ?_)
      refine ⟨reordered.parents.mp first, reordered.isUnique unique,
        reordered.handlesApart apart, ?_⟩
      rw [same]
      exact reordered.normalized unique hash one.context
    cases isDecoded : normalizedTables? hash decoded with
    | some tables => exact one sameContext reordering isDecoded
    | none =>
        cases isOther : normalizedTables? hash other with
        | none => rfl
        | some tables =>
            rw [one sameContext.symm reordering.symm isOther] at isDecoded
            cases isDecoded
  · intro tables isSome
    obtain ⟨first, unique, _, rfl⟩ :=
      (buildGraph_eq hash decoded tables).mp (normalizedTables?_eq.mp isSome)
    exact rebuild_reordering first unique hash decoded.context
  · rw [isFlawed_iff]
    constructor
    · rintro isNone ⟨first, unique, apart⟩
      have isOk :=
        (buildGraph_eq hash decoded _).mpr ⟨first, unique, apart, rfl⟩
      rw [normalizedTables?_eq.mpr isOk] at isNone
      cases isNone
    · intro rejected
      cases isDecoded : normalizedTables? hash decoded with
      | none => rfl
      | some tables =>
          obtain ⟨first, unique, apart, _⟩ :=
            (buildGraph_eq hash decoded tables).mp
              (normalizedTables?_eq.mp isDecoded)
          exact (rejected ⟨first, unique, apart⟩).elim

/-- A table with two chains and a rule. -/
def guardedDump : DecodedNative2 where
  profile := ⟨0⟩
  context := ⟨⟨"boot", 1, "session", 1⟩, ⟨0, "context", 0, "w", "e", 1⟩⟩
  objects := [.table ⟨.inet, "guard", 1⟩,
      .chain ⟨.inet, "guard", "input", 1, .filter, .input, 0, .drop⟩,
      .chain ⟨.inet, "guard", "output", 2, .filter, .output, 0, .drop⟩,
      .rule ⟨.inet, "guard", "output", 3, [.verdict .drop], none,
          ⟨by decide, by decide, by decide⟩, rfl⟩]
  limited := by decide

/-- The same dump with the rule in front of the other chain. -/
def reorderedDump : DecodedNative2 where
  profile := ⟨0⟩
  context := guardedDump.context
  objects := [.table ⟨.inet, "guard", 1⟩,
      .chain ⟨.inet, "guard", "output", 2, .filter, .output, 0, .drop⟩,
      .rule ⟨.inet, "guard", "output", 3, [.verdict .drop], none,
          ⟨by decide, by decide, by decide⟩, rfl⟩,
      .chain ⟨.inet, "guard", "input", 1, .filter, .input, 0, .drop⟩]
  limited := by decide

theorem normalizeRules2_canonical_guarded :
    normalizedTables? (fun _ => 0) reorderedDump =
        normalizedTables? (fun _ => 0) guardedDump ∧
      ∃ tables, normalizedTables? (fun _ => 0) guardedDump = some tables ∧
          Reordering guardedDump.objects (rebuild tables) := by
  obtain ⟨tables, isGuarded⟩ :
      ∃ tables, buildGraph (fun _ => 0) guardedDump = .ok tables :=
    ⟨_, rfl⟩
  obtain ⟨_, isReordered⟩ :
      ∃ tables, buildGraph (fun _ => 0) reorderedDump = .ok tables :=
    ⟨_, rfl⟩
  have first := ((buildGraph_eq _ _ _).mp isGuarded).1
  have alsoFirst := ((buildGraph_eq _ _ _).mp isReordered).1
  have reordering : Reordering guardedDump.objects reorderedDump.objects :=
    { perm := List.Perm.cons _ (@List.perm_append_comm _ [_] [_, _])
      parents := iff_of_true first alsoFirst
      rules := fun _ => rfl }
  have isSome := normalizedTables?_eq.mpr isGuarded
  obtain ⟨same, rebuilt, _⟩ :=
    normalizeRules2_canonical (fun _ => 0) guardedDump
  exact ⟨same reorderedDump rfl reordering, tables, isSome,
    rebuilt tables isSome⟩

end TicketSandbox.Network
