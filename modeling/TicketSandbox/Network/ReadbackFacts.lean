import Mathlib.Data.List.Induction
import TicketSandbox.Network.Readback

namespace TicketSandbox.Network

/-!
# What a scan collects

A dump is accepted exactly when every object has its parent in front of it and
no path, handle or hook slot is there twice; what is collected is then a
function of its tables, its chains and the rules of each chain.
-/

open Groupings
  (group group_concat lookup? lookup?_append lookup?_concat_ne lookup?_eq_some
    lookup?_isSome lookup?_perm mem_group mem_of_lookup?)

/-! ## Dumps -/

/-- The tables of a dump. -/
def tablesOf (objects : List NativeObject2) : List NativeTable2 :=
  objects.filterMap fun object =>
    match object with
    | .table table => some table
    | _ => none

/-- The chains of a dump. -/
def chainsOf (objects : List NativeObject2) : List NativeChain2 :=
  objects.filterMap fun object =>
    match object with
    | .chain chain => some chain
    | _ => none

/-- The rules of a dump. -/
def rulesOf (objects : List NativeObject2) : List NativeRule2 :=
  objects.filterMap fun object =>
    match object with
    | .rule rule => some rule
    | _ => none

/-- The parent of an object is among the objects. -/
def HasParent (objects : List NativeObject2) : NativeObject2 → Prop
  | .table _ => True
  | .chain chain => ∃ table ∈ tablesOf objects, table.path = chain.parent
  | .rule rule => ∃ chain ∈ chainsOf objects, chain.path = rule.parent

/-- Each table is in front of its chains, and each chain in front of its
rules. -/
def ParentsFirst (objects : List NativeObject2) : Prop :=
  ∀ earlier object later,
    objects = earlier ++ object :: later → HasParent earlier object

/-- The scope of the handle of a table. -/
def NativeTable2.handleScope (table : NativeTable2) : Family2 × Nat :=
  (table.family, table.handle)

/-- The scope of the handle of a chain. -/
def NativeChain2.handleScope (chain : NativeChain2) : TablePath2 × Nat :=
  (chain.parent, chain.handle)

/-- The slot of a chain. -/
def NativeChain2.slot (chain : NativeChain2) : Family2 × Hook2 × Int :=
  (chain.family, chain.hook, chain.priority)

/-- The scope of the handle of a rule. -/
def NativeRule2.handleScope (rule : NativeRule2) : TablePath2 × Nat :=
  (rule.scope, rule.handle)

/-- No table, chain, slot or handle is there twice. -/
structure IsUnique (objects : List NativeObject2) : Prop where
  tables : ((tablesOf objects).map NativeTable2.path).Nodup
  tableHandles : ((tablesOf objects).map NativeTable2.handleScope).Nodup
  chains : ((chainsOf objects).map NativeChain2.path).Nodup
  chainHandles : ((chainsOf objects).map NativeChain2.handleScope).Nodup
  slots : ((chainsOf objects).map NativeChain2.slot).Nodup
  ruleHandles : ((rulesOf objects).map NativeRule2.handleScope).Nodup

/-- No path, handle or slot of an object is there already. -/
def IsNew (objects : List NativeObject2) : NativeObject2 → Prop
  | .table table =>
      table.path ∉ (tablesOf objects).map NativeTable2.path ∧
        table.handleScope ∉ (tablesOf objects).map NativeTable2.handleScope
  | .chain chain =>
      chain.path ∉ (chainsOf objects).map NativeChain2.path ∧
        chain.handleScope ∉ (chainsOf objects).map NativeChain2.handleScope ∧
        chain.slot ∉ (chainsOf objects).map NativeChain2.slot
  | .rule rule =>
      rule.handleScope ∉ (rulesOf objects).map NativeRule2.handleScope

/-! ## One object more -/

theorem nodup_concat {α : Type} {items : List α} {item : α} :
    (items ++ [item]).Nodup ↔ item ∉ items ∧ items.Nodup := by
  rw [← List.concat_eq_append, List.nodup_concat]

theorem parts_concat (objects : List NativeObject2) (object : NativeObject2) :
    tablesOf (objects ++ [object]) = tablesOf objects ++ tablesOf [object] ∧
      chainsOf (objects ++ [object]) = chainsOf objects ++ chainsOf [object] ∧
      rulesOf (objects ++ [object]) = rulesOf objects ++ rulesOf [object] :=
  ⟨List.filterMap_append, List.filterMap_append, List.filterMap_append⟩

variable {objects : List NativeObject2} {hash : Hashed → Digest}
  {context : ReadbackContext2} {object : NativeObject2}

theorem parentsFirst_concat :
    ParentsFirst (objects ++ [object]) ↔
      ParentsFirst objects ∧ HasParent objects object := by
  constructor
  · intro first
    refine ⟨?_, first objects object [] rfl⟩
    rintro earlier other later rfl
    exact first earlier other (later ++ [object])
      (by rw [List.append_assoc]; rfl)
  · rintro ⟨first, hasParent⟩ earlier other later split
    rcases List.eq_nil_or_concat later with rfl | ⟨rest, last, rfl⟩
    · obtain ⟨rfl, same⟩ := List.append_inj' split rfl
      rw [← List.singleton_inj.mp same]
      exact hasParent
    · rw [List.concat_eq_append, ← List.cons_append,
        ← List.append_assoc] at split
      obtain ⟨rfl, _⟩ := List.append_inj' split rfl
      exact first earlier other rest rfl

theorem ParentsFirst.hasParent (first : ParentsFirst objects) :
    (∀ chain ∈ chainsOf objects,
        ∃ table ∈ tablesOf objects, table.path = chain.parent) ∧
      ∀ rule ∈ rulesOf objects,
        ∃ chain ∈ chainsOf objects, chain.path = rule.parent := by
  constructor
  · intro chain member
    obtain ⟨object, isObject, isChain⟩ := List.mem_filterMap.mp member
    obtain ⟨earlier, later, rfl⟩ := List.append_of_mem isObject
    cases object with
    | table _ => cases isChain
    | rule _ => cases isChain
    | chain other =>
        cases isChain
        obtain ⟨table, isTable, isParent⟩ := first earlier _ later rfl
        refine ⟨table, ?_, isParent⟩
        rw [tablesOf, List.filterMap_append]
        exact List.mem_append_left _ isTable
  · intro rule member
    obtain ⟨object, isObject, isRule⟩ := List.mem_filterMap.mp member
    obtain ⟨earlier, later, rfl⟩ := List.append_of_mem isObject
    cases object with
    | table _ => cases isRule
    | chain _ => cases isRule
    | rule other =>
        cases isRule
        obtain ⟨chain, isChain, isParent⟩ := first earlier _ later rfl
        refine ⟨chain, ?_, isParent⟩
        rw [chainsOf, List.filterMap_append]
        exact List.mem_append_left _ isChain

/-! ## What is collected -/

/-- The table of a path. -/
def tableAt (tables : List NativeTable2) (path : TablePath2) : NativeTable2 :=
  (lookup? NativeTable2.path tables path).getD ⟨path.family, path.name, 0⟩

/-- The identity of a chain among tables. -/
def chainIdentity (context : ReadbackContext2) (tables : List NativeTable2)
    (chain : NativeChain2) : ChainIdentity2 :=
  chain.identity ((tableAt tables chain.parent).identity context)

/-- The chain of a path. -/
def chainAt (chains : List NativeChain2) (path : ChainPath2) : NativeChain2 :=
  (lookup? NativeChain2.path chains path).getD
    ⟨path.table.family, path.table.name, path.name, 0, .filter, .input, 0,
      .accept⟩

/-- The rules of a chain in their order. -/
def collectedRules (hash : Hashed → Digest) (context : ReadbackContext2)
    (objects : List NativeObject2) (path : ChainPath2) : List NormalizedRule2 :=
  (group NativeRule2.parent (rulesOf objects) path).mapIdx
    (NativeRule2.normalized hash (chainIdentity context (tablesOf objects)
        (chainAt (chainsOf objects) path)))

/-- What is collected of a dump. -/
def collected (hash : Hashed → Digest) (context : ReadbackContext2)
    (objects : List NativeObject2) : Graph2 where
  tables := (tablesOf objects).map fun table => table.identity context
  chains := (chainsOf objects).map (chainIdentity context (tablesOf objects))
  rules := collectedRules hash context objects
  tableHandles := (tablesOf objects).map NativeTable2.handleScope
  chainHandles := (chainsOf objects).map NativeChain2.handleScope
  ruleHandles := (rulesOf objects).map NativeRule2.handleScope
  hooks := (chainsOf objects).map NativeChain2.slot

theorem tableAt_path (tables : List NativeTable2) (path : TablePath2) :
    (tableAt tables path).path = path := by
  rw [tableAt]
  cases found : lookup? NativeTable2.path tables path with
  | none => rfl
  | some table => exact (mem_of_lookup? found).2

theorem chainAt_path (chains : List NativeChain2) (path : ChainPath2) :
    (chainAt chains path).path = path := by
  rw [chainAt]
  cases found : lookup? NativeChain2.path chains path with
  | none => rfl
  | some chain => exact (mem_of_lookup? found).2

theorem chainIdentity_path (context : ReadbackContext2)
    (tables : List NativeTable2) (chain : NativeChain2) :
    (chainIdentity context tables chain).path = chain.path := by
  have isParent := tableAt_path tables chain.parent
  exact congrArg (fun parent => ChainPath2.mk parent chain.name) isParent

theorem tableAt_concat {tables : List NativeTable2} {path : TablePath2}
    (isThere : ∃ table ∈ tables, table.path = path) (table : NativeTable2) :
    tableAt (tables ++ [table]) path = tableAt tables path := by
  obtain ⟨found, isFound⟩ :=
    Option.isSome_iff_exists.mp (lookup?_isSome.mpr isThere)
  rw [tableAt, tableAt, lookup?_append isFound, isFound]

theorem collected_paths (hash : Hashed → Digest) (context : ReadbackContext2)
    (objects : List NativeObject2) :
    (collected hash context objects).tables.map TableIdentity2.path =
        (tablesOf objects).map NativeTable2.path ∧
      (collected hash context objects).chains.map ChainIdentity2.path =
        (chainsOf objects).map NativeChain2.path := by
  constructor
  · rw [collected, List.map_map]
    rfl
  · rw [collected, List.map_map]
    exact List.map_congr_left fun chain _ =>
      chainIdentity_path context (tablesOf objects) chain

/-! ## The scan -/

/-- A table more is collected when its path and handle are new. -/
theorem addTable_collected
    (first : ParentsFirst objects) (table : NativeTable2) (graph : Graph2) :
    (collected hash context objects).addTable context table = .ok graph ↔
      table.path ∉ (tablesOf objects).map NativeTable2.path ∧
        table.handleScope ∉ (tablesOf objects).map NativeTable2.handleScope ∧
        graph = collected hash context (objects ++ [.table table]) := by
  obtain ⟨tables, chains, rules⟩ := parts_concat objects (.table table)
  change _ = _ ++ [table] at tables
  change _ = _ ++ [] at chains rules
  rw [List.append_nil] at chains rules
  have sameIdentity : ∀ chain ∈ chainsOf objects,
        chainIdentity context (tablesOf objects ++ [table]) chain =
          chainIdentity context (tablesOf objects) chain := by
    intro chain member
    rw [chainIdentity, chainIdentity,
      tableAt_concat (first.hasParent.1 chain member)]
  have sameRules : collectedRules hash context (objects ++ [.table table]) =
        collectedRules hash context objects := by
    funext path
    rw [collectedRules, collectedRules, rules, tables, chains]
    cases isGroup : group NativeRule2.parent (rulesOf objects) path with
    | nil => rfl
    | cons rule others =>
        have isRule : rule ∈ group NativeRule2.parent (rulesOf objects)
            path := by
          rw [isGroup]
          exact List.mem_cons_self
        obtain ⟨member, isParent⟩ := mem_group.mp isRule
        obtain ⟨chain, isChain, isPath⟩ := first.hasParent.2 rule member
        rw [isParent] at isPath
        obtain ⟨found, isFound⟩ := Option.isSome_iff_exists.mp
          (lookup?_isSome.mpr ⟨chain, isChain, isPath⟩)
        have isAt : chainAt (chainsOf objects) path = found := by
          rw [chainAt, isFound]
          rfl
        rw [isAt, sameIdentity found (mem_of_lookup? isFound).1]
  have whole : collected hash context (objects ++ [.table table]) =
        { collected hash context objects with
          tables :=
            (collected hash context objects).tables ++ [table.identity context]
          tableHandles :=
            (collected hash context objects).tableHandles ++
              [(table.family, table.handle)] } := by
    rw [collected, sameRules, tables, chains, rules, List.map_append,
      List.map_append, List.map_congr_left sameIdentity]
    rfl
  rw [Graph2.addTable, (collected_paths hash context objects).1, whole]
  by_cases isPath : table.path ∈ (tablesOf objects).map NativeTable2.path
  · rw [if_pos isPath]
    constructor
    · intro isOk
      cases isOk
    · rintro ⟨isNew, _⟩
      exact (isNew isPath).elim
  · rw [if_neg isPath]
    by_cases isHandle : (table.family, table.handle) ∈
          (collected hash context objects).tableHandles
    · rw [if_pos isHandle]
      constructor
      · intro isOk
        cases isOk
      · rintro ⟨_, isNew, _⟩
        exact (isNew isHandle).elim
    · rw [if_neg isHandle]
      constructor
      · intro isOk
        exact ⟨isPath, isHandle, (Except.ok.inj isOk).symm⟩
      · rintro ⟨_, _, rfl⟩
        rfl

theorem lookup?_collected (hash : Hashed → Digest) (context : ReadbackContext2)
    (objects : List NativeObject2) :
    (∀ path,
      lookup? TableIdentity2.path (collected hash context objects).tables path =
        (lookup? NativeTable2.path (tablesOf objects) path).map
          fun table => table.identity context) ∧
      ∀ path,
        lookup? ChainIdentity2.path (collected hash context objects).chains
            path =
          (lookup? NativeChain2.path (chainsOf objects) path).map
            (chainIdentity context (tablesOf objects)) := by
  constructor
  · intro path
    rw [lookup?, collected, List.find?_map]
    rfl
  · intro path
    rw [lookup?, collected, List.find?_map]
    refine congrArg (Option.map _) (congrArg₂ List.find? ?_ rfl)
    funext chain
    rw [Function.comp_apply, chainIdentity_path]

/-- A chain more is collected when its table is there and its path, handle and
slot are new. -/
theorem addChain_collected
    (first : ParentsFirst objects) (chain : NativeChain2) (graph : Graph2) :
    (collected hash context objects).addChain chain = .ok graph ↔
      HasParent objects (.chain chain) ∧
        chain.path ∉ (chainsOf objects).map NativeChain2.path ∧
        chain.handleScope ∉ (chainsOf objects).map NativeChain2.handleScope ∧
        chain.slot ∉ (chainsOf objects).map NativeChain2.slot ∧
        graph = collected hash context (objects ++ [.chain chain]) := by
  obtain ⟨tables, chains, rules⟩ := parts_concat objects (.chain chain)
  change _ = _ ++ [] at tables rules
  change _ = _ ++ [chain] at chains
  rw [List.append_nil] at tables rules
  rw [Graph2.addChain, (lookup?_collected hash context objects).1,
    (collected_paths hash context objects).2]
  cases isParent : lookup? NativeTable2.path (tablesOf objects) chain.parent
      with
  | none =>
      constructor
      · intro isOk
        cases isOk
      · rintro ⟨hasParent, _⟩
        have isSome := lookup?_isSome.mpr hasParent
        rw [isParent] at isSome
        cases isSome
  | some parent =>
      have hasParent : HasParent objects (.chain chain) :=
        ⟨parent, mem_of_lookup? isParent⟩
      have isAt : tableAt (tablesOf objects) chain.parent = parent := by
        rw [tableAt, isParent]
        rfl
      by_cases isPath : chain.path ∈ (chainsOf objects).map NativeChain2.path
      · rw [Option.map_some]
        dsimp only
        rw [if_pos isPath]
        constructor
        · intro isOk
          cases isOk
        · rintro ⟨_, isNew, _⟩
          exact (isNew isPath).elim
      · have noRules :
            group NativeRule2.parent (rulesOf objects) chain.path = [] := by
          refine List.filter_eq_nil_iff.mpr fun rule member isRule => ?_
          obtain ⟨other, isOther, samePath⟩ := first.hasParent.2 rule member
          refine isPath (List.mem_map.mpr ⟨other, isOther, ?_⟩)
          rw [samePath]
          exact of_decide_eq_true isRule
        have sameRules :
            collectedRules hash context (objects ++ [.chain chain]) =
              Function.update (collectedRules hash context objects)
                chain.path [] := by
          funext path
          by_cases isSame : path = chain.path
          · subst isSame
            rw [Function.update_self, collectedRules, rules, noRules]
            rfl
          · rw [Function.update_of_ne isSame, collectedRules,
              collectedRules, rules, tables, chains, chainAt, chainAt,
              lookup?_concat_ne _ (Ne.symm isSame)]
        have whole : collected hash context (objects ++ [.chain chain]) =
              { collected hash context objects with
                chains :=
                  (collected hash context objects).chains ++
                    [chain.identity (parent.identity context)]
                rules :=
                  Function.update (collected hash context objects).rules
                    chain.path []
                chainHandles :=
                  (collected hash context objects).chainHandles ++
                    [(chain.parent, chain.handle)]
                hooks :=
                  (collected hash context objects).hooks ++
                    [(chain.family, chain.hook, chain.priority)] } := by
          rw [collected, sameRules, tables, chains, rules, List.map_append,
            List.map_append, List.map_append, ← isAt]
          rfl
        rw [Option.map_some, whole]
        dsimp only
        rw [if_neg isPath]
        by_cases isHandle : (chain.parent, chain.handle) ∈
              (collected hash context objects).chainHandles
        · rw [if_pos isHandle]
          constructor
          · intro isOk
            cases isOk
          · rintro ⟨_, _, isNew, _⟩
            exact (isNew isHandle).elim
        · rw [if_neg isHandle]
          by_cases isSlot : (chain.family, chain.hook, chain.priority) ∈
                (collected hash context objects).hooks
          · rw [if_pos isSlot]
            constructor
            · intro isOk
              cases isOk
            · rintro ⟨_, _, _, isNew, _⟩
              exact (isNew isSlot).elim
          · rw [if_neg isSlot]
            constructor
            · intro isOk
              exact ⟨hasParent, isPath, isHandle, isSlot,
                (Except.ok.inj isOk).symm⟩
            · rintro ⟨_, _, _, _, rfl⟩
              rfl

/-- A rule more is collected when its chain is there and its handle is new:
there are never too many rules in a dump. -/
theorem addRule_collected (few : objects.length ≤ maxObjects2 - 1)
    (rule : NativeRule2) (graph : Graph2) :
    (collected hash context objects).addRule hash rule = .ok graph ↔
      HasParent objects (.rule rule) ∧
        rule.handleScope ∉ (rulesOf objects).map NativeRule2.handleScope ∧
        graph = collected hash context (objects ++ [.rule rule]) := by
  obtain ⟨tables, chains, rules⟩ := parts_concat objects (.rule rule)
  change _ = _ ++ [] at tables chains
  change _ = _ ++ [rule] at rules
  rw [List.append_nil] at tables chains
  have counted : ((collected hash context objects).rules rule.parent).length =
        (group NativeRule2.parent (rulesOf objects) rule.parent).length :=
    List.length_mapIdx
  have fits : ¬ maxObjects2 - 1 <
        ((collected hash context objects).rules rule.parent).length := by
    rw [counted]
    refine Nat.not_lt_of_le (Nat.le_trans ?_ few)
    exact Nat.le_trans (List.length_filter_le _ _)
      (List.length_filterMap_le _ _)
  rw [Graph2.addRule, (lookup?_collected hash context objects).2]
  cases isParent : lookup? NativeChain2.path (chainsOf objects) rule.parent with
  | none =>
      constructor
      · intro isOk
        cases isOk
      · rintro ⟨hasParent, _⟩
        have isSome := lookup?_isSome.mpr hasParent
        rw [isParent] at isSome
        cases isSome
  | some parent =>
      have hasParent : HasParent objects (.rule rule) :=
        ⟨parent, mem_of_lookup? isParent⟩
      have isAt : chainAt (chainsOf objects) rule.parent = parent := by
        rw [chainAt, isParent]
        rfl
      have sameRules : collectedRules hash context (objects ++ [.rule rule]) =
            Function.update (collectedRules hash context objects) rule.parent
              (collectedRules hash context objects rule.parent ++
                [rule.normalized hash
                  (chainIdentity context (tablesOf objects) parent)
                  ((collected hash context objects).rules
                    rule.parent).length]) := by
        funext path
        by_cases isSame : path = rule.parent
        · subst isSame
          rw [Function.update_self, collectedRules, rules, tables, chains,
            group_concat, if_pos rfl, List.mapIdx_concat, counted, isAt,
            collectedRules, isAt]
        · rw [Function.update_of_ne isSame, collectedRules, collectedRules,
            rules, tables, chains, group_concat, if_neg (Ne.symm isSame)]
      have whole : collected hash context (objects ++ [.rule rule]) =
            { collected hash context objects with
              rules :=
                Function.update (collected hash context objects).rules
                  rule.parent
                  ((collected hash context objects).rules rule.parent ++
                    [rule.normalized hash
                      (chainIdentity context (tablesOf objects) parent)
                      ((collected hash context objects).rules
                        rule.parent).length])
              ruleHandles :=
                (collected hash context objects).ruleHandles ++
                  [(rule.scope, rule.handle)] } := by
        rw [collected, sameRules, tables, chains, rules, List.map_append]
        rfl
      rw [Option.map_some, whole]
      dsimp only
      by_cases isHandle : (rule.scope, rule.handle) ∈
            (collected hash context objects).ruleHandles
      · rw [if_pos isHandle]
        constructor
        · intro isOk
          cases isOk
        · rintro ⟨_, isNew, _⟩
          exact (isNew isHandle).elim
      · rw [if_neg isHandle, if_neg fits]
        constructor
        · intro isOk
          exact ⟨hasParent, isHandle, (Except.ok.inj isOk).symm⟩
        · rintro ⟨_, _, rfl⟩
          rfl

theorem scan_concat {graph : Graph2} :
    (objects ++ [object]).foldlM (Graph2.add hash context) Graph2.empty =
        .ok graph ↔
      ∃ earlier,
        objects.foldlM (Graph2.add hash context) Graph2.empty = .ok earlier ∧
          earlier.add hash context object = .ok graph := by
  rw [List.foldlM_append]
  cases objects.foldlM (Graph2.add hash context) Graph2.empty with
  | error violation =>
      constructor
      · intro isOk
        cases isOk
      · rintro ⟨earlier, isOk, _⟩
        cases isOk
  | ok earlier =>
      have isAdded : (Except.ok earlier >>= fun graph =>
              [object].foldlM (Graph2.add hash context) graph) =
            earlier.add hash context object := by
        exact bind_pure (earlier.add hash context object)
      rw [isAdded]
      constructor
      · intro isOk
        exact ⟨earlier, rfl, isOk⟩
      · rintro ⟨other, isOk, isOther⟩
        rw [Except.ok.inj isOk]
        exact isOther

/-- Nothing is there twice with one object more. -/
theorem isUnique_concat :
    IsUnique (objects ++ [object]) ↔
      IsUnique objects ∧ IsNew objects object := by
  obtain ⟨tables, chains, rules⟩ := parts_concat objects object
  cases object with
  | table table =>
      change _ = _ ++ [table] at tables
      change _ = _ ++ [] at chains rules
      rw [List.append_nil] at chains rules
      constructor
      · intro unique
        have paths := unique.tables
        have handles := unique.tableHandles
        rw [tables, List.map_append] at paths handles
        have newPath := nodup_concat.mp paths
        have newHandle := nodup_concat.mp handles
        exact
          ⟨{ tables := newPath.2
             tableHandles := newHandle.2
             chains := chains ▸ unique.chains
             chainHandles := chains ▸ unique.chainHandles
             slots := chains ▸ unique.slots
             ruleHandles := rules ▸ unique.ruleHandles },
            newPath.1, newHandle.1⟩
      · rintro ⟨unique, newPath, newHandle⟩
        constructor
        · rw [tables, List.map_append]
          exact nodup_concat.mpr ⟨newPath, unique.tables⟩
        · rw [tables, List.map_append]
          exact nodup_concat.mpr ⟨newHandle, unique.tableHandles⟩
        · rw [chains]
          exact unique.chains
        · rw [chains]
          exact unique.chainHandles
        · rw [chains]
          exact unique.slots
        · rw [rules]
          exact unique.ruleHandles
  | chain chain =>
      change _ = _ ++ [] at tables rules
      change _ = _ ++ [chain] at chains
      rw [List.append_nil] at tables rules
      constructor
      · intro unique
        have paths := unique.chains
        have handles := unique.chainHandles
        have slots := unique.slots
        rw [chains, List.map_append] at paths handles slots
        have newPath := nodup_concat.mp paths
        have newHandle := nodup_concat.mp handles
        have newSlot := nodup_concat.mp slots
        exact
          ⟨{ tables := tables ▸ unique.tables
             tableHandles := tables ▸ unique.tableHandles
             chains := newPath.2
             chainHandles := newHandle.2
             slots := newSlot.2
             ruleHandles := rules ▸ unique.ruleHandles },
            newPath.1, newHandle.1, newSlot.1⟩
      · rintro ⟨unique, newPath, newHandle, newSlot⟩
        constructor
        · rw [tables]
          exact unique.tables
        · rw [tables]
          exact unique.tableHandles
        · rw [chains, List.map_append]
          exact nodup_concat.mpr ⟨newPath, unique.chains⟩
        · rw [chains, List.map_append]
          exact nodup_concat.mpr ⟨newHandle, unique.chainHandles⟩
        · rw [chains, List.map_append]
          exact nodup_concat.mpr ⟨newSlot, unique.slots⟩
        · rw [rules]
          exact unique.ruleHandles
  | rule rule =>
      change _ = _ ++ [] at tables chains
      change _ = _ ++ [rule] at rules
      rw [List.append_nil] at tables chains
      constructor
      · intro unique
        have handles := unique.ruleHandles
        rw [rules, List.map_append] at handles
        have newHandle := nodup_concat.mp handles
        exact
          ⟨{ tables := tables ▸ unique.tables
             tableHandles := tables ▸ unique.tableHandles
             chains := chains ▸ unique.chains
             chainHandles := chains ▸ unique.chainHandles
             slots := chains ▸ unique.slots
             ruleHandles := newHandle.2 },
            newHandle.1⟩
      · rintro ⟨unique, newHandle⟩
        constructor
        · rw [tables]
          exact unique.tables
        · rw [tables]
          exact unique.tableHandles
        · rw [chains]
          exact unique.chains
        · rw [chains]
          exact unique.chainHandles
        · rw [chains]
          exact unique.slots
        · rw [rules, List.map_append]
          exact nodup_concat.mpr ⟨newHandle, unique.ruleHandles⟩

theorem add_collected (few : objects.length ≤ maxObjects2 - 1)
    (first : ParentsFirst objects) (object : NativeObject2) (graph : Graph2) :
    (collected hash context objects).add hash context object = .ok graph ↔
      HasParent objects object ∧ IsNew objects object ∧
        graph = collected hash context (objects ++ [object]) := by
  cases object with
  | table table =>
      refine (addTable_collected first table graph).trans ?_
      simp only [HasParent, IsNew, true_and, and_assoc]
  | chain chain =>
      refine (addChain_collected first chain graph).trans ?_
      simp only [IsNew, and_assoc]
  | rule rule => exact addRule_collected few rule graph

theorem scan_eq (hash : Hashed → Digest) (context : ReadbackContext2)
    (few : objects.length ≤ maxObjects2 - 1) (graph : Graph2) :
    objects.foldlM (Graph2.add hash context) Graph2.empty = .ok graph ↔
      ParentsFirst objects ∧ IsUnique objects ∧
        graph = collected hash context objects := by
  induction objects using List.reverseRecOn generalizing graph with
  | nil =>
      constructor
      · intro isOk
        refine ⟨?_, ?_, (Except.ok.inj isOk).symm⟩
        · intro earlier object later split
          have lengths := congrArg List.length split
          rw [List.length_append] at lengths
          exact (Nat.succ_ne_zero _ lengths.symm).elim
        · exact
            { tables := List.nodup_nil
              tableHandles := List.nodup_nil
              chains := List.nodup_nil
              chainHandles := List.nodup_nil
              slots := List.nodup_nil
              ruleHandles := List.nodup_nil }
      · rintro ⟨_, _, rfl⟩
        rfl
  | append_singleton objects object inductionHypothesis =>
      have fewer : objects.length ≤ maxObjects2 - 1 := by
        rw [List.length_append] at few
        exact Nat.le_of_succ_le few
      rw [scan_concat, parentsFirst_concat, isUnique_concat]
      constructor
      · rintro ⟨earlier, isScanned, isAdded⟩
        obtain ⟨first, unique, rfl⟩ :=
          (inductionHypothesis fewer earlier).mp isScanned
        obtain ⟨hasParent, isNew, isGraph⟩ :=
          (add_collected fewer first object graph).mp isAdded
        exact ⟨⟨first, hasParent⟩, ⟨unique, isNew⟩, isGraph⟩
      · rintro ⟨⟨first, hasParent⟩, ⟨unique, isNew⟩, isGraph⟩
        exact ⟨collected hash context objects,
          (inductionHypothesis fewer _).mpr ⟨first, unique, rfl⟩,
          (add_collected fewer first object graph).mpr
            ⟨hasParent, isNew, isGraph⟩⟩

end TicketSandbox.Network
