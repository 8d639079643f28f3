import TicketSandbox.Firewall.Nftables

namespace TicketSandbox.Firewall

/-!
# Facts about rules

When a rule decides, what a hook decides when all rules are in one table, and
what of this `approved_rules` keeps.
-/

open Filters (Verdict)
open TicketSandbox.Runtime (RuntimeApproval Uuid)

/-! ## Single rules -/

theorem agree_iff {α : Type} [DecidableEq α] {left right : Option α} :
    agree left right = true ↔
      ∃ value, left = some value ∧ right = some value := by
  cases left with
  | none => simp [agree]
  | some value => simp [agree, eq_comm]

/-- A comparison holds of the same value only. -/
theorem agree_some_iff
    {α : Type} [DecidableEq α] {left : Option α} {value : α} :
    agree left (some value) = true ↔ left = some value := by
  simp [agree_iff]

variable {left : Left} {packet : Packet} {right : Right} {frame : Frame}
  {offset len : Nat} {bytes : Bytes} {commands : List Command}
  {family : Family} {hook : Hook}

/-- A rule decides where its matches hold. -/
theorem evaluate_match {rest : List Expression} {decided : Verdict} :
    evaluate packet (.match left right :: rest) = some decided ↔
      left.holds packet right = true ∧ evaluate packet rest = some decided := by
  by_cases holds : left.holds packet right = true
  · simp [evaluate, holds]
  · simp [evaluate, holds]

theorem evaluate_accept {decided : Verdict} :
    evaluate packet [.accept] = some decided ↔ decided = .accept := by
  simp [evaluate, eq_comm]

theorem evaluate_implied {expr : List Expression} (implied :
      ∀ decided, evaluate packet expr = some decided →
        left.holds packet right = true) :
    evaluate packet (.match left right :: expr) = evaluate packet expr := by
  cases decides : evaluate packet expr with
  | none => simp [evaluate, decides]
  | some decided => exact evaluate_match.mpr ⟨implied decided decides, decides⟩

/-! ## Layers -/

theorem Frame.etherType_of_ipv4 (read : frame.ipv4? offset len = some bytes) :
    frame.etherType? = some [8, 0] := by
  unfold Frame.ipv4? at read
  split at read
  · rename_i carries
    exact carries
  · cases read

theorem Frame.etherType_of_arp (read : frame.arp? offset len = some bytes) :
    frame.etherType? = some [8, 6] := by
  unfold Frame.arp? at read
  split at read
  · rename_i carries
    exact carries
  · cases read

/-! ## Hooks -/

/-- The hooks of a family that have a chain. -/
def Family.hooks : Family → List Hook
  | .bridge => [.prerouting, .input, .forward, .output]
  | .inet => [.input, .forward, .output]

/-- The policy of the chains of a family. -/
def Family.policy : Family → Verdict
  | .bridge => .drop
  | .inet => .accept

/-- The rules of a family on a hook, in order. -/
def exprsOn (commands : List Command) (family : Family)
    (hook : Hook) : List (List Expression) :=
  commands.filterMap fun command =>
    match command with
    | .rule rule =>
        if rule.family = family ∧ rule.chain = hook then some rule.expr
        else none
    | _ => none

/-- A transaction of one table with a chain on every hook. -/
structure IsTable (commands : List Command) (name : TableName) : Prop where
  chain_table : ∀ chain, .chain chain ∈ commands →
      chain.table = name ∧ chain.policy = chain.family.policy
  rule_table : ∀ rule, .rule rule ∈ commands → rule.table = name
  installed : ∀ family, ∀ hook ∈ family.hooks,
      ∃ chain, .chain chain ∈ commands ∧
        chain.family = family ∧ chain.hook = hook

theorem mem_chainsOn {chain : Chain} :
    chain ∈ chainsOn commands family hook ↔
      .chain chain ∈ commands ∧ chain.family = family ∧ chain.hook = hook := by
  simp only [chainsOn, List.mem_filterMap]
  constructor
  · rintro ⟨command, member, selected⟩
    cases command with
    | table other name => cases selected
    | rule other => cases selected
    | chain other =>
        simp only [Option.ite_none_right_eq_some, Option.some.injEq] at selected
        obtain ⟨onHook, same⟩ := selected
        subst other
        exact ⟨member, onHook⟩
  · rintro ⟨member, onHook⟩
    exact ⟨.chain chain, member, if_pos onHook⟩

namespace IsTable

variable {name : TableName}

theorem rulesOf_eq (isTable : IsTable commands name) {chain : Chain}
    (member : .chain chain ∈ commands) :
    rulesOf commands chain = exprsOn commands chain.family chain.hook := by
  have sameTable := (isTable.chain_table chain member).1
  refine List.filterMap_congr ?_
  intro command commandMember
  cases command with
  | table other otherName => rfl
  | chain other => rfl
  | rule other =>
      have otherTable := isTable.rule_table other commandMember
      simp [sameTable, otherTable]

theorem hookVerdict_eq (isTable : IsTable commands name)
    (hasChain : hook ∈ family.hooks) (packet : Packet) :
    hookVerdict commands family hook packet =
      Filters.verdict (fun expr packet => evaluate packet expr)
        family.policy (exprsOn commands family hook) packet := by
  have each : ∀ chain ∈ chainsOn commands family hook,
        chainVerdict commands chain packet =
          Filters.verdict (fun expr packet => evaluate packet expr)
            family.policy (exprsOn commands family hook) packet := by
    intro chain member
    obtain ⟨inCommands, sameFamily, sameHook⟩ := mem_chainsOn.mp member
    unfold chainVerdict
    rw [isTable.rulesOf_eq inCommands,
      (isTable.chain_table chain inCommands).2, sameFamily, sameHook]
  obtain ⟨chain, inCommands, onHook⟩ := isTable.installed family hook hasChain
  have isThere : chain ∈ chainsOn commands family hook :=
    mem_chainsOn.mpr ⟨inCommands, onHook⟩
  unfold hookVerdict
  cases decided : Filters.verdict (fun expr packet => evaluate packet expr)
        family.policy (exprsOn commands family hook) packet with
  | accept => exact if_pos fun other member => (each other member).trans decided
  | drop =>
      refine if_neg fun accepted => ?_
      have isDropped := (each chain isThere).trans decided
      rw [accepted chain isThere] at isDropped
      cases isDropped

end IsTable

/-! ## Approved rules -/

theorem IsTable.approved
    (isTable : IsTable commands .tcShadow) (approvalUuid : Uuid) :
    IsTable (commands.map (approvedCommand approvalUuid))
      (.tc3 approvalUuid) := by
  constructor
  · intro chain member
    obtain ⟨command, isCommand, rewritten⟩ := List.mem_map.mp member
    cases command with
    | table family name => cases rewritten
    | rule rule => cases rewritten
    | chain before =>
        obtain ⟨isShadow, policy⟩ := isTable.chain_table before isCommand
        cases rewritten
        exact ⟨by rw [isShadow]; rfl, policy⟩
  · intro rule member
    obtain ⟨command, isCommand, rewritten⟩ := List.mem_map.mp member
    cases command with
    | table family name => cases rewritten
    | chain chain => cases rewritten
    | rule before =>
        have isShadow := isTable.rule_table before isCommand
        cases rewritten
        change before.table.rename (.tc3 approvalUuid) = _
        rw [isShadow]
        rfl
  · intro family hook hasChain
    obtain ⟨chain, isCommand, onHook⟩ := isTable.installed family hook hasChain
    exact ⟨_, List.mem_map_of_mem isCommand, onHook⟩

theorem exprsOn_approved_bridge
    (approvalUuid : Uuid) (commands : List Command) (hook : Hook) :
    exprsOn (commands.map (approvedCommand approvalUuid)) .bridge hook =
      (exprsOn commands .bridge hook).map fun expr =>
        etherTypeOf expr :: expr := by
  unfold exprsOn
  rw [List.filterMap_map, List.map_filterMap]
  refine List.filterMap_congr ?_
  intro command member
  cases command with
  | table family name => rfl
  | chain chain => rfl
  | rule rule =>
      cases isFamily : rule.family with
      | bridge =>
          by_cases onHook : rule.chain = hook
          · simp [approvedCommand, isFamily, onHook]
          · simp [approvedCommand, isFamily, onHook]
      | inet => simp [approvedCommand, isFamily]

theorem exprsOn_approved_inet
    (approvalUuid : Uuid) (commands : List Command) (hook : Hook) :
    exprsOn (commands.map (approvedCommand approvalUuid)) .inet hook =
      exprsOn commands .inet hook := by
  unfold exprsOn
  rw [List.filterMap_map]
  refine List.filterMap_congr ?_
  intro command member
  cases command with
  | table family name => rfl
  | chain chain => rfl
  | rule rule =>
      cases isFamily : rule.family with
      | bridge => simp [approvedCommand, isFamily]
      | inet => simp [approvedCommand, isFamily]

end TicketSandbox.Firewall
