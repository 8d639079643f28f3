import TicketSandbox.Firewall.CounterRules
import TicketSandbox.Firewall.RuleFacts

namespace TicketSandbox.Firewall

/-!
# Facts about the counter recipe

What the counters and the diagnostic rules of the recipe decide: nothing, but
for the rules that drop a probe.
-/

open Filters (Verdict)
open TicketSandbox.Runtime (Uuid)

/-! ## Counters -/

theorem evaluate_counter (packet : Packet) (before after : List Expression) :
    evaluate packet (before ++ .counter :: after) =
      evaluate packet (before ++ after) := by
  induction before with
  | nil => rfl
  | cons first rest inductionHypothesis =>
      rcases first with ⟨left, right⟩ | _ | _ | _
      · simp only [List.cons_append, evaluate, inductionHypothesis]
      · simp only [List.cons_append, evaluate, inductionHypothesis]
      · rfl
      · rfl

/-- A counter decides nothing. -/
theorem evaluate_withCounter (packet : Packet) (expr : List Expression) :
    evaluate packet (withCounter expr) = evaluate packet expr := by
  rw [withCounter, evaluate_counter, List.take_append_drop]

/-! ## Comparing whole frames -/

variable {frame : Frame} {offset : Nat} {packet : Packet}
  {rest : List Expression} {binding : NetworkBinding} {probes : List Probe}
  {approved : List Command}

theorem Frame.slice?_getElem
    {len : Nat} {part : Bytes} (read : frame.slice? offset len = some part)
    {index : Nat} (inside : index < len) :
    frame[offset + index]? = part[index]? := by
  unfold Frame.slice? at read
  split at read
  · rw [← Option.some.inj read, List.getElem?_take_of_lt inside,
      List.getElem?_drop]
  · cases read

theorem Frame.slice?_of_prefix {probe : Frame} (isPrefix : probe <+: frame)
    (inside : offset ≤ probe.length) :
    frame.slice? offset ((probe.drop offset).take 16).length =
      some ((probe.drop offset).take 16) := by
  obtain ⟨more, rfl⟩ := isPrefix
  have partLength :
      ((probe.drop offset).take 16).length ≤ (probe.drop offset).length :=
    (List.take_sublist 16 _).length_le
  have isInside :
      offset + ((probe.drop offset).take 16).length ≤ probe.length := by
    rw [List.length_drop] at partLength
    omega
  have isTake : (probe.drop offset).take 16 =
        (probe.drop offset).take ((probe.drop offset).take 16).length :=
    List.prefix_iff_eq_take.mp (List.take_prefix 16 _)
  unfold Frame.slice?
  rw [if_pos (by rw [List.length_append]; omega),
    List.drop_append_of_le_length inside,
    List.take_append_of_le_length partLength, ← isTake]

theorem chunk_holds {chunk : Nat} {part : Bytes} :
    (Left.linkLayer (chunk * 16 * 8) (part.length * 8)).holds packet
        (.hex part) = true ↔
      packet.frame.slice? (chunk * 16) part.length = some part := by
  simp only [Left.holds]
  rw [agree_some_iff, Nat.mul_div_cancel _ (by decide),
    Nat.mul_div_cancel _ (by decide)]

variable {decided : Verdict}

theorem evaluate_matches
    {α : Type} {left : α → Left} {right : α → Right} (keys : List α) :
    evaluate packet (keys.map (fun key => .match (left key) (right key)) ++
        rest) = some decided ↔
      (∀ key ∈ keys, (left key).holds packet (right key) = true) ∧
        evaluate packet rest = some decided := by
  induction keys with
  | nil => simp
  | cons key others inductionHypothesis =>
      rw [List.map_cons, List.cons_append, evaluate_match,
        inductionHypothesis, List.forall_mem_cons, and_assoc]

theorem evaluate_frameMatches {frame : Bytes} :
    evaluate packet (frameMatches frame ++ rest) = some decided ↔
      frame <+: packet.frame ∧ evaluate packet rest = some decided := by
  unfold frameMatches
  rw [evaluate_matches]
  refine and_congr_left fun _ => ?_
  simp only [chunk_holds, List.mem_range]
  constructor
  · intro holds
    refine List.prefix_iff_getElem?.mpr fun index inFrame => ?_
    have inRange : index / 16 < (frame.length + 15) / 16 := by
      omega
    have read := holds (index / 16) inRange
    have inPart :
        index % 16 < ((frame.drop (index / 16 * 16)).take 16).length := by
      rw [List.length_take, List.length_drop]
      omega
    have sameByte := Frame.slice?_getElem read inPart
    rw [Nat.div_add_mod'] at sameByte
    rw [sameByte, List.getElem?_take_of_lt (Nat.mod_lt _ (by decide)),
      List.getElem?_drop, Nat.div_add_mod', List.getElem?_eq_getElem inFrame]
  · intro isPrefix chunk inRange
    refine Frame.slice?_of_prefix isPrefix ?_
    omega

/-! ## Diagnostic rules -/

/-- A packet from the runner that begins with a probe. -/
def Hits (binding : NetworkBinding) (packet : Packet) (probe : Probe) : Prop :=
  packet.iif.map Port.index = some binding.runner.ifindex ∧
    probe.frame <+: packet.frame

theorem evaluate_ingress
    (binding : NetworkBinding) (packet : Packet) (probe : Probe) :
    evaluate packet (probeMatches binding probe ++ [.counter]) = none := by
  cases decides :
      evaluate packet (probeMatches binding probe ++ [.counter]) with
  | none => rfl
  | some decided =>
      rw [probeMatches, List.cons_append, evaluate_match,
        evaluate_frameMatches] at decides
      cases decides.2.2

theorem evaluate_terminal {probe : Probe} :
    evaluate packet (probeMatches binding probe ++ [.counter, .drop]) =
        some decided ↔
      Hits binding packet probe ∧ decided = .drop := by
  rw [probeMatches, List.cons_append, evaluate_match, evaluate_frameMatches,
    Hits]
  simp only [Left.holds, evaluate, Option.some.injEq]
  rw [agree_some_iff, and_assoc]
  exact and_congr_right fun _ => and_congr_right fun _ => eq_comm

/-! ## The rules of the recipe -/

theorem exprsOn_append
    (first rest : List Command) (family : Family) (hook : Hook) :
    exprsOn (first ++ rest) family hook =
      exprsOn first family hook ++ exprsOn rest family hook :=
  List.filterMap_append

theorem exprsOn_of_no_rules {commands : List Command}
    (noRules : ∀ command ∈ commands, command.isRule = false) (family : Family)
    (hook : Hook) :
    exprsOn commands family hook = [] := by
  refine List.filterMap_eq_nil_iff.mpr fun command member => ?_
  have isNoRule := noRules command member
  cases command with
  | table other name => rfl
  | chain chain => rfl
  | rule rule => cases isNoRule

theorem exprsOn_insertBeforeRules
    (extra commands : List (Command × Option Pending)) (family : Family)
    (hook : Hook) :
    exprsOn ((insertBeforeRules extra commands).map Prod.fst) family hook =
      exprsOn (extra.map Prod.fst) family hook ++
        exprsOn (commands.map Prod.fst) family hook := by
  let isBase := fun command : Command × Option Pending => !command.1.isRule
  have front :
      exprsOn ((commands.takeWhile isBase).map Prod.fst) family hook = [] := by
    refine exprsOn_of_no_rules (fun command member => ?_) family hook
    obtain ⟨pair, pairMember, rfl⟩ := List.mem_map.mp member
    have isBasePair := List.mem_takeWhile_imp pairMember
    simpa [isBase] using isBasePair
  have whole : exprsOn (commands.map Prod.fst) family hook =
        exprsOn ((commands.dropWhile isBase).map Prod.fst) family hook := by
    have split :
        commands.takeWhile isBase ++ commands.dropWhile isBase = commands :=
      List.takeWhile_append_dropWhile
    conv_lhs => rw [← split]
    rw [List.map_append, exprsOn_append, front, List.nil_append]
  rw [whole]
  simp only [insertBeforeRules, List.map_append, exprsOn_append]
  rw [front, List.nil_append]

variable (table : TableName)

theorem exprsOn_counted
    (approved : List Command) (family : Family) (hook : Hook) :
    exprsOn ((approved.map fun command => counted (command.moveTo table)).map
          Prod.fst)
        family hook =
      (exprsOn approved family hook).map withCounter := by
  unfold exprsOn
  rw [List.map_map, List.filterMap_map, List.map_filterMap]
  refine List.filterMap_congr fun command _ => ?_
  cases command with
  | table other name => rfl
  | chain chain => rfl
  | rule rule =>
      by_cases onHook : rule.family = family ∧ rule.chain = hook
      · simp [counted, Command.moveTo, onHook]
      · simp [counted, Command.moveTo, onHook]

/-- The rules that count the probes behind the first one, and drop them. -/
def probeExprs
    (binding : NetworkBinding) (probes : List Probe) : List (List Expression) :=
  probes.flatMap fun probe =>
    [probeMatches binding probe ++ [.counter],
      probeMatches binding probe ++ [.counter, .drop]]

theorem exprsOn_diagnostics_rest
    (binding : NetworkBinding) (probes : List Probe) (start : Nat) :
    exprsOn ((probes.mapIdx fun index probe =>
          diagnostics table binding (index + start + 1) probe).flatten.map
            Prod.fst)
        .bridge .prerouting =
      probeExprs binding probes := by
  induction probes generalizing start with
  | nil => rfl
  | cons probe rest inductionHypothesis =>
      have shifted := inductionHypothesis (start + 1)
      rw [List.mapIdx_cons, List.flatten_cons, List.map_append, exprsOn_append]
      have sameRest : (rest.mapIdx fun index probe =>
              diagnostics table binding (index + 1 + start + 1) probe) =
            rest.mapIdx fun index probe =>
              diagnostics table binding (index + (start + 1) + 1) probe := by
        refine List.mapIdx_eq_mapIdx_iff.mpr fun index inside => ?_
        rw [Nat.add_assoc index 1 start, Nat.add_comm 1 start]
      rw [sameRest, shifted]
      simp [diagnostics, diagnostic, exprsOn, probeExprs]

/-- The diagnostic rules of a list of probes. -/
def diagnosticExprs
    (binding : NetworkBinding) : List Probe → List (List Expression)
  | [] => []
  | first :: rest =>
      (probeMatches binding first ++ [.counter]) :: probeExprs binding rest

theorem exprsOn_diagnostics (binding : NetworkBinding) (probes : List Probe) :
    exprsOn ((probes.mapIdx (diagnostics table binding)).flatten.map Prod.fst)
        .bridge .prerouting =
      diagnosticExprs binding probes := by
  cases probes with
  | nil => rfl
  | cons first rest =>
      have restExprs := exprsOn_diagnostics_rest table binding rest 0
      rw [List.mapIdx_cons, List.flatten_cons, List.map_append, exprsOn_append]
      simp only [Nat.add_zero] at restExprs
      rw [restExprs]
      rfl

theorem mem_diagnostics
    {table : TableName} {command : Command} (member : command ∈
        (probes.mapIdx (diagnostics table binding)).flatten.map Prod.fst) :
    ∃ expr, command = diagnostic table expr := by
  obtain ⟨pair, pairMember, rfl⟩ := List.mem_map.mp member
  obtain ⟨rules, rulesMember, inRules⟩ := List.mem_flatten.mp pairMember
  obtain ⟨index, inside, rfl⟩ := List.mem_mapIdx.mp rulesMember
  unfold diagnostics at inRules
  rcases List.mem_cons.mp inRules with rfl | terminal
  · exact ⟨_, rfl⟩
  · split at terminal
    · cases terminal
    · rw [List.mem_singleton.mp terminal]
      exact ⟨_, rfl⟩

theorem exprsOn_diagnostics_other {table : TableName} {family : Family}
    {hook : Hook} (isOther : family ≠ .bridge ∨ hook ≠ .prerouting) :
    exprsOn ((probes.mapIdx (diagnostics table binding)).flatten.map Prod.fst)
        family hook =
      [] := by
  refine List.filterMap_eq_nil_iff.mpr fun command member => ?_
  obtain ⟨expr, rfl⟩ := mem_diagnostics member
  refine if_neg fun onHook => ?_
  rcases isOther with otherFamily | otherHook
  · exact otherFamily onHook.1.symm
  · exact otherHook onHook.2.symm

/-- Behind all rules every hook drops. -/
theorem exprsOn_fallback_bridge (hook : Hook) :
    exprsOn (([.prerouting, .input, .forward, .output].map
          (fallback table)).map Prod.fst)
        .bridge hook =
      [[.counter, .drop]] := by
  cases hook with
  | prerouting | input | forward | output => rfl

theorem exprsOn_fallback_inet (hook : Hook) :
    exprsOn (([.prerouting, .input, .forward, .output].map
          (fallback table)).map Prod.fst)
        .inet hook =
      [] :=
  rfl

/-! ## The recipe is one table -/

theorem mem_recipe
    {hashes : Hashes} {identifier context : Uuid} {command : Command} :
    command ∈ (recipeCommands hashes identifier binding context true
          approved).map Prod.fst ↔
      (∃ base ∈ approved,
          (counted (base.moveTo (.tcc1 identifier))).1 = command) ∨
        command ∈ ((samplePlan hashes binding context).mapIdx
            (diagnostics (.tcc1 identifier) binding)).flatten.map Prod.fst ∨
        ∃ hook ∈ [Hook.prerouting, .input, .forward, .output],
          (fallback (.tcc1 identifier) hook).1 = command := by
  let isBase := fun command : Command × Option Pending => !command.1.isRule
  have parts (pair : Command × Option Pending)
      (commands : List (Command × Option Pending)) :
      (pair ∈ commands.takeWhile isBase ∨ pair ∈ commands.dropWhile isBase) ↔
        pair ∈ commands := by
    rw [← List.mem_append, List.takeWhile_append_dropWhile]
  simp only [recipeCommands, insertBeforeRules, ↓reduceIte, List.mem_map,
    List.mem_append]
  constructor
  · rintro ⟨pair, ((front | extra) | back) | ⟨hook, isHook, rfl⟩, rfl⟩
    · have member := (parts pair _).mp (Or.inl front)
      obtain ⟨base, isApproved, rfl⟩ := List.mem_map.mp member
      exact Or.inl ⟨base, isApproved, rfl⟩
    · exact Or.inr (Or.inl ⟨pair, extra, rfl⟩)
    · have member := (parts pair _).mp (Or.inr back)
      obtain ⟨base, isApproved, rfl⟩ := List.mem_map.mp member
      exact Or.inl ⟨base, isApproved, rfl⟩
    · exact Or.inr (Or.inr ⟨hook, isHook, rfl⟩)
  · rintro (⟨base, isApproved, rfl⟩ | ⟨pair, extra, rfl⟩ | ⟨hook, isHook, rfl⟩)
    · refine ⟨_, Or.inl ?_, rfl⟩
      rcases (parts _ _).mpr (List.mem_map_of_mem isApproved) with
        front | back
      · exact Or.inl (Or.inl front)
      · exact Or.inr back
    · exact ⟨pair, Or.inl (Or.inl (Or.inr extra)), rfl⟩
    · exact ⟨_, Or.inr ⟨hook, isHook, rfl⟩, rfl⟩

theorem IsTable.recipe
    {name : TableName} (isTable : IsTable approved name) (hashes : Hashes)
    (identifier : Uuid) (binding : NetworkBinding) (context : Uuid) :
    IsTable ((recipeCommands hashes identifier binding context true
        approved).map Prod.fst)
      (.tcc1 identifier) := by
  constructor
  · intro chain member
    rcases mem_recipe.mp member with ⟨base, isApproved, same⟩ | extra |
      ⟨hook, _, same⟩
    · cases base with
      | table family other => cases same
      | rule rule => cases same
      | chain before =>
          have policy := (isTable.chain_table before isApproved).2
          cases same
          exact ⟨rfl, policy⟩
    · obtain ⟨expr, same⟩ := mem_diagnostics extra
      cases same
    · cases same
  · intro rule member
    rcases mem_recipe.mp member with ⟨base, _, same⟩ | extra | ⟨hook, _, same⟩
    · cases base with
      | table family other => cases same
      | chain chain => cases same
      | rule before =>
          cases same
          rfl
    · obtain ⟨expr, same⟩ := mem_diagnostics extra
      cases same
      rfl
    · cases same
      rfl
  · intro family hook hasChain
    obtain ⟨chain, isApproved, onHook⟩ := isTable.installed family hook hasChain
    exact ⟨_, mem_recipe.mpr (Or.inl ⟨_, isApproved, rfl⟩), onHook⟩

/-! ## What the recipe decides -/

theorem exprsOn_recipe
    (hashes : Hashes) (identifier : Uuid) (binding : NetworkBinding)
    (context : Uuid) (approved : List Command) (family : Family) (hook : Hook) :
    exprsOn ((recipeCommands hashes identifier binding context true
          approved).map Prod.fst)
        family hook =
      exprsOn (((samplePlan hashes binding context).mapIdx
            (diagnostics (.tcc1 identifier) binding)).flatten.map Prod.fst)
          family hook ++
        (exprsOn approved family hook).map withCounter ++
        exprsOn (([.prerouting, .input, .forward, .output].map
            (fallback (.tcc1 identifier))).map Prod.fst)
          family hook := by
  simp only [recipeCommands, ↓reduceIte, List.map_append]
  rw [exprsOn_append, exprsOn_insertBeforeRules, exprsOn_counted]

theorem counted_verdict (packet : Packet) (exprs : List (List Expression)) :
    Filters.verdict (fun expr packet => evaluate packet expr) .drop
        (exprs.map withCounter ++ [[.counter, .drop]]) packet =
      Filters.verdict (fun expr packet => evaluate packet expr) .drop exprs
        packet := by
  rw [Filters.verdict_append]
  exact Filters.verdict_map .drop fun expr _ => evaluate_withCounter packet expr

/-- The diagnostic rules drop exactly the probes behind the first. -/
theorem diagnostic_decides :
    (∃ expr ∈ diagnosticExprs binding probes,
        evaluate packet expr = some decided) ↔
      (∃ probe ∈ probes.tail, Hits binding packet probe) ∧ decided = .drop := by
  cases probes with
  | nil => simp [diagnosticExprs]
  | cons first rest =>
      simp only [diagnosticExprs, probeExprs, List.mem_cons,
        List.mem_flatMap, List.not_mem_nil, or_false, List.tail_cons]
      constructor
      · rintro ⟨expr, rfl | ⟨probe, member, rfl | rfl⟩, decides⟩
        · rw [evaluate_ingress] at decides
          cases decides
        · rw [evaluate_ingress] at decides
          cases decides
        · obtain ⟨hits, isDrop⟩ := evaluate_terminal.mp decides
          exact ⟨⟨probe, member, hits⟩, isDrop⟩
      · rintro ⟨⟨probe, member, hits⟩, isDrop⟩
        exact ⟨_, Or.inr ⟨probe, member, Or.inr rfl⟩,
            evaluate_terminal.mpr ⟨hits, isDrop⟩⟩

end TicketSandbox.Firewall
