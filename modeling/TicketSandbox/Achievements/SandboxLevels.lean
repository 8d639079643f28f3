import TicketSandbox.Achievements.SandboxAdvanced

namespace TicketSandbox.Achievements.SandboxAdvanced

/-!
# Levels and certainty

A level is reached only over complete sources, and evidence that becomes less
certain never raises a level or the tier that the evaluator selects.
-/

open Raises
open Sandbox (Pk Timestamp)
open Catalog Reconciliation
open TraineeDiary (EntryType)

/-- The values of an attempt that only the platinum level reads are left
out. -/
def AttemptProof.erased (attempt : AttemptProof) : AttemptProof :=
  { attempt with firstCheck := none, firstAnswerApproved := none }

/-- The later evidence is the earlier, but some of its sources are no longer
complete, or its manifest is no longer from the start.  What depends on a
source may be missing with it. -/
structure LessCertain (before after : Proof) : Prop where
  manifest : after.manifest = before.manifest ∨
      ∀ manifest, after.manifest = some manifest →
        manifest.source ≠ "from_start"
  axes : ∀ name, after.axes name = before.axes name ∨
      (after.axes name).status = .unknown
  attempts : after.attempts.map AttemptProof.erased =
      before.attempts.map AttemptProof.erased
  resets : after.successfulResets = before.successfulResets ∨
      after.successfulResets = none
  returns : after.validReturns = before.validReturns ∨ after.validReturns = none
  firstFive : after.firstFiveAnswers = before.firstFiveAnswers ∨
      after.firstFiveAnswers = none

/-- Gold implies silver, platinum is not reached, and every level that is
reached has complete sources. -/
structure IsSound (proof : Proof) (levels : Levels) : Prop where
  silver : levels.gold.status = .eligible → levels.silver.status = .eligible
  platinum : levels.platinum.status ≠ .eligible
  silverSources :
    levels.silver.status = .eligible → (proof.axes .resets).status = .complete
  goldSources : levels.gold.status = .eligible →
      (proof.axes .resets).status = .complete ∧
        (proof.axes .answers).status = .complete
  cleanSources : levels.cleanAnswers.status = .eligible →
      (proof.axes .answers).status = .complete

/-- No level is reached that was not reached before. -/
structure NoneRises (before after : Levels) : Prop where
  silver : after.silver.status = .eligible → before.silver.status = .eligible
  gold : after.gold.status = .eligible → before.gold.status = .eligible
  platinum :
    after.platinum.status = .eligible → before.platinum.status = .eligible
  cleanAnswers : after.cleanAnswers.status = .eligible →
      before.cleanAnswers.status = .eligible

/-- The rank of the tier that an evaluation selects, or zero. -/
def selectedRank
    (tiers : List AchievementTier) (evaluation : Option Evaluation) : Nat :=
  match evaluation with
  | none => 0
  | some evaluation =>
      if evaluation.status = .eligible then
        ((evaluation.tierCode.bind fun code =>
          tiers.find? fun tier => decide (tier.code = code)).map
            AchievementTier.rank).getD 0
      else
        0

/-! ## Sources -/

theorem unknownState?_eq_none {reasons : List String} :
    unknownState? reasons = none ↔ reasons = [] := by
  unfold unknownState?
  split <;> simp [*]

variable {level : State} {proof first second before after : Proof}
  {names : List AxisName} {now : Timestamp}
  {definition : AchievementDefinition} {tier : AchievementTier}
  {tiers : List AchievementTier} {codes : List String}
  {levels levels' : Levels} {reads : Reads}

theorem unknownState?_status
    {reasons : List String} (found : unknownState? reasons = some level) :
    level.status = .unknown := by
  unfold unknownState? at found
  split at found
  · cases found
  · cases found
    rfl

theorem coverage_eq_none {axes : AxisName → Axis} :
    coverage axes names = none ↔
      ∀ name ∈ names, (axes name).status = .complete := by
  unfold coverage
  rw [unknownState?_eq_none, List.flatMap_eq_nil_iff]
  constructor
  · intro empty name member
    by_contra incomplete
    have reasons :=
      empty name (List.mem_filter.mpr ⟨member, decide_eq_true incomplete⟩)
    exact incomplete ((axes name).reasoned.mpr reasons)
  · intro complete name member
    obtain ⟨inNames, incomplete⟩ := List.mem_filter.mp member
    exact (of_decide_eq_true incomplete (complete name inNames)).elim

theorem attemptProblem_status
    {attempt : AttemptProof} (problem : attemptProblem attempt = some level) :
    level.status = .unknown := by
  unfold attemptProblem at problem
  split at problem
  · exact unknownState?_status problem
  · cases problem
    rfl

variable {manifest : Manifest}

theorem technical_status (problem : technical manifest proof = some level) :
    level.status ≠ .eligible := by
  unfold technical at problem
  split at problem
  · cases problem
    nofun
  split at problem
  · cases problem
    nofun
  split at problem
  · obtain ⟨attempt, _, found⟩ := List.exists_of_findSome?_eq_some problem
    rw [attemptProblem_status found]
    nofun
  · cases problem
    nofun

theorem getD_eligible {missing : Option State}
    (prevents : ∀ problem, missing = some problem →
      problem.status ≠ .eligible) :
    (missing.getD level).status = .eligible ↔
      missing = none ∧ level.status = .eligible := by
  cases missing with
  | none => exact ⟨fun reached => ⟨rfl, reached⟩, fun both => both.2⟩
  | some problem =>
      refine iff_of_false (prevents problem rfl) ?_
      rintro ⟨never, -⟩
      cases never

theorem behind_eligible :
    (((coverage proof.axes names).or (technical manifest proof)).getD
        level).status = .eligible ↔
      (∀ name ∈ names, (proof.axes name).status = .complete) ∧
        technical manifest proof = none ∧ level.status = .eligible := by
  rw [getD_eligible, Option.or_eq_none_iff, coverage_eq_none, and_assoc]
  intro problem found
  rcases Option.or_eq_some_iff.mp found with missing | ⟨_, prevents⟩
  · rw [unknownState?_status missing]
    nofun
  · exact technical_status prevents

/-! ## Reached levels -/

/-- The manifest is from the start, and no time is naive or in the future. -/
structure IsTimely
    (proof : Proof) (now : Timestamp) (manifest : Manifest) : Prop where
  found : proof.manifest = some manifest
  fromStart : manifest.source = "from_start"
  timely : (timestamps manifest proof).any (isFutureOrNaive now) = false

theorem assess_cases (proof : Proof) (now : Timestamp) :
    (∃ reason, assess proof now = .all (state .unknown [reason])) ∨
      ∃ manifest, IsTimely proof now manifest ∧
        assess proof now = assessTimely manifest proof := by
  unfold assess
  split
  · exact .inl ⟨_, rfl⟩
  · rename_i manifest found
    split
    · exact .inl ⟨_, rfl⟩
    · rename_i fromStart
      split
      · exact .inl ⟨_, rfl⟩
      · rename_i timely
        exact .inr ⟨manifest, ⟨found, Decidable.not_not.mp fromStart,
            Bool.eq_false_iff.mpr timely⟩, rfl⟩

theorem assess_timely (timely : IsTimely proof now manifest) :
    assess proof now = assessTimely manifest proof := by
  unfold assess
  simp only [timely.found]
  rw [if_neg (Decidable.not_not.mpr timely.fromStart),
    if_neg (Bool.eq_false_iff.mp timely.timely)]

theorem reached_iff (level : Levels → State)
    (uniform : ∀ unreached, level (.all unreached) = unreached) :
    (level (assess proof now)).status = .eligible ↔
      ∃ manifest, IsTimely proof now manifest ∧
        (level (assessTimely manifest proof)).status = .eligible := by
  constructor
  · intro reached
    rcases assess_cases proof now with ⟨reason, unknown⟩ |
      ⟨manifest, timely, assessed⟩
    · rw [unknown, uniform] at reached
      cases reached
    · rw [assessed] at reached
      exact ⟨manifest, timely, reached⟩
  · rintro ⟨manifest, timely, reached⟩
    rw [assess_timely timely]
    exact reached

theorem silverLevel_eligible :
    (silverLevel proof).status = .eligible ↔
      ∃ resets, proof.successfulResets = some resets ∧ resets ≤ 2 := by
  unfold silverLevel
  cases proof.successfulResets with
  | none => exact iff_of_false nofun (by simp)
  | some resets =>
      by_cases few : resets ≤ 2
      · simp [few, state]
      · simp [few, state]

theorem goldLevel_eligible :
    (goldLevel proof).status = .eligible ↔
      (∃ resets, proof.successfulResets = some resets ∧ resets ≤ 2) ∧
        (∃ returns, proof.validReturns = some returns ∧ returns ≤ 2) ∧
        (required proof).any lacksApproval = false := by
  unfold goldLevel
  cases proof.successfulResets with
  | none => exact iff_of_false nofun (by simp)
  | some resets =>
      cases proof.validReturns with
      | none => exact iff_of_false nofun (by simp)
      | some returns =>
          by_cases many : 2 < resets ∨ 2 < returns
          · simp [many, state]
            omega
          · by_cases lacks : (required proof).any lacksApproval = true
            · simp [many, lacks, state]
            · simp [many, lacks, state]
              omega

theorem cleanLevel_eligible :
    (cleanLevel proof).status = .eligible ↔ 5 ≤ (required proof).length ∧
        ∃ first, proof.firstFiveAnswers = some first ∧ 5 ≤ first.length ∧
          (first.any fun submission =>
            decide (submission.decision ≠ "approved" ∨
              submission.ordinal ≠ 1)) = false := by
  unfold cleanLevel
  by_cases few : (required proof).length < 5
  · rw [if_pos few]
    refine iff_of_false nofun fun both => ?_
    exact Nat.not_le_of_lt few both.1
  · rw [if_neg few]
    have enough : 5 ≤ (required proof).length := Nat.le_of_not_lt few
    cases proof.firstFiveAnswers with
    | none => exact iff_of_false nofun (by simp)
    | some first =>
        simp only [Option.some.injEq, exists_eq_left', enough, true_and]
        by_cases short : first.length < 5
        · rw [if_pos short]
          refine iff_of_false nofun fun both => ?_
          exact Nat.not_le_of_lt short both.1
        · rw [if_neg short]
          split
          · rename_i unclean
            refine iff_of_false nofun fun both => ?_
            exact Bool.eq_false_iff.mp both.2 unclean
          · rename_i clean
            exact iff_of_true rfl
              ⟨Nat.le_of_not_lt short, Bool.eq_false_iff.mpr clean⟩

theorem platinumLevel_status (proof : Proof) :
    (platinumLevel proof).status ≠ .eligible := by
  unfold platinumLevel
  split
  · nofun
  split
  · nofun
  split
  · nofun
  split
  · nofun
  · nofun

/-- What is assessed as certain is so in the proof. -/
theorem assess_isSound (proof : Proof) (now : Timestamp) :
    IsSound proof (assess proof now) := by
  rcases assess_cases proof now with ⟨reason, unknown⟩ |
    ⟨manifest, timely, assessed⟩
  · rw [unknown]
    exact ⟨nofun, nofun, nofun, nofun, nofun⟩
  · rw [assessed]
    refine ⟨fun gold => ?_, fun platinum => ?_, fun silver => ?_,
      fun gold => ?_, fun clean => ?_⟩
    · obtain ⟨sources, completed, level⟩ := behind_eligible.mp gold
      refine behind_eligible.mpr ⟨fun name member => ?_, completed,
        silverLevel_eligible.mpr (goldLevel_eligible.mp level).1⟩
      exact sources name (List.mem_cons.mpr
        (.inl (List.mem_singleton.mp member)))
    · exact platinumLevel_status proof (behind_eligible.mp platinum).2.2
    · exact (behind_eligible.mp silver).1 .resets (by simp)
    · have sources := (behind_eligible.mp gold).1
      exact ⟨sources .resets (by simp), sources .answers (by simp)⟩
    · have sources := ((getD_eligible fun problem missing => by
          rw [unknownState?_status missing]
          nofun).mp clean).1
      exact coverage_eq_none.mp sources .answers (by simp)

/-! ## Less certain evidence -/

theorem any_erased
    {first second : List AttemptProof} {test : AttemptProof → Bool}
    (same : first.map AttemptProof.erased = second.map AttemptProof.erased)
    (blind : ∀ attempt, test attempt.erased = test attempt) :
    first.any test = second.any test := by
  have through : ∀ attempts : List AttemptProof,
        (attempts.map AttemptProof.erased).any test = attempts.any test := by
    intro attempts
    rw [List.any_map]
    exact congrArg attempts.any (funext blind)
  rw [← through first, same, through]

theorem flatMap_erased {α : Type} {first second : List AttemptProof}
    {values : AttemptProof → List α}
    (same : first.map AttemptProof.erased = second.map AttemptProof.erased)
    (blind : ∀ attempt, values attempt.erased = values attempt) :
    first.flatMap values = second.flatMap values := by
  have through : ∀ attempts : List AttemptProof,
        (attempts.map AttemptProof.erased).flatMap values =
          attempts.flatMap values := by
    intro attempts
    rw [List.flatMap_map]
    exact congrArg (List.flatMap · attempts) (funext blind)
  rw [← through first, same, through]

theorem technical_erased (same : first.attempts.map AttemptProof.erased =
        second.attempts.map AttemptProof.erased) :
    technical manifest first = technical manifest second := by
  have through : ∀ proof : Proof, technical manifest
            { proof with attempts := proof.attempts.map AttemptProof.erased } =
          technical manifest proof := by
    intro proof
    unfold technical
    simp only [List.map_eq_nil_iff, List.length_map, List.any_map,
      List.all_map, List.findSome?_map]
    rfl
  rw [← through first, ← through second]
  unfold technical
  simp only [same]

theorem timestamps_erased (same : first.attempts.map AttemptProof.erased =
        second.attempts.map AttemptProof.erased) :
    timestamps manifest first = timestamps manifest second := by
  unfold timestamps
  rw [flatMap_erased same fun _ => rfl, flatMap_erased same fun _ => rfl,
    flatMap_erased same fun _ => rfl]

theorem required_erased (same : first.attempts.map AttemptProof.erased =
        second.attempts.map AttemptProof.erased) :
    (required first).any lacksApproval = (required second).any lacksApproval ∧
      (required first).length = (required second).length := by
  unfold required
  constructor
  · rw [List.any_filter, List.any_filter]
    exact any_erased same fun _ => rfl
  · have counted : ∀ attempts : List AttemptProof,
          (attempts.filter fun attempt =>
              decide (attempt.requiresReview = some true)).length =
            (attempts.map AttemptProof.erased).countP fun attempt =>
              decide (attempt.requiresReview = some true) := by
      intro attempts
      rw [List.countP_map, List.countP_eq_length_filter]
      rfl
    rw [counted, same, ← counted]

namespace LessCertain

theorem complete (less : LessCertain before after) {name : AxisName}
    (complete : (after.axes name).status = .complete) :
    (before.axes name).status = .complete := by
  rcases less.axes name with same | unknown
  · rw [← same]
    exact complete
  · rw [unknown] at complete
    cases complete

theorem timely (less : LessCertain before after)
    (timely : IsTimely after now manifest) :
    IsTimely before now manifest := by
  rcases less.manifest with same | removed
  · refine ⟨same ▸ timely.found, timely.fromStart, ?_⟩
    rw [← timestamps_erased less.attempts]
    exact timely.timely
  · exact (removed manifest timely.found timely.fromStart).elim

theorem silverLevel (less : LessCertain before after)
    (reached : (silverLevel after).status = .eligible) :
    (silverLevel before).status = .eligible := by
  obtain ⟨resets, counted, few⟩ := silverLevel_eligible.mp reached
  rcases less.resets with same | missing
  · exact silverLevel_eligible.mpr ⟨resets, same ▸ counted, few⟩
  · rw [missing] at counted
    cases counted

theorem goldLevel (less : LessCertain before after)
    (reached : (goldLevel after).status = .eligible) :
    (goldLevel before).status = .eligible := by
  obtain ⟨resets, ⟨returns, counted, few⟩, approved⟩ :=
    goldLevel_eligible.mp reached
  rcases less.returns with same | missing
  · refine goldLevel_eligible.mpr ⟨?_, ⟨returns, same ▸ counted, few⟩, ?_⟩
    · exact silverLevel_eligible.mp
        (less.silverLevel (silverLevel_eligible.mpr resets))
    · rw [← (required_erased less.attempts).1]
      exact approved
  · rw [missing] at counted
    cases counted

theorem cleanLevel (less : LessCertain before after)
    (reached : (cleanLevel after).status = .eligible) :
    (cleanLevel before).status = .eligible := by
  obtain ⟨enough, first, ordered, five, clean⟩ := cleanLevel_eligible.mp reached
  rcases less.firstFive with same | missing
  · refine cleanLevel_eligible.mpr ⟨?_, first, same ▸ ordered, five, clean⟩
    rw [← (required_erased less.attempts).2]
    exact enough
  · rw [missing] at ordered
    cases ordered

theorem behind (less : LessCertain before after)
    {level : Proof → State} (kept :
      (level after).status = .eligible → (level before).status = .eligible)
    (reached : (((coverage after.axes names).or (technical manifest after)).getD
        (level after)).status = .eligible) :
    (((coverage before.axes names).or (technical manifest before)).getD
      (level before)).status = .eligible := by
  obtain ⟨sources, completed, here⟩ := behind_eligible.mp reached
  refine behind_eligible.mpr ⟨fun name member => ?_, ?_, kept here⟩
  · exact less.complete (sources name member)
  · rw [← technical_erased less.attempts]
    exact completed

/-- Less certain evidence raises no level. -/
theorem noneRises (less : LessCertain before after) (now : Timestamp) :
    NoneRises (assess before now) (assess after now) := by
  refine ⟨fun reached => ?_, fun reached => ?_, fun reached => ?_,
    fun reached => ?_⟩
  · obtain ⟨manifest, timely, silver⟩ :=
      (reached_iff Levels.silver fun _ => rfl).mp reached
    exact (reached_iff Levels.silver fun _ => rfl).mpr
      ⟨manifest, less.timely timely, less.behind less.silverLevel silver⟩
  · obtain ⟨manifest, timely, gold⟩ :=
      (reached_iff Levels.gold fun _ => rfl).mp reached
    exact (reached_iff Levels.gold fun _ => rfl).mpr
      ⟨manifest, less.timely timely, less.behind less.goldLevel gold⟩
  · exact ((assess_isSound after now).platinum reached).elim
  · obtain ⟨manifest, timely, clean⟩ :=
      (reached_iff Levels.cleanAnswers fun _ => rfl).mp reached
    refine (reached_iff Levels.cleanAnswers fun _ => rfl).mpr
      ⟨manifest, less.timely timely, ?_⟩
    have prevents : ∀ proof : Proof, ∀ problem,
          coverage proof.axes [.answers] = some problem →
            problem.status ≠ .eligible := by
      intro proof problem missing
      rw [unknownState?_status missing]
      nofun
    obtain ⟨sources, here⟩ := (getD_eligible (prevents after)).mp clean
    refine (getD_eligible (prevents before)).mpr
      ⟨coverage_eq_none.mpr fun name member => ?_, less.cleanLevel here⟩
    exact less.complete (coverage_eq_none.mp sources name member)

end LessCertain

/-! ## Selected tiers -/

theorem validateTier_rank (valid : (validateTier definition tier).isOk = true) :
    tier.rank = rarities.idxOf tier.code + 1 := by
  obtain ⟨_, returned⟩ := isOk_iff.mp valid
  simp only [validateTier, bind_ok, required_ok, ensure_ok] at returned
  obtain ⟨schema, _, row, found, _, _, rank, _⟩ := returned
  have code : row.1 = tier.code := by
    simpa using List.find?_some found
  rw [rank, code]

/-- The tiers of a valid sandbox program: each has the rank of its code, they
are sorted, and there is one for each code. -/
structure AreValid (tiers : List AchievementTier) (codes : List String) :
    Prop where
  ranks : ∀ tier ∈ tiers, tier.rank = rarities.idxOf tier.code + 1
  sorted : tiers.Pairwise fun first second => first.rank ≤ second.rank
  covered : ∀ code ∈ codes, code ∈ tiers.map AchievementTier.code

theorem tiersOf_sorted
    (catalog : Achievements.Catalog) (definition : AchievementDefinition) :
    (tiersOf catalog definition).Pairwise fun first second =>
      first.rank ≤ second.rank := by
  have sorted := @List.pairwise_mergeSort AchievementTier
      (fun first second => decide (first.rank ≤ second.rank))
      (fun first second third before after =>
        decide_eq_true
          (Nat.le_trans (of_decide_eq_true before) (of_decide_eq_true after)))
      (fun first second => by
        simpa using Nat.le_total first.rank second.rank)
      (catalog.tiers.filter fun tier =>
        decide (tier.definitionId = definition.pk))
  exact sorted.imp fun ordered => of_decide_eq_true ordered

theorem areValid_of_accepted
    {catalog : Achievements.Catalog} {journey : Option EntryType} (accepted :
      refused? journey definition (tiersOf catalog definition) = none) :
    ∃ schema, validateDefinition definition = .ok schema ∧
      AreValid (tiersOf catalog definition) (schema.tiers.map Prod.fst) := by
  unfold refused? at accepted
  split at accepted
  · cases accepted
  · rename_i schema found
    split at accepted
    · cases accepted
    · rename_i valid
      split at accepted
      · cases accepted
      · rename_i codes
        have all := Decidable.not_not.mp valid
        have covered := of_decide_eq_true (Decidable.not_not.mp codes)
        refine ⟨schema, found, fun tier member => ?_, ?_, covered.2⟩
        · exact validateTier_rank (List.all_eq_true.mp all tier member)
        · exact tiersOf_sorted catalog definition

theorem AreValid.find
    (valid : AreValid tiers codes) {code : String} (member : code ∈ codes) :
    ∃ tier, (tiers.find? fun tier => decide (tier.code = code)) = some tier ∧
      tier.code = code ∧ tier.rank = rarities.idxOf code + 1 := by
  obtain ⟨other, inTiers, same⟩ := List.mem_map.mp (valid.covered code member)
  cases found : tiers.find? fun tier => decide (tier.code = code) with
  | none =>
      have absent := List.find?_eq_none.mp found other inTiers
      exact (absent (decide_eq_true same)).elim
  | some tier =>
      have sameCode : tier.code = code := by
        simpa using List.find?_some found
      refine ⟨tier, rfl, sameCode, ?_⟩
      rw [valid.ranks tier (List.mem_of_find?_eq_some found), sameCode]

theorem find?_head (first : tiers.head? = some tier) :
    (tiers.find? fun other => decide (other.code = tier.code)) =
      some tier := by
  cases tiers with
  | nil => cases first
  | cons other rest =>
      cases first
      exact List.find?_cons_of_pos (by simp)

theorem selectedRank_eligible
    {evidence : Evidence} {levels : List Level} {time : Timestamp} (found :
      (tiers.find? fun other => decide (other.code = tier.code)) = some tier) :
    selectedRank tiers (some (eligible tier evidence levels time)) =
      tier.rank := by
  unfold selectedRank eligible
  simp [found]

theorem AreValid.head
    (valid : AreValid tiers codes) (bronze : "bronze" ∈ codes) :
    ∃ tier, tiers.head? = some tier ∧ tier.rank = 1 := by
  obtain ⟨other, found, _, rank⟩ := valid.find bronze
  have member := List.mem_of_find?_eq_some found
  cases tiers with
  | nil => cases member
  | cons first rest =>
      refine ⟨first, rfl, ?_⟩
      have least : first.rank ≤ other.rank := by
        rcases List.mem_cons.mp member with same | later
        · exact Nat.le_of_eq (same ▸ rfl)
        · exact (List.pairwise_cons.mp valid.sorted).1 other later
      have positive := valid.ranks first List.mem_cons_self
      have one : other.rank = 1 := rank.trans (by decide)
      omega

/-- The codes of the tiers of the program. -/
def programCodes : List String :=
  ["bronze", "silver", "gold", "platinum"]

theorem selectedRank_program (valid : AreValid tiers programCodes) :
    selectedRank tiers (program reads tiers proof levels) =
      if levels.gold.status = .eligible then 3
      else if levels.silver.status = .eligible then 2
      else if reads.completion.isSome then 1 else 0 := by
  obtain ⟨gold, goldFound, goldCode, goldRank⟩ :=
    valid.find (show "gold" ∈ programCodes by decide)
  obtain ⟨silver, silverFound, silverCode, silverRank⟩ :=
    valid.find (show "silver" ∈ programCodes by decide)
  obtain ⟨first, isFirst, firstRank⟩ :=
    valid.head (show "bronze" ∈ programCodes by decide)
  unfold program
  split
  · rw [goldFound, Option.map_some,
      selectedRank_eligible (goldCode ▸ goldFound), goldRank]
    decide
  split
  · rw [silverFound, Option.map_some,
      selectedRank_eligible (silverCode ▸ silverFound), silverRank]
    decide
  · cases reads.completion with
    | none => rfl
    | some completion =>
        simp only [isFirst, Option.map_some]
        rw [selectedRank_eligible (find?_head isFirst), firstRank]
        rfl

theorem selectedRank_cleanAnswers :
    selectedRank tiers (cleanAnswers reads tiers proof levels) =
      if levels.cleanAnswers.status = .eligible then
        (tiers.head?.map AchievementTier.rank).getD 0
      else
        0 := by
  unfold cleanAnswers
  split
  · cases isFirst : tiers.head? with
    | none => rfl
    | some first =>
        rw [Option.map_some, selectedRank_eligible (find?_head isFirst)]
        rfl
  · rename_i unreached
    exact if_neg unreached

theorem program_rank_le
    (valid : AreValid tiers programCodes) (rises : NoneRises levels levels') :
    selectedRank tiers (program reads tiers after levels') ≤
      selectedRank tiers (program reads tiers before levels) := by
  rw [selectedRank_program valid, selectedRank_program valid]
  by_cases gold : levels'.gold.status = .eligible
  · rw [if_pos gold, if_pos (rises.gold gold)]
  · rw [if_neg gold]
    by_cases silver : levels'.silver.status = .eligible
    · rw [if_pos silver, if_pos (rises.silver silver)]
      split <;> omega
    · rw [if_neg silver]
      split <;> split <;> (try split) <;> omega

theorem cleanAnswers_rank_le (rises : NoneRises levels levels') :
    selectedRank tiers (cleanAnswers reads tiers after levels') ≤
      selectedRank tiers (cleanAnswers reads tiers before levels) := by
  rw [selectedRank_cleanAnswers, selectedRank_cleanAnswers]
  by_cases clean : levels'.cleanAnswers.status = .eligible
  · rw [if_pos clean, if_pos (rises.cleanAnswers clean)]
  · rw [if_neg clean]
    exact Nat.zero_le _

theorem programCodes_of_validated
    {schema : Family} (key : definition.evaluatorKey = "sandbox_program")
    (validated : validateDefinition definition = .ok schema) :
    schema.tiers.map Prod.fst = programCodes := by
  simp only [validateDefinition, key, bind_ok, required_ok,
    pure_ok] at validated
  obtain ⟨other, found, _, _, _, _, _, _, same⟩ := validated
  subst same
  cases found
  rfl

/-- Less certain evidence selects no higher tier. -/
theorem evaluate_rank_le (less : LessCertain before after)
    (catalog : Achievements.Catalog) (reads : Reads) (userId : Pk)
    (ledger : isSandboxProgram definition.evaluatorKey = true)
    (now : Timestamp) :
    selectedRank (tiersOf catalog definition)
        (evaluate catalog reads userId definition after now) ≤
      selectedRank (tiersOf catalog definition)
        (evaluate catalog reads userId definition before now) := by
  have rises := less.noneRises now
  unfold evaluate
  split
  · exact Nat.le_refl _
  · rename_i accepted
    obtain ⟨schema, validated, valid⟩ := areValid_of_accepted accepted
    unfold sandbox
    split
    · exact Nat.le_refl _
    · split
      · exact cleanAnswers_rank_le rises
      · rename_i other
        have key : definition.evaluatorKey = "sandbox_program" := by
          have either := of_decide_eq_true ledger
          rcases List.mem_pair.mp either with program | clean
          · exact program
          · exact (other clean).elim
        rw [programCodes_of_validated key validated] at valid
        exact program_rank_le valid rises

/-- Levels are sound, and evidence that becomes less certain raises neither a
level nor the selected tier. -/
theorem assess_certain {before after : Proof} (less : LessCertain before after)
    (catalog : Achievements.Catalog) (reads : Reads) (userId : Pk)
    {definition : AchievementDefinition}
    (ledger : isSandboxProgram definition.evaluatorKey = true)
    (now : Timestamp) :
    IsSound before (assess before now) ∧
      NoneRises (assess before now) (assess after now) ∧
      selectedRank (tiersOf catalog definition)
          (evaluate catalog reads userId definition after now) ≤
        selectedRank (tiersOf catalog definition)
          (evaluate catalog reads userId definition before now) :=
  ⟨assess_isSound before now, less.noneRises now,
    evaluate_rank_le less catalog reads userId ledger now⟩

/-- The seeded definition of the program. -/
def programDefinition : AchievementDefinition where
  pk := 2
  code := "sandbox_program"
  kind := .tiered
  active := true
  applicability := .newHire
  evaluatorKey := "sandbox_program"
  ruleVersion := 1
  artKey := "sandbox"

/-- One task, passed at the first check and without a reset. -/
def passedProof : Proof where
  manifest := some
      { source := "from_start"
        recordedAt := .aware 0
        tasks := [1] }
  axes := fun _ => .ofReasons []
  attempts :=
    [{ requiresReview := some false
       credit := some true
       technicalCompleted := some true
       coverageReasons := []
       technicalChecks :=
         [{ requestedAt := .aware 1
            finishedAt := some (.aware 2)
            result := "passed"
            checkerStarted := some true
            checkRunId := some 1 }]
       firstCheck := none
       submissions := []
       firstAnswerApproved := none }]
  successfulResets := some 0
  validReturns := some 0
  firstFiveAnswers := some []

/-- The same task, with a reset of unknown origin. -/
def doubtfulProof : Proof :=
  { passedProof with
    axes := fun name =>
      if name = .resets then .ofReasons ["reset_origin_unknown"]
      else .ofReasons [] }

/-- The passed task reaches gold. -/
example : (assess passedProof 3).gold.status = .eligible := by
  decide

theorem assess_certain_doubtful :
    IsSound passedProof (assess passedProof 3) ∧
      NoneRises (assess passedProof 3) (assess doubtfulProof 3) ∧
      selectedRank (tiersOf seedCatalog programDefinition) (evaluate seedCatalog
            { journey := some .newHire
              completion := none
              isValidSnapshot := fun _ => true
              attempts := []
              snapshot := fun _ => { policy := some "sandbox-ledger-v1" }
              completionEvidence := fun _ => {} }
            1 programDefinition doubtfulProof 3) ≤
        selectedRank (tiersOf seedCatalog programDefinition)
          (evaluate seedCatalog
            { journey := some .newHire
              completion := none
              isValidSnapshot := fun _ => true
              attempts := []
              snapshot := fun _ => { policy := some "sandbox-ledger-v1" }
              completionEvidence := fun _ => {} }
            1 programDefinition passedProof 3) := by
  have less : LessCertain passedProof doubtfulProof := by
    refine ⟨.inl rfl, fun name => ?_, rfl, .inl rfl, .inl rfl, .inl rfl⟩
    cases name with
    | checks => exact .inl rfl
    | resets => exact .inr rfl
    | answers => exact .inl rfl
  have ledger : isSandboxProgram programDefinition.evaluatorKey = true := by
    decide
  exact assess_certain less seedCatalog _ 1 ledger 3

end TicketSandbox.Achievements.SandboxAdvanced
