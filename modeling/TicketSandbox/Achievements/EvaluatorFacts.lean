import TicketSandbox.Achievements.Evaluators
import TicketSandbox.Achievements.SandboxLevels

namespace TicketSandbox.Achievements.Evaluators

/-!
# What evaluators promise

An eligible evaluation selects a tier of the checked catalog that may be
granted automatically, and dates it at an instant that has come.
-/

open Raises
open Sandbox (Pk Timestamp)
open Catalog Reconciliation SandboxAdvanced
open TraineeDiary (Day Diary Session StageHistory)

/-- The evaluation selects an automatic tier, at an instant that has come. -/
structure IsEarned (tiers : List AchievementTier) (now : Timestamp)
    (evaluation : Evaluation) : Prop where
  tier : ∃ tier ∈ tiers, evaluation.tierCode = some tier.code ∧
      tier.parameters.automatic = some true
  date : ∃ instant, evaluation.occurredAt = some instant ∧ instant ≤ now

/-- An eligible evaluation is earned. -/
def IsPromised (tiers : List AchievementTier) (now : Timestamp)
    (evaluation : Evaluation) : Prop :=
  evaluation.status = .eligible → IsEarned tiers now evaluation

/-! ## Checked tiers -/

/-- The definition and its tiers match their schema. -/
structure AreChecked
    (definition : AchievementDefinition) (tiers : List AchievementTier)
    (schema : Family) : Prop where
  validated : validateDefinition definition = .ok schema
  active : definition.active = true
  checked : ∀ tier ∈ tiers, validateTier definition tier = .ok ()
  valid : AreValid tiers (schema.tiers.map Prod.fst)

variable {journey : Option TraineeDiary.EntryType}
  {definition : AchievementDefinition} {schema : Family}
  {tiers : List AchievementTier} {now : Timestamp} {evaluation : Evaluation}
  {proof : Proof} {reads : Reads} {userId : Pk} {successes : List Success}
  {success : Success} {sources : Sources} {today : Day}
  {visits : List StageHistory} {diary : Diary}

theorem areChecked_of_accepted {catalog : Achievements.Catalog} (accepted :
      refused? journey definition (tiersOf catalog definition) = none) :
    ∃ schema, AreChecked definition (tiersOf catalog definition) schema := by
  obtain ⟨schema, validated, valid⟩ := areValid_of_accepted accepted
  refine ⟨schema, validated, ?_, ?_, valid⟩
  · simp only [refused?, validated] at accepted
    split at accepted
    · cases accepted
    split at accepted
    · cases accepted
    split at accepted
    · cases accepted
    · rename_i active
      simpa using active
  · simp only [refused?, validated] at accepted
    split at accepted
    · cases accepted
    · rename_i all
      intro tier member
      have isOk := List.all_eq_true.mp (Decidable.not_not.mp all) tier member
      obtain ⟨⟨⟩, returned⟩ := isOk_iff.mp isOk
      exact returned

theorem validateDefinition_family
    (validated : validateDefinition definition = .ok schema) :
    schema ∈ catalog ∧ schema.evaluatorKey = definition.evaluatorKey := by
  simp only [validateDefinition, bind_ok, required_ok, pure_ok] at validated
  obtain ⟨other, found, _, _, _, _, _, _, rfl⟩ := validated
  have key := List.find?_some found
  exact ⟨List.mem_of_find?_eq_some found, of_decide_eq_true key⟩

variable {tier : AchievementTier}

theorem validateTier_row
    (validated : validateDefinition definition = .ok schema)
    (valid : validateTier definition tier = .ok ()) :
    (tier.code, tier.parameters) ∈ schema.tiers ∧
      (schema.tiers.find? fun row => decide (row.1 = tier.code)) =
        some (tier.code, tier.parameters) := by
  simp only [validateTier, validated, bind_ok, required_ok, ensure_ok] at valid
  obtain ⟨other, same, row, found, parameters, _⟩ := valid
  cases same
  have code : row.1 = tier.code := by
    simpa using List.find?_some found
  have isRow : row = (tier.code, tier.parameters) := by
    rw [← code, parameters]
  rw [← isRow]
  exact ⟨List.mem_of_find?_eq_some found, found⟩

theorem lowest_automatic :
    ∀ schema ∈ catalog, schema.evaluatorKey ∈ registry → ∀ row ∈ schema.tiers,
        (∀ other ∈ schema.tiers,
          rarities.idxOf row.1 ≤ rarities.idxOf other.1) →
        row.2.automatic = some true := by
  decide

theorem ledger_automatic :
    ∀ schema ∈ catalog, schema.evaluatorKey = "sandbox_program" →
      ∀ row ∈ schema.tiers, row.1 = "gold" ∨ row.1 = "silver" →
        row.2.automatic = some true := by
  decide

theorem probation_automatic :
    ∀ schema ∈ catalog, schema.evaluatorKey = "probation_new_hire" →
      ∀ row ∈ schema.tiers, row.2.automatic = some true := by
  decide

namespace AreChecked

theorem row (checked : AreChecked definition tiers schema)
    {tier : AchievementTier} (member : tier ∈ tiers) :
    (tier.code, tier.parameters) ∈ schema.tiers :=
  (validateTier_row checked.validated (checked.checked tier member)).1

theorem parameters_eq (checked : AreChecked definition tiers schema)
    {first second : AchievementTier} (firstMember : first ∈ tiers)
    (secondMember : second ∈ tiers) (same : first.code = second.code) :
    first.parameters = second.parameters := by
  have one :=
    (validateTier_row checked.validated (checked.checked first firstMember)).2
  have other :=
    (validateTier_row checked.validated (checked.checked second secondMember)).2
  rw [same, other] at one
  exact (Prod.mk.inj (Option.some.inj one)).2.symm

theorem head {definition : AchievementDefinition} {tiers : List AchievementTier}
    {schema : Family} (checked : AreChecked definition tiers schema)
    (registered : definition.evaluatorKey ∈ registry) {tier : AchievementTier}
    (first : tiers.head? = some tier) :
    tier.parameters.automatic = some true := by
  obtain ⟨listed, key⟩ := validateDefinition_family checked.validated
  have member := List.mem_of_mem_head? first
  refine lowest_automatic schema listed (key ▸ registered)
    (tier.code, tier.parameters) (checked.row member) ?_
  intro other isRow
  obtain ⟨found, isFound, _, rank⟩ :=
    checked.valid.find (List.mem_map_of_mem isRow)
  have foundMember := List.mem_of_find?_eq_some isFound
  have least : tier.rank ≤ found.rank := by
    cases tiers with
    | nil => cases first
    | cons head rest =>
        cases first
        rcases List.mem_cons.mp foundMember with same | later
        · exact Nat.le_of_eq (same ▸ rfl)
        · exact (List.pairwise_cons.mp checked.valid.sorted).1 found later
  rw [checked.valid.ranks tier member, rank] at least
  exact Nat.le_of_succ_le_succ least

end AreChecked

/-! ## Evaluators over the ledger -/

/-- An automatic tier that was reached in the past is promised. -/
theorem eligible_promised {instant : Timestamp} {evidence : Evidence}
    {levels : List Level} (member : tier ∈ tiers)
    (automatic : tier.parameters.automatic = some true) (past : instant ≤ now) :
    IsPromised tiers now (eligible tier evidence levels instant) :=
  fun _ => ⟨⟨tier, member, rfl, automatic⟩, ⟨instant, rfl, past⟩⟩

/-- Only an eligible evaluation promises anything. -/
theorem promised_of_ne
    (other : evaluation.status ≠ .eligible) : IsPromised tiers now evaluation :=
  fun isEligible => (other isEligible).elim

theorem foldl_max_le {values : List Timestamp} {first bound : Timestamp}
    (start : first ≤ bound) (rest : ∀ value ∈ values, value ≤ bound) :
    values.foldl max first ≤ bound := by
  induction values generalizing first with
  | nil => exact start
  | cons value later inductionHypothesis =>
      refine inductionHypothesis ?_ fun other member =>
        rest other (List.mem_cons_of_mem _ member)
      exact max_le start (rest value List.mem_cons_self)

theorem occurredAt_le {manifest : Manifest}
    (timely : SandboxAdvanced.IsTimely proof now manifest) :
    occurredAt proof ≤ now := by
  have past : ∀ moment ∈ timestamps manifest proof, moment.instant ≤ now := by
    intro moment member
    have come := List.any_eq_false.mp timely.timely moment member
    cases moment with
    | aware instant =>
        exact Int.not_lt.mp fun future => come (decide_eq_true future)
    | naive instant => exact (come rfl).elim
  simp only [occurredAt, timely.found, Option.elim_some]
  refine foldl_max_le (past _ List.mem_cons_self) ?_
  intro value member
  obtain ⟨moment, listed, rfl⟩ := List.mem_map.mp member
  exact past moment listed

theorem completedAt_le {completion : Completion}
    (fine : completionProblem? reads userId now = none)
    (found : reads.completion = some completion) :
    completion.completedAt ≤ now := by
  simp only [completionProblem?, found, Option.bind_some] at fine
  split at fine
  · split at fine
    · cases fine
    · rename_i past
      exact Int.not_lt.mp past
  · cases fine

theorem completionProblem_status {problem : Evaluation}
    (found : completionProblem? reads userId now = some problem) :
    problem.status ≠ .eligible := by
  unfold completionProblem? at found
  obtain ⟨completion, _, found⟩ := Option.bind_eq_some_iff.mp found
  split at found
  · split at found
    · cases found
      nofun
    · split at found
      · cases found
        nofun
      · cases found
  · cases found
    nofun

theorem cleanAnswers_promised (head :
      ∀ tier, tiers.head? = some tier → tier.parameters.automatic = some true)
    (evaluated :
      cleanAnswers reads tiers proof (assess proof now) = some evaluation) :
    IsPromised tiers now evaluation := by
  unfold cleanAnswers at evaluated
  split at evaluated
  · rename_i reached
    obtain ⟨manifest, timely, _⟩ :=
      (reached_iff Levels.cleanAnswers fun _ => rfl).mp reached
    obtain ⟨tier, first, rfl⟩ := Option.map_eq_some_iff.mp evaluated
    exact eligible_promised (List.mem_of_mem_head? first)
      (head tier first) (occurredAt_le timely)
  · rename_i unreached
    cases evaluated
    exact promised_of_ne unreached

theorem ledgerTier_promised
    {code : String} (checked : AreChecked definition tiers schema)
    (key : definition.evaluatorKey = "sandbox_program")
    (decided : code = "gold" ∨ code = "silver") (past : occurredAt proof ≤ now)
    (evaluated :
      ((tiers.find? fun tier => decide (tier.code = code)).map fun tier =>
        eligible tier (reads.snapshot proof) (assess proof now).listed
          (occurredAt proof)) = some evaluation) :
    IsPromised tiers now evaluation := by
  obtain ⟨tier, found, rfl⟩ := Option.map_eq_some_iff.mp evaluated
  obtain ⟨listed, same⟩ := validateDefinition_family checked.validated
  have member := List.mem_of_find?_eq_some found
  have isCode : tier.code = code := by
    simpa using List.find?_some found
  have automatic :=
    ledger_automatic schema listed (same.trans key) _ (checked.row member)
      (isCode ▸ decided)
  exact eligible_promised member automatic past

theorem program_promised (checked : AreChecked definition tiers schema)
    (key : definition.evaluatorKey = "sandbox_program") (head :
      ∀ tier, tiers.head? = some tier → tier.parameters.automatic = some true)
    (fine : completionProblem? reads userId now = none)
    (evaluated :
      program reads tiers proof (assess proof now) = some evaluation) :
    IsPromised tiers now evaluation := by
  unfold program at evaluated
  split at evaluated
  · rename_i reached
    obtain ⟨manifest, timely, _⟩ :=
      (reached_iff Levels.gold fun _ => rfl).mp reached
    exact ledgerTier_promised checked key (.inl rfl)
      (occurredAt_le timely) evaluated
  split at evaluated
  · rename_i reached
    obtain ⟨manifest, timely, _⟩ :=
      (reached_iff Levels.silver fun _ => rfl).mp reached
    exact ledgerTier_promised checked key (.inr rfl)
      (occurredAt_le timely) evaluated
  split at evaluated
  · cases evaluated
    exact promised_of_ne nofun
  · rename_i completion found
    obtain ⟨tier, first, rfl⟩ := Option.map_eq_some_iff.mp evaluated
    exact eligible_promised (List.mem_of_mem_head? first)
      (head tier first) (completedAt_le fine found)

/-! ## Technical successes -/

theorem errorIf_eq_nil
    {condition : Prop} [Decidable condition] {error : String} :
    errorIf condition error = [] ↔ ¬ condition := by
  unfold errorIf
  split <;> simp [*]

theorem entry_within
    {fingerprint : List Int → String} {completion : ProgramCompletion}
    (valid : snapshotErrors fingerprint completion = []) {entry : SnapshotEntry}
    (member : entry ∈ entriesOf completion) :
    ∃ instant, entry.passedAt = some (.aware instant) ∧
      instant ≤ completion.completedAt := by
  unfold snapshotErrors at valid
  cases found : completion.snapshot with
  | none => simp [found] at valid
  | some snapshot =>
      simp only [found] at valid
      split at valid
      · cases valid
      split at valid
      · cases valid
      split at valid
      · rename_i errors
        exact (errors valid).elim
      · rename_i fine
        have sound := (List.append_eq_nil_iff.mp (not_not.mp fine)).1
        simp only [entriesOf, found, Option.bind_some] at member
        obtain ⟨row, isRow, rfl⟩ := List.mem_filterMap.mp member
        have clean := List.flatMap_eq_nil_iff.mp sound (some entry) isRow
        simp only [entryErrors] at clean
        split at clean
        · have timed := (List.append_eq_nil_iff.mp clean).2
          unfold timeErrors at timed
          split at timed
          · cases timed
          · rename_i moment isMoment
            have within := errorIf_eq_nil.mp timed
            cases moment with
            | aware instant =>
                refine ⟨instant, isMoment, ?_⟩
                simpa [isWithin] using within
            | naive instant => exact (within rfl).elim
        · cases clean

theorem mem_putSuccess
    {candidate : Success} (member : success ∈ putSuccess successes candidate) :
    success ∈ successes ∨ success = candidate := by
  unfold putSuccess at member
  split at member
  · exact .inl member
  · rcases List.mem_append.mp member with kept | isNew
    · exact .inl (List.mem_of_mem_filter kept)
    · exact .inr (List.mem_singleton.mp isNew)

theorem foldl_putSuccess (holds : Success → Prop) {candidates : List Success}
    (first : ∀ success ∈ successes, holds success)
    (rest : ∀ success ∈ candidates, holds success) :
    ∀ success ∈ candidates.foldl putSuccess successes, holds success := by
  induction candidates generalizing successes with
  | nil => exact first
  | cons candidate later inductionHypothesis =>
      refine inductionHypothesis ?_ fun success member =>
        rest success (List.mem_cons_of_mem _ member)
      intro success member
      rcases mem_putSuccess member with before | rfl
      · exact first success before
      · exact rest success List.mem_cons_self

theorem provenSuccess_le {attempt : CreditAttempt}
    (proven : provenSuccess? now attempt = some success) :
    success.passedAt ≤ now := by
  simp only [provenSuccess?, Option.bind_eq_bind,
    Option.bind_eq_some_iff] at proven
  obtain ⟨_, _, passedAt, _, _, past, made⟩ := proven
  cases made
  by_contra later
  simp [later, guard] at past

theorem successesOf_le
    (fine : completionProblem? sources.reads userId now = none) :
    ∀ success ∈ successesOf sources now, success.passedAt ≤ now := by
  refine foldl_putSuccess (fun success => success.passedAt ≤ now) ?_ ?_
  · cases found : sources.completion with
    | none => nofun
    | some completion =>
        intro success member
        obtain ⟨entry, isEntry, recorded⟩ := List.mem_filterMap.mp member
        have listed : sources.reads.completion = some completion.listed := by
          simp [Sources.reads, found]
        have valid : snapshotErrors sources.fingerprint completion = [] := by
          simp only [completionProblem?, listed, Option.bind_some] at fine
          split at fine
          · rename_i isValid
            simpa [Sources.reads, found] using isValid
          · cases fine
        obtain ⟨instant, isAt, within⟩ := entry_within valid isEntry
        simp only [recordedSuccess?, isAt, Option.map_some] at recorded
        cases recorded
        exact Int.le_trans within (completedAt_le fine listed)
  · intro success member
    obtain ⟨attempt, _, proven⟩ := List.mem_filterMap.mp member
    exact provenSuccess_le proven

theorem firstSuccesses_promised (head :
      ∀ tier, tiers.head? = some tier → tier.parameters.automatic = some true)
    (fine : completionProblem? sources.reads userId now = none)
    (evaluated : firstSuccesses sources tiers now = some evaluation) :
    IsPromised tiers now evaluation := by
  unfold firstSuccesses at evaluated
  simp only [Option.bind_eq_bind, Option.bind_eq_some_iff] at evaluated
  obtain ⟨tier, first, required, _, evaluated⟩ := evaluated
  split at evaluated
  · cases evaluated
    exact promised_of_ne nofun
  · obtain ⟨last, isLast, rfl⟩ := Option.map_eq_some_iff.mp evaluated
    refine eligible_promised (List.mem_of_mem_head? first)
      (head tier first) (successesOf_le fine last ?_)
    have taken := List.mem_of_mem_take (List.mem_of_getLast? isLast)
    exact (List.mem_insertionSort _).mp taken

theorem sandbox_promised (checked : AreChecked definition tiers schema)
    (registered : definition.evaluatorKey ∈ registry) (evaluated :
      sandbox sources userId tiers definition now = some evaluation) :
    IsPromised tiers now evaluation := by
  have head :
      ∀ tier, tiers.head? = some tier → tier.parameters.automatic = some true :=
    fun _ first => checked.head registered first
  unfold sandbox at evaluated
  split at evaluated
  · rename_i ledger
    unfold SandboxAdvanced.sandbox at evaluated
    split at evaluated
    · rename_i problem found
      cases evaluated
      exact promised_of_ne (completionProblem_status found)
    · rename_i fine
      split at evaluated
      · exact cleanAnswers_promised head evaluated
      · rename_i other
        have key : definition.evaluatorKey = "sandbox_program" := by
          rcases List.mem_pair.mp (of_decide_eq_true ledger) with
            program | clean
          · exact program
          · exact (other clean).elim
        exact program_promised checked key head fine evaluated
  · split at evaluated
    · rename_i problem found
      cases evaluated
      exact promised_of_ne (completionProblem_status found)
    · rename_i fine
      exact firstSuccesses_promised head fine evaluated

/-! ## Evaluators over the diary -/

theorem training_promised (head :
      ∀ tier, tiers.head? = some tier → tier.parameters.automatic = some true)
    (evaluated : training sources tiers now = some evaluation) :
    IsPromised tiers now evaluation := by
  unfold training at evaluated
  split at evaluated
  · cases evaluated
    exact promised_of_ne nofun
  split at evaluated
  · cases evaluated
    exact promised_of_ne nofun
  split at evaluated
  · cases evaluated
    exact promised_of_ne nofun
  · rename_i trusted
    obtain ⟨tier, first, rfl⟩ := Option.map_eq_some_iff.mp evaluated
    exact eligible_promised (List.mem_of_mem_head? first) (head tier first)
      (Int.not_lt.mp fun future => trusted (.inr future))

theorem historyFor_begun {session : Session}
    (found : TraineeDiary.historyFor? session today = some visits) :
    ∀ visit ∈ visits, visit.startedAt ≤ today := by
  simp only [TraineeDiary.historyFor?] at found
  split at found
  · cases found
  split at found
  · rename_i some agree
    cases found
    intro visit member
    obtain ⟨earlier, last, shape⟩ := List.eq_nil_or_concat'
        (TraineeDiary.chronological session.diary.history) |>.resolve_left
          fun empty => some (.inl empty)
    rw [shape] at agree member
    exact (((TraineeDiary.Session.visitsAgree_append.mp agree).1
      visit member).1).2
  · cases found

theorem independent_promised (timely : sources.IsTimely now) (head :
      ∀ tier, tiers.head? = some tier → tier.parameters.automatic = some true)
    (evaluated : independent sources diary tiers = some evaluation) :
    IsPromised tiers now evaluation := by
  unfold independent at evaluated
  split at evaluated
  · cases evaluated
    exact promised_of_ne nofun
  · rename_i visits found
    split at evaluated
    · cases evaluated
      exact promised_of_ne nofun
    · rename_i previous current isFirst
      split at evaluated
      · obtain ⟨tier, first, rfl⟩ := Option.map_eq_some_iff.mp evaluated
        refine eligible_promised (List.mem_of_mem_head? first)
          (head tier first) (timely _ ?_)
        have paired := List.mem_of_find?_eq_some isFirst
        exact historyFor_begun found current
          (List.mem_of_mem_tail (List.of_mem_zip paired).2)
      · cases evaluated
        exact promised_of_ne nofun

theorem foldl_higher {best : Option AchievementTier}
    (found : tiers.foldl higher best = some tier) :
    best = some tier ∨ tier ∈ tiers := by
  induction tiers generalizing best with
  | nil => exact .inl found
  | cons next later inductionHypothesis =>
      rcases inductionHypothesis found with isBest | member
      · unfold higher at isBest
        split at isBest
        · exact .inl isBest
        · cases isBest
          exact .inr List.mem_cons_self
      · exact .inr (List.mem_cons_of_mem _ member)

/-- The highest tier is one of the tiers. -/
theorem highest?_mem (found : highest? tiers = some tier) : tier ∈ tiers := by
  rcases foldl_higher found with isNone | member
  · cases isNone
  · exact member

theorem probation_promised (timely : sources.IsTimely now)
    (checked : AreChecked definition tiers schema)
    (key : definition.evaluatorKey = "probation_new_hire")
    (evaluated : probation sources diary tiers = some evaluation) :
    IsPromised tiers now evaluation := by
  unfold probation at evaluated
  obtain ⟨stage, _, evaluated⟩ := Option.bind_eq_some_iff.mp evaluated
  split at evaluated
  · cases evaluated
    exact promised_of_ne nofun
  · cases evaluated
    exact promised_of_ne nofun
  · rename_i day isDay
    simp only [Option.bind_eq_bind, Option.bind_eq_some_iff] at evaluated
    obtain ⟨completed, isCompleted, tier, highest, made⟩ := evaluated
    cases made
    have member := List.mem_of_mem_filter (highest?_mem highest)
    obtain ⟨listed, same⟩ := validateDefinition_family checked.validated
    refine eligible_promised member
      (probation_automatic schema listed (same.trans key) _
        (checked.row member))
      (timely completed ?_)
    unfold TraineeDiary.evaluateProbation at isDay
    split at isDay
    · cases isDay
    split at isDay
    · cases isDay
    split at isDay
    · cases isDay
    · rename_i other isOther
      obtain rfl := Option.some.inj (isCompleted.symm.trans isOther)
      split at isDay
      · cases isDay
      · rename_i fine
        exact Nat.not_lt.mp fun future => fine (.inl (.inr future))

/-! ## Weekly metrics -/

/-- The week selects an automatic tier, and is over. -/
structure QualifyingWeek.IsSound
    (week : QualifyingWeek) (tiers : List AchievementTier)
    (today : Day) : Prop where
  member : week.tier ∈ tiers
  automatic : week.tier.parameters.automatic = some true
  isOver : week.start + 7 ≤ today

theorem readWeek_sound {isQuality : Bool} {metric : TraineeDiary.WeeklyMetric}
    {week : QualifyingWeek} (read :
      readWeek sources diary isQuality tiers visits metric = .qualifies week) :
    week.IsSound tiers sources.today := by
  unfold readWeek at read
  split at read
  · cases read
  split at read
  · cases read
  rename_i isOver
  split at read
  · split at read
    · unfold readValue at read
      split at read
      · cases read
      split at read
      · cases read
      split at read
      · cases read
      · rename_i tier highest
        cases read
        have found := highest?_mem highest
        have reached := (List.mem_filter.mp found).2
        rw [isReached, Bool.and_eq_true] at reached
        exact ⟨List.mem_of_mem_filter found,
          of_decide_eq_true reached.1, Nat.not_lt.mp isOver⟩
    · cases read
  · cases read

theorem foldl_betterWeek_sound
    {readings : List WeekReading} {best : Option QualifyingWeek}
    (first : ∀ week ∈ best, week.IsSound tiers today)
    (rest : ∀ week, .qualifies week ∈ readings → week.IsSound tiers today) :
    ∀ week ∈ readings.foldl betterWeek best, week.IsSound tiers today := by
  induction readings generalizing best with
  | nil => exact first
  | cons reading later inductionHypothesis =>
      refine inductionHypothesis ?_ fun week member =>
        rest week (List.mem_cons_of_mem _ member)
      intro week isBest
      unfold betterWeek at isBest
      split at isBest
      · split at isBest
        · exact first week isBest
        · cases isBest
          exact rest week List.mem_cons_self
      · exact first week isBest

theorem weekly_promised (timely : sources.IsTimely now) :
    IsPromised tiers now (weekly sources diary tiers definition) := by
  simp only [weekly]
  split
  · exact promised_of_ne nofun
  · unfold weeklyResult
    split
    · rename_i week isBest
      have sound : week.IsSound tiers sources.today := by
        refine foldl_betterWeek_sound (by simp) ?_ week isBest
        intro other member
        obtain ⟨metric, _, read⟩ := List.mem_map.mp member
        exact readWeek_sound read
      exact eligible_promised sound.member sound.automatic
        (timely _ sound.isOver)
    · split
      · exact promised_of_ne nofun
      · exact promised_of_ne nofun

/-! ## The registry -/

theorem evaluateDiary_promised (timely : sources.IsTimely now)
    (checked : AreChecked definition tiers schema)
    (registered : definition.evaluatorKey ∈ registry) (evaluated :
      evaluateDiary sources diary tiers definition now = some evaluation) :
    IsPromised tiers now evaluation := by
  have head :
      ∀ tier, tiers.head? = some tier → tier.parameters.automatic = some true :=
    fun _ first => checked.head registered first
  unfold evaluateDiary at evaluated
  split at evaluated
  · cases evaluated
    exact weekly_promised timely
  split at evaluated
  · exact training_promised head evaluated
  split at evaluated
  · rename_i key
    exact probation_promised timely checked key evaluated
  · exact independent_promised timely head evaluated

theorem refused_status {refusal : Evaluation}
    (found : refused? journey definition tiers = some refusal) :
    refusal.status ≠ .eligible := by
  unfold refused? at found
  split at found
  · cases found
    nofun
  split at found
  · cases found
    nofun
  split at found
  · cases found
    nofun
  split at found
  · cases found
    nofun
  split at found
  · cases found
    nofun
  split at found
  · cases found
    nofun
  · cases found

/-- What an eligible evaluation promises about the catalog. -/
structure IsGrantable
    (catalog : Achievements.Catalog) (definition : AchievementDefinition)
    (now : Timestamp) (evaluation : Evaluation) : Prop where
  checked : ∃ schema, AreChecked definition (tiersOf catalog definition) schema
  earned : IsEarned (tiersOf catalog definition) now evaluation

/-- Whatever an evaluator finds eligible can be granted. -/
theorem evaluate_grantable {catalog : Achievements.Catalog} {sources : Sources}
    {userId : Pk} {definition : AchievementDefinition} {now : Timestamp}
    {evaluation : Evaluation} (timely : sources.IsTimely now) (evaluated :
      evaluate catalog sources userId definition now = some evaluation)
    (isEligible : evaluation.status = .eligible) :
    IsGrantable catalog definition now evaluation := by
  simp only [evaluate] at evaluated
  split at evaluated
  · rename_i refusal found
    cases evaluated
    exact (refused_status found isEligible).elim
  · rename_i accepted
    obtain ⟨schema, checked⟩ := areChecked_of_accepted accepted
    refine ⟨⟨schema, checked⟩, ?_⟩
    unfold evaluateChecked at evaluated
    split at evaluated
    · cases evaluated
      cases isEligible
    rename_i listed
    have registered := Decidable.not_not.mp listed
    split at evaluated
    · exact sandbox_promised checked registered evaluated isEligible
    split at evaluated
    · cases evaluated
      cases isEligible
    · exact evaluateDiary_promised timely checked registered evaluated
        isEligible

end TicketSandbox.Achievements.Evaluators
