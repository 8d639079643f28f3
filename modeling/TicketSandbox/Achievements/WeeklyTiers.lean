import Mathlib
import TicketSandbox.Achievements.EvaluatorFacts

namespace TicketSandbox.Achievements.Evaluators

/-!
# Tiers of the weekly metrics

Under an accepted history `weekly` selects the highest tier that a finished
week in the required group earns, whatever the order of the metrics.
-/

open Sandbox (Pk Timestamp)
open Reconciliation
open TraineeDiary (Day Diary Session StageHistory)

/-! ## What a week earns -/

/-- The visit lasts over the seven days from the date. -/
structure Covers (visit : StageHistory) (start : Day) : Prop where
  begun : visit.startedAt ≤ start
  lasts : ∀ ended ∈ visit.endedAt, start + 7 ≤ ended

/-- The number of tenths is above the minimum of the tier, or is not below it.
-/
structure Meets (number : Int) (tier : AchievementTier) : Prop where
  automatic : tier.parameters.automatic = some true
  minimum :
    ∃ minimum : Nat, tier.parameters.minimum.bind String.toNat? = some minimum ∧
      10 * (minimum : Int) ≤ number ∧
      (tier.parameters.strict = some true → number ≠ 10 * (minimum : Int))

/-- The metric, with its start, its visit and its value, earns the tier. -/
structure EarnsIn (sources : Sources) (diary : Diary) (isQuality : Bool)
    (tiers : List AchievementTier) (visits : List StageHistory)
    (metric : TraineeDiary.WeeklyMetric) (tier : AchievementTier) (start : Day)
    (visit : StageHistory) (number : Int) : Prop where
  dated : metric.weekStartDate = some start
  finished : start + 7 ≤ sources.today
  visited : visit ∈ visits
  covered : Covers visit start
  required : groupOf? diary visit = some (weeklyGroup isQuality)
  measured : valueOf isQuality metric = some number
  inRange : 0 ≤ number ∧ (isQuality = true → number ≤ 1000)
  listed : tier ∈ tiers
  meets : Meets number tier

/-- The metric is of a finished, dated week that a visit of the required group
covers, and its value meets the tier. -/
def Earns (sources : Sources) (diary : Diary) (isQuality : Bool)
    (tiers : List AchievementTier) (visits : List StageHistory)
    (metric : TraineeDiary.WeeklyMetric) (tier : AchievementTier) : Prop :=
  ∃ start visit number,
    EarnsIn sources diary isQuality tiers visits metric tier start visit number

theorem covers_iff {start : Day} {visit : StageHistory} :
    covers start visit = true ↔ Covers visit start := by
  simp only [covers, Bool.and_eq_true, decide_eq_true_eq, Option.all_eq_true]
  exact ⟨fun ⟨begun, lasts⟩ => ⟨begun, lasts⟩,
    fun covered => ⟨covered.begun, covered.lasts⟩⟩

theorem isReached_iff {number : Int} {tier : AchievementTier} :
    isReached number tier = true ↔ Meets number tier := by
  simp only [isReached, Bool.and_eq_true, decide_eq_true_eq,
    Option.any_eq_true, Option.pure_def, Option.bind_eq_bind]
  constructor
  · rintro ⟨automatic, value, isNumber, reached⟩
    obtain ⟨minimum, found, same⟩ := Option.bind_eq_some_iff.mp isNumber
    cases same
    refine ⟨automatic, minimum, found, ?_⟩
    split at reached
    · have above := of_decide_eq_true reached
      exact ⟨by omega, fun _ => by omega⟩
    · rename_i loose
      exact ⟨of_decide_eq_true reached, fun strict => (loose strict).elim⟩
  · rintro ⟨automatic, minimum, found, least, strict⟩
    refine ⟨automatic, minimum,
      Option.bind_eq_some_iff.mpr ⟨minimum, found, rfl⟩, ?_⟩
    split
    · rename_i isStrict
      have other := strict isStrict
      exact decide_eq_true (by omega)
    · exact decide_eq_true least

/-! ## Visits of a week -/

theorem ended_of_chain
    {visit other : StageHistory} {later : List StageHistory} (chain :
      (visit :: later).IsChain
        fun first next => first.endedAt = some next.startedAt)
    (ordered :
      ∀ row ∈ visit :: later, ∀ ended ∈ row.endedAt, row.startedAt ≤ ended)
    (member : other ∈ later) :
    ∃ ended, visit.endedAt = some ended ∧ ended ≤ other.startedAt := by
  induction later generalizing visit with
  | nil => cases member
  | cons next rest inductionHypothesis =>
      obtain ⟨ends, remains⟩ := List.isChain_cons_cons.mp chain
      refine ⟨next.startedAt, ends, ?_⟩
      rcases List.mem_cons.mp member with rfl | isLater
      · exact Nat.le_refl _
      · obtain ⟨ended, isEnd, before⟩ := inductionHypothesis remains
            (fun row isRow => ordered row (List.mem_cons_of_mem _ isRow))
            isLater
        have lasts := ordered next (by simp) ended isEnd
        exact Nat.le_trans lasts before

variable {visits : List StageHistory} {sources : Sources} {isQuality : Bool}
  {tiers : List AchievementTier} {metric : TraineeDiary.WeeklyMetric}
  {tier : AchievementTier} {others : List TraineeDiary.WeeklyMetric}

theorem covering_of_chain (chain :
      visits.IsChain fun first next => first.endedAt = some next.startedAt)
    (ordered : ∀ row ∈ visits, ∀ ended ∈ row.endedAt, row.startedAt ≤ ended)
    (start : Day) :
    (visits.filter (covers start)).length ≤ 1 := by
  induction visits with
  | nil => simp
  | cons visit later inductionHypothesis =>
      have rest := inductionHypothesis chain.tail fun row member =>
          ordered row (List.mem_cons_of_mem _ member)
      by_cases covered : covers start visit = true
      · have none : later.filter (covers start) = [] := by
          refine List.filter_eq_nil_iff.mpr fun other member again => ?_
          obtain ⟨ended, isEnd, before⟩ := ended_of_chain chain ordered member
          have lasts := (covers_iff.mp covered).lasts ended isEnd
          have begun := (covers_iff.mp again).begun
          have tooLong : start + 7 ≤ start :=
            Nat.le_trans lasts (Nat.le_trans before begun)
          exact Nat.not_succ_le_self start
            (Nat.le_trans (Nat.succ_le_of_lt (Nat.lt_add_of_pos_right
              (Nat.zero_lt_succ 6))) tooLong)
        rw [List.filter_cons_of_pos covered, none]
        exact Nat.le_refl 1
      · rw [List.filter_cons_of_neg covered]
        exact rest

theorem historyFor_covering {session : Session} {today : Day}
    (accepted : TraineeDiary.historyFor? session today = some visits)
    (start : Day) :
    (visits.filter (covers start)).length ≤ 1 := by
  simp only [TraineeDiary.historyFor?] at accepted
  split at accepted
  · cases accepted
  split at accepted
  · rename_i some agree
    cases accepted
    obtain ⟨earlier, last, shape⟩ := List.eq_nil_or_concat'
        (TraineeDiary.chronological session.diary.history) |>.resolve_left
          fun empty => some (.inl empty)
    rw [shape] at agree ⊢
    obtain ⟨each, chain, _⟩ := Session.visitsAgree_append.mp agree
    exact covering_of_chain chain
      (fun row member ended isEnd => ((each row member).2.2 ended isEnd).1)
      start
  · cases accepted

/-! ## The best week -/

theorem highest?_eq_argmax (tiers : List AchievementTier) :
    highest? tiers = tiers.argmax AchievementTier.rank := by
  have same : higher = List.argAux fun tier best : AchievementTier =>
          best.rank < tier.rank := by
    funext best tier
    cases best with
    | none => rfl
    | some other =>
        by_cases least : tier.rank ≤ other.rank
        · simp [higher, List.argAux, least, Nat.not_lt.mpr least]
        · simp [higher, List.argAux, least, Nat.not_le.mp least]
  simp only [highest?, List.argmax, same]

/-- The week of a reading that qualifies. -/
def WeekReading.week? : WeekReading → Option QualifyingWeek
  | .qualifies week => some week
  | _ => none

/-- What weeks are compared by: the rank of the tier, then the value. -/
def QualifyingWeek.key (week : QualifyingWeek) : ℕ ×ₗ ℤ :=
  toLex (week.tier.rank, week.number)

theorem betterWeek_eq (best : Option QualifyingWeek) (reading : WeekReading) :
    betterWeek best reading = reading.week?.elim best (List.argAux
          (fun week other : QualifyingWeek => other.key < week.key) best) := by
  cases reading with
  | ambiguous => rfl
  | passedOver => rfl
  | qualifies week =>
      cases best with
      | none => rfl
      | some other =>
          have less : other.key < week.key ↔
                ¬ (week.tier.rank < other.tier.rank ∨
                  week.tier.rank = other.tier.rank ∧
                    week.number ≤ other.number) := by
            simp only [QualifyingWeek.key, Prod.Lex.toLex_lt_toLex]
            omega
          by_cases greater : other.key < week.key
          · simp [betterWeek, WeekReading.week?, List.argAux, greater,
              less.mp greater]
          · simp [betterWeek, WeekReading.week?, List.argAux, greater,
              not_not.mp (mt less.mpr greater)]

theorem foldl_betterWeek_eq_argmax (readings : List WeekReading) :
    readings.foldl betterWeek none =
      (readings.filterMap WeekReading.week?).argmax QualifyingWeek.key := by
  rw [List.argmax, List.foldl_filterMap]
  congr 1
  funext best reading
  rw [betterWeek_eq]
  cases reading.week? with
  | none => rfl
  | some week => rfl

/-! ## What a metric shows -/

variable {diary : Diary}

theorem readWeek_earns {week : QualifyingWeek} (read :
      readWeek sources diary isQuality tiers visits metric = .qualifies week) :
    Earns sources diary isQuality tiers visits metric week.tier := by
  unfold readWeek at read
  split at read
  · cases read
  rename_i start dated
  split at read
  · cases read
  rename_i finished
  split at read
  · rename_i visit isOnly
    have found : visit ∈ visits.filter (covers start) := by
      rw [isOnly]
      exact List.mem_singleton_self visit
    obtain ⟨visited, covered⟩ := List.mem_filter.mp found
    split at read
    · rename_i required
      unfold readValue at read
      split at read
      · cases read
      rename_i number measured
      split at read
      · cases read
      rename_i inRange
      split at read
      · cases read
      · rename_i tier highest
        cases read
        obtain ⟨listed, reached⟩ := List.mem_filter.mp (highest?_mem highest)
        refine ⟨start, visit, number,
          { dated
            finished := Nat.not_lt.mp finished
            visited
            covered := covers_iff.mp covered
            required
            measured
            inRange := ⟨Int.not_lt.mp fun low => inRange (.inl low), ?_⟩
            listed
            meets := isReached_iff.mp reached }⟩
        intro quality
        exact Int.not_lt.mp fun high => inRange (.inr ⟨quality, high⟩)
    · cases read
  · cases read

theorem Earns.readWeek
    (single : ∀ start, (visits.filter (covers start)).length ≤ 1)
    (earned : Earns sources diary isQuality tiers visits metric tier) :
    ∃ week, Evaluators.readWeek sources diary isQuality tiers visits metric =
          .qualifies week ∧
        tier.rank ≤ week.tier.rank := by
  obtain ⟨start, visit, number, fine⟩ := earned
  have member : visit ∈ visits.filter (covers start) :=
    List.mem_filter.mpr ⟨fine.visited, covers_iff.mpr fine.covered⟩
  have only : visits.filter (covers start) = [visit] := by
    obtain ⟨other, isOther⟩ := List.length_eq_one_iff.mp
        (Nat.le_antisymm (single start) (List.length_pos_of_mem member))
    rw [isOther, List.mem_singleton] at member
    rw [isOther, member]
  have matching : tier ∈ tiers.filter (isReached number) :=
    List.mem_filter.mpr ⟨fine.listed, isReached_iff.mpr fine.meets⟩
  cases highest : highest? (tiers.filter (isReached number)) with
  | none =>
      rw [highest?_eq_argmax, List.argmax_eq_none] at highest
      rw [highest] at matching
      cases matching
  | some best =>
      refine ⟨{ tier := best, number, metric, visit, start }, ?_, ?_⟩
      · have inRange : ¬ (number < 0 ∨ isQuality = true ∧ 1000 < number) := by
          rintro (low | ⟨quality, high⟩)
          · exact Int.not_lt.mpr fine.inRange.1 low
          · exact Int.not_lt.mpr (fine.inRange.2 quality) high
        simp only [Evaluators.readWeek, fine.dated,
          Nat.not_lt.mpr fine.finished, if_false, only, fine.required,
          if_true, readValue, fine.measured, inRange, highest]
      · rw [highest?_eq_argmax] at highest
        exact List.le_of_mem_argmax matching highest

/-! ## What the metrics show -/

/-- The evaluation selects a tier that a metric earns, and no metric earns a
higher one. -/
structure Selects (earns : TraineeDiary.WeeklyMetric → AchievementTier → Prop)
    (metrics : List TraineeDiary.WeeklyMetric) (evaluation : Evaluation)
    (tier : AchievementTier) : Prop where
  code : evaluation.tierCode = some tier.code
  earned : ∃ metric ∈ metrics, earns metric tier
  most :
    ∀ metric ∈ metrics, ∀ other, earns metric other → other.rank ≤ tier.rank

variable (earns : TraineeDiary.WeeklyMetric → AchievementTier → Prop)

/-- The other evaluation is eligible too, and its tier is not lower. -/
def NotLower (metrics more : List TraineeDiary.WeeklyMetric)
    (evaluation other : Evaluation) : Prop :=
  other.status = .eligible ∧ ∀ tier, Selects earns metrics evaluation tier →
      ∃ higher, Selects earns more other higher ∧ tier.rank ≤ higher.rank

/-- The evaluations have one status, and tiers of one rank. -/
def SameTier (metrics : List TraineeDiary.WeeklyMetric)
    (evaluation other : Evaluation) : Prop :=
  other.status = evaluation.status ∧
    ∀ tier, Selects earns metrics evaluation tier →
      ∃ same, Selects earns metrics other same ∧ same.rank = tier.rank

/-- Whether `weekly` reads the quality. -/
def readsQuality (definition : AchievementDefinition) : Bool :=
  decide (definition.evaluatorKey = "review_quality")

/-- What the loop of `weekly` finds when it reads the metrics in this order. -/
def weeklyIn (sources : Sources) (diary : Diary) (tiers : List AchievementTier)
    (definition : AchievementDefinition) (visits : List StageHistory)
    (metrics : List TraineeDiary.WeeklyMetric) : Evaluation :=
  weeklyResult sources (readsQuality definition) (metrics.map
      (readWeek sources diary (readsQuality definition) tiers visits))

/-- The loop selects the highest tier that the metrics earn, or none is
earned. -/
theorem weeklyIn_selects {definition : AchievementDefinition}
    (single : ∀ start, (visits.filter (covers start)).length ≤ 1)
    (metrics : List TraineeDiary.WeeklyMetric) :
    ((weeklyIn sources diary tiers definition visits metrics).status =
          .eligible ∧
        ∃ tier,
          Selects (Earns sources diary (readsQuality definition) tiers visits)
            metrics
            (weeklyIn sources diary tiers definition visits metrics)
            tier) ∨
      ((weeklyIn sources diary tiers definition visits metrics).status ≠
          .eligible ∧
        ∀ metric ∈ metrics, ∀ tier,
          ¬ Earns sources diary (readsQuality definition) tiers visits
            metric tier) := by
  unfold weeklyIn
  generalize readsQuality definition = isQuality
  unfold weeklyResult
  cases best :
      (metrics.map (readWeek sources diary isQuality tiers visits)).foldl
        betterWeek none with
  | none =>
      refine .inr ⟨by dsimp only; split <;> nofun, ?_⟩
      rw [foldl_betterWeek_eq_argmax, List.argmax_eq_none,
        List.filterMap_eq_nil_iff] at best
      intro metric member tier earned
      obtain ⟨week, read, _⟩ := earned.readWeek single
      have isNone := best _ (List.mem_map_of_mem member)
      rw [read] at isNone
      cases isNone
  | some week =>
      rw [foldl_betterWeek_eq_argmax] at best
      refine .inl ⟨rfl, week.tier, rfl, ?_, ?_⟩
      · obtain ⟨reading, isReading, isWeek⟩ :=
          List.mem_filterMap.mp (List.argmax_mem best)
        obtain ⟨metric, member, rfl⟩ := List.mem_map.mp isReading
        refine ⟨metric, member, readWeek_earns ?_⟩
        cases read : readWeek sources diary isQuality tiers visits metric with
        | ambiguous =>
            rw [read] at isWeek
            cases isWeek
        | passedOver =>
            rw [read] at isWeek
            cases isWeek
        | qualifies other =>
            rw [read] at isWeek
            cases isWeek
            rfl
      · intro metric member other earned
        obtain ⟨found, read, least⟩ := earned.readWeek single
        have listed : found ∈ (metrics.map
                (readWeek sources diary isQuality tiers visits)).filterMap
                WeekReading.week? :=
          List.mem_filterMap.mpr
            ⟨_, List.mem_map_of_mem member, by rw [read]; rfl⟩
        have below := List.le_of_mem_argmax listed best
        have rank : found.tier.rank ≤ week.tier.rank := by
          simp only [QualifyingWeek.key, Prod.Lex.toLex_le_toLex] at below
          rcases below with less | ⟨same, _⟩
          · exact Nat.le_of_lt less
          · exact Nat.le_of_eq same
        exact Nat.le_trans least rank

theorem historyFor?_metrics
    (diary : Diary) (metrics : List TraineeDiary.WeeklyMetric) (today : Day) :
    TraineeDiary.historyFor? { diary with metrics }.load today =
      TraineeDiary.historyFor? diary.load today := by
  have same : ∀ visits, { diary with metrics }.load.VisitsAgree today visits ↔
          diary.load.VisitsAgree today visits := by
    intro visits
    induction visits with
    | nil => exact Iff.rfl
    | cons visit later inductionHypothesis =>
        cases later with
        | nil => exact Iff.rfl
        | cons next rest =>
            exact and_congr Iff.rfl (and_congr Iff.rfl inductionHypothesis)
  simp only [TraineeDiary.historyFor?, same]
  rfl

/-- The first metric is read before the second one. -/
def IsReadBefore (first second : TraineeDiary.WeeklyMetric) : Prop :=
  first.weekNumber < second.weekNumber ∨
    first.weekNumber = second.weekNumber ∧ first.id ≤ second.id

instance : DecidableRel IsReadBefore :=
  fun _ _ => inferInstanceAs (Decidable (_ ∨ _))

theorem orderedMetrics_pairwise (diary : Diary) :
    (orderedMetrics diary).Pairwise IsReadBefore := by
  have : Std.Total IsReadBefore := by
    refine ⟨fun first second => ?_⟩
    unfold IsReadBefore
    rcases Nat.lt_trichotomy first.weekNumber second.weekNumber with
      less | same | more
    · exact .inl (.inl less)
    · rcases Nat.le_total first.id second.id with before | after
      · exact .inl (.inr ⟨same, before⟩)
      · exact .inr (.inr ⟨same.symm, after⟩)
    · exact .inr (.inl more)
  have : IsTrans _ IsReadBefore := by
    refine ⟨fun first second third before after => ?_⟩
    unfold IsReadBefore at before after ⊢
    rcases before with less | ⟨same, before⟩
    · rcases after with later | ⟨equal, _⟩
      · exact .inl (Nat.lt_trans less later)
      · exact .inl (equal ▸ less)
    · rcases after with later | ⟨equal, after⟩
      · exact .inl (same ▸ later)
      · exact .inr ⟨same.trans equal, Nat.le_trans before after⟩
  exact List.pairwise_insertionSort IsReadBefore diary.metrics

/-- No metric is lost or doubled by the order. -/
theorem orderedMetrics_perm (diary : Diary) :
    (orderedMetrics diary).Perm diary.metrics :=
  List.perm_insertionSort _ _

variable {metrics : List TraineeDiary.WeeklyMetric}

theorem orderedMetrics_eq
    (keyed : (diary.metrics.map TraineeDiary.WeeklyMetric.id).Nodup)
    (reordered : metrics.Perm diary.metrics) :
    orderedMetrics { diary with metrics } = orderedMetrics diary := by
  refine List.Perm.eq_of_pairwise ?_
    (orderedMetrics_pairwise { diary with metrics })
    (orderedMetrics_pairwise diary)
    (((orderedMetrics_perm { diary with metrics }).trans reordered).trans
      (orderedMetrics_perm diary).symm)
  intro first second isFirst isSecond before after
  have firstMember : first ∈ diary.metrics :=
    reordered.mem_iff.mp ((orderedMetrics_perm _).mem_iff.mp isFirst)
  have secondMember : second ∈ diary.metrics :=
    (orderedMetrics_perm diary).mem_iff.mp isSecond
  have sameId : first.id = second.id := by
    rcases before with less | ⟨same, least⟩
    · rcases after with more | ⟨same, _⟩
      · exact (Nat.lt_asymm less more).elim
      · exact (Nat.ne_of_gt less same).elim
    · rcases after with more | ⟨_, most⟩
      · exact (Nat.ne_of_gt more same).elim
      · exact Nat.le_antisymm least most
  exact List.inj_on_of_nodup_map keyed firstMember secondMember sameId

/-! ## What `weekly` finds -/

theorem weekly_accepted
    (accepted : TraineeDiary.historyFor? diary.load sources.today = some visits)
    (tiers : List AchievementTier) (definition : AchievementDefinition)
    (metrics : List TraineeDiary.WeeklyMetric) :
    weekly sources { diary with metrics } tiers definition =
      weeklyIn sources diary tiers definition visits
        (orderedMetrics { diary with metrics }) := by
  simp only [weekly, historyFor?_metrics, accepted]
  rfl

theorem weeklyResult_status
    (sources : Sources) (isQuality : Bool) (readings : List WeekReading) :
    (weeklyResult sources isQuality readings).status =
      if readings.filterMap WeekReading.week? = [] then
        if .ambiguous ∈ readings then .unknown else .notMet
      else
        .eligible := by
  unfold weeklyResult
  cases best : readings.foldl betterWeek none with
  | none =>
      rw [foldl_betterWeek_eq_argmax, List.argmax_eq_none] at best
      rw [if_pos best]
      by_cases ambiguous : WeekReading.ambiguous ∈ readings
      · simp only [ambiguous, if_true]
        rfl
      · simp only [ambiguous, if_false]
        rfl
  | some week =>
      rw [foldl_betterWeek_eq_argmax] at best
      rw [if_neg (List.ne_nil_of_mem (List.argmax_mem best))]
      rfl

theorem weeklyIn_status (reordered : others.Perm metrics) (sources : Sources)
    (diary : Diary) (tiers : List AchievementTier)
    (definition : AchievementDefinition) (visits : List StageHistory) :
    (weeklyIn sources diary tiers definition visits others).status =
      (weeklyIn sources diary tiers definition visits metrics).status := by
  have readings := reordered.map
      (readWeek sources diary (readsQuality definition) tiers visits)
  have sameLength := (readings.filterMap WeekReading.week?).length_eq
  have noWeek := List.length_eq_zero_iff.symm.trans
      ((Eq.congr_left sameLength).trans List.length_eq_zero_iff)
  simp only [weeklyIn, weeklyResult_status, noWeek, readings.mem_iff]

theorem Selects.reordered
    {earns : TraineeDiary.WeeklyMetric → AchievementTier → Prop}
    {evaluation : Evaluation} (selected : Selects earns metrics evaluation tier)
    (reordered : others.Perm metrics) :
    Selects earns others evaluation tier := by
  obtain ⟨metric, member, earned⟩ := selected.earned
  refine ⟨selected.code, ⟨metric, reordered.mem_iff.mpr member, earned⟩, ?_⟩
  intro other isOther
  exact selected.most other (reordered.mem_iff.mp isOther)

/-- What `weekly` finds under the visits of an accepted history. -/
structure FollowsWeeks (sources : Sources) (diary : Diary)
    (tiers : List AchievementTier) (definition : AchievementDefinition)
    (visits : List StageHistory) : Prop where
  single : ∀ start, (visits.filter (covers start)).length ≤ 1
  eligible_iff : (weekly sources diary tiers definition).status = .eligible ↔
      ∃ metric ∈ diary.metrics, ∃ tier,
        Earns sources diary (readsQuality definition) tiers visits metric tier
  highest : (weekly sources diary tiers definition).status = .eligible → ∃ tier,
        Selects (Earns sources diary (readsQuality definition) tiers visits)
          diary.metrics (weekly sources diary tiers definition) tier
  reordered : ∀ metrics : List TraineeDiary.WeeklyMetric,
      metrics.Perm diary.metrics →
        weekly sources { diary with metrics } tiers definition =
          weekly sources diary tiers definition
  anyOrder : ∀ metrics : List TraineeDiary.WeeklyMetric,
      metrics.Perm diary.metrics →
        SameTier (Earns sources diary (readsQuality definition) tiers visits)
          diary.metrics (weekly sources diary tiers definition)
          (weeklyIn sources diary tiers definition visits metrics)
  added : ∀ metrics : List TraineeDiary.WeeklyMetric, diary.metrics ⊆ metrics →
        (weekly sources diary tiers definition).status = .eligible →
          NotLower (Earns sources diary (readsQuality definition) tiers visits)
            diary.metrics metrics (weekly sources diary tiers definition)
            (weekly sources { diary with metrics } tiers definition)

/-- Under an accepted history `weekly` finds the highest tier of the finished
weeks, whatever the order of the metrics. -/
theorem weekly_followsWeeks
    {sources : Sources} {diary : Diary} {visits : List StageHistory}
    (keyed : (diary.metrics.map TraineeDiary.WeeklyMetric.id).Nodup)
    (accepted : TraineeDiary.historyFor? diary.load sources.today = some visits)
    (tiers : List AchievementTier) (definition : AchievementDefinition) :
    FollowsWeeks sources diary tiers definition visits := by
  have single := historyFor_covering accepted
  have found := weekly_accepted accepted tiers definition
  have here : weekly sources diary tiers definition =
        weeklyIn sources diary tiers definition visits (orderedMetrics diary) :=
    found diary.metrics
  have ordered := orderedMetrics_perm diary
  refine ⟨single, ?_, ?_, ?_, ?_, ?_⟩
  · rw [here]
    rcases weeklyIn_selects single (orderedMetrics diary) with
      ⟨isEligible, tier, selected⟩ | ⟨other, never⟩
    · obtain ⟨metric, member, earned⟩ := selected.earned
      exact iff_of_true isEligible
        ⟨metric, ordered.mem_iff.mp member, tier, earned⟩
    · refine iff_of_false other ?_
      rintro ⟨metric, member, tier, earned⟩
      exact never metric (ordered.mem_iff.mpr member) tier earned
  · intro isEligible
    rw [here] at isEligible ⊢
    rcases weeklyIn_selects single (orderedMetrics diary) with
      ⟨_, tier, selected⟩ | ⟨other, _⟩
    · exact ⟨tier, selected.reordered ordered.symm⟩
    · exact (other isEligible).elim
  · intro metrics reordered
    rw [found, here, orderedMetrics_eq keyed reordered]
  · intro metrics reordered
    rw [here]
    refine ⟨weeklyIn_status (reordered.trans ordered.symm) _ _ _ _ _, ?_⟩
    intro tier selected
    rcases weeklyIn_selects single metrics with
      ⟨_, same, again⟩ | ⟨_, never⟩
    · have listed := again.reordered reordered.symm
      refine ⟨same, listed, Nat.le_antisymm ?_ ?_⟩
      · obtain ⟨metric, member, earned⟩ := listed.earned
        exact selected.most metric member same earned
      · obtain ⟨metric, member, earned⟩ := selected.earned
        exact listed.most metric member tier earned
    · obtain ⟨metric, member, earned⟩ := selected.earned
      exact (never metric (reordered.mem_iff.mpr member) tier earned).elim
  · intro metrics isMore isEligible
    rw [found metrics]
    have all := orderedMetrics_perm { diary with metrics }
    rcases weeklyIn_selects single (orderedMetrics { diary with metrics })
      with ⟨stillEligible, higher, again⟩ | ⟨_, never⟩
    · refine ⟨stillEligible, fun tier selected => ?_⟩
      have listed := again.reordered all.symm
      obtain ⟨metric, member, earned⟩ := selected.earned
      exact ⟨higher, listed, listed.most metric (isMore member) tier earned⟩
    · rw [here] at isEligible
      rcases weeklyIn_selects single (orderedMetrics diary) with
        ⟨_, tier, selected⟩ | ⟨other, _⟩
      · obtain ⟨metric, member, earned⟩ := selected.earned
        have listed : metric ∈ orderedMetrics { diary with metrics } :=
          all.mem_iff.mpr (isMore (ordered.mem_iff.mp member))
        exact (never metric listed tier earned).elim
      · exact (other isEligible).elim

/-- A card with a visit of no days, and a week with review after it. -/
def gradedDiary : Diary where
  stages := [TraineeDiary.sampleStage 1 .optionalReview,
    TraineeDiary.sampleStage 2 .withReview]
  journey := TraineeDiary.sampleJourney 2 0
  history :=
    [{ id := 1
       journeyId := 1
       stageId := 1
       startedAt := 0
       endedAt := some 0
       changedById := none
       note := [] },
      { id := 2
        journeyId := 1
        stageId := 2
        startedAt := 0
        endedAt := none
        changedById := some 1
        note := [] }]
  metrics :=
    [{ id := 1
       journeyId := 1
       weekNumber := 1
       weekStartDate := some 0
       speedHours := none
       qualityPercent := some 95
       mentorComment := []
       nextWeekGoal := [] }]
  transfer := none
  historySequence := 3

/-- The tables of the card, two months after its start. -/
def gradedSources : Sources where
  diary := some gradedDiary
  users := [{ id := 1, isStaff := true }]
  confirmations := []
  completion := none
  attempts := []
  creditAttempts := []
  ledger := SandboxAdvanced.passedProof
  today := 60
  atDate := fun _ => 1
  fingerprint := fun _ => ""
  ledgerEvidence := fun _ => {}
  write := fun _ => ""

/-- The family of the quality under review. -/
def reviewQuality : AchievementDefinition where
  pk := 3
  code := "review_quality"
  kind := .tiered
  active := true
  applicability := .both
  evaluatorKey := "review_quality"
  ruleVersion := 1
  artKey := "quality"

/-- The tier of values above ninety. -/
def aboveNinety : AchievementTier where
  pk := 1
  definitionId := 3
  code := "silver"
  rank := 2
  rarity := "silver"
  parameters :=
    { automatic := some true, minimum := some "90", strict := some true }
  ruleVersion := 1

theorem weekly_followsWeeks_graded :
    FollowsWeeks gradedSources gradedDiary [aboveNinety] reviewQuality
      gradedDiary.history :=
  weekly_followsWeeks (by decide) (by decide) [aboveNinety] reviewQuality

end TicketSandbox.Achievements.Evaluators
