import TicketSandbox.TraineeDiary.QualityFacts

namespace TicketSandbox.TraineeDiary

/-!
# Metrics and moves on one card

Requests that save a weekly metric interleave with requests that move the
card.  The numbers of the weeks stay in order whatever happens; the fixed
quality needs that no metric is graded and no fixed quality carried over from
a copy that the card has left behind.
-/

open Raises
open Runs
open Sandbox (Pk Text)

/-! ## Steps -/

/-- A request that was not refused: what it read and was submitted with, and
the copy that it filled in. -/
structure MetricRequest where
  read : Diary
  isStaff : Bool
  week : Nat
  post : WeeklyPost
  copy : PreparedMetric
  isPrepared : prepareMetric read isStaff week post = .ok copy

/-- The requests on one card, and those whose copies are not written yet. -/
structure MetricRequests where
  requests : Requests
  sequence : Pk
  prepared : List MetricRequest

/-- What a request does. -/
inductive MetricStep where
  | request (action : RequestStep)
  | prepare (isStaff : Bool) (week : Nat) (post : WeeklyPost)
  | save (index : Nat) (accepted : Bool)

/-- The stage that a request names is the one in the catalog. -/
def RequestStep.IsCatalogued (stages : List TraineeStage) :
    RequestStep → Prop
  | .load => True
  | .commit _ _ call => call.IsCatalogued stages

instance (stages : List TraineeStage) (action : RequestStep) :
    Decidable (action.IsCatalogued stages) :=
  match action with
  | .load => inferInstanceAs (Decidable True)
  | .commit _ _ call => inferInstanceAs (Decidable (call.IsCatalogued stages))

namespace MetricRequests

/-- The stored rows of the card. -/
def diary (state : MetricRequests) : Diary :=
  state.requests.diary

/-- The stored metrics. -/
def table (state : MetricRequests) : MetricTable where
  journeyId := state.diary.journey.id
  metrics := state.diary.metrics
  sequence := state.sequence

/-- The metrics are written. -/
def written (state : MetricRequests) (table : MetricTable) : MetricRequests :=
  { state with
    requests :=
      { state.requests with
        diary := { state.diary with metrics := table.metrics } }
    sequence := table.sequence }

/-- A request reads what it needs and fills in its copy, or is refused. -/
def prepare (state : MetricRequests) (isStaff : Bool) (week : Nat)
    (post : WeeklyPost) : MetricRequests :=
  match isPrepared : prepareMetric state.diary isStaff week post with
  | .error _ => state
  | .ok copy =>
      { state with
        prepared := state.prepared ++
          [{ read := state.diary
             isStaff := isStaff
             week := week
             post := post
             copy := copy
             isPrepared := isPrepared }] }

/-- A request writes its copy, or is rolled back. -/
def save (state : MetricRequests) (prepared : PreparedMetric)
    (accepted : Bool) : MetricRequests :=
  match saveMetricWithEvent state.table prepared accepted with
  | .error _ => state
  | .ok table => state.written table

/-- The step function. -/
def step? (state : MetricRequests) : MetricStep → Option MetricRequests
  | .request action =>
      if action.IsCatalogued state.diary.stages then
        (state.requests.step? action).map fun requests =>
          { state with requests := requests }
      else
        none
  | .prepare isStaff week post => some (state.prepare isStaff week post)
  | .save index accepted => do
      let request ← state.prepared[index]?
      some
        { state.save request.copy accepted with
          prepared := state.prepared.eraseIdx index }

/-- No request was made yet. -/
def start (diary : Diary) (sequence : Pk) : MetricRequests where
  requests := { diary := diary, loaded := [] }
  sequence := sequence
  prepared := []

end MetricRequests

/-! ## Saving -/

/-- A save rewrites the row of its copy or adds a week. -/
theorem saveMetricWithEvent_rows
    {table next : MetricTable} {prepared : PreparedMetric} {accepted : Bool}
    (returned : saveMetricWithEvent table prepared accepted = .ok next) :
    (∃ stored,
        table.stored? prepared = some stored ∧ next.sequence = table.sequence ∧
          next.metrics = Rows.modify WeeklyMetric.id stored.id
              (fun _ => prepared.row table.journeyId stored.id)
              table.metrics) ∨
      (table.stored? prepared = none ∧ next.sequence = table.sequence + 1 ∧
        (∀ other ∈ table.metrics, other.weekNumber ≠ prepared.weekNumber) ∧
        next.metrics = table.metrics ++ [prepared.row table.journeyId
              (prepared.id.getD table.sequence)]) := by
  simp only [saveMetricWithEvent, bind_ok, ensure_ok, pure_ok] at returned
  obtain ⟨saved, isSaved, _, _, rfl⟩ := returned
  unfold MetricTable.save at isSaved
  split at isSaved
  · rename_i stored found
    cases isSaved
    exact .inl ⟨stored, found, rfl, rfl⟩
  · rename_i missing
    simp only [MetricTable.insert, bind_ok, ensure_ok, pure_ok] at isSaved
    obtain ⟨_, isNew, rfl⟩ := isSaved
    exact .inr ⟨missing, rfl, isNew, rfl⟩

/-- The copy was made of a stored row, or for a week not beyond the next. -/
def PreparedMetric.Fits
    (prepared : PreparedMetric) (metrics : List WeeklyMetric) : Prop :=
  (∃ stored ∈ metrics,
      prepared.id = some stored.id ∧ stored.weekNumber = prepared.weekNumber) ∨
    (prepared.id = none ∧ 1 ≤ prepared.weekNumber ∧
      prepared.weekNumber ≤ metrics.length + 1)

variable {week : Nat} {action : RequestStep}

theorem prepareMetric_fits {diary : Diary} {isStaff : Bool} {post : WeeklyPost}
    {prepared : PreparedMetric}
    (numbered : Rows.Numbered WeeklyMetric.weekNumber diary.metrics)
    (returned : prepareMetric diary isStaff week post = .ok prepared) :
    prepared.Fits diary.metrics := by
  simp only [prepareMetric, bind_ok, ensure_ok,
    required_ok, pure_ok] at returned
  obtain ⟨_, _, _, _, _, isPositive, _, isNext, _, _, _, _, rfl⟩ := returned
  cases found : metricOf? diary.metrics week with
  | some stored =>
      have isWeek : stored.weekNumber = week := by
        simpa using List.find?_some found
      exact .inl ⟨stored, List.mem_of_find?_eq_some found, rfl, isWeek⟩
  | none =>
      refine .inr ⟨rfl, isPositive, ?_⟩
      have same := isNext found
      rw [lastWeekNumber, numbered.largest] at same
      exact le_of_eq same

/-! ## Calls -/

/-- The request moves the card with the copy that it loaded. -/
structure Requests.Moves
    (state next : Requests) (action : RequestStep) (copy : TraineeJourney)
    (today : Day) (call : Call) (old new : StageGroup) : Prop where
  commits : ∃ index, action = .commit index today call ∧
      state.loaded[index]? = some copy
  enters : call.Enters today { diary := state.diary, journey := copy }
  moves : state.diary.MovesQuality next.diary copy old new
  returns : call.ReturnsToReview → new = .withReview

theorem Requests.step_quality {state next : Requests}
    (unique : (state.diary.stages.map TraineeStage.id).Nodup)
    (catalogued : action.IsCatalogued state.diary.stages)
    (stepped : state.step? action = some next) :
    (∀ copy ∈ next.loaded, copy ∈ state.loaded ∨ copy = state.diary.journey) ∧
      (state.diary.SameQuality next.diary ∨ ∃ copy today call old new,
          state.Moves next action copy today call old new) := by
  cases action with
  | load =>
      obtain rfl := Option.some.inj stepped
      refine ⟨fun copy member => ?_, .inl ⟨rfl, rfl, rfl, rfl⟩⟩
      rcases List.mem_append.mp member with isOld | isNew
      · exact .inl isOld
      · exact .inr (List.mem_singleton.mp isNew)
  | commit index today call =>
      obtain ⟨copy, found, isNext⟩ := Option.bind_eq_some_iff.mp stepped
      obtain rfl := Option.some.inj isNext
      refine ⟨fun other member => .inl (List.mem_of_mem_eraseIdx member), ?_⟩
      rcases @Call.quality call today { diary := state.diary, journey := copy }
          unique catalogued with
        same | ⟨enters, old, new, moves, returns⟩
      · exact .inl same
      · exact .inr ⟨copy, today, call, old, new, ⟨index, rfl, found⟩, enters,
            moves, returns⟩

/-! ## The numbers of the weeks -/

/-- What every step keeps of the metrics and their copies. -/
structure MetricRequests.IsNumbered (state : MetricRequests) : Prop where
  catalog : (state.diary.stages.map TraineeStage.id).Nodup
  weeks : Rows.Numbered WeeklyMetric.weekNumber state.diary.metrics
  ids : (state.diary.metrics.map WeeklyMetric.id).Nodup
  drawn : ∀ metric ∈ state.diary.metrics, metric.id < state.sequence
  fits : ∀ request ∈ state.prepared, request.copy.Fits state.diary.metrics

namespace MetricRequests

variable {state next : MetricRequests} {prepared : PreparedMetric}

theorem IsNumbered.stored {stored : WeeklyMetric} (numbered : state.IsNumbered)
    (fits : prepared.Fits state.diary.metrics)
    (found : state.table.stored? prepared = some stored) :
    stored ∈ state.diary.metrics ∧ stored.weekNumber = prepared.weekNumber := by
  obtain ⟨id, isId, isStored⟩ := Option.bind_eq_some_iff.mp found
  have inTable : stored ∈ state.diary.metrics :=
    List.mem_of_find?_eq_some isStored
  have hasId : stored.id = id := by
    simpa using List.find?_some isStored
  rcases fits with
    ⟨row, rowMember, isRow, week⟩ | ⟨isNew, -⟩
  · have sameId : stored.id = row.id := by
      rw [hasId]
      exact Option.some.inj (isId.symm.trans isRow)
    rw [Rows.eq_of_key numbered.ids inTable rowMember sameId]
    exact ⟨rowMember, week⟩
  · rw [isNew] at isId
    cases isId

theorem fits_of_graded
    {old new : List WeeklyMetric} (rows : ∀ metric ∈ old, ∃ later ∈ new,
        later.id = metric.id ∧ later.weekNumber = metric.weekNumber)
    (grows : old.length ≤ new.length) (fits : prepared.Fits old) :
    prepared.Fits new := by
  rcases fits with ⟨stored, member, isStored, week⟩ | ⟨isNew, low, high⟩
  · obtain ⟨later, laterMember, sameId, sameWeek⟩ := rows stored member
    exact .inl ⟨later, laterMember, sameId ▸ isStored, sameWeek.trans week⟩
  · exact .inr ⟨isNew, low, le_trans high (Nat.add_le_add_right grows 1)⟩

theorem IsNumbered.request (numbered : state.IsNumbered)
    (stepped : state.step? (.request action) = some next) :
    next.IsNumbered := by
  simp only [step?] at stepped
  split at stepped
  · rename_i catalogued
    obtain ⟨requests, moved, rfl⟩ := Option.map_eq_some_iff.mp stepped
    have rows : requests.diary.stages = state.diary.stages ∧
          requests.diary.metrics = state.diary.metrics := by
      rcases (Requests.step_quality numbered.catalog catalogued moved).2 with
        same | ⟨_, _, _, _, _, moved⟩
      · exact ⟨same.stages, same.metrics⟩
      · exact ⟨moved.moves.stages, moved.moves.metrics⟩
    obtain ⟨sameStages, sameMetrics⟩ := rows
    refine ⟨?_, ?_, ?_, ?_, ?_⟩
    · exact sameStages ▸ numbered.catalog
    · exact sameMetrics ▸ numbered.weeks
    · exact sameMetrics ▸ numbered.ids
    · exact sameMetrics ▸ numbered.drawn
    · exact sameMetrics ▸ numbered.fits
  · cases stepped

theorem IsNumbered.prepare (numbered : state.IsNumbered) (isStaff : Bool)
    (week : Nat) (post : WeeklyPost) :
    (state.prepare isStaff week post).IsNumbered := by
  unfold MetricRequests.prepare
  split
  · exact numbered
  · rename_i copy returned
    refine { numbered with fits := fun other member => ?_ }
    rcases List.mem_append.mp member with isOld | isNew
    · exact numbered.fits other isOld
    · cases List.mem_singleton.mp isNew
      exact prepareMetric_fits numbered.weeks returned

/-- Rewriting a row keeps the weeks numbered. -/
theorem IsNumbered.replaced {stored : WeeklyMetric} {table : MetricTable}
    (numbered : state.IsNumbered) (fits : prepared.Fits state.diary.metrics)
    (found : state.table.stored? prepared = some stored)
    (sameSequence : table.sequence = state.sequence) (rows : table.metrics =
        Rows.modify WeeklyMetric.id stored.id
          (fun _ => prepared.row state.diary.journey.id stored.id)
          state.diary.metrics) :
    (state.written table).IsNumbered := by
  obtain ⟨inTable, sameWeek⟩ := numbered.stored fits found
  have isStored {row : WeeklyMetric} (rowMember : row ∈ state.diary.metrics)
      (isRow : row.id = stored.id) :
      row = stored :=
    Rows.eq_of_key numbered.ids rowMember inTable isRow
  have sameWeeks : table.metrics.map WeeklyMetric.weekNumber =
        state.diary.metrics.map WeeklyMetric.weekNumber := by
    rw [rows]
    refine Rows.map_modify fun row rowMember isRow => ?_
    rw [isStored rowMember isRow]
    exact sameWeek.symm
  have sameIds : table.metrics.map WeeklyMetric.id =
        state.diary.metrics.map WeeklyMetric.id := by
    rw [rows]
    exact Rows.map_modify fun row _ isRow => isRow.symm
  have sameLength : table.metrics.length = state.diary.metrics.length := by
    simpa using congrArg List.length sameIds
  refine ⟨numbered.catalog, ?_, ?_, ?_, ?_⟩
  · have weeks := numbered.weeks
    unfold Rows.Numbered at weeks ⊢
    exact sameWeeks.trans (sameLength ▸ weeks)
  · exact sameIds ▸ numbered.ids
  · intro metric isMember
    have isId : metric.id ∈ state.diary.metrics.map WeeklyMetric.id :=
      sameIds ▸ List.mem_map_of_mem isMember
    obtain ⟨old, oldMember, same⟩ := List.mem_map.mp isId
    have below := numbered.drawn old oldMember
    rw [same, ← sameSequence] at below
    exact below
  · intro other isMember
    refine fits_of_graded ?_ sameLength.ge (numbered.fits other isMember)
    intro metric isMetric
    have inRows : (if metric.id = stored.id then
            prepared.row state.diary.journey.id stored.id
          else metric) ∈ table.metrics := by
      rw [rows]
      exact List.mem_map_of_mem isMetric
    refine ⟨_, inRows, ?_⟩
    split
    · rename_i isRow
      rw [isStored isMetric isRow]
      exact ⟨rfl, sameWeek.symm⟩
    · exact ⟨rfl, rfl⟩

theorem IsNumbered.week_mem (numbered : state.IsNumbered) (low : 1 ≤ week)
    (high : week ≤ state.diary.metrics.length) :
    ∃ metric ∈ state.diary.metrics, metric.weekNumber = week := by
  have inRange : week ∈ state.diary.metrics.map WeeklyMetric.weekNumber := by
    have weeks := numbered.weeks
    unfold Rows.Numbered at weeks
    rw [weeks, List.mem_range'_1]
    omega
  exact List.mem_map.mp inRange

theorem IsNumbered.added {table : MetricTable} (numbered : state.IsNumbered)
    (fits : prepared.Fits state.diary.metrics)
    (nextSequence : table.sequence = state.sequence + 1) (isNew :
      ∀ other ∈ state.diary.metrics, other.weekNumber ≠ prepared.weekNumber)
    (rows : table.metrics = state.diary.metrics ++
          [prepared.row state.diary.journey.id
            (prepared.id.getD state.sequence)]) :
    (state.written table).IsNumbered := by
  rcases fits with
    ⟨stored, inTable, isStored, week⟩ | ⟨noId, low, high⟩
  · exact (isNew stored inTable week).elim
  · have isLast : prepared.weekNumber = state.diary.metrics.length + 1 := by
      by_contra differs
      obtain ⟨metric, isMetric, week⟩ := numbered.week_mem low (by omega)
      exact isNew metric isMetric week
    rw [noId, Option.getD_none] at rows
    refine ⟨numbered.catalog, ?_, ?_, ?_, ?_⟩
    · change Rows.Numbered WeeklyMetric.weekNumber table.metrics
      rw [rows]
      exact
        numbered.weeks.append (isLast.trans (by rw [numbered.weeks.largest]))
    · change (table.metrics.map WeeklyMetric.id).Nodup
      rw [rows]
      exact Rows.nodup_append_new numbered.ids fun other isMember =>
          (numbered.drawn other isMember).ne
    · change ∀ metric ∈ table.metrics, metric.id < table.sequence
      rw [rows, nextSequence]
      intro metric isMember
      rcases List.mem_append.mp isMember with isOld | isAdded
      · exact Nat.lt_succ_of_lt (numbered.drawn metric isOld)
      · cases List.mem_singleton.mp isAdded
        exact Nat.lt_succ_self _
    · intro other isMember
      change other.copy.Fits table.metrics
      rw [rows]
      refine fits_of_graded ?_ (by simp) (numbered.fits other isMember)
      exact fun metric isMetric =>
        ⟨metric, List.mem_append_left _ isMetric, rfl, rfl⟩

theorem IsNumbered.save (numbered : state.IsNumbered)
    (fits : prepared.Fits state.diary.metrics) (accepted : Bool) :
    (state.save prepared accepted).IsNumbered := by
  unfold MetricRequests.save
  split
  · exact numbered
  · rename_i table returned
    rcases saveMetricWithEvent_rows returned with
      ⟨stored, found, sameSequence, rows⟩ |
      ⟨-, nextSequence, isNew, rows⟩
    · exact numbered.replaced fits found sameSequence rows
    · exact numbered.added fits nextSequence isNew rows

/-- A step keeps the weeks numbered. -/
theorem IsNumbered.step {action : MetricStep} (numbered : state.IsNumbered)
    (stepped : state.step? action = some next) :
    next.IsNumbered := by
  cases action with
  | request action => exact numbered.request stepped
  | prepare isStaff week post =>
      obtain rfl := Option.some.inj stepped
      exact numbered.prepare isStaff week post
  | save index accepted =>
      obtain ⟨request, found, isNext⟩ := Option.bind_eq_some_iff.mp stepped
      obtain rfl := Option.some.inj isNext
      have saved := numbered.save
        (numbered.fits request (List.mem_of_getElem? found)) accepted
      refine { saved with fits := fun other member => saved.fits other ?_ }
      have same :
          (state.save request.copy accepted).prepared = state.prepared := by
        unfold MetricRequests.save
        split <;> rfl
      rw [same]
      exact List.mem_of_mem_eraseIdx member

end MetricRequests

end TicketSandbox.TraineeDiary
