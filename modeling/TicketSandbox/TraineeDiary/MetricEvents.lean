import TicketSandbox.Library.Chains
import TicketSandbox.Library.Decimals
import TicketSandbox.TraineeDiary.WeeklyMetricRuns

namespace TicketSandbox.TraineeDiary

/-!
# The source events of the weekly metrics

`metric_values` and `save_metric_with_event` of `services/events.py`.  The
values before a save are rendered from the row that the database returns, the
values after it from the copy in memory, whose speed is still as it was typed.
-/

open Chains (Linked)
open Decimals (Decimal)
open Raises
open Runs
open Sandbox (Pk Text strip)

/-! ## Values -/

/-- What `metric_values` renders. -/
structure MetricValues where
  metricId : Pk
  journeyId : Pk
  weekNumber : Nat
  weekStartDate : Option Day
  qualityPercent : Option Nat
  speedHours : Option Text
  deriving Repr, DecidableEq

/-- A decimal that the column of the speed accepts: at most five digits, one
of them behind the point, and not below zero. -/
def IsSpeed (speed : Decimal) : Prop :=
  let whole :=
    if speed.exponent < 0 then max speed.digits.length speed.exponent.natAbs
    else if speed.coefficient = 0 then 1
    else speed.digits.length + speed.exponent.natAbs
  let decimals := if speed.exponent < 0 then speed.exponent.natAbs else 0
  whole ≤ 5 ∧ decimals ≤ 1 ∧ whole - decimals ≤ 4 ∧
    (speed.isNegative = true → speed.coefficient = 0)
  deriving Decidable

/-- What a valid `WeeklyMetricForm` is submitted with, and the date that the
view computes for a week without one. -/
structure MetricForm where
  speedHours : { speed : Decimal // IsSpeed speed }
  isQualityRequired : Bool
  qualityPercent : Nat
  mentorComment : Text
  nextWeekGoal : Text
  startDate : Day

namespace MetricForm

/-- The speed as it was typed. -/
def speed (form : MetricForm) : Decimal :=
  form.speedHours.val

/-- What the form is submitted with. -/
def post (form : MetricForm) : WeeklyPost where
  speedHours := .value form.speed.tenths
  qualityPercent := .value form.qualityPercent
  mentorComment := form.mentorComment
  nextWeekGoal := form.nextWeekGoal

/-- The copy that the form fills in. -/
def fill (form : MetricForm) (week : Nat) (existing : Option WeeklyMetric) :
    PreparedMetric :=
  preparedMetric existing week form.startDate form.isQualityRequired form.post

end MetricForm

/-- The quality, the speed or the date of the rows differ. -/
def WeeklyMetric.Differs (first second : WeeklyMetric) : Prop :=
  first.qualityPercent ≠ second.qualityPercent ∨
    first.speedHours ≠ second.speedHours ∨
    first.weekStartDate ≠ second.weekStartDate
  deriving Decidable

/-- `metric_values` of a row that was read. -/
def WeeklyMetric.rendered (metric : WeeklyMetric) : MetricValues where
  metricId := metric.id
  journeyId := metric.journeyId
  weekNumber := metric.weekNumber
  weekStartDate := metric.weekStartDate
  qualityPercent := metric.qualityPercent
  speedHours :=
    metric.speedHours.map fun tenths => (Decimal.ofTenths tenths.toNat).str

/-- The values are those of the row, its speed written in one of the ways that
the form accepts. -/
def MetricValues.Describes
    (values : MetricValues) (metric : WeeklyMetric) : Prop :=
  ∃ speed : Decimal, IsSpeed speed ∧
    metric.speedHours = some (speed.tenths : Int) ∧
    values = { metric.rendered with speedHours := some speed.str }

/-- `metric_values` of a copy that was just saved under the primary key. -/
def PreparedMetric.rendered
    (prepared : PreparedMetric) (journeyId id : Pk) (speed : Decimal) :
    MetricValues where
  metricId := id
  journeyId := journeyId
  weekNumber := prepared.weekNumber
  weekStartDate := some prepared.weekStartDate
  qualityPercent := prepared.qualityPercent
  speedHours := some speed.str

/-! ## The transaction -/

/-- A `weekly_metric` source event; `uuid` numbers the generated part of its
external id. -/
structure MetricEvent where
  uuid : Nat
  userId : Pk
  journeyId : Pk
  values : MetricValues
  previousValues : Option MetricValues
  actorId : Pk
  availableAt : Option Day
  deriving Repr, DecidableEq

/-- The user who saves. -/
structure MetricActor where
  id : Pk
  isStaff : Bool

/-- The metrics of one card, the rows that requests have read for their weeks,
and the source events. -/
structure MetricLog where
  userId : Pk
  table : MetricTable
  copies : List (Nat × Option WeeklyMetric)
  events : List MetricEvent
  deriving Repr, DecidableEq

/-- What a request does. -/
inductive MetricAction where
  | read (week : Nat)
  | save (index : Nat) (form : MetricForm) (actor : MetricActor)

namespace MetricLog

/-- No metric was saved yet. -/
def start (userId journeyId sequence : Pk) : MetricLog where
  userId := userId
  table := { journeyId := journeyId, metrics := [], sequence := sequence }
  copies := []
  events := []

/-- The primary key that the copy is saved under. -/
def idOf (log : MetricLog) (prepared : PreparedMetric) : Pk :=
  match log.table.stored? prepared with
  | some stored => stored.id
  | none => prepared.id.getD log.table.sequence

/-- The event of a save, available when the week of a new metric is over. -/
def eventOf (log : MetricLog) (prepared : PreparedMetric) (speed : Decimal)
    (actor : MetricActor) : MetricEvent where
  uuid := log.events.length
  userId := log.userId
  journeyId := log.table.journeyId
  values := prepared.rendered log.table.journeyId (log.idOf prepared) speed
  previousValues := (log.table.stored? prepared).map WeeklyMetric.rendered
  actorId := actor.id
  availableAt :=
    if (log.table.stored? prepared).isSome = true then none
    else some (prepared.weekStartDate + 7)

/-- `save_metric_with_event`. -/
def saveMetricWithEvent
    (log : MetricLog) (prepared : PreparedMetric) (speed : Decimal)
    (actor : MetricActor) : Except MetricRefusal MetricLog := do
  ensure (actor.isStaff = true) .permissionDenied
  let event := log.eventOf prepared speed actor
  let table ← log.table.save prepared
  if event.previousValues = some event.values then
    pure { log with table := table }
  else
    pure { log with table := table, events := log.events ++ [event] }

/-- The log after the call, which a refusal rolls back. -/
def called (log : MetricLog) (prepared : PreparedMetric) (speed : Decimal)
    (actor : MetricActor) : MetricLog :=
  match log.saveMetricWithEvent prepared speed actor with
  | .error _ => log
  | .ok next => next

/-- The step function. -/
def step? (log : MetricLog) : MetricAction → Option MetricLog
  | .read week =>
      some
        { log with
          copies := log.copies ++ [(week, metricOf? log.table.metrics week)] }
  | .save index form actor => do
      let copy ← log.copies[index]?
      some
        { log.called (form.fill copy.1 copy.2) form.speed actor with
          copies := log.copies.eraseIdx index }

/-- The events of one metric, in the order they were published. -/
def eventsOf (log : MetricLog) (id : Pk) : List MetricEvent :=
  log.events.filter fun event => decide (event.values.metricId = id)

/-- The later event follows the earlier one, the first follows none. -/
def Follows (earlier : Option MetricEvent) (event : MetricEvent) : Prop :=
  event.previousValues = earlier.map MetricEvent.values
  deriving Decidable

/-- A metric is new, or its quality, speed or date changed. -/
def Changes (log next : MetricLog) : Prop :=
  ∃ metric ∈ next.table.metrics, ∀ previous ∈ log.table.metrics,
    previous.id = metric.id → previous.Differs metric
  deriving Decidable

/-- The events of every metric form a chain whose last one describes the
stored row. -/
structure IsChained (log : MetricLog) : Prop where
  chains : ∀ id, Linked Follows none (log.eventsOf id)
  ends : ∀ metric ∈ log.table.metrics,
      ∃ event, (log.eventsOf metric.id).getLast? = some event ∧
        event.values.Describes metric

/-- The row that the copy is saved as. -/
def rowOf (log : MetricLog) (prepared : PreparedMetric) : WeeklyMetric :=
  prepared.row log.table.journeyId (log.idOf prepared)

/-- The texts of the speeds agree: where the copy changes the stored row, the
last event was published with the text that the row is rendered with; where it
leaves the row as it is, its own speed is typed with one fraction digit and no
minus. -/
def IsTyped
    (log : MetricLog) (prepared : PreparedMetric) (speed : Decimal) : Prop :=
  ∀ stored ∈ log.table.stored? prepared,
    if stored.Differs (log.rowOf prepared) then
      ∀ event ∈ (log.eventsOf stored.id).getLast?,
        event.values.speedHours = stored.rendered.speedHours
    else
      speed.IsPlain
  deriving Decidable

/-- What every run keeps of the rows. -/
structure IsKept (log : MetricLog) : Prop extends log.IsChained where
  unique : (log.table.metrics.map WeeklyMetric.id).Nodup
  stored : ∀ metric ∈ log.table.metrics, metric.id < log.table.sequence ∧
        metric.journeyId = log.table.journeyId ∧
        ∃ tenths : Nat, metric.speedHours = some (tenths : Int)
  events : ∀ event ∈ log.events, event.values.metricId < log.table.sequence
  copies : ∀ week copy, (week, some copy) ∈ log.copies →
      ∃ metric ∈ log.table.metrics,
        metric.id = copy.id ∧ metric.weekNumber = week

end MetricLog

/-- The texts of the speeds agree wherever staff save a copy. -/
def MetricAction.IsTyped (log : MetricLog) : MetricAction → Prop
  | .read _ => True
  | .save index form actor =>
      actor.isStaff = true → ∀ copy ∈ log.copies[index]?,
          log.IsTyped (form.fill copy.1 copy.2) form.speed

instance (log : MetricLog) : DecidablePred (MetricAction.IsTyped log)
  | .read _ => inferInstanceAs (Decidable True)
  | .save index form actor =>
      inferInstanceAs (Decidable (actor.isStaff = true →
          ∀ copy ∈ log.copies[index]?,
            log.IsTyped (form.fill copy.1 copy.2) form.speed))

/-! ## One save -/

variable {log next : MetricLog} {prepared : PreparedMetric} {speed : Decimal}
  {actor : MetricActor}

theorem IsSpeed.places (accepted : IsSpeed speed) : -1 ≤ speed.exponent := by
  have decimals := accepted.2.1
  split at decimals
  · omega
  · omega

theorem MetricValues.Describes.of_rendered {values : MetricValues}
    {first second : WeeklyMetric} (describes : values.Describes first)
    (same : first.rendered = second.rendered)
    (speeds : first.speedHours = second.speedHours) :
    values.Describes second := by
  obtain ⟨speed, accepted, isSpeed, isValues⟩ := describes
  exact ⟨speed, accepted, speeds ▸ isSpeed, same ▸ isValues⟩

theorem PreparedMetric.rendered_row
    (plain : speed.IsPlain) (typed : prepared.speedHours = some speed.tenths)
    (journeyId id : Pk) :
    prepared.rendered journeyId id speed =
      (prepared.row journeyId id).rendered := by
  simp only [PreparedMetric.rendered, WeeklyMetric.rendered,
    PreparedMetric.row, typed, Option.map_some, Int.ofNat_eq_natCast,
    Int.toNat_natCast, plain.ofTenths]

/-- The row is rendered as the copy exactly when the copy changes nothing and
its speed has the text of the stored number. -/
theorem WeeklyMetric.rendered_eq_iff
    {stored : WeeklyMetric} {low : Nat} {journeyId : Pk}
    (accepted : IsSpeed speed) (typed : prepared.speedHours = some speed.tenths)
    (sameJourney : stored.journeyId = journeyId)
    (sameWeek : stored.weekNumber = prepared.weekNumber)
    (isSpeed : stored.speedHours = some (low : Int)) :
    stored.rendered = prepared.rendered journeyId stored.id speed ↔
      ¬ stored.Differs (prepared.row journeyId stored.id) ∧
        speed.IsPlain := by
  have texts : (Decimal.ofTenths low).str = speed.str ↔
      low = speed.tenths ∧ speed.IsPlain := by
    constructor
    · intro same
      have plain := Decimal.isPlain_of_str accepted.places same.symm
      rw [← plain.ofTenths] at same
      exact ⟨Decimal.str_ofTenths_injective same, plain⟩
    · rintro ⟨rfl, plain⟩
      rw [plain.ofTenths]
  simp only [WeeklyMetric.rendered, PreparedMetric.rendered,
    WeeklyMetric.Differs, PreparedMetric.row, MetricValues.mk.injEq,
    sameJourney, sameWeek, isSpeed, typed, Option.map_some,
    Int.ofNat_eq_natCast, Int.toNat_natCast, Option.some.injEq, texts,
    Int.natCast_inj, true_and, ne_eq, not_or, not_not]
  constructor
  · rintro ⟨dates, qualities, speeds, plain⟩
    exact ⟨⟨qualities, speeds, dates⟩, plain⟩
  · rintro ⟨⟨qualities, speeds, dates⟩, plain⟩
    exact ⟨dates, qualities, speeds, plain⟩

namespace MetricLog

theorem saveMetricWithEvent_ok
    (returned : log.saveMetricWithEvent prepared speed actor = .ok next) :
    ∃ table, log.table.save prepared = .ok table ∧ next =
          { log with
            table := table
            events := log.events ++
                if (log.eventOf prepared speed actor).previousValues =
                    some (log.eventOf prepared speed actor).values then
                  []
                else
                  [log.eventOf prepared speed actor] } := by
  simp only [saveMetricWithEvent, bind_ok, ensure_ok] at returned
  obtain ⟨_, _, table, saved, written⟩ := returned
  refine ⟨table, saved, ?_⟩
  split at written
  · rename_i same
    simp only [pure_ok] at written
    rw [if_pos same, List.append_nil]
    exact written.symm
  · rename_i differs
    simp only [pure_ok] at written
    rw [if_neg differs]
    exact written.symm

variable {table : MetricTable}

theorem save_rows (saved : log.table.save prepared = .ok table) :
    (∃ stored, log.table.stored? prepared = some stored ∧
          table.sequence = log.table.sequence ∧
          table.metrics = Rows.modify WeeklyMetric.id stored.id
              (fun _ => prepared.row log.table.journeyId stored.id)
              log.table.metrics) ∨
      (log.table.stored? prepared = none ∧
        table.sequence = log.table.sequence + 1 ∧
        (∀ other ∈ log.table.metrics, other.weekNumber ≠ prepared.weekNumber) ∧
        table.metrics = log.table.metrics ++ [prepared.row log.table.journeyId
              (prepared.id.getD log.table.sequence)]) := by
  have returned :
      TraineeDiary.saveMetricWithEvent log.table prepared true = .ok table :=
    bind_ok.mpr ⟨table, saved, bind_ok.mpr ⟨(), ensure_ok.mpr (.inr rfl), rfl⟩⟩
  exact saveMetricWithEvent_rows returned

/-- The copy was made of a row that is still stored, or of none. -/
def Fits (log : MetricLog) (prepared : PreparedMetric) : Prop :=
  ∀ id, prepared.id = some id → ∃ metric ∈ log.table.metrics,
      metric.id = id ∧ metric.weekNumber = prepared.weekNumber

/-- What a save of a copy does to the rows. -/
structure IsSaved (log : MetricLog) (prepared : PreparedMetric)
    (table : MetricTable) : Prop where
  journeyId : table.journeyId = log.table.journeyId
  rows : ∀ metric, metric ∈ table.metrics ↔ metric = log.rowOf prepared ∨
          (metric ∈ log.table.metrics ∧ metric.id ≠ log.idOf prepared)
  unique : (table.metrics.map WeeklyMetric.id).Nodup
  previous : ∀ metric ∈ log.table.metrics, metric.id = log.idOf prepared →
        log.table.stored? prepared = some metric
  replaced : ∀ metric, log.table.stored? prepared = some metric →
        metric ∈ log.table.metrics ∧ metric.id = log.idOf prepared ∧
          metric.weekNumber = prepared.weekNumber
  added : log.table.stored? prepared = none →
      log.idOf prepared = log.table.sequence
  sequence : log.table.sequence ≤ table.sequence
  below : log.idOf prepared < table.sequence

/-- What a save of a copy that fits has written. -/
theorem IsKept.isSaved (kept : log.IsKept) (fits : log.Fits prepared)
    (saved : log.table.save prepared = .ok table) :
    log.IsSaved prepared table := by
  have sameJourney : table.journeyId = log.table.journeyId := by
    simp only [MetricTable.save, MetricTable.insert] at saved
    split at saved
    · cases saved
      rfl
    · obtain ⟨_, _, written⟩ := bind_ok.mp saved
      cases written
      rfl
  have same : ∀ first ∈ log.table.metrics, ∀ second ∈ log.table.metrics,
      first.id = second.id → first = second := fun first isFirst second
      isSecond => List.inj_on_of_nodup_map kept.unique isFirst isSecond
  rcases save_rows saved with
    ⟨stored, found, sequence, metrics⟩ | ⟨missing, sequence, _, metrics⟩
  · have isId : log.idOf prepared = stored.id := by
      rw [idOf, found]
    have member :
        stored ∈ log.table.metrics ∧ prepared.id = some stored.id := by
      obtain ⟨id, isSome, isFound⟩ := Option.bind_eq_some_iff.mp found
      have sameId := List.find?_some isFound
      rw [decide_eq_true_eq] at sameId
      exact ⟨List.mem_of_find?_eq_some isFound, by rw [isSome, sameId]⟩
    have isRow :
        log.rowOf prepared = prepared.row log.table.journeyId stored.id := by
      rw [rowOf, isId]
    refine
      { journeyId := sameJourney
        rows := ?_
        unique := ?_
        previous := ?_
        replaced := ?_
        added := fun missing => ?_
        sequence := Nat.le_of_eq sequence.symm
        below := ?_ }
    · intro metric
      rw [metrics, Rows.mem_modify, isRow, isId]
      constructor
      · rintro ⟨old, isOld, ⟨_, rfl⟩ | ⟨differs, rfl⟩⟩
        · exact .inl rfl
        · exact .inr ⟨isOld, differs⟩
      · rintro (rfl | ⟨isOld, differs⟩)
        · exact ⟨stored, member.1, .inl ⟨rfl, rfl⟩⟩
        · exact ⟨metric, isOld, .inr ⟨differs, rfl⟩⟩
    · have sameIds : table.metrics.map WeeklyMetric.id =
            log.table.metrics.map WeeklyMetric.id := by
        rw [metrics]
        exact Rows.map_modify fun row _ isStored => isStored.symm
      rw [sameIds]
      exact kept.unique
    · intro metric isMetric sameId
      rw [found, same metric isMetric stored member.1 (sameId.trans isId)]
    · intro metric isStored
      obtain rfl := Option.some.inj (found.symm.trans isStored)
      obtain ⟨other, isOther, sameId, week⟩ := fits stored.id member.2
      rw [same other isOther stored member.1 sameId] at week
      exact ⟨member.1, isId.symm, week⟩
    · rw [found] at missing
      cases missing
    · rw [isId, sequence]
      exact (kept.stored stored member.1).1
  · have noId : prepared.id = none := by
      refine Option.eq_none_iff_forall_ne_some.mpr fun id isId => ?_
      obtain ⟨other, isOther, sameId, _⟩ := fits id isId
      rw [MetricTable.stored?, isId, Option.bind_some,
        List.find?_eq_none] at missing
      exact missing other isOther (decide_eq_true sameId)
    have isId : log.idOf prepared = log.table.sequence := by
      rw [idOf, missing, noId]
      rfl
    have isRow : log.rowOf prepared =
          prepared.row log.table.journeyId log.table.sequence := by
      rw [rowOf, isId]
    have apart : ∀ metric ∈ log.table.metrics,
        metric.id ≠ log.table.sequence := fun metric isMetric =>
      Nat.ne_of_lt (kept.stored metric isMetric).1
    rw [noId, Option.getD_none, ← isRow] at metrics
    refine
      { journeyId := sameJourney
        rows := ?_
        unique := ?_
        previous := ?_
        replaced := ?_
        added := fun _ => isId
        sequence := by rw [sequence]; exact Nat.le_succ _
        below := by rw [isId, sequence]; exact Nat.lt_succ_self _ }
    · intro metric
      rw [metrics, List.mem_append, List.mem_singleton, isId]
      constructor
      · rintro (isOld | isNew)
        · exact .inr ⟨isOld, apart metric isOld⟩
        · exact .inl isNew
      · rintro (isNew | ⟨isOld, _⟩)
        · exact .inr isNew
        · exact .inl isOld
    · rw [metrics, List.map_append, List.map_singleton]
      refine List.Nodup.append kept.unique (List.nodup_singleton _) ?_
      rw [List.disjoint_singleton]
      intro member
      obtain ⟨metric, isMetric, sameId⟩ := List.mem_map.mp member
      rw [isRow] at sameId
      exact apart metric isMetric sameId
    · intro metric isMetric sameId
      exact (apart metric isMetric (sameId.trans isId)).elim
    · intro metric isStored
      rw [missing] at isStored
      cases isStored

theorem IsKept.previousValues_eq_iff {stored : WeeklyMetric} (kept : log.IsKept)
    (isSaved : log.IsSaved prepared table) (accepted : IsSpeed speed)
    (isTyped : prepared.speedHours = some speed.tenths)
    (found : log.table.stored? prepared = some stored) :
    (log.eventOf prepared speed actor).previousValues =
        some (log.eventOf prepared speed actor).values ↔
      ¬ stored.Differs (log.rowOf prepared) ∧ speed.IsPlain := by
  obtain ⟨member, sameId, sameWeek⟩ := isSaved.replaced stored found
  obtain ⟨_, sameJourney, tenths, isSpeed⟩ := kept.stored stored member
  have agree := WeeklyMetric.rendered_eq_iff accepted isTyped sameJourney
    sameWeek isSpeed
  rw [sameId] at agree
  rw [rowOf, ← agree, eventOf, found, Option.map_some, Option.some_inj]

theorem IsKept.changes_iff (kept : log.IsKept)
    (isSaved : log.IsSaved prepared next.table) (accepted : IsSpeed speed)
    (isTyped : prepared.speedHours = some speed.tenths)
    (typed : log.IsTyped prepared speed) :
    log.Changes next ↔ (log.eventOf prepared speed actor).previousValues ≠
        some (log.eventOf prepared speed actor).values := by
  constructor
  · rintro ⟨metric, member, differs⟩ same
    obtain ⟨stored, found, _⟩ := Option.map_eq_some_iff.mp same
    obtain ⟨isOld, sameId, _⟩ := isSaved.replaced stored found
    obtain ⟨unchanged, _⟩ :=
      (kept.previousValues_eq_iff isSaved accepted isTyped found).mp same
    rcases (isSaved.rows metric).mp member with rfl | ⟨isOld, apart⟩
    · exact unchanged (differs stored isOld sameId)
    · have unchanged := differs metric isOld rfl
      simp [WeeklyMetric.Differs] at unchanged
  · intro published
    refine ⟨log.rowOf prepared, (isSaved.rows _).mpr (.inl rfl), ?_⟩
    intro stored isOld sameId
    have found := isSaved.previous stored isOld sameId
    refine not_not.mp fun unchanged => published ?_
    have plain := typed stored found
    rw [if_neg unchanged] at plain
    exact (kept.previousValues_eq_iff isSaved accepted isTyped found).mpr
      ⟨unchanged, plain⟩

/-- A published event follows the last one of its metric. -/
theorem IsKept.previousValues (kept : log.IsKept)
    (isSaved : log.IsSaved prepared table) (accepted : IsSpeed speed)
    (isTyped : prepared.speedHours = some speed.tenths)
    (typed : log.IsTyped prepared speed)
    (published : (log.eventOf prepared speed actor).previousValues ≠
        some (log.eventOf prepared speed actor).values) :
    (log.eventOf prepared speed actor).previousValues =
      ((log.eventsOf (log.idOf prepared)).getLast?).map MetricEvent.values := by
  cases found : log.table.stored? prepared with
  | some stored =>
      obtain ⟨member, sameId, _⟩ := isSaved.replaced stored found
      obtain ⟨last, isLast, speed, _, _, isValues⟩ := kept.ends stored member
      have texts := typed stored found
      split at texts
      · have isRow : last.values = stored.rendered := by
          have isText := texts last isLast
          simp only [isValues] at isText ⊢
          rw [isText]
        rw [← sameId, isLast, eventOf, found, Option.map_some, Option.map_some,
          isRow]
      · rename_i unchanged
        exact absurd
          ((kept.previousValues_eq_iff isSaved accepted isTyped found).mpr
            ⟨unchanged, texts⟩)
          published
  | none =>
      have noEvents : log.eventsOf (log.idOf prepared) = [] := by
        rw [eventsOf, List.filter_eq_nil_iff, isSaved.added found]
        intro event member
        rw [decide_eq_true_eq]
        exact Nat.ne_of_lt (kept.events event member)
      rw [noEvents, eventOf, found]
      rfl

/-- A save that publishes nothing leaves the last event describing the row. -/
theorem IsKept.describes (kept : log.IsKept)
    (isSaved : log.IsSaved prepared table) (accepted : IsSpeed speed)
    (isTyped : prepared.speedHours = some speed.tenths)
    (same : (log.eventOf prepared speed actor).previousValues =
        some (log.eventOf prepared speed actor).values) :
    ∃ event, (log.eventsOf (log.idOf prepared)).getLast? = some event ∧
      event.values.Describes (log.rowOf prepared) := by
  obtain ⟨stored, found, isValues⟩ := Option.map_eq_some_iff.mp same
  obtain ⟨member, sameId, _⟩ := isSaved.replaced stored found
  obtain ⟨unchanged, plain⟩ :=
    (kept.previousValues_eq_iff isSaved accepted isTyped found).mp same
  obtain ⟨last, isLast, describes⟩ := kept.ends stored member
  refine ⟨last, sameId ▸ isLast, describes.of_rendered ?_ ?_⟩
  · rw [isValues]
    exact PreparedMetric.rendered_row plain isTyped _ _
  · rw [WeeklyMetric.Differs, not_or, not_or, not_not, not_not, not_not]
      at unchanged
    exact unchanged.2.1

theorem not_changes_self (same : next.table = log.table) :
    ¬ log.Changes next := by
  rintro ⟨metric, member, differs⟩
  rw [same] at member
  have unchanged := differs metric member rfl
  simp [WeeklyMetric.Differs] at unchanged

theorem eventsOf_append {published : List MetricEvent} {id : Pk}
    (isId : ∀ event ∈ published, event.values.metricId = id)
    (written : next.events = log.events ++ published) (other : Pk) :
    next.eventsOf other =
      log.eventsOf other ++ if other = id then published else [] := by
  rw [eventsOf, written, List.filter_append, eventsOf]
  congr 1
  split
  · rename_i same
    exact List.filter_eq_self.mpr fun event member =>
      decide_eq_true ((isId event member).trans same.symm)
  · rename_i apart
    exact List.filter_eq_nil_iff.mpr fun event member => by
      rw [decide_eq_true_eq, isId event member]
      exact Ne.symm apart

/-- What a save does to the events of its metric. -/
theorem IsKept.saved_events (kept : log.IsKept)
    (isSaved : log.IsSaved prepared table) (accepted : IsSpeed speed)
    (isTyped : prepared.speedHours = some speed.tenths)
    (typed : log.IsTyped prepared speed) (written : next.events = log.events ++
        if (log.eventOf prepared speed actor).previousValues =
            some (log.eventOf prepared speed actor).values then
          []
        else
          [log.eventOf prepared speed actor]) :
    (∀ other, other ≠ log.idOf prepared →
        next.eventsOf other = log.eventsOf other) ∧
      Linked Follows none (next.eventsOf (log.idOf prepared)) ∧
      ∃ event, (next.eventsOf (log.idOf prepared)).getLast? = some event ∧
        event.values.Describes (log.rowOf prepared) := by
  have isId : ∀ event ∈
      if (log.eventOf prepared speed actor).previousValues =
          some (log.eventOf prepared speed actor).values then
        []
      else
        [log.eventOf prepared speed actor],
      event.values.metricId = log.idOf prepared := by
    intro event member
    split at member
    · cases member
    · rw [List.mem_singleton.mp member]
      rfl
  have events := eventsOf_append isId written
  refine ⟨fun other apart => ?_, ?_⟩
  · rw [events, if_neg apart, List.append_nil]
  · rw [events, if_pos rfl]
    split
    · rename_i same
      rw [List.append_nil]
      exact ⟨kept.chains _, kept.describes isSaved accepted isTyped same⟩
    · rename_i published
      refine ⟨(kept.chains _).append ?_, _, List.getLast?_concat, ?_⟩
      · exact kept.previousValues isSaved accepted isTyped typed published
      · refine ⟨speed, accepted, ?_, rfl⟩
        rw [rowOf, PreparedMetric.row, isTyped]
        rfl

/-- A save whose texts agree keeps the invariant. -/
theorem IsKept.save
    (kept : log.IsKept) (fits : log.Fits prepared) (accepted : IsSpeed speed)
    (isTyped : prepared.speedHours = some speed.tenths)
    (typed : log.IsTyped prepared speed)
    (returned : log.saveMetricWithEvent prepared speed actor = .ok next) :
    next.IsKept ∧ ∃ published,
        next.events = log.events ++ published ∧ published.length ≤ 1 ∧
          (published ≠ [] ↔ log.Changes next) := by
  obtain ⟨table, saved, isNext⟩ := saveMetricWithEvent_ok returned
  have isSaved := kept.isSaved fits saved
  have sameTable : next.table = table := by rw [isNext]
  have sameCopies : next.copies = log.copies := by rw [isNext]
  have written := congrArg MetricLog.events isNext
  have changes : log.Changes next ↔
        (log.eventOf prepared speed actor).previousValues ≠
          some (log.eventOf prepared speed actor).values :=
    kept.changes_iff (sameTable ▸ isSaved) accepted isTyped typed
  obtain ⟨others, chain, last⟩ :=
    kept.saved_events isSaved accepted isTyped typed written
  refine ⟨?_, _, written, ?_, ?_⟩
  · refine
      { chains := fun id => ?_
        ends := fun metric member => ?_
        unique := sameTable ▸ isSaved.unique
        stored := fun metric member => ?_
        events := fun published member => ?_
        copies := fun week copy member => ?_ }
    · by_cases isMetric : id = log.idOf prepared
      · rw [isMetric]
        exact chain
      · rw [others id isMetric]
        exact kept.chains id
    · rw [sameTable] at member
      rcases (isSaved.rows metric).mp member with rfl | ⟨isOld, apart⟩
      · exact last
      · rw [others metric.id apart]
        exact kept.ends metric isOld
    · rw [sameTable] at member ⊢
      rw [isSaved.journeyId]
      rcases (isSaved.rows metric).mp member with rfl | ⟨isOld, _⟩
      · refine ⟨isSaved.below, rfl, speed.tenths, ?_⟩
        rw [rowOf, PreparedMetric.row, isTyped]
        rfl
      · obtain ⟨isBelow, rest⟩ := kept.stored metric isOld
        exact ⟨Nat.lt_of_lt_of_le isBelow isSaved.sequence, rest⟩
    · rw [sameTable]
      rw [written, List.mem_append] at member
      rcases member with isOld | isNew
      · exact Nat.lt_of_lt_of_le (kept.events published isOld) isSaved.sequence
      · split at isNew
        · cases isNew
        · rw [List.mem_singleton.mp isNew]
          exact isSaved.below
    · rw [sameCopies] at member
      obtain ⟨metric, isOld, sameId, sameWeek⟩ := kept.copies week copy member
      rw [sameTable]
      by_cases isMetric : metric.id = log.idOf prepared
      · obtain ⟨_, _, isWeek⟩ :=
          isSaved.replaced metric (isSaved.previous metric isOld isMetric)
        exact ⟨log.rowOf prepared, (isSaved.rows _).mpr (.inl rfl),
            isMetric.symm.trans sameId, isWeek.symm.trans sameWeek⟩
      · exact
          ⟨metric, (isSaved.rows metric).mpr (.inr ⟨isOld, isMetric⟩), sameId,
            sameWeek⟩
  · split
    · exact Nat.zero_le 1
    · exact Nat.le_refl 1
  · rw [changes]
    split
    · rename_i same
      simp [same]
    · rename_i differs
      simp [differs]

/-! ## Runs -/

theorem fits_fill {form : MetricForm} {week : Nat} {copy : Option WeeklyMetric}
    (kept : log.IsKept) (member : (week, copy) ∈ log.copies) :
    log.Fits (form.fill week copy) := by
  intro id isId
  obtain ⟨metric, rfl, rfl⟩ := Option.map_eq_some_iff.mp isId
  exact kept.copies week metric member

theorem IsKept.step
    {action : MetricAction} (kept : log.IsKept) (typed : action.IsTyped log)
    (stepped : log.step? action = some next) :
    next.IsKept ∧ ∃ published,
        next.events = log.events ++ published ∧ published.length ≤ 1 ∧
          (published ≠ [] ↔ log.Changes next) := by
  cases action with
  | read week =>
      cases stepped
      refine ⟨{ kept with copies := ?_ }, [], by simp, by simp, ?_⟩
      · intro other copy member
        rcases List.mem_append.mp member with isOld | isNew
        · exact kept.copies other copy isOld
        · obtain ⟨rfl, found⟩ := Prod.mk.inj (List.mem_singleton.mp isNew)
          have isWeek := List.find?_some found.symm
          exact ⟨copy, List.mem_of_find?_eq_some found.symm, rfl,
              of_decide_eq_true isWeek⟩
      · exact ⟨fun isNew => (isNew rfl).elim,
            fun changes => (not_changes_self rfl changes).elim⟩
  | save index form actor =>
      obtain ⟨⟨week, copy⟩, isCopy, written⟩ :=
        Option.bind_eq_some_iff.mp stepped
      cases written
      have fits : log.Fits (form.fill week copy) :=
        fits_fill kept (List.mem_of_getElem? isCopy)
      unfold called
      cases returned :
          log.saveMetricWithEvent (form.fill week copy) form.speed actor with
      | error refusal =>
          refine ⟨{ kept with copies := ?_ }, [], by simp, by simp, ?_⟩
          · intro other copy member
            exact kept.copies other copy (List.mem_of_mem_eraseIdx member)
          · exact ⟨fun isNew => (isNew rfl).elim,
                fun changes => (not_changes_self rfl changes).elim⟩
      | ok saved =>
          have isStaff : actor.isStaff = true :=
            (ensure_ok.mp (bind_ok.mp returned).choose_spec.1)
          obtain ⟨isKept, published, isPublished, rest⟩ :=
            kept.save fits form.speedHours.property rfl
              (typed isStaff _ isCopy) returned
          refine ⟨{ isKept with copies := ?_ }, published, isPublished, rest⟩
          intro other copy member
          obtain ⟨_, _, rfl⟩ := saveMetricWithEvent_ok returned
          exact isKept.copies other copy (List.mem_of_mem_eraseIdx member)

theorem start_isKept (userId journeyId sequence : Pk) :
    (start userId journeyId sequence).IsKept where
  chains _ := trivial
  ends _ member := by cases member
  unique := List.nodup_nil
  stored _ member := by cases member
  events _ member := by cases member
  copies _ _ member := by cases member

end MetricLog

/-- The speed of a save is typed with one fraction digit and no minus. -/
def MetricAction.IsPlain : MetricAction → Prop
  | .read _ => True
  | .save _ form _ => form.speed.IsPlain

namespace MetricLog

/-- Every event has the text of a stored number. -/
def IsPlain (log : MetricLog) : Prop :=
  ∀ event ∈ log.events, ∃ tenths,
    event.values.speedHours = some (Decimal.ofTenths tenths).str

theorem IsPlain.rendered
    {event : MetricEvent} {metric : WeeklyMetric} (plain : log.IsPlain)
    (member : event ∈ log.events) (describes : event.values.Describes metric) :
    event.values = metric.rendered := by
  obtain ⟨tenths, isText⟩ := plain event member
  obtain ⟨speed, accepted, isSpeed, isValues⟩ := describes
  simp only [isValues, Option.some_inj] at isText
  have isPlain := Decimal.isPlain_of_str accepted.places isText
  rw [isValues, WeeklyMetric.rendered, isSpeed, Option.map_some,
    Int.toNat_natCast, isPlain.ofTenths]

theorem IsPlain.last
    {event : MetricEvent} {metric : WeeklyMetric} (plain : log.IsPlain)
    (kept : log.IsKept) (member : metric ∈ log.table.metrics)
    (isLast : (log.eventsOf metric.id).getLast? = some event) :
    event.values = metric.rendered := by
  obtain ⟨other, isOther, describes⟩ := kept.ends metric member
  obtain rfl := Option.some_inj.mp (isLast.symm.trans isOther)
  exact plain.rendered
    (List.mem_of_mem_filter (List.mem_of_getLast? isLast)) describes

theorem IsPlain.step
    {action : MetricAction} (plain : log.IsPlain) (typed : action.IsPlain)
    (stepped : log.step? action = some next) :
    next.IsPlain := by
  cases action with
  | read week =>
      cases stepped
      exact plain
  | save index form actor =>
      obtain ⟨⟨week, copy⟩, _, written⟩ := Option.bind_eq_some_iff.mp stepped
      cases written
      unfold called
      cases returned :
          log.saveMetricWithEvent (form.fill week copy) form.speed actor with
      | error refusal => exact plain
      | ok saved =>
          obtain ⟨_, _, rfl⟩ := saveMetricWithEvent_ok returned
          intro event member
          rcases List.mem_append.mp member with isOld | isNew
          · exact plain event isOld
          · split at isNew
            · cases isNew
            · rw [List.mem_singleton.mp isNew]
              exact ⟨form.speed.tenths, by rw [typed.ofTenths]; rfl⟩

theorem IsPlain.isTyped {action : MetricAction} (plain : log.IsPlain)
    (kept : log.IsKept) (typed : action.IsPlain) :
    action.IsTyped log := by
  cases action with
  | read week => trivial
  | save index form actor =>
      intro _ copy isCopy stored found
      split
      · intro event isLast
        have member : stored ∈ log.table.metrics := by
          obtain ⟨_, _, isFound⟩ := Option.bind_eq_some_iff.mp found
          exact List.mem_of_find?_eq_some isFound
        rw [plain.last kept member isLast]
      · exact typed

/-- Speeds that are all typed with one fraction digit and no minus agree, and
then the last event of a metric has the very values of its row. -/
theorem plain_isTyped
    {userId journeyId sequence : Pk} {actions : List MetricAction}
    (run : Run step? (fun _ => MetricAction.IsPlain)
        (start userId journeyId sequence) actions log) :
    Run step? MetricAction.IsTyped
        (start userId journeyId sequence) actions log ∧
      ∀ metric ∈ log.table.metrics,
        ∃ event, (log.eventsOf metric.id).getLast? = some event ∧
          event.values = metric.rendered := by
  have ⟨typed, kept, plain⟩ := run.permits (fun log => log.IsKept ∧ log.IsPlain)
    (fun _ _ _ isPlain stepped before =>
      have isTyped := before.2.isTyped before.1 isPlain
      ⟨isTyped, (before.1.step isTyped stepped).1,
        before.2.step isPlain stepped⟩)
    ⟨start_isKept userId journeyId sequence, fun _ member => by cases member⟩
  refine ⟨typed, fun metric member => ?_⟩
  obtain ⟨event, isLast, _⟩ := kept.ends metric member
  exact ⟨event, isLast, plain.last kept member isLast⟩

end MetricLog

/-- A form with a speed and nothing else. -/
def sampleForm (speed : { speed : Decimal // IsSpeed speed }) : MetricForm where
  speedHours := speed
  isQualityRequired := false
  qualityPercent := 0
  mentorComment := []
  nextWeekGoal := []
  startDate := 0

/-- A save of what the first request has read. -/
def sampleSave (form : MetricForm) : MetricAction :=
  .save 0 form { id := 4, isStaff := true }

/-- The first week is read and saved, and read again. -/
def sampleSaves (form : MetricForm) : List MetricAction :=
  [.read 1, sampleSave form, .read 1]

/-- The card after these requests. -/
def sampleLog (form : MetricForm) : MetricLog :=
  after MetricLog.step? (MetricLog.start 1 2 3) (sampleSaves form)

/-- The speed is typed as `5.0`. -/
def pointedForm : MetricForm :=
  sampleForm ⟨⟨false, 50, -1⟩, by decide⟩

/-- The speed is typed as `5`. -/
def wholeForm : MetricForm :=
  sampleForm ⟨⟨false, 5, 0⟩, by decide⟩

/-- The speed is typed as `6`. -/
def raisedForm : MetricForm :=
  sampleForm ⟨⟨false, 6, 0⟩, by decide⟩

end TicketSandbox.TraineeDiary
