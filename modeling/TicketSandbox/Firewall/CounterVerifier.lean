import Mathlib.Logic.Function.Iterate
import TicketSandbox.Library.Attempts
import TicketSandbox.Library.Chains
import TicketSandbox.Library.Doubles
import TicketSandbox.Library.Raises
import TicketSandbox.Library.Runs

namespace TicketSandbox.Firewall.CounterVerifier

/-!
# The offline verifier of counter evidence

`OfflineCounterVerifier` of `trusted_checker_network/counter_evidence.py` with
`CounterEvidence` of `counter_contracts.py`.  Both clocks answer each reading
as they like; times are doubles, which are rounded when they are added and
subtracted.  What the checks of a fixture answer is part of the fixture.
-/

open Attempts (Code Keeps Outcome change ensure inspect required)
open Chains (Linked)
open Runs

/-! ## Contracts -/

def twoSeconds : Nat := 2 * Doubles.second

/-- What a check raises: a `Denied` with its reason, or something else. -/
inductive Failure where
  | denied (reason : String)
  | other
  deriving Repr, DecidableEq

/-- `UNKNOWN_REASONS`. -/
def unknownReasons : List String :=
  ["counter_evidence_invalid", "counter_readback_invalid",
    "counter_generation_changed", "counter_reset_or_wrap",
    "counter_delta_unexplained", "counter_packet_incomplete",
    "counter_topology_unproven", "counter_deadline", "counter_killed",
    "counter_clock_rollback"]

/-- What the verifier reads of a `CounterApproval`, and of its runtime
approval. -/
structure CounterApproval where
  contextUuid : Nat
  createdAt : Nat
  expiresAt : Nat
  runtimeCreatedAt : Nat
  runtimeExpiresAt : Nat
  isValid : createdAt < expiresAt ∧
      Doubles.sub expiresAt createdAt ≤ 1800 * twoSeconds ∧
      runtimeCreatedAt ≤ createdAt ∧ expiresAt ≤ runtimeExpiresAt

/-- The replies that `classify_reply` accepts. -/
inductive Reply where
  | rst
  | synack
  deriving Repr, DecidableEq

/-- The outcomes of a `SampleResult`. -/
inductive SampleOutcome where
  | pathOpen (reply : Reply)
  | terminalDropObserved
  deriving Repr, DecidableEq

/-- What is measured of one probe; the counters as packets and bytes. -/
structure Sample where
  startedAt : Nat
  finishedAt : Nat
  before : List (Nat × Nat)
  after : List (Nat × Nat)
  reply : Reply
  isShort :
    startedAt ≤ finishedAt ∧ Doubles.sub finishedAt startedAt ≤ twoSeconds
  deriving DecidableEq

/-- `SampleResult`, with the position of its probe in the plan. -/
structure SampleResult where
  probe : Nat
  outcome : SampleOutcome
  sample : Sample
  deriving DecidableEq

/-- The result of the probe at the position: only the first is answered. -/
def Sample.resultAt (probe : Nat) (sample : Sample) : SampleResult where
  probe := probe
  outcome :=
    if probe = 0 then .pathOpen sample.reply else .terminalDropObserved
  sample := sample

/-- An observation of the topology, and what `check_topology` answers. -/
structure Topology where
  observedAt : Nat
  digest : String
  check : Except Failure Unit

/-- A `MeasurementFixture`, as the authenticator and the checks answer it. -/
structure MeasurementFixture where
  topologyBefore : Except Failure Topology
  topologyAfter : Except Failure Topology
  samples : List (Except Failure Sample)

/-- The two results. -/
inductive Verdict where
  | verified
  | unknown
  deriving Repr, DecidableEq

/-- `CounterEvidence`. -/
structure CounterEvidence where
  contextUuid : Nat
  samples : List SampleResult
  startedAt : Nat
  finishedAt : Nat
  result : Verdict
  reason : String
  absoluteDeadline : Nat
  finalizedAt : Nat
  topology : Option (String × String)
  deriving DecidableEq

namespace CounterEvidence

/-- What the constructor requires of the times and samples. -/
def MeetsContract (evidence : CounterEvidence) : Prop :=
  evidence.startedAt ≤ evidence.finishedAt ∧
    Doubles.sub evidence.finishedAt evidence.startedAt ≤ twoSeconds ∧
    evidence.samples.length ≤ 15 ∧
    evidence.samples.map SampleResult.probe =
      List.range evidence.samples.length ∧
    evidence.startedAt < evidence.absoluteDeadline ∧
    evidence.absoluteDeadline ≤ Doubles.add evidence.startedAt twoSeconds
  deriving Decidable

/-- What the constructor requires of the result. -/
def MeetsResult (evidence : CounterEvidence) : Prop :=
  match evidence.result with
  | .unknown => evidence.reason ∈ unknownReasons
  | .verified =>
      evidence.reason = "offline_counter_model_verified" ∧
        evidence.samples.length = 15 ∧ evidence.topology.isSome = true ∧
        evidence.finishedAt ≤ evidence.finalizedAt ∧
        evidence.finalizedAt < evidence.absoluteDeadline ∧
        ∀ result ∈ evidence.samples,
          result.outcome = .terminalDropObserved ↔ result.probe ≠ 0

instance (evidence : CounterEvidence) : Decidable evidence.MeetsResult := by
  unfold MeetsResult
  cases evidence.result <;> infer_instance

end CounterEvidence

/-! ## The verifier -/

/-- The clocks, by the number of the reading. -/
structure Clock where
  wall : Nat → Nat
  monotonic : Nat → Nat

/-- `_reservation`. -/
structure Reservation (approval : CounterApproval) where
  start : Nat
  deadline : Nat
  monotonicEnd : Nat
  epoch : Nat
  isShort : start < deadline ∧
      deadline ≤ min (Doubles.add start twoSeconds) approval.expiresAt

/-- The state of an `OfflineCounterVerifier`, with the numbers of readings. -/
structure Verifier (approval : CounterApproval) where
  enabled : Bool
  epoch : Nat
  stopped : Bool
  circuit : Bool
  lastWall : Nat
  reservation : Option (Reservation approval)
  terminal : Option CounterEvidence
  wallReads : Nat
  monotonicReads : Nat

/-- What `finish` collects before it concludes; a sample stands at the position
of its probe. -/
structure Finishing (approval : CounterApproval) where
  verifier : Verifier approval
  samples : List Sample
  topology : Option (String × String)

variable (clock : Clock) {approval : CounterApproval}

/-- Raise. -/
def denied {σ α : Type} (reason : String) : Code σ Failure α :=
  fun state => (.raised (.denied reason), state)

/-- What a check answers. -/
def answered {σ α : Type} (answer : Except Failure α) : Code σ Failure α :=
  fun state =>
    match answer with
    | .ok value => (.returned value, state)
    | .error failure => (.raised failure, state)

namespace Verifier

/-- A verifier that was just constructed. -/
def start : Verifier approval where
  enabled := false
  epoch := 0
  stopped := false
  circuit := false
  lastWall := clock.wall 0
  reservation := none
  terminal := none
  wallReads := 1
  monotonicReads := 0

/-- `self.clock()`. -/
def readWall : Code (Verifier approval) Failure Nat := fun verifier =>
  (.returned (clock.wall verifier.wallReads),
    { verifier with wallReads := verifier.wallReads + 1 })

/-- `self.monotonic()`. -/
def readMonotonic : Code (Verifier approval) Failure Nat := fun verifier =>
  (.returned (clock.monotonic verifier.monotonicReads),
    { verifier with monotonicReads := verifier.monotonicReads + 1 })

/-- What `_gate` requires of a reservation. -/
def checkReservation (now : Nat) (reservation : Reservation approval) :
    Code (Verifier approval) Failure Unit := do
  let verifier ← inspect
  ensure (verifier.epoch = reservation.epoch) (.denied "counter_killed")
  ensure (now < reservation.deadline) (.denied "counter_deadline")
  let reading ← readMonotonic clock
  ensure (reading < reservation.monotonicEnd) (.denied "counter_deadline")

/-- `_gate`, once the time is recorded. -/
def checkOpen (now : Nat) : Code (Verifier approval) Failure Unit := do
  let verifier ← inspect
  ensure (verifier.stopped = false ∧ verifier.enabled = true)
    (.denied "counter_killed")
  ensure (approval.createdAt ≤ now ∧ now < approval.expiresAt ∧
      approval.runtimeCreatedAt ≤ now ∧ now < approval.runtimeExpiresAt)
    (.denied "counter_deadline")
  match verifier.reservation with
  | none => pure ()
  | some reservation => checkReservation clock now reservation

/-- `_gate`. -/
def gate : Code (Verifier approval) Failure Unit := do
  let now ← readWall clock
  let verifier ← inspect
  ensure (verifier.lastWall ≤ now) (.denied "counter_clock_rollback")
  change fun verifier => { verifier with lastWall := now }
  checkOpen clock now

/-- `begin`. -/
def begin (deadline : Nat) : Code (Verifier approval) Failure Nat := do
  gate clock
  let verifier ← inspect
  ensure (verifier.circuit = false ∧ verifier.reservation.isNone = true ∧
      verifier.terminal.isNone = true)
    (.denied "counter_measurement_in_progress_or_closed")
  let now ← readWall clock
  if isShort : now < deadline ∧
        deadline ≤ min (Doubles.add now twoSeconds) approval.expiresAt
  then do
    let reading ← readMonotonic clock
    change fun verifier =>
      { verifier with
        reservation :=
          some
            { start := now
              deadline := deadline
              monotonicEnd := Doubles.sub (Doubles.add reading deadline) now
              epoch := verifier.epoch
              isShort := isShort } }
    pure approval.contextUuid
  else
    denied "counter_deadline"

/-- A call of the verifier while `finish` collects. -/
def within {α : Type} (code : Code (Verifier approval) Failure α) :
    Code (Finishing approval) Failure α := fun state =>
  ((code state.verifier).1, { state with verifier := (code state.verifier).2 })

/-- `check_topology`, of which a denial is not passed on. -/
def checkTopology (topology : Topology) :
    Code (Finishing approval) Failure Unit :=
  match topology.check with
  | .error (.denied _) => denied "counter_topology_unproven"
  | answer => answered answer

/-- The loop over the samples. -/
def measure (before after : Topology) :
    List (Except Failure Sample) → Option Sample →
      Code (Finishing approval) Failure Unit
  | [], _ => pure ()
  | answer :: rest, previous => do
      within (gate clock)
      let measured ← answered answer
      ensure (before.observedAt ≤ measured.startedAt ∧
          measured.finishedAt ≤ after.observedAt)
        (.denied "counter_evidence_invalid")
      ensure (∀ sample ∈ previous, sample.finishedAt ≤ measured.startedAt)
        (.denied "counter_evidence_invalid")
      ensure (∀ sample ∈ previous, sample.after = measured.before)
        (.denied "counter_delta_unexplained")
      change fun state => { state with samples := state.samples ++ [measured] }
      measure before after rest (some measured)

/-- What `finish` tries. -/
def collect
    (reservation : Reservation approval) (fixture : Option MeasurementFixture) :
    Code (Finishing approval) Failure Unit := do
  within (gate clock)
  let fixture ← required (.denied "counter_evidence_invalid") fixture
  ensure (fixture.samples.length = 15) (.denied "counter_evidence_invalid")
  let before ← answered fixture.topologyBefore
  let after ← answered fixture.topologyAfter
  checkTopology before
  checkTopology after
  change fun state =>
    { state with topology := some (before.digest, after.digest) }
  ensure (reservation.start ≤ before.observedAt ∧
      before.observedAt ≤ after.observedAt)
    (.denied "counter_evidence_invalid")
  let now ← within (readWall clock)
  ensure (after.observedAt ≤ now ∧
      Doubles.sub after.observedAt before.observedAt ≤ twoSeconds)
    (.denied "counter_evidence_invalid")
  measure clock before after fixture.samples none
  within (gate clock)

/-- The reason that is reported of what was raised. -/
def reasonOf : Failure → String
  | .denied reason =>
      if reason ∈ unknownReasons then reason else "counter_evidence_invalid"
  | .other => "counter_evidence_invalid"

/-- The evidence of what was collected, finalized at the time. -/
def evidenceOf (reservation : Reservation approval) (now : Nat)
    (ended : Outcome Failure Unit) (state : Finishing approval) :
    CounterEvidence where
  contextUuid := approval.contextUuid
  samples := state.samples.mapIdx Sample.resultAt
  startedAt := reservation.start
  finishedAt := max reservation.start (min now reservation.deadline)
  result :=
    match ended with
    | .returned _ => .verified
    | _ => .unknown
  reason :=
    match ended with
    | .returned _ => "offline_counter_model_verified"
    | .raised failure => reasonOf failure
    | .interrupted => "counter_evidence_invalid"
  absoluteDeadline := reservation.deadline
  finalizedAt := now
  topology := state.topology

/-- The end of `finish`, outside of what it tries. -/
def conclude (reservation : Reservation approval) (ended : Outcome Failure Unit)
    (state : Finishing approval) :
    Code (Verifier approval) Failure CounterEvidence := do
  let now ← readWall clock
  let evidence := evidenceOf reservation now ended state
  ensure evidence.MeetsContract (.denied "counter_evidence_contract")
  ensure evidence.MeetsResult (.denied "counter_evidence_result")
  change fun verifier =>
    { verifier with
      terminal := some evidence
      circuit := decide (evidence.result = .unknown) }
  pure evidence

/-- How `finish` tries. -/
def tried (reservation : Reservation approval)
    (fixture : Option MeasurementFixture) (verifier : Verifier approval) :
    Outcome Failure Unit × Finishing approval :=
  collect clock reservation fixture
    { verifier := verifier, samples := [], topology := none }

/-- `finish`. -/
def finish (fixture : Option MeasurementFixture) :
    Code (Verifier approval) Failure CounterEvidence := fun verifier =>
  match verifier.terminal, verifier.reservation with
  | some terminal, _ => (.returned terminal, verifier)
  | none, none => denied "counter_measurement_not_issued" verifier
  | none, some reservation =>
      let tried := tried clock reservation fixture verifier
      conclude clock reservation tried.1 tried.2 tried.2.verifier

/-- `expire`. -/
def expire : Code (Verifier approval) Failure CounterEvidence :=
  fun verifier =>
    if verifier.reservation.isNone = true then
      denied "counter_measurement_not_issued" verifier
    else
      match verifier.terminal, gate clock verifier with
      | some terminal, _ => (.returned terminal, verifier)
      | none, (.returned _, next) =>
          denied "counter_measurement_not_expired" next
      | none, (_, next) => finish clock none next

end Verifier

/-- The calls. -/
inductive Action where
  | begin (deadline : Nat)
  | finish (fixture : Option MeasurementFixture)
  | expire
  | kill
  | setEnabled (enabled : Bool)

namespace Verifier

/-- The state after a call, whether it returns or raises. -/
def after (verifier : Verifier approval) : Action → Verifier approval
  | .begin deadline => (begin clock deadline verifier).2
  | .finish fixture => (finish clock fixture verifier).2
  | .expire => (expire clock verifier).2
  | .kill =>
      { verifier with
        stopped := true
        enabled := false
        epoch := verifier.epoch + 1 }
  | .setEnabled enabled =>
      { verifier with enabled := enabled, epoch := verifier.epoch + 1 }

/-- The step function. -/
def step? (verifier : Verifier approval) (action : Action) :
    Option (Verifier approval) :=
  some (verifier.after clock action)

/-! ## What the verdict rests on -/

/-- So many gates in a row are passed, with one reading of each clock. -/
def Opens (reservation : Reservation approval) : Nat → Nat → Nat → Nat → Prop
  | 0, _, _, _ => True
  | count + 1, last, wallAt, monotonicAt =>
      (last ≤ clock.wall wallAt ∧ approval.createdAt ≤ clock.wall wallAt ∧
        clock.wall wallAt < reservation.deadline ∧
        clock.monotonic monotonicAt < reservation.monotonicEnd) ∧
      Opens reservation count (clock.wall wallAt) (wallAt + 1) (monotonicAt + 1)

/-- Nothing was switched since the reservation. -/
def IsReady
    (verifier : Verifier approval) (reservation : Reservation approval) :
    Prop :=
  verifier.stopped = false ∧ verifier.enabled = true ∧
    verifier.epoch = reservation.epoch

/-- A sample lies between the topologies and goes on from the one before. -/
def Continues
    (before after : Topology) (previous : Option Sample) (sample : Sample) :
    Prop :=
  (before.observedAt ≤ sample.startedAt ∧
      sample.finishedAt ≤ after.observedAt) ∧
    (∀ earlier ∈ previous, earlier.finishedAt ≤ sample.startedAt) ∧
    ∀ earlier ∈ previous, earlier.after = sample.before

/-- The evidence is accepted, the topology being read at the time. -/
def Accepts (reservation : Reservation approval) (now : Nat)
    (fixture : MeasurementFixture) : Prop :=
  ∃ before after samples,
    fixture.topologyBefore = .ok before ∧ fixture.topologyAfter = .ok after ∧
      before.check = .ok () ∧ after.check = .ok () ∧
      reservation.start ≤ before.observedAt ∧
      before.observedAt ≤ after.observedAt ∧ after.observedAt ≤ now ∧
      Doubles.sub after.observedAt before.observedAt ≤ twoSeconds ∧
      fixture.samples = samples.map .ok ∧ samples.length = 15 ∧
      Linked (Continues before after) none samples

/-- Seventeen gates are passed around evidence that is accepted. -/
def Passes (verifier : Verifier approval) (reservation : Reservation approval)
    (fixture : Option MeasurementFixture) : Prop :=
  verifier.IsReady reservation ∧
    Opens clock reservation 1 verifier.lastWall verifier.wallReads
      verifier.monotonicReads ∧
    Opens clock reservation 16 (clock.wall verifier.wallReads)
      (verifier.wallReads + 2) (verifier.monotonicReads + 1) ∧
    ∃ evidence, fixture = some evidence ∧
        Accepts reservation (clock.wall (verifier.wallReads + 1)) evidence

/-- The two readings that no gate checks, against the topology and at the end,
lie before the deadline, and the last one not before the start. -/
def IsTimely
    (verifier : Verifier approval) (reservation : Reservation approval) :
    Prop :=
  clock.wall (verifier.wallReads + 1) < reservation.deadline ∧
    reservation.start ≤ clock.wall (verifier.wallReads + 18) ∧
    clock.wall (verifier.wallReads + 18) < reservation.deadline

/-- The last reading of a call of `finish`, or the deadline if it is earlier,
is no more than two seconds after the start, as doubles are subtracted. -/
def IsShort (verifier : Verifier approval) (reservation : Reservation approval)
    (fixture : Option MeasurementFixture) : Prop :=
  Doubles.sub (min (clock.wall
          (tried clock reservation fixture verifier).2.verifier.wallReads)
        reservation.deadline)
      reservation.start ≤ twoSeconds

theorem isShort_of_le {clock : Clock} {verifier : Verifier approval}
    {reservation : Reservation approval} {fixture : Option MeasurementFixture}
    (isWithin : min (clock.wall
          (tried clock reservation fixture verifier).2.verifier.wallReads)
        reservation.deadline ≤ reservation.start + twoSeconds) :
    verifier.IsShort clock reservation fixture := by
  have isPower : twoSeconds = 2 ^ (Doubles.scale + 1) := by
    rw [twoSeconds, Doubles.two_mul_second]
  rw [isPower] at isWithin
  rw [IsShort, isPower]
  exact Doubles.round_le_two_pow (Nat.sub_le_iff_le_add'.mpr isWithin)

/-- A call of `finish` on an open reservation is short, and timely if it would
verify. -/
def Closes
    (verifier : Verifier approval) (fixture : Option MeasurementFixture) :
    Prop :=
  ∀ reservation, verifier.reservation = some reservation →
    verifier.terminal = none → verifier.IsShort clock reservation fixture ∧
        (verifier.Passes clock reservation fixture →
          verifier.IsTimely clock reservation)

/-- The calls of `finish` are short and timely, the one that `expire` makes
when a gate is not passed included. -/
def Permits (verifier : Verifier approval) : Action → Prop
  | .finish fixture => verifier.Closes clock fixture
  | .expire =>
      (gate clock verifier).1 ≠ .returned () →
        (gate clock verifier).2.Closes clock none
  | _ => True

/-! ## Gates -/

variable {clock} {verifier next : Verifier approval}
  {reservation : Reservation approval} {fixture : Option MeasurementFixture}

/-- The verifier after a gate that was passed. -/
def passed (clock : Clock) (verifier : Verifier approval) : Verifier approval :=
  { verifier with
    lastWall := clock.wall verifier.wallReads
    wallReads := verifier.wallReads + 1
    monotonicReads := verifier.monotonicReads + 1 }

theorem checkReservation_returned {now : Nat} :
    checkReservation clock now reservation verifier = (.returned (), next) ↔
      verifier.epoch = reservation.epoch ∧ now < reservation.deadline ∧
        clock.monotonic verifier.monotonicReads < reservation.monotonicEnd ∧
        { verifier with monotonicReads := verifier.monotonicReads + 1 } =
          next := by
  simp only [checkReservation, Attempts.bind_returned,
    Attempts.inspect_returned, Attempts.ensure_returned, readMonotonic,
    Prod.mk.injEq, Outcome.returned.injEq]
  constructor
  · rintro ⟨_, _, ⟨rfl, rfl⟩, _, _, ⟨epoch, rfl⟩, _, _, ⟨isEarly, rfl⟩, _, _,
      ⟨rfl, rfl⟩, isBelow, rfl⟩
    exact ⟨epoch, isEarly, isBelow, rfl⟩
  · rintro ⟨epoch, isEarly, isBelow, rfl⟩
    exact ⟨_, _, ⟨rfl, rfl⟩, (), _, ⟨epoch, rfl⟩, (), _, ⟨isEarly, rfl⟩, _, _,
        ⟨rfl, rfl⟩, isBelow, rfl⟩

theorem gate_returned (isSome : verifier.reservation = some reservation) :
    gate clock verifier = (.returned (), next) ↔ verifier.IsReady reservation ∧
        Opens clock reservation 1 verifier.lastWall verifier.wallReads
          verifier.monotonicReads ∧
        verifier.passed clock = next := by
  obtain ⟨_, _, isAfter, isBefore⟩ := approval.isValid
  have isWithin := (Nat.le_min.mp reservation.isShort.2).2
  simp only [gate, checkOpen, Attempts.bind_returned,
    Attempts.inspect_returned, Attempts.ensure_returned,
    Attempts.change_returned, readWall, Prod.mk.injEq, Outcome.returned.injEq]
  constructor
  · rintro ⟨_, _, ⟨rfl, rfl⟩, _, _, ⟨rfl, rfl⟩, _, _, ⟨inOrder, rfl⟩, _, _, rfl,
      _, _, ⟨rfl, rfl⟩, _, _, ⟨⟨isRunning, isEnabled⟩, rfl⟩, _, _,
      ⟨⟨created, _⟩, rfl⟩, checked⟩
    simp only [isSome, checkReservation_returned] at checked
    obtain ⟨isEpoch, isEarly, isBelow, rfl⟩ := checked
    refine ⟨⟨isRunning, isEnabled, isEpoch⟩,
        ⟨⟨inOrder, created, isEarly, isBelow⟩, trivial⟩, ?_⟩
    rw [passed, isSome]
  · rintro ⟨⟨isRunning, isEnabled, isEpoch⟩,
      ⟨⟨inOrder, created, isEarly, isBelow⟩, _⟩, rfl⟩
    have isOpen := Nat.lt_of_lt_of_le isEarly isWithin
    refine
      ⟨_, _, ⟨rfl, rfl⟩, _, _, ⟨rfl, rfl⟩, (), _, ⟨inOrder, rfl⟩, (), _, rfl,
        _, _, ⟨rfl, rfl⟩, (), _, ⟨⟨isRunning, isEnabled⟩, rfl⟩, (), _,
        ⟨⟨created, isOpen, Nat.le_trans isAfter created,
          Nat.lt_of_lt_of_le isOpen isBefore⟩, rfl⟩, ?_⟩
    simp only [isSome, checkReservation_returned]
    refine ⟨isEpoch, isEarly, isBelow, ?_⟩
    rw [passed, isSome]

/-- Nothing changes but the count of the monotonic readings. -/
def Same (verifier next : Verifier approval) : Prop :=
  ∃ reads, next = { verifier with monotonicReads := reads }

instance : Std.Refl (Same : Verifier approval → Verifier approval → Prop) :=
  ⟨fun verifier => ⟨verifier.monotonicReads, rfl⟩⟩

instance : IsTrans (Verifier approval) Same :=
  ⟨fun _ _ _ ⟨_, first⟩ ⟨reads, second⟩ => ⟨reads, by rw [second, first]⟩⟩

theorem checkOpen_same (now : Nat) :
    Keeps Same
      (checkOpen clock now : Code (Verifier approval) Failure Unit) := by
  refine .bind .inspect fun verifier => .bind (.ensure _ _) fun _ =>
    .bind (.ensure _ _) fun _ => ?_
  cases verifier.reservation with
  | none => exact .pure ()
  | some reservation =>
      refine .bind .inspect fun _ => .bind (.ensure _ _) fun _ =>
        .bind (.ensure _ _) fun _ => .bind ?_ fun _ => .ensure _ _
      exact fun verifier => ⟨verifier.monotonicReads + 1, rfl⟩

/-- Readings are taken of which none is above the last time that is left. -/
structure Later (clock : Clock) (verifier next : Verifier approval) :
    Prop where
  reservation : next.reservation = verifier.reservation
  terminal : next.terminal = verifier.terminal
  epoch : next.epoch = verifier.epoch
  last : verifier.lastWall ≤ next.lastWall
  reads : next.wallReads = verifier.wallReads + 1
  reading : clock.wall verifier.wallReads ≤ next.lastWall

theorem gate_later (clock : Clock) (verifier : Verifier approval) :
    Later clock verifier (gate clock verifier).2 := by
  by_cases inOrder : verifier.lastWall ≤ clock.wall verifier.wallReads
  · have isNext : (gate clock verifier).2 =
          (checkOpen clock (clock.wall verifier.wallReads)
            { verifier with
              lastWall := clock.wall verifier.wallReads
              wallReads := verifier.wallReads + 1 }).2 := by
      simp only [gate, bind, Code.bind, readWall, inspect, ensure, change,
        if_pos inOrder]
    obtain ⟨reads, same⟩ := checkOpen_same (clock.wall verifier.wallReads)
        { verifier with
          lastWall := clock.wall verifier.wallReads
          wallReads := verifier.wallReads + 1 }
    rw [isNext, same]
    exact ⟨rfl, rfl, rfl, inOrder, rfl, Nat.le_refl _⟩
  · have isNext : (gate clock verifier).2 =
          { verifier with wallReads := verifier.wallReads + 1 } := by
      simp only [gate, bind, Code.bind, readWall, inspect, ensure,
        if_neg inOrder]
    rw [isNext]
    exact ⟨rfl, rfl, rfl, Nat.le_refl _, rfl,
        Nat.le_of_lt (Nat.lt_of_not_le inOrder)⟩

/-! ## What is collected -/

variable {count : Nat}

theorem Opens.early {last wallAt monotonicAt number : Nat}
    (opens : Opens clock reservation count last wallAt monotonicAt)
    (low : wallAt ≤ number) (high : number < wallAt + count) :
    clock.wall number < reservation.deadline := by
  induction count generalizing last wallAt monotonicAt with
  | zero => omega
  | succ count inductionHypothesis =>
      obtain ⟨⟨_, _, isEarly, _⟩, rest⟩ := opens
      rcases Nat.eq_or_lt_of_le low with rfl | later
      · exact isEarly
      · exact inductionHypothesis rest later (by omega)

/-- At most so many samples are collected. -/
def Grows (count : Nat) (state next : Finishing approval) : Prop :=
  next.samples.length ≤ state.samples.length + count

variable {state last : Finishing approval} {α β : Type}

theorem Grows.ofSame
    (same : last.samples = state.samples) : Grows count state last := by
  rw [Grows, same]
  exact Nat.le_add_right _ _

variable {rest : α → Code (Finishing approval) Failure β}
  {code : Code (Finishing approval) Failure α}

theorem Grows.bind {early late : Nat} (first : Keeps (Grows early) code)
    (second : ∀ value, Keeps (Grows late) (rest value)) :
    Keeps (Grows (early + late)) (code >>= rest) := by
  refine Keeps.bindThrough first second ?_ ?_
  · intro state next bounded
    exact Nat.le_trans bounded (by omega)
  · intro state middle next bounded high
    exact Nat.le_trans high (by unfold Grows at bounded; omega)

theorem Grows.bindSame (first : ∀ state, (code state).2.samples = state.samples)
    (second : ∀ value, Keeps (Grows count) (rest value)) :
    Keeps (Grows count) (code >>= rest) := by
  have kept : Keeps (Grows 0) code := fun state => .ofSame (first state)
  have both := Grows.bind kept second
  rwa [Nat.zero_add] at both

theorem ensure_samples {condition : Prop} [Decidable condition]
    {failure : Failure} (state : Finishing approval) :
    (ensure condition failure state).2.samples = state.samples := by
  unfold ensure
  split <;> rfl

theorem answered_samples
    (answer : Except Failure α) (state : Finishing approval) :
    (answered answer state).2.samples = state.samples := by
  cases answer <;> rfl

variable {before : Topology}

theorem measure_grows {after : Topology}
    (answers : List (Except Failure Sample)) (previous : Option Sample) :
    Keeps (Grows answers.length) (measure clock before after answers previous :
        Code (Finishing approval) Failure Unit) := by
  induction answers generalizing previous with
  | nil => exact fun state => .ofSame rfl
  | cons answer rest inductionHypothesis =>
      refine .bindSame (fun _ => rfl) fun _ =>
        .bindSame (answered_samples _) fun measured =>
        .bindSame ensure_samples fun _ => .bindSame ensure_samples fun _ =>
        .bindSame ensure_samples fun _ => ?_
      rw [List.length_cons, Nat.add_comm]
      refine Grows.bind (fun state => ?_) fun _ => inductionHypothesis _
      exact Nat.le_of_eq List.length_append

theorem checkTopology_samples
    (topology : Topology) (state : Finishing approval) :
    (checkTopology topology state).2.samples = state.samples := by
  unfold checkTopology
  rcases topology.check with (_ | _) | _ <;> rfl

theorem collect_grows (clock : Clock) (reservation : Reservation approval)
    (fixture : Option MeasurementFixture) :
    Keeps (Grows 15) (collect clock reservation fixture) := by
  refine .bindSame (fun _ => rfl) fun _ => .bindSame (fun state => ?_) ?_
  · cases fixture <;> rfl
  · intro evidence state
    by_cases isWhole : evidence.samples.length = 15
    · revert state
      refine .bindSame ensure_samples fun _ =>
        .bindSame (answered_samples _) fun before =>
        .bindSame (answered_samples _) fun after =>
        .bindSame (checkTopology_samples _) fun _ =>
        .bindSame (checkTopology_samples _) fun _ =>
        .bindSame (fun _ => rfl) fun _ => .bindSame ensure_samples fun _ =>
        .bindSame (fun _ => rfl) fun _ => .bindSame ensure_samples fun _ => ?_
      rw [← isWhole, ← Nat.add_zero evidence.samples.length]
      exact Grows.bind (measure_grows _ _) fun _ => fun _ => .ofSame rfl
    · refine .ofSame ?_
      simp only [bind, Code.bind, ensure, if_neg isWhole]

theorem answered_returned {answer : Except Failure α} {value : α} :
    answered answer state = (.returned value, last) ↔
      answer = .ok value ∧ state = last := by
  cases answer <;> simp [answered]

theorem within_gate (isSome : state.verifier.reservation = some reservation)
    (ran : within (gate clock) state = (.returned (), last)) :
    (state.verifier.IsReady reservation ∧
        Opens clock reservation 1 state.verifier.lastWall
          state.verifier.wallReads state.verifier.monotonicReads) ∧
      { state with verifier := passed clock state.verifier } = last := by
  obtain ⟨ended, isNext⟩ := Prod.mk.inj ran
  obtain ⟨ready, opens, same⟩ := (gate_returned isSome).mp (Prod.ext ended rfl)
  refine ⟨⟨ready, opens⟩, ?_⟩
  rw [same]
  exact isNext

theorem measure_returned
    {after : Topology} {answers : List (Except Failure Sample)}
    {previous : Option Sample} (ran :
      measure clock before after answers previous state = (.returned (), last))
    (isSome : state.verifier.reservation = some reservation) :
    ∃ samples, answers = samples.map .ok ∧
        Linked (Continues before after) previous samples ∧
        Opens clock reservation answers.length state.verifier.lastWall
          state.verifier.wallReads state.verifier.monotonicReads ∧
        last.samples.length = state.samples.length + answers.length ∧
        last.topology = state.topology ∧
        last.verifier = (passed clock)^[answers.length] state.verifier := by
  induction answers generalizing previous state with
  | nil =>
      obtain ⟨_, rfl⟩ := Attempts.pure_returned.mp ran
      exact ⟨[], rfl, trivial, trivial, rfl, rfl, rfl⟩
  | cons answer rest inductionHypothesis =>
      simp only [measure, Attempts.bind_returned, Attempts.ensure_returned,
        Attempts.change_returned] at ran
      obtain ⟨_, middle, isGate, measured, answered, isAnswer, _, _,
        ⟨isWithin, rfl⟩, _, _, ⟨inOrder, rfl⟩, _, _, ⟨continues, rfl⟩, _, _,
        rfl, ran⟩ := ran
      obtain ⟨opens, rfl⟩ := within_gate isSome isGate
      obtain ⟨rfl, rfl⟩ := answered_returned.mp isAnswer
      obtain ⟨samples, rfl, linked, opensRest, count, topology, verifier⟩ :=
        inductionHypothesis ran isSome
      refine
        ⟨measured :: samples, rfl, ⟨⟨isWithin, inOrder, continues⟩, linked⟩,
          ⟨opens.2.1, opensRest⟩, ?_, topology, ?_⟩
      · simp only [count, List.length_append, List.length_cons,
          List.length_nil, List.length_map]
        omega
      · rw [verifier, List.length_cons, Function.iterate_succ_apply]

theorem iterate_passed (count : Nat) (verifier : Verifier approval) :
    (passed clock)^[count + 1] verifier =
      { verifier with
        lastWall := clock.wall (verifier.wallReads + count)
        wallReads := verifier.wallReads + count + 1
        monotonicReads := verifier.monotonicReads + count + 1 } := by
  induction count with
  | zero => rfl
  | succ count inductionHypothesis =>
      rw [Function.iterate_succ_apply', inductionHypothesis]
      rfl

theorem Opens.concat {lastWall wallAt monotonicAt : Nat}
    (opens : Opens clock reservation (count + 1) lastWall wallAt monotonicAt)
    (isLast : Opens clock reservation 1 (clock.wall (wallAt + count))
        (wallAt + count + 1) (monotonicAt + count + 1)) :
    Opens clock reservation (count + 2) lastWall wallAt monotonicAt := by
  induction count generalizing lastWall wallAt monotonicAt with
  | zero => exact ⟨opens.1, isLast⟩
  | succ count inductionHypothesis =>
      refine ⟨opens.1, inductionHypothesis opens.2 ?_⟩
      rw [Nat.add_right_comm wallAt 1 count,
        Nat.add_right_comm monotonicAt 1 count]
      exact isLast

theorem checkTopology_returned {topology : Topology} :
    checkTopology topology state = (.returned (), last) ↔
      topology.check = .ok () ∧ state = last := by
  unfold checkTopology
  rcases topology.check with (_ | _) | _ <;> simp [denied, answered]

theorem collect_returned (isSome : verifier.reservation = some reservation)
    (ran : tried clock reservation fixture verifier = (.returned (), last)) :
    verifier.Passes clock reservation fixture ∧ last.samples.length = 15 ∧
      last.topology.isSome = true ∧
      last.verifier.wallReads = verifier.wallReads + 18 := by
  simp only [tried, collect, Attempts.bind_returned, Attempts.ensure_returned,
    Attempts.change_returned, Attempts.required_returned] at ran
  obtain ⟨_, _, isGate, evidence, _, ⟨isFixture, rfl⟩, _, _, ⟨isWhole, rfl⟩,
    before, _, isBefore, after, _, isAfter, _, _, checkedBefore, _, _,
    checkedAfter, _, _, rfl, _, _, ⟨inOrder, rfl⟩, now, _, isRead, _, _,
    ⟨isWithin, rfl⟩, _, _, measured, isLast⟩ := ran
  obtain ⟨⟨ready, opens⟩, rfl⟩ := within_gate isSome isGate
  obtain ⟨foundBefore, rfl⟩ := answered_returned.mp isBefore
  obtain ⟨foundAfter, rfl⟩ := answered_returned.mp isAfter
  obtain ⟨okBefore, rfl⟩ := checkTopology_returned.mp checkedBefore
  obtain ⟨okAfter, rfl⟩ := checkTopology_returned.mp checkedAfter
  obtain ⟨isNow, rfl⟩ := Prod.mk.inj isRead
  obtain rfl := Outcome.returned.inj isNow
  obtain ⟨samples, areSamples, linked, opensMany, count, topology, isMany⟩ :=
    measure_returned measured isSome
  rw [isWhole, iterate_passed] at isMany
  rw [isWhole] at opensMany count
  obtain ⟨⟨_, opensLast⟩, rfl⟩ :=
    within_gate (by rw [isMany]; exact isSome) isLast
  rw [isMany] at opensLast
  refine
    ⟨⟨ready, opens, opensMany.concat opensLast, evidence, isFixture, before,
        after, samples, foundBefore, foundAfter, okBefore, okAfter, inOrder.1,
        inOrder.2, isWithin.1, isWithin.2, areSamples, ?_, linked⟩,
      ?_, ?_, ?_⟩
  · rw [areSamples, List.length_map] at isWhole
    exact isWhole
  · rw [count]
    rfl
  · rw [topology]
    rfl
  · rw [isMany]
    rfl

/-! ## How a call ends -/

variable {now : Nat} {ended : Outcome Failure Unit}

theorem evidenceOf_contract (bounded : state.samples.length ≤ 15) :
    (evidenceOf reservation now ended state).MeetsContract ↔
      Doubles.sub (min now reservation.deadline) reservation.start ≤
        twoSeconds := by
  have isSpan : Doubles.sub
        (max reservation.start (min now reservation.deadline))
        reservation.start =
      Doubles.sub (min now reservation.deadline) reservation.start := by
    rw [Doubles.sub, Doubles.sub]
    congr 1
    omega
  refine ⟨fun meets => isSpan ▸ meets.2.1, fun isShort => ?_⟩
  refine ⟨Nat.le_max_left _ _, isSpan ▸ isShort, ?_, ?_,
    reservation.isShort.1, (Nat.le_min.mp reservation.isShort.2).1⟩
  · simpa [evidenceOf] using bounded
  · refine List.ext_getElem ?_ fun index low high => ?_
    · simp [evidenceOf]
    · simp [evidenceOf, Sample.resultAt]

theorem reasonOf_mem (failure : Failure) :
    reasonOf failure ∈ unknownReasons := by
  cases failure with
  | other => decide
  | denied reason =>
      by_cases isKnown : reason ∈ unknownReasons
      · simpa only [reasonOf, if_pos isKnown] using isKnown
      · simp only [reasonOf, if_neg isKnown]
        decide

theorem evidenceOf_verified
    (whole : state.samples.length = 15) (proven : state.topology.isSome = true)
    (late : reservation.start ≤ now) (early : now < reservation.deadline) :
    (evidenceOf reservation now (.returned ()) state).MeetsResult := by
  refine ⟨rfl, ?_, proven, ?_, early, ?_⟩
  · simpa [evidenceOf] using whole
  · simp only [evidenceOf]
    omega
  · intro result member
    obtain ⟨index, low, rfl⟩ := List.mem_mapIdx.mp member
    simp only [Sample.resultAt]
    split <;> simp [*]

theorem conclude_returned
    (ended : Outcome Failure Unit) (bounded : state.samples.length ≤ 15)
    (isShort : Doubles.sub
        (min (clock.wall verifier.wallReads) reservation.deadline)
        reservation.start ≤ twoSeconds)
    (meets : (evidenceOf reservation (clock.wall verifier.wallReads) ended
        state).MeetsResult) :
    ∃ evidence, evidence =
          evidenceOf reservation (clock.wall verifier.wallReads) ended state ∧
        conclude clock reservation ended state verifier = (.returned evidence,
            { verifier with
              wallReads := verifier.wallReads + 1
              terminal := some evidence
              circuit := decide (evidence.result = .unknown) }) := by
  refine ⟨_, rfl, ?_⟩
  simp only [conclude, bind, Code.bind, readWall, ensure, change,
    if_pos ((evidenceOf_contract bounded).mpr isShort), if_pos meets]
  rfl

/-- A call of `finish` that closes returns what it stores. -/
theorem finish_returned (isSome : verifier.reservation = some reservation)
    (isOpen : verifier.terminal = none)
    (closes : verifier.Closes clock fixture) :
    ∃ evidence next,
      finish clock fixture verifier = (.returned evidence, next) ∧
        next.terminal = some evidence ∧
        evidence.absoluteDeadline = reservation.deadline ∧
        (evidence.result = .verified →
          verifier.Passes clock reservation fixture ∧
            next.wallReads = verifier.wallReads + 19) := by
  have bounded : Grows 15 _ (tried clock reservation fixture verifier).2 :=
    collect_grows clock reservation fixture
      { verifier := verifier, samples := [], topology := none }
  obtain ⟨isShort, timely⟩ := closes reservation isSome isOpen
  rw [IsShort] at isShort
  simp only [finish, isSome, isOpen]
  rcases ran : tried clock reservation fixture verifier with
    ⟨_ | failure | _, state⟩
  all_goals
    rw [ran] at bounded isShort
    simp only [Grows, List.length_nil, Nat.zero_add] at bounded
  · obtain ⟨passes, whole, proven, reads⟩ := collect_returned isSome ran
    obtain ⟨_, late, early⟩ := timely passes
    rw [← reads] at late early
    obtain ⟨evidence, rfl, isEnd⟩ := conclude_returned _ bounded isShort
        (evidenceOf_verified whole proven late early)
    refine ⟨_, _, isEnd, rfl, rfl, fun _ => ⟨passes, ?_⟩⟩
    exact congrArg (· + 1) reads
  · obtain ⟨evidence, rfl, isEnd⟩ :=
      conclude_returned (.raised failure) bounded isShort (reasonOf_mem failure)
    exact ⟨_, _, isEnd, rfl, rfl, fun isVerified => by cases isVerified⟩
  · obtain ⟨evidence, rfl, isEnd⟩ :=
      conclude_returned .interrupted bounded isShort
        (by decide : "counter_evidence_invalid" ∈ unknownReasons)
    exact ⟨_, _, isEnd, rfl, rfl, fun isVerified => by cases isVerified⟩

/-! ## Runs -/

/-- The calls that end a reservation. -/
def switches : Action → Bool
  | .kill | .setEnabled _ => true
  | _ => false

/-- What holds from a call of `begin` on until there is evidence: since the
given reading none is late, unless it is below the last one recorded. -/
structure Waits
    (clock : Clock) (reservation : Reservation approval) (since : Nat)
    (verifier : Verifier approval) : Prop where
  isSome : verifier.reservation = some reservation
  isOpen : verifier.terminal = none
  early : ∀ number, since ≤ number → number < verifier.wallReads →
      clock.wall number ≤ verifier.lastWall ∨
        clock.wall number < reservation.deadline

variable {since deadline uuid : Nat} {action : Action}

theorem Waits.later (waits : Waits clock reservation since verifier)
    (later : Later clock verifier next) :
    Waits clock reservation since next := by
  refine ⟨later.reservation.trans waits.isSome,
    later.terminal.trans waits.isOpen, fun number low high => ?_⟩
  rw [later.reads] at high
  rcases Nat.lt_succ_iff_lt_or_eq.mp high with earlier | rfl
  · exact (waits.early number low earlier).imp_left
      fun below => Nat.le_trans below later.last
  · exact .inl later.reading

theorem begin_closed (clock : Clock) (deadline : Nat) (isClosed :
      (verifier.reservation.isNone && verifier.terminal.isNone) = false) :
    (begin clock deadline verifier).2 = (gate clock verifier).2 := by
  have later := gate_later clock verifier
  rcases Attempts.bind_state (gate clock) _ verifier with
    ⟨_, middle, isGate, isRest⟩ | isSame
  · rw [isGate] at later
    rw [← later.reservation, ← later.terminal] at isClosed
    rw [begin, isRest, isGate]
    simp only [bind, Code.bind, inspect, ensure]
    rw [if_neg fun isFree => by simp [isFree] at isClosed]
  · exact isSame

theorem begin_later (clock : Clock) (deadline : Nat)
    (isSome : verifier.reservation = some reservation) :
    Later clock verifier (begin clock deadline verifier).2 := by
  rw [begin_closed clock deadline (by rw [isSome]; rfl)]
  exact gate_later clock verifier

/-- A call of `begin` that returns waits under a reservation. -/
theorem begin_returned
    (begun : begin clock deadline verifier = (.returned uuid, next)) :
    verifier.terminal = none ∧ ∃ reservation : Reservation approval,
        reservation.deadline = deadline ∧ next.epoch = reservation.epoch ∧
          Waits clock reservation verifier.wallReads next := by
  simp only [begin, Attempts.bind_returned, Attempts.inspect_returned,
    Attempts.ensure_returned] at begun
  obtain ⟨_, middle, isGate, _, _, ⟨rfl, rfl⟩, _, _, ⟨isFree, rfl⟩, now, _,
    isRead, begun⟩ := begun
  obtain ⟨isNow, rfl⟩ := Prod.mk.inj isRead
  obtain rfl := Outcome.returned.inj isNow
  have later := gate_later clock verifier
  rw [isGate] at later
  have isOpen := Option.isNone_iff_eq_none.mp isFree.2.2
  split at begun
  next isShort =>
    simp only [Attempts.bind_returned, Attempts.change_returned,
      Attempts.pure_returned, readMonotonic, Prod.mk.injEq] at begun
    obtain ⟨_, _, ⟨_, rfl⟩, _, _, rfl, _, rfl⟩ := begun
    refine ⟨later.terminal.symm.trans isOpen, _, rfl, rfl, rfl, isOpen,
        fun number low high => ?_⟩
    change number < middle.wallReads + 1 at high
    rw [later.reads] at high
    rcases Nat.eq_or_lt_of_le low with rfl | above
    · exact .inl later.reading
    · obtain rfl : number = verifier.wallReads + 1 := by omega
      rw [← later.reads]
      exact .inr isShort.1
  next => cases congrArg Prod.fst begun

theorem expire_cases (clock : Clock)
    (isSome : verifier.reservation = some reservation)
    (isOpen : verifier.terminal = none) :
    Later clock verifier (expire clock verifier).2 ∨
      ((gate clock verifier).1 ≠ .returned () ∧
        expire clock verifier = finish clock none (gate clock verifier).2) := by
  have later := gate_later clock verifier
  simp only [expire, isSome, isOpen, Option.isNone_some, Bool.false_eq_true,
    if_false]
  rcases isGate : gate clock verifier with ⟨_ | _ | _, next⟩
  all_goals rw [isGate] at later
  · exact .inl later
  · exact .inr ⟨(fun same => nomatch same), rfl⟩
  · exact .inr ⟨(fun same => nomatch same), rfl⟩

theorem Waits.after (waits : Waits clock reservation since verifier)
    (permits : verifier.Permits clock action) :
    (Waits clock reservation since (verifier.after clock action) ∧
        (verifier.after clock action).epoch =
          verifier.epoch + bif switches action then 1 else 0) ∨
      ∃ evidence, (verifier.after clock action).terminal = some evidence ∧
        (evidence.result = .verified → ∃ fixture, action = .finish fixture ∧
            verifier.Passes clock reservation fixture ∧
            evidence.absoluteDeadline = reservation.deadline) := by
  cases action with
  | begin deadline =>
      have later := begin_later clock deadline waits.isSome
      exact .inl ⟨waits.later later, later.epoch⟩
  | finish fixture =>
      obtain ⟨evidence, _, isEnd, stored, isDeadline, verified⟩ :=
        finish_returned waits.isSome waits.isOpen permits
      refine .inr ⟨evidence, by rw [Verifier.after, isEnd, stored], ?_⟩
      intro isVerified
      exact ⟨fixture, rfl, (verified isVerified).1, isDeadline⟩
  | expire =>
      rcases expire_cases clock waits.isSome waits.isOpen with
        later | ⟨notPassed, isFinish⟩
      · exact .inl ⟨waits.later later, later.epoch⟩
      · have waitsNext := waits.later (gate_later clock verifier)
        obtain ⟨evidence, _, isEnd, stored, _, verified⟩ :=
          finish_returned waitsNext.isSome waitsNext.isOpen (permits notPassed)
        refine .inr
          ⟨evidence, by rw [Verifier.after, isFinish, isEnd, stored], ?_⟩
        intro isVerified
        obtain ⟨_, _, _, _, isFixture, _⟩ := (verified isVerified).1
        cases isFixture
  | kill => exact .inl ⟨⟨waits.isSome, waits.isOpen, waits.early⟩, rfl⟩
  | setEnabled enabled =>
      exact .inl ⟨⟨waits.isSome, waits.isOpen, waits.early⟩, rfl⟩

variable {evidence : CounterEvidence}

theorem after_terminal (stored : verifier.terminal = some evidence) :
    (verifier.after clock action).terminal = some evidence := by
  cases action with
  | begin deadline =>
      rw [Verifier.after, begin_closed clock deadline (by simp [stored])]
      exact (gate_later clock verifier).terminal.trans stored
  | finish fixture => simp only [Verifier.after, finish, stored]
  | expire =>
      simp only [Verifier.after, expire, stored]
      split <;> exact stored
  | kill => exact stored
  | setEnabled enabled => exact stored

theorem run_terminal {permitted : Verifier approval → Action → Prop}
    {actions : List Action} {last : Verifier approval}
    (run : Run (step? clock) permitted verifier actions last)
    (stored : verifier.terminal = some evidence) :
    last.terminal = some evidence := by
  refine run.invariant (fun state => state.terminal = some evidence) ?_ stored
  rintro state action next _ stepped kept
  cases stepped
  exact after_terminal kept

theorem Waits.run {actions : List Action} {last : Verifier approval}
    (run : Run (step? clock) (Permits clock) verifier actions last)
    (waits : Waits clock reservation since verifier)
    (isOpen : last.terminal = none) :
    Waits clock reservation since last ∧
      last.epoch = verifier.epoch + actions.countP switches := by
  induction run with
  | nil => exact ⟨waits, rfl⟩
  | @cons state next last action rest permits stepped tail
      inductionHypothesis =>
      cases stepped
      rcases waits.after permits with ⟨waitsNext, isEpoch⟩ | ⟨_, stored, _⟩
      · obtain ⟨waitsLast, isLast⟩ := inductionHypothesis waitsNext isOpen
        refine ⟨waitsLast, ?_⟩
        rw [isLast, isEpoch, List.countP_cons, Bool.cond_eq_ite]
        omega
      · rw [run_terminal tail stored] at isOpen
        cases isOpen

theorem Passes.early
    {number : Nat} (passes : verifier.Passes clock reservation fixture)
    (timely : verifier.IsTimely clock reservation)
    (low : verifier.wallReads ≤ number)
    (high : number < verifier.wallReads + 19) :
    clock.wall number < reservation.deadline := by
  obtain ⟨_, opens, opensRest, _⟩ := passes
  obtain ⟨early, _, isLast⟩ := timely
  rcases Nat.lt_or_ge number (verifier.wallReads + 1) with isFirst | later
  · exact opens.early low isFirst
  · rcases Nat.lt_or_ge number (verifier.wallReads + 2) with isSecond | above
    · obtain rfl : number = verifier.wallReads + 1 := by omega
      exact early
    · rcases Nat.lt_or_ge number (verifier.wallReads + 18) with isGate | isEnd
      · exact opensRest.early above (by omega)
      · obtain rfl : number = verifier.wallReads + 18 := by omega
        exact isLast

theorem Waits.closes (waits : Waits clock reservation since verifier)
    (permits : verifier.Permits clock action)
    (stored : (verifier.after clock action).terminal = some evidence)
    (isVerified : evidence.result = .verified) :
    ∃ fixture, action = .finish fixture ∧
        verifier.Passes clock reservation fixture ∧
        evidence.absoluteDeadline = reservation.deadline ∧
        ∀ number, since ≤ number → number < verifier.wallReads + 19 →
          clock.wall number < reservation.deadline := by
  rcases waits.after permits with
    ⟨waitsNext, _⟩ | ⟨found, isStored, verified⟩
  · rw [waitsNext.isOpen] at stored
    cases stored
  · obtain rfl := Option.some.inj (isStored.symm.trans stored)
    obtain ⟨fixture, rfl, passes, isDeadline⟩ := verified isVerified
    have timely := (permits _ waits.isSome waits.isOpen).2 passes
    refine ⟨fixture, rfl, passes, isDeadline, fun number low high => ?_⟩
    rcases Nat.lt_or_ge number verifier.wallReads with earlier | now
    · obtain ⟨⟨inOrder, _, isEarly, _⟩, _⟩ := passes.2.1
      rcases waits.early number low earlier with below | early
      · exact Nat.lt_of_le_of_lt (Nat.le_trans below inOrder) isEarly
      · exact early
    · exact passes.early timely now high

/-- From the call of `begin` that reserves on, every call of `finish` that is
short, and timely if it would verify, returns evidence, which is stored and
stays.  It is verified only if some call of `finish` since then has passed
seventeen gates and found its evidence acceptable, nothing having been switched
in between and no clock reading having been late from `begin` to that call's
end. -/
theorem verifier_verdicts {actions : List Action} {before : Verifier approval}
    (begun : begin clock deadline before = (.returned uuid, next))
    (run : Run (step? clock) (Permits clock) next actions verifier)
    (permits : verifier.Permits clock (.finish fixture)) :
    before.terminal = none ∧ ∃ evidence last,
        finish clock fixture verifier = (.returned evidence, last) ∧
          last.terminal = some evidence ∧
          (∀ later final, Run (step? clock) anything last later final →
              final.terminal = some evidence) ∧
          (evidence.result = .verified →
            ∃ reservation middle closing accepted late,
              actions ++ [.finish fixture] =
                  middle ++ .finish accepted :: late ∧
                Run (step? clock) (Permits clock) next middle closing ∧
                closing.Passes clock reservation accepted ∧
                (∀ action ∈ middle, switches action = false) ∧
                reservation.deadline = deadline ∧
                evidence.absoluteDeadline = deadline ∧
                ∀ number, before.wallReads ≤ number →
                  number < closing.wallReads + 19 →
                    clock.wall number < deadline ∧
                      clock.wall number < approval.expiresAt) := by
  obtain ⟨isOpenBefore, reservation, rfl, isEpoch, waits⟩ :=
    begin_returned begun
  have ended : ∃ evidence last,
        finish clock fixture verifier = (.returned evidence, last) ∧
          last.terminal = some evidence := by
    cases stored : verifier.terminal with
    | some evidence =>
        exact ⟨evidence, verifier, by simp only [finish, stored], stored⟩
    | none =>
        have waitsLast := (Waits.run run waits stored).1
        obtain ⟨evidence, last, isEnd, isStored, _⟩ :=
          finish_returned waitsLast.isSome waitsLast.isOpen permits
        exact ⟨evidence, last, isEnd, isStored⟩
  obtain ⟨evidence, last, isEnd, stored⟩ := ended
  refine ⟨isOpenBefore, evidence, last, isEnd, stored,
      fun _ _ later => run_terminal later stored, fun isVerified => ?_⟩
  have whole :
      Run (step? clock) (Permits clock) next (actions ++ [.finish fixture])
        last := by
    refine run.append (.single permits ?_)
    rw [step?, Verifier.after, isEnd]
  obtain ⟨middle, action, late, closing, closed, isSplit, middleRun, allowed,
    stepped, lateRun, isOpen, isClosed⟩ :=
    whole.exists_permitted (fun state => state.terminal ≠ none)
      (fun isSome => isSome waits.isOpen)
      (by rw [stored]; exact Option.some_ne_none _)
  cases stepped
  obtain ⟨found, isFound⟩ := Option.ne_none_iff_exists'.mp isClosed
  obtain rfl :=
    Option.some.inj ((run_terminal lateRun isFound).symm.trans stored)
  obtain ⟨waitsLast, count⟩ :=
    Waits.run middleRun waits (Decidable.not_not.mp isOpen)
  obtain ⟨accepted, rfl, passes, isDeadline, early⟩ :=
    waitsLast.closes allowed isFound isVerified
  have none : middle.countP switches = 0 := by
    have isReady := passes.1.2.2
    omega
  refine
    ⟨reservation, middle, closing, accepted, late, isSplit, middleRun, passes,
      ?_, rfl, isDeadline, fun number low high => ?_⟩
  · simpa using List.countP_eq_zero.mp none
  · have isEarly := early number low high
    exact ⟨isEarly, Nat.lt_of_lt_of_le isEarly
        (Nat.le_min.mp reservation.isShort.2).2⟩

/-! ## The pilot -/

/-- Half a second. -/
def halfSecond : Nat :=
  Doubles.second / 2

/-- The approval of the pilot. -/
def pilotApproval : CounterApproval where
  contextUuid := 7
  createdAt := halfSecond
  expiresAt := 9 * Doubles.second
  runtimeCreatedAt := halfSecond
  runtimeExpiresAt := 9 * Doubles.second
  isValid := by decide +kernel

/-- A clock that stands still, but for one reading of the time. -/
def pilotClock (number : Nat) (reading : Nat) : Clock where
  wall := fun count => if count = number then reading else Doubles.second
  monotonic := fun _ => 0

/-- A topology of the pilot. -/
def pilotTopology : Topology where
  observedAt := Doubles.second
  digest := "t"
  check := .ok ()

/-- A fixture that is acceptable. -/
def pilotFixture : MeasurementFixture where
  topologyBefore := .ok pilotTopology
  topologyAfter := .ok pilotTopology
  samples := (List.range 15).map fun count =>
      .ok
        { startedAt := Doubles.second
          finishedAt := Doubles.second
          before := [(count, 60 * count)]
          after := [(count + 1, 60 * count + 60)]
          reply := .rst
          isShort := by decide +kernel }

/-- The verifier of the pilot, once it is enabled. -/
def pilot (clock : Clock) : Verifier pilotApproval :=
  (start clock).after clock (.setEnabled true)

/-- The verifier of the pilot, once it has reserved. -/
def begun (clock : Clock) (deadline : Nat) : Verifier pilotApproval :=
  (begin clock deadline (pilot clock)).2

/-- A clock that stands still. -/
def stillClock : Clock := pilotClock 0 Doubles.second

theorem stillClock_wall (number : Nat) :
    stillClock.wall number = Doubles.second :=
  ite_self _

theorem pilot_begins :
    begin stillClock twoSeconds (pilot stillClock) =
      (.returned 7, begun stillClock twoSeconds) :=
  Prod.ext (by decide +kernel) rfl

theorem isShort_still (verifier : Verifier approval)
    (reservation : Reservation approval) (fixture : Option MeasurementFixture) :
    verifier.IsShort stillClock reservation fixture := by
  refine isShort_of_le (Nat.le_trans (Nat.min_le_left _ _) ?_)
  rw [stillClock_wall]
  unfold twoSeconds
  omega

theorem verifier_verdicts_pilot :
    ∃ next, begin stillClock twoSeconds (pilot stillClock) =
          (.returned 7, next) ∧
        ∃ evidence last, finish stillClock (some pilotFixture) next =
              (.returned evidence, last) ∧
            last.terminal = some evidence := by
  refine ⟨_, pilot_begins, ?_⟩
  have verdicts := verifier_verdicts pilot_begins .nil
      (?_ : Verifier.Permits _ _ (.finish (some pilotFixture)))
  · obtain ⟨_, evidence, last, isEnd, stored, _⟩ := verdicts
    exact ⟨evidence, last, isEnd, stored⟩
  · intro reservation isSome _
    have times : (begun stillClock twoSeconds).reservation.map
          (fun reservation => (reservation.start, reservation.deadline)) =
        some (Doubles.second, twoSeconds) := by
      decide +kernel
    rw [isSome] at times
    obtain ⟨isStart, isDeadline⟩ := Prod.mk.inj (Option.some.inj times)
    refine ⟨isShort_still _ _ _, fun _ => ?_⟩
    rw [IsTimely, stillClock_wall, stillClock_wall, isStart, isDeadline]
    exact ⟨by decide +kernel, Nat.le_refl _, by decide +kernel⟩

/-- What a call of `finish` of the pilot leaves. -/
def finished (clock : Clock) :
    Outcome Failure CounterEvidence × Verifier pilotApproval :=
  finish clock (some pilotFixture) (begun clock twoSeconds)

/-- A start, somewhat later than two seconds, to which two seconds are added
with a rounding. -/
def oddStart : Nat :=
  twoSeconds + 3 * 2 ^ 1023

/-- The time that is rounded up to, more than two seconds later. -/
def oddDeadline : Nat :=
  2 * twoSeconds + 4 * 2 ^ 1023

/-- A clock that reaches the deadline when it is read for the third time. -/
def oddClock : Clock where
  wall := fun count => if count < 3 then oddStart else oddDeadline
  monotonic := fun _ => 0

/-- A call of `finish` on a verifier that was killed. -/
def oddFinished : Outcome Failure CounterEvidence × Verifier pilotApproval :=
  finish oddClock (some pilotFixture)
    ((begun oddClock oddDeadline).after oddClock .kill)

/-- When the last reading is late, `finish` raises and stores nothing; a late
reading for the topology does not keep evidence from being verified; and where
the deadline is more than two seconds after the start, by a rounding, `finish`
raises and stores nothing after a kill. -/
theorem verifier_verdicts_late :
    ((begin (pilotClock 21 (5 * Doubles.second)) twoSeconds
            (pilot (pilotClock 21 (5 * Doubles.second)))).1 =
          .returned 7 ∧
        (finished (pilotClock 21 (5 * Doubles.second))).1 =
          .raised (.denied "counter_evidence_result") ∧
        (finished (pilotClock 21 (5 * Doubles.second))).2.terminal = none) ∧
      ((begin (pilotClock 4 (5 * Doubles.second)) twoSeconds
            (pilot (pilotClock 4 (5 * Doubles.second)))).1 =
          .returned 7 ∧
        (finished (pilotClock 4 (5 * Doubles.second))).2.terminal.map
            (fun evidence => (evidence.result, evidence.absoluteDeadline)) =
          some (.verified, twoSeconds) ∧
        (begun (pilotClock 4 (5 * Doubles.second)) twoSeconds).wallReads ≤ 4 ∧
        4 < (finished (pilotClock 4 (5 * Doubles.second))).2.wallReads ∧
        twoSeconds ≤ (pilotClock 4 (5 * Doubles.second)).wall 4) ∧
      Doubles.round oddStart = oddStart ∧
        Doubles.round oddDeadline = oddDeadline ∧
        (begin oddClock oddDeadline (pilot oddClock)).1 = .returned 7 ∧
        oddFinished.1 = .raised (.denied "counter_evidence_contract") ∧
        oddFinished.2.terminal = none := by
  decide +kernel

/-! ## After a switch -/

/-- The reservation and the evidence stand as they did. -/
def Held (state next : Finishing approval) : Prop :=
  next.verifier.reservation = state.verifier.reservation ∧
    next.verifier.terminal = state.verifier.terminal ∧
    next.verifier.epoch = state.verifier.epoch

instance : Std.Refl (Held : Finishing approval → Finishing approval → Prop) :=
  ⟨fun _ => ⟨rfl, rfl, rfl⟩⟩

instance : IsTrans (Finishing approval) Held :=
  ⟨fun _ _ _ first second => ⟨second.1.trans first.1,
    second.2.1.trans first.2.1, second.2.2.trans first.2.2⟩⟩

theorem Held.gate :
    Keeps Held (within (gate clock) : Code (Finishing approval) Failure Unit) :=
  fun state =>
    have later := gate_later clock state.verifier
    ⟨later.reservation, later.terminal, later.epoch⟩

theorem Held.answered (answer : Except Failure α) :
    Keeps Held (answered answer : Code (Finishing approval) Failure α) := by
  cases answer <;> exact fun _ => ⟨rfl, rfl, rfl⟩

theorem Held.checkTopology (topology : Topology) :
    Keeps (Held : Finishing approval → Finishing approval → Prop)
      (checkTopology topology) := by
  unfold Verifier.checkTopology
  rcases topology.check with (_ | _) | _ <;> exact fun _ => ⟨rfl, rfl, rfl⟩

theorem measure_held {after : Topology} (answers : List (Except Failure Sample))
    (previous : Option Sample) :
    Keeps Held (measure clock before after answers previous :
        Code (Finishing approval) Failure Unit) := by
  induction answers generalizing previous with
  | nil => exact .pure ()
  | cons answer rest inductionHypothesis =>
      exact .bind .gate fun _ => .bind (.answered _) fun _ =>
        .bind (.ensure _ _) fun _ => .bind (.ensure _ _) fun _ =>
        .bind (.ensure _ _) fun _ => .bind (fun _ => ⟨rfl, rfl, rfl⟩) fun _ =>
        inductionHypothesis _

theorem collect_held (clock : Clock) (reservation : Reservation approval)
    (fixture : Option MeasurementFixture) :
    Keeps Held (collect clock reservation fixture) :=
  .bind .gate fun _ => .bind (.required _ _) fun _ => .bind (.ensure _ _)
    fun _ => .bind (.answered _) fun _ => .bind (.answered _) fun _ =>
    .bind (.checkTopology _) fun _ => .bind (.checkTopology _) fun _ =>
    .bind (fun _ => ⟨rfl, rfl, rfl⟩) fun _ => .bind (.ensure _ _) fun _ =>
    .bind (fun _ => ⟨rfl, rfl, rfl⟩) fun _ => .bind (.ensure _ _) fun _ =>
    .bind (measure_held _ _) fun _ => .gate

/-- Something was switched under the reservation, and there is no evidence. -/
def IsVoid (reservation : Reservation approval) (verifier : Verifier approval) :
    Prop :=
  verifier.reservation = some reservation ∧ verifier.terminal = none ∧
    reservation.epoch < verifier.epoch

theorem IsVoid.later
    (isVoid : IsVoid reservation verifier) (later : Later clock verifier next) :
    IsVoid reservation next :=
  ⟨later.reservation.trans isVoid.1, later.terminal.trans isVoid.2.1,
    later.epoch ▸ isVoid.2.2⟩

theorem IsVoid.not_passes (isVoid : IsVoid reservation verifier) :
    ¬ verifier.Passes clock reservation fixture := by
  intro passes
  have isReady := passes.1.2.2
  have isLater := isVoid.2.2
  omega

theorem IsVoid.finish (isVoid : IsVoid reservation verifier) (clock : Clock)
    (fixture : Option MeasurementFixture) :
    (∃ evidence next, finish clock fixture verifier =
          (.returned evidence, next) ∧
        next.terminal = some evidence ∧ evidence.result = .unknown) ∨
      (¬ verifier.IsShort clock reservation fixture ∧
        (finish clock fixture verifier).1 =
          .raised (.denied "counter_evidence_contract") ∧
        IsVoid reservation (finish clock fixture verifier).2) := by
  by_cases isShort : verifier.IsShort clock reservation fixture
  · have closes : verifier.Closes clock fixture := by
      intro other isOther _
      obtain rfl := Option.some.inj (isVoid.1.symm.trans isOther)
      exact ⟨isShort, fun passes => (isVoid.not_passes passes).elim⟩
    obtain ⟨evidence, next, isEnd, stored, _, verified⟩ :=
      finish_returned isVoid.1 isVoid.2.1 closes
    refine .inl ⟨evidence, next, isEnd, stored, ?_⟩
    cases isResult : evidence.result with
    | unknown => rfl
    | verified => exact (isVoid.not_passes (verified isResult).1).elim
  · have held := collect_held clock reservation fixture
      { verifier := verifier, samples := [], topology := none }
    have bounded : Grows 15 _ (tried clock reservation fixture verifier).2 :=
      collect_grows clock reservation fixture
        { verifier := verifier, samples := [], topology := none }
    simp only [Grows, List.length_nil, Nat.zero_add] at bounded
    have notMet (ended : Outcome Failure Unit) : ¬ (evidenceOf reservation
            (clock.wall (tried clock reservation fixture
              verifier).2.verifier.wallReads) ended
            (tried clock reservation fixture verifier).2).MeetsContract :=
      mt (evidenceOf_contract bounded).mp isShort
    have isEnd : Verifier.finish clock fixture verifier =
        (.raised (.denied "counter_evidence_contract"),
          { (tried clock reservation fixture verifier).2.verifier with
            wallReads := (tried clock reservation fixture
              verifier).2.verifier.wallReads + 1 }) := by
      simp only [Verifier.finish, isVoid.1, isVoid.2.1, conclude, bind,
        Code.bind, readWall, ensure, if_neg (notMet _)]
    rw [isEnd]
    exact .inr ⟨isShort, rfl, held.1.trans isVoid.1, held.2.1.trans isVoid.2.1,
      held.2.2 ▸ isVoid.2.2⟩

/-- The reservation is void, or what is stored is unknown. -/
def Fails (reservation : Reservation approval) (verifier : Verifier approval) :
    Prop :=
  IsVoid reservation verifier ∨
    ∃ evidence, verifier.terminal = some evidence ∧ evidence.result = .unknown

theorem IsVoid.finished (isVoid : IsVoid reservation verifier) (clock : Clock)
    (fixture : Option MeasurementFixture) :
    Fails reservation (Verifier.finish clock fixture verifier).2 := by
  rcases isVoid.finish clock fixture with
    ⟨evidence, next, isEnd, stored, isUnknown⟩ | ⟨_, _, isVoidNext⟩
  · rw [isEnd]
    exact .inr ⟨evidence, stored, isUnknown⟩
  · exact .inl isVoidNext

theorem Fails.after (fails : Fails reservation verifier) :
    Fails reservation (verifier.after clock action) := by
  rcases fails with isVoid | ⟨evidence, stored, isUnknown⟩
  · cases action with
    | begin deadline =>
        exact .inl (isVoid.later (begin_later clock deadline isVoid.1))
    | finish fixture => exact isVoid.finished clock fixture
    | expire =>
        rcases expire_cases clock isVoid.1 isVoid.2.1 with
          later | ⟨_, isFinish⟩
        · exact .inl (isVoid.later later)
        · rw [Verifier.after, isFinish]
          exact (isVoid.later (gate_later clock verifier)).finished clock none
    | kill | setEnabled =>
        exact .inl ⟨isVoid.1, isVoid.2.1, Nat.lt_succ_of_lt isVoid.2.2⟩
  · exact .inr ⟨evidence, after_terminal stored, isUnknown⟩

/-- Once anything was switched under a reservation without evidence, whatever
the clocks and the fixtures, and whatever is called in between, no call of
`finish` verifies: it returns evidence that is unknown, and stores it, or is
not short, and then raises and stores nothing. -/
theorem switched_unknown
    {early late : List Action} {before middle last : Verifier approval}
    (begun : begin clock deadline before = (.returned uuid, next))
    (earlyRun : Run (step? clock) (Permits clock) next early middle)
    (isOpen : middle.terminal = none) (isSwitch : switches action = true)
    (lateRun : Run (step? clock) anything (middle.after clock action) late last)
    (fixture : Option MeasurementFixture) :
    (∃ evidence final, finish clock fixture last = (.returned evidence, final) ∧
        final.terminal = some evidence ∧ evidence.result = .unknown) ∨
      ∃ reservation, last.reservation = some reservation ∧
        ¬ last.IsShort clock reservation fixture ∧
        (finish clock fixture last).1 =
          .raised (.denied "counter_evidence_contract") ∧
        (finish clock fixture last).2.terminal = none := by
  obtain ⟨_, reservation, _, isEpoch, waits⟩ := begin_returned begun
  obtain ⟨waitsMiddle, count⟩ := waits.run earlyRun isOpen
  have fails : Fails reservation (middle.after clock action) := by
    cases action with
    | kill | setEnabled =>
        refine .inl ⟨waitsMiddle.isSome, isOpen, ?_⟩
        change _ < middle.epoch + 1
        omega
    | _ => cases isSwitch
  have failsLast : Fails reservation last := by
    refine lateRun.invariant (Fails reservation) ?_ fails
    rintro state call next _ stepped held
    cases stepped
    exact held.after
  rcases failsLast with isVoid | ⟨evidence, stored, unknown⟩
  · rcases isVoid.finish clock fixture with
      returned | ⟨notShort, isRaised, isVoidNext⟩
    · exact .inl returned
    · exact .inr ⟨reservation, isVoid.1, notShort, isRaised, isVoidNext.2.1⟩
  · exact .inl ⟨evidence, last, by simp only [finish, stored], stored, unknown⟩

/-- A verifier that is killed and asked to expire. -/
theorem switched_unknown_killed :
    ∃ evidence final, finish stillClock (some pilotFixture)
          (((begun stillClock twoSeconds).after stillClock .kill).after
            stillClock .expire) =
          (.returned evidence, final) ∧
        final.terminal = some evidence ∧ evidence.result = .unknown := by
  refine (switched_unknown pilot_begins .nil (by decide +kernel) rfl
    (.single trivial rfl) (some pilotFixture)).resolve_right ?_
  rintro ⟨_, _, notShort, _⟩
  exact notShort (isShort_still _ _ _)

end Verifier

end TicketSandbox.Firewall.CounterVerifier
