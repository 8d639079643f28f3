import TicketSandbox.Sandbox.Agreement
import TicketSandbox.Sandbox.ProgramEvidence

namespace TicketSandbox.Sandbox.ProgramEvidence

/-!
# What the axes of the evidence cover

Every reason taints an axis, so that evidence whose axes are complete is
complete.  Where an axis of a program is complete, so is that axis of every
attempt that it counts, and what the program amounts to is their sum.
-/

open Completions (Json)
open LedgerEvidence
open Raises

/-! ## Axes of an attempt -/

/-- The three axes of `source_axes`. -/
def axisPrefixes : List (List String) :=
  [checkPrefixes, resetPrefixes, answerPrefixes]

theorem sourceAxis_reasons_nil {prefixes found gaps : List String} :
    (sourceAxis prefixes found gaps).reasons = [] ↔
      (sourceAxis prefixes found gaps).isComplete = true := by
  simp only [sourceAxis, List.isEmpty_iff]
  constructor
  · intro sorted
    refine List.eq_nil_iff_forall_not_mem.mpr fun reason member => ?_
    have still := (List.mem_insertionSort (· ≤ ·)).mpr
      (List.mem_dedup.mpr member)
    rw [sorted] at still
    cases still
  · intro empty
    rw [empty]
    rfl

variable {text : String} {found gaps : List String} {db : Db} {axis : Axis}
  {credit : List Db} {completion : Option Completion} {entries : List Entry}
  {attempt : ProgramAttempt}

theorem startsWith_own
    (own : startsWith (checkPrefixes ++ resetPrefixes ++ answerPrefixes) text =
        true) :
    ∃ prefixes ∈ axisPrefixes, startsWith prefixes text = true := by
  simp only [startsWith, List.any_append, Bool.or_eq_true] at own
  rcases own with (checks | resets) | answers
  · exact ⟨checkPrefixes, by simp [axisPrefixes], checks⟩
  · exact ⟨resetPrefixes, by simp [axisPrefixes], resets⟩
  · exact ⟨answerPrefixes, by simp [axisPrefixes], answers⟩

theorem tainted (isListed : text ∈ found ++ gaps) (common :
      startsWith (checkPrefixes ++ resetPrefixes ++ answerPrefixes) text ≠
          true →
        text ∈ commonReasons found gaps) :
    ∃ prefixes ∈ axisPrefixes,
      (sourceAxis prefixes found gaps).isComplete = false := by
  have taints :
      ∀ prefixes ∈ axisPrefixes, text ∈ axisReasons prefixes found gaps →
        ∃ prefixes ∈ axisPrefixes,
          (sourceAxis prefixes found gaps).isComplete = false := by
    intro prefixes isAxis member
    refine ⟨prefixes, isAxis, ?_⟩
    exact List.isEmpty_eq_false_iff.mpr (List.ne_nil_of_mem member)
  by_cases own :
      startsWith (checkPrefixes ++ resetPrefixes ++ answerPrefixes) text = true
  · obtain ⟨prefixes, isAxis, starts⟩ := startsWith_own own
    exact taints prefixes isAxis
      (List.mem_append_right _ (List.mem_filter.mpr ⟨isListed, starts⟩))
  · exact taints checkPrefixes (by simp [axisPrefixes])
      (List.mem_append_left _ (common own))

/-- Every reason has an axis. -/
theorem sourceAxis_exhaustive (agree : "ledger_gap" ∈ found ↔ gaps ≠ []) :
    (∃ prefixes ∈ axisPrefixes,
        (sourceAxis prefixes found gaps).isComplete = false) ↔
      found ≠ [] := by
  constructor
  · rintro ⟨prefixes, _, unknown⟩ none
    have noGaps : gaps = [] := by
      by_contra some
      have member := agree.mpr some
      rw [none] at member
      cases member
    rw [none, noGaps] at unknown
    cases unknown
  · intro nonempty
    obtain ⟨text, member⟩ := List.exists_mem_of_ne_nil _ nonempty
    by_cases isGap : text = "ledger_gap"
    · rw [isGap] at member
      obtain ⟨gap, isGap⟩ := List.exists_mem_of_ne_nil _ (agree.mp member)
      refine tainted (List.mem_append_right found isGap) fun foreign => ?_
      exact List.mem_append_right _
        (List.mem_filter.mpr ⟨isGap, decide_eq_true foreign⟩)
    · refine tainted (List.mem_append_left gaps member) fun foreign => ?_
      exact List.mem_append_left _
        (List.mem_filter.mpr ⟨member, decide_eq_true ⟨isGap, foreign⟩⟩)

/-! ## The evidence of an attempt -/

theorem ledgerGap_mem (db : Db) :
    "ledger_gap" ∈ (reasons db).map EvidenceReason.text ↔
      db.gaps.map gapText ≠ [] := by
  have nonempty : db.gaps.map gapText ≠ [] ↔ db.gaps ≠ [] := by
    rw [ne_eq, List.map_eq_nil_iff]
  rw [nonempty]
  constructor
  · intro member
    obtain ⟨reason, isReason, same⟩ := List.mem_map.mp member
    have isGap : reason = .ledgerGap :=
      text_injective (same : reason.text = EvidenceReason.ledgerGap.text)
    rw [isGap] at isReason
    cases reasons_reported isReason with
    | ledgerGap gaps => exact gaps
  · intro gaps
    refine List.mem_map.mpr ⟨.ledgerGap, ?_, rfl⟩
    simp only [reasons, List.mem_append, mem_listed]
    simp [gaps]

theorem attemptEvidence_isComplete (db : Db) :
    (attemptEvidence db).isComplete = true ↔
      (attemptEvidence db).checks.isComplete = true ∧
        (attemptEvidence db).resets.isComplete = true ∧
        (attemptEvidence db).answers.isComplete = true := by
  have exhaustive := sourceAxis_exhaustive (ledgerGap_mem db)
  have complete : (attemptEvidence db).isComplete = true ↔
        (reasons db).map EvidenceReason.text = [] :=
    List.isEmpty_iff
  rw [complete]
  constructor
  · intro none
    have noAxis : ∀ prefixes ∈ axisPrefixes,
          (sourceAxis prefixes ((reasons db).map EvidenceReason.text)
            (db.gaps.map gapText)).isComplete = true := by
      intro prefixes isAxis
      by_contra unknown
      exact exhaustive.mp ⟨prefixes, isAxis, Bool.eq_false_iff.mpr unknown⟩ none
    exact ⟨noAxis checkPrefixes (by simp [axisPrefixes]),
        noAxis resetPrefixes (by simp [axisPrefixes]),
        noAxis answerPrefixes (by simp [axisPrefixes])⟩
  · rintro ⟨checks, resets, answers⟩
    by_contra some
    obtain ⟨prefixes, isAxis, unknown⟩ := exhaustive.mpr some
    simp only [axisPrefixes, List.mem_cons, List.not_mem_nil, or_false]
      at isAxis
    rcases isAxis with rfl | rfl | rfl
    · exact Bool.false_ne_true (unknown.symm.trans checks)
    · exact Bool.false_ne_true (unknown.symm.trans resets)
    · exact Bool.false_ne_true (unknown.symm.trans answers)

theorem attemptEvidence_successfulResets
    (complete : (attemptEvidence db).resets.isComplete = true) :
    (attemptEvidence db).successfulResets =
      some (attemptEvidence db).observedSuccessfulResets :=
  if_pos complete

theorem attemptEvidence_validReturns
    (complete : (attemptEvidence db).answers.isComplete = true) :
    ∃ returns, (attemptEvidence db).validReturns = some returns :=
  ⟨_, if_pos complete⟩

theorem Axis.of_attemptEvidence
    (none : (axis.of (attemptEvidence db)).reasons = []) :
    (axis.of (attemptEvidence db)).isComplete = true := by
  cases axis with
  | checks => exact sourceAxis_reasons_nil.mp none
  | resets => exact sourceAxis_reasons_nil.mp none
  | answers => exact sourceAxis_reasons_nil.mp none

/-! ## The attempts of a program -/

/-- Every attempt shows the evidence of a stored attempt. -/
def Shown (attempts : List ProgramAttempt) : Prop :=
  ∀ attempt ∈ attempts, ∃ db, attempt.evidence = attemptEvidence db

variable {reasons : List String}

theorem entryEvidence_shown
    {entry : Entry} {attempt : Option ProgramAttempt} (returned :
      entryEvidence credit completion entry = .ok (reasons, attempt)) :
    Shown attempt.toList := by
  unfold entryEvidence at returned
  split at returned
  · cases returned
    exact List.forall_mem_nil _
  · rename_i db found
    obtain ⟨requiresReview, _, returned⟩ := bind_ok.mp returned
    obtain ⟨criteriaDigest, _, returned⟩ := bind_ok.mp returned
    cases returned
    exact List.forall_mem_singleton.mpr ⟨db, rfl⟩

variable {attempts : List ProgramAttempt}

theorem entriesEvidence_shown (returned :
      entriesEvidence credit completion entries = .ok (reasons, attempts)) :
    Shown attempts := by
  induction entries generalizing reasons attempts with
  | nil =>
      cases returned
      exact List.forall_mem_nil _
  | cons entry entries inductionHypothesis =>
      obtain ⟨⟨own, attempt⟩, first, returned⟩ := bind_ok.mp returned
      obtain ⟨⟨others, rest⟩, later, returned⟩ := bind_ok.mp returned
      cases returned
      exact List.forall_mem_append.mpr
        ⟨entryEvidence_shown first, inductionHypothesis later⟩

theorem Axis.complete_of_program (shown : Shown attempts)
    (complete : (axis.program reasons attempts).isComplete = true)
    (member : attempt ∈ attempts) (matters : axis.skips attempt = false) :
    (axis.of attempt.evidence).isComplete = true := by
  have bad := List.isEmpty_iff.mp complete
  have none : axis.attemptReasons attempt = [] :=
    List.flatMap_eq_nil_iff.mp (List.append_eq_nil_iff.mp bad).2 attempt member
  obtain ⟨db, same⟩ := shown attempt member
  rw [same]
  unfold Axis.attemptReasons at none
  rw [same] at none
  split at none
  · rename_i either
    rcases either with skipped | complete
    · rw [matters] at skipped
      cases skipped
    · exact complete
  · exact Axis.of_attemptEvidence none

theorem ProgramAttempt.matters (isCounted : attempt.isCounted = true) :
    Axis.answers.skips attempt = false := by
  unfold ProgramAttempt.isCounted at isCounted
  unfold Axis.skips
  cases review : attempt.requiresReview with
  | bool value =>
      rw [review] at isCounted
      simp only [isTruthy] at isCounted
      rw [isCounted]
      rfl
  | _ => rfl

theorem sum_known {items : List ProgramAttempt}
    {value : ProgramAttempt → Option Nat} {observed : ProgramAttempt → Nat}
    (known : ∀ item ∈ items, value item = some (observed item)) :
    items.map value = (items.map observed).map some := by
  rw [List.map_map]
  exact List.map_congr_left known

/-- The total is known exactly where the axis is complete, and then it is the
sum of the values of the attempts, which are all known. -/
structure SumsUp (axis : SourceAxis) (values : List (Option Nat))
    (total : Option Nat) : Prop where
  isKnown : total.isSome = true ↔ axis.isComplete = true
  sum : ∀ value, total = some value →
      ∃ known : List Nat, values = known.map some ∧ value = known.sum

theorem SumsUp.ofComplete
    {axis : SourceAxis} {values : List (Option Nat)} {known : List Nat}
    (isKnown : axis.isComplete = true → values = known.map some) :
    SumsUp axis values
      (if axis.isComplete then some known.sum else none) := by
  split
  · rename_i complete
    refine ⟨by simp [complete], fun value total => ?_⟩
    exact ⟨known, isKnown complete, (Option.some.inj total).symm⟩
  · rename_i unknown
    exact ⟨by simp [unknown], fun value total => by cases total⟩

theorem summarized_sumsUp {store : Store} {userId : Pk} {programKey : String}
    {manifest : Option Manifest} (shown : Shown attempts)
    {evidence : Evidence} (same :
      summarized store userId programKey manifest completion entries reasons
        attempts = evidence) :
    SumsUp evidence.resets (evidence.attempts.map fun attempt =>
          attempt.evidence.successfulResets)
        evidence.successfulResets ∧
      SumsUp evidence.answers
        ((evidence.attempts.filter ProgramAttempt.isCounted).map
          fun attempt => attempt.evidence.validReturns)
        evidence.validReturns := by
  subst same
  refine ⟨.ofComplete fun complete => sum_known fun attempt member => ?_,
    .ofComplete fun complete => sum_known fun attempt member => ?_⟩
  · obtain ⟨db, isEvidence⟩ := shown attempt member
    have known := Axis.complete_of_program shown complete member rfl
    rw [isEvidence] at known ⊢
    exact attemptEvidence_successfulResets known
  · obtain ⟨isAttempt, isCounted⟩ := List.mem_filter.mp member
    obtain ⟨db, isEvidence⟩ := shown attempt isAttempt
    have known := Axis.complete_of_program shown complete isAttempt
        (ProgramAttempt.matters isCounted)
    rw [isEvidence] at known ⊢
    obtain ⟨returns, isKnown⟩ := attemptEvidence_validReturns known
    rw [isKnown, Option.getD_some]

/-! ## Every axis -/

/-- Some axis is unknown exactly when there are reasons, so that the evidence
of an attempt is complete exactly when its axes are; and the evidence of a
program gives totals exactly where their axes are complete, which are the sums
of the values of the attempts that count. -/
theorem axes_exhaustive {found gaps : List String}
    (agree : "ledger_gap" ∈ found ↔ gaps ≠ []) (db : Db) {store : Store}
    {userId : Pk} {programKey : String} {evidence : Evidence}
    (returned : programEvidence store userId programKey = .ok evidence) :
    ((∃ prefixes ∈ axisPrefixes,
          (sourceAxis prefixes found gaps).isComplete = false) ↔
        found ≠ []) ∧
      ((attemptEvidence db).isComplete = true ↔
        (attemptEvidence db).checks.isComplete = true ∧
          (attemptEvidence db).resets.isComplete = true ∧
          (attemptEvidence db).answers.isComplete = true) ∧
      SumsUp evidence.resets (evidence.attempts.map fun attempt =>
          attempt.evidence.successfulResets)
        evidence.successfulResets ∧
      SumsUp evidence.answers
        ((evidence.attempts.filter ProgramAttempt.isCounted).map
          fun attempt => attempt.evidence.validReturns)
        evidence.validReturns := by
  refine ⟨sourceAxis_exhaustive agree, attemptEvidence_isComplete db, ?_⟩
  obtain ⟨entries, _, returned⟩ := bind_ok.mp returned
  obtain ⟨⟨reasons, attempts⟩, listed, returned⟩ := bind_ok.mp returned
  obtain ⟨_, _, returned⟩ := bind_ok.mp returned
  cases returned
  exact summarized_sumsUp (entriesEvidence_shown listed) rfl

/-- An attempt that its trainee reset once. -/
def resetAttempt (pk taskId : Pk) : Db :=
  let identity : AttemptIdentity :=
    { pk, userId := 1, taskId, attemptNumber := 1 }
  let task : Task :=
    { slug := "task"
      queueSlug := "l1"
      requiresManualReview := true
      aiReviewContext := false
      checkerFile := none
      observed := false }
  let foreign : ForeignIds :=
    { runs := [], environment := [], submissions := [], reviews := [] }
  let created :=
    Db.created identity task (fun _ => false) (fun _ _ => 0) foreign 100
  { created with
    attempt := { created.attempt with restartCount := 1 }
    environment :=
      [{ operationId := 7
         userId := 1
         taskId
         attemptNumber := 1
         kind := .reset
         actorId := some 1
         origin := .trainee
         requestedAt := 10
         started := some 11
         finished :=
           some { occurredAt := 12, outcome := .success, reason := .blank }
         duplicate := none }] }

/-- The entry of a task in a manifest. -/
def manifestTask (taskId : Int) (requiresReview : Json) : Json :=
  .object [("task_id", .int taskId), ("requires_review", requiresReview),
      ("criteria_digest", .text ['d'])]

/-- A trainee with two tasks, one of them with reviews. -/
def sampleStore : Store where
  digest _ := "digest"
  enabledAt := some 1
  manifests :=
    [{ pk := 1
       userId := 1
       programKey := "l1"
       requirementsVersion := 1
       source := "from_start"
       snapshot :=
         .object
           [("schema_version", .int 1),
             ("tasks",
               .list
                 [manifestTask 5 (.bool true), manifestTask 6 (.bool false)])]
       digest := "digest"
       recordedAt := 2 }]
  completions := []
  attempts := [resetAttempt 50 5, resetAttempt 60 6]

theorem axes_exhaustive_sample :
    ((∃ prefixes ∈ axisPrefixes, (sourceAxis prefixes ["ledger_gap"]
            ["review_without_submission"]).isComplete = false) ↔
        ["ledger_gap"] ≠ []) ∧
      ((attemptEvidence (resetAttempt 50 5)).isComplete = true ↔
        (attemptEvidence (resetAttempt 50 5)).checks.isComplete = true ∧
          (attemptEvidence (resetAttempt 50 5)).resets.isComplete = true ∧
          (attemptEvidence (resetAttempt 50 5)).answers.isComplete = true) ∧
      ∃ evidence, programEvidence sampleStore 1 "l1" = .ok evidence ∧
          evidence.successfulResets = some 2 ∧
          evidence.validReturns = some 0 ∧
          SumsUp evidence.resets (evidence.attempts.map fun attempt =>
              attempt.evidence.successfulResets)
            evidence.successfulResets ∧
          SumsUp evidence.answers
            ((evidence.attempts.filter ProgramAttempt.isCounted).map
              fun attempt => attempt.evidence.validReturns)
            evidence.validReturns := by
  have returned : ∃ evidence,
        programEvidence sampleStore 1 "l1" = .ok evidence ∧
          evidence.successfulResets = some 2 ∧
          evidence.validReturns = some 0 :=
    ⟨_, rfl, by decide, by decide⟩
  obtain ⟨evidence, isEvidence, resets, returns⟩ := returned
  obtain ⟨first, second, rest⟩ :=
    @axes_exhaustive ["ledger_gap"] ["review_without_submission"]
      (by decide) (resetAttempt 50 5) sampleStore 1 "l1" evidence isEvidence
  exact ⟨first, second, evidence, isEvidence, resets, returns, rest⟩

end TicketSandbox.Sandbox.ProgramEvidence
