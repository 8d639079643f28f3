import TicketSandbox.Sandbox.EvidenceFacts

namespace TicketSandbox.Sandbox

/-!
# The ledger agrees with the attempt

The four parts of the ledger invariant together.  They leave the evidence no
disagreement to report between the ledger and the mutable attempt.
-/

/-- The ledger under its coverage agrees with the attempt. -/
structure Agrees (coverage : AttemptCoverage) (db : Db) : Prop where
  covered : db.coverage = some coverage
  checks : ChecksRecorded coverage.initialChecks db
  resets : ResetsRecorded coverage.initialResets db
  submissions : SubmissionsRecorded db
  reviews : ReviewsRecorded db

variable {coverage : AttemptCoverage} {db : Db}

namespace Agrees

theorem created (identity : AttemptIdentity) (task : Task) (isStaff : Pk → Bool)
    (digest : Text → Text → Nat) (foreign : ForeignIds) {serial : Pk}
    (positive : 0 < serial) :
    ∃ coverage, coverage.initialChecks = 0 ∧ coverage.initialResets = 0 ∧
        Agrees coverage
          (Db.created identity task isStaff digest foreign serial) :=
  ⟨_, rfl, rfl,
    { covered := rfl
      checks := .created identity task isStaff digest foreign positive
      resets := .created identity task isStaff digest foreign serial
      submissions := .created identity task isStaff digest foreign serial
      reviews := .created identity task isStaff digest foreign serial }⟩

theorem isCovered
    (agrees : Agrees coverage db) : db.coverage.isSome = true := by
  rw [agrees.covered]
  rfl

theorem performed {db next : Db}
    {transaction : Transaction} {reply : Reply} (agrees : Agrees coverage db)
    (performed : Performed db transaction next reply) :
    Agrees coverage next where
  covered := performed.answerStep.2.coverage.trans agrees.covered
  checks := agrees.checks.performed performed
  resets := agrees.resets.performed performed
  submissions := agrees.submissions.performed agrees.checks.uniqueRuns performed
  reviews := agrees.reviews.performed agrees.submissions performed

theorem perform {next : Db} {transaction : Transaction} {reply : Reply}
    (agrees : Agrees coverage db) (grounded : transaction.Grounded db)
    (accepted : db.perform transaction = .ok (next, reply)) :
    Performed db transaction next reply :=
  Db.perform_performed agrees.isCovered agrees.checks.uniqueRuns
    agrees.resets.uniqueOperations grounded accepted

end Agrees

namespace LedgerEvidence

/--
The reasons that report a disagreement between the ledger and the attempt, or
within the ledger.
-/
def disagreements : List EvidenceReason :=
  [.checkCountMismatch, .resetCountMismatch, .checkOrdinalsMissing,
    .submissionOrdinalsMissing, .checkStartMissing,
    .checkRunDetailsMismatch, .checkRunMutated,
    .technicalEvidenceOutsideLedger, .reviewChainInvalid]

variable {initial : Nat} {pk : Pk} {finish fact : CheckFinished}

theorem orderedChecks_eq
    (recorded : ChecksRecorded initial db) : orderedChecks db = db.checks :=
  recorded.numbered.ordered_eq

theorem orderedSubmissions_eq (recorded : SubmissionsRecorded db) :
    orderedSubmissions db = db.submissions :=
  recorded.numbered.ordered_eq

theorem orderedReviews_eq (recorded : ReviewsRecorded db) (submissionId : Pk) :
    orderedReviews db submissionId = db.reviewsOf submissionId := by
  refine Rows.ordered_eq ?_
  exact recorded.increasing.sublist (List.filter_sublist.map _)

theorem mem_namedRuns (recorded : ChecksRecorded initial db) :
    (pk, finish) ∈ namedRuns db ↔ pk ≠ 0 ∧ ∃ row ∈ db.checks,
        row.FinishedBy finish ∧ finish.checkRunId = some pk := by
  simp only [namedRuns, orderedChecks_eq recorded, List.mem_filterMap,
    Option.bind_eq_some_iff, Option.map_eq_some_iff,
    Option.filter_eq_some_iff, Prod.mk.injEq, ne_eq,
    TechnicalCheckExecution.FinishedBy, decide_eq_true_eq]
  constructor
  · rintro ⟨row, member, event, finished, named, ⟨names, nonzero⟩, rfl, rfl⟩
    exact ⟨nonzero, row, member, finished, names⟩
  · rintro ⟨nonzero, row, member, finished, names⟩
    exact ⟨row, member, finish, finished, pk, ⟨names, nonzero⟩, rfl, rfl⟩

theorem mem_of_runFact?
    (isFact : runFact? db pk = some fact) : (pk, fact) ∈ namedRuns db := by
  obtain ⟨⟨named, event⟩, found, rfl⟩ := Option.map_eq_some_iff.mp isFact
  have sameRun : named = pk := by
    simpa using List.find?_some found
  subst sameRun
  exact List.mem_reverse.mp (List.mem_of_find?_eq_some found)

theorem runFact?_isSome
    (named : (pk, finish) ∈ namedRuns db) : (runFact? db pk).isSome = true := by
  rw [runFact?, Option.isSome_map, List.find?_isSome]
  exact ⟨(pk, finish), List.mem_reverse.mpr named, by simp⟩

theorem runs_agree (recorded : ChecksRecorded initial db) :
    (∀ run ∈ db.checkRuns, (runFact? db run.pk).isSome = true) ∧
      ∀ entry ∈ namedRuns db,
        (db.checkRuns.any fun run => run.pk = entry.1) = true := by
  constructor
  · intro run member
    obtain ⟨row, rowMember, finish, finished, names⟩ :=
      recorded.runNamed run member
    have nonzero : run.pk ≠ 0 := Nat.ne_of_gt (recorded.runPks run member).1
    exact runFact?_isSome
      ((mem_namedRuns recorded).mpr ⟨nonzero, row, rowMember, finished, names⟩)
  · rintro ⟨pk, finish⟩ named
    obtain ⟨_, row, member, finished, names⟩ :=
      (mem_namedRuns recorded).mp named
    obtain ⟨run, runMember, samePk, _⟩ :=
      recorded.runMatches row member finish finished pk names
    exact List.any_eq_true.mpr ⟨run, runMember, by simpa using samePk⟩

theorem run_unmutated {run : CheckRun} (recorded : ChecksRecorded initial db)
    (member : run ∈ db.checkRuns) (isFact : runFact? db run.pk = some fact) :
    isMutated run fact = false := by
  obtain ⟨_, row, rowMember, finished, names⟩ :=
    (mem_namedRuns recorded).mp (mem_of_runFact? isFact)
  obtain ⟨found, foundMember, samePk, agrees⟩ :=
    recorded.runMatches row rowMember fact finished run.pk names
  have sameRun : found = run :=
    Rows.eq_of_key recorded.uniqueRunPks foundMember member samePk
  subst sameRun
  simp [isMutated, agrees.exitCode, agrees.result]

/-- Where the tables agree the evidence shows no disagreement. -/
theorem no_disagreement (agrees : Agrees coverage db) :
    ∀ reason ∈ disagreements, reason ∉ reasons db := by
  intro reason listed found
  have counts :
      initialCounts db = (coverage.initialChecks, coverage.initialResets) := by
    simp [initialCounts, agrees.covered]
  cases reasons_reported found with
  | checkStartMissing execution present claims unstarted =>
      rw [orderedChecks_eq agrees.checks] at present
      obtain ⟨finish, finished, claims⟩ := Option.bind_eq_some_iff.mp claims
      have started :=
        agrees.checks.started execution present finish finished claims
      simp [unstarted] at started
  | checkOrdinalsMissing differs =>
      rw [orderedChecks_eq agrees.checks] at differs
      exact differs agrees.checks.numbered
  | reviewChainInvalid submission invalid =>
      rw [orderedReviews_eq agrees.reviews] at invalid
      exact invalid
        (chainReasons_of_linked (agrees.reviews.linked submission.pk))
  | submissionOrdinalsMissing differs =>
      rw [orderedSubmissions_eq agrees.submissions] at differs
      exact differs agrees.submissions.numbered
  | technicalEvidenceOutsideLedger passed outside =>
      obtain ⟨row, member, finish, finished, result⟩ :=
        agrees.checks.passedExecution passed
      refine outside row member ?_
      rw [show row.finished = some finish from finished, Option.map_some,
        result]
  | checkCountMismatch differs =>
      rw [counts, agrees.checks.counted, Nat.add_comm] at differs
      exact differs rfl
  | resetCountMismatch differs =>
      rw [counts, agrees.resets.counted, List.countP_eq_length_filter,
        Nat.add_comm] at differs
      exact differs rfl
  | checkRunDetailsMismatch differ => exact differ (runs_agree agrees.checks)
  | checkRunMutated run fact member isFact mutated =>
      rw [run_unmutated agrees.checks member isFact] at mutated
      simp at mutated
  | _ => simp [disagreements] at listed

theorem text_injective
    {first second : EvidenceReason} (same : first.text = second.text) :
    first = second := by
  cases first <;> cases second <;> first
      | rfl
      | simp [EvidenceReason.text] at same

/-- The texts of the evidence are those of its reasons. -/
theorem mem_attemptEvidence_reasons {reason : EvidenceReason} :
    reason.text ∈ (attemptEvidence db).reasons ↔ reason ∈ reasons db := by
  simp only [attemptEvidence, List.mem_insertionSort, List.mem_dedup,
    List.mem_map]
  constructor
  · rintro ⟨found, member, same⟩
    exact text_injective same ▸ member
  · intro member
    exact ⟨reason, member, rfl⟩

end LedgerEvidence

end TicketSandbox.Sandbox
