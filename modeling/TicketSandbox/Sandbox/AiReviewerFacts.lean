import TicketSandbox.Sandbox.AiReviewer

namespace TicketSandbox.Sandbox.AiReviewer

/-!
# What is sent to and read from the external model

A review is returned exactly when it has its checks and recommendations, and
the payload of a request raises nothing but reports exactly when the context
can be read.
-/

open Raises
  (Only bind_error bind_ok ensure_error ensure_ok only_bind only_ensure
    only_error only_guard only_iff only_pure required_ok)

/-! ## Reviews -/

/-- A check has its fields. -/
structure IsCheck (name : Str) (check : Document) : Prop where
  passed : ∃ value, check.item? (codes "passed") = some (.bool value)
  severity : ∃ text, check.item? (codes "severity") = some (.str text) ∧
      text ∈ allowedSeverities
  comment : ∃ text, check.item? (codes "comment") = some (.str text)
  missing : name = codes "completeness" →
      ∃ facts, check.item? (codes "missing_facts") = some facts ∧
        facts.IsStrings

/-- A review has exactly the required checks, and recommendations. -/
structure IsReview (review : Document) : Prop where
  checks : ∃ checks, review.item? (codes "checks") = some (.obj checks) ∧
      IsRequired (checks.map Prod.fst) ∧
      ∀ entry ∈ checks, IsCheck entry.1 entry.2
  recommendations :
    ∃ texts, review.item? (codes "recommendations") = some texts ∧
      texts.IsStrings

/-- The value is a list or an object. -/
def Document.IsContainer : Document → Prop
  | .arr _ => True
  | .obj _ => True
  | _ => False

/-- The severity of a check that has passed or not is a list or an object. -/
structure IsUnhashable (check : Document) : Prop where
  passed : ∃ value, check.item? (codes "passed") = some (.bool value)
  severity : ∃ severity, check.item? (codes "severity") = some severity ∧
      severity.IsContainer

/-- Behind checks that have their fields stands one whose severity is a list
or an object. -/
def HasUnhashable (review : Document) : Prop :=
  ∃ front entry behind,
    review.item? (codes "checks") = some (.obj (front ++ entry :: behind)) ∧
      IsRequired ((front ++ entry :: behind).map Prod.fst) ∧
      (∀ other ∈ front, IsCheck other.1 other.2) ∧
      IsUnhashable entry.2

variable {found : Option Document} {entry : Str × Document} {raised : Raised}
  {document : Document} {builtins : Builtins} {version clientAnswer : Str}
  {task : Task} {settings : Settings} {review : Review}

theorem getD_obj {members : List (Str × Document)} :
    found.getD .null = .obj members ↔ found = some (.obj members) := by
  cases found with
  | none => simp
  | some document => simp

theorem isStr_getD :
    (found.getD .null).IsStr ↔ ∃ text, found = some (.str text) := by
  rcases found with _ | document
  · simp [Document.IsStr]
  · cases document <;> simp [Document.IsStr]

theorem isBool_getD :
    (found.getD .null).isBool = true ↔ ∃ value, found = some (.bool value) := by
  rcases found with _ | document
  · simp [Document.isBool]
  · cases document <;> simp [Document.isBool]

theorem isStrings_getD :
    (found.getD .null).IsStrings ↔
      ∃ texts, found = some texts ∧ texts.IsStrings := by
  cases found with
  | none => simp [Document.IsStrings]
  | some texts => simp

theorem isAllowed_ok :
    isAllowed (found.getD .null) = .ok true ↔
      ∃ text, found = some (.str text) ∧ text ∈ allowedSeverities := by
  rcases found with _ | document
  · simp [isAllowed]
  · cases document <;> simp [isAllowed]

theorem isAllowed_error :
    isAllowed (found.getD .null) = .error raised ↔ raised = .typeError ∧
        ∃ severity, found = some severity ∧ severity.IsContainer := by
  rcases found with _ | document
  · simp [isAllowed]
  · cases document <;> simp [isAllowed, Document.IsContainer, eq_comm]

theorem validateCheck_ok :
    validateCheck entry = .ok () ↔ IsCheck entry.1 entry.2 := by
  obtain ⟨name, check⟩ := entry
  cases check with
  | obj members =>
      simp only [validateCheck, bind_ok, ensure_ok, exists_and_left,
        exists_const, isBool_getD]
      constructor
      · rintro ⟨passed, allowed, isAllowed, rfl, isComment, missing⟩
        refine
          { passed := passed
            severity := isAllowed_ok.mp isAllowed
            comment := isStr_getD.mp isComment
            missing := fun isCompleteness => ?_ }
        rw [if_pos isCompleteness] at missing
        exact isStrings_getD.mp (ensure_ok.mp missing)
      · intro isCheck
        refine ⟨isCheck.passed, true, isAllowed_ok.mpr isCheck.severity,
          rfl, isStr_getD.mpr isCheck.comment, ?_⟩
        by_cases isCompleteness : name = codes "completeness"
        · rw [if_pos isCompleteness]
          exact ensure_ok.mpr
            (isStrings_getD.mpr (isCheck.missing isCompleteness))
        · rw [if_neg isCompleteness]
  | _ =>
      constructor
      · intro isOk
        cases isOk
      · intro isCheck
        obtain ⟨_, isThere⟩ := isCheck.passed
        cases isThere

theorem validateCheck_error (isRaised : validateCheck entry = .error raised) :
    raised = invalidStructure ∨ raised = .typeError ∧ IsUnhashable entry.2 := by
  obtain ⟨name, check⟩ := entry
  cases check with
  | obj members =>
      rcases bind_error.mp isRaised with notPassed | ⟨_, passed, isRaised⟩
      · exact Or.inl (ensure_error.mp notPassed).2
      rcases bind_error.mp isRaised with isFound | ⟨_, _, isRaised⟩
      · obtain ⟨rfl, isContainer⟩ := isAllowed_error.mp isFound
        exact Or.inr ⟨rfl, isBool_getD.mp (ensure_ok.mp passed), isContainer⟩
      rcases bind_error.mp isRaised with notAllowed | ⟨_, _, isRaised⟩
      · exact Or.inl (ensure_error.mp notAllowed).2
      rcases bind_error.mp isRaised with noComment | ⟨_, _, isRaised⟩
      · exact Or.inl (ensure_error.mp noComment).2
      by_cases isCompleteness : name = codes "completeness"
      · rw [if_pos isCompleteness] at isRaised
        exact Or.inl (ensure_error.mp isRaised).2
      · rw [if_neg isCompleteness] at isRaised
        cases isRaised
  | _ => exact Or.inl (Except.error.inj isRaised).symm

theorem IsUnhashable.raises (isUnhashable : IsUnhashable entry.2) :
    validateCheck entry = .error .typeError := by
  obtain ⟨name, check⟩ := entry
  obtain ⟨isPassed, isContainer⟩ := isUnhashable
  cases check with
  | obj members =>
      refine bind_error.mpr (Or.inr ⟨(), ?_, ?_⟩)
      · exact ensure_ok.mpr (isBool_getD.mpr isPassed)
      · exact bind_error.mpr (Or.inl (isAllowed_error.mpr ⟨rfl, isContainer⟩))
  | _ =>
      obtain ⟨_, isThere⟩ := isPassed
      cases isThere

variable {checks : List (Str × Document)}

theorem validateChecks_ok :
    validateChecks checks = .ok () ↔
      ∀ entry ∈ checks, IsCheck entry.1 entry.2 := by
  induction checks with
  | nil => simp [validateChecks]
  | cons entry others inductionHypothesis =>
      rw [validateChecks, bind_ok, List.forall_mem_cons]
      constructor
      · rintro ⟨_, isOk, areOk⟩
        exact ⟨validateCheck_ok.mp isOk, inductionHypothesis.mp areOk⟩
      · rintro ⟨isCheck, areChecks⟩
        exact ⟨(), validateCheck_ok.mpr isCheck,
          inductionHypothesis.mpr areChecks⟩

theorem validateChecks_error
    (isRaised : validateChecks checks = .error raised) :
    raised = invalidStructure ∨ raised = .typeError ∧ ∃ front entry behind,
          checks = front ++ entry :: behind ∧
            (∀ other ∈ front, IsCheck other.1 other.2) ∧
            IsUnhashable entry.2 := by
  induction checks with
  | nil => cases isRaised
  | cons entry others inductionHypothesis =>
      rcases bind_error.mp isRaised with here | ⟨_, isOk, later⟩
      · rcases validateCheck_error here with
          isInvalid | ⟨isTypeError, isUnhashable⟩
        · exact Or.inl isInvalid
        · exact Or.inr ⟨isTypeError, [], entry, others, rfl, nofun,
            isUnhashable⟩
      · rcases inductionHypothesis later with
          isInvalid |
            ⟨isTypeError, front, other, behind, rfl, areChecks, isUnhashable⟩
        · exact Or.inl isInvalid
        · refine Or.inr ⟨isTypeError, entry :: front, other, behind, rfl,
            ?_, isUnhashable⟩
          exact List.forall_mem_cons.mpr ⟨validateCheck_ok.mp isOk, areChecks⟩

theorem validateChecks_unhashable {front behind : List (Str × Document)}
    (areChecks : ∀ other ∈ front, IsCheck other.1 other.2)
    (isUnhashable : IsUnhashable entry.2) :
    validateChecks (front ++ entry :: behind) = .error .typeError := by
  induction front with
  | nil => exact bind_error.mpr (Or.inl isUnhashable.raises)
  | cons other others inductionHypothesis =>
      obtain ⟨isCheck, areOthers⟩ := List.forall_mem_cons.mp areChecks
      exact bind_error.mpr (Or.inr
        ⟨(), validateCheck_ok.mpr isCheck, inductionHypothesis areOthers⟩)

theorem validateReviewResponse_ok {review : Document} :
    validateReviewResponse review = .ok () ↔ IsReview review := by
  constructor
  · intro isOk
    unfold validateReviewResponse at isOk
    split at isOk
    · rename_i members
      split at isOk
      · rename_i checks isChecks
        obtain ⟨_, isRequired, isOk⟩ := bind_ok.mp isOk
        obtain ⟨_, areChecks, areStrings⟩ := bind_ok.mp isOk
        exact
          { checks := ⟨checks, getD_obj.mp isChecks,
              ensure_ok.mp isRequired, validateChecks_ok.mp areChecks⟩
            recommendations := isStrings_getD.mp (ensure_ok.mp areStrings) }
      · cases isOk
    · cases isOk
  · rintro ⟨⟨checks, isChecks, isRequired, areChecks⟩, areStrings⟩
    cases review with
    | obj members =>
        have isThere :
            (members.lookup (codes "checks")).getD .null = .obj checks :=
          getD_obj.mpr isChecks
        unfold validateReviewResponse
        dsimp only
        rw [isThere]
        exact bind_ok.mpr ⟨(), ensure_ok.mpr isRequired,
          bind_ok.mpr ⟨(), validateChecks_ok.mpr areChecks,
            ensure_ok.mpr (isStrings_getD.mpr areStrings)⟩⟩
    | _ => cases isChecks

theorem validateReviewResponse_only
    {allowed : Raised → Prop} (isInvalid : allowed invalidStructure)
    (notTypeError : ¬ allowed .typeError) {review : Document} :
    Only allowed (validateReviewResponse review) ↔ ¬ HasUnhashable review := by
  constructor
  · rintro isOnly ⟨front, entry, behind, isChecks, isRequired, areChecks,
      isUnhashable⟩
    refine notTypeError (isOnly .typeError ?_)
    cases review with
    | obj members =>
        have isThere : (members.lookup (codes "checks")).getD .null =
              .obj (front ++ entry :: behind) :=
          getD_obj.mpr isChecks
        unfold validateReviewResponse
        dsimp only
        rw [isThere]
        exact bind_error.mpr (Or.inr ⟨(), ensure_ok.mpr isRequired,
          bind_error.mpr (Or.inl
            (validateChecks_unhashable areChecks isUnhashable))⟩)
    | _ => cases isChecks
  · intro noUnhashable raised isRaised
    unfold validateReviewResponse at isRaised
    split at isRaised
    · rename_i members
      split at isRaised
      · rename_i checks isChecks
        rcases bind_error.mp isRaised with notNames | ⟨_, isNames, isRaised⟩
        · exact (ensure_error.mp notNames).2 ▸ isInvalid
        rcases bind_error.mp isRaised with inChecks | ⟨_, _, isRaised⟩
        · rcases validateChecks_error inChecks with
            rfl | ⟨_, front, entry, behind, rfl, areChecks, isUnhashable⟩
          · exact isInvalid
          · exact (noUnhashable ⟨front, entry, behind,
              getD_obj.mp isChecks, ensure_ok.mp isNames,
              areChecks, isUnhashable⟩).elim
        · exact (ensure_error.mp isRaised).2 ▸ isInvalid
      · exact Except.error.inj isRaised ▸ isInvalid
    · exact Except.error.inj isRaised ▸ isInvalid

/-! ## Requests -/

/-- A raised error is one that the row of the review can report. -/
def IsReported (raised : Raised) : Prop :=
  ∃ message, raised = .aiReviewer message ∧ IsText message

/-- The value is an object. -/
def Document.IsObject (document : Document) : Prop :=
  ∃ members, document = .obj members

/-- The value can be iterated over. -/
def Document.IsIterable : Document → Prop
  | .str _ => True
  | .arr _ => True
  | .obj _ => True
  | _ => False

/-- The metadata of a context. -/
def metadataOf (context : Document) : Document :=
  (context.item? (codes "_review_metadata")).getD (.obj [])

/-- The required facts of a context. -/
def factsOf (context : Document) : Document :=
  (context.item? (codes "required_client_facts")).getD (.arr [])

/-- A context from which the input of a review can be built. -/
structure IsContext (version : Str) (context : Document) : Prop where
  object : context.IsObject
  facts : (factsOf context).IsTruthy → (factsOf context).IsIterable
  metadata : version = codes "v3" → (metadataOf context).IsObject

/-- Everything is there that is checked before a request is built. -/
structure IsConfigured
    (settings : Settings) (review : Review) (version : Str) : Prop where
  agentId : ¬ IsBlank settings.agentId
  token : ¬ IsBlank settings.token
  context : review.task.aiReviewContext.IsTruthy
  answer : ¬ IsBlank review.clientAnswer
  supported : version ∈ [codes "v1", codes "v2", codes "v3"]
  prompt : version = codes "v3" →
      ∃ prompt, settings.promptFile = some prompt ∧ ¬ IsBlank prompt

/-- The recorded hash is not the one of another prompt. -/
def HasSameHash
    (builtins : Builtins) (settings : Settings) (context : Document) : Prop :=
  ∀ prompt, settings.promptFile = some prompt → ¬ IsOtherHash
      (((metadataOf context).item? (codes "system_prompt_sha256")).getD .null)
      (builtins.sha256 prompt)

/-- Nothing but reports is raised where the request is built. -/
def IsBuilt (builtins : Builtins) (settings : Settings) (context : Document)
    (version : Str) : Prop :=
  if version = codes "v3" then
    context.IsObject ∧ (metadataOf context).IsObject ∧
      (HasSameHash builtins settings context → IsContext version context)
  else
    IsContext version context

theorem isText_append {first second : Str} :
    IsText (first ++ second) ↔ IsText first ∧ IsText second := by
  unfold IsText
  exact List.forall_mem_append

/-- An error of the reviewer is reported. -/
theorem isReported {message : Str} (isText : IsText message) :
    IsReported (.aiReviewer message) :=
  ⟨message, rfl, isText⟩

/-- Another exception than `AIReviewerError`. -/
def IsOther (raised : Raised) : Prop :=
  ∀ message, raised ≠ .aiReviewer message

theorem IsOther.not_isReported
    (isOther : IsOther raised) : ¬ IsReported raised := by
  rintro ⟨message, isMessage, _⟩
  exact isOther message isMessage

theorem only_isReported
    {α : Type} {result : Except Raised α} (isOther : Only IsOther result) :
    Only IsReported result ↔ ∃ value, result = .ok value := by
  rw [only_iff]
  constructor
  · rintro (isOk | ⟨raised, isRaised, isReported⟩)
    · exact isOk
    · exact ((isOther raised isRaised).not_isReported isReported).elim
  · exact Or.inl

/-- A member of anything but an object raises another error. -/
theorem get_isOther {key : Str} : Only IsOther (document.get key) := by
  cases document with
  | obj members => exact only_pure _
  | _ => exact only_error.mpr (fun _ isReport => by cases isReport)

/-- Only an object has members to look up. -/
theorem get_ok {key : Str} :
    document.get key = .ok found ↔
      document.IsObject ∧ found = document.item? key := by
  cases document with
  | obj members =>
      constructor
      · intro isOk
        exact ⟨⟨members, rfl⟩, (Except.ok.inj isOk).symm⟩
      · rintro ⟨_, rfl⟩
        rfl
  | _ =>
      constructor
      · intro isOk
        cases isOk
      · rintro ⟨⟨_, isObject⟩, _⟩
        cases isObject

theorem elementsOf_isOther : Only IsOther (elementsOf document) := by
  cases document with
  | str _ => exact only_pure _
  | arr _ => exact only_pure _
  | obj _ => exact only_pure _
  | _ => exact only_error.mpr (fun _ isReport => by cases isReport)

theorem elementsOf_ok :
    (∃ elements, elementsOf document = .ok elements) ↔
      document.IsIterable := by
  cases document with
  | str _ => exact ⟨fun _ => trivial, fun _ => ⟨_, rfl⟩⟩
  | arr _ => exact ⟨fun _ => trivial, fun _ => ⟨_, rfl⟩⟩
  | obj _ => exact ⟨fun _ => trivial, fun _ => ⟨_, rfl⟩⟩
  | _ =>
      constructor
      · rintro ⟨_, isOk⟩
        cases isOk
      · intro isIterable
        exact isIterable.elim

theorem requiredFactsText_isOther
    {facts : Document} : Only IsOther (requiredFactsText builtins facts) := by
  unfold requiredFactsText
  split
  · exact only_bind.mpr ⟨elementsOf_isOther, fun _ _ => only_pure _⟩
  · exact only_pure _

theorem requiredFactsText_ok {facts : Document} :
    (∃ text, requiredFactsText builtins facts = .ok text) ↔
      (facts.IsTruthy → facts.IsIterable) := by
  unfold requiredFactsText
  split
  · rename_i isTruthy
    constructor
    · rintro ⟨text, isOk⟩ _
      obtain ⟨elements, isElements, _⟩ := bind_ok.mp isOk
      exact elementsOf_ok.mp ⟨elements, isElements⟩
    · intro isIterable
      obtain ⟨elements, isElements⟩ := elementsOf_ok.mpr (isIterable isTruthy)
      exact ⟨_, bind_ok.mpr ⟨elements, isElements, rfl⟩⟩
  · rename_i notTruthy
    exact ⟨fun _ isTruthy => (notTruthy isTruthy).elim, fun _ => ⟨_, rfl⟩⟩

variable {context : Document}

theorem contextText_isOther
    {key : Str} : Only IsOther (contextText builtins context key) :=
  only_bind.mpr ⟨get_isOther, fun _ _ => only_pure _⟩

theorem contextPart_isOther {factsText version : Str} :
    Only IsOther (contextPart builtins context factsText version) := by
  refine only_bind.mpr ⟨contextText_isOther, fun _ _ => ?_⟩
  refine only_bind.mpr ⟨contextText_isOther, fun _ _ => ?_⟩
  refine only_bind.mpr ⟨contextText_isOther, fun _ _ => ?_⟩
  split
  · exact only_pure _
  · exact only_pure _

theorem contextPart_ok (builtins : Builtins) (isObject : context.IsObject)
    (factsText version : Str) :
    ∃ text, contextPart builtins context factsText version = .ok text := by
  obtain ⟨members, rfl⟩ := isObject
  by_cases isFirst : version = codes "v1"
  · exact ⟨_, bind_ok.mpr ⟨_, rfl, bind_ok.mpr ⟨_, rfl,
      bind_ok.mpr ⟨_, rfl, if_pos isFirst⟩⟩⟩⟩
  · exact ⟨_, bind_ok.mpr ⟨_, rfl, bind_ok.mpr ⟨_, rfl,
      bind_ok.mpr ⟨_, rfl, if_neg isFirst⟩⟩⟩⟩

theorem reviewMetadata_ok {metadata : Document} :
    reviewMetadata context = .ok metadata ↔
      context.IsObject ∧ metadata = metadataOf context := by
  unfold reviewMetadata
  rw [bind_ok]
  constructor
  · rintro ⟨found, isFound, isMetadata⟩
    obtain ⟨isObject, rfl⟩ := get_ok.mp isFound
    exact ⟨isObject, (Except.ok.inj isMetadata).symm⟩
  · rintro ⟨isObject, rfl⟩
    exact ⟨_, get_ok.mpr ⟨isObject, rfl⟩, rfl⟩

theorem reviewMetadata_isOther : Only IsOther (reviewMetadata context) :=
  only_bind.mpr ⟨get_isOther, fun _ _ => only_pure _⟩

theorem technicalPart_isOther :
    Only IsOther (technicalPart context version) := by
  unfold technicalPart
  split
  · refine only_bind.mpr ⟨reviewMetadata_isOther, fun _ _ => ?_⟩
    exact only_bind.mpr ⟨get_isOther, fun _ _ => only_pure _⟩
  · exact only_pure _

theorem technicalPart_ok (isObject : context.IsObject) :
    (∃ text, technicalPart context version = .ok text) ↔
      (version = codes "v3" → (metadataOf context).IsObject) := by
  unfold technicalPart
  split
  · rename_i isThird
    constructor
    · rintro ⟨text, isOk⟩ _
      obtain ⟨metadata, isMetadata, isOk⟩ := bind_ok.mp isOk
      obtain ⟨_, rfl⟩ := reviewMetadata_ok.mp isMetadata
      obtain ⟨found, isFound, _⟩ := bind_ok.mp isOk
      exact (get_ok.mp isFound).1
    · intro isMetadata
      exact ⟨_, bind_ok.mpr ⟨_, reviewMetadata_ok.mpr ⟨isObject, rfl⟩,
        bind_ok.mpr ⟨_, get_ok.mpr ⟨isMetadata isThird, rfl⟩, rfl⟩⟩⟩
  · rename_i notThird
    exact ⟨fun _ isThird => (notThird isThird).elim, fun _ => ⟨_, rfl⟩⟩

theorem buildReviewInput_isOther :
    Only IsOther
      (buildReviewInput builtins task clientAnswer context version) := by
  refine only_bind.mpr ⟨get_isOther, fun _ _ => ?_⟩
  refine only_bind.mpr ⟨requiredFactsText_isOther, fun _ _ => ?_⟩
  refine only_bind.mpr ⟨contextPart_isOther, fun _ _ => ?_⟩
  exact only_bind.mpr ⟨technicalPart_isOther, fun _ _ => only_pure _⟩

theorem buildReviewInput_ok :
    (∃ input, buildReviewInput builtins task clientAnswer context version =
          .ok input) ↔
      IsContext version context := by
  constructor
  · rintro ⟨input, isOk⟩
    obtain ⟨found, isFound, isOk⟩ := bind_ok.mp isOk
    obtain ⟨isObject, rfl⟩ := get_ok.mp isFound
    obtain ⟨factsText, isFacts, isOk⟩ := bind_ok.mp isOk
    obtain ⟨part, _, isOk⟩ := bind_ok.mp isOk
    obtain ⟨technical, isTechnical, _⟩ := bind_ok.mp isOk
    exact
      { object := isObject
        facts := requiredFactsText_ok.mp ⟨factsText, isFacts⟩
        metadata := (technicalPart_ok isObject).mp ⟨technical, isTechnical⟩ }
  · intro isContext
    have isObject := isContext.object
    obtain ⟨factsText, isFacts⟩ :=
      (@requiredFactsText_ok builtins _).mpr isContext.facts
    obtain ⟨part, isPart⟩ := contextPart_ok builtins isObject factsText version
    obtain ⟨technical, isTechnical⟩ :=
      (technicalPart_ok isObject).mpr isContext.metadata
    exact ⟨_, bind_ok.mpr ⟨_, get_ok.mpr ⟨isObject, rfl⟩,
      bind_ok.mpr ⟨_, isFacts, bind_ok.mpr ⟨_, isPart,
        bind_ok.mpr ⟨_, isTechnical, rfl⟩⟩⟩⟩⟩

variable {prompt : Str}

theorem checkHash_ok :
    checkHash builtins context prompt = .ok () ↔
      context.IsObject ∧ (metadataOf context).IsObject ∧ ¬ IsOtherHash
          (((metadataOf context).item? (codes "system_prompt_sha256")).getD
            .null)
          (builtins.sha256 prompt) := by
  constructor
  · intro isOk
    obtain ⟨metadata, isMetadata, isOk⟩ := bind_ok.mp isOk
    obtain ⟨isObject, rfl⟩ := reviewMetadata_ok.mp isMetadata
    obtain ⟨found, isFound, isSame⟩ := bind_ok.mp isOk
    obtain ⟨isEntries, rfl⟩ := get_ok.mp isFound
    exact ⟨isObject, isEntries, ensure_ok.mp isSame⟩
  · rintro ⟨isObject, isEntries, isSame⟩
    exact bind_ok.mpr ⟨_, reviewMetadata_ok.mpr ⟨isObject, rfl⟩,
      bind_ok.mpr ⟨_, get_ok.mpr ⟨isEntries, rfl⟩, ensure_ok.mpr isSame⟩⟩

theorem checkHash_isReported :
    Only IsReported (checkHash builtins context prompt) ↔
      context.IsObject ∧ (metadataOf context).IsObject := by
  unfold checkHash
  rw [only_bind, only_isReported reviewMetadata_isOther]
  constructor
  · rintro ⟨⟨metadata, isMetadata⟩, isOnly⟩
    obtain ⟨isObject, rfl⟩ := reviewMetadata_ok.mp isMetadata
    have inside := (only_bind.mp (isOnly _ isMetadata)).1
    obtain ⟨found, isFound⟩ := (only_isReported get_isOther).mp inside
    exact ⟨isObject, (get_ok.mp isFound).1⟩
  · rintro ⟨isObject, isEntries⟩
    refine ⟨⟨_, reviewMetadata_ok.mpr ⟨isObject, rfl⟩⟩,
      fun metadata isMetadata => ?_⟩
    obtain ⟨_, rfl⟩ := reviewMetadata_ok.mp isMetadata
    refine only_bind.mpr
      ⟨(only_isReported get_isOther).mpr ⟨_, get_ok.mpr ⟨isEntries, rfl⟩⟩,
        fun _ _ => only_ensure.mpr (Or.inr (isReported (by decide)))⟩

/-- A supported version is used as it is given. -/
theorem resolvePromptVersion_supported
    (isSupported : version ∈ [codes "v1", codes "v2", codes "v3"]) :
    resolvePromptVersion settings (some version) = .ok version :=
  if_pos isSupported

theorem resolvePromptVersion_isReported {version : Stored} :
    Only IsReported (resolvePromptVersion settings (some version.val)) := by
  unfold resolvePromptVersion
  dsimp only [Option.getD_some]
  split
  · exact only_pure _
  · exact only_error.mpr
      (isReported (isText_append.mpr ⟨by decide, version.property⟩))

theorem resolvePromptVersion_ok {found : Str}
    (isOk : resolvePromptVersion settings (some version) = .ok found) :
    version ∈ [codes "v1", codes "v2", codes "v3"] := by
  by_contra notSupported
  cases (if_neg notSupported).symm.trans isOk

theorem loadSystemPrompt_other
    (isSupported : version ∈ [codes "v1", codes "v2", codes "v3"])
    (notThird : version ≠ codes "v3") :
    loadSystemPrompt settings version = .ok none := by
  unfold loadSystemPrompt
  rw [resolvePromptVersion_supported isSupported]
  exact if_pos notThird

theorem loadSystemPrompt_third
    (isFile : settings.promptFile = some prompt) (notBlank : ¬ IsBlank prompt) :
    loadSystemPrompt settings (codes "v3") = .ok (some prompt) := by
  have isSupported : codes "v3" ∈ [codes "v1", codes "v2", codes "v3"] := by
    decide
  refine bind_ok.mpr ⟨_, resolvePromptVersion_supported isSupported, ?_⟩
  refine (if_neg (not_not.mpr rfl)).trans ?_
  refine bind_ok.mpr ⟨prompt, ?_, bind_ok.mpr ⟨(), ?_, rfl⟩⟩
  · rw [isFile]
    rfl
  · exact ensure_ok.mpr notBlank

theorem loadSystemPrompt_ok {found : Option Str}
    (isOk : loadSystemPrompt settings (codes "v3") = .ok found) :
    ∃ prompt, settings.promptFile = some prompt ∧ ¬ IsBlank prompt := by
  obtain ⟨version, isVersion, isOk⟩ := bind_ok.mp isOk
  cases (resolvePromptVersion_supported (by decide)).symm.trans isVersion
  obtain ⟨prompt, isPrompt, isOk⟩ :=
    bind_ok.mp ((if_neg (not_not.mpr rfl)).symm.trans isOk)
  obtain ⟨_, notBlank, _⟩ := bind_ok.mp isOk
  exact ⟨prompt, required_ok.mp isPrompt, ensure_ok.mp notBlank⟩

theorem loadSystemPrompt_isReported
    (isSupported : version ∈ [codes "v1", codes "v2", codes "v3"]) :
    Only IsReported (loadSystemPrompt settings version) := by
  unfold loadSystemPrompt
  rw [resolvePromptVersion_supported isSupported]
  refine only_bind.mpr ⟨only_pure _, fun other isOther => ?_⟩
  cases isOther
  split
  · exact only_pure _
  · refine only_bind.mpr ⟨?_, fun prompt _ => ?_⟩
    · exact Raises.only_required.mpr (Or.inr (isReported (by decide)))
    · exact only_bind.mpr ⟨only_ensure.mpr (Or.inr (isReported (by decide))),
          fun _ _ => only_pure _⟩

theorem messagesOf_none :
    Only IsReported (messagesOf builtins review version none) ↔
      IsContext version review.context := by
  unfold messagesOf
  rw [only_bind, only_isReported buildReviewInput_isOther, buildReviewInput_ok]
  exact ⟨fun both => both.1, fun isContext =>
    ⟨isContext, fun _ _ => only_pure _⟩⟩

theorem messagesOf_some :
    Only IsReported (messagesOf builtins review version (some prompt)) ↔
      review.context.IsObject ∧ (metadataOf review.context).IsObject ∧
        (¬ IsOtherHash (((metadataOf review.context).item?
              (codes "system_prompt_sha256")).getD .null)
            (builtins.sha256 prompt) →
          IsContext version review.context) := by
  unfold messagesOf
  rw [only_bind, checkHash_isReported]
  constructor
  · rintro ⟨⟨isObject, isEntries⟩, isOnly⟩
    refine ⟨isObject, isEntries, fun isSame => ?_⟩
    have inside := only_bind.mp
      (isOnly () (checkHash_ok.mpr ⟨isObject, isEntries, isSame⟩))
    exact buildReviewInput_ok.mp
      ((only_isReported buildReviewInput_isOther).mp inside.1)
  · rintro ⟨isObject, isEntries, isContext⟩
    refine ⟨⟨isObject, isEntries⟩, fun _ isChecked => ?_⟩
    obtain ⟨_, _, isSame⟩ := checkHash_ok.mp isChecked
    exact only_bind.mpr ⟨(only_isReported buildReviewInput_isOther).mpr
        (buildReviewInput_ok.mpr (isContext isSame)), fun _ _ => only_pure _⟩

theorem supported_isReported
    (isSupported : version ∈ [codes "v1", codes "v2", codes "v3"]) :
    Only IsReported (loadSystemPrompt settings version >>=
          messagesOf builtins review version) ↔
      ((version = codes "v3" →
          ∃ prompt, settings.promptFile = some prompt ∧ ¬ IsBlank prompt) →
        IsBuilt builtins settings review.context version) := by
  unfold IsBuilt
  by_cases isThird : version = codes "v3"
  · subst isThird
    rw [if_pos rfl]
    by_cases isLoaded :
        ∃ prompt, settings.promptFile = some prompt ∧ ¬ IsBlank prompt
    · obtain ⟨prompt, isFile, notBlank⟩ := isLoaded
      have isSame : HasSameHash builtins settings review.context ↔ ¬ IsOtherHash
              (((metadataOf review.context).item?
                (codes "system_prompt_sha256")).getD .null)
              (builtins.sha256 prompt) := by
        constructor
        · intro isSame
          exact isSame prompt isFile
        · intro isSame other isOther
          cases isFile.symm.trans isOther
          exact isSame
      rw [loadSystemPrompt_third isFile notBlank, isSame]
      constructor
      · intro isOnly _
        exact messagesOf_some.mp isOnly
      · intro isBuilt
        exact messagesOf_some.mpr (isBuilt fun _ => ⟨prompt, isFile, notBlank⟩)
    · constructor
      · intro _ isThere
        exact (isLoaded (isThere rfl)).elim
      · intro _
        refine only_bind.mpr
          ⟨loadSystemPrompt_isReported isSupported, fun found isFound => ?_⟩
        exact (isLoaded (loadSystemPrompt_ok isFound)).elim
  · rw [if_neg isThird, loadSystemPrompt_other isSupported isThird]
    constructor
    · intro isOnly _
      exact messagesOf_none.mp isOnly
    · intro isContext
      exact messagesOf_none.mpr (isContext fun isThere =>
        (isThird isThere).elim)

theorem payload_isReported
    {version : Stored} (isVersion : review.promptVersion = some version.val) :
    Only IsReported (payload builtins settings review) ↔
      (IsConfigured settings review version.val →
        IsBuilt builtins settings review.context version.val) := by
  unfold payload
  rw [only_guard (isReported (by decide)),
    only_guard (isReported (by decide)),
    only_guard (isReported
      (isText_append.mpr ⟨by decide, review.task.slug.property⟩)),
    only_guard (isReported (by decide)), isVersion]
  by_cases isSupported : version.val ∈ [codes "v1", codes "v2", codes "v3"]
  · rw [resolvePromptVersion_supported isSupported]
    constructor
    · intro isOnly isConfigured
      exact (supported_isReported isSupported).mp
        (isOnly isConfigured.agentId isConfigured.token isConfigured.context
          isConfigured.answer)
        isConfigured.prompt
    · intro isBuilt agentId token context answer
      exact (supported_isReported isSupported).mpr fun prompt =>
        isBuilt
          { agentId, token, context, answer
            supported := isSupported
            prompt }
  · constructor
    · intro _ isConfigured
      exact (isSupported isConfigured.supported).elim
    · intro _ _ _ _ _
      refine only_bind.mpr
        ⟨resolvePromptVersion_isReported, fun _ isResolved => ?_⟩
      exact (isSupported (resolvePromptVersion_ok isResolved)).elim

end TicketSandbox.Sandbox.AiReviewer
