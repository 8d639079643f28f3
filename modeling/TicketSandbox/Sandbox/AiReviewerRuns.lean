import TicketSandbox.Sandbox.AiReviewerFacts

namespace TicketSandbox.Sandbox.AiReviewer

/-!
# Reviews that come to an end

What an answer of the external model must be for its review to be completed or
to be reported as an error, and that these are the only ones that do not leave
the review running.
-/

open Raises
  (Only bind_error bind_ok ensure_error ensure_ok only_bind only_error
    only_pure)

/-! ## Results -/

/-- The usage of a response. -/
def usageDocument (apiResponse : Document) : Document :=
  match apiResponse.item? (codes "usage") with
  | none => .obj []
  | some usage => if usage.IsTruthy then usage else .obj []

/-- The result of a response with its review. -/
def resultFor (apiResponse review : Document) : Result where
  review
  rawResponse := apiResponse
  model := (apiResponse.item? (codes "model")).getD (.str [])
  inputTokens :=
    ((usageDocument apiResponse).item? (codes "prompt_tokens")).getD .null
  outputTokens :=
    ((usageDocument apiResponse).item? (codes "completion_tokens")).getD .null

theorem usageOf_ok {apiResponse usage : Document} :
    usageOf apiResponse = .ok usage ↔
      apiResponse.IsObject ∧ usage = usageDocument apiResponse := by
  unfold usageOf usageDocument
  rw [bind_ok]
  constructor
  · rintro ⟨found, isFound, isUsage⟩
    obtain ⟨isObject, rfl⟩ := get_ok.mp isFound
    refine ⟨isObject, ?_⟩
    generalize apiResponse.item? (codes "usage") = found at isUsage ⊢
    cases found with
    | none => exact (Except.ok.inj isUsage).symm
    | some _ => exact (Except.ok.inj isUsage).symm
  · rintro ⟨isObject, rfl⟩
    refine ⟨_, get_ok.mpr ⟨isObject, rfl⟩, ?_⟩
    cases apiResponse.item? (codes "usage") with
    | none => rfl
    | some _ => rfl

theorem usageOf_isOther
    {apiResponse : Document} : Only IsOther (usageOf apiResponse) := by
  refine only_bind.mpr ⟨get_isOther, fun found _ => ?_⟩
  cases found with
  | none => exact only_pure _
  | some _ => exact only_pure _

variable {apiResponse : Document} {builtins : Builtins} {row : AIReview}
  {result : Result} {settings : Settings} {post : List Message → Response}

theorem contentOf_isObject
    {content : Document} (isContent : contentOf apiResponse = some content) :
    apiResponse.IsObject := by
  cases apiResponse with
  | obj members => exact ⟨members, rfl⟩
  | _ => cases isContent

/-- The content is a text that is loaded. -/
theorem loadContent_ok {content : Option Document} {review : Document} :
    loadContent builtins content = .ok review ↔
      ∃ text, content = some (.str text) ∧
        builtins.loads text = .value review := by
  constructor
  · intro isOk
    unfold loadContent at isOk
    split at isOk
    · rename_i text
      refine ⟨text, rfl, ?_⟩
      cases isLoaded : builtins.loads text with
      | value document =>
          rw [isLoaded] at isOk
          exact congrArg Loaded.value (Except.ok.inj isOk)
      | _ =>
          rw [isLoaded] at isOk
          cases isOk
    · cases isOk
  · rintro ⟨text, rfl, isLoaded⟩
    unfold loadContent
    dsimp only
    rw [isLoaded]
    rfl

theorem loaded_isReported {found : Loaded} :
    Only IsReported (loaded found) ↔ found ≠ .recursionError := by
  cases found with
  | value document => exact ⟨fun _ => nofun, fun _ => only_pure _⟩
  | valueError =>
      exact ⟨fun _ => nofun, fun _ => only_error.mpr (isReported (by decide))⟩
  | recursionError =>
      constructor
      · intro isOnly
        have isOther : IsOther .recursionError := by
          intro message isMessage
          cases isMessage
        exact (isOther.not_isReported (only_error.mp isOnly)).elim
      · intro notRecursion
        exact (notRecursion rfl).elim

theorem loadContent_isReported {content : Option Document} :
    Only IsReported (loadContent builtins content) ↔
      ∀ text, content = some (.str text) →
        builtins.loads text ≠ .recursionError := by
  unfold loadContent
  split
  · rename_i text
    rw [loaded_isReported]
    constructor
    · rintro notRecursion _ ⟨⟩
      exact notRecursion
    · intro notRecursion
      exact notRecursion text rfl
  · rename_i notText
    exact ⟨fun _ text isText => (notText text isText).elim,
      fun _ => only_error.mpr (isReported (by decide))⟩

theorem resultOf_ok :
    resultOf builtins apiResponse = .ok result ↔ ∃ text review,
        contentOf apiResponse = some (.str text) ∧
          builtins.loads text = .value review ∧ IsReview review ∧
          (usageDocument apiResponse).IsObject ∧
          result = resultFor apiResponse review := by
  constructor
  · intro isOk
    obtain ⟨review, isLoaded, isOk⟩ := bind_ok.mp isOk
    obtain ⟨text, isContent, isValue⟩ := loadContent_ok.mp isLoaded
    obtain ⟨_, isValid, isOk⟩ := bind_ok.mp isOk
    obtain ⟨usage, isUsage, isOk⟩ := bind_ok.mp isOk
    obtain ⟨_, rfl⟩ := usageOf_ok.mp isUsage
    obtain ⟨model, isModel, isOk⟩ := bind_ok.mp isOk
    obtain ⟨_, rfl⟩ := get_ok.mp isModel
    obtain ⟨input, isInput, isOk⟩ := bind_ok.mp isOk
    obtain ⟨isObject, rfl⟩ := get_ok.mp isInput
    obtain ⟨output, isOutput, isOk⟩ := bind_ok.mp isOk
    obtain ⟨_, rfl⟩ := get_ok.mp isOutput
    exact ⟨text, review, isContent, isValue,
      validateReviewResponse_ok.mp isValid, isObject,
      (Except.ok.inj isOk).symm⟩
  · rintro ⟨text, review, isContent, isValue, isReview, isUsable, rfl⟩
    have isObject := contentOf_isObject isContent
    exact bind_ok.mpr ⟨review, loadContent_ok.mpr ⟨text, isContent, isValue⟩,
      bind_ok.mpr ⟨(), validateReviewResponse_ok.mpr isReview,
        bind_ok.mpr ⟨_, usageOf_ok.mpr ⟨isObject, rfl⟩,
          bind_ok.mpr ⟨_, get_ok.mpr ⟨isObject, rfl⟩,
            bind_ok.mpr ⟨_, get_ok.mpr ⟨isUsable, rfl⟩,
              bind_ok.mpr ⟨_, get_ok.mpr ⟨isUsable, rfl⟩, rfl⟩⟩⟩⟩⟩⟩

theorem resultOf_isReported :
    Only IsReported (resultOf builtins apiResponse) ↔
      ∀ text, contentOf apiResponse = some (.str text) →
        builtins.loads text ≠ .recursionError ∧
          ∀ review, builtins.loads text = .value review →
            ¬ HasUnhashable review ∧
              (IsReview review → (usageDocument apiResponse).IsObject) := by
  have isInvalid : IsReported invalidStructure := isReported (by decide)
  have notTypeError : ¬ IsReported .typeError := by
    rintro ⟨_, isMessage, _⟩
    cases isMessage
  unfold resultOf
  rw [only_bind, loadContent_isReported]
  constructor
  · rintro ⟨notRecursion, isOnly⟩ text isContent
    refine ⟨notRecursion text isContent, fun review isValue => ?_⟩
    have inside := only_bind.mp
      (isOnly review (loadContent_ok.mpr ⟨text, isContent, isValue⟩))
    refine ⟨(validateReviewResponse_only isInvalid notTypeError).mp inside.1,
      fun isReview => ?_⟩
    have isObject := contentOf_isObject isContent
    have inUsage := only_bind.mp
      (inside.2 () (validateReviewResponse_ok.mpr isReview))
    have inModel := only_bind.mp (inUsage.2 _ (usageOf_ok.mpr ⟨isObject, rfl⟩))
    have inTokens := only_bind.mp (inModel.2 _ (get_ok.mpr ⟨isObject, rfl⟩))
    obtain ⟨found, isFound⟩ := (only_isReported get_isOther).mp inTokens.1
    exact (get_ok.mp isFound).1
  · intro isHandled
    refine ⟨fun text isContent => (isHandled text isContent).1,
      fun review isLoaded => ?_⟩
    obtain ⟨text, isContent, isValue⟩ := loadContent_ok.mp isLoaded
    obtain ⟨noUnhashable, isUsable⟩ :=
      (isHandled text isContent).2 review isValue
    have isObject := contentOf_isObject isContent
    refine only_bind.mpr
      ⟨(validateReviewResponse_only isInvalid notTypeError).mpr
        noUnhashable, fun _ isValid => ?_⟩
    have isEntries := isUsable (validateReviewResponse_ok.mp isValid)
    have isRead {document : Document} (isThere : document.IsObject)
        (key : Str) :
        Only IsReported (document.get key) :=
      (only_isReported get_isOther).mpr ⟨_, get_ok.mpr ⟨isThere, rfl⟩⟩
    refine only_bind.mpr ⟨(only_isReported usageOf_isOther).mpr
      ⟨_, usageOf_ok.mpr ⟨isObject, rfl⟩⟩, fun usage isUsage => ?_⟩
    obtain ⟨_, rfl⟩ := usageOf_ok.mp isUsage
    refine only_bind.mpr ⟨isRead isObject _, fun _ _ => ?_⟩
    refine only_bind.mpr ⟨isRead isEntries _, fun _ _ => ?_⟩
    exact only_bind.mpr ⟨isRead isEntries _, fun _ _ => only_pure _⟩

/-! ## Rows -/

/-- The column of the model takes the value. -/
def IsModel (builtins : Builtins) (model : Document) : Prop :=
  model ≠ .null ∧ (builtins.format model).length ≤ 255 ∧
    IsText (builtins.format model)

/-- A column of numbers takes the value. -/
def IsTokens (builtins : Builtins) (tokens : Document) : Prop :=
  tokens = .null ∨ ∃ value, integerOf builtins tokens = .ok value ∧
      0 ≤ value ∧ value ≤ 2147483647

/-- The columns take the values of a result. -/
structure IsAccepted (builtins : Builtins) (result : Result) : Prop where
  checks : isStorable ((result.review.item? (codes "checks")).getD .null) = true
  recommendations :
    isStorable ((result.review.item? (codes "recommendations")).getD
      .null) = true
  rawResponse : isStorable result.rawResponse = true
  model : IsModel builtins result.model
  inputTokens : IsTokens builtins result.inputTokens
  outputTokens : IsTokens builtins result.outputTokens

theorem storeDocument_ok {document : Document} :
    (∃ stored, storeDocument document = .ok stored) ↔
      isStorable document = true := by
  constructor
  · rintro ⟨stored, isOk⟩
    obtain ⟨_, isTaken, _⟩ := bind_ok.mp isOk
    exact ensure_ok.mp isTaken
  · intro isTaken
    exact ⟨document, bind_ok.mpr ⟨(), ensure_ok.mpr isTaken, rfl⟩⟩

theorem storeModel_ok {model : Document} :
    (∃ text, storeModel builtins model = .ok text) ↔
      IsModel builtins model := by
  constructor
  · rintro ⟨text, isOk⟩
    unfold storeModel at isOk
    split at isOk
    · cases isOk
    · rename_i isSome
      obtain ⟨_, isTaken, _⟩ := bind_ok.mp isOk
      exact ⟨isSome, ensure_ok.mp isTaken⟩
  · rintro ⟨isSome, isTaken⟩
    refine ⟨builtins.format model, ?_⟩
    unfold storeModel
    split
    · exact (isSome rfl).elim
    · exact bind_ok.mpr ⟨(), ensure_ok.mpr isTaken, rfl⟩

theorem storeTokens_ok {tokens : Document} :
    (∃ value, storeTokens builtins tokens = .ok value) ↔
      IsTokens builtins tokens := by
  constructor
  · rintro ⟨stored, isOk⟩
    unfold storeTokens at isOk
    split at isOk
    · exact Or.inl rfl
    · obtain ⟨value, isValue, isOk⟩ := bind_ok.mp isOk
      obtain ⟨_, isTaken, _⟩ := bind_ok.mp isOk
      exact Or.inr ⟨value, isValue, ensure_ok.mp isTaken⟩
  · intro isTokens
    unfold storeTokens
    split
    · exact ⟨none, rfl⟩
    · rename_i isSome
      rcases isTokens with isNull | ⟨value, isValue, isTaken⟩
      · exact (isSome isNull).elim
      · exact ⟨some value, bind_ok.mpr ⟨value, isValue,
          bind_ok.mpr ⟨(), ensure_ok.mpr isTaken, rfl⟩⟩⟩

theorem saveCompleted_ok {now : Nat} :
    (∃ after, row.saveCompleted builtins result now = .ok after) ↔
      IsAccepted builtins result := by
  constructor
  · rintro ⟨after, isOk⟩
    obtain ⟨checks, isChecks, isOk⟩ := bind_ok.mp isOk
    obtain ⟨recommendations, areRecommendations, isOk⟩ := bind_ok.mp isOk
    obtain ⟨raw, isRaw, isOk⟩ := bind_ok.mp isOk
    obtain ⟨model, isModel, isOk⟩ := bind_ok.mp isOk
    obtain ⟨input, isInput, isOk⟩ := bind_ok.mp isOk
    obtain ⟨output, isOutput, _⟩ := bind_ok.mp isOk
    exact
      { checks := storeDocument_ok.mp ⟨checks, isChecks⟩
        recommendations :=
          storeDocument_ok.mp ⟨recommendations, areRecommendations⟩
        rawResponse := storeDocument_ok.mp ⟨raw, isRaw⟩
        model := storeModel_ok.mp ⟨model, isModel⟩
        inputTokens := storeTokens_ok.mp ⟨input, isInput⟩
        outputTokens := storeTokens_ok.mp ⟨output, isOutput⟩ }
  · intro isAccepted
    obtain ⟨checks, isChecks⟩ := storeDocument_ok.mpr isAccepted.checks
    obtain ⟨recommendations, areRecommendations⟩ :=
      storeDocument_ok.mpr isAccepted.recommendations
    obtain ⟨raw, isRaw⟩ := storeDocument_ok.mpr isAccepted.rawResponse
    obtain ⟨model, isModel⟩ := storeModel_ok.mpr isAccepted.model
    obtain ⟨input, isInput⟩ := storeTokens_ok.mpr isAccepted.inputTokens
    obtain ⟨output, isOutput⟩ := storeTokens_ok.mpr isAccepted.outputTokens
    exact ⟨_, bind_ok.mpr ⟨_, isChecks,
      bind_ok.mpr ⟨_, areRecommendations, bind_ok.mpr ⟨_, isRaw,
        bind_ok.mpr ⟨_, isModel, bind_ok.mpr ⟨_, isInput,
          bind_ok.mpr ⟨_, isOutput, rfl⟩⟩⟩⟩⟩⟩⟩

/-- A row of a review that has come to an end. -/
def HasEnded (row : AIReview) : Prop :=
  (row.status = .completed ∨ row.status = .error) ∧
    ∃ now, row.finishedAt = some now

theorem begin_not_hasEnded
    (row : AIReview) (now : Nat) : ¬ HasEnded (row.begin now) := by
  rintro ⟨isCompleted | isError, _⟩
  · cases isCompleted
  · cases isError

theorem saveCompleted_hasEnded {after : AIReview} {now : Nat}
    (isOk : row.saveCompleted builtins result now = .ok after) :
    HasEnded after := by
  obtain ⟨checks, _, isOk⟩ := bind_ok.mp isOk
  obtain ⟨recommendations, _, isOk⟩ := bind_ok.mp isOk
  obtain ⟨raw, _, isOk⟩ := bind_ok.mp isOk
  obtain ⟨model, _, isOk⟩ := bind_ok.mp isOk
  obtain ⟨input, _, isOk⟩ := bind_ok.mp isOk
  obtain ⟨output, _, isOk⟩ := bind_ok.mp isOk
  cases isOk
  exact ⟨Or.inl rfl, now, rfl⟩

/-- The review is answered: there is a report, or a review with its checks
and with values that the columns take. -/
def IsAnswered (builtins : Builtins) (result : Except Raised Result) : Prop :=
  (∃ message, result = .error (.aiReviewer message)) ∨
    ∃ answer, result = .ok answer ∧ IsReview answer.review ∧
      IsAccepted builtins answer

/-- The review is answered, and its row does not stay running. -/
def Settles
    (builtins : Builtins) (settings : Settings) (post : List Message → Response)
    (task : Task) (row : AIReview) (started finished : Nat) : Prop :=
  IsAnswered builtins
      (reviewTraineeAnswer builtins settings post (row.review task)) ∧
    HasEnded (runAiReview builtins settings post task row started finished)

/-- A content is handled: it does not nest too deep, and if it is a value, no
severity that is reached is a list or an object; if it is a review, the usage
of the response is an object and the columns take the values. -/
def IsHandledContent
    (builtins : Builtins) (apiResponse : Document) (text : Str) : Prop :=
  builtins.loads text ≠ .recursionError ∧
    ∀ review, builtins.loads text = .value review → ¬ HasUnhashable review ∧
        (IsReview review → (usageDocument apiResponse).IsObject ∧
            IsAccepted builtins (resultFor apiResponse review))

/-- A response is handled: the text of a failure can be stored, and a body
does not nest too deep and has a content that is handled, if it is a text. -/
def IsHandledResponse (builtins : Builtins) : Response → Prop
  | .failed error => IsText error
  | .responded status reason body =>
      (IsErrorStatus status → IsText reason) ∧ (¬ IsErrorStatus status →
          body ≠ .recursionError ∧ ∀ apiResponse, body = .value apiResponse →
              ∀ text, contentOf apiResponse = some (.str text) →
                IsHandledContent builtins apiResponse text)

/-- A review is handled: the context can be read if it is reached, and the
response is handled if there is a request. -/
def IsHandledReview
    (builtins : Builtins) (settings : Settings) (post : List Message → Response)
    (task : Task) (row : AIReview) : Prop :=
  (IsConfigured settings (row.review task) row.promptVersion.val →
      IsBuilt builtins settings (row.review task).context
        row.promptVersion.val) ∧
    ∀ messages, payload builtins settings (row.review task) = .ok messages →
        IsHandledResponse builtins (post messages)

theorem requestFailed_isReported
    {error : Str} : IsReported (requestFailed error) ↔ IsText error := by
  constructor
  · rintro ⟨message, isMessage, isText⟩
    cases isMessage
    exact (isText_append.mp isText).2
  · intro isText
    exact isReported (isText_append.mpr ⟨by decide, isText⟩)

theorem resultOf_isHandled :
    (∀ text, contentOf apiResponse = some (.str text) →
        IsHandledContent builtins apiResponse text) ↔
      Only IsReported (resultOf builtins apiResponse) ∧
        ∀ result, resultOf builtins apiResponse = .ok result →
          IsAccepted builtins result := by
  rw [resultOf_isReported]
  constructor
  · intro isHandled
    refine ⟨fun text isContent => ?_, fun result isOk => ?_⟩
    · obtain ⟨notRecursion, isRead⟩ := isHandled text isContent
      refine ⟨notRecursion, fun review isValue => ?_⟩
      obtain ⟨noUnhashable, isUsable⟩ := isRead review isValue
      exact ⟨noUnhashable, fun isReview => (isUsable isReview).1⟩
    · obtain ⟨text, review, isContent, isValue, isReview, _, rfl⟩ :=
        resultOf_ok.mp isOk
      obtain ⟨_, isRead⟩ := isHandled text isContent
      exact ((isRead review isValue).2 isReview).2
  · rintro ⟨isRead, isTaken⟩ text isContent
    obtain ⟨notRecursion, isHandled⟩ := isRead text isContent
    refine ⟨notRecursion, fun review isValue => ?_⟩
    obtain ⟨noUnhashable, isUsable⟩ := isHandled review isValue
    refine ⟨noUnhashable, fun isReview => ⟨isUsable isReview, ?_⟩⟩
    exact isTaken _ (resultOf_ok.mpr
      ⟨text, review, isContent, isValue, isReview, isUsable isReview, rfl⟩)

/-- A response is handled when only reported errors are raised. -/
theorem receive_isHandled {response : Response} :
    IsHandledResponse builtins response ↔
      Only IsReported (receive builtins response) ∧
        ∀ result, receive builtins response = .ok result →
          IsAccepted builtins result := by
  cases response with
  | failed error =>
      constructor
      · intro isText
        exact ⟨only_error.mpr (requestFailed_isReported.mpr isText), nofun⟩
      · rintro ⟨isOnly, _⟩
        exact requestFailed_isReported.mp (only_error.mp isOnly)
  | responded status reason body =>
      unfold IsHandledResponse receive
      dsimp only
      by_cases isError : IsErrorStatus status
      · rw [if_pos isError]
        constructor
        · rintro ⟨isText, _⟩
          exact ⟨only_error.mpr
            (requestFailed_isReported.mpr (isText isError)), nofun⟩
        · rintro ⟨isOnly, _⟩
          exact ⟨fun _ =>
              requestFailed_isReported.mp (only_error.mp isOnly),
            fun notError => (notError isError).elim⟩
      · rw [if_neg isError, only_bind, loaded_isReported]
        have isLoaded (apiResponse : Document) :
            loaded body = .ok apiResponse ↔ body = .value apiResponse := by
          cases body with
          | value document => exact ⟨fun isOk => by cases isOk; rfl,
              fun isOk => by cases isOk; rfl⟩
          | valueError => exact ⟨nofun, nofun⟩
          | recursionError => exact ⟨nofun, nofun⟩
        constructor
        · rintro ⟨_, isHandled⟩
          obtain ⟨notRecursion, isRead⟩ := isHandled isError
          refine ⟨⟨notRecursion, fun apiResponse isOk => ?_⟩,
            fun result isOk => ?_⟩
          · exact (resultOf_isHandled.mp
              (isRead apiResponse ((isLoaded _).mp isOk))).1
          · obtain ⟨apiResponse, isValue, isResult⟩ := bind_ok.mp isOk
            exact (resultOf_isHandled.mp
              (isRead apiResponse ((isLoaded _).mp isValue))).2 result isResult
        · rintro ⟨⟨notRecursion, isOnly⟩, isTaken⟩
          refine ⟨fun isOther => (isError isOther).elim, fun _ =>
            ⟨notRecursion, fun apiResponse isValue => ?_⟩⟩
          have isOk := (isLoaded apiResponse).mpr isValue
          exact resultOf_isHandled.mpr ⟨isOnly apiResponse isOk,
            fun result isResult =>
              isTaken result (bind_ok.mpr ⟨apiResponse, isOk, isResult⟩)⟩

theorem reviewTraineeAnswer_isReview {review : Review}
    (isOk : reviewTraineeAnswer builtins settings post review = .ok result) :
    IsReview result.review := by
  obtain ⟨messages, _, isReceived⟩ := bind_ok.mp isOk
  cases isPosted : post messages with
  | failed error =>
      rw [isPosted] at isReceived
      cases isReceived
  | responded status reason body =>
      rw [isPosted, receive] at isReceived
      split at isReceived
      · cases isReceived
      · obtain ⟨apiResponse, _, isResult⟩ := bind_ok.mp isReceived
        obtain ⟨_, _, _, _, isReview, _, rfl⟩ := resultOf_ok.mp isResult
        exact isReview

theorem reviewTraineeAnswer_isHandled {task : Task} :
    IsHandledReview builtins settings post task row ↔ Only IsReported
          (reviewTraineeAnswer builtins settings post (row.review task)) ∧
        ∀ result, reviewTraineeAnswer builtins settings post (row.review task) =
              .ok result →
            IsAccepted builtins result := by
  unfold reviewTraineeAnswer
  rw [only_bind, payload_isReported rfl]
  constructor
  · rintro ⟨isBuilt, isHandled⟩
    refine ⟨⟨isBuilt, fun messages isSent => ?_⟩, fun result isOk => ?_⟩
    · exact (receive_isHandled.mp (isHandled messages isSent)).1
    · obtain ⟨messages, isSent, isReceived⟩ := bind_ok.mp isOk
      exact (receive_isHandled.mp (isHandled messages isSent)).2 result
        isReceived
  · rintro ⟨⟨isBuilt, isOnly⟩, isTaken⟩
    refine ⟨isBuilt, fun messages isSent => receive_isHandled.mpr
      ⟨isOnly messages isSent, fun result isReceived => ?_⟩⟩
    exact isTaken result (bind_ok.mpr ⟨messages, isSent, isReceived⟩)

/-- A content in which a severity is a list. -/
def listContent : Str :=
  codes "\x7b\"checks\":\x7b\"greeting\":\x7b\"passed\":true,\"severity\":[]\x7d,\"problem_description\":0,\"solution\":0,\"completeness\":0,\"direct_answer\":0,\"client_language\":0,\"structure_and_grammar\":0\x7d\x7d"

/-- The value of `listContent`. -/
def listReview : Document :=
  .obj [(codes "checks", .obj [(codes "greeting", .obj
        [(codes "passed", .bool true), (codes "severity", .arr [])]),
      (codes "problem_description", .int 0), (codes "solution", .int 0),
      (codes "completeness", .int 0), (codes "direct_answer", .int 0),
      (codes "client_language", .int 0),
      (codes "structure_and_grammar", .int 0)])]

/-- Functions that load `listContent`. -/
def listBuiltins : Builtins where
  loads := fun text =>
    if text = listContent then .value listReview else .valueError
  str := fun _ => []
  int := fun _ => none
  sha256 := id

/-- A body with `listContent`. -/
def listBody : Document :=
  .obj [(codes "choices", .arr [.obj
    [(codes "message", .obj [(codes "content", .str listContent)])]])]

/-- A task with a context. -/
def listTask : Task where
  slug := ⟨[], by decide⟩
  clientName := []
  ticketTitle := []
  description := []
  aiReviewContext := .obj [(codes "result", .str [])]

/-- A row that was created. -/
def listRow : AIReview where
  clientAnswer := codes "ok"
  taskContext := .obj [(codes "result", .str [])]
  promptVersion := ⟨codes "v1", by decide⟩
  status := .pending
  checks := .obj []
  recommendations := .arr []
  rawResponse := .obj []
  model := []
  inputTokens := none
  outputTokens := none
  errorMessage := []
  startedAt := none
  finishedAt := none

/-- The settings under which `listRow` is reviewed. -/
def listSettings : Settings where
  agentId := codes "agent"
  token := codes "token"
  promptVersion := codes "v1"
  promptFile := none

theorem list_payload :
    ∃ messages, payload listBuiltins listSettings (listRow.review listTask) =
        .ok messages := by
  have isContext : IsContext (codes "v1") (listRow.review listTask).context :=
    { object := ⟨_, rfl⟩
      facts := fun _ => trivial
      metadata := fun isThird => absurd isThird (by decide) }
  obtain ⟨input, isInput⟩ :=
    (@buildReviewInput_ok listBuiltins _ (codes "ok") listTask _).mpr isContext
  refine ⟨[.user input], ?_⟩
  unfold payload
  exact bind_ok.mpr ⟨(), ensure_ok.mpr (by decide),
    bind_ok.mpr ⟨(), ensure_ok.mpr (by decide),
      bind_ok.mpr ⟨(), ensure_ok.mpr nofun,
        bind_ok.mpr ⟨(), ensure_ok.mpr (by decide),
          bind_ok.mpr ⟨_, resolvePromptVersion_supported (by decide),
            bind_ok.mpr ⟨_, loadSystemPrompt_other (by decide) (by decide),
              bind_ok.mpr ⟨input, isInput, rfl⟩⟩⟩⟩⟩⟩⟩

end TicketSandbox.Sandbox.AiReviewer
