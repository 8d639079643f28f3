import Mathlib.Data.List.Basic
import Mathlib.Data.Rat.Defs
import TicketSandbox.Library.Raises

namespace TicketSandbox.Sandbox.AiReviewer

/-!
# The AI reviewer

`services/ai_reviewer.py`: an answer is sent to an external model, and what
comes back is checked and stored in the row of the review.
-/

open Raises (ensure required)

/-! ## Values -/

/-- A text: its code points. -/
abbrev Str := List Nat

/-- A text of the source. -/
def codes (text : String) : Str :=
  text.toList.map Char.toNat

/-- A value of `json.loads`; a float that is no finite number has no value. -/
inductive Document where
  | null
  | bool (value : Bool)
  | int (value : Int)
  | float (value : Option Rat)
  | str (text : Str)
  | arr (elements : List Document)
  | obj (members : List (Str × Document))

/-- What `json.loads` does with a text. -/
inductive Loaded where
  | value (document : Document)
  | valueError
  | recursionError

/-- Functions of the interpreter: `json.loads`, `str`, `int` of a text, and
`hashlib.sha256`. -/
structure Builtins where
  loads : Str → Loaded
  str : Document → Str
  int : Str → Option Int
  sha256 : Str → Str

/-- What is raised: `AIReviewerError` with its text, or something else. -/
inductive Raised where
  | aiReviewer (message : Str)
  | typeError
  | attributeError
  | recursionError
  | databaseError

/-- The value counts as true. -/
def Document.IsTruthy : Document → Prop
  | .null => False
  | .bool value => value = true
  | .int value => value ≠ 0
  | .float value => value ≠ some 0
  | .str text => text ≠ []
  | .arr elements => elements ≠ []
  | .obj members => members ≠ []

instance : (document : Document) → Decidable document.IsTruthy
  | .null => inferInstanceAs (Decidable False)
  | .bool value => inferInstanceAs (Decidable (value = true))
  | .int value => inferInstanceAs (Decidable (value ≠ 0))
  | .float value => inferInstanceAs (Decidable (value ≠ some 0))
  | .str text => inferInstanceAs (Decidable (text ≠ []))
  | .arr [] => isFalse fun differs => differs rfl
  | .arr (_ :: _) => isTrue nofun
  | .obj [] => isFalse fun differs => differs rfl
  | .obj (_ :: _) => isTrue nofun

variable (document : Document)

/-- `get` of an object; other values have no such method. -/
def Document.get (key : Str) : Except Raised (Option Document) :=
  match document with
  | .obj members => .ok (members.lookup key)
  | _ => .error .attributeError

/-- A subscript that is a text.  What is raised without such an entry is
caught by the caller. -/
def Document.item? (key : Str) : Option Document :=
  match document with
  | .obj members => members.lookup key
  | _ => none

/-- The subscript `0`. -/
def Document.first? : Document → Option Document
  | .arr elements => elements.head?
  | .str text => text.head?.map fun code => .str [code]
  | _ => none

/-- The characters that `strip` removes. -/
def spaces : List Nat :=
  [9, 10, 11, 12, 13, 28, 29, 30, 31, 32, 133, 160, 5760, 8192, 8193, 8194,
    8195, 8196, 8197, 8198, 8199, 8200, 8201, 8202, 8232, 8233, 8239, 8287,
    12288]

/-- Nothing is left when the text is stripped. -/
def IsBlank (text : Str) : Prop :=
  ∀ code ∈ text, code ∈ spaces
  deriving Decidable

/-- A column of texts takes the text: it can be encoded, and has no zero. -/
def IsText (text : Str) : Prop :=
  ∀ code ∈ text, code ≠ 0 ∧ ¬ (0xD800 ≤ code ∧ code < 0xE000)
  deriving Decidable

/-- A text of a row. -/
abbrev Stored := { text : Str // IsText text }

/-! ## Requests -/

/-- `REQUIRED_CHECKS`. -/
def requiredChecks : List Str :=
  [codes "greeting", codes "problem_description", codes "solution",
    codes "completeness", codes "direct_answer", codes "client_language",
    codes "structure_and_grammar"]

/-- `ALLOWED_SEVERITIES`. -/
def allowedSeverities : List Str :=
  [codes "ok", codes "minor", codes "critical"]

/-- The columns of a task that are read. -/
structure Task where
  slug : Stored
  clientName : Str
  ticketTitle : Str
  description : Str
  aiReviewContext : Document

/-- Where the code runs: variables of the environment, `TWC_AI_PROMPT_VERSION`
and the text of `v3.txt`, if it can be read. -/
structure Settings where
  agentId : Str
  token : Str
  promptVersion : Str
  promptFile : Option Str

/-- `_resolve_prompt_version`. -/
def resolvePromptVersion
    (settings : Settings) (promptVersion : Option Str) : Except Raised Str :=
  let version := promptVersion.getD settings.promptVersion
  if version ∈ [codes "v1", codes "v2", codes "v3"] then
    .ok version
  else
    .error (.aiReviewer
      (codes "Unsupported AI review prompt version: " ++ version))

/-- `load_system_prompt`. -/
def loadSystemPrompt
    (settings : Settings) (version : Str) : Except Raised (Option Str) := do
  let version ← resolvePromptVersion settings (some version)
  if version ≠ codes "v3" then
    .ok none
  else
    let prompt ←
      required (.aiReviewer (codes "Cannot load AI review system prompt v3"))
        settings.promptFile
    ensure (¬ IsBlank prompt)
      (.aiReviewer (codes "AI review system prompt v3 is empty"))
    .ok (some prompt)

/-- The elements over which a value iterates. -/
def elementsOf : Document → Except Raised (List Document)
  | .str text => .ok (text.map fun code => .str [code])
  | .arr elements => .ok elements
  | .obj members => .ok (members.map fun member => .str member.1)
  | _ => .error .typeError

variable (builtins : Builtins)

/-- The text of a value in a formatted string. -/
def Builtins.format : Document → Str
  | .str text => text
  | document => builtins.str document

/-- The text of the facts that are required. -/
def requiredFactsText (facts : Document) : Except Raised Str :=
  if facts.IsTruthy then do
    let elements ← elementsOf facts
    .ok ((codes "\n").intercalate
      (elements.map fun fact => codes "- " ++ builtins.format fact))
  else
    .ok (codes "Нет.")

/-- `context.get("_review_metadata", {})`. -/
def reviewMetadata (context : Document) : Except Raised Document := do
  let metadata ← context.get (codes "_review_metadata")
  .ok (metadata.getD (.obj []))

/-- A value of the context in a formatted string. -/
def contextText (context : Document) (key : Str) : Except Raised Str := do
  let value ← context.get key
  .ok (builtins.format (value.getD (.str [])))

/-- The part about the context of the task. -/
def contextPart
    (context : Document) (factsText version : Str) : Except Raised Str := do
  let rootCause ← contextText builtins context (codes "root_cause")
  let resolution ← contextText builtins context (codes "resolution")
  let result ← contextText builtins context (codes "result")
  if version = codes "v1" then
    .ok (codes "Известные факты:\nПричина проблемы: " ++ rootCause ++
      codes "\nВыполненное решение: " ++ resolution ++
      codes "\nИтоговое состояние: " ++ result ++
      codes "\nОбязательные факты для клиента:\n" ++ factsText ++
      codes "\n\n")
  else
    .ok (codes "Эталонный контекст задания:\n\nЭталонный вариант решения описывает один известный корректный способ решения задачи и не является исчерпывающим списком допустимых действий или журналом действий стажёра. Не считай дополнительное действие ошибочным только потому, что оно отсутствует в эталонном варианте.\n\nПричина проблемы:\n" ++ rootCause ++
      codes "\n\nЭталонный вариант решения:\n" ++ resolution ++
      codes "\n\nОжидаемый результат:\n" ++ result ++
      codes "\n\nОбязательные факты для ответа клиенту:\n" ++ factsText ++
      codes "\n\n")

/-- The part about the technical check. -/
def technicalPart (context : Document) (version : Str) : Except Raised Str :=
  if version = codes "v3" then do
    let metadata ← reviewMetadata context
    let technicalPassed ← metadata.get (codes "technical_check_passed")
    let passedText :=
      match technicalPassed with
      | some (.bool true) => codes "passed"
      | _ => codes "не предоставлен"
    .ok (codes "Результат технической автопроверки платформы: " ++
      passedText ++ codes ". Это проверка окружения, а не подтверждение каждого утверждения в ответе.\n\n")
  else
    .ok []

/-- `build_review_input`, with the context and the version that it resolves. -/
def buildReviewInput (task : Task) (clientAnswer : Str)
    (context : Document) (version : Str) : Except Raised Str := do
  let facts ← context.get (codes "required_client_facts")
  let factsText ← requiredFactsText builtins (facts.getD (.arr []))
  let contextText ← contextPart builtins context factsText version
  let technicalText ← technicalPart context version
  .ok (codes "Условие задания:\nИмя клиента: " ++ task.clientName ++
    codes "\nТема обращения: " ++ task.ticketTitle ++
    codes "\n\nСообщение клиента:\n" ++ task.description ++
    codes "\n\n" ++ contextText ++ technicalText ++
    codes "Ответ стажёра:\n" ++ clientAnswer)

/-- A message of the payload. -/
inductive Message where
  | system (content : Str)
  | user (content : Str)

/-- The value is the text. -/
def Document.isText (text : Str) : Bool :=
  match document with
  | .str other => other = text
  | _ => false

/-- The recorded hash of the prompt is another one. -/
def IsOtherHash (expected : Document) (actual : Str) : Prop :=
  expected.IsTruthy ∧ expected.isText actual = false
  deriving Decidable

/-- The recorded hash of the prompt is compared. -/
def checkHash (context : Document) (prompt : Str) : Except Raised Unit := do
  let metadata ← reviewMetadata context
  let expected ← metadata.get (codes "system_prompt_sha256")
  ensure (¬ IsOtherHash (expected.getD .null) (builtins.sha256 prompt))
    (.aiReviewer (codes "AI review system prompt hash mismatch; released prompts are immutable"))

/-- What is reviewed. -/
structure Review where
  task : Task
  clientAnswer : Str
  reviewContext : Document
  promptVersion : Option Str

/-- The context that is used. -/
def Review.context (review : Review) : Document :=
  match review.reviewContext with
  | .null => review.task.aiReviewContext
  | context => context

/-- The messages with the system prompt, if there is one. -/
def messagesOf (review : Review) (version : Str)
    (systemPrompt : Option Str) : Except Raised (List Message) :=
  match systemPrompt with
  | none => do
      let input ← buildReviewInput builtins review.task review.clientAnswer
          review.context version
      .ok [.user input]
  | some prompt => do
      checkHash builtins review.context prompt
      let input ← buildReviewInput builtins review.task review.clientAnswer
          review.context version
      .ok [.system prompt, .user input]

/-- The messages of the payload, up to the request. -/
def payload
    (settings : Settings) (review : Review) : Except Raised (List Message) := do
  ensure (¬ IsBlank settings.agentId)
    (.aiReviewer (codes "TWC_AI_AGENT_ID is not configured"))
  ensure (¬ IsBlank settings.token)
    (.aiReviewer (codes "TWC_AI_TOKEN is not configured"))
  ensure review.task.aiReviewContext.IsTruthy
    (.aiReviewer (codes "AI review context is not configured for task " ++
      review.task.slug.val))
  ensure (¬ IsBlank review.clientAnswer)
    (.aiReviewer (codes "Client answer is empty"))
  let version ← resolvePromptVersion settings review.promptVersion
  let systemPrompt ← loadSystemPrompt settings version
  messagesOf builtins review version systemPrompt

/-! ## Answers -/

/-- What becomes of a request: it fails with a text, or there is a response;
`reason` is the text of the error of a failed status. -/
inductive Response where
  | failed (error : Str)
  | responded (status : Nat) (reason : Str) (body : Loaded)

/-- `raise_for_status` raises. -/
def IsErrorStatus (status : Nat) : Prop :=
  400 ≤ status ∧ status < 600
  deriving Decidable

/-- The text of a failed request. -/
def requestFailed (error : Str) : Raised :=
  .aiReviewer (codes "AI reviewer request failed: " ++ error)

/-- The text of a response that cannot be read. -/
def invalidResponse : Raised :=
  .aiReviewer (codes "AI reviewer returned an invalid response")

/-- The text of a review that is malformed. -/
def invalidStructure : Raised :=
  .aiReviewer (codes "AI reviewer returned an invalid response structure")

/-- `api_response["choices"][0]["message"]["content"]`. -/
def contentOf (apiResponse : Document) : Option Document := do
  let choices ← apiResponse.item? (codes "choices")
  let choice ← choices.first?
  let message ← choice.item? (codes "message")
  message.item? (codes "content")

/-- A value that was loaded; `ValueError` becomes an invalid response. -/
def loaded : Loaded → Except Raised Document
  | .value document => .ok document
  | .valueError => .error invalidResponse
  | .recursionError => .error .recursionError

/-- `json.loads` of the content. -/
def loadContent (content : Option Document) : Except Raised Document :=
  match content with
  | some (.str text) => loaded (builtins.loads text)
  | _ => .error invalidResponse

/-- The value is a text. -/
def Document.IsStr : Document → Prop
  | .str _ => True
  | _ => False

instance : (document : Document) → Decidable document.IsStr
  | .str _ => isTrue trivial
  | .null => isFalse id
  | .bool _ => isFalse id
  | .int _ => isFalse id
  | .float _ => isFalse id
  | .arr _ => isFalse id
  | .obj _ => isFalse id

/-- The value is a list of texts. -/
def Document.IsStrings : Document → Prop
  | .arr elements => ∀ element ∈ elements, element.IsStr
  | _ => False

instance : (document : Document) → Decidable document.IsStrings
  | .arr elements =>
      inferInstanceAs (Decidable (∀ element ∈ elements, element.IsStr))
  | .str _ => isFalse id
  | .null => isFalse id
  | .bool _ => isFalse id
  | .int _ => isFalse id
  | .float _ => isFalse id
  | .obj _ => isFalse id

/-- The membership of a severity, which must be hashable. -/
def isAllowed (severity : Document) : Except Raised Bool :=
  match severity with
  | .str text => .ok (text ∈ allowedSeverities)
  | .arr _ => .error .typeError
  | .obj _ => .error .typeError
  | _ => .ok false

/-- The value is a truth value. -/
def Document.isBool : Document → Bool
  | .bool _ => true
  | _ => false

/-- One round of the loop of `validate_review_response`. -/
def validateCheck (entry : Str × Document) : Except Raised Unit :=
  match entry.2 with
  | .obj members => do
      let field (key : Str) := (members.lookup key).getD .null
      ensure ((field (codes "passed")).isBool = true) invalidStructure
      let allowed ← isAllowed (field (codes "severity"))
      ensure (allowed = true) invalidStructure
      ensure (field (codes "comment")).IsStr invalidStructure
      if entry.1 = codes "completeness" then
        ensure (field (codes "missing_facts")).IsStrings invalidStructure
      else
        .ok ()
  | _ => .error invalidStructure

/-- The rounds of the loop of `validate_review_response`. -/
def validateChecks : List (Str × Document) → Except Raised Unit
  | [] => .ok ()
  | entry :: others => do
      validateCheck entry
      validateChecks others

/-- The names are the required ones. -/
def IsRequired (names : List Str) : Prop :=
  (∀ name ∈ names, name ∈ requiredChecks) ∧
    ∀ name ∈ requiredChecks, name ∈ names
  deriving Decidable

/-- `validate_review_response`. -/
def validateReviewResponse (review : Document) : Except Raised Unit :=
  match review with
  | .obj members =>
      match (members.lookup (codes "checks")).getD .null with
      | .obj checks => do
          ensure (IsRequired (checks.map Prod.fst)) invalidStructure
          validateChecks checks
          ensure ((members.lookup (codes "recommendations")).getD
            .null).IsStrings invalidStructure
      | _ => .error invalidStructure
  | _ => .error invalidStructure

/-- What `review_trainee_answer` returns. -/
structure Result where
  review : Document
  rawResponse : Document
  model : Document
  inputTokens : Document
  outputTokens : Document

/-- `api_response.get("usage") or {}`. -/
def usageOf (apiResponse : Document) : Except Raised Document := do
  let usage ← apiResponse.get (codes "usage")
  match usage with
  | none => .ok (.obj [])
  | some usage => .ok (if usage.IsTruthy then usage else .obj [])

/-- The result of a response that was loaded. -/
def resultOf (apiResponse : Document) : Except Raised Result := do
  let review ← loadContent builtins (contentOf apiResponse)
  validateReviewResponse review
  let usage ← usageOf apiResponse
  let model ← apiResponse.get (codes "model")
  let inputTokens ← usage.get (codes "prompt_tokens")
  let outputTokens ← usage.get (codes "completion_tokens")
  .ok
    { review
      rawResponse := apiResponse
      model := model.getD (.str [])
      inputTokens := inputTokens.getD .null
      outputTokens := outputTokens.getD .null }

/-- What is made of a response. -/
def receive : Response → Except Raised Result
  | .failed error => .error (requestFailed error)
  | .responded status reason body =>
      if IsErrorStatus status then
        .error (requestFailed reason)
      else do
        let apiResponse ← loaded body
        resultOf builtins apiResponse

/-- `review_trainee_answer`, where `post` is the request. -/
def reviewTraineeAnswer (settings : Settings) (post : List Message → Response)
    (review : Review) : Except Raised Result := do
  let messages ← payload builtins settings review
  receive builtins (post messages)

/-! ## Rows -/

/-- `AIReview.Status`. -/
inductive Status where
  | pending
  | running
  | completed
  | error

/-- The columns of a row that are read or written. -/
structure AIReview where
  clientAnswer : Str
  taskContext : Document
  promptVersion : Stored
  status : Status
  checks : Document
  recommendations : Document
  rawResponse : Document
  model : Str
  inputTokens : Option Int
  outputTokens : Option Int
  errorMessage : Str
  startedAt : Option Nat
  finishedAt : Option Nat

/-- A document takes the text: it has no zero, and halves of surrogate pairs
stand in pairs. -/
def isJsonText : Str → Bool
  | [] => true
  | [code] => code ≠ 0 ∧ ¬ (0xD800 ≤ code ∧ code < 0xE000)
  | code :: next :: rest =>
      if 0xD800 ≤ code ∧ code < 0xDC00 then
        0xDC00 ≤ next ∧ next < 0xE000 ∧ isJsonText rest
      else
        code ≠ 0 ∧ ¬ (0xDC00 ≤ code ∧ code < 0xE000) ∧ isJsonText (next :: rest)

mutual

/-- A column of documents takes the value. -/
def isStorable : Document → Bool
  | .null => true
  | .bool _ => true
  | .int _ => true
  | .float value => value.isSome
  | .str text => isJsonText text
  | .arr elements => areStorable elements
  | .obj members => haveStorable members

/-- A column of documents takes the elements. -/
def areStorable : List Document → Bool
  | [] => true
  | element :: others => isStorable element && areStorable others

/-- A column of documents takes the members. -/
def haveStorable : List (Str × Document) → Bool
  | [] => true
  | (key, value) :: others =>
      isJsonText key && isStorable value && haveStorable others

end

/-- A document that is stored. -/
def storeDocument : Except Raised Document := do
  ensure (isStorable document = true) .databaseError
  .ok document

/-- The text of `model`, which must not be `NULL` or too long. -/
def storeModel (model : Document) : Except Raised Str :=
  match model with
  | .null => .error .databaseError
  | model => do
      let text := builtins.format model
      ensure (text.length ≤ 255 ∧ IsText text) .databaseError
      .ok text

/-- `int` of a value of a column of numbers. -/
def integerOf (value : Document) : Except Raised Int :=
  match value with
  | .bool value => .ok (if value then 1 else 0)
  | .int value => .ok value
  | .float (some value) => .ok (value.num.tdiv value.den)
  | .str text => required .databaseError (builtins.int text)
  | _ => .error .typeError

/-- The number of a `PositiveIntegerField`. -/
def storeTokens (tokens : Document) : Except Raised (Option Int) :=
  match tokens with
  | .null => .ok none
  | tokens => do
      let value ← integerOf builtins tokens
      ensure (0 ≤ value ∧ value ≤ 2147483647) .databaseError
      .ok (some value)

variable (row : AIReview)

/-- The row of a review that begins. -/
def AIReview.begin (now : Nat) : AIReview :=
  { row with
    status := .running
    startedAt := some now
    finishedAt := none
    errorMessage := [] }

/-- The row of a review that failed is saved. -/
def AIReview.saveError
    (message : Str) (now : Nat) : Except Raised AIReview := do
  ensure (IsText message) .databaseError
  .ok { row with
    status := .error
    errorMessage := message
    finishedAt := some now }

/-- The row of a review that was completed is saved. -/
def AIReview.saveCompleted
    (result : Result) (now : Nat) : Except Raised AIReview := do
  let field (key : Str) := (result.review.item? key).getD .null
  let checks ← storeDocument (field (codes "checks"))
  let recommendations ← storeDocument (field (codes "recommendations"))
  let rawResponse ← storeDocument result.rawResponse
  let model ← storeModel builtins result.model
  let inputTokens ← storeTokens builtins result.inputTokens
  let outputTokens ← storeTokens builtins result.outputTokens
  .ok { row with
    status := .completed
    checks
    recommendations
    rawResponse
    model
    inputTokens
    outputTokens
    errorMessage := []
    finishedAt := some now }

/-- What a row is reviewed with. -/
def AIReview.review (task : Task) : Review :=
  { task
    clientAnswer := row.clientAnswer
    reviewContext := row.taskContext
    promptVersion := some row.promptVersion.val }

/-- A row that was saved, or else the row before. -/
def saved : Except Raised AIReview → AIReview
  | .ok after => after
  | .error _ => row

/-- `run_ai_review`: the row that it leaves. -/
def runAiReview (settings : Settings) (post : List Message → Response)
    (task : Task) (row : AIReview) (started finished : Nat) : AIReview :=
  let running := row.begin started
  match reviewTraineeAnswer builtins settings post (row.review task) with
  | .error (.aiReviewer message) =>
      saved running (running.saveError message finished)
  | .error _ => running
  | .ok result => saved running (running.saveCompleted builtins result finished)

end TicketSandbox.Sandbox.AiReviewer
