import TicketSandbox.Library.Upserts
import TicketSandbox.Sandbox.AiReviewer
import TicketSandbox.Sandbox.Models

namespace TicketSandbox.Sandbox.TrainingTasks

/-!
# Synchronising the training tasks

`sync_training_tasks`: the directories under `training_tasks` in their order,
the metadata of each with its defaults and its checks, and the table of tasks,
in which every directory is written by a statement of its own.  Names and texts
are lists of code points, as JSON and the file system give them.
-/

open AiReviewer (Document IsBlank IsText Str codes haveStorable)
open Raises

/-! ## Metadata -/

/-- A `dict` of metadata. -/
abbrev Dict := Str → Option Document

/-- The object that `json.load` returns: the last member of a name counts. -/
def dictOf (members : List (Str × Document)) : Dict :=
  fun name => (members.reverse.find? fun member => member.1 = name).map Prod.snd

/-- `dict.update`. -/
def Dict.update (old new : Dict) : Dict :=
  fun name => (new name).or (old name)

/-- `task.json` of a directory. -/
inductive TaskJson where
  | absent
  | invalid
  | notObject
  | object (members : List (Str × Document))

/-- A directory under `training_tasks/<queue_slug>/`. -/
structure TaskDir where
  queueSlug : Str
  taskSlug : Str
  dockerfile : Bool
  checkScript : Bool
  filesCheckScript : Bool
  taskJson : TaskJson

/-- Why the command fails. -/
inductive Failure where
  | directoryNotFound
  | invalidJson
  | rootNotObject
  | stringRequired (field : String)
  | priorityUnknown
  | orderNotPositive
  | boolRequired (field : String)
  | contextNotObject
  | dataError
  | integrityError
  | typeError
  | skippedInStrictMode (count : Nat)
  deriving Repr, DecidableEq

/-- The text of a `CommandError` about the file at `path`. -/
def Failure.message (path : String) : Failure → Option String
  | .directoryNotFound => some ("Directory not found: " ++ path)
  | .invalidJson => some ("Invalid JSON in " ++ path)
  | .rootNotObject =>
      some ("Invalid JSON in " ++ path ++ ": root value must be an object")
  | .stringRequired field =>
      some ("Invalid metadata in " ++ path ++ ": \"" ++ field ++
          "\" must be a non-empty string")
  | .priorityUnknown =>
      some ("Invalid metadata in " ++ path ++
          ": \"priority\" must be one of: critical, high, low, medium")
  | .orderNotPositive =>
      some ("Invalid metadata in " ++ path ++
          ": \"order\" must be a positive integer")
  | .boolRequired field =>
      some ("Invalid metadata in " ++ path ++ ": \"" ++ field ++
          "\" must be true or false")
  | .contextNotObject =>
      some ("Invalid metadata in " ++ path ++
          ": \"ai_review_context\" must be an object")
  | .skippedInStrictMode count =>
      some ("sync_training_tasks skipped " ++ toString count ++
          " task(s) in strict mode.")
  | .dataError => none
  | .integrityError => none
  | .typeError => none

/-! ## Defaults -/

/-- `DEFAULT_CLIENTS`. -/
def defaultClients : List (String × String) :=
  [("Алексей Морозов", "a.morozov@example.com"),
    ("Мария Соколова", "m.sokolova@example.com"),
    ("Иван Крылов", "i.krylov@example.com"),
    ("Елена Федорова", "e.fedorova@example.com"),
    ("Дмитрий Орлов", "d.orlov@example.com"),
    ("Анна Белова", "a.belova@example.com")]

/-- `DEFAULT_TITLES`. -/
def defaultTitles : List (String × String) :=
  [("nginx-not-starting", "Nginx не запускается после изменения конфига"),
    ("site-opens-wrong-directory",
      "Сайт открывается из неправильной директории"),
    ("php-error", "Ошибка PHP на странице сайта"),
    ("disk-full", "На сервере закончилось место"),
    ("cron-not-working", "Cron-задача не выполняется"),
    ("mysql-access-denied", "Сайт не подключается к базе данных")]

/-- `DEFAULT_DESCRIPTIONS`. -/
def defaultDescriptions : List (String × String) :=
  [("nginx-not-starting",
      "Здравствуйте.\n\nПосле изменения конфигурации сайт " ++
        "перестал открываться. В браузере появляется ошибка, что " ++
        "страница недоступна.\n\nПожалуйста, проверьте " ++
        "веб-сервер, найдите причину проблемы и восстановите " ++
        "работу сайта. После исправления напишите, что именно " ++
        "было не так и что вы сделали."),
    ("site-opens-wrong-directory",
      "Здравствуйте.\n\nПосле переноса сайта открывается не та " ++
        "страница: вместо сайта отображается стандартная " ++
        "заглушка или содержимое другой директории.\n\n" ++
        "Пожалуйста, проверьте настройки веб-сервера и исправьте " ++
        "путь к корневой директории сайта."),
    ("php-error", "Здравствуйте.\n\nНа сайте появилась ошибка PHP. Раньше " ++
        "страница открывалась корректно, но после изменений " ++
        "часть функционала перестала работать.\n\nПожалуйста, " ++
        "проведите диагностику, найдите причину ошибки и " ++
        "восстановите работу страницы."),
    ("disk-full", "Здравствуйте.\n\nСайт начал работать нестабильно: часть " ++
        "страниц открывается медленно, а загрузка файлов " ++
        "завершается ошибкой.\n\nПожалуйста, проверьте свободное " ++
        "место на сервере, найдите причину заполнения диска и " ++
        "освободите место безопасным способом."),
    ("cron-not-working", "Здравствуйте.\n\nАвтоматическая задача перестала " ++
        "выполняться по расписанию. Из-за этого данные на сайте " ++
        "не обновляются.\n\nПожалуйста, проверьте cron-задачи, " ++
        "найдите причину проблемы и восстановите выполнение " ++
        "задания."),
    ("mysql-access-denied",
      "Здравствуйте.\n\nСайт не может подключиться к базе " ++
        "данных. На странице отображается ошибка подключения.\n\n" ++
        "Пожалуйста, проверьте настройки подключения к БД и " ++
        "восстановите работу сайта.")]

/-- The code point of a character. -/
abbrev code (char : Char) : Nat := char.toNat

/-- `normalize_slug`. -/
def normalizeSlug (slug : Str) : Str :=
  slug.map fun point => if point = code '_' then code '-' else point

/-- `humanize_slug`, given `str.capitalize`. -/
def humanizeSlug (capitalize : Str → Str) (slug : Str) : Str :=
  capitalize (slug.map fun point =>
    if point = code '-' ∨ point = code '_' then code ' ' else point)

/-- `DEFAULTS.get(task_slug, DEFAULTS.get(normalized_slug, otherwise))`. -/
def defaultFor
    (defaults : List (String × String)) (taskSlug otherwise : Str) : Str :=
  let listed := defaults.map (Prod.map codes codes)
  ((listed.lookup taskSlug).or (listed.lookup (normalizeSlug taskSlug))).getD
    otherwise

/-- The description of a task that has no default one. -/
def describe (title : Str) : Str :=
  codes "Здравствуйте.\n\nВозникла проблема в учебном задании «" ++ title ++
    codes ("». Пожалуйста, подключитесь к серверу, проведите диагностику, " ++
      "исправьте причину проблемы и подготовьте понятный ответ " ++
      "клиенту.\n\nВ ответе укажите, что было обнаружено, какие действия " ++
      "выполнены и какой сейчас результат.")

/-- `get_default_metadata`. -/
def getDefaultMetadata
    (capitalize : Str → Str) (taskSlug : Str) (order : Nat) : Dict :=
  let client :=
    defaultClients.getD ((order - 1) % defaultClients.length) ("", "")
  let title :=
    defaultFor defaultTitles taskSlug (humanizeSlug capitalize taskSlug)
  dictOf [(codes "title", .str title), (codes "ticket_title", .str title),
      (codes "client_name", .str (codes client.1)),
      (codes "client_email", .str (codes client.2)),
      (codes "description",
        .str (defaultFor defaultDescriptions taskSlug (describe title))),
      (codes "priority", .str (codes "medium")),
      (codes "order", .int order),
      (codes "requires_manual_review", .bool true),
      (codes "ai_review_context", .obj []),
      (codes "is_active", .bool true)]

/-! ## Checks -/

/-- `REQUIRED_STRING_FIELDS`. -/
def requiredStringFields : List String :=
  ["title", "ticket_title", "client_name", "client_email", "description"]

/-- `BOOL_FIELDS`. -/
def boolFields : List String :=
  ["requires_manual_review", "is_active"]

/-- `Task.Priority`. -/
def priorities : List String :=
  ["low", "medium", "high", "critical"]

/-- A value is a string that is not blank. -/
def isText : Option Document → Bool
  | some (.str text) => !decide (IsBlank text)
  | _ => false

/-- A value can be looked up in a `set`. -/
def isHashable : Option Document → Bool
  | some (.arr _) => false
  | some (.obj _) => false
  | _ => true

/-- A value is one of the priorities. -/
def isPriority : Option Document → Bool
  | some (.str text) =>
      priorities.any fun priority => decide (codes priority = text)
  | _ => false

/-- A value is a positive `int`. -/
def isOrder : Option Document → Bool
  | some (.int order) => decide (1 ≤ order)
  | _ => false

/-- A value is a `bool`. -/
def isBool : Option Document → Bool
  | some (.bool _) => true
  | _ => false

/-- A value is a `dict`. -/
def isObject : Option Document → Bool
  | some (.obj _) => true
  | _ => false

/-- `metadata.get(name)`. -/
def Dict.get (metadata : Dict) (name : String) : Option Document :=
  metadata (codes name)

/-- `metadata.get(name, default)`. -/
def Dict.getD (metadata : Dict) (name : String) (default : Document) :
    Option Document :=
  some ((metadata.get name).getD default)

/-- `validate_task_metadata`. -/
def validateTaskMetadata (metadata : Dict) : Except Failure Unit := do
  requiredStringFields.forM fun field =>
    ensure (isText (metadata.get field) = true) (.stringRequired field)
  let priority := metadata.getD "priority" (.str (codes "medium"))
  ensure (isHashable priority = true) .typeError
  ensure (isPriority priority = true) .priorityUnknown
  ensure (isOrder (metadata.get "order") = true) .orderNotPositive
  boolFields.forM fun field =>
    ensure (isBool (metadata.get field) = true) (.boolRequired field)
  ensure (isObject (metadata.getD "ai_review_context" (.obj [])) = true)
    .contextNotObject

/-! ## Tasks -/

/-- The columns of `Task` that the command writes. -/
structure TaskValues where
  title : Str
  ticketTitle : Str
  clientName : Str
  clientEmail : Str
  description : Str
  priority : Str
  order : Nat
  requiresManualReview : Bool
  aiReviewContext : List (Str × Document)
  isActive : Bool

/-- A row of `Task`. -/
structure Task where
  queue : Pk
  slug : Str
  values : TaskValues

/-- The queue and the slug of a task, which are unique. -/
def Task.key (task : Task) : Pk × Str :=
  (task.queue, task.slug)

/-- The queue and the order of a task, which are unique. -/
def Task.place (task : Task) : Pk × Nat :=
  (task.queue, task.values.order)

/-- The text under a name that was validated. -/
def Dict.text (metadata : Dict) (name : String) : Str :=
  match metadata.get name with
  | some (.str text) => text
  | _ => []

/-- The truth value under a name that was validated. -/
def Dict.bool (metadata : Dict) (name : String) : Bool :=
  match metadata.get name with
  | some (.bool value) => value
  | _ => false

/-- The order that was validated. -/
def Dict.order (metadata : Dict) : Nat :=
  match metadata.get "order" with
  | some (.int order) => order.toNat
  | _ => 0

/-- The members under a name that was validated. -/
def Dict.members (metadata : Dict) (name : String) : List (Str × Document) :=
  match metadata.get name with
  | some (.obj members) => members
  | _ => []

/-- `task_values`. -/
def taskValues (metadata : Dict) : TaskValues where
  title := metadata.text "title"
  ticketTitle := metadata.text "ticket_title"
  clientName := metadata.text "client_name"
  clientEmail := metadata.text "client_email"
  description := metadata.text "description"
  priority := metadata.text "priority"
  order := metadata.order
  requiresManualReview := metadata.bool "requires_manual_review"
  aiReviewContext := metadata.members "ai_review_context"
  isActive := metadata.bool "is_active"

/-! ## Columns -/

/-- A column of so many characters takes the text, which can be encoded and
has no NUL character. -/
def IsColumn (length : Nat) (text : Str) : Prop :=
  text.length ≤ length ∧ IsText text
  deriving Decidable

/-- The columns of `Task` hold the row. -/
def Task.fits (task : Task) : Bool :=
  let values := task.values
  decide (IsColumn 50 task.slug ∧ IsColumn 255 values.title ∧
      IsColumn 255 values.ticketTitle ∧ IsColumn 255 values.clientName ∧
      IsColumn 254 values.clientEmail ∧ IsText values.description ∧
      values.order ≤ 2147483647) &&
    haveStorable values.aiReviewContext

/-! ## The command -/

/-- The options of the command. -/
structure Options where
  dryRun : Bool := false
  strict : Bool := false

/-- What the command finds besides the tasks; `capitalize` is that of `str`. -/
structure Site where
  queues : List (Str × Pk)
  capitalize : Str → Str
  distinct : (queues.map Prod.snd).Nodup

/-- The directories in the order of their paths. -/
def sortedDirs (dirs : List TaskDir) : List TaskDir :=
  dirs.insertionSort fun first second =>
    first.queueSlug < second.queueSlug ∨
      (first.queueSlug = second.queueSlug ∧ first.taskSlug ≤ second.taskSlug)

/-- `default_order` of each directory, by the count of its queue so far. -/
def withDefaultOrders
    (orderByQueue : Str → Nat) : List TaskDir → List (TaskDir × Nat)
  | [] => []
  | dir :: rest =>
      let defaultOrder := orderByQueue dir.queueSlug + 1
      (dir, defaultOrder) :: withDefaultOrders (fun slug =>
            if slug = dir.queueSlug then defaultOrder else orderByQueue slug)
          rest

/-- The directory has the files of a task. -/
def TaskDir.isWhole (dir : TaskDir) : Bool :=
  dir.dockerfile && (dir.checkScript || dir.filesCheckScript)

/-- The queue of a directory with the files of a task can be looked up. -/
def TaskDir.IsNamed (dir : TaskDir) : Prop :=
  dir.isWhole = true → IsText dir.queueSlug
  deriving Decidable

/-- The queue of a directory that is not skipped. -/
def Site.queue? (site : Site) (dir : TaskDir) : Option Pk :=
  if dir.isWhole then site.queues.lookup dir.queueSlug else none

/-- `read_task_json`. -/
def readTaskJson : TaskJson → Except Failure Dict
  | .absent => .ok fun _ => none
  | .invalid => .error .invalidJson
  | .notObject => .error .rootNotObject
  | .object members => .ok (dictOf members)

/-- The metadata of a directory, with its defaults. -/
def Site.metadata (site : Site) (dir : TaskDir)
    (defaultOrder : Nat) : Except Failure Dict := do
  let read ← readTaskJson dir.taskJson
  let metadata :=
    (getDefaultMetadata site.capitalize dir.taskSlug defaultOrder).update read
  validateTaskMetadata metadata
  pure metadata

/-- Whether there is a task of that queue and slug. -/
def taskExists (tasks : List Task) (task : Task) : Except Failure Bool := do
  ensure (IsText task.slug) .dataError
  pure (tasks.any fun other => other.key = task.key)

/-- `update_or_create`; the statement is rolled back when it is refused. -/
def updateOrCreate
    (tasks : List Task) (task : Task) : Except Failure (List Task) := do
  ensure (task.fits = true) .dataError
  ensure (Upserts.IsFree Task.key Task.place task tasks) .integrityError
  pure (Upserts.upsert Task.key task tasks)

/-- What the command has done so far. -/
structure Progress where
  tasks : List Task
  created : Nat := 0
  updated : Nat := 0
  skipped : Nat := 0

/-- Count the directory as an update or as a creation. -/
def Progress.count (progress : Progress) (existed : Bool) : Progress :=
  if existed then
    { progress with updated := progress.updated + 1 }
  else
    { progress with created := progress.created + 1 }

/-- The body of the loop over the directories. -/
def syncDir
    (site : Site) (options : Options) (progress : Progress) (dir : TaskDir)
    (defaultOrder : Nat) : Except Failure Progress :=
  if dir.IsNamed then
    match site.queue? dir with
    | none => .ok { progress with skipped := progress.skipped + 1 }
    | some queue => do
        let metadata ← site.metadata dir defaultOrder
        let task : Task := ⟨queue, dir.taskSlug, taskValues metadata⟩
        let existed ← taskExists progress.tasks task
        if options.dryRun then
          pure (progress.count existed)
        else
          let tasks ← updateOrCreate progress.tasks task
          pure { progress.count existed with tasks := tasks }
  else
    .error .dataError

/-- The loop over the directories: what it has done, and why it stopped. -/
def syncDirs (site : Site) (options : Options) (progress : Progress) :
    List (TaskDir × Nat) → Progress × Option Failure
  | [] => (progress, none)
  | (dir, defaultOrder) :: rest =>
      match syncDir site options progress dir defaultOrder with
      | .ok next => syncDirs site options next rest
      | .error failure => (progress, some failure)

/-- `Command.handle`, given the directories unless there is no base. -/
def handle (site : Site) (options : Options) (baseDir : Option (List TaskDir))
    (tasks : List Task) : Progress × Option Failure :=
  match baseDir with
  | none => ({ tasks := tasks }, some .directoryNotFound)
  | some dirs =>
      let taskDirs := withDefaultOrders (fun _ => 0) (sortedDirs dirs)
      let (progress, failure) :=
        syncDirs site options { tasks := tasks } taskDirs
      match failure with
      | some failure => (progress, some failure)
      | none =>
          if options.strict ∧ 0 < progress.skipped then
            (progress, some (.skippedInStrictMode progress.skipped))
          else
            (progress, none)

end TicketSandbox.Sandbox.TrainingTasks
