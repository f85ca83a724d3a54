import FairyClaw.Foundation.JsonText
import FairyClaw.Foundation.Machine
import FairyClaw.Session.GlobalState

/-! # Task rows of a main session

Every delegated task has two descriptions. Its record (`FairyClaw.SubTaskRecord`) lives in the
process; its sub-session is a row of the database, and the metadata of the row repeat the status.
The tools and the coordinator write both (`FairyClaw.SubtaskStore.perform`), and the task list of
the user interface is read from both (`FairyClaw.SubtaskStore.collectSubagentTaskRows`). After a
restart only the rows are left.
-/

namespace FairyClaw

open Foundation

/-- The part of a text after its first colon. -/
def afterColon (text : String) : String :=
  String.ofList ((text.toList.dropWhile (· ≠ ':')).drop 1)

/-- `_normalize_task_type` -/
def normalizeTaskType (value : String) : String :=
  let normalized := lower (strip value)
  if normalized ∈ ["image", "code", "general"] then normalized else "general"

/-- `_infer_task_type_from_status` -/
def inferTaskTypeFromStatus (status : String) : String :=
  if ':' ∉ status.toList then "general"
  else if String.ofList (status.toList.takeWhile (· ≠ ':')) ≠ "running" then "general"
  else normalizeTaskType (afterColon status)

/-- `_task_type_from_status` -/
def taskTypeFromStatus (status : String) : String :=
  let raw := lower (strip status)
  if startsWith raw "running:" then orElse (strip (afterColon raw)) "general" else "general"

/-- `_status_display` -/
def statusDisplay (status : String) : String :=
  let raw := lower (strip status)
  if raw ∈ terminalStatuses then raw
  else if startsWith raw "running" then "running"
  else if raw = "active" then "running"
  else orElse raw "running"

/-- The first characters of a text. -/
def truncated (text : String) (length : Nat) : String := String.ofList (text.toList.take length)

namespace SessionSubTaskState

variable (state : SessionSubTaskState)

/-- `active_count` -/
def activeCount : Nat :=
  (state.records.filter fun record => startsWith record.status "running").length

/-- `find_matching_task_ids` -/
def findMatchingTaskIds (start : String) : List String :=
  if start = "" then []
  else (state.records.map SubTaskRecord.subSessionId).filter (startsWith · start)

/-- The task of an exact identifier or of an unambiguous prefix. -/
def resolveTaskId (subSessionIdOrPrefix : String) : Option String :=
  if (state.getRecord subSessionIdOrPrefix).isSome then some subSessionIdOrPrefix
  else
    match state.findMatchingTaskIds subSessionIdOrPrefix with
    | [task] => some task
    | _ => none

end SessionSubTaskState

/-- The stored row of a sub-session. -/
structure SubSessionRow where
  id : String
  title : String
  metadata : JsonObject

namespace SubSessionRow

/-- A text entry of the metadata. -/
def text (row : SubSessionRow) (key : String) : Option String :=
  (row.metadata.get key).bind Json.asStr

/-- A copy of the metadata is changed and stored. -/
def update (row : SubSessionRow) (entries : JsonObject) : SubSessionRow :=
  { row with metadata := row.metadata.update entries }

end SubSessionRow

/-- The subtasks of one main session: the records of the process with their
instructions, the sub-sessions bound in the process, and the stored rows. -/
structure SubtaskStore where
  mainSessionId : String
  state : SessionSubTaskState := {}
  instructions : List (String × String) := []
  bound : List String := []
  rows : List SubSessionRow := []

/-- How far a delegation gets once its row is stored: the history of the sub-session
is not written, the wakeup is not published, or the task starts. -/
inductive Startup
  | abandoned
  | unpublished
  | started
  deriving DecidableEq, Repr

/-- The arguments of `report_subtask_done`, as texts. A missing text is empty. -/
structure SubtaskReport where
  status : String := ""
  summary : String := ""
  artifacts : List String := []
  needsFollowup : Bool := false

/-- One entry of the task list. The times and the event count of an entry come from
the database alone and are left out. -/
structure SubagentTaskState where
  taskId : String
  parentSessionId : String
  label : String
  status : String
  statusDisplay : String
  taskType : String
  instruction : Option String
  detail : Option String
  deriving DecidableEq, Repr

namespace SubtaskStore

variable (store : SubtaskStore)

/-- The session model of a sub-session. -/
def getRow (subSessionId : String) : Option SubSessionRow :=
  store.rows.find? fun row => row.id = subSessionId

/-- Write entries into the metadata of a sub-session and commit. -/
def persist (subSessionId : String) (entries : JsonObject) : SubtaskStore :=
  { store with rows := store.rows.map fun row =>
      if row.id = subSessionId then row.update entries else row }

/-! ## The five operations -/

/-- `mark_subtask_if_non_terminal` -/
def markSubtaskIfNonTerminal (subSessionId status summary : String) : SubtaskStore :=
  if subSessionId ∉ store.bound then store
  else if store.state.isTerminal subSessionId then store
  else
    { store with state := (store.state.markTerminal subSessionId status summary).2 }.persist
      subSessionId [("subtask_status", .str (orElse (lower (strip status)) "completed"))]

/-- The status that a report asks for. -/
def reportStatus (report : SubtaskReport) : String :=
  lower (strip (orElse report.status "completed"))

/-- The summary that a report stores. -/
def reportPayload (report : SubtaskReport) : String :=
  let artifactLines :=
    (report.artifacts.filter fun item => strip item ≠ "").map fun item => "- " ++ strip item
  String.intercalate "\n" ([strip report.summary] ++
    (if artifactLines ≠ [] then "Artifacts:" :: artifactLines else []) ++
    ["Needs follow-up: " ++ (if report.needsFollowup then "yes" else "no")])

/-- `report_subtask_done`, issued in the sub-session. -/
def reportSubtaskDone (subSessionId : String) (report : SubtaskReport) : String × SubtaskStore :=
  let status := reportStatus report
  if subSessionId ∉ store.bound then
    ("Error: current session is not a registered sub-task.", store)
  else if strip report.summary = "" then ("Error: summary is required.", store)
  else
    match store.state.markTerminal subSessionId status (reportPayload report) with
    | (false, _) => ("Sub-task " ++ subSessionId ++ " already in terminal state.", store)
    | (true, state) =>
        ("Sub-task " ++ subSessionId ++ " reported as " ++ status ++ ".",
          { store with state := state }.persist subSessionId [("subtask_status", .str status)])

/-- The answer to a reference that names no task. -/
def unresolved (reference missing : String) : String :=
  let found := store.state.findMatchingTaskIds reference
  if 1 < found.length then
    "Task ID '" ++ reference ++ "' is ambiguous. Matching tasks: " ++
      String.intercalate ", " (found.mergeSort fun left right => decide (left ≤ right))
  else "Task " ++ reference ++ missing

/-- The end of the answer for a task that does not run. -/
def notRunning : String :=
  " is not currently running. It may have already completed, failed, or the ID is invalid."

/-- The summary of a killed task. -/
def cancelledByUser : String := "Cancelled by user request."

/-- `kill_subtask` -/
def killSubtask (reference : String) : String × SubtaskStore :=
  let reference := strip reference
  if reference = "" then ("Error: sub_session_id is required.", store)
  else
    match store.state.resolveTaskId reference with
    | none => (store.unresolved reference notRunning, store)
    | some task =>
        match store.state.getRecord task with
        | none => ("Task " ++ task ++ notRunning, store)
        | some record =>
            if startsWith record.status "running" then
              let state :=
                (store.state.markTerminal task "cancelled" cancelledByUser).2
              ("Task " ++ task ++ " has been marked as cancelled. There are " ++
                  toString state.activeCount ++
                  " other sub-tasks still running in the background.",
                { store with state := state }.persist task
                  [("subtask_status", .str "cancelled")])
            else
              ("Task " ++ task ++ " is not currently running. Current status: " ++
                record.status ++ ".", store)

/-- The task type that a message gives its task. -/
def messageTaskType (status taskType : String) : String :=
  let taskTypeArg := lower (strip taskType)
  if taskTypeArg ≠ "" then normalizeTaskType taskTypeArg else inferTaskTypeFromStatus status

/-- `message_subtask`, with its message stored and the event published. -/
def messageSubtask (reference message taskType : String) : String × SubtaskStore :=
  let reference := strip reference
  if reference = "" then ("Error: sub_session_id is required.", store)
  else if strip message = "" then ("Error: message is required.", store)
  else
    match store.state.resolveTaskId reference with
    | none => (store.unresolved reference " is not found in this session.", store)
    | some task =>
        match store.state.getRecord task with
        | none => ("Task " ++ task ++ " is not found in this session.", store)
        | some record =>
            let taskType := messageTaskType record.status taskType
            let answer :=
              if store.state.isTerminal task then "Task was terminal and is now resumed as "
              else "Task remains active as "
            ("Message sent to sub-task " ++ task ++ ". " ++ answer ++ runningStatus taskType ++ ".",
              { store with state := store.state.messageTask task taskType }.persist task
                [("subtask_status", .str (runningStatus taskType)),
                  ("task_type", .str taskType)])

/-- The text of the error when there is no bus. -/
def busUnavailable : String := "Runtime bus unavailable for sub-task wakeup."

/-- The title of a sub-session. -/
def subSessionTitle (instruction taskType : String) : String :=
  let short := strip (String.ofList (instruction.toList.map fun char =>
    if char = '\n' then ' ' else char))
  taskType ++ " | " ++ (if 80 < short.toList.length then truncated short 80 ++ "…" else short)

/-- The row of a new sub-session. The other entries of its metadata are the contract and the
routing of the sub-session. -/
def delegatedRow (subSessionId instruction taskType : String) (others : JsonObject) :
    SubSessionRow where
  id := subSessionId
  title := subSessionTitle instruction taskType
  metadata := ("task_type", .str taskType) :: ("instruction", .str instruction) ::
    ("subtask_status", .str (runningStatus taskType)) :: others

/-- The row is stored, and the task is registered and bound. -/
def registered (subSessionId instruction taskType : String) (others : JsonObject) :
    SubtaskStore :=
  { store with
    rows := store.rows ++ [delegatedRow subSessionId instruction taskType others]
    state := store.state.delegateTask subSessionId taskType
    instructions := (subSessionId, instruction) :: store.instructions
    bound := subSessionId :: store.bound }

/-- `delegate_task` for an accepted request, from the creation of the sub-session on. The
error is the text of the exception that a stored identifier raises, or the answer when the
history is not written. -/
def delegateTask (subSessionId instruction taskType : String) (others : JsonObject)
    (startup : Startup) (error : String) : String × SubtaskStore :=
  if instruction = "" then ("Error: instruction is required.", store)
  else if (store.getRow subSessionId).isSome then
    ("Error: Failed to initialize sub-session in database: " ++ error, store)
  else
    let registered := store.registered subSessionId instruction taskType others
    match startup with
    | .abandoned =>
        (error, { store with
          rows := store.rows ++ [delegatedRow subSessionId instruction taskType others] })
    | .unpublished =>
        ("Task delegated but failed to start. Sub-agent Session ID: " ++ subSessionId ++ ".",
          { registered with
            state := (registered.state.markTerminal subSessionId "failed" busUnavailable).2 }.persist
              subSessionId [("subtask_status", .str "failed")])
    | .started =>
        ("Task delegated successfully. Sub-agent started with Session ID: " ++ subSessionId ++
          ". You will receive a [System Notification] message when it completes.", registered)

/-- The process ends and starts again. -/
def restart : SubtaskStore :=
  { store with state := {}, instructions := [], bound := [] }

/-! ## The task list -/

/-- The entry of a row, with the values that its record may decide. -/
def entry (row : SubSessionRow) (status taskType instruction : String)
    (detail : Option String) : SubagentTaskState :=
  let title := if startsWith (lower row.title) "sub-agent of " then "" else row.title
  let label := taskType ++ " | " ++ orElse (orElse instruction title) row.id
  { taskId := row.id
    parentSessionId := store.mainSessionId
    label := truncated label 128
    status := truncated status 64
    statusDisplay := statusDisplay status
    taskType := truncated taskType 32
    instruction := if instruction = "" then none else some (truncated instruction 200)
    detail := detail }

/-- The status of an entry, from the record and from the row. -/
def shownStatus (status persisted : String) : String :=
  orElse (orElse (strip status) (strip persisted)) "running:general"

/-- One turn of the loop of `collect_subagent_task_rows`. -/
def taskRow (row : SubSessionRow) : SubagentTaskState :=
  let record := store.state.getRecord row.id
  let status := shownStatus (record.elim "" SubTaskRecord.status)
    ((row.text "subtask_status").getD "")
  let taskType :=
    match record, row.text "task_type" with
    | none, some taskType => taskTypeFromStatus (runningStatus taskType)
    | _, _ => taskTypeFromStatus status
  let instruction := orElse (strip ((store.instructions.lookup row.id).getD ""))
    (strip ((row.text "instruction").getD ""))
  store.entry row status taskType instruction (record.bind fun record =>
    if record.summary = "" then none else some record.summary)

/-- `collect_subagent_task_rows` -/
def collectSubagentTaskRows : List SubagentTaskState := store.rows.map store.taskRow

end SubtaskStore

/-- What is done to the subtasks of a main session, one at a time. -/
inductive StatusOp
  | delegate (subSessionId instruction taskType : String) (others : JsonObject)
      (startup : Startup) (error : String)
  | mark (subSessionId status summary : String)
  | report (subSessionId : String) (report : SubtaskReport)
  | kill (reference : String)
  | message (reference message taskType : String)
  | restart

namespace SubtaskStore

/-- The store after an operation. -/
def perform (store : SubtaskStore) : StatusOp → SubtaskStore
  | .delegate subSessionId instruction taskType others startup error =>
      (store.delegateTask subSessionId instruction taskType others startup error).2
  | .mark subSessionId status summary => store.markSubtaskIfNonTerminal subSessionId status summary
  | .report subSessionId report => (store.reportSubtaskDone subSessionId report).2
  | .kill reference => (store.killSubtask reference).2
  | .message reference message taskType => (store.messageSubtask reference message taskType).2
  | .restart => store.restart

/-- The subtasks of a main session from its creation on. -/
def machine : Machine SubtaskStore StatusOp where
  initial store := ∃ mainSessionId, store = { mainSessionId := mainSessionId }
  step store op := some (store.perform op)

end SubtaskStore

end FairyClaw
