import FairyClaw.Foundation.Faults
import FairyClaw.Hooks.Runtime
import FairyClaw.Planning.SubtaskCoordinator

/-! # The course of a planner turn

What a turn persists, executes and publishes, and what it does to the subtasks, as a function of the
model's response, the hooks and the tools. In between it pushes frames to the gateway: each is put
into the backlog, and sent when a connection is active. A connection that closes before the frame is
written makes the push raise (`FairyClaw.BridgeLink.closing`), and the exception takes the way of
any other one.
-/

namespace FairyClaw

open Foundation Fallible

/-- The pushes of a turn: of a text reply, of the text beside tool calls, before and after a tool
call, and in a step of the tool. -/
inductive PushSite
  | reply
  | preface
  | toolCall (index : Nat)
  | toolStep (index step : Nat)
  | toolResult (index : Nat)
  deriving DecidableEq, Repr

/-- What a push finds: no active connection, an open one, or one that closes before the write. -/
inductive BridgeLink
  | absent
  | live
  | closing
  deriving DecidableEq, Repr

/-- What is persisted, executed or published. -/
inductive CourseEvent
  | message (text : String)
  | executed (request : LlmToolCallRequest)
  | round (request : LlmToolCallRequest) (callId result : String) (success : Bool)
  | forceFinished (stage : String) (reason : Option String)
  | followUp (taskType : String) (enabledGroups : List String)
  | failureNotified (summary : String)
  | barrier (barrier : SubtaskBarrier)
  | other (effect : String)

/-- The subtasks of the main session, and the events of the turn so far. -/
structure TurnCourse where
  tasks : SessionSubTaskState
  events : List CourseEvent := []

/-- `ForceFinishDirective` -/
structure ForceFinishDirective where
  stage : String
  reason : Option String

/-- What `_prepare_turn` returns. -/
structure PreparedTurn where
  taskType : String
  resolvedGroups : List String
  toolCalls : List LlmToolCallRequest
  messageText : Option String
  forceFinish : Option ForceFinishDirective

/-- What the hooks before a tool call do and answer. -/
structure BeforeToolAnswer where
  effects : List CourseEvent
  request : LlmToolCallRequest
  forceFinish : Option ForceFinishDirective

/-- What the hooks after a tool call do and answer. -/
structure AfterToolAnswer where
  effects : List CourseEvent
  forceFinish : Option ForceFinishDirective

/-- A step of a tool: something it persists or publishes, a change of the subtasks, or a push. -/
inductive ToolStep
  | effect (event : CourseEvent)
  | change (change : SessionSubTaskState → SessionSubTaskState)
  | push

/-- The steps of a tool, and what it returns or raises when they are done. The runtime may refuse
the call before them, when it cannot read the context of the session. -/
structure ToolRun where
  refusal : Option String := none
  steps : List ToolStep
  result : Except String String

/-- A main session, or the sub-session of a task. -/
inductive SessionKind
  | main
  | sub (task : String)
  deriving DecidableEq

/-- The session of the turn, whether it is persisted, the text of the exception of a closed
connection, and the model, the hooks and the tools, which may look at the course so far. -/
structure TurnSetting where
  kind : SessionKind
  hasMemory : Bool
  sendError : String
  prepare : TurnCourse → List CourseEvent × Except String PreparedTurn
  beforeTool : TurnCourse → LlmToolCallRequest → Nat → BeforeToolAnswer
  tool : TurnCourse → LlmToolCallRequest → ToolRun
  recordEvent : String → Bool
  afterTool : TurnCourse → LlmToolCallRequest → Nat → String → Bool → AfterToolAnswer

/-- `ToolBatchExecutionResult` -/
structure ToolBatchExecutionResult where
  calledTools : List String
  forceFinish : Option ForceFinishDirective

/-- What runs within a turn, with the pushes that it attempts. -/
abbrev TurnM := Fallible String (Attempts PushSite TurnCourse)

/-- The pushes that raise. -/
def TurnSetting.faults (setting : TurnSetting) (links : PushSite → BridgeLink) :
    Faults PushSite String :=
  fun site => if links site = .closing then some setting.sendError else none

namespace TurnCourse

variable (course : TurnCourse)

/-- Events behind those so far. -/
def record (events : List CourseEvent) : TurnCourse :=
  { course with events := course.events ++ events }

/-- A change of the subtasks. -/
def changeTasks (change : SessionSubTaskState → SessionSubTaskState) : TurnCourse :=
  { course with tasks := change course.tasks }

/-- `mark_subtask_if_non_terminal` -/
def markSubtaskIfNonTerminal (task status summary : String) : TurnCourse :=
  if course.tasks.isTerminal task then course
  else course.changeTasks fun tasks => (tasks.markTerminal task status summary).2

/-- `publish_subtask_barrier_if_ready` -/
def publishSubtaskBarrierIfReady : TurnCourse :=
  match course.tasks.barrierIfReady with
  | none => course
  | some barrier =>
      (course.record [.barrier barrier]).changeTasks SessionSubTaskState.markAggregationEmitted

/-- `notify_main_session_subtask_failure`, for a failed task -/
def notifyMainSessionSubtaskFailure (task summary : String) : TurnCourse :=
  if course.tasks.hasImmediateFailureNotified task then course
  else (course.record
      [.failureNotified (orElse (strip summary) "Sub-agent exited with an unknown error.")]
    ).changeTasks fun tasks => tasks.markImmediateFailureNotified task

/-- `SubSessionTurnPolicy.handle_failure` -/
def handleFailure (task exc : String) : TurnCourse :=
  let marked := course.markSubtaskIfNonTerminal task "failed" exc
  let notified :=
    if (marked.tasks.getRecord task).any fun record => record.status = "failed" then
      marked.notifyMainSessionSubtaskFailure task exc
    else marked
  notified.publishSubtaskBarrierIfReady

end TurnCourse

/-! ## The turn -/

/-- Record events. -/
def log (events : List CourseEvent) : TurnM PUnit := update (TurnCourse.record · events)

/-- `emit_assistant_text` at one of its sites -/
def emitAssistantText (faults : Faults PushSite String) (site : PushSite) (text : String) :
    TurnM PUnit :=
  if strip text = "" then pure ⟨⟩ else attempt faults site

namespace TurnSetting

variable (setting : TurnSetting) (faults : Faults PushSite String)

/-- `_handle_text_fallback` -/
def handleTextFallback (content : String) : TurnM PUnit :=
  if setting.hasMemory then do
    log [.message content]
    emitAssistantText faults .reply content
  else pure ⟨⟩

/-- `_normalize_assistant_tool_message` -/
def normalizeAssistantToolMessage (messageText : Option String) : Option String :=
  let text := strip (messageText.getD "")
  let inner :=
    if startsWith text "<thought>" && "</thought>".toList.isSuffixOf text.toList then
      strip (String.ofList ((text.toList.drop 9).take (text.length - 19)))
    else text
  if inner = "" then none else some inner

/-- The text beside the tool calls. -/
def handlePreface (messageText : Option String) : TurnM PUnit :=
  match normalizeAssistantToolMessage messageText with
  | none => pure ⟨⟩
  | some text =>
      if setting.hasMemory then do
        log [.message text]
        emitAssistantText faults .preface text
      else pure ⟨⟩

/-- The steps of the tool of a call, by their position. -/
def runToolSteps (index : Nat) : Nat → List ToolStep → TurnM PUnit
  | _, [] => pure ⟨⟩
  | step, .effect event :: rest => do
      log [event]
      runToolSteps index (step + 1) rest
  | step, .change change :: rest => do
      update (TurnCourse.changeTasks · change)
      runToolSteps index (step + 1) rest
  | step, .push :: rest => do
      attempt faults (.toolStep index step)
      runToolSteps index (step + 1) rest

/-- The executor in `ToolRuntime.execute`: what it raises becomes its result. -/
def runTool (index : Nat) (request : LlmToolCallRequest) (run : ToolRun) : TurnM String :=
  recover
    (do
      runToolSteps faults index 0 run.steps
      ofExcept run.result)
    fun exc => pure ("Error executing tool '" ++ request.name ++ "': " ++ exc)

/-- The outcome of a call; only what the runtime itself raises makes it a failure. -/
def outcomeOf (index : Nat) (request : LlmToolCallRequest) (run : ToolRun) :
    TurnM (String × Bool) :=
  match run.refusal with
  | some exc => pure ("Error executing tool " ++ request.name ++ ": " ++ exc, false)
  | none => do
      let text ← runTool faults index request run
      return (text, true)

/-- Hand a call to the tool runtime. -/
def executeTool (index : Nat) (request : LlmToolCallRequest) : TurnM (String × Bool) := do
  log [.executed request]
  let course ← current
  outcomeOf faults index request (setting.tool course request)

/-- Record the round of a call, and push its result. -/
def recordRound (index : Nat) (request : LlmToolCallRequest) (callId result : String)
    (success : Bool) : TurnM PUnit :=
  if setting.recordEvent request.name && setting.hasMemory then do
    log [.round request callId result success]
    attempt faults (.toolResult index)
  else pure ⟨⟩

/-- `make_short_tool_call_id`, without an identifier of the model -/
def shortToolCallId (index : Nat) : String :=
  "tc_" ++ toString (index + 1) ++ "_" ++ toString (index + 1)

/-- `emit_tool_call`, for a session that is persisted -/
def emitToolCall (index : Nat) : TurnM PUnit :=
  if setting.hasMemory then attempt faults (.toolCall index) else pure ⟨⟩

/-- The hooks after a call. -/
def askAfterTool (index : Nat) (request : LlmToolCallRequest) (result : String) (success : Bool) :
    TurnM AfterToolAnswer := do
  let course ← current
  let answer := setting.afterTool course request index result success
  log answer.effects
  return answer

/-- Execute and record a call, up to the hooks after it. -/
def completeCall (index : Nat) (request : LlmToolCallRequest) : TurnM AfterToolAnswer := do
  let outcome ← setting.executeTool faults index request
  setting.recordRound faults index request (orElse request.callId (shortToolCallId index))
    outcome.1 outcome.2
  setting.askAfterTool index request outcome.1 outcome.2

/-- The turn of the loop of `_process_tool_calls` for one call. -/
def runCall (index : Nat) (request : LlmToolCallRequest) : TurnM AfterToolAnswer := do
  setting.emitToolCall faults index
  setting.completeCall faults index request

/-- `_publish_force_finish_event`, and the result of the batch that it ends -/
def finishBatch (called : List String) (directive : ForceFinishDirective) :
    TurnM ToolBatchExecutionResult := do
  log [.forceFinished directive.stage directive.reason]
  return { calledTools := called, forceFinish := some directive }

/-- The loop of `_process_tool_calls` -/
def processCalls : Nat → List LlmToolCallRequest → List String → TurnM ToolBatchExecutionResult
  | _, [], called => pure { calledTools := called, forceFinish := none }
  | index, call :: rest, called => do
      let course ← current
      let before := setting.beforeTool course call index
      log before.effects
      match before.forceFinish with
      | some directive => finishBatch called directive
      | none => do
          let after ← setting.runCall faults index before.request
          match after.forceFinish with
          | some directive => finishBatch (called ++ [before.request.name]) directive
          | none => processCalls (index + 1) rest (called ++ [before.request.name])

/-- `handle_text_response` -/
def handleTextResponse (messageText : Option String) : TurnM PUnit :=
  let text := messageText.getD ""
  if text = "" then pure ⟨⟩
  else do
    setting.handleTextFallback faults text
    match setting.kind with
    | .main => pure ⟨⟩
    | .sub task => update fun course =>
        (course.markSubtaskIfNonTerminal task "completed" text).publishSubtaskBarrierIfReady

/-- `handle_tool_follow_up` -/
def handleToolFollowUp (prepared : PreparedTurn) (called : List String) : TurnM PUnit := do
  let course ← current
  match setting.kind with
  | .main =>
      if called = [] then pure ⟨⟩ else log [.followUp prepared.taskType prepared.resolvedGroups]
  | .sub task =>
      if course.tasks.isTerminal task then update TurnCourse.publishSubtaskBarrierIfReady
      else if called = [] then pure ⟨⟩
      else log [.followUp prepared.taskType prepared.resolvedGroups]

/-- What follows the batch of tool calls. -/
def endBatch (prepared : PreparedTurn) (result : ToolBatchExecutionResult) : TurnM PUnit :=
  match result.forceFinish with
  | some _ => pure ⟨⟩
  | none => setting.handleToolFollowUp prepared result.calledTools

/-- The turn once it is prepared. -/
def actOn (prepared : PreparedTurn) : TurnM PUnit :=
  match prepared.forceFinish with
  | some _ =>
      let text := prepared.messageText.getD ""
      if text = "" then pure ⟨⟩ else setting.handleTextFallback faults text
  | none =>
      if prepared.toolCalls = [] then setting.handleTextResponse faults prepared.messageText
      else do
        setting.handlePreface faults prepared.messageText
        let result ← setting.processCalls faults 0 prepared.toolCalls []
        setting.endBatch prepared result

/-- `_prepare_turn` -/
def prepareTurn : TurnM PreparedTurn := do
  let course ← current
  let prepared := setting.prepare course
  log prepared.1
  ofExcept prepared.2

/-- `handle_failure` -/
def handleFailure (exc : String) : TurnM PUnit :=
  match setting.kind with
  | .main => pure ⟨⟩
  | .sub task => update (TurnCourse.handleFailure · task exc)

/-- `should_skip` -/
def shouldSkip (course : TurnCourse) : Bool :=
  match setting.kind with
  | .main => false
  | .sub task => course.tasks.isTerminal task

/-- `_run_turn_with_policy` -/
def runTurnWithPolicy : TurnM PUnit := do
  let course ← current
  if setting.shouldSkip course then pure ⟨⟩
  else
    recover
      (do
        let prepared ← setting.prepareTurn
        setting.actOn faults prepared)
      setting.handleFailure

/-- Run a turn: its course, and the frames it has pushed. -/
def runTurn (links : PushSite → BridgeLink) (start : TurnCourse) : Attempts PushSite TurnCourse :=
  (exec (setting.runTurnWithPolicy (setting.faults links)) { state := start }).2

end TurnSetting

end FairyClaw
