import FairyClaw.Compression.ContextCompression
import FairyClaw.Context.TurnBoundaries
import FairyClaw.Foundation.Maintained
import FairyClaw.Planning.TurnCourse

/-! # A turn with its hook stages

A planner turn runs five stages of hooks around its calls of the model and of the tools, and
persists messages and tool rounds, to the first of which it attaches the tokens that the model has
used. The exceptions of the history, of the model, of a write and of a push end the turn
(`FairyClaw.StagedTurn.runTurn`).
-/

namespace FairyClaw

open Foundation Fallible

/-- `LLMModelResponse` -/
structure LlmModelResponse where
  text : String
  toolCalls : List LlmToolCallRequest
  usage : TokenUsage := {}
  finishReason : Option String := none

/-- The payload of the stage after the tools are prepared. -/
structure ToolsPreparedHookPayload where
  sessionId : String
  taskType : String
  isSubSession : Bool
  enabledGroups : List String
  tools : List LlmFunctionToolSpec

/-- The stages around the calls of a turn. -/
inductive HookStage
  | toolsPrepared
  | beforeLlmCall
  | afterLlmResponse
  | beforeToolCall
  | afterToolCall
  deriving DecidableEq, Repr

/-- The writes and pushes of a turn. -/
inductive TurnSite
  | storeReply
  | pushReply
  | storePreface
  | pushPreface
  | pushToolCall (index : Nat)
  | storeRound (index : Nat)
  | pushToolResult (index : Nat)
  deriving DecidableEq, Repr

/-- What a turn asks, persists, pushes and executes. -/
inductive TurnRecord
  | asked
  | answered (usage : TokenUsage)
  | message (text : String) (usage : TokenUsage)
  | textFrame (text : String)
  | toolCallFrame (callId name argumentsJson : String)
  | executed (request : LlmToolCallRequest)
  | round (round : ToolCallRound) (usage : TokenUsage)
  | toolResultFrame (round : ToolCallRound)
  | forceFinished (stage : HookStage) (reason : Option String) (enabledGroups : List String)
  | called (names : List String)
  | failed (error : String)

/-- What the hooks read and write, and the records of the turn so far. -/
structure StagedState where
  world : HookWorld := {}
  records : List TurnRecord := []

/-- What runs within a turn. -/
abbrev StagedM := Fallible String StagedState

/-- The hooks of a stage with their executors, in the order of their priorities. -/
abbrev StageHooks (Payload : Type) := List (HookDefinition × HookExecutor Payload)

variable {Payload : Type}

/-- `run_stage` of the stage runner -/
def runHooks : StageHooks Payload → Payload → HookWorld → HookStageOutput Payload × HookWorld
  | [], payload, world => ({ status := .skip, patchedPayload := some payload }, world)
  | hooks, payload, world => runStage hooks payload world

/-- Run a stage, and go on with its payload. -/
def askHooks (hooks : StageHooks Payload) (payload : Payload) : StagedM Payload := do
  let state ← get
  let answer := runHooks hooks payload state.world
  modify fun state => { state with world := answer.2 }
  return answer.1.handedOn payload

/-- Record what the turn does. -/
def note (record : TurnRecord) : StagedM PUnit :=
  modify fun state => { state with records := state.records ++ [record] }

/-- What a turn of a session meets: what precedes the hooks, the hooks of each stage by the groups,
the model, the tools by the position of their calls, and the sites that raise. -/
structure StagedTurn where
  sessionId : String
  taskType : String
  isSubSession : Bool
  hasMemory : Bool
  hasGateway : Bool
  skips : Bool := false
  resolvedGroups : List String
  toolSpecs : List LlmFunctionToolSpec
  tokenBudget : Option Int
  opening : Except String (List ChatHistoryItem)
  build : List ChatHistoryItem →
    Except String (List LlmChatMessage × List ChatHistoryItem × Option UserTurn)
  toolsPreparedHooks : List String → StageHooks ToolsPreparedHookPayload
  beforeLlmCallHooks : List String → StageHooks BeforeLlmCallHookPayload
  afterLlmResponseHooks : List String → StageHooks AfterLlmResponseHookPayload
  beforeToolCallHooks : List String → Nat → StageHooks BeforeToolCallHookPayload
  afterToolCallHooks : List String → Nat → StageHooks AfterToolCallHookPayload
  chat : List LlmChatMessage → List LlmFunctionToolSpec → Except String LlmModelResponse
  loads : String → Bool
  tool : Nat → LlmToolCallRequest → HookWorld → Except String (Option String) × HookWorld
  recordEvent : String → Bool
  raises : TurnSite → Option String

/-- What `_prepare_turn` returns. -/
structure PreparedTurnResult where
  resolvedGroups : List String
  toolCalls : List LlmToolCallRequest
  messageText : Option String
  usage : TokenUsage
  forceFinish : Option ForceFinishDirective

namespace StagedTurn

variable (turn : StagedTurn)

/-- A write or a push, unless it raises. -/
def perform (site : TurnSite) (record : TurnRecord) : StagedM PUnit :=
  match turn.raises site with
  | some error => throw error
  | none => note record

/-! ## The model -/

/-- `make_short_tool_call_id` for each call -/
def shortenCallIds (calls : List LlmToolCallRequest) : Except String (List LlmToolCallRequest) :=
  calls.zipIdx.mapM fun (call, index) =>
    match makeShortToolCallId call.callId index with
    | some callId => .ok { call with callId := callId }
    | none => .error "Exceeds the limit (4300 digits) for integer string conversion"

/-- `_has_invalid_tool_args_json` -/
def hasInvalidToolArgsJson (calls : List LlmToolCallRequest) : Bool :=
  calls.any fun call => !turn.loads call.argumentsJson

/-- `_needs_length_truncation_repair` -/
def needsLengthTruncationRepair (response : LlmModelResponse) : Bool :=
  lower (strip (response.finishReason.getD "")) = "length" &&
    (response.toolCalls ≠ [] && turn.hasInvalidToolArgsJson response.toolCalls)

/-- The message that asks for the calls again. -/
def repairMessage : LlmChatMessage where
  role := .system
  content := .text ("Your previous response was truncated (finish_reason=length) and produced " ++
    "malformed tool_call arguments JSON. Re-emit only the necessary tool_calls with complete, " ++
    "valid JSON arguments. Keep output minimal and do not include extra prose.")

/-- The text in place of calls that stay malformed. -/
def skippedText : String :=
  "Model output was truncated by upstream token limit and tool arguments stayed malformed after " ++
    "auto-repair. Skipped tool execution this turn to avoid invalid-call loops. Please retry " ++
    "with a smaller output scope."

/-- What becomes of the answer to the repair prompt. -/
def repaired (retry : LlmModelResponse) : LlmModelResponse :=
  if retry.toolCalls ≠ [] && !turn.hasInvalidToolArgsJson retry.toolCalls then retry
  else { retry with text := skippedText, toolCalls := [] }

/-- `chat_with_tools` -/
def chatWithTools (messages : List LlmChatMessage) (tools : List LlmFunctionToolSpec) :
    StagedM LlmModelResponse := do
  note .asked
  let response ← ofExcept (turn.chat messages tools)
  note (.answered response.usage)
  return response

/-- `_repair_length_truncated_tool_calls_if_needed`; the calls whose ids it shortens have the
arguments of the response. -/
def repairIfNeeded (messages : List LlmChatMessage) (tools : List LlmFunctionToolSpec)
    (response : LlmModelResponse) : StagedM LlmModelResponse := do
  let _ ← ofExcept (shortenCallIds response.toolCalls)
  if turn.needsLengthTruncationRepair response then
    let retry ← turn.chatWithTools (messages ++ [repairMessage]) tools
    let _ ← ofExcept (shortenCallIds retry.toolCalls)
    return turn.repaired retry
  else return response

/-! ## Preparation -/

/-- The payload that `_prepare_turn` gives the stage `tools_prepared`. -/
def toolsPreparedPayload : ToolsPreparedHookPayload where
  sessionId := turn.sessionId
  taskType := turn.taskType
  isSubSession := turn.isSubSession
  enabledGroups := turn.resolvedGroups
  tools := turn.toolSpecs

/-- The payload that `_prepare_turn` gives the stage `before_llm_call`. -/
def beforeLlmCallPayload (tools : List LlmFunctionToolSpec)
    (built : List LlmChatMessage × List ChatHistoryItem × Option UserTurn) :
    BeforeLlmCallHookPayload where
  turn :=
    { llmMessages := built.1
      historyItems := built.2.1
      userTurn := built.2.2
      sessionId := turn.sessionId
      taskType := turn.taskType
      isSubSession := turn.isSubSession }
  tools := tools
  tokenBudget := turn.tokenBudget

/-- The payload that `_prepare_turn` gives the stage `after_llm_response`. -/
def afterLlmResponsePayload (enabledGroups : List String) (response : LlmModelResponse)
    (calls : List LlmToolCallRequest) : AfterLlmResponseHookPayload where
  sessionId := turn.sessionId
  taskType := turn.taskType
  enabledGroups := enabledGroups
  messageText := if response.text = "" then none else some response.text
  toolCalls := calls

/-- From the history to the payload of the call of the model, with the groups. -/
def prepareCall : StagedM (List String × BeforeLlmCallHookPayload) := do
  let history ← ofExcept turn.opening
  let prepared ← askHooks (turn.toolsPreparedHooks turn.resolvedGroups) turn.toolsPreparedPayload
  let built ← ofExcept (turn.build history)
  let payload ← askHooks (turn.beforeLlmCallHooks prepared.enabledGroups)
    (turn.beforeLlmCallPayload prepared.tools built)
  return (prepared.enabledGroups, payload)

/-- From the response of the model to the end of the preparation. -/
def concludeResponse (enabledGroups : List String) (response : LlmModelResponse) :
    StagedM PreparedTurnResult := do
  let calls ← ofExcept (shortenCallIds response.toolCalls)
  let after ← askHooks (turn.afterLlmResponseHooks enabledGroups)
    (turn.afterLlmResponsePayload enabledGroups response calls)
  let prepared : PreparedTurnResult :=
    { resolvedGroups := after.enabledGroups
      toolCalls := after.toolCalls
      messageText := after.messageText
      usage := response.usage
      forceFinish := none }
  if after.forceFinish then
    note (.forceFinished .afterLlmResponse after.forceFinishReason after.enabledGroups)
    return { prepared with forceFinish := some ⟨"after_llm_response", after.forceFinishReason⟩ }
  else return prepared

/-- From the call of the model to the end of the preparation. -/
def consultModel (enabledGroups : List String) (payload : BeforeLlmCallHookPayload) :
    StagedM PreparedTurnResult := do
  let first ← turn.chatWithTools payload.turn.llmMessages payload.tools
  let response ← turn.repairIfNeeded payload.turn.llmMessages payload.tools first
  turn.concludeResponse enabledGroups response

/-- `_prepare_turn` -/
def prepareTurn : StagedM PreparedTurnResult := do
  let (enabledGroups, payload) ← turn.prepareCall
  if payload.forceFinish then
    note (.forceFinished .beforeLlmCall payload.forceFinishReason enabledGroups)
    return {
      resolvedGroups := enabledGroups
      toolCalls := []
      messageText := none
      usage := {}
      forceFinish := some ⟨"before_llm_call", payload.forceFinishReason⟩ }
  else turn.consultModel enabledGroups payload

/-! ## Text -/

/-- `emit_assistant_text`, with a gateway -/
def emitAssistantText (site : TurnSite) (text : String) : StagedM PUnit :=
  if turn.hasGateway && strip text ≠ "" then turn.perform site (.textFrame text) else pure ⟨⟩

/-- `_handle_text_fallback` -/
def handleTextFallback (content : String) (usage : TokenUsage) : StagedM PUnit :=
  if turn.hasMemory then do
    turn.perform .storeReply (.message content usage)
    turn.emitAssistantText .pushReply content
  else pure ⟨⟩

/-- Text that is not empty is persisted. -/
def handleText (messageText : Option String) (usage : TokenUsage) : StagedM PUnit :=
  let text := messageText.getD ""
  if text = "" then pure ⟨⟩ else turn.handleTextFallback text usage

/-- The text beside the tool calls, and the usage that is left for them. -/
def handlePreface (messageText : Option String) (usage : TokenUsage) : StagedM TokenUsage :=
  match TurnSetting.normalizeAssistantToolMessage messageText with
  | none => return usage
  | some text =>
      if turn.hasMemory then do
        turn.perform .storePreface (.message text usage)
        turn.emitAssistantText .pushPreface text
        return {}
      else return usage

/-! ## Tool calls -/

/-- The payload that `_process_tool_calls` gives the stage `before_tool_call`. -/
def beforeToolCallPayload (enabledGroups : List String) (index : Nat)
    (request : LlmToolCallRequest) : BeforeToolCallHookPayload where
  request := request
  sessionId := turn.sessionId
  callIndex := index
  enabledGroups := enabledGroups

/-- The payload that `_process_tool_calls` gives the stage `after_tool_call`. -/
def afterToolCallPayload (index : Nat) (request : LlmToolCallRequest) (outcome : String × Bool) :
    AfterToolCallHookPayload where
  request := request
  sessionId := turn.sessionId
  callIndex := index
  result := outcome.1
  toolStatus := if outcome.2 then "ok" else "error"

/-- `request.call_id or make_short_tool_call_id("", index)` -/
def callIdOf (index : Nat) (request : LlmToolCallRequest) : String :=
  orElse request.callId (TurnSetting.shortToolCallId index)

/-- `emit_tool_call`, with a gateway -/
def emitToolCall (index : Nat) (request : LlmToolCallRequest) : StagedM PUnit :=
  if turn.hasMemory && turn.hasGateway then
    turn.perform (.pushToolCall index)
      (.toolCallFrame (callIdOf index request) request.name request.argumentsJson)
  else pure ⟨⟩

/-- The text of the result, and whether the tool has succeeded. -/
def toolOutcome (request : LlmToolCallRequest) : Except String (Option String) → String × Bool
  | .ok raw => (raw.getD "", true)
  | .error exc => ("Error executing tool " ++ request.name ++ ": " ++ exc, false)

/-- The execution of a call; the exceptions of the tool become its result. -/
def executeTool (index : Nat) (request : LlmToolCallRequest) : StagedM (String × Bool) := do
  note (.executed request)
  let state ← get
  let run := turn.tool index request state.world
  modify fun state => { state with world := run.2 }
  return toolOutcome request run.1

/-- The round of a call and its outcome. -/
def roundOf (index : Nat) (request : LlmToolCallRequest) (outcome : String × Bool) :
    ToolCallRound where
  toolName := request.name
  callId := callIdOf index request
  argumentsJson := request.argumentsJson
  toolResult := outcome.1
  success := outcome.2

/-- `emit_tool_result`, with a gateway -/
def emitToolResult (index : Nat) (round : ToolCallRound) : StagedM PUnit :=
  if turn.hasGateway then turn.perform (.pushToolResult index) (.toolResultFrame round)
  else pure ⟨⟩

/-- The round is persisted and pushed, if its tool is recorded; and the usage that is left. -/
def recordRound (index : Nat) (request : LlmToolCallRequest) (outcome : String × Bool)
    (usage : TokenUsage) : StagedM TokenUsage :=
  if turn.recordEvent request.name && turn.hasMemory then do
    turn.perform (.storeRound index) (.round (roundOf index request outcome) usage)
    turn.emitToolResult index (roundOf index request outcome)
    return {}
  else return usage

/-- The end of a batch that a hook forces. -/
def finishBatch (enabledGroups : List String) (stage : HookStage) (reason : Option String)
    (called : List String) : StagedM ToolBatchExecutionResult := do
  note (.forceFinished stage reason enabledGroups)
  return {
    calledTools := called
    forceFinish := some
      ⟨if stage = .beforeToolCall then "before_tool_call" else "after_tool_call", reason⟩ }

/-- A call from its push to the hooks after it, and the usage that is left. -/
def completeCall (enabledGroups : List String) (index : Nat) (request : LlmToolCallRequest)
    (usage : TokenUsage) : StagedM (AfterToolCallHookPayload × TokenUsage) := do
  turn.emitToolCall index request
  let outcome ← turn.executeTool index request
  let left ← turn.recordRound index request outcome usage
  let after ← askHooks (turn.afterToolCallHooks enabledGroups index)
    (turn.afterToolCallPayload index request outcome)
  return (after, left)

/-- The loop of `_process_tool_calls` -/
def processToolCalls (enabledGroups : List String) : Nat → List LlmToolCallRequest → TokenUsage →
    List String → StagedM ToolBatchExecutionResult
  | _, [], _, called => return { calledTools := called, forceFinish := none }
  | index, call :: rest, usage, called => do
      let before ← askHooks (turn.beforeToolCallHooks enabledGroups index)
        (turn.beforeToolCallPayload enabledGroups index call)
      if before.forceFinish then
        finishBatch enabledGroups .beforeToolCall before.forceFinishReason called
      else do
        let (after, left) ← turn.completeCall enabledGroups index before.request usage
        if after.forceFinish then
          finishBatch enabledGroups .afterToolCall after.forceFinishReason
            (called ++ [before.request.name])
        else processToolCalls enabledGroups (index + 1) rest left (called ++ [before.request.name])

/-! ## The turn -/

/-- The turn once it is prepared. -/
def actOn (prepared : PreparedTurnResult) : StagedM PUnit :=
  match prepared.forceFinish with
  | some _ => turn.handleText prepared.messageText prepared.usage
  | none =>
      if prepared.toolCalls = [] then turn.handleText prepared.messageText prepared.usage
      else do
        let left ← turn.handlePreface prepared.messageText prepared.usage
        let result ← turn.processToolCalls prepared.resolvedGroups 0 prepared.toolCalls left []
        match result.forceFinish with
        | some _ => pure ⟨⟩
        | none => note (.called result.calledTools)

/-- `_run_turn_with_policy` -/
def runTurnWithPolicy : StagedM PUnit :=
  if turn.skips then pure ⟨⟩
  else recover (turn.prepareTurn >>= turn.actOn) fun error => note (.failed error)

/-- Run a turn on what the hooks find: the records of the turn. -/
def runTurn (world : HookWorld) : List TurnRecord :=
  (exec turn.runTurnWithPolicy { world := world }).2.records

end StagedTurn

/-! ## Steps of a turn -/

/-- A record is appended to the others. -/
@[simp] theorem exec_note (record : TurnRecord) (state : StagedState) :
    exec (note record) state = (.ok ⟨⟩, { state with records := state.records ++ [record] }) := rfl

/-- A stage hands on its payload, and leaves its world. -/
@[simp] theorem exec_askHooks (hooks : StageHooks Payload) (payload : Payload)
    (state : StagedState) :
    exec (askHooks hooks payload) state =
      (.ok ((runHooks hooks payload state.world).1.handedOn payload),
        { state with world := (runHooks hooks payload state.world).2 }) := rfl

/-- The computation takes back no record. -/
abbrev Appends {Value : Type} (action : StagedM Value) : Prop :=
  ∀ earlier, Upholds (fun state => earlier <+: state.records) action

section Appends

variable {Value Result : Type}

/-- Returning records nothing. -/
theorem appends_pure (value : Value) : Appends (pure value : StagedM Value) :=
  fun _ => upholds_pure value

/-- A result that is given records nothing. -/
theorem appends_ofExcept (result : Except String Value) :
    Appends (ofExcept result : StagedM Value) :=
  fun _ => maintains_ofExcept fun _ _ => trivial

/-- Both parts of a sequence append to the records. -/
theorem Appends.bind {action : StagedM Value} {next : Value → StagedM Result}
    (first : Appends action) (second : ∀ value, Appends (next value)) : Appends (action >>= next) :=
  fun earlier => Upholds.bind (first earlier) fun value => second value earlier

/-- Either branch appends to the records. -/
theorem Appends.ite {condition : Prop} [Decidable condition] {first second : StagedM Value}
    (yes : Appends first) (no : Appends second) : Appends (if condition then first else second) :=
  fun earlier => Maintains.ite (yes earlier) (no earlier)

/-- Records that are there once a computation has ended are there after what follows. -/
theorem Appends.after {action : StagedM Value} {next : Value → StagedM Result}
    (second : ∀ value, Appends (next value)) {earlier : List TurnRecord} {state : StagedState}
    (reached : earlier <+: (exec action state).2.records) :
    earlier <+: (exec (action >>= next) state).2.records :=
  @Upholds.after _ _ _ _ (fun state => earlier <+: state.records) action next
    (fun value => second value earlier) state reached

/-- A record is appended. -/
theorem appends_note (record : TurnRecord) : Appends (note record) :=
  fun _ _ kept => ⟨kept.trans ⟨[record], rfl⟩, fun _ _ => trivial⟩

/-- A stage records nothing. -/
theorem appends_askHooks (hooks : StageHooks Payload) (payload : Payload) :
    Appends (askHooks hooks payload) := fun _ _ kept => ⟨kept, fun _ _ => trivial⟩

end Appends

namespace StagedTurn

variable (turn : StagedTurn)

/-- A write or a push is recorded, or raises at its site. -/
theorem exec_perform (site : TurnSite) (record : TurnRecord) (state : StagedState) :
    exec (turn.perform site record) state =
      match turn.raises site with
      | some error => (.error error, state)
      | none => (.ok ⟨⟩, { state with records := state.records ++ [record] }) := by
  unfold perform
  cases turn.raises site <;> rfl

/-- The push of a call does not raise. -/
def PushesCall (index : Nat) : Prop :=
  turn.hasMemory = true → turn.hasGateway = true → turn.raises (.pushToolCall index) = none

/-- The records that a computation adds. -/
def added {Value : Type} (action : StagedM Value) (state : StagedState) : List TurnRecord :=
  (exec action state).2.records.drop state.records.length

/-- What a part of the turn adds to the records. -/
theorem added_eq {Value : Type} {action : StagedM Value} {state : StagedState}
    {records : List TurnRecord} (ran : (exec action state).2.records = state.records ++ records) :
    added action state = records := by
  rw [added, ran, List.drop_left]

/-- The frame of a call, with a gateway. -/
def callFrames (index : Nat) (request : LlmToolCallRequest) : List TurnRecord :=
  if turn.hasMemory && turn.hasGateway then
    [.toolCallFrame (callIdOf index request) request.name request.argumentsJson]
  else []

/-- The push of a call is recorded, or raises. -/
theorem exec_emitToolCall (index : Nat) (request : LlmToolCallRequest) (state : StagedState) :
    (turn.PushesCall index ∧ exec (turn.emitToolCall index request) state =
        (.ok ⟨⟩, { state with records := state.records ++ turn.callFrames index request })) ∨
      ∃ error, ¬ turn.PushesCall index ∧
        exec (turn.emitToolCall index request) state = (.error error, state) := by
  unfold emitToolCall PushesCall callFrames
  by_cases pushes : (turn.hasMemory && turn.hasGateway) = true
  · rw [if_pos pushes, if_pos pushes, exec_perform]
    obtain ⟨memory, gateway⟩ := Bool.and_eq_true_iff.mp pushes
    cases raised : turn.raises (.pushToolCall index) with
    | none => exact Or.inl ⟨fun _ _ => rfl, rfl⟩
    | some error =>
        refine Or.inr ⟨error, fun fine => ?_, rfl⟩
        cases fine memory gateway
  · rw [if_neg pushes, if_neg pushes, List.append_nil]
    refine Or.inl ⟨fun memory gateway => ?_, rfl⟩
    exact (pushes (Bool.and_eq_true_iff.mpr ⟨memory, gateway⟩)).elim

/-- A write or a push appends to the records. -/
theorem appends_perform (site : TurnSite) (record : TurnRecord) :
    Appends (turn.perform site record) := by
  unfold perform
  cases turn.raises site with
  | some error => exact fun _ _ kept => ⟨kept, fun _ _ => trivial⟩
  | none => exact appends_note record

/-- A call of the model appends to the records. -/
theorem appends_chatWithTools (messages : List LlmChatMessage) (tools : List LlmFunctionToolSpec) :
    Appends (turn.chatWithTools messages tools) :=
  (appends_note _).bind fun _ => (appends_ofExcept _).bind fun _ => (appends_note _).bind fun _ =>
    appends_pure _

/-- The repair of a truncated response appends to the records. -/
theorem appends_repairIfNeeded (messages : List LlmChatMessage) (tools : List LlmFunctionToolSpec)
    (response : LlmModelResponse) : Appends (turn.repairIfNeeded messages tools response) := by
  refine (appends_ofExcept _).bind fun _ => .ite ?_ (appends_pure _)
  exact (turn.appends_chatWithTools _ _).bind fun _ => (appends_ofExcept _).bind fun _ =>
    appends_pure _

/-- The end of the preparation appends to the records. -/
theorem appends_concludeResponse (groups : List String) (response : LlmModelResponse) :
    Appends (turn.concludeResponse groups response) := by
  refine (appends_ofExcept _).bind fun calls => (appends_askHooks _ _).bind fun after => ?_
  exact .ite ((appends_note _).bind fun _ => appends_pure _) (appends_pure _)

/-- An assistant text appends to the records. -/
theorem appends_emitAssistantText (site : TurnSite) (text : String) :
    Appends (turn.emitAssistantText site text) :=
  .ite (turn.appends_perform _ _) (appends_pure _)

/-- A reply appends to the records. -/
theorem appends_handleText (messageText : Option String) (usage : TokenUsage) :
    Appends (turn.handleText messageText usage) :=
  .ite (appends_pure _) (.ite ((turn.appends_perform _ _).bind fun _ =>
    turn.appends_emitAssistantText _ _) (appends_pure _))

/-- A preface appends to the records. -/
theorem appends_handlePreface (messageText : Option String) (usage : TokenUsage) :
    Appends (turn.handlePreface messageText usage) := by
  unfold handlePreface
  split
  · exact appends_pure _
  · exact .ite ((turn.appends_perform _ _).bind fun _ => (turn.appends_emitAssistantText _ _).bind
      fun _ => appends_pure _) (appends_pure _)

/-- The execution of a tool appends to the records. -/
theorem appends_executeTool (index : Nat) (request : LlmToolCallRequest) :
    Appends (turn.executeTool index request) :=
  (appends_note _).bind fun _ _ => Upholds.bind (fun _ kept => ⟨kept, fun _ _ => trivial⟩)
    fun _ => Upholds.bind (fun _ kept => ⟨kept, fun _ _ => trivial⟩) fun _ => upholds_pure _

/-- A recorded round appends to the records. -/
theorem appends_recordRound (index : Nat) (request : LlmToolCallRequest) (outcome : String × Bool)
    (usage : TokenUsage) : Appends (turn.recordRound index request outcome usage) := by
  refine .ite ((turn.appends_perform _ _).bind fun _ => ?_) (appends_pure _)
  exact Appends.bind (.ite (turn.appends_perform _ _) (appends_pure _)) fun _ => appends_pure _

/-- What follows the execution of a call. -/
theorem appends_afterCall (groups : List String) (index : Nat) (request : LlmToolCallRequest)
    (usage : TokenUsage) (outcome : String × Bool) : Appends (do
      let left ← turn.recordRound index request outcome usage
      let after ← askHooks (turn.afterToolCallHooks groups index)
        (turn.afterToolCallPayload index request outcome)
      return (after, left)) :=
  (turn.appends_recordRound index request outcome usage).bind fun _ =>
    (appends_askHooks _ _).bind fun _ => appends_pure _

/-- A completed call appends to the records. -/
theorem appends_completeCall (groups : List String) (index : Nat) (request : LlmToolCallRequest)
    (usage : TokenUsage) : Appends (turn.completeCall groups index request usage) := by
  refine Appends.bind (.ite (turn.appends_perform _ _) (appends_pure _)) fun _ => ?_
  exact (turn.appends_executeTool index request).bind fun outcome =>
    turn.appends_afterCall groups index request usage outcome

/-- The end of a batch appends to the records. -/
theorem appends_finishBatch (groups : List String) (stage : HookStage) (reason : Option String)
    (called : List String) : Appends (finishBatch groups stage reason called) :=
  (appends_note _).bind fun _ => appends_pure _

/-- A batch of calls appends to the records. -/
theorem appends_processToolCalls (groups : List String) : ∀ (index : Nat)
    (calls : List LlmToolCallRequest) (usage : TokenUsage) (called : List String),
    Appends (turn.processToolCalls groups index calls usage called)
  | _, [], _, _ => appends_pure _
  | index, call :: rest, usage, called => by
      refine (appends_askHooks _ _).bind fun before => .ite (appends_finishBatch _ _ _ _) ?_
      refine (turn.appends_completeCall _ _ _ _).bind fun (after, left) => ?_
      exact .ite (appends_finishBatch _ _ _ _)
        (appends_processToolCalls groups (index + 1) rest left _)

/-- What follows the preparation appends to the records. -/
theorem appends_actOn (prepared : PreparedTurnResult) : Appends (turn.actOn prepared) := by
  unfold actOn
  split
  · exact turn.appends_handleText _ _
  · refine .ite (turn.appends_handleText _ _) ((turn.appends_handlePreface _ _).bind fun left => ?_)
    refine (turn.appends_processToolCalls _ _ _ _ _).bind fun result => ?_
    split
    · exact appends_pure _
    · exact appends_note _

/-- The stage `before_tool_call` of a call -/
def beforeToolCallStage (groups : List String) (index : Nat) (call : LlmToolCallRequest)
    (world : HookWorld) : HookStageOutput BeforeToolCallHookPayload × HookWorld :=
  runHooks (turn.beforeToolCallHooks groups index) (turn.beforeToolCallPayload groups index call)
    world

/-- The payload that the hooks before a call hand on. -/
def beforeToolCall (groups : List String) (index : Nat) (call : LlmToolCallRequest)
    (world : HookWorld) : BeforeToolCallHookPayload :=
  (turn.beforeToolCallStage groups index call world).1.handedOn
    (turn.beforeToolCallPayload groups index call)

/-- What follows the hooks before a call. -/
def afterHooks (groups : List String) (index : Nat) (request : LlmToolCallRequest)
    (rest : List LlmToolCallRequest) (usage : TokenUsage) (called : List String) :
    StagedM ToolBatchExecutionResult := do
  let (after, left) ← turn.completeCall groups index request usage
  if after.forceFinish then
    finishBatch groups .afterToolCall after.forceFinishReason (called ++ [request.name])
  else turn.processToolCalls groups (index + 1) rest left (called ++ [request.name])

section Loop

variable (groups : List String) (index : Nat) (call : LlmToolCallRequest)
  (rest : List LlmToolCallRequest) (usage : TokenUsage) (called : List String) (state : StagedState)

/-- A forced finish before a call ends the batch. -/
theorem exec_processToolCalls_forced
    (forced : (turn.beforeToolCall groups index call state.world).forceFinish = true) :
    (exec (turn.processToolCalls groups index (call :: rest) usage called) state).2 =
      { world := (turn.beforeToolCallStage groups index call state.world).2
        records := state.records ++ [.forceFinished .beforeToolCall
          (turn.beforeToolCall groups index call state.world).forceFinishReason groups] } := by
  rw [processToolCalls, exec_bind_ok (exec_askHooks _ _ state)]
  exact congrArg (fun action => (exec action _).2) (if_pos forced)

/-- A call that is not stopped runs, and the batch goes on behind it. -/
theorem exec_processToolCalls_cons
    (goesOn : (turn.beforeToolCall groups index call state.world).forceFinish = false) :
    exec (turn.processToolCalls groups index (call :: rest) usage called) state =
      exec (turn.afterHooks groups index (turn.beforeToolCall groups index call state.world).request
          rest usage called)
        { state with world := (turn.beforeToolCallStage groups index call state.world).2 } := by
  rw [processToolCalls, exec_bind_ok (exec_askHooks _ _ state)]
  exact congrArg (exec · _) (if_neg (Bool.eq_false_iff.mp goesOn))

/-- A push that raises ends the batch. -/
theorem exec_afterHooks_raised {error : String}
    (raised : exec (turn.emitToolCall index call) state = (.error error, state)) :
    exec (turn.afterHooks groups index call rest usage called) state = (.error error, state) :=
  exec_bind_error (exec_bind_error raised _) _

/-- A call that has been pushed is executed. -/
theorem executed_afterHooks {records : List TurnRecord}
    (pushed : exec (turn.emitToolCall index call) state =
      (.ok ⟨⟩, { state with records := state.records ++ records })) :
    state.records ++ records ++ [.executed call] <+:
      (exec (turn.afterHooks groups index call rest usage called) state).2.records := by
  have executes : state.records ++ records ++ [.executed call] <+:
      (exec (turn.completeCall groups index call usage) state).2.records := by
    rw [completeCall, exec_bind_ok pushed]
    exact Appends.after (fun outcome => turn.appends_afterCall groups index call usage outcome)
      (List.prefix_refl _)
  refine Appends.after (fun (after, left) => ?_) executes
  exact .ite (appends_finishBatch _ _ _ _) (turn.appends_processToolCalls _ _ _ _ _)

end Loop

/-- Nothing is recorded before the model is called. -/
theorem keeps_prepareCall : Keeps StagedState.records turn.prepareCall :=
  (keeps_ofExcept _).bind fun _ => Keeps.bind (fun _ => rfl) fun _ =>
    (keeps_ofExcept _).bind fun _ => Keeps.bind (fun _ => rfl) fun _ => keeps_pure _

/-- A turn that is not skipped is prepared and acted on; an exception leaves one record more. -/
theorem runTurn_eq (begins : turn.skips = false) (world : HookWorld) :
    ∃ ending, turn.runTurn world =
        (exec (turn.prepareTurn >>= turn.actOn) { world := world }).2.records ++ ending ∧
      ∀ record ∈ ending, ∃ error, record = .failed error := by
  rw [runTurn, runTurnWithPolicy, if_neg (Bool.eq_false_iff.mp begins), exec_recover]
  cases exec (turn.prepareTurn >>= turn.actOn) { world := world } with
  | mk outcome after =>
      cases outcome with
      | ok value => exact ⟨[], (List.append_nil _).symm, List.forall_mem_nil _⟩
      | error error =>
          exact ⟨[.failed error], rfl, fun record member => ⟨error, List.mem_singleton.mp member⟩⟩

end StagedTurn

end FairyClaw
