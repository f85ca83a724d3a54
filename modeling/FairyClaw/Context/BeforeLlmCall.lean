import FairyClaw.Compression.ExecuteHook

/-! # The messages sent to the model

A turn takes the last user message of the history for its user turn and assembles the
messages. The hooks before the model call then patch them one after the other: the
repair workflow adds its guidance, the timer guide and the session memory extend the
system message, and the compression rebuilds the messages from the history.
-/

namespace FairyClaw

open Foundation Fallible

/-! ## Building the context of a turn -/

/-- `==` on segments, where `dictEq` is `==` on dictionaries. -/
def ContentSegment.equals (dictEq : JsonObject → JsonObject → Bool)
    (first second : ContentSegment) : Bool :=
  first.type = second.type && first.text = second.text &&
    (match first.imageUrl, second.imageUrl with
      | none, none => true
      | some one, some other => dictEq one other
      | _, _ => false) &&
    first.fileId = second.fileId && first.fileKindDescription = second.fileKindDescription

/-- `==` on message blocks. -/
def SessionMessageBlock.equals (dictEq : JsonObject → JsonObject → Bool)
    (first second : SessionMessageBlock) : Bool :=
  first.role = second.role &&
    match first.body, second.body with
    | .text one, .text other => one = other
    | .segments ones, .segments others =>
        ones.length = others.length &&
          (ones.zip others).all fun entry => entry.1.equals dictEq entry.2
    | _, _ => false

/-- `_split_current_user_turn` -/
def splitCurrentUserTurn (dictEq : JsonObject → JsonObject → Bool)
    (historyItems : List ChatHistoryItem) (explicitUserTurn : Option UserTurn) :
    List ChatHistoryItem × Option UserTurn :=
  match historyItems.getLast? with
  | some (.block lastItem) =>
      if lastItem.role = .user then
        match explicitUserTurn with
        | some turn =>
            if lastItem.equals dictEq turn.message then (historyItems.dropLast, some turn)
            else (historyItems, some turn)
        | none => (historyItems.dropLast, some { message := lastItem })
      else (historyItems, explicitUserTurn)
  | _ => (historyItems, explicitUserTurn)

/-! ## The hooks -/

/-- What the repair workflow finds in the session: its phase, and the guidance it words for
the tools of the phase. -/
structure RepairGuidance where
  phase : String
  guidance : List LlmFunctionToolSpec → String

/-- `_allowed_tools_for_phase` -/
def allowedToolsForPhase (phase : String) : List String :=
  if phase = "diagnose" ∨ phase = "patch" then
    ["repair_collect_evidence", "repair_apply_unified_patch"]
  else if phase = "verify" then ["repair_run_verification"]
  else if phase = "report" then ["repair_write_artifacts", "report_subtask_done"]
  else ["repair_collect_evidence"]

/-- The payload with other messages. -/
def BeforeLlmCallHookPayload.withMessages (payload : BeforeLlmCallHookPayload)
    (messages : List LlmChatMessage) : BeforeLlmCallHookPayload :=
  { payload with turn := { payload.turn with llmMessages := messages } }

/-- `execute_hook` of `repair_before_llm_call`. -/
def repairBeforeLlmCall (found : RepairGuidance) (payload : BeforeLlmCallHookPayload) :
    BeforeLlmCallHookPayload :=
  if payload.turn.isSubSession then
    let allowed := payload.tools.filter fun tool => tool.name ∈ allowedToolsForPhase found.phase
    let filteredTools := if allowed = [] then payload.tools else allowed
    { payload.withMessages (payload.turn.llmMessages ++
        [{ role := .user, content := .text (found.guidance filteredTools) }]) with
      tools := filteredTools }
  else payload

/-- `str(content or "")`, where `strOf` is `str` on a list of parts. -/
def contentText (strOf : List JsonObject → String) : OpenaiContent → String
  | .text content => content
  | .parts items => if items = [] then "" else strOf items

/-- Rewrite the content of a leading system message. -/
def rewriteSystemMessage (rewrite : OpenaiContent → Option String)
    (payload : BeforeLlmCallHookPayload) : BeforeLlmCallHookPayload :=
  match payload.turn.llmMessages with
  | [] => payload
  | first :: rest =>
      if first.role ≠ .system then payload
      else
        match rewrite first.content with
        | none => payload
        | some content => payload.withMessages ({ first with content := .text content } :: rest)

/-- `execute_hook` of `timer_runtime_prompt_hook`. -/
def timerRuntimePrompt (strOf : List JsonObject → String) (guideBlock : String) :
    BeforeLlmCallHookPayload → BeforeLlmCallHookPayload :=
  rewriteSystemMessage fun content =>
    let text := contentText strOf content
    if contains text "[TimerRuntimeGuide]" then none
    else some (strip (rstrip text ++ "\n\n" ++ guideBlock))

/-- `str.lstrip` -/
def lstrip (text : String) : String := String.ofList (text.toList.dropWhile isSpace)

/-- What stands before and after the first occurrence of a text. -/
def splitAtFirst (needle : List Char) : List Char → Option (List Char × List Char)
  | [] => none
  | char :: rest =>
      if needle.isPrefixOf (char :: rest) then some ([], (char :: rest).drop needle.length)
      else (splitAtFirst needle rest).map fun parts => (char :: parts.1, parts.2)

/-- `_merge_system_memory_block` -/
def mergeSystemMemoryBlock (systemPrompt memoryBlock : String) : String :=
  let block := "[SessionMemory]\n" ++ memoryBlock ++ "\n[/SessionMemory]"
  match splitAtFirst "[SessionMemory]".toList systemPrompt.toList,
      splitAtFirst "[/SessionMemory]".toList systemPrompt.toList with
  | some (before, _), some (_, after) =>
      strip (rstrip (String.ofList before) ++ "\n\n" ++ block ++ "\n\n" ++
        lstrip (String.ofList after))
  | _, _ => strip (rstrip systemPrompt ++ "\n\n" ++ block)

/-- `execute_hook` of `session_memory_pre_context`, given its memory blocks. -/
def sessionMemoryPreContext (strOf : List JsonObject → String) (blocks : List String) :
    BeforeLlmCallHookPayload → BeforeLlmCallHookPayload :=
  rewriteSystemMessage fun content =>
    if blocks = [] then none
    else
      some (mergeSystemMemoryBlock (contentText strOf content) (String.intercalate "\n\n" blocks))

/-! ## The stage -/

/-- A hook of the stage is not there, raises or runs out of time, or runs with what it finds. -/
inductive HookFate (Found : Type)
  | absent
  | fails (error : PyError)
  | runs (found : Found)

/-- What the compression finds outside the payload. -/
structure CompressionRun where
  env : CompressionEnv
  config : CompressionConfig
  records : List JsonObject

/-- How the hooks of a turn fare. -/
structure BeforeLlmCallStage where
  strOf : List JsonObject → String
  repair : HookFate RepairGuidance
  timerGuide : HookFate String
  compression : HookFate CompressionRun
  sessionMemory : HookFate (List String)

section Stage

variable {Found Payload : Type}

/-- The hook with its executor, unless it is absent. -/
def HookFate.bound (fate : HookFate Found) (definition : HookDefinition)
    (executor : Found → Payload → Except PyError (HookStageOutput Payload)) :
    List (HookDefinition × HookExecutor Payload) :=
  match fate with
  | .absent => []
  | .fails error => [(definition, fun _ => throw error)]
  | .runs found => [(definition, fun payload => ofExcept (executor found payload))]

/-- What the hook leaves of the payload. -/
def HookFate.patch (fate : HookFate Found)
    (executor : Found → Payload → Except PyError (HookStageOutput Payload)) (payload : Payload) :
    Payload :=
  match fate with
  | .runs found =>
      match executor found payload with
      | .ok output => output.patchedPayload.getD payload
      | .error _ => payload
  | _ => payload

/-- A hook whose errors do not stop the stage patches the payload. -/
theorem runStage_bound (fate : HookFate Found) {definition : HookDefinition}
    (executor : Found → Payload → Except PyError (HookStageOutput Payload))
    (enabled : definition.enabled = true) (continues : definition.onError = .continue)
    (rest : List (HookDefinition × HookExecutor Payload)) (payload : Payload)
    (world : HookWorld) :
    runStage (fate.bound definition executor ++ rest) payload world =
      runStage rest (fate.patch executor payload) world := by
  cases fate with
  | absent => rfl
  | fails error => simp [HookFate.bound, HookFate.patch, runStage, enabled, continues]
  | runs found =>
      simp only [HookFate.bound, HookFate.patch, List.cons_append, List.nil_append, runStage,
        enabled, ↓reduceIte, exec_ofExcept]
      cases executor found payload with
      | ok output => rfl
      | error error => simp [continues]

end Stage

/-- The output of a hook that always answers. -/
def answer (patch : BeforeLlmCallHookPayload → BeforeLlmCallHookPayload)
    (payload : BeforeLlmCallHookPayload) :
    Except PyError (HookStageOutput BeforeLlmCallHookPayload) :=
  .ok { status := .ok, patchedPayload := some (patch payload) }

/-- `execute_hook` of `context_compression`, as a hook of the stage. -/
def contextCompression (tokenBudget : Option Int) (run : CompressionRun)
    (payload : BeforeLlmCallHookPayload) :
    Except PyError (HookStageOutput BeforeLlmCallHookPayload) :=
  (executeHook run.env run.config tokenBudget payload run.records).map Prod.fst

/-- The hooks that the manifests declare for the stage, in the order of their priorities. -/
def BeforeLlmCallStage.hooks (stage : BeforeLlmCallStage) (tokenBudget : Option Int) :
    List (HookDefinition × HookExecutor BeforeLlmCallHookPayload) :=
  stage.repair.bound { name := "code_repair_before_llm_call", priority := 50 }
      (fun found => answer (repairBeforeLlmCall found)) ++
    (stage.timerGuide.bound { name := "timer_runtime_prompt_guide", priority := 95 }
      (fun guideBlock => answer (timerRuntimePrompt stage.strOf guideBlock)) ++
    (stage.compression.bound { name := "context_compression", priority := 100 }
      (contextCompression tokenBudget) ++
    (stage.sessionMemory.bound { name := "session_memory_pre_context", priority := 120 }
      (fun blocks => answer (sessionMemoryPreContext stage.strOf blocks)) ++ [])))

/-- What a turn is built from, besides its history. -/
structure PromptRequest where
  systemPrompt : String
  userSegments : List ContentSegment
  sessionId : String
  taskType : String
  isSubSession : Bool
  tools : List LlmFunctionToolSpec
  tokenBudget : Option Int

/-- `TurnContextBuilder.build`, and the payload of the stage. -/
def buildPayload (dictEq : JsonObject → JsonObject → Bool) (request : PromptRequest)
    (historyItems : List ChatHistoryItem) : BeforeLlmCallHookPayload :=
  let (historyEntries, userEntry) :=
    splitCurrentUserTurn dictEq historyItems (UserTurn.fromSegments request.userSegments)
  { turn := {
      llmMessages := assemble { text := request.systemPrompt } historyEntries userEntry
      historyItems := historyEntries
      userTurn := userEntry
      sessionId := request.sessionId
      taskType := request.taskType
      isSubSession := request.isSubSession }
    tools := request.tools
    tokenBudget := request.tokenBudget }

/-- The messages that a turn sends to the model, given the loaded history. -/
def llmMessages (dictEq : JsonObject → JsonObject → Bool) (request : PromptRequest)
    (stage : BeforeLlmCallStage) (historyItems : List ChatHistoryItem) : List LlmChatMessage :=
  let payload := buildPayload dictEq request historyItems
  let output := (runStage (stage.hooks request.tokenBudget) payload {}).1
  (output.patchedPayload.getD payload).turn.llmMessages

/-- The stage applies the hooks one after the other. -/
theorem runStage_hooks (stage : BeforeLlmCallStage) (tokenBudget : Option Int)
    (payload : BeforeLlmCallHookPayload) :
    (runStage (stage.hooks tokenBudget) payload {}).1.patchedPayload =
      some (stage.sessionMemory.patch
        (fun blocks => answer (sessionMemoryPreContext stage.strOf blocks))
        (stage.compression.patch (contextCompression tokenBudget)
          (stage.timerGuide.patch
            (fun guideBlock => answer (timerRuntimePrompt stage.strOf guideBlock))
            (stage.repair.patch (fun found => answer (repairBeforeLlmCall found)) payload)))) := by
  unfold BeforeLlmCallStage.hooks
  rw [runStage_bound _ _ rfl rfl, runStage_bound _ _ rfl rfl, runStage_bound _ _ rfl rfl,
    runStage_bound _ _ rfl rfl]
  rfl

end FairyClaw
