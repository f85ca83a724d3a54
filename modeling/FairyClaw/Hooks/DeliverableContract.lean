import FairyClaw.Hooks.Runtime

/-! # The deliverable contract hooks

A sub-session may carry a list of rules under `done_when`. When it answers without
tool calls, or calls `report_subtask_done`, the hooks evaluate the rules. Up to the
third failure they force a follow-up turn, and from then on they have the task
reported as failed.
-/

namespace FairyClaw

open Foundation Fallible

/-- A rule of the contract: its type and its arguments. -/
structure DoneRule where
  ruleType : String
  args : JsonObject

/-- `ALLOWED_RULE_TYPES` -/
def allowedRuleTypes : List String :=
  ["file_exists", "json_parseable", "json_schema", "command_exit_code", "text_contains",
    "text_not_contains"]

/-- One turn of the loop of `validate_done_when`. -/
def validateRule (index : Nat) : Json → Except String DoneRule
  | .obj rule =>
      let place := "done_when[" ++ toString index ++ "]"
      if !(rule.all fun entry => entry.1 = "type" || entry.1 = "args") || rule.length ≠ 2 then
        .error (place ++ " must contain exactly 'type' and 'args'.")
      else
        match (JsonObject.get rule "type").bind Json.asStr with
        | none => .error (place ++ ".type unsupported.")
        | some ruleType =>
            if ruleType ∈ allowedRuleTypes then
              match (JsonObject.get rule "args").bind Json.asObj with
              | none => .error (place ++ ".args must be an object.")
              | some args => .ok { ruleType := ruleType, args := args }
            else .error (place ++ ".type unsupported.")
  | _ => .error ("done_when[" ++ toString index ++ "] must be an object.")

/-- `validate_done_when` -/
def validateDoneWhen : Option Json → Except String (List DoneRule)
  | none | some .null => .ok []
  | some (.arr rules) => rules.zipIdx.mapM fun entry => validateRule entry.2 entry.1
  | some _ => .error "done_when must be an array."

/-- The state of the contract check, as it is stored with the session. -/
structure DcState where
  falseFinishCount : Int := 0
  lastStatus : String := "unknown"
  lastFailedRules : List Json := []
  lastCheckedAtMs : Int := 0

/-- The state in `load_done_when_and_state`. -/
def parseDcState (env : HookEnv) : Option Json → Except PyError DcState
  | some (.obj raw) => do
      let falseFinishCount ← env.intOf ((JsonObject.get raw "false_finish_count").getD (.int 0))
      let lastCheckedAtMs ← env.intOf ((JsonObject.get raw "last_checked_at_ms").getD (.int 0))
      return {
        falseFinishCount := falseFinishCount
        lastStatus := env.str ((JsonObject.get raw "last_status").getD (.str "unknown"))
        lastFailedRules := ((JsonObject.get raw "last_failed_rules").bind Json.asArr).getD []
        lastCheckedAtMs := lastCheckedAtMs }
  | _ => .ok {}

/-- `load_done_when_and_state` -/
def loadDoneWhenAndState (env : HookEnv) : HookM (List DoneRule × DcState) := do
  let stored ← loadSessionMeta env
  let doneWhen :=
    match validateDoneWhen (stored.get "done_when") with
    | .ok rules => rules
    | .error _ => []
  let state ← ofExcept (parseDcState env (stored.get "dc_state"))
  return (doneWhen, state)

/-- `save_dc_state` -/
def saveDcState (env : HookEnv) (state : DcState) : HookM Unit :=
  saveSessionKey env "dc_state" (.obj [
    ("false_finish_count", .int state.falseFinishCount),
    ("last_status", .str state.lastStatus),
    ("last_failed_rules", .arr state.lastFailedRules),
    ("last_checked_at_ms", .int state.lastCheckedAtMs)])

namespace DoneRule

/-- `_resolve_path` of the validator. -/
def resolvePath (env : HookEnv) (workspaceRoot : String) (value : Option Json) :
    Except PyError String :=
  let raw := env.text value
  if raw = "" then .ok workspaceRoot else env.resolvePath workspaceRoot raw

/-- The text of an exception. -/
def errorText : PyError → String
  | .attributeError name => name
  | .other message => message

/-- `json.loads` of a file's text, with the text of the exception it raises. -/
def loadJson (env : HookEnv) (target : String) : Except String Json :=
  match env.readText target with
  | .ok text => env.loads text
  | .error error => .error (errorText error)

/-- `_validate_schema_minimal` -/
def validateSchemaMinimal (payload : Json) : Json → Except PyError (Bool × String)
  | .obj schema =>
      match JsonObject.get schema "type" with
      | some (.str "object") =>
          match payload with
          | .obj fields =>
              let required := ((JsonObject.get schema "required").bind Json.asArr).getD []
              let missing := (required.filterMap Json.asStr).find? fun key =>
                (JsonObject.get fields key).isNone
              match missing with
              | some key => .ok (false, "missing required key: " ++ key)
              | none => .ok (true, "ok")
          | _ => .ok (false, "payload is not object")
      | some (.str "array") => .ok (payload.asArr.isSome, "payload is not array")
      | some (.str "string") => .ok (payload.asStr.isSome, "payload is not string")
      | some (.str "number") =>
          match payload with
          | .int _ | .float _ | .bool _ => .ok (true, "payload is not number")
          | _ => .ok (false, "payload is not number")
      | some (.str "boolean") => .ok (payload.asBool.isSome, "payload is not boolean")
      | _ => .ok (true, "ok")
  | _ => .error (.attributeError "get")

/-- The schema of a rule: its own, or the one in the file it names. -/
def schemaOf (env : HookEnv) (workspaceRoot : String) (args : JsonObject) :
    Except PyError (Except String Json) :=
  match args.get "schema" with
  | some (.obj schema) => .ok (.ok (.obj schema))
  | _ => do
      let schemaPath ← resolvePath env workspaceRoot (args.get "schema_path")
      if ← env.isFile schemaPath then
        match loadJson env schemaPath with
        | .ok schema => return .ok schema
        | .error text => return .error ("schema_path " ++ schemaPath ++ " invalid JSON: " ++ text)
      else return .error ("schema_path " ++ schemaPath ++ " does not exist.")

/-- `_eval_rule` -/
def eval (env : HookEnv) (workspaceRoot : String) (rule : DoneRule) :
    Except PyError (Bool × String) := do
  let path := rule.args.get "path"
  match rule.ruleType with
  | "file_exists" =>
      let target ← resolvePath env workspaceRoot path
      return (← env.pathExists target, target ++ " does not exist.")
  | "json_parseable" =>
      let target ← resolvePath env workspaceRoot path
      if ← env.isFile target then
        match loadJson env target with
        | .ok _ => return (true, "ok")
        | .error text => return (false, target ++ " is not valid JSON: " ++ text)
      else return (false, target ++ " is not a readable file.")
  | "json_schema" =>
      let target ← resolvePath env workspaceRoot path
      if ← env.isFile target then
        match loadJson env target with
        | .error text => return (false, target ++ " is not valid JSON: " ++ text)
        | .ok payload =>
            match ← schemaOf env workspaceRoot rule.args with
            | .error reason => return (false, reason)
            | .ok schema => validateSchemaMinimal payload schema
      else return (false, target ++ " is not a readable file.")
  | "command_exit_code" =>
      let command := env.text (rule.args.get "command")
      let wanted ← env.intOf ((rule.args.get "exit_code").getD (.int 0))
      let exitCode ← if command = "" then pure 127 else env.commandExitCode command workspaceRoot
      return (exitCode = wanted,
        "command exit_code=" ++ toString exitCode ++ ", expected=" ++ toString wanted)
  | ruleType =>
      if ruleType = "text_contains" || ruleType = "text_not_contains" then
        let target ← resolvePath env workspaceRoot path
        if ← env.isFile target then
          let content ← env.readText target
          match ((rule.args.get "terms").getD (.arr [])).toList with
          | none => throw (.other "object is not iterable")
          | some items =>
              let terms := items.map env.str
              if ruleType = "text_contains" then
                let missed := terms.filter fun term => !contains content term
                return (missed.isEmpty, if missed.isEmpty then "ok"
                  else "missing terms: " ++ env.str (.arr (missed.map .str)))
              else
                let present := terms.filter fun term => contains content term
                return (present.isEmpty, if present.isEmpty then "ok"
                  else "forbidden terms present: " ++ env.str (.arr (present.map .str)))
        else return (false, target ++ " is not a readable file.")
      else return (false, "unsupported rule type: " ++ ruleType)

end DoneRule

/-- `_resolve_workspace_root` of the validator. -/
def HookEnv.validatorRoot (env : HookEnv) : String :=
  match env.workspaceRoot with
  | some root => if root = "" then env.cwd else strip root
  | none => env.cwd

/-- `evaluate_done_when`: the failed rules. -/
def evaluateDoneWhen (env : HookEnv) (doneWhen : List DoneRule) : Except PyError (List Json) := do
  let failed ← doneWhen.zipIdx.mapM fun entry => do
    let (passed, detail) ← entry.1.eval env env.validatorRoot
    return if passed then none else some (Json.obj [("index", .int entry.2),
      ("type", .str entry.1.ruleType), ("detail", .str detail)])
  return failed.filterMap id

/-- `_humanize_rule_failure` -/
def humanizeRuleFailure (ruleType detail : String) : String :=
  match ruleType with
  | "file_exists" => strip ("A required file is missing. " ++ detail)
  | "json_parseable" => strip ("A required JSON file is invalid or unreadable. " ++ detail)
  | "json_schema" =>
      strip ("A JSON output does not match the expected structure. " ++ detail)
  | "command_exit_code" => strip ("A required command did not succeed. " ++ detail)
  | "text_contains" => strip ("A required output is missing expected content. " ++ detail)
  | "text_not_contains" => strip ("An output contains forbidden content. " ++ detail)
  | _ => if detail = "" then "A required validation check failed." else detail

/-- `to_failed_summary` -/
def toFailedSummary (env : HookEnv) (failedRules : List Json) : String :=
  if failedRules.isEmpty then
    "The task is not complete yet. Please verify the required deliverables and try again."
  else
    let lines := (failedRules.take 8).filterMap fun item => item.asObj.map fun rule =>
      "- " ++ humanizeRuleFailure (env.text (rule.get "type")) (env.text (rule.get "detail"))
    String.intercalate "\n" ("The task is not complete yet." ::
      "Before finishing, please address the following issues:" :: lines)

/-- `make_report_done_failed_arguments` -/
def makeReportDoneFailedArguments (env : HookEnv) (summary : String) : String :=
  env.dumps (.obj [("status", .str "failed"),
    ("summary", .str (String.ofList (summary.toList.take 4000)))])

/-- The part that both hooks share: evaluate the contract and record the result.
Returns the state after a failure, and nothing without a contract or on success. -/
def checkContract (env : HookEnv) : HookM (Option DcState) := do
  let (doneWhen, state) ← loadDoneWhenAndState env
  if doneWhen.isEmpty then return none
  else
    let failedRules ← ofExcept (evaluateDoneWhen env doneWhen)
    if failedRules.isEmpty then
      saveDcState env
        { state with lastStatus := "pass", lastFailedRules := [], lastCheckedAtMs := env.now }
      return none
    else
      let failing := {
        falseFinishCount := state.falseFinishCount + 1
        lastStatus := "fail"
        lastFailedRules := failedRules
        lastCheckedAtMs := env.now : DcState }
      saveDcState env failing
      return some failing

namespace DeliverableContract

/-- Failed checks after which the sub-session is reported as failed. -/
def threshold : Int := 3

/-- The source named in the follow-up events of both hooks. -/
def source : String := "sub_agent_tools_deliverable_contract"

/-- What both hooks do with a failed contract: replace the call behind the
threshold, or force a follow-up. -/
def onFailure {Payload : Type} (env : HookEnv) (failing : DcState)
    (report : String → Payload) : Verdict Payload :=
  let summary := toFailedSummary env failing.lastFailedRules
  if threshold ≤ failing.falseFinishCount then
    .done { status := .ok, patchedPayload := some (report (makeReportDoneFailedArguments env summary)) }
  else .followUp summary

/-- Skip, or act on a failed contract. -/
def verdictOf {Payload : Type} (env : HookEnv) (payload : Payload) (report : String → Payload) :
    HookM (Verdict Payload) := do
  match ← checkContract env with
  | none => return .done { status := .skip, patchedPayload := some payload }
  | some failing => return onFailure env failing report

/-- What the hook decides about an answer without tool calls. -/
def afterLlmVerdict (env : HookEnv) (context : HookExecutionContext)
    (payload : AfterLlmResponseHookPayload) : HookM (Verdict AfterLlmResponseHookPayload) :=
  if !context.isSubSession || !payload.toolCalls.isEmpty then
    return .done { status := .skip, patchedPayload := some payload }
  else
    verdictOf env payload fun arguments => { payload with toolCalls := [{
      callId := "dc_fail_report", name := "report_subtask_done", argumentsJson := arguments }] }

/-- The follow-up of an answer that leaves the contract unmet. -/
def afterLlmFollowUp (env : HookEnv) (payload : AfterLlmResponseHookPayload) (summary : String) :
    HookM (HookStageOutput AfterLlmResponseHookPayload) := do
  publishFollowUp env payload.sessionId (orElse payload.taskType "general") payload.enabledGroups
    summary source
  return { status := .ok, patchedPayload := some { payload with
    forceFinish := true, forceFinishReason := some "deliverable_contract_not_satisfied" } }

/-- `execute_hook` of `dc_after_llm_response`. -/
def dcAfterLlmResponse (env : HookEnv) (context : HookExecutionContext) :
    HookExecutor AfterLlmResponseHookPayload :=
  actOn (afterLlmVerdict env context) (afterLlmFollowUp env)

/-- What the hook decides about a call of `report_subtask_done`. -/
def beforeToolVerdict (env : HookEnv) (context : HookExecutionContext)
    (payload : BeforeToolCallHookPayload) : HookM (Verdict BeforeToolCallHookPayload) :=
  if !context.isSubSession || payload.request.name ≠ "report_subtask_done" then
    return .done { status := .skip, patchedPayload := some payload }
  else
    verdictOf env payload fun arguments =>
      { payload with request := { payload.request with argumentsJson := arguments } }

/-- The follow-up of a report that leaves the contract unmet. -/
def beforeToolFollowUp (env : HookEnv) (context : HookExecutionContext)
    (payload : BeforeToolCallHookPayload) (summary : String) :
    HookM (HookStageOutput BeforeToolCallHookPayload) := do
  publishFollowUp env payload.sessionId (orElse context.taskType "general") payload.enabledGroups
    summary source
  return { status := .ok, patchedPayload := some { payload with
    forceFinish := true, forceFinishReason := some "deliverable_contract_not_satisfied" } }

/-- `execute_hook` of `dc_before_tool_call`. -/
def dcBeforeToolCall (env : HookEnv) (context : HookExecutionContext) :
    HookExecutor BeforeToolCallHookPayload :=
  actOn (beforeToolVerdict env context) (beforeToolFollowUp env context)

/-- Checking the contract keeps what storing a state keeps. -/
theorem keeps_checkContract {Observed : Type} {observe : HookWorld → Observed} {env : HookEnv}
    (saves : ∀ state, Keeps observe (saveDcState env state)) :
    Keeps observe (checkContract env) := by
  unfold checkContract loadDoneWhenAndState
  refine Keeps.bind ?_ ?_
  · exact (keeps_loadSessionMeta env).bind fun _ => (keeps_ofExcept _).bind fun _ => keeps_pure _
  · rintro ⟨doneWhen, state⟩
    refine Keeps.ite (keeps_pure _) ((keeps_ofExcept _).bind fun failedRules => ?_)
    refine Keeps.ite ?_ ?_
    · exact (saves _).bind fun _ => keeps_pure _
    · exact (saves _).bind fun _ => keeps_pure _

section Verdict

variable {Payload : Type} {env : HookEnv}

/-- Deciding touches nothing but the state of the contract. -/
theorem keeps_verdictOf {Observed : Type} {observe : HookWorld → Observed}
    (saves : ∀ state, Keeps observe (saveDcState env state)) (payload : Payload)
    (report : String → Payload) : Keeps observe (verdictOf env payload report) := by
  refine (keeps_checkContract saves).bind fun checked => ?_
  cases checked <;> exact keeps_pure _

variable [HookPayload Payload]

/-- A decision without a follow-up forces no finish. -/
theorem returns_verdictOf {payload : Payload} {report : String → Payload}
    (reports : ∀ arguments, HookPayload.forceFinish (report arguments) =
        HookPayload.forceFinish payload ∧
      HookPayload.sessionId (report arguments) = HookPayload.sessionId payload) :
    Returns (fun decision => ∀ output, decision = .done output →
      HookPayload.forceFinish (output.handedOn payload) = HookPayload.forceFinish payload ∧
        HookPayload.sessionId (output.handedOn payload) = HookPayload.sessionId payload)
      (verdictOf env payload report) := by
  refine Returns.bind fun checked => ?_
  cases checked with
  | none =>
      refine returns_pure ?_
      rintro _ ⟨rfl⟩
      exact ⟨rfl, rfl⟩
  | some failing =>
      refine returns_pure fun output done => ?_
      unfold onFailure at done
      split at done
      · cases done
        exact reports _
      · cases done

end Verdict

/-- Follow-ups of user messages trigger turns. -/
theorem publishFollowUp_triggers (env : HookEnv) (sessionId taskType : String)
    (enabledGroups : List String) (text source : String) (world : HookWorld) :
    ∃ event, exec (publishFollowUp env sessionId taskType enabledGroups text source) world =
        (.ok (), { world with published := world.published ++ [event] }) ∧
      event.TriggersTurn sessionId := ⟨_, rfl, rfl, rfl⟩

/-- The hook after the model's answer follows up as it decides. -/
theorem afterLlm_sound (env : HookEnv) (context : HookExecutionContext) :
    SoundFollowUp (afterLlmVerdict env context) (afterLlmFollowUp env) where
  quiet := fun payload => Keeps.ite (keeps_pure _)
    (keeps_verdictOf (fun _ => keeps_saveSessionKey env _ _) payload _)
  handsOn := by
    intro payload
    refine Returns.ite (returns_pure ?_) (returns_verdictOf fun _ => ⟨rfl, rfl⟩)
    rintro _ ⟨rfl⟩
    exact ⟨rfl, rfl⟩
  follows := by
    intro payload text world
    obtain ⟨event, published, triggers⟩ := publishFollowUp_triggers env payload.sessionId
      (orElse payload.taskType "general") payload.enabledGroups text source world
    exact ⟨_, event, exec_bind_ok published _, rfl, rfl, triggers⟩

/-- The hook before a tool follows up as it decides. -/
theorem beforeTool_sound (env : HookEnv) (context : HookExecutionContext) :
    SoundFollowUp (beforeToolVerdict env context) (beforeToolFollowUp env context) where
  quiet := fun payload => Keeps.ite (keeps_pure _)
    (keeps_verdictOf (fun _ => keeps_saveSessionKey env _ _) payload _)
  handsOn := by
    intro payload
    refine Returns.ite (returns_pure ?_) (returns_verdictOf fun _ => ⟨rfl, rfl⟩)
    rintro _ ⟨rfl⟩
    exact ⟨rfl, rfl⟩
  follows := by
    intro payload text world
    obtain ⟨event, published, triggers⟩ := publishFollowUp_triggers env payload.sessionId
      (orElse context.taskType "general") payload.enabledGroups text source world
    exact ⟨_, event, exec_bind_ok published _, rfl, rfl, triggers⟩

end DeliverableContract

end FairyClaw
