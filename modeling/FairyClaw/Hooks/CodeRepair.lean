import FairyClaw.Hooks.Runtime

/-! # The hooks of code repair

Before a tool call, the hook redirects patches to protected files and forces the
turn to finish on patches and verifications it finds malformed, without publishing
anything (`FairyClaw.CodeRepair.repairBeforeToolCall_keepsAlive_iff`). After a tool
call, the hook keeps the phase of the repair and forces a follow-up until the gate
passes; the event it means to publish reads `enabled_groups`, which the payload of
this stage lacks (`FairyClaw.CodeRepair.repairAfterToolCall_keepsAlive_iff`).
-/

namespace FairyClaw.CodeRepair

open Foundation Fallible

/-- `fnmatch` for patterns without bracket sets. -/
def globMatches : List Char → List Char → Bool
  | [], text => text.isEmpty
  | '*' :: pattern, text => text.tails.any (globMatches pattern)
  | '?' :: pattern, _ :: text => globMatches pattern text
  | char :: pattern, other :: text => char = other && globMatches pattern text
  | _ :: _, [] => false

/-- The default of `protected_file_globs`. -/
def protectedFileGlobs : List String :=
  ["**/test_*.py", "**/*_test.py", "**/fixtures/**/test_*.py"]

/-- `ensure_json_object` -/
def ensureJsonObject (env : HookEnv) (raw : String) : JsonObject :=
  match env.loads raw with
  | .ok (.obj fields) => fields
  | _ => []

/-- `resolve_workspace_root` without a fallback. -/
def resolveWorkspaceRoot (env : HookEnv) (stored : JsonObject) : String :=
  orElse (env.text (stored.get "workspace_root")) env.cwd

/-- `resolve_path` -/
def resolvePath (env : HookEnv) (workspaceRoot rawPath : String) : Except PyError String :=
  env.resolvePath workspaceRoot (strip rawPath)

/-- `is_protected_path` -/
def isProtectedPath (env : HookEnv) (path workspaceRoot : String) : Bool :=
  let relative :=
    match env.relativeTo path workspaceRoot with
    | .ok relative => relative
    | .error _ => path
  let normalized := relative.toList.map fun char =>
    if char.toNat = 0x5c then Char.ofNat 0x2f else char
  protectedFileGlobs.any fun pattern => globMatches pattern.toList normalized

/-- The tools that the guard looks at. -/
def guardedTools : List String :=
  ["repair_collect_evidence", "repair_run_verification", "repair_write_artifacts",
    "repair_apply_unified_patch"]

/-- The text that the guard writes in place of a blocked edit. -/
def blockedContent (target : String) : String :=
  "[CodeRepair Guard] blocked edit on protected path: " ++ target ++
    ". Continue by editing allowed source files."

/-- The payload with a forced finish. -/
def finish (payload : BeforeToolCallHookPayload) (reason : String) :
    HookStageOutput BeforeToolCallHookPayload :=
  { status := .ok
    patchedPayload := some
      { payload with forceFinish := true, forceFinishReason := some reason } }

/-- The checks on the target of a patch. -/
def checkTarget (env : HookEnv) (workspaceRoot filePath : String)
    (payload : BeforeToolCallHookPayload) :
    Except PyError (Option (HookStageOutput BeforeToolCallHookPayload)) := do
  let target ← resolvePath env workspaceRoot filePath
  if isProtectedPath env target workspaceRoot then
    return some {
      status := .ok
      patchedPayload := some { payload with request := {
        callId := payload.request.callId
        name := "repair_write_artifacts"
        argumentsJson := env.dumps (.obj [("artifact_type", .str "custom_text"),
          ("output_path", .str "progress.md"), ("content", .str (blockedContent target))]) } } }
  else if ← env.pathExists target then return none
  else return some (finish payload "unified_patch_target_not_found_use_write_artifacts")

/-- A list with an element. -/
def isNonemptyList : Option Json → Bool
  | some (.arr items) => !items.isEmpty
  | _ => false

/-- The checks on the request, in a session with the given metadata. -/
def checkRequest (env : HookEnv) (payload : BeforeToolCallHookPayload) (stored : JsonObject) :
    Except PyError (HookStageOutput BeforeToolCallHookPayload) := do
  let skip := { status := .skip, patchedPayload := some payload }
  let args := ensureJsonObject env payload.request.argumentsJson
  let workspaceRoot := resolveWorkspaceRoot env stored
  if payload.request.name = "repair_apply_unified_patch" then
    let filePath := env.text (args.get "file_path")
    let checked ←
      if filePath = "" then .ok none else checkTarget env workspaceRoot filePath payload
    match checked with
    | some output => return output
    | none =>
        if contains (env.strOrEmpty (args.get "patch_text")) "@@" then return skip
        else return finish payload "unified_patch_requires_context_hunk"
  else if payload.request.name = "repair_run_verification" then
    if isNonemptyList (args.get "checks") then return skip
    else return finish payload "verification_checks_missing"
  else return skip

/-- `execute_hook` of `repair_before_tool_call`. -/
def repairBeforeToolCall (env : HookEnv) (context : HookExecutionContext) :
    HookExecutor BeforeToolCallHookPayload := fun payload => do
  let skip := { status := .skip, patchedPayload := some payload }
  if !context.isSubSession then return skip
  else if payload.request.name ∉ guardedTools then return skip
  else
    let stored ← loadSessionMeta env
    ofExcept (checkRequest env payload stored)

/-- `_default_state` -/
def defaultState : JsonObject :=
  [("phase", .str "reproduce"), ("verification_passed", .bool false),
    ("last_failure_signature", .str ""), ("produced_artifacts", .arr []),
    ("required_artifacts", .arr []), ("gate_fail_reasons", .arr []), ("last_tool_name", .str ""),
    ("last_tool_status", .str ""), ("last_tool_ts_ms", .int 0)]

/-- The key of the repair state in the session's metadata. -/
def stateKey : String := "code_repair_state"

/-- The stored state over the defaults. -/
def stateOf (stored : JsonObject) : JsonObject :=
  match (stored.get stateKey).bind Json.asObj with
  | some raw => defaultState.update raw
  | none => defaultState

/-- `load_state` -/
def loadState (env : HookEnv) : HookM JsonObject := do
  return stateOf (← loadSessionMeta env)

/-- `save_state` -/
def saveState (env : HookEnv) (state : JsonObject) : HookM Unit :=
  saveSessionKey env stateKey (.obj (defaultState.update state))

/-- `bool(state.get(key))` -/
def isTruthy (value : Option Json) : Bool := value.any Json.truthy

/-- The tool's name, status and time, and the phase that follows. -/
def recordTool (env : HookEnv) (payload : AfterToolCallHookPayload) (state : JsonObject) :
    JsonObject :=
  let recorded := ((state.set "last_tool_name" (.str payload.request.name)).set
    "last_tool_status" (.str payload.toolStatus)).set "last_tool_ts_ms" (.int env.now)
  match payload.request.name with
  | "repair_apply_unified_patch" =>
      recorded.set "phase" (.str (if payload.toolStatus = "ok" then "verify" else "patch"))
  | "repair_run_verification" => recorded.set "phase"
      (.str (if isTruthy (recorded.get "verification_passed") then "report" else "patch"))
  | "repair_write_artifacts" => recorded.set "phase" (.str "report")
  | _ => recorded

/-- `list(value or [])` -/
def listOrEmpty : Option Json → Option (List Json)
  | none => some []
  | some value => if value.truthy then value.toList else some []

/-- `(workspace_root / artifact).exists()` -/
def artifactPresent (env : HookEnv) (workspaceRoot : String) (raw : Json) :
    Except PyError Bool := do
  let path ← resolvePath env workspaceRoot (env.str raw)
  env.pathExists path

/-- The artifacts that do not exist. -/
def missingArtifacts (env : HookEnv) (workspaceRoot : String) :
    List Json → Except PyError (List String)
  | [] => .ok []
  | raw :: rest => do
      let present ← artifactPresent env workspaceRoot raw
      let others ← missingArtifacts env workspaceRoot rest
      return if present then others else ("artifact_missing:" ++ env.str raw) :: others

/-- `_done_gate`: the reasons why the gate does not pass. -/
def doneGate (env : HookEnv) (state : JsonObject) : HookM (List String) := do
  let verificationPassed := isTruthy (state.get "verification_passed")
  match listOrEmpty (state.get "required_artifacts") with
  | none => throw (.other "object is not iterable")
  | some required =>
      let stored ← loadSessionMeta env
      let workspaceRoot := resolveWorkspaceRoot env stored
      if verificationPassed then ofExcept (missingArtifacts env workspaceRoot required)
      else return ["verification_not_passed"]

/-- What the hook after a tool decides: it records the tool, and asks for a follow-up while the gate
has reasons. -/
def afterVerdict (env : HookEnv) (context : HookExecutionContext)
    (payload : AfterToolCallHookPayload) : HookM (Verdict AfterToolCallHookPayload) := do
  let skip := { status := .skip, patchedPayload := some payload }
  if !context.isSubSession then return .done skip
  else
    let state := recordTool env payload (← loadState env)
    let reasons ← doneGate env state
    saveState env (state.set "gate_fail_reasons" (.arr (reasons.map .str)))
    if reasons.isEmpty then return .done skip
    else return .followUp ("CodeRepair gate pending: " ++ String.intercalate "; " (reasons.take 8))

/-- Payloads of other stages have this attribute. -/
def enabledGroups (_ : AfterToolCallHookPayload) : HookM (List String) :=
  throw (.attributeError "enabled_groups")

/-- `execute_hook` of `repair_after_tool_call`. -/
def repairAfterToolCall (env : HookEnv) (context : HookExecutionContext) :
    HookExecutor AfterToolCallHookPayload :=
  actOn (afterVerdict env context) fun payload text => do
    let groups ← enabledGroups payload
    publishFollowUp env payload.sessionId (orElse context.taskType "code") groups text
      "code_repair_ops_after_tool_call"
    return { status := .ok, patchedPayload := some { payload with
      forceFinish := true, forceFinishReason := some "code_repair_followup_required" } }

/-- The call that the hook after a response makes of a reply in some phases. -/
def forcedCall (env : HookEnv) : String → Option LlmToolCallRequest
  | "reproduce" => some {
      callId := "repair_force_collect"
      name := "repair_collect_evidence"
      argumentsJson := env.dumps (.obj [("mode", .str "command"),
        ("command", .str "pytest fixtures/app/test_config.py -q")]) }
  | "verify" => some {
      callId := "repair_force_verify"
      name := "repair_run_verification"
      argumentsJson := env.dumps (.obj [
        ("checks", .arr [.obj [("name", .str "pytest_target"), ("type", .str "command"),
          ("args", .obj [("command", .str "pytest fixtures/app/test_config.py -q"),
            ("exit_code", .int 0)])]]),
        ("stop_on_fail", .bool false)]) }
  | _ => none

/-- `str(state.get("phase") or "reproduce")` -/
def phaseOf (env : HookEnv) (state : JsonObject) : String :=
  orElse (env.strOrEmpty (state.get "phase")) "reproduce"

/-- What becomes of a reply in the phase of the repair. -/
def repairReply (env : HookEnv) (payload : AfterLlmResponseHookPayload) (state : JsonObject) :
    HookM (HookStageOutput AfterLlmResponseHookPayload) :=
  let skip := { status := .skip, patchedPayload := some payload }
  match forcedCall env (phaseOf env state) with
  | some call =>
      return { status := .ok, patchedPayload := some { payload with toolCalls := [call] } }
  | none =>
      if phaseOf env state = "report" then
        match listOrEmpty (state.get "gate_fail_reasons") with
        | none => throw (.other "object is not iterable")
        | some [] => return skip
        | some reasons => do
            publishFollowUp env payload.sessionId (orElse payload.taskType "code")
              payload.enabledGroups ("CodeRepair gate not satisfied. Resolve these first: " ++
                String.intercalate "; " ((reasons.take 6).map env.str))
              "code_repair_ops_after_llm_response"
            return {
              status := .ok
              patchedPayload := some { payload with
                forceFinish := true
                forceFinishReason := some "code_repair_gate_not_satisfied" } }
      else return skip

/-- `execute_hook` of `repair_after_llm_response`. -/
def repairAfterLlmResponse (env : HookEnv) (context : HookExecutionContext) :
    HookExecutor AfterLlmResponseHookPayload := fun payload => do
  let skip := { status := .skip, patchedPayload := some payload }
  if !context.isSubSession then return skip
  else
    let state ← loadState env
    if !payload.toolCalls.isEmpty then return skip else repairReply env payload state

/-- The target of a patch is named, and its path resolves to an unprotected file
that is missing, or that is there while the patch has no context hunk. -/
def BadTarget (env : HookEnv) (workspaceRoot filePath : String) (hunk : Bool) : Prop :=
  ∃ target, resolvePath env workspaceRoot filePath = .ok target ∧
    isProtectedPath env target workspaceRoot = false ∧
    (env.pathExists target = .ok false ∨ (env.pathExists target = .ok true ∧ hunk = false))

/-- The requests that the hook stops: patches without a context hunk, or for a missing
file, and verifications without checks. -/
def Malformed (env : HookEnv) (payload : BeforeToolCallHookPayload) (stored : JsonObject) :
    Prop :=
  let args := ensureJsonObject env payload.request.argumentsJson
  let filePath := env.text (args.get "file_path")
  let hunk := contains (env.strOrEmpty (args.get "patch_text")) "@@"
  (payload.request.name = "repair_apply_unified_patch" ∧
    ((filePath = "" ∧ hunk = false) ∨
      (filePath ≠ "" ∧ BadTarget env (resolveWorkspaceRoot env stored) filePath hunk))) ∨
  (payload.request.name = "repair_run_verification" ∧ isNonemptyList (args.get "checks") = false)

variable {env : HookEnv} {payload : BeforeToolCallHookPayload}

/-- What the checks on a named target, and then on the hunk, stop. -/
theorem checkTarget_finishes (fresh : payload.forceFinish = false)
    (workspaceRoot filePath : String) (hunk : Bool) :
    (∃ output, (do
        match ← checkTarget env workspaceRoot filePath payload with
        | some output => return output
        | none =>
            if hunk then return { status := .skip, patchedPayload := some payload }
            else return finish payload "unified_patch_requires_context_hunk" :
          Except PyError (HookStageOutput BeforeToolCallHookPayload)) = .ok output ∧
        (output.handedOn payload).forceFinish = true) ↔
      BadTarget env workspaceRoot filePath hunk := by
  unfold checkTarget BadTarget
  cases resolved : resolvePath env workspaceRoot filePath with
  | error error => simp [bind, Except.bind]
  | ok target =>
      cases guarded : isProtectedPath env target workspaceRoot with
      | true => simp [bind, Except.bind, pure, Except.pure, guarded, HookStageOutput.handedOn, fresh]
      | false =>
          cases found : env.pathExists target with
          | error error => simp [bind, Except.bind, guarded, found]
          | ok present =>
              cases present <;> cases hunk <;>
                simp [bind, Except.bind, pure, Except.pure, guarded, found, finish,
                  HookStageOutput.handedOn, fresh]

/-- The requests on which the checks force the turn to finish. -/
theorem checkRequest_finishes (fresh : payload.forceFinish = false) (stored : JsonObject) :
    (∃ output, checkRequest env payload stored = .ok output ∧
      (output.handedOn payload).forceFinish = true) ↔ Malformed env payload stored := by
  unfold checkRequest Malformed
  have different : ("repair_apply_unified_patch" : String) ≠ "repair_run_verification" := by decide
  by_cases patches : payload.request.name = "repair_apply_unified_patch"
  · simp only [patches, different, ↓reduceIte, true_and, false_and, or_false]
    by_cases named : env.text ((ensureJsonObject env payload.request.argumentsJson).get
        "file_path") = ""
    · simp only [named, ↓reduceIte, true_and, ne_eq, not_true_eq_false, false_and, or_false]
      cases contains (env.strOrEmpty ((ensureJsonObject env payload.request.argumentsJson).get
        "patch_text")) "@@" <;>
        simp [bind, Except.bind, pure, Except.pure, fresh, finish, HookStageOutput.handedOn]
    · simp only [named, ↓reduceIte, false_and, false_or, ne_eq, not_false_eq_true, true_and]
      exact checkTarget_finishes fresh _ _ _
  · by_cases verifies : payload.request.name = "repair_run_verification"
    · simp only [verifies, different.symm, ↓reduceIte, false_and, false_or, true_and]
      cases isNonemptyList ((ensureJsonObject env payload.request.argumentsJson).get "checks") <;>
        simp [pure, Except.pure, fresh, finish, HookStageOutput.handedOn]
    · simp only [patches, verifies, ↓reduceIte, false_and, or_false]
      simp [pure, Except.pure, fresh, HookStageOutput.handedOn]

/-- A target that is not let through ends the turn, or gets the guard's text written instead. -/
theorem checkTarget_handsOn {workspaceRoot filePath : String}
    {output : HookStageOutput BeforeToolCallHookPayload}
    (checked : checkTarget env workspaceRoot filePath payload = .ok (some output)) :
    (output.handedOn payload).forceFinish = true ∨
      (output.handedOn payload).request.name = "repair_write_artifacts" := by
  unfold checkTarget at checked
  cases resolved : resolvePath env workspaceRoot filePath with
  | error error =>
      rw [resolved] at checked
      cases checked
  | ok target =>
      rw [resolved] at checked
      simp only [bind, Except.bind] at checked
      split at checked
      · cases checked
        exact .inr rfl
      · split at checked
        · cases checked
        · split at checked
          · cases checked
          · cases checked
            exact .inl rfl

/-- What the checks hand on: the payload as it is, with a forced finish, or with the request
redirected to a note. -/
theorem checkRequest_handsOn {stored : JsonObject}
    {output : HookStageOutput BeforeToolCallHookPayload}
    (checked : checkRequest env payload stored = .ok output) :
    output.handedOn payload = payload ∨ (output.handedOn payload).forceFinish = true ∨
      (output.handedOn payload).request.name = "repair_write_artifacts" := by
  unfold checkRequest at checked
  simp only at checked
  split at checked
  · have unstopped {hunk : Bool} (read : (if hunk = true then
        .ok { status := .skip, patchedPayload := some payload }
        else .ok (finish payload "unified_patch_requires_context_hunk") :
          Except PyError (HookStageOutput BeforeToolCallHookPayload)) = .ok output) :
        output.handedOn payload = payload ∨ (output.handedOn payload).forceFinish = true := by
      cases hunk with
      | true =>
          cases read
          exact .inl rfl
      | false =>
          cases read
          exact .inr rfl
    by_cases unnamed : env.text ((ensureJsonObject env payload.request.argumentsJson).get
        "file_path") = ""
    · simp only [unnamed, ↓reduceIte] at checked
      exact (unstopped checked).imp_right .inl
    · simp only [unnamed, ↓reduceIte] at checked
      cases target : checkTarget env (resolveWorkspaceRoot env stored)
          (env.text ((ensureJsonObject env payload.request.argumentsJson).get "file_path"))
          payload with
      | error error =>
          rw [target] at checked
          cases checked
      | ok found =>
          rw [target] at checked
          cases found with
          | some handed =>
              cases checked
              exact .inr (checkTarget_handsOn target)
          | none => exact (unstopped checked).imp_right .inl
  · split at checked
    · split at checked
      · cases checked
        exact .inl rfl
      · cases checked
        exact .inr (.inl rfl)
    · cases checked
      exact .inl rfl

/-- The call publishes nothing. -/
theorem keeps_repairBeforeToolCall (env : HookEnv) (context : HookExecutionContext)
    (payload : BeforeToolCallHookPayload) :
    Keeps HookWorld.published (repairBeforeToolCall env context payload) := by
  unfold repairBeforeToolCall
  refine Keeps.ite (keeps_pure _) (Keeps.ite (keeps_pure _) ?_)
  exact (keeps_loadSessionMeta env).bind fun _ => keeps_ofExcept _

/-- The calls that force the turn to finish. -/
theorem repairBeforeToolCall_finishes (context : HookExecutionContext)
    (fresh : payload.forceFinish = false) (world : HookWorld) :
    (∃ output after, exec (repairBeforeToolCall env context payload) world = (.ok output, after) ∧
      (output.handedOn payload).forceFinish = true) ↔
    (context.isSubSession = true ∧ env.readSession = none ∧
      Malformed env payload world.storedMeta) := by
  have skipped {status : HookStatus} : ¬ ((({ status := status, patchedPayload := some payload } :
      HookStageOutput BeforeToolCallHookPayload).handedOn payload).forceFinish = true) := by
    change ¬ payload.forceFinish = true
    rw [fresh]
    exact Bool.false_ne_true
  unfold repairBeforeToolCall
  cases sub : context.isSubSession with
  | false =>
      constructor
      · rintro ⟨output, after, called, forces⟩
        cases called
        exact (skipped forces).elim
      · rintro ⟨isSub, _⟩
        cases isSub
  | true =>
      by_cases guarded : payload.request.name ∈ guardedTools
      · have loaded := exec_loadSessionMeta env world
        simp only [Bool.not_true, Bool.false_eq_true, ↓reduceIte, guarded, not_true_eq_false,
          true_and]
        rw [← checkRequest_finishes fresh]
        cases read : env.readSession with
        | some error =>
            rw [read] at loaded
            rw [exec_bind_error loaded]
            simp
        | none =>
            rw [read] at loaded
            rw [exec_bind_ok loaded, exec_ofExcept]
            constructor
            · rintro ⟨output, after, called, forces⟩
              exact ⟨rfl, output, (Prod.mk.inj called).1, forces⟩
            · rintro ⟨_, output, checked, forces⟩
              exact ⟨output, world, by rw [checked], forces⟩
      · constructor
        · rintro ⟨output, after, called, forces⟩
          simp only [Bool.not_true, Bool.false_eq_true, ↓reduceIte, guarded,
            not_false_eq_true] at called
          cases called
          exact (skipped forces).elim
        · rintro ⟨_, _, malformed⟩
          refine (guarded ?_).elim
          rcases malformed with ⟨name, _⟩ | ⟨name, _⟩ <;>
            · rw [name]
              decide

/-- The hook keeps the session alive except on the requests it stops. -/
theorem repairBeforeToolCall_keepsAlive_iff (context : HookExecutionContext) (world : HookWorld) :
    KeepsAlive (repairBeforeToolCall env context) payload world False ↔
      (payload.forceFinish = false → ¬ (context.isSubSession = true ∧ env.readSession = none ∧
        Malformed env payload world.storedMeta)) := by
  constructor
  · intro alive fresh stops
    obtain ⟨output, after, called, forces⟩ :=
      (repairBeforeToolCall_finishes context fresh world).mpr stops
    obtain ⟨event, member, _⟩ := alive.published output after called fresh forces
    have same := keeps_repairBeforeToolCall env context payload world
    rw [called] at same
    change after.published = world.published at same
    rw [same, List.drop_length] at member
    cases member
  · intro safe
    refine ⟨fun output after called fresh forces => ?_, False.elim⟩
    exact (safe fresh ((repairBeforeToolCall_finishes context fresh world).mp
      ⟨output, after, called, forces⟩)).elim

/-- The state can be stored: there is no row to store it in, or the write succeeds. -/
def Storable (env : HookEnv) (world : HookWorld) : Prop :=
  world.session = none ∨ env.writeSession = none

/-- A key is saved exactly when the session can be stored. -/
theorem exec_saveSessionKey {world : HookWorld} (read : env.readSession = none) (key : String)
    (value : Json) : (∃ after, exec (saveSessionKey env key value) world = (.ok (), after)) ↔
      Storable env world := by
  unfold saveSessionKey Storable
  rw [read]
  cases row : world.session with
  | none => exact ⟨fun _ => Or.inl rfl, fun _ => ⟨world, by simp [exec_bind, row]⟩⟩
  | some stored =>
      cases write : env.writeSession with
      | none =>
          refine ⟨fun _ => Or.inr rfl, fun _ => ?_⟩
          simp [exec_bind, row]
      | some error =>
          constructor
          · rintro ⟨after, done⟩
            simp [exec_bind, row] at done
          · rintro (missing | written)
            · cases missing
            · cases written

/-- Every artifact can be looked up, and one is missing. -/
def ArtifactMissing (env : HookEnv) (workspaceRoot : String) (required : List Json) : Prop :=
  (∀ raw ∈ required, ∃ present, artifactPresent env workspaceRoot raw = .ok present) ∧
    ∃ raw ∈ required, artifactPresent env workspaceRoot raw = .ok false

/-- The artifacts are looked up exactly when each of them can be. -/
theorem missingArtifacts_ok {workspaceRoot : String} {required : List Json} :
    (∃ missing, missingArtifacts env workspaceRoot required = .ok missing) ↔
      ∀ raw ∈ required, ∃ present, artifactPresent env workspaceRoot raw = .ok present := by
  induction required with
  | nil => simp [missingArtifacts]
  | cons raw rest ih =>
      rw [List.forall_mem_cons, ← ih, missingArtifacts]
      cases artifactPresent env workspaceRoot raw with
      | error error => simp [bind, Except.bind]
      | ok present =>
          cases missingArtifacts env workspaceRoot rest <;>
            simp [bind, Except.bind, pure, Except.pure]

/-- No artifact is missing exactly when each is there. -/
theorem missingArtifacts_nil {workspaceRoot : String} {required : List Json} :
    missingArtifacts env workspaceRoot required = .ok [] ↔
      ∀ raw ∈ required, artifactPresent env workspaceRoot raw = .ok true := by
  induction required with
  | nil => simp [missingArtifacts]
  | cons raw rest ih =>
      rw [List.forall_mem_cons, ← ih, missingArtifacts]
      cases artifactPresent env workspaceRoot raw with
      | error error => simp [bind, Except.bind]
      | ok present =>
          cases present <;> cases missingArtifacts env workspaceRoot rest <;>
            simp [bind, Except.bind, pure, Except.pure]

/-- The reasons of the gate when the verification has passed. -/
theorem artifactMissing_iff {workspaceRoot : String} {required : List Json} :
    ArtifactMissing env workspaceRoot required ↔
      ∃ missing, missingArtifacts env workspaceRoot required = .ok missing ∧ missing ≠ [] := by
  constructor
  · rintro ⟨found, raw, member, absent⟩
    obtain ⟨missing, listed⟩ := missingArtifacts_ok.mpr found
    refine ⟨missing, listed, ?_⟩
    rintro rfl
    have present := missingArtifacts_nil.mp listed raw member
    rw [absent] at present
    cases present
  · rintro ⟨missing, listed, nonempty⟩
    have found := missingArtifacts_ok.mp ⟨missing, listed⟩
    refine ⟨found, ?_⟩
    by_contra none_absent
    refine nonempty (Except.ok.inj (listed.symm.trans (missingArtifacts_nil.mpr ?_)))
    intro raw member
    obtain ⟨present, looked⟩ := found raw member
    cases present with
    | true => exact looked
    | false => exact (none_absent ⟨raw, member, looked⟩).elim

/-- The gate is pending: the stored state lists its required artifacts, and the
verification has not passed, or it has and an artifact is missing. -/
def GatePending (env : HookEnv) (stored : JsonObject) : Prop :=
  ∃ required, listOrEmpty ((stateOf stored).get "required_artifacts") = some required ∧
    (isTruthy ((stateOf stored).get "verification_passed") = false ∨
      ArtifactMissing env (resolveWorkspaceRoot env stored) required ∧
        isTruthy ((stateOf stored).get "verification_passed") = true)

/-- Recording a tool leaves what the gate looks at. -/
theorem get_recordTool (payload : AfterToolCallHookPayload) (state : JsonObject) {key : String}
    (gated : key = "verification_passed" ∨ key = "required_artifacts") :
    (recordTool env payload state).get key = state.get key := by
  have apart : key ≠ "last_tool_name" ∧ key ≠ "last_tool_status" ∧ key ≠ "last_tool_ts_ms" ∧
      key ≠ "phase" := by
    rcases gated with rfl | rfl <;> decide
  obtain ⟨name, status, time, phase⟩ := apart
  unfold recordTool
  split <;>
    simp only [JsonObject.get_set_other _ _ name, JsonObject.get_set_other _ _ status,
      JsonObject.get_set_other _ _ time, JsonObject.get_set_other _ _ phase]

/-- The reasons of the gate in a session with the given metadata. -/
def gateReasons (env : HookEnv) (state stored : JsonObject) : Except PyError (List String) :=
  match listOrEmpty (state.get "required_artifacts") with
  | none => .error (.other "object is not iterable")
  | some required =>
      if isTruthy (state.get "verification_passed") then
        missingArtifacts env (resolveWorkspaceRoot env stored) required
      else .ok ["verification_not_passed"]

/-- The gate is a function of the repair state and the stored metadata. -/
theorem exec_doneGate (read : env.readSession = none) (state : JsonObject) (world : HookWorld) :
    exec (doneGate env state) world = (gateReasons env state world.storedMeta, world) := by
  have loaded := exec_loadSessionMeta env world
  rw [read] at loaded
  unfold doneGate gateReasons
  cases listOrEmpty (state.get "required_artifacts") with
  | none => rfl
  | some required =>
      change exec (loadSessionMeta env >>= _) world = _
      rw [exec_bind_ok loaded]
      cases isTruthy (state.get "verification_passed") with
      | true => exact exec_ofExcept _ _
      | false => rfl

/-- The gate has reasons exactly while it is pending. -/
theorem gateReasons_pending (payload : AfterToolCallHookPayload) (stored : JsonObject) :
    (∃ reasons, gateReasons env (recordTool env payload (stateOf stored)) stored = .ok reasons ∧
      reasons ≠ []) ↔ GatePending env stored := by
  unfold gateReasons GatePending
  rw [get_recordTool payload _ (Or.inl rfl), get_recordTool payload _ (Or.inr rfl)]
  cases listOrEmpty ((stateOf stored).get "required_artifacts") with
  | none => simp
  | some required =>
      cases isTruthy ((stateOf stored).get "verification_passed") with
      | true =>
          simp only [↓reduceIte, Option.some.injEq, Bool.true_eq_false, false_or, and_true,
            exists_eq_left']
          exact artifactMissing_iff.symm
      | false => simp

/-- The hook decides to force a follow-up exactly while the gate is pending. -/
theorem decides_afterVerdict (context : HookExecutionContext) (payload : AfterToolCallHookPayload)
    (world : HookWorld) : Decides (afterVerdict env context) payload world ↔
      context.isSubSession = true ∧ env.readSession = none ∧ Storable env world ∧
        GatePending env world.storedMeta := by
  unfold Decides afterVerdict loadState saveState
  cases context.isSubSession with
  | false =>
      constructor
      · rintro ⟨_, _, decided⟩
        cases decided
      · rintro ⟨isSub, _⟩
        cases isSub
  | true =>
      have loaded := exec_loadSessionMeta env world
      simp only [Bool.not_true, Bool.false_eq_true, ↓reduceIte, true_and]
      cases read : env.readSession with
      | some error =>
          rw [read] at loaded
          constructor
          · rintro ⟨_, _, decided⟩
            rw [exec_bind, exec_bind_error loaded] at decided
            cases decided
          · rintro ⟨none_read, _⟩
            cases none_read
      | none =>
          rw [read] at loaded
          have state : exec (do return stateOf (← loadSessionMeta env) : HookM JsonObject) world =
              (.ok (stateOf world.storedMeta), world) := by
            rw [exec_bind_ok loaded]
            rfl
          rw [← gateReasons_pending payload]
          have gate := exec_doneGate read (recordTool env payload (stateOf world.storedMeta)) world
          simp only [exec_bind_ok state]
          cases reasoned : gateReasons env (recordTool env payload (stateOf world.storedMeta))
              world.storedMeta with
          | error error =>
              rw [reasoned] at gate
              simp [exec_bind_error gate]
          | ok reasons =>
              rw [reasoned] at gate
              simp only [exec_bind_ok gate, true_and]
              constructor
              · rintro ⟨text, after, decided⟩
                rw [exec_bind] at decided
                split at decided
                · rename_i saved
                  refine ⟨(exec_saveSessionKey read _ _).mp ⟨_, saved⟩, reasons, rfl, ?_⟩
                  rintro rfl
                  cases decided
                · cases decided
              · rintro ⟨storable, _, ⟨rfl⟩, nonempty⟩
                obtain ⟨after, saved⟩ := (exec_saveSessionKey read stateKey _).mpr storable
                have pending : ¬ reasons.isEmpty = true := by rwa [List.isEmpty_iff]
                refine ⟨"CodeRepair gate pending: " ++ String.intercalate "; " (reasons.take 8),
                  after, ?_⟩
                rw [exec_bind_ok saved, if_neg pending]
                rfl

/-- The gate publishes nothing. -/
theorem keeps_doneGate (state : JsonObject) :
    Keeps HookWorld.published (doneGate env state) := by
  unfold doneGate
  split
  · exact keeps_throw _
  · exact (keeps_loadSessionMeta env).bind fun _ => Keeps.ite (keeps_ofExcept _) (keeps_pure _)

/-- Deciding publishes nothing. -/
theorem keeps_afterVerdict (context : HookExecutionContext) (payload : AfterToolCallHookPayload) :
    Keeps HookWorld.published (afterVerdict env context payload) := by
  unfold afterVerdict loadState saveState
  refine Keeps.ite (keeps_pure _) (Keeps.bind ?_ fun _ => ?_)
  · exact (keeps_loadSessionMeta env).bind fun _ => keeps_pure _
  · refine (keeps_doneGate _).bind fun _ => (keeps_saveSessionKey env _ _).bind fun _ => ?_
    exact Keeps.ite (keeps_pure _) (keeps_pure _)

/-- A decision without a follow-up leaves the forced finish as it was. -/
theorem returns_afterVerdict (context : HookExecutionContext)
    (payload : AfterToolCallHookPayload) :
    Returns (fun decision => ∀ output, decision = .done output →
      (output.handedOn payload).forceFinish = payload.forceFinish)
      (afterVerdict env context payload) := by
  have skips : ∀ output, Verdict.done { status := .skip, patchedPayload := some payload } =
      Verdict.done output → (output.handedOn payload).forceFinish = payload.forceFinish := by
    rintro _ ⟨rfl⟩
    rfl
  unfold afterVerdict
  refine Returns.ite (returns_pure skips) (Returns.bind fun _ => Returns.bind fun _ =>
    Returns.bind fun _ => Returns.ite (returns_pure skips) (returns_pure nofun))

/-- A call that has decided to force a follow-up raises instead. -/
theorem repairAfterToolCall_raises {context : HookExecutionContext}
    {payload : AfterToolCallHookPayload} {world : HookWorld}
    (decides : Decides (afterVerdict env context) payload world) :
    ∃ after, exec (repairAfterToolCall env context payload) world =
      (.error (.attributeError "enabled_groups"), after) ∧ after.published = world.published := by
  obtain ⟨text, after, decided⟩ := decides
  have same : (exec (afterVerdict env context payload) world).2.published = world.published :=
    keeps_afterVerdict context payload world
  rw [decided] at same
  refine ⟨after, ?_, same⟩
  unfold repairAfterToolCall actOn
  rw [exec_bind_ok decided]
  rfl

/-- The hook keeps the session alive exactly when it does not decide to. -/
theorem repairAfterToolCall_keepsAlive_iff (context : HookExecutionContext)
    (payload : AfterToolCallHookPayload) (world : HookWorld) :
    KeepsAlive (repairAfterToolCall env context) payload world
        (Decides (afterVerdict env context) payload world) ↔
      ¬ (context.isSubSession = true ∧ env.readSession = none ∧ Storable env world ∧
        GatePending env world.storedMeta) := by
  rw [← decides_afterVerdict context payload world]
  constructor
  · intro alive decides
    obtain ⟨output, after, called, _⟩ := alive.forced decides
    obtain ⟨_, raised, _⟩ := repairAfterToolCall_raises decides
    rw [raised] at called
    cases called
  · intro undecided
    refine ⟨fun output after called fresh forces => ?_, fun decides => (undecided decides).elim⟩
    unfold repairAfterToolCall actOn at called
    cases decided : exec (afterVerdict env context payload) world with
    | mk outcome reached =>
        cases outcome with
        | error error =>
            rw [exec_bind_error decided] at called
            cases called
        | ok decision =>
            cases decision with
            | followUp text => exact (undecided ⟨text, reached, decided⟩).elim
            | done own =>
                rw [exec_bind_ok decided] at called
                cases called
                have kept := returns_afterVerdict context payload _ _ _ decided output rfl
                change payload.forceFinish = false at fresh
                change (output.handedOn payload).forceFinish = true at forces
                rw [kept, fresh] at forces
                cases forces

end FairyClaw.CodeRepair
