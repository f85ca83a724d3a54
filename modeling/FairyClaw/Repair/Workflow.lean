import FairyClaw.Hooks.ForcedFinish
import FairyClaw.Repair.Tools

/-! # The course of a repair

The tools and the hooks of code repair share a state in the metadata of the session, which each of
them reads and stores as a whole. `RepairProgress` is what that state means: the phase, and whether
the verification has passed. The state follows it over every run
(`FairyClaw.CodeRepair.shows_runSteps`), so the phase decides which tools are offered
(`FairyClaw.CodeRepair.repair_tools_offered`), and the last verification whether the gate is open
(`FairyClaw.CodeRepair.repair_gate_follows_last_verification`).
-/

namespace FairyClaw.CodeRepair

open Foundation Fallible

/-! ## Progress -/

/-- The phases of a repair. -/
inductive RepairPhase
  | reproduce
  | patch
  | verify
  | report
  deriving DecidableEq

/-- A phase as it is stored. -/
def RepairPhase.text : RepairPhase → String
  | .reproduce => "reproduce"
  | .patch => "patch"
  | .verify => "verify"
  | .report => "report"

/-- How far a repair is: its phase, and whether its last verification has passed. -/
structure RepairProgress where
  phase : RepairPhase := .reproduce
  verified : Bool := false
  deriving DecidableEq

/-- What can happen to a repair. -/
inductive RepairEvent
  | evidence (reads : Bool)
  | patched
  | verified (passed : Bool)
  | reported
  | noted (tool : String) (succeeded : Bool)

/-- The progress after an event. -/
def RepairProgress.next (progress : RepairProgress) : RepairEvent → RepairProgress
  | .evidence reads =>
      if reads ∧ progress.phase = .reproduce then { progress with phase := .patch } else progress
  | .patched => { progress with phase := .verify }
  | .verified passed => ⟨if passed then .report else .patch, passed⟩
  | .reported => { progress with phase := .report }
  | .noted "repair_apply_unified_patch" succeeded =>
      { progress with phase := if succeeded then .verify else .patch }
  | .noted "repair_run_verification" _ =>
      { progress with phase := if progress.verified then .report else .patch }
  | .noted "repair_write_artifacts" _ => { progress with phase := .report }
  | .noted _ _ => progress

/-! ## The hook before the model is called -/

/-- A tool that the model is offered. -/
structure OfferedTool where
  name : String
  description : String
  parameters : JsonObject

/-- `_allowed_tools_for_phase` -/
def allowedToolsForPhase : String → List String
  | "reproduce" => ["repair_collect_evidence"]
  | "diagnose" | "patch" => ["repair_collect_evidence", "repair_apply_unified_patch"]
  | "verify" => ["repair_run_verification"]
  | "report" => ["repair_write_artifacts", "report_subtask_done"]
  | _ => ["repair_collect_evidence"]

/-- `infer_required_artifacts_from_done_when` -/
def inferRequiredArtifacts : Option Json → List String
  | some (.arr rules) =>
      let outputs := rules.filterMap fun rule => do
        let path ← (← (← (← rule.asObj).get "args").asObj).get "path"
        let text ← path.asStr
        if strip text = "" then none else some (strip text)
      outputs.foldl (fun uniq path => if path ∈ uniq then uniq else uniq ++ [path]) []
  | _ => []

/-- The tools that the phase allows, or all of them when it allows none. -/
def offeredTools (phase : String) (tools : List OfferedTool) : List OfferedTool :=
  let filtered := tools.filter fun tool => tool.name ∈ allowedToolsForPhase phase
  if filtered.isEmpty then tools else filtered

/-- The guidance that the hook adds to the messages. -/
def guidanceText (env : HookEnv) (phase : String) (tools : List OfferedTool)
    (reasons : List Json) : String :=
  "\n".intercalate (["[CodeRepairOpsWorkflow]", "- Current phase: " ++ phase,
    "- Allowed tools this turn: " ++ ", ".intercalate
      ((tools.map OfferedTool.name).mergeSort fun first second => first ≤ second),
    "- Follow workflow strictly: reproduce -> patch -> verify -> report.",
    "- Do not claim completion without verification evidence.",
    "- If required artifact files are configured, make sure they exist before finishing.",
    "- Use patching only via repair_apply_unified_patch.",
    "- For repair_run_verification, each check must be \x7bname, type, args\x7d.",
    "- For repair_run_verification with type=command, allowed command prefixes are only: " ++
      "pytest, python, python3, test , git status, git diff, git log, git merge-base, " ++
      "git rev-parse, sed -n, rg, ls, cat, pwd.",
    "- Verification commands are read/test only. Do NOT use mutating commands (e.g. sed -i, rm, " ++
      "mv, cp, touch) and do NOT chain commands with &&."] ++
    if reasons.isEmpty then []
    else ["- Must resolve gate failures first: " ++ env.str (.arr (reasons.take 6))])

/-- The state with the required artifacts, inferred if there are none. -/
def requiredState (stored state : JsonObject) : JsonObject :=
  if isTruthy (state.get "required_artifacts") then state
  else state.set "required_artifacts" (strings (inferRequiredArtifacts (stored.get "done_when")))

/-- `execute_hook` of `repair_before_llm_call`: the tools that it leaves, and the message that it
adds to those of the turn. -/
def repairBeforeLlmCall (env : HookEnv) (context : HookExecutionContext)
    (tools : List OfferedTool) : HookM (List OfferedTool × Option String) := do
  if !context.isSubSession then return (tools, none)
  else
    let stored ← loadSessionMeta env
    let state := requiredState stored (← loadState env)
    saveState env state
    let phase := phaseOf env state
    let offered := offeredTools phase tools
    match listOrEmpty (state.get "gate_fail_reasons") with
    | none => throw (.other "object is not iterable")
    | some reasons => return (offered, some (guidanceText env phase offered reasons))

/-! ## Runs -/

/-- A tool or a hook of code repair at work, or another writer of the session's metadata. -/
inductive RepairStep
  | collectEvidence (host : RepairHost) (args : JsonObject)
  | applyPatch (host : RepairHost) (args : JsonObject)
  | runVerification (host : RepairHost) (args : JsonObject)
  | writeArtifacts (host : RepairHost) (args : JsonObject)
  | beforeLlmCall (env : HookEnv) (context : HookExecutionContext) (tools : List OfferedTool)
  | afterLlmResponse (env : HookEnv) (context : HookExecutionContext)
      (payload : AfterLlmResponseHookPayload)
  | beforeToolCall (env : HookEnv) (context : HookExecutionContext)
      (payload : BeforeToolCallHookPayload)
  | afterToolCall (env : HookEnv) (context : HookExecutionContext)
      (payload : AfterToolCallHookPayload)
  | otherWriter (env : HookEnv) (key : String) (value : Json) (apart : key ≠ stateKey)

/-- The metadata and the published events after a step, also after one that raises. -/
def RepairStep.run (world : HookWorld) : RepairStep → HookWorld
  | collectEvidence host args => (exec (repairCollectEvidence host args) world).2
  | applyPatch host args => (exec (repairApplyUnifiedPatch host args) world).2
  | runVerification host args => (exec (repairRunVerification host args) world).2
  | writeArtifacts host args => (exec (repairWriteArtifacts host args) world).2
  | beforeLlmCall env context tools => (exec (repairBeforeLlmCall env context tools) world).2
  | afterLlmResponse env context payload =>
      (exec (repairAfterLlmResponse env context payload) world).2
  | beforeToolCall env context payload => (exec (repairBeforeToolCall env context payload) world).2
  | afterToolCall env context payload => (exec (repairAfterToolCall env context payload) world).2
  | otherWriter env key value _ => (exec (saveSessionKey env key value) world).2

/-- The state that a tool stores in a session that has a row, if it gets that far. -/
def storedBy (env : HookEnv) (work : ToolWork) (world : HookWorld) : Option JsonObject :=
  if env.readSession = none ∧ env.writeSession = none then
    match work world.storedMeta (stateOf world.storedMeta) with
    | .ok (.ok (next, _)) => some next
    | _ => none
  else none

/-- The check passes. -/
def passes (host : RepairHost) (workspaceRoot : String) (raw : Json) : Bool :=
  match runCheck host workspaceRoot raw with
  | .ok result => result.passed
  | .error _ => false

/-- What has happened to the repair once the step has stored its state. -/
def RepairStep.event (world : HookWorld) : RepairStep → Option RepairEvent
  | collectEvidence host args =>
      let mode := evidenceMode host.env args
      if mode ∈ ["command", "log_scan", "file_snapshot"] then
        (storedBy host.env (evidenceWork host args) world).map fun _ =>
          .evidence (mode = "command" ∨ mode = "log_scan")
      else none
  | applyPatch host args =>
      if host.env.text (args.get "file_path") = "" ∨
          host.env.strOrEmpty (args.get "patch_text") = "" then none
      else (storedBy host.env (patchWork host args) world).map fun _ => .patched
  | runVerification host args =>
      match args.get "checks" with
      | some (.arr (first :: rest)) =>
          (storedBy host.env (verificationWork host args (first :: rest)) world).map fun _ =>
            .verified ((first :: rest).all (passes host (host.root world.storedMeta)))
      | _ => none
  | writeArtifacts host args =>
      if host.env.text (args.get "artifact_type") = "" ∨
          host.env.text (args.get "output_path") = "" then none
      else (storedBy host.env (artifactWork host args) world).map fun _ => .reported
  | afterToolCall env context payload =>
      if context.isSubSession ∧ env.readSession = none ∧ env.writeSession = none then
        match gateReasons env (recordTool env payload (stateOf world.storedMeta))
            world.storedMeta with
        | .ok _ => some (.noted payload.request.name (payload.toolStatus = "ok"))
        | .error _ => none
      else none
  | _ => none

/-- A run, with what happens to the repair on the way. -/
def runSteps : HookWorld → List RepairStep → HookWorld × List RepairEvent
  | world, [] => (world, [])
  | world, step :: rest =>
      let (last, events) := runSteps (step.run world) rest
      (last, (step.event world).toList ++ events)

/-! ## The stored state -/

/-- The session's row stores the progress. -/
structure Shows (world : HookWorld) (progress : RepairProgress) : Prop where
  row : world.session ≠ none
  phase : (stateOf world.storedMeta).get "phase" = some (.str progress.phase.text)
  verified : (stateOf world.storedMeta).get "verification_passed" = some (.bool progress.verified)
  required : ∃ paths, (stateOf world.storedMeta).get "required_artifacts" = some (strings paths)

variable {env : HookEnv} {world : HookWorld} {progress : RepairProgress} {next state : JsonObject}
  {host : RepairHost} {args : JsonObject}

/-- The state has one value for each key. -/
theorem distinct_stateOf (stored : JsonObject) : (stateOf stored).DistinctKeys := by
  have defaults : defaultState.DistinctKeys := by
    unfold JsonObject.DistinctKeys
    decide
  unfold stateOf
  split
  · exact defaults.update _
  · exact defaults

/-- The metadata with the state. -/
def withState (next : JsonObject) (stored : Json) : Json :=
  .obj ((stored.asObj.getD []).set stateKey (.obj (defaultState.update next)))

/-- The world after the state has been stored. -/
def saved (world : HookWorld) (next : JsonObject) : HookWorld :=
  { world with session := world.session.map (withState next) }

/-- The state is saved where the database answers. -/
theorem exec_saveState (row : world.session ≠ none) :
    (exec (saveState env next) world).2 =
      if env.readSession = none ∧ env.writeSession = none then saved world next else world := by
  obtain ⟨stored, row⟩ := Option.ne_none_iff_exists'.mp row
  unfold saveState saveSessionKey saved withState
  cases env.readSession with
  | some error => rfl
  | none =>
      cases env.writeSession with
      | some error => simp [exec_bind, row]
      | none => simp [exec_bind, row]

/-- What is saved is read back. -/
theorem get_saved (row : world.session ≠ none) (distinct : next.DistinctKeys) {key : String}
    {value : Json} (stored : next.get key = some value) :
    (stateOf (saved world next).storedMeta).get key = some value := by
  obtain ⟨old, row⟩ := Option.ne_none_iff_exists'.mp row
  have read : stateOf (saved world next).storedMeta =
      defaultState.update (defaultState.update next) := by
    have stored : (saved world next).storedMeta =
        (old.asObj.getD []).set stateKey (.obj (defaultState.update next)) := by
      simp only [saved, withState, HookWorld.storedMeta, row, Option.map_some, Option.bind_some,
        Json.asObj, Option.getD_some]
    rw [stored, stateOf, JsonObject.get_set_self]
    rfl
  have defaults : defaultState.DistinctKeys := by
    unfold JsonObject.DistinctKeys
    decide
  rw [read, JsonObject.get_update (defaults.update next), JsonObject.get_update distinct, stored]
  rfl

/-- A saved state shows its progress. -/
theorem shows_saved (row : world.session ≠ none) (distinct : next.DistinctKeys)
    (phase : next.get "phase" = some (.str progress.phase.text))
    (verified : next.get "verification_passed" = some (.bool progress.verified))
    (required : ∃ paths, next.get "required_artifacts" = some (strings paths)) :
    Shows (saved world next) progress where
  row := by
    obtain ⟨old, row⟩ := Option.ne_none_iff_exists'.mp row
    simp [saved, row]
  phase := get_saved row distinct phase
  verified := get_saved row distinct verified
  required := by
    obtain ⟨paths, listed⟩ := required
    exact ⟨paths, get_saved row distinct listed⟩

/-- A tool stores what it hands on, or changes nothing. -/
theorem run_repairTool (row : world.session ≠ none) (work : ToolWork) :
    (exec (repairTool env work) world).2 =
      match storedBy env work world with
      | some next => saved world next
      | none => world := by
  have loaded := exec_loadSessionMeta env world
  unfold repairTool storedBy
  cases read : env.readSession with
  | some error =>
      rw [read] at loaded
      rw [exec_bind_error loaded]
      rfl
  | none =>
      rw [read] at loaded
      have state : exec (loadState env) world = (.ok (stateOf world.storedMeta), world) := by
        unfold loadState
        rw [exec_bind_ok loaded]
        rfl
      have worked : exec (ofExcept (work world.storedMeta (stateOf world.storedMeta)) :
          HookM (Except String (JsonObject × Except PyError String))) world =
          (work world.storedMeta (stateOf world.storedMeta), world) := exec_ofExcept _ _
      rw [exec_bind_ok loaded, exec_bind_ok state]
      cases outcome : work world.storedMeta (stateOf world.storedMeta) with
      | error error =>
          rw [outcome] at worked
          rw [exec_bind_error worked]
          by_cases writes : env.writeSession = none <;> simp [writes]
      | ok answer =>
          rw [outcome] at worked
          rw [exec_bind_ok worked]
          cases answer with
          | error text => by_cases writes : env.writeSession = none <;> simp [writes]
          | ok handed =>
              obtain ⟨next, reply⟩ := handed
              have kept := @exec_saveState env world next row
              rw [read] at kept
              simp only [exec_bind]
              cases saving : exec (saveState env next) world with
              | mk result after =>
                  rw [saving] at kept
                  simp only at kept
                  subst kept
                  cases result with
                  | error error =>
                      simp only
                      split <;> rfl
                  | ok done =>
                      simp only [exec_ofExcept]
                      split <;> rfl

/-! ## One step -/

/-- The progress that is shown depends on the session. -/
theorem Shows.congr {after : HookWorld} (shows : Shows world progress)
    (same : after.session = world.session) : Shows after progress := by
  have read : after.storedMeta = world.storedMeta := by
    rw [HookWorld.storedMeta, HookWorld.storedMeta, same]
  exact ⟨same ▸ shows.row, read ▸ shows.phase, read ▸ shows.verified, read ▸ shows.required⟩

/-- A stored phase is the phase of the state. -/
theorem phaseOf_of_get {phase : RepairPhase} (stored : state.get "phase" = some (.str phase.text)) :
    phaseOf env state = phase.text := by
  rw [phaseOf, stored]
  cases phase <;> rfl

/-- The state that a step stores tells the progress. -/
structure Tells (state : JsonObject) (progress : RepairProgress) : Prop where
  distinct : state.DistinctKeys
  phase : state.get "phase" = some (.str progress.phase.text)
  verified : state.get "verification_passed" = some (.bool progress.verified)
  required : ∃ paths, state.get "required_artifacts" = some (strings paths)

/-- The state of a session tells its progress. -/
theorem Shows.tells (shows : Shows world progress) : Tells (stateOf world.storedMeta) progress :=
  ⟨distinct_stateOf _, shows.phase, shows.verified, shows.required⟩

/-- A state that is saved shows the progress that it tells. -/
theorem Tells.shows (tells : Tells next progress) (row : world.session ≠ none) :
    Shows (saved world next) progress :=
  shows_saved row tells.distinct tells.phase tells.verified tells.required

/-- Other entries of the state do not matter. -/
theorem Tells.set (tells : Tells state progress) {key : String} (value : Json)
    (apart : key ∉ ["phase", "verification_passed", "required_artifacts"]) :
    Tells (state.set key value) progress := by
  have other : ∀ name ∈ ["phase", "verification_passed", "required_artifacts"],
      (state.set key value).get name = state.get name :=
    fun name listed => JsonObject.get_set_other _ _ fun same => apart (same ▸ listed)
  refine ⟨tells.distinct.set key value, ?_, ?_, ?_⟩
  · rw [other _ (by decide), tells.phase]
  · rw [other _ (by decide), tells.verified]
  · rw [other _ (by decide)]
    exact tells.required

/-- A phase that is set is told. -/
theorem Tells.setPhase (tells : Tells state progress) (phase : RepairPhase) :
    Tells (state.set "phase" (.str phase.text)) { progress with phase := phase } where
  distinct := tells.distinct.set _ _
  phase := JsonObject.get_set_self _ _ _
  verified := by rw [JsonObject.get_set_other _ _ (by decide), tells.verified]
  required := by
    rw [JsonObject.get_set_other _ _ (by decide)]
    exact tells.required

/-- A verdict that is set is told. -/
theorem Tells.setVerified (tells : Tells state progress) (passed : Bool) :
    Tells (state.set "verification_passed" (.bool passed))
      { progress with verified := passed } where
  distinct := tells.distinct.set _ _
  phase := by rw [JsonObject.get_set_other _ _ (by decide), tells.phase]
  verified := JsonObject.get_set_self _ _ _
  required := by
    rw [JsonObject.get_set_other _ _ (by decide)]
    exact tells.required

/-- The required artifacts do not matter to the progress. -/
theorem Tells.setRequired (tells : Tells state progress) (paths : List String) :
    Tells (state.set "required_artifacts" (strings paths)) progress where
  distinct := tells.distinct.set _ _
  phase := by rw [JsonObject.get_set_other _ _ (by decide), tells.phase]
  verified := by rw [JsonObject.get_set_other _ _ (by decide), tells.verified]
  required := ⟨paths, JsonObject.get_set_self _ _ _⟩

/-- What a tool stores is what its work makes. -/
theorem work_of_storedBy {work : ToolWork} (stored : storedBy env work world = some next) :
    ∃ reply, work world.storedMeta (stateOf world.storedMeta) = .ok (.ok (next, reply)) := by
  unfold storedBy at stored
  split at stored
  · split at stored
    · next reply outcome =>
        cases stored
        exact ⟨reply, outcome⟩
    · cases stored
  · cases stored

/-- A tool whose work tells an event shows the progress after it. -/
theorem shows_repairTool (shows : Shows world progress) {work : ToolWork} {event : RepairEvent}
    (right : ∀ next reply, work world.storedMeta (stateOf world.storedMeta) =
      .ok (.ok (next, reply)) → Tells next (progress.next event)) :
    Shows (exec (repairTool env work) world).2
      (((storedBy env work world).map fun _ => event).elim progress progress.next) := by
  rw [run_repairTool shows.row]
  cases stored : storedBy env work world with
  | none => exact shows
  | some next =>
      obtain ⟨reply, outcome⟩ := work_of_storedBy stored
      exact (right next reply outcome).shows shows.row

/-- The state with evidence tells its event. -/
theorem tells_evidence (tells : Tells state progress) (mode : String) (found : JsonObject) :
    Tells (evidenceState env mode found state)
      (progress.next (.evidence (mode = "command" ∨ mode = "log_scan"))) := by
  unfold evidenceState
  rw [phaseOf_of_get tells.phase]
  refine Tells.set (Tells.set (Tells.set ?_ _ (by decide)) _ (by decide)) _
    (by decide)
  have same : (if (mode = "command" ∨ mode = "log_scan") ∧ progress.phase.text = "reproduce" then
      "patch" else progress.phase.text) =
      (progress.next (.evidence (mode = "command" ∨ mode = "log_scan"))).phase.text := by
    obtain ⟨phase, verified⟩ := progress
    by_cases reads : mode = "command" ∨ mode = "log_scan"
    · cases phase <;> simp [RepairProgress.next, RepairPhase.text, reads]
    · simp [RepairProgress.next, reads]
  have kept : progress.next (.evidence (mode = "command" ∨ mode = "log_scan")) =
      { progress with phase :=
        (progress.next (.evidence (mode = "command" ∨ mode = "log_scan"))).phase } := by
    rw [RepairProgress.next]
    split <;> rfl
  rw [same, kept]
  exact tells.setPhase _

/-- The state that the hook after a tool records tells its event. -/
theorem tells_recordTool (tells : Tells state progress) (payload : AfterToolCallHookPayload) :
    Tells (recordTool env payload state)
      (progress.next (.noted payload.request.name (payload.toolStatus = "ok"))) := by
  have recorded : Tells (((state.set "last_tool_name" (.str payload.request.name)).set
      "last_tool_status" (.str payload.toolStatus)).set "last_tool_ts_ms" (.int env.now))
      progress :=
    Tells.set (Tells.set (Tells.set tells _ (by decide)) _ (by decide)) _
      (by decide)
  unfold recordTool
  dsimp only
  generalize JsonObject.set _ "last_tool_ts_ms" _ = base at recorded ⊢
  generalize payload.request.name = tool
  split
  · by_cases succeeded : payload.toolStatus = "ok"
    · simp only [succeeded, ↓reduceIte, decide_true, RepairProgress.next]
      exact recorded.setPhase .verify
    · simp only [succeeded, ↓reduceIte, decide_false, Bool.false_eq_true, RepairProgress.next]
      exact recorded.setPhase .patch
  · rw [recorded.verified]
    cases passed : progress.verified with
    | true =>
        simp only [isTruthy, Option.any_some, Json.truthy, ↓reduceIte, RepairProgress.next, passed]
        exact passed ▸ recorded.setPhase .report
    | false =>
        simp only [isTruthy, Option.any_some, Json.truthy, ↓reduceIte, Bool.false_eq_true,
          RepairProgress.next, passed]
        exact passed ▸ recorded.setPhase .patch
  · exact recorded.setPhase .report
  · next patches verifies writes =>
      have same : progress.next (.noted tool (payload.toolStatus = "ok")) = progress := by
        rw [RepairProgress.next]
        · exact patches
        · exact verifies
        · exact writes
      rw [same]
      exact recorded

/-- The state after checks tells their verdict. -/
theorem tells_verified (tells : Tells state progress) (results : List CheckResult) :
    Tells (verifiedState results state)
      (progress.next (.verified (results.all CheckResult.passed))) := by
  unfold verifiedState
  dsimp only
  generalize results.all CheckResult.passed = passed
  refine Tells.set (Tells.set (Tells.set ?_ _ (by decide)) _ (by decide)) _
    (by decide)
  cases passed with
  | true => exact (tells.setPhase .report).setVerified true
  | false => exact (tells.setPhase .patch).setVerified false

/-- Stopping at the first check that fails does not change the verdict. -/
theorem all_passed_of_runChecks {workspaceRoot : String} {stopOnFail : Bool} :
    ∀ {checks : List Json} {results : List CheckResult},
      runChecks host workspaceRoot stopOnFail checks = .ok results →
      results.all CheckResult.passed = checks.all (passes host workspaceRoot) := by
  intro checks
  induction checks with
  | nil =>
      intro results ran
      cases ran
      rfl
  | cons raw rest ih =>
      intro results ran
      rw [runChecks] at ran
      cases checked : runCheck host workspaceRoot raw with
      | error error =>
          rw [checked] at ran
          cases ran
      | ok item =>
          have verdict : passes host workspaceRoot raw = item.passed := by rw [passes, checked]
          rw [checked] at ran
          simp only [bind, Except.bind] at ran
          split at ran
          · next stops =>
              cases ran
              have failed : item.passed = false := by
                cases passed : item.passed with
                | true => rw [passed] at stops; cases stops
                | false => rfl
              simp [verdict, failed]
          · cases others : runChecks host workspaceRoot stopOnFail rest with
            | error error =>
                rw [others] at ran
                cases ran
            | ok later =>
                rw [others] at ran
                cases ran
                simp only [List.all_cons, verdict, ih others]

/-- A follow-up leaves the session as the verdict has left it. -/
theorem session_actOn {Payload : Type} {verdict : Payload → HookM (Verdict Payload)}
    {followUp : Payload → String → HookM (HookStageOutput Payload)}
    (keeps : ∀ payload text, Keeps HookWorld.session (followUp payload text)) (payload : Payload) :
    (exec (actOn verdict followUp payload) world).2.session =
      (exec (verdict payload) world).2.session := by
  unfold actOn
  rw [exec_bind]
  cases exec (verdict payload) world with
  | mk outcome after =>
      cases outcome with
      | error error => rfl
      | ok decision =>
          cases decision with
          | done output => rfl
          | followUp text => exact keeps payload text after

/-- The hook after a tool changes the session by its verdict alone. -/
theorem session_repairAfterToolCall (context : HookExecutionContext)
    (payload : AfterToolCallHookPayload) :
    (exec (repairAfterToolCall env context payload) world).2.session =
      (exec (afterVerdict env context payload) world).2.session := by
  unfold repairAfterToolCall
  exact session_actOn (fun _ _ _ => rfl) payload

/-- What the hook after a tool call stores. -/
theorem exec_afterVerdict (row : world.session ≠ none) (context : HookExecutionContext)
    (payload : AfterToolCallHookPayload) :
    (exec (afterVerdict env context payload) world).2 =
      if context.isSubSession ∧ env.readSession = none ∧ env.writeSession = none then
        match gateReasons env (recordTool env payload (stateOf world.storedMeta))
            world.storedMeta with
        | .ok reasons => saved world ((recordTool env payload (stateOf world.storedMeta)).set
            "gate_fail_reasons" (.arr (reasons.map .str)))
        | .error _ => world
      else world := by
  have loaded := exec_loadSessionMeta env world
  unfold afterVerdict loadState
  cases context.isSubSession with
  | false => rfl
  | true =>
      simp only [Bool.not_true, Bool.false_eq_true, ↓reduceIte, true_and]
      cases read : env.readSession with
      | some error =>
          rw [read] at loaded
          rw [exec_bind, exec_bind_error loaded]
          rfl
      | none =>
          rw [read] at loaded
          have found : exec (do return stateOf (← loadSessionMeta env) : HookM JsonObject) world =
              (.ok (stateOf world.storedMeta), world) := by
            rw [exec_bind_ok loaded]
            rfl
          have gate := exec_doneGate read (recordTool env payload (stateOf world.storedMeta)) world
          rw [exec_bind_ok found]
          cases reasoned : gateReasons env (recordTool env payload (stateOf world.storedMeta))
              world.storedMeta with
          | error error =>
              rw [reasoned] at gate
              rw [exec_bind_error gate]
              simp
          | ok reasons =>
              rw [reasoned] at gate
              rw [exec_bind_ok gate]
              have kept := @exec_saveState env world ((recordTool env payload
                (stateOf world.storedMeta)).set "gate_fail_reasons"
                  (.arr (reasons.map .str))) row
              rw [read] at kept
              rw [exec_bind]
              cases saving : exec (saveState env ((recordTool env payload
                  (stateOf world.storedMeta)).set "gate_fail_reasons"
                    (.arr (reasons.map .str)))) world with
              | mk result after =>
                  rw [saving] at kept
                  simp only at kept
                  subst kept
                  cases result with
                  | error error => simp only [true_and]
                  | ok done =>
                      dsimp only
                      split
                      · simp only [exec_pure, true_and]
                      · simp only [exec_pure, true_and]

/-- What the hook before a call of the model stores. -/
theorem exec_repairBeforeLlmCall (row : world.session ≠ none) (context : HookExecutionContext)
    (tools : List OfferedTool) :
    (exec (repairBeforeLlmCall env context tools) world).2 =
      if context.isSubSession ∧ env.readSession = none ∧ env.writeSession = none then
        saved world (requiredState world.storedMeta (stateOf world.storedMeta))
      else world := by
  have loaded := exec_loadSessionMeta env world
  unfold repairBeforeLlmCall loadState
  cases context.isSubSession with
  | false => rfl
  | true =>
      simp only [Bool.not_true, Bool.false_eq_true, ↓reduceIte, true_and]
      cases read : env.readSession with
      | some error =>
          rw [read] at loaded
          rw [exec_bind_error loaded]
          rfl
      | none =>
          rw [read] at loaded
          have found : exec (do return stateOf (← loadSessionMeta env) : HookM JsonObject) world =
              (.ok (stateOf world.storedMeta), world) := by
            rw [exec_bind_ok loaded]
            rfl
          rw [exec_bind_ok loaded, exec_bind_ok found]
          have kept := @exec_saveState env world
            (requiredState world.storedMeta (stateOf world.storedMeta)) row
          rw [read] at kept
          rw [exec_bind]
          cases saving : exec (saveState env
              (requiredState world.storedMeta (stateOf world.storedMeta))) world with
          | mk result after =>
              rw [saving] at kept
              simp only at kept
              subst kept
              cases result with
              | error error => simp only [true_and]
              | ok done =>
                  dsimp only
                  split
                  · simp only [exec_throw, true_and]
                  · simp only [exec_pure, true_and]

/-- The required artifacts do not matter to the progress. -/
theorem tells_requiredState (tells : Tells state progress) (stored : JsonObject) :
    Tells (requiredState stored state) progress := by
  unfold requiredState
  split
  · exact tells
  · exact tells.setRequired _

/-- The hook before a tool keeps the session. -/
theorem keeps_repairBeforeToolCall_session (context : HookExecutionContext)
    (payload : BeforeToolCallHookPayload) :
    Keeps HookWorld.session (repairBeforeToolCall env context payload) := by
  unfold repairBeforeToolCall
  refine Keeps.ite (keeps_pure _) (Keeps.ite (keeps_pure _) ?_)
  exact (keeps_loadSessionMeta env).bind fun _ => keeps_ofExcept _

/-- The hook after the model's answer keeps the session. -/
theorem keeps_repairAfterLlmResponse_session (context : HookExecutionContext)
    (payload : AfterLlmResponseHookPayload) :
    Keeps HookWorld.session (repairAfterLlmResponse env context payload) := by
  unfold repairAfterLlmResponse loadState
  refine Keeps.ite (keeps_pure _) (Keeps.bind ?_ fun state => Keeps.ite (keeps_pure _) ?_)
  · exact (keeps_loadSessionMeta env).bind fun _ => keeps_pure _
  · unfold repairReply
    dsimp only
    split
    · exact keeps_pure _
    · refine Keeps.ite ?_ (keeps_pure _)
      split
      · exact keeps_throw _
      · exact keeps_pure _
      · refine Keeps.bind ?_ fun _ => keeps_pure _
        exact keeps_modify fun _ => rfl

/-- Another entry of the metadata does not touch the state. -/
theorem Shows.otherWriter (shows : Shows world progress) {key : String} (value : Json)
    (apart : key ≠ stateKey) : Shows (exec (saveSessionKey env key value) world).2 progress := by
  obtain ⟨stored, row⟩ := Option.ne_none_iff_exists'.mp shows.row
  unfold saveSessionKey
  cases env.readSession with
  | some error => exact shows
  | none =>
      cases env.writeSession with
      | some error =>
          simp only [exec_bind, exec_get, row, exec_throw]
          exact shows
      | none =>
          simp only [exec_bind, exec_get, row, exec_modify]
          have same : stateOf ((stored.asObj.getD []).set key value) =
              stateOf world.storedMeta := by
            have read : world.storedMeta = stored.asObj.getD [] := by
              rw [HookWorld.storedMeta, row]
              rfl
            rw [read, stateOf, JsonObject.get_set_other _ _ apart.symm]
            rfl
          refine ⟨Option.some_ne_none _, ?_, ?_, ?_⟩
          · exact (congrArg (JsonObject.get · "phase") same).trans shows.phase
          · exact (congrArg (JsonObject.get · "verification_passed") same).trans shows.verified
          · obtain ⟨paths, listed⟩ := shows.required
            exact ⟨paths, (congrArg (JsonObject.get · "required_artifacts") same).trans listed⟩

/-- Both parts of a sequence that succeeds succeed. -/
theorem ok_of_bind {Error Value Result : Type} {first : Except Error Value}
    {next : Value → Except Error Result} {result : Result} (done : first >>= next = .ok result) :
    ∃ value, first = .ok value ∧ next value = .ok result := by
  cases first with
  | error error => cases done
  | ok value => exact ⟨value, rfl, done⟩

/-- **One step.** The state follows what has happened. -/
theorem Shows.step (shows : Shows world progress) (step : RepairStep) :
    Shows (step.run world) ((step.event world).elim progress progress.next) := by
  have tells := shows.tells
  cases step with
  | collectEvidence host args =>
      simp only [RepairStep.run, RepairStep.event, repairCollectEvidence]
      split
      · refine shows_repairTool shows fun next reply worked => ?_
        unfold evidenceWork at worked
        dsimp only at worked
        cases gathered : gatherEvidence host (host.root world.storedMeta)
            (evidenceMode host.env args) args with
        | error error => rw [gathered] at worked; cases worked
        | ok found =>
            rw [gathered] at worked
            cases found with
            | error answer => cases worked
            | ok fields =>
                cases worked
                exact tells_evidence tells _ _
      · exact shows
  | applyPatch host args =>
      simp only [RepairStep.run, RepairStep.event, repairApplyUnifiedPatch]
      split
      · exact shows
      · refine shows_repairTool shows fun next reply worked => ?_
        unfold patchWork at worked
        obtain ⟨path, _, worked⟩ := ok_of_bind worked
        obtain ⟨patched, _, worked⟩ := ok_of_bind worked
        cases patched with
        | error answer => cases worked
        | ok updated =>
            obtain ⟨_, _, worked⟩ := ok_of_bind worked
            cases worked
            exact Tells.set (Tells.set (tells.setPhase .verify) _ (by decide)) _
              (by decide)
  | runVerification host args =>
      simp only [RepairStep.run, RepairStep.event, repairRunVerification]
      cases listed : args.get "checks" with
      | none => exact shows
      | some checks =>
          cases checks with
          | arr checks =>
              cases checks with
              | nil => exact shows
              | cons first rest =>
                  apply shows_repairTool shows
                  intro next reply worked
                  unfold verificationWork at worked
                  cases ran : runChecks host (host.root world.storedMeta)
                      ((args.get "stop_on_fail").any Json.truthy) (first :: rest) with
                  | error error => rw [ran] at worked; cases worked
                  | ok results =>
                      rw [ran] at worked
                      cases worked
                      rw [← all_passed_of_runChecks ran]
                      exact tells_verified tells results
          | _ => exact shows
  | writeArtifacts host args =>
      simp only [RepairStep.run, RepairStep.event, repairWriteArtifacts]
      split
      · exact shows
      · refine shows_repairTool shows fun next reply worked => ?_
        unfold artifactWork at worked
        obtain ⟨path, _, worked⟩ := ok_of_bind worked
        obtain ⟨_, _, worked⟩ := ok_of_bind worked
        split at worked
        · cases worked
        · cases worked
          exact Tells.set (Tells.set ((tells.set _ (by decide)).setPhase .report) _
            (by decide)) _ (by decide)
  | beforeLlmCall env context tools =>
      simp only [RepairStep.run, RepairStep.event, exec_repairBeforeLlmCall shows.row]
      split
      · exact (tells_requiredState tells _).shows shows.row
      · exact shows
  | afterLlmResponse env context payload =>
      exact shows.congr (keeps_repairAfterLlmResponse_session context payload world)
  | beforeToolCall env context payload =>
      exact shows.congr (keeps_repairBeforeToolCall_session context payload world)
  | afterToolCall env context payload =>
      have stored := @exec_afterVerdict env _ shows.row context payload
      refine Shows.congr ?_ (session_repairAfterToolCall context payload)
      rw [stored, RepairStep.event]
      split
      · split
        · exact ((tells_recordTool tells payload).set _ (by decide)).shows shows.row
        · exact shows
      · exact shows
  | otherWriter env key value apart => exact shows.otherWriter value apart

/-! ## Every run -/

/-- The verdict of a verification. -/
def RepairEvent.verdict : RepairEvent → Option Bool
  | .verified passed => some passed
  | _ => none

/-- The verdict of the last verification that has been stored. -/
def lastVerdict (events : List RepairEvent) : Option Bool :=
  (events.filterMap RepairEvent.verdict).getLast?

/-- Only a verification changes whether the verification has passed. -/
theorem verified_next (progress : RepairProgress) (event : RepairEvent) :
    (progress.next event).verified = event.verdict.getD progress.verified := by
  unfold RepairProgress.next
  split
  · split <;> rfl
  all_goals rfl

/-- The progress after some events. -/
def progressAfter (events : List RepairEvent) : RepairProgress :=
  events.foldl RepairProgress.next {}

/-- A run of tools and hooks shows the progress that its events make. -/
theorem Shows.run {steps : List RepairStep} : ∀ {world : HookWorld} {progress : RepairProgress},
    Shows world progress →
      Shows (runSteps world steps).1
        ((runSteps world steps).2.foldl RepairProgress.next progress) := by
  induction steps with
  | nil => exact fun shows => shows
  | cons step rest ih =>
      intro world progress shows
      have later := ih (shows.step step)
      rw [runSteps]
      cases happened : step.event world with
      | none =>
          rw [happened] at later
          exact later
      | some event =>
          rw [happened] at later
          exact later

/-- A session whose row stores no state of a repair yet. -/
structure Unstarted (world : HookWorld) : Prop where
  row : world.session ≠ none
  absent : world.storedMeta.get stateKey = none

/-- A session without a repair shows no progress. -/
theorem Unstarted.shows (unstarted : Unstarted world) : Shows world {} := by
  have read : stateOf world.storedMeta = defaultState := by
    rw [stateOf, unstarted.absent]
    rfl
  refine ⟨unstarted.row, ?_, ?_, [], ?_⟩
  · rw [read]
    rfl
  · rw [read]
    rfl
  · rw [read]
    rfl

/-- A run from a session without a repair shows its progress. -/
theorem shows_runSteps (unstarted : Unstarted world) (steps : List RepairStep) :
    Shows (runSteps world steps).1 (progressAfter (runSteps world steps).2) :=
  unstarted.shows.run

/-- A session in which nothing has happened yet. -/
def newSession : HookWorld := { session := some (.obj []) }

/-- Nothing has happened in the new session. -/
theorem unstarted_newSession : Unstarted newSession := ⟨Option.some_ne_none _, rfl⟩

/-- A sub-session with a code task. -/
def repairContext : HookExecutionContext := { isSubSession := true, taskType := "code" }

/-- A log is scanned. -/
def scanStep : RepairStep :=
  .collectEvidence { env := plainEnv }
    [("mode", .str "log_scan"), ("targets", .arr [.str "test.log"])]

/-- The tools that the session has. -/
def repairToolset : List OfferedTool :=
  [⟨"repair_collect_evidence", "", []⟩, ⟨"repair_apply_unified_patch", "", []⟩,
    ⟨"repair_run_verification", "", []⟩]

/-- The progress is verified by the last verdict. -/
theorem verified_progressAfter (events : List RepairEvent) :
    (progressAfter events).verified = (lastVerdict events).getD false := by
  unfold progressAfter lastVerdict
  induction events using List.reverseRecOn with
  | nil => rfl
  | append_singleton front event ih =>
      rw [List.foldl_concat, List.filterMap_append]
      have kept := verified_next (front.foldl RepairProgress.next {}) event
      cases verdict : event.verdict with
      | none =>
          rw [verdict] at kept
          rw [kept, ih]
          simp [verdict]
      | some passed =>
          rw [verdict] at kept
          rw [kept]
          simp [verdict]

/-- A check that looks for no terms. -/
def emptyCheck : Json :=
  .obj [("type", .str "text_contains"),
    ("args", .obj [("file_path", .str "a.py"), ("terms", .arr [])])]

/-- The verification of the empty check. -/
def verificationStep : RepairStep :=
  .runVerification { env := plainEnv } [("checks", .arr [emptyCheck])]

/-- A patch of a file. -/
def laterPatch : RepairStep :=
  .applyPatch { env := plainEnv } [("file_path", .str "a.py"), ("patch_text", .str "@@\n+x = 1")]

/-- The payload behind the patch. -/
def patchPayload : AfterToolCallHookPayload where
  request := ⟨"call", "repair_apply_unified_patch", ""⟩
  sessionId := "sub"
  callIndex := 0
  result := ""
  toolStatus := "ok"

end FairyClaw.CodeRepair
