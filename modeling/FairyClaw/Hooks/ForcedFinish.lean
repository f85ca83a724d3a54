import FairyClaw.Hooks.DeliverableContract
import FairyClaw.Hooks.CodeRepair

/-! # Forced finishes

The planner ends a turn whose stage output has a forced finish without publishing a
follow-up or marking the task, so the hook has to publish the event that starts the
next turn. The contract hooks do, alone and in any stage made of them
(`FairyClaw.contract_stage_keeps_alive`). Of the code repair hooks, the one before tool
calls forces the finish without an event, and the one after tool calls raises where
it means to publish (`FairyClaw.finish_without_event`); both keep the session alive on all
other inputs (`FairyClaw.forced_finish_keeps_alive_iff`).
-/

namespace FairyClaw

open Foundation Fallible DeliverableContract CodeRepair

/-- A stage whose hooks are the contract hook before tool calls, however often and
with whatever error policies, forces the finish only behind a triggering event. -/
theorem contract_stage_keeps_alive (env : HookEnv) (context : HookExecutionContext)
    {hooks : List (HookDefinition × HookExecutor BeforeToolCallHookPayload)}
    (contract : ∀ hook ∈ hooks, hook.2 = dcBeforeToolCall env context)
    {payload final : BeforeToolCallHookPayload} {world : HookWorld}
    (fresh : payload.forceFinish = false)
    (output : (runStage hooks payload world).1.patchedPayload = some final)
    (forces : final.forceFinish = true) :
    ∃ event ∈ (runStage hooks payload world).2.published.drop world.published.length,
      event.TriggersTurn payload.sessionId := by
  refine stage_keeps_alive ?_ fresh output forces
  intro hook member
  rw [contract hook member]
  exact (beforeTool_sound env context).dependable

/-- **Forced finishes keep the sub-session alive** with the contract hooks on every
input, with the code repair hook before tool calls unless it finds the request
malformed, and with the one after tool calls unless its gate is pending. -/
theorem forced_finish_keeps_alive_iff (env : HookEnv) (context : HookExecutionContext)
    (world : HookWorld) (response : AfterLlmResponseHookPayload)
    (request : BeforeToolCallHookPayload) (result : AfterToolCallHookPayload) :
    KeepsAlive (dcAfterLlmResponse env context) response world
      (Decides (afterLlmVerdict env context) response world) ∧
    KeepsAlive (dcBeforeToolCall env context) request world
      (Decides (beforeToolVerdict env context) request world) ∧
    (KeepsAlive (repairBeforeToolCall env context) request world False ↔
      (request.forceFinish = false → ¬ (context.isSubSession = true ∧ env.readSession = none ∧
        Malformed env request world.storedMeta))) ∧
    (KeepsAlive (repairAfterToolCall env context) result world
        (Decides (afterVerdict env context) result world) ↔
      ¬ (context.isSubSession = true ∧ env.readSession = none ∧ Storable env world ∧
        GatePending env world.storedMeta)) :=
  ⟨(afterLlm_sound env context).keepsAlive response world,
    (beforeTool_sound env context).keepsAlive request world,
    repairBeforeToolCall_keepsAlive_iff context world,
    repairAfterToolCall_keepsAlive_iff context result world⟩

/-- The arguments of a patch call. -/
def patchArguments : String := "\x7b\"patch_text\": \"x = 1\"\x7d"

/-- A workspace in which every path exists, and the session has no stored state. -/
def plainEnv : HookEnv where
  strOf := fun _ => ""
  intOf := fun
    | .int value => .ok value
    | _ => .error (.other "not a number")
  loads := fun text =>
    if text = patchArguments then .ok (.obj [("patch_text", .str "x = 1")])
    else .error "Expecting value"
  dumps := fun _ => ""
  now := 0
  eventId := toString
  readSession := none
  writeSession := none
  workspaceRoot := none
  cwd := "/workspace"
  resolvePath := fun root raw => .ok (root ++ "/" ++ raw)
  relativeTo := fun path _ => .ok path
  pathExists := fun _ => .ok true
  isFile := fun _ => .ok true
  readText := fun _ => .ok ""
  commandExitCode := fun _ _ => .ok 0

/-- A sub-session with a code task. -/
def codeTask : HookExecutionContext := { isSubSession := true, taskType := "code" }

/-- A patch without a context hunk. -/
def patchPayload : BeforeToolCallHookPayload where
  request := {
    callId := "call_0", name := "repair_apply_unified_patch", argumentsJson := patchArguments }
  sessionId := "main_sub_1"
  callIndex := 0
  enabledGroups := ["CodeRepairOps"]

/-- The result of collecting evidence, before any verification. -/
def evidencePayload : AfterToolCallHookPayload where
  request := { callId := "call_0", name := "repair_collect_evidence", argumentsJson := "" }
  sessionId := "main_sub_1"
  callIndex := 0
  result := "1 failed"
  toolStatus := "ok"

/-- The patch forces the turn to finish, and the pending gate raises; no event is
published by either call. -/
theorem finish_without_event :
    (∃ output, exec (repairBeforeToolCall plainEnv codeTask patchPayload) {} = (.ok output, {}) ∧
      (output.handedOn patchPayload).forceFinish = true) ∧
    Decides (afterVerdict plainEnv codeTask) evidencePayload {} ∧
    exec (repairAfterToolCall plainEnv codeTask evidencePayload) {} =
      (.error (.attributeError "enabled_groups"), {}) :=
  ⟨⟨_, rfl, rfl⟩, ⟨_, _, rfl⟩, rfl⟩

end FairyClaw
