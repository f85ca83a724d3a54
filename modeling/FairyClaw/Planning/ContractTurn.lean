import FairyClaw.Hooks.ContractCheck
import FairyClaw.Hooks.ForcedFinish
import FairyClaw.Planning.Turn

/-! # Turns of a sub-session with a deliverable contract

The turns of a sub-session together with what its hooks find: the stages behind a response and
before a tool call run the contract hook and the hooks of other groups, and their patched payloads
decide where the turn goes. Each step is one of the turn
(`FairyClaw.ContractWorld.refines`).

The hooks run under a timeout and an error policy that continues, so a reply or a report behind
a hook that was cut off, or that raised, completes the task
(`FairyClaw.ContractWorld.completed_unchecked`). In runs in which the contract hook comes to a
decision wherever a reply or a report would complete the task, the record becomes completed only
behind an evaluation that has passed (`FairyClaw.ContractWorld.completed_after_pass`).
-/

namespace FairyClaw

open Foundation

namespace TurnWorld

variable {task : String} {world next : TurnWorld}

/-- The record of the task is completed. -/
def isCompleted (task : String) (world : TurnWorld) : Bool :=
  (world.tasks.getRecord task).any fun record => record.status = "completed"

/-- A task is completed only by a mark that says so. -/
theorem isCompleted_markTerminal (registered : world.Registered task)
    (running : world.isCompleted task = false) (status summary : String)
    (marked : next.tasks = (world.tasks.markTerminal task status summary).2)
    (completed : next.isCompleted task = true) :
    SessionSubTaskState.normalizedTerminal status = "completed" := by
  obtain ⟨record, stored⟩ := Option.isSome_iff_exists.mp registered.known
  rw [isCompleted, stored] at running
  rw [isCompleted, marked, SessionSubTaskState.markTerminal_getRecord stored] at completed
  simp only [Option.any_some] at running completed
  split at completed
  · rw [running] at completed
    cases completed
  · simpa only [decide_eq_true_eq] using completed

/-- The record becomes completed by a reply, or by a report with such a status. -/
theorem step_isCompleted {action : TurnAction} (registered : world.Registered task)
    (stepped : world.step task action = some next) (running : world.isCompleted task = false)
    (completed : next.isCompleted task = true) :
    (action = .replied ∧ ∃ text, world.turn = .replying text) ∨
      ∃ status summary rest, action = .report status summary ∧
        world.turn = .runningTool "report_subtask_done" rest ∧
        SessionSubTaskState.normalizedTerminal status = "completed" := by
  have unchanged (same : next.tasks = world.tasks) : False := by
    rw [isCompleted, same] at completed
    rw [isCompleted, completed] at running
    cases running
  have effect := step_cases stepped
  cases action with
  | replied =>
      obtain ⟨text, replying, _⟩ := effect
      exact .inl ⟨rfl, text, replying⟩
  | report status summary =>
      obtain ⟨rest, reporting, rfl⟩ := effect
      refine .inr ⟨status, summary, rest, rfl, reporting, ?_⟩
      by_cases ended : world.isTerminal task = true
      · exact (unchanged (by rw [reportSubtaskDone, if_pos ended])).elim
      · refine isCompleted_markTerminal registered running status summary ?_ completed
        rw [reportSubtaskDone, if_neg ended]
  | raised exc =>
      obtain ⟨_, rfl⟩ := effect
      rcases world.markSubtaskIfNonTerminal_tasks "failed" exc with same | ⟨_, marked⟩
      · exact (unchanged same).elim
      · exact absurd (isCompleted_markTerminal registered running _ _ marked completed) (by decide)
  | kill =>
      obtain ⟨_, rfl⟩ := effect
      exact absurd (isCompleted_markTerminal registered running _ _ rfl completed) (by decide)
  | message taskType =>
      obtain ⟨_, rfl⟩ := effect
      obtain ⟨record, stored⟩ := Option.isSome_iff_exists.mp registered.known
      obtain ⟨after, found, status⟩ := SessionSubTaskState.messageTask_getRecord stored taskType
      have reopened : (world.messageSubtask task taskType).isCompleted task =
          decide (runningStatus taskType = "completed") := by
        rw [isCompleted, ← status]
        change Option.any _ ((world.tasks.messageTask task taskType).getRecord task) = _
        rw [found, Option.any_some]
      rw [reopened] at completed
      have terminal : isTerminalStatus (runningStatus taskType) = true := by
        rw [of_decide_eq_true completed]
        decide
      rw [runningStatus_running] at terminal
      cases terminal
  | other op =>
      obtain ⟨apart, tasks, performed, rfl⟩ := effect
      rw [isCompleted, SessionSubTaskState.perform_getRecord_of_ne apart performed] at completed
      rw [isCompleted, completed] at running
      cases running
  | begin => obtain ⟨_, _, ⟨_, rfl⟩ | ⟨_, rfl⟩⟩ := effect <;> exact (unchanged rfl).elim
  | read | respond | forceFinish | notified | returned | hookPublish | killReturned | append
  | sent | messageFailed =>
      obtain ⟨_, rfl⟩ := effect
      exact (unchanged rfl).elim
  | startTool | toolEnded =>
      obtain ⟨_, _, _, rfl⟩ := effect
      exact (unchanged rfl).elim
  | trigger | write =>
      subst effect
      exact (unchanged rfl).elim
  | nextTool =>
      obtain ⟨_, _, _, rfl⟩ | ⟨_, rfl⟩ := effect
      · exact (unchanged rfl).elim
      · refine (unchanged ?_).elim
        unfold handleToolFollowUp
        split <;> rfl
  | persisted =>
      obtain ⟨_, _, rfl⟩ := effect
      refine (unchanged ?_).elim
      unfold afterMark
      split <;> rfl

/-- The steps that lead to a reply, or to a tool that runs: a response, and the start of a tool;
all others come from there, or lead elsewhere. -/
theorem step_turn {action : TurnAction} (stepped : world.step task action = some next)
    (stands : (∃ text, next.turn = .replying text) ∨ ∃ call rest, next.turn = .runningTool call rest) :
    next.turn = world.turn ∨
      (∃ forceFinish response, action = .respond forceFinish response ∧
        next.turn = response.branch forceFinish) ∨
      ∃ call rest request, action = .startTool request ∧ world.turn = .beforeTool call rest ∧
        next.turn = .runningTool request rest := by
  have effect := step_cases stepped
  have elsewhere {turn : TurnState} (there : next.turn = turn)
      (apart : (∀ text, turn ≠ .replying text) ∧ ∀ call rest, turn ≠ .runningTool call rest) :
      False := by
    rcases stands with ⟨text, replying⟩ | ⟨call, rest, runs⟩
    · exact apart.1 text (there.symm.trans replying)
    · exact apart.2 call rest (there.symm.trans runs)
  cases action with
  | respond forceFinish response =>
      obtain ⟨_, rfl⟩ := effect
      exact .inr (.inl ⟨forceFinish, response, rfl, rfl⟩)
  | startTool request =>
      obtain ⟨call, rest, before, rfl⟩ := effect
      exact .inr (.inr ⟨call, rest, request, rfl, before, rfl⟩)
  | begin =>
      obtain ⟨_, _, ⟨_, rfl⟩ | ⟨_, rfl⟩⟩ := effect
      · exact .inl rfl
      · exact (elsewhere rfl ⟨nofun, nofun⟩).elim
  | read | forceFinish | raised | notified | returned =>
      obtain ⟨_, rfl⟩ := effect
      exact (elsewhere rfl ⟨nofun, nofun⟩).elim
  | report =>
      obtain ⟨_, _, rfl⟩ := effect
      unfold reportSubtaskDone
      split <;> exact .inl rfl
  | toolEnded =>
      obtain ⟨_, _, _, rfl⟩ := effect
      exact (elsewhere rfl ⟨nofun, nofun⟩).elim
  | nextTool =>
      obtain ⟨_, _, _, rfl⟩ | ⟨_, rfl⟩ := effect
      · exact (elsewhere rfl ⟨nofun, nofun⟩).elim
      · unfold handleToolFollowUp at elsewhere
        split at elsewhere <;> exact (elsewhere rfl ⟨nofun, nofun⟩).elim
  | replied =>
      obtain ⟨_, _, rfl⟩ := effect
      exact (elsewhere rfl ⟨nofun, nofun⟩).elim
  | persisted =>
      obtain ⟨_, _, rfl⟩ := effect
      unfold afterMark at elsewhere
      split at elsewhere <;> exact (elsewhere rfl ⟨nofun, nofun⟩).elim
  | hookPublish | kill | killReturned | message | append | sent | messageFailed =>
      obtain ⟨_, rfl⟩ := effect
      exact .inl rfl
  | trigger | write =>
      subst effect
      exact .inl rfl
  | other =>
      obtain ⟨_, _, _, rfl⟩ := effect
      exact .inl rfl

/-- A turn replies only to a response with a text and without calls. -/
theorem branch_replying {forceFinish : Bool} {response : TurnResponse} {text : String}
    (replying : response.branch forceFinish = .replying text) :
    forceFinish = false ∧ response.calls = [] ∧ response.text.getD "" ≠ "" := by
  unfold TurnResponse.branch at replying
  cases forceFinish with
  | true =>
      simp only [↓reduceIte] at replying
      split at replying <;> cases replying
  | false =>
      simp only [Bool.false_eq_true, ↓reduceIte] at replying
      split at replying
      · split at replying
        · cases replying
        · exact ⟨rfl, ‹_›, ‹_›⟩
      · cases replying

/-- A response does not start a tool by itself. -/
theorem branch_ne_runningTool (forceFinish : Bool) (response : TurnResponse) (call : String)
    (rest : List String) : response.branch forceFinish ≠ .runningTool call rest := by
  unfold TurnResponse.branch
  simp only
  split
  · split <;> rintro ⟨⟩
  · split
    · split <;> rintro ⟨⟩
    · rintro ⟨⟩

end TurnWorld

/-- The sub-session, and what its hooks find; the requests that the turn has not come to, and the
last one it has started. `passed` is about the last decision of the current turn: whether
`evaluate_done_when` has returned there that the contract passes. -/
structure ContractWorld where
  turn : TurnWorld
  hooks : HookWorld
  calls : List LlmToolCallRequest := []
  callIndex : Nat := 0
  running : Option LlmToolCallRequest := none
  passed : Bool := false

/-- What the hooks of a stage find, how the contract hook fares, and the hooks of other groups. -/
structure StageCall {Payload : Type} (settles : Payload → Prop) where
  env : HookEnv
  timing : HookTiming
  taskType : String
  enabledGroups : List String
  later : List (LaterHook settles)

/-- The context of the stage: a sub-session with its task type. -/
def StageCall.context {Payload : Type} {settles : Payload → Prop} (stage : StageCall settles) :
    HookExecutionContext := { isSubSession := true, taskType := stage.taskType }

/-- Steps of a turn under a contract: the stages with their hooks, the report and its stored rows,
and the other steps of the turn. -/
inductive ContractAction (builtins : Builtins)
  | respond (stage : StageCall AfterLlmResponseHookPayload.IsReply) (text : String)
      (calls : List LlmToolCallRequest)
  | startTool (stage : StageCall (BeforeToolCallHookPayload.Completes builtins))
  | report
  | stored (write : RowWrite)
  | turn (action : TurnAction)

/-- Steps of the turn behind a stage that has not forced a finish, and reports. -/
def TurnAction.behindStage : TurnAction → Bool
  | respond forced _ => !forced
  | startTool _ | report _ _ => true
  | _ => false

namespace ContractWorld

variable (builtins : Builtins) (task : String)

/-- The contract hook after a response, as its group's manifest declares it. -/
def afterLlmDefinition : HookDefinition where
  name := "deliverable_contract_after_llm_response_sub"
  priority := 10

/-- The contract hook before a tool call, as its group's manifest declares it. -/
def beforeToolDefinition : HookDefinition where
  name := "deliverable_contract_before_tool_call_sub"
  priority := 10

/-- The payload that `run_after_llm_response` gives the stage. -/
def responsePayload (stage : StageCall AfterLlmResponseHookPayload.IsReply) (text : String)
    (calls : List LlmToolCallRequest) : AfterLlmResponseHookPayload where
  sessionId := task
  taskType := stage.taskType
  enabledGroups := stage.enabledGroups
  messageText := if text = "" then none else some text
  toolCalls := calls

/-- `run_after_llm_response` -/
def runAfterLlmResponse (hooks : HookWorld) (stage : StageCall AfterLlmResponseHookPayload.IsReply)
    (text : String) (calls : List LlmToolCallRequest) : AfterLlmResponseHookPayload × HookWorld :=
  let payload := responsePayload task stage text calls
  let ran := runStage (contractStage afterLlmDefinition
    (DeliverableContract.dcAfterLlmResponse (builtins.within stage.env) stage.context)
    stage.timing stage.later) payload hooks
  (ran.1.patchedPayload.getD payload, ran.2)

/-- The payload that `_process_tool_calls` gives the stage before a tool call. -/
def requestPayload (stage : StageCall (BeforeToolCallHookPayload.Completes builtins))
    (request : LlmToolCallRequest) (callIndex : Nat) : BeforeToolCallHookPayload where
  request := request
  sessionId := task
  callIndex := callIndex
  enabledGroups := stage.enabledGroups

/-- The stage before a tool call of `_process_tool_calls`. -/
def runBeforeToolCall (hooks : HookWorld)
    (stage : StageCall (BeforeToolCallHookPayload.Completes builtins))
    (request : LlmToolCallRequest) (callIndex : Nat) : BeforeToolCallHookPayload × HookWorld :=
  let payload := requestPayload builtins task stage request callIndex
  let ran := runStage (contractStage beforeToolDefinition
    (DeliverableContract.dcBeforeToolCall (builtins.within stage.env) stage.context)
    stage.timing stage.later) payload hooks
  (ran.1.patchedPayload.getD payload, ran.2)

/-- A step, or `none` where there is none. -/
def step (world : ContractWorld) : ContractAction builtins → Option ContractWorld
  | .respond stage text calls =>
      let (response, hooks) := runAfterLlmResponse builtins task world.hooks stage text calls
      (world.turn.step task (.respond response.forceFinish {
        text := response.messageText, calls := response.toolCalls.map (·.name) })).map fun turn => {
          turn := turn
          hooks := hooks
          calls := response.toolCalls
          passed := calls.isEmpty &&
            stage.timing.passes (builtins.within stage.env) world.hooks }
  | .startTool stage =>
      match world.turn.turn, world.calls with
      | .beforeTool _ _, request :: rest =>
          let (patched, hooks) :=
            runBeforeToolCall builtins task world.hooks stage request world.callIndex
          (world.turn.step task (if patched.forceFinish then .forceFinish
            else .startTool patched.request.name)).map fun turn => {
              turn := turn
              hooks := hooks
              calls := rest
              callIndex := world.callIndex + 1
              running := some patched.request
              passed := request.name = "report_subtask_done" &&
                stage.timing.passes (builtins.within stage.env) world.hooks }
      | _, _ => none
  | .report =>
      match world.running.bind fun request => builtins.reportOf request.argumentsJson with
      | some (status, summary) =>
          (world.turn.step task (.report status summary)).map fun turn => { world with turn := turn }
      | none => none
  | .stored write => some { world with hooks := write.write world.hooks }
  | .turn action =>
      if action.behindStage then none
      else (world.turn.step task action).map fun turn =>
        { world with turn := turn, passed := world.passed && !action.begins }

/-- The sub-session right after its delegation with a contract. -/
def machine (rules : List DoneRule) : Machine ContractWorld (ContractAction builtins) where
  initial := fun world => (TurnWorld.machine task).initial world.turn ∧
    world.hooks.doneWhen = rules ∧ rules ≠ [] ∧ world = { turn := world.turn, hooks := world.hooks }
  step := step builtins task

variable {builtins} {task} {rules : List DoneRule} {world next : ContractWorld}

/-- What each step does. -/
theorem step_cases {action : ContractAction builtins} :
    world.step builtins task action = some next →
    match action with
    | .respond stage text calls =>
        let ran := runAfterLlmResponse builtins task world.hooks stage text calls
        ∃ turn, world.turn.step task (.respond ran.1.forceFinish {
            text := ran.1.messageText, calls := ran.1.toolCalls.map (·.name) }) = some turn ∧
          next = {
            turn := turn
            hooks := ran.2
            calls := ran.1.toolCalls
            passed := calls.isEmpty &&
              stage.timing.passes (builtins.within stage.env) world.hooks }
    | .startTool stage => ∃ request rest, world.calls = request :: rest ∧
        let ran := runBeforeToolCall builtins task world.hooks stage request world.callIndex
        ∃ turn, world.turn.step task (if ran.1.forceFinish then .forceFinish
            else .startTool ran.1.request.name) = some turn ∧
          next = {
            turn := turn
            hooks := ran.2
            calls := rest
            callIndex := world.callIndex + 1
            running := some ran.1.request
            passed := request.name = "report_subtask_done" &&
              stage.timing.passes (builtins.within stage.env) world.hooks }
    | .report => ∃ request status summary turn, world.running = some request ∧
        builtins.reportOf request.argumentsJson = some (status, summary) ∧
        world.turn.step task (.report status summary) = some turn ∧
        next = { world with turn := turn }
    | .stored write => next = { world with hooks := write.write world.hooks }
    | .turn action => action.behindStage = false ∧ ∃ turn,
        world.turn.step task action = some turn ∧
        next = { world with turn := turn, passed := world.passed && !action.begins } := by
  intro stepped
  cases action with
  | respond stage text calls =>
      obtain ⟨turn, moved, result⟩ := Option.map_eq_some_iff.mp stepped
      exact ⟨turn, moved, result.symm⟩
  | startTool stage =>
      simp only [step] at stepped
      split at stepped
      · rename_i request rest _ calls
        obtain ⟨turn, moved, result⟩ := Option.map_eq_some_iff.mp stepped
        exact ⟨request, rest, calls, turn, moved, result.symm⟩
      · cases stepped
  | report =>
      simp only [step] at stepped
      split at stepped
      · rename_i status summary reported
        obtain ⟨request, running, read⟩ := Option.bind_eq_some_iff.mp reported
        obtain ⟨turn, moved, result⟩ := Option.map_eq_some_iff.mp stepped
        exact ⟨request, status, summary, turn, running, read, moved, result.symm⟩
      · cases stepped
  | stored write => exact (Option.some.inj stepped).symm
  | turn action =>
      obtain ⟨allowed, moved⟩ := Option.ite_none_left_eq_some.mp stepped
      obtain ⟨turn, moved, result⟩ := Option.map_eq_some_iff.mp moved
      exact ⟨Bool.eq_false_iff.mpr allowed, turn, moved, result.symm⟩

/-- Each step is one of the turn, or leaves it alone. -/
def refines (rules : List DoneRule) : (machine builtins task rules).Simulation
    (TurnWorld.machine task) (fun _ => True) where
  view := ContractWorld.turn
  shown := fun world action =>
    match action with
    | .respond stage text calls =>
        let (response, _) := runAfterLlmResponse builtins task world.hooks stage text calls
        some (.respond response.forceFinish {
          text := response.messageText, calls := response.toolCalls.map (·.name) })
    | .startTool stage => world.calls.head?.map fun request =>
        let (patched, _) :=
          runBeforeToolCall builtins task world.hooks stage request world.callIndex
        if patched.forceFinish then .forceFinish else .startTool patched.request.name
    | .report => (world.running.bind fun request => builtins.reportOf request.argumentsJson).map
        fun report => .report report.1 report.2
    | .stored _ => none
    | .turn action => some action
  started := fun _ started => started.1
  stepped := by
    intro world action next _ stepped
    have effect := step_cases stepped
    cases action with
    | respond =>
        obtain ⟨turn, moved, rfl⟩ := effect
        exact moved
    | startTool =>
        obtain ⟨request, rest, calls, turn, moved, rfl⟩ := effect
        simp only [calls, List.head?_cons, Option.map_some]
        exact moved
    | report =>
        obtain ⟨request, status, summary, turn, running, read, moved, rfl⟩ := effect
        simp only [running, Option.bind_some, read, Option.map_some]
        exact moved
    | stored =>
        subst effect
        rfl
    | turn =>
        obtain ⟨_, turn, moved, rfl⟩ := effect
        exact moved

/-- The task stays registered in every run. -/
theorem reachable_registered {guard : Machine.Guard ContractWorld (ContractAction builtins)}
    (reached : (machine builtins task rules).Reachable guard world) : world.turn.Registered task :=
  TurnWorld.reachable_registered ((refines rules).reachable (fun _ _ => trivial) reached)

/-- The contract hook comes to a decision where a reply, or a report that completes the task, is
at hand. -/
def concludes : Machine.Guard ContractWorld (ContractAction builtins) := fun world action =>
  match action with
  | .respond stage text calls => text ≠ "" → calls = [] →
      stage.timing.Concludes (builtins.within stage.env) world.hooks
  | .startTool stage => ∀ request rest, world.calls = request :: rest →
      request.name = "report_subtask_done" → builtins.completes request.argumentsJson = true →
        stage.timing.Concludes (builtins.within stage.env) world.hooks
  | _ => True

/-- A reply that the stage lets through has passed the contract. -/
theorem runAfterLlmResponse_checked (builtins : Builtins) (task : String)
    (stage : StageCall AfterLlmResponseHookPayload.IsReply) (text : String) (calls : List LlmToolCallRequest) (contract : world.hooks.doneWhen ≠ []) :
    let ran := runAfterLlmResponse builtins task world.hooks stage text calls
    ran.2.doneWhen = world.hooks.doneWhen ∧ (ran.1.IsReply → (text ≠ "" ∧ calls = []) ∧
      (stage.timing.Concludes (builtins.within stage.env) world.hooks →
        stage.timing.passes (builtins.within stage.env) world.hooks = true)) := by
  have sub : stage.context.isSubSession = true := rfl
  obtain ⟨final, handed, kept, settled⟩ :=
    (guards_dcAfterLlmResponse (builtins.within stage.env) sub).stage
      afterLlmDefinition rfl (by decide) stage.timing stage.later
      (responsePayload task stage text calls) contract
  unfold runAfterLlmResponse
  simp only
  rw [handed]
  refine ⟨kept, fun reply => ?_⟩
  obtain ⟨own, passed⟩ := settled reply
  refine ⟨⟨?_, own.2.1⟩, passed⟩
  rintro rfl
  exact own.2.2 rfl

/-- A report that the stage lets through has passed the contract. -/
theorem runBeforeToolCall_checked (builtins : Builtins) (task : String)
    (stage : StageCall (BeforeToolCallHookPayload.Completes builtins))
    (request : LlmToolCallRequest) (contract : world.hooks.doneWhen ≠ []) :
    let ran := runBeforeToolCall builtins task world.hooks stage request world.callIndex
    ran.2.doneWhen = world.hooks.doneWhen ∧ (ran.1.Completes builtins →
      (request.name = "report_subtask_done" ∧ builtins.completes request.argumentsJson = true) ∧
      (stage.timing.Concludes (builtins.within stage.env) world.hooks →
        stage.timing.passes (builtins.within stage.env) world.hooks = true)) := by
  have sub : stage.context.isSubSession = true := rfl
  obtain ⟨final, handed, kept, settled⟩ :=
    (guards_dcBeforeToolCall builtins stage.env sub).stage
      beforeToolDefinition rfl (by decide) stage.timing stage.later
      (requestPayload builtins task stage request world.callIndex) contract
  unfold runBeforeToolCall
  simp only
  rw [handed]
  refine ⟨kept, fun completes => ?_⟩
  obtain ⟨own, passed⟩ := settled completes
  exact ⟨own.2, passed⟩

/-- The contract stays as it is, and a turn that stands before a reply, or runs a report that
completes the task, stands behind a pass. -/
structure Checked (builtins : Builtins) (rules : List DoneRule) (world : ContractWorld) :
    Prop where
  contract : world.hooks.doneWhen = rules
  replying : ∀ text, world.turn.turn = .replying text → world.passed = true
  reporting : ∀ rest, world.turn.turn = .runningTool "report_subtask_done" rest →
    world.passed = true ∨
      ∃ request, world.running = some request ∧ builtins.completes request.argumentsJson = false

/-- A response keeps what a completion needs checked. -/
theorem Checked.respond (checked : world.Checked builtins rules) (nonempty : rules ≠ [])
    {stage : StageCall AfterLlmResponseHookPayload.IsReply} {text : String}
    {calls : List LlmToolCallRequest}
    (concluded : concludes world (.respond stage text calls : ContractAction builtins))
    (stepped : world.step builtins task (.respond stage text calls) = some next) :
    next.Checked builtins rules := by
  obtain ⟨turn, moved, rfl⟩ := step_cases stepped
  obtain ⟨_, rfl⟩ := TurnWorld.step_cases moved
  obtain ⟨kept, settled⟩ := runAfterLlmResponse_checked builtins task stage text
    calls (checked.contract ▸ nonempty)
  refine ⟨kept.trans checked.contract, fun reply replying => ?_, fun rest runs => ?_⟩
  · obtain ⟨unforced, none_left, spoken⟩ := TurnWorld.branch_replying replying
    obtain ⟨⟨given, empty⟩, passed⟩ := settled ⟨unforced, List.map_eq_nil_iff.mp none_left, spoken⟩
    simp only [empty, List.isEmpty_nil, Bool.true_and]
    exact passed (concluded given empty)
  · exact (TurnWorld.branch_ne_runningTool _ _ _ _ runs).elim

/-- The start of a tool keeps what a completion needs checked. -/
theorem Checked.startTool (checked : world.Checked builtins rules) (nonempty : rules ≠ [])
    {stage : StageCall (BeforeToolCallHookPayload.Completes builtins)}
    (concluded : concludes world (.startTool stage))
    (stepped : world.step builtins task (.startTool stage) = some next) :
    next.Checked builtins rules := by
  obtain ⟨request, rest, calls, turn, moved, rfl⟩ := step_cases stepped
  obtain ⟨kept, settled⟩ := runBeforeToolCall_checked builtins task stage request
    (checked.contract ▸ nonempty)
  cases forced : (runBeforeToolCall builtins task world.hooks stage request
      world.callIndex).1.forceFinish with
  | true =>
      rw [forced, if_pos rfl] at moved
      obtain ⟨_, rfl⟩ := TurnWorld.step_cases moved
      exact ⟨kept.trans checked.contract, nofun, nofun⟩
  | false =>
      rw [forced, if_neg Bool.false_ne_true] at moved
      obtain ⟨call, others, _, rfl⟩ := TurnWorld.step_cases moved
      refine ⟨kept.trans checked.contract, nofun, fun remaining runs => ?_⟩
      obtain ⟨name, _⟩ := TurnState.runningTool.inj runs
      cases completes : builtins.completes (runBeforeToolCall builtins task world.hooks stage
          request world.callIndex).1.request.argumentsJson with
      | false => exact .inr ⟨_, rfl, completes⟩
      | true =>
          obtain ⟨⟨own, asked⟩, passed⟩ := settled ⟨forced, name, completes⟩
          refine .inl ?_
          simp only [own, decide_true, Bool.true_and]
          exact passed (concluded request rest calls own asked)

/-- The other steps of a turn keep what a completion needs checked. -/
theorem Checked.turn (checked : world.Checked builtins rules) {action : TurnAction}
    (stepped : world.step builtins task (.turn action) = some next) :
    next.Checked builtins rules := by
  obtain ⟨unstaged, turn, moved, rfl⟩ := step_cases stepped
  have stays (stands : (∃ text, turn.turn = .replying text) ∨
      ∃ call rest, turn.turn = .runningTool call rest) :
      turn.turn = world.turn.turn ∧ action.begins = false := by
    have effect := TurnWorld.step_cases moved
    rcases TurnWorld.step_turn moved stands with
      same | ⟨forceFinish, response, rfl, branched⟩ | ⟨_, _, _, rfl, _⟩
    · refine ⟨same, ?_⟩
      cases action with
      | begin =>
          rw [same, effect.1] at stands
          rcases stands with ⟨_, replying⟩ | ⟨_, _, runs⟩
          · cases replying
          · cases runs
      | _ => rfl
    · rcases stands with ⟨text, replying⟩ | ⟨call, rest, runs⟩
      · obtain ⟨rfl, _⟩ := TurnWorld.branch_replying (branched.symm.trans replying)
        cases unstaged
      · exact (TurnWorld.branch_ne_runningTool _ _ _ _ (branched.symm.trans runs)).elim
    · cases unstaged
  refine ⟨checked.contract, fun text replying => ?_, fun rest runs => ?_⟩
  · obtain ⟨same, goes_on⟩ := stays (.inl ⟨text, replying⟩)
    simp only [checked.replying text (same.symm.trans replying), goes_on, Bool.not_false,
      Bool.and_self]
  · obtain ⟨same, goes_on⟩ := stays (.inr ⟨_, rest, runs⟩)
    refine (checked.reporting rest (same.symm.trans runs)).imp_left fun passed => ?_
    simp only [passed, goes_on, Bool.not_false, Bool.and_self]

/-- Every step keeps what a completion needs checked. -/
theorem Checked.step (checked : world.Checked builtins rules) (nonempty : rules ≠ [])
    {action : ContractAction builtins} (concluded : concludes world action)
    (stepped : world.step builtins task action = some next) : next.Checked builtins rules := by
  cases action with
  | respond => exact checked.respond nonempty concluded stepped
  | startTool => exact checked.startTool nonempty concluded stepped
  | turn => exact checked.turn stepped
  | stored write =>
      obtain rfl := step_cases stepped
      exact ⟨(write.keeps _).trans checked.contract, checked.replying, checked.reporting⟩
  | report =>
      obtain ⟨request, status, summary, turn, _, _, moved, rfl⟩ := step_cases stepped
      have same : turn.turn = world.turn.turn := by
        obtain ⟨_, _, rfl⟩ := TurnWorld.step_cases moved
        unfold TurnWorld.reportSubtaskDone
        split <;> rfl
      exact ⟨checked.contract, fun text replying => checked.replying text (same ▸ replying),
        fun rest runs => checked.reporting rest (same ▸ runs)⟩

/-- A completion has been checked in every run. -/
theorem reachable_checked (reached : (machine builtins task rules).Reachable concludes world) :
    rules ≠ [] ∧ world.Checked builtins rules := by
  let Valid (world : ContractWorld) := rules ≠ [] ∧ world.Checked builtins rules
  suffices valid : Valid world from valid
  apply reached.invariant
  · rintro start ⟨⟨before, taskType, _, _, fresh⟩, contract, nonempty, _⟩
    refine ⟨nonempty, contract, ?_, ?_⟩
    · intro text replying
      rw [fresh] at replying
      cases replying
    · intro rest runs
      rw [fresh] at runs
      cases runs
  · intro before action after valid concluded stepped
    exact ⟨valid.1, valid.2.step valid.1 concluded stepped⟩

/-- **Contract safety.** Where the contract hook comes to a decision whenever a reply or a report
would complete the task, the record becomes completed only behind an evaluation of the contract
that has passed in the same turn. -/
theorem completed_after_pass (reached : (machine builtins task rules).Reachable concludes world)
    {action : ContractAction builtins} (stepped : world.step builtins task action = some next)
    (running : world.turn.isCompleted task = false) (completed : next.turn.isCompleted task = true) :
    world.passed = true ∧ world.hooks.doneWhen = rules := by
  obtain ⟨_, checked⟩ := reachable_checked reached
  refine ⟨?_, checked.contract⟩
  have registered := reachable_registered reached
  have unchanged (same : next.turn = world.turn) : False := by
    rw [same, running] at completed
    cases completed
  have effect := step_cases stepped
  cases action with
  | stored =>
      subst effect
      exact (unchanged rfl).elim
  | respond =>
      obtain ⟨turn, moved, rfl⟩ := effect
      rcases TurnWorld.step_isCompleted registered moved running completed with
        ⟨replied, _⟩ | ⟨_, _, _, reported, _⟩
      · cases replied
      · cases reported
  | startTool =>
      obtain ⟨_, _, _, turn, moved, rfl⟩ := effect
      rcases TurnWorld.step_isCompleted registered moved running completed with
        ⟨replied, _⟩ | ⟨_, _, _, reported, _⟩
      · split at replied <;> cases replied
      · split at reported <;> cases reported
  | turn action =>
      obtain ⟨unstaged, turn, moved, rfl⟩ := effect
      rcases TurnWorld.step_isCompleted registered moved running completed with
        ⟨_, text, replying⟩ | ⟨_, _, _, rfl, _⟩
      · exact checked.replying text replying
      · cases unstaged
  | report =>
      obtain ⟨request, status, summary, turn, runs, read, moved, rfl⟩ := effect
      rcases TurnWorld.step_isCompleted registered moved running completed with
        ⟨replied, _⟩ | ⟨_, _, rest, reported, reporting, asked⟩
      · cases replied
      · cases reported
        rcases checked.reporting rest reporting with passed | ⟨other, started, incomplete⟩
        · exact passed
        · rw [runs] at started
          cases started
          simp only [Builtins.completes, read, Option.any_some, asked, decide_true] at incomplete
          cases incomplete

/-- Conversions in which `json.loads` reads dictionaries of texts only. -/
def textBuiltins : Builtins where
  strOf := plainEnv.strOf
  intOf := plainEnv.intOf
  loads := fun text =>
    match Json.loadsTexts text with
    | some fields => .ok (Json.texts fields)
    | none => .error "Expecting value"
  reads := fun fields _ => by rw [Json.loadsTexts_dumps]

/-- A task delegated with one rule, right after its delegation. -/
def delegated (ruleType : String) (args : JsonObject) : ContractWorld where
  turn := TurnWorld.delegated
  hooks := { session := some (.obj [("done_when", .arr [.obj [
    ("type", .str ruleType), ("args", .obj args)]])]) }

/-- A report is to be there. -/
def reportDue : ContractWorld := delegated "file_exists" [("path", .str "report.md")]

/-- A suite is to succeed. -/
def suiteDue : ContractWorld := delegated "command_exit_code" [("command", .str "pytest -q")]

/-- The world after some actions. -/
def after (start : ContractWorld) (actions : List (ContractAction textBuiltins)) : ContractWorld :=
  ((machine textBuiltins "main_sub_1" start.hooks.doneWhen).replay Machine.anyStep start
    actions).getD start

/-- A stage in the workspace in which every path exists. -/
def plainStage {Payload : Type} (settles : Payload → Prop) (timing : HookTiming) :
    StageCall settles where
  env := plainEnv
  timing := timing
  taskType := "general"
  enabledGroups := []
  later := []

/-- A reply to the delegated task. -/
def replies (timing : HookTiming) : List (ContractAction textBuiltins) :=
  [.turn (.begin 0), .turn .read, .respond (plainStage _ timing) "All done." []]

/-- The task with a report due is a start of the machine. -/
theorem reportDue_initial :
    (machine textBuiltins "main_sub_1" reportDue.hooks.doneWhen).initial reportDue :=
  ⟨TurnWorld.delegated_initial, rfl, List.ne_nil_of_length_pos (by decide), rfl⟩

/-- The task with a test suite due is a start of the machine. -/
theorem suiteDue_initial :
    (machine textBuiltins "main_sub_1" suiteDue.hooks.doneWhen).initial suiteDue :=
  ⟨TurnWorld.delegated_initial, rfl, List.ne_nil_of_length_pos (by decide), rfl⟩

/-- The reply to a task whose report is there completes it, behind a pass. -/
theorem completed_after_pass_of_report :
    (after reportDue (replies .answers ++ [.turn .replied])).turn.isCompleted "main_sub_1" = true ∧
    (after reportDue (replies .answers)).passed = true := by
  let contract := (machine textBuiltins "main_sub_1" reportDue.hooks.doneWhen)
  have begun : contract.Reachable concludes (after reportDue [.turn (.begin 0)]) :=
    (Machine.Reachable.initial reportDue_initial).tail
      (show concludes _ (.turn (.begin 0) : ContractAction textBuiltins) from trivial) rfl
  have read : contract.Reachable concludes (after reportDue [.turn (.begin 0), .turn .read]) :=
    begun.tail (show concludes _ (.turn .read : ContractAction textBuiltins) from trivial) rfl
  have concluded : concludes (after reportDue [.turn (.begin 0), .turn .read])
      (.respond (plainStage _ .answers) "All done." [] : ContractAction textBuiltins) :=
    fun _ _ => ⟨[], rfl, .inl rfl⟩
  have replied : contract.Reachable concludes (after reportDue (replies .answers)) :=
    read.tail concluded rfl
  have stepped : (after reportDue (replies .answers)).step textBuiltins "main_sub_1"
      (.turn .replied) = some (after reportDue (replies .answers ++ [.turn .replied])) := rfl
  have completed : (after reportDue (replies .answers ++ [.turn .replied])).turn.isCompleted
      "main_sub_1" = true := by decide
  exact ⟨completed, (completed_after_pass replied stepped (by decide) completed).1⟩

/-- A workspace in which no command can be started. -/
def exhaustedEnv : HookEnv :=
  { plainEnv with commandExitCode := fun _ _ => .error (.other "Cannot allocate memory") }

/-- A call that reports the task as completed. -/
def completedReport : LlmToolCallRequest where
  callId := "call_0"
  name := "report_subtask_done"
  argumentsJson := Json.dumps (Json.texts [("status", "completed"), ("summary", "All done.")])

/-- A report of the delegated task, up to the running tool. -/
def reports : List (ContractAction textBuiltins) :=
  [.turn (.begin 0), .turn .read, .respond (plainStage _ .answers) "" [completedReport],
    .startTool { plainStage _ .answers with env := exhaustedEnv }]

/-- A reply completes the task while its suite still runs when the time of the hook is up, and so
does a report when the suite cannot be started. -/
theorem completed_unchecked :
    let contract := machine textBuiltins "main_sub_1" suiteDue.hooks.doneWhen
    let late := replies (.timesOut false .none)
    (contract.Reachable Machine.anyStep (after suiteDue late) ∧
      (after suiteDue late).step textBuiltins "main_sub_1" (.turn .replied) =
        some (after suiteDue (late ++ [.turn .replied])) ∧
      (after suiteDue late).turn.isCompleted "main_sub_1" = false ∧
      (after suiteDue (late ++ [.turn .replied])).turn.isCompleted "main_sub_1" = true ∧
      (after suiteDue late).passed = false) ∧
    contract.Reachable Machine.anyStep (after suiteDue reports) ∧
      (after suiteDue reports).step textBuiltins "main_sub_1" .report =
        some (after suiteDue (reports ++ [.report])) ∧
      (after suiteDue reports).turn.isCompleted "main_sub_1" = false ∧
      (after suiteDue (reports ++ [.report])).turn.isCompleted "main_sub_1" = true ∧
      (after suiteDue reports).passed = false := by
  intro contract late
  have replied : contract.replay Machine.anyStep suiteDue late = some (after suiteDue late) := rfl
  have reported : contract.replay Machine.anyStep suiteDue reports =
      some (after suiteDue reports) := rfl
  exact ⟨⟨.of_replay suiteDue_initial replied, rfl, by decide, by decide, rfl⟩,
    .of_replay suiteDue_initial reported, rfl, by decide, by decide, rfl⟩

end ContractWorld

end FairyClaw
