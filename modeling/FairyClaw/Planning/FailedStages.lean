import FairyClaw.Hooks.StageFold
import FairyClaw.Planning.StagedTurn

/-! # Stages that fail

A stage of hooks tells in its status that a hook with the policy `fail` has raised. The planner goes
on with the payload that the stage hands on, whatever the status. So it takes the step that the
stage guards exactly when it would without the failure (`FairyClaw.StagedTurn.stage_semantics_iff`).
-/

namespace FairyClaw

open Foundation Fallible

/-- A hook with the policy `fail` raises. -/
def StageFails {Payload : Type} (hooks : StageHooks Payload) (payload : Payload)
    (world : HookWorld) : Prop :=
  (untilFailure hooks (payload, world)).2.isSome = true

namespace StagedTurn

variable (turn : StagedTurn)

/-! ## The call of the model -/

/-- The stage `tools_prepared` of a turn -/
def toolsPreparedStage (world : HookWorld) :
    HookStageOutput ToolsPreparedHookPayload × HookWorld :=
  runHooks (turn.toolsPreparedHooks turn.resolvedGroups) turn.toolsPreparedPayload world

/-- The payload that the stage hands on. -/
def toolsPrepared (world : HookWorld) : ToolsPreparedHookPayload :=
  (turn.toolsPreparedStage world).1.handedOn turn.toolsPreparedPayload

/-- What the turn makes of its history, between the two stages. -/
def Builds (built : List LlmChatMessage × List ChatHistoryItem × Option UserTurn) : Prop :=
  turn.skips = false ∧ ∃ history, turn.opening = .ok history ∧ turn.build history = .ok built

section Built

variable (built : List LlmChatMessage × List ChatHistoryItem × Option UserTurn)

/-- The payload that the stage `before_llm_call` begins with -/
def llmCallPayload (world : HookWorld) : BeforeLlmCallHookPayload :=
  turn.beforeLlmCallPayload (turn.toolsPrepared world).tools built

/-- The hooks of the stage `before_llm_call` -/
def llmCallHooks (world : HookWorld) : StageHooks BeforeLlmCallHookPayload :=
  turn.beforeLlmCallHooks (turn.toolsPrepared world).enabledGroups

/-- The stage `before_llm_call` of a turn -/
def beforeLlmCallStage (world : HookWorld) :
    HookStageOutput BeforeLlmCallHookPayload × HookWorld :=
  runHooks (turn.llmCallHooks world) (turn.llmCallPayload built world)
    (turn.toolsPreparedStage world).2

/-- The payload that the stage hands on. -/
def beforeLlmCall (world : HookWorld) : BeforeLlmCallHookPayload :=
  (turn.beforeLlmCallStage built world).1.handedOn (turn.llmCallPayload built world)

end Built

/-- A stage before the call of the model fails. -/
def FailsBeforeLlmCall (world : HookWorld) : Prop :=
  StageFails (turn.toolsPreparedHooks turn.resolvedGroups) turn.toolsPreparedPayload world ∨
    ∃ built, turn.Builds built ∧ StageFails (turn.llmCallHooks world)
      (turn.llmCallPayload built world) (turn.toolsPreparedStage world).2

/-- What `before_llm_call` hands on, once the messages are built. -/
theorem prepareCall_ok {world : HookWorld} {answer : List String × BeforeLlmCallHookPayload} :
    (exec turn.prepareCall { world := world }).1 = .ok answer ↔
      ∃ history built, turn.opening = .ok history ∧ turn.build history = .ok built ∧
        answer = ((turn.toolsPrepared world).enabledGroups, turn.beforeLlmCall built world) := by
  unfold prepareCall
  cases opened : turn.opening with
  | error error =>
      rw [exec_bind_error (exec_ofExcept _ _)]
      simp only [reduceCtorEq, false_and, exists_const]
  | ok history =>
      rw [exec_bind_ok (exec_ofExcept _ _), exec_bind_ok (exec_askHooks _ _ _)]
      cases made : turn.build history with
      | error error =>
          rw [exec_bind_error (exec_ofExcept _ _)]
          refine iff_of_false nofun ?_
          rintro ⟨other, built, same, builds, _⟩
          cases same
          cases made.symm.trans builds
      | ok built =>
          rw [exec_bind_ok (exec_ofExcept _ _), exec_bind_ok (exec_askHooks _ _ _)]
          constructor
          · exact fun same => ⟨history, built, rfl, made, (Except.ok.inj same).symm⟩
          · rintro ⟨other, again, same, builds, rfl⟩
            cases same
            cases made.symm.trans builds
            rfl

/-- The consultation begins with a call of the model. -/
theorem asked_consultModel (groups : List String) (payload : BeforeLlmCallHookPayload)
    (state : StagedState) {acts : PreparedTurnResult → StagedM PUnit}
    (appends : ∀ prepared, Appends (acts prepared)) :
    .asked ∈ (exec (turn.consultModel groups payload >>= acts) state).2.records := by
  have asks : state.records ++ [.asked] <+:
      (exec (turn.chatWithTools payload.turn.llmMessages payload.tools) state).2.records := by
    refine Appends.after (fun _ => ?_) (List.prefix_refl _)
    exact (appends_ofExcept _).bind fun _ => (appends_note _).bind fun _ => appends_pure _
  have consults : state.records ++ [.asked] <+:
      (exec (turn.consultModel groups payload) state).2.records := by
    refine Appends.after (fun first => ?_) asks
    exact (turn.appends_repairIfNeeded _ _ first).bind fun response =>
      turn.appends_concludeResponse groups response
  have kept := Appends.after appends consults
  exact kept.subset (List.mem_append_right _ (List.mem_singleton_self _))

/-- A turn that begins calls the model when it is prepared without a forced finish. -/
theorem asked_runTurn (begins : turn.skips = false) (world : HookWorld) :
    .asked ∈ turn.runTurn world ↔ ∃ answer,
      (exec turn.prepareCall { world := world }).1 = .ok answer ∧ answer.2.forceFinish = false := by
  obtain ⟨ending, same, failed⟩ := turn.runTurn_eq begins world
  have silent : .asked ∉ ending := by
    intro atEnd
    obtain ⟨error, other⟩ := failed _ atEnd
    cases other
  have quiet := turn.keeps_prepareCall { world := world }
  rw [same, List.mem_append, or_iff_left silent, prepareTurn, bind_assoc]
  cases prepared : exec turn.prepareCall { world := world } with
  | mk outcome after =>
      rw [prepared] at quiet
      change after.records = [] at quiet
      cases outcome with
      | error error =>
          rw [exec_bind_error prepared, quiet]
          refine iff_of_false List.not_mem_nil ?_
          rintro ⟨answer, made, _⟩
          cases made
      | ok answer =>
          obtain ⟨groups, payload⟩ := answer
          rw [exec_bind_ok prepared]
          simp only [Except.ok.injEq, exists_eq_left']
          cases payload.forceFinish with
          | true =>
              refine iff_of_false ?_ Bool.true_eq_false.mp
              change .asked ∉ after.records ++ [.forceFinished _ _ _]
              simp only [quiet, List.nil_append, List.mem_singleton, reduceCtorEq,
                not_false_eq_true]
          | false =>
              have asks := turn.asked_consultModel groups payload after turn.appends_actOn
              exact iff_of_true asks rfl

/-- The model is called when the history and the messages are there and the payload of
`before_llm_call` does not force a finish. -/
theorem asked_iff (world : HookWorld) : .asked ∈ turn.runTurn world ↔
    ∃ built, turn.Builds built ∧ (turn.beforeLlmCall built world).forceFinish = false := by
  cases begins : turn.skips with
  | true =>
      have none_built {built} : ¬ turn.Builds built :=
        fun builds => Bool.false_ne_true (builds.1.symm.trans begins)
      simp only [runTurn, runTurnWithPolicy, begins, ↓reduceIte, exec_pure, List.not_mem_nil,
        none_built, false_and, exists_false]
  | false =>
      rw [turn.asked_runTurn begins]
      constructor
      · rintro ⟨answer, prepared, goesOn⟩
        obtain ⟨history, built, opened, made, rfl⟩ := turn.prepareCall_ok.mp prepared
        exact ⟨built, ⟨begins, history, opened, made⟩, goesOn⟩
      · rintro ⟨built, ⟨_, history, opened, made⟩, goesOn⟩
        exact ⟨_, turn.prepareCall_ok.mpr ⟨history, built, opened, made, rfl⟩, goesOn⟩

/-! ## The execution of a call -/

/-- The stage before a call fails. -/
def FailsBeforeToolCall (groups : List String) (index : Nat) (call : LlmToolCallRequest)
    (world : HookWorld) : Prop :=
  StageFails (turn.beforeToolCallHooks groups index) (turn.beforeToolCallPayload groups index call)
    world

/-- A call is executed unless the hooks before it force a finish or its push raises. -/
theorem executed_iff (groups : List String) (index : Nat) (call : LlmToolCallRequest)
    (rest : List LlmToolCallRequest) (usage : TokenUsage) (called : List String)
    (state : StagedState) :
    (∃ request, .executed request ∈
        added (turn.processToolCalls groups index (call :: rest) usage called) state) ↔
      (turn.beforeToolCall groups index call state.world).forceFinish = false ∧
        turn.PushesCall index := by
  cases forced : (turn.beforeToolCall groups index call state.world).forceFinish with
  | true =>
      have ended :=
        turn.exec_processToolCalls_forced groups index call rest usage called state forced
      refine iff_of_false ?_ fun goesOn => Bool.true_eq_false.mp goesOn.1
      rintro ⟨request, member⟩
      rw [added_eq (congrArg StagedState.records ended), List.mem_singleton] at member
      cases member
  | false =>
      let request := (turn.beforeToolCall groups index call state.world).request
      let begun : StagedState :=
        { state with world := (turn.beforeToolCallStage groups index call state.world).2 }
      rw [and_iff_right rfl, added,
        turn.exec_processToolCalls_cons groups index call rest usage called state forced]
      rcases turn.exec_emitToolCall index request begun with
        ⟨pushes, pushed⟩ | ⟨error, fails, raised⟩
      · obtain ⟨later, grown⟩ :=
          turn.executed_afterHooks groups index request rest usage called begun pushed
        refine iff_of_true ⟨request, ?_⟩ pushes
        rw [← grown, List.append_assoc, List.append_assoc, List.drop_left]
        exact List.mem_append_right _ (List.mem_append_left _ (List.mem_singleton_self _))
      · refine iff_of_false ?_ fails
        rintro ⟨other, member⟩
        rw [turn.exec_afterHooks_raised groups index request rest usage called begun raised,
          List.drop_length] at member
        exact List.not_mem_nil member

/-- **Stages and what they guard.** A stage hands on the fold of its hooks up to the first failure.
A failure keeps the planner from the step that the stage guards exactly when the payload that the
planner goes on with forces a finish, or the step is out of reach anyway: there are no messages to
send, or the push of the call raises. -/
theorem stage_semantics_iff {Payload : Type} (hooks : StageHooks Payload) (payload : Payload)
    (turn : StagedTurn) (world : HookWorld) (groups : List String) (index : Nat)
    (call : LlmToolCallRequest) (rest : List LlmToolCallRequest) (usage : TokenUsage)
    (called : List String) (state : StagedState) :
    ((runStage hooks payload world).1 =
        { status := if (untilFailure hooks (payload, world)).2.isSome then .error else .ok
          patchedPayload :=
            some ((untilFailure hooks (payload, world)).1.foldl applyHook (payload, world)).1
          error := (untilFailure hooks (payload, world)).2.map Prod.snd } ∧
      (turn.FailsBeforeLlmCall world → .asked ∉ turn.runTurn world) ∧
      (turn.FailsBeforeToolCall groups index call state.world → ∀ request, .executed request ∉
        added (turn.processToolCalls groups index (call :: rest) usage called) state)) ↔
    (turn.FailsBeforeLlmCall world → ∀ built, turn.Builds built →
      (turn.beforeLlmCall built world).forceFinish = true) ∧
    (turn.FailsBeforeToolCall groups index call state.world → turn.PushesCall index →
      (turn.beforeToolCall groups index call state.world).forceFinish = true) := by
  rw [and_iff_right (runStage_eq hooks payload world)]
  refine and_congr (imp_congr_right fun _ => ?_) (imp_congr_right fun _ => ?_)
  · rw [turn.asked_iff]
    simp only [not_exists, not_and, Bool.not_eq_false]
  · rw [← not_exists, turn.executed_iff, not_and, imp_not_comm, Bool.not_eq_false]

/-- A guard that must not fail, and does. -/
def brokenGuard {Payload : Type} : StageHooks Payload :=
  [({ name := "guard", priority := 50, onError := .fail }, fun _ => throw (.other "timeout"))]

/-- A turn whose stages all have the guard, in which the model calls one tool. -/
def guardedTurn : StagedTurn where
  sessionId := "s1"
  taskType := "general"
  isSubSession := false
  hasMemory := true
  hasGateway := true
  resolvedGroups := ["CoreOperations"]
  toolSpecs := []
  tokenBudget := none
  opening := .ok []
  build := fun history => .ok ([], history, none)
  toolsPreparedHooks := fun _ => brokenGuard
  beforeLlmCallHooks := fun _ => brokenGuard
  afterLlmResponseHooks := fun _ => brokenGuard
  beforeToolCallHooks := fun _ _ => brokenGuard
  afterToolCallHooks := fun _ _ => brokenGuard
  chat := fun _ _ => .ok { text := "", toolCalls := [⟨"1", "run_command", "\x7b\x7d"⟩] }
  loads := fun _ => true
  tool := fun _ _ world => (.ok (some "done"), world)
  recordEvent := fun _ => true
  raises := fun _ => none

/-- The guards fail, and the model is called and the tool executed all the same. -/
theorem guards_fail_open :
    (guardedTurn.FailsBeforeLlmCall {} ∧ .asked ∈ guardedTurn.runTurn {}) ∧
      guardedTurn.FailsBeforeToolCall ["CoreOperations"] 0 ⟨"1", "run_command", "\x7b\x7d"⟩ {} ∧
      ∃ request, .executed request ∈ added
        (guardedTurn.processToolCalls ["CoreOperations"] 0 [⟨"1", "run_command", "\x7b\x7d"⟩] {} [])
        {} := by
  refine ⟨⟨Or.inl rfl, ?_⟩, rfl, ?_⟩
  · exact (guardedTurn.asked_iff {}).mpr ⟨([], [], none), ⟨rfl, [], rfl, rfl⟩, rfl⟩
  · exact (guardedTurn.executed_iff _ _ _ _ _ _ _).mpr ⟨rfl, fun _ _ => rfl⟩

end StagedTurn

end FairyClaw
