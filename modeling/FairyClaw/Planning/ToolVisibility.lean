import FairyClaw.Foundation.Maintained
import FairyClaw.Planning.Capabilities

/-! # Tools of the resolved groups

The tools of a turn are limited where their specifications are built, and not where they are
executed. So a turn runs executors of its resolved groups only, whatever the hooks, the tools and
the connection do, exactly when every call that the model makes, and every tool that a hook may
substitute, leads to such an executor (`FairyClaw.TurnSetting.tools_enforced_iff`).
-/

namespace FairyClaw

open Foundation Fallible

/-- An event that is no call of a tool. -/
def CourseEvent.Silent (event : CourseEvent) : Prop := event.request = none

/-- The call leads to no executor, or to one of the groups. -/
def ToolRuntime.Permitted (runtime : ToolRuntime) (groups : List String)
    (request : LlmToolCallRequest) : Prop :=
  ∀ executor, runtime.locate request = .ok executor → executor.group ∈ groups

/-- All calls of the turn so far are permitted. -/
def TurnCourse.Within (runtime : ToolRuntime) (groups : List String) (course : TurnCourse) : Prop :=
  ∀ request ∈ course.requests, runtime.Permitted groups request

/-- What a turn with these resolved groups and these tool calls meets: hooks that leave a call as it
is or substitute a visible tool, and tools that are executed by the runtime. Hooks and tools call no
tools beside it. -/
structure TurnSetting.Serves (setting : TurnSetting) (runtime : ToolRuntime) (kind : SessionKind)
    (groups : List String) (calls : List LlmToolCallRequest) : Prop where
  kind : setting.kind = kind
  prepares : ∀ course, (∀ event ∈ (setting.prepare course).1, event.Silent) ∧
    ∀ prepared, (setting.prepare course).2 = .ok prepared →
      prepared.resolvedGroups = groups ∧ prepared.toolCalls = calls
  before : ∀ course, ∀ call ∈ calls, ∀ index,
    (∀ event ∈ (setting.beforeTool course call index).effects, event.Silent) ∧
    ((setting.beforeTool course call index).request = call ∨
      (setting.beforeTool course call index).request.name ∈ runtime.registry.visibleTools groups)
  tool : ∃ runs, setting.tool = runtime.tool runs ∧ ∀ executor course request event,
    .effect event ∈ (runs executor course request).steps → event.Silent
  after : ∀ course request index result success,
    ∀ event ∈ (setting.afterTool course request index result success).effects, event.Silent

namespace TurnCourse

variable {runtime : ToolRuntime} {groups : List String} {course : TurnCourse}

theorem requests_record (course : TurnCourse) {events : List CourseEvent}
    (silent : ∀ event ∈ events, event.Silent) :
    (course.record events).requests = course.requests := by
  rw [requests, record, List.filterMap_append, List.filterMap_eq_nil_iff.mpr silent,
    List.append_nil, requests]

theorem requests_executed (course : TurnCourse) (request : LlmToolCallRequest) :
    (course.record [.executed request]).requests = course.requests ++ [request] := by
  rw [requests, record, List.filterMap_append, requests]
  rfl

theorem requests_publishSubtaskBarrierIfReady (course : TurnCourse) :
    course.publishSubtaskBarrierIfReady.requests = course.requests := by
  unfold publishSubtaskBarrierIfReady
  split
  · rfl
  · exact course.requests_record fun event member => List.mem_singleton.mp member ▸ rfl

theorem requests_markSubtaskIfNonTerminal (course : TurnCourse) (task status summary : String) :
    (course.markSubtaskIfNonTerminal task status summary).requests = course.requests := by
  unfold markSubtaskIfNonTerminal
  split <;> rfl

theorem requests_notifyMainSessionSubtaskFailure (course : TurnCourse) (task summary : String) :
    (course.notifyMainSessionSubtaskFailure task summary).requests = course.requests := by
  unfold notifyMainSessionSubtaskFailure
  split
  · rfl
  · exact course.requests_record fun event member => List.mem_singleton.mp member ▸ rfl

theorem requests_handleFailure (course : TurnCourse) (task exc : String) :
    (course.handleFailure task exc).requests = course.requests := by
  unfold handleFailure
  rw [requests_publishSubtaskBarrierIfReady]
  split
  · rw [requests_notifyMainSessionSubtaskFailure, requests_markSubtaskIfNonTerminal]
  · rw [requests_markSubtaskIfNonTerminal]

theorem Within.of_requests {next : TurnCourse} (within : course.Within runtime groups)
    (same : next.requests = course.requests) : next.Within runtime groups := by
  rw [Within, same]
  exact within

end TurnCourse

namespace TurnSetting

variable {setting : TurnSetting} {runtime : ToolRuntime} {kind : SessionKind}
  {groups : List String} {calls : List LlmToolCallRequest} {faults : Faults PushSite String}

/-- The invariant of the turn. -/
abbrev Guarded (runtime : ToolRuntime) (groups : List String) {Value : Type}
    (action : TurnM Value) : Prop :=
  Upholds (fun start => start.state.Within runtime groups) action

theorem guarded_log {events : List CourseEvent} (silent : ∀ event ∈ events, event.Silent) :
    Guarded runtime groups (log events) :=
  upholds_update fun course within => within.of_requests (course.requests_record silent)

theorem guarded_event {event : CourseEvent} (silent : event.Silent) :
    Guarded runtime groups (log [event]) :=
  guarded_log fun _ member => List.mem_singleton.mp member ▸ silent

theorem guarded_emitAssistantText (site : PushSite) (text : String) :
    Guarded runtime groups (emitAssistantText faults site text) :=
  .ite (upholds_pure _) (upholds_attempt faults site)

theorem guarded_handleTextFallback (content : String) :
    Guarded runtime groups (setting.handleTextFallback faults content) :=
  .ite ((guarded_event (by rfl)).bind fun _ => guarded_emitAssistantText _ _) (upholds_pure _)

theorem guarded_handlePreface (messageText : Option String) :
    Guarded runtime groups (setting.handlePreface faults messageText) := by
  unfold handlePreface
  split
  · exact upholds_pure _
  · exact .ite ((guarded_event (by rfl)).bind fun _ => guarded_emitAssistantText _ _) (upholds_pure _)

theorem guarded_runToolSteps (index : Nat) : ∀ (step : Nat) (steps : List ToolStep),
    (∀ event, .effect event ∈ steps → event.Silent) →
      Guarded runtime groups (runToolSteps faults index step steps)
  | _, [], _ => upholds_pure _
  | _, .effect event :: rest, silent =>
      (guarded_event (silent event List.mem_cons_self)).bind fun _ =>
        guarded_runToolSteps index _ rest fun other member =>
          silent other (List.mem_cons_of_mem _ member)
  | _, .change _ :: rest, silent =>
      (upholds_update fun _ within => within.of_requests rfl).bind fun _ =>
        guarded_runToolSteps index _ rest fun other member =>
          silent other (List.mem_cons_of_mem _ member)
  | _, .push :: rest, silent =>
      (upholds_attempt faults _).bind fun _ =>
        guarded_runToolSteps index _ rest fun other member =>
          silent other (List.mem_cons_of_mem _ member)

/-- A tool whose run is silent. -/
theorem silent_tool (serves : setting.Serves runtime kind groups calls) (course : TurnCourse)
    (request : LlmToolCallRequest) (event : CourseEvent)
    (member : .effect event ∈ (setting.tool course request).steps) : event.Silent := by
  obtain ⟨runs, same, silent⟩ := serves.tool
  rw [same, ToolRuntime.tool] at member
  split at member
  · exact silent _ course request event member
  · cases member

theorem guarded_executeTool (serves : setting.Serves runtime kind groups calls) (index : Nat)
    {request : LlmToolCallRequest} (permitted : runtime.Permitted groups request) :
    Guarded runtime groups (setting.executeTool faults index request) := by
  refine Upholds.bind (upholds_update fun course within => ?_) fun _ =>
    upholds_current.bind fun course => ?_
  · intro other member
    rw [TurnCourse.requests_executed] at member
    rcases List.mem_append.mp member with earlier | last
    · exact within other earlier
    · exact List.mem_singleton.mp last ▸ permitted
  · unfold outcomeOf
    cases (setting.tool course request).refusal with
    | some exc => exact upholds_pure _
    | none =>
        refine Upholds.bind (.recover ?_ fun _ => upholds_pure _) fun _ => upholds_pure _
        refine (guarded_runToolSteps index 0 _ (silent_tool serves course request)).bind fun _ => ?_
        exact maintains_ofExcept fun _ _ => trivial

theorem guarded_runCall (serves : setting.Serves runtime kind groups calls) (index : Nat)
    {request : LlmToolCallRequest} (permitted : runtime.Permitted groups request) :
    Guarded runtime groups (setting.runCall faults index request) := by
  refine Upholds.bind (.ite (upholds_attempt faults _) (upholds_pure _)) fun _ => ?_
  refine (guarded_executeTool serves index permitted).bind fun outcome => ?_
  refine Upholds.bind (.ite ?_ (upholds_pure _)) fun _ => upholds_current.bind fun course => ?_
  · exact (guarded_event (by rfl)).bind fun _ => upholds_attempt faults _
  · exact (guarded_log (serves.after course request index _ _)).bind fun _ => upholds_pure _

theorem guarded_finishBatch (called : List String) (directive : ForceFinishDirective) :
    Guarded runtime groups (finishBatch called directive) :=
  (guarded_event (by rfl)).bind fun _ => upholds_pure _

/-- The calls that the model may make, and the tools that a hook may substitute, are permitted. -/
def Allowed (runtime : ToolRuntime) (groups : List String) (calls : List LlmToolCallRequest) : Prop :=
  ∀ request, request ∈ calls ∨ request.name ∈ runtime.registry.visibleTools groups →
    runtime.Permitted groups request

/-- The loop of tool calls, by the calls that are left. -/
theorem guarded_processCalls (serves : setting.Serves runtime kind groups calls)
    (allowed : Allowed runtime groups calls) : ∀ (rest : List LlmToolCallRequest) (index : Nat)
    (called : List String), (∀ call ∈ rest, call ∈ calls) →
      Guarded runtime groups (setting.processCalls faults index rest called)
  | [], _, _, _ => upholds_pure _
  | call :: rest, index, called, listed => by
      have own := listed call List.mem_cons_self
      refine upholds_current.bind fun course => ?_
      obtain ⟨silent, chosen⟩ := serves.before course call own index
      refine (guarded_log silent).bind fun _ => ?_
      split
      · exact guarded_finishBatch called _
      · have permitted : runtime.Permitted groups (setting.beforeTool course call index).request := by
          rcases chosen with same | visible
          · rw [same]
            exact allowed call (Or.inl own)
          · exact allowed _ (Or.inr visible)
        refine (guarded_runCall serves index permitted).bind fun after => ?_
        split
        · exact guarded_finishBatch _ _
        · exact guarded_processCalls serves allowed rest _ _ fun other member =>
            listed other (List.mem_cons_of_mem _ member)

theorem guarded_handleTextResponse (messageText : Option String) :
    Guarded runtime groups (setting.handleTextResponse faults messageText) := by
  unfold handleTextResponse
  refine .ite (upholds_pure _) ((guarded_handleTextFallback _).bind fun _ => ?_)
  split
  · exact upholds_pure _
  · refine upholds_update fun course within => within.of_requests ?_
    rw [TurnCourse.requests_publishSubtaskBarrierIfReady,
      TurnCourse.requests_markSubtaskIfNonTerminal]

theorem guarded_endBatch (prepared : PreparedTurn) (result : ToolBatchExecutionResult) :
    Guarded runtime groups (setting.endBatch prepared result) := by
  unfold endBatch
  split
  · exact upholds_pure _
  · refine upholds_current.bind fun course => ?_
    split
    · exact .ite (upholds_pure _) (guarded_event (by rfl))
    · refine .ite (upholds_update fun before within => within.of_requests ?_)
        (.ite (upholds_pure _) (guarded_event (by rfl)))
      exact before.requests_publishSubtaskBarrierIfReady

theorem guarded_actOn (serves : setting.Serves runtime kind groups calls)
    (allowed : calls = [] ∨ Allowed runtime groups calls) {prepared : PreparedTurn}
    (same : prepared.toolCalls = calls) :
    Guarded runtime groups (setting.actOn faults prepared) := by
  unfold actOn
  split
  · exact .ite (upholds_pure _) (guarded_handleTextFallback _)
  · split
    · exact guarded_handleTextResponse _
    · rename_i some_calls
      have allowed := allowed.resolve_left (same ▸ some_calls)
      refine (guarded_handlePreface _).bind fun _ => ?_
      rw [same]
      exact (guarded_processCalls serves allowed calls 0 [] fun _ => id).bind fun result =>
        guarded_endBatch prepared result

theorem guarded_runTurnWithPolicy (serves : setting.Serves runtime kind groups calls)
    (allowed : calls = [] ∨ Allowed runtime groups calls) :
    Guarded runtime groups (setting.runTurnWithPolicy faults) := by
  refine upholds_current.bind fun course => .ite (upholds_pure _) (.recover ?_ fun exc => ?_)
  · refine Maintains.bind ?_ fun prepared (same : prepared.toolCalls = calls) =>
      guarded_actOn serves allowed same
    refine upholds_current.bind fun start => (guarded_log (serves.prepares start).1).bind fun _ => ?_
    exact maintains_ofExcept fun prepared result => ((serves.prepares start).2 prepared result).2
  · unfold handleFailure
    split
    · exact upholds_pure _
    · exact upholds_update fun before within =>
        within.of_requests (before.requests_handleFailure _ exc)

/-! ## A turn in which nothing intervenes -/

/-- A turn of a session that is not persisted: hooks may substitute the calls, and do nothing else,
and every tool returns at once. -/
def undisturbed (runtime : ToolRuntime) (kind : SessionKind) (groups : List String)
    (calls : List LlmToolCallRequest) (substitute : LlmToolCallRequest → LlmToolCallRequest) :
    TurnSetting where
  kind := kind
  hasMemory := false
  sendError := ""
  prepare _ := ([], .ok
    { taskType := "general"
      resolvedGroups := groups
      toolCalls := calls
      messageText := none
      forceFinish := none })
  beforeTool _ call _ := { effects := [], request := substitute call, forceFinish := none }
  tool := runtime.tool fun _ _ _ => { steps := [], result := .ok "" }
  recordEvent _ := false
  afterTool _ _ _ _ _ := { effects := [], forceFinish := none }

variable {substitute : LlmToolCallRequest → LlmToolCallRequest}

theorem undisturbed_serves (substitutes : ∀ call ∈ calls, substitute call = call ∨
    (substitute call).name ∈ runtime.registry.visibleTools groups) :
    (undisturbed runtime kind groups calls substitute).Serves runtime kind groups calls where
  kind := rfl
  prepares course := by
    refine ⟨fun event member => (nomatch member), fun prepared result => ?_⟩
    cases result
    exact ⟨rfl, rfl⟩
  before course call own index :=
    ⟨fun event member => (nomatch member), substitutes call own⟩
  tool := ⟨_, rfl, fun _ _ _ event member => nomatch member⟩
  after course request index result success event member := nomatch member

/-- A tool of the undisturbed turn starts, and returns at once. -/
theorem undisturbed_tool (course : TurnCourse) (request : LlmToolCallRequest) :
    ∃ text, (undisturbed runtime kind groups calls substitute).tool course request =
      { steps := [], result := .ok text } := by
  simp only [undisturbed, ToolRuntime.tool]
  split
  · exact ⟨"", rfl⟩
  · exact ⟨_, rfl⟩

/-- The computation returns, and hands these calls to the runtime. -/
def Hands {Value : Type} (requests : List LlmToolCallRequest) (post : Value → Prop)
    (action : TurnM Value) : Prop :=
  ∀ start, ∃ value after, exec action start = (.ok value, after) ∧ post value ∧
    after.state.requests = start.state.requests ++ requests

section Hands

variable {Value Result : Type} {post : Value → Prop} {final : Result → Prop}

theorem hands_pure {value : Value} (holds : post value) : Hands [] post (pure value : TurnM Value) :=
  fun start => ⟨value, start, rfl, holds, (List.append_nil _).symm⟩

theorem Hands.bind (first second : List LlmToolCallRequest) {action : TurnM Value} {next : Value → TurnM Result}
    (begins : Hands first post action) (goesOn : ∀ value, post value → Hands second final (next value)) :
    Hands (first ++ second) final (action >>= next) := by
  intro start
  obtain ⟨value, middle, done, holds, handed⟩ := begins start
  obtain ⟨result, after, finished, holds', handed'⟩ := goesOn value holds middle
  refine ⟨result, after, ?_, holds', ?_⟩
  · rw [exec_bind_ok done, finished]
  · rw [handed', handed, List.append_assoc]

theorem hands_current : Hands [] (fun _ => True) (current : TurnM TurnCourse) :=
  fun start => ⟨start.state, start, rfl, trivial, (List.append_nil _).symm⟩

theorem hands_log {events : List CourseEvent} (silent : ∀ event ∈ events, event.Silent) :
    Hands [] (fun _ => True) (log events) :=
  fun start => ⟨⟨⟩, _, rfl, trivial, (start.state.requests_record silent).trans
    (List.append_nil _).symm⟩

theorem hands_executed (request : LlmToolCallRequest) :
    Hands [request] (fun _ => True) (log [.executed request]) :=
  fun start => ⟨⟨⟩, _, rfl, trivial, start.state.requests_executed request⟩

theorem Hands.ite {requests : List LlmToolCallRequest} {condition : Prop} [Decidable condition]
    {first second : TurnM Value} (yes : Hands requests post first)
    (no : Hands requests post second) :
    Hands requests post (if condition then first else second) := by
  split
  · exact yes
  · exact no

theorem Hands.recover {requests : List LlmToolCallRequest} {action : TurnM Value}
    (returns : Hands requests post action) (handler : String → TurnM Value) :
    Hands requests post (recover action handler) := by
  intro start
  obtain ⟨value, after, done, kept⟩ := returns start
  refine ⟨value, after, ?_, kept⟩
  rw [exec_recover, done]

end Hands

theorem hands_done : Hands [] (fun _ => True) (pure ⟨⟩ : TurnM PUnit) :=
  hands_pure trivial

theorem hands_executeTool (index : Nat) (request : LlmToolCallRequest) :
    Hands [request] (fun _ => True)
      ((undisturbed runtime kind groups calls substitute).executeTool faults index request) := by
  refine Hands.bind [request] [] (hands_executed request) fun _ _ => ?_
  refine Hands.bind [] [] hands_current fun course _ => ?_
  obtain ⟨text, run⟩ := @undisturbed_tool runtime kind groups calls substitute course request
  simp only [run, outcomeOf, runTool, runToolSteps]
  have returned : Hands [] (fun _ => True) (ofExcept (.ok text) : TurnM String) :=
    hands_pure trivial
  exact Hands.bind [] [] (.recover (Hands.bind [] [] hands_done fun _ _ => returned) _)
    fun _ _ => hands_pure trivial

theorem hands_runCall (index : Nat) (request : LlmToolCallRequest) :
    Hands [request] (fun answer => answer.forceFinish = none)
      ((undisturbed runtime kind groups calls substitute).runCall faults index request) := by
  refine Hands.bind [] [request] hands_done fun _ _ => ?_
  refine Hands.bind [request] [] (hands_executeTool index request) fun outcome _ => ?_
  refine Hands.bind [] [] hands_done fun _ _ => Hands.bind [] [] hands_current fun _ _ => ?_
  exact Hands.bind [] [] (hands_log (List.forall_mem_nil _)) fun _ _ => hands_pure rfl

/-- Every call is handed to the runtime, as the hooks substitute it. -/
theorem hands_processCalls : ∀ (rest : List LlmToolCallRequest) (index : Nat)
    (called : List String), Hands (rest.map substitute) (fun result => result.forceFinish = none)
      ((undisturbed runtime kind groups calls substitute).processCalls faults index rest called)
  | [], _, _ => hands_pure rfl
  | call :: rest, index, called => by
      refine Hands.bind [] _ hands_current fun course _ => ?_
      refine Hands.bind [] _ (hands_log (List.forall_mem_nil _)) fun _ _ => ?_
      refine Hands.bind [substitute call] (rest.map substitute)
        (hands_runCall index (substitute call)) fun after none => ?_
      simp only [none]
      exact hands_processCalls rest (index + 1) _

/-- The groups of the follow-up are those of the turn. -/
theorem hands_handleToolFollowUp (prepared : PreparedTurn) (called : List String) :
    Hands [] (fun _ => True)
      ((undisturbed runtime kind groups calls substitute).handleToolFollowUp prepared called) := by
  have followed : Hands [] (fun _ => True)
      (log [.followUp prepared.taskType prepared.resolvedGroups]) :=
    hands_log fun event member => List.mem_singleton.mp member ▸ rfl
  refine Hands.bind [] [] hands_current fun course _ => ?_
  split
  · exact .ite hands_done followed
  · refine .ite (fun start => ⟨⟨⟩, _, rfl, trivial, ?_⟩) (.ite hands_done followed)
    exact start.state.requests_publishSubtaskBarrierIfReady.trans (List.append_nil _).symm

theorem hands_actOn {prepared : PreparedTurn} (goesOn : prepared.forceFinish = none)
    (no_text : prepared.messageText = none) (some_calls : prepared.toolCalls ≠ []) :
    Hands (prepared.toolCalls.map substitute) (fun _ => True)
      ((undisturbed runtime kind groups calls substitute).actOn faults prepared) := by
  have no_preface : Hands [] (fun _ => True)
      ((undisturbed runtime kind groups calls substitute).handlePreface faults none) :=
    hands_pure trivial
  simp only [actOn, goesOn, if_neg some_calls, no_text]
  refine Hands.bind [] _ no_preface fun _ _ => ?_
  rw [← List.append_nil (prepared.toolCalls.map substitute)]
  refine Hands.bind _ [] (hands_processCalls prepared.toolCalls 0 []) fun result unfinished => ?_
  simp only [endBatch, unfinished]
  exact hands_handleToolFollowUp prepared result.calledTools

/-- A turn of a session whose task is not finished hands all calls to the runtime. -/
theorem hands_runTurn (some_calls : calls ≠ []) (links : PushSite → BridgeLink) :
    ((undisturbed runtime kind groups calls substitute).runTurn links
      { tasks := {} }).state.requests = calls.map substitute := by
  have prepares : Hands [] (fun prepared => prepared.forceFinish = none ∧
      prepared.messageText = none ∧ prepared.toolCalls = calls)
      (undisturbed runtime kind groups calls substitute).prepareTurn := by
    refine Hands.bind [] [] hands_current fun course _ => ?_
    exact Hands.bind [] [] (hands_log (List.forall_mem_nil _)) fun _ _ =>
      hands_pure ⟨rfl, rfl, rfl⟩
  have acts : Hands (calls.map substitute) (fun _ => True) (do
      let prepared ← (undisturbed runtime kind groups calls substitute).prepareTurn
      (undisturbed runtime kind groups calls substitute).actOn
        ((undisturbed runtime kind groups calls substitute).faults links) prepared) := by
    refine Hands.bind [] _ prepares fun prepared ready => ?_
    obtain ⟨goesOn, no_text, same⟩ := ready
    rw [← same] at some_calls ⊢
    exact hands_actOn goesOn no_text some_calls
  have running : ¬ (undisturbed runtime kind groups calls substitute).shouldSkip { tasks := {} } =
      true := by
    cases kind <;> exact Bool.false_ne_true
  obtain ⟨value, after, done, _, handed⟩ := acts.recover
    (undisturbed runtime kind groups calls substitute).handleFailure { state := { tasks := {} } }
  rw [runTurn, runTurnWithPolicy, exec_bind_ok (exec_current _), if_neg running, done]
  exact handed

/-- The groups that are enforced: exactly when no call leads elsewhere, a turn runs executors of
its resolved groups only. -/
theorem tools_enforced_iff (runtime : ToolRuntime) (kind : SessionKind)
    (selectedGroups : Option (List String)) (calls : List LlmToolCallRequest) :
    let groups := runtime.registry.resolveToolsForSession kind selectedGroups
    (∀ setting : TurnSetting, setting.Serves runtime kind groups calls →
      ∀ (links : PushSite → BridgeLink) (tasks : SessionSubTaskState),
        ∀ executor ∈ (setting.runTurn links { tasks := tasks }).state.executors runtime,
          executor.group ∈ groups) ↔
      calls = [] ∨ Allowed runtime groups calls := by
  intro groups
  constructor
  · intro enforced
    by_cases some_calls : calls = []
    · exact Or.inl some_calls
    refine Or.inr fun request asked executor located => ?_
    have handed : ∃ substitute : LlmToolCallRequest → LlmToolCallRequest,
        (∀ call ∈ calls, substitute call = call ∨
          (substitute call).name ∈ runtime.registry.visibleTools groups) ∧
        request ∈ calls.map substitute := by
      rcases asked with listed | visible
      · exact ⟨id, fun _ _ => Or.inl rfl, by rwa [List.map_id]⟩
      · obtain ⟨call, listed⟩ := List.exists_mem_of_ne_nil calls some_calls
        exact ⟨fun _ => request, fun _ _ => Or.inr visible, List.mem_map.mpr ⟨call, listed, rfl⟩⟩
    obtain ⟨substitute, substitutes, member⟩ := handed
    refine enforced _ (undisturbed_serves substitutes) (fun _ => .absent) {} executor ?_
    rw [TurnCourse.executors, hands_runTurn some_calls, List.mem_filterMap]
    exact ⟨request, member, by rw [located]; rfl⟩
  · intro allowed setting serves links tasks executor member
    obtain ⟨request, handed, located⟩ := List.mem_filterMap.mp member
    have within : (setting.runTurn links { tasks := tasks }).state.Within runtime groups :=
      (guarded_runTurnWithPolicy serves allowed { state := { tasks := tasks } }
        (List.forall_mem_nil _)).1
    refine within request handed executor ?_
    cases answer : runtime.locate request with
    | ok other =>
        rw [answer] at located
        cases located
        rfl
    | error text =>
        rw [answer] at located
        cases located

/-- A group of the main session, and one of its sub-sessions. -/
def plannerAndOperations : ToolRuntime where
  registry := .load
    [{ name := "AgentTools", alwaysEnablePlanner := true, tools := [{ name := "delegate_task" }] },
      { name := "CoreOperations", alwaysEnableSubagent := true,
        tools := [{ name := "run_command" }] }]
  loads _ := true

/-- A main session runs a tool that only its sub-sessions are shown. -/
theorem main_session_runs_command :
    let groups := plannerAndOperations.registry.resolveToolsForSession .main none
    let calls : List LlmToolCallRequest :=
      [{ callId := "1", name := "run_command", argumentsJson := "\x7b\x7d" }]
    let setting := undisturbed plannerAndOperations .main groups calls id
    setting.Serves plannerAndOperations .main groups calls ∧
      ⟨"run_command", "CoreOperations"⟩ ∈
        (setting.runTurn (fun _ => .absent) { tasks := {} }).state.executors
          plannerAndOperations ∧
      "CoreOperations" ∉ groups := by
  refine ⟨undisturbed_serves fun _ _ => Or.inl rfl, ?_, ?_⟩
  · rw [TurnCourse.executors, hands_runTurn (List.cons_ne_nil _ _)]
    decide +kernel
  · decide +kernel

end TurnSetting

end FairyClaw
