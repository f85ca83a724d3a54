import FairyClaw.Foundation.JsonText
import FairyClaw.Hooks.CodeRepair
import FairyClaw.Hooks.DeliverableContract
import FairyClaw.Session.GlobalState

/-! # Stages with a deliverable contract

The contract hooks come first in their stages. A hook that comes to its end lets a reply, or a
report that completes the task, pass only if the evaluation of the contract has passed; otherwise
it hands on a failed report or forces the turn to finish, and the hooks of other groups make no
new reply or report of it (`FairyClaw.Guards.stage`). A hook that raises or runs out of time lets
the reply or the report pass as it is.
-/

namespace FairyClaw

open Foundation Fallible DeliverableContract

/-- The rules under `done_when`, if they are valid. -/
def HookWorld.doneWhen (world : HookWorld) : List DoneRule :=
  match validateDoneWhen (world.storedMeta.get "done_when") with
  | .ok rules => rules
  | .error _ => []

/-- The failed rules that `evaluate_done_when` returns to a contract hook, if it returns. -/
def contractResult (env : HookEnv) (world : HookWorld) : Option (List Json) :=
  match env.readSession, parseDcState env (world.storedMeta.get "dc_state") with
  | none, .ok _ => (evaluateDoneWhen env world.doneWhen).toOption
  | _, _ => none

variable {env : HookEnv} {world after : HookWorld}

/-- What the hooks load is the rules and the state of the contract. -/
theorem exec_loadDoneWhenAndState (read : env.readSession = none) (world : HookWorld) :
    exec (loadDoneWhenAndState env) world =
      ((parseDcState env (world.storedMeta.get "dc_state")).map (Prod.mk world.doneWhen),
        world) := by
  have loaded := exec_loadSessionMeta env world
  rw [read] at loaded
  unfold loadDoneWhenAndState
  rw [exec_bind_ok loaded]
  cases parseDcState env (world.storedMeta.get "dc_state") <;> rfl

/-- The call stores a state behind the result, or raises without one. -/
theorem exec_checkContract (env : HookEnv) (contract : world.doneWhen ≠ []) :
    match contractResult env world with
    | none => ∃ error, exec (checkContract env) world = (.error error, world)
    | some failedRules => ∃ state, exec (checkContract env) world =
        exec (saveDcState env state >>= fun _ =>
          pure (if failedRules = [] then none else some state)) world := by
  unfold contractResult checkContract
  cases read : env.readSession with
  | some error =>
      have loaded := exec_loadSessionMeta env world
      rw [read] at loaded
      refine ⟨error, ?_⟩
      unfold loadDoneWhenAndState
      rw [exec_bind_error (exec_bind_error loaded _)]
  | none =>
      have loaded := exec_loadDoneWhenAndState read world
      cases parsed : parseDcState env (world.storedMeta.get "dc_state") with
      | error error =>
          rw [parsed] at loaded
          exact ⟨error, exec_bind_error loaded _⟩
      | ok state =>
          rw [parsed] at loaded
          simp only
          rw [exec_bind_ok loaded]
          simp only [List.isEmpty_iff, contract, ↓reduceIte]
          cases evaluated : evaluateDoneWhen env world.doneWhen with
          | error error => exact ⟨error, exec_bind_error (exec_ofExcept _ _) _⟩
          | ok failedRules =>
              simp only [Except.toOption]
              rw [exec_bind_ok (exec_ofExcept _ _)]
              cases failedRules with
              | nil => exact ⟨_, rfl⟩
              | cons rule rest => exact ⟨_, rfl⟩

/-- The verdict that goes with the result, behind the stored state. -/
theorem exec_verdictOf {Payload : Type} (env : HookEnv) (contract : world.doneWhen ≠ [])
    (payload : Payload) (report : String → Payload) :
    match contractResult env world with
    | none => ∃ error, exec (verdictOf env payload report) world = (.error error, world)
    | some failedRules => ∃ state, exec (verdictOf env payload report) world =
        exec (saveDcState env state >>= fun _ =>
          pure (if failedRules = [] then .done { status := .skip, patchedPayload := some payload }
            else onFailure env state report)) world := by
  have checked := exec_checkContract env contract
  unfold verdictOf
  cases result : contractResult env world with
  | none =>
      rw [result] at checked
      obtain ⟨error, raised⟩ := checked
      exact ⟨error, exec_bind_error raised _⟩
  | some failedRules =>
      rw [result] at checked
      obtain ⟨state, stored⟩ := checked
      refine ⟨state, ?_⟩
      simp only [exec_bind, stored]
      cases exec (saveDcState env state) world with
      | mk outcome after =>
          cases outcome with
          | error error => rfl
          | ok done => cases failedRules <;> rfl

/-- Saving the state keeps the rules. -/
theorem keeps_doneWhen_saveDcState (env : HookEnv) (state : DcState) :
    Keeps HookWorld.doneWhen (saveDcState env state) := by
  unfold saveDcState saveSessionKey
  split
  · exact keeps_throw _
  · intro world
    rw [exec_bind, exec_get]
    simp only
    split
    · rfl
    · split
      · rfl
      · rename_i stored row _ _
        rw [exec_modify]
        simp only [HookWorld.doneWhen, HookWorld.storedMeta, Option.bind_some, Json.asObj, row,
          Option.getD_some]
        rw [JsonObject.get_set_other _ _ (by decide)]

/-- Built-in conversions, and a `json.loads` that reads dictionaries of texts back. -/
structure Builtins where
  strOf : Json → String
  intOf : Json → Except PyError Int
  loads : String → Except String Json
  reads : ∀ fields : List (String × String), (fields.map Prod.fst).Nodup →
    loads (Json.dumps (Json.texts fields)) = .ok (Json.texts fields)

namespace Builtins

variable (builtins : Builtins)

/-- What a hook finds, with these conversions. -/
def within (env : HookEnv) : HookEnv :=
  { env with
    strOf := builtins.strOf
    intOf := builtins.intOf
    loads := builtins.loads
    dumps := Json.dumps }

/-- `str(value or default)` -/
def strOr (value : Option Json) (default : String) : String :=
  match value with
  | none => default
  | some (.str text) => orElse text default
  | some value => if value.truthy then builtins.strOf value else default

/-- The status that `report_subtask_done` marks the task with. -/
def reportStatus (args : JsonObject) : String :=
  lower (strip (builtins.strOr (args.get "status") "completed"))

/-- The summary that `report_subtask_done` marks the task with, if the report has one. -/
def reportPayload (args : JsonObject) : Option String :=
  let summary := strip (builtins.strOr (args.get "summary") "")
  let artifacts := ((args.get "artifacts").bind Json.asArr).getD []
  let artifactLines := artifacts.filterMap fun item => item.asStr.bind fun artifact =>
    if strip artifact = "" then none else some ("- " ++ strip artifact)
  let needsFollowup := (args.get "needs_followup").any Json.truthy
  if summary = "" then none
  else some (String.intercalate "\n" (summary ::
    (if artifactLines.isEmpty then [] else "Artifacts:" :: artifactLines) ++
      ["Needs follow-up: " ++ if needsFollowup then "yes" else "no"]))

/-- What `report_subtask_done` marks the task with. -/
def reportOf (argumentsJson : String) : Option (String × String) :=
  match builtins.loads argumentsJson with
  | .ok (.obj args) => (builtins.reportPayload args).map (Prod.mk (builtins.reportStatus args))
  | _ => none

/-- The report marks the task as completed. -/
def completes (argumentsJson : String) : Bool :=
  (builtins.reportOf argumentsJson).any fun report =>
    SessionSubTaskState.normalizedTerminal report.1 = "completed"

/-- The reports that the contract hooks make do not complete the task. -/
theorem completes_failed (env : HookEnv) (summary : String) :
    builtins.completes (makeReportDoneFailedArguments (builtins.within env) summary) = false := by
  let fields := [("status", "failed"), ("summary", String.ofList (summary.toList.take 4000))]
  have read : builtins.loads (makeReportDoneFailedArguments (builtins.within env) summary) =
      .ok (Json.texts fields) :=
    builtins.reads fields (by simp only [fields, List.map_cons, List.map_nil]; decide)
  have status : builtins.reportStatus (fields.map fun field => (field.1, .str field.2)) =
      lower (strip (orElse "failed" "completed")) := rfl
  have failed : SessionSubTaskState.normalizedTerminal
      (lower (strip (orElse "failed" "completed"))) ≠ "completed" := by decide
  unfold completes reportOf
  rw [read, Json.texts]
  simp only [status]
  cases builtins.reportPayload _ with
  | none => rfl
  | some summary => simp only [Option.map_some, Option.any_some, decide_eq_false failed]

end Builtins

/-- A hook that lets a payload settle the task only behind a pass of the contract. -/
structure Guards {Payload : Type} (env : HookEnv) (settles : Payload → Prop)
    (executor : HookExecutor Payload) : Prop where
  keeps : ∀ payload, Keeps HookWorld.doneWhen (executor payload)
  passes : ∀ payload world output after, world.doneWhen ≠ [] →
    exec (executor payload) world = (.ok output, after) → settles (output.handedOn payload) →
      settles payload ∧ contractResult env world = some []
  answers : ∀ payload world failedRules, world.doneWhen ≠ [] → settles payload →
    contractResult env world = some failedRules → failedRules ≠ [] → env.writeSession = none →
      ∃ output after, exec (executor payload) world = (.ok output, after)

/-- A follow-up that publishes one event. -/
structure Publishes {Payload : Type} (settles : Payload → Prop)
    (followUp : Payload → String → HookM (HookStageOutput Payload)) : Prop where
  follows : ∀ payload text world, ∃ output event, exec (followUp payload text) world =
    (.ok output, { world with published := world.published ++ [event] }) ∧
      ¬ settles (output.handedOn payload)

section Verdict

variable {Payload : Type} {settles : Payload → Prop} {payload : Payload}
  {verdict : Payload → HookM (Verdict Payload)} {report : String → Payload}
  {followUp : Payload → String → HookM (HookStageOutput Payload)}

/-- A failed contract is reported, or asked to be followed up. -/
theorem onFailure_cases (env : HookEnv) (state : DcState) (report : String → Payload) :
    (∃ summary, onFailure env state report = .done {
      status := .ok, patchedPayload := some (report (makeReportDoneFailedArguments env summary)) }) ∨
    ∃ text, onFailure env state report = .followUp text := by
  unfold onFailure
  simp only
  split
  · exact .inl ⟨_, rfl⟩
  · exact .inr ⟨_, rfl⟩

/-- The state is saved where the database answers. -/
theorem exec_saveDcState_ok (read : env.readSession = none) (write : env.writeSession = none)
    (state : DcState) : ∃ after, exec (saveDcState env state) world = (.ok (), after) :=
  (CodeRepair.exec_saveSessionKey read _ _).mpr (.inr write)

/-- A contract has a result only when its session can be read. -/
theorem readSession_of_contractResult {failedRules : List Json}
    (result : contractResult env world = some failedRules) : env.readSession = none := by
  unfold contractResult at result
  split at result
  · assumption
  · cases result

/-- A hook with a failed contract raises because the row cannot be written, or does not settle
the task. -/
theorem actOn_of_failed (checks : verdict payload = verdictOf env payload report)
    (reports : ∀ summary, ¬ settles (report (makeReportDoneFailedArguments env summary)))
    (publishes : Publishes settles followUp) (contract : world.doneWhen ≠ [])
    {failedRules : List Json} (result : contractResult env world = some failedRules)
    (failed : failedRules ≠ []) :
    (env.writeSession ≠ none ∧
      ∃ error after, exec (actOn verdict followUp payload) world = (.error error, after)) ∨
    ∃ output after, exec (actOn verdict followUp payload) world = (.ok output, after) ∧
      ¬ settles (output.handedOn payload) := by
  have decided := exec_verdictOf env contract payload report
  rw [result] at decided
  obtain ⟨state, decided⟩ := decided
  rw [if_neg failed] at decided
  unfold actOn
  rw [checks, exec_bind, decided]
  cases saved : exec (saveDcState env state) world with
  | mk outcome after =>
      cases outcome with
      | error error =>
          rw [exec_bind_error saved]
          refine .inl ⟨fun write => ?_, error, after, rfl⟩
          obtain ⟨reached, stored⟩ :=
            exec_saveDcState_ok (readSession_of_contractResult result) write state
          rw [saved] at stored
          cases stored
      | ok done =>
          rw [exec_bind_ok saved, exec_pure]
          rcases onFailure_cases env state report with ⟨summary, reported⟩ | ⟨text, forced⟩
          · rw [reported]
            exact .inr ⟨_, _, rfl, reports summary⟩
          · rw [forced]
            obtain ⟨output, event, followed, unsettled⟩ := publishes.follows payload text after
            exact .inr ⟨output, _, followed, unsettled⟩

/-- A hook without a result raises. -/
theorem actOn_of_unchecked (checks : verdict payload = verdictOf env payload report)
    (contract : world.doneWhen ≠ []) (result : contractResult env world = none)
    (followUp : Payload → String → HookM (HookStageOutput Payload)) :
    ∃ error after, exec (actOn verdict followUp payload) world = (.error error, after) := by
  have decided := exec_verdictOf env contract payload report
  rw [result] at decided
  obtain ⟨error, raised⟩ := decided
  unfold actOn
  rw [checks, exec_bind_error raised]
  exact ⟨error, world, rfl⟩

/-- A hook with a passed contract hands on its payload, if it does not raise. -/
theorem actOn_of_passed (checks : verdict payload = verdictOf env payload report)
    (contract : world.doneWhen ≠ []) (result : contractResult env world = some [])
    {output : HookStageOutput Payload}
    (called : exec (actOn verdict followUp payload) world = (.ok output, after)) :
    output.handedOn payload = payload := by
  have decided := exec_verdictOf env contract payload report
  rw [result] at decided
  obtain ⟨state, decided⟩ := decided
  unfold actOn at called
  rw [checks, exec_bind, decided] at called
  cases saved : exec (saveDcState env state) world with
  | mk outcome reached =>
      cases outcome with
      | error error =>
          rw [exec_bind_error saved] at called
          cases called
      | ok done =>
          rw [exec_bind_ok saved] at called
          cases called
          rfl

/-- A hook that skips the payloads that do not settle the task, and checks the contract on the
others, guards it. -/
theorem guards_of_verdict (report : Payload → String → Payload)
    (checks : ∀ payload, (¬ settles payload ∧
        verdict payload = pure (.done { status := .skip, patchedPayload := some payload })) ∨
      verdict payload = verdictOf env payload (report payload))
    (reports : ∀ payload summary,
      ¬ settles (report payload (makeReportDoneFailedArguments env summary)))
    (publishes : Publishes settles followUp) : Guards env settles (actOn verdict followUp) where
  keeps := by
    intro payload
    refine Keeps.bind ?_ fun decision => ?_
    · rcases checks payload with ⟨_, skips⟩ | checks
      · rw [skips]
        exact keeps_pure _
      · rw [checks]
        exact keeps_verdictOf (keeps_doneWhen_saveDcState env) payload _
    · cases decision with
      | done => exact keeps_pure _
      | followUp text =>
          intro world
          obtain ⟨output, event, followed, _⟩ := publishes.follows payload text world
          change (exec (followUp payload text) world).2.doneWhen = _
          rw [followed]
          rfl
  passes := by
    intro payload world output after contract called settled
    rcases checks payload with ⟨unsettled, skips⟩ | checks
    · unfold actOn at called
      rw [skips] at called
      cases called
      exact (unsettled settled).elim
    · cases result : contractResult env world with
      | none =>
          obtain ⟨error, reached, raised⟩ := actOn_of_unchecked checks contract
            result followUp
          rw [raised] at called
          cases called
      | some failedRules =>
          cases failedRules with
          | nil => exact ⟨actOn_of_passed checks contract result called ▸ settled, rfl⟩
          | cons rule rest =>
              rcases actOn_of_failed checks (reports payload) publishes contract result
                (List.cons_ne_nil rule rest) with
                ⟨_, error, reached, raised⟩ | ⟨made, reached, handed, unsettled⟩
              · rw [raised] at called
                cases called
              · rw [handed] at called
                cases called
                exact (unsettled settled).elim
  answers := by
    intro payload world failedRules contract settled result failed write
    rcases checks payload with ⟨unsettled, _⟩ | checks
    · exact (unsettled settled).elim
    · rcases actOn_of_failed checks (reports payload) publishes contract result failed with
        ⟨unwritten, _⟩ | ⟨made, reached, handed, _⟩
      · exact (unwritten write).elim
      · exact ⟨made, reached, handed⟩

end Verdict

/-- A response that the turn takes as a reply in text. -/
def AfterLlmResponseHookPayload.IsReply (payload : AfterLlmResponseHookPayload) : Prop :=
  payload.forceFinish = false ∧ payload.toolCalls = [] ∧ payload.messageText.getD "" ≠ ""

/-- A tool call that completes the task. -/
def BeforeToolCallHookPayload.Completes (builtins : Builtins) (payload : BeforeToolCallHookPayload) :
    Prop :=
  payload.forceFinish = false ∧ payload.request.name = "report_subtask_done" ∧
    builtins.completes payload.request.argumentsJson = true

/-- The hook after the model's answer guards against a reply without a call. -/
theorem guards_dcAfterLlmResponse (env : HookEnv) {context : HookExecutionContext}
    (sub : context.isSubSession = true) :
    Guards env AfterLlmResponseHookPayload.IsReply (dcAfterLlmResponse env context) := by
  refine guards_of_verdict (fun payload arguments => { payload with toolCalls := [{
    callId := "dc_fail_report", name := "report_subtask_done", argumentsJson := arguments }] })
    ?_ ?_ ⟨?_⟩
  · intro payload
    cases calls : payload.toolCalls with
    | nil =>
        refine .inr ?_
        simp only [afterLlmVerdict, sub, calls]
        rfl
    | cons call rest =>
        refine .inl ⟨fun reply => ?_, ?_⟩
        · cases calls.symm.trans reply.2.1
        · simp only [afterLlmVerdict, sub, calls]
          rfl
  · rintro payload summary ⟨_, none_left, _⟩
    cases none_left
  · intro payload text world
    exact ⟨_, _, rfl, fun reply => Bool.noConfusion reply.1⟩

/-- The hook before a tool guards against a report of success. -/
theorem guards_dcBeforeToolCall (builtins : Builtins) (env : HookEnv)
    {context : HookExecutionContext} (sub : context.isSubSession = true) :
    Guards (builtins.within env) (BeforeToolCallHookPayload.Completes builtins)
      (dcBeforeToolCall (builtins.within env) context) := by
  refine guards_of_verdict (fun payload arguments =>
    { payload with request := { payload.request with argumentsJson := arguments } }) ?_ ?_ ⟨?_⟩
  · intro payload
    by_cases reports : payload.request.name = "report_subtask_done"
    · refine .inr ?_
      simp only [beforeToolVerdict, sub, reports]
      rfl
    · refine .inl ⟨fun completes => reports completes.2.1, ?_⟩
      simp only [beforeToolVerdict, ne_eq, reports, not_false_eq_true, decide_true, Bool.or_true,
        ↓reduceIte]
  · rintro payload summary ⟨_, _, completes⟩
    rw [builtins.completes_failed] at completes
    cases completes
  · intro payload text world
    exact ⟨_, _, rfl, fun completes => Bool.noConfusion completes.1⟩

/-- A write to what the hooks find that keeps the contract. -/
structure RowWrite where
  write : HookWorld → HookWorld
  keeps : ∀ world, (write world).doneWhen = world.doneWhen

/-- No write. -/
def RowWrite.none : RowWrite := ⟨id, fun _ => rfl⟩

/-- Whether the contract hook comes to its end within `timeout_ms`; and otherwise whether
`evaluate_done_when` had returned by then, and what the hook had stored and published. -/
inductive HookTiming
  | answers
  | timesOut (evaluated : Bool) (left : RowWrite)

namespace HookTiming

/-- `asyncio.wait_for` -/
def waitFor {Payload : Type} (executor : HookExecutor Payload) : HookTiming → HookExecutor Payload
  | .answers => executor
  | .timesOut _ left => fun _ => do
      modify left.write
      throw (.other "")

/-- `evaluate_done_when` returns to the hook that the contract passes. -/
def passes (env : HookEnv) (world : HookWorld) : HookTiming → Bool
  | .answers => (contractResult env world).any List.isEmpty
  | .timesOut evaluated _ => evaluated && (contractResult env world).any List.isEmpty

/-- `evaluate_done_when` returns to the hook, and on a failure the hook comes to its end. -/
def Concludes (env : HookEnv) (world : HookWorld) : HookTiming → Prop
  | .answers => ∃ failedRules, contractResult env world = some failedRules ∧
      (failedRules = [] ∨ env.writeSession = none)
  | .timesOut evaluated _ => evaluated = true ∧ contractResult env world = some []

end HookTiming

/-- A hook of another group, behind the contract hook: it keeps the contract, and no payload that
it hands on settles the task unless its own does. -/
structure LaterHook {Payload : Type} (settles : Payload → Prop) where
  definition : HookDefinition
  executor : HookExecutor Payload
  keeps : ∀ payload, Keeps HookWorld.doneWhen (executor payload)
  settled : ∀ payload, Returns (fun output : HookStageOutput Payload =>
    settles (output.handedOn payload) → settles payload) (executor payload)

section Stage

variable {Payload : Type} {settles : Payload → Prop} {payload : Payload}

/-- A later hook keeps the rules and settles nothing. -/
theorem LaterHook.preserves (hook : LaterHook settles) (rules : List DoneRule) (start : Payload) :
    Preserves (fun payload world => world.doneWhen = rules ∧ (settles payload → settles start))
      hook.executor where
  returns := by
    intro payload world output after holds called
    have kept := hook.keeps payload world
    rw [called] at kept
    exact ⟨kept.trans holds.1, fun settled =>
      holds.2 (hook.settled payload world output after called settled)⟩
  raises := by
    intro payload world error after holds called
    have kept := hook.keeps payload world
    rw [called] at kept
    exact ⟨kept.trans holds.1, holds.2⟩

/-- The stage of the contract hook, with the hooks of other groups behind it. -/
def contractStage (definition : HookDefinition) (executor : HookExecutor Payload)
    (timing : HookTiming) (later : List (LaterHook settles)) :
    List (HookDefinition × HookExecutor Payload) :=
  (definition, timing.waitFor executor) :: later.map fun hook => (hook.definition, hook.executor)

/-- The later hooks hand on a payload that settles nothing by itself. -/
theorem laterStage (later : List (LaterHook settles)) (payload : Payload) (world : HookWorld) :
    ∃ final, (runStage (later.map fun hook => (hook.definition, hook.executor)) payload
        world).1.patchedPayload = some final ∧
      (runStage (later.map fun hook => (hook.definition, hook.executor)) payload world).2.doneWhen =
        world.doneWhen ∧
      (settles final → settles payload) := by
  refine runStage_rule (fun reached after => after.doneWhen = world.doneWhen ∧
    (settles reached → settles payload)) ?_ ⟨rfl, id⟩
  intro hook member
  obtain ⟨later, _, rfl⟩ := List.mem_map.mp member
  exact later.preserves world.doneWhen payload

/-- **Stages guard the contract.** A stage keeps the contract; and where the contract hook comes
to a decision, the task is settled behind the stage only if the contract has passed. -/
theorem Guards.stage {executor : HookExecutor Payload} (guards : Guards env settles executor)
    (definition : HookDefinition) (enabled : definition.enabled = true)
    (continues : definition.onError ≠ .fail) (timing : HookTiming)
    (later : List (LaterHook settles)) (payload : Payload) (contract : world.doneWhen ≠ []) :
    ∃ final, (runStage (contractStage definition executor timing later) payload
        world).1.patchedPayload = some final ∧
      (runStage (contractStage definition executor timing later) payload world).2.doneWhen =
        world.doneWhen ∧
      (settles final → settles payload ∧
        (timing.Concludes env world → timing.passes env world = true)) := by
  unfold contractStage
  cases timing with
  | answers =>
      have kept := guards.keeps payload world
      cases called : exec (executor payload) world with
      | mk outcome after =>
          rw [called] at kept
          cases outcome with
          | ok output =>
              rw [runStage_cons_ok enabled (by exact called)]
              obtain ⟨final, handed, same, settled⟩ :=
                laterStage later (output.handedOn payload) after
              refine ⟨final, handed, same.trans kept, fun settles => ?_⟩
              obtain ⟨own, passed⟩ := guards.passes payload world output after contract called
                (settled settles)
              exact ⟨own, fun _ => by rw [HookTiming.passes, passed]; rfl⟩
          | error error =>
              rw [runStage_cons_error enabled continues (by exact called)]
              obtain ⟨final, handed, same, settled⟩ := laterStage later payload after
              refine ⟨final, handed, same.trans kept, fun settles => ⟨settled settles, ?_⟩⟩
              rintro ⟨failedRules, result, rfl | write⟩
              · rw [HookTiming.passes, result]
                rfl
              · by_cases passed : failedRules = []
                · rw [HookTiming.passes, result, passed]
                  rfl
                · obtain ⟨output, reached, answered⟩ := guards.answers payload world failedRules
                    contract (settled settles) result passed write
                  rw [called] at answered
                  cases answered
  | timesOut evaluated left =>
      have raised : exec (HookTiming.waitFor executor (.timesOut evaluated left) payload) world =
          (.error (.other ""), left.write world) := rfl
      rw [runStage_cons_error enabled continues raised]
      obtain ⟨final, handed, same, settled⟩ := laterStage later payload (left.write world)
      refine ⟨final, handed, same.trans (left.keeps world), fun settles => ⟨settled settles, ?_⟩⟩
      rintro ⟨rfl, result⟩
      rw [HookTiming.passes, result]
      rfl

end Stage

/-- `execute_hook` of `turn_routing`. -/
def turnRouting : HookExecutor AfterLlmResponseHookPayload := fun payload =>
  return { status := .skip, patchedPayload := some payload }

namespace LaterHook

/-- A hook that hands on its payload, whatever it does besides. -/
def observing {Payload : Type} (settles : Payload → Prop) (definition : HookDefinition)
    (observe : Payload → HookM HookStatus)
    (keeps : ∀ payload, Keeps HookWorld.doneWhen (observe payload)) : LaterHook settles where
  definition := definition
  executor := fun payload => do
    let status ← observe payload
    return { status := status, patchedPayload := some payload }
  keeps := fun payload => (keeps payload).bind fun _ => keeps_pure _
  settled := fun _ => Returns.bind fun _ => returns_pure id

/-- `turn_routing` as a later hook. -/
def ofTurnRouting : LaterHook AfterLlmResponseHookPayload.IsReply where
  definition := { name := "turn_routing", priority := 100 }
  executor := turnRouting
  keeps := fun _ => keeps_pure _
  settled := fun _ => returns_pure id

/-- `repair_after_llm_response` as a later hook. -/
def ofRepairAfterLlmResponse (env : HookEnv) (context : HookExecutionContext) :
    LaterHook AfterLlmResponseHookPayload.IsReply where
  definition := { name := "code_repair_after_llm_response", priority := 50 }
  executor := CodeRepair.repairAfterLlmResponse env context
  keeps := by
    intro payload
    refine Keeps.ite (keeps_pure _) (Keeps.bind ?_ fun state => Keeps.ite (keeps_pure _) ?_)
    · exact (keeps_loadSessionMeta env).bind fun _ => keeps_pure _
    · unfold CodeRepair.repairReply
      split
      · exact keeps_pure _
      · refine Keeps.ite ?_ (keeps_pure _)
        split
        · exact keeps_throw _
        · exact keeps_pure _
        · refine Keeps.bind ?_ fun _ => keeps_pure _
          exact keeps_modify fun _ => rfl
  settled := by
    intro payload
    refine Returns.ite (returns_pure id) (Returns.bind fun state => Returns.ite (returns_pure id) ?_)
    unfold CodeRepair.repairReply
    split
    · refine returns_pure ?_
      rintro ⟨_, none_left, _⟩
      cases none_left
    · refine Returns.ite ?_ (returns_pure id)
      split
      · rintro world value after ⟨⟩
      · exact returns_pure id
      · refine Returns.bind fun _ => returns_pure ?_
        rintro ⟨unforced, _⟩
        cases unforced

/-- `repair_before_tool_call` as a later hook. -/
def ofRepairBeforeToolCall (builtins : Builtins) (env : HookEnv) (context : HookExecutionContext) :
    LaterHook (BeforeToolCallHookPayload.Completes builtins) where
  definition := { name := "code_repair_before_tool_call", priority := 50 }
  executor := CodeRepair.repairBeforeToolCall env context
  keeps := by
    intro payload
    refine Keeps.ite (keeps_pure _) (Keeps.ite (keeps_pure _) ?_)
    exact (keeps_loadSessionMeta env).bind fun _ => keeps_ofExcept _
  settled := by
    intro payload
    refine Returns.ite (returns_pure id) (Returns.ite (returns_pure id) (Returns.bind fun stored => ?_))
    intro world output after called completes
    rw [exec_ofExcept] at called
    rcases CodeRepair.checkRequest_handsOn (Prod.mk.inj called).1 with same | finishes | written
    · exact same ▸ completes
    · cases finishes.symm.trans completes.1
    · exact absurd (written.symm.trans completes.2.1) (by decide)

end LaterHook

end FairyClaw
