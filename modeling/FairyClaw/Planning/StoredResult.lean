import FairyClaw.Planning.CallRuns
import FairyClaw.Planning.FailedStages
import FairyClaw.Session.Memory

/-! # The stored result of a tool call

The hooks after a tool call are handed its result once the round has been persisted and pushed, and
the row of a round has no status: it is read back as a success. So the history and the gateway have
what the hooks hand on exactly when these do not change the result and call it a success, as the
gateway must, too (`FairyClaw.StagedTurn.stored_result_iff`).
-/

namespace FairyClaw

open Foundation

/-- The round that is read back from the row of a round. -/
def ToolCallRound.readBack (strOf : Json → String) (eventId : String) (round : ToolCallRound) :
    ToolCallRound :=
  .fromPersisted strOf eventId round.toolName (.obj (wrapToolArgs round))
    (some (.str round.toolResult))

/-- The history makes this round of the row. -/
theorem parseRow_readBack (strOf : Json → String) (eventId : String) (round : ToolCallRound) :
    (addOperationEvent [] eventId round).mapM (parseRow strOf) =
      some [[.round (round.readBack strOf eventId)]] := by
  have other : operationEventType ≠ sessionEventType := by decide
  simp only [addOperationEvent, List.nil_append, List.mapM_cons, List.mapM_nil, parseRow,
    if_neg other]
  rfl

/-- What the history and the gateway have of a round. -/
def TurnRecord.shown (strOf : Json → String) (eventId : String) : TurnRecord → Option ToolCallRound
  | .round stored _ => some (stored.readBack strOf eventId)
  | .toolResultFrame pushed => some pushed
  | _ => none

namespace StagedTurn

/-- A round has the result and the status of a payload. -/
def Reports (round : ToolCallRound) (payload : AfterToolCallHookPayload) : Prop :=
  round.toolResult = payload.result ∧ (round.success = true ↔ payload.toolStatus = "ok")

/-- **Results.** What the history and the gateway have of a call is what the hooks after it hand on,
exactly when no round is persisted, or the hooks hand on the result of the tool as that of a success,
and the tool has succeeded if its result is pushed. -/
theorem stored_result_iff (turn : StagedTurn) (strOf : Json → String) (eventId : String)
    (groups : List String) (index : Nat) (request : LlmToolCallRequest) (usage : TokenUsage)
    (state : StagedState) :
    (∀ record ∈ added (turn.completeCall groups index request usage) state,
      ∀ round, record.shown strOf eventId = some round →
        Reports round (turn.afterToolCall groups index request state.world)) ↔
      (turn.Stores index request →
        (turn.outcomeOf index request state.world).1 =
          (turn.afterToolCall groups index request state.world).result ∧
        (turn.afterToolCall groups index request state.world).toolStatus = "ok" ∧
        (turn.PushesResult index → (turn.outcomeOf index request state.world).2 = true)) := by
  obtain ⟨result, records, after, ran, run⟩ :=
    turn.callRun_completeCall groups index request usage state
  rw [added_eq (congrArg (fun ended => ended.2.records) ran)]
  constructor
  · intro reports stores
    obtain ⟨same, status⟩ := reports _ (run.stored stores) _ rfl
    refine ⟨same, status.mp rfl, fun pushes => ?_⟩
    obtain ⟨_, succeeds⟩ := reports _ (run.shown stores pushes) _ rfl
    exact succeeds.mpr (status.mp rfl)
  · intro kept record member round shows
    cases record with
    | round stored left =>
        obtain ⟨stores, rfl⟩ := run.handed _ member stored rfl
        obtain ⟨same, status, _⟩ := kept stores
        cases shows
        exact ⟨same, iff_of_true rfl status⟩
    | toolResultFrame pushed =>
        obtain ⟨stores, rfl⟩ := run.handed _ member pushed rfl
        obtain ⟨same, status, succeeds⟩ := kept stores
        cases shows
        exact ⟨same, iff_of_true (succeeds (run.pushed ⟨_, member⟩)) status⟩
    | _ => cases shows

/-- A hook that hides what a tool returns. -/
def redact : StageHooks AfterToolCallHookPayload :=
  [({ name := "redact", priority := 50 }, fun payload =>
    pure { status := .ok, patchedPayload := some { payload with result := "[redacted]" } })]

/-- A turn with the hook. -/
def redactedTurn : StagedTurn :=
  { guardedTurn with afterToolCallHooks := fun _ _ => redact }

/-- The history has the text that the hook has hidden. -/
theorem redacted_result_is_stored :
    (redactedTurn.afterToolCall [] 0 ⟨"1", "run_command", "\x7b\x7d"⟩ {}).result = "[redacted]" ∧
      ∃ record ∈ added (redactedTurn.completeCall [] 0 ⟨"1", "run_command", "\x7b\x7d"⟩ {}) {},
        ∃ round, record.shown (fun _ => "") "evt_1" = some round ∧ round.toolResult = "done" := by
  refine ⟨rfl, ?_⟩
  obtain ⟨result, records, after, ran, run⟩ :=
    redactedTurn.callRun_completeCall [] 0 ⟨"1", "run_command", "\x7b\x7d"⟩ {} {}
  have stored := run.stored ⟨fun _ _ => rfl, ⟨rfl, rfl⟩, rfl⟩
  rw [added_eq (congrArg (fun ended => ended.2.records) ran)]
  exact ⟨_, stored, _, rfl, rfl⟩

end StagedTurn

end FairyClaw
