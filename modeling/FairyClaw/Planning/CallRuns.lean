import FairyClaw.Planning.StagedTurn
import Mathlib.Algebra.BigOperators.Group.List.Basic
import Mathlib.Algebra.Group.Prod
import Mathlib.Algebra.Ring.Int.Defs

/-! # What one tool call leaves behind

From its push to the hooks after it, a call adds records to the turn: its frame, the execution, and
the round, when its tool is recorded. The round has the outcome of the tool, and the usage that the
turn has not yet attached to anything (`FairyClaw.StagedTurn.callRun_completeCall`).
-/

namespace FairyClaw

open Foundation Fallible

/-- The numbers of a usage; a number that is not reported counts for nothing. -/
def TokenUsage.tokens (usage : TokenUsage) : Int × Int × Int :=
  (usage.promptTokens.getD 0, usage.completionTokens.getD 0, usage.totalTokens.getD 0)

namespace TurnRecord

/-- The tokens that a persisted event carries. -/
def persisted : TurnRecord → Int × Int × Int
  | .message _ usage => usage.tokens
  | .round _ usage => usage.tokens
  | _ => 0

/-- The tokens of a response of the model. -/
def used : TurnRecord → Int × Int × Int
  | .answered usage => usage.tokens
  | _ => 0

/-- The round that is handed to the history or to the gateway. -/
def handed : TurnRecord → Option ToolCallRound
  | .round stored _ => some stored
  | .toolResultFrame pushed => some pushed
  | _ => none

end TurnRecord

/-- The tokens of the events that have been persisted. -/
def persistedTokens (records : List TurnRecord) : Int × Int × Int :=
  (records.map TurnRecord.persisted).sum

/-- The tokens of the responses of the model that the turn itself has asked. -/
def answeredTokens (records : List TurnRecord) : Int × Int × Int :=
  (records.map TurnRecord.used).sum

/-- The tokens of responses that no event carries. -/
def balance (records : List TurnRecord) : Int × Int × Int :=
  answeredTokens records - persistedTokens records

/-- The balance of records one behind the other. -/
theorem balance_append (first second : List TurnRecord) :
    balance (first ++ second) = balance first + balance second := by
  simp only [balance, answeredTokens, persistedTokens, List.map_append, List.sum_append]
  exact add_sub_add_comm _ _ _ _

/-- The balance of records behind a first one. -/
theorem balance_cons (record : TurnRecord) (records : List TurnRecord) :
    balance (record :: records) = record.used - record.persisted + balance records := by
  simp only [balance, answeredTokens, persistedTokens, List.map_cons, List.sum_cons]
  exact add_sub_add_comm _ _ _ _

/-- Records that carry no tokens. -/
theorem balance_quiet : ∀ {records : List TurnRecord},
    (∀ record ∈ records, record.used = 0 ∧ record.persisted = 0) → balance records = 0
  | [], _ => rfl
  | record :: records, quiet => by
      obtain ⟨unused, unattached⟩ := quiet record List.mem_cons_self
      rw [balance_cons, unused, unattached, balance_quiet fun other member =>
        quiet other (List.mem_cons_of_mem _ member)]
      rfl

namespace StagedTurn

variable (turn : StagedTurn)

/-- The outcome of the tool of a call -/
def outcomeOf (index : Nat) (request : LlmToolCallRequest) (world : HookWorld) : String × Bool :=
  toolOutcome request (turn.tool index request world).1

/-- The stage `after_tool_call` of a call -/
def afterToolCallStage (groups : List String) (index : Nat) (request : LlmToolCallRequest)
    (world : HookWorld) : HookStageOutput AfterToolCallHookPayload × HookWorld :=
  runHooks (turn.afterToolCallHooks groups index)
    (turn.afterToolCallPayload index request (turn.outcomeOf index request world))
    (turn.tool index request world).2

/-- The payload that the hooks after a call hand on. -/
def afterToolCall (groups : List String) (index : Nat) (request : LlmToolCallRequest)
    (world : HookWorld) : AfterToolCallHookPayload :=
  (turn.afterToolCallStage groups index request world).1.handedOn
    (turn.afterToolCallPayload index request (turn.outcomeOf index request world))

/-- The rounds of the tool are recorded. -/
def Records (request : LlmToolCallRequest) : Prop :=
  turn.recordEvent request.name = true ∧ turn.hasMemory = true

/-- The round is written, if its tool is recorded and the write does not raise. -/
def Writes (index : Nat) (request : LlmToolCallRequest) : Prop :=
  turn.Records request ∧ turn.raises (.storeRound index) = none

/-- Nothing raises between the execution of a call and the hooks after it. -/
def Concludes (index : Nat) (request : LlmToolCallRequest) : Prop :=
  turn.Records request → turn.raises (.storeRound index) = none ∧
    (turn.hasGateway = true → turn.raises (.pushToolResult index) = none)

/-- The result of a call is pushed. -/
def PushesResult (index : Nat) : Prop :=
  turn.hasGateway = true ∧ turn.raises (.pushToolResult index) = none

instance (request : LlmToolCallRequest) : Decidable (turn.Records request) :=
  inferInstanceAs (Decidable (_ ∧ _))

instance (index : Nat) : Decidable (turn.PushesCall index) :=
  inferInstanceAs (Decidable (_ → _ → _))

instance (index : Nat) (request : LlmToolCallRequest) : Decidable (turn.Writes index request) :=
  inferInstanceAs (Decidable (_ ∧ _))

instance (index : Nat) (request : LlmToolCallRequest) : Decidable (turn.Concludes index request) :=
  inferInstanceAs (Decidable (_ → _ ∧ (_ → _)))

instance (index : Nat) : Decidable (turn.PushesResult index) :=
  inferInstanceAs (Decidable (_ ∧ _))

/-- The frame of a result that is pushed. -/
def resultFrames (index : Nat) (round : ToolCallRound) : List TurnRecord :=
  if turn.PushesResult index then [.toolResultFrame round] else []

/-- The round that a call writes, with the usage that is left, and its frame. -/
def writtenRound (index : Nat) (request : LlmToolCallRequest) (outcome : String × Bool)
    (usage : TokenUsage) : List TurnRecord :=
  if turn.Writes index request then
    .round (roundOf index request outcome) usage ::
      turn.resultFrames index (roundOf index request outcome)
  else []

/-- The push of a round adds its frame, or raises. -/
theorem exec_emitToolResult (index : Nat) (round : ToolCallRound) (state : StagedState) :
    ∃ result, exec (turn.emitToolResult index round) state =
        (result, { state with records := state.records ++ turn.resultFrames index round }) ∧
      ((∃ value, result = .ok value) ↔
        (turn.hasGateway = true → turn.raises (.pushToolResult index) = none)) := by
  unfold emitToolResult resultFrames
  by_cases gateway : turn.hasGateway = true
  · rw [if_pos gateway, exec_perform]
    cases raised : turn.raises (.pushToolResult index) with
    | some error =>
        have fails : ¬ turn.PushesResult index := fun pushes =>
          Option.some_ne_none error (raised.symm.trans pushes.2)
        refine ⟨.error error, ?_, iff_of_false nofun fun fine => ?_⟩
        · rw [if_neg fails, List.append_nil]
        · cases fine gateway
    | none =>
        refine ⟨.ok ⟨⟩, ?_, iff_of_true ⟨_, rfl⟩ fun _ => rfl⟩
        rw [if_pos ⟨gateway, raised⟩]
  · refine ⟨.ok ⟨⟩, ?_, iff_of_true ⟨_, rfl⟩ fun present => (gateway present).elim⟩
    rw [if_neg gateway, if_neg fun pushes => gateway pushes.1, List.append_nil]
    rfl

/-- Recording a call writes its round with the usage that is left, and pushes it. -/
theorem exec_recordRound (index : Nat) (request : LlmToolCallRequest) (outcome : String × Bool)
    (usage : TokenUsage) (state : StagedState) :
    ∃ result, exec (turn.recordRound index request outcome usage) state =
        (result, { state with
          records := state.records ++ turn.writtenRound index request outcome usage }) ∧
      (∀ left, result = .ok left → left = if turn.Writes index request then {} else usage) ∧
      ((∃ left, result = .ok left) ↔ turn.Concludes index request) := by
  unfold recordRound writtenRound
  by_cases records : turn.Records request
  · rw [if_pos (Bool.and_eq_true_iff.mpr records)]
    cases raised : turn.raises (.storeRound index) with
    | some error =>
        have fails : turn.raises (.storeRound index) ≠ none := by
          rw [raised]
          exact Option.some_ne_none error
        refine ⟨.error error, ?_, nofun, iff_of_false nofun ?_⟩
        · rw [if_neg fun writes => fails writes.2, List.append_nil]
          refine exec_bind_error ?_ _
          rw [exec_perform, raised]
        · exact fun fine => fails (fine records).1
    | none =>
        have writes : turn.Writes index request := ⟨records, raised⟩
        let round := roundOf index request outcome
        obtain ⟨pushed, pushes, fine⟩ := turn.exec_emitToolResult index round
          { state with records := state.records ++ [.round round usage] }
        have stored : exec (turn.perform (.storeRound index) (.round round usage)) state =
            (.ok ⟨⟩, { state with records := state.records ++ [.round round usage] }) := by
          rw [exec_perform, raised]
        simp only [if_pos writes]
        rw [List.append_assoc] at pushes
        cases pushed with
        | ok value =>
            refine ⟨.ok {}, (exec_bind_ok stored _).trans (exec_bind_ok pushes _), ?_,
              iff_of_true ⟨_, rfl⟩ ?_⟩
            · rintro left ⟨⟩
              rfl
            · exact fun _ => ⟨raised, fine.mp ⟨value, rfl⟩⟩
        | error error =>
            refine ⟨.error error, (exec_bind_ok stored _).trans (exec_bind_error pushes _), nofun,
              iff_of_false nofun fun concludes => ?_⟩
            obtain ⟨value, other⟩ := fine.mpr (concludes records).2
            cases other
  · have skips : ¬ (turn.recordEvent request.name && turn.hasMemory) = true :=
      fun both => records (Bool.and_eq_true_iff.mp both)
    have unwritten : ¬ turn.Writes index request := fun writes => records writes.1
    refine ⟨.ok usage, ?_, ?_, iff_of_true ⟨_, rfl⟩ ?_⟩
    · rw [if_neg skips, if_neg unwritten, List.append_nil]
      rfl
    · rintro left ⟨⟩
      rw [if_neg unwritten]
    · exact fun again => (records again).elim

/-- The round of a call is persisted, once the call has been pushed. -/
def Stores (index : Nat) (request : LlmToolCallRequest) : Prop :=
  turn.PushesCall index ∧ turn.Writes index request

/-- A call comes to the hooks after it. -/
def Completes (index : Nat) (request : LlmToolCallRequest) : Prop :=
  turn.PushesCall index ∧ turn.Concludes index request

instance (index : Nat) (request : LlmToolCallRequest) : Decidable (turn.Stores index request) :=
  inferInstanceAs (Decidable (_ ∧ _))

instance (index : Nat) (request : LlmToolCallRequest) : Decidable (turn.Completes index request) :=
  inferInstanceAs (Decidable (_ ∧ _))

/-- A run of `completeCall` from a world: its result, the records that it adds, and the world that
it leaves. -/
structure CallRun (groups : List String) (index : Nat) (request : LlmToolCallRequest)
    (usage : TokenUsage) (world : HookWorld)
    (result : Except String (AfterToolCallHookPayload × TokenUsage)) (records : List TurnRecord)
    (after : HookWorld) : Prop where
  handed : ∀ record ∈ records, ∀ round, record.handed = some round → turn.Stores index request ∧
    round = roundOf index request (turn.outcomeOf index request world)
  stored : turn.Stores index request →
    .round (roundOf index request (turn.outcomeOf index request world)) usage ∈ records
  pushed : (∃ round, .toolResultFrame round ∈ records) → turn.PushesResult index
  shown : turn.Stores index request → turn.PushesResult index →
    .toolResultFrame (roundOf index request (turn.outcomeOf index request world)) ∈ records
  tokens : balance records = -(if turn.Stores index request then usage.tokens else 0)
  returns : ∀ payload left, result = .ok (payload, left) →
    payload = turn.afterToolCall groups index request world ∧
      left = (if turn.Stores index request then {} else usage) ∧
      after = (turn.afterToolCallStage groups index request world).2
  completes : (∃ answer, result = .ok answer) ↔ turn.Completes index request

/-- The frame of a call and its execution hand on no round and carry no tokens. -/
theorem quiet_callFrames (index : Nat) (request : LlmToolCallRequest) :
    ∀ record ∈ turn.callFrames index request ++ [.executed request],
      record.handed = none ∧ record.used = 0 ∧ record.persisted = 0 := by
  intro record member
  rcases List.mem_append.mp member with framed | executed
  · unfold callFrames at framed
    split at framed
    · cases List.mem_singleton.mp framed
      exact ⟨rfl, rfl, rfl⟩
    · cases framed
  · cases List.mem_singleton.mp executed
    exact ⟨rfl, rfl, rfl⟩

/-- A frame of a result is that of its round. -/
theorem mem_resultFrames {index : Nat} {round : ToolCallRound} {record : TurnRecord} :
    record ∈ turn.resultFrames index round ↔
      turn.PushesResult index ∧ record = .toolResultFrame round := by
  unfold resultFrames
  split
  · exact List.mem_singleton.trans (and_iff_right ‹_›).symm
  · exact iff_of_false List.not_mem_nil fun pushed => absurd pushed.1 ‹_›

/-- The run of a call that has been pushed, by the records and the end of its round. -/
theorem CallRun.of_pushed {groups : List String} {index : Nat} {request : LlmToolCallRequest}
    {usage : TokenUsage} {world after : HookWorld}
    {result : Except String (AfterToolCallHookPayload × TokenUsage)}
    (pushes : turn.PushesCall index)
    (returns : ∀ payload left, result = .ok (payload, left) →
      payload = turn.afterToolCall groups index request world ∧
        left = (if turn.Writes index request then {} else usage) ∧
        after = (turn.afterToolCallStage groups index request world).2)
    (fine : (∃ answer, result = .ok answer) ↔ turn.Concludes index request) :
    turn.CallRun groups index request usage world result
      (turn.callFrames index request ++ [.executed request] ++
        turn.writtenRound index request (turn.outcomeOf index request world) usage)
      after := by
  let round := roundOf index request (turn.outcomeOf index request world)
  have stores : turn.Stores index request ↔ turn.Writes index request := and_iff_right pushes
  have quiet := turn.quiet_callFrames index request
  have silent : balance (turn.callFrames index request ++ [.executed request]) = 0 :=
    balance_quiet fun record member => (quiet record member).2
  by_cases writes : turn.Writes index request
  · have framed : balance (turn.resultFrames index round) = 0 :=
      balance_quiet fun frame member => by
        rw [(turn.mem_resultFrames.mp member).2]
        exact ⟨rfl, rfl⟩
    rw [writtenRound, if_pos writes]
    refine ⟨?_, fun _ => ?_, ?_, fun _ pushed => ?_, ?_, ?_, ?_⟩
    · intro record member other hands
      refine ⟨stores.mpr writes, ?_⟩
      rcases List.mem_append.mp member with before | written
      · cases (quiet record before).1.symm.trans hands
      · rcases List.mem_cons.mp written with rfl | pushed
        · exact (Option.some.inj hands).symm
        · rw [(turn.mem_resultFrames.mp pushed).2] at hands
          exact (Option.some.inj hands).symm
    · exact List.mem_append_right _ List.mem_cons_self
    · rintro ⟨other, member⟩
      rcases List.mem_append.mp member with before | written
      · cases (quiet _ before).1
      · rcases List.mem_cons.mp written with same | pushed
        · cases same
        · exact (turn.mem_resultFrames.mp pushed).1
    · exact List.mem_append_right _ (List.mem_cons_of_mem _
        (turn.mem_resultFrames.mpr ⟨pushed, rfl⟩))
    · rw [if_pos (stores.mpr writes), balance_append, silent, zero_add, balance_cons, framed,
        add_zero]
      exact zero_sub usage.tokens
    · intro payload left same
      rw [if_pos (stores.mpr writes)]
      have given := returns payload left same
      rwa [if_pos writes] at given
    · exact fine.trans (and_iff_right pushes).symm
  · have unstored : ¬ turn.Stores index request := fun stored => writes stored.2
    rw [writtenRound, if_neg writes, List.append_nil]
    refine ⟨?_, fun stored => (unstored stored).elim, ?_, fun stored => (unstored stored).elim, ?_,
      ?_, ?_⟩
    · intro record member other hands
      cases (quiet record member).1.symm.trans hands
    · rintro ⟨other, member⟩
      cases (quiet _ member).1
    · rw [if_neg unstored, silent, neg_zero]
    · intro payload left same
      rw [if_neg unstored]
      have given := returns payload left same
      rwa [if_neg writes] at given
    · exact fine.trans (and_iff_right pushes).symm

/-- **Calls.** What a call adds to the turn, and what it leaves for the next. -/
theorem callRun_completeCall (groups : List String) (index : Nat) (request : LlmToolCallRequest)
    (usage : TokenUsage) (state : StagedState) :
    ∃ result records after, exec (turn.completeCall groups index request usage) state =
        (result, { world := after, records := state.records ++ records }) ∧
      turn.CallRun groups index request usage state.world result records after := by
  unfold completeCall
  rcases turn.exec_emitToolCall index request state with ⟨pushes, pushed⟩ | ⟨error, fails, raised⟩
  · let world := state.world
    let outcome := turn.outcomeOf index request world
    let executed : StagedState :=
      { world := (turn.tool index request world).2
        records := state.records ++ turn.callFrames index request ++ [.executed request] }
    have executes : exec (turn.executeTool index request)
        { state with records := state.records ++ turn.callFrames index request } =
        (.ok outcome, executed) := rfl
    obtain ⟨result, recorded, left, fine⟩ :=
      turn.exec_recordRound index request outcome usage executed
    cases result with
    | error error =>
        refine ⟨.error error, _, executed.world, ?_, CallRun.of_pushed turn pushes nofun ?_⟩
        · refine (exec_bind_ok pushed _).trans ((exec_bind_ok executes _).trans ?_)
          rw [exec_bind_error recorded]
          simp only [executed, List.append_assoc]
          rfl
        · exact iff_of_false nofun fun concludes => (fine.mpr concludes).elim nofun
    | ok value =>
        refine ⟨.ok (turn.afterToolCall groups index request world, value), _,
          (turn.afterToolCallStage groups index request world).2, ?_,
          CallRun.of_pushed turn pushes ?_ ?_⟩
        · refine (exec_bind_ok pushed _).trans ((exec_bind_ok executes _).trans ?_)
          rw [exec_bind_ok recorded, exec_bind_ok (exec_askHooks _ _ _)]
          simp only [executed, List.append_assoc]
          rfl
        · rintro payload other ⟨⟩
          exact ⟨rfl, left value rfl, rfl⟩
        · exact iff_of_true ⟨_, rfl⟩ (fine.mp ⟨value, rfl⟩)
  · have unstored : ¬ turn.Stores index request := fun stores => fails stores.1
    refine ⟨.error error, [], state.world, ?_, ?_⟩
    · rw [exec_bind_error raised, List.append_nil]
    · exact
        { handed := List.forall_mem_nil _
          stored := fun stores => (unstored stores).elim
          pushed := by
            rintro ⟨round, member⟩
            cases member
          shown := fun stores => (unstored stores).elim
          tokens := by rw [if_neg unstored, neg_zero]; rfl
          returns := nofun
          completes := iff_of_false nofun fun completes => fails completes.1 }

end StagedTurn

end FairyClaw
