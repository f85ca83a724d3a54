import FairyClaw.Planning.CallRuns

/-! # The token accounts of a turn

A turn attaches the usage of the model to the first event that it persists. The first response of a
length repair is replaced with its usage, a turn may end before it persists an event, and the usage
of the models that hooks and tools call is attached to none. So the persisted usage is the usage of
all responses exactly when what is lost on these ways adds up to nothing
(`FairyClaw.StagedTurn.tokens_conserved_iff`).
-/

namespace FairyClaw

open Foundation Fallible

namespace StagedTurn

variable (turn : StagedTurn)

/-! ## What carries a usage -/

/-- The text of a response without tool calls is persisted. -/
def carriesText (messageText : Option String) : Bool :=
  messageText.getD "" ≠ "" && (turn.hasMemory && (turn.raises .storeReply).isNone)

/-- The text beside the calls is to be persisted. -/
def prefaces (messageText : Option String) : Bool :=
  (TurnSetting.normalizeAssistantToolMessage messageText).isSome && turn.hasMemory

/-- A call is recorded before the batch ends. -/
def carriesCall (groups : List String) : Nat → List LlmToolCallRequest → HookWorld → Bool
  | _, [], _ => false
  | index, call :: rest, world =>
      let before := turn.beforeToolCall groups index call world
      let staged := (turn.beforeToolCallStage groups index call world).2
      !before.forceFinish &&
        (decide (turn.Stores index before.request) ||
          (decide (turn.Completes index before.request) &&
            (!(turn.afterToolCall groups index before.request staged).forceFinish &&
              carriesCall groups (index + 1) rest
                (turn.afterToolCallStage groups index before.request staged).2)))

/-- An event carries the usage of the response that a turn is prepared with. -/
def carries (prepared : PreparedTurnResult) (world : HookWorld) : Bool :=
  if prepared.forceFinish.isSome || decide (prepared.toolCalls = []) then
    turn.carriesText prepared.messageText
  else if turn.prefaces prepared.messageText then (turn.raises .storePreface).isNone
  else turn.carriesCall prepared.resolvedGroups 0 prepared.toolCalls world

/-! ## What the model is asked, and what becomes of its answer -/

/-- The answer to the repair prompt that a turn goes on with. -/
def retried (payload : BeforeLlmCallHookPayload) : Except String LlmModelResponse :=
  match turn.chat (payload.turn.llmMessages ++ [repairMessage]) payload.tools with
  | .error error => .error error
  | .ok retry =>
      match shortenCallIds retry.toolCalls with
      | .error error => .error error
      | .ok _ => .ok (turn.repaired retry)

/-- The response that a turn goes on with. -/
def respond (payload : BeforeLlmCallHookPayload) : Except String LlmModelResponse :=
  match turn.chat payload.turn.llmMessages payload.tools with
  | .error error => .error error
  | .ok first =>
      match shortenCallIds first.toolCalls with
      | .error error => .error error
      | .ok _ =>
          if turn.needsLengthTruncationRepair first then turn.retried payload else .ok first

/-- The usage of a response that a turn does not go on with, since the ids of its calls cannot be
shortened. -/
def refused (response : LlmModelResponse) : Int × Int × Int :=
  match shortenCallIds response.toolCalls with
  | .ok _ => 0
  | .error _ => response.usage.tokens

/-- The usage of the responses that a turn does not go on with: a truncated one is replaced by that
of the repair. -/
def replaced (payload : BeforeLlmCallHookPayload) : Int × Int × Int :=
  match turn.chat payload.turn.llmMessages payload.tools with
  | .error _ => 0
  | .ok first =>
      match shortenCallIds first.toolCalls with
      | .error _ => first.usage.tokens
      | .ok _ =>
          if turn.needsLengthTruncationRepair first then
            first.usage.tokens +
              match turn.chat (payload.turn.llmMessages ++ [repairMessage]) payload.tools with
              | .ok retry => refused retry
              | .error _ => 0
          else 0

/-- The usage of a call of the model. -/
def responseTokens : Except String LlmModelResponse → Int × Int × Int
  | .ok response => response.usage.tokens
  | .error _ => 0

/-- What the hooks after a response make of it. -/
def conclude (groups : List String) (response : LlmModelResponse) (calls : List LlmToolCallRequest)
    (world : HookWorld) : PreparedTurnResult × HookWorld :=
  let payload := turn.afterLlmResponsePayload groups response calls
  let stage := runHooks (turn.afterLlmResponseHooks groups) payload world
  let after := stage.1.handedOn payload
  ({ resolvedGroups := after.enabledGroups
     toolCalls := after.toolCalls
     messageText := after.messageText
     usage := response.usage
     forceFinish :=
       if after.forceFinish then some ⟨"after_llm_response", after.forceFinishReason⟩ else none },
    stage.2)

/-- The usage of the final response, unless an event carries it. -/
def unattached (groups : List String) (world : HookWorld) (response : LlmModelResponse) :
    Int × Int × Int :=
  match shortenCallIds response.toolCalls with
  | .ok calls =>
      let concluded := turn.conclude groups response calls world
      if turn.carries concluded.1 concluded.2 then 0 else response.usage.tokens
  | .error _ => response.usage.tokens

/-- The usage that a turn loses once it calls the model. -/
def lost (groups : List String) (payload : BeforeLlmCallHookPayload) (world : HookWorld) :
    Int × Int × Int :=
  turn.replaced payload +
    match turn.respond payload with
    | .ok response => turn.unattached groups world response
    | .error _ => 0

/-- What a turn calls the model with: the groups, the payload, and the world then. -/
def call (world : HookWorld) : Option (List String × BeforeLlmCallHookPayload × HookWorld) :=
  if turn.skips then none
  else
    match exec turn.prepareCall { world := world } with
    | (.ok (groups, payload), after) =>
        if payload.forceFinish then none else some (groups, payload, after.world)
    | (.error _, _) => none

/-- The usage that a turn loses of the model that it asks itself. -/
def lostTokens (world : HookWorld) : Int × Int × Int :=
  match turn.call world with
  | some (groups, payload, after) => turn.lost groups payload after
  | none => 0

/-- The usage of the models that the hooks and the tools of a turn call. -/
def consultedTokens (world : HookWorld) : Int × Int × Int :=
  ((exec turn.runTurnWithPolicy { world := world }).2.world.consulted.map TokenUsage.tokens).sum -
    (world.consulted.map TokenUsage.tokens).sum

/-- The usage of all calls of models that are made in a turn. -/
def usedTokens (world : HookWorld) : Int × Int × Int :=
  answeredTokens (turn.runTurn world) + turn.consultedTokens world

/-! ## The balance of each part -/

/-- The balance of the turn so far. -/
abbrev account (state : StagedState) : Int × Int × Int := balance state.records

/-- A record changes the account by its own balance. -/
theorem account_note (record : TurnRecord) (state : StagedState) :
    account (exec (note record) state).2 = account state + (record.used - record.persisted) := by
  rw [exec_note, account, balance_append, balance_cons, balance_quiet (List.forall_mem_nil _),
    add_zero]

/-- A message is charged to the account. -/
theorem account_message (text : String) (usage : TokenUsage) (state : StagedState) :
    account (exec (note (.message text usage)) state).2 = account state - usage.tokens := by
  rw [account_note]
  change account state + (0 - usage.tokens) = _
  rw [zero_sub, ← sub_eq_add_neg]

/-- A record without a balance keeps the account. -/
theorem keeps_note {record : TurnRecord} (quiet : record.used - record.persisted = 0) :
    Keeps account (note record) := fun state => by
  rw [account_note, quiet, add_zero]

/-- A write or a push without a balance keeps the account. -/
theorem keeps_perform (site : TurnSite) {record : TurnRecord}
    (quiet : record.used - record.persisted = 0) : Keeps account (turn.perform site record) := by
  unfold perform
  cases turn.raises site with
  | some error => exact keeps_throw error
  | none => exact keeps_note quiet

/-- An assistant text keeps the account. -/
theorem keeps_emitAssistantText (site : TurnSite) (text : String) :
    Keeps account (turn.emitAssistantText site text) :=
  .ite (turn.keeps_perform site rfl) (keeps_pure _)

/-- The end of a batch keeps the account. -/
theorem keeps_finishBatch (groups : List String) (stage : HookStage) (reason : Option String)
    (called : List String) : Keeps account (finishBatch groups stage reason called) :=
  (keeps_note rfl).bind fun _ => keeps_pure _

/-- A reply is charged when it carries a text. -/
theorem account_handleText (messageText : Option String) (usage : TokenUsage)
    (state : StagedState) :
    account (exec (turn.handleText messageText usage) state).2 =
      account state - if turn.carriesText messageText then usage.tokens else 0 := by
  unfold handleText handleTextFallback carriesText
  by_cases empty : messageText.getD "" = ""
  · simp only [empty, ↓reduceIte, ne_eq, not_true_eq_false, decide_false, Bool.false_and,
      Bool.false_eq_true, exec_pure, sub_zero]
  · cases turn.hasMemory with
    | false => simp only [empty, ↓reduceIte, ne_eq, not_false_eq_true, decide_true, Bool.false_and,
        Bool.and_false, Bool.false_eq_true, exec_pure, sub_zero]
    | true =>
        simp only [empty, ↓reduceIte, ne_eq, not_false_eq_true, decide_true, Bool.true_and]
        have stores := turn.exec_perform .storeReply (.message (messageText.getD "") usage) state
        cases raised : turn.raises .storeReply with
        | some error =>
            rw [raised] at stores
            rw [exec_bind_error stores, if_neg (by exact Bool.false_ne_true), sub_zero]
        | none =>
            rw [raised] at stores
            rw [exec_bind_ok stores, turn.keeps_emitAssistantText, if_pos (by rfl)]
            exact account_message _ _ _

/-- A response without a preface passes its usage on. -/
theorem exec_handlePreface {messageText : Option String}
    (silent : turn.prefaces messageText = false) (usage : TokenUsage) (state : StagedState) :
    exec (turn.handlePreface messageText usage) state = (.ok usage, state) := by
  unfold prefaces at silent
  unfold handlePreface
  cases shown : TurnSetting.normalizeAssistantToolMessage messageText with
  | none => rfl
  | some text =>
      rw [shown] at silent
      exact congrArg (exec · state) (if_neg (Bool.eq_false_iff.mp silent))

/-- A preface carries the usage, unless its write raises, and leaves none for the calls. -/
theorem account_handlePreface {messageText : Option String}
    (speaks : turn.prefaces messageText = true) (usage : TokenUsage) (state : StagedState) :
    account (exec (turn.handlePreface messageText usage) state).2 =
        account state - (if (turn.raises .storePreface).isNone then usage.tokens else 0) ∧
      ∀ left, (exec (turn.handlePreface messageText usage) state).1 = .ok left → left = {} := by
  obtain ⟨shown, memory⟩ := Bool.and_eq_true_iff.mp speaks
  obtain ⟨text, same⟩ := Option.isSome_iff_exists.mp shown
  unfold handlePreface
  simp only [same, memory, ↓reduceIte]
  have stores := turn.exec_perform .storePreface (.message text usage) state
  cases raised : turn.raises .storePreface with
  | some error =>
      rw [raised] at stores
      rw [exec_bind_error stores, if_neg (by exact Bool.false_ne_true), sub_zero]
      exact ⟨rfl, nofun⟩
  | none =>
      rw [raised] at stores
      rw [exec_bind_ok stores, if_pos (by rfl), ← account_message text usage]
      refine ⟨?_, fun left done => ?_⟩
      · exact ((turn.keeps_emitAssistantText _ _).bind fun _ => keeps_pure _) _
      · have returns : Returns (fun left => left = ({} : TokenUsage))
            (turn.emitAssistantText .pushPreface text >>= fun _ => pure {}) :=
          Returns.bind fun _ => returns_pure rfl
        exact returns _ left _ (Prod.ext done rfl)

/-- A batch carries the usage once a call is recorded. -/
theorem account_processToolCalls (groups : List String) : ∀ (calls : List LlmToolCallRequest)
    (index : Nat) (usage : TokenUsage) (called : List String) (state : StagedState),
    account (exec (turn.processToolCalls groups index calls usage called) state).2 =
      account state - if turn.carriesCall groups index calls state.world then usage.tokens else 0
  | [], _, _, _, _ => (sub_zero _).symm
  | call :: rest, index, usage, called, state => by
      cases forced : (turn.beforeToolCall groups index call state.world).forceFinish with
      | true =>
          rw [turn.exec_processToolCalls_forced groups index call rest usage called state forced]
          simp only [carriesCall, forced, Bool.not_true, Bool.false_and, Bool.false_eq_true,
            ↓reduceIte, sub_zero]
          exact (account_note _ state).trans (add_zero _)
      | false =>
          let request := (turn.beforeToolCall groups index call state.world).request
          let begun : StagedState :=
            { state with world := (turn.beforeToolCallStage groups index call state.world).2 }
          obtain ⟨result, records, world, ran, run⟩ :=
            turn.callRun_completeCall groups index request usage begun
          have spent : balance (state.records ++ records) =
              account state - if turn.Stores index request then usage.tokens else 0 := by
            rw [balance_append, run.tokens, ← sub_eq_add_neg]
          rw [turn.exec_processToolCalls_cons groups index call rest usage called state forced]
          unfold afterHooks
          cases result with
          | error error =>
              have stops : ¬ turn.Completes index request :=
                fun completes => (run.completes.mpr completes).elim nofun
              rw [exec_bind_error ran]
              refine spent.trans ?_
              simp only [carriesCall, forced, stops, decide_false, Bool.false_and, Bool.or_false,
                Bool.not_false, Bool.true_and, decide_eq_true_eq, request]
          | ok answer =>
              obtain ⟨after, left⟩ := answer
              obtain ⟨rfl, leaves, rfl⟩ := run.returns after left rfl
              have completes : turn.Completes index request := run.completes.mp ⟨_, rfl⟩
              rw [exec_bind_ok ran]
              have unfolded : turn.carriesCall groups index (call :: rest) state.world =
                  (decide (turn.Stores index request) ||
                    (!(turn.afterToolCall groups index request begun.world).forceFinish &&
                      turn.carriesCall groups (index + 1) rest
                        (turn.afterToolCallStage groups index request begun.world).2)) := by
                simp only [carriesCall, forced, Bool.not_false, Bool.true_and, begun, request]
                rw [decide_eq_true completes, Bool.true_and]
              rw [unfolded]
              change account (exec (if (turn.afterToolCall groups index request
                begun.world).forceFinish = true then _ else _) _).2 = _
              cases ended : (turn.afterToolCall groups index request begun.world).forceFinish with
              | true =>
                  rw [if_pos rfl, keeps_finishBatch]
                  simp only [Bool.not_true, Bool.false_and, Bool.or_false, decide_eq_true_eq]
                  exact spent
              | false =>
                  rw [if_neg Bool.false_ne_true, account_processToolCalls groups rest]
                  change balance (state.records ++ records) - _ = _
                  rw [spent, leaves, Bool.not_false, Bool.true_and]
                  by_cases stores : turn.Stores index request
                  · simp only [stores, ↓reduceIte, decide_true, Bool.true_or]
                    exact sub_eq_self.mpr (ite_self _)
                  · simp only [stores, ↓reduceIte, decide_false, Bool.false_or, sub_zero]

/-- What follows without a record of tokens. -/
theorem account_bind {Value Result : Type} {action : StagedM Value}
    {next : Value → StagedM Result} (quiet : ∀ value, Keeps account (next value))
    (state : StagedState) :
    account (exec (action >>= next) state).2 = account (exec action state).2 := by
  rw [exec_bind]
  cases exec action state with
  | mk outcome after =>
      cases outcome with
      | ok value => exact quiet value after
      | error error => rfl

/-- The end of a turn whose calls have run. -/
def endBatch (result : ToolBatchExecutionResult) : StagedM PUnit :=
  match result.forceFinish with
  | some _ => pure ⟨⟩
  | none => note (.called result.calledTools)

/-- The end of a turn behind its batch keeps the account. -/
theorem keeps_endBatch (result : ToolBatchExecutionResult) : Keeps account (endBatch result) := by
  unfold endBatch
  split
  · exact keeps_pure _
  · exact keeps_note rfl

/-- What a turn does once it is prepared. -/
theorem account_actOn (prepared : PreparedTurnResult) (state : StagedState) :
    account (exec (turn.actOn prepared) state).2 =
      account state - if turn.carries prepared state.world then prepared.usage.tokens else 0 := by
  unfold actOn carries
  cases prepared.forceFinish with
  | some directive =>
      simp only [Option.isSome_some, Bool.true_or, ↓reduceIte]
      exact turn.account_handleText _ _ _
  | none =>
      by_cases calls : prepared.toolCalls = []
      · simp only [calls, decide_true, Bool.or_true, ↓reduceIte]
        exact turn.account_handleText _ _ _
      · simp only [calls, Option.isSome_none, decide_false, Bool.or_self, Bool.false_eq_true,
          ↓reduceIte]
        have batch (left : TokenUsage) (state : StagedState) :
            account (exec (turn.processToolCalls prepared.resolvedGroups 0 prepared.toolCalls left
              [] >>= endBatch) state).2 = account state -
                if turn.carriesCall prepared.resolvedGroups 0 prepared.toolCalls state.world then
                  left.tokens else 0 :=
          (account_bind keeps_endBatch state).trans (turn.account_processToolCalls _ _ _ _ _ _)
        cases speaks : turn.prefaces prepared.messageText with
        | false =>
            rw [exec_bind_ok (turn.exec_handlePreface speaks _ _), if_neg Bool.false_ne_true]
            exact batch prepared.usage state
        | true =>
            obtain ⟨spent, only⟩ := turn.account_handlePreface speaks prepared.usage state
            rw [if_pos rfl, ← spent, exec_bind]
            cases ran : exec (turn.handlePreface prepared.messageText prepared.usage) state with
            | mk outcome after =>
                cases outcome with
                | error error => rfl
                | ok left =>
                    obtain rfl : left = {} := only left (by rw [ran])
                    exact (batch {} after).trans (sub_eq_self.mpr (ite_self _))

/-! ## The responses -/

/-- A call of the model, with its response. -/
theorem exec_chatWithTools (messages : List LlmChatMessage) (tools : List LlmFunctionToolSpec)
    (state : StagedState) :
    ∃ records, exec (turn.chatWithTools messages tools) state =
        (turn.chat messages tools, { state with records := state.records ++ records }) ∧
      balance records = responseTokens (turn.chat messages tools) := by
  unfold chatWithTools
  rw [exec_bind_ok (exec_note _ _)]
  cases turn.chat messages tools with
  | error error => exact ⟨[.asked], exec_bind_error (exec_ofExcept _ _) _, rfl⟩
  | ok response =>
      refine ⟨[.asked] ++ [.answered response.usage], ?_, ?_⟩
      · rw [exec_bind_ok (exec_ofExcept _ _), exec_bind_ok (exec_note _ _), List.append_assoc]
        rfl
      · rw [balance_append, balance_cons, balance_cons, balance_quiet (List.forall_mem_nil _)]
        change 0 - 0 + 0 + (response.usage.tokens - 0 + 0) = response.usage.tokens
        simp only [sub_zero, add_zero, zero_add]

/-- What is made of the answer to a repair keeps its usage. -/
theorem tokens_repaired (retry : LlmModelResponse) :
    (turn.repaired retry).usage.tokens = retry.usage.tokens := by
  unfold repaired
  split <;> rfl

/-- The answer to the repair prompt, and the usage of it. -/
theorem exec_retried (payload : BeforeLlmCallHookPayload) (state : StagedState) :
    ∃ records, exec (do
          let retry ← turn.chatWithTools (payload.turn.llmMessages ++ [repairMessage]) payload.tools
          let _ ← ofExcept (shortenCallIds retry.toolCalls)
          return turn.repaired retry) state =
        (turn.retried payload, { state with records := state.records ++ records }) ∧
      balance records =
        (match turn.chat (payload.turn.llmMessages ++ [repairMessage]) payload.tools with
          | .ok retry => refused retry
          | .error _ => 0) + responseTokens (turn.retried payload) := by
  obtain ⟨asked, asks, tokens⟩ :=
    turn.exec_chatWithTools (payload.turn.llmMessages ++ [repairMessage]) payload.tools state
  refine ⟨asked, ?_⟩
  unfold retried
  cases answered : turn.chat (payload.turn.llmMessages ++ [repairMessage]) payload.tools with
  | error error =>
      rw [answered] at asks tokens
      exact ⟨exec_bind_error asks _, tokens.trans (zero_add _).symm⟩
  | ok retry =>
      rw [answered] at asks tokens
      rw [exec_bind_ok asks]
      cases made : shortenCallIds retry.toolCalls with
      | error error =>
          have gone : refused retry = retry.usage.tokens := by
            simp only [refused, made]
          simp only [made, gone]
          exact ⟨exec_bind_error (exec_ofExcept _ _) _, tokens.trans (add_zero _).symm⟩
      | ok calls =>
          have kept : refused retry = 0 := by
            simp only [refused, made]
          simp only [made, kept]
          refine ⟨exec_bind_ok (exec_ofExcept _ _) _, tokens.trans ?_⟩
          exact (turn.tokens_repaired retry).symm.trans (zero_add _).symm

/-- The response that a turn goes on with, and the usage of all responses so far. -/
theorem exec_respond (payload : BeforeLlmCallHookPayload) (state : StagedState) :
    ∃ records, exec (turn.chatWithTools payload.turn.llmMessages payload.tools >>=
          turn.repairIfNeeded payload.turn.llmMessages payload.tools) state =
        (turn.respond payload, { state with records := state.records ++ records }) ∧
      balance records = turn.replaced payload + responseTokens (turn.respond payload) := by
  obtain ⟨asked, asks, first_tokens⟩ :=
    turn.exec_chatWithTools payload.turn.llmMessages payload.tools state
  unfold respond replaced
  cases answered : turn.chat payload.turn.llmMessages payload.tools with
  | error error =>
      rw [answered] at asks first_tokens
      exact ⟨asked, exec_bind_error asks _, first_tokens⟩
  | ok first =>
      rw [answered] at asks first_tokens
      rw [exec_bind_ok asks, repairIfNeeded]
      cases made : shortenCallIds first.toolCalls with
      | error error =>
          simp only [made]
          exact ⟨asked, exec_bind_error (exec_ofExcept _ _) _, first_tokens.trans (add_zero _).symm⟩
      | ok calls =>
          simp only [made]
          rw [exec_bind_ok (exec_ofExcept _ _)]
          by_cases repairs : turn.needsLengthTruncationRepair first = true
          · simp only [if_pos repairs]
            obtain ⟨again, retries, second_tokens⟩ :=
              turn.exec_retried payload { state with records := state.records ++ asked }
            rw [List.append_assoc] at retries
            refine ⟨asked ++ again, retries, ?_⟩
            rw [balance_append, first_tokens, second_tokens, add_assoc]
            rfl
          · simp only [if_neg repairs]
            exact ⟨asked, rfl, first_tokens.trans (zero_add _).symm⟩

/-- The end of the preparation, by the identifiers of its calls. -/
theorem exec_concludeResponse (groups : List String) (response : LlmModelResponse)
    (state : StagedState) :
    match shortenCallIds response.toolCalls with
    | .error error => exec (turn.concludeResponse groups response) state = (.error error, state)
    | .ok calls => ∃ records, balance records = 0 ∧
        exec (turn.concludeResponse groups response) state =
          (.ok (turn.conclude groups response calls state.world).1,
            { world := (turn.conclude groups response calls state.world).2
              records := state.records ++ records }) := by
  unfold concludeResponse
  cases shortenCallIds response.toolCalls with
  | error error => exact exec_bind_error (exec_ofExcept _ _) _
  | ok calls =>
      simp only [exec_bind_ok (exec_ofExcept (.ok calls) state), exec_bind_ok (exec_askHooks _ _ _),
        conclude]
      split
      · exact ⟨[_], balance_quiet fun record member => by
          rw [List.mem_singleton.mp member]
          exact ⟨rfl, rfl⟩, rfl⟩
      · refine ⟨[], rfl, ?_⟩
        rw [List.append_nil]
        rfl

/-- From the call of the model on, a turn loses this usage. -/
theorem account_consultModel (groups : List String) (payload : BeforeLlmCallHookPayload)
    (state : StagedState) :
    account (exec (turn.consultModel groups payload >>= turn.actOn) state).2 =
      account state + turn.lost groups payload state.world := by
  obtain ⟨records, responds, tokens⟩ := turn.exec_respond payload state
  have grouped : turn.consultModel groups payload >>= turn.actOn =
      (turn.chatWithTools payload.turn.llmMessages payload.tools >>=
        turn.repairIfNeeded payload.turn.llmMessages payload.tools) >>= fun response =>
          turn.concludeResponse groups response >>= turn.actOn := by
    simp only [consultModel, bind_assoc]
  rw [grouped, lost]
  cases answer : turn.respond payload with
  | error error =>
      rw [answer] at responds tokens
      rw [exec_bind_error responds]
      exact (balance_append _ _).trans (congrArg _ tokens)
  | ok response =>
      rw [answer] at responds tokens
      rw [exec_bind_ok responds]
      have concludes := turn.exec_concludeResponse groups response
        { state with records := state.records ++ records }
      have spent : balance (state.records ++ records) =
          account state + (turn.replaced payload + response.usage.tokens) :=
        (balance_append _ _).trans (congrArg _ tokens)
      simp only [unattached]
      cases made : shortenCallIds response.toolCalls with
      | error error =>
          simp only [made] at concludes
          rw [exec_bind_error concludes]
          exact spent
      | ok calls =>
          simp only [made] at concludes
          obtain ⟨more, quiet, prepared⟩ := concludes
          rw [exec_bind_ok prepared, account_actOn]
          change balance (state.records ++ records ++ more) - _ = _
          rw [balance_append, quiet, add_zero, spent]
          let concluded := turn.conclude groups response calls state.world
          change _ - (if turn.carries concluded.1 concluded.2 then response.usage.tokens else 0) =
            account state + (turn.replaced payload +
              if turn.carries concluded.1 concluded.2 then 0 else response.usage.tokens)
          split
          · rw [← add_assoc, add_sub_cancel_right, add_zero]
          · rw [sub_zero]

/-- The balance of a whole turn. -/
theorem balance_runTurn (world : HookWorld) :
    balance (turn.runTurn world) = turn.lostTokens world := by
  unfold lostTokens call
  cases begins : turn.skips with
  | true =>
      rw [runTurn, runTurnWithPolicy, if_pos begins]
      rfl
  | false =>
      obtain ⟨ending, same, failed⟩ := turn.runTurn_eq begins world
      have silent : balance ending = 0 := balance_quiet fun record member => by
        obtain ⟨error, rfl⟩ := failed record member
        exact ⟨rfl, rfl⟩
      have quiet := turn.keeps_prepareCall { world := world }
      rw [same, balance_append, silent, add_zero, prepareTurn, bind_assoc,
        if_neg Bool.false_ne_true]
      cases prepared : exec turn.prepareCall { world := world } with
      | mk outcome after =>
          rw [prepared] at quiet
          change after.records = [] at quiet
          cases outcome with
          | error error =>
              rw [exec_bind_error prepared, quiet]
              rfl
          | ok answer =>
              obtain ⟨groups, payload⟩ := answer
              rw [exec_bind_ok prepared]
              simp only
              cases payload.forceFinish with
              | true =>
                  change balance (after.records ++ [.forceFinished _ _ _]) = 0
                  rw [quiet]
                  rfl
              | false =>
                  refine (turn.account_consultModel groups payload after).trans ?_
                  rw [account, quiet]
                  exact zero_add _

/-- **Token accounts.** The events of a turn carry the usage of all calls of models in it, exactly
when the usage that is lost adds up to zero: that of a response that is replaced, that of the final
one unless an event carries it, and that of the models that hooks and tools call. -/
theorem tokens_conserved_iff (world : HookWorld) :
    persistedTokens (turn.runTurn world) = turn.usedTokens world ↔
      turn.lostTokens world + turn.consultedTokens world = 0 := by
  have balanced : answeredTokens (turn.runTurn world) - persistedTokens (turn.runTurn world) =
      turn.lostTokens world := turn.balance_runTurn world
  rw [← balanced, usedTokens, eq_comm, ← sub_eq_zero, sub_add_eq_add_sub]

/-- A turn in which the first response is cut off in the arguments of a call, and repaired. -/
def repairedTurn : StagedTurn where
  sessionId := "s1"
  taskType := "general"
  isSubSession := false
  hasMemory := true
  hasGateway := true
  resolvedGroups := []
  toolSpecs := []
  tokenBudget := none
  opening := .ok []
  build := fun history => .ok ([], history, none)
  toolsPreparedHooks := fun _ => []
  beforeLlmCallHooks := fun _ => []
  afterLlmResponseHooks := fun _ => []
  beforeToolCallHooks := fun _ _ => []
  afterToolCallHooks := fun _ _ => []
  chat := fun messages _ => .ok <|
    if messages.isEmpty then
      { text := ""
        toolCalls := [⟨"1", "write_file", "\x7b"⟩]
        usage := { promptTokens := some 900, completionTokens := some 100, totalTokens := some 1000 }
        finishReason := some "length" }
    else
      { text := ""
        toolCalls := [⟨"2", "write_file", "\x7b\x7d"⟩]
        usage := { promptTokens := some 950, completionTokens := some 20, totalTokens := some 970 }
        finishReason := some "tool_calls" }
  loads := fun text => text = "\x7b\x7d"
  tool := fun _ _ world => (.ok (some "done"), world)
  recordEvent := fun _ => true
  raises := fun _ => none

/-- A turn whose response is persisted, and a hook that asks a model for an extract of it. -/
def extractingTurn : StagedTurn :=
  { repairedTurn with
    afterLlmResponseHooks := fun _ =>
      [({ name := "session_memory_extraction", priority := 100 }, fun payload => do
        modify fun world => { world with
          consulted := world.consulted ++ [{ totalTokens := some 300 }] }
        return { status := .ok, patchedPayload := some payload })]
    chat := fun _ _ => .ok
      { text := "done"
        toolCalls := []
        usage := { totalTokens := some 1000 }
        finishReason := some "stop" } }

/-- The tokens of a response that has been cut off are not persisted, and those of a model that a
hook calls are not either. -/
theorem truncated_tokens_lost :
    persistedTokens (repairedTurn.runTurn {}) = (950, 20, 970) ∧
      repairedTurn.usedTokens {} = (1850, 120, 1970) ∧
      persistedTokens (extractingTurn.runTurn {}) = (0, 0, 1000) ∧
      extractingTurn.usedTokens {} = (0, 0, 1300) := by
  decide +kernel

end StagedTurn

end FairyClaw
