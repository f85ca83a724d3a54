import FairyClaw.Context.HistoryIr
import FairyClaw.Foundation.Decimal
import FairyClaw.Hooks.Runtime
import Mathlib.Data.List.Chain

/-! # Assembling the messages for the model

The assembler turns a history into chat messages. Rounds with consecutive call numbers
become the calls of one assistant message, which takes over the text of an assistant
block right before them, and the results follow as tool messages. A batch is a chain
of consecutive numbers (`FairyClaw.isChain_collect`), so its call ids differ.
-/

namespace FairyClaw

open Foundation

/-- The roles of messages to the model. -/
inductive LlmRole
  | system
  | user
  | assistant
  | tool
  deriving DecidableEq, Repr

/-- A chat message; a message without tool calls carries none. -/
structure LlmChatMessage where
  role : LlmRole
  content : OpenaiContent
  toolCalls : List LlmToolCallRequest := []
  toolCallId : Option String := none
  name : Option String := none

/-- The text of the system prompt. -/
structure SystemPromptPart where
  text : String

/-- The role of a message of the history, for the model. -/
def SessionMessageRole.llmRole : SessionMessageRole → LlmRole
  | system => .system
  | user => .user
  | assistant => .assistant

/-- What the model sees of one item of the history. -/
inductive TranscriptEntry
  | message (role : LlmRole) (content : OpenaiContent)
  | round (name callId argumentsJson toolResult : String)

/-- What an item says, or what was called and answered. -/
def ChatHistoryItem.transcript : ChatHistoryItem → TranscriptEntry
  | .block message => .message message.role.llmRole message.asOpenaiContent
  | .round call => .round call.toolName call.callId call.argumentsJson call.toolResult

/-- `_tool_call_ordinal`: the number in `tc_2` or `tc_2_xxx`. -/
def toolCallOrdinal (callId : String) : Option Nat :=
  match "tc_".toList.isPrefixOf? callId.toList with
  | none => none
  | some rest =>
      let digits := rest.takeWhile isDecimal
      let after := rest.dropWhile isDecimal
      -- A final line break still counts as the end of the id.
      if digits ≠ [] ∧ (after.head? = some '_' ∨ after = [] ∨ after = ['\n']) then parseInt digits
      else none

/-- `_to_tool_call_request`: the call of a round. -/
def toToolCallRequest (entry : ToolCallRound) : LlmToolCallRequest :=
  { callId := entry.callId, name := entry.toolName, argumentsJson := entry.argumentsJson }

/-- The answer of a round. -/
def toolResultMessage (entry : ToolCallRound) : LlmChatMessage where
  role := .tool
  content := .text entry.toolResult
  toolCallId := some entry.callId
  name := some entry.toolName

/-- The rounds that continue a batch whose next call number is `expected`. -/
def collectFrom (expected : Option Nat) : List ChatHistoryItem → List ToolCallRound
  | .round round :: rest =>
      match expected, toolCallOrdinal round.callId with
      | some next, some current =>
          if current = next then round :: collectFrom (some (current + 1)) rest else []
      | _, _ => []
  | _ => []

/-- `_collect_consecutive_tool_rounds`: the first round opens the batch whatever its id. -/
def collectConsecutiveToolRounds : List ChatHistoryItem → List ToolCallRound
  | .round round :: rest =>
      round :: collectFrom ((toolCallOrdinal round.callId).map (· + 1)) rest
  | _ => []

/-- The message of the history, for the model. -/
def blockMessage (block : SessionMessageBlock) : LlmChatMessage :=
  { role := block.role.llmRole, content := block.asOpenaiContent }

/-- An assistant message with the calls of a batch, and the results of the calls. -/
def toolBatch (content : OpenaiContent) (rounds : List ToolCallRound) : List LlmChatMessage :=
  { role := .assistant, content := content, toolCalls := rounds.map toToolCallRequest } ::
    rounds.map toolResultMessage

/-- The loop of `assemble` over the history. -/
def assembleEntries : List ChatHistoryItem → List LlmChatMessage
  | [] => []
  | .block block :: rest =>
      let rounds := collectConsecutiveToolRounds rest
      if block.role = .assistant ∧ rounds ≠ [] then
        toolBatch block.asOpenaiContent rounds ++ assembleEntries (rest.drop rounds.length)
      else blockMessage block :: assembleEntries rest
  | .round round :: rest =>
      let rounds := collectConsecutiveToolRounds (.round round :: rest)
      toolBatch (.text "") rounds ++ assembleEntries ((.round round :: rest).drop rounds.length)
termination_by entries => entries.length
decreasing_by
  all_goals simp only [List.length_cons, List.length_drop, collectConsecutiveToolRounds]; omega

/-- `LlmMessageAssembler.assemble` -/
def assemble (systemPrompt : SystemPromptPart) (historyEntries : List ChatHistoryItem)
    (userEntry : Option UserTurn) : List LlmChatMessage :=
  { role := .system, content := .text systemPrompt.text } :: assembleEntries historyEntries ++
    (userEntry.map fun entry => blockMessage entry.message).toList

/-! ## Batches -/

/-- The second call number is the successor of the first. -/
def follows (first second : ToolCallRound) : Bool :=
  match toolCallOrdinal first.callId, toolCallOrdinal second.callId with
  | some earlier, some later => later = earlier + 1
  | _, _ => false

/-- A round follows another one when its ordinal is the next. -/
theorem follows_iff {first second : ToolCallRound} :
    follows first second ↔ ∃ number, toolCallOrdinal first.callId = some number ∧
      toolCallOrdinal second.callId = some (number + 1) := by
  unfold follows
  cases toolCallOrdinal first.callId <;> cases toolCallOrdinal second.callId <;> simp

/-- A batch goes on after a round as long as the numbers follow each other. -/
@[simp] theorem collectFrom_round (last next : ToolCallRound) (rest : List ChatHistoryItem) :
    collectFrom ((toolCallOrdinal last.callId).map (· + 1)) (.round next :: rest) =
      if follows last next then
        next :: collectFrom ((toolCallOrdinal next.callId).map (· + 1)) rest
      else [] := by
  cases lastNumber : toolCallOrdinal last.callId <;>
    cases nextNumber : toolCallOrdinal next.callId <;>
    simp [collectFrom, follows, lastNumber, nextNumber]

/-- A message ends the batch. -/
@[simp] theorem collectFrom_block (expected : Option Nat) (block : SessionMessageBlock)
    (rest : List ChatHistoryItem) : collectFrom expected (.block block :: rest) = [] := rfl

/-- The end of the history ends the batch. -/
@[simp] theorem collectFrom_nil (expected : Option Nat) : collectFrom expected [] = [] := rfl

/-- A round opens a batch with those that follow it. -/
@[simp] theorem collect_round (round : ToolCallRound) (rest : List ChatHistoryItem) :
    collectConsecutiveToolRounds (.round round :: rest) =
      round :: collectFrom ((toolCallOrdinal round.callId).map (· + 1)) rest := rfl

/-- A message opens no batch. -/
@[simp] theorem collect_block (block : SessionMessageBlock) (rest : List ChatHistoryItem) :
    collectConsecutiveToolRounds (.block block :: rest) = [] := rfl

/-- At the end there is no batch. -/
@[simp] theorem collect_nil : collectConsecutiveToolRounds [] = [] := rfl

/-- A batch is the front part of the history. -/
theorem collectFrom_append_drop (last : ToolCallRound) (entries : List ChatHistoryItem) :
    let rounds := collectFrom ((toolCallOrdinal last.callId).map (· + 1)) entries
    rounds.map .round ++ entries.drop rounds.length = entries := by
  induction entries generalizing last with
  | nil => rfl
  | cons item rest ih =>
      cases item with
      | block => rfl
      | round next =>
          by_cases following : follows last next
          · simpa [following] using ih next
          · simp [following]

/-- The batch and what is left of the history make up the history. -/
theorem collect_append_drop (entries : List ChatHistoryItem) :
    (collectConsecutiveToolRounds entries).map .round ++
      entries.drop (collectConsecutiveToolRounds entries).length = entries := by
  cases entries with
  | nil => rfl
  | cons item rest =>
      cases item with
      | block => rfl
      | round round => simpa using collectFrom_append_drop round rest

/-- Each round of a batch follows the one before. -/
theorem isChain_collectFrom (last : ToolCallRound) (entries : List ChatHistoryItem) :
    (last :: collectFrom ((toolCallOrdinal last.callId).map (· + 1)) entries).IsChain
      (follows · ·) := by
  induction entries generalizing last with
  | nil => exact List.isChain_singleton last
  | cons item rest ih =>
      cases item with
      | block => exact List.isChain_singleton last
      | round next =>
          by_cases following : follows last next
          · simp only [collectFrom_round, following, ↓reduceIte]
            exact List.isChain_cons_cons.mpr ⟨following, ih next⟩
          · simp [following]

/-- The numbers of a batch follow each other. -/
theorem isChain_collect (entries : List ChatHistoryItem) :
    (collectConsecutiveToolRounds entries).IsChain (follows · ·) := by
  cases entries with
  | nil => exact List.isChain_nil
  | cons item rest =>
      cases item with
      | block => exact List.isChain_nil
      | round round => exact isChain_collectFrom round rest

/-- Neighbours in the history that share a batch. -/
def ChatHistoryItem.joins : ChatHistoryItem → ChatHistoryItem → Bool
  | .round first, .round second => follows first second
  | _, _ => false

/-- The round after a batch does not follow its last one. -/
theorem collectFrom_stops (last : ToolCallRound) (entries : List ChatHistoryItem) :
    let rounds := collectFrom ((toolCallOrdinal last.callId).map (· + 1)) entries
    ∀ final ∈ (last :: rounds).getLast?, ∀ next ∈ (entries.drop rounds.length).head?,
      ChatHistoryItem.joins (.round final) next = false := by
  induction entries generalizing last with
  | nil => simp
  | cons item rest ih =>
      cases item with
      | block => simp [ChatHistoryItem.joins]
      | round next =>
          by_cases following : follows last next
          · simpa [following] using ih next
          · simp [following, ChatHistoryItem.joins]

/-- The item after a batch does not share it. -/
theorem collect_stops (entries : List ChatHistoryItem) :
    let rounds := collectConsecutiveToolRounds entries
    ∀ final ∈ rounds.getLast?, ∀ next ∈ (entries.drop rounds.length).head?,
      ChatHistoryItem.joins (.round final) next = false := by
  cases entries with
  | nil => simp
  | cons item rest =>
      cases item with
      | block => simp
      | round round => simpa using collectFrom_stops round rest

/-- The first call has a number below the second's. -/
def Precedes (first second : ToolCallRound) : Prop :=
  ∃ earlier later, toolCallOrdinal first.callId = some earlier ∧
    toolCallOrdinal second.callId = some later ∧ earlier < later

/-- A round that is followed comes before. -/
theorem precedes_of_follows {first second : ToolCallRound} (following : follows first second) :
    Precedes first second := by
  obtain ⟨number, isFirst, isSecond⟩ := follows_iff.mp following
  exact ⟨number, number + 1, isFirst, isSecond, Nat.lt_succ_self number⟩

/-- Rounds come before others in turn. -/
theorem Precedes.trans {first second third : ToolCallRound} (one : Precedes first second)
    (two : Precedes second third) : Precedes first third := by
  obtain ⟨low, middle, isLow, isMiddle, below⟩ := one
  obtain ⟨middle', high, isMiddle', isHigh, above⟩ := two
  have same : middle = middle' := Option.some.inj (isMiddle.symm.trans isMiddle')
  exact ⟨low, high, isLow, isHigh, by omega⟩

instance : IsTrans ToolCallRound Precedes := ⟨fun _ _ _ => Precedes.trans⟩

/-- The call ids of a batch are pairwise distinct. -/
theorem nodup_collect (entries : List ChatHistoryItem) :
    ((collectConsecutiveToolRounds entries).map ToolCallRound.callId).Nodup := by
  have ordered : (collectConsecutiveToolRounds entries).Pairwise Precedes :=
    List.isChain_iff_pairwise.mp
      ((isChain_collect entries).imp fun _ _ => precedes_of_follows)
  refine List.pairwise_map.mpr (ordered.imp ?_)
  rintro first second ⟨earlier, later, isEarlier, isLater, below⟩ same
  rw [same, isLater] at isEarlier
  cases isEarlier
  exact Nat.lt_irrefl _ below

end FairyClaw
