import FairyClaw.Context.Assembler

/-! # What the assembled messages keep of the history

Every assistant message with calls is followed by exactly the results of its calls
(`FairyClaw.Paired`), for every history. A reader gets the history back, up to the
assistant blocks with an empty content that stand right before a round
(`FairyClaw.assemble_lossless`): such a block and no block assemble alike.
-/

namespace FairyClaw

/-- Every assistant message with tool calls is followed by one tool message per call,
in order and under the call's id; no tool message stands elsewhere. -/
inductive Paired : List LlmChatMessage → Prop
  | nil : Paired []
  | message {message : LlmChatMessage} {rest : List LlmChatMessage} (speaks : message.role ≠ .tool)
      (plain : message.toolCalls = []) (paired : Paired rest) : Paired (message :: rest)
  | calls {message : LlmChatMessage} {results rest : List LlmChatMessage}
      (assistant : message.role = .assistant) (called : message.toolCalls ≠ [])
      (distinct : (message.toolCalls.map LlmToolCallRequest.callId).Nodup)
      (answered : results.map LlmChatMessage.toolCallId =
        message.toolCalls.map fun call => some call.callId)
      (tools : ∀ result ∈ results, result.role = .tool ∧ result.toolCalls = [])
      (paired : Paired rest) : Paired (message :: results ++ rest)

/-- Read one call with the message that answers it. -/
def readRound (call : LlmToolCallRequest) (result : LlmChatMessage) : TranscriptEntry :=
  let toolResult :=
    match result.content with
    | .text text => text
    | .parts _ => ""
  .round call.name call.callId call.argumentsJson toolResult

/-- Read the messages back: an assistant message with calls is a block, unless its
content is empty, and the rounds of its calls. -/
def readBack : List LlmChatMessage → List TranscriptEntry
  | [] => []
  | message :: rest =>
      (if message.role = .tool then []
      else if message.toolCalls = [] then [.message message.role message.content]
      else (if message.content.isEmpty then [] else [.message message.role message.content]) ++
        List.zipWith readRound message.toolCalls rest) ++ readBack rest

/-- The items that the messages tell apart: all but the assistant blocks with an empty
content right before a round. -/
def spoken : List ChatHistoryItem → List ChatHistoryItem
  | [] => []
  | .block block :: .round round :: rest =>
      if block.role = .assistant ∧ block.asOpenaiContent.isEmpty then spoken (.round round :: rest)
      else .block block :: spoken (.round round :: rest)
  | item :: rest => item :: spoken rest

/-- A block right before a round shows in the messages. -/
def Shows : ChatHistoryItem → ChatHistoryItem → Prop
  | .block block, .round _ => block.role = .assistant → block.asOpenaiContent.isEmpty = false
  | _, _ => True

/-! ## Pairing -/

/-- A batch of rounds with different ids is paired. -/
theorem paired_toolBatch (content : OpenaiContent) {rounds : List ToolCallRound}
    {rest : List LlmChatMessage} (called : rounds ≠ [])
    (distinct : (rounds.map ToolCallRound.callId).Nodup) (paired : Paired rest) :
    Paired (toolBatch content rounds ++ rest) := by
  refine Paired.calls rfl (by simpa using called) ?_ ?_ ?_ paired
  · simpa [Function.comp_def, toToolCallRequest] using distinct
  · simp [Function.comp_def, toToolCallRequest, toolResultMessage]
  · intro result member
    obtain ⟨round, _, rfl⟩ := List.mem_map.mp member
    exact ⟨rfl, rfl⟩

/-- A message of the history needs no answer. -/
theorem paired_blockMessage (block : SessionMessageBlock) {rest : List LlmChatMessage}
    (paired : Paired rest) : Paired (blockMessage block :: rest) := by
  refine Paired.message ?_ rfl paired
  cases role : block.role <;> simp [blockMessage, role, SessionMessageRole.llmRole]

/-- The assembled messages are well paired. -/
theorem paired_assembleEntries (entries : List ChatHistoryItem) {rest : List LlmChatMessage}
    (paired : Paired rest) : Paired (assembleEntries entries ++ rest) := by
  induction entries using assembleEntries.induct with
  | case1 => simpa [assembleEntries] using paired
  | case2 block entries rounds speaks ih =>
      rw [assembleEntries, if_pos speaks, List.append_assoc]
      exact paired_toolBatch _ speaks.2 (nodup_collect entries) ih
  | case3 block entries rounds silent ih =>
      rw [assembleEntries, if_neg silent]
      exact paired_blockMessage block ih
  | case4 round entries rounds ih =>
      rw [assembleEntries, List.append_assoc]
      exact paired_toolBatch _ (by simp) (nodup_collect (.round round :: entries)) ih

/-! ## Reading back -/

/-- The answers of a batch add nothing to what is read back. -/
theorem readBack_results (rounds : List ToolCallRound) (rest : List LlmChatMessage) :
    readBack (rounds.map toolResultMessage ++ rest) = readBack rest := by
  induction rounds with
  | nil => rfl
  | cons round rounds ih => simpa [readBack, toolResultMessage] using ih

/-- Calls and answers read back as the rounds. -/
theorem zipWith_readRound (rounds : List ToolCallRound) (rest : List LlmChatMessage) :
    List.zipWith readRound (rounds.map toToolCallRequest)
        (rounds.map toolResultMessage ++ rest) =
      rounds.map (ChatHistoryItem.transcript ∘ .round) := by
  induction rounds with
  | nil => simp
  | cons round rounds ih =>
      simpa [readRound, toToolCallRequest, toolResultMessage, ChatHistoryItem.transcript] using ih

/-- A batch reads back as its preface and its rounds. -/
theorem readBack_toolBatch (content : OpenaiContent) {rounds : List ToolCallRound}
    (called : rounds ≠ []) (rest : List LlmChatMessage) :
    readBack (toolBatch content rounds ++ rest) =
      (if content.isEmpty then [] else [.message .assistant content]) ++
        rounds.map (ChatHistoryItem.transcript ∘ .round) ++ readBack rest := by
  simp [toolBatch, readBack, called, zipWith_readRound, readBack_results]

/-- A message reads back as it was. -/
theorem readBack_blockMessage (block : SessionMessageBlock) (rest : List LlmChatMessage) :
    readBack (blockMessage block :: rest) =
      (ChatHistoryItem.block block).transcript :: readBack rest := by
  cases role : block.role <;>
    simp [readBack, blockMessage, role, SessionMessageRole.llmRole, ChatHistoryItem.transcript]

/-- Rounds are spoken. -/
theorem spoken_rounds (rounds : List ToolCallRound) (rest : List ChatHistoryItem) :
    spoken (rounds.map .round ++ rest) = rounds.map .round ++ spoken rest := by
  induction rounds with
  | nil => rfl
  | cons round rounds ih => simp [spoken, ih]

/-- The spoken items of a history, its next batch split off. -/
theorem spoken_collect (entries : List ChatHistoryItem) :
    spoken entries = (collectConsecutiveToolRounds entries).map .round ++
      spoken (entries.drop (collectConsecutiveToolRounds entries).length) := by
  rw [← spoken_rounds, collect_append_drop]

/-- A message is spoken unless it is empty and merges into a batch. -/
theorem spoken_block (block : SessionMessageBlock) (entries : List ChatHistoryItem) :
    spoken (.block block :: entries) =
      (if block.role = .assistant ∧ collectConsecutiveToolRounds entries ≠ [] ∧
        block.asOpenaiContent.isEmpty then [] else [.block block]) ++ spoken entries := by
  cases entries with
  | nil => simp [spoken]
  | cons item rest =>
      cases item with
      | block => simp [spoken]
      | round round =>
          simp only [spoken, collect_round, ne_eq, reduceCtorEq, not_false_eq_true, true_and]
          split <;> rfl

/-- The assembled messages read back as what is spoken. -/
theorem readBack_assembleEntries (entries : List ChatHistoryItem) (rest : List LlmChatMessage) :
    readBack (assembleEntries entries ++ rest) =
      (spoken entries).map ChatHistoryItem.transcript ++ readBack rest := by
  induction entries using assembleEntries.induct with
  | case1 => simp [assembleEntries, spoken]
  | case2 block entries rounds speaks ih =>
      rw [assembleEntries, if_pos speaks, List.append_assoc, readBack_toolBatch _ speaks.2, ih,
        spoken_block, spoken_collect entries]
      by_cases empty : block.asOpenaiContent.isEmpty
      · simp [empty, speaks.1, speaks.2, rounds]
      · simp [empty, speaks.1, rounds, ChatHistoryItem.transcript, SessionMessageRole.llmRole]
  | case3 block entries rounds silent ih =>
      have kept : ¬(block.role = .assistant ∧ collectConsecutiveToolRounds entries ≠ [] ∧
          block.asOpenaiContent.isEmpty) := fun ⟨role, called, _⟩ => silent ⟨role, called⟩
      rw [assembleEntries, if_neg silent, List.cons_append, readBack_blockMessage, ih,
        spoken_block, if_neg kept]
      rfl
  | case4 round entries rounds ih =>
      rw [assembleEntries, List.append_assoc, readBack_toolBatch _ (by simp), ih,
        spoken_collect (.round round :: entries)]
      simp [OpenaiContent.isEmpty, rounds]

/-! ## What is lost -/

/-- What is spoken is part of the history. -/
theorem spoken_sublist (history : List ChatHistoryItem) : (spoken history).Sublist history := by
  induction history using spoken.induct with
  | case1 => exact List.Sublist.slnil
  | case2 block round rest empty ih =>
      rw [spoken, if_pos empty]
      exact ih.cons _
  | case3 block round rest full ih =>
      rw [spoken, if_neg full]
      exact ih.cons_cons _
  | case4 item rest single ih =>
      rw [spoken.eq_3 _ _ single]
      exact ih.cons_cons _

/-- No item is lost exactly when every block right before a round shows. -/
theorem length_spoken_iff (history : List ChatHistoryItem) :
    (spoken history).length = history.length ↔ history.IsChain Shows := by
  induction history using spoken.induct with
  | case1 => simp [spoken]
  | case2 block round rest empty ih =>
      have shorter := (spoken_sublist (.round round :: rest)).length_le
      simp only [spoken, empty, and_self, ↓reduceIte, List.length_cons, List.isChain_cons_cons,
        Shows] at shorter ⊢
      constructor
      · omega
      · rintro ⟨shows, _⟩
        simp at shows
  | case3 block round rest full ih =>
      have shows : Shows (.block block) (.round round) := by
        intro role
        by_contra empty
        exact full ⟨role, by simpa using empty⟩
      simp only [spoken, full, ↓reduceIte, List.length_cons, List.isChain_cons_cons, shows,
        true_and, Nat.add_right_cancel_iff] at ih ⊢
      exact ih
  | case4 item rest single ih =>
      rw [spoken.eq_3 _ _ single]
      cases rest with
      | nil => simp [spoken]
      | cons next rest =>
          have shows : Shows item next := by
            cases item with
            | round => trivial
            | block block =>
                cases next with
                | block => trivial
                | round round => exact (single block round rest rfl rfl).elim
          simp only [List.length_cons, List.isChain_cons_cons, shows, true_and,
            Nat.add_right_cancel_iff] at ih ⊢
          exact ih

/-- A history that shows everything is spoken as a whole. -/
theorem spoken_eq_of_shows {history : List ChatHistoryItem} (shows : history.IsChain Shows) :
    spoken history = history :=
  (spoken_sublist history).eq_of_length ((length_spoken_iff history).mpr shows)

/-- The system message is followed by well-paired messages from which the history and
the user turn are read back, exactly when every block right before a round shows. -/
theorem assemble_lossless (systemPrompt : SystemPromptPart) (history : List ChatHistoryItem)
    (userEntry : Option UserTurn) :
    ∃ body, assemble systemPrompt history userEntry =
        { role := .system, content := .text systemPrompt.text } :: body ∧
      Paired body ∧
      (readBack body = history.map ChatHistoryItem.transcript ++
          (userEntry.map fun entry => (ChatHistoryItem.block entry.message).transcript).toList ↔
        history.IsChain Shows) := by
  refine ⟨assembleEntries history ++
    (userEntry.map fun entry => blockMessage entry.message).toList, rfl, ?_, ?_⟩
  · refine paired_assembleEntries history ?_
    cases userEntry with
    | none => exact .nil
    | some entry => exact paired_blockMessage entry.message .nil
  · rw [readBack_assembleEntries]
    have turn : readBack (userEntry.map fun entry => blockMessage entry.message).toList =
        (userEntry.map fun entry => (ChatHistoryItem.block entry.message).transcript).toList := by
      cases userEntry with
      | none => rfl
      | some entry => exact readBack_blockMessage entry.message []
    rw [turn, List.append_cancel_right_eq]
    constructor
    · intro same
      exact (length_spoken_iff history).mp (by simpa using congrArg List.length same)
    · intro shows
      rw [spoken_eq_of_shows shows]

/-- An assistant message without text. -/
def emptyBlock : SessionMessageBlock := { role := .assistant, body := .text "" }

/-- A round that lists files. -/
def listRound : ToolCallRound where
  toolName := "list_files"
  callId := "tc_1_1"
  argumentsJson := "null"
  toolResult := ""

/-- An assistant block without content before a round assembles like no block. -/
theorem assemble_empty_preface :
    assemble { text := "" } [.block emptyBlock, .round listRound] none =
        assemble { text := "" } [.round listRound] none ∧
      [ChatHistoryItem.block emptyBlock, .round listRound].map ChatHistoryItem.transcript ≠
        [ChatHistoryItem.round listRound].map ChatHistoryItem.transcript := by
  refine ⟨?_, fun same => ?_⟩
  · simp [assemble, assembleEntries, emptyBlock, SessionMessageBlock.asOpenaiContent,
      MessageBody.asOpenaiContent]
  · cases congrArg List.length same

end FairyClaw
