import FairyClaw.Compression.Protected
import FairyClaw.Context.AssemblerLossless
import FairyClaw.Foundation.JsonGrammar

/-! # The calls of a compressed prompt

A compressed history is assembled anew, so calls and results stay paired whatever is cut. The
arguments of a call are cut as a text, and what is left of them is never JSON. So the calls of a
history survive every budget exactly when no round outside the protected ends has arguments over the
limit (`FairyClaw.keeps_calls_iff`).
-/

namespace FairyClaw

open Foundation

/-- Every assistant message with calls is followed by exactly their results, and there are no other
results. -/
inductive Answered : List LlmChatMessage → Prop
  | nil : Answered []
  | message {message : LlmChatMessage} {rest : List LlmChatMessage} (speaks : message.role ≠ .tool)
      (plain : message.role = .assistant → message.toolCalls = []) (answered : Answered rest) :
      Answered (message :: rest)
  | calls {message : LlmChatMessage} {results rest : List LlmChatMessage}
      (assistant : message.role = .assistant) (called : message.toolCalls ≠ [])
      (distinct : (message.toolCalls.map LlmToolCallRequest.callId).Nodup)
      (results_eq : results.map LlmChatMessage.toolCallId =
        message.toolCalls.map fun call => some call.callId)
      (tools : ∀ result ∈ results, result.role = .tool)
      (answered : Answered rest) : Answered (message :: results ++ rest)

/-- The calls of the assistant messages. -/
def assistantCalls (messages : List LlmChatMessage) : List LlmToolCallRequest :=
  (messages.filter fun message => message.role = .assistant).flatMap LlmChatMessage.toolCalls

/-- Calls with arguments that are JSON, and their results. -/
structure WellFormedCalls (messages : List LlmChatMessage) : Prop where
  parse : ∀ call ∈ assistantCalls messages, isJson call.argumentsJson = true
  answered : Answered messages

/-- The round of an item, if it is one. -/
def ChatHistoryItem.toolRound? : ChatHistoryItem → Option ToolCallRound
  | .round call => some call
  | .block _ => none

/-- The rounds of a history. -/
def toolRounds (historyItems : List ChatHistoryItem) : List ToolCallRound :=
  historyItems.filterMap ChatHistoryItem.toolRound?

/-! ## Assembled calls -/

/-- The rounds are the items that are rounds. -/
theorem mem_toolRounds {historyItems : List ChatHistoryItem} {round : ToolCallRound} :
    round ∈ toolRounds historyItems ↔ .round round ∈ historyItems := by
  unfold toolRounds
  rw [List.mem_filterMap]
  constructor
  · rintro ⟨item, member, read⟩
    cases item with
    | round other =>
        cases read
        exact member
    | block block => cases read
  · exact fun member => ⟨_, member, rfl⟩

/-- Paired messages have an answer for each call. -/
theorem Paired.answered {messages : List LlmChatMessage} (paired : Paired messages) :
    Answered messages := by
  induction paired with
  | nil => exact .nil
  | message speaks plain _ ih => exact .message speaks (fun _ => plain) ih
  | calls assistant called distinct answered tools _ ih =>
      exact .calls assistant called distinct answered
        (fun result member => (tools result member).1) ih

/-- The calls of two parts come one after the other. -/
theorem assistantCalls_append (front back : List LlmChatMessage) :
    assistantCalls (front ++ back) = assistantCalls front ++ assistantCalls back := by
  unfold assistantCalls
  rw [List.filter_append, List.flatMap_append]

/-- A batch makes the calls of its rounds. -/
theorem assistantCalls_toolBatch (content : OpenaiContent) (rounds : List ToolCallRound) :
    assistantCalls (toolBatch content rounds) = rounds.map toToolCallRequest := by
  have silent : (rounds.map toolResultMessage).filter (fun message => message.role = .assistant) =
      [] := by
    rw [List.filter_eq_nil_iff]
    intro message member
    obtain ⟨round, _, rfl⟩ := List.mem_map.mp member
    nofun
  unfold assistantCalls toolBatch
  rw [List.filter_cons_of_pos rfl, silent, List.flatMap_cons, List.flatMap_nil, List.append_nil]

/-- A message of the history makes no call. -/
theorem assistantCalls_blockMessage (block : SessionMessageBlock) (rest : List LlmChatMessage) :
    assistantCalls (blockMessage block :: rest) = assistantCalls rest := by
  unfold assistantCalls
  rw [List.filter_cons]
  split
  · rw [List.flatMap_cons]
    rfl
  · rfl

/-- The consecutive rounds come first. -/
theorem toolRounds_collect (entries : List ChatHistoryItem) :
    toolRounds entries = collectConsecutiveToolRounds entries ++
      toolRounds (entries.drop (collectConsecutiveToolRounds entries).length) := by
  have own (rounds : List ToolCallRound) : toolRounds (rounds.map .round) = rounds := by
    unfold toolRounds
    rw [List.filterMap_map]
    exact List.filterMap_some
  conv_lhs => rw [← collect_append_drop entries]
  unfold toolRounds at own ⊢
  rw [List.filterMap_append, own]

/-- The calls of the assembled messages are those of the history, in its order. -/
theorem assistantCalls_assembleEntries (entries : List ChatHistoryItem) :
    assistantCalls (assembleEntries entries) = (toolRounds entries).map toToolCallRequest := by
  induction entries using assembleEntries.induct with
  | case1 => simp [assembleEntries, assistantCalls, toolRounds]
  | case2 block entries rounds speaks ih =>
      rw [assembleEntries, if_pos speaks, assistantCalls_append, assistantCalls_toolBatch, ih,
        ← List.map_append]
      exact congrArg (List.map toToolCallRequest) (toolRounds_collect entries).symm
  | case3 block entries rounds silent ih =>
      rw [assembleEntries, if_neg silent, assistantCalls_blockMessage, ih]
      rfl
  | case4 round entries rounds ih =>
      rw [assembleEntries, assistantCalls_append, assistantCalls_toolBatch, ih, ← List.map_append]
      exact congrArg (List.map toToolCallRequest)
        (toolRounds_collect (.round round :: entries)).symm

section Rebuilt

variable (payload : BeforeLlmCallHookPayload) (historyItems : List ChatHistoryItem)

/-- The injected messages that a rebuilding keeps are system messages. -/
theorem extraSystemMessages_system {message : LlmChatMessage}
    (member : message ∈ (extractSystemMessages payload).2) : message.role = .system := by
  unfold extractSystemMessages at member
  split at member
  · cases member
  · split at member
    · cases member
    · simpa using List.mem_takeWhile_imp member

/-- The rebuilt messages, in parts. -/
theorem rebuildMessages_eq : rebuildMessages payload historyItems =
    { role := .system, content := .text (extractSystemMessages payload).1 } ::
      (extractSystemMessages payload).2 ++ (assembleEntries historyItems ++
        (payload.turn.userTurn.map fun entry => blockMessage entry.message).toList) := by
  unfold rebuildMessages assemble
  by_cases plain : (extractSystemMessages payload).2 = []
  · simp [plain]
  · simp [plain]

/-- The rebuilt messages make the calls of the rounds. -/
theorem assistantCalls_rebuildMessages :
    assistantCalls (rebuildMessages payload historyItems) =
      (toolRounds historyItems).map toToolCallRequest := by
  have injected : assistantCalls (extractSystemMessages payload).2 = [] := by
    unfold assistantCalls
    rw [List.filter_eq_nil_iff.mpr, List.flatMap_nil]
    intro message member
    simp [extraSystemMessages_system payload member]
  have user : assistantCalls
      (payload.turn.userTurn.map fun entry => blockMessage entry.message).toList = [] := by
    cases payload.turn.userTurn with
    | none => rfl
    | some entry => exact assistantCalls_blockMessage entry.message []
  have system : assistantCalls
      [{ role := .system, content := .text (extractSystemMessages payload).1 }] = [] := rfl
  rw [rebuildMessages_eq, ← List.singleton_append, List.append_assoc, assistantCalls_append, system,
    assistantCalls_append, injected, assistantCalls_append, user, assistantCalls_assembleEntries,
    List.append_nil]
  rfl

/-- System messages before the others leave the calls answered. -/
theorem answered_system {messages rest : List LlmChatMessage}
    (system : ∀ message ∈ messages, message.role = .system) (answered : Answered rest) :
    Answered (messages ++ rest) := by
  induction messages with
  | nil => exact answered
  | cons message messages ih =>
      have role := system message List.mem_cons_self
      refine .message (by rw [role]; nofun) (by rw [role]; nofun) (ih fun other member => ?_)
      exact system other (List.mem_cons_of_mem _ member)

/-- In the rebuilt messages every call is answered. -/
theorem answered_rebuildMessages : Answered (rebuildMessages payload historyItems) := by
  have user : Paired
      (payload.turn.userTurn.map fun entry => blockMessage entry.message).toList := by
    cases payload.turn.userTurn with
    | none => exact .nil
    | some entry => exact paired_blockMessage entry.message .nil
  rw [rebuildMessages_eq]
  refine answered_system (fun message member => ?_)
    (paired_assembleEntries historyItems user).answered
  rcases List.mem_cons.mp member with rfl | injected
  · rfl
  · exact extraSystemMessages_system payload injected

/-- The rebuilt messages are well formed when the arguments of the rounds are JSON. -/
theorem wellFormedCalls_rebuild_iff : WellFormedCalls (rebuildMessages payload historyItems) ↔
    ∀ round ∈ toolRounds historyItems, isJson round.argumentsJson = true := by
  constructor
  · intro formed round member
    refine formed.parse (toToolCallRequest round) ?_
    rw [assistantCalls_rebuildMessages]
    exact List.mem_map_of_mem member
  · intro parse
    refine ⟨fun call member => ?_, answered_rebuildMessages payload historyItems⟩
    rw [assistantCalls_rebuildMessages] at member
    obtain ⟨round, among, rfl⟩ := List.mem_map.mp member
    exact parse round among

end Rebuilt

/-! ## Rounds through the hook -/

section Stages

variable {env : CompressionEnv} {config : CompressionConfig} {payload : BeforeLlmCallHookPayload}
  {historyItems next : List ChatHistoryItem} {records stored : List JsonObject}

/-- Fewer items have fewer rounds. -/
theorem toolRounds_mono (kept : historyItems ⊆ next) :
    toolRounds historyItems ⊆ toolRounds next :=
  fun _ member => mem_toolRounds.mpr (kept (mem_toolRounds.mp member))

/-- The recent items are items of the history. -/
theorem recentHistory_subset (isSubSession : Bool) (config : CompressionConfig)
    (historyItems : List ChatHistoryItem) :
    recentHistory isSubSession config historyItems ⊆ historyItems := by
  have kept : (keepRecentHistory historyItems config.recencyWindow).1 ⊆ historyItems :=
    List.drop_subset _ _
  unfold recentHistory
  dsimp only
  split
  · split
    · exact List.append_subset.mpr ⟨List.take_subset _ _, List.drop_subset _ _⟩
    · exact kept
  · exact kept

/-- Unloading changes no round. -/
theorem toolRounds_unloaded {protectedPrefix : Nat} {guardMessages : Int}
    (stepped : unloadOldestImageMessage env historyItems protectedPrefix guardMessages records =
      .ok (some (next, stored))) : toolRounds next ⊆ toolRounds historyItems := by
  unfold unloadOldestImageMessage at stepped
  split at stepped
  · cases stepped
  · split at stepped
    · cases stepped
    · obtain ⟨idx, _, block, _, _, _, rfl⟩ := unloadAt_some stepped
      intro call member
      rcases List.mem_or_eq_of_mem_set (mem_toolRounds.mp member) with before | changed
      · exact mem_toolRounds.mpr before
      · cases changed

/-- Unloading brings no new round. -/
theorem toolRounds_unloadLoop {protectedPrefix : Nat} {guardMessages tokenBudget : Int}
    (ran : unloadLoop env payload protectedPrefix guardMessages tokenBudget historyItems records =
      .ok (next, stored)) : toolRounds next ⊆ toolRounds historyItems :=
  (unloadLoop_rule (motive := fun history _ => toolRounds history ⊆ toolRounds historyItems)
    (fun _ _ _ _ before stepped => List.Subset.trans (toolRounds_unloaded stepped) before)
    (List.Subset.refl _) ran).1

/-- Dropping brings no new round. -/
theorem toolRounds_dropLoop (protectedPrefix : Nat) (tokenBudget : Int)
    (historyItems : List ChatHistoryItem) :
    toolRounds (dropLoop env payload protectedPrefix tokenBudget historyItems) ⊆
      toolRounds historyItems :=
  (dropLoop_rule env payload tokenBudget
    (motive := fun history => toolRounds history ⊆ toolRounds historyItems)
    (fun history _ before _ => List.Subset.trans (toolRounds_mono (List.append_subset.mpr
      ⟨List.take_subset _ history, List.drop_subset _ history⟩)) before)
    (List.Subset.refl _)).1

/-- The rounds of a compressed history have been through the truncation only. -/
theorem executeHook_rounds {contextBudget : Option Int}
    {output : HookStageOutput BeforeLlmCallHookPayload}
    (ran : executeHook env config contextBudget payload records = .ok (output, stored))
    (applied : output.status = .ok) :
    ∃ compressed, output = buildOutput payload compressed ∧
      toolRounds compressed ⊆ toolRounds (truncateLargeItems env config payload.turn.historyItems
        (subSessionPrefixEnd payload.turn.isSubSession payload.turn.historyItems)) := by
  unfold executeHook at ran
  dsimp only at ran
  split at ran
  · cases ran
    cases applied
  · split at ran
    · cases ran
      cases applied
    · split at ran
      · cases ran
        exact ⟨_, rfl, List.Subset.refl _⟩
      · split at ran
        · cases ran
          exact ⟨_, rfl, toolRounds_mono (recentHistory_subset _ _ _)⟩
        · split at ran
          · cases ran
          · next unloaded _ looped =>
              cases ran
              exact ⟨_, rfl, List.Subset.trans (toolRounds_dropLoop _ _ _)
                (List.Subset.trans (toolRounds_unloadLoop looped)
                  (toolRounds_mono (recentHistory_subset _ _ _)))⟩

end Stages

/-! ## The limit on arguments -/

/-- The arguments of every round outside the protected ends are within the limit, if there is
one. -/
def Unclipped (config : CompressionConfig) (isSubSession : Bool)
    (historyItems : List ChatHistoryItem) : Prop :=
  config.toolResultMaxChars ≤ 0 ∨ ∀ idx call, historyItems[idx]? = some (.round call) →
    historyItems.length - latestTurnSuffixLength historyItems ≤ idx ∨
      idx < subSessionPrefixEnd isSubSession historyItems ∨
      call.argumentsJson.toList.length ≤ config.toolResultMaxChars

/-- Whatever the budget and the token counter, the compressed messages have well-formed calls. -/
def KeepsCalls (config : CompressionConfig) (isSubSession : Bool)
    (historyItems : List ChatHistoryItem) : Prop :=
  ∀ env contextBudget payload records output stored,
    payload.turn.historyItems = historyItems → payload.turn.isSubSession = isSubSession →
    executeHook env config contextBudget payload records = .ok (output, stored) →
    output.status = .ok →
      ∃ patched, output.patchedPayload = some patched ∧ WellFormedCalls patched.turn.llmMessages

/-- What is cut is not JSON. -/
theorem isJson_truncateText {text : String} {maxChars : Int}
    (cut : ¬ (maxChars ≤ 0 ∨ text.toList.length ≤ maxChars)) :
    isJson (truncateText text maxChars) = false := by
  refine isJson_of_infix
    ⟨(rstrip (String.ofList (text.toList.take maxChars.toNat))).toList, "..[truncated]".toList, ?_⟩
  rw [truncateText, if_neg cut, String.toList_append, List.append_assoc]
  rfl

/-- A short text is not truncated. -/
theorem truncateText_short {text : String} {maxChars : Int}
    (short : maxChars ≤ 0 ∨ text.toList.length ≤ maxChars) : truncateText text maxChars = text :=
  if_pos short

/-- What truncation makes of a round. -/
theorem truncateLargeItems_round {env : CompressionEnv} {config : CompressionConfig}
    {historyItems : List ChatHistoryItem} {prefixEnd idx : Nat} {call : ToolCallRound}
    (found : historyItems[idx]? = some (.round call)) :
    (truncateLargeItems env config historyItems prefixEnd)[idx]? = some
      (if historyItems.length - latestTurnSuffixLength historyItems ≤ idx ∨ idx < prefixEnd then
        .round call
      else truncateItem config (.round call)) := by
  unfold truncateLargeItems
  dsimp only
  rw [List.getElem?_map, List.getElem?_zipIdx, found]
  simp only [Option.map_some, Nat.zero_add, compressItem]

/-- A message does not become a round. -/
theorem truncateItem_block (config : CompressionConfig) (block : SessionMessageBlock)
    (call : ToolCallRound) : truncateItem config (.block block) ≠ .round call := by
  unfold truncateItem
  dsimp only
  intro same
  split at same <;> cases same

/-- The rounds after truncation are rounds of the history, as they were or cut. -/
theorem mem_truncateLargeItems {env : CompressionEnv} {config : CompressionConfig}
    {historyItems : List ChatHistoryItem} {prefixEnd : Nat} {call : ToolCallRound}
    (member : call ∈ toolRounds (truncateLargeItems env config historyItems prefixEnd)) :
    ∃ idx original, historyItems[idx]? = some (.round original) ∧
      (call = original ∨ ¬ (historyItems.length - latestTurnSuffixLength historyItems ≤ idx ∨
        idx < prefixEnd) ∧
          call.argumentsJson = truncateText original.argumentsJson config.toolResultMaxChars) := by
  obtain ⟨idx, found⟩ := List.mem_iff_getElem?.mp (mem_toolRounds.mp member)
  cases origin : historyItems[idx]? with
  | none =>
      unfold truncateLargeItems at found
      dsimp only at found
      rw [List.getElem?_map, List.getElem?_zipIdx, origin] at found
      cases found
  | some item =>
      cases item with
      | round original =>
          refine ⟨idx, original, origin, ?_⟩
          rw [truncateLargeItems_round origin] at found
          split at found
          · cases found
            exact .inl rfl
          · next open_ =>
              cases found
              exact .inr ⟨open_, rfl⟩
      | block block =>
          unfold truncateLargeItems at found
          dsimp only at found
          rw [List.getElem?_map, List.getElem?_zipIdx, origin] at found
          simp only [Option.map_some, Nat.zero_add, compressItem, Option.some.injEq] at found
          split at found
          · cases found
          · exact absurd found (truncateItem_block config _ call)

/-- Where no arguments are clipped they parse as before. -/
theorem parse_of_unclipped {env : CompressionEnv} {config : CompressionConfig}
    {isSubSession : Bool} {historyItems : List ChatHistoryItem}
    (parse : ∀ call ∈ toolRounds historyItems, isJson call.argumentsJson = true)
    (unclipped : Unclipped config isSubSession historyItems) :
    ∀ call ∈ toolRounds (truncateLargeItems env config historyItems
      (subSessionPrefixEnd isSubSession historyItems)), isJson call.argumentsJson = true := by
  intro call member
  obtain ⟨idx, original, found, rfl | ⟨exposed, cut⟩⟩ := mem_truncateLargeItems member
  · exact parse call (mem_toolRounds.mpr (List.mem_of_getElem? found))
  · have short : config.toolResultMaxChars ≤ 0 ∨
        original.argumentsJson.toList.length ≤ config.toolResultMaxChars := by
      rcases unclipped with unlimited | within
      · exact .inl unlimited
      · rcases within idx original found with latest | start | short
        · exact absurd (.inl latest) exposed
        · exact absurd (.inr start) exposed
        · exact .inr short
    rw [cut, truncateText_short short]
    exact parse original (mem_toolRounds.mpr (List.mem_of_getElem? found))

/-- A prompt that is one message over a budget which fits it after truncation. -/
def tightPayload (isSubSession : Bool) (historyItems truncated : List ChatHistoryItem) :
    BeforeLlmCallHookPayload :=
  let fitting := (assemble { text := "" } truncated none).length
  { turn := {
      llmMessages := List.replicate (fitting + 1) { role := .user, content := .text "" }
      historyItems := historyItems
      userTurn := none
      sessionId := "main"
      taskType := "general"
      isSubSession := isSubSession }
    tools := []
    tokenBudget := some fitting }

/-- Under such a budget the truncated history is what is handed on. -/
theorem executeHook_tight (config : CompressionConfig) (isSubSession : Bool)
    (historyItems : List ChatHistoryItem) :
    let truncated := truncateLargeItems sampleEnv config historyItems
      (subSessionPrefixEnd isSubSession historyItems)
    let payload := tightPayload isSubSession historyItems truncated
    executeHook sampleEnv config none payload [] = .ok (buildOutput payload truncated, []) := by
  intro truncated payload
  let fitting := (assemble { text := "" } truncated none).length
  have messages : payload.turn.llmMessages =
      { role := .user, content := .text "" } ::
        List.replicate fitting { role := .user, content := .text "" } := List.replicate_succ
  have plain : extractSystemMessages payload = ("", []) := by
    unfold extractSystemMessages
    rw [messages]
    rfl
  have rebuilt : rebuildMessages payload truncated = assemble { text := "" } truncated none := by
    rw [rebuildMessages_eq, plain]
    rfl
  have positive : (0 : Int) < fitting := Int.natCast_pos.mpr (Nat.succ_pos _)
  have budget : tokenBudgetOf payload.tokenBudget none = fitting := by
    have own : payload.tokenBudget = some (fitting : Int) := rfl
    rw [tokenBudgetOf, own, Option.getD_some]
    exact if_pos (Int.ne_of_gt positive)
  have original : countPromptTokens sampleEnv payload.turn.llmMessages payload = fitting + 1 := by
    rw [messages, countPromptTokens]
    simp [sampleEnv]
  have fits : countRebuiltPrompt sampleEnv payload truncated = fitting := by
    rw [countRebuiltPrompt, rebuilt, countPromptTokens]
    simp [sampleEnv, fitting]
  unfold executeHook
  dsimp only
  rw [budget, original, if_neg (by omega), if_neg (by omega)]
  exact if_pos (by rw [← fits]; exact Int.le_refl _)

/-- The history survives every budget with well-formed calls exactly when no round outside the
protected ends has arguments over the limit. -/
theorem keeps_calls_iff (config : CompressionConfig) (isSubSession : Bool)
    (historyItems : List ChatHistoryItem)
    (parse : ∀ call ∈ toolRounds historyItems, isJson call.argumentsJson = true) :
    KeepsCalls config isSubSession historyItems ↔ Unclipped config isSubSession historyItems := by
  constructor
  · intro keeps
    refine or_iff_not_imp_left.mpr fun limited idx call found => ?_
    refine or_iff_not_imp_left.mpr fun exposed => or_iff_not_imp_left.mpr fun start => ?_
    by_contra long
    obtain ⟨patched, handed, formed⟩ := keeps sampleEnv none _ [] _ _ rfl rfl
      (executeHook_tight config isSubSession historyItems) rfl
    cases handed
    let truncated := truncateLargeItems sampleEnv config historyItems
      (subSessionPrefixEnd isSubSession historyItems)
    have kept := (wellFormedCalls_rebuild_iff
      (tightPayload isSubSession historyItems truncated) truncated).mp formed
    have cut := @truncateLargeItems_round sampleEnv config historyItems
      (subSessionPrefixEnd isSubSession historyItems) idx call found
    have member := mem_toolRounds.mpr (List.mem_of_getElem? (cut.trans (congrArg some
      (if_neg (not_or.mpr ⟨exposed, start⟩)))))
    have parsed := kept _ member
    rw [isJson_truncateText (not_or.mpr ⟨limited, long⟩)] at parsed
    cases parsed
  · rintro unclipped env contextBudget payload records output stored rfl rfl ran applied
    obtain ⟨compressed, rfl, kept⟩ := executeHook_rounds ran applied
    refine ⟨_, rfl, (wellFormedCalls_rebuild_iff payload compressed).mpr fun call member => ?_⟩
    exact parse_of_unclipped parse unclipped call (kept member)

/-- A file is written, and the conversation goes on. -/
def notesRound : ToolCallRound where
  toolName := "write_file"
  callId := "tc_1"
  argumentsJson := "\x7b\"path\": \"notes.md\", \"content\": \"buy milk and bread\"\x7d"
  toolResult := "written"

/-- A note is written, and the conversation goes on. -/
def notesHistory : List ChatHistoryItem :=
  [plainBlock .user "write a note", .round notesRound, plainBlock .assistant "written",
    plainBlock .user "thanks"]

/-- All arguments of the history are JSON. -/
theorem notesHistory_parse :
    ∀ call ∈ toolRounds notesHistory, isJson call.argumentsJson = true := by
  rintro call member
  have same : call = notesRound := List.mem_singleton.mp member
  rw [same]
  decide +kernel

/-- With the default limits all arguments stay JSON. -/
theorem keeps_calls_notes : KeepsCalls {} false notesHistory := by
  refine (keeps_calls_iff {} false notesHistory notesHistory_parse).mpr
    (.inr fun idx call found => .inr (.inr ?_))
  have member := mem_toolRounds.mpr (List.mem_of_getElem? found)
  have same : call = notesRound := List.mem_singleton.mp member
  rw [same]
  decide +kernel

/-- The characters of the arguments are what counts. -/
def argumentsEnv : CompressionEnv :=
  { sampleEnv with
    countMessages := fun messages =>
      ((assistantCalls messages).map fun call => (call.argumentsJson.toList.length : Int)).sum }

/-- The payload with the notes. -/
def notesPayload : BeforeLlmCallHookPayload where
  turn := {
    llmMessages := assemble { text := "" } notesHistory none
    historyItems := notesHistory
    userTurn := none
    sessionId := "main"
    taskType := "general"
    isSubSession := false }
  tools := []
  tokenBudget := some 40

/-- The history with the cut arguments. -/
def cutNotes : List ChatHistoryItem :=
  truncateLargeItems argumentsEnv { toolResultMaxChars := 20 } notesHistory 0

/-- A small limit cuts arguments that were JSON. -/
theorem cut_arguments_not_json :
    isJson notesRound.argumentsJson = true ∧
      executeHook argumentsEnv { toolResultMaxChars := 20 } none notesPayload [] =
        .ok (buildOutput notesPayload cutNotes, []) ∧
      ¬ WellFormedCalls (rebuildMessages notesPayload cutNotes) := by
  refine ⟨by decide +kernel, ?_, fun formed => ?_⟩
  · rw [executeHook]
    dsimp only
    rw [if_neg (by decide), if_neg (by decide +kernel), if_pos (by decide +kernel)]
    rfl
  · have kept := (wellFormedCalls_rebuild_iff notesPayload cutNotes).mp formed
    have all_json : (toolRounds cutNotes).all (fun call => isJson call.argumentsJson) = true :=
      List.all_eq_true.mpr kept
    exact absurd all_json (by decide +kernel)

end FairyClaw
