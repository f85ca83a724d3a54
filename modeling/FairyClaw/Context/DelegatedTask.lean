import FairyClaw.Compression.Protected
import FairyClaw.Context.BeforeLlmCall
import FairyClaw.Session.Memory

/-! # The task of a sub-agent

A delegated task is stored as the first user message of its sub-session, and a turn loads
the last fifty events. Whatever the hooks do, the model is sent the instruction exactly
when no more events are stored, or the instruction is again the first user message of the
loaded events, opens their latest turn, or is the user turn
(`FairyClaw.delegated_task_seen_iff`).
-/

namespace FairyClaw

open Foundation

/-- The message that `delegate_task` stores first: the instruction, below its background if there is
one. -/
def taskBlock (instruction : String) : SessionMessageBlock :=
  { role := .user, body := .text instruction }

/-- The user message of a text. -/
def userMessage (text : String) : LlmChatMessage := { role := .user, content := .text text }

/-- The model sees the item as the user message of a text. -/
def ChatHistoryItem.IsUserMessage (text : String) : ChatHistoryItem → Prop
  | .block message => message.role = .user ∧ message.asOpenaiContent = .text text
  | .round _ => False

/-! ## User messages among the assembled messages -/

section Assembled

variable {text : String}

/-- A message of the user with this text is one for the model. -/
theorem blockMessage_eq_iff {block : SessionMessageBlock} :
    blockMessage block = userMessage text ↔ (ChatHistoryItem.block block).IsUserMessage text := by
  obtain ⟨role, body⟩ := block
  cases role <;> simp [blockMessage, userMessage, ChatHistoryItem.IsUserMessage,
    SessionMessageRole.llmRole]

/-- A batch of rounds has no message of the user. -/
theorem userMessage_not_mem_toolBatch (content : OpenaiContent) (rounds : List ToolCallRound) :
    userMessage text ∉ toolBatch content rounds := by
  intro member
  rcases List.mem_cons.mp member with same | result
  · have roles := congrArg LlmChatMessage.role same
    cases roles
  · obtain ⟨round, _, same⟩ := List.mem_map.mp result
    have roles := congrArg LlmChatMessage.role same
    cases roles

/-- The messages of the user come after the batch. -/
theorem collect_userMessages {entries : List ChatHistoryItem} :
    (∃ item ∈ entries.drop (collectConsecutiveToolRounds entries).length, item.IsUserMessage text) ↔
      ∃ item ∈ entries, item.IsUserMessage text := by
  conv_rhs => rw [← collect_append_drop entries]
  constructor
  · rintro ⟨item, member, isMessage⟩
    exact ⟨item, List.mem_append_right _ member, isMessage⟩
  · rintro ⟨item, member, isMessage⟩
    rcases List.mem_append.mp member with collected | left
    · obtain ⟨round, _, rfl⟩ := List.mem_map.mp collected
      exact isMessage.elim
    · exact ⟨item, left, isMessage⟩

/-- The assembled messages have the user's message when the history has it. -/
theorem mem_assembleEntries {history : List ChatHistoryItem} :
    userMessage text ∈ assembleEntries history ↔ ∃ item ∈ history, item.IsUserMessage text := by
  induction history using assembleEntries.induct with
  | case1 => simp [assembleEntries]
  | case2 block rest rounds speaks ih =>
      rw [assembleEntries, if_pos speaks, List.mem_append, ih, collect_userMessages]
      have silent : ¬ (ChatHistoryItem.block block).IsUserMessage text := by
        rintro ⟨isUser, _⟩
        cases isUser.symm.trans speaks.1
      simp [userMessage_not_mem_toolBatch, silent]
  | case3 block rest rounds silent ih =>
      rw [assembleEntries, if_neg silent, List.mem_cons, ih, eq_comm, blockMessage_eq_iff]
      simp
  | case4 round rest rounds ih =>
      rw [assembleEntries, List.mem_append, ih, collect_userMessages]
      simp [userMessage_not_mem_toolBatch]

/-- The user turn as an item. -/
def turnItems (userTurn : Option UserTurn) : List ChatHistoryItem :=
  (userTurn.map fun turn => ChatHistoryItem.block turn.message).toList

/-- The prompt has the user's message when the history or the turn has it. -/
theorem mem_assemble (systemPrompt : SystemPromptPart) {history : List ChatHistoryItem}
    {userTurn : Option UserTurn} :
    userMessage text ∈ assemble systemPrompt history userTurn ↔
      ∃ item ∈ history ++ turnItems userTurn, item.IsUserMessage text := by
  have turn : userMessage text ∈ (userTurn.map fun entry => blockMessage entry.message).toList ↔
      ∃ item ∈ turnItems userTurn, item.IsUserMessage text := by
    cases userTurn with
    | none => simp [turnItems]
    | some entry => simp [turnItems, eq_comm, blockMessage_eq_iff]
  have others : userMessage text ≠ { role := .system, content := .text systemPrompt.text } :=
    fun same => by cases congrArg LlmChatMessage.role same
  rw [assemble, List.mem_append, List.mem_cons, mem_assembleEntries, turn]
  simp only [others, false_or, List.mem_append, or_and_right, exists_or]

/-- Rebuilding puts only system messages among the assembled ones. -/
theorem mem_rebuildMessages {payload : BeforeLlmCallHookPayload} {history : List ChatHistoryItem} :
    userMessage text ∈ rebuildMessages payload history ↔
      ∃ item ∈ history ++ turnItems payload.turn.userTurn, item.IsUserMessage text := by
  have extra : userMessage text ∉ (extractSystemMessages payload).2 := by
    unfold extractSystemMessages
    split
    · simp
    · split
      · simp
      · intro member
        have isSystem := List.mem_takeWhile_imp member
        simp [userMessage] at isSystem
  rw [← mem_assemble { text := (extractSystemMessages payload).1 }]
  unfold rebuildMessages
  dsimp only
  split
  · next empty => simp [empty, extra]
  · next first rest whole =>
      rw [whole]
      split
      · rfl
      · split <;> simp [extra]

end Assembled

/-! ## The hooks before the compression -/

section Hooks

variable {text : String} {payload : BeforeLlmCallHookPayload} {history : List ChatHistoryItem}
  {userTurn : Option UserTurn}

/-- The payload has the history and the user turn, and the model is sent the message. -/
structure Carries (text : String) (history : List ChatHistoryItem) (userTurn : Option UserTurn)
    (payload : BeforeLlmCallHookPayload) : Prop where
  isSubSession : payload.turn.isSubSession = true
  historyItems : payload.turn.historyItems = history
  userTurn : payload.turn.userTurn = userTurn
  sent : userMessage text ∈ payload.turn.llmMessages

/-- A hook keeps what each of its answers keeps. -/
theorem patch_keeps {Found Payload : Type} {motive : Payload → Prop} {fate : HookFate Found}
    {executor : Found → Payload → Except PyError (HookStageOutput Payload)} {payload : Payload}
    (initial : motive payload)
    (answers : ∀ found output, executor found payload = .ok output →
      motive (output.patchedPayload.getD payload)) :
    motive (fate.patch executor payload) := by
  unfold HookFate.patch
  split
  · split
    · next answered => exact answers _ _ answered
    · exact initial
  · exact initial

/-- Rewriting the system message leaves the messages of the user. -/
theorem mem_rewriteSystemMessage (rewrite : OpenaiContent → Option String) :
    userMessage text ∈ (rewriteSystemMessage rewrite payload).turn.llmMessages ↔
      userMessage text ∈ payload.turn.llmMessages := by
  unfold rewriteSystemMessage
  split
  · rfl
  · next first rest messages =>
      split
      · rfl
      · next isSystem =>
          split
          · rfl
          · have other : ∀ message, message.role = .system → userMessage text ≠ message := by
              rintro message system rfl
              cases system
            have system := not_not.mp isSystem
            rw [messages]
            simp only [BeforeLlmCallHookPayload.withMessages, List.mem_cons, other first system,
              false_or]
            exact or_iff_right (other _ system)

/-- Rewriting the system message still carries the text. -/
theorem Carries.rewritten (carries : Carries text history userTurn payload)
    (rewrite : OpenaiContent → Option String) :
    Carries text history userTurn (rewriteSystemMessage rewrite payload) := by
  have sent := (mem_rewriteSystemMessage rewrite).mpr carries.sent
  obtain ⟨isSubSession, historyItems, sameTurn, _⟩ := carries
  have kept : ∃ messages, rewriteSystemMessage rewrite payload = payload.withMessages messages := by
    unfold rewriteSystemMessage
    split
    · exact ⟨_, rfl⟩
    · split
      · exact ⟨_, rfl⟩
      · split
        · exact ⟨_, rfl⟩
        · exact ⟨_, rfl⟩
  obtain ⟨messages, same⟩ := kept
  rw [same] at sent ⊢
  exact ⟨isSubSession, historyItems, sameTurn, sent⟩

/-- Guidance for the repair still carries the text. -/
theorem Carries.guided (carries : Carries text history userTurn payload)
    (found : RepairGuidance) :
    Carries text history userTurn (repairBeforeLlmCall found payload) := by
  obtain ⟨isSubSession, historyItems, sameTurn, sent⟩ := carries
  unfold repairBeforeLlmCall
  rw [if_pos isSubSession]
  exact ⟨isSubSession, historyItems, sameTurn, List.mem_append_left _ sent⟩

end Hooks

/-! ## The compression -/

section Compression

variable {text : String} {segments rebuilt : List ContentSegment} {origin item : ChatHistoryItem}
  {history output : List ChatHistoryItem}

/-- Segments that are kept are sent in parts when they were. -/
theorem multipart_kept (kept : List.Forall₂ SegmentKept segments rebuilt) :
    segmentsNeedOpenaiMultipart rebuilt = segmentsNeedOpenaiMultipart segments := by
  induction kept with
  | nil => rfl
  | cons first _ ih =>
      unfold segmentsNeedOpenaiMultipart at ih ⊢
      rw [List.any_cons, List.any_cons, ih]
      cases first with
      | same => rfl
      | recompressed isImage => simp [isImage, ContentSegment.imageUrlSegment]

/-- Only images change, and a message with images is sent in parts. -/
theorem segments_kept (kept : List.Forall₂ SegmentKept segments rebuilt)
    (text_only : segmentsNeedOpenaiMultipart segments = false) : rebuilt = segments := by
  induction kept with
  | nil => rfl
  | cons first _ ih =>
      unfold segmentsNeedOpenaiMultipart at text_only ih
      rw [List.any_cons, Bool.or_eq_false_iff] at text_only
      cases first with
      | same => rw [ih text_only.2]
      | recompressed isImage => simp [isImage] at text_only

/-- Smaller images make no user message of a text, and spoil none. -/
theorem ItemKept.isUserMessage_iff (kept : ItemKept origin item) :
    item.IsUserMessage text ↔ origin.IsUserMessage text := by
  cases kept with
  | same => rfl
  | @recompressed role segments rebuilt kept =>
      simp only [ChatHistoryItem.IsUserMessage, SessionMessageBlock.asOpenaiContent,
        MessageBody.asOpenaiContent, multipart_kept kept]
      split
      · simp
      · next text_only => rw [segments_kept kept (Bool.not_eq_true _ ▸ text_only)]

/-- Items that are kept keep the message of the user. -/
theorem userMessage_kept {items kept : List ChatHistoryItem}
    (related : List.Forall₂ ItemKept items kept) :
    (∃ item ∈ kept, item.IsUserMessage text) ↔ ∃ item ∈ items, item.IsUserMessage text := by
  induction related with
  | nil => rfl
  | cons first _ ih => simp [first.isUserMessage_iff, ih]

/-- The items that compression protects in a sub-session: those up to the first user message,
and the latest turn. -/
def protectedItems (history : List ChatHistoryItem) : List ChatHistoryItem :=
  history.take (firstUserMessageExclusiveEnd history) ++
    history.drop (history.length - latestTurnSuffixLength history)

/-- A protected user message is still in what compression makes of the history. -/
theorem Protects.userMessage (protects : Protects true history output)
    (protectedMessage : ∃ item ∈ protectedItems history, item.IsUserMessage text) :
    ∃ item ∈ output, item.IsUserMessage text := by
  obtain ⟨item, member, isMessage⟩ := protectedMessage
  rcases List.mem_append.mp member with early | late
  · obtain ⟨head, middle, tail, rfl, pieces⟩ := protects
    obtain ⟨kept, inside, isMessage⟩ :=
      (userMessage_kept pieces.head_kept).mpr ⟨item, early, isMessage⟩
    exact ⟨kept, List.mem_append_left _ (List.mem_append_left _ inside), isMessage⟩
  · obtain ⟨before, latest, rfl, kept⟩ := protects.ends_with_latest
    obtain ⟨kept, inside, isMessage⟩ := (userMessage_kept kept).mpr ⟨item, late, isMessage⟩
    exact ⟨kept, List.mem_append_right _ inside, isMessage⟩

end Compression

/-! ## The strictest compression -/

section Strict

variable {input history : List ChatHistoryItem}

/-- A window of one message ends with that message. -/
theorem recentCount_of_small {limit seen : Int} (small : limit ≤ seen + 1)
    (reversed : List ChatHistoryItem) :
    recentCount limit seen reversed =
      if (reversed.takeWhile ChatHistoryItem.isRound).length < reversed.length then
        (reversed.takeWhile ChatHistoryItem.isRound).length + 1
      else (reversed.takeWhile ChatHistoryItem.isRound).length := by
  induction reversed with
  | nil => rfl
  | cons item rest ih =>
      cases item with
      | round round =>
          simp only [recentCount, ih, List.takeWhile_cons, ChatHistoryItem.isRound, ↓reduceIte,
            List.length_cons]
          split <;> split <;> omega
      | block block =>
          simp [recentCount, small, ChatHistoryItem.isRound]

/-- With a window of one message, only the protected items are left. -/
theorem recentHistory_of_small {config : CompressionConfig} (small : config.recencyWindow ≤ 1)
    (history : List ChatHistoryItem) :
    recentHistory true config history =
      history.take (subSessionPrefixEnd true history) ++
        history.drop (latestTurnStart true history) := by
  have window : recentCount config.recencyWindow 0 history.reverse =
      latestTurnSuffixLength history := by
    rw [recentCount_of_small (by omega), List.length_reverse]
    rfl
  simp only [recentHistory, keepRecentHistory, window, subSessionPrefixEnd, ↓reduceIte,
    latestTurnStart]
  split
  · rfl
  · next none_found =>
      rw [Nat.eq_zero_of_not_pos none_found, List.take_zero, List.nil_append, Nat.zero_max]

/-- A window of one message leaves the protected ends only. -/
theorem strict_pieces (env : CompressionEnv) (config : CompressionConfig)
    (small : config.recencyWindow ≤ 1) (input : List ChatHistoryItem) :
    ∃ head tail, recentHistory true config
        (truncateLargeItems env config input (subSessionPrefixEnd true input)) =
          head ++ [] ++ tail ∧
      Pieces true input head [] tail := by
  have sameStart := (truncated_protects env config true input).prefixEnd
  have sameTurn := latestTurnSuffixLength_congr
    (truncated_sameKind env config input (subSessionPrefixEnd true input))
  have sameLength : (truncateLargeItems env config input
      (subSessionPrefixEnd true input)).length = input.length :=
    length_truncateLargeItems env config _
  have pieces := truncated_pieces env config true input rfl
  refine ⟨_, _, ?_, { pieces with middle_derived := ⟨[], List.nil_sublist _, .nil⟩ }⟩
  rw [recentHistory_of_small small, latestTurnStart, sameStart, ← sameTurn, sameLength,
    List.append_nil]
  rfl

/-- Every prompt counts two tokens. -/
def strictEnv : CompressionEnv := { sampleEnv with countMessages := fun _ => 2 }

/-- Without unprotected items the loops leave the history. -/
theorem loops_of_nothing {payload : BeforeLlmCallHookPayload} {protectedPrefix : Nat}
    (guardMessages : Int) (long : ¬ countRebuiltPrompt strictEnv payload history ≤ 1)
    (nothing : unprotectedIndices history protectedPrefix = []) :
    unloadLoop strictEnv payload protectedPrefix guardMessages 1 history [] = .ok (history, []) ∧
      dropLoop strictEnv payload protectedPrefix 1 history = history := by
  have nothing_unloaded : unloadOldestImageMessage strictEnv history protectedPrefix guardMessages
      [] = .ok none := by
    unfold unloadOldestImageMessage
    rw [nothing]
    split
    · rfl
    · rfl
  have nothing_found : findDroppableIndex history protectedPrefix = none := by
    rw [findDroppableIndex, nothing]
    rfl
  constructor
  · rw [unloadLoop, if_neg long]
    split
    · next failed => cases nothing_unloaded.symm.trans failed
    · rfl
    · next stepped => cases nothing_unloaded.symm.trans stepped
  · rw [dropLoop]
    split
    · split
      · rfl
      · next found => cases nothing_found.symm.trans found
    · rfl

/-- A compression whose prompts never fit keeps the protected items only. -/
theorem executeHook_strict {payload : BeforeLlmCallHookPayload}
    (isSubSession : payload.turn.isSubSession = true) (budget : payload.tokenBudget = some 1) :
    ∃ head tail, executeHook strictEnv { recencyWindow := 1 } (some 1) payload [] =
        .ok (buildOutput payload (head ++ [] ++ tail), []) ∧
      Pieces true payload.turn.historyItems head [] tail := by
  obtain ⟨head, tail, recent, pieces⟩ :=
    strict_pieces strictEnv { recencyWindow := 1 } (by decide) payload.turn.historyItems
  refine ⟨head, tail, ?_, pieces⟩
  have long : ∀ messages, ¬ countPromptTokens strictEnv messages payload ≤ 1 := by
    intro messages
    simp [countPromptTokens, strictEnv, sampleEnv]
  have rebuilt_long : ∀ history, ¬ countRebuiltPrompt strictEnv payload history ≤ 1 :=
    fun history => long _
  have nothing : unprotectedIndices (head ++ [] ++ tail)
      (subSessionPrefixEnd true (head ++ [] ++ tail)) = [] := by
    have covered := pieces.tail_le
    rw [pieces.prefixEnd, unprotectedIndices, ← pieces.head_length, List.range'_eq_nil_iff]
    simp only [List.length_append, List.length_nil]
    omega
  obtain ⟨unloading, dropping⟩ := loops_of_nothing 6 (rebuilt_long _) nothing
  have budgetOf : tokenBudgetOf payload.tokenBudget (some 1) = 1 := by
    rw [budget]
    rfl
  unfold executeHook
  rw [budgetOf]
  dsimp only
  rw [if_neg (by decide), if_neg (long _), isSubSession, if_neg (rebuilt_long _),
    if_neg (rebuilt_long _), recent, unloading]
  dsimp only
  rw [dropping]

end Strict

/-! ## The turns of a sub-session -/

/-- The instruction is among the protected items of a turn's context, or is its user turn. -/
def TaskProtected (instruction : String) (context : List ChatHistoryItem × Option UserTurn) :
    Prop :=
  ∃ item ∈ protectedItems context.1 ++ turnItems context.2, item.IsUserMessage instruction

section Turn

variable {instruction : String} {dictEq : JsonObject → JsonObject → Bool}
  {request : PromptRequest} {window : List ChatHistoryItem}

/-- The messages that a stage leaves of a payload. -/
def sentMessages (stage : BeforeLlmCallStage) (tokenBudget : Option Int)
    (payload : BeforeLlmCallHookPayload) : List LlmChatMessage :=
  ((runStage (stage.hooks tokenBudget) payload {}).1.patchedPayload.getD payload).turn.llmMessages

/-- The prompt that is sent has a message of the user with this text. -/
def Sends (text : String) (payload : BeforeLlmCallHookPayload) : Prop :=
  userMessage text ∈ payload.turn.llmMessages

/-- The compression keeps a protected instruction. -/
theorem Carries.compressed {history : List ChatHistoryItem} {userTurn : Option UserTurn}
    {payload : BeforeLlmCallHookPayload} {run : CompressionRun} {tokenBudget : Option Int}
    {output : HookStageOutput BeforeLlmCallHookPayload}
    (carries : Carries instruction history userTurn payload)
    (isProtected : TaskProtected instruction (history, userTurn))
    (ran : contextCompression tokenBudget run payload = .ok output) :
    Sends instruction (output.patchedPayload.getD payload) := by
  unfold contextCompression at ran
  cases whole : executeHook run.env run.config tokenBudget payload run.records with
  | error error =>
      rw [whole] at ran
      cases ran
  | ok result =>
      obtain ⟨handed, stored⟩ := result
      rw [whole] at ran
      cases ran
      rcases executeHook_output whole with skipped | ⟨compressed, rfl, protects⟩
      · rw [skipped]
        exact carries.sent
      · rw [carries.isSubSession, carries.historyItems] at protects
        refine mem_rebuildMessages.mpr ?_
        rw [carries.userTurn]
        obtain ⟨item, member, isMessage⟩ := isProtected
        rcases List.mem_append.mp member with inside | turn
        · obtain ⟨kept, inside, isMessage⟩ := protects.userMessage ⟨item, inside, isMessage⟩
          exact ⟨kept, List.mem_append_left _ inside, isMessage⟩
        · exact ⟨item, List.mem_append_right _ turn, isMessage⟩

/-- No hook loses a protected instruction. -/
theorem sent_of_protected {history : List ChatHistoryItem} {userTurn : Option UserTurn}
    {payload : BeforeLlmCallHookPayload} (stage : BeforeLlmCallStage) (tokenBudget : Option Int)
    (carries : Carries instruction history userTurn payload)
    (isProtected : TaskProtected instruction (history, userTurn)) :
    userMessage instruction ∈ sentMessages stage tokenBudget payload := by
  rw [sentMessages, runStage_hooks, Option.getD_some]
  have guided : Carries instruction history userTurn
      (stage.repair.patch (fun found => answer (repairBeforeLlmCall found)) payload) := by
    refine patch_keeps carries fun found output answered => ?_
    cases answered
    exact carries.guided found
  generalize stage.repair.patch _ _ = guidedPayload at guided ⊢
  have timed : Carries instruction history userTurn (stage.timerGuide.patch
      (fun guideBlock => answer (timerRuntimePrompt stage.strOf guideBlock)) guidedPayload) := by
    refine patch_keeps guided fun guideBlock output answered => ?_
    cases answered
    show Carries instruction history userTurn
      (timerRuntimePrompt stage.strOf guideBlock guidedPayload)
    exact guided.rewritten _
  generalize stage.timerGuide.patch _ _ = timedPayload at timed ⊢
  have compressed : Sends instruction
      (stage.compression.patch (contextCompression tokenBudget) timedPayload) :=
    patch_keeps (motive := Sends instruction) timed.sent
      fun _ _ answered => timed.compressed isProtected answered
  generalize stage.compression.patch _ _ = compressedPayload at compressed ⊢
  refine patch_keeps (motive := Sends instruction) compressed fun blocks output answered => ?_
  cases answered
  show Sends instruction (sessionMemoryPreContext stage.strOf blocks compressedPayload)
  exact (mem_rewriteSystemMessage _).mpr compressed

/-- No hook but the strictest compression. -/
def strictStage : BeforeLlmCallStage where
  strOf _ := ""
  repair := .absent
  timerGuide := .absent
  compression := .runs { env := strictEnv, config := { recencyWindow := 1 }, records := [] }
  sessionMemory := .absent

/-- What the strictest compression sends of the history is protected. -/
theorem protected_of_sent {payload : BeforeLlmCallHookPayload}
    (isSubSession : payload.turn.isSubSession = true) (budget : payload.tokenBudget = some 1)
    (sent : userMessage instruction ∈ sentMessages strictStage (some 1) payload) :
    TaskProtected instruction (payload.turn.historyItems, payload.turn.userTurn) := by
  obtain ⟨head, tail, ran, pieces⟩ := executeHook_strict isSubSession budget
  have rebuilt : sentMessages strictStage (some 1) payload =
      rebuildMessages payload (head ++ [] ++ tail) := by
    rw [sentMessages, runStage_hooks]
    simp [strictStage, HookFate.patch, contextCompression, ran, Except.map, buildOutput]
  rw [rebuilt, mem_rebuildMessages, List.append_nil] at sent
  obtain ⟨item, member, isMessage⟩ := sent
  rcases List.mem_append.mp member with kept | turn
  · have found : ∃ item ∈ protectedItems payload.turn.historyItems,
        item.IsUserMessage instruction := by
      rcases List.mem_append.mp kept with early | late
      · obtain ⟨origin, inside, isMessage⟩ :=
          (userMessage_kept pieces.head_kept).mp ⟨item, early, isMessage⟩
        exact ⟨origin, List.mem_append_left _ inside, isMessage⟩
      · obtain ⟨origin, inside, isMessage⟩ :=
          (userMessage_kept pieces.tail_kept).mp ⟨item, late, isMessage⟩
        have reaches : payload.turn.historyItems.length -
            latestTurnSuffixLength payload.turn.historyItems ≤
              latestTurnStart true payload.turn.historyItems := Nat.le_max_right _ _
        exact ⟨origin, List.mem_append_right _
          (List.drop_subset_drop_left _ reaches inside), isMessage⟩
    obtain ⟨origin, inside, isMessage⟩ := found
    exact ⟨origin, List.mem_append_left _ inside, isMessage⟩
  · exact ⟨item, List.mem_append_right _ turn, isMessage⟩

/-- The task is a message of the user. -/
theorem task_isUserMessage (instruction : String) :
    (ChatHistoryItem.block (taskBlock instruction)).IsUserMessage instruction := ⟨rfl, rfl⟩

/-- A task at the beginning is protected. -/
theorem protected_of_first (rest : List ChatHistoryItem) (userTurn : Option UserTurn) :
    TaskProtected instruction (.block (taskBlock instruction) :: rest, userTurn) := by
  have first : firstUserMessageExclusiveEnd (.block (taskBlock instruction) :: rest) = 1 := by
    simp [firstUserMessageExclusiveEnd, List.findIdx?_cons, ChatHistoryItem.isUserBlock, taskBlock]
  refine ⟨_, List.mem_append_left _ (List.mem_append_left _ ?_), task_isUserMessage instruction⟩
  rw [first]
  exact List.mem_cons_self

/-- A task that is the message of the turn is protected. -/
theorem protected_of_turn (history : List ChatHistoryItem) :
    TaskProtected instruction (history, some { message := taskBlock instruction }) :=
  ⟨_, List.mem_append_right _ List.mem_cons_self, task_isUserMessage instruction⟩

/-- A message that equals the task is the task. -/
theorem eq_of_equals_task {block : SessionMessageBlock}
    (same : (taskBlock instruction).equals dictEq block = true) : block = taskBlock instruction := by
  obtain ⟨role, body⟩ := block
  simp only [SessionMessageBlock.equals, taskBlock, Bool.and_eq_true] at same
  cases body with
  | segments => cases same.2
  | text content =>
      cases of_decide_eq_true same.1
      rw [taskBlock, of_decide_eq_true same.2]

/-- A loaded instruction is protected, as the first user message or as the user turn. -/
theorem protected_of_loaded (rest : List ChatHistoryItem) (explicitTurn : Option UserTurn) :
    TaskProtected instruction
      (splitCurrentUserTurn dictEq (.block (taskBlock instruction) :: rest) explicitTurn) := by
  unfold splitCurrentUserTurn
  split
  · next last isLast =>
      split
      · cases rest with
        | nil =>
            cases isLast
            split
            · next turn =>
                split
                · next same =>
                    obtain ⟨message⟩ := turn
                    cases eq_of_equals_task same
                    exact protected_of_turn _
                · exact protected_of_first _ _
            · exact protected_of_turn _
        | cons next others =>
            split
            · split
              · exact protected_of_first _ _
              · exact protected_of_first _ _
            · exact protected_of_first _ _
      · exact protected_of_first _ _
  · exact protected_of_first _ _

/-- With at most fifty events, the instruction is loaded first. -/
theorem loaded_first {strOf : Json → String} {id : String} {later : List EventRow}
    (few : later.length < 50)
    (loaded : getHistory strOf (addSessionEvent [] id (taskBlock instruction) ++ later) 50 =
      some window) :
    ∃ rest, window = .block (taskBlock instruction) :: rest := by
  have rows : historyRows (addSessionEvent [] id (taskBlock instruction) ++ later) 50 =
      rowOf (id, .block (taskBlock instruction)) :: later := by
    have all : (addSessionEvent [] id (taskBlock instruction) ++ later).length - 50 = 0 := by
      simp only [addSessionEvent, List.length_append, List.length_cons, List.length_nil]
      omega
    rw [historyRows, all]
    rfl
  have first : parseRow strOf (rowOf (id, .block (taskBlock instruction))) =
      some [.block (taskBlock instruction)] := parseRow_rowOf strOf trivial
  rw [getHistory, rows, List.mapM_cons, first] at loaded
  cases others : later.mapM (parseRow strOf) with
  | none => simp [others] at loaded
  | some items =>
      simp only [others, Option.pure_def, Option.bind_eq_bind, Option.bind_some, Option.map_some,
        Option.some_inj, List.flatten_cons, List.singleton_append] at loaded
      exact ⟨items.flatten, loaded.symm⟩

/-- Whatever the hooks and the budget, the model is sent the instruction exactly when at most
fifty events are stored, or the loaded events protect it once more. -/
theorem delegated_task_seen_iff {strOf : Json → String} {id : String} {later : List EventRow}
    (isSubSession : request.isSubSession = true)
    (loaded : getHistory strOf (addSessionEvent [] id (taskBlock instruction) ++ later) 50 =
      some window) :
    (∀ tokenBudget stage, userMessage instruction ∈
        llmMessages dictEq { request with tokenBudget := tokenBudget } stage window) ↔
      later.length < 50 ∨ TaskProtected instruction
        (splitCurrentUserTurn dictEq window (UserTurn.fromSegments request.userSegments)) := by
  constructor
  · intro sent
    exact .inr (protected_of_sent isSubSession rfl (sent (some 1) strictStage))
  · intro kept tokenBudget stage
    have isProtected : TaskProtected instruction
        (splitCurrentUserTurn dictEq window (UserTurn.fromSegments request.userSegments)) := by
      rcases kept with few | kept
      · obtain ⟨rest, rfl⟩ := loaded_first few loaded
        exact protected_of_loaded rest _
      · exact kept
    refine sent_of_protected stage tokenBudget
      { isSubSession := isSubSession, historyItems := rfl, userTurn := rfl, sent := ?_ } isProtected
    refine (mem_assemble _).mpr ?_
    obtain ⟨item, member, isMessage⟩ := isProtected
    refine ⟨item, ?_, isMessage⟩
    rcases List.mem_append.mp member with inside | turn
    · refine List.mem_append_left _ ?_
      rcases List.mem_append.mp inside with early | late
      · exact List.mem_of_mem_take early
      · exact List.mem_of_mem_drop late
    · exact List.mem_append_right _ turn

end Turn

/-! ## A lost instruction -/

/-- A round of a sub-agent at work. -/
def workRound : ChatHistoryItem :=
  .round { toolName := "read_file", callId := "tc_1_1", argumentsJson := "[]", toolResult := "" }

/-- Fifty stored rounds. -/
def laterRounds : List EventRow := List.replicate 50 (rowOf ("evt", workRound))

/-- No hook takes part. -/
def quietStage : BeforeLlmCallStage := { strictStage with compression := .absent }

/-- The request of the next turn. -/
def workRequest : PromptRequest where
  systemPrompt := ""
  userSegments := []
  sessionId := "main_sub_1"
  taskType := "general"
  isSubSession := true
  tools := []
  tokenBudget := none

/-- Equal items are read equally. -/
theorem mapM_replicate {Item Image : Type} {read : Item → Option Image} {item : Item}
    {image : Image} (found : read item = some image) (count : Nat) :
    (List.replicate count item).mapM read = some (List.replicate count image) := by
  induction count with
  | zero => rfl
  | succ count ih => simp [List.replicate_succ, found, ih]

/-- The row of a round reads back as the round. -/
theorem parse_workRound : parseRow (fun _ => "") (rowOf ("evt", workRound)) =
    some [workRound] := by
  have named : Named workRound := by
    show strip "tc_1_1" ≠ ""
    decide
  rw [parseRow_rowOf _ named]
  rfl

/-- The last fifty rows are the later rounds. -/
theorem loaded_laterRounds : getHistory (fun _ => "")
    (addSessionEvent [] "evt_0" (taskBlock "sort the files") ++ laterRounds) 50 =
      some (List.replicate 50 workRound) := by
  have rows : historyRows (addSessionEvent [] "evt_0" (taskBlock "sort the files") ++ laterRounds)
      50 = laterRounds := by
    simp [historyRows, addSessionEvent, laterRounds]
  rw [getHistory, rows, laterRounds, mapM_replicate parse_workRound]
  rfl

/-- After fifty rounds the model is not sent the instruction. -/
theorem delegated_task_lost :
    ∃ window, getHistory (fun _ => "")
        (addSessionEvent [] "evt_0" (taskBlock "sort the files") ++ laterRounds) 50 = some window ∧
      userMessage "sort the files" ∉
        llmMessages (fun _ _ => false) workRequest quietStage window := by
  refine ⟨_, loaded_laterRounds, fun sent => ?_⟩
  have messages : llmMessages (fun _ _ => false) workRequest quietStage
      (List.replicate 50 workRound) =
        assemble { text := "" } (List.replicate 50 workRound) none := by
    rw [llmMessages, runStage_hooks]
    rfl
  rw [messages, mem_assemble] at sent
  obtain ⟨item, member, isMessage⟩ := sent
  rw [turnItems, Option.map_none, Option.toList_none, List.append_nil] at member
  rw [List.eq_of_mem_replicate member] at isMessage
  exact isMessage

/-- Nine rounds after the instruction. -/
theorem delegated_task_seen_iff_nine :
    (∀ tokenBudget stage, userMessage "sort the files" ∈ llmMessages (fun _ _ => false)
        { workRequest with tokenBudget := tokenBudget } stage
        (.block (taskBlock "sort the files") :: List.replicate 9 workRound)) ↔
      (List.replicate 9 (rowOf ("evt", workRound))).length < 50 ∨ TaskProtected "sort the files"
        (splitCurrentUserTurn (fun _ _ => false)
          (.block (taskBlock "sort the files") :: List.replicate 9 workRound) none) := by
  have loaded : getHistory (fun _ => "") (addSessionEvent [] "evt_0" (taskBlock "sort the files") ++
      List.replicate 9 (rowOf ("evt", workRound))) 50 =
        some (.block (taskBlock "sort the files") :: List.replicate 9 workRound) := rfl
  exact delegated_task_seen_iff rfl loaded

end FairyClaw
