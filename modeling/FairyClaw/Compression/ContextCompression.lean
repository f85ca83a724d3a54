import Mathlib.Algebra.Ring.Int.Defs
import Mathlib.Algebra.Ring.Nat
import FairyClaw.Context.Assembler

/-! # The context compression hook

When the prompt exceeds its token budget, the hook truncates large items, keeps a recent
window of the history, unloads images, and drops old items, until the prompt fits. The
latest turn, and in a sub-session the history up to the first user message, are left
alone. Unloaded images are recorded per session, so that they can be reloaded.
-/

namespace FairyClaw

open Foundation

/-- The hook's configuration, with the defaults it fills in. -/
structure CompressionConfig where
  recencyWindow : Int := 6
  toolResultMaxChars : Int := 500
  assistantMessageMaxChars : Int := 1200
  imageMaxEdge : Int := 768
  imageJpegQuality : Int := 55
  imagePngCompressLevel : Int := 9
  reloadedImageGuardMessages : Int := 6

/-- A tool as the prompt lists it. -/
structure LlmFunctionToolSpec where
  name : String
  description : String
  parameters : JsonObject

/-- What the hook finds outside the history: the token counter, SHA-256 as a hexadecimal
digest, image and base64 conversions, the clock, and failures of the record store. -/
structure CompressionEnv where
  countMessages : List LlmChatMessage → Int
  countTools : List LlmFunctionToolSpec → Int
  digest : String → String
  compressImageAvailable : Bool
  decodeBase64 : String → Option (List UInt8)
  encodeBase64 : List UInt8 → String
  compressImageBytes : List UInt8 → String → CompressionConfig → List UInt8 × String
  strOf : Json → String
  nowMs : Int
  readState : Option PyError
  writeState : Option PyError

/-- The context of a turn, as the hook reads and replaces it. -/
structure LlmTurnContext where
  llmMessages : List LlmChatMessage
  historyItems : List ChatHistoryItem
  userTurn : Option UserTurn
  sessionId : String
  taskType : String
  isSubSession : Bool

/-- What a before_llm_call hook is given, and hands on. -/
structure BeforeLlmCallHookPayload where
  turn : LlmTurnContext
  tools : List LlmFunctionToolSpec
  tokenBudget : Option Int
  forceFinish : Bool := false
  forceFinishReason : Option String := none

/-! ## The protected ends of a history -/

/-- The item is a round of tool calls. -/
def ChatHistoryItem.isRound : ChatHistoryItem → Bool
  | .round _ => true
  | .block _ => false

/-- The item is a message of the user. -/
def ChatHistoryItem.isUserBlock : ChatHistoryItem → Bool
  | .block message => message.role = .user
  | .round _ => false

/-- `_first_user_message_exclusive_end` -/
def firstUserMessageExclusiveEnd (historyItems : List ChatHistoryItem) : Nat :=
  match historyItems.findIdx? ChatHistoryItem.isUserBlock with
  | some idx => idx + 1
  | none => 0

/-- `_latest_turn_suffix_length`: the rounds at the end and the block before them. -/
def latestTurnSuffixLength (historyItems : List ChatHistoryItem) : Nat :=
  let rounds := (historyItems.reverse.takeWhile ChatHistoryItem.isRound).length
  if rounds < historyItems.length then rounds + 1 else rounds

/-! ## Truncation -/

/-- `_truncate_text`: a text that is too long ends at the limit, and says so. -/
def truncateText (text : String) (maxChars : Int) : String :=
  if maxChars ≤ 0 ∨ text.toList.length ≤ maxChars then text
  else rstrip (String.ofList (text.toList.take maxChars.toNat)) ++ "\n...[truncated]"

/-- `_compress_image_data_url` -/
def compressImageDataUrl (env : CompressionEnv) (config : CompressionConfig) (url : String) :
    Option String := do
  let head := String.ofList (url.toList.takeWhile (· ≠ ','))
  let body := String.ofList ((url.toList.dropWhile (· ≠ ',')).drop 1)
  if !env.compressImageAvailable || ',' ∉ url.toList || !contains head ";base64" then none
  else
    let raw ← env.decodeBase64 body
    if raw = [] then none
    else
      let named := String.ofList ((head.toList.drop 5).takeWhile (· ≠ ';'))
      let mime := orElse (lower (strip named)) "image/png"
      let (newRaw, newMime) := env.compressImageBytes raw mime config
      if newRaw = raw then some url
      else some ("data:" ++ newMime ++ ";base64," ++ env.encodeBase64 newRaw)

/-- The text of the `url` key of an image segment. -/
def ContentSegment.url? (segment : ContentSegment) : Option String :=
  (segment.imageUrl.bind fun imageUrl => JsonObject.get imageUrl "url").bind Json.asStr

/-- The segment that replaces an image with a data URL, if compression changes it. -/
def compressSegment (env : CompressionEnv) (config : CompressionConfig)
    (segment : ContentSegment) : Option ContentSegment :=
  if segment.type ≠ .imageUrl then none
  else
    match segment.url? with
    | none => none
    | some imageUrl =>
        if !startsWith imageUrl "data:image/" then none
        else
          match compressImageDataUrl env config imageUrl with
          | none => none
          | some compressedUrl =>
              if compressedUrl ≠ "" ∧ compressedUrl ≠ imageUrl then
                some (ContentSegment.imageUrlSegment compressedUrl)
              else none

/-- `_compress_message_images` -/
def compressMessageImages (env : CompressionEnv) (config : CompressionConfig)
    (block : SessionMessageBlock) : SessionMessageBlock :=
  match block.body with
  | .text _ => block
  | .segments segments =>
      let rebuilt := segments.map fun segment => (compressSegment env config segment).getD segment
      if segments.any fun segment => (compressSegment env config segment).isSome then
        (SessionMessageBlock.fromSegments block.role rebuilt).getD block
      else block

/-- `_truncate_assistant_message` -/
def truncateAssistantMessage (block : SessionMessageBlock) (maxChars : Int) :
    SessionMessageBlock :=
  let plainText := block.asPlainText
  let truncatedText := truncateText plainText maxChars
  if truncatedText = plainText then block
  else
    (SessionMessageBlock.fromSegments block.role
      [ContentSegment.textSegment truncatedText]).getD block

/-- An item with smaller images. -/
def compressItem (env : CompressionEnv) (config : CompressionConfig) :
    ChatHistoryItem → ChatHistoryItem
  | .block block => .block (compressMessageImages env config block)
  | .round round => .round round

/-- An item that is not protected, clamped. -/
def truncateItem (config : CompressionConfig) : ChatHistoryItem → ChatHistoryItem
  | .round round =>
      .round { round with
        toolResult := truncateText round.toolResult config.toolResultMaxChars
        argumentsJson := truncateText round.argumentsJson config.toolResultMaxChars }
  | .block block =>
      if block.role = .assistant then
        .block (truncateAssistantMessage block config.assistantMessageMaxChars)
      else .block block

/-- `_truncate_large_items` -/
def truncateLargeItems (env : CompressionEnv) (config : CompressionConfig)
    (historyItems : List ChatHistoryItem) (subSessionUserPrefixEnd : Nat) :
    List ChatHistoryItem :=
  let firstProtected := historyItems.length - latestTurnSuffixLength historyItems
  historyItems.zipIdx.map fun entry =>
    let item := compressItem env config entry.1
    if firstProtected ≤ entry.2 ∨ entry.2 < subSessionUserPrefixEnd then item
    else truncateItem config item

/-! ## The recent window -/

/-- How many items of the reversed history the window keeps. -/
def recentCount (recentMessageLimit : Int) : Int → List ChatHistoryItem → Nat
  | _, [] => 0
  | seenMessageBlocks, .round _ :: rest => recentCount recentMessageLimit seenMessageBlocks rest + 1
  | seenMessageBlocks, .block _ :: rest =>
      if recentMessageLimit ≤ seenMessageBlocks + 1 then 1
      else recentCount recentMessageLimit (seenMessageBlocks + 1) rest + 1

/-- `_keep_recent_history`: the kept items and where they start. -/
def keepRecentHistory (historyItems : List ChatHistoryItem) (recentMessageLimit : Int) :
    List ChatHistoryItem × Nat :=
  let tailStart := historyItems.length - recentCount recentMessageLimit 0 historyItems.reverse
  (historyItems.drop tailStart, tailStart)

/-! ## Unloading images -/

/-- `_segment_fingerprint` on a stored segment. -/
def fingerprint (env : CompressionEnv) (segment : JsonObject) : String :=
  env.digest (Json.dumps (Json.sortKeys (.obj segment)))

/-- `restored_segment_fingerprints` -/
def restoredSegmentFingerprints (env : CompressionEnv) (records : List JsonObject) : List String :=
  records.flatMap fun record =>
    if ((JsonObject.get record "restored").getD .null).truthy then
      (((JsonObject.get record "segments").bind Json.asArr).getD []).filterMap fun segment =>
        segment.asObj.map (fingerprint env)
    else []

/-- The text of a record's id. -/
def recordUnloadId (env : CompressionEnv) (record : JsonObject) : String :=
  match JsonObject.get record "unload_id" with
  | none => ""
  | some (.str unloadId) => unloadId
  | some value => if value.truthy then env.strOf value else ""

/-- The records with the first one of an id marked as unloaded again. -/
def reunloadRecord (env : CompressionEnv) (unloadId : String) :
    List JsonObject → Option (List JsonObject)
  | [] => none
  | record :: rest =>
      if recordUnloadId env record = unloadId then
        let unloaded :=
          if ((JsonObject.get record "restored").getD .null).truthy then
            (record.set "restored" (.bool false)).set "restored_at_ms" .null
          else record
        some (unloaded.set "last_seen_at_ms" (.int env.nowMs) :: rest)
      else (reunloadRecord env unloadId rest).map (record :: ·)

/-- The records are stored, unless the write fails. -/
def saveUnloadedSegmentsState (env : CompressionEnv) (records : List JsonObject) :
    Except PyError (List JsonObject) :=
  match env.writeState with
  | some error => .error error
  | none => .ok records

/-- `append_unloaded_segment_record`: the records stored afterwards. -/
def appendUnloadedSegmentRecord (env : CompressionEnv) (records : List JsonObject)
    (unloadId role : String) (segments : List JsonObject) (placeholder sourceSummary : String) :
    Except PyError (List JsonObject) :=
  if unloadId = "" ∨ segments = [] then .ok records
  else
    match env.readState with
    | some error => .error error
    | none =>
        match reunloadRecord env unloadId records with
        | some updated => saveUnloadedSegmentsState env updated
        | none =>
            saveUnloadedSegmentsState env (records ++ [
              [("unload_id", .str unloadId),
                ("role", .str (orElse role "user")),
                ("segments", .arr (segments.map Json.obj)),
                ("placeholder", .str placeholder),
                ("source_summary", .str sourceSummary),
                ("created_at_ms", .int env.nowMs),
                ("last_seen_at_ms", .int env.nowMs),
                ("restored", .bool false),
                ("restored_at_ms", .null)]])

/-- `_message_blocks_after_index` -/
def messageBlocksAfterIndex (historyItems : List ChatHistoryItem) (index : Nat) : Nat :=
  (historyItems.drop (index + 1)).countP fun item => !item.isRound

/-- `_make_unload_id` -/
def makeUnloadId (env : CompressionEnv) (role : SessionMessageRole) (historyIndex : Nat)
    (unloadedSegments : List ContentSegment) : String :=
  let raw := Json.dumps (Json.sortKeys (.obj [
    ("role", .str role.value),
    ("history_index", .int historyIndex),
    ("segments", .arr (unloadedSegments.map fun segment => .obj segment.toDict))]))
  "imgu_" ++ String.ofList ((env.digest raw).toList.take 12)

/-- The text that stands where images were. -/
def unloadPlaceholder (unloadId : String) (images : Nat) : String :=
  "[image context unloaded: unload_id=" ++ unloadId ++ "; images=" ++ toString images ++
    "; use reload_unloaded_segments to restore]"

/-- An image is unloaded unless it was restored and is recent enough to be guarded. -/
def unloads (env : CompressionEnv) (restored : List String) (messageBlocksAfter : Nat)
    (reloadedGuardMessages : Int) (segment : ContentSegment) : Bool :=
  segment.type = .imageUrl &&
    !(fingerprint env segment.toDict ∈ restored &&
      decide (messageBlocksAfter < max 0 reloadedGuardMessages))

/-- `_replace_images_with_unload_placeholder`: the message without its images, and the
records stored afterwards. -/
def replaceImagesWithUnloadPlaceholder (env : CompressionEnv) (item : ChatHistoryItem)
    (historyIndex : Nat) (historyItems : List ChatHistoryItem) (restored : List String)
    (reloadedGuardMessages : Int) (records : List JsonObject) :
    Except PyError (Option (SessionMessageBlock × List JsonObject)) :=
  match item with
  | .block { role := role, body := .segments segments } =>
      let messageBlocksAfter := messageBlocksAfterIndex historyItems historyIndex
      let unloaded := segments.filter (unloads env restored messageBlocksAfter reloadedGuardMessages)
      let kept := segments.filter fun segment =>
        !unloads env restored messageBlocksAfter reloadedGuardMessages segment
      if unloaded = [] then .ok none
      else
        let unloadId := makeUnloadId env role historyIndex unloaded
        let placeholder := unloadPlaceholder unloadId unloaded.length
        match appendUnloadedSegmentRecord env records unloadId role.value
          (unloaded.map ContentSegment.toDict) placeholder
          ("history_index=" ++ toString historyIndex) with
        | .error error => .error error
        | .ok stored =>
            .ok ((SessionMessageBlock.fromSegments role
              (kept ++ [ContentSegment.textSegment placeholder])).map fun block => (block, stored))
  | _ => .ok none

/-- Unload the images of the first message at one of the indices that has some. -/
def unloadAt (env : CompressionEnv) (historyItems : List ChatHistoryItem)
    (restored : List String) (reloadedGuardMessages : Int) (records : List JsonObject) :
    List Nat → Except PyError (Option (List ChatHistoryItem × List JsonObject))
  | [] => .ok none
  | idx :: rest =>
      match historyItems[idx]? with
      | none => unloadAt env historyItems restored reloadedGuardMessages records rest
      | some item =>
          match replaceImagesWithUnloadPlaceholder env item idx historyItems restored
            reloadedGuardMessages records with
          | .error error => .error error
          | .ok none => unloadAt env historyItems restored reloadedGuardMessages records rest
          | .ok (some (unloaded, stored)) => .ok (some (historyItems.set idx (.block unloaded), stored))

/-- The indices from a start up to the latest turn. -/
def unprotectedIndices (historyItems : List ChatHistoryItem) (start : Nat) : List Nat :=
  List.range' start (historyItems.length - latestTurnSuffixLength historyItems - start)

/-- `_unload_oldest_image_message` -/
def unloadOldestImageMessage (env : CompressionEnv) (historyItems : List ChatHistoryItem)
    (protectedPrefix : Nat) (reloadedGuardMessages : Int) (records : List JsonObject) :
    Except PyError (Option (List ChatHistoryItem × List JsonObject)) :=
  if historyItems = [] then .ok none
  else
    match env.readState with
    | some error => .error error
    | none =>
        unloadAt env historyItems (restoredSegmentFingerprints env records)
          reloadedGuardMessages records (unprotectedIndices historyItems protectedPrefix)

/-! ## Dropping items -/

/-- A message that stands for unloaded images. -/
def ChatHistoryItem.isPlaceholder : ChatHistoryItem → Bool
  | .round _ => false
  | .block message => contains message.asPlainText "image context unloaded:"

/-- `_find_droppable_index` -/
def findDroppableIndex (historyItems : List ChatHistoryItem) (start : Nat) : Option Nat :=
  (unprotectedIndices historyItems start).find? fun idx =>
    (historyItems[idx]?.map fun item => !item.isPlaceholder).getD false

/-! ## Rebuilding the prompt -/

/-- `_extract_system_messages`: the prompt's text and the system messages after it. -/
def extractSystemMessages (payload : BeforeLlmCallHookPayload) : String × List LlmChatMessage :=
  match payload.turn.llmMessages with
  | [] => ("", [])
  | first :: rest =>
      if first.role ≠ .system then ("", [])
      else
        let promptText :=
          match first.content with
          | .text text => text
          | .parts _ => ""
        (promptText, rest.takeWhile fun message => message.role = .system)

/-- `_rebuild_messages` -/
def rebuildMessages (payload : BeforeLlmCallHookPayload) (historyItems : List ChatHistoryItem) :
    List LlmChatMessage :=
  let (systemPrompt, extraSystemMessages) := extractSystemMessages payload
  match assemble { text := systemPrompt } historyItems payload.turn.userTurn with
  | [] => extraSystemMessages
  | first :: rest =>
      if extraSystemMessages = [] then first :: rest
      else if first.role = .system then first :: extraSystemMessages ++ rest
      else extraSystemMessages ++ first :: rest

/-- `_count_prompt_tokens` -/
def countPromptTokens (env : CompressionEnv) (messages : List LlmChatMessage)
    (payload : BeforeLlmCallHookPayload) : Int :=
  env.countMessages messages + env.countTools payload.tools

/-- `_count_rebuilt_prompt` -/
def countRebuiltPrompt (env : CompressionEnv) (payload : BeforeLlmCallHookPayload)
    (historyItems : List ChatHistoryItem) : Int :=
  countPromptTokens env (rebuildMessages payload historyItems) payload

/-- The payload that `_build_output` hands on. -/
def buildOutput (payload : BeforeLlmCallHookPayload) (historyItems : List ChatHistoryItem) :
    HookStageOutput BeforeLlmCallHookPayload :=
  { status := .ok
    patchedPayload := some { payload with
      turn := { payload.turn with
        historyItems := historyItems
        llmMessages := rebuildMessages payload historyItems } } }

/-! ## What a step of the loops changes -/

/-- How many images a message has. -/
def SessionMessageBlock.images (block : SessionMessageBlock) : Nat :=
  match block.body with
  | .text _ => 0
  | .segments segments => segments.countP fun segment => segment.type = .imageUrl

/-- How many images an item has. -/
def ChatHistoryItem.images : ChatHistoryItem → Nat
  | .block message => message.images
  | .round _ => 0

/-- The images of a message item are those of the message. -/
@[simp] theorem images_block (message : SessionMessageBlock) :
    (ChatHistoryItem.block message).images = message.images := rfl

/-- How many images a history has. -/
def imageCount (historyItems : List ChatHistoryItem) : Nat :=
  (historyItems.map ChatHistoryItem.images).sum

section Steps

variable {env : CompressionEnv} {item : ChatHistoryItem} {historyIndex : Nat}
  {historyItems next : List ChatHistoryItem} {restored : List String} {guardMessages : Int}
  {records stored : List JsonObject} {block : SessionMessageBlock}

/-- A message whose images are unloaded keeps its other segments, and a placeholder. -/
theorem replaceImages_some
    (replaced : replaceImagesWithUnloadPlaceholder env item historyIndex historyItems restored
      guardMessages records = .ok (some (block, stored))) :
    ∃ role segments unloadId images,
      item = .block { role := role, body := .segments segments } ∧
      (∃ segment ∈ segments, unloads env restored
        (messageBlocksAfterIndex historyItems historyIndex) guardMessages segment) ∧
      SessionMessageBlock.fromSegments role
        ((segments.filter fun segment => !unloads env restored
          (messageBlocksAfterIndex historyItems historyIndex) guardMessages segment) ++
            [ContentSegment.textSegment (unloadPlaceholder unloadId images)]) = some block := by
  unfold replaceImagesWithUnloadPlaceholder at replaced
  split at replaced
  · next role segments =>
      dsimp only at replaced
      split at replaced
      · cases replaced
      · next some_unloaded =>
          obtain ⟨segment, member⟩ := List.exists_mem_of_ne_nil _ some_unloaded
          obtain ⟨inside, unloaded⟩ := List.mem_filter.mp member
          split at replaced
          · cases replaced
          · obtain ⟨rebuilt, built, pair⟩ := Option.map_eq_some_iff.mp (Except.ok.inj replaced)
            cases pair
            exact ⟨role, segments, _, _, rfl, ⟨segment, inside, unloaded⟩, built⟩
  · cases replaced

/-- A message is left as it is when none of its images is unloaded. -/
theorem replaceImages_none {role : SessionMessageRole} {segments : List ContentSegment}
    (left : replaceImagesWithUnloadPlaceholder env
      (.block { role := role, body := .segments segments }) historyIndex historyItems restored
      guardMessages records = .ok none) :
    ∀ segment ∈ segments, unloads env restored
      (messageBlocksAfterIndex historyItems historyIndex) guardMessages segment = false := by
  unfold replaceImagesWithUnloadPlaceholder at left
  dsimp only at left
  split at left
  · next none_unloaded =>
      intro segment member
      simpa using List.filter_eq_nil_iff.mp none_unloaded segment member
  · split at left
    · cases left
    · have none_built := Option.map_eq_none_iff.mp (Except.ok.inj left)
      obtain ⟨rebuilt, built⟩ := SessionMessageBlock.fromSegments_isSome role
        (List.append_ne_nil_of_right_ne_nil _ (List.cons_ne_nil _ []))
      cases none_built.symm.trans built

/-- A message that is built has the images of its segments. -/
theorem images_fromSegments {role : SessionMessageRole} {segments : List ContentSegment}
    (built : SessionMessageBlock.fromSegments role segments = some block) :
    block.images = segments.countP fun segment => segment.type = .imageUrl := by
  unfold SessionMessageBlock.fromSegments at built
  split at built
  · cases built
  · next segment =>
      split at built
      · next isText =>
          cases built
          simp [SessionMessageBlock.images, isText]
      · cases built
        rfl
  · cases built
    rfl

/-- A message whose images are replaced has fewer of them. -/
theorem images_lt_of_replaced
    (replaced : replaceImagesWithUnloadPlaceholder env item historyIndex historyItems restored
      guardMessages records = .ok (some (block, stored))) :
    block.images < item.images := by
  obtain ⟨role, segments, unloadId, images, rfl, ⟨segment, member, unloaded⟩, rebuilt⟩ :=
    replaceImages_some replaced
  have isImage : segment.type = .imageUrl := by
    simp only [unloads, Bool.and_eq_true, decide_eq_true_eq] at unloaded
    exact unloaded.1
  have parts := List.countP_eq_countP_filter_add segments
    (fun segment => decide (segment.type = .imageUrl))
    (unloads env restored (messageBlocksAfterIndex historyItems historyIndex) guardMessages)
  have some_unloaded : 0 < (segments.filter (unloads env restored
      (messageBlocksAfterIndex historyItems historyIndex) guardMessages)).countP
        fun segment => segment.type = .imageUrl :=
    List.countP_pos_iff.mpr
      ⟨segment, List.mem_filter.mpr ⟨member, unloaded⟩, decide_eq_true isImage⟩
  have total : (ChatHistoryItem.block { role := role, body := .segments segments }).images =
      segments.countP fun segment => segment.type = .imageUrl := rfl
  have text : [ContentSegment.textSegment (unloadPlaceholder unloadId images)].countP
      (fun segment => segment.type = .imageUrl) = 0 := rfl
  rw [images_fromSegments rebuilt, total, List.countP_append, text]
  omega

/-- An unloading step changes one message at one of the indices. -/
theorem unloadAt_some {indices : List Nat}
    (stepped : unloadAt env historyItems restored guardMessages records indices =
      .ok (some (next, stored))) :
    ∃ idx item block, idx ∈ indices ∧ historyItems[idx]? = some item ∧
      replaceImagesWithUnloadPlaceholder env item idx historyItems restored guardMessages records =
        .ok (some (block, stored)) ∧
      next = historyItems.set idx (.block block) := by
  induction indices with
  | nil => cases stepped
  | cons idx rest ih =>
      rw [unloadAt] at stepped
      split at stepped
      · obtain ⟨index, item, block, member, found⟩ := ih stepped
        exact ⟨index, item, block, List.mem_cons_of_mem _ member, found⟩
      · next item found =>
          split at stepped
          · cases stepped
          · obtain ⟨index, item, block, member, found⟩ := ih stepped
            exact ⟨index, item, block, List.mem_cons_of_mem _ member, found⟩
          · next unloaded stored' replaced =>
              cases stepped
              exact ⟨idx, item, unloaded, List.mem_cons_self, found, replaced, rfl⟩

/-- When nothing is unloaded, none of the items has anything to unload. -/
theorem unloadAt_none {indices : List Nat}
    (ended : unloadAt env historyItems restored guardMessages records indices = .ok none) :
    ∀ idx ∈ indices, ∀ item, historyItems[idx]? = some item →
      replaceImagesWithUnloadPlaceholder env item idx historyItems restored guardMessages records =
        .ok none := by
  induction indices with
  | nil => simp
  | cons idx rest ih =>
      rw [unloadAt] at ended
      intro index member item found
      split at ended
      · next missing =>
          rcases List.mem_cons.mp member with rfl | member
          · rw [missing] at found
            cases found
          · exact ih ended index member item found
      · next own foundOwn =>
          split at ended
          · cases ended
          · next left =>
              rcases List.mem_cons.mp member with rfl | member
              · rw [foundOwn] at found
                cases found
                exact left
              · exact ih ended index member item found
          · cases ended

/-- A message with fewer images lowers the count. -/
theorem imageCount_set {idx : Nat} (found : historyItems[idx]? = some item)
    (fewer : block.images < item.images) :
    imageCount (historyItems.set idx (.block block)) < imageCount historyItems := by
  obtain ⟨inside, isItem⟩ := List.getElem?_eq_some_iff.mp found
  have before : historyItems = historyItems.take idx ++ item :: historyItems.drop (idx + 1) := by
    rw [← isItem, List.getElem_cons_drop, List.take_append_drop]
  have after : historyItems.set idx (.block block) =
      historyItems.take idx ++ .block block :: historyItems.drop (idx + 1) :=
    List.set_eq_take_append_cons_drop.trans (if_pos inside)
  rw [after]
  conv_rhs => rw [before]
  simp only [imageCount, List.map_append, List.map_cons, List.sum_append, List.sum_cons,
    images_block]
  omega

end Steps

end FairyClaw
