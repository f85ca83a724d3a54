import FairyClaw.Compression.Exhausted
import FairyClaw.Compression.Unloadings

/-! # Reloading what the hook has unloaded

In every run of a session the images that a turn's compression takes out of the messages it keeps
are held by active records under the ids that the placeholders name, each by one, and a reload of
all segments restores each of them (`FairyClaw.ImageSession.unloaded_reloadable`). An image that
leaves with its message, outside of the recent window or in the drop loop, or with an assistant
message that is cut down to its text, is not recorded.
-/

namespace FairyClaw

open Foundation

/-! ## Sessions -/

/-- The clock, and what the record store answers, during a call. -/
structure StoreMoment where
  nowMs : Int
  readState : Option PyError := none
  writeState : Option PyError := none

/-- The environment at a moment. -/
def CompressionEnv.during (env : CompressionEnv) (moment : StoreMoment) : CompressionEnv :=
  { env with
    nowMs := moment.nowMs
    readState := moment.readState
    writeState := moment.writeState }

/-- The persisted history of a session, its records, and what was unloaded so far. -/
structure ImageSession where
  history : List ChatHistoryItem
  records : List JsonObject := []
  made : List Unloading := []

/-- What happens in a session: messages, compressions and reloads. -/
inductive ImageAction
  | persist (items : List ChatHistoryItem)
  | compress (moment : StoreMoment) (config : CompressionConfig) (contextBudget : Option Int)
      (payload : BeforeLlmCallHookPayload) (limit : Nat)
  | reload (moment : StoreMoment) (mode : ReloadMode)

namespace ImageSession

/-- The payload of a turn that takes the most recent items of the history. -/
def turnPayload (session : ImageSession) (payload : BeforeLlmCallHookPayload) (limit : Nat) :
    BeforeLlmCallHookPayload :=
  { payload with
    turn := { payload.turn with
      historyItems := session.history.drop (session.history.length - limit) } }

/-- What the compression of a turn unloads. -/
abbrev turnUnloadings (env : CompressionEnv) (session : ImageSession) (moment : StoreMoment)
    (config : CompressionConfig) (contextBudget : Option Int)
    (payload : BeforeLlmCallHookPayload) (limit : Nat) : List Unloading :=
  hookUnloadings (env.during moment) config contextBudget (session.turnPayload payload limit)
    session.records

/-- A step of the session; calls that fail leave it as it is. -/
def step (env : CompressionEnv) (session : ImageSession) : ImageAction → Option ImageSession
  | .persist items => some { session with history := session.history ++ items }
  | .compress moment config contextBudget payload limit =>
      match executeHook (env.during moment) config contextBudget
        (session.turnPayload payload limit) session.records with
      | .error _ => some session
      | .ok (_, stored) => some { session with
          records := stored
          made := session.made ++
            session.turnUnloadings env moment config contextBudget payload limit }
  | .reload moment mode =>
      match reloadUnloadedSegments (env.during moment) mode session.records with
      | .error _ => some session
      | .ok (messages, stored) => some { session with
          history := session.history ++ messages.map ChatHistoryItem.block
          records := stored }

/-- The session, which starts without records. -/
def machine (env : CompressionEnv) : Machine ImageSession ImageAction where
  initial session := session.records = [] ∧ session.made = []
  step := step env

end ImageSession

/-! ## One compression -/

section Hook

variable {env : CompressionEnv} {config : CompressionConfig} {contextBudget : Option Int}
  {payload : BeforeLlmCallHookPayload} {records stored : List JsonObject}
  {output : HookStageOutput BeforeLlmCallHookPayload}

/-- The history before unloading: the input, the clamped input, or the recent part of it. -/
def Retained (env : CompressionEnv) (config : CompressionConfig) (turn : LlmTurnContext)
    (kept : List ChatHistoryItem) : Prop :=
  let clamped := truncateLargeItems env config turn.historyItems
    (subSessionPrefixEnd turn.isSubSession turn.historyItems)
  kept = turn.historyItems ∨ kept = clamped ∨ kept = recentHistory turn.isSubSession config clamped

/-- The compressed history is what the unloadings and the drop loop leave of the kept one. -/
structure Compressed (env : CompressionEnv) (kept : List ChatHistoryItem)
    (records : List JsonObject) (unloaded compressed : List ChatHistoryItem)
    (stored : List JsonObject) (made : List Unloading) : Prop where
  accounted : ImagesAccounted env kept (archiveOf env records) unloaded stored made
  sublist : compressed.Sublist unloaded
  placeholders : compressed.filter ChatHistoryItem.isPlaceholder =
    unloaded.filter ChatHistoryItem.isPlaceholder

/-- A history that is not changed is compressed. -/
theorem compressed_refl (env : CompressionEnv) (kept : List ChatHistoryItem)
    (records : List JsonObject) : Compressed env kept records kept kept records [] where
  accounted := imagesAccounted_refl env kept records
  sublist := List.Sublist.refl kept
  placeholders := rfl

/-- When the prompt fits the loop unloads nothing. -/
theorem loopUnloadings_of_fits {protectedPrefix : Nat} {guardMessages tokenBudget : Int}
    {history : List ChatHistoryItem} (fits : countRebuiltPrompt env payload history ≤ tokenBudget) :
    loopUnloadings env payload protectedPrefix guardMessages tokenBudget history records = [] := by
  rw [loopUnloadings, if_pos fits]

/-- The hook hands on a compressed history. -/
theorem executeHook_compressed
    (ran : executeHook env config contextBudget payload records = .ok (output, stored)) :
    ∃ patched kept unloaded, output.patchedPayload = some patched ∧
      Retained env config payload.turn kept ∧
      Compressed env kept records unloaded patched.turn.historyItems stored
        (hookUnloadings env config contextBudget payload records) := by
  unfold executeHook at ran
  dsimp only at ran
  unfold hookUnloadings
  dsimp only
  split at ran
  · next no_budget =>
      cases ran
      rw [if_pos (Or.inl no_budget)]
      exact ⟨payload, _, _, rfl, Or.inl rfl, compressed_refl env _ _⟩
  · next budget =>
      split at ran
      · next fits =>
          cases ran
          rw [if_pos (Or.inr (Or.inl fits))]
          exact ⟨payload, _, _, rfl, Or.inl rfl, compressed_refl env _ _⟩
      · next long =>
          split at ran
          · next fits =>
              cases ran
              rw [if_pos (Or.inr (Or.inr fits))]
              exact ⟨_, _, _, rfl, Or.inr (Or.inl rfl), compressed_refl env _ _⟩
          · next longer =>
              rw [if_neg (not_or_intro budget (not_or_intro long longer))]
              split at ran
              · next fits =>
                  cases ran
                  rw [loopUnloadings_of_fits fits]
                  exact ⟨_, _, _, rfl, Or.inr (Or.inr rfl), compressed_refl env _ _⟩
              · split at ran
                · cases ran
                · next unloaded stored unloading =>
                    cases ran
                    have accounted := unloadLoop_unloadings (fun _ _ _ _ _ _ => ImagesAccounted.step)
                      unloading [] (imagesAccounted_refl env _ records)
                    refine ⟨_, _, unloaded, rfl, Or.inr (Or.inr rfl), accounted, ?_, ?_⟩
                    · exact (dropLoop_placeholders env payload _ _ unloaded).1
                    · exact (dropLoop_placeholders env payload _ _ unloaded).2

/-- Clamping shrinks the images of an item, or cuts an assistant message down to its text. -/
def ClampedImages (item clamped : ChatHistoryItem) : Prop :=
  List.Forall₂ SegmentKept item.imageSegments clamped.imageSegments ∨
    (∃ block, item = .block block ∧ block.role = .assistant) ∧ clamped.imageSegments = []

/-- An image is kept as an image. -/
theorem SegmentKept.isImage {segment kept : ContentSegment} (stays : SegmentKept segment kept) :
    segment.type = .imageUrl ↔ kept.type = .imageUrl := by
  cases stays with
  | same => exact Iff.rfl
  | recompressed isImage => exact ⟨fun _ => rfl, fun _ => isImage⟩

/-- Segments that are kept keep their images one by one. -/
theorem images_forall₂ {segments kept : List ContentSegment}
    (stay : List.Forall₂ SegmentKept segments kept) :
    List.Forall₂ SegmentKept (segments.filter fun segment => segment.type = .imageUrl)
      (kept.filter fun segment => segment.type = .imageUrl) := by
  induction stay with
  | nil => exact .nil
  | cons first rest ih =>
      rw [List.filter_cons, List.filter_cons]
      simp only [decide_eq_true_eq, first.isImage]
      split
      · exact .cons first ih
      · exact ih

/-- An item that is kept keeps its images one by one. -/
theorem ItemKept.images {item kept : ChatHistoryItem} (stays : ItemKept item kept) :
    List.Forall₂ SegmentKept item.imageSegments kept.imageSegments := by
  cases stays with
  | same => exact List.forall₂_same.mpr fun segment _ => .same segment
  | recompressed kept => exact images_forall₂ kept

/-- A truncated item has its images, or is cut down to the text of the assistant. -/
theorem truncateItem_images (config : CompressionConfig) (item : ChatHistoryItem) :
    (truncateItem config item).imageSegments = item.imageSegments ∨
      (∃ block, item = .block block ∧ block.role = .assistant) ∧
        (truncateItem config item).imageSegments = [] := by
  cases item with
  | round round => exact Or.inl rfl
  | block block =>
      unfold truncateItem
      dsimp only
      split
      · next assistant =>
          unfold truncateAssistantMessage
          dsimp only
          split
          · exact Or.inl rfl
          · exact Or.inr ⟨⟨block, rfl, assistant⟩, rfl⟩
      · exact Or.inl rfl

/-- Clamping an item keeps its images, smaller at most, or cuts it down to its text. -/
theorem truncateLargeItems_images (env : CompressionEnv) (config : CompressionConfig)
    (input : List ChatHistoryItem) (prefixEnd : Nat) {idx : Nat} {item : ChatHistoryItem}
    (found : input[idx]? = some item) :
    ∃ clamped, (truncateLargeItems env config input prefixEnd)[idx]? = some clamped ∧
      ClampedImages item clamped := by
  have shrunk := compressItem_kept env config item
  simp only [truncateLargeItems, List.getElem?_map, List.getElem?_zipIdx, found, Option.map_some,
    Option.some.injEq, exists_eq_left', Nat.zero_add]
  split
  · exact Or.inl shrunk.images
  · rcases truncateItem_images config (compressItem env config item) with same | ⟨cut, empty⟩
    · exact Or.inl (by rw [same]; exact shrunk.images)
    · refine Or.inr ⟨?_, empty⟩
      obtain ⟨block, isBlock, assistant⟩ := cut
      rw [isBlock] at shrunk
      cases shrunk with
      | same => exact ⟨block, rfl, assistant⟩
      | recompressed => exact ⟨_, rfl, assistant⟩

/-- A run that comes to the loop, and fits after it, hands on what the loop leaves. -/
theorem executeHook_of_loop {start : Nat} {guardMessages tokenBudget : Int}
    {clamped recent unloaded : List ChatHistoryItem}
    (budget : tokenBudgetOf payload.tokenBudget contextBudget = tokenBudget)
    (guards : config.reloadedImageGuardMessages = guardMessages)
    (clamps : truncateLargeItems env config payload.turn.historyItems
      (subSessionPrefixEnd payload.turn.isSubSession payload.turn.historyItems) = clamped)
    (selects : recentHistory payload.turn.isSubSession config clamped = recent)
    (starts : subSessionPrefixEnd payload.turn.isSubSession recent = start)
    (positive : 0 < tokenBudget)
    (longPrompt : ¬ countPromptTokens env payload.turn.llmMessages payload ≤ tokenBudget)
    (longClamped : ¬ countRebuiltPrompt env payload clamped ≤ tokenBudget)
    (longRecent : ¬ countRebuiltPrompt env payload recent ≤ tokenBudget)
    (looped : unloadLoop env payload start guardMessages tokenBudget recent records =
      .ok (unloaded, stored))
    (fits : countRebuiltPrompt env payload unloaded ≤ tokenBudget) :
    executeHook env config contextBudget payload records =
        .ok (buildOutput payload unloaded, stored) ∧
      hookUnloadings env config contextBudget payload records =
        loopUnloadings env payload start guardMessages tokenBudget recent records := by
  subst budget guards clamps selects starts
  have spent : ¬ tokenBudgetOf payload.tokenBudget contextBudget ≤ 0 := Int.not_le.mpr positive
  constructor
  · rw [executeHook]
    dsimp only
    rw [if_neg spent, if_neg longPrompt, if_neg longClamped, if_neg longRecent, looped]
    dsimp only
    rw [dropLoop_of_fits fits]
  · rw [hookUnloadings]
    exact if_neg (not_or_intro spent (not_or_intro longPrompt longClamped))

end Hook

/-! ## Runs of a session -/

/-- What a reload makes of an unloading. -/
def Unloading.message (unloading : Unloading) : SessionMessageBlock :=
  { role := unloading.role, body := .segments unloading.images }

/-- No two different unloadings have the same id. -/
def DistinctIds (env : CompressionEnv) (made : List Unloading) : Prop :=
  ∀ first ∈ made, ∀ second ∈ made, first.unloadId env = second.unloadId env → first = second

/-- Images read back from their dictionaries. -/
theorem filterMap_fromDict (images : List ContentSegment) :
    ((images.map ContentSegment.toDict).map Json.obj).filterMap
      (fun raw => raw.asObj.bind ContentSegment.fromDict) = images := by
  rw [List.filterMap_map, List.filterMap_map]
  have back : ((fun raw => raw.asObj.bind ContentSegment.fromDict) ∘ Json.obj) ∘
      ContentSegment.toDict = some := funext fun segment => segment.fromDict_toDict
  rw [back, List.filterMap_some]

/-- A reload reads the role and the images of an unloading back. -/
theorem restoredMessage_unloading (env : CompressionEnv) (unloading : Unloading) :
    restoredMessage env unloading.value =
      SessionMessageBlock.fromSegments unloading.role unloading.images := by
  have role : recordRole env (some (.str unloading.role.value)) = unloading.role.value :=
    orElse_value unloading.role
  have made : restoredMessage env unloading.value =
      SessionMessageBlock.fromSegments
        (SessionMessageRole.fromValue (recordRole env (some (.str unloading.role.value))))
        (((unloading.images.map ContentSegment.toDict).map Json.obj).filterMap
          fun raw => raw.asObj.bind ContentSegment.fromDict) := rfl
  rw [made, filterMap_fromDict, role, SessionMessageRole.fromValue_value]

/-- A reload makes a message of an unloading, with its role and images. -/
theorem restoredMessage_value (env : CompressionEnv) {unloading : Unloading}
    (some_image : unloading.images ≠ [])
    (areImages : ∀ segment ∈ unloading.images, segment.type = .imageUrl) :
    restoredMessage env unloading.value = some unloading.message := by
  obtain ⟨segment, member⟩ := List.exists_mem_of_ne_nil _ some_image
  rw [restoredMessage_unloading, fromSegments_of_image member (areImages segment member)]
  rfl

namespace ImageSession

variable {env : CompressionEnv} {session next : ImageSession}

/-- The records are under distinct ids, and each is of an unloading. -/
structure Recorded (env : CompressionEnv) (session : ImageSession) : Prop where
  distinct : Archive.Distinct (archiveOf env session.records)
  made : ∀ entry ∈ archiveOf env session.records,
    ∃ unloading ∈ session.made, entry.key = unloading.unloadId env ∧ entry.value = unloading.value

/-- Every step keeps the records true. -/
theorem Recorded.step {action : ImageAction} (recorded : session.Recorded env)
    (stepped : session.step env action = some next) : next.Recorded env := by
  cases action with
  | persist items =>
      cases stepped
      exact ⟨recorded.distinct, recorded.made⟩
  | compress moment config contextBudget payload limit =>
      unfold ImageSession.step at stepped
      dsimp only at stepped
      split at stepped
      · cases stepped
        exact recorded
      · next output stored ran =>
          cases stepped
          obtain ⟨_, _, _, _, _, compressed⟩ := executeHook_compressed ran
          have filed := compressed.accounted.filed
          constructor
          · change Archive.Distinct (archiveOf (env.during moment) stored)
            rw [filed]
            exact recorded.distinct.fileAll _
          · intro entry member
            change entry ∈ archiveOf (env.during moment) stored at member
            rw [filed] at member
            rcases Archive.mem_fileAll _ member with fresh | ⟨old, present, sameKey, sameValue⟩
            · obtain ⟨unloading, isMade, same⟩ := List.mem_map.mp fresh
              obtain ⟨key, value⟩ := Prod.mk.inj same
              exact ⟨unloading, List.mem_append_right _ isMade, key.symm, value.symm⟩
            · obtain ⟨unloading, isMade, key, value⟩ := recorded.made old present
              exact ⟨unloading, List.mem_append_left _ isMade, sameKey.symm.trans key,
                sameValue.symm.trans value⟩
  | reload moment mode =>
      unfold ImageSession.step at stepped
      dsimp only at stepped
      split at stepped
      · cases stepped
        exact recorded
      · next messages stored reloaded =>
          cases stepped
          obtain ⟨selected, consumed, -⟩ := reloadUnloadedSegments_ok reloaded
          obtain ⟨-, retired⟩ := archiveOf_consume consumed
          constructor
          · change Archive.Distinct (archiveOf (env.during moment) stored)
            rw [retired]
            exact recorded.distinct.retire _
          · intro entry member
            change entry ∈ archiveOf (env.during moment) stored at member
            rw [retired] at member
            obtain ⟨old, present, sameKey, sameValue, -⟩ := Archive.mem_retire member
            obtain ⟨unloading, isMade, key, value⟩ := recorded.made old present
            exact ⟨unloading, isMade, sameKey.symm.trans key, sameValue.symm.trans value⟩

/-- In every run the records are those of the unloadings made. -/
theorem reachable_recorded (reached : (machine env).Reachable Machine.anyStep session) :
    session.Recorded env := by
  refine reached.invariant (fun start initial => ?_) fun _ _ _ recorded _ stepped =>
    recorded.step stepped
  constructor
  · rw [initial.1]
    exact List.nodup_nil
  · rw [initial.1]
    exact fun entry member => absurd member List.not_mem_nil

/-- Under distinct ids no two unloadings file different images. -/
theorem consistent_of_distinctIds {made : List Unloading} (distinct : DistinctIds env made) :
    ∀ first ∈ made.map fun unloading => (unloading.unloadId env, unloading.value),
      ∀ second ∈ made.map fun unloading => (unloading.unloadId env, unloading.value),
        first.1 = second.1 → first.2 = second.2 := by
  intro first one second two same
  obtain ⟨unloading, isMade, rfl⟩ := List.mem_map.mp one
  obtain ⟨other, alsoMade, rfl⟩ := List.mem_map.mp two
  rw [distinct unloading isMade other alsoMade same]

/-- The unloadings of a compression are filed. -/
theorem Recorded.holds {stored : List JsonObject} {made : List Unloading}
    (recorded : session.Recorded env)
    (filed : archiveOf env stored = Archive.fileAll (archiveOf env session.records)
      (made.map fun unloading => (unloading.unloadId env, unloading.value)))
    (distinct : DistinctIds env (session.made ++ made)) {unloading : Unloading}
    (isMade : unloading ∈ made) :
    Archive.Holds (archiveOf env stored) (unloading.unloadId env) unloading.value := by
  rw [filed]
  refine Archive.holds_fileAll recorded.distinct ?_ ?_ (unloading.unloadId env, unloading.value)
    (List.mem_map.mpr ⟨unloading, isMade, rfl⟩)
  · intro filed member entry present same
    obtain ⟨other, alsoMade, rfl⟩ := List.mem_map.mp member
    obtain ⟨earlier, wasMade, key, value⟩ := recorded.made entry present
    rw [value, distinct earlier (List.mem_append_left _ wasMade) other
      (List.mem_append_right _ alsoMade) (key.symm.trans same)]
  · exact consistent_of_distinctIds fun first one second two =>
      distinct first (List.mem_append_right _ one) second (List.mem_append_right _ two)

end ImageSession

/-! ## Reloading everything -/

section Reload

variable {env : CompressionEnv} {records selected restored : List JsonObject}

/-- What is held is selected once. -/
theorem selected_of_holds {unloadId : String} {value : Option Json × Option Json}
    (holds : Archive.Holds (archiveOf env records) unloadId value) :
    ∃ record,
      (selectRecords env (records.filter fun record => !isRestored record) .all).filter
        (fun record => recordUnloadId env record = unloadId) = [record] ∧
      (filedRecord env record).value = value := by
  have found : (records.filter fun record => recordUnloadId env record = unloadId).map
      (filedRecord env) = [{ key := unloadId, value := value }] := by
    rw [← holds, Archive.under, archiveOf, List.filter_map]
    rfl
  obtain ⟨record, single, filed⟩ := List.map_eq_singleton_iff.mp found
  have isActive : isRestored record = false := by
    have active := congrArg Filed.active filed
    exact Bool.not_eq_true' _ |>.mp active
  refine ⟨record, List.perm_singleton.mp ?_, congrArg Filed.value filed⟩
  refine ((List.mergeSort_perm _ _).filter _).trans ?_
  have once : (records.filter fun record => !isRestored record).filter
      (fun record => recordUnloadId env record = unloadId) = [record] := by
    rw [List.filter_filter]
    have swap := List.filter_filter (p := fun record => !isRestored record)
      (q := fun record => decide (recordUnloadId env record = unloadId)) (l := records)
    simp only [Bool.and_comm] at swap ⊢
    rw [← swap, single, List.filter_cons_of_pos (by rw [isActive]; rfl), List.filter_nil]
  rw [once]

/-- A reload of everything leaves no record in use. -/
theorem retired_of_all
    (consumed : consumeUnloadedSegmentRecords env .all records = .ok (selected, restored)) :
    ∀ entry ∈ archiveOf env restored, entry.active = false := by
  obtain ⟨isSelected, retired⟩ := archiveOf_consume consumed
  intro entry member
  rw [retired] at member
  obtain ⟨old, present, sameKey, -, onlyActive⟩ := Archive.mem_retire member
  by_contra active
  obtain ⟨wasActive, spared⟩ := onlyActive (by simpa using active)
  obtain ⟨record, inside, rfl⟩ := List.mem_map.mp present
  refine of_decide_eq_false spared (List.mem_map.mpr ⟨record, ?_, sameKey⟩)
  rw [isSelected]
  exact (List.mergeSort_perm _ _).mem_iff.mpr (List.mem_filter.mpr ⟨inside, wasActive⟩)

end Reload

/-- The unloadings are held, under ids of their own, and a reload of everything restores them. -/
structure Reloadable (env : CompressionEnv) (stored : List JsonObject) (made : List Unloading) :
    Prop where
  held : ∀ unloading ∈ made,
    Archive.Holds (archiveOf env stored) (unloading.unloadId env) unloading.value
  apart : (made.map (Unloading.unloadId env)).Nodup
  restored : ∀ (moment : StoreMoment) (selected restored : List JsonObject),
    consumeUnloadedSegmentRecords (env.during moment) .all stored = .ok (selected, restored) →
      (∀ unloading ∈ made, ∃ record,
        selected.filter (fun record => recordUnloadId env record = unloading.unloadId env) =
          [record] ∧
        restoredMessage env (filedRecord env record).value = some unloading.message) ∧
      ∀ entry ∈ archiveOf env restored, entry.active = false

namespace ImageSession

variable {env : CompressionEnv} {session : ImageSession}

/-- **Unloaded images stay reloadable.** In every run of a session, when a compression ends, each
image of a message it has kept is still there, or it is held by the only record under the id that
the message's placeholder names, which is active, and a reload of everything restores it. The
placeholders are in the compressed history; the other messages of the kept history may be dropped.
Clamping shrinks images, and takes those of an assistant message that it cuts down to its text. -/
theorem unloaded_reloadable {moment : StoreMoment} {config : CompressionConfig}
    {contextBudget : Option Int} {payload : BeforeLlmCallHookPayload} {limit : Nat}
    {output : HookStageOutput BeforeLlmCallHookPayload} {stored : List JsonObject}
    (reached : (machine env).Reachable Machine.anyStep session)
    (ran : executeHook (env.during moment) config contextBudget
      (session.turnPayload payload limit) session.records = .ok (output, stored))
    (distinct : DistinctIds env
      (session.made ++ session.turnUnloadings env moment config contextBudget payload limit)) :
    ∃ patched kept unloaded, output.patchedPayload = some patched ∧
      Retained (env.during moment) config (session.turnPayload payload limit).turn kept ∧
      Compressed (env.during moment) kept session.records unloaded patched.turn.historyItems stored
        (session.turnUnloadings env moment config contextBudget payload limit) ∧
      Reloadable env stored
        (session.turnUnloadings env moment config contextBudget payload limit) ∧
      (∀ unloading ∈ session.turnUnloadings env moment config contextBudget payload limit,
        ∃ message ∈ patched.turn.historyItems,
          ContentSegment.textSegment (unloading.placeholder env) ∈ message.segments) ∧
      ∀ (prefixEnd idx : Nat) (item : ChatHistoryItem),
        (session.turnPayload payload limit).turn.historyItems[idx]? = some item →
        ∃ clamped, (truncateLargeItems (env.during moment) config
            (session.turnPayload payload limit).turn.historyItems prefixEnd)[idx]? = some clamped ∧
          ClampedImages item clamped := by
  have recorded := reachable_recorded reached
  obtain ⟨patched, kept, unloaded, handed, retained, compressed⟩ := executeHook_compressed ran
  have accounted := compressed.accounted
  have holds (unloading : Unloading) (isMade : unloading ∈ session.turnUnloadings env moment config
      contextBudget payload limit) :
      Archive.Holds (archiveOf env stored) (unloading.unloadId env) unloading.value :=
    recorded.holds accounted.filed distinct isMade
  refine ⟨patched, kept, unloaded, handed, retained, compressed, ⟨?_, ?_, ?_⟩, ?_, ?_⟩
  · exact holds
  · refine List.Nodup.map_on (fun first one second two same => ?_) accounted.nodup
    exact distinct first (List.mem_append_right _ one) second (List.mem_append_right _ two) same
  · intro later selected restored consumed
    have retired := retired_of_all consumed
    refine ⟨fun unloading isMade => ?_, retired⟩
    obtain ⟨record, single, value⟩ := selected_of_holds (holds unloading isMade)
    refine ⟨record, ?_, ?_⟩
    · rw [(archiveOf_consume consumed).1]
      exact single
    · rw [value]
      exact restoredMessage_value env (accounted.gone unloading isMade).1
        (accounted.areImages unloading isMade)
  · intro unloading isMade
    obtain ⟨message, present, marked⟩ := accounted.marked unloading isMade
    have placed : message ∈ unloaded.filter ChatHistoryItem.isPlaceholder :=
      List.mem_filter.mpr ⟨List.mem_of_getElem? present, isPlaceholder_of_marked marked⟩
    rw [← compressed.placeholders] at placed
    exact ⟨message, (List.mem_filter.mp placed).1, marked⟩
  · exact fun prefixEnd idx item found => truncateLargeItems_images _ config _ prefixEnd found

end ImageSession

/-! ## A picture -/

/-- The picture of a cat. -/
def picture : ContentSegment := ContentSegment.imageUrlSegment "https://host/cat.png"

/-- The message with the picture. -/
def pictureBlock : ChatHistoryItem := .block { role := .user, body := .segments [picture] }

/-- A message with parts counts ten tokens. The digest is that of the only text that is digested. -/
def pictureEnv : CompressionEnv :=
  { sampleEnv with
    countMessages := fun messages => (messages.map fun message =>
      match message.content with
      | .text _ => (1 : Int)
      | .parts _ => 10).sum
    digest := fun _ => "c7b84abeef3f5dd2dc8adb172ec8a3f02fb29e53ac206718a94aeb932e949042" }

/-- The payload of a main session with this history and a budget of seven tokens. -/
def picturePayload (historyItems : List ChatHistoryItem) : BeforeLlmCallHookPayload where
  turn := {
    llmMessages := assemble { text := "" } historyItems none
    historyItems := historyItems
    userTurn := none
    sessionId := "main"
    taskType := "general"
    isSubSession := false }
  tools := []
  tokenBudget := some 7

/-- The picture, and what the assistant sees in it. -/
def pictureHistory : List ChatHistoryItem := [pictureBlock, plainBlock .assistant "a cat"]

/-- The unloading of the picture at a place. -/
def unloadingOf (idx : Nat) : Unloading :=
  { role := .user, historyIndex := idx, images := [picture] }

/-- The record of the picture. -/
def pictureRecord : JsonObject :=
  unloadedRecord pictureEnv "imgu_c7b84abeef3f" "user" [picture.toDict]
    ((unloadingOf 0).placeholder pictureEnv) "history_index=0"

/-- The history with a placeholder for the picture. -/
def unloadedHistory : List ChatHistoryItem :=
  [plainBlock .user ((unloadingOf 0).placeholder pictureEnv), plainBlock .assistant "a cat"]

/-! ## A picture and its copy -/

section Steps

variable {env : CompressionEnv} {history : List ChatHistoryItem} {restored : List String}
  {guardMessages : Int} {records : List JsonObject} {idx : Nat} {rest : List Nat}

/-- With a store that can be read the step looks through the unprotected indices. -/
theorem unloadOldest_of_reads {protectedPrefix : Nat} (reads : env.readState = none)
    (some_item : history ≠ []) :
    unloadOldestImageMessage env history protectedPrefix guardMessages records =
      unloadAt env history (restoredSegmentFingerprints env records) guardMessages records
        (unprotectedIndices history protectedPrefix) := by
  rw [unloadOldestImageMessage, if_neg some_item, reads]

/-- The images of the message at the index are replaced. -/
theorem unloadAt_here {item : ChatHistoryItem} {block : SessionMessageBlock}
    {stored : List JsonObject} (found : history[idx]? = some item)
    (replaced : replaceImagesWithUnloadPlaceholder env item idx history restored guardMessages
      records = .ok (some (block, stored))) :
    unloadAt env history restored guardMessages records (idx :: rest) =
      .ok (some (history.set idx (.block block), stored)) := by
  rw [unloadAt, found]
  dsimp only
  rw [replaced]

/-- A text is passed over. -/
theorem unloadAt_text {role : SessionMessageRole} {text : String}
    (found : history[idx]? = some (plainBlock role text)) :
    unloadAt env history restored guardMessages records (idx :: rest) =
      unloadAt env history restored guardMessages records rest := by
  rw [unloadAt, found]
  rfl

/-- A text has nothing to unload. -/
theorem unloadingAt_text {role : SessionMessageRole} {text : String}
    (found : history[idx]? = some (plainBlock role text)) :
    unloadingAt env history restored guardMessages (idx :: rest) =
      unloadingAt env history restored guardMessages rest := by
  rw [unloadingAt, found]
  rfl

/-- An image with enough messages after it is unloaded, restored or not. -/
theorem unloads_of_stale {after : Nat} {segment : ContentSegment} (isImage : segment.type = .imageUrl)
    (stale : ¬ (after : Int) < max 0 guardMessages) :
    unloads env restored after guardMessages segment = true := by
  rw [unloads, decide_eq_true isImage, decide_eq_false stale, Bool.and_false]
  rfl

end Steps

/-- The digests of the texts about a picture: of its unloadings at two indices, and its own. -/
def pictureDigest (text : List Char) : String :=
  match text.drop 18 with
  | '0' :: _ => "c7b84abeef3f5dd2dc8adb172ec8a3f02fb29e53ac206718a94aeb932e949042"
  | '2' :: _ => "34ce8488031bb5697c09288ef41308e53bc2fb38b7b39bc649e093af13e01a3b"
  | _ => "e1259f784678bb6ea5bef601bd00b08ae202662bad55ec49ded6011e219e72ff"

/-- The environment with digests that tell the unloadings apart. -/
def copyEnv : CompressionEnv :=
  { pictureEnv with digest := fun text => pictureDigest text.toList }

/-- The guard asks for two messages after a reloaded image. -/
def copyConfig : CompressionConfig := { reloadedImageGuardMessages := 2 }

/-- A picture, its copy after a reload, and a question. -/
def copyHistory : List ChatHistoryItem :=
  [pictureBlock, plainBlock .assistant "a cat", pictureBlock, plainBlock .user "which breed?"]

/-- The record of the first unloading, which the reload has marked as restored. -/
def restoredPicture : JsonObject := restoreRecord copyEnv pictureRecord

/-- The record after the picture is unloaded again. -/
def filedAgain : JsonObject :=
  ((restoredPicture.set "restored" (.bool false)).set "restored_at_ms" .null).set
    "last_seen_at_ms" (.int 0)

/-- The record of the copy. -/
def copyRecord : JsonObject :=
  unloadedRecord copyEnv "imgu_34ce8488031b" "user" [picture.toDict]
    (unloadPlaceholder "imgu_34ce8488031b" 1) "history_index=2"

/-- The history after the first step. -/
def withoutOriginal : List ChatHistoryItem :=
  [plainBlock .user (unloadPlaceholder "imgu_c7b84abeef3f" 1), plainBlock .assistant "a cat",
    pictureBlock, plainBlock .user "which breed?"]

/-- The history after the second step. -/
def withoutCopy : List ChatHistoryItem :=
  [plainBlock .user (unloadPlaceholder "imgu_c7b84abeef3f" 1), plainBlock .assistant "a cat",
    plainBlock .user (unloadPlaceholder "imgu_34ce8488031b" 1), plainBlock .user "which breed?"]

/-- The dictionary of the picture, sorted by its keys. -/
def sortedPicture : Json :=
  .obj [("image_url", .obj [("url", .str "https://host/cat.png")]), ("type", .str "image_url")]

/-- Two items in the wrong order are swapped. -/
theorem mergeSort_pair {α : Type} {le : α → α → Bool} {first second : α}
    (later : le first second = false) : [first, second].mergeSort le = [second, first] := by
  simp [List.mergeSort, later]

/-- The first two of three items are swapped. -/
theorem mergeSort_swap {α : Type} {le : α → α → Bool} {first second third : α}
    (later : le first second = false) (before : le second third) (ordered : le first third) :
    [first, second, third].mergeSort le = [second, first, third] := by
  simp [List.mergeSort, later, before, ordered]

/-- Sorting the keys of the picture. -/
theorem sortKeys_picture : (Json.obj picture.toDict).sortKeys = sortedPicture := by
  have dict : picture.toDict = [("type", .str "image_url"),
      ("image_url", .obj [("url", .str "https://host/cat.png")])] := rfl
  rw [dict, Json.sortKeys]
  simp only [Json.sortKeys, Json.sortFields, List.mergeSort_singleton]
  rw [mergeSort_pair (by decide)]
  rfl

/-- What the id of an unloading of the picture is made from. -/
def unloadedPicture (idx : Nat) : Json :=
  .obj [("history_index", .int idx), ("role", .str "user"), ("segments", .arr [sortedPicture])]

/-- The id of an unloading of the picture is made from its digest. -/
theorem makeUnloadId_picture {idx : Nat} {digest : String}
    (digested : pictureDigest (unloadedPicture idx).dumpsChars = digest) :
    makeUnloadId copyEnv .user idx [picture] =
      "imgu_" ++ String.ofList (digest.toList.take 12) := by
  have sorted : (Json.obj [("role", .str "user"), ("history_index", .int idx),
      ("segments", .arr [.obj picture.toDict])]).sortKeys = unloadedPicture idx := by
    have swapped (role index segments : Json) :
        [("role", role), ("history_index", index), ("segments", segments)].mergeSort
            (fun first second => !decide (second.1 < first.1)) =
          [("history_index", index), ("role", role), ("segments", segments)] :=
      mergeSort_swap
        (congrArg not (decide_eq_true (show "history_index" < "role" by decide)))
        (congrArg not (decide_eq_false (show ¬ "segments" < "history_index" by decide)))
        (congrArg not (decide_eq_false (show ¬ "segments" < "role" by decide)))
    rw [Json.sortKeys, Json.sortFields, Json.sortFields, Json.sortFields, Json.sortFields, swapped]
    simp only [Json.sortKeys, Json.sortItems]
    rw [← Json.sortKeys, sortKeys_picture]
    rfl
  have read : pictureDigest (unloadedPicture idx).dumps.toList = digest := by
    rw [Json.dumps, String.toList_ofList]
    exact digested
  rw [← read, ← sorted]
  rfl

/-- The id of the picture at the first index. -/
theorem originalId : makeUnloadId copyEnv .user 0 [picture] = "imgu_c7b84abeef3f" :=
  (makeUnloadId_picture rfl).trans (by decide)

/-- The id of the picture at the third index. -/
theorem copyId : makeUnloadId copyEnv .user 2 [picture] = "imgu_34ce8488031b" :=
  (makeUnloadId_picture rfl).trans (by decide)

/-- An unguarded picture is taken. -/
theorem filter_unloads_picture {idx : Nat} {history : List ChatHistoryItem} {restored : List String}
    (unguarded : unloads copyEnv restored (messageBlocksAfterIndex history idx) 2 picture = true) :
    [picture].filter (unloads copyEnv restored (messageBlocksAfterIndex history idx) 2) =
      [picture] := by
  rw [List.filter_cons_of_pos unguarded, List.filter_nil]

/-- The unloading of an unguarded picture. -/
theorem unloadingAt_picture {idx : Nat} {history : List ChatHistoryItem} {restored : List String}
    {rest : List Nat} (found : history[idx]? = some pictureBlock)
    (unguarded : unloads copyEnv restored (messageBlocksAfterIndex history idx) 2 picture = true) :
    unloadingAt copyEnv history restored 2 (idx :: rest) = some (unloadingOf idx) := by
  rw [unloadingAt, found]
  dsimp only [pictureBlock]
  rw [filter_unloads_picture unguarded, if_neg (List.cons_ne_nil _ _)]
  rfl

/-- The placeholder of an unguarded picture takes the place of its message. -/
theorem replaceImages_picture {idx : Nat} {history : List ChatHistoryItem} {restored : List String}
    {records stored : List JsonObject} {unloadId : String}
    (unguarded : unloads copyEnv restored (messageBlocksAfterIndex history idx) 2 picture = true)
    (named : makeUnloadId copyEnv .user idx [picture] = unloadId)
    (appended : appendUnloadedSegmentRecord copyEnv records unloadId "user" [picture.toDict]
      (unloadPlaceholder unloadId 1) ("history_index=" ++ toString idx) = .ok stored) :
    replaceImagesWithUnloadPlaceholder copyEnv pictureBlock idx history restored 2 records =
      .ok (some ({ role := .user, body := .text (unloadPlaceholder unloadId 1) }, stored)) := by
  have taken := filter_unloads_picture unguarded
  have kept : [picture].filter (fun segment => !unloads copyEnv restored
      (messageBlocksAfterIndex history idx) 2 segment) = [] := by
    rw [List.filter_cons_of_neg (by rw [unguarded]; exact Bool.false_ne_true), List.filter_nil]
  have filed : appendUnloadedSegmentRecord copyEnv records unloadId SessionMessageRole.user.value
      ([picture].map ContentSegment.toDict) (unloadPlaceholder unloadId [picture].length)
      ("history_index=" ++ toString idx) = .ok stored := appended
  unfold replaceImagesWithUnloadPlaceholder pictureBlock
  dsimp only
  rw [taken, kept, if_neg (List.cons_ne_nil _ _), named, filed]
  rfl

/-- The picture is unloaded when it has not been seen before. -/
theorem picture_unloaded :
    unloadOldestImageMessage copyEnv pictureHistory 0 2 [] =
      .ok (some (unloadedHistory, [pictureRecord])) := by
  have some_item : pictureHistory ≠ [] := List.cons_ne_nil _ _
  have indices : unprotectedIndices pictureHistory 0 = [0] := rfl
  have appended : appendUnloadedSegmentRecord copyEnv [] "imgu_c7b84abeef3f" "user"
      [picture.toDict] (unloadPlaceholder "imgu_c7b84abeef3f" 1) ("history_index=" ++ toString 0) =
      .ok [pictureRecord] := rfl
  rw [unloadOldest_of_reads rfl some_item, indices]
  exact unloadAt_here rfl (replaceImages_picture rfl originalId appended)

/-- Three messages come after the original, so it is unloaded, and its record is active again. -/
theorem original_unloaded :
    unloadOldestImageMessage copyEnv copyHistory 0 2 [restoredPicture] =
      .ok (some (withoutOriginal, [filedAgain])) := by
  have some_item : copyHistory ≠ [] := List.cons_ne_nil _ _
  have indices : unprotectedIndices copyHistory 0 = [0, 1, 2] := rfl
  have unguarded : unloads copyEnv (restoredSegmentFingerprints copyEnv [restoredPicture])
      (messageBlocksAfterIndex copyHistory 0) 2 picture = true := unloads_of_stale rfl (by decide)
  have appended : appendUnloadedSegmentRecord copyEnv [restoredPicture] "imgu_c7b84abeef3f" "user"
      [picture.toDict] (unloadPlaceholder "imgu_c7b84abeef3f" 1) ("history_index=" ++ toString 0) =
      .ok [filedAgain] := rfl
  rw [unloadOldest_of_reads rfl some_item, indices]
  exact unloadAt_here rfl (replaceImages_picture unguarded originalId appended)

/-- Then no image is restored, and the copy is unloaded too. -/
theorem copy_unloaded :
    unloadOldestImageMessage copyEnv withoutOriginal 0 2 [filedAgain] =
      .ok (some (withoutCopy, [filedAgain, copyRecord])) := by
  have some_item : withoutOriginal ≠ [] := List.cons_ne_nil _ _
  have indices : unprotectedIndices withoutOriginal 0 = [0, 1, 2] := rfl
  have none_restored : restoredSegmentFingerprints copyEnv [filedAgain] = [] := rfl
  have appended : appendUnloadedSegmentRecord copyEnv [filedAgain] "imgu_34ce8488031b" "user"
      [picture.toDict] (unloadPlaceholder "imgu_34ce8488031b" 1) ("history_index=" ++ toString 2) =
      .ok [filedAgain, copyRecord] := rfl
  rw [unloadOldest_of_reads rfl some_item, indices, none_restored, unloadAt_text rfl,
    unloadAt_text rfl]
  exact unloadAt_here rfl (replaceImages_picture rfl copyId appended)

/-- The message that the reload appends. -/
def pictureMessage : SessionMessageBlock := { role := .user, body := .segments [picture] }

/-- The reload of the only record appends the message and marks the record. -/
theorem picture_reloaded : reloadUnloadedSegments copyEnv .all [pictureRecord] =
    .ok ([pictureMessage], [restoredPicture]) := by
  have active : [pictureRecord].filter (fun record => !isRestored record) = [pictureRecord] := rfl
  have selected : selectRecords copyEnv [pictureRecord] .all = [pictureRecord] :=
    List.mergeSort_singleton _
  have reads : copyEnv.readState = none := rfl
  rw [reloadUnloadedSegments, consumeUnloadedSegmentRecords, reads]
  dsimp only
  rw [active, selected, if_neg (List.cons_ne_nil _ _)]
  rfl

/-! ## A session with a copy -/

/-- A prompt of copies comes to the loop when it is too long, and fits after it when the loop
leaves a prompt that fits. -/
theorem pictures_compressed {history unloaded : List ChatHistoryItem}
    {records stored : List JsonObject}
    (clamps : truncateLargeItems copyEnv copyConfig history 0 = history)
    (selects : recentHistory false copyConfig history = history)
    (longPrompt : ¬ countPromptTokens copyEnv (picturePayload history).turn.llmMessages
      (picturePayload history) ≤ 7)
    (long : ¬ countRebuiltPrompt copyEnv (picturePayload history) history ≤ 7)
    (looped : unloadLoop copyEnv (picturePayload history) 0 2 7 history records =
      .ok (unloaded, stored))
    (fits : countRebuiltPrompt copyEnv (picturePayload history) unloaded ≤ 7) :
    executeHook copyEnv copyConfig none (picturePayload history) records =
        .ok (buildOutput (picturePayload history) unloaded, stored) ∧
      hookUnloadings copyEnv copyConfig none (picturePayload history) records =
        loopUnloadings copyEnv (picturePayload history) 0 2 7 history records :=
  executeHook_of_loop rfl rfl clamps selects rfl (by decide) longPrompt long long looped fits

/-- The first compression unloads the picture. -/
theorem picture_compressed :
    executeHook copyEnv copyConfig none (picturePayload pictureHistory) [] =
        .ok (buildOutput (picturePayload pictureHistory) unloadedHistory, [pictureRecord]) ∧
      hookUnloadings copyEnv copyConfig none (picturePayload pictureHistory) [] =
        [unloadingOf 0] := by
  have long : ¬ countRebuiltPrompt copyEnv (picturePayload pictureHistory) pictureHistory ≤ 7 := by
    decide +kernel
  have fits : countRebuiltPrompt copyEnv (picturePayload pictureHistory) unloadedHistory ≤ 7 := by
    decide +kernel
  have looped : unloadLoop copyEnv (picturePayload pictureHistory) 0 2 7 pictureHistory [] =
      .ok (unloadedHistory, [pictureRecord]) := by
    rw [unloadLoop_of_stepped long picture_unloaded, unloadLoop, if_pos fits]
  have named : unloadingAt copyEnv pictureHistory (restoredSegmentFingerprints copyEnv []) 2
      (unprotectedIndices pictureHistory 0) = some (unloadingOf 0) := unloadingAt_picture rfl rfl
  obtain ⟨ran, made⟩ := pictures_compressed rfl rfl (by decide +kernel) long looped fits
  refine ⟨ran, ?_⟩
  rw [made, loopUnloadings_of_named long picture_unloaded named, loopUnloadings_of_fits fits]

/-- The second compression unloads the picture again, and its copy. -/
theorem copy_compressed :
    executeHook copyEnv copyConfig none (picturePayload copyHistory) [restoredPicture] =
        .ok (buildOutput (picturePayload copyHistory) withoutCopy, [filedAgain, copyRecord]) ∧
      hookUnloadings copyEnv copyConfig none (picturePayload copyHistory) [restoredPicture] =
        [unloadingOf 0, unloadingOf 2] := by
  have long : ¬ countRebuiltPrompt copyEnv (picturePayload copyHistory) copyHistory ≤ 7 := by
    decide +kernel
  have longer : ¬ countRebuiltPrompt copyEnv (picturePayload copyHistory) withoutOriginal ≤ 7 := by
    decide +kernel
  have fits : countRebuiltPrompt copyEnv (picturePayload copyHistory) withoutCopy ≤ 7 := by
    decide +kernel
  have looped : unloadLoop copyEnv (picturePayload copyHistory) 0 2 7 copyHistory
      [restoredPicture] = .ok (withoutCopy, [filedAgain, copyRecord]) := by
    rw [unloadLoop_of_stepped long original_unloaded, unloadLoop_of_stepped longer copy_unloaded,
      unloadLoop, if_pos fits]
  have first : unloadingAt copyEnv copyHistory
      (restoredSegmentFingerprints copyEnv [restoredPicture]) 2
      (unprotectedIndices copyHistory 0) = some (unloadingOf 0) :=
    unloadingAt_picture rfl (unloads_of_stale rfl (by decide))
  have second : unloadingAt copyEnv withoutOriginal
      (restoredSegmentFingerprints copyEnv [filedAgain]) 2
      (unprotectedIndices withoutOriginal 0) = some (unloadingOf 2) := by
    have indices : unprotectedIndices withoutOriginal 0 = [0, 1, 2] := rfl
    have none_restored : restoredSegmentFingerprints copyEnv [filedAgain] = [] := rfl
    rw [indices, none_restored, unloadingAt_text rfl, unloadingAt_text rfl]
    exact unloadingAt_picture rfl rfl
  obtain ⟨ran, made⟩ := pictures_compressed rfl rfl (by decide +kernel) long looped fits
  refine ⟨ran, ?_⟩
  rw [made, loopUnloadings_of_named long original_unloaded first,
    loopUnloadings_of_named longer copy_unloaded second, loopUnloadings_of_fits fits]

/-- The session after a compression, a reload and a question. -/
def copySession : ImageSession :=
  { history := copyHistory, records := [restoredPicture], made := [unloadingOf 0] }

/-- The session is reached by a compression, a reload and a question. -/
theorem copySession_reachable :
    (ImageSession.machine copyEnv).Reachable Machine.anyStep copySession := by
  let moment : StoreMoment := { nowMs := 0 }
  let start : ImageSession := { history := pictureHistory }
  let filed : ImageSession :=
    { start with records := [pictureRecord], made := [unloadingOf 0] }
  let reloaded : ImageSession :=
    { filed with
      history := pictureHistory ++ [pictureBlock]
      records := [restoredPicture] }
  have stepped (session : ImageSession) (action : ImageAction) :
      (ImageSession.machine copyEnv).step session action = session.step copyEnv action := rfl
  have compresses : (ImageSession.machine copyEnv).step start
      (.compress moment copyConfig none (picturePayload pictureHistory) 50) = some filed := by
    rw [stepped, ImageSession.step]
    split
    · next failed => cases picture_compressed.1.symm.trans failed
    · next ran =>
        cases picture_compressed.1.symm.trans ran
        exact congrArg (fun made => some { filed with made := made }) picture_compressed.2
  have reloads : (ImageSession.machine copyEnv).step filed (.reload moment .all) =
      some reloaded := by
    rw [stepped, ImageSession.step]
    split
    · next failed => cases picture_reloaded.symm.trans failed
    · next ran =>
        cases picture_reloaded.symm.trans ran
        rfl
  have asks : (ImageSession.machine copyEnv).step reloaded
      (.persist [plainBlock .user "which breed?"]) = some copySession := rfl
  have begun : (ImageSession.machine copyEnv).Reachable Machine.anyStep start :=
    ⟨start, ⟨rfl, rfl⟩, .refl _⟩
  have compressed : (ImageSession.machine copyEnv).Reachable Machine.anyStep filed :=
    begun.tail trivial compresses
  have restored : (ImageSession.machine copyEnv).Reachable Machine.anyStep reloaded :=
    compressed.tail trivial reloads
  exact restored.tail trivial asks

/-- A compression after a reload unloads a picture and its copy, and both are reloadable. -/
theorem unloaded_reloadable_copies :
    ∃ patched kept unloaded,
      (buildOutput (picturePayload copyHistory) withoutCopy).patchedPayload = some patched ∧
      Retained copyEnv copyConfig (picturePayload copyHistory).turn kept ∧
      Compressed copyEnv kept [restoredPicture] unloaded patched.turn.historyItems
        [filedAgain, copyRecord] [unloadingOf 0, unloadingOf 2] ∧
      Reloadable copyEnv [filedAgain, copyRecord] [unloadingOf 0, unloadingOf 2] := by
  have made : copySession.turnUnloadings copyEnv { nowMs := 0 } copyConfig none
      (picturePayload copyHistory) 50 = [unloadingOf 0, unloadingOf 2] := copy_compressed.2
  have ran : executeHook (copyEnv.during { nowMs := 0 }) copyConfig none
      (copySession.turnPayload (picturePayload copyHistory) 50) copySession.records =
      .ok (buildOutput (picturePayload copyHistory) withoutCopy, [filedAgain, copyRecord]) :=
    copy_compressed.1
  have distinct : DistinctIds copyEnv (copySession.made ++
      copySession.turnUnloadings copyEnv { nowMs := 0 } copyConfig none
        (picturePayload copyHistory) 50) := by
    have named (unloading : Unloading) (isMade : unloading ∈ [unloadingOf 0] ++
        [unloadingOf 0, unloadingOf 2]) :
        unloading = unloadingOf 0 ∧ unloading.unloadId copyEnv = "imgu_c7b84abeef3f" ∨
          unloading = unloadingOf 2 ∧ unloading.unloadId copyEnv = "imgu_34ce8488031b" := by
      rcases List.mem_cons.mp isMade with rfl | later
      · exact Or.inl ⟨rfl, originalId⟩
      · rcases List.mem_cons.mp later with rfl | last
        · exact Or.inl ⟨rfl, originalId⟩
        · cases List.mem_singleton.mp last
          exact Or.inr ⟨rfl, copyId⟩
    rw [made]
    intro first one second two same
    rcases named first one with ⟨rfl, here⟩ | ⟨rfl, here⟩ <;>
      rcases named second two with ⟨rfl, there⟩ | ⟨rfl, there⟩
    · rfl
    · exact absurd (here.symm.trans (same.trans there)) (by decide)
    · exact absurd (here.symm.trans (same.trans there)) (by decide)
    · rfl
  obtain ⟨patched, kept, unloaded, handed, retained, compressed, reloadable, -⟩ :=
    ImageSession.unloaded_reloadable copySession_reachable ran distinct
  rw [made] at compressed reloadable
  exact ⟨patched, kept, unloaded, handed, retained, compressed, reloadable⟩

/-! ## The recent window -/

/-- Enough messages to fill the window. -/
def laterMessages : List ChatHistoryItem := List.replicate 6 (plainBlock .user "and now?")

/-- The hook hands on the messages after the picture. -/
theorem laterMessages_compressed :
    executeHook pictureEnv {} none (picturePayload (pictureBlock :: laterMessages)) [] =
      .ok (buildOutput (picturePayload (pictureBlock :: laterMessages)) laterMessages, []) := by
  rw [executeHook]
  dsimp only
  rw [if_neg (by decide), if_neg (by decide +kernel), if_neg (by decide +kernel),
    if_pos (by decide +kernel)]
  rfl

/-- The window leaves a picture out, and no record holds it. -/
theorem window_image_not_held :
    ∃ output stored patched,
      executeHook pictureEnv {} none (picturePayload (pictureBlock :: laterMessages)) [] =
        .ok (output, stored) ∧
      output.patchedPayload = some patched ∧
      (∃ item ∈ pictureBlock :: laterMessages, picture ∈ item.imageSegments) ∧
      (∀ item ∈ patched.turn.historyItems, picture ∉ item.imageSegments) ∧
      ¬ ∃ record ∈ stored, ∃ segments, JsonObject.get record "segments" = some (.arr segments) ∧
        Json.obj picture.toDict ∈ segments := by
  refine ⟨_, _, _, laterMessages_compressed, rfl, ⟨pictureBlock, List.mem_cons_self, ?_⟩, ?_, ?_⟩
  · exact List.mem_filter.mpr ⟨List.mem_singleton_self _, rfl⟩
  · intro item member inside
    rw [List.eq_of_mem_replicate member] at inside
    exact absurd inside List.not_mem_nil
  · rintro ⟨record, member, -⟩
    exact absurd member List.not_mem_nil

end FairyClaw
