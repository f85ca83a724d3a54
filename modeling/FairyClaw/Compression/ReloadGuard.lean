import FairyClaw.Compression.DueUnloadings

/-! # The guard of reloaded images

An image is guarded while its fingerprint is that of a restored record and few messages come after
it. Unloading a message can file a restored record again, under the id that the record was made
with, and then the guard of every copy of its images is gone, in this run and in later ones. The
unloadings of a run are those that are due when the loop starts as long as each guarded image, and
each image of a copy, is held by a restored record that none of them files again, and only then is
every reloaded copy left alone (`FairyClaw.reloaded_guarded_iff`).
-/

namespace FairyClaw

open Foundation

/-! ## Copies that a reload has made -/

section Hook

variable (env : CompressionEnv) (config : CompressionConfig) (payload : BeforeLlmCallHookPayload)
  (records : List JsonObject)

/-- The clamped history. -/
def clampedItems : List ChatHistoryItem :=
  truncateLargeItems env config payload.turn.historyItems
    (subSessionPrefixEnd payload.turn.isSubSession payload.turn.historyItems)

/-- The recent part of it, which the loop starts with. -/
def recentItems : List ChatHistoryItem :=
  recentHistory payload.turn.isSubSession config (clampedItems env config payload)

/-- How many items the recent window leaves out. -/
def leftOut : Nat := payload.turn.historyItems.length - (recentItems env config payload).length

/-- The recent items between the protected ends. -/
def exposedIndices : List Nat :=
  unprotectedIndices (recentItems env config payload)
    (subSessionPrefixEnd payload.turn.isSubSession (recentItems env config payload))

/-- The unloadings that are due when the loop starts. -/
def firstDue : List Unloading :=
  dueUnloadings env (recentItems env config payload) (restoredSegmentFingerprints env records)
    config.reloadedImageGuardMessages (exposedIndices env config payload)

/-- An image after clamping. -/
def shrunkImage (image : ContentSegment) : ContentSegment :=
  (compressSegment env config image).getD image

variable (reloads : List SessionMessageBlock)

/-- A message that a reload has appended holds an image of an earlier one, and fewer messages come
after it than the guard counts. -/
structure ReloadedCopy (copy : Nat) (image : ContentSegment) : Prop where
  appended : ∃ message ∈ reloads, payload.turn.historyItems[copy]? = some (.block message) ∧
    image ∈ (ChatHistoryItem.block message).imageSegments
  original : ∃ origin < copy, ∃ item, payload.turn.historyItems[origin]? = some item ∧
    ∃ first ∈ item.imageSegments, SegmentKept first image
  fresh : messageBlocksAfterIndex payload.turn.historyItems copy < config.reloadedImageGuardMessages

/-- No unloading of the run takes an image of a reloaded copy. -/
def KeepsReloaded (contextBudget : Option Int) : Prop :=
  ∀ copy image, ReloadedCopy config payload reloads copy image →
    ∀ unloading ∈ hookUnloadings env config contextBudget payload records,
      unloading.historyIndex + leftOut env config payload = copy →
        shrunkImage env config image ∉ unloading.images

/-- The image of a recent message is that of a copy. -/
def OfCopy (idx : Nat) (image : ContentSegment) : Prop :=
  ∃ original, ReloadedCopy config payload reloads (idx + leftOut env config payload) original ∧
    shrunkImage env config original = image

/-- A restored record that no due unloading files again holds each image that is guarded, or that
is of a copy. -/
def GuardHolds : Prop :=
  ∀ idx ∈ exposedIndices env config payload, ∀ item,
    (recentItems env config payload)[idx]? = some item → ∀ image ∈ item.imageSegments,
      messageBlocksAfterIndex (recentItems env config payload) idx <
        config.reloadedImageGuardMessages →
      (fingerprint env image.toDict ∈ restoredSegmentFingerprints env records ∨
        OfCopy env config payload reloads idx image) →
      fingerprint env image.toDict ∈ restoredSegmentFingerprints env
        (recordsLeftAlone env (firstDue env config payload records) records)

variable {env config payload records reloads}

/-- Two suffixes of one length are the same. -/
theorem eq_of_suffixes {Item : Type} {first second whole : List Item} (one : first <:+ whole)
    (two : second <:+ whole) (same : first.length = second.length) : first = second :=
  (List.suffix_of_suffix_length_le one two (Nat.le_of_eq same)).eq_of_length same

/-- The recent items have the protected prefix of the history. -/
theorem recentItems_prefixEnd :
    subSessionPrefixEnd payload.turn.isSubSession (recentItems env config payload) =
      subSessionPrefixEnd payload.turn.isSubSession payload.turn.historyItems :=
  ((truncated_protects env config payload.turn.isSubSession
    payload.turn.historyItems).recent config).prefixEnd

/-- The window leaves out items between the protected ends. -/
theorem recentItems_parts (env : CompressionEnv) (config : CompressionConfig)
    (payload : BeforeLlmCallHookPayload) :
    ∃ head middle tail : List ChatHistoryItem, ∃ count,
      head.length = subSessionPrefixEnd payload.turn.isSubSession payload.turn.historyItems ∧
      clampedItems env config payload = head ++ middle ++ tail ∧
      recentItems env config payload = head ++ middle.drop count ++ tail := by
  obtain ⟨head, middle, tail, parts, pieces⟩ :=
    truncated_protects env config payload.turn.isSubSession payload.turn.historyItems
  obtain ⟨count, recent⟩ := pieces.recent config
  exact ⟨head, middle, tail, count, pieces.head_length, parts,
    (congrArg (recentHistory payload.turn.isSubSession config) parts).trans recent⟩

/-- What comes after an exposed item comes after the item of the clamped history that it is. -/
theorem drop_recentItems {idx : Nat} (exposed : idx ∈ exposedIndices env config payload) :
    (recentItems env config payload).drop (idx + 1) =
      (clampedItems env config payload).drop (idx + leftOut env config payload + 1) := by
  obtain ⟨after, before⟩ := mem_unprotectedIndices.mp exposed
  obtain ⟨head, middle, tail, count, start, parts, recent⟩ := recentItems_parts env config payload
  rw [recentItems_prefixEnd, ← start] at after
  have total : (clampedItems env config payload).length = payload.turn.historyItems.length :=
    length_truncateLargeItems env config _
  have late : (recentItems env config payload).drop (idx + 1) <:+ middle.drop count ++ tail := by
    rw [recent, List.append_assoc, List.drop_append, List.drop_eq_nil_of_le (by omega)]
    exact List.drop_suffix _ _
  have whole : middle.drop count ++ tail <:+ clampedItems env config payload := by
    refine ⟨head ++ middle.take count, ?_⟩
    rw [parts, List.append_assoc, ← List.append_assoc (middle.take count), List.take_append_drop,
      List.append_assoc]
  refine eq_of_suffixes (late.trans whole) (List.drop_suffix _ _) ?_
  have fewer : (recentItems env config payload).length ≤
      (clampedItems env config payload).length := by
    rw [recent, parts]
    simp only [List.length_append, List.length_drop]
    omega
  rw [List.length_drop, List.length_drop, leftOut]
  omega

/-- As many messages come after an exposed item as after the item of the history that it is of. -/
theorem messageBlocksAfterIndex_recent {idx : Nat}
    (exposed : idx ∈ exposedIndices env config payload) :
    messageBlocksAfterIndex (recentItems env config payload) idx =
      messageBlocksAfterIndex payload.turn.historyItems (idx + leftOut env config payload) := by
  have kinds := truncated_sameKind env config payload.turn.historyItems
    (subSessionPrefixEnd payload.turn.isSubSession payload.turn.historyItems)
  rw [messageBlocksAfterIndex_congr kinds, messageBlocksAfterIndex, drop_recentItems exposed]
  rfl

/-- While the run makes only unloadings that were due, a guard that holds is not withdrawn. -/
theorem GuardHolds.guarded (holds : GuardHolds env config payload records reloads)
    {current : List ChatHistoryItem} {stored : List JsonObject} {made : List Unloading}
    (progress : Progress env config.reloadedImageGuardMessages
      (subSessionPrefixEnd payload.turn.isSubSession (recentItems env config payload))
      (recentItems env config payload) records current stored made)
    {idx : Nat} (exposed : idx ∈ exposedIndices env config payload) {item : ChatHistoryItem}
    (found : (recentItems env config payload)[idx]? = some item) {image : ContentSegment}
    (member : image ∈ item.imageSegments)
    (fresh : messageBlocksAfterIndex (recentItems env config payload) idx <
      config.reloadedImageGuardMessages)
    (guarded : fingerprint env image.toDict ∈ restoredSegmentFingerprints env records ∨
      OfCopy env config payload reloads idx image) :
    unloads env (restoredSegmentFingerprints env stored)
      (messageBlocksAfterIndex (recentItems env config payload) idx)
      config.reloadedImageGuardMessages image = false := by
  have isImage := of_decide_eq_true (List.mem_filter.mp member).2
  exact (not_unloads_iff isImage).mpr ⟨leftAlone_subset progress.filed progress.due
    (holds idx exposed item found image member fresh guarded), fresh⟩

/-- An unloading that leaves guarded images alone takes only images that were due at the start. -/
theorem spares_of_guarded {current : List ChatHistoryItem} {stored : List JsonObject}
    {made : List Unloading} {unloading : Unloading}
    (progress : Progress env config.reloadedImageGuardMessages
      (subSessionPrefixEnd payload.turn.isSubSession (recentItems env config payload))
      (recentItems env config payload) records current stored made)
    (inside : unloading.historyIndex ∈ unprotectedIndices current
      (subSessionPrefixEnd payload.turn.isSubSession (recentItems env config payload)))
    (due : Due env current (restoredSegmentFingerprints env stored)
      config.reloadedImageGuardMessages unloading)
    (guarded : unloading.historyIndex ∈ exposedIndices env config payload → ∀ item,
      (recentItems env config payload)[unloading.historyIndex]? = some item →
      ∀ image ∈ item.imageSegments,
        messageBlocksAfterIndex (recentItems env config payload) unloading.historyIndex <
          config.reloadedImageGuardMessages →
        fingerprint env image.toDict ∈ restoredSegmentFingerprints env records →
          unloads env (restoredSegmentFingerprints env stored)
            (messageBlocksAfterIndex (recentItems env config payload) unloading.historyIndex)
            config.reloadedImageGuardMessages image = true → image ∉ unloading.images) :
    Spares env config.reloadedImageGuardMessages (recentItems env config payload) records
      unloading := by
  intro image held
  obtain ⟨segments, present, -⟩ := due.taken
  obtain ⟨member, unloaded⟩ := (due.mem_iff present).mp held
  obtain ⟨before, found, shown⟩ := progress.images present member
  rw [unprotectedIndices_congr _ progress.kinds] at inside
  rw [messageBlocksAfterIndex_congr progress.kinds] at unloaded
  by_contra spared
  obtain ⟨restored, fresh⟩ :=
    (not_unloads_iff (unloads_isImage unloaded)).mp (Bool.eq_false_iff.mpr spared)
  exact guarded inside before found image shown fresh restored unloaded held

/-- A guard that holds keeps every reloaded copy. -/
theorem GuardHolds.keeps (holds : GuardHolds env config payload records reloads)
    (contextBudget : Option Int) : KeepsReloaded env config payload records reloads contextBudget := by
  intro copy image reloaded unloading isMade place held
  unfold hookUnloadings at isMade
  dsimp only at isMade
  split at isMade
  · cases isMade
  · have start := progress_refl env config.reloadedImageGuardMessages
      (subSessionPrefixEnd payload.turn.isSubSession (recentItems env config payload))
      (recentItems env config payload) records
    have among := (start.run fun _ _ _ _ _ progress inside due =>
      spares_of_guarded progress inside due fun exposed item found image member fresh restored
        unloaded => by
          rw [holds.guarded progress exposed found member fresh (Or.inl restored)] at unloaded
          cases unloaded).1 isMade
    obtain ⟨exposed, due⟩ := mem_dueUnloadings.mp among
    obtain ⟨segments, present, -⟩ := due.taken
    obtain ⟨member, unloaded⟩ := (due.mem_iff present).mp held
    have fresh := reloaded.fresh
    rw [← place, ← messageBlocksAfterIndex_recent exposed] at fresh
    rw [← place] at reloaded
    have guarded := holds.guarded start exposed present member fresh
      (Or.inr ⟨image, reloaded, rfl⟩)
    cases guarded.symm.trans unloaded

end Hook

section Exhausted

variable {env : CompressionEnv} {config : CompressionConfig} {payload : BeforeLlmCallHookPayload}
  {records : List JsonObject} {reloads : List SessionMessageBlock}

/-- Every image that the guard takes for a reloaded one is that of a copy. -/
def OnlyCopies (env : CompressionEnv) (config : CompressionConfig)
    (payload : BeforeLlmCallHookPayload) (records : List JsonObject)
    (reloads : List SessionMessageBlock) : Prop :=
  ∀ idx ∈ exposedIndices env config payload, ∀ item,
    (recentItems env config payload)[idx]? = some item → ∀ image ∈ item.imageSegments,
      messageBlocksAfterIndex (recentItems env config payload) idx <
        config.reloadedImageGuardMessages →
      fingerprint env image.toDict ∈ restoredSegmentFingerprints env records →
        OfCopy env config payload reloads idx image

/-- A run whose prompts never fit takes every image that is not guarded at its end, so it keeps the
copies only if the guard holds. -/
theorem guardHolds_of_keeps {contextBudget : Option Int} (reads : env.readState = none)
    (writes : env.writeState = none) (distinct : Archive.Distinct (archiveOf env records))
    (only : OnlyCopies env config payload records reloads)
    (positive : 0 < tokenBudgetOf payload.tokenBudget contextBudget)
    (long : ∀ messages, ¬ countPromptTokens env messages payload ≤
      tokenBudgetOf payload.tokenBudget contextBudget)
    (keeps : KeepsReloaded env config payload records reloads contextBudget) :
    GuardHolds env config payload records reloads := by
  let tokenBudget := tokenBudgetOf payload.tokenBudget contextBudget
  let start := subSessionPrefixEnd payload.turn.isSubSession (recentItems env config payload)
  have loop : hookUnloadings env config contextBudget payload records =
      loopUnloadings env payload start config.reloadedImageGuardMessages tokenBudget
        (recentItems env config payload) records := by
    unfold hookUnloadings
    dsimp only
    exact if_neg (not_or_intro (Int.not_le.mpr positive) (not_or_intro (long _) (long _)))
  rw [KeepsReloaded, loop] at keeps
  have taken (unloading : Unloading) (isMade : unloading ∈ loopUnloadings env payload start
        config.reloadedImageGuardMessages tokenBudget (recentItems env config payload) records)
      {image : ContentSegment}
      (ofCopy : OfCopy env config payload reloads unloading.historyIndex image) :
      image ∉ unloading.images := by
    obtain ⟨original, reloaded, rfl⟩ := ofCopy
    exact keeps _ original reloaded unloading isMade rfl
  obtain ⟨unloaded, final, ran⟩ := @unloadLoop_ok env payload (recentItems env config payload)
    records reads writes start config.reloadedImageGuardMessages tokenBudget
  obtain ⟨-, ends⟩ := (progress_refl env config.reloadedImageGuardMessages start
    (recentItems env config payload) records).run fun unloading isMade _ _ _ progress inside due =>
      spares_of_guarded progress inside due fun exposed item found image member fresh restored _ =>
        taken unloading isMade (only _ exposed item found image member fresh restored)
  have progress := ends unloaded final ran
  rw [List.nil_append] at progress
  have ended := (unloadLoop_rule (motive := fun _ _ => True) (fun _ _ _ _ _ _ => trivial) trivial
    ran).2.resolve_left (long _)
  intro idx exposed item found image member fresh guarded
  have ofCopy : OfCopy env config payload reloads idx image :=
    guarded.elim (only idx exposed item found image member fresh) id
  refine restored_subset_leftAlone distinct progress.filed (progress.all_due ended) ?_
  rcases progress.left_or_taken found member with
    ⟨last, now, shown⟩ | ⟨unloading, isMade, rfl, held⟩
  · have isImage := of_decide_eq_true (List.mem_filter.mp member).2
    exact ((not_unloads_iff isImage).mp (progress.left_guarded ended exposed now shown)).1
  · exact absurd held (taken unloading isMade ofCopy)

end Exhausted

/-! ## When copies are kept -/

/-- The environment with another token counter. -/
def CompressionEnv.counting (env : CompressionEnv) (count : List LlmChatMessage → Int) :
    CompressionEnv :=
  { env with countMessages := count }

/-- The payload with another budget. -/
def BeforeLlmCallHookPayload.within (payload : BeforeLlmCallHookPayload)
    (tokenBudget : Option Int) : BeforeLlmCallHookPayload :=
  { payload with tokenBudget := tokenBudget }

section Counting

variable {env : CompressionEnv} {config : CompressionConfig} {payload : BeforeLlmCallHookPayload}
  {records : List JsonObject} {reloads : List SessionMessageBlock}
  (count : List LlmChatMessage → Int) (tokenBudget : Option Int)

/-- What is a copy does not depend on the tokens. -/
theorem ofCopy_counting {idx : Nat} {image : ContentSegment} :
    OfCopy (env.counting count) config (payload.within tokenBudget) reloads idx image ↔
      OfCopy env config payload reloads idx image :=
  exists_congr fun _ => and_congr_left fun _ =>
    ⟨fun copy => ⟨copy.appended, copy.original, copy.fresh⟩,
      fun copy => ⟨copy.appended, copy.original, copy.fresh⟩⟩

/-- Whether the guard holds does not depend on the tokens. -/
theorem guardHolds_counting :
    GuardHolds (env.counting count) config (payload.within tokenBudget) records reloads ↔
      GuardHolds env config payload records reloads :=
  ⟨fun holds idx exposed item found image member fresh guarded =>
      holds idx exposed item found image member fresh
        (guarded.imp_right (ofCopy_counting count tokenBudget).mpr),
    fun holds idx exposed item found image member fresh guarded =>
      holds idx exposed item found image member fresh
        (guarded.imp_right (ofCopy_counting count tokenBudget).mp)⟩

/-- Nor does it depend on them whether only copies are guarded. -/
theorem onlyCopies_counting (only : OnlyCopies env config payload records reloads) :
    OnlyCopies (env.counting count) config (payload.within tokenBudget) records reloads :=
  fun idx exposed item found image member fresh restored =>
    (ofCopy_counting count tokenBudget).mpr
      (only idx exposed item found image member fresh restored)

end Counting

/-- **Reloaded images are guarded exactly as long as the guard holds.** Whatever messages reloads
have appended, however the tokens are counted and whatever the budget is, a run keeps the reloaded
copies if each guarded image, and each image of a copy, is held by a restored record that no
unloading which is due files again. With a store that works and keeps its records under distinct
ids, and when only copies have restored images, it keeps them only then. -/
theorem reloaded_guarded_iff (env : CompressionEnv) (config : CompressionConfig)
    (payload : BeforeLlmCallHookPayload) (records : List JsonObject)
    (reloads : List SessionMessageBlock) :
    (GuardHolds env config payload records reloads → ∀ count tokenBudget contextBudget,
      KeepsReloaded (env.counting count) config (payload.within tokenBudget) records
        reloads contextBudget) ∧
    (env.readState = none → env.writeState = none → Archive.Distinct (archiveOf env records) →
      OnlyCopies env config payload records reloads →
      (∀ count tokenBudget contextBudget, KeepsReloaded (env.counting count) config
        (payload.within tokenBudget) records reloads contextBudget) →
        GuardHolds env config payload records reloads) := by
  constructor
  · intro holds count tokenBudget contextBudget
    exact ((guardHolds_counting count tokenBudget).mpr holds).keeps contextBudget
  · intro reads writes distinct only keeps
    -- every prompt counts two tokens, and the budget is one
    let count : List LlmChatMessage → Int := fun _ => 2 - env.countTools payload.tools
    have long (messages : List LlmChatMessage) :
        ¬ countPromptTokens (env.counting count) messages (payload.within (some 1)) ≤ 1 := by
      have two : countPromptTokens (env.counting count) messages (payload.within (some 1)) =
          2 - env.countTools payload.tools + env.countTools payload.tools := rfl
      omega
    exact (guardHolds_counting count (some 1)).mp (guardHolds_of_keeps reads writes distinct
      (onlyCopies_counting count (some 1) only) Int.one_pos long (keeps count (some 1) none))

/-! ## What a reload restores -/

/-- A message that is built has no other images than its segments. -/
theorem imageSegments_fromSegments {role : SessionMessageRole} {segments : List ContentSegment}
    {block : SessionMessageBlock}
    (built : SessionMessageBlock.fromSegments role segments = some block) :
    (ChatHistoryItem.block block).imageSegments ⊆ segments := by
  intro image member
  obtain ⟨inside, isImage⟩ := List.mem_filter.mp member
  unfold SessionMessageBlock.fromSegments at built
  split at built
  · cases built
  · next segment =>
      split at built
      · cases built
        rw [List.mem_singleton.mp inside] at isImage
        cases isImage
      · cases built
        exact inside
  · cases built
    exact inside

/-- An unloading holds the fingerprint of each image it takes. -/
theorem held_of_image (env : CompressionEnv) {unloading : Unloading} {image : ContentSegment}
    (member : image ∈ unloading.images) :
    fingerprint env image.toDict ∈ heldFingerprints env unloading.value :=
  List.mem_filterMap.mpr ⟨.obj image.toDict,
    List.mem_map.mpr ⟨_, List.mem_map.mpr ⟨image, member, rfl⟩, rfl⟩, rfl⟩

/-- A restored message has no other images than the unloading took. -/
theorem images_restoredMessage {env : CompressionEnv} {unloading : Unloading}
    {message : SessionMessageBlock}
    (restored : restoredMessage env unloading.value = some message) :
    (ChatHistoryItem.block message).imageSegments ⊆ unloading.images := by
  rw [restoredMessage_unloading] at restored
  exact imageSegments_fromSegments restored

/-- Only active records are selected. -/
theorem selectRecords_subset (env : CompressionEnv) (active : List JsonObject) (mode : ReloadMode) :
    selectRecords env active mode ⊆ active := by
  intro record selected
  cases mode with
  | latest limit => exact (List.mergeSort_perm _ _).mem_iff.mp (List.mem_of_mem_take selected)
  | all => exact (List.mergeSort_perm _ _).mem_iff.mp selected
  | ids unloadIds => exact (List.mem_filter.mp selected).1

namespace ImageSession

/-- In every run of a session, the images of the messages that a reload appends are restored. -/
theorem reload_restores {env : CompressionEnv} {session : ImageSession} {moment : StoreMoment}
    {mode : ReloadMode} {messages : List SessionMessageBlock} {stored : List JsonObject}
    (reached : (machine env).Reachable Machine.anyStep session)
    (reloaded : reloadUnloadedSegments (env.during moment) mode session.records =
      .ok (messages, stored)) :
    ∀ message ∈ messages, ∀ image ∈ (ChatHistoryItem.block message).imageSegments,
      fingerprint env image.toDict ∈ restoredSegmentFingerprints env stored := by
  intro message member image shown
  obtain ⟨selected, consumed, rfl⟩ := reloadUnloadedSegments_ok reloaded
  obtain ⟨isSelected, retired⟩ := archiveOf_consume consumed
  obtain ⟨record, chosen, restored⟩ := List.mem_filterMap.mp member
  have present : record ∈ session.records := by
    rw [isSelected] at chosen
    exact (List.mem_filter.mp (selectRecords_subset _ _ _ chosen)).1
  obtain ⟨unloading, -, -, value⟩ := (reachable_recorded reached).made (filedRecord env record)
    (List.mem_map.mpr ⟨record, present, rfl⟩)
  change restoredMessage (env.during moment) (filedRecord env record).value = _ at restored
  rw [value] at restored
  refine mem_restored_iff.mpr ⟨{ filedRecord env record with active := false }, ?_, rfl, ?_⟩
  · change _ ∈ archiveOf (env.during moment) stored
    rw [retired]
    refine List.mem_map.mpr ⟨filedRecord env record, List.mem_map.mpr ⟨record, present, rfl⟩, ?_⟩
    exact if_pos (decide_eq_true (List.mem_map.mpr ⟨record, chosen, rfl⟩))
  · change _ ∈ heldFingerprints env (filedRecord env record).value
    rw [value]
    exact held_of_image env (images_restoredMessage restored shown)

end ImageSession

/-! ## A copy without its guard -/

/-- The third message is the copy that the reload appended. -/
theorem copy_reloaded :
    ReloadedCopy copyConfig (picturePayload copyHistory) [pictureMessage] 2 picture where
  appended := ⟨pictureMessage, List.mem_singleton_self _, rfl,
    List.mem_filter.mpr ⟨List.mem_singleton_self _, rfl⟩⟩
  original := ⟨0, by decide, pictureBlock, rfl, picture,
    List.mem_filter.mpr ⟨List.mem_singleton_self _, rfl⟩, .same picture⟩
  fresh := by decide

/-- The copy has one message after it, of two that the guard asks for, and is unloaded. -/
theorem copy_not_kept :
    reloadUnloadedSegments copyEnv .all [pictureRecord] =
        .ok ([pictureMessage], [restoredPicture]) ∧
      ¬ KeepsReloaded copyEnv copyConfig (picturePayload copyHistory) [restoredPicture]
        [pictureMessage] none := by
  refine ⟨picture_reloaded, ?_⟩
  have long : ¬ countRebuiltPrompt copyEnv (picturePayload copyHistory) copyHistory ≤ 7 := by
    decide +kernel
  have longer : ¬ countRebuiltPrompt copyEnv (picturePayload copyHistory) withoutOriginal ≤ 7 := by
    decide +kernel
  obtain ⟨original, -, -, -, first⟩ := loopUnloadings_of_stepped long original_unloaded
  obtain ⟨unloading, inside, due, -, second⟩ := loopUnloadings_of_stepped longer copy_unloaded
  rw [second] at first
  have isMade : unloading ∈ hookUnloadings copyEnv copyConfig none (picturePayload copyHistory)
      [restoredPicture] := by
    have loop : hookUnloadings copyEnv copyConfig none (picturePayload copyHistory)
        [restoredPicture] = loopUnloadings copyEnv (picturePayload copyHistory) 0 2 7 copyHistory
          [restoredPicture] := by
      rw [hookUnloadings, if_neg (by decide +kernel)]
      rfl
    rw [loop, first]
    exact List.mem_cons_of_mem _ List.mem_cons_self
  have not_text (role : SessionMessageRole) (text : String) :
      withoutOriginal[unloading.historyIndex]? ≠ some (plainBlock role text) := by
    intro found
    obtain ⟨image, held⟩ := List.exists_mem_of_ne_nil _ due.some_image
    exact absurd ((due.mem_iff found).mp held).1 List.not_mem_nil
  have indices : unprotectedIndices withoutOriginal 0 = [0, 1, 2] := rfl
  rw [indices, List.mem_cons, List.mem_cons, List.mem_singleton] at inside
  have here : unloading.historyIndex = 2 := by
    rcases inside with first | second | third
    · exact absurd (by rw [first]; rfl) (not_text _ _)
    · exact absurd (by rw [second]; rfl) (not_text _ _)
    · exact third
  have found : withoutOriginal[unloading.historyIndex]? = some pictureBlock := by
    rw [here]
    rfl
  intro keeps
  refine keeps 2 picture copy_reloaded unloading isMade here ((due.mem_iff found).mpr ⟨?_, rfl⟩)
  exact List.mem_filter.mpr ⟨List.mem_singleton_self _, rfl⟩

end FairyClaw
