import FairyClaw.Compression.UnloadedSegments

/-! # What a run of the hook unloads

Each step of the unloading loop takes the images of one message out of the history, leaves a
placeholder there, and files them (`FairyClaw.Unloading`). So after the loop every image of a
message is still there, or filed by exactly one of the unloadings, whose placeholder the message
carries (`FairyClaw.ImagesAccounted`). The drop loop leaves the placeholders alone.
-/

namespace FairyClaw

open Foundation

/-- The images that a step unloads, and the message they are from. -/
structure Unloading where
  role : SessionMessageRole
  historyIndex : Nat
  images : List ContentSegment

namespace Unloading

variable (env : CompressionEnv) (unloading : Unloading)

/-- The id under which the images are filed. -/
def unloadId : String := makeUnloadId env unloading.role unloading.historyIndex unloading.images

/-- The text that takes the place of the images. -/
def placeholder : String := unloadPlaceholder (unloading.unloadId env) unloading.images.length

/-- What is filed under the id. -/
def value : Option Json × Option Json :=
  (some (.str unloading.role.value),
    some (.arr ((unloading.images.map ContentSegment.toDict).map Json.obj)))

end Unloading

/-- The unloading of the first message at one of the indices that has images to unload. -/
def unloadingAt (env : CompressionEnv) (historyItems : List ChatHistoryItem)
    (restored : List String) (reloadedGuardMessages : Int) : List Nat → Option Unloading
  | [] => none
  | idx :: rest =>
      match historyItems[idx]? with
      | some (.block { role := role, body := .segments segments }) =>
          let images := segments.filter (unloads env restored
            (messageBlocksAfterIndex historyItems idx) reloadedGuardMessages)
          if images = [] then unloadingAt env historyItems restored reloadedGuardMessages rest
          else some { role := role, historyIndex := idx, images := images }
      | _ => unloadingAt env historyItems restored reloadedGuardMessages rest

/-- The unloadings of the loop, in order. -/
def loopUnloadings (env : CompressionEnv) (payload : BeforeLlmCallHookPayload)
    (protectedPrefix : Nat) (guardMessages tokenBudget : Int)
    (historyItems : List ChatHistoryItem) (records : List JsonObject) : List Unloading :=
  if countRebuiltPrompt env payload historyItems ≤ tokenBudget then []
  else
    match _ : unloadOldestImageMessage env historyItems protectedPrefix guardMessages records with
    | .ok (some (next, stored)) =>
        (unloadingAt env historyItems (restoredSegmentFingerprints env records) guardMessages
          (unprotectedIndices historyItems protectedPrefix)).toList ++
        loopUnloadings env payload protectedPrefix guardMessages tokenBudget next stored
    | _ => []
termination_by imageCount historyItems
decreasing_by exact imageCount_unloadOldest ‹_›

/-- The unloadings of the hook. -/
def hookUnloadings (env : CompressionEnv) (config : CompressionConfig)
    (contextBudget : Option Int) (payload : BeforeLlmCallHookPayload)
    (records : List JsonObject) : List Unloading :=
  let tokenBudget := tokenBudgetOf payload.tokenBudget contextBudget
  let isSubSession := payload.turn.isSubSession
  let truncated := truncateLargeItems env config payload.turn.historyItems
    (subSessionPrefixEnd isSubSession payload.turn.historyItems)
  let recent := recentHistory isSubSession config truncated
  if tokenBudget ≤ 0 ∨ countPromptTokens env payload.turn.llmMessages payload ≤ tokenBudget ∨
      countRebuiltPrompt env payload truncated ≤ tokenBudget then []
  else
    loopUnloadings env payload (subSessionPrefixEnd isSubSession recent)
      config.reloadedImageGuardMessages tokenBudget recent records

/-! ## A step of the loop -/

/-- The images of an item, and the texts beside them. -/
def ChatHistoryItem.segments : ChatHistoryItem → List ContentSegment
  | .block { role := _, body := .text text } => [ContentSegment.textSegment text]
  | .block { role := _, body := .segments segments } => segments
  | .round _ => []

/-- The images of an item. -/
def ChatHistoryItem.imageSegments (item : ChatHistoryItem) : List ContentSegment :=
  item.segments.filter fun segment => segment.type = .imageUrl

section Step

variable {env : CompressionEnv} {historyItems next : List ChatHistoryItem}
  {protectedPrefix : Nat} {guardMessages : Int} {records stored : List JsonObject}

/-- A step takes images out of one message, leaves a placeholder there, and files them. -/
structure Unloads (env : CompressionEnv) (unloading : Unloading)
    (history : List ChatHistoryItem) (records : List JsonObject) (next : List ChatHistoryItem)
    (stored : List JsonObject) : Prop where
  some_image : unloading.images ≠ []
  filed : archiveOf env stored =
    Archive.file (unloading.unloadId env) unloading.value (archiveOf env records)
  message : ∃ segments block, ∃ taken : ContentSegment → Bool,
    history[unloading.historyIndex]? =
      some (.block { role := unloading.role, body := .segments segments }) ∧
    unloading.images = segments.filter taken ∧
    (∀ segment, taken segment = true → segment.type = .imageUrl) ∧
    SessionMessageBlock.fromSegments unloading.role
      ((segments.filter fun segment => !taken segment) ++
        [ContentSegment.textSegment (unloading.placeholder env)]) = some block ∧
    next = history.set unloading.historyIndex (.block block)

/-- No unloading has the empty id. -/
theorem unloadId_ne_empty (unloading : Unloading) : unloading.unloadId env ≠ "" := by
  unfold Unloading.unloadId makeUnloadId
  intro empty
  have letters := congrArg String.toList empty
  simp at letters

/-- A role has a text of its own. -/
theorem orElse_value (role : SessionMessageRole) : orElse role.value "user" = role.value := by
  cases role <;> rfl

/-- The step at one message that has images to unload. -/
theorem unloads_of_replaced {role : SessionMessageRole} {segments : List ContentSegment}
    {idx : Nat} {restored : List String} {block : SessionMessageBlock}
    (found : historyItems[idx]? = some (.block { role := role, body := .segments segments }))
    (some_unloaded : segments.filter (unloads env restored
      (messageBlocksAfterIndex historyItems idx) guardMessages) ≠ [])
    (replaced : replaceImagesWithUnloadPlaceholder env
      (.block { role := role, body := .segments segments }) idx historyItems restored guardMessages
      records = .ok (some (block, stored))) :
    Unloads env
      { role := role
        historyIndex := idx
        images := segments.filter (unloads env restored
          (messageBlocksAfterIndex historyItems idx) guardMessages) }
      historyItems records (historyItems.set idx (.block block)) stored := by
  unfold replaceImagesWithUnloadPlaceholder at replaced
  dsimp only at replaced
  rw [if_neg some_unloaded] at replaced
  split at replaced
  · cases replaced
  · next appended =>
      obtain ⟨rebuilt, built, pair⟩ := Option.map_eq_some_iff.mp (Except.ok.inj replaced)
      cases pair
      refine ⟨some_unloaded, ?_, segments, _, _, found, rfl, ?_, built, rfl⟩
      · have filed := archiveOf_append (unloadId_ne_empty { role, historyIndex := idx, images := _ })
          (List.map_eq_nil_iff.not.mpr some_unloaded) appended
        rw [filed, orElse_value]
        rfl
      · intro segment unloaded
        simp only [unloads, Bool.and_eq_true, decide_eq_true_eq] at unloaded
        exact unloaded.1

/-- A step over the indices is the unloading at one of them. -/
theorem unloads_of_unloadAt {restored : List String} {indices : List Nat}
    (stepped : unloadAt env historyItems restored guardMessages records indices =
      .ok (some (next, stored))) :
    ∃ unloading, unloadingAt env historyItems restored guardMessages indices = some unloading ∧
      Unloads env unloading historyItems records next stored := by
  induction indices with
  | nil => cases stepped
  | cons idx rest ih =>
      rw [unloadAt] at stepped
      rw [unloadingAt]
      cases found : historyItems[idx]? with
      | none =>
          rw [found] at stepped
          exact ih stepped
      | some item =>
          rw [found] at stepped
          cases item with
          | round _ => exact ih stepped
          | block message =>
              obtain ⟨role, _ | segments⟩ := message
              · exact ih stepped
              by_cases none_unloaded : segments.filter (unloads env restored
                  (messageBlocksAfterIndex historyItems idx) guardMessages) = []
              · have left : replaceImagesWithUnloadPlaceholder env
                    (.block { role := role, body := .segments segments }) idx historyItems restored
                    guardMessages records = .ok none := by
                  unfold replaceImagesWithUnloadPlaceholder
                  simp only [none_unloaded, ↓reduceIte]
                simp only [left] at stepped
                simp only [none_unloaded, ↓reduceIte]
                exact ih stepped
              · simp only [none_unloaded, ↓reduceIte]
                refine ⟨_, rfl, ?_⟩
                dsimp only at stepped
                split at stepped
                · cases stepped
                · next left =>
                    refine absurd (List.filter_eq_nil_iff.mpr fun segment member => ?_) none_unloaded
                    exact Bool.eq_false_iff.mp (replaceImages_none left segment member)
                · next replaced =>
                    cases stepped
                    exact unloads_of_replaced found none_unloaded replaced

/-- A step of the loop is the unloading at one of the unprotected indices. -/
theorem unloads_of_stepped
    (stepped : unloadOldestImageMessage env historyItems protectedPrefix guardMessages records =
      .ok (some (next, stored))) :
    ∃ unloading,
      unloadingAt env historyItems (restoredSegmentFingerprints env records) guardMessages
        (unprotectedIndices historyItems protectedPrefix) = some unloading ∧
      Unloads env unloading historyItems records next stored := by
  unfold unloadOldestImageMessage at stepped
  split at stepped
  · cases stepped
  · split at stepped
    · cases stepped
    · exact unloads_of_unloadAt stepped

end Step

/-! ## The loop -/

section Loop

variable {env : CompressionEnv} {payload : BeforeLlmCallHookPayload}
  {historyItems unloaded : List ChatHistoryItem} {protectedPrefix : Nat}
  {guardMessages tokenBudget : Int} {records stored : List JsonObject}

/-- After a step the loop goes on with what the step leaves. -/
theorem unloadLoop_of_stepped {next : List ChatHistoryItem} {updated : List JsonObject}
    (long : ¬ countRebuiltPrompt env payload historyItems ≤ tokenBudget)
    (stepped : unloadOldestImageMessage env historyItems protectedPrefix guardMessages records =
      .ok (some (next, updated))) :
    unloadLoop env payload protectedPrefix guardMessages tokenBudget historyItems records =
      unloadLoop env payload protectedPrefix guardMessages tokenBudget next updated := by
  conv_lhs => rw [unloadLoop, if_neg long]
  split
  · next failed => cases stepped.symm.trans failed
  · next ended => cases stepped.symm.trans ended
  · next once =>
      cases stepped.symm.trans once
      rfl

/-- The unloading of a step comes before those of the rest of the loop. -/
theorem loopUnloadings_of_named {next : List ChatHistoryItem} {updated : List JsonObject}
    {unloading : Unloading} (long : ¬ countRebuiltPrompt env payload historyItems ≤ tokenBudget)
    (stepped : unloadOldestImageMessage env historyItems protectedPrefix guardMessages records =
      .ok (some (next, updated)))
    (named : unloadingAt env historyItems (restoredSegmentFingerprints env records) guardMessages
      (unprotectedIndices historyItems protectedPrefix) = some unloading) :
    loopUnloadings env payload protectedPrefix guardMessages tokenBudget historyItems records =
      unloading :: loopUnloadings env payload protectedPrefix guardMessages tokenBudget next
        updated := by
  conv_lhs => rw [loopUnloadings, if_neg long]
  split
  · next once =>
      cases stepped.symm.trans once
      rw [named]
      rfl
  · next missing => exact absurd stepped (missing _ _)

/-- What the unloadings preserve, together with their list, holds after the loop. -/
theorem unloadLoop_unloadings
    {motive : List ChatHistoryItem → List JsonObject → List Unloading → Prop}
    (preserved : ∀ history records made unloading next stored, motive history records made →
      Unloads env unloading history records next stored → motive next stored (made ++ [unloading]))
    (ran : unloadLoop env payload protectedPrefix guardMessages tokenBudget historyItems records =
      .ok (unloaded, stored)) :
    ∀ made, motive historyItems records made →
      motive unloaded stored (made ++
        loopUnloadings env payload protectedPrefix guardMessages tokenBudget historyItems
          records) := by
  induction historyItems, records using unloadLoop.induct env payload protectedPrefix guardMessages
      tokenBudget with
  | case1 history records fits =>
      rw [unloadLoop, if_pos fits] at ran
      rw [loopUnloadings, if_pos fits]
      cases ran
      intro made initial
      rw [List.append_nil]
      exact initial
  | case2 history records long error failed =>
      rw [unloadLoop, if_neg long] at ran
      split at ran
      · cases ran
      · next ended => cases failed.symm.trans ended
      · next stepped => cases failed.symm.trans stepped
  | case3 history records long ended =>
      rw [unloadLoop, if_neg long] at ran
      rw [loopUnloadings, if_neg long]
      split at ran
      · cases ran
      · cases ran
        intro made initial
        split
        · next stepped => cases ended.symm.trans stepped
        · rw [List.append_nil]
          exact initial
      · next stepped => cases ended.symm.trans stepped
  | case4 history records long next updated stepped ih =>
      obtain ⟨unloading, named, unloads⟩ := unloads_of_stepped stepped
      rw [unloadLoop_of_stepped long stepped] at ran
      rw [loopUnloadings_of_named long stepped named]
      intro made initial
      rw [List.append_cons]
      exact ih ran _ (preserved _ _ _ _ _ _ initial unloads)

end Loop

/-! ## Accounts of the images -/

/-- A message that is built of segments with a placeholder has these segments. -/
theorem segments_fromSegments {role : SessionMessageRole} {kept : List ContentSegment}
    {text : String} {block : SessionMessageBlock}
    (built : SessionMessageBlock.fromSegments role (kept ++ [ContentSegment.textSegment text]) =
      some block) :
    (ChatHistoryItem.block block).segments = kept ++ [ContentSegment.textSegment text] := by
  unfold SessionMessageBlock.fromSegments at built
  split at built
  · next empty => simp at empty
  · next segment single =>
      have alone : kept = [] := by
        cases kept with
        | nil => rfl
        | cons first rest => simp at single
      subst alone
      cases single
      cases built
      rfl
  · cases built
    rfl

/-- The images of the kept history are in the history that the unloadings leave, or filed. -/
structure ImagesAccounted (env : CompressionEnv) (kept : List ChatHistoryItem)
    (archive : List (Filed String (Option Json × Option Json))) (history : List ChatHistoryItem)
    (records : List JsonObject) (made : List Unloading) : Prop where
  length : history.length = kept.length
  images : ∀ idx (before : ChatHistoryItem), kept[idx]? = some before →
    ∃ after : ChatHistoryItem, history[idx]? = some after ∧
      before.imageSegments.Perm (after.imageSegments ++
        (made.filter fun unloading => unloading.historyIndex = idx).flatMap Unloading.images)
  marked : ∀ unloading ∈ made, ∃ after : ChatHistoryItem, history[unloading.historyIndex]? = some after ∧
    ContentSegment.textSegment (unloading.placeholder env) ∈ after.segments
  gone : ∀ unloading ∈ made, unloading.images ≠ [] ∧ ∀ segment ∈ unloading.images,
    ∀ after : ChatHistoryItem, history[unloading.historyIndex]? = some after →
      segment ∉ after.imageSegments
  areImages : ∀ unloading ∈ made, ∀ segment ∈ unloading.images, segment.type = .imageUrl
  nodup : made.Nodup
  filed : archiveOf env records =
    Archive.fileAll archive (made.map fun unloading => (unloading.unloadId env, unloading.value))

section Account

variable {env : CompressionEnv} {kept history next : List ChatHistoryItem}
  {archive : List (Filed String (Option Json × Option Json))} {records stored : List JsonObject}
  {made : List Unloading} {unloading : Unloading}

/-- At the start every image is still there. -/
theorem imagesAccounted_refl (env : CompressionEnv) (kept : List ChatHistoryItem)
    (records : List JsonObject) : ImagesAccounted env kept (archiveOf env records) kept records [] where
  length := rfl
  images := fun idx before found => ⟨before, found, by simp⟩
  marked := fun _ member => absurd member List.not_mem_nil
  gone := fun _ member => absurd member List.not_mem_nil
  areImages := fun _ member => absurd member List.not_mem_nil
  nodup := List.nodup_nil
  filed := rfl

/-- The images of a message are those that are taken out and those that stay. -/
theorem images_split (segments : List ContentSegment) (text : String)
    {taken : ContentSegment → Bool}
    (images : ∀ segment, taken segment = true → segment.type = .imageUrl) :
    (segments.filter fun segment => segment.type = .imageUrl).Perm
      (((segments.filter fun segment => !taken segment) ++ [ContentSegment.textSegment text]).filter
        (fun segment => segment.type = .imageUrl) ++ segments.filter taken) := by
  have parts := List.filter_append_perm taken
    (segments.filter fun segment => segment.type = .imageUrl)
  have same : (segments.filter fun segment => segment.type = .imageUrl).filter taken =
      segments.filter taken := by
    rw [List.filter_filter]
    refine List.filter_congr fun segment _ => ?_
    cases isTaken : taken segment with
    | false => rfl
    | true => simp [images segment isTaken]
  have stay : (segments.filter fun segment => segment.type = .imageUrl).filter
        (fun segment => !taken segment) =
      ((segments.filter fun segment => !taken segment) ++ [ContentSegment.textSegment text]).filter
        fun segment => segment.type = .imageUrl := by
    rw [List.filter_append, List.filter_filter, List.filter_filter]
    have blank : [ContentSegment.textSegment text].filter
        (fun segment => segment.type = .imageUrl) = [] := rfl
    rw [blank, List.append_nil]
    exact List.filter_congr fun segment _ => Bool.and_comm _ _
  rw [same, stay] at parts
  exact parts.symm.trans List.perm_append_comm

/-- What an unloading makes of a message. -/
structure Exchanged (env : CompressionEnv) (unloading : Unloading) (old new : ChatHistoryItem) :
    Prop where
  images : old.imageSegments.Perm (new.imageSegments ++ unloading.images)
  removed : ∀ segment ∈ new.imageSegments,
    segment ∈ old.imageSegments ∧ segment ∉ unloading.images
  texts : ∀ segment ∈ old.segments, segment.type ≠ .imageUrl → segment ∈ new.segments
  placeholder : ContentSegment.textSegment (unloading.placeholder env) ∈ new.segments

/-- An unloading exchanges one message. -/
theorem Unloads.exchanged (unloads : Unloads env unloading history records next stored) :
    ∃ old new, history[unloading.historyIndex]? = some old ∧
      next = history.set unloading.historyIndex new ∧ Exchanged env unloading old new := by
  obtain ⟨_, _, segments, block, taken, found, images, areImages, built, rfl⟩ := unloads
  have newSegments := segments_fromSegments built
  have split := images_split segments (unloading.placeholder env) areImages
  rw [← newSegments, ← images] at split
  refine ⟨_, .block block, found, rfl, split, fun segment member => ?_,
    fun segment member isText => ?_, ?_⟩
  · obtain ⟨inside, isImage⟩ := List.mem_filter.mp member
    rw [newSegments] at inside
    rcases List.mem_append.mp inside with old | placeholder
    · obtain ⟨member, spared⟩ := List.mem_filter.mp old
      refine ⟨List.mem_filter.mpr ⟨member, isImage⟩, fun held => ?_⟩
      rw [images] at held
      rw [(List.mem_filter.mp held).2] at spared
      cases spared
    · rw [List.mem_singleton.mp placeholder] at isImage
      cases of_decide_eq_true isImage
  · rw [newSegments]
    refine List.mem_append_left _ (List.mem_filter.mpr ⟨member, ?_⟩)
    cases isTaken : taken segment with
    | false => rfl
    | true => exact absurd (areImages segment isTaken) isText
  · rw [newSegments]
    exact List.mem_append_right _ (List.mem_singleton_self _)

/-- No unloading is made twice. -/
theorem ImagesAccounted.fresh (accounted : ImagesAccounted env kept archive history records made)
    (unloads : Unloads env unloading history records next stored) : unloading ∉ made := by
  intro again
  obtain ⟨old, new, found, -, exchanged⟩ := unloads.exchanged
  obtain ⟨segment, member⟩ := List.exists_mem_of_ne_nil _ unloads.some_image
  exact (accounted.gone unloading again).2 segment member old found
    (exchanged.images.mem_iff.mpr (List.mem_append_right _ member))

/-- A step keeps the account of the images. -/
theorem ImagesAccounted.step (accounted : ImagesAccounted env kept archive history records made)
    (unloads : Unloads env unloading history records next stored) :
    ImagesAccounted env kept archive next stored (made ++ [unloading]) := by
  obtain ⟨old, new, found, rfl, exchanged⟩ := unloads.exchanged
  have here : (history.set unloading.historyIndex new)[unloading.historyIndex]? = some new :=
    List.getElem?_set_self (List.getElem?_eq_some_iff.mp found).1
  have elsewhere {idx : Nat} (other : idx ≠ unloading.historyIndex) :
      (history.set unloading.historyIndex new)[idx]? = history[idx]? :=
    List.getElem?_set_ne (Ne.symm other)
  constructor
  · rw [List.length_set]
    exact accounted.length
  · intro idx before known
    obtain ⟨after, present, account⟩ := accounted.images idx before known
    by_cases same : idx = unloading.historyIndex
    · subst same
      cases found.symm.trans present
      refine ⟨new, here, account.trans ?_⟩
      have single : [unloading].filter
          (fun other => other.historyIndex = unloading.historyIndex) = [unloading] := by simp
      rw [List.filter_append, single, List.flatMap_append, List.flatMap_singleton]
      refine (exchanged.images.append_right _).trans ?_
      rw [List.append_assoc]
      exact List.perm_append_comm.append_left _
    · refine ⟨after, (elsewhere same).trans present, ?_⟩
      have none_here : [unloading].filter (fun other => other.historyIndex = idx) = [] := by
        simp [Ne.symm same]
      rw [List.filter_append, none_here, List.append_nil]
      exact account
  · intro earlier member
    rcases List.mem_append.mp member with member | last
    · obtain ⟨after, present, marked⟩ := accounted.marked earlier member
      by_cases same : earlier.historyIndex = unloading.historyIndex
      · rw [same] at present ⊢
        cases found.symm.trans present
        exact ⟨new, here, exchanged.texts _ marked fun isImage => by cases isImage⟩
      · exact ⟨after, (elsewhere same).trans present, marked⟩
    · rw [List.mem_singleton.mp last]
      exact ⟨new, here, exchanged.placeholder⟩
  · intro earlier member
    rcases List.mem_append.mp member with member | last
    · obtain ⟨some_image, gone⟩ := accounted.gone earlier member
      refine ⟨some_image, fun segment held after present inside => ?_⟩
      by_cases same : earlier.historyIndex = unloading.historyIndex
      · rw [same, here] at present
        cases present
        exact gone segment held old (same ▸ found) (exchanged.removed segment inside).1
      · exact gone segment held after ((elsewhere same).symm.trans present) inside
    · rw [List.mem_singleton.mp last]
      refine ⟨unloads.some_image, fun segment held after present inside => ?_⟩
      rw [here] at present
      cases present
      exact (exchanged.removed segment inside).2 held
  · intro earlier member segment held
    rcases List.mem_append.mp member with member | last
    · exact accounted.areImages earlier member segment held
    · rw [List.mem_singleton.mp last] at held
      have inside := exchanged.images.mem_iff.mpr (List.mem_append_right _ held)
      exact of_decide_eq_true (List.mem_filter.mp inside).2
  · refine List.nodup_append.mpr ⟨accounted.nodup, List.nodup_singleton _, ?_⟩
    intro earlier member other last same
    rw [same, List.mem_singleton.mp last] at member
    exact accounted.fresh unloads member
  · rw [unloads.filed, accounted.filed, List.map_append]
    exact (Archive.fileAll_append _ _ _ _).symm

end Account

/-! ## Placeholders -/

/-- What a text contains, a longer one contains. -/
theorem contains_append {text needle : String} (rest : String)
    (found : contains text needle = true) : contains (text ++ rest) needle = true := by
  rw [contains_iff, String.toList_append]
  exact (contains_iff.mp found).trans (List.prefix_append _ _).isInfix

/-- A placeholder says that images were unloaded. -/
theorem contains_unloadPlaceholder (unloadId : String) (images : Nat) :
    contains (unloadPlaceholder unloadId images) "image context unloaded:" = true := by
  have start : contains "[image context unloaded: unload_id=" "image context unloaded:" = true := by
    decide
  exact contains_append _ (contains_append _ (contains_append _ (contains_append _ start)))

/-- A message with the placeholder of an unloading is one that the drop loop leaves alone. -/
theorem isPlaceholder_of_marked {item : ChatHistoryItem} {unloadId : String} {images : Nat}
    (marked : ContentSegment.textSegment (unloadPlaceholder unloadId images) ∈ item.segments) :
    item.isPlaceholder = true := by
  have found := contains_unloadPlaceholder unloadId images
  match item, marked with
  | .round _, marked => cases marked
  | .block { role := _, body := .text text }, marked =>
      have same := List.mem_singleton.mp marked
      have texts : unloadPlaceholder unloadId images = text :=
        Option.some.inj (congrArg ContentSegment.text same)
      rw [texts] at found
      exact found
  | .block { role := _, body := .segments segments }, marked =>
      have some_text : unloadPlaceholder unloadId images ≠ "" := by
        intro empty
        rw [empty] at found
        exact absurd found (by decide)
      have starts : "image context unloaded:".toList =
          'i' :: "mage context unloaded:".toList := by decide
      have ends : "image context unloaded:".toList =
          "image context unloaded".toList ++ [':'] := by decide
      refine contains_strip starts ends ⟨by decide, by decide⟩ ?_
      refine contains_intercalate (List.mem_filterMap.mpr ⟨_, marked, ?_⟩) found
      exact if_pos ⟨rfl, some_text⟩

/-- Dropping an item that is not kept leaves what is kept. -/
theorem filter_dropped {Item : Type} {keeps : Item → Bool} {items : List Item} {idx : Nat}
    {item : Item} (found : items[idx]? = some item) (gone : keeps item = false) :
    (items.take idx ++ items.drop (idx + 1)).filter keeps = items.filter keeps := by
  obtain ⟨inside, isItem⟩ := List.getElem?_eq_some_iff.mp found
  conv_rhs => rw [← List.take_append_drop idx items, ← List.getElem_cons_drop inside, isItem]
  rw [List.filter_append, List.filter_append,
    List.filter_cons_of_neg (by rw [gone]; exact Bool.false_ne_true)]

/-- The drop loop leaves out items other than placeholders. -/
theorem dropLoop_placeholders (env : CompressionEnv) (payload : BeforeLlmCallHookPayload)
    (protectedPrefix : Nat) (tokenBudget : Int) (history : List ChatHistoryItem) :
    (dropLoop env payload protectedPrefix tokenBudget history).Sublist history ∧
      (dropLoop env payload protectedPrefix tokenBudget history).filter
        ChatHistoryItem.isPlaceholder = history.filter ChatHistoryItem.isPlaceholder := by
  refine (dropLoop_rule env payload tokenBudget (motive := fun left => left.Sublist history ∧
    left.filter ChatHistoryItem.isPlaceholder = history.filter ChatHistoryItem.isPlaceholder)
    (fun left idx ⟨sublist, same⟩ dropped => ?_) ⟨List.Sublist.refl _, rfl⟩).1
  have inside := (findDroppableIndex_some dropped).2
  have droppable := List.find?_some dropped
  obtain ⟨item, found⟩ : ∃ item, left[idx]? = some item :=
    ⟨_, List.getElem?_eq_getElem (by omega)⟩
  rw [found] at droppable
  have gone : item.isPlaceholder = false := by simpa using droppable
  refine ⟨List.Sublist.trans ?_ sublist, (filter_dropped found gone).trans same⟩
  conv_rhs => rw [← List.take_append_drop idx left]
  refine List.Sublist.append_left ?_ _
  rw [← List.drop_drop]
  exact List.drop_sublist 1 _

end FairyClaw
