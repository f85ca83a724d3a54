import FairyClaw.Compression.Reloadable

/-! # Unloadings that are due

What the loop unloads next is decided by the history, the restored images and the guard
(`FairyClaw.dueUnloadings`). Filing an unloading can only shorten the list of restored images, so
more becomes due as the loop goes on. A run that takes nothing but what was due when it started
(`FairyClaw.Progress`) takes the images of each message once; when it has nothing left to unload it
has made all the unloadings that were due.
-/

namespace FairyClaw

open Foundation

/-! ## Items of the same kinds -/

/-- Histories of the kinds of a third one are of one kind. -/
theorem sameKinds_trans {first second third : List ChatHistoryItem}
    (one : List.Forall₂ SameKind first second) (two : List.Forall₂ SameKind second third) :
    List.Forall₂ SameKind first third := by
  induction one generalizing third with
  | nil => exact two
  | cons kind _ ih =>
      cases two with
      | cons later rest =>
          exact .cons ⟨kind.1.trans later.1, kind.2.trans later.2⟩ (ih rest)

/-- Replacing an item by one of its kind keeps the kinds. -/
theorem sameKinds_set {history : List ChatHistoryItem} {idx : Nat} {old new : ChatHistoryItem}
    (found : history[idx]? = some old) (kind : SameKind new old) :
    List.Forall₂ SameKind (history.set idx new) history := by
  induction history generalizing idx with
  | nil => cases found
  | cons first rest ih =>
      cases idx with
      | zero =>
          cases found
          exact .cons kind (List.forall₂_same.mpr fun _ _ => ⟨rfl, rfl⟩)
      | succ idx => exact .cons ⟨rfl, rfl⟩ (ih found)

/-- Histories of the same kinds have equally many messages. -/
theorem countP_congr_of_sameKinds {first second : List ChatHistoryItem}
    (kinds : List.Forall₂ SameKind first second) :
    first.countP (fun item => !item.isRound) = second.countP fun item => !item.isRound := by
  induction kinds with
  | nil => rfl
  | cons kind _ ih => rw [List.countP_cons, List.countP_cons, ih, kind.1]

/-- Histories of the same kinds have equally many messages after an index. -/
theorem messageBlocksAfterIndex_congr {first second : List ChatHistoryItem}
    (kinds : List.Forall₂ SameKind first second) (idx : Nat) :
    messageBlocksAfterIndex first idx = messageBlocksAfterIndex second idx :=
  countP_congr_of_sameKinds (List.forall₂_drop _ kinds)

/-- Histories of the same kinds have the same unprotected indices. -/
theorem unprotectedIndices_congr {first second : List ChatHistoryItem} (start : Nat)
    (kinds : List.Forall₂ SameKind first second) :
    unprotectedIndices first start = unprotectedIndices second start := by
  unfold unprotectedIndices
  rw [latestTurnSuffixLength_congr kinds, kinds.length_eq]

/-! ## Unloadings that are due -/

/-- The unloadings that are due at the indices, by the fingerprints of the restored images. -/
def dueUnloadings (env : CompressionEnv) (historyItems : List ChatHistoryItem)
    (restored : List String) (reloadedGuardMessages : Int) (indices : List Nat) : List Unloading :=
  indices.filterMap fun idx => unloadingAt env historyItems restored reloadedGuardMessages [idx]

section Due

variable {env : CompressionEnv} {history : List ChatHistoryItem} {restored : List String}
  {guardMessages : Int} {unloading : Unloading} {idx : Nat} {indices : List Nat}

/-- The images of a message that are unloaded next. -/
structure Due (env : CompressionEnv) (history : List ChatHistoryItem) (restored : List String)
    (guardMessages : Int) (unloading : Unloading) : Prop where
  some_image : unloading.images ≠ []
  taken : ∃ segments,
    history[unloading.historyIndex]? =
      some (.block { role := unloading.role, body := .segments segments }) ∧
    unloading.images = segments.filter (unloads env restored
      (messageBlocksAfterIndex history unloading.historyIndex) guardMessages)

/-- The unloading at an index is the one that is due there. -/
theorem unloadingAt_single_iff :
    unloadingAt env history restored guardMessages [idx] = some unloading ↔
      unloading.historyIndex = idx ∧ Due env history restored guardMessages unloading := by
  unfold unloadingAt
  constructor
  · intro found
    split at found
    · next role segments present =>
        dsimp only at found
        split at found
        · cases found
        · next some_image =>
            cases found
            exact ⟨rfl, some_image, segments, present, rfl⟩
    · cases found
  · rintro ⟨rfl, some_image, segments, present, taken⟩
    rw [present]
    dsimp only
    rw [← taken, if_neg some_image]

/-- The loop takes the first unloading that is due. -/
theorem unloadingAt_eq_head (indices : List Nat) :
    unloadingAt env history restored guardMessages indices =
      (dueUnloadings env history restored guardMessages indices).head? := by
  induction indices with
  | nil => rfl
  | cons idx rest ih =>
      have step : unloadingAt env history restored guardMessages (idx :: rest) =
          (unloadingAt env history restored guardMessages [idx]).or
            (unloadingAt env history restored guardMessages rest) := by
        conv_lhs => unfold unloadingAt
        conv_rhs => arg 1; unfold unloadingAt
        split
        · dsimp only
          split
          · rfl
          · rfl
        · rfl
      rw [step, ih, dueUnloadings, dueUnloadings, List.filterMap_cons]
      cases unloadingAt env history restored guardMessages [idx] <;> rfl

/-- The due unloadings are those at the indices. -/
theorem mem_dueUnloadings :
    unloading ∈ dueUnloadings env history restored guardMessages indices ↔
      unloading.historyIndex ∈ indices ∧ Due env history restored guardMessages unloading := by
  rw [dueUnloadings, List.mem_filterMap]
  constructor
  · rintro ⟨idx, inside, found⟩
    obtain ⟨rfl, due⟩ := unloadingAt_single_iff.mp found
    exact ⟨inside, due⟩
  · rintro ⟨inside, due⟩
    exact ⟨_, inside, unloadingAt_single_iff.mpr ⟨rfl, due⟩⟩

/-- One unloading at most is due at an index. -/
theorem Due.unique {first second : Unloading} (one : Due env history restored guardMessages first)
    (two : Due env history restored guardMessages second)
    (same : first.historyIndex = second.historyIndex) : first = second :=
  Option.some.inj ((unloadingAt_single_iff.mpr ⟨rfl, one⟩).symm.trans
    (unloadingAt_single_iff.mpr ⟨same.symm, two⟩))

/-- Only images are unloaded. -/
theorem unloads_isImage {messageBlocksAfter : Nat} {segment : ContentSegment}
    (unloaded : unloads env restored messageBlocksAfter guardMessages segment = true) :
    segment.type = .imageUrl := by
  simp only [unloads, Bool.and_eq_true, decide_eq_true_eq] at unloaded
  exact unloaded.1

/-- What is due at a message are its images that are not guarded. -/
theorem Due.mem_iff (due : Due env history restored guardMessages unloading)
    {item : ChatHistoryItem} (found : history[unloading.historyIndex]? = some item)
    {image : ContentSegment} :
    image ∈ unloading.images ↔ image ∈ item.imageSegments ∧
      unloads env restored (messageBlocksAfterIndex history unloading.historyIndex) guardMessages
        image = true := by
  obtain ⟨segments, present, taken⟩ := due.taken
  cases found.symm.trans present
  rw [taken, List.mem_filter, ChatHistoryItem.imageSegments, List.mem_filter, and_assoc]
  refine and_congr_right fun _ => ⟨fun unloaded => ⟨?_, unloaded⟩, And.right⟩
  exact decide_eq_true (unloads_isImage unloaded)

/-- With fewer restored images no fewer images are unloaded. -/
theorem unloads_mono {fewer : List String} {messageBlocksAfter : Nat} {segment : ContentSegment}
    (subset : fewer ⊆ restored)
    (unloaded : unloads env restored messageBlocksAfter guardMessages segment = true) :
    unloads env fewer messageBlocksAfter guardMessages segment = true := by
  simp only [unloads, Bool.and_eq_true, Bool.not_eq_true', Bool.and_eq_false_iff,
    decide_eq_true_eq, decide_eq_false_iff_not] at unloaded ⊢
  exact ⟨unloaded.1, unloaded.2.imp_left fun gone held => gone (subset held)⟩

/-- An image is spared when it is restored and few messages come after it. -/
theorem not_unloads_iff {messageBlocksAfter : Nat} {image : ContentSegment}
    (isImage : image.type = .imageUrl) :
    unloads env restored messageBlocksAfter guardMessages image = false ↔
      fingerprint env image.toDict ∈ restored ∧ messageBlocksAfter < guardMessages := by
  simp only [unloads, isImage, decide_true, Bool.true_and, Bool.not_eq_false', Bool.and_eq_true,
    decide_eq_true_eq]
  refine and_congr_right fun _ => ?_
  omega

end Due

/-! ## The restored images -/

/-- The fingerprints of the segments that an entry of the archive holds. -/
def heldFingerprints (env : CompressionEnv) (value : Option Json × Option Json) : List String :=
  ((value.2.bind Json.asArr).getD []).filterMap fun segment => segment.asObj.map (fingerprint env)

section Restored

variable {env : CompressionEnv} {records : List JsonObject} {mark : String}

/-- The restored fingerprints are those of images that are out of use in the archive. -/
theorem mem_restored_iff :
    mark ∈ restoredSegmentFingerprints env records ↔
      ∃ entry ∈ archiveOf env records, entry.active = false ∧
        mark ∈ heldFingerprints env entry.value := by
  rw [restoredSegmentFingerprints, List.mem_flatMap, archiveOf]
  constructor
  · rintro ⟨record, member, held⟩
    split at held
    · next restored =>
        refine ⟨_, List.mem_map.mpr ⟨record, member, rfl⟩, ?_, held⟩
        exact congrArg not restored
    · cases held
  · rintro ⟨entry, member, retired, held⟩
    obtain ⟨record, inside, rfl⟩ := List.mem_map.mp member
    refine ⟨record, inside, ?_⟩
    have restored : isRestored record = true := Bool.not_eq_false' _ |>.mp retired
    rw [isRestored] at restored
    rw [if_pos restored]
    exact held

/-- The records that none of the unloadings files again. -/
def recordsLeftAlone (env : CompressionEnv) (made : List Unloading) (records : List JsonObject) :
    List JsonObject :=
  records.filter fun record => recordUnloadId env record ∉ made.map (Unloading.unloadId env)

/-- The records left alone are those under other ids. -/
theorem mem_archiveOf_leftAlone {made : List Unloading}
    {entry : Filed String (Option Json × Option Json)} :
    entry ∈ archiveOf env (recordsLeftAlone env made records) ↔
      entry ∈ archiveOf env records ∧ entry.key ∉ made.map (Unloading.unloadId env) := by
  rw [archiveOf, archiveOf, List.mem_map, List.mem_map]
  constructor
  · rintro ⟨record, member, rfl⟩
    obtain ⟨inside, apart⟩ := List.mem_filter.mp member
    exact ⟨⟨record, inside, rfl⟩, of_decide_eq_true apart⟩
  · rintro ⟨⟨record, inside, rfl⟩, apart⟩
    exact ⟨record, List.mem_filter.mpr ⟨inside, decide_eq_true apart⟩, rfl⟩

/-- The keys under which unloadings are filed. -/
theorem keys_filed (made : List Unloading) :
    (made.map fun unloading => (unloading.unloadId env, unloading.value)).map Prod.fst =
      made.map (Unloading.unloadId env) := by
  rw [List.map_map]
  rfl

variable {stored : List JsonObject} {made due : List Unloading}

/-- Filing restores no image. -/
theorem restored_subset (filed : archiveOf env stored = Archive.fileAll (archiveOf env records)
      (made.map fun unloading => (unloading.unloadId env, unloading.value))) :
    restoredSegmentFingerprints env stored ⊆ restoredSegmentFingerprints env records := by
  intro mark restored
  obtain ⟨entry, member, retired, held⟩ := mem_restored_iff.mp restored
  rw [filed] at member
  exact mem_restored_iff.mpr ⟨entry, Archive.retired_of_fileAll _ member retired, retired, held⟩

/-- What a record holds that is left alone stays restored. -/
theorem leftAlone_subset (filed : archiveOf env stored = Archive.fileAll (archiveOf env records)
      (made.map fun unloading => (unloading.unloadId env, unloading.value)))
    (among : made ⊆ due) :
    restoredSegmentFingerprints env (recordsLeftAlone env due records) ⊆
      restoredSegmentFingerprints env stored := by
  intro mark restored
  obtain ⟨entry, member, retired, held⟩ := mem_restored_iff.mp restored
  obtain ⟨inside, apart⟩ := mem_archiveOf_leftAlone.mp member
  refine mem_restored_iff.mpr ⟨entry, ?_, retired, held⟩
  rw [filed]
  refine Archive.mem_fileAll_of_not_mem _ inside ?_
  rw [keys_filed]
  exact fun named => apart (List.map_subset _ among named)

/-- Under distinct ids nothing else stays restored. -/
theorem restored_subset_leftAlone (distinct : Archive.Distinct (archiveOf env records))
    (filed : archiveOf env stored = Archive.fileAll (archiveOf env records)
      (made.map fun unloading => (unloading.unloadId env, unloading.value)))
    (all : due ⊆ made) :
    restoredSegmentFingerprints env stored ⊆
      restoredSegmentFingerprints env (recordsLeftAlone env due records) := by
  intro mark restored
  obtain ⟨entry, member, retired, held⟩ := mem_restored_iff.mp restored
  rw [filed] at member
  obtain ⟨inside, apart⟩ := distinct.retired_fileAll _ member retired
  rw [keys_filed] at apart
  refine mem_restored_iff.mpr ⟨entry, mem_archiveOf_leftAlone.mpr ⟨inside, ?_⟩, retired, held⟩
  exact fun named => apart (List.map_subset _ all named)

end Restored

/-! ## A run without surprises -/

/-- After the unloadings, which were all due at the start, each message is as it was, or without the
images that were due there. -/
structure Progress (env : CompressionEnv) (guardMessages : Int) (protectedPrefix : Nat)
    (kept : List ChatHistoryItem) (records : List JsonObject) (history : List ChatHistoryItem)
    (stored : List JsonObject) (made : List Unloading) : Prop where
  kinds : List.Forall₂ SameKind history kept
  filed : archiveOf env stored = Archive.fileAll (archiveOf env records)
    (made.map fun unloading => (unloading.unloadId env, unloading.value))
  due : made ⊆ dueUnloadings env kept (restoredSegmentFingerprints env records) guardMessages
    (unprotectedIndices kept protectedPrefix)
  items : ∀ idx, history[idx]? = kept[idx]? ∨
    ∃ unloading ∈ made, unloading.historyIndex = idx ∧ ∃ old new, kept[idx]? = some old ∧
      history[idx]? = some new ∧ Exchanged env unloading old new

/-- An unloading takes only images that were due at the start. -/
def Spares (env : CompressionEnv) (guardMessages : Int) (kept : List ChatHistoryItem)
    (records : List JsonObject) (unloading : Unloading) : Prop :=
  ∀ image ∈ unloading.images, unloads env (restoredSegmentFingerprints env records)
    (messageBlocksAfterIndex kept unloading.historyIndex) guardMessages image = true

section Progress

variable {env : CompressionEnv} {guardMessages : Int} {protectedPrefix : Nat}
  {kept history next : List ChatHistoryItem} {records stored updated : List JsonObject}
  {made : List Unloading} {unloading : Unloading}

/-- At the start nothing has been unloaded. -/
theorem progress_refl (env : CompressionEnv) (guardMessages : Int) (protectedPrefix : Nat)
    (kept : List ChatHistoryItem) (records : List JsonObject) :
    Progress env guardMessages protectedPrefix kept records kept records [] where
  kinds := List.forall₂_same.mpr fun _ _ => ⟨rfl, rfl⟩
  filed := rfl
  due := List.nil_subset _
  items := fun _ => Or.inl rfl

/-- The images of a message are those that it had at the start. -/
theorem Progress.images (progress : Progress env guardMessages protectedPrefix kept records history
      stored made) {idx : Nat} {item : ChatHistoryItem} (found : history[idx]? = some item)
    {image : ContentSegment} (member : image ∈ item.imageSegments) :
    ∃ before, kept[idx]? = some before ∧ image ∈ before.imageSegments := by
  rcases progress.items idx with same | ⟨_, _, _, old, new, present, current, exchanged⟩
  · exact ⟨item, same.symm.trans found, member⟩
  · cases found.symm.trans current
    exact ⟨old, present, (exchanged.removed image member).1⟩

/-- An unloading keeps the kinds of the items. -/
theorem Unloads.sameKind (unloads : Unloads env unloading history records next stored) :
    List.Forall₂ SameKind next history := by
  obtain ⟨_, _, segments, block, taken, found, _, _, built, rfl⟩ := unloads
  refine sameKinds_set found ⟨rfl, ?_⟩
  simp only [ChatHistoryItem.isUserBlock, fromSegments_role built]

/-- A message with an image that was due at the start is as it was. -/
theorem Progress.untouched (progress : Progress env guardMessages protectedPrefix kept records
      history stored made)
    (due : Due env history (restoredSegmentFingerprints env stored) guardMessages unloading)
    (spares : Spares env guardMessages kept records unloading) :
    history[unloading.historyIndex]? = kept[unloading.historyIndex]? := by
  rcases progress.items unloading.historyIndex with same |
    ⟨earlier, isMade, here, old, new, present, current, exchanged⟩
  · exact same
  · obtain ⟨image, member⟩ := List.exists_mem_of_ne_nil _ due.some_image
    obtain ⟨left, spared⟩ := exchanged.removed image ((due.mem_iff current).mp member).1
    have dueThere := (mem_dueUnloadings.mp (progress.due isMade)).2
    rw [← here] at present
    have unloaded := spares image member
    rw [← here] at unloaded
    exact absurd ((dueThere.mem_iff present).mpr ⟨left, unloaded⟩) spared

/-- An unloading that takes only what was due at the start is progress. -/
theorem Progress.step (progress : Progress env guardMessages protectedPrefix kept records history
      stored made)
    (due : Due env history (restoredSegmentFingerprints env stored) guardMessages unloading)
    (inside : unloading.historyIndex ∈ unprotectedIndices history protectedPrefix)
    (unloads : Unloads env unloading history stored next updated)
    (spares : Spares env guardMessages kept records unloading) :
    Progress env guardMessages protectedPrefix kept records next updated (made ++ [unloading]) := by
  have untouched := progress.untouched due spares
  constructor
  · exact sameKinds_trans unloads.sameKind progress.kinds
  · rw [unloads.filed, progress.filed, List.map_append]
    exact (Archive.fileAll_append _ _ _ _).symm
  · refine List.append_subset.mpr ⟨progress.due, List.cons_subset.mpr ⟨?_, List.nil_subset _⟩⟩
    rw [unprotectedIndices_congr _ progress.kinds] at inside
    obtain ⟨some_image, segments, present, taken⟩ := due
    refine mem_dueUnloadings.mpr ⟨inside, some_image, segments, untouched.symm.trans present, ?_⟩
    rw [taken]
    refine List.filter_congr fun segment member => Bool.eq_iff_iff.mpr ⟨fun unloaded => ?_, ?_⟩
    · refine spares segment ?_
      rw [taken]
      exact List.mem_filter.mpr ⟨member, unloaded⟩
    · intro unloaded
      rw [messageBlocksAfterIndex_congr progress.kinds]
      exact unloads_mono (restored_subset progress.filed) unloaded
  · intro idx
    obtain ⟨old, new, present, rfl, exchanged⟩ := unloads.exchanged
    by_cases here : unloading.historyIndex = idx
    · subst here
      refine Or.inr ⟨unloading, List.mem_append_right _ (List.mem_singleton_self _), rfl, old, new,
        untouched.symm.trans present, ?_, exchanged⟩
      exact List.getElem?_set_self (List.getElem?_eq_some_iff.mp present).1
    · rw [List.getElem?_set_ne here]
      refine (progress.items idx).imp_right ?_
      rintro ⟨earlier, isMade, rest⟩
      exact ⟨earlier, List.mem_append_left _ isMade, rest⟩

section Steps

variable {payload : BeforeLlmCallHookPayload} {tokenBudget : Int}

/-- A step of the loop makes the first unloading that is due. -/
theorem loopUnloadings_of_stepped (long : ¬ countRebuiltPrompt env payload history ≤ tokenBudget)
    (stepped : unloadOldestImageMessage env history protectedPrefix guardMessages stored =
      .ok (some (next, updated))) :
    ∃ unloading, unloading.historyIndex ∈ unprotectedIndices history protectedPrefix ∧
      Due env history (restoredSegmentFingerprints env stored) guardMessages unloading ∧
      Unloads env unloading history stored next updated ∧
      loopUnloadings env payload protectedPrefix guardMessages tokenBudget history stored =
        unloading :: loopUnloadings env payload protectedPrefix guardMessages tokenBudget next
          updated := by
  obtain ⟨unloading, named, unloads⟩ := unloads_of_stepped stepped
  have first := named
  rw [unloadingAt_eq_head] at first
  obtain ⟨inside, due⟩ := mem_dueUnloadings.mp (List.mem_of_head? first)
  exact ⟨unloading, inside, due, unloads, loopUnloadings_of_named long stepped named⟩

/-- When no step is possible the loop unloads nothing. -/
theorem loopUnloadings_of_not_stepped
    (left : ∀ next updated, unloadOldestImageMessage env history protectedPrefix guardMessages
      stored ≠ .ok (some (next, updated))) :
    loopUnloadings env payload protectedPrefix guardMessages tokenBudget history stored = [] := by
  rw [loopUnloadings]
  split
  · rfl
  · split
    · next stepped => exact absurd stepped (left _ _)
    · rfl

/-- A run that always spares what was not due at the start unloads only what was due. -/
theorem Progress.run
    (progress : Progress env guardMessages protectedPrefix kept records history stored made)
    (spares : ∀ unloading ∈ loopUnloadings env payload protectedPrefix guardMessages tokenBudget
      history stored, ∀ current records' made', Progress env guardMessages protectedPrefix kept
        records current records' made' →
      unloading.historyIndex ∈ unprotectedIndices current protectedPrefix →
      Due env current (restoredSegmentFingerprints env records') guardMessages unloading →
      Spares env guardMessages kept records unloading) :
    loopUnloadings env payload protectedPrefix guardMessages tokenBudget history stored ⊆
        dueUnloadings env kept (restoredSegmentFingerprints env records) guardMessages
          (unprotectedIndices kept protectedPrefix) ∧
      ∀ unloaded final, unloadLoop env payload protectedPrefix guardMessages tokenBudget history
          stored = .ok (unloaded, final) →
        Progress env guardMessages protectedPrefix kept records unloaded final (made ++
          loopUnloadings env payload protectedPrefix guardMessages tokenBudget history stored) := by
  induction history, stored using unloadLoop.induct env payload protectedPrefix guardMessages
      tokenBudget generalizing made with
  | case1 history stored fits =>
      rw [loopUnloadings_of_fits fits, unloadLoop, if_pos fits, List.append_nil]
      refine ⟨List.nil_subset _, fun unloaded final ran => ?_⟩
      cases ran
      exact progress
  | case2 history stored long error failed =>
      have left : loopUnloadings env payload protectedPrefix guardMessages tokenBudget history
          stored = [] :=
        loopUnloadings_of_not_stepped fun _ _ stepped => by cases failed.symm.trans stepped
      rw [left, unloadLoop, if_neg long]
      refine ⟨List.nil_subset _, fun unloaded final ran => ?_⟩
      split at ran
      · cases ran
      · next ended => cases failed.symm.trans ended
      · next stepped => cases failed.symm.trans stepped
  | case3 history stored long ended =>
      have left : loopUnloadings env payload protectedPrefix guardMessages tokenBudget history
          stored = [] :=
        loopUnloadings_of_not_stepped fun _ _ stepped => by cases ended.symm.trans stepped
      rw [left, unloadLoop, if_neg long, List.append_nil]
      refine ⟨List.nil_subset _, fun unloaded final ran => ?_⟩
      split at ran
      · next failed => cases ended.symm.trans failed
      · cases ran
        exact progress
      · next stepped => cases ended.symm.trans stepped
  | case4 history stored long next updated stepped ih =>
      obtain ⟨unloading, inside, due, unloads, first⟩ := loopUnloadings_of_stepped long stepped
      rw [first] at spares ⊢
      have spared := spares unloading List.mem_cons_self history stored made progress inside due
      have later := progress.step due inside unloads spared
      obtain ⟨among, ends⟩ := ih later fun other member =>
        spares other (List.mem_cons_of_mem _ member)
      refine ⟨List.cons_subset.mpr ⟨?_, among⟩, fun unloaded final ran => ?_⟩
      · exact later.due (List.mem_append_right _ (List.mem_singleton_self _))
      · rw [unloadLoop_of_stepped long stepped] at ran
        rw [List.append_cons]
        exact ends unloaded final ran

end Steps

end Progress

/-! ## The end of the loop -/

section Exhausted

variable {env : CompressionEnv} {payload : BeforeLlmCallHookPayload}
  {history : List ChatHistoryItem} {records : List JsonObject}

/-- With a store that works a record is filed. -/
theorem appendUnloadedSegmentRecord_ok (reads : env.readState = none)
    (writes : env.writeState = none) (unloadId role : String) (segments : List JsonObject)
    (placeholder sourceSummary : String) :
    ∃ stored, appendUnloadedSegmentRecord env records unloadId role segments placeholder
      sourceSummary = .ok stored := by
  have saves (records : List JsonObject) : saveUnloadedSegmentsState env records = .ok records := by
    rw [saveUnloadedSegmentsState, writes]
  unfold appendUnloadedSegmentRecord
  rw [reads]
  dsimp only
  split
  · exact ⟨_, rfl⟩
  · split
    · exact ⟨_, saves _⟩
    · exact ⟨_, saves _⟩

/-- With a store that works the images of a message are replaced, or there are none. -/
theorem replaceImages_ok (reads : env.readState = none) (writes : env.writeState = none)
    (item : ChatHistoryItem) (historyIndex : Nat) (history : List ChatHistoryItem)
    (restored : List String) (guardMessages : Int) (records : List JsonObject) : ∃ outcome,
      replaceImagesWithUnloadPlaceholder env item historyIndex history restored guardMessages
        records = .ok outcome := by
  unfold replaceImagesWithUnloadPlaceholder
  split
  · dsimp only
    split
    · exact ⟨_, rfl⟩
    · split
      · next failed =>
          obtain ⟨stored, appended⟩ := appendUnloadedSegmentRecord_ok reads writes _ _ _ _ _
          cases failed.symm.trans appended
      · exact ⟨_, rfl⟩
  · exact ⟨_, rfl⟩

/-- With a store that works the search for images comes to an end. -/
theorem unloadAt_ok (reads : env.readState = none) (writes : env.writeState = none)
    (history : List ChatHistoryItem) (restored : List String) (guardMessages : Int)
    (records : List JsonObject) (indices : List Nat) : ∃ outcome,
      unloadAt env history restored guardMessages records indices = .ok outcome := by
  induction indices with
  | nil => exact ⟨_, rfl⟩
  | cons idx rest ih =>
      rw [unloadAt]
      split
      · exact ih
      · next item found =>
          obtain ⟨outcome, replaced⟩ :=
            replaceImages_ok reads writes item idx history restored guardMessages records
          rw [replaced]
          cases outcome with
          | none => exact ih
          | some _ => exact ⟨_, rfl⟩

/-- With a store that works the loop comes to an end. -/
theorem unloadLoop_ok (reads : env.readState = none) (writes : env.writeState = none)
    (protectedPrefix : Nat) (guardMessages tokenBudget : Int) :
    ∃ unloaded stored, unloadLoop env payload protectedPrefix guardMessages tokenBudget history
      records = .ok (unloaded, stored) := by
  induction history, records using unloadLoop.induct env payload protectedPrefix guardMessages
      tokenBudget with
  | case1 history records fits =>
      rw [unloadLoop, if_pos fits]
      exact ⟨_, _, rfl⟩
  | case2 history records long error failed =>
      unfold unloadOldestImageMessage at failed
      rw [reads] at failed
      split at failed
      · cases failed
      · dsimp only at failed
        obtain ⟨outcome, stepped⟩ := unloadAt_ok reads writes history
          (restoredSegmentFingerprints env records) guardMessages records
          (unprotectedIndices history protectedPrefix)
        cases failed.symm.trans stepped
  | case3 history records long ended =>
      rw [unloadLoop, if_neg long]
      split
      · next failed => cases ended.symm.trans failed
      · exact ⟨_, _, rfl⟩
      · next stepped => cases ended.symm.trans stepped
  | case4 history records long next updated stepped ih =>
      rw [unloadLoop_of_stepped long stepped]
      exact ih

/-- The images of an item are among its segments. -/
theorem imageSegments_subset (item : ChatHistoryItem) :
    item.imageSegments ⊆ item.contentSegments := by
  intro segment member
  obtain ⟨inside, isImage⟩ := List.mem_filter.mp member
  match item, inside with
  | .round _, inside => cases inside
  | .block { role := _, body := .text _ }, inside =>
      rw [List.mem_singleton.mp inside] at isImage
      cases isImage
  | .block { role := _, body := .segments _ }, inside => exact inside

section Ended

variable {guardMessages : Int} {protectedPrefix : Nat} {kept unloaded : List ChatHistoryItem}
  {final : List JsonObject} {made : List Unloading}

/-- When the loop has nothing to unload, every image that is left is guarded. -/
theorem Progress.left_guarded
    (progress : Progress env guardMessages protectedPrefix kept records unloaded final made)
    (ended : unloadOldestImageMessage env unloaded protectedPrefix guardMessages final = .ok none)
    {idx : Nat} (inside : idx ∈ unprotectedIndices kept protectedPrefix) {item : ChatHistoryItem}
    (found : unloaded[idx]? = some item) {image : ContentSegment}
    (member : image ∈ item.imageSegments) :
    unloads env (restoredSegmentFingerprints env final) (messageBlocksAfterIndex kept idx)
      guardMessages image = false := by
  rw [← unprotectedIndices_congr _ progress.kinds] at inside
  rw [← messageBlocksAfterIndex_congr progress.kinds]
  exact nothingToUnload_of_none ended idx inside item found image (imageSegments_subset item member)

/-- Then everything that was due at the start has been unloaded. -/
theorem Progress.all_due
    (progress : Progress env guardMessages protectedPrefix kept records unloaded final made)
    (ended : unloadOldestImageMessage env unloaded protectedPrefix guardMessages final = .ok none) :
    dueUnloadings env kept (restoredSegmentFingerprints env records) guardMessages
      (unprotectedIndices kept protectedPrefix) ⊆ made := by
  intro unloading isDue
  obtain ⟨inside, due⟩ := mem_dueUnloadings.mp isDue
  rcases progress.items unloading.historyIndex with same | ⟨earlier, isMade, here, -⟩
  · obtain ⟨image, held⟩ := List.exists_mem_of_ne_nil _ due.some_image
    obtain ⟨segments, present, -⟩ := due.taken
    obtain ⟨member, isUnloaded⟩ := (due.mem_iff present).mp held
    have still := unloads_mono (restored_subset progress.filed) isUnloaded
    rw [progress.left_guarded ended inside (same.trans present) member] at still
    cases still
  · rw [← (mem_dueUnloadings.mp (progress.due isMade)).2.unique due here]
    exact isMade

/-- An image that was not taken is left. -/
theorem Progress.left_or_taken
    (progress : Progress env guardMessages protectedPrefix kept records unloaded final made)
    {idx : Nat} {item : ChatHistoryItem} (found : kept[idx]? = some item) {image : ContentSegment}
    (member : image ∈ item.imageSegments) :
    (∃ left, unloaded[idx]? = some left ∧ image ∈ left.imageSegments) ∨
      ∃ unloading ∈ made, unloading.historyIndex = idx ∧ image ∈ unloading.images := by
  rcases progress.items idx with same | ⟨earlier, isMade, here, old, new, present, now, exchanged⟩
  · exact Or.inl ⟨item, same.trans found, member⟩
  · cases present.symm.trans found
    rcases List.mem_append.mp (exchanged.images.mem_iff.mp member) with kept | gone
    · exact Or.inl ⟨new, now, kept⟩
    · exact Or.inr ⟨earlier, isMade, here, gone⟩

end Ended

end Exhausted

end FairyClaw
