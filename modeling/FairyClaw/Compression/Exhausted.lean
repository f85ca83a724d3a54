import FairyClaw.Compression.Protected

/-! # Compression uses up its means

Both loops end, since every step leaves fewer images or fewer items. The loop that unloads
images leaves none that could be unloaded. An item that is dropped
later makes the items before it no older, so no image becomes unloadable again
(`FairyClaw.NothingToUnload.dropped`). When the prompt is still too long at the end, only
placeholders are left between the protected ends (`FairyClaw.compression_exhausts`).
-/

namespace FairyClaw

open Foundation

/-- The segments of a message, if it is stored as segments. -/
def ChatHistoryItem.contentSegments : ChatHistoryItem → List ContentSegment
  | .block { role := _, body := .segments segments } => segments
  | _ => []

/-- No unprotected item has an image that could be unloaded. -/
def NothingToUnload (env : CompressionEnv) (restored : List String) (guardMessages : Int)
    (protectedPrefix : Nat) (history : List ChatHistoryItem) : Prop :=
  ∀ idx ∈ unprotectedIndices history protectedPrefix, ∀ item, history[idx]? = some item →
    ∀ segment ∈ item.contentSegments,
      unloads env restored (messageBlocksAfterIndex history idx) guardMessages segment = false

variable {env : CompressionEnv} {history : List ChatHistoryItem} {restored : List String}
  {guardMessages tokenBudget : Int} {protectedPrefix : Nat} {records stored : List JsonObject}

/-- When no message is unloaded, none has an image to unload. -/
theorem nothingToUnload_of_none
    (ended : unloadOldestImageMessage env history protectedPrefix guardMessages records = .ok none) :
    NothingToUnload env (restoredSegmentFingerprints env records) guardMessages protectedPrefix
      history := by
  intro idx unprotected item found segment member
  unfold unloadOldestImageMessage at ended
  split at ended
  · next empty =>
      rw [empty] at found
      cases found
  · split at ended
    · cases ended
    · have left := unloadAt_none ended idx unprotected item found
      match item with
      | .round _ => cases member
      | .block { role := _, body := .text _ } => cases member
      | .block { role := role, body := .segments segments } =>
          exact replaceImages_none left segment member

/-- An image is guarded longer the fewer messages come after it. -/
theorem unloads_of_fewer {later earlier : Nat} {segment : ContentSegment} (fewer : later ≤ earlier)
    (guarded : unloads env restored earlier guardMessages segment = false) :
    unloads env restored later guardMessages segment = false := by
  simp only [unloads, Bool.and_eq_false_iff, Bool.not_eq_false', Bool.and_eq_true,
    decide_eq_true_eq] at guarded ⊢
  refine guarded.imp_right fun recent => ⟨recent.1, ?_⟩
  omega

/-- Dropping an item before the latest turn leaves the latest turn. -/
theorem latestTurnSuffixLength_dropped {idx : Nat}
    (before : idx < history.length - latestTurnSuffixLength history) :
    latestTurnSuffixLength history ≤
      latestTurnSuffixLength (history.take idx ++ history.drop (idx + 1)) := by
  have inside := latestTurnSuffixLength_le history
  let start := history.length - latestTurnSuffixLength history
  have parts : history.take idx ++ history.drop (idx + 1) =
      (history.take idx ++ (history.take start).drop (idx + 1)) ++ history.drop start := by
    have late : history.drop (idx + 1) =
        (history.take start).drop (idx + 1) ++ history.drop start := by
      conv_lhs => rw [← List.take_append_drop start history]
      rw [List.drop_append_of_le_length]
      rw [List.length_take]
      omega
    rw [late, List.append_assoc]
  have turn : (history.drop start).length = latestTurnSuffixLength history := by
    rw [List.length_drop]
    omega
  rw [parts, ← turn]
  refine length_le_latestTurnSuffixLength fun item member => ?_
  rw [List.drop_drop] at member
  exact latestTurn_rounds history item member

/-- After a drop, fewer messages come after an item, if at all. -/
theorem messageBlocksAfterIndex_dropped {dropped : Nat} (inside : dropped < history.length)
    (idx : Nat) :
    messageBlocksAfterIndex (history.take dropped ++ history.drop (dropped + 1)) idx ≤
      messageBlocksAfterIndex history (if idx < dropped then idx else idx + 1) := by
  have taken : (history.take dropped).length = dropped := by
    rw [List.length_take]
    omega
  refine List.Sublist.countP_le ?_
  split
  · next before =>
      have whole : history.drop (idx + 1) =
          (history.take dropped).drop (idx + 1) ++ history.drop dropped := by
        conv_lhs => rw [← List.take_append_drop dropped history]
        exact List.drop_append_of_le_length (by omega)
      rw [whole, List.drop_append_of_le_length (by omega)]
      exact (List.drop_sublist_drop_left history (Nat.le_succ dropped)).append_left _
  · next after =>
      rw [List.drop_append, List.drop_eq_nil_of_le (by omega), List.nil_append, List.drop_drop,
        taken]
      exact List.drop_sublist_drop_left history (by omega)

/-- Dropping an item leaves nothing to unload if there was nothing. -/
theorem NothingToUnload.dropped {dropped : Nat}
    (nothing : NothingToUnload env restored guardMessages protectedPrefix history)
    (found : findDroppableIndex history protectedPrefix = some dropped) :
    NothingToUnload env restored guardMessages protectedPrefix
      (history.take dropped ++ history.drop (dropped + 1)) := by
  obtain ⟨late, early⟩ := findDroppableIndex_some found
  intro idx unprotected item isItem segment member
  obtain ⟨after, before⟩ := mem_unprotectedIndices.mp unprotected
  have turn := latestTurnSuffixLength_dropped early
  have origin : history[if idx < dropped then idx else idx + 1]? = some item := by
    rw [← isItem, ← List.eraseIdx_eq_take_drop_succ, List.getElem?_eraseIdx]
    split <;> rfl
  refine unloads_of_fewer (messageBlocksAfterIndex_dropped (by omega) idx)
    (nothing _ (mem_unprotectedIndices.mpr ?_) item origin segment member)
  simp only [List.length_append, List.length_take, List.length_drop] at before
  split <;> omega

/-- A prompt that fits is not cut. -/
theorem dropLoop_of_fits {payload : BeforeLlmCallHookPayload}
    (fits : countRebuiltPrompt env payload history ≤ tokenBudget) :
    dropLoop env payload protectedPrefix tokenBudget history = history := by
  rw [dropLoop, if_neg]
  exact fun long => Int.not_lt.mpr fits long.2

/-- After both loops the prompt fits, or only placeholders without images to unload are left
between the protected ends. -/
theorem loops_exhaust {payload : BeforeLlmCallHookPayload} {unloaded : List ChatHistoryItem}
    (ran : unloadLoop env payload protectedPrefix guardMessages tokenBudget history records =
      .ok (unloaded, stored)) :
    countRebuiltPrompt env payload
        (dropLoop env payload protectedPrefix tokenBudget unloaded) ≤ tokenBudget ∨
      NothingToUnload env (restoredSegmentFingerprints env stored) guardMessages protectedPrefix
          (dropLoop env payload protectedPrefix tokenBudget unloaded) ∧
        findDroppableIndex (dropLoop env payload protectedPrefix tokenBudget unloaded)
          protectedPrefix = none := by
  rcases (unloadLoop_rule (motive := fun _ _ => True) (fun _ _ _ _ _ _ => trivial) trivial ran).2
    with fits | ended
  · rw [dropLoop_of_fits fits]
    exact .inl fits
  · obtain ⟨nothing, left⟩ := dropLoop_rule env payload tokenBudget
      (fun _ _ => NothingToUnload.dropped) (nothingToUnload_of_none ended)
    exact left.imp_right fun none_left => ⟨nothing, none_left⟩

/-- An item is a placeholder without images that could be unloaded. -/
def Exhausted (env : CompressionEnv) (restored : List String) (guardMessages : Int)
    (history : List ChatHistoryItem) (idx : Nat) (item : ChatHistoryItem) : Prop :=
  item.isPlaceholder = true ∧ ∀ segment ∈ item.contentSegments,
    unloads env restored (messageBlocksAfterIndex history idx) guardMessages segment = false

/-- With a positive budget, the hook hands on a prompt that fits, or a history of which all
unprotected items are placeholders without images that could be unloaded. -/
theorem compression_exhausts {config : CompressionConfig} {contextBudget : Option Int}
    {payload : BeforeLlmCallHookPayload} {output : HookStageOutput BeforeLlmCallHookPayload}
    (positive : 0 < tokenBudgetOf payload.tokenBudget contextBudget)
    (ran : executeHook env config contextBudget payload records = .ok (output, stored)) :
    ∃ patched, output.patchedPayload = some patched ∧
      (countPromptTokens env patched.turn.llmMessages patched ≤
          tokenBudgetOf payload.tokenBudget contextBudget ∨
        ∀ idx ∈ unprotectedIndices patched.turn.historyItems
            (subSessionPrefixEnd payload.turn.isSubSession patched.turn.historyItems),
          ∀ item, patched.turn.historyItems[idx]? = some item →
            Exhausted env (restoredSegmentFingerprints env stored)
              config.reloadedImageGuardMessages patched.turn.historyItems idx item) := by
  obtain ⟨_, handed, protects⟩ := executeHook_protects ran
  have recent := (truncated_protects env config payload.turn.isSubSession
    payload.turn.historyItems).recent config
  unfold executeHook at ran
  dsimp only at ran
  rw [if_neg (Int.not_le.mpr positive), recent.prefixEnd] at ran
  split at ran
  · next fits =>
      cases ran
      exact ⟨payload, rfl, .inl fits⟩
  · split at ran
    · next fits =>
        cases ran
        exact ⟨_, rfl, .inl fits⟩
    · split at ran
      · next fits =>
          cases ran
          exact ⟨_, rfl, .inl fits⟩
      · split at ran
        · cases ran
        · next unloaded stored' unloading =>
            cases ran
            cases handed
            refine ⟨_, rfl, (loops_exhaust unloading).imp_right ?_⟩
            rintro ⟨nothing, none_left⟩ idx unprotected item found
            rw [protects.prefixEnd] at unprotected
            refine ⟨?_, nothing idx unprotected item found⟩
            obtain ⟨after, before⟩ := mem_unprotectedIndices.mp unprotected
            exact findDroppableIndex_none none_left idx item after before found

/-- The reports of the example are dropped until the prompt fits. -/
theorem compression_exhausts_reports :
    ∃ patched, (buildOutput (samplePayload sampleHistory)
        [plainBlock .user "sort the files", plainBlock .user "done?"]).patchedPayload =
          some patched ∧
      (countPromptTokens sampleEnv patched.turn.llmMessages patched ≤ 3 ∨
        ∀ idx ∈ unprotectedIndices patched.turn.historyItems
            (subSessionPrefixEnd true patched.turn.historyItems),
          ∀ item, patched.turn.historyItems[idx]? = some item →
            Exhausted sampleEnv (restoredSegmentFingerprints sampleEnv []) 6
              patched.turn.historyItems idx item) :=
  compression_exhausts (by decide) executeHook_reports

end FairyClaw
