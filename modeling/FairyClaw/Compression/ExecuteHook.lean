import FairyClaw.Compression.ContextCompression

/-! # Running the context compression hook

The hook hands the payload on unchanged when the prompt fits, and otherwise compresses
the history stage by stage until it does. The loop that unloads images ends because
every step leaves fewer images (`FairyClaw.imageCount_unloadOldest`), the loop that
drops items because every step leaves fewer items.
-/

namespace FairyClaw

open Foundation

variable {env : CompressionEnv} {historyItems next : List ChatHistoryItem}
  {protectedPrefix : Nat} {guardMessages : Int} {records stored : List JsonObject}

/-- Every unloading step leaves fewer images. -/
theorem imageCount_unloadOldest
    (stepped : unloadOldestImageMessage env historyItems protectedPrefix guardMessages records =
      .ok (some (next, stored))) :
    imageCount next < imageCount historyItems := by
  unfold unloadOldestImageMessage at stepped
  split at stepped
  · cases stepped
  · split at stepped
    · cases stepped
    · obtain ⟨idx, item, block, _, found, replaced, rfl⟩ := unloadAt_some stepped
      exact imageCount_set found (images_lt_of_replaced replaced)

/-- The indices between the protected ends. -/
theorem mem_unprotectedIndices {idx : Nat} :
    idx ∈ unprotectedIndices historyItems protectedPrefix ↔
      protectedPrefix ≤ idx ∧ idx < historyItems.length - latestTurnSuffixLength historyItems := by
  rw [unprotectedIndices, List.mem_range'_1]
  omega

/-- An item that is dropped lies between the protected ends and is no placeholder. -/
theorem findDroppableIndex_some {idx : Nat}
    (found : findDroppableIndex historyItems protectedPrefix = some idx) :
    protectedPrefix ≤ idx ∧ idx < historyItems.length - latestTurnSuffixLength historyItems :=
  mem_unprotectedIndices.mp (List.mem_of_find?_eq_some found)

/-- Without an item to drop, all items between the protected ends are placeholders. -/
theorem findDroppableIndex_none (ended : findDroppableIndex historyItems protectedPrefix = none) :
    ∀ idx item, protectedPrefix ≤ idx →
      idx < historyItems.length - latestTurnSuffixLength historyItems →
      historyItems[idx]? = some item → item.isPlaceholder = true := by
  intro idx item after before found
  have kept := List.find?_eq_none.mp ended idx (mem_unprotectedIndices.mpr ⟨after, before⟩)
  simpa [found] using kept

/-- The loop that unloads images while the prompt is too long. -/
def unloadLoop (env : CompressionEnv) (payload : BeforeLlmCallHookPayload)
    (protectedPrefix : Nat) (guardMessages tokenBudget : Int)
    (historyItems : List ChatHistoryItem) (records : List JsonObject) :
    Except PyError (List ChatHistoryItem × List JsonObject) :=
  if countRebuiltPrompt env payload historyItems ≤ tokenBudget then .ok (historyItems, records)
  else
    match _ : unloadOldestImageMessage env historyItems protectedPrefix guardMessages
      records with
    | .error error => .error error
    | .ok none => .ok (historyItems, records)
    | .ok (some (next, stored)) =>
        unloadLoop env payload protectedPrefix guardMessages tokenBudget next stored
termination_by imageCount historyItems
decreasing_by exact imageCount_unloadOldest ‹_›

/-- The loop that drops items while the prompt is too long. -/
def dropLoop (env : CompressionEnv) (payload : BeforeLlmCallHookPayload)
    (protectedPrefix : Nat) (tokenBudget : Int) (historyItems : List ChatHistoryItem) :
    List ChatHistoryItem :=
  if protectedPrefix + latestTurnSuffixLength historyItems < historyItems.length ∧
      tokenBudget < countRebuiltPrompt env payload historyItems then
    match _ : findDroppableIndex historyItems protectedPrefix with
    | none => historyItems
    | some idx =>
        dropLoop env payload protectedPrefix tokenBudget
          (historyItems.take idx ++ historyItems.drop (idx + 1))
  else historyItems
termination_by historyItems.length
decreasing_by
  have inside := (findDroppableIndex_some ‹_›).2
  simp only [List.length_append, List.length_take, List.length_drop]
  omega

section Loops

variable {payload : BeforeLlmCallHookPayload} {tokenBudget : Int}

/-- What unloading steps preserve holds after the loop, and then the prompt fits or no
message has images to unload. -/
theorem unloadLoop_rule {motive : List ChatHistoryItem → List JsonObject → Prop}
    (preserved : ∀ history records next stored, motive history records →
      unloadOldestImageMessage env history protectedPrefix guardMessages records =
        .ok (some (next, stored)) → motive next stored)
    {unloaded : List ChatHistoryItem}
    (initial : motive historyItems records)
    (ran : unloadLoop env payload protectedPrefix guardMessages tokenBudget historyItems records =
      .ok (unloaded, stored)) :
    motive unloaded stored ∧
      (countRebuiltPrompt env payload unloaded ≤ tokenBudget ∨
        unloadOldestImageMessage env unloaded protectedPrefix guardMessages stored = .ok none) := by
  induction historyItems, records using unloadLoop.induct env payload protectedPrefix guardMessages
      tokenBudget with
  | case1 history records fits =>
      rw [unloadLoop, if_pos fits] at ran
      cases ran
      exact ⟨initial, .inl fits⟩
  | case2 history records long error failed =>
      rw [unloadLoop, if_neg long] at ran
      split at ran
      · cases ran
      · next ended => cases failed.symm.trans ended
      · next stepped => cases failed.symm.trans stepped
  | case3 history records long ended =>
      rw [unloadLoop, if_neg long] at ran
      split at ran
      · cases ran
      · cases ran
        exact ⟨initial, .inr ended⟩
      · next stepped => cases ended.symm.trans stepped
  | case4 history records long next updated stepped ih =>
      rw [unloadLoop, if_neg long] at ran
      split at ran
      · cases ran
      · next ended => cases ended.symm.trans stepped
      · next again =>
          cases stepped.symm.trans again
          exact ih (preserved _ _ _ _ initial stepped) ran

/-- What dropping steps preserve holds after the loop, and then the prompt fits, or only the
protected ends are left, or every other item is a placeholder. -/
theorem dropLoop_rule (env : CompressionEnv) (payload : BeforeLlmCallHookPayload)
    (tokenBudget : Int) {motive : List ChatHistoryItem → Prop}
    (preserved : ∀ history idx, motive history →
      findDroppableIndex history protectedPrefix = some idx →
        motive (history.take idx ++ history.drop (idx + 1)))
    (initial : motive historyItems) :
    motive (dropLoop env payload protectedPrefix tokenBudget historyItems) ∧
      (countRebuiltPrompt env payload
          (dropLoop env payload protectedPrefix tokenBudget historyItems) ≤ tokenBudget ∨
        findDroppableIndex (dropLoop env payload protectedPrefix tokenBudget historyItems)
          protectedPrefix = none) := by
  induction historyItems using dropLoop.induct env payload protectedPrefix tokenBudget with
  | case1 history long ended =>
      have stops : dropLoop env payload protectedPrefix tokenBudget history = history := by
        rw [dropLoop, if_pos long]
        split
        · rfl
        · next found => cases ended.symm.trans found
      rw [stops]
      exact ⟨initial, .inr ended⟩
  | case2 history long idx found ih =>
      have steps : dropLoop env payload protectedPrefix tokenBudget history =
          dropLoop env payload protectedPrefix tokenBudget
            (history.take idx ++ history.drop (idx + 1)) := by
        conv_lhs => rw [dropLoop, if_pos long]
        split
        · next ended => cases found.symm.trans ended
        · next again =>
            cases found.symm.trans again
            rfl
      rw [steps]
      exact ih (preserved _ _ initial found)
  | case3 history short =>
      have stops : dropLoop env payload protectedPrefix tokenBudget history = history := by
        rw [dropLoop, if_neg short]
      rw [stops]
      refine ⟨initial, ?_⟩
      rcases Nat.lt_or_ge (protectedPrefix + latestTurnSuffixLength history) history.length with
        more | all
      · exact .inl (Int.not_lt.mp fun long => short ⟨more, long⟩)
      · refine .inr (List.find?_eq_none.mpr fun idx member => ?_)
        have bounds := mem_unprotectedIndices.mp member
        omega

end Loops

/-- The history after the recent window, with the beginning of a sub-session put back. -/
def recentHistory (isSubSession : Bool) (config : CompressionConfig)
    (beforeRecent : List ChatHistoryItem) : List ChatHistoryItem :=
  let (kept, tailStart) := keepRecentHistory beforeRecent config.recencyWindow
  if isSubSession then
    let prefixEnd := firstUserMessageExclusiveEnd beforeRecent
    if 0 < prefixEnd then
      beforeRecent.take prefixEnd ++ beforeRecent.drop (max prefixEnd tailStart)
    else kept
  else kept

/-- The end of the history that a sub-session protects at its beginning. -/
def subSessionPrefixEnd (isSubSession : Bool) (historyItems : List ChatHistoryItem) : Nat :=
  if isSubSession then firstUserMessageExclusiveEnd historyItems else 0

/-- `payload.token_budget or context.token_budget or 0` -/
def tokenBudgetOf (payloadBudget contextBudget : Option Int) : Int :=
  let own := payloadBudget.getD 0
  if own ≠ 0 then own else contextBudget.getD 0

/-- `execute_hook`: what is handed on, and the records stored afterwards. -/
def executeHook (env : CompressionEnv) (config : CompressionConfig) (contextBudget : Option Int)
    (payload : BeforeLlmCallHookPayload) (records : List JsonObject) :
    Except PyError (HookStageOutput BeforeLlmCallHookPayload × List JsonObject) :=
  let tokenBudget := tokenBudgetOf payload.tokenBudget contextBudget
  let skip := { status := .skip, patchedPayload := some payload }
  if tokenBudget ≤ 0 then .ok (skip, records)
  else if countPromptTokens env payload.turn.llmMessages payload ≤ tokenBudget then
    .ok (skip, records)
  else
    let isSubSession := payload.turn.isSubSession
    let truncated := truncateLargeItems env config payload.turn.historyItems
      (subSessionPrefixEnd isSubSession payload.turn.historyItems)
    if countRebuiltPrompt env payload truncated ≤ tokenBudget then
      .ok (buildOutput payload truncated, records)
    else
      let recent := recentHistory isSubSession config truncated
      if countRebuiltPrompt env payload recent ≤ tokenBudget then
        .ok (buildOutput payload recent, records)
      else
        let subPrefix := subSessionPrefixEnd isSubSession recent
        match unloadLoop env payload subPrefix config.reloadedImageGuardMessages tokenBudget
          recent records with
        | .error error => .error error
        | .ok (unloaded, stored) =>
            .ok (buildOutput payload (dropLoop env payload subPrefix tokenBudget unloaded), stored)

end FairyClaw
