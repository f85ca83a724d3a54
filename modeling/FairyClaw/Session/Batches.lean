import FairyClaw.Session.GlobalState

/-! # Batches of subtasks

Running records are in the current batch, so every earlier batch is closed for
good (`FairyClaw.SessionSubTaskState.BatchInvariant`). Once the current batch is
closed, an operation either leaves its records and its emission mark alone or
opens the next batch (`FairyClaw.SessionSubTaskState.perform_of_closed`).
-/

namespace FairyClaw.SessionSubTaskState

open Foundation

variable {state next : SessionSubTaskState} {op : SubtaskOp}

/-- Records have distinct identifiers, batches count up to the current one, and
earlier batches hold terminal records only. -/
structure BatchInvariant (state : SessionSubTaskState) : Prop where
  unique : (state.records.map SubTaskRecord.subSessionId).Nodup
  batchLe : ∀ record ∈ state.records, record.batchId ≤ state.currentBatchId
  olderTerminal : ∀ record ∈ state.records, record.batchId < state.currentBatchId →
    isTerminalStatus record.status = true
  emittedLe : ∀ batch ∈ state.emittedBatchIds, batch ≤ state.currentBatchId

/-- The batches are in order at the start. -/
theorem batchInvariant_empty : BatchInvariant {} :=
  ⟨List.nodup_nil, nofun, nofun, fun _ member => absurd member (Finset.notMem_empty _)⟩

/-- The opened batch follows a closed current batch, or is the current one. -/
theorem openedBatch_cases (state : SessionSubTaskState) :
    (state.allTerminal state.currentBatchId = true ∧
      state.openedBatch = state.currentBatchId + 1) ∨
    (state.allTerminal state.currentBatchId = false ∧
      state.openedBatch = state.currentBatchId) := by
  unfold openedBatch
  by_cases closed : state.allTerminal state.currentBatchId = true
  · exact Or.inl ⟨closed, if_pos closed⟩
  · exact Or.inr ⟨Bool.not_eq_true _ ▸ closed, if_neg closed⟩

/-- A new task opens no earlier batch. -/
theorem currentBatchId_le_openedBatch (state : SessionSubTaskState) :
    state.currentBatchId ≤ state.openedBatch := by
  rcases state.openedBatch_cases with ⟨_, opened⟩ | ⟨_, opened⟩ <;> omega

/-- Before the opened batch every record is terminal. -/
theorem BatchInvariant.terminal_of_lt_opened (invariant : state.BatchInvariant)
    {record : SubTaskRecord} (member : record ∈ state.records)
    (earlier : record.batchId < state.openedBatch) : isTerminalStatus record.status = true := by
  by_cases older : record.batchId < state.currentBatchId
  · exact invariant.olderTerminal record member older
  · have bounded := invariant.batchLe record member
    rcases state.openedBatch_cases with ⟨closed, opened⟩ | ⟨_, opened⟩
    · exact (allTerminal_iff.mp closed).2 record member (by omega)
    · omega

/-- Changes in place keep the identifiers distinct. -/
theorem BatchInvariant.unique_modifyRecord (invariant : state.BatchInvariant)
    (subSessionId : String) {change : SubTaskRecord → SubTaskRecord}
    (kept : ∀ record, (change record).subSessionId = record.subSessionId) :
    ((state.modifyRecord subSessionId change).map SubTaskRecord.subSessionId).Nodup := by
  have same : (state.modifyRecord subSessionId change).map SubTaskRecord.subSessionId =
      state.records.map SubTaskRecord.subSessionId := by
    rw [modifyRecord, List.map_map]
    refine List.map_congr_left fun record _ => ?_
    simp only [Function.comp_apply]
    split
    · exact kept record
    · rfl
  rw [same]
  exact invariant.unique

/-- A record after a change in place was there before, changed or not. -/
theorem mem_modifyRecord {subSessionId : String} {change : SubTaskRecord → SubTaskRecord}
    {record : SubTaskRecord} (member : record ∈ state.modifyRecord subSessionId change) :
    (record ∈ state.records ∧ record.subSessionId ≠ subSessionId) ∨
      ∃ old ∈ state.records, old.subSessionId = subSessionId ∧ record = change old := by
  obtain ⟨old, present, rfl⟩ := List.mem_map.mp member
  by_cases same : old.subSessionId = subSessionId
  · exact Or.inr ⟨old, present, same, if_pos same⟩
  · rw [if_neg same]
    exact Or.inl ⟨present, same⟩

/-- With distinct identifiers, the record of a task is the only one with its
identifier. -/
theorem BatchInvariant.eq_of_getRecord (invariant : state.BatchInvariant) {subSessionId : String}
    {record other : SubTaskRecord} (stored : state.getRecord subSessionId = some record)
    (member : other ∈ state.records) (same : other.subSessionId = subSessionId) :
    other = record := by
  obtain ⟨present, own⟩ := getRecord_eq_some stored
  exact List.inj_on_of_nodup_map invariant.unique member present (same.trans own.symm)

/-- Every operation keeps the batches in order. -/
theorem BatchInvariant.perform (invariant : state.BatchInvariant)
    (performed : state.perform op = some next) : next.BatchInvariant := by
  have effect := perform_cases performed
  have ordered := state.currentBatchId_le_openedBatch
  have emittedOrdered (batch : Nat) (member : batch ∈ state.emittedBatchIds.erase
      state.openedBatch) : batch ≤ state.openedBatch :=
    (invariant.emittedLe batch (Finset.mem_of_mem_erase member)).trans ordered
  cases op with
  | delegate subSessionId taskType =>
      obtain ⟨fresh, rfl⟩ := effect
      refine ⟨?_, ?_, ?_, emittedOrdered⟩
      · rw [List.map_append, List.map_singleton, List.nodup_append]
        refine ⟨invariant.unique, List.nodup_singleton _, ?_⟩
        intro old present new added
        obtain ⟨record, member, rfl⟩ := List.mem_map.mp present
        rw [List.mem_singleton.mp added]
        exact getRecord_eq_none.mp fresh record member
      · intro record member
        rcases List.mem_append.mp member with present | added
        · exact (invariant.batchLe record present).trans ordered
        · rw [List.mem_singleton.mp added]
      · intro record member earlier
        rcases List.mem_append.mp member with present | added
        · exact invariant.terminal_of_lt_opened present earlier
        · rw [List.mem_singleton.mp added] at earlier
          exact absurd earlier (Nat.lt_irrefl _)
  | mark subSessionId status summary =>
      rcases effect with rfl | ⟨record, stored, running, rfl⟩
      · exact invariant
      · refine ⟨invariant.unique_modifyRecord subSessionId fun _ => rfl, ?_, ?_,
          invariant.emittedLe⟩
        · intro changed member
          rcases mem_modifyRecord member with ⟨present, _⟩ | ⟨old, present, _, rfl⟩
          · exact invariant.batchLe changed present
          · exact invariant.batchLe old present
        · intro changed member earlier
          rcases mem_modifyRecord member with ⟨present, _⟩ | ⟨old, present, _, rfl⟩
          · exact invariant.olderTerminal changed present earlier
          · simp only [normalizedTerminal_terminal]
  | message subSessionId taskType =>
      rcases effect with rfl | ⟨record, stored, ended, rfl⟩ | ⟨record, stored, running, rfl⟩
      · exact invariant
      · refine ⟨invariant.unique_modifyRecord subSessionId fun _ => rfl, ?_, ?_, emittedOrdered⟩
        · intro changed member
          rcases mem_modifyRecord member with ⟨present, _⟩ | ⟨old, _, _, rfl⟩
          · exact (invariant.batchLe changed present).trans ordered
          · exact Nat.le_refl _
        · intro changed member earlier
          rcases mem_modifyRecord member with ⟨present, _⟩ | ⟨old, _, _, rfl⟩
          · exact invariant.terminal_of_lt_opened present earlier
          · exact absurd earlier (Nat.lt_irrefl _)
      · refine ⟨invariant.unique_modifyRecord subSessionId fun _ => rfl, ?_, ?_, ?_⟩
        · intro changed member
          rcases mem_modifyRecord member with ⟨present, _⟩ | ⟨old, present, _, rfl⟩
          · exact invariant.batchLe changed present
          · exact invariant.batchLe old present
        · intro changed member earlier
          rcases mem_modifyRecord member with ⟨present, _⟩ | ⟨old, present, same, rfl⟩
          · exact invariant.olderTerminal changed present earlier
          · have ended := invariant.olderTerminal old present earlier
            rw [invariant.eq_of_getRecord stored present same, running] at ended
            cases ended
        · intro batch member
          exact invariant.emittedLe batch (Finset.mem_of_mem_erase member)
  | emitted =>
      cases effect
      refine ⟨invariant.unique, invariant.batchLe, invariant.olderTerminal, ?_⟩
      intro batch member
      rcases Finset.mem_insert.mp member with rfl | earlier
      · exact Nat.le_refl _
      · exact invariant.emittedLe batch earlier
  | immediateFailure subSessionId =>
      rcases effect with rfl | rfl
      · exact invariant
      · exact ⟨invariant.unique, invariant.batchLe, invariant.olderTerminal, invariant.emittedLe⟩

/-- The current batch moves on by one, and only once it is closed. -/
theorem perform_currentBatchId (performed : state.perform op = some next) :
    next.currentBatchId = state.currentBatchId ∨
      (state.isAllSubtasksTerminal = true ∧
        next.currentBatchId = state.currentBatchId + 1) := by
  have effect := perform_cases performed
  have opened : state.openedBatch = state.currentBatchId ∨
      (state.isAllSubtasksTerminal = true ∧ state.openedBatch = state.currentBatchId + 1) := by
    rcases state.openedBatch_cases with moved | ⟨_, same⟩
    · exact Or.inr moved
    · exact Or.inl same
  cases op with
  | delegate =>
      obtain ⟨_, rfl⟩ := effect
      exact opened
  | mark => rcases effect with rfl | ⟨_, _, _, rfl⟩ <;> exact Or.inl rfl
  | message =>
      rcases effect with rfl | ⟨_, _, _, rfl⟩ | ⟨_, _, _, rfl⟩
      · exact Or.inl rfl
      · exact opened
      · exact Or.inl rfl
  | emitted =>
      cases effect
      exact Or.inl rfl
  | immediateFailure => rcases effect with rfl | rfl <;> exact Or.inl rfl

/-- Whether the current batch is closed depends on the records and its number. -/
theorem isAllSubtasksTerminal_congr (records : next.records = state.records)
    (batch : next.currentBatchId = state.currentBatchId) :
    next.isAllSubtasksTerminal = state.isAllSubtasksTerminal := by
  unfold isAllSubtasksTerminal allTerminal listRecords
  rw [records, batch]

/-- Once the current batch is closed, every record is terminal. -/
theorem BatchInvariant.terminal_of_closed (invariant : state.BatchInvariant)
    (closed : state.isAllSubtasksTerminal = true) {record : SubTaskRecord}
    (member : record ∈ state.records) : isTerminalStatus record.status = true := by
  have opened : state.openedBatch = state.currentBatchId + 1 := if_pos closed
  have bounded := invariant.batchLe record member
  exact invariant.terminal_of_lt_opened member (by omega)

/-- Once the current batch is closed, an operation opens the next batch or
leaves the records and the emission marks alone. -/
theorem BatchInvariant.perform_of_closed (invariant : state.BatchInvariant)
    (closed : state.isAllSubtasksTerminal = true) (performed : state.perform op = some next) :
    next.currentBatchId = state.currentBatchId + 1 ∨
      (next.currentBatchId = state.currentBatchId ∧ next.records = state.records ∧
        state.emittedBatchIds ⊆ next.emittedBatchIds) := by
  have effect := perform_cases performed
  have opened : state.openedBatch = state.currentBatchId + 1 := if_pos closed
  have none_running {subSessionId : String} {record : SubTaskRecord}
      (stored : state.getRecord subSessionId = some record) :
      isTerminalStatus record.status ≠ false := by
    rw [invariant.terminal_of_closed closed (getRecord_eq_some stored).1]
    exact Bool.true_eq_false.mp
  cases op with
  | delegate =>
      obtain ⟨_, rfl⟩ := effect
      exact Or.inl opened
  | mark =>
      rcases effect with rfl | ⟨_, stored, running, _⟩
      · exact Or.inr ⟨rfl, rfl, Finset.Subset.refl _⟩
      · exact (none_running stored running).elim
  | message =>
      rcases effect with rfl | ⟨_, _, _, rfl⟩ | ⟨_, stored, running, _⟩
      · exact Or.inr ⟨rfl, rfl, Finset.Subset.refl _⟩
      · exact Or.inl opened
      · exact (none_running stored running).elim
  | emitted =>
      cases effect
      exact Or.inr ⟨rfl, rfl, Finset.subset_insert ..⟩
  | immediateFailure =>
      rcases effect with rfl | rfl <;> exact Or.inr ⟨rfl, rfl, Finset.Subset.refl _⟩

/-- Only the emission mark adds an emitted batch, the current one. -/
theorem perform_emittedBatchIds (performed : state.perform op = some next) :
    next.emittedBatchIds ⊆ state.emittedBatchIds ∨
      (op = .emitted ∧ next = state.markAggregationEmitted) := by
  have effect := perform_cases performed
  cases op with
  | delegate =>
      obtain ⟨_, rfl⟩ := effect
      exact Or.inl (Finset.erase_subset ..)
  | mark => rcases effect with rfl | ⟨_, _, _, rfl⟩ <;> exact Or.inl (Finset.Subset.refl _)
  | message =>
      rcases effect with rfl | ⟨_, _, _, rfl⟩ | ⟨_, _, _, rfl⟩
      · exact Or.inl (Finset.Subset.refl _)
      · exact Or.inl (Finset.erase_subset ..)
      · exact Or.inl (Finset.erase_subset ..)
  | emitted => exact Or.inr ⟨rfl, effect⟩
  | immediateFailure => rcases effect with rfl | rfl <;> exact Or.inl (Finset.Subset.refl _)

/-- A running task keeps its batch open. -/
theorem not_isAllSubtasksTerminal_of_running {record : SubTaskRecord}
    (member : record ∈ state.records) (current : record.batchId = state.currentBatchId)
    (running : isTerminalStatus record.status = false) :
    state.isAllSubtasksTerminal = false := by
  rw [← Bool.not_eq_true]
  intro closed
  rw [(allTerminal_iff.mp closed).2 record member current] at running
  cases running

/-- A record that is not terminal is in the current batch. -/
theorem BatchInvariant.current_of_running (invariant : state.BatchInvariant)
    {record : SubTaskRecord} (member : record ∈ state.records)
    (running : isTerminalStatus record.status = false) :
    record.batchId = state.currentBatchId := by
  have bounded := invariant.batchLe record member
  by_contra different
  rw [invariant.olderTerminal record member (by omega)] at running
  cases running

/-- A delegated task keeps its batch open. -/
theorem delegate_not_isAllSubtasksTerminal {subSessionId taskType : String}
    (performed : state.perform (.delegate subSessionId taskType) = some next) :
    next.isAllSubtasksTerminal = false := by
  obtain ⟨_, rfl⟩ := perform_cases performed
  exact not_isAllSubtasksTerminal_of_running (List.mem_append_right _ List.mem_cons_self) rfl
    (runningStatus_running taskType)

/-- A message to a known task leaves it running in the current batch. -/
theorem BatchInvariant.message_not_isAllSubtasksTerminal (invariant : state.BatchInvariant)
    {subSessionId taskType : String}
    (performed : state.perform (.message subSessionId taskType) = some next) :
    next = state ∨ next.isAllSubtasksTerminal = false := by
  have changed {change : SubTaskRecord → SubTaskRecord} {record : SubTaskRecord}
      (stored : state.getRecord subSessionId = some record) :
      change record ∈ state.modifyRecord subSessionId change := by
    obtain ⟨member, own⟩ := getRecord_eq_some stored
    exact List.mem_map.mpr ⟨record, member, if_pos own⟩
  rcases perform_cases performed with rfl | ⟨record, stored, ended, rfl⟩ |
    ⟨record, stored, running, rfl⟩
  · exact Or.inl rfl
  · refine Or.inr (not_isAllSubtasksTerminal_of_running (changed stored) rfl ?_)
    exact runningStatus_running taskType
  · have current := invariant.current_of_running (getRecord_eq_some stored).1 running
    refine Or.inr (not_isAllSubtasksTerminal_of_running (changed stored) current ?_)
    exact runningStatus_running taskType

/-- A message to a known task opens a batch over a closed one. -/
theorem BatchInvariant.message_opens (invariant : state.BatchInvariant)
    (closed : state.isAllSubtasksTerminal = true) {subSessionId taskType : String}
    (known : (state.getRecord subSessionId).isSome = true)
    (performed : state.perform (.message subSessionId taskType) = some next) :
    next.currentBatchId = state.currentBatchId + 1 := by
  have result : state.messageTask subSessionId taskType = next := Option.some.inj performed
  rcases state.messageTask_cases subSessionId taskType with
    ⟨missing, _⟩ | ⟨_, _, _, reopened⟩ | ⟨record, stored, running, _⟩
  · rw [missing] at known
    cases known
  · rw [← result, reopened]
    exact if_pos closed
  · rw [invariant.terminal_of_closed closed (getRecord_eq_some stored).1] at running
    cases running

/-- A mark keeps the current batch. -/
theorem mark_currentBatchId {subSessionId status summary : String}
    (performed : state.perform (.mark subSessionId status summary) = some next) :
    next.currentBatchId = state.currentBatchId := by
  rcases perform_cases performed with rfl | ⟨_, _, _, rfl⟩ <;> rfl

end FairyClaw.SessionSubTaskState
