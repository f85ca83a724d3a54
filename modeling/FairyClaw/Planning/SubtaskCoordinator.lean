import FairyClaw.Foundation.Machine
import FairyClaw.Session.Batches

/-! # The aggregated subtask barrier

When the last running record of the current batch becomes terminal,
`publish_subtask_barrier_if_ready` writes one message to the main session and
publishes one event with the counters of the batch. The message lists the
records with a summary and skips the others, so it covers the batch exactly when
every record has one (`FairyClaw.SessionSubTaskState.barrierComplete_iff`).
-/

namespace FairyClaw

open Foundation

/-- The counters of a batch and its summaries by task. -/
structure AggregatedResults where
  total : Nat
  completed : Nat
  failed : Nat
  cancelled : Nat
  summaries : List (String × String)
  deriving DecidableEq, Repr

/-- The part of the barrier message about one task. -/
structure BarrierBlock where
  subSessionId : String
  status : String
  payload : String
  deriving DecidableEq, Repr

/-- A block as the barrier message shows it. -/
def BarrierBlock.text (block : BarrierBlock) : String :=
  "Sub-agent (" ++ block.subSessionId ++ ") [" ++ block.status ++ "]:\n" ++ block.payload

/-- What one barrier writes and publishes. -/
structure SubtaskBarrier where
  blocks : List BarrierBlock
  aggregated : AggregatedResults
  deriving DecidableEq, Repr

/-- `SYSTEM_NOTIFICATION_COMPLETED_PREFIX` -/
def systemNotificationCompletedPrefix : String :=
  "[System Notification] Background tasks completed:\n\n"

/-- The message written to the history of the main session. -/
def SubtaskBarrier.message (barrier : SubtaskBarrier) : String :=
  systemNotificationCompletedPrefix ++
    String.intercalate "\n\n---\n\n" (barrier.blocks.map BarrierBlock.text)

namespace SessionSubTaskState

variable {state next : SessionSubTaskState}

/-- `get_aggregated_subtask_results` of the current batch. -/
def getAggregatedSubtaskResults (state : SessionSubTaskState) : AggregatedResults :=
  let records := state.listRecords state.currentBatchId
  { total := records.length
    completed := records.countP fun record => record.status = "completed"
    failed := records.countP fun record => record.status = "failed"
    cancelled := records.countP fun record => record.status = "cancelled"
    summaries := records.map fun record => (record.subSessionId, record.summary) }

/-- The blocks of the barrier message, in the order of the records. A record
without a summary has none. -/
def barrierBlocks (state : SessionSubTaskState) : List BarrierBlock :=
  let summaries := state.getAggregatedSubtaskResults.summaries
  state.getCurrentBatchRecords.filterMap fun record =>
    match summaries.lookup record.subSessionId with
    | none => none
    | some payload =>
        if payload = "" then none
        else some
          { subSessionId := record.subSessionId, status := record.status, payload := payload }

/-- The barrier that `publish_subtask_barrier_if_ready` writes and publishes
when called in this state, unless it returns at once. -/
def barrierIfReady (state : SessionSubTaskState) : Option SubtaskBarrier :=
  if !state.isAllSubtasksTerminal then none
  else if state.hasAggregationEmitted then none
  else if state.barrierBlocks.isEmpty then none
  else some
    { blocks := state.barrierBlocks, aggregated := state.getAggregatedSubtaskResults }

/-- The operations on the subtasks of one main session. -/
def subtaskMachine : Machine SessionSubTaskState SubtaskOp where
  initial := (· = {})
  step := perform

/-- The emission mark is placed where a barrier has been published. -/
def sequential : Machine.Guard SessionSubTaskState SubtaskOp :=
  fun state op => op = .emitted → state.barrierIfReady.isSome

instance : DecidableRel sequential := fun state op =>
  inferInstanceAs (Decidable (op = .emitted → state.barrierIfReady.isSome = true))

/-- The published barrier names every record of the current batch once, in
order and with its status, and its counters add up to the batch. -/
def BarrierComplete (state : SessionSubTaskState) : Prop :=
  ∃ barrier, state.barrierIfReady = some barrier ∧
    barrier.blocks.map (fun block => (block.subSessionId, block.status)) =
      state.getCurrentBatchRecords.map (fun record => (record.subSessionId, record.status)) ∧
    (barrier.blocks.map BarrierBlock.subSessionId).Nodup ∧
    barrier.aggregated.total = state.getCurrentBatchRecords.length ∧
    barrier.aggregated.completed + barrier.aggregated.failed + barrier.aggregated.cancelled =
      barrier.aggregated.total

/-- Every batch that has emitted its barrier is closed. -/
def EmittedClosed (state : SessionSubTaskState) : Prop :=
  state.hasAggregationEmitted = true → state.isAllSubtasksTerminal = true

/-- A barrier is ready only when all tasks are terminal. -/
theorem isAllSubtasksTerminal_of_barrierIfReady (ready : state.barrierIfReady.isSome = true) :
    state.isAllSubtasksTerminal = true := by
  unfold barrierIfReady at ready
  split at ready
  · cases ready
  · rename_i closed
    simpa using closed

/-- A barrier is ready only before it is emitted. -/
theorem hasAggregationEmitted_of_barrierIfReady (ready : state.barrierIfReady.isSome = true) :
    state.hasAggregationEmitted = false := by
  unfold barrierIfReady at ready
  split at ready
  · cases ready
  · split at ready
    · cases ready
    · rename_i fresh
      simpa using fresh

/-- The blocks depend on the records and on the batch. -/
theorem barrierBlocks_congr (records : next.records = state.records)
    (batch : next.currentBatchId = state.currentBatchId) :
    next.barrierBlocks = state.barrierBlocks := by
  unfold barrierBlocks getAggregatedSubtaskResults getCurrentBatchRecords listRecords
  rw [records, batch]

/-- A ready barrier has a block. -/
theorem barrierBlocks_ne_nil_of_barrierIfReady (ready : state.barrierIfReady.isSome = true) :
    state.barrierBlocks ≠ [] := by
  intro empty
  simp [barrierIfReady, empty] at ready

/-- A call that returns at once although the current batch is closed found the
emission mark, or no summary. -/
theorem barrierIfReady_eq_none (none_ready : state.barrierIfReady = none)
    (closed : state.isAllSubtasksTerminal = true) :
    state.hasAggregationEmitted = true ∨ state.barrierBlocks = [] := by
  by_cases emitted : state.hasAggregationEmitted = true
  · exact Or.inl emitted
  · simp only [barrierIfReady, closed, emitted, Bool.not_true, Bool.false_eq_true, ↓reduceIte]
      at none_ready
    split at none_ready
    · exact Or.inr (List.isEmpty_iff.mp ‹_›)
    · cases none_ready

/-- In sequence, an emitted batch is a closed one. -/
theorem EmittedClosed.perform (emission : state.EmittedClosed) (invariant : state.BatchInvariant)
    {op : SubtaskOp} (allowed : sequential state op) (performed : state.perform op = some next) :
    next.EmittedClosed := by
  intro emitted
  have member : next.currentBatchId ∈ next.emittedBatchIds := of_decide_eq_true emitted
  by_cases closed : state.isAllSubtasksTerminal = true
  · rcases invariant.perform_of_closed closed performed with opened | ⟨same, records, _⟩
    · rcases perform_emittedBatchIds performed with fewer | ⟨_, rfl⟩
      · have bounded := invariant.emittedLe _ (fewer member)
        omega
      · exact absurd opened (Nat.succ_ne_self _).symm
    · exact (isAllSubtasksTerminal_congr records same).trans closed
  · have same : next.currentBatchId = state.currentBatchId := by
      rcases perform_currentBatchId performed with same | ⟨ended, _⟩
      · exact same
      · exact (closed ended).elim
    rcases perform_emittedBatchIds performed with fewer | ⟨marks, _⟩
    · rw [same] at member
      exact (closed (emission (decide_eq_true (fewer member)))).elim
    · exact (closed (isAllSubtasksTerminal_of_barrierIfReady (allowed marks))).elim

/-- Along sequential runs the batches stay in order and emitted batches closed. -/
theorem sequential_invariant
    (reached : subtaskMachine.Reachable sequential state) :
    state.BatchInvariant ∧ state.EmittedClosed := by
  apply reached.invariant
  · rintro _ rfl
    exact ⟨batchInvariant_empty, fun emitted => by cases emitted⟩
  · rintro before op after ⟨invariant, emission⟩ allowed performed
    exact ⟨invariant.perform performed, emission.perform invariant allowed performed⟩

/-- A record's own summary is the one listed under its identifier. -/
theorem lookup_summary : ∀ {records : List SubTaskRecord},
    (records.map SubTaskRecord.subSessionId).Nodup → ∀ record ∈ records,
      (records.map fun record => (record.subSessionId, record.summary)).lookup
        record.subSessionId = some record.summary
  | [], _, _, member => by cases member
  | first :: rest, unique, record, member => by
      rw [List.map_cons, List.nodup_cons] at unique
      rcases List.mem_cons.mp member with rfl | later
      · simp only [List.map_cons, List.lookup_cons, BEq.rfl]
      · have different : (record.subSessionId == first.subSessionId) = false := by
          rw [beq_eq_false_iff_ne]
          rintro same
          exact unique.1 (same ▸ List.mem_map_of_mem later)
        rw [List.map_cons, List.lookup_cons, different]
        exact lookup_summary unique.2 record later

/-- The block of a record with a summary. -/
def SubTaskRecord.block (record : SubTaskRecord) : BarrierBlock where
  subSessionId := record.subSessionId
  status := record.status
  payload := record.summary

/-- The message has a block for exactly the records with a summary. -/
theorem BatchInvariant.barrierBlocks_eq (invariant : state.BatchInvariant) :
    state.barrierBlocks = (state.getCurrentBatchRecords.filter fun record =>
      record.summary ≠ "").map SubTaskRecord.block := by
  have unique : (state.getCurrentBatchRecords.map SubTaskRecord.subSessionId).Nodup :=
    invariant.unique.sublist (List.filter_sublist.map _)
  rw [← List.filterMap_eq_map, List.filterMap_filter]
  apply List.filterMap_congr
  intro record member
  have listed := lookup_summary unique record member
  simp only [getAggregatedSubtaskResults]
  unfold getCurrentBatchRecords at listed
  rw [listed]
  by_cases empty : record.summary = ""
  · simp only [empty, ↓reduceIte, ne_eq, not_true_eq_false, decide_false, Bool.false_eq_true]
  · simp only [empty, ↓reduceIte, ne_eq, not_false_eq_true, decide_true]
    rfl

/-- The statuses of terminal records add up to their number. -/
theorem count_statuses : ∀ {records : List SubTaskRecord},
    (∀ record ∈ records, isTerminalStatus record.status = true) →
      records.countP (fun record => record.status = "completed") +
        records.countP (fun record => record.status = "failed") +
        records.countP (fun record => record.status = "cancelled") = records.length
  | [], _ => rfl
  | record :: rest, ended => by
      have counted := count_statuses fun other member => ended other (List.mem_cons_of_mem _ member)
      have status := ended record List.mem_cons_self
      simp only [isTerminalStatus, terminalStatuses, List.mem_cons, List.not_mem_nil, or_false,
        decide_eq_true_eq] at status
      simp only [List.countP_cons, List.length_cons, decide_eq_true_eq]
      rcases status with named | named | named <;> rw [named] <;> simp <;> omega

/-- In a closed batch without a barrier yet, the barrier covers the batch exactly
when every record has a summary. -/
theorem BatchInvariant.barrierComplete_iff_of_closed (invariant : state.BatchInvariant)
    (closed : state.isAllSubtasksTerminal = true) (fresh : state.hasAggregationEmitted = false) :
    state.BarrierComplete ↔ ∀ record ∈ state.getCurrentBatchRecords, record.summary ≠ "" := by
  have blocks := invariant.barrierBlocks_eq
  have unique : (state.getCurrentBatchRecords.map SubTaskRecord.subSessionId).Nodup :=
    invariant.unique.sublist (List.filter_sublist.map _)
  constructor
  · rintro ⟨barrier, ready, named, _⟩
    have written : barrier.blocks = state.barrierBlocks := by
      simp only [barrierIfReady, closed, fresh, Bool.not_true, Bool.false_eq_true, ↓reduceIte]
        at ready
      split at ready
      · cases ready
      · exact (Option.some.inj ready) ▸ rfl
    have lengths := congrArg List.length named
    rw [List.length_map, List.length_map, written, blocks, List.length_map,
      List.length_filter_eq_length_iff] at lengths
    intro record member
    exact of_decide_eq_true (lengths record member)
  · intro summaries
    have whole : state.barrierBlocks = state.getCurrentBatchRecords.map SubTaskRecord.block := by
      rw [blocks, List.filter_eq_self.mpr]
      exact fun record member => decide_eq_true (summaries record member)
    have ended : ∀ record ∈ state.getCurrentBatchRecords,
        isTerminalStatus record.status = true := by
      intro record member
      obtain ⟨present, own⟩ := List.mem_filter.mp member
      exact (allTerminal_iff.mp closed).2 record present (of_decide_eq_true own)
    have nonempty : state.barrierBlocks.isEmpty = false := by
      obtain ⟨⟨record, present, own⟩, _⟩ := allTerminal_iff.mp closed
      have member : record ∈ state.getCurrentBatchRecords :=
        List.mem_filter.mpr ⟨present, decide_eq_true own⟩
      rw [← Bool.not_eq_true, List.isEmpty_iff, whole, List.map_eq_nil_iff]
      exact List.ne_nil_of_mem member
    refine ⟨{ blocks := state.barrierBlocks, aggregated := state.getAggregatedSubtaskResults },
      ?_, ?_, ?_, rfl, count_statuses ended⟩
    · simp only [barrierIfReady, closed, fresh, nonempty, Bool.not_true, Bool.false_eq_true,
        ↓reduceIte]
    · rw [whole, List.map_map]
      rfl
    · rw [whole, List.map_map]
      exact unique

/-- **Completeness of the barrier.** When a terminal mark closes the current
batch, the barrier covers the batch exactly when every record has a summary. -/
theorem barrierComplete_iff (state : SessionSubTaskState)
    (reached : subtaskMachine.Reachable sequential state) (subSessionId status summary : String)
    (running : state.isAllSubtasksTerminal = false)
    (closed : (state.markTerminal subSessionId status summary).2.isAllSubtasksTerminal = true) :
    (state.markTerminal subSessionId status summary).2.BarrierComplete ↔
      ∀ record ∈ (state.markTerminal subSessionId status summary).2.getCurrentBatchRecords,
        record.summary ≠ "" := by
  obtain ⟨invariant, emission⟩ := sequential_invariant reached
  have performed : state.perform (.mark subSessionId status summary) =
      some (state.markTerminal subSessionId status summary).2 := rfl
  have fresh : state.hasAggregationEmitted = false := by
    rw [← Bool.not_eq_true]
    intro emitted
    rw [emission emitted] at running
    cases running
  have same : (state.markTerminal subSessionId status summary).2.hasAggregationEmitted = false := by
    rcases perform_cases performed with unchanged | ⟨_, _, _, marked⟩
    · rw [unchanged]
      exact fresh
    · rw [marked]
      exact fresh
  exact (invariant.perform performed).barrierComplete_iff_of_closed closed same

/-- One delegated task that fails with an exception without text. -/
def silentFailureRun : List SubtaskOp := [.delegate "main_sub_1" "general"]

/-- The state with the task delegated. -/
def silentFailureState : SessionSubTaskState :=
  (subtaskMachine.replay sequential {} silentFailureRun).getD {}

/-- The barrier of the failed task is complete exactly if its summary has a text. -/
theorem barrierComplete_iff_silentFailure :
    (silentFailureState.markTerminal "main_sub_1" "failed" "").2.BarrierComplete ↔
      ∀ record ∈ (silentFailureState.markTerminal "main_sub_1" "failed"
        "").2.getCurrentBatchRecords, record.summary ≠ "" := by
  have replayed : subtaskMachine.replay sequential {} silentFailureRun =
      some silentFailureState := rfl
  exact barrierComplete_iff silentFailureState (.of_replay rfl replayed) "main_sub_1" "failed" ""
    (by decide) (by decide)

/-- The batch closes and no barrier is published for it. -/
theorem no_barrier_of_silentFailure :
    subtaskMachine.Reachable sequential silentFailureState ∧
      silentFailureState.isAllSubtasksTerminal = false ∧
      (silentFailureState.markTerminal "main_sub_1" "failed" "").2.isAllSubtasksTerminal = true ∧
      ¬ (silentFailureState.markTerminal "main_sub_1" "failed" "").2.BarrierComplete := by
  have replayed : subtaskMachine.replay sequential {} silentFailureRun =
      some silentFailureState := rfl
  refine ⟨.of_replay rfl replayed, by decide, by decide, ?_⟩
  rintro ⟨barrier, ready, _⟩
  have none_ready : (silentFailureState.markTerminal "main_sub_1" "failed" "").2.barrierIfReady =
      none := by decide
  rw [none_ready] at ready
  cases ready

end SessionSubTaskState

end FairyClaw
