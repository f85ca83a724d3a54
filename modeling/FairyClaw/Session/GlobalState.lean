import FairyClaw.Foundation.Python
import Mathlib.Data.Finset.Basic

/-! # Subtask records of a main session

`SessionSubTaskState` keeps one record for every delegated task, in the order of
delegation, and groups the records in batches. The tools issue its operations in
fixed combinations (`FairyClaw.SubtaskOp`). They keep every running record in the
current batch (`FairyClaw.SessionSubTaskState.BatchInvariant`), so a batch that
has closed never opens again under its number.
-/

namespace FairyClaw

open Foundation

/-- `TERMINAL_STATUSES` -/
def terminalStatuses : List String := ["completed", "failed", "cancelled"]

/-- `is_terminal_status` -/
def isTerminalStatus (status : String) : Bool := status ∈ terminalStatuses

/-- `SubTaskRecord`, as far as its status is concerned. -/
structure SubTaskRecord where
  subSessionId : String
  status : String
  summary : String := ""
  batchId : Nat := 0
  deriving DecidableEq, Repr

/-- The subtasks of one main session. The source's dictionary of records lists
them in insertion order under their own identifiers. -/
structure SessionSubTaskState where
  records : List SubTaskRecord := []
  currentBatchId : Nat := 0
  emittedBatchIds : Finset Nat := ∅
  immediateFailureNotified : Finset String := ∅

namespace SessionSubTaskState

variable (state : SessionSubTaskState)

/-- `get_record` -/
def getRecord (subSessionId : String) : Option SubTaskRecord :=
  state.records.find? fun record => record.subSessionId = subSessionId

/-- `list_records` of one batch. -/
def listRecords (batchId : Nat) : List SubTaskRecord :=
  state.records.filter fun record => record.batchId = batchId

/-- `get_current_batch_records` -/
def getCurrentBatchRecords : List SubTaskRecord := state.listRecords state.currentBatchId

/-- `all_terminal` of one batch. -/
def allTerminal (batchId : Nat) : Bool :=
  !(state.listRecords batchId).isEmpty &&
    (state.listRecords batchId).all fun record => isTerminalStatus record.status

/-- `is_all_subtasks_terminal` -/
def isAllSubtasksTerminal : Bool := state.allTerminal state.currentBatchId

/-- `is_terminal` -/
def isTerminal (subSessionId : String) : Bool :=
  (state.getRecord subSessionId).any fun record => isTerminalStatus record.status

/-- Change the record of one task in place. -/
def modifyRecord (subSessionId : String) (change : SubTaskRecord → SubTaskRecord) :
    List SubTaskRecord :=
  state.records.map fun record =>
    if record.subSessionId = subSessionId then change record else record

/-- Assignment to the dictionary of records. -/
def storeRecord (record : SubTaskRecord) : List SubTaskRecord :=
  if (state.getRecord record.subSessionId).isSome then
    state.modifyRecord record.subSessionId fun _ => record
  else state.records ++ [record]

/-- `register_task` -/
def registerTask (subSessionId : String) : SessionSubTaskState :=
  let batch :=
    if !state.records.isEmpty && state.allTerminal state.currentBatchId then
      state.currentBatchId + 1
    else state.currentBatchId
  { state with
    currentBatchId := batch
    records := state.storeRecord
      { subSessionId := subSessionId, status := "running", batchId := batch }
    emittedBatchIds := state.emittedBatchIds.erase batch
    immediateFailureNotified := state.immediateFailureNotified.erase subSessionId }

/-- The terminal status that `mark_terminal` stores for a requested one. -/
def normalizedTerminal (status : String) : String :=
  let normalized := orElse (lower (strip status)) "completed"
  if normalized ∈ terminalStatuses then normalized else "completed"

/-- `mark_terminal`, with its answer. -/
def markTerminal (subSessionId status summary : String) : Bool × SessionSubTaskState :=
  match state.getRecord subSessionId with
  | none => (false, state)
  | some record =>
      if isTerminalStatus record.status then (false, state)
      else (true, { state with
        records := state.modifyRecord subSessionId fun record =>
          { record with
            status := normalizedTerminal status
            summary := orElse summary record.summary } })

/-- `update_status` -/
def updateStatus (subSessionId status : String) (summary : String := "") : SessionSubTaskState :=
  match state.getRecord subSessionId with
  | none => state
  | some record =>
      let updated := { state with
        records := state.modifyRecord subSessionId fun record =>
          { record with status := status, summary := orElse summary record.summary } }
      if isTerminalStatus status then updated
      else { updated with
        emittedBatchIds := updated.emittedBatchIds.erase record.batchId
        immediateFailureNotified := updated.immediateFailureNotified.erase subSessionId }

/-- `reopen_task`, with its answer. A task that is not terminal joins the
current batch too, keeping its summary unless a new one is given. -/
def reopenTask (subSessionId : String) (status : String := "running") (summary : String := "") :
    Bool × SessionSubTaskState :=
  match state.getRecord subSessionId with
  | none => (false, state)
  | some record =>
      let batch :=
        if state.allTerminal state.currentBatchId then state.currentBatchId + 1
        else state.currentBatchId
      let reopened := isTerminalStatus record.status
      (reopened, { state with
        currentBatchId := batch
        records := state.modifyRecord subSessionId fun record =>
          { record with
            status := status
            summary := if reopened then summary else orElse summary record.summary
            batchId := batch }
        emittedBatchIds := state.emittedBatchIds.erase batch
        immediateFailureNotified := state.immediateFailureNotified.erase subSessionId })

/-- `has_aggregation_emitted` -/
def hasAggregationEmitted : Bool := state.currentBatchId ∈ state.emittedBatchIds

/-- `mark_aggregation_emitted` -/
def markAggregationEmitted : SessionSubTaskState :=
  { state with emittedBatchIds := insert state.currentBatchId state.emittedBatchIds }

/-- `has_immediate_failure_notified` -/
def hasImmediateFailureNotified (subSessionId : String) : Bool :=
  subSessionId ∈ state.immediateFailureNotified

/-- `mark_immediate_failure_notified` -/
def markImmediateFailureNotified (subSessionId : String) : SessionSubTaskState :=
  if subSessionId = "" then state
  else { state with
    immediateFailureNotified := insert subSessionId state.immediateFailureNotified }

end SessionSubTaskState

/-- The operations on the subtask state in the combinations in which the tools
and the coordinator issue them, each without a suspension in between. -/
inductive SubtaskOp
  | delegate (subSessionId taskType : String)
  | mark (subSessionId status summary : String)
  | message (subSessionId taskType : String)
  | emitted
  | immediateFailure (subSessionId : String)
  deriving DecidableEq, Repr

/-- The task whose record an operation may change. -/
def SubtaskOp.target : SubtaskOp → Option String
  | delegate subSessionId _ => some subSessionId
  | mark subSessionId _ _ => some subSessionId
  | message subSessionId _ => some subSessionId
  | emitted => none
  | immediateFailure _ => none

/-- The status of a running task. -/
def runningStatus (taskType : String) : String := "running:" ++ taskType

namespace SessionSubTaskState

/-- `delegate_task`: register the task and set its typed status. -/
def delegateTask (state : SessionSubTaskState) (subSessionId taskType : String) :
    SessionSubTaskState :=
  (state.registerTask subSessionId).updateStatus subSessionId (runningStatus taskType)

/-- `message_subtask`: reopen a terminal task, or refresh a running one. -/
def messageTask (state : SessionSubTaskState) (subSessionId taskType : String) :
    SessionSubTaskState :=
  if state.isTerminal subSessionId then
    (state.reopenTask subSessionId (runningStatus taskType)).2
  else state.updateStatus subSessionId (runningStatus taskType)

/-- Perform one operation. Delegation uses a generated identifier, which no
record has. -/
def perform (state : SessionSubTaskState) : SubtaskOp → Option SessionSubTaskState
  | .delegate subSessionId taskType =>
      if (state.getRecord subSessionId).isNone then some (state.delegateTask subSessionId taskType)
      else none
  | .mark subSessionId status summary => some (state.markTerminal subSessionId status summary).2
  | .message subSessionId taskType => some (state.messageTask subSessionId taskType)
  | .emitted => some state.markAggregationEmitted
  | .immediateFailure subSessionId => some (state.markImmediateFailureNotified subSessionId)

end SessionSubTaskState

/-- A running status is not terminal. -/
theorem runningStatus_running (taskType : String) :
    isTerminalStatus (runningStatus taskType) = false := by
  have differs {status : String} (head : status.toList.head? ≠ some 'r') :
      runningStatus taskType ≠ status := by
    rintro rfl
    apply head
    simp only [runningStatus, String.toList_append]
    rfl
  simp only [isTerminalStatus, terminalStatuses, List.mem_cons, List.not_mem_nil, or_false,
    decide_eq_false_iff_not, not_or]
  exact ⟨differs (by decide), differs (by decide), differs (by decide)⟩

namespace SessionSubTaskState

variable {state next : SessionSubTaskState} {op : SubtaskOp}

/-- A normalized status is terminal. -/
theorem normalizedTerminal_terminal (status : String) :
    isTerminalStatus (normalizedTerminal status) = true := by
  unfold normalizedTerminal isTerminalStatus
  simp only [decide_eq_true_eq]
  split
  · assumption
  · decide

/-- A record that is found is stored under its identifier. -/
theorem getRecord_eq_some {subSessionId : String} {record : SubTaskRecord}
    (stored : state.getRecord subSessionId = some record) :
    record ∈ state.records ∧ record.subSessionId = subSessionId := by
  refine ⟨List.mem_of_find?_eq_some stored, ?_⟩
  have matched := List.find?_some stored
  simpa only [decide_eq_true_eq] using matched

/-- No record is found exactly when none has the identifier. -/
theorem getRecord_eq_none {subSessionId : String} :
    state.getRecord subSessionId = none ↔
      ∀ record ∈ state.records, record.subSessionId ≠ subSessionId := by
  simp only [getRecord, List.find?_eq_none, decide_eq_true_eq, ne_eq]

/-- A batch is terminal when it has records, and all of them are. -/
theorem allTerminal_iff {batchId : Nat} : state.allTerminal batchId = true ↔
    (∃ record ∈ state.records, record.batchId = batchId) ∧
      ∀ record ∈ state.records, record.batchId = batchId →
        isTerminalStatus record.status = true := by
  have nonempty : (state.listRecords batchId).isEmpty = false ↔
      ∃ record ∈ state.records, record.batchId = batchId := by
    rw [Bool.eq_false_iff, ne_eq, List.isEmpty_iff, listRecords, List.filter_eq_nil_iff]
    push Not
    simp only [decide_eq_true_eq]
  rw [allTerminal, Bool.and_eq_true, Bool.not_eq_true', nonempty]
  simp only [listRecords, List.all_eq_true, List.mem_filter, decide_eq_true_eq, and_imp]

/-- The batch that the next delegated or reopened task joins. -/
def openedBatch (state : SessionSubTaskState) : Nat :=
  if state.allTerminal state.currentBatchId then state.currentBatchId + 1
  else state.currentBatchId

/-- The change of an unknown record changes nothing. -/
theorem modifyRecord_of_none {subSessionId : String}
    (missing : state.getRecord subSessionId = none) (change : SubTaskRecord → SubTaskRecord) :
    state.modifyRecord subSessionId change = state.records := by
  refine (List.map_congr_left ?_).trans (List.map_id state.records)
  intro record member
  exact if_neg (getRecord_eq_none.mp missing record member)

/-- A batch with only terminal records has records. -/
theorem openedBatch_eq (state : SessionSubTaskState) :
    (if !state.records.isEmpty && state.allTerminal state.currentBatchId then
      state.currentBatchId + 1 else state.currentBatchId) = state.openedBatch := by
  unfold openedBatch
  by_cases closed : state.allTerminal state.currentBatchId = true
  · obtain ⟨⟨record, member, _⟩, _⟩ := allTerminal_iff.mp closed
    have nonempty : state.records.isEmpty = false := by
      rw [← Bool.not_eq_true, List.isEmpty_iff]
      exact List.ne_nil_of_mem member
    simp only [closed, nonempty, Bool.not_false, Bool.and_self, ↓reduceIte]
  · simp only [closed, Bool.and_false, Bool.false_eq_true, ↓reduceIte]

/-- Delegation appends one running record to the batch it opens or joins. -/
theorem delegateTask_eq {subSessionId : String} (taskType : String)
    (fresh : state.getRecord subSessionId = none) :
    state.delegateTask subSessionId taskType =
      { records := state.records ++ [
          { subSessionId := subSessionId
            status := runningStatus taskType
            batchId := state.openedBatch }]
        currentBatchId := state.openedBatch
        emittedBatchIds := state.emittedBatchIds.erase state.openedBatch
        immediateFailureNotified := state.immediateFailureNotified.erase subSessionId } := by
  have registered : state.registerTask subSessionId =
      { records := state.records ++ [
          { subSessionId := subSessionId, status := "running", batchId := state.openedBatch }]
        currentBatchId := state.openedBatch
        emittedBatchIds := state.emittedBatchIds.erase state.openedBatch
        immediateFailureNotified := state.immediateFailureNotified.erase subSessionId } := by
    simp only [registerTask, openedBatch_eq, storeRecord, fresh, Option.isSome_none,
      Bool.false_eq_true, ↓reduceIte]
  have absent : state.records.find? (fun record => record.subSessionId = subSessionId) = none :=
    fresh
  have kept := modifyRecord_of_none fresh
  unfold modifyRecord at kept
  rw [delegateTask, registered]
  simp only [updateStatus, getRecord, List.find?_append, absent, List.find?_singleton, decide_true,
    ↓reduceIte, Option.none_or, runningStatus_running, Bool.false_eq_true, modifyRecord,
    List.map_append, kept, List.map_cons, List.map_nil, orElse, Finset.erase_idem]

/-- The outcomes of a terminal mark: it has no effect, or a running record
becomes terminal. -/
theorem markTerminal_cases (state : SessionSubTaskState) (subSessionId status summary : String) :
    (state.markTerminal subSessionId status summary = (false, state) ∧
      ∀ record, state.getRecord subSessionId = some record →
        isTerminalStatus record.status = true) ∨
    ∃ record, state.getRecord subSessionId = some record ∧
      isTerminalStatus record.status = false ∧
      state.markTerminal subSessionId status summary = (true, { state with
        records := state.modifyRecord subSessionId fun record =>
          { record with
            status := normalizedTerminal status
            summary := orElse summary record.summary } }) := by
  unfold markTerminal
  cases stored : state.getRecord subSessionId with
  | none => exact Or.inl ⟨rfl, nofun⟩
  | some record =>
      cases ended : isTerminalStatus record.status with
      | true =>
          refine Or.inl ⟨by simp only [ended, ↓reduceIte], ?_⟩
          rintro _ ⟨rfl⟩
          exact ended
      | false => exact Or.inr ⟨record, rfl, ended, by simp only [ended, Bool.false_eq_true, ↓reduceIte]⟩

/-- The outcomes of a message: the task is unknown, a terminal task is reopened
in the batch it opens or joins, or a running task stays in its batch. -/
theorem messageTask_cases (state : SessionSubTaskState) (subSessionId taskType : String) :
    (state.getRecord subSessionId = none ∧ state.messageTask subSessionId taskType = state) ∨
    (∃ record, state.getRecord subSessionId = some record ∧
      isTerminalStatus record.status = true ∧
      state.messageTask subSessionId taskType =
        { records := state.modifyRecord subSessionId fun record =>
            { record with
              status := runningStatus taskType
              summary := ""
              batchId := state.openedBatch }
          currentBatchId := state.openedBatch
          emittedBatchIds := state.emittedBatchIds.erase state.openedBatch
          immediateFailureNotified := state.immediateFailureNotified.erase subSessionId }) ∨
    ∃ record, state.getRecord subSessionId = some record ∧
      isTerminalStatus record.status = false ∧
      state.messageTask subSessionId taskType =
        { state with
          records := state.modifyRecord subSessionId fun record =>
            { record with status := runningStatus taskType }
          emittedBatchIds := state.emittedBatchIds.erase record.batchId
          immediateFailureNotified := state.immediateFailureNotified.erase subSessionId } := by
  unfold messageTask isTerminal
  cases stored : state.getRecord subSessionId with
  | none =>
      refine Or.inl ⟨rfl, ?_⟩
      simp only [Option.any_none, Bool.false_eq_true, ↓reduceIte, updateStatus, stored]
  | some record =>
      simp only [Option.any_some]
      by_cases ended : isTerminalStatus record.status = true
      · refine Or.inr (Or.inl ⟨record, rfl, ended, ?_⟩)
        simp only [↓reduceIte, reopenTask, stored, ended, openedBatch]
      · rw [Bool.not_eq_true] at ended
        refine Or.inr (Or.inr ⟨record, rfl, ended, ?_⟩)
        simp only [ended, Bool.false_eq_true, ↓reduceIte, updateStatus, stored,
          runningStatus_running, orElse]

/-- What each operation does, in terms of the records before it. -/
theorem perform_cases {op : SubtaskOp} (performed : state.perform op = some next) :
    match op with
    | .delegate subSessionId taskType => state.getRecord subSessionId = none ∧
        next = {
          records := state.records ++ [
            { subSessionId := subSessionId
              status := runningStatus taskType
              batchId := state.openedBatch }]
          currentBatchId := state.openedBatch
          emittedBatchIds := state.emittedBatchIds.erase state.openedBatch
          immediateFailureNotified := state.immediateFailureNotified.erase subSessionId }
    | .mark subSessionId status summary => next = state ∨
        ∃ record, state.getRecord subSessionId = some record ∧
          isTerminalStatus record.status = false ∧ next = { state with
            records := state.modifyRecord subSessionId fun record =>
              { record with
                status := normalizedTerminal status
                summary := orElse summary record.summary } }
    | .message subSessionId taskType => next = state ∨
        (∃ record, state.getRecord subSessionId = some record ∧
          isTerminalStatus record.status = true ∧ next = {
            records := state.modifyRecord subSessionId fun record =>
              { record with
                status := runningStatus taskType
                summary := ""
                batchId := state.openedBatch }
            currentBatchId := state.openedBatch
            emittedBatchIds := state.emittedBatchIds.erase state.openedBatch
            immediateFailureNotified := state.immediateFailureNotified.erase subSessionId }) ∨
        ∃ record, state.getRecord subSessionId = some record ∧
          isTerminalStatus record.status = false ∧ next = { state with
            records := state.modifyRecord subSessionId fun record =>
              { record with status := runningStatus taskType }
            emittedBatchIds := state.emittedBatchIds.erase record.batchId
            immediateFailureNotified := state.immediateFailureNotified.erase subSessionId }
    | .emitted => next = state.markAggregationEmitted
    | .immediateFailure subSessionId => next = state ∨ next = { state with
        immediateFailureNotified := insert subSessionId state.immediateFailureNotified } := by
  cases op with
  | delegate subSessionId taskType =>
      obtain ⟨fresh, result⟩ := Option.ite_none_right_eq_some.mp performed
      rw [Option.isNone_iff_eq_none] at fresh
      rw [delegateTask_eq taskType fresh] at result
      exact ⟨fresh, (Option.some.inj result).symm⟩
  | mark subSessionId status summary =>
      have result := (Option.some.inj performed).symm
      rcases state.markTerminal_cases subSessionId status summary with
        ⟨unchanged, _⟩ | ⟨record, stored, running, marked⟩
      · rw [unchanged] at result
        exact Or.inl result
      · rw [marked] at result
        exact Or.inr ⟨record, stored, running, result⟩
  | message subSessionId taskType =>
      have result := (Option.some.inj performed).symm
      rcases state.messageTask_cases subSessionId taskType with
        ⟨_, unchanged⟩ | ⟨record, stored, ended, reopened⟩ | ⟨record, stored, running, refreshed⟩
      · rw [unchanged] at result
        exact Or.inl result
      · rw [reopened] at result
        exact Or.inr (Or.inl ⟨record, stored, ended, result⟩)
      · rw [refreshed] at result
        exact Or.inr (Or.inr ⟨record, stored, running, result⟩)
  | emitted => exact (Option.some.inj performed).symm
  | immediateFailure subSessionId =>
      have result := (Option.some.inj performed).symm
      unfold markImmediateFailureNotified at result
      split at result
      · exact Or.inl result
      · exact Or.inr result

/-- A change in place that keeps the identifier changes one record only. -/
theorem getRecord_modifyRecord {subSessionId : String} {change : SubTaskRecord → SubTaskRecord}
    (records : next.records = state.modifyRecord subSessionId change)
    (kept : ∀ record, (change record).subSessionId = record.subSessionId) (task : String) :
    next.getRecord task =
      if task = subSessionId then (state.getRecord task).map change else state.getRecord task := by
  have key (record : SubTaskRecord) :
      (if record.subSessionId = subSessionId then change record else record).subSessionId =
        record.subSessionId := by
    split
    · exact kept record
    · rfl
  rw [getRecord, records, modifyRecord, List.find?_map]
  simp only [Function.comp_def, key]
  change (state.getRecord task).map _ = _
  cases stored : state.getRecord task with
  | none => simp only [Option.map_none, ite_self]
  | some record =>
      have own := (getRecord_eq_some stored).2
      simp only [Option.map_some, own]
      split <;> rfl

/-- Operations on other tasks leave the record of a task alone. -/
theorem perform_getRecord_of_ne {op : SubtaskOp} {task : String} (other : op.target ≠ some task)
    (performed : state.perform op = some next) : next.getRecord task = state.getRecord task := by
  have effect := perform_cases performed
  cases op with
  | delegate subSessionId taskType =>
      obtain ⟨_, rfl⟩ := effect
      have different : subSessionId ≠ task := fun same => other (congrArg some same)
      simp only [getRecord, List.find?_append, List.find?_singleton, different, decide_false,
        Bool.false_eq_true, ↓reduceIte, Option.or_none]
  | mark subSessionId status summary =>
      have different : task ≠ subSessionId := fun same => other (congrArg some same.symm)
      rcases effect with rfl | ⟨_, _, _, rfl⟩
      · rfl
      · rw [getRecord_modifyRecord rfl (by intro _; rfl), if_neg different]
  | message subSessionId taskType =>
      have different : task ≠ subSessionId := fun same => other (congrArg some same.symm)
      rcases effect with rfl | ⟨_, _, _, rfl⟩ | ⟨_, _, _, rfl⟩
      · rfl
      · rw [getRecord_modifyRecord rfl (by intro _; rfl), if_neg different]
      · rw [getRecord_modifyRecord rfl (by intro _; rfl), if_neg different]
  | emitted =>
      cases effect
      rfl
  | immediateFailure => rcases effect with rfl | rfl <;> rfl

/-- A terminal mark leaves the record terminal: with the mark's status when the
task was running, unchanged otherwise. -/
theorem markTerminal_getRecord {task : String} {record : SubTaskRecord}
    (stored : state.getRecord task = some record) (status summary : String) :
    (state.markTerminal task status summary).2.getRecord task = some
      (if isTerminalStatus record.status then record else
        { record with
          status := normalizedTerminal status
          summary := orElse summary record.summary }) := by
  rcases state.markTerminal_cases task status summary with
    ⟨unchanged, ended⟩ | ⟨other, found, running, marked⟩
  · rw [unchanged, if_pos (ended record stored)]
    exact stored
  · have same : other = record := Option.some.inj (found.symm.trans stored)
    subst same
    rw [marked, running, if_neg Bool.false_ne_true]
    rw [getRecord_modifyRecord rfl (by intro _; rfl), if_pos rfl, stored, Option.map_some]

/-- A message leaves the task running. -/
theorem messageTask_getRecord {task : String} {record : SubTaskRecord}
    (stored : state.getRecord task = some record) (taskType : String) :
    ∃ after, (state.messageTask task taskType).getRecord task = some after ∧
      after.status = runningStatus taskType := by
  rcases state.messageTask_cases task taskType with
    ⟨missing, _⟩ | ⟨other, found, _, reopened⟩ | ⟨other, found, _, refreshed⟩
  · rw [stored] at missing
    cases missing
  · rw [reopened]
    rw [getRecord_modifyRecord rfl (by intro _; rfl), if_pos rfl, stored, Option.map_some]
    exact ⟨_, rfl, rfl⟩
  · rw [refreshed]
    rw [getRecord_modifyRecord rfl (by intro _; rfl), if_pos rfl, stored, Option.map_some]
    exact ⟨_, rfl, rfl⟩

/-- A task is terminal by the status of its record. -/
theorem isTerminal_eq {task : String} {record : SubTaskRecord}
    (stored : state.getRecord task = some record) :
    state.isTerminal task = isTerminalStatus record.status := by
  rw [isTerminal, stored, Option.any_some]

/-- A marked task is terminal. -/
theorem isTerminal_markTerminal {task : String} (known : (state.getRecord task).isSome)
    (status summary : String) : (state.markTerminal task status summary).2.isTerminal task = true := by
  obtain ⟨record, stored⟩ := Option.isSome_iff_exists.mp known
  rw [isTerminal_eq (markTerminal_getRecord stored status summary)]
  split
  · assumption
  · simp only [normalizedTerminal_terminal]

/-- A task that gets a message is not terminal. -/
theorem isTerminal_messageTask {task : String} (known : (state.getRecord task).isSome)
    (taskType : String) : (state.messageTask task taskType).isTerminal task = false := by
  obtain ⟨record, stored⟩ := Option.isSome_iff_exists.mp known
  obtain ⟨after, found, running⟩ := messageTask_getRecord stored taskType
  rw [isTerminal_eq found, running, runningStatus_running]

end SessionSubTaskState

end FairyClaw
