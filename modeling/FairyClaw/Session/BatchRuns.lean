import FairyClaw.Foundation.Machine
import FairyClaw.Session.Batches

/-! # Batches over whole runs

In every run of the operations that the tools issue, records of earlier batches are terminal, and
the current batch has a record once a task was registered. A terminal record changes by being
reopened only, and a batch that a record has joined is not marked as emitted until the next mark
(`FairyClaw.SessionSubTaskState.batches_in_order`).
-/

namespace FairyClaw.SessionSubTaskState

open Foundation

variable {state next final : SessionSubTaskState} {op : SubtaskOp} {task : String}

/-- The subtask state of a main session, from its creation on. -/
def machine : Machine SessionSubTaskState SubtaskOp where
  initial := (· = {})
  step := perform

/-- The batches are in order in every run. -/
theorem reachable_batchInvariant {guard : Machine.Guard SessionSubTaskState SubtaskOp}
    (reached : machine.Reachable guard state) : state.BatchInvariant := by
  refine reached.invariant ?_ fun _ _ _ valid _ performed => valid.perform performed
  rintro start rfl
  exact batchInvariant_empty

/-- A batch has a record. -/
def HasRecord (batchId : Nat) (records : List SubTaskRecord) : Prop :=
  ∃ record ∈ records, record.batchId = batchId

/-- A change in place that leaves the batches of the records alone. -/
theorem HasRecord.modifyRecord {batchId : Nat} (present : HasRecord batchId state.records)
    (subSessionId : String) {change : SubTaskRecord → SubTaskRecord}
    (kept : ∀ record, (change record).batchId = record.batchId) :
    HasRecord batchId (state.modifyRecord subSessionId change) := by
  obtain ⟨record, member, rfl⟩ := present
  refine ⟨_, List.mem_map_of_mem member, ?_⟩
  split
  · exact kept record
  · rfl

/-- The operation puts a record into a batch: it registers the task, or reopens it. -/
def Joins (op : SubtaskOp) (state next : SessionSubTaskState) (batchId : Nat) : Prop :=
  ∃ task taskType, (op = .delegate task taskType ∨
      (op = .message task taskType ∧ state.isTerminal task = true)) ∧
    ∃ record, next.getRecord task = some record ∧ record.batchId = batchId

/-- The operation marks a batch as emitted. -/
def Marks (batchId : Nat) (state : SessionSubTaskState) (op : SubtaskOp) : Prop :=
  op = .emitted ∧ state.currentBatchId = batchId

/-- A message to a terminal task reopens its record in the opened batch. -/
theorem message_of_isTerminal {taskType : String} {record : SubTaskRecord}
    (stored : state.getRecord task = some record)
    (ended : isTerminalStatus record.status = true)
    (performed : state.perform (.message task taskType) = some next) :
    next = (state.reopenTask task (runningStatus taskType)).2 ∧
      next =
        { records := state.modifyRecord task fun record =>
            { record with
              status := runningStatus taskType
              summary := ""
              batchId := state.openedBatch }
          currentBatchId := state.openedBatch
          emittedBatchIds := state.emittedBatchIds.erase state.openedBatch
          immediateFailureNotified := state.immediateFailureNotified.erase task } := by
  have result : state.messageTask task taskType = next := Option.some.inj performed
  have terminal : state.isTerminal task = true := by rw [isTerminal_eq stored, ended]
  constructor
  · rw [← result, messageTask, if_pos terminal]
  · rcases state.messageTask_cases task taskType with
      ⟨missing, _⟩ | ⟨_, _, _, reopened⟩ | ⟨other, found, running, _⟩
    · rw [stored] at missing
      cases missing
    · rw [← result, reopened]
    · rw [stored] at found
      cases found
      rw [ended] at running
      cases running

/-- A terminal record stays as it is until a message reopens it. -/
theorem terminal_kept {record : SubTaskRecord} (stored : state.getRecord task = some record)
    (ended : isTerminalStatus record.status = true)
    (unasked : ∀ taskType, op ≠ .message task taskType)
    (performed : state.perform op = some next) : next.getRecord task = some record := by
  by_cases other : op.target = some task
  · cases op with
    | delegate subSessionId taskType =>
        obtain ⟨fresh, _⟩ := perform_cases performed
        cases other
        rw [stored] at fresh
        cases fresh
    | mark subSessionId status summary =>
        cases other
        rcases perform_cases performed with rfl | ⟨_, found, running, _⟩
        · exact stored
        · rw [stored] at found
          cases found
          rw [ended] at running
          cases running
    | message subSessionId taskType =>
        cases other
        exact (unasked taskType rfl).elim
    | emitted => cases other
    | immediateFailure => cases other
  · rw [perform_getRecord_of_ne other performed, stored]

/-- Every operation keeps a record in the current batch, and a delegation puts one there. -/
theorem perform_hasRecord (performed : state.perform op = some next)
    (present : HasRecord state.currentBatchId state.records ∨
      ∃ task taskType, op = .delegate task taskType) :
    HasRecord next.currentBatchId next.records := by
  have effect := perform_cases performed
  cases op with
  | delegate subSessionId taskType =>
      obtain ⟨_, rfl⟩ := effect
      exact ⟨_, List.mem_append_right _ List.mem_cons_self, rfl⟩
  | mark subSessionId status summary =>
      replace present := present.resolve_right nofun
      rcases effect with rfl | ⟨_, _, _, rfl⟩
      · exact present
      · exact present.modifyRecord subSessionId fun _ => rfl
  | message subSessionId taskType =>
      replace present := present.resolve_right nofun
      rcases effect with rfl | ⟨record, stored, _, rfl⟩ | ⟨_, _, _, rfl⟩
      · exact present
      · obtain ⟨member, own⟩ := getRecord_eq_some stored
        exact ⟨_, List.mem_map.mpr ⟨record, member, if_pos own⟩, rfl⟩
      · exact present.modifyRecord subSessionId fun _ => rfl
  | emitted =>
      cases effect
      exact present.resolve_right nofun
  | immediateFailure => rcases effect with rfl | rfl <;> exact present.resolve_right nofun

/-- A batch with a record keeps one. -/
theorem steps_hasRecord (steps : machine.Steps Machine.anyStep next final)
    (present : HasRecord next.currentBatchId next.records) :
    HasRecord final.currentBatchId final.records := by
  apply steps.invariant
  · intro before op after present _ performed
    exact perform_hasRecord performed (Or.inl present)
  · exact present

/-- A record appended under a fresh identifier is found under it. -/
theorem getRecord_append {record : SubTaskRecord} (fresh : state.getRecord task = none)
    (records : next.records = state.records ++ [record]) (own : record.subSessionId = task) :
    next.getRecord task = some record := by
  have absent : state.records.find? (fun record => record.subSessionId = task) = none := fresh
  simp only [getRecord, records, List.find?_append, absent, List.find?_singleton, own, decide_true,
    ↓reduceIte, Option.none_or]

/-- A record joins the opened batch, which is then not marked as emitted. -/
theorem Joins.notMem_emittedBatchIds {batchId : Nat} (joins : Joins op state next batchId)
    (performed : state.perform op = some next) : batchId ∉ next.emittedBatchIds := by
  obtain ⟨task, taskType, rfl | ⟨rfl, terminal⟩, record, stored, rfl⟩ := joins
  · obtain ⟨fresh, effect⟩ := perform_cases performed
    cases (getRecord_append fresh (congrArg records effect) rfl).symm.trans stored
    rw [effect]
    exact Finset.notMem_erase state.openedBatch state.emittedBatchIds
  · cases found : state.getRecord task with
    | none =>
        rw [isTerminal, found] at terminal
        cases terminal
    | some old =>
        have ended : isTerminalStatus old.status = true := by rw [← isTerminal_eq found, terminal]
        obtain ⟨_, rfl⟩ := message_of_isTerminal found ended performed
        rw [getRecord_modifyRecord rfl (by intro _; rfl), if_pos rfl, found] at stored
        cases stored
        exact Finset.notMem_erase state.openedBatch state.emittedBatchIds

/-- Only a mark of a batch adds it to the emitted ones. -/
theorem perform_notMem_emittedBatchIds {batchId : Nat} (unmarked : batchId ∉ state.emittedBatchIds)
    (allowed : ¬Marks batchId state op) (performed : state.perform op = some next) :
    batchId ∉ next.emittedBatchIds := by
  rcases perform_emittedBatchIds performed with shrunk | ⟨rfl, rfl⟩
  · exact fun member => unmarked (shrunk member)
  · intro member
    rcases Finset.mem_insert.mp member with rfl | earlier
    · exact allowed ⟨rfl, rfl⟩
    · exact unmarked earlier

/-- In every run, earlier batches are closed and the current one is not empty. A terminal record
changes by being reopened only, and a batch that a record joined is not an emitted one before it
is marked again. -/
theorem batches_in_order (reached : machine.Reachable Machine.anyStep state) :
    (∀ record ∈ state.records, record.batchId ≤ state.currentBatchId ∧
      (record.batchId < state.currentBatchId → record.status ∈ terminalStatuses)) ∧
    ∀ op next, state.perform op = some next →
      (∀ task taskType final, op = .delegate task taskType →
        machine.Steps Machine.anyStep next final →
        HasRecord final.currentBatchId final.records) ∧
      (∀ task record, state.getRecord task = some record →
        record.status ∈ terminalStatuses →
        next.getRecord task = some record ∨
          ∃ taskType, op = .message task taskType ∧
            next = (state.reopenTask task (runningStatus taskType)).2) ∧
      ∀ batchId final, Joins op state next batchId →
        machine.Steps (fun state op => ¬Marks batchId state op) next final →
        batchId ∉ final.emittedBatchIds := by
  have valid := reachable_batchInvariant reached
  refine ⟨?_, ?_⟩
  · intro record member
    refine ⟨valid.batchLe record member, fun older => ?_⟩
    exact of_decide_eq_true (valid.olderTerminal record member older)
  · intro op next performed
    refine ⟨?_, ?_, ?_⟩
    · intro task taskType final delegated steps
      exact steps_hasRecord steps (perform_hasRecord performed (Or.inr ⟨task, taskType, delegated⟩))
    · intro task record stored terminal
      have ended : isTerminalStatus record.status = true := decide_eq_true terminal
      by_cases asked : ∃ taskType, op = .message task taskType
      · obtain ⟨taskType, rfl⟩ := asked
        exact Or.inr ⟨taskType, rfl, (message_of_isTerminal stored ended performed).1⟩
      · exact Or.inl (terminal_kept stored ended (not_exists.mp asked) performed)
    · intro batchId final joins steps
      apply steps.invariant
      · intro before op after unmarked allowed performed
        exact perform_notMem_emittedBatchIds unmarked allowed performed
      · exact joins.notMem_emittedBatchIds performed

/-- A task is delegated and finished, and its batch is reported. -/
def reported : SessionSubTaskState :=
  ((({} : SessionSubTaskState).delegateTask "worker" "general").markTerminal
    "worker" "completed" "done").2.markAggregationEmitted

/-- The reported task is reached by a run. -/
theorem reported_reached : machine.Reachable Machine.anyStep reported := by
  have replayed : machine.replay Machine.anyStep {}
      [.delegate "worker" "general", .mark "worker" "completed" "done", .emitted] =
      some reported := rfl
  exact .of_replay rfl replayed

/-- A message to the finished task opens a batch that is not an emitted one. -/
theorem batches_in_order_reported :
    (∀ record ∈ reported.records, record.batchId ≤ 0 ∧
      (record.batchId < 0 → record.status ∈ terminalStatuses)) ∧
    1 ∉ (reported.messageTask "worker" "general").emittedBatchIds := by
  obtain ⟨ordered, later⟩ := batches_in_order reported_reached
  obtain ⟨-, -, unmarked⟩ := later (.message "worker" "general") _ rfl
  exact ⟨ordered, unmarked 1 _ ⟨"worker", "general", Or.inr ⟨rfl, rfl⟩, _, rfl, rfl⟩ (.refl _)⟩

end FairyClaw.SessionSubTaskState
