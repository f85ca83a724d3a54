import FairyClaw.Session.BatchRuns
import FairyClaw.Session.SubtaskRows

/-! # Agreement of the two statuses

Every operation on a subtask writes the record in the process and the row in the database
(`FairyClaw.SubtaskStore.Writes`), each status normalised by the path that writes it. The two
agree after an operation exactly when the requested status names a terminal one
(`FairyClaw.Recordable`); the record then says `completed` where the row keeps the request.
-/

namespace FairyClaw

open Foundation

/-- What an operation writes about one task: the status and summary of its record, the
status and task type of its row. -/
structure TaskWrite where
  task : String
  status : String
  summary : String
  persisted : String
  taskType : String

namespace SubSessionRow

/-- A text that is written is read back. -/
theorem text_update_self (row : SubSessionRow) (key value : String) :
    (row.update [(key, .str value)]).text key = some value := by
  rw [text]
  change ((row.metadata.set key (.str value)).get key).bind _ = _
  rw [JsonObject.get_set_self]
  rfl

/-- Another text is read as before. -/
theorem text_update_of_ne (row : SubSessionRow) {key other : String} (value : String)
    (different : other ≠ key) : (row.update [(key, .str value)]).text other = row.text other := by
  rw [text]
  change ((row.metadata.set key (.str value)).get other).bind _ = _
  rw [JsonObject.get_set_other _ _ different]
  rfl

end SubSessionRow

namespace SubtaskStore

variable {store before after final : SubtaskStore} {task : String} {write : TaskWrite}

/-- The status that the row of a task carries. -/
def persistedStatus (store : SubtaskStore) (task : String) : Option String :=
  (store.getRow task).bind (·.text "subtask_status")

/-- The entry of a task in the task list. -/
def shown (store : SubtaskStore) (task : String) : Option SubagentTaskState :=
  store.collectSubagentTaskRows.find? fun entry => entry.taskId = task

/-- A task is shown by its row. -/
theorem shown_eq (store : SubtaskStore) (task : String) :
    store.shown task = (store.getRow task).map store.taskRow := by
  rw [shown, collectSubagentTaskRows, List.find?_map]
  rfl

/-- What the operations rely on: a bound task has a record, a record has a row with its
instruction and task type, and a running record has no summary. -/
structure Valid (store : SubtaskStore) : Prop where
  bound : ∀ task ∈ store.bound, ∃ record, store.state.getRecord task = some record
  described : ∀ task record, store.state.getRecord task = some record →
    ∃ row instruction taskType, store.getRow task = some row ∧
      row.text "instruction" = some instruction ∧
      store.instructions.lookup task = some instruction ∧ row.text "task_type" = some taskType
  quiet : ∀ task record, store.state.getRecord task = some record →
    isTerminalStatus record.status = false → record.summary = ""

/-- One store comes from another by a write about one task. -/
structure Writes (before after : SubtaskStore) (write : TaskWrite) : Prop where
  main : after.mainSessionId = before.mainSessionId
  record : ∃ record, after.state.getRecord write.task = some record ∧
    record.status = write.status ∧ record.summary = write.summary
  row : ∃ row instruction, after.getRow write.task = some row ∧
    row.text "subtask_status" = some write.persisted ∧
    row.text "task_type" = some write.taskType ∧
    row.text "instruction" = some instruction ∧
    after.instructions.lookup write.task = some instruction
  bound : after.bound ⊆ write.task :: before.bound
  records_of_ne : ∀ other, other ≠ write.task →
    after.state.getRecord other = before.state.getRecord other
  rows_of_ne : ∀ other, other ≠ write.task → after.getRow other = before.getRow other
  instructions_of_ne : ∀ other, other ≠ write.task →
    after.instructions.lookup other = before.instructions.lookup other

/-! ## Rows -/

/-- Entries are written to the row of their task alone. -/
theorem getRow_persist (store : SubtaskStore) (task : String) (entries : JsonObject)
    (other : String) :
    (store.persist task entries).getRow other =
      if other = task then (store.getRow other).map (SubSessionRow.update · entries)
      else store.getRow other := by
  have key (row : SubSessionRow) :
      (if row.id = task then row.update entries else row).id = row.id := by
    split <;> rfl
  rw [getRow, persist, List.find?_map]
  simp only [Function.comp_def, key]
  change (store.getRow other).map _ = _
  cases found : store.getRow other with
  | none => simp only [Option.map_none, ite_self]
  | some row =>
      have own : row.id = other := by simpa using List.find?_some found
      simp only [Option.map_some, own]
      split <;> rfl

/-! ## Writes -/

/-- A write keeps the store valid. -/
theorem Writes.valid (writes : Writes before after write) (valid : before.Valid)
    (quiet : isTerminalStatus write.status = false → write.summary = "") : after.Valid where
  bound other member := by
    by_cases own : other = write.task
    · obtain ⟨record, stored, _⟩ := writes.record
      exact ⟨record, own ▸ stored⟩
    · rw [writes.records_of_ne other own]
      exact valid.bound other ((List.mem_cons.mp (writes.bound member)).resolve_left own)
  described other record stored := by
    by_cases own : other = write.task
    · obtain ⟨row, instruction, found, _, typed, given, known⟩ := writes.row
      rw [own]
      exact ⟨row, instruction, write.taskType, found, given, known, typed⟩
    · rw [writes.records_of_ne other own] at stored
      rw [writes.rows_of_ne other own, writes.instructions_of_ne other own]
      exact valid.described other record stored
  quiet other record stored running := by
    by_cases own : other = write.task
    · obtain ⟨written, found, status, summary⟩ := writes.record
      rw [own, found, Option.some.injEq] at stored
      subst stored
      rw [summary]
      exact quiet (status ▸ running)
    · rw [writes.records_of_ne other own] at stored
      exact valid.quiet other record stored running

/-- The later of two writes about the same task counts. -/
theorem Writes.trans {second : TaskWrite} (first : Writes before after write)
    (later : Writes after final second) (same : second.task = write.task) :
    Writes before final second where
  main := later.main.trans first.main
  record := later.record
  row := later.row
  bound other member := by
    rcases List.mem_cons.mp (later.bound member) with rfl | earlier
    · exact List.mem_cons_self
    · rw [same]
      exact first.bound earlier
  records_of_ne other different :=
    (later.records_of_ne other different).trans (first.records_of_ne other (same ▸ different))
  rows_of_ne other different :=
    (later.rows_of_ne other different).trans (first.rows_of_ne other (same ▸ different))
  instructions_of_ne other different :=
    (later.instructions_of_ne other different).trans
      (first.instructions_of_ne other (same ▸ different))

/-- A running record is marked, and a status is persisted. -/
theorem Valid.mark {record : SubTaskRecord} (valid : store.Valid)
    (stored : store.state.getRecord task = some record)
    (running : isTerminalStatus record.status = false) (status summary persisted : String) :
    ∃ taskType, (∃ row, store.getRow task = some row ∧ row.text "task_type" = some taskType) ∧
      Writes store
        ({ store with state := (store.state.markTerminal task status summary).2 }.persist task
          [("subtask_status", .str persisted)])
        { task := task, status := SessionSubTaskState.normalizedTerminal status, summary := summary,
          persisted := persisted, taskType := taskType } := by
  obtain ⟨row, instruction, taskType, found, given, known, typed⟩ :=
    valid.described task record stored
  have silent := valid.quiet task record stored running
  refine ⟨taskType, ⟨row, found, typed⟩, rfl, ?_, ?_, ?_, ?_, ?_, fun _ _ => rfl⟩
  · refine ⟨_, SessionSubTaskState.markTerminal_getRecord stored status summary, ?_⟩
    rw [if_neg (by rw [running]; exact Bool.false_ne_true)]
    refine ⟨rfl, ?_⟩
    simp only [silent, orElse]
    split
    · exact Eq.symm ‹_›
    · rfl
  · refine ⟨row.update [("subtask_status", .str persisted)], instruction, ?_,
      row.text_update_self _ persisted, ?_, ?_, known⟩
    · rw [getRow_persist, if_pos rfl]
      exact congrArg (Option.map _) found
    · rwa [row.text_update_of_ne persisted (by decide)]
    · rwa [row.text_update_of_ne persisted (by decide)]
  · exact List.subset_cons_self task store.bound
  · intro other different
    have elsewhere : (SubtaskOp.mark task status summary).target ≠ some other :=
      fun own => different (Option.some.inj own).symm
    exact SessionSubTaskState.perform_getRecord_of_ne elsewhere rfl
  · intro other different
    rw [getRow_persist, if_neg different]
    rfl

/-- A message reopens or refreshes a task, and its type is persisted with the status. -/
theorem Valid.message {record : SubTaskRecord} (valid : store.Valid)
    (stored : store.state.getRecord task = some record) (taskType : String) :
    Writes store
      ({ store with state := store.state.messageTask task taskType }.persist task
        [("subtask_status", .str (runningStatus taskType)), ("task_type", .str taskType)])
      { task := task, status := runningStatus taskType, summary := "",
        persisted := runningStatus taskType, taskType := taskType } := by
  obtain ⟨row, instruction, _, found, given, known, _⟩ := valid.described task record stored
  refine ⟨rfl, ?_, ?_, ?_, ?_, ?_, fun _ _ => rfl⟩
  · rcases store.state.messageTask_cases task taskType with
      ⟨missing, _⟩ | ⟨_, _, _, reopened⟩ | ⟨other, same, running, refreshed⟩
    · rw [stored] at missing
      cases missing
    · refine ⟨{ record with
        status := runningStatus taskType, summary := "", batchId := store.state.openedBatch },
        ?_, rfl, rfl⟩
      change (store.state.messageTask task taskType).getRecord task = _
      rw [reopened]
      rw [SessionSubTaskState.getRecord_modifyRecord rfl (by intro _; rfl), if_pos rfl, stored]
      rfl
    · refine ⟨{ record with status := runningStatus taskType }, ?_, rfl, ?_⟩
      · change (store.state.messageTask task taskType).getRecord task = _
        rw [refreshed]
        rw [SessionSubTaskState.getRecord_modifyRecord rfl (by intro _; rfl), if_pos rfl, stored]
        rfl
      · have silent := valid.quiet task other same running
        rw [stored, Option.some.injEq] at same
        rwa [← same] at silent
  · refine ⟨(row.update [("subtask_status", .str (runningStatus taskType))]).update
      [("task_type", .str taskType)], instruction, ?_, ?_, ?_, ?_, known⟩
    · rw [getRow_persist, if_pos rfl]
      exact congrArg (Option.map _) found
    · rw [SubSessionRow.text_update_of_ne _ _ (by decide)]
      exact row.text_update_self _ _
    · exact SubSessionRow.text_update_self _ _ _
    · rwa [SubSessionRow.text_update_of_ne _ _ (by decide), row.text_update_of_ne _ (by decide)]
  · exact List.subset_cons_self task store.bound
  · intro other different
    have elsewhere : (SubtaskOp.message task taskType).target ≠ some other :=
      fun own => different (Option.some.inj own).symm
    exact SessionSubTaskState.perform_getRecord_of_ne elsewhere rfl
  · intro other different
    rw [getRow_persist, if_neg different]
    rfl

/-- A row at the end of the table is found under its identifier only. -/
theorem getRow_append (row : SubSessionRow) (rows : after.rows = before.rows ++ [row])
    (absent : before.getRow row.id = none) (other : String) :
    after.getRow other = if other = row.id then some row else before.getRow other := by
  rw [getRow, rows, List.find?_append, List.find?_singleton]
  by_cases own : other = row.id
  · subst own
    change (before.getRow row.id).or _ = _
    rw [absent, if_pos rfl, if_pos (decide_eq_true rfl), Option.none_or]
  · rw [if_neg own, if_neg (by simpa using Ne.symm own), Option.or_none]
    rfl

/-- A task without a row has no record. -/
theorem Valid.fresh (valid : store.Valid) (absent : store.getRow task = none) :
    store.state.getRecord task = none := by
  cases stored : store.state.getRecord task with
  | none => rfl
  | some record =>
      obtain ⟨row, _, _, found, _⟩ := valid.described task record stored
      rw [absent] at found
      cases found

/-- The registration of a task writes its running status. -/
theorem Valid.registered (valid : store.Valid) (absent : store.getRow task = none)
    (instruction taskType : String) (others : JsonObject) :
    Writes store (store.registered task instruction taskType others)
      { task := task, status := runningStatus taskType, summary := "",
        persisted := runningStatus taskType, taskType := taskType } := by
  have delegated := SessionSubTaskState.delegateTask_eq taskType (valid.fresh absent)
  have rows (other : String) :
      (store.registered task instruction taskType others).getRow other =
        if other = task then some (delegatedRow task instruction taskType others)
        else store.getRow other :=
    getRow_append (delegatedRow task instruction taskType others) rfl absent other
  refine ⟨rfl, ?_, ?_, List.Subset.refl _, ?_, ?_, ?_⟩
  · refine ⟨{ subSessionId := task, status := runningStatus taskType,
              batchId := store.state.openedBatch }, ?_, rfl, rfl⟩
    exact SessionSubTaskState.getRecord_append (valid.fresh absent)
      (congrArg SessionSubTaskState.records delegated) rfl
  · exact ⟨_, instruction, (rows task).trans (if_pos rfl), rfl, rfl, rfl, List.lookup_cons_self⟩
  · intro other different
    have elsewhere : (SubtaskOp.delegate task taskType).target ≠ some other :=
      fun own => different (Option.some.inj own).symm
    refine SessionSubTaskState.perform_getRecord_of_ne elsewhere ?_
    rw [SessionSubTaskState.perform, valid.fresh absent]
    rfl
  · intro other different
    exact (rows other).trans (if_neg different)
  · intro other different
    have elsewhere : (other == task) = false := beq_eq_false_iff_ne.mpr different
    change List.lookup other ((task, instruction) :: store.instructions) = _
    simp only [List.lookup_cons, elsewhere]

/-- The write that an operation issues. -/
def Issues (store : SubtaskStore) : StatusOp → TaskWrite → Prop
  | .delegate task _ taskType _ .started _, write => write =
      { task := task, status := runningStatus taskType, summary := ""
        persisted := runningStatus taskType, taskType := taskType }
  | .delegate task _ taskType _ .unpublished _, write => write =
      { task := task, status := "failed", summary := busUnavailable
        persisted := "failed", taskType := taskType }
  | .delegate _ _ _ _ .abandoned _, _ => False
  | .mark task status summary, write => ∃ taskType,
      (∃ row, store.getRow task = some row ∧ row.text "task_type" = some taskType) ∧ write =
        { task := task, status := SessionSubTaskState.normalizedTerminal status
          summary := summary, persisted := orElse (lower (strip status)) "completed"
          taskType := taskType }
  | .report task report, write => ∃ taskType,
      write =
        { task := task, status := SessionSubTaskState.normalizedTerminal (reportStatus report)
          summary := reportPayload report, persisted := reportStatus report
          taskType := taskType }
  | .kill _, write => ∃ task taskType, write =
      { task := task, status := "cancelled", summary := cancelledByUser
        persisted := "cancelled", taskType := taskType }
  | .message _ _ _, write => ∃ task taskType, write =
      { task := task, status := runningStatus taskType, summary := ""
        persisted := runningStatus taskType, taskType := taskType }
  | .restart, _ => False

/-- A running status is not terminal. -/
theorem running_not_terminal {status : String} (running : startsWith status "running" = true) :
    isTerminalStatus status = false := by
  rw [Bool.eq_false_iff, ne_eq, isTerminalStatus, decide_eq_true_eq]
  intro ended
  simp only [terminalStatuses, List.mem_cons, List.not_mem_nil, or_false] at ended
  rcases ended with rfl | rfl | rfl <;> revert running <;> decide

/-- What an operation may leave: the store as it was, the row of a task that did not start,
a process without records, or the result of one write. -/
inductive Outcome (store : SubtaskStore) (op : StatusOp) : SubtaskStore → Prop
  | unchanged : Outcome store op store
  | created (row : SubSessionRow) (absent : store.getRow row.id = none) :
      Outcome store op { store with rows := store.rows ++ [row] }
  | restarted (ended : op = .restart) : Outcome store op store.restart
  | written {after : SubtaskStore} (write : TaskWrite) (issued : store.Issues op write)
      (writes : Writes store after write) : Outcome store op after

/-- A record that is not terminal is marked. -/
theorem markTerminal_running {state : SessionSubTaskState} {record : SubTaskRecord}
    (stored : state.getRecord task = some record) (status summary : String) :
    (state.markTerminal task status summary).1 = !isTerminalStatus record.status := by
  simp only [SessionSubTaskState.markTerminal, stored]
  cases isTerminalStatus record.status <;> rfl

/-- What the delegation of a task does. -/
theorem Valid.delegateTask_outcome (valid : store.Valid)
    (task instruction taskType : String) (others : JsonObject) (startup : Startup)
    (error : String) :
    store.Outcome (.delegate task instruction taskType others startup error)
      (store.delegateTask task instruction taskType others startup error).2 := by
  rw [delegateTask]
  split
  · exact .unchanged
  split
  · exact .unchanged
  have absent : store.getRow task = none := by simpa using ‹¬(store.getRow task).isSome = true›
  have written := valid.registered absent instruction taskType others
  cases startup with
  | abandoned => exact .created (delegatedRow task instruction taskType others) absent
  | started => exact .written _ rfl written
  | unpublished =>
      -- The task is running when its wakeup fails, so the mark finds a running record.
      have again := written.valid valid fun _ => rfl
      obtain ⟨record, stored, status, _⟩ := written.record
      have running : isTerminalStatus record.status = false := by
        rw [status]
        exact runningStatus_running taskType
      obtain ⟨persisted, ⟨row, found, typed⟩, marked⟩ :=
        again.mark stored running "failed" busUnavailable "failed"
      obtain ⟨created, _, known, _, kept, _⟩ := written.row
      rw [known, Option.some.injEq] at found
      rw [← found, kept, Option.some.injEq] at typed
      subst typed
      exact .written _ rfl (written.trans marked rfl)

/-- What the mark of a task does. -/
theorem Valid.markSubtaskIfNonTerminal_outcome (valid : store.Valid)
    (task status summary : String) :
    store.Outcome (.mark task status summary)
      (store.markSubtaskIfNonTerminal task status summary) := by
  rw [markSubtaskIfNonTerminal]
  split
  · exact .unchanged
  split
  · exact .unchanged
  obtain ⟨record, stored⟩ := valid.bound task (not_not.mp ‹¬task ∉ store.bound›)
  have running : isTerminalStatus record.status = false := by
    rw [← SessionSubTaskState.isTerminal_eq stored]
    exact Bool.not_eq_true _ ▸ ‹¬store.state.isTerminal task = true›
  obtain ⟨taskType, typed, marked⟩ := valid.mark stored running status summary
    (orElse (lower (strip status)) "completed")
  exact .written _ ⟨taskType, typed, rfl⟩ marked

/-- What the report of a task does. -/
theorem Valid.reportSubtaskDone_outcome (valid : store.Valid) (task : String)
    (report : SubtaskReport) :
    store.Outcome (.report task report) (store.reportSubtaskDone task report).2 := by
  simp only [reportSubtaskDone]
  split
  · exact .unchanged
  split
  · exact .unchanged
  obtain ⟨record, stored⟩ := valid.bound task (not_not.mp ‹¬task ∉ store.bound›)
  have changed := markTerminal_running stored (reportStatus report) (reportPayload report)
  split
  · exact .unchanged
  · rename_i state marks
    rw [marks, eq_comm, Bool.not_eq_true'] at changed
    obtain ⟨taskType, _, marked⟩ := valid.mark stored changed (reportStatus report)
      (reportPayload report) (reportStatus report)
    rw [marks] at marked
    exact .written _ ⟨taskType, rfl⟩ marked

/-- What the kill of a task does. -/
theorem Valid.killSubtask_outcome (valid : store.Valid) (reference : String) :
    store.Outcome (.kill reference) (store.killSubtask reference).2 := by
  simp only [killSubtask]
  split
  · exact .unchanged
  cases store.state.resolveTaskId (strip reference) with
  | none => exact .unchanged
  | some task =>
      simp only
      cases stored : store.state.getRecord task with
      | none => exact .unchanged
      | some record =>
          simp only
          split
          · obtain ⟨taskType, _, marked⟩ := valid.mark stored
              (running_not_terminal ‹startsWith record.status "running" = true›) "cancelled"
              cancelledByUser "cancelled"
            exact .written _ ⟨task, taskType, rfl⟩ marked
          · exact .unchanged

/-- What a message to a task does. -/
theorem Valid.messageSubtask_outcome (valid : store.Valid)
    (reference message taskType : String) :
    store.Outcome (.message reference message taskType)
      (store.messageSubtask reference message taskType).2 := by
  simp only [messageSubtask]
  split
  · exact .unchanged
  split
  · exact .unchanged
  cases store.state.resolveTaskId (strip reference) with
  | none => exact .unchanged
  | some task =>
      simp only
      cases stored : store.state.getRecord task with
      | none => exact .unchanged
      | some record => exact .written _ ⟨task, _, rfl⟩ (valid.message stored _)

/-- Every operation has its outcome. -/
theorem Valid.perform_outcome (valid : store.Valid) : ∀ op, store.Outcome op (store.perform op)
  | .delegate task instruction taskType others startup error =>
      valid.delegateTask_outcome task instruction taskType others startup error
  | .mark task status summary => valid.markSubtaskIfNonTerminal_outcome task status summary
  | .report task report => valid.reportSubtaskDone_outcome task report
  | .kill reference => valid.killSubtask_outcome reference
  | .message reference message taskType => valid.messageSubtask_outcome reference message taskType
  | .restart => .restarted rfl

/-- A write of a running status clears the summary. -/
theorem Issues.quiet {op : StatusOp} (issued : store.Issues op write)
    (running : isTerminalStatus write.status = false) : write.summary = "" := by
  cases op with
  | delegate _ _ _ _ startup _ =>
      cases startup with
      | abandoned => exact issued.elim
      | unpublished =>
          cases issued
          cases running
      | started =>
          cases issued
          rfl
  | mark =>
      obtain ⟨_, _, rfl⟩ := issued
      simp only [SessionSubTaskState.normalizedTerminal_terminal, Bool.true_eq_false] at running
  | report =>
      obtain ⟨_, rfl⟩ := issued
      simp only [SessionSubTaskState.normalizedTerminal_terminal, Bool.true_eq_false] at running
  | kill =>
      obtain ⟨_, _, rfl⟩ := issued
      cases running
  | message =>
      obtain ⟨_, _, rfl⟩ := issued
      rfl
  | restart => exact issued.elim

/-- A store without tasks is valid. -/
theorem valid_initial (mainSessionId : String) :
    Valid { mainSessionId := mainSessionId } where
  bound := nofun
  described := nofun
  quiet := nofun

/-- A new row keeps the store valid. -/
theorem Valid.created (valid : store.Valid) (row : SubSessionRow)
    (absent : store.getRow row.id = none) : Valid { store with rows := store.rows ++ [row] } where
  bound := valid.bound
  quiet := valid.quiet
  described task record stored := by
    obtain ⟨old, instruction, taskType, found, given, known, typed⟩ :=
      valid.described task record stored
    refine ⟨old, instruction, taskType, ?_, given, known, typed⟩
    rw [getRow_append row rfl absent, if_neg, found]
    rintro rfl
    rw [absent] at found
    cases found

/-- A store is valid after a restart. -/
theorem Valid.restart (store : SubtaskStore) : store.restart.Valid where
  bound := nofun
  described := nofun
  quiet := nofun

/-- Every operation keeps the store valid. -/
theorem Valid.perform (valid : store.Valid) (op : StatusOp) : (store.perform op).Valid := by
  have outcome := valid.perform_outcome op
  generalize store.perform op = after at outcome
  cases outcome with
  | unchanged => exact valid
  | created row absent => exact valid.created row absent
  | restarted => exact .restart store
  | written write issued writes => exact writes.valid valid issued.quiet

/-- The store is valid in every run. -/
theorem reachable_valid {guard : Machine.Guard SubtaskStore StatusOp}
    (reached : machine.Reachable guard store) : store.Valid := by
  refine reached.invariant ?_ fun before op _ valid _ stepped => ?_
  · rintro _ ⟨mainSessionId, rfl⟩
    exact valid_initial mainSessionId
  · cases stepped
    exact valid.perform op

/-! ## Agreement -/

/-- The row of a recorded task carries the status of the record, and the task list shows the
task under the same status after a restart. -/
def Agrees (store : SubtaskStore) (task : String) : Prop :=
  ∀ record, store.state.getRecord task = some record →
    store.persistedStatus task = some record.status ∧
    ∃ entry later, store.shown task = some entry ∧ store.restart.shown task = some later ∧
      later.status = entry.status ∧ later.statusDisplay = entry.statusDisplay

/-- The task list shows a task after a restart as it did before. -/
def SnapshotKept (store : SubtaskStore) (task : String) : Prop :=
  store.restart.shown task = store.shown task

/-- A running status is not blank. -/
theorem strip_runningStatus (taskType : String) : strip (runningStatus taskType) ≠ "" := by
  rw [ne_eq, strip_eq_empty_iff]
  intro spaces
  have letter := spaces 'r' (by
    rw [runningStatus, String.toList_append]
    exact List.mem_append_left _ (by decide))
  revert letter
  decide

/-- A terminal status is shown as it is, for a general task. -/
theorem terminal_shown {status : String} (ended : isTerminalStatus status = true)
    (persisted : String) : shownStatus status persisted = status ∧
      statusDisplay status = status ∧ taskTypeFromStatus status = "general" ∧
      status.toList.length < 32 := by
  rw [isTerminalStatus, decide_eq_true_eq] at ended
  simp only [terminalStatuses, List.mem_cons, List.not_mem_nil, or_false] at ended
  rcases ended with rfl | rfl | rfl <;> exact ⟨rfl, rfl, rfl, by decide⟩

/-- A text below the length is a truncated one only by itself. -/
theorem truncated_eq_iff {text short : String} {length : Nat}
    (fits : short.toList.length < length) : truncated text length = short ↔ text = short := by
  constructor
  · intro same
    have items := congrArg String.toList same
    rw [truncated, String.toList_ofList] at items
    have size := congrArg List.length items
    rw [List.length_take] at size
    rw [List.take_of_length_le (by omega)] at items
    exact String.toList_inj.mp items
  · rintro rfl
    rw [truncated, List.take_of_length_le fits.le, String.ofList_toList]

/-- The entry of a recorded task. -/
theorem taskRow_recorded {row : SubSessionRow} {record : SubTaskRecord}
    {persisted instruction : String} (stored : store.state.getRecord row.id = some record)
    (kept : row.text "subtask_status" = some persisted)
    (given : row.text "instruction" = some instruction)
    (known : store.instructions.lookup row.id = some instruction) :
    store.taskRow row = store.entry row (shownStatus record.status persisted)
      (taskTypeFromStatus (shownStatus record.status persisted)) (strip instruction)
      (if record.summary = "" then none else some record.summary) := by
  have same : orElse (strip instruction) (strip instruction) = strip instruction := by
    rw [orElse, ite_id]
  simp only [taskRow, stored, kept, given, known, Option.elim, Option.getD_some, same,
    Option.bind_some]

/-- The entry of a task after a restart. -/
theorem taskRow_restart {row : SubSessionRow} {persisted taskType instruction : String}
    (kept : row.text "subtask_status" = some persisted)
    (typed : row.text "task_type" = some taskType)
    (given : row.text "instruction" = some instruction) :
    store.restart.taskRow row = store.entry row (shownStatus "" persisted)
      (taskTypeFromStatus (runningStatus taskType)) (strip instruction) none := by
  have recorded : store.restart.state.getRecord row.id = none := rfl
  have known : store.restart.instructions.lookup row.id = none := rfl
  have empty : orElse (strip "") (strip instruction) = strip instruction := if_pos (by decide)
  simp only [taskRow, recorded, known, kept, typed, given, Option.elim, Option.getD_some,
    Option.getD_none, empty, Option.bind_none]
  rfl

/-- After a restart the status of the row is shown. -/
theorem shownStatus_restart {status persisted : String} (agree : status = persisted) :
    shownStatus "" persisted = shownStatus status persisted := by
  have empty : strip "" = "" := by decide
  simp only [shownStatus, agree, empty, orElse, ↓reduceIte]
  split <;> simp only [*]

/-- Equal entries show the same status, type and detail. -/
theorem entry_inj {row : SubSessionRow} {status other taskType otherType instruction : String}
    {detail otherDetail : Option String}
    (same : store.entry row status taskType instruction detail =
      store.entry row other otherType instruction otherDetail) :
    truncated status 64 = truncated other 64 ∧ truncated taskType 32 = truncated otherType 32 ∧
      detail = otherDetail :=
  ⟨congrArg SubagentTaskState.status same, congrArg SubagentTaskState.taskType same,
    congrArg SubagentTaskState.detail same⟩

/-- The two entries of a task that a write is about. -/
theorem Writes.entries (writes : Writes before after write) :
    ∃ row instruction, after.shown write.task = some (after.entry row
        (shownStatus write.status write.persisted)
        (taskTypeFromStatus (shownStatus write.status write.persisted)) (strip instruction)
        (if write.summary = "" then none else some write.summary)) ∧
      after.restart.shown write.task = some (after.entry row (shownStatus "" write.persisted)
        (taskTypeFromStatus (runningStatus write.taskType)) (strip instruction) none) := by
  obtain ⟨record, stored, status, summary⟩ := writes.record
  obtain ⟨row, instruction, found, kept, typed, given, known⟩ := writes.row
  have own : row.id = write.task := by simpa using List.find?_some found
  rw [← own] at stored known
  refine ⟨row, instruction, ?_, ?_⟩
  · rw [shown_eq, found, Option.map_some, taskRow_recorded stored kept given known, status, summary]
  · have later : after.restart.getRow write.task = some row := found
    rw [shown_eq, later, Option.map_some, taskRow_restart kept typed given]

/-- **A running status.** A task that an operation leaves running is shown the same after a
restart. -/
theorem Writes.snapshotKept_running (writes : Writes before after write)
    (running : write.status = runningStatus write.taskType)
    (agree : write.status = write.persisted) (quiet : write.summary = "") :
    after.SnapshotKept write.task := by
  obtain ⟨row, instruction, now, later⟩ := writes.entries
  have typed : taskTypeFromStatus (shownStatus write.status write.persisted) =
      taskTypeFromStatus (runningStatus write.taskType) := by
    have present := strip_runningStatus write.taskType
    rw [← agree, running, shownStatus, orElse, orElse, ite_id, if_neg present]
    simp only [taskTypeFromStatus, strip_strip]
  rw [SnapshotKept, now, later, typed, shownStatus_restart agree, if_pos quiet]

/-- **A terminal status.** A task that an operation leaves terminal is shown the same after a
restart exactly when its row names the status, its record has no summary, and its type is the
general one. -/
theorem Writes.snapshotKept_terminal (writes : Writes before after write)
    (ended : isTerminalStatus write.status = true) :
    after.SnapshotKept write.task ↔ shownStatus "" write.persisted = write.status ∧
      write.summary = "" ∧ taskTypeFromStatus (runningStatus write.taskType) = "general" := by
  obtain ⟨row, instruction, now, later⟩ := writes.entries
  obtain ⟨status, _, general, short⟩ := terminal_shown ended write.persisted
  rw [status, general] at now
  rw [SnapshotKept, now, later, Option.some.injEq]
  constructor
  · intro same
    obtain ⟨statuses, types, details⟩ := entry_inj same
    rw [truncated_eq_iff (by decide : "general".toList.length < 32) |>.mpr rfl,
      truncated_eq_iff (by decide)] at types
    rw [(truncated_eq_iff (by omega : write.status.toList.length < 64)).mpr rfl,
      truncated_eq_iff (by omega)] at statuses
    refine ⟨statuses, ?_, types⟩
    by_contra some_summary
    rw [if_neg some_summary] at details
    cases details
  · rintro ⟨statuses, quiet, types⟩
    rw [statuses, types, if_pos quiet]

/-- In a valid store only the persisted status is in question. -/
theorem Valid.agrees_iff (valid : store.Valid) : store.Agrees task ↔
    ∀ record, store.state.getRecord task = some record →
      store.persistedStatus task = some record.status := by
  refine ⟨fun agrees record stored => (agrees record stored).1, fun kept record stored => ?_⟩
  have persisted := kept record stored
  refine ⟨persisted, ?_⟩
  obtain ⟨row, instruction, taskType, found, given, known, typed⟩ :=
    valid.described task record stored
  have own : row.id = task := by simpa using List.find?_some found
  rw [persistedStatus, found, Option.bind_some] at persisted
  rw [← own] at stored known
  have later : store.restart.getRow task = some row := found
  refine ⟨store.taskRow row, store.restart.taskRow row, ?_, ?_, ?_⟩
  · rw [shown_eq, found, Option.map_some]
  · rw [shown_eq, later, Option.map_some]
  · rw [taskRow_recorded stored persisted given known, taskRow_restart persisted typed given,
      shownStatus_restart rfl]
    simp only [entry, and_self]

/-- Record and row agree exactly when the write gives them one status. -/
theorem Writes.agrees_iff (writes : Writes before after write) (valid : after.Valid) :
    after.Agrees write.task ↔ write.status = write.persisted := by
  obtain ⟨record, stored, status, _⟩ := writes.record
  obtain ⟨row, _, found, kept, _⟩ := writes.row
  have persisted : after.persistedStatus write.task = some write.persisted := by
    rw [persistedStatus, found, Option.bind_some, kept]
  rw [valid.agrees_iff, persisted]
  constructor
  · intro agrees
    rw [← status]
    exact (Option.some.inj (agrees record stored)).symm
  · intro same other found
    rw [stored, Option.some.injEq] at found
    rw [← found, status, same]

/-- The operation records a status that it also persists: what is asked for is a terminal
status once it is read as the operation reads it. -/
def Recordable : StatusOp → Prop
  | .mark _ status _ => orElse (lower (strip status)) "completed" ∈ terminalStatuses
  | .report _ report => reportStatus report ∈ terminalStatuses
  | _ => True

instance : DecidablePred Recordable
  | .mark _ status _ =>
      inferInstanceAs (Decidable (orElse (lower (strip status)) "completed" ∈ terminalStatuses))
  | .report _ report => inferInstanceAs (Decidable (reportStatus report ∈ terminalStatuses))
  | .delegate _ _ _ _ _ _ => isTrue trivial
  | .kill _ => isTrue trivial
  | .message _ _ _ => isTrue trivial
  | .restart => isTrue trivial

/-- The operation leaves nothing in the task's entry that the row does not have: no
summary, and no type other than the one read from a terminal status. -/
def Reproducible (store : SubtaskStore) : StatusOp → Prop
  | .delegate _ _ _ _ startup _ => startup ≠ .unpublished
  | .mark task _ summary => summary = "" ∧ ∀ row, store.getRow task = some row →
      ∀ taskType, row.text "task_type" = some taskType →
        taskTypeFromStatus (runningStatus taskType) = "general"
  | .report _ _ => False
  | .kill _ => False
  | .message _ _ _ => True
  | .restart => True

/-- A given status is normalized to itself exactly when it is a terminal one. -/
theorem normalizedTerminal_eq_iff {status : String} :
    SessionSubTaskState.normalizedTerminal status = orElse (lower (strip status)) "completed" ↔
      orElse (lower (strip status)) "completed" ∈ terminalStatuses := by
  rw [SessionSubTaskState.normalizedTerminal]
  constructor
  · intro same
    by_contra other
    rw [if_neg other] at same
    exact other (same ▸ by decide)
  · exact fun ended => if_pos ended

/-- A reported status is normalized to itself exactly when it is a terminal one. -/
theorem normalizedTerminal_reportStatus {report : SubtaskReport} :
    SessionSubTaskState.normalizedTerminal (reportStatus report) = reportStatus report ↔
      reportStatus report ∈ terminalStatuses := by
  generalize reportStatus report = status
  constructor
  · intro same
    have ended := SessionSubTaskState.normalizedTerminal_terminal status
    rwa [same, isTerminalStatus, decide_eq_true_eq] at ended
  · intro ended
    simp only [terminalStatuses, List.mem_cons, List.not_mem_nil, or_false] at ended
    rcases ended with rfl | rfl | rfl <;> decide

/-- A mark persists a stripped status that is not empty. -/
theorem shownStatus_marked (status : String) :
    shownStatus "" (orElse (lower (strip status)) "completed") =
      orElse (lower (strip status)) "completed" := by
  have stripped : strip (orElse (lower (strip status)) "completed") =
      orElse (lower (strip status)) "completed" := by
    rw [orElse]
    split
    · decide
    · rw [strip_lower, strip_strip]
  have present : orElse (lower (strip status)) "completed" ≠ "" := by
    rw [orElse]
    split
    · decide
    · assumption
  have empty : strip "" = "" := by decide
  rw [shownStatus, stripped, empty]
  generalize orElse (lower (strip status)) "completed" = persisted at present
  simp only [orElse, present, ↓reduceIte]

/-- A report has a text. -/
theorem reportPayload_ne_empty (report : SubtaskReport) : reportPayload report ≠ "" := by
  intro empty
  have closing : contains (reportPayload report) "Needs" = true := by
    rw [reportPayload]
    refine contains_intercalate (List.mem_append_right _ (List.mem_singleton_self _)) ?_
    cases report.needsFollowup <;> decide
  rw [empty] at closing
  revert closing
  decide

/-- A write gives one status exactly when its operation is recordable. -/
theorem Issues.agree_iff {op : StatusOp} (issued : store.Issues op write) :
    write.status = write.persisted ↔ Recordable op := by
  cases op with
  | delegate _ _ _ _ startup _ =>
      cases startup with
      | abandoned => exact issued.elim
      | unpublished =>
          cases issued
          exact iff_of_true rfl trivial
      | started =>
          cases issued
          exact iff_of_true rfl trivial
  | mark =>
      obtain ⟨_, _, rfl⟩ := issued
      simp only [Recordable, normalizedTerminal_eq_iff]
  | report =>
      obtain ⟨_, rfl⟩ := issued
      simp only [Recordable, normalizedTerminal_reportStatus]
  | kill =>
      obtain ⟨_, _, rfl⟩ := issued
      exact iff_of_true rfl trivial
  | message =>
      obtain ⟨_, _, rfl⟩ := issued
      exact iff_of_true rfl trivial
  | restart => exact issued.elim

/-- A restart keeps what is shown exactly when the operation can be reproduced. -/
theorem Writes.snapshotKept_iff {op : StatusOp} (writes : Writes store after write)
    (issued : store.Issues op write) :
    after.SnapshotKept write.task ↔ Recordable op ∧ store.Reproducible op := by
  cases op with
  | delegate _ _ _ _ startup _ =>
      cases startup with
      | abandoned => exact issued.elim
      | unpublished =>
          cases issued
          rw [writes.snapshotKept_terminal rfl]
          have told : busUnavailable ≠ "" := by decide
          exact iff_of_false (fun kept => told kept.2.1) fun kept => kept.2 rfl
      | started =>
          cases issued
          exact iff_of_true (writes.snapshotKept_running rfl rfl rfl) ⟨trivial, nofun⟩
  | mark task status summary =>
      obtain ⟨taskType, ⟨row, found, typed⟩, rfl⟩ := issued
      have ended := SessionSubTaskState.normalizedTerminal_terminal status
      simp only [writes.snapshotKept_terminal, ended]
      have unique : (∀ other, store.getRow task = some other →
          ∀ kind, other.text "task_type" = some kind →
            taskTypeFromStatus (runningStatus kind) = "general") ↔
          taskTypeFromStatus (runningStatus taskType) = "general" := by
        constructor
        · exact fun types => types row found taskType typed
        · intro general other same kind read
          rw [found, Option.some.injEq] at same
          subst same
          rw [typed, Option.some.injEq] at read
          exact read ▸ general
      rw [shownStatus_marked, Reproducible, unique, Recordable, eq_comm, normalizedTerminal_eq_iff]
  | report _ report =>
      obtain ⟨_, rfl⟩ := issued
      have ended := SessionSubTaskState.normalizedTerminal_terminal (reportStatus report)
      simp only [writes.snapshotKept_terminal, ended]
      exact iff_of_false (fun kept => reportPayload_ne_empty report kept.2.1) fun kept => kept.2
  | kill =>
      obtain ⟨_, _, rfl⟩ := issued
      rw [writes.snapshotKept_terminal rfl]
      have told : cancelledByUser ≠ "" := by decide
      exact iff_of_false (fun kept => told kept.2.1) fun kept => kept.2
  | message =>
      obtain ⟨_, _, rfl⟩ := issued
      exact iff_of_true (writes.snapshotKept_running rfl rfl rfl) ⟨trivial, trivial⟩
  | restart => exact issued.elim

/-- Operations that ask for statuses that can be recorded keep every task in agreement. -/
theorem Valid.agrees_perform (valid : store.Valid) {op : StatusOp} (recordable : Recordable op)
    (agrees : ∀ task, store.Agrees task) (task : String) : (store.perform op).Agrees task := by
  have still := valid.perform op
  have outcome := valid.perform_outcome op
  generalize store.perform op = after at outcome still
  cases outcome with
  | unchanged => exact agrees task
  | created row absent =>
      rw [still.agrees_iff]
      intro record stored
      have kept := valid.agrees_iff.mp (agrees task) record stored
      obtain ⟨old, found, persisted⟩ := Option.bind_eq_some_iff.mp kept
      rw [persistedStatus, getRow_append row rfl absent, if_neg, found, Option.bind_some, persisted]
      rintro rfl
      rw [absent] at found
      cases found
  | restarted => exact fun record stored => nomatch stored
  | written write issued writes =>
      by_cases own : task = write.task
      · rw [own, writes.agrees_iff still]
        exact issued.agree_iff.mpr recordable
      · rw [still.agrees_iff, writes.records_of_ne task own, persistedStatus,
          writes.rows_of_ne task own]
        exact valid.agrees_iff.mp (agrees task)

/-- Only a write about a task, or the end of the process, changes the record of the task. -/
theorem Valid.changed (valid : store.Valid) {op : StatusOp}
    (changed : (store.perform op).state.getRecord task ≠ store.state.getRecord task) :
    op = .restart ∨ ∃ write, store.Issues op write ∧ Writes store (store.perform op) write ∧
      write.task = task := by
  have outcome := valid.perform_outcome op
  generalize performed : store.perform op = after at outcome changed
  cases outcome with
  | unchanged => exact absurd rfl changed
  | created row absent => exact absurd rfl changed
  | restarted ended => exact Or.inl ended
  | written write issued writes =>
      refine Or.inr ⟨write, issued, writes, ?_⟩
      by_contra other
      exact changed (writes.records_of_ne task (Ne.symm other))

/-- The store is valid, and all its tasks agree. -/
def Agreement (store : SubtaskStore) : Prop := store.Valid ∧ ∀ task, store.Agrees task

/-- Record and row agree in every run of recordable operations. -/
theorem reachable_agreement
    (reached : machine.Reachable (fun _ op => Recordable op) store) : store.Agreement := by
  refine reached.invariant ?_ ?_
  · rintro _ ⟨mainSessionId, rfl⟩
    exact ⟨valid_initial mainSessionId, nofun⟩
  · intro before op _ held recordable stepped
    cases stepped
    exact ⟨held.1.perform op, held.1.agrees_perform recordable held.2⟩

/-- **Agreement of the statuses.** As long as every status asked for can be recorded, the row
of every task carries the status of its record, and the task list shows that status after a
restart. Whatever was asked for before, an operation that changes the record of a task leaves
the two in agreement exactly when its own status can be recorded; the whole entry of the task
survives a restart exactly when, besides, the entry has no summary and no type that a terminal
status does not show. -/
theorem status_agreement (op : StatusOp) (task : String)
    (reached : machine.Reachable Machine.anyStep store) :
    (machine.Reachable (fun _ op => Recordable op) store → store.Agrees task) ∧
    ((store.perform op).state.getRecord task ≠ store.state.getRecord task →
      ((store.perform op).Agrees task ↔ Recordable op) ∧
      ((store.perform op).SnapshotKept task ↔ Recordable op ∧ store.Reproducible op)) := by
  refine ⟨fun recordable => (reachable_agreement recordable).2 task, fun changed => ?_⟩
  have valid := reachable_valid reached
  rcases valid.changed changed with rfl | ⟨write, issued, writes, rfl⟩
  · exact ⟨iff_of_true nofun trivial, iff_of_true rfl ⟨trivial, trivial⟩⟩
  · exact ⟨(writes.agrees_iff (valid.perform op)).trans issued.agree_iff,
      writes.snapshotKept_iff issued⟩

/-- A task is delegated, and later reports itself as done. -/
def startTask : StatusOp := .delegate "sess_sub_1" "Sum the numbers." "code" [] .started ""

/-- The task reports that it is done. -/
def doneReport : StatusOp :=
  .report "sess_sub_1" { status := "done", summary := "The sum is 6." }

/-- The store with the task started. -/
def startedStore : SubtaskStore := perform { mainSessionId := "sess" } startTask

/-- The store with the task reported. -/
def doneStore : SubtaskStore := startedStore.perform doneReport

/-- The start of the task is a run. -/
theorem startedStore_reachable : machine.Reachable Machine.anyStep startedStore :=
  .tail (.initial ⟨"sess", rfl⟩) trivial (rfl : machine.step _ startTask = some startedStore)

/-- What the report breaks and keeps, by its status. -/
theorem status_agreement_done :
    machine.Reachable Machine.anyStep startedStore ∧
    doneStore.state.getRecord "sess_sub_1" ≠ startedStore.state.getRecord "sess_sub_1" ∧
    (doneStore.Agrees "sess_sub_1" ↔ Recordable doneReport) ∧
    (doneStore.SnapshotKept "sess_sub_1" ↔
      Recordable doneReport ∧ startedStore.Reproducible doneReport) := by
  have changed :
      doneStore.state.getRecord "sess_sub_1" ≠ startedStore.state.getRecord "sess_sub_1" := by
    decide
  exact ⟨startedStore_reachable, changed,
    (status_agreement doneReport "sess_sub_1" startedStore_reachable).2 changed⟩

/-- The record says `completed`, the row says `done`, and the task list shows the one before a
restart and the other after it. -/
theorem done_not_completed :
    machine.Reachable Machine.anyStep startedStore ∧
    (doneStore.state.getRecord "sess_sub_1").map SubTaskRecord.status = some "completed" ∧
    doneStore.persistedStatus "sess_sub_1" = some "done" ∧
    (doneStore.shown "sess_sub_1").map SubagentTaskState.statusDisplay = some "completed" ∧
    (doneStore.restart.shown "sess_sub_1").map SubagentTaskState.statusDisplay = some "done" ∧
    ¬doneStore.Agrees "sess_sub_1" := by
  have recorded :
      (doneStore.state.getRecord "sess_sub_1").map SubTaskRecord.status = some "completed" := by
    decide
  have persisted : doneStore.persistedStatus "sess_sub_1" = some "done" := by decide
  refine ⟨startedStore_reachable, recorded, persisted, by decide, by decide, ?_⟩
  intro agrees
  obtain ⟨record, stored, status⟩ := Option.map_eq_some_iff.mp recorded
  have kept := (agrees record stored).1
  rw [persisted, status, Option.some.injEq] at kept
  exact absurd kept (by decide)

end SubtaskStore

end FairyClaw
