import FairyClaw.Planning.Turn

/-! # Terminal marks of reopened tasks

A turn that stands before its terminal mark while the task is killed and reopened
marks the reopened record (`FairyClaw.TurnWorld.stale_mark`), and every such
reopening can end so (`FairyClaw.TurnWorld.stale_mark_of_reopened`). In runs that
reopen the task only between turns, or behind their terminal marks, a turn changes
the record only if the task was not reopened since the turn began
(`FairyClaw.TurnWorld.marked_by_own_turn`).
-/

namespace FairyClaw

open Foundation

namespace TurnWorld

variable {task : String} {world next : TurnWorld}

/-- A terminal task is sent a message only while no turn stands before its
terminal mark. -/
def reopensApart (task : String) : Machine.Guard TurnWorld TurnAction := fun world action =>
  action.isMessage = true → world.isTerminal task = true → world.turn.beforeMark = false

instance : DecidableRel (reopensApart task) := fun world _ =>
  inferInstanceAs (Decidable (_ → world.isTerminal task = true → _))

/-- A turn reaches a point before its terminal mark by starting, or from another
such point. -/
theorem step_beforeMark {action : TurnAction} (stepped : world.step task action = some next)
    (stands : next.turn.beforeMark = true) :
    next.birth = next.reopens ∨ (world.turn.beforeMark = true ∧ next.birth = world.birth ∧
      next.reopens = if action.isMessage && world.isTerminal task then world.reopens + 1
        else world.reopens) := by
  have effect := step_cases stepped
  cases action with
  | begin =>
      obtain ⟨idle, _, ⟨_, rfl⟩ | ⟨_, rfl⟩⟩ := effect
      · change world.turn.beforeMark = true at stands
        rw [idle] at stands
        cases stands
      · exact Or.inl rfl
  | read | respond =>
      obtain ⟨before, rfl⟩ := effect
      exact Or.inr ⟨by rw [before]; rfl, rfl, rfl⟩
  | startTool | toolEnded =>
      obtain ⟨_, _, before, rfl⟩ := effect
      exact Or.inr ⟨by rw [before]; rfl, rfl, rfl⟩
  | nextTool =>
      obtain ⟨_, _, before, rfl⟩ | ⟨before, rfl⟩ := effect
      · exact Or.inr ⟨by rw [before]; rfl, rfl, rfl⟩
      · unfold handleToolFollowUp
        split <;> exact Or.inr ⟨by rw [before]; rfl, rfl, rfl⟩
  | report =>
      obtain ⟨_, before, rfl⟩ := effect
      unfold reportSubtaskDone
      split <;> exact Or.inr ⟨by rw [before]; rfl, rfl, rfl⟩
  | forceFinish | raised | returned | notified =>
      obtain ⟨_, rfl⟩ := effect
      cases stands
  | replied =>
      obtain ⟨_, _, rfl⟩ := effect
      cases stands
  | persisted =>
      obtain ⟨_, _, rfl⟩ := effect
      unfold afterMark at stands
      split at stands <;> cases stands
  | hookPublish | kill | killReturned | append | sent | messageFailed | message =>
      obtain ⟨_, rfl⟩ := effect
      exact Or.inr ⟨stands, rfl, rfl⟩
  | trigger | write =>
      subst effect
      exact Or.inr ⟨stands, rfl, rfl⟩
  | other =>
      obtain ⟨_, _, _, rfl⟩ := effect
      exact Or.inr ⟨stands, rfl, rfl⟩

/-- A turn before its terminal mark has seen every reopening of the task. -/
def UpToDate (world : TurnWorld) : Prop :=
  world.turn.beforeMark = true → world.birth = world.reopens

/-- Every step keeps the turn up to date while reopenings stay apart. -/
theorem UpToDate.step (current : world.UpToDate) {action : TurnAction}
    (allowed : reopensApart task world action) (stepped : world.step task action = some next) :
    next.UpToDate := by
  intro stands
  rcases step_beforeMark stepped stands with begun | ⟨stood, sameBirth, reopened⟩
  · exact begun
  · have apart : (action.isMessage && world.isTerminal task) = false := by
      rw [Bool.eq_false_iff, ne_eq, Bool.and_eq_true]
      rintro ⟨messages, ended⟩
      rw [allowed messages ended] at stood
      cases stood
    rw [apart, if_neg Bool.false_ne_true] at reopened
    rw [sameBirth, reopened]
    exact current stood

/-- Only a kill, a message, or a turn before its terminal mark changes the record. -/
theorem step_changes_record {action : TurnAction} (stepped : world.step task action = some next)
    (changed : next.tasks.getRecord task ≠ world.tasks.getRecord task) :
    action = .kill ∨ action.isMessage = true ∨ world.turn.beforeMark = true := by
  rcases step_tasks stepped with same | ⟨marker, _⟩ | ⟨taskType, rfl, _⟩ | ⟨op, apart, performed⟩
  · exact absurd (congrArg (SessionSubTaskState.getRecord · task) same) changed
  · rcases marker with stands | kills
    · exact Or.inr (Or.inr stands)
    · exact Or.inl kills
  · exact Or.inr (Or.inl rfl)
  · exact absurd (SessionSubTaskState.perform_getRecord_of_ne apart performed) changed

/-- **Own terminal marks.** While the task is reopened only between turns or
behind their terminal marks, a record changes only by a kill, by a message, or by
a turn since whose start the task has not been reopened. -/
theorem marked_by_own_turn (task : String) (world next : TurnWorld) (action : TurnAction)
    (reached : (machine task).Reachable (reopensApart task) world)
    (stepped : (machine task).step world action = some next)
    (changed : next.tasks.getRecord task ≠ world.tasks.getRecord task) :
    action = .kill ∨ action.isMessage = true ∨
      (world.turn.beforeMark = true ∧ world.birth = world.reopens) := by
  have current : world.UpToDate := by
    apply reached.invariant
    · rintro start ⟨_, _, _, _, fresh⟩ stands
      rw [fresh] at stands
      cases stands
    · intro before moved after valid allowed stepped
      exact valid.step allowed stepped
  rcases step_changes_record stepped changed with kills | messages | stands
  · exact Or.inl kills
  · exact Or.inr (Or.inl messages)
  · exact Or.inr (Or.inr ⟨stands, current stands⟩)

/-- The exception at this point marks a running task failed. -/
theorem raised_changes_record (known : (world.tasks.getRecord task).isSome = true)
    (running : world.isTerminal task = false) (raises : world.turn.mayRaise = true) (exc : String) :
    ∃ finish, (machine task).step world (.raised exc) = some finish ∧
      finish.tasks.getRecord task ≠ world.tasks.getRecord task := by
  refine ⟨world.handleFailure task exc, if_pos raises, ?_⟩
  intro same
  have ended : (world.handleFailure task exc).tasks.isTerminal task = true :=
    isTerminal_markSubtaskIfNonTerminal known "failed" exc
  unfold SessionSubTaskState.isTerminal at ended
  rw [same] at ended
  exact Bool.false_ne_true (running.symm.trans ended)

/-- After a message that reopens the task within a turn, the same turn can mark
the reopened record. -/
theorem stale_mark_of_reopened {taskType : String}
    (reached : (machine task).Reachable Machine.anyStep world)
    (stepped : (machine task).step world (.message taskType) = some next)
    (ended : world.isTerminal task = true) (stands : world.turn.beforeMark = true) :
    ∃ later finish, (machine task).Steps Machine.anyStep next later ∧
      (machine task).step later (.raised "") = some finish ∧
      finish.tasks.getRecord task ≠ later.tasks.getRecord task ∧ later.birth ≠ later.reopens := by
  have bounded : world.turn.beforeMark = true → world.birth ≤ world.reopens := by
    let Bounded (world : TurnWorld) := world.turn.beforeMark = true → world.birth ≤ world.reopens
    suffices valid : Bounded world from valid
    apply reached.invariant
    · rintro start ⟨_, _, _, _, fresh⟩ stands
      rw [fresh] at stands
      cases stands
    · intro before action after valid _ moved stood
      rcases step_beforeMark moved stood with begun | ⟨standing, sameBirth, reopened⟩
      · exact Nat.le_of_eq begun
      · have earlier := valid standing
        rw [sameBirth, reopened]
        split <;> omega
  have known := (reachable_registered (reached.tail trivial stepped)).known
  have moved : world.step task (.message taskType) = some next := stepped
  obtain ⟨_, rfl⟩ := step_cases moved
  have running : (world.messageSubtask task taskType).isTerminal task = false :=
    SessionSubTaskState.isTerminal_messageTask (reachable_registered reached).known taskType
  have stale : world.birth ≠ (world.messageSubtask task taskType).reopens := by
    have reopened : (world.messageSubtask task taskType).reopens = world.reopens + 1 := if_pos ended
    have earlier := bounded stands
    omega
  by_cases raises : world.turn.mayRaise = true
  · obtain ⟨finish, raised, changed⟩ := raised_changes_record known running raises ""
    exact ⟨_, finish, .refl _, raised, changed, stale⟩
  · -- only a running tool call keeps exceptions from the turn
    have tool : ∃ call rest, world.turn = .runningTool call rest := by
      cases turn : world.turn with
      | runningTool call rest => exact ⟨call, rest, rfl⟩
      | idle | marked | notifying | barrier =>
          rw [turn] at stands
          cases stands
      | _ =>
          rw [turn] at raises
          exact (raises rfl).elim
    obtain ⟨call, rest, tool⟩ := tool
    let ended := { world.messageSubtask task taskType with turn := .afterTool rest }
    have toolEnds : (machine task).step (world.messageSubtask task taskType) .toolEnded =
        some ended := by
      change step task (world.messageSubtask task taskType) .toolEnded = _
      have same : (world.messageSubtask task taskType).turn = .runningTool call rest := tool
      simp only [step, same]
      rfl
    have knownEnded : (ended.tasks.getRecord task).isSome = true := known
    have raises : ended.turn.mayRaise = true := rfl
    obtain ⟨finish, raised, changed⟩ := raised_changes_record knownEnded running raises ""
    exact ⟨ended, finish, .tail (.refl _) trivial toolEnds, raised, changed, stale⟩

/-- The task is killed and reopened before its first turn, which then replies. -/
def reopenedRun : List TurnAction :=
  [.trigger, .kill, .killReturned, .message "general", .append, .sent, .begin 2, .read,
    .respond false { text := some "done", calls := [] }]

/-- The reopened task of the run is marked by its own turn. -/
theorem marked_by_own_turn_of_reopenedRun : (after reopenedRun).reopens = 1 ∧
    ∃ next, (machine "main_sub_1").step (after reopenedRun) .replied = some next ∧
      (next.tasks.getRecord "main_sub_1").map SubTaskRecord.status = some "completed" ∧
      (after reopenedRun).birth = (after reopenedRun).reopens := by
  have replayed : (machine "main_sub_1").replay (reopensApart "main_sub_1") delegated reopenedRun =
      some (after reopenedRun) := rfl
  refine ⟨rfl, _, rfl, by decide, ?_⟩
  rcases marked_by_own_turn "main_sub_1" (after reopenedRun) _ .replied
    (.of_replay delegated_initial replayed) rfl (by decide) with kills | messages | ⟨_, current⟩
  · cases kills
  · cases messages
  · exact current

/-- The first turn has read the history when the task is killed and reopened by a
message, and it replies afterwards. -/
def staleRun : List TurnAction :=
  [.trigger, .begin 1, .read, .kill, .killReturned, .message "general", .append, .sent,
    .respond false { text := some "done", calls := [] }]

/-- The turn that began before the kill completes the reopened task. -/
theorem stale_mark : (machine "main_sub_1").Reachable Machine.anyStep (after staleRun) ∧
    ((after staleRun).birth = 0 ∧ (after staleRun).reopens = 1) ∧
    ((after staleRun).tasks.getRecord "main_sub_1").map SubTaskRecord.status =
      some "running:general" ∧
    ∃ next, (machine "main_sub_1").step (after staleRun) .replied = some next ∧
      (next.tasks.getRecord "main_sub_1").map SubTaskRecord.status = some "completed" := by
  have replayed : (machine "main_sub_1").replay Machine.anyStep delegated staleRun =
      some (after staleRun) := rfl
  exact ⟨.of_replay delegated_initial replayed, ⟨rfl, rfl⟩, by decide, _, rfl, by decide⟩

end TurnWorld

end FairyClaw
