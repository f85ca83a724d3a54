import FairyClaw.Planning.Turn

/-! # Killed tasks

The tool calls of a response are run to the last without consulting the terminal
status or the cancel mark, so a kill that returns between two of them does not stop
the second (`FairyClaw.TurnWorld.tool_after_kill`). In runs in which a kill returns only
when no tool call is left to start, and no response calls tools afterwards, the
killed task starts no tool and no turn, and stays cancelled
(`FairyClaw.TurnWorld.killed_stays_stopped`).
-/

namespace FairyClaw

open Foundation

/-- The tool calls that the turn has still to start. -/
def TurnState.remaining : TurnState → List String
  | beforeTool call rest => call :: rest
  | runningTool _ rest => rest
  | afterTool rest => rest
  | _ => []

/-- The tool calls that a response adds to the turn. -/
def TurnAction.calls : TurnAction → List String
  | respond false response => response.calls
  | _ => []

namespace TurnWorld

variable {task : String} {world next : TurnWorld}

/-- A kill returns when no tool call is left to start, and no response calls tools
after it. -/
def killedBetweenTools : Machine.Guard TurnWorld TurnAction := fun world action =>
  (action = .killReturned → world.turn.remaining = []) ∧
    (world.stopped = true → action.calls = [])

instance : DecidableRel killedBetweenTools := fun world action =>
  inferInstanceAs (Decidable
    ((_ → world.turn.remaining = []) ∧ (world.stopped = true → action.calls = [])))

/-- Tool calls come from responses only. -/
theorem step_remaining {action : TurnAction} (stepped : world.step task action = some next)
    (none_left : world.turn.remaining = []) (none_called : action.calls = []) :
    next.turn.remaining = [] := by
  have effect := step_cases stepped
  cases action with
  | begin =>
      obtain ⟨_, _, ⟨_, rfl⟩ | ⟨_, rfl⟩⟩ := effect
      · exact none_left
      · rfl
  | respond forced response =>
      obtain ⟨_, rfl⟩ := effect
      unfold actOnResponse TurnResponse.branch
      cases forced with
      | true =>
          simp only [↓reduceIte]
          split <;> rfl
      | false =>
          have no_calls : response.calls = [] := none_called
          simp only [Bool.false_eq_true, ↓reduceIte, no_calls]
          split <;> rfl
  | startTool =>
      obtain ⟨_, _, stood, _⟩ := effect
      rw [stood] at none_left
      cases none_left
  | toolEnded =>
      obtain ⟨_, _, stood, rfl⟩ := effect
      rw [stood] at none_left
      exact none_left
  | nextTool =>
      obtain ⟨_, _, stood, _⟩ | ⟨_, rfl⟩ := effect
      · rw [stood] at none_left
        cases none_left
      · unfold handleToolFollowUp
        split <;> rfl
  | report =>
      obtain ⟨_, _, rfl⟩ := effect
      unfold reportSubtaskDone
      split <;> exact none_left
  | persisted =>
      obtain ⟨_, _, rfl⟩ := effect
      unfold afterMark
      split <;> rfl
  | replied =>
      obtain ⟨_, _, rfl⟩ := effect
      rfl
  | read | forceFinish | raised | notified | returned =>
      obtain ⟨_, rfl⟩ := effect
      rfl
  | hookPublish | kill | killReturned | message | append | sent | messageFailed =>
      obtain ⟨_, rfl⟩ := effect
      exact none_left
  | trigger | write =>
      subst effect
      exact none_left
  | other =>
      obtain ⟨_, _, _, rfl⟩ := effect
      exact none_left

/-- The record and the cancel mark of a killed task. -/
structure Cancelled (task : String) (world : TurnWorld) : Prop where
  status : (world.tasks.getRecord task).map SubTaskRecord.status = some "cancelled"
  requested : world.cancelRequested = true

/-- A cancelled task is terminal. -/
theorem Cancelled.isTerminal (cancelled : world.Cancelled task) :
    world.isTerminal task = true := by
  obtain ⟨record, stored, status⟩ := Option.map_eq_some_iff.mp cancelled.status
  rw [TurnWorld.isTerminal, SessionSubTaskState.isTerminal_eq stored, status]
  decide

/-- Nothing but a message touches the record and the cancel mark of a killed task. -/
theorem Cancelled.step (cancelled : world.Cancelled task) {action : TurnAction}
    (stepped : world.step task action = some next) (silent : action.isMessage = false) :
    next.Cancelled task := by
  constructor
  · have kept : next.tasks.getRecord task = world.tasks.getRecord task := by
      rcases step_tasks stepped with same | ⟨_, running, _⟩ | ⟨_, rfl, _⟩ | ⟨op, apart, performed⟩
      · rw [same]
      · rw [cancelled.isTerminal] at running
        cases running
      · cases silent
      · exact SessionSubTaskState.perform_getRecord_of_ne apart performed
    rw [kept]
    exact cancelled.status
  · by_cases others : action.byMainTool = false
    · rw [(step_others stepped others).2.1 cancelled.isTerminal]
      exact cancelled.requested
    · have effect := step_cases stepped
      cases action with
      | message => cases silent
      | kill =>
          obtain ⟨_, rfl⟩ := effect
          rfl
      | killReturned | append | sent | messageFailed =>
          obtain ⟨_, rfl⟩ := effect
          exact cancelled.requested
      | _ => exact (others rfl).elim

/-- The kill of a running task cancels it. -/
theorem kill_cancelled (registered : world.Registered task)
    (running : world.isRunning task = true) : (world.killSubtask task).Cancelled task := by
  refine ⟨?_, rfl⟩
  obtain ⟨record, stored⟩ := Option.isSome_iff_exists.mp registered.known
  have going := isTerminal_of_isRunning running
  rw [TurnWorld.isTerminal, SessionSubTaskState.isTerminal_eq stored] at going
  have marked := SessionSubTaskState.markTerminal_getRecord stored "cancelled"
    "Cancelled by user request."
  rw [going, if_neg Bool.false_ne_true] at marked
  have status : SessionSubTaskState.normalizedTerminal "cancelled" = "cancelled" := by decide
  change (((world.tasks.markTerminal task _ _).2).getRecord task).map _ = _
  rw [marked, Option.map_some, status]

/-- A kill is under way or has returned. -/
def Killed (world : TurnWorld) : Prop := world.mainTool = .killing ∨ world.stopped = true

/-- Kills begin with their tool and end with a message. -/
theorem step_killed {action : TurnAction} (stepped : world.step task action = some next)
    (killed : next.Killed) : action = .kill ∨ (action.isMessage = false ∧ world.Killed) := by
  by_cases others : action.byMainTool = false
  · obtain ⟨⟨tool, stopped⟩, _⟩ := step_others stepped others
    unfold Killed at killed ⊢
    rw [tool, stopped] at killed
    refine Or.inr ⟨?_, killed⟩
    cases action <;> first | rfl | cases others
  · have effect := step_cases stepped
    cases action with
    | kill => exact Or.inl rfl
    | killReturned => exact Or.inr ⟨rfl, Or.inl effect.1⟩
    | message =>
        obtain ⟨_, rfl⟩ := effect
        rcases killed with killing | stopped
        · cases killing
        · cases stopped
    | append | sent | messageFailed =>
        obtain ⟨_, rfl⟩ := effect
        rcases killed with killing | stopped
        · cases killing
        · exact Or.inr ⟨rfl, Or.inr stopped⟩
    | _ => exact (others rfl).elim

/-- A task is stopped by the return of the kill alone. -/
theorem step_stopped {action : TurnAction} (stepped : world.step task action = some next)
    (stopped : next.stopped = true) : action = .killReturned ∨ world.stopped = true := by
  by_cases others : action.byMainTool = false
  · exact Or.inr ((step_others stepped others).1.2 ▸ stopped)
  · have effect := step_cases stepped
    cases action with
    | killReturned => exact Or.inl rfl
    | message =>
        obtain ⟨_, rfl⟩ := effect
        cases stopped
    | kill | append | sent | messageFailed =>
        obtain ⟨_, rfl⟩ := effect
        exact Or.inr stopped
    | _ => exact (others rfl).elim

/-- A killed task is cancelled, and once the kill has returned no tool call is
left to start. -/
structure Stopped (task : String) (world : TurnWorld) : Prop where
  cancelled : world.Killed → world.Cancelled task
  atRest : world.stopped = true → world.turn.remaining = []

/-- A stopped task stays cancelled over a step. -/
theorem Stopped.step (valid : world.Stopped task) (registered : world.Registered task)
    {action : TurnAction} (allowed : killedBetweenTools world action)
    (stepped : world.step task action = some next) : next.Stopped task := by
  constructor
  · intro killed
    rcases step_killed stepped killed with rfl | ⟨silent, earlier⟩
    · obtain ⟨⟨_, running⟩, rfl⟩ := step_cases stepped
      exact kill_cancelled registered running
    · exact (valid.cancelled earlier).step stepped silent
  · intro stopped
    rcases step_stopped stepped stopped with rfl | earlier
    · exact step_remaining stepped (allowed.1 rfl) rfl
    · exact step_remaining stepped (valid.atRest earlier) (allowed.2 earlier)

/-- **A kill stops the task.** In runs in which a kill returns with no tool call left
to start, and responses call no tools afterwards: once it has returned, and until
the next message, the record and the cancel mark stay, no tool call starts, and the
planner publishes no follow-up. -/
theorem killed_stays_stopped (task : String) (world : TurnWorld)
    (reached : (machine task).Reachable killedBetweenTools world) (stopped : world.stopped = true) :
    (world.tasks.getRecord task).map SubTaskRecord.status = some "cancelled" ∧
      world.cancelRequested = true ∧
      ∀ action next, (machine task).step world action = some next →
        (∀ request, action ≠ .startTool request) ∧
          (next.followedUp = true → world.followedUp = true) := by
  have valid : world.Stopped task := by
    obtain ⟨start, started, steps⟩ := reached
    apply invariant_of_registered steps (initial_running started).1
    · intro before action after registered valid allowed stepped
      exact valid.step registered allowed stepped
    · obtain ⟨_, _, _, _, fresh⟩ := started
      rw [fresh]
      exact ⟨nofun, nofun⟩
  have cancelled := valid.cancelled (Or.inr stopped)
  refine ⟨cancelled.status, cancelled.requested, ?_⟩
  intro action next stepped
  have moved : world.step task action = some next := stepped
  constructor
  · intro request starts
    subst starts
    obtain ⟨call, rest, stood, _⟩ := step_cases moved
    have none_left := valid.atRest stopped
    rw [stood] at none_left
    cases none_left
  · intro followed
    by_cases others : action.byMainTool = false
    · exact (step_others moved others).2.2 cancelled.isTerminal ▸ followed
    · have effect := step_cases moved
      cases action with
      | kill | killReturned | message | append | sent | messageFailed =>
          obtain ⟨_, rfl⟩ := effect
          exact followed
      | _ => exact (others rfl).elim

/-- The task is killed while its turn waits for the model, which answers with text. -/
def stoppedRun : List TurnAction :=
  [.trigger, .begin 1, .read, .kill, .killReturned,
    .respond false { text := some "done", calls := [] }, .replied, .persisted, .returned]

/-- The killed task of the run stays cancelled. -/
theorem killed_stays_stopped_of_stoppedRun :
    (after stoppedRun).stopped = true ∧
      ((after stoppedRun).tasks.getRecord "main_sub_1").map SubTaskRecord.status =
        some "cancelled" := by
  have replayed : (machine "main_sub_1").replay killedBetweenTools delegated stoppedRun =
      some (after stoppedRun) := rfl
  have reached := Machine.Reachable.of_replay delegated_initial replayed
  exact ⟨rfl, (killed_stays_stopped "main_sub_1" (after stoppedRun) reached rfl).1⟩

/-- The task is killed while the first of two tool calls runs, and the first ends. -/
def killedRun : List TurnAction :=
  [.trigger, .begin 1, .read,
    .respond false { text := none, calls := ["read_file", "run_command"] }, .startTool "read_file",
    .kill, .killReturned, .toolEnded, .nextTool]

/-- The kill has returned, and the second tool call starts. -/
theorem tool_after_kill : (machine "main_sub_1").Reachable Machine.anyStep (after killedRun) ∧
    (after killedRun).stopped = true ∧
    ((after killedRun).tasks.getRecord "main_sub_1").map SubTaskRecord.status = some "cancelled" ∧
    ∃ next, (machine "main_sub_1").step (after killedRun) (.startTool "run_command") = some next ∧
      next.turn = .runningTool "run_command" [] := by
  have replayed : (machine "main_sub_1").replay Machine.anyStep delegated killedRun =
      some (after killedRun) := rfl
  exact ⟨.of_replay delegated_initial replayed, rfl, by decide, _, rfl, rfl⟩

/-- Tool calls left to start when a kill returns can still start. -/
theorem tool_starts_of_remaining (stopped : world.stopped = true)
    (left : world.turn.remaining ≠ []) :
    ∃ later next request, (machine task).Steps Machine.anyStep world later ∧
      later.stopped = true ∧ (machine task).step later (.startTool request) = some next := by
  have ready {world : TurnWorld} {call : String} {rest : List String}
      (stood : world.turn = .beforeTool call rest) : (machine task).step world (.startTool call) =
        some { world with turn := .runningTool call rest } := by
    change step task world (.startTool call) = _
    simp only [step, stood]
  have follows {world : TurnWorld} {call : String} {rest : List String}
      (stood : world.turn = .afterTool (call :: rest)) : (machine task).step world .nextTool =
        some { world with turn := .beforeTool call rest } := by
    change step task world .nextTool = _
    simp only [step, stood]
  cases stood : world.turn with
  | beforeTool call rest => exact ⟨world, _, call, .refl _, stopped, ready stood⟩
  | afterTool calls =>
      cases calls with
      | nil =>
          rw [stood] at left
          exact (left rfl).elim
      | cons call rest =>
          exact ⟨_, _, call, .tail (.refl _) trivial (follows stood), stopped, ready rfl⟩
  | runningTool request calls =>
      cases calls with
      | nil =>
          rw [stood] at left
          exact (left rfl).elim
      | cons call rest =>
          have ended : (machine task).step world .toolEnded =
              some { world with turn := .afterTool (call :: rest) } := by
            change step task world .toolEnded = _
            simp only [step, stood]
          exact ⟨_, _, call, .tail (.tail (.refl _) trivial ended) trivial (follows rfl), stopped,
            ready rfl⟩
  | _ =>
      rw [stood] at left
      exact (left rfl).elim

end TurnWorld

end FairyClaw
