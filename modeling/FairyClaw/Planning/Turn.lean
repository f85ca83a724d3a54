import FairyClaw.Session.Batches
import FairyClaw.Foundation.Machine

/-! # Turns of a sub-session

One sub-session of a main session: its turns, which start by testing
`should_skip`, read the history, wait for the model, run its tool calls and end
through one of the policy's handlers; and the tools of the main session that
message or kill it. Every await of a turn or of a tool is a program point, and
exceptions may arise wherever the source lets them reach `handle_failure`.

A turn starts when the scheduler hands it triggering events; the number of those
published and not yet handed out is kept. Other tasks of the main session may
change the shared subtask state at any point, and rows may be written to the history of
the sub-session at any point, of which a turn reads the newest only.
-/

namespace FairyClaw

open Foundation

/-- Program points of `_run_turn_with_policy`. `beforeTool` and `afterTool` cover
the hooks and writes around a tool call, with the calls that remain; the hooks may
replace the request. -/
inductive TurnState
  | idle
  | preparing
  | deciding
  | replying (text : String)
  | shortReply
  | beforeTool (call : String) (rest : List String)
  | runningTool (call : String) (rest : List String)
  | afterTool (rest : List String)
  | marked (failed : Bool)
  | notifying
  | barrier
  deriving DecidableEq

namespace TurnState

/-- An exception at this point of the turn reaches `handle_failure`; exceptions of
a running tool call are turned into its result. -/
def mayRaise : TurnState → Bool
  | preparing | deciding | replying _ | shortReply | beforeTool _ _ | afterTool _ => true
  | _ => false

/-- Hooks, and tools, run at this point of the turn. -/
def runsHooks : TurnState → Bool
  | preparing | deciding | beforeTool _ _ | runningTool _ _ | afterTool _ => true
  | _ => false

/-- A forced finish ends the turn at this point. -/
def mayFinish : TurnState → Bool
  | shortReply | beforeTool _ _ | afterTool _ => true
  | _ => false

/-- The turn has not passed its terminal mark. -/
def beforeMark : TurnState → Bool
  | idle | marked _ | notifying | barrier => false
  | _ => true

end TurnState

/-- Program points of the main session's tool call on the task. -/
inductive MainTool
  | idle
  | killing
  | messaging
  | appended
  deriving DecidableEq

/-- How far the sub-session has got with an appended message: no turn has begun
since, a turn has begun, or that turn has read it. -/
inductive MessageStage
  | appended
  | begun
  | read
  deriving DecidableEq

/-- A message of `message_subtask` in the history of the sub-session: whether the
tool has returned that it was sent, whether it failed to be sent or the task was
killed or reported done since it was sent, and the number of rows behind it. -/
structure SubtaskMessage where
  stage : MessageStage := .appended
  sent : Bool := false
  excused : Bool := false
  behind : Nat := 0
  deriving DecidableEq

/-- The default limit of `get_history`. -/
def historyLimit : Nat := 50

/-- The message is among the rows that `get_history` loads. -/
def SubtaskMessage.inWindow (message : SubtaskMessage) : Bool := message.behind < historyLimit

/-- The response the turn acts on: the text and the names of the tool calls
after the hooks. -/
structure TurnResponse where
  text : Option String
  calls : List String
  deriving DecidableEq

/-- The response has no tool call, and no text that `handle_text_response` would
act on. -/
def TurnResponse.isEmpty (response : TurnResponse) : Bool :=
  response.calls.isEmpty && response.text.getD "" = ""

/-- Where the turn goes with a response. Forced finishes and replies without text
return at once. -/
def TurnResponse.branch (forceFinish : Bool) (response : TurnResponse) : TurnState :=
  let text := response.text.getD ""
  if forceFinish then
    if text = "" then .idle else .shortReply
  else
    match response.calls with
    | [] => if text = "" then .idle else .replying text
    | call :: rest => .beforeTool call rest

/-- State of the sub-session and of the tool acting on it. The fields from `birth`
on record the run. `birth` and `reopens` count the reopenings of the task before
the current turn began and so far. `response`, `checked`, `followedUp` and
`triggered` are about the current turn: the response acted on, whether the barrier
check found the task terminal, and whether the turn or anybody else has published
a triggering event. `stopped` says that a kill has returned, with no message to the
task since. -/
structure TurnWorld where
  tasks : SessionSubTaskState
  cancelRequested : Bool := false
  owed : Nat := 0
  messages : List SubtaskMessage := []
  turn : TurnState := .idle
  mainTool : MainTool := .idle
  birth : Nat := 0
  reopens : Nat := 0
  response : Option TurnResponse := none
  checked : Bool := false
  followedUp : Bool := false
  triggered : Bool := false
  stopped : Bool := false

/-- Steps of the turn of a subtask, of the tools of the main session, and of the world. -/
inductive TurnAction
  | begin (consumed : Nat)
  | read
  | respond (forceFinish : Bool) (response : TurnResponse)
  | startTool (request : String)
  | report (status summary : String)
  | toolEnded
  | nextTool
  | forceFinish
  | replied
  | raised (exc : String)
  | persisted
  | notified
  | returned
  | hookPublish
  | kill
  | killReturned
  | message (taskType : String)
  | append
  | sent
  | messageFailed
  | trigger
  | write
  | other (op : SubtaskOp)
  deriving DecidableEq

/-- The step opens the task by a message. -/
def TurnAction.isMessage : TurnAction → Bool
  | message _ => true
  | _ => false

/-- The step begins a turn. -/
def TurnAction.begins : TurnAction → Bool
  | begin _ => true
  | _ => false

/-- Steps of `kill_subtask` and `message_subtask`. -/
def TurnAction.byMainTool : TurnAction → Bool
  | kill | killReturned | message _ | append | sent | messageFailed => true
  | _ => false

namespace TurnWorld

variable (task : String) (world : TurnWorld)

/-- The task is terminal. -/
def isTerminal : Bool := world.tasks.isTerminal task

/-- The start of a turn that is not skipped. -/
def startTurn : TurnWorld :=
  { world with
    turn := .preparing
    birth := world.reopens
    messages := world.messages.map fun message =>
      { message with stage := if message.stage = .appended then .begun else message.stage }
    response := none
    checked := false
    followedUp := false
    triggered := false }

/-- `get_history`: the turn reads the messages appended before it began that are still
among the newest rows. -/
def readHistory : TurnWorld :=
  { world with
    turn := .deciding
    messages := world.messages.map fun message =>
      { message with
        stage := if message.stage = .begun && message.inWindow then .read else message.stage } }

/-- The messages behind a further row: a reply or a tool round of the turn, or a row of
anybody else. -/
def writeRow : List SubtaskMessage :=
  world.messages.map fun message => { message with behind := message.behind + 1 }

/-- A kill or a report excuses the messages sent so far. -/
def excuseMessages : List SubtaskMessage :=
  world.messages.map fun message => { message with excused := message.excused || message.sent }

/-- `mark_subtask_if_non_terminal`, up to its database write. -/
def markSubtaskIfNonTerminal (status summary : String) : TurnWorld :=
  { world with
    tasks :=
      if world.isTerminal task then world.tasks
      else (world.tasks.markTerminal task status summary).2 }

/-- The branches of `_run_turn_with_policy` after `_prepare_turn`. -/
def actOnResponse (forceFinish : Bool) (response : TurnResponse) : TurnWorld :=
  { world with turn := response.branch forceFinish, response := some response }

/-- The call of `publish_subtask_barrier_if_ready`. -/
def enterBarrier : TurnWorld :=
  { world with turn := .barrier, checked := world.isTerminal task }

/-- A triggering event published by a hook, a tool of the main session or anybody
else. -/
def publishTrigger : TurnWorld := { world with owed := world.owed + 1, triggered := true }

/-- `SubSessionTurnPolicy.handle_tool_follow_up`, after at least one tool call. -/
def handleToolFollowUp : TurnWorld :=
  if world.isTerminal task then world.enterBarrier task
  else { world with
    turn := .idle
    owed := world.owed + 1
    followedUp := true }

/-- `SubSessionTurnPolicy.handle_failure`, up to its first await. -/
def handleFailure (exc : String) : TurnWorld :=
  { world.markSubtaskIfNonTerminal task "failed" exc with turn := .marked true }

/-- After the status write: a failed task notifies the main session, and then the
barrier is checked. -/
def afterMark (failed : Bool) : TurnWorld :=
  if failed && (world.tasks.getRecord task).any fun record => record.status = "failed" then
    { world with turn := .notifying }
  else world.enterBarrier task

/-- `report_subtask_done` inside a running tool call. -/
def reportSubtaskDone (status summary : String) : TurnWorld :=
  if world.isTerminal task then world
  else { world with
    tasks := (world.tasks.markTerminal task status summary).2
    cancelRequested := false
    messages := world.excuseMessages }

/-- `kill_subtask` on a running task, up to its first await. -/
def killSubtask : TurnWorld :=
  { world with
    tasks := (world.tasks.markTerminal task "cancelled" "Cancelled by user request.").2
    cancelRequested := true
    messages := world.excuseMessages
    mainTool := .killing }

/-- `message_subtask`, up to its first await. -/
def messageSubtask (taskType : String) : TurnWorld :=
  { world with
    tasks := world.tasks.messageTask task taskType
    cancelRequested := false
    mainTool := .messaging
    reopens := if world.isTerminal task then world.reopens + 1 else world.reopens
    stopped := false }

/-- The task can be killed: its status starts with `running`. -/
def isRunning : Bool :=
  (world.tasks.getRecord task).any fun record => startsWith record.status "running"

/-- The appended message has been sent. -/
def markSent : List SubtaskMessage :=
  world.messages.map fun message => { message with sent := message.sent || !message.excused }

/-- The appended message has failed to be sent. -/
def markUnsent : List SubtaskMessage :=
  world.messages.map fun message => { message with excused := message.excused || !message.sent }

/-- A step, or `none` where there is none. -/
def step : TurnAction → Option TurnWorld
  | .begin consumed =>
      if world.turn = .idle ∧ consumed ≤ world.owed then
        let awake := { world with owed := world.owed - consumed }
        if world.isTerminal task then some awake else some awake.startTurn
      else none
  | .read => if world.turn = .preparing then some world.readHistory else none
  | .respond forceFinish response =>
      if world.turn = .deciding then some (world.actOnResponse forceFinish response) else none
  | .startTool request =>
      match world.turn with
      | .beforeTool _ rest => some { world with turn := .runningTool request rest }
      | _ => none
  | .report status summary =>
      match world.turn with
      | .runningTool "report_subtask_done" _ => some (world.reportSubtaskDone task status summary)
      | _ => none
  | .toolEnded =>
      match world.turn with
      | .runningTool _ rest => some { world with turn := .afterTool rest }
      | _ => none
  | .nextTool =>
      match world.turn with
      | .afterTool (call :: rest) => some { world with turn := .beforeTool call rest }
      | .afterTool [] => some (world.handleToolFollowUp task)
      | _ => none
  | .forceFinish => if world.turn.mayFinish then some { world with turn := .idle } else none
  | .replied =>
      match world.turn with
      | .replying text => some
          { world.markSubtaskIfNonTerminal task "completed" text with turn := .marked false }
      | _ => none
  | .raised exc => if world.turn.mayRaise then some (world.handleFailure task exc) else none
  | .persisted =>
      match world.turn with
      | .marked failed => some (world.afterMark task failed)
      | _ => none
  | .notified =>
      if world.turn = .notifying then some (world.enterBarrier task) else none
  | .returned => if world.turn = .barrier then some { world with turn := .idle } else none
  | .hookPublish => if world.turn.runsHooks then some world.publishTrigger else none
  | .kill =>
      if world.mainTool = .idle ∧ world.isRunning task = true then some (world.killSubtask task)
      else none
  | .killReturned =>
      if world.mainTool = .killing then some { world with mainTool := .idle, stopped := true }
      else none
  | .message taskType =>
      if world.mainTool = .idle then some (world.messageSubtask task taskType) else none
  | .append =>
      if world.mainTool = .messaging then
        some { world with mainTool := .appended, messages := world.writeRow ++ [{}] }
      else none
  | .sent =>
      if world.mainTool = .appended then
        some { world.publishTrigger with mainTool := .idle, messages := world.markSent }
      else none
  | .messageFailed =>
      if world.mainTool = .messaging ∨ world.mainTool = .appended then
        some { world with mainTool := .idle, messages := world.markUnsent }
      else none
  | .trigger => some world.publishTrigger
  | .write => some { world with messages := world.writeRow }
  | .other op =>
      if op.target = some task then none
      else (world.tasks.perform op).map fun tasks => { world with tasks := tasks }

/-- The sub-session right after `delegate_task` has registered it. -/
def machine : Machine TurnWorld TurnAction where
  initial := fun world => ∃ (before : SessionSubTaskState) (taskType : String), before.BatchInvariant ∧
    before.perform (.delegate task taskType) = some world.tasks ∧ world = { tasks := world.tasks }
  step := step task

variable {task} {world} {next : TurnWorld}

/-- What each step does, read off the program points. -/
theorem step_cases {action : TurnAction} : world.step task action = some next →
    match action with
    | .begin consumed => world.turn = .idle ∧ consumed ≤ world.owed ∧
        ((world.isTerminal task = true ∧ next = { world with owed := world.owed - consumed }) ∨
          (world.isTerminal task = false ∧
            next = { world with owed := world.owed - consumed }.startTurn))
    | .read => world.turn = .preparing ∧ next = world.readHistory
    | .respond forceFinish response => world.turn = .deciding ∧
        next = world.actOnResponse forceFinish response
    | .startTool request => ∃ call rest, world.turn = .beforeTool call rest ∧
        next = { world with turn := .runningTool request rest }
    | .report status summary => ∃ rest, world.turn = .runningTool "report_subtask_done" rest ∧
        next = world.reportSubtaskDone task status summary
    | .toolEnded => ∃ call rest, world.turn = .runningTool call rest ∧
        next = { world with turn := .afterTool rest }
    | .nextTool =>
        (∃ call rest, world.turn = .afterTool (call :: rest) ∧
          next = { world with turn := .beforeTool call rest }) ∨
        (world.turn = .afterTool [] ∧ next = world.handleToolFollowUp task)
    | .forceFinish => world.turn.mayFinish = true ∧ next = { world with turn := .idle }
    | .replied => ∃ text, world.turn = .replying text ∧ next =
        { world.markSubtaskIfNonTerminal task "completed" text with turn := .marked false }
    | .raised exc => world.turn.mayRaise = true ∧ next = world.handleFailure task exc
    | .persisted => ∃ failed, world.turn = .marked failed ∧ next = world.afterMark task failed
    | .notified => world.turn = .notifying ∧ next = world.enterBarrier task
    | .returned => world.turn = .barrier ∧ next = { world with turn := .idle }
    | .hookPublish => world.turn.runsHooks = true ∧ next = world.publishTrigger
    | .kill => (world.mainTool = .idle ∧ world.isRunning task = true) ∧
        next = world.killSubtask task
    | .killReturned => world.mainTool = .killing ∧
        next = { world with mainTool := .idle, stopped := true }
    | .message taskType => world.mainTool = .idle ∧ next = world.messageSubtask task taskType
    | .append => world.mainTool = .messaging ∧
        next = { world with mainTool := .appended, messages := world.writeRow ++ [{}] }
    | .sent => world.mainTool = .appended ∧
        next = { world.publishTrigger with mainTool := .idle, messages := world.markSent }
    | .messageFailed => (world.mainTool = .messaging ∨ world.mainTool = .appended) ∧
        next = { world with mainTool := .idle, messages := world.markUnsent }
    | .trigger => next = world.publishTrigger
    | .write => next = { world with messages := world.writeRow }
    | .other op => op.target ≠ some task ∧ ∃ tasks, world.tasks.perform op = some tasks ∧
        next = { world with tasks := tasks } := by
  intro stepped
  cases action with
  | begin =>
      simp only [step] at stepped
      split at stepped
      · rename_i ready
        refine ⟨ready.1, ready.2, ?_⟩
        split at stepped
        · exact Or.inl ⟨‹_›, (Option.some.inj stepped).symm⟩
        · rename_i running
          exact Or.inr ⟨Bool.eq_false_iff.mpr running, (Option.some.inj stepped).symm⟩
      · cases stepped
  | nextTool =>
      simp only [step] at stepped
      split at stepped
      · exact Or.inl ⟨_, _, ‹_›, (Option.some.inj stepped).symm⟩
      · exact Or.inr ⟨‹_›, (Option.some.inj stepped).symm⟩
      · cases stepped
  | read | respond | forceFinish | raised | notified | returned | hookPublish | kill | killReturned
  | message | append | sent | messageFailed =>
      obtain ⟨enabled, result⟩ := Option.ite_none_right_eq_some.mp stepped
      exact ⟨enabled, (Option.some.inj result).symm⟩
  | startTool | toolEnded =>
      simp only [step] at stepped
      split at stepped
      · exact ⟨_, _, ‹_›, (Option.some.inj stepped).symm⟩
      · cases stepped
  | report | replied | persisted =>
      simp only [step] at stepped
      split at stepped
      · exact ⟨_, ‹_›, (Option.some.inj stepped).symm⟩
      · cases stepped
  | trigger | write => exact (Option.some.inj stepped).symm
  | other op =>
      simp only [step] at stepped
      split at stepped
      · cases stepped
      · obtain ⟨tasks, performed, result⟩ := Option.map_eq_some_iff.mp stepped
        exact ⟨‹_›, tasks, performed, result.symm⟩

/-- A turn raises only before its task is marked. -/
theorem mayRaise_beforeMark {turn : TurnState} (raises : turn.mayRaise = true) :
    turn.beforeMark = true := by
  cases turn <;> first | rfl | cases raises

/-- A running task is not terminal. -/
theorem isTerminal_of_isRunning (running : world.isRunning task = true) :
    world.isTerminal task = false := by
  unfold isRunning at running
  rw [Option.any_eq_true] at running
  obtain ⟨record, stored, starts⟩ := running
  rw [isTerminal, SessionSubTaskState.isTerminal_eq stored, ← Bool.not_eq_true]
  intro ended
  have statuses : ∀ status ∈ terminalStatuses, startsWith status "running" = false := by decide
  rw [statuses record.status (of_decide_eq_true ended)] at starts
  cases starts

/-- The mark changes only a task that is not terminal. -/
theorem markSubtaskIfNonTerminal_tasks (status summary : String) :
    (world.markSubtaskIfNonTerminal task status summary).tasks = world.tasks ∨
      (world.isTerminal task = false ∧ (world.markSubtaskIfNonTerminal task status summary).tasks =
        (world.tasks.markTerminal task status summary).2) := by
  by_cases ended : world.isTerminal task = true
  · exact Or.inl (if_pos ended)
  · exact Or.inr ⟨Bool.eq_false_iff.mpr ended, if_neg ended⟩

/-- The task is terminal behind the mark. -/
theorem isTerminal_markSubtaskIfNonTerminal
    (known : (world.tasks.getRecord task).isSome = true) (status summary : String) :
    (world.markSubtaskIfNonTerminal task status summary).isTerminal task = true := by
  by_cases ended : world.isTerminal task = true
  · have same : (world.markSubtaskIfNonTerminal task status summary).tasks = world.tasks :=
      if_pos ended
    rw [isTerminal, same]
    exact ended
  · have marked : (world.markSubtaskIfNonTerminal task status summary).tasks =
        (world.tasks.markTerminal task status summary).2 := if_neg ended
    rw [isTerminal, marked]
    exact SessionSubTaskState.isTerminal_markTerminal known status summary

/-- What a step does to the shared subtask state: nothing, a terminal mark by the
turn or by a kill, a message, or an operation on another task. -/
theorem step_tasks {action : TurnAction} (stepped : world.step task action = some next) :
    next.tasks = world.tasks ∨
    ((world.turn.beforeMark = true ∨ action = .kill) ∧ world.isTerminal task = false ∧
      ∃ status summary, next.tasks = (world.tasks.markTerminal task status summary).2) ∨
    (∃ taskType, action = .message taskType ∧
      next.tasks = world.tasks.messageTask task taskType) ∨
    ∃ op, op.target ≠ some task ∧ world.tasks.perform op = some next.tasks := by
  have effect := step_cases stepped
  cases action with
  | begin => obtain ⟨_, _, ⟨_, rfl⟩ | ⟨_, rfl⟩⟩ := effect <;> exact Or.inl rfl
  | read | respond | forceFinish | notified | returned | hookPublish | killReturned | append
  | sent | messageFailed =>
      obtain ⟨_, rfl⟩ := effect
      exact Or.inl rfl
  | startTool | toolEnded =>
      obtain ⟨_, _, _, rfl⟩ := effect
      exact Or.inl rfl
  | trigger | write =>
      subst effect
      exact Or.inl rfl
  | nextTool =>
      obtain ⟨_, _, _, rfl⟩ | ⟨_, rfl⟩ := effect
      · exact Or.inl rfl
      · unfold handleToolFollowUp
        split <;> exact Or.inl rfl
  | persisted =>
      obtain ⟨_, _, rfl⟩ := effect
      unfold afterMark
      split <;> exact Or.inl rfl
  | report status summary =>
      obtain ⟨rest, running, rfl⟩ := effect
      unfold reportSubtaskDone
      split
      · exact Or.inl rfl
      · exact Or.inr (Or.inl ⟨Or.inl (by rw [running]; rfl), Bool.eq_false_iff.mpr ‹_›, _, _, rfl⟩)
  | replied =>
      obtain ⟨text, replying, rfl⟩ := effect
      rcases world.markSubtaskIfNonTerminal_tasks "completed" text with same | ⟨running, marked⟩
      · exact Or.inl same
      · exact Or.inr (Or.inl ⟨Or.inl (by rw [replying]; rfl), running, _, _, marked⟩)
  | raised exc =>
      obtain ⟨raises, rfl⟩ := effect
      rcases world.markSubtaskIfNonTerminal_tasks "failed" exc with same | ⟨running, marked⟩
      · exact Or.inl same
      · exact Or.inr (Or.inl ⟨Or.inl (mayRaise_beforeMark raises), running, _, _, marked⟩)
  | kill =>
      obtain ⟨⟨_, running⟩, rfl⟩ := effect
      exact Or.inr (Or.inl ⟨Or.inr rfl, isTerminal_of_isRunning running, _, _, rfl⟩)
  | message taskType =>
      obtain ⟨_, rfl⟩ := effect
      exact Or.inr (Or.inr (Or.inl ⟨taskType, rfl, rfl⟩))
  | other op =>
      obtain ⟨apart, tasks, performed, rfl⟩ := effect
      exact Or.inr (Or.inr (Or.inr ⟨op, apart, performed⟩))

/-- Steps of others leave the main session's tool where it is, and the cancel mark
of an ended task alone; only a tool follow-up of a running task publishes for the
turn. -/
theorem step_others {action : TurnAction} (stepped : world.step task action = some next)
    (others : action.byMainTool = false) :
    (next.mainTool = world.mainTool ∧ next.stopped = world.stopped) ∧
      (world.isTerminal task = true → next.cancelRequested = world.cancelRequested) ∧
      (world.isTerminal task = true → next.followedUp = world.followedUp) := by
  have effect := step_cases stepped
  cases action with
  | begin =>
      obtain ⟨_, _, ⟨_, rfl⟩ | ⟨running, rfl⟩⟩ := effect
      · exact ⟨⟨rfl, rfl⟩, fun _ => rfl, fun _ => rfl⟩
      · refine ⟨⟨rfl, rfl⟩, fun _ => rfl, fun ended => ?_⟩
        rw [running] at ended
        cases ended
  | nextTool =>
      obtain ⟨_, _, _, rfl⟩ | ⟨_, rfl⟩ := effect
      · exact ⟨⟨rfl, rfl⟩, fun _ => rfl, fun _ => rfl⟩
      · unfold handleToolFollowUp
        split
        · exact ⟨⟨rfl, rfl⟩, fun _ => rfl, fun _ => rfl⟩
        · exact ⟨⟨rfl, rfl⟩, fun _ => rfl, fun ended => absurd ended ‹_›⟩
  | report =>
      obtain ⟨_, _, rfl⟩ := effect
      unfold reportSubtaskDone
      split
      · exact ⟨⟨rfl, rfl⟩, fun _ => rfl, fun _ => rfl⟩
      · exact ⟨⟨rfl, rfl⟩, fun ended => absurd ended ‹_›, fun _ => rfl⟩
  | persisted =>
      obtain ⟨_, _, rfl⟩ := effect
      unfold afterMark
      split <;> exact ⟨⟨rfl, rfl⟩, fun _ => rfl, fun _ => rfl⟩
  | startTool | toolEnded | other =>
      obtain ⟨_, _, _, rfl⟩ := effect
      exact ⟨⟨rfl, rfl⟩, fun _ => rfl, fun _ => rfl⟩
  | replied =>
      obtain ⟨_, _, rfl⟩ := effect
      exact ⟨⟨rfl, rfl⟩, fun _ => rfl, fun _ => rfl⟩
  | trigger | write =>
      subst effect
      exact ⟨⟨rfl, rfl⟩, fun _ => rfl, fun _ => rfl⟩
  | read | respond | forceFinish | raised | notified | returned | hookPublish =>
      obtain ⟨_, rfl⟩ := effect
      exact ⟨⟨rfl, rfl⟩, fun _ => rfl, fun _ => rfl⟩
  | _ => cases others

/-- The task has a record, and the batches are valid, in every state. -/
structure Registered (task : String) (world : TurnWorld) : Prop where
  known : (world.tasks.getRecord task).isSome = true
  batches : world.tasks.BatchInvariant

/-- The task stays registered over a step. -/
theorem Registered.step (registered : world.Registered task) {action : TurnAction}
    (stepped : world.step task action = some next) : next.Registered task := by
  obtain ⟨record, stored⟩ := Option.isSome_iff_exists.mp registered.known
  rcases step_tasks stepped with same | ⟨_, _, status, summary, marked⟩ |
    ⟨taskType, _, messaged⟩ | ⟨op, apart, performed⟩
  · exact ⟨same ▸ registered.known, same ▸ registered.batches⟩
  · have performed : world.tasks.perform (.mark task status summary) = some next.tasks :=
      congrArg some marked.symm
    refine ⟨?_, registered.batches.perform performed⟩
    rw [marked, SessionSubTaskState.markTerminal_getRecord stored, Option.isSome_some]
  · obtain ⟨after, found, _⟩ := SessionSubTaskState.messageTask_getRecord stored taskType
    have performed : world.tasks.perform (.message task taskType) = some next.tasks :=
      congrArg some messaged.symm
    refine ⟨?_, registered.batches.perform performed⟩
    rw [messaged, found, Option.isSome_some]
  · refine ⟨?_, registered.batches.perform performed⟩
    rw [SessionSubTaskState.perform_getRecord_of_ne apart performed]
    exact registered.known

/-- The task is registered and runs at the start. -/
theorem initial_running (started : (machine task).initial world) :
    world.Registered task ∧ world.isTerminal task = false := by
  obtain ⟨before, taskType, batches, delegated, _⟩ := started
  obtain ⟨fresh, result⟩ := SessionSubTaskState.perform_cases delegated
  have absent : before.records.find? (fun record => record.subSessionId = task) = none := fresh
  have stored : world.tasks.getRecord task = some
      { subSessionId := task, status := runningStatus taskType, batchId := before.openedBatch } := by
    rw [result]
    simp only [SessionSubTaskState.getRecord, List.find?_append, absent, List.find?_singleton,
      decide_true, ↓reduceIte, Option.none_or]
  refine ⟨⟨?_, batches.perform delegated⟩, ?_⟩
  · rw [stored, Option.isSome_some]
  · rw [isTerminal, SessionSubTaskState.isTerminal_eq stored, runningStatus_running]

/-- The task is registered in every run. -/
theorem reachable_registered {guard : Machine.Guard TurnWorld TurnAction}
    (reached : (machine task).Reachable guard world) : world.Registered task :=
  reached.invariant (fun _ started => (initial_running started).1)
    fun _ _ _ registered _ stepped => registered.step stepped

/-- Invariants of the turns may use that the task is registered. -/
theorem invariant_of_registered {property : TurnWorld → Prop}
    {guard : Machine.Guard TurnWorld TurnAction} {start final : TurnWorld}
    (steps : (machine task).Steps guard start final) (registered : start.Registered task)
    (preserved : ∀ before action after, before.Registered task → property before →
      guard before action → before.step task action = some after → property after)
    (valid : property start) : property final := by
  suffices both : final.Registered task ∧ property final from both.2
  induction steps with
  | refl => exact ⟨registered, valid⟩
  | tail _ allowed stepped ih =>
      exact ⟨ih.1.step stepped, preserved _ _ _ ih.1 ih.2 allowed stepped⟩

/-- The first task of a main session, right after its delegation. -/
def delegated : TurnWorld :=
  { tasks := ({} : SessionSubTaskState).delegateTask "main_sub_1" "general" }

/-- A delegated task is a start of the machine. -/
theorem delegated_initial : (machine "main_sub_1").initial delegated :=
  ⟨{}, "general", SessionSubTaskState.batchInvariant_empty, rfl, rfl⟩

/-- The world after some actions on the first task. -/
def after (actions : List TurnAction) : TurnWorld :=
  ((machine "main_sub_1").replay Machine.anyStep delegated actions).getD delegated

end TurnWorld

end FairyClaw
