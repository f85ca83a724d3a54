import FairyClaw.Planning.Turn

/-! # Messages to running tasks

A message appended behind a turn's reading of the history is lost when that turn
completes or fails the task: the turn for the message is skipped
(`FairyClaw.TurnWorld.message_lost`). It is lost as well when so many rows are written
behind it that the next turn does not load it (`FairyClaw.TurnWorld.message_hidden`). In
runs in which no turn ends the task over an unread message, no message is appended to an
ended task, and no row takes an unread message out of the window, every message sent is
read, is being read, or has a turn coming that will not be skipped
(`FairyClaw.TurnWorld.message_not_lost`), and every step that leaves the condition
can lose one (`FairyClaw.TurnWorld.losing_of_excluded`).
-/

namespace FairyClaw

open Foundation

/-- The turn completes or fails the task here. -/
def TurnAction.endsTask : TurnAction → Bool
  | replied | raised _ => true
  | _ => false

/-- The turn reports the task done here. -/
def TurnAction.reports : TurnAction → Bool
  | report _ _ => true
  | _ => false

/-- A row is written to the history here. -/
def TurnAction.writes : TurnAction → Bool
  | write | append => true
  | _ => false

namespace TurnWorld

variable {task : String} {world next : TurnWorld}

/-- Messages are appended to running tasks; a turn completes or fails the task
only when it has read every message, and reports it done only when it has read
the message being sent; and a row is written only while every unread message stays
in the window behind it. -/
def messagesReadFirst (task : String) : Machine.Guard TurnWorld TurnAction := fun world action =>
  (action = .append → world.isTerminal task = false) ∧
  (action.endsTask = true → ∀ message ∈ world.messages,
    message.excused = true ∨ message.stage = .read) ∧
  (action.reports = true → ∀ message ∈ world.messages,
    message.excused = true ∨ message.sent = true ∨ message.stage = .read) ∧
  (action.writes = true → ∀ message ∈ world.messages,
    message.excused = true ∨ message.stage = .read ∨ message.behind + 1 < historyLimit)

instance : DecidableRel (messagesReadFirst task) := fun world action =>
  inferInstanceAs (Decidable ((action = .append → world.isTerminal task = false) ∧ (_ → _) ∧ _))

/-- The message has been read, or the task is running, the message in the window, and
a turn about to read it, or coming for an event still owed once the message is sent. -/
def Due (task : String) (world : TurnWorld) (message : SubtaskMessage) : Prop :=
  message.stage = .read ∨ (world.isTerminal task = false ∧ message.inWindow = true ∧
    ((message.stage = .begun ∧ world.turn = .preparing) ∨
      (message.stage = .appended ∧ (message.sent = true → 0 < world.owed))))

/-- Every message that is not excused is due, and only the message being sent is
unsent. -/
structure Attended (task : String) (world : TurnWorld) : Prop where
  due : ∀ message ∈ world.messages, message.excused = false → world.Due task message
  unsent : ∀ message ∈ world.messages, message.excused = false → message.sent = false →
    world.mainTool = .appended

/-- Steps that keep the messages, the running task and a turn about to read them,
and owe as many events, keep the messages attended. -/
theorem Attended.frame (attended : world.Attended task) (messages : next.messages = world.messages)
    (running : world.isTerminal task = false → next.isTerminal task = false)
    (preparing : world.turn = .preparing → next.turn = .preparing) (owed : world.owed ≤ next.owed)
    (tool : world.mainTool = .appended → next.mainTool = .appended) : next.Attended task := by
  constructor
  · intro message member unexcused
    rw [messages] at member
    rcases attended.due message member unexcused with
      read | ⟨runs, shown, ⟨begun, prepares⟩ | ⟨stage, owes⟩⟩
    · exact Or.inl read
    · exact Or.inr ⟨running runs, shown, Or.inl ⟨begun, preparing prepares⟩⟩
    · have still (sent : message.sent = true) : 0 < next.owed :=
        Nat.lt_of_lt_of_le (owes sent) owed
      exact Or.inr ⟨running runs, shown, Or.inr ⟨stage, still⟩⟩
  · intro message member unexcused unsent
    rw [messages] at member
    exact tool (attended.unsent message member unexcused unsent)

/-- Steps after which every message is excused or read. -/
theorem Attended.settled (attended : world.Attended task)
    (messages : next.messages = world.messages) (tool : next.mainTool = world.mainTool)
    (read : ∀ message ∈ world.messages, message.excused = true ∨ message.stage = .read) :
    next.Attended task := by
  constructor
  · intro message member unexcused
    rw [messages] at member
    rcases read message member with excused | read
    · rw [excused] at unexcused
      cases unexcused
    · exact Or.inl read
  · intro message member unexcused unsent
    rw [messages] at member
    rw [tool]
    exact attended.unsent message member unexcused unsent

/-- A turn that starts is about to read the messages. -/
theorem Attended.begin (attended : world.Attended task) (idle : world.turn = .idle)
    (running : world.isTerminal task = false) (consumed : Nat) :
    ({ world with owed := world.owed - consumed } : TurnWorld).startTurn.Attended task := by
  constructor
  · intro message member unexcused
    obtain ⟨earlier, known, rfl⟩ := List.mem_map.mp member
    rcases attended.due earlier known unexcused with
      read | ⟨_, shown, ⟨_, prepares⟩ | ⟨stage, _⟩⟩
    · exact Or.inl (by simp only [read, reduceCtorEq, ↓reduceIte])
    · rw [idle] at prepares
      cases prepares
    · exact Or.inr ⟨running, shown, Or.inl ⟨by simp only [stage, ↓reduceIte], rfl⟩⟩
  · intro message member unexcused unsent
    obtain ⟨earlier, known, rfl⟩ := List.mem_map.mp member
    exact attended.unsent earlier known unexcused unsent

/-- A turn that reads the history reads the messages that it was about to read. -/
theorem Attended.readHistory (attended : world.Attended task) : world.readHistory.Attended task := by
  constructor
  · intro message member unexcused
    obtain ⟨earlier, known, rfl⟩ := List.mem_map.mp member
    rcases attended.due earlier known unexcused with
      read | ⟨runs, shown, ⟨begun, _⟩ | ⟨stage, owes⟩⟩
    · exact Or.inl (by simp [read])
    · exact Or.inl (by simp [begun, shown])
    · exact Or.inr ⟨runs, shown, Or.inr ⟨by simp [stage], owes⟩⟩
  · intro message member unexcused unsent
    obtain ⟨earlier, known, rfl⟩ := List.mem_map.mp member
    exact attended.unsent earlier known unexcused unsent

/-- A row leaves the unread messages in the window. -/
theorem Attended.write (attended : world.Attended task)
    (room : ∀ message ∈ world.messages,
      message.excused = true ∨ message.stage = .read ∨ message.behind + 1 < historyLimit) :
    ({ world with messages := world.writeRow } : TurnWorld).Attended task := by
  constructor
  · intro message member unexcused
    obtain ⟨earlier, known, rfl⟩ := List.mem_map.mp member
    rcases attended.due earlier known unexcused with read | ⟨runs, _, waits⟩
    · exact Or.inl read
    · rcases room earlier known with excused | read | shown
      · cases unexcused.symm.trans excused
      · exact Or.inl read
      · exact Or.inr ⟨runs, decide_eq_true shown, waits⟩
  · intro message member unexcused unsent
    obtain ⟨earlier, known, rfl⟩ := List.mem_map.mp member
    exact attended.unsent earlier known unexcused unsent

/-- A message is appended to a running task. -/
theorem Attended.append (attended : world.Attended task)
    (running : world.isTerminal task = false)
    (room : ∀ message ∈ world.messages,
      message.excused = true ∨ message.stage = .read ∨ message.behind + 1 < historyLimit) :
    ({ world with
      mainTool := .appended, messages := world.writeRow ++ [{}] } : TurnWorld).Attended task := by
  have kept := attended.write room
  constructor
  · intro message member unexcused
    rcases List.mem_append.mp member with known | new
    · exact kept.due message known unexcused
    · cases List.mem_singleton.mp new
      exact Or.inr ⟨running, rfl, Or.inr ⟨rfl, nofun⟩⟩
  · exact fun _ _ _ _ => rfl

/-- Once a message is sent, an event is owed. -/
theorem Attended.sent (attended : world.Attended task) :
    { world.publishTrigger with mainTool := .idle, messages := world.markSent }.Attended task := by
  constructor
  · intro message member unexcused
    obtain ⟨earlier, known, rfl⟩ := List.mem_map.mp member
    rcases attended.due earlier known unexcused with read | ⟨runs, shown, begun | ⟨stage, _⟩⟩
    · exact Or.inl read
    · exact Or.inr ⟨runs, shown, Or.inl begun⟩
    · exact Or.inr ⟨runs, shown, Or.inr ⟨stage, fun _ => Nat.succ_pos _⟩⟩
  · intro message member unexcused unsent
    obtain ⟨earlier, known, rfl⟩ := List.mem_map.mp member
    change earlier.excused = false at unexcused
    change (earlier.sent || !earlier.excused) = false at unsent
    rw [unexcused, Bool.not_false, Bool.or_true] at unsent
    cases unsent

/-- A message that fails to be sent is excused. -/
theorem Attended.messageFailed (attended : world.Attended task) :
    ({ world with mainTool := .idle, messages := world.markUnsent } : TurnWorld).Attended task := by
  constructor
  · intro message member unexcused
    obtain ⟨earlier, known, rfl⟩ := List.mem_map.mp member
    exact attended.due earlier known (Bool.or_eq_false_iff.mp unexcused).1
  · intro message member unexcused unsent
    obtain ⟨earlier, known, rfl⟩ := List.mem_map.mp member
    change earlier.sent = false at unsent
    have failed := (Bool.or_eq_false_iff.mp unexcused).2
    rw [unsent] at failed
    cases failed

/-- A kill finds every message sent, and excuses it. -/
theorem Attended.kill (attended : world.Attended task) (idle : world.mainTool = .idle) :
    (world.killSubtask task).Attended task := by
  have excused : ∀ message ∈ (world.killSubtask task).messages, message.excused = true := by
    intro message member
    obtain ⟨earlier, known, rfl⟩ := List.mem_map.mp member
    by_contra kept
    obtain ⟨unexcused, unsent⟩ := Bool.or_eq_false_iff.mp (Bool.eq_false_iff.mpr kept)
    have appended := attended.unsent earlier known unexcused unsent
    rw [idle] at appended
    cases appended
  constructor
  · intro message member unexcused
    rw [excused message member] at unexcused
    cases unexcused
  · intro message member unexcused
    rw [excused message member] at unexcused
    cases unexcused

/-- A report excuses the messages sent, when it has read the one being sent. -/
theorem Attended.report (attended : world.Attended task) (status summary : String)
    (read : ∀ message ∈ world.messages,
      message.excused = true ∨ message.sent = true ∨ message.stage = .read) :
    (world.reportSubtaskDone task status summary).Attended task := by
  unfold reportSubtaskDone
  split
  · exact attended
  · constructor
    · intro message member unexcused
      obtain ⟨earlier, known, rfl⟩ := List.mem_map.mp member
      obtain ⟨unexcused, unsent⟩ := Bool.or_eq_false_iff.mp unexcused
      rcases read earlier known with excused | sent | read
      · rw [excused] at unexcused
        cases unexcused
      · rw [sent] at unsent
        cases unsent
      · exact Or.inl read
    · intro message member unexcused
      obtain ⟨earlier, known, rfl⟩ := List.mem_map.mp member
      exact attended.unsent earlier known (Bool.or_eq_false_iff.mp unexcused).1

/-- Every step that meets the condition keeps the messages attended. -/
theorem Attended.step (attended : world.Attended task) (registered : world.Registered task)
    {action : TurnAction} (allowed : messagesReadFirst task world action)
    (stepped : world.step task action = some next) : next.Attended task := by
  have effect := step_cases stepped
  obtain ⟨appends, ends, reports, room⟩ := allowed
  cases action with
  | begin consumed =>
      obtain ⟨idle, _, ⟨ended, rfl⟩ | ⟨running, rfl⟩⟩ := effect
      · refine ⟨fun message member unexcused => ?_, attended.unsent⟩
        rcases attended.due message member unexcused with read | ⟨running, _⟩
        · exact Or.inl read
        · rw [ended] at running
          cases running
      · exact attended.begin idle running consumed
  | read =>
      obtain ⟨_, rfl⟩ := effect
      exact attended.readHistory
  | respond | notified | returned =>
      obtain ⟨stood, rfl⟩ := effect
      refine attended.frame rfl id (fun prepares => ?_) (Nat.le_refl _) id
      rw [stood] at prepares
      cases prepares
  | startTool | toolEnded =>
      obtain ⟨_, _, stood, rfl⟩ := effect
      refine attended.frame rfl id (fun prepares => ?_) (Nat.le_refl _) id
      rw [stood] at prepares
      cases prepares
  | nextTool =>
      obtain ⟨_, _, stood, rfl⟩ | ⟨stood, rfl⟩ := effect
      · refine attended.frame rfl id (fun prepares => ?_) (Nat.le_refl _) id
        rw [stood] at prepares
        cases prepares
      · have elsewhere : world.turn ≠ .preparing := by rw [stood]; exact nofun
        unfold handleToolFollowUp
        split
        · exact attended.frame rfl id (fun prepares => absurd prepares elsewhere) (Nat.le_refl _) id
        · exact attended.frame rfl id (fun prepares => absurd prepares elsewhere) (Nat.le_succ _) id
  | forceFinish =>
      obtain ⟨finishes, rfl⟩ := effect
      refine attended.frame rfl id (fun prepares => ?_) (Nat.le_refl _) id
      rw [prepares] at finishes
      cases finishes
  | persisted =>
      obtain ⟨_, stood, rfl⟩ := effect
      have elsewhere : world.turn ≠ .preparing := by rw [stood]; exact nofun
      unfold afterMark
      split <;>
        exact attended.frame rfl id (fun prepares => absurd prepares elsewhere) (Nat.le_refl _) id
  | report status summary =>
      obtain ⟨_, _, rfl⟩ := effect
      exact attended.report status summary (reports rfl)
  | replied =>
      obtain ⟨_, _, rfl⟩ := effect
      exact attended.settled rfl rfl (ends rfl)
  | raised =>
      obtain ⟨_, rfl⟩ := effect
      exact attended.settled rfl rfl (ends rfl)
  | hookPublish =>
      obtain ⟨_, rfl⟩ := effect
      exact attended.frame rfl id id (Nat.le_succ _) id
  | trigger =>
      subst effect
      exact attended.frame rfl id id (Nat.le_succ _) id
  | kill =>
      obtain ⟨⟨idle, _⟩, rfl⟩ := effect
      exact attended.kill idle
  | killReturned =>
      obtain ⟨killing, rfl⟩ := effect
      refine attended.frame rfl id id (Nat.le_refl _) fun appended => ?_
      rw [killing] at appended
      cases appended
  | message taskType =>
      obtain ⟨idle, rfl⟩ := effect
      refine attended.frame rfl (fun _ => ?_) id (Nat.le_refl _) fun appended => ?_
      · exact SessionSubTaskState.isTerminal_messageTask registered.known taskType
      · rw [idle] at appended
        cases appended
  | append =>
      obtain ⟨_, rfl⟩ := effect
      exact attended.append (appends rfl) (room rfl)
  | write =>
      subst effect
      exact attended.write (room rfl)
  | sent =>
      obtain ⟨_, rfl⟩ := effect
      exact attended.sent
  | messageFailed =>
      obtain ⟨_, rfl⟩ := effect
      exact attended.messageFailed
  | other op =>
      obtain ⟨apart, tasks, performed, rfl⟩ := effect
      refine attended.frame rfl (fun running => ?_) id (Nat.le_refl _) id
      have same := SessionSubTaskState.perform_getRecord_of_ne apart performed
      unfold isTerminal SessionSubTaskState.isTerminal at running ⊢
      rw [same]
      exact running

/-- The messages are attended in every run that meets the condition. -/
theorem attended_of_reachable (reached : (machine task).Reachable (messagesReadFirst task) world) :
    world.Attended task := by
  obtain ⟨start, started, steps⟩ := reached
  apply invariant_of_registered steps (initial_running started).1
  · intro before action after registered attended allowed stepped
    exact attended.step registered allowed stepped
  · obtain ⟨_, _, _, _, fresh⟩ := started
    rw [fresh]
    exact ⟨nofun, nofun⟩

/-- **No message is lost.** In runs in which no turn ends the task over an unread
message, none is appended to an ended task, and no row takes an unread message out of
the window, a message that was sent and not excused has been read by a turn begun after
it was appended; or the task is running, the message in the window, and such a turn is
about to read it, or an event is owed that will start one. In particular it has been
read once no turn is under way and no event is owed. -/
theorem message_not_lost (task : String) (world : TurnWorld)
    (reached : (machine task).Reachable (messagesReadFirst task) world)
    (message : SubtaskMessage) (member : message ∈ world.messages) (sent : message.sent = true)
    (unexcused : message.excused = false) :
    (message.stage = .read ∨ (world.isTerminal task = false ∧ message.inWindow = true ∧
      ((message.stage = .begun ∧ world.turn = .preparing) ∨
        (message.stage = .appended ∧ 0 < world.owed)))) ∧
    (world.turn = .idle → world.owed = 0 → message.stage = .read) := by
  have due := (attended_of_reachable reached).due message member unexcused
  refine ⟨?_, fun idle settled => ?_⟩
  · rcases due with read | ⟨running, shown, begun | ⟨stage, owes⟩⟩
    · exact Or.inl read
    · exact Or.inr ⟨running, shown, Or.inl begun⟩
    · exact Or.inr ⟨running, shown, Or.inr ⟨stage, owes sent⟩⟩
  · rcases due with read | ⟨_, _, ⟨_, prepares⟩ | ⟨_, owes⟩⟩
    · exact read
    · rw [idle] at prepares
      cases prepares
    · have positive := owes sent
      omega

/-- A message is sent while the first turn waits for the model, that turn calls a
tool and writes its round, and the turn for the message reads it. -/
def attendedRun : List TurnAction :=
  [.trigger, .begin 1, .read, .message "general", .append, .sent,
    .respond false { text := none, calls := ["run_command"] }, .startTool "run_command", .toolEnded,
    .write, .nextTool, .begin 2, .read, .respond false { text := some "done", calls := [] }, .write,
    .replied, .persisted, .returned]

/-- The message of the run, with the tool round and the reply behind it. -/
def sentMessage : SubtaskMessage := { stage := .read, sent := true, behind := 2 }

/-- The message of the run is read, and no turn is owed. -/
theorem message_not_lost_of_attendedRun : (after attendedRun).messages = [sentMessage] ∧
    (after attendedRun).turn = .idle ∧ (after attendedRun).owed = 0 ∧
      sentMessage.stage = .read := by
  have replayed : (machine "main_sub_1").replay (messagesReadFirst "main_sub_1") delegated
      attendedRun = some (after attendedRun) := rfl
  have member : sentMessage ∈ (after attendedRun).messages := List.mem_cons_self
  have kept := message_not_lost "main_sub_1" (after attendedRun)
    (.of_replay delegated_initial replayed) sentMessage member rfl rfl
  exact ⟨rfl, rfl, rfl, kept.2 rfl rfl⟩

/-- A message is sent while the first turn waits for the model, which then answers
with text; the turn for the message is skipped. -/
def lostRun : List TurnAction :=
  [.trigger, .begin 1, .read, .message "general", .append, .sent,
    .respond false { text := some "done", calls := [] }, .replied, .persisted, .returned, .begin 1]

/-- The message was sent to a running task, which was neither killed nor reported
done; no turn is under way, no event is owed, and no turn has begun since. -/
theorem message_lost : (machine "main_sub_1").Reachable Machine.anyStep (after lostRun) ∧
    (after (lostRun.take 3)).isRunning "main_sub_1" = true ∧
    (after lostRun).turn = .idle ∧ (after lostRun).owed = 0 ∧
    ({ stage := .appended, sent := true, excused := false } : SubtaskMessage) ∈
      (after lostRun).messages := by
  have replayed : (machine "main_sub_1").replay Machine.anyStep delegated lostRun =
      some (after lostRun) := rfl
  exact ⟨.of_replay delegated_initial replayed, by decide, rfl, rfl, List.mem_cons_self⟩

/-- A message is sent while the first turn waits for the model, and fifty rows follow
it before the next turn reads the history. -/
def hiddenRun : List TurnAction :=
  [.trigger, .begin 1, .read, .message "general", .append, .sent,
    .respond false { text := none, calls := ["run_command"] }, .startTool "run_command"] ++
  List.replicate 50 .write ++
  [.toolEnded, .nextTool, .begin 2, .read, .respond false { text := none, calls := [] }]

set_option maxRecDepth 2048 in
/-- The message was sent to a task that is still running; a turn has begun since, and
has not read it. -/
theorem message_hidden : (machine "main_sub_1").Reachable Machine.anyStep (after hiddenRun) ∧
    (after hiddenRun).isRunning "main_sub_1" = true ∧
    (after hiddenRun).turn = .idle ∧ (after hiddenRun).owed = 0 ∧
    ({ stage := .begun, sent := true, behind := 50 } : SubtaskMessage) ∈
      (after hiddenRun).messages := by
  have replayed : (machine "main_sub_1").replay Machine.anyStep delegated hiddenRun =
      some (after hiddenRun) := rfl
  exact ⟨.of_replay delegated_initial replayed, by decide, rfl, rfl, List.mem_cons_self⟩

/-- No turn is under way, no event is owed, and a message that was sent and is not
excused is unread. -/
def Lost (world : TurnWorld) : Prop :=
  world.turn = .idle ∧ world.owed = 0 ∧ ∃ message ∈ world.messages,
    message.sent = true ∧ message.excused = false ∧ message.stage ≠ .read

/-- A message that is sent, or still being sent, is out of the window unread; or the
task is over, and the message will not be read by the turn under way. -/
def Stranded (task : String) (world : TurnWorld) : Prop :=
  ∃ message ∈ world.messages, message.excused = false ∧
    (message.sent = true ∨ world.mainTool = .appended) ∧ message.stage ≠ .read ∧
    (message.inWindow = false ∨ (world.isTerminal task = true ∧
      (message.stage = .appended ∨ world.turn ≠ .preparing)))

/-- Some continuation loses a message. -/
def Losing (task : String) (world : TurnWorld) : Prop :=
  ∃ later, (machine task).Steps Machine.anyStep world later ∧ later.Lost

/-- A continuation of the next state is one of the state before. -/
theorem Losing.before {action : TurnAction} (losing : next.Losing task)
    (stepped : world.step task action = some next) : world.Losing task := by
  obtain ⟨later, steps, lost⟩ := losing
  exact ⟨later, .head trivial stepped steps, lost⟩

/-- Steps that keep the messages and an ended task, and are past the reading of the
history, leave the message stranded. -/
theorem Stranded.frame (stranded : world.Stranded task)
    (ended : world.isTerminal task = true → next.isTerminal task = true)
    (messages : next.messages = world.messages) (tool : next.mainTool = world.mainTool)
    (past : next.turn ≠ .preparing) : next.Stranded task := by
  obtain ⟨message, member, unexcused, sending, unread, missed⟩ := stranded
  rw [← messages] at member
  rw [← tool] at sending
  refine ⟨message, member, unexcused, sending, unread, ?_⟩
  rcases missed with hidden | ⟨halted, _⟩
  · exact Or.inl hidden
  · exact Or.inr ⟨ended halted, Or.inr past⟩

/-- The turn reads the history, but not the message. -/
theorem Stranded.read (stranded : world.Stranded task) (prepares : world.turn = .preparing) :
    world.readHistory.Stranded task := by
  obtain ⟨message, member, unexcused, sending, unread, missed⟩ := stranded
  have kept : (if (decide (message.stage = .begun) && message.inWindow) = true then
      MessageStage.read else message.stage) = message.stage := by
    rcases missed with hidden | ⟨_, appended | past⟩
    · simp [hidden]
    · simp [appended]
    · exact absurd prepares past
  refine ⟨_, List.mem_map.mpr ⟨message, member, rfl⟩, unexcused, sending, ?_, ?_⟩
  · change (if _ then _ else _) ≠ _
    rw [kept]
    exact unread
  · rcases missed with hidden | ⟨halted, _⟩
    · exact Or.inl hidden
    · exact Or.inr ⟨halted, Or.inr (by rintro ⟨⟩)⟩

/-- A turn that waits for the model can end without an answer. -/
theorem Stranded.ends (stranded : world.Stranded task) (stands : world.turn = .deciding)
    (settles : ∀ {idled : TurnWorld}, idled.Stranded task → idled.turn = .idle →
      idled.owed = world.owed → idled.mainTool = world.mainTool → idled.Losing task) :
    world.Losing task := by
  let empty : TurnResponse := { text := none, calls := [] }
  have responds : world.step task (.respond true empty) = some (world.actOnResponse true empty) :=
    if_pos stands
  have still : (world.actOnResponse true empty).Stranded task :=
    stranded.frame id rfl rfl (by rintro ⟨⟩)
  exact (settles still rfl rfl rfl).before responds

/-- With nothing owed, the message is lost between turns. -/
theorem Stranded.lost (stranded : world.Stranded task) (idle : world.turn = .idle)
    (settled : world.owed = 0) (tool : world.mainTool ≠ .appended) : world.Losing task := by
  obtain ⟨message, member, unexcused, sending, unread, _⟩ := stranded
  exact ⟨world, .refl _, idle, settled, message, member, sending.resolve_right tool, unexcused,
    unread⟩

/-- Between turns, the turn for the events owed is skipped, or does not read the
message. -/
theorem Stranded.losing_of_sent (stranded : world.Stranded task) (idle : world.turn = .idle)
    (tool : world.mainTool ≠ .appended) : world.Losing task := by
  let awake := { world with owed := world.owed - world.owed }
  have settled : awake.owed = 0 := Nat.sub_self _
  by_cases halted : world.isTerminal task = true
  · have skips : world.step task (.begin world.owed) = some awake := by
      simp only [step, idle, Nat.le_refl, and_self, ↓reduceIte, halted, awake]
    have still : awake.Stranded task := stranded
    exact (still.lost idle settled tool).before skips
  · have starts : world.step task (.begin world.owed) = some awake.startTurn := by
      simp only [step, idle, Nat.le_refl, and_self, ↓reduceIte, halted, awake, Bool.false_eq_true]
    have still : awake.startTurn.Stranded task := by
      obtain ⟨message, member, unexcused, sending, unread, missed⟩ := stranded
      have hidden := missed.resolve_right fun missed => halted missed.1
      refine ⟨_, List.mem_map.mpr ⟨message, member, rfl⟩, unexcused, sending, ?_, Or.inl hidden⟩
      change (if _ then _ else _) ≠ _
      split
      · rintro ⟨⟩
      · exact unread
    have prepares : awake.startTurn.turn = .preparing := rfl
    have reads : awake.startTurn.step task .read = some awake.startTurn.readHistory := by
      simp only [step, prepares, ↓reduceIte]
    refine Losing.before (Losing.before ?_ reads) starts
    apply (still.read prepares).ends rfl
    intro idled stays atRest owed same
    exact stays.lost atRest (owed.trans settled) fun appended => tool (same.symm.trans appended)

/-- Between turns, the message is sent if it is not yet, and lost then. -/
theorem Stranded.losing_of_idle (stranded : world.Stranded task) (idle : world.turn = .idle) :
    world.Losing task := by
  by_cases appended : world.mainTool = .appended
  · let told := { world.publishTrigger with mainTool := .idle, messages := world.markSent }
    have sends : world.step task .sent = some told := if_pos appended
    have still : told.Stranded task := by
      obtain ⟨message, member, unexcused, _, missed⟩ := stranded
      have sent : (message.sent || !message.excused) = true := by
        rw [unexcused, Bool.not_false, Bool.or_true]
      exact ⟨_, List.mem_map.mpr ⟨message, member, rfl⟩, unexcused, Or.inl sent, missed⟩
    exact (still.losing_of_sent idle (by rintro ⟨⟩)).before sends
  · exact stranded.losing_of_sent idle appended

/-- From any point of a turn, it can come to its end without reading the message. -/
theorem Stranded.losing (stranded : world.Stranded task) : world.Losing task := by
  have moved {world : TurnWorld} (stranded : world.Stranded task) {state : TurnState}
      (past : state ≠ .preparing) : { world with turn := state }.Stranded task :=
    stranded.frame id rfl rfl past
  have barrier {world : TurnWorld} (stranded : world.Stranded task)
      (stands : world.turn = .barrier) : world.Losing task := by
    have returns : world.step task .returned = some { world with turn := .idle } := if_pos stands
    have still : { world with turn := .idle }.Stranded task := moved stranded (by rintro ⟨⟩)
    exact (still.losing_of_idle rfl).before returns
  have entered {world : TurnWorld} (stranded : world.Stranded task) :
      (world.enterBarrier task).Losing task := by
    have still : (world.enterBarrier task).Stranded task :=
      stranded.frame id rfl rfl (by rintro ⟨⟩)
    exact barrier still rfl
  have finishing {world : TurnWorld} (stranded : world.Stranded task)
      (finishes : world.turn.mayFinish = true) : world.Losing task := by
    have forced : world.step task .forceFinish = some { world with turn := .idle } :=
      if_pos finishes
    have still : { world with turn := .idle }.Stranded task := moved stranded (by rintro ⟨⟩)
    exact (still.losing_of_idle rfl).before forced
  have notifying {world : TurnWorld} (stranded : world.Stranded task)
      (stands : world.turn = .notifying) : world.Losing task := by
    have notifies : world.step task .notified = some (world.enterBarrier task) := if_pos stands
    exact (entered stranded).before notifies
  have marked {world : TurnWorld} {failed : Bool} (stranded : world.Stranded task)
      (stands : world.turn = .marked failed) : world.Losing task := by
    have persists : world.step task .persisted = some (world.afterMark task failed) := by
      simp only [step, stands]
    refine Losing.before ?_ persists
    unfold afterMark
    split
    · have still : { world with turn := .notifying }.Stranded task := moved stranded (by rintro ⟨⟩)
      exact notifying still rfl
    · exact entered stranded
  have deciding {world : TurnWorld} (stranded : world.Stranded task)
      (stands : world.turn = .deciding) : world.Losing task :=
    stranded.ends stands fun still idle _ _ => still.losing_of_idle idle
  cases stands : world.turn with
  | idle => exact stranded.losing_of_idle stands
  | preparing =>
      have reads : world.step task .read = some world.readHistory := if_pos stands
      exact (deciding (stranded.read stands) rfl).before reads
  | deciding => exact deciding stranded stands
  | replying text =>
      let completed := { world.markSubtaskIfNonTerminal task "completed" text with
        turn := .marked false }
      have replies : world.step task .replied = some completed := by
        simp only [step, stands]
        rfl
      have halted (ended : world.isTerminal task = true) : completed.isTerminal task = true := by
        change (if world.isTerminal task then _ else _ : SessionSubTaskState).isTerminal task = true
        rw [if_pos ended]
        exact ended
      have still : completed.Stranded task := stranded.frame halted rfl rfl (by rintro ⟨⟩)
      exact (marked still rfl).before replies
  | shortReply | beforeTool | afterTool => exact finishing stranded (by rw [stands]; rfl)
  | runningTool call rest =>
      have ends : world.step task .toolEnded = some { world with turn := .afterTool rest } := by
        simp only [step, stands]
      have still : { world with turn := .afterTool rest }.Stranded task := moved stranded (by rintro ⟨⟩)
      exact (finishing still rfl).before ends
  | marked => exact marked stranded stands
  | notifying => exact notifying stranded stands
  | barrier => exact barrier stranded stands

/-- What a step excluded by the condition runs into. -/
theorem cases_of_excluded {action : TurnAction}
    (excluded : ¬ messagesReadFirst task world action) :
    (action = .append ∧ world.isTerminal task = true) ∨
      ∃ message ∈ world.messages, message.excused = false ∧ message.stage ≠ .read ∧
        (action.endsTask = true ∨ (action.reports = true ∧ message.sent = false) ∨
          (action.writes = true ∧ ¬ message.behind + 1 < historyLimit)) := by
  by_contra neither
  obtain ⟨running, none_left⟩ := not_or.mp neither
  have read {message : SubtaskMessage} (member : message ∈ world.messages)
      (ending : action.endsTask = true ∨ (action.reports = true ∧ message.sent = false) ∨
        (action.writes = true ∧ ¬ message.behind + 1 < historyLimit)) :
      message.excused = true ∨ message.stage = .read := by
    by_contra unread
    obtain ⟨kept, unread⟩ := not_or.mp unread
    exact none_left ⟨message, member, Bool.eq_false_iff.mpr kept, unread, ending⟩
  refine excluded ⟨fun appends => ?_, fun ends message member => read member (Or.inl ends),
    fun reports message member => ?_, fun writes message member => ?_⟩
  · exact Bool.eq_false_iff.mpr fun ended => running ⟨appends, ended⟩
  · by_cases sent : message.sent = true
    · exact Or.inr (Or.inl sent)
    · have unsent : message.sent = false := Bool.eq_false_iff.mpr sent
      rcases read member (Or.inr (Or.inl ⟨reports, unsent⟩)) with excused | read
      · exact Or.inl excused
      · exact Or.inr (Or.inr read)
  · by_cases shown : message.behind + 1 < historyLimit
    · exact Or.inr (Or.inr shown)
    · rcases read member (Or.inr (Or.inr ⟨writes, shown⟩)) with excused | read
      · exact Or.inl excused
      · exact Or.inr (Or.inl read)

/-- Every step excluded by the condition can lose a message: from the state behind it,
some continuation does. -/
theorem losing_of_excluded {action : TurnAction}
    (reached : (machine task).Reachable (messagesReadFirst task) world)
    (stepped : (machine task).step world action = some next)
    (excluded : ¬ messagesReadFirst task world action) : next.Losing task := by
  have registered := reachable_registered reached
  have attended := attended_of_reachable reached
  have moved : world.step task action = some next := stepped
  have effect := step_cases moved
  apply Stranded.losing
  rcases cases_of_excluded excluded with
    ⟨rfl, ended⟩ | ⟨message, member, unexcused, unread, ending⟩
  · obtain ⟨_, rfl⟩ := effect
    exact ⟨{}, List.mem_append_right _ (List.mem_singleton_self _), rfl, Or.inr rfl,
      by rintro ⟨⟩, Or.inr ⟨ended, Or.inl rfl⟩⟩
  · have sending : message.sent = true ∨ world.mainTool = .appended := by
      by_cases sent : message.sent = true
      · exact Or.inl sent
      · exact Or.inr (attended.unsent message member unexcused (Bool.eq_false_iff.mpr sent))
    cases action with
    | replied =>
        obtain ⟨text, _, rfl⟩ := effect
        have halted := isTerminal_markSubtaskIfNonTerminal registered.known "completed" text
        exact ⟨message, member, unexcused, sending, unread, Or.inr ⟨halted, Or.inr nofun⟩⟩
    | raised exc =>
        obtain ⟨_, rfl⟩ := effect
        have halted := isTerminal_markSubtaskIfNonTerminal registered.known "failed" exc
        exact ⟨message, member, unexcused, sending, unread, Or.inr ⟨halted, Or.inr nofun⟩⟩
    | report status summary =>
        obtain ⟨rest, stands, rfl⟩ := effect
        have unsent : message.sent = false := by
          rcases ending with ends | ⟨_, unsent⟩ | ⟨writes, _⟩
          · cases ends
          · exact unsent
          · cases writes
        have past : world.turn ≠ .preparing := by rw [stands]; exact nofun
        unfold reportSubtaskDone
        split
        · rename_i ended
          exact ⟨message, member, unexcused, sending, unread, Or.inr ⟨ended, Or.inr past⟩⟩
        · refine ⟨_, List.mem_map.mpr ⟨message, member, rfl⟩, ?_, sending, unread,
            Or.inr ⟨SessionSubTaskState.isTerminal_markTerminal registered.known status summary,
              Or.inr past⟩⟩
          rw [unexcused, unsent, Bool.or_false]
    | write =>
        subst effect
        have hidden : ¬ message.behind + 1 < historyLimit := by
          rcases ending with ends | ⟨reports, _⟩ | ⟨_, hidden⟩
          · cases ends
          · cases reports
          · exact hidden
        exact ⟨_, List.mem_map.mpr ⟨message, member, rfl⟩, unexcused, sending, unread,
          Or.inl (decide_eq_false hidden)⟩
    | append =>
        obtain ⟨_, rfl⟩ := effect
        have hidden : ¬ message.behind + 1 < historyLimit := by
          rcases ending with ends | ⟨reports, _⟩ | ⟨_, hidden⟩
          · cases ends
          · cases reports
          · exact hidden
        exact ⟨_, List.mem_append_left _ (List.mem_map.mpr ⟨message, member, rfl⟩), unexcused,
          Or.inr rfl, unread, Or.inl (decide_eq_false hidden)⟩
    | _ => rcases ending with ends | ⟨reports, _⟩ | ⟨writes, _⟩ <;> contradiction

end TurnWorld

end FairyClaw
