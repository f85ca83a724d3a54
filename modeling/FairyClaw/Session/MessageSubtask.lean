import FairyClaw.Context.HistoryIr
import FairyClaw.Session.SubtaskRows

/-! # Messages to a subtask

The tool sets its task running, in the batch that is open, and takes the cancellation of the task
back. Only then it tells the user interface, stores the message in the sub-session and wakes it.
Each of these steps can fail, and nothing that was set before is undone. So a call that fails
leaves the task as it was exactly when it has found it as it sets it
(`FairyClaw.MessageSetting.execute_atomic_iff`).
-/

namespace FairyClaw

open Foundation

/-- What an awaited step raises: an `Exception`, with its text, or the cancellation of the turn. -/
inductive Raised
  | exception (text : String)
  | cancelled
  deriving DecidableEq, Repr

/-- What a call finds outside the process: the texts of arguments that are not strings, the
exceptions of the push to the user gateway, if there is one, and of the database steps, and the
answer of the bus. -/
structure MessageSetting where
  strOf : Json → String
  emitSnapshot : Option Raised := none
  addSessionEvent : Option Raised := none
  getSession : Option Raised := none
  commit : Option Raised := none
  close : Option Raised := none
  publish : Except Raised Bool := .ok true

/-- The subtasks of a main session, the tasks whose cancellation is requested, the messages stored
in sub-sessions, and the published payloads. -/
structure SubtaskWorld extends SubtaskStore where
  cancelRequested : Finset String := ∅
  messages : List (String × SessionMessageBlock) := []
  published : List (String × JsonObject) := []

/-- An answer of the tool. -/
inductive MessageAnswer
  | failed (text : String)
  | sent (text : String)
  deriving DecidableEq, Repr

/-- A message and the task that it is for, as the call has found it. -/
structure AddressedMessage where
  message : String
  task : String
  record : SubTaskRecord
  taskType : String

namespace MessageSetting

variable (setting : MessageSetting)

/-- `str(args.get(key) or "").strip()` -/
def argument (args : JsonObject) (key : String) : String :=
  match (args.get key).getD .null with
  | .str text => strip text
  | value => if value.truthy then strip (setting.strOf value) else ""

/-- The task of the arguments, or the answer that they are refused with. -/
def address (args : JsonObject) (store : SubtaskStore) : Except String AddressedMessage :=
  let subSessionId := setting.argument args "sub_session_id"
  let message := setting.argument args "message"
  if subSessionId = "" then .error "Error: sub_session_id is required."
  else if message = "" then .error "Error: message is required."
  else
    match store.state.resolveTaskId subSessionId with
    | none => .error (store.unresolved subSessionId " is not found in this session.")
    | some task =>
        match store.state.getRecord task with
        | none => .error ("Task " ++ task ++ " is not found in this session.")
        | some record => .ok
            { message := message
              task := task
              record := record
              taskType :=
                SubtaskStore.messageTaskType record.status (setting.argument args "task_type") }

/-- The task is set running, and its cancellation is taken back. -/
def resume (call : AddressedMessage) (world : SubtaskWorld) : SubtaskWorld :=
  { world with
    state := world.state.messageTask call.task call.taskType
    cancelRequested := world.cancelRequested.erase call.task }

/-- The end of the database session, which may raise as well. -/
def closing {Answer : Type} (answer : Except Raised Answer) : Except Raised Answer :=
  match setting.close with
  | some raised => .error raised
  | none => answer

/-- `enabled_groups` of the metadata, where they are a list -/
def enabledGroups (row : SubSessionRow) : List String :=
  match row.metadata.get "enabled_groups" with
  | some (.arr groups) => (groups.filterMap Json.asStr).filter fun group => strip group ≠ ""
  | _ => []

/-- The message is stored, and the metadata of the sub-session are updated. The answer is a text
that ends the call, or the enabled groups. -/
def appendMessage (call : AddressedMessage) (world : SubtaskWorld) :
    Except Raised (Except String (List String)) × SubtaskWorld :=
  match SessionMessageBlock.fromSegments .user [ContentSegment.textSegment call.message] with
  | none => (setting.closing (.ok (.error "Error: Failed to construct sub-task message.")), world)
  | some block =>
      match setting.addSessionEvent with
      | some raised => (setting.closing (.error raised), world)
      | none =>
          let stored := { world with messages := world.messages ++ [(call.task, block)] }
          match setting.getSession, stored.getRow call.task with
          | some raised, _ => (setting.closing (.error raised), stored)
          | none, none => (setting.closing (.ok (.ok [])), stored)
          | none, some row =>
              match setting.commit with
              | some raised => (setting.closing (.error raised), stored)
              | none =>
                  (setting.closing (.ok (.ok (enabledGroups row))),
                    { stored with
                      toSubtaskStore := stored.persist call.task
                        [("subtask_status", .str (runningStatus call.taskType)),
                          ("task_type", .str call.taskType)] })

/-- The payload of the wakeup. -/
def payload (call : AddressedMessage) (mainSessionId : String) (wasTerminal : Bool)
    (groups : List String) : JsonObject :=
  [("segment_count", .int 1), ("trigger_turn", .bool true), ("task_type", .str call.taskType),
    ("parent_session_id", .str mainSessionId), ("resumed_from_terminal", .bool wasTerminal)] ++
    if groups = [] then [] else [("enabled_groups", .arr (groups.map .str))]

/-- `publish_runtime_event`, and the answers that follow it -/
def wake (call : AddressedMessage) (wasTerminal : Bool) (groups : List String)
    (world : SubtaskWorld) : Except Raised MessageAnswer × SubtaskWorld :=
  match setting.publish with
  | .error raised => (.error raised, world)
  | .ok false =>
      (.ok (.failed ("Message appended but failed to enqueue sub-session event for " ++ call.task ++
        " because runtime bus is unavailable.")), world)
  | .ok true =>
      (.ok (.sent ("Message sent to sub-task " ++ call.task ++ ". " ++
        (if wasTerminal then "Task was terminal and is now resumed as "
          else "Task remains active as ") ++ runningStatus call.taskType ++ ".")),
        { world with published := world.published ++
          [(call.task, payload call world.mainSessionId wasTerminal groups)] })

/-- The steps after the task is set running. -/
def deliver (call : AddressedMessage) (wasTerminal : Bool) (world : SubtaskWorld) :
    Except Raised MessageAnswer × SubtaskWorld :=
  match setting.emitSnapshot with
  | some raised => (.error raised, world)
  | none =>
      match setting.appendMessage call world with
      | (.error (.exception text), stored) =>
          (.ok (.failed ("Error: Failed to append message to sub-session history: " ++ text)),
            stored)
      | (.error .cancelled, stored) => (.error .cancelled, stored)
      | (.ok (.error text), stored) => (.ok (.failed text), stored)
      | (.ok (.ok groups), stored) => setting.wake call wasTerminal groups stored

/-- `execute`: the answer or what the call raises, and what it leaves -/
def execute (args : JsonObject) (world : SubtaskWorld) :
    Except Raised MessageAnswer × SubtaskWorld :=
  match setting.address args world.toSubtaskStore with
  | .error text => (.ok (.failed text), world)
  | .ok call =>
      setting.deliver call (world.state.isTerminal call.task) (resume call world)

/-! ## Calls that fail -/

/-- The records of the tasks, the batches and the requested cancellations are as before. -/
structure Undone (before after : SubtaskWorld) : Prop where
  record : ∀ task, after.state.getRecord task = before.state.getRecord task
  batch : after.state.currentBatchId = before.state.currentBatchId
  emitted : after.state.emittedBatchIds = before.state.emittedBatchIds
  cancel : after.cancelRequested = before.cancelRequested

/-- A call that does not answer that its message is sent has changed nothing. -/
def Atomic (args : JsonObject) (world : SubtaskWorld) : Prop :=
  (∀ text, (setting.execute args world).1 ≠ .ok (.sent text)) →
    Undone world (setting.execute args world).2

/-- No step of the delivery fails. The commit is only made for a stored sub-session. -/
structure Delivers (call : AddressedMessage) (store : SubtaskStore) : Prop where
  emitSnapshot : setting.emitSnapshot = none
  addSessionEvent : setting.addSessionEvent = none
  getSession : setting.getSession = none
  commit : (store.getRow call.task).isSome → setting.commit = none
  close : setting.close = none
  publish : setting.publish = .ok true

/-- The task already runs with the task type of the message, its batch is not reported, and its
cancellation is not requested. -/
structure AlreadyRunning (call : AddressedMessage) (world : SubtaskWorld) : Prop where
  status : call.record.status = runningStatus call.taskType
  batch : call.record.batchId ∉ world.state.emittedBatchIds
  cancel : call.task ∉ world.cancelRequested

variable {args : JsonObject} {world : SubtaskWorld} {call : AddressedMessage}

/-- What an accepted call is made of. -/
theorem address_cases (addressed : setting.address args world.toSubtaskStore = .ok call) :
    setting.argument args "sub_session_id" ≠ "" ∧ setting.argument args "message" ≠ "" ∧
      world.state.resolveTaskId (setting.argument args "sub_session_id") = some call.task ∧
      world.state.getRecord call.task = some call.record ∧
      call.taskType =
        SubtaskStore.messageTaskType call.record.status (setting.argument args "task_type") := by
  unfold address at addressed
  dsimp only at addressed
  by_cases unnamed : setting.argument args "sub_session_id" = ""
  · rw [if_pos unnamed] at addressed
    cases addressed
  · rw [if_neg unnamed] at addressed
    by_cases silent : setting.argument args "message" = ""
    · rw [if_pos silent] at addressed
      cases addressed
    · rw [if_neg silent] at addressed
      cases resolved : world.state.resolveTaskId (setting.argument args "sub_session_id") with
      | none =>
          rw [resolved] at addressed
          cases addressed
      | some task =>
          cases stored : world.state.getRecord task with
          | none =>
              simp only [resolved, stored] at addressed
              cases addressed
          | some record =>
              simp only [resolved, stored] at addressed
              cases addressed
              refine ⟨unnamed, silent, rfl, stored, ?_⟩
              dsimp only

/-- An addressed message is for a task with a record. -/
theorem address_ok (addressed : setting.address args world.toSubtaskStore = .ok call) :
    world.state.getRecord call.task = some call.record :=
  (setting.address_cases addressed).2.2.2.1

/-- An argument is stripped once. -/
theorem strip_argument (args : JsonObject) (key : String) :
    strip (setting.argument args key) = setting.argument args key := by
  unfold argument
  split
  · exact strip_strip _
  · split
    · exact strip_strip _
    · rfl

/-- The delivery keeps what the call has set. -/
theorem appendMessage_keeps (call : AddressedMessage) (world : SubtaskWorld) :
    (setting.appendMessage call world).2.state = world.state ∧
      (setting.appendMessage call world).2.cancelRequested = world.cancelRequested := by
  unfold appendMessage
  split
  · exact ⟨rfl, rfl⟩
  · split
    · exact ⟨rfl, rfl⟩
    · dsimp only
      split
      · exact ⟨rfl, rfl⟩
      · exact ⟨rfl, rfl⟩
      · split <;> exact ⟨rfl, rfl⟩

/-- The wake-up touches neither the records nor the cancellations. -/
theorem wake_keeps (call : AddressedMessage) (wasTerminal : Bool) (groups : List String)
    (world : SubtaskWorld) :
    (setting.wake call wasTerminal groups world).2.state = world.state ∧
      (setting.wake call wasTerminal groups world).2.cancelRequested = world.cancelRequested := by
  unfold wake
  split <;> exact ⟨rfl, rfl⟩

/-- The delivery touches neither the records nor the cancellations. -/
theorem deliver_keeps (call : AddressedMessage) (wasTerminal : Bool) (world : SubtaskWorld) :
    (setting.deliver call wasTerminal world).2.state = world.state ∧
      (setting.deliver call wasTerminal world).2.cancelRequested = world.cancelRequested := by
  have kept := setting.appendMessage_keeps call world
  unfold deliver
  split
  · exact ⟨rfl, rfl⟩
  · split
    · next appended => rwa [appended] at kept
    · next appended => rwa [appended] at kept
    · next appended => rwa [appended] at kept
    · next groups stored appended =>
        rw [appended] at kept
        have woken := setting.wake_keeps call wasTerminal groups stored
        exact ⟨woken.1.trans kept.1, woken.2.trans kept.2⟩

/-- Setting a task running changes nothing exactly when it already runs so. -/
theorem undone_resume_iff (stored : world.state.getRecord call.task = some call.record) :
    Undone world (resume call world) ↔ AlreadyRunning call world := by
  rcases world.state.messageTask_cases call.task call.taskType with
    ⟨missing, _⟩ | ⟨record, found, ended, reopened⟩ | ⟨record, found, running, refreshed⟩
  · cases stored.symm.trans missing
  · cases stored.symm.trans found
    constructor
    · intro undone
      obtain ⟨after, now, running⟩ :=
        SessionSubTaskState.messageTask_getRecord stored call.taskType
      have same : call.record = after :=
        Option.some.inj (stored.symm.trans ((undone.record call.task).symm.trans now))
      rw [same, running, runningStatus_running] at ended
      cases ended
    · intro already
      rw [already.status, runningStatus_running] at ended
      cases ended
  · cases stored.symm.trans found
    have resumed : (resume call world).state = _ := refreshed
    have record_eq (task : String) : (resume call world).state.getRecord task =
        if task = call.task then (world.state.getRecord task).map fun record =>
          { record with status := runningStatus call.taskType }
        else world.state.getRecord task := by
      rw [resumed, SessionSubTaskState.getRecord_modifyRecord rfl (by intro _; rfl)]
    have emitted_eq : (resume call world).state.emittedBatchIds =
        world.state.emittedBatchIds.erase call.record.batchId := by
      rw [resumed]
    constructor
    · intro undone
      refine ⟨?_, ?_, ?_⟩
      · have own := undone.record call.task
        rw [record_eq, if_pos rfl, stored, Option.map_some, Option.some.injEq] at own
        exact (congrArg SubTaskRecord.status own).symm
      · rw [← Finset.erase_eq_self, ← emitted_eq]
        exact undone.emitted
      · rw [← Finset.erase_eq_self]
        exact undone.cancel
    · intro already
      refine ⟨fun task => ?_, ?_, ?_, ?_⟩
      · rw [record_eq]
        split
        · next same =>
            rw [same, stored, Option.map_some, ← already.status]
        · rfl
      · rw [resumed]
      · rw [emitted_eq]
        exact Finset.erase_eq_self.mpr already.batch
      · exact Finset.erase_eq_self.mpr already.cancel

/-! ## Calls that succeed -/

/-- The wakeup is the last step. -/
theorem wake_sent_iff (call : AddressedMessage) (wasTerminal : Bool) (groups : List String)
    (world : SubtaskWorld) :
    (∃ text, (setting.wake call wasTerminal groups world).1 = .ok (.sent text)) ↔
      setting.publish = .ok true := by
  unfold wake
  split
  · next failed => simp [failed]
  · next refused => simp [refused]
  · next published => simp [published]

/-- The message is stored when no step of the database session fails. -/
theorem appendMessage_ok_iff (call : AddressedMessage) (world : SubtaskWorld) :
    (∃ groups, (setting.appendMessage call world).1 = .ok (.ok groups)) ↔
      setting.addSessionEvent = none ∧ setting.getSession = none ∧
        ((world.getRow call.task).isSome → setting.commit = none) ∧ setting.close = none := by
  have closing_ok {Answer : Type} (answer : Answer) (value : Answer) :
      setting.closing (.ok answer) = .ok value ↔ answer = value ∧ setting.close = none := by
    unfold closing
    cases setting.close <;> simp
  have closing_error {Answer : Type} (raised : Raised) (value : Answer) :
      setting.closing (.error raised) ≠ .ok value := by
    unfold closing
    cases setting.close <;> nofun
  have built : SessionMessageBlock.fromSegments .user [ContentSegment.textSegment call.message] =
    some { role := .user, body := .text call.message } := rfl
  unfold appendMessage
  rw [built]
  dsimp only
  cases setting.addSessionEvent with
  | some raised => simp [closing_error]
  | none =>
      cases setting.getSession with
      | some raised => simp [closing_error]
      | none =>
          have rows (messages : List (String × SessionMessageBlock)) :
            ({ world with messages := messages } : SubtaskWorld).getRow call.task =
              world.getRow call.task := rfl
          rw [rows]
          cases world.getRow call.task with
          | none => simp [closing_ok]
          | some row =>
              cases setting.commit with
              | some raised => simp [closing_error]
              | none => simp [closing_ok]

/-- The delivery succeeds exactly when none of its steps fails. -/
theorem deliver_sent_iff (call : AddressedMessage) (wasTerminal : Bool) (world : SubtaskWorld) :
    (∃ text, (setting.deliver call wasTerminal world).1 = .ok (.sent text)) ↔
      setting.Delivers call world.toSubtaskStore := by
  have appended := setting.appendMessage_ok_iff call world
  unfold deliver
  cases pushed : setting.emitSnapshot with
  | some raised =>
      refine iff_of_false (by simp) fun delivers => ?_
      cases pushed.symm.trans delivers.emitSnapshot
  | none =>
      cases answer : setting.appendMessage call world with
      | mk outcome stored =>
          rw [answer] at appended
          have unstored (failed : ¬ ∃ groups, outcome = .ok (.ok groups)) :
              ¬ setting.Delivers call world.toSubtaskStore := fun delivers =>
            failed (appended.mpr ⟨delivers.addSessionEvent, delivers.getSession, delivers.commit,
              delivers.close⟩)
          match outcome with
          | .error (.exception text) => exact iff_of_false (by simp) (unstored (by simp))
          | .error .cancelled => exact iff_of_false (by simp) (unstored (by simp))
          | .ok (.error text) => exact iff_of_false (by simp) (unstored (by simp))
          | .ok (.ok groups) =>
              obtain ⟨added, found, committed, closed⟩ := appended.mp ⟨groups, rfl⟩
              refine (setting.wake_sent_iff call wasTerminal groups stored).trans ⟨?_, ?_⟩
              · exact fun published => ⟨pushed, added, found, committed, closed, published⟩
              · exact fun delivers => delivers.publish

/-- The rows are not touched before the message is stored. -/
theorem delivers_resume_iff : setting.Delivers call (resume call world).toSubtaskStore ↔
    setting.Delivers call world.toSubtaskStore := by
  constructor <;>
    exact fun delivers => ⟨delivers.emitSnapshot, delivers.addSessionEvent, delivers.getSession,
      delivers.commit, delivers.close, delivers.publish⟩

/-- Nothing is stored for an unknown task. -/
theorem persist_of_none {store : SubtaskStore} {task : String} (missing : store.getRow task = none)
    (entries : JsonObject) : store.persist task entries = store := by
  have others := List.find?_eq_none.mp missing
  have rows : store.rows.map (fun row => if row.id = task then row.update entries else row) =
      store.rows := by
    refine (List.map_congr_left fun row member => ?_).trans (List.map_id store.rows)
    exact if_neg (by simpa using others row member)
  unfold SubtaskStore.persist
  rw [rows]

/-- The store after a message that is appended. -/
theorem appendMessage_store {groups : List String} (call : AddressedMessage)
    (world : SubtaskWorld) (appended : (setting.appendMessage call world).1 = .ok (.ok groups)) :
    (setting.appendMessage call world).2.toSubtaskStore =
      world.toSubtaskStore.persist call.task
        [("subtask_status", .str (runningStatus call.taskType)),
          ("task_type", .str call.taskType)] := by
  obtain ⟨added, found, committed, _⟩ :=
    (setting.appendMessage_ok_iff call world).mp ⟨groups, appended⟩
  have built : SessionMessageBlock.fromSegments .user [ContentSegment.textSegment call.message] =
    some { role := .user, body := .text call.message } := rfl
  unfold appendMessage
  simp only [built, added, found]
  cases stored : world.getRow call.task with
  | none =>
      rw [persist_of_none stored]
  | some row =>
      rw [stored] at committed
      simp only [committed rfl]

/-- A delivered message leaves the store of the tools' joint model. -/
theorem execute_delivered (addressed : setting.address args world.toSubtaskStore = .ok call)
    (delivers : setting.Delivers call world.toSubtaskStore) :
    (setting.execute args world).2.toSubtaskStore =
      (world.toSubtaskStore.messageSubtask (setting.argument args "sub_session_id")
        (setting.argument args "message") (setting.argument args "task_type")).2 := by
  obtain ⟨named, said, resolved, stored, typed⟩ := setting.address_cases addressed
  unfold SubtaskStore.messageSubtask
  simp only [strip_argument, named, said, resolved, stored, ↓reduceIte]
  rw [← typed]
  obtain ⟨groups, appended⟩ := (setting.appendMessage_ok_iff call (resume call world)).mpr
    ⟨delivers.addSessionEvent, delivers.getSession, delivers.commit, delivers.close⟩
  have kept := setting.appendMessage_store call (resume call world) appended
  unfold execute deliver
  rw [addressed]
  dsimp only
  rw [delivers.emitSnapshot]
  cases answer : setting.appendMessage call (resume call world) with
  | mk outcome after =>
      rw [answer] at appended kept
      cases appended
      dsimp only
      rw [wake, delivers.publish]
      exact kept

/-- A terminal task is left running by a call that fails. -/
theorem isTerminal_of_failed (addressed : setting.address args world.toSubtaskStore = .ok call) :
    (setting.execute args world).2.state.isTerminal call.task = false := by
  have known : (world.state.getRecord call.task).isSome := by
    rw [setting.address_ok addressed]
    rfl
  unfold execute
  rw [addressed]
  dsimp only
  rw [(setting.deliver_keeps call _ _).1]
  exact SessionSubTaskState.isTerminal_messageTask known call.taskType

/-- A call leaves its task as it was whenever it fails exactly when it is refused, or delivers its
message, or finds the task as it sets it. -/
theorem execute_atomic_iff (args : JsonObject) (world : SubtaskWorld) :
    setting.Atomic args world ↔
      ∀ call, setting.address args world.toSubtaskStore = .ok call →
        setting.Delivers call world.toSubtaskStore ∨ AlreadyRunning call world := by
  unfold Atomic execute
  cases addressed : setting.address args world.toSubtaskStore with
  | error text => exact iff_of_true (fun _ => ⟨fun _ => rfl, rfl, rfl, rfl⟩) nofun
  | ok call =>
      have stored := setting.address_ok addressed
      obtain ⟨state_eq, cancel_eq⟩ := setting.deliver_keeps call (world.state.isTerminal call.task)
        (resume call world)
      have undone_iff : Undone world
          (setting.deliver call (world.state.isTerminal call.task) (resume call world)).2 ↔
            AlreadyRunning call world := by
        rw [← undone_resume_iff stored]
        constructor
        · rintro ⟨record, batch, emitted, cancel⟩
          rw [state_eq] at record batch emitted
          exact ⟨record, batch, emitted, cancel_eq ▸ cancel⟩
        · rintro ⟨record, batch, emitted, cancel⟩
          rw [← state_eq] at record batch emitted
          exact ⟨record, batch, emitted, cancel_eq.trans cancel⟩
      have sent_iff := setting.deliver_sent_iff call (world.state.isTerminal call.task)
        (resume call world)
      rw [setting.delivers_resume_iff] at sent_iff
      rw [undone_iff]
      constructor
      · rintro atomic _ ⟨⟩
        by_cases sent : ∃ text, (setting.deliver call (world.state.isTerminal call.task)
            (resume call world)).1 = .ok (.sent text)
        · exact .inl (sent_iff.mp sent)
        · exact .inr (atomic (not_exists.mp sent))
      · intro settled failed
        rcases settled call rfl with delivers | already
        · obtain ⟨text, sent⟩ := sent_iff.mpr delivers
          exact absurd sent (failed text)
        · exact already

/-- A completed task whose batch has been reported. -/
def reportedTask : SubtaskWorld where
  mainSessionId := "main"
  state := {
    records := [{ subSessionId := "sub", status := "completed", summary := "done" }]
    emittedBatchIds := {0} }

/-- The arguments of a message to the task. -/
def sayMore : JsonObject := [("sub_session_id", .str "sub"), ("message", .str "one more thing")]

/-- Without a bus the completed task is left running, in a new batch that no turn closes. -/
theorem unsent_message_reopens :
    let setting : MessageSetting := { strOf := fun _ => "", publish := .ok false }
    ¬ setting.Atomic sayMore reportedTask ∧
      ((setting.execute sayMore reportedTask).2.state.records,
        (setting.execute sayMore reportedTask).2.state.currentBatchId) =
          ([{ subSessionId := "sub", status := "running:general", batchId := 1 }], 1) := by
  intro setting
  have answered : (setting.execute sayMore reportedTask).1 =
      .ok (.failed ("Message appended but failed to enqueue sub-session event for sub" ++
        " because runtime bus is unavailable.")) := by
    decide +kernel
  have opened : (setting.execute sayMore reportedTask).2.state.currentBatchId = 1 := by
    decide +kernel
  refine ⟨fun atomic => ?_, by decide +kernel⟩
  have undone := atomic fun text sent => by
    rw [answered] at sent
    cases sent
  have kept := undone.batch
  rw [opened] at kept
  cases kept

end MessageSetting

end FairyClaw
