import FairyClaw.Events.RuntimeEvent
import FairyClaw.Foundation.SerialQueue
import Mathlib.Data.Finset.Basic

/-! # The runtime session scheduler

`RuntimeSessionScheduler` keeps a mailbox, an in-flight flag, a wakeup flag and
a debounce task for every session. Its handlers, its debounce tasks and its
heartbeat watchdog run cooperatively: code between two real suspensions (sleep,
database access, a planner turn) is one step, and taking `state_lock` or
putting an event on the bus never suspends.

All of these tables are keyed by session and no function reads another
session's entries, so the model keeps one lane per session
(`FairyClaw.SessionLane`) and runs the lanes side by side
(`FairyClaw.scheduler`). The watchdog visits the sessions one after the other.
-/

namespace FairyClaw

open Foundation

/-- Why a wakeup is asked for. -/
inductive WakeupReason
  | userMessage
  | subtaskCompleted
  | system
  deriving DecidableEq, Repr

/-- The text of a reason. -/
def WakeupReason.value : WakeupReason → String
  | userMessage => "user_message"
  | subtaskCompleted => "subtask_completed"
  | system => "system"

/-- A generated identifier and the clock reading taken by a step. -/
structure Stamp where
  id : String
  now : Nat
  deriving Repr

/-- What the ids of sub-sessions contain. -/
def subSessionMarker : String := "_sub_"

/-- `SUB_SESSION_MARKER in session_id` -/
def isSubSession (sessionId : String) : Bool := contains sessionId subSessionMarker

/-- Program points of the `on_event` call for the current event of a session.
`resolving` and `turning` lie between the acquiring and the final block of
`run_session`. -/
inductive HandlerState
  | idle
  | received (event : RuntimeEvent)
  | persisting (event : RuntimeEvent)
  | resolving (event : RuntimeEvent)
  | turning (event : RuntimeEvent)
  | plugin (event : RuntimeEvent)
  | returned (event : RuntimeEvent)

namespace HandlerState

/-- The event being handled. -/
def current : HandlerState → Option RuntimeEvent
  | idle => none
  | received event | persisting event | resolving event | turning event | plugin event
  | returned event => some event

/-- The session activated by the call, between the two blocks of `run_session`. -/
def activation : HandlerState → Option String
  | resolving event | turning event => some event.sessionId
  | _ => none

/-- An activation belongs to the session of the event being handled. -/
theorem current_of_activation {handler : HandlerState} {sessionId : String}
    (active : handler.activation = some sessionId) :
    ∃ event, handler.current = some event ∧ event.sessionId = sessionId := by
  cases handler with
  | resolving event | turning event => exact ⟨event, rfl, Option.some.inj active⟩
  | idle | received | persisting | plugin | returned => cases active

end HandlerState

/-- Everything the bus and the scheduler keep for one session, with the record
of what was published, dispatched, put in the mailbox and consumed. `sleeping`
holds the live debounce tasks, all of which are before their check. -/
structure SessionLane where
  queued : List RuntimeEvent := []
  handler : HandlerState := .idle
  state : Option SessionRuntimeState := none
  debounceTask : Option Nat := none
  sleeping : Finset Nat := ∅
  createdTasks : Nat := 0
  published : List RuntimeEvent := []
  dispatched : List RuntimeEvent := []
  mailed : List RuntimeEventEnvelope := []
  activations : List (RuntimeEvent × List RuntimeEventEnvelope) := []

/-- The sources whose wakeups need a mailbox entry. -/
def schedulerSources : List String :=
  ["event_bus", "heartbeat_watchdog", "debounce_timer", "subtask_completed"]

/-- Text that the handler of a user message writes to the history. -/
def internalUserText (event : RuntimeEvent) : Option String :=
  ((event.payload.get "internal_user_text").bind Json.asStr).filter fun text => strip text ≠ ""

/-- The event published to ask for a run of a session. -/
def wakeupEvent (sessionId source : String) (reason : WakeupReason) (stamp : Stamp) :
    RuntimeEvent where
  type := .builtin .wakeupRequested
  sessionId := sessionId
  payload := [("reason", .str reason.value)]
  source := source
  id := stamp.id
  timestamp := stamp.now

namespace SessionLane

variable (lane : SessionLane)

/-- An event is published to the session's queue. -/
def publish (event : RuntimeEvent) : SessionLane :=
  { lane with queued := lane.queued ++ [event], published := lane.published ++ [event] }

/-- `get_or_create_state` -/
def getOrCreateState (sessionId : String) (now : Nat) : SessionRuntimeState :=
  lane.state.getD { sessionId := sessionId, heartbeatAt := now }

/-- `request_wakeup_if_needed`: one wakeup at most is queued. -/
def requestWakeupIfNeeded (sessionId : String) (reason : WakeupReason) (source : String)
    (stamp : Stamp) : SessionLane :=
  match lane.state with
  | none => lane
  | some state =>
      if !state.hasMailboxEvents || !state.hasTriggerableMailboxEvents then lane
      else if state.inflight || state.wakeupQueued then lane
      else { lane with state := some { state with wakeupQueued := true } }.publish
        (wakeupEvent sessionId source reason stamp)

/-- `run_user_message_debounce` after its sleep: the check, then the task leaves
the table and ends. -/
def runUserMessageDebounce (sessionId : String) (task : Nat) (stamp : Stamp) : SessionLane :=
  let checked := lane.requestWakeupIfNeeded sessionId .userMessage "debounce_timer" stamp
  { checked with
    debounceTask := if checked.debounceTask = some task then none else checked.debounceTask
    sleeping := checked.sleeping.erase task }

/-- Put an event in the mailbox of the session. -/
def enqueueEvent (event : RuntimeEvent) (now : Nat) : SessionLane :=
  { lane with
    state := some ((lane.getOrCreateState event.sessionId now).enqueueEvent event now)
    mailed := lane.mailed ++ [.fromRuntimeEvent event] }

/-- The debounce task of the table has not ended. -/
def hasActiveDebounce : Bool :=
  match lane.debounceTask with
  | none => false
  | some task => task ∈ lane.sleeping

/-- `_handle_user_message` after the history write: enqueue, and create a
debounce task when the event asks for a turn and none is active. -/
def enqueueUserMessage (event : RuntimeEvent) (now : Nat) : SessionLane :=
  let enqueued := lane.enqueueEvent event now
  if parsedTriggerTurn event.payload && !lane.hasActiveDebounce then
    { enqueued with
      debounceTask := some enqueued.createdTasks
      sleeping := insert enqueued.createdTasks enqueued.sleeping
      createdTasks := enqueued.createdTasks + 1 }
  else enqueued

/-- `_handle_user_message` -/
def handleUserMessage (event : RuntimeEvent) (now : Nat) : SessionLane :=
  match internalUserText event with
  | some _ => { lane with handler := .persisting event }
  | none => { lane.enqueueUserMessage event now with handler := .returned event }

/-- `_handle_subtask_completed` -/
def handleSubtaskCompleted (event : RuntimeEvent) (stamp : Stamp) : SessionLane :=
  let enqueued := lane.enqueueEvent event stamp.now
  let requested :=
    if parsedTriggerTurn event.payload && !lane.hasActiveDebounce then
      enqueued.requestWakeupIfNeeded event.sessionId .subtaskCompleted "subtask_completed" stamp
    else enqueued
  { requested with handler := .returned event }

/-- The acquiring block of `run_session`: clear the wakeup flag, and either
return or set the in-flight flag and consume the mailbox. -/
def handleWakeupRequested (event : RuntimeEvent) (now : Nat) : SessionLane :=
  match lane.state with
  | none => { lane with handler := .returned event }
  | some queuedState =>
      let state := { queuedState with wakeupQueued := false }
      if state.inflight then { lane with state := some state, handler := .returned event }
      else if !state.hasMailboxEvents && event.source ∈ schedulerSources then
        { lane with state := some state, handler := .returned event }
      else if state.hasMailboxEvents && !state.hasTriggerableMailboxEvents then
        { lane with state := some (state.touch now), handler := .returned event }
      else
        let (consumed, running) := { state with inflight := true }.consumeMailbox
        { lane with
          state := some running
          handler := if isSubSession event.sessionId then .resolving event else .turning event
          activations := lane.activations ++ [(event, consumed)] }

/-- The final block of `run_session`: release the session, then ask for another
run, drop an empty state, or keep it. -/
def finishRun (event : RuntimeEvent) (stamp : Stamp) : SessionLane :=
  match lane.state with
  | none => { lane with handler := .returned event }
  | some running =>
      let state := { running with inflight := false }.touch stamp.now
      if state.hasMailboxEvents && state.hasTriggerableMailboxEvents then
        if state.wakeupQueued then { lane with state := some state, handler := .returned event }
        else { lane with
          state := some { state with wakeupQueued := true }
          handler := .returned event }.publish
            (wakeupEvent event.sessionId "event_bus" .system stamp)
      else if !state.hasMailboxEvents then { lane with state := none, handler := .returned event }
      else { lane with state := some state, handler := .returned event }

/-- `on_event`, up to its first suspension. -/
def onEvent (event : RuntimeEvent) (stamp : Stamp) : SessionLane :=
  if event.typeValue = EventType.userMessageReceived.value then
    lane.handleUserMessage event stamp.now
  else if event.typeValue = EventType.subtaskCompleted.value then
    lane.handleSubtaskCompleted event stamp
  else if event.typeValue = EventType.wakeupRequested.value then
    lane.handleWakeupRequested event stamp.now
  else { lane with handler := .plugin event }

end SessionLane

/-- The actors: any publisher, the bus worker serving the session, its handler
resuming after a suspension, a debounce task whose sleep ended, the watchdog
visiting the session, and the heartbeat of a running turn. -/
inductive SchedulerAction
  | publish (event : RuntimeEvent)
  | deliver
  | handle (stamp : Stamp)
  | persisted (stamp : Stamp)
  | resolved
  | turnEnded (stamp : Stamp)
  | dispatched
  | finish
  | debounce (task : Nat) (stamp : Stamp)
  | watchdog (stamp : Stamp)
  | beat (now : Nat)

namespace SessionLane

/-- One step of a session. The history write of a user message may fail and the
planner turn may raise; both are caught, so neither outcome is distinguished. -/
def step (sessionId : String) (lane : SessionLane) : SchedulerAction → Option SessionLane
  | .publish event => if event.sessionId = sessionId then some (lane.publish event) else none
  | .deliver =>
      match lane.handler, lane.queued with
      | .idle, event :: rest => some { lane with handler := .received event, queued := rest }
      | _, _ => none
  | .handle stamp =>
      match lane.handler with
      | .received event => some (lane.onEvent event stamp)
      | _ => none
  | .persisted stamp =>
      match lane.handler with
      | .persisting event =>
          some { lane.enqueueUserMessage event stamp.now with handler := .returned event }
      | _ => none
  | .resolved =>
      match lane.handler with
      | .resolving event => some { lane with handler := .turning event }
      | _ => none
  | .turnEnded stamp =>
      match lane.handler with
      | .turning event => some (lane.finishRun event stamp)
      | _ => none
  | .dispatched =>
      match lane.handler with
      | .plugin event => some { lane with handler := .returned event }
      | _ => none
  | .finish =>
      match lane.handler with
      | .returned event =>
          some { lane with handler := .idle, dispatched := lane.dispatched ++ [event] }
      | _ => none
  | .debounce task stamp =>
      if task ∈ lane.sleeping then some (lane.runUserMessageDebounce sessionId task stamp) else none
  | .watchdog stamp =>
      some (lane.requestWakeupIfNeeded sessionId .system "heartbeat_watchdog" stamp)
  | .beat now =>
      match lane.handler with
      | .turning event =>
          some { lane with state := some ((lane.getOrCreateState event.sessionId now).touch now) }
      | _ => none

/-- What each step does, read off the program point of the handler. -/
theorem step_cases {sessionId : String} {lane next : SessionLane} {action : SchedulerAction}
    (stepped : lane.step sessionId action = some next) :
    match action with
    | .publish event => event.sessionId = sessionId ∧ next = lane.publish event
    | .deliver => ∃ event rest, lane.handler = .idle ∧ lane.queued = event :: rest ∧
        next = { lane with handler := .received event, queued := rest }
    | .handle stamp => ∃ event, lane.handler = .received event ∧ next = lane.onEvent event stamp
    | .persisted stamp => ∃ event, lane.handler = .persisting event ∧
        next = { lane.enqueueUserMessage event stamp.now with handler := .returned event }
    | .resolved => ∃ event, lane.handler = .resolving event ∧
        next = { lane with handler := .turning event }
    | .turnEnded stamp => ∃ event, lane.handler = .turning event ∧
        next = lane.finishRun event stamp
    | .dispatched => ∃ event, lane.handler = .plugin event ∧
        next = { lane with handler := .returned event }
    | .finish => ∃ event, lane.handler = .returned event ∧
        next = { lane with handler := .idle, dispatched := lane.dispatched ++ [event] }
    | .debounce task stamp => task ∈ lane.sleeping ∧
        next = lane.runUserMessageDebounce sessionId task stamp
    | .watchdog stamp =>
        next = lane.requestWakeupIfNeeded sessionId .system "heartbeat_watchdog" stamp
    | .beat now => ∃ event, lane.handler = .turning event ∧ next = { lane with
        state := some ((lane.getOrCreateState event.sessionId now).touch now) } := by
  cases action with
  | publish | debounce =>
      obtain ⟨enabled, result⟩ := Option.ite_none_right_eq_some.mp stepped
      exact ⟨enabled, (Option.some.inj result).symm⟩
  | deliver =>
      simp only [step] at stepped
      split at stepped
      · cases stepped
        exact ⟨_, _, ‹_›, ‹_›, rfl⟩
      · cases stepped
  | watchdog =>
      cases stepped
      rfl
  | handle | persisted | resolved | turnEnded | dispatched | finish | beat =>
      simp only [step] at stepped
      split at stepped
      · cases stepped
        exact ⟨_, ‹_›, rfl⟩
      · cases stepped

/-- The lane of a session, which starts without a state. -/
def machine (sessionId : String) : Machine SessionLane SchedulerAction where
  initial := (· = {})
  step := step sessionId

end SessionLane

/-- The scheduler: the lanes of all sessions, side by side. -/
def scheduler : Machine (String → SessionLane) (String × SchedulerAction) :=
  .perKey SessionLane.machine

end FairyClaw
