import FairyClaw.Foundation.Python

/-! # Runtime events

The events published on the session bus, the mailbox envelopes built from them
and the runtime state kept for one session. An event type is one of the
built-in kinds or the name of a custom kind declared by a capability group;
both are compared through their normalized value
(`FairyClaw.eventTypeValue`).
-/

namespace FairyClaw

open Foundation

/-- Built-in runtime event categories. -/
inductive EventType
  | userMessageReceived
  | subtaskCompleted
  | wakeupRequested
  | fileUploadReceived
  | forceFinishRequested
  deriving DecidableEq, Repr

namespace EventType

/-- The text of an event type. -/
def value : EventType → String
  | userMessageReceived => "user_message_received"
  | subtaskCompleted => "subtask_completed"
  | wakeupRequested => "wakeup_requested"
  | fileUploadReceived => "file_upload_received"
  | forceFinishRequested => "force_finish_requested"

/-- Distinct categories have distinct values. -/
theorem value_injective : Function.Injective value := by
  intro first second same
  cases first <;> cases second <;> first | rfl | exact absurd same (by decide)

end EventType

/-- A built-in category or a custom type name. -/
inductive RuntimeEventType
  | builtin (kind : EventType)
  | custom (name : String)
  deriving DecidableEq, Repr

/-- Canonical string value of an event type. -/
def eventTypeValue : RuntimeEventType → String
  | .builtin kind => kind.value
  | .custom name => strip name

/-- One publishable runtime event. -/
structure RuntimeEvent where
  type : RuntimeEventType
  sessionId : String
  payload : JsonObject := []
  source : String := "runtime"
  id : String
  timestamp : Nat
  deriving Repr

namespace RuntimeEvent

/-- Normalized event type string. -/
def typeValue (event : RuntimeEvent) : String := eventTypeValue event.type

end RuntimeEvent

/-- The `trigger_turn` flag of a payload, with the event type's default. -/
def normalizeTriggerTurn (typeValue : String) (payload : JsonObject) : Bool :=
  match (payload.get "trigger_turn").bind Json.asBool with
  | some flag => flag
  | none => typeValue = EventType.userMessageReceived.value ||
      typeValue = EventType.subtaskCompleted.value

/-- The `trigger_turn` flag as the typed payloads of user messages and of
completed subtasks read it. -/
def parsedTriggerTurn (payload : JsonObject) : Bool :=
  ((payload.get "trigger_turn").bind Json.asBool).getD true

/-- On events of the two kinds kept in mailboxes, the typed payload and the
envelope agree on whether the event asks for a turn. -/
theorem normalizeTriggerTurn_eq_parsed (payload : JsonObject) {typeValue : String}
    (mailed : typeValue = EventType.userMessageReceived.value ∨
      typeValue = EventType.subtaskCompleted.value) :
    normalizeTriggerTurn typeValue payload = parsedTriggerTurn payload := by
  unfold normalizeTriggerTurn parsedTriggerTurn
  cases (payload.get "trigger_turn").bind Json.asBool with
  | some flag => rfl
  | none =>
      rcases mailed with rfl | rfl
      · rfl
      · simp only [decide_true, Bool.or_true, Option.getD_none]

/-- A mailbox entry. -/
structure RuntimeEventEnvelope where
  eventId : String
  eventType : RuntimeEventType
  payload : JsonObject
  source : String
  timestamp : Nat
  triggerTurn : Bool := false
  deriving Repr

/-- The mailbox entry of an event. -/
def RuntimeEventEnvelope.fromRuntimeEvent (event : RuntimeEvent) : RuntimeEventEnvelope where
  eventId := event.id
  eventType := event.type
  payload := event.payload
  source := event.source
  timestamp := event.timestamp
  triggerTurn := normalizeTriggerTurn event.typeValue event.payload

/-- Runtime state of one session: the in-flight and wakeup flags, the heartbeat
timestamp and the mailbox. -/
structure SessionRuntimeState where
  sessionId : String
  inflight : Bool := false
  wakeupQueued : Bool := false
  heartbeatAt : Nat
  mailbox : List RuntimeEventEnvelope := []

namespace SessionRuntimeState

/-- Update the heartbeat timestamp. -/
def touch (state : SessionRuntimeState) (now : Nat) : SessionRuntimeState :=
  { state with heartbeatAt := now }

/-- Append an event to the mailbox and refresh the heartbeat. -/
def enqueueEvent (state : SessionRuntimeState) (event : RuntimeEvent) (now : Nat) :
    SessionRuntimeState :=
  SessionRuntimeState.touch
    { state with mailbox := state.mailbox ++ [.fromRuntimeEvent event] } now

/-- Take every mailbox entry. -/
def consumeMailbox (state : SessionRuntimeState) :
    List RuntimeEventEnvelope × SessionRuntimeState :=
  (state.mailbox, { state with mailbox := [] })

/-- `has_mailbox_events`: the mailbox is not empty. -/
def hasMailboxEvents (state : SessionRuntimeState) : Bool := 0 < state.mailbox.length

/-- Some mailbox entry asks for a planner turn. -/
def hasTriggerableMailboxEvents (state : SessionRuntimeState) : Bool :=
  state.mailbox.any RuntimeEventEnvelope.triggerTurn

variable (state : SessionRuntimeState) (event : RuntimeEvent) (now : Nat)

/-- A touch leaves the wakeup. -/
@[simp] theorem touch_wakeupQueued : (state.touch now).wakeupQueued = state.wakeupQueued := rfl

/-- Mail leaves the turn in flight. -/
@[simp] theorem enqueueEvent_inflight :
    (state.enqueueEvent event now).inflight = state.inflight := rfl

/-- Mail leaves the wakeup. -/
@[simp] theorem enqueueEvent_wakeupQueued :
    (state.enqueueEvent event now).wakeupQueued = state.wakeupQueued := rfl

/-- Mail comes last in the mailbox. -/
@[simp] theorem enqueueEvent_mailbox :
    (state.enqueueEvent event now).mailbox = state.mailbox ++ [.fromRuntimeEvent event] := rfl

/-- Enqueueing keeps the triggerable entries and adds the event's own flag. -/
theorem enqueueEvent_hasTriggerableMailboxEvents :
    (state.enqueueEvent event now).hasTriggerableMailboxEvents =
      (state.hasTriggerableMailboxEvents ||
        normalizeTriggerTurn event.typeValue event.payload) := by
  simp only [hasTriggerableMailboxEvents, enqueueEvent_mailbox, List.any_append, List.any_cons,
    List.any_nil, Bool.or_false]
  rfl

/-- A triggerable entry is an entry. -/
theorem hasMailboxEvents_of_triggerable {state : SessionRuntimeState}
    (triggerable : state.hasTriggerableMailboxEvents = true) : state.hasMailboxEvents = true := by
  obtain ⟨entry, member, _⟩ := List.any_eq_true.mp triggerable
  simp only [hasMailboxEvents, decide_eq_true_eq]
  exact List.length_pos_of_mem member

/-- There is no mail when the mailbox is empty. -/
theorem hasMailboxEvents_eq_false_iff {state : SessionRuntimeState} :
    state.hasMailboxEvents = false ↔ state.mailbox = [] := by
  simp only [hasMailboxEvents, decide_eq_false_iff_not, Nat.not_lt, Nat.le_zero_eq,
    List.length_eq_zero_iff]

end SessionRuntimeState

end FairyClaw
