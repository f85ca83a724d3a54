import FairyClaw.Events.RuntimeEvent
import FairyClaw.Foundation.SerialQueue
import Mathlib.Data.Finset.Basic
import Mathlib.Data.List.FinRange

/-! # The session event bus

Publishers append an event to the queue of its session and put the session on
the ready queue unless it is already scheduled; workers take a session, pop its
next event, dispatch it and put the session back while events remain. The
bodies of `publish`, `_pop_next_event` and `_reschedule_session` run under the
bus lock, so each is one step; publishes made by a handler are publishes taken
while a worker dispatches.

A scheduled session has exactly one token, on the ready queue or in the hand of
a worker (`FairyClaw.SessionEventBus.Tokens`). The bus therefore implements
one serial queue per session (`FairyClaw.SessionEventBus.toSerialQueue`), which
gives the order of dispatch and mutual exclusion.
-/

namespace FairyClaw

open Foundation

/-- Program points of `_worker_loop`. -/
inductive WorkerState
  | waiting
  | popping (sessionId : String)
  | dispatching (sessionId : String) (event : RuntimeEvent)
  | rescheduling (sessionId : String)

namespace WorkerState

/-- The session whose token the worker holds. -/
def held : WorkerState → Option String
  | waiting => none
  | popping sessionId => some sessionId
  | dispatching sessionId _ => some sessionId
  | rescheduling sessionId => some sessionId

/-- The event of a session being dispatched by the worker. -/
def current (sessionId : String) : WorkerState → Option RuntimeEvent
  | dispatching _ event => if event.sessionId = sessionId then some event else none
  | _ => none

/-- A worker has an event of a session in hand while it dispatches it. -/
theorem current_eq_some {worker : WorkerState} {sessionId : String} {event : RuntimeEvent} :
    worker.current sessionId = some event ↔
      event.sessionId = sessionId ∧ ∃ taken, worker = .dispatching taken event := by
  cases worker with
  | dispatching taken other =>
      simp only [current, Option.ite_none_right_eq_some, Option.some.injEq, dispatching.injEq]
      constructor
      · rintro ⟨owned, rfl⟩
        exact ⟨owned, taken, rfl, rfl⟩
      · rintro ⟨owned, _, _, rfl⟩
        exact ⟨owned, rfl⟩
  | _ => simp [current]

end WorkerState

/-- State of `SessionEventBus` with its worker tasks, and the record of the
events published and of those whose dispatch has returned. -/
structure SessionEventBus (workerCount : Nat) where
  sessionQueues : String → Option (List RuntimeEvent) := fun _ => none
  readySessions : List String := []
  scheduledSessions : Finset String := ∅
  workers : Fin (max 1 workerCount) → WorkerState := fun _ => .waiting
  published : List RuntimeEvent := []
  dispatched : List RuntimeEvent := []

namespace SessionEventBus

variable {workerCount : Nat}

/-- Add a queue for the session if it has none, append the event and schedule
the session unless it is scheduled. -/
def publish (bus : SessionEventBus workerCount) (event : RuntimeEvent) :
    SessionEventBus workerCount :=
  let queue := (bus.sessionQueues event.sessionId).getD []
  let stored := { bus with
    sessionQueues := Function.update bus.sessionQueues event.sessionId (some (queue ++ [event]))
    published := bus.published ++ [event] }
  if event.sessionId ∈ bus.scheduledSessions then stored
  else { stored with
    scheduledSessions := insert event.sessionId bus.scheduledSessions
    readySessions := bus.readySessions ++ [event.sessionId] }

/-- `_pop_next_event` -/
def popNextEvent (bus : SessionEventBus workerCount) (sessionId : String) :
    Option RuntimeEvent × SessionEventBus workerCount :=
  match bus.sessionQueues sessionId with
  | none => (none, { bus with scheduledSessions := bus.scheduledSessions.erase sessionId })
  | some [] => (none, { bus with
      scheduledSessions := bus.scheduledSessions.erase sessionId
      sessionQueues := Function.update bus.sessionQueues sessionId none })
  | some (event :: rest) => (some event, { bus with
      sessionQueues := Function.update bus.sessionQueues sessionId (some rest) })

/-- `_reschedule_session` -/
def rescheduleSession (bus : SessionEventBus workerCount) (sessionId : String) :
    SessionEventBus workerCount :=
  match bus.sessionQueues sessionId with
  | some (_ :: _) => { bus with readySessions := bus.readySessions ++ [sessionId] }
  | _ => { bus with
      scheduledSessions := bus.scheduledSessions.erase sessionId
      sessionQueues := Function.update bus.sessionQueues sessionId none }

/-- One worker is in another state. -/
def setWorker (bus : SessionEventBus workerCount) (worker : Fin (max 1 workerCount))
    (state : WorkerState) : SessionEventBus workerCount :=
  { bus with workers := Function.update bus.workers worker state }

end SessionEventBus

/-- A publish, or the next step of a worker: take a session from the ready
queue, pop its next event, return from `_dispatch`, or reschedule. -/
inductive BusAction (workerCount : Nat)
  | publish (event : RuntimeEvent)
  | take (worker : Fin (max 1 workerCount))
  | pop (worker : Fin (max 1 workerCount))
  | dispatch (worker : Fin (max 1 workerCount))
  | reschedule (worker : Fin (max 1 workerCount))

namespace SessionEventBus

variable {workerCount : Nat}

/-- One step. `_dispatch` collects the exceptions of the handlers, so it
returns whatever they do. -/
def step (bus : SessionEventBus workerCount) :
    BusAction workerCount → Option (SessionEventBus workerCount)
  | .publish event => some (bus.publish event)
  | .take worker =>
      match bus.workers worker, bus.readySessions with
      | .waiting, sessionId :: rest =>
          some ({ bus with readySessions := rest }.setWorker worker (.popping sessionId))
      | _, _ => none
  | .pop worker =>
      match bus.workers worker with
      | .popping sessionId =>
          match bus.popNextEvent sessionId with
          | (some event, next) => some (next.setWorker worker (.dispatching sessionId event))
          | (none, next) => some (next.setWorker worker .waiting)
      | _ => none
  | .dispatch worker =>
      match bus.workers worker with
      | .dispatching sessionId event =>
          some ({ bus with dispatched := bus.dispatched ++ [event] }.setWorker worker
            (.rescheduling sessionId))
      | _ => none
  | .reschedule worker =>
      match bus.workers worker with
      | .rescheduling sessionId =>
          some ((bus.rescheduleSession sessionId).setWorker worker .waiting)
      | _ => none

variable (workerCount) in
/-- The bus with its workers started and nothing published. -/
def machine : Machine (SessionEventBus workerCount) (BusAction workerCount) where
  initial := (· = {})
  step := step

/-- The waiting events of a session. -/
def queued (bus : SessionEventBus workerCount) (sessionId : String) : List RuntimeEvent :=
  (bus.sessionQueues sessionId).getD []

/-- The events of a session being dispatched, by worker. -/
def inDispatch (bus : SessionEventBus workerCount) (sessionId : String) : List RuntimeEvent :=
  (List.finRange (max 1 workerCount)).filterMap fun worker => (bus.workers worker).current sessionId

/-- The events of a list that belong to a session, in order. -/
def ofSession (events : List RuntimeEvent) (sessionId : String) : List RuntimeEvent :=
  events.filter fun event => event.sessionId = sessionId

end SessionEventBus

end FairyClaw
