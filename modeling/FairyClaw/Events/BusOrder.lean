import FairyClaw.Events.Bus
import FairyClaw.Foundation.Token

/-! # Order and mutual exclusion on the session event bus

The tokens of the scheduled sessions are placed once
(`FairyClaw.SessionEventBus.Tokens`), whatever the interleaving of publishers
and workers. A session with waiting events is scheduled and events wait in the
queue of their own session. Together these make the bus an implementation of
one serial queue per session (`FairyClaw.SessionEventBus.toSerialQueue`).
-/

namespace FairyClaw.SessionEventBus

open Foundation

variable {workerCount : Nat}

/-- The session held by each worker. -/
def held (bus : SessionEventBus workerCount) (worker : Fin (max 1 workerCount)) : Option String :=
  (bus.workers worker).held

/-- Placement of the session tokens and ownership of the stored events. -/
structure Tokens (bus : SessionEventBus workerCount) : Prop where
  placed : TokenPlacement bus.readySessions bus.held bus.scheduledSessions
  queuedScheduled : ∀ sessionId, bus.queued sessionId ≠ [] → sessionId ∈ bus.scheduledSessions
  queuedOwn : ∀ sessionId, ∀ event ∈ bus.queued sessionId, event.sessionId = sessionId
  dispatchedOwn : ∀ worker sessionId event,
    bus.workers worker = .dispatching sessionId event → event.sessionId = sessionId

/-- A worker in another state holds what it holds there. -/
theorem held_setWorker (bus : SessionEventBus workerCount) (worker : Fin (max 1 workerCount))
    (state : WorkerState) :
    (bus.setWorker worker state).held = Function.update bus.held worker state.held := by
  funext other
  by_cases same : other = worker
  · subst same
    simp only [held, setWorker, Function.update_self]
  · simp only [held, setWorker, Function.update_of_ne same]

/-- A worker that keeps the token it holds leaves the holders unchanged. -/
theorem held_setWorker_of_same (bus : SessionEventBus workerCount)
    {worker : Fin (max 1 workerCount)} {state : WorkerState}
    (same : (bus.workers worker).held = state.held) : (bus.setWorker worker state).held = bus.held := by
  rw [held_setWorker, ← same]
  exact Function.update_eq_self worker bus.held

/-- A published event comes last in the queue of its session. -/
theorem queued_publish (bus : SessionEventBus workerCount) (event : RuntimeEvent) :
    (bus.publish event).queued =
      Function.update bus.queued event.sessionId (bus.queued event.sessionId ++ [event]) := by
  funext sessionId
  by_cases same : sessionId = event.sessionId
  · subst same
    simp only [publish, queued]
    split <;> simp only [Function.update_self, Option.getD_some]
  · rw [Function.update_of_ne same]
    simp only [publish, queued]
    split <;> simp only [Function.update_of_ne same]

/-- The outcomes of a pop: the first waiting event, or nothing when none waits. -/
theorem popNextEvent_cases (bus : SessionEventBus workerCount) (sessionId : String) :
    (∃ event rest, bus.queued sessionId = event :: rest ∧
      bus.popNextEvent sessionId = (some event, { bus with
        sessionQueues := Function.update bus.sessionQueues sessionId (some rest) })) ∨
    (bus.queued sessionId = [] ∧ ∃ queues, bus.popNextEvent sessionId = (none, { bus with
        scheduledSessions := bus.scheduledSessions.erase sessionId
        sessionQueues := queues }) ∧ ∀ other, (queues other).getD [] = bus.queued other) := by
  unfold popNextEvent queued
  cases stored : bus.sessionQueues sessionId with
  | none => exact Or.inr ⟨rfl, bus.sessionQueues, rfl, fun _ => rfl⟩
  | some queue =>
      cases queue with
      | nil =>
          refine Or.inr ⟨rfl, _, rfl, fun other => ?_⟩
          by_cases same : other = sessionId
          · subst same
            simp only [Function.update_self, stored, Option.getD_none, Option.getD_some]
          · simp only [Function.update_of_ne same]
      | cons event rest => exact Or.inl ⟨event, rest, rfl, rfl⟩

/-- The outcomes of a reschedule: the token returns to the ready queue, or the
session has nothing waiting and is forgotten. -/
theorem rescheduleSession_cases (bus : SessionEventBus workerCount) (sessionId : String) :
    (bus.rescheduleSession sessionId =
      { bus with readySessions := bus.readySessions ++ [sessionId] }) ∨
    (bus.queued sessionId = [] ∧ ∃ queues, bus.rescheduleSession sessionId = { bus with
        scheduledSessions := bus.scheduledSessions.erase sessionId
        sessionQueues := queues } ∧ ∀ other, (queues other).getD [] = bus.queued other) := by
  have forgotten (empty : bus.queued sessionId = []) (other : String) :
      (Function.update bus.sessionQueues sessionId none other).getD [] = bus.queued other := by
    by_cases same : other = sessionId
    · subst same
      simp only [Function.update_self, Option.getD_none, empty]
    · simp only [Function.update_of_ne same, queued]
  unfold rescheduleSession
  cases stored : bus.sessionQueues sessionId with
  | none =>
      have empty : bus.queued sessionId = [] := by simp only [queued, stored, Option.getD_none]
      exact Or.inr ⟨empty, _, rfl, forgotten empty⟩
  | some queue =>
      cases queue with
      | nil =>
          have empty : bus.queued sessionId = [] := by simp only [queued, stored, Option.getD_some]
          exact Or.inr ⟨empty, _, rfl, forgotten empty⟩
      | cons event rest => exact Or.inl rfl

/-- Erasing the schedule mark of a session without waiting events keeps every
session with waiting events scheduled. -/
theorem Tokens.queuedScheduled_erase {bus : SessionEventBus workerCount} (tokens : bus.Tokens)
    {sessionId : String} (empty : bus.queued sessionId = []) (other : String)
    (waiting : bus.queued other ≠ []) : other ∈ bus.scheduledSessions.erase sessionId := by
  refine Finset.mem_erase.mpr ⟨?_, tokens.queuedScheduled other waiting⟩
  rintro rfl
  exact waiting empty

/-- Publishing keeps one token for each session with events. -/
theorem Tokens.publish {bus : SessionEventBus workerCount} (tokens : bus.Tokens)
    (event : RuntimeEvent) : (bus.publish event).Tokens := by
  have scheduled : event.sessionId ∈ (bus.publish event).scheduledSessions := by
    simp only [SessionEventBus.publish]
    split
    · assumption
    · exact Finset.mem_insert_self ..
  have kept : bus.scheduledSessions ⊆ (bus.publish event).scheduledSessions := by
    simp only [SessionEventBus.publish]
    split
    · exact Finset.Subset.refl _
    · exact Finset.subset_insert ..
  refine ⟨?_, ?_, ?_, ?_⟩
  · simp only [SessionEventBus.publish]
    split
    · exact tokens.placed
    · exact tokens.placed.mark ‹_›
  · intro sessionId waiting
    rw [queued_publish] at waiting
    by_cases same : sessionId = event.sessionId
    · exact same ▸ scheduled
    · rw [Function.update_of_ne same] at waiting
      exact kept (tokens.queuedScheduled sessionId waiting)
  · intro sessionId other member
    rw [queued_publish] at member
    by_cases same : sessionId = event.sessionId
    · subst same
      rw [Function.update_self, List.mem_append, List.mem_singleton] at member
      rcases member with inside | rfl
      · exact tokens.queuedOwn _ other inside
      · rfl
    · rw [Function.update_of_ne same] at member
      exact tokens.queuedOwn sessionId other member
  · intro worker sessionId other dispatching
    have unchanged : (bus.publish event).workers = bus.workers := by
      simp only [SessionEventBus.publish]
      split <;> rfl
    exact tokens.dispatchedOwn worker sessionId other (unchanged ▸ dispatching)

/-- A worker moving to a program point other than a dispatch keeps the
ownership of dispatched events. -/
theorem Tokens.dispatchedOwn_setWorker {bus next : SessionEventBus workerCount}
    (tokens : bus.Tokens) (unchanged : next.workers = bus.workers)
    {worker : Fin (max 1 workerCount)} {state : WorkerState}
    (own : ∀ sessionId event, state = .dispatching sessionId event → event.sessionId = sessionId)
    (other : Fin (max 1 workerCount)) (sessionId : String) (event : RuntimeEvent)
    (dispatching : (next.setWorker worker state).workers other = .dispatching sessionId event) :
    event.sessionId = sessionId := by
  by_cases same : other = worker
  · subst same
    simp only [setWorker, Function.update_self] at dispatching
    exact own sessionId event dispatching
  · simp only [setWorker, Function.update_of_ne same, unchanged] at dispatching
    exact tokens.dispatchedOwn other sessionId event dispatching

/-- Taking a ready session hands its token to the worker. -/
theorem Tokens.take {bus : SessionEventBus workerCount} (tokens : bus.Tokens)
    {worker : Fin (max 1 workerCount)} {sessionId : String} {rest : List String}
    (waiting : bus.workers worker = .waiting) (ready : bus.readySessions = sessionId :: rest) :
    ({ bus with readySessions := rest }.setWorker worker (.popping sessionId)).Tokens := by
  have free : bus.held worker = none := by simp only [held, waiting, WorkerState.held]
  have placed := tokens.placed
  rw [ready] at placed
  refine ⟨?_, tokens.queuedScheduled, tokens.queuedOwn, ?_⟩
  · rw [held_setWorker]
    exact placed.take free
  · exact tokens.dispatchedOwn_setWorker rfl (by simp)

/-- Popping an event leaves the token with the worker. -/
theorem Tokens.pop {bus : SessionEventBus workerCount} (tokens : bus.Tokens)
    {worker : Fin (max 1 workerCount)} {sessionId : String}
    (popping : bus.workers worker = .popping sessionId) {event : RuntimeEvent}
    {rest : List RuntimeEvent} (head : bus.queued sessionId = event :: rest) :
    ({ bus with sessionQueues := Function.update bus.sessionQueues sessionId (some rest) }.setWorker
      worker (.dispatching sessionId event)).Tokens := by
  have own := tokens.queuedOwn sessionId
  rw [head] at own
  have shorter (other : String) : (Function.update bus.sessionQueues sessionId (some rest) other).getD
      [] = Function.update bus.queued sessionId rest other := by
    by_cases same : other = sessionId
    · subst same
      simp only [Function.update_self, Option.getD_some]
    · rw [Function.update_of_ne same, Function.update_of_ne same]
      rfl
  refine ⟨?_, ?_, ?_, ?_⟩
  · rw [held_setWorker_of_same]
    · exact tokens.placed
    · simp only [popping, WorkerState.held]
  · intro other waiting
    simp only [queued, setWorker, shorter] at waiting
    by_cases same : other = sessionId
    · exact tokens.queuedScheduled other (by rw [same, head]; exact List.cons_ne_nil _ _)
    · rw [Function.update_of_ne same] at waiting
      exact tokens.queuedScheduled other waiting
  · intro other stored member
    simp only [queued, setWorker, shorter] at member
    by_cases same : other = sessionId
    · subst same
      rw [Function.update_self] at member
      exact own stored (List.mem_cons_of_mem _ member)
    · rw [Function.update_of_ne same] at member
      exact tokens.queuedOwn other stored member
  · apply tokens.dispatchedOwn_setWorker (by rfl)
    rintro taken other named
    cases named
    exact own event List.mem_cons_self

/-- A worker finding nothing to pop or nothing to put back forgets the session. -/
theorem Tokens.forget {bus : SessionEventBus workerCount} (tokens : bus.Tokens)
    {worker : Fin (max 1 workerCount)} {sessionId : String}
    (holds : (bus.workers worker).held = some sessionId) (empty : bus.queued sessionId = [])
    {queues : String → Option (List RuntimeEvent)}
    (same : ∀ other, (queues other).getD [] = bus.queued other) :
    ({ bus with
      scheduledSessions := bus.scheduledSessions.erase sessionId
      sessionQueues := queues }.setWorker worker .waiting).Tokens := by
  refine ⟨?_, ?_, ?_, ?_⟩
  · rw [held_setWorker]
    exact tokens.placed.drop holds
  · intro other waiting
    simp only [queued, setWorker, same] at waiting
    exact tokens.queuedScheduled_erase empty other waiting
  · intro other event member
    simp only [queued, setWorker, same] at member
    exact tokens.queuedOwn other event member
  · exact tokens.dispatchedOwn_setWorker (by rfl) (by simp)

/-- A session that goes back to the ready ones has its token there. -/
theorem Tokens.giveBack {bus : SessionEventBus workerCount} (tokens : bus.Tokens)
    {worker : Fin (max 1 workerCount)} {sessionId : String}
    (holds : (bus.workers worker).held = some sessionId) :
    ({ bus with readySessions := bus.readySessions ++ [sessionId] }.setWorker worker
      .waiting).Tokens := by
  refine ⟨?_, tokens.queuedScheduled, tokens.queuedOwn, ?_⟩
  · rw [held_setWorker]
    exact tokens.placed.giveBack holds
  · exact tokens.dispatchedOwn_setWorker rfl (by simp)

/-- Finishing a dispatch leaves the token with the worker. -/
theorem Tokens.dispatch {bus : SessionEventBus workerCount} (tokens : bus.Tokens)
    {worker : Fin (max 1 workerCount)} {sessionId : String} {event : RuntimeEvent}
    (dispatching : bus.workers worker = .dispatching sessionId event) :
    ({ bus with dispatched := bus.dispatched ++ [event] }.setWorker worker
      (.rescheduling sessionId)).Tokens := by
  refine ⟨?_, tokens.queuedScheduled, tokens.queuedOwn, ?_⟩
  · rw [held_setWorker_of_same]
    · exact tokens.placed
    · simp only [dispatching, WorkerState.held]
  · exact tokens.dispatchedOwn_setWorker rfl (by simp)

/-- What each step does, read off the worker's program point. -/
theorem step_cases {bus next : SessionEventBus workerCount} {action : BusAction workerCount}
    (stepped : bus.step action = some next) :
    match action with
    | .publish event => next = bus.publish event
    | .take worker => ∃ sessionId rest, bus.workers worker = .waiting ∧
        bus.readySessions = sessionId :: rest ∧
        next = { bus with readySessions := rest }.setWorker worker (.popping sessionId)
    | .pop worker => ∃ sessionId, bus.workers worker = .popping sessionId ∧
        ((∃ event rest, bus.queued sessionId = event :: rest ∧ next = { bus with
            sessionQueues := Function.update bus.sessionQueues sessionId (some rest) }.setWorker
              worker (.dispatching sessionId event)) ∨
          (bus.queued sessionId = [] ∧ ∃ queues, (∀ other, (queues other).getD [] =
            bus.queued other) ∧ next = { bus with
              scheduledSessions := bus.scheduledSessions.erase sessionId
              sessionQueues := queues }.setWorker worker .waiting))
    | .dispatch worker => ∃ sessionId event, bus.workers worker = .dispatching sessionId event ∧
        next = { bus with dispatched := bus.dispatched ++ [event] }.setWorker worker
          (.rescheduling sessionId)
    | .reschedule worker => ∃ sessionId, bus.workers worker = .rescheduling sessionId ∧
        (next = { bus with readySessions := bus.readySessions ++ [sessionId] }.setWorker worker
            .waiting ∨
          (bus.queued sessionId = [] ∧ ∃ queues, (∀ other, (queues other).getD [] =
            bus.queued other) ∧ next = { bus with
              scheduledSessions := bus.scheduledSessions.erase sessionId
              sessionQueues := queues }.setWorker worker .waiting)) := by
  cases action with
  | publish event => exact (Option.some.inj stepped).symm
  | take worker =>
      simp only [step] at stepped
      split at stepped
      · rename_i sessionId rest waiting ready
        exact ⟨sessionId, rest, waiting, ready, (Option.some.inj stepped).symm⟩
      · cases stepped
  | pop worker =>
      simp only [step] at stepped
      split at stepped
      · rename_i sessionId popping
        refine ⟨sessionId, popping, ?_⟩
        rcases bus.popNextEvent_cases sessionId with
          ⟨event, rest, head, popped⟩ | ⟨empty, queues, popped, same⟩
        · rw [popped] at stepped
          exact Or.inl ⟨event, rest, head, (Option.some.inj stepped).symm⟩
        · rw [popped] at stepped
          exact Or.inr ⟨empty, queues, same, (Option.some.inj stepped).symm⟩
      · cases stepped
  | dispatch worker =>
      simp only [step] at stepped
      split at stepped
      · rename_i sessionId event dispatching
        exact ⟨sessionId, event, dispatching, (Option.some.inj stepped).symm⟩
      · cases stepped
  | reschedule worker =>
      simp only [step] at stepped
      split at stepped
      · rename_i sessionId rescheduling
        refine ⟨sessionId, rescheduling, ?_⟩
        rcases bus.rescheduleSession_cases sessionId with kept | ⟨empty, queues, forgot, same⟩
        · rw [kept] at stepped
          exact Or.inl (Option.some.inj stepped).symm
        · rw [forgot] at stepped
          exact Or.inr ⟨empty, queues, same, (Option.some.inj stepped).symm⟩
      · cases stepped

/-- Every step keeps one token for each session with events. -/
theorem Tokens.step {bus next : SessionEventBus workerCount} (tokens : bus.Tokens)
    {action : BusAction workerCount} (stepped : bus.step action = some next) : next.Tokens := by
  have effect := step_cases stepped
  cases action with
  | publish event => exact effect ▸ tokens.publish event
  | take worker =>
      obtain ⟨sessionId, rest, waiting, ready, rfl⟩ := effect
      exact tokens.take waiting ready
  | pop worker =>
      obtain ⟨sessionId, popping, ⟨event, rest, head, rfl⟩ | ⟨empty, queues, same, rfl⟩⟩ := effect
      · exact tokens.pop popping head
      · exact tokens.forget (by rw [popping]; rfl) empty same
  | dispatch worker =>
      obtain ⟨sessionId, event, dispatching, rfl⟩ := effect
      exact tokens.dispatch dispatching
  | reschedule worker =>
      obtain ⟨sessionId, rescheduling, rfl | ⟨empty, queues, same, rfl⟩⟩ := effect
      · exact tokens.giveBack (by rw [rescheduling]; rfl)
      · exact tokens.forget (by rw [rescheduling]; rfl) empty same

/-- Every reachable state places each token once. -/
theorem tokens_of_reachable {guard : Machine.Guard (SessionEventBus workerCount) (BusAction workerCount)}
    {bus : SessionEventBus workerCount} (reached : (machine workerCount).Reachable guard bus) :
    bus.Tokens := by
  apply reached.invariant
  · rintro _ rfl
    refine ⟨TokenPlacement.nothing, ?_, ?_, ?_⟩
    · intro sessionId waiting
      exact (waiting rfl).elim
    · intro sessionId event member
      cases member
    · intro worker sessionId event dispatching
      cases dispatching
  · intro before action after tokens _ stepped
    exact tokens.step stepped

/-- Two workers dispatching events of one session are one worker. -/
theorem Tokens.exclusive {bus : SessionEventBus workerCount} (tokens : bus.Tokens)
    {first second : Fin (max 1 workerCount)} {firstTaken secondTaken : String}
    {firstEvent secondEvent : RuntimeEvent}
    (left : bus.workers first = .dispatching firstTaken firstEvent)
    (right : bus.workers second = .dispatching secondTaken secondEvent)
    (same : firstEvent.sessionId = secondEvent.sessionId) : first = second := by
  rw [tokens.dispatchedOwn first _ _ left, tokens.dispatchedOwn second _ _ right] at same
  apply tokens.placed.heldOnce first second firstTaken
  · simp only [held, left, WorkerState.held]
  · simp only [held, right, WorkerState.held, same]

/-- A worker whose current event is of a session holds that session. -/
theorem Tokens.held_of_current {bus : SessionEventBus workerCount} (tokens : bus.Tokens)
    {worker : Fin (max 1 workerCount)} {sessionId : String} {event : RuntimeEvent}
    (current : (bus.workers worker).current sessionId = some event) :
    bus.held worker = some sessionId := by
  obtain ⟨owned, taken, dispatching⟩ := WorkerState.current_eq_some.mp current
  have own := tokens.dispatchedOwn worker taken event dispatching
  simp only [held, dispatching, WorkerState.held, ← own, owned]

/-- A choice that only one item meets gives one value. -/
private theorem filterMap_eq_singleton {α β : Type*} {items : List α} (nodup : items.Nodup)
    {choice : α → Option β} {item : α} {value : β} (member : item ∈ items)
    (found : choice item = some value)
    (only : ∀ other ∈ items, other ≠ item → choice other = none) :
    items.filterMap choice = [value] := by
  obtain ⟨before, after, rfl⟩ := List.append_of_mem member
  rw [List.nodup_middle, List.nodup_cons, List.mem_append, not_or] at nodup
  obtain ⟨⟨notBefore, notAfter⟩, _⟩ := nodup
  have nothingBefore : before.filterMap choice = [] := by
    apply List.filterMap_eq_nil_iff.mpr
    intro other inside
    exact only other (List.mem_append_left _ inside) fun same => notBefore (same ▸ inside)
  have nothingAfter : after.filterMap choice = [] := by
    apply List.filterMap_eq_nil_iff.mpr
    intro other inside
    exact only other (List.mem_append_right _ (List.mem_cons_of_mem _ inside))
      fun same => notAfter (same ▸ inside)
  rw [List.filterMap_append, List.filterMap_cons, found, nothingBefore, nothingAfter]
  rfl

/-- The events of a session in dispatch are those of the worker holding it. -/
theorem Tokens.inDispatch_of_held {bus : SessionEventBus workerCount} (tokens : bus.Tokens)
    {worker : Fin (max 1 workerCount)} {sessionId : String}
    (holds : bus.held worker = some sessionId) :
    bus.inDispatch sessionId = ((bus.workers worker).current sessionId).toList := by
  have only (other : Fin (max 1 workerCount)) (different : other ≠ worker) :
      (bus.workers other).current sessionId = none := by
    by_contra present
    obtain ⟨event, current⟩ := Option.ne_none_iff_exists'.mp present
    exact different (tokens.placed.heldOnce other worker sessionId
      (tokens.held_of_current current) holds)
  cases current : (bus.workers worker).current sessionId with
  | some event =>
      exact filterMap_eq_singleton (List.nodup_finRange _) (List.mem_finRange worker) current
        fun other _ different => only other different
  | none =>
      apply List.filterMap_eq_nil_iff.mpr
      intro other _
      by_cases same : other = worker
      · exact same ▸ current
      · exact only other same

/-- At most one event of a session is in dispatch. -/
theorem Tokens.inDispatch_length_le {bus : SessionEventBus workerCount} (tokens : bus.Tokens)
    (sessionId : String) : (bus.inDispatch sessionId).length ≤ 1 := by
  by_cases busy : ∃ worker event, (bus.workers worker).current sessionId = some event
  · obtain ⟨worker, event, current⟩ := busy
    rw [tokens.inDispatch_of_held (tokens.held_of_current current), current]
    exact Nat.le_refl 1
  · push Not at busy
    have idle : bus.inDispatch sessionId = [] := by
      apply List.filterMap_eq_nil_iff.mpr
      intro worker _
      cases current : (bus.workers worker).current sessionId with
      | none => rfl
      | some event => exact (busy worker event current).elim
    rw [idle]
    exact Nat.zero_le 1

/-- An event more is one more of its session. -/
theorem ofSession_append_singleton (events : List RuntimeEvent) (event : RuntimeEvent) :
    ofSession (events ++ [event]) = Function.update (ofSession events) event.sessionId
      (ofSession events event.sessionId ++ [event]) := by
  funext sessionId
  by_cases same : sessionId = event.sessionId
  · subst same
    simp only [ofSession, List.filter_append, List.filter_cons, decide_true, ↓reduceIte,
      List.filter_nil, Function.update_self]
  · have other : ¬ event.sessionId = sessionId := fun equal => same equal.symm
    rw [Function.update_of_ne same]
    simp only [ofSession, List.filter_append, List.filter_cons, other, decide_false,
      Bool.false_eq_true, ↓reduceIte, List.filter_nil, List.append_nil]

/-- The bus seen as one serial queue per session. -/
def toSerialQueue (bus : SessionEventBus workerCount) : SerialQueue String RuntimeEvent where
  queued := bus.queued
  active := fun sessionId => (bus.inDispatch sessionId).head?
  enqueued := ofSession bus.published
  finished := ofSession bus.dispatched

/-- The serial-queue action of a bus step; taking a session, an empty pop and
rescheduling are silent. -/
def serialAction (bus : SessionEventBus workerCount) :
    BusAction workerCount → Option (SerialQueue.Action String RuntimeEvent)
  | .publish event => some (.enqueue event)
  | .take _ => none
  | .pop worker =>
      match bus.workers worker with
      | .popping sessionId =>
          match bus.queued sessionId with
          | [] => none
          | _ :: _ => some (.start sessionId)
      | _ => none
  | .dispatch worker =>
      match bus.workers worker with
      | .dispatching sessionId _ => some (.finish sessionId)
      | _ => none
  | .reschedule _ => none

/-- A worker moving between program points outside a dispatch of the session
leaves the events of that session in dispatch unchanged. -/
theorem inDispatch_setWorker {bus next : SessionEventBus workerCount}
    (unchanged : next.workers = bus.workers) {worker : Fin (max 1 workerCount)}
    {state : WorkerState} {sessionId : String}
    (same : state.current sessionId = (bus.workers worker).current sessionId) :
    (next.setWorker worker state).inDispatch sessionId = bus.inDispatch sessionId := by
  apply List.filterMap_congr
  intro other _
  by_cases moved : other = worker
  · subst moved
    simp only [setWorker, Function.update_self, same]
  · simp only [setWorker, Function.update_of_ne moved, unchanged]

/-- Publishing is enqueueing. -/
theorem toSerialQueue_publish (bus : SessionEventBus workerCount) (event : RuntimeEvent) :
    (bus.publish event).toSerialQueue =
      bus.toSerialQueue.enqueue RuntimeEvent.sessionId event := by
  have workers : (bus.publish event).workers = bus.workers := by
    simp only [publish]
    split <;> rfl
  have published : (bus.publish event).published = bus.published ++ [event] := by
    simp only [publish]
    split <;> rfl
  have dispatched : (bus.publish event).dispatched = bus.dispatched := by
    simp only [publish]
    split <;> rfl
  simp only [toSerialQueue, SerialQueue.enqueue, queued_publish, published, dispatched,
    ofSession_append_singleton, inDispatch, workers]

/-- A worker moving between program points outside a dispatch changes nothing
that the serial queues show. -/
theorem toSerialQueue_silent {bus next : SessionEventBus workerCount}
    (queued : ∀ sessionId, next.queued sessionId = bus.queued sessionId)
    (published : next.published = bus.published) (dispatched : next.dispatched = bus.dispatched)
    (workers : next.workers = bus.workers) {worker : Fin (max 1 workerCount)} {state : WorkerState}
    (before : ∀ sessionId, (bus.workers worker).current sessionId = none)
    (after : ∀ sessionId, state.current sessionId = none) :
    (next.setWorker worker state).toSerialQueue = bus.toSerialQueue := by
  apply SerialQueue.ext
  · exact queued
  · intro sessionId
    exact congrArg List.head? (inDispatch_setWorker workers
      ((after sessionId).trans (before sessionId).symm))
  · intro sessionId
    exact congrArg (ofSession · sessionId) published
  · intro sessionId
    exact congrArg (ofSession · sessionId) dispatched

/-- Popping is starting. -/
theorem Tokens.toSerialQueue_pop {bus : SessionEventBus workerCount} (tokens : bus.Tokens)
    {worker : Fin (max 1 workerCount)} {sessionId : String}
    (popping : bus.workers worker = .popping sessionId) {event : RuntimeEvent}
    {rest : List RuntimeEvent} (head : bus.queued sessionId = event :: rest) :
    bus.toSerialQueue.start sessionId = some ({ bus with
      sessionQueues := Function.update bus.sessionQueues sessionId (some rest) }.setWorker
        worker (.dispatching sessionId event)).toSerialQueue := by
  have holds : bus.held worker = some sessionId := by rw [held, popping]; rfl
  have inactive : bus.inDispatch sessionId = [] := by
    rw [tokens.inDispatch_of_held holds, popping]
    rfl
  have own : event.sessionId = sessionId :=
    tokens.queuedOwn sessionId event (by rw [head]; exact List.mem_cons_self)
  refine SerialQueue.start_eq_some.mpr ⟨event, rest, ?_, head, SerialQueue.ext ?_ ?_ ?_ ?_⟩
  · simp only [toSerialQueue, inactive, List.head?_nil]
  · intro other
    by_cases same : other = sessionId
    · subst same
      simp only [toSerialQueue, queued, setWorker, Function.update_self, Option.getD_some]
    · simp only [toSerialQueue, queued, setWorker, Function.update_of_ne same]
  · intro other
    by_cases same : other = sessionId
    · subst same
      have taken : ({ bus with
          sessionQueues := Function.update bus.sessionQueues other (some rest) }.setWorker worker
            (.dispatching other event)).held worker = some other := by
        simp only [held, setWorker, Function.update_self]
        rfl
      have busy := (tokens.pop popping head).inDispatch_of_held taken
      simp only [toSerialQueue, busy, Function.update_self]
      simp only [setWorker, Function.update_self, WorkerState.current, own, ↓reduceIte,
        Option.toList_some, List.head?_cons]
    · simp only [Function.update_of_ne same]
      refine congrArg List.head? (inDispatch_setWorker (by rfl) ?_)
      have foreign : ¬ event.sessionId = other := fun equal => same (equal.symm.trans own)
      simp only [WorkerState.current, foreign, ↓reduceIte, popping]
  · intro other
    rfl
  · intro other
    rfl

/-- Finishing a dispatch is finishing. -/
theorem Tokens.toSerialQueue_dispatch {bus : SessionEventBus workerCount} (tokens : bus.Tokens)
    {worker : Fin (max 1 workerCount)} {sessionId : String} {event : RuntimeEvent}
    (dispatching : bus.workers worker = .dispatching sessionId event) :
    bus.toSerialQueue.finish sessionId = some ({ bus with
      dispatched := bus.dispatched ++ [event] }.setWorker worker
        (.rescheduling sessionId)).toSerialQueue := by
  have holds : bus.held worker = some sessionId := by rw [held, dispatching]; rfl
  have own := tokens.dispatchedOwn worker sessionId event dispatching
  have busy : bus.inDispatch sessionId = [event] := by
    rw [tokens.inDispatch_of_held holds, dispatching]
    simp only [WorkerState.current, own, ↓reduceIte, Option.toList_some]
  refine SerialQueue.finish_eq_some.mpr ⟨event, ?_, SerialQueue.ext ?_ ?_ ?_ ?_⟩
  · simp only [toSerialQueue, busy, List.head?_cons]
  · intro other
    rfl
  · intro other
    by_cases same : other = sessionId
    · subst same
      have taken : ({ bus with dispatched := bus.dispatched ++ [event] }.setWorker worker
          (.rescheduling other)).held worker = some other := by
        simp only [held, setWorker, Function.update_self]
        rfl
      have idle := (tokens.dispatch dispatching).inDispatch_of_held taken
      simp only [toSerialQueue, idle, Function.update_self]
      simp only [setWorker, Function.update_self, WorkerState.current, Option.toList_none,
        List.head?_nil]
    · simp only [Function.update_of_ne same]
      refine congrArg List.head? (inDispatch_setWorker (by rfl) ?_)
      have foreign : ¬ event.sessionId = other := fun equal => same (equal.symm.trans own)
      simp only [WorkerState.current, dispatching, foreign, ↓reduceIte]
  · intro other
    rfl
  · intro other
    simp only [toSerialQueue, setWorker, ofSession_append_singleton, own]

/-- **The bus implements serial queues.** Every step of a bus with its tokens
placed is a step of the serial queues of its sessions, or silent. -/
def serialSimulation : (machine workerCount).Simulation
    (SerialQueue.machine RuntimeEvent.sessionId) Tokens where
  view := toSerialQueue
  shown := serialAction
  started := by
    rintro _ rfl
    apply SerialQueue.ext
    · intro sessionId
      rfl
    · intro sessionId
      have idle : ({} : SessionEventBus workerCount).inDispatch sessionId = [] :=
        List.filterMap_eq_nil_iff.mpr fun _ _ => rfl
      simp only [toSerialQueue, idle, List.head?_nil]
      rfl
    · intro sessionId
      rfl
    · intro sessionId
      rfl
  stepped := by
    intro before action after tokens stepped
    have effect := step_cases stepped
    cases action with
    | publish event =>
        simp only [serialAction, SerialQueue.machine, effect, toSerialQueue_publish]
    | take worker =>
        obtain ⟨sessionId, rest, waiting, ready, rfl⟩ := effect
        let next := { before with readySessions := rest }
        have unchanged : next.workers = before.workers := rfl
        exact toSerialQueue_silent (fun _ => rfl) rfl rfl unchanged
          (fun _ => by rw [waiting]; rfl) (fun _ => rfl)
    | pop worker =>
        obtain ⟨sessionId, popping, ⟨event, rest, head, rfl⟩ | ⟨empty, queues, same, rfl⟩⟩ := effect
        · simp only [serialAction, popping, head, SerialQueue.machine]
          exact tokens.toSerialQueue_pop popping head
        · simp only [serialAction, popping, empty]
          let next := { before with
            scheduledSessions := before.scheduledSessions.erase sessionId
            sessionQueues := queues }
          have unchanged : next.workers = before.workers := rfl
          have kept : ∀ other, next.queued other = before.queued other := same
          exact toSerialQueue_silent kept rfl rfl unchanged (fun _ => by rw [popping]; rfl)
            (fun _ => rfl)
    | dispatch worker =>
        obtain ⟨sessionId, event, dispatching, rfl⟩ := effect
        simp only [serialAction, dispatching, SerialQueue.machine]
        exact tokens.toSerialQueue_dispatch dispatching
    | reschedule worker =>
        obtain ⟨sessionId, rescheduling, rfl | ⟨empty, queues, same, rfl⟩⟩ := effect
        · let next := { before with readySessions := before.readySessions ++ [sessionId] }
          have unchanged : next.workers = before.workers := rfl
          exact toSerialQueue_silent (fun _ => rfl) rfl rfl unchanged
            (fun _ => by rw [rescheduling]; rfl) (fun _ => rfl)
        · let next := { before with
            scheduledSessions := before.scheduledSessions.erase sessionId
            sessionQueues := queues }
          have unchanged : next.workers = before.workers := rfl
          have kept : ∀ other, next.queued other = before.queued other := same
          exact toSerialQueue_silent kept rfl rfl unchanged
            (fun _ => by rw [rescheduling]; rfl) (fun _ => rfl)

/-- **Order and mutual exclusion.** In every interleaving of publishers and
workers, the events published to a session are those dispatched, then the at
most one in dispatch, then those waiting in its queue, and no two workers
dispatch events of one session. -/
theorem fifo_and_mutual_exclusion (workerCount : Nat) (bus : SessionEventBus workerCount)
    (reached : (machine workerCount).Reachable Machine.anyStep bus) :
    (∀ sessionId, ofSession bus.published sessionId = ofSession bus.dispatched sessionId ++
        bus.inDispatch sessionId ++ bus.queued sessionId ∧
      (bus.inDispatch sessionId).length ≤ 1) ∧
    ∀ first second firstTaken secondTaken firstEvent secondEvent,
      bus.workers first = .dispatching firstTaken firstEvent →
      bus.workers second = .dispatching secondTaken secondEvent →
      firstEvent.sessionId = secondEvent.sessionId → first = second := by
  have tokens := tokens_of_reachable reached
  refine ⟨fun sessionId => ?_, fun _ _ _ _ _ _ left right same => tokens.exclusive left right same⟩
  have short := tokens.inDispatch_length_le sessionId
  refine ⟨?_, short⟩
  have serial := serialSimulation.reachable (fun _ => tokens_of_reachable) reached
  have ledger := SerialQueue.ledger_of_reachable _ serial sessionId
  have active : ((bus.inDispatch sessionId).head?).toList = bus.inDispatch sessionId := by
    match events : bus.inDispatch sessionId with
    | [] => rfl
    | [event] => rfl
    | _ :: _ :: _ =>
        rw [events] at short
        exact absurd short (by simp)
  calc ofSession bus.published sessionId
      = ofSession bus.dispatched sessionId ++ ((bus.inDispatch sessionId).head?).toList ++
          bus.queued sessionId := ledger
    _ = _ := by rw [active]

/-- Two workers, a user message in dispatch and a wakeup published by its
handler. -/
def handlerPublishRun : List (BusAction 2) :=
  [.publish { type := .builtin .userMessageReceived, sessionId := "s", id := "1", timestamp := 1 },
    .take ⟨1, by decide⟩, .pop ⟨1, by decide⟩,
    .publish { type := .builtin .wakeupRequested, sessionId := "s", id := "2", timestamp := 2 }]

/-- The bus after a handler has published while it ran. -/
def handlerPublishBus : SessionEventBus 2 :=
  ((machine 2).replay Machine.anyStep {} handlerPublishRun).getD {}

/-- The event that a handler publishes waits behind the one in dispatch. -/
theorem fifo_of_handlerPublishRun :
    (handlerPublishBus.inDispatch "s").length = 1 ∧ (handlerPublishBus.queued "s").length = 1 ∧
      ofSession handlerPublishBus.published "s" = ofSession handlerPublishBus.dispatched "s" ++
        handlerPublishBus.inDispatch "s" ++ handlerPublishBus.queued "s" := by
  refine ⟨by decide, by decide, ?_⟩
  have replayed : (machine 2).replay Machine.anyStep {} handlerPublishRun =
      some handlerPublishBus := rfl
  exact ((fifo_and_mutual_exclusion 2 _ (.of_replay rfl replayed)).1 "s").1

end FairyClaw.SessionEventBus
