import FairyClaw.Events.Scheduler

/-! # No trigger is stuck

A mailbox entry that asks for a turn is never left without somebody who will
look at it: a turn is in flight, a wakeup is coming, or a debounce task has not
run its check (`FairyClaw.SessionLane.Coordinated`). The debounce tasks, the
handlers, the watchdog and the final block of a turn set and clear the flags in
separate steps; each keeps the invariant, for one session and hence for the
scheduler (`FairyClaw.scheduler_no_stuck_trigger`).
-/

namespace FairyClaw

open Foundation

namespace SessionLane

variable (lane : SessionLane)

/-- A flag of the session state, false while there is none. -/
def flag (read : SessionRuntimeState → Bool) : Bool := lane.state.any read

/-- A turn is in flight. -/
def inflight : Bool := lane.flag SessionRuntimeState.inflight

/-- A wakeup is queued. -/
def wakeupQueued : Bool := lane.flag SessionRuntimeState.wakeupQueued

/-- The mailbox has an event that triggers a turn. -/
def triggerable : Bool := lane.flag SessionRuntimeState.hasTriggerableMailboxEvents

/-- A wakeup waits on the bus, or its handler has not cleared the flag yet. -/
def WakeupComing : Prop :=
  (∃ event ∈ lane.queued, event.typeValue = EventType.wakeupRequested.value) ∨
    ∃ event, lane.handler = .received event ∧
      event.typeValue = EventType.wakeupRequested.value

/-- Somebody will look at the mailbox. -/
def Attended : Prop :=
  lane.inflight = true ∨ lane.wakeupQueued = true ∨ lane.sleeping.Nonempty

/-- The flags, the debounce table and the handler of one session agree. -/
structure Served (sessionId : String) (lane : SessionLane) : Prop where
  inflight : lane.inflight = true ↔ lane.handler.activation = some sessionId
  wakeup : lane.wakeupQueued = true → lane.WakeupComing
  debounce : ∀ task, task ∈ lane.sleeping ↔ lane.debounceTask = some task
  queuedOwn : ∀ event ∈ lane.queued, event.sessionId = sessionId
  currentOwn : ∀ event, lane.handler.current = some event → event.sessionId = sessionId
  persisting : ∀ event, lane.handler = .persisting event →
    event.typeValue = EventType.userMessageReceived.value

/-- Besides, a mailbox entry that asks for a turn is attended. -/
structure Coordinated (sessionId : String) (lane : SessionLane) : Prop
    extends Served sessionId lane where
  trigger : lane.triggerable = true → lane.Attended

variable {lane} {sessionId : String}

/-- A wakeup that is coming still comes behind another event. -/
theorem WakeupComing.publish (coming : lane.WakeupComing) (event : RuntimeEvent) :
    (lane.publish event).WakeupComing := by
  rcases coming with ⟨wakeup, waiting, named⟩ | received
  · exact Or.inl ⟨wakeup, List.mem_append_left _ waiting, named⟩
  · exact Or.inr received

/-- A wakeup that is published is coming. -/
theorem wakeupComing_publish_wakeupEvent (source : String) (reason : WakeupReason)
    (stamp : Stamp) :
    (lane.publish (wakeupEvent sessionId source reason stamp)).WakeupComing :=
  Or.inl ⟨_, List.mem_append_right _ (List.mem_singleton.mpr rfl), rfl⟩

/-- A session that is served is so with an event of its own more. -/
theorem Served.publish (served : lane.Served sessionId) {event : RuntimeEvent}
    (own : event.sessionId = sessionId) : (lane.publish event).Served sessionId where
  inflight := served.inflight
  wakeup := fun queued => (served.wakeup queued).publish event
  debounce := served.debounce
  queuedOwn := by
    intro other member
    rcases List.mem_append.mp member with waiting | added
    · exact served.queuedOwn other waiting
    · exact List.mem_singleton.mp added ▸ own
  currentOwn := served.currentOwn
  persisting := served.persisting

/-- Setting the wakeup flag and publishing the wakeup, in one step. -/
theorem Served.askForRun (served : lane.Served sessionId) {state : SessionRuntimeState}
    (stored : lane.state = some state) (source : String) (reason : WakeupReason)
    (stamp : Stamp) :
    ({ lane with state := some { state with wakeupQueued := true } }.publish
      (wakeupEvent sessionId source reason stamp)).Served sessionId where
  inflight := by
    have same : lane.inflight = state.inflight := by
      rw [SessionLane.inflight, flag, stored, Option.any_some]
    exact (same ▸ served.inflight)
  wakeup := fun _ => wakeupComing_publish_wakeupEvent source reason stamp
  debounce := served.debounce
  queuedOwn := by
    have own : (wakeupEvent sessionId source reason stamp).sessionId = sessionId := rfl
    exact (served.publish own).queuedOwn
  currentOwn := served.currentOwn
  persisting := served.persisting

/-- The handler moves on within the same call, outside the start of a wakeup. -/
theorem Served.moveHandler (served : lane.Served sessionId) {next : HandlerState}
    (current : next.current = lane.handler.current)
    (activation : next.activation = lane.handler.activation)
    (other : ∀ event, lane.handler = .received event →
      event.typeValue ≠ EventType.wakeupRequested.value)
    (persisting : ∀ event, next = .persisting event →
      event.typeValue = EventType.userMessageReceived.value) :
    { lane with handler := next }.Served sessionId where
  inflight := activation ▸ served.inflight
  wakeup := by
    intro queued
    rcases served.wakeup queued with waiting | ⟨event, received, named⟩
    · exact Or.inl waiting
    · exact absurd named (other event received)
  debounce := served.debounce
  queuedOwn := served.queuedOwn
  currentOwn := fun event handled => served.currentOwn event (current ▸ handled)
  persisting := persisting

/-- The outcomes of a wakeup request: nothing to ask for, or the flag is set
and the wakeup published. -/
theorem requestWakeupIfNeeded_cases (lane : SessionLane) (sessionId : String)
    (reason : WakeupReason) (source : String) (stamp : Stamp) :
    (lane.requestWakeupIfNeeded sessionId reason source stamp = lane ∧
      (lane.triggerable = true → lane.inflight = true ∨ lane.wakeupQueued = true)) ∨
    ∃ state, lane.state = some state ∧
      lane.requestWakeupIfNeeded sessionId reason source stamp =
        { lane with state := some { state with wakeupQueued := true } }.publish
          (wakeupEvent sessionId source reason stamp) := by
  unfold requestWakeupIfNeeded triggerable inflight wakeupQueued flag
  cases stored : lane.state with
  | none => exact Or.inl ⟨rfl, fun triggered => by cases triggered⟩
  | some state =>
      simp only [Option.any_some]
      by_cases idle : (!state.hasMailboxEvents || !state.hasTriggerableMailboxEvents) = true
      · refine Or.inl ⟨if_pos idle, fun triggered => ?_⟩
        rw [triggered, SessionRuntimeState.hasMailboxEvents_of_triggerable triggered] at idle
        cases idle
      · rw [if_neg idle]
        by_cases covered : (state.inflight || state.wakeupQueued) = true
        · exact Or.inl ⟨if_pos covered, fun _ => Bool.or_eq_true_iff.mp covered⟩
        · exact Or.inr ⟨state, rfl, if_neg covered⟩

/-- After a wakeup request the mailbox is attended without the debounce tasks. -/
theorem requestWakeupIfNeeded_covered (lane : SessionLane) (sessionId : String)
    (reason : WakeupReason) (source : String) (stamp : Stamp)
    (triggered : (lane.requestWakeupIfNeeded sessionId reason source stamp).triggerable = true) :
    (lane.requestWakeupIfNeeded sessionId reason source stamp).inflight = true ∨
      (lane.requestWakeupIfNeeded sessionId reason source stamp).wakeupQueued = true := by
  rcases lane.requestWakeupIfNeeded_cases sessionId reason source stamp with
    ⟨unchanged, covered⟩ | ⟨state, _, requested⟩
  · rw [unchanged] at triggered ⊢
    exact covered triggered
  · rw [requested]
    exact Or.inr rfl

/-- Asking for a wakeup leaves the handler. -/
theorem requestWakeupIfNeeded_handler (lane : SessionLane) (sessionId : String)
    (reason : WakeupReason) (source : String) (stamp : Stamp) :
    (lane.requestWakeupIfNeeded sessionId reason source stamp).handler = lane.handler := by
  rcases lane.requestWakeupIfNeeded_cases sessionId reason source stamp with
    ⟨unchanged, _⟩ | ⟨state, _, requested⟩
  · rw [unchanged]
  · rw [requested]
    rfl

/-- Asking for a wakeup leaves the session served. -/
theorem Served.requestWakeupIfNeeded (served : lane.Served sessionId) (reason : WakeupReason)
    (source : String) (stamp : Stamp) :
    (lane.requestWakeupIfNeeded sessionId reason source stamp).Served sessionId := by
  rcases lane.requestWakeupIfNeeded_cases sessionId reason source stamp with
    ⟨unchanged, _⟩ | ⟨state, stored, requested⟩
  · rw [unchanged]
    exact served
  · rw [requested]
    exact served.askForRun stored source reason stamp

/-- The debounce task checks the mailbox before it leaves the table, so nothing
is left to it once it ended. -/
theorem Served.runUserMessageDebounce (served : lane.Served sessionId) (task : Nat)
    (stamp : Stamp) : (lane.runUserMessageDebounce sessionId task stamp).Coordinated sessionId := by
  have checkedServed := served.requestWakeupIfNeeded .userMessage "debounce_timer" stamp
  have covered := lane.requestWakeupIfNeeded_covered sessionId .userMessage "debounce_timer" stamp
  unfold SessionLane.runUserMessageDebounce
  generalize lane.requestWakeupIfNeeded sessionId .userMessage "debounce_timer" stamp = checked
    at checkedServed covered
  refine ⟨⟨checkedServed.inflight, checkedServed.wakeup, ?_, checkedServed.queuedOwn,
    checkedServed.currentOwn, checkedServed.persisting⟩, fun triggered => ?_⟩
  · intro other
    have listed := checkedServed.debounce other
    rw [Finset.mem_erase, listed]
    by_cases own : checked.debounceTask = some task
    · simp only [own, if_pos, Option.some.injEq, reduceCtorEq, iff_false, not_and]
      exact fun different same => different same.symm
    · simp only [own, ↓reduceIte]
      constructor
      · exact And.right
      · intro stored
        refine ⟨?_, stored⟩
        rintro rfl
        exact own stored
  · rcases covered triggered with running | queued
    · exact Or.inl running
    · exact Or.inr (Or.inl queued)

/-- The wakeup of the watchdog keeps the lane coordinated. -/
theorem Coordinated.watchdog (valid : lane.Coordinated sessionId) (stamp : Stamp) :
    (lane.requestWakeupIfNeeded sessionId .system "heartbeat_watchdog" stamp).Coordinated
      sessionId := by
  refine ⟨valid.toServed.requestWakeupIfNeeded _ _ stamp, fun triggered => ?_⟩
  rcases lane.requestWakeupIfNeeded_covered sessionId .system "heartbeat_watchdog" stamp
    triggered with running | queued
  · exact Or.inl running
  · exact Or.inr (Or.inl queued)

section Enqueue

variable (event : RuntimeEvent) (now : Nat)

/-- Mail leaves the turn of the lane in flight. -/
@[simp] theorem enqueueEvent_inflight :
    (lane.enqueueEvent event now).inflight = lane.inflight := by
  unfold enqueueEvent getOrCreateState inflight flag
  cases lane.state <;> rfl

/-- Mail leaves the wakeup of the lane. -/
@[simp] theorem enqueueEvent_wakeupQueued :
    (lane.enqueueEvent event now).wakeupQueued = lane.wakeupQueued := by
  unfold enqueueEvent getOrCreateState wakeupQueued flag
  cases lane.state <;> rfl

/-- Mail makes the mailbox triggerable when it triggers a turn. -/
theorem enqueueEvent_triggerable : (lane.enqueueEvent event now).triggerable =
    (lane.triggerable || normalizeTriggerTurn event.typeValue event.payload) := by
  unfold enqueueEvent getOrCreateState triggerable flag
  cases lane.state with
  | none =>
      simp only [Option.getD_none, Option.any_some, Option.any_none, Bool.false_or,
        SessionRuntimeState.enqueueEvent_hasTriggerableMailboxEvents]
      rfl
  | some state =>
      exact SessionRuntimeState.enqueueEvent_hasTriggerableMailboxEvents state event now

/-- Mail leaves the session served. -/
theorem Served.enqueueEvent (served : lane.Served sessionId) :
    (lane.enqueueEvent event now).Served sessionId where
  inflight := by
    rw [enqueueEvent_inflight]
    exact served.inflight
  wakeup := by
    rw [enqueueEvent_wakeupQueued]
    exact served.wakeup
  debounce := served.debounce
  queuedOwn := served.queuedOwn
  currentOwn := served.currentOwn
  persisting := served.persisting

/-- Enqueueing an event that asks for no turn changes nothing about the duty. -/
theorem Coordinated.enqueueEvent (valid : lane.Coordinated sessionId)
    (silent : normalizeTriggerTurn event.typeValue event.payload = false ∨
      lane.sleeping.Nonempty) :
    (lane.enqueueEvent event now).Coordinated sessionId := by
  refine ⟨valid.toServed.enqueueEvent event now, fun triggered => ?_⟩
  unfold Attended
  rw [enqueueEvent_inflight, enqueueEvent_wakeupQueued]
  rcases silent with silent | active
  · rw [enqueueEvent_triggerable, silent, Bool.or_false] at triggered
    exact valid.trigger triggered
  · exact Or.inr (Or.inr active)

/-- An active debounce task is the one of the table, and it sleeps. -/
theorem Served.hasActiveDebounce_iff (served : lane.Served sessionId) :
    lane.hasActiveDebounce = true ↔ lane.sleeping.Nonempty := by
  unfold SessionLane.hasActiveDebounce
  cases listed : lane.debounceTask with
  | none =>
      simp only [Bool.false_eq_true, false_iff, Finset.not_nonempty_iff_eq_empty]
      refine Finset.eq_empty_of_forall_notMem fun task live => ?_
      rw [served.debounce, listed] at live
      cases live
  | some task =>
      have live : task ∈ lane.sleeping := (served.debounce task).mpr listed
      simp only [live, decide_true, true_iff]
      exact ⟨task, live⟩

/-- A message of the user leaves the handler. -/
theorem enqueueUserMessage_handler (lane : SessionLane) :
    (lane.enqueueUserMessage event now).handler = lane.handler := by
  unfold SessionLane.enqueueUserMessage
  split <;> rfl

/-- A user message either finds an active debounce task, or creates one when it
asks for a turn. -/
theorem Coordinated.enqueueUserMessage (valid : lane.Coordinated sessionId)
    (mailed : event.typeValue = EventType.userMessageReceived.value) :
    (lane.enqueueUserMessage event now).Coordinated sessionId := by
  have agree := normalizeTriggerTurn_eq_parsed event.payload (Or.inl mailed)
  unfold SessionLane.enqueueUserMessage
  by_cases creates : (parsedTriggerTurn event.payload && !lane.hasActiveDebounce) = true
  · rw [if_pos creates]
    have idle : lane.hasActiveDebounce = false := by
      rw [Bool.and_eq_true, Bool.not_eq_true'] at creates
      exact creates.2
    have none_live : lane.sleeping = ∅ := by
      rw [← Finset.not_nonempty_iff_eq_empty, ← valid.hasActiveDebounce_iff, idle]
      exact Bool.false_ne_true
    have served := valid.toServed.enqueueEvent event now
    refine ⟨⟨served.inflight, served.wakeup, fun task => ?_, served.queuedOwn,
      served.currentOwn, served.persisting⟩, fun _ => Or.inr (Or.inr ⟨_, Finset.mem_insert_self ..⟩)⟩
    have unchanged : (lane.enqueueEvent event now).sleeping = ∅ := none_live
    simp only [unchanged, Finset.mem_insert, Finset.notMem_empty, or_false, Option.some.injEq,
      eq_comm]
  · rw [if_neg creates]
    apply valid.enqueueEvent
    rw [agree]
    cases asks : parsedTriggerTurn event.payload with
    | false => exact Or.inl rfl
    | true =>
        rw [asks, Bool.true_and, Bool.not_eq_true, Bool.not_eq_false'] at creates
        exact Or.inr (valid.hasActiveDebounce_iff.mp creates)

/-- A completed subtask either finds an active debounce task, or asks for a run
at once. -/
theorem Coordinated.enqueueSubtaskCompleted (valid : lane.Coordinated sessionId)
    (own : event.sessionId = sessionId)
    (mailed : event.typeValue = EventType.subtaskCompleted.value) (stamp : Stamp) :
    (if parsedTriggerTurn event.payload && !lane.hasActiveDebounce then
      (lane.enqueueEvent event now).requestWakeupIfNeeded event.sessionId .subtaskCompleted
        "subtask_completed" stamp
    else lane.enqueueEvent event now).Coordinated sessionId := by
  have agree := normalizeTriggerTurn_eq_parsed event.payload (Or.inr mailed)
  by_cases requests : (parsedTriggerTurn event.payload && !lane.hasActiveDebounce) = true
  · rw [if_pos requests, own]
    refine ⟨(valid.toServed.enqueueEvent event now).requestWakeupIfNeeded _ _ stamp,
      fun triggered => ?_⟩
    rcases (lane.enqueueEvent event now).requestWakeupIfNeeded_covered sessionId
      .subtaskCompleted "subtask_completed" stamp triggered with running | queued
    · exact Or.inl running
    · exact Or.inr (Or.inl queued)
  · rw [if_neg requests]
    apply valid.enqueueEvent
    rw [agree]
    cases asks : parsedTriggerTurn event.payload with
    | false => exact Or.inl rfl
    | true =>
        rw [asks, Bool.true_and, Bool.not_eq_true, Bool.not_eq_false'] at requests
        exact Or.inr (valid.hasActiveDebounce_iff.mp requests)

end Enqueue

/-- A handler that moves on with its event keeps the lane coordinated. -/
theorem Coordinated.moveHandler (valid : lane.Coordinated sessionId) {next : HandlerState}
    (current : next.current = lane.handler.current)
    (activation : next.activation = lane.handler.activation)
    (other : ∀ event, lane.handler = .received event →
      event.typeValue ≠ EventType.wakeupRequested.value)
    (persisting : ∀ event, next = .persisting event →
      event.typeValue = EventType.userMessageReceived.value) :
    { lane with handler := next }.Coordinated sessionId :=
  ⟨valid.toServed.moveHandler current activation other persisting, valid.trigger⟩

/-- A handler that returns with the session released leaves no duty behind,
unless a wakeup waits on the bus. -/
theorem Served.release (served : lane.Served sessionId) {event : RuntimeEvent}
    (own : event.sessionId = sessionId) {state : Option SessionRuntimeState}
    (free : state.any SessionRuntimeState.inflight = false)
    (coming : state.any SessionRuntimeState.wakeupQueued = true →
      ∃ event ∈ lane.queued, event.typeValue = EventType.wakeupRequested.value)
    (covered : state.any SessionRuntimeState.hasTriggerableMailboxEvents = true →
      state.any SessionRuntimeState.wakeupQueued = true) :
    { lane with state := state, handler := .returned event }.Coordinated sessionId := by
  refine ⟨⟨?_, fun queued => Or.inl (coming queued), served.debounce, served.queuedOwn, ?_, nofun⟩,
    fun triggered => Or.inr (Or.inl (covered triggered))⟩
  · constructor
    · intro running
      have busy : state.any SessionRuntimeState.inflight = true := running
      rw [free] at busy
      cases busy
    · exact nofun
  · rintro _ ⟨rfl⟩
    exact own

/-- The outcomes of the acquiring block of a session without a turn: it returns
with nothing to trigger, or it starts a run on the whole mailbox. -/
theorem handleWakeupRequested_cases (lane : SessionLane) (event : RuntimeEvent) (now : Nat)
    (idle : lane.inflight = false) :
    (∃ state, lane.handleWakeupRequested event now =
        { lane with state := state, handler := .returned event } ∧
      state.any SessionRuntimeState.inflight = false ∧
      state.any SessionRuntimeState.wakeupQueued = false ∧
      state.any SessionRuntimeState.hasTriggerableMailboxEvents = false) ∨
    ∃ state running point, lane.state = some state ∧ lane.handleWakeupRequested event now =
        { lane with
          state := some running
          handler := point
          activations := lane.activations ++ [(event, state.mailbox)] } ∧
      running.inflight = true ∧ running.wakeupQueued = false ∧ running.mailbox = [] ∧
      (point = .resolving event ∨ point = .turning event) := by
  unfold SessionLane.handleWakeupRequested
  cases stored : lane.state with
  | none => exact Or.inl ⟨none, rfl, rfl, rfl, rfl⟩
  | some state =>
      have free : state.inflight = false := by
        rw [inflight, flag, stored, Option.any_some] at idle
        exact idle
      simp only [free, Bool.false_eq_true, ↓reduceIte]
      split
      · rename_i refused
        have empty : state.mailbox = [] := by
          rw [Bool.and_eq_true, Bool.not_eq_true'] at refused
          exact SessionRuntimeState.hasMailboxEvents_eq_false_iff.mp refused.1
        refine Or.inl ⟨_, rfl, rfl, rfl, ?_⟩
        simp only [Option.any_some, SessionRuntimeState.hasTriggerableMailboxEvents, empty,
          List.any_nil]
      · split
        · rename_i refused
          refine Or.inl ⟨_, rfl, rfl, rfl, ?_⟩
          rw [Bool.and_eq_true, Bool.not_eq_true'] at refused
          exact refused.2
        · refine Or.inr ⟨state, _, _, rfl, rfl, rfl, rfl, rfl, ?_⟩
          split
          · exact Or.inl rfl
          · exact Or.inr rfl

/-- The acquiring block clears the flag set for this or for another wakeup, and
takes over the mailbox when it asks for a turn. -/
theorem Coordinated.handleWakeupRequested (valid : lane.Coordinated sessionId)
    {event : RuntimeEvent} (received : lane.handler = .received event) (now : Nat) :
    (lane.handleWakeupRequested event now).Coordinated sessionId := by
  have own : event.sessionId = sessionId := valid.currentOwn event (by rw [received]; rfl)
  have idle : lane.inflight = false := by
    rw [← Bool.not_eq_true, valid.inflight, received]
    exact nofun
  rcases lane.handleWakeupRequested_cases event now idle with
    ⟨state, result, free, cleared, calm⟩ |
    ⟨state, running, point, _, result, busy, cleared, empty, started⟩
  · rw [result]
    apply valid.toServed.release own free
    · intro queued
      rw [cleared] at queued
      cases queued
    · intro triggered
      rw [calm] at triggered
      cases triggered
  · rw [result]
    have active : point.activation = some sessionId ∧ point.current = some event := by
      rcases started with rfl | rfl <;> exact ⟨congrArg some own, rfl⟩
    refine ⟨⟨?_, ?_, valid.debounce, valid.queuedOwn, ?_, ?_⟩, fun _ => Or.inl busy⟩
    · exact iff_of_true busy active.1
    · intro queued
      have set : running.wakeupQueued = true := queued
      rw [cleared] at set
      cases set
    · intro other handled
      rw [active.2] at handled
      exact Option.some.inj handled ▸ own
    · rcases started with rfl | rfl <;> exact nofun

/-- The outcomes of the final block: the session is released with nothing to
trigger or with a wakeup already queued, or a wakeup is queued for it. -/
theorem finishRun_cases (lane : SessionLane) (event : RuntimeEvent) (stamp : Stamp) :
    (∃ state, lane.finishRun event stamp =
        { lane with state := state, handler := .returned event } ∧
      state.any SessionRuntimeState.inflight = false ∧
      (state.any SessionRuntimeState.wakeupQueued = true → lane.wakeupQueued = true) ∧
      (state.any SessionRuntimeState.hasTriggerableMailboxEvents = true →
        state.any SessionRuntimeState.wakeupQueued = true)) ∨
    ∃ state : SessionRuntimeState, lane.finishRun event stamp =
        { lane with
          state := some { state with wakeupQueued := true }
          handler := .returned event }.publish
            (wakeupEvent event.sessionId "event_bus" .system stamp) ∧
      state.inflight = false := by
  unfold SessionLane.finishRun wakeupQueued flag
  cases stored : lane.state with
  | none => exact Or.inl ⟨none, rfl, rfl, nofun, nofun⟩
  | some running =>
      simp only [Option.any_some, SessionRuntimeState.touch_wakeupQueued]
      split
      · by_cases queued : running.wakeupQueued = true
        · exact Or.inl ⟨_, if_pos queued, rfl, fun _ => queued, fun _ => queued⟩
        · exact Or.inr ⟨_, if_neg queued, rfl⟩
      · rename_i calm
        split
        · exact Or.inl ⟨none, rfl, rfl, nofun, nofun⟩
        · refine Or.inl ⟨_, rfl, rfl, id, fun triggered => (calm ?_).elim⟩
          rw [Option.any_some] at triggered
          rw [triggered, SessionRuntimeState.hasMailboxEvents_of_triggerable triggered]
          rfl

/-- The final block hands the entries left in the mailbox to a wakeup. -/
theorem Coordinated.finishRun (valid : lane.Coordinated sessionId) {event : RuntimeEvent}
    (turning : lane.handler = .turning event) (stamp : Stamp) :
    (lane.finishRun event stamp).Coordinated sessionId := by
  have own : event.sessionId = sessionId := valid.currentOwn event (by rw [turning]; rfl)
  have waiting (queued : lane.wakeupQueued = true) :
      ∃ event ∈ lane.queued, event.typeValue = EventType.wakeupRequested.value := by
    rcases valid.wakeup queued with waiting | ⟨_, received, _⟩
    · exact waiting
    · rw [turning] at received
      cases received
  rcases lane.finishRun_cases event stamp with
    ⟨state, result, free, kept, covered⟩ | ⟨state, result, free⟩
  · rw [result]
    exact valid.toServed.release own free (fun queued => waiting (kept queued)) covered
  · rw [result, own]
    refine ⟨⟨?_, fun _ => wakeupComing_publish_wakeupEvent .., valid.debounce, ?_, ?_, nofun⟩,
      fun _ => Or.inr (Or.inl rfl)⟩
    · refine iff_of_false (fun running => ?_) nofun
      have busy : state.inflight = true := running
      rw [free] at busy
      cases busy
    · have asked : (wakeupEvent sessionId "event_bus" .system stamp).sessionId = sessionId := rfl
      exact (valid.toServed.publish asked).queuedOwn
    · rintro _ ⟨rfl⟩
      exact own

/-- A heartbeat of a running turn only refreshes the timestamp. -/
theorem Coordinated.beat (valid : lane.Coordinated sessionId) {event : RuntimeEvent}
    (turning : lane.handler = .turning event) (now : Nat) :
    { lane with state := some ((lane.getOrCreateState event.sessionId now).touch now) }.Coordinated
      sessionId := by
  have busy : lane.inflight = true := by
    rw [valid.inflight, turning]
    exact congrArg some (valid.currentOwn event (by rw [turning]; rfl))
  unfold SessionLane.getOrCreateState
  cases stored : lane.state with
  | none =>
      rw [inflight, flag, stored] at busy
      cases busy
  | some state =>
      have same (read : SessionRuntimeState → Bool) : lane.flag read = read state := by
        rw [flag, stored, Option.any_some]
      have running := valid.inflight
      have queued := valid.wakeup
      rw [inflight, same] at running busy
      rw [wakeupQueued, same] at queued
      exact ⟨⟨running, queued, valid.debounce, valid.queuedOwn, valid.currentOwn,
        valid.persisting⟩, fun _ => Or.inl busy⟩

/-- Taking the next event keeps the lane coordinated. -/
theorem Coordinated.deliver (valid : lane.Coordinated sessionId) {event : RuntimeEvent}
    {rest : List RuntimeEvent} (idle : lane.handler = .idle) (head : lane.queued = event :: rest) :
    { lane with handler := .received event, queued := rest }.Coordinated sessionId := by
  have own : event.sessionId = sessionId :=
    valid.queuedOwn event (by rw [head]; exact List.mem_cons_self)
  refine ⟨⟨?_, fun queued => ?_, valid.debounce, fun other member => ?_, ?_, nofun⟩,
    valid.trigger⟩
  · have free := valid.inflight
    rw [idle] at free
    exact free.trans (iff_of_false nofun nofun)
  · rcases valid.wakeup queued with ⟨wakeup, waiting, named⟩ | ⟨_, received, _⟩
    · rw [head, List.mem_cons] at waiting
      rcases waiting with rfl | later
      · exact Or.inr ⟨wakeup, rfl, named⟩
      · exact Or.inl ⟨wakeup, later, named⟩
    · rw [idle] at received
      cases received
  · exact valid.queuedOwn other (by rw [head]; exact List.mem_cons_of_mem _ member)
  · rintro _ ⟨rfl⟩
    exact own

/-- Handling an event keeps the lane coordinated. -/
theorem Coordinated.onEvent (valid : lane.Coordinated sessionId) {event : RuntimeEvent}
    (received : lane.handler = .received event) (stamp : Stamp) :
    (lane.onEvent event stamp).Coordinated sessionId := by
  have own : event.sessionId = sessionId := valid.currentOwn event (by rw [received]; rfl)
  have moves {after : SessionLane} (still : after.Coordinated sessionId)
      (same : after.handler = lane.handler)
      (other : event.typeValue ≠ EventType.wakeupRequested.value) {next : HandlerState}
      (current : next.current = some event) (activation : next.activation = none)
      (persisting : ∀ event, next = .persisting event →
        event.typeValue = EventType.userMessageReceived.value) :
      { after with handler := next }.Coordinated sessionId := by
    apply still.moveHandler
    · rw [same, received, current]
      rfl
    · rw [same, received, activation]
      rfl
    · intro handled named
      rw [same, received] at named
      cases named
      exact other
    · exact persisting
  have distinct {kind : EventType} (named : event.typeValue = kind.value)
      (different : kind ≠ .wakeupRequested) :
      event.typeValue ≠ EventType.wakeupRequested.value := by
    rw [named]
    exact fun same => different (EventType.value_injective same)
  unfold SessionLane.onEvent
  split
  · rename_i message
    unfold SessionLane.handleUserMessage
    split
    · refine moves valid rfl (distinct message (by decide)) rfl rfl ?_
      rintro _ ⟨rfl⟩
      exact message
    · exact moves (valid.enqueueUserMessage event stamp.now message)
        (enqueueUserMessage_handler event stamp.now lane) (distinct message (by decide)) rfl rfl
        nofun
  · split
    · rename_i completed
      refine moves (valid.enqueueSubtaskCompleted event stamp.now own completed stamp) ?_
        (distinct completed (by decide)) rfl rfl nofun
      split
      · exact (lane.enqueueEvent event stamp.now).requestWakeupIfNeeded_handler ..
      · rfl
    · split
      · exact valid.handleWakeupRequested received stamp.now
      · rename_i other
        exact moves valid rfl other rfl rfl nofun

/-- A handler resumed after a suspension goes on within its call. -/
theorem Coordinated.resume (valid : lane.Coordinated sessionId) {event : RuntimeEvent}
    {next : HandlerState} (current : lane.handler.current = some event)
    (handled : next.current = some event) (activation : next.activation = lane.handler.activation)
    (begun : lane.handler ≠ .received event) (persisted : next ≠ .persisting event) :
    { lane with handler := next }.Coordinated sessionId := by
  apply valid.moveHandler (handled.trans current.symm) activation
  · intro other received
    rw [received] at current begun
    cases current
    exact (begun rfl).elim
  · rintro other rfl
    cases handled
    exact (persisted rfl).elim

/-- Every step of any actor keeps the coordination of the session. -/
theorem Coordinated.step (valid : lane.Coordinated sessionId) {action : SchedulerAction}
    {next : SessionLane} (stepped : lane.step sessionId action = some next) :
    next.Coordinated sessionId := by
  have effect := step_cases stepped
  cases action with
  | publish event =>
      obtain ⟨own, rfl⟩ := effect
      exact ⟨valid.toServed.publish own, valid.trigger⟩
  | deliver =>
      obtain ⟨event, rest, idle, head, rfl⟩ := effect
      exact valid.deliver idle head
  | handle stamp =>
      obtain ⟨event, received, rfl⟩ := effect
      exact valid.onEvent received stamp
  | persisted stamp =>
      obtain ⟨event, persisting, rfl⟩ := effect
      have still := valid.enqueueUserMessage event stamp.now (valid.persisting event persisting)
      have same := enqueueUserMessage_handler event stamp.now lane
      rw [persisting] at same
      exact still.resume (by rw [same]; rfl) rfl (by rw [same]; rfl) (by rw [same]; exact nofun)
        nofun
  | resolved =>
      obtain ⟨event, resolving, rfl⟩ := effect
      exact valid.resume (by rw [resolving]; rfl) rfl (by rw [resolving]; rfl)
        (by rw [resolving]; exact nofun) nofun
  | turnEnded stamp =>
      obtain ⟨event, turning, rfl⟩ := effect
      exact valid.finishRun turning stamp
  | dispatched =>
      obtain ⟨event, dispatching, rfl⟩ := effect
      exact valid.resume (by rw [dispatching]; rfl) rfl (by rw [dispatching]; rfl)
        (by rw [dispatching]; exact nofun) nofun
  | finish =>
      obtain ⟨event, returned, rfl⟩ := effect
      have free := valid.inflight
      rw [returned] at free
      refine ⟨⟨free.trans (iff_of_false nofun nofun), fun queued => ?_, valid.debounce,
        valid.queuedOwn, nofun, nofun⟩, valid.trigger⟩
      rcases valid.wakeup queued with waiting | ⟨_, received, _⟩
      · exact Or.inl waiting
      · rw [returned] at received
        cases received
  | debounce task stamp =>
      obtain ⟨_, rfl⟩ := effect
      exact valid.toServed.runUserMessageDebounce task stamp
  | watchdog stamp =>
      cases effect
      exact valid.watchdog stamp
  | beat now =>
      obtain ⟨event, turning, rfl⟩ := effect
      exact valid.beat turning now

/-- The lane is coordinated in every reachable state. -/
theorem coordinated_of_reachable {guard : Machine.Guard SessionLane SchedulerAction}
    (reached : (machine sessionId).Reachable guard lane) : lane.Coordinated sessionId := by
  apply reached.invariant
  · rintro _ rfl
    refine ⟨⟨iff_of_false nofun nofun, nofun, fun _ => iff_of_false ?_ nofun, nofun, nofun,
      nofun⟩, nofun⟩
    exact Finset.notMem_empty _
  · intro before action after valid _ stepped
    exact valid.step stepped

end SessionLane

/-- **No stuck trigger.** In every state the scheduler reaches and for every
session: it is in flight exactly when one handler call activates it, and two
calls never do; a set wakeup flag announces a wakeup that waits on the bus or is
about to clear the flag; and a mailbox entry asking for a turn is met by a turn
in flight, a set wakeup flag, or a debounce task that has not run its check. -/
theorem scheduler_no_stuck_trigger (lanes : String → SessionLane)
    (reached : scheduler.Reachable Machine.anyStep lanes) (sessionId : String) :
    ((lanes sessionId).inflight = true ↔
        ∃! owner, (lanes owner).handler.activation = some sessionId) ∧
      (∀ first second, (lanes first).handler.activation = some sessionId →
        (lanes second).handler.activation = some sessionId → first = second) ∧
      ((lanes sessionId).wakeupQueued = true → ∃ event, event.sessionId = sessionId ∧
        event.typeValue = EventType.wakeupRequested.value ∧
        (event ∈ (lanes sessionId).queued ∨ (lanes sessionId).handler = .received event)) ∧
      ((lanes sessionId).triggerable = true → (lanes sessionId).inflight = true ∨
        (lanes sessionId).wakeupQueued = true ∨ (lanes sessionId).sleeping.Nonempty) := by
  have valid (key : String) : (lanes key).Coordinated key :=
    SessionLane.coordinated_of_reachable (Machine.perKey_reachable reached key)
  have owned {owner : String} (active : (lanes owner).handler.activation = some sessionId) :
      owner = sessionId := by
    obtain ⟨event, handled, same⟩ := HandlerState.current_of_activation active
    exact ((valid owner).currentOwn event handled).symm.trans same
  refine ⟨?_, ?_, ?_, (valid sessionId).trigger⟩
  · rw [(valid sessionId).inflight]
    constructor
    · exact fun active => ⟨sessionId, active, fun _ => owned⟩
    · rintro ⟨owner, active, _⟩
      exact owned active ▸ active
  · intro first second firstActive secondActive
    exact (owned firstActive).trans (owned secondActive).symm
  · intro queued
    rcases (valid sessionId).wakeup queued with ⟨event, waiting, named⟩ | ⟨event, received, named⟩
    · exact ⟨event, (valid sessionId).queuedOwn event waiting, named, Or.inl waiting⟩
    · have own := (valid sessionId).currentOwn event (by rw [received]; rfl)
      exact ⟨event, own, named, Or.inr received⟩

/-- A user message is handled and its debounce task sleeps. -/
def userMessageRun : List (String × SchedulerAction) :=
  [("s", .publish
      { type := .builtin .userMessageReceived, sessionId := "s", id := "1", timestamp := 1 }),
    ("s", .deliver), ("s", .handle { id := "2", now := 2 }), ("s", .finish)]

/-- The lanes after a message of the user. -/
def userMessageLanes : String → SessionLane :=
  (scheduler.replay Machine.anyStep (fun _ => {}) userMessageRun).getD fun _ => {}

/-- The message of the user is attended to. -/
theorem trigger_attended_of_userMessageRun :
    (userMessageLanes "s").triggerable = true ∧ ((userMessageLanes "s").inflight = true ∨
      (userMessageLanes "s").wakeupQueued = true ∨
      (userMessageLanes "s").sleeping.Nonempty) := by
  have triggered : (userMessageLanes "s").triggerable = true := by decide
  have replayed : scheduler.replay Machine.anyStep (fun _ => {}) userMessageRun =
      some userMessageLanes := rfl
  have reached := Machine.Reachable.of_replay (fun _ => rfl) replayed
  exact ⟨triggered, (scheduler_no_stuck_trigger userMessageLanes reached "s").2.2.2 triggered⟩

end FairyClaw
