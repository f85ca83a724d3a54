import FairyClaw.Events.Mailbox

/-! # Explicit wakeups

A capability asks for a planner turn by publishing a wakeup. The handler of the wakeup starts a
run exactly when the mailbox asks for one at that point, because a state over an empty mailbox
belongs to a run in flight (`FairyClaw.SessionLane.Arranged`). So a turn starts between the
publication and the return of the handler if and only if, at the publication, the mailbox or an
event ahead of the wakeup asks for a turn (`FairyClaw.scheduler_explicit_wakeup`).
-/

namespace FairyClaw

open Foundation

/-- The event published by `request_planner_wakeup`. -/
def requestPlannerWakeup (sessionId reason source : String) (stamp : Stamp) : RuntimeEvent where
  type := .builtin .wakeupRequested
  sessionId := sessionId
  payload := [("reason", .str reason)]
  source := source
  id := stamp.id
  timestamp := stamp.now

/-- The event goes to a mailbox and asks for a turn there. -/
def RuntimeEvent.asksTurn (event : RuntimeEvent) : Bool :=
  event.isMail && normalizeTriggerTurn event.typeValue event.payload

/-- The event being handled, as long as it is not in the mailbox. -/
def HandlerState.unmailed : HandlerState → List RuntimeEvent
  | received event | persisting event => [event]
  | _ => []

namespace SessionLane

variable (lane : SessionLane)

/-- The events that the bus has taken from the queue. -/
def taken : Nat := lane.dispatched.length + lane.handler.current.toList.length

/-- A turn is asked for by the mailbox, or by the event that is about to be put there. -/
def owed : Bool := lane.triggerable || lane.handler.unmailed.any RuntimeEvent.asksTurn

/-- A turn is asked for by what is handled before an event that is published now. -/
def prompted : Bool := lane.owed || lane.queued.any RuntimeEvent.asksTurn

/-- A state over an empty mailbox belongs to a run in flight. -/
def Arranged : Prop := ∀ state, lane.state = some state → state.mailbox = [] → state.inflight = true

/-- The handler of the event published after `earlier` other ones has returned. -/
def Answered (earlier : Nat) (event : RuntimeEvent) : Prop :=
  lane.handler = .returned event ∧ lane.dispatched.length = earlier

variable {lane} {sessionId : String} {next : SessionLane}

/-- A flag is set when there is a state in which it is. -/
theorem flag_eq_true_iff {read : SessionRuntimeState → Bool} :
    lane.flag read = true ↔ ∃ state, lane.state = some state ∧ read state = true := by
  unfold flag
  cases lane.state with
  | none => exact iff_of_false nofun nofun
  | some state => simp only [Option.any_some, Option.some.injEq, exists_eq_left']

/-- The mailbox is triggerable when an event in it triggers a turn. -/
theorem triggerable_eq (lane : SessionLane) :
    lane.triggerable = lane.mailbox.any RuntimeEventEnvelope.triggerTurn := by
  unfold triggerable flag mailbox SessionRuntimeState.hasTriggerableMailboxEvents
  cases lane.state <;> rfl

/-- Asking for a wakeup keeps the lane arranged. -/
theorem Arranged.requestWakeupIfNeeded (arranged : lane.Arranged) (sessionId : String)
    (reason : WakeupReason) (source : String) (stamp : Stamp) :
    (lane.requestWakeupIfNeeded sessionId reason source stamp).Arranged := by
  rcases lane.requestWakeupIfNeeded_cases sessionId reason source stamp with
    ⟨unchanged, _⟩ | ⟨state, stored, requested⟩
  · rw [unchanged]
    exact arranged
  · rw [requested]
    rintro _ ⟨rfl⟩ empty
    exact arranged state stored empty

/-- With mail that was put into it the lane is arranged. -/
theorem arranged_of_enqueued {event : RuntimeEvent} {now : Nat}
    (enqueued : next.mailbox = (lane.enqueueEvent event now).mailbox) : next.Arranged := by
  intro state stored empty
  rw [enqueueEvent_mailbox, mailbox, stored] at enqueued
  have whole : state.mailbox = lane.mailbox ++ [.fromRuntimeEvent event] := enqueued
  rw [empty] at whole
  exact (List.cons_ne_nil _ _ (List.append_eq_nil_iff.mp whole.symm).2).elim

/-- The acquiring block of a session with mail and without a run looks at the triggers only. -/
theorem handleWakeupRequested_eq {state : SessionRuntimeState} (stored : lane.state = some state)
    (free : state.inflight = false) (nonempty : state.mailbox ≠ []) (event : RuntimeEvent)
    (now : Nat) : lane.handleWakeupRequested event now =
      if state.hasTriggerableMailboxEvents then
        { lane with
          state := some { state with wakeupQueued := false, inflight := true, mailbox := [] }
          handler := if isSubSession event.sessionId then .resolving event else .turning event
          activations := lane.activations ++ [(event, state.mailbox)] }
      else
        { lane with
          state := some ({ state with wakeupQueued := false }.touch now)
          handler := .returned event } := by
  have listed : 0 < state.mailbox.length := List.length_pos_iff.mpr nonempty
  unfold SessionLane.handleWakeupRequested
  rw [stored]
  simp only [free, SessionRuntimeState.hasMailboxEvents, listed,
    SessionRuntimeState.hasTriggerableMailboxEvents, SessionRuntimeState.consumeMailbox,
    decide_true, Bool.not_true, Bool.false_and, Bool.true_and, Bool.false_eq_true, ↓reduceIte]
  cases state.mailbox.any RuntimeEventEnvelope.triggerTurn <;> rfl

/-- The acquiring block starts a run on a mailbox that asks for one, and on no other. -/
theorem handleWakeupRequested_outcome (arranged : lane.Arranged) (idle : lane.inflight = false)
    (event : RuntimeEvent) (now : Nat) :
    (lane.triggerable = false ∧ ∃ state : Option SessionRuntimeState,
        lane.handleWakeupRequested event now =
          { lane with state := state, handler := .returned event } ∧
        state.elim [] SessionRuntimeState.mailbox = lane.mailbox ∧
        ∀ found, state = some found → found.mailbox ≠ []) ∨
      (lane.triggerable = true ∧ ∃ state point, lane.handleWakeupRequested event now =
          { lane with
            state := some state
            handler := point
            activations := lane.activations ++ [(event, lane.mailbox)] } ∧
        state.mailbox = [] ∧ state.inflight = true ∧
        (point = .resolving event ∨ point = .turning event)) := by
  cases stored : lane.state with
  | none =>
      refine Or.inl ⟨by rw [triggerable, flag, stored]; rfl, none, ?_, ?_, nofun⟩
      · unfold SessionLane.handleWakeupRequested
        rw [stored]
      · rw [mailbox, stored]
  | some state =>
      have free : state.inflight = false := by
        rw [inflight, flag, stored, Option.any_some] at idle
        exact idle
      have nonempty : state.mailbox ≠ [] := by
        intro empty
        rw [arranged state stored empty] at free
        cases free
      have same : lane.triggerable = state.hasTriggerableMailboxEvents := by
        rw [triggerable, flag, stored, Option.any_some]
      have whole : lane.mailbox = state.mailbox := by rw [mailbox, stored]; rfl
      rw [handleWakeupRequested_eq stored free nonempty, same, whole]
      cases state.hasTriggerableMailboxEvents with
      | false =>
          refine Or.inl ⟨rfl, _, rfl, rfl, ?_⟩
          rintro _ ⟨rfl⟩
          exact nonempty
      | true =>
          refine Or.inr ⟨rfl, _, _, rfl, rfl, rfl, ?_⟩
          split
          · exact Or.inl rfl
          · exact Or.inr rfl

/-- Handling an event keeps the lane arranged. -/
theorem Arranged.onEvent (arranged : lane.Arranged) (valid : lane.Coordinated sessionId)
    {event : RuntimeEvent} (received : lane.handler = .received event) (stamp : Stamp) :
    (lane.onEvent event stamp).Arranged := by
  have idle : lane.inflight = false := by
    rw [← Bool.not_eq_true, valid.inflight, received]
    exact nofun
  unfold SessionLane.onEvent
  split
  · unfold SessionLane.handleUserMessage
    split
    · exact arranged
    · obtain ⟨enqueued, _⟩ := lane.enqueueUserMessage_mail event stamp.now
      exact arranged_of_enqueued enqueued
  · split
    · unfold SessionLane.handleSubtaskCompleted
      have enqueued : (lane.enqueueEvent event stamp.now).Arranged := arranged_of_enqueued rfl
      simp only
      split
      · exact enqueued.requestWakeupIfNeeded event.sessionId .subtaskCompleted
          "subtask_completed" stamp
      · exact enqueued
    · split
      · rcases handleWakeupRequested_outcome arranged idle event stamp.now with
          ⟨_, state, result, _, nonempty⟩ | ⟨_, state, point, result, _, busy, _⟩
        · rw [result]
          exact fun found stored empty => (nonempty found stored empty).elim
        · rw [result]
          rintro _ ⟨rfl⟩ _
          exact busy
      · exact arranged

/-- The end of a turn keeps the lane arranged. -/
theorem Arranged.finishRun (arranged : lane.Arranged) (event : RuntimeEvent) (stamp : Stamp) :
    (lane.finishRun event stamp).Arranged := by
  unfold SessionLane.finishRun
  cases stored : lane.state with
  | none =>
      intro state found
      exact arranged state (stored ▸ found)
  | some running =>
      have of_mail {state : SessionRuntimeState} (listed : state.hasMailboxEvents = true)
          (empty : state.mailbox = []) : state.inflight = true := by
        rw [SessionRuntimeState.hasMailboxEvents_eq_false_iff.mpr empty] at listed
        cases listed
      simp only
      split
      · rename_i asked
        have listed := (Bool.and_eq_true_iff.mp asked).1
        split
        · rintro _ ⟨rfl⟩ empty
          exact of_mail listed empty
        · rintro _ ⟨rfl⟩ empty
          exact of_mail listed empty
      · split
        · exact nofun
        · rename_i listed
          rw [Bool.not_eq_true', Bool.not_eq_false] at listed
          rintro _ ⟨rfl⟩ empty
          exact of_mail listed empty

/-- Every step of any actor leaves no idle state over an empty mailbox. -/
theorem Arranged.step (arranged : lane.Arranged) (valid : lane.Coordinated sessionId)
    {action : SchedulerAction} (stepped : lane.step sessionId action = some next) :
    next.Arranged := by
  have effect := step_cases stepped
  cases action with
  | publish =>
      obtain ⟨_, rfl⟩ := effect
      exact arranged
  | deliver =>
      obtain ⟨_, _, _, _, rfl⟩ := effect
      exact arranged
  | handle stamp =>
      obtain ⟨event, received, rfl⟩ := effect
      exact arranged.onEvent valid received stamp
  | persisted stamp =>
      obtain ⟨event, _, rfl⟩ := effect
      obtain ⟨enqueued, _⟩ := lane.enqueueUserMessage_mail event stamp.now
      exact arranged_of_enqueued enqueued
  | resolved | dispatched | finish =>
      obtain ⟨_, _, rfl⟩ := effect
      exact arranged
  | turnEnded stamp =>
      obtain ⟨event, _, rfl⟩ := effect
      exact arranged.finishRun event stamp
  | debounce task stamp =>
      obtain ⟨_, rfl⟩ := effect
      exact arranged.requestWakeupIfNeeded sessionId .userMessage "debounce_timer" stamp
  | watchdog stamp =>
      cases effect
      exact arranged.requestWakeupIfNeeded sessionId .system "heartbeat_watchdog" stamp
  | beat now =>
      obtain ⟨event, turning, rfl⟩ := effect
      have own : event.sessionId = sessionId := valid.currentOwn event (by rw [turning]; rfl)
      have busy : lane.inflight = true := by
        rw [valid.inflight, turning]
        exact congrArg some own
      obtain ⟨state, stored, running⟩ := flag_eq_true_iff.mp busy
      rintro _ ⟨rfl⟩ _
      rw [getOrCreateState, stored]
      exact running

/-- The lane is arranged in every reachable state. -/
theorem arranged_of_reachable {guard : Machine.Guard SessionLane SchedulerAction}
    (reached : (machine sessionId).Reachable guard lane) : lane.Arranged := by
  have both : lane.Coordinated sessionId ∧ lane.Arranged := by
    apply reached.invariant
    · intro start begun
      have initial : (machine sessionId).Reachable guard start := .initial begun
      exact ⟨coordinated_of_reachable initial, begun ▸ nofun⟩
    · intro before action after valid _ stepped
      exact ⟨valid.1.step stepped, valid.2.step valid.1 stepped⟩
  exact both.2

/-- What a step does to the queue, the handler and the runs of a session. -/
inductive Moves (lane next : SessionLane) : Prop
  | background (queued : lane.queued <+: next.queued) (handler : next.handler = lane.handler)
      (dispatched : next.dispatched = lane.dispatched)
      (activations : next.activations = lane.activations) (mailbox : next.mailbox = lane.mailbox)
  | taken (event : RuntimeEvent) (idle : lane.handler = .idle)
      (queued : lane.queued = event :: next.queued) (handler : next.handler = .received event)
      (dispatched : next.dispatched = lane.dispatched)
      (activations : next.activations = lane.activations) (mailbox : next.mailbox = lane.mailbox)
  | handled (event : RuntimeEvent) (before : lane.handler.current = some event)
      (after : next.handler.current = some event) (begun : next.handler ≠ .received event)
      (queued : lane.queued <+: next.queued) (dispatched : next.dispatched = lane.dispatched)
      (activations : next.activations = lane.activations) (owed : next.owed = lane.owed)
      (refused : lane.handler = .received event →
        event.typeValue = EventType.wakeupRequested.value → lane.triggerable = false)
  | started (event : RuntimeEvent) (received : lane.handler = .received event)
      (handler : next.handler = .resolving event ∨ next.handler = .turning event)
      (queued : next.queued = lane.queued) (dispatched : next.dispatched = lane.dispatched)
      (activations : next.activations.length = lane.activations.length + 1)
      (triggered : lane.triggerable = true)
  | finished (event : RuntimeEvent) (returned : lane.handler = .returned event)
      (handler : next.handler = .idle) (queued : next.queued = lane.queued)
      (dispatched : next.dispatched = lane.dispatched ++ [event])
      (activations : next.activations = lane.activations) (mailbox : next.mailbox = lane.mailbox)

/-- Whether the mailbox is triggerable depends on its events. -/
theorem triggerable_congr (same : next.mailbox = lane.mailbox) :
    next.triggerable = lane.triggerable := by
  rw [triggerable_eq, triggerable_eq, same]

/-- Without an event on its way to the mailbox the mail is owed. -/
theorem owed_of_unmailed_nil (mailed : lane.handler.unmailed = []) :
    lane.owed = lane.triggerable := by
  rw [owed, mailed, List.any_nil, Bool.or_false]

/-- Asking for a wakeup adds to the queue, at most. -/
theorem requestWakeupIfNeeded_queued (lane : SessionLane) (reason : WakeupReason)
    (source : String) (stamp : Stamp) :
    lane.queued <+: (lane.requestWakeupIfNeeded sessionId reason source stamp).queued := by
  rcases lane.requestWakeupIfNeeded_cases sessionId reason source stamp with
    ⟨unchanged, _⟩ | ⟨state, stored, requested⟩
  · rw [unchanged]
  · rw [requested]
    exact List.prefix_append _ _

/-- Handling a wakeup leaves the queue. -/
theorem handleWakeupRequested_queued (lane : SessionLane) (event : RuntimeEvent) (now : Nat) :
    (lane.handleWakeupRequested event now).queued = lane.queued := by
  unfold SessionLane.handleWakeupRequested
  cases lane.state with
  | none => rfl
  | some state =>
      simp only
      split
      · rfl
      · split
        · rfl
        · split <;> rfl

/-- The end of a turn adds to the queue, at most. -/
theorem finishRun_queued (lane : SessionLane) (event : RuntimeEvent) (stamp : Stamp) :
    lane.queued <+: (lane.finishRun event stamp).queued := by
  rcases lane.finishRun_cases event stamp with ⟨state, result, _⟩ | ⟨state, result, _⟩
  · rw [result]
  · rw [result]
    exact List.prefix_append _ _

/-- A mail event is put in the mailbox and its handler returns. -/
theorem moves_of_enqueued {event : RuntimeEvent} {now : Nat}
    (waiting : lane.handler.unmailed = [event]) (current : lane.handler.current = some event)
    (mail : event.isMail = true) (queued : lane.queued <+: next.queued)
    (mailbox : next.mailbox = (lane.enqueueEvent event now).mailbox)
    (activations : next.activations = lane.activations)
    (dispatched : next.dispatched = lane.dispatched)
    (returned : next.handler = .returned event) : Moves lane next := by
  refine .handled event current ?_ ?_ queued dispatched activations ?_ ?_
  · rw [returned]
    rfl
  · rw [returned]
    exact nofun
  · have asks : event.asksTurn = normalizeTriggerTurn event.typeValue event.payload := by
      rw [RuntimeEvent.asksTurn, mail, Bool.true_and]
    have mailed : next.handler.unmailed = [] := by rw [returned]; rfl
    rw [owed_of_unmailed_nil mailed, triggerable_congr mailbox, owed, waiting,
      enqueueEvent_triggerable, List.any_cons, List.any_nil, Bool.or_false, asks]
  · intro _ wakeup
    rw [isMail_of_wakeup wakeup] at mail
    cases mail

/-- A handler moves on without a run and without mail. -/
theorem moves_of_silent {event : RuntimeEvent} (before : lane.handler.current = some event)
    (after : next.handler.current = some event) (begun : next.handler ≠ .received event)
    (queued : lane.queued <+: next.queued) (dispatched : next.dispatched = lane.dispatched)
    (activations : next.activations = lane.activations) (mailbox : next.mailbox = lane.mailbox)
    (unmailed : next.handler.unmailed = lane.handler.unmailed ∨
      (event.isMail = false ∧ lane.handler.unmailed = [event] ∧ next.handler.unmailed = []))
    (refused : lane.handler = .received event →
      event.typeValue = EventType.wakeupRequested.value → lane.triggerable = false) :
    Moves lane next := by
  refine .handled event before after begun queued dispatched activations ?_ refused
  rw [owed, owed, triggerable_congr mailbox]
  rcases unmailed with same | ⟨other, waiting, mailed⟩
  · rw [same]
  · rw [waiting, mailed, List.any_cons, RuntimeEvent.asksTurn, other, Bool.false_and,
      Bool.false_or]

/-- Handling an event moves the lane on. -/
theorem onEvent_moves (arranged : lane.Arranged) (valid : lane.Coordinated sessionId)
    {event : RuntimeEvent} (received : lane.handler = .received event) (stamp : Stamp) :
    Moves lane (lane.onEvent event stamp) := by
  have idle : lane.inflight = false := by
    rw [← Bool.not_eq_true, valid.inflight, received]
    rintro ⟨⟩
  have current : lane.handler.current = some event := by rw [received]; rfl
  have waiting : lane.handler.unmailed = [event] := by rw [received]; rfl
  unfold SessionLane.onEvent
  split
  · rename_i message
    have mail : event.isMail = true := by rw [RuntimeEvent.isMail, message]; rfl
    unfold SessionLane.handleUserMessage
    split
    · refine moves_of_silent current rfl (by rintro ⟨⟩) List.prefix_rfl rfl rfl rfl
        (Or.inl (waiting ▸ rfl)) fun _ wakeup => ?_
      rw [isMail_of_wakeup wakeup] at mail
      cases mail
    · obtain ⟨mailbox, activations, _, dispatched⟩ := lane.enqueueUserMessage_mail event stamp.now
      refine moves_of_enqueued waiting current mail ?_ mailbox activations dispatched rfl
      unfold SessionLane.enqueueUserMessage
      split <;> exact List.prefix_rfl
  · split
    · rename_i completed
      have mail : event.isMail = true := by rw [RuntimeEvent.isMail, completed]; rfl
      unfold SessionLane.handleSubtaskCompleted
      simp only
      split
      · obtain ⟨mailbox, activations, _, dispatched⟩ :=
          (lane.enqueueEvent event stamp.now).requestWakeupIfNeeded_mail event.sessionId
            .subtaskCompleted "subtask_completed" stamp
        exact moves_of_enqueued waiting current mail
          (requestWakeupIfNeeded_queued (lane.enqueueEvent event stamp.now) ..) mailbox activations
          dispatched rfl
      · exact moves_of_enqueued waiting current mail List.prefix_rfl rfl rfl rfl rfl
    · split
      · rename_i wakeup
        rcases handleWakeupRequested_outcome arranged idle event stamp.now with
          ⟨silent, state, result, whole, _⟩ | ⟨asked, state, point, result, _, _, started⟩
        · rw [result]
          exact moves_of_silent current rfl (by rintro ⟨⟩) List.prefix_rfl rfl rfl whole
            (Or.inr ⟨isMail_of_wakeup wakeup, waiting, rfl⟩) fun _ _ => silent
        · rw [result]
          exact .started event received started rfl rfl List.length_append asked
      · rename_i message completed other
        have silent : event.isMail = false := by
          rw [RuntimeEvent.isMail, Bool.or_eq_false_iff, decide_eq_false_iff_not,
            decide_eq_false_iff_not]
          exact ⟨message, completed⟩
        exact moves_of_silent current rfl (by rintro ⟨⟩) List.prefix_rfl rfl rfl rfl
          (Or.inr ⟨silent, waiting, rfl⟩) fun _ wakeup => (other wakeup).elim

/-- Every step moves the lane on. -/
theorem step_moves (arranged : lane.Arranged) (order : lane.MailOrder)
    (valid : lane.Coordinated sessionId) {action : SchedulerAction}
    (stepped : lane.step sessionId action = some next) : Moves lane next := by
  have effect := step_cases stepped
  have unbegun {event : RuntimeEvent} (begun : lane.handler ≠ .received event)
      (received : lane.handler = .received event)
      (_ : event.typeValue = EventType.wakeupRequested.value) : lane.triggerable = false :=
    (begun received).elim
  cases action with
  | publish event =>
      obtain ⟨_, rfl⟩ := effect
      exact .background (List.prefix_append _ _) rfl rfl rfl rfl
  | deliver =>
      obtain ⟨event, rest, idle, head, rfl⟩ := effect
      exact .taken event idle head rfl rfl rfl rfl
  | handle stamp =>
      obtain ⟨event, received, rfl⟩ := effect
      exact onEvent_moves arranged valid received stamp
  | persisted stamp =>
      obtain ⟨event, persisting, rfl⟩ := effect
      obtain ⟨mailbox, activations, _, dispatched⟩ := lane.enqueueUserMessage_mail event stamp.now
      refine moves_of_enqueued (by rw [persisting]; rfl) (by rw [persisting]; rfl)
        (order.persisting event persisting) ?_ mailbox activations dispatched rfl
      unfold SessionLane.enqueueUserMessage
      split <;> exact List.prefix_rfl
  | resolved =>
      obtain ⟨event, resolving, rfl⟩ := effect
      exact moves_of_silent (by rw [resolving]; rfl) rfl nofun List.prefix_rfl rfl rfl rfl
        (Or.inl (by rw [resolving]; rfl)) (unbegun (by rw [resolving]; exact nofun))
  | turnEnded stamp =>
      obtain ⟨event, turning, rfl⟩ := effect
      obtain ⟨mailbox, activations, _, dispatched, returned⟩ := lane.finishRun_mail event stamp
      exact moves_of_silent (by rw [turning]; rfl) (by rw [returned]; rfl)
        (by rw [returned]; exact nofun) (lane.finishRun_queued event stamp) dispatched activations
        mailbox (Or.inl (by rw [turning, returned]; rfl)) (unbegun (by rw [turning]; exact nofun))
  | dispatched =>
      obtain ⟨event, dispatching, rfl⟩ := effect
      exact moves_of_silent (by rw [dispatching]; rfl) rfl nofun List.prefix_rfl rfl rfl rfl
        (Or.inl (by rw [dispatching]; rfl)) (unbegun (by rw [dispatching]; exact nofun))
  | finish =>
      obtain ⟨event, returned, rfl⟩ := effect
      exact .finished event returned rfl rfl rfl rfl rfl
  | debounce task stamp =>
      obtain ⟨_, rfl⟩ := effect
      obtain ⟨mailbox, activations, _, dispatched⟩ :=
        lane.requestWakeupIfNeeded_mail sessionId .userMessage "debounce_timer" stamp
      exact .background (lane.requestWakeupIfNeeded_queued .userMessage "debounce_timer" stamp)
        (lane.requestWakeupIfNeeded_handler sessionId .userMessage "debounce_timer" stamp) dispatched
        activations mailbox
  | watchdog stamp =>
      cases effect
      obtain ⟨mailbox, activations, _, dispatched⟩ :=
        lane.requestWakeupIfNeeded_mail sessionId .system "heartbeat_watchdog" stamp
      exact .background (lane.requestWakeupIfNeeded_queued .system "heartbeat_watchdog" stamp)
        (lane.requestWakeupIfNeeded_handler sessionId .system "heartbeat_watchdog" stamp) dispatched
        activations mailbox
  | beat now =>
      obtain ⟨event, _, rfl⟩ := effect
      refine .background List.prefix_rfl rfl rfl rfl ?_
      unfold mailbox getOrCreateState
      cases lane.state <;> rfl

/-- A wakeup published after `earlier` events, while `runs` runs had started, on its way to its
handler: a run has started since, or one is still asked for exactly if it was at the publication.
-/
inductive Awaits (earlier runs : Nat) (prompted : Bool) (wakeup : RuntimeEvent)
    (lane : SessionLane) : Prop
  | queued (ahead behind : List RuntimeEvent) (place : lane.queued = ahead ++ wakeup :: behind)
      (count : lane.taken + ahead.length = earlier)
      (outcome : (runs < lane.activations.length ∧ prompted = true) ∨
        (lane.activations.length = runs ∧
          (lane.owed || ahead.any RuntimeEvent.asksTurn) = prompted))
  | received (point : lane.handler = .received wakeup) (count : lane.dispatched.length = earlier)
      (outcome : (runs < lane.activations.length ∧ prompted = true) ∨
        (lane.activations.length = runs ∧ lane.triggerable = prompted))
  | handled (current : lane.handler.current = some wakeup)
      (begun : lane.handler ≠ .received wakeup) (count : lane.dispatched.length = earlier)
      (outcome : runs < lane.activations.length ↔ prompted = true)
  | past (count : earlier < lane.dispatched.length)

section Awaits

variable {earlier runs : Nat} {prompted : Bool} {wakeup : RuntimeEvent}

/-- An event in hand has been taken. -/
theorem taken_of_current {event : RuntimeEvent} (current : lane.handler.current = some event) :
    lane.taken = lane.dispatched.length + 1 := by
  rw [taken, current]
  rfl

/-- Without one the taken events are the dispatched ones. -/
theorem taken_of_idle (idle : lane.handler = .idle) : lane.taken = lane.dispatched.length := by
  rw [taken, idle]
  rfl

/-- The bus takes the next event: one ahead of the wakeup, or the wakeup itself. -/
theorem Awaits.take (awaits : Awaits earlier runs prompted wakeup lane)
    {event : RuntimeEvent} (idle : lane.handler = .idle) (head : lane.queued = event :: next.queued)
    (handler : next.handler = .received event) (dispatched : next.dispatched = lane.dispatched)
    (activations : next.activations = lane.activations) (mailbox : next.mailbox = lane.mailbox) :
    Awaits earlier runs prompted wakeup next := by
  have waiting : lane.owed = next.triggerable := by
    rw [owed_of_unmailed_nil (by rw [idle]; rfl), triggerable_congr mailbox]
  cases awaits with
  | queued ahead behind place count outcome =>
      rw [taken_of_idle idle] at count
      rw [waiting] at outcome
      cases ahead with
      | nil =>
          rw [place] at head
          obtain ⟨rfl, _⟩ := List.cons_eq_cons.mp head
          refine .received handler (by rw [dispatched]; exact count) ?_
          rw [List.any_nil, Bool.or_false] at outcome
          rw [activations]
          exact outcome
      | cons first ahead =>
          rw [place, List.cons_append] at head
          obtain ⟨rfl, rest⟩ := List.cons_eq_cons.mp head
          refine .queued ahead behind rest.symm ?_ ?_
          · rw [taken_of_current (by rw [handler]; rfl), dispatched, ← count, List.length_cons]
            omega
          · rw [activations, owed, handler]
            rw [List.any_cons, ← Bool.or_assoc] at outcome
            simpa only [HandlerState.unmailed, List.any_cons, List.any_nil, Bool.or_false]
              using outcome
  | received point => rw [idle] at point; cases point
  | handled current => rw [idle] at current; cases current
  | past count => exact .past (dispatched ▸ count)

/-- A step within the handling of an event that starts no run. -/
theorem Awaits.handle (awaits : Awaits earlier runs prompted wakeup lane)
    (named : wakeup.typeValue = EventType.wakeupRequested.value) {event : RuntimeEvent}
    (before : lane.handler.current = some event) (after : next.handler.current = some event)
    (begun : next.handler ≠ .received event) (queued : lane.queued <+: next.queued)
    (dispatched : next.dispatched = lane.dispatched)
    (activations : next.activations = lane.activations) (owed : next.owed = lane.owed)
    (refused : lane.handler = .received event →
      event.typeValue = EventType.wakeupRequested.value → lane.triggerable = false) :
    Awaits earlier runs prompted wakeup next := by
  cases awaits with
  | queued ahead behind place count outcome =>
      obtain ⟨more, extended⟩ := queued
      refine .queued ahead (behind ++ more) ?_ ?_ ?_
      · rw [← extended, place, List.append_assoc, List.cons_append]
      · rw [taken_of_current after, dispatched, ← taken_of_current before]
        exact count
      · rw [activations, owed]
        exact outcome
  | received point count outcome =>
      rw [point] at before
      cases before
      refine .handled after begun (dispatched ▸ count) ?_
      rw [refused point named] at outcome
      rw [activations]
      rcases outcome with ⟨ran, asked⟩ | ⟨same, silent⟩
      · exact iff_of_true ran asked
      · exact iff_of_false (by omega) (by rw [← silent]; exact Bool.false_ne_true)
  | handled current _ count outcome =>
      cases current.symm.trans before
      exact .handled after begun (dispatched ▸ count) (activations ▸ outcome)
  | past count => exact .past (dispatched ▸ count)

/-- The handler of an event starts a run, which takes the mailbox. -/
theorem Awaits.start (awaits : Awaits earlier runs prompted wakeup lane) {event : RuntimeEvent}
    (received : lane.handler = .received event)
    (handler : next.handler = .resolving event ∨ next.handler = .turning event)
    (queued : next.queued = lane.queued) (dispatched : next.dispatched = lane.dispatched)
    (activations : next.activations.length = lane.activations.length + 1)
    (triggered : lane.triggerable = true) : Awaits earlier runs prompted wakeup next := by
  have after : next.handler.current = some event := by
    rcases handler with point | point <;> rw [point] <;> rfl
  have before : lane.handler.current = some event := by rw [received]; rfl
  cases awaits with
  | queued ahead behind place count outcome =>
      refine .queued ahead behind (queued ▸ place) ?_ (Or.inl ?_)
      · rw [taken_of_current after, dispatched, ← taken_of_current before]
        exact count
      · rcases outcome with ⟨ran, asked⟩ | ⟨same, asked⟩
        · exact ⟨by omega, asked⟩
        · rw [SessionLane.owed, triggered, Bool.true_or, Bool.true_or] at asked
          exact ⟨by omega, asked.symm⟩
  | received point count outcome =>
      cases received.symm.trans point
      refine .handled after ?_ (dispatched ▸ count) ?_
      · rcases handler with point | point <;> rw [point] <;> exact nofun
      · rw [triggered] at outcome
        rcases outcome with ⟨ran, asked⟩ | ⟨same, asked⟩
        · exact iff_of_true (by omega) asked
        · exact iff_of_true (by omega) asked.symm
  | handled current begun =>
      cases current.symm.trans before
      exact (begun received).elim
  | past count => exact .past (dispatched ▸ count)

/-- Every step keeps account of the wakeup. -/
theorem Awaits.move (awaits : Awaits earlier runs prompted wakeup lane)
    (named : wakeup.typeValue = EventType.wakeupRequested.value) (moves : Moves lane next) :
    Awaits earlier runs prompted wakeup next := by
  cases moves with
  | background queued handler dispatched activations mailbox =>
      have owed : next.owed = lane.owed := by
        rw [SessionLane.owed, SessionLane.owed, handler, triggerable_congr mailbox]
      cases awaits with
      | queued ahead behind place count outcome =>
          obtain ⟨more, extended⟩ := queued
          refine .queued ahead (behind ++ more) ?_ ?_ ?_
          · rw [← extended, place, List.append_assoc, List.cons_append]
          · rw [taken, handler, dispatched]
            exact count
          · rw [activations, owed]
            exact outcome
      | received point count outcome =>
          refine .received (handler ▸ point) (dispatched ▸ count) ?_
          rw [activations, triggerable_congr mailbox]
          exact outcome
      | handled current begun count outcome =>
          exact .handled (handler ▸ current) (handler ▸ begun) (dispatched ▸ count)
            (activations ▸ outcome)
      | past count => exact .past (dispatched ▸ count)
  | taken event idle queued handler dispatched activations mailbox =>
      exact awaits.take idle queued handler dispatched activations mailbox
  | handled event before after begun queued dispatched activations owed refused =>
      exact awaits.handle named before after begun queued dispatched activations owed refused
  | started event received handler queued dispatched activations triggered =>
      exact awaits.start received handler queued dispatched activations triggered
  | finished event returned handler queued dispatched activations mailbox =>
      cases awaits with
      | queued ahead behind place count outcome =>
          refine .queued ahead behind (queued ▸ place) ?_ ?_
          · rw [taken_of_current (by rw [returned]; rfl)] at count
            rw [taken_of_idle handler, dispatched, List.length_append]
            exact count
          · rw [activations, owed_of_unmailed_nil (by rw [handler]; rfl), triggerable_congr mailbox,
              ← owed_of_unmailed_nil (by rw [returned]; rfl)]
            exact outcome
      | received point => rw [returned] at point; cases point
      | handled current _ count _ =>
          refine .past ?_
          rw [dispatched, List.length_append, count]
          exact Nat.lt_succ_self _
      | past count =>
          refine .past ?_
          rw [dispatched, List.length_append]
          omega

/-- Once the handler of the wakeup has returned, a run has started since the publication exactly
if one was asked for there. -/
theorem started_iff_prompted (reached : (machine sessionId).Reachable Machine.anyStep lane)
    (own : wakeup.sessionId = sessionId)
    (named : wakeup.typeValue = EventType.wakeupRequested.value) {final : SessionLane}
    (steps : (machine sessionId).Steps Machine.anyStep (lane.publish wakeup) final)
    (answered : final.Answered (lane.taken + lane.queued.length) wakeup) :
    lane.activations.length < final.activations.length ↔ lane.prompted = true := by
  let Accounted (state : SessionLane) := (machine sessionId).Reachable Machine.anyStep state ∧
    Awaits (lane.taken + lane.queued.length) lane.activations.length lane.prompted wakeup state
  have publishes : (machine sessionId).step lane (.publish wakeup) = some (lane.publish wakeup) :=
    if_pos own
  have published : (machine sessionId).Reachable Machine.anyStep (lane.publish wakeup) :=
    reached.tail trivial publishes
  have accounted : Accounted final := by
    apply steps.invariant
    · rintro before action after ⟨reachable, awaits⟩ _ stepped
      have moves := step_moves (arranged_of_reachable reachable) (mailOrder_of_reachable reachable)
        (coordinated_of_reachable reachable) stepped
      exact ⟨reachable.tail trivial stepped, awaits.move named moves⟩
    · exact ⟨published, .queued lane.queued [] rfl rfl (Or.inr ⟨rfl, rfl⟩)⟩
  obtain ⟨returned, count⟩ := answered
  cases accounted.2 with
  | queued ahead _ _ counted _ =>
      rw [taken_of_current (by rw [returned]; rfl)] at counted
      omega
  | received point => rw [returned] at point; cases point
  | handled _ _ _ outcome => exact outcome
  | past passed => omega

end Awaits

section Progress

variable {event : RuntimeEvent}

/-- A handler past its first suspension can go on until it returns. -/
theorem exists_returned_of_begun (sessionId : String)
    (current : lane.handler.current = some event) (begun : lane.handler ≠ .received event) :
    ∃ final, (machine sessionId).Steps Machine.anyStep lane final ∧
      final.handler = .returned event ∧ final.dispatched = lane.dispatched ∧
      lane.queued <+: final.queued := by
  have last {before final : SessionLane} {action : SchedulerAction}
      (stepped : before.step sessionId action = some final) :
      (machine sessionId).Steps Machine.anyStep before final := .tail (.refl _) trivial stepped
  have turned {before : SessionLane} (turning : before.handler = .turning event) :
      (machine sessionId).Steps Machine.anyStep before
        (before.finishRun event { id := "", now := 0 }) := by
    have stepped : before.step sessionId (.turnEnded { id := "", now := 0 }) =
        some (before.finishRun event { id := "", now := 0 }) := by
      simp only [SessionLane.step, turning]
    exact last stepped
  cases point : lane.handler with
  | idle => rw [point] at current; cases current
  | received other =>
      rw [point] at current begun
      cases current
      exact (begun rfl).elim
  | persisting other =>
      rw [point] at current
      cases current
      have stepped : lane.step sessionId (.persisted { id := "", now := 0 }) =
          some { lane.enqueueUserMessage event 0 with handler := .returned event } := by
        simp only [SessionLane.step, point]
      obtain ⟨_, _, _, dispatched⟩ := lane.enqueueUserMessage_mail event 0
      refine ⟨_, last stepped, rfl, dispatched, ?_⟩
      unfold SessionLane.enqueueUserMessage
      split <;> exact List.prefix_rfl
  | resolving other =>
      rw [point] at current
      cases current
      have stepped : lane.step sessionId .resolved = some { lane with handler := .turning event } := by
        simp only [SessionLane.step, point]
      obtain ⟨_, _, _, dispatched, returned⟩ :=
        { lane with handler := .turning event }.finishRun_mail event { id := "", now := 0 }
      exact ⟨_, (last stepped).trans (turned rfl), returned, dispatched,
        { lane with handler := .turning event }.finishRun_queued event { id := "", now := 0 }⟩
  | turning other =>
      rw [point] at current
      cases current
      obtain ⟨_, _, _, dispatched, returned⟩ := lane.finishRun_mail event { id := "", now := 0 }
      exact ⟨_, turned point, returned, dispatched,
        lane.finishRun_queued event { id := "", now := 0 }⟩
  | plugin other =>
      rw [point] at current
      cases current
      have stepped : lane.step sessionId .dispatched =
          some { lane with handler := .returned event } := by
        simp only [SessionLane.step, point]
      exact ⟨_, last stepped, rfl, rfl, List.prefix_rfl⟩
  | returned other =>
      rw [point] at current
      cases current
      exact ⟨lane, .refl _, point, rfl, List.prefix_rfl⟩

/-- Handling begins with a step that leaves the handler within the event. -/
theorem onEvent_begun (lane : SessionLane) (event : RuntimeEvent) (stamp : Stamp) :
    (lane.onEvent event stamp).handler.current = some event ∧
      (lane.onEvent event stamp).handler ≠ .received event ∧
      (lane.onEvent event stamp).dispatched = lane.dispatched ∧
      lane.queued <+: (lane.onEvent event stamp).queued := by
  unfold SessionLane.onEvent
  split
  · unfold SessionLane.handleUserMessage
    split
    · exact ⟨rfl, nofun, rfl, List.prefix_rfl⟩
    · obtain ⟨_, _, _, dispatched⟩ := lane.enqueueUserMessage_mail event stamp.now
      refine ⟨rfl, nofun, dispatched, ?_⟩
      unfold SessionLane.enqueueUserMessage
      split <;> exact List.prefix_rfl
  · split
    · unfold SessionLane.handleSubtaskCompleted
      simp only
      split
      · obtain ⟨_, _, _, dispatched⟩ := (lane.enqueueEvent event stamp.now).requestWakeupIfNeeded_mail
          event.sessionId .subtaskCompleted "subtask_completed" stamp
        exact ⟨rfl, nofun, dispatched,
          requestWakeupIfNeeded_queued (lane.enqueueEvent event stamp.now) ..⟩
      · exact ⟨rfl, nofun, rfl, List.prefix_rfl⟩
    · split
      · obtain ⟨_, _, dispatched, moved⟩ := lane.handleWakeupRequested_mail event stamp.now
        refine ⟨?_, ?_, dispatched, ?_⟩
        · rcases moved with point | point | point <;> rw [point] <;> rfl
        · rcases moved with point | point | point <;> rw [point] <;> exact nofun
        · rw [handleWakeupRequested_queued]
      · exact ⟨rfl, nofun, rfl, List.prefix_rfl⟩

/-- A handler can always go on until it returns. -/
theorem exists_returned (sessionId : String) (current : lane.handler.current = some event) :
    ∃ final, (machine sessionId).Steps Machine.anyStep lane final ∧
      final.handler = .returned event ∧ final.dispatched = lane.dispatched ∧
      lane.queued <+: final.queued := by
  by_cases received : lane.handler = .received event
  · obtain ⟨handling, begun, dispatched, queued⟩ := lane.onEvent_begun event { id := "", now := 0 }
    obtain ⟨final, steps, returned, same, extended⟩ :=
      exists_returned_of_begun sessionId handling begun
    have stepped : (machine sessionId).step lane (.handle { id := "", now := 0 }) =
        some (lane.onEvent event { id := "", now := 0 }) := by
      simp only [machine, SessionLane.step, received]
    exact ⟨final, .head trivial stepped steps, returned, same.trans dispatched,
      queued.trans extended⟩
  · exact exists_returned_of_begun sessionId current received

/-- The bus can always become free for the next event. -/
theorem exists_idle (sessionId : String) (lane : SessionLane) :
    ∃ final, (machine sessionId).Steps Machine.anyStep lane final ∧ final.handler = .idle ∧
      final.dispatched.length = lane.taken ∧ lane.queued <+: final.queued := by
  cases current : lane.handler.current with
  | none =>
      have idle : lane.handler = .idle := by
        cases point : lane.handler with
        | idle => rfl
        | received | persisting | resolving | turning | plugin | returned =>
            rw [point] at current
            cases current
      exact ⟨lane, .refl _, idle, (taken_of_idle idle).symm, List.prefix_rfl⟩
  | some event =>
      obtain ⟨final, steps, returned, dispatched, queued⟩ :=
        exists_returned sessionId current
      have finished : (machine sessionId).step final .finish =
          some { final with handler := .idle, dispatched := final.dispatched ++ [event] } := by
        simp only [machine, SessionLane.step, returned]
      refine ⟨_, steps.tail trivial finished, rfl, ?_, queued⟩
      rw [List.length_append, dispatched, taken_of_current current]
      rfl

/-- Every event on the bus can be handled. -/
theorem exists_answered (sessionId : String) (lane : SessionLane)
    (ahead behind : List RuntimeEvent) (place : lane.queued = ahead ++ event :: behind) :
    ∃ final, (machine sessionId).Steps Machine.anyStep lane final ∧
      final.Answered (lane.taken + ahead.length) event := by
  induction ahead generalizing lane behind with
  | nil =>
      obtain ⟨free, steps, idle, count, more, extended⟩ := exists_idle sessionId lane
      have head : free.queued = event :: (behind ++ more) := by
        rw [← extended, place, List.nil_append, List.cons_append]
      have taken : (machine sessionId).step free .deliver =
          some { free with handler := .received event, queued := behind ++ more } := by
        simp only [machine, SessionLane.step, idle, head]
      let received := { free with handler := .received event, queued := behind ++ more }
      have current : received.handler.current = some event := rfl
      obtain ⟨final, handled, returned, dispatched, _⟩ := exists_returned sessionId current
      exact ⟨final, (steps.tail trivial taken).trans handled, returned,
        (congrArg List.length dispatched).trans count⟩
  | cons first ahead ih =>
      obtain ⟨free, steps, idle, count, more, extended⟩ := exists_idle sessionId lane
      have head : free.queued = first :: (ahead ++ event :: (behind ++ more)) := by
        rw [← extended, place]
        simp only [List.cons_append, List.append_assoc]
      have taken : (machine sessionId).step free .deliver = some { free with
          handler := .received first, queued := ahead ++ event :: (behind ++ more) } := by
        simp only [machine, SessionLane.step, idle, head]
      obtain ⟨final, handled, answered⟩ := ih { free with
        handler := .received first, queued := ahead ++ event :: (behind ++ more) } _ rfl
      refine ⟨final, (steps.tail trivial taken).trans handled, answered.1, answered.2.trans ?_⟩
      rw [taken_of_current rfl, List.length_cons, count]
      omega

end Progress

end SessionLane

/-- **Explicit wakeups.** Whatever state the scheduler is in when a capability asks for a planner
turn of a session, and whatever happens next: once the handler of the wakeup has returned, which
can always come about, a turn has started since the publication exactly if one was asked for
before the wakeup, by the mailbox or by an event on its way there. -/
theorem scheduler_explicit_wakeup (lanes : String → SessionLane)
    (reached : scheduler.Reachable Machine.anyStep lanes) (sessionId reason source : String)
    (stamp : Stamp) :
    let lane := lanes sessionId
    let wakeup := requestPlannerWakeup sessionId reason source stamp
    let asked := Function.update lanes sessionId (lane.publish wakeup)
    (∃ final, scheduler.Steps Machine.anyStep asked final ∧
      (final sessionId).Answered (lane.taken + lane.queued.length) wakeup) ∧
    ∀ final, scheduler.Steps Machine.anyStep asked final →
      (final sessionId).Answered (lane.taken + lane.queued.length) wakeup →
      (lane.activations.length < (final sessionId).activations.length ↔ lane.prompted = true) := by
  intro lane wakeup asked
  constructor
  · obtain ⟨final, steps, answered⟩ :=
      (lane.publish wakeup).exists_answered sessionId lane.queued [] rfl
    refine ⟨Function.update lanes sessionId final, steps.perKey lanes, ?_⟩
    rw [Function.update_self]
    exact answered
  · intro final steps answered
    have own := Machine.perKey_steps steps sessionId
    have start : asked sessionId = lane.publish wakeup := Function.update_self ..
    rw [start] at own
    exact SessionLane.started_iff_prompted (Machine.perKey_reachable reached sessionId) rfl rfl own
      answered

/-- A message that asks for a turn waits in the mailbox, so the wakeup starts one. -/
theorem explicit_wakeup_of_userMessageRun :
    ∃ final : String → SessionLane,
      (userMessageLanes "s").activations.length < (final "s").activations.length := by
  have replayed : scheduler.replay Machine.anyStep (fun _ => {}) userMessageRun =
      some userMessageLanes := rfl
  have reached := Machine.Reachable.of_replay (fun _ => rfl) replayed
  obtain ⟨⟨final, steps, answered⟩, started⟩ := scheduler_explicit_wakeup userMessageLanes reached
    "s" "system" "capability" { id := "3", now := 3 }
  exact ⟨final, (started final steps answered).mpr (by decide)⟩

/-- A wakeup of an idle session: its handler finds no state. -/
def idleWakeup : RuntimeEvent :=
  requestPlannerWakeup "s" "system" "capability" { id := "1", now := 1 }

/-- The lanes after a wakeup was asked for in an idle session. -/
def idleWakeupLanes : String → SessionLane :=
  (scheduler.replay Machine.anyStep (fun _ => {})
    [("s", .publish idleWakeup), ("s", .deliver), ("s", .handle { id := "2", now := 2 }),
      ("s", .finish)]).getD fun _ => {}

/-- An explicit wakeup is lost: it is handled, no turn has started, and nothing that could start
one is left. -/
theorem explicit_wakeup_lost :
    idleWakeup.source ∉ schedulerSources ∧
      scheduler.Reachable Machine.anyStep idleWakeupLanes ∧
      idleWakeup ∈ (idleWakeupLanes "s").dispatched ∧
      (idleWakeupLanes "s").activations = [] ∧ (idleWakeupLanes "s").queued = [] ∧
      (idleWakeupLanes "s").handler = .idle ∧ (idleWakeupLanes "s").state = none ∧
      (idleWakeupLanes "s").sleeping = ∅ := by
  have replayed : scheduler.replay Machine.anyStep (fun _ => {})
      [("s", .publish idleWakeup), ("s", .deliver), ("s", .handle { id := "2", now := 2 }),
        ("s", .finish)] = some idleWakeupLanes := rfl
  refine ⟨by decide, .of_replay (fun _ => rfl) replayed, ?_, rfl, rfl, rfl, rfl, rfl⟩
  exact List.mem_singleton.mpr rfl

end FairyClaw
