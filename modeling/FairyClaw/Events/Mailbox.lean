import FairyClaw.Events.Wakeup

/-! # Mailboxes are consumed once and in order

The state of a session is dropped when a run ends over an empty mailbox and is created again by
the next event. Whatever the steps in between, the batches the runs consumed followed by the
mailbox are the mail events handled for the session (`FairyClaw.scheduler_mailbox_once`).
-/

namespace FairyClaw

open Foundation

/-- The events that go to the mailbox of their session. -/
def RuntimeEvent.isMail (event : RuntimeEvent) : Bool :=
  event.typeValue = EventType.userMessageReceived.value ||
    event.typeValue = EventType.subtaskCompleted.value

/-- The event whose handler has returned, before the bus records it. -/
def HandlerState.handled : HandlerState → List RuntimeEvent
  | returned event => [event]
  | _ => []

namespace SessionLane

variable (lane : SessionLane)

/-- The mailbox, empty without a state. -/
def mailbox : List RuntimeEventEnvelope := lane.state.elim [] SessionRuntimeState.mailbox

/-- The batches of all runs, one after the other. -/
def consumed : List RuntimeEventEnvelope := lane.activations.flatMap Prod.snd

/-- The mail of every handled event, in the order of handling. -/
def handledMail : List RuntimeEventEnvelope :=
  ((lane.dispatched ++ lane.handler.handled).filter RuntimeEvent.isMail).map .fromRuntimeEvent

/-- Program points between which mail is put in the mailbox: a handler that suspends has an event
of another kind, or has not put its event there. -/
structure MailOrder (lane : SessionLane) : Prop where
  kept : lane.consumed ++ lane.mailbox = lane.mailed
  handled : lane.mailed = lane.handledMail
  persisting : ∀ event, lane.handler = .persisting event → event.isMail = true
  suspended : ∀ event, lane.handler = .resolving event ∨ lane.handler = .turning event ∨
    lane.handler = .plugin event → event.isMail = false

variable {lane} {sessionId : String}

/-- A wakeup is no mail. -/
theorem isMail_of_wakeup {event : RuntimeEvent}
    (named : event.typeValue = EventType.wakeupRequested.value) : event.isMail = false := by
  rw [RuntimeEvent.isMail, named]
  decide

/-- A wakeup request only sets a flag and publishes. -/
theorem requestWakeupIfNeeded_mail (lane : SessionLane) (sessionId : String)
    (reason : WakeupReason) (source : String) (stamp : Stamp) :
    (lane.requestWakeupIfNeeded sessionId reason source stamp).mailbox = lane.mailbox ∧
      (lane.requestWakeupIfNeeded sessionId reason source stamp).activations = lane.activations ∧
      (lane.requestWakeupIfNeeded sessionId reason source stamp).mailed = lane.mailed ∧
      (lane.requestWakeupIfNeeded sessionId reason source stamp).dispatched = lane.dispatched := by
  rcases lane.requestWakeupIfNeeded_cases sessionId reason source stamp with
    ⟨unchanged, _⟩ | ⟨state, stored, requested⟩
  · rw [unchanged]
    exact ⟨rfl, rfl, rfl, rfl⟩
  · rw [requested]
    refine ⟨?_, rfl, rfl, rfl⟩
    rw [mailbox, mailbox, stored]
    rfl

/-- Enqueueing appends to the mailbox, creating the state when there is none. -/
theorem enqueueEvent_mailbox (lane : SessionLane) (event : RuntimeEvent) (now : Nat) :
    (lane.enqueueEvent event now).mailbox = lane.mailbox ++ [.fromRuntimeEvent event] := by
  unfold mailbox enqueueEvent getOrCreateState
  cases lane.state <;> rfl

/-- The acquiring block moves the mailbox into the batch of the run, or leaves it. -/
theorem handleWakeupRequested_mail (lane : SessionLane) (event : RuntimeEvent) (now : Nat) :
    (lane.handleWakeupRequested event now).consumed ++
        (lane.handleWakeupRequested event now).mailbox = lane.consumed ++ lane.mailbox ∧
      (lane.handleWakeupRequested event now).mailed = lane.mailed ∧
      (lane.handleWakeupRequested event now).dispatched = lane.dispatched ∧
      ((lane.handleWakeupRequested event now).handler = .returned event ∨
        (lane.handleWakeupRequested event now).handler = .resolving event ∨
        (lane.handleWakeupRequested event now).handler = .turning event) := by
  unfold SessionLane.handleWakeupRequested
  cases stored : lane.state with
  | none => exact ⟨by simp only [consumed, mailbox, stored], rfl, rfl, Or.inl rfl⟩
  | some state =>
      simp only
      split
      · exact ⟨by simp only [consumed, mailbox, stored, Option.elim], rfl, rfl, Or.inl rfl⟩
      · split
        · exact ⟨by simp only [consumed, mailbox, stored, Option.elim], rfl, rfl, Or.inl rfl⟩
        · split
          · refine ⟨?_, rfl, rfl, Or.inl rfl⟩
            simp only [consumed, mailbox, stored, Option.elim, SessionRuntimeState.touch]
          · refine ⟨?_, rfl, rfl, Or.inr ?_⟩
            · simp only [consumed, mailbox, stored, Option.elim, List.flatMap_append,
                List.flatMap_singleton, SessionRuntimeState.consumeMailbox, List.append_nil]
            · simp only
              split
              · exact Or.inl rfl
              · exact Or.inr rfl

/-- The final block drops a state with an empty mailbox only. -/
theorem finishRun_mail (lane : SessionLane) (event : RuntimeEvent) (stamp : Stamp) :
    (lane.finishRun event stamp).mailbox = lane.mailbox ∧
      (lane.finishRun event stamp).activations = lane.activations ∧
      (lane.finishRun event stamp).mailed = lane.mailed ∧
      (lane.finishRun event stamp).dispatched = lane.dispatched ∧
      (lane.finishRun event stamp).handler = .returned event := by
  unfold SessionLane.finishRun
  cases stored : lane.state with
  | none => exact ⟨by simp only [mailbox, stored], rfl, rfl, rfl, rfl⟩
  | some running =>
      have whole : lane.mailbox = running.mailbox := by rw [mailbox, stored]; rfl
      rw [whole]
      simp only
      split
      · split <;> exact ⟨rfl, rfl, rfl, rfl, rfl⟩
      · split
        · rename_i empty
          refine ⟨?_, rfl, rfl, rfl, rfl⟩
          rw [Bool.not_eq_true'] at empty
          have none_left : running.mailbox = [] :=
            SessionRuntimeState.hasMailboxEvents_eq_false_iff.mp empty
          rw [none_left]
          rfl
        · exact ⟨rfl, rfl, rfl, rfl, rfl⟩

/-- A step keeps the order when the mail it adds to the mailbox is that of the handler that
returns in it. -/
theorem MailOrder.add (order : lane.MailOrder) {next : SessionLane} (added : List RuntimeEvent)
    (kept : next.consumed ++ next.mailbox =
      lane.consumed ++ lane.mailbox ++ added.map .fromRuntimeEvent)
    (mailed : next.mailed = lane.mailed ++ added.map .fromRuntimeEvent)
    (handled : (next.dispatched ++ next.handler.handled).filter RuntimeEvent.isMail =
      (lane.dispatched ++ lane.handler.handled).filter RuntimeEvent.isMail ++ added)
    (persisting : ∀ event, next.handler = .persisting event → event.isMail = true)
    (suspended : ∀ event, next.handler = .resolving event ∨ next.handler = .turning event ∨
      next.handler = .plugin event → event.isMail = false) : next.MailOrder where
  kept := by rw [kept, order.kept, mailed]
  handled := by rw [mailed, order.handled, handledMail, handledMail, handled, List.map_append]
  persisting := persisting
  suspended := suspended

/-- A step that leaves the mailbox, the batches and the handled events alone. -/
theorem MailOrder.frame (order : lane.MailOrder) {next : SessionLane}
    (mailbox : next.mailbox = lane.mailbox) (activations : next.activations = lane.activations)
    (mailed : next.mailed = lane.mailed) (dispatched : next.dispatched = lane.dispatched)
    (handler : next.handler = lane.handler) : next.MailOrder := by
  refine order.add [] ?_ ?_ ?_ ?_ ?_
  · rw [consumed, activations, mailbox, List.map_nil, List.append_nil, consumed]
  · rw [mailed, List.map_nil, List.append_nil]
  · rw [dispatched, handler, List.append_nil]
  · rw [handler]
    exact order.persisting
  · rw [handler]
    exact order.suspended

/-- A handler that has nothing to enqueue moves on. -/
theorem MailOrder.move (order : lane.MailOrder) {next : SessionLane} {event : RuntimeEvent}
    (mailbox : next.consumed ++ next.mailbox = lane.consumed ++ lane.mailbox)
    (mailed : next.mailed = lane.mailed) (dispatched : next.dispatched = lane.dispatched)
    (waiting : lane.handler.handled = []) (other : event.isMail = false)
    (handler : next.handler = .returned event ∨ next.handler = .resolving event ∨
      next.handler = .turning event ∨ next.handler = .plugin event) : next.MailOrder := by
  refine order.add [] ?_ ?_ ?_ ?_ ?_
  · rw [mailbox, List.map_nil, List.append_nil]
  · rw [mailed, List.map_nil, List.append_nil]
  · rw [dispatched, waiting, List.filter_append, List.filter_append]
    have silent : next.handler.handled.filter RuntimeEvent.isMail = [] := by
      rcases handler with point | point | point | point <;> rw [point]
      · exact List.filter_singleton.trans (by rw [other]; rfl)
      all_goals rfl
    rw [silent, List.filter_nil, List.append_nil, List.append_nil]
  · intro persisted point
    rcases handler with moved | moved | moved | moved <;> rw [moved] at point <;> cases point
  · intro suspended point
    rcases handler with moved | moved | moved | moved <;> rw [moved] at point <;>
      rcases point with point | point | point <;> cases point <;> exact other

/-- The handler of a mail event puts it in the mailbox and returns. -/
theorem MailOrder.enqueue (order : lane.MailOrder) {next : SessionLane} {event : RuntimeEvent}
    (now : Nat) (mail : event.isMail = true) (waiting : lane.handler.handled = [])
    (mailbox : next.mailbox = (lane.enqueueEvent event now).mailbox)
    (activations : next.activations = lane.activations)
    (mailed : next.mailed = lane.mailed ++ [.fromRuntimeEvent event])
    (dispatched : next.dispatched = lane.dispatched)
    (returned : next.handler = .returned event) : next.MailOrder := by
  refine order.add [event] ?_ mailed ?_ ?_ ?_
  · rw [consumed, activations, mailbox, enqueueEvent_mailbox, consumed, List.append_assoc]
    rfl
  · have own : [event].filter RuntimeEvent.isMail = [event] :=
      List.filter_singleton.trans (by rw [mail]; rfl)
    rw [dispatched, returned, waiting, List.append_nil, List.filter_append]
    exact congrArg _ own
  · rw [returned]
    exact nofun
  · rw [returned]
    exact nofun

/-- A message of the user is put into the mailbox like another event. -/
theorem enqueueUserMessage_mail (lane : SessionLane) (event : RuntimeEvent) (now : Nat) :
    (lane.enqueueUserMessage event now).mailbox = (lane.enqueueEvent event now).mailbox ∧
      (lane.enqueueUserMessage event now).activations = lane.activations ∧
      (lane.enqueueUserMessage event now).mailed = lane.mailed ++ [.fromRuntimeEvent event] ∧
      (lane.enqueueUserMessage event now).dispatched = lane.dispatched := by
  unfold SessionLane.enqueueUserMessage
  split <;> exact ⟨rfl, rfl, rfl, rfl⟩

/-- Handling a message of the user keeps the mail in order. -/
theorem MailOrder.handleUserMessage (order : lane.MailOrder) {event : RuntimeEvent}
    (received : lane.handler = .received event) (mail : event.isMail = true) (now : Nat) :
    (lane.handleUserMessage event now).MailOrder := by
  have waiting : lane.handler.handled = [] := by rw [received]; rfl
  unfold SessionLane.handleUserMessage
  split
  · refine ⟨order.kept, ?_, ?_, nofun⟩
    · rw [order.handled, handledMail, received]
      rfl
    · rintro _ ⟨rfl⟩
      exact mail
  · obtain ⟨mailbox, activations, mailed, dispatched⟩ := lane.enqueueUserMessage_mail event now
    exact order.enqueue now mail waiting mailbox activations mailed dispatched rfl

/-- Handling a completed subtask keeps the mail in order. -/
theorem MailOrder.handleSubtaskCompleted (order : lane.MailOrder) {event : RuntimeEvent}
    (received : lane.handler = .received event) (mail : event.isMail = true) (stamp : Stamp) :
    (lane.handleSubtaskCompleted event stamp).MailOrder := by
  have waiting : lane.handler.handled = [] := by rw [received]; rfl
  unfold SessionLane.handleSubtaskCompleted
  split
  · obtain ⟨mailbox, activations, mailed, dispatched⟩ :=
      (lane.enqueueEvent event stamp.now).requestWakeupIfNeeded_mail event.sessionId
        .subtaskCompleted "subtask_completed" stamp
    exact order.enqueue stamp.now mail waiting mailbox activations mailed dispatched rfl
  · exact order.enqueue stamp.now mail waiting rfl rfl rfl rfl rfl

/-- Handling an event keeps the mail in order. -/
theorem MailOrder.onEvent (order : lane.MailOrder) {event : RuntimeEvent}
    (received : lane.handler = .received event) (stamp : Stamp) :
    (lane.onEvent event stamp).MailOrder := by
  have waiting : lane.handler.handled = [] := by rw [received]; rfl
  unfold SessionLane.onEvent
  split
  · rename_i message
    exact order.handleUserMessage received (by rw [RuntimeEvent.isMail, message]; rfl) stamp.now
  · split
    · rename_i completed
      have mail : event.isMail = true := by rw [RuntimeEvent.isMail, completed]; rfl
      exact order.handleSubtaskCompleted received mail stamp
    · split
      · rename_i wakeup
        obtain ⟨mailbox, mailed, dispatched, moved⟩ :=
          lane.handleWakeupRequested_mail event stamp.now
        refine order.move mailbox mailed dispatched waiting (isMail_of_wakeup wakeup) ?_
        rcases moved with returned | resolving | turning
        · exact Or.inl returned
        · exact Or.inr (Or.inl resolving)
        · exact Or.inr (Or.inr (Or.inl turning))
      · rename_i message completed _
        have other : event.isMail = false := by
          rw [RuntimeEvent.isMail, Bool.or_eq_false_iff, decide_eq_false_iff_not,
            decide_eq_false_iff_not]
          exact ⟨message, completed⟩
        exact order.move rfl rfl rfl waiting other (Or.inr (Or.inr (Or.inr rfl)))

/-- Every step of any actor keeps the mail in order. -/
theorem MailOrder.step (order : lane.MailOrder) {action : SchedulerAction}
    {next : SessionLane} (stepped : lane.step sessionId action = some next) :
    next.MailOrder := by
  have effect := step_cases stepped
  cases action with
  | publish event =>
      obtain ⟨_, rfl⟩ := effect
      exact order.frame rfl rfl rfl rfl rfl
  | deliver =>
      obtain ⟨event, rest, idle, _, rfl⟩ := effect
      refine ⟨order.kept, ?_, nofun, nofun⟩
      rw [order.handled, handledMail, idle]
      rfl
  | handle stamp =>
      obtain ⟨event, received, rfl⟩ := effect
      exact order.onEvent received stamp
  | persisted stamp =>
      obtain ⟨event, persisting, rfl⟩ := effect
      obtain ⟨mailbox, activations, mailed, dispatched⟩ :=
        lane.enqueueUserMessage_mail event stamp.now
      exact order.enqueue stamp.now (order.persisting event persisting) (by rw [persisting]; rfl)
        mailbox activations mailed dispatched rfl
  | resolved =>
      obtain ⟨event, resolving, rfl⟩ := effect
      exact order.move rfl rfl rfl (by rw [resolving]; rfl)
        (order.suspended event (Or.inl resolving)) (Or.inr (Or.inr (Or.inl rfl)))
  | turnEnded stamp =>
      obtain ⟨event, turning, rfl⟩ := effect
      obtain ⟨mailbox, activations, mailed, dispatched, returned⟩ := lane.finishRun_mail event stamp
      exact order.move (by rw [consumed, activations, mailbox, consumed]) mailed dispatched
        (by rw [turning]; rfl) (order.suspended event (Or.inr (Or.inl turning))) (Or.inl returned)
  | dispatched =>
      obtain ⟨event, dispatching, rfl⟩ := effect
      exact order.move rfl rfl rfl (by rw [dispatching]; rfl)
        (order.suspended event (Or.inr (Or.inr dispatching))) (Or.inl rfl)
  | finish =>
      obtain ⟨event, returned, rfl⟩ := effect
      refine ⟨order.kept, ?_, nofun, nofun⟩
      rw [order.handled, handledMail, returned, handledMail]
      simp only [HandlerState.handled, List.append_nil]
  | debounce task stamp =>
      obtain ⟨_, rfl⟩ := effect
      obtain ⟨mailbox, activations, mailed, dispatched⟩ :=
        lane.requestWakeupIfNeeded_mail sessionId .userMessage "debounce_timer" stamp
      exact order.frame mailbox activations mailed dispatched
        (lane.requestWakeupIfNeeded_handler sessionId .userMessage "debounce_timer" stamp)
  | watchdog stamp =>
      cases effect
      obtain ⟨mailbox, activations, mailed, dispatched⟩ :=
        lane.requestWakeupIfNeeded_mail sessionId .system "heartbeat_watchdog" stamp
      exact order.frame mailbox activations mailed dispatched
        (lane.requestWakeupIfNeeded_handler sessionId .system "heartbeat_watchdog" stamp)
  | beat now =>
      obtain ⟨event, _, rfl⟩ := effect
      refine order.frame ?_ rfl rfl rfl rfl
      unfold mailbox getOrCreateState
      cases lane.state <;> rfl

/-- The mail is in order in every reachable state. -/
theorem mailOrder_of_reachable {guard : Machine.Guard SessionLane SchedulerAction}
    (reached : (machine sessionId).Reachable guard lane) : lane.MailOrder := by
  apply reached.invariant
  · rintro _ rfl
    exact ⟨rfl, rfl, nofun, nofun⟩
  · intro before action after order _ stepped
    exact order.step stepped

/-- Without a state there is no mail. -/
theorem mailbox_of_state_none (stateless : lane.state = none) : lane.mailbox = [] := by
  rw [mailbox, stateless]
  rfl

/-- With mail that was put into it there is a state. -/
theorem state_ne_none_of_enqueued {next : SessionLane} {event : RuntimeEvent} {now : Nat}
    (enqueued : next.mailbox = (lane.enqueueEvent event now).mailbox) : next.state ≠ none := by
  intro stateless
  rw [mailbox_of_state_none stateless, enqueueEvent_mailbox] at enqueued
  exact List.cons_ne_nil _ _ (List.append_eq_nil_iff.mp enqueued.symm).2

/-- Handling an event leaves no state only where there was none. -/
theorem state_of_onEvent_dropped {event : RuntimeEvent} {stamp : Stamp}
    (dropped : (lane.onEvent event stamp).state = none) : lane.state = none := by
  unfold SessionLane.onEvent at dropped
  split at dropped
  · unfold SessionLane.handleUserMessage at dropped
    split at dropped
    · exact dropped
    · obtain ⟨enqueued, _⟩ := lane.enqueueUserMessage_mail event stamp.now
      exact (state_ne_none_of_enqueued enqueued dropped).elim
  · split at dropped
    · unfold SessionLane.handleSubtaskCompleted at dropped
      simp only at dropped
      split at dropped
      · obtain ⟨enqueued, _⟩ := (lane.enqueueEvent event stamp.now).requestWakeupIfNeeded_mail
          event.sessionId .subtaskCompleted "subtask_completed" stamp
        exact (state_ne_none_of_enqueued enqueued dropped).elim
      · cases dropped
    · split at dropped
      · cases stored : lane.state with
        | none => rfl
        | some state =>
            simp only [SessionLane.handleWakeupRequested, stored] at dropped
            split at dropped
            · cases dropped
            · split at dropped
              · cases dropped
              · split at dropped <;> cases dropped
      · exact dropped

/-- Asking for a wakeup takes no state away. -/
theorem state_of_requestWakeup_dropped {reason : WakeupReason} {source : String} {stamp : Stamp}
    (dropped : (lane.requestWakeupIfNeeded sessionId reason source stamp).state = none) :
    lane.state = none := by
  rcases lane.requestWakeupIfNeeded_cases sessionId reason source stamp with
    ⟨unchanged, _⟩ | ⟨state, _, requested⟩
  · rw [unchanged] at dropped
    exact dropped
  · rw [requested] at dropped
    cases dropped

/-- Only the end of a run drops a state. -/
theorem state_of_dropped {action : SchedulerAction} {next : SessionLane}
    (stepped : lane.step sessionId action = some next) (dropped : next.state = none)
    (goesOn : ∀ stamp, action ≠ .turnEnded stamp) : lane.state = none := by
  have effect := step_cases stepped
  cases action with
  | publish =>
      obtain ⟨_, rfl⟩ := effect
      exact dropped
  | deliver =>
      obtain ⟨_, _, _, _, rfl⟩ := effect
      exact dropped
  | handle stamp =>
      obtain ⟨event, _, rfl⟩ := effect
      exact state_of_onEvent_dropped dropped
  | persisted stamp =>
      obtain ⟨event, _, rfl⟩ := effect
      obtain ⟨enqueued, _⟩ := lane.enqueueUserMessage_mail event stamp.now
      exact (state_ne_none_of_enqueued enqueued dropped).elim
  | resolved | dispatched | finish =>
      obtain ⟨_, _, rfl⟩ := effect
      exact dropped
  | turnEnded stamp => exact (goesOn stamp rfl).elim
  | debounce task stamp =>
      obtain ⟨_, rfl⟩ := effect
      exact state_of_requestWakeup_dropped dropped
  | watchdog stamp =>
      cases effect
      exact state_of_requestWakeup_dropped dropped
  | beat =>
      obtain ⟨_, _, rfl⟩ := effect
      cases dropped

/-- A step after which there is no state starts with an empty mailbox. -/
theorem mailbox_of_dropped {action : SchedulerAction} {next : SessionLane}
    (stepped : lane.step sessionId action = some next) (dropped : next.state = none) :
    lane.mailbox = [] := by
  by_cases ended : ∃ stamp, action = .turnEnded stamp
  · obtain ⟨stamp, rfl⟩ := ended
    obtain ⟨event, _, rfl⟩ := step_cases stepped
    rw [← (lane.finishRun_mail event stamp).1]
    exact mailbox_of_state_none dropped
  · exact mailbox_of_state_none (state_of_dropped stepped dropped (not_exists.mp ended))

end SessionLane

/-- **Mail is consumed once and in order.** In every state the scheduler reaches and for every
session, the batches that its runs consumed followed by its mailbox are the mail events handled
for it, and a step drops its state only over an empty mailbox. -/
theorem scheduler_mailbox_once (lanes : String → SessionLane)
    (reached : scheduler.Reachable Machine.anyStep lanes) (sessionId : String) :
    (lanes sessionId).consumed ++ (lanes sessionId).mailbox = (lanes sessionId).handledMail ∧
      ∀ action next, scheduler.step lanes action = some next →
        (next sessionId).state = none → (lanes sessionId).mailbox = [] := by
  have order := SessionLane.mailOrder_of_reachable (Machine.perKey_reachable reached sessionId)
  refine ⟨order.kept.trans order.handled, ?_⟩
  rintro ⟨key, action⟩ next stepped dropped
  obtain ⟨after, moves, rfl⟩ := Machine.perKey_step_eq_some.mp stepped
  by_cases same : sessionId = key
  · subst same
    rw [Function.update_self] at dropped
    exact SessionLane.mailbox_of_dropped moves dropped
  · rw [Function.update_of_ne same] at dropped
    rw [SessionLane.mailbox, dropped]
    rfl

/-- A message is taken up by a turn, the state of its session is dropped, and a second message
makes a new one. -/
def consumingRun : List (String × SchedulerAction) :=
  [("s", .publish
      { type := .builtin .userMessageReceived, sessionId := "s", id := "1", timestamp := 1 }),
    ("s", .deliver), ("s", .handle { id := "2", now := 2 }), ("s", .finish),
    ("s", .debounce 0 { id := "3", now := 3 }), ("s", .publish
      { type := .builtin .userMessageReceived, sessionId := "s", id := "4", timestamp := 4 }),
    ("s", .deliver), ("s", .handle { id := "5", now := 5 }),
    ("s", .turnEnded { id := "6", now := 6 }), ("s", .finish), ("s", .deliver),
    ("s", .handle { id := "7", now := 7 })]

/-- The lanes after the run. -/
def consumingLanes : String → SessionLane :=
  (scheduler.replay Machine.anyStep (fun _ => {}) consumingRun).getD fun _ => {}

/-- The mail of the run: one batch is consumed, and the second message waits. -/
theorem mailbox_once_of_consumingRun :
    (consumingLanes "s").consumed ++ (consumingLanes "s").mailbox =
        (consumingLanes "s").handledMail ∧
      (consumingLanes "s").consumed.length = 1 ∧ (consumingLanes "s").mailbox.length = 1 := by
  have replayed : scheduler.replay Machine.anyStep (fun _ => {}) consumingRun =
      some consumingLanes := rfl
  have reached := Machine.Reachable.of_replay (fun _ => rfl) replayed
  exact ⟨(scheduler_mailbox_once consumingLanes reached "s").1, by decide, by decide⟩

end FairyClaw
