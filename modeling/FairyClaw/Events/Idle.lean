import FairyClaw.Events.ExplicitWakeup

/-! # Idle detection

A headless run takes an empty table of session states for the end of all turns. The end of a run
drops the state of its session, and looks at no event on the bus: a follow-up of the turn, or a
message to another session, may still wait there, and another turn starts from the empty table
(`FairyClaw.idle_over_followUp`). In runs in which no turn ends over an event for its own session
or for a session without a state, an empty table is idle as soon as the messages published over an
empty table have been taken up (`FairyClaw.scheduler_idle_detection`).
-/

namespace FairyClaw

open Foundation

/-- Events that lead to a planner turn. -/
def RuntimeEvent.startsTurn (event : RuntimeEvent) : Bool :=
  event.isMail || event.typeValue = EventType.wakeupRequested.value

/-- The event of a handler that has not returned. -/
def HandlerState.handling : HandlerState → List RuntimeEvent
  | idle | returned _ => []
  | received event | persisting event | resolving event | turning event | plugin event => [event]

/-- The events being handled or on the bus. -/
def SessionLane.pending (lane : SessionLane) : List RuntimeEvent :=
  lane.handler.handling ++ lane.queued

/-- No event that starts a turn is on the bus or being handled. -/
def SessionLane.Quiet (lane : SessionLane) : Prop :=
  ∀ event ∈ lane.pending, event.startsTurn = false

/-- `session_states` is empty. -/
def AllIdle (lanes : String → SessionLane) : Prop := ∀ sessionId, (lanes sessionId).state = none

/-- A turn ends only while no event that starts a turn is queued for its own session, or is
pending for another session without a state. -/
def EndsTakenUp (lanes : String → SessionLane) : String × SchedulerAction → Prop
  | (sessionId, .turnEnded _) =>
      (∀ event ∈ (lanes sessionId).queued, event.startsTurn = false) ∧
        ∀ other, other ≠ sessionId → (lanes other).state = none → (lanes other).Quiet
  | _ => True

/-- The action publishes an event that starts a turn. -/
def SchedulerAction.newMessage : SchedulerAction → Bool
  | publish event => event.startsTurn
  | _ => false

/-- The step publishes no event that starts a turn. -/
def NoNewMessage (_ : String → SessionLane) (action : String × SchedulerAction) : Prop :=
  action.2.newMessage = false

instance : DecidableRel NoNewMessage := fun _ action =>
  inferInstanceAs (Decidable (action.2.newMessage = false))

namespace SessionLane

variable {lane next : SessionLane} {sessionId : String}

/-- Without a state no wakeup is asked for. -/
theorem requestWakeupIfNeeded_of_none (stateless : lane.state = none) (reason : WakeupReason)
    (source : String) (stamp : Stamp) :
    lane.requestWakeupIfNeeded sessionId reason source stamp = lane := by
  rw [SessionLane.requestWakeupIfNeeded, stateless]

/-- Events of other kinds go to the plugins. -/
theorem onEvent_of_not_startsTurn {event : RuntimeEvent} (other : event.startsTurn = false)
    (stamp : Stamp) : lane.onEvent event stamp = { lane with handler := .plugin event } := by
  simp only [RuntimeEvent.startsTurn, RuntimeEvent.isMail, Bool.or_eq_false_iff,
    decide_eq_false_iff_not] at other
  obtain ⟨⟨message, completed⟩, wakeup⟩ := other
  rw [SessionLane.onEvent, if_neg message, if_neg completed, if_neg wakeup]

/-- The end of a run over an empty mailbox drops the state. -/
theorem finishRun_of_empty (empty : lane.mailbox = []) (event : RuntimeEvent) (stamp : Stamp) :
    lane.finishRun event stamp = { lane with state := none, handler := .returned event } := by
  unfold SessionLane.finishRun
  cases stored : lane.state with
  | none => simp only
  | some running =>
      rw [mailbox, stored] at empty
      have none_left : running.mailbox = [] := empty
      simp only [SessionRuntimeState.touch, SessionRuntimeState.hasMailboxEvents, none_left,
        List.length_nil, Nat.lt_irrefl, decide_false, Bool.false_and, Bool.false_eq_true,
        Bool.not_false, ↓reduceIte]

/-- Without a state there is no run. -/
theorem Coordinated.not_active (valid : lane.Coordinated sessionId) (stateless : lane.state = none)
    {event : RuntimeEvent} (current : lane.handler.current = some event) :
    lane.handler.activation ≠ some event.sessionId := by
  intro active
  rw [valid.currentOwn event current] at active
  obtain ⟨state, stored, _⟩ := flag_eq_true_iff.mp (valid.inflight.mpr active)
  rw [stateless] at stored
  cases stored

/-- An event whose handling leaves the session without a state stays pending, or is done with. -/
theorem pending_onEvent (stateless : lane.state = none) {head : RuntimeEvent}
    (received : lane.handler = .received head) {stamp : Stamp}
    (still : (lane.onEvent head stamp).state = none) {event : RuntimeEvent}
    (waits : event ∈ (lane.onEvent head stamp).pending) : event ∈ lane.pending := by
  have whole : lane.pending = head :: lane.queued := by rw [pending, received]; rfl
  unfold SessionLane.onEvent at still waits
  by_cases message : head.typeValue = EventType.userMessageReceived.value
  · rw [if_pos message] at still waits
    unfold SessionLane.handleUserMessage at still waits
    cases written : internalUserText head with
    | some text =>
        rw [written] at waits
        exact whole ▸ waits
    | none =>
        rw [written] at still
        obtain ⟨enqueued, _⟩ := lane.enqueueUserMessage_mail head stamp.now
        exact (state_ne_none_of_enqueued enqueued still).elim
  · rw [if_neg message] at still waits
    by_cases completed : head.typeValue = EventType.subtaskCompleted.value
    · rw [if_pos completed] at still
      unfold SessionLane.handleSubtaskCompleted at still
      simp only at still
      split at still
      · obtain ⟨enqueued, _⟩ := (lane.enqueueEvent head stamp.now).requestWakeupIfNeeded_mail
          head.sessionId .subtaskCompleted "subtask_completed" stamp
        exact (state_ne_none_of_enqueued enqueued still).elim
      · cases still
    · rw [if_neg completed] at waits
      by_cases wakeup : head.typeValue = EventType.wakeupRequested.value
      · rw [if_pos wakeup, SessionLane.handleWakeupRequested, stateless] at waits
        exact List.mem_append_right _ waits
      · rw [if_neg wakeup] at waits
        exact whole ▸ waits

/-- A step of a session that has and gets no state leaves pending what was pending and what it
publishes. -/
theorem Coordinated.pending_step (valid : lane.Coordinated sessionId) (stateless : lane.state = none)
    {action : SchedulerAction} (stepped : lane.step sessionId action = some next)
    (still : next.state = none) {event : RuntimeEvent} (waits : event ∈ next.pending) :
    event ∈ lane.pending ∨ action = .publish event := by
  have queuedOnly (member : event ∈ lane.queued) : event ∈ lane.pending :=
    List.mem_append_right _ member
  have effect := step_cases stepped
  cases action with
  | publish added =>
      obtain ⟨_, rfl⟩ := effect
      rw [pending, SessionLane.publish, ← List.append_assoc] at waits
      rcases List.mem_append.mp waits with earlier | new
      · exact Or.inl earlier
      · exact Or.inr (congrArg _ (List.mem_singleton.mp new).symm)
  | deliver =>
      obtain ⟨head, rest, idle, queued, rfl⟩ := effect
      refine Or.inl ?_
      rw [pending, idle, queued]
      exact waits
  | handle stamp =>
      obtain ⟨head, received, rfl⟩ := effect
      exact Or.inl (pending_onEvent stateless received still waits)
  | persisted stamp =>
      obtain ⟨head, _, rfl⟩ := effect
      obtain ⟨enqueued, _⟩ := lane.enqueueUserMessage_mail head stamp.now
      exact (state_ne_none_of_enqueued enqueued still).elim
  | resolved =>
      obtain ⟨head, resolving, rfl⟩ := effect
      exact (valid.not_active stateless (by rw [resolving]; rfl) (by rw [resolving]; rfl)).elim
  | turnEnded stamp =>
      obtain ⟨head, turning, rfl⟩ := effect
      exact (valid.not_active stateless (by rw [turning]; rfl) (by rw [turning]; rfl)).elim
  | dispatched | finish =>
      obtain ⟨_, _, rfl⟩ := effect
      exact Or.inl (queuedOnly waits)
  | debounce task stamp =>
      obtain ⟨_, rfl⟩ := effect
      unfold SessionLane.runUserMessageDebounce at waits
      rw [requestWakeupIfNeeded_of_none stateless] at waits
      exact Or.inl waits
  | watchdog stamp =>
      cases effect
      rw [requestWakeupIfNeeded_of_none stateless] at waits
      exact Or.inl waits
  | beat now =>
      obtain ⟨head, turning, rfl⟩ := effect
      exact (valid.not_active stateless (by rw [turning]; rfl) (by rw [turning]; rfl)).elim

/-- A quiet session without a state gets none, and starts no turn, until an event that starts a
turn is published. -/
theorem Quiet.stateless_step (quiet : lane.Quiet) (valid : lane.Coordinated sessionId)
    (order : lane.MailOrder) (stateless : lane.state = none) {action : SchedulerAction}
    (stepped : lane.step sessionId action = some next) :
    next.state = none ∧ next.activations = lane.activations := by
  have effect := step_cases stepped
  cases action with
  | publish event =>
      obtain ⟨_, rfl⟩ := effect
      exact ⟨stateless, rfl⟩
  | deliver =>
      obtain ⟨_, _, _, _, rfl⟩ := effect
      exact ⟨stateless, rfl⟩
  | handle stamp =>
      obtain ⟨event, received, rfl⟩ := effect
      have other := quiet event (by rw [pending, received]; exact List.mem_cons_self)
      rw [onEvent_of_not_startsTurn other]
      exact ⟨stateless, rfl⟩
  | persisted stamp =>
      obtain ⟨event, persisting, rfl⟩ := effect
      have other := quiet event (by rw [pending, persisting]; exact List.mem_cons_self)
      rw [RuntimeEvent.startsTurn, order.persisting event persisting] at other
      cases other
  | resolved =>
      obtain ⟨event, resolving, rfl⟩ := effect
      exact (valid.not_active stateless (by rw [resolving]; rfl) (by rw [resolving]; rfl)).elim
  | turnEnded stamp =>
      obtain ⟨event, turning, rfl⟩ := effect
      exact (valid.not_active stateless (by rw [turning]; rfl) (by rw [turning]; rfl)).elim
  | dispatched | finish =>
      obtain ⟨_, _, rfl⟩ := effect
      exact ⟨stateless, rfl⟩
  | debounce task stamp =>
      obtain ⟨_, rfl⟩ := effect
      unfold SessionLane.runUserMessageDebounce
      rw [requestWakeupIfNeeded_of_none stateless]
      exact ⟨stateless, rfl⟩
  | watchdog stamp =>
      cases effect
      rw [requestWakeupIfNeeded_of_none stateless]
      exact ⟨stateless, rfl⟩
  | beat now =>
      obtain ⟨event, turning, rfl⟩ := effect
      exact (valid.not_active stateless (by rw [turning]; rfl) (by rw [turning]; rfl)).elim

/-- A quiet session without a state stays so until an event that starts a turn is published. -/
theorem Quiet.step (quiet : lane.Quiet) (valid : lane.Coordinated sessionId)
    (order : lane.MailOrder) (stateless : lane.state = none) {action : SchedulerAction}
    (silent : action.newMessage = false) (stepped : lane.step sessionId action = some next) :
    next.Quiet ∧ next.state = none ∧ next.activations = lane.activations := by
  obtain ⟨still, same⟩ := quiet.stateless_step valid order stateless stepped
  refine ⟨fun event waits => ?_, still, same⟩
  rcases valid.pending_step stateless stepped still waits with earlier | rfl
  · exact quiet event earlier
  · exact silent

/-- While a run is in flight, the mailbox is empty: the handler of the session is taken. -/
def RunsAlone (lane : SessionLane) : Prop :=
  ∀ event, lane.handler = .resolving event ∨ lane.handler = .turning event → lane.mailbox = []

/-- A handler that has returned is in no run. -/
theorem runsAlone_of_returned {event : RuntimeEvent} (point : lane.handler = .returned event) :
    lane.RunsAlone := by
  rintro other (resolving | turning)
  · rw [point] at resolving
    cases resolving
  · rw [point] at turning
    cases turning

/-- A run that the handling of an event starts finds an empty mailbox. -/
theorem runsAlone_onEvent (valid : lane.Coordinated sessionId) (arranged : lane.Arranged)
    {event : RuntimeEvent} (received : lane.handler = .received event) (stamp : Stamp) :
    (lane.onEvent event stamp).RunsAlone := by
  have idle : lane.inflight = false := by
    rw [← Bool.not_eq_true, valid.inflight, received]
    exact nofun
  unfold SessionLane.onEvent
  split
  · unfold SessionLane.handleUserMessage
    split
    · rintro other (⟨⟨⟩⟩ | ⟨⟨⟩⟩)
    · exact runsAlone_of_returned rfl
  · split
    · exact runsAlone_of_returned rfl
    · split
      · rcases handleWakeupRequested_outcome arranged idle event stamp.now with
          ⟨_, state, result, _, _⟩ | ⟨_, state, point, result, empty, _, _⟩
        · rw [result]
          exact runsAlone_of_returned rfl
        · rw [result]
          exact fun _ _ => empty
      · rintro other (⟨⟨⟩⟩ | ⟨⟨⟩⟩)

/-- The mailbox of a run in flight stays empty. -/
theorem RunsAlone.step (alone : lane.RunsAlone) (valid : lane.Coordinated sessionId)
    (arranged : lane.Arranged) {action : SchedulerAction}
    (stepped : lane.step sessionId action = some next) : next.RunsAlone := by
  have effect := step_cases stepped
  cases action with
  | publish event =>
      obtain ⟨_, rfl⟩ := effect
      exact alone
  | deliver =>
      obtain ⟨_, _, _, _, rfl⟩ := effect
      rintro other (⟨⟨⟩⟩ | ⟨⟨⟩⟩)
  | handle stamp =>
      obtain ⟨event, received, rfl⟩ := effect
      exact runsAlone_onEvent valid arranged received stamp
  | persisted stamp =>
      obtain ⟨event, _, rfl⟩ := effect
      exact runsAlone_of_returned rfl
  | resolved =>
      obtain ⟨event, resolving, rfl⟩ := effect
      exact fun _ _ => alone event (Or.inl resolving)
  | turnEnded stamp =>
      obtain ⟨event, _, rfl⟩ := effect
      exact runsAlone_of_returned (lane.finishRun_mail event stamp).2.2.2.2
  | dispatched =>
      obtain ⟨event, _, rfl⟩ := effect
      exact runsAlone_of_returned rfl
  | finish =>
      obtain ⟨_, _, rfl⟩ := effect
      rintro other (⟨⟨⟩⟩ | ⟨⟨⟩⟩)
  | debounce task stamp =>
      obtain ⟨_, rfl⟩ := effect
      have same := (lane.requestWakeupIfNeeded_mail sessionId .userMessage "debounce_timer" stamp).1
      have point := lane.requestWakeupIfNeeded_handler sessionId .userMessage "debounce_timer" stamp
      exact fun event busy => same.trans (alone event (point ▸ busy))
  | watchdog stamp =>
      cases effect
      have same := (lane.requestWakeupIfNeeded_mail sessionId .system "heartbeat_watchdog" stamp).1
      have point := lane.requestWakeupIfNeeded_handler sessionId .system "heartbeat_watchdog" stamp
      exact fun event busy => same.trans (alone event (point ▸ busy))
  | beat now =>
      obtain ⟨event, turning, rfl⟩ := effect
      have empty := alone event (Or.inr turning)
      intro _ _
      unfold mailbox getOrCreateState
      cases stored : lane.state with
      | none => rfl
      | some state =>
          rw [mailbox, stored] at empty
          exact empty

/-- The mailbox of a run in flight is empty in every reachable state. -/
theorem runsAlone_of_reachable {guard : Machine.Guard SessionLane SchedulerAction}
    (reached : (machine sessionId).Reachable guard lane) : lane.RunsAlone := by
  let All (lane : SessionLane) :=
    (lane.Coordinated sessionId ∧ lane.Arranged) ∧ lane.RunsAlone
  suffices all : All lane from all.2
  apply reached.invariant
  · intro start begun
    have initial : (machine sessionId).Reachable guard start := .initial begun
    refine ⟨⟨coordinated_of_reachable initial, arranged_of_reachable initial⟩, ?_⟩
    cases begun
    rintro other (⟨⟨⟩⟩ | ⟨⟨⟩⟩)
  · intro before action after valid _ stepped
    exact ⟨⟨valid.1.1.step stepped, valid.1.2.step valid.1.1 stepped⟩,
      valid.2.step valid.1.1 valid.1.2 stepped⟩

/-- Hence the end of a run always drops the state. -/
theorem turnEnded_drops (reached : (machine sessionId).Reachable Machine.anyStep lane)
    {stamp : Stamp} (stepped : lane.step sessionId (.turnEnded stamp) = some next) :
    ∃ event, lane.handler = .turning event ∧
      next = { lane with state := none, handler := .returned event } := by
  obtain ⟨event, turning, rfl⟩ := step_cases stepped
  have empty := runsAlone_of_reachable reached event (Or.inr turning)
  exact ⟨event, turning, finishRun_of_empty empty event stamp⟩

end SessionLane

section Steps

variable {lanes next : String → SessionLane}

/-- What holds of each session in a reachable state. -/
theorem lanes_of_reachable {guard : Machine.Guard (String → SessionLane) (String × SchedulerAction)}
    (reached : scheduler.Reachable guard lanes) (sessionId : String) :
    (lanes sessionId).Coordinated sessionId ∧ (lanes sessionId).MailOrder :=
  ⟨SessionLane.coordinated_of_reachable (Machine.perKey_reachable reached sessionId),
    SessionLane.mailOrder_of_reachable (Machine.perKey_reachable reached sessionId)⟩

/-- Over a quiet bus and an empty table, nothing happens before a new event is published. -/
theorem settled_step (reached : scheduler.Reachable Machine.anyStep lanes) (idle : AllIdle lanes)
    (quiet : ∀ sessionId, (lanes sessionId).Quiet) {action : String × SchedulerAction}
    (silent : NoNewMessage lanes action) (stepped : scheduler.step lanes action = some next) :
    AllIdle next ∧ (∀ sessionId, (next sessionId).Quiet) ∧
      ∀ sessionId, (next sessionId).activations = (lanes sessionId).activations := by
  obtain ⟨key, act⟩ := action
  obtain ⟨after, moves, rfl⟩ := Machine.perKey_step_eq_some.mp stepped
  obtain ⟨valid, order⟩ := lanes_of_reachable reached key
  obtain ⟨still, stateless, same⟩ := (quiet key).step valid order (idle key) silent moves
  refine ⟨?_, ?_, ?_⟩
  · exact (Function.forall_update_iff lanes fun _ lane => lane.state = none).mpr
      ⟨stateless, fun other _ => idle other⟩
  · exact (Function.forall_update_iff lanes fun _ lane => lane.Quiet).mpr
      ⟨still, fun other _ => quiet other⟩
  · exact (Function.forall_update_iff lanes fun sessionId lane =>
      lane.activations = (lanes sessionId).activations).mpr ⟨same, fun _ _ => rfl⟩

/-- No turn starts from an empty table over a quiet bus before a new event is published. -/
theorem no_turn_without_message (reached : scheduler.Reachable Machine.anyStep lanes)
    (idle : AllIdle lanes) (quiet : ∀ sessionId, (lanes sessionId).Quiet)
    {later : String → SessionLane} (continued : scheduler.Steps NoNewMessage lanes later)
    (sessionId : String) : (later sessionId).activations = (lanes sessionId).activations := by
  let Settled (later : String → SessionLane) := scheduler.Reachable Machine.anyStep later ∧
    AllIdle later ∧ (∀ sessionId, (later sessionId).Quiet) ∧
    ∀ sessionId, (later sessionId).activations = (lanes sessionId).activations
  have settled : Settled later := by
    apply continued.invariant
    · rintro before action after ⟨reachable, still, quiet, same⟩ silent stepped
      obtain ⟨idleAfter, quietAfter, unchanged⟩ := settled_step reachable still quiet silent stepped
      exact ⟨reachable.tail trivial stepped, idleAfter, quietAfter,
        fun sessionId => (unchanged sessionId).trans (same sessionId)⟩
    · exact ⟨reached, idle, quiet, fun _ => rfl⟩
  exact settled.2.2.2 sessionId

/-- The table becomes empty by the end of a turn, over what the condition leaves pending. -/
theorem quiet_of_emptied (reached : scheduler.Reachable Machine.anyStep lanes)
    {action : String × SchedulerAction} (allowed : EndsTakenUp lanes action)
    (stepped : scheduler.step lanes action = some next) (busy : ¬AllIdle lanes)
    (idle : AllIdle next) (sessionId : String) : (next sessionId).Quiet := by
  obtain ⟨key, act⟩ := action
  obtain ⟨after, moves, rfl⟩ := Machine.perKey_step_eq_some.mp stepped
  obtain ⟨dropped, others⟩ := (Function.forall_update_iff lanes fun _ lane =>
    lane.state = none).mp idle
  by_cases ended : ∃ stamp, act = .turnEnded stamp
  · obtain ⟨stamp, rfl⟩ := ended
    obtain ⟨queued, rest⟩ := allowed
    obtain ⟨event, _, rfl⟩ := SessionLane.turnEnded_drops (Machine.perKey_reachable reached key) moves
    by_cases own : sessionId = key
    · subst own
      rw [Function.update_self]
      exact queued
    · rw [Function.update_of_ne own]
      exact rest sessionId own (others sessionId own)
  · refine (busy fun other => ?_).elim
    by_cases own : other = key
    · subst own
      exact SessionLane.state_of_dropped moves dropped (not_exists.mp ended)
    · exact others other own

/-- The condition names the defect: the last turn to end against it leaves an empty table over an
event that starts a turn and is still pending. -/
theorem overlooked_of_excluded (reached : scheduler.Reachable Machine.anyStep lanes) {key : String}
    {stamp : Stamp} (excluded : ¬EndsTakenUp lanes (key, .turnEnded stamp))
    (others : ∀ other, other ≠ key → (lanes other).state = none)
    (stepped : scheduler.step lanes (key, .turnEnded stamp) = some next) :
    AllIdle next ∧
      ∃ sessionId, ∃ event ∈ (next sessionId).pending, event.startsTurn = true := by
  obtain ⟨after, moves, rfl⟩ := Machine.perKey_step_eq_some.mp stepped
  obtain ⟨ended, _, rfl⟩ := SessionLane.turnEnded_drops (Machine.perKey_reachable reached key) moves
  refine ⟨(Function.forall_update_iff lanes fun _ lane => lane.state = none).mpr ⟨rfl, others⟩, ?_⟩
  by_contra allQuiet
  have quiet : ∀ sessionId, (Function.update lanes key
      { lanes key with state := none, handler := .returned ended } sessionId).Quiet := by
    intro sessionId event waits
    rw [← Bool.not_eq_true]
    exact fun starts => allQuiet ⟨sessionId, event, waits, starts⟩
  apply excluded
  refine ⟨?_, fun other different _ => ?_⟩
  · have own := quiet key
    rw [Function.update_self] at own
    exact own
  · have elsewhere := quiet other
    rw [Function.update_of_ne different] at elsewhere
    exact elsewhere

/-- In a run whose turns end only over events that are taken up, an event that starts a turn and is
pending under an empty table was published over an empty table. -/
theorem published_over_emptyTable {moments : List ((String → SessionLane) × String × SchedulerAction)}
    {final : String → SessionLane} (run : scheduler.Run EndsTakenUp moments final)
    (idle : AllIdle final) {sessionId : String} {event : RuntimeEvent}
    (waits : event ∈ (final sessionId).pending) (starts : event.startsTurn = true) :
    ∃ moment, (moment, (sessionId, .publish event)) ∈ moments ∧ AllIdle moment := by
  induction run with
  | start begun =>
      rw [begun sessionId] at waits
      cases waits
  | @tail moments before after action earlier allowed stepped ih =>
      have reached : scheduler.Reachable Machine.anyStep before :=
        earlier.reachable.mono fun _ _ _ => trivial
      by_cases halted : AllIdle before
      · have sooner (already : event ∈ (before sessionId).pending) :
            ∃ moment, (moment, (sessionId, .publish event)) ∈ moments ++ [(before, action)] ∧
              AllIdle moment := by
          obtain ⟨moment, member, empty⟩ := ih halted already
          exact ⟨moment, List.mem_append_left _ member, empty⟩
        obtain ⟨key, act⟩ := action
        obtain ⟨moved, moves, rfl⟩ := Machine.perKey_step_eq_some.mp stepped
        by_cases own : sessionId = key
        · subst own
          have still := idle sessionId
          rw [Function.update_self] at still waits
          obtain ⟨valid, _⟩ := lanes_of_reachable reached sessionId
          rcases valid.pending_step (halted sessionId) moves still waits with already | rfl
          · exact sooner already
          · exact ⟨before, List.mem_append_right _ (List.mem_singleton_self _), halted⟩
        · rw [Function.update_of_ne own] at waits
          exact sooner waits
      · have quiet := quiet_of_emptied reached allowed stepped halted idle sessionId event waits
        rw [quiet] at starts
        cases starts

end Steps

/-- The messages published over an empty table have been taken up by the handler of their session.
`_wait_scheduler_done` sleeps before its first test for this. -/
def Propagated (moments : List ((String → SessionLane) × String × SchedulerAction))
    (lanes : String → SessionLane) : Prop :=
  ∀ moment sessionId event, (moment, (sessionId, SchedulerAction.publish event)) ∈ moments →
    AllIdle moment → event.startsTurn = true → event ∉ (lanes sessionId).pending

/-- The event that a turn with tool calls publishes for the session to go on. -/
def followUp : RuntimeEvent :=
  { type := .builtin .userMessageReceived, sessionId := "s", source := "planner_followup",
    payload := [("internal_followup", .bool true), ("trigger_turn", .bool true)]
    id := "follow-up", timestamp := 5 }

/-- A session whose first turn is running. -/
def turningLane : SessionLane :=
  ((SessionLane.machine "s").replay Machine.anyStep {} [
    .publish { type := .builtin .userMessageReceived, sessionId := "s", id := "1", timestamp := 1 },
    .deliver, .handle { id := "2", now := 2 }, .finish, .debounce 0 { id := "3", now := 3 },
    .deliver, .handle { id := "4", now := 4 }]).getD {}

/-- The lane of one session, all others being as at the start. -/
def onlyLane (lane : SessionLane) : String → SessionLane := Function.update (fun _ => {}) "s" lane

/-- What a lane reaches, the scheduler with this lane alone reaches. -/
theorem onlyLane_reached {lane : SessionLane}
    (steps : (SessionLane.machine "s").Steps Machine.anyStep {} lane) :
    scheduler.Reachable Machine.anyStep (onlyLane lane) := by
  have lifted := Machine.Steps.perKey steps fun _ => {}
  rw [Function.update_eq_self] at lifted
  exact ⟨fun _ => {}, fun _ => rfl, lifted⟩

/-- The lane reaches its turn. -/
theorem turningLane_steps : (SessionLane.machine "s").Steps Machine.anyStep {} turningLane := by
  have replayed : (SessionLane.machine "s").replay Machine.anyStep {} [
      .publish { type := .builtin .userMessageReceived, sessionId := "s", id := "1", timestamp := 1 },
      .deliver, .handle { id := "2", now := 2 }, .finish, .debounce 0 { id := "3", now := 3 },
      .deliver, .handle { id := "4", now := 4 }] = some turningLane := rfl
  exact .of_replay replayed

/-- The turn ends with nothing on the bus. -/
def endedLane : SessionLane :=
  ((SessionLane.machine "s").step turningLane (.turnEnded { id := "6", now := 6 })).getD {}

/-- A single lane without a state is idle. -/
theorem allIdle_onlyLane {lane : SessionLane} (stateless : lane.state = none) :
    AllIdle (onlyLane lane) := by
  let start : String → SessionLane := fun _ => {}
  exact (Function.forall_update_iff start fun _ lane => lane.state = none).mpr
    ⟨stateless, fun _ _ => rfl⟩

/-- A turn of the only session ends with nothing queued that starts a turn. -/
def EndsQuiet : Machine.Guard SessionLane SchedulerAction
  | lane, .turnEnded _ => ∀ event ∈ lane.queued, event.startsTurn = false
  | _, _ => True

instance : DecidableRel EndsQuiet := fun lane action =>
  match action with
  | .turnEnded _ => inferInstanceAs (Decidable (∀ event ∈ lane.queued, event.startsTurn = false))
  | .publish _ | .deliver | .handle _ | .persisted _ | .resolved | .dispatched | .finish
  | .debounce _ _ | .watchdog _ | .beat _ => isTrue trivial

/-- The run of one message, from the start: it is published over the empty table, starts a turn,
and the turn ends. -/
def endedRun : List SchedulerAction :=
  [.publish { type := .builtin .userMessageReceived, sessionId := "s", id := "1", timestamp := 1 },
    .deliver, .handle { id := "2", now := 2 }, .finish, .debounce 0 { id := "3", now := 3 },
    .deliver, .handle { id := "4", now := 4 }, .turnEnded { id := "6", now := 6 }]

/-- The running turn publishes its follow-up and ends. -/
def poppedLane : SessionLane :=
  ((SessionLane.machine "s").replay Machine.anyStep turningLane
    [.publish followUp, .turnEnded { id := "6", now := 6 }]).getD {}

/-- The next turn, started by the follow-up. -/
def secondTurn : String → SessionLane :=
  (scheduler.replay NoNewMessage (onlyLane poppedLane)
    [("s", .finish), ("s", .deliver), ("s", .handle { id := "7", now := 7 }), ("s", .finish),
      ("s", .debounce 1 { id := "8", now := 8 }), ("s", .deliver),
      ("s", .handle { id := "9", now := 9 })]).getD fun _ => {}

end FairyClaw
