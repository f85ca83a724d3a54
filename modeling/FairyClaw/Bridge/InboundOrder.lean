import FairyClaw.Bridge.InboundOnce
import FairyClaw.Foundation.Precedence

/-! # The order of inbound frames

The client is ready before it has sent its pending frames again, so a new frame may be put on the
connection ahead of an older one that was lost with the connection before
(`FairyClaw.inbound_overtaken`); and a frame whose submission failed stays pending, so that it
may be read again after newer ones. In runs without either, the frames on every connection follow the
frames before them, and the business side stores and processes them in the order in which they were
created (`FairyClaw.inbound_order`).
-/

namespace FairyClaw

open Foundation

/-- Steps of the client. -/
def InboundAction.client : InboundAction → Bool
  | connect | greeted | resumed | resend | drop _ | create _ | send _ | readAck => true
  | receive _ | store .. | publish .. | ack .. => false

namespace InboundBridge

variable {limit : Nat} (bridge : InboundBridge limit)

/-- The frames that a connection has in hand, with the one that its handler submits first. -/
def lines (connection : Nat) : List String :=
  ((bridge.handlers connection).submitting.toList ++
    (bridge.connections connection).wire).map InboundFrame.id

/-- The submission that fails in a step. -/
def failing : InboundAction → Option InboundFrame
  | .store connection false | .publish connection false => (bridge.handlers connection).submitting
  | _ => none

/-- A frame was created before another one. -/
def Before (first second : String) : Prop :=
  ArrivedBefore (bridge.client.created.map InboundFrame.id) first second

instance : DecidableRel bridge.Before := fun _ _ =>
  inferInstanceAs (Decidable (ArrivedBefore _ _ _))

end InboundBridge

/-! ## The bridge with a record of failed submissions -/

/-- The bridge with the events so far. -/
structure RecordedBridge (limit : Nat) where
  bridge : InboundBridge limit := {}
  failed : List String := []

namespace RecordedBridge

variable {limit : Nat}

/-- A step of the bridge, recorded. -/
def step (state : RecordedBridge limit) (action : InboundAction) : Option (RecordedBridge limit) :=
  (state.bridge.step action).map fun next =>
    { bridge := next
      failed := ((state.bridge.failing action).map InboundFrame.id).toList ++ state.failed }

/-- The recorded bridge, which starts without events. -/
def machine (limit : Nat) : Machine (RecordedBridge limit) InboundAction where
  initial state := state = {}
  step := step

/-- A frame has been processed, or its submission has failed. -/
def Done (state : RecordedBridge limit) (id : String) : Prop :=
  id ∈ state.bridge.service.handled ∨ id ∈ state.failed

instance (state : RecordedBridge limit) (id : String) : Decidable (state.Done id) :=
  inferInstanceAs (Decidable (_ ∨ _))

/-- Every frame created before a frame is done, or in hand on the connection that the frame is put
on. -/
def SendsInOrder (state : RecordedBridge limit) (frame : InboundFrame) : Prop :=
  ∀ connection ∈ state.bridge.client.link.socket, ∀ first, state.bridge.Before first frame.id →
    state.Done first ∨ first ∈ state.bridge.lines connection

/-- A frame that is read has not failed before, unless it was processed. -/
def ReadsUnfailed (state : RecordedBridge limit) (action : InboundAction) : Prop :=
  ∀ frame ∈ state.bridge.reads action,
    frame.id ∈ state.failed → frame.id ∈ state.bridge.service.handled

/-- A submission that fails is the only one of its frame, unless the frame was processed. -/
def FailsAlone (state : RecordedBridge limit) (connection : Nat) : Prop :=
  ∀ frame ∈ (state.bridge.handlers connection).submitting,
    frame.id ∈ state.bridge.service.handled ∨ ∀ other second, other ≠ connection →
      (state.bridge.handlers other).submitting = some second → second.id ≠ frame.id

/-- Senders do not overtake older frames, and no frame is submitted again or elsewhere when its
submission has failed. -/
def inOrder : Machine.Guard (RecordedBridge limit) InboundAction := fun state action =>
  match action with
  | .send frame => state.SendsInOrder frame
  | .receive _ => state.ReadsUnfailed action
  | .store connection false | .publish connection false => state.FailsAlone connection
  | _ => True

end RecordedBridge

/-! ## Frames in hand -/

namespace InboundBridge

variable {limit : Nat} {bridge next : InboundBridge limit} {action : InboundAction}

/-- Replacing a connection replaces its line. -/
theorem lines_setConnection (bridge : InboundBridge limit) (connection : Nat)
    (after : InboundConnection) :
    (bridge.setConnection connection after).lines = Function.update bridge.lines connection
      ((after.handler.submitting.toList ++ after.wire).map InboundFrame.id) := by
  funext other
  by_cases same : other = connection
  · subst same
    simp only [lines, handlers, setConnection, Function.update_self]
  · simp only [lines, handlers, setConnection, Function.update_of_ne same]

/-- A frame that is sent comes last in its line. -/
theorem lines_transmit (bridge : InboundBridge limit) (connection : Nat) (frame : InboundFrame) :
    (bridge.transmit connection frame).lines =
      Function.update bridge.lines connection (bridge.lines connection ++ [frame.id]) := by
  rw [transmit, lines_setConnection]
  simp only [lines, handlers, List.map_append, List.append_assoc, List.map_singleton]

/-- A handler's step may shorten the line of its connection. -/
theorem lines_setHandler (bridge : InboundBridge limit) (connection : Nat)
    (effect : InboundService limit × InboundHandler) :
    (bridge.setHandler connection effect).lines = Function.update bridge.lines connection
      ((effect.2.submitting.toList ++ (bridge.connections connection).wire).map
        InboundFrame.id) :=
  lines_setConnection bridge connection _

end InboundBridge

/-- The lines of all connections, the frames that are sent again, and the pending frames follow the
frames before them. -/
structure Queued (before : String → String → Prop) (done : String → Prop)
    (lines : Nat → List String) (link : ClientLink) (pending : List InboundFrame) : Prop where
  inHand : ∀ connection, Follows before done [] (lines connection)
  resends : ∀ connection rest, link = .online connection rest →
    Follows before done [] (lines connection ++ rest.map InboundFrame.id)
  waiting : Follows before done [] (pending.map InboundFrame.id)

namespace Queued

variable {before older : String → String → Prop} {done finished : String → Prop}
  {lines : Nat → List String} {link : ClientLink} {pending : List InboundFrame} {connection : Nat}

/-- A queue stays in order when more is done. -/
theorem mono (queued : Queued before done lines link pending)
    (kept : ∀ id, done id → finished id) : Queued before finished lines link pending where
  inHand connection := (queued.inHand connection).mono kept (fun _ _ _ => id) fun _ => Or.inr
  resends connection rest online :=
    (queued.resends connection rest online).mono kept (fun _ _ _ => id) fun _ => Or.inr
  waiting := queued.waiting.mono kept (fun _ _ _ => id) fun _ => Or.inr

/-- A link on which nothing is sent again. -/
theorem relink (queued : Queued before done lines link pending) {other : ClientLink}
    (idle : ∀ connection rest, other ≠ .online connection rest) :
    Queued before done lines other pending :=
  { queued with resends := fun connection rest online => absurd online (idle connection rest) }

/-- On a new connection the pending frames are sent in their order. -/
theorem resume (queued : Queued before done lines link pending) (connection : Nat) :
    Queued before done lines (.online connection pending) pending := by
  refine { queued with resends := ?_ }
  rintro _ _ ⟨⟩
  exact (queued.inHand connection).join queued.waiting

/-- The first of the frames that are sent again. -/
theorem resend {frame : InboundFrame} {rest : List InboundFrame}
    (queued : Queued before done lines (.online connection (frame :: rest)) pending) :
    Queued before done (Function.update lines connection (lines connection ++ [frame.id]))
      (.online connection rest) pending := by
  have whole := queued.resends connection (frame :: rest) rfl
  rw [List.map_cons, List.append_cons] at whole
  constructor
  · intro other
    by_cases same : other = connection
    · subst same
      rw [Function.update_self]
      exact (Follows.append.mp whole).1
    · rw [Function.update_of_ne same]
      exact queued.inHand other
  · rintro _ _ ⟨⟩
    rw [Function.update_self]
    exact whole
  · exact queued.waiting

/-- A frame is put on the connection by its own sender. -/
theorem send {id : String} (queued : Queued before done lines link pending)
    (ready : ∀ first, before first id → done first ∨ first ∈ lines connection) :
    Queued before done (Function.update lines connection (lines connection ++ [id])) link
      pending := by
  constructor
  · intro other
    by_cases same : other = connection
    · subst same
      rw [Function.update_self]
      exact (queued.inHand other).concat ready
    · rw [Function.update_of_ne same]
      exact queued.inHand other
  · intro other rest online
    by_cases same : other = connection
    · subst same
      rw [Function.update_self, List.append_assoc, List.singleton_append]
      exact (queued.resends other rest online).insert ready
    · rw [Function.update_of_ne same]
      exact queued.resends other rest online
  · exact queued.waiting

/-- The connection ends, and what has not arrived is lost. -/
theorem drop {arrived lost : List String} (queued : Queued before done lines link pending)
    (split : lines connection = arrived ++ lost) :
    Queued before done (Function.update lines connection arrived) .offline pending := by
  constructor
  · intro other
    by_cases same : other = connection
    · subst same
      rw [Function.update_self]
      exact (Follows.append.mp (split ▸ queued.inHand other)).1
    · rw [Function.update_of_ne same]
      exact queued.inHand other
  · nofun
  · exact queued.waiting

/-- The frame in front is done. -/
theorem retire {id : String} {rest : List String} (queued : Queued before done lines link pending)
    (front : lines connection = id :: rest) (already : done id) :
    Queued before done (Function.update lines connection rest) link pending := by
  constructor
  · intro other
    by_cases same : other = connection
    · subst same
      rw [Function.update_self]
      exact (front ▸ queued.inHand other).tail already
    · rw [Function.update_of_ne same]
      exact queued.inHand other
  · intro other resends online
    by_cases same : other = connection
    · subst same
      have whole := queued.resends other resends online
      rw [front, List.cons_append] at whole
      rw [Function.update_self]
      exact whole.tail already
    · rw [Function.update_of_ne same]
      exact queued.resends other resends online
  · exact queued.waiting

/-- A frame that is done is pending no more. -/
theorem settle (queued : Queued before done lines link pending) {id : String} (already : done id) :
    Queued before done lines link (pending.filter fun frame => frame.id ≠ id) := by
  refine { queued with waiting := ?_ }
  have same : (pending.filter fun frame => frame.id ≠ id).map InboundFrame.id =
      (pending.map InboundFrame.id).filter (· ≠ id) := by
    rw [List.filter_map]
    rfl
  rw [same]
  refine queued.waiting.filter fun other _ left => ?_
  rw [decide_eq_false_iff_not, not_not] at left
  exact left ▸ already

/-- A new frame waits behind all others. -/
theorem create {frame : InboundFrame} (queued : Queued before done lines link pending)
    (earlier : ∀ id, ((∃ connection, id ∈ lines connection) ∨ id ∈ pending.map InboundFrame.id ∨
      ∃ connection rest, link = .online connection rest ∧ id ∈ rest.map InboundFrame.id) →
      ∀ first, older first id → before first id)
    (ready : ∀ first, older first frame.id → done first ∨ first ∈ pending.map InboundFrame.id) :
    Queued older done lines link (pending ++ [frame]) := by
  have moved : ∀ other ∈ ([] : List String), done other ∨ other ∈ ([] : List String) :=
    fun _ => Or.inr
  refine ⟨fun connection => ?_, fun connection rest online => ?_, ?_⟩
  · exact (queued.inHand connection).mono (fun _ => id)
      (fun id member => earlier id (Or.inl ⟨connection, member⟩)) moved
  · refine (queued.resends connection rest online).mono (fun _ => id) (fun id member => ?_) moved
    rcases List.mem_append.mp member with inside | left
    · exact earlier id (Or.inl ⟨connection, inside⟩)
    · exact earlier id (Or.inr (Or.inr ⟨connection, rest, online, left⟩))
  · rw [List.map_append, List.map_singleton]
    refine Follows.concat ready ?_
    exact queued.waiting.mono (fun _ => id) (fun id member => earlier id (Or.inr (Or.inl member)))
      moved

end Queued

/-! ## Records of the service -/

namespace InboundBridge

variable {limit : Nat} {bridge next : InboundBridge limit} {action : InboundAction}

/-- The records of the service speak of created frames, and only frames that are processed are
acknowledged as done. -/
structure Confirmed (bridge : InboundBridge limit) : Prop where
  known : bridge.FramesKnown
  submitting : ∀ connection frame, (bridge.handlers connection).submitting = some frame →
    frame ∈ bridge.client.created
  window : bridge.service.processed = RecentSet.ofLog bridge.service.handled
  distinct : (bridge.client.created.map InboundFrame.id).Nodup
  acking : ∀ connection id status, bridge.handlers connection = .acking id status →
    status ≠ .failed → id ∈ bridge.service.handled
  acks : ∀ connection id status, (id, status) ∈ (bridge.connections connection).acks →
    status ≠ .failed → id ∈ bridge.service.handled
  handled : ∀ id ∈ bridge.service.handled, id ∈ bridge.client.created.map InboundFrame.id
  stored : ∀ id ∈ bridge.service.stored, id ∈ bridge.client.created.map InboundFrame.id
  publishing : ∀ connection frame, bridge.handlers connection = .publishing frame →
    frame.hasSegments = true → frame.id ∈ bridge.service.stored
  kept : ∀ frame ∈ bridge.client.created, frame.hasSegments = true →
    frame.id ∈ bridge.service.handled → frame.id ∈ bridge.service.stored

/-- At the start nothing is confirmed. -/
theorem confirmed_initial : ({} : InboundBridge limit).Confirmed where
  known := ⟨nofun, nofun, nofun, nofun⟩
  submitting := nofun
  window := rfl
  distinct := List.nodup_nil
  acking := nofun
  acks := nofun
  handled := nofun
  stored := nofun
  publishing := nofun
  kept := nofun

/-- Acknowledgements on their way were there before, or are those of a handler. -/
theorem acks_step (stepped : bridge.step action = some next) {connection : Nat} {id : String}
    {status : AckStatus} (sent : (id, status) ∈ (next.connections connection).acks) :
    (id, status) ∈ (bridge.connections connection).acks ∨
      bridge.handlers connection = .acking id status := by
  have untouched : ∀ {other : Nat} {after : InboundConnection},
      (id, status) ∈ (Function.update bridge.connections other after connection).acks →
      (∀ entry ∈ after.acks, entry ∈ (bridge.connections other).acks ∨
        bridge.handlers other = .acking entry.1 entry.2) →
      (id, status) ∈ (bridge.connections connection).acks ∨
        bridge.handlers connection = .acking id status := by
    intro other after inside kept
    by_cases same : connection = other
    · subst same
      rw [Function.update_self] at inside
      exact kept (id, status) inside
    · rw [Function.update_of_ne same] at inside
      exact Or.inl inside
  cases action with
  | connect | greeted | resumed =>
      simp only [step] at stepped
      split at stepped
      · cases stepped
        exact Or.inl sent
      · cases stepped
  | resend | drop arriving =>
      simp only [step] at stepped
      split at stepped
      · cases stepped
        exact untouched sent fun _ => Or.inl
      · cases stepped
  | create frame =>
      simp only [step] at stepped
      split at stepped
      · cases stepped
      · cases stepped
        exact Or.inl sent
  | send frame =>
      simp only [step] at stepped
      split at stepped
      · split at stepped
        · cases stepped
          exact untouched sent fun _ => Or.inl
        · cases stepped
          exact Or.inl sent
      · cases stepped
  | readAck =>
      simp only [step] at stepped
      split at stepped
      · split at stepped
        · cases stepped
        · next first status rest acks =>
            cases stepped
            refine untouched sent fun entry inside => Or.inl ?_
            rw [acks]
            exact List.mem_cons_of_mem _ inside
      · cases stepped
  | receive other =>
      simp only [step] at stepped
      split at stepped
      · cases stepped
        simp only [setHandler, setConnection, Function.update_idem, Function.update_self] at sent
        exact untouched sent fun _ => Or.inl
      · cases stepped
  | store other succeeds | publish other succeeds =>
      simp only [step] at stepped
      split at stepped
      · cases stepped
        exact untouched sent fun _ => Or.inl
      · cases stepped
  | ack other isSent =>
      simp only [step] at stepped
      split at stepped
      · next first status acking =>
          split at stepped
          · cases stepped
            simp only [setHandler, setConnection, Function.update_idem, Function.update_self]
              at sent
            refine untouched sent fun entry inside => ?_
            rcases List.mem_append.mp inside with earlier | now
            · exact Or.inl earlier
            · rw [List.mem_singleton] at now
              exact Or.inr (now ▸ acking)
          · cases stepped
            exact untouched sent fun _ => Or.inl
      · cases stepped

/-- A handler that submits after reading submits the frame it has read. -/
theorem submitting_receive {service : InboundService limit} {frame submitted : InboundFrame}
    (submitting : (service.receive frame).submitting = some submitted) : submitted = frame := by
  unfold InboundService.receive at submitting
  split at submitting
  · cases submitting
  · cases submitting
    rfl

/-- What is stored and processed stays. -/
structure SameRecords (service after : InboundService limit) : Prop where
  processed : after.processed = service.processed
  handled : after.handled = service.handled
  stored : after.stored = service.stored

/-- A handler goes on while the records stay. -/
theorem Confirmed.handlers_step (confirmed : bridge.Confirmed) {connection : Nat}
    {handler : InboundHandler} (known : next.FramesKnown)
    (handlers : next.handlers = Function.update bridge.handlers connection handler)
    (service : SameRecords bridge.service next.service)
    (created : next.client.created = bridge.client.created)
    (submitting : ∀ frame, handler.submitting = some frame → frame ∈ bridge.client.created)
    (unpublishing : ∀ frame, handler ≠ .publishing frame)
    (acking : ∀ id status, handler = .acking id status → status ≠ .failed →
      id ∈ bridge.service.handled)
    (acks : ∀ other id status, (id, status) ∈ (next.connections other).acks →
      status ≠ .failed → id ∈ bridge.service.handled) : next.Confirmed := by
  refine ⟨known, ?_, ?_, ?_, ?_, ?_, ?_, ?_, ?_, ?_⟩
  · intro other frame submits
    rw [handlers] at submits
    rw [created]
    rcases update_submitting submits with ⟨_, own⟩ | ⟨_, kept⟩
    · exact submitting frame own
    · exact confirmed.submitting other frame kept
  · rw [service.processed, service.handled]
    exact confirmed.window
  · rw [created]
    exact confirmed.distinct
  · intro other id status at_ack settled
    rw [handlers] at at_ack
    rw [service.handled]
    by_cases same : other = connection
    · subst same
      rw [Function.update_self] at at_ack
      exact acking id status at_ack settled
    · rw [Function.update_of_ne same] at at_ack
      exact confirmed.acking other id status at_ack settled
  · rw [service.handled]
    exact acks
  · rw [service.handled, created]
    exact confirmed.handled
  · rw [service.stored, created]
    exact confirmed.stored
  · intro other frame publishes segments
    rw [handlers] at publishes
    rw [service.stored]
    by_cases same : other = connection
    · subst same
      rw [Function.update_self] at publishes
      exact absurd publishes (unpublishing frame)
    · rw [Function.update_of_ne same] at publishes
      exact confirmed.publishing other frame publishes segments
  · rw [service.handled, service.stored, created]
    exact confirmed.kept

/-- A message is stored. -/
theorem Confirmed.stores (confirmed : bridge.Confirmed) {connection : Nat} {frame : InboundFrame}
    (known : next.FramesKnown) (inside : frame ∈ bridge.client.created)
    (handlers : next.handlers =
      Function.update bridge.handlers connection (bridge.service.store frame true).2)
    (service : next.service = (bridge.service.store frame true).1)
    (created : next.client.created = bridge.client.created)
    (acks : ∀ other id status, (id, status) ∈ (next.connections other).acks →
      status ≠ .failed → id ∈ bridge.service.handled) : next.Confirmed := by
  have grown : ∀ {id : String}, id ∈ bridge.service.stored → id ∈ next.service.stored := by
    intro id earlier
    rw [service]
    simp only [InboundService.store, ↓reduceIte]
    split
    · exact List.mem_append_left _ earlier
    · exact earlier
  have handled : next.service.handled = bridge.service.handled := service ▸ rfl
  refine ⟨known, ?_, ?_, ?_, ?_, ?_, ?_, ?_, ?_, ?_⟩
  · intro other second submits
    rw [handlers] at submits
    rw [created]
    rcases update_submitting submits with ⟨_, own⟩ | ⟨_, kept⟩
    · cases own
      exact inside
    · exact confirmed.submitting other second kept
  · rw [service]
    exact confirmed.window
  · rw [created]
    exact confirmed.distinct
  · intro other id status acking settled
    rw [handlers] at acking
    rw [handled]
    by_cases same : other = connection
    · subst same
      rw [Function.update_self] at acking
      cases acking
    · rw [Function.update_of_ne same] at acking
      exact confirmed.acking other id status acking settled
  · rw [handled]
    exact acks
  · rw [handled, created]
    exact confirmed.handled
  · intro id member
    rw [created]
    rw [service] at member
    rcases mem_added member with earlier | rfl
    · exact confirmed.stored id earlier
    · exact List.mem_map_of_mem inside
  · intro other second publishes segments
    rw [handlers] at publishes
    by_cases same : other = connection
    · subst same
      rw [Function.update_self] at publishes
      cases publishes
      rw [service]
      simp only [InboundService.store, segments, ↓reduceIte]
      exact List.mem_append_right _ List.mem_cons_self
    · rw [Function.update_of_ne same] at publishes
      exact grown (confirmed.publishing other second publishes segments)
  · rw [handled, created]
    exact fun other member segments already => grown (confirmed.kept other member segments already)

/-- A frame is processed. -/
theorem Confirmed.publishes (confirmed : bridge.Confirmed) {connection : Nat} {frame : InboundFrame}
    (known : next.FramesKnown) (publishing : bridge.handlers connection = .publishing frame)
    (handlers : next.handlers =
      Function.update bridge.handlers connection (bridge.service.publish frame true).2)
    (service : next.service = (bridge.service.publish frame true).1)
    (created : next.client.created = bridge.client.created)
    (acks : ∀ other id status, (id, status) ∈ (next.connections other).acks →
      status ≠ .failed → id ∈ bridge.service.handled) : next.Confirmed := by
  have inside := confirmed.submitting connection frame (submitting_of_publishing publishing)
  have handled : next.service.handled = frame.id :: bridge.service.handled := service ▸ rfl
  have stored : next.service.stored = bridge.service.stored := service ▸ rfl
  refine ⟨known, ?_, ?_, ?_, ?_, ?_, ?_, ?_, ?_, ?_⟩
  · intro other second submits
    rw [handlers] at submits
    rw [created]
    rcases update_submitting submits with ⟨_, own⟩ | ⟨_, kept⟩
    · cases own
    · exact confirmed.submitting other second kept
  · rw [handled, service]
    show bridge.service.processed.add frame.id = _
    rw [confirmed.window]
    rfl
  · rw [created]
    exact confirmed.distinct
  · intro other id status acking settled
    rw [handlers] at acking
    rw [handled]
    by_cases same : other = connection
    · subst same
      rw [Function.update_self] at acking
      cases acking
      exact List.mem_cons_self
    · rw [Function.update_of_ne same] at acking
      exact List.mem_cons_of_mem _ (confirmed.acking other id status acking settled)
  · rw [handled]
    exact fun other id status sent settled =>
      List.mem_cons_of_mem _ (acks other id status sent settled)
  · rw [handled, created]
    intro id member
    rcases List.mem_cons.mp member with rfl | earlier
    · exact List.mem_map_of_mem inside
    · exact confirmed.handled id earlier
  · rw [stored, created]
    exact confirmed.stored
  · intro other second publishes segments
    rw [handlers] at publishes
    rw [stored]
    by_cases same : other = connection
    · subst same
      rw [Function.update_self] at publishes
      cases publishes
    · rw [Function.update_of_ne same] at publishes
      exact confirmed.publishing other second publishes segments
  · rw [handled, stored, created]
    intro second member segments already
    rcases List.mem_cons.mp already with same | earlier
    · have equal := List.inj_on_of_nodup_map confirmed.distinct member inside same
      exact confirmed.publishing connection second (equal ▸ publishing) segments
    · exact confirmed.kept second member segments earlier

/-- Every step keeps the confirmed frames confirmed. -/
theorem Confirmed.step (confirmed : bridge.Confirmed) (stepped : bridge.step action = some next) :
    next.Confirmed := by
  have known := confirmed.known.stepped stepped
  have acks : ∀ other id status, (id, status) ∈ (next.connections other).acks →
      status ≠ .failed → id ∈ bridge.service.handled := by
    intro other id status sent settled
    rcases acks_step stepped sent with earlier | acking
    · exact confirmed.acks other id status earlier settled
    · exact confirmed.acking other id status acking settled
  have effect := step_effect stepped
  cases action with
  | create frame =>
      obtain ⟨fresh, handlers, service, created⟩ := effect
      have older : ∀ {other : InboundFrame}, other ∈ bridge.client.created →
          other ∈ next.client.created :=
        fun inside => created ▸ List.mem_append_left _ inside
      have olderId : ∀ {id : String}, id ∈ bridge.client.created.map InboundFrame.id →
          id ∈ next.client.created.map InboundFrame.id := by
        intro id inside
        rw [created, List.map_append]
        exact List.mem_append_left _ inside
      refine ⟨known, ?_, ?_, ?_, ?_, ?_, ?_, ?_, ?_, ?_⟩
      · rw [handlers]
        exact fun connection other submitting => older (confirmed.submitting _ _ submitting)
      · rw [service]
        exact confirmed.window
      · rw [created, List.map_append, List.map_singleton]
        exact List.nodup_append.mpr ⟨confirmed.distinct, List.nodup_singleton _,
          fun id inside other own same => fresh (List.mem_singleton.mp own ▸ same ▸ inside)⟩
      · rw [handlers, service]
        exact confirmed.acking
      · rw [service]
        exact acks
      · rw [service]
        exact fun id inside => olderId (confirmed.handled id inside)
      · rw [service]
        exact fun id inside => olderId (confirmed.stored id inside)
      · rw [handlers, service]
        exact confirmed.publishing
      · rw [service, created]
        intro other member segments handled
        rcases List.mem_append.mp member with inside | last
        · exact confirmed.kept other inside segments handled
        · rw [List.mem_singleton] at last
          exact absurd (confirmed.handled _ (last ▸ handled)) fresh
  | receive connection =>
      obtain ⟨frame, read, reading, handlers, service, created⟩ := effect
      have records : SameRecords bridge.service next.service := service ▸ ⟨rfl, rfl, rfl⟩
      refine confirmed.handlers_step known handlers records created ?_ ?_ ?_ acks
      · intro submitted submitting
        exact submitting_receive submitting ▸ reads_created confirmed.known read
      · intro other
        unfold InboundService.receive
        split <;> nofun
      · intro id status
        unfold InboundService.receive
        split
        · next processed =>
            rintro ⟨⟩ _
            exact RecentSet.mem_of_mem_ofLog (confirmed.window ▸ processed)
        · nofun
  | store connection succeeds =>
      obtain ⟨frame, storing, handlers, service, created⟩ := effect
      have inside : frame ∈ bridge.client.created :=
        confirmed.submitting connection frame (by rw [storing]; rfl)
      cases succeeds with
      | true => exact confirmed.stores known inside handlers service created acks
      | false =>
          have records : SameRecords bridge.service next.service := service ▸ ⟨rfl, rfl, rfl⟩
          refine confirmed.handlers_step known handlers records created nofun nofun ?_ acks
          rintro id status ⟨⟩ settled
          exact absurd rfl settled
  | publish connection succeeds =>
      obtain ⟨frame, publishing, handlers, service, created⟩ := effect
      cases succeeds with
      | true => exact confirmed.publishes known publishing handlers service created acks
      | false =>
          have records : SameRecords bridge.service next.service := service ▸ ⟨rfl, rfl, rfl⟩
          refine confirmed.handlers_step known handlers records created nofun nofun ?_ acks
          rintro id status ⟨⟩ settled
          exact absurd rfl settled
  | ack connection sent =>
      obtain ⟨id, status, acking, handlers, service, created⟩ := effect
      have records : SameRecords bridge.service next.service := by
        rw [service]
        split <;> exact ⟨rfl, rfl, rfl⟩
      refine confirmed.handlers_step known handlers records created ?_ ?_ ?_ acks <;>
        split <;> nofun
  | connect | greeted | resumed | resend | drop | send | readAck =>
      obtain ⟨handlers, service, created⟩ := effect
      refine ⟨known, ?_, ?_, ?_, ?_, ?_, ?_, ?_, ?_, ?_⟩
      · rw [handlers, created]
        exact confirmed.submitting
      · rw [service]
        exact confirmed.window
      · rw [created]
        exact confirmed.distinct
      · rw [handlers, service]
        exact confirmed.acking
      · rw [service]
        exact acks
      · rw [service, created]
        exact confirmed.handled
      · rw [service, created]
        exact confirmed.stored
      · rw [handlers, service]
        exact confirmed.publishing
      · rw [service, created]
        exact confirmed.kept

end InboundBridge

/-! ## Runs -/

namespace RecordedBridge

variable {limit : Nat} {state next : RecordedBridge limit} {action : InboundAction}

/-- The queue of frames that a state of the bridge makes up. -/
def InQueue (state : RecordedBridge limit) (done : String → Prop) : Prop :=
  Queued state.bridge.Before done state.bridge.lines state.bridge.client.link
    state.bridge.client.pending

/-- The frames in hand, and what has been stored and processed, are in order. -/
structure Ordered (state : RecordedBridge limit) : Prop where
  confirmed : state.bridge.Confirmed
  queued : state.InQueue state.Done
  waiting : ∀ id ∈ state.bridge.client.created.map InboundFrame.id,
    state.Done id ∨ id ∈ state.bridge.client.pending.map InboundFrame.id
  live : ∀ connection frame, (state.bridge.handlers connection).submitting = some frame →
    frame.id ∈ state.failed → frame.id ∈ state.bridge.service.handled
  handled : Logged state.bridge.Before state.Done state.bridge.service.handled.reverse
  stored : Logged state.bridge.Before state.Done state.bridge.service.stored

/-- At the start the events are in order. -/
theorem ordered_initial : ({} : RecordedBridge limit).Ordered where
  confirmed := InboundBridge.confirmed_initial
  queued := ⟨fun _ => trivial, nofun, trivial⟩
  waiting := nofun
  live := nofun
  handled := ⟨nofun, nofun⟩
  stored := ⟨nofun, nofun⟩

/-- What is processed stays so. -/
theorem handled_step {bridge after : InboundBridge limit} (stepped : bridge.step action = some after)
    {id : String} (already : id ∈ bridge.service.handled) : id ∈ after.service.handled := by
  have effect := InboundBridge.step_effect stepped
  cases action with
  | create frame =>
      obtain ⟨_, _, service, _⟩ := effect
      exact service ▸ already
  | receive connection =>
      obtain ⟨_, _, _, _, service, _⟩ := effect
      exact service ▸ already
  | store connection succeeds =>
      obtain ⟨_, _, _, service, _⟩ := effect
      rw [service]
      cases succeeds <;> exact already
  | publish connection succeeds =>
      obtain ⟨_, _, _, service, _⟩ := effect
      rw [service]
      cases succeeds with
      | true => exact List.mem_cons_of_mem _ already
      | false => exact already
  | ack connection sent =>
      obtain ⟨_, _, _, _, service, _⟩ := effect
      rw [service]
      split <;> exact already
  | connect | greeted | resumed | resend | drop | send | readAck =>
      obtain ⟨_, service, _⟩ := effect
      exact service ▸ already

/-- What is done stays done. -/
theorem done_step (stepped : state.step action = some next) {id : String} (already : state.Done id) :
    next.Done id := by
  obtain ⟨bridge, moved, rfl⟩ := Option.map_eq_some_iff.mp stepped
  exact already.imp (handled_step moved) (List.mem_append_right _)

/-- Only a new frame changes what was created. -/
theorem created_step {bridge after : InboundBridge limit} (stepped : bridge.step action = some after)
    (old : ∀ frame, action ≠ .create frame) : after.client.created = bridge.client.created := by
  have effect := InboundBridge.step_effect stepped
  cases action with
  | create frame => exact absurd rfl (old frame)
  | receive connection => exact effect.choose_spec.2.2.2.2
  | store connection succeeds | publish connection succeeds => exact effect.choose_spec.2.2.2
  | ack connection sent => exact effect.choose_spec.choose_spec.2.2.2
  | connect | greeted | resumed | resend | drop | send | readAck => exact effect.2.2

/-- Only a creation changes which frame comes before which. -/
theorem before_step {bridge after : InboundBridge limit} (stepped : bridge.step action = some after)
    (old : ∀ frame, action ≠ .create frame) : after.Before = bridge.Before := by
  funext first second
  rw [InboundBridge.Before, InboundBridge.Before, created_step stepped old]

/-- Steps of the client other than creating a frame. -/
theorem queued_client {before : String → String → Prop} {done : String → Prop}
    {bridge after : InboundBridge limit} (confirmed : bridge.Confirmed)
    (handled : ∀ id ∈ bridge.service.handled, done id)
    (ready : ∀ frame, action = .send frame → ∀ connection ∈ bridge.client.link.socket, ∀ first,
      before first frame.id → done first ∨ first ∈ bridge.lines connection)
    (queued : Queued before done bridge.lines bridge.client.link bridge.client.pending)
    (stepped : bridge.step action = some after)
    (client : action.client = true) (old : ∀ frame, action ≠ .create frame) :
    Queued before done after.lines after.client.link after.client.pending := by
  cases action with
  | connect | greeted =>
      simp only [InboundBridge.step] at stepped
      split at stepped
      · cases stepped
        exact queued.relink (by rintro _ _ ⟨⟩)
      · cases stepped
  | resumed =>
      simp only [InboundBridge.step] at stepped
      split at stepped
      · cases stepped
        exact queued.resume _
      · cases stepped
  | resend =>
      simp only [InboundBridge.step] at stepped
      split at stepped
      · next connection frame rest online =>
          cases stepped
          rw [InboundBridge.lines_transmit]
          exact (online ▸ queued).resend
      · cases stepped
  | drop arriving =>
      simp only [InboundBridge.step] at stepped
      split at stepped
      · next connection _ =>
          cases stepped
          rw [InboundBridge.lines_setConnection]
          have split : bridge.lines connection =
              ((bridge.handlers connection).submitting.toList ++
                (bridge.connections connection).wire.take arriving).map InboundFrame.id ++
              ((bridge.connections connection).wire.drop arriving).map InboundFrame.id := by
            rw [← List.map_append, List.append_assoc, List.take_append_drop]
            rfl
          exact queued.drop split
      · cases stepped
  | create frame => exact absurd rfl (old frame)
  | send frame =>
      simp only [InboundBridge.step] at stepped
      split at stepped
      · split at stepped
        · next connection socket =>
            cases stepped
            rw [InboundBridge.lines_transmit]
            exact queued.send (ready frame rfl connection socket)
        · cases stepped
          exact queued
      · cases stepped
  | readAck =>
      simp only [InboundBridge.step] at stepped
      split at stepped
      · next connection online =>
          split at stepped
          · cases stepped
          · next id status rest acks =>
              cases stepped
              have lines : (bridge.setConnection connection
                  { bridge.connections connection with acks := rest }).lines = bridge.lines := by
                rw [InboundBridge.lines_setConnection]
                exact Function.update_eq_self ..
              have acked : (id, status) ∈ (bridge.connections connection).acks :=
                acks ▸ List.mem_cons_self
              change Queued before done (bridge.setConnection connection _).lines
                (InboundBridge.settle bridge.client id status).link
                (InboundBridge.settle bridge.client id status).pending
              rw [lines, InboundBridge.settle]
              split
              · next settled =>
                  have done := handled id (confirmed.acks connection id status acked (by
                    rintro rfl
                    exact absurd settled (by decide)))
                  exact queued.settle done
              · exact queued
      · cases stepped
  | receive | store | publish | ack => cases client

/-- Steps of a handler. -/
theorem queued_handler {before : String → String → Prop} {done : String → Prop}
    {bridge after : InboundBridge limit} (confirmed : bridge.Confirmed)
    (handled : ∀ id ∈ after.service.handled, done id)
    (failed : ∀ frame, bridge.failing action = some frame → done frame.id)
    (queued : Queued before done bridge.lines bridge.client.link bridge.client.pending)
    (stepped : bridge.step action = some after) (handler : action.client = false) :
    Queued before done after.lines after.client.link after.client.pending := by
  cases action with
  | connect | greeted | resumed | resend | drop | create | send | readAck => cases handler
  | receive connection =>
      simp only [InboundBridge.step] at stepped
      split at stepped
      · next frame rest reading wire =>
          cases stepped
          have front : bridge.lines connection = frame.id :: rest.map InboundFrame.id := by
            simp only [InboundBridge.lines, InboundBridge.handlers, reading, wire]
            rfl
          rw [InboundBridge.lines_setHandler, InboundBridge.lines_setConnection,
            Function.update_idem]
          simp only [InboundBridge.setConnection, Function.update_self]
          rw [InboundService.receive]
          split
          · next processed =>
              have already : frame.id ∈ bridge.service.handled :=
                RecentSet.mem_of_mem_ofLog (confirmed.window ▸ processed)
              exact queued.retire front (handled _ already)
          · have same : ((InboundHandler.storing frame).submitting.toList ++ rest).map
                InboundFrame.id = bridge.lines connection := front.symm
            rw [same, Function.update_eq_self]
            exact queued
      · cases stepped
  | store connection succeeds =>
      simp only [InboundBridge.step] at stepped
      split at stepped
      · next frame storing =>
          cases stepped
          have front : bridge.lines connection =
              frame.id :: (bridge.connections connection).wire.map InboundFrame.id := by
            simp only [InboundBridge.lines, InboundBridge.handlers, storing]
            rfl
          rw [InboundBridge.lines_setHandler]
          cases succeeds with
          | true =>
              have same : ((InboundHandler.publishing frame).submitting.toList ++
                  (bridge.connections connection).wire).map InboundFrame.id =
                  bridge.lines connection := front.symm
              rw [InboundService.store, if_pos rfl, same, Function.update_eq_self]
              exact queued
          | false =>
              refine queued.retire front (failed frame ?_)
              rw [InboundBridge.failing, InboundBridge.handlers, storing]
              rfl
      · cases stepped
  | publish connection succeeds =>
      simp only [InboundBridge.step] at stepped
      split at stepped
      · next frame publishing =>
          cases stepped
          have front : bridge.lines connection =
              frame.id :: (bridge.connections connection).wire.map InboundFrame.id := by
            simp only [InboundBridge.lines, InboundBridge.handlers, publishing]
            rfl
          rw [InboundBridge.lines_setHandler]
          cases succeeds with
          | true =>
              exact queued.retire front (handled _ List.mem_cons_self)
          | false =>
              refine queued.retire front (failed frame ?_)
              rw [InboundBridge.failing, InboundBridge.handlers, publishing]
              rfl
      · cases stepped
  | ack connection sent =>
      simp only [InboundBridge.step] at stepped
      split at stepped
      · next id status acking =>
          have idle : bridge.lines connection =
              (bridge.connections connection).wire.map InboundFrame.id := by
            simp only [InboundBridge.lines, InboundBridge.handlers, acking]
            rfl
          have same : ∀ {handler : InboundHandler}, handler.submitting = none →
              (handler.submitting.toList ++ (bridge.connections connection).wire).map
                InboundFrame.id = bridge.lines connection := by
            intro handler none
            rw [none, idle]
            rfl
          split at stepped
          · cases stepped
            rw [InboundBridge.lines_setHandler, InboundBridge.lines_setConnection,
              Function.update_idem]
            simp only [InboundBridge.setConnection, Function.update_self]
            rw [same rfl, Function.update_eq_self]
            exact queued
          · cases stepped
            rw [InboundBridge.lines_setHandler, same rfl, Function.update_eq_self]
            exact queued
      · cases stepped

/-- A pending frame stays pending until it is processed. -/
theorem pending_step {bridge after : InboundBridge limit} (confirmed : bridge.Confirmed)
    (stepped : bridge.step action = some after) {id : String}
    (waits : id ∈ bridge.client.pending.map InboundFrame.id) :
    id ∈ after.client.pending.map InboundFrame.id ∨ id ∈ bridge.service.handled := by
  cases action with
  | create frame =>
      simp only [InboundBridge.step] at stepped
      split at stepped
      · cases stepped
      · cases stepped
        rw [List.map_append]
        exact Or.inl (List.mem_append_left _ waits)
  | send frame =>
      simp only [InboundBridge.step] at stepped
      split at stepped
      · split at stepped <;> cases stepped <;> exact Or.inl waits
      · cases stepped
  | readAck =>
      simp only [InboundBridge.step] at stepped
      split at stepped
      · next connection _ =>
          split at stepped
          · cases stepped
          · next acked status rest acks =>
              cases stepped
              change id ∈ (InboundBridge.settle bridge.client acked status).pending.map _ ∨ _
              have sent : (acked, status) ∈ (bridge.connections connection).acks :=
                acks ▸ List.mem_cons_self
              rw [InboundBridge.settle]
              split
              · next settled =>
                  by_cases same : id = acked
                  · refine Or.inr (same ▸ confirmed.acks connection acked status sent ?_)
                    rintro rfl
                    exact absurd settled (by decide)
                  · obtain ⟨frame, inside, rfl⟩ := List.mem_map.mp waits
                    refine Or.inl (List.mem_map_of_mem (List.mem_filter.mpr ⟨inside, ?_⟩))
                    exact decide_eq_true same
              · exact Or.inl waits
      · cases stepped
  | ack connection sent =>
      simp only [InboundBridge.step] at stepped
      split at stepped
      · split at stepped <;> cases stepped <;> exact Or.inl waits
      · cases stepped
  | connect | greeted | resumed | resend | drop | receive | store | publish =>
      simp only [InboundBridge.step] at stepped
      split at stepped
      · cases stepped
        exact Or.inl waits
      · cases stepped

/-- A frame whose submission failed is submitted no more, unless it was processed. -/
theorem Ordered.live_step (ordered : state.Ordered) (allowed : inOrder state action)
    {bridge : InboundBridge limit} (stepped : state.bridge.step action = some bridge)
    {connection : Nat} {frame : InboundFrame}
    (submitting : (bridge.handlers connection).submitting = some frame)
    (lost : frame.id ∈ ((state.bridge.failing action).map InboundFrame.id).toList ++ state.failed) :
    frame.id ∈ bridge.service.handled := by
  have effect := InboundBridge.step_effect stepped
  cases action with
  | create other =>
      obtain ⟨_, handlers, service, _⟩ := effect
      rw [service]
      exact ordered.live connection frame (handlers ▸ submitting) lost
  | receive other =>
      obtain ⟨arriving, read, _, handlers, service, _⟩ := effect
      rw [handlers] at submitting
      rw [service]
      rcases update_submitting submitting with ⟨_, own⟩ | ⟨_, kept⟩
      · rw [InboundBridge.submitting_receive own] at lost ⊢
        exact allowed arriving read lost
      · exact ordered.live connection frame kept lost
  | store other succeeds =>
      obtain ⟨stored, storing, handlers, service, _⟩ := effect
      have before : (state.bridge.handlers other).submitting = some stored := by
        rw [storing]
        rfl
      rw [handlers] at submitting
      cases succeeds with
      | true =>
          have same := Accounted.submitting_goesOn (.publishing stored) before rfl connection
          have earlier := ordered.live connection frame (same ▸ submitting) lost
          rw [service]
          exact earlier
      | false =>
          rw [service]
          rcases update_submitting submitting with ⟨_, own⟩ | ⟨elsewhere, kept⟩
          · cases own
          · rcases List.mem_append.mp lost with now | earlier
            · rw [InboundBridge.failing, before] at now
              have same : frame.id = stored.id := List.mem_singleton.mp now
              rcases allowed stored before with already | alone
              · exact same ▸ already
              · exact absurd same (alone connection frame elsewhere kept)
            · exact ordered.live connection frame kept earlier
  | publish other succeeds =>
      obtain ⟨published, publishing, handlers, service, _⟩ := effect
      have before := submitting_of_publishing publishing
      rw [handlers] at submitting
      cases succeeds with
      | true =>
          rw [service]
          rcases update_submitting submitting with ⟨_, own⟩ | ⟨_, kept⟩
          · cases own
          · exact List.mem_cons_of_mem _ (ordered.live connection frame kept lost)
      | false =>
          rw [service]
          rcases update_submitting submitting with ⟨_, own⟩ | ⟨elsewhere, kept⟩
          · cases own
          · rcases List.mem_append.mp lost with now | earlier
            · rw [InboundBridge.failing, before] at now
              have same : frame.id = published.id := List.mem_singleton.mp now
              rcases allowed published before with already | alone
              · exact same ▸ already
              · exact absurd same (alone connection frame elsewhere kept)
            · exact ordered.live connection frame kept earlier
  | ack other sent =>
      obtain ⟨_, _, _, handlers, service, _⟩ := effect
      rw [handlers] at submitting
      have handled : bridge.service.handled = state.bridge.service.handled := by
        rw [service]
        split <;> rfl
      rw [handled]
      rcases update_submitting submitting with ⟨_, own⟩ | ⟨_, kept⟩
      · split at own <;> cases own
      · exact ordered.live connection frame kept lost
  | connect | greeted | resumed | resend | drop | send | readAck =>
      obtain ⟨handlers, service, _⟩ := effect
      rw [service]
      exact ordered.live connection frame (handlers ▸ submitting) lost

/-- The frame in front of a line comes after frames that are done. -/
theorem Ordered.ready (ordered : state.Ordered) {connection : Nat} {frame : InboundFrame}
    (submitting : (state.bridge.handlers connection).submitting = some frame) {first : String}
    (comes : state.bridge.Before first frame.id) : state.Done first := by
  have follows := ordered.queued.inHand connection
  rw [InboundBridge.lines, submitting] at follows
  exact follows.front comes

/-- A frame that is submitted and done is processed. -/
theorem Ordered.processed (ordered : state.Ordered) {connection : Nat} {frame : InboundFrame}
    (submitting : (state.bridge.handlers connection).submitting = some frame)
    (already : state.Done frame.id) : frame.id ∈ state.bridge.service.handled :=
  already.elim id (ordered.live connection frame submitting)

/-- The frames are processed in order. -/
theorem Ordered.handled_step (ordered : state.Ordered) {bridge : InboundBridge limit}
    (stepped : state.bridge.step action = some bridge) :
    Logged state.bridge.Before state.Done bridge.service.handled.reverse := by
  have effect := InboundBridge.step_effect stepped
  cases action with
  | publish connection succeeds =>
      obtain ⟨frame, publishing, _, service, _⟩ := effect
      have submitting := submitting_of_publishing publishing
      rw [service]
      cases succeeds with
      | true =>
          have added : (frame.id :: state.bridge.service.handled).reverse =
              state.bridge.service.handled.reverse ++ [frame.id] := List.reverse_cons
          show Logged _ _ (frame.id :: state.bridge.service.handled).reverse
          rw [added]
          refine ordered.handled.add (fun first => ordered.ready submitting) (fun already => ?_)
            not_arrivedBefore_self
          exact List.mem_reverse.mpr (ordered.processed submitting already)
      | false => exact ordered.handled
  | store connection succeeds =>
      obtain ⟨_, _, _, service, _⟩ := effect
      rw [service]
      cases succeeds <;> exact ordered.handled
  | ack connection sent =>
      obtain ⟨_, _, _, _, service, _⟩ := effect
      rw [service]
      split <;> exact ordered.handled
  | create frame =>
      obtain ⟨_, _, service, _⟩ := effect
      exact service ▸ ordered.handled
  | receive connection =>
      obtain ⟨_, _, _, _, service, _⟩ := effect
      exact service ▸ ordered.handled
  | connect | greeted | resumed | resend | drop | send | readAck =>
      obtain ⟨_, service, _⟩ := effect
      exact service ▸ ordered.handled

/-- The messages are stored in order. -/
theorem Ordered.stored_step (ordered : state.Ordered) {bridge : InboundBridge limit}
    (stepped : state.bridge.step action = some bridge) :
    Logged state.bridge.Before state.Done bridge.service.stored := by
  have effect := InboundBridge.step_effect stepped
  cases action with
  | store connection succeeds =>
      obtain ⟨frame, storing, _, service, _⟩ := effect
      have submitting : (state.bridge.handlers connection).submitting = some frame := by
        rw [storing]
        rfl
      rw [service, InboundService.store]
      cases succeeds with
      | true =>
          rw [if_pos rfl]
          dsimp only
          split
          · next segments =>
              refine ordered.stored.add (fun first => ordered.ready submitting)
                (fun already => ?_) not_arrivedBefore_self
              exact ordered.confirmed.kept frame (ordered.confirmed.submitting _ _ submitting)
                segments (ordered.processed submitting already)
          · exact ordered.stored
      | false => exact ordered.stored
  | publish connection succeeds =>
      obtain ⟨_, _, _, service, _⟩ := effect
      rw [service]
      cases succeeds <;> exact ordered.stored
  | ack connection sent =>
      obtain ⟨_, _, _, _, service, _⟩ := effect
      rw [service]
      split <;> exact ordered.stored
  | create frame =>
      obtain ⟨_, _, service, _⟩ := effect
      exact service ▸ ordered.stored
  | receive connection =>
      obtain ⟨_, _, _, _, service, _⟩ := effect
      exact service ▸ ordered.stored
  | connect | greeted | resumed | resend | drop | send | readAck =>
      obtain ⟨_, service, _⟩ := effect
      exact service ▸ ordered.stored

/-- An action creates a frame or does not. -/
theorem not_create_or (action : InboundAction) :
    (∃ frame, action = .create frame) ∨ ∀ frame, action ≠ .create frame := by
  by_cases created : ∃ frame, action = .create frame
  · exact Or.inl created
  · exact Or.inr (not_exists.mp created)

/-- What came before a known frame stays when a frame is created. -/
theorem before_create {bridge after : InboundBridge limit} {frame : InboundFrame}
    (stepped : bridge.step (.create frame) = some after) {first second : String}
    (known : second ∈ bridge.client.created.map InboundFrame.id) (comes : after.Before first second) :
    bridge.Before first second := by
  obtain ⟨_, _, _, created⟩ := InboundBridge.step_effect stepped
  rw [InboundBridge.Before, created, List.map_append, List.map_singleton] at comes
  exact (arrivedBefore_append known).mp comes

/-- Frames in hand are known. -/
theorem lines_known {bridge : InboundBridge limit} (confirmed : bridge.Confirmed) {connection : Nat}
    {id : String} (member : id ∈ bridge.lines connection) :
    id ∈ bridge.client.created.map InboundFrame.id := by
  obtain ⟨frame, inside, rfl⟩ := List.mem_map.mp member
  apply List.mem_map_of_mem
  rcases List.mem_append.mp inside with submits | waits
  · exact confirmed.submitting connection frame (Option.mem_toList.mp submits)
  · exact confirmed.known.wire connection frame waits

/-- A new frame comes last in every line. -/
theorem Ordered.queued_create (ordered : state.Ordered) {frame : InboundFrame}
    {bridge : InboundBridge limit} (stepped : state.bridge.step (.create frame) = some bridge) :
    Queued bridge.Before state.Done bridge.lines bridge.client.link bridge.client.pending := by
  obtain ⟨fresh, _, _, created⟩ := InboundBridge.step_effect stepped
  have earlier : ∀ id, ((∃ connection, id ∈ state.bridge.lines connection) ∨
      id ∈ state.bridge.client.pending.map InboundFrame.id ∨ ∃ connection rest,
        state.bridge.client.link = .online connection rest ∧ id ∈ rest.map InboundFrame.id) →
      ∀ first, bridge.Before first id → state.bridge.Before first id := by
    intro id place first
    apply before_create stepped
    rcases place with ⟨connection, inside⟩ | waits | ⟨connection, rest, online, left⟩
    · exact lines_known ordered.confirmed inside
    · obtain ⟨other, inside, rfl⟩ := List.mem_map.mp waits
      exact List.mem_map_of_mem (ordered.confirmed.known.pending other inside)
    · obtain ⟨other, inside, rfl⟩ := List.mem_map.mp left
      exact List.mem_map_of_mem (ordered.confirmed.known.resends connection rest online other inside)
  have ready : ∀ first, bridge.Before first frame.id →
      state.Done first ∨ first ∈ state.bridge.client.pending.map InboundFrame.id := by
    intro first comes
    rw [InboundBridge.Before, created, List.map_append, List.map_singleton] at comes
    exact ordered.waiting first ((arrivedBefore_last fresh).mp comes)
  have queued := ordered.queued.create earlier ready
  simp only [InboundBridge.step] at stepped
  split at stepped
  · cases stepped
  · cases stepped
    exact queued

/-- Every frame is done or pending. -/
theorem Ordered.waiting_step (ordered : state.Ordered) {bridge : InboundBridge limit}
    (stepped : state.bridge.step action = some bridge) {id : String}
    (known : id ∈ bridge.client.created.map InboundFrame.id) :
    state.Done id ∨ id ∈ bridge.client.pending.map InboundFrame.id := by
  have older (before : id ∈ state.bridge.client.created.map InboundFrame.id) :
      state.Done id ∨ id ∈ bridge.client.pending.map InboundFrame.id := by
    rcases ordered.waiting id before with already | waits
    · exact Or.inl already
    · rcases pending_step ordered.confirmed stepped waits with still | already
      · exact Or.inr still
      · exact Or.inl (Or.inl already)
  rcases not_create_or action with ⟨frame, rfl⟩ | old
  · obtain ⟨_, _, _, created⟩ := InboundBridge.step_effect stepped
    rw [created, List.map_append] at known
    rcases List.mem_append.mp known with before | now
    · exact older before
    · simp only [InboundBridge.step] at stepped
      split at stepped
      · cases stepped
      · cases stepped
        rw [List.map_append]
        exact Or.inr (List.mem_append_right _ now)
  · exact older (created_step stepped old ▸ known)

/-- Every step in order keeps the events in order. -/
theorem Ordered.step (ordered : state.Ordered) (allowed : inOrder state action)
    (stepped : state.step action = some next) : next.Ordered := by
  have kept : ∀ id, state.Done id → next.Done id := fun _ => done_step stepped
  obtain ⟨bridge, moved, rfl⟩ := Option.map_eq_some_iff.mp stepped
  have confirmed := ordered.confirmed.step moved
  have earlier : ∀ log : List String, (∀ id ∈ log, id ∈ bridge.client.created.map InboundFrame.id) →
      (∀ frame, action = .create frame →
        ∀ id ∈ log, id ∈ state.bridge.client.created.map InboundFrame.id) →
      ∀ second ∈ log, ∀ first, bridge.Before first second → state.bridge.Before first second := by
    intro log known old second member first comes
    rcases not_create_or action with ⟨frame, rfl⟩ | unchanged
    · exact before_create moved (old frame rfl second member) comes
    · exact before_step moved unchanged ▸ comes
  refine ⟨confirmed, ?_, ?_, ?_, ?_, ?_⟩
  · show Queued bridge.Before _ bridge.lines bridge.client.link bridge.client.pending
    rcases not_create_or action with ⟨frame, rfl⟩ | old
    · exact (ordered.queued_create moved).mono kept
    · rw [before_step moved old]
      have queued := ordered.queued.mono kept
      cases client : action.client with
      | true =>
          refine queued_client ordered.confirmed (fun id already => kept id (Or.inl already)) ?_
            queued moved client old
          rintro frame rfl connection socket first comes
          exact (allowed connection socket first comes).imp_left (kept first)
      | false =>
          refine queued_handler ordered.confirmed (fun id already => Or.inl already) ?_ queued moved
            client
          intro frame fails
          refine Or.inr (List.mem_append_left _ ?_)
          rw [fails]
          exact List.mem_singleton_self _
  · exact fun id known => (ordered.waiting_step moved known).imp_left (kept id)
  · exact fun connection frame => ordered.live_step allowed moved
  · refine (ordered.handled_step moved).mono kept (earlier _ ?_ ?_)
    · exact fun id member => confirmed.handled id (List.mem_reverse.mp member)
    · rintro frame rfl id member
      obtain ⟨_, _, service, _⟩ := InboundBridge.step_effect moved
      exact ordered.confirmed.handled id (service ▸ List.mem_reverse.mp member)
  · refine (ordered.stored_step moved).mono kept (earlier _ confirmed.stored ?_)
    rintro frame rfl id member
    obtain ⟨_, _, service, _⟩ := InboundBridge.step_effect moved
    exact ordered.confirmed.stored id (service ▸ member)

/-- A recorded run is a run of the bridge. -/
def simulation : (machine limit).Simulation (InboundBridge.machine limit) fun _ => True where
  view := RecordedBridge.bridge
  shown _ action := some action
  started := by
    rintro _ rfl
    rfl
  stepped := by
    intro before action after _ stepped
    obtain ⟨bridge, moved, rfl⟩ := Option.map_eq_some_iff.mp stepped
    exact moved

/-- In runs in order the events are in order. -/
theorem ordered_of_reachable (reached : (machine limit).Reachable inOrder state) : state.Ordered :=
  reached.invariant (fun _ started => started ▸ ordered_initial)
    fun _ _ _ ordered allowed stepped => ordered.step allowed stepped

end RecordedBridge

/-- **Inbound frames keep their order.** In runs in which no sender overtakes an older frame, and no
frame is submitted again or elsewhere when its submission has failed: of two frames that have been
processed, the one that was created first was processed first, and so their messages were stored. -/
theorem inbound_order {limit : Nat} {state : RecordedBridge limit}
    (reached : (RecordedBridge.machine limit).Reachable RecordedBridge.inOrder state)
    {first second : String} (comes : state.bridge.Before first second) :
    (first ∈ state.bridge.service.handled → second ∈ state.bridge.service.handled →
      state.bridge.service.handled.reverse.idxOf first <
        state.bridge.service.handled.reverse.idxOf second) ∧
    (first ∈ state.bridge.service.stored → second ∈ state.bridge.service.stored →
      state.bridge.service.stored.idxOf first < state.bridge.service.stored.idxOf second) := by
  have ordered := RecordedBridge.ordered_of_reachable reached
  refine ⟨fun one other => ?_, fun one other => ?_⟩
  · exact ordered.handled.ordered first (List.mem_reverse.mpr one) second
      (List.mem_reverse.mpr other) comes
  · exact ordered.stored.ordered first one second other comes

namespace RecordedBridge

/-- Two frames, of which the first is lost with its connection. -/
def lostFrame : InboundFrame := ⟨"in_1", true, true⟩

/-- A second message. -/
def newFrame : InboundFrame := ⟨"in_2", true, true⟩

/-- A frame is lost with its connection. -/
def lostRun : List InboundAction :=
  [.connect, .greeted, .resumed, .create lostFrame, .send lostFrame, .drop 0]

/-- Both frames are processed, one after the other. -/
def processRun : List InboundAction :=
  [.receive 1, .store 1 true, .publish 1 true, .ack 1 true,
    .receive 1, .store 1 true, .publish 1 true, .ack 1 true]

/-- The new frame is created when the lost one has been sent again. -/
def orderlyRun : List InboundAction :=
  lostRun ++ [.connect, .greeted, .resumed, .resend, .create newFrame, .send newFrame] ++ processRun

/-- The new frame is created when the client is ready again, and sent ahead of the lost one. -/
def overtakingRun : List InboundAction :=
  lostRun ++ [.connect, .greeted, .create newFrame, .resumed, .send newFrame, .resend] ++ processRun

/-- Steps in which no submission fails and no sender finds an older frame that is not in hand. -/
def smooth : Machine.Guard (RecordedBridge 2048) InboundAction := fun state action =>
  match action with
  | .send frame => ∀ connection ∈ state.bridge.client.link.socket,
      ∀ first ∈ (state.bridge.client.created.map InboundFrame.id).takeWhile (· ≠ frame.id),
        state.Done first ∨ first ∈ state.bridge.lines connection
  | .receive connection => ∀ frame ∈ state.bridge.reads (.receive connection),
      frame.id ∈ state.failed → frame.id ∈ state.bridge.service.handled
  | .store _ succeeds | .publish _ succeeds => succeeds = true
  | _ => True

instance : DecidableRel smooth := fun state action =>
  match action with
  | .send frame => inferInstanceAs (Decidable (∀ connection ∈ state.bridge.client.link.socket,
      ∀ first ∈ (state.bridge.client.created.map InboundFrame.id).takeWhile (· ≠ frame.id), _))
  | .receive connection =>
      inferInstanceAs (Decidable (∀ frame ∈ state.bridge.reads (.receive connection), _ → _))
  | .store _ succeeds | .publish _ succeeds => inferInstanceAs (Decidable (succeeds = true))
  | .connect | .greeted | .resumed | .resend | .drop _ | .create _ | .readAck | .ack .. =>
      inferInstanceAs (Decidable True)

/-- A smooth run is in order. -/
theorem inOrder_of_smooth (state : RecordedBridge 2048) (action : InboundAction)
    (allowed : smooth state action) : inOrder state action := by
  cases action with
  | store connection succeeds | publish connection succeeds =>
      cases allowed
      exact trivial
  | send frame => exact allowed
  | receive connection => exact allowed
  | connect | greeted | resumed | resend | drop | create | readAck | ack => exact trivial

/-- The state after the orderly run. -/
def orderlyState : RecordedBridge 2048 := ((machine 2048).replay smooth {} orderlyRun).getD {}

end RecordedBridge

/-- The lost frame is processed before the new one. -/
theorem inbound_order_orderly :
    RecordedBridge.orderlyState.bridge.service.handled.reverse.idxOf "in_1" <
      RecordedBridge.orderlyState.bridge.service.handled.reverse.idxOf "in_2" := by
  have replayed : (RecordedBridge.machine 2048).replay RecordedBridge.smooth {}
      RecordedBridge.orderlyRun = some RecordedBridge.orderlyState := rfl
  have reached := (Machine.Reachable.of_replay rfl replayed).mono RecordedBridge.inOrder_of_smooth
  have comes : RecordedBridge.orderlyState.bridge.Before "in_1" "in_2" := by decide
  exact (inbound_order reached comes).1 (by decide) (by decide)

/-- A new frame is processed before the lost one. -/
theorem inbound_overtaken :
    ∃ bridge : InboundBridge 2048,
      (InboundBridge.machine 2048).Reachable Machine.anyStep bridge ∧
      bridge.Before "in_1" "in_2" ∧ bridge.service.handled.reverse = ["in_2", "in_1"] ∧
      bridge.service.stored = ["in_2", "in_1"] := by
  have replayed : (InboundBridge.machine 2048).replay Machine.anyStep {}
      RecordedBridge.overtakingRun =
      some (((InboundBridge.machine 2048).replay Machine.anyStep {}
        RecordedBridge.overtakingRun).getD {}) := rfl
  refine ⟨_, .of_replay rfl replayed, ?_, ?_, ?_⟩ <;> decide

end FairyClaw
