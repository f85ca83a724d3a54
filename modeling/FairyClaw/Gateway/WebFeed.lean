import FairyClaw.Gateway.WebGateway

/-! # Sessions as feeds

The sockets, the pushes and the deliveries of one session make up a feed, whose subscribers are the
sockets that are bound to it. A binding subscribes, and every step of the web gateway is a step of
the feed or leaves it as it is (`FairyClaw.WebGateway.simulation`).
-/

namespace FairyClaw

open Foundation

/-- The call is at its targets. -/
def PushStage.isSending : PushStage → Bool
  | .sending _ => true
  | _ => false

/-- Deliveries to a socket that a call will still make for the session of its push. -/
def PushCall.owed (session : String) (call : PushCall) (socket : Socket) : Nat :=
  match call.stage with
  | .sending remaining => if call.push.sessionId = session then remaining.count socket else 0
  | _ => 0

/-- Deliveries of a push that a replay of the session will still make. -/
def SocketPhase.owed (session : String) (number : Nat) : SocketPhase → Nat
  | .replaying sessionId rest =>
      if sessionId = session then (rest.map WebPush.number).count number else 0
  | _ => 0

/-- A delivery of a push of the session to a socket that is bound to it. -/
structure PushDelivery.Through (session : String) (socket : Socket) (number : Nat)
    (delivery : PushDelivery) : Prop where
  receiver : delivery.socket = socket
  which : delivery.push.number = number
  own : delivery.push.sessionId = session
  way : delivery.path = .live ∨ delivery.path = .replay session

instance (session : String) (socket : Socket) (number : Nat) (delivery : PushDelivery) :
    Decidable (delivery.Through session socket number) :=
  decidable_of_iff (delivery.socket = socket ∧ delivery.push.number = number ∧
      delivery.push.sessionId = session ∧
      (delivery.path = .live ∨ delivery.path = .replay session))
    ⟨fun ⟨receiver, which, own, way⟩ => ⟨receiver, which, own, way⟩,
      fun through => ⟨through.receiver, through.which, through.own, through.way⟩⟩

namespace WebGateway

variable (session : String) (gateway : WebGateway)

/-- Deliveries of a push through the socket's binding to the session. -/
def received (socket : Socket) (number : Nat) : Nat :=
  gateway.delivered.countP fun delivery => delivery.Through session socket number

/-- Deliveries that the call of a push will still make through the socket's binding. -/
def callOwed (socket : Socket) (number : Nat) : Nat :=
  match gateway.calls number with
  | some call => call.owed session socket
  | none => 0

/-- Deliveries through the socket's binding to the session that are still to be made. -/
def owed (socket : Socket) (number : Nat) : Nat :=
  (gateway.handlers socket).phase.owed session number + gateway.callOwed session socket number

/-- The pushes of the session. -/
def pushes : List WebPush := gateway.queued.filter fun push => push.sessionId = session

/-- The session as a feed. -/
def feed : Feed Socket Nat where
  subscribers := (gateway.sessionSockets session).toFinset
  published := (gateway.pushes session).map WebPush.number
  owed := gateway.owed session
  received := gateway.received session

/-- What a step does to the feed of the session. -/
def shown : WebGatewayAction → Option (FeedAction Socket Nat)
  | .send outbound _ =>
      if outbound.sessionId = session then some (.publish gateway.queued.length) else none
  | .deliver number socket =>
      match gateway.calls number with
      | some call =>
          match call.stage with
          | .sending _ =>
              if call.push.sessionId = session then some (.deliver socket number) else none
          | _ => none
      | none => none
  | .replay socket =>
      match (gateway.handlers socket).phase with
      | .replaying sessionId (push :: _) =>
          if sessionId = session then some (.deliver socket push.number) else none
      | _ => none
  | .bind socket sessionId =>
      if strip sessionId = session then some (.subscribe socket) else none
  | .unbind socket =>
      if session ∈ (gateway.handlers socket).boundSessions then some (.leave socket) else none
  | _ => none

/-! ## What holds in every state -/

/-- Pushes are numbered in the order of the queue, each has its call, a socket is bound to a session
once, and the backlog of a session holds its last pushes. -/
structure Valid : Prop where
  numbered : ∀ number (push : WebPush), gateway.queued[number]? = some push →
    push.number = number
  calls : ∀ number call, gateway.calls number = some call →
    gateway.queued[number]? = some call.push
  sockets : ∀ session, (gateway.sessionSockets session).Nodup
  backlog : ∀ session ≠ outboundBroadcastSessionId,
    gateway.backlog session = recent 128 (gateway.pushes session)
  broadcast : gateway.backlog outboundBroadcastSessionId = []
  replays : ∀ socket sessionId rest,
    (gateway.handlers socket).phase = .replaying sessionId rest →
      ∀ push ∈ rest, push.sessionId = sessionId

variable {session} {gateway} {next : WebGateway} {call : PushCall}

/-- At the start the gateway is valid. -/
theorem valid_initial : ({} : WebGateway).Valid :=
  ⟨nofun, nofun, fun _ => List.nodup_nil, fun _ _ => List.drop_nil.symm, rfl, nofun⟩

/-- A call has the number of a queued push. -/
theorem Valid.number_lt (valid : gateway.Valid) {number : Nat}
    (called : gateway.calls number = some call) : number < gateway.queued.length :=
  (List.getElem?_eq_some_iff.mp (valid.calls number call called)).1

/-- A call has the number of its push. -/
theorem Valid.call_number (valid : gateway.Valid) {number : Nat}
    (called : gateway.calls number = some call) : call.push.number = number :=
  valid.numbered number call.push (valid.calls number call called)

/-- A socket is added once. -/
theorem nodup_addSocket {sockets : List Socket} (nodup : sockets.Nodup) (socket : Socket) :
    (addSocket sockets socket).Nodup := by
  unfold addSocket
  split
  · exact nodup
  · exact nodup.append (List.nodup_singleton socket) (by simpa using ‹_›)

/-- Adding a socket inserts it. -/
theorem toFinset_addSocket (sockets : List Socket) (socket : Socket) :
    (addSocket sockets socket).toFinset = insert socket sockets.toFinset := by
  ext other
  unfold addSocket
  split
  · simp only [List.mem_toFinset, Finset.mem_insert]
    exact ⟨Or.inr, fun either => either.elim (fun same => same ▸ ‹_›) id⟩
  · simp only [List.mem_toFinset, Finset.mem_insert, List.mem_append, List.mem_singleton]
    exact or_comm

/-- A replay is of pushes of its session. -/
theorem Valid.backlog_session (valid : gateway.Valid) {push : WebPush}
    (member : push ∈ gateway.backlog session) : push.sessionId = session := by
  by_cases own : session = outboundBroadcastSessionId
  · rw [own, valid.broadcast] at member
    cases member
  · rw [valid.backlog session own] at member
    exact of_decide_eq_true (List.mem_filter.mp (List.mem_of_mem_drop member)).2

/-- Another stage of a call keeps the gateway valid. -/
theorem Valid.setStage (valid : gateway.Valid) {number : Nat}
    (called : gateway.calls number = some call) (stage : PushStage) :
    (gateway.setStage call stage).Valid :=
  { valid with
    calls := fun other current found => by
      rw [setStage_calls] at found
      split at found
      · rename_i same
        cases found
        rw [same, valid.call_number called]
        exact valid.calls number call called
      · exact valid.calls other current found }

/-- A phase that replays pushes of its session keeps the gateway valid. -/
theorem Valid.setPhase (valid : gateway.Valid) {socket : Socket} {phase : SocketPhase}
    (replays : ∀ sessionId rest, phase = .replaying sessionId rest →
      ∀ push ∈ rest, push.sessionId = sessionId) : (gateway.setPhase socket phase).Valid :=
  { valid with
    replays := fun other sessionId rest found => by
      rw [setPhase_handlers] at found
      split at found
      · exact replays sessionId rest found
      · exact valid.replays other sessionId rest found }

/-- A delivery keeps the gateway valid. -/
theorem Valid.deliverTo (valid : gateway.Valid) (socket : Socket) (push : WebPush)
    (path : PushPath) : (gateway.deliverTo socket push path).Valid := { valid with }

/-- An item of a longer list is one of the list, or the last one. -/
theorem getElem?_append_singleton {Item : Type} {items : List Item} {item found : Item} {index : Nat}
    (at_index : (items ++ [item])[index]? = some found) :
    items[index]? = some found ∨ (index = items.length ∧ found = item) := by
  rcases Nat.lt_trichotomy index items.length with early | last | late
  · rw [List.getElem?_append_left early] at at_index
    exact Or.inl at_index
  · subst last
    rw [List.getElem?_concat_length] at at_index
    exact Or.inr ⟨rfl, (Option.some.inj at_index).symm⟩
  · rw [List.getElem?_eq_none (by rw [List.length_append, List.length_singleton]; omega)] at at_index
    cases at_index

/-- A queued push is one of its session. -/
theorem pushes_append (push : WebPush) {next : WebGateway}
    (grown : next.queued = gateway.queued ++ [push]) : next.pushes session =
      gateway.pushes session ++ if push.sessionId = session then [push] else [] := by
  rw [pushes, grown, List.filter_append, pushes]
  congr 1
  by_cases own : push.sessionId = session
  · simp only [List.filter_singleton, own, decide_true, ↓reduceIte, Bool.cond_true]
  · simp only [List.filter_singleton, own, decide_false, ↓reduceIte, Bool.cond_false]

/-- A queued push keeps the gateway valid. -/
theorem Valid.queue (valid : gateway.Valid) (outbound : GatewayOutboundMessage)
    (content : JsonObject) : (gateway.queue outbound content).Valid := by
  obtain ⟨sockets, handlers, _⟩ := @queue_others gateway outbound content
  have fresh (number : Nat) (push : WebPush)
      (found : (gateway.queue outbound content).queued[number]? = some push) :
      gateway.queued[number]? = some push ∨
        (number = gateway.queued.length ∧ push = gateway.newPush outbound content) := by
    rw [queue_queued] at found
    exact getElem?_append_singleton found
  refine ⟨fun number push found => ?_, fun number call called => ?_, sockets ▸ valid.sockets,
    fun session own => ?_, ?_, handlers ▸ valid.replays⟩
  · rcases fresh number push found with old | ⟨rfl, rfl⟩
    · exact valid.numbered number push old
    · rfl
  · rw [queue_calls] at called
    rw [queue_queued]
    split at called
    · rename_i last
      cases called
      rw [last]
      exact List.getElem?_concat_length
    · rw [List.getElem?_append_left (valid.number_lt called)]
      exact valid.calls number call called
  · rw [queue_backlog, pushes_append _ queue_queued, valid.backlog session own]
    have named : (gateway.newPush outbound content).sessionId = outbound.sessionId := rfl
    rw [named]
    by_cases own_push : outbound.sessionId = session
    · rw [if_neg (own_push ▸ own), if_pos own_push.symm, if_pos own_push, appendBounded,
        recent_append]
    · rw [if_neg (Ne.symm own_push), ite_self, if_neg own_push, List.append_nil]
  · rw [queue_backlog]
    split
    · exact valid.broadcast
    · rename_i other
      rw [if_neg (Ne.symm other), valid.broadcast]

/-- Binding a socket keeps the gateway valid. -/
theorem Valid.bindSession (valid : gateway.Valid) (socket : Socket) (sessionId : String) :
    (gateway.bindSession socket sessionId).Valid :=
  { valid with
    sockets := fun other => by
      rw [bindSession_sessionSockets]
      split
      · exact nodup_addSocket (valid.sockets sessionId) socket
      · exact valid.sockets other
    replays := fun other replayed rest found => by
      rw [bindSession_handlers] at found
      split at found
      · cases found
        exact fun push member => valid.backlog_session member
      · exact valid.replays other replayed rest found }

/-- Every step keeps the gateway valid. -/
theorem Valid.step (valid : gateway.Valid) {action : WebGatewayAction}
    (stepped : gateway.step action = some next) : next.Valid := by
  have effect := step_cases stepped
  cases action with
  | send outbound download =>
      obtain ⟨content, _, rfl⟩ := effect
      exact valid.queue outbound content
  | deliver number socket =>
      obtain ⟨call, called, ⟨_, _, _, rfl⟩ | ⟨_, _, _, _, _, rfl⟩⟩ := effect
      · exact (valid.deliverTo socket call.push _).setStage called _
      · exact (valid.deliverTo socket call.push _).setStage called _
  | endLoop number =>
      obtain ⟨call, called, ⟨_, ⟨_, _, rfl⟩ | ⟨_, rfl⟩⟩ | ⟨_, _, _, rfl⟩⟩ := effect
      · exact valid.setStage called _
      · exact valid.setStage called _
      · exact valid.setStage called _
  | lookUp number parent =>
      obtain ⟨call, called, _, ⟨_, rfl⟩ | ⟨_, _, rfl⟩⟩ := effect
      · exact valid.setStage called _
      · exact valid.setStage called _
  | route number =>
      obtain ⟨call, called, _, _, rfl⟩ := effect
      exact valid.setStage called _
  | connect socket =>
      obtain ⟨_, rfl⟩ := effect
      have registered : (gateway.setPhase socket (.registering gateway.broadcastBacklog)).Valid :=
        valid.setPhase nofun
      exact { registered with }
  | replay socket =>
      obtain ⟨push, rest, ⟨_, rfl⟩ | ⟨sessionId, replaying, rfl⟩⟩ := effect
      · exact (valid.deliverTo socket push _).setPhase nofun
      · refine (valid.deliverTo socket push _).setPhase fun other left same => ?_
        cases same
        exact fun push member => valid.replays socket sessionId _ replaying push
          (List.mem_cons_of_mem _ member)
  | endReplay socket =>
      obtain ⟨_, rfl⟩ := effect
      exact valid.setPhase nofun
  | bind socket sessionId =>
      obtain ⟨_, _, rfl⟩ := effect
      exact valid.bindSession socket (strip sessionId)
  | disconnect socket =>
      obtain ⟨_, rfl⟩ := effect
      have left : (gateway.setPhase socket .unregistered).Valid := valid.setPhase nofun
      exact { left with }
  | unbind socket =>
      obtain ⟨_, rfl⟩ := effect
      have closed : (gateway.setPhase socket .closed).Valid := valid.setPhase nofun
      refine { closed with sockets := fun session => ?_ }
      simp only
      split
      · exact (valid.sockets session).erase socket
      · exact valid.sockets session

/-! ## The feed of a session -/

/-- The feed of a session depends on its sockets, pushes and deliveries. -/
theorem feed_congr (sockets : next.sessionSockets session = gateway.sessionSockets session)
    (queued : next.queued = gateway.queued)
    (owed : ∀ each other, next.owed session each other = gateway.owed session each other)
    (received : ∀ each other, next.received session each other =
      gateway.received session each other) : next.feed session = gateway.feed session := by
  have same_owed : next.owed session = gateway.owed session := funext₂ owed
  have same_received : next.received session = gateway.received session := funext₂ received
  have same_pushes : next.pushes session = gateway.pushes session := by
    rw [pushes, queued, pushes]
  rw [feed, sockets, same_pushes, same_owed, same_received, feed]

/-- A step that makes a delivery. -/
theorem feed_deliver {socket : Socket} {number : Nat}
    (owing : gateway.owed session socket number ≠ 0)
    (sockets : next.sessionSockets = gateway.sessionSockets)
    (queued : next.queued = gateway.queued)
    (owed : ∀ each other, next.owed session each other =
      Feed.debit (gateway.owed session) socket number each other)
    (received : ∀ each other, next.received session each other =
      Feed.credit (gateway.received session) socket number each other) :
    (gateway.feed session).step 128 (.deliver socket number) = some (next.feed session) := by
  have paid : next.owed session = Feed.debit (gateway.owed session) socket number := funext₂ owed
  have got : next.received session = Feed.credit (gateway.received session) socket number :=
    funext₂ received
  have same_pushes : next.pushes session = gateway.pushes session := by
    rw [pushes, queued, pushes]
  refine (if_neg owing).trans (congrArg some ?_)
  simp only [feed, sockets, same_pushes, paid, got]

/-- A delivery is received by its socket. -/
theorem received_deliverTo (socket : Socket) (push : WebPush) (path : PushPath) (each : Socket)
    (other : Nat) : (gateway.deliverTo socket push path).received session each other =
      gateway.received session each other +
        if (⟨socket, push, path⟩ : PushDelivery).Through session each other then 1 else 0 := by
  rw [received, deliverTo, List.countP_append, List.countP_singleton, received]
  simp only [decide_eq_true_eq]

/-- A delivery through the binding. -/
theorem received_deliverTo_own (socket : Socket) {push : WebPush} {path : PushPath}
    (own : push.sessionId = session) (way : path = .live ∨ path = .replay session) (each : Socket)
    (other : Nat) : (gateway.deliverTo socket push path).received session each other =
      Feed.credit (gateway.received session) socket push.number each other := by
  rw [received_deliverTo, Feed.credit]
  by_cases same : each = socket ∧ other = push.number
  · rw [if_pos same, if_pos ⟨same.1.symm, same.2.symm, own, way⟩]
  · rw [if_neg same, if_neg fun through => same ⟨through.receiver.symm, through.which.symm⟩,
      Nat.add_zero]

/-- A delivery that is not made through the binding. -/
theorem received_deliverTo_other (socket : Socket) {push : WebPush} {path : PushPath}
    (apart : push.sessionId = session → path ≠ .live ∧ path ≠ .replay session) (each : Socket)
    (other : Nat) : (gateway.deliverTo socket push path).received session each other =
      gateway.received session each other := by
  rw [received_deliverTo, if_neg, Nat.add_zero]
  intro through
  obtain ⟨unlive, unreplayed⟩ := apart through.own
  exact through.way.elim unlive unreplayed

/-- A call at another stage owes what that stage owes. -/
theorem callOwed_setStage (call : PushCall) (stage : PushStage) (each : Socket) (other : Nat) :
    (gateway.setStage call stage).callOwed session each other =
      if other = call.push.number then ({ call with stage := stage } : PushCall).owed session each
      else gateway.callOwed session each other := by
  unfold callOwed
  by_cases own : other = call.push.number
  · simp only [setStage_calls, if_pos own]
  · simp only [setStage_calls, if_neg own]

/-- What is owed of a push, its call owes. -/
theorem Valid.callOwed_eq (valid : gateway.Valid) {number : Nat}
    (called : gateway.calls number = some call) (each : Socket) :
    gateway.callOwed session each call.push.number = call.owed session each := by
  rw [callOwed, valid.call_number called, called]

/-- A socket in another phase is owed what that phase owes. -/
theorem owed_setPhase (socket : Socket) (phase : SocketPhase) (each : Socket) (other : Nat) :
    (gateway.setPhase socket phase).owed session each other =
      (if each = socket then phase.owed session other
        else (gateway.handlers each).phase.owed session other) +
        gateway.callOwed session each other := by
  rw [owed, setPhase_handlers]
  split <;> rfl

/-- A call goes on and owes as much as before. -/
theorem Valid.feed_setStage (valid : gateway.Valid) {number : Nat}
    (called : gateway.calls number = some call) {stage : PushStage}
    (same : ∀ each, ({ call with stage := stage } : PushCall).owed session each =
      call.owed session each) : (gateway.setStage call stage).feed session = gateway.feed session := by
  refine feed_congr rfl rfl (fun each other => ?_) fun _ _ => rfl
  rw [owed, callOwed_setStage, owed]
  congr 1
  split
  · rename_i number_eq
    rw [same, number_eq, valid.callOwed_eq called]
  · rfl

/-- A handler goes on and owes as much as before. -/
theorem feed_setPhase {socket : Socket} {phase : SocketPhase}
    (same : ∀ number, phase.owed session number =
      (gateway.handlers socket).phase.owed session number) :
    (gateway.setPhase socket phase).feed session = gateway.feed session := by
  refine feed_congr rfl rfl (fun each other => ?_) fun _ _ => rfl
  rw [owed_setPhase, owed]
  congr 1
  split
  · rename_i own
    rw [own, same]
  · rfl

/-- A call makes one of its deliveries. -/
theorem Valid.feed_send (valid : gateway.Valid) {number : Nat} {socket : Socket}
    {remaining : List Socket} (called : gateway.calls number = some call)
    (sending : call.stage = .sending remaining) (listed : socket ∈ remaining)
    (own : call.push.sessionId = session) :
    (gateway.feed session).step 128 (.deliver socket number) =
      some (((gateway.deliverTo socket call.push .live).setStage call
        (.sending (remaining.erase socket))).feed session) := by
  have owes (each : Socket) : call.owed session each = remaining.count each := by
    unfold PushCall.owed
    simp only [sending, if_pos own]
  have leaves (each : Socket) :
      ({ call with stage := .sending (remaining.erase socket) } : PushCall).owed session each =
        (remaining.erase socket).count each := if_pos own
  have positive := List.count_pos_iff.mpr listed
  have numbered := valid.call_number called
  have calling (each : Socket) : gateway.callOwed session each number = remaining.count each := by
    rw [← numbered, valid.callOwed_eq called, owes]
  refine feed_deliver ?_ rfl rfl (fun each other => ?_) fun each other => ?_
  · rw [owed, calling]
    omega
  · rw [owed, callOwed_setStage, leaves, numbered, Feed.debit, owed]
    by_cases this_push : other = number
    · rw [if_pos this_push, this_push, calling]
      by_cases this_socket : each = socket
      · rw [this_socket, List.count_erase_self, if_pos ⟨rfl, rfl⟩]
        exact (Nat.add_sub_assoc positive _).symm
      · rw [List.count_erase_of_ne this_socket, if_neg fun both => this_socket both.1]
        rfl
    · rw [if_neg this_push, if_neg fun both => this_push both.2]
      rfl
  · rw [← numbered]
    exact received_deliverTo_own socket own (Or.inl rfl) each other

/-- A replay makes one of its deliveries. -/
theorem Valid.feed_replay (valid : gateway.Valid) {socket : Socket} {push : WebPush}
    {rest : List WebPush}
    (replaying : (gateway.handlers socket).phase = .replaying session (push :: rest)) :
    (gateway.feed session).step 128 (.deliver socket push.number) =
      some (((gateway.deliverTo socket push (.replay session)).setPhase socket
        (.replaying session rest)).feed session) := by
  have own := valid.replays socket session _ replaying push List.mem_cons_self
  have owes (number : Nat) : (gateway.handlers socket).phase.owed session number =
      ((push :: rest).map WebPush.number).count number := by
    rw [replaying]
    exact if_pos rfl
  have leaves (number : Nat) : (SocketPhase.replaying session rest).owed session number =
      (rest.map WebPush.number).count number := if_pos rfl
  refine feed_deliver ?_ rfl rfl (fun each other => ?_)
    fun each other => received_deliverTo_own socket own (Or.inr rfl) each other
  · rw [owed, owes, List.map_cons, List.count_cons_self]
    omega
  · rw [owed_setPhase, Feed.debit, owed]
    by_cases this_socket : each = socket
    · have unchanged : (gateway.deliverTo socket push (.replay session)).callOwed session socket
          other = gateway.callOwed session socket other := rfl
      rw [if_pos this_socket, this_socket, leaves, owes, List.map_cons, unchanged]
      by_cases this_push : other = push.number
      · rw [this_push, List.count_cons_self, if_pos ⟨rfl, rfl⟩]
        omega
      · rw [List.count_cons_of_ne (Ne.symm this_push), if_neg fun both => this_push both.2]
    · rw [if_neg this_socket, if_neg fun both => this_socket both.1]
      rfl

section Queue

variable {outbound : GatewayOutboundMessage} {content : JsonObject}

/-- A new call owes its push to the sockets of its session. -/
theorem Valid.callOwed_queue (valid : gateway.Valid) (each : Socket) (other : Nat) :
    (gateway.queue outbound content).callOwed session each other =
      gateway.callOwed session each other + if other = gateway.queued.length ∧
        outbound.sessionId = session then (gateway.pushTargets session).count each else 0 := by
  by_cases last : other = gateway.queued.length
  · have before : gateway.callOwed session each other = 0 := by
      unfold callOwed
      split
      · rename_i call called
        exact absurd (valid.number_lt called) (by omega)
      · rfl
    have after : (gateway.queue outbound content).callOwed session each other =
        if outbound.sessionId = session then
          (gateway.pushTargets outbound.sessionId).count each else 0 := by
      unfold callOwed
      simp only [queue_calls, if_pos last]
      rfl
    rw [before, after, Nat.zero_add]
    by_cases own : outbound.sessionId = session
    · rw [if_pos own, if_pos ⟨last, own⟩, own]
    · rw [if_neg own, if_neg fun both => own both.2]
  · rw [if_neg fun both => last both.1, Nat.add_zero]
    unfold callOwed
    simp only [queue_calls, if_neg last]

/-- A queued push is owed to the sockets of its session. -/
theorem Valid.owed_queue (valid : gateway.Valid) (each : Socket) (other : Nat) :
    (gateway.queue outbound content).owed session each other =
      gateway.owed session each other + if other = gateway.queued.length ∧
        outbound.sessionId = session then (gateway.pushTargets session).count each else 0 := by
  rw [owed, valid.callOwed_queue, queue_others.2.1, ← Nat.add_assoc, owed]

/-- A push of the session is published. -/
theorem Valid.feed_queue (valid : gateway.Valid) (own : outbound.sessionId = session)
    (single : session ≠ outboundBroadcastSessionId) :
    (gateway.feed session).step 128 (.publish gateway.queued.length) =
      some ((gateway.queue outbound content).feed session) := by
  have fresh : gateway.queued.length ∉ (gateway.feed session).published := by
    intro member
    obtain ⟨push, listed, numbered⟩ := List.mem_map.mp member
    obtain ⟨place, found⟩ := List.getElem?_of_mem (List.mem_filter.mp listed).1
    have same := valid.numbered place push found
    have bounded := (List.getElem?_eq_some_iff.mp found).1
    omega
  have targets : gateway.pushTargets session = gateway.sessionSockets session := if_neg single
  have named : (gateway.newPush outbound content).sessionId = session := own
  have published : (gateway.queue outbound content).pushes session =
      gateway.pushes session ++ [gateway.newPush outbound content] := by
    rw [pushes_append _ queue_queued, if_pos named]
  have owes : (gateway.queue outbound content).owed session = fun each other =>
      gateway.owed session each other +
        if other = gateway.queued.length ∧ each ∈ (gateway.sessionSockets session).toFinset then 1
        else 0 := by
    funext each other
    rw [valid.owed_queue, targets, (valid.sockets session).count]
    by_cases last : other = gateway.queued.length
    · rw [if_pos ⟨last, own⟩]
      simp only [last, true_and, List.mem_toFinset]
    · rw [if_neg fun both => last both.1, if_neg fun both => last both.1]
  have receives : (gateway.queue outbound content).received session = gateway.received session := by
    funext each other
    rw [received, queue_others.2.2, received]
  refine (if_neg fresh).trans (congrArg some ?_)
  simp only [feed, queue_others.1, published, owes, receives, List.map_append, List.map_singleton]
  rfl

/-- A push of another session. -/
theorem Valid.feed_queue_other (valid : gateway.Valid) (other : outbound.sessionId ≠ session) :
    (gateway.queue outbound content).feed session = gateway.feed session := by
  have unlisted : (gateway.newPush outbound content).sessionId ≠ session := other
  have published : (gateway.queue outbound content).pushes session = gateway.pushes session := by
    rw [pushes_append _ queue_queued, if_neg unlisted, List.append_nil]
  have owes : (gateway.queue outbound content).owed session = gateway.owed session := by
    funext each number
    rw [valid.owed_queue, if_neg fun both => other both.2, Nat.add_zero]
  have receives : (gateway.queue outbound content).received session = gateway.received session := by
    funext each number
    rw [received, queue_others.2.2, received]
  simp only [feed, queue_others.1, published, owes, receives]

end Queue

/-- A socket subscribes to its session. -/
theorem Valid.feed_bind (valid : gateway.Valid) {socket : Socket}
    (receiving : (gateway.handlers socket).phase = .receiving)
    (single : session ≠ outboundBroadcastSessionId) :
    (gateway.feed session).step 128 (.subscribe socket) =
      some ((gateway.bindSession socket session).feed session) := by
  have owes : (gateway.bindSession socket session).owed session = fun each other =>
      gateway.owed session each other + if each = socket then
        (recent 128 ((gateway.pushes session).map WebPush.number)).count other else 0 := by
    funext each other
    rw [owed, bindSession_handlers, owed, recent_map, ← valid.backlog session single]
    have calling : (gateway.bindSession socket session).callOwed session each other =
        gateway.callOwed session each other := rfl
    rw [calling]
    by_cases this_socket : each = socket
    · have nothing : (gateway.handlers each).phase.owed session other = 0 := by
        rw [this_socket, receiving]
        rfl
      rw [if_pos this_socket, if_pos this_socket, nothing, Nat.zero_add, Nat.add_comm]
      exact congrArg (gateway.callOwed session each other + ·) (if_pos rfl)
    · rw [if_neg this_socket, if_neg this_socket, Nat.add_zero]
  have sockets : (gateway.bindSession socket session).sessionSockets session =
      addSocket (gateway.sessionSockets session) socket := by
    rw [bindSession_sessionSockets, if_pos rfl]
  refine congrArg some ?_
  simp only [feed, sockets, toFinset_addSocket, owes]
  rfl

/-- Binding a socket to another session leaves the feed. -/
theorem feed_bind_other {socket : Socket} {sessionId : String} (other : sessionId ≠ session)
    (receiving : (gateway.handlers socket).phase = .receiving) :
    (gateway.bindSession socket sessionId).feed session = gateway.feed session := by
  refine feed_congr ?_ rfl (fun each number => ?_) fun _ _ => rfl
  · rw [bindSession_sessionSockets, if_neg (Ne.symm other)]
  · rw [owed, bindSession_handlers, owed]
    congr 1
    split
    · rename_i this_socket
      rw [this_socket, receiving]
      exact if_neg other
    · rfl

/-- Erasing a socket takes it out of the set. -/
theorem Valid.toFinset_erase (valid : gateway.Valid) (socket : Socket) :
    ((gateway.sessionSockets session).erase socket).toFinset =
      (gateway.sessionSockets session).toFinset.erase socket := by
  ext other
  rw [List.mem_toFinset, (valid.sockets session).mem_erase_iff, Finset.mem_erase,
    List.mem_toFinset]

/-- Past its targets, a call owes nothing to their bindings. -/
theorem owed_of_not_sending (past : call.stage.isSending = false) (each : Socket) :
    call.owed session each = 0 := by
  unfold PushCall.owed
  split
  · rename_i sending
    rw [sending] at past
    cases past
  · rfl

/-- A call without sockets left owes nothing. -/
theorem owed_sending_nil (sending : call.stage = .sending []) (each : Socket) :
    call.owed session each = 0 := by
  unfold PushCall.owed
  simp only [sending, List.count_nil, ite_self]

/-- A call that owes nothing goes on past its targets. -/
theorem Valid.feed_endStage (valid : gateway.Valid) {number : Nat}
    (called : gateway.calls number = some call)
    (nothing : ∀ each, call.owed session each = 0) {stage : PushStage}
    (past : stage.isSending = false) :
    (gateway.setStage call stage).feed session = gateway.feed session :=
  valid.feed_setStage called fun each =>
    (@owed_of_not_sending session { call with stage := stage } past each).trans
      (nothing each).symm

/-- Every step of the gateway is one of the feed, or leaves it as it is. -/
theorem Valid.simulated (valid : gateway.Valid) (single : session ≠ outboundBroadcastSessionId)
    {action : WebGatewayAction} (stepped : gateway.step action = some next) :
    match gateway.shown session action with
    | some visible => (gateway.feed session).step 128 visible = some (next.feed session)
    | none => next.feed session = gateway.feed session := by
  have effect := step_cases stepped
  cases action with
  | send outbound download =>
      obtain ⟨content, _, rfl⟩ := effect
      by_cases own : outbound.sessionId = session
      · simp only [shown, if_pos own]
        exact valid.feed_queue own single
      · simp only [shown, if_neg own]
        exact valid.feed_queue_other own
  | deliver number socket =>
      obtain ⟨call, called, ⟨remaining, sending, listed, rfl⟩ |
        ⟨parentId, parentTargets, remaining, sending, listed, rfl⟩⟩ := effect
      · by_cases own : call.push.sessionId = session
        · simp only [shown, called, sending, if_pos own]
          exact valid.feed_send called sending listed own
        · simp only [shown, called, sending, if_neg own]
          have owes (stage : PushStage) (each : Socket) :
              ({ call with stage := stage } : PushCall).owed session each = 0 := by
            unfold PushCall.owed
            split
            · exact if_neg own
            · rfl
          have goesOn : ((gateway.deliverTo socket call.push .live).setStage call
              (.sending (remaining.erase socket))).feed session =
                (gateway.deliverTo socket call.push .live).feed session :=
            (valid.deliverTo socket call.push .live).feed_setStage called fun each =>
              (owes _ each).trans (owes call.stage each).symm
          refine goesOn.trans (feed_congr rfl rfl (fun _ _ => rfl) ?_)
          exact received_deliverTo_other socket fun same => absurd same own
      · simp only [shown, called, sending]
        have goesOn : ((gateway.deliverTo socket call.push (.parent parentId)).setStage call
            (.sendingParent parentId parentTargets (remaining.erase socket))).feed session =
              (gateway.deliverTo socket call.push (.parent parentId)).feed session :=
          (valid.deliverTo socket call.push (.parent parentId)).feed_endStage called
            (owed_of_not_sending (by rw [sending]; rfl)) (by rfl)
        refine goesOn.trans (feed_congr rfl rfl (fun _ _ => rfl) ?_)
        exact received_deliverTo_other socket fun _ => ⟨nofun, nofun⟩
  | endLoop number =>
      obtain ⟨call, called, ⟨sending, ⟨_, _, rfl⟩ | ⟨_, rfl⟩⟩ | ⟨_, _, sending, rfl⟩⟩ := effect
      · exact valid.feed_endStage called (owed_sending_nil sending) (by rfl)
      · exact valid.feed_endStage called (owed_sending_nil sending) (by rfl)
      · exact valid.feed_endStage called (owed_of_not_sending (by rw [sending]; rfl)) (by rfl)
  | lookUp number parent =>
      obtain ⟨call, called, waiting, ⟨_, rfl⟩ | ⟨_, _, rfl⟩⟩ := effect
      · exact valid.feed_endStage called (owed_of_not_sending (by rw [waiting]; rfl)) (by rfl)
      · exact valid.feed_endStage called (owed_of_not_sending (by rw [waiting]; rfl)) (by rfl)
  | route number =>
      obtain ⟨call, called, _, waiting, rfl⟩ := effect
      exact valid.feed_endStage called (owed_of_not_sending (by rw [waiting]; rfl)) (by rfl)
  | connect socket =>
      obtain ⟨absent, rfl⟩ := effect
      have goesOn : (gateway.setPhase socket (.registering gateway.broadcastBacklog)).feed session =
          gateway.feed session := feed_setPhase fun number => by rw [absent]; rfl
      exact goesOn
  | replay socket =>
      obtain ⟨push, rest, ⟨registering, rfl⟩ | ⟨sessionId, replaying, rfl⟩⟩ := effect
      · simp only [shown, registering]
        have goesOn : ((gateway.deliverTo socket push .broadcastReplay).setPhase socket
            (.registering rest)).feed session =
              (gateway.deliverTo socket push .broadcastReplay).feed session :=
          feed_setPhase fun number => by
            change 0 = ((gateway.handlers socket).phase).owed session number
            rw [registering]
            rfl
        refine goesOn.trans (feed_congr rfl rfl (fun _ _ => rfl) ?_)
        exact received_deliverTo_other socket fun _ => ⟨nofun, nofun⟩
      · by_cases own : sessionId = session
        · subst own
          simp only [shown, replaying, if_true]
          exact valid.feed_replay replaying
        · simp only [shown, replaying, if_neg own]
          have goesOn : ((gateway.deliverTo socket push (.replay sessionId)).setPhase socket
              (.replaying sessionId rest)).feed session =
                (gateway.deliverTo socket push (.replay sessionId)).feed session :=
            feed_setPhase fun number => by
              change _ = ((gateway.handlers socket).phase).owed session number
              rw [replaying]
              exact (if_neg own).trans (if_neg own).symm
          refine goesOn.trans (feed_congr rfl rfl (fun _ _ => rfl) ?_)
          exact received_deliverTo_other socket fun _ =>
            ⟨nofun, fun same => own (PushPath.replay.inj same)⟩
  | endReplay socket =>
      obtain ⟨ended, rfl⟩ := effect
      have goesOn : (gateway.setPhase socket .receiving).feed session = gateway.feed session := by
        refine feed_setPhase fun number => ?_
        rcases ended with registering | ⟨sessionId, replaying⟩
        · rw [registering]
          rfl
        · rw [replaying]
          exact (ite_self _).symm
      exact goesOn
  | bind socket sessionId =>
      obtain ⟨receiving, _, rfl⟩ := effect
      by_cases own : strip sessionId = session
      · simp only [shown, if_pos own]
        rw [own]
        exact valid.feed_bind receiving single
      · simp only [shown, if_neg own]
        exact feed_bind_other own receiving
  | disconnect socket =>
      obtain ⟨receiving, rfl⟩ := effect
      have goesOn : (gateway.setPhase socket .unregistered).feed session = gateway.feed session :=
        feed_setPhase fun number => by rw [receiving]; rfl
      exact goesOn
  | unbind socket =>
      obtain ⟨unregistered, rfl⟩ := effect
      have goesOn : (gateway.setPhase socket .closed).feed session = gateway.feed session :=
        feed_setPhase fun number => by rw [unregistered]; rfl
      by_cases bound : session ∈ (gateway.handlers socket).boundSessions
      · simp only [shown, if_pos bound]
        have left : (gateway.feed session).step 128 (.leave socket) = some
            { gateway.feed session with
              subscribers := (gateway.feed session).subscribers.erase socket } := rfl
        rw [left, ← goesOn]
        simp only [feed, if_pos bound, valid.toFinset_erase]
        rfl
      · simp only [shown, if_neg bound]
        rw [← goesOn]
        simp only [feed, if_neg bound]
        rfl

/-- The adapter refines the feed of each session. -/
def simulation (single : session ≠ outboundBroadcastSessionId) :
    machine.Simulation (Feed.machine 128 : Machine (Feed Socket Nat) _) Valid where
  view := feed session
  shown := shown session
  started := by
    rintro gateway rfl
    exact ⟨rfl, rfl, fun _ _ => rfl, fun _ _ => rfl⟩
  stepped := fun before action after valid stepped => by
    have matched := valid.simulated single stepped
    cases named : before.shown session action with
    | some visible =>
        rw [named] at matched
        exact matched
    | none =>
        rw [named] at matched
        exact matched

end WebGateway

end FairyClaw
