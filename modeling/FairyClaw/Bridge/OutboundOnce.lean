import FairyClaw.Bridge.Outbound

/-! # Outbound frames reach an adapter once

The gateway does not remember which frames it has read, so a frame that is replayed after
the gateway has read it, or while it is still on its way there, reaches the adapter twice
(`FairyClaw.OutboundBridge.sent_twice`). In runs that replay only frames of neither kind,
every frame reaches an adapter at most once (`FairyClaw.OutboundBridge.outbound_once`).
-/

namespace FairyClaw

open Foundation

/-- How often a connection carries a frame to the gateway, or is going to in its replay. -/
def OutboundConnection.carried (connection : OutboundConnection) (id : String) : Nat :=
  connection.down.count (.outbound id) + connection.handler.replays.count id

namespace OutboundBridge

variable {limit : Nat} {bridge after : OutboundBridge} {action : OutboundAction}

/-- How often a frame may still arrive on a connection, with the sends that wait for it. -/
def load (bridge : OutboundBridge) (connection : Nat) (id : String) : Nat :=
  (bridge.connections connection).carried id + bridge.service.sending.count (connection, id)

/-- How often the gateway may still read a frame on its connection. -/
def onTheWay (bridge : OutboundBridge) (id : String) : Nat :=
  bridge.gateway.link.socket.elim 0 fun connection => bridge.load connection id

/-- The traffic of a bridge: no frame is read or about to be read twice, and connections
that are not in use have none. -/
structure Traffic (bridge : OutboundBridge) : Prop where
  socket_lt : ∀ connection ∈ bridge.gateway.link.socket, connection < bridge.next
  active_lt : ∀ connection ∈ bridge.service.active, connection < bridge.next
  unused_up : ∀ connection, bridge.next ≤ connection → (bridge.connections connection).up = []
  unused : ∀ connection id, bridge.next ≤ connection → bridge.load connection id = 0
  backlog_pushed : ∀ id ∈ bridge.service.backlog, id ∈ bridge.service.pushed
  backlog_nodup : bridge.service.backlog.Nodup
  unpushed : ∀ id, id ∉ bridge.service.pushed →
    bridge.gateway.received.count id = 0 ∧ ∀ connection, bridge.load connection id = 0
  once : ∀ id, bridge.gateway.received.count id + bridge.onTheWay id ≤ 1

/-- A step that adds no frame to any connection. -/
structure Quiet (bridge after : OutboundBridge) : Prop where
  next : after.next = bridge.next
  received : after.gateway.received = bridge.gateway.received
  socket : ∀ connection ∈ after.gateway.link.socket, connection ∈ bridge.gateway.link.socket
  active : ∀ connection ∈ after.service.active, connection < bridge.next
  unused_up : ∀ connection, bridge.next ≤ connection → (after.connections connection).up = []
  backlog : after.service.backlog = bridge.service.backlog
  pushed : after.service.pushed = bridge.service.pushed
  load : ∀ connection id, after.load connection id ≤ bridge.load connection id

/-- With no more sockets and no more load, no more is on the way. -/
theorem onTheWay_le (socket : ∀ connection ∈ after.gateway.link.socket,
      connection ∈ bridge.gateway.link.socket)
    (load : ∀ connection id, after.load connection id ≤ bridge.load connection id)
    (id : String) : after.onTheWay id ≤ bridge.onTheWay id := by
  unfold onTheWay
  cases current : after.gateway.link.socket with
  | none => exact Nat.zero_le _
  | some connection =>
      rw [Option.mem_def.mp (socket connection current)]
      exact load connection id

/-- A quiet step keeps the traffic single. -/
theorem Traffic.quiet (traffic : bridge.Traffic) (quiet : bridge.Quiet after) : after.Traffic where
  socket_lt connection current := by
    rw [quiet.next]
    exact traffic.socket_lt connection (quiet.socket connection current)
  active_lt connection active := by
    rw [quiet.next]
    exact quiet.active connection active
  unused_up connection high := quiet.unused_up connection (quiet.next ▸ high)
  unused connection id high := Nat.le_zero.mp
    ((quiet.load connection id).trans (traffic.unused connection id (quiet.next ▸ high)).le)
  backlog_pushed := by
    rw [quiet.backlog, quiet.pushed]
    exact traffic.backlog_pushed
  backlog_nodup := by
    rw [quiet.backlog]
    exact traffic.backlog_nodup
  unpushed id unknown := by
    rw [quiet.pushed] at unknown
    obtain ⟨unread, unloaded⟩ := traffic.unpushed id unknown
    refine ⟨by rw [quiet.received, unread], fun connection => Nat.le_zero.mp ?_⟩
    exact (quiet.load connection id).trans (unloaded connection).le
  once id := by
    rw [quiet.received]
    have less := onTheWay_le quiet.socket quiet.load id
    have before := traffic.once id
    omega

/-! ## What the steps do to the load of a connection -/

/-- Replacing a connection replaces its load. -/
theorem load_setConnection (bridge : OutboundBridge) (connection : Nat)
    (next : OutboundConnection) (other : Nat) (id : String) :
    (bridge.setConnection connection next).load other id =
      if other = connection then
        next.carried id + bridge.service.sending.count (other, id)
      else bridge.load other id := by
  by_cases same : other = connection
  · subst same
    simp [load, setConnection]
  · simp [load, setConnection, same]

/-- A connection that carries less lowers the load. -/
theorem load_setConnection_le (bridge : OutboundBridge) (connection : Nat)
    {next : OutboundConnection}
    (less : ∀ id, next.carried id ≤ (bridge.connections connection).carried id) (other : Nat) (id : String) :
    (bridge.setConnection connection next).load other id ≤ bridge.load other id := by
  rw [load_setConnection]
  split
  · next same =>
      subst same
      exact Nat.add_le_add_right (less id) _
  · exact le_rfl

/-- Unused connections carry nothing up. -/
theorem up_setConnection (bridge : OutboundBridge) {connection : Nat} {next : OutboundConnection}
    (up : bridge.next ≤ connection → next.up = [])
    (unused : ∀ other, bridge.next ≤ other → (bridge.connections other).up = []) (other : Nat)
    (high : bridge.next ≤ other) :
    ((bridge.setConnection connection next).connections other).up = [] := by
  by_cases same : other = connection
  · subst same
    simpa [setConnection] using up high
  · simpa [setConnection, same] using unused other high

/-- The connection on which a step starts a replay that the gateway may read. -/
def resumes (bridge : OutboundBridge) : OutboundAction → Option Nat
  | .read connection =>
      match (bridge.connections connection).up with
      | .resume _ :: _ =>
          if bridge.gateway.link.socket = some connection then some connection else none
      | _ => none
  | _ => none

/-- Frames are replayed only if the gateway has not read them, and none of them may still
arrive on its connection. -/
def replaysUnread : Machine.Guard OutboundBridge OutboundAction := fun bridge action =>
  ∀ connection ∈ bridge.resumes action, ∀ id ∈ bridge.service.unacked,
    id ∉ bridge.gateway.received ∧ bridge.load connection id = 0

instance : DecidableRel replaysUnread := fun bridge action =>
  inferInstanceAs (Decidable (∀ connection ∈ bridge.resumes action, _))

/-- A push adds the frame to the load of the active connection. -/
theorem load_push (bridge : OutboundBridge) (id : String) (connection : Nat) (other : String) :
    (bridge.setService (bridge.service.push limit id)).load connection other =
      bridge.load connection other +
        if bridge.service.active = some connection ∧ id = other then 1 else 0 := by
  unfold load setService OutboundService.push
  cases active : bridge.service.active with
  | none => simp
  | some current =>
      by_cases same : current = connection ∧ id = other
      · obtain ⟨rfl, rfl⟩ := same
        simp [Nat.add_assoc]
      · simp [same]

/-! ## What the steps preserve -/

namespace Traffic

/-- At the start nothing is on the way. -/
theorem initial : ({} : OutboundBridge).Traffic where
  socket_lt := nofun
  active_lt := nofun
  unused_up _ _ := rfl
  unused _ _ _ := rfl
  backlog_pushed := nofun
  backlog_nodup := List.nodup_nil
  unpushed _ _ := ⟨rfl, fun _ => rfl⟩
  once _ := Nat.zero_le 1

/-- A gateway that has received the same, with no more sockets, keeps the traffic single. -/
theorem setGateway (traffic : bridge.Traffic) {gateway : OutboundGateway}
    (received : gateway.received = bridge.gateway.received)
    (socket : ∀ connection ∈ gateway.link.socket, connection ∈ bridge.gateway.link.socket) :
    (bridge.setGateway gateway).Traffic :=
  traffic.quiet {
    next := rfl
    received := received
    socket := socket
    active := traffic.active_lt
    unused_up := traffic.unused_up
    backlog := rfl
    pushed := rfl
    load := fun _ _ => le_rfl }

/-- A connection that carries less keeps the traffic single. -/
theorem setConnection (traffic : bridge.Traffic) {connection : Nat} {next : OutboundConnection}
    (up : bridge.next ≤ connection → next.up = [])
    (less : ∀ id, next.carried id ≤ (bridge.connections connection).carried id) :
    (bridge.setConnection connection next).Traffic :=
  traffic.quiet {
    next := rfl
    received := rfl
    socket := fun _ current => current
    active := traffic.active_lt
    unused_up := up_setConnection bridge up traffic.unused_up
    backlog := rfl
    pushed := rfl
    load := load_setConnection_le bridge connection less }

/-- What is sent up keeps the traffic single. -/
theorem sendUp (traffic : bridge.Traffic) {connection : Nat} (frame : GatewayFrame)
    (used : connection < bridge.next) : (bridge.sendUp connection frame).Traffic :=
  traffic.setConnection (fun high => absurd used (Nat.not_lt.mpr high)) fun _ => le_rfl

/-- Steps of the service that push nothing. -/
theorem setService (traffic : bridge.Traffic) {service : OutboundService}
    (active : ∀ connection ∈ service.active, connection < bridge.next)
    (backlog : service.backlog = bridge.service.backlog)
    (pushed : service.pushed = bridge.service.pushed)
    (sending : ∀ waiting, service.sending.count waiting ≤ bridge.service.sending.count waiting) :
    (bridge.setService service).Traffic :=
  traffic.quiet {
    next := rfl
    received := rfl
    socket := fun _ current => current
    active := active
    unused_up := traffic.unused_up
    backlog := backlog
    pushed := pushed
    load := fun connection id => Nat.add_le_add_left (sending (connection, id)) _ }

/-- A connection that carries something up has been used. -/
theorem used_of_up (traffic : bridge.Traffic) {connection : Nat}
    (waiting : (bridge.connections connection).up ≠ []) : connection < bridge.next := by
  by_contra high
  exact waiting (traffic.unused_up connection (Nat.le_of_not_lt high))

/-- A new connection keeps the traffic single. -/
theorem connect (traffic : bridge.Traffic) :
    ({ bridge.setLink (.connected bridge.next) with next := bridge.next + 1 } :
      OutboundBridge).Traffic where
  socket_lt connection current := by
    cases current
    exact Nat.lt_succ_self _
  active_lt connection active := Nat.lt_succ_of_lt (traffic.active_lt connection active)
  unused_up connection high := traffic.unused_up connection (Nat.le_of_succ_le high)
  unused connection id high := traffic.unused connection id (Nat.le_of_succ_le high)
  backlog_pushed := traffic.backlog_pushed
  backlog_nodup := traffic.backlog_nodup
  unpushed := traffic.unpushed
  once id := by
    have before := traffic.once id
    have unused := traffic.unused bridge.next id le_rfl
    have empty : ({ bridge.setLink (.connected bridge.next) with next := bridge.next + 1 } :
        OutboundBridge).onTheWay id = bridge.load bridge.next id := rfl
    rw [empty, unused]
    exact (Nat.le_add_right _ _).trans before

/-- A fresh message keeps the traffic single. -/
theorem push (traffic : bridge.Traffic) {id : String} (fresh : id ∉ bridge.service.pushed) :
    (bridge.setService (bridge.service.push limit id)).Traffic := by
  obtain ⟨unread, unloaded⟩ := traffic.unpushed id fresh
  have backlog : ∀ other ∈ (bridge.service.push limit id).backlog,
      other ∈ bridge.service.backlog ∨ other = id := by
    intro other member
    simpa using List.mem_of_mem_drop member
  have pushed : ∀ {other}, other ∉ (bridge.service.push limit id).pushed →
      other ∉ bridge.service.pushed ∧ id ≠ other := by
    intro other unknown
    have apart : other ∉ bridge.service.pushed ++ [id] := unknown
    simp only [List.mem_append, List.mem_singleton, not_or] at apart
    exact ⟨apart.1, Ne.symm apart.2⟩
  exact {
    socket_lt := traffic.socket_lt
    active_lt := traffic.active_lt
    unused_up := traffic.unused_up
    unused := by
      intro connection other high
      have inactive : bridge.service.active ≠ some connection :=
        fun active => absurd (traffic.active_lt connection active) (Nat.not_lt.mpr high)
      simpa [load_push, inactive] using traffic.unused connection other high
    backlog_pushed := by
      intro other member
      rcases backlog other member with earlier | rfl
      · exact List.mem_append_left _ (traffic.backlog_pushed other earlier)
      · exact List.mem_append_right _ (List.mem_singleton_self _)
    backlog_nodup := by
      refine List.Nodup.sublist (List.drop_sublist _ _) ?_
      rw [← List.concat_eq_append]
      exact traffic.backlog_nodup.concat fun earlier => fresh (traffic.backlog_pushed id earlier)
    unpushed := by
      intro other unknown
      obtain ⟨unpushed, different⟩ := pushed unknown
      obtain ⟨unread, unloaded⟩ := traffic.unpushed other unpushed
      exact ⟨unread, fun connection => by simpa [load_push, different] using unloaded connection⟩
    once := by
      intro other
      have before := traffic.once other
      unfold onTheWay at before ⊢
      cases current : bridge.gateway.link.socket with
      | none =>
          show bridge.gateway.received.count other + bridge.gateway.link.socket.elim 0 _ ≤ 1
          rw [current] at before ⊢
          exact before
      | some connection =>
          show bridge.gateway.received.count other + bridge.gateway.link.socket.elim 0 _ ≤ 1
          rw [current] at before ⊢
          simp only [Option.elim_some, load_push] at before ⊢
          by_cases own : id = other
          · subst own
            have none := unloaded connection
            split <;> omega
          · simpa [own] using before }

/-- A frame that waited for its connection is on its way. -/
theorem send (traffic : bridge.Traffic) {connection : Nat} {id : String}
    (waiting : (connection, id) ∈ bridge.service.sending) :
    ((bridge.setService { bridge.service with
        sending := bridge.service.sending.erase (connection, id) }).sendDown connection
      (.outbound id) (bridge.connections connection).handler).Traffic := by
  refine traffic.quiet {
    next := rfl
    received := rfl
    socket := fun _ current => current
    active := traffic.active_lt
    unused_up := up_setConnection _ (traffic.unused_up connection) traffic.unused_up
    backlog := rfl
    pushed := rfl
    load := fun other second => ?_ }
  have one : 0 < bridge.service.sending.count (connection, id) := List.count_pos_iff.mpr waiting
  rw [sendDown, load_setConnection]
  split
  · next same =>
      subst same
      simp only [load, OutboundConnection.carried, OutboundBridge.setService, List.count_append,
        List.count_erase, List.count_singleton]
      by_cases own : id = second
      · subst own
        simp
        omega
      · simp [own]
  · simp only [load, OutboundBridge.setService, List.count_erase]
    omega

/-- The gateway reads a frame: what may arrive is one less, what it has read one more. -/
theorem receive (traffic : bridge.Traffic) {connection : Nat} {frame : BusinessFrame}
    {rest : List BusinessFrame} (online : bridge.gateway.link = .online connection)
    (down : (bridge.connections connection).down = frame :: rest) :
    ((bridge.setGateway (bridge.gateway.read frame)).setConnection connection
      { bridge.connections connection with down := rest }).Traffic := by
  have socket : bridge.gateway.link.socket = some connection := by
    rw [online]
    rfl
  let read : OutboundConnection := { bridge.connections connection with down := rest }
  have up : bridge.next ≤ connection → read.up = [] := traffic.unused_up connection
  cases frame with
  | helloAck =>
      refine traffic.setConnection up fun id => ?_
      simp [OutboundConnection.carried, down]
  | outbound id =>
      have arriving : ∀ other, (bridge.connections connection).carried other =
          read.carried other + if id = other then 1 else 0 := by
        intro other
        simp only [OutboundConnection.carried, read, down, List.count_cons, beq_iff_eq,
          BusinessFrame.outbound.injEq]
        omega
      have less := load_setConnection_le (bridge.setGateway (bridge.gateway.read (.outbound id)))
        connection fun other => (Nat.le_add_right _ _).trans (arriving other).ge
      have received : ∀ other, (bridge.gateway.read (.outbound id)).received.count other =
          bridge.gateway.received.count other + if id = other then 1 else 0 := by
        intro other
        simp [OutboundGateway.read, List.count_singleton]
      exact {
        socket_lt := traffic.socket_lt
        active_lt := traffic.active_lt
        unused_up := up_setConnection _ up traffic.unused_up
        unused := fun other second high =>
          Nat.le_zero.mp ((less other second).trans (traffic.unused other second high).le)
        backlog_pushed := traffic.backlog_pushed
        backlog_nodup := traffic.backlog_nodup
        unpushed := by
          intro other unknown
          obtain ⟨unread, unloaded⟩ := traffic.unpushed other unknown
          have different : id ≠ other := by
            rintro rfl
            have loaded := unloaded connection
            simp only [load, arriving, ↓reduceIte] at loaded
            omega
          refine ⟨?_, fun second => Nat.le_zero.mp ((less second other).trans (unloaded second).le)⟩
          exact (received other).trans (by simpa [different] using unread)
        once := by
          intro other
          have before := traffic.once other
          show (bridge.gateway.read (.outbound id)).received.count other +
            bridge.gateway.link.socket.elim 0 _ ≤ 1
          rw [onTheWay, socket, Option.elim_some, load, arriving] at before
          rw [socket, received, Option.elim_some, load_setConnection, if_pos rfl]
          show _ + (read.carried other + bridge.service.sending.count (connection, other)) ≤ 1
          omega }

/-- A replay begins with frames that may not arrive otherwise. -/
theorem resume (traffic : bridge.Traffic) {connection : Nat} {last : Option String}
    {rest : List GatewayFrame}
    (reading : (bridge.connections connection).handler = .reading)
    (up : (bridge.connections connection).up = .resume last :: rest)
    (allowed : bridge.replaysUnread (.read connection)) :
    (bridge.setConnection connection { bridge.connections connection with
      up := rest, handler := .replaying bridge.service.unacked }).Traffic := by
  let resumed : OutboundConnection := { bridge.connections connection with
    up := rest, handler := .replaying bridge.service.unacked }
  have carried : ∀ id, resumed.carried id =
      (bridge.connections connection).carried id + bridge.service.unacked.count id := by
    intro id
    simp [OutboundConnection.carried, OutboundHandler.replays, reading, resumed]
  have used : connection < bridge.next := traffic.used_of_up (by simp [up])
  have nodup : bridge.service.unacked.Nodup := traffic.backlog_nodup.filter _
  have load : ∀ other id, (bridge.setConnection connection resumed).load other id =
      bridge.load other id +
        if other = connection then bridge.service.unacked.count id else 0 := by
    intro other id
    rw [load_setConnection]
    split
    · next same =>
        subst same
        rw [carried, OutboundBridge.load]
        omega
    · rfl
  exact {
    socket_lt := traffic.socket_lt
    active_lt := traffic.active_lt
    unused_up := up_setConnection bridge (fun high => absurd used (Nat.not_lt.mpr high))
      traffic.unused_up
    unused := by
      intro other id high
      have different : other ≠ connection := (used.trans_le high).ne'
      rw [load, if_neg different]
      exact traffic.unused other id high
    backlog_pushed := traffic.backlog_pushed
    backlog_nodup := traffic.backlog_nodup
    unpushed := by
      intro id unknown
      obtain ⟨unread, unloaded⟩ := traffic.unpushed id unknown
      have absent : bridge.service.unacked.count id = 0 := List.count_eq_zero.mpr
        fun member => unknown (traffic.backlog_pushed id (List.mem_of_mem_filter member))
      refine ⟨unread, fun other => ?_⟩
      rw [load, unloaded, absent, ite_self]
    once := by
      intro id
      have before := traffic.once id
      show bridge.gateway.received.count id + bridge.gateway.link.socket.elim 0 _ ≤ 1
      rw [onTheWay] at before
      cases socket : bridge.gateway.link.socket with
      | none => rwa [socket] at before
      | some current =>
          rw [socket, Option.elim_some] at before
          rw [Option.elim_some, load]
          by_cases replayed : current = connection ∧ id ∈ bridge.service.unacked
          · obtain ⟨rfl, member⟩ := replayed
            have resumes : current ∈ bridge.resumes (.read current) := by simp [resumes, up, socket]
            obtain ⟨unread, unloaded⟩ := allowed current resumes id member
            have once := List.nodup_iff_count_le_one.mp nodup id
            rw [unloaded, List.count_eq_zero.mpr unread, if_pos rfl]
            omega
          · split
            · next same =>
                have absent := List.count_eq_zero.mpr fun member => replayed ⟨same, member⟩
                rwa [absent]
            · exact before }

end Traffic

/-- Every step that replays unread frames only keeps the traffic single. -/
theorem traffic_step (traffic : bridge.Traffic) (allowed : bridge.replaysUnread action)
    (stepped : bridge.step limit action = some after) : after.Traffic := by
  cases action with
  | push id =>
      simp only [step] at stepped
      split at stepped
      · cases stepped
      · next fresh =>
          cases stepped
          exact traffic.push fresh
  | send connection id sent =>
      simp only [step] at stepped
      split at stepped
      · next waiting =>
          cases stepped
          cases sent with
          | true => exact traffic.send waiting
          | false =>
              have kept : (bridge.setService { bridge.service with
                  sending := bridge.service.sending.erase (connection, id) }).Traffic :=
                traffic.setService traffic.active_lt rfl rfl fun _ => List.erase_sublist.count_le _
              exact kept
      · cases stepped
  | connect =>
      simp only [step] at stepped
      split at stepped
      · cases stepped
        exact traffic.connect
      · cases stepped
  | hello =>
      simp only [step] at stepped
      split at stepped
      · next connection connected =>
          cases stepped
          have linked : (bridge.setLink (.greeting connection)).Traffic :=
            traffic.setGateway rfl (by rw [connected]; exact fun _ current => current)
          exact linked.sendUp .hello (traffic.socket_lt connection (by rw [connected]; rfl))
      · cases stepped
  | greet =>
      simp only [step] at stepped
      split at stepped
      · next connection greeting =>
          split at stepped
          · next rest down =>
              cases stepped
              have linked : (bridge.setLink (.resuming connection)).Traffic :=
                traffic.setGateway rfl (by rw [greeting]; exact fun _ current => current)
              refine linked.setConnection (traffic.unused_up connection) fun id => ?_
              simp [OutboundConnection.carried, setLink, setGateway, down]
          · cases stepped
      · cases stepped
  | resume =>
      simp only [step] at stepped
      split at stepped
      · next connection resuming =>
          cases stepped
          have linked : (bridge.setLink (.online connection)).Traffic :=
            traffic.setGateway rfl (by rw [resuming]; exact fun _ current => current)
          exact linked.sendUp _ (traffic.socket_lt connection (by rw [resuming]; rfl))
      · cases stepped
  | drop arriving =>
      simp only [step] at stepped
      split at stepped
      · next connection socket =>
          cases stepped
          have unlinked : (bridge.setLink .offline).Traffic := traffic.setGateway rfl nofun
          refine unlinked.setConnection (fun high => ?_) fun _ => le_rfl
          exact absurd (traffic.socket_lt connection socket) (Nat.not_lt.mpr high)
      · cases stepped
  | receive =>
      simp only [step] at stepped
      split at stepped
      · next connection online =>
          split at stepped
          · next frame rest down =>
              cases stepped
              exact traffic.receive online down
          · cases stepped
      · cases stepped
  | route id found =>
      simp only [step] at stepped
      split at stepped
      · cases stepped
        cases found <;> exact traffic.setGateway rfl fun _ current => current
      · cases stepped
  | complete id succeeds =>
      simp only [step] at stepped
      split at stepped
      · cases stepped
        exact traffic.setGateway rfl fun _ current => current
      · cases stepped
  | ack id status sent =>
      simp only [step] at stepped
      split at stepped
      · have acknowledged : (bridge.setGateway (bridge.gateway.acknowledged id status sent)).Traffic := by
          cases sent <;> cases status <;> exact traffic.setGateway rfl fun _ current => current
        split at stepped
        · next connection socket =>
            cases stepped
            exact acknowledged.sendUp _ (traffic.socket_lt connection socket)
        · cases stepped
          exact acknowledged
        · cases stepped
      · cases stepped
  | read connection =>
      simp only [step] at stepped
      split at stepped
      · next frame rest reading up =>
          cases stepped
          have used : connection < bridge.next := traffic.used_of_up (by simp [up])
          have unused : ∀ {next : OutboundConnection}, bridge.next ≤ connection → next.up = [] :=
            fun high => absurd used (Nat.not_lt.mpr high)
          cases frame with
          | hello =>
              have greeted : (bridge.setService
                  { bridge.service with active := some connection }).Traffic :=
                traffic.setService (fun _ current => by cases current; exact used) rfl rfl
                  fun _ => le_rfl
              refine greeted.setConnection unused fun id => ?_
              exact Nat.add_le_add_left (Nat.zero_le _) _
          | resume last => exact traffic.resume reading up allowed
          | ack id status =>
              have acked : (bridge.setService
                  (bridge.service.read connection (.ack id status)).1).Traffic := by
                simp only [OutboundService.read]
                split
                · exact traffic.setService traffic.active_lt rfl rfl fun _ => le_rfl
                · exact traffic
              refine acked.setConnection unused fun other => ?_
              exact Nat.add_le_add_left (Nat.zero_le _) _
      · cases stepped
  | helloAck connection =>
      simp only [step] at stepped
      split at stepped
      · next greeting =>
          cases stepped
          refine traffic.setConnection (traffic.unused_up connection) fun id => ?_
          simp [OutboundConnection.carried, OutboundHandler.replays, greeting]
      · cases stepped
  | replay connection =>
      simp only [step] at stepped
      split at stepped
      · next id rest replaying =>
          cases stepped
          refine traffic.setConnection (traffic.unused_up connection) fun other => ?_
          by_cases same : id = other
          · simp [OutboundConnection.carried, OutboundHandler.replays, replaying, same]
            omega
          · simp [OutboundConnection.carried, OutboundHandler.replays, replaying, same]
      · cases stepped
        refine traffic.setConnection (traffic.unused_up connection) fun other => ?_
        simp [OutboundConnection.carried, OutboundHandler.replays]
      · cases stepped
  | disconnect connection =>
      cases stepped
      have left : (bridge.setService (bridge.service.disconnect connection)).Traffic := by
        unfold OutboundService.disconnect
        split
        · exact traffic.setService nofun rfl rfl fun _ => le_rfl
        · exact traffic
      refine left.setConnection (traffic.unused_up connection) fun id => ?_
      exact Nat.add_le_add_left (Nat.zero_le _) _

/-! ## Calls of adapters -/

/-- A frame is given to an adapter by the tasks started for it, each once. -/
def Dispatching (gateway : OutboundGateway) : Prop :=
  ∀ id, gateway.sent.count id + gateway.tasks.count (id, .routing) ≤ gateway.received.count id

/-- A task that goes on does not begin again. -/
theorem count_goesOn_le (gateway : OutboundGateway) (id other : String) (before : DispatchStage)
    (later : Option DispatchStage) (begun : ∀ stage ∈ later, stage ≠ .routing) :
    (gateway.goesOn id before later).tasks.count (other, .routing) ≤
      (gateway.tasks.erase (id, before)).count (other, .routing) := by
  unfold OutboundGateway.goesOn
  cases later with
  | none => simp
  | some stage =>
      have different : stage ≠ .routing := begun stage rfl
      simp [different]

/-- A task that goes on keeps the dispatches single. -/
theorem dispatching_goesOn {gateway : OutboundGateway} (dispatching : Dispatching gateway)
    (id : String) (before : DispatchStage) {later : Option DispatchStage}
    (begun : ∀ stage ∈ later, stage ≠ .routing) : Dispatching (gateway.goesOn id before later) := by
  intro other
  have less := count_goesOn_le gateway id other before later begun
  have erased := (List.erase_sublist (a := (id, before)) (l := gateway.tasks)).count_le
    (other, DispatchStage.routing)
  exact (Nat.add_le_add_left (less.trans erased) _).trans (dispatching other)

/-- A task that has its route keeps the dispatches single. -/
theorem dispatching_route {gateway : OutboundGateway} (dispatching : Dispatching gateway)
    {id : String} (found : Bool) (waiting : (id, .routing) ∈ gateway.tasks) :
    Dispatching (gateway.route id found) := by
  cases found with
  | false => exact dispatching_goesOn dispatching id .routing (by simp)
  | true =>
      intro other
      have less := count_goesOn_le gateway id other .routing (some .sending) (by simp)
      have one : 0 < gateway.tasks.count (id, .routing) := List.count_pos_iff.mpr waiting
      have before := dispatching other
      show (gateway.sent ++ [id]).count other +
        (gateway.goesOn id .routing (some .sending)).tasks.count (other, .routing) ≤
          gateway.received.count other
      rw [List.count_append, List.count_singleton]
      rw [List.count_erase] at less
      by_cases same : id = other
      · subst same
        simp only [BEq.rfl, ↓reduceIte] at less ⊢
        omega
      · simp only [beq_iff_eq, Prod.mk.injEq, same, false_and, ↓reduceIte] at less ⊢
        omega

/-- Every step keeps the dispatches single. -/
theorem dispatching_step (dispatching : Dispatching bridge.gateway)
    (stepped : bridge.step limit action = some after) : Dispatching after.gateway := by
  cases action with
  | push id =>
      simp only [step] at stepped
      split at stepped
      · cases stepped
      · cases stepped
        exact dispatching
  | send connection id sent =>
      simp only [step] at stepped
      split at stepped
      · cases stepped
        cases sent <;> exact dispatching
      · cases stepped
  | connect | hello | resume | drop =>
      simp only [step] at stepped
      split at stepped
      · cases stepped
        exact dispatching
      · cases stepped
  | greet =>
      simp only [step] at stepped
      split at stepped
      · split at stepped
        · cases stepped
          exact dispatching
        · cases stepped
      · cases stepped
  | receive =>
      simp only [step] at stepped
      split at stepped
      · split at stepped
        · next frame _ _ =>
            cases stepped
            cases frame with
            | helloAck => exact dispatching
            | outbound id =>
                intro other
                have before := dispatching other
                show bridge.gateway.sent.count other +
                  (bridge.gateway.tasks ++ [(id, DispatchStage.routing)]).count (other, .routing) ≤
                    (bridge.gateway.received ++ [id]).count other
                simp only [List.count_append, List.count_singleton, beq_iff_eq, Prod.mk.injEq,
                  and_true]
                omega
        · cases stepped
      · cases stepped
  | route id found =>
      simp only [step] at stepped
      split at stepped
      · next waiting =>
          cases stepped
          exact dispatching_route dispatching found waiting
      · cases stepped
  | complete id succeeds =>
      simp only [step] at stepped
      split at stepped
      · cases stepped
        exact dispatching_goesOn dispatching id .sending (by simp)
      · cases stepped
  | ack id status sent =>
      simp only [step] at stepped
      split at stepped
      · have acknowledged : Dispatching (bridge.gateway.acknowledged id status sent) := by
          cases sent <;> cases status <;> exact dispatching_goesOn dispatching id _ (by simp)
        split at stepped
        · cases stepped
          exact acknowledged
        · cases stepped
          exact acknowledged
        · cases stepped
      · cases stepped
  | read connection | helloAck connection =>
      simp only [step] at stepped
      split at stepped
      · cases stepped
        exact dispatching
      · cases stepped
  | replay connection =>
      simp only [step] at stepped
      split at stepped
      · cases stepped
        exact dispatching
      · cases stepped
        exact dispatching
      · cases stepped
  | disconnect connection =>
      cases stepped
      exact dispatching

/-- **Outbound frames reach an adapter at most once**, in runs that replay only frames which
the gateway has not read and which cannot arrive on its connection otherwise. -/
theorem outbound_once (reached : (machine limit).Reachable replaysUnread bridge) (id : String) :
    bridge.gateway.sent.count id ≤ 1 := by
  have invariant : bridge.Traffic ∧ Dispatching bridge.gateway := by
    apply reached.invariant
    · rintro _ rfl
      exact ⟨.initial, fun _ => le_rfl⟩
    · rintro before action after ⟨traffic, dispatching⟩ allowed stepped
      exact ⟨traffic_step traffic allowed stepped, dispatching_step dispatching stepped⟩
  obtain ⟨traffic, dispatching⟩ := invariant
  have once := traffic.once id
  have dispatched := dispatching id
  omega

/-- The bridge after a list of actions, with the default size of the backlog. -/
def ran (guard : Machine.Guard OutboundBridge OutboundAction) [DecidableRel guard]
    (actions : List OutboundAction) : OutboundBridge :=
  ((machine 512).replay guard {} actions).getD {}

/-- A handshake on a connection. -/
def handshake (connection : Nat) : List OutboundAction :=
  [.connect, .hello, .read connection, .helloAck connection, .greet, .resume, .read connection]

/-- A frame pushed without a connection is replayed on the next one and acknowledged before
that one is dropped; another frame is pushed then. -/
def replayedRun : List OutboundAction :=
  [.push "out_1"] ++ handshake 0 ++
    [.replay 0, .receive, .replay 0, .route "out_1" true, .complete "out_1" true,
      .ack "out_1" .ok true, .read 0, .drop 0, .disconnect 0, .push "out_2"] ++
    handshake 1 ++ [.replay 1, .receive, .route "out_2" true]

/-- A frame that is pushed without a connection and replayed on the next one is sent once. -/
theorem outbound_once_of_replayedRun :
    (ran replaysUnread replayedRun).gateway.sent = ["out_1", "out_2"] ∧
      (ran replaysUnread replayedRun).gateway.sent.count "out_1" ≤ 1 := by
  have replayed : (machine 512).replay replaysUnread {} replayedRun =
    some (ran replaysUnread replayedRun) := rfl
  exact ⟨rfl, outbound_once (.of_replay rfl replayed) "out_1"⟩

/-- A frame is pushed after the greeting and before the gateway resumes, on one connection
that is never dropped. -/
def pushedRun : List OutboundAction :=
  [.connect, .hello, .read 0, .helloAck 0, .push "out_1", .send 0 "out_1" true, .greet, .resume,
    .read 0, .replay 0, .receive, .receive, .route "out_1" true, .route "out_1" true]

/-- The frame is sent when it is pushed, and sent again by the replay. -/
theorem sent_twice : ∃ bridge : OutboundBridge,
    (machine 512).Reachable Machine.anyStep bridge ∧ bridge.gateway.sent.count "out_1" = 2 := by
  have replayed : (machine 512).replay Machine.anyStep {} pushedRun =
    some (ran Machine.anyStep pushedRun) := rfl
  exact ⟨_, .of_replay rfl replayed, by decide⟩

end OutboundBridge

end FairyClaw
