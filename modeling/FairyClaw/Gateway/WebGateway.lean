import FairyClaw.Foundation.Feed
import FairyClaw.Foundation.JsonText
import Mathlib.Data.List.Dedup

/-! # The web gateway

Browsers are connected by sockets, and a socket is bound to sessions. A push for a session is queued
under the lock: it is added to the backlog of the session, and the sockets that are bound at that
moment are its targets. A binding replays the backlog. Replays and sends go on after the lock is
released, so their deliveries interleave with everything else. A push without targets goes to the
sockets of the parent session, which is looked up in the database.
-/

namespace FairyClaw

open Foundation

/-- `OUTBOUND_BROADCAST_SESSION_ID` -/
def outboundBroadcastSessionId : String := "__fc_broadcast__"

/-- `GatewayOutboundMessage` -/
structure GatewayOutboundMessage where
  sessionId : String
  kind : String
  content : JsonObject
  metadata : JsonObject := []
  adapterKey : Option String := none
  senderRef : Option JsonObject := none

/-- The size, name and type of a downloaded file. -/
structure DownloadedFile where
  size : Nat
  filename : String
  mimeType : Option String

namespace GatewayOutboundMessage

variable (outbound : GatewayOutboundMessage)

/-- The content of a push, or the error text of `send`. -/
def pushContent (download : Except String DownloadedFile) : Except String JsonObject :=
  if outbound.kind ∉ ["text", "file", "event"] then
    .error ("Unsupported outbound kind for web gateway adapter: " ++ outbound.kind)
  else if outbound.sessionId = outboundBroadcastSessionId ∧ outbound.kind ≠ "event" then
    .error "Broadcast session id only supports kind=event"
  else if outbound.kind = "file" then
    match (outbound.content.get "file_id").bind Json.asStr with
    | none | some "" => .error "Missing file_id in outbound file payload"
    | some fileId =>
        download.map fun file =>
          [("file_id", .str fileId),
            ("filename", .str (if file.filename = "" then fileId else file.filename)),
            ("mime_type", (file.mimeType.map Json.str).getD .null),
            ("size_bytes", .int file.size)]
  else .ok outbound.content

/-- The body of a push. -/
def payloadBody (content : JsonObject) : JsonObject :=
  [("session_id", .str outbound.sessionId), ("kind", .str outbound.kind),
    ("content", .obj content), ("meta", .obj outbound.metadata)] ++
    (outbound.adapterKey.map fun key => ("adapter_key", .str key)).toList ++
    (outbound.senderRef.map fun sender => ("sender_ref", .obj sender)).toList

/-- The message as the sockets of the parent session get it. -/
def forParent (parentId : String) : GatewayOutboundMessage :=
  { outbound with
    metadata := if (outbound.metadata.get "fc_parent_session_id").isSome then outbound.metadata
      else outbound.metadata ++ [("fc_parent_session_id", .str parentId)] }

end GatewayOutboundMessage

/-- A queued push; its number is its place among all. -/
structure WebPush where
  number : Nat
  outbound : GatewayOutboundMessage
  content : JsonObject

/-- The envelope of a body. -/
def pushEnvelope (body : JsonObject) : JsonObject := [("op", .str "push"), ("body", .obj body)]

namespace WebPush

variable (push : WebPush)

/-- The session of a push. -/
def sessionId : String := push.outbound.sessionId

end WebPush

/-- One connection of a browser. -/
abbrev Socket := Nat

/-- The way a push takes to a socket. -/
inductive PushPath
  | broadcastReplay
  | replay (sessionId : String)
  | live
  | parent (parentId : String)
  deriving DecidableEq, Repr

/-- A push that was sent to a socket, and on which path. -/
structure PushDelivery where
  socket : Socket
  push : WebPush
  path : PushPath

/-- The message of a delivery. -/
def PushDelivery.outbound (delivery : PushDelivery) : GatewayOutboundMessage :=
  match delivery.path with
  | .parent parentId => delivery.push.outbound.forParent parentId
  | _ => delivery.push.outbound

/-- What the socket is sent. -/
def PushDelivery.envelope (delivery : PushDelivery) : JsonObject :=
  pushEnvelope (delivery.outbound.payloadBody delivery.push.content)

/-- Where a call of `send` has ended: at its targets, without a parent session, or at the sockets of
the parent session. -/
inductive PushRoute
  | targets
  | noParent
  | parent (parentId : String) (parentTargets : List Socket)
  deriving DecidableEq, Repr

/-- How far a call of `send` is, once its push is queued. -/
inductive PushStage
  | sending (remaining : List Socket)
  | lookingUp
  | routing (parentId : String)
  | sendingParent (parentId : String) (parentTargets remaining : List Socket)
  | returned (route : PushRoute)
  | raised (exc : String) (route : PushRoute)
  deriving DecidableEq, Repr

/-- A call that sends a push, with its targets and its stage. -/
structure PushCall where
  push : WebPush
  targets : List Socket
  stage : PushStage

/-- How far `run_web_gateway_socket` is. -/
inductive SocketPhase
  | absent
  | registering (rest : List WebPush)
  | receiving
  | replaying (sessionId : String) (rest : List WebPush)
  | unregistered
  | closed

/-- The handler of a socket. -/
structure SocketHandler where
  phase : SocketPhase := .absent
  boundSessions : List String := []

/-- The adapter, the calls of `send` by the numbers of their pushes, the handlers of the sockets,
and all pushes and deliveries so far. -/
structure WebGateway where
  sessionSockets : String → List Socket := fun _ => []
  backlog : String → List WebPush := fun _ => []
  allWebsockets : List Socket := []
  broadcastBacklog : List WebPush := []
  calls : Nat → Option PushCall := fun _ => none
  handlers : Socket → SocketHandler := fun _ => {}
  queued : List WebPush := []
  delivered : List PushDelivery := []

/-- What may happen to the gateway. -/
inductive WebGatewayAction
  | send (outbound : GatewayOutboundMessage) (download : Except String DownloadedFile)
  | deliver (number : Nat) (socket : Socket)
  | endLoop (number : Nat)
  | lookUp (number : Nat) (parent : Option String)
  | route (number : Nat)
  | connect (socket : Socket)
  | replay (socket : Socket)
  | endReplay (socket : Socket)
  | bind (socket : Socket) (sessionId : String)
  | disconnect (socket : Socket)
  | unbind (socket : Socket)

/-- `deque(maxlen=limit).append` -/
def appendBounded (limit : Nat) (backlog : List WebPush) (push : WebPush) : List WebPush :=
  recent limit (backlog ++ [push])

/-- Add to a set. -/
def addSocket (sockets : List Socket) (socket : Socket) : List Socket :=
  if socket ∈ sockets then sockets else sockets ++ [socket]

namespace WebGateway

variable (gateway : WebGateway)

/-- The push that is queued next. -/
def newPush (outbound : GatewayOutboundMessage) (content : JsonObject) : WebPush :=
  { number := gateway.queued.length, outbound := outbound, content := content }

/-- The part of `send` under the lock. -/
def queue (outbound : GatewayOutboundMessage) (content : JsonObject) : WebGateway :=
  let push := gateway.newPush outbound content
  if outbound.sessionId = outboundBroadcastSessionId then
    { gateway with
      broadcastBacklog := appendBounded 64 gateway.broadcastBacklog push
      queued := gateway.queued ++ [push]
      calls := Function.update gateway.calls push.number (some
        { push := push
          targets := gateway.allWebsockets
          stage := .sending gateway.allWebsockets }) }
  else
    let sockets := gateway.sessionSockets outbound.sessionId
    { gateway with
      backlog := Function.update gateway.backlog outbound.sessionId
        (appendBounded 128 (gateway.backlog outbound.sessionId) push)
      queued := gateway.queued ++ [push]
      calls := Function.update gateway.calls push.number
        (some { push := push, targets := sockets, stage := .sending sockets }) }

/-- A call goes on. -/
def setStage (call : PushCall) (stage : PushStage) : WebGateway :=
  { gateway with
    calls := Function.update gateway.calls call.push.number (some { call with stage := stage }) }

/-- The handler of a socket goes on. -/
def setPhase (socket : Socket) (phase : SocketPhase) : WebGateway :=
  { gateway with
    handlers := Function.update gateway.handlers socket
      { gateway.handlers socket with phase := phase } }

/-- A push arrives at a socket. -/
def deliverTo (socket : Socket) (push : WebPush) (path : PushPath) : WebGateway :=
  { gateway with delivered := gateway.delivered ++ [{ socket := socket, push := push, path := path }] }

/-- `_parent_session_id_for_push_routing`, for the parent in the database. -/
def parentSessionIdForPushRouting (sessionId : String) (parent : Option String) : Option String :=
  if strip sessionId = "" then none else parent.filter (· ≠ "")

/-- `session.bind` up to the replay. -/
def bindSession (socket : Socket) (sessionId : String) : WebGateway :=
  { gateway with
    sessionSockets := Function.update gateway.sessionSockets sessionId
      (addSocket (gateway.sessionSockets sessionId) socket)
    handlers := Function.update gateway.handlers socket
      { phase := .replaying sessionId (gateway.backlog sessionId)
        boundSessions := sessionId :: (gateway.handlers socket).boundSessions } }

/-- One step of a call or of a socket's handler. No delivery fails. -/
def step : WebGatewayAction → Option WebGateway
  | .send outbound download =>
      match outbound.pushContent download with
      | .error _ => none
      | .ok content => some (gateway.queue outbound content)
  | .deliver number socket => do
      let call ← gateway.calls number
      match call.stage with
      | .sending remaining =>
          if socket ∈ remaining then
            some ((gateway.deliverTo socket call.push .live).setStage call
              (.sending (remaining.erase socket)))
          else none
      | .sendingParent parentId parentTargets remaining =>
          if socket ∈ remaining then
            some ((gateway.deliverTo socket call.push (.parent parentId)).setStage call
              (.sendingParent parentId parentTargets (remaining.erase socket)))
          else none
      | _ => none
  | .endLoop number => do
      let call ← gateway.calls number
      match call.stage with
      | .sending [] =>
          if call.push.sessionId ≠ outboundBroadcastSessionId ∧ call.targets = [] then
            some (gateway.setStage call .lookingUp)
          else some (gateway.setStage call (.returned .targets))
      | .sendingParent parentId parentTargets [] =>
          some (gateway.setStage call (.returned (.parent parentId parentTargets)))
      | _ => none
  | .lookUp number parent => do
      let call ← gateway.calls number
      match call.stage with
      | .lookingUp =>
          match parentSessionIdForPushRouting call.push.sessionId parent with
          | none => some (gateway.setStage call (.returned .noParent))
          | some parentId => some (gateway.setStage call (.routing parentId))
      | _ => none
  | .route number => do
      let call ← gateway.calls number
      match call.stage with
      | .routing parentId =>
          let parentTargets := gateway.sessionSockets parentId
          some (gateway.setStage call (.sendingParent parentId parentTargets parentTargets))
      | _ => none
  | .connect socket =>
      match (gateway.handlers socket).phase with
      | .absent => some { gateway.setPhase socket (.registering gateway.broadcastBacklog) with
          allWebsockets := addSocket gateway.allWebsockets socket }
      | _ => none
  | .replay socket =>
      match (gateway.handlers socket).phase with
      | .registering (push :: rest) =>
          some ((gateway.deliverTo socket push .broadcastReplay).setPhase socket (.registering rest))
      | .replaying sessionId (push :: rest) =>
          some ((gateway.deliverTo socket push (.replay sessionId)).setPhase socket
            (.replaying sessionId rest))
      | _ => none
  | .endReplay socket =>
      match (gateway.handlers socket).phase with
      | .registering [] | .replaying _ [] => some (gateway.setPhase socket .receiving)
      | _ => none
  | .bind socket sessionId =>
      match (gateway.handlers socket).phase with
      | .receiving =>
          if strip sessionId = "" then none
          else some (gateway.bindSession socket (strip sessionId))
      | _ => none
  | .disconnect socket =>
      match (gateway.handlers socket).phase with
      | .receiving => some { gateway.setPhase socket .unregistered with
          allWebsockets := gateway.allWebsockets.erase socket }
      | _ => none
  | .unbind socket =>
      match (gateway.handlers socket).phase with
      | .unregistered => some { gateway.setPhase socket .closed with
          sessionSockets := fun sessionId =>
            if sessionId ∈ (gateway.handlers socket).boundSessions then
              (gateway.sessionSockets sessionId).erase socket
            else gateway.sessionSockets sessionId }
      | _ => none

/-- The runs of the web gateway. -/
def machine : Machine WebGateway WebGatewayAction where
  initial := (· = {})
  step := step

variable {gateway} {next : WebGateway}

/-- A call that goes on changes no other call. -/
theorem setStage_calls (call : PushCall) (stage : PushStage) (number : Nat) :
    (gateway.setStage call stage).calls number =
      if number = call.push.number then some { call with stage := stage }
      else gateway.calls number := Function.update_apply ..

/-- A handler that goes on changes no other handler. -/
theorem setPhase_handlers (socket other : Socket) (phase : SocketPhase) :
    (gateway.setPhase socket phase).handlers other =
      if other = socket then { gateway.handlers socket with phase := phase }
      else gateway.handlers other := Function.update_apply ..

/-- A binding adds the socket to the sockets of its session alone. -/
theorem bindSession_sessionSockets (socket : Socket) (sessionId other : String) :
    (gateway.bindSession socket sessionId).sessionSockets other =
      if other = sessionId then addSocket (gateway.sessionSockets sessionId) socket
      else gateway.sessionSockets other := Function.update_apply ..

/-- A binding makes the handler of its socket replay the backlog. -/
theorem bindSession_handlers (socket other : Socket) (sessionId : String) :
    (gateway.bindSession socket sessionId).handlers other =
      if other = socket then
        { phase := .replaying sessionId (gateway.backlog sessionId)
          boundSessions := sessionId :: (gateway.handlers socket).boundSessions }
      else gateway.handlers other := Function.update_apply ..

/-- A binding touches no call and no delivery. -/
theorem bindSession_others (socket : Socket) (sessionId : String) :
    (gateway.bindSession socket sessionId).calls = gateway.calls ∧
      (gateway.bindSession socket sessionId).queued = gateway.queued ∧
      (gateway.bindSession socket sessionId).delivered = gateway.delivered := ⟨rfl, rfl, rfl⟩

/-- The sockets that a push goes to. -/
def pushTargets (gateway : WebGateway) (sessionId : String) : List Socket :=
  if sessionId = outboundBroadcastSessionId then gateway.allWebsockets
  else gateway.sessionSockets sessionId

section Queue

variable {outbound : GatewayOutboundMessage} {content : JsonObject}

/-- A queued push gets a call of its own, under the next number. -/
theorem queue_calls (number : Nat) : (gateway.queue outbound content).calls number =
    if number = gateway.queued.length then some
      { push := gateway.newPush outbound content
        targets := gateway.pushTargets outbound.sessionId
        stage := .sending (gateway.pushTargets outbound.sessionId) }
    else gateway.calls number := by
  unfold queue pushTargets
  split <;> exact Function.update_apply ..

/-- A queued push is the last of the queued ones. -/
theorem queue_queued : (gateway.queue outbound content).queued =
    gateway.queued ++ [gateway.newPush outbound content] := by
  unfold queue
  split <;> rfl

/-- A queued push goes into the backlog of its session, a broadcast into none. -/
theorem queue_backlog (sessionId : String) : (gateway.queue outbound content).backlog sessionId =
    if outbound.sessionId = outboundBroadcastSessionId then gateway.backlog sessionId
    else if sessionId = outbound.sessionId then
      appendBounded 128 (gateway.backlog sessionId) (gateway.newPush outbound content)
    else gateway.backlog sessionId := by
  unfold queue
  split
  · rfl
  · refine (Function.update_apply ..).trans ?_
    split
    · rename_i same
      rw [same]
    · rfl

/-- Queueing a push touches no socket and no delivery. -/
theorem queue_others : (gateway.queue outbound content).sessionSockets = gateway.sessionSockets ∧
    (gateway.queue outbound content).handlers = gateway.handlers ∧
    (gateway.queue outbound content).delivered = gateway.delivered := by
  unfold queue
  split <;> exact ⟨rfl, rfl, rfl⟩

end Queue

/-- What each step does, read off the stages and the phases. -/
theorem step_cases {action : WebGatewayAction} : gateway.step action = some next →
    match action with
    | .send outbound download => ∃ content, outbound.pushContent download = .ok content ∧
        next = gateway.queue outbound content
    | .deliver number socket => ∃ call, gateway.calls number = some call ∧
        ((∃ remaining, call.stage = .sending remaining ∧ socket ∈ remaining ∧
          next = (gateway.deliverTo socket call.push .live).setStage call
            (.sending (remaining.erase socket))) ∨
        ∃ parentId parentTargets remaining,
          call.stage = .sendingParent parentId parentTargets remaining ∧ socket ∈ remaining ∧
          next = (gateway.deliverTo socket call.push (.parent parentId)).setStage call
            (.sendingParent parentId parentTargets (remaining.erase socket)))
    | .endLoop number => ∃ call, gateway.calls number = some call ∧
        ((call.stage = .sending [] ∧
          ((call.push.sessionId ≠ outboundBroadcastSessionId ∧ call.targets = [] ∧
            next = gateway.setStage call .lookingUp) ∨
          (¬ (call.push.sessionId ≠ outboundBroadcastSessionId ∧ call.targets = []) ∧
            next = gateway.setStage call (.returned .targets)))) ∨
        ∃ parentId parentTargets, call.stage = .sendingParent parentId parentTargets [] ∧
          next = gateway.setStage call (.returned (.parent parentId parentTargets)))
    | .lookUp number parent => ∃ call, gateway.calls number = some call ∧
        call.stage = .lookingUp ∧
        ((parentSessionIdForPushRouting call.push.sessionId parent = none ∧
          next = gateway.setStage call (.returned .noParent)) ∨
        ∃ parentId, parentSessionIdForPushRouting call.push.sessionId parent = some parentId ∧
          next = gateway.setStage call (.routing parentId))
    | .route number => ∃ call, gateway.calls number = some call ∧
        ∃ parentId, call.stage = .routing parentId ∧
          next = gateway.setStage call (.sendingParent parentId (gateway.sessionSockets parentId)
            (gateway.sessionSockets parentId))
    | .connect socket => (gateway.handlers socket).phase = .absent ∧
        next = { gateway.setPhase socket (.registering gateway.broadcastBacklog) with
          allWebsockets := addSocket gateway.allWebsockets socket }
    | .replay socket => ∃ push rest, ((gateway.handlers socket).phase = .registering (push :: rest) ∧
          next = (gateway.deliverTo socket push .broadcastReplay).setPhase socket
            (.registering rest)) ∨
        ∃ sessionId, (gateway.handlers socket).phase = .replaying sessionId (push :: rest) ∧
          next = (gateway.deliverTo socket push (.replay sessionId)).setPhase socket
            (.replaying sessionId rest)
    | .endReplay socket => ((gateway.handlers socket).phase = .registering [] ∨
          ∃ sessionId, (gateway.handlers socket).phase = .replaying sessionId []) ∧
        next = gateway.setPhase socket .receiving
    | .bind socket sessionId => (gateway.handlers socket).phase = .receiving ∧
        strip sessionId ≠ "" ∧ next = gateway.bindSession socket (strip sessionId)
    | .disconnect socket => (gateway.handlers socket).phase = .receiving ∧
        next = { gateway.setPhase socket .unregistered with
          allWebsockets := gateway.allWebsockets.erase socket }
    | .unbind socket => (gateway.handlers socket).phase = .unregistered ∧
        next = { gateway.setPhase socket .closed with
          sessionSockets := fun sessionId =>
            if sessionId ∈ (gateway.handlers socket).boundSessions then
              (gateway.sessionSockets sessionId).erase socket
            else gateway.sessionSockets sessionId } := by
  intro stepped
  cases action with
  | send outbound download =>
      simp only [step] at stepped
      split at stepped
      · cases stepped
      · exact ⟨_, ‹_›, (Option.some.inj stepped).symm⟩
  | deliver number socket =>
      obtain ⟨call, called, stepped⟩ := Option.bind_eq_some_iff.mp stepped
      refine ⟨call, called, ?_⟩
      split at stepped
      · obtain ⟨listed, result⟩ := Option.ite_none_right_eq_some.mp stepped
        exact Or.inl ⟨_, ‹_›, listed, (Option.some.inj result).symm⟩
      · obtain ⟨listed, result⟩ := Option.ite_none_right_eq_some.mp stepped
        exact Or.inr ⟨_, _, _, ‹_›, listed, (Option.some.inj result).symm⟩
      · cases stepped
  | endLoop number =>
      obtain ⟨call, called, stepped⟩ := Option.bind_eq_some_iff.mp stepped
      refine ⟨call, called, ?_⟩
      split at stepped
      · refine Or.inl ⟨‹_›, ?_⟩
        split at stepped
        · rename_i none_bound
          exact Or.inl ⟨none_bound.1, none_bound.2, (Option.some.inj stepped).symm⟩
        · exact Or.inr ⟨‹_›, (Option.some.inj stepped).symm⟩
      · exact Or.inr ⟨_, _, ‹_›, (Option.some.inj stepped).symm⟩
      · cases stepped
  | lookUp number parent =>
      obtain ⟨call, called, stepped⟩ := Option.bind_eq_some_iff.mp stepped
      refine ⟨call, called, ?_⟩
      split at stepped
      · rename_i waiting
        refine ⟨waiting, ?_⟩
        split at stepped
        · rename_i answer
          exact Or.inl ⟨answer, (Option.some.inj stepped).symm⟩
        · rename_i parentId answer
          exact Or.inr ⟨parentId, answer, (Option.some.inj stepped).symm⟩
      · cases stepped
  | route number =>
      obtain ⟨call, called, stepped⟩ := Option.bind_eq_some_iff.mp stepped
      refine ⟨call, called, ?_⟩
      split at stepped
      · exact ⟨_, ‹_›, (Option.some.inj stepped).symm⟩
      · cases stepped
  | connect | disconnect | unbind =>
      simp only [step] at stepped
      split at stepped
      · exact ⟨‹_›, (Option.some.inj stepped).symm⟩
      · cases stepped
  | replay socket =>
      simp only [step] at stepped
      split at stepped
      · exact ⟨_, _, Or.inl ⟨‹_›, (Option.some.inj stepped).symm⟩⟩
      · exact ⟨_, _, Or.inr ⟨_, ‹_›, (Option.some.inj stepped).symm⟩⟩
      · cases stepped
  | endReplay socket =>
      simp only [step] at stepped
      split at stepped
      · exact ⟨Or.inl ‹_›, (Option.some.inj stepped).symm⟩
      · exact ⟨Or.inr ⟨_, ‹_›⟩, (Option.some.inj stepped).symm⟩
      · cases stepped
  | bind socket sessionId =>
      simp only [step] at stepped
      split at stepped
      · rename_i receiving
        obtain ⟨named, result⟩ := Option.ite_none_left_eq_some.mp stepped
        exact ⟨receiving, named, (Option.some.inj result).symm⟩
      · cases stepped

end WebGateway

end FairyClaw
