import FairyClaw.Bridge.Inbound

/-! # Outbound frames on the bridge

The business side puts every pushed frame into a bounded backlog and sends it on the
connection that was active at the push. When a gateway resumes, the backlog is replayed on
its connection, without the frames acknowledged until then. The gateway starts a task for
every outbound frame it reads on its current connection; the task calls the adapter and
acknowledges on the connection that is current by then.
-/

namespace FairyClaw

open Foundation

/-! ## Connections -/

/-- Frames from the gateway to the business side. -/
inductive GatewayFrame
  | hello
  | resume (lastAckOutbound : Option String)
  | ack (id : String) (status : AckStatus)
  deriving DecidableEq

/-- Frames from the business side to the gateway. -/
inductive BusinessFrame
  | helloAck
  | outbound (id : String)
  deriving DecidableEq

/-- Where the business side's handler of a connection stands. -/
inductive OutboundHandler
  | reading
  | greeting
  | replaying (frames : List String)
  | closed
  deriving DecidableEq

/-- The frames that the handler has still to replay. -/
def OutboundHandler.replays : OutboundHandler → List String
  | replaying frames => frames
  | _ => []

/-- What a connection carries in either direction, and its handler. -/
structure OutboundConnection where
  up : List GatewayFrame := []
  down : List BusinessFrame := []
  handler : OutboundHandler := .reading
  deriving DecidableEq

/-! ## The two parties -/

/-- `_run` and `_handshake`: a socket without a greeting yet, one waiting for the answer to
its greeting, one about to resume, and one whose frames are read. -/
inductive GatewayLink
  | offline
  | connected (connection : Nat)
  | greeting (connection : Nat)
  | resuming (connection : Nat)
  | online (connection : Nat)
  deriving DecidableEq

/-- `self._ws` -/
def GatewayLink.socket : GatewayLink → Option Nat
  | offline => none
  | connected connection | greeting connection | resuming connection | online connection =>
      some connection

/-- Where a task of `_dispatch_outbound_and_ack` stands. -/
inductive DispatchStage
  | routing
  | sending
  | acking (status : AckStatus)
  deriving DecidableEq

/-- The gateway's connection and tasks, with records of the frames it has read and of the
calls of adapters. -/
structure OutboundGateway where
  link : GatewayLink := .offline
  tasks : List (String × DispatchStage) := []
  lastAckOutbound : Option String := none
  received : List String := []
  sent : List String := []

/-- The business side: the active connection, the backlog, the acknowledged frames, the
sends that wait for the connection, and all frames pushed. -/
structure OutboundService where
  active : Option Nat := none
  backlog : List String := []
  acked : List String := []
  sending : List (Nat × String) := []
  pushed : List String := []

/-- The service, the gateway and the connections between them. -/
structure OutboundBridge where
  gateway : OutboundGateway := {}
  connections : Nat → OutboundConnection := fun _ => {}
  next : Nat := 0
  service : OutboundService := {}

namespace OutboundGateway

variable (gateway : OutboundGateway)

/-- A task goes on from one stage to another, or ends. -/
def goesOn (id : String) (before : DispatchStage) (after : Option DispatchStage) :
    OutboundGateway :=
  { gateway with tasks := gateway.tasks.erase (id, before) ++ (after.map (id, ·)).toList }

/-- `_handle_frame` -/
def read (frame : BusinessFrame) : OutboundGateway :=
  match frame with
  | .outbound id =>
      { gateway with
        received := gateway.received ++ [id], tasks := gateway.tasks ++ [(id, .routing)] }
  | .helloAck => gateway

/-- `dispatch_outbound` until the adapter is called, if there is one. -/
def route (id : String) (found : Bool) : OutboundGateway :=
  if found then { gateway.goesOn id .routing (some .sending) with sent := gateway.sent ++ [id] }
  else gateway.goesOn id .routing (some (.acking .failed))

/-- The task after an attempt to acknowledge: one that raises is followed by an attempt to
report the failure. -/
def acknowledged (id : String) (status : AckStatus) (sent : Bool) : OutboundGateway :=
  match sent, status with
  | true, .ok => { gateway.goesOn id (.acking .ok) none with lastAckOutbound := some id }
  | false, .ok => gateway.goesOn id (.acking .ok) (some (.acking .failed))
  | _, status => gateway.goesOn id (.acking status) none

end OutboundGateway

namespace OutboundService

variable (service : OutboundService)

/-- `push_outbound` until the frame is sent; the backlog is bounded. -/
def push (limit : Nat) (id : String) : OutboundService :=
  { service with
    backlog := (service.backlog ++ [id]).drop (service.backlog.length + 1 - limit)
    sending := service.sending ++ (service.active.map (·, id)).toList
    pushed := service.pushed ++ [id] }

/-- The frames that `_replay_backlog` sends. -/
def unacked : List String := service.backlog.filter (· ∉ service.acked)

/-- `_handle_frame` until it answers. -/
def read (connection : Nat) : GatewayFrame → OutboundService × OutboundHandler
  | .hello => ({ service with active := some connection }, .greeting)
  | .resume _ => (service, .replaying service.unacked)
  | .ack id status =>
      (if status = .ok ∨ status = .duplicate then { service with acked := id :: service.acked }
        else service, .reading)

/-- `handle_connection` ends. -/
def disconnect (connection : Nat) : OutboundService :=
  if service.active = some connection then { service with active := none } else service

end OutboundService

/-! ## Steps -/

/-- What may happen on either side, or to a connection. -/
inductive OutboundAction
  | push (id : String)
  | send (connection : Nat) (id : String) (sent : Bool)
  | connect
  | hello
  | greet
  | resume
  | drop (arriving : Nat)
  | receive
  | route (id : String) (found : Bool)
  | complete (id : String) (succeeds : Bool)
  | ack (id : String) (status : AckStatus) (sent : Bool)
  | read (connection : Nat)
  | helloAck (connection : Nat)
  | replay (connection : Nat)
  | disconnect (connection : Nat)
  deriving DecidableEq

namespace OutboundBridge

/-- One connection is replaced. -/
def setConnection (bridge : OutboundBridge) (connection : Nat) (after : OutboundConnection) :
    OutboundBridge :=
  { bridge with connections := Function.update bridge.connections connection after }

/-- The gateway is replaced. -/
def setGateway (bridge : OutboundBridge) (gateway : OutboundGateway) : OutboundBridge :=
  { bridge with gateway := gateway }

/-- The service is replaced. -/
def setService (bridge : OutboundBridge) (service : OutboundService) : OutboundBridge :=
  { bridge with service := service }

/-- The gateway has another link. -/
def setLink (bridge : OutboundBridge) (link : GatewayLink) : OutboundBridge :=
  bridge.setGateway { bridge.gateway with link := link }

/-- Put a frame on the way to the business side. -/
def sendUp (bridge : OutboundBridge) (connection : Nat) (frame : GatewayFrame) :
    OutboundBridge :=
  bridge.setConnection connection { bridge.connections connection with
    up := (bridge.connections connection).up ++ [frame] }

/-- Put a frame on the way to the gateway, and go on in the handler. -/
def sendDown (bridge : OutboundBridge) (connection : Nat) (frame : BusinessFrame)
    (handler : OutboundHandler) : OutboundBridge :=
  bridge.setConnection connection { bridge.connections connection with
    down := (bridge.connections connection).down ++ [frame], handler := handler }

/-- A step of the service, of the gateway or of a connection. -/
def step (limit : Nat) (bridge : OutboundBridge) : OutboundAction → Option OutboundBridge
  | .push id =>
      if id ∈ bridge.service.pushed then none
      else some (bridge.setService (bridge.service.push limit id))
  | .send connection id sent =>
      if (connection, id) ∈ bridge.service.sending then
        let waiting := bridge.setService { bridge.service with
          sending := bridge.service.sending.erase (connection, id) }
        some (if sent then
            waiting.sendDown connection (.outbound id) (bridge.connections connection).handler
          else waiting)
      else none
  | .connect =>
      match bridge.gateway.link with
      | .offline => some { bridge.setLink (.connected bridge.next) with next := bridge.next + 1 }
      | _ => none
  | .hello =>
      match bridge.gateway.link with
      | .connected connection => some ((bridge.setLink (.greeting connection)).sendUp connection
          .hello)
      | _ => none
  | .greet =>
      match bridge.gateway.link with
      | .greeting connection =>
          match (bridge.connections connection).down with
          | .helloAck :: rest => some ((bridge.setLink (.resuming connection)).setConnection
              connection { bridge.connections connection with down := rest })
          -- Any other frame fails the handshake, which drops the connection.
          | _ => none
      | _ => none
  | .resume =>
      match bridge.gateway.link with
      | .resuming connection => some ((bridge.setLink (.online connection)).sendUp connection
          (.resume bridge.gateway.lastAckOutbound))
      | _ => none
  | .drop arriving =>
      match bridge.gateway.link.socket with
      | some connection =>
          some ((bridge.setLink .offline).setConnection connection
            { bridge.connections connection with
              up := (bridge.connections connection).up.take arriving })
      | none => none
  | .receive =>
      match bridge.gateway.link with
      | .online connection =>
          match (bridge.connections connection).down with
          | frame :: rest => some ((bridge.setGateway (bridge.gateway.read frame)).setConnection
              connection { bridge.connections connection with down := rest })
          | [] => none
      | _ => none
  | .route id found =>
      if (id, .routing) ∈ bridge.gateway.tasks then
        some (bridge.setGateway (bridge.gateway.route id found))
      else none
  | .complete id succeeds =>
      if (id, .sending) ∈ bridge.gateway.tasks then
        some (bridge.setGateway (bridge.gateway.goesOn id .sending
          (some (.acking (if succeeds then .ok else .failed)))))
      else none
  | .ack id status sent =>
      if (id, .acking status) ∈ bridge.gateway.tasks then
        let acknowledged := bridge.setGateway (bridge.gateway.acknowledged id status sent)
        match sent, bridge.gateway.link.socket with
        | true, some connection => some (acknowledged.sendUp connection (.ack id status))
        | false, _ => some acknowledged
        | true, none => none
      else none
  | .read connection =>
      match (bridge.connections connection).handler, (bridge.connections connection).up with
      | .reading, frame :: rest =>
          some ((bridge.setService (bridge.service.read connection frame).1).setConnection
            connection { bridge.connections connection with
              up := rest, handler := (bridge.service.read connection frame).2 })
      | _, _ => none
  | .helloAck connection =>
      match (bridge.connections connection).handler with
      | .greeting => some (bridge.sendDown connection .helloAck .reading)
      | _ => none
  | .replay connection =>
      match (bridge.connections connection).handler with
      | .replaying (id :: rest) =>
          some (bridge.sendDown connection (.outbound id) (.replaying rest))
      | .replaying [] => some (bridge.setConnection connection
          { bridge.connections connection with handler := .reading })
      | _ => none
  | .disconnect connection =>
      some ((bridge.setService (bridge.service.disconnect connection)).setConnection connection
        { bridge.connections connection with handler := .closed })

/-- The bridge with a backlog of some size. -/
def machine (limit : Nat) : Machine OutboundBridge OutboundAction where
  initial bridge := bridge = {}
  step := step limit

end OutboundBridge

end FairyClaw
