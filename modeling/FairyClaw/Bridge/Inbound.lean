import FairyClaw.Foundation.Machine
import FairyClaw.Foundation.RecentSet

/-! # Inbound frames on the bridge

The gateway's client keeps a frame pending until it is acknowledged, and sends all pending
frames again after every handshake. The business side reads the frames of a connection one
after the other; connections that the client has dropped are read to their end. A frame
whose id was processed recently is acknowledged as a duplicate, any other is submitted:
its message is stored, the wake-up event published, and the id recorded.
-/

namespace FairyClaw

open Foundation

/-- What a frame's submission does: its message has segments to store, and it asks for a
turn. -/
structure InboundFrame where
  id : String
  hasSegments : Bool
  triggerTurn : Bool
  deriving DecidableEq

/-- What an acknowledgement says. -/
inductive AckStatus
  | ok
  | duplicate
  | failed
  deriving DecidableEq

/-! ## The client -/

/-- `WsBridgeClient`'s connection: being greeted, about to resume, or with the frames that
the handshake has still to send again. -/
inductive ClientLink
  | offline
  | greeting (connection : Nat)
  | resuming (connection : Nat)
  | online (connection : Nat) (resends : List InboundFrame)
  deriving DecidableEq

/-- `self._ws` -/
def ClientLink.socket : ClientLink → Option Nat
  | offline => none
  | greeting connection | resuming connection | online connection _ => some connection

/-- The client with its pending frames and its link. -/
structure InboundClient where
  link : ClientLink := .offline
  /-- `_pending_inbound_frames` -/
  pending : List InboundFrame := []
  /-- Calls of `send_inbound` that have not sent their frame yet. -/
  senders : List InboundFrame := []
  /-- All frames so far. -/
  created : List InboundFrame := []

/-! ## The business side -/

/-- Where the handler of a connection stands. -/
inductive InboundHandler
  | reading
  | storing (frame : InboundFrame)
  | publishing (frame : InboundFrame)
  | acking (id : String) (status : AckStatus)
  | closed
  deriving DecidableEq

/-- A connection: frames and acknowledgements on their way, and its handler. -/
structure InboundConnection where
  wire : List InboundFrame := []
  handler : InboundHandler := .reading
  acks : List (String × AckStatus) := []
  deriving DecidableEq

/-- The deduplication window, what is stored and published, and records of the ids that
were processed, the newest first, of the acknowledgements sent, and of the submissions that
failed after storing their message. -/
structure InboundService (limit : Nat) where
  processed : RecentSet String limit := RecentSet.empty
  stored : List String := []
  published : List String := []
  handled : List String := []
  acknowledged : List (String × AckStatus) := []
  brokenOff : List String := []

/-- The client, the service and the connections between them. -/
structure InboundBridge (limit : Nat) where
  client : InboundClient := {}
  connections : Nat → InboundConnection := fun _ => {}
  next : Nat := 0
  service : InboundService limit := {}

/-! ## The handler's steps -/

namespace InboundService

variable {limit : Nat} (service : InboundService limit) (frame : InboundFrame)

/-- The test of a frame's id before it is submitted. -/
def receive : InboundHandler :=
  if frame.id ∈ service.processed then .acking frame.id .duplicate else .storing frame

/-- `submit_message` until the message is stored. -/
def store (succeeds : Bool) : InboundService limit × InboundHandler :=
  if succeeds then
    ({ service with
        stored := if frame.hasSegments then service.stored ++ [frame.id] else service.stored },
      .publishing frame)
  else (service, .acking frame.id .failed)

/-- The rest of `submit_message`, and recording the id. -/
def publish (succeeds : Bool) : InboundService limit × InboundHandler :=
  if succeeds then
    ({ service with
        published := if frame.triggerTurn then service.published ++ [frame.id]
          else service.published
        processed := service.processed.add frame.id
        handled := frame.id :: service.handled },
      .acking frame.id .ok)
  else
    ({ service with
        brokenOff := if frame.hasSegments then frame.id :: service.brokenOff
          else service.brokenOff },
      .acking frame.id .failed)

end InboundService

/-! ## Steps -/

/-- What may happen on either side, or to a connection. -/
inductive InboundAction
  | connect
  | greeted
  | resumed
  | resend
  | drop (arriving : Nat)
  | create (frame : InboundFrame)
  | send (frame : InboundFrame)
  | readAck
  | receive (connection : Nat)
  | store (connection : Nat) (succeeds : Bool)
  | publish (connection : Nat) (succeeds : Bool)
  | ack (connection : Nat) (sent : Bool)
  deriving DecidableEq

namespace InboundBridge

variable {limit : Nat}

/-- The client has another link. -/
def setLink (bridge : InboundBridge limit) (link : ClientLink) : InboundBridge limit :=
  { bridge with client := { bridge.client with link := link } }

/-- One connection is replaced. -/
def setConnection (bridge : InboundBridge limit) (connection : Nat)
    (after : InboundConnection) : InboundBridge limit :=
  { bridge with connections := Function.update bridge.connections connection after }

/-- Put a frame on the wire of a connection. -/
def transmit (bridge : InboundBridge limit) (connection : Nat) (frame : InboundFrame) :
    InboundBridge limit :=
  bridge.setConnection connection { bridge.connections connection with
    wire := (bridge.connections connection).wire ++ [frame] }

/-- The handler of a connection goes on, with what it has done to the service. -/
def setHandler (bridge : InboundBridge limit) (connection : Nat)
    (effect : InboundService limit × InboundHandler) : InboundBridge limit :=
  { bridge.setConnection connection
      { bridge.connections connection with handler := effect.2 } with
    service := effect.1 }

/-- The client's `_handle_frame` on an acknowledgement. -/
def settle (client : InboundClient) (id : String) (status : AckStatus) : InboundClient :=
  if status = .ok ∨ status = .duplicate then
    { client with pending := client.pending.filter fun frame => frame.id ≠ id }
  else client

/-- A step of the client, of a handler or of a connection. -/
def step (bridge : InboundBridge limit) : InboundAction → Option (InboundBridge limit)
  | .connect =>
      match bridge.client.link with
      | .offline => some { bridge.setLink (.greeting bridge.next) with next := bridge.next + 1 }
      | _ => none
  | .greeted =>
      match bridge.client.link with
      | .greeting connection => some (bridge.setLink (.resuming connection))
      | _ => none
  | .resumed =>
      match bridge.client.link with
      | .resuming connection => some (bridge.setLink (.online connection bridge.client.pending))
      | _ => none
  | .resend =>
      match bridge.client.link with
      | .online connection (frame :: rest) =>
          some ((bridge.setLink (.online connection rest)).transmit connection frame)
      | _ => none
  | .drop arriving =>
      match bridge.client.link.socket with
      | some connection =>
          some ((bridge.setLink .offline).setConnection connection
            { bridge.connections connection with
              wire := (bridge.connections connection).wire.take arriving })
      | none => none
  | .create frame =>
      if frame.id ∈ bridge.client.created.map InboundFrame.id then none
      else
        some { bridge with client := { bridge.client with
          pending := bridge.client.pending ++ [frame]
          senders := bridge.client.senders ++ [frame]
          created := bridge.client.created ++ [frame] } }
  | .send frame =>
      if frame ∈ bridge.client.senders then
        let sent := { bridge with client := { bridge.client with
          senders := bridge.client.senders.erase frame } }
        match bridge.client.link.socket with
        | some connection => some (sent.transmit connection frame)
        -- Without a socket the call raises, and the frame stays pending.
        | none => some sent
      else none
  | .readAck =>
      match bridge.client.link with
      | .online connection [] =>
          match (bridge.connections connection).acks with
          | [] => none
          | (id, status) :: rest =>
              some { bridge.setConnection connection
                  { bridge.connections connection with acks := rest } with
                client := settle bridge.client id status }
      | _ => none
  | .receive connection =>
      match (bridge.connections connection).handler, (bridge.connections connection).wire with
      | .reading, frame :: rest =>
          some ((bridge.setConnection connection
            { bridge.connections connection with wire := rest }).setHandler connection
              (bridge.service, bridge.service.receive frame))
      | _, _ => none
  | .store connection succeeds =>
      match (bridge.connections connection).handler with
      | .storing frame => some (bridge.setHandler connection (bridge.service.store frame succeeds))
      | _ => none
  | .publish connection succeeds =>
      match (bridge.connections connection).handler with
      | .publishing frame =>
          some (bridge.setHandler connection (bridge.service.publish frame succeeds))
      | _ => none
  | .ack connection sent =>
      match (bridge.connections connection).handler with
      | .acking id status =>
          if sent then
            some ((bridge.setConnection connection { bridge.connections connection with
                acks := (bridge.connections connection).acks ++ [(id, status)] }).setHandler
              connection ({ bridge.service with
                acknowledged := bridge.service.acknowledged ++ [(id, status)] }, .reading))
          else some (bridge.setHandler connection (bridge.service, .closed))
      | _ => none

/-- The bridge with a window of some size. -/
def machine (limit : Nat) : Machine (InboundBridge limit) InboundAction where
  initial bridge := bridge = {}
  step := step

/-- The frame that a step reads. -/
def reads (bridge : InboundBridge limit) : InboundAction → Option InboundFrame
  | .receive connection => (bridge.connections connection).wire.head?
  | _ => none

/-- Fewer distinct ids than the window holds are processed between two deliveries of one. -/
def withinWindow : Machine.Guard (InboundBridge limit) InboundAction := fun bridge action =>
  ∀ frame ∈ bridge.reads action, frame.id ∈ bridge.service.handled →
    (bridge.service.handled.takeWhile (· ≠ frame.id)).toFinset.card < limit

instance : DecidableRel (withinWindow : Machine.Guard (InboundBridge limit) InboundAction) :=
  fun bridge action => inferInstanceAs (Decidable (∀ frame ∈ bridge.reads action, _ → _))

/-- Where the handlers stand. -/
def handlers (bridge : InboundBridge limit) (connection : Nat) : InboundHandler :=
  (bridge.connections connection).handler

/-- What a step does to the handlers, the service and the created frames. -/
def Effect (bridge next : InboundBridge limit) : InboundAction → Prop
  | .create frame =>
      frame.id ∉ bridge.client.created.map InboundFrame.id ∧ next.handlers = bridge.handlers ∧
        next.service = bridge.service ∧ next.client.created = bridge.client.created ++ [frame]
  | .receive connection =>
      ∃ frame, frame ∈ bridge.reads (.receive connection) ∧
        bridge.handlers connection = .reading ∧
        next.handlers = Function.update bridge.handlers connection (bridge.service.receive frame) ∧
        next.service = bridge.service ∧ next.client.created = bridge.client.created
  | .store connection succeeds =>
      ∃ frame, bridge.handlers connection = .storing frame ∧
        next.handlers = Function.update bridge.handlers connection
          (bridge.service.store frame succeeds).2 ∧
        next.service = (bridge.service.store frame succeeds).1 ∧
        next.client.created = bridge.client.created
  | .publish connection succeeds =>
      ∃ frame, bridge.handlers connection = .publishing frame ∧
        next.handlers = Function.update bridge.handlers connection
          (bridge.service.publish frame succeeds).2 ∧
        next.service = (bridge.service.publish frame succeeds).1 ∧
        next.client.created = bridge.client.created
  | .ack connection sent =>
      ∃ id status, bridge.handlers connection = .acking id status ∧
        next.handlers = Function.update bridge.handlers connection
          (if sent then .reading else .closed) ∧
        next.service = (if sent then { bridge.service with
          acknowledged := bridge.service.acknowledged ++ [(id, status)] } else bridge.service) ∧
        next.client.created = bridge.client.created
  | _ =>
      next.handlers = bridge.handlers ∧ next.service = bridge.service ∧
        next.client.created = bridge.client.created

/-- Replacing a connection replaces its handler. -/
theorem handlers_setConnection (bridge : InboundBridge limit) (connection : Nat)
    (after : InboundConnection) :
    (bridge.setConnection connection after).handlers =
      Function.update bridge.handlers connection after.handler := by
  funext other
  by_cases same : other = connection
  · subst same
    simp [handlers, setConnection]
  · simp [handlers, setConnection, same]

/-- A connection with the same handler leaves the handlers. -/
theorem handlers_kept (bridge : InboundBridge limit) {connection : Nat}
    {after : InboundConnection} (kept : after.handler = bridge.handlers connection) :
    (bridge.setConnection connection after).handlers = bridge.handlers := by
  rw [handlers_setConnection, kept, Function.update_eq_self]

/-- Setting a handler changes that of its connection. -/
theorem handlers_setHandler (bridge : InboundBridge limit) (connection : Nat)
    (effect : InboundService limit × InboundHandler) :
    (bridge.setHandler connection effect).handlers =
      Function.update bridge.handlers connection effect.2 :=
  handlers_setConnection bridge connection _

/-- Setting a connection and then its handler leaves the new handler. -/
theorem handlers_goOn (bridge : InboundBridge limit) (connection : Nat)
    (wire : List InboundFrame) (acks : List (String × AckStatus))
    (effect : InboundService limit × InboundHandler) :
    ((bridge.setConnection connection ⟨wire, (bridge.connections connection).handler,
        acks⟩).setHandler connection effect).handlers =
      Function.update bridge.handlers connection effect.2 := by
  have kept : (bridge.setConnection connection ⟨wire, (bridge.connections connection).handler,
      acks⟩).handlers = bridge.handlers := handlers_kept bridge rfl
  rw [handlers_setHandler, kept]

/-- Every step has one of the effects listed. -/
theorem step_effect {bridge next : InboundBridge limit} {action : InboundAction}
    (stepped : bridge.step action = some next) : bridge.Effect next action := by
  cases action with
  | connect | greeted | resumed =>
      simp only [step] at stepped
      split at stepped
      · cases stepped
        exact ⟨rfl, rfl, rfl⟩
      · cases stepped
  | resend =>
      simp only [step] at stepped
      split at stepped
      · cases stepped
        exact ⟨handlers_kept _ rfl, rfl, rfl⟩
      · cases stepped
  | drop arriving =>
      simp only [step] at stepped
      split at stepped
      · cases stepped
        exact ⟨handlers_kept _ rfl, rfl, rfl⟩
      · cases stepped
  | create frame =>
      simp only [step] at stepped
      split at stepped
      · cases stepped
      · next fresh =>
          cases stepped
          exact ⟨fresh, rfl, rfl, rfl⟩
  | send frame =>
      simp only [step] at stepped
      split at stepped
      · split at stepped
        · cases stepped
          exact ⟨handlers_kept _ rfl, rfl, rfl⟩
        · cases stepped
          exact ⟨rfl, rfl, rfl⟩
      · cases stepped
  | readAck =>
      simp only [step] at stepped
      split at stepped
      · split at stepped
        · cases stepped
        · cases stepped
          refine ⟨handlers_kept _ rfl, rfl, ?_⟩
          unfold settle
          split <;> rfl
      · cases stepped
  | receive connection =>
      simp only [step] at stepped
      split at stepped
      · next frame rest reading wire =>
          cases stepped
          exact ⟨frame, by simp [reads, wire], reading, handlers_goOn _ _ _ _ _, rfl, rfl⟩
      · cases stepped
  | store connection succeeds =>
      simp only [step] at stepped
      split at stepped
      · next frame storing =>
          cases stepped
          exact ⟨frame, storing, handlers_setHandler _ _ _, rfl, rfl⟩
      · cases stepped
  | publish connection succeeds =>
      simp only [step] at stepped
      split at stepped
      · next frame publishing =>
          cases stepped
          exact ⟨frame, publishing, handlers_setHandler _ _ _, rfl, rfl⟩
      · cases stepped
  | ack connection sent =>
      simp only [step] at stepped
      split at stepped
      · next id status acking =>
          refine ⟨id, status, acking, ?_⟩
          split at stepped
          · next isSent =>
              cases stepped
              simp only [isSent, ↓reduceIte]
              exact ⟨handlers_goOn _ _ _ _ _, rfl, rfl⟩
          · next notSent =>
              cases stepped
              simp only [notSent, Bool.false_eq_true, ↓reduceIte]
              exact ⟨handlers_setHandler _ _ _, rfl, rfl⟩
      · cases stepped

end InboundBridge

end FairyClaw
