import FairyClaw.Foundation.Machine

/-! # Calls of the bridge client

`send_inbound`, `open_session`, `upload_file` and `download_file` put a future into the table of
their kind of request, send the request and wait for the future. An answer that the receiver reads
takes the future out of the table. When the connection is lost, the client connects again, and after
the handshake sends the inbound frames that are still pending. The business side answers the frames of
a connection one after the other.
-/

namespace FairyClaw

open Foundation

/-- Requests by the table of their futures: `_ack_waiters`, `_session_waiters`, `_file_put_waiters` or
`_downloads`. -/
inductive RequestKind
  | inbound
  | sessionOpen
  | filePut
  | fileGet
  deriving DecidableEq

/-- A request with the id of its frame. -/
structure ClientRequest where
  kind : RequestKind
  id : String
  deriving DecidableEq

/-- A frame on its way to the business side. -/
inductive UpFrame
  | hello
  | request (request : ClientRequest)
  deriving DecidableEq

/-- A frame on its way to the client: the answer to HELLO, or to a request with its status. -/
inductive DownFrame
  | helloAck (ok : Bool)
  | answer (request : ClientRequest) (status : String)
  deriving DecidableEq

/-- Where `_run` stands: without a socket, with one, waiting for the answer to HELLO, about to send
RESUME, or with the frames that the handshake has still to send again. -/
inductive CallLink
  | offline
  | opened
  | greeting
  | resuming
  | online (resends : List ClientRequest)
  deriving DecidableEq

/-- The client with the frames of its current connection. -/
structure ClientCalls where
  link : CallLink := .offline
  /-- The connection carries frames. -/
  isOpen : Bool := false
  up : List UpFrame := []
  down : List DownFrame := []
  /-- `_pending_inbound_frames` -/
  pending : List ClientRequest := []
  /-- Futures without a result. -/
  waiters : List ClientRequest := []
  /-- Calls in `_send_frame`. -/
  sending : List ClientRequest := []
  /-- Calls of `send_inbound` that have raised. -/
  raised : List ClientRequest := []
  /-- All requests so far. -/
  created : List ClientRequest := []
  deriving DecidableEq

/-- What may happen on the client: a request, its sending, an answer, or a change of the connection.
-/
inductive ClientAction
  | connect
  | hello
  | greeted
  | resumed
  | resend
  | close (arriving : Nat)
  | drop
  | request (request : ClientRequest)
  | send (request : ClientRequest) (succeeds : Bool)
  | serve (status : String)
  | receive
  deriving DecidableEq

/-- The statuses that an inbound frame is taken with. -/
def SettledStatus (status : String) : Prop := status = "ok" ∨ status = "duplicate"

instance (status : String) : Decidable (SettledStatus status) :=
  inferInstanceAs (Decidable (_ ∨ _))

namespace ClientCalls

variable (calls : ClientCalls)

/-- A call puts its future into the table, and an inbound frame with it among the pending ones. -/
def begin (request : ClientRequest) : ClientCalls :=
  { calls with
    waiters := calls.waiters ++ [request]
    pending := if request.kind = .inbound then calls.pending ++ [request] else calls.pending
    sending := calls.sending ++ [request]
    created := calls.created ++ [request] }

/-- `_send_frame` succeeds when there is an open socket, and the socket takes the frame. -/
def Transmits (succeeds : Bool) : Prop :=
  calls.link ≠ .offline ∧ calls.isOpen = true ∧ succeeds = true

instance (succeeds : Bool) : Decidable (calls.Transmits succeeds) :=
  inferInstanceAs (Decidable (_ ∧ _))

/-- `_send_frame` for a call; an exception ends the call. -/
def transmit (request : ClientRequest) (succeeds : Bool) : ClientCalls :=
  let sent := { calls with sending := calls.sending.erase request }
  if calls.Transmits succeeds then { sent with up := calls.up ++ [.request request] }
  else if request.kind = .inbound then { sent with raised := request :: calls.raised }
  else sent

/-- `_handle_frame` on the answer to a request, and what `send_inbound` does when its future has a
result. -/
def settle (request : ClientRequest) (status : String) : ClientCalls :=
  let answered := { calls with waiters := calls.waiters.filter (· ≠ request) }
  if request.kind ≠ .inbound then answered
  else if SettledStatus status then
    { answered with pending := calls.pending.filter (· ≠ request) }
  else if request ∈ calls.waiters then { answered with raised := request :: calls.raised }
  else answered

/-- The answer of the business side to the first frame on its way there. -/
def reply (status : String) : UpFrame → DownFrame
  | .hello => .helloAck (status = "ok")
  | .request request => .answer request status

/-- A step of the client. -/
def step : ClientAction → Option ClientCalls
  | .connect =>
      if calls.link = .offline then
        some { calls with link := .opened, isOpen := true, up := [], down := [] }
      else none
  | .hello =>
      if calls.link = .opened ∧ calls.isOpen = true then
        some { calls with link := .greeting, up := calls.up ++ [.hello] }
      else none
  | .greeted =>
      match calls.link, calls.down with
      | .greeting, .helloAck true :: rest => some { calls with link := .resuming, down := rest }
      | _, _ => none
  | .resumed =>
      if calls.link = .resuming ∧ calls.isOpen = true then
        some { calls with link := .online calls.pending }
      else none
  | .resend =>
      match calls.link with
      | .online (request :: rest) =>
          if calls.isOpen then
            some { calls with link := .online rest, up := calls.up ++ [.request request] }
          else none
      | _ => none
  | .close arriving =>
      if calls.isOpen then
        some { calls with isOpen := false, up := [], down := calls.down.take arriving }
      else none
  | .drop =>
      if calls.link = .offline then none
      else some { calls with link := .offline, isOpen := false, up := [], down := [] }
  | .request request =>
      if request ∈ calls.created then none else some (calls.begin request)
  | .send request succeeds =>
      if request ∈ calls.sending then some (calls.transmit request succeeds) else none
  | .serve status =>
      match calls.up with
      | [] => none
      | frame :: rest => some { calls with up := rest, down := calls.down ++ [reply status frame] }
  | .receive =>
      match calls.link, calls.down with
      | .online [], .answer request status :: rest =>
          some ({ calls with down := rest }.settle request status)
      | .online [], .helloAck _ :: rest => some { calls with down := rest }
      | _, _ => none

/-- The client with a business side that answers with any status. -/
def machine : Machine ClientCalls ClientAction where
  initial calls := calls = {}
  step := step

end ClientCalls

end FairyClaw
