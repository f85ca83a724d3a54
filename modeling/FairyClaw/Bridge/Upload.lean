import FairyClaw.Bridge.FileService
import FairyClaw.Foundation.Exchange
import FairyClaw.Foundation.Slices

/-! # Uploads end to end

`upload_file` announces a file, sends its chunks one after the other and commits, each time waiting
for the `file_put_ack` of its frame. Any number of such calls share the connection to the business
side, where `GatewayFileService` serves one frame at a time.
-/

namespace FairyClaw

open Foundation

/-! ## The gateway -/

/-- The arguments of `upload_file`. -/
structure UploadArgs where
  sessionId : String
  adapterKey : String
  messageId : String
  content : List UInt8
  filename : String
  mimeType : Option String

/-- Limits on files: those of the settings, and those announced by the business side. -/
structure FileLimits where
  maxFileBytes : Nat
  maxChunkBytes : Nat

/-- What the gateway knows: `self._limits` and its own settings. -/
structure UploadGateway where
  limits : FileLimits
  settings : FileLimits

namespace UploadGateway

variable (gateway : UploadGateway)

/-- `int(self._limits.get("max_file_bytes") or settings.bridge_max_file_bytes)` -/
def maxFileBytes : Nat :=
  if gateway.limits.maxFileBytes = 0 then gateway.settings.maxFileBytes
  else gateway.limits.maxFileBytes

/-- `int(self._limits.get("max_chunk_bytes") or settings.bridge_max_chunk_bytes)` -/
def chunkSize : Nat :=
  if gateway.limits.maxChunkBytes = 0 then gateway.settings.maxChunkBytes
  else gateway.limits.maxChunkBytes

end UploadGateway

/-- Where a call of `upload_file` stands: waiting for the answer to its announcement, to the chunk of
a number, with the pieces after it, or to its commit; or at its end. -/
inductive UploadStage
  | initiating
  | sending (uploadId : String) (seq : Nat) (rest : List (List UInt8))
  | committing (uploadId : String)
  | returned (fileId : String)
  | raised (message : String)

/-- A call with its arguments and the stage it is at. -/
structure UploadCall where
  args : UploadArgs
  stage : UploadStage

namespace UploadCall

variable (config : BridgeConfig) (gateway : UploadGateway)

/-- The announcement of a file. -/
def initRequest (args : UploadArgs) : GatewayFilePutInit where
  sessionId := args.sessionId
  adapterKey := args.adapterKey
  messageId := args.messageId
  filename := args.filename
  mimeType := args.mimeType
  sizeBytes := args.content.length
  sha256Hex := config.sha256Hex args.content

/-- The request for a piece. -/
def chunkRequest (uploadId : String) (seq : Nat) (piece : List UInt8) : GatewayFilePutChunk where
  uploadId := uploadId
  seq := seq
  dataB64 := Base64.encode piece
  chunkBytes := piece.length

/-- The request that ends the upload. -/
def commitRequest (uploadId : String) (totalChunks : Nat) : GatewayFilePutCommit where
  uploadId := uploadId
  totalChunks := totalChunks

/-- The pieces of the content. -/
def pieces (args : UploadArgs) : List (List UInt8) := slices gateway.chunkSize args.content

/-- `upload_file` until it waits for the first time. -/
def opens (args : UploadArgs) : UploadCall × Option FilePutFrame :=
  if gateway.maxFileBytes < args.content.length then
    (⟨args, .raised "File exceeds bridge max_file_bytes"⟩, none)
  else (⟨args, .initiating⟩, some (FilePutRequest.init (initRequest config args)).toFrame)

/-- The next turn of the loop over the pieces, or the commit after it. -/
def nextChunk (args : UploadArgs) (uploadId : String) (seq : Nat) :
    List (List UInt8) → Resumption UploadCall FilePutFrame
  | [] => .send ⟨args, .committing uploadId⟩
      (FilePutRequest.commit (commitRequest uploadId seq)).toFrame
  | piece :: rest => .send ⟨args, .sending uploadId seq rest⟩
      (FilePutRequest.chunk (chunkRequest uploadId seq piece)).toFrame

/-- The status that a chunk or a commit is accepted with. -/
def accepted (ack : GatewayFilePutAck) : Prop := ack.status = "ok" ∨ ack.status = "duplicate"

instance (ack : GatewayFilePutAck) : Decidable (accepted ack) :=
  inferInstanceAs (Decidable (_ ∨ _))

/-- `upload_file` from one answer to the next. -/
def resume (call : UploadCall) (ack : GatewayFilePutAck) : Resumption UploadCall FilePutFrame :=
  match call.stage with
  | .initiating =>
      if ack.uploadId = "" then
        .done { call with stage := .raised "Bridge did not return upload_id" }
      else nextChunk call.args ack.uploadId 0 (pieces gateway call.args)
  | .sending uploadId seq rest =>
      if accepted ack then nextChunk call.args uploadId (seq + 1) rest
      else .done { call with stage := .raised "Bridge rejected file chunk" }
  | .committing _ =>
      match ack.fileId with
      | some fileId =>
          if accepted ack ∧ fileId ≠ "" then .done { call with stage := .returned fileId }
          else .done { call with stage := .raised "Bridge failed to commit file upload" }
      | none => .done { call with stage := .raised "Bridge failed to commit file upload" }
  | .returned _ | .raised _ => .done call

end UploadCall

/-! ## The business side -/

/-- The service at the other end of a connection, which an exception closes. -/
structure UploadServer where
  service : FileService := {}
  isOpen : Bool := true

namespace UploadServer

/-- An identifier that no upload and no file has yet. -/
def Fresh (service : FileService) (newId : String) : Prop :=
  "upload_" ++ newId ∉ service.uploads.map Prod.fst ∧
    "file_" ++ newId ∉ service.files.map fun file => file.id

instance (service : FileService) (newId : String) : Decidable (Fresh service newId) :=
  inferInstanceAs (Decidable (_ ∧ _))

/-- The identifier that a frame is given: of an upload, or of a file. -/
def answerFor (frame : FilePutFrame) (newId : String) : FilePutAnswer where
  newId := (if frame.kind = .init then "upload_" else "file_") ++ newId

/-- `handle_connection` on one frame. -/
def serve (config : BridgeConfig) (server : UploadServer) (newId : String) (frame : FilePutFrame) :
    Option (UploadServer × List GatewayFilePutAck) :=
  if server.isOpen = true ∧ Fresh server.service newId then
    match server.service.serve config frame (answerFor frame newId) with
    | (service, some ack) => some ({ server with service := service }, [ack])
    | (service, none) => some ({ service := service, isOpen := false }, [])
  else none

end UploadServer

/-- Uploads over a connection. -/
def uploads (config : BridgeConfig) (gateway : UploadGateway) :
    Exchange UploadArgs UploadCall FilePutFrame GatewayFilePutAck UploadServer String where
  opens := UploadCall.opens config gateway
  serve := UploadServer.serve config
  resume := UploadCall.resume gateway

/-- The gateway and the business side, whose connection is open at first. -/
def uploadBridge (config : BridgeConfig) (gateway : UploadGateway) :
    Machine (Exchange.Wire UploadCall FilePutFrame GatewayFilePutAck UploadServer String)
      (Exchange.WireAction UploadArgs String String) :=
  (uploads config gateway).wire fun server => server.isOpen = true

end FairyClaw
