import FairyClaw.Bridge.FileService
import FairyClaw.Foundation.Exchange
import FairyClaw.Foundation.Slices
import Mathlib.Data.List.Sort

/-! # Downloads end to end

`download_file` asks for a file; the business side answers with its chunks and an acknowledgement.
The receiver collects the chunks of a request under their numbers, with the name and the type that
they carry, and the call joins them when the acknowledgement is there. Any number of such calls share
the connection. A file without content has no chunk, so its name and its type do not arrive
(`FairyClaw.download_end_to_end`).
-/

namespace FairyClaw

open Foundation Exchange

/-! ## The business side -/

/-- A request for a file; its identifier is the one under which it is in flight. -/
structure GatewayFileGetRequest where
  sessionId : String
  fileId : String
  deriving DecidableEq

/-- A piece of a file, with its number. -/
structure GatewayFileGetChunk where
  fileId : String
  seq : Nat
  dataB64 : String
  chunkBytes : Nat
  isLast : Bool
  filename : Option String
  mimeType : Option String
  deriving DecidableEq

/-- The answer that ends a download, or refuses it. -/
structure GatewayFileGetAck where
  fileId : String
  status : String
  error : Option BridgeError := none
  deriving DecidableEq

/-- A frame of the download part of the protocol. -/
inductive FileGetFrame
  | chunk (chunk : GatewayFileGetChunk)
  | ack (ack : GatewayFileGetAck)
  deriving DecidableEq

namespace GatewayFileGetChunk

/-- `to_payload`, without the identifier of the request. -/
def toPayload (chunk : GatewayFileGetChunk) : JsonObject :=
  let optional (text : Option String) : Json := (text.map Json.str).getD .null
  [("file_id", .str chunk.fileId), ("seq", .int chunk.seq), ("data_b64", .str chunk.dataB64),
    ("chunk_bytes", .int chunk.chunkBytes), ("is_last", .bool chunk.isLast),
    ("filename", optional chunk.filename), ("mime_type", optional chunk.mimeType)]

end GatewayFileGetChunk

namespace GatewayFileGetAck

/-- `to_payload`, without the identifier of the request. -/
def toPayload (ack : GatewayFileGetAck) : JsonObject :=
  [("file_id", .str ack.fileId), ("status", .str ack.status),
    ("error", (ack.error.map fun (code, message) =>
      Json.obj [("code", .str code), ("message", .str message)]).getD .null)]

end GatewayFileGetAck

/-- `get_for_session` -/
def getForSession (files : List FileRow) (request : GatewayFileGetRequest) : Option FileRow :=
  files.find? fun file =>
    file.id = normalizeFileIdForLookup request.fileId && file.sessionId = request.sessionId

/-- A chunk of a file. -/
def fileChunk (chunkSize : Nat) (file : FileRow) (seq : Nat) (piece : List UInt8) :
    GatewayFileGetChunk where
  fileId := file.id
  seq := seq
  dataB64 := Base64.encode piece
  chunkBytes := piece.length
  isLast := file.content.length ≤ seq * chunkSize + chunkSize
  filename := some file.filename
  mimeType := file.mimeType

/-- `get_chunks`, with the frames in the order in which they are sent. -/
def getChunks (chunkSize : Nat) (files : List FileRow) (request : GatewayFileGetRequest) :
    List FileGetFrame :=
  match getForSession files request with
  | none =>
      [.ack { fileId := request.fileId, status := "invalid"
              error := some ("file_not_found", "File not found") }]
  | some file =>
      ((slices chunkSize file.content).mapIdx fun seq piece =>
        .chunk (fileChunk chunkSize file seq piece)) ++ [.ack { fileId := file.id, status := "ok" }]

namespace FileGetFrame

/-- A frame as the frame handler answers with it. -/
def reply : FileGetFrame → BridgeReply
  | .chunk part => .fileGetChunk part.fileId ((Base64.decode part.dataB64).getD []) part.isLast
  | .ack answer => .fileGetAck answer.fileId answer.status answer.error

end FileGetFrame

/-- The file of a session is found as the bridge finds it. -/
theorem getForSession_view {limit : Nat} (service : FileService) (server : BridgeServer limit)
    (request : GatewayFileGetRequest) :
    (service.view server).getForSession request.fileId request.sessionId =
      (getForSession service.files request).map FileRow.toStoredFile := by
  rw [BridgeServer.getForSession, getForSession]
  exact List.find?_map ..

/-- Whether a piece is the last one. -/
theorem isLast_iff {chunkSize length seq : Nat} (positive : 0 < chunkSize)
    (inside : seq < (length + chunkSize - 1) / chunkSize) :
    length ≤ seq * chunkSize + chunkSize ↔ seq + 1 = (length + chunkSize - 1) / chunkSize := by
  have count : (length + chunkSize - 1) / chunkSize < seq + 2 ↔
      length + chunkSize - 1 < (seq + 2) * chunkSize := Nat.div_lt_iff_lt_mul positive
  have bound : (seq + 2) * chunkSize = seq * chunkSize + chunkSize + chunkSize := by
    rw [Nat.add_mul, Nat.two_mul, Nat.add_assoc]
  rw [bound] at count
  omega

/-- The chunks are the replies of the bridge. -/
theorem fileChunks_reply {config : BridgeConfig} (positive : 0 < config.maxChunkBytes)
    (file : FileRow) :
    ((slices config.maxChunkBytes file.content).mapIdx fun seq piece =>
      .chunk (fileChunk config.maxChunkBytes file seq piece)).map FileGetFrame.reply =
    BridgeServer.fileChunks config file.toStoredFile := by
  rw [BridgeServer.fileChunks, toChunks_eq_slices positive]
  apply List.ext_getElem
  · rw [List.length_map, List.length_mapIdx, List.length_mapIdx]
  · intro seq inside _
    have last := isLast_iff positive (by
      rwa [List.length_map, List.length_mapIdx, slices, rangeSteps, List.length_map, List.length_map,
        List.length_range] at inside)
    have count : (slices config.maxChunkBytes file.content).length =
        (file.content.length + config.maxChunkBytes - 1) / config.maxChunkBytes := by
      rw [slices, rangeSteps, List.length_map, List.length_map, List.length_range]
    simp only [List.getElem_map, List.getElem_mapIdx, FileGetFrame.reply, fileChunk, Base64.decode_encode,
      Option.getD_some, count, last]

/-- The answers to a request are those of the frame handler. -/
theorem handleFileGet_getChunks {limit : Nat} {config : BridgeConfig}
    (positive : 0 < config.maxChunkBytes) (service : FileService) (server : BridgeServer limit)
    (payload : JsonObject) :
    ((service.view server).handleFileGet config payload).replies =
      (getChunks config.maxChunkBytes service.files {
        sessionId := config.text payload "session_id" ""
        fileId := config.text payload "file_id" "" }).map FileGetFrame.reply := by
  have found := getForSession_view service server {
    sessionId := config.text payload "session_id" ""
    fileId := config.text payload "file_id" "" }
  dsimp only at found
  rw [BridgeServer.handleFileGet, getChunks]
  dsimp only
  rw [found]
  cases getForSession service.files _ with
  | none => rfl
  | some file =>
      simp only [Option.map_some, Nat.ne_of_gt positive, ↓reduceIte, List.map_append,
        fileChunks_reply positive]
      rfl

/-! ## The gateway -/

/-- `_DownloadState` -/
structure DownloadState where
  chunks : List (Int × List UInt8) := []
  filename : Option String := none
  mimeType : Option String := none
  deriving DecidableEq

/-- Where a call of `download_file` stands: waiting, at its end, or at a connection that has ended. -/
inductive DownloadOutcome
  | waiting
  | returned (content : List UInt8) (filename mimeType : Option String)
  | raised (message : String)
  | disconnected
  deriving DecidableEq

/-- A call with its request, its state and its outcome. -/
structure DownloadCall where
  request : GatewayFileGetRequest
  state : DownloadState := {}
  outcome : DownloadOutcome := .waiting

namespace DownloadState

/-- Assignment to a sequence number. -/
def setChunk (chunks : List (Int × List UInt8)) (seq : Int) (data : List UInt8) :
    List (Int × List UInt8) :=
  if (chunks.lookup seq).isSome then
    chunks.map fun entry => if entry.1 = seq then (seq, data) else entry
  else chunks ++ [(seq, data)]

/-- `_handle_frame` on a chunk; `none` is an exception. -/
def receive (config : BridgeConfig) (state : DownloadState) (payload : JsonObject) :
    Option DownloadState := do
  let seq ← config.number payload "seq"
  let data ← config.b64decode (config.text payload "data_b64" "")
  return {
    chunks := setChunk state.chunks seq data
    filename := ((payload.get "filename").bind Json.asStr).or state.filename
    mimeType := ((payload.get "mime_type").bind Json.asStr).or state.mimeType }

/-- The chunks in the order of their sequence numbers. -/
def joined (state : DownloadState) : List UInt8 :=
  ((state.chunks.map Prod.fst).insertionSort (· ≤ ·)).flatMap fun seq =>
    (state.chunks.lookup seq).getD []

end DownloadState

namespace DownloadCall

/-- `download_file` when the acknowledgement is there. -/
def acknowledge (config : BridgeConfig) (call : DownloadCall) (payload : JsonObject) :
    DownloadOutcome :=
  if config.text payload "status" "" = "ok" then
    .returned call.state.joined call.state.filename call.state.mimeType
  else
    let error := ((payload.get "error").bind Json.asObj).getD []
    .raised (config.text error "message" "Bridge failed to download file")

/-- The receiver, and the call behind it, on a frame of its request. -/
def resume (config : BridgeConfig) (call : DownloadCall) :
    FileGetFrame → Resumption DownloadCall GatewayFileGetRequest
  | .chunk chunk =>
      match call.state.receive config chunk.toPayload with
      | some state => .await { call with state := state }
      | none => .done { call with outcome := .disconnected }
  | .ack ack => .done { call with outcome := call.acknowledge config ack.toPayload }

end DownloadCall

/-- Downloads from a table of files over a connection. -/
def downloads (config : BridgeConfig) :
    Exchange GatewayFileGetRequest DownloadCall GatewayFileGetRequest FileGetFrame (List FileRow)
      Unit where
  opens request := ({ request := request }, some request)
  serve files _ request := some (files, getChunks config.maxChunkBytes files request)
  resume := DownloadCall.resume config

/-- The gateway and the business side with a table of files. -/
def downloadBridge (config : BridgeConfig) (files : List FileRow) :
    Machine (Wire DownloadCall GatewayFileGetRequest FileGetFrame (List FileRow) String)
      (WireAction GatewayFileGetRequest Unit String) :=
  (downloads config).wire fun server => server = files

end FairyClaw
