import FairyClaw.Context.HistoryIr
import FairyClaw.Foundation.Machine
import FairyClaw.Foundation.RecentSet

/-! # The frame handler of the bridge

`UserGateway._handle_frame` serves one frame of one connection. What it may do besides answering is
recorded (`FairyClaw.BridgeEffect`), with the connection and whether a HELLO with the configured
token had been accepted on it. The handler keeps one active connection for all of them and asks for
no handshake.
-/

namespace FairyClaw

open Foundation

/-- The types of frames that the bridge knows. -/
inductive FrameType
  | hello
  | resume
  | sessionOpen
  | inbound
  | gatewayControl
  | filePutInit
  | filePutChunk
  | filePutCommit
  | fileGet
  | ack
  | heartbeat
  deriving DecidableEq, Repr

/-- The type with a value; other values are of none. -/
def FrameType.ofValue? : String → Option FrameType
  | "hello" => some .hello
  | "resume" => some .resume
  | "session_open" => some .sessionOpen
  | "inbound" => some .inbound
  | "gateway_control" => some .gatewayControl
  | "file_put_init" => some .filePutInit
  | "file_put_chunk" => some .filePutChunk
  | "file_put_commit" => some .filePutCommit
  | "file_get" => some .fileGet
  | "ack" => some .ack
  | "heartbeat" => some .heartbeat
  | _ => none

/-- A frame as it arrives. -/
structure BridgeFrame where
  type : String
  payload : JsonObject := []
  id : String

/-- The settings of the bridge, whether it has a `gateway_control`, and built-in conversions;
those that raise are `none` there. -/
structure BridgeConfig where
  bridgeToken : String
  maxChunkBytes : Nat
  backlogSize : Nat
  controlled : Bool
  strOf : Json → String
  intOf : Json → Option Int
  b64decode : String → Option (List UInt8)
  sha256Hex : List UInt8 → String

namespace BridgeConfig

variable (config : BridgeConfig) (payload : JsonObject) (key : String)

/-- `str(payload.get(key) or default)` -/
def text (default : String) : String :=
  match payload.get key with
  | none => default
  | some (.str text) => orElse text default
  | some value => if value.truthy then config.strOf value else default

/-- `str(payload.get(key))` unless it is null -/
def optionalText : Option String :=
  match payload.get key with
  | none | some .null => none
  | some (.str text) => some text
  | some value => some (config.strOf value)

/-- `int(payload.get(key) or 0)` -/
def number : Option Int :=
  match payload.get key with
  | none => some 0
  | some (.int value) => some value
  | some value => if value.truthy then config.intOf value else some 0

end BridgeConfig

/-! ## Contents of frames -/

/-- The fields of an inbound message that are stored or published. -/
structure GatewayInboundMessage where
  sessionId : String
  segments : List ContentSegment
  triggerTurn : Bool

/-- `from_payload`; it raises on a segment of an unknown type. -/
def GatewayInboundMessage.fromPayload (config : BridgeConfig) (payload : JsonObject) :
    Option GatewayInboundMessage := do
  let rawSegments := ((payload.get "segments").bind Json.asArr).getD []
  let typed := (rawSegments.filterMap Json.asObj).filter fun item =>
    (item.get "type").any Json.truthy
  let segments ← typed.mapM ContentSegment.fromDict
  return {
    sessionId := config.text payload "session_id" ""
    segments := segments
    triggerTurn := (payload.get "trigger_turn").any Json.truthy }

/-- An upload that has been announced, with the pieces it has. -/
structure PendingUpload where
  sessionId : String
  adapterKey : String
  messageId : String
  filename : String
  mimeType : Option String
  sizeBytes : Int
  sha256Hex : String
  chunks : List (Int × List UInt8) := []

/-- A row of `files`. -/
structure StoredFile where
  id : String
  sessionId : String
  content : List UInt8
  deriving DecidableEq

/-- `_normalize_file_id_for_lookup` -/
def normalizeFileIdForLookup (fileId : String) : String :=
  if startsWith fileId "file_" then "file_" ++ lower (String.ofList (fileId.toList.drop 5)) else fileId

/-! ## Effects and answers -/

/-- What the handler does for a connection besides answering. -/
inductive BridgeEffect
  | sessionOpened (sessionId : String)
  | messagePersisted (sessionId : String) (segments : List ContentSegment)
  | messagePublished (sessionId : String)
  | controlExecuted (op : String)
  | uploadCreated (uploadId : String)
  | uploadCommitted (uploadId fileId : String)
  | fileRead (fileId : String)
  | backlogSent (frameId : String)

/-- An error of the protocol: its code and message. -/
abbrev BridgeError := String × String

/-- What is sent back for a frame. -/
inductive BridgeReply
  | helloAck (connectionId : String) (error : Option BridgeError)
  | sessionOpenAck (sessionId : Option String) (error : Option BridgeError)
  | ack (refType refId status : String) (error : Option BridgeError)
  | controlAck (requestId : String) (error : Option BridgeError)
  | filePutAck (status uploadId : String) (seq : Option Int) (fileId : Option String)
      (error : Option BridgeError)
  | fileGetChunk (fileId : String) (data : List UInt8) (isLast : Bool)
  | fileGetAck (fileId status : String) (error : Option BridgeError)
  | error (error : BridgeError)
  | heartbeat (payload : JsonObject)

/-- What the handler is given from outside: a new identifier, and the text of the exception that
`from_payload`, `initialize_session` or a started control operation raises. -/
structure BridgeAnswer where
  newId : String
  failure : Option String := none

/-- Whether a connection is open, and whether it has said hello. -/
structure BridgeConnection where
  isOpen : Bool := false
  authenticated : Bool := false
  deriving DecidableEq

/-- An effect, the connection it was for, and whether that connection was authenticated. -/
structure BridgeLogEntry where
  connection : Nat
  authenticated : Bool
  effect : BridgeEffect

/-- The connections with the state of `UserGateway` and `GatewayFileService`, the rows of sessions
and files, and the record of all effects. -/
structure BridgeServer (limit : Nat) where
  connections : Nat → BridgeConnection := fun _ => {}
  next : Nat := 0
  active : Option Nat := none
  processed : RecentSet String limit := RecentSet.empty
  acked : List String := []
  backlog : List String := []
  uploads : List (String × PendingUpload) := []
  sessions : List String := []
  files : List StoredFile := []
  log : List BridgeLogEntry := []

/-- The outcome of a frame; the connection ends on a rejected HELLO and on an exception. -/
structure HandledFrame (limit : Nat) where
  server : BridgeServer limit
  effects : List BridgeEffect := []
  replies : List BridgeReply := []
  closes : Bool := false

namespace BridgeServer

variable {limit : Nat} (config : BridgeConfig) (server : BridgeServer limit)

/-- One connection is replaced. -/
def setConnection (connection : Nat) (after : BridgeConnection) : BridgeServer limit :=
  { server with connections := Function.update server.connections connection after }

/-- The frames that `_replay_backlog` sends. -/
def unacked : List String := server.backlog.filter (· ∉ server.acked)

/-- HELLO carries the configured token. -/
def accepts (payload : JsonObject) : Bool :=
  (payload.get "token").bind Json.asStr = some config.bridgeToken

/-- The branch of `_handle_frame` for a hello. -/
def handleHello (connection : Nat) (payload : JsonObject) (answer : BridgeAnswer) :
    HandledFrame limit :=
  if accepts config payload then
    { server := { server.setConnection connection
          { server.connections connection with authenticated := true } with
        active := some connection }
      replies := [.helloAck answer.newId none] }
  else
    { server := server
      replies := [.helloAck "" (some ("auth_failed", "Invalid bridge token"))]
      closes := true }

/-- `_replay_backlog` -/
def handleResume : HandledFrame limit :=
  { server := server, effects := server.unacked.map .backlogSent }

/-- `open_session`: the row is stored before the workspace is initialized. -/
def handleSessionOpen (answer : BridgeAnswer) : HandledFrame limit :=
  { server := { server with sessions := server.sessions ++ [answer.newId] }
    effects := [.sessionOpened answer.newId]
    replies := [match answer.failure with
      | none => .sessionOpenAck (some answer.newId) none
      | some message => .sessionOpenAck none (some ("session_open_failed", message))] }

/-- `submit_message`, with the error text or the effects. -/
def submitMessage (message : GatewayInboundMessage) : Except String (List BridgeEffect) :=
  if message.sessionId ∈ server.sessions then
    .ok ((if message.segments = [] then []
        else [.messagePersisted message.sessionId message.segments]) ++
      if message.triggerTurn then [.messagePublished message.sessionId] else [])
  else .error ("Session not found: " ++ message.sessionId)

/-- The branch of `_handle_frame` for an inbound message. -/
def handleInbound (frame : BridgeFrame) (answer : BridgeAnswer) : HandledFrame limit :=
  let failed (message : String) : HandledFrame limit :=
    { server := server
      replies := [.ack "inbound" frame.id "failed" (some ("inbound_failed", message))] }
  if frame.id ∈ server.processed then
    { server := server, replies := [.ack "inbound" frame.id "duplicate" none] }
  else
    match GatewayInboundMessage.fromPayload config frame.payload with
    | none => failed (answer.failure.getD "")
    | some message =>
        match server.submitMessage message with
        | .error message => failed message
        | .ok effects =>
            { server := { server with processed := server.processed.add frame.id }
              effects := effects
              replies := [.ack "inbound" frame.id "ok" none] }

/-- The tests that `BusinessGatewayControl.handle` makes of an operation before it starts, with the
text of the first that fails. -/
def controlError (op : String) (body : JsonObject) : Option String :=
  let stripped (key : String) := strip (config.text body key "")
  let isObject (key : String) := ((body.get key).bind Json.asObj).isSome
  match op with
  | "config.llm.get" | "config.system_env.get" | "capabilities.list" | "sessions.list" => none
  | "config.llm.put" =>
      if isObject "document" then none else some "body.document must be an object"
  | "config.system_env.put" =>
      match (body.get "env").bind Json.asObj with
      | none => some "body.env must be an object"
      | some env =>
          if env.any fun entry => entry.1 = "FAIRYCLAW_API_TOKEN" &&
              !(entry.2 matches .null) then
            some "FAIRYCLAW_API_TOKEN cannot be changed via control plane"
          else none
  | "capabilities.put" =>
      if stripped "group_name" = "" then some "group_name required"
      else if isObject "patch" then none else some "patch must be an object"
  | "sessions.history" =>
      let sessionId := stripped "session_id"
      if sessionId = "" then some "session_id required"
      else if sessionId ∈ server.sessions then none
      else some ("Session not found: " ++ sessionId)
  | "sessions.subagent_tasks" =>
      if stripped "session_id" = "" then some "session_id required" else none
  | _ => some ("Unknown gateway_control op: " ++ op)

/-- The operation and the body of a control frame. -/
def controlOf (payload : JsonObject) : String × JsonObject :=
  (config.text payload "op" "", ((payload.get "body").bind Json.asObj).getD [])

/-- The branch of `_handle_frame` for a control request. -/
def handleGatewayControl (frame : BridgeFrame) (answer : BridgeAnswer) : HandledFrame limit :=
  if config.controlled then
    let (op, body) := controlOf config frame.payload
    match server.controlError config op body with
    | some message =>
        { server := server
          replies := [.controlAck frame.id (some ("control_failed", message))] }
    | none =>
        { server := server
          effects := [.controlExecuted op]
          replies := [.controlAck frame.id (answer.failure.map ("control_failed", ·))] }
  else
    { server := server
      replies := [.controlAck frame.id
        (some ("control_unavailable", "Gateway control is not configured"))] }

/-- `put_init` -/
def handleFilePutInit (payload : JsonObject) (answer : BridgeAnswer) : HandledFrame limit :=
  match config.number payload "size_bytes" with
  | none => { server := server, closes := true }
  | some sizeBytes =>
      let upload : PendingUpload := {
        sessionId := config.text payload "session_id" ""
        adapterKey := config.text payload "adapter_key" ""
        messageId := config.text payload "message_id" ""
        filename := config.text payload "filename" ""
        mimeType := config.optionalText payload "mime_type"
        sizeBytes := sizeBytes
        sha256Hex := config.text payload "sha256_hex" "" }
      { server := { server with uploads := server.uploads ++ [(answer.newId, upload)] }
        effects := [.uploadCreated answer.newId]
        replies := [.filePutAck "ok" answer.newId none none none] }

/-- The answer to a chunk or a commit of an upload that does not exist. -/
def uploadNotFound (uploadId : String) (seq : Option Int) : BridgeReply :=
  .filePutAck "invalid" uploadId seq none
    (some ("upload_not_found", "Unknown upload_id: " ++ uploadId))

/-- `put_chunk` -/
def handleFilePutChunk (payload : JsonObject) : HandledFrame limit :=
  let uploadId := config.text payload "upload_id" ""
  match config.number payload "seq", config.number payload "chunk_bytes" with
  | some seq, some chunkBytes =>
      match server.uploads.lookup uploadId with
      | none => { server := server, replies := [uploadNotFound uploadId (some seq)] }
      | some upload =>
          if (upload.chunks.lookup seq).isSome then
            { server := server, replies := [.filePutAck "duplicate" uploadId (some seq) none none] }
          else
            match config.b64decode (config.text payload "data_b64" "") with
            | none => { server := server, closes := true }
            | some data =>
                if (data.length : Int) = chunkBytes then
                  let stored := { upload with chunks := upload.chunks ++ [(seq, data)] }
                  { server := { server with uploads := server.uploads.map fun entry =>
                      if entry.1 = uploadId then (uploadId, stored) else entry }
                    replies := [.filePutAck "ok" uploadId (some seq) none none] }
                else
                  { server := server
                    replies := [.filePutAck "invalid" uploadId (some seq) none
                      (some ("chunk_size_mismatch", "Decoded chunk size mismatch"))] }
  | _, _ => { server := server, closes := true }

/-- The tests of `put_commit` on an upload: the content, or the first error; `none` is a missing
chunk. -/
def assemble (upload : PendingUpload) (totalChunks : Int) :
    Option (Except BridgeError (List UInt8)) :=
  if (upload.chunks.length : Int) = totalChunks then do
    let pieces ← (List.range totalChunks.toNat).mapM fun index => upload.chunks.lookup (index : Int)
    let content := pieces.flatten
    if (content.length : Int) ≠ upload.sizeBytes then
      return .error ("file_size_mismatch", "Final file size mismatch")
    else if config.sha256Hex content ≠ upload.sha256Hex then
      return .error ("sha256_mismatch", "SHA-256 checksum mismatch")
    else return .ok content
  else some (.error ("chunk_count_mismatch", "Chunk count mismatch"))

/-- `put_commit` -/
def handleFilePutCommit (payload : JsonObject) (answer : BridgeAnswer) : HandledFrame limit :=
  let uploadId := config.text payload "upload_id" ""
  match config.number payload "total_chunks" with
  | none => { server := server, closes := true }
  | some totalChunks =>
      match server.uploads.lookup uploadId with
      | none => { server := server, replies := [uploadNotFound uploadId none] }
      | some upload =>
          match assemble config upload totalChunks with
          | none => { server := server, closes := true }
          | some (.error error) =>
              { server := server, replies := [.filePutAck "invalid" uploadId none none (some error)] }
          | some (.ok content) =>
              let file : StoredFile :=
                { id := answer.newId, sessionId := upload.sessionId, content := content }
              { server := { server with
                  files := server.files ++ [file]
                  uploads := server.uploads.filter fun entry => entry.1 ≠ uploadId }
                effects := [.uploadCommitted uploadId answer.newId]
                replies := [.filePutAck "ok" uploadId none (some answer.newId) none] }

/-- `get_for_session` -/
def getForSession (fileId sessionId : String) : Option StoredFile :=
  server.files.find? fun file =>
    file.id = normalizeFileIdForLookup fileId && file.sessionId = sessionId

/-- The chunks of a file, with the mark of the last one. -/
def fileChunks (file : StoredFile) : List BridgeReply :=
  let pieces := file.content.toChunks config.maxChunkBytes
  pieces.mapIdx fun index piece => .fileGetChunk file.id piece (index + 1 = pieces.length)

/-- `get_chunks` -/
def handleFileGet (payload : JsonObject) : HandledFrame limit :=
  let fileId := config.text payload "file_id" ""
  match server.getForSession fileId (config.text payload "session_id" "") with
  | none =>
      { server := server
        replies := [.fileGetAck fileId "invalid" (some ("file_not_found", "File not found"))] }
  | some file =>
      if config.maxChunkBytes = 0 then
        { server := server, effects := [.fileRead file.id], closes := true }
      else
        { server := server
          effects := [.fileRead file.id]
          replies := fileChunks config file ++ [.fileGetAck file.id "ok" none] }

/-- The branch of `_handle_frame` for an acknowledgement. -/
def handleAck (payload : JsonObject) : HandledFrame limit :=
  let status := config.text payload "status" ""
  if config.text payload "ref_type" "" = "outbound" ∧ (status = "ok" ∨ status = "duplicate") then
    { server := { server with acked := config.text payload "ref_id" "" :: server.acked } }
  else { server := server }

/-- The last branch of `_handle_frame`. -/
def handleUnsupported (frame : BridgeFrame) : HandledFrame limit :=
  let error := ("invalid_frame", "Unsupported frame type: " ++ frame.type)
  { server := server
    replies := [.error error, .ack "frame" frame.id "invalid" (some error)] }

/-- `_handle_frame` -/
def handleFrame (connection : Nat) (frame : BridgeFrame) (answer : BridgeAnswer) :
    HandledFrame limit :=
  match FrameType.ofValue? frame.type with
  | some .hello => server.handleHello config connection frame.payload answer
  | some .resume => server.handleResume
  | some .sessionOpen => server.handleSessionOpen answer
  | some .inbound => server.handleInbound config frame answer
  | some .gatewayControl => server.handleGatewayControl config frame answer
  | some .filePutInit => server.handleFilePutInit config frame.payload answer
  | some .filePutChunk => server.handleFilePutChunk config frame.payload
  | some .filePutCommit => server.handleFilePutCommit config frame.payload answer
  | some .fileGet => server.handleFileGet config frame.payload
  | some .ack => server.handleAck config frame.payload
  | some .heartbeat => { server := server, replies := [.heartbeat frame.payload] }
  | none => server.handleUnsupported frame

/-! ## Steps -/

/-- Record effects for a connection. -/
def record (connection : Nat) (authenticated : Bool) (effects : List BridgeEffect) :
    BridgeServer limit :=
  { server with log := server.log ++ effects.map (BridgeLogEntry.mk connection authenticated) }

/-- `handle_connection` ends. -/
def disconnect (connection : Nat) : BridgeServer limit :=
  { server.setConnection connection { server.connections connection with isOpen := false } with
    active := if server.active = some connection then none else server.active }

/-- `push_outbound`: into the bounded backlog, and to the active connection. -/
def pushOutbound (frameId : String) : BridgeServer limit :=
  let backlog := server.backlog ++ [frameId]
  let queued := { server with backlog := backlog.drop (backlog.length - config.backlogSize) }
  match server.active with
  | none => queued
  | some connection => queued.record connection (server.connections connection).authenticated
      [.backlogSent frameId]

end BridgeServer

/-- A new connection, a frame that arrives on one, the end of one, an outbound push, or a row that
the rest of the program stores. -/
inductive BridgeAction
  | connect
  | frame (connection : Nat) (frame : BridgeFrame) (answer : BridgeAnswer)
  | disconnect (connection : Nat)
  | push (frameId : String)
  | storeSession (sessionId : String)
  | storeFile (file : StoredFile)

namespace BridgeServer

variable {limit : Nat} (config : BridgeConfig) (server : BridgeServer limit)

/-- A step of the server; a frame is handled while its connection is open. -/
def step : BridgeAction → Option (BridgeServer limit)
  | .connect =>
      some { server.setConnection server.next { isOpen := true } with next := server.next + 1 }
  | .frame connection frame answer =>
      let peer := server.connections connection
      if peer.isOpen then
        let handled := server.handleFrame config connection frame answer
        let recorded := handled.server.record connection peer.authenticated handled.effects
        some (if handled.closes then recorded.disconnect connection else recorded)
      else none
  | .disconnect connection =>
      if (server.connections connection).isOpen then some (server.disconnect connection) else none
  | .push frameId => some (server.pushOutbound config frameId)
  | .storeSession sessionId => some { server with sessions := server.sessions ++ [sessionId] }
  | .storeFile file => some { server with files := server.files ++ [file] }

/-- The bridge from the start of the program on. -/
def machine (limit : Nat) : Machine (BridgeServer limit) BridgeAction where
  initial := (· = {})
  step := step config

end BridgeServer

end FairyClaw
