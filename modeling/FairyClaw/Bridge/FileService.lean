import FairyClaw.Bridge.HandleFrame
import FairyClaw.Foundation.Base64

/-! # File uploads on the business side

`GatewayFileService` collects the chunks of an upload under their sequence numbers and stores the
file at the commit. `_handle_frame` reads the fields of a `file_put` frame and answers it with a
`file_put_ack`; an exception ends the connection. This is the upload part of the frame handler with
all data of a file, and with a database and an event bus that may fail
(`FairyClaw.FileService.handleFrame_serve`).
-/

namespace FairyClaw

open Foundation

/-- A row of `files`, with its name and type. -/
structure FileRow extends StoredFile where
  filename : String
  mimeType : Option String
  deriving DecidableEq

/-- `GatewayFileService`, with the rows of files. -/
structure FileService where
  uploads : List (String × PendingUpload) := []
  files : List FileRow := []

/-! ## Requests and answers -/

/-- The announcement of a file. -/
structure GatewayFilePutInit where
  sessionId : String
  adapterKey : String
  messageId : String
  filename : String
  mimeType : Option String
  sizeBytes : Int
  sha256Hex : String
  deriving DecidableEq

/-- A piece of a file, encoded. -/
structure GatewayFilePutChunk where
  uploadId : String
  seq : Int
  dataB64 : String
  chunkBytes : Int
  deriving DecidableEq

/-- The end of an upload, with the number of its pieces. -/
structure GatewayFilePutCommit where
  uploadId : String
  totalChunks : Int
  deriving DecidableEq

/-- The answer to a frame of an upload. -/
structure GatewayFilePutAck where
  status : String
  uploadId : String
  seq : Option Int := none
  fileId : Option String := none
  error : Option BridgeError := none
  deriving DecidableEq

/-- A request of an upload. -/
inductive FilePutRequest
  | init (request : GatewayFilePutInit)
  | chunk (request : GatewayFilePutChunk)
  | commit (request : GatewayFilePutCommit)
  deriving DecidableEq

/-- The three kinds of frames of an upload. -/
inductive FilePutKind
  | init
  | chunk
  | commit
  deriving DecidableEq

/-- A frame of the upload part of the protocol. -/
structure FilePutFrame where
  kind : FilePutKind
  payload : JsonObject

namespace FilePutKind

/-- `FRAME_FILE_PUT_INIT`, `FRAME_FILE_PUT_CHUNK` and `FRAME_FILE_PUT_COMMIT` -/
def value : FilePutKind → String
  | init => "file_put_init"
  | chunk => "file_put_chunk"
  | commit => "file_put_commit"

end FilePutKind

namespace FilePutRequest

/-- The frame that carries a request, with `to_payload`. -/
def toFrame : FilePutRequest → FilePutFrame
  | init request =>
      { kind := .init
        payload := [("session_id", .str request.sessionId), ("adapter_key", .str request.adapterKey),
          ("message_id", .str request.messageId), ("filename", .str request.filename),
          ("mime_type", (request.mimeType.map Json.str).getD .null),
          ("size_bytes", .int request.sizeBytes), ("sha256_hex", .str request.sha256Hex)] }
  | chunk request =>
      { kind := .chunk
        payload := [("upload_id", .str request.uploadId), ("seq", .int request.seq),
          ("data_b64", .str request.dataB64), ("chunk_bytes", .int request.chunkBytes)] }
  | commit request =>
      { kind := .commit
        payload := [("upload_id", .str request.uploadId),
          ("total_chunks", .int request.totalChunks)] }

/-- `_handle_frame` reads the fields of a frame; `none` is an exception. -/
def ofFrame (config : BridgeConfig) (frame : FilePutFrame) : Option FilePutRequest :=
  match frame.kind with
  | .init => (config.number frame.payload "size_bytes").map fun sizeBytes =>
      .init {
        sessionId := config.text frame.payload "session_id" ""
        adapterKey := config.text frame.payload "adapter_key" ""
        messageId := config.text frame.payload "message_id" ""
        filename := config.text frame.payload "filename" ""
        mimeType := config.optionalText frame.payload "mime_type"
        sizeBytes := sizeBytes
        sha256Hex := config.text frame.payload "sha256_hex" "" }
  | .chunk => do
      let seq ← config.number frame.payload "seq"
      let chunkBytes ← config.number frame.payload "chunk_bytes"
      return .chunk {
        uploadId := config.text frame.payload "upload_id" ""
        seq := seq
        dataB64 := config.text frame.payload "data_b64" ""
        chunkBytes := chunkBytes }
  | .commit => (config.number frame.payload "total_chunks").map fun totalChunks =>
      .commit {
        uploadId := config.text frame.payload "upload_id" ""
        totalChunks := totalChunks }

/-- Without a text the empty one is taken. -/
theorem orElse_empty (text : String) : orElse text "" = text := by
  unfold orElse
  split
  · exact Eq.symm ‹_›
  · rfl

/-- The business side reads what the gateway has written. -/
theorem ofFrame_toFrame (config : BridgeConfig) (request : FilePutRequest) :
    ofFrame config request.toFrame = some request := by
  cases request with
  | init request =>
      have mime : config.optionalText (toFrame (.init request)).payload "mime_type" =
          request.mimeType := by
        cases given : request.mimeType with
        | none => simp [BridgeConfig.optionalText, toFrame, JsonObject.get, List.lookup_cons, given]
        | some mime => simp [BridgeConfig.optionalText, toFrame, JsonObject.get, List.lookup_cons, given]
      simp only [toFrame] at mime
      simp only [ofFrame, toFrame, mime]
      simp [BridgeConfig.number, BridgeConfig.text, JsonObject.get, List.lookup_cons, orElse_empty]
  | chunk request =>
      simp [ofFrame, toFrame, BridgeConfig.number, BridgeConfig.text, JsonObject.get, List.lookup_cons,
        orElse_empty]
  | commit request =>
      simp [ofFrame, toFrame, BridgeConfig.number, BridgeConfig.text, JsonObject.get, List.lookup_cons,
        orElse_empty]

end FilePutRequest

/-! ## The service -/

/-- What a request is given from outside: a new identifier, and whether the database stores the file
and the event bus takes its event. -/
structure FilePutAnswer where
  newId : String
  stores : Bool := true
  publishes : Bool := true

namespace GatewayFilePutInit

/-- The upload of a request, without chunks. -/
def pending (request : GatewayFilePutInit) : PendingUpload where
  sessionId := request.sessionId
  adapterKey := request.adapterKey
  messageId := request.messageId
  filename := request.filename
  mimeType := request.mimeType
  sizeBytes := request.sizeBytes
  sha256Hex := request.sha256Hex

end GatewayFilePutInit

namespace FileService

variable (config : BridgeConfig) (service : FileService)

/-- `put_init` -/
def putInit (request : GatewayFilePutInit) (uploadId : String) : FileService × GatewayFilePutAck :=
  ({ service with uploads := service.uploads ++ [(uploadId, request.pending)] },
    { status := "ok", uploadId := uploadId })

/-- The answer to a request for an upload that does not exist. -/
def notFound (uploadId : String) (seq : Option Int) : GatewayFilePutAck where
  status := "invalid"
  uploadId := uploadId
  seq := seq
  error := some ("upload_not_found", "Unknown upload_id: " ++ uploadId)

/-- Put a chunk into the accumulator of an upload. -/
def storeChunk (uploadId : String) (upload : PendingUpload) (seq : Int) (data : List UInt8) :
    FileService :=
  { service with uploads := service.uploads.map fun entry =>
      if entry.1 = uploadId then (uploadId, { upload with chunks := upload.chunks ++ [(seq, data)] })
      else entry }

/-- `put_chunk`; without an answer it raises. -/
def putChunk (request : GatewayFilePutChunk) : FileService × Option GatewayFilePutAck :=
  match service.uploads.lookup request.uploadId with
  | none => (service, some (notFound request.uploadId (some request.seq)))
  | some upload =>
      if (upload.chunks.lookup request.seq).isSome then
        (service, some
          { status := "duplicate", uploadId := request.uploadId, seq := some request.seq })
      else
        match config.b64decode request.dataB64 with
        | none => (service, none)
        | some data =>
            if (data.length : Int) = request.chunkBytes then
              (service.storeChunk request.uploadId upload request.seq data, some
                { status := "ok", uploadId := request.uploadId, seq := some request.seq })
            else
              (service, some
                { status := "invalid", uploadId := request.uploadId, seq := some request.seq
                  error := some ("chunk_size_mismatch", "Decoded chunk size mismatch") })

/-- The row of a file that is committed. -/
def row (upload : PendingUpload) (fileId : String) (content : List UInt8) : FileRow where
  id := fileId
  sessionId := upload.sessionId
  content := content
  filename := upload.filename
  mimeType := upload.mimeType

/-- `put_commit`; without an answer it raises. -/
def putCommit (request : GatewayFilePutCommit) (answer : FilePutAnswer) :
    FileService × Option GatewayFilePutAck :=
  match service.uploads.lookup request.uploadId with
  | none => (service, some (notFound request.uploadId none))
  | some upload =>
      match BridgeServer.assemble config upload request.totalChunks with
      | none => (service, none)
      | some (.error error) =>
          (service, some { status := "invalid", uploadId := request.uploadId, error := some error })
      | some (.ok content) =>
          if answer.stores then
            let stored :=
              { service with files := service.files ++ [row upload answer.newId content] }
            if answer.publishes then
              ({ stored with uploads := service.uploads.filter fun entry =>
                  entry.1 ≠ request.uploadId },
                some { status := "ok", uploadId := request.uploadId, fileId := some answer.newId })
            else (stored, none)
          else (service, none)

/-- Serve a request. -/
def perform (answer : FilePutAnswer) : FilePutRequest → FileService × Option GatewayFilePutAck
  | .init request => ((service.putInit request answer.newId).1,
      some (service.putInit request answer.newId).2)
  | .chunk request => service.putChunk config request
  | .commit request => service.putCommit config request answer

/-- `_handle_frame`; without an answer it raises. -/
def serve (frame : FilePutFrame) (answer : FilePutAnswer) :
    FileService × Option GatewayFilePutAck :=
  match FilePutRequest.ofFrame config frame with
  | none => (service, none)
  | some request => service.perform config answer request

/-- The file of an identifier. -/
def file (fileId : String) : Option FileRow := service.files.find? fun row => row.id = fileId

end FileService

/-! ## The content of a commit -/

section Pieces

variable {Item Image : Type} {read : Item → Option Image}

/-- A reading that succeeds for every item reads the items. -/
theorem mapM_eq_map (missing : Image) : ∀ {items : List Item},
    (∀ item ∈ items, (read item).isSome) →
      items.mapM read = some (items.map fun item => (read item).getD missing)
  | [], _ => rfl
  | item :: rest, present => by
      obtain ⟨image, found⟩ := Option.isSome_iff_exists.mp (present item List.mem_cons_self)
      have others := mapM_eq_map missing fun other member =>
        present other (List.mem_cons_of_mem _ member)
      rw [List.mapM_cons, found, others, List.map_cons, found]
      rfl

/-- Items that are read are all read. -/
theorem isSome_of_mapM : ∀ {items : List Item} {images : List Image},
    items.mapM read = some images → ∀ item ∈ items, (read item).isSome
  | item :: rest, images, mapped, other, member => by
      rw [List.mapM_cons] at mapped
      obtain ⟨image, found, mapped⟩ := Option.bind_eq_some_iff.mp mapped
      obtain ⟨others, kept, _⟩ := Option.bind_eq_some_iff.mp mapped
      rcases List.mem_cons.mp member with rfl | later
      · rw [found]
        rfl
      · exact isSome_of_mapM kept other later

end Pieces

namespace FileService

variable {chunks : List (Int × List UInt8)} {totalChunks : Int}

/-- The concatenation of the first chunks. -/
def joined (chunks : List (Int × List UInt8)) (totalChunks : Int) : List UInt8 :=
  (List.range totalChunks.toNat).flatMap fun index : Nat =>
    (chunks.lookup (index : Int)).getD []

/-- The sequence numbers of a commit. -/
theorem seqs_eq (count : Nat) :
    (do let index ← List.range count; pure (index : Int) : List Int) =
      (List.range count).map Nat.cast := by
  rw [List.map_eq_flatMap]
  rfl

/-- A join that lacks a chunk raises. -/
theorem pieces_gap
    (gap : ¬∀ index < totalChunks.toNat, (chunks.lookup (index : Int)).isSome) :
    (((List.range totalChunks.toNat).map Nat.cast).mapM fun seq : Int => chunks.lookup seq) =
      none := by
  cases mapped : ((List.range totalChunks.toNat).map Nat.cast).mapM
      fun seq : Int => chunks.lookup seq with
  | none => rfl
  | some pieces =>
      refine absurd (fun index small => ?_) gap
      exact isSome_of_mapM mapped index (List.mem_map_of_mem (List.mem_range.mpr small))

/-- A join that finds its chunks gives their concatenation. -/
theorem pieces_present
    (present : ∀ index < totalChunks.toNat, (chunks.lookup (index : Int)).isSome) :
    ∃ pieces, (((List.range totalChunks.toNat).map Nat.cast).mapM
      fun seq : Int => chunks.lookup seq) = some pieces ∧
        pieces.flatten = joined chunks totalChunks := by
  have stored : ∀ seq ∈ (List.range totalChunks.toNat).map (Nat.cast : Nat → Int),
      (chunks.lookup seq).isSome := by
    intro seq member
    obtain ⟨index, small, rfl⟩ := List.mem_map.mp member
    exact present index (List.mem_range.mp small)
  refine ⟨_, mapM_eq_map [] stored, ?_⟩
  rw [joined, List.flatMap_def, List.map_map]
  rfl

end FileService

/-- The tests of a commit that finds its chunks. -/
theorem BridgeServer.assemble_present {config : BridgeConfig} {upload : PendingUpload}
    {totalChunks : Int} (counted : (upload.chunks.length : Int) = totalChunks)
    (present : ∀ index < totalChunks.toNat, (upload.chunks.lookup (index : Int)).isSome) :
    BridgeServer.assemble config upload totalChunks =
      some (if ((FileService.joined upload.chunks totalChunks).length : Int) ≠ upload.sizeBytes then
        .error ("file_size_mismatch", "Final file size mismatch")
      else if config.sha256Hex (FileService.joined upload.chunks totalChunks) ≠
          upload.sha256Hex then
        .error ("sha256_mismatch", "SHA-256 checksum mismatch")
      else .ok (FileService.joined upload.chunks totalChunks)) := by
  obtain ⟨pieces, read, content⟩ := FileService.pieces_present present
  rw [BridgeServer.assemble, if_pos counted, FileService.seqs_eq, read]
  dsimp only [Option.bind_eq_bind, Option.bind_some, Option.pure_def]
  rw [content]
  split
  · rfl
  · split <;> rfl

/-! ## The frame handler of the bridge -/

namespace FileService

variable (config : BridgeConfig) (service : FileService)

/-- The reply that carries an answer. -/
def reply (ack : GatewayFilePutAck) : BridgeReply :=
  .filePutAck ack.status ack.uploadId ack.seq ack.fileId ack.error

variable {limit : Nat}

/-- The service as a part of the business side. -/
def view (server : BridgeServer limit) : BridgeServer limit :=
  { server with uploads := service.uploads, files := service.files.map FileRow.toStoredFile }

/-- What the frame handler does with a frame: the service after it, and the answer or the end of the
connection. -/
structure Handles (server : BridgeServer limit) (handled : HandledFrame limit)
    (served : FileService × Option GatewayFilePutAck) : Prop where
  server : handled.server = served.1.view server
  replies : handled.replies = (served.2.map reply).toList
  closes : handled.closes = served.2.isNone

/-- While the database and the event bus take the files, the service does what the frame handler
does. -/
theorem handleFrame_serve (server : BridgeServer limit) (connection : Nat) (frame : FilePutFrame)
    (id : String) (answer : BridgeAnswer) :
    Handles server
      ((service.view server).handleFrame config connection
        { type := frame.kind.value, payload := frame.payload, id := id } answer)
      (service.serve config frame { newId := answer.newId }) := by
  obtain ⟨kind, payload⟩ := frame
  cases kind with
  | init =>
      show Handles server ((service.view server).handleFilePutInit config payload answer) _
      unfold BridgeServer.handleFilePutInit serve FilePutRequest.ofFrame
      cases config.number payload "size_bytes" with
      | none => exact ⟨rfl, rfl, rfl⟩
      | some sizeBytes => exact ⟨rfl, rfl, rfl⟩
  | chunk =>
      show Handles server ((service.view server).handleFilePutChunk config payload) _
      unfold BridgeServer.handleFilePutChunk serve FilePutRequest.ofFrame
      cases config.number payload "seq" with
      | none => exact ⟨rfl, rfl, rfl⟩
      | some seq =>
          cases config.number payload "chunk_bytes" with
          | none => exact ⟨rfl, rfl, rfl⟩
          | some chunkBytes =>
              show Handles server _ (service.putChunk config _)
              dsimp only
              unfold putChunk
              have known : (service.view server).uploads = service.uploads := rfl
              rw [known]
              cases service.uploads.lookup (config.text payload "upload_id" "") with
              | none => exact ⟨rfl, rfl, rfl⟩
              | some upload =>
                  dsimp only
                  split
                  · exact ⟨rfl, rfl, rfl⟩
                  · cases config.b64decode (config.text payload "data_b64" "") with
                    | none => exact ⟨rfl, rfl, rfl⟩
                    | some data =>
                        dsimp only
                        split
                        · exact ⟨rfl, rfl, rfl⟩
                        · exact ⟨rfl, rfl, rfl⟩
  | commit =>
      show Handles server ((service.view server).handleFilePutCommit config payload answer) _
      unfold BridgeServer.handleFilePutCommit serve FilePutRequest.ofFrame
      cases config.number payload "total_chunks" with
      | none => exact ⟨rfl, rfl, rfl⟩
      | some totalChunks =>
          show Handles server _ (service.putCommit config _ _)
          dsimp only
          unfold putCommit
          have known : (service.view server).uploads = service.uploads := rfl
          rw [known]
          cases service.uploads.lookup (config.text payload "upload_id" "") with
          | none => exact ⟨rfl, rfl, rfl⟩
          | some upload =>
              dsimp only
              cases BridgeServer.assemble config upload totalChunks with
              | none => exact ⟨rfl, rfl, rfl⟩
              | some result =>
                  cases result with
                  | error error => exact ⟨rfl, rfl, rfl⟩
                  | ok content =>
                      refine ⟨?_, rfl, rfl⟩
                      simp only [view, ↓reduceIte, List.map_append, List.map_cons, List.map_nil, row]

end FileService

end FairyClaw
