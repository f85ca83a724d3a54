import FairyClaw.Bridge.FileService
import FairyClaw.Foundation.PyText

/-! # Uploads over arbitrary texts

The texts of a `file_put` frame are Python's, and may hold surrogates. The service compares them and
keeps them; only decoding the data of a chunk, storing a file and sending an answer need their
encoding. On frames without surrogates this is the service of `FairyClaw.FileService`
(`FairyClaw.TextUploads.serve_ofService`).
-/

namespace FairyClaw

open Foundation

/-! ## Payloads -/

/-- The values of a JSON document whose texts may hold surrogates. -/
inductive PyJson
  | null
  | bool (value : Bool)
  | int (value : Int)
  | float (printed : String)
  | str (value : PyText)
  | arr (items : List PyJson)
  | obj (fields : List (PyText × PyJson))

/-- A dictionary of such values. -/
abbrev PyObject := List (PyText × PyJson)

namespace PyJson

/-- Python's truth value. -/
def truthy : PyJson → Bool
  | .null => false
  | .bool value => value
  | .int value => value ≠ 0
  | .float printed => printed ≠ "0.0" && printed ≠ "-0.0"
  | .str value => value ≠ []
  | .arr items => !items.isEmpty
  | .obj fields => !fields.isEmpty

mutual

/-- A value without surrogates. -/
def ofJson : Json → PyJson
  | .null => .null
  | .bool value => .bool value
  | .int value => .int value
  | .float printed => .float printed
  | .str value => .str (.ofString value)
  | .arr items => .arr (ofItems items)
  | .obj fields => .obj (ofFields fields)

/-- Items without surrogates. -/
def ofItems : List Json → List PyJson
  | [] => []
  | item :: rest => ofJson item :: ofItems rest

/-- Entries without surrogates. -/
def ofFields : JsonObject → PyObject
  | [] => []
  | (key, value) :: rest => (.ofString key, ofJson value) :: ofFields rest

end

end PyJson

/-- Built-in conversions; those that raise are `none` there. `str` of a value that is no text has no
surrogates, since it escapes those inside. -/
structure TextConfig where
  strOf : PyJson → String
  intOf : PyJson → Option Int
  b64decode : String → Option (List UInt8)
  sha256Hex : List UInt8 → String

namespace TextConfig

variable (texts : TextConfig) (payload : PyObject) (key : String)

/-- `str(payload.get(key) or "")` -/
def text : PyText :=
  match payload.lookup (.ofString key) with
  | none => []
  | some (.str text) => text
  | some value => if value.truthy then .ofString (texts.strOf value) else []

/-- `str(payload.get(key))` unless it is null -/
def optionalText : Option PyText :=
  match payload.lookup (.ofString key) with
  | none | some .null => none
  | some (.str text) => some text
  | some value => some (.ofString (texts.strOf value))

/-- `int(payload.get(key) or 0)` -/
def number : Option Int :=
  match payload.lookup (.ofString key) with
  | none => some 0
  | some (.int value) => some value
  | some value => if value.truthy then texts.intOf value else some 0

/-- The conversions do on values without surrogates what those of the bridge do. -/
structure Extends (config : BridgeConfig) : Prop where
  strOf : ∀ value, texts.strOf (.ofJson value) = config.strOf value
  intOf : ∀ value, texts.intOf (.ofJson value) = config.intOf value
  b64decode : texts.b64decode = config.b64decode
  sha256Hex : texts.sha256Hex = config.sha256Hex

end TextConfig

/-! ## Frames, uploads and answers -/

/-- A frame of the upload part of the protocol. -/
structure TextFrame where
  kind : FilePutKind
  payload : PyObject

/-- A frame without surrogates. -/
def TextFrame.ofFrame (frame : FilePutFrame) : TextFrame where
  kind := frame.kind
  payload := PyJson.ofFields frame.payload

/-- `PendingUpload` -/
structure TextUpload where
  sessionId : PyText
  adapterKey : PyText
  messageId : PyText
  filename : PyText
  mimeType : Option PyText
  sizeBytes : Int
  sha256Hex : PyText
  chunks : List (Int × List UInt8) := []

/-- An upload without surrogates. -/
def TextUpload.ofUpload (upload : PendingUpload) : TextUpload where
  sessionId := .ofString upload.sessionId
  adapterKey := .ofString upload.adapterKey
  messageId := .ofString upload.messageId
  filename := .ofString upload.filename
  mimeType := upload.mimeType.map .ofString
  sizeBytes := upload.sizeBytes
  sha256Hex := .ofString upload.sha256Hex
  chunks := upload.chunks

/-- `GatewayFilePutAck` -/
structure TextAck where
  status : String
  uploadId : PyText
  seq : Option Int := none
  fileId : Option String := none
  error : Option (String × PyText) := none

namespace TextAck

/-- An answer without surrogates. -/
def ofAck (ack : GatewayFilePutAck) : TextAck where
  status := ack.status
  uploadId := .ofString ack.uploadId
  seq := ack.seq
  fileId := ack.fileId
  error := ack.error.map fun error => (error.1, .ofString error.2)

/-- An error as it is sent. -/
def encodeError : Option (String × PyText) → Option (Option BridgeError)
  | none => some none
  | some (code, message) => message.encode.map fun message => some (code, message)

/-- The answer as it is sent; `send_text` raises on a surrogate. -/
def encode (ack : TextAck) : Option GatewayFilePutAck := do
  let uploadId ← ack.uploadId.encode
  let error ← encodeError ack.error
  return { status := ack.status, uploadId := uploadId, seq := ack.seq, fileId := ack.fileId
           error := error }

end TextAck

/-- The requests of the upload part. -/
inductive TextRequest
  | init (upload : TextUpload)
  | chunk (uploadId : PyText) (seq : Int) (dataB64 : PyText) (chunkBytes : Int)
  | commit (uploadId : PyText) (totalChunks : Int)

/-- `_handle_frame` reads the fields of a frame; `none` is an exception. -/
def TextRequest.ofFrame (texts : TextConfig) (frame : TextFrame) : Option TextRequest :=
  match frame.kind with
  | .init => (texts.number frame.payload "size_bytes").map fun sizeBytes =>
      .init {
        sessionId := texts.text frame.payload "session_id"
        adapterKey := texts.text frame.payload "adapter_key"
        messageId := texts.text frame.payload "message_id"
        filename := texts.text frame.payload "filename"
        mimeType := texts.optionalText frame.payload "mime_type"
        sizeBytes := sizeBytes
        sha256Hex := texts.text frame.payload "sha256_hex" }
  | .chunk => do
      let seq ← texts.number frame.payload "seq"
      let chunkBytes ← texts.number frame.payload "chunk_bytes"
      return .chunk (texts.text frame.payload "upload_id") seq
        (texts.text frame.payload "data_b64") chunkBytes
  | .commit => (texts.number frame.payload "total_chunks").map fun totalChunks =>
      .commit (texts.text frame.payload "upload_id") totalChunks

/-! ## The service -/

/-- `GatewayFileService`, with the rows of files. -/
structure TextUploads where
  uploads : List (PyText × TextUpload) := []
  files : List FileRow := []

namespace TextUploads

variable (texts : TextConfig) (service : TextUploads)

/-- `put_init` -/
def putInit (upload : TextUpload) (uploadId : String) : TextUploads × TextAck :=
  ({ service with uploads := service.uploads ++ [(.ofString uploadId, upload)] },
    { status := "ok", uploadId := .ofString uploadId })

/-- The answer to a request for an upload that does not exist. -/
def notFound (uploadId : PyText) (seq : Option Int) : TextAck where
  status := "invalid"
  uploadId := uploadId
  seq := seq
  error := some ("upload_not_found", .ofString "Unknown upload_id: " ++ uploadId)

/-- Put a chunk into the accumulator of an upload. -/
def storeChunk (uploadId : PyText) (upload : TextUpload) (seq : Int) (data : List UInt8) :
    TextUploads :=
  { service with uploads := service.uploads.map fun entry =>
      if entry.1 = uploadId then (uploadId, { upload with chunks := upload.chunks ++ [(seq, data)] })
      else entry }

/-- `base64.b64decode(data_b64.encode("utf-8"))` -/
def decode (dataB64 : PyText) : Option (List UInt8) := dataB64.encode.bind texts.b64decode

/-- `put_chunk`; without an answer it raises. -/
def putChunk (uploadId : PyText) (seq : Int) (dataB64 : PyText) (chunkBytes : Int) :
    TextUploads × Option TextAck :=
  match service.uploads.lookup uploadId with
  | none => (service, some (notFound uploadId (some seq)))
  | some upload =>
      if (upload.chunks.lookup seq).isSome then
        (service, some { status := "duplicate", uploadId := uploadId, seq := some seq })
      else
        match decode texts dataB64 with
        | none => (service, none)
        | some data =>
            if (data.length : Int) = chunkBytes then
              (service.storeChunk uploadId upload seq data,
                some { status := "ok", uploadId := uploadId, seq := some seq })
            else
              (service, some
                { status := "invalid", uploadId := uploadId, seq := some seq
                  error := some ("chunk_size_mismatch", .ofString "Decoded chunk size mismatch") })

/-- The tests of `put_commit` on an upload: the content, or the first error; `none` is a missing
chunk. -/
def assemble (upload : TextUpload) (totalChunks : Int) :
    Option (Except BridgeError (List UInt8)) :=
  if (upload.chunks.length : Int) = totalChunks then do
    let pieces ← (List.range totalChunks.toNat).mapM fun index => upload.chunks.lookup (index : Int)
    let content := pieces.flatten
    if (content.length : Int) ≠ upload.sizeBytes then
      return .error ("file_size_mismatch", "Final file size mismatch")
    else if .ofString (texts.sha256Hex content) ≠ upload.sha256Hex then
      return .error ("sha256_mismatch", "SHA-256 checksum mismatch")
    else return .ok content
  else some (.error ("chunk_count_mismatch", "Chunk count mismatch"))

/-- The row of a file that is committed; the database takes no surrogates. -/
def row (upload : TextUpload) (fileId : String) (content : List UInt8) : Option FileRow := do
  let sessionId ← upload.sessionId.encode
  let filename ← upload.filename.encode
  let mimeType ← PyText.encodeOptional upload.mimeType
  return { id := fileId, sessionId := sessionId, content := content, filename := filename
           mimeType := mimeType }

/-- The row, when the database stores it. -/
def stored (upload : TextUpload) (answer : FilePutAnswer) (content : List UInt8) : Option FileRow :=
  if answer.stores then row upload answer.newId content else none

/-- The end of a commit, with the file that was stored; without one, and without an announcement, it
raises. -/
def announce (uploadId : PyText) (answer : FilePutAnswer) :
    Option FileRow → TextUploads × Option TextAck
  | none => (service, none)
  | some file =>
      let storing := { service with files := service.files ++ [file] }
      if answer.publishes then
        ({ storing with uploads := service.uploads.filter fun entry => entry.1 ≠ uploadId },
          some { status := "ok", uploadId := uploadId, fileId := some answer.newId })
      else (storing, none)

/-- `put_commit`; without an answer it raises. -/
def putCommit (uploadId : PyText) (totalChunks : Int) (answer : FilePutAnswer) :
    TextUploads × Option TextAck :=
  match service.uploads.lookup uploadId with
  | none => (service, some (notFound uploadId none))
  | some upload =>
      match assemble texts upload totalChunks with
      | none => (service, none)
      | some (.error error) => (service, some
          { status := "invalid", uploadId := uploadId
            error := some (error.1, .ofString error.2) })
      | some (.ok content) => service.announce uploadId answer (stored upload answer content)

/-- Serve a request. -/
def perform (answer : FilePutAnswer) : TextRequest → TextUploads × Option TextAck
  | .init upload => ((service.putInit upload answer.newId).1,
      some (service.putInit upload answer.newId).2)
  | .chunk uploadId seq dataB64 chunkBytes => service.putChunk texts uploadId seq dataB64 chunkBytes
  | .commit uploadId totalChunks => service.putCommit texts uploadId totalChunks answer

/-- `_handle_frame` up to sending the answer; without one it raises. -/
def serve (frame : TextFrame) (answer : FilePutAnswer) : TextUploads × Option TextAck :=
  match TextRequest.ofFrame texts frame with
  | none => (service, none)
  | some request => service.perform texts answer request

/-- A service whose uploads have no surrogates. -/
def ofService (service : FileService) : TextUploads where
  uploads := service.uploads.map fun entry => (.ofString entry.1, .ofUpload entry.2)
  files := service.files

end TextUploads

/-! ## Frames without surrogates -/

section Images

variable {Key Image Value Shown : Type} [BEq Key] [LawfulBEq Key] [BEq Image] [LawfulBEq Image]

/-- Looking up in an image is looking up, when the keys stay apart. -/
theorem lookup_image {image : Key → Image} (injective : Function.Injective image)
    (shown : Value → Shown) (entries : List (Key × Value)) (key : Key) :
    (entries.map fun entry => (image entry.1, shown entry.2)).lookup (image key) =
      (entries.lookup key).map shown := by
  induction entries with
  | nil => rfl
  | cons entry rest ih =>
      rw [List.map_cons, List.lookup_cons, List.lookup_cons]
      by_cases same : key = entry.1
      · simp only [same, beq_self_eq_true, Option.map_some]
      · have apart : (image key == image entry.1) = false :=
          beq_eq_false_iff_ne.mpr (injective.ne same)
        have different : (key == entry.1) = false := beq_eq_false_iff_ne.mpr same
        rw [apart, different]
        exact ih

end Images

namespace PyJson

/-- The entries without surrogates are the images of the entries. -/
theorem ofFields_eq (fields : JsonObject) :
    ofFields fields = fields.map fun entry => (.ofString entry.1, ofJson entry.2) := by
  induction fields with
  | nil => rfl
  | cons entry rest ih => rw [ofFields, ih, List.map_cons]

/-- The value of a key in a payload without surrogates. -/
theorem lookup_ofFields (fields : JsonObject) (key : String) :
    (ofFields fields).lookup (.ofString key) = (fields.get key).map ofJson := by
  rw [ofFields_eq]
  exact lookup_image PyText.ofString_injective ofJson fields key

/-- A value without surrogates keeps its truth value. -/
theorem truthy_ofJson (value : Json) : (ofJson value).truthy = value.truthy := by
  cases value with
  | str text =>
      have empty : PyText.ofString text = [] ↔ text = "" := @PyText.ofString_inj text ""
      simp only [ofJson, PyJson.truthy, Json.truthy, ne_eq, empty]
  | arr items => cases items with
    | nil => rfl
    | cons item rest => rfl
  | obj fields => cases fields with
    | nil => rfl
    | cons entry rest => rfl
  | null | bool | int | float => rfl

end PyJson

namespace TextConfig

variable {texts : TextConfig} {config : BridgeConfig}

/-- A field without surrogates is read as the bridge reads it. -/
theorem text_ofFields (same : texts.Extends config) (payload : JsonObject) (key : String) :
    texts.text (PyJson.ofFields payload) key = .ofString (config.text payload key "") := by
  rw [text, PyJson.lookup_ofFields, BridgeConfig.text]
  cases payload.get key with
  | none => rfl
  | some value =>
      have read : (if (PyJson.ofJson value).truthy then
            PyText.ofString (texts.strOf (PyJson.ofJson value)) else []) =
          PyText.ofString (if value.truthy then config.strOf value else "") := by
        rw [PyJson.truthy_ofJson, same.strOf]
        split <;> rfl
      cases value with
      | str text => simp only [Option.map_some, PyJson.ofJson, FilePutRequest.orElse_empty]
      | _ => exact read

/-- An optional field without surrogates is read as the bridge reads it. -/
theorem optionalText_ofFields (same : texts.Extends config) (payload : JsonObject) (key : String) :
    texts.optionalText (PyJson.ofFields payload) key =
      (config.optionalText payload key).map .ofString := by
  rw [optionalText, PyJson.lookup_ofFields, BridgeConfig.optionalText]
  cases payload.get key with
  | none => rfl
  | some value =>
      have read := congrArg (fun text => some (PyText.ofString text)) (same.strOf value)
      cases value with
      | null | str => rfl
      | _ => exact read

/-- A number without surrogates is read as the bridge reads it. -/
theorem number_ofFields (same : texts.Extends config) (payload : JsonObject) (key : String) :
    texts.number (PyJson.ofFields payload) key = config.number payload key := by
  rw [number, PyJson.lookup_ofFields, BridgeConfig.number]
  cases payload.get key with
  | none => rfl
  | some value =>
      have read : (if (PyJson.ofJson value).truthy then texts.intOf (PyJson.ofJson value)
            else some 0) = if value.truthy then config.intOf value else some 0 := by
        rw [PyJson.truthy_ofJson, same.intOf]
      cases value with
      | int => rfl
      | _ => exact read

end TextConfig

namespace TextAck

/-- An answer without surrogates is sent as it is. -/
theorem encode_ofAck (ack : GatewayFilePutAck) : (ofAck ack).encode = some ack := by
  obtain ⟨status, uploadId, seq, fileId, error⟩ := ack
  cases error with
  | none => simp [encode, ofAck, encodeError]
  | some error => simp [encode, ofAck, encodeError]

end TextAck

namespace TextUploads

variable {texts : TextConfig} {config : BridgeConfig} (service : FileService)

/-- An upload of a service without surrogates. -/
theorem lookup_ofService (uploadId : String) :
    (ofService service).uploads.lookup (.ofString uploadId) =
      (service.uploads.lookup uploadId).map .ofUpload :=
  lookup_image PyText.ofString_injective TextUpload.ofUpload service.uploads uploadId

/-- The answer for an upload that does not exist. -/
theorem notFound_ofString (uploadId : String) (seq : Option Int) :
    notFound (.ofString uploadId) seq = .ofAck (FileService.notFound uploadId seq) := by
  simp only [notFound, TextAck.ofAck, FileService.notFound, PyText.ofString, String.toList_append,
    List.map_append, Option.map_some]

/-- A chunk is put where the service puts it. -/
theorem storeChunk_ofService (uploadId : String) (upload : PendingUpload) (seq : Int)
    (data : List UInt8) :
    (ofService service).storeChunk (.ofString uploadId) (.ofUpload upload) seq data =
      ofService (service.storeChunk uploadId upload seq data) := by
  simp only [storeChunk, ofService, FileService.storeChunk, List.map_map]
  congr 1
  apply List.map_congr_left
  rintro ⟨key, held⟩ _
  simp only [Function.comp_apply, PyText.ofString_inj]
  split <;> rfl

/-- `put_chunk` without surrogates. -/
theorem putChunk_ofService (same : texts.Extends config) (request : GatewayFilePutChunk) :
    (ofService service).putChunk texts (.ofString request.uploadId) request.seq
        (.ofString request.dataB64) request.chunkBytes =
      (ofService (service.putChunk config request).1,
        (service.putChunk config request).2.map .ofAck) := by
  unfold putChunk FileService.putChunk
  rw [lookup_ofService]
  cases service.uploads.lookup request.uploadId with
  | none => simp only [Option.map_none, Option.map_some, notFound_ofString]
  | some upload =>
      have decoded : decode texts (.ofString request.dataB64) = config.b64decode request.dataB64 := by
        rw [decode, PyText.encode_ofString, same.b64decode, Option.bind_some]
      simp only [Option.map_some, decoded]
      have chunks : (TextUpload.ofUpload upload).chunks = upload.chunks := rfl
      rw [chunks]
      split
      · rfl
      · cases config.b64decode request.dataB64 with
        | none => rfl
        | some data =>
            dsimp only
            split
            · rw [storeChunk_ofService]
              rfl
            · rfl

/-- The tests of a commit without surrogates. -/
theorem assemble_ofUpload (same : texts.Extends config) (upload : PendingUpload)
    (totalChunks : Int) :
    assemble texts (.ofUpload upload) totalChunks =
      BridgeServer.assemble config upload totalChunks := by
  have digest (content : List UInt8) :
      PyText.ofString (texts.sha256Hex content) ≠ (TextUpload.ofUpload upload).sha256Hex ↔
        config.sha256Hex content ≠ upload.sha256Hex := by
    rw [same.sha256Hex]
    exact PyText.ofString_inj.not
  simp only [assemble, BridgeServer.assemble, digest]
  rfl

/-- The row of a file without surrogates. -/
theorem row_ofUpload (upload : PendingUpload) (fileId : String) (content : List UInt8) :
    row (.ofUpload upload) fileId content = some (FileService.row upload fileId content) := by
  cases given : upload.mimeType with
  | none => simp [row, TextUpload.ofUpload, FileService.row, given, PyText.encodeOptional]
  | some mimeType => simp [row, TextUpload.ofUpload, FileService.row, given, PyText.encodeOptional]

/-- `put_commit` without surrogates. -/
theorem putCommit_ofService (same : texts.Extends config) (request : GatewayFilePutCommit)
    (answer : FilePutAnswer) :
    (ofService service).putCommit texts (.ofString request.uploadId) request.totalChunks answer =
      (ofService (service.putCommit config request answer).1,
        (service.putCommit config request answer).2.map .ofAck) := by
  unfold putCommit FileService.putCommit
  rw [lookup_ofService]
  cases service.uploads.lookup request.uploadId with
  | none => simp only [Option.map_none, Option.map_some, notFound_ofString]
  | some upload =>
      simp only [Option.map_some, assemble_ofUpload same]
      cases BridgeServer.assemble config upload request.totalChunks with
      | none => rfl
      | some outcome =>
          cases outcome with
          | error error => rfl
          | ok content =>
              cases stores : answer.stores with
              | false =>
                  simp only [stored, stores, Bool.false_eq_true, ↓reduceIte, Option.map_none,
                    announce]
              | true =>
                  simp only [stored, stores, ↓reduceIte, row_ofUpload, announce]
                  split
                  · simp only [ofService, List.filter_map, Option.map_some, Prod.mk.injEq,
                      TextUploads.mk.injEq, and_true]
                    refine ⟨?_, rfl⟩
                    congr 1
                    apply List.filter_congr
                    intro entry _
                    simp only [Function.comp_apply, ne_eq, PyText.ofString_inj]
                  · rfl

/-- On frames without surrogates, the service does what `FileService` does. -/
theorem serve_ofService (same : texts.Extends config) (frame : FilePutFrame)
    (answer : FilePutAnswer) :
    (ofService service).serve texts (.ofFrame frame) answer =
      (ofService (service.serve config frame answer).1,
        (service.serve config frame answer).2.map .ofAck) := by
  obtain ⟨kind, payload⟩ := frame
  unfold serve FileService.serve TextRequest.ofFrame FilePutRequest.ofFrame TextFrame.ofFrame
  cases kind with
  | init =>
      simp only [TextConfig.number_ofFields same, TextConfig.text_ofFields same,
        TextConfig.optionalText_ofFields same]
      cases config.number payload "size_bytes" with
      | none => rfl
      | some sizeBytes =>
          simp only [Option.map_some, perform, FileService.perform, putInit, FileService.putInit,
            ofService, List.map_append, List.map_cons, List.map_nil]
          rfl
  | chunk =>
      simp only [TextConfig.number_ofFields same, TextConfig.text_ofFields same]
      cases config.number payload "seq" with
      | none => rfl
      | some seq =>
          cases config.number payload "chunk_bytes" with
          | none => rfl
          | some chunkBytes =>
              exact putChunk_ofService service same {
                uploadId := config.text payload "upload_id" "", seq := seq
                dataB64 := config.text payload "data_b64" "", chunkBytes := chunkBytes }
  | commit =>
      simp only [TextConfig.number_ofFields same, TextConfig.text_ofFields same]
      cases config.number payload "total_chunks" with
      | none => rfl
      | some totalChunks =>
          exact putCommit_ofService service same {
            uploadId := config.text payload "upload_id" "", totalChunks := totalChunks } answer

end TextUploads

end FairyClaw
