import FairyClaw.Bridge.UploadTexts

/-! # Arbitrary upload frames

`handle_connection` hands every frame to the handler and ends when that raises. A frame raises when
one of its numbers cannot be read, when the data of a new chunk cannot be decoded, when a commit
names the right number of chunks but not their sequence numbers, when the file cannot be stored or
announced, and when the answer repeats a text with a surrogate
(`FairyClaw.UploadConnection.Answerable`). All other frames are answered; in either case only checked
content is stored, and a rejected upload is left as it was (`FairyClaw.file_put_robust`).
-/

namespace FairyClaw

open Foundation

/-- An upload frame as it arrives, with what its handling is given from outside. -/
structure ArrivingUpload where
  id : PyText
  frame : TextFrame
  answer : FilePutAnswer

/-- The texts of an upload that are stored with its file have no surrogates. -/
structure TextUpload.Storable (upload : TextUpload) : Prop where
  sessionId : upload.sessionId.Encodable
  filename : upload.filename.Encodable
  mimeType : ∀ mimeType ∈ upload.mimeType, mimeType.Encodable

/-- A connection: the service, the answers sent with the frames they are for, and whether the
connection goes on. -/
structure UploadConnection where
  service : TextUploads := {}
  replies : List (String × GatewayFilePutAck) := []
  isOpen : Bool := true

namespace UploadConnection

variable (texts : TextConfig)

/-- `_send_frame` with an answer, under the identifier of the frame it is for. -/
def send (id : PyText) (ack : TextAck) : Option (String × GatewayFilePutAck) := do
  let id ← id.encode
  let ack ← ack.encode
  return (id, ack)

/-- `_handle_frame`: the service after it and the answer sent; without one it has raised. -/
def handle (service : TextUploads) (arriving : ArrivingUpload) :
    TextUploads × Option (String × GatewayFilePutAck) :=
  match service.serve texts arriving.frame arriving.answer with
  | (after, none) => (after, none)
  | (after, some ack) => (after, send arriving.id ack)

/-- `handle_connection` on the next frame. -/
def receive (connection : UploadConnection) (arriving : ArrivingUpload) : UploadConnection :=
  if connection.isOpen then
    match handle texts connection.service arriving with
    | (service, some reply) =>
        { connection with service := service, replies := connection.replies ++ [reply] }
    | (service, none) => { connection with service := service, isOpen := false }
  else connection

/-- `handle_connection` on a sequence of frames. -/
def receiveAll (service : TextUploads) (frames : List ArrivingUpload) : UploadConnection :=
  frames.foldl (receive texts) { service := service }

/-- The concatenation of the first chunks of an upload. -/
def joined (upload : TextUpload) (totalChunks : Int) : List UInt8 :=
  FileService.joined upload.chunks totalChunks

/-- A frame that is served: its numbers can be read; a new chunk of a known upload can be decoded;
where a commit names the number of chunks, these are the first ones; and where they also have the
announced size and digest, the file is stored and announced. -/
def Servable (service : TextUploads) (arriving : ArrivingUpload) : Prop :=
  let payload := arriving.frame.payload
  let found := service.uploads.lookup (texts.text payload "upload_id")
  match arriving.frame.kind with
  | .init => (texts.number payload "size_bytes").isSome
  | .chunk => ∃ seq chunkBytes, texts.number payload "seq" = some seq ∧
      texts.number payload "chunk_bytes" = some chunkBytes ∧
      ∀ upload, found = some upload → (upload.chunks.lookup seq).isSome ∨
        (TextUploads.decode texts (texts.text payload "data_b64")).isSome
  | .commit => ∃ totalChunks, texts.number payload "total_chunks" = some totalChunks ∧
      ∀ upload, found = some upload → (upload.chunks.length : Int) = totalChunks →
        (∀ index < totalChunks.toNat, (upload.chunks.lookup (index : Int)).isSome) ∧
          (((joined upload totalChunks).length : Int) = upload.sizeBytes →
            .ofString (texts.sha256Hex (joined upload totalChunks)) = upload.sha256Hex →
              upload.Storable ∧ arriving.answer.stores = true ∧ arriving.answer.publishes = true)

/-- The upload that a chunk or a commit names has no surrogates; the answer repeats its name. -/
def NamedPlainly (frame : TextFrame) : Prop :=
  match frame.kind with
  | .init => True
  | .chunk | .commit => (texts.text frame.payload "upload_id").Encodable

/-- What the answer repeats has no surrogates: the identifier of the frame, and the upload named by a
chunk or a commit. -/
def Echoable (arriving : ArrivingUpload) : Prop :=
  arriving.id.Encodable ∧ NamedPlainly texts arriving.frame

/-- A frame that can be answered: it is served, and its answer can be sent. -/
def Answerable (service : TextUploads) (arriving : ArrivingUpload) : Prop :=
  Servable texts service arriving ∧ Echoable texts arriving

/-- A file that a frame stores: the first chunks of an upload, with the announced size and digest. -/
structure Checked (service : TextUploads) (arriving : ArrivingUpload) (file : FileRow) : Prop where
  commit : ∃ uploadId totalChunks upload, service.uploads.lookup uploadId = some upload ∧
    TextRequest.ofFrame texts arriving.frame = some (.commit uploadId totalChunks) ∧
    (∀ index < totalChunks.toNat, (upload.chunks.lookup (index : Int)).isSome) ∧
    TextUploads.row upload arriving.answer.newId (joined upload totalChunks) = some file ∧
    file.content = joined upload totalChunks ∧
    (file.content.length : Int) = upload.sizeBytes ∧
    .ofString (texts.sha256Hex file.content) = upload.sha256Hex

/-- All frames are answered and the connection goes on; a file is stored only when it is checked; and
a frame that is answered, but not with ok, leaves the uploads. -/
structure Robust (service : TextUploads) (frames : List ArrivingUpload) : Prop where
  answered : (receiveAll texts service frames).isOpen = true ∧
    (receiveAll texts service frames).replies.map (fun reply => PyText.ofString reply.1) =
      frames.map ArrivingUpload.id
  checked : ∀ earlier arriving later, frames = earlier ++ arriving :: later →
    let before := (receiveAll texts service earlier).service
    ∀ file ∈ (receiveAll texts service (earlier ++ [arriving])).service.files,
      file ∈ before.files ∨ Checked texts before arriving file
  rejected : ∀ earlier arriving later, frames = earlier ++ arriving :: later →
    let before := receiveAll texts service earlier
    let after := receiveAll texts service (earlier ++ [arriving])
    ∀ reply, after.replies = before.replies ++ [reply] → reply.2.status ≠ "ok" →
      after.service.uploads = before.service.uploads

end UploadConnection

namespace TextAck

variable {ack : TextAck}

/-- An answer whose message has no surrogates is sent when its upload has none. -/
theorem isSome_encode_of_plain
    (plain : ∀ error, ack.error = some error → error.2.Encodable) :
    ack.encode.isSome = true ↔ ack.uploadId.Encodable := by
  have message : ∃ error, encodeError ack.error = some error := by
    cases given : ack.error with
    | none => exact ⟨none, rfl⟩
    | some error =>
        obtain ⟨text, encoded⟩ :=
          Option.isSome_iff_exists.mp (PyText.isSome_encode_iff.mpr (plain error given))
        exact ⟨some (error.1, text), by rw [encodeError, encoded]; rfl⟩
  obtain ⟨error, encoded⟩ := message
  rw [← PyText.isSome_encode_iff, encode, encoded]
  cases ack.uploadId.encode with
  | none => rfl
  | some uploadId => exact iff_of_true rfl rfl

/-- An answer without a message is sent when its upload has no surrogates. -/
theorem isSome_encode_of_noError (quiet : ack.error = none) :
    ack.encode.isSome = true ↔ ack.uploadId.Encodable := by
  apply isSome_encode_of_plain
  intro error given
  rw [quiet] at given
  cases given

/-- The answer for an unknown upload is sent when the upload named has no surrogates. -/
theorem isSome_encode_notFound (uploadId : PyText) (seq : Option Int) :
    (TextUploads.notFound uploadId seq).encode.isSome = true ↔ uploadId.Encodable := by
  rw [← PyText.isSome_encode_iff, encode, TextUploads.notFound]
  simp only [encodeError, PyText.encode_append, PyText.encode_ofString]
  cases uploadId.encode with
  | none => rfl
  | some text => exact iff_of_true rfl rfl

/-- An answer that is sent keeps its status. -/
theorem status_of_encode {sent : GatewayFilePutAck} (encoded : ack.encode = some sent) :
    sent.status = ack.status := by
  rw [encode] at encoded
  obtain ⟨_, _, encoded⟩ := Option.bind_eq_some_iff.mp encoded
  obtain ⟨_, _, encoded⟩ := Option.bind_eq_some_iff.mp encoded
  cases encoded
  rfl

end TextAck

namespace TextUploads

variable {texts : TextConfig} {upload : TextUpload} {totalChunks : Int}

/-- A row is made of an upload exactly when its texts have no surrogates. -/
theorem isSome_row_iff (upload : TextUpload) (fileId : String) (content : List UInt8) :
    (row upload fileId content).isSome = true ↔ upload.Storable := by
  constructor
  · intro present
    obtain ⟨file, made⟩ := Option.isSome_iff_exists.mp present
    rw [row] at made
    obtain ⟨sessionId, first, made⟩ := Option.bind_eq_some_iff.mp made
    obtain ⟨filename, second, made⟩ := Option.bind_eq_some_iff.mp made
    obtain ⟨mimeType, third, _⟩ := Option.bind_eq_some_iff.mp made
    refine ⟨PyText.isSome_encode_iff.mp (by rw [first]; rfl),
      PyText.isSome_encode_iff.mp (by rw [second]; rfl), ?_⟩
    exact PyText.isSome_encodeOptional_iff.mp (by rw [third]; rfl)
  · rintro ⟨sessionId, filename, mimeType⟩
    obtain ⟨first, session⟩ := Option.isSome_iff_exists.mp (PyText.isSome_encode_iff.mpr sessionId)
    obtain ⟨second, name⟩ := Option.isSome_iff_exists.mp (PyText.isSome_encode_iff.mpr filename)
    obtain ⟨third, type⟩ :=
      Option.isSome_iff_exists.mp (PyText.isSome_encodeOptional_iff.mpr mimeType)
    rw [row, session, name, type]
    rfl

/-- A row holds the content it is made of. -/
theorem content_of_row {fileId : String} {content : List UInt8} {file : FileRow}
    (made : row upload fileId content = some file) : file.content = content := by
  rw [row] at made
  obtain ⟨_, _, made⟩ := Option.bind_eq_some_iff.mp made
  obtain ⟨_, _, made⟩ := Option.bind_eq_some_iff.mp made
  obtain ⟨_, _, made⟩ := Option.bind_eq_some_iff.mp made
  cases made
  rfl

/-- A commit with the wrong number of chunks is refused. -/
theorem assemble_mismatch (other : (upload.chunks.length : Int) ≠ totalChunks) :
    assemble texts upload totalChunks =
      some (.error ("chunk_count_mismatch", "Chunk count mismatch")) := by
  rw [assemble, if_neg other]

/-- The join raises exactly when a chunk is missing. -/
theorem assemble_gap (counted : (upload.chunks.length : Int) = totalChunks)
    (gap : ¬∀ index < totalChunks.toNat, (upload.chunks.lookup (index : Int)).isSome) :
    assemble texts upload totalChunks = none := by
  rw [assemble, if_pos counted, FileService.seqs_eq, FileService.pieces_gap gap]
  rfl

/-- The tests of a commit that finds its chunks. -/
theorem assemble_present (counted : (upload.chunks.length : Int) = totalChunks)
    (present : ∀ index < totalChunks.toNat, (upload.chunks.lookup (index : Int)).isSome) :
    assemble texts upload totalChunks =
      some (if ((UploadConnection.joined upload totalChunks).length : Int) ≠ upload.sizeBytes then
        .error ("file_size_mismatch", "Final file size mismatch")
      else if .ofString (texts.sha256Hex (UploadConnection.joined upload totalChunks)) ≠
          upload.sha256Hex then
        .error ("sha256_mismatch", "SHA-256 checksum mismatch")
      else .ok (UploadConnection.joined upload totalChunks)) := by
  obtain ⟨pieces, read, content⟩ := FileService.pieces_present present
  rw [assemble, if_pos counted, FileService.seqs_eq, read]
  dsimp only [Option.bind_eq_bind, Option.bind_some, Option.pure_def]
  rw [content]
  unfold UploadConnection.joined
  split
  · rfl
  · split <;> rfl

end TextUploads

namespace UploadConnection

variable {texts : TextConfig} {service : TextUploads} {arriving : ArrivingUpload}

/-- What serving a frame does: it is answered when it is servable, under the upload it names; it
stores nothing but a checked file, and leaves the uploads unless it is answered with ok. -/
structure Served (texts : TextConfig) (service : TextUploads) (arriving : ArrivingUpload)
    (served : TextUploads × Option TextAck) : Prop where
  answered : served.2.isSome = true ↔ Servable texts service arriving
  echoed : ∀ ack, served.2 = some ack →
    (ack.encode.isSome = true ↔ NamedPlainly texts arriving.frame)
  checked : ∀ file ∈ served.1.files, file ∈ service.files ∨ Checked texts service arriving file
  rejected : ∀ ack, served.2 = some ack → ack.status ≠ "ok" → served.1.uploads = service.uploads

/-- A frame that raises while the service is as it was. -/
theorem served_raised (unserved : ¬Servable texts service arriving) :
    Served texts service arriving (service, none) where
  answered := iff_of_false Bool.false_ne_true unserved
  echoed := nofun
  checked := fun _ member => Or.inl member
  rejected := fun _ _ _ => rfl

/-- A frame that is answered while the service is as it was. -/
theorem served_unchanged {ack : TextAck} (servable : Servable texts service arriving)
    (echoed : ack.encode.isSome = true ↔ NamedPlainly texts arriving.frame) :
    Served texts service arriving (service, some ack) where
  answered := iff_of_true rfl servable
  echoed := by
    rintro _ ⟨⟩
    exact echoed
  checked := fun _ member => Or.inl member
  rejected := fun _ _ _ => rfl

/-- A frame that is answered with ok while the files are as they were. -/
theorem served_accepted {after : TextUploads} {ack : TextAck}
    (servable : Servable texts service arriving) (kept : after.files = service.files)
    (ok : ack.status = "ok") (echoed : ack.encode.isSome = true ↔ NamedPlainly texts arriving.frame) :
    Served texts service arriving (after, some ack) where
  answered := iff_of_true rfl servable
  echoed := by
    rintro _ ⟨⟩
    exact echoed
  checked := fun _ member => Or.inl (kept ▸ member)
  rejected := by
    rintro _ ⟨⟩ refused
    exact absurd ok refused

/-- The announcement of an upload is answered when its size can be read. -/
theorem served_init {payload : PyObject} (framed : arriving.frame = { kind := .init, payload }) :
    Served texts service arriving (service.serve texts arriving.frame arriving.answer) := by
  have condition : Servable texts service arriving ↔
      (texts.number payload "size_bytes").isSome = true := by
    rw [Servable, framed]
  rw [framed, TextUploads.serve, TextRequest.ofFrame]
  cases read : texts.number payload "size_bytes" with
  | none =>
      apply served_raised
      rw [condition, read]
      exact Bool.false_ne_true
  | some sizeBytes =>
      refine served_accepted (condition.mpr (by rw [read]; rfl)) ?_ ?_ ?_
      · rfl
      · rfl
      · rw [framed]
        refine iff_of_true ?_ trivial
        exact (TextAck.isSome_encode_of_noError rfl).mpr (PyText.encodable_ofString _)

/-- When a chunk is served. -/
theorem servable_chunk (service : TextUploads) {payload : PyObject} {seq chunkBytes : Int}
    (framed : arriving.frame = { kind := .chunk, payload })
    (first : texts.number payload "seq" = some seq)
    (second : texts.number payload "chunk_bytes" = some chunkBytes) :
    Servable texts service arriving ↔
      ∀ upload, service.uploads.lookup (texts.text payload "upload_id") = some upload →
        (upload.chunks.lookup seq).isSome ∨
          (TextUploads.decode texts (texts.text payload "data_b64")).isSome := by
  rw [Servable, framed]
  constructor
  · rintro ⟨_, _, same, _, decodable⟩
    rw [first] at same
    cases same
    exact decodable
  · exact fun decodable => ⟨seq, chunkBytes, first, second, decodable⟩

/-- A chunk is answered when its numbers can be read and its data decoded. -/
theorem served_chunk {payload : PyObject} (framed : arriving.frame = { kind := .chunk, payload }) :
    Served texts service arriving (service.serve texts arriving.frame arriving.answer) := by
  have named {ack : TextAck}
      (echoed : ack.encode.isSome = true ↔ (texts.text payload "upload_id").Encodable) :
      ack.encode.isSome = true ↔ NamedPlainly texts arriving.frame := by
    rw [framed]
    exact echoed
  cases first : texts.number payload "seq" with
  | none =>
      rw [framed, TextUploads.serve, TextRequest.ofFrame]
      simp only [first, Option.bind_eq_bind, Option.bind_none]
      apply served_raised
      rw [Servable, framed]
      rintro ⟨_, _, same, _⟩
      rw [first] at same
      cases same
  | some seq =>
      cases second : texts.number payload "chunk_bytes" with
      | none =>
          rw [framed, TextUploads.serve, TextRequest.ofFrame]
          simp only [first, second, Option.bind_eq_bind, Option.bind_none, Option.bind_some]
          apply served_raised
          rw [Servable, framed]
          rintro ⟨_, _, _, same, _⟩
          rw [second] at same
          cases same
      | some chunkBytes =>
          have condition := servable_chunk service framed first second
          rw [framed, TextUploads.serve, TextRequest.ofFrame]
          simp only [first, second, Option.bind_eq_bind, Option.bind_some, Option.pure_def,
            TextUploads.perform, TextUploads.putChunk]
          cases found : service.uploads.lookup (texts.text payload "upload_id") with
          | none =>
              apply served_unchanged
              · rw [condition, found]
                rintro _ ⟨⟩
              · exact named (TextAck.isSome_encode_notFound _ _)
          | some upload =>
              simp only [found, Option.some.injEq, forall_eq'] at condition
              dsimp only
              by_cases seen : (upload.chunks.lookup seq).isSome = true
              · rw [if_pos seen]
                apply served_unchanged (condition.mpr (Or.inl seen))
                exact named (TextAck.isSome_encode_of_noError rfl)
              · rw [if_neg seen]
                cases decoded : TextUploads.decode texts (texts.text payload "data_b64") with
                | none =>
                    apply served_raised
                    rw [condition, decoded]
                    exact not_or.mpr ⟨seen, Bool.false_ne_true⟩
                | some data =>
                    have servable := condition.mpr (Or.inr (by rw [decoded]; rfl))
                    dsimp only
                    split
                    · apply served_accepted servable
                      · rfl
                      · rfl
                      · exact named (TextAck.isSome_encode_of_noError rfl)
                    · apply served_unchanged servable
                      refine named (TextAck.isSome_encode_of_plain ?_)
                      rintro _ ⟨⟩
                      exact PyText.encodable_ofString _

/-- When a commit is served. -/
theorem servable_commit (service : TextUploads) {payload : PyObject} {totalChunks : Int}
    (framed : arriving.frame = { kind := .commit, payload })
    (read : texts.number payload "total_chunks" = some totalChunks) :
    Servable texts service arriving ↔
      ∀ upload, service.uploads.lookup (texts.text payload "upload_id") = some upload →
        (upload.chunks.length : Int) = totalChunks →
        (∀ index < totalChunks.toNat, (upload.chunks.lookup (index : Int)).isSome) ∧
          (((joined upload totalChunks).length : Int) = upload.sizeBytes →
            .ofString (texts.sha256Hex (joined upload totalChunks)) = upload.sha256Hex →
              upload.Storable ∧ arriving.answer.stores = true ∧
                arriving.answer.publishes = true) := by
  rw [Servable, framed]
  constructor
  · rintro ⟨_, same, complete⟩
    rw [read] at same
    cases same
    exact complete
  · exact fun complete => ⟨totalChunks, read, complete⟩

/-- A commit that is refused with a message leaves the service. -/
theorem served_refusal {payload : PyObject} (framed : arriving.frame = { kind := .commit, payload })
    (servable : Servable texts service arriving) (code message : String) :
    Served texts service arriving (service, some
      { status := "invalid", uploadId := texts.text payload "upload_id"
        error := some (code, .ofString message) }) := by
  apply served_unchanged servable
  rw [framed]
  refine TextAck.isSome_encode_of_plain ?_
  rintro _ ⟨⟩
  exact PyText.encodable_ofString _

/-- A commit whose content has the announced size and digest is answered when its file is stored and
announced. -/
theorem served_content {payload : PyObject} {totalChunks : Int} {upload : TextUpload}
    (framed : arriving.frame = { kind := .commit, payload })
    (commit : TextRequest.ofFrame texts arriving.frame =
      some (.commit (texts.text payload "upload_id") totalChunks))
    (found : service.uploads.lookup (texts.text payload "upload_id") = some upload)
    (present : ∀ index < totalChunks.toNat, (upload.chunks.lookup (index : Int)).isSome)
    (sized : ((joined upload totalChunks).length : Int) = upload.sizeBytes)
    (digest : .ofString (texts.sha256Hex (joined upload totalChunks)) = upload.sha256Hex)
    (condition : Servable texts service arriving ↔
      (∀ index < totalChunks.toNat, (upload.chunks.lookup (index : Int)).isSome) ∧
        upload.Storable ∧ arriving.answer.stores = true ∧ arriving.answer.publishes = true) :
    Served texts service arriving
      (service.announce (texts.text payload "upload_id") arriving.answer
        (TextUploads.stored upload arriving.answer (joined upload totalChunks))) := by
  have made := TextUploads.isSome_row_iff upload arriving.answer.newId (joined upload totalChunks)
  cases stores : arriving.answer.stores with
  | false =>
      rw [TextUploads.stored, stores, if_neg Bool.false_ne_true]
      apply served_raised
      exact fun met => Bool.false_ne_true (stores ▸ (condition.mp met).2.2.1)
  | true =>
      rw [TextUploads.stored, stores, if_pos rfl]
      cases rowed : TextUploads.row upload arriving.answer.newId (joined upload totalChunks) with
      | none =>
          apply served_raised
          intro met
          rw [rowed] at made
          exact Bool.false_ne_true (made.mpr (condition.mp met).2.1)
      | some file =>
          have storable : upload.Storable := made.mp (by rw [rowed]; rfl)
          have whole := TextUploads.content_of_row rowed
          have checked : Checked texts service arriving file :=
            ⟨_, _, upload, found, commit, present, rowed, whole, whole ▸ sized, whole ▸ digest⟩
          have member (other : FileRow) (added : other ∈ service.files ++ [file]) :
              other ∈ service.files ∨ Checked texts service arriving other :=
            (List.mem_append.mp added).imp_right fun last => by
              rw [List.mem_singleton.mp last]
              exact checked
          rw [TextUploads.announce]
          cases published : arriving.answer.publishes with
          | false =>
              refine ⟨iff_of_false Bool.false_ne_true fun met => ?_, ?_, member, ?_⟩
              · exact Bool.false_ne_true (published ▸ (condition.mp met).2.2.2)
              · rintro _ ⟨⟩
              · rintro _ ⟨⟩
          | true =>
              refine ⟨iff_of_true rfl (condition.mpr ⟨present, storable, stores, published⟩), ?_,
                member, ?_⟩
              · rintro _ ⟨⟩
                rw [framed]
                exact TextAck.isSome_encode_of_noError rfl
              · rintro _ ⟨⟩ refused
                exact absurd rfl refused

/-- A commit is answered when it finds its chunks, and its file is stored and announced. -/
theorem served_commit {payload : PyObject}
    (framed : arriving.frame = { kind := .commit, payload }) :
    Served texts service arriving (service.serve texts arriving.frame arriving.answer) := by
  cases read : texts.number payload "total_chunks" with
  | none =>
      rw [framed, TextUploads.serve, TextRequest.ofFrame]
      simp only [read, Option.map_none]
      apply served_raised
      rw [Servable, framed]
      rintro ⟨_, same, _⟩
      rw [read] at same
      cases same
  | some totalChunks =>
      have condition := servable_commit service framed read
      have commit : TextRequest.ofFrame texts arriving.frame =
          some (.commit (texts.text payload "upload_id") totalChunks) := by
        rw [framed, TextRequest.ofFrame]
        simp only [read, Option.map_some]
      rw [TextUploads.serve, commit]
      simp only [TextUploads.perform, TextUploads.putCommit]
      cases found : service.uploads.lookup (texts.text payload "upload_id") with
      | none =>
          apply served_unchanged
          · rw [condition, found]
            rintro _ ⟨⟩
          · rw [framed]
            exact TextAck.isSome_encode_notFound _ _
      | some upload =>
          simp only [found, Option.some.injEq, forall_eq'] at condition
          dsimp only
          by_cases counted : (upload.chunks.length : Int) = totalChunks
          · by_cases present : ∀ index < totalChunks.toNat,
                (upload.chunks.lookup (index : Int)).isSome
            · rw [TextUploads.assemble_present counted present]
              simp only [counted, forall_const] at condition
              by_cases sized : ((joined upload totalChunks).length : Int) = upload.sizeBytes
              · by_cases digest :
                    .ofString (texts.sha256Hex (joined upload totalChunks)) = upload.sha256Hex
                · simp only [sized, digest, ne_eq, not_true_eq_false, ↓reduceIte,
                    true_implies] at condition ⊢
                  exact served_content framed commit found present sized digest condition
                · simp only [sized, digest, ne_eq, not_true_eq_false, not_false_eq_true, ↓reduceIte]
                  apply served_refusal framed
                  exact condition.mpr ⟨present, fun _ same => absurd same digest⟩
              · simp only [sized, ne_eq, not_false_eq_true, ↓reduceIte]
                apply served_refusal framed
                exact condition.mpr ⟨present, fun same => absurd same sized⟩
            · rw [TextUploads.assemble_gap counted present]
              apply served_raised
              exact fun met => present (condition.mp met counted).1
          · rw [TextUploads.assemble_mismatch counted]
            apply served_refusal framed
            exact condition.mpr fun same => absurd same counted

/-- Every frame is served as its kind is. -/
theorem served (texts : TextConfig) (service : TextUploads) (arriving : ArrivingUpload) :
    Served texts service arriving (service.serve texts arriving.frame arriving.answer) := by
  cases framed : arriving.frame with
  | mk kind payload =>
      rw [← framed]
      cases kind with
      | init => exact served_init framed
      | chunk => exact served_chunk framed
      | commit => exact served_commit framed

/-- An answer that is sent has the identifier of its frame, and its own status. -/
theorem of_send {id : PyText} {ack : TextAck} {reply : String × GatewayFilePutAck}
    (sent : send id ack = some reply) :
    PyText.ofString reply.1 = id ∧ reply.2.status = ack.status := by
  unfold send at sent
  obtain ⟨text, named, sent⟩ := Option.bind_eq_some_iff.mp sent
  obtain ⟨encoded, made, sent⟩ := Option.bind_eq_some_iff.mp sent
  cases sent
  exact ⟨(PyText.encode_eq_some_iff.mp named).symm, TextAck.status_of_encode made⟩

/-- An answer is sent when its identifier and its texts have no surrogates. -/
theorem isSome_send_iff (id : PyText) (ack : TextAck) :
    (send id ack).isSome = true ↔ id.Encodable ∧ ack.encode.isSome = true := by
  rw [← PyText.isSome_encode_iff]
  unfold send
  cases id.encode with
  | none => exact iff_of_false Bool.false_ne_true (by rintro ⟨⟨⟩, _⟩)
  | some text =>
      cases ack.encode with
      | none => exact iff_of_false Bool.false_ne_true (by rintro ⟨_, ⟨⟩⟩)
      | some encoded => exact iff_of_true rfl ⟨rfl, rfl⟩

/-- A frame is answered exactly when it can be. -/
theorem isSome_handle_iff (texts : TextConfig) (service : TextUploads)
    (arriving : ArrivingUpload) :
    (handle texts service arriving).2.isSome = true ↔ Answerable texts service arriving := by
  have serving := served texts service arriving
  rw [Answerable, Echoable, ← serving.answered, handle]
  cases whole : service.serve texts arriving.frame arriving.answer with
  | mk after outcome =>
      rw [whole] at serving
      cases outcome with
      | none => exact iff_of_false Bool.false_ne_true (by rintro ⟨⟨⟩, _⟩)
      | some ack =>
          rw [← serving.echoed ack rfl]
          simp only [isSome_send_iff, Option.isSome_some, true_and]

/-- A frame is answered under its identifier. -/
theorem id_of_handle {reply : String × GatewayFilePutAck}
    (answered : (handle texts service arriving).2 = some reply) :
    PyText.ofString reply.1 = arriving.id := by
  unfold handle at answered
  generalize service.serve texts arriving.frame arriving.answer = served at answered
  obtain ⟨after, outcome⟩ := served
  cases outcome with
  | none => cases answered
  | some ack =>
      have sent : send arriving.id ack = some reply := answered
      exact (of_send sent).1

/-- What handling a frame does to the files and the uploads. -/
theorem handled_keeps (texts : TextConfig) (service : TextUploads) (arriving : ArrivingUpload) :
    (∀ file ∈ (handle texts service arriving).1.files,
      file ∈ service.files ∨ Checked texts service arriving file) ∧
      ∀ reply, (handle texts service arriving).2 = some reply → reply.2.status ≠ "ok" →
        (handle texts service arriving).1.uploads = service.uploads := by
  have serving := served texts service arriving
  rw [handle]
  cases whole : service.serve texts arriving.frame arriving.answer with
  | mk after outcome =>
      rw [whole] at serving
      cases outcome with
      | none => exact ⟨serving.checked, nofun⟩
      | some ack =>
          refine ⟨serving.checked, fun reply sent refused => ?_⟩
          apply serving.rejected ack rfl
          rw [← (of_send sent).2]
          exact refused

/-- One more frame is received after the others. -/
theorem receiveAll_append (texts : TextConfig) (service : TextUploads)
    (frames : List ArrivingUpload) (arriving : ArrivingUpload) :
    receiveAll texts service (frames ++ [arriving]) =
      (receiveAll texts service frames).receive texts arriving := by
  rw [receiveAll, List.foldl_append]
  rfl

variable {connection : UploadConnection}

/-- What the next frame does to an open connection. -/
theorem receive_open (texts : TextConfig) (isOpen : connection.isOpen = true)
    (arriving : ArrivingUpload) :
    (connection.receive texts arriving).service =
        (handle texts connection.service arriving).1 ∧
      (connection.receive texts arriving).isOpen =
        (handle texts connection.service arriving).2.isSome ∧
      (connection.receive texts arriving).replies = connection.replies ++
        (handle texts connection.service arriving).2.toList := by
  rw [receive, if_pos isOpen]
  cases handle texts connection.service arriving with
  | mk service outcome =>
      cases outcome with
      | none => exact ⟨rfl, rfl, (List.append_nil _).symm⟩
      | some reply => exact ⟨rfl, isOpen, rfl⟩

/-- A closed connection receives nothing. -/
theorem receive_closed (isClosed : connection.isOpen = false) (arriving : ArrivingUpload) :
    connection.receive texts arriving = connection := by
  rw [receive, isClosed, if_neg Bool.false_ne_true]

/-- The places of a list with a last item are that item and the places before it. -/
theorem forall_split {Item : Type} {items : List Item} {last : Item}
    {holds : List Item → Item → Prop} :
    (∀ earlier item later, items ++ [last] = earlier ++ item :: later → holds earlier item) ↔
      holds items last ∧
        ∀ earlier item later, items = earlier ++ item :: later → holds earlier item := by
  constructor
  · intro every
    refine ⟨every items last [] rfl, fun earlier item later split => ?_⟩
    refine every earlier item (later ++ [last]) ?_
    rw [split, List.append_assoc, List.cons_append]
  · rintro ⟨final, every⟩ earlier item later split
    rcases List.eq_nil_or_concat later with rfl | ⟨front, end_, rfl⟩
    · obtain ⟨rfl, same⟩ := List.append_inj' split rfl
      cases same
      exact final
    · rw [List.concat_eq_append, ← List.cons_append, ← List.append_assoc] at split
      exact every earlier item front (List.append_inj' split rfl).1

/-- All frames of a sequence are answered exactly when each of them can be. -/
theorem answered_iff (frames : List ArrivingUpload) :
    ((receiveAll texts service frames).isOpen = true ∧
        (receiveAll texts service frames).replies.map (fun reply => PyText.ofString reply.1) =
          frames.map ArrivingUpload.id) ↔
      ∀ earlier arriving later, frames = earlier ++ arriving :: later →
        Answerable texts (receiveAll texts service earlier).service arriving := by
  induction frames using List.reverseRecOn with
  | nil =>
      refine iff_of_true ⟨rfl, rfl⟩ fun earlier arriving later split => ?_
      cases (List.append_eq_nil_iff.mp split.symm).2
  | append_singleton frames last ih =>
      rw [forall_split, ← ih, receiveAll_append, ← isSome_handle_iff]
      cases isOpen : (receiveAll texts service frames).isOpen with
      | false =>
          rw [receive_closed isOpen, isOpen]
          simp only [Bool.false_eq_true, false_and, and_false]
      | true =>
          obtain ⟨_, goesOn, answers⟩ := receive_open texts isOpen last
          rw [goesOn, answers]
          cases handled : (handle texts (receiveAll texts service frames).service last).2 with
          | none => simp only [Option.isSome_none, Bool.false_eq_true, false_and]
          | some reply =>
              simp only [Option.isSome_some, Option.toList_some, List.map_append, List.map_cons,
                List.map_nil, true_and, id_of_handle handled, List.append_cancel_right_eq]

/-- The files and the uploads after a frame. -/
theorem receive_keeps (connection : UploadConnection) (arriving : ArrivingUpload) :
    (∀ file ∈ (connection.receive texts arriving).service.files,
      file ∈ connection.service.files ∨ Checked texts connection.service arriving file) ∧
      ∀ reply, (connection.receive texts arriving).replies = connection.replies ++ [reply] →
        reply.2.status ≠ "ok" →
          (connection.receive texts arriving).service.uploads = connection.service.uploads := by
  cases isOpen : connection.isOpen with
  | false =>
      rw [receive_closed isOpen]
      exact ⟨fun _ member => Or.inl member, fun _ _ _ => rfl⟩
  | true =>
      obtain ⟨service, _, answers⟩ := receive_open texts isOpen arriving
      obtain ⟨checked, rejected⟩ := handled_keeps texts connection.service arriving
      rw [service, answers]
      refine ⟨checked, fun reply same => rejected reply ?_⟩
      exact Option.toList_eq_singleton_iff.mp (List.append_cancel_left same)

end UploadConnection

/-- **Upload frames.** Whatever frames of the upload protocol arrive, in whatever order, the
connection answers all of them, stores only checked files and leaves rejected uploads as they were,
exactly when every frame can be answered in the state in which it arrives. -/
theorem file_put_robust (texts : TextConfig) (service : TextUploads)
    (frames : List ArrivingUpload) :
    UploadConnection.Robust texts service frames ↔
      ∀ earlier arriving later, frames = earlier ++ arriving :: later →
        UploadConnection.Answerable texts
          (UploadConnection.receiveAll texts service earlier).service arriving := by
  constructor
  · exact fun robust => (UploadConnection.answered_iff frames).mp robust.answered
  · intro answerable
    refine ⟨(UploadConnection.answered_iff frames).mpr answerable, ?_, ?_⟩
    · intro earlier arriving later _ before
      rw [UploadConnection.receiveAll_append]
      exact (UploadConnection.receive_keeps _ arriving).1
    · intro earlier arriving later _ before after
      have appended := UploadConnection.receiveAll_append texts service earlier arriving
      simp only [after, appended]
      exact (UploadConnection.receive_keeps before arriving).2

/-! ## Frames without surrogates -/

/-- A frame without surrogates as it arrives. -/
structure PlainUpload where
  id : String
  frame : FilePutFrame
  answer : FilePutAnswer

/-- The frame as one of texts. -/
def PlainUpload.arriving (plain : PlainUpload) : ArrivingUpload where
  id := .ofString plain.id
  frame := .ofFrame plain.frame
  answer := plain.answer

/-- A connection over `FileService`. -/
structure PlainConnection where
  service : FileService := {}
  replies : List (String × GatewayFilePutAck) := []
  isOpen : Bool := true

namespace PlainConnection

/-- `handle_connection` on the next frame. -/
def receive (config : BridgeConfig) (connection : PlainConnection) (plain : PlainUpload) :
    PlainConnection :=
  if connection.isOpen then
    match connection.service.serve config plain.frame plain.answer with
    | (service, some ack) =>
        { connection with service := service, replies := connection.replies ++ [(plain.id, ack)] }
    | (service, none) => { connection with service := service, isOpen := false }
  else connection

/-- The connection as one of texts. -/
def texts (connection : PlainConnection) : UploadConnection where
  service := .ofService connection.service
  replies := connection.replies
  isOpen := connection.isOpen

variable {texts : TextConfig} {config : BridgeConfig}

/-- An answer without surrogates is sent. -/
theorem send_plain (id : String) (ack : GatewayFilePutAck) :
    UploadConnection.send (.ofString id) (.ofAck ack) = some (id, ack) := by
  rw [UploadConnection.send, PyText.encode_ofString, TextAck.encode_ofAck]
  rfl

/-- A frame without surrogates is handled as `FileService` serves it. -/
theorem handle_plain (same : texts.Extends config) (service : FileService) (plain : PlainUpload) :
    UploadConnection.handle texts (.ofService service) plain.arriving =
      (.ofService (service.serve config plain.frame plain.answer).1,
        (service.serve config plain.frame plain.answer).2.map (plain.id, ·)) := by
  have served : (TextUploads.ofService service).serve texts plain.arriving.frame
      plain.arriving.answer = _ :=
    TextUploads.serve_ofService service same plain.frame plain.answer
  rw [UploadConnection.handle, served]
  cases (service.serve config plain.frame plain.answer).2 with
  | none => rfl
  | some ack => exact congrArg (Prod.mk _) (send_plain plain.id ack)

/-- A frame without surrogates is received as `FileService` serves it. -/
theorem receive_texts (same : texts.Extends config) (connection : PlainConnection)
    (plain : PlainUpload) :
    connection.texts.receive texts plain.arriving = (connection.receive config plain).texts := by
  cases isOpen : connection.isOpen with
  | false =>
      rw [UploadConnection.receive_closed isOpen, receive, isOpen, if_neg Bool.false_ne_true]
  | true =>
      have handled : UploadConnection.handle texts connection.texts.service plain.arriving = _ :=
        handle_plain same connection.service plain
      have opened : connection.texts.isOpen = true := isOpen
      rw [UploadConnection.receive, if_pos opened, handled, receive, if_pos isOpen]
      generalize connection.service.serve config plain.frame plain.answer = outcome
      obtain ⟨after, answer⟩ := outcome
      cases answer with
      | none => rfl
      | some ack => rfl

/-- Frames without surrogates are received as `FileService` serves them. -/
theorem receiveAll_texts (same : texts.Extends config) (connection : PlainConnection)
    (frames : List PlainUpload) :
    (frames.map PlainUpload.arriving).foldl (UploadConnection.receive texts) connection.texts =
      (frames.foldl (receive config) connection).texts := by
  induction frames generalizing connection with
  | nil => rfl
  | cons plain rest ih =>
      rw [List.map_cons, List.foldl_cons, List.foldl_cons, receive_texts same, ih]

end PlainConnection

/-- A bridge whose digests are not looked at. -/
def uploadConfig : BridgeConfig where
  bridgeToken := "fairyclaw-bridge-dev-token"
  maxChunkBytes := 262144
  backlogSize := 512
  controlled := false
  strOf := fun _ => ""
  intOf := fun _ => none
  b64decode := Base64.decode
  sha256Hex := fun _ => ""

/-- Its conversions over all texts. -/
def uploadTexts : TextConfig where
  strOf := fun _ => ""
  intOf := fun _ => none
  b64decode := Base64.decode
  sha256Hex := fun _ => ""

/-- The texts of the example read ordinary fields as the plain reading does. -/
theorem uploadTexts_extends : uploadTexts.Extends uploadConfig where
  strOf := fun _ => rfl
  intOf := fun _ => rfl
  b64decode := rfl
  sha256Hex := rfl

/-- The announcement of an upload of one byte, and a frame for it. -/
def uploadFrames (request : FilePutRequest) : List PlainUpload :=
  [{ id := "put_init_1", answer := { newId := "upload_1" }
     frame := (FilePutRequest.init {
      sessionId := "s", adapterKey := "http", messageId := "m", filename := "a.txt"
      mimeType := none, sizeBytes := 1, sha256Hex := "" }).toFrame },
    { id := "put_2", answer := { newId := "file_2" }, frame := request.toFrame }]

/-- The only chunk has the sequence number one, and one chunk is committed. -/
def gapFrames : List PlainUpload :=
  uploadFrames (.chunk { uploadId := "upload_1", seq := 1, dataB64 := "QQ==", chunkBytes := 1 }) ++
    [{ id := "put_commit_3", answer := { newId := "file_3" }
       frame := (FilePutRequest.commit { uploadId := "upload_1", totalChunks := 1 }).toFrame }]

/-- The data of the chunk is one character. -/
def undecodableFrames : List PlainUpload :=
  uploadFrames (.chunk { uploadId := "upload_1", seq := 0, dataB64 := "A", chunkBytes := 1 })

/-- A commit of an upload whose identifier is the surrogate with the number D83D. -/
def surrogateFrame : ArrivingUpload where
  id := .ofString "put_commit_1"
  answer := { newId := "file_1" }
  frame := {
    kind := .commit
    payload := [(.ofString "upload_id", .str [⟨0xD83D, by omega⟩]),
      (.ofString "total_chunks", .int 1)] }

/-- The identifier in that frame has no encoding. -/
theorem not_answerable_surrogateFrame :
    ¬UploadConnection.Answerable uploadTexts {} surrogateFrame := by
  rintro ⟨_, _, encodable⟩
  have read : uploadTexts.text surrogateFrame.frame.payload "upload_id" = [⟨0xD83D, by omega⟩] := by
    simp only [TextConfig.text, surrogateFrame, List.lookup_cons_self]
  have valid := encodable ⟨0xD83D, by omega⟩ (by rw [read]; exact List.mem_singleton_self _)
  simp only [Nat.isValidChar] at valid
  omega

/-- The last frame of each sequence ends the connection without an answer. -/
theorem upload_ends_connection :
    (UploadConnection.receiveAll uploadTexts {} (gapFrames.map PlainUpload.arriving)).isOpen =
        false ∧
      (UploadConnection.receiveAll uploadTexts {}
          (gapFrames.map PlainUpload.arriving)).replies.map Prod.fst = ["put_init_1", "put_2"] ∧
      ¬UploadConnection.Robust uploadTexts {} (gapFrames.map PlainUpload.arriving) ∧
      ¬UploadConnection.Robust uploadTexts {} (undecodableFrames.map PlainUpload.arriving) ∧
      ¬UploadConnection.Robust uploadTexts {} [surrogateFrame] := by
  have run (frames : List PlainUpload) :
      UploadConnection.receiveAll uploadTexts {} (frames.map PlainUpload.arriving) =
        (frames.foldl (PlainConnection.receive uploadConfig) {}).texts :=
    PlainConnection.receiveAll_texts uploadTexts_extends {} frames
  have ended {frames : List PlainUpload}
      (closed : (frames.foldl (PlainConnection.receive uploadConfig) {}).isOpen = false) :
      ¬UploadConnection.Robust uploadTexts {} (frames.map PlainUpload.arriving) := by
    intro robust
    have goesOn := robust.answered.1
    rw [run] at goesOn
    exact Bool.false_ne_true (closed.symm.trans goesOn)
  have gap : (gapFrames.foldl (PlainConnection.receive uploadConfig) {}).isOpen = false := by decide
  have replies : (gapFrames.foldl (PlainConnection.receive uploadConfig) {}).replies.map Prod.fst =
    ["put_init_1", "put_2"] := by decide
  have undecodable : (undecodableFrames.foldl (PlainConnection.receive uploadConfig) {}).isOpen =
    false := by decide
  rw [run]
  refine ⟨gap, replies, ended gap, ended undecodable, fun robust => ?_⟩
  have answerable := (UploadConnection.answered_iff [surrogateFrame]).mp robust.answered
  exact not_answerable_surrogateFrame (answerable [] surrogateFrame [] rfl)

end FairyClaw
