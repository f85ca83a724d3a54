import FairyClaw.Bridge.FileFrames
import FairyClaw.Bridge.Upload
import Mathlib.Data.Finset.Preimage

/-! # Uploads return

Between two of its answers, an upload has as many chunks on the business side as the call has sent,
under their numbers, and nobody else touches them (`FairyClaw.UploadCall.Stands`). So every call
returns the identifier of a file that has the bytes, the session, the name and the type that it was
given (`FairyClaw.upload_end_to_end`).
-/

namespace FairyClaw

open Foundation Exchange

/-- What is stored of a file that a call uploads. -/
structure UploadArgs.Kept (args : UploadArgs) (file : FileRow) : Prop where
  content : file.content = args.content
  sessionId : file.sessionId = args.sessionId
  filename : file.filename = args.filename
  mimeType : file.mimeType = args.mimeType

section Entries

variable {Value : Type} {entries : List (String × Value)} {key other : String} {value : Value}

/-- An unused key finds nothing. -/
theorem lookup_eq_none (unused : key ∉ entries.map Prod.fst) : entries.lookup key = none := by
  rw [List.lookup_eq_none_iff]
  intro entry member
  rw [bne_iff_ne]
  rintro rfl
  exact unused (List.mem_map_of_mem member)

/-- Append an entry under a new key. -/
theorem lookup_append_self (unused : key ∉ entries.map Prod.fst) :
    (entries ++ [(key, value)]).lookup key = some value := by
  rw [List.lookup_append, lookup_eq_none unused, Option.none_or, List.lookup_cons_self]

/-- What was found is found with one entry more. -/
theorem lookup_append_of_some {found : Value} (present : entries.lookup other = some found) :
    (entries ++ [(key, value)]).lookup other = some found := by
  rw [List.lookup_append, present, Option.some_or]

/-- Replace the value under a key. -/
theorem lookup_replace_self : ∀ {entries : List (String × Value)} {old : Value},
    entries.lookup key = some old →
      (entries.map fun entry => if entry.1 = key then (key, value) else entry).lookup key = some value
  | (name, found) :: rest, old, present => by
      rw [List.map_cons]
      by_cases same : name = key
      · rw [if_pos same, List.lookup_cons_self]
      · have different : (key == name) = false := beq_eq_false_iff_ne.mpr (Ne.symm same)
        rw [List.lookup_cons, different] at present
        rw [if_neg same, List.lookup_cons, different]
        exact lookup_replace_self present

/-- Replacing an entry leaves those under other keys. -/
theorem lookup_replace_of_ne (different : other ≠ key) : ∀ {entries : List (String × Value)},
    (entries.map fun entry => if entry.1 = key then (key, value) else entry).lookup other =
      entries.lookup other
  | [] => rfl
  | (name, found) :: rest => by
      rw [List.map_cons]
      by_cases same : name = key
      · have missing : (other == key) = false := beq_eq_false_iff_ne.mpr different
        rw [if_pos same, List.lookup_cons, List.lookup_cons, same, missing]
        exact lookup_replace_of_ne different
      · rw [if_neg same, List.lookup_cons, List.lookup_cons, lookup_replace_of_ne different]

/-- Remove the entry of a key. -/
theorem lookup_filter_of_ne (different : other ≠ key) : ∀ {entries : List (String × Value)},
    (entries.filter fun entry => entry.1 ≠ key).lookup other = entries.lookup other
  | [] => rfl
  | (name, found) :: rest => by
      by_cases same : name = key
      · have missing : (other == key) = false := beq_eq_false_iff_ne.mpr different
        rw [List.filter_cons_of_neg (by simpa using same), List.lookup_cons, same, missing]
        exact lookup_filter_of_ne different
      · rw [List.filter_cons_of_pos (by simpa using same), List.lookup_cons, List.lookup_cons,
          lookup_filter_of_ne different]

end Entries

namespace FileService

variable {config : BridgeConfig} {service : FileService}

/-- Serving the frame of a request is performing the request. -/
theorem serve_toFrame (config : BridgeConfig) (service : FileService) (request : FilePutRequest)
    (answer : FilePutAnswer) :
    service.serve config request.toFrame answer = service.perform config answer request := by
  rw [serve, FilePutRequest.ofFrame_toFrame]

/-- A file that is stored stays under its identifier. -/
theorem file_append {fileId : String} {file added : FileRow} (found : service.file fileId = some file) :
    (service.files ++ [added]).find? (fun row => row.id = fileId) = some file := by
  rw [List.find?_append]
  rw [FileService.file] at found
  rw [found, Option.some_or]

/-- A frame leaves the files that are stored. -/
theorem serve_file {fileId : String} {file : FileRow} {frame : FilePutFrame} {answer : FilePutAnswer}
    (found : service.file fileId = some file) :
    (service.serve config frame answer).1.file fileId = some file := by
  rw [serve]
  cases FilePutRequest.ofFrame config frame with
  | none => exact found
  | some request =>
      cases request with
      | init request => exact found
      | chunk request =>
          simp only [perform, putChunk]
          repeat' split
          all_goals exact found
      | commit request =>
          simp only [perform, putCommit]
          split
          · exact found
          · split
            · exact found
            · exact found
            · split
              · split <;> exact file_append found
              · exact found

/-- A file under an unused id is found. -/
theorem file_new {added : FileRow} (unused : added.id ∉ service.files.map fun file => file.id) :
    (service.files ++ [added]).find? (fun row => row.id = added.id) = some added := by
  rw [List.find?_append]
  have missing : service.files.find? (fun row => row.id = added.id) = none := by
    rw [List.find?_eq_none]
    intro row member same
    exact unused (of_decide_eq_true same ▸ List.mem_map_of_mem member)
  rw [missing, Option.none_or, List.find?_singleton, decide_eq_true rfl]
  rfl

end FileService

namespace UploadCall

/-- The upload of a call with the first pieces of its content. -/
def collected (config : BridgeConfig) (args : UploadArgs) (received : List (List UInt8)) :
    PendingUpload :=
  { (initRequest config args).pending with chunks := numbered received }

/-- An upload belongs to a call and has the first pieces of its content. -/
def Holds (config : BridgeConfig) (service : FileService) (owner : String → Option Nat) (index : Nat)
    (args : UploadArgs) (uploadId : String) (received : List (List UInt8)) : Prop :=
  owner uploadId = some index ∧
    service.uploads.lookup uploadId = some (collected config args received)

/-- A file is stored under an identifier that a call may return. -/
def StoredAs (service : FileService) (args : UploadArgs) (fileId : String) : Prop :=
  ∃ file, service.file fileId = some file ∧ args.Kept file

/-- Where a call and its upload stand, by what the call waits for. -/
inductive Stands (config : BridgeConfig) (gateway : UploadGateway) (service : FileService)
    (owner : String → Option Nat) (index : Nat) (args : UploadArgs) :
    UploadStage → Outstanding FilePutFrame GatewayFilePutAck → Prop
  | initiating : Stands config gateway service owner index args .initiating
      (.request (FilePutRequest.init (initRequest config args)).toFrame)
  | initiated (ack : GatewayFilePutAck) (named : ack.uploadId ≠ "")
      (holds : Holds config service owner index args ack.uploadId []) :
      Stands config gateway service owner index args .initiating (.answers [ack])
  | sending (uploadId : String) (received : List (List UInt8)) (piece : List UInt8)
      (rest : List (List UInt8)) (split : pieces gateway args = received ++ piece :: rest)
      (holds : Holds config service owner index args uploadId received) :
      Stands config gateway service owner index args (.sending uploadId received.length rest)
        (.request (FilePutRequest.chunk (chunkRequest uploadId received.length piece)).toFrame)
  | sent (uploadId : String) (received : List (List UInt8)) (piece : List UInt8)
      (rest : List (List UInt8)) (split : pieces gateway args = received ++ piece :: rest)
      (ack : GatewayFilePutAck) (ok : accepted ack)
      (holds : Holds config service owner index args uploadId (received ++ [piece])) :
      Stands config gateway service owner index args (.sending uploadId received.length rest)
        (.answers [ack])
  | committing (uploadId : String)
      (holds : Holds config service owner index args uploadId (pieces gateway args)) :
      Stands config gateway service owner index args (.committing uploadId)
        (.request (FilePutRequest.commit
          (commitRequest uploadId (pieces gateway args).length)).toFrame)
  | committed (uploadId fileId : String) (ack : GatewayFilePutAck) (ok : accepted ack)
      (named : ack.fileId = some fileId) (nonempty : fileId ≠ "")
      (stored : StoredAs service args fileId) :
      Stands config gateway service owner index args (.committing uploadId) (.answers [ack])
  | returned (fileId : String) (stored : StoredAs service args fileId) :
      Stands config gateway service owner index args (.returned fileId) .nothing
  | raised (message : String) (large : gateway.maxFileBytes < args.content.length) :
      Stands config gateway service owner index args (.raised message) .nothing

variable {config : BridgeConfig} {gateway : UploadGateway} {service after : FileService}
  {owner newOwner : String → Option Nat} {index : Nat} {args : UploadArgs} {stage : UploadStage}
  {outstanding : Outstanding FilePutFrame GatewayFilePutAck}

/-- A call stands as before when its uploads and the stored files are kept. -/
theorem Stands.frame (stands : Stands config gateway service owner index args stage outstanding)
    (held : ∀ uploadId upload, owner uploadId = some index →
      service.uploads.lookup uploadId = some upload →
      newOwner uploadId = some index ∧ after.uploads.lookup uploadId = some upload)
    (files : ∀ fileId file, service.file fileId = some file → after.file fileId = some file) :
    Stands config gateway after newOwner index args stage outstanding := by
  have kept {uploadId : String} {received : List (List UInt8)}
      (holds : Holds config service owner index args uploadId received) :
      Holds config after newOwner index args uploadId received :=
    held uploadId _ holds.1 holds.2
  have stored {fileId : String} (found : StoredAs service args fileId) :
      StoredAs after args fileId := by
    obtain ⟨file, present, same⟩ := found
    exact ⟨file, files fileId file present, same⟩
  cases stands with
  | initiating => exact .initiating
  | initiated ack named holds => exact .initiated ack named (kept holds)
  | sending uploadId received piece rest split holds =>
      exact .sending uploadId received piece rest split (kept holds)
  | sent uploadId received piece rest split ack ok holds =>
      exact .sent uploadId received piece rest split ack ok (kept holds)
  | committing uploadId holds => exact .committing uploadId (kept holds)
  | committed uploadId fileId ack ok named nonempty found =>
      exact .committed uploadId fileId ack ok named nonempty (stored found)
  | returned fileId found => exact .returned fileId (stored found)
  | raised message large => exact .raised message large

/-- What serving the request of a call does: it is answered, the call stands at the answer, and
neither the uploads of other calls nor the stored files are touched. -/
structure Answered (config : BridgeConfig) (gateway : UploadGateway) (server : UploadServer)
    (newId : String) (owner : String → Option Nat) (index : Nat) (args : UploadArgs)
    (stage : UploadStage) (frame : FilePutFrame) (service : FileService) (ack : GatewayFilePutAck)
    (newOwner : String → Option Nat) : Prop where
  served : UploadServer.serve config server newId frame =
    some ({ server with service := service }, [ack])
  stands : Stands config gateway service newOwner index args stage (.answers [ack])
  others : ∀ other, other ≠ index → ∀ uploadId upload, owner uploadId = some other →
    server.service.uploads.lookup uploadId = some upload →
    newOwner uploadId = some other ∧ service.uploads.lookup uploadId = some upload
  files : ∀ fileId file, server.service.file fileId = some file → service.file fileId = some file

section Serve

variable {server : UploadServer} {newId : String}

/-- On an open connection the server answers what the service performs. -/
theorem serve_eq (isOpen : server.isOpen = true) (fresh : UploadServer.Fresh server.service newId)
    {request : FilePutRequest} {ack : GatewayFilePutAck}
    (performed : server.service.perform config (UploadServer.answerFor request.toFrame newId)
      request = (service, some ack)) :
    UploadServer.serve config server newId request.toFrame =
      some ({ server with service := service }, [ack]) := by
  rw [UploadServer.serve, if_pos ⟨isOpen, fresh⟩, FileService.serve_toFrame, performed]

/-- The announcement opens an upload of its own. -/
theorem answered_init (isOpen : server.isOpen = true)
    (fresh : UploadServer.Fresh server.service newId) :
    ∃ after ack newOwner, Answered config gateway server newId owner index args .initiating
      (FilePutRequest.init (initRequest config args)).toFrame after ack newOwner := by
  let uploadId := "upload_" ++ newId
  have unused : uploadId ∉ server.service.uploads.map Prod.fst := fresh.1
  refine ⟨_, { status := "ok", uploadId := uploadId },
    Function.update owner uploadId (some index), serve_eq isOpen fresh rfl, ?_, ?_, ?_⟩
  · refine .initiated _ ?_ ⟨Function.update_self .., lookup_append_self unused⟩
    intro empty
    have length := congrArg String.length empty
    simp only [uploadId, String.length_append] at length
    exact absurd length (by simp)
  · intro other _ otherId upload owned found
    have different : otherId ≠ uploadId := by
      rintro rfl
      rw [lookup_eq_none unused] at found
      cases found
    exact ⟨(Function.update_of_ne different ..).trans owned, lookup_append_of_some found⟩
  · exact fun _ _ found => found

/-- A chunk is put behind the chunks before it. -/
theorem answered_chunk (decodes : config.b64decode = Base64.decode) (isOpen : server.isOpen = true)
    (fresh : UploadServer.Fresh server.service newId) {uploadId : String}
    {received rest : List (List UInt8)} {piece : List UInt8}
    (split : pieces gateway args = received ++ piece :: rest)
    (holds : Holds config server.service owner index args uploadId received) :
    ∃ after ack newOwner, Answered config gateway server newId owner index args
      (.sending uploadId received.length rest)
      (FilePutRequest.chunk (chunkRequest uploadId received.length piece)).toFrame after ack
      newOwner := by
  obtain ⟨owned, found⟩ := holds
  have unseen : ((collected config args received).chunks.lookup (received.length : Int)).isSome =
      false := by
    rw [collected, lookup_numbered, List.getElem?_eq_none (Nat.le_refl _)]
    rfl
  have performed : server.service.putChunk config (chunkRequest uploadId received.length piece) =
      (server.service.storeChunk uploadId (collected config args received) received.length piece,
        some { status := "ok", uploadId := uploadId, seq := some received.length }) := by
    simp only [FileService.putChunk, chunkRequest, found, unseen, Bool.false_eq_true, ↓reduceIte,
      decodes, Base64.decode_encode]
  refine ⟨_, _, owner, serve_eq isOpen fresh performed, ?_, ?_, ?_⟩
  · refine .sent uploadId received piece rest split _ (Or.inl rfl) ⟨owned, ?_⟩
    refine (lookup_replace_self found).trans ?_
    rw [collected, collected, numbered_append]
  · intro other different otherId upload owns present
    refine ⟨owns, ?_⟩
    have distinct : otherId ≠ uploadId := by
      rintro rfl
      rw [owned] at owns
      cases owns
      exact different rfl
    exact (lookup_replace_of_ne distinct).trans present
  · exact fun _ _ present => present

/-- The commit stores the content of the call under a new identifier. -/
theorem answered_commit (positive : 0 < gateway.chunkSize) (isOpen : server.isOpen = true)
    (fresh : UploadServer.Fresh server.service newId) {uploadId : String}
    (holds : Holds config server.service owner index args uploadId (pieces gateway args)) :
    ∃ after ack newOwner, Answered config gateway server newId owner index args
      (.committing uploadId) (FilePutRequest.commit
        (commitRequest uploadId (pieces gateway args).length)).toFrame after ack newOwner := by
  obtain ⟨owned, found⟩ := holds
  let upload := collected config args (pieces gateway args)
  let fileId := "file_" ++ newId
  have unused : fileId ∉ server.service.files.map fun file => file.id := fresh.2
  have counted : (upload.chunks.length : Int) = (pieces gateway args).length :=
    congrArg Nat.cast (length_numbered _)
  have present : ∀ seq < ((pieces gateway args).length : Int).toNat,
      (upload.chunks.lookup (seq : Int)).isSome := by
    intro seq inside
    rw [Int.toNat_natCast] at inside
    simp only [upload, collected, lookup_numbered, List.getElem?_eq_getElem inside,
      Option.isSome_some]
  have joined : FileService.joined upload.chunks (pieces gateway args).length = args.content := by
    rw [FileService.joined, Int.toNat_natCast]
    exact (flatMap_numbered (pieces gateway args)).trans (flatten_slices positive args.content)
  have content : BridgeServer.assemble config upload (pieces gateway args).length =
      some (.ok args.content) := by
    rw [BridgeServer.assemble_present counted present, joined]
    have sized : (args.content.length : Int) = upload.sizeBytes := rfl
    have digest : config.sha256Hex args.content = upload.sha256Hex := rfl
    rw [if_neg (not_not_intro sized), if_neg (not_not_intro digest)]
  let file := FileService.row upload fileId args.content
  have performed : server.service.putCommit config
      (commitRequest uploadId (pieces gateway args).length) { newId := fileId } =
      ({ files := server.service.files ++ [file]
         uploads := server.service.uploads.filter fun entry => entry.1 ≠ uploadId },
        some { status := "ok", uploadId := uploadId, fileId := some fileId }) := by
    simp only [FileService.putCommit, commitRequest]
    rw [found]
    simp only [content, ↓reduceIte, upload, file]
    rfl
  refine ⟨_, _, owner, serve_eq isOpen fresh performed, ?_, ?_, ?_⟩
  · refine .committed uploadId fileId _ (Or.inl rfl) rfl ?_ ⟨file, ?_, ⟨rfl, rfl, rfl, rfl⟩⟩
    · intro empty
      have length := congrArg String.length empty
      simp only [fileId, String.length_append] at length
      exact absurd length (by simp)
    · have new : file.id ∉ server.service.files.map fun row => row.id := unused
      exact FileService.file_new new
  · intro other different otherId otherUpload owns present
    refine ⟨owns, ?_⟩
    have distinct : otherId ≠ uploadId := by
      rintro rfl
      rw [owned] at owns
      cases owns
      exact different rfl
    exact (lookup_filter_of_ne distinct).trans present
  · exact fun _ _ present => FileService.file_append present

/-- Every request of a call is answered. -/
theorem Stands.answered (decodes : config.b64decode = Base64.decode)
    (positive : 0 < gateway.chunkSize) (isOpen : server.isOpen = true)
    (fresh : UploadServer.Fresh server.service newId) {frame : FilePutFrame}
    (stands : Stands config gateway server.service owner index args stage (.request frame)) :
    ∃ after ack newOwner,
      Answered config gateway server newId owner index args stage frame after ack newOwner := by
  cases stands with
  | initiating => exact answered_init isOpen fresh
  | sending uploadId received piece rest split holds =>
      exact answered_chunk decodes isOpen fresh split holds
  | committing uploadId holds => exact answered_commit positive isOpen fresh holds

end Serve

/-! ## The answers -/

/-- The exchanges that a call has still to make. -/
def left (gateway : UploadGateway) (call : UploadCall) : Nat :=
  match call.stage with
  | .initiating => (pieces gateway call.args).length + 2
  | .sending _ _ rest => rest.length + 2
  | .committing _ => 1
  | .returned _ | .raised _ => 0

/-- Every exchange is a request and an answer. -/
def rank (gateway : UploadGateway)
    (dialogue : Dialogue UploadCall FilePutFrame GatewayFilePutAck) : Nat :=
  match dialogue.outstanding with
  | .request _ => 2 * left gateway dialogue.call
  | .answers _ => 2 * left gateway dialogue.call - 1
  | .nothing => 0

/-- While a request is under way something is left to do. -/
theorem Stands.left_pos {frame : FilePutFrame}
    (stands : Stands config gateway service owner index args stage (.request frame)) :
    0 < left gateway ⟨args, stage⟩ := by
  cases stands with
  | initiating => exact Nat.succ_pos _
  | sending => exact Nat.succ_pos _
  | committing => exact Nat.zero_lt_one

/-- A call does not wait for answers that are all read. -/
theorem Stands.answers_ne_nil
    (stands : Stands config gateway service owner index args stage (.answers [])) : False := by
  cases stands

/-- A call that has returned has its file stored. -/
theorem Stands.storedAs {fileId : String}
    (stands : Stands config gateway service owner index args (.returned fileId) outstanding) :
    StoredAs service args fileId := by
  cases stands with
  | returned _ stored => exact stored

/-- A call raises only for a file that is too large. -/
theorem Stands.large {message : String}
    (stands : Stands config gateway service owner index args (.raised message) outstanding) :
    gateway.maxFileBytes < args.content.length := by
  cases stands with
  | raised _ large => exact large

/-- The loop over the pieces goes on behind those that were received. -/
theorem stands_nextChunk {uploadId : String} {received rest : List (List UInt8)}
    (split : pieces gateway args = received ++ rest)
    (holds : Holds config service owner index args uploadId received) :
    ∃ next request, nextChunk args uploadId received.length rest = .send ⟨args, next⟩ request ∧
      Stands config gateway service owner index args next (.request request) ∧
      left gateway ⟨args, next⟩ = rest.length + 1 := by
  cases rest with
  | nil =>
      rw [List.append_nil] at split
      exact ⟨_, _, rfl, split ▸ .committing uploadId (split ▸ holds), rfl⟩
  | cons piece rest =>
      exact ⟨_, _, rfl, .sending uploadId received piece rest split holds, rfl⟩

/-- An answer takes a call on. -/
theorem Stands.resume {ack : GatewayFilePutAck} {others : List GatewayFilePutAck}
    (stands : Stands config gateway service owner index args stage (.answers (ack :: others))) :
    ∃ next outstanding, resumed others (UploadCall.resume gateway ⟨args, stage⟩ ack) =
        ⟨⟨args, next⟩, outstanding⟩ ∧
      Stands config gateway service owner index args next outstanding ∧
      rank gateway ⟨⟨args, next⟩, outstanding⟩ <
        rank gateway ⟨⟨args, stage⟩, .answers (ack :: others)⟩ := by
  cases stands with
  | initiated ack named holds =>
      obtain ⟨next, request, sends, stands, fewer⟩ :=
        stands_nextChunk (List.nil_append _).symm holds
      refine ⟨next, .request request, ?_, stands, ?_⟩
      · simp only [UploadCall.resume, named, ↓reduceIte]
        rw [← List.length_nil, sends]
        rfl
      · show 2 * left gateway ⟨args, next⟩ < 2 * ((pieces gateway args).length + 2) - 1
        rw [fewer]
        omega
  | sent uploadId received piece rest split ack ok holds =>
      have behind : pieces gateway args = (received ++ [piece]) ++ rest := by
        rw [split, List.append_assoc, List.singleton_append]
      obtain ⟨next, request, sends, stands, fewer⟩ := stands_nextChunk behind holds
      rw [List.length_append, List.length_singleton] at sends
      refine ⟨next, .request request, ?_, stands, ?_⟩
      · simp only [UploadCall.resume, ok, ↓reduceIte, sends]
        rfl
      · show 2 * left gateway ⟨args, next⟩ < 2 * (rest.length + 2) - 1
        rw [fewer]
        omega
  | committed uploadId fileId ack ok named nonempty stored =>
      refine ⟨.returned fileId, .nothing, ?_, .returned fileId stored, ?_⟩
      · simp only [UploadCall.resume, named, ok, nonempty, ne_eq, not_false_eq_true, and_self,
          ↓reduceIte]
        rfl
      · exact Nat.zero_lt_one

/-- A call begins. -/
theorem stands_opening (config : BridgeConfig) (gateway : UploadGateway) (service : FileService)
    (owner : String → Option Nat) (index : Nat) (args : UploadArgs) :
    ∃ stage outstanding, (uploads config gateway).opening args = ⟨⟨args, stage⟩, outstanding⟩ ∧
      Stands config gateway service owner index args stage outstanding := by
  by_cases large : gateway.maxFileBytes < args.content.length
  · refine ⟨.raised _, .nothing, ?_, .raised "File exceeds bridge max_file_bytes" large⟩
    simp only [opening, uploads, UploadCall.opens, large, ↓reduceIte, Option.elim_none]
  · refine ⟨.initiating, _, ?_, .initiating⟩
    simp only [opening, uploads, UploadCall.opens, large, ↓reduceIte, Option.elim_some]

end UploadCall

/-! ## All calls -/

namespace UploadServer

/-- A new identifier can be found. -/
theorem exists_fresh (service : FileService) : ∃ newId, Fresh service newId := by
  have first : Function.Injective fun newId : String => "upload_" ++ newId := by
    intro one two same
    exact (String.append_right_inj _).mp same
  have second : Function.Injective fun newId : String => "file_" ++ newId := by
    intro one two same
    exact (String.append_right_inj _).mp same
  obtain ⟨newId, unused⟩ := Infinite.exists_notMem_finset
    ((service.uploads.map Prod.fst).toFinset.preimage _ first.injOn ∪
      (service.files.map fun file => file.id).toFinset.preimage _ second.injOn)
  simp only [Finset.mem_union, Finset.mem_preimage, List.mem_toFinset, not_or] at unused
  exact ⟨newId, unused⟩

end UploadServer

namespace UploadCall

variable {config : BridgeConfig} {gateway : UploadGateway}

/-- The calls alone with the business side. -/
abbrev Uploads := Dialogues UploadCall FilePutFrame GatewayFilePutAck UploadServer

/-- The connection is open, and every call stands somewhere, with uploads of its own. -/
structure Valid (config : BridgeConfig) (gateway : UploadGateway) (state : Uploads) : Prop where
  isOpen : state.server.isOpen = true
  below : ∀ index dialogue, state.dialogue index = some dialogue → index < state.count
  stands : ∃ owner : String → Option Nat, ∀ index dialogue, state.dialogue index = some dialogue →
    Stands config gateway state.server.service owner index dialogue.call.args dialogue.call.stage
      dialogue.outstanding

variable {state after : Uploads} {action : DialogueAction UploadArgs String}

/-- A state stays valid when one dialogue stands as it should. -/
theorem Valid.put (valid : Valid config gateway state) {index : Nat} {dialogue : _}
    (known : index < state.count) {server : UploadServer} (isOpen : server.isOpen = true)
    (stands : ∃ owner : String → Option Nat,
      Stands config gateway server.service owner index dialogue.call.args dialogue.call.stage
        dialogue.outstanding ∧
      ∀ other otherDialogue, other ≠ index → state.dialogue other = some otherDialogue →
        Stands config gateway server.service owner other otherDialogue.call.args
          otherDialogue.call.stage otherDialogue.outstanding) :
    Valid config gateway { state.put index dialogue with server := server } where
  isOpen := isOpen
  below other otherDialogue found := by
    simp only [Dialogues.put] at found ⊢
    by_cases same : other = index
    · exact same ▸ known
    · rw [Function.update_of_ne same] at found
      exact valid.below other otherDialogue found
  stands := by
    obtain ⟨owner, own, others⟩ := stands
    refine ⟨owner, fun other otherDialogue found => ?_⟩
    simp only [Dialogues.put] at found ⊢
    by_cases same : other = index
    · subst same
      rw [Function.update_self] at found
      cases found
      exact own
    · rw [Function.update_of_ne same] at found
      exact others other otherDialogue same found

/-- Every step keeps the state valid. -/
theorem Valid.step (decodes : config.b64decode = Base64.decode) (positive : 0 < gateway.chunkSize)
    (valid : Valid config gateway state)
    (stepped : state.step (uploads config gateway) action = some after) :
    Valid config gateway after := by
  obtain ⟨owner, every⟩ := valid.stands
  cases action with
  | start args =>
      cases stepped
      obtain ⟨stage, outstanding, opened, begins⟩ := stands_opening config gateway
        state.server.service owner state.count args
      have counted : Valid config gateway { state with count := state.count + 1 } :=
        ⟨valid.isOpen, fun index dialogue found =>
          Nat.lt_succ_of_lt (valid.below index dialogue found), valid.stands⟩
      refine counted.put (Nat.lt_succ_self _) valid.isOpen ⟨owner, ?_, ?_⟩
      · rw [opened]
        exact begins
      · exact fun other dialogue _ found => every other dialogue found
  | serve index newId =>
      simp only [Dialogues.step] at stepped
      split at stepped
      · rename_i call frame asked
        have fresh : UploadServer.Fresh state.server.service newId := by
          by_contra stale
          simp only [uploads, UploadServer.serve, stale, and_false, ↓reduceIte, Option.map_none]
            at stepped
          cases stepped
        have waits := every index _ asked
        obtain ⟨service, ack, newOwner, answered⟩ :=
          waits.answered decodes positive valid.isOpen fresh
        have served : (uploads config gateway).serve state.server newId frame =
            some ({ state.server with service := service }, [ack]) := answered.served
        simp only [served, Option.map_some, Option.some.injEq] at stepped
        subst stepped
        refine valid.put (valid.below index _ asked) valid.isOpen ⟨newOwner, answered.stands, ?_⟩
        intro other dialogue different found
        exact (every other dialogue found).frame (answered.others other different) answered.files
      · cases stepped
  | deliver index =>
      simp only [Dialogues.step] at stepped
      split at stepped
      · rename_i call ack rest asked
        cases stepped
        obtain ⟨next, outstanding, goesOn, stands, _⟩ := (every index _ asked).resume
        refine valid.put (valid.below index _ asked) valid.isOpen ⟨owner, ?_, ?_⟩
        · have resumes : resumed rest ((uploads config gateway).resume call ack) =
              ⟨⟨call.args, next⟩, outstanding⟩ := goesOn
          rw [resumes]
          exact stands
        · exact fun other dialogue _ found => every other dialogue found
      · cases stepped

/-- At the start the state is valid. -/
theorem valid_initial {state : Uploads}
    (started : ((uploads config gateway).dialogues fun server => server.isOpen = true).initial
      state) : Valid config gateway state := by
  obtain ⟨isOpen, _, none⟩ := started
  refine ⟨isOpen, ?_, fun _ => Option.none, ?_⟩
  · intro index dialogue found
    rw [none] at found
    cases found
  · intro index dialogue found
    rw [none] at found
    cases found

/-- A call that waits can go on. -/
theorem Valid.goesOn (decodes : config.b64decode = Base64.decode) (positive : 0 < gateway.chunkSize)
    (valid : Valid config gateway state) {index : Nat} {dialogue : _}
    (known : state.dialogue index = some dialogue) (waits : dialogue.outstanding ≠ .nothing) :
    ∃ action after, settling state action ∧
      state.step (uploads config gateway) action = some after := by
  obtain ⟨owner, every⟩ := valid.stands
  have stands := every index dialogue known
  obtain ⟨call, outstanding⟩ := dialogue
  cases outstanding with
  | nothing => exact absurd rfl waits
  | request frame =>
      obtain ⟨newId, fresh⟩ := UploadServer.exists_fresh state.server.service
      obtain ⟨service, ack, _, answered⟩ := stands.answered decodes positive valid.isOpen fresh
      have served : (uploads config gateway).serve state.server newId frame =
          some ({ state.server with service := service }, [ack]) := answered.served
      exact enabled_serve known served
  | answers answers =>
      cases answers with
      | nil => exact stands.answers_ne_nil.elim
      | cons ack rest => exact enabled_deliver known

/-- All calls come to their end. -/
theorem Valid.inevitably (decodes : config.b64decode = Base64.decode)
    (positive : 0 < gateway.chunkSize) (valid : Valid config gateway state) :
    ((uploads config gateway).dialogues fun server => server.isOpen = true).Inevitably settling
      (fun state => state.Finished ∧ Valid config gateway state) state := by
  refine inevitably_finished (rank gateway) ?_ ?_ ?_ ?_ ?_ valid
  · exact fun _ _ _ held _ stepped => held.step decodes positive stepped
  · exact fun _ index dialogue held known => held.below index dialogue known
  · exact fun _ _ _ held known waits => held.goesOn decodes positive known waits
  · intro state index call request newId server answers held asked _
    obtain ⟨owner, every⟩ := held.stands
    have positiveLeft : 0 < left gateway call := (every index _ asked).left_pos
    show 2 * left gateway call - 1 < 2 * left gateway call
    omega
  · intro state index call ack rest held asked
    obtain ⟨owner, every⟩ := held.stands
    obtain ⟨next, outstanding, goesOn, _, lower⟩ := (every index _ asked).resume
    have resumes : resumed rest ((uploads config gateway).resume call ack) =
        ⟨⟨call.args, next⟩, outstanding⟩ := goesOn
    rw [resumes]
    exact lower

end UploadCall

namespace UploadCall

variable {config : BridgeConfig} {gateway : UploadGateway}
  {state after : Exchange.Wire UploadCall FilePutFrame GatewayFilePutAck UploadServer String}
  {action : Exchange.WireAction UploadArgs String String}

/-- The state is valid in every run over the bridge. -/
theorem valid_of_reachable (decodes : config.b64decode = Base64.decode)
    (positive : 0 < gateway.chunkSize)
    (reached : (uploadBridge config gateway).Reachable Machine.anyStep state) :
    Valid config gateway state.view :=
  (view_reachable reached).invariant (fun _ => valid_initial)
    fun _ _ _ valid _ stepped => valid.step decodes positive stepped

/-- A step of the connection leaves the files that are stored. -/
theorem step_file {fileId : String} {file : FileRow}
    (found : state.server.service.file fileId = some file)
    (stepped : state.step (uploads config gateway) action = some after) :
    after.server.service.file fileId = some file := by
  cases action with
  | start args id =>
      simp only [Wire.step] at stepped
      split at stepped
      · cases stepped
        exact found
      · split at stepped
        · cases stepped
        · cases stepped
          exact found
  | serve id newId =>
      simp only [Wire.step] at stepped
      split at stepped
      · cases stepped
      · rename_i frame _
        obtain ⟨⟨server, acks⟩, served, rfl⟩ := Option.map_eq_some_iff.mp stepped
        have kept : (state.server.service.serve config frame
            (UploadServer.answerFor frame newId)).1.file fileId = some file :=
          FileService.serve_file found
        simp only [uploads, UploadServer.serve] at served
        split at served
        · split at served
          · rename_i handled
            cases served
            rw [handled] at kept
            exact kept
          · rename_i handled
            cases served
            rw [handled] at kept
            exact kept
        · cases served
  | deliver id newId =>
      simp only [Wire.step] at stepped
      split at stepped
      · split at stepped
        · cases stepped
        · split at stepped
          · cases stepped
            exact found
          · cases stepped
            exact found
          · split at stepped
            · cases stepped
            · cases stepped
              exact found
      · cases stepped

/-- A call on the connection stands somewhere. -/
theorem Valid.call (valid : Valid config gateway state.view) {index : Nat} {call : UploadCall}
    {id : Option String} (known : state.calls index = some (call, id)) :
    ∃ owner, Stands config gateway state.server.service owner index call.args call.stage
      (state.outstanding id) := by
  obtain ⟨owner, every⟩ := valid.stands
  refine ⟨owner, every index ⟨call, state.outstanding id⟩ ?_⟩
  simp only [Wire.view, known, Option.map_some]

end UploadCall

/-- **File upload end to end.** Whatever calls of `upload_file` share a connection, with their frames
in any order: a call that has returned gives the identifier of a file with the bytes, the session,
the name and the type that it was given; no file that is stored changes; a call whose content is
within the limit has not raised; and when no further call begins, all those calls return. -/
theorem upload_end_to_end {config : BridgeConfig} {gateway : UploadGateway}
    (decodes : config.b64decode = Base64.decode) (announced : 1 ≤ gateway.limits.maxChunkBytes)
    {state : Exchange.Wire UploadCall FilePutFrame GatewayFilePutAck UploadServer String}
    (reached : (uploadBridge config gateway).Reachable Machine.anyStep state) :
    (∀ index call id, state.calls index = some (call, id) →
      (∀ fileId, call.stage = .returned fileId →
        ∃ file, state.server.service.file fileId = some file ∧ call.args.Kept file) ∧
      (call.args.content.length ≤ gateway.maxFileBytes → ∀ message, call.stage ≠ .raised message)) ∧
    (∀ fileId file later, state.server.service.file fileId = some file →
      (uploadBridge config gateway).Steps Machine.anyStep state later →
      later.server.service.file fileId = some file) ∧
    (uploadBridge config gateway).Inevitably settlingWire (fun final =>
      ∀ index call id, final.calls index = some (call, id) →
        call.args.content.length ≤ gateway.maxFileBytes →
        ∃ fileId file, call.stage = .returned fileId ∧
          final.server.service.file fileId = some file ∧ call.args.Kept file) state := by
  have positive : 0 < gateway.chunkSize := by
    rw [UploadGateway.chunkSize, if_neg (Nat.ne_of_gt announced)]
    exact announced
  have valid := UploadCall.valid_of_reachable decodes positive reached
  refine ⟨?_, ?_, ?_⟩
  · rintro index ⟨args, stage⟩ id known
    obtain ⟨owner, stands⟩ := valid.call known
    constructor
    · rintro fileId rfl
      exact stands.storedAs
    · rintro small message rfl
      exact absurd small (Nat.not_le.mpr stands.large)
  · intro fileId file later found steps
    exact steps.invariant (fun _ _ _ kept _ stepped => UploadCall.step_file kept stepped) found
  · refine (inevitably_of_view (matched_of_reachable reached)
      (valid.inevitably decodes positive)).mono ?_
    rintro final ⟨finished, valid⟩ index ⟨args, stage⟩ id known small
    have nothing : final.outstanding id = .nothing := by
      refine finished index ⟨⟨args, stage⟩, final.outstanding id⟩ ?_
      simp only [Wire.view, known, Option.map_some]
    obtain ⟨owner, stands⟩ := valid.call known
    rw [nothing] at stands
    cases stands with
    | returned fileId stored =>
        obtain ⟨file, found, kept⟩ := stored
        exact ⟨fileId, file, rfl, found, kept⟩
    | raised _ large => exact absurd small (Nat.not_le.mpr large)

/-- A business side that announces chunks of one byte. -/
def bytewiseGateway : UploadGateway where
  limits := { maxFileBytes := 26214400, maxChunkBytes := 1 }
  settings := { maxFileBytes := 26214400, maxChunkBytes := 262144 }

/-- A bridge with the digests of the texts `hi` and `b`. -/
def greetingConfig : BridgeConfig :=
  { uploadConfig with
    sha256Hex := fun content =>
      if content = [104, 105] then
        "8f434346648f6b96df89dda901c5176b10a6d83961dd3c1ac88b59b2dc327aa4"
      else "3e23e8160039594a33894f6564e1b1348bbd7a0088d42c4acb73eeaed59c009d" }

/-- A text of two bytes. -/
def greetingArgs : UploadArgs where
  sessionId := "s"
  adapterKey := "http"
  messageId := "m"
  content := [104, 105]
  filename := "hi.txt"
  mimeType := some "text/plain"

/-- A text of one byte, for the same session. -/
def letterArgs : UploadArgs :=
  { greetingArgs with content := [98], filename := "b.txt", mimeType := none }

/-- Two calls from their announcements to the answers to their commits, in one another's way. -/
def greetingRun : List (WireAction UploadArgs String String) :=
  [.start greetingArgs "put_init_1", .start letterArgs "put_init_2", .serve "put_init_2" "1",
    .serve "put_init_1" "2", .deliver "put_init_1" "put_chunk_3",
    .deliver "put_init_2" "put_chunk_4", .serve "put_chunk_3" "3", .serve "put_chunk_4" "4",
    .deliver "put_chunk_4" "put_commit_5", .deliver "put_chunk_3" "put_chunk_6",
    .serve "put_commit_5" "5", .serve "put_chunk_6" "6", .deliver "put_chunk_6" "put_commit_7",
    .deliver "put_commit_5" "put_init_8", .serve "put_commit_7" "7",
    .deliver "put_commit_7" "put_init_9"]

/-- The bridge after both calls. -/
def greetingState : Wire UploadCall FilePutFrame GatewayFilePutAck UploadServer String :=
  ((uploadBridge greetingConfig bytewiseGateway).replay Machine.anyStep { server := {} }
    greetingRun).getD { server := {} }

/-- Both texts are stored as they were given. -/
theorem upload_end_to_end_greeting :
    (∃ file, greetingState.server.service.file "file_7" = some file ∧ greetingArgs.Kept file) ∧
      ∃ file, greetingState.server.service.file "file_5" = some file ∧ letterArgs.Kept file := by
  have start : (uploadBridge greetingConfig bytewiseGateway).initial { server := {} } :=
    ⟨rfl, rfl, rfl, rfl, rfl, rfl, rfl⟩
  have replayed : (uploadBridge greetingConfig bytewiseGateway).replay Machine.anyStep
      { server := {} } greetingRun = some greetingState := rfl
  have greeted : greetingState.calls 0 = some (⟨greetingArgs, .returned "file_7"⟩, none) := rfl
  have lettered : greetingState.calls 1 = some (⟨letterArgs, .returned "file_5"⟩, none) := rfl
  obtain ⟨stored, -⟩ := upload_end_to_end rfl (Nat.le_refl _) (.of_replay start replayed)
  exact ⟨(stored 0 _ _ greeted).1 "file_7" rfl, (stored 1 _ _ lettered).1 "file_5" rfl⟩

end FairyClaw
