import FairyClaw.Bridge.Download
import FairyClaw.Bridge.FileFrames

/-! # Downloads return

Between two of its frames, a call has the first pieces of the file under their numbers
(`FairyClaw.DownloadCall.Stands`), and the name and the type once a chunk has arrived. So a call
returns the bytes, the name and the type of a file exactly when the file has content
(`FairyClaw.download_end_to_end`).
-/

namespace FairyClaw

open Foundation Exchange

namespace DownloadCall

/-- The state of a download after the first pieces of a file. -/
def progress (file : FileRow) (received : List (List UInt8)) : DownloadState where
  chunks := numbered received
  filename := if received = [] then none else some file.filename
  mimeType := if received = [] then none else file.mimeType

/-- The frames that are left when some pieces have arrived. -/
def framesFrom (chunkSize : Nat) (file : FileRow) (seq : Nat) (rest : List (List UInt8)) :
    List FileGetFrame :=
  (rest.mapIdx fun index piece => .chunk (fileChunk chunkSize file (seq + index) piece)) ++
    [.ack { fileId := file.id, status := "ok" }]

/-- The refusal of a request for a file that is not there. -/
def refusal (request : GatewayFileGetRequest) : FileGetFrame :=
  .ack { fileId := request.fileId, status := "invalid"
         error := some ("file_not_found", "File not found") }

/-- Where a call stands, by what it waits for. -/
inductive Stands (chunkSize : Nat) (files : List FileRow) (request : GatewayFileGetRequest) :
    DownloadState → DownloadOutcome → Outstanding GatewayFileGetRequest FileGetFrame → Prop
  | asking : Stands chunkSize files request {} .waiting (.request request)
  | receiving (file : FileRow) (received rest : List (List UInt8))
      (found : getForSession files request = some file)
      (split : slices chunkSize file.content = received ++ rest) :
      Stands chunkSize files request (progress file received) .waiting
        (.answers (framesFrom chunkSize file received.length rest))
  | returned (file : FileRow) (found : getForSession files request = some file) :
      Stands chunkSize files request (progress file (slices chunkSize file.content))
        (.returned file.content (progress file (slices chunkSize file.content)).filename
          (progress file (slices chunkSize file.content)).mimeType) .nothing
  | refused (missing : getForSession files request = none) :
      Stands chunkSize files request {} .waiting (.answers [refusal request])
  | raised (missing : getForSession files request = none) (message : String) :
      Stands chunkSize files request {} (.raised message) .nothing

variable {config : BridgeConfig} {files : List FileRow} {file : FileRow}

/-! ## The frames -/

/-- The frames of a file begin with that of its first piece. -/
theorem framesFrom_cons (chunkSize : Nat) (file : FileRow) (seq : Nat) (piece : List UInt8)
    (rest : List (List UInt8)) :
    framesFrom chunkSize file seq (piece :: rest) =
      .chunk (fileChunk chunkSize file seq piece) :: framesFrom chunkSize file (seq + 1) rest := by
  rw [framesFrom, List.mapIdx_cons, List.cons_append, framesFrom, Nat.add_zero]
  simp only [Nat.add_assoc, Nat.add_comm 1]

/-- A file that is found is answered with its frames. -/
theorem getChunks_found {chunkSize : Nat} {request : GatewayFileGetRequest}
    (found : getForSession files request = some file) :
    getChunks chunkSize files request =
      framesFrom chunkSize file 0 (slices chunkSize file.content) := by
  rw [getChunks, found, framesFrom]
  simp only [Nat.zero_add]

/-- A file that is not found is answered with a refusal. -/
theorem getChunks_missing {chunkSize : Nat} {request : GatewayFileGetRequest}
    (missing : getForSession files request = none) :
    getChunks chunkSize files request = [refusal request] := by
  simp only [getChunks, missing, refusal]

/-- A chunk adds its piece. -/
theorem receive_fileChunk (decodes : config.b64decode = Base64.decode) (chunkSize : Nat)
    (file : FileRow) (received : List (List UInt8)) (piece : List UInt8) :
    (progress file received).receive config (fileChunk chunkSize file received.length piece).toPayload =
      some (progress file (received ++ [piece])) := by
  have seq : config.number (fileChunk chunkSize file received.length piece).toPayload "seq" =
      some (received.length : Int) := by
    simp [BridgeConfig.number, GatewayFileGetChunk.toPayload, fileChunk, JsonObject.get, List.lookup_cons]
  have data : config.text (fileChunk chunkSize file received.length piece).toPayload "data_b64" "" =
      Base64.encode piece := by
    simp [BridgeConfig.text, GatewayFileGetChunk.toPayload, fileChunk, JsonObject.get, List.lookup_cons,
      FilePutRequest.orElse_empty]
  have filename : (((fileChunk chunkSize file received.length piece).toPayload.get "filename").bind
      Json.asStr) = some file.filename := by
    simp [GatewayFileGetChunk.toPayload, fileChunk, JsonObject.get, List.lookup_cons, Json.asStr]
  have mimeType : (((fileChunk chunkSize file received.length piece).toPayload.get "mime_type").bind
      Json.asStr) = file.mimeType := by
    cases given : file.mimeType with
    | none => simp [GatewayFileGetChunk.toPayload, fileChunk, JsonObject.get, List.lookup_cons,
        Json.asStr, given]
    | some mime => simp [GatewayFileGetChunk.toPayload, fileChunk, JsonObject.get, List.lookup_cons,
        Json.asStr, given]
  have unseen : ((numbered received).lookup (received.length : Int)).isSome = false := by
    rw [lookup_numbered, List.getElem?_eq_none (Nat.le_refl _)]
    rfl
  have decoded : config.b64decode (Base64.encode piece) = some piece := by
    rw [decodes, Base64.decode_encode]
  have known : received ++ [piece] ≠ [] := List.concat_ne_nil piece received
  simp only [DownloadState.receive, seq, data, decoded, filename, mimeType, DownloadState.setChunk,
    unseen, Option.bind_eq_bind, Option.bind_some, Option.some_or, Option.pure_def, Bool.false_eq_true,
    ↓reduceIte, progress, numbered_append, known]
  cases file.mimeType with
  | none => simp only [Option.none_or, ite_self]
  | some mime => simp only [Option.some_or]

/-- The collected chunks make up the pieces. -/
theorem joined_progress (file : FileRow) (received : List (List UInt8)) :
    (progress file received).joined = received.flatten := by
  have keys : (numbered received).map Prod.fst = (List.range received.length).map Nat.cast := by
    apply List.ext_getElem
    · rw [List.length_map, length_numbered, List.length_map, List.length_range]
    · intro index _ _
      rw [List.getElem_map, List.getElem_map, List.getElem_range]
      simp only [numbered, List.getElem_mapIdx]
  have sorted : ((List.range received.length).map (Nat.cast : Nat → Int)).Pairwise (· ≤ ·) := by
    rw [List.pairwise_map]
    exact List.pairwise_le_range.imp Int.ofNat_le.mpr
  rw [DownloadState.joined, progress, keys, sorted.insertionSort_eq, List.flatMap_map]
  exact flatMap_numbered received

/-! ## The calls -/

variable {request : GatewayFileGetRequest} {state : DownloadState} {outcome : DownloadOutcome}
  {outstanding : Outstanding GatewayFileGetRequest FileGetFrame}

/-- The frames that are still to come for a call. -/
def rank (chunkSize : Nat) (files : List FileRow)
    (dialogue : Dialogue DownloadCall GatewayFileGetRequest FileGetFrame) : Nat :=
  match dialogue.outstanding with
  | .request request => (getChunks chunkSize files request).length + 1
  | .answers answers => answers.length
  | .nothing => 0

/-- The request of a call is answered. -/
theorem Stands.served (chunkSize : Nat) {asked : GatewayFileGetRequest}
    (stands : Stands chunkSize files request state outcome (.request asked)) :
    Stands chunkSize files request state outcome (.answers (getChunks chunkSize files asked)) := by
  cases stands with
  | asking =>
      cases found : getForSession files request with
      | none =>
          rw [getChunks_missing found]
          exact .refused found
      | some file =>
          rw [getChunks_found found]
          exact .receiving file [] _ found rfl

/-- A frame takes a call on. -/
theorem Stands.resume (decodes : config.b64decode = Base64.decode) (positive : 0 < config.maxChunkBytes)
    {frame : FileGetFrame} {rest : List FileGetFrame}
    (stands : Stands config.maxChunkBytes files request state outcome (.answers (frame :: rest))) :
    ∃ next after outstanding,
      resumed rest (DownloadCall.resume config ⟨request, state, outcome⟩ frame) =
        ⟨⟨request, next, after⟩, outstanding⟩ ∧
      Stands config.maxChunkBytes files request next after outstanding ∧
      rank config.maxChunkBytes files ⟨⟨request, next, after⟩, outstanding⟩ < rest.length + 1 := by
  generalize answers : (Outstanding.answers (frame :: rest) :
    Outstanding GatewayFileGetRequest FileGetFrame) = waits at stands
  cases stands with
  | asking => cases answers
  | receiving file received left found split =>
      cases left with
      | nil =>
          simp only [framesFrom, List.mapIdx_nil, List.nil_append, Outstanding.answers.injEq,
            List.cons.injEq] at answers
          obtain ⟨rfl, rfl⟩ := answers
          rw [List.append_nil] at split
          refine ⟨_, _, .nothing, ?_, .returned file found, Nat.zero_lt_one⟩
          have ok : config.text (GatewayFileGetAck.toPayload
              { fileId := file.id, status := "ok" }) "status" "" = "ok" := by
            simp [BridgeConfig.text, GatewayFileGetAck.toPayload, JsonObject.get, List.lookup_cons,
              FilePutRequest.orElse_empty]
          simp only [DownloadCall.resume, acknowledge, ok, ↓reduceIte, resumed, joined_progress,
            ← split, flatten_slices positive]
      | cons piece left =>
          rw [framesFrom_cons] at answers
          simp only [Outstanding.answers.injEq, List.cons.injEq] at answers
          obtain ⟨rfl, rfl⟩ := answers
          have behind : slices config.maxChunkBytes file.content = (received ++ [piece]) ++ left := by
            rw [split, List.append_assoc, List.singleton_append]
          have next := Stands.receiving file (received ++ [piece]) left found behind
          rw [List.length_append, List.length_singleton] at next
          refine ⟨_, _, _, ?_, next, Nat.lt_succ_self _⟩
          simp only [DownloadCall.resume, receive_fileChunk decodes, resumed]
  | returned => cases answers
  | refused missing =>
      simp only [Outstanding.answers.injEq, List.cons.injEq] at answers
      obtain ⟨rfl, rfl⟩ := answers
      refine ⟨_, _, .nothing, ?_, .raised missing "File not found", Nat.zero_lt_one⟩
      rfl
  | raised => cases answers

/-- A call whose answers are on their way has one of them to come. -/
theorem Stands.answers_ne_nil {chunkSize : Nat}
    (stands : Stands chunkSize files request state outcome (.answers [])) : False := by
  generalize answers : (Outstanding.answers [] :
    Outstanding GatewayFileGetRequest FileGetFrame) = waits at stands
  cases stands with
  | asking => cases answers
  | receiving file received rest =>
      have last := Outstanding.answers.inj answers
      exact List.append_ne_nil_of_right_ne_nil _ (List.cons_ne_nil _ _) last.symm
  | returned => cases answers
  | refused => cases answers
  | raised => cases answers

/-- A call at its end has returned what is known of the file, or has raised when there is none. -/
theorem Stands.finished {chunkSize : Nat}
    (stands : Stands chunkSize files request state outcome .nothing) (file : FileRow)
    (found : getForSession files request = some file) :
    outcome = .returned file.content
      (progress file (slices chunkSize file.content)).filename
      (progress file (slices chunkSize file.content)).mimeType := by
  cases stands with
  | returned stored present =>
      rw [found] at present
      cases present
      rfl
  | raised missing =>
      rw [found] at missing
      cases missing

/-- A call that waits for an answer has no outcome yet. -/
theorem Stands.outstanding_eq_nothing {chunkSize : Nat}
    (stands : Stands chunkSize files request state outcome outstanding)
    (ended : outcome ≠ .waiting) : outstanding = .nothing := by
  cases stands with
  | asking => exact absurd rfl ended
  | receiving => exact absurd rfl ended
  | returned => rfl
  | refused => exact absurd rfl ended
  | raised => rfl

/-! ## The calls together -/

/-- The calls alone with the business side. -/
abbrev Downloads := Dialogues DownloadCall GatewayFileGetRequest FileGetFrame (List FileRow)

/-- The files are those of the start, and every call stands somewhere. -/
structure Valid (config : BridgeConfig) (files : List FileRow) (state : Downloads) : Prop where
  unchanged : state.server = files
  below : ∀ index dialogue, state.dialogue index = some dialogue → index < state.count
  stands : ∀ index dialogue, state.dialogue index = some dialogue →
    Stands config.maxChunkBytes files dialogue.call.request dialogue.call.state
      dialogue.call.outcome dialogue.outstanding

variable {downloading after : Downloads} {action : DialogueAction GatewayFileGetRequest Unit}

/-- A state stays valid when one dialogue stands as it should. -/
theorem Valid.put (valid : Valid config files downloading) {index : Nat}
    {dialogue : Dialogue DownloadCall GatewayFileGetRequest FileGetFrame}
    (known : index < downloading.count)
    (stands : Stands config.maxChunkBytes files dialogue.call.request dialogue.call.state
      dialogue.call.outcome dialogue.outstanding) :
    Valid config files (downloading.put index dialogue) where
  unchanged := valid.unchanged
  below other otherDialogue found := by
    simp only [Dialogues.put] at found ⊢
    by_cases same : other = index
    · exact same ▸ known
    · rw [Function.update_of_ne same] at found
      exact valid.below other otherDialogue found
  stands other otherDialogue found := by
    simp only [Dialogues.put] at found
    by_cases same : other = index
    · subst same
      rw [Function.update_self] at found
      cases found
      exact stands
    · rw [Function.update_of_ne same] at found
      exact valid.stands other otherDialogue found

/-- Every step keeps the state valid. -/
theorem Valid.step (decodes : config.b64decode = Base64.decode) (positive : 0 < config.maxChunkBytes)
    (valid : Valid config files downloading)
    (stepped : downloading.step (downloads config) action = some after) :
    Valid config files after := by
  cases action with
  | start request =>
      cases stepped
      have counted : Valid config files { downloading with count := downloading.count + 1 } :=
        ⟨valid.unchanged, fun index dialogue found =>
          Nat.lt_succ_of_lt (valid.below index dialogue found), valid.stands⟩
      exact counted.put (Nat.lt_succ_self _) .asking
  | serve index nonce =>
      simp only [Dialogues.step] at stepped
      split at stepped
      · rename_i call request asked
        cases stepped
        have waits := (valid.stands index _ asked).served
        rw [← valid.unchanged] at waits ⊢
        have same : Valid config downloading.server downloading := valid.unchanged ▸ valid
        exact same.put (valid.below index _ asked) waits
      · cases stepped
  | deliver index =>
      simp only [Dialogues.step] at stepped
      split at stepped
      · rename_i call frame rest asked
        cases stepped
        obtain ⟨next, outcome, outstanding, goesOn, stands, _⟩ :=
          (valid.stands index _ asked).resume decodes positive
        have resumes : resumed rest ((downloads config).resume call frame) =
            ⟨⟨call.request, next, outcome⟩, outstanding⟩ := goesOn
        rw [resumes]
        exact valid.put (valid.below index _ asked) stands
      · cases stepped

/-- At the start the state is valid. -/
theorem valid_initial
    (started : ((downloads config).dialogues fun server => server = files).initial downloading) :
    Valid config files downloading := by
  obtain ⟨unchanged, _, none⟩ := started
  refine ⟨unchanged, ?_, ?_⟩
  · intro index dialogue found
    rw [none] at found
    cases found
  · intro index dialogue found
    rw [none] at found
    cases found

/-- All calls come to their end. -/
theorem Valid.inevitably (decodes : config.b64decode = Base64.decode)
    (positive : 0 < config.maxChunkBytes) (valid : Valid config files downloading) :
    ((downloads config).dialogues fun server => server = files).Inevitably settling
      (fun state => state.Finished ∧ Valid config files state) downloading := by
  refine inevitably_finished (rank config.maxChunkBytes files) ?_ ?_ ?_ ?_ ?_ valid
  · exact fun _ _ _ held _ stepped => held.step decodes positive stepped
  · exact fun _ index dialogue held known => held.below index dialogue known
  · rintro state index ⟨call, outstanding⟩ held known waits
    cases outstanding with
    | nothing => exact absurd rfl waits
    | request request =>
        have served : (downloads config).serve state.server () request =
            some (state.server, getChunks config.maxChunkBytes state.server request) := rfl
        exact enabled_serve known served
    | answers answers =>
        cases answers with
        | nil => exact (held.stands index _ known).answers_ne_nil.elim
        | cons frame rest => exact enabled_deliver known
  · intro state index call request nonce server answers held asked served
    cases served
    rw [held.unchanged]
    exact Nat.lt_succ_self _
  · intro state index call frame rest held asked
    obtain ⟨next, outcome, outstanding, goesOn, _, lower⟩ :=
      (held.stands index _ asked).resume decodes positive
    have resumes : resumed rest ((downloads config).resume call frame) =
        ⟨⟨call.request, next, outcome⟩, outstanding⟩ := goesOn
    rw [resumes]
    exact lower

/-- What is known of a file when all of its chunks have arrived is the file, unless it is empty. -/
theorem progress_slices (positive : 0 < config.maxChunkBytes) (file : FileRow) :
    DownloadOutcome.returned file.content
        (progress file (slices config.maxChunkBytes file.content)).filename
        (progress file (slices config.maxChunkBytes file.content)).mimeType =
      .returned file.content (some file.filename) file.mimeType ↔ file.content ≠ [] := by
  constructor
  · intro same empty
    have none : slices config.maxChunkBytes file.content = [] := by
      rw [empty]
      exact slices_nil positive
    simp only [progress, none, ↓reduceIte, DownloadOutcome.returned.injEq, reduceCtorEq, false_and,
      and_false] at same
  · intro nonempty
    have some : slices config.maxChunkBytes file.content ≠ [] := by
      intro none
      have all := flatten_slices positive file.content
      rw [none] at all
      exact nonempty all.symm
    simp only [progress, some, ↓reduceIte]

end DownloadCall

/-- **File download end to end.** Whatever calls of `download_file` share a connection, with their
frames in any order: a call at its end has returned the bytes, the name and the type of the requested
file exactly when the file has content; and when no further call begins, all calls come to their
end. -/
theorem download_end_to_end {config : BridgeConfig} {files : List FileRow}
    (decodes : config.b64decode = Base64.decode) (announced : 1 ≤ config.maxChunkBytes)
    {state : Wire DownloadCall GatewayFileGetRequest FileGetFrame (List FileRow) String}
    (reached : (downloadBridge config files).Reachable Machine.anyStep state) :
    (∀ index call id file, state.calls index = some (call, id) →
      getForSession files call.request = some file → call.outcome ≠ .waiting →
      (call.outcome = .returned file.content (some file.filename) file.mimeType ↔
        file.content ≠ [])) ∧
    (downloadBridge config files).Inevitably settlingWire (fun final =>
      ∀ index call id file, final.calls index = some (call, id) →
        getForSession files call.request = some file →
        (call.outcome = .returned file.content (some file.filename) file.mimeType ↔
          file.content ≠ [])) state := by
  have valid : DownloadCall.Valid config files state.view :=
    (view_reachable reached).invariant (fun _ => DownloadCall.valid_initial)
      fun _ _ _ valid _ stepped => valid.step decodes announced stepped
  have returned (final : Wire DownloadCall GatewayFileGetRequest FileGetFrame (List FileRow) String)
      (valid : DownloadCall.Valid config files final.view) (index : Nat) (call : DownloadCall)
      (id : Option String) (file : FileRow) (known : final.calls index = some (call, id))
      (found : getForSession files call.request = some file)
      (ended : call.outcome ≠ .waiting ∨ final.outstanding id = .nothing) :
      call.outcome = .returned file.content (some file.filename) file.mimeType ↔
        file.content ≠ [] := by
    have stands := valid.stands index ⟨call, final.outstanding id⟩ (by
      simp only [Wire.view, known, Option.map_some])
    have nothing : final.outstanding id = .nothing := by
      rcases ended with ended | nothing
      · exact stands.outstanding_eq_nothing ended
      · exact nothing
    rw [nothing] at stands
    rw [stands.finished file found]
    exact DownloadCall.progress_slices announced file
  refine ⟨?_, ?_⟩
  · intro index call id file known found ended
    exact returned state valid index call id file known found (Or.inl ended)
  · refine (inevitably_of_view (matched_of_reachable reached)
      (valid.inevitably decodes announced)).mono ?_
    rintro final ⟨finished, valid⟩ index call id file known found
    refine returned final valid index call id file known found (Or.inr ?_)
    refine finished index ⟨call, final.outstanding id⟩ ?_
    simp only [Wire.view, known, Option.map_some]

/-- A business side that sends chunks of one byte. -/
def bytewiseConfig : BridgeConfig := { uploadConfig with maxChunkBytes := 1 }

/-- A file with the text `hi`, and one without content. -/
def greetingFile : FileRow where
  id := "file_1"
  sessionId := "s"
  content := [104, 105]
  filename := "hi.txt"
  mimeType := some "text/plain"

/-- A file without content. -/
def emptyFile : FileRow where
  id := "file_2"
  sessionId := "s"
  content := []
  filename := "empty.txt"
  mimeType := some "text/plain"

/-- Two calls, for one file each, whose frames are read in turn. -/
def downloadRun : List (WireAction GatewayFileGetRequest Unit String) :=
  [.start { sessionId := "s", fileId := "file_1" } "get_1",
    .start { sessionId := "s", fileId := "file_2" } "get_2",
    .serve "get_1" (), .serve "get_2" (), .deliver "get_1" "", .deliver "get_2" "",
    .deliver "get_1" "", .deliver "get_1" ""]

/-- Where both calls are at their end. -/
def downloadState : Wire DownloadCall GatewayFileGetRequest FileGetFrame (List FileRow) String :=
  ((downloadBridge bytewiseConfig [greetingFile, emptyFile]).replay Machine.anyStep
    { server := [greetingFile, emptyFile] } downloadRun).getD { server := [] }

/-- The downloads of the run are reached. -/
theorem downloadState_reachable :
    (downloadBridge bytewiseConfig [greetingFile, emptyFile]).Reachable Machine.anyStep
      downloadState := by
  have start : (downloadBridge bytewiseConfig [greetingFile, emptyFile]).initial
      { server := [greetingFile, emptyFile] } := ⟨rfl, rfl, rfl, rfl, rfl, rfl, rfl⟩
  have replayed : (downloadBridge bytewiseConfig [greetingFile, emptyFile]).replay Machine.anyStep
      { server := [greetingFile, emptyFile] } downloadRun = some downloadState := rfl
  exact .of_replay start replayed

/-- The file with content arrives as it is stored. -/
theorem download_end_to_end_greeting : ∃ call,
    downloadState.calls 0 = some (call, none) ∧
      call.outcome = .returned [104, 105] (some "hi.txt") (some "text/plain") := by
  obtain ⟨call, known, found, ended⟩ : ∃ call, downloadState.calls 0 = some (call, none) ∧
      getForSession [greetingFile, emptyFile] call.request = some greetingFile ∧
      call.outcome ≠ .waiting := by
    refine ⟨_, rfl, ?_, ?_⟩ <;> decide
  have returned := (download_end_to_end rfl (Nat.le_refl _) downloadState_reachable).1 0 call none
    greetingFile known found ended
  exact ⟨call, known, returned.mpr (List.cons_ne_nil _ _)⟩

/-- The file without content arrives without its name and its type. -/
theorem download_loses_name : ∃ state call,
    (downloadBridge bytewiseConfig [greetingFile, emptyFile]).Reachable Machine.anyStep state ∧
      state.calls 1 = some (call, none) ∧
      getForSession [greetingFile, emptyFile] call.request = some emptyFile ∧
      call.outcome = .returned [] none none ∧ emptyFile.filename = "empty.txt" ∧
      emptyFile.mimeType = some "text/plain" := by
  refine ⟨downloadState, _, downloadState_reachable, rfl, ?_, ?_, rfl, rfl⟩ <;> decide

end FairyClaw
