import FairyClaw.Compression.ExecuteHook
import FairyClaw.Foundation.Archive
import FairyClaw.Foundation.Machine

/-! # The store of unloaded segments

The records of a session are an archive under their ids (`FairyClaw.filedRecord`): an unloading
files the images of a message, and a reload retires the records that it restores. A session
(`FairyClaw.ImageSession`) persists messages, compresses the recent part of its history before some
turns, and reloads segments in between.
-/

namespace FairyClaw

open Foundation

/-! ## Reloading -/

/-- `bool(record.get("restored"))` -/
def isRestored (record : JsonObject) : Bool :=
  ((JsonObject.get record "restored").getD .null).truthy

/-- `int(record.get("created_at_ms") or 0)`, for a record that the store has written -/
def createdAtMs (record : JsonObject) : Int :=
  match JsonObject.get record "created_at_ms" with
  | some (.int ms) => ms
  | _ => 0

/-- The modes of `reload_unloaded_segments`, with what they read of the arguments. -/
inductive ReloadMode
  | latest (limit : Int)
  | all
  | ids (unloadIds : List String)

/-- The active records that a mode selects. -/
def selectRecords (env : CompressionEnv) (active : List JsonObject) : ReloadMode → List JsonObject
  | .all => active.mergeSort fun first second => createdAtMs first ≤ createdAtMs second
  | .ids unloadIds =>
      let wanted := (unloadIds.map strip).filter (· ≠ "")
      active.filter fun record => recordUnloadId env record ∈ wanted
  | .latest limit =>
      (active.mergeSort fun first second => createdAtMs second ≤ createdAtMs first).take
        (max 1 limit).toNat

/-- Mark a record as restored. -/
def restoreRecord (env : CompressionEnv) (record : JsonObject) : JsonObject :=
  (record.set "restored" (.bool true)).set "restored_at_ms" (.int env.nowMs)

/-- `consume_unloaded_segment_records`: the selected records, and the records stored afterwards. -/
def consumeUnloadedSegmentRecords (env : CompressionEnv) (mode : ReloadMode)
    (records : List JsonObject) : Except PyError (List JsonObject × List JsonObject) :=
  match env.readState with
  | some error => .error error
  | none =>
      let selected := selectRecords env (records.filter fun record => !isRestored record) mode
      if selected = [] then .ok ([], records)
      else
        let selectedIds := selected.map (recordUnloadId env)
        (saveUnloadedSegmentsState env (records.map fun record =>
          if recordUnloadId env record ∈ selectedIds then restoreRecord env record
          else record)).map fun stored => (selected, stored)

/-- `str(record.get("role") or "user")` -/
def recordRole (env : CompressionEnv) (role : Option Json) : String :=
  match role with
  | some (.str role) => orElse role "user"
  | some value => if value.truthy then env.strOf value else "user"
  | none => "user"

/-- The message that a reload makes of a record's role and segments. -/
def restoredMessage (env : CompressionEnv) (value : Option Json × Option Json) :
    Option SessionMessageBlock :=
  (value.2.bind Json.asArr).bind fun rawSegments =>
    SessionMessageBlock.fromSegments (SessionMessageRole.fromValue (recordRole env value.1))
      (rawSegments.filterMap fun raw => raw.asObj.bind ContentSegment.fromDict)

/-- A record as an entry of the archive. -/
def filedRecord (env : CompressionEnv) (record : JsonObject) :
    Filed String (Option Json × Option Json) where
  key := recordUnloadId env record
  value := (JsonObject.get record "role", JsonObject.get record "segments")
  active := !isRestored record

/-- The records as an archive. -/
def archiveOf (env : CompressionEnv) (records : List JsonObject) :
    List (Filed String (Option Json × Option Json)) :=
  records.map (filedRecord env)

/-- `reload_unloaded_segments`: the messages it persists, and the records stored afterwards. -/
def reloadUnloadedSegments (env : CompressionEnv) (mode : ReloadMode) (records : List JsonObject) :
    Except PyError (List SessionMessageBlock × List JsonObject) :=
  (consumeUnloadedSegmentRecords env mode records).map fun (selected, stored) =>
    (selected.filterMap fun record => restoredMessage env (filedRecord env record).value, stored)

/-! ## The records as an archive -/

section Archive

variable {env : CompressionEnv} {records stored selected : List JsonObject} {mode : ReloadMode}

/-- Other keys of a record say nothing about what it files. -/
theorem filedRecord_set (record : JsonObject) {key : String} (value : Json)
    (apart : key ≠ "unload_id" ∧ key ≠ "role" ∧ key ≠ "segments" ∧ key ≠ "restored") :
    filedRecord env (record.set key value) = filedRecord env record := by
  unfold filedRecord recordUnloadId isRestored
  rw [JsonObject.get_set_other _ _ apart.1.symm, JsonObject.get_set_other _ _ apart.2.1.symm,
    JsonObject.get_set_other _ _ apart.2.2.1.symm, JsonObject.get_set_other _ _ apart.2.2.2.symm]

/-- Whether a record is restored is whether its images are out of use. -/
theorem filedRecord_setRestored (record : JsonObject) (restored : Bool) :
    filedRecord env (record.set "restored" (.bool restored)) =
      { filedRecord env record with active := !restored } := by
  unfold filedRecord recordUnloadId isRestored
  rw [JsonObject.get_set_other _ _ (by decide), JsonObject.get_set_other _ _ (by decide),
    JsonObject.get_set_other _ _ (by decide), JsonObject.get_set_self]
  rfl

/-- A record that is unloaded again is active again. -/
theorem archiveOf_reunload {unloadId : String} {value : Option Json × Option Json}
    {added : JsonObject} (filed : filedRecord env added = { key := unloadId, value := value }) :
    archiveOf env ((reunloadRecord env unloadId records).getD (records ++ [added])) =
      Archive.file unloadId value (archiveOf env records) := by
  induction records with
  | nil => exact congrArg (fun entry => [entry]) filed
  | cons record rest ih =>
      rw [reunloadRecord, archiveOf, archiveOf, List.map_cons, Archive.file]
      by_cases same : recordUnloadId env record = unloadId
      · have here : (filedRecord env record).key = unloadId := same
        rw [if_pos same, if_pos here, Option.getD_some, List.map_cons]
        refine congrArg (· :: rest.map (filedRecord env)) ?_
        rw [filedRecord_set _ _ (by decide)]
        split
        · rw [filedRecord_set _ _ (by decide), filedRecord_setRestored]
          rfl
        · next active =>
            have isActive : (filedRecord env record).active = true :=
              congrArg Bool.not (Bool.eq_false_iff.mpr active)
            rw [← isActive]
      · have apart : (filedRecord env record).key ≠ unloadId := same
        rw [if_neg same, if_neg apart]
        cases found : reunloadRecord env unloadId rest with
        | none =>
            rw [found, Option.getD_none] at ih
            rw [Option.map_none, Option.getD_none, List.cons_append, List.map_cons]
            exact congrArg (filedRecord env record :: ·) ih
        | some updated =>
            rw [found, Option.getD_some] at ih
            rw [Option.map_some, Option.getD_some, List.map_cons]
            exact congrArg (filedRecord env record :: ·) ih

/-- The record of an unloading under a new id. -/
def unloadedRecord (env : CompressionEnv) (unloadId role : String) (segments : List JsonObject)
    (placeholder sourceSummary : String) : JsonObject :=
  [("unload_id", .str unloadId),
    ("role", .str (orElse role "user")),
    ("segments", .arr (segments.map Json.obj)),
    ("placeholder", .str placeholder),
    ("source_summary", .str sourceSummary),
    ("created_at_ms", .int env.nowMs),
    ("last_seen_at_ms", .int env.nowMs),
    ("restored", .bool false),
    ("restored_at_ms", .null)]

/-- What is stored is what was to be stored. -/
theorem saveUnloadedSegmentsState_ok
    (saved : saveUnloadedSegmentsState env records = .ok stored) : stored = records := by
  unfold saveUnloadedSegmentsState at saved
  split at saved
  · cases saved
  · exact (Except.ok.inj saved).symm

/-- An unloading files the role and the segments under the id. -/
theorem archiveOf_append {unloadId role placeholder sourceSummary : String}
    {segments : List JsonObject} (named : unloadId ≠ "") (some_segment : segments ≠ [])
    (appended : appendUnloadedSegmentRecord env records unloadId role segments placeholder
      sourceSummary = .ok stored) :
    archiveOf env stored =
      Archive.file unloadId (some (.str (orElse role "user")), some (.arr (segments.map Json.obj)))
        (archiveOf env records) := by
  unfold appendUnloadedSegmentRecord at appended
  rw [if_neg (not_or_intro named some_segment)] at appended
  split at appended
  · cases appended
  · have filed : filedRecord env
        (unloadedRecord env unloadId role segments placeholder sourceSummary) =
        { key := unloadId
          value := (some (.str (orElse role "user")), some (.arr (segments.map Json.obj))) } := rfl
    rw [← archiveOf_reunload filed]
    split at appended
    · next found =>
        rw [saveUnloadedSegmentsState_ok appended, found, Option.getD_some]
    · next found =>
        rw [saveUnloadedSegmentsState_ok appended, found, Option.getD_none, unloadedRecord]

/-- Restoring a record puts its images out of use. -/
theorem filedRecord_restore (record : JsonObject) :
    filedRecord env (restoreRecord env record) = { filedRecord env record with active := false } := by
  rw [restoreRecord, filedRecord_set _ _ (by decide), filedRecord_setRestored]
  rfl

/-- A reload retires the records that it selects. -/
theorem archiveOf_consume
    (consumed : consumeUnloadedSegmentRecords env mode records = .ok (selected, stored)) :
    selected = selectRecords env (records.filter fun record => !isRestored record) mode ∧
      archiveOf env stored =
        Archive.retire (fun key => decide (key ∈ selected.map (recordUnloadId env)))
          (archiveOf env records) := by
  unfold consumeUnloadedSegmentRecords at consumed
  split at consumed
  · cases consumed
  · dsimp only at consumed
    split at consumed
    · next nothing =>
        cases consumed
        refine ⟨nothing.symm, ?_⟩
        simp [Archive.retire]
    · unfold saveUnloadedSegmentsState at consumed
      split at consumed
      · cases consumed
      · cases consumed
        refine ⟨rfl, ?_⟩
        rw [archiveOf, archiveOf, Archive.retire, List.map_map, List.map_map]
        refine List.map_congr_left fun record _ => ?_
        simp only [Function.comp_apply]
        have key : (filedRecord env record).key = recordUnloadId env record := rfl
        rw [key]
        by_cases chosen : recordUnloadId env record ∈ (selectRecords env
            (records.filter fun record => !isRestored record) mode).map (recordUnloadId env)
        · rw [if_pos chosen, if_pos (decide_eq_true chosen), filedRecord_restore]
          rfl
        · rw [if_neg chosen, if_neg (by simpa using chosen)]

/-- A reload appends what the selected records hold. -/
theorem reloadUnloadedSegments_ok {messages : List SessionMessageBlock}
    (reloaded : reloadUnloadedSegments env mode records = .ok (messages, stored)) :
    ∃ selected, consumeUnloadedSegmentRecords env mode records = .ok (selected, stored) ∧
      messages = selected.filterMap fun record => restoredMessage env (filedRecord env record).value := by
  unfold reloadUnloadedSegments at reloaded
  cases consumed : consumeUnloadedSegmentRecords env mode records with
  | error error =>
      rw [consumed] at reloaded
      cases reloaded
  | ok answer =>
      rw [consumed] at reloaded
      cases reloaded
      exact ⟨_, rfl, rfl⟩

end Archive

end FairyClaw
