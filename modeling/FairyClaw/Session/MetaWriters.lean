import FairyClaw.Foundation.SharedValue
import FairyClaw.Hooks.CodeRepair
import FairyClaw.Hooks.DeliverableContract
import FairyClaw.Session.SubtaskRows

/-! # Writers of the session metadata

Nine functions change the metadata of a session. Each reads the row in a database session of its
own, edits a copy of the whole dictionary, and commits the copy. Two of them on one row lose no
update exactly when the last one to commit had read the row after the other's commit, or the other
had changed nothing (`FairyClaw.MetaCall.meta_updates_kept`).
-/

namespace FairyClaw

open Foundation Fallible CodeRepair DeliverableContract

/-- The group names in a list. -/
def groupNames : Option Json → List String
  | some (.arr items) => (items.filterMap Json.asStr).filter fun name => strip name ≠ ""
  | _ => []

/-- The deferred routing has an input. -/
def hasRouteInput (metadata : JsonObject) : Bool :=
  match metadata.get "route_input" with
  | some (.str text) => strip text ≠ ""
  | some value => value.truthy
  | none => false

/-- `resolve_sub_session_groups` over the metadata it reads: the groups and, unless nothing is
pending, the metadata it stores. The router answers with a value or fails. -/
def resolveSubSessionGroups (eventGroups : Option (List String)) (subSessionGroups : List String)
    (routed : Option Json) (metadata : JsonObject) : List String × Option JsonObject :=
  let fallback :=
    match eventGroups with
    | some (first :: rest) => first :: rest
    | _ => subSessionGroups
  let persisted := groupNames (metadata.get "enabled_groups")
  let resolved := if persisted = [] then fallback else persisted
  if !isTruthy (metadata.get "routing_pending") then (resolved, none)
  else
    let names := if hasRouteInput metadata then groupNames routed else []
    let groups := if names = [] then resolved else names
    (groups, some (((metadata.set "enabled_groups" (.arr (groups.map .str))).set
      "routing_pending" (.bool false)).pop "route_input"))

/-- One call of a function that changes the metadata, with what it writes. -/
inductive MetaCall
  | resolveSubSessionGroups (eventGroups : Option (List String)) (subSessionGroups : List String)
      (routed : Option Json)
  | markSubtaskIfNonTerminal (status : String)
  | killSubtask
  | reportSubtaskDone (report : SubtaskReport)
  | messageSubtask (status taskType : String)
  | delegateRouting (selectedGroups : List String) (routeInput : String)
  | delegateFailure
  | saveDcState (state : DcState)
  | saveState (state : JsonObject)
  | setWorkspaceRoot (workspaceRoot : String)

namespace MetaCall

/-- The keys that the call writes or removes. -/
def keys : MetaCall → List String
  | resolveSubSessionGroups _ _ _ => ["enabled_groups", "routing_pending", "route_input"]
  | markSubtaskIfNonTerminal _ => ["subtask_status"]
  | killSubtask => ["subtask_status"]
  | reportSubtaskDone _ => ["subtask_status"]
  | messageSubtask _ _ => ["subtask_status", "task_type"]
  | delegateRouting _ _ => ["enabled_groups", "routing_pending", "route_input"]
  | delegateFailure => ["subtask_status"]
  | saveDcState _ => ["dc_state"]
  | saveState _ => [stateKey]
  | setWorkspaceRoot _ => ["workspace_root"]

/-- The metadata that the call stores, from those it has read. -/
def edit (metadata : JsonObject) : MetaCall → Option JsonObject
  | resolveSubSessionGroups eventGroups subSessionGroups routed =>
      (FairyClaw.resolveSubSessionGroups eventGroups subSessionGroups routed metadata).2
  | markSubtaskIfNonTerminal status => some (metadata.set "subtask_status"
      (.str (orElse (lower (strip status)) "completed")))
  | killSubtask => some (metadata.set "subtask_status" (.str "cancelled"))
  | reportSubtaskDone report => some (metadata.set "subtask_status"
      (.str (SubtaskStore.reportStatus report)))
  | messageSubtask status taskType =>
      let taskType := SubtaskStore.messageTaskType status taskType
      some ((metadata.set "subtask_status" (.str (runningStatus taskType))).set
        "task_type" (.str taskType))
  | delegateRouting selectedGroups routeInput =>
      some (((metadata.set "enabled_groups" (.arr (selectedGroups.map .str))).set
        "routing_pending" (.bool true)).set "route_input" (.str routeInput))
  | delegateFailure => some (metadata.set "subtask_status" (.str "failed"))
  | saveDcState state => some (metadata.set "dc_state" (.obj [
      ("false_finish_count", .int state.falseFinishCount),
      ("last_status", .str state.lastStatus),
      ("last_failed_rules", .arr state.lastFailedRules),
      ("last_checked_at_ms", .int state.lastCheckedAtMs)]))
  | saveState state => some (metadata.set stateKey (.obj (defaultState.update state)))
  | setWorkspaceRoot workspaceRoot => some (metadata.set "workspace_root" (.str workspaceRoot))

/-- An edit of one key leaves the others. -/
theorem edit_set {metadata next : JsonObject} {key other : String} {value : Json}
    (edited : some (metadata.set key value) = some next) (untouched : other ∉ [key]) :
    next.get other = metadata.get other := by
  rw [← Option.some.inj edited]
  exact JsonObject.get_set_other metadata value (List.mem_singleton.not.mp untouched)

/-- A call leaves the other keys as it has read them. -/
theorem edit_local {call : MetaCall} {metadata next : JsonObject} {key : String}
    (edited : call.edit metadata = some next) (untouched : key ∉ call.keys) :
    next.get key = metadata.get key := by
  cases call with
  | resolveSubSessionGroups eventGroups subSessionGroups routed =>
      obtain ⟨groups, pending, input⟩ : key ≠ "enabled_groups" ∧ key ≠ "routing_pending" ∧
          key ≠ "route_input" := by simpa [keys] using untouched
      simp only [edit, FairyClaw.resolveSubSessionGroups] at edited
      split at edited
      · cases edited
      · rw [← Option.some.inj edited, JsonObject.get_pop_other _ input,
          JsonObject.get_set_other _ _ pending, JsonObject.get_set_other _ _ groups]
  | messageSubtask status taskType =>
      obtain ⟨status, kind⟩ : key ≠ "subtask_status" ∧ key ≠ "task_type" := by
        simpa [keys] using untouched
      rw [← Option.some.inj edited, JsonObject.get_set_other _ _ kind,
        JsonObject.get_set_other _ _ status]
  | delegateRouting selectedGroups routeInput =>
      obtain ⟨groups, pending, input⟩ : key ≠ "enabled_groups" ∧ key ≠ "routing_pending" ∧
          key ≠ "route_input" := by simpa [keys] using untouched
      rw [← Option.some.inj edited, JsonObject.get_set_other _ _ input,
        JsonObject.get_set_other _ _ pending, JsonObject.get_set_other _ _ groups]
  | markSubtaskIfNonTerminal => exact edit_set edited untouched
  | killSubtask => exact edit_set edited untouched
  | reportSubtaskDone => exact edit_set edited untouched
  | delegateFailure => exact edit_set edited untouched
  | saveDcState => exact edit_set edited untouched
  | saveState => exact edit_set edited untouched
  | setWorkspaceRoot => exact edit_set edited untouched

/-- The call as an edit of the whole metadata. -/
def fieldEdit (call : MetaCall) : FieldEdit JsonObject.get where
  keys := call.keys
  edit metadata := call.edit metadata
  edit_local := edit_local

variable {env : HookEnv} {world : HookWorld} {metadata : JsonObject}

/-- Storing one key in the world of the hooks is the edit of the call. -/
theorem exec_saveSessionKey (read : env.readSession = none) (write : env.writeSession = none)
    (stored : world.session = some (.obj metadata)) (key : String) (value : Json) :
    exec (saveSessionKey env key value) world =
      (.ok (), { world with session := some (.obj (metadata.set key value)) }) := by
  simp only [saveSessionKey, read, write, exec_bind, exec_get, stored, Json.asObj,
    Option.getD_some, exec_modify]

/-- The contract hook saves its state by the call's edit. -/
theorem exec_saveDcState (read : env.readSession = none) (write : env.writeSession = none)
    (stored : world.session = some (.obj metadata)) (state : DcState) :
    (saveDcState state).edit metadata =
      (exec (FairyClaw.saveDcState env state) world).2.session.bind Json.asObj := by
  rw [FairyClaw.saveDcState, exec_saveSessionKey read write stored]
  rfl

/-- The repair hook saves its state by the call's edit. -/
theorem exec_saveState (read : env.readSession = none) (write : env.writeSession = none)
    (stored : world.session = some (.obj metadata)) (state : JsonObject) :
    (saveState state).edit metadata =
      (exec (CodeRepair.saveState env state) world).2.session.bind Json.asObj := by
  rw [CodeRepair.saveState, exec_saveSessionKey read write stored]
  rfl

/-! ## Two writers of one row -/

/-- Two calls on the row of one session. -/
def machine (calls : Bool → MetaCall) : Machine (SharedValue JsonObject) WriterAction :=
  SharedValue.machine fun writer => (calls writer).fieldEdit

/-- The metadata contain what a committed call put there. -/
def Kept (calls : Bool → MetaCall) (row : SharedValue JsonObject) (writer : Bool) : Prop :=
  row.Contains (fun writer => (calls writer).fieldEdit) writer

/-- What a committed call stored under its keys is what it had read there. -/
def ChangedNothing (calls : Bool → MetaCall) (row : SharedValue JsonObject) (writer : Bool) :
    Prop :=
  row.Unchanging (fun writer => (calls writer).fieldEdit) writer

/-- **No lost update.** Two calls with different keys read and commit in any order. Once both
have committed, both updates are in the metadata exactly when each call had read the row after
the other's commit, or is the first to commit, or had missed a commit that changed nothing. -/
theorem meta_updates_kept (calls : Bool → MetaCall)
    (apart : ∀ key ∈ (calls false).keys, key ∉ (calls true).keys) {row : SharedValue JsonObject}
    (reached : (machine calls).Reachable Machine.anyStep row)
    (committed : ∀ writer, (row.phase writer).update.isSome = true) :
    (∀ writer, Kept calls row writer) ↔
      ∀ writer, (row.phase writer).missedOther = true → ChangedNothing calls row !writer :=
  SharedValue.contains_iff reached apart committed

/-- Routing reads the row and waits for its model; meanwhile the task is killed. -/
def routedAndKilled : Bool → MetaCall
  | false => resolveSubSessionGroups none ["core"] (some (.arr [.str "code"]))
  | true => killSubtask

/-- A row of a task that runs, with its routing pending. -/
def routedRow : SharedValue JsonObject where
  value := [("subtask_status", .str "running:general"), ("routing_pending", .bool true),
    ("route_input", .str "Fix the build.")]
  phase _ := .idle

/-- The kill and the routing both read before they write. -/
def overlapping : List WriterAction := [.read false, .read true, .write true, .write false]

/-- The row after both writes. -/
def overlappedRow : SharedValue JsonObject :=
  ((machine routedAndKilled).replay Machine.anyStep routedRow overlapping).getD routedRow

/-- The overlapping writes are a run. -/
theorem overlappedRow_reachable :
    (machine routedAndKilled).Reachable Machine.anyStep overlappedRow :=
  .of_replay (fun _ => rfl)
    (rfl : (machine routedAndKilled).replay _ routedRow overlapping = some overlappedRow)

/-- Both writers have written. -/
theorem overlappedRow_committed (writer : Bool) :
    (overlappedRow.phase writer).update.isSome = true := by
  cases writer <;> rfl

/-- The overlapping updates are kept exactly when the missed one has changed nothing. -/
theorem meta_updates_kept_overlapping :
    (∀ writer, Kept routedAndKilled overlappedRow writer) ↔
      ∀ writer, (overlappedRow.phase writer).missedOther = true →
        ChangedNothing routedAndKilled overlappedRow !writer :=
  meta_updates_kept routedAndKilled (by decide) overlappedRow_reachable overlappedRow_committed

/-- The routing commits the status it had read, and the task is running again. -/
theorem kill_overwritten :
    (machine routedAndKilled).Reachable Machine.anyStep overlappedRow ∧
    (∀ key ∈ (routedAndKilled false).keys, key ∉ (routedAndKilled true).keys) ∧
    (∀ writer, (overlappedRow.phase writer).update.isSome = true) ∧
    JsonObject.get overlappedRow.value "subtask_status" = some (.str "running:general") ∧
    ¬∀ writer, Kept routedAndKilled overlappedRow writer := by
  have status :
      JsonObject.get overlappedRow.value "subtask_status" = some (.str "running:general") := rfl
  refine ⟨overlappedRow_reachable, by decide, overlappedRow_committed, status, fun kept => ?_⟩
  obtain ⟨base, written, updated, fields⟩ := kept true
  have found := fields "subtask_status" List.mem_cons_self
  obtain rfl : written = [("subtask_status", .str "cancelled"), ("routing_pending", .bool true),
      ("route_input", .str "Fix the build.")] := (congrArg Prod.snd (Option.some.inj updated)).symm
  have same : some (Json.str "running:general") = some (Json.str "cancelled") :=
    status.symm.trans found
  exact absurd (Json.str.inj (Option.some.inj same)) (by decide)

end MetaCall

end FairyClaw
