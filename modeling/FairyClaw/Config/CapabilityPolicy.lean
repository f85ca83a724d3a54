import FairyClaw.Foundation.Machine
import FairyClaw.Foundation.Python
import FairyClaw.Foundation.Table

/-! # Policies of capability groups

The control plane changes the policy of a capability group in the registry and in the group's
manifest, which a restart reads again. As long as the values have the types of their fields, the
registry is always the one that a restart would load, and nothing but the policy of a manifest ever
changes (`FairyClaw.capability_policies_persist`).
-/

namespace FairyClaw

open Foundation

/-- The manifest of a directory: there is none, or it is not JSON, or it is a document. -/
inductive ManifestFile
  | missing
  | broken
  | parsed (document : Json)

/-- The directories of the groups, as they are listed. -/
abbrev CapabilitiesDir := Table (Prod.fst : String × ManifestFile → String)

/-- `CapabilityGroup`. A copy with updates is not validated, so the fields of a policy hold any
value. -/
structure PolicyGroup where
  name : String
  description : String
  alwaysEnablePlanner : Json
  alwaysEnableSubagent : Json
  manifestVersion : Json
  routingHint : Json
  capabilities : List JsonObject
  hooks : List JsonObject
  eventTypes : List JsonObject

/-- What the model of a group takes for a truth value; a truth value is one. -/
structure BoolField where
  read : Json → Option Bool
  read_bool : ∀ value, read (.bool value) = some value

/-- The items of an array that are all objects. -/
def objects (value : Json) : Option (List JsonObject) :=
  value.asArr.bind fun items => items.mapM Json.asObj

/-- The value of a field that may be missing. -/
def fieldOr {Value : Type} (read : Json → Option Value) (default : Value) (field : Option Json) :
    Option Value :=
  match field with
  | none => some default
  | some value => read value

/-- A text or nothing. -/
def readHint : Json → Option Json
  | .null => some .null
  | .str text => some (.str text)
  | _ => none

/-- A version is a text. -/
def readVersion : Json → Option Json
  | .str text => some (.str text)
  | _ => none

/-- `CapabilityGroup(**manifest_data)`, unless it raises -/
def PolicyGroup.ofManifest (bool : BoolField) (fields : JsonObject) : Option PolicyGroup := do
  let name ← (fields.get "name").bind Json.asStr
  let description ← (fields.get "description").bind Json.asStr
  let planner ← (fields.get "always_enable_planner").bind bool.read
  let subagent ← (fields.get "always_enable_subagent").bind bool.read
  let version ← fieldOr readVersion (.str "1.0") (fields.get "manifest_version")
  let hint ← fieldOr readHint .null (fields.get "routing_hint")
  let capabilities ← (fields.get "capabilities").bind objects
  let hooks ← fieldOr objects [] (fields.get "hooks")
  let eventTypes ← fieldOr objects [] (fields.get "event_types")
  return {
    name := name
    description := description
    alwaysEnablePlanner := .bool planner
    alwaysEnableSubagent := .bool subagent
    manifestVersion := version
    routingHint := hint
    capabilities := capabilities
    hooks := hooks
    eventTypes := eventTypes }

/-- The group of a manifest; one that does not parse has none. -/
def loadManifest (bool : BoolField) : ManifestFile → Option PolicyGroup
  | .parsed (.obj fields) => PolicyGroup.ofManifest bool fields
  | _ => none

/-- `CapabilityRegistry`, as far as policies are concerned. -/
structure PolicyRegistry where
  groups : Table PolicyGroup.name := {}
  manifestPaths : Table (Prod.fst : String × String → String) := {}

namespace PolicyRegistry

/-- One directory of `_load_capabilities` -/
def register (bool : BoolField) (registry : PolicyRegistry) (dir : String × ManifestFile) :
    PolicyRegistry :=
  match loadManifest bool dir.2 with
  | none => registry
  | some group =>
      { groups := registry.groups.put group
        manifestPaths := registry.manifestPaths.put (group.name, dir.1) }

/-- `_load_capabilities` -/
def load (bool : BoolField) (dirs : CapabilitiesDir) : PolicyRegistry :=
  dirs.rows.foldl (register bool) {}

end PolicyRegistry

/-- `allowed_keys` -/
def policyKeys : List String :=
  ["always_enable_planner", "always_enable_subagent", "routing_hint", "manifest_version"]

/-- The allowed part of a patch, as a new dictionary. -/
def filteredPatch (patch : JsonObject) : JsonObject :=
  JsonObject.update [] (patch.filter fun entry => entry.1 ∈ policyKeys)

/-- `model_copy(update=filtered)` -/
def PolicyGroup.modelCopy (group : PolicyGroup) (updates : JsonObject) : PolicyGroup :=
  { group with
    alwaysEnablePlanner := (updates.get "always_enable_planner").getD group.alwaysEnablePlanner
    alwaysEnableSubagent := (updates.get "always_enable_subagent").getD group.alwaysEnableSubagent
    manifestVersion := (updates.get "manifest_version").getD group.manifestVersion
    routingHint := (updates.get "routing_hint").getD group.routingHint }

/-- The directories, and the registry of the process. -/
structure PolicyState where
  dirs : CapabilitiesDir
  registry : PolicyRegistry

namespace PolicyState

variable (bool : BoolField) (state : PolicyState)

/-- The process starts again, also after one that ended between the write of a manifest and the
change of its registry. -/
def restart : PolicyState := { state with registry := PolicyRegistry.load bool state.dirs }

/-- The new manifest, and the group of the registry with the patch. -/
def store (group : PolicyGroup) (dir : String) (manifest updates : JsonObject) : PolicyState where
  dirs := state.dirs.put (dir, .parsed (.obj (manifest.update updates)))
  registry :=
    { state.registry with groups := state.registry.groups.put (group.modelCopy updates) }

/-- `apply_group_policy_and_persist`; the write of the manifest may raise, and then leaves the old
one. -/
def applyGroupPolicyAndPersist (groupName : String) (patch : JsonObject) (saves : Bool) :
    Except String PolicyState :=
  match state.registry.groups.get groupName with
  | none => .error ("Unknown capability group: " ++ groupName)
  | some group =>
      match (state.registry.manifestPaths.get groupName).bind fun path =>
          state.dirs.get path.2 with
      | none => .error ("Manifest path not found for group: " ++ groupName)
      | some (_, .missing) => .error ("Manifest path not found for group: " ++ groupName)
      | some (dir, manifest) =>
          if (filteredPatch patch).isEmpty then .error "No valid policy keys in patch"
          else
            match manifest with
            | .parsed (.obj raw) =>
                if saves then .ok (state.store group dir raw (filteredPatch patch))
                else .error "OSError"
            | .parsed _ => .error "TypeError"
            | _ => .error "JSONDecodeError"

/-- `str(body.get("group_name") or "").strip()`, with the text of values that are not strings -/
def requestedGroup (str : Json → String) (body : JsonObject) : String :=
  strip (match body.get "group_name" with
    | some (.str text) => text
    | some value => if value.truthy then str value else ""
    | none => "")

/-- `capabilities.put` -/
def capabilitiesPut (str : Json → String) (body : JsonObject) (saves : Bool) :
    Except String PolicyState :=
  if requestedGroup str body = "" then .error "group_name required"
  else
    match body.get "patch" with
    | some (.obj patch) =>
        state.applyGroupPolicyAndPersist (requestedGroup str body) patch saves
    | _ => .error "patch must be an object"

end PolicyState

/-- What happens to the policies: a request, or a new start of the process. -/
inductive PolicyAction
  | put (body : JsonObject) (saves : Bool)
  | restart

/-- Requests and restarts from the registry that a set of directories loads. A request that raises
changes nothing. -/
def capabilityPolicies (bool : BoolField) (str : Json → String) (dirs : CapabilitiesDir) :
    Machine PolicyState PolicyAction where
  initial state := state = PolicyState.restart bool { dirs := dirs, registry := {} }
  step state action :=
    match action with
    | .put body saves =>
        match state.capabilitiesPut str body saves with
        | .ok after => some after
        | .error _ => some state
    | .restart => some (state.restart bool)

/-! ## Patches -/

/-- The values of a patch have the types of their fields. -/
structure TypedPatch (patch : JsonObject) : Prop where
  planner : ∀ value ∈ patch.get "always_enable_planner", ∃ flag, value = .bool flag
  subagent : ∀ value ∈ patch.get "always_enable_subagent", ∃ flag, value = .bool flag
  version : ∀ value ∈ patch.get "manifest_version", readVersion value = some value
  hint : ∀ value ∈ patch.get "routing_hint", readHint value = some value

/-- A filtered patch has each key once. -/
theorem distinct_filteredPatch (patch : JsonObject) : (filteredPatch patch).DistinctKeys :=
  @JsonObject.DistinctKeys.update [] List.nodup_nil _

/-- The keys of an update are old ones or those of the patch. -/
theorem mem_keys_update {object patch : JsonObject} {key : String}
    (listed : key ∈ (object.update patch).map Prod.fst) :
    key ∈ object.map Prod.fst ∨ key ∈ patch.map Prod.fst := by
  unfold JsonObject.update at listed
  induction patch generalizing object with
  | nil => exact .inl listed
  | cons entry rest ih =>
      rcases ih listed with old | later
      · rcases JsonObject.mem_keys_set.mp old with older | rfl
        · exact .inl older
        · exact .inr List.mem_cons_self
      · exact .inr (List.mem_cons_of_mem _ later)

/-- A filtered patch has policy keys only. -/
theorem allowed_of_mem_filteredPatch {patch : JsonObject} {entry : String × Json}
    (member : entry ∈ filteredPatch patch) : entry.1 ∈ policyKeys := by
  rcases mem_keys_update (List.mem_map_of_mem member) with old | new
  · cases old
  · obtain ⟨allowed, listed, named⟩ := List.mem_map.mp new
    rw [← named]
    exact of_decide_eq_true (List.mem_filter.mp listed).2

/-- A filtered patch says nothing about other keys. -/
theorem get_filteredPatch_of_other {patch : JsonObject} {key : String}
    (other : key ∉ policyKeys) : (filteredPatch patch).get key = none := by
  apply List.lookup_eq_none_iff.mpr
  intro entry member
  rw [bne_iff_ne]
  intro same
  apply other
  rw [same]
  exact allowed_of_mem_filteredPatch member

section Update

variable {bool : BoolField} {raw updates : JsonObject} {group : PolicyGroup}

/-- A patched flag reads as the patch says, or else as before. -/
theorem read_flag {patched old : Option Json} {flag : Bool}
    (typed : ∀ value ∈ patched, ∃ flag, value = .bool flag)
    (read : old.bind bool.read = some flag) :
    ∃ after, (patched.or old).bind bool.read = some after ∧
      patched.getD (.bool flag) = .bool after := by
  cases patched with
  | none => exact ⟨flag, read, rfl⟩
  | some value =>
      obtain ⟨after, rfl⟩ := typed value rfl
      exact ⟨after, bool.read_bool after, rfl⟩

/-- A patched field reads as the patch says, or else as before. -/
theorem fieldOr_patched {read : Json → Option Json} {default value : Json}
    {patched old : Option Json} (typed : ∀ value ∈ patched, read value = some value)
    (before : fieldOr read default old = some value) :
    fieldOr read default (patched.or old) = some (patched.getD value) := by
  cases patched with
  | none => exact before
  | some value => exact typed value rfl

/-- A manifest with a typed patch is read as the group with the patch. -/
theorem ofManifest_update (distinct : updates.DistinctKeys) (typed : TypedPatch updates)
    (others : ∀ key ∉ policyKeys, updates.get key = none)
    (loaded : PolicyGroup.ofManifest bool raw = some group) :
    PolicyGroup.ofManifest bool (raw.update updates) = some (group.modelCopy updates) := by
  have kept (key : String) (other : key ∉ policyKeys) : (raw.update updates).get key =
      raw.get key := by
    rw [JsonObject.get_update distinct, others key other, Option.none_or]
  unfold PolicyGroup.ofManifest at loaded ⊢
  simp only [Option.bind_eq_bind, Option.bind_eq_some_iff, Option.pure_def] at loaded
  obtain ⟨name, named, description, described, planner, planned, subagent, allowed, version,
    numbered, hint, hinted, capabilities, able, hooks, hooked, eventTypes, evented, built⟩ := loaded
  rw [← Option.bind_eq_some_iff] at named described planned allowed able
  cases built
  obtain ⟨plannerAfter, plannerRead, plannerCopied⟩ := read_flag typed.planner planned
  obtain ⟨subagentAfter, subagentRead, subagentCopied⟩ := read_flag typed.subagent allowed
  have versionRead := fieldOr_patched typed.version numbered
  have hintRead := fieldOr_patched typed.hint hinted
  rw [kept "name" (by decide), kept "description" (by decide), kept "capabilities" (by decide),
    kept "hooks" (by decide), kept "event_types" (by decide), JsonObject.get_update distinct,
    JsonObject.get_update distinct, JsonObject.get_update distinct,
    JsonObject.get_update distinct]
  simp only [Option.bind_eq_bind, named, described, plannerRead, subagentRead, versionRead,
    hintRead, able, hooked, evented, Option.bind_some, Option.pure_def, PolicyGroup.modelCopy,
    plannerCopied, subagentCopied]

end Update

/-! ## Loading -/

namespace PolicyRegistry

variable {bool : BoolField} {name : String}

/-- A manifest that loads puts its group. -/
theorem register_of_loaded {registry : PolicyRegistry} {dir : String × ManifestFile}
    {group : PolicyGroup} (loaded : loadManifest bool dir.2 = some group) :
    register bool registry dir =
      { groups := registry.groups.put group
        manifestPaths := registry.manifestPaths.put (group.name, dir.1) } := by
  rw [register, loaded]

/-- No directory among these holds a group of that name. -/
def Lacks (bool : BoolField) (name : String) (dirs : List (String × ManifestFile)) : Prop :=
  ∀ dir ∈ dirs, ∀ group, loadManifest bool dir.2 = some group → group.name ≠ name

/-- The last directory with a group of some name decides about it. -/
theorem last_registered (name : String) (registry : PolicyRegistry)
    (dirs : List (String × ManifestFile)) :
    (Lacks bool name dirs ∧
      (dirs.foldl (register bool) registry).groups.get name = registry.groups.get name ∧
      (dirs.foldl (register bool) registry).manifestPaths.get name =
        registry.manifestPaths.get name) ∨
    ∃ front dir back group, dirs = front ++ dir :: back ∧ Lacks bool name back ∧
      loadManifest bool dir.2 = some group ∧ group.name = name ∧
      (dirs.foldl (register bool) registry).groups.get name = some group ∧
      (dirs.foldl (register bool) registry).manifestPaths.get name = some (name, dir.1) := by
  induction dirs generalizing registry with
  | nil =>
      left
      exact ⟨List.forall_mem_nil _, rfl, rfl⟩
  | cons first dirs ih =>
      rw [List.foldl_cons]
      rcases ih (register bool registry first) with ⟨lacks, groups, paths⟩ | later
      · cases loaded : loadManifest bool first.2 with
        | none =>
            have skipped : register bool registry first = registry := by
              rw [register, loaded]
            rw [skipped] at groups paths ⊢
            left
            refine ⟨List.forall_mem_cons.mpr ⟨?_, lacks⟩, groups, paths⟩
            intro group other
            rw [loaded] at other
            cases other
        | some group =>
            rw [register_of_loaded loaded] at groups paths ⊢
            rw [Table.get_put] at groups paths
            by_cases named : name = group.name
            · rw [if_pos named] at groups
              rw [if_pos named] at paths
              right
              exact ⟨[], first, dirs, group, rfl, lacks, loaded, named.symm, groups,
                paths.trans (by rw [named])⟩
            · rw [if_neg named] at groups paths
              left
              refine ⟨List.forall_mem_cons.mpr ⟨?_, lacks⟩, groups, paths⟩
              intro other read
              rw [loaded] at read
              cases read
              exact Ne.symm named
      · obtain ⟨front, dir, back, group, split, rest⟩ := later
        right
        refine ⟨first :: front, dir, back, group, ?_, rest⟩
        rw [split, List.cons_append]

/-- A change of a group goes through the directories that do not hold it. -/
theorem foldl_put_group {group : PolicyGroup} {registry : PolicyRegistry}
    {dirs : List (String × ManifestFile)} (lacks : Lacks bool group.name dirs)
    (listed : group.name ∈ registry.groups.rows.map PolicyGroup.name) :
    dirs.foldl (register bool) { registry with groups := registry.groups.put group } =
      { dirs.foldl (register bool) registry with
        groups := (dirs.foldl (register bool) registry).groups.put group } := by
  induction dirs generalizing registry with
  | nil => rfl
  | cons dir dirs ih =>
      obtain ⟨first, rest⟩ := List.forall_mem_cons.mp lacks
      rw [List.foldl_cons, List.foldl_cons]
      cases loaded : loadManifest bool dir.2 with
      | none =>
          have skipped (other : PolicyRegistry) : register bool other dir = other := by
            rw [register, loaded]
          rw [skipped, skipped]
          exact ih rest listed
      | some other =>
          rw [register_of_loaded loaded, register_of_loaded loaded, ← ih rest
            (Table.mem_keys_put.mpr (.inl listed)),
            Table.put_put_comm listed (first other loaded)]

/-- The registry after a patch is the one that the patched manifest loads. -/
theorem load_put {dirs : CapabilitiesDir} {group : PolicyGroup} {dir : String}
    {raw updates : JsonObject} (distinct : updates.DistinctKeys) (typed : TypedPatch updates)
    (others : ∀ key ∉ policyKeys, updates.get key = none)
    (known : (load bool dirs).groups.get name = some group)
    (path : (load bool dirs).manifestPaths.get name = some (name, dir))
    (stored : dirs.get dir = some (dir, .parsed (.obj raw))) :
    load bool (dirs.put (dir, .parsed (.obj (raw.update updates)))) =
      { load bool dirs with
        groups := (load bool dirs).groups.put (group.modelCopy updates) } := by
  rcases @last_registered bool name {} dirs.rows with ⟨_, missing, _⟩ | last
  · have unknown : (load bool dirs).groups.get name = none := missing
    rw [known] at unknown
    cases unknown
  obtain ⟨front, last, back, found, split, lacks, loaded, named, groups, paths⟩ := last
  have same : found = group := Option.some.inj (groups.symm.trans known)
  have place : last.1 = dir := congrArg Prod.snd (Option.some.inj (paths.symm.trans path))
  have own : last = (dir, .parsed (.obj raw)) := by
    have listed : dirs.get last.1 = some last := Table.get_eq_some.mpr
      ⟨split ▸ List.mem_append_right front List.mem_cons_self, rfl⟩
    rw [place, stored] at listed
    exact (Option.some.inj listed).symm
  subst same own named
  have copied : loadManifest bool (.parsed (.obj (raw.update updates))) =
      some (found.modelCopy updates) := ofManifest_update distinct typed others loaded
  have patched (registry : PolicyRegistry) :
      register bool registry (dir, .parsed (.obj (raw.update updates))) =
        { register bool registry (dir, .parsed (.obj raw)) with
          groups := (register bool registry (dir, .parsed (.obj raw))).groups.put
            (found.modelCopy updates) } := by
    have overwritten : (registry.groups.put found).put (found.modelCopy updates) =
        registry.groups.put (found.modelCopy updates) := Table.put_put_self rfl
    rw [register_of_loaded loaded, register_of_loaded copied]
    simp only
    rw [overwritten]
    rfl
  have rows : (dirs.put (dir, .parsed (.obj (raw.update updates)))).rows =
      front ++ (dir, .parsed (.obj (raw.update updates))) :: back :=
    Table.rows_put_of_split split rfl
  have present : found.name ∈ (register bool (front.foldl (register bool) {})
      (dir, .parsed (.obj raw))).groups.rows.map PolicyGroup.name := by
    rw [register_of_loaded loaded]
    exact Table.mem_keys_put.mpr (.inr rfl)
  unfold load
  rw [rows, split, List.foldl_append, List.foldl_cons, List.foldl_append, List.foldl_cons, patched]
  exact foldl_put_group lacks present

end PolicyRegistry

/-! ## Runs -/

/-- A manifest without its policy. -/
def ManifestFile.withoutPolicy : ManifestFile → ManifestFile
  | parsed (.obj fields) => parsed (.obj (fields.filter fun entry => entry.1 ∉ policyKeys))
  | other => other

/-- The values of the request's patch have the types of their fields. -/
def typedRequest : Machine.Guard PolicyState PolicyAction
  | _, .put body _ =>
      ∀ patch, body.get "patch" = some (.obj patch) → TypedPatch (filteredPatch patch)
  | _, .restart => True

section Runs

variable {bool : BoolField} {str : Json → String} {state after : PolicyState}

/-- What an accepted patch has found and stored. -/
theorem stored_of_accepted {groupName : String} {patch : JsonObject} {saves : Bool}
    (accepted : state.applyGroupPolicyAndPersist groupName patch saves = .ok after) :
    ∃ group path dir raw, state.registry.groups.get groupName = some group ∧
      state.registry.manifestPaths.get groupName = some path ∧
      state.dirs.get path.2 = some (dir, .parsed (.obj raw)) ∧
      after = state.store group dir raw (filteredPatch patch) := by
  unfold PolicyState.applyGroupPolicyAndPersist at accepted
  cases known : state.registry.groups.get groupName with
  | none => rw [known] at accepted; cases accepted
  | some group =>
      rw [known] at accepted
      cases listed : state.registry.manifestPaths.get groupName with
      | none => rw [listed] at accepted; cases accepted
      | some path =>
          rw [listed] at accepted
          simp only [Option.bind_some] at accepted
          cases stored : state.dirs.get path.2 with
          | none => rw [stored] at accepted; cases accepted
          | some entry =>
              obtain ⟨dir, manifest⟩ := entry
              rw [stored] at accepted
              cases manifest with
              | missing => cases accepted
              | broken =>
                  simp only at accepted
                  split at accepted
                  · cases accepted
                  · cases accepted
              | parsed document =>
                  simp only at accepted
                  split at accepted
                  · cases accepted
                  cases document with
                  | obj raw =>
                      simp only at accepted
                      split at accepted
                      · cases accepted
                        exact ⟨group, path, dir, raw, rfl, rfl, stored, rfl⟩
                      · cases accepted
                  | _ => cases accepted

/-- A request that is accepted names a group and a patch for it. -/
theorem patch_of_accepted {body : JsonObject} {saves : Bool}
    (accepted : state.capabilitiesPut str body saves = .ok after) :
    ∃ groupName patch, body.get "patch" = some (.obj patch) ∧
      state.applyGroupPolicyAndPersist groupName patch saves = .ok after := by
  unfold PolicyState.capabilitiesPut at accepted
  split at accepted
  · cases accepted
  · split at accepted
    · next patch given => exact ⟨_, patch, given, accepted⟩
    · cases accepted

/-- A typed patch that is accepted leaves the registry that the directories load. -/
theorem coherent_of_accepted {groupName : String} {patch : JsonObject} {saves : Bool}
    (coherent : state.registry = PolicyRegistry.load bool state.dirs)
    (typed : TypedPatch (filteredPatch patch))
    (accepted : state.applyGroupPolicyAndPersist groupName patch saves = .ok after) :
    after.registry = PolicyRegistry.load bool after.dirs := by
  obtain ⟨group, path, dir, raw, known, listed, stored, rfl⟩ := stored_of_accepted accepted
  have place : path = (groupName, dir) := by
    have name := (Table.get_eq_some.mp listed).2
    have own := (Table.get_eq_some.mp stored).2
    exact Prod.ext name own.symm
  subst place
  rw [coherent] at known listed
  have loaded := PolicyRegistry.load_put (distinct_filteredPatch patch) typed
    (fun _ => get_filteredPatch_of_other) known listed stored
  rw [PolicyState.store, loaded, coherent]

/-- A key that is dropped may be set. -/
theorem filter_set {object : JsonObject} {key : String} {value : Json}
    {stays : String × Json → Bool} (dropped : ∀ value, stays (key, value) = false) :
    (object.set key value).filter stays = object.filter stays := by
  have gone (value : Json) : ¬stays (key, value) = true := by
    rw [dropped]
    exact Bool.false_ne_true
  induction object with
  | nil => exact List.filter_cons_of_neg (gone value)
  | cons entry rest ih =>
      obtain ⟨name, old⟩ := entry
      rw [JsonObject.set]
      split
      · next same =>
          rw [same, List.filter_cons_of_neg (gone value), List.filter_cons_of_neg (gone old)]
      · rw [List.filter_cons, List.filter_cons, ih]

/-- Keys that are dropped may be updated. -/
theorem filter_update {object patch : JsonObject} {stays : String × Json → Bool}
    (dropped : ∀ entry ∈ patch, ∀ value, stays (entry.1, value) = false) :
    (object.update patch).filter stays = object.filter stays := by
  unfold JsonObject.update
  induction patch generalizing object with
  | nil => rfl
  | cons entry rest ih =>
      obtain ⟨first, later⟩ := List.forall_mem_cons.mp dropped
      rw [List.foldl_cons, ih later, filter_set first]

/-- An accepted patch changes nothing but a policy. -/
theorem withoutPolicy_of_accepted {groupName : String} {patch : JsonObject} {saves : Bool}
    (accepted : state.applyGroupPolicyAndPersist groupName patch saves = .ok after) (dir : String) :
    (after.dirs.get dir).map (fun entry => entry.2.withoutPolicy) =
      (state.dirs.get dir).map (fun entry => entry.2.withoutPolicy) := by
  obtain ⟨group, path, place, raw, _, _, stored, rfl⟩ := stored_of_accepted accepted
  have own := (Table.get_eq_some.mp stored).2
  simp only at own
  rw [PolicyState.store, Table.get_put]
  split
  · next same =>
      simp only at same
      rw [same, own, stored]
      simp only [Option.map_some, ManifestFile.withoutPolicy]
      rw [filter_update]
      intro entry member value
      rw [decide_eq_false_iff_not, not_not]
      have allowed : entry.1 ∈ policyKeys := allowed_of_mem_filteredPatch member
      exact allowed
  · rfl

end Runs

/-- **Policies.** As long as all patches have the types of their fields, the registry is the one
that a restart would load; and nothing but the policy of a manifest is ever changed. -/
theorem capability_policies_persist {bool : BoolField} {str : Json → String}
    {dirs : CapabilitiesDir} {state : PolicyState}
    (reached : (capabilityPolicies bool str dirs).Reachable typedRequest state) :
    state.registry = PolicyRegistry.load bool state.dirs ∧
      ∀ dir, (state.dirs.get dir).map (fun entry => entry.2.withoutPolicy) =
        (dirs.get dir).map (fun entry => entry.2.withoutPolicy) := by
  apply reached.invariant
  · rintro start rfl
    exact ⟨rfl, fun _ => rfl⟩
  · intro before action after ⟨coherent, same⟩ typed stepped
    cases action with
    | restart =>
        cases stepped
        exact ⟨rfl, same⟩
    | put body saves =>
        simp only [capabilityPolicies] at stepped
        cases answered : before.capabilitiesPut str body saves with
        | error text =>
            rw [answered] at stepped
            cases stepped
            exact ⟨coherent, same⟩
        | ok next =>
            rw [answered] at stepped
            cases stepped
            obtain ⟨groupName, patch, given, accepted⟩ := patch_of_accepted answered
            refine ⟨coherent_of_accepted coherent (typed patch given) accepted, ?_⟩
            intro dir
            rw [withoutPolicy_of_accepted accepted, same]

/-- Truth values only. -/
def strictBool : BoolField where
  read
    | .bool value => some value
    | _ => none
  read_bool _ := rfl

/-- The manifest of the core group. -/
def coreManifest : JsonObject :=
  [("name", .str "Core"), ("description", .str "Files"), ("always_enable_planner", .bool false),
    ("always_enable_subagent", .bool false), ("capabilities", .arr [])]

/-- A directory with this manifest alone. -/
def coreDirs : CapabilitiesDir where
  rows := [("core", .parsed (.obj coreManifest))]
  unique := List.nodup_singleton _

/-- The request that the planner always has the core group. -/
def plannerRequest : JsonObject :=
  [("group_name", .str "Core"), ("patch", .obj [("always_enable_planner", .bool true)])]

/-- The requested policy is in force, and read back after a restart. -/
theorem capability_policies_persist_planner : ∃ state,
    (capabilityPolicies strictBool (fun _ => "") coreDirs).Reachable typedRequest state ∧
    (state.registry.groups.get "Core").map PolicyGroup.alwaysEnablePlanner = some (.bool true) ∧
    state.registry = PolicyRegistry.load strictBool state.dirs := by
  obtain ⟨after, stepped, enabled⟩ : ∃ after,
      (capabilityPolicies strictBool (fun _ => "") coreDirs).step
        (PolicyState.restart strictBool { dirs := coreDirs, registry := {} })
        (.put plannerRequest true) = some after ∧
      (after.registry.groups.get "Core").map PolicyGroup.alwaysEnablePlanner =
        some (.bool true) := ⟨_, rfl, rfl⟩
  have typed : typedRequest (PolicyState.restart strictBool { dirs := coreDirs, registry := {} })
      (.put plannerRequest true) := by
    intro patch given
    cases given
    constructor
    · intro value read
      cases read
      exact ⟨true, rfl⟩
    · intro value read
      cases read
    · intro value read
      cases read
    · intro value read
      cases read
  have reached := Machine.Reachable.tail (.initial rfl) typed stepped
  exact ⟨after, reached, enabled, (capability_policies_persist reached).1⟩

end FairyClaw
