import FairyClaw.Planning.Capabilities

/-! # Hooks of the enabled groups

The registry selects the hooks of a stage by the groups of the turn, as it selects the tools, but
takes an empty list of groups for all of them; and it finds scripts and tools by their names alone.
Which groups hooks and tools come from depends on the manifests and on the list
(`FairyClaw.PluginRegistry.enabled_groups_only_iff`).
-/

namespace FairyClaw

open Foundation

/-- A hook definition of a manifest, and whether its script loads. -/
structure StageHook where
  name : String
  stage : String
  priority : Int := 100
  enabled : Bool := true
  loads : Bool := true
  deriving DecidableEq, Repr

/-- The executor of a hook, from the scripts of a group. -/
structure HookScript where
  hook : String
  group : String
  deriving DecidableEq, Repr

/-- The hook definitions of a group. -/
structure GroupHooks where
  group : String
  hooks : List StageHook
  deriving DecidableEq, Repr

/-- A tool definition, from the manifest of a group. -/
structure ToolOwner where
  tool : String
  group : String
  deriving DecidableEq, Repr

/-- `CapabilityManifest`, with the hooks that it defines. -/
structure CapabilityManifest extends CapabilityGroup where
  hookDefinitions : List StageHook := []
  deriving DecidableEq, Repr

namespace CapabilityManifest

variable (manifest : CapabilityManifest)

/-- The tools of the manifest, each owned by its group. -/
def toolOwners : List ToolOwner := manifest.tools.map fun tool => ⟨tool.name, manifest.name⟩

/-- The hook scripts that load. -/
def hookScripts : List HookScript :=
  (manifest.hookDefinitions.filter StageHook.loads).map fun hook => ⟨hook.name, manifest.name⟩

/-- The hooks of the manifest, under the name of its group. -/
def groupHooks : GroupHooks := ⟨manifest.name, manifest.hookDefinitions⟩

end CapabilityManifest

/-- The registry with the hooks of the groups, and with the group that each tool definition is
from. -/
structure PluginRegistry extends CapabilityRegistry where
  toolOwners : Table ToolOwner.tool := {}
  hooks : Table GroupHooks.group := {}
  hookExecutors : Table HookScript.hook := {}

namespace PluginRegistry

/-- Register a manifest with its tools and hooks. -/
def addManifest (registry : PluginRegistry) (manifest : CapabilityManifest) : PluginRegistry where
  toCapabilityRegistry := registry.toCapabilityRegistry.addGroup manifest.toCapabilityGroup
  toolOwners := manifest.toolOwners.foldl Table.put registry.toolOwners
  hooks := registry.hooks.put manifest.groupHooks
  hookExecutors := manifest.hookScripts.foldl Table.put registry.hookExecutors

/-- `_load_capabilities`, for the manifests in the order of their directories -/
def load (manifests : List CapabilityManifest) : PluginRegistry := manifests.foldl addManifest {}

variable (registry : PluginRegistry)

/-- `self.hooks.get(group_name, [])` -/
def hooksOf (group : String) : List StageHook :=
  ((registry.hooks.get group).map GroupHooks.hooks).getD []

/-- `get_hooks` -/
def getHooks (stage : String) (groupNames : Option (List String)) : List StageHook :=
  -- an empty list counts as a missing one
  let targetNames :=
    match groupNames with
    | none | some [] => registry.groups.rows.map CapabilityGroup.name
    | some names => names
  let result := targetNames.flatMap fun name =>
    (registry.hooksOf name).filter fun hook => hook.stage = stage && hook.enabled
  result.mergeSort fun first second =>
    first.priority < second.priority ||
      (first.priority = second.priority && decide (first.name ≤ second.name))

/-- `get_openai_tools`: the definitions of the visible tools -/
def getOpenaiTools (groupNames : List String) : List ToolOwner :=
  (registry.visibleTools groupNames).filterMap registry.toolOwners.get

/-- `run_stage` of the stage runner: the hooks that it hands to the runtime -/
def stageHooks (enableHookRuntime : Bool) (contextGroups : List String) (stage : String)
    (enabledGroups : Option (List String)) : List (StageHook × HookScript) :=
  let targetGroups := enabledGroups.getD contextGroups
  if enableHookRuntime then
    (registry.getHooks stage (some targetGroups)).filterMap fun hook =>
      (registry.hookExecutors.get hook.name).map fun script => (hook, script)
  else []

end PluginRegistry

/-! ## The manifests behind a registry -/

section Manifests

variable (manifests : List CapabilityManifest)

/-- The manifest of a group is the last with its name. -/
def manifestOf (group : String) : Option CapabilityManifest :=
  manifests.reverse.find? fun manifest => manifest.name = group

/-- The script of a hook name is the last that has been loaded. -/
def scriptOf (hook : String) : Option HookScript :=
  (manifests.flatMap CapabilityManifest.hookScripts).reverse.find? fun script => script.hook = hook

/-- The definition of a tool name is the last. -/
def toolOf (tool : String) : Option ToolOwner :=
  (manifests.flatMap CapabilityManifest.toolOwners).reverse.find? fun owner => owner.tool = tool

/-- A group has an enabled hook of a stage with this script. -/
def HooksInto (stage group : String) (script : HookScript) : Prop :=
  ∃ manifest ∈ manifestOf manifests group, ∃ hook ∈ manifest.hookDefinitions,
    hook.stage = stage ∧ hook.enabled = true ∧ script ∈ scriptOf manifests hook.name

/-- A group has a tool with this definition. -/
def Offers (group : String) (owner : ToolOwner) : Prop :=
  ∃ manifest ∈ manifestOf manifests group, ∃ tool ∈ manifest.tools,
    owner ∈ toolOf manifests tool.name

end Manifests

namespace CapabilityRegistry

/-- Registering a group puts it and its tools into their tables. -/
theorem addGroup_eq (registry : CapabilityRegistry) (group : CapabilityGroup) :
    (registry.addGroup group).groups = registry.groups.put group ∧
      (registry.addGroup group).tools = group.tools.foldl Table.put registry.tools := by
  suffices adds : ∀ (tools : List ToolCapability) (start : CapabilityRegistry),
      (tools.foldl (addTool group.name) start).groups = start.groups ∧
        (tools.foldl (addTool group.name) start).tools = tools.foldl Table.put start.tools from
    adds group.tools { registry with groups := registry.groups.put group }
  intro tools
  induction tools with
  | nil => exact fun start => ⟨rfl, rfl⟩
  | cons tool rest ih => exact fun start => ih (addTool group.name start tool)

end CapabilityRegistry

namespace PluginRegistry

variable (manifests : List CapabilityManifest) {stage group : String} {groups : List String}

/-- Each table of a loaded registry has been written from the manifests in their order. -/
theorem load_eq :
    (load manifests).groups =
      (manifests.map CapabilityManifest.toCapabilityGroup).foldl Table.put {} ∧
    (load manifests).tools =
      (manifests.flatMap fun manifest => manifest.tools).foldl Table.put {} ∧
    (load manifests).toolOwners =
      (manifests.flatMap CapabilityManifest.toolOwners).foldl Table.put {} ∧
    (load manifests).hooks = (manifests.map CapabilityManifest.groupHooks).foldl Table.put {} ∧
    (load manifests).hookExecutors =
      (manifests.flatMap CapabilityManifest.hookScripts).foldl Table.put {} := by
  induction manifests using List.reverseRecOn with
  | nil => exact ⟨rfl, rfl, rfl, rfl, rfl⟩
  | append_singleton earlier manifest ih =>
      obtain ⟨groups, tools, owners, hooks, executors⟩ := ih
      have added := CapabilityRegistry.addGroup_eq (load earlier).toCapabilityRegistry
        manifest.toCapabilityGroup
      have last : load (earlier ++ [manifest]) = (load earlier).addManifest manifest := by
        rw [load, List.foldl_concat, ← load]
      simp only [last, addManifest, added, groups, tools, owners, hooks, executors, List.map_append,
        List.flatMap_append, List.foldl_append, List.map_cons, List.map_nil, List.flatMap_cons,
        List.flatMap_nil, List.append_nil, List.foldl_cons, List.foldl_nil, and_self]

/-- The last of several rows that are made from the manifests. -/
theorem find?_manifests {Row : Type} (key : Row → String) (row : CapabilityManifest → Row)
    (named : ∀ manifest, key (row manifest) = manifest.name) (group : String) :
    ((manifests.map row).reverse.find? fun made => key made = group) =
      (manifestOf manifests group).map row := by
  have same : ((fun made => decide (key made = group)) ∘ row) =
      fun manifest => decide (manifest.name = group) :=
    funext fun manifest => by rw [Function.comp_apply, named]
  rw [manifestOf, ← List.map_reverse, List.find?_map, same]

/-- The manifest of a group is one of the manifests, under its name. -/
theorem of_manifestOf {manifest : CapabilityManifest}
    (own : manifest ∈ manifestOf manifests group) :
    manifest ∈ manifests ∧ manifest.name = group := by
  rw [Option.mem_def, manifestOf] at own
  have named := List.find?_some own
  exact ⟨List.mem_reverse.mp (List.mem_of_find?_eq_some own), of_decide_eq_true named⟩

/-- A registered group is the one of its manifest. -/
theorem get_groups (group : String) : (load manifests).groups.get group =
    (manifestOf manifests group).map CapabilityManifest.toCapabilityGroup := by
  rw [(load_eq manifests).1, Table.get_foldl_put,
    find?_manifests manifests _ _ fun _ => rfl]
  exact Option.or_none

/-- The hooks of a group are those of its manifest. -/
theorem hooksOf_load (group : String) : (load manifests).hooksOf group =
    ((manifestOf manifests group).map CapabilityManifest.hookDefinitions).getD [] := by
  rw [hooksOf, (load_eq manifests).2.2.2.1, Table.get_foldl_put,
    find?_manifests manifests GroupHooks.group CapabilityManifest.groupHooks fun _ => rfl,
    show (({} : Table GroupHooks.group).get group) = none from rfl, Option.or_none, Option.map_map]
  rfl

/-- The executor of a hook is its script. -/
theorem get_hookExecutors (hook : String) :
    (load manifests).hookExecutors.get hook = scriptOf manifests hook := by
  rw [(load_eq manifests).2.2.2.2, Table.get_foldl_put]
  exact Option.or_none

theorem get_toolOwners (tool : String) :
    (load manifests).toolOwners.get tool = toolOf manifests tool := by
  rw [(load_eq manifests).2.2.1, Table.get_foldl_put]
  exact Option.or_none

/-- The groups are those that a manifest is for. -/
theorem mem_groups : group ∈ (load manifests).groups.rows.map CapabilityGroup.name ↔
    (manifestOf manifests group).isSome = true := by
  rw [← Option.isSome_map (f := CapabilityManifest.toCapabilityGroup), ← get_groups,
    Option.isSome_iff_exists, List.mem_map]
  exact exists_congr fun row => Table.get_eq_some.symm

/-- The groups that a list of groups stands for. -/
def Selected (groups : List String) (group : String) : Prop := groups = [] ∨ group ∈ groups

/-- The hooks of a stage are the enabled ones of the selected groups. -/
theorem mem_getHooks {hook : StageHook} :
    hook ∈ (load manifests).getHooks stage (some groups) ↔
      ∃ group, Selected groups group ∧ ∃ manifest ∈ manifestOf manifests group,
        hook ∈ manifest.hookDefinitions ∧ hook.stage = stage ∧ hook.enabled = true := by
  have of_group {group : String} :
      hook ∈ ((load manifests).hooksOf group).filter
          (fun hook => hook.stage = stage && hook.enabled) ↔
        ∃ manifest ∈ manifestOf manifests group,
          hook ∈ manifest.hookDefinitions ∧ hook.stage = stage ∧ hook.enabled = true := by
    rw [List.mem_filter, Bool.and_eq_true, decide_eq_true_eq, hooksOf_load]
    cases manifestOf manifests group with
    | none => simp only [Option.map_none, Option.getD_none, List.not_mem_nil, false_and,
        Option.mem_def, reduceCtorEq, exists_false]
    | some manifest => simp only [Option.map_some, Option.getD_some, Option.mem_def,
        Option.some.injEq, exists_eq_left']
  unfold getHooks
  rw [(List.mergeSort_perm _ _).mem_iff, List.mem_flatMap]
  cases groups with
  | nil =>
      constructor
      · rintro ⟨group, _, member⟩
        exact ⟨group, Or.inl rfl, of_group.mp member⟩
      · rintro ⟨group, _, manifest, found, rest⟩
        exact ⟨group, (mem_groups manifests).mpr (Option.isSome_of_mem found),
          of_group.mpr ⟨manifest, found, rest⟩⟩
  | cons first others =>
      constructor
      · rintro ⟨group, listed, member⟩
        exact ⟨group, Or.inr listed, of_group.mp member⟩
      · rintro ⟨group, listed, member⟩
        exact ⟨group, listed.resolve_left (List.cons_ne_nil _ _), of_group.mpr member⟩

/-- The hooks that are run belong to the selected groups, and so do their scripts by name. -/
theorem mem_stageHooks {enabled : Bool} {context : List String}
    {enabledGroups : Option (List String)} {hook : StageHook} {script : HookScript} :
    (hook, script) ∈ (load manifests).stageHooks enabled context stage enabledGroups ↔
      enabled = true ∧ script ∈ scriptOf manifests hook.name ∧
        ∃ group, Selected (enabledGroups.getD context) group ∧
          ∃ manifest ∈ manifestOf manifests group,
            hook ∈ manifest.hookDefinitions ∧ hook.stage = stage ∧ hook.enabled = true := by
  cases enabled with
  | false => simp only [stageHooks, Bool.false_eq_true, ↓reduceIte, List.not_mem_nil, false_and]
  | true =>
      rw [stageHooks, if_pos rfl, List.mem_filterMap, ← mem_getHooks, and_iff_right rfl]
      constructor
      · rintro ⟨own, member, bound⟩
        obtain ⟨found, stored, same⟩ := Option.map_eq_some_iff.mp bound
        cases same
        exact ⟨(get_hookExecutors manifests hook.name).symm.trans stored, member⟩
      · rintro ⟨stored, member⟩
        refine ⟨hook, member, ?_⟩
        rw [get_hookExecutors, show scriptOf manifests hook.name = some script from stored]
        rfl

/-- A tool that a manifest declares has a definition. -/
theorem mem_tools {manifest : CapabilityManifest} (listed : manifest ∈ manifests)
    {tool : ToolCapability} (member : tool ∈ manifest.tools) :
    tool.name ∈ (load manifests).tools.rows.map ToolCapability.name := by
  have declared : tool ∈ (manifests.flatMap fun manifest => manifest.tools).reverse :=
    List.mem_reverse.mpr (List.mem_flatMap.mpr ⟨manifest, listed, member⟩)
  have stored := @Table.get_foldl_put _ _ _ ToolCapability.name tool.name
    (manifests.flatMap fun manifest => manifest.tools) {}
  rw [← (load_eq manifests).2.1] at stored
  obtain ⟨found, same⟩ := Option.isSome_iff_exists.mp
    (List.find?_isSome (p := fun row : ToolCapability => row.name = tool.name).mpr
      ⟨tool, declared, decide_eq_true rfl⟩)
  rw [same, Option.some_or] at stored
  obtain ⟨row, named⟩ := Table.get_eq_some.mp stored
  exact List.mem_map.mpr ⟨found, row, named⟩

/-- The tools that are offered are those of the listed groups, by name. -/
theorem mem_getOpenaiTools {owner : ToolOwner} :
    owner ∈ (load manifests).getOpenaiTools groups ↔
      ∃ group ∈ groups, Offers manifests group owner := by
  rw [getOpenaiTools, List.mem_filterMap]
  simp only [get_toolOwners, CapabilityRegistry.visibleTools, List.mem_filter, List.mem_flatMap,
    decide_eq_true_eq, List.mem_map]
  constructor
  · rintro ⟨name, ⟨_, row, ⟨stored, listed⟩, tool, member, rfl⟩, found⟩
    rw [Table.mem_rows, get_groups] at stored
    obtain ⟨manifest, own, rfl⟩ := Option.map_eq_some_iff.mp stored
    exact ⟨_, listed, manifest, own, tool, member, found⟩
  · rintro ⟨group, listed, manifest, own, tool, member, found⟩
    obtain ⟨inside, named⟩ := of_manifestOf manifests own
    have stored : manifest.toCapabilityGroup ∈ (load manifests).groups.rows := by
      rw [Table.mem_rows, get_groups, named,
        show manifestOf manifests group = some manifest from own]
      rfl
    exact ⟨tool.name, ⟨List.mem_map.mp (mem_tools manifests inside member), _,
      ⟨stored, named ▸ listed⟩, tool, member, rfl⟩, found⟩

/-- The manifests keep a turn with these groups to them: an empty list meets no hook of the stage,
and no hook or tool of a listed group has the script or the definition of another group. -/
structure Separated (enableHookRuntime : Bool) (stage : String) (groups : List String) : Prop where
  empty : enableHookRuntime = true → groups = [] →
    ∀ group script, ¬ HooksInto manifests stage group script
  scripts : enableHookRuntime = true → ∀ group ∈ groups, ∀ script,
    HooksInto manifests stage group script → script.group ∈ groups
  tools : ∀ group ∈ groups, ∀ owner, Offers manifests group owner → owner.group ∈ groups

/-- **Groups of a turn.** The hooks that run and the tools that are offered come from the groups of
the list, exactly when the manifests keep the turn to them. -/
theorem enabled_groups_only_iff (enableHookRuntime : Bool) (context : List String) (stage : String)
    (groups : List String) :
    ((∀ run ∈ (load manifests).stageHooks enableHookRuntime context stage (some groups),
        (∃ group ∈ groups, run.1 ∈ (load manifests).hooksOf group) ∧ run.2.group ∈ groups) ∧
      ∀ owner ∈ (load manifests).getOpenaiTools groups, owner.group ∈ groups) ↔
    Separated manifests enableHookRuntime stage groups := by
  constructor
  · rintro ⟨hooks, tools⟩
    have runs {group : String} {script : HookScript} (enabled : enableHookRuntime = true)
        (selected : Selected groups group) (into : HooksInto manifests stage group script) :
        script.group ∈ groups := by
      obtain ⟨manifest, own, hook, member, staged, active, bound⟩ := into
      exact (hooks (hook, script) ((mem_stageHooks manifests).mpr
        ⟨enabled, bound, group, selected, manifest, own, member, staged, active⟩)).2
    refine ⟨?_, ?_, ?_⟩
    · rintro enabled rfl group script into
      exact List.not_mem_nil (runs enabled (Or.inl rfl) into)
    · exact fun enabled group listed script into => runs enabled (Or.inr listed) into
    · exact fun group listed owner offered =>
        tools owner ((mem_getOpenaiTools manifests).mpr ⟨group, listed, offered⟩)
  · intro separated
    refine ⟨?_, ?_⟩
    · rintro ⟨hook, script⟩ member
      obtain ⟨enabled, bound, group, selected, manifest, own, listed, staged, active⟩ :=
        (mem_stageHooks manifests).mp member
      have into : HooksInto manifests stage group script :=
        ⟨manifest, own, hook, listed, staged, active, bound⟩
      have inside : group ∈ groups :=
        selected.resolve_left fun none_listed => separated.empty enabled none_listed _ _ into
      refine ⟨⟨group, inside, ?_⟩, separated.scripts enabled group inside script into⟩
      rw [hooksOf_load, show manifestOf manifests group = some manifest from own]
      exact listed
    · intro owner member
      obtain ⟨group, listed, offered⟩ := (mem_getOpenaiTools manifests).mp member
      exact separated.tools group listed owner offered

/-- A group with a tool and a guard. -/
def codeRepairOps : CapabilityManifest where
  name := "CodeRepairOps"
  tools := [{ name := "repair_apply_unified_patch" }]
  hookDefinitions := [{ name := "code_repair_before_tool_call", stage := "before_tool_call" }]

/-- With an empty list of groups the guard of the group runs, and its tool is not offered. -/
theorem empty_list_runs_hooks :
    (load [codeRepairOps]).getOpenaiTools [] = [] ∧
      ¬ ∀ run ∈ (load [codeRepairOps]).stageHooks true [] "before_tool_call" (some []),
        run.2.group ∈ ([] : List String) := by
  decide +kernel

end PluginRegistry

end FairyClaw
