import FairyClaw.Foundation.Table
import FairyClaw.Planning.TurnCourse

/-! # Capability groups and the tool runtime

A registry is filled from the manifests of the capability groups. The groups of a turn are resolved
by the kind of the session, and the tools shown to the model are those of the resolved groups. The
tool runtime looks an executor up by the name of the tool alone (`FairyClaw.ToolRuntime.locate`).
-/

namespace FairyClaw

open Foundation

/-- A tool of a manifest, and whether the executor of its script loads. -/
structure ToolCapability where
  name : String
  loads : Bool := true
  deriving DecidableEq, Repr

/-- A capability group, as the tools of a turn depend on it. -/
structure CapabilityGroup where
  name : String
  alwaysEnablePlanner : Bool := false
  alwaysEnableSubagent : Bool := false
  tools : List ToolCapability := []
  deriving DecidableEq, Repr

/-- The executor of a tool, from the scripts of a group. -/
structure ToolExecutor where
  tool : String
  group : String
  deriving DecidableEq, Repr

/-- `CapabilityRegistry`, as far as tools are concerned. -/
structure CapabilityRegistry where
  groups : Table CapabilityGroup.name := {}
  tools : Table ToolCapability.name := {}
  toolExecutors : Table ToolExecutor.tool := {}

namespace CapabilityRegistry

/-- Register a tool; an executor that does not load leaves an earlier one. -/
def addTool (group : String) (registry : CapabilityRegistry) (tool : ToolCapability) :
    CapabilityRegistry :=
  { registry with
    tools := registry.tools.put tool
    toolExecutors :=
      if tool.loads then registry.toolExecutors.put ⟨tool.name, group⟩
      else registry.toolExecutors }

/-- Register a group with its tools. -/
def addGroup (registry : CapabilityRegistry) (group : CapabilityGroup) : CapabilityRegistry :=
  group.tools.foldl (addTool group.name) { registry with groups := registry.groups.put group }

/-- `_load_capabilities`, for the manifests in the order of their directories -/
def load (manifests : List CapabilityGroup) : CapabilityRegistry := manifests.foldl addGroup {}

variable (registry : CapabilityRegistry)

/-- `resolve_enabled_groups` -/
def resolveEnabledGroups (selectedGroups : Option (List String)) (isSubSession : Bool) :
    List String :=
  let always := (registry.groups.rows.filter fun group =>
    if isSubSession then group.alwaysEnableSubagent else group.alwaysEnablePlanner).map
      CapabilityGroup.name
  match selectedGroups with
  | none => always.eraseDups
  | some selected =>
      (always ++ selected.filter fun name => (registry.groups.get name).isSome).eraseDups

/-- The names in `get_openai_tools`: the tools that a group with one of these names holds. -/
def visibleTools (groupNames : List String) : List String :=
  let targetGroups := registry.groups.rows.filter (·.name ∈ groupNames)
  let allowed := targetGroups.flatMap fun group => group.tools.map ToolCapability.name
  (registry.tools.rows.map ToolCapability.name).filter (· ∈ allowed)

end CapabilityRegistry

/-- `_resolve_tools_for_session` -/
def CapabilityRegistry.resolveToolsForSession (registry : CapabilityRegistry) (kind : SessionKind)
    (selectedGroups : Option (List String)) : List String :=
  match kind with
  | .main => registry.resolveEnabledGroups none false
  | .sub _ => registry.resolveEnabledGroups selectedGroups true

/-- The runtime, with the texts that `json.loads` reads. -/
structure ToolRuntime where
  registry : CapabilityRegistry
  loads : String → Bool

namespace ToolRuntime

variable (runtime : ToolRuntime)

/-- The executor that `execute` calls, or the error text. -/
def locate (request : LlmToolCallRequest) : Except String ToolExecutor :=
  match runtime.registry.toolExecutors.get request.name with
  | none => .error ("Error: Tool '" ++ request.name ++ "' not found.")
  | some executor =>
      if runtime.loads request.argumentsJson then .ok executor
      else .error "Error: Invalid JSON arguments."

/-- `execute`, with what the executors do. -/
def tool (runs : ToolExecutor → TurnCourse → LlmToolCallRequest → ToolRun) (course : TurnCourse)
    (request : LlmToolCallRequest) : ToolRun :=
  match runtime.locate request with
  | .ok executor => runs executor course request
  | .error text => { steps := [], result := .ok text }

end ToolRuntime

/-- The tool call that an event hands to the runtime. -/
def CourseEvent.request : CourseEvent → Option LlmToolCallRequest
  | .executed request => some request
  | _ => none

namespace TurnCourse

/-- The tool calls that a turn has handed to the runtime. -/
def requests (course : TurnCourse) : List LlmToolCallRequest :=
  course.events.filterMap CourseEvent.request

/-- The executors that a turn has run. -/
def executors (course : TurnCourse) (runtime : ToolRuntime) : List ToolExecutor :=
  course.requests.filterMap fun request => (runtime.locate request).toOption

end TurnCourse

end FairyClaw
