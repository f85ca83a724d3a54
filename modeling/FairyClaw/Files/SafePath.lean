import FairyClaw.Foundation.FileTree
import FairyClaw.Foundation.Python

/-! # Safe paths

A tool that is given a path resolves it against the roots that its session may use. Where no links
run in a circle, `resolve_safe_path` accepts a path exactly when the place it leads to lies under
the place that an allowed root leads to, and returns that place, which is settled
(`FairyClaw.resolve_safe_path_exact`).
-/

namespace FairyClaw

open Foundation

/-- The working directory of the process, and how it shows texts and other values. -/
structure PathHost where
  cwd : List String := []
  repr : String → String := id
  str : Json → String := fun _ => ""

/-- A tree of files with bytes. -/
abbrev HostTree := FileTree String (List UInt8)

/-- A component of a path: nothing and a dot stay, two dots go up. -/
def pathSegment (part : String) : PathSegment String :=
  if part = "" ∨ part = "." then .here else if part = ".." then .up else .name part

/-- The components of a path. -/
def pathSegments (path : String) : List (PathSegment String) :=
  (path.toList.splitOn '/').map fun part => pathSegment (String.ofList part)

/-- `os.path.isabs` -/
def isAbs (path : String) : Bool := startsWith path "/"

/-- `os.path.join` -/
def joinPath (first second : String) : String :=
  if isAbs second then second
  else if first = "" ∨ first.toList.getLast? = some '/' then first ++ second
  else first ++ "/" ++ second

/-- A segment, read without looking at the tree. -/
def lexicalStep (place : List String) : PathSegment String → List String
  | .here => place
  | .up => place.dropLast
  | .name name => place ++ [name]

/-- `os.path.abspath` -/
def abspath (host : PathHost) (path : String) : List String :=
  (pathSegments path).foldl lexicalStep (if isAbs path then [] else host.cwd)

/-- `os.path.realpath` of a path made absolute, unless it runs into a circle of links. -/
def realpath (host : PathHost) (tree : HostTree) (path : String) : Option (List String) :=
  follow tree.links tree.links.places.length [] ((abspath host path).map .name)

/-- The absolute path of a place. -/
def pathText (place : List String) : String := "/" ++ "/".intercalate place

/-- `SafeFilesystemPath`: a path, and the root it is resolved under. -/
structure SafeFilesystemPath where
  path : List String
  root : List String

/-- The path that a relative one stands for. -/
def basedPath (path : String) : Option String → String
  | some base => if isAbs path then path else joinPath base path
  | none => path

/-- `from_raw`: both paths are resolved, the path against its base. -/
def SafeFilesystemPath.resolve (host : PathHost) (tree : HostTree) (path rootDir : String)
    (baseDir : Option String) : Option SafeFilesystemPath := do
  let resolvedPath ← realpath host tree (basedPath path baseDir)
  let resolvedRoot ← realpath host tree rootDir
  return { path := resolvedPath, root := resolvedRoot }

/-- `is_within_root`: the path is the root or lies under it. -/
def SafeFilesystemPath.isWithinRoot (safe : SafeFilesystemPath) : Bool :=
  safe.root.isPrefixOf safe.path

/-- The roots that a session may use, out of its context. -/
structure PathContext where
  sessionId : String := ""
  filesystemRootDir : Option String := none
  workspaceRoot : Option String := none
  deriving DecidableEq

/-- A setting that is not blank. -/
def stated (setting : Option String) : Option String :=
  (setting.map strip).filter fun text => text ≠ ""

/-- The roots that a session may use, without repetitions. -/
def PathContext.allowedRoots (context : PathContext) : List String :=
  let global := (stated context.filesystemRootDir).toList
  match stated context.workspaceRoot with
  | some workspace => if workspace ∈ global then global else global ++ [workspace]
  | none => global

/-- Why a path is not accepted: a message, a value that is no text, or a circle of links. -/
inductive PathRefusal
  | denied (message : String)
  | untyped
  | looped
  deriving DecidableEq

/-- The error when a session has no root. -/
def noRootsText : String :=
  "Error: Neither FAIRYCLAW_FILESYSTEM_ROOT_DIR nor workspace_root is configured."

/-- The error when a path lies outside of all roots. -/
def outsideText (host : PathHost) (tree : HostTree) (path : String) (roots : List String) :
    String :=
  "Path " ++ host.repr path ++ " is outside allowed roots: " ++
    ", ".intercalate (roots.map fun root =>
      host.repr (pathText ((realpath host tree root).getD []))) ++ "."

/-- The first root that the path lies in. -/
def firstWithin (host : PathHost) (tree : HostTree) (path : String) (baseDir : Option String)
    (refusal : PathRefusal) : List String → Except PathRefusal SafeFilesystemPath
  | [] => .error refusal
  | root :: rest =>
      match SafeFilesystemPath.resolve host tree path root baseDir with
      | none => .error .looped
      | some safe =>
          if safe.isWithinRoot then .ok safe else firstWithin host tree path baseDir refusal rest

/-- `resolve_safe_path`; a path with NUL, which makes the system calls raise, is left out. -/
def resolveSafePath (host : PathHost) (tree : HostTree) (context : PathContext) (path : String) :
    Except PathRefusal SafeFilesystemPath :=
  let roots := context.allowedRoots
  if roots = [] then .error (.denied noRootsText)
  else
    firstWithin host tree path (stated context.workspaceRoot)
      (.denied (outsideText host tree path roots)) roots

/-! ## Where paths lead -/

/-- The place that a path leads to. -/
def PathLeads (host : PathHost) (tree : HostTree) (path : String) (place : List String) : Prop :=
  Leads tree.links [] ((abspath host path).map .name) place

variable {host : PathHost} {tree : HostTree} {path : String} {place : List String}
  {context : PathContext}

/-- The real path is the place to which the path leads. -/
theorem realpath_eq_some_iff : realpath host tree path = some place ↔
    PathLeads host tree path place :=
  follow_eq_some_iff

/-- A path leads to a settled place. -/
theorem PathLeads.settled (leads : PathLeads host tree path place) : Settled tree.links place :=
  Leads.settled leads settled_root

/-- Roots that do not hold the place come before the one that does. -/
theorem firstWithin_spec {baseDir : Option String} (refusal : PathRefusal)
    (loopless : Loopless tree.links) (leads : PathLeads host tree (basedPath path baseDir) place) :
    ∀ roots : List String,
      (∃ safe, firstWithin host tree path baseDir refusal roots = .ok safe ∧ safe.path = place ∧
        safe.root <+: place ∧ ∃ root ∈ roots, PathLeads host tree root safe.root) ∨
      (firstWithin host tree path baseDir refusal roots = .error refusal ∧
        ∀ root ∈ roots, ∀ other, PathLeads host tree root other → ¬ other <+: place) := by
  intro roots
  induction roots with
  | nil =>
      refine Or.inr ⟨rfl, ?_⟩
      rintro _ ⟨⟩
  | cons root rest ih =>
      obtain ⟨held, rooted⟩ := loopless.leads ((abspath host root).map .name) []
      have resolved : SafeFilesystemPath.resolve host tree path root baseDir =
          some { path := place, root := held } := by
        rw [SafeFilesystemPath.resolve, realpath_eq_some_iff.mpr leads,
          (realpath_eq_some_iff.mpr rooted : realpath host tree root = some held)]
        rfl
      rw [firstWithin, resolved]
      by_cases inside : held <+: place
      · refine Or.inl ⟨_, if_pos (List.isPrefixOf_iff_prefix.mpr inside), rfl, inside, root,
          List.mem_cons_self, rooted⟩
      · have outside : ¬ (held.isPrefixOf place = true) :=
          fun within => inside (List.isPrefixOf_iff_prefix.mp within)
        have skips : (if SafeFilesystemPath.isWithinRoot { path := place, root := held } then
            .ok { path := place, root := held }
          else firstWithin host tree path baseDir refusal rest) =
            firstWithin host tree path baseDir refusal rest := if_neg outside
        simp only [skips]
        rcases ih with ⟨safe, accepted, same, within, other, member, root⟩ | ⟨refused, none⟩
        · exact Or.inl ⟨safe, accepted, same, within, other, List.mem_cons_of_mem _ member, root⟩
        · refine Or.inr ⟨refused, fun other member found leadsTo => ?_⟩
          rcases List.mem_cons.mp member with rfl | later
          · rw [leadsTo.unique rooted]
            exact inside
          · exact none other later found leadsTo

/-- **Safe paths.** Where no links run in a circle, a path leads to one place, and resolving it
either returns that place, settled and under the place of an allowed root, or refuses it with a
text, if it lies under the place of none. -/
theorem resolve_safe_path_exact (host : PathHost) (tree : HostTree) (loopless : Loopless tree.links)
    (context : PathContext) (path : String) :
    ∃ place, PathLeads host tree (basedPath path (stated context.workspaceRoot)) place ∧
      ((∃ safe, resolveSafePath host tree context path = .ok safe ∧ safe.path = place ∧
        Settled tree.links safe.path ∧ safe.root <+: safe.path ∧
        ∃ root ∈ context.allowedRoots, PathLeads host tree root safe.root) ∨
      (∃ message, resolveSafePath host tree context path = .error (.denied message) ∧
        ∀ root ∈ context.allowedRoots, ∀ other, PathLeads host tree root other →
          ¬ other <+: place)) := by
  obtain ⟨place, leads⟩ := loopless.leads
    ((abspath host (basedPath path (stated context.workspaceRoot))).map .name) []
  refine ⟨place, leads, ?_⟩
  by_cases bare : context.allowedRoots = []
  · refine Or.inr ⟨noRootsText, if_pos bare, ?_⟩
    rw [bare]
    rintro _ ⟨⟩
  · have resolves : resolveSafePath host tree context path =
        firstWithin host tree path (stated context.workspaceRoot)
          (.denied (outsideText host tree path context.allowedRoots)) context.allowedRoots :=
      if_neg bare
    rw [resolves]
    rcases firstWithin_spec (.denied (outsideText host tree path context.allowedRoots)) loopless
      leads context.allowedRoots with ⟨safe, accepted, same, within, rooted⟩ | ⟨refused, none⟩
    · refine Or.inl ⟨safe, accepted, same, ?_, same ▸ within, rooted⟩
      rw [same]
      exact PathLeads.settled leads
    · exact Or.inr ⟨_, refused, none⟩

/-- A directory with a link that leads out of it. -/
def linkedTree : HostTree where
  table := {
    rows := [([], .directory), (["w"], .directory), (["w", "up"], .link ⟨false, [.up]⟩)]
    unique := by decide }
  root := rfl
  closed := by
    intro place name stored
    obtain ⟨row, stored⟩ := Option.isSome_iff_exists.mp stored
    obtain ⟨member, same⟩ := Table.get_eq_some.mp stored
    rcases List.mem_cons.mp member with rfl | member
    · exact absurd same.symm (List.concat_ne_nil name place)
    · rcases List.mem_cons.mp member with rfl | member
      · have front := (congrArg List.dropLast same).symm
        rw [List.dropLast_concat] at front
        subst front
        rfl
      · obtain rfl := List.mem_singleton.mp member
        have front := (congrArg List.dropLast same).symm
        rw [List.dropLast_concat] at front
        subst front
        rfl

/-- No links of the example run in a circle. -/
theorem loopless_linkedTree : Loopless linkedTree.links := by
  intro place name target linked
  have stands : linkedTree.node (place ++ [name]) = some (.link target) := by
    have found : linkedTree.linkTarget (place ++ [name]) = some target := linked
    unfold FileTree.linkTarget at found
    split at found
    · next stands => cases found; exact stands
    · cases found
  have stored : linkedTree.table.get (place ++ [name]) = _ :=
    (FileTree.get_eq _).trans (congrArg _ stands)
  obtain ⟨member, same⟩ := Table.get_eq_some.mp stored
  have listed : (place ++ [name], FileNode.link target) ∈ [([], FileNode.directory),
      (["w"], .directory), (["w", "up"], .link ⟨false, [.up]⟩)] := member
  rcases List.mem_cons.mp listed with first | later
  · cases congrArg Prod.snd first
  · rcases List.mem_cons.mp later with second | last
    · cases congrArg Prod.snd second
    · cases congrArg Prod.snd (List.mem_singleton.mp last)
      exact ⟨_, _, .up (.done _)⟩

/-- A session with one root. -/
def workspace : PathContext := { workspaceRoot := some "/w" }

/-- A path that a link leads out of the workspace is refused. -/
theorem resolve_safe_path_linkedTree :
    ∃ place, PathLeads {} linkedTree "/w/up/etc" place ∧
      ∀ root ∈ workspace.allowedRoots, ∀ other, PathLeads {} linkedTree root other →
        ¬ other <+: place := by
  obtain ⟨place, leads, ⟨safe, accepted, _⟩ | ⟨_, _, outside⟩⟩ :=
    resolve_safe_path_exact {} linkedTree loopless_linkedTree workspace "/w/up/etc"
  · have refused :
        (resolveSafePath {} linkedTree workspace "/w/up/etc").toOption.isSome = false := by decide
    rw [accepted] at refused
    cases refused
  · exact ⟨place, leads, outside⟩

end FairyClaw
