import FairyClaw.Hooks.CodeRepair
import FairyClaw.Repair.UnifiedPatch

/-! # The tools of code repair

Evidence is collected, a patch is applied, checks are run and artifacts are written. Each tool reads
the state of the repair in the session's metadata before it works, and stores it afterwards, with
the phase that follows; a tool that answers with an error stores nothing.
-/

namespace FairyClaw.CodeRepair

open Foundation Fallible

/-- What a tool finds outside of its session. -/
structure RepairHost where
  env : HookEnv
  workspaceRoot : Option String := none
  repr : String → String := id
  dumpsIndented : Json → String := fun _ => ""
  fileHash : String → Except PyError String := fun _ => .ok ""
  fileSize : String → Except PyError Int := fun _ => .ok 0
  writeText : String → String → Except PyError Unit := fun _ _ => .ok ()
  runShell : String → String → Except PyError (Int × String × String) := fun _ _ => .ok (0, "", "")
  search : String → String → Option Bool := fun _ _ => some false

/-- `resolve_workspace_root` with the context's workspace as its fallback. -/
def RepairHost.root (host : RepairHost) (stored : JsonObject) : String :=
  orElse (host.env.text (stored.get "workspace_root"))
    (orElse (strip (host.workspaceRoot.getD "")) host.env.cwd)

/-- What a tool does between reading and storing the state of the repair: it answers at once, or
hands on a state to store and what it returns then. -/
abbrev ToolWork :=
  JsonObject → JsonObject → Except PyError (Except String (JsonObject × Except PyError String))

/-- A tool of code repair, once its arguments are there. -/
def repairTool (env : HookEnv) (work : ToolWork) : HookM String := do
  let stored ← loadSessionMeta env
  let state ← loadState env
  match ← ofExcept (work stored state) with
  | .error answer => return answer
  | .ok (next, reply) =>
      saveState env next
      ofExcept reply

/-- `str.splitlines` -/
def textLines (text : String) : List String := (splitlines text.toList).map String.ofList

/-! ## Evidence -/

/-- `lines[-limit:]` -/
def lastLines (limit : Int) (lines : List String) : List String :=
  if 0 < limit then lines.drop (lines.length - limit.toNat) else lines.drop (-limit).toNat

/-- The patterns that are looked for when none are given. -/
def defaultPatterns : List String := ["AssertionError", "Traceback", "FAILED", "ERROR", "E   "]

/-- A line that a pattern is found in, or that contains a pattern that is no regular expression. -/
def matchesLine (host : RepairHost) (line pattern : String) : Bool :=
  (host.search pattern line).getD (contains line pattern)

/-- `_extract_lines` -/
def extractLines (host : RepairHost) (lines patterns : List String) : List String :=
  let patterns := if patterns = [] then defaultPatterns else patterns
  let out := (lines.filter fun line => patterns.any (matchesLine host line)).map strip
  (out.foldl (fun dedup line => if line ∈ dedup then dedup else dedup ++ [line]) []).take 20

/-- The beginnings that a command for evidence may have. -/
def evidencePrefixes : List String :=
  ["pytest", "python", "python3", "git status", "git diff", "git log", "git merge-base",
    "git rev-parse", "rg", "ls", "cat", "sed -n", "pwd"]

/-- What a command for evidence may not contain. -/
def evidenceBlocked : List String :=
  [">", ">>", "<<", "|", "&&", ";", "tee ", "chmod ", "chown ", "rm ", "mv ", "cp ", "touch "]

/-- `_is_safe_evidence_command` -/
def isSafeEvidenceCommand (command : String) : Bool :=
  let normalized := strip command
  normalized ≠ "" && evidencePrefixes.any (startsWith normalized) &&
    !evidenceBlocked.any (contains normalized)

/-- `[str(x) for x in raw]` of a list, and nothing of anything else. -/
def textItems (env : HookEnv) : Option Json → List String
  | some (.arr items) => items.map env.str
  | _ => []

/-- A list of texts as JSON. -/
def strings (lines : List String) : Json := .arr (lines.map .str)

/-- Evidence from a command: its fields, or the answer that refuses it. -/
def commandEvidence (host : RepairHost) (workspaceRoot : String) (limit : Int)
    (patterns : List String) (args : JsonObject) :
    Except PyError (Except String JsonObject) := do
  let command := host.env.text (args.get "command")
  if command = "" then return .error "Error: command is required when mode=command."
  else if !isSafeEvidenceCommand command then
    return .error "Error: command is not allowed for repair_collect_evidence (read/test-only)."
  else
    let cwd := host.env.text (args.get "cwd")
    let cwdPath ← if cwd = "" then .ok workspaceRoot else resolvePath host.env workspaceRoot cwd
    let (code, stdout, stderr) ← host.runShell command cwdPath
    let lines := lastLines limit (textLines (stdout ++ "\n" ++ stderr))
    let extracted := extractLines host lines patterns
    return .ok [("command", .str command), ("cwd", .str cwdPath), ("exit_code", .int code),
      ("failure_signature", .str (extracted.head?.getD (lines.getLast?.getD ""))),
      ("captured_lines", strings lines), ("extracted_lines", strings extracted)]

/-- One log: its fields, and the lines that are extracted from it. -/
def scanLog (host : RepairHost) (workspaceRoot : String) (limit : Int) (patterns : List String)
    (raw : String) : Except PyError (JsonObject × List String) := do
  let path ← resolvePath host.env workspaceRoot raw
  if ← host.env.isFile path then
    let lines := lastLines limit (textLines (← host.env.readText path))
    let extracted := extractLines host lines patterns
    return ([("path", .str path), ("extracted_lines", strings extracted),
      ("tail_lines", strings (lastLines 20 lines))], extracted)
  else return ([("path", .str path), ("error", .str "not_file")], [])

/-- Evidence from logs: its fields, or the answer that refuses it. -/
def logEvidence (host : RepairHost) (workspaceRoot : String) (limit : Int)
    (patterns targets : List String) : Except PyError (Except String JsonObject) := do
  if targets = [] then return .error "Error: targets is required when mode=log_scan."
  else
    let scans ← targets.mapM (scanLog host workspaceRoot limit patterns)
    let signature := ((scans.map Prod.snd).find? fun lines => lines ≠ []).bind List.head?
    return .ok [("scans", .arr (scans.map fun scan => .obj scan.1)),
      ("failure_signature", .str (signature.getD ""))]

/-- What is known of one file. -/
def snapshot (host : RepairHost) (workspaceRoot raw : String) : Except PyError Json := do
  let path ← resolvePath host.env workspaceRoot raw
  if ← host.env.pathExists path then
    if ← host.env.isFile path then
      let hash ← host.fileHash path
      let size ← host.fileSize path
      return .obj [("path", .str path), ("exists", .bool true), ("hash", .str hash),
        ("size", .int size)]
    else return .obj [("path", .str path), ("exists", .bool true), ("type", .str "dir")]
  else return .obj [("path", .str path), ("exists", .bool false)]

/-- `int(args.get("capture_limit", 120) or 120)` -/
def captureLimit (env : HookEnv) (args : JsonObject) : Except PyError Int :=
  match (args.get "capture_limit").filter Json.truthy with
  | none => .ok 120
  | some (.int limit) => .ok limit
  | some value => env.intOf value

/-- What a mode finds, or the answer that refuses it. -/
def gatherEvidence (host : RepairHost) (workspaceRoot mode : String) (args : JsonObject) :
    Except PyError (Except String JsonObject) := do
  let limit ← captureLimit host.env args
  let patterns := textItems host.env (args.get "extract_patterns")
  let targets := textItems host.env (args.get "targets")
  if mode = "command" then commandEvidence host workspaceRoot limit patterns args
  else if mode = "log_scan" then logEvidence host workspaceRoot limit patterns targets
  else
    let snapshots ← targets.mapM (snapshot host workspaceRoot)
    return .ok [("snapshots", .arr snapshots)]

/-- The state after evidence has been collected. -/
def evidenceState (env : HookEnv) (mode : String) (found state : JsonObject) : JsonObject :=
  let previous := phaseOf env state
  let phase :=
    if (mode = "command" ∨ mode = "log_scan") ∧ previous = "reproduce" then "patch" else previous
  let signature := orElse (env.strOrEmpty (found.get "failure_signature"))
    (env.strOrEmpty (state.get "last_failure_signature"))
  (((state.set "phase" (.str phase)).set "last_failure_signature" (.str signature)).set
    "last_tool_name" (.str "repair_collect_evidence")).set "last_tool_status" (.str "ok")

/-- The mode that the arguments ask for. -/
def evidenceMode (env : HookEnv) (args : JsonObject) : String := lower (env.text (args.get "mode"))

/-- The part of `repair_collect_evidence` between loading and saving the state. -/
def evidenceWork (host : RepairHost) (args : JsonObject) : ToolWork := fun stored state => do
  let mode := evidenceMode host.env args
  let workspaceRoot := host.root stored
  match ← gatherEvidence host workspaceRoot mode args with
  | .error answer => return .error answer
  | .ok found =>
      return .ok (evidenceState host.env mode found state, .ok (host.env.dumps (.obj
        ([("mode", .str mode), ("workspace_root", .str workspaceRoot)] ++ found))))

/-- `execute` of `repair_collect_evidence` -/
def repairCollectEvidence (host : RepairHost) (args : JsonObject) : HookM String :=
  if evidenceMode host.env args ∈ ["command", "log_scan", "file_snapshot"] then
    repairTool host.env (evidenceWork host args)
  else return "Error: mode must be one of command|log_scan|file_snapshot."

/-! ## Patches -/

/-- `_changed_line_count` -/
def changedLineCount (before after : String) : Nat :=
  let beforeLines := textLines before
  let afterLines := textLines after
  (List.range (max beforeLines.length afterLines.length)).countP fun index =>
    beforeLines[index]? ≠ afterLines[index]?

/-- `max_changed_lines` -/
def maxChangedLines : Nat := 60

/-- The new text of a file that may be patched and the number of its changed lines, or the answer
that refuses the patch. -/
def patchedText (host : RepairHost) (workspaceRoot path patchText : String) :
    Except PyError (Except String (String × Nat)) := do
  if !(← host.env.isFile path) then return .error ("Error: target file not found: " ++ path)
  else if isProtectedPath host.env path workspaceRoot then
    return .error ("Error: protected path cannot be edited: " ++ path)
  else
    let source ← host.env.readText path
    if source ≠ "" ∧ ¬ ((splitlines patchText.toList).any isRemoval) then
      return .error
        "Error: unified patch must contain at least one removal line for existing files."
    else
      match applyPatch source.toList patchText.toList with
      | .error detail => return .error ("Error: failed to apply patch: " ++ detail)
      | .ok updated =>
          let changed := changedLineCount source (String.ofList updated)
          if maxChangedLines < changed then
            return .error ("Error: changed lines exceed max policy. changed_lines=" ++
              toString changed ++ ", max_changed_lines=" ++ toString maxChangedLines)
          else return .ok (String.ofList updated, changed)

/-- The part of `repair_apply_unified_patch` between loading and saving the state. -/
def patchWork (host : RepairHost) (args : JsonObject) : ToolWork := fun stored state => do
  let workspaceRoot := host.root stored
  let path ← resolvePath host.env workspaceRoot (host.env.text (args.get "file_path"))
  match ← patchedText host workspaceRoot path (host.env.strOrEmpty (args.get "patch_text")) with
  | .error answer => return .error answer
  | .ok (updated, changed) =>
      host.writeText path updated
      return .ok (((state.set "phase" (.str "verify")).set "last_tool_name"
          (.str "repair_apply_unified_patch")).set "last_tool_status" (.str "ok"),
        (host.fileHash path).map fun hash => host.env.dumps (.obj [("ok", .bool true),
          ("file_path", .str path), ("changed_lines", .int changed), ("new_hash", .str hash)]))

/-- `execute` of `repair_apply_unified_patch` -/
def repairApplyUnifiedPatch (host : RepairHost) (args : JsonObject) : HookM String :=
  if host.env.text (args.get "file_path") = "" ∨ host.env.strOrEmpty (args.get "patch_text") = ""
  then return "Error: file_path and patch_text are required."
  else repairTool host.env (patchWork host args)

/-! ## Checks -/

/-- The result of a check. -/
structure CheckResult where
  name : String
  type : String
  passed : Bool
  detail : String
  exitCode : Option Int := none

/-- The result as the answer shows it. -/
def CheckResult.toJson (result : CheckResult) : Json :=
  .obj ([("name", .str result.name), ("type", .str result.type), ("passed", .bool result.passed),
    ("detail", .str result.detail)] ++
      (result.exitCode.map fun code => [("exit_code", Json.int code)]).getD [])

/-- The beginnings that a command of a check may have. -/
def commandPrefixes : List String :=
  ["pytest", "python", "python3", "test ", "git status", "git diff", "git log", "git merge-base",
    "git rev-parse", "sed -n", "rg", "ls", "cat", "pwd"]

/-- What a command of a check may not contain. -/
def blockedTokens : List String :=
  [" sed -i", " rm ", " mv ", " cp ", " touch ", " tee ", " >", ">>"]

/-- What a `python -c` command of a check may not contain. -/
def mutatingSnippets : List String :=
  ["open(", ".write(", "pathlib.path(", "write_text(", "append(", "unlink(", "rename(", "replace(",
    "mkdir(", "rmdir("]

/-- `_command_policy_violation` -/
def commandPolicyViolation (command : String) : Option String :=
  let lowered := lower command
  if contains command "&&" || contains command "||" || contains command ";" then
    some "command not allowed by policy: command chaining is forbidden"
  else if blockedTokens.any (contains (" " ++ lowered ++ " ")) then
    some "command not allowed by policy: mutating shell command is forbidden"
  else if (startsWith lowered "python -c" || startsWith lowered "python3 -c") &&
      mutatingSnippets.any (contains lowered) then
    some "command not allowed by policy: mutating python -c command is forbidden"
  else none

section Checks

variable (host : RepairHost) (workspaceRoot name type : String) (args : JsonObject)

/-- `int(args.get("exit_code", 0))` -/
def expectedCode : Except PyError Int :=
  match args.get "exit_code" with
  | none => .ok 0
  | some (.int code) => .ok code
  | some value => host.env.intOf value

/-- `_run_check` of the type `command` -/
def checkCommand : Except PyError CheckResult := do
  let command := host.env.text (args.get "command")
  let expected ← expectedCode host args
  if command = "" then return ⟨name, type, false, "command is required", none⟩
  else if !commandPrefixes.any (startsWith command) then
    return ⟨name, type, false, "command not allowed by policy", none⟩
  else
    match commandPolicyViolation command with
    | some problem => return ⟨name, type, false, problem, none⟩
    | none =>
        let code ← host.env.commandExitCode command workspaceRoot
        return ⟨name, type, code = expected,
          "exit_code=" ++ toString code ++ ", expected=" ++ toString expected, some code⟩

/-- `_run_check` of the type `file_hash_unchanged` -/
def checkHash : Except PyError CheckResult := do
  let filePath := host.env.text (args.get "file_path")
  let expected := host.env.text (args.get "expected_hash")
  if filePath = "" ∨ expected = "" then
    return ⟨name, type, false, "file_path and expected_hash required", none⟩
  else
    let target ← resolvePath host.env workspaceRoot filePath
    if ← host.env.isFile target then
      let got ← host.fileHash target
      return ⟨name, type, got = expected, "hash=" ++ got, none⟩
    else return ⟨name, type, false, "not file: " ++ target, none⟩

/-- `_run_check` of the type `text_contains` -/
def checkTerms : Except PyError CheckResult := do
  let filePath := host.env.text (args.get "file_path")
  match args.get "terms" with
  | some (.arr terms) =>
      if filePath = "" then
        return ⟨name, type, false, "file_path and terms[] required", none⟩
      else
        let target ← resolvePath host.env workspaceRoot filePath
        if ← host.env.isFile target then
          let text ← host.env.readText target
          let missed := (terms.map host.env.str).filter fun term => !contains text term
          let detail := if missed = [] then "ok" else
            "missing terms: [" ++ ", ".intercalate (missed.map host.repr) ++ "]"
          return ⟨name, type, missed = [], detail, none⟩
        else return ⟨name, type, false, "not file: " ++ target, none⟩
  | _ => return ⟨name, type, false, "file_path and terms[] required", none⟩

/-- `_run_check` of the type `text_first_line_startswith` -/
def checkFirstLine : Except PyError CheckResult := do
  let filePath := host.env.text (args.get "file_path")
  let start := host.env.text (args.get "prefix")
  if filePath = "" ∨ start = "" then
    return ⟨name, type, false, "file_path and prefix required", none⟩
  else
    let target ← resolvePath host.env workspaceRoot filePath
    if ← host.env.isFile target then
      let text ← host.env.readText target
      let first := (((textLines text).map strip).find? fun line => line ≠ "").getD ""
      return ⟨name, type, startsWith first start, "first_line=" ++ host.repr first, none⟩
    else return ⟨name, type, false, "not file: " ++ target, none⟩

/-- `_run_check` of the type `git_ancestor` -/
def checkAncestor : Except PyError CheckResult := do
  let ancestor := host.env.text (args.get "ancestor")
  let descendant := host.env.text (args.get "descendant")
  if ancestor = "" ∨ descendant = "" then
    return ⟨name, type, false, "ancestor and descendant required", none⟩
  else
    let code ← host.env.commandExitCode
      ("git merge-base --is-ancestor " ++ ancestor ++ " " ++ descendant) workspaceRoot
    return ⟨name, type, code = 0,
      if code = 0 then "ok" else "merge-base rc=" ++ toString code, none⟩

end Checks

/-- `_run_check` -/
def runCheck (host : RepairHost) (workspaceRoot : String) : Json → Except PyError CheckResult
  | .obj fields =>
      let raw : JsonObject := fields
      let name := orElse (host.env.strOrEmpty (raw.get "name")) "unnamed"
      let type := host.env.strOrEmpty (raw.get "type")
      let args :=
        match raw.get "args" with
        | some (.obj args) => args
        | _ => raw.filter fun entry => entry.1 ≠ "name" ∧ entry.1 ≠ "type"
      match type with
      | "command" => checkCommand host workspaceRoot name type args
      | "file_hash_unchanged" => checkHash host workspaceRoot name type args
      | "text_contains" => checkTerms host workspaceRoot name type args
      | "text_first_line_startswith" => checkFirstLine host workspaceRoot name type args
      | "git_ancestor" => checkAncestor host workspaceRoot name type args
      | _ => .ok ⟨name, type, false, "unsupported check type: " ++ type, none⟩
  | _ => .ok ⟨"unknown", "unknown", false, "check must be an object", none⟩

/-- The checks in turn, up to the first that fails if it is to stop there. -/
def runChecks (host : RepairHost) (workspaceRoot : String) (stopOnFail : Bool) :
    List Json → Except PyError (List CheckResult)
  | [] => .ok []
  | raw :: rest => do
      let item ← runCheck host workspaceRoot raw
      if !item.passed && stopOnFail then return [item]
      else return item :: (← runChecks host workspaceRoot stopOnFail rest)

/-- The reasons of the checks that have failed. -/
def failReasons (results : List CheckResult) : List String :=
  (results.filter fun result => !result.passed).map fun result =>
    result.name ++ ": " ++ result.detail

/-- The state after checks with these results. -/
def verifiedState (results : List CheckResult) (state : JsonObject) : JsonObject :=
  let allPassed := results.all CheckResult.passed
  ((((state.set "phase" (.str (if allPassed then "report" else "patch"))).set
    "verification_passed" (.bool allPassed)).set
    "last_tool_name" (.str "repair_run_verification")).set
    "last_tool_status" (.str (if allPassed then "ok" else "failed"))).set
    "gate_fail_reasons"
      (if allPassed then .arr []
        else strings ("verification_not_passed" :: (failReasons results).take 6))

/-- The part of `repair_run_verification` between loading and saving the state. -/
def verificationWork (host : RepairHost) (args : JsonObject) (checks : List Json) : ToolWork :=
  fun stored state => do
    let results ← runChecks host (host.root stored)
      ((args.get "stop_on_fail").any Json.truthy) checks
    return .ok (verifiedState results state, .ok (host.env.dumps (.obj [("ok", .bool true),
      ("all_passed", .bool (results.all CheckResult.passed)),
      ("results", .arr (results.map CheckResult.toJson)),
      ("fail_reasons", strings (failReasons results))])))

/-- `execute` of `repair_run_verification` -/
def repairRunVerification (host : RepairHost) (args : JsonObject) : HookM String :=
  match args.get "checks" with
  | some (.arr (first :: rest)) =>
      repairTool host.env (verificationWork host args (first :: rest))
  | _ => return "Error: checks must be a non-empty array."

/-! ## Artifacts -/

/-- `f"{state.get(key, '')}"` -/
def shown (env : HookEnv) (state : JsonObject) (key : String) : String :=
  ((state.get key).map env.str).getD ""

/-- The verdict as a report shows it. -/
def verdictText (state : JsonObject) : String :=
  if isTruthy (state.get "verification_passed") then "passed" else "failed"

/-- `_render_content` -/
def renderContent (host : RepairHost) (artifactType content : String) (state : JsonObject) :
    String :=
  match artifactType with
  | "progress_md" =>
      "# Progress Report\n\n## Task\ncode_repair\n\n## Root Cause\n" ++
        shown host.env state "last_failure_signature" ++
        "\n\n## Steps\n- Reproduce failure\n- Apply patch\n- Re-run verification" ++
        "\n\n## Verification\n" ++ verdictText state ++ "\n"
  | "review_txt" => "APPROVE\n" ++ content ++ "\n"
  | "rca_md" =>
      "# RCA Report\n\n## Symptom\n" ++ content ++ "\n\n## Root Cause\n" ++
        shown host.env state "last_failure_signature" ++
        "\n\n## Fix\nApplied repair patch.\n\n## Verification\n" ++ verdictText state ++ "\n"
  | "runtime_summary_json" => host.dumpsIndented (.obj [("repair_state", .obj state)]) ++ "\n"
  | _ => content

/-- The state after an artifact has been written. -/
def reportedState (path : String) (produced : List Json) (state : JsonObject) : JsonObject :=
  let listed := if produced.any fun item => item.asStr = some path then produced
    else produced ++ [.str path]
  (((state.set "produced_artifacts" (.arr listed)).set "phase" (.str "report")).set
    "last_tool_name" (.str "repair_write_artifacts")).set "last_tool_status" (.str "ok")

/-- The part of `repair_write_artifacts` between loading and saving the state. -/
def artifactWork (host : RepairHost) (args : JsonObject) : ToolWork := fun stored state => do
  let artifactType := host.env.text (args.get "artifact_type")
  let path ← resolvePath host.env (host.root stored) (host.env.text (args.get "output_path"))
  host.writeText path
    (renderContent host artifactType (host.env.strOrEmpty (args.get "content")) state)
  match listOrEmpty (state.get "produced_artifacts") with
  | none => throw (.other "object is not iterable")
  | some produced =>
      return .ok (reportedState path produced state, .ok (host.env.dumps (.obj
        [("ok", .bool true), ("output_path", .str path),
          ("artifact_type", .str artifactType)])))

/-- `execute` of `repair_write_artifacts` -/
def repairWriteArtifacts (host : RepairHost) (args : JsonObject) : HookM String :=
  if host.env.text (args.get "artifact_type") = "" ∨ host.env.text (args.get "output_path") = ""
  then return "Error: artifact_type and output_path are required."
  else repairTool host.env (artifactWork host args)

end FairyClaw.CodeRepair
