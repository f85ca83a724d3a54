import FairyClaw.Config.EnvFile

/-! # Whitelisted environment writes

The control plane writes whitelisted keys to the environment file, and refuses the API token. The
file is rewritten as a whole, without quoting, so the other keys stay, and the token with them, when
all written keys and values are plain (`FairyClaw.whitelisted_env_written`).
-/

namespace FairyClaw

open Foundation

/-- `SYSTEM_ENV_WHITELIST` -/
def systemEnvWhitelist : List String :=
  ["FAIRYCLAW_API_TOKEN", "FAIRYCLAW_DATABASE_URL", "FAIRYCLAW_DATA_DIR", "FAIRYCLAW_HOST",
    "FAIRYCLAW_PORT", "FAIRYCLAW_LLM_ENDPOINTS_CONFIG_PATH", "FAIRYCLAW_FILESYSTEM_ROOT_DIR",
    "FAIRYCLAW_LOG_LEVEL", "FAIRYCLAW_LOG_FILE_PATH", "FAIRYCLAW_LOG_TO_STDOUT",
    "FAIRYCLAW_CAPABILITIES_DIR", "FAIRYCLAW_EVENT_BUS_WORKER_COUNT",
    "FAIRYCLAW_PLANNER_HEARTBEAT_SECONDS", "FAIRYCLAW_PLANNER_WAKEUP_DEBOUNCE_MS",
    "FAIRYCLAW_ROUTER_PROFILE_NAME", "FAIRYCLAW_HOOK_DEFAULT_TIMEOUT_MS",
    "FAIRYCLAW_ENABLE_HOOK_RUNTIME", "FAIRYCLAW_ENABLE_RAG_PIPELINE", "FAIRYCLAW_REINS_ENABLED",
    "FAIRYCLAW_REINS_BUDGET_DAILY_USD", "FAIRYCLAW_REINS_ON_EXCEED"]

/-- `validate_system_env_slice` -/
def validateSystemEnvSlice (data : EnvMap) : EnvMap := data.keep (·.1 ∈ systemEnvWhitelist)

/-- The texts of the values of a request, without the null ones; `str` is the text of a value that
is not a string. -/
def strMap (str : Json → String) (raw : JsonObject) : EnvMap :=
  (raw.filterMap fun (key, value) =>
    match value with
    | .null => none
    | .str text => some (key, text)
    | other => some (key, str other)).foldl Table.put {}

/-- `config.system_env.put`: the file afterwards, or the error text. -/
def systemEnvPut (str : Json → String) (file : Option String) (body : JsonObject) :
    Except String (Option String) :=
  match body.get "env" with
  | some (.obj raw) =>
      let patch := strMap str raw
      if (patch.get "FAIRYCLAW_API_TOKEN").isSome then
        .error "FAIRYCLAW_API_TOKEN cannot be changed via control plane"
      else
        .ok (mergeWhitelistedEnv file (validateSystemEnvSlice patch) systemEnvWhitelist)
  | _ => .error "body.env must be an object"

/-- The entry of a key after whitelisted updates. -/
def overridden (file : Option String) (updates : EnvMap) (whitelist : List String) (name : String) :
    Option (String × String) :=
  if name ∈ whitelist then (updates.get name).or ((readEnvFile file).get name)
  else (readEnvFile file).get name

/-- Nothing is updated, or the whitelisted updates and the values of the other keys are plain. -/
def Writable (file : Option String) (updates : EnvMap) (whitelist : List String) : Prop :=
  whitelisted updates whitelist = [] ∨
    (∀ entry ∈ whitelisted updates whitelist, PlainKey entry.1 ∧ PlainValue entry.2) ∧
    ∀ entry ∈ (readEnvFile file).rows, (entry.1 ∈ whitelist → updates.get entry.1 = none) →
      PlainValue entry.2

instance (file : Option String) (updates : EnvMap) (whitelist : List String) :
    Decidable (Writable file updates whitelist) := inferInstanceAs (Decidable (_ ∨ _))

variable {file : Option String} {updates : EnvMap} {whitelist : List String} {name : String}

/-- The whitelisted updates override the file. -/
theorem get_whitelisted :
    ((whitelisted updates whitelist).foldl Table.put (readEnvFile file)).get name =
      overridden file updates whitelist name := by
  have written := Table.get_foldl_put_rows name (readEnvFile file)
    (updates.keep fun entry => entry.1 ∈ whitelist)
  refine written.trans ?_
  rw [Table.get_keep, overridden]
  cases stored : updates.get name with
  | none => exact (ite_self _).symm
  | some entry =>
      have named := (Table.get_eq_some.mp stored).2
      by_cases listed : name ∈ whitelist
      · simp only [Option.filter_some, named, listed, decide_true, ↓reduceIte]
      · simp only [Option.filter_some, named, listed, decide_false, Bool.false_eq_true, ↓reduceIte,
          Option.none_or]

/-- Without an update the file has its value. -/
theorem overridden_of_none (missing : updates.get name = none) :
    overridden file updates whitelist name = (readEnvFile file).get name := by
  rw [overridden, missing, Option.none_or, ite_self]

/-- The whitelisted updates are those of whitelisted keys. -/
theorem mem_whitelisted {entry : String × String} : entry ∈ whitelisted updates whitelist ↔
    entry.1 ∈ whitelist ∧ updates.get entry.1 = some entry := by
  rw [whitelisted, List.mem_filter, Table.mem_rows, decide_eq_true_eq, and_comm]

/-- The entries after the updates are plain when the updates and the other values are. -/
theorem plain_overridden_iff :
    (∀ entry, overridden file updates whitelist entry.1 = some entry →
      PlainKey entry.1 ∧ PlainValue entry.2) ↔
    (∀ entry ∈ whitelisted updates whitelist, PlainKey entry.1 ∧ PlainValue entry.2) ∧
      ∀ entry ∈ (readEnvFile file).rows, (entry.1 ∈ whitelist → updates.get entry.1 = none) →
        PlainValue entry.2 := by
  constructor
  · intro plain
    refine ⟨fun entry member => plain entry ?_, fun entry member other => (plain entry ?_).2⟩
    · obtain ⟨listed, updated⟩ := mem_whitelisted.mp member
      rw [overridden, if_pos listed, updated, Option.some_or]
    · have stored := Table.mem_rows.mp member
      by_cases listed : entry.1 ∈ whitelist
      · rw [overridden_of_none (other listed), stored]
      · rw [overridden, if_neg listed, stored]
  · rintro ⟨written, kept⟩ entry stored
    have old (stored : (readEnvFile file).get entry.1 = some entry)
        (other : entry.1 ∈ whitelist → updates.get entry.1 = none) :
        PlainKey entry.1 ∧ PlainValue entry.2 :=
      ⟨(readEnvFile_spec stored).1, kept entry (Table.mem_rows.mpr stored) other⟩
    by_cases listed : entry.1 ∈ whitelist
    · rw [overridden, if_pos listed] at stored
      rcases Option.or_eq_some_iff.mp stored with updated | ⟨missing, stored⟩
      · exact written entry (mem_whitelisted.mpr ⟨listed, updated⟩)
      · exact old stored fun _ => missing
    · rw [overridden, if_neg listed] at stored
      exact old stored fun inside => absurd inside listed

/-- The file has the values it should when they can be written. -/
theorem mergeWhitelistedEnv_iff (file : Option String) (updates : EnvMap) (whitelist : List String) :
    (∀ name, (readEnvFile (mergeWhitelistedEnv file updates whitelist)).get name =
      overridden file updates whitelist name) ↔ Writable file updates whitelist := by
  have merged (name : String) :
      ((whitelisted updates whitelist).foldl Table.put (readEnvFile file)).get name =
        overridden file updates whitelist name := get_whitelisted
  unfold mergeWhitelistedEnv Writable
  simp only
  cases filtered : whitelisted updates whitelist with
  | nil =>
      rw [filtered] at merged
      exact iff_of_true merged (Or.inl rfl)
  | cons first rest =>
      rw [filtered] at merged
      rw [List.isEmpty_cons, if_neg Bool.false_ne_true, or_iff_right (List.cons_ne_nil _ _),
        ← filtered, ← plain_overridden_iff]
      rw [← filtered] at merged
      simp only [← merged]
      rw [readEnvFile_write_iff]
      exact forall_congr' fun entry => by rw [Table.mem_rows]

/-- **Whitelisted writes.** The file afterwards gives the previous mapping with the whitelisted
updates exactly when nothing is updated or all that is written is plain. A request of the control
plane then changes whitelisted keys of its patch only, and not the API token. -/
theorem whitelisted_env_written (file : Option String) (updates : EnvMap)
    (whitelist : List String) :
    ((∀ name, (readEnvFile (mergeWhitelistedEnv file updates whitelist)).get name =
      overridden file updates whitelist name) ↔ Writable file updates whitelist) ∧
    ∀ (str : Json → String) (body : JsonObject) (raw : JsonObject) (after : Option String),
      body.get "env" = some (.obj raw) → systemEnvPut str file body = .ok after →
        let patch := validateSystemEnvSlice (strMap str raw)
        ((∀ name, (readEnvFile after).get name = overridden file patch systemEnvWhitelist name) ↔
          Writable file patch systemEnvWhitelist) ∧
        (Writable file patch systemEnvWhitelist →
          (∀ name, patch.get name = none →
            (readEnvFile after).get name = (readEnvFile file).get name) ∧
          (readEnvFile after).get "FAIRYCLAW_API_TOKEN" =
            (readEnvFile file).get "FAIRYCLAW_API_TOKEN") := by
  refine ⟨mergeWhitelistedEnv_iff file updates whitelist, ?_⟩
  intro str body raw after asked accepted patch
  rw [systemEnvPut, asked] at accepted
  simp only at accepted
  split at accepted
  · cases accepted
  · rename_i refused
    cases accepted
    have written := mergeWhitelistedEnv_iff file patch systemEnvWhitelist
    refine ⟨written, fun writable => ?_⟩
    have kept (name : String) (missing : patch.get name = none) :
        (readEnvFile (mergeWhitelistedEnv file patch systemEnvWhitelist)).get name =
          (readEnvFile file).get name :=
      (written.mpr writable name).trans (overridden_of_none missing)
    refine ⟨kept, kept _ ?_⟩
    rw [Option.not_isSome_iff_eq_none] at refused
    exact Table.get_keep.trans (by rw [refused, Option.filter_none])

/-- A file with the token of the installation. -/
def tokenFile : Option String := some "FAIRYCLAW_API_TOKEN=secret\n"

/-- A request for another log level. -/
def logLevelPatch (level : String) : JsonObject := [("FAIRYCLAW_LOG_LEVEL", .str level)]

/-- A new log level leaves the token as it is. -/
theorem whitelisted_env_written_level : ∃ after,
    systemEnvPut (fun _ => "") tokenFile [("env", .obj (logLevelPatch "DEBUG"))] = .ok after ∧
      (readEnvFile after).get "FAIRYCLAW_API_TOKEN" =
        (readEnvFile tokenFile).get "FAIRYCLAW_API_TOKEN" := by
  have updated : whitelisted (validateSystemEnvSlice (strMap (fun _ => "") (logLevelPatch "DEBUG")))
      systemEnvWhitelist = [("FAIRYCLAW_LOG_LEVEL", "DEBUG")] := by decide +kernel
  have before : (readEnvFile tokenFile).rows = [("FAIRYCLAW_API_TOKEN", "secret")] := by
    decide +kernel
  have writable : Writable tokenFile
      (validateSystemEnvSlice (strMap (fun _ => "") (logLevelPatch "DEBUG"))) systemEnvWhitelist := by
    refine Or.inr ⟨?_, ?_⟩
    · rw [updated]
      simp only [List.forall_mem_singleton]
      decide +kernel
    · rw [before]
      simp only [List.forall_mem_singleton]
      exact fun _ => by decide +kernel
  refine ⟨_, rfl, ?_⟩
  exact ((whitelisted_env_written tokenFile {} []).2 (fun _ => "")
    [("env", .obj (logLevelPatch "DEBUG"))] (logLevelPatch "DEBUG") _ rfl rfl).2 writable |>.2

/-- A value with a line break sets the token that the operation refuses to set. -/
theorem token_overwritten : ∃ after,
    systemEnvPut (fun _ => "") tokenFile
      [("env", .obj (logLevelPatch "INFO\nFAIRYCLAW_API_TOKEN=evil"))] = .ok after ∧
    (readEnvFile tokenFile).get "FAIRYCLAW_API_TOKEN" = some ("FAIRYCLAW_API_TOKEN", "secret") ∧
    (readEnvFile after).get "FAIRYCLAW_API_TOKEN" = some ("FAIRYCLAW_API_TOKEN", "evil") := by
  exact ⟨_, rfl, by decide, by decide +kernel⟩

end FairyClaw
