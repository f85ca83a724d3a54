import FairyClaw.Hooks.ContractCheck
import FairyClaw.Session.MetaWriters

/-! # Storage of a delegated contract

The contract of a task is validated when the task is delegated, stored in the metadata of the
sub-session, and validated again by the hooks that check it. The second validation accepts what the
first one returns, and gives the same rules (`FairyClaw.contract_survives_storage`).
-/

namespace FairyClaw

open Foundation Fallible

/-- A rule as it is stored. -/
def DoneRule.toJson (rule : DoneRule) : Json :=
  .obj [("type", .str rule.ruleType), ("args", .obj rule.args)]

/-! ## The validation of a delegation -/

namespace DelegatedContract

/-- A string that is not blank. -/
def isFilled : Option Json → Bool
  | some (.str text) => strip text ≠ ""
  | _ => false

/-- `_validate_rule_args`: the error text, if there is one. -/
def validateRuleArgs (index : Nat) (ruleType : String) (args : JsonObject) : Option String :=
  let place := "done_when[" ++ toString index ++ "]"
  if ruleType = "file_exists" ∨ ruleType = "json_parseable" then
    if isFilled (args.get "path") then none
    else some (place ++ ".args.path is required for " ++ ruleType ++ ".")
  else if ruleType = "json_schema" then
    if !isFilled (args.get "path") then
      some (place ++ ".args.path is required for json_schema.")
    else if ((args.get "schema").bind Json.asObj).isSome || isFilled (args.get "schema_path") then
      none
    else some (place ++ " json_schema needs args.schema or args.schema_path.")
  else if ruleType = "command_exit_code" then
    if !isFilled (args.get "command") then
      some (place ++ ".args.command is required for command_exit_code.")
    else
      match args.get "exit_code" with
      | none | some (.int _) | some (.bool _) => none
      | some _ => some (place ++ ".args.exit_code must be integer when provided.")
  else if ruleType = "text_contains" ∨ ruleType = "text_not_contains" then
    if !isFilled (args.get "path") then
      some (place ++ ".args.path is required for " ++ ruleType ++ ".")
    else
      match args.get "terms" with
      | some (.arr (first :: rest)) =>
          (first :: rest).zipIdx.findSome? fun (term, i) =>
            if isFilled (some term) then none
            else some (place ++ ".args.terms[" ++ toString i ++ "] must be non-empty string.")
      | _ => some (place ++ ".args.terms must be a non-empty array for " ++ ruleType ++ ".")
  else some (place ++ " has unsupported type: " ++ ruleType)

/-- `sorted(ALLOWED_RULE_TYPES)` -/
def sortedRuleTypes : List String :=
  ["command_exit_code", "file_exists", "json_parseable", "json_schema", "text_contains",
    "text_not_contains"]

/-- One turn of the loop of `validate_done_when`. -/
def validateRule (index : Nat) : Json → Except String DoneRule
  | .obj rule =>
      let place := "done_when[" ++ toString index ++ "]"
      if !(rule.all fun entry => entry.1 = "type" || entry.1 = "args") || rule.length ≠ 2 then
        .error (place ++ " must contain exactly 'type' and 'args'.")
      else
        let unsupported := place ++ ".type must be one of: " ++ ", ".intercalate sortedRuleTypes
        match (JsonObject.get rule "type").bind Json.asStr with
        | none => .error unsupported
        | some ruleType =>
            if ruleType ∈ allowedRuleTypes then
              match (JsonObject.get rule "args").bind Json.asObj with
              | none => .error (place ++ ".args must be an object.")
              | some args =>
                  match validateRuleArgs index ruleType args with
                  | some error => .error error
                  | none => .ok { ruleType := ruleType, args := args }
            else .error unsupported
  | _ => .error ("done_when[" ++ toString index ++ "] must be an object.")

/-- `validate_done_when` of the delegation. -/
def validateDoneWhen : Option Json → Except String (List DoneRule)
  | none | some .null => .ok []
  | some (.arr rules) => rules.zipIdx.mapM fun entry => validateRule entry.2 entry.1
  | some _ => .error "done_when must be an array."

variable {index other : Nat} {rule : DoneRule} {ruleType : String} {args : JsonObject}

/-- Whether the arguments are valid does not depend on the place of the rule. -/
theorem validateRuleArgs_congr (valid : validateRuleArgs index ruleType args = none) :
    validateRuleArgs other ruleType args = none := by
  unfold validateRuleArgs at valid ⊢
  split_ifs at valid ⊢ with files path schema filled inline command named texts filled
  · rfl
  · rfl
  · cases given : args.get "exit_code" with
    | none => rfl
    | some value =>
        rw [given] at valid
        cases value with
        | int number => rfl
        | bool flag => rfl
        | null => cases valid
        | float text => cases valid
        | str text => cases valid
        | arr items => cases valid
        | obj fields => cases valid
  · cases given : args.get "terms" with
    | none =>
        rw [given] at valid
        cases valid
    | some value =>
        rw [given] at valid
        cases value with
        | arr terms =>
            cases terms with
            | nil => cases valid
            | cons first rest =>
                simp only [List.findSome?_eq_none_iff] at valid ⊢
                intro entry listed
                have term := valid entry listed
                split at term
                · rename_i full
                  exact if_pos full
                · cases term
        | int number => cases valid
        | bool flag => cases valid
        | null => cases valid
        | float text => cases valid
        | str text => cases valid
        | obj fields => cases valid

/-- An accepted rule has an allowed type and valid arguments. -/
theorem validateRule_spec {raw : Json} (accepted : validateRule index raw = .ok rule) :
    rule.ruleType ∈ allowedRuleTypes ∧ validateRuleArgs index rule.ruleType rule.args = none := by
  cases raw with
  | obj fields =>
      simp only [validateRule] at accepted
      split at accepted
      · cases accepted
      · split at accepted
        · cases accepted
        · split at accepted
          · rename_i allowed
            split at accepted
            · cases accepted
            · split at accepted
              · cases accepted
              · rename_i valid
                cases accepted
                exact ⟨allowed, valid⟩
          · cases accepted
  | _ => cases accepted

/-- An accepted rule is accepted as it is stored, at every place. -/
theorem validateRule_toJson (allowed : rule.ruleType ∈ allowedRuleTypes)
    (valid : validateRuleArgs index rule.ruleType rule.args = none) :
    validateRule other rule.toJson = .ok rule := by
  have type : (JsonObject.get [("type", Json.str rule.ruleType), ("args", .obj rule.args)]
      "type").bind Json.asStr = some rule.ruleType := rfl
  have arguments : (JsonObject.get [("type", Json.str rule.ruleType), ("args", .obj rule.args)]
      "args").bind Json.asObj = some rule.args := rfl
  rw [DoneRule.toJson, validateRule]
  simp only [type, arguments, if_pos allowed, validateRuleArgs_congr valid]
  rfl

end DelegatedContract

/-- The hooks accept a stored rule of an allowed type, whatever its arguments. -/
theorem validateRule_toJson {rule : DoneRule} (index : Nat)
    (allowed : rule.ruleType ∈ allowedRuleTypes) :
    validateRule index rule.toJson = .ok rule := by
  have type : (JsonObject.get [("type", Json.str rule.ruleType), ("args", .obj rule.args)]
      "type").bind Json.asStr = some rule.ruleType := rfl
  have arguments : (JsonObject.get [("type", Json.str rule.ruleType), ("args", .obj rule.args)]
      "args").bind Json.asObj = some rule.args := rfl
  rw [DoneRule.toJson, validateRule]
  simp only [type, arguments, if_pos allowed]
  rfl

/-! ## Lists of rules -/

section Rules

variable {Raw Rule : Type} {check : Nat → Raw → Except String Rule}

/-- Each result comes from an item at some place. -/
theorem accepted_of_mapM : ∀ {items : List Raw} {start : Nat} {rules : List Rule},
    ((items.zipIdx start).mapM fun entry => check entry.2 entry.1) = .ok rules →
      ∀ rule ∈ rules, ∃ index raw, check index raw = .ok rule
  | [], start, rules, accepted => by
      cases accepted
      exact List.forall_mem_nil _
  | item :: items, start, rules, accepted => by
      rw [List.zipIdx_cons, List.mapM_cons] at accepted
      cases first : check start item with
      | error text =>
          rw [first] at accepted
          cases accepted
      | ok rule =>
          rw [first] at accepted
          cases others : (items.zipIdx (start + 1)).mapM fun entry => check entry.2 entry.1 with
          | error text =>
              rw [others] at accepted
              cases accepted
          | ok later =>
              rw [others] at accepted
              cases accepted
              exact List.forall_mem_cons.mpr ⟨⟨start, item, first⟩, accepted_of_mapM others⟩

/-- Rules that are accepted at every place are accepted as a list, in their order. -/
theorem mapM_of_accepted {encode : Rule → Raw} : ∀ {rules : List Rule} {start : Nat},
    (∀ rule ∈ rules, ∀ index, check index (encode rule) = .ok rule) →
      (((rules.map encode).zipIdx start).mapM fun entry => check entry.2 entry.1) = .ok rules
  | [], _, _ => rfl
  | rule :: rules, start, accepted => by
      obtain ⟨first, others⟩ := List.forall_mem_cons.mp accepted
      rw [List.map_cons, List.zipIdx_cons, List.mapM_cons, first, mapM_of_accepted others]
      rfl

end Rules

/-! ## The metadata of a sub-session -/

/-- The rules, as `delegate_task` stores them. -/
def storedRules (rules : List DoneRule) : Json := .arr (rules.map DoneRule.toJson)

/-- The metadata that `delegate_task` gives to a sub-session; `taskType` is `str(task_type)`. -/
def delegatedMeta (mainSessionId workspaceRoot taskType instruction : String)
    (doneWhen : List DoneRule) (nowMs : Int) : JsonObject :=
  [("parent_session_id", .str mainSessionId), ("workspace_root", .str workspaceRoot),
    ("task_type", .str taskType), ("instruction", .str instruction),
    ("subtask_status", .str ("running:" ++ taskType)), ("done_when", storedRules doneWhen),
    ("dc_state", .obj [("false_finish_count", .int 0), ("last_status", .str "initialized"),
      ("last_failed_rules", .arr []), ("last_checked_at_ms", .int nowMs)])]

/-- The metadata that the row can have: those of the delegation, and what any call stores that has
read some of them before, also when other calls have committed since. -/
inductive WrittenMeta (start : JsonObject) : JsonObject → Prop
  | start : WrittenMeta start start
  | edit {read next : JsonObject} (call : MetaCall) : WrittenMeta start read →
      call.edit read = some next → WrittenMeta start next

/-- No other call writes the contract. -/
theorem done_when_not_mem_keys (call : MetaCall) : "done_when" ∉ call.keys := by
  cases call <;> simp [MetaCall.keys, CodeRepair.stateKey]

/-- No call changes the contract. -/
theorem WrittenMeta.get_done_when {start metadata : JsonObject}
    (written : WrittenMeta start metadata) :
    metadata.get "done_when" = start.get "done_when" := by
  induction written with
  | start => rfl
  | edit call _ edited ih =>
      exact (MetaCall.edit_local edited (done_when_not_mem_keys call)).trans ih

/-- **Storage of a contract.** What the validation of a delegation returns, it accepts again and
returns unchanged, and the hooks accept it from the metadata of the sub-session with the same rules
in the same order, whatever other functions have stored there in between. -/
theorem contract_survives_storage (doneWhen : Option Json) (rules : List DoneRule) :
    DelegatedContract.validateDoneWhen doneWhen = .ok rules →
      validateDoneWhen (some (storedRules rules)) = .ok rules ∧
      DelegatedContract.validateDoneWhen (some (storedRules rules)) = .ok rules ∧
      ∀ (mainSessionId workspaceRoot taskType instruction : String) (nowMs : Int)
        (metadata : JsonObject),
        WrittenMeta (delegatedMeta mainSessionId workspaceRoot taskType instruction rules nowMs)
          metadata →
        ∀ (env : HookEnv) (world : HookWorld), world.session = some (.obj metadata) →
          world.doneWhen = rules ∧
          (env.readSession = none → exec (loadDoneWhenAndState env) world =
            ((parseDcState env (metadata.get "dc_state")).map (Prod.mk rules), world)) := by
  intro accepted
  have valid : ∀ rule ∈ rules, rule.ruleType ∈ allowedRuleTypes ∧
      ∃ index, DelegatedContract.validateRuleArgs index rule.ruleType rule.args = none := by
    cases doneWhen with
    | none =>
        cases accepted
        exact List.forall_mem_nil _
    | some value =>
        cases value with
        | null =>
            cases accepted
            exact List.forall_mem_nil _
        | arr items =>
            intro rule listed
            obtain ⟨index, raw, checked⟩ := accepted_of_mapM accepted rule listed
            obtain ⟨allowed, args⟩ := DelegatedContract.validateRule_spec checked
            exact ⟨allowed, index, args⟩
        | _ => cases accepted
  have checked : validateDoneWhen (some (storedRules rules)) = .ok rules :=
    mapM_of_accepted fun rule listed index => validateRule_toJson index (valid rule listed).1
  refine ⟨checked, mapM_of_accepted fun rule listed index => ?_, ?_⟩
  · obtain ⟨allowed, place, args⟩ := valid rule listed
    exact DelegatedContract.validateRule_toJson allowed args
  · intro mainSessionId workspaceRoot taskType instruction nowMs metadata written env world stored
    have read : world.storedMeta = metadata := by rw [HookWorld.storedMeta, stored]; rfl
    have loaded : world.doneWhen = rules := by
      have kept : metadata.get "done_when" = some (storedRules rules) := written.get_done_when
      rw [HookWorld.doneWhen, read, kept, checked]
    refine ⟨loaded, fun readable => ?_⟩
    rw [exec_loadDoneWhenAndState readable, loaded, read]

/-- A report that has to exist and to name its result. -/
def reportRules : List DoneRule :=
  [{ ruleType := "file_exists", args := [("path", .str "report.md")] },
    { ruleType := "text_contains",
      args := [("path", .str "report.md"), ("terms", .arr [.str "Result"])] }]

/-- The metadata of a sub-session with these rules that has been killed. -/
def killedMeta : JsonObject :=
  (delegatedMeta "main" "/workspace" "general" "Write a report." reportRules 1).set
    "subtask_status" (.str "cancelled")

/-- The rules are validated as they are stored, and the hooks load them from the metadata of the
sub-session after it has been killed. -/
theorem contract_survives_storage_report :
    validateDoneWhen (some (storedRules reportRules)) = .ok reportRules ∧
      DelegatedContract.validateDoneWhen (some (storedRules reportRules)) = .ok reportRules ∧
      ∀ env : HookEnv, ({ session := some (.obj killedMeta) } : HookWorld).doneWhen = reportRules ∧
        (env.readSession = none →
          exec (loadDoneWhenAndState env) { session := some (.obj killedMeta) } =
            ((parseDcState env (killedMeta.get "dc_state")).map (Prod.mk reportRules),
              { session := some (.obj killedMeta) })) := by
  obtain ⟨validated, delegated, loads⟩ :=
    contract_survives_storage (some (storedRules reportRules)) reportRules rfl
  have written : WrittenMeta (delegatedMeta "main" "/workspace" "general" "Write a report."
      reportRules 1) killedMeta := .edit .killSubtask .start rfl
  exact ⟨validated, delegated, fun env =>
    loads "main" "/workspace" "general" "Write a report." 1 killedMeta written env _ rfl⟩

end FairyClaw
