import FairyClaw.Config.EnvFile
import FairyClaw.Foundation.Machine
import FairyClaw.Hooks.Runtime

/-! # Extraction of session memory

After every response the hook counts the turn, and some turns trigger an extraction, which clears
the counters. The counters are about all turns since the last extraction, and the transcript is that
of the present turn alone. So an extraction that is triggered by the first counted turn covers what
has been counted (`FairyClaw.extractions_cover`), and any other one only as far as its turn repeats
the earlier ones (`FairyClaw.extraction_covers_iff`).
-/

namespace FairyClaw

open Foundation

/-- The settings of the session memory that decide when an extraction is triggered. -/
structure ExtractionConfig where
  extractTriggerMessageCount : Int := 8
  extractTriggerTokenCount : Int := 2500
  extractTriggerToolRoundCount : Int := 3
  extractCooldownTurns : Int := 2

/-- The counters of the turns since the last extraction. -/
structure ExtractionState where
  sinceMessages : Int := 0
  sinceTokens : Int := 0
  sinceToolRounds : Int := 0
  cooldown : Int := 0
  deriving DecidableEq, Repr

/-- What the checkpoint file holds. -/
inductive CheckpointFile
  | absent
  | unreadable
  | document (content : Json)

/-- What a run of the hook finds: the token counter, the conversions, the text of `MEMORY.md`, and
what the file system and the model raise before, in and after the extraction. -/
structure ExtractionSetting where
  countText : String → Nat
  loads : String → Option Json
  intOf : Json → Except IntError Int
  memoryText : String := ""
  read : Option PyError := none
  migrate : Option PyError := none
  prepare : Option PyError := none
  extract : Option PyError := none
  write : Option PyError := none

/-- The lines of a turn. -/
def buildTranscript (payload : AfterLlmResponseHookPayload) : String :=
  let said :=
    match payload.messageText with
    | some text => if strip text = "" then [] else ["assistant: " ++ strip text]
    | none => []
  String.intercalate "\n" (said ++ payload.toolCalls.map fun call =>
    "tool_call: " ++ call.name ++ " args=" ++ call.argumentsJson)

namespace ExtractionState

/-- An entry of a checkpoint, as a number that is not negative. -/
def entry (intOf : Json → Except IntError Int) (raw : JsonObject) (key : String) :
    Except PyError Int :=
  match raw.get key with
  | none => .ok 0
  | some value =>
      match pyInt intOf value with
      | .ok number => .ok (max 0 number)
      | .error (.typeOrValue _) => .ok 0
      | .error (.overflow message) => .error (.other message)

/-- `_coerce_state` -/
def coerce (intOf : Json → Except IntError Int) (raw : JsonObject) :
    Except PyError ExtractionState := do
  return {
    sinceMessages := ← entry intOf raw "since_messages"
    sinceTokens := ← entry intOf raw "since_tokens"
    sinceToolRounds := ← entry intOf raw "since_tool_rounds"
    cooldown := ← entry intOf raw "cooldown" }

/-- The document that `save_extraction_checkpoint` writes. -/
def saved (state : ExtractionState) : Json :=
  .obj [("since_messages", .int (max 0 state.sinceMessages)),
    ("since_tokens", .int (max 0 state.sinceTokens)),
    ("since_tool_rounds", .int (max 0 state.sinceToolRounds)),
    ("cooldown", .int (max 0 state.cooldown))]

/-- The turn is counted. -/
def count (state : ExtractionState) (tokens toolCalls : Nat) : ExtractionState :=
  { state with
    sinceMessages := state.sinceMessages + 1
    sinceTokens := state.sinceTokens + tokens
    sinceToolRounds := state.sinceToolRounds + toolCalls }

/-- `_should_trigger_llm` -/
def shouldTriggerLlm (state : ExtractionState) (cfg : ExtractionConfig) : Bool :=
  if 0 < state.cooldown then false
  else
    cfg.extractTriggerMessageCount ≤ state.sinceMessages ||
      cfg.extractTriggerTokenCount ≤ state.sinceTokens ||
      cfg.extractTriggerToolRoundCount ≤ state.sinceToolRounds

/-- The state after an extraction. -/
def cleared (cfg : ExtractionConfig) : ExtractionState :=
  { cooldown := cfg.extractCooldownTurns }

/-- The state after a turn without an extraction. -/
def cooled (state : ExtractionState) : ExtractionState :=
  if 0 < state.cooldown then { state with cooldown := max 0 (state.cooldown - 1) } else state

end ExtractionState

namespace ExtractionSetting

variable (setting : ExtractionSetting)

/-- `LEGACY_MEMORY_CHECKPOINT_PREFIX` -/
def legacyMarker : String := "<!-- session_memory_checkpoint -->"

/-- `migrate_legacy_checkpoint_from_memory_md`: the last checkpoint line of `MEMORY.md` -/
def migrateLegacy : Except PyError (Option ExtractionState) :=
  let lines := (splitLines isLineBreak setting.memoryText.toList).map fun line =>
    strip (String.ofList line)
  match lines.reverse.find? (startsWith · legacyMarker) with
  | none => .ok none
  | some line =>
      let raw := strip (String.ofList (line.toList.drop legacyMarker.toList.length))
      match if raw = "" then some (.obj []) else setting.loads raw with
      | some (.obj fields) => (ExtractionState.coerce setting.intOf fields).map some
      | _ => .ok none

/-- `_load_checkpoint_state`: the counters, and the checkpoint file after a migration -/
def loadCheckpointState (file : CheckpointFile) :
    Except PyError (ExtractionState × CheckpointFile) :=
  match setting.read, file with
  | some error, _ => .error error
  | none, .unreadable => .ok ({}, file)
  | none, .document (.obj raw) =>
      (ExtractionState.coerce setting.intOf raw).map fun state => (state, file)
  | none, .document _ => .ok ({}, file)
  | none, .absent =>
      match setting.migrateLegacy, setting.migrate with
      | .error error, _ => .error error
      | .ok none, _ => .ok ({}, file)
      | .ok (some _), some error => .error error
      | .ok (some state), none => .ok (state, .document state.saved)

end ExtractionSetting

/-- The end of a run of the hook: its status or what it raises, the transcript that it has given to
an extraction, and the checkpoint file. -/
structure ExtractionOutcome where
  status : Except PyError HookStatus
  given : Option String := none
  file : CheckpointFile

/-- A run of the hook in its setting. -/
structure ExtractionRun where
  setting : ExtractionSetting
  cfg : ExtractionConfig := {}
  payload : AfterLlmResponseHookPayload

namespace ExtractionRun

variable (run : ExtractionRun)

/-- The transcript that the hook gives to the model. -/
def transcript : String := buildTranscript run.payload

/-- The counters with the present turn. -/
def counted (state : ExtractionState) : ExtractionState :=
  state.count (run.setting.countText run.transcript) run.payload.toolCalls.length

/-- `_save_checkpoint_state`, at the end of the hook -/
def save (given : Option String) (state : ExtractionState) (file : CheckpointFile) :
    ExtractionOutcome :=
  match run.setting.write with
  | some error => { status := .error error, given := given, file := file }
  | none => { status := .ok .ok, given := given, file := .document state.saved }

/-- `execute_hook` -/
def executeHook (file : CheckpointFile) : ExtractionOutcome :=
  if strip run.transcript = "" then { status := .ok .skip, file := file }
  else
    match run.setting.loadCheckpointState file with
    | .error error => { status := .error error, file := file }
    | .ok (stored, file) =>
        let state := run.counted stored
        if state.shouldTriggerLlm run.cfg then
          match run.setting.prepare, run.setting.extract with
          | some error, _ => { status := .error error, file := file }
          | none, some error =>
              { status := .error error, given := some run.transcript, file := file }
          | none, none => run.save (some run.transcript) (.cleared run.cfg) file
        else run.save none state.cooled file

end ExtractionRun

/-! ## What is counted and what is extracted -/

/-- An extraction: the transcripts of the turns that were counted for it, and the transcript that it
is given. -/
structure Extraction where
  counted : List String
  given : String
  deriving DecidableEq

/-- What has been counted is in the given transcript. -/
def Extraction.Covers (extraction : Extraction) : Prop :=
  ∀ fragment ∈ extraction.counted, fragment.toList <:+: extraction.given.toList

/-- The checkpoint file, with the transcripts that its counters are about and the extractions so
far. -/
structure ExtractionLog where
  file : CheckpointFile
  counted : List String := []
  extractions : List Extraction := []

/-- A run of the hook counts its turn when it saves the counters, unless it has cleared them. -/
def ExtractionLog.after (log : ExtractionLog) (run : ExtractionRun) : ExtractionLog :=
  let outcome := run.executeHook log.file
  let counted := log.counted ++ [run.transcript]
  { file := outcome.file
    counted :=
      match outcome.status, outcome.given with
      | .ok .ok, none => counted
      | .ok .ok, some _ => []
      | _, _ => log.counted
    extractions := log.extractions ++
      match outcome.given with
      | some given => [{ counted := counted, given := given }]
      | none => [] }

/-- The runs of the hook in a session, from any checkpoint file. -/
def sessionExtraction : Machine ExtractionLog ExtractionRun where
  initial log := log.counted = [] ∧ log.extractions = []
  step log run := some (log.after run)

/-- An extraction is triggered only where no turn has been counted before. -/
def Prompt (log : ExtractionLog) (run : ExtractionRun) : Prop :=
  strip run.transcript ≠ "" → ∀ state file,
    run.setting.loadCheckpointState log.file = .ok (state, file) →
      (run.counted state).shouldTriggerLlm run.cfg = true → state.sinceMessages = 0

/-- The stored counter of the turns is at least the number of those that it is about. -/
def Counts (log : ExtractionLog) : Prop :=
  log.counted = [] ∨ ∃ state : ExtractionState,
    log.file = .document state.saved ∧ (log.counted.length : Int) ≤ state.sinceMessages

section Checkpoints

variable {intOf : Json → Except IntError Int} {setting : ExtractionSetting}
  {state loaded : ExtractionState} {file after : CheckpointFile}

/-- A counter that is read is not negative. -/
theorem entry_nonneg {raw : JsonObject} {key : String} {number : Int}
    (read : ExtractionState.entry intOf raw key = .ok number) : 0 ≤ number := by
  unfold ExtractionState.entry at read
  split at read
  · cases read
    exact le_rfl
  · split at read
    · cases read
      exact le_max_left _ _
    · cases read
      exact le_rfl
    · cases read

/-- A stored integer is read, bounded below by zero. -/
theorem entry_int {raw : JsonObject} {key : String} {number : Int}
    (stored : raw.get key = some (.int number)) :
    ExtractionState.entry intOf raw key = .ok (max 0 number) := by
  unfold ExtractionState.entry
  rw [stored]
  rfl

/-- The message counter of a state is the entry of that name. -/
theorem coerce_sinceMessages {raw : JsonObject}
    (read : ExtractionState.coerce intOf raw = .ok state) :
    ExtractionState.entry intOf raw "since_messages" = .ok state.sinceMessages := by
  unfold ExtractionState.coerce at read
  cases messages : ExtractionState.entry intOf raw "since_messages" with
  | error error =>
      rw [messages] at read
      cases read
  | ok number =>
      cases tokens : ExtractionState.entry intOf raw "since_tokens" with
      | error error =>
          rw [messages, tokens] at read
          cases read
      | ok tokenNumber =>
          cases rounds : ExtractionState.entry intOf raw "since_tool_rounds" with
          | error error =>
              rw [messages, tokens, rounds] at read
              cases read
          | ok roundNumber =>
              cases cooldown : ExtractionState.entry intOf raw "cooldown" with
              | error error =>
                  rw [messages, tokens, rounds, cooldown] at read
                  cases read
              | ok turns =>
                  rw [messages, tokens, rounds, cooldown] at read
                  cases read
                  rfl

/-- The message counter of a state is not negative. -/
theorem sinceMessages_nonneg {raw : JsonObject}
    (read : ExtractionState.coerce intOf raw = .ok state) : 0 ≤ state.sinceMessages :=
  entry_nonneg (coerce_sinceMessages read)

/-- The message counter of a migrated state is not negative. -/
theorem migrateLegacy_nonneg (migrated : setting.migrateLegacy = .ok (some state)) :
    0 ≤ state.sinceMessages := by
  unfold ExtractionSetting.migrateLegacy at migrated
  dsimp only at migrated
  split at migrated
  · cases migrated
  · split at migrated
    · next fields _ =>
        cases coerced : ExtractionState.coerce setting.intOf fields with
        | error error =>
            rw [coerced] at migrated
            cases migrated
        | ok value =>
            rw [coerced] at migrated
            cases migrated
            exact sinceMessages_nonneg coerced
    · cases migrated

/-- The counters are new, or those of the file, or migrated. -/
theorem load_cases (read : setting.loadCheckpointState file = .ok (state, after)) :
    (after = file ∧ ((state = {} ∧ ∀ raw, file ≠ .document (.obj raw)) ∨
      ∃ raw, file = .document (.obj raw) ∧ ExtractionState.coerce setting.intOf raw = .ok state)) ∨
    (file = .absent ∧ setting.migrateLegacy = .ok (some state)) := by
  unfold ExtractionSetting.loadCheckpointState at read
  split at read
  · cases read
  · cases read
    exact .inl ⟨rfl, .inl ⟨rfl, nofun⟩⟩
  · next raw _ =>
      cases coerced : ExtractionState.coerce setting.intOf raw with
      | error error =>
          rw [coerced] at read
          cases read
      | ok value =>
          rw [coerced] at read
          cases read
          exact .inl ⟨rfl, .inr ⟨raw, rfl, coerced⟩⟩
  · next content other _ =>
      cases read
      refine .inl ⟨rfl, .inl ⟨rfl, fun raw document => ?_⟩⟩
      cases document
      exact other raw rfl
  · split at read
    · cases read
    · cases read
      exact .inl ⟨rfl, .inl ⟨rfl, nofun⟩⟩
    · cases read
    · next migrated _ =>
        cases read
        exact .inr ⟨rfl, migrated⟩

/-- The message counter that the hook loads is not negative. -/
theorem load_nonneg (read : setting.loadCheckpointState file = .ok (state, after)) :
    0 ≤ state.sinceMessages := by
  rcases load_cases read with ⟨_, ⟨rfl, _⟩ | ⟨raw, _, coerced⟩⟩ | ⟨_, migrated⟩
  · exact le_rfl
  · exact sinceMessages_nonneg coerced
  · exact migrateLegacy_nonneg migrated

/-- A checkpoint that the hook has written is read back. -/
theorem load_saved
    (read : setting.loadCheckpointState (.document state.saved) = .ok (loaded, after)) :
    loaded.sinceMessages = max 0 state.sinceMessages ∧ after = .document state.saved := by
  rcases load_cases read with ⟨rfl, ⟨_, other⟩ | ⟨raw, document, coerced⟩⟩ | ⟨missing, _⟩
  · exact absurd rfl (other _)
  · have stored : JsonObject.get raw "since_messages" =
        some (.int (max 0 state.sinceMessages)) := by
      cases document
      rfl
    have read := (coerce_sinceMessages coerced).symm.trans (entry_int stored)
    exact ⟨(Except.ok.inj read).trans (max_eq_right (le_max_left _ _)), rfl⟩
  · cases missing

end Checkpoints

/-- What a run of the hook does. -/
theorem executeHook_cases (run : ExtractionRun) (file : CheckpointFile) :
    let outcome := run.executeHook file
    (outcome.status ≠ .ok .ok ∧ outcome.given = none ∧ outcome.file = file) ∨
    strip run.transcript ≠ "" ∧ ∃ state loaded,
      run.setting.loadCheckpointState file = .ok (state, loaded) ∧
      ((outcome.status ≠ .ok .ok ∧ outcome.file = loaded ∧
          (outcome.given = none ∨ outcome.given = some run.transcript ∧
            (run.counted state).shouldTriggerLlm run.cfg = true)) ∨
        (outcome.status = .ok .ok ∧ outcome.given = none ∧
          outcome.file = .document (run.counted state).cooled.saved) ∨
        (outcome.status = .ok .ok ∧ outcome.given = some run.transcript ∧
          (run.counted state).shouldTriggerLlm run.cfg = true)) := by
  intro outcome
  by_cases blank : strip run.transcript = ""
  · have ends : outcome = { status := .ok .skip, file := file } := if_pos blank
    rw [ends]
    exact .inl ⟨nofun, rfl, rfl⟩
  · cases read : run.setting.loadCheckpointState file with
    | error error =>
        have ends : outcome = { status := .error error, file := file } := by
          simp only [outcome, ExtractionRun.executeHook, if_neg blank, read]
        rw [ends]
        exact .inl ⟨nofun, rfl, rfl⟩
    | ok counters =>
        obtain ⟨state, loaded⟩ := counters
        refine .inr ⟨blank, state, loaded, rfl, ?_⟩
        cases triggered : (run.counted state).shouldTriggerLlm run.cfg with
        | false =>
            have ends : outcome = run.save none (run.counted state).cooled loaded := by
              simp only [outcome, ExtractionRun.executeHook, if_neg blank, read, triggered,
                Bool.false_eq_true, ↓reduceIte]
            rw [ends, ExtractionRun.save]
            cases run.setting.write with
            | some error => exact .inl ⟨nofun, rfl, .inl rfl⟩
            | none => exact .inr (.inl ⟨rfl, rfl, rfl⟩)
        | true =>
            cases prepared : run.setting.prepare with
            | some error =>
                have ends : outcome = { status := .error error, file := loaded } := by
                  simp only [outcome, ExtractionRun.executeHook, if_neg blank, read, triggered,
                    prepared, ↓reduceIte]
                rw [ends]
                exact .inl ⟨nofun, rfl, .inl rfl⟩
            | none =>
                cases extracted : run.setting.extract with
                | some error =>
                    have ends : outcome =
                        { status := .error error
                          given := some run.transcript
                          file := loaded } := by
                      simp only [outcome, ExtractionRun.executeHook, if_neg blank, read, triggered,
                        prepared, extracted, ↓reduceIte]
                    rw [ends]
                    exact .inl ⟨nofun, rfl, .inr ⟨rfl, rfl⟩⟩
                | none =>
                    have ends : outcome =
                        run.save (some run.transcript) (.cleared run.cfg) loaded := by
                      simp only [outcome, ExtractionRun.executeHook, if_neg blank, read, triggered,
                        prepared, extracted, ↓reduceIte]
                    rw [ends, ExtractionRun.save]
                    cases run.setting.write with
                    | some error => exact .inl ⟨nofun, rfl, .inr ⟨rfl, rfl⟩⟩
                    | none => exact .inr (.inr ⟨rfl, rfl, rfl⟩)

/-! ## Whole sessions -/

/-- An extraction covers what has been counted when its turn repeats the earlier ones. -/
theorem extraction_covers_iff (counted : List String) (transcript : String) :
    Extraction.Covers { counted := counted ++ [transcript], given := transcript } ↔
      ∀ fragment ∈ counted, fragment.toList <:+: transcript.toList := by
  unfold Extraction.Covers
  constructor
  · exact fun covers fragment member => covers fragment (List.mem_append_left _ member)
  · intro repeated fragment member
    rcases List.mem_append.mp member with earlier | present
    · exact repeated fragment earlier
    · rw [List.mem_singleton.mp present]

/-- A run of the hook is a step of the machine. -/
theorem sessionExtraction_step (log : ExtractionLog) (run : ExtractionRun) :
    sessionExtraction.step log run = some (log.after run) := rfl

variable {log : ExtractionLog} {run : ExtractionRun}

/-- Counters that are read again are about at least the counted turns. -/
theorem Counts.length_le (counts : Counts log) {state : ExtractionState} {file : CheckpointFile}
    (read : run.setting.loadCheckpointState log.file = .ok (state, file)) :
    (log.counted.length : Int) ≤ state.sinceMessages ∧
      (log.counted ≠ [] → file = log.file) := by
  rcases counts with none_counted | ⟨saved, stored, bound⟩
  · rw [none_counted]
    exact ⟨load_nonneg read, fun some_counted => absurd rfl some_counted⟩
  · rw [stored] at read ⊢
    obtain ⟨same, kept⟩ := load_saved read
    exact ⟨by rw [same]; exact bound.trans (le_max_right _ _), fun _ => kept⟩

/-- The file that a run leaves. -/
theorem after_file : (log.after run).file = (run.executeHook log.file).file := by
  unfold ExtractionLog.after
  dsimp only

/-- A run that ends otherwise than with `OK` counts nothing. -/
theorem counted_of_failed (failed : (run.executeHook log.file).status ≠ .ok .ok) :
    (log.after run).counted = log.counted := by
  unfold ExtractionLog.after
  dsimp only
  split
  · next ended _ => exact absurd ended failed
  · next ended _ => exact absurd ended failed
  · rfl

/-- The counters keep their meaning over a run. -/
theorem Counts.after (counts : Counts log) : Counts (log.after run) := by
  rcases executeHook_cases run log.file with
    ⟨failed, _, kept⟩ | ⟨_, state, loaded, read, ends⟩
  · have same := counted_of_failed failed
    unfold Counts
    rw [same, after_file, kept]
    exact counts
  · obtain ⟨bound, reloaded⟩ := counts.length_le read
    rcases ends with ⟨failed, kept, _⟩ | ⟨ended, nothing, written⟩ | ⟨ended, extracted, _⟩
    · have same := counted_of_failed failed
      by_cases none_counted : log.counted = []
      · exact .inl (same.trans none_counted)
      · unfold Counts
        rw [same, after_file, kept, reloaded none_counted]
        exact counts
    · refine .inr ⟨_, after_file.trans written, ?_⟩
      have counted : (log.after run).counted = log.counted ++ [run.transcript] := by
        unfold ExtractionLog.after
        dsimp only
        rw [ended, nothing]
      have cooled : (run.counted state).cooled.sinceMessages = state.sinceMessages + 1 := by
        unfold ExtractionState.cooled
        split <;> rfl
      rw [counted, cooled, List.length_append, List.length_singleton]
      push_cast
      omega
    · refine .inl ?_
      unfold ExtractionLog.after
      dsimp only
      rw [ended, extracted]

/-- What an extraction is given, and what has triggered it. -/
theorem given_of_run {given : String} (extracted : (run.executeHook log.file).given = some given) :
    given = run.transcript ∧ strip run.transcript ≠ "" ∧ ∃ state loaded,
      run.setting.loadCheckpointState log.file = .ok (state, loaded) ∧
        (run.counted state).shouldTriggerLlm run.cfg = true := by
  rcases executeHook_cases run log.file with
    ⟨_, nothing, _⟩ | ⟨said, state, loaded, read, ends⟩
  · cases nothing.symm.trans extracted
  · rcases ends with ⟨_, _, nothing | ⟨gave, triggered⟩⟩ | ⟨_, nothing, _⟩ | ⟨_, gave, triggered⟩
    · cases nothing.symm.trans extracted
    · have same := (Option.some.inj (gave.symm.trans extracted)).symm
      exact ⟨same, said, state, loaded, read, triggered⟩
    · cases nothing.symm.trans extracted
    · have same := (Option.some.inj (gave.symm.trans extracted)).symm
      exact ⟨same, said, state, loaded, read, triggered⟩

/-- A run that extracts covers what has been counted exactly when its turn repeats it. -/
theorem covers_after_iff {given : String}
    (extracted : (run.executeHook log.file).given = some given) :
    (∀ extraction ∈ (log.after run).extractions, extraction.Covers) ↔
      (∀ extraction ∈ log.extractions, extraction.Covers) ∧
        ∀ fragment ∈ log.counted, fragment.toList <:+: run.transcript.toList := by
  have extractions : (log.after run).extractions = log.extractions ++
      [{ counted := log.counted ++ [run.transcript], given := run.transcript }] := by
    unfold ExtractionLog.after
    dsimp only
    rw [extracted, (given_of_run extracted).1]
  rw [extractions, List.forall_mem_append, List.forall_mem_singleton, extraction_covers_iff]

/-- A prompt run covers what has been counted. -/
theorem covers_after (counts : Counts log) (prompt : Prompt log run)
    (covered : ∀ extraction ∈ log.extractions, extraction.Covers) :
    ∀ extraction ∈ (log.after run).extractions, extraction.Covers := by
  cases extracted : (run.executeHook log.file).given with
  | none =>
      have same : (log.after run).extractions = log.extractions := by
        unfold ExtractionLog.after
        dsimp only
        rw [extracted]
        exact List.append_nil _
      rwa [same]
  | some given =>
      obtain ⟨_, said, state, loaded, read, triggered⟩ := given_of_run extracted
      have first := prompt said state loaded read triggered
      have bound := (counts.length_le read).1
      have uncounted : log.counted = [] := List.length_eq_zero_iff.mp (by omega)
      rw [covers_after_iff extracted, uncounted]
      exact ⟨covered, nofun⟩

/-- Prompt extractions cover what is counted, in every session from every checkpoint. -/
theorem extractions_cover {log : ExtractionLog} (reached : sessionExtraction.Reachable Prompt log) :
    ∀ extraction ∈ log.extractions, extraction.Covers := by
  have valid : Counts log ∧ ∀ extraction ∈ log.extractions, extraction.Covers := by
    obtain ⟨start, ⟨uncounted, fresh⟩, steps⟩ := reached
    induction steps with
    | refl => exact ⟨.inl uncounted, by rw [fresh]; nofun⟩
    | tail _ prompt stepped ih =>
        rw [sessionExtraction_step, Option.some.injEq] at stepped
        rw [← stepped]
        exact ⟨ih.1.after, covers_after ih.1 prompt ih.2⟩
  exact valid.2

/-- A setting in which nothing fails. -/
def plainExtraction : ExtractionSetting where
  countText text := text.length / 4
  loads _ := none
  intOf _ := .error (.typeOrValue "int() argument must be a number")

/-- The payload of a turn in the main session. -/
def turnOf (messageText : Option String) (toolCalls : List LlmToolCallRequest) :
    AfterLlmResponseHookPayload where
  sessionId := "main"
  taskType := "general"
  enabledGroups := []
  messageText := messageText
  toolCalls := toolCalls

/-- A turn in which the model answers with a text. -/
def spokenTurn : AfterLlmResponseHookPayload := turnOf (some "Your name is Ada.") []

/-- A turn in which the model calls three tools. -/
def searchTurn : AfterLlmResponseHookPayload :=
  turnOf none (["1", "2", "3"].map fun callId =>
    { callId := callId, name := "web_search", argumentsJson := "\x7b\x7d" })

/-- The log of a first turn in a session without a checkpoint. -/
def afterFirst (cfg : ExtractionConfig) : ExtractionLog :=
  ExtractionLog.after { file := .absent }
    { setting := plainExtraction, cfg := cfg, payload := spokenTurn }

/-- Every turn triggers an extraction. -/
def promptConfig : ExtractionConfig where
  extractTriggerMessageCount := 1
  extractCooldownTurns := 0

/-- The log of two turns with a turn without text or calls between them. -/
def promptLog : ExtractionLog :=
  (((afterFirst promptConfig).after
      { setting := plainExtraction, cfg := promptConfig, payload := turnOf none [] }).after
    { setting := plainExtraction, cfg := promptConfig, payload := searchTurn })

/-- Each of the two turns is extracted as it ends. -/
theorem extractions_cover_prompt_turns :
    promptLog.extractions.length = 2 ∧ ∀ extraction ∈ promptLog.extractions, extraction.Covers := by
  have same {file kept after : CheckpointFile} {stored state : ExtractionState}
      (loaded : plainExtraction.loadCheckpointState file = .ok (stored, kept))
      (nothing : stored.sinceMessages = 0)
      (read : plainExtraction.loadCheckpointState file = .ok (state, after)) :
      state.sinceMessages = 0 :=
    (Prod.mk.inj (Except.ok.inj (loaded.symm.trans read))).1 ▸ nothing
  refine ⟨by decide +kernel, extractions_cover ⟨{ file := .absent }, ⟨rfl, rfl⟩,
    .tail (.tail (.tail (.refl _) ?_ (sessionExtraction_step _ _)) ?_ (sessionExtraction_step _ _))
      ?_ (sessionExtraction_step _ _)⟩⟩
  · exact fun _ state file read _ => @same .absent .absent _ {} _ rfl rfl read
  · exact fun said => absurd rfl said
  · exact fun _ state file read _ => @same (.document (ExtractionState.cleared promptConfig).saved)
      _ _ (.cleared promptConfig) _ rfl rfl read

/-- A turn with three tool calls triggers an extraction for itself and for the turn before it. -/
def twoTurns : ExtractionLog :=
  (afterFirst {}).after { setting := plainExtraction, payload := searchTurn }

/-- Both turns make a run of the machine. -/
theorem twoTurns_reached : sessionExtraction.Reachable Machine.anyStep twoTurns :=
  ⟨{ file := .absent }, ⟨rfl, rfl⟩,
    .tail (.tail (.refl _) trivial (sessionExtraction_step _ _)) trivial
      (sessionExtraction_step _ _)⟩

/-- The second run extracts, but not the text of the first turn. -/
theorem earlier_turn_not_extracted :
    sessionExtraction.Reachable Machine.anyStep twoTurns ∧
      ¬ ∀ extraction ∈ twoTurns.extractions, extraction.Covers := by
  refine ⟨twoTurns_reached, fun covers => ?_⟩
  have extracted : { counted := ["assistant: Your name is Ada.", buildTranscript searchTurn]
                     given := buildTranscript searchTurn } ∈ twoTurns.extractions := by
    decide +kernel
  have contained := covers _ extracted "assistant: Your name is Ada." List.mem_cons_self
  exact absurd contained (by decide +kernel)

end FairyClaw
