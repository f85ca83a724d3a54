import FairyClaw.Events.RuntimeEvent
import FairyClaw.Foundation.Fallible

/-! # The hook runtime

Hooks read and write the metadata of the session, publish events, and may raise.
The runtime runs the hooks of a stage one after the other on the patched payload,
and drops the patch of a hook that raises, while the events it has published stay
published (`FairyClaw.runStage`). A stage whose hooks keep the session alive does so
as a whole (`FairyClaw.stage_keeps_alive`).
-/

namespace FairyClaw

open Foundation Fallible

/-- The exceptions that hooks raise. -/
inductive PyError
  | attributeError (name : String)
  | other (message : String)
  deriving DecidableEq, Repr

/-- The exceptions of `int`. -/
inductive IntError
  | typeOrValue (message : String)
  | overflow (message : String)

/-- `int(value)`, with the conversion of values that are not integers -/
def pyInt (intOf : Json → Except IntError Int) : Json → Except IntError Int
  | .int value => .ok value
  | value => intOf value

/-- What hooks find outside their session: built-in conversions of values other
than strings, failures of the database, the clock, and the file system. -/
structure HookEnv where
  strOf : Json → String
  intOf : Json → Except PyError Int
  loads : String → Except String Json
  dumps : Json → String
  now : Nat
  eventId : Nat → String
  readSession : Option PyError
  writeSession : Option PyError
  workspaceRoot : Option String
  cwd : String
  resolvePath : String → String → Except PyError String
  relativeTo : String → String → Except PyError String
  pathExists : String → Except PyError Bool
  isFile : String → Except PyError Bool
  readText : String → Except PyError String
  commandExitCode : String → String → Except PyError Int

/-- `str` -/
def HookEnv.str (env : HookEnv) : Json → String
  | .str value => value
  | value => env.strOf value

/-- `str(value or "")` -/
def HookEnv.strOrEmpty (env : HookEnv) : Option Json → String
  | none => ""
  | some value => if value.truthy then env.str value else ""

/-- `str(value or "").strip()` -/
def HookEnv.text (env : HookEnv) (value : Option Json) : String := strip (env.strOrEmpty value)

/-- The token numbers of a response, as far as the provider reports them. -/
structure TokenUsage where
  promptTokens : Option Int := none
  completionTokens : Option Int := none
  totalTokens : Option Int := none
  deriving DecidableEq, Repr

/-- The stored metadata of the session, if it has a row, the events published so far, and the
responses of models that hooks and tools have called so far, by their token numbers. -/
structure HookWorld where
  session : Option Json := none
  published : List RuntimeEvent := []
  consulted : List TokenUsage := []

/-- What runs within a hook. -/
abbrev HookM := Fallible PyError HookWorld

/-- `publish_runtime_event` on a bus that accepts it. -/
def publishRuntimeEvent (env : HookEnv) (type : EventType) (sessionId : String)
    (payload : JsonObject) (source : String) : HookM Unit :=
  modify fun world =>
    { world with
      published := world.published ++ [{
        type := .builtin type
        sessionId := sessionId
        payload := payload
        source := source
        id := env.eventId world.published.length
        timestamp := env.now }] }

/-- The metadata of the session, empty unless it is a dictionary. -/
def HookWorld.storedMeta (world : HookWorld) : JsonObject :=
  (world.session.bind Json.asObj).getD []

/-- `load_session_meta` -/
def loadSessionMeta (env : HookEnv) : HookM JsonObject := do
  match env.readSession with
  | some error => throw error
  | none =>
      let world ← get
      return world.storedMeta

/-- Store one key of the metadata of a session that has a row. -/
def saveSessionKey (env : HookEnv) (key : String) (value : Json) : HookM Unit := do
  match env.readSession with
  | some error => throw error
  | none =>
      let world ← get
      match world.session with
      | none => pure ()
      | some stored =>
          match env.writeSession with
          | some error => throw error
          | none =>
              modify fun world =>
                { world with session := some (.obj ((stored.asObj.getD []).set key value)) }

/-- The session that a hook runs in. -/
structure HookExecutionContext where
  isSubSession : Bool
  taskType : String

/-- A tool call that the model asks for. -/
structure LlmToolCallRequest where
  callId : String
  name : String
  argumentsJson : String
  deriving DecidableEq

/-- The outcome of a hook. -/
inductive HookStatus
  | ok
  | skip
  | error
  deriving DecidableEq

/-- What a hook, or a stage, gives back. -/
structure HookStageOutput (Payload : Type) where
  status : HookStatus
  patchedPayload : Option Payload := none
  error : Option PyError := none

/-- The fields of a stage payload that decide about the turn. -/
class HookPayload (Payload : Type) where
  sessionId : Payload → String
  forceFinish : Payload → Bool

/-- The payload of the stage after the model's answer. -/
structure AfterLlmResponseHookPayload where
  sessionId : String
  taskType : String
  enabledGroups : List String
  messageText : Option String
  toolCalls : List LlmToolCallRequest
  forceFinish : Bool := false
  forceFinishReason : Option String := none

/-- The payload of the stage before a tool call. -/
structure BeforeToolCallHookPayload where
  request : LlmToolCallRequest
  sessionId : String
  callIndex : Nat
  enabledGroups : List String
  forceFinish : Bool := false
  forceFinishReason : Option String := none

/-- The payload of the stage after a tool call. -/
structure AfterToolCallHookPayload where
  request : LlmToolCallRequest
  sessionId : String
  callIndex : Nat
  result : String
  toolStatus : String
  forceFinish : Bool := false
  forceFinishReason : Option String := none

instance : HookPayload AfterLlmResponseHookPayload where
  sessionId := AfterLlmResponseHookPayload.sessionId
  forceFinish := AfterLlmResponseHookPayload.forceFinish

instance : HookPayload BeforeToolCallHookPayload where
  sessionId := BeforeToolCallHookPayload.sessionId
  forceFinish := BeforeToolCallHookPayload.forceFinish

instance : HookPayload AfterToolCallHookPayload where
  sessionId := AfterToolCallHookPayload.sessionId
  forceFinish := AfterToolCallHookPayload.forceFinish

/-- What a stage does when a hook fails. -/
inductive HookErrorPolicy
  | continue
  | warn
  | fail
  deriving DecidableEq

/-- A hook as its group's manifest declares it. -/
structure HookDefinition where
  name : String
  priority : Nat
  enabled : Bool := true
  onError : HookErrorPolicy := .continue

/-- A hook, from its payload to its output. -/
abbrev HookExecutor (Payload : Type) := Payload → HookM (HookStageOutput Payload)

variable {Payload : Type}

/-- `run_stage` of the hook runtime. -/
def runStage : List (HookDefinition × HookExecutor Payload) → Payload → HookWorld →
    HookStageOutput Payload × HookWorld
  | [], payload, world => ({ status := .ok, patchedPayload := some payload }, world)
  | (definition, executor) :: rest, payload, world =>
      if definition.enabled then
        match exec (executor payload) world with
        | (.ok output, after) => runStage rest (output.patchedPayload.getD payload) after
        | (.error error, after) =>
            if definition.onError = .fail then
              ({ status := .error, patchedPayload := some payload, error := some error }, after)
            else runStage rest payload after
      else runStage rest payload world

/-- The metadata is read as it is stored. -/
theorem exec_loadSessionMeta (env : HookEnv) (world : HookWorld) :
    exec (loadSessionMeta env) world =
      (match env.readSession with
        | some error => .error error
        | none => .ok world.storedMeta, world) := by
  unfold loadSessionMeta
  cases env.readSession <;> rfl

/-- Reading the metadata changes nothing. -/
theorem keeps_loadSessionMeta {Observed : Type} {observe : HookWorld → Observed} (env : HookEnv) :
    Keeps observe (loadSessionMeta env) := by
  unfold loadSessionMeta
  split
  · exact keeps_throw _
  · exact keeps_get.bind fun _ => keeps_pure _

/-- Saving a key publishes nothing. -/
theorem keeps_saveSessionKey (env : HookEnv) (key : String) (value : Json) :
    Keeps HookWorld.published (saveSessionKey env key value) := by
  unfold saveSessionKey
  split
  · exact keeps_throw _
  · refine keeps_get.bind fun world => ?_
    split
    · exact keeps_pure _
    · split
      · exact keeps_throw _
      · exact keeps_modify fun _ => rfl

/-- The event asks for a turn of the session. -/
def RuntimeEvent.TriggersTurn (event : RuntimeEvent) (sessionId : String) : Prop :=
  event.sessionId = sessionId ∧ normalizeTriggerTurn event.typeValue event.payload = true

/-- What a hook has decided: its output, or to force a follow-up turn with a text
for the model. -/
inductive Verdict (Payload : Type)
  | done (output : HookStageOutput Payload)
  | followUp (text : String)

/-- A hook that acts on its verdict. -/
def actOn (verdict : Payload → HookM (Verdict Payload))
    (followUp : Payload → String → HookM (HookStageOutput Payload)) : HookExecutor Payload :=
  fun payload => do
    match ← verdict payload with
    | .done output => return output
    | .followUp text => followUp payload text

/-- The event of a follow-up that a hook forces. -/
def publishFollowUp (env : HookEnv) (sessionId taskType : String) (enabledGroups : List String)
    (text source : String) : HookM Unit :=
  publishRuntimeEvent env .userMessageReceived sessionId
    [("trigger_turn", .bool true), ("task_type", .str taskType),
      ("enabled_groups", .arr (enabledGroups.map .str)), ("internal_user_text", .str text)] source

/-- The payload that a hook hands on. -/
def HookStageOutput.handedOn (output : HookStageOutput Payload) (payload : Payload) : Payload :=
  output.patchedPayload.getD payload

/-- A stage goes on with what a hook hands on. -/
theorem runStage_cons_ok {definition : HookDefinition} {executor : HookExecutor Payload}
    {payload : Payload} {world after : HookWorld} {output : HookStageOutput Payload}
    (enabled : definition.enabled = true)
    (called : exec (executor payload) world = (.ok output, after))
    (rest : List (HookDefinition × HookExecutor Payload)) :
    runStage ((definition, executor) :: rest) payload world =
      runStage rest (output.handedOn payload) after := by
  rw [runStage, if_pos enabled, called]
  rfl

/-- A stage goes on behind a hook that fails, unless its policy forbids it. -/
theorem runStage_cons_error {definition : HookDefinition} {executor : HookExecutor Payload}
    {payload : Payload} {world after : HookWorld} {error : PyError}
    (enabled : definition.enabled = true) (continues : definition.onError ≠ .fail)
    (raised : exec (executor payload) world = (.error error, after))
    (rest : List (HookDefinition × HookExecutor Payload)) :
    runStage ((definition, executor) :: rest) payload world = runStage rest payload after := by
  rw [runStage, if_pos enabled, raised]
  exact if_neg continues

/-- A property of the payload and of what the hooks find, kept by a call: of the payload that it
hands on, or of its own payload when it raises. -/
structure Preserves (holds : Payload → HookWorld → Prop) (executor : HookExecutor Payload) :
    Prop where
  returns : ∀ payload world output after, holds payload world →
    exec (executor payload) world = (.ok output, after) → holds (output.handedOn payload) after
  raises : ∀ payload world error after, holds payload world →
    exec (executor payload) world = (.error error, after) → holds payload after

/-- **Stages.** A stage ends with a payload of which every property that its hooks preserve
holds. -/
theorem runStage_rule (holds : Payload → HookWorld → Prop) :
    ∀ {hooks : List (HookDefinition × HookExecutor Payload)} {payload : Payload}
      {world : HookWorld}, (∀ hook ∈ hooks, Preserves holds hook.2) → holds payload world →
      ∃ final, (runStage hooks payload world).1.patchedPayload = some final ∧
        holds final (runStage hooks payload world).2
  | [], payload, world, _, start => ⟨payload, rfl, start⟩
  | (definition, executor) :: rest, payload, world, preserved, start => by
      have own := preserved _ List.mem_cons_self
      have others : ∀ hook ∈ rest, Preserves holds hook.2 :=
        fun hook member => preserved hook (List.mem_cons_of_mem _ member)
      unfold runStage
      split
      · cases called : exec (executor payload) world with
        | mk outcome after =>
            cases outcome with
            | ok output => exact runStage_rule holds others (own.returns _ _ _ _ start called)
            | error error =>
                have kept := own.raises _ _ _ _ start called
                simp only
                split
                · exact ⟨payload, rfl, kept⟩
                · exact runStage_rule holds others kept
      · exact runStage_rule holds others start

variable [HookPayload Payload]

open HookPayload

/-- A call that forces the turn to finish has published an event that triggers the
next turn; and a call that has decided to force a follow-up does so. -/
structure KeepsAlive (executor : HookExecutor Payload) (payload : Payload) (world : HookWorld)
    (decided : Prop) : Prop where
  published : ∀ output after, exec (executor payload) world = (.ok output, after) →
    forceFinish payload = false → forceFinish (output.handedOn payload) = true →
      ∃ event ∈ after.published.drop world.published.length,
        event.TriggersTurn (sessionId payload)
  forced : decided → ∃ output after, exec (executor payload) world = (.ok output, after) ∧
    forceFinish (output.handedOn payload) = true

/-- The verdict is to force a follow-up turn. -/
def Decides (verdict : Payload → HookM (Verdict Payload)) (payload : Payload) (world : HookWorld) :
    Prop :=
  ∃ text after, exec (verdict payload) world = (.ok (.followUp text), after)

/-- What a stage relies on in its hooks: each keeps the session alive, none takes
back a published event, and all hand on a payload of the same session. -/
structure Dependable (executor : HookExecutor Payload) : Prop where
  alive : ∀ payload world, ∃ decided, KeepsAlive executor payload world decided
  appends : ∀ payload world, world.published <+: (exec (executor payload) world).2.published
  session : ∀ payload, Returns (fun output : HookStageOutput Payload =>
    sessionId (output.handedOn payload) = sessionId payload) (executor payload)

/-- A verdict that publishes nothing and hands on the session and the forced finish of
its payload, with a follow-up that publishes a triggering event and forces the
finish. -/
structure SoundFollowUp (verdict : Payload → HookM (Verdict Payload))
    (followUp : Payload → String → HookM (HookStageOutput Payload)) : Prop where
  quiet : ∀ payload, Keeps HookWorld.published (verdict payload)
  handsOn : ∀ payload, Returns (fun decision => ∀ output, decision = .done output →
    forceFinish (output.handedOn payload) = forceFinish payload ∧
      sessionId (output.handedOn payload) = sessionId payload) (verdict payload)
  follows : ∀ payload text world, ∃ output event,
    exec (followUp payload text) world =
      (.ok output, { world with published := world.published ++ [event] }) ∧
    forceFinish (output.handedOn payload) = true ∧
    sessionId (output.handedOn payload) = sessionId payload ∧
    event.TriggersTurn (sessionId payload)

variable {verdict : Payload → HookM (Verdict Payload)}
  {followUp : Payload → String → HookM (HookStageOutput Payload)}

/-- The outcomes of a call: an exception or an output of the verdict, with nothing
published, or the follow-up, with its event. -/
theorem SoundFollowUp.call (sound : SoundFollowUp verdict followUp) (payload : Payload)
    (world : HookWorld) :
    ((exec (actOn verdict followUp payload) world).2.published = world.published ∧
      ¬ Decides verdict payload world ∧
      ∀ output after, exec (actOn verdict followUp payload) world = (.ok output, after) →
        forceFinish (output.handedOn payload) = forceFinish payload ∧
          sessionId (output.handedOn payload) = sessionId payload) ∨
    ∃ output event after, exec (actOn verdict followUp payload) world = (.ok output, after) ∧
      after.published = world.published ++ [event] ∧
      forceFinish (output.handedOn payload) = true ∧
      sessionId (output.handedOn payload) = sessionId payload ∧
      event.TriggersTurn (sessionId payload) := by
  have same := sound.quiet payload world
  unfold actOn
  cases decided : exec (verdict payload) world with
  | mk outcome reached =>
      rw [decided] at same
      change reached.published = world.published at same
      cases outcome with
      | error error =>
          rw [exec_bind_error decided]
          refine Or.inl ⟨same, ?_, nofun⟩
          rintro ⟨text, after, decides⟩
          rw [decided] at decides
          cases decides
      | ok decision =>
          rw [exec_bind_ok decided]
          cases decision with
          | done own =>
              refine Or.inl ⟨same, ?_, ?_⟩
              · rintro ⟨text, after, decides⟩
                rw [decided] at decides
                cases decides
              · intro output after called
                cases called
                exact sound.handsOn payload _ _ _ decided own rfl
          | followUp text =>
              obtain ⟨output, event, followed, forces, session, triggers⟩ :=
                sound.follows payload text reached
              exact Or.inr ⟨output, event, _, followed, by rw [same], forces, session, triggers⟩

/-- A hook that follows up as it decides leaves no turn without a next one. -/
theorem SoundFollowUp.keepsAlive (sound : SoundFollowUp verdict followUp) (payload : Payload)
    (world : HookWorld) :
    KeepsAlive (actOn verdict followUp) payload world (Decides verdict payload world) := by
  rcases sound.call payload world with
    ⟨_, undecided, handsOn⟩ | ⟨made, event, reached, called, appended, forces, _, triggers⟩
  · refine ⟨fun output after called fresh forces => ?_, fun decides => (undecided decides).elim⟩
    rw [(handsOn output after called).1, fresh] at forces
    cases forces
  · refine ⟨fun output after again _ _ => ?_, fun _ => ⟨made, reached, called, forces⟩⟩
    rw [called] at again
    cases again
    refine ⟨event, ?_, triggers⟩
    rw [appended, List.drop_left]
    exact List.mem_singleton_self event

/-- A hook that follows up as it decides is dependable. -/
theorem SoundFollowUp.dependable (sound : SoundFollowUp verdict followUp) :
    Dependable (actOn verdict followUp) := by
  refine ⟨fun payload world => ⟨_, sound.keepsAlive payload world⟩, ?_, ?_⟩
  · intro payload world
    rcases sound.call payload world with ⟨same, _⟩ | ⟨_, event, _, called, appended, _⟩
    · exact ⟨[], by rw [same, List.append_nil]⟩
    · exact ⟨[event], by rw [called, appended]⟩
  · intro payload world output after called
    rcases sound.call payload world with ⟨_, _, handsOn⟩ | ⟨made, _, _, again, _, _, session, _⟩
    · exact (handsOn output after called).2
    · rw [again] at called
      cases called
      exact session

/-- The forced finish of a payload is backed by an event published since the first
`start` ones. -/
def Backed (start : Nat) (payload : Payload) (world : HookWorld) : Prop :=
  start ≤ world.published.length ∧ (forceFinish payload = true →
    ∃ event ∈ world.published.drop start, event.TriggersTurn (sessionId payload))

/-- More published events back a forced finish just as well. -/
theorem Backed.grows {start : Nat} {payload : Payload} {world after : HookWorld}
    (backed : Backed start payload world) (appended : world.published <+: after.published) :
    Backed start payload after := by
  refine ⟨Nat.le_trans backed.1 appended.length_le, fun forces => ?_⟩
  obtain ⟨event, member, triggers⟩ := backed.2 forces
  obtain ⟨new, grown⟩ := appended
  refine ⟨event, ?_, triggers⟩
  rw [← grown, List.drop_append_of_le_length backed.1]
  exact List.mem_append_left _ member

/-- A dependable hook hands on a backed payload. -/
theorem Backed.call {executor : HookExecutor Payload} (dependable : Dependable executor)
    {start : Nat} {payload : Payload} {world after : HookWorld} {output : HookStageOutput Payload}
    (backed : Backed start payload world)
    (called : exec (executor payload) world = (.ok output, after)) :
    Backed start (output.handedOn payload) after := by
  have appended := dependable.appends payload world
  rw [called] at appended
  refine ⟨Nat.le_trans backed.1 appended.length_le, fun forces => ?_⟩
  rw [dependable.session payload world output after called]
  by_cases fresh : forceFinish payload = false
  · obtain ⟨_, alive⟩ := dependable.alive payload world
    obtain ⟨event, member, triggers⟩ := alive.published output after called fresh forces
    refine ⟨event, ?_, triggers⟩
    have later : world.published.length = start + (world.published.length - start) := by
      have bounded := backed.1
      omega
    rw [later, ← List.drop_drop] at member
    exact List.mem_of_mem_drop member
  · exact (backed.grows appended).2 (Bool.not_eq_false _ ▸ fresh)

/-- A dependable hook keeps the session and the backing. -/
theorem Dependable.preserves {executor : HookExecutor Payload} (dependable : Dependable executor)
    (start : Nat) (session : String) :
    Preserves (fun payload world => sessionId payload = session ∧ Backed start payload world)
      executor where
  returns := fun payload world output after holds called =>
    ⟨(dependable.session payload world output after called).trans holds.1,
      holds.2.call dependable called⟩
  raises := by
    intro payload world error after holds called
    have appended := dependable.appends payload world
    rw [called] at appended
    exact ⟨holds.1, holds.2.grows appended⟩

/-- **Stages keep the session alive.** When the output of a stage forces the turn to
finish, one of its hooks has published an event that triggers the next turn. -/
theorem stage_keeps_alive {hooks : List (HookDefinition × HookExecutor Payload)}
    (dependable : ∀ hook ∈ hooks, Dependable hook.2) {payload final : Payload} {world : HookWorld}
    (fresh : forceFinish payload = false)
    (output : (runStage hooks payload world).1.patchedPayload = some final)
    (forces : forceFinish final = true) :
    ∃ event ∈ (runStage hooks payload world).2.published.drop world.published.length,
      event.TriggersTurn (sessionId payload) := by
  have start : Backed world.published.length payload world := by
    refine ⟨Nat.le_refl _, fun forced => ?_⟩
    rw [fresh] at forced
    cases forced
  obtain ⟨handed, same, session, backed⟩ := runStage_rule _
    (fun hook member => (dependable hook member).preserves world.published.length
      (sessionId payload)) ⟨rfl, start⟩
  cases same.symm.trans output
  rw [← session]
  exact backed.2 forces

end FairyClaw
