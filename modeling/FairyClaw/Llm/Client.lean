import FairyClaw.Foundation.Retries
import FairyClaw.Llm.Dsml
import FairyClaw.Planning.StagedTurn

/-! # The client of a model

The client sends a chat request to an endpoint, repeats it after failures that may pass, and turns
to a second endpoint when the first one still fails. The answer is read from the payload of either
of two interfaces. All that is asked makes up the courses of the attempts
(`FairyClaw.LlmHost.chat_with_tools_course`), and calls that a model writes into its reasoning are
read as the calls of the field for them (`FairyClaw.LlmHost.parse_dsml_as_standard`).
-/

namespace FairyClaw

open Foundation Fallible

/-- `LLMEndpointProfile`, as far as chat requests use it; the temperature in its printed form. -/
structure LLMEndpointProfile where
  name : String
  apiBase : String
  model : String
  apiKeyEnv : String
  timeoutSeconds : Int := 30
  temperature : String := "0.2"

/-- The exceptions of a request. -/
inductive LlmError
  | status (statusCode : Nat) (body : String)
  | connection (message : String)
  | timeout (message : String)
  | runtime (message : String)
  | other (name : String)
  deriving DecidableEq

/-- `RETRYABLE_HTTP_STATUS_CODES` -/
def retryableHttpStatusCodes : List Nat := [429, 500, 502, 503, 504]

/-- `DEFAULT_MAX_RETRIES` -/
def defaultMaxRetries : Nat := 3

/-- `DEFAULT_BASE_DELAY_SECONDS` -/
def defaultBaseDelaySeconds : Nat := 2

/-- A request for a chat completion, as the SDK is called. -/
structure SdkRequest where
  responses : Bool
  baseUrl : String
  apiKey : String
  timeout : Int
  arguments : JsonObject

/-- What the client finds outside: the text of values that are not strings, the environment, the
endpoints with what the SDK decodes of their answers, and the digits of fresh identifiers. The SDK is
taken as installed. -/
structure LlmHost (World : Type) where
  strOf : Json → String
  getenv : String → String
  create : SdkRequest → Fallible LlmError World Json
  hex : World → Nat → String

/-- What a request does: it asks an endpoint, and it sleeps. An answer whose payload holds an error
counts as that error. -/
inductive LlmEvent
  | asked (profile : String) (outcome : Except LlmError Json)
  | slept (seconds : Nat)

/-- The event is a request. -/
def LlmEvent.isAsked : LlmEvent → Bool
  | asked _ _ => true
  | slept _ => false

/-- The outside world, and what has been done so far. -/
structure LlmRun (World : Type) where
  world : World
  events : List LlmEvent := []

/-- `_is_responses_profile`: `gpt-5` stands in the model's name at the beginning or after a slash,
and before a dot, a dash or the end. -/
def isResponsesProfile (profile : LLMEndpointProfile) : Bool :=
  ("/" ++ lower (strip profile.model)).toList.tails.any fun ending =>
    "/gpt-5".toList.isPrefixOf ending &&
      match ending.drop "/gpt-5".length with
      | [] => true
      | next :: _ => next = '.' || next = '-'

/-- A tool as the interface for responses takes it. -/
def responsesTool (tool : Json) : Json :=
  match tool with
  | .obj fields =>
      match JsonObject.get fields "type", JsonObject.get fields "function" with
      | some (.str "function"), some (.obj function) =>
          .obj (JsonObject.update [("type", .str "function")] function)
      | _, _ => tool
  | _ => tool

/-- The payload of a chat request. -/
def requestPayload (profile : LLMEndpointProfile) (messages tools : List Json) : JsonObject :=
  if isResponsesProfile profile then
    [("model", .str profile.model), ("input", .arr messages)] ++
      if tools.isEmpty then []
      else [("tools", .arr (tools.map responsesTool)), ("tool_choice", .str "auto")]
  else
    [("model", .str profile.model), ("messages", .arr messages),
      ("temperature", .float profile.temperature)] ++
      if tools.isEmpty then [] else [("tools", .arr tools), ("tool_choice", .str "auto")]

/-- `_call_chat_completion_sdk`, up to the call of the SDK -/
def sdkRequest (profile : LLMEndpointProfile) (apiKey : String) (payload : JsonObject) :
    SdkRequest where
  responses := isResponsesProfile profile
  baseUrl := String.ofList (profile.apiBase.toList.rdropWhile (· = '/'))
  apiKey := apiKey
  timeout := profile.timeoutSeconds
  arguments := payload.set "metadata"
    (.obj [("profile", .str profile.name), ("model", .str profile.model)])

namespace LlmHost

variable {World : Type} (host : LlmHost World)

/-- `str` -/
def str : Json → String
  | .str text => text
  | value => host.strOf value

/-- `str(value or "")` -/
def strOrEmpty (value : Option Json) : String :=
  match value with
  | some value => if value.truthy then host.str value else ""
  | none => ""

/-! ## Reading the answer -/

/-- `_raise_if_payload_error` -/
def raiseIfPayloadError (data : Json) : Except LlmError Unit :=
  match data with
  | .obj fields =>
      match JsonObject.get fields "error" with
      | none => .ok ()
      | some error =>
          let (code, message) := match error with
            | .obj details =>
                (((JsonObject.get details "code").map host.str).getD "unknown_code",
                  host.str ((JsonObject.get details "message").getD (.str (host.str error))))
            | _ => ("unknown_code", host.str error)
          .error (.runtime ("LLM API Payload Error: [" ++ code ++ "] " ++ message))
  | _ => .ok ()

/-- `_normalize_message_content` -/
def normalizeMessageContent (content : Option Json) : String :=
  match content with
  | some (.arr items) =>
      strip ("\n".intercalate (items.filterMap fun item =>
        match (item.asObj.bind fun part => part.get "text") with
        | some (.str text) => if strip text = "" then none else some (strip text)
        | _ => none))
  | content => strip (host.strOrEmpty content)

/-- `int(value) if isinstance(value, int) else None` -/
def intOrNone : Option Json → Option Int
  | some (.int value) => some value
  | some (.bool value) => some (if value then 1 else 0)
  | _ => none

/-- `_build_usage`, from the fields of that name in the usage of an answer -/
def buildUsage (usage : Option Json) (prompt completion : String) : TokenUsage :=
  match usage with
  | some (.obj usage) =>
      { promptTokens := intOrNone (JsonObject.get usage prompt)
        completionTokens := intOrNone (JsonObject.get usage completion)
        totalTokens := intOrNone (JsonObject.get usage "total_tokens") }
  | _ => {}

/-- `choices[0]`, if there are choices; none of the values that are not lists of dictionaries lets
the client go on. -/
def firstChoice (data : Json) : Except LlmError (Option JsonObject) :=
  match data.asObj.bind fun fields => fields.get "choices" with
  | none => .ok none
  | some (.arr []) => .ok none
  | some (.arr (.obj choice :: _)) => .ok (some choice)
  | some (.arr _) => .error (.other "AttributeError")
  | some (.str text) => if text = "" then .ok none else .error (.other "AttributeError")
  | some (.obj fields) => if fields.isEmpty then .ok none else .error (.other "KeyError")
  | some value => if value.truthy then .error (.other "TypeError") else .ok none

/-- One entry of `tool_calls`. -/
def standardCall (call : Json) : Except LlmError LlmToolCallRequest :=
  match call with
  | .obj call =>
      match (JsonObject.get call "function").getD (.obj []) with
      | .obj function => .ok {
          callId := host.str ((JsonObject.get call "id").getD (.str ""))
          name := host.str ((JsonObject.get function "name").getD (.str ""))
          argumentsJson := host.str ((JsonObject.get function "arguments").getD (.str "\x7b\x7d")) }
      | _ => .error (.other "AttributeError")
  | _ => .error (.other "AttributeError")

/-- The calls in the field `tool_calls` of a message. -/
def standardCalls (message : JsonObject) : Except LlmError (List LlmToolCallRequest) :=
  match message.get "tool_calls" with
  | some (.arr calls) => calls.mapM host.standardCall
  | some (.str text) => if text = "" then .ok [] else .error (.other "AttributeError")
  | some (.obj fields) => if fields.isEmpty then .ok [] else .error (.other "AttributeError")
  | some value => if value.truthy then .error (.other "TypeError") else .ok []
  | none => .ok []

/-- The calls of the reasoning, which need not be a text: a list and a dictionary can be asked
whether they hold the tag, but cannot be searched for calls. -/
def reasoningCalls (hex : Nat → String) (message : JsonObject) :
    Except LlmError (List LlmToolCallRequest) :=
  match message.get "reasoning_content" with
  | some (.str reasoning) => .ok (parseDsmlToolCalls hex reasoning)
  | some (.arr items) =>
      if items.any fun item => item.asStr = some "<｜DSML｜" then .error (.other "TypeError")
      else .ok []
  | some (.obj fields) =>
      if (JsonObject.get fields "<｜DSML｜").isSome then .error (.other "TypeError") else .ok []
  | some value => if value.truthy then .error (.other "TypeError") else .ok []
  | none => .ok []

/-- The calls of a message: those of its reasoning when the field for calls gives none. -/
def messageCalls (hex : Nat → String) (message : JsonObject) :
    Except LlmError (List LlmToolCallRequest) := do
  let standard ← host.standardCalls message
  if standard.isEmpty then reasoningCalls hex message else return standard

/-- `_parse_chat_completion_result` -/
def parseChatCompletionResult (hex : Nat → String) (data : Json) :
    Except LlmError LlmModelResponse := do
  match ← firstChoice data with
  | none => return { text := "", toolCalls := [] }
  | some choice =>
      match (choice.get "message").getD (.obj []) with
      | .obj message =>
          let calls ← host.messageCalls hex message
          return {
            text := host.normalizeMessageContent (JsonObject.get message "content")
            toolCalls := calls
            usage := buildUsage (data.asObj.bind fun fields => fields.get "usage")
              "prompt_tokens" "completion_tokens"
            finishReason := some (host.str ((choice.get "finish_reason").getD .null)) }
      | _ => .error (.other "AttributeError")

/-- The text of a part of a message, if it has one; a type that cannot be hashed raises. -/
def partText (part : Json) : Except LlmError (Option String) :=
  match part with
  | .obj part =>
      match JsonObject.get part "type" with
      | some (.arr _) => .error (.other "TypeError")
      | some (.obj _) => .error (.other "TypeError")
      | some (.str type) =>
          match JsonObject.get part "text" with
          | some (.str text) => .ok
              (if type ∈ ["output_text", "text"] ∧ strip text ≠ "" then some (strip text) else none)
          | _ => .ok none
      | _ => .ok none
  | _ => .ok none

/-- The texts of a message of the interface for responses. -/
def messageTexts (item : JsonObject) : Except LlmError (List String) :=
  match item.get "content" with
  | some (.arr parts) => (parts.mapM partText).map fun texts => texts.filterMap id
  | some (.str _) => .ok []
  | some (.obj _) => .ok []
  | some value => if value.truthy then .error (.other "TypeError") else .ok []
  | none => .ok []

/-- One item of the output: a call, or texts. -/
def outputItem (item : Json) : Except LlmError (List LlmToolCallRequest × List String) :=
  match item with
  | .obj item =>
      let type := host.strOrEmpty (JsonObject.get item "type")
      if type ∈ ["function_call", "tool_call"] then
        .ok ([{
          callId := if (JsonObject.get item "call_id").any Json.truthy
            then host.strOrEmpty (JsonObject.get item "call_id")
            else host.strOrEmpty (JsonObject.get item "id")
          name := host.strOrEmpty (JsonObject.get item "name")
          argumentsJson :=
            orElse (host.strOrEmpty (JsonObject.get item "arguments")) "\x7b\x7d" }], [])
      else if type = "message" then (messageTexts item).map fun texts => ([], texts)
      else .ok ([], [])
  | _ => .ok ([], [])

/-- The items of the field `output`: the calls and the texts of each. -/
def outputItems (fields : JsonObject) :
    Except LlmError (List (List LlmToolCallRequest × List String)) :=
  match fields.get "output" with
  | some (.arr output) => output.mapM host.outputItem
  | _ => .ok []

/-- `_parse_responses_result` -/
def parseResponsesResult (data : Json) : Except LlmError LlmModelResponse := do
  let fields := data.asObj.getD []
  let items ← host.outputItems fields
  let calls := items.flatMap Prod.fst
  let status := host.strOrEmpty (fields.get "status")
  let reason := match fields.get "incomplete_details" with
    | some (.obj details) => lower (strip (host.strOrEmpty (JsonObject.get details "reason")))
    | _ => ""
  let isLengthLike := status = "incomplete" ∧
    reason ∈ ["max_output_tokens", "max_completion_tokens", "length"]
  return {
    text := strip ("\n".intercalate (items.flatMap Prod.snd))
    toolCalls := calls
    usage := buildUsage (fields.get "usage") "input_tokens" "output_tokens"
    finishReason :=
      if isLengthLike then some "length"
      else if !calls.isEmpty then some "tool_calls"
      else if status = "" then none else some status }

/-! ## Asking -/

/-- One attempt: the endpoint's answer, unless it holds an error. -/
def askOnce (profile : LLMEndpointProfile) (apiKey : String) (payload : JsonObject) :
    Fallible LlmError (LlmRun World) Json :=
  ExceptT.mk fun run =>
    let (answered, world) := exec (host.create (sdkRequest profile apiKey payload)) run.world
    let outcome := answered.bind fun data => (host.raiseIfPayloadError data).map fun _ => data
    (outcome, { world := world, events := run.events ++ [.asked profile.name outcome] })

/-- The exceptions after which the loop goes on, unless it was the last attempt. -/
def retried : LlmError → Bool
  | .status statusCode _ => statusCode ∈ retryableHttpStatusCodes
  | .connection _ => true
  | .timeout _ => true
  | _ => false

/-- The seconds before the next attempt. -/
def delay (attempt : Nat) : Nat := defaultBaseDelaySeconds * 2 ^ attempt

/-- `asyncio.sleep` -/
def sleep (seconds : Nat) : Fallible LlmError (LlmRun World) PUnit :=
  modify fun run => { run with events := run.events ++ [.slept seconds] }

/-- The key of a profile, empty if there is none. -/
def apiKey (profile : LLMEndpointProfile) : String := strip (host.getenv profile.apiKeyEnv)

/-- The answer of either interface. -/
def parseResult (profile : LLMEndpointProfile) (hex : Nat → String) (data : Json) :
    Except LlmError LlmModelResponse :=
  if isResponsesProfile profile then host.parseResponsesResult data
  else host.parseChatCompletionResult hex data

/-- The attempts with a profile. -/
def attempts (profile : LLMEndpointProfile) (messages tools : List Json) :
    Fallible LlmError (LlmRun World) Json :=
  retry retried (fun attempt => sleep (delay attempt))
    (host.askOnce profile (host.apiKey profile) (requestPayload profile messages tools)) 0
    (defaultMaxRetries - 1)

/-- `_chat_with_profile` -/
def chatWithProfile (profile : LLMEndpointProfile) (messages tools : List Json) :
    Fallible LlmError (LlmRun World) LlmModelResponse := do
  if host.apiKey profile = "" then throw (.runtime ("Missing API key env: " ++ profile.apiKeyEnv))
  let data ← host.attempts profile messages tools
  let run ← get
  ofExcept (host.parseResult profile (host.hex run.world) data)

/-- `_should_try_fallback` -/
def shouldTryFallback : LlmError → Bool
  | .connection _ => true
  | .timeout _ => true
  | .status statusCode _ => statusCode ∈ retryableHttpStatusCodes
  | _ => false

/-- `chat_with_tools` -/
def chatWithTools (profile : LLMEndpointProfile) (fallbackProfile : Option LLMEndpointProfile)
    (messages tools : List Json) : Fallible LlmError (LlmRun World) LlmModelResponse :=
  recover (host.chatWithProfile profile messages tools) fun primaryExc =>
    if shouldTryFallback primaryExc then
      match fallbackProfile with
      | none => throw primaryExc
      | some fallback =>
          if host.apiKey fallback = "" then throw primaryExc
          else host.chatWithProfile fallback messages tools
    else throw primaryExc

/-! ## Errors of reading -/

/-- An exception of the language, which no other attempt mends. -/
def Foreign (error : LlmError) : Prop := ∃ name, error = .other name

/-- Reading the first choice raises exceptions of the language only. -/
theorem raises_firstChoice (data : Json) : Raises Foreign (firstChoice data) := by
  unfold firstChoice
  split <;> try split
  all_goals first | exact raises_ok _ | exact raises_error ⟨_, rfl⟩

/-- Reading a call raises exceptions of the language only. -/
theorem raises_standardCall (call : Json) : Raises Foreign (host.standardCall call) := by
  unfold standardCall
  split <;> try split
  all_goals first | exact raises_ok _ | exact raises_error ⟨_, rfl⟩

/-- Reading the field of calls raises exceptions of the language only. -/
theorem raises_standardCalls (message : JsonObject) :
    Raises Foreign (host.standardCalls message) := by
  unfold standardCalls
  split
  · exact Raises.mapM host.raises_standardCall _
  all_goals try split
  all_goals first | exact raises_ok _ | exact raises_error ⟨_, rfl⟩

/-- Reading a reasoning text raises exceptions of the language only. -/
theorem raises_reasoningCalls (hex : Nat → String) (message : JsonObject) :
    Raises Foreign (reasoningCalls hex message) := by
  unfold reasoningCalls
  split <;> try split
  all_goals first | exact raises_ok _ | exact raises_error ⟨_, rfl⟩

/-- Reading the calls of a message raises exceptions of the language only. -/
theorem raises_messageCalls (hex : Nat → String) (message : JsonObject) :
    Raises Foreign (host.messageCalls hex message) := by
  unfold messageCalls
  apply (host.raises_standardCalls message).bind
  intro standard
  split
  · exact raises_reasoningCalls hex message
  · exact raises_ok standard

/-- Parsing a chat completion raises exceptions of the language only. -/
theorem raises_parseChatCompletionResult (hex : Nat → String) (data : Json) :
    Raises Foreign (host.parseChatCompletionResult hex data) := by
  unfold parseChatCompletionResult
  apply (raises_firstChoice data).bind
  intro choice
  cases choice with
  | none => exact raises_ok _
  | some choice =>
      simp only
      split
      · apply (host.raises_messageCalls hex _).bind
        intro calls
        exact raises_ok _
      · exact raises_error ⟨_, rfl⟩

/-- Reading a part of a text raises exceptions of the language only. -/
theorem raises_partText (part : Json) : Raises Foreign (partText part) := by
  unfold partText
  split <;> try split
  all_goals try split
  all_goals first | exact raises_ok _ | exact raises_error ⟨_, rfl⟩

/-- Reading the texts of a message raises exceptions of the language only. -/
theorem raises_messageTexts (item : JsonObject) : Raises Foreign (messageTexts item) := by
  unfold messageTexts
  split
  · exact (Raises.mapM raises_partText _).map _
  all_goals try split
  all_goals first | exact raises_ok _ | exact raises_error ⟨_, rfl⟩

/-- Reading an output item raises exceptions of the language only. -/
theorem raises_outputItem (item : Json) : Raises Foreign (host.outputItem item) := by
  unfold outputItem
  split
  · simp only
    split
    · exact raises_ok _
    · split
      · exact (raises_messageTexts _).map _
      · exact raises_ok _
  · exact raises_ok _

/-- Reading the output raises exceptions of the language only. -/
theorem raises_outputItems (fields : JsonObject) :
    Raises Foreign (host.outputItems fields) := by
  unfold outputItems
  split
  · exact Raises.mapM host.raises_outputItem _
  · exact raises_ok _

/-- Parsing a response raises exceptions of the language only. -/
theorem raises_parseResponsesResult (data : Json) :
    Raises Foreign (host.parseResponsesResult data) := by
  unfold parseResponsesResult
  apply (host.raises_outputItems _).bind
  intro items
  exact raises_ok _

/-- Whatever an answer holds, reading it raises nothing that is tried again. -/
theorem raises_parseResult (profile : LLMEndpointProfile) (hex : Nat → String) (data : Json) :
    Raises Foreign (host.parseResult profile hex data) := by
  unfold parseResult
  split
  · exact host.raises_parseResponsesResult data
  · exact host.raises_parseChatCompletionResult hex data

/-! ## What is asked -/

/-- What comes of a profile: nothing is asked without a key, and otherwise the outcome of the last
attempt is read. -/
inductive ProfileCourse (profile : LLMEndpointProfile) :
    List (Except LlmError Json) → Except LlmError LlmModelResponse → Prop
  | keyless : host.apiKey profile = "" → ProfileCourse profile []
      (.error (.runtime ("Missing API key env: " ++ profile.apiKeyEnv)))
  | asked {outcomes : List (Except LlmError Json)} {last : Except LlmError Json} (world : World) :
      host.apiKey profile ≠ "" → Course retried (defaultMaxRetries - 1) outcomes →
      outcomes.getLast? = some last →
      ProfileCourse profile outcomes (last.bind (host.parseResult profile (host.hex world)))

/-- The events of the attempts with a profile. -/
def profileEvents (profile : LLMEndpointProfile) (outcomes : List (Except LlmError Json)) :
    List LlmEvent :=
  courseEvents (.asked profile.name) (fun attempt => .slept (delay attempt)) 0 outcomes

variable {host} {profile : LLMEndpointProfile} {messages tools : List Json}

/-- Sleeping is recorded and raises nothing. -/
theorem exec_sleep (seconds : Nat) (run : LlmRun World) :
    (exec (sleep seconds) run).1 = .ok ⟨⟩ ∧
      (exec (sleep seconds) run).2.events = run.events ++ [.slept seconds] := ⟨rfl, rfl⟩

/-- A profile with a key makes its attempts, and parses the last answer. -/
theorem exec_chatWithProfile (keyed : host.apiKey profile ≠ "") {run after : LlmRun World}
    {outcome : Except LlmError Json}
    (tried : exec (host.attempts profile messages tools) run = (outcome, after)) :
    exec (host.chatWithProfile profile messages tools) run =
      (outcome.bind (host.parseResult profile (host.hex after.world)), after) := by
  have asked : host.chatWithProfile profile messages tools =
      (host.attempts profile messages tools >>= fun data => do
        let run ← get
        ofExcept (host.parseResult profile (host.hex run.world) data)) := by
    unfold chatWithProfile
    rw [if_neg keyed]
  rw [asked, exec_bind, tried]
  cases outcome with
  | error error => rfl
  | ok data =>
      simp only
      rw [exec_bind, exec_get]
      simp only [exec_ofExcept, Except.bind]

/-- The attempts for a profile take a course of retries, and record it. -/
theorem attempts_course (run : LlmRun World) :
    ∃ outcomes, Course retried (defaultMaxRetries - 1) outcomes ∧
      outcomes.getLast? = some (exec (host.attempts profile messages tools) run).1 ∧
      (exec (host.attempts profile messages tools) run).2.events =
        run.events ++ profileEvents profile outcomes := by
  have asks : ∀ state : LlmRun World, (exec (host.askOnce profile (host.apiKey profile)
      (requestPayload profile messages tools)) state).2.events = state.events ++
        [.asked profile.name (exec (host.askOnce profile (host.apiKey profile)
          (requestPayload profile messages tools)) state).1] := fun _ => rfl
  exact retry_course asks (fun attempt state => exec_sleep (delay attempt) state) _ 0 run

/-- The attempts with a profile, and what is made of the last one. -/
theorem chatWithProfile_course (host : LlmHost World) (profile : LLMEndpointProfile)
    (messages tools : List Json) (run : LlmRun World) :
    ∃ outcomes,
      host.ProfileCourse profile outcomes
        (exec (host.chatWithProfile profile messages tools) run).1 ∧
      (exec (host.chatWithProfile profile messages tools) run).2.events =
        run.events ++ profileEvents profile outcomes := by
  by_cases keyless : host.apiKey profile = ""
  · unfold chatWithProfile
    rw [if_pos keyless]
    exact ⟨[], .keyless keyless, (List.append_nil _).symm⟩
  · obtain ⟨outcomes, course, last, events⟩ :=
      @attempts_course _ host profile messages tools run
    rcases tried : exec (host.attempts profile messages tools) run with ⟨outcome, after⟩
    rw [tried] at last events
    rw [exec_chatWithProfile keyless tried]
    exact ⟨outcomes, .asked after.world keyless course last, events⟩

/-- What comes of a request: the outcome with the first profile, unless that is a failure that the
fallback may mend and the fallback has a key. -/
inductive ChatCourse (host : LlmHost World) (profile : LLMEndpointProfile)
    (fallbackProfile : Option LLMEndpointProfile) : List (Except LlmError Json) → List LlmEvent →
      Except LlmError LlmModelResponse → Prop
  | settled {outcomes : List (Except LlmError Json)} {result : Except LlmError LlmModelResponse} :
      host.ProfileCourse profile outcomes result →
      (∀ error, result = .error error → shouldTryFallback error = true →
        ∀ fallback ∈ fallbackProfile, host.apiKey fallback = "") →
      ChatCourse host profile fallbackProfile outcomes [] result
  | fellBack {outcomes others : List (Except LlmError Json)} {error : LlmError}
      {fallback : LLMEndpointProfile} {result : Except LlmError LlmModelResponse} :
      host.ProfileCourse profile outcomes (.error error) → shouldTryFallback error = true →
      fallbackProfile = some fallback → host.apiKey fallback ≠ "" →
      host.ProfileCourse fallback others result →
      ChatCourse host profile fallbackProfile outcomes (profileEvents fallback others) result

/-- An exception of the language calls for no fallback. -/
theorem shouldTryFallback_of_foreign {error : LlmError} (foreign : Foreign error) :
    shouldTryFallback error = false := by
  obtain ⟨name, rfl⟩ := foreign
  rfl

/-- A failure that the fallback may mend comes after all attempts. -/
theorem ProfileCourse.length_eq {outcomes : List (Except LlmError Json)} {error : LlmError}
    {result : Except LlmError LlmModelResponse}
    (course : host.ProfileCourse profile outcomes result) (failed : result = .error error)
    (mends : shouldTryFallback error = true) :
    outcomes.length = defaultMaxRetries := by
  cases course with
  | keyless _ =>
      cases failed
      cases mends
  | @asked _ last world _ attempted read =>
      cases last with
      | ok data =>
          simp only [Except.bind] at failed
          have foreign := host.raises_parseResult profile (host.hex world) data error failed
          rw [shouldTryFallback_of_foreign foreign] at mends
          cases mends
      | error last =>
          simp only [Except.bind, Except.error.injEq] at failed
          subst failed
          have worth : retried last = true := by
            cases last <;> exact mends
          exact attempted.length_of_getLast_again read worth

/-- A profile is asked a bounded number of times. -/
theorem ProfileCourse.length_le {outcomes : List (Except LlmError Json)}
    {result : Except LlmError LlmModelResponse}
    (course : host.ProfileCourse profile outcomes result) :
    outcomes.length ≤ defaultMaxRetries := by
  cases course with
  | keyless _ => exact Nat.zero_le _
  | asked _ _ attempted _ => exact attempted.length_le

/-- The requests among the events of a profile are its attempts. -/
theorem countP_profileEvents (profile : LLMEndpointProfile)
    (outcomes : List (Except LlmError Json)) :
    (profileEvents profile outcomes).countP LlmEvent.isAsked = outcomes.length :=
  countP_courseEvents (fun _ => rfl) (fun _ => rfl) 0 outcomes

/-- **Requests.** All that is asked and slept makes up the course of the first profile and, if the
client turns to it after three failed attempts, that of the fallback, each of at most three
requests; the result is what that course comes to. -/
theorem chat_with_tools_course (host : LlmHost World) (profile : LLMEndpointProfile)
    (fallbackProfile : Option LLMEndpointProfile) (messages tools : List Json)
    (run : LlmRun World) :
    ∃ outcomes more,
      ChatCourse host profile fallbackProfile outcomes more
        (exec (host.chatWithTools profile fallbackProfile messages tools) run).1 ∧
      (exec (host.chatWithTools profile fallbackProfile messages tools) run).2.events =
        run.events ++ (profileEvents profile outcomes ++ more) ∧
      outcomes.length ≤ defaultMaxRetries ∧ more.countP LlmEvent.isAsked ≤ defaultMaxRetries ∧
      (more ≠ [] → outcomes.length = defaultMaxRetries) := by
  obtain ⟨outcomes, course, events⟩ := chatWithProfile_course host profile messages tools run
  have few := course.length_le
  unfold chatWithTools
  rw [exec_recover]
  rcases tried : exec (host.chatWithProfile profile messages tools) run with ⟨outcome, after⟩
  rw [tried] at course events
  have alone : after.events = run.events ++ (profileEvents profile outcomes ++ []) ∧
      outcomes.length ≤ defaultMaxRetries ∧
      List.countP LlmEvent.isAsked [] ≤ defaultMaxRetries ∧
      (([] : List LlmEvent) ≠ [] → outcomes.length = defaultMaxRetries) := by
    rw [events, List.append_nil]
    exact ⟨rfl, few, Nat.zero_le _, fun filled => absurd rfl filled⟩
  cases outcome with
  | ok response =>
      refine ⟨outcomes, [], .settled course ?_, alone⟩
      intro error failed
      cases failed
  | error error =>
      simp only
      cases worth : shouldTryFallback error with
      | false =>
          refine ⟨outcomes, [], .settled course ?_, alone⟩
          intro other failed mends
          cases failed
          rw [worth] at mends
          cases mends
      | true =>
          rw [if_pos rfl]
          cases fallbackProfile with
          | none =>
              refine ⟨outcomes, [], .settled course ?_, alone⟩
              intro _ _ _ fallback listed
              cases listed
          | some fallback =>
              simp only
              by_cases keyless : host.apiKey fallback = ""
              · rw [if_pos keyless]
                refine ⟨outcomes, [], .settled course ?_, alone⟩
                intro _ _ _ other listed
                cases listed
                exact keyless
              · rw [if_neg keyless]
                obtain ⟨others, second, more⟩ :=
                  chatWithProfile_course host fallback messages tools after
                refine ⟨outcomes, profileEvents fallback others,
                  .fellBack course worth rfl keyless second, ?_, few, ?_, ?_⟩
                · rw [more, events, List.append_assoc]
                · rw [countP_profileEvents]
                  exact second.length_le
                · exact fun _ => course.length_eq rfl worth

/-! ## Calls of the reasoning -/

/-- A call as the field for calls gives it. -/
def callJson (request : LlmToolCallRequest) : Json :=
  .obj [("id", .str request.callId), ("type", .str "function"),
    ("function", .obj [("name", .str request.name), ("arguments", .str request.argumentsJson)])]

/-- An answer with this message in its first choice. -/
def completion (answer choice : JsonObject) (others : List Json) (message : JsonObject) : Json :=
  .obj (answer.set "choices" (.arr (.obj (choice.set "message" (.obj message)) :: others)))

/-- A message that gives calls in the field for them. -/
def withCalls (message : JsonObject) (requests : List LlmToolCallRequest) : JsonObject :=
  message.set "tool_calls" (.arr (requests.map callJson))

/-- The field for calls is read back. -/
theorem standardCalls_withCalls (message : JsonObject) (requests : List LlmToolCallRequest) :
    host.standardCalls (withCalls message requests) = .ok requests := by
  have each : (requests.map callJson).mapM host.standardCall = .ok requests := by
    induction requests with
    | nil => rfl
    | cons request requests ih =>
        rw [List.map_cons, List.mapM_cons, ih]
        rfl
  rw [standardCalls, withCalls, JsonObject.get_set_self]
  exact each

/-- An answer is read from its message and its usage. -/
theorem parse_completion (host : LlmHost World) (hex : Nat → String) (answer choice : JsonObject)
    (others : List Json) (message : JsonObject) :
    host.parseChatCompletionResult hex (completion answer choice others message) =
      (host.messageCalls hex message).map fun calls => {
        text := host.normalizeMessageContent (message.get "content")
        toolCalls := calls
        usage := buildUsage (answer.get "usage") "prompt_tokens" "completion_tokens"
        finishReason := some (host.str ((choice.get "finish_reason").getD .null)) } := by
  have chosen : firstChoice (completion answer choice others message) =
      .ok (some (choice.set "message" (.obj message))) := by
    simp only [firstChoice, completion, Json.asObj, Option.bind_some, JsonObject.get_set_self]
  have usage : (answer.set "choices" (.arr (.obj (choice.set "message" (.obj message)) ::
      others))).get "usage" = answer.get "usage" :=
    answer.get_set_other _ (by decide)
  have finish : (choice.set "message" (.obj message)).get "finish_reason" =
      choice.get "finish_reason" :=
    choice.get_set_other _ (by decide)
  rw [parseChatCompletionResult, chosen]
  change (match ((choice.set "message" (.obj message)).get "message").getD (.obj []) with
    | .obj message => _ | _ => _) = _
  rw [JsonObject.get_set_self]
  change (host.messageCalls hex message >>= _) = _
  rw [finish, completion]
  cases host.messageCalls hex message with
  | error error => rfl
  | ok calls => exact congrArg Except.ok (by rw [← usage]; rfl)

/-- **Calls of the reasoning.** An answer that writes calls into its reasoning, and gives none in
the field for calls, is read as the one that gives the same calls there. -/
theorem parse_dsml_as_standard (host : LlmHost World) (hex : Nat → String)
    (reasoning : DsmlReasoning) (answer choice message : JsonObject) (others : List Json)
    (uncalled : host.standardCalls message = .ok [])
    (writes : message.get "reasoning_content" = some (.str reasoning.text)) :
    host.parseChatCompletionResult hex (completion answer choice others message) =
    host.parseChatCompletionResult hex (completion answer choice others (withCalls message
      ((reasoning.calls.map Prod.snd).mapIdx (DsmlCall.request hex)))) := by
  set requests := (reasoning.calls.map Prod.snd).mapIdx (DsmlCall.request hex)
  have searched {message : JsonObject}
      (writes : message.get "reasoning_content" = some (.str reasoning.text)) :
      reasoningCalls hex message = .ok requests := by
    rw [reasoningCalls, writes]
    exact congrArg Except.ok (parse_reasoning hex reasoning)
  have content : (withCalls message requests).get "content" = message.get "content" :=
    message.get_set_other _ (by decide)
  have kept : (withCalls message requests).get "reasoning_content" =
      message.get "reasoning_content" :=
    message.get_set_other _ (by decide)
  have written : host.messageCalls hex message = .ok requests := by
    rw [messageCalls, uncalled]
    exact searched writes
  have given : host.messageCalls hex (withCalls message requests) = .ok requests := by
    rw [messageCalls, standardCalls_withCalls]
    cases calls : requests.isEmpty with
    | true => exact (if_pos calls).trans (searched (kept.trans writes))
    | false => exact if_neg (by rw [calls]; exact Bool.false_ne_true)
  rw [parse_completion, parse_completion, written, given, content]

/-- The message with the example of the client's documentation, as `model_dump` gives it. -/
theorem parse_dsml_as_standard_example :
    let message : JsonObject := [("role", .str "assistant"), ("content", .null),
      ("tool_calls", .null), ("reasoning_content", .str runCommandReasoning.text)]
    let host : LlmHost PUnit := ⟨fun _ => "None", fun _ => "", fun _ => pure .null, fun _ _ => "0"⟩
    host.parseChatCompletionResult (fun _ => "9f86d081")
      (completion [("id", .str "cmpl-1")] [("finish_reason", .str "stop")] [] message) =
    host.parseChatCompletionResult (fun _ => "9f86d081")
      (completion [("id", .str "cmpl-1")] [("finish_reason", .str "stop")] []
        (withCalls message [DsmlCall.request (fun _ => "9f86d081") 0 runCommandCall])) :=
  parse_dsml_as_standard _ _ runCommandReasoning _ _ _ _ rfl rfl

end LlmHost

end FairyClaw
