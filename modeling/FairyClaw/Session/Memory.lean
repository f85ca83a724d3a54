import FairyClaw.Context.Assembler

/-! # Storing and loading the history

Message blocks and tool rounds are stored as event rows and parsed again when the
history is loaded. What the model sees of them comes back exactly when every round has
arguments that are not blank and every block has a segment
(`FairyClaw.getHistory_iff`): blank arguments are taken for a row of the old format.
-/

namespace FairyClaw

open Foundation

/-- A row of the event table. -/
structure EventRow where
  id : String
  type : String
  role : Option String := none
  content : Option Json := none
  toolName : Option String := none
  toolArgs : Option Json := none
  toolResult : Option Json := none

/-- `SESSION_EVENT` -/
def sessionEventType : String := "session_event"

/-- `OPERATION_EVENT` -/
def operationEventType : String := "operation_event"

/-- `EventRepository.history` on the rows of a session in the order of insertion. -/
def historyRows (rows : List EventRow) (limit : Nat) : List EventRow :=
  rows.drop (rows.length - limit)

/-! ## Writing -/

/-- `_serialize_message_content` -/
def serializeMessageContent (message : SessionMessageBlock) : List JsonObject :=
  match message.body with
  | .segments segments => segments.map ContentSegment.toDict
  | .text _ => [(ContentSegment.textSegment message.asPlainText).toDict]

/-- `PersistentMemory.add_session_event`; `id` is the key of the new row. -/
def addSessionEvent (rows : List EventRow) (id : String) (message : SessionMessageBlock) :
    List EventRow :=
  rows ++ [{
    id := id
    type := sessionEventType
    role := some message.role.value
    content := some (.arr ((serializeMessageContent message).map Json.obj)) }]

/-- The dictionary that a round's call id and arguments are stored in. -/
def wrapToolArgs (round : ToolCallRound) : JsonObject :=
  [("tool_call_id", .str round.callId), ("arguments_json", .str round.argumentsJson)]

/-- `PersistentMemory.add_operation_event` -/
def addOperationEvent (rows : List EventRow) (id : String) (round : ToolCallRound) :
    List EventRow :=
  rows ++ [{
    id := id
    type := operationEventType
    toolName := some round.toolName
    toolArgs := some (.obj (wrapToolArgs round))
    toolResult := some (.str round.toolResult) }]

/-- Write one item of a history. -/
def addEvent (rows : List EventRow) (entry : String × ChatHistoryItem) : List EventRow :=
  match entry.2 with
  | .block block => addSessionEvent rows entry.1 block
  | .round round => addOperationEvent rows entry.1 round

/-- Write items one after the other. -/
def persist (rows : List EventRow) (entries : List (String × ChatHistoryItem)) : List EventRow :=
  entries.foldl addEvent rows

/-! ## Reading -/

namespace ToolCallRound

/-- `_extract_tool_call_id` -/
def extractToolCallId (eventId : String) (toolArgs : Json) : String :=
  let suffix :=
    if eventId ≠ "" then
      String.ofList (eventId.toList.drop (eventId.toList.length - 6))
    else "hist"
  match (toolArgs.asObj.bind fun args => JsonObject.get args "tool_call_id").bind Json.asStr with
  | some toolCallId => if strip toolCallId ≠ "" then toolCallId else "tc_h_" ++ suffix
  | none => "tc_h_" ++ suffix

/-- `_extract_arguments_json` -/
def extractArgumentsJson : Json → String
  | .obj args =>
      match (JsonObject.get args "arguments_json").bind Json.asStr with
      | some argumentsJson =>
          if strip argumentsJson ≠ "" then argumentsJson else Json.dumps (.obj args)
      | none => Json.dumps (.obj args)
  | .str args => if strip args ≠ "" then args else "\x7b\x7d"
  | _ => "\x7b\x7d"

/-- `from_persisted`; `strOf` is `str` on values other than strings. -/
def fromPersisted (strOf : Json → String) (eventId toolName : String) (toolArgs : Json)
    (toolResult : Option Json) : ToolCallRound where
  toolName := toolName
  callId := extractToolCallId eventId toolArgs
  argumentsJson := extractArgumentsJson toolArgs
  toolResult :=
    match toolResult with
    | none | some .null => ""
    | some (.str text) => text
    | some value => strOf value
  success := true

end ToolCallRound

/-- `value or {}` -/
def orEmptyObject : Option Json → Json
  | some value => if value.truthy then value else .obj []
  | none => .obj []

/-- The items that `get_history` makes of one row; none where a segment raises. -/
def parseRow (strOf : Json → String) (row : EventRow) : Option (List ChatHistoryItem) :=
  if row.type = sessionEventType then do
    let rawContent := (row.content.bind Json.asArr).getD []
    let segments ← (rawContent.filterMap Json.asObj).mapM ContentSegment.fromDict
    let role := SessionMessageRole.fromValue (orElse (orEmpty row.role) "assistant")
    return ((SessionMessageBlock.fromSegments role segments).map ChatHistoryItem.block).toList
  else if row.type = operationEventType then
    some [.round (ToolCallRound.fromPersisted strOf row.id (orEmpty row.toolName)
      (orEmptyObject row.toolArgs) row.toolResult)]
  else some []

/-- `PersistentMemory.get_history` -/
def getHistory (strOf : Json → String) (rows : List EventRow) (limit : Nat) :
    Option (List ChatHistoryItem) :=
  ((historyRows rows limit).mapM (parseRow strOf)).map List.flatten

/-! ## The round trip -/

/-- The segments that a body is stored as. -/
def MessageBody.storedSegments : MessageBody → List ContentSegment
  | .text content => [ContentSegment.textSegment content]
  | .segments items => items

/-- What is loaded for a stored item. -/
def reread : ChatHistoryItem → Option ChatHistoryItem
  | .block block =>
      (SessionMessageBlock.fromSegments block.role block.body.storedSegments).map .block
  | .round round =>
      some (.round {
        toolName := round.toolName
        callId := round.callId
        argumentsJson := ToolCallRound.extractArgumentsJson (.obj (wrapToolArgs round))
        toolResult := round.toolResult })

/-- The call id of a round is not blank. -/
def Named : ChatHistoryItem → Prop
  | .block _ => True
  | .round round => strip round.callId ≠ ""

/-- The arguments of a round are not blank, and a block has a segment. -/
def Storable : ChatHistoryItem → Prop
  | .block block => block.body.storedSegments ≠ []
  | .round round => strip round.argumentsJson ≠ ""

/-- The row of an item. -/
def rowOf (entry : String × ChatHistoryItem) : EventRow :=
  match entry.2 with
  | .block block =>
      { id := entry.1
        type := sessionEventType
        role := some block.role.value
        content := some (.arr ((serializeMessageContent block).map Json.obj)) }
  | .round round =>
      { id := entry.1
        type := operationEventType
        toolName := some round.toolName
        toolArgs := some (.obj (wrapToolArgs round))
        toolResult := some (.str round.toolResult) }

/-- The rows that writing items appends. -/
theorem persist_eq (rows : List EventRow) (entries : List (String × ChatHistoryItem)) :
    persist rows entries = rows ++ entries.map rowOf := by
  induction entries generalizing rows with
  | nil => simp [persist]
  | cons entry rest ih =>
      have added : addEvent rows entry = rows ++ [rowOf entry] := by
        obtain ⟨id, item⟩ := entry
        cases item <;> rfl
      have others := ih (addEvent rows entry)
      rw [persist] at others ⊢
      rw [List.foldl_cons, others, added]
      simp

/-- Stored segments are read back. -/
theorem mapM_fromDict (segments : List ContentSegment) :
    segments.mapM (ContentSegment.fromDict ∘ ContentSegment.toDict) = some segments := by
  induction segments with
  | nil => rfl
  | cons segment rest ih => simp [ContentSegment.fromDict_toDict, ih]

/-- A message is stored by its segments. -/
theorem serializeMessageContent_eq (block : SessionMessageBlock) :
    serializeMessageContent block = block.body.storedSegments.map ContentSegment.toDict := by
  obtain ⟨role, body⟩ := block
  cases body <;> rfl

variable (strOf : Json → String)

/-- A stored call id is read back. -/
theorem extractToolCallId_wrap (id : String) {round : ToolCallRound}
    (named : strip round.callId ≠ "") :
    ToolCallRound.extractToolCallId id (.obj (wrapToolArgs round)) = round.callId := by
  simp [ToolCallRound.extractToolCallId, wrapToolArgs, Json.asObj, JsonObject.get, Json.asStr, named]

/-- A stored item is read back as it is reread. -/
theorem parseRow_rowOf {entry : String × ChatHistoryItem} (named : Named entry.2) :
    parseRow strOf (rowOf entry) = some (reread entry.2).toList := by
  obtain ⟨id, item⟩ := entry
  cases item with
  | block block =>
      have raw : ((block.body.storedSegments.map ContentSegment.toDict).map Json.obj).filterMap
          Json.asObj = block.body.storedSegments.map ContentSegment.toDict := by
        simp [List.filterMap_map, Function.comp_def, Json.asObj]
      have role : SessionMessageRole.fromValue (orElse block.role.value "assistant") =
          block.role := by
        cases block.role <;> decide
      simp [parseRow, rowOf, serializeMessageContent_eq, Json.asArr, raw, mapM_fromDict, orEmpty,
        role, reread, -List.map_map]
  | round round =>
      have kept : orEmptyObject (some (.obj (wrapToolArgs round))) = .obj (wrapToolArgs round) := rfl
      have other : operationEventType ≠ sessionEventType := by decide
      simp [parseRow, rowOf, other, kept, reread, ToolCallRound.fromPersisted, orEmpty,
        extractToolCallId_wrap id named]

/-- A history within the limit is read back item by item. -/
theorem getHistory_persist {entries : List (String × ChatHistoryItem)} {limit : Nat}
    (fits : entries.length ≤ limit) (named : ∀ entry ∈ entries, Named entry.2) :
    getHistory strOf (persist [] entries) limit =
      some (entries.filterMap fun entry => reread entry.2) := by
  have all : historyRows (persist [] entries) limit = entries.map rowOf := by
    simp [historyRows, persist_eq, Nat.sub_eq_zero_of_le fits]
  have parsed : (entries.map rowOf).mapM (parseRow strOf) =
      some (entries.map fun entry => (reread entry.2).toList) := by
    clear fits all
    induction entries with
    | nil => rfl
    | cons entry rest ih =>
        have others := ih fun entry member => named entry (List.mem_cons_of_mem _ member)
        simp [parseRow_rowOf strOf (named entry List.mem_cons_self), others]
  rw [getHistory, all, parsed, Option.map_some, ← List.flatMap_def,
    List.filterMap_eq_flatMap_toList]

/-- An item keeps its transcript exactly when it is storable. -/
theorem transcript_reread_iff (item : ChatHistoryItem) :
    (reread item).map ChatHistoryItem.transcript = some item.transcript ↔ Storable item := by
  cases item with
  | block block =>
      by_cases empty : block.body.storedSegments = []
      · simp [reread, Storable, empty, SessionMessageBlock.fromSegments]
      · obtain ⟨loaded, built⟩ := SessionMessageBlock.fromSegments_isSome block.role empty
        obtain ⟨role, content⟩ := SessionMessageBlock.fromSegments_content built
        have same : (MessageBody.segments block.body.storedSegments).asOpenaiContent =
            block.asOpenaiContent := by
          rw [SessionMessageBlock.asOpenaiContent]
          cases block.body with
          | segments items => rfl
          | text content => exact MessageBody.asOpenaiContent_text rfl
        simp [reread, Storable, empty, built, ChatHistoryItem.transcript, role, content, same]
  | round round =>
      have stored : (reread (.round round)).map ChatHistoryItem.transcript =
          some (.round round.toolName round.callId
            (ToolCallRound.extractArgumentsJson (.obj (wrapToolArgs round)))
            round.toolResult) := rfl
      rw [stored]
      have read : ToolCallRound.extractArgumentsJson (.obj (wrapToolArgs round)) =
          if strip round.argumentsJson ≠ "" then round.argumentsJson
          else Json.dumps (.obj (wrapToolArgs round)) := by
        simp [ToolCallRound.extractArgumentsJson, wrapToolArgs, JsonObject.get, List.lookup_cons,
          Json.asStr]
      rw [read]
      by_cases blank : strip round.argumentsJson = ""
      · have different : Json.dumps (.obj (wrapToolArgs round)) ≠ round.argumentsJson := by
          intro same
          exact Json.strip_dumps_obj (wrapToolArgs round) (by rw [same, blank])
        simp [Storable, blank, ChatHistoryItem.transcript, different]
      · simp [Storable, blank, ChatHistoryItem.transcript]

/-- Filtering keeps every item as a given image exactly when each item has that image. -/
theorem filterMap_eq_map_iff {Item Image : Type} {read : Item → Option Image}
    {image : Item → Image} {items : List Item} :
    items.filterMap read = items.map image ↔ ∀ item ∈ items, read item = some (image item) := by
  induction items with
  | nil => simp
  | cons item rest ih =>
      cases found : read item with
      | some value => simp [found, ih]
      | none =>
          have shorter := List.length_filterMap_le read rest
          constructor
          · intro same
            have lengths := congrArg List.length same
            simp only [List.filterMap_cons_none found, List.length_map, List.length_cons] at lengths
            omega
          · intro every
            simp [every item List.mem_cons_self] at found

/-- The model gets the stored items back exactly when all of them are storable. -/
theorem getHistory_iff {entries : List (String × ChatHistoryItem)} {limit : Nat}
    (fits : entries.length ≤ limit) (named : ∀ entry ∈ entries, Named entry.2) :
    (getHistory strOf (persist [] entries) limit).map (List.map ChatHistoryItem.transcript) =
        some (entries.map fun entry => entry.2.transcript) ↔
      ∀ entry ∈ entries, Storable entry.2 := by
  rw [getHistory_persist strOf fits named, Option.map_some, Option.some_inj, List.map_filterMap,
    filterMap_eq_map_iff]
  simp only [transcript_reread_iff]

/-- A call without arguments, as a provider may emit it. -/
def bareRound : ToolCallRound where
  toolName := "list_session_files"
  callId := "tc_1_1"
  argumentsJson := ""
  toolResult := "[]"

/-- Blank arguments come back as the text of the stored wrapper. -/
theorem bareRound_wrapped :
    (getHistory (fun _ => "") (persist [] [("evt_1", .round bareRound)]) 50).map
        (List.map ChatHistoryItem.transcript) ≠
      some [(ChatHistoryItem.round bareRound).transcript] := by
  intro same
  have named : ∀ entry ∈ [("evt_1", ChatHistoryItem.round bareRound)], Named entry.2 := by
    intro entry member
    rw [List.mem_singleton.mp member]
    show strip "tc_1_1" ≠ ""
    decide
  rw [getHistory_persist _ (by decide) named] at same
  have read : (reread (.round bareRound)).map ChatHistoryItem.transcript =
      some (ChatHistoryItem.round bareRound).transcript := by
    simpa [reread] using same
  have storable : strip bareRound.argumentsJson ≠ "" := (transcript_reread_iff _).mp read
  exact storable (by decide)

/-- A message and a round with arguments. -/
def greeting : List (String × ChatHistoryItem) :=
  [("evt_1", .block { role := .user, body := .text "hello" }),
    ("evt_2", .round { bareRound with argumentsJson := "[]" })]

/-- The greeting is read back exactly when its items are storable. -/
theorem getHistory_iff_greeting :
    (getHistory (fun _ => "") (persist [] greeting) 50).map (List.map ChatHistoryItem.transcript) =
        some (greeting.map fun entry => entry.2.transcript) ↔
      ∀ entry ∈ greeting, Storable entry.2 := by
  have named : ∀ entry ∈ greeting, Named entry.2 := by
    intro entry member
    rcases List.mem_cons.mp member with rfl | member
    · trivial
    · rw [List.mem_singleton.mp member]
      show strip "tc_1_1" ≠ ""
      decide
  exact getHistory_iff (fun _ => "") (by decide) named

end FairyClaw
