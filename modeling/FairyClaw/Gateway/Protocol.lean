import FairyClaw.Context.HistoryIr
import FairyClaw.Foundation.Decimal
import FairyClaw.Gateway.Onebot
import FairyClaw.Gateway.WebGateway

/-! # The messages of the bridge protocol

Frames and their payloads are written as JSON objects and read back. Encoding and decoding are
written by hand for each type, with optional fields left out and defaults filled in. A written
message is read back as it was, and what was read once is written and read without a further change,
except a version or a timestamp that is read as zero (`FairyClaw.bridge_messages_round_trip`).
-/

namespace FairyClaw

namespace GatewayProtocol

open Foundation

/-- `PROTOCOL_VERSION` -/
def protocolVersion : Int := 2

/-- Built-in conversions of values that are not strings or integers, those that raise being `none`,
and what the clock and the generator of ids give. -/
structure ProtocolEnv where
  strOf : Json → String
  intOf : Json → Option Int
  newFrameId : String
  nowMs : Int
  strOf_ne : ∀ value, strOf value ≠ ""
  newFrameId_ne : newFrameId ≠ ""
  nowMs_ne : nowMs ≠ 0

/-- A format of JSON values that reads what it has written. -/
structure JsonCodec (Text : Type) where
  dumps : Json → Text
  loads : Text → Option Json
  loads_dumps : ∀ value, loads (dumps value) = some value

namespace ProtocolEnv

variable (env : ProtocolEnv)

/-- `str` -/
def str : Json → String
  | .str text => text
  | value => env.strOf value

/-- `int` -/
def int : Json → Option Int
  | .int number => some number
  | value => env.intOf value

/-- `str(value or default)` -/
def textOr (value : Option Json) (default : String) : String :=
  match value with
  | none => default
  | some value => if value.truthy then env.str value else default

/-- `int(value or default)` -/
def numberOr (value : Option Json) (default : Int) : Option Int :=
  match value with
  | none => some default
  | some value => if value.truthy then env.int value else some default

/-- A text that is empty is replaced by the default. -/
theorem textOr_str (text default : String) :
    env.textOr (some (.str text)) default = if text = "" then default else text := by
  by_cases blank : text = ""
  · simp [textOr, Json.truthy, blank]
  · simp [textOr, Json.truthy, blank, str]

/-- With an empty default, a text is read as it is. -/
theorem textOr_empty (text : String) : env.textOr (some (.str text)) "" = text := by
  rw [textOr_str]
  split
  · rename_i blank
    exact blank.symm
  · rfl

/-- With a default there is always a text. -/
theorem textOr_ne {default : String} (filled : default ≠ "") (value : Option Json) :
    env.textOr value default ≠ "" := by
  unfold textOr
  cases value with
  | none => exact filled
  | some value =>
      simp only
      split
      · rename_i truthy
        cases value with
        | str text => simpa [Json.truthy, str] using truthy
        | _ => exact env.strOf_ne _
      · exact filled

/-- A number that is zero is replaced by the default. -/
theorem numberOr_int (number default : Int) :
    env.numberOr (some (.int number)) default =
      some (if number = 0 then default else number) := by
  by_cases zero : number = 0
  · simp [numberOr, Json.truthy, zero]
  · simp [numberOr, Json.truthy, zero, int]

end ProtocolEnv

/-! ## Frames -/

/-- A key is looked up in the first part first. -/
theorem get_append (first second : JsonObject) (key : String) :
    JsonObject.get (first ++ second) key = (first.get key).or (second.get key) :=
  List.lookup_append

/-- The first entry is looked up first. -/
theorem get_cons (name key : String) (value : Json) (rest : JsonObject) :
    JsonObject.get ((name, value) :: rest) key =
      if key = name then some value else JsonObject.get rest key := by
  by_cases same : key = name
  · rw [if_pos same, same]
    exact List.lookup_cons_self
  · rw [if_neg same, JsonObject.get, List.lookup_cons, beq_false_of_ne same]
    rfl

/-- An entry that is left out without a value. -/
def optionalEntry {Value : Type} (key : String) (write : Value → Json) (value : Option Value) :
    JsonObject :=
  (value.map fun value => (key, write value)).toList

/-- An optional entry is found when it is written. -/
theorem get_optionalEntry {Value : Type} (name key : String) (write : Value → Json)
    (value : Option Value) :
    JsonObject.get (optionalEntry name write value) key =
      if key = name then value.map write else none := by
  cases value with
  | none => exact (ite_self _).symm
  | some value => exact get_cons name key (write value) []

mutual

/-- `_to_json_compatible` of a JSON value -/
def toJsonCompatible : Json → Json
  | .arr items => .arr (compatibleItems items)
  | .obj fields => .obj (compatibleFields fields)
  | value => value

/-- The items of an array, one by one. -/
def compatibleItems : List Json → List Json
  | [] => []
  | item :: items => toJsonCompatible item :: compatibleItems items

/-- The fields of an object, one by one. -/
def compatibleFields : List (String × Json) → List (String × Json)
  | [] => []
  | (key, item) :: fields => (key, toJsonCompatible item) :: compatibleFields fields

end

mutual

/-- JSON values are compatible as they are. -/
theorem toJsonCompatible_eq : ∀ value : Json, toJsonCompatible value = value
  | .arr items => by rw [toJsonCompatible, compatibleItems_eq items]
  | .obj fields => by rw [toJsonCompatible, compatibleFields_eq fields]
  | .null => rfl
  | .bool _ => rfl
  | .int _ => rfl
  | .float _ => rfl
  | .str _ => rfl

/-- So are the items of an array. -/
theorem compatibleItems_eq : ∀ items : List Json, compatibleItems items = items
  | [] => rfl
  | item :: items => by rw [compatibleItems, toJsonCompatible_eq item, compatibleItems_eq items]

/-- So are the fields of an object. -/
theorem compatibleFields_eq : ∀ fields : List (String × Json), compatibleFields fields = fields
  | [] => rfl
  | (key, item) :: fields => by
      rw [compatibleFields, toJsonCompatible_eq item, compatibleFields_eq fields]

end

/-- `BridgeFrame` -/
structure BridgeFrame where
  type : String
  payload : JsonObject
  id : String
  tsMs : Int
  v : Int := protocolVersion
  trace : Option JsonObject := none

namespace BridgeFrame

/-- `to_dict` of a frame. -/
def toDict (frame : BridgeFrame) : JsonObject :=
  [("v", .int frame.v), ("type", .str frame.type), ("id", .str frame.id),
    ("ts_ms", .int frame.tsMs), ("payload", toJsonCompatible (.obj frame.payload))] ++
    optionalEntry "trace" (fun trace => toJsonCompatible (.obj trace)) frame.trace

/-- `from_dict`; none where `int` raises. -/
def fromDict (env : ProtocolEnv) (data : JsonObject) : Option BridgeFrame := do
  let v ← env.numberOr (data.get "v") protocolVersion
  let tsMs ← env.numberOr (data.get "ts_ms") env.nowMs
  return {
    v := v
    type := env.textOr (data.get "type") ""
    id := env.textOr (data.get "id") env.newFrameId
    tsMs := tsMs
    payload := ((data.get "payload").bind Json.asObj).getD []
    trace := (data.get "trace").bind Json.asObj }

variable {Text : Type} (codec : JsonCodec Text) (env : ProtocolEnv)

/-- `to_json` of a frame. -/
def toJson (frame : BridgeFrame) : Text := codec.dumps (.obj frame.toDict)

/-- `from_json`; a value that is not a dictionary has no `get`. -/
def fromJson (raw : Text) : Option BridgeFrame :=
  ((codec.loads raw).bind Json.asObj).bind (fromDict env)

/-- A written frame is read with its own fields; a version or a timestamp of zero and an empty id
are read as missing. -/
theorem fromDict_toDict (frame : BridgeFrame) :
    fromDict env frame.toDict = some { frame with
      v := if frame.v = 0 then protocolVersion else frame.v
      tsMs := if frame.tsMs = 0 then env.nowMs else frame.tsMs
      id := if frame.id = "" then env.newFrameId else frame.id } := by
  obtain ⟨type, payload, id, tsMs, v, trace⟩ := frame
  have fields : (toDict ⟨type, payload, id, tsMs, v, trace⟩).get "v" = some (.int v) ∧
      (toDict ⟨type, payload, id, tsMs, v, trace⟩).get "type" = some (.str type) ∧
      (toDict ⟨type, payload, id, tsMs, v, trace⟩).get "id" = some (.str id) ∧
      (toDict ⟨type, payload, id, tsMs, v, trace⟩).get "ts_ms" = some (.int tsMs) ∧
      (toDict ⟨type, payload, id, tsMs, v, trace⟩).get "payload" = some (.obj payload) ∧
      (toDict ⟨type, payload, id, tsMs, v, trace⟩).get "trace" = trace.map Json.obj := by
    have trace : (toDict ⟨type, payload, id, tsMs, v, trace⟩).get "trace" = trace.map Json.obj := by
      simp only [toDict, List.cons_append, List.nil_append, get_cons, get_optionalEntry,
        toJsonCompatible_eq, String.reduceEq, ↓reduceIte]
    refine ⟨rfl, rfl, rfl, rfl, ?_, trace⟩
    rw [← toJsonCompatible_eq (.obj payload)]
    rfl
  obtain ⟨isV, isType, isId, isTs, isPayload, isTrace⟩ := fields
  rw [fromDict, isV, isType, isId, isTs, isPayload, isTrace, env.numberOr_int, env.numberOr_int,
    env.textOr_empty, env.textOr_str]
  cases trace <;> rfl

/-- A frame with an id, a version and a timestamp is read back. -/
theorem fromDict_toDict_of_ne {frame : BridgeFrame} (id : frame.id ≠ "") (v : frame.v ≠ 0)
    (tsMs : frame.tsMs ≠ 0) : fromDict env frame.toDict = some frame := by
  rw [fromDict_toDict, if_neg v, if_neg tsMs, if_neg id]

/-- A frame reads back from its text as from its dictionary. -/
theorem fromJson_toJson (frame : BridgeFrame) :
    fromJson codec env (frame.toJson codec) = fromDict env frame.toDict := by
  rw [fromJson, toJson, codec.loads_dumps]
  rfl

/-- A frame that was read has an id. -/
theorem id_ne_of_fromDict {data : JsonObject} {frame : BridgeFrame}
    (read : fromDict env data = some frame) : frame.id ≠ "" := by
  obtain ⟨v, -, read⟩ := Option.bind_eq_some_iff.mp read
  obtain ⟨tsMs, -, read⟩ := Option.bind_eq_some_iff.mp read
  cases read
  exact env.textOr_ne env.newFrameId_ne _

end BridgeFrame

/-! ## Segments and senders -/

/-- A value that is not null. -/
abbrev NonNull := { value : Json // value ≠ .null }

/-- `value` or, for null, nothing -/
def nonNull : Json → Option NonNull
  | .null => none
  | .bool value => some ⟨.bool value, nofun⟩
  | .int value => some ⟨.int value, nofun⟩
  | .float printed => some ⟨.float printed, nofun⟩
  | .str text => some ⟨.str text, nofun⟩
  | .arr items => some ⟨.arr items, nofun⟩
  | .obj fields => some ⟨.obj fields, nofun⟩

/-- A value that is not null is one. -/
theorem nonNull_val (value : NonNull) : nonNull value.1 = some value := by
  obtain ⟨value, other⟩ := value
  cases value with
  | null => exact absurd rfl other
  | _ => rfl

/-- An optional value that is not null is one. -/
theorem bind_nonNull (value : Option NonNull) :
    (value.map Subtype.val).bind nonNull = value := by
  cases value with
  | none => rfl
  | some value => exact nonNull_val value

/-- A segment, its fields of any type: the decoder takes them as they come. -/
structure ContentSegment where
  type : SegmentType
  text : Option NonNull := none
  imageUrl : Option NonNull := none
  fileId : Option NonNull := none
  fileKindDescription : Option NonNull := none

namespace ContentSegment

/-- `to_dict` of a segment: the fields that are set. -/
def toDict (segment : ContentSegment) : JsonObject :=
  [("type", .str segment.type.value)] ++
    optionalEntry "text" Subtype.val segment.text ++
    optionalEntry "image_url" Subtype.val segment.imageUrl ++
    optionalEntry "file_id" Subtype.val segment.fileId ++
    optionalEntry "file_kind_description" Subtype.val segment.fileKindDescription

/-- `from_dict`; none where the type is unknown and the enumeration raises. -/
def fromDict (env : ProtocolEnv) (data : JsonObject) : Option ContentSegment := do
  let type ← SegmentType.ofValue? (env.str ((data.get "type").getD .null))
  return {
    type := type
    text := (data.get "text").bind nonNull
    imageUrl := (data.get "image_url").bind nonNull
    fileId := (data.get "file_id").bind nonNull
    fileKindDescription := (data.get "file_kind_description").bind nonNull }

/-- A segment reads back from its dictionary. -/
theorem segment_read_back (env : ProtocolEnv) (segment : ContentSegment) :
    fromDict env segment.toDict = some segment := by
  have type : segment.toDict.get "type" = some (.str segment.type.value) := rfl
  have text : segment.toDict.get "text" = segment.text.map Subtype.val := by
    simp only [toDict, List.cons_append, List.nil_append, get_cons, get_append, get_optionalEntry,
      String.reduceEq, ↓reduceIte, Option.or_none]
  have url : segment.toDict.get "image_url" = segment.imageUrl.map Subtype.val := by
    simp only [toDict, List.cons_append, List.nil_append, get_cons, get_append, get_optionalEntry,
      String.reduceEq, ↓reduceIte, Option.none_or, Option.or_none]
  have id : segment.toDict.get "file_id" = segment.fileId.map Subtype.val := by
    simp only [toDict, List.cons_append, List.nil_append, get_cons, get_append, get_optionalEntry,
      String.reduceEq, ↓reduceIte, Option.none_or, Option.or_none]
  have hint : segment.toDict.get "file_kind_description" =
      segment.fileKindDescription.map Subtype.val := by
    simp only [toDict, List.cons_append, List.nil_append, get_cons, get_append, get_optionalEntry,
      String.reduceEq, ↓reduceIte, Option.none_or, Option.or_none]
  rw [fromDict, type, text, url, id, hint]
  simp only [bind_nonNull, Option.getD_some, ProtocolEnv.str, SegmentType.ofValue?_value]
  rfl

/-- The dictionary of a segment names its type. -/
theorem truthy_type (segment : ContentSegment) :
    (segment.toDict.get "type").any Json.truthy = true := by
  have type : segment.toDict.get "type" = some (.str segment.type.value) := by
    simp [toDict, JsonObject.get]
  rw [type]
  cases segment.type <;> decide

end ContentSegment

/-- `str(data.get(key))` unless it is null -/
def optionalText (env : ProtocolEnv) (value : Option Json) : Option String :=
  (value.bind nonNull).map fun value => env.str value.1

/-- An optional text reads back. -/
theorem optionalText_str (env : ProtocolEnv) (text : Option String) :
    optionalText env (text.map Json.str) = text := by
  cases text with
  | none => rfl
  | some text => rfl

/-- `GatewaySenderRef.to_dict` -/
def senderToDict (sender : GatewaySenderRef) : JsonObject :=
  optionalEntry "platform" Json.str sender.platform ++
    optionalEntry "user_id" Json.str sender.userId ++
    optionalEntry "group_id" Json.str sender.groupId ++
    optionalEntry "self_id" Json.str sender.selfId

/-- `GatewaySenderRef.from_dict` -/
def senderFromDict (env : ProtocolEnv) (data : Option Json) : Option GatewaySenderRef :=
  (data.bind Json.asObj).map fun data => {
    platform := optionalText env (data.get "platform")
    userId := optionalText env (data.get "user_id")
    groupId := optionalText env (data.get "group_id")
    selfId := optionalText env (data.get "self_id") }

/-- A sender reads back from its dictionary. -/
theorem sender_read_back (env : ProtocolEnv) (sender : GatewaySenderRef) :
    senderFromDict env (some (.obj (senderToDict sender))) = some sender := by
  have platform : (senderToDict sender).get "platform" = sender.platform.map Json.str := by
    simp only [senderToDict, get_append, get_optionalEntry, String.reduceEq, ↓reduceIte,
      Option.or_none]
  have userId : (senderToDict sender).get "user_id" = sender.userId.map Json.str := by
    simp only [senderToDict, get_append, get_optionalEntry, String.reduceEq, ↓reduceIte,
      Option.none_or, Option.or_none]
  have groupId : (senderToDict sender).get "group_id" = sender.groupId.map Json.str := by
    simp only [senderToDict, get_append, get_optionalEntry, String.reduceEq, ↓reduceIte,
      Option.none_or, Option.or_none]
  have selfId : (senderToDict sender).get "self_id" = sender.selfId.map Json.str := by
    simp only [senderToDict, get_append, get_optionalEntry, String.reduceEq, ↓reduceIte,
      Option.none_or, Option.or_none]
  simp only [senderFromDict, Option.bind_some, Json.asObj, Option.map_some, platform, userId,
    groupId, selfId, optionalText_str]

/-! ## Inbound messages -/

/-- `GatewayInboundMessage` -/
structure GatewayInboundMessage where
  sessionId : String
  adapterKey : String
  segments : List ContentSegment
  triggerTurn : Bool
  sender : Option GatewaySenderRef := none
  taskType : Option String := none
  enabledGroups : Option (List String) := none
  metadata : JsonObject := []

namespace GatewayInboundMessage

/-- `to_payload` of an inbound message. -/
def toPayload (message : GatewayInboundMessage) : JsonObject :=
  [("session_id", .str message.sessionId), ("adapter_key", .str message.adapterKey),
    ("sender", (message.sender.map fun sender => .obj (senderToDict sender)).getD .null),
    ("segments", .arr (message.segments.map fun segment => .obj segment.toDict)),
    ("trigger_turn", .bool message.triggerTurn),
    ("task_type", (message.taskType.map .str).getD .null),
    ("enabled_groups",
      (message.enabledGroups.map fun groups => .arr (groups.map .str)).getD .null),
    ("meta", .obj message.metadata)]

/-- `from_payload`; none where a segment's type is unknown. -/
def fromPayload (env : ProtocolEnv) (payload : JsonObject) : Option GatewayInboundMessage := do
  let rawSegments := ((payload.get "segments").bind Json.asArr).getD []
  let segments ← ((rawSegments.filterMap Json.asObj).filter fun item =>
    (item.get "type").any Json.truthy).mapM (ContentSegment.fromDict env)
  return {
    sessionId := env.textOr (payload.get "session_id") ""
    adapterKey := env.textOr (payload.get "adapter_key") ""
    segments := segments
    triggerTurn := (payload.get "trigger_turn").any Json.truthy
    sender := senderFromDict env (payload.get "sender")
    taskType := ((payload.get "task_type").bind Json.asStr).map strip
    enabledGroups := ((payload.get "enabled_groups").bind Json.asArr).map fun groups =>
      (groups.filterMap Json.asStr).filter fun group => strip group ≠ ""
    metadata := ((payload.get "meta").bind Json.asObj).getD [] }

/-- The task type is trimmed, and no group name is blank. -/
structure Normal (message : GatewayInboundMessage) : Prop where
  taskType : ∀ taskType ∈ message.taskType, strip taskType = taskType
  enabledGroups : ∀ groups ∈ message.enabledGroups, ∀ group ∈ groups, strip group ≠ ""

/-- The segments of a message read back. -/
theorem segments_read_back (env : ProtocolEnv) (segments : List ContentSegment) :
    (((segments.map fun segment => Json.obj segment.toDict).filterMap Json.asObj).filter fun item =>
      (item.get "type").any Json.truthy).mapM (ContentSegment.fromDict env) = some segments := by
  have dicts : (segments.map fun segment => Json.obj segment.toDict).filterMap Json.asObj =
      segments.map ContentSegment.toDict := by
    rw [List.filterMap_map, ← List.filterMap_eq_map]
    rfl
  have typed : ∀ item ∈ segments.map ContentSegment.toDict,
      (item.get "type").any Json.truthy = true := by
    intro item listed
    obtain ⟨segment, -, rfl⟩ := List.mem_map.mp listed
    exact segment.truthy_type
  rw [dicts, List.filter_eq_self.mpr typed]
  clear dicts typed
  induction segments with
  | nil => rfl
  | cons segment segments ih =>
      rw [List.map_cons, List.mapM_cons, segment.segment_read_back env, ih]
      rfl

/-- A normal message is read back. -/
theorem message_read_back (env : ProtocolEnv) {message : GatewayInboundMessage}
    (normal : message.Normal) : fromPayload env message.toPayload = some message := by
  obtain ⟨sessionId, adapterKey, segments, triggerTurn, sender, taskType, groups, metadata⟩ :=
    message
  have isSender : senderFromDict env
      (some ((sender.map fun sender => Json.obj (senderToDict sender)).getD .null)) = sender := by
    cases sender with
    | none => rfl
    | some sender => exact sender_read_back env sender
  have isTaskType : ((some ((taskType.map Json.str).getD .null)).bind Json.asStr).map strip =
      taskType := by
    cases taskType with
    | none => rfl
    | some taskType => exact congrArg some (normal.taskType taskType rfl)
  have isGroups : ((some ((groups.map fun groups => Json.arr (groups.map .str)).getD .null)).bind
      Json.asArr).map (fun groups =>
        (groups.filterMap Json.asStr).filter fun group => strip group ≠ "") = groups := by
    cases groups with
    | none => rfl
    | some groups =>
        have names : (groups.map Json.str).filterMap Json.asStr = groups := by
          rw [List.filterMap_map]
          exact List.filterMap_some
        show some (((groups.map Json.str).filterMap Json.asStr).filter _) = some groups
        rw [names, List.filter_eq_self.mpr fun group listed =>
          decide_eq_true (normal.enabledGroups groups rfl group listed)]
  have raw : ((some (Json.arr (segments.map fun segment => .obj segment.toDict))).bind
      Json.asArr).getD [] = segments.map fun segment => .obj segment.toDict := rfl
  simp only [fromPayload, toPayload, get_cons, String.reduceEq, ↓reduceIte, raw,
    segments_read_back, env.textOr_empty, isSender, isTaskType, isGroups]
  rfl

/-- A message that was read is normal. -/
theorem normal_of_fromPayload {env : ProtocolEnv} {payload : JsonObject}
    {message : GatewayInboundMessage} (read : fromPayload env payload = some message) :
    message.Normal := by
  obtain ⟨segments, -, read⟩ := Option.bind_eq_some_iff.mp read
  cases read
  constructor
  · intro taskType given
    obtain ⟨raw, -, rfl⟩ := Option.map_eq_some_iff.mp given
    exact strip_strip raw
  · intro groups given group listed
    obtain ⟨raw, -, rfl⟩ := Option.map_eq_some_iff.mp given
    exact of_decide_eq_true (List.mem_filter.mp listed).2

end GatewayInboundMessage

end GatewayProtocol

open Foundation GatewayProtocol

/-! ## Outbound messages -/

namespace GatewayOutboundMessage

/-- `to_payload` of an outbound message. -/
def toPayload (message : GatewayOutboundMessage) : JsonObject :=
  [("session_id", .str message.sessionId), ("kind", .str message.kind),
    ("content", .obj message.content), ("meta", .obj message.metadata)] ++
    optionalEntry "adapter_key" Json.str message.adapterKey ++
    optionalEntry "sender_ref" Json.obj message.senderRef

/-- `from_payload` of an outbound message. -/
def fromPayload (env : ProtocolEnv) (payload : JsonObject) : GatewayOutboundMessage where
  sessionId := env.textOr (payload.get "session_id") ""
  kind := env.textOr (payload.get "kind") ""
  content := ((payload.get "content").bind Json.asObj).getD []
  metadata := ((payload.get "meta").bind Json.asObj).getD []
  adapterKey := ((payload.get "adapter_key").bind Json.asStr).bind fun raw => orNull (strip raw)
  senderRef := (payload.get "sender_ref").bind Json.asObj

/-- The adapter key, if there is one, is trimmed and not empty. -/
def Normal (message : GatewayOutboundMessage) : Prop :=
  ∀ key ∈ message.adapterKey, strip key = key ∧ key ≠ ""

/-- A normal message is read back. -/
theorem outbound_read_back (env : ProtocolEnv) {message : GatewayOutboundMessage}
    (normal : message.Normal) : fromPayload env message.toPayload = message := by
  obtain ⟨sessionId, kind, content, metadata, adapterKey, senderRef⟩ := message
  have isKey : ((adapterKey.map Json.str).bind Json.asStr).bind (fun raw => orNull (strip raw)) =
      adapterKey := by
    cases adapterKey with
    | none => rfl
    | some key =>
        obtain ⟨trimmed, filled⟩ := normal key rfl
        show orNull (strip key) = some key
        rw [trimmed, orNull, if_neg filled]
  have isRef : (senderRef.map Json.obj).bind Json.asObj = senderRef := by
    cases senderRef <;> rfl
  simp only [fromPayload, toPayload, List.cons_append, List.nil_append, get_cons, get_append,
    get_optionalEntry, String.reduceEq, ↓reduceIte, Option.or_none, Option.none_or,
    env.textOr_empty, isKey, isRef]
  rfl

/-- A message that was read is normal. -/
theorem normal_fromPayload (env : ProtocolEnv) (payload : JsonObject) :
    (fromPayload env payload).Normal := by
  intro key given
  obtain ⟨raw, -, found⟩ := Option.bind_eq_some_iff.mp given
  rw [orNull] at found
  split at found
  · cases found
  · rename_i filled
    cases found
    exact ⟨strip_strip raw, filled⟩

end GatewayOutboundMessage

/-- **Round trips of the bridge.** Normal messages and frames with an id, a positive version and a
positive timestamp are read back as they were written, through any format of JSON values that reads
what it writes. Whatever an accepted payload held, the message read from it is written and read
without a further change, and so is a frame exactly when neither its version nor its timestamp was
read as zero; the second reading may give other ids and times. -/
theorem bridge_messages_round_trip {Text : Type} (codec : JsonCodec Text)
    (env again : ProtocolEnv) :
    (∀ message : GatewayProtocol.GatewayInboundMessage, message.Normal →
      GatewayProtocol.GatewayInboundMessage.fromPayload env message.toPayload = some message) ∧
    (∀ message : GatewayOutboundMessage, message.Normal →
      GatewayOutboundMessage.fromPayload env message.toPayload = message) ∧
    (∀ frame : GatewayProtocol.BridgeFrame, frame.id ≠ "" → 0 < frame.v → 0 < frame.tsMs →
      GatewayProtocol.BridgeFrame.fromJson codec env (frame.toJson codec) = some frame) ∧
    (∀ payload message,
      GatewayProtocol.GatewayInboundMessage.fromPayload env payload = some message →
        GatewayProtocol.GatewayInboundMessage.fromPayload again message.toPayload = some message) ∧
    (∀ payload, GatewayOutboundMessage.fromPayload again
      (GatewayOutboundMessage.fromPayload env payload).toPayload =
        GatewayOutboundMessage.fromPayload env payload) ∧
    ∀ raw frame, GatewayProtocol.BridgeFrame.fromJson codec env raw = some frame →
      (GatewayProtocol.BridgeFrame.fromJson codec again (frame.toJson codec) = some frame ↔
        frame.v ≠ 0 ∧ frame.tsMs ≠ 0) := by
  refine ⟨fun message => GatewayProtocol.GatewayInboundMessage.message_read_back env,
    fun message => GatewayOutboundMessage.outbound_read_back env, ?_, ?_, ?_, ?_⟩
  · intro frame id v tsMs
    rw [GatewayProtocol.BridgeFrame.fromJson_toJson]
    exact GatewayProtocol.BridgeFrame.fromDict_toDict_of_ne env id v.ne' tsMs.ne'
  · intro payload message read
    exact GatewayProtocol.GatewayInboundMessage.message_read_back again
      (GatewayProtocol.GatewayInboundMessage.normal_of_fromPayload read)
  · intro payload
    exact GatewayOutboundMessage.outbound_read_back again
      (GatewayOutboundMessage.normal_fromPayload env payload)
  · intro raw frame read
    obtain ⟨data, -, read⟩ := Option.bind_eq_some_iff.mp read
    rw [GatewayProtocol.BridgeFrame.fromJson_toJson, GatewayProtocol.BridgeFrame.fromDict_toDict,
      if_neg (GatewayProtocol.BridgeFrame.id_ne_of_fromDict env read)]
    constructor
    · intro kept
      have kept := Option.some_inj.mp kept
      constructor
      · intro zero
        have version := congrArg GatewayProtocol.BridgeFrame.v kept
        simp only [if_pos zero] at version
        exact absurd (version.trans zero) (by decide)
      · intro zero
        have time := congrArg GatewayProtocol.BridgeFrame.tsMs kept
        simp only [if_pos zero] at time
        exact again.nowMs_ne (time.trans zero)
    · rintro ⟨v, tsMs⟩
      rw [if_neg v, if_neg tsMs]

/-! ## A version that is read as zero -/

/-- Conversions that read decimal digits; the clock stands at one. -/
def digitEnv : ProtocolEnv where
  strOf _ := "None"
  intOf
    | .str text => (parseInt text.toList).map Int.ofNat
    | _ => none
  newFrameId := "frm_1"
  nowMs := 1
  strOf_ne _ := by decide
  newFrameId_ne := by decide
  nowMs_ne := by decide

/-- A format that hands the values on as they are. -/
def valueCodec : JsonCodec Json where
  dumps := id
  loads := some
  loads_dumps _ := rfl

/-- A message with a sender and two groups. -/
def greetingMessage : GatewayProtocol.GatewayInboundMessage where
  sessionId := "sess_1"
  adapterKey := "onebot"
  segments := [{ type := .text, text := some ⟨.str "hello", nofun⟩ }]
  triggerTurn := true
  sender := some { platform := some "onebot", userId := some "7" }
  taskType := some "general"
  enabledGroups := some ["core_ops", "web_tools"]

/-- The frame that carries the message. -/
def greetingFrame : GatewayProtocol.BridgeFrame where
  type := "inbound"
  payload := greetingMessage.toPayload
  id := "frm_7"
  tsMs := 1700

/-- The frame is read back from its text, and the message from its payload. -/
theorem bridge_messages_round_trip_greeting :
    GatewayProtocol.BridgeFrame.fromJson valueCodec digitEnv (greetingFrame.toJson valueCodec) =
        some greetingFrame ∧
      GatewayProtocol.GatewayInboundMessage.fromPayload digitEnv greetingFrame.payload =
        some greetingMessage := by
  obtain ⟨inbound, -, frames, -⟩ := bridge_messages_round_trip valueCodec digitEnv digitEnv
  refine ⟨frames greetingFrame (by decide) (by decide) (by decide), inbound greetingMessage ?_⟩
  constructor
  · rintro _ ⟨⟩
    rfl
  · rintro _ ⟨⟩
    decide

/-- A heartbeat with the version "0". -/
def zeroVersion : JsonObject :=
  [("v", .str "0"), ("type", .str "heartbeat"), ("id", .str "frm_2"), ("ts_ms", .int 5),
    ("payload", .obj [])]

/-- The version is read as zero, written as zero, and read as the version of the protocol. -/
theorem zero_version_changes :
    (GatewayProtocol.BridgeFrame.fromDict digitEnv zeroVersion).map
        (fun frame => (frame.id, frame.tsMs, frame.v)) = some ("frm_2", 5, 0) ∧
      ((GatewayProtocol.BridgeFrame.fromDict digitEnv zeroVersion).bind fun frame =>
        GatewayProtocol.BridgeFrame.fromDict digitEnv frame.toDict).map
        (fun frame => (frame.id, frame.tsMs, frame.v)) = some ("frm_2", 5, 2) := by
  refine ⟨?_, ?_⟩
  · decide +kernel
  · decide +kernel

end FairyClaw
