import FairyClaw.Foundation.JsonText

/-! # The history of a conversation

A history is a list of message blocks and tool rounds. A block's body is a text or a
list of content segments, and reaches the model as a text or as a list of parts
(`FairyClaw.SessionMessageBlock.asOpenaiContent`). Segments are stored as dictionaries
and read back unchanged (`FairyClaw.ContentSegment.fromDict_toDict`).
-/

namespace FairyClaw

open Foundation

/-- `text or ""` -/
def orEmpty (text : Option String) : String := text.getD ""

/-- The types of segments. -/
inductive SegmentType
  | text
  | imageUrl
  | file
  | codeBlock
  deriving DecidableEq, Repr

namespace SegmentType

/-- The text of a type. -/
def value : SegmentType → String
  | text => "text"
  | imageUrl => "image_url"
  | file => "file"
  | codeBlock => "code_block"

/-- `SegmentType(value)`; none where it raises. -/
def ofValue? (value : String) : Option SegmentType :=
  [text, imageUrl, file, codeBlock].find? fun type => type.value = value

/-- A type is found by its text. -/
@[simp] theorem ofValue?_value (type : SegmentType) : ofValue? type.value = some type := by
  cases type <;> rfl

end SegmentType

/-- A part of a message: a text, an image or a file. -/
structure ContentSegment where
  type : SegmentType
  text : Option String := none
  imageUrl : Option JsonObject := none
  fileId : Option String := none
  fileKindDescription : Option String := none

namespace ContentSegment

/-- A segment with a text. -/
def textSegment (text : String) : ContentSegment := { type := .text, text := some text }

/-- A segment with an image. -/
def imageUrlSegment (url : String) : ContentSegment :=
  { type := .imageUrl, imageUrl := some [("url", .str url)] }

/-- A segment with a file. -/
def fileSegment (fileId : String) (fileKindDescription : Option String) : ContentSegment :=
  { type := .file, fileId := some fileId, fileKindDescription := fileKindDescription }

/-- `to_dict`: the fields that are set. -/
def toDict (segment : ContentSegment) : JsonObject :=
  [("type", .str segment.type.value)] ++
    (segment.text.map fun text => ("text", .str text)).toList ++
    (segment.imageUrl.map fun url => ("image_url", .obj url)).toList ++
    (segment.fileId.map fun id => ("file_id", .str id)).toList ++
    (segment.fileKindDescription.map fun hint => ("file_kind_description", .str hint)).toList

/-- Read a stored dictionary whose values have the fields' types; none where the type
is unknown and the enumeration raises. -/
def fromDict (data : JsonObject) : Option ContentSegment := do
  let type ← ((data.get "type").bind Json.asStr).bind SegmentType.ofValue?
  return {
    type := type
    text := (data.get "text").bind Json.asStr
    imageUrl := (data.get "image_url").bind Json.asObj
    fileId := (data.get "file_id").bind Json.asStr
    fileKindDescription := (data.get "file_kind_description").bind Json.asStr }

/-- A stored segment is read back. -/
theorem fromDict_toDict (segment : ContentSegment) : fromDict segment.toDict = some segment := by
  obtain ⟨type, text, imageUrl, fileId, hint⟩ := segment
  cases text <;> cases imageUrl <;> cases fileId <;> cases hint <;>
    simp [fromDict, toDict, JsonObject.get, List.lookup_cons, Json.asStr, Json.asObj]

/-- What the model is told about an attached file. -/
def fileAttachUsage (fileId : String) : String :=
  "Session file ID (copy exactly, do not truncate or invent): " ++ fileId ++ "\n" ++
    "When passing this file to a sub-agent, put this ID unchanged in the delegate_task " ++
    "attachments array. You can call list_session_files to verify first. " ++
    "Do not use a file_id_ prefix or fabricated IDs."

/-- `_file_segment_llm_text` -/
def fileLlmText (segment : ContentSegment) : String :=
  let hint := strip (orEmpty segment.fileKindDescription)
  let usage := fileAttachUsage (strip (orEmpty segment.fileId))
  if hint ≠ "" then hint ++ "\n\n" ++ usage
  else "The user uploaded a session file.\n\n" ++ usage

end ContentSegment

/-- What the model is given of a message: a text, or a list of parts. -/
inductive OpenaiContent
  | text (text : String)
  | parts (items : List JsonObject)

/-- An empty text. -/
def OpenaiContent.isEmpty : OpenaiContent → Bool
  | .text content => content = ""
  | .parts _ => false

/-- The roles of messages of the history. -/
inductive SessionMessageRole
  | system
  | user
  | assistant
  deriving DecidableEq, Repr

namespace SessionMessageRole

/-- The text of a role. -/
def value : SessionMessageRole → String
  | system => "system"
  | user => "user"
  | assistant => "assistant"

/-- `from_value`: unknown roles are read as the assistant's. -/
def fromValue (value : String) : SessionMessageRole :=
  let role := lower (strip value)
  if role = system.value then system
  else if role = user.value then user
  else assistant

/-- A role is found by its text. -/
@[simp] theorem fromValue_value (role : SessionMessageRole) : fromValue role.value = role := by
  cases role <;> decide

end SessionMessageRole

/-- A text, or segments. -/
inductive MessageBody
  | text (text : String)
  | segments (segments : List ContentSegment)

/-- `_segments_need_openai_multipart` -/
def segmentsNeedOpenaiMultipart (segments : List ContentSegment) : Bool :=
  segments.any fun segment =>
    segment.type = .imageUrl || !(segment.type = .text || segment.type = .file)

namespace MessageBody

/-- `as_plain_text`: the text of a body, with a line for each text and file. -/
def asPlainText : MessageBody → String
  | .text content => content
  | .segments items =>
      let chunks := items.filterMap fun segment =>
        if segment.type = .text ∧ orEmpty segment.text ≠ "" then segment.text
        else if segment.type = .file ∧ orEmpty segment.fileId ≠ "" then some segment.fileLlmText
        else none
      strip (String.intercalate "\n" chunks)

/-- `as_openai_content`: one text, or parts. -/
def asOpenaiContent : MessageBody → OpenaiContent
  | .text content => .text content
  | .segments items =>
      if segmentsNeedOpenaiMultipart items then
        .parts (items.map fun segment =>
          if segment.type = .file ∧ orEmpty segment.fileId ≠ "" then
            [("type", .str "text"), ("text", .str segment.fileLlmText)]
          else segment.toDict)
      else
        let parts := items.filterMap fun segment =>
          if segment.type = .text then
            if orEmpty segment.text ≠ "" then segment.text else none
          else if segment.type = .file ∧ orEmpty segment.fileId ≠ "" then some segment.fileLlmText
          else none
        .text (String.intercalate "\n\n" parts)

/-- A lone text segment reaches the model as its text. -/
theorem asOpenaiContent_text {segment : ContentSegment} (isText : segment.type = .text) :
    (MessageBody.segments [segment]).asOpenaiContent = .text (orEmpty segment.text) := by
  by_cases blank : orEmpty segment.text = ""
  · simp [asOpenaiContent, segmentsNeedOpenaiMultipart, isText, blank]
  · cases given : segment.text with
    | none => exact absurd (by rw [given]; rfl) blank
    | some text =>
        simp only [given, orEmpty, Option.getD_some] at blank
        simp [asOpenaiContent, segmentsNeedOpenaiMultipart, isText, given, orEmpty, blank]

end MessageBody

/-- A message of the history. -/
structure SessionMessageBlock where
  role : SessionMessageRole
  body : MessageBody

namespace SessionMessageBlock

/-- The text of a message. -/
def asPlainText (block : SessionMessageBlock) : String := block.body.asPlainText

/-- The content of a message, for the model. -/
def asOpenaiContent (block : SessionMessageBlock) : OpenaiContent := block.body.asOpenaiContent

/-- `from_segments`: no block without segments, and a lone text becomes a text body. -/
def fromSegments (role : SessionMessageRole) : List ContentSegment → Option SessionMessageBlock
  | [] => none
  | [segment] =>
      if segment.type = .text then some { role := role, body := .text (orEmpty segment.text) }
      else some { role := role, body := .segments [segment] }
  | segments => some { role := role, body := .segments segments }

/-- The model sees a block built from segments as it sees the segments. -/
theorem fromSegments_content {role : SessionMessageRole} {segments : List ContentSegment}
    {block : SessionMessageBlock} (built : fromSegments role segments = some block) :
    block.role = role ∧
      block.asOpenaiContent = (MessageBody.segments segments).asOpenaiContent := by
  unfold fromSegments at built
  split at built
  · cases built
  · next segment =>
      split at built
      · next isText =>
          cases built
          exact ⟨rfl, (MessageBody.asOpenaiContent_text isText).symm⟩
      · cases built
        exact ⟨rfl, rfl⟩
  · cases built
    exact ⟨rfl, rfl⟩

/-- Segments make a message when there is one of them. -/
theorem fromSegments_isSome (role : SessionMessageRole) {segments : List ContentSegment}
    (some_segment : segments ≠ []) : ∃ block, fromSegments role segments = some block := by
  unfold fromSegments
  split
  · exact absurd rfl some_segment
  · split
    · exact ⟨_, rfl⟩
    · exact ⟨_, rfl⟩
  · exact ⟨_, rfl⟩

end SessionMessageBlock

/-- A call of a tool, and its result. -/
structure ToolCallRound where
  toolName : String
  callId : String
  argumentsJson : String
  toolResult : String
  success : Bool := true

/-- A message, or a round. -/
inductive ChatHistoryItem
  | block (block : SessionMessageBlock)
  | round (round : ToolCallRound)

/-- The message of the user that a turn is about. -/
structure UserTurn where
  message : SessionMessageBlock

/-- `UserTurn.from_segments` -/
def UserTurn.fromSegments (segments : List ContentSegment) : Option UserTurn :=
  (SessionMessageBlock.fromSegments .user segments).map UserTurn.mk

end FairyClaw
