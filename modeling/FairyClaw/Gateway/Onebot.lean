import FairyClaw.Foundation.Python
import FairyClaw.Foundation.Table
import Mathlib.Data.List.Sort

/-! # Sessions of OneBot senders

A OneBot sender is known by its platform, user, group and bot. The gateway keeps a route from each
session to a sender and the active session of each sender, and handles the messages of a sender as
session commands or as chat for the active session
(`FairyClaw.OnebotAdapter.processInboundMessage`).
-/

namespace FairyClaw

open Foundation

/-- `GatewaySenderRef` -/
structure GatewaySenderRef where
  platform : Option String := none
  userId : Option String := none
  groupId : Option String := none
  selfId : Option String := none
  deriving DecidableEq, Repr

/-- A normalised sender. -/
structure OnebotSender where
  platform : String
  userId : String
  groupId : String
  selfId : String
  deriving DecidableEq, Repr

/-- `_normalize_sender_value` -/
def normalizeSenderValue (value : Option String) : String := strip (value.getD "")

/-- `_normalize_onebot_sender_ref` -/
def normalizeOnebotSenderRef (ref : GatewaySenderRef) : OnebotSender where
  platform := orElse (normalizeSenderValue ref.platform) "onebot"
  userId := normalizeSenderValue ref.userId
  groupId := normalizeSenderValue ref.groupId
  selfId := normalizeSenderValue ref.selfId

/-- A blank text is stored as NULL. -/
def orNull (text : String) : Option String := if text = "" then none else some text

/-- Different texts are stored differently. -/
theorem orNull_inj {first second : String} : orNull first = orNull second ↔ first = second := by
  by_cases blank : first = "" <;> by_cases other : second = "" <;>
    simp only [orNull, blank, other, ↓reduceIte, reduceCtorEq, eq_comm, Option.some_inj]

/-- A row of the table `sessions`. -/
structure SessionModel where
  id : String
  title : Option String := none
  updatedAt : Int
  deriving DecidableEq, Repr

/-- A row of the table `gateway_session_routes`. -/
structure GatewaySessionRouteModel where
  sessionId : String
  adapterKey : Option String := none
  senderRef : GatewaySenderRef := {}
  senderPlatform : Option String := none
  senderUserId : Option String := none
  senderGroupId : Option String := none
  senderSelfId : Option String := none
  parentSessionId : Option String := none
  deriving DecidableEq, Repr

/-- A row of the table `onebot_sender_active`. -/
structure OnebotSenderActiveModel where
  adapterKey : String
  sender : OnebotSender
  activeSessionId : String
  deriving DecidableEq, Repr

/-- The three tables. -/
structure GatewayTables where
  sessions : Table SessionModel.id := {}
  routes : Table GatewaySessionRouteModel.sessionId := {}
  active : Table fun row : OnebotSenderActiveModel => (row.adapterKey, row.sender) := {}

namespace GatewaySessionRouteModel

/-- The columns of a row are those of a sender, as the queries of the repository compare them. -/
def Carries (row : GatewaySessionRouteModel) (adapterKey : String) (sender : OnebotSender) : Prop :=
  row.adapterKey = some adapterKey ∧
    row.senderPlatform = orNull sender.platform ∧ row.senderUserId = orNull sender.userId ∧
    row.senderGroupId = orNull sender.groupId ∧ row.senderSelfId = orNull sender.selfId

instance (row : GatewaySessionRouteModel) (adapterKey : String) (sender : OnebotSender) :
    Decidable (row.Carries adapterKey sender) := inferInstanceAs (Decidable (_ ∧ _))

end GatewaySessionRouteModel

/-- `OnebotSessionListItem` -/
structure OnebotSessionListItem where
  sessionId : String
  title : Option String
  updatedAt : Int
  deriving DecidableEq, Repr

namespace GatewayTables

variable (tables : GatewayTables)

/-- The primary key of `onebot_sender_active`. -/
def pkTuple (adapterKey : String) (ref : GatewaySenderRef) : String × OnebotSender :=
  (orElse (strip adapterKey) "onebot", normalizeOnebotSenderRef ref)

/-- `get_active_session_id` -/
def getActiveSessionId (adapterKey : String) (ref : GatewaySenderRef) : Option String :=
  (tables.active.get (pkTuple adapterKey ref)).map OnebotSenderActiveModel.activeSessionId

/-- `set_active_session_id` -/
def setActiveSessionId (adapterKey : String) (ref : GatewaySenderRef) (sessionId : String) :
    GatewayTables :=
  let key := pkTuple adapterKey ref
  let model : OnebotSenderActiveModel :=
    { adapterKey := key.1, sender := key.2, activeSessionId := sessionId }
  { tables with active := tables.active.put model }

/-- `clear_active_session_id` -/
def clearActiveSessionId (adapterKey : String) (ref : GatewaySenderRef) : GatewayTables :=
  { tables with active := tables.active.keep fun row =>
      (row.adapterKey, row.sender) ≠ pkTuple adapterKey ref }

/-- `GatewaySessionRouteRepository.bind` -/
def bind (sessionId : String) (adapterKey : Option String) (ref : GatewaySenderRef)
    (parentSessionId : Option String) : GatewayTables :=
  let model := (tables.routes.get sessionId).getD { sessionId := sessionId }
  let normalizeSender (value : Option String) := value.bind fun raw => orNull (strip raw)
  let row : GatewaySessionRouteModel :=
    { sessionId := sessionId
      adapterKey := match adapterKey with
        | none => model.adapterKey
        | some key => orNull (strip key)
      senderRef := ref
      senderPlatform := normalizeSender ref.platform
      senderUserId := normalizeSender ref.userId
      senderGroupId := normalizeSender ref.groupId
      senderSelfId := normalizeSender ref.selfId
      parentSessionId := match parentSessionId with
        | none => model.parentSessionId
        | some parent => orNull (strip parent) }
  { tables with routes := tables.routes.put row }

/-- `find_by_sender` -/
def findBySender (adapterKey : String) (ref : GatewaySenderRef) : Option String :=
  (tables.routes.rows.find? fun row => row.Carries adapterKey (normalizeOnebotSenderRef ref)).map
    GatewaySessionRouteModel.sessionId

/-- `get_for_onebot_sender` -/
def getForOnebotSender (sessionId : String) (ref : GatewaySenderRef) :
    Option GatewaySessionRouteModel :=
  (tables.routes.get sessionId).filter fun row => row.Carries "onebot" (normalizeOnebotSenderRef ref)

/-- `list_sessions_for_onebot_sender`: the routes of the sender joined with their sessions, latest
first. -/
def listSessionsForOnebotSender (ref : GatewaySenderRef) : List OnebotSessionListItem :=
  let own := tables.routes.rows.filter fun row =>
    row.Carries "onebot" (normalizeOnebotSenderRef ref)
  let joined : List OnebotSessionListItem := own.filterMap fun row =>
    (tables.sessions.get row.sessionId).map fun model =>
      { sessionId := row.sessionId, title := model.title, updatedAt := model.updatedAt }
  joined.insertionSort fun first second => second.updatedAt ≤ first.updatedAt

/-- `SessionRepository.delete`. Where the database enforces foreign keys, the rows that refer to the
session go with it. -/
def deleteSession (foreignKeys : Bool) (sessionId : String) : Bool × GatewayTables :=
  match tables.sessions.get sessionId with
  | none => (false, tables)
  | some _ =>
      let sessions := tables.sessions.keep (·.id ≠ sessionId)
      if foreignKeys then
        (true,
          { sessions := sessions
            routes := tables.routes.keep fun row =>
              row.sessionId ≠ sessionId ∧ row.parentSessionId ≠ some sessionId
            active := tables.active.keep (·.activeSessionId ≠ sessionId) })
      else (true, { tables with sessions := sessions })

/-- A route or an active session refers to the identifier. -/
def Refers (sessionId : String) : Prop :=
  (∃ row ∈ tables.routes.rows, row.sessionId = sessionId ∨ row.parentSessionId = some sessionId) ∨
    sessionId ∈ tables.active.rows.map OnebotSenderActiveModel.activeSessionId

instance (sessionId : String) : Decidable (tables.Refers sessionId) :=
  inferInstanceAs (Decidable (_ ∨ _))

/-- The identifier occurs in the tables. -/
def Mentions (sessionId : String) : Prop :=
  sessionId ∈ tables.sessions.rows.map SessionModel.id ∨ tables.Refers sessionId

instance (sessionId : String) : Decidable (tables.Mentions sessionId) :=
  inferInstanceAs (Decidable (_ ∨ _))

end GatewayTables

/-- What a sender is shown or has done to a session. -/
inductive OnebotEffectKind
  | listed
  | checkedOut
  | deleted
  | activated
  | submitted
  deriving DecidableEq, Repr

/-- What is done to a session. -/
structure OnebotEffect where
  kind : OnebotEffectKind
  sessionId : String
  deriving DecidableEq, Repr

/-- What handling a message leaves: the tables, the effects, and the replies to the sender. -/
structure OnebotTurn where
  tables : GatewayTables
  effects : List OnebotEffect := []
  replies : List String := []

/-- A message with its sender. -/
structure OnebotMessage where
  userId : Int
  groupId : Option Int := none
  selfId : Option String := none
  message : Json

/-- What handling a message meets: the identifier of a session that the core opens, unless that
raises, with the time; whether the message converts to segments, unless a download or an upload
raises; and whether the bridge takes the frame. -/
structure OnebotAnswers where
  opened : Option String := none
  now : Int := 0
  converted : Option Bool := none
  sent : Bool := false

/-- The adapter, with the text of values that are not strings and the printed form of times, on a
database that enforces foreign keys or does not. -/
structure OnebotAdapter where
  onebotSessionCmdPrefix : String
  str : Json → String
  strftime : Int → String
  foreignKeys : Bool

namespace OnebotAdapter

variable (adapter : OnebotAdapter)

/-- The key of the adapter. -/
def adapterKey : String := "onebot"

/-- The `sender_ref` of a message. -/
def senderRef (message : OnebotMessage) : GatewaySenderRef where
  platform := some "onebot"
  userId := some (toString message.userId)
  groupId := message.groupId.map toString
  selfId := message.selfId

/-- The text of one segment, unless the message is not plain text. -/
def segmentText : Json → Option String
  | .obj segment =>
      match JsonObject.get segment "type" with
      | some (.str "text") =>
          match (JsonObject.get segment "data").getD (.obj []) with
          | .obj data =>
              match JsonObject.get data "text" with
              | some (.str text) => some text
              | some other => some (if other.truthy then adapter.str other else "")
              | none => some ""
          | _ => none
      | _ => none
  | _ => none

/-- `_extract_text_message` -/
def extractTextMessage : Json → Option String
  | .str message => orNull (strip message)
  | .arr segments => do
      let chunks ← segments.mapM adapter.segmentText
      orNull (strip (String.join chunks))
  | _ => none

/-- `_parse_management_command` -/
def parseManagementCommand (text : String) : Option (String × String) :=
  if startsWith text adapter.onebotSessionCmdPrefix then
    let tail := strip (String.ofList
      (text.toList.drop adapter.onebotSessionCmdPrefix.toList.length))
    let word := tail.toList.takeWhile (!isSpace ·)
    let rest := tail.toList.dropWhile (!isSpace ·)
    some (lower (String.ofList word), strip (String.ofList rest))
  else none

/-- `_management_help_text` -/
def managementHelpText : String :=
  let commandPrefix := adapter.onebotSessionCmdPrefix
  "\n".intercalate
    ["Session management commands:",
      commandPrefix ++ " new [title]",
      commandPrefix ++ " ls",
      commandPrefix ++ " checkout <session_id or title>",
      commandPrefix ++ " co <session_id or title>",
      commandPrefix ++ " rm <session_id or title>  (permanently deletes the session)"]

/-- `_default_session_title` -/
def defaultSessionTitle (message : OnebotMessage) : String :=
  match message.groupId with
  | none => "OneBot User " ++ toString message.userId
  | some groupId =>
      "OneBot User " ++ toString message.userId ++ " (Group " ++ toString groupId ++ ")"

/-- `_resolve_owned_onebot_session_id`: the session, or the error text with the sessions that it
shows. -/
def resolveOwnedOnebotSessionId (tables : GatewayTables) (needle : String)
    (ref : GatewaySenderRef) : Except (String × List String) String :=
  let raw := strip needle
  if raw = "" then .error ("empty", [])
  else if startsWith raw "sess_" then
    match tables.getForOnebotSender raw ref with
    | some _ => .ok raw
    | none =>
        .error ("Session does not exist or is not owned by the current sender: " ++ raw, [])
  else
    let items := tables.listSessionsForOnebotSender ref
    let key := lower raw
    let title (item : OnebotSessionListItem) := lower (strip (item.title.getD ""))
    match items.filter fun item => title item = key with
    | [item] => .ok item.sessionId
    | first :: second :: rest =>
        let ids := ((first :: second :: rest).take 5).map OnebotSessionListItem.sessionId
        .error ("Duplicate session title. Please specify session_id: " ++ ", ".intercalate ids, ids)
    | [] =>
        match items.filter fun item => title item ≠ "" ∧ startsWith (title item) key with
        | [item] => .ok item.sessionId
        | _ :: _ :: _ =>
            .error ("Multiple session titles share this prefix; use a more specific title or " ++
              "session_id.", [])
        | [] => .error ("Session not found: " ++ raw, [])

/-- `_render_session_list`, with the sessions that it shows. -/
def renderSessionList (tables : GatewayTables) (ref : GatewaySenderRef) : String × List String :=
  let activeSessionId := tables.getActiveSessionId adapterKey ref
  match tables.listSessionsForOnebotSender ref with
  | [] => ("No switchable sessions are available.", [])
  | item :: rest =>
      let items := item :: rest
      let line (item : OnebotSessionListItem) :=
        (if some item.sessionId = activeSessionId then "* " else "  ") ++ item.sessionId ++ " | " ++
          orElse (item.title.getD "") "(untitled)" ++ " | " ++ adapter.strftime item.updatedAt
      let more := if items.length > 20 then
        ["... " ++ toString items.length ++ " sessions total, showing first 20 only"] else []
      ("\n".intercalate ("Session list:" :: (items.take 20).map line ++ more),
        (items.take 20).map OnebotSessionListItem.sessionId)

/-- `_open_onebot_session`: the core stores a session under a new identifier, and the gateway binds
its route. `none` is an exception. -/
def openOnebotSession (tables : GatewayTables) (message : OnebotMessage) (title : Option String)
    (answers : OnebotAnswers) : Option (String × GatewayTables) :=
  answers.opened.bind fun sessionId =>
    if tables.Mentions sessionId then none
    else
      let given := orElse (title.getD "") (defaultSessionTitle message)
      let model : SessionModel := { id := sessionId, title := some given, updatedAt := answers.now }
      let opened := { tables with sessions := tables.sessions.put model }
      some (sessionId, opened.bind sessionId adapterKey (senderRef message) none)

/-- `_handle_management_command` for a parsed command. -/
def handleManagementCommand (tables : GatewayTables) (message : OnebotMessage)
    (command argument : String) (answers : OnebotAnswers) : OnebotTurn :=
  let ref := senderRef message
  if command = "" ∨ command = "help" then
    { tables := tables, replies := [adapter.managementHelpText] }
  else if command = "new" then
    match openOnebotSession tables message (orNull argument) answers with
    | none => { tables := tables }
    | some (sessionId, opened) =>
        { tables := opened.setActiveSessionId adapterKey ref sessionId
          effects := [⟨.activated, sessionId⟩]
          replies := ["Created and switched to new session: " ++ sessionId] }
  else if command = "ls" then
    let (text, shown) := adapter.renderSessionList tables ref
    { tables := tables, effects := shown.map (⟨.listed, ·⟩), replies := [text] }
  else if command = "checkout" ∨ command = "co" then
    if strip argument = "" then
      { tables := tables
        replies := ["Usage: " ++ adapter.onebotSessionCmdPrefix ++
          " checkout <session_id or title>\nExample: " ++ adapter.onebotSessionCmdPrefix ++
          " checkout sess_abc...\nOr: " ++ adapter.onebotSessionCmdPrefix ++ " checkout My Work"] }
    else
      match resolveOwnedOnebotSessionId tables argument ref with
      | .error (text, shown) =>
          { tables := tables, effects := shown.map (⟨.listed, ·⟩), replies := [text] }
      | .ok target =>
          { tables := tables.setActiveSessionId adapterKey ref target
            effects := [⟨.checkedOut, target⟩, ⟨.activated, target⟩]
            replies := ["Switched to session: " ++ target] }
  else if command = "rm" then
    if strip argument = "" then
      { tables := tables
        replies := ["Usage: " ++ adapter.onebotSessionCmdPrefix ++ " rm <session_id or title>\n" ++
          "This permanently deletes the session and all its messages/files."] }
    else
      match resolveOwnedOnebotSessionId tables argument ref with
      | .error (text, shown) =>
          { tables := tables, effects := shown.map (⟨.listed, ·⟩), replies := [text] }
      | .ok target =>
          let cleared := if tables.getActiveSessionId adapterKey ref = some target then
            tables.clearActiveSessionId adapterKey ref else tables
          match cleared.deleteSession adapter.foreignKeys target with
          | (false, kept) =>
              { tables := kept
                replies := ["Delete failed (session may not exist): " ++ target] }
          | (true, left) =>
              { tables := left
                effects := [⟨.deleted, target⟩]
                replies := ["Deleted session: " ++ target] }
  else { tables := tables, replies := [adapter.managementHelpText] }

/-- The part of `_resolve_session_id` for a sender without an active session; without a session,
opening one raised. -/
def chooseSession (tables : GatewayTables) (message : OnebotMessage) (answers : OnebotAnswers) :
    Option String × OnebotTurn :=
  let ref := senderRef message
  let found := (tables.findBySender adapterKey ref).map ((·, tables))
  match found.or (openOnebotSession tables message none answers) with
  | none => (none, { tables := tables })
  | some (sessionId, opened) =>
      (some sessionId,
        { tables := opened.setActiveSessionId adapterKey ref sessionId
          effects := [⟨.activated, sessionId⟩] })

/-- `_resolve_session_id` -/
def resolveSessionId (tables : GatewayTables) (message : OnebotMessage) (answers : OnebotAnswers) :
    Option String × OnebotTurn :=
  let ref := senderRef message
  match (tables.getActiveSessionId adapterKey ref).bind orNull with
  | none => chooseSession tables message answers
  | some active =>
      match tables.getForOnebotSender active ref with
      | some _ => (some active, { tables := tables })
      | none => chooseSession (tables.clearActiveSessionId adapterKey ref) message answers

/-- Chat goes to the active session of the sender, whose route is bound again. -/
def handleChat (tables : GatewayTables) (message : OnebotMessage) (answers : OnebotAnswers) :
    OnebotTurn :=
  match resolveSessionId tables message answers with
  | (none, turn) => turn
  | (some sessionId, turn) =>
      if answers.converted = some true ∧ answers.sent then
        { turn with
          tables := turn.tables.bind sessionId adapterKey (senderRef message) none
          effects := turn.effects ++ [⟨.submitted, sessionId⟩] }
      else turn

/-- `_process_inbound_message` -/
def processInboundMessage (tables : GatewayTables) (message : OnebotMessage)
    (answers : OnebotAnswers) : OnebotTurn :=
  match (adapter.extractTextMessage message.message).bind adapter.parseManagementCommand with
  | some (command, argument) =>
      adapter.handleManagementCommand tables message command argument answers
  | none => handleChat tables message answers

end OnebotAdapter

end FairyClaw
