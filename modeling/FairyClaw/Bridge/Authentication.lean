import FairyClaw.Bridge.HandleFrame

/-! # Authentication on the bridge

A HELLO with a wrong token ends its connection, but nothing asks for a HELLO: a peer that sends none
is served (`FairyClaw.BridgeServer.served_without_hello`). What a connection may do without a HELLO
is therefore decided by its frames alone. As long as the connections without an accepted HELLO send
only frames that the handler refuses or merely answers, every effect is for an authenticated
connection, whatever the other connections do (`FairyClaw.BridgeServer.bridge_authentication`).
-/

namespace FairyClaw.BridgeServer

open Foundation

variable {limit : Nat} (config : BridgeConfig)

/-- The handler refuses a frame of this type or merely answers it. -/
def HarmlessAs (server : BridgeServer limit) (frame : BridgeFrame) : Option FrameType → Prop
  | some .resume => server.unacked = []
  | some .sessionOpen => False
  | some .inbound => frame.id ∈ server.processed ∨
      ∀ message ∈ GatewayInboundMessage.fromPayload config frame.payload,
        message.sessionId ∉ server.sessions ∨
          (message.segments.isEmpty = true ∧ message.triggerTurn = false)
  | some .gatewayControl => config.controlled = false ∨
      (server.controlError config (controlOf config frame.payload).1
        (controlOf config frame.payload).2).isSome = true
  | some .filePutInit => (config.number frame.payload "size_bytes").isNone = true
  | some .filePutCommit => ∀ totalChunks ∈ config.number frame.payload "total_chunks",
      ∀ upload ∈ server.uploads.lookup (config.text frame.payload "upload_id" ""),
        ((assemble config upload totalChunks).bind Except.toOption).isNone = true
  | some .fileGet => (server.getForSession (config.text frame.payload "file_id" "")
      (config.text frame.payload "session_id" "")).isNone = true
  | some .hello | some .filePutChunk | some .ack | some .heartbeat | none => True

instance (server : BridgeServer limit) (frame : BridgeFrame) :
    DecidablePred (HarmlessAs config server frame)
  | some .resume => inferInstanceAs (Decidable (server.unacked = []))
  | some .sessionOpen => isFalse id
  | some .inbound => inferInstanceAs (Decidable (_ ∨ _))
  | some .gatewayControl => inferInstanceAs (Decidable (_ ∨ _))
  | some .filePutInit => inferInstanceAs (Decidable (_ = true))
  | some .filePutCommit => inferInstanceAs (Decidable (∀ totalChunks ∈ _, ∀ upload ∈ _, _ = true))
  | some .fileGet => inferInstanceAs (Decidable (_ = true))
  | some .hello | some .filePutChunk | some .ack | some .heartbeat | none => isTrue trivial

/-- The handler refuses the frame or merely answers it. -/
def Harmless (server : BridgeServer limit) (frame : BridgeFrame) : Prop :=
  HarmlessAs config server frame (FrameType.ofValue? frame.type)

instance (server : BridgeServer limit) : DecidablePred (Harmless config server) := fun frame =>
  inferInstanceAs (Decidable (HarmlessAs config server frame (FrameType.ofValue? frame.type)))

/-- A connection without an accepted HELLO sends harmless frames only. -/
def StrangersHarmless (server : BridgeServer limit) : BridgeAction → Prop
  | .frame connection frame _ =>
      (server.connections connection).authenticated = true ∨ Harmless config server frame
  | .connect | .disconnect _ | .push _ | .storeSession _ | .storeFile _ => True

instance : DecidableRel (@StrangersHarmless limit config) := fun server action =>
  match action with
  | .frame connection frame _ => inferInstanceAs (Decidable
      ((server.connections connection).authenticated = true ∨ Harmless config server frame))
  | .connect | .disconnect _ | .push _ | .storeSession _ | .storeFile _ => isTrue trivial

variable {config} {server next : BridgeServer limit} {frame : BridgeFrame}

/-- When an inbound message changes nothing. -/
theorem effects_handleInbound {answer : BridgeAnswer} :
    (server.handleInbound config frame answer).effects = [] ↔
      HarmlessAs config server frame (some .inbound) := by
  simp only [handleInbound, HarmlessAs]
  by_cases known : frame.id ∈ server.processed
  · rw [if_pos known]
    exact iff_of_true rfl (Or.inl known)
  · rw [if_neg known, or_iff_right known]
    cases GatewayInboundMessage.fromPayload config frame.payload with
    | none => exact iff_of_true rfl nofun
    | some message =>
        simp only [submitMessage, Option.mem_some_iff, forall_eq']
        by_cases present : message.sessionId ∈ server.sessions
        · rw [if_pos present, or_iff_right (not_not_intro present), List.append_eq_nil_iff]
          refine and_congr ?_ ?_
          · rw [List.isEmpty_iff]
            split <;> simp_all
          · cases message.triggerTurn <;> simp
        · rw [if_neg present]
          exact iff_of_true rfl (Or.inl present)

/-- When a control request changes nothing. -/
theorem effects_handleGatewayControl {answer : BridgeAnswer} :
    (server.handleGatewayControl config frame answer).effects = [] ↔
      HarmlessAs config server frame (some .gatewayControl) := by
  simp only [handleGatewayControl, HarmlessAs]
  cases config.controlled with
  | false => exact iff_of_true rfl (Or.inl rfl)
  | true =>
      rw [if_pos rfl, or_iff_right nofun]
      cases server.controlError config (controlOf config frame.payload).1
        (controlOf config frame.payload).2 with
      | none => exact iff_of_false (List.cons_ne_nil _ _) Bool.false_ne_true
      | some message => exact iff_of_true rfl rfl

/-- When the announcement of a file changes nothing. -/
theorem effects_handleFilePutInit {answer : BridgeAnswer} :
    (server.handleFilePutInit config frame.payload answer).effects = [] ↔
      HarmlessAs config server frame (some .filePutInit) := by
  simp only [handleFilePutInit, HarmlessAs]
  cases config.number frame.payload "size_bytes" with
  | none => exact iff_of_true rfl rfl
  | some sizeBytes => exact iff_of_false (List.cons_ne_nil _ _) Bool.false_ne_true

/-- A chunk is stored or refused. -/
theorem effects_handleFilePutChunk :
    (server.handleFilePutChunk config frame.payload).effects = [] := by
  simp only [handleFilePutChunk]
  repeat' split
  all_goals rfl

/-- When the commit of a file changes nothing. -/
theorem effects_handleFilePutCommit {answer : BridgeAnswer} :
    (server.handleFilePutCommit config frame.payload answer).effects = [] ↔
      HarmlessAs config server frame (some .filePutCommit) := by
  simp only [handleFilePutCommit, HarmlessAs]
  cases config.number frame.payload "total_chunks" with
  | none => exact iff_of_true rfl nofun
  | some totalChunks =>
      cases server.uploads.lookup (config.text frame.payload "upload_id" "") with
      | none => exact iff_of_true rfl nofun
      | some upload =>
          simp only [Option.mem_some_iff, forall_eq']
          cases assemble config upload totalChunks with
          | none => exact iff_of_true rfl rfl
          | some outcome =>
              cases outcome with
              | error error => exact iff_of_true rfl rfl
              | ok content => exact iff_of_false (List.cons_ne_nil _ _) Bool.false_ne_true

/-- When a request for a file changes nothing. -/
theorem effects_handleFileGet :
    (server.handleFileGet config frame.payload).effects = [] ↔
      HarmlessAs config server frame (some .fileGet) := by
  simp only [handleFileGet, HarmlessAs]
  cases server.getForSession (config.text frame.payload "file_id" "")
    (config.text frame.payload "session_id" "") with
  | none => exact iff_of_true rfl rfl
  | some file =>
      refine iff_of_false ?_ Bool.false_ne_true
      simp only
      split <;> exact List.cons_ne_nil _ _

/-- The harmless frames are those without an effect. -/
theorem effects_eq_nil_iff (connection : Nat) (answer : BridgeAnswer) :
    (server.handleFrame config connection frame answer).effects = [] ↔
      Harmless config server frame := by
  unfold handleFrame Harmless
  cases FrameType.ofValue? frame.type with
  | none => exact iff_of_true rfl trivial
  | some type =>
      cases type with
      | hello =>
          refine iff_of_true ?_ trivial
          simp only [handleHello]
          split <;> rfl
      | resume => exact List.map_eq_nil_iff
      | sessionOpen => exact iff_of_false (List.cons_ne_nil _ _) id
      | inbound => exact effects_handleInbound
      | gatewayControl => exact effects_handleGatewayControl
      | filePutInit => exact effects_handleFilePutInit
      | filePutChunk => exact iff_of_true effects_handleFilePutChunk trivial
      | filePutCommit => exact effects_handleFilePutCommit
      | fileGet => exact effects_handleFileGet
      | ack =>
          refine iff_of_true ?_ trivial
          simp only [handleAck]
          split <;> rfl
      | heartbeat => exact iff_of_true rfl trivial

/-- What a frame leaves of the connections, the active one and the record. -/
structure Keeps (server after : BridgeServer limit) (connection : Nat) : Prop where
  log : after.log = server.log
  next : after.next = server.next
  others : ∀ other, after.connections other = server.connections other ∨
    (other = connection ∧ (after.connections other).authenticated = true)
  active : after.active = server.active ∨
    (after.active = some connection ∧ (after.connections connection).authenticated = true)

/-- A server keeps what it has. -/
theorem Keeps.refl (server : BridgeServer limit) (connection : Nat) :
    Keeps server server connection := ⟨rfl, rfl, fun _ => Or.inl rfl, Or.inl rfl⟩

variable (config) in
/-- Handling a frame touches its own connection only, and authenticates it at most. -/
theorem handleFrame_keeps (server : BridgeServer limit) (connection : Nat) (frame : BridgeFrame)
    (answer : BridgeAnswer) :
    Keeps server (server.handleFrame config connection frame answer).server connection := by
  have same := Keeps.refl server connection
  unfold handleFrame
  cases FrameType.ofValue? frame.type with
  | none => exact same
  | some type =>
      cases type with
      | hello =>
          simp only [handleHello]
          split
          · refine ⟨rfl, rfl, fun other => ?_, Or.inr ⟨rfl, ?_⟩⟩
            · by_cases own : other = connection
              · subst own
                refine Or.inr ⟨rfl, ?_⟩
                simp only [setConnection, Function.update_self]
              · exact Or.inl (Function.update_of_ne own _ _)
            · simp only [setConnection, Function.update_self]
          · exact same
      | resume => exact same
      | sessionOpen => exact ⟨rfl, rfl, same.others, same.active⟩
      | inbound =>
          simp only [handleInbound]
          repeat' split
          all_goals exact ⟨rfl, rfl, same.others, same.active⟩
      | gatewayControl =>
          simp only [handleGatewayControl]
          repeat' split
          all_goals exact same
      | filePutInit =>
          simp only [handleFilePutInit]
          split
          all_goals exact ⟨rfl, rfl, same.others, same.active⟩
      | filePutChunk =>
          simp only [handleFilePutChunk]
          repeat' split
          all_goals exact ⟨rfl, rfl, same.others, same.active⟩
      | filePutCommit =>
          simp only [handleFilePutCommit]
          repeat' split
          all_goals exact ⟨rfl, rfl, same.others, same.active⟩
      | fileGet =>
          simp only [handleFileGet]
          repeat' split
          all_goals exact same
      | ack =>
          simp only [handleAck]
          split
          all_goals exact ⟨rfl, rfl, same.others, same.active⟩
      | heartbeat => exact same

/-- Every effect was for an authenticated connection, and so is every push. -/
structure Authentic (server : BridgeServer limit) : Prop where
  logged : ∀ entry ∈ server.log, entry.authenticated = true
  active : ∀ connection, server.active = some connection →
    (server.connections connection).authenticated = true
  unopened : ∀ connection, server.next ≤ connection → server.connections connection = {}

/-- A log stays authentic when an entry without effects, or one of an authenticated connection, is
added. -/
theorem Authentic.record (authentic : server.Authentic) (connection : Nat) {authenticated : Bool}
    {effects : List BridgeEffect} (allowed : effects = [] ∨ authenticated = true) :
    (server.record connection authenticated effects).Authentic := by
  refine ⟨fun entry member => ?_, authentic.active, authentic.unopened⟩
  rcases List.mem_append.mp member with earlier | new
  · exact authentic.logged entry earlier
  · obtain ⟨effect, listed, rfl⟩ := List.mem_map.mp new
    rcases allowed with rfl | authenticated
    · cases listed
    · exact authenticated

/-- Losing a connection keeps the log authentic. -/
theorem Authentic.disconnect (authentic : server.Authentic) (connection : Nat) :
    (server.disconnect connection).Authentic := by
  have kept (other : Nat) : ((server.disconnect connection).connections other).authenticated =
      (server.connections other).authenticated := by
    by_cases own : other = connection
    · subst own
      simp only [BridgeServer.disconnect, setConnection, Function.update_self]
    · simp only [BridgeServer.disconnect, setConnection, Function.update_of_ne own]
  refine ⟨authentic.logged, fun other active => ?_, fun other unopened => ?_⟩
  · rw [kept]
    simp only [BridgeServer.disconnect] at active
    split at active
    · cases active
    · exact authentic.active other active
  · have before := authentic.unopened other unopened
    by_cases own : other = connection
    · subst own
      simp only [BridgeServer.disconnect, setConnection, Function.update_self, before]
    · simp only [BridgeServer.disconnect, setConnection, Function.update_of_ne own, before]

/-- A new connection keeps the log authentic. -/
theorem Authentic.connect (authentic : server.Authentic) :
    { server.setConnection server.next { isOpen := true } with
      next := server.next + 1 }.Authentic := by
  refine ⟨authentic.logged, fun other active => ?_, fun other unopened => ?_⟩
  · have before := authentic.active other active
    have known : other ≠ server.next := by
      rintro rfl
      rw [authentic.unopened _ le_rfl] at before
      cases before
    simp only [setConnection, Function.update_of_ne known, before]
  · have later : server.next + 1 ≤ other := unopened
    have known : other ≠ server.next := by omega
    simp only [setConnection, Function.update_of_ne known]
    exact authentic.unopened other (by omega)

/-- What handling a frame keeps keeps the log authentic. -/
theorem Authentic.keeps {after : BridgeServer limit} (authentic : server.Authentic)
    {connection : Nat} (served : (server.connections connection).isOpen = true)
    (keeps : Keeps server after connection) : after.Authentic := by
  refine ⟨fun entry member => authentic.logged entry (keeps.log ▸ member), fun other active => ?_,
    fun other unopened => ?_⟩
  · rcases keeps.others other with same | ⟨_, authenticated⟩
    · rw [same]
      rcases keeps.active with kept | ⟨named, authenticated⟩
      · exact authentic.active other (kept ▸ active)
      · cases named.symm.trans active
        rw [← same]
        exact authenticated
    · exact authenticated
  · rw [keeps.next] at unopened
    have before := authentic.unopened other unopened
    rcases keeps.others other with same | ⟨rfl, _⟩
    · exact same.trans before
    · rw [before] at served
      cases served

/-- Pushing a message keeps the log authentic. -/
theorem Authentic.pushOutbound (authentic : server.Authentic) (frameId : String) :
    (server.pushOutbound config frameId).Authentic := by
  have queued (backlog : List String) : { server with backlog := backlog }.Authentic :=
    ⟨authentic.logged, authentic.active, authentic.unopened⟩
  simp only [BridgeServer.pushOutbound]
  split
  · exact queued _
  · rename_i connection receiver
    exact (queued _).record connection (Or.inr (authentic.active connection receiver))

/-- Every step in which strangers do no harm keeps the log authentic. -/
theorem Authentic.step {action : BridgeAction} (authentic : server.Authentic)
    (harmless : StrangersHarmless config server action)
    (stepped : server.step config action = some next) : next.Authentic := by
  cases action with
  | connect =>
      cases stepped
      exact authentic.connect
  | frame connection frame answer =>
      simp only [BridgeServer.step] at stepped
      split at stepped
      · rename_i served
        cases stepped
        have handled := authentic.keeps served
          (handleFrame_keeps config server connection frame answer)
        have recorded := handled.record connection
          (harmless.symm.imp_left (effects_eq_nil_iff connection answer).mpr)
        split
        · exact recorded.disconnect connection
        · exact recorded
      · cases stepped
  | disconnect connection =>
      simp only [BridgeServer.step] at stepped
      split at stepped
      · cases stepped
        exact authentic.disconnect connection
      · cases stepped
  | push frameId =>
      cases stepped
      exact authentic.pushOutbound frameId
  | storeSession sessionId =>
      cases stepped
      exact ⟨authentic.logged, authentic.active, authentic.unopened⟩
  | storeFile file =>
      cases stepped
      exact ⟨authentic.logged, authentic.active, authentic.unopened⟩

/-- While strangers do no harm, the log is authentic. -/
theorem authentic_of_reachable
    (reached : (machine config limit).Reachable (StrangersHarmless config) server) :
    server.Authentic := by
  apply reached.invariant
  · rintro _ rfl
    exact ⟨nofun, nofun, fun _ _ => rfl⟩
  · intro before action after authentic harmless stepped
    exact authentic.step harmless stepped

/-- **Authentication of bridge connections.** If the connections without an accepted HELLO send
harmless frames only, every effect of a run is for a connection on which a HELLO with the
configured token was accepted before. A frame of another connection is without effect exactly when
it is harmless. -/
theorem bridge_authentication
    (reached : (machine config limit).Reachable (StrangersHarmless config) server) :
    (∀ entry ∈ server.log, entry.authenticated = true) ∧
      ∀ connection frame answer next, (server.connections connection).authenticated = false →
        server.step config (.frame connection frame answer) = some next →
          ((∀ entry ∈ next.log, entry.authenticated = true) ↔ Harmless config server frame) := by
  have authentic := authentic_of_reachable reached
  refine ⟨authentic.logged, fun connection frame answer next stranger stepped => ?_⟩
  constructor
  · intro logged
    simp only [step] at stepped
    split at stepped
    · cases stepped
      rw [← effects_eq_nil_iff connection answer]
      cases effects : (server.handleFrame config connection frame answer).effects with
      | nil => rfl
      | cons effect rest =>
          rw [effects, stranger] at logged
          have entry : BridgeLogEntry.mk connection false effect ∈
              ((server.handleFrame config connection frame answer).server.record connection false
                (effect :: rest)).log :=
            List.mem_append_right _ List.mem_cons_self
          have impossible := logged _ (by split <;> exact entry)
          cases impossible
    · cases stepped
  · intro harmless
    have allowed : StrangersHarmless config server (.frame connection frame answer) :=
      Or.inr harmless
    exact (authentic.step allowed stepped).logged

/-- A bridge with the token `secret`. -/
def secretConfig : BridgeConfig where
  bridgeToken := "secret"
  maxChunkBytes := 4
  backlogSize := 2
  controlled := true
  strOf := fun _ => ""
  intOf := fun _ => none
  b64decode := fun _ => none
  sha256Hex := fun _ => ""

/-- A peer says HELLO with the token and opens a session. -/
def greetedRun : List BridgeAction :=
  [.connect,
    .frame 0 { type := "hello", payload := [("token", .str "secret")], id := "1" }
      { newId := "conn_1" },
    .frame 0 { type := "session_open", id := "2" } { newId := "sess_1" }]

/-- The server after a peer has said hello and opened a session. -/
def greetedServer : BridgeServer 2 :=
  ((machine secretConfig 2).replay (StrangersHarmless secretConfig) {} greetedRun).getD {}

/-- The session of a greeted peer is opened for an authenticated connection. -/
theorem bridge_authentication_greetedRun :
    greetedServer.log.length = 1 ∧ ∀ entry ∈ greetedServer.log, entry.authenticated = true := by
  have replayed : (machine secretConfig 2).replay (StrangersHarmless secretConfig) {} greetedRun =
      some greetedServer := rfl
  exact ⟨rfl, (bridge_authentication (.of_replay rfl replayed)).1⟩

/-- A peer that never says HELLO opens a session, has a message stored and published, lists the
sessions, creates an upload, and asks for the backlog. -/
def strangerRun : List BridgeAction :=
  [.connect, .push "out_1",
    .frame 0 { type := "session_open", id := "1" } { newId := "sess_1" },
    .frame 0 { type := "inbound"
               payload := [("session_id", .str "sess_1"),
                 ("segments", .arr [.obj [("type", .str "text"), ("text", .str "hi")]]),
                 ("trigger_turn", .bool true)]
               id := "2" } { newId := "" },
    .frame 0 { type := "gateway_control", payload := [("op", .str "sessions.list")], id := "3" }
      { newId := "" },
    .frame 0 { type := "file_put_init", payload := [("session_id", .str "sess_1")], id := "4" }
      { newId := "upload_1" },
    .frame 0 { type := "resume", id := "5" } { newId := "" }]

/-- The server after the frames of a peer that never said hello. -/
def strangerServer : BridgeServer 2 :=
  ((machine secretConfig 2).replay Machine.anyStep {} strangerRun).getD {}

/-- All of this happens without authentication. -/
theorem served_without_hello :
    (machine secretConfig 2).Reachable Machine.anyStep strangerServer ∧
      (strangerServer.connections 0).authenticated = false ∧
      strangerServer.log.map BridgeLogEntry.effect =
        [.sessionOpened "sess_1",
          .messagePersisted "sess_1" [ContentSegment.textSegment "hi"],
          .messagePublished "sess_1", .controlExecuted "sessions.list", .uploadCreated "upload_1",
          .backlogSent "out_1"] ∧
      ∀ entry ∈ strangerServer.log, entry.connection = 0 ∧ entry.authenticated = false := by
  have replayed : (machine secretConfig 2).replay Machine.anyStep {} strangerRun =
      some strangerServer := rfl
  have logged : strangerServer.log.map (fun entry => (entry.connection, entry.authenticated)) =
      List.replicate 6 (0, false) := rfl
  refine ⟨.of_replay rfl replayed, rfl, rfl, fun entry member => ?_⟩
  have listed : (entry.connection, entry.authenticated) ∈ strangerServer.log.map
      fun entry => (entry.connection, entry.authenticated) := List.mem_map.mpr ⟨entry, member, rfl⟩
  rw [logged] at listed
  exact Prod.mk.inj (List.eq_of_mem_replicate listed)

end FairyClaw.BridgeServer
