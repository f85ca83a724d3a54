import FairyClaw.Gateway.PushCalls

/-! # Pushes to a bound socket

A socket that binds a session once and stays is sent every push of the session once, but for those
that the backlog no longer holds. The sockets of the parent session get a push exactly when no
socket was bound to its own session at the moment when it was queued
(`FairyClaw.WebGateway.pushed_once_per_binding`).
-/

namespace FairyClaw

open Foundation

/-- The socket binds the session. -/
def WebGatewayAction.Binds (socket : Socket) (session : String) : WebGatewayAction → Prop
  | .bind other sessionId => other = socket ∧ strip sessionId = session
  | _ => False

/-- The call of a push is carried on to the end of its targets. -/
def WebGatewayAction.Sends (number : Nat) : WebGatewayAction → Prop
  | .deliver other _ | .endLoop other => other = number
  | _ => False

/-- The replay to a socket is carried on. -/
def WebGatewayAction.Replays (socket : Socket) : WebGatewayAction → Prop
  | .replay other | .endReplay other => other = socket
  | _ => False

/-- The call is at its targets or at the sockets of the parent session. -/
def PushStage.isDelivering : PushStage → Bool
  | .sending _ | .sendingParent _ _ _ => true
  | _ => false

/-- Deliveries that a stage has before it, with the end of its loop. -/
def PushStage.left : PushStage → Nat
  | .sending remaining | .sendingParent _ _ remaining => remaining.length + 1
  | _ => 0

/-- Replays that a handler has before it, with the end of its loop. -/
def SocketPhase.left : SocketPhase → Nat
  | .registering rest | .replaying _ rest => rest.length + 1
  | _ => 0

/-- The pushes that a handler has yet to replay. -/
def SocketPhase.rest : SocketPhase → List WebPush
  | .registering rest | .replaying _ rest => rest
  | _ => []

/-- A delivery of a push says which session it is from, and gives its content and metadata; the
sockets of the parent session are told that session, too. -/
structure PushDelivery.Tells (delivery : PushDelivery) (body : JsonObject) : Prop where
  session : body.get "session_id" = some (.str delivery.push.sessionId)
  kind : body.get "kind" = some (.str delivery.push.outbound.kind)
  content : body.get "content" = some (.obj delivery.push.content)
  notes : ∃ metadata : JsonObject, body.get "meta" = some (.obj metadata) ∧
    (∀ key ≠ "fc_parent_session_id", metadata.get key = delivery.push.outbound.metadata.get key) ∧
    ∀ parentId, delivery.path = .parent parentId →
      (metadata.get "fc_parent_session_id").isSome = true

/-- The sockets of the parent session get the metadata of the push, with that session. -/
theorem GatewayOutboundMessage.metadata_forParent (outbound : GatewayOutboundMessage)
    (parentId : String) :
    (∀ key ≠ "fc_parent_session_id",
      (outbound.forParent parentId).metadata.get key = outbound.metadata.get key) ∧
    ((outbound.forParent parentId).metadata.get "fc_parent_session_id").isSome = true := by
  unfold forParent
  split
  · exact ⟨fun _ _ => rfl, ‹_›⟩
  · refine ⟨fun key other => ?_, ?_⟩
    · have missing : (key == "fc_parent_session_id") = false := beq_eq_false_iff_ne.mpr other
      simp only [JsonObject.get, List.lookup_append, List.lookup_cons, missing, List.lookup_nil,
        Option.or_none]
    · simp only [JsonObject.get, List.lookup_append, List.lookup_cons_self, Option.or_some]
      cases outbound.metadata.lookup "fc_parent_session_id" <;> rfl

/-- What the socket is sent tells of the push. -/
theorem PushDelivery.envelope_tells (delivery : PushDelivery) :
    ∃ body, delivery.envelope = [("op", .str "push"), ("body", .obj body)] ∧
      delivery.Tells body := by
  refine ⟨delivery.outbound.payloadBody delivery.push.content, rfl, ?_⟩
  cases way : delivery.path with
  | parent parentId =>
      obtain ⟨same, told⟩ := delivery.push.outbound.metadata_forParent parentId
      simp only [PushDelivery.outbound, way]
      exact ⟨rfl, rfl, rfl, _, rfl, same, fun _ _ => told⟩
  | broadcastReplay | replay | live =>
      simp only [PushDelivery.outbound, way]
      exact ⟨rfl, rfl, rfl, _, rfl, fun _ _ => rfl, fun _ other => nomatch way.symm.trans other⟩

/-- Whether a call falls back to the parent session follows from its targets, and the sockets of the
parent session are served one after the other. -/
def PushCall.Routed (call : PushCall) (made : List (Socket × String)) : Prop :=
  match call.stage with
  | .sending remaining => made = [] ∧ (call.targets = [] → remaining = [])
  | .lookingUp | .routing _ | .returned .noParent => made = [] ∧ call.targets = []
  | .returned .targets =>
      made = [] ∧ (call.push.sessionId = outboundBroadcastSessionId ∨ call.targets ≠ [])
  | .sendingParent parentId parentTargets remaining => call.targets = [] ∧ ∃ reached : List Socket,
      made = reached.map (·, parentId) ∧ (reached ++ remaining).Perm parentTargets
  | .returned (.parent parentId parentTargets) => call.targets = [] ∧ ∃ reached : List Socket,
      made = reached.map (·, parentId) ∧ reached.Perm parentTargets
  -- No delivery fails.
  | .raised _ _ => False

/-- The socket and the parent session of a delivery to the parent session. -/
def PushDelivery.toParent (delivery : PushDelivery) : Option (Socket × String) :=
  match delivery.path with
  | .parent parentId => some (delivery.socket, parentId)
  | _ => none

namespace WebGateway

variable {session : String} {gateway next : WebGateway} {call : PushCall} {number : Nat}
  {socket : Socket}

/-- The deliveries of a push to sockets of its parent session. -/
def toParent (gateway : WebGateway) (number : Nat) : List (Socket × String) :=
  (gateway.sentFor number).filterMap PushDelivery.toParent

/-! ## The binding -/

/-- A socket stays as long as it does not disconnect. -/
theorem step_stays {action : WebGatewayAction} (stays : action ≠ .disconnect socket)
    (bound : (gateway.handlers socket).phase ≠ .unregistered)
    (stepped : gateway.step action = some next) :
    (next.handlers socket).phase ≠ .unregistered := by
  have moved {other : Socket} {phase : SocketPhase} (here : phase ≠ .unregistered) :
      ((gateway.setPhase other phase).handlers socket).phase ≠ .unregistered := by
    rw [setPhase_handlers]
    split
    · exact here
    · exact bound
  have effect := step_cases stepped
  cases action with
  | send outbound download =>
      obtain ⟨content, _, rfl⟩ := effect
      rw [queue_others.2.1]
      exact bound
  | deliver =>
      obtain ⟨_, _, ⟨_, _, _, rfl⟩ | ⟨_, _, _, _, _, rfl⟩⟩ := effect <;> exact bound
  | endLoop =>
      obtain ⟨_, _, ⟨_, ⟨_, _, rfl⟩ | ⟨_, rfl⟩⟩ | ⟨_, _, _, rfl⟩⟩ := effect <;> exact bound
  | lookUp =>
      obtain ⟨_, _, _, ⟨_, rfl⟩ | ⟨_, _, rfl⟩⟩ := effect <;> exact bound
  | route =>
      obtain ⟨_, _, _, _, rfl⟩ := effect
      exact bound
  | replay =>
      obtain ⟨_, _, ⟨_, rfl⟩ | ⟨_, _, rfl⟩⟩ := effect <;> exact moved nofun
  | bind other sessionId =>
      obtain ⟨_, _, rfl⟩ := effect
      rw [bindSession_handlers]
      split
      · nofun
      · exact bound
  | connect | endReplay | unbind =>
      obtain ⟨_, rfl⟩ := effect
      exact moved nofun
  | disconnect other =>
      obtain ⟨_, rfl⟩ := effect
      have apart : socket ≠ other := fun same => stays (same ▸ rfl)
      have kept : ((gateway.setPhase other .unregistered).handlers socket).phase ≠
          .unregistered := by
        rw [setPhase_handlers, if_neg apart]
        exact bound
      exact kept

/-- A run in which the socket binds the session once, and stays. -/
structure BindsOnce (socket : Socket) (session : String) (before final : WebGateway) : Prop where
  reached : machine.Reachable (fun _ action => ¬ action.Binds socket session) before
  stays : ∃ sessionId after, strip sessionId = session ∧
    before.step (.bind socket sessionId) = some after ∧
    machine.Steps (fun _ action => ¬ action.Binds socket session ∧ action ≠ .disconnect socket)
      after final

/-- The gateway is valid in every run. -/
theorem reachable_valid {guard : Machine.Guard WebGateway WebGatewayAction}
    (reached : machine.Reachable guard gateway) : gateway.Valid := by
  refine reached.invariant ?_ fun _ _ _ valid _ stepped => valid.step stepped
  rintro start rfl
  exact valid_initial

/-- Only its own binding shows the feed a subscription of the socket. -/
theorem shown_ne_subscribe {action : WebGatewayAction} {visible : FeedAction Socket Nat}
    (other : ¬ action.Binds socket session) (named : gateway.shown session action = some visible) :
    visible ≠ .subscribe socket := by
  rintro rfl
  unfold shown at named
  split at named
  · split at named <;> cases named
  · split at named
    · split at named
      · split at named <;> cases named
      · cases named
    · cases named
  · split at named
    · split at named <;> cases named
    · cases named
  · split at named
    · cases named
      exact other ⟨rfl, ‹_›⟩
    · cases named
  · split at named <;> cases named
  · cases named

/-- The feed sees a socket leave only when it unbinds. -/
theorem shown_leave {action : WebGatewayAction}
    (named : gateway.shown session action = some (.leave socket)) : action = .unbind socket := by
  unfold shown at named
  split at named
  · split at named <;> cases named
  · split at named
    · split at named
      · split at named <;> cases named
      · cases named
    · cases named
  · split at named
    · split at named <;> cases named
    · cases named
  · split at named <;> cases named
  · split at named
    · cases named
      rfl
    · cases named
  · cases named

/-- The pushes that are queued when the socket binds keep their numbers. -/
theorem Valid.mem_published (valid : next.Valid) {before : WebGateway} (sound : before.Valid)
    (grown : before.queued <+: next.queued) {push : WebPush} (member : push ∈ next.queued)
    (own : push.sessionId = session) :
    push.number ∈ (before.feed session).published ↔ push.number < before.queued.length := by
  obtain ⟨place, found⟩ := List.getElem?_of_mem member
  obtain rfl := valid.numbered place push found
  constructor
  · intro published
    obtain ⟨other, listed, same⟩ := List.mem_map.mp published
    obtain ⟨index, there⟩ := List.getElem?_of_mem (List.mem_filter.mp listed).1
    rw [← same, sound.numbered index other there]
    exact (List.getElem?_eq_some_iff.mp there).1
  · intro early
    obtain ⟨rest, same⟩ := grown
    rw [← same, List.getElem?_append_left early] at found
    exact List.mem_map.mpr ⟨push, List.mem_filter.mpr
      ⟨List.mem_of_getElem? found, decide_eq_true own⟩, rfl⟩

/-- Through its binding, the socket gets or is owed every push once, but for those that the backlog
does not hold. -/
theorem BindsOnce.due {before final : WebGateway} (binds : BindsOnce socket session before final)
    (single : session ≠ outboundBroadcastSessionId) {push : WebPush}
    (queued : push ∈ final.queued) (own : push.sessionId = session) :
    final.received session socket push.number + final.owed session socket push.number =
      if push.number < before.queued.length ∧
        push.number ∉ (before.backlog session).map WebPush.number then 0 else 1 := by
  obtain ⟨sessionId, after, named, bound, stays⟩ := binds.stays
  have sound := reachable_valid binds.reached
  have valid := sound.step bound
  have earlier : (Feed.machine 128).Reachable (fun _ action => action ≠ .subscribe socket)
      (before.feed session) := by
    obtain ⟨start, begun, steps⟩ := binds.reached
    refine ⟨start.feed session, (simulation single).started start begun, ?_⟩
    exact (simulation single).steps (fun _ held => held) (fun _ _ _ held _ stepped => held.step stepped)
      (fun _ _ _ _ _ other _ shows => shown_ne_subscribe other shows) steps
      (begun ▸ valid_initial)
  have joined : (before.feed session).step 128 (.subscribe socket) = some (after.feed session) := by
    have matched := sound.simulated single bound
    simp only [shown, if_pos named] at matched
    exact matched
  have registered : (after.handlers socket).phase ≠ .unregistered := by
    obtain ⟨_, _, rfl⟩ := step_cases bound
    rw [bindSession_handlers, if_pos rfl]
    rintro ⟨⟩
  have stayed : (Feed.machine 128).Steps
      (fun _ action => action ≠ .subscribe socket ∧ action ≠ .leave socket) (after.feed session)
      (final.feed session) := by
    have preserved (first : WebGateway) (action : WebGatewayAction) (second : WebGateway)
        (held : first.Valid ∧ (first.handlers socket).phase ≠ .unregistered)
        (others : ¬ action.Binds socket session ∧ action ≠ .disconnect socket)
        (stepped : first.step action = some second) :
        second.Valid ∧ (second.handlers socket).phase ≠ .unregistered :=
      ⟨held.1.step stepped, step_stays others.2 held.2 stepped⟩
    refine (simulation single).steps (fun _ held => held.1) preserved ?_ stays ⟨valid, registered⟩
    intro first action second visible held others stepped shows
    refine ⟨shown_ne_subscribe others.1 shows, ?_⟩
    rintro rfl
    obtain rfl := shown_leave shows
    have moved : first.step (.unbind socket) = some second := stepped
    exact held.2 (step_cases moved).1
  have grown_last : final.Valid ∧ after.queued <+: final.queued := by
    refine stays.invariant (fun first _ _ (held : first.Valid ∧ after.queued <+: first.queued) _
      stepped => ?_) ⟨valid, List.prefix_rfl⟩
    exact ⟨held.1.step stepped, held.2.trans (step_queued held.1 stepped)⟩
  obtain ⟨last, onward⟩ := grown_last
  have grown : before.queued <+: final.queued := (step_queued sound bound).trans onward
  have published : push.number ∈ (final.feed session).published :=
    List.mem_map.mpr ⟨push, List.mem_filter.mpr ⟨queued, decide_eq_true own⟩, rfl⟩
  have kept : recent 128 (before.feed session).published =
      (before.backlog session).map WebPush.number := by
    rw [sound.backlog session single, ← recent_map]
    rfl
  have once := Feed.due_eq earlier joined stayed published
  rw [kept] at once
  simp only [last.mem_published sound grown queued own] at once
  exact once

/-- No call and no replay stands before a delivery of the push through the binding. -/
structure Settled (gateway : WebGateway) (session : String) (socket : Socket) (number : Nat) :
    Prop where
  replayed : ∀ rest, (gateway.handlers socket).phase ≠ .replaying session rest
  sent : ∀ call, gateway.calls number = some call → call.stage.isSending = false

/-- Nothing is owed where no call and no replay is left. -/
theorem Settled.owed_eq (settled : gateway.Settled session socket number) :
    gateway.owed session socket number = 0 := by
  have replayed : (gateway.handlers socket).phase.owed session number = 0 := by
    unfold SocketPhase.owed
    split
    · rename_i sessionId rest replaying
      refine if_neg fun same => ?_
      exact settled.replayed rest (same ▸ replaying)
    · rfl
  have sent : gateway.callOwed session socket number = 0 := by
    unfold callOwed
    split
    · exact owed_of_not_sending (settled.sent _ ‹_›) socket
    · rfl
  rw [owed, replayed, sent]

/-! ## What is carried on ends -/

/-- The deliveries that the call of a push has before it. -/
def callLeft (number : Nat) (gateway : WebGateway) : Nat :=
  ((gateway.calls number).map fun call => call.stage.left).getD 0

/-- A call that goes on has less before it. -/
theorem Valid.callLeft_lt_of_stage (valid : gateway.Valid)
    (called : gateway.calls number = some call) {moved : WebGateway} {stage : PushStage}
    (lower : stage.left < call.stage.left) :
    callLeft number (moved.setStage call stage) < callLeft number gateway := by
  unfold callLeft
  rw [setStage_calls, if_pos (valid.call_number called).symm, called]
  exact lower

/-- A loop is shorter by the socket it has served. -/
theorem left_erase {sockets : List Socket} (listed : socket ∈ sockets) :
    (sockets.erase socket).length + 1 < sockets.length + 1 := by
  have positive := List.length_pos_of_mem listed
  rw [List.length_erase_of_mem listed]
  omega

/-- While it delivers, a call has a step. -/
theorem call_progress (gateway : WebGateway) (number : Nat) :
    (∀ call, gateway.calls number = some call → call.stage.isDelivering = false) ∨
      ∃ action after, action.Sends number ∧ machine.step gateway action = some after := by
  cases called : gateway.calls number with
  | none => exact Or.inl nofun
  | some call =>
      cases stage : call.stage with
      | sending remaining =>
          refine Or.inr ?_
          cases remaining with
          | nil =>
              by_cases unbound : call.push.sessionId ≠ outboundBroadcastSessionId ∧
                  call.targets = []
              · refine ⟨.endLoop number, gateway.setStage call .lookingUp, rfl, ?_⟩
                simp only [machine, step, called, Option.bind_eq_bind, Option.bind_some, stage,
                  if_pos unbound]
              · refine ⟨.endLoop number, gateway.setStage call (.returned .targets), rfl, ?_⟩
                simp only [machine, step, called, Option.bind_eq_bind, Option.bind_some, stage,
                  if_neg unbound]
          | cons socket rest =>
              refine ⟨.deliver number socket, (gateway.deliverTo socket call.push .live).setStage
                call (.sending ((socket :: rest).erase socket)), rfl, ?_⟩
              simp only [machine, step, called, Option.bind_eq_bind, Option.bind_some, stage,
                List.mem_cons_self, ↓reduceIte]
      | sendingParent parentId parentTargets remaining =>
          refine Or.inr ?_
          cases remaining with
          | nil =>
              refine ⟨.endLoop number,
                gateway.setStage call (.returned (.parent parentId parentTargets)), rfl, ?_⟩
              simp only [machine, step, called, Option.bind_eq_bind, Option.bind_some, stage]
          | cons socket rest =>
              refine ⟨.deliver number socket,
                (gateway.deliverTo socket call.push (.parent parentId)).setStage call
                  (.sendingParent parentId parentTargets ((socket :: rest).erase socket)), rfl, ?_⟩
              simp only [machine, step, called, Option.bind_eq_bind, Option.bind_some, stage,
                List.mem_cons_self, ↓reduceIte]
      | lookingUp | routing | returned | raised =>
          refine Or.inl fun other found => ?_
          cases found
          rw [stage]
          rfl

/-- Every step of a call brings it nearer to its end. -/
theorem Valid.callLeft_lt (valid : gateway.Valid) {action : WebGatewayAction}
    (sends : action.Sends number) (stepped : gateway.step action = some next) :
    callLeft number next < callLeft number gateway := by
  have effect := step_cases stepped
  cases action with
  | deliver other socket =>
      obtain rfl : other = number := sends
      obtain ⟨call, called, ⟨_, sending, listed, rfl⟩ | ⟨_, _, _, sending, listed, rfl⟩⟩ := effect
      · refine valid.callLeft_lt_of_stage called ?_
        rw [sending]
        exact left_erase listed
      · refine valid.callLeft_lt_of_stage called ?_
        rw [sending]
        exact left_erase listed
  | endLoop other =>
      obtain rfl : other = number := sends
      obtain ⟨call, called, ⟨sending, ⟨_, _, rfl⟩ | ⟨_, rfl⟩⟩ | ⟨_, _, sending, rfl⟩⟩ := effect
      all_goals
        refine valid.callLeft_lt_of_stage called ?_
        rw [sending]
        exact Nat.one_pos
  | send | lookUp | route | connect | replay | endReplay | bind | disconnect | unbind =>
      cases sends

/-- A call whose steps are taken makes all its deliveries. -/
theorem call_ends (valid : gateway.Valid) (number : Nat) :
    machine.Inevitably (fun _ action => action.Sends number) (fun state =>
      ∀ call, state.calls number = some call → call.stage.isDelivering = false) gateway :=
  Machine.inevitably_of_measure (callLeft number) (fun state _ => call_progress state number)
    (fun before _ _ (sound : before.Valid) sends stepped =>
      ⟨sound.step stepped, sound.callLeft_lt sends stepped⟩) valid

/-- A replay whose steps are taken ends. -/
theorem replay_ends (gateway : WebGateway) (socket : Socket) :
    machine.Inevitably (fun _ action => action.Replays socket) (fun state =>
      ∀ sessionId rest, (state.handlers socket).phase ≠ .replaying sessionId rest) gateway := by
  refine Machine.inevitably_of_measure
    (fun state => (state.handlers socket).phase.left) (fun state (_ : True) => ?_)
    (fun before action after (_ : True) replays stepped => ⟨trivial, ?_⟩) trivial
  · cases phase : (state.handlers socket).phase with
    | replaying sessionId rest =>
        refine Or.inr ?_
        cases rest with
        | nil =>
            refine ⟨.endReplay socket, state.setPhase socket .receiving, rfl, ?_⟩
            simp only [machine, step, phase]
        | cons push rest =>
            refine ⟨.replay socket, (state.deliverTo socket push (.replay sessionId)).setPhase
              socket (.replaying sessionId rest), rfl, ?_⟩
            simp only [machine, step, phase]
    | absent | registering | receiving | unregistered | closed => exact Or.inl (by rintro _ _ ⟨⟩)
  · have effect := step_cases (show before.step action = some after from stepped)
    cases action with
    | replay other =>
        obtain rfl : other = socket := replays
        obtain ⟨push, rest, ⟨phase, rfl⟩ | ⟨sessionId, phase, rfl⟩⟩ := effect
        all_goals
          rw [setPhase_handlers, if_pos rfl, phase]
          exact Nat.lt_succ_self _
    | endReplay other =>
        obtain rfl : other = socket := replays
        obtain ⟨phase | ⟨_, phase⟩, rfl⟩ := effect
        all_goals
          rw [setPhase_handlers, if_pos rfl, phase]
          exact Nat.one_pos
    | send | deliver | endLoop | lookUp | route | connect | bind | disconnect | unbind =>
        cases replays

/-! ## The parent session -/

/-- Every call falls back as its targets tell. -/
def Falls (gateway : WebGateway) : Prop :=
  Tracks (fun call sent => call.Routed (sent.filterMap PushDelivery.toParent)) gateway

/-- A step of a call keeps to its route. -/
theorem CallStep.routed {action : WebGatewayAction} {sent deliveries : List PushDelivery}
    {stage : PushStage} (moves : CallStep gateway call action deliveries stage)
    (routed : call.Routed (sent.filterMap PushDelivery.toParent)) :
    PushCall.Routed { call with stage := stage }
      ((sent ++ deliveries).filterMap PushDelivery.toParent) := by
  unfold PushCall.Routed at routed
  rw [List.filterMap_append]
  cases moves with
  | deliver sending _ =>
      rw [sending] at routed
      exact ⟨by rw [routed.1]; rfl, fun unbound => by rw [routed.2 unbound]; rfl⟩
  | @deliverParent parentId parentTargets remaining socket sending listed =>
      rw [sending] at routed
      obtain ⟨unbound, reached, made, all⟩ := routed
      refine ⟨unbound, reached ++ [socket], ?_, ?_⟩
      · rw [made, List.map_append]
        rfl
      · rw [List.append_assoc, List.singleton_append]
        exact ((List.perm_cons_erase listed).symm.append_left reached).trans all
  | fallBack sending _ unbound =>
      rw [sending] at routed
      exact ⟨by rw [routed.1]; rfl, unbound⟩
  | sent sending bound =>
      rw [sending] at routed
      refine ⟨by rw [routed.1]; rfl, ?_⟩
      by_cases broadcast : call.push.sessionId = outboundBroadcastSessionId
      · exact Or.inl broadcast
      · exact Or.inr fun unbound => bound ⟨broadcast, unbound⟩
  | sentParent sending =>
      rw [sending] at routed
      obtain ⟨unbound, reached, made, all⟩ := routed
      rw [List.append_nil] at all
      exact ⟨unbound, reached, (List.append_nil _).trans made, all⟩
  | noParent waiting _ | lookUp waiting _ =>
      rw [waiting] at routed
      exact ⟨(List.append_nil _).trans routed.1, routed.2⟩
  | route waiting =>
      rw [waiting] at routed
      exact ⟨routed.2, [], (List.append_nil _).trans routed.1, List.Perm.refl _⟩

/-- Pushes fall back as their parent says in every run. -/
theorem reachable_falls {guard : Machine.Guard WebGateway WebGatewayAction}
    (reached : machine.Reachable guard gateway) : gateway.Falls := by
  have preserved (before : WebGateway) (action : WebGatewayAction) (after : WebGateway)
      (held : before.Valid ∧ before.Falls) (_ : guard before action)
      (stepped : before.step action = some after) : after.Valid ∧ after.Falls :=
    ⟨held.1.step stepped, Tracks.step held.2 held.1 (fun _ _ => ⟨rfl, id⟩)
      (fun _ _ _ _ moves => moves.routed) stepped⟩
  have started (start : WebGateway) (begun : start = {}) : start.Valid ∧ start.Falls := by
    subst begun
    exact ⟨valid_initial, nofun, fun _ _ => rfl⟩
  exact (reached.invariant started preserved).2

/-- Where the call of a push goes is decided when it is queued. -/
theorem fallback_of_queued {before after final : WebGateway} {outbound : GatewayOutboundMessage}
    {download : Except String DownloadedFile}
    (single : outbound.sessionId ≠ outboundBroadcastSessionId)
    (reached : machine.Reachable Machine.anyStep before)
    (sent : before.step (.send outbound download) = some after)
    (steps : machine.Steps Machine.anyStep after final) :
    ∃ call, final.calls before.queued.length = some call ∧
      (before.sessionSockets outbound.sessionId ≠ [] →
        final.toParent before.queued.length = []) ∧
      ∀ route, call.stage = .returned route →
        (route ≠ .targets ↔ before.sessionSockets outbound.sessionId = []) ∧
        ∀ parentId parentTargets, route = .parent parentId parentTargets →
          parentTargets.Nodup ∧
          (final.toParent before.queued.length).Perm (parentTargets.map (·, parentId)) ∧
          ∃ routing, machine.Steps Machine.anyStep after routing ∧
            machine.Steps Machine.anyStep routing final ∧
            routing.sessionSockets parentId = parentTargets := by
  have sound := reachable_valid reached
  have onward {state : WebGateway} (later : machine.Steps Machine.anyStep after state) :
      machine.Reachable Machine.anyStep state := by
    obtain ⟨start, begun, earlier⟩ := reached
    have taken : machine.step before (.send outbound download) = some after := sent
    exact ⟨start, begun, (earlier.tail trivial taken).trans later⟩
  obtain ⟨content, _, rfl⟩ := step_cases sent
  have queued : (before.queue outbound content).calls before.queued.length = some
      { push := before.newPush outbound content
        targets := before.sessionSockets outbound.sessionId
        stage := .sending (before.sessionSockets outbound.sessionId) } := by
    rw [queue_calls, if_pos rfl, pushTargets, if_neg single]
  obtain ⟨_, stage, called, routings⟩ :=
    follows_steps (fun _ _ _ _ held called _ stepped =>
      ⟨held.step stepped, step_call held called stepped⟩) (sound.queue outbound content) queued rfl
      steps
  have routed := (reachable_falls (onward steps)).called _ _ called
  unfold PushCall.Routed at routed
  refine ⟨_, called, fun bound => ?_, fun route returned => ?_⟩
  · cases stage with
    | sending => exact routed.1
    | lookingUp | routing => exact absurd routed.2 bound
    | sendingParent => exact absurd routed.1 bound
    | returned route =>
        cases route with
        | targets => exact routed.1
        | noParent => exact absurd routed.2 bound
        | parent => exact absurd routed.1 bound
    | raised => exact routed.elim
  · obtain rfl : stage = .returned route := returned
    cases route with
    | targets =>
        refine ⟨iff_of_false (fun other => other rfl) ?_, nofun⟩
        exact routed.2.elim (fun broadcast => absurd broadcast single) id
    | noParent => exact ⟨iff_of_true nofun routed.2, nofun⟩
    | parent parentId parentTargets =>
        obtain ⟨unbound, reached_sockets, made, all⟩ := routed
        refine ⟨iff_of_true nofun unbound, ?_⟩
        rintro _ _ ⟨⟩
        obtain ⟨routing, first, second, same⟩ := routings parentId parentTargets rfl
        refine ⟨?_, ?_, routing, first, second, same⟩
        · rw [← same]
          exact (reachable_valid (onward first)).sockets parentId
        · rw [toParent, made]
          exact all.map _

/-! ## What a socket is sent -/

/-- Whatever is kept, replayed or delivered is a queued push with an accepted content. -/
structure Drawn (gateway : WebGateway) : Prop where
  accepted : ∀ push ∈ gateway.queued,
    ∃ download, push.outbound.pushContent download = .ok push.content
  backlog : ∀ session, gateway.backlog session ⊆ gateway.queued
  broadcast : gateway.broadcastBacklog ⊆ gateway.queued
  replays : ∀ socket, (gateway.handlers socket).phase.rest ⊆ gateway.queued
  delivered : ∀ delivery ∈ gateway.delivered, delivery.push ∈ gateway.queued

namespace Drawn

/-- A handler goes on with pushes that are queued. -/
theorem setPhase (drawn : gateway.Drawn) (socket : Socket) (phase : SocketPhase)
    (rest : phase.rest ⊆ gateway.queued) :
    (gateway.setPhase socket phase).Drawn :=
  { drawn with
    replays := fun other => by
      rw [setPhase_handlers]
      split
      · exact rest
      · exact drawn.replays other }

/-- A queued push is delivered. -/
theorem deliverTo (drawn : gateway.Drawn) {push : WebPush} (queued : push ∈ gateway.queued)
    (socket : Socket) (path : PushPath) : (gateway.deliverTo socket push path).Drawn :=
  { drawn with
    delivered := fun delivery member => by
      rcases List.mem_append.mp member with earlier | last
      · exact drawn.delivered delivery earlier
      · rw [List.mem_singleton.mp last]
        exact queued }

/-- A call goes on without a delivery. -/
theorem setStage (drawn : gateway.Drawn) (call : PushCall) (stage : PushStage) :
    (gateway.setStage call stage).Drawn :=
  { drawn with }

/-- A push whose content is accepted is queued. -/
theorem queue (drawn : gateway.Drawn) {outbound : GatewayOutboundMessage} {content : JsonObject}
    {download : Except String DownloadedFile}
    (accepted : outbound.pushContent download = .ok content) :
    (gateway.queue outbound content).Drawn := by
  obtain ⟨_, handlers, delivered⟩ := @queue_others gateway outbound content
  have grown : gateway.queued ⊆ (gateway.queue outbound content).queued := by
    rw [queue_queued]
    exact List.subset_append_left _ _
  have newest : gateway.newPush outbound content ∈ (gateway.queue outbound content).queued := by
    rw [queue_queued]
    exact List.mem_append_right _ (List.mem_singleton_self _)
  have bounded {limit : Nat} {kept : List WebPush} (queued : kept ⊆ gateway.queued) :
      appendBounded limit kept (gateway.newPush outbound content) ⊆
        (gateway.queue outbound content).queued := by
    intro push member
    rcases List.mem_append.mp (List.mem_of_mem_drop member) with earlier | last
    · exact grown (queued earlier)
    · exact List.mem_singleton.mp last ▸ newest
  constructor
  · intro push member
    rw [queue_queued] at member
    rcases List.mem_append.mp member with earlier | last
    · exact drawn.accepted push earlier
    · exact List.mem_singleton.mp last ▸ ⟨download, accepted⟩
  · intro session
    rw [queue_backlog]
    split
    · exact List.Subset.trans (drawn.backlog session) grown
    · split
      · exact bounded (drawn.backlog session)
      · exact List.Subset.trans (drawn.backlog session) grown
  · have kept : gateway.broadcastBacklog ⊆ (gateway.queue outbound content).queued :=
      List.Subset.trans drawn.broadcast grown
    unfold WebGateway.queue at bounded kept ⊢
    split
    · rename_i broadcast
      simp only [broadcast, ↓reduceIte] at bounded
      exact bounded drawn.broadcast
    · rename_i single
      simp only [single, ↓reduceIte] at kept
      exact kept
  · rw [handlers]
    exact fun socket => List.Subset.trans (drawn.replays socket) grown
  · rw [delivered]
    exact fun delivery member => grown (drawn.delivered delivery member)

/-- A binding replays the backlog of its session. -/
theorem bindSession (drawn : gateway.Drawn) (socket : Socket) (sessionId : String) :
    (gateway.bindSession socket sessionId).Drawn :=
  { drawn with
    replays := fun other => by
      rw [bindSession_handlers]
      split
      · exact drawn.backlog sessionId
      · exact drawn.replays other }

/-- What is delivered stays drawn from what was queued. -/
theorem step (drawn : gateway.Drawn) (valid : gateway.Valid) {action : WebGatewayAction}
    (stepped : gateway.step action = some next) : next.Drawn := by
  have effect := step_cases stepped
  have known {number : Nat} {call : PushCall} (called : gateway.calls number = some call) :
      call.push ∈ gateway.queued := List.mem_of_getElem? (valid.calls number call called)
  cases action with
  | send outbound download =>
      obtain ⟨content, accepted, rfl⟩ := effect
      exact drawn.queue accepted
  | deliver number socket =>
      obtain ⟨call, called, ⟨_, _, _, rfl⟩ | ⟨_, _, _, _, _, rfl⟩⟩ := effect
      · exact (drawn.deliverTo (known called) socket _).setStage call _
      · exact (drawn.deliverTo (known called) socket _).setStage call _
  | endLoop =>
      obtain ⟨call, _, ⟨_, ⟨_, _, rfl⟩ | ⟨_, rfl⟩⟩ | ⟨_, _, _, rfl⟩⟩ := effect
      · exact drawn.setStage call _
      · exact drawn.setStage call _
      · exact drawn.setStage call _
  | lookUp =>
      obtain ⟨call, _, _, ⟨_, rfl⟩ | ⟨_, _, rfl⟩⟩ := effect
      · exact drawn.setStage call _
      · exact drawn.setStage call _
  | route =>
      obtain ⟨call, _, _, _, rfl⟩ := effect
      exact drawn.setStage call _
  | connect socket =>
      obtain ⟨_, rfl⟩ := effect
      have registered : (gateway.setPhase socket (.registering gateway.broadcastBacklog)).Drawn :=
        drawn.setPhase socket _ drawn.broadcast
      exact { registered with }
  | replay socket =>
      obtain ⟨push, rest, replaying⟩ := effect
      have listed : push :: rest ⊆ gateway.queued := by
        have owed := drawn.replays socket
        rcases replaying with ⟨phase, _⟩ | ⟨_, phase, _⟩
        · rw [phase] at owed
          exact owed
        · rw [phase] at owed
          exact owed
      obtain ⟨first, later⟩ := List.cons_subset.mp listed
      rcases replaying with ⟨_, rfl⟩ | ⟨_, _, rfl⟩
      · exact (drawn.deliverTo first socket _).setPhase socket _ later
      · exact (drawn.deliverTo first socket _).setPhase socket _ later
  | endReplay socket =>
      obtain ⟨_, rfl⟩ := effect
      exact drawn.setPhase socket _ (List.nil_subset _)
  | bind socket sessionId =>
      obtain ⟨_, _, rfl⟩ := effect
      exact drawn.bindSession socket (strip sessionId)
  | disconnect socket =>
      obtain ⟨_, rfl⟩ := effect
      have left : (gateway.setPhase socket .unregistered).Drawn :=
        drawn.setPhase socket _ (List.nil_subset _)
      exact { left with }
  | unbind socket =>
      obtain ⟨_, rfl⟩ := effect
      have closed : (gateway.setPhase socket .closed).Drawn :=
        drawn.setPhase socket _ (List.nil_subset _)
      exact { closed with }

end Drawn

/-- Every reachable gateway delivers what was queued. -/
theorem reachable_drawn {guard : Machine.Guard WebGateway WebGatewayAction}
    (reached : machine.Reachable guard gateway) : gateway.Drawn := by
  refine (reached.invariant (fun start begun => ?_) fun before action after
    (held : before.Valid ∧ before.Drawn) _ stepped =>
      ⟨held.1.step stepped, held.2.step held.1 stepped⟩).2
  obtain rfl := begun
  exact ⟨valid_initial, nofun, fun _ => List.nil_subset _, List.nil_subset _,
    fun _ => List.nil_subset _, nofun⟩

/-- A text for a session. -/
def textOutbound : GatewayOutboundMessage where
  sessionId := "s"
  kind := "text"
  content := [("text", .str "hi")]

/-- A text is queued before any socket is bound, and a socket connects. -/
def unboundRun : List WebGatewayAction :=
  [.send textOutbound (.error ""), .endLoop 0, .connect 7, .endReplay 7]

/-- The gateway before the binding. -/
def unboundGateway : WebGateway := (machine.replay Machine.anyStep {} unboundRun).getD {}

/-- The socket binds the session. -/
def boundGateway : WebGateway := unboundGateway.bindSession 7 "s"

/-- The replay, and a second text that is sent live. -/
def boundRun : List WebGatewayAction :=
  [.send textOutbound (.error ""), .replay 7, .deliver 1 7, .endReplay 7, .endLoop 1]

/-- The gateway after both texts. -/
def servedGateway : WebGateway := (machine.replay Machine.anyStep boundGateway boundRun).getD {}

/-- The socket binds the session once, and stays. -/
theorem bindsOnce_servedGateway : BindsOnce 7 "s" unboundGateway servedGateway where
  reached := by
    refine ⟨{}, rfl, @Machine.Steps.of_replay_allowed _ _ _ _ unboundRun _ _ rfl ?_⟩
    simp [unboundRun, WebGatewayAction.Binds]
  stays := by
    refine ⟨"s", boundGateway, rfl, rfl, @Machine.Steps.of_replay_allowed _ _ _ _ boundRun _ _ rfl ?_⟩
    simp [boundRun, WebGatewayAction.Binds]

end WebGateway

end FairyClaw
