import FairyClaw.Bridge.Outbound
import FairyClaw.Gateway.PushCalls

/-! # Sockets that raise

A delivery to a socket may raise. The loop of `send` ends there, the frame is acknowledged as failed,
and the business side keeps it for the next replay. So the sockets that the loop had not come to get
nothing, and the others get the push again (`FairyClaw.WebGateway.delivered_twice_or_never`). All
sockets that work get the push, and the frame is acknowledged, exactly when no socket that the push
goes to raises (`FairyClaw.WebGateway.delivered_and_acknowledged_iff`).
-/

namespace FairyClaw

open Foundation

/-- A step without a failure, or a delivery that raises. -/
inductive FaultyAction
  | step (action : WebGatewayAction)
  | raises (number : Nat) (socket : Socket) (exc : String)
  | replayRaises (socket : Socket)

/-- The status with which `_dispatch_outbound_and_ack` answers the frame of a call. -/
def PushStage.ackStatus : PushStage → Option AckStatus
  | .returned _ => some .ok
  | .raised _ _ => some .failed
  | _ => none

/-- What a stage has still to do: its loop, nothing, or what a socket that raised has cut off. -/
def PushStage.Owes (broken : Socket → Prop) (rest : List Socket) : PushStage → Prop
  | .sending remaining | .sendingParent _ _ remaining => rest = remaining
  | .lookingUp | .routing _ | .returned _ => rest = []
  | .raised _ _ => ∃ socket ∈ rest, broken socket

/-- A stage after the targets. -/
def PushStage.fellBack : PushStage → Bool
  | .lookingUp | .routing _ | .sendingParent _ _ _ | .returned .noParent | .returned (.parent _ _)
  | .raised _ (.parent _ _) => true
  | _ => false

/-- A push that is routed to sockets of a session has been looked up. -/
theorem fellBack_of_routed {stage : PushStage} {place : String × List Socket}
    (routed : stage.routed = some place) : stage.fellBack = true := by
  cases stage with
  | sendingParent => rfl
  | returned route | raised _ route =>
      cases route with
      | parent => rfl
      | targets | noParent => cases routed
  | sending | lookingUp | routing => cases routed

/-- The sockets that the loops of a call go through. -/
def PushCall.audience (call : PushCall) : List Socket :=
  call.targets ++ (call.stage.routed.map Prod.snd).getD []

/-- The call has sent its push to sockets that work, and owes it to the others of the audience. -/
structure PushCall.Serves (broken : Nat → Socket → Prop) (call : PushCall)
    (sent : List PushDelivery) : Prop where
  own : ∀ delivery ∈ sent, delivery.push = call.push
  works : ∀ delivery ∈ sent, ¬ broken call.push.number delivery.socket
  fellBack : call.stage.fellBack = true →
    call.push.sessionId ≠ outboundBroadcastSessionId ∧ call.targets = []
  all : ∃ rest, (sent.map PushDelivery.socket ++ rest).Perm call.audience ∧
    call.stage.Owes (broken call.push.number) rest

namespace WebGateway

variable (gateway : WebGateway)

/-- One step, with deliveries that raise. -/
def faultyStep : FaultyAction → Option WebGateway
  | .step action => gateway.step action
  | .raises number socket exc => do
      let call ← gateway.calls number
      match call.stage with
      | .sending remaining =>
          if socket ∈ remaining then some (gateway.setStage call (.raised exc .targets)) else none
      | .sendingParent parentId parentTargets remaining =>
          if socket ∈ remaining then
            some (gateway.setStage call (.raised exc (.parent parentId parentTargets)))
          else none
      | _ => none
  | .replayRaises socket =>
      match (gateway.handlers socket).phase with
      -- `register_client` is called before the `try`, so the socket stays in `_all_websockets`.
      | .registering (_ :: _) => some (gateway.setPhase socket .closed)
      -- The failed operation is answered with an error.
      | .replaying _ (_ :: _) => some (gateway.setPhase socket .receiving)
      | _ => none

/-- The gateway with sockets that may raise. -/
def faultyMachine : Machine WebGateway FaultyAction where
  initial := (· = {})
  step := faultyStep

/-- A delivery of a call raises where its socket is broken for the push, and there only. -/
def Breaks (broken : Nat → Socket → Prop) : Machine.Guard WebGateway FaultyAction :=
  fun _ action => match action with
    | .step (.deliver number socket) => ¬ broken number socket
    | .raises number socket _ => broken number socket
    | _ => True

instance (broken : Nat → Socket → Prop) [∀ number socket, Decidable (broken number socket)] :
    DecidableRel (Breaks broken) := fun _ action =>
  match action with
  | .step (.deliver _ _) => inferInstanceAs (Decidable (¬ _))
  | .raises number socket _ => inferInstanceAs (Decidable (broken number socket))
  | .step (.send _ _) | .step (.endLoop _) | .step (.lookUp _ _) | .step (.route _)
  | .step (.connect _) | .step (.replay _) | .step (.endReplay _) | .step (.bind _ _)
  | .step (.disconnect _) | .step (.unbind _) | .replayRaises _ => isTrue trivial

variable {gateway} {next : WebGateway} {call : PushCall} {number : Nat} {socket : Socket}
  {broken : Nat → Socket → Prop}

/-- Where a delivery of a call raises, the call ends. -/
theorem raises_cases {exc : String}
    (stepped : gateway.faultyStep (.raises number socket exc) = some next) :
    ∃ call, gateway.calls number = some call ∧
      ((∃ remaining, call.stage = .sending remaining ∧ socket ∈ remaining ∧
        next = gateway.setStage call (.raised exc .targets)) ∨
      ∃ parentId parentTargets remaining,
        call.stage = .sendingParent parentId parentTargets remaining ∧ socket ∈ remaining ∧
        next = gateway.setStage call (.raised exc (.parent parentId parentTargets))) := by
  obtain ⟨call, called, stepped⟩ := Option.bind_eq_some_iff.mp stepped
  refine ⟨call, called, ?_⟩
  split at stepped
  · obtain ⟨listed, result⟩ := Option.ite_none_right_eq_some.mp stepped
    exact Or.inl ⟨_, ‹_›, listed, (Option.some.inj result).symm⟩
  · obtain ⟨listed, result⟩ := Option.ite_none_right_eq_some.mp stepped
    exact Or.inr ⟨_, _, _, ‹_›, listed, (Option.some.inj result).symm⟩
  · cases stepped

/-- Where a delivery of a replay raises, no call goes on. -/
theorem replayRaises_cases (stepped : gateway.faultyStep (.replayRaises socket) = some next) :
    ∃ phase, (∀ sessionId rest, phase ≠ .replaying sessionId rest) ∧
      next = gateway.setPhase socket phase := by
  simp only [faultyStep] at stepped
  split at stepped
  · exact ⟨.closed, nofun, (Option.some.inj stepped).symm⟩
  · exact ⟨.receiving, nofun, (Option.some.inj stepped).symm⟩
  · cases stepped

/-- A call whose delivery raised keeps its route. -/
theorem faulty_call (valid : gateway.Valid) (called : gateway.calls number = some call)
    {action : FaultyAction} (stepped : gateway.faultyStep action = some next) :
    next.Valid ∧ Proceeds number call gateway next := by
  cases action with
  | step action =>
      have moved : gateway.step action = some next := stepped
      exact ⟨valid.step moved, step_call valid called moved⟩
  | raises place socket exc =>
      obtain ⟨moving, found, ⟨_, sending, _, rfl⟩ | ⟨parentId, parentTargets, _, sending, _, rfl⟩⟩ :=
        raises_cases stepped
      all_goals
        obtain rfl := valid.call_number found
        refine ⟨valid.setStage found _, proceeds_goesOn called found (goesOn_setStage _) ?_⟩
      · exact nofun
      · rw [sending]
        exact fun _ _ => Or.inl
  | replayRaises socket =>
      obtain ⟨phase, past, rfl⟩ := replayRaises_cases stepped
      exact ⟨valid.setPhase fun sessionId rest replaying => absurd replaying (past sessionId rest),
        proceeds_of_eq called rfl⟩

/-! ## What a call owes -/

/-- A step of a call serves a socket that works, or goes on to the next sockets. -/
theorem CallStep.serves {action : WebGatewayAction} {sent deliveries : List PushDelivery}
    {stage : PushStage} (moves : CallStep gateway call action deliveries stage)
    (works : Breaks broken gateway (.step action)) (serves : call.Serves broken sent) :
    PushCall.Serves broken { call with stage := stage } (sent ++ deliveries) := by
  obtain ⟨own, earlier, fellBack, rest, all, owes⟩ := serves
  have mine : ∀ delivery ∈ sent ++ deliveries, delivery.push = call.push := fun delivery member =>
    (List.mem_append.mp member).elim (own delivery) fun new => (moves.own delivery new).1
  have working : ∀ delivery ∈ sent ++ deliveries,
      ¬ broken call.push.number delivery.socket := by
    refine fun delivery member => (List.mem_append.mp member).elim (earlier delivery) fun new => ?_
    cases moves with
    | deliver | deliverParent =>
        rw [List.mem_singleton.mp new]
        exact works
    | fallBack | sent | sentParent | noParent | lookUp | route => cases new
  suffices ((stage.fellBack = true →
      call.push.sessionId ≠ outboundBroadcastSessionId ∧ call.targets = []) ∧
      ∃ rest, ((sent ++ deliveries).map PushDelivery.socket ++ rest).Perm
        (PushCall.audience { call with stage := stage }) ∧
        stage.Owes (broken call.push.number) rest) from ⟨mine, working, this.1, this.2⟩
  simp only [List.map_append, List.append_assoc]
  unfold PushCall.audience at all ⊢
  cases moves with
  | @deliver remaining socket sending listed =>
      rw [sending] at all owes
      obtain rfl : rest = remaining := owes
      exact ⟨nofun, _, ((List.perm_cons_erase listed).symm.append_left _).trans all, rfl⟩
  | @deliverParent parentId parentTargets remaining socket sending listed =>
      rw [sending] at all owes fellBack
      obtain rfl : rest = remaining := owes
      exact ⟨fun _ => fellBack rfl, _,
        ((List.perm_cons_erase listed).symm.append_left _).trans all, rfl⟩
  | fallBack sending single unbound =>
      rw [sending] at all owes
      exact ⟨fun _ => ⟨single, unbound⟩, rest, all, owes⟩
  | sent sending =>
      rw [sending] at all owes
      exact ⟨nofun, rest, all, owes⟩
  | sentParent sending | noParent sending | lookUp sending =>
      rw [sending] at all owes fellBack
      exact ⟨fun _ => fellBack rfl, rest, all, owes⟩
  | route waiting =>
      rw [waiting] at all owes fellBack
      obtain rfl : rest = [] := owes
      refine ⟨fun _ => fellBack rfl, _, ?_, rfl⟩
      simp only [PushStage.routed, Option.map_none, Option.getD_none, List.append_nil] at all
      exact all.append_right _

/-- A socket that raises is in the rest of its call. -/
theorem raised_serves {route : PushRoute} {exc : String} {sent : List PushDelivery}
    {remaining : List Socket} (serves : call.Serves broken sent)
    (same : (PushStage.raised exc route).routed = call.stage.routed)
    (fellBack : (PushStage.raised exc route).fellBack = call.stage.fellBack)
    (owed : ∀ rest, call.stage.Owes (broken call.push.number) rest → rest = remaining)
    (listed : socket ∈ remaining) (breaks : broken call.push.number socket) :
    PushCall.Serves broken { call with stage := .raised exc route } (sent ++ []) := by
  obtain ⟨own, works, unbound, rest, all, owes⟩ := serves
  obtain rfl := owed rest owes
  rw [List.append_nil]
  refine ⟨own, works, fun past => unbound (fellBack.symm.trans past), rest, ?_, socket, listed,
    breaks⟩
  unfold PushCall.audience
  rw [same]
  exact all

/-- Every call serves its audience. -/
structure Serving (broken : Nat → Socket → Prop) (gateway : WebGateway) : Prop where
  valid : gateway.Valid
  serves : Tracks (PushCall.Serves broken) gateway

/-- Every step that breaks only broken sockets goes on serving. -/
theorem Serving.step {action : FaultyAction} (serving : Serving broken gateway)
    (allowed : Breaks broken gateway action)
    (stepped : gateway.faultyStep action = some next) : Serving broken next := by
  obtain ⟨valid, tracks⟩ := serving
  cases action with
  | step action =>
      have moved : gateway.step action = some next := stepped
      refine ⟨valid.step moved, tracks.step valid (fun push targets => ?_)
        (fun _ _ _ _ moves => moves.serves allowed) moved⟩
      refine ⟨nofun, nofun, nofun, targets, ?_, rfl⟩
      exact List.Perm.of_eq (List.append_nil targets).symm
  | raises number socket exc =>
      obtain ⟨call, called, moved⟩ := raises_cases stepped
      obtain rfl := valid.call_number called
      have serves := tracks.called _ call called
      obtain ⟨_, sending, listed, rfl⟩ | ⟨_, _, _, sending, listed, rfl⟩ := moved
      all_goals
        refine ⟨valid.setStage called _, tracks.goesOn (goesOn_setStage _) nofun ?_⟩
        refine raised_serves serves ?_ ?_ ?_ listed allowed
        all_goals rw [sending]
      · rfl
      · rfl
      · exact fun _ => id
      · rfl
      · rfl
      · exact fun _ => id
  | replayRaises socket =>
      obtain ⟨phase, past, rfl⟩ := replayRaises_cases stepped
      exact ⟨valid.setPhase fun sessionId rest replaying => absurd replaying (past sessionId rest),
        tracks.leaves (Leaves.of_eq rfl rfl rfl)⟩

/-- The gateway serves in every such run. -/
theorem reachable_serving (reached : faultyMachine.Reachable (Breaks broken) gateway) :
    Serving broken gateway := by
  refine reached.invariant (fun start begun => ?_)
    fun _ _ _ held allowed stepped => held.step allowed stepped
  obtain rfl : start = {} := begun
  exact ⟨valid_initial, nofun, fun _ _ => rfl⟩

/-! ## The frame -/

/-- Only an acknowledgement keeps a frame from the next replay. -/
theorem unacked_read {service : OutboundService} (connection : Nat) {id : String}
    (kept : id ∈ service.backlog) (waiting : id ∉ service.acked) {stage : PushStage}
    {status : AckStatus} (ended : stage.ackStatus = some status) :
    id ∉ (service.read connection (.ack id status)).1.unacked ↔ status = .ok := by
  cases stage with
  | returned =>
      cases ended
      refine iff_of_true (fun again => ?_) rfl
      have unlisted := of_decide_eq_true (List.mem_filter.mp again).2
      exact unlisted List.mem_cons_self
  | raised =>
      cases ended
      refine iff_of_false (fun gone => gone ?_) nofun
      exact List.mem_filter.mpr ⟨kept, decide_eq_true waiting⟩
  | sending | lookingUp | routing | sendingParent => cases ended

/-- A socket has the push of a call. -/
def Receives (gateway : WebGateway) (call : PushCall) (socket : Socket) : Prop :=
  ∃ delivery ∈ gateway.sentFor call.push.number,
    delivery.socket = socket ∧ delivery.push = call.push

/-- A call that has ended has served its audience, or a socket of the audience raised. -/
theorem Serving.served_iff (serving : Serving broken gateway)
    (called : gateway.calls number = some call) {status : AckStatus}
    (ended : call.stage.ackStatus = some status) :
    ((∀ socket ∈ call.audience, ¬ broken number socket → gateway.Receives call socket) ∧
        status = .ok) ↔
      ∀ socket ∈ call.audience, ¬ broken number socket := by
  obtain rfl := serving.valid.call_number called
  obtain ⟨own, works, _, rest, all, owes⟩ := serving.serves.called _ call called
  cases stage : call.stage with
  | returned route =>
      rw [stage] at ended owes
      cases ended
      obtain rfl : rest = [] := owes
      rw [List.append_nil] at all
      have received {socket : Socket} (listed : socket ∈ call.audience) :
          ∃ delivery ∈ gateway.sentFor call.push.number, delivery.socket = socket :=
        List.mem_map.mp (all.mem_iff.mpr listed)
      constructor
      · rintro - socket listed
        obtain ⟨delivery, member, rfl⟩ := received listed
        exact works delivery member
      · refine fun _ => ⟨fun socket listed _ => ?_, rfl⟩
        obtain ⟨delivery, member, same⟩ := received listed
        exact ⟨delivery, member, same, own delivery member⟩
  | raised exc route =>
      rw [stage] at ended owes
      cases ended
      obtain ⟨socket, member, breaks⟩ := owes
      refine iff_of_false (fun claimed => nomatch claimed.2) fun working => ?_
      exact working socket (all.mem_iff.mp (List.mem_append_right _ member)) breaks
  | sending | lookingUp | routing | sendingParent =>
      rw [stage] at ended
      cases ended

/-- **One broken socket.** A push goes to the sockets of its session when it is queued, to all
sockets for a broadcast, and to those of the parent session when there are none. Once its call has
ended, every socket of these that works has it, and its frame is acknowledged and not replayed,
exactly when none of these raises. -/
theorem delivered_and_acknowledged_iff {before after final : WebGateway}
    {outbound : GatewayOutboundMessage} {download : Except String DownloadedFile}
    (reached : faultyMachine.Reachable (Breaks broken) before)
    (sent : before.step (.send outbound download) = some after)
    (steps : faultyMachine.Steps (Breaks broken) after final) :
    ∃ call, final.calls before.queued.length = some call ∧ call.push.outbound = outbound ∧
      call.targets = before.pushTargets outbound.sessionId ∧
      (∀ parentId parentTargets, call.stage.routed = some (parentId, parentTargets) →
        outbound.sessionId ≠ outboundBroadcastSessionId ∧ call.targets = [] ∧
        ∃ routing, faultyMachine.Steps (Breaks broken) after routing ∧
          faultyMachine.Steps (Breaks broken) routing final ∧
          routing.sessionSockets parentId = parentTargets) ∧
      ∀ status, call.stage.ackStatus = some status →
        ∀ (service : OutboundService) (connection : Nat) (id : String),
          id ∈ service.backlog → id ∉ service.acked →
          (((∀ socket ∈ call.audience, ¬ broken before.queued.length socket →
                final.Receives call socket) ∧
              status = .ok ∧ id ∉ (service.read connection (.ack id status)).1.unacked) ↔
            ∀ socket ∈ call.audience, ¬ broken before.queued.length socket) := by
  have taken : faultyMachine.step before (.step (.send outbound download)) = some after := sent
  have onward : Serving broken final := by
    obtain ⟨start, begun, earlier⟩ := reached
    have allowed : Breaks broken before (.step (.send outbound download)) := trivial
    exact reachable_serving ⟨start, begun, (earlier.tail allowed taken).trans steps⟩
  have sound := (reachable_serving reached).valid
  obtain ⟨content, _, rfl⟩ := step_cases sent
  have queued : (before.queue outbound content).calls before.queued.length = some
      { push := before.newPush outbound content
        targets := before.pushTargets outbound.sessionId
        stage := .sending (before.pushTargets outbound.sessionId) } := by
    rw [queue_calls, if_pos rfl]
  obtain ⟨_, stage, called, routings⟩ :=
    follows_steps (fun _ _ _ _ held current _ stepped => faulty_call held current stepped)
      (sound.queue outbound content) queued rfl steps
  refine ⟨_, called, rfl, rfl, fun parentId parentTargets routed => ?_,
    fun status ended service connection id kept waiting => ?_⟩
  · obtain ⟨single, unbound⟩ := (onward.serves.called _ _ called).fellBack (fellBack_of_routed routed)
    exact ⟨single, unbound, routings parentId parentTargets routed⟩
  · rw [unacked_read connection kept waiting ended, and_self]
    exact onward.served_iff called ended

/-! ## A session with three sockets -/

/-- The second socket raises. -/
def secondBroken (_ : Nat) (socket : Socket) : Prop := socket = 1

instance (number : Nat) (socket : Socket) : Decidable (secondBroken number socket) :=
  inferInstanceAs (Decidable (_ = _))

/-- A text for a chat. -/
def chatText : GatewayOutboundMessage :=
  { sessionId := "chat", kind := "text", content := [("text", .str "hello")] }

/-- The push of the text. -/
def sendText : FaultyAction := .step (.send chatText (.error ""))

/-- Sockets connect and bind the session. -/
def chatBindings (sockets : List Socket) : List FaultyAction :=
  sockets.flatMap fun socket => [.step (.connect socket), .step (.endReplay socket),
    .step (.bind socket "chat"), .step (.endReplay socket)]

/-- The gateway after some actions. -/
def afterActions (actions : List FaultyAction) : WebGateway :=
  (faultyMachine.replay (Breaks secondBroken) {} actions).getD {}

/-- What the actions lead to is reached. -/
theorem reachable_afterActions {actions : List FaultyAction}
    (performed : (faultyMachine.replay (Breaks secondBroken) {} actions).isSome = true) :
    faultyMachine.Reachable (Breaks secondBroken) (afterActions actions) := by
  obtain ⟨final, replayed⟩ := Option.isSome_iff_exists.mp performed
  rw [afterActions, replayed]
  exact .of_replay rfl replayed

/-- Two sockets that work both get the text, and its frame is acknowledged. -/
theorem delivered_and_acknowledged_iff_chat :
    ∃ (before after final : WebGateway) (call : PushCall), before.step (.send chatText (.error "")) = some after ∧
      faultyMachine.Steps (Breaks secondBroken) after final ∧
      final.calls before.queued.length = some call ∧ call.stage.ackStatus = some .ok ∧
      final.Receives call 0 ∧ final.Receives call 2 := by
  let before := afterActions (chatBindings [0, 2])
  have reached := @reachable_afterActions (chatBindings [0, 2]) (by decide +kernel)
  obtain ⟨after, sent⟩ : ∃ after, before.step (.send chatText (.error "")) = some after :=
    Option.isSome_iff_exists.mp (by decide +kernel)
  let rest : List FaultyAction :=
    [.step (.deliver 0 0), .step (.deliver 0 2), .step (.endLoop 0)]
  have ends : ((before.step (.send chatText (.error ""))).bind
      (faultyMachine.replay (Breaks secondBroken) · rest)).map (fun final =>
        (final.calls 0).map fun call => (call.audience, call.stage.ackStatus)) =
      some (some ([0, 2], some .ok)) := by decide +kernel
  rw [sent, Option.bind_some, Option.map_eq_some_iff] at ends
  obtain ⟨final, replayed, ended⟩ := ends
  have none_queued : before.queued.length = 0 := by decide +kernel
  have steps := Machine.Steps.of_replay replayed
  obtain ⟨call, called, _, _, _, served⟩ := delivered_and_acknowledged_iff reached sent steps
  rw [none_queued] at called
  rw [called, Option.map_some, Option.some.injEq, Prod.mk.injEq] at ended
  obtain ⟨audience, status⟩ := ended
  have all := (served .ok status { backlog := ["frame"] } 0 "frame" (by decide) (by decide)).mpr
    (by rw [audience]; decide)
  rw [audience] at all
  exact ⟨before, after, final, call, sent, steps, none_queued ▸ called, status,
    all.1 0 (by decide) (by decide), all.1 2 (by decide) (by decide)⟩

/-- The loop ends at the second socket. The third one does not get the text; the frame is
acknowledged as failed and replayed, and the first socket gets the text again. -/
theorem delivered_twice_or_never :
    let cutOff := chatBindings [0, 1, 2] ++ [sendText, .step (.deliver 0 0), .raises 0 1 "closed"]
    let replayed := cutOff ++ [sendText, .step (.deliver 1 0), .raises 1 1 "closed"]
    faultyMachine.Reachable (Breaks secondBroken) (afterActions replayed) ∧
      ((afterActions replayed).calls 0).map (fun call => (call.audience, call.stage.ackStatus)) =
        some ([0, 1, 2], some .failed) ∧
      "frame" ∈ (({ backlog := ["frame"] } : OutboundService).read 0 (.ack "frame" .failed)).1.unacked ∧
      (((afterActions replayed).sentFor 0).map PushDelivery.socket = [0] ∧
        ((afterActions replayed).sentFor 1).map PushDelivery.socket = [0]) := by
  refine ⟨reachable_afterActions (by decide +kernel), ?_, by decide, ?_, ?_⟩
  · decide +kernel
  · decide +kernel
  · decide +kernel

end WebGateway

end FairyClaw
