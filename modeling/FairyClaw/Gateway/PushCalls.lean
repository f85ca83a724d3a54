import FairyClaw.Gateway.WebFeed

/-! # The calls of `send`

A step of the gateway queues a push, carries one call on, or leaves all calls alone
(`FairyClaw.WebGateway.step_calls`). What is to hold between a call and the deliveries that it made
is then shown for the steps of one call (`FairyClaw.WebGateway.Tracks.step`).
-/

namespace FairyClaw

open Foundation

/-- The delivery is one of a replay, not of a call. -/
def PushDelivery.isReplay (delivery : PushDelivery) : Bool :=
  match delivery.path with
  | .broadcastReplay | .replay _ => true
  | .live | .parent _ => false

/-- The sockets of the parent session to which a stage goes. -/
def PushStage.routed : PushStage → Option (String × List Socket)
  | .sendingParent parentId parentTargets _ | .returned (.parent parentId parentTargets)
  | .raised _ (.parent parentId parentTargets) => some (parentId, parentTargets)
  | _ => none

namespace WebGateway

variable {gateway next : WebGateway} {call : PushCall} {action : WebGatewayAction} {number : Nat}

/-- A step of one call, with its deliveries and its next stage. -/
inductive CallStep (gateway : WebGateway) (call : PushCall) :
    WebGatewayAction → List PushDelivery → PushStage → Prop
  | deliver {remaining : List Socket} {socket : Socket} : call.stage = .sending remaining →
      socket ∈ remaining → CallStep gateway call (.deliver call.push.number socket)
        [⟨socket, call.push, .live⟩] (.sending (remaining.erase socket))
  | deliverParent {parentId : String} {parentTargets remaining : List Socket} {socket : Socket} :
      call.stage = .sendingParent parentId parentTargets remaining → socket ∈ remaining →
      CallStep gateway call (.deliver call.push.number socket)
        [⟨socket, call.push, .parent parentId⟩]
        (.sendingParent parentId parentTargets (remaining.erase socket))
  | fallBack : call.stage = .sending [] → call.push.sessionId ≠ outboundBroadcastSessionId →
      call.targets = [] → CallStep gateway call (.endLoop call.push.number) [] .lookingUp
  | sent : call.stage = .sending [] →
      ¬ (call.push.sessionId ≠ outboundBroadcastSessionId ∧ call.targets = []) →
      CallStep gateway call (.endLoop call.push.number) [] (.returned .targets)
  | sentParent {parentId : String} {parentTargets : List Socket} :
      call.stage = .sendingParent parentId parentTargets [] →
      CallStep gateway call (.endLoop call.push.number) []
        (.returned (.parent parentId parentTargets))
  | noParent {parent : Option String} : call.stage = .lookingUp →
      parentSessionIdForPushRouting call.push.sessionId parent = none →
      CallStep gateway call (.lookUp call.push.number parent) [] (.returned .noParent)
  | lookUp {parent : Option String} {parentId : String} : call.stage = .lookingUp →
      parentSessionIdForPushRouting call.push.sessionId parent = some parentId →
      CallStep gateway call (.lookUp call.push.number parent) [] (.routing parentId)
  | route {parentId : String} : call.stage = .routing parentId →
      CallStep gateway call (.route call.push.number) []
        (.sendingParent parentId (gateway.sessionSockets parentId)
          (gateway.sessionSockets parentId))

/-- The call goes on to a stage, after some deliveries. -/
structure GoesOn (gateway : WebGateway) (call : PushCall) (deliveries : List PushDelivery)
    (stage : PushStage) (next : WebGateway) : Prop where
  calls : ∀ number, next.calls number = if number = call.push.number then
    some { call with stage := stage } else gateway.calls number
  queued : next.queued = gateway.queued
  delivered : next.delivered = gateway.delivered ++ deliveries

/-- No call goes on; a replay may. -/
structure Leaves (gateway next : WebGateway) : Prop where
  calls : next.calls = gateway.calls
  queued : next.queued = gateway.queued
  delivered : ∃ deliveries : List PushDelivery, (∀ delivery ∈ deliveries, delivery.isReplay = true) ∧
    next.delivered = gateway.delivered ++ deliveries

/-- A step that changes no call and no delivery leaves the calls. -/
theorem Leaves.of_eq (calls : next.calls = gateway.calls) (queued : next.queued = gateway.queued)
    (delivered : next.delivered = gateway.delivered) : Leaves gateway next :=
  ⟨calls, queued, [], nofun, by rw [delivered, List.append_nil]⟩

/-- A replay leaves the calls. -/
theorem Leaves.replay (socket : Socket) (push : WebPush) {path : PushPath} (phase : SocketPhase)
    (replays : PushDelivery.isReplay ⟨socket, push, path⟩ = true) :
    Leaves gateway ((gateway.deliverTo socket push path).setPhase socket phase) := by
  refine ⟨rfl, rfl, [⟨socket, push, path⟩], fun delivery member => ?_, rfl⟩
  rw [List.mem_singleton.mp member]
  exact replays

/-- A call that only changes its stage goes on without a delivery. -/
theorem goesOn_setStage (stage : PushStage) :
    GoesOn gateway call [] stage (gateway.setStage call stage) :=
  ⟨fun _ => setStage_calls .., rfl, (List.append_nil _).symm⟩

/-- A call that delivers goes on with this delivery. -/
theorem goesOn_deliverTo (socket : Socket) (path : PushPath) (stage : PushStage) :
    GoesOn gateway call [⟨socket, call.push, path⟩] stage
      ((gateway.deliverTo socket call.push path).setStage call stage) :=
  ⟨fun _ => setStage_calls .., rfl, rfl⟩

/-- **One step.** A push is queued, one call goes on, or none does. -/
theorem step_calls (valid : gateway.Valid) (stepped : gateway.step action = some next) :
    (∃ outbound content, next = gateway.queue outbound content) ∨
      (∃ call deliveries stage, gateway.calls call.push.number = some call ∧
        CallStep gateway call action deliveries stage ∧
        GoesOn gateway call deliveries stage next) ∨
      Leaves gateway next := by
  have effect := step_cases stepped
  cases action with
  | send outbound download =>
      obtain ⟨content, _, rfl⟩ := effect
      exact Or.inl ⟨outbound, content, rfl⟩
  | deliver number socket =>
      obtain ⟨call, called, moved⟩ := effect
      obtain rfl := valid.call_number called
      refine Or.inr (Or.inl ?_)
      obtain ⟨_, sending, listed, rfl⟩ | ⟨_, _, _, sending, listed, rfl⟩ := moved
      · exact ⟨call, _, _, called, .deliver sending listed, goesOn_deliverTo ..⟩
      · exact ⟨call, _, _, called, .deliverParent sending listed, goesOn_deliverTo ..⟩
  | endLoop number =>
      obtain ⟨call, called, moved⟩ := effect
      obtain rfl := valid.call_number called
      refine Or.inr (Or.inl ?_)
      obtain ⟨sending, ⟨single, unbound, rfl⟩ | ⟨bound, rfl⟩⟩ | ⟨_, _, sending, rfl⟩ := moved
      · exact ⟨call, _, _, called, .fallBack sending single unbound, goesOn_setStage _⟩
      · exact ⟨call, _, _, called, .sent sending bound, goesOn_setStage _⟩
      · exact ⟨call, _, _, called, .sentParent sending, goesOn_setStage _⟩
  | lookUp number parent =>
      obtain ⟨call, called, waiting, moved⟩ := effect
      obtain rfl := valid.call_number called
      refine Or.inr (Or.inl ?_)
      obtain ⟨orphan, rfl⟩ | ⟨_, found, rfl⟩ := moved
      · exact ⟨call, _, _, called, .noParent waiting orphan, goesOn_setStage _⟩
      · exact ⟨call, _, _, called, .lookUp waiting found, goesOn_setStage _⟩
  | route number =>
      obtain ⟨call, called, _, waiting, rfl⟩ := effect
      obtain rfl := valid.call_number called
      exact Or.inr (Or.inl ⟨call, _, _, called, .route waiting, goesOn_setStage _⟩)
  | replay socket =>
      refine Or.inr (Or.inr ?_)
      obtain ⟨push, rest, ⟨_, rfl⟩ | ⟨sessionId, _, rfl⟩⟩ := effect
      · exact Leaves.replay socket push _ rfl
      · exact Leaves.replay socket push _ rfl
  | bind socket sessionId =>
      obtain ⟨_, _, rfl⟩ := effect
      have others := @bindSession_others gateway socket (strip sessionId)
      exact Or.inr (Or.inr (Leaves.of_eq others.1 others.2.1 others.2.2))
  | connect | endReplay | disconnect | unbind =>
      obtain ⟨_, rfl⟩ := effect
      exact Or.inr (Or.inr (Leaves.of_eq rfl rfl rfl))

/-- The queue only grows. -/
theorem step_queued (valid : gateway.Valid) (stepped : gateway.step action = some next) :
    gateway.queued <+: next.queued := by
  rcases step_calls valid stepped with ⟨_, _, rfl⟩ | ⟨_, _, _, _, _, on⟩ | leaves
  · rw [queue_queued]
    exact List.prefix_append _ _
  · rw [on.queued]
  · rw [leaves.queued]

/-! ## The deliveries of a call -/

/-- The deliveries that the call of a push has made. -/
def sentFor (gateway : WebGateway) (number : Nat) : List PushDelivery :=
  gateway.delivered.filter fun delivery => delivery.push.number = number ∧ delivery.isReplay = false

/-- New deliveries of a call come after the earlier ones. -/
theorem sentFor_append {deliveries : List PushDelivery}
    (delivered : next.delivered = gateway.delivered ++ deliveries) (number : Nat) :
    next.sentFor number = gateway.sentFor number ++ deliveries.filter fun delivery =>
      delivery.push.number = number ∧ delivery.isReplay = false := by
  rw [sentFor, delivered, List.filter_append, sentFor]

/-- A call delivers its own push. -/
theorem CallStep.own {deliveries : List PushDelivery} {stage : PushStage}
    (moves : CallStep gateway call action deliveries stage) :
    ∀ delivery ∈ deliveries, delivery.push = call.push ∧ delivery.isReplay = false := by
  cases moves with
  | deliver | deliverParent =>
      intro delivery member
      rw [List.mem_singleton.mp member]
      exact ⟨rfl, rfl⟩
  | fallBack | sent | sentParent | noParent | lookUp | route => exact nofun

/-- What is to hold between every call and the deliveries that it made. -/
structure Tracks (good : PushCall → List PushDelivery → Prop) (gateway : WebGateway) : Prop where
  called : ∀ number call, gateway.calls number = some call → good call (gateway.sentFor number)
  unqueued : ∀ number, gateway.calls number = none → gateway.sentFor number = []

namespace Tracks

variable {good : PushCall → List PushDelivery → Prop}

/-- A call that goes on as it should keeps all calls tracked. -/
theorem goesOn {deliveries : List PushDelivery} {stage : PushStage}
    (tracks : Tracks good gateway) (on : GoesOn gateway call deliveries stage next)
    (own : ∀ delivery ∈ deliveries, delivery.push = call.push ∧ delivery.isReplay = false)
    (kept : good { call with stage := stage } (gateway.sentFor call.push.number ++ deliveries)) :
    Tracks good next := by
  have mine : next.sentFor call.push.number = gateway.sentFor call.push.number ++ deliveries := by
    rw [sentFor_append on.delivered, List.filter_eq_self.mpr]
    intro delivery member
    obtain ⟨same, made⟩ := own delivery member
    exact decide_eq_true ⟨congrArg WebPush.number same, made⟩
  have elsewhere (other : Nat) (apart : other ≠ call.push.number) :
      next.sentFor other = gateway.sentFor other := by
    rw [sentFor_append on.delivered, List.filter_eq_nil_iff.mpr, List.append_nil]
    intro delivery member here
    exact apart ((of_decide_eq_true here).1.symm.trans
      (congrArg WebPush.number (own delivery member).1))
  refine ⟨fun other current found => ?_, fun other missing => ?_⟩
  · rw [on.calls] at found
    split at found
    · rename_i same
      cases found
      rw [same, mine]
      exact kept
    · rename_i apart
      rw [elsewhere other apart]
      exact tracks.called other current found
  · rw [on.calls] at missing
    split at missing
    · cases missing
    · rename_i apart
      rw [elsewhere other apart]
      exact tracks.unqueued other missing

/-- A step that leaves the calls keeps them tracked. -/
theorem leaves (tracks : Tracks good gateway) (leaves : Leaves gateway next) :
    Tracks good next := by
  obtain ⟨deliveries, replays, delivered⟩ := leaves.delivered
  have same (number : Nat) : next.sentFor number = gateway.sentFor number := by
    rw [sentFor_append delivered, List.filter_eq_nil_iff.mpr, List.append_nil]
    intro delivery member here
    rw [replays delivery member] at here
    exact absurd (of_decide_eq_true here).2 Bool.noConfusion
  refine ⟨fun number call called => ?_, fun number missing => ?_⟩
  · rw [same]
    exact tracks.called number call (leaves.calls ▸ called)
  · rw [same]
    exact tracks.unqueued number (leaves.calls ▸ missing)

/-- A new call keeps the calls tracked. -/
theorem queue (tracks : Tracks good gateway) (valid : gateway.Valid)
    (outbound : GatewayOutboundMessage) (content : JsonObject)
    (fresh : ∀ push targets, good ⟨push, targets, .sending targets⟩ []) :
    Tracks good (gateway.queue outbound content) := by
  have same (number : Nat) :
      (gateway.queue outbound content).sentFor number = gateway.sentFor number := by
    rw [sentFor, queue_others.2.2, sentFor]
  refine ⟨fun other current found => ?_, fun other missing => ?_⟩
  · rw [queue_calls] at found
    rw [same]
    split at found
    · rename_i last
      cases found
      have unused : gateway.calls other = none := by
        by_contra used
        obtain ⟨call, called⟩ := Option.ne_none_iff_exists'.mp used
        exact absurd (valid.number_lt called) (by omega)
      rw [tracks.unqueued other unused]
      exact fresh _ _
    · exact tracks.called other current found
  · rw [queue_calls] at missing
    rw [same]
    split at missing
    · cases missing
    · exact tracks.unqueued other missing

/-- **What a call keeps.** It is enough to look at the steps of one call. -/
theorem step (tracks : Tracks good gateway) (valid : gateway.Valid)
    (fresh : ∀ push targets, good ⟨push, targets, .sending targets⟩ [])
    (kept : ∀ call sent deliveries stage, CallStep gateway call action deliveries stage →
      good call sent → good { call with stage := stage } (sent ++ deliveries))
    (stepped : gateway.step action = some next) : Tracks good next := by
  rcases step_calls valid stepped with ⟨outbound, content, rfl⟩ |
    ⟨call, deliveries, stage, called, moves, on⟩ | leaves
  · exact tracks.queue valid outbound content fresh
  · exact tracks.goesOn on moves.own
      (kept call _ deliveries stage moves (tracks.called _ call called))
  · exact tracks.leaves leaves

end Tracks

/-! ## The way of a call -/

/-- A call keeps its push and its targets, and its fallback is to the sockets that are bound to the
parent session when it is routed. -/
def Proceeds (number : Nat) (call : PushCall) (gateway next : WebGateway) : Prop :=
  ∃ stage, next.calls number = some { call with stage := stage } ∧
    ∀ parentId parentTargets, stage.routed = some (parentId, parentTargets) →
      call.stage.routed = some (parentId, parentTargets) ∨
        gateway.sessionSockets parentId = parentTargets

/-- The sockets to which a stage goes are those of the stage before, or are looked up. -/
theorem CallStep.routing {deliveries : List PushDelivery} {stage : PushStage}
    (moves : CallStep gateway call action deliveries stage) {parentId : String}
    {parentTargets : List Socket} (routed : stage.routed = some (parentId, parentTargets)) :
    call.stage.routed = some (parentId, parentTargets) ∨
      gateway.sessionSockets parentId = parentTargets := by
  cases moves with
  | deliverParent sending | sentParent sending =>
      rw [sending]
      exact Or.inl routed
  | route =>
      cases routed
      exact Or.inr rfl
  | deliver | fallBack | sent | noParent | lookUp => cases routed

/-- A call that is left alone proceeds. -/
theorem proceeds_of_eq (called : gateway.calls number = some call)
    (same : next.calls number = gateway.calls number) : Proceeds number call gateway next :=
  ⟨call.stage, same.trans called, fun _ _ => Or.inl⟩

/-- A call proceeds when any call goes on. -/
theorem proceeds_goesOn {moving : PushCall} {deliveries : List PushDelivery} {stage : PushStage}
    (called : gateway.calls number = some call)
    (found : gateway.calls moving.push.number = some moving)
    (on : GoesOn gateway moving deliveries stage next)
    (routing : ∀ parentId parentTargets, stage.routed = some (parentId, parentTargets) →
      moving.stage.routed = some (parentId, parentTargets) ∨
        gateway.sessionSockets parentId = parentTargets) :
    Proceeds number call gateway next := by
  by_cases own : number = moving.push.number
  · obtain rfl : moving = call := by
      rw [own, found] at called
      exact Option.some.inj called
    exact ⟨stage, (on.calls number).trans (if_pos own), routing⟩
  · exact proceeds_of_eq called ((on.calls number).trans (if_neg own))

/-- A call proceeds in every step. -/
theorem step_call (valid : gateway.Valid) (called : gateway.calls number = some call)
    (stepped : gateway.step action = some next) : Proceeds number call gateway next := by
  rcases step_calls valid stepped with ⟨outbound, content, rfl⟩ |
    ⟨moving, deliveries, stage, found, moves, on⟩ | leaves
  · have earlier := valid.number_lt called
    exact proceeds_of_eq called ((queue_calls number).trans (if_neg (by omega)))
  · exact proceeds_goesOn called found on fun _ _ => moves.routing
  · exact proceeds_of_eq called (congrFun leaves.calls number)

section Follows

variable {Action : Type} {system : Machine WebGateway Action}
  {guard : Machine.Guard WebGateway Action}

/-- The call of a push that is queued, with its fallback routed in between. -/
structure Follows (system : Machine WebGateway Action) (guard : Machine.Guard WebGateway Action)
    (number : Nat) (call : PushCall) (after final : WebGateway) : Prop where
  valid : final.Valid
  called : ∃ stage, final.calls number = some { call with stage := stage } ∧
    ∀ parentId parentTargets, stage.routed = some (parentId, parentTargets) →
      ∃ routing, system.Steps guard after routing ∧ system.Steps guard routing final ∧
        routing.sessionSockets parentId = parentTargets

/-- A call proceeds in every run of a system whose steps let it. -/
theorem follows_steps {after final : WebGateway}
    (proceeds : ∀ before action later current, before.Valid →
      before.calls number = some current → guard before action →
      system.step before action = some later → later.Valid ∧ Proceeds number current before later)
    (valid : after.Valid) (called : after.calls number = some call)
    (fresh : call.stage.routed = none) (steps : system.Steps guard after final) :
    Follows system guard number call after final := by
  induction steps with
  | refl =>
      refine ⟨valid, call.stage, called, fun parentId parentTargets routed => ?_⟩
      rw [fresh] at routed
      cases routed
  | @tail before later action earlier allowed stepped ih =>
      obtain ⟨sound, stage, current, routings⟩ := ih
      obtain ⟨sound_later, stage', after_step, routed_step⟩ :=
        proceeds before action later _ sound current allowed stepped
      refine ⟨sound_later, stage', after_step, fun parentId parentTargets routed => ?_⟩
      rcases routed_step parentId parentTargets routed with before_step | now
      · obtain ⟨routing, first, second, same⟩ := routings parentId parentTargets before_step
        exact ⟨routing, first, second.tail allowed stepped, same⟩
      · exact ⟨before, earlier, (Machine.Steps.refl before).tail allowed stepped, now⟩

end Follows

end WebGateway

end FairyClaw
