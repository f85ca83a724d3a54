import Mathlib.Data.List.Nodup
import FairyClaw.Foundation.ActivityLog
import FairyClaw.Foundation.Machine

/-! # The order of outbound messages

On one connection, frames are written and read in the order of their pushes. The gateway
must not wait for a dispatch before it reads on, since a file's dispatch downloads the file
over the same connection, so it starts a task for every frame. Tasks that overlap end in any
order (`FairyClaw.Delivery.overtakes`). A task that has ended when a later frame of the
session is read stays before it, also on every socket (`FairyClaw.Delivery.outbound_order`).
-/

namespace FairyClaw

open Foundation

/-- The kinds of messages that are pushed. -/
inductive OutboundKind
  | text
  | file
  | event
  deriving DecidableEq

/-- A pushed message with the id of its frame. -/
structure PushedFrame where
  id : String
  session : String
  kind : OutboundKind
  deriving DecidableEq

/-! ## The business side -/

/-- The task that pushes a session's messages, one `push_outbound` after the other. -/
inductive PushTask
  | idle
  | enriching (frame : PushedFrame)
  | sending (frame : PushedFrame)
  deriving DecidableEq

/-- The message that the task works on. -/
def PushTask.frames : PushTask → List PushedFrame
  | idle => []
  | enriching frame | sending frame => [frame]

/-! ## The gateway's tasks -/

/-- Where a dispatch stands: `dispatch_outbound` looks for the route, and the adapter's
`send` downloads a file, waits for the lock under which it takes the bound sockets, and sends
to one after the other. Without a bound socket it looks for those of the parent session. -/
inductive SendStage
  | routing
  | downloading
  | locking
  | resolvingParent
  | delivering (sockets : List Nat)
  deriving DecidableEq

/-- A step of a task, with the answers of what it awaits; any of them but the lock may
fail instead. -/
inductive SendAction
  | route
  | download
  | target (sockets : List Nat)
  | parent (sockets : Option (List Nat))
  | deliver
  | finish
  | fail
  deriving DecidableEq

/-- What a step of a dispatch leads to. -/
inductive SendOutcome
  | goesOn (stage : SendStage)
  | delivers (socket : Nat) (stage : SendStage)
  | ends (succeeded : Bool)
  deriving DecidableEq

/-- The steps of a dispatch, stage by stage. -/
def SendStage.act (kind : OutboundKind) : SendStage → SendAction → Option SendOutcome
  | routing, .route => some (.goesOn (if kind = .file then .downloading else .locking))
  | downloading, .download => some (.goesOn .locking)
  | locking, .target [] => some (.goesOn .resolvingParent)
  | locking, .target sockets => some (.goesOn (.delivering sockets))
  | resolvingParent, .parent none => some (.ends true)
  | resolvingParent, .parent (some sockets) => some (.goesOn (.delivering sockets))
  | delivering (socket :: rest), .deliver => some (.delivers socket (.delivering rest))
  | delivering [], .finish => some (.ends true)
  | routing, .fail | downloading, .fail | resolvingParent, .fail | delivering (_ :: _), .fail =>
      some (.ends false)
  | _, _ => none

/-! ## Deliveries -/

/-- What happens to a frame: it is read, delivered to a socket, or its dispatch ends. -/
inductive DeliveryEvent
  | read (frame : PushedFrame)
  | delivered (frame : PushedFrame) (socket : Nat)
  | ended (frame : PushedFrame) (succeeded : Bool)
  deriving DecidableEq

namespace DeliveryEvent

/-- The frame that an event is about. -/
def frame : DeliveryEvent → PushedFrame
  | read frame | delivered frame _ | ended frame _ => frame

/-- The event with which the work on a frame begins. -/
def Opens (event : DeliveryEvent) : Prop := ∃ frame, event = .read frame

/-- The event with which the work on a frame ends. -/
def Closes (event : DeliveryEvent) : Prop := ∃ frame succeeded, event = .ended frame succeeded

/-- The frame of a session that is read. -/
def readFrame (session : String) : DeliveryEvent → Option PushedFrame
  | read frame => if frame.session = session then some frame else none
  | _ => none

end DeliveryEvent

/-- The sessions' push tasks with all they have pushed, the frames on their way, the
gateway's tasks, and what has happened there, the newest first. -/
structure Delivery where
  pushed : String → List PushedFrame := fun _ => []
  pushing : String → PushTask := fun _ => .idle
  wire : List PushedFrame := []
  tasks : PushedFrame → Option SendStage := fun _ => none
  log : List DeliveryEvent := []

/-- A step of a pushing task, of the reader or of a dispatch. -/
inductive DeliveryAction
  | push (frame : PushedFrame)
  | enrich (session : String)
  | send (session : String)
  | read
  | dispatch (frame : PushedFrame) (action : SendAction)
  deriving DecidableEq

namespace Delivery

/-- The task of a frame is at another stage, or ended. -/
def setTask (delivery : Delivery) (frame : PushedFrame) (stage : Option SendStage) : Delivery :=
  { delivery with tasks := Function.update delivery.tasks frame stage }

/-- An event comes last in the log. -/
def record (delivery : Delivery) (event : DeliveryEvent) : Delivery :=
  { delivery with log := event :: delivery.log }

/-- A task after a step. -/
def settle (delivery : Delivery) (frame : PushedFrame) : SendOutcome → Delivery
  | .goesOn stage => delivery.setTask frame (some stage)
  | .delivers socket stage =>
      (delivery.setTask frame (some stage)).record (.delivered frame socket)
  | .ends succeeded => (delivery.setTask frame none).record (.ended frame succeeded)

/-- A step of the delivery. -/
def step (delivery : Delivery) : DeliveryAction → Option Delivery
  | .push frame =>
      if delivery.pushing frame.session = .idle ∧ frame ∉ delivery.pushed frame.session then
        some { delivery with
          pushed := Function.update delivery.pushed frame.session
            (delivery.pushed frame.session ++ [frame])
          pushing := Function.update delivery.pushing frame.session (.enriching frame) }
      else none
  | .enrich session =>
      match delivery.pushing session with
      | .enriching frame => some { delivery with
          pushing := Function.update delivery.pushing session (.sending frame) }
      | _ => none
  | .send session =>
      match delivery.pushing session with
      | .sending frame => some { delivery with
          pushing := Function.update delivery.pushing session .idle
          wire := delivery.wire ++ [frame] }
      | _ => none
  | .read =>
      match delivery.wire with
      | frame :: rest =>
          some (({ delivery with wire := rest }.setTask frame (some .routing)).record (.read frame))
      | [] => none
  | .dispatch frame action =>
      match delivery.tasks frame with
      | some stage => (stage.act frame.kind action).map (delivery.settle frame)
      | none => none

/-- One undisturbed connection, from its handshake on. -/
def machine : Machine Delivery DeliveryAction where
  initial delivery := delivery = {}
  step := step

/-- The frames of a session that the gateway has read, in their order. -/
def readFrames (delivery : Delivery) (session : String) : List PushedFrame :=
  (delivery.log.filterMap (DeliveryEvent.readFrame session)).reverse

/-- Frames of a session pass from its task over the connection to the gateway, and a task is
at work only between the events of its frame. -/
structure Ordered (delivery : Delivery) : Prop where
  activities : ActivityLog DeliveryEvent.frame DeliveryEvent.Opens DeliveryEvent.Closes delivery.log
  passing : ∀ session, delivery.pushed session = delivery.readFrames session ++
    delivery.wire.filter (fun frame => frame.session = session) ++ (delivery.pushing session).frames
  nodup : ∀ session, (delivery.pushed session).Nodup
  own : ∀ session, ∀ frame ∈ (delivery.pushing session).frames, frame.session = session
  working : ∀ frame stage, delivery.tasks frame = some stage →
    DeliveryEvent.read frame ∈ delivery.log ∧
      ∀ event ∈ delivery.log, event.frame = frame → ¬ event.Closes

variable {delivery after : Delivery} {action : DeliveryAction}

namespace Ordered

/-- At the start nothing is out of order. -/
theorem initial : ({} : Delivery).Ordered where
  activities := .nil
  passing _ := rfl
  nodup _ := List.nodup_nil
  own := nofun
  working := nofun

/-- A frame is read by the event that reads it. -/
theorem readFrame_eq_some {session : String} {event : DeliveryEvent} {frame : PushedFrame}
    (read : event.readFrame session = some frame) : event = .read frame := by
  cases event with
  | read other =>
      simp only [DeliveryEvent.readFrame] at read
      split at read
      · exact congrArg DeliveryEvent.read (Option.some.inj read)
      · cases read
  | delivered other socket => cases read
  | ended other succeeded => cases read

/-- The frames of a session that are read are those that the log reads. -/
theorem mem_filterMap_readFrame {session : String} {frame : PushedFrame}
    {log : List DeliveryEvent} : frame ∈ log.filterMap (DeliveryEvent.readFrame session) ↔
      DeliveryEvent.read frame ∈ log ∧ frame.session = session := by
  rw [List.mem_filterMap]
  constructor
  · rintro ⟨event, member, read⟩
    have same := readFrame_eq_some read
    subst same
    simp only [DeliveryEvent.readFrame, Option.ite_none_right_eq_some] at read
    exact ⟨member, read.1⟩
  · rintro ⟨member, own⟩
    exact ⟨_, member, by simp [DeliveryEvent.readFrame, own]⟩

/-- An event in the log of a frame comes after its reading. -/
theorem read_of_mem (ordered : delivery.Ordered) {event : DeliveryEvent}
    (member : event ∈ delivery.log) : DeliveryEvent.read event.frame ∈ delivery.log := by
  obtain ⟨_, inside, ⟨frame, rfl⟩, same⟩ := ordered.activities.exists_opening member
  exact same ▸ inside

/-- A recorded event adds the frame it reads. -/
theorem readFrames_record (event : DeliveryEvent) (session : String) :
    (delivery.record event).readFrames session =
      delivery.readFrames session ++ (event.readFrame session).toList := by
  unfold readFrames Delivery.record
  cases read : event.readFrame session <;> simp [read]

/-- An event that opens nothing reads nothing. -/
theorem readFrame_of_not_opens {event : DeliveryEvent} (inside : ¬ event.Opens)
    (session : String) : event.readFrame session = none := by
  cases event with
  | read frame => exact absurd ⟨frame, rfl⟩ inside
  | delivered frame socket => rfl
  | ended frame succeeded => rfl

/-- A task goes on, or ends when a closing event is recorded. -/
theorem working_setTask (ordered : delivery.Ordered) {event : DeliveryEvent}
    {later : Option SendStage} (begun : event.Opens ∨ DeliveryEvent.read event.frame ∈ delivery.log)
    (unclosed : ∀ other ∈ delivery.log, other.frame = event.frame → ¬ other.Closes)
    (closed : event.Closes → later = none) (frame : PushedFrame) (stage : SendStage)
    (working : Function.update delivery.tasks event.frame later frame = some stage) :
    DeliveryEvent.read frame ∈ event :: delivery.log ∧
      ∀ other ∈ event :: delivery.log, other.frame = frame → ¬ other.Closes := by
  by_cases own : frame = event.frame
  · subst own
    rw [Function.update_self] at working
    constructor
    · rcases begun with ⟨read, rfl⟩ | earlier
      · exact List.mem_cons_self
      · exact List.mem_cons_of_mem _ earlier
    · intro other member same closes
      rcases List.mem_cons.mp member with rfl | earlier
      · rw [closed closes] at working
        cases working
      · exact unclosed other earlier same closes
  · rw [Function.update_of_ne own] at working
    obtain ⟨read, open'⟩ := ordered.working frame stage working
    refine ⟨List.mem_cons_of_mem _ read, fun other member same => ?_⟩
    rcases List.mem_cons.mp member with rfl | earlier
    · exact absurd same.symm own
    · exact open' other earlier same

/-- An event of a task at work goes into the log. -/
theorem record (ordered : delivery.Ordered) (event : DeliveryEvent) {stage : SendStage}
    (working : delivery.tasks event.frame = some stage) (inside : ¬ event.Opens)
    {later : Option SendStage} (closed : event.Closes → later = none) :
    ((delivery.setTask event.frame later).record event).Ordered := by
  obtain ⟨begun, unclosed⟩ := ordered.working event.frame stage working
  exact {
    activities := .continued ordered.activities inside ⟨_, begun, ⟨_, rfl⟩, rfl⟩ unclosed
    passing := by
      intro session
      rw [readFrames_record, readFrame_of_not_opens inside, Option.toList_none, List.append_nil]
      exact ordered.passing session
    nodup := ordered.nodup
    own := ordered.own
    working := ordered.working_setTask (.inr begun) unclosed closed }

/-- A step of a dispatch keeps the log in order. -/
theorem settle (ordered : delivery.Ordered) {frame : PushedFrame} {stage : SendStage}
    (working : delivery.tasks frame = some stage) (outcome : SendOutcome) :
    (delivery.settle frame outcome).Ordered := by
  cases outcome with
  | goesOn later =>
      refine { ordered with working := fun other otherStage otherWorking => ?_ }
      by_cases own : other = frame
      · subst own
        exact ordered.working other stage working
      · simp only [Delivery.settle, setTask, Function.update_of_ne own] at otherWorking
        exact ordered.working other otherStage otherWorking
  | delivers socket later =>
      have recorded : ((delivery.setTask frame (some later)).record
          (.delivered frame socket)).Ordered :=
        ordered.record (.delivered frame socket) working (by rintro ⟨_, ⟨⟩⟩)
          (by rintro ⟨_, _, ⟨⟩⟩)
      exact recorded
  | ends succeeded =>
      have recorded : ((delivery.setTask frame none).record (.ended frame succeeded)).Ordered :=
        ordered.record (.ended frame succeeded) working (by rintro ⟨_, ⟨⟩⟩) fun _ => rfl
      exact recorded

/-- The first frame on the connection has no event yet. -/
theorem fresh (ordered : delivery.Ordered) {frame : PushedFrame} {rest : List PushedFrame}
    (wire : delivery.wire = frame :: rest) :
    ∀ event ∈ delivery.log, event.frame ≠ frame := by
  intro event member same
  have read : frame ∈ delivery.readFrames frame.session :=
    List.mem_reverse.mpr (mem_filterMap_readFrame.mpr ⟨same ▸ ordered.read_of_mem member, rfl⟩)
  have nodup := ordered.nodup frame.session
  rw [ordered.passing, wire, List.append_assoc] at nodup
  refine List.disjoint_of_nodup_append nodup read ?_
  simp

/-- Reading the next frame keeps the log in order. -/
theorem read (ordered : delivery.Ordered) {frame : PushedFrame} {rest : List PushedFrame}
    (wire : delivery.wire = frame :: rest) :
    (({ delivery with wire := rest }.setTask frame (some .routing)).record
      (.read frame)).Ordered := by
  have fresh := ordered.fresh wire
  exact {
    activities := .opened ordered.activities ⟨frame, rfl⟩ fresh
    passing := by
      intro session
      have passing := ordered.passing session
      rw [wire] at passing
      rw [readFrames_record]
      show delivery.pushed session = delivery.readFrames session ++
        ((DeliveryEvent.read frame).readFrame session).toList ++
          rest.filter (fun frame => frame.session = session) ++ (delivery.pushing session).frames
      by_cases own : frame.session = session
      · simpa [DeliveryEvent.readFrame, own] using passing
      · simpa [DeliveryEvent.readFrame, own] using passing
    nodup := ordered.nodup
    own := ordered.own
    working := ordered.working_setTask (.inl ⟨frame, rfl⟩)
      (fun other member same => absurd same (fresh other member)) (by rintro ⟨_, _, ⟨⟩⟩) }

/-- Pushing a fresh message keeps the log in order. -/
theorem push (ordered : delivery.Ordered) {frame : PushedFrame}
    (idle : delivery.pushing frame.session = .idle)
    (fresh : frame ∉ delivery.pushed frame.session) :
    ({ delivery with
      pushed := Function.update delivery.pushed frame.session
        (delivery.pushed frame.session ++ [frame])
      pushing := Function.update delivery.pushing frame.session (.enriching frame) } :
        Delivery).Ordered where
  activities := ordered.activities
  passing session := by
    have passing := ordered.passing session
    by_cases own : session = frame.session
    · subst own
      rw [idle] at passing
      simp only [Function.update_self]
      rw [passing, PushTask.frames, List.append_nil]
      rfl
    · simp only [Function.update_of_ne own]
      exact passing
  nodup session := by
    by_cases own : session = frame.session
    · subst own
      simp only [Function.update_self]
      rw [← List.concat_eq_append]
      exact (ordered.nodup frame.session).concat fresh
    · simpa only [Function.update_of_ne own] using ordered.nodup session
  own session other member := by
    by_cases own : session = frame.session
    · subst own
      simp only [Function.update_self, PushTask.frames, List.mem_singleton] at member
      rw [member]
    · simp only [Function.update_of_ne own] at member
      exact ordered.own session other member
  working := ordered.working

/-- Sending the message that was enriched keeps the log in order. -/
theorem enrich (ordered : delivery.Ordered) {session : String} {frame : PushedFrame}
    (enriching : delivery.pushing session = .enriching frame) :
    ({ delivery with pushing := Function.update delivery.pushing session (.sending frame) } :
      Delivery).Ordered := by
  have same : ∀ other, (Function.update delivery.pushing session (.sending frame) other).frames =
      (delivery.pushing other).frames := by
    intro other
    by_cases own : other = session
    · subst own
      rw [Function.update_self, enriching, PushTask.frames, PushTask.frames]
    · rw [Function.update_of_ne own]
  exact {
    ordered with
    passing := fun other => by
      rw [same]
      exact ordered.passing other
    own := fun other second member => ordered.own other second (same other ▸ member) }

/-- A sent frame is on the connection, behind the earlier ones of its session. -/
theorem send (ordered : delivery.Ordered) {session : String} {frame : PushedFrame}
    (sending : delivery.pushing session = .sending frame) :
    ({ delivery with
      pushing := Function.update delivery.pushing session .idle
      wire := delivery.wire ++ [frame] } : Delivery).Ordered := by
  have isOwn : frame.session = session :=
    ordered.own session frame (by rw [sending]; exact List.mem_singleton_self _)
  exact {
    ordered with
    passing := by
      intro other
      have passing := ordered.passing other
      show delivery.pushed other = delivery.readFrames other ++
        (delivery.wire ++ [frame]).filter (fun frame => frame.session = other) ++
          (Function.update delivery.pushing session .idle other).frames
      by_cases own : other = session
      · subst own
        rw [sending] at passing
        simpa [PushTask.frames, isOwn] using passing
      · have apart : frame.session ≠ other := fun same => own (same.symm.trans isOwn)
        simpa [Function.update_of_ne own, apart] using passing
    own := by
      intro other second member
      by_cases own : other = session
      · subst own
        simp only [Function.update_self] at member
        cases member
      · simp only [Function.update_of_ne own] at member
        exact ordered.own other second member }

end Ordered

/-- Every step keeps the log in order. -/
theorem ordered_step (ordered : delivery.Ordered) (stepped : delivery.step action = some after) :
    after.Ordered := by
  cases action with
  | push frame =>
      simp only [step] at stepped
      split at stepped
      · next enabled =>
          cases stepped
          exact ordered.push enabled.1 enabled.2
      · cases stepped
  | enrich session =>
      simp only [step] at stepped
      split at stepped
      · next frame enriching =>
          cases stepped
          exact ordered.enrich enriching
      · cases stepped
  | send session =>
      simp only [step] at stepped
      split at stepped
      · next frame sending =>
          cases stepped
          exact ordered.send sending
      · cases stepped
  | read =>
      simp only [step] at stepped
      split at stepped
      · next frame rest wire =>
          cases stepped
          exact ordered.read wire
      · cases stepped
  | dispatch frame action =>
      simp only [step] at stepped
      split at stepped
      · next stage working =>
          obtain ⟨outcome, -, rfl⟩ := Option.map_eq_some_iff.mp stepped
          exact ordered.settle working outcome
      · cases stepped

/-- The log is in order in every reachable state. -/
theorem reachable_ordered (reached : machine.Reachable Machine.anyStep delivery) :
    delivery.Ordered := by
  apply reached.invariant
  · rintro _ rfl
    exact .initial
  · intro before action after ordered _ stepped
    exact ordered_step ordered stepped

/-- **The order of outbound messages.** The gateway reads the frames of a session in the order
of their pushes. If the send of one frame has ended when another one of the session is read,
then it was pushed earlier, and all its events precede those of the other: its deliveries, to
any socket, and its end. -/
theorem outbound_order (reached : machine.Reachable Machine.anyStep delivery) (session : String) :
    delivery.readFrames session <+: delivery.pushed session ∧
      ∀ first second newer older succeeded, first.session = session → second.session = session →
        delivery.log = newer ++ .read second :: older → .ended first succeeded ∈ older →
          [first, second].Sublist (delivery.pushed session) ∧
            ∀ one other : DeliveryEvent, one.frame = first → other.frame = second →
              Precedes delivery.log one other := by
  have ordered := reachable_ordered reached
  have read : delivery.readFrames session <+: delivery.pushed session := by
    rw [ordered.passing, List.append_assoc]
    exact List.prefix_append _ _
  refine ⟨read, ?_⟩
  intro first second newer older succeeded isFirst isSecond log ended
  have activities := ordered.activities
  rw [log] at activities
  constructor
  · have earlier : ActivityLog DeliveryEvent.frame DeliveryEvent.Opens DeliveryEvent.Closes older := by
      have regrouped : ActivityLog DeliveryEvent.frame DeliveryEvent.Opens DeliveryEvent.Closes
          ((newer ++ [.read second]) ++ older) := by simpa using activities
      exact regrouped.suffix
    obtain ⟨_, inside, ⟨frame, rfl⟩, same⟩ := earlier.exists_opening ended
    have same : frame = first := same
    subst same
    have before : frame ∈ (older.filterMap (DeliveryEvent.readFrame session)).reverse :=
      List.mem_reverse.mpr (Ordered.mem_filterMap_readFrame.mpr ⟨inside, isFirst⟩)
    have split : delivery.readFrames session =
        (older.filterMap (DeliveryEvent.readFrame session)).reverse ++ [second] ++
          (newer.filterMap (DeliveryEvent.readFrame session)).reverse := by
      simp [readFrames, log, DeliveryEvent.readFrame, isSecond]
    refine List.Sublist.trans ?_ read.sublist
    rw [split]
    exact ((List.singleton_sublist.mpr before).append (List.Sublist.refl [second])).trans
      (List.sublist_append_left _ _)
  · intro one other ofFirst ofSecond
    rw [log]
    exact activities.precedes_of_closed ⟨second, rfl⟩ ⟨first, succeeded, rfl⟩ ended ofFirst ofSecond

/-- One connection after a list of actions. -/
def ran (actions : List DeliveryAction) : Delivery :=
  (machine.replay Machine.anyStep {} actions).getD {}

/-- The steps that push a message. -/
def pushes (frame : PushedFrame) : List DeliveryAction :=
  [.push frame, .enrich frame.session, .send frame.session]

/-- A message with a file. -/
def fileFrame : PushedFrame := ⟨"out_1", "s", .file⟩

/-- A message with a text. -/
def textFrame : PushedFrame := ⟨"out_2", "s", .text⟩

/-- The text is read after the file has been sent. -/
def inTurnRun : List DeliveryAction :=
  pushes fileFrame ++ pushes textFrame ++
    [.read, .dispatch fileFrame .route, .dispatch fileFrame .download,
      .dispatch fileFrame (.target [0]), .dispatch fileFrame .deliver, .dispatch fileFrame .finish,
      .read, .dispatch textFrame .route, .dispatch textFrame (.target [0]),
      .dispatch textFrame .deliver]

/-- A file that is sent before a text is read arrives before it. -/
theorem outbound_order_of_inTurnRun :
    Precedes (ran inTurnRun).log (.delivered fileFrame 0) (.delivered textFrame 0) := by
  have replayed : machine.replay Machine.anyStep {} inTurnRun = some (ran inTurnRun) := rfl
  obtain ⟨-, inTurn⟩ := outbound_order (.of_replay rfl replayed) "s"
  have ended := inTurn fileFrame textFrame [.delivered textFrame 0]
    [.ended fileFrame true, .delivered fileFrame 0, .read fileFrame] true rfl rfl rfl (by decide)
  exact ended.2 (.delivered fileFrame 0) (.delivered textFrame 0) rfl rfl

/-- The text is read while the file is downloaded. -/
def overtakingRun : List DeliveryAction :=
  pushes fileFrame ++ pushes textFrame ++
    [.read, .read, .dispatch fileFrame .route, .dispatch textFrame .route,
      .dispatch textFrame (.target [0]), .dispatch textFrame .deliver, .dispatch textFrame .finish,
      .dispatch fileFrame .download, .dispatch fileFrame (.target [0]),
      .dispatch fileFrame .deliver, .dispatch fileFrame .finish]

/-- A text overtakes the file that was pushed before it, also on a socket. -/
theorem overtakes : ∃ delivery : Delivery, machine.Reachable Machine.anyStep delivery ∧
    delivery.pushed "s" = [fileFrame, textFrame] ∧
    .ended fileFrame true ∈ delivery.log ∧
    ¬ Precedes delivery.log (.ended fileFrame true) (.ended textFrame true) ∧
    .delivered fileFrame 0 ∈ delivery.log ∧
    ¬ Precedes delivery.log (.delivered fileFrame 0) (.delivered textFrame 0) := by
  have replayed : machine.replay Machine.anyStep {} overtakingRun = some (ran overtakingRun) := rfl
  refine ⟨_, .of_replay rfl replayed, rfl, by decide, ?_, by decide, ?_⟩
  · intro ended
    exact ended [] _ rfl (by decide)
  · intro delivered
    exact delivered [.ended fileFrame true] _ rfl (by decide)

end Delivery

end FairyClaw
