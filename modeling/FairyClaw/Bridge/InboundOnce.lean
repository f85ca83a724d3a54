import FairyClaw.Bridge.Inbound

/-! # Inbound frames take effect once

The id of a frame is tested before its submission and recorded after it, so a frame that is
read again in between, on another connection, is submitted twice
(`FairyClaw.InboundBridge.stored_twice`), and so is a frame whose submission fails after
storing the message. In runs without either, a frame's message is stored and its event
published at most once, and exactly once when it is acknowledged as done
(`FairyClaw.InboundBridge.inbound_once`).
-/

namespace FairyClaw

open Foundation

/-- The frame that the handler is submitting. -/
def InboundHandler.submitting : InboundHandler → Option InboundFrame
  | storing frame | publishing frame => some frame
  | _ => none

/-! ## What the service has done -/

section Accounting

variable {limit : Nat} {created : List InboundFrame} {handlers : Nat → InboundHandler}
  {service : InboundService limit}

/-- The submission of the frame has passed the storing of its message. -/
def PastStoring (handlers : Nat → InboundHandler) (service : InboundService limit)
    (frame : InboundFrame) : Prop :=
  frame.id ∈ service.handled ∨ frame.id ∈ service.brokenOff ∨
    ∃ connection, handlers connection = .publishing frame

/-- The records of the service agree with the handlers: at most one handler submits an id,
and none an id that is processed or broken off. -/
structure Accounted (created : List InboundFrame) (handlers : Nat → InboundHandler)
    (service : InboundService limit) : Prop where
  window : service.processed = RecentSet.ofLog service.handled
  distinct : (created.map InboundFrame.id).Nodup
  known : ∀ connection frame, (handlers connection).submitting = some frame → frame ∈ created
  alone : ∀ one other first second, (handlers one).submitting = some first →
    (handlers other).submitting = some second → first.id = second.id → one = other
  untouched : ∀ connection frame, (handlers connection).submitting = some frame →
    frame.id ∉ service.handled ∧ frame.id ∉ service.brokenOff
  apart : ∀ id ∈ service.brokenOff, id ∉ service.handled
  stored_once : ∀ frame ∈ created, frame.hasSegments = true →
    PastStoring handlers service frame → service.stored.count frame.id = 1
  not_stored : ∀ frame ∈ created, frame.hasSegments = false ∨
    ¬ PastStoring handlers service frame → service.stored.count frame.id = 0
  published_once : ∀ frame ∈ created, frame.triggerTurn = true →
    frame.id ∈ service.handled → service.published.count frame.id = 1
  not_published : ∀ frame ∈ created, frame.triggerTurn = false ∨
    frame.id ∉ service.handled → service.published.count frame.id = 0
  recorded : ∀ id ∈ service.stored ++ service.published ++ service.handled ++ service.brokenOff,
    id ∈ created.map InboundFrame.id
  acknowledged : ∀ id status, (id, status) ∈ service.acknowledged → status ≠ .failed →
    id ∈ service.handled
  acking : ∀ connection id status, handlers connection = .acking id status → status ≠ .failed →
    id ∈ service.handled

/-- A handler that publishes a frame submits it. -/
theorem submitting_of_publishing {connection : Nat} {frame : InboundFrame}
    (publishing : handlers connection = .publishing frame) :
    (handlers connection).submitting = some frame := by
  rw [publishing]
  rfl

/-- A handler that submits nothing before or after its step changes no submission. -/
theorem update_submitting {connection : Nat} {handler : InboundHandler} {other : Nat}
    {frame : InboundFrame}
    (submitting : (Function.update handlers connection handler other).submitting = some frame) :
    other = connection ∧ handler.submitting = some frame ∨
      other ≠ connection ∧ (handlers other).submitting = some frame := by
  by_cases same : other = connection
  · subst same
    rw [Function.update_self] at submitting
    exact .inl ⟨rfl, submitting⟩
  · rw [Function.update_of_ne same] at submitting
    exact .inr ⟨same, submitting⟩

/-- A record to which an id is added if a flag is set. -/
theorem count_added (ids : List String) (flag : Bool) (id other : String) :
    (if flag then ids ++ [id] else ids).count other =
      ids.count other + if flag = true ∧ id = other then 1 else 0 := by
  cases flag with
  | false => simp
  | true =>
      by_cases same : id = other
      · simp [same]
      · simp [same]

/-- What is inside after adding was inside, or is what was added. -/
theorem mem_added {ids : List String} {flag : Bool} {id other : String}
    (inside : other ∈ if flag then ids ++ [id] else ids) : other ∈ ids ∨ other = id := by
  cases flag with
  | false => exact .inl inside
  | true => simpa using inside

namespace Accounted

/-- Frames with one id are one frame. -/
theorem eq_of_id (accounted : Accounted created handlers service) {first second : InboundFrame}
    (one : first ∈ created) (other : second ∈ created) (same : first.id = second.id) :
    first = second :=
  List.inj_on_of_nodup_map accounted.distinct one other same

/-- The handler's place does not count for frames that it is not publishing. -/
theorem pastStoring_update {connection : Nat} {handler : InboundHandler} {frame : InboundFrame}
    (before : handlers connection ≠ .publishing frame) (after : handler ≠ .publishing frame) :
    PastStoring (Function.update handlers connection handler) service frame ↔
      PastStoring handlers service frame := by
  unfold PastStoring
  refine or_congr_right (or_congr_right ?_)
  constructor
  · rintro ⟨other, publishing⟩
    by_cases same : other = connection
    · subst same
      rw [Function.update_self] at publishing
      exact absurd publishing after
    · rw [Function.update_of_ne same] at publishing
      exact ⟨other, publishing⟩
  · rintro ⟨other, publishing⟩
    have different : other ≠ connection := by
      rintro rfl
      exact before publishing
    exact ⟨other, by rw [Function.update_of_ne different]; exact publishing⟩

/-- A handler that is not publishing goes to a place outside a submission. -/
theorem leaves (accounted : Accounted created handlers service) {connection : Nat}
    {handler : InboundHandler} (before : ∀ frame, handlers connection ≠ .publishing frame)
    (after : handler.submitting = none)
    (settled : ∀ id status, handler = .acking id status → status ≠ .failed →
      id ∈ service.handled) :
    Accounted created (Function.update handlers connection handler) service := by
  have others : ∀ {other frame},
      (Function.update handlers connection handler other).submitting = some frame →
        (handlers other).submitting = some frame := by
    intro other frame submitting
    rcases update_submitting submitting with ⟨_, own⟩ | ⟨_, kept⟩
    · rw [after] at own
      cases own
    · exact kept
  have past : ∀ frame, PastStoring (Function.update handlers connection handler) service frame ↔
      PastStoring handlers service frame := by
    intro frame
    apply pastStoring_update (before frame)
    rintro rfl
    cases after
  exact {
    accounted with
    known := fun _ frame submitting => accounted.known _ frame (others submitting)
    alone := fun _ _ _ _ one other => accounted.alone _ _ _ _ (others one) (others other)
    untouched := fun _ frame submitting => accounted.untouched _ frame (others submitting)
    stored_once := fun frame inside segments stored =>
      accounted.stored_once frame inside segments ((past frame).mp stored)
    not_stored := fun frame inside absent =>
      accounted.not_stored frame inside (absent.imp_right (mt (past frame).mpr))
    acking := by
      intro other id status acking settledStatus
      by_cases same : other = connection
      · subst same
        rw [Function.update_self] at acking
        exact settled id status acking settledStatus
      · rw [Function.update_of_ne same] at acking
        exact accounted.acking other id status acking settledStatus }

/-- A frame's submission begins when no handler submits its id and no record has it. -/
theorem begins (accounted : Accounted created handlers service) {connection : Nat}
    {frame : InboundFrame} (reading : handlers connection = .reading) (inside : frame ∈ created)
    (unhandled : frame.id ∉ service.handled) (whole : frame.id ∉ service.brokenOff)
    (single : ∀ other second, (handlers other).submitting = some second →
      second.id ≠ frame.id) :
    Accounted created (Function.update handlers connection (.storing frame)) service := by
  have past : ∀ second, PastStoring (Function.update handlers connection (.storing frame)) service
      second ↔ PastStoring handlers service second := by
    intro second
    apply pastStoring_update
    · rw [reading]
      nofun
    · nofun
  exact {
    accounted with
    known := by
      intro other second submitting
      rcases update_submitting submitting with ⟨_, own⟩ | ⟨_, kept⟩
      · cases own
        exact inside
      · exact accounted.known other second kept
    alone := by
      intro one other first second ones others same
      rcases update_submitting ones with ⟨rfl, own⟩ | ⟨_, kept⟩
      · cases own
        rcases update_submitting others with ⟨rfl, _⟩ | ⟨_, kept⟩
        · rfl
        · exact absurd same.symm (single other second kept)
      · rcases update_submitting others with ⟨rfl, own⟩ | ⟨_, keptOther⟩
        · cases own
          exact absurd same (single one first kept)
        · exact accounted.alone one other first second kept keptOther same
    untouched := by
      intro other second submitting
      rcases update_submitting submitting with ⟨_, own⟩ | ⟨_, kept⟩
      · cases own
        exact ⟨unhandled, whole⟩
      · exact accounted.untouched other second kept
    stored_once := fun second inside segments stored =>
      accounted.stored_once second inside segments ((past second).mp stored)
    not_stored := fun second inside absent =>
      accounted.not_stored second inside (absent.imp_right (mt (past second).mpr))
    acking := by
      intro other id status acking settled
      by_cases same : other = connection
      · subst same
        rw [Function.update_self] at acking
        cases acking
      · rw [Function.update_of_ne same] at acking
        exact accounted.acking other id status acking settled }

/-- A submission goes on in its handler: who submits what stays. -/
theorem submitting_goesOn {connection : Nat} (handler : InboundHandler) {frame : InboundFrame}
    (before : (handlers connection).submitting = some frame)
    (after : handler.submitting = some frame) (other : Nat) :
    (Function.update handlers connection handler other).submitting =
      (handlers other).submitting := by
  by_cases same : other = connection
  · subst same
    rw [Function.update_self, before, after]
  · rw [Function.update_of_ne same]

/-- Storing a frame keeps the account. -/
theorem stores (accounted : Accounted created handlers service) {connection : Nat}
    {frame : InboundFrame} (storing : handlers connection = .storing frame) :
    Accounted created (Function.update handlers connection (.publishing frame))
      { service with
        stored := if frame.hasSegments then service.stored ++ [frame.id]
          else service.stored } := by
  have before : (handlers connection).submitting = some frame := by
    rw [storing]
    rfl
  have same := submitting_goesOn (.publishing frame) before rfl
  have inside := accounted.known connection frame before
  obtain ⟨unhandled, whole⟩ := accounted.untouched connection frame before
  have fresh : ¬ PastStoring handlers service frame := by
    rintro (handled | broken | ⟨other, publishing⟩)
    · exact unhandled handled
    · exact whole broken
    · have equal := accounted.alone other connection frame frame
        (submitting_of_publishing publishing) before rfl
      rw [equal, storing] at publishing
      cases publishing
  have none_stored := accounted.not_stored frame inside (.inr fresh)
  have past : ∀ second, second ≠ frame →
      (PastStoring (Function.update handlers connection (.publishing frame)) service second ↔
        PastStoring handlers service second) := by
    intro second other
    apply pastStoring_update
    · rw [storing]
      nofun
    · rintro ⟨⟩
      exact other rfl
  have kept : ∀ second ∈ created, second ≠ frame →
      (if frame.hasSegments then service.stored ++ [frame.id] else service.stored).count
        second.id = service.stored.count second.id := by
    intro second member other
    have different : frame.id ≠ second.id :=
      fun equal => other (accounted.eq_of_id member inside equal.symm)
    simp [count_added, different]
  exact {
    accounted with
    known := fun other second submitting => accounted.known other second (same other ▸ submitting)
    alone := fun one other first second ones others =>
      accounted.alone one other first second (same one ▸ ones) (same other ▸ others)
    untouched := fun other second submitting =>
      accounted.untouched other second (same other ▸ submitting)
    stored_once := by
      intro second member segments stored
      by_cases own : second = frame
      · subst own
        simp [segments, none_stored]
      · exact (kept second member own).trans
          (accounted.stored_once second member segments ((past second own).mp stored))
    not_stored := by
      intro second member absent
      by_cases own : second = frame
      · subst own
        rcases absent with plain | absent
        · simpa [count_added, plain] using none_stored
        · exact absurd (.inr (.inr ⟨connection, Function.update_self ..⟩)) absent
      · exact (kept second member own).trans
          (accounted.not_stored second member (absent.imp_right (mt (past second own).mpr)))
    recorded := by
      intro id member
      simp only [List.mem_append] at member
      rcases member with ((stored | published) | handled) | broken
      · rcases mem_added stored with earlier | rfl
        · exact accounted.recorded id (by simp [earlier])
        · exact List.mem_map_of_mem inside
      · exact accounted.recorded id (by simp [published])
      · exact accounted.recorded id (by simp [handled])
      · exact accounted.recorded id (by simp [broken])
    acking := by
      intro other id status acking settled
      by_cases own : other = connection
      · subst own
        rw [Function.update_self] at acking
        cases acking
      · rw [Function.update_of_ne own] at acking
        exact accounted.acking other id status acking settled }

/-- The rest of a submission records the frame's id. -/
theorem publishes (accounted : Accounted created handlers service) {connection : Nat}
    {frame : InboundFrame} (publishing : handlers connection = .publishing frame) :
    Accounted created (Function.update handlers connection (.acking frame.id .ok))
      { service with
        published := if frame.triggerTurn then service.published ++ [frame.id]
          else service.published
        processed := service.processed.add frame.id
        handled := frame.id :: service.handled } := by
  have before := submitting_of_publishing publishing
  have inside := accounted.known connection frame before
  obtain ⟨unhandled, whole⟩ := accounted.untouched connection frame before
  have none_published := accounted.not_published frame inside (.inr unhandled)
  have others : ∀ {other second}, (Function.update handlers connection (.acking frame.id .ok)
      other).submitting = some second → other ≠ connection ∧
        (handlers other).submitting = some second := by
    intro other second submitting
    rcases update_submitting submitting with ⟨_, own⟩ | kept
    · cases own
    · exact kept
  have different : ∀ second ∈ created, second ≠ frame → second.id ≠ frame.id :=
    fun second member other equal => other (accounted.eq_of_id member inside equal)
  have past : ∀ second ∈ created, second ≠ frame →
      (PastStoring (Function.update handlers connection (.acking frame.id .ok))
          { service with
            published := if frame.triggerTurn then service.published ++ [frame.id]
              else service.published
            processed := service.processed.add frame.id
            handled := frame.id :: service.handled } second ↔
        PastStoring handlers service second) := by
    intro second member other
    have moved : PastStoring (Function.update handlers connection (.acking frame.id .ok)) service
        second ↔ PastStoring handlers service second := by
      apply pastStoring_update
      · rw [publishing]
        rintro ⟨⟩
        exact other rfl
      · nofun
    rw [← moved]
    simp [PastStoring, different second member other]
  exact {
    accounted with
    window := by
      show service.processed.add frame.id = _
      rw [accounted.window]
      rfl
    known := fun other second submitting => accounted.known other second (others submitting).2
    alone := fun one other first second ones seconds =>
      accounted.alone one other first second (others ones).2 (others seconds).2
    untouched := by
      intro other second submitting
      obtain ⟨elsewhere, kept⟩ := others submitting
      obtain ⟨unhandled, whole⟩ := accounted.untouched other second kept
      refine ⟨?_, whole⟩
      rw [List.mem_cons, not_or]
      exact ⟨fun equal => elsewhere (accounted.alone _ _ _ _ kept before equal), unhandled⟩
    apart := by
      intro id broken
      rw [List.mem_cons, not_or]
      exact ⟨fun equal => whole (equal ▸ broken), accounted.apart id broken⟩
    stored_once := by
      intro second member segments stored
      by_cases own : second = frame
      · subst own
        exact accounted.stored_once second member segments (.inr (.inr ⟨connection, publishing⟩))
      · exact accounted.stored_once second member segments ((past second member own).mp stored)
    not_stored := by
      intro second member absent
      by_cases own : second = frame
      · subst own
        refine accounted.not_stored second member (.inl (absent.resolve_right fun absent => ?_))
        exact absent (.inl List.mem_cons_self)
      · exact accounted.not_stored second member
          (absent.imp_right (mt (past second member own).mpr))
    published_once := by
      intro second member triggers handled
      by_cases own : second = frame
      · subst own
        simp [triggers, none_published]
      · have earlier := (List.mem_cons.mp handled).resolve_left (different second member own)
        simpa [count_added, Ne.symm (different second member own)] using
          accounted.published_once second member triggers earlier
    not_published := by
      intro second member absent
      by_cases own : second = frame
      · subst own
        have silent := absent.resolve_right (not_not_intro List.mem_cons_self)
        simpa [silent] using none_published
      · have absent := absent.imp_right (mt (List.mem_cons_of_mem frame.id))
        simpa [count_added, Ne.symm (different second member own)] using
          accounted.not_published second member absent
    recorded := by
      intro id member
      simp only [List.mem_append, List.mem_cons] at member
      rcases member with ((stored | published) | rfl | handled) | broken
      · exact accounted.recorded id (by simp [stored])
      · rcases mem_added published with earlier | rfl
        · exact accounted.recorded id (by simp [earlier])
        · exact List.mem_map_of_mem inside
      · exact List.mem_map_of_mem inside
      · exact accounted.recorded id (by simp [handled])
      · exact accounted.recorded id (by simp [broken])
    acknowledged := fun id status sent settled =>
      List.mem_cons_of_mem _ (accounted.acknowledged id status sent settled)
    acking := by
      intro other id status acking settled
      by_cases own : other = connection
      · subst own
        rw [Function.update_self] at acking
        cases acking
        exact List.mem_cons_self
      · rw [Function.update_of_ne own] at acking
        exact List.mem_cons_of_mem _ (accounted.acking other id status acking settled) }

/-- A submission that fails after storing the message leaves a record of it. -/
theorem breaksOff (accounted : Accounted created handlers service) {connection : Nat}
    {frame : InboundFrame} (publishing : handlers connection = .publishing frame) :
    Accounted created (Function.update handlers connection (.acking frame.id .failed))
      { service with
        brokenOff := if frame.hasSegments then frame.id :: service.brokenOff
          else service.brokenOff } := by
  have before := submitting_of_publishing publishing
  have inside := accounted.known connection frame before
  obtain ⟨unhandled, whole⟩ := accounted.untouched connection frame before
  have others : ∀ {other second}, (Function.update handlers connection (.acking frame.id .failed)
      other).submitting = some second → other ≠ connection ∧
        (handlers other).submitting = some second := by
    intro other second submitting
    rcases update_submitting submitting with ⟨_, own⟩ | kept
    · cases own
    · exact kept
  have broken : ∀ {id}, (id ∈ if frame.hasSegments then frame.id :: service.brokenOff
      else service.brokenOff) → id = frame.id ∨ id ∈ service.brokenOff := by
    intro id member
    split at member
    · exact List.mem_cons.mp member
    · exact .inr member
  have past : ∀ second ∈ created, second ≠ frame →
      (PastStoring (Function.update handlers connection (.acking frame.id .failed))
          { service with
            brokenOff := if frame.hasSegments then frame.id :: service.brokenOff
              else service.brokenOff } second ↔
        PastStoring handlers service second) := by
    intro second member other
    have different : second.id ≠ frame.id :=
      fun equal => other (accounted.eq_of_id member inside equal)
    have moved : PastStoring (Function.update handlers connection (.acking frame.id .failed))
        service second ↔ PastStoring handlers service second := by
      apply pastStoring_update
      · rw [publishing]
        rintro ⟨⟩
        exact other rfl
      · nofun
    rw [← moved]
    unfold PastStoring
    dsimp only
    split
    · simp [different]
    · rfl
  exact {
    accounted with
    known := fun other second submitting => accounted.known other second (others submitting).2
    alone := fun one other first second ones seconds =>
      accounted.alone one other first second (others ones).2 (others seconds).2
    untouched := by
      intro other second submitting
      obtain ⟨elsewhere, kept⟩ := others submitting
      obtain ⟨unhandled, whole⟩ := accounted.untouched other second kept
      refine ⟨unhandled, fun member => ?_⟩
      rcases broken member with equal | earlier
      · exact elsewhere (accounted.alone _ _ _ _ kept before equal)
      · exact whole earlier
    apart := by
      intro id member
      rcases broken member with rfl | earlier
      · exact unhandled
      · exact accounted.apart id earlier
    stored_once := by
      intro second member segments stored
      by_cases own : second = frame
      · subst own
        exact accounted.stored_once second member segments (.inr (.inr ⟨connection, publishing⟩))
      · exact accounted.stored_once second member segments ((past second member own).mp stored)
    not_stored := by
      intro second member absent
      by_cases own : second = frame
      · subst own
        cases segments : second.hasSegments with
        | false => exact accounted.not_stored second member (.inl segments)
        | true =>
            simp only [segments, Bool.true_eq_false, ↓reduceIte, false_or] at absent
            exact absurd (.inr (.inl List.mem_cons_self)) absent
      · exact accounted.not_stored second member
          (absent.imp_right (mt (past second member own).mpr))
    recorded := by
      intro id member
      simp only [List.mem_append] at member
      rcases member with ((stored | published) | handled) | inBroken
      · exact accounted.recorded id (by simp [stored])
      · exact accounted.recorded id (by simp [published])
      · exact accounted.recorded id (by simp [handled])
      · rcases broken inBroken with rfl | earlier
        · exact List.mem_map_of_mem inside
        · exact accounted.recorded id (by simp [earlier])
    acking := by
      intro other id status acking settled
      by_cases own : other = connection
      · subst own
        rw [Function.update_self] at acking
        cases acking
        exact absurd rfl settled
      · rw [Function.update_of_ne own] at acking
        exact accounted.acking other id status acking settled }

/-- A sent acknowledgement is one that the handler was at. -/
theorem sendsAck (accounted : Accounted created handlers service) {id : String}
    {status : AckStatus} (settled : status ≠ .failed → id ∈ service.handled) :
    Accounted created handlers
      { service with acknowledged := service.acknowledged ++ [(id, status)] } := by
  refine { accounted with acknowledged := ?_ }
  intro other otherStatus sent isSettled
  rcases List.mem_append.mp sent with earlier | now
  · exact accounted.acknowledged other otherStatus earlier isSettled
  · cases List.mem_singleton.mp now
    exact settled isSettled

/-- A new frame has no record. -/
theorem creates (accounted : Accounted created handlers service) {frame : InboundFrame}
    (fresh : frame.id ∉ created.map InboundFrame.id) :
    Accounted (created ++ [frame]) handlers service := by
  have unrecorded : frame.id ∉
      service.stored ++ service.published ++ service.handled ++ service.brokenOff :=
    fun member => fresh (accounted.recorded _ member)
  simp only [List.mem_append, not_or] at unrecorded
  obtain ⟨⟨⟨unstored, unpublished⟩, unhandled⟩, whole⟩ := unrecorded
  have unknown : ∀ connection, (handlers connection).submitting ≠ some frame :=
    fun connection submitting =>
      fresh (List.mem_map_of_mem (accounted.known connection frame submitting))
  have notPast : ¬ PastStoring handlers service frame := by
    rintro (handled | broken | ⟨connection, publishing⟩)
    · exact unhandled handled
    · exact whole broken
    · exact unknown connection (submitting_of_publishing publishing)
  have either : ∀ {second}, second ∈ created ++ [frame] → second ∈ created ∨ second = frame :=
    fun member => by simpa using member
  exact {
    accounted with
    distinct := by
      rw [List.map_append, List.nodup_append]
      refine ⟨accounted.distinct, List.nodup_singleton _, ?_⟩
      intro id known other own equal
      rw [List.map_singleton, List.mem_singleton] at own
      exact fresh (own ▸ equal ▸ known)
    known := fun connection second submitting =>
      List.mem_append_left _ (accounted.known connection second submitting)
    stored_once := by
      intro second member segments stored
      rcases either member with known | rfl
      · exact accounted.stored_once second known segments stored
      · exact absurd stored notPast
    not_stored := by
      intro second member absent
      rcases either member with known | rfl
      · exact accounted.not_stored second known absent
      · exact List.count_eq_zero.mpr unstored
    published_once := by
      intro second member triggers handled
      rcases either member with known | rfl
      · exact accounted.published_once second known triggers handled
      · exact absurd handled unhandled
    not_published := by
      intro second member absent
      rcases either member with known | rfl
      · exact accounted.not_published second known absent
      · exact List.count_eq_zero.mpr unpublished
    recorded := fun id member => by
      rw [List.map_append]
      exact List.mem_append_left _ (accounted.recorded id member) }

end Accounted

end Accounting

/-! ## Runs -/

namespace InboundBridge

variable {limit : Nat} {bridge next : InboundBridge limit} {action : InboundAction}

/-- Frames on their way were created by the client. -/
structure FramesKnown (bridge : InboundBridge limit) : Prop where
  pending : ∀ frame ∈ bridge.client.pending, frame ∈ bridge.client.created
  senders : ∀ frame ∈ bridge.client.senders, frame ∈ bridge.client.created
  resends : ∀ connection rest, bridge.client.link = .online connection rest →
    ∀ frame ∈ rest, frame ∈ bridge.client.created
  wire : ∀ connection, ∀ frame ∈ (bridge.connections connection).wire,
    frame ∈ bridge.client.created

namespace FramesKnown

/-- A link that resends known frames keeps them known. -/
theorem setLink (known : bridge.FramesKnown) (link : ClientLink)
    (resends : ∀ connection rest, link = .online connection rest →
      ∀ frame ∈ rest, frame ∈ bridge.client.created) : (bridge.setLink link).FramesKnown :=
  { known with resends := resends }

/-- A connection that carries known frames keeps them known. -/
theorem setConnection (known : bridge.FramesKnown) (connection : Nat) (after : InboundConnection)
    (wire : ∀ frame ∈ after.wire, frame ∈ bridge.client.created) :
    (bridge.setConnection connection after).FramesKnown := by
  refine { known with wire := fun other frame member => ?_ }
  by_cases same : other = connection
  · subst same
    simp only [InboundBridge.setConnection, Function.update_self] at member
    exact wire frame member
  · simp only [InboundBridge.setConnection, Function.update_of_ne same] at member
    exact known.wire other frame member

/-- Sending a created frame keeps the frames known. -/
theorem transmit (known : bridge.FramesKnown) {connection : Nat} {frame : InboundFrame}
    (created : frame ∈ bridge.client.created) : (bridge.transmit connection frame).FramesKnown := by
  refine known.setConnection connection _ fun other member => ?_
  rcases List.mem_append.mp member with earlier | now
  · exact known.wire connection other earlier
  · exact List.mem_singleton.mp now ▸ created

/-- A handler's step keeps the frames known. -/
theorem setHandler (known : bridge.FramesKnown) (connection : Nat)
    (effect : InboundService limit × InboundHandler) :
    (bridge.setHandler connection effect).FramesKnown := by
  obtain ⟨pending, senders, resends, wire⟩ :=
    known.setConnection connection { bridge.connections connection with handler := effect.2 }
      (known.wire connection)
  exact ⟨pending, senders, resends, wire⟩

/-- Every step keeps the frames known. -/
theorem stepped (known : bridge.FramesKnown) (stepped : bridge.step action = some next) :
    next.FramesKnown := by
  cases action with
  | connect =>
      simp only [step] at stepped
      split at stepped
      · cases stepped
        obtain ⟨pending, senders, resends, wire⟩ :=
          known.setLink (.greeting bridge.next) (by rintro _ _ ⟨⟩)
        exact ⟨pending, senders, resends, wire⟩
      · cases stepped
  | greeted =>
      simp only [step] at stepped
      split at stepped
      · cases stepped
        exact known.setLink _ (by rintro _ _ ⟨⟩)
      · cases stepped
  | resumed =>
      simp only [step] at stepped
      split at stepped
      · cases stepped
        refine known.setLink _ fun connection rest online => ?_
        cases online
        exact known.pending
      · cases stepped
  | resend =>
      simp only [step] at stepped
      split at stepped
      · next connection frame rest online =>
          cases stepped
          have left := known.resends connection (frame :: rest) online
          refine (known.setLink _ ?_).transmit (left frame List.mem_cons_self)
          intro other others online second member
          injection online with _ same
          exact left second (List.mem_cons_of_mem _ (same ▸ member))
      · cases stepped
  | drop arriving =>
      simp only [step] at stepped
      split at stepped
      · next connection _ =>
          cases stepped
          refine (known.setLink .offline (by rintro _ _ ⟨⟩)).setConnection connection _ fun frame member => ?_
          exact known.wire connection frame (List.mem_of_mem_take member)
      · cases stepped
  | create frame =>
      simp only [step] at stepped
      split at stepped
      · cases stepped
      · cases stepped
        have grown : ∀ {list : List InboundFrame}, (∀ frame ∈ list,
            frame ∈ bridge.client.created) → ∀ other ∈ list ++ [frame],
              other ∈ bridge.client.created ++ [frame] := by
          intro list old other member
          rcases List.mem_append.mp member with earlier | now
          · exact List.mem_append_left _ (old other earlier)
          · exact List.mem_append_right _ now
        exact {
          pending := grown known.pending
          senders := grown known.senders
          resends := fun connection rest online other member =>
            List.mem_append_left _ (known.resends connection rest online other member)
          wire := fun connection other member =>
            List.mem_append_left _ (known.wire connection other member) }
  | send frame =>
      simp only [step] at stepped
      split at stepped
      · next waiting =>
          have sent : { bridge with client := { bridge.client with
              senders := bridge.client.senders.erase frame } }.FramesKnown :=
            { known with
              senders := fun other member => known.senders other (List.mem_of_mem_erase member) }
          split at stepped
          · cases stepped
            exact sent.transmit (known.senders frame waiting)
          · cases stepped
            exact sent
      · cases stepped
  | readAck =>
      simp only [step] at stepped
      split at stepped
      · next connection _ =>
          split at stepped
          · cases stepped
          · next id status rest _ =>
              cases stepped
              obtain ⟨pending, senders, resends, wire⟩ :=
                known.setConnection connection
                  { bridge.connections connection with acks := rest } (known.wire connection)
              unfold settle
              split
              · exact ⟨fun frame member => pending frame (List.mem_of_mem_filter member), senders,
                  resends, wire⟩
              · exact ⟨pending, senders, resends, wire⟩
      · cases stepped
  | receive connection =>
      simp only [step] at stepped
      split at stepped
      · next frame rest _ wire =>
          cases stepped
          refine (known.setConnection connection _ fun other member => ?_).setHandler connection _
          exact known.wire connection other (by rw [wire]; exact List.mem_cons_of_mem _ member)
      · cases stepped
  | store connection succeeds | publish connection succeeds =>
      simp only [step] at stepped
      split at stepped
      · cases stepped
        exact known.setHandler connection _
      · cases stepped
  | ack connection sent =>
      simp only [step] at stepped
      split at stepped
      · split at stepped
        · cases stepped
          refine FramesKnown.setHandler ?_ connection _
          exact known.setConnection connection _ (known.wire connection)
        · cases stepped
          exact known.setHandler connection _
      · cases stepped

end FramesKnown

/-- A frame not handled yet is read while no handler submits its id, and when no submission of
it has failed after storing its message. -/
def undisturbed : Machine.Guard (InboundBridge limit) InboundAction := fun bridge action =>
  ∀ frame ∈ bridge.reads action, frame.id ∉ bridge.service.handled →
    frame.id ∉ bridge.service.brokenOff ∧
      ∀ connection second, (bridge.handlers connection).submitting = some second →
        second.id ≠ frame.id

/-- Runs within the window whose reads are undisturbed. -/
def inTurn : Machine.Guard (InboundBridge limit) InboundAction := fun bridge action =>
  bridge.withinWindow action ∧ bridge.undisturbed action

/-- What the bridge has done agrees with where its handlers stand. -/
def Settled (bridge : InboundBridge limit) : Prop :=
  Accounted bridge.client.created bridge.handlers bridge.service

/-- At the start nothing has been handled. -/
theorem settled_initial : ({} : InboundBridge limit).Settled where
  window := rfl
  distinct := List.nodup_nil
  known := nofun
  alone := nofun
  untouched := nofun
  apart := nofun
  stored_once := nofun
  not_stored := nofun
  published_once := nofun
  not_published := nofun
  recorded := nofun
  acknowledged := nofun
  acking := nofun

/-- What is read was created. -/
theorem reads_created (known : bridge.FramesKnown) {frame : InboundFrame}
    (read : frame ∈ bridge.reads action) : frame ∈ bridge.client.created := by
  cases action with
  | receive connection => exact known.wire connection frame (List.mem_of_mem_head? read)
  | _ => cases read

/-- The test of the window tells exactly the handled ids, while they are within it. -/
theorem receive_accounted (settled : bridge.Settled) (known : bridge.FramesKnown)
    {connection : Nat} (allowed : bridge.inTurn (.receive connection)) {frame : InboundFrame}
    (read : frame ∈ bridge.reads (.receive connection))
    (reading : bridge.handlers connection = .reading) :
    Accounted bridge.client.created
      (Function.update bridge.handlers connection (bridge.service.receive frame))
      bridge.service := by
  unfold InboundService.receive
  split
  · next processed =>
      have handled : frame.id ∈ bridge.service.handled :=
        RecentSet.mem_of_mem_ofLog (settled.window ▸ processed)
      refine settled.leaves (fun second => by rw [reading]; nofun) rfl ?_
      intro id status acking _
      cases acking
      exact handled
  · next unprocessed =>
      have unhandled : frame.id ∉ bridge.service.handled := by
        intro handled
        have recent := RecentSet.mem_ofLog handled (allowed.1 frame read handled)
        exact unprocessed (settled.window ▸ recent)
      obtain ⟨whole, single⟩ := allowed.2 frame read unhandled
      exact settled.begins reading (reads_created known read) unhandled whole single

/-- A step in turn keeps the frames settled. -/
theorem settled_step (settled : bridge.Settled) (known : bridge.FramesKnown)
    (allowed : bridge.inTurn action) (stepped : bridge.step action = some next) :
    next.Settled := by
  have effect := step_effect stepped
  unfold Settled
  cases action with
  | create frame =>
      obtain ⟨fresh, handlers, service, created⟩ := effect
      rw [handlers, service, created]
      exact settled.creates fresh
  | receive connection =>
      obtain ⟨frame, read, reading, handlers, service, created⟩ := effect
      rw [handlers, service, created]
      exact receive_accounted settled known allowed read reading
  | store connection succeeds =>
      obtain ⟨frame, storing, handlers, service, created⟩ := effect
      rw [handlers, service, created]
      cases succeeds with
      | true => exact settled.stores storing
      | false =>
          refine settled.leaves (fun second => by rw [storing]; nofun) rfl ?_
          intro id status acking unfailed
          cases acking
          exact absurd rfl unfailed
  | publish connection succeeds =>
      obtain ⟨frame, publishing, handlers, service, created⟩ := effect
      rw [handlers, service, created]
      cases succeeds with
      | true => exact settled.publishes publishing
      | false => exact settled.breaksOff publishing
  | ack connection sent =>
      obtain ⟨id, status, acking, handlers, service, created⟩ := effect
      rw [handlers, service, created]
      have notPublishing : ∀ second, bridge.handlers connection ≠ .publishing second :=
        fun second => by rw [acking]; nofun
      cases sent with
      | true =>
          refine Accounted.sendsAck ?_ (settled.acking connection id status acking)
          exact settled.leaves notPublishing rfl nofun
      | false => exact settled.leaves notPublishing rfl nofun
  | connect | greeted | resumed | resend | drop | send | readAck =>
      obtain ⟨handlers, service, created⟩ := effect
      rw [handlers, service, created]
      exact settled

/-- In runs in turn the frames are settled and known. -/
theorem reachable_settled (reached : (machine limit).Reachable inTurn bridge) :
    bridge.Settled ∧ bridge.FramesKnown := by
  apply reached.invariant
  · rintro _ rfl
    exact ⟨settled_initial, nofun, nofun, nofun, nofun⟩
  · rintro before action after ⟨settled, known⟩ allowed stepped
    exact ⟨settled_step settled known allowed stepped, known.stepped stepped⟩

/-- **Inbound frames take effect once.** Within the window, in runs whose frames are read
undisturbed, a frame is stored and published at most once; once it is acknowledged as done, it
is stored exactly once if it has segments, and published exactly once if it asks for a turn. -/
theorem inbound_once (reached : (machine limit).Reachable inTurn bridge) :
    ∀ frame ∈ bridge.client.created,
      bridge.service.stored.count frame.id ≤ 1 ∧ bridge.service.published.count frame.id ≤ 1 ∧
        ((frame.id, AckStatus.ok) ∈ bridge.service.acknowledged ∨
            (frame.id, AckStatus.duplicate) ∈ bridge.service.acknowledged →
          bridge.service.stored.count frame.id = (if frame.hasSegments then 1 else 0) ∧
            bridge.service.published.count frame.id = if frame.triggerTurn then 1 else 0) := by
  intro frame created
  obtain ⟨settled, -⟩ := reachable_settled reached
  refine ⟨?_, ?_, ?_⟩
  · by_cases stored : frame.hasSegments = true ∧ PastStoring bridge.handlers bridge.service frame
    · exact (settled.stored_once frame created stored.1 stored.2).le
    · rw [settled.not_stored frame created (by simpa [imp_iff_not_or] using stored)]
      exact Nat.zero_le 1
  · by_cases published : frame.triggerTurn = true ∧ frame.id ∈ bridge.service.handled
    · exact (settled.published_once frame created published.1 published.2).le
    · rw [settled.not_published frame created (by simpa [imp_iff_not_or] using published)]
      exact Nat.zero_le 1
  · intro acknowledged
    have handled : frame.id ∈ bridge.service.handled := by
      rcases acknowledged with ok | duplicate
      · exact settled.acknowledged _ _ ok nofun
      · exact settled.acknowledged _ _ duplicate nofun
    constructor
    · split
      · next segments => exact settled.stored_once frame created segments (.inl handled)
      · next plain => exact settled.not_stored frame created (.inl (by simpa using plain))
    · split
      · next triggers => exact settled.published_once frame created triggers handled
      · next plain => exact settled.not_published frame created (.inl (by simpa using plain))

/-- The bridge after a list of actions. -/
def after (actions : List InboundAction) : InboundBridge 2048 :=
  ((machine 2048).replay withinWindow {} actions).getD {}

/-- A message that is sent twice. -/
def resentFrame : InboundFrame := ⟨"in_1", true, true⟩

/-- Steps that read no frame, or one that is handled already and within the window. -/
def onlyDuplicates : Machine.Guard (InboundBridge limit) InboundAction := fun bridge action =>
  bridge.withinWindow action ∧ ∀ frame ∈ bridge.reads action, frame.id ∈ bridge.service.handled

instance : DecidableRel (onlyDuplicates : Machine.Guard (InboundBridge limit) InboundAction) :=
  fun bridge action => inferInstanceAs (Decidable (_ ∧ ∀ frame ∈ bridge.reads action, _))

/-- A run that only repeats frames is in turn. -/
theorem inTurn_of_onlyDuplicates (bridge : InboundBridge limit) (action : InboundAction)
    (allowed : bridge.onlyDuplicates action) : bridge.inTurn action :=
  ⟨allowed.1, fun frame read unhandled => absurd (allowed.2 frame read) unhandled⟩

/-- The frame is on its way. -/
def sentRun : List InboundAction :=
  [.connect, .greeted, .resumed, .create resentFrame, .send resentFrame]

/-- The frame is processed, the acknowledgement lost with the connection, and the frame that
is sent again answered as a duplicate. -/
def answeredRun : List InboundAction :=
  [.store 0 true, .publish 0 true, .ack 0 false, .drop 0, .connect, .greeted, .resumed, .resend,
    .receive 1, .ack 1 true]

/-- The answered run takes effect once. -/
theorem inbound_once_of_answeredRun :
    ∃ bridge : InboundBridge 2048, resentFrame ∈ bridge.client.created ∧
      (resentFrame.id, AckStatus.duplicate) ∈ bridge.service.acknowledged ∧
      bridge.service.stored.count resentFrame.id = 1 ∧
      bridge.service.published.count resentFrame.id = 1 := by
  have idle : (after sentRun).handlers = fun _ => .reading :=
    calc (after sentRun).handlers
        = (({} : InboundBridge 2048).setConnection 0 ⟨[resentFrame], .reading, []⟩).handlers := rfl
      _ = fun _ => .reading := handlers_kept _ rfl
  have replayed : (machine 2048).replay onlyDuplicates {} sentRun = some (after sentRun) := rfl
  have sent : (machine 2048).Reachable onlyDuplicates (after sentRun) := .of_replay rfl replayed
  have allowed : (after sentRun).inTurn (.receive 0) := by
    refine ⟨by decide, fun frame read _ => ⟨nofun, fun connection second submitting => ?_⟩⟩
    rw [idle] at submitting
    cases submitting
  have received : (machine 2048).Reachable inTurn (after (sentRun ++ [.receive 0])) :=
    (sent.mono inTurn_of_onlyDuplicates).tail allowed rfl
  have answered : (machine 2048).replay onlyDuplicates (after (sentRun ++ [.receive 0]))
      answeredRun = some (after (sentRun ++ .receive 0 :: answeredRun)) := rfl
  obtain ⟨start, begun, steps⟩ := received
  have reached : (machine 2048).Reachable inTurn (after (sentRun ++ .receive 0 :: answeredRun)) :=
    ⟨start, begun, steps.trans ((Machine.Steps.of_replay answered).mono inTurn_of_onlyDuplicates)⟩
  obtain ⟨-, -, exact⟩ := inbound_once reached resentFrame (by decide)
  have duplicate : (resentFrame.id, AckStatus.duplicate) ∈
      (after (sentRun ++ .receive 0 :: answeredRun)).service.acknowledged := by decide
  obtain ⟨stored, published⟩ := exact (.inr duplicate)
  exact ⟨_, by decide, duplicate, stored, published⟩

/-- The frame is sent on a connection that is dropped then, and again on the next one. -/
def resentRun : List InboundAction :=
  [.connect, .greeted, .resumed, .create resentFrame, .send resentFrame, .receive 0, .drop 1,
    .connect, .greeted, .resumed, .resend, .receive 1, .store 0 true, .store 1 true,
    .publish 0 true, .publish 1 true, .ack 0 false, .ack 1 true]

/-- The handler of the dropped connection is still submitting the frame when it is read again. -/
theorem stored_twice :
    ∃ bridge : InboundBridge 2048, (machine 2048).Reachable withinWindow bridge ∧
      ∃ frame ∈ bridge.client.created, bridge.service.stored.count frame.id = 2 ∧
        bridge.service.published.count frame.id = 2 ∧
        (frame.id, AckStatus.ok) ∈ bridge.service.acknowledged := by
  have replayed : (machine 2048).replay withinWindow {} resentRun = some (after resentRun) := rfl
  exact ⟨after resentRun, .of_replay rfl replayed, resentFrame, by decide, by decide, by decide,
    by decide⟩

end InboundBridge

end FairyClaw
