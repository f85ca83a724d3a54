import FairyClaw.Bridge.ClientCalls

/-! # Waiters and the connection

Only inbound frames are sent again after a handshake. The future of any other request whose connection
is lost before the answer has been read stays in its table for good
(`FairyClaw.ClientCalls.Orphaned.forever`). In runs in which no connection is lost or refused under
such a request, and none is sent without a connection, every future can still be answered on the
connection, or belongs to a request that is being sent or will be sent again
(`FairyClaw.no_orphaned_waiter`).
-/

namespace FairyClaw

open Foundation

/-- The request that a frame answers. -/
def DownFrame.request? : DownFrame → Option ClientRequest
  | helloAck _ => none
  | answer request _ => some request

namespace ClientCalls

variable {calls next : ClientCalls} {action : ClientAction} {request : ClientRequest}

/-- The answer to a request is on its way. -/
def Answered (calls : ClientCalls) (request : ClientRequest) : Prop :=
  request ∈ calls.down.filterMap DownFrame.request?

/-- The HELLO of the connection is the next frame to be answered, or it is accepted. -/
def Welcomed (calls : ClientCalls) : Prop :=
  match calls.link with
  | .offline | .opened => False
  | .greeting => calls.down.head? = some (.helloAck true) ∨
      calls.down = [] ∧ calls.up.head? = some .hello
  | .resuming | .online _ => True

/-- The request of a future is on the connection, with its answer to be read. -/
def OnCourse (calls : ClientCalls) (request : ClientRequest) : Prop :=
  calls.isOpen = true ∧ calls.Welcomed ∧ (.request request ∈ calls.up ∨ calls.Answered request) ∨
    calls.link = .online [] ∧ calls.Answered request

/-- Steps on the current connection. -/
def onConnection : Machine.Guard ClientCalls ClientAction := fun _ action =>
  action ≠ .connect ∧ action ≠ .drop

/-- The future can be answered on the current connection. -/
def CanBeAnswered (calls : ClientCalls) (request : ClientRequest) : Prop :=
  ∃ later, machine.Steps onConnection calls later ∧ request ∉ later.waiters

/-! ## Requests on their course are answered -/

/-- The frames that the connection has still to carry before everything on it is read. -/
def distance (calls : ClientCalls) : Nat :=
  (match calls.link with
    | .offline | .opened => 0
    | .greeting => 3 * calls.pending.length + 2
    | .resuming => 3 * calls.pending.length + 1
    | .online rest => 3 * rest.length) + 2 * calls.up.length + calls.down.length

/-- A step brings the answer to a request nearer. -/
def Advances (calls : ClientCalls) (request : ClientRequest) : Prop :=
  ∃ action next, onConnection calls action ∧ calls.step action = some next ∧
    (request ∉ next.waiters ∨ next.OnCourse request ∧ next.distance < calls.distance)

/-- Reading an answer leaves the connection. -/
theorem settle_connection (calls : ClientCalls) (request : ClientRequest) (status : String) :
    (calls.settle request status).link = calls.link ∧
      (calls.settle request status).isOpen = calls.isOpen ∧
      (calls.settle request status).up = calls.up ∧
      (calls.settle request status).down = calls.down := by
  unfold settle
  dsimp only
  repeat' split
  all_goals exact ⟨rfl, rfl, rfl, rfl⟩

/-- An answer takes the future of its request, and no other one. -/
theorem settle_waiters (calls : ClientCalls) (request : ClientRequest) (status : String) :
    (calls.settle request status).waiters = calls.waiters.filter (· ≠ request) := by
  unfold settle
  dsimp only
  repeat' split
  all_goals rfl

/-- An answer leaves the other pending frames, and the calls that are sending. -/
theorem settle_tables (calls : ClientCalls) (request : ClientRequest) (status : String) :
    (∀ other, other ≠ request → other ∈ calls.pending →
      other ∈ (calls.settle request status).pending) ∧
    (calls.settle request status).sending = calls.sending := by
  unfold settle
  dsimp only
  split
  · exact ⟨fun _ _ => id, rfl⟩
  · split
    · exact ⟨fun other different pending =>
        List.mem_filter.mpr ⟨pending, decide_eq_true different⟩, rfl⟩
    · split <;> exact ⟨fun _ _ => id, rfl⟩

/-- The next frame is read. -/
theorem advances_read (quiet : calls.link = .online []) {frame : DownFrame} {rest : List DownFrame}
    (down : calls.down = frame :: rest)
    (course : ∀ read : ClientCalls, read.link = calls.link → read.isOpen = calls.isOpen →
      read.up = calls.up → read.down = rest → frame.request? ≠ some request →
      read.OnCourse request) : calls.Advances request := by
  have nearer (read : ClientCalls) (link : read.link = calls.link) (up : read.up = calls.up)
      (left : read.down = rest) : read.distance < calls.distance := by
    simp only [distance, link, quiet, up, left, down, List.length_cons]
    exact Nat.lt_succ_self _
  cases frame with
  | helloAck ok =>
      refine ⟨.receive, { calls with down := rest }, ⟨nofun, nofun⟩, ?_, Or.inr ⟨?_, ?_⟩⟩
      · simp only [step, quiet, down]
      · exact course _ rfl rfl rfl rfl nofun
      · exact nearer _ rfl rfl rfl
  | answer answered status =>
      obtain ⟨link, isOpen, up, left⟩ :=
        settle_connection { calls with down := rest } answered status
      refine ⟨.receive, { calls with down := rest }.settle answered status, ⟨nofun, nofun⟩, ?_, ?_⟩
      · simp only [step, quiet, down]
      · by_cases same : answered = request
        · refine Or.inl fun waits => ?_
          rw [settle_waiters, same] at waits
          exact of_decide_eq_true (List.mem_filter.mp waits).2 rfl
        · refine Or.inr ⟨course _ link isOpen up left ?_, nearer _ link up left⟩
          exact fun equal => same (Option.some.inj equal)

/-- The next frame is answered. -/
theorem advances_serve {frame : UpFrame} {rest : List UpFrame} (up : calls.up = frame :: rest)
    (course : { calls with up := rest, down := calls.down ++ [reply "ok" frame] }.OnCourse request) :
    calls.Advances request := by
  refine ⟨.serve "ok", _, ⟨nofun, nofun⟩, ?_, Or.inr ⟨course, ?_⟩⟩
  · simp only [step, up]
  · simp only [distance, up, List.length_cons, List.length_append, List.length_nil]
    omega

/-- The answer is on its way when the request is served. -/
theorem answered_serve {frame : UpFrame} {rest : List UpFrame} (up : calls.up = frame :: rest)
    (carried : .request request ∈ calls.up ∨ calls.Answered request) (status : String) :
    let served : ClientCalls :=
      { calls with up := rest, down := calls.down ++ [reply status frame] }
    .request request ∈ served.up ∨ served.Answered request := by
  intro served
  rcases carried with waits | answered
  · rw [up] at waits
    rcases List.mem_cons.mp waits with rfl | behind
    · refine Or.inr ?_
      rw [Answered, List.filterMap_append]
      exact List.mem_append_right _ (List.mem_singleton_self _)
    · exact Or.inl behind
  · refine Or.inr ?_
    rw [Answered, List.filterMap_append]
    exact List.mem_append_left _ answered

/-- An answer that is not read stays on its way. -/
theorem answered_rest {frame : DownFrame} {rest : List DownFrame} (down : calls.down = frame :: rest)
    (other : frame.request? ≠ some request) (answered : calls.Answered request) :
    request ∈ rest.filterMap DownFrame.request? := by
  rw [Answered, down] at answered
  cases shown : frame.request? with
  | none => rwa [List.filterMap_cons_none shown] at answered
  | some first =>
      rw [List.filterMap_cons_some shown] at answered
      rcases List.mem_cons.mp answered with rfl | behind
      · exact absurd shown other
      · exact behind

/-- A request on its course can make a step towards its answer. -/
theorem OnCourse.advance (course : calls.OnCourse request) : calls.Advances request := by
  rcases course with ⟨isOpen, welcomed, carried⟩ | ⟨quiet, answered⟩
  · cases link : calls.link with
    | offline | opened =>
        rw [Welcomed, link] at welcomed
        exact absurd welcomed not_false
    | greeting =>
        rw [Welcomed, link] at welcomed
        rcases welcomed with accepted | ⟨down, hello⟩
        · obtain ⟨rest, down⟩ := List.head?_eq_some_iff.mp accepted
          refine ⟨.greeted, { calls with link := .resuming, down := rest }, ⟨nofun, nofun⟩, ?_, ?_⟩
          · simp only [step, link, down]
          · refine Or.inr ⟨Or.inl ⟨isOpen, trivial, carried.imp_right ?_⟩, ?_⟩
            · exact answered_rest down nofun
            · simp only [distance, link, down, List.length_cons]
              omega
        · obtain ⟨rest, up⟩ := List.head?_eq_some_iff.mp hello
          refine advances_serve up (Or.inl ⟨isOpen, ?_, answered_serve up carried "ok"⟩)
          simp only [Welcomed, link, down]
          exact Or.inl rfl
    | resuming =>
        refine ⟨.resumed, { calls with link := .online calls.pending }, ⟨nofun, nofun⟩, ?_, ?_⟩
        · simp only [step, link, isOpen, and_self, ↓reduceIte]
        · refine Or.inr ⟨Or.inl ⟨isOpen, trivial, carried⟩, ?_⟩
          simp only [distance, link]
          omega
    | online resends =>
        cases resends with
        | cons frame rest =>
            refine ⟨.resend, { calls with link := .online rest, up := calls.up ++ [.request frame] },
              ⟨nofun, nofun⟩, ?_, Or.inr ⟨Or.inl ⟨isOpen, trivial, ?_⟩, ?_⟩⟩
            · simp only [step, link, isOpen, ↓reduceIte]
            · exact carried.imp_left (List.mem_append_left _)
            · simp only [distance, link, List.length_append, List.length_cons, List.length_nil]
              omega
        | nil =>
            cases down : calls.down with
            | cons frame rest =>
                refine advances_read link down fun read same stillOpen up left other => ?_
                refine Or.inl ⟨stillOpen.trans isOpen, ?_, ?_⟩
                · rw [Welcomed, same, link]
                  exact trivial
                · rw [up, Answered, left]
                  exact carried.imp_right (answered_rest down other)
            | nil =>
                have waits : .request request ∈ calls.up := carried.resolve_right (by
                  rw [Answered, down]
                  exact List.not_mem_nil)
                obtain ⟨frame, rest, up⟩ := List.exists_cons_of_ne_nil (List.ne_nil_of_mem waits)
                refine advances_serve up (Or.inl ⟨isOpen, ?_, answered_serve up carried "ok"⟩)
                simp only [Welcomed, link]
  · obtain ⟨frame, rest, down⟩ : ∃ frame rest, calls.down = frame :: rest := by
      refine List.exists_cons_of_ne_nil fun none => ?_
      rw [Answered, none] at answered
      exact List.not_mem_nil answered
    refine advances_read quiet down fun read link _ _ left other => Or.inr ⟨link.trans quiet, ?_⟩
    rw [Answered, left]
    exact answered_rest down other answered

/-- A request on its course can be answered. -/
theorem OnCourse.canBeAnswered (course : calls.OnCourse request) : calls.CanBeAnswered request := by
  induction far : calls.distance using Nat.strongRecOn generalizing calls with
  | _ distance ih =>
      obtain ⟨action, next, allowed, stepped, answered | ⟨course, nearer⟩⟩ := course.advance
      · exact ⟨next, .tail (.refl calls) allowed stepped, answered⟩
      · obtain ⟨later, steps, answered⟩ := ih next.distance (far ▸ nearer) course rfl
        exact ⟨later, .head allowed stepped steps, answered⟩

/-! ## Runs -/

/-- Futures of requests that are not sent again are being sent. -/
def Unsent (calls : ClientCalls) : Prop :=
  ∀ request ∈ calls.waiters, request.kind ≠ .inbound → request ∈ calls.sending

/-- Futures of requests that are not sent again are being sent, or their answers arrive and can be
read. -/
def Arriving (calls : ClientCalls) (arriving : Nat) : Prop :=
  ∀ request ∈ calls.waiters, request.kind ≠ .inbound → request ∈ calls.sending ∨
    calls.link = .online [] ∧ request ∈ (calls.down.take arriving).filterMap DownFrame.request?

/-- No connection is lost or refused under a request that is not sent again, and none is sent without a
connection. -/
def unbroken : Machine.Guard ClientCalls ClientAction := fun calls action =>
  match action with
  | .drop => calls.Unsent
  | .close arriving => calls.Arriving arriving
  | .serve status => calls.up.head? = some .hello → status ≠ "ok" → calls.Unsent
  | .send request succeeds => request.kind ≠ .inbound → calls.Welcomed ∧ calls.Transmits succeeds
  | _ => True

/-- Every future belongs to a request that is being sent, is on its course, or will be sent again. -/
structure Reconciled (calls : ClientCalls) : Prop where
  inbound : ∀ request ∈ calls.waiters, request.kind = .inbound → request ∈ calls.pending
  others : ∀ request ∈ calls.waiters, request.kind ≠ .inbound →
    request ∈ calls.sending ∨ calls.OnCourse request

/-- At the start no request waits. -/
theorem reconciled_initial : ({} : ClientCalls).Reconciled where
  inbound := nofun
  others := nofun

/-- The connection goes on with the requests that are on their course. -/
theorem Reconciled.relink (reconciled : calls.Reconciled) {after : ClientCalls}
    (waiters : after.waiters = calls.waiters) (pending : after.pending = calls.pending)
    (sending : after.sending = calls.sending)
    (course : ∀ request ∈ calls.waiters, request.kind ≠ .inbound → calls.OnCourse request →
      request ∈ calls.sending ∨ after.OnCourse request) : after.Reconciled := by
  constructor
  · rw [waiters, pending]
    exact reconciled.inbound
  · rw [waiters, sending]
    intro request waits other
    rcases reconciled.others request waits other with unsent | onCourse
    · exact Or.inl unsent
    · exact course request waits other onCourse

/-- Without a connection no request is on its course. -/
theorem not_onCourse_offline (idle : calls.link = .offline ∨ calls.link = .opened) :
    ¬calls.OnCourse request := by
  rintro (⟨_, welcomed, _⟩ | ⟨online, _⟩)
  · rw [Welcomed] at welcomed
    rcases idle with link | link <;> rw [link] at welcomed <;> exact welcomed
  · rcases idle with link | link <;> rw [link] at online <;> cases online

/-- A new request waits, and is on its course. -/
theorem Reconciled.begin (reconciled : calls.Reconciled) (request : ClientRequest) :
    (calls.begin request).Reconciled := by
  constructor
  · intro other waits inbound
    simp only [ClientCalls.begin] at waits ⊢
    rcases List.mem_append.mp waits with earlier | now
    · have pending := reconciled.inbound other earlier inbound
      split
      · exact List.mem_append_left _ pending
      · exact pending
    · rw [List.mem_singleton] at now
      rw [if_pos (now ▸ inbound)]
      exact List.mem_append_right _ (List.mem_singleton.mpr now)
  · intro other waits kind
    rcases List.mem_append.mp waits with earlier | now
    · rcases reconciled.others other earlier kind with unsent | onCourse
      · exact Or.inl (List.mem_append_left _ unsent)
      · exact Or.inr onCourse
    · exact Or.inl (List.mem_append_right _ now)

/-- Another frame on the connection does not come before HELLO. -/
theorem Welcomed.append (welcomed : calls.Welcomed) (frame : UpFrame) :
    Welcomed { calls with up := calls.up ++ [frame] } := by
  rw [Welcomed] at welcomed ⊢
  cases link : calls.link with
  | offline | opened =>
      rw [link] at welcomed
      exact absurd welcomed not_false
  | greeting =>
      rw [link] at welcomed
      refine welcomed.imp_right (And.imp_right fun hello => ?_)
      obtain ⟨rest, up⟩ := List.head?_eq_some_iff.mp hello
      rw [up]
      rfl
  | resuming | online => exact trivial

/-- One frame more on the way up takes no request off its course. -/
theorem OnCourse.append (course : calls.OnCourse request) (frame : UpFrame) :
    OnCourse { calls with up := calls.up ++ [frame] } request :=
  course.imp_left fun ⟨isOpen, welcomed, carried⟩ =>
    ⟨isOpen, welcomed.append frame, carried.imp_left (List.mem_append_left _)⟩

/-- A request that is put on the connection is on its course. -/
theorem Reconciled.transmit (reconciled : calls.Reconciled) {succeeds : Bool}
    (allowed : request.kind ≠ .inbound → calls.Welcomed ∧ calls.Transmits succeeds) :
    (calls.transmit request succeeds).Reconciled := by
  unfold ClientCalls.transmit
  dsimp only
  split
  · next transmits =>
      refine ⟨reconciled.inbound, fun other waits kind => ?_⟩
      by_cases same : other = request
      · subst same
        refine Or.inr (Or.inl ⟨transmits.2.1, (allowed kind).1.append (.request other), Or.inl ?_⟩)
        exact List.mem_append_right _ (List.mem_singleton_self _)
      · rcases reconciled.others other waits kind with unsent | onCourse
        · exact Or.inl ((List.mem_erase_of_ne same).mpr unsent)
        · exact Or.inr (onCourse.append (.request request))
  · next fails =>
      have inbound : request.kind = .inbound := by
        by_contra kind
        exact fails (allowed kind).2
      rw [if_pos inbound]
      refine ⟨reconciled.inbound, fun other waits kind => ?_⟩
      rcases reconciled.others other waits kind with unsent | onCourse
      · refine Or.inl ((List.mem_erase_of_ne ?_).mpr unsent)
        rintro rfl
        exact kind inbound
      · exact Or.inr onCourse

/-- A frame is read that answers another request. -/
theorem OnCourse.read (course : calls.OnCourse request)
    {frame : DownFrame} {rest : List DownFrame} (down : calls.down = frame :: rest)
    (other : frame.request? ≠ some request) (link : next.link = .online [])
    (isOpen : next.isOpen = calls.isOpen) (up : next.up = calls.up) (left : next.down = rest) :
    next.OnCourse request := by
  have answered (before : calls.Answered request) : next.Answered request := by
    rw [Answered, left]
    exact answered_rest down other before
  rcases course with ⟨stillOpen, _, waits | before⟩ | ⟨_, before⟩
  · refine Or.inl ⟨isOpen.trans stillOpen, ?_, Or.inl (up ▸ waits)⟩
    rw [Welcomed, link]
    exact trivial
  · exact Or.inr ⟨link, answered before⟩
  · exact Or.inr ⟨link, answered before⟩

/-- An answer settles its request and takes no other one off its course. -/
theorem Reconciled.settle (reconciled : calls.Reconciled) (quiet : calls.link = .online [])
    {status : String} {rest : List DownFrame} (down : calls.down = .answer request status :: rest) :
    ({ calls with down := rest }.settle request status).Reconciled := by
  obtain ⟨link, isOpen, up, left⟩ := settle_connection { calls with down := rest } request status
  have others : ∀ other ∈ ({ calls with down := rest }.settle request status).waiters,
      other ≠ request ∧ other ∈ calls.waiters := by
    intro other waits
    rw [settle_waiters] at waits
    obtain ⟨waits, different⟩ := List.mem_filter.mp waits
    exact ⟨of_decide_eq_true different, waits⟩
  obtain ⟨pending, sending⟩ := settle_tables { calls with down := rest } request status
  constructor
  · intro other waits inbound
    obtain ⟨different, waits⟩ := others other waits
    exact pending other different (reconciled.inbound other waits inbound)
  · intro other waits kind
    obtain ⟨different, waits⟩ := others other waits
    rw [sending]
    refine (reconciled.others other waits kind).imp_right fun onCourse => ?_
    exact onCourse.read down (fun same => different (Option.some.inj same).symm) (link.trans quiet)
      isOpen up left

/-- A frame is answered, and HELLO is accepted. -/
theorem OnCourse.serve (course : calls.OnCourse request) {frame : UpFrame} {rest : List UpFrame}
    (up : calls.up = frame :: rest) {status : String}
    (accepted : ¬(calls.up.head? = some .hello ∧ status ≠ "ok")) :
    OnCourse { calls with up := rest, down := calls.down ++ [reply status frame] } request := by
  rcases course with ⟨isOpen, welcomed, carried⟩ | ⟨quiet, answered⟩
  · refine Or.inl ⟨isOpen, ?_, answered_serve up carried status⟩
    rw [Welcomed] at welcomed ⊢
    cases link : calls.link with
    | offline | opened =>
        rw [link] at welcomed
        exact absurd welcomed not_false
    | greeting =>
        rw [link] at welcomed
        refine Or.inl ?_
        rcases welcomed with before | ⟨down, hello⟩
        · obtain ⟨behind, down⟩ := List.head?_eq_some_iff.mp before
          rw [down]
          rfl
        · have ok : status = "ok" := by
            by_contra refused
            exact accepted ⟨hello, refused⟩
          rw [up] at hello
          cases hello
          rw [down, ok]
          rfl
    | resuming | online => exact trivial
  · refine Or.inr ⟨quiet, ?_⟩
    rw [Answered, List.filterMap_append]
    exact List.mem_append_left _ answered

/-- Every step without a break under a request keeps the waiters reconciled. -/
theorem Reconciled.step (reconciled : calls.Reconciled) (allowed : unbroken calls action)
    (stepped : calls.step action = some next) : next.Reconciled := by
  cases action with
  | connect =>
      simp only [ClientCalls.step] at stepped
      split at stepped
      · next offline =>
          cases stepped
          refine reconciled.relink rfl rfl rfl fun request _ _ onCourse => ?_
          exact absurd onCourse (not_onCourse_offline (Or.inl offline))
      · cases stepped
  | hello =>
      simp only [ClientCalls.step] at stepped
      split at stepped
      · next opened =>
          cases stepped
          refine reconciled.relink rfl rfl rfl fun request _ _ onCourse => ?_
          exact absurd onCourse (not_onCourse_offline (Or.inr opened.1))
      · cases stepped
  | greeted =>
      simp only [ClientCalls.step] at stepped
      split at stepped
      · next rest greeting down =>
          cases stepped
          refine reconciled.relink rfl rfl rfl fun request _ _ onCourse => Or.inr ?_
          rcases onCourse with ⟨isOpen, _, carried⟩ | ⟨online, _⟩
          · exact Or.inl ⟨isOpen, trivial, carried.imp_right (answered_rest down nofun)⟩
          · rw [greeting] at online
            cases online
      · cases stepped
  | resumed =>
      simp only [ClientCalls.step] at stepped
      split at stepped
      · next resuming =>
          cases stepped
          refine reconciled.relink rfl rfl rfl fun request _ _ onCourse => Or.inr ?_
          rcases onCourse with ⟨isOpen, _, carried⟩ | ⟨online, _⟩
          · exact Or.inl ⟨isOpen, trivial, carried⟩
          · rw [resuming.1] at online
            cases online
      · cases stepped
  | resend =>
      simp only [ClientCalls.step] at stepped
      split at stepped
      · next frame rest link =>
          split at stepped
          · cases stepped
            refine reconciled.relink rfl rfl rfl fun request _ _ onCourse => Or.inr ?_
            rcases onCourse with ⟨isOpen, _, carried⟩ | ⟨online, _⟩
            · exact Or.inl ⟨isOpen, trivial, carried.imp_left (List.mem_append_left _)⟩
            · rw [link] at online
              cases online
          · cases stepped
      · cases stepped
  | close arriving =>
      simp only [ClientCalls.step] at stepped
      split at stepped
      · cases stepped
        refine reconciled.relink rfl rfl rfl fun request waits kind _ => ?_
        exact (allowed request waits kind).imp_right fun arrives => Or.inr arrives
      · cases stepped
  | drop =>
      simp only [ClientCalls.step] at stepped
      split at stepped
      · cases stepped
      · cases stepped
        exact reconciled.relink rfl rfl rfl fun request waits kind _ =>
          Or.inl (allowed request waits kind)
  | request request =>
      simp only [ClientCalls.step] at stepped
      split at stepped
      · cases stepped
      · cases stepped
        exact reconciled.begin request
  | send request succeeds =>
      simp only [ClientCalls.step] at stepped
      split at stepped
      · cases stepped
        exact reconciled.transmit allowed
      · cases stepped
  | serve status =>
      simp only [ClientCalls.step] at stepped
      split at stepped
      · cases stepped
      · next frame rest up =>
          cases stepped
          refine reconciled.relink rfl rfl rfl fun request waits kind onCourse => ?_
          by_cases refused : calls.up.head? = some .hello ∧ status ≠ "ok"
          · exact Or.inl (allowed refused.1 refused.2 request waits kind)
          · exact Or.inr (onCourse.serve up refused)
  | receive =>
      simp only [ClientCalls.step] at stepped
      split at stepped
      · next quiet down =>
          cases stepped
          exact reconciled.settle quiet down
      · next quiet down =>
          cases stepped
          refine reconciled.relink rfl rfl rfl fun request _ _ onCourse => Or.inr ?_
          exact onCourse.read down nofun quiet rfl rfl rfl
      · cases stepped

/-- In runs without such a break every waiter is on its course. -/
theorem reconciled_of_reachable (reached : machine.Reachable unbroken calls) : calls.Reconciled :=
  reached.invariant (fun _ started => started ▸ reconciled_initial)
    fun _ _ _ reconciled allowed stepped => reconciled.step allowed stepped

/-! ## Orphaned futures -/

/-- A future whose request is nowhere. -/
structure Orphaned (calls : ClientCalls) (request : ClientRequest) : Prop where
  waits : request ∈ calls.waiters
  created : request ∈ calls.created
  sending : request ∉ calls.sending
  up : .request request ∉ calls.up
  down : ¬calls.Answered request
  pending : request ∉ calls.pending
  resends : ∀ rest, calls.link = .online rest → request ∉ rest

/-- The connection changes, and no frame of the request is on it. -/
theorem Orphaned.relink (orphaned : calls.Orphaned request) {after : ClientCalls}
    (waiters : after.waiters = calls.waiters) (created : after.created = calls.created)
    (sending : after.sending = calls.sending) (pending : after.pending = calls.pending)
    (up : .request request ∉ after.up) (down : ¬after.Answered request)
    (resends : ∀ rest, after.link = .online rest → request ∉ rest) : after.Orphaned request :=
  ⟨waiters ▸ orphaned.waits, created ▸ orphaned.created, sending ▸ orphaned.sending, up, down,
    pending ▸ orphaned.pending, resends⟩

/-- An orphaned request stays orphaned. -/
theorem Orphaned.step (orphaned : calls.Orphaned request)
    (stepped : calls.step action = some next) : next.Orphaned request := by
  have unanswered {rest : List DownFrame} (part : ∀ frame ∈ rest, frame ∈ calls.down) :
      request ∉ rest.filterMap DownFrame.request? := by
    intro answered
    obtain ⟨frame, inside, shown⟩ := List.mem_filterMap.mp answered
    exact orphaned.down (List.mem_filterMap.mpr ⟨frame, part frame inside, shown⟩)
  cases action with
  | connect =>
      simp only [ClientCalls.step] at stepped
      split at stepped <;> cases stepped
      exact orphaned.relink rfl rfl rfl rfl List.not_mem_nil List.not_mem_nil nofun
  | hello =>
      simp only [ClientCalls.step] at stepped
      split at stepped <;> cases stepped
      refine orphaned.relink rfl rfl rfl rfl ?_ orphaned.down nofun
      intro member
      exact orphaned.up ((List.mem_append.mp member).resolve_right (by simp))
  | greeted =>
      simp only [ClientCalls.step] at stepped
      split at stepped
      · next down =>
          cases stepped
          refine orphaned.relink rfl rfl rfl rfl orphaned.up (unanswered ?_) nofun
          exact fun frame member => down ▸ List.mem_cons_of_mem _ member
      · cases stepped
  | resumed =>
      simp only [ClientCalls.step] at stepped
      split at stepped <;> cases stepped
      refine orphaned.relink rfl rfl rfl rfl orphaned.up orphaned.down ?_
      rintro rest ⟨⟩
      exact orphaned.pending
  | resend =>
      simp only [ClientCalls.step] at stepped
      split at stepped
      · next frame rest link =>
          split at stepped <;> cases stepped
          have absent := orphaned.resends _ link
          refine orphaned.relink rfl rfl rfl rfl ?_ orphaned.down ?_
          · intro member
            rcases List.mem_append.mp member with earlier | now
            · exact orphaned.up earlier
            · cases List.mem_singleton.mp now
              exact absent List.mem_cons_self
          · rintro _ ⟨⟩ member
            exact absent (List.mem_cons_of_mem _ member)
      · cases stepped
  | close arriving =>
      simp only [ClientCalls.step] at stepped
      split at stepped <;> cases stepped
      refine orphaned.relink rfl rfl rfl rfl List.not_mem_nil (unanswered ?_) orphaned.resends
      exact fun frame => List.mem_of_mem_take
  | drop =>
      simp only [ClientCalls.step] at stepped
      split at stepped <;> cases stepped
      exact orphaned.relink rfl rfl rfl rfl List.not_mem_nil List.not_mem_nil nofun
  | request other =>
      simp only [ClientCalls.step] at stepped
      split at stepped
      · cases stepped
      · next new =>
          cases stepped
          have different : request ≠ other := fun same => new (same ▸ orphaned.created)
          have absent {list : List ClientRequest} (before : request ∉ list) :
              request ∉ list ++ [other] := by
            simp [before, different]
          refine ⟨List.mem_append_left _ orphaned.waits, List.mem_append_left _ orphaned.created,
            absent orphaned.sending, orphaned.up, orphaned.down, ?_, orphaned.resends⟩
          simp only [ClientCalls.begin]
          split
          · exact absent orphaned.pending
          · exact orphaned.pending
  | send other succeeds =>
      simp only [ClientCalls.step] at stepped
      split at stepped
      · next sending =>
          cases stepped
          have different : request ≠ other := by
            rintro rfl
            exact orphaned.sending sending
          have left : request ∉ calls.sending.erase other :=
            fun member => orphaned.sending (List.mem_of_mem_erase member)
          have up : UpFrame.request request ∉ calls.up ++ [.request other] := by
            simp [orphaned.up, different]
          unfold transmit
          dsimp only
          split
          · exact ⟨orphaned.waits, orphaned.created, left, up, orphaned.down, orphaned.pending,
              orphaned.resends⟩
          · split <;> exact ⟨orphaned.waits, orphaned.created, left, orphaned.up, orphaned.down,
              orphaned.pending, orphaned.resends⟩
      · cases stepped
  | serve status =>
      simp only [ClientCalls.step] at stepped
      split at stepped
      · cases stepped
      · next frame rest up =>
          cases stepped
          refine orphaned.relink rfl rfl rfl rfl ?_ ?_ orphaned.resends
          · exact fun member => orphaned.up (up ▸ List.mem_cons_of_mem _ member)
          · rw [Answered, List.filterMap_append, List.mem_append, not_or]
            refine ⟨orphaned.down, ?_⟩
            cases frame with
            | hello => exact List.not_mem_nil
            | request other =>
                intro member
                have same : request = other := List.mem_singleton.mp member
                exact orphaned.up (up ▸ same ▸ List.mem_cons_self)
  | receive =>
      simp only [ClientCalls.step] at stepped
      split at stepped
      · next other status rest quiet down =>
          cases stepped
          have different : request ≠ other := by
            rintro rfl
            refine orphaned.down ?_
            rw [Answered, down]
            exact List.mem_cons_self
          have waits : request ∈ calls.waiters.filter (· ≠ other) :=
            List.mem_filter.mpr ⟨orphaned.waits, decide_eq_true different⟩
          have left : request ∉ rest.filterMap DownFrame.request? :=
            unanswered fun frame member => down ▸ List.mem_cons_of_mem _ member
          have pending : request ∉ calls.pending.filter (· ≠ other) :=
            fun member => orphaned.pending (List.mem_filter.mp member).1
          unfold settle
          dsimp only
          split
          · exact ⟨waits, orphaned.created, orphaned.sending, orphaned.up, left, orphaned.pending,
              orphaned.resends⟩
          · split
            · exact ⟨waits, orphaned.created, orphaned.sending, orphaned.up, left, pending,
                orphaned.resends⟩
            · split <;> exact ⟨waits, orphaned.created, orphaned.sending, orphaned.up, left,
                orphaned.pending, orphaned.resends⟩
      · next quiet down =>
          cases stepped
          refine orphaned.relink rfl rfl rfl rfl orphaned.up (unanswered ?_) orphaned.resends
          exact fun frame member => down ▸ List.mem_cons_of_mem _ member
      · cases stepped

/-- No frame brings an orphaned future a result. -/
theorem Orphaned.forever (orphaned : calls.Orphaned request) {later : ClientCalls}
    (steps : machine.Steps Machine.anyStep calls later) : later.Orphaned request :=
  have kept : ∀ before action after, Orphaned before request → Machine.anyStep before action →
      machine.step before action = some after → Orphaned after request :=
    fun _ _ _ held _ stepped => held.step stepped
  steps.invariant kept orphaned

end ClientCalls

/-- **No orphaned waiter.** In runs in which no connection is lost or refused under a request that is
not sent again, and none is sent without a connection: every future without a result belongs to a
request that is being sent, can be answered on the current connection, or is among the frames that the
next handshake sends again. -/
theorem no_orphaned_waiter {calls : ClientCalls}
    (reached : ClientCalls.machine.Reachable ClientCalls.unbroken calls) :
    ∀ request ∈ calls.waiters, request ∈ calls.sending ∨ calls.CanBeAnswered request ∨
      request ∈ calls.pending := by
  intro request waits
  have reconciled := ClientCalls.reconciled_of_reachable reached
  by_cases inbound : request.kind = .inbound
  · exact Or.inr (Or.inr (reconciled.inbound request waits inbound))
  · refine (reconciled.others request waits inbound).imp_right fun onCourse => ?_
    exact Or.inl onCourse.canBeAnswered

namespace ClientCalls

/-- The request for a session. -/
def openRequest : ClientRequest := ⟨.sessionOpen, "sess_open_1"⟩

/-- A session is to be opened on a new connection. -/
def openRun : List ClientAction :=
  [.connect, .hello, .serve "ok", .greeted, .resumed, .request openRequest, .send openRequest true]

/-- The steps of such a run before an answer: nothing is lost or refused. -/
def carried : Machine.Guard ClientCalls ClientAction := fun calls action =>
  match action with
  | .drop | .close _ => False
  | .serve status => status = "ok"
  | .send request succeeds => request.kind ≠ .inbound →
      calls.link = .online [] ∧ calls.Transmits succeeds
  | _ => True

instance : DecidableRel carried := fun _ action =>
  match action with
  | .drop | .close _ => inferInstanceAs (Decidable False)
  | .serve status => inferInstanceAs (Decidable (status = "ok"))
  | .send _ _ => inferInstanceAs (Decidable (_ → _ ∧ _))
  | .connect | .hello | .greeted | .resumed | .resend | .request _ | .receive =>
      inferInstanceAs (Decidable True)

/-- A run in which nothing is lost or refused has no break under a request. -/
theorem unbroken_of_carried (calls : ClientCalls) (action : ClientAction)
    (allowed : carried calls action) : unbroken calls action := by
  cases action with
  | drop | close => exact absurd allowed not_false
  | serve status => exact fun _ refused => absurd allowed refused
  | send request succeeds =>
      intro kind
      obtain ⟨link, transmits⟩ := allowed kind
      refine ⟨?_, transmits⟩
      rw [Welcomed, link]
      exact trivial
  | connect | hello | greeted | resumed | resend | request | receive => exact trivial

/-- The client after the request for a session. -/
def openingCalls : ClientCalls := (machine.replay carried {} openRun).getD {}

/-- The connection is lost before the answer. -/
def lostCalls : ClientCalls := (machine.replay Machine.anyStep {} (openRun ++ [.drop])).getD {}

end ClientCalls

/-- A request that has been sent can be answered. -/
theorem no_orphaned_waiter_open :
    ClientCalls.openingCalls.CanBeAnswered ClientCalls.openRequest := by
  have replayed : ClientCalls.machine.replay ClientCalls.carried {} ClientCalls.openRun =
      some ClientCalls.openingCalls := rfl
  have reached := (Machine.Reachable.of_replay rfl replayed).mono ClientCalls.unbroken_of_carried
  have reconciled := no_orphaned_waiter reached ClientCalls.openRequest (by decide)
  exact (reconciled.resolve_left (by decide)).resolve_right (by decide)

/-- The caller waits for an answer that no later frame can bring. -/
theorem session_waiter_orphaned : ∃ calls, ClientCalls.machine.Reachable Machine.anyStep calls ∧
    ClientCalls.openRequest ∈ calls.waiters ∧ ClientCalls.openRequest ∉ calls.sending ∧
    ClientCalls.openRequest ∉ calls.pending ∧ ¬calls.CanBeAnswered ClientCalls.openRequest ∧
    ∀ later, ClientCalls.machine.Steps Machine.anyStep calls later →
      ClientCalls.openRequest ∈ later.waiters := by
  have replayed : ClientCalls.machine.replay Machine.anyStep {} (ClientCalls.openRun ++ [.drop]) =
      some ClientCalls.lostCalls := rfl
  have orphaned : ClientCalls.lostCalls.Orphaned ClientCalls.openRequest :=
    ⟨by decide, by decide, by decide, by decide, List.not_mem_nil, by decide, nofun⟩
  refine ⟨ClientCalls.lostCalls, .of_replay rfl replayed, orphaned.waits, orphaned.sending,
    orphaned.pending, ?_, fun later steps => (orphaned.forever steps).waits⟩
  rintro ⟨later, steps, answered⟩
  exact answered (orphaned.forever (steps.mono fun _ _ _ => trivial)).waits

end FairyClaw
