import FairyClaw.Bridge.ClientCalls

/-! # Pending inbound frames

A frame that is answered with another status than `ok` or `duplicate`, or that cannot be sent, stays
pending although its call has raised, so the next handshake sends it again
(`FairyClaw.failed_frame_resent`). In runs without either, the pending frames are those whose calls
still wait for their answer, and the handshake sends no frame of a call that has raised
(`FairyClaw.pending_iff_waiting`).
-/

namespace FairyClaw

open Foundation

namespace ClientCalls

variable {calls next : ClientCalls} {action : ClientAction} {request : ClientRequest}

/-- A call of `send_inbound` waits for its answer. -/
def Waiting (calls : ClientCalls) (request : ClientRequest) : Prop :=
  request.kind = .inbound ∧ request ∈ calls.waiters ∧ request ∉ calls.raised

instance : DecidablePred calls.Waiting := fun _ =>
  inferInstanceAs (Decidable (_ ∧ _ ∧ _))

/-- The answer that is read next takes its frame, if it is pending. -/
def AnswerTakes (calls : ClientCalls) : Prop :=
  match calls.down with
  | .answer request status :: _ => request ∈ calls.pending → SettledStatus status
  | _ => True

instance : DecidablePred AnswerTakes := fun calls =>
  match same : calls.down with
  | .answer request status :: _ =>
      decidable_of_iff (request ∈ calls.pending → SettledStatus status) (by rw [AnswerTakes, same])
  | .helloAck _ :: _ | [] => decidable_of_iff True (by rw [AnswerTakes, same])

/-- The answers to pending frames take them, and pending frames can be sent. -/
def accepted : Machine.Guard ClientCalls ClientAction := fun calls action =>
  match action with
  | .receive => calls.AnswerTakes
  | .send request succeeds => request ∈ calls.pending → calls.Transmits succeeds
  | _ => True

instance : DecidableRel accepted := fun calls action =>
  match action with
  | .receive => inferInstanceAs (Decidable calls.AnswerTakes)
  | .send _ _ => inferInstanceAs (Decidable (_ → _))
  | .connect | .hello | .greeted | .resumed | .resend | .close _ | .drop | .request _ | .serve _ =>
      inferInstanceAs (Decidable True)

/-- The pending frames are those of waiting calls, and only they are sent again. -/
structure Exact (calls : ClientCalls) : Prop where
  pending : ∀ request, request ∈ calls.pending ↔ calls.Waiting request
  resends : ∀ rest, calls.link = .online rest → ∀ request ∈ rest, request ∈ calls.pending
  raised : ∀ request ∈ calls.raised, request ∈ calls.created
  waiters : ∀ request ∈ calls.waiters, request ∈ calls.created
  sending : ∀ request ∈ calls.sending, request ∈ calls.created

/-- At the start nothing is pending. -/
theorem exact_initial : ({} : ClientCalls).Exact where
  pending _ := ⟨nofun, fun waiting => absurd waiting.2.1 List.not_mem_nil⟩
  resends := nofun
  raised := nofun
  waiters := nofun
  sending := nofun

/-- The connection changes, and with it at most the frames that are sent again. -/
theorem Exact.relink (exact : calls.Exact) {after : ClientCalls}
    (pending : after.pending = calls.pending) (waiters : after.waiters = calls.waiters)
    (raised : after.raised = calls.raised) (created : after.created = calls.created)
    (sending : ∀ request ∈ after.sending, request ∈ calls.sending)
    (resends : ∀ rest, after.link = .online rest → ∀ request ∈ rest, request ∈ calls.pending) :
    after.Exact where
  pending request := by
    rw [pending, Waiting, waiters, raised]
    exact exact.pending request
  resends := pending ▸ resends
  raised := raised ▸ created ▸ exact.raised
  waiters := waiters ▸ created ▸ exact.waiters
  sending request member := created ▸ exact.sending request (sending request member)

/-- A new request keeps the pending frames exact. -/
theorem Exact.begin (exact : calls.Exact) (new : request ∉ calls.created) :
    (calls.begin request).Exact := by
  constructor
  · intro other
    simp only [ClientCalls.begin, Waiting]
    by_cases same : other = request
    · subst same
      have silent : other ∉ calls.raised := fun raised => new (exact.raised other raised)
      have unknown : other ∉ calls.pending := fun pending =>
        new (exact.waiters other ((exact.pending other).mp pending).2.1)
      split <;> simp [*]
    · have kept := exact.pending other
      rw [Waiting] at kept
      split <;> simp [same, kept]
  · intro rest online other member
    have pending := exact.resends rest online other member
    simp only [ClientCalls.begin]
    split
    · exact List.mem_append_left _ pending
    · exact pending
  · exact fun other member => List.mem_append_left _ (exact.raised other member)
  · intro other member
    rcases List.mem_append.mp member with earlier | now
    · exact List.mem_append_left _ (exact.waiters other earlier)
    · exact List.mem_append_right _ now
  · intro other member
    rcases List.mem_append.mp member with earlier | now
    · exact List.mem_append_left _ (exact.sending other earlier)
    · exact List.mem_append_right _ now

/-- Sending a frame keeps the pending frames exact, unless it fails while it is pending. -/
theorem Exact.transmit (exact : calls.Exact) {succeeds : Bool} (sending : request ∈ calls.sending)
    (allowed : request ∈ calls.pending → calls.Transmits succeeds) :
    (calls.transmit request succeeds).Exact := by
  have left : ∀ other ∈ calls.sending.erase request, other ∈ calls.sending :=
    fun _ => List.mem_of_mem_erase
  unfold ClientCalls.transmit
  dsimp only
  split
  · exact exact.relink rfl rfl rfl rfl left exact.resends
  · next fails =>
      have settled : request ∉ calls.pending := fun pending => fails (allowed pending)
      split
      · constructor
        · intro other
          have kept := exact.pending other
          rw [Waiting] at kept ⊢
          by_cases same : other = request
          · subst same
            simp [settled]
          · simp [same, kept]
        · exact exact.resends
        · intro other member
          rcases List.mem_cons.mp member with rfl | earlier
          · exact exact.sending other sending
          · exact exact.raised other earlier
        · exact exact.waiters
        · exact fun other member => exact.sending other (left other member)
      · exact exact.relink rfl rfl rfl rfl left exact.resends

/-- An answer keeps the pending frames exact when it settles the request. -/
theorem Exact.settle (exact : calls.Exact) {status : String} (quiet : calls.link = .online [])
    (allowed : request ∈ calls.pending → SettledStatus status) :
    (calls.settle request status).Exact := by
  have answered : ∀ other ∈ calls.waiters.filter (· ≠ request), other ∈ calls.created :=
    fun other member => exact.waiters other (List.mem_filter.mp member).1
  have unsent : ∀ pending : List ClientRequest, ∀ rest, calls.link = .online rest →
      ∀ other ∈ rest, other ∈ pending := by
    intro pending rest online other member
    rw [quiet] at online
    cases online
    cases member
  unfold ClientCalls.settle
  dsimp only
  split
  · next foreign =>
      refine ⟨fun other => ?_, unsent _, exact.raised, answered, exact.sending⟩
      have kept := exact.pending other
      rw [Waiting] at kept ⊢
      by_cases same : other = request
      · subst same
        simp [kept, foreign]
      · simp [same, kept]
  · split
    · refine ⟨fun other => ?_, unsent _, exact.raised, answered, exact.sending⟩
      have kept := exact.pending other
      rw [Waiting] at kept ⊢
      by_cases same : other = request
      · subst same
        simp
      · simp [same, kept]
    · next unsettled =>
        have settled : request ∉ calls.pending := fun pending => unsettled (allowed pending)
        have kept (raised : List ClientRequest)
            (same : ∀ other, other ≠ request → (other ∈ raised ↔ other ∈ calls.raised))
            (other : ClientRequest) : other ∈ calls.pending ↔ other.kind = .inbound ∧
              other ∈ calls.waiters.filter (· ≠ request) ∧ other ∉ raised := by
          have before := exact.pending other
          rw [Waiting] at before
          by_cases equal : other = request
          · subst equal
            simp [settled]
          · simp [equal, before, same other equal]
        split
        · next waiting =>
            refine ⟨kept _ fun other different => ?_, unsent _, ?_, answered, exact.sending⟩
            · rw [List.mem_cons]
              exact or_iff_right different
            · intro other member
              rcases List.mem_cons.mp member with rfl | earlier
              · exact exact.waiters other waiting
              · exact exact.raised other earlier
        · exact ⟨kept _ fun _ _ => Iff.rfl, unsent _, exact.raised, answered, exact.sending⟩

/-- Every accepted step keeps the pending frames exact. -/
theorem Exact.step (exact : calls.Exact) (allowed : accepted calls action)
    (stepped : calls.step action = some next) : next.Exact := by
  cases action with
  | connect =>
      simp only [ClientCalls.step] at stepped
      split at stepped
      · cases stepped
        exact exact.relink rfl rfl rfl rfl (fun _ => id) nofun
      · cases stepped
  | hello =>
      simp only [ClientCalls.step] at stepped
      split at stepped
      · cases stepped
        exact exact.relink rfl rfl rfl rfl (fun _ => id) nofun
      · cases stepped
  | greeted =>
      simp only [ClientCalls.step] at stepped
      split at stepped
      · cases stepped
        exact exact.relink rfl rfl rfl rfl (fun _ => id) nofun
      · cases stepped
  | resumed =>
      simp only [ClientCalls.step] at stepped
      split at stepped
      · cases stepped
        refine exact.relink rfl rfl rfl rfl (fun _ => id) ?_
        rintro rest ⟨⟩ request member
        exact member
      · cases stepped
  | resend =>
      simp only [ClientCalls.step] at stepped
      split at stepped
      · next request rest online =>
          split at stepped
          · cases stepped
            refine exact.relink rfl rfl rfl rfl (fun _ => id) ?_
            rintro _ ⟨⟩ other member
            exact exact.resends _ online other (List.mem_cons_of_mem _ member)
          · cases stepped
      · cases stepped
  | close arriving =>
      simp only [ClientCalls.step] at stepped
      split at stepped
      · cases stepped
        exact exact.relink rfl rfl rfl rfl (fun _ => id) exact.resends
      · cases stepped
  | drop =>
      simp only [ClientCalls.step] at stepped
      split at stepped
      · cases stepped
      · cases stepped
        exact exact.relink rfl rfl rfl rfl (fun _ => id) nofun
  | request request =>
      simp only [ClientCalls.step] at stepped
      split at stepped
      · cases stepped
      · next new =>
          cases stepped
          exact exact.begin new
  | send request succeeds =>
      simp only [ClientCalls.step] at stepped
      split at stepped
      · next sending =>
          cases stepped
          exact exact.transmit sending allowed
      · cases stepped
  | serve status =>
      simp only [ClientCalls.step] at stepped
      split at stepped
      · cases stepped
      · cases stepped
        exact exact.relink rfl rfl rfl rfl (fun _ => id) exact.resends
  | receive =>
      simp only [ClientCalls.step] at stepped
      split at stepped
      · next request status rest quiet down =>
          cases stepped
          have read : ({ calls with down := rest } : ClientCalls).Exact :=
            exact.relink rfl rfl rfl rfl (fun _ => id) exact.resends
          change calls.AnswerTakes at allowed
          rw [AnswerTakes, down] at allowed
          exact read.settle quiet allowed
      · cases stepped
        exact exact.relink rfl rfl rfl rfl (fun _ => id) exact.resends
      · cases stepped

/-- In accepted runs exactly the unanswered frames are pending. -/
theorem exact_of_reachable (reached : machine.Reachable accepted calls) : calls.Exact :=
  reached.invariant (fun _ started => started ▸ exact_initial)
    fun _ _ _ exact allowed stepped => exact.step allowed stepped

/-- A call that has raised stays so. -/
theorem raised_step (raised : request ∈ calls.raised) (stepped : calls.step action = some next) :
    request ∈ next.raised := by
  cases action with
  | connect | hello | resumed | drop | close =>
      simp only [ClientCalls.step] at stepped
      split at stepped <;> cases stepped
      exact raised
  | greeted | serve =>
      simp only [ClientCalls.step] at stepped
      split at stepped <;> cases stepped
      exact raised
  | resend =>
      simp only [ClientCalls.step] at stepped
      split at stepped
      · split at stepped <;> cases stepped
        exact raised
      · cases stepped
  | request other =>
      simp only [ClientCalls.step] at stepped
      split at stepped <;> cases stepped
      exact raised
  | send other succeeds =>
      simp only [ClientCalls.step] at stepped
      split at stepped <;> cases stepped
      unfold transmit
      dsimp only
      split
      · exact raised
      · split
        · exact List.mem_cons_of_mem _ raised
        · exact raised
  | receive =>
      simp only [ClientCalls.step] at stepped
      split at stepped
      · cases stepped
        unfold settle
        dsimp only
        split
        · exact raised
        · split
          · exact raised
          · split
            · exact List.mem_cons_of_mem _ raised
            · exact raised
      · cases stepped
        exact raised
      · cases stepped

end ClientCalls

/-- **Pending frames.** In runs in which every answer to a pending frame takes it, and every pending
frame can be sent: the pending frames are those whose calls of `send_inbound` wait for their answer,
and no handshake ever sends the frame of a call that has raised. -/
theorem pending_iff_waiting {calls : ClientCalls}
    (reached : ClientCalls.machine.Reachable ClientCalls.accepted calls) (request : ClientRequest) :
    (request ∈ calls.pending ↔ calls.Waiting request) ∧
      (request ∈ calls.raised → ∀ later,
        ClientCalls.machine.Steps ClientCalls.accepted calls later →
        request ∉ later.pending ∧ ∀ rest, later.link = .online rest → request ∉ rest) := by
  refine ⟨(ClientCalls.exact_of_reachable reached).pending request, fun raised later steps => ?_⟩
  have exact := steps.invariant (fun _ _ _ exact allowed stepped => exact.step allowed stepped)
    (ClientCalls.exact_of_reachable reached)
  have still : request ∈ later.raised :=
    steps.invariant (fun _ _ _ raised _ stepped => ClientCalls.raised_step raised stepped) raised
  have settled : request ∉ later.pending := fun pending =>
    ((exact.pending request).mp pending).2.2 still
  exact ⟨settled, fun rest online member => settled (exact.resends rest online request member)⟩

namespace ClientCalls

/-- The client connects, and its HELLO is accepted. -/
def connectRun : List ClientAction := [.connect, .hello, .serve "ok", .greeted, .resumed]

/-- The message of a user. -/
def userFrame : ClientRequest := ⟨.inbound, "in_1"⟩

/-- A frame is sent, and answered with some status. -/
def answeredRun (status : String) : List ClientAction :=
  connectRun ++ [.request userFrame, .send userFrame true, .serve status]

/-- The frame waits for its answer to be read. -/
def waitingCalls : ClientCalls := (machine.replay accepted {} (answeredRun "ok")).getD {}

/-- The answer is read, and the client connects again. -/
def reconnectRun : List ClientAction :=
  answeredRun "failed" ++ [.receive, .drop] ++ connectRun ++ [.resend]

end ClientCalls

/-- A frame that is on its way is pending. -/
theorem pending_iff_waiting_sent : ClientCalls.userFrame ∈ ClientCalls.waitingCalls.pending := by
  have replayed : ClientCalls.machine.replay ClientCalls.accepted {}
      (ClientCalls.answeredRun "ok") = some ClientCalls.waitingCalls := rfl
  exact (pending_iff_waiting (.of_replay rfl replayed) ClientCalls.userFrame).1.mpr (by decide)

/-- A frame whose call has raised is sent again. -/
theorem failed_frame_resent :
    ∃ calls, ClientCalls.machine.Reachable Machine.anyStep calls ∧
      ClientCalls.userFrame ∈ calls.raised ∧ ClientCalls.userFrame ∈ calls.pending ∧
      ¬calls.Waiting ClientCalls.userFrame ∧ calls.up = [.request ClientCalls.userFrame] := by
  have replayed : ClientCalls.machine.replay Machine.anyStep {} ClientCalls.reconnectRun =
      some ((ClientCalls.machine.replay Machine.anyStep {} ClientCalls.reconnectRun).getD {}) := rfl
  refine ⟨_, .of_replay rfl replayed, ?_, ?_, ?_, ?_⟩ <;> decide

end FairyClaw
