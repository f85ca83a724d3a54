import FairyClaw.Bridge.Outbound

/-! # The outbound backlog

The backlog of the business side is a deque of bounded length: a push evicts the oldest frame of a
full backlog, acknowledged or not. A RESUME therefore replays the frames among the last pushes that
were not acknowledged (`FairyClaw.outbound_backlog`), and an unacknowledged frame is lost when as many
frames as the backlog holds are pushed after it, though all of these may have been acknowledged
(`FairyClaw.unacked_evicted`).
-/

namespace FairyClaw

open Foundation

/-- What changes the backlog: a pushed frame, and an acknowledgement that is read. -/
inductive BacklogOp
  | push (id : String)
  | ack (refId : String) (status : AckStatus)
  deriving DecidableEq

/-- The frames pushed so far, the oldest first. -/
def pushedIds (ops : List BacklogOp) : List String :=
  ops.filterMap fun op =>
    match op with
    | .push id => some id
    | .ack .. => none

/-- The frames acknowledged as delivered or as duplicates. -/
def confirmedIds (ops : List BacklogOp) : List String :=
  ops.filterMap fun op =>
    match op with
    | .push _ => none
    | .ack refId status => if status = .ok ∨ status = .duplicate then some refId else none

/-- The frames that were pushed and not acknowledged so. -/
def unconfirmedIds (ops : List BacklogOp) : List String :=
  (pushedIds ops).filter (· ∉ confirmedIds ops)

/-- The last entries of a list. -/
def lastEntries {α : Type*} (count : Nat) (entries : List α) : List α :=
  entries.drop (entries.length - count)

/-- A bounded deque to which an entry is appended. -/
theorem lastEntries_append {α : Type*} (count : Nat) (entries : List α) (entry : α) :
    ((lastEntries count entries) ++ [entry]).drop
        ((lastEntries count entries).length + 1 - count) = lastEntries count (entries ++ [entry]) := by
  by_cases full : count ≤ entries.length
  · have length : (lastEntries count entries).length = count := by
      rw [lastEntries, List.length_drop]
      omega
    rw [length, Nat.add_sub_cancel_left, lastEntries, lastEntries, List.length_append,
      List.length_singleton, ← List.drop_append_of_le_length (Nat.sub_le ..), List.drop_drop]
    congr 1
    omega
  · have whole : lastEntries count entries = entries := by
      have room : entries.length - count = 0 := by omega
      rw [lastEntries, room, List.drop_zero]
    rw [whole, lastEntries, List.length_append, List.length_singleton]

/-- An entry with few entries after it is among the last. -/
theorem mem_lastEntries {α : Type*} {count : Nat} (earlier : List α) (entry : α) {later : List α}
    (recent : later.length < count) : entry ∈ lastEntries count (earlier ++ entry :: later) := by
  have split : (earlier ++ entry :: later).length - count ≤ earlier.length := by
    rw [List.length_append, List.length_cons]
    omega
  rw [lastEntries, List.drop_append_of_le_length split]
  exact List.mem_append_right _ List.mem_cons_self

namespace OutboundService

/-- Perform a push, or the handling of an acknowledgement. -/
def perform (limit : Nat) (service : OutboundService) : BacklogOp → OutboundService
  | .push id => service.push limit id
  | .ack refId status => (service.read 0 (.ack refId status)).1

/-- The business side after a sequence of pushes and acknowledgements. -/
def afterOps (limit : Nat) (ops : List BacklogOp) : OutboundService :=
  ops.foldl (perform limit) {}

/-- The last operation is performed last. -/
theorem afterOps_append (limit : Nat) (ops : List BacklogOp) (op : BacklogOp) :
    afterOps limit (ops ++ [op]) = (afterOps limit ops).perform limit op := by
  rw [afterOps, List.foldl_append]
  rfl

/-- The deque holds the last pushes. -/
theorem backlog_afterOps (limit : Nat) (ops : List BacklogOp) :
    (afterOps limit ops).backlog = lastEntries limit (pushedIds ops) := by
  induction ops using List.reverseRecOn with
  | nil => exact List.drop_nil.symm
  | append_singleton ops op ih =>
      rw [afterOps_append, pushedIds, List.filterMap_append]
      cases op with
      | push id =>
          show ((afterOps limit ops).backlog ++ [id]).drop _ = lastEntries limit (pushedIds ops ++ [id])
          rw [ih]
          exact lastEntries_append limit (pushedIds ops) id
      | ack refId status =>
          have kept : ((afterOps limit ops).perform limit (.ack refId status)).backlog =
              (afterOps limit ops).backlog := by
            simp only [perform, read]
            split <;> rfl
          rw [kept, ih]
          simp only [List.filterMap_cons_none, List.filterMap_nil, List.append_nil]
          rfl

/-- What the operations push is pushed. -/
theorem pushed_afterOps (limit : Nat) (ops : List BacklogOp) :
    (afterOps limit ops).pushed = pushedIds ops := by
  induction ops using List.reverseRecOn with
  | nil => rfl
  | append_singleton ops op ih =>
      rw [afterOps_append, pushedIds, List.filterMap_append]
      cases op with
      | push id => exact congrArg (· ++ [id]) ih
      | ack refId status =>
          simp only [perform, read, List.filterMap_cons_none, List.filterMap_nil, List.append_nil]
          split <;> exact ih

/-- The filter knows the frames that were acknowledged. -/
theorem mem_acked_afterOps {limit : Nat} {ops : List BacklogOp} {id : String} :
    id ∈ (afterOps limit ops).acked ↔ id ∈ confirmedIds ops := by
  induction ops using List.reverseRecOn with
  | nil => rfl
  | append_singleton ops op ih =>
      rw [afterOps_append, confirmedIds, List.filterMap_append, List.mem_append]
      cases op with
      | push other =>
          simp only [List.filterMap_cons_none, List.filterMap_nil, List.not_mem_nil, or_false]
          exact ih
      | ack refId status =>
          simp only [perform, read, List.filterMap_cons, List.filterMap_nil]
          by_cases confirmed : status = .ok ∨ status = .duplicate
          · simp only [confirmed, ↓reduceIte, List.mem_cons, List.not_mem_nil, or_false]
            rw [ih, or_comm]
            rfl
          · simp only [confirmed, ↓reduceIte, List.not_mem_nil, or_false]
            exact ih

end OutboundService

/-- **What the outbound backlog keeps.** After any sequence of pushes and acknowledgements, a RESUME
replays, in the order of pushing, those of the last `limit` pushed frames that were not acknowledged
ok or duplicate. A frame that was not acknowledged so is replayed as long as at most `limit` frames,
itself included, have been pushed since, and no frame is left out that was not acknowledged. -/
theorem outbound_backlog (limit : Nat) (ops : List BacklogOp) (connection : Nat)
    (lastAckOutbound : Option String) :
    let service := OutboundService.afterOps limit ops
    let replayed := (lastEntries limit (pushedIds ops)).filter (· ∉ confirmedIds ops)
    service.read connection (.resume lastAckOutbound) = (service, .replaying replayed) ∧
      (∀ earlier id later, pushedIds ops = earlier ++ id :: later → id ∉ confirmedIds ops →
        later.length < limit → id ∈ replayed) ∧
      ∀ id ∈ service.backlog, id ∉ replayed → id ∈ confirmedIds ops := by
  intro service replayed
  have unacked : service.unacked = replayed := by
    rw [OutboundService.unacked, OutboundService.backlog_afterOps]
    apply List.filter_congr
    intro id _
    rw [decide_eq_decide, OutboundService.mem_acked_afterOps]
  refine ⟨?_, ?_, ?_⟩
  · rw [← unacked]
    rfl
  · intro earlier id later pushed unconfirmed recent
    refine List.mem_filter.mpr ⟨?_, decide_eq_true unconfirmed⟩
    rw [pushed]
    exact mem_lastEntries earlier id recent
  · intro id held left
    by_contra unconfirmed
    rw [OutboundService.backlog_afterOps] at held
    exact left (List.mem_filter.mpr ⟨held, decide_eq_true unconfirmed⟩)

/-- The first of two frames is not acknowledged, the second is, and a third is pushed. -/
def evictingOps : List BacklogOp := [.push "out_1", .push "out_2", .ack "out_2" .ok, .push "out_3"]

/-- In a backlog of two frames, an unacknowledged frame is evicted though there are never more than
two unacknowledged ones, and an acknowledged id outlives its frame after another push. -/
theorem unacked_evicted :
    "out_1" ∈ unconfirmedIds evictingOps ∧
      (∀ length ≤ evictingOps.length, (unconfirmedIds (evictingOps.take length)).length ≤ 2) ∧
      "out_1" ∉ (OutboundService.afterOps 2 evictingOps).unacked ∧
      "out_2" ∈ (OutboundService.afterOps 2 (evictingOps ++ [.push "out_4"])).acked ∧
      "out_2" ∉ (OutboundService.afterOps 2 (evictingOps ++ [.push "out_4"])).backlog := by
  decide

namespace OutboundService

/-- Two states of the business side with the same backlog, filter and pushes. -/
structure Agrees (service other : OutboundService) : Prop where
  backlog : service.backlog = other.backlog
  acked : service.acked = other.acked
  pushed : service.pushed = other.pushed

variable {service other : OutboundService}

/-- A service agrees with itself. -/
theorem agrees_self (service : OutboundService) : service.Agrees service := ⟨rfl, rfl, rfl⟩

/-- Services that agree with a third one agree. -/
theorem Agrees.trans {third : OutboundService} (first : service.Agrees other)
    (second : other.Agrees third) : service.Agrees third :=
  ⟨first.backlog.trans second.backlog, first.acked.trans second.acked,
    first.pushed.trans second.pushed⟩

/-- Services that agree do so after the same operation. -/
theorem Agrees.perform (agrees : service.Agrees other) (limit : Nat) (op : BacklogOp) :
    (service.perform limit op).Agrees (other.perform limit op) := by
  obtain ⟨backlog, acked, pushed⟩ := agrees
  cases op with
  | push id =>
      refine ⟨?_, acked, ?_⟩
      · simp only [OutboundService.perform, push, backlog]
      · simp only [OutboundService.perform, push, pushed]
  | ack refId status =>
      simp only [OutboundService.perform, read]
      split
      · exact ⟨backlog, congrArg (refId :: ·) acked, pushed⟩
      · exact ⟨backlog, acked, pushed⟩

end OutboundService

namespace OutboundBridge

variable {limit : Nat} {bridge after : OutboundBridge} {action : OutboundAction}

/-- A step pushes a frame, reads an acknowledgement, or leaves the backlog. -/
theorem step_backlog (stepped : bridge.step limit action = some after) :
    after.service.Agrees bridge.service ∨
      ∃ op, after.service.Agrees (bridge.service.perform limit op) := by
  cases action with
  | push id =>
      simp only [step] at stepped
      split at stepped
      · cases stepped
      · cases stepped
        exact Or.inr ⟨.push id, OutboundService.agrees_self _⟩
  | read connection =>
      simp only [step] at stepped
      split at stepped
      · rename_i frame rest _ _
        cases stepped
        cases frame with
        | hello => exact Or.inl ⟨rfl, rfl, rfl⟩
        | resume last => exact Or.inl (OutboundService.agrees_self _)
        | ack id status => exact Or.inr ⟨.ack id status, OutboundService.agrees_self _⟩
      · cases stepped
  | send connection id sent =>
      simp only [step] at stepped
      split at stepped
      · cases stepped
        split <;> exact Or.inl ⟨rfl, rfl, rfl⟩
      · cases stepped
  | disconnect connection =>
      cases stepped
      simp only [OutboundService.disconnect]
      split <;> exact Or.inl ⟨rfl, rfl, rfl⟩
  | _ =>
      simp only [step] at stepped
      repeat' split at stepped
      all_goals cases stepped
      all_goals exact Or.inl ⟨rfl, rfl, rfl⟩

/-- The business side of a bridge is where its pushes and the acknowledgements it has read lead. -/
theorem backlog_of_reachable (reached : (machine limit).Reachable Machine.anyStep bridge) :
    ∃ ops, bridge.service.Agrees (OutboundService.afterOps limit ops) := by
  apply reached.invariant
  · rintro _ rfl
    exact ⟨[], OutboundService.agrees_self _⟩
  · rintro before action after ⟨ops, agrees⟩ _ stepped
    rcases step_backlog stepped with same | ⟨op, performed⟩
    · exact ⟨ops, same.trans agrees⟩
    · refine ⟨ops ++ [op], performed.trans ?_⟩
      rw [OutboundService.afterOps_append]
      exact agrees.perform limit op

/-- In every state of a bridge, a RESUME replays the unacknowledged ones of the last pushes. -/
theorem unacked_of_reachable (reached : (machine limit).Reachable Machine.anyStep bridge) :
    bridge.service.unacked =
      (lastEntries limit bridge.service.pushed).filter (· ∉ bridge.service.acked) := by
  obtain ⟨ops, backlog, _, pushed⟩ := backlog_of_reachable reached
  rw [OutboundService.unacked, backlog, pushed, OutboundService.backlog_afterOps,
    OutboundService.pushed_afterOps]

end OutboundBridge

end FairyClaw
