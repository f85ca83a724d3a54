import FairyClaw.Planning.BarrierOnce

/-! # No closed batch loses its barrier

A batch opened between the terminal mark that closes the previous one and the
emission mark of its barrier makes the calls look at the wrong batch
(`FairyClaw.BarrierWorld.barrier_dropped`, `FairyClaw.BarrierWorld.next_batch_emitted`).
A caller that fails between its mark and its call may leave a closed batch to nobody
(`FairyClaw.BarrierWorld.barrier_left`). In runs that open a batch only once the barrier
of the closed one is out and marked, and in which no caller fails as the last one to
attend a closed batch, every closed batch has its barrier when the calls have returned
(`FairyClaw.BarrierWorld.barrier_not_lost`).
-/

namespace FairyClaw.BarrierWorld

open Foundation

variable {world next : BarrierWorld}

/-- The emission mark of a closed current batch is made, and no call stands between
its readiness test and its emission mark. -/
def BarrierOut (world : BarrierWorld) : Prop :=
  world.tasks.isAllSubtasksTerminal = true →
    world.tasks.hasAggregationEmitted = true ∧ ∀ call, (world.calls call).batch = none

/-- A task is delegated, or a known task sent a message, only once the barrier of a
closed batch is out; a caller fails between its mark and its call only while the
current batch is open, or its emission mark is made, or another caller has yet to
return; a call that finds the closed batch without emission mark finds a summary;
history writes and publishes succeed. -/
def batchesApart : Machine.Guard BarrierWorld BarrierAction := fun world action =>
  match action with
  | .delegate _ _ => world.BarrierOut
  | .message subSessionId _ =>
      (world.tasks.getRecord subSessionId).isSome = true → world.BarrierOut
  | .raised call => world.tasks.isAllSubtasksTerminal = true →
      world.tasks.hasAggregationEmitted = true ∨ ∃ other, other ≠ call ∧ world.calls other ≠ .idle
  | .begin _ => world.tasks.isAllSubtasksTerminal = true →
      world.tasks.hasAggregationEmitted = false → world.tasks.barrierBlocks ≠ []
  | .wrote _ outcome => outcome = .committed
  | .publish _ delivered => delivered = true
  | _ => True

/-- Closed batches have their event, or a call that will publish it. -/
structure Kept (world : BarrierWorld) : Prop where
  batches : world.tasks.BatchInvariant
  emitted : ∀ batchId ∈ world.tasks.emittedBatchIds, batchId ∈ world.events.map Prod.fst
  older : ∀ batchId < world.tasks.currentBatchId, batchId ∈ world.events.map Prod.fst
  pending : world.tasks.isAllSubtasksTerminal = true →
    world.tasks.hasAggregationEmitted = true ∨ ∃ call, world.calls call ≠ .idle
  held : ∀ call batchId, (world.calls call).batch = some batchId →
    batchId = world.tasks.currentBatchId ∧ world.tasks.isAllSubtasksTerminal = true
  published : ∀ call batchId, world.calls call = .published batchId →
    batchId ∈ world.events.map Prod.fst

/-- At first there is no batch. -/
theorem kept_initial : Kept {} where
  batches := SessionSubTaskState.batchInvariant_empty
  emitted := fun _ member => absurd member (Finset.notMem_empty _)
  older := nofun
  pending := nofun
  held := nofun
  published := nofun

/-- Delegating or messaging opens a batch behind a barrier that is out. -/
theorem Kept.open (kept : world.Kept) {op : SubtaskOp} {tasks : SessionSubTaskState}
    (performed : world.tasks.perform op = some tasks) (unmarked : op ≠ .emitted)
    (apart : world.BarrierOut) (running : tasks.isAllSubtasksTerminal = false) :
    { world with tasks := tasks }.Kept := by
  have fewer : tasks.emittedBatchIds ⊆ world.tasks.emittedBatchIds := by
    rcases SessionSubTaskState.perform_emittedBatchIds performed with fewer | ⟨marks, _⟩
    · exact fewer
    · exact (unmarked marks).elim
  refine ⟨kept.batches.perform performed, ?_, ?_, ?_, ?_, kept.published⟩
  · exact fun batchId member => kept.emitted batchId (fewer member)
  · intro batchId earlier
    change batchId < tasks.currentBatchId at earlier
    rcases SessionSubTaskState.perform_currentBatchId performed with same | ⟨closed, moved⟩
    · exact kept.older batchId (by omega)
    · by_cases closedNow : batchId = world.tasks.currentBatchId
      · subst closedNow
        exact kept.emitted _ (of_decide_eq_true (apart closed).1)
      · exact kept.older batchId (by omega)
  · intro closed
    change tasks.isAllSubtasksTerminal = true at closed
    rw [running] at closed
    cases closed
  · intro call batchId holds
    have free := (apart (kept.held call batchId holds).2).2 call
    change (world.calls call).batch = some batchId at holds
    rw [free] at holds
    cases holds

/-- A caller returns; the closed batch stays attended by the others. -/
theorem Kept.setIdle (kept : world.Kept) {call : Nat}
    (attended : world.tasks.isAllSubtasksTerminal = true →
      world.tasks.hasAggregationEmitted = true ∨ ∃ other, other ≠ call ∧
        world.calls other ≠ .idle) :
    (world.setCall call .idle).Kept := by
  refine ⟨kept.batches, kept.emitted, kept.older, ?_, ?_, ?_⟩
  · intro closed
    rcases attended closed with emitted | ⟨other, different, busy⟩
    · exact Or.inl emitted
    · exact Or.inr ⟨other, by rw [calls_setCall_of_ne world different]; exact busy⟩
  · intro other batchId holds
    rcases holds_setCall holds with ⟨_, ⟨⟩⟩ | ⟨_, before⟩
    exact kept.held other batchId before
  · intro other batchId stands
    by_cases same : other = call
    · subst same
      rw [calls_setCall_self] at stands
      cases stands
    · rw [calls_setCall_of_ne world same] at stands
      exact kept.published other batchId stands

/-- A caller marks a task terminal and has still to make its barrier call. -/
theorem Kept.mark (kept : world.Kept) {call : Nat} (idle : world.calls call = .idle)
    {subSessionId status summary : String} {tasks : SessionSubTaskState}
    (performed : world.tasks.perform (.mark subSessionId status summary) = some tasks) :
    ({ world with tasks := tasks }.setCall call (.marked subSessionId)).Kept := by
  have same := SessionSubTaskState.mark_currentBatchId performed
  have fewer : tasks.emittedBatchIds ⊆ world.tasks.emittedBatchIds := by
    rcases SessionSubTaskState.perform_emittedBatchIds performed with fewer | ⟨marks, _⟩
    · exact fewer
    · cases marks
  refine ⟨kept.batches.perform performed, ?_, ?_, ?_, ?_, ?_⟩
  · exact fun batchId member => kept.emitted batchId (fewer member)
  · intro batchId earlier
    change batchId < tasks.currentBatchId at earlier
    exact kept.older batchId (same ▸ earlier)
  · exact fun _ => Or.inr ⟨call, by rw [calls_setCall_self]; exact nofun⟩
  · intro other batchId holds
    rcases holds_setCall holds with ⟨_, ⟨⟩⟩ | ⟨_, before⟩
    · obtain ⟨rfl, closed⟩ := kept.held other batchId before
      have still := (show world.Closed world.tasks.currentBatchId from
        Or.inr ⟨rfl, closed⟩).perform kept.batches performed
      rcases still with earlier | ⟨_, ended⟩
      · exact absurd (same ▸ earlier) (Nat.lt_irrefl _)
      · exact ⟨same.symm, ended⟩
  · intro other batchId stands
    by_cases moved : other = call
    · subst moved
      rw [calls_setCall_self] at stands
      cases stands
    · rw [calls_setCall_of_ne _ moved] at stands
      exact kept.published other batchId stands

/-- A caller moves on with the current batch. -/
theorem Kept.setHolding (kept : world.Kept) {call : Nat} {state : BarrierCall}
    (holds : state.batch = some world.tasks.currentBatchId)
    (closed : world.tasks.isAllSubtasksTerminal = true)
    (published : ∀ batchId, state = .published batchId → batchId ∈ world.events.map Prod.fst) :
    (world.setCall call state).Kept := by
  refine ⟨kept.batches, kept.emitted, kept.older, ?_, ?_, ?_⟩
  · intro _
    refine Or.inr ⟨call, ?_⟩
    rw [calls_setCall_self]
    rintro rfl
    cases holds
  · intro other batchId holding
    rcases holds_setCall holding with ⟨_, moved⟩ | ⟨_, before⟩
    · exact ⟨Option.some.inj (moved.symm.trans holds), closed⟩
    · exact kept.held other batchId before
  · intro other batchId stands
    by_cases same : other = call
    · subst same
      rw [calls_setCall_self] at stands
      exact published batchId stands
    · rw [calls_setCall_of_ne world same] at stands
      exact kept.published other batchId stands

/-- Every step that meets the condition keeps the closed batches attended. -/
theorem Kept.step (kept : world.Kept) {action : BarrierAction}
    (allowed : batchesApart world action) (stepped : world.step action = some next) :
    next.Kept := by
  have effect := step_cases stepped
  cases action with
  | delegate subSessionId taskType =>
      obtain ⟨tasks, performed, rfl⟩ := effect
      exact kept.open performed nofun allowed
        (SessionSubTaskState.delegate_not_isAllSubtasksTerminal performed)
  | message subSessionId taskType =>
      obtain ⟨tasks, performed, rfl⟩ := effect
      by_cases known : (world.tasks.getRecord subSessionId).isSome = true
      · rcases kept.batches.message_not_isAllSubtasksTerminal performed with rfl | running
        · exact kept
        · exact kept.open performed nofun (allowed known) running
      · have unchanged : tasks = world.tasks := by
          rcases SessionSubTaskState.perform_cases performed with rfl | ⟨_, stored, _⟩ |
            ⟨_, stored, _⟩
          · rfl
          · exact absurd (Option.isSome_of_eq_some stored) known
          · exact absurd (Option.isSome_of_eq_some stored) known
        exact unchanged ▸ kept
  | mark call subSessionId status summary =>
      obtain ⟨idle, tasks, performed, rfl⟩ := effect
      exact kept.mark idle performed
  | raised call =>
      obtain ⟨_, rfl⟩ := effect
      exact kept.setIdle allowed
  | begin call =>
      obtain ⟨free, ⟨none_ready, rfl⟩ | ⟨barrier, ready, rfl⟩⟩ := effect
      · apply kept.setIdle
        intro closed
        rcases SessionSubTaskState.barrierIfReady_eq_none none_ready closed with emitted | empty
        · exact Or.inl emitted
        · by_cases emitted : world.tasks.hasAggregationEmitted = true
          · exact Or.inl emitted
          · exact (allowed closed (Bool.not_eq_true _ ▸ emitted) empty).elim
      · have started : world.tasks.barrierIfReady.isSome = true := by rw [ready]; rfl
        exact kept.setHolding rfl
          (SessionSubTaskState.isAllSubtasksTerminal_of_barrierIfReady started) nofun
  | wrote call outcome =>
      obtain ⟨batchId, barrier, writing, effect⟩ := effect
      have succeeded : outcome = .committed := allowed
      subst succeeded
      cases effect
      obtain ⟨rfl, closed⟩ := kept.held call batchId (by rw [writing]; rfl)
      have stored : { world with
          messages := world.messages ++ [(world.tasks.currentBatchId, barrier.message)] }.Kept :=
        ⟨kept.batches, kept.emitted, kept.older, kept.pending, kept.held, kept.published⟩
      exact stored.setHolding rfl closed nofun
  | publish call delivered =>
      obtain ⟨batchId, barrier, publishing, rfl⟩ := effect
      have succeeded : delivered = true := allowed
      subst succeeded
      obtain ⟨rfl, closed⟩ := kept.held call batchId (by rw [publishing]; rfl)
      have more {other : Nat} (member : other ∈ world.events.map Prod.fst) :
          other ∈ (world.events ++ [(world.tasks.currentBatchId, barrier.aggregated)]).map
            Prod.fst := by
        rw [List.map_append]
        exact List.mem_append_left _ member
      have announced : { world with
          events := world.events ++ [(world.tasks.currentBatchId, barrier.aggregated)] }.Kept :=
        ⟨kept.batches, fun other member => more (kept.emitted other member),
          fun other earlier => more (kept.older other earlier), kept.pending, kept.held,
          fun other batchId stands => more (kept.published other batchId stands)⟩
      apply announced.setHolding rfl closed
      rintro _ ⟨rfl⟩
      rw [List.map_append]
      exact List.mem_append_right _ List.mem_cons_self
  | emitted call =>
      obtain ⟨batchId, published, rfl⟩ := effect
      obtain ⟨rfl, closed⟩ := kept.held call batchId (by rw [published]; rfl)
      have performed : world.tasks.perform .emitted = some world.tasks.markAggregationEmitted := rfl
      have marked : { world with tasks := world.tasks.markAggregationEmitted }.Kept := by
        refine ⟨kept.batches.perform performed, ?_, kept.older, ?_, kept.held, kept.published⟩
        · intro other member
          rcases Finset.mem_insert.mp member with rfl | earlier
          · exact kept.published call _ published
          · exact kept.emitted other earlier
        · exact fun _ => Or.inl (decide_eq_true (Finset.mem_insert_self ..))
      apply marked.setIdle
      exact fun _ => Or.inl (decide_eq_true (Finset.mem_insert_self ..))

/-- **No barrier is lost.** While batches are opened apart and closed ones are left to
somebody, whenever all calls have returned every closed batch has its barrier event, and
at every moment only batches with a barrier event are recorded as emitted. -/
theorem barrier_not_lost (world : BarrierWorld)
    (reached : machine.Reachable batchesApart world) :
    ((∀ call, world.calls call = .idle) → ∀ batchId, world.Closed batchId →
      batchId ∈ world.events.map Prod.fst) ∧
    ∀ batchId ∈ world.tasks.emittedBatchIds, batchId ∈ world.events.map Prod.fst := by
  have kept : world.Kept := by
    apply reached.invariant
    · rintro _ rfl
      exact kept_initial
    · intro before action after valid allowed stepped
      exact valid.step allowed stepped
  refine ⟨fun idle batchId closed => ?_, kept.emitted⟩
  rcases closed with earlier | ⟨rfl, ended⟩
  · exact kept.older batchId earlier
  · rcases kept.pending ended with emitted | ⟨call, busy⟩
    · exact kept.emitted _ (of_decide_eq_true emitted)
    · exact (busy (idle call)).elim

/-- One task is delegated and ends, and its barrier call returns. -/
def returnedRun : List BarrierAction := singleCallRun ++ [.emitted 0]

/-- The closed batch of the run has its barrier. -/
theorem barrier_not_lost_of_returnedRun :
    (after returnedRun).Closed 0 ∧ 0 ∈ (after returnedRun).events.map Prod.fst := by
  have delegated : machine.Reachable batchesApart (after (returnedRun.take 1)) :=
    .tail (.initial rfl)
      (show batchesApart {} (.delegate "main_sub_1" "general") from nofun) rfl
  have marked : machine.Reachable batchesApart (after (returnedRun.take 2)) :=
    .tail delegated
      (show batchesApart _ (.mark 0 "main_sub_1" "completed" "done") from trivial) rfl
  have begun : machine.Reachable batchesApart (after (returnedRun.take 3)) :=
    .tail marked (show batchesApart _ (.begin 0) from fun _ _ => by decide) rfl
  have written : machine.Reachable batchesApart (after (returnedRun.take 4)) :=
    .tail begun (show batchesApart _ (.wrote 0 .committed) from rfl) rfl
  have published : machine.Reachable batchesApart (after (returnedRun.take 5)) :=
    .tail written (show batchesApart _ (.publish 0 true) from rfl) rfl
  have returned : machine.Reachable batchesApart (after returnedRun) :=
    .tail published (show batchesApart _ (.emitted 0) from trivial) rfl
  have closed : (after returnedRun).Closed 0 := Or.inr (by decide)
  refine ⟨closed, (barrier_not_lost (after returnedRun) returned).1 ?_ 0 closed⟩
  intro call
  obtain ⟨marking, writing, publishing, announced, calls⟩ : ∃ marking writing publishing announced,
      (after returnedRun).calls = Function.update (Function.update (Function.update
        (Function.update (Function.update (fun _ => .idle) 0 marking) 0 writing) 0 publishing) 0
          announced) 0 .idle := ⟨_, _, _, _, rfl⟩
  simp only [Function.update_idem] at calls
  rw [calls]
  exact congrFun (Function.update_eq_self 0 fun _ => BarrierCall.idle) call

/-- The second task is delegated between the mark that closes the first batch and
the readiness test, which then looks at the second batch. -/
def droppedRun : List BarrierAction :=
  [.delegate "main_sub_1" "general", .mark 0 "main_sub_1" "completed" "first",
    .delegate "main_sub_2" "general", .begin 0]

/-- All calls have returned, the first batch is closed, and it has no barrier. -/
theorem barrier_dropped : machine.Reachable Machine.anyStep (after droppedRun) ∧
    (∀ call, (after droppedRun).calls call = .idle) ∧ (after droppedRun).Closed 0 ∧
      0 ∉ (after droppedRun).events.map Prod.fst := by
  have replayed : machine.replay Machine.anyStep {} droppedRun = some (after droppedRun) := rfl
  refine ⟨.of_replay rfl replayed, ?_, Or.inl (by decide), by decide⟩
  intro call
  have calls : (after droppedRun).calls =
      Function.update (Function.update (fun _ => .idle) 0 (.marked "main_sub_1")) 0 .idle := rfl
  rw [calls, Function.update_idem]
  exact congrFun (Function.update_eq_self 0 fun _ => BarrierCall.idle) call

/-- The second task is delegated while the barrier of the first batch is being
written, and the emission mark lands on the second batch. -/
def misplacedMarkRun : List BarrierAction :=
  [.delegate "main_sub_1" "general", .mark 0 "main_sub_1" "completed" "first", .begin 0,
    .delegate "main_sub_2" "general", .wrote 0 .committed, .publish 0 true, .emitted 0]

/-- The second batch is recorded as emitted without an event. -/
theorem next_batch_emitted : machine.Reachable Machine.anyStep (after misplacedMarkRun) ∧
    1 ∈ (after misplacedMarkRun).tasks.emittedBatchIds ∧
      1 ∉ (after misplacedMarkRun).events.map Prod.fst := by
  have replayed : machine.replay Machine.anyStep {} misplacedMarkRun =
      some (after misplacedMarkRun) := rfl
  exact ⟨.of_replay rfl replayed, by decide, by decide⟩

/-- The only task is killed, and the snapshot push of the kill raises. -/
def killedRun : List BarrierAction :=
  [.delegate "main_sub_1" "general",
    .mark 0 "main_sub_1" "cancelled" "Cancelled by user request.", .raised 0]

/-- The kill has ended, the batch is closed, and it has no barrier. -/
theorem barrier_left : machine.Reachable Machine.anyStep (after killedRun) ∧
    (∀ call, (after killedRun).calls call = .idle) ∧ (after killedRun).Closed 0 ∧
      0 ∉ (after killedRun).events.map Prod.fst := by
  have replayed : machine.replay Machine.anyStep {} killedRun = some (after killedRun) := rfl
  refine ⟨.of_replay rfl replayed, ?_, Or.inr (by decide), by decide⟩
  intro call
  have calls : (after killedRun).calls =
      Function.update (Function.update (fun _ => .idle) 0 (.marked "main_sub_1")) 0 .idle := rfl
  rw [calls, Function.update_idem]
  exact congrFun (Function.update_eq_self 0 fun _ => BarrierCall.idle) call

end FairyClaw.BarrierWorld
