import FairyClaw.Planning.BarrierKept

/-! # The conditions on the barrier calls

The conditions under which a batch gets at most one barrier, and no closed batch
loses its barrier, exclude no step needlessly. A run that leaves the first one can go
on to write a second message for a batch
(`FairyClaw.BarrierWorld.doubling_of_excluded`). A run that leaves the second one,
with all writes and publishes succeeding, can go on to mark a batch without event as
emitted, or has left a closed batch that is never published, or one without event while
no call is under way (`FairyClaw.BarrierWorld.lost_of_excluded`).
-/

namespace FairyClaw.BarrierWorld

open Foundation

variable {world next : BarrierWorld}

/-- Calls past their history write have a message for their batch, and calls hold the
current batch while it has summaries. -/
structure Grounded (world : BarrierWorld) : Prop where
  stored : ∀ call batchId, (world.calls call).batch = some batchId →
    (∃ barrier, world.calls call = .writing batchId barrier) ∨
      batchId ∈ world.messages.map Prod.fst
  blocks : ∀ call, (world.calls call).batch = some world.tasks.currentBatchId →
    world.tasks.barrierBlocks ≠ []

/-- A change of the subtasks leaves the calls grounded. -/
theorem Grounded.perform (grounded : world.Grounded) (batches : world.tasks.BatchInvariant)
    (held : ∀ call batchId, (world.calls call).batch = some batchId → world.Closed batchId)
    {op : SubtaskOp} {tasks : SessionSubTaskState}
    (performed : world.tasks.perform op = some tasks) :
    { world with tasks := tasks }.Grounded := by
  refine ⟨grounded.stored, fun call holds => ?_⟩
  change (world.calls call).batch = some tasks.currentBatchId at holds
  have moves : world.tasks.currentBatchId ≤ tasks.currentBatchId := by
    rcases SessionSubTaskState.perform_currentBatchId performed with same | ⟨_, moved⟩ <;> omega
  rcases held call _ holds with earlier | ⟨same, closed⟩
  · omega
  · rcases batches.perform_of_closed closed performed with moved | ⟨_, records, _⟩
    · omega
    · change tasks.barrierBlocks ≠ []
      rw [SessionSubTaskState.barrierBlocks_congr records same]
      exact grounded.blocks call (same ▸ holds)

/-- A call moves on, with its message stored and without taking another batch. -/
theorem Grounded.setCall (grounded : world.Grounded) {call : Nat} {state : BarrierCall}
    (stored : ∀ batchId, state.batch = some batchId →
      (∃ barrier, state = .writing batchId barrier) ∨ batchId ∈ world.messages.map Prod.fst)
    (blocks : state.batch = some world.tasks.currentBatchId → world.tasks.barrierBlocks ≠ []) :
    (world.setCall call state).Grounded := by
  constructor
  · intro other batchId holds
    rcases holds_setCall holds with ⟨rfl, moved⟩ | ⟨different, before⟩
    · rw [calls_setCall_self]
      exact stored batchId moved
    · rw [calls_setCall_of_ne world different]
      exact grounded.stored other batchId before
  · intro other holds
    rcases holds_setCall holds with ⟨_, moved⟩ | ⟨_, before⟩
    · exact blocks moved
    · exact grounded.blocks other before

/-- Every step leaves the calls grounded. -/
theorem Grounded.step (grounded : world.Grounded) (batches : world.tasks.BatchInvariant)
    (held : ∀ call batchId, (world.calls call).batch = some batchId → world.Closed batchId)
    {action : BarrierAction} (stepped : world.step action = some next) : next.Grounded := by
  have effect := step_cases stepped
  cases action with
  | delegate | message =>
      obtain ⟨tasks, performed, rfl⟩ := effect
      exact grounded.perform batches held performed
  | mark =>
      obtain ⟨_, tasks, performed, rfl⟩ := effect
      exact (grounded.perform batches held performed).setCall nofun nofun
  | raised call =>
      obtain ⟨_, rfl⟩ := effect
      exact grounded.setCall nofun nofun
  | begin call =>
      obtain ⟨_, ⟨_, rfl⟩ | ⟨barrier, ready, rfl⟩⟩ := effect
      · exact grounded.setCall nofun nofun
      · refine grounded.setCall (fun batchId holds => Or.inl ⟨barrier, ?_⟩) fun _ => ?_
        · cases holds
          rfl
        · exact SessionSubTaskState.barrierBlocks_ne_nil_of_barrierIfReady (by rw [ready]; rfl)
  | wrote call outcome =>
      obtain ⟨batchId, barrier, writing, effect⟩ := effect
      have holds : (world.calls call).batch = some batchId := by rw [writing]; rfl
      have written : { world with
          messages := world.messages ++ [(batchId, barrier.message)] }.Grounded := by
        refine ⟨fun other otherBatch holds => ?_, grounded.blocks⟩
        rcases grounded.stored other otherBatch holds with waits | member
        · exact Or.inl waits
        · exact Or.inr (List.map_append ▸ List.mem_append_left _ member)
      cases outcome with
      | committed =>
          cases effect
          refine written.setCall (fun other moved => Or.inr ?_) fun moved => ?_
          · cases moved
            exact List.map_append ▸ List.mem_append_right _ List.mem_cons_self
          · exact grounded.blocks call (holds.trans moved)
      | committedThenRaised =>
          cases effect
          exact written.setCall nofun nofun
      | failed =>
          cases effect
          exact grounded.setCall nofun nofun
  | publish call delivered =>
      obtain ⟨batchId, barrier, publishing, rfl⟩ := effect
      have holds : (world.calls call).batch = some batchId := by rw [publishing]; rfl
      have announced : (if delivered then { world with
          events := world.events ++ [(batchId, barrier.aggregated)] } else world).Grounded := by
        split
        · exact ⟨grounded.stored, grounded.blocks⟩
        · exact grounded
      refine announced.setCall (fun other moved => Or.inr ?_) fun moved => ?_
      · cases moved
        rcases grounded.stored call batchId holds with ⟨_, writing⟩ | member
        · rw [publishing] at writing
          cases writing
        · split <;> exact member
      · have same : (if delivered then { world with
            events := world.events ++ [(batchId, barrier.aggregated)] } else world).tasks =
              world.tasks := by split <;> rfl
        rw [same] at moved ⊢
        exact grounded.blocks call (holds.trans moved)
  | emitted =>
      obtain ⟨_, _, rfl⟩ := effect
      have performed : world.tasks.perform .emitted = some world.tasks.markAggregationEmitted := rfl
      exact (grounded.perform batches held performed).setCall nofun nofun

/-- Some continuation writes a second message for a batch. -/
def Doubling (world : BarrierWorld) : Prop :=
  ∃ later batchId, machine.Steps Machine.anyStep world later ∧
    1 < (later.messages.map Prod.fst).count batchId

/-- A continuation of the next state is one of the state before. -/
theorem Doubling.before {action : BarrierAction} (doubling : next.Doubling)
    (stepped : world.step action = some next) : world.Doubling := by
  obtain ⟨later, batchId, steps, twice⟩ := doubling
  exact ⟨later, batchId, .head trivial stepped steps, twice⟩

/-- The entries of a batch with one more entry. -/
theorem count_map_fst_append {Value : Type*} (entries : List (Nat × Value)) (batchId : Nat)
    (value : Value) : ((entries ++ [(batchId, value)]).map Prod.fst).count batchId =
      (entries.map Prod.fst).count batchId + 1 := by
  rw [List.map_append, List.map_cons, List.map_nil, List.count_append, List.count_singleton_self]

/-- What holds in every run with one call at a time. -/
theorem once_grounded_of_reachable (reached : machine.Reachable oneAtATime world) :
    world.Once ∧ world.Grounded := by
  let Both (world : BarrierWorld) := world.Once ∧ world.Grounded
  suffices both : Both world from both
  apply reached.invariant
  · rintro _ rfl
    exact ⟨once_initial, ⟨nofun, nofun⟩⟩
  · intro before action after ⟨once, grounded⟩ allowed stepped
    exact ⟨once.step allowed stepped, grounded.step once.batches once.held stepped⟩

/-- A message that is written is there before the event. -/
theorem wrote_committed {call batchId : Nat} {barrier : SubtaskBarrier}
    (writing : world.calls call = .writing batchId barrier) :
    world.step (.wrote call .committed) = some ({ world with
      messages := world.messages ++ [(batchId, barrier.message)] }.setCall call
        (.publishing batchId barrier)) := by
  simp only [step, writing]

/-- A call about to write for a batch that has a message. -/
theorem doubling_of_writing {call batchId : Nat} {barrier : SubtaskBarrier}
    (writing : world.calls call = .writing batchId barrier)
    (present : 0 < (world.messages.map Prod.fst).count batchId) : world.Doubling := by
  refine Doubling.before ⟨_, batchId, .refl _, ?_⟩ (wrote_committed writing)
  change 1 < ((world.messages ++ [_]).map Prod.fst).count batchId
  rw [count_map_fst_append]
  omega

/-- Every step excluded by the condition can lead to a second message. -/
theorem doubling_of_excluded {action : BarrierAction} (reached : machine.Reachable oneAtATime world)
    (stepped : machine.step world action = some next) (excluded : ¬ oneAtATime world action) :
    next.Doubling := by
  obtain ⟨once, grounded⟩ := once_grounded_of_reachable reached
  have moved : world.step action = some next := stepped
  have effect := step_cases moved
  cases action with
  | begin call =>
      have shared : world.tasks.barrierIfReady.isSome = true ∧
          ∃ other, (world.calls other).batch = some world.tasks.currentBatchId := by
        by_contra apart
        exact excluded fun ready other holds => apart ⟨ready, other, holds⟩
      obtain ⟨started, other, holds⟩ := shared
      obtain ⟨free, ⟨unready, _⟩ | ⟨barrier, ready, rfl⟩⟩ := effect
      · rw [unready] at started
        cases started
      · have different : other ≠ call := by
          rintro rfl
          rw [free] at holds
          cases holds
        have call_writing : (world.setCall call (.writing world.tasks.currentBatchId barrier)).calls
            call = .writing world.tasks.currentBatchId barrier := calls_setCall_self ..
        rcases grounded.stored other _ holds with ⟨pending, writing⟩ | member
        · -- the other call writes its message first
          have other_writing : (world.setCall call (.writing world.tasks.currentBatchId
              barrier)).calls other = .writing world.tasks.currentBatchId pending :=
            (calls_setCall_of_ne world different _).trans writing
          refine Doubling.before ?_ (wrote_committed other_writing)
          refine doubling_of_writing ((calls_setCall_of_ne _ different.symm _).trans call_writing) ?_
          change 0 < ((world.messages ++ [_]).map Prod.fst).count _
          rw [count_map_fst_append]
          exact Nat.succ_pos _
        · exact doubling_of_writing call_writing (List.count_pos_iff.mpr member)
  | wrote call outcome =>
      have raised : outcome = .committedThenRaised ∧
          (world.calls call).batch = some world.tasks.currentBatchId ∧
            world.tasks.hasAggregationEmitted = false := by
        by_contra fine
        refine excluded fun raised holds => ?_
        by_contra unmarked
        exact fine ⟨raised, holds, Bool.eq_false_iff.mpr unmarked⟩
      obtain ⟨rfl, holds, unmarked⟩ := raised
      obtain ⟨batchId, pending, writing, effect⟩ := effect
      cases effect
      have same : batchId = world.tasks.currentBatchId := by
        rw [writing] at holds
        exact Option.some.inj holds
      subst same
      have closed : world.tasks.isAllSubtasksTerminal = true := by
        rcases once.held call _ holds with earlier | ⟨_, closed⟩
        · exact absurd earlier (Nat.lt_irrefl _)
        · exact closed
      have ready : world.tasks.barrierIfReady.isSome = true := by
        cases none_ready : world.tasks.barrierIfReady with
        | some => rfl
        | none =>
            rcases SessionSubTaskState.barrierIfReady_eq_none none_ready closed with emitted | empty
            · rw [unmarked] at emitted
              cases emitted
            · exact absurd empty (grounded.blocks call holds)
      obtain ⟨barrier, ready⟩ := Option.isSome_iff_exists.mp ready
      let idled := { world with
        messages := world.messages ++ [(world.tasks.currentBatchId, pending.message)] }.setCall
          call .idle
      have begins : idled.step (.begin call) =
          some (idled.setCall call (.writing world.tasks.currentBatchId barrier)) := by
        have idle : idled.calls call = .idle := calls_setCall_self ..
        have tasks : idled.tasks = world.tasks := rfl
        simp only [step, idle, beginCall, tasks, ready]
      refine (doubling_of_writing (calls_setCall_self ..)
        ?_).before begins
      change 0 < ((world.messages ++ [_]).map Prod.fst).count _
      rw [count_map_fst_append]
      exact Nat.succ_pos _
  | _ => exact absurd trivial excluded

/-- Events are about closed batches that no further call takes. -/
def Announced (world : BarrierWorld) : Prop :=
  ∀ batchId ∈ world.events.map Prod.fst, world.Closed batchId ∧ world.Spent batchId

/-- A change of the subtasks keeps the events on closed batches. -/
theorem Announced.perform (announced : world.Announced) (batches : world.tasks.BatchInvariant)
    {op : SubtaskOp} {tasks : SessionSubTaskState}
    (performed : world.tasks.perform op = some tasks) : { world with tasks := tasks }.Announced :=
  fun batchId member =>
    ⟨(announced batchId member).1.perform batches performed,
      (announced batchId member).2.perform (announced batchId member).1 batches performed⟩

/-- A call that goes on keeps the events on closed batches. -/
theorem Announced.setCall (announced : world.Announced) {call : Nat} {state : BarrierCall}
    (kept : ∀ batchId, (world.calls call).batch = some batchId → state.batch = some batchId ∨
      batchId < world.tasks.currentBatchId ∨ batchId ∈ world.tasks.emittedBatchIds) :
    (world.setCall call state).Announced :=
  fun batchId member =>
    ⟨(announced batchId member).1, (announced batchId member).2.setCall (kept batchId)⟩

/-- Every step keeps the events on closed batches while the batches stay apart. -/
theorem Announced.step (announced : world.Announced) (kept : world.Kept) {action : BarrierAction}
    (allowed : batchesApart world action) (stepped : world.step action = some next) :
    next.Announced := by
  have effect := step_cases stepped
  cases action with
  | delegate | message =>
      obtain ⟨tasks, performed, rfl⟩ := effect
      exact announced.perform kept.batches performed
  | mark =>
      obtain ⟨idle, tasks, performed, rfl⟩ := effect
      refine (announced.perform kept.batches performed).setCall fun batchId holds => ?_
      rw [idle] at holds
      cases holds
  | raised call =>
      obtain ⟨⟨subSessionId, marked⟩, rfl⟩ := effect
      apply announced.setCall
      intro batchId holds
      rw [marked] at holds
      cases holds
  | begin call =>
      obtain ⟨free, ⟨_, rfl⟩ | ⟨barrier, _, rfl⟩⟩ := effect
      all_goals
        refine announced.setCall fun batchId holds => ?_
        rw [free] at holds
        cases holds
  | wrote call outcome =>
      obtain ⟨batchId, barrier, writing, effect⟩ := effect
      have succeeded : outcome = .committed := allowed
      subst succeeded
      cases effect
      refine Announced.setCall announced fun other holds => Or.inl ?_
      rw [writing] at holds
      exact holds
  | publish call delivered =>
      obtain ⟨batchId, barrier, publishing, rfl⟩ := effect
      have succeeded : delivered = true := allowed
      subst succeeded
      have holds : (world.calls call).batch = some batchId := by rw [publishing]; rfl
      have closed : world.Closed batchId := Or.inr (kept.held call batchId holds)
      have told : { world with
          events := world.events ++ [(batchId, barrier.aggregated)] }.Announced := by
        intro other member
        rcases mem_map_fst_append member with earlier | rfl
        · exact announced other earlier
        · exact ⟨closed, Or.inr ⟨call, holds⟩⟩
      refine told.setCall fun other holding => Or.inl ?_
      rw [publishing] at holding
      exact holding
  | emitted call =>
      obtain ⟨batchId, published, rfl⟩ := effect
      have performed : world.tasks.perform .emitted = some world.tasks.markAggregationEmitted := rfl
      have holds : (world.calls call).batch = some batchId := by rw [published]; rfl
      obtain ⟨rfl, _⟩ := kept.held call batchId holds
      refine (announced.perform kept.batches performed).setCall fun other holding => ?_
      have same : other = world.tasks.currentBatchId := Option.some.inj (holding.symm.trans holds)
      subst same
      exact Or.inr (Or.inr (Finset.mem_insert_self ..))

/-- A closed batch without event that no call holds, and that no call will take. -/
structure Dropped (batchId : Nat) (world : BarrierWorld) : Prop where
  batches : world.tasks.BatchInvariant
  silent : batchId ∉ world.events.map Prod.fst
  unheld : ∀ call, (world.calls call).batch ≠ some batchId
  passed : batchId < world.tasks.currentBatchId ∨ (batchId = world.tasks.currentBatchId ∧
    world.tasks.isAllSubtasksTerminal = true ∧ world.tasks.barrierBlocks = [])

/-- A change of the subtasks leaves a batch dropped. -/
theorem Dropped.perform {batchId : Nat} (dropped : world.Dropped batchId) {op : SubtaskOp}
    {tasks : SessionSubTaskState} (performed : world.tasks.perform op = some tasks) :
    { world with tasks := tasks }.Dropped batchId := by
  refine ⟨dropped.batches.perform performed, dropped.silent, dropped.unheld, ?_⟩
  rcases dropped.passed with earlier | ⟨rfl, closed, empty⟩
  · rcases SessionSubTaskState.perform_currentBatchId performed with same | ⟨_, moved⟩
    · exact Or.inl (same ▸ earlier)
    · exact Or.inl (show batchId < tasks.currentBatchId by omega)
  · rcases dropped.batches.perform_of_closed closed performed with moved | ⟨same, records, _⟩
    · exact Or.inl (show world.tasks.currentBatchId < tasks.currentBatchId by omega)
    · refine Or.inr ⟨same.symm, ?_, ?_⟩
      · rw [SessionSubTaskState.isAllSubtasksTerminal_congr records same]
        exact closed
      · rw [SessionSubTaskState.barrierBlocks_congr records same]
        exact empty

/-- A call moves without taking the batch. -/
theorem Dropped.setCall {batchId : Nat} (dropped : world.Dropped batchId) {call : Nat}
    {state : BarrierCall} (apart : state.batch ≠ some batchId) :
    (world.setCall call state).Dropped batchId := by
  refine ⟨dropped.batches, dropped.silent, fun other holds => ?_, dropped.passed⟩
  rcases holds_setCall holds with ⟨_, moved⟩ | ⟨_, before⟩
  · exact apart moved
  · exact dropped.unheld other before

/-- A dropped batch stays dropped. -/
theorem Dropped.step {batchId : Nat} (dropped : world.Dropped batchId) {action : BarrierAction}
    (stepped : world.step action = some next) : next.Dropped batchId := by
  have effect := step_cases stepped
  cases action with
  | delegate | message =>
      obtain ⟨tasks, performed, rfl⟩ := effect
      exact dropped.perform performed
  | mark =>
      obtain ⟨_, tasks, performed, rfl⟩ := effect
      exact (dropped.perform performed).setCall nofun
  | raised call =>
      obtain ⟨_, rfl⟩ := effect
      exact dropped.setCall nofun
  | begin call =>
      obtain ⟨_, ⟨_, rfl⟩ | ⟨barrier, ready, rfl⟩⟩ := effect
      · exact dropped.setCall nofun
      · refine dropped.setCall fun takes => ?_
        have started : world.tasks.barrierIfReady.isSome = true := by rw [ready]; rfl
        have same : world.tasks.currentBatchId = batchId := Option.some.inj takes
        rcases dropped.passed with earlier | ⟨_, _, empty⟩
        · omega
        · exact SessionSubTaskState.barrierBlocks_ne_nil_of_barrierIfReady started empty
  | wrote call outcome =>
      obtain ⟨other, barrier, writing, effect⟩ := effect
      have apart : some other ≠ some batchId := by
        have unheld := dropped.unheld call
        rw [writing] at unheld
        exact unheld
      have stored : { world with
          messages := world.messages ++ [(other, barrier.message)] }.Dropped batchId :=
        ⟨dropped.batches, dropped.silent, dropped.unheld, dropped.passed⟩
      cases outcome with
      | committed =>
          cases effect
          exact stored.setCall apart
      | committedThenRaised =>
          cases effect
          exact stored.setCall nofun
      | failed =>
          cases effect
          exact dropped.setCall nofun
  | publish call delivered =>
      obtain ⟨other, barrier, publishing, rfl⟩ := effect
      have apart : some other ≠ some batchId := by
        have unheld := dropped.unheld call
        rw [publishing] at unheld
        exact unheld
      cases delivered with
      | true =>
          have told : { world with
              events := world.events ++ [(other, barrier.aggregated)] }.Dropped batchId := by
            refine ⟨dropped.batches, fun member => ?_, dropped.unheld, dropped.passed⟩
            rcases mem_map_fst_append member with earlier | rfl
            · exact dropped.silent earlier
            · exact apart rfl
          exact told.setCall apart
      | false => exact dropped.setCall apart
  | emitted =>
      obtain ⟨_, _, rfl⟩ := effect
      have performed : world.tasks.perform .emitted = some world.tasks.markAggregationEmitted := rfl
      exact (dropped.perform performed).setCall nofun

/-- Some continuation records a batch without event as emitted. -/
def Misplacing (world : BarrierWorld) : Prop :=
  ∃ later batchId, machine.Steps Machine.anyStep world later ∧
    batchId ∈ later.tasks.emittedBatchIds ∧ batchId ∉ later.events.map Prod.fst

/-- A continuation of the next state is one of the state before. -/
theorem Misplacing.before {action : BarrierAction} (misplacing : next.Misplacing)
    (stepped : world.step action = some next) : world.Misplacing := by
  obtain ⟨later, batchId, steps, misplaced⟩ := misplacing
  exact ⟨later, batchId, .head trivial stepped steps, misplaced⟩

/-- A call that holds an earlier batch makes its mark on the current one. -/
theorem misplacing_of_held {call batchId : Nat} (holds : (world.calls call).batch = some batchId)
    (earlier : batchId < world.tasks.currentBatchId)
    (silent : world.tasks.currentBatchId ∉ world.events.map Prod.fst) : world.Misplacing := by
  have published {world : BarrierWorld} (published : world.calls call = .published batchId)
      (silent : world.tasks.currentBatchId ∉ world.events.map Prod.fst) : world.Misplacing := by
    have marks : world.step (.emitted call) =
        some ({ world with tasks := world.tasks.markAggregationEmitted }.setCall call .idle) := by
      simp only [step, published]
      rfl
    have misplaced : ({ world with tasks := world.tasks.markAggregationEmitted }.setCall call
        .idle).Misplacing :=
      ⟨_, world.tasks.currentBatchId, .refl _, Finset.mem_insert_self .., silent⟩
    exact misplaced.before marks
  have publishing {world : BarrierWorld} {barrier : SubtaskBarrier}
      (publishing : world.calls call = .publishing batchId barrier)
      (earlier : batchId < world.tasks.currentBatchId)
      (silent : world.tasks.currentBatchId ∉ world.events.map Prod.fst) : world.Misplacing := by
    have publishes : world.step (.publish call true) = some ({ world with
        events := world.events ++ [(batchId, barrier.aggregated)] }.setCall call
          (.published batchId)) := by
      simp only [step, publishing, ↓reduceIte]
    refine (published (calls_setCall_self ..) fun member => ?_).before publishes
    rcases mem_map_fst_append member with known | same
    · exact silent known
    · exact Nat.ne_of_gt earlier same
  cases stands : world.calls call with
  | idle | marked =>
      rw [stands] at holds
      cases holds
  | published other =>
      rw [stands] at holds
      cases holds
      exact published stands silent
  | publishing other barrier =>
      rw [stands] at holds
      cases holds
      exact publishing stands earlier silent
  | writing other barrier =>
      rw [stands] at holds
      cases holds
      have stored : ({ world with
          messages := world.messages ++ [(batchId, barrier.message)] }.setCall call
            (.publishing batchId barrier)).Misplacing :=
        publishing (calls_setCall_self ..) earlier silent
      exact stored.before (wrote_committed stands)

/-- History writes and publishes succeed. -/
def deliveriesSucceed : Machine.Guard BarrierWorld BarrierAction := fun _ action =>
  match action with
  | .wrote _ outcome => outcome = .committed
  | .publish _ delivered => delivered = true
  | _ => True

/-- What holds in every run in which the batches stay apart. -/
theorem kept_of_reachable (reached : machine.Reachable batchesApart world) :
    world.Kept ∧ world.Announced ∧ world.Grounded := by
  let All (world : BarrierWorld) := world.Kept ∧ world.Announced ∧ world.Grounded
  suffices all : All world from all
  apply reached.invariant
  · rintro _ rfl
    exact ⟨kept_initial, nofun, nofun, nofun⟩
  · intro before action after ⟨kept, announced, grounded⟩ allowed stepped
    exact ⟨kept.step allowed stepped, announced.step kept allowed stepped,
      grounded.step kept.batches (fun call batchId holds => Or.inr (kept.held call batchId holds))
        stepped⟩

/-- Opening a batch over a closed one whose barrier is not out. -/
theorem lost_of_opened (kept : world.Kept) (announced : world.Announced) {op : SubtaskOp}
    {tasks : SessionSubTaskState} (performed : world.tasks.perform op = some tasks)
    (inside : ¬ world.BarrierOut) (opened : tasks.currentBatchId = world.tasks.currentBatchId + 1) :
    { world with tasks := tasks }.Misplacing ∨
      { world with tasks := tasks }.Dropped world.tasks.currentBatchId := by
  have earlier : world.tasks.currentBatchId < tasks.currentBatchId := by omega
  by_cases held : ∃ call, (world.calls call).batch = some world.tasks.currentBatchId
  · obtain ⟨call, holds⟩ := held
    refine Or.inl (misplacing_of_held holds earlier fun member => ?_)
    rcases (announced tasks.currentBatchId member).1 with before | ⟨same, _⟩ <;> omega
  · have free (call : Nat) : (world.calls call).batch ≠ some world.tasks.currentBatchId :=
      fun holds => held ⟨call, holds⟩
    refine Or.inr ⟨kept.batches.perform performed, fun member => ?_, free, Or.inl earlier⟩
    rcases (announced world.tasks.currentBatchId member).2 with (before | emitted) | holder
    · exact Nat.lt_irrefl _ before
    · refine inside fun closed => ⟨decide_eq_true emitted, fun call => ?_⟩
      cases holds : (world.calls call).batch with
      | none => rfl
      | some batchId =>
          obtain ⟨rfl, _⟩ := kept.held call batchId holds
          exact (free call holds).elim
    · exact held holder

/-- All calls have returned, and a closed batch has no event. -/
def Unattended (world : BarrierWorld) : Prop :=
  (∀ call, world.calls call = .idle) ∧
    ∃ batchId, world.Closed batchId ∧ batchId ∉ world.events.map Prod.fst

/-- Every step excluded by the condition, in runs whose writes and publishes succeed,
can lead to a mark on a batch without event, or has left a closed batch that no
continuation publishes, or one without event while no call is under way. -/
theorem lost_of_excluded {action : BarrierAction} (reached : machine.Reachable batchesApart world)
    (stepped : machine.step world action = some next) (succeeds : deliveriesSucceed world action)
    (excluded : ¬ batchesApart world action) :
    next.Misplacing ∨ next.Unattended ∨ ∃ batchId, next.Closed batchId ∧
      ∀ later, machine.Steps Machine.anyStep next later → batchId ∉ later.events.map Prod.fst := by
  obtain ⟨kept, announced, grounded⟩ := kept_of_reachable reached
  have moved : world.step action = some next := stepped
  have forever {batchId : Nat} (dropped : next.Dropped batchId) (later : BarrierWorld)
      (steps : machine.Steps Machine.anyStep next later) : batchId ∉ later.events.map Prod.fst := by
    have still : later.Dropped batchId :=
      steps.invariant (fun _ _ _ dropped _ stepped => dropped.step stepped) dropped
    exact still.silent
  have opens {op : SubtaskOp} {tasks : SessionSubTaskState}
      (performed : world.tasks.perform op = some tasks) (same : next = { world with tasks := tasks })
      (inside : ¬ world.BarrierOut)
      (opened : tasks.currentBatchId = world.tasks.currentBatchId + 1) :
      next.Misplacing ∨ next.Unattended ∨ ∃ batchId, next.Closed batchId ∧
        ∀ later, machine.Steps Machine.anyStep next later →
          batchId ∉ later.events.map Prod.fst := by
    rcases lost_of_opened kept announced performed inside opened with misplacing | dropped
    · exact Or.inl (same ▸ misplacing)
    · refine Or.inr (Or.inr ⟨world.tasks.currentBatchId, same ▸ Or.inl ?_, forever (same ▸ dropped)⟩)
      exact opened ▸ Nat.lt_succ_self _
  have effect := step_cases moved
  cases action with
  | delegate subSessionId taskType =>
      obtain ⟨tasks, performed, same⟩ := effect
      have closed : world.tasks.isAllSubtasksTerminal = true := by
        by_contra running
        exact excluded fun closed => absurd closed running
      rcases kept.batches.perform_of_closed closed performed with opened | ⟨batch, records, _⟩
      · exact opens performed same excluded opened
      · have running := SessionSubTaskState.delegate_not_isAllSubtasksTerminal performed
        rw [SessionSubTaskState.isAllSubtasksTerminal_congr records batch, closed] at running
        cases running
  | message subSessionId taskType =>
      obtain ⟨tasks, performed, same⟩ := effect
      obtain ⟨known, inside⟩ := Classical.not_imp.mp excluded
      have closed : world.tasks.isAllSubtasksTerminal = true := by
        by_contra running
        exact inside fun closed => absurd closed running
      exact opens performed same inside (kept.batches.message_opens closed known performed)
  | raised call =>
      obtain ⟨⟨subSessionId, marked⟩, rfl⟩ := effect
      obtain ⟨closed, unmet⟩ := Classical.not_imp.mp excluded
      obtain ⟨fresh, alone⟩ := not_or.mp unmet
      have others (other : Nat) (different : other ≠ call) : world.calls other = .idle :=
        not_not.mp fun busy => alone ⟨other, different, busy⟩
      have idle (other : Nat) : (world.setCall call .idle).calls other = .idle := by
        by_cases same : other = call
        · rw [same, calls_setCall_self]
        · rw [calls_setCall_of_ne world same]
          exact others other same
      refine Or.inr (Or.inl ⟨idle, world.tasks.currentBatchId, Or.inr ⟨rfl, closed⟩, ?_⟩)
      intro member
      rcases (announced _ member).2 with (earlier | emitted) | ⟨holder, holds⟩
      · exact Nat.lt_irrefl _ earlier
      · exact fresh (decide_eq_true emitted)
      · by_cases same : holder = call
        · rw [same, marked] at holds
          cases holds
        · rw [others holder same] at holds
          cases holds
  | begin call =>
      obtain ⟨closed, unmarked⟩ := Classical.not_imp.mp excluded
      obtain ⟨fresh, empty⟩ := Classical.not_imp.mp unmarked
      have empty : world.tasks.barrierBlocks = [] := not_not.mp empty
      have free (call : Nat) : (world.calls call).batch ≠ some world.tasks.currentBatchId :=
        fun holds => grounded.blocks call holds empty
      have dropped : world.Dropped world.tasks.currentBatchId := by
        refine ⟨kept.batches, fun member => ?_, free, Or.inr ⟨rfl, closed, empty⟩⟩
        rcases (announced _ member).2 with (earlier | emitted) | ⟨holder, holds⟩
        · exact Nat.lt_irrefl _ earlier
        · exact of_decide_eq_false fresh emitted
        · exact free holder holds
      have tasks : next.tasks = world.tasks := by
        obtain ⟨_, ⟨_, rfl⟩ | ⟨_, _, rfl⟩⟩ := effect <;> rfl
      refine Or.inr (Or.inr ⟨world.tasks.currentBatchId, ?_, forever (dropped.step moved)⟩)
      unfold Closed
      rw [tasks]
      exact Or.inr ⟨rfl, closed⟩
  | _ => exact absurd succeeds excluded
end FairyClaw.BarrierWorld
