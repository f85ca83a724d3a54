import FairyClaw.Planning.Barrier

/-! # At most one barrier for each batch

Nothing prevents two calls from passing the readiness test before either has
made the emission mark, and both then publish
(`FairyClaw.BarrierWorld.two_barriers`). In runs where a call passes the test
only while no other call holds the current batch, and where no history write for a
batch still to be marked raises after its commit, each batch gets at most one
message and one event (`FairyClaw.BarrierWorld.barrier_at_most_once`).
-/

namespace FairyClaw.BarrierWorld

open Foundation

variable {world next : BarrierWorld}

/-- The state of the call that is set. -/
theorem calls_setCall_self (world : BarrierWorld) (call : Nat) (state : BarrierCall) :
    (world.setCall call state).calls call = state := Function.update_self ..

/-- Another call keeps its state. -/
theorem calls_setCall_of_ne (world : BarrierWorld) {call other : Nat} (different : other ≠ call)
    (state : BarrierCall) : (world.setCall call state).calls other = world.calls other :=
  Function.update_of_ne different ..

/-- The calls that hold a batch after one call has moved. -/
theorem holds_setCall {call other batchId : Nat} {state : BarrierCall}
    (holds : ((world.setCall call state).calls other).batch = some batchId) :
    (other = call ∧ state.batch = some batchId) ∨
      (other ≠ call ∧ (world.calls other).batch = some batchId) := by
  by_cases same : other = call
  · subst same
    rw [calls_setCall_self] at holds
    exact Or.inl ⟨rfl, holds⟩
  · rw [calls_setCall_of_ne world same] at holds
    exact Or.inr ⟨same, holds⟩

/-- The later state of a call is the one that stays. -/
theorem setCall_setCall (world : BarrierWorld) (call : Nat) (first second : BarrierCall) :
    (world.setCall call first).setCall call second = world.setCall call second := by
  simp only [setCall, Function.update_idem]

/-- Closed batches stay closed. -/
theorem Closed.perform {batchId : Nat} (closed : world.Closed batchId)
    (batches : world.tasks.BatchInvariant) {op : SubtaskOp} {tasks : SessionSubTaskState}
    (performed : world.tasks.perform op = some tasks) :
    { world with tasks := tasks }.Closed batchId := by
  rcases closed with earlier | ⟨rfl, ended⟩
  · rcases SessionSubTaskState.perform_currentBatchId performed with same | ⟨_, moved⟩
    · exact Or.inl (same ▸ earlier)
    · exact Or.inl (show batchId < tasks.currentBatchId by omega)
  · rcases batches.perform_of_closed ended performed with moved | ⟨same, records, _⟩
    · exact Or.inl (show world.tasks.currentBatchId < tasks.currentBatchId by omega)
    · exact Or.inr ⟨same.symm,
        (SessionSubTaskState.isAllSubtasksTerminal_congr records same).trans ended⟩

/-- An emission mark on a closed batch is kept, or the batch is no longer current. -/
theorem Closed.emitted_perform {batchId : Nat} (closed : world.Closed batchId)
    (batches : world.tasks.BatchInvariant) {op : SubtaskOp} {tasks : SessionSubTaskState}
    (performed : world.tasks.perform op = some tasks)
    (emitted : batchId < world.tasks.currentBatchId ∨ batchId ∈ world.tasks.emittedBatchIds) :
    batchId < tasks.currentBatchId ∨ batchId ∈ tasks.emittedBatchIds := by
  have moves : world.tasks.currentBatchId ≤ tasks.currentBatchId := by
    rcases SessionSubTaskState.perform_currentBatchId performed with same | ⟨_, moved⟩ <;> omega
  rcases closed with earlier | ⟨rfl, ended⟩
  · exact Or.inl (by omega)
  · rcases batches.perform_of_closed ended performed with moved | ⟨_, _, kept⟩
    · exact Or.inl (by omega)
    · rcases emitted with earlier | marked
      · exact absurd earlier (Nat.lt_irrefl _)
      · exact Or.inr (kept marked)

/-- No further call passes the readiness test for the batch: it is over, its
emission mark is made, or a call is about to make it. -/
def Spent (world : BarrierWorld) (batchId : Nat) : Prop :=
  (batchId < world.tasks.currentBatchId ∨ batchId ∈ world.tasks.emittedBatchIds) ∨
    ∃ call, (world.calls call).batch = some batchId

/-- A change of the subtasks opens a spent batch to no other call. -/
theorem Spent.perform {batchId : Nat} (spent : world.Spent batchId)
    (closed : world.Closed batchId) (batches : world.tasks.BatchInvariant) {op : SubtaskOp}
    {tasks : SessionSubTaskState} (performed : world.tasks.perform op = some tasks) :
    { world with tasks := tasks }.Spent batchId := by
  rcases spent with settled | holder
  · exact Or.inl (closed.emitted_perform batches performed settled)
  · exact Or.inr holder

/-- A call keeps its batch, or lets go of one that is settled. -/
theorem Spent.setCall {batchId call : Nat} {state : BarrierCall} (spent : world.Spent batchId)
    (kept : (world.calls call).batch = some batchId → state.batch = some batchId ∨
      batchId < world.tasks.currentBatchId ∨ batchId ∈ world.tasks.emittedBatchIds) :
    (world.setCall call state).Spent batchId := by
  rcases spent with settled | ⟨holder, holds⟩
  · exact Or.inl settled
  · by_cases same : holder = call
    · subst same
      rcases kept holds with keeps | settled
      · exact Or.inr ⟨holder, by rw [calls_setCall_self]; exact keeps⟩
      · exact Or.inl settled
    · exact Or.inr ⟨holder, by rw [calls_setCall_of_ne world same]; exact holds⟩

/-- Every batch is held by one call at a time, and a call that is still to write
or publish works on a batch without message or event. -/
structure Once (world : BarrierWorld) : Prop where
  batches : world.tasks.BatchInvariant
  single : ∀ first second batchId, (world.calls first).batch = some batchId →
    (world.calls second).batch = some batchId → first = second
  held : ∀ call batchId, (world.calls call).batch = some batchId → world.Closed batchId
  written : ∀ batchId ∈ world.messages.map Prod.fst, world.Closed batchId ∧ world.Spent batchId
  announced : ∀ batchId ∈ world.events.map Prod.fst, world.Closed batchId ∧ world.Spent batchId
  writing : ∀ call batchId barrier, world.calls call = .writing batchId barrier →
    batchId ∉ world.messages.map Prod.fst ∧ batchId ∉ world.events.map Prod.fst
  publishing : ∀ call batchId barrier, world.calls call = .publishing batchId barrier →
    batchId ∉ world.events.map Prod.fst
  messagesOnce : (world.messages.map Prod.fst).Nodup
  eventsOnce : (world.events.map Prod.fst).Nodup

/-- Nothing has been published at the start. -/
theorem once_initial : Once {} where
  batches := SessionSubTaskState.batchInvariant_empty
  single := nofun
  held := nofun
  written := nofun
  announced := nofun
  writing := nofun
  publishing := nofun
  messagesOnce := List.nodup_nil
  eventsOnce := List.nodup_nil

/-- A change of the subtasks publishes no barrier. -/
theorem Once.perform (once : world.Once) {op : SubtaskOp} {tasks : SessionSubTaskState}
    (performed : world.tasks.perform op = some tasks) : { world with tasks := tasks }.Once := by
  have spent {batchId : Nat} (before : world.Closed batchId ∧ world.Spent batchId) :
      { world with tasks := tasks }.Closed batchId ∧ { world with tasks := tasks }.Spent batchId :=
    ⟨before.1.perform once.batches performed,
      before.2.perform before.1 once.batches performed⟩
  exact
    { batches := once.batches.perform performed
      single := once.single
      held := fun call batchId holds => (once.held call batchId holds).perform once.batches performed
      written := fun batchId member => spent (once.written batchId member)
      announced := fun batchId member => spent (once.announced batchId member)
      writing := once.writing
      publishing := once.publishing
      messagesOnce := once.messagesOnce
      eventsOnce := once.eventsOnce }

/-- A call may let go of its batch once nothing more can be written for it, or
while nothing has been. -/
theorem Once.release (once : world.Once) {call : Nat} {state : BarrierCall}
    (free : state.batch = none)
    (done : ∀ batchId, (world.calls call).batch = some batchId →
      (batchId < world.tasks.currentBatchId ∨ batchId ∈ world.tasks.emittedBatchIds) ∨
        (batchId ∉ world.messages.map Prod.fst ∧ batchId ∉ world.events.map Prod.fst)) :
    (world.setCall call state).Once := by
  have others {other batchId : Nat}
      (holds : ((world.setCall call state).calls other).batch = some batchId) :
      other ≠ call ∧ (world.calls other).batch = some batchId := by
    rcases holds_setCall holds with ⟨_, holding⟩ | before
    · rw [free] at holding
      cases holding
    · exact before
  have spent {batchId : Nat} (before : world.Spent batchId)
      (present : batchId ∈ world.messages.map Prod.fst ∨ batchId ∈ world.events.map Prod.fst) :
      (world.setCall call state).Spent batchId := by
    apply before.setCall
    intro holds
    rcases done batchId holds with settled | ⟨unwritten, unannounced⟩
    · exact Or.inr settled
    · exact (present.elim unwritten unannounced).elim
  have pending {other batchId : Nat} {moved : BarrierCall} (holds : moved.batch = some batchId)
      (stands : (world.setCall call state).calls other = moved) : world.calls other = moved := by
    have different := (others (stands ▸ holds)).1
    rwa [calls_setCall_of_ne world different] at stands
  exact
    { batches := once.batches
      single := fun first second batchId firstHolds secondHolds =>
        once.single first second batchId (others firstHolds).2 (others secondHolds).2
      held := fun other batchId holds => once.held other batchId (others holds).2
      written := fun batchId member => ⟨(once.written batchId member).1,
        spent (once.written batchId member).2 (Or.inl member)⟩
      announced := fun batchId member => ⟨(once.announced batchId member).1,
        spent (once.announced batchId member).2 (Or.inr member)⟩
      writing := fun other batchId barrier stands =>
        once.writing other batchId barrier (pending rfl stands)
      publishing := fun other batchId barrier stands =>
        once.publishing other batchId barrier (pending rfl stands)
      messagesOnce := once.messagesOnce
      eventsOnce := once.eventsOnce }

/-- A call that alone passes the readiness test takes a batch without message
or event. -/
theorem Once.acquire (once : world.Once) {call : Nat} {barrier : SubtaskBarrier}
    (ready : world.tasks.barrierIfReady = some barrier)
    (alone : ∀ other, (world.calls other).batch ≠ some world.tasks.currentBatchId)
    (free : (world.calls call).batch = none) :
    (world.setCall call (.writing world.tasks.currentBatchId barrier)).Once := by
  have started : world.tasks.barrierIfReady.isSome = true := by rw [ready]; rfl
  have closed := SessionSubTaskState.isAllSubtasksTerminal_of_barrierIfReady started
  have fresh := SessionSubTaskState.hasAggregationEmitted_of_barrierIfReady started
  have untouched (spent : world.Spent world.tasks.currentBatchId) : False := by
    rcases spent with (earlier | emitted) | ⟨holder, holds⟩
    · exact Nat.lt_irrefl _ earlier
    · exact of_decide_eq_false fresh emitted
    · exact alone holder holds
  have spent {batchId : Nat} (before : world.Spent batchId) :
      (world.setCall call (.writing world.tasks.currentBatchId barrier)).Spent batchId := by
    apply before.setCall
    intro holds
    rw [free] at holds
    cases holds
  refine ⟨once.batches, ?_, ?_, ?_, ?_, ?_, ?_, once.messagesOnce, once.eventsOnce⟩
  · intro first second batchId firstHolds secondHolds
    rcases holds_setCall firstHolds with ⟨rfl, ⟨⟩⟩ | ⟨_, firstBefore⟩
    · rcases holds_setCall secondHolds with ⟨rfl, _⟩ | ⟨_, secondBefore⟩
      · rfl
      · exact (alone second secondBefore).elim
    · rcases holds_setCall secondHolds with ⟨_, ⟨⟩⟩ | ⟨_, secondBefore⟩
      · exact (alone first firstBefore).elim
      · exact once.single first second batchId firstBefore secondBefore
  · intro other batchId holds
    rcases holds_setCall holds with ⟨_, ⟨⟩⟩ | ⟨_, before⟩
    · exact Or.inr ⟨rfl, closed⟩
    · exact once.held other batchId before
  · intro batchId member
    exact ⟨(once.written batchId member).1, spent (once.written batchId member).2⟩
  · intro batchId member
    exact ⟨(once.announced batchId member).1, spent (once.announced batchId member).2⟩
  · intro other batchId pending stands
    by_cases same : other = call
    · subst same
      rw [calls_setCall_self] at stands
      cases stands
      exact ⟨fun member => untouched (once.written _ member).2,
        fun member => untouched (once.announced _ member).2⟩
    · rw [calls_setCall_of_ne world same] at stands
      exact once.writing other batchId pending stands
  · intro other batchId pending stands
    by_cases same : other = call
    · subst same
      rw [calls_setCall_self] at stands
      cases stands
    · rw [calls_setCall_of_ne world same] at stands
      exact once.publishing other batchId pending stands

/-- A call goes on with the batch it holds, adding entries for that batch only. -/
theorem Once.advance (once : world.Once) {call batchId : Nat} {state : BarrierCall}
    (holds : (world.calls call).batch = some batchId) (keeps : state.batch = some batchId)
    (progress : ∀ barrier, state ≠ .writing batchId barrier)
    {messages : List (Nat × String)} {events : List (Nat × AggregatedResults)}
    (written : ∀ other ∈ messages.map Prod.fst,
      other ∈ world.messages.map Prod.fst ∨ other = batchId)
    (announced : ∀ other ∈ events.map Prod.fst, other ∈ world.events.map Prod.fst ∨ other = batchId)
    (unpublished : ∀ barrier, state = .publishing batchId barrier → batchId ∉ events.map Prod.fst)
    (messagesOnce : (messages.map Prod.fst).Nodup) (eventsOnce : (events.map Prod.fst).Nodup) :
    ({ world with messages := messages, events := events }.setCall call state).Once := by
  have batch_eq (other : Nat) :
      (({ world with messages := messages, events := events }.setCall call state).calls
        other).batch = (world.calls other).batch := by
    by_cases same : other = call
    · subst same
      rw [calls_setCall_self, keeps, holds]
    · rw [calls_setCall_of_ne _ same]
  have spent {other : Nat} (before : world.Spent other) :
      ({ world with messages := messages, events := events }.setCall call state).Spent other := by
    rcases before with settled | ⟨holder, holding⟩
    · exact Or.inl settled
    · exact Or.inr ⟨holder, (batch_eq holder).trans holding⟩
  have heldSpent : ({ world with messages := messages, events := events }.setCall call
      state).Spent batchId := Or.inr ⟨call, (batch_eq call).trans holds⟩
  have closed := once.held call batchId holds
  have foreign {other otherBatch : Nat} {pending : BarrierCall} (different : other ≠ call)
      (stands : world.calls other = pending) (holding : pending.batch = some otherBatch) :
      otherBatch ≠ batchId := by
    rintro rfl
    exact different (once.single other call otherBatch (by rw [stands]; exact holding) holds)
  refine ⟨once.batches, ?_, ?_, ?_, ?_, ?_, ?_, messagesOnce, eventsOnce⟩
  · intro first second otherBatch firstHolds secondHolds
    rw [batch_eq] at firstHolds secondHolds
    exact once.single first second otherBatch firstHolds secondHolds
  · intro other otherBatch holding
    rw [batch_eq] at holding
    exact once.held other otherBatch holding
  · intro other member
    rcases written other member with before | rfl
    · exact ⟨(once.written other before).1, spent (once.written other before).2⟩
    · exact ⟨closed, heldSpent⟩
  · intro other member
    rcases announced other member with before | rfl
    · exact ⟨(once.announced other before).1, spent (once.announced other before).2⟩
    · exact ⟨closed, heldSpent⟩
  · intro other otherBatch barrier stands
    by_cases same : other = call
    · subst same
      rw [calls_setCall_self] at stands
      rw [stands] at keeps
      cases keeps
      exact (progress barrier stands).elim
    · rw [calls_setCall_of_ne _ same] at stands
      have different := foreign same stands rfl
      obtain ⟨unwritten, unannounced⟩ := once.writing other otherBatch barrier stands
      exact ⟨fun member => (written otherBatch member).elim unwritten different,
        fun member => (announced otherBatch member).elim unannounced different⟩
  · intro other otherBatch barrier stands
    by_cases same : other = call
    · subst same
      rw [calls_setCall_self] at stands
      rw [stands] at keeps
      cases keeps
      exact unpublished barrier stands
    · rw [calls_setCall_of_ne _ same] at stands
      have different := foreign same stands rfl
      have unannounced := once.publishing other otherBatch barrier stands
      exact fun member => (announced otherBatch member).elim unannounced different

/-- A call passes the readiness test only while no call holds the current batch,
and no history write for the current batch raises after its commit before the
emission mark of the batch is made. -/
def oneAtATime : Machine.Guard BarrierWorld BarrierAction := fun world action =>
  match action with
  | .begin _ => world.tasks.barrierIfReady.isSome = true →
      ∀ other, (world.calls other).batch ≠ some world.tasks.currentBatchId
  | .wrote call outcome => outcome = .committedThenRaised →
      (world.calls call).batch = some world.tasks.currentBatchId →
        world.tasks.hasAggregationEmitted = true
  | _ => True

/-- The batch of an entry of a longer list. -/
theorem mem_map_fst_append {Value : Type*} {entries : List (Nat × Value)} {batchId other : Nat}
    {value : Value} (member : other ∈ (entries ++ [(batchId, value)]).map Prod.fst) :
    other ∈ entries.map Prod.fst ∨ other = batchId := by
  simpa only [List.map_append, List.map_cons, List.map_nil, List.mem_append,
    List.mem_singleton] using member

/-- An entry of a new batch repeats none. -/
theorem nodup_map_fst_append {Value : Type*} {entries : List (Nat × Value)} {batchId : Nat}
    {value : Value} (once : (entries.map Prod.fst).Nodup)
    (fresh : batchId ∉ entries.map Prod.fst) :
    ((entries ++ [(batchId, value)]).map Prod.fst).Nodup := by
  rw [List.map_append, List.map_cons, List.map_nil]
  exact List.Nodup.append once (List.nodup_singleton _)
    (List.disjoint_singleton.mpr fresh)

/-- One call at a time publishes a barrier at most once. -/
theorem Once.step (once : world.Once) {action : BarrierAction} (allowed : oneAtATime world action)
    (stepped : world.step action = some next) : next.Once := by
  have effect := step_cases stepped
  cases action with
  | delegate subSessionId taskType =>
      obtain ⟨tasks, performed, rfl⟩ := effect
      exact once.perform performed
  | message subSessionId taskType =>
      obtain ⟨tasks, performed, rfl⟩ := effect
      exact once.perform performed
  | mark call subSessionId status summary =>
      obtain ⟨idle, tasks, performed, rfl⟩ := effect
      apply (once.perform performed).release rfl
      intro batchId holds
      have free : (world.calls call).batch = none := by rw [idle]; rfl
      exact absurd holds (by rw [free]; exact nofun)
  | raised call =>
      obtain ⟨⟨subSessionId, marked⟩, rfl⟩ := effect
      apply once.release rfl
      intro batchId holds
      rw [marked] at holds
      cases holds
  | begin call =>
      obtain ⟨free, ⟨_, rfl⟩ | ⟨barrier, ready, rfl⟩⟩ := effect
      · apply once.release rfl
        intro batchId holds
        rw [free] at holds
        cases holds
      · exact once.acquire ready (allowed (by rw [ready]; rfl)) free
  | wrote call outcome =>
      obtain ⟨batchId, barrier, writing, effect⟩ := effect
      obtain ⟨unwritten, unannounced⟩ := once.writing call batchId barrier writing
      have holds : (world.calls call).batch = some batchId := by rw [writing]; rfl
      have progress (other : SubtaskBarrier) :
          BarrierCall.publishing batchId barrier ≠ .writing batchId other := nofun
      have stored : ({ world with
          messages := world.messages ++ [(batchId, barrier.message)] }.setCall call
            (.publishing batchId barrier)).Once :=
        once.advance holds rfl progress (fun _ => mem_map_fst_append) (fun _ => Or.inl)
          (fun _ _ => unannounced) (nodup_map_fst_append once.messagesOnce unwritten)
          once.eventsOnce
      cases outcome with
      | committed =>
          cases effect
          exact stored
      | committedThenRaised =>
          cases effect
          rw [← setCall_setCall _ call (.publishing batchId barrier) .idle]
          apply stored.release rfl
          intro other holding
          rw [calls_setCall_self] at holding
          cases holding
          refine Or.inl ?_
          rcases once.held call batchId holds with earlier | ⟨rfl, _⟩
          · exact Or.inl earlier
          · exact Or.inr (of_decide_eq_true (allowed rfl holds))
      | failed =>
          cases effect
          apply once.release rfl
          intro other holding
          rw [holds] at holding
          cases holding
          exact Or.inr ⟨unwritten, unannounced⟩
  | publish call delivered =>
      obtain ⟨batchId, barrier, publishing, rfl⟩ := effect
      have unannounced := once.publishing call batchId barrier publishing
      have holds : (world.calls call).batch = some batchId := by rw [publishing]; rfl
      have progress (other : SubtaskBarrier) :
          BarrierCall.published batchId ≠ .writing batchId other := nofun
      cases delivered with
      | true =>
          exact once.advance holds rfl progress (fun _ => Or.inl) (fun _ => mem_map_fst_append)
            nofun once.messagesOnce (nodup_map_fst_append once.eventsOnce unannounced)
      | false =>
          exact once.advance holds rfl progress (fun _ => Or.inl) (fun _ => Or.inl) nofun
            once.messagesOnce once.eventsOnce
  | emitted call =>
      obtain ⟨batchId, published, rfl⟩ := effect
      have performed : world.tasks.perform .emitted = some world.tasks.markAggregationEmitted := rfl
      have holds : (world.calls call).batch = some batchId := by rw [published]; rfl
      apply (once.perform performed).release rfl
      intro other holding
      have same : other = batchId := Option.some.inj (holding.symm.trans holds)
      subst same
      rcases once.held call other holds with earlier | ⟨rfl, _⟩
      · exact Or.inl (Or.inl earlier)
      · exact Or.inl (Or.inr (Finset.mem_insert_self ..))

/-- **At most one barrier.** While calls pass the readiness test one at a time
and no history write for a batch still to be marked raises after its commit, every
batch gets at most one barrier message and at most one barrier event. -/
theorem barrier_at_most_once (world : BarrierWorld) (reached : machine.Reachable oneAtATime world)
    (batchId : Nat) :
    (world.messages.map Prod.fst).count batchId ≤ 1 ∧
      (world.events.map Prod.fst).count batchId ≤ 1 := by
  have once : world.Once := by
    apply reached.invariant
    · rintro _ rfl
      exact once_initial
    · intro before action after valid allowed stepped
      exact valid.step allowed stepped
  exact ⟨List.nodup_iff_count_le_one.mp once.messagesOnce batchId,
    List.nodup_iff_count_le_one.mp once.eventsOnce batchId⟩

/-- The world after some actions. -/
def after (actions : List BarrierAction) : BarrierWorld :=
  (machine.replay Machine.anyStep {} actions).getD {}

/-- One task is delegated, ends, and its barrier is published. -/
def singleCallRun : List BarrierAction :=
  [.delegate "main_sub_1" "general", .mark 0 "main_sub_1" "completed" "done", .begin 0,
    .wrote 0 .committed, .publish 0 true]

/-- The run of a single call has one barrier. -/
theorem barrier_at_most_once_of_singleCallRun :
    (after singleCallRun).events.map Prod.fst = [0] ∧
      ((after singleCallRun).messages.map Prod.fst).count 0 ≤ 1 ∧
      ((after singleCallRun).events.map Prod.fst).count 0 ≤ 1 := by
  have marked : machine.Reachable oneAtATime (after (singleCallRun.take 2)) :=
    .tail (.tail (.initial rfl) (show oneAtATime {} (.delegate "main_sub_1" "general") from trivial)
      rfl) (show oneAtATime (after (singleCallRun.take 1))
        (.mark 0 "main_sub_1" "completed" "done") from trivial) rfl
  have alone : oneAtATime (after (singleCallRun.take 2)) (.begin 0) := by
    intro _ other
    by_cases same : other = 0
    · subst same
      exact nofun
    · have calls : (after (singleCallRun.take 2)).calls =
          Function.update (fun _ => .idle) 0 (.marked "main_sub_1") := rfl
      have idle : (after (singleCallRun.take 2)).calls other = .idle := by
        rw [calls, Function.update_of_ne same]
      rw [idle]
      exact nofun
  have begun : machine.Reachable oneAtATime (after (singleCallRun.take 3)) :=
    .tail marked alone rfl
  have written : machine.Reachable oneAtATime (after (singleCallRun.take 4)) :=
    .tail begun (show oneAtATime _ (.wrote 0 .committed) from nofun) rfl
  have published : machine.Reachable oneAtATime (after singleCallRun) :=
    .tail written (show oneAtATime _ (.publish 0 true) from trivial) rfl
  exact ⟨by decide, barrier_at_most_once (after singleCallRun) published 0⟩

/-- Two tasks end on two workers, and both calls pass the readiness test before
either makes the emission mark. -/
def twoWorkersRun : List BarrierAction :=
  [.delegate "main_sub_1" "general", .delegate "main_sub_2" "general",
    .mark 0 "main_sub_1" "completed" "first", .mark 1 "main_sub_2" "completed" "second",
    .begin 0, .begin 1, .wrote 0 .committed, .wrote 1 .committed, .publish 0 true,
    .publish 1 true,
    .emitted 0, .emitted 1]

/-- The state after both workers have called. -/
def twoWorkersWorld : BarrierWorld :=
  (machine.replay Machine.anyStep {} twoWorkersRun).getD {}

/-- Two overlapping calls write and publish the barrier twice. -/
theorem two_barriers : machine.Reachable Machine.anyStep twoWorkersWorld ∧
    (twoWorkersWorld.messages.map Prod.fst).count 0 = 2 ∧
      (twoWorkersWorld.events.map Prod.fst).count 0 = 2 := by
  have replayed : machine.replay Machine.anyStep {} twoWorkersRun = some twoWorkersWorld := rfl
  exact ⟨.of_replay rfl replayed, by decide, by decide⟩

end FairyClaw.BarrierWorld
