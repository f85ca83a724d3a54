import FairyClaw.Planning.SubtaskCoordinator

/-! # Concurrent barrier calls

Any number of callers mark a task terminal and then call
`publish_subtask_barrier_if_ready`, while the main session delegates tasks and
sends them messages. The mark is followed by awaits, and the call itself waits
for the history write and for the publish, so every step below may be followed
by a step of somebody else. Written messages and published events are recorded
with the batch that the call read. Without a runtime bus nothing is published, and
the call goes on.
-/

namespace FairyClaw

open Foundation

/-- Where one caller stands. -/
inductive BarrierCall
  | idle
  | marked (subSessionId : String)
  | writing (batchId : Nat) (barrier : SubtaskBarrier)
  | publishing (batchId : Nat) (barrier : SubtaskBarrier)
  | published (batchId : Nat)

/-- The batch of a call between its readiness test and its emission mark. -/
def BarrierCall.batch : BarrierCall → Option Nat
  | idle | marked _ => none
  | writing batchId _ | publishing batchId _ | published batchId => some batchId

/-- Outcome of the history write: an exception raised after the commit leaves
the message in the history. -/
inductive WriteOutcome
  | committed
  | committedThenRaised
  | failed
  deriving DecidableEq

/-- The subtasks of a main session, its callers, and what they have written and published. -/
structure BarrierWorld where
  tasks : SessionSubTaskState := {}
  calls : Nat → BarrierCall := fun _ => .idle
  messages : List (Nat × String) := []
  events : List (Nat × AggregatedResults) := []

/-- The steps of the callers and of the main session's tools. -/
inductive BarrierAction
  | delegate (subSessionId taskType : String)
  | message (subSessionId taskType : String)
  | mark (call : Nat) (subSessionId status summary : String)
  | raised (call : Nat)
  | begin (call : Nat)
  | wrote (call : Nat) (outcome : WriteOutcome)
  | publish (call : Nat) (delivered : Bool)
  | emitted (call : Nat)

namespace BarrierWorld

/-- One caller moves. -/
def setCall (world : BarrierWorld) (call : Nat) (state : BarrierCall) : BarrierWorld :=
  { world with calls := Function.update world.calls call state }

/-- The readiness test of a call, up to the history write. -/
def beginCall (world : BarrierWorld) (call : Nat) : BarrierWorld :=
  match world.tasks.barrierIfReady with
  | none => world.setCall call .idle
  | some barrier => world.setCall call (.writing world.tasks.currentBatchId barrier)

/-- One step. An exception of the snapshot push ends a caller whose mark is made; its
barrier call is not made then. `delegate_task` ends so as well, after marking a task
whose event has not been published. -/
def step (world : BarrierWorld) : BarrierAction → Option BarrierWorld
  | .delegate subSessionId taskType =>
      (world.tasks.perform (.delegate subSessionId taskType)).map
        fun tasks => { world with tasks := tasks }
  | .message subSessionId taskType =>
      (world.tasks.perform (.message subSessionId taskType)).map
        fun tasks => { world with tasks := tasks }
  | .mark call subSessionId status summary =>
      match world.calls call with
      | .idle =>
          (world.tasks.perform (.mark subSessionId status summary)).map fun tasks =>
            { world with tasks := tasks }.setCall call (.marked subSessionId)
      | _ => none
  | .raised call =>
      match world.calls call with
      | .marked _ => some (world.setCall call .idle)
      | _ => none
  | .begin call =>
      match world.calls call with
      | .idle | .marked _ => some (world.beginCall call)
      | _ => none
  | .wrote call outcome =>
      match world.calls call with
      | .writing batchId barrier =>
          let stored := { world with messages := world.messages ++ [(batchId, barrier.message)] }
          match outcome with
          | .committed => some (stored.setCall call (.publishing batchId barrier))
          | .committedThenRaised => some (stored.setCall call .idle)
          | .failed => some (world.setCall call .idle)
      | _ => none
  | .publish call delivered =>
      match world.calls call with
      | .publishing batchId barrier =>
          some ((if delivered then { world with
            events := world.events ++ [(batchId, barrier.aggregated)] } else world).setCall call
              (.published batchId))
      | _ => none
  | .emitted call =>
      match world.calls call with
      | .published _ =>
          (world.tasks.perform .emitted).map fun tasks =>
            { world with tasks := tasks }.setCall call .idle
      | _ => none

/-- The callers of a main session without tasks, at first. -/
def machine : Machine BarrierWorld BarrierAction where
  initial := (· = {})
  step := step

/-- What each step does, read off the caller's position. -/
theorem step_cases {world next : BarrierWorld} {action : BarrierAction}
    (stepped : world.step action = some next) :
    match action with
    | .delegate subSessionId taskType => ∃ tasks,
        world.tasks.perform (.delegate subSessionId taskType) = some tasks ∧
          next = { world with tasks := tasks }
    | .message subSessionId taskType => ∃ tasks,
        world.tasks.perform (.message subSessionId taskType) = some tasks ∧
          next = { world with tasks := tasks }
    | .mark call subSessionId status summary => world.calls call = .idle ∧ ∃ tasks,
        world.tasks.perform (.mark subSessionId status summary) = some tasks ∧
          next = { world with tasks := tasks }.setCall call (.marked subSessionId)
    | .raised call => (∃ subSessionId, world.calls call = .marked subSessionId) ∧
        next = world.setCall call .idle
    | .begin call => (world.calls call).batch = none ∧
        ((world.tasks.barrierIfReady = none ∧ next = world.setCall call .idle) ∨
          ∃ barrier, world.tasks.barrierIfReady = some barrier ∧
            next = world.setCall call (.writing world.tasks.currentBatchId barrier))
    | .wrote call outcome => ∃ batchId barrier, world.calls call = .writing batchId barrier ∧
        match outcome with
        | .committed => next = { world with
            messages := world.messages ++ [(batchId, barrier.message)] }.setCall call
              (.publishing batchId barrier)
        | .committedThenRaised => next = { world with
            messages := world.messages ++ [(batchId, barrier.message)] }.setCall call .idle
        | .failed => next = world.setCall call .idle
    | .publish call delivered => ∃ batchId barrier,
        world.calls call = .publishing batchId barrier ∧
        next = (if delivered then { world with
          events := world.events ++ [(batchId, barrier.aggregated)] } else world).setCall call
            (.published batchId)
    | .emitted call => ∃ batchId, world.calls call = .published batchId ∧
        next = { world with tasks := world.tasks.markAggregationEmitted }.setCall call .idle := by
  cases action with
  | delegate =>
      obtain ⟨tasks, performed, rfl⟩ := Option.map_eq_some_iff.mp stepped
      exact ⟨tasks, performed, rfl⟩
  | message => exact ⟨_, rfl, (Option.some.inj stepped).symm⟩
  | mark call =>
      simp only [step] at stepped
      split at stepped
      · exact ⟨‹_›, _, rfl, (Option.some.inj stepped).symm⟩
      · cases stepped
  | raised call =>
      simp only [step] at stepped
      split at stepped
      · exact ⟨⟨_, ‹_›⟩, (Option.some.inj stepped).symm⟩
      · cases stepped
  | begin call =>
      have outcome (started : world.beginCall call = next) :
          (world.tasks.barrierIfReady = none ∧ next = world.setCall call .idle) ∨
            ∃ barrier, world.tasks.barrierIfReady = some barrier ∧
              next = world.setCall call (.writing world.tasks.currentBatchId barrier) := by
        unfold beginCall at started
        cases ready : world.tasks.barrierIfReady with
        | none =>
            rw [ready] at started
            exact Or.inl ⟨rfl, started.symm⟩
        | some barrier =>
            rw [ready] at started
            exact Or.inr ⟨barrier, rfl, started.symm⟩
      simp only [step] at stepped
      split at stepped
      · rename_i idle
        exact ⟨by rw [idle]; rfl, outcome (Option.some.inj stepped)⟩
      · rename_i marked
        exact ⟨by rw [marked]; rfl, outcome (Option.some.inj stepped)⟩
      · cases stepped
  | wrote call outcome =>
      simp only [step] at stepped
      split at stepped
      · rename_i batchId barrier writing
        refine ⟨batchId, barrier, writing, ?_⟩
        cases outcome <;> exact (Option.some.inj stepped).symm
      · cases stepped
  | publish call delivered =>
      simp only [step] at stepped
      split at stepped
      · exact ⟨_, _, ‹_›, (Option.some.inj stepped).symm⟩
      · cases stepped
  | emitted call =>
      simp only [step] at stepped
      split at stepped
      · exact ⟨_, ‹_›, (Option.some.inj stepped).symm⟩
      · cases stepped

/-- A batch that has closed: an earlier one, or the current one once all its
records are terminal. -/
def Closed (world : BarrierWorld) (batchId : Nat) : Prop :=
  batchId < world.tasks.currentBatchId ∨
    (batchId = world.tasks.currentBatchId ∧ world.tasks.isAllSubtasksTerminal = true)

end BarrierWorld

end FairyClaw
