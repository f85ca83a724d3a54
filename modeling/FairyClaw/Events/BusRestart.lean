import FairyClaw.Events.BusOrder
import Mathlib.Algebra.BigOperators.Group.Finset.Basic
import Mathlib.Data.Fintype.Basic
import Mathlib.Data.List.Perm.Subperm

/-! # Stopping and starting the bus

`stop` cancels the worker tasks wherever they wait and returns when they have ended; `start` makes
new ones. The queues, the ready queue and the set of scheduled sessions survive. A task that is
cancelled on the ready queue holds no token, but one that is cancelled anywhere else takes the token
of its session along, and the session stays scheduled: its events are never dispatched again
(`FairyClaw.RestartableBus.restart_loses_token`).

As long as no worker holds a token when the bus is stopped, the restarted bus is the bus that was
never stopped, so its tokens are placed, and its workers empty every queue
(`FairyClaw.RestartableBus.restart_safety`).
-/

namespace FairyClaw

open Foundation

/-- The bus together with its worker tasks: whether the loop goes on, and which tasks have not
ended. -/
structure RestartableBus (workerCount : Nat) where
  bus : SessionEventBus workerCount := {}
  running : Bool := false
  tasks : Fin (max 1 workerCount) → Bool := fun _ => false

/-- A publish or a worker step, a call of `start` or `stop`, or the end of a cancelled task. -/
inductive RestartAction (workerCount : Nat)
  | bus (action : BusAction workerCount)
  | start
  | stop
  | cancelled (worker : Fin (max 1 workerCount))

/-- The worker that takes the step. -/
def BusAction.worker {workerCount : Nat} :
    BusAction workerCount → Option (Fin (max 1 workerCount))
  | .publish _ => none
  | .take worker | .pop worker | .dispatch worker | .reschedule worker => some worker

namespace RestartableBus

variable {workerCount : Nat}

/-- One step. A cancelled task takes no further step of the loop, and `start` is called when `stop`
has returned. -/
def step (state : RestartableBus workerCount) :
    RestartAction workerCount → Option (RestartableBus workerCount)
  | .bus action =>
      if action.worker.all fun worker => state.running && state.tasks worker then
        (state.bus.step action).map fun bus => { state with bus := bus }
      else none
  | .start =>
      if state.running then some state
      else if ∃ worker, state.tasks worker = true then none
      else some { state with running := true, tasks := fun _ => true }
  | .stop => some { state with running := false }
  | .cancelled worker =>
      if !state.running && state.tasks worker then
        some { state with
          bus := state.bus.setWorker worker .waiting
          tasks := Function.update state.tasks worker false }
      else none

variable (workerCount) in
/-- The bus from its construction on. -/
def machine : Machine (RestartableBus workerCount) (RestartAction workerCount) where
  initial := (· = {})
  step := step

/-- The bus is stopped only when no worker holds the token of a session. -/
def StopsIdle (state : RestartableBus workerCount) : RestartAction workerCount → Prop
  | .stop => ∀ worker, state.bus.held worker = none
  | .bus _ | .start | .cancelled _ => True

instance : DecidableRel (@StopsIdle workerCount) := fun state action =>
  match action with
  | .stop => inferInstanceAs (Decidable (∀ worker, state.bus.held worker = none))
  | .bus _ | .start | .cancelled _ => isTrue trivial

/-- The steps of the worker loops. -/
def WorkerStep (_ : RestartableBus workerCount) : RestartAction workerCount → Prop
  | .bus action => action.worker.isSome
  | .start | .stop | .cancelled _ => False

/-- The tokens of a session on the ready queue and in the hands of live workers. -/
def tokenCount (state : RestartableBus workerCount) (sessionId : String) : Nat :=
  state.bus.readySessions.count sessionId +
    (List.finRange (max 1 workerCount)).countP fun worker =>
      state.tasks worker && state.bus.held worker = some sessionId

/-- A session with waiting events has one token, and the scheduled sessions are those with one. -/
def Placed (state : RestartableBus workerCount) : Prop :=
  ∀ sessionId, (state.bus.queued sessionId ≠ [] → state.tokenCount sessionId = 1) ∧
    (sessionId ∈ state.bus.scheduledSessions ↔ state.tokenCount sessionId = 1) ∧
    state.tokenCount sessionId ≤ 1

end RestartableBus

/-- How far a worker is from its next return to the ready queue. -/
def WorkerState.phase : WorkerState → Nat
  | .waiting => 0
  | .popping _ => 3
  | .dispatching .. => 2
  | .rescheduling _ => 5

namespace SessionEventBus

variable {workerCount : Nat} {bus next : SessionEventBus workerCount}
  {action : BusAction workerCount} {worker : Fin (max 1 workerCount)}

/-- A worker holds nothing while it waits. -/
theorem held_eq_none : bus.held worker = none ↔ bus.workers worker = .waiting := by
  rw [held]
  cases bus.workers worker <;> simp [WorkerState.held]

/-- A publish moves no worker, and a worker moves only itself. -/
theorem held_of_step (moved : bus.step action = some next)
    {other : Fin (max 1 workerCount)} (still : action.worker ≠ some other) :
    next.held other = bus.held other := by
  have effect := step_cases moved
  cases action with
  | publish event =>
      have published : next = bus.publish event := effect
      rw [published]
      simp only [publish, held]
      split <;> rfl
  | take worker =>
      have apart : other ≠ worker := fun same => still (congrArg some same.symm)
      obtain ⟨_, _, _, _, rfl⟩ := effect
      rw [held_setWorker, Function.update_of_ne apart]
      rfl
  | pop worker =>
      have apart : other ≠ worker := fun same => still (congrArg some same.symm)
      obtain ⟨_, _, ⟨_, _, _, rfl⟩ | ⟨_, _, _, rfl⟩⟩ := effect
      all_goals
        rw [held_setWorker, Function.update_of_ne apart]
        rfl
  | dispatch worker =>
      have apart : other ≠ worker := fun same => still (congrArg some same.symm)
      obtain ⟨_, _, _, rfl⟩ := effect
      rw [held_setWorker, Function.update_of_ne apart]
      rfl
  | reschedule worker =>
      have apart : other ≠ worker := fun same => still (congrArg some same.symm)
      obtain ⟨_, _, rfl | ⟨_, _, _, rfl⟩⟩ := effect
      all_goals
        rw [held_setWorker, Function.update_of_ne apart]
        rfl

/-- The end of a task without a token changes nothing on the bus. -/
theorem setWorker_waiting (free : bus.held worker = none) :
    bus.setWorker worker .waiting = bus := by
  rw [setWorker, ← held_eq_none.mp free, Function.update_eq_self]

/-- No more events were dispatched than published. -/
theorem dispatched_length_le (reached : (machine workerCount).Reachable Machine.anyStep bus) :
    bus.dispatched.length ≤ bus.published.length := by
  classical
  have ledger := (fifo_and_mutual_exclusion workerCount bus reached).1
  apply List.Subperm.length_le
  rw [List.subperm_ext_iff]
  intro event _
  have own (events : List RuntimeEvent) :
      (ofSession events event.sessionId).count event = events.count event :=
    List.count_filter (by simp only [decide_true])
  rw [← own bus.dispatched, ← own bus.published, (ledger event.sessionId).1, List.append_assoc,
    List.count_append]
  exact Nat.le_add_right ..

/-- A measure of the work that is left when nothing more is published. -/
def work (bus : SessionEventBus workerCount) : Nat :=
  4 * (bus.published.length - bus.dispatched.length) + 4 * bus.readySessions.length +
    ∑ worker, (bus.workers worker).phase

/-- A worker in another state changes the sum of the phases by its own. -/
theorem sum_phase_update (workers : Fin (max 1 workerCount) → WorkerState)
    (worker : Fin (max 1 workerCount)) (state : WorkerState) :
    ∑ other, (Function.update workers worker state other).phase + (workers worker).phase =
      ∑ other, (workers other).phase + state.phase := by
  have others : ∑ other ∈ Finset.univ.erase worker, (Function.update workers worker state other).phase =
      ∑ other ∈ Finset.univ.erase worker, (workers other).phase := by
    apply Finset.sum_congr rfl
    intro other member
    rw [Function.update_of_ne (Finset.ne_of_mem_erase member)]
  rw [← Finset.sum_erase_add _ _ (Finset.mem_univ worker), others, Function.update_self,
    ← Finset.sum_erase_add _ (fun other => (workers other).phase) (Finset.mem_univ worker)]
  omega

/-- Every step of a worker leaves less work. -/
theorem work_lt (stepped : bus.step action = some next) (moves : action.worker = some worker)
    (fewer : next.dispatched.length ≤ next.published.length) :
    next.published = bus.published ∧ next.work < bus.work := by
  have effect := step_cases stepped
  have moved := sum_phase_update bus.workers
  cases action with
  | publish event => cases moves
  | take worker =>
      obtain ⟨sessionId, rest, waiting, ready, rfl⟩ := effect
      refine ⟨rfl, ?_⟩
      have phases := moved worker (.popping sessionId)
      rw [waiting] at phases
      change _ + 0 = _ + 3 at phases
      simp only [work, setWorker, ready, List.length_cons]
      omega
  | pop worker =>
      obtain ⟨sessionId, popping, ⟨event, rest, _, rfl⟩ | ⟨_, queues, _, rfl⟩⟩ := effect
      · refine ⟨rfl, ?_⟩
        have phases := moved worker (.dispatching sessionId event)
        rw [popping] at phases
        change _ + 3 = _ + 2 at phases
        simp only [work, setWorker]
        omega
      · refine ⟨rfl, ?_⟩
        have phases := moved worker .waiting
        rw [popping] at phases
        change _ + 3 = _ + 0 at phases
        simp only [work, setWorker]
        omega
  | dispatch worker =>
      obtain ⟨sessionId, event, dispatching, rfl⟩ := effect
      refine ⟨rfl, ?_⟩
      have phases := moved worker (.rescheduling sessionId)
      rw [dispatching] at phases
      change _ + 2 = _ + 5 at phases
      simp only [setWorker, List.length_append, List.length_singleton] at fewer
      simp only [work, setWorker, List.length_append, List.length_singleton]
      omega
  | reschedule worker =>
      obtain ⟨sessionId, rescheduling, rfl | ⟨_, queues, _, rfl⟩⟩ := effect
      · refine ⟨rfl, ?_⟩
        have phases := moved worker .waiting
        rw [rescheduling] at phases
        change _ + 5 = _ + 0 at phases
        simp only [work, setWorker, List.length_append, List.length_singleton]
        omega
      · refine ⟨rfl, ?_⟩
        have phases := moved worker .waiting
        rw [rescheduling] at phases
        change _ + 5 = _ + 0 at phases
        simp only [work, setWorker]
        omega

/-- Some worker can take a step, or nothing waits and nothing is in dispatch. -/
theorem Tokens.progress (tokens : bus.Tokens) :
    (∀ sessionId, bus.queued sessionId = [] ∧ bus.inDispatch sessionId = []) ∨
      ∃ action, action.worker.isSome ∧ (bus.step action).isSome := by
  by_cases busy : ∃ worker, bus.workers worker ≠ .waiting
  · obtain ⟨worker, busy⟩ := busy
    refine Or.inr ?_
    cases point : bus.workers worker with
    | waiting => exact absurd point busy
    | popping sessionId =>
        rcases bus.popNextEvent_cases sessionId with ⟨_, _, _, popped⟩ | ⟨_, _, popped, _⟩
        all_goals exact ⟨.pop worker, rfl, by simp only [SessionEventBus.step, point, popped, Option.isSome_some]⟩
    | dispatching sessionId event =>
        exact ⟨.dispatch worker, rfl, by simp only [SessionEventBus.step, point, Option.isSome_some]⟩
    | rescheduling sessionId =>
        exact ⟨.reschedule worker, rfl, by
          simp only [SessionEventBus.step, point, Option.isSome_some]⟩
  · push Not at busy
    cases ready : bus.readySessions with
    | cons sessionId rest =>
        let first : Fin (max 1 workerCount) := ⟨0, by omega⟩
        exact Or.inr ⟨.take first, rfl, by
          simp only [SessionEventBus.step, busy first, ready, Option.isSome_some]⟩
    | nil =>
        refine Or.inl fun sessionId => ⟨?_, ?_⟩
        · by_contra waiting
          have scheduled := tokens.queuedScheduled sessionId waiting
          rw [tokens.placed.markedIff, ready] at scheduled
          rcases scheduled with member | ⟨worker, holds⟩
          · cases member
          · rw [held_eq_none.mpr (busy worker)] at holds
            cases holds
        · apply List.filterMap_eq_nil_iff.mpr
          intro worker _
          rw [busy worker]
          rfl

end SessionEventBus

namespace RestartableBus

variable {workerCount : Nat} {state next : RestartableBus workerCount}
  {action : BusAction workerCount} {worker : Fin (max 1 workerCount)}

/-- Ended tasks and the tasks of a stopped bus hold nothing, and a running bus has all its tasks. -/
structure Orderly (state : RestartableBus workerCount) : Prop where
  ended : ∀ worker, state.tasks worker = false → state.bus.held worker = none
  stopped : state.running = false → ∀ worker, state.bus.held worker = none
  started : state.running = true → ∀ worker, state.tasks worker = true

/-- A step of the bus is taken by a task that runs. -/
theorem step_bus (stepped : state.step (.bus action) = some next) :
    (∀ worker, action.worker = some worker →
      state.running = true ∧ state.tasks worker = true) ∧
      ∃ bus, state.bus.step action = some bus ∧ next = { state with bus := bus } := by
  simp only [step] at stepped
  split at stepped
  · rename_i live
    obtain ⟨bus, moved, rfl⟩ := Option.map_eq_some_iff.mp stepped
    refine ⟨fun worker moves => ?_, bus, moved, rfl⟩
    rw [moves, Option.all_some, Bool.and_eq_true] at live
    exact live
  · cases stepped

/-- Starting a bus that runs changes nothing; otherwise there are new tasks. -/
theorem step_start (stepped : state.step .start = some next) :
    next = state ∨ next = { state with running := true, tasks := fun _ => true } := by
  simp only [step] at stepped
  split at stepped
  · cases stepped
    exact Or.inl rfl
  · split at stepped
    · cases stepped
    · cases stepped
      exact Or.inr rfl

/-- A cancelled task leaves its worker waiting. -/
theorem step_cancelled (stepped : state.step (.cancelled worker) = some next) :
    state.running = false ∧ state.tasks worker = true ∧ next = { state with
      bus := state.bus.setWorker worker .waiting
      tasks := Function.update state.tasks worker false } := by
  simp only [step] at stepped
  split at stepped
  · rename_i live
    rw [Bool.and_eq_true, Bool.not_eq_true'] at live
    cases stepped
    exact ⟨live.1, live.2, rfl⟩
  · cases stepped

/-- In runs that stop while nothing is in hand the bus is orderly. -/
theorem orderly_of_reachable (reached : (machine workerCount).Reachable StopsIdle state) :
    state.Orderly := by
  apply reached.invariant
  · rintro _ rfl
    exact ⟨fun _ _ => rfl, fun _ _ => rfl, nofun⟩
  · intro before action after orderly allowed stepped
    cases action with
    | bus action =>
        obtain ⟨live, bus, moved, rfl⟩ := step_bus stepped
        have kept {other : Fin (max 1 workerCount)} (asleep : before.running = false ∨
            before.tasks other = false) : bus.held other = before.bus.held other := by
          apply SessionEventBus.held_of_step moved
          intro moves
          obtain ⟨running, present⟩ := live other moves
          rcases asleep with stopped | ended
          · rw [running] at stopped
            cases stopped
          · rw [present] at ended
            cases ended
        refine ⟨?_, ?_, orderly.started⟩
        · intro other ended
          exact (kept (Or.inr ended)).trans (orderly.ended other ended)
        · intro stopped other
          exact (kept (Or.inl stopped)).trans (orderly.stopped stopped other)
    | start =>
        rcases step_start stepped with rfl | rfl
        · exact orderly
        · exact ⟨nofun, nofun, fun _ _ => rfl⟩
    | stop =>
        cases stepped
        exact ⟨orderly.ended, fun _ => allowed, nofun⟩
    | cancelled worker =>
        obtain ⟨stopped, _, rfl⟩ := step_cancelled stepped
        have free := orderly.stopped stopped
        rw [SessionEventBus.setWorker_waiting (free worker)]
        refine ⟨fun other _ => free other, fun _ => free, fun running => ?_⟩
        rw [stopped] at running
        cases running

/-- A bus that is stopped only when its workers are idle runs as if it were never stopped. -/
def uninterrupted : (machine workerCount).Simulation (SessionEventBus.machine workerCount)
    Orderly where
  view := RestartableBus.bus
  shown := fun _ action =>
    match action with
    | .bus action => some action
    | .start | .stop | .cancelled _ => none
  started := by
    rintro _ rfl
    rfl
  stepped := by
    intro before action after orderly stepped
    cases action with
    | bus action =>
        obtain ⟨_, bus, moved, rfl⟩ := step_bus stepped
        exact moved
    | start =>
        rcases step_start stepped with rfl | rfl
        · rfl
        · rfl
    | stop =>
        cases stepped
        rfl
    | cancelled worker =>
        obtain ⟨stopped, _, rfl⟩ := step_cancelled stepped
        exact SessionEventBus.setWorker_waiting (orderly.stopped stopped worker)

/-- In such runs the bus is where it would be without a restart. -/
theorem bus_reachable (reached : (machine workerCount).Reachable StopsIdle state) :
    (SessionEventBus.machine workerCount).Reachable Machine.anyStep state.bus :=
  uninterrupted.reachable (fun _ => orderly_of_reachable) reached

/-- When ended tasks hold nothing, a session has a token exactly when it is scheduled. -/
theorem tokenCount_eq (tokens : state.bus.Tokens)
    (ended : ∀ worker, state.tasks worker = false → state.bus.held worker = none)
    (sessionId : String) :
    state.tokenCount sessionId = if sessionId ∈ state.bus.scheduledSessions then 1 else 0 := by
  rw [← tokens.placed.count (List.nodup_finRange _) List.mem_finRange sessionId, tokenCount]
  congr 1
  apply List.countP_congr
  intro worker _
  rw [Bool.and_eq_true, and_iff_right_iff_imp]
  intro holds
  rw [← Bool.not_eq_false]
  intro gone
  rw [ended worker gone] at holds
  cases of_decide_eq_true holds

/-- Tokens that no ended task holds are placed. -/
theorem placed_of_tokens (state : RestartableBus workerCount) (tokens : state.bus.Tokens)
    (ended : ∀ worker, state.tasks worker = false → state.bus.held worker = none) :
    state.Placed := by
  intro sessionId
  rw [tokenCount_eq tokens ended sessionId]
  refine ⟨fun waiting => if_pos (tokens.queuedScheduled sessionId waiting), ?_, ?_⟩
  · split
    · exact iff_of_true ‹_› rfl
    · exact iff_of_false ‹_› nofun
  · split
    · exact le_rfl
    · exact Nat.zero_le 1

/-- A cancelled task keeps the tokens placed exactly when it holds none. -/
theorem placed_cancelled_iff (state : RestartableBus workerCount) (tokens : state.bus.Tokens)
    (ended : ∀ worker, state.tasks worker = false → state.bus.held worker = none)
    (stepped : state.step (.cancelled worker) = some next) :
    next.Placed ↔ state.bus.held worker = none := by
  obtain ⟨_, _, rfl⟩ := step_cancelled stepped
  constructor
  · intro placed
    cases holds : state.bus.held worker with
    | none => rfl
    | some sessionId =>
        have scheduled : sessionId ∈ state.bus.scheduledSessions :=
          (tokens.placed.markedIff sessionId).mpr (Or.inr ⟨worker, holds⟩)
        have one := (placed sessionId).2.1.mp scheduled
        have unheld : (List.finRange (max 1 workerCount)).countP (fun other =>
            Function.update state.tasks worker false other &&
              (state.bus.setWorker worker .waiting).held other = some sessionId) = 0 := by
          apply List.countP_eq_zero.mpr
          intro other _ still
          rw [Bool.and_eq_true, SessionEventBus.held_setWorker] at still
          have kept := of_decide_eq_true still.2
          exact ((tokens.placed.released_unheld holds other sessionId).mp kept).2 rfl
        have absent := tokens.placed.heldNotWaiting worker sessionId holds
        rw [tokenCount, unheld] at one
        rw [← List.count_eq_zero] at absent
        change List.count sessionId state.bus.readySessions + 0 = 1 at one
        omega
  · intro free
    rw [SessionEventBus.setWorker_waiting free]
    refine placed_of_tokens _ tokens ?_
    intro other gone
    by_cases same : other = worker
    · exact same ▸ free
    · have before := Function.update_of_ne same false state.tasks
      exact ended other (before.symm.trans gone)

/-- The workers of a running bus empty the queues, however they are scheduled. -/
theorem inevitably_dispatched (reached : (machine workerCount).Reachable StopsIdle state)
    (running : state.running = true) :
    (machine workerCount).Inevitably WorkerStep (fun later => ∀ sessionId,
      SessionEventBus.ofSession later.bus.dispatched sessionId =
        SessionEventBus.ofSession state.bus.published sessionId) state := by
  let Left (later : RestartableBus workerCount) :=
    (machine workerCount).Reachable StopsIdle later ∧ later.running = true ∧
      later.bus.published = state.bus.published
  have start : Left state := ⟨reached, running, rfl⟩
  refine Machine.inevitably_of_measure (fun later => later.bus.work) ?_ ?_ start
  · rintro later ⟨reached, running, same⟩
    have plain := bus_reachable reached
    have orderly := orderly_of_reachable reached
    rcases (SessionEventBus.tokens_of_reachable plain).progress with
      drained | ⟨action, moves, enabled⟩
    · refine Or.inl fun sessionId => ?_
      have ledger := ((SessionEventBus.fifo_and_mutual_exclusion workerCount _ plain).1 sessionId).1
      rw [(drained sessionId).1, (drained sessionId).2, List.append_nil, List.append_nil] at ledger
      rw [← same]
      exact ledger.symm
    · obtain ⟨after, moved⟩ := Option.isSome_iff_exists.mp enabled
      refine Or.inr ⟨.bus action, { later with bus := after }, moves, ?_⟩
      have live : action.worker.all fun worker => later.running && later.tasks worker := by
        obtain ⟨worker, named⟩ := Option.isSome_iff_exists.mp moves
        rw [named, Option.all_some, running, orderly.started running worker]
        rfl
      simp only [machine, step, live, ↓reduceIte, moved, Option.map_some]
  · rintro before action after ⟨reached, running, same⟩ moves stepped
    cases action with
    | bus action =>
        obtain ⟨worker, named⟩ := Option.isSome_iff_exists.mp moves
        have allowed : StopsIdle before (.bus action) := trivial
        have next := reached.tail allowed stepped
        obtain ⟨_, bus, moved, rfl⟩ := step_bus stepped
        have fewer := SessionEventBus.dispatched_length_le (bus_reachable next)
        obtain ⟨kept, less⟩ := SessionEventBus.work_lt moved named fewer
        exact ⟨⟨next, running, kept.trans same⟩, less⟩
    | start => exact moves.elim
    | stop => exact moves.elim
    | cancelled worker => exact moves.elim

/-- **The bus is safe to restart when it is stopped idle.** If no worker holds a token whenever
`stop` is called, every session with waiting events has exactly one token and the scheduled sessions
are those with one, however often the bus is stopped and started; and whenever it runs, its workers
dispatch everything that was published. A stop is safe only so: a cancelled task keeps the tokens
placed exactly when it holds none. -/
theorem restart_safety (reached : (machine workerCount).Reachable StopsIdle state) :
    state.Placed ∧
      (state.running = true →
        (machine workerCount).Inevitably WorkerStep (fun later => ∀ sessionId,
          SessionEventBus.ofSession later.bus.dispatched sessionId =
            SessionEventBus.ofSession state.bus.published sessionId) state) ∧
      ∀ stopped worker next, state.step .stop = some stopped →
        stopped.step (.cancelled worker) = some next →
          (next.Placed ↔ state.bus.held worker = none) := by
  have tokens := SessionEventBus.tokens_of_reachable (bus_reachable reached)
  have orderly := orderly_of_reachable reached
  refine ⟨placed_of_tokens state tokens orderly.ended, inevitably_dispatched reached, ?_⟩
  intro stopped worker next stop cancelled
  cases stop
  exact placed_cancelled_iff { state with running := false } tokens orderly.ended cancelled

/-- An event is published while the bus is stopped, after a stop on the empty bus. -/
def idleStopRun : List (RestartAction 1) :=
  [.start, .stop, .cancelled ⟨0, by decide⟩,
    .bus (.publish { type := .builtin .userMessageReceived, sessionId := "s", id := "1",
                     timestamp := 1 }),
    .start]

/-- The bus after it was stopped while nothing was in hand. -/
def idleStopState : RestartableBus 1 :=
  ((machine 1).replay StopsIdle {} idleStopRun).getD {}

/-- The event that waited keeps its token. -/
theorem restart_safety_idleStopRun :
    idleStopState.bus.queued "s" ≠ [] ∧ idleStopState.tokenCount "s" = 1 := by
  have waits : idleStopState.bus.queued "s" ≠ [] := by decide
  have replayed : (machine 1).replay StopsIdle {} idleStopRun = some idleStopState := rfl
  exact ⟨waits, ((restart_safety (.of_replay rfl replayed)).1 "s").1 waits⟩

/-- The bus is stopped while an event is in dispatch and a second one of its session waits. -/
def strandedRun : List (RestartAction 1) :=
  [.start,
    .bus (.publish { type := .builtin .userMessageReceived, sessionId := "s", id := "1",
                     timestamp := 1 }),
    .bus (.take ⟨0, by decide⟩), .bus (.pop ⟨0, by decide⟩),
    .bus (.publish { type := .builtin .wakeupRequested, sessionId := "s", id := "2",
                     timestamp := 2 }),
    .stop, .cancelled ⟨0, by decide⟩, .start]

/-- The bus after it was stopped with a session in hand. -/
def strandedState : RestartableBus 1 :=
  ((machine 1).replay Machine.anyStep {} strandedRun).getD {}

/-- After the restart the second event has no token, and later events of the session make none. -/
theorem restart_loses_token :
    (machine 1).Reachable Machine.anyStep strandedState ∧ strandedState.running = true ∧
      strandedState.bus.queued "s" ≠ [] ∧ "s" ∈ strandedState.bus.scheduledSessions ∧
      strandedState.tokenCount "s" = 0 ∧
      (∀ action after, WorkerStep strandedState action → strandedState.step action ≠ some after) ∧
      ∀ event after, event.sessionId = "s" →
        strandedState.step (.bus (.publish event)) = some after → after.tokenCount "s" = 0 := by
  have replayed : (machine 1).replay Machine.anyStep {} strandedRun = some strandedState := rfl
  have scheduled : "s" ∈ strandedState.bus.scheduledSessions := by decide
  have free : ∀ worker, strandedState.bus.held worker = none := by decide
  have none_ready : strandedState.bus.readySessions = [] := rfl
  have lost : strandedState.tokenCount "s" = 0 := by decide
  refine ⟨.of_replay rfl replayed, rfl, by decide, scheduled, lost, ?_, ?_⟩
  · intro action after moves stepped
    have asleep (worker : Fin (max 1 1)) := SessionEventBus.held_eq_none.mp (free worker)
    cases action with
    | bus action =>
        obtain ⟨_, bus, moved, _⟩ := step_bus stepped
        have effect := SessionEventBus.step_cases moved
        cases action with
        | publish event => cases moves
        | take worker =>
            obtain ⟨_, _, _, ready, _⟩ := effect
            rw [none_ready] at ready
            cases ready
        | pop worker =>
            obtain ⟨_, popping, _⟩ := effect
            rw [asleep worker] at popping
            cases popping
        | dispatch worker =>
            obtain ⟨_, _, dispatching, _⟩ := effect
            rw [asleep worker] at dispatching
            cases dispatching
        | reschedule worker =>
            obtain ⟨_, rescheduling, _⟩ := effect
            rw [asleep worker] at rescheduling
            cases rescheduling
    | start => exact moves
    | stop => exact moves
    | cancelled worker => exact moves
  · intro event after own stepped
    obtain ⟨_, bus, moved, rfl⟩ := step_bus stepped
    cases moved
    have marked : event.sessionId ∈ strandedState.bus.scheduledSessions := own ▸ scheduled
    rw [tokenCount, SessionEventBus.publish, if_pos marked]
    exact lost

end RestartableBus

end FairyClaw
