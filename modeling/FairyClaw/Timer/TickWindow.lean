import FairyClaw.Timer.TickAccounts

/-! # Ticks and deadlines

The deadline of a job is tested when a result is recorded, and nowhere else: neither the first
moment nor the next one is compared with it, and a claim selects by the moment alone. In runs in
which every moment lies before the deadline and no deadline passes between a moment and its tick,
no tick is published at or after the deadline of its job
(`FairyClaw.TimerLoop.ticks_in_window`).
-/

namespace FairyClaw

open Foundation

/-- The watchdog with its store: the claimed jobs that are not worked off, the ticks published so
far, and whether the watchdog still runs. -/
structure TimerLoop where
  store : TimerStore := {}
  due : List TimerJob := []
  ticks : List TimerTick := []
  alive : Bool := true

/-- What happens to timer jobs: the tools create and cancel them, the watchdog claims the due ones
and works them off, and the process is restarted. -/
inductive TimerLoopAction
  | create (request : TimerRequest) (parents : Option (String × Option String)) (id : String)
      (now offset : Int)
  | cancel (jobId : String)
  | poll (workerId : String) (now : Int)
  | work (answers : TickAnswers)
  | restart

namespace TimerLoop

/-- A step, or `none` where there is none. -/
def step (state : TimerLoop) : TimerLoopAction → Option TimerLoop
  | .create request parents id now offset =>
      (state.store.perform (.create request parents id now offset)).map ({ state with store := · })
  | .cancel jobId => some { state with store := state.store.cancelJob jobId }
  | .poll workerId now =>
      if state.alive ∧ state.due = [] then
        let (due, store) := state.store.claimDueJobs workerId 20 now
        some { state with store := store, due := due }
      else none
  | .work answers =>
      match state.alive, state.due with
      | true, job :: rest =>
          let outcome := processJob state.store job answers
          some { store := outcome.store
                 due := rest
                 ticks := state.ticks ++ outcome.tick.toList
                 alive := outcome.raised.isNone }
      | _, _ => none
  | .restart => some { state with due := [], alive := true }

/-- The timer jobs of a process and of its later restarts. -/
def machine : Machine TimerLoop TimerLoopAction where
  initial state := state.store.jobs = [] ∧ state.due = [] ∧ state.ticks = []
  step := step

end TimerLoop

namespace TimerJob

variable {job after : TimerJob} {moment now offset : Int}

/-- What decides about the moments of a job. -/
def schedule (job : TimerJob) :
    TimerMode × Option String × Option Int × Option Int × Option Int :=
  (job.mode, job.cronExpr, job.intervalSeconds, job.deadlineAt, job.maxRuns)

/-- A moment lies before the deadline. -/
def InWindow (job : TimerJob) (moment : Int) : Prop :=
  ∀ deadline ∈ job.deadlineAt, moment < deadline

instance (job : TimerJob) (moment : Int) : Decidable (job.InWindow moment) :=
  inferInstanceAs (Decidable (∀ deadline ∈ job.deadlineAt, _))

/-- The moment that a job is put off to by a result. -/
def nextMoment (job : TimerJob) (now offset : Int) : Option Int :=
  match job.mode with
  | .heartbeat =>
      let given := job.intervalSeconds.getD 2
      some (now + max 2 (if given = 0 then 2 else given) * secondMicros)
  | .cron => (nextFireAtForCron (strip (job.cronExpr.getD "")) now offset).join

/-- A result that does not end the job puts it off to a moment before the deadline. -/
def Fits (job : TimerJob) (success : Bool) (answer : MarkAnswer) : Prop :=
  job.active = true → job.terminalStatus success answer.now = none →
    ∀ moment ∈ job.nextMoment answer.now answer.offset, job.InWindow moment

instance (job : TimerJob) (success : Bool) (answer : MarkAnswer) :
    Decidable (job.Fits success answer) :=
  inferInstanceAs (Decidable (_ → _ → ∀ moment ∈ job.nextMoment answer.now answer.offset, _))

/-- The row after a successful result. -/
def succeeded (job : TimerJob) : TimerJob :=
  { job with runCount := job.runCount + 1, failureCount := 0 }

/-- The window of a job is given by its schedule. -/
theorem InWindow.of_schedule (same : after.schedule = job.schedule) (inside : job.InWindow moment) :
    after.InWindow moment := by
  simp only [schedule, Prod.mk.injEq] at same
  rw [InWindow, same.2.2.2.1]
  exact inside

/-- A result fits every job with the same schedule and counts. -/
theorem Fits.of_schedule {success : Bool} {answer : MarkAnswer}
    (same : after.schedule = job.schedule) (live : after.active = true → job.active = true)
    (runs : after.runCount = job.runCount) (failures : after.failureCount = job.failureCount)
    (fits : job.Fits success answer) : after.Fits success answer := by
  intro active goesOn moment next
  refine InWindow.of_schedule same (fits (live active) ?_ moment ?_)
  all_goals simp only [schedule, Prod.mk.injEq] at same
  · rw [terminalStatus, ← same.2.2.2.1, ← same.2.2.2.2, ← runs, ← failures]
    exact goesOn
  · rw [nextMoment, ← same.1, ← same.2.1, ← same.2.2.1]
    exact next

/-- A run decides on a moment only for a job that goes on. -/
theorem decideRun_moment {success : Bool} {errorMessage error : Option String}
    (decided : job.decideRun success errorMessage now offset = some (none, some moment, error)) :
    job.terminalStatus success now = none ∧ job.nextMoment now offset = some moment := by
  unfold decideRun at decided
  cases chosen : job.terminalStatus success now with
  | some status =>
      rw [chosen] at decided
      cases decided
  | none =>
      rw [chosen] at decided
      refine ⟨rfl, ?_⟩
      rw [nextMoment]
      cases kind : job.mode with
      | heartbeat =>
          rw [kind] at decided
          cases decided
          rfl
      | cron =>
          rw [kind] at decided
          obtain ⟨found, scheduled, result⟩ := Option.bind_eq_some_iff.mp decided
          cases found with
          | none => cases result
          | some next =>
              cases result
              rw [scheduled]
              rfl

/-- A run keeps the schedule. -/
theorem updateAfterRun_schedule (success : Bool) (terminal : Option TimerJobStatus)
    (nextFireAt : Option Int) (error : Option String) :
    (job.updateAfterRun now nextFireAt success terminal error).schedule = job.schedule := by
  have kept : (job.recordRun nextFireAt success terminal error).schedule = job.schedule := by
    cases terminal <;> cases nextFireAt <;> rfl
  rw [updateAfterRun]
  rcases checkLimits_cases (job.recordRun nextFireAt success terminal error) now with
    same | ⟨_, completed⟩
  · rw [same, kept]
  · rw [completed]
    exact kept

/-- A recorded result activates no job. -/
theorem active_of_updateAfterRun {success : Bool} {terminal : Option TimerJobStatus}
    {nextFireAt : Option Int} {error : Option String}
    (live : (job.updateAfterRun now nextFireAt success terminal error).active = true) :
    job.active = true := by
  have recorded (recorded : (job.recordRun nextFireAt success terminal error).active = true) :
      job.active = true := by
    cases terminal with
    | some status => cases nextFireAt <;> cases recorded
    | none =>
        cases nextFireAt with
        | none => cases recorded
        | some next => exact recorded
  rw [updateAfterRun] at live
  rcases checkLimits_cases (job.recordRun nextFireAt success terminal error) now with
    same | ⟨active, _⟩
  · rw [same] at live
    exact recorded live
  · exact recorded active

/-- The next moment changes only when the job goes on. -/
theorem updateAfterRun_nextFireAt (success : Bool) (terminal : Option TimerJobStatus)
    (nextFireAt : Option Int) (error : Option String) :
    (job.updateAfterRun now nextFireAt success terminal error).nextFireAt =
      if terminal.isNone then nextFireAt.getD job.nextFireAt else job.nextFireAt := by
  have moved : (job.recordRun nextFireAt success terminal error).nextFireAt =
      if terminal.isNone then nextFireAt.getD job.nextFireAt else job.nextFireAt := by
    cases terminal <;> cases nextFireAt <;> rfl
  rw [updateAfterRun]
  rcases checkLimits_cases (job.recordRun nextFireAt success terminal error) now with
    same | ⟨_, completed⟩
  · rw [same, moved]
  · rw [completed]
    exact moved

end TimerJob

namespace TimerStore

variable {store next : TimerStore} {op : TimerOp} {job after : TimerJob} {jobId : String}

/-- No operation changes what decides about the moments of a job. -/
theorem Touches.schedule (touches : Touches op job after) : after.schedule = job.schedule := by
  cases touches with
  | untouched same => rw [same]
  | claimed _ _ _ _ _ result => rw [result]; rfl
  | marked _ _ _ _ _ _ _ _ _ result => rw [result, TimerJob.updateAfterRun_schedule]
  | cancelled _ result => rw [result]; rfl

/-- No operation activates a job. -/
theorem Touches.active (touches : Touches op job after) (live : after.active = true) :
    job.active = true := by
  cases touches with
  | untouched same => rwa [same] at live
  | claimed _ _ _ _ due _ => exact due.1
  | marked _ _ _ _ _ _ _ _ _ result =>
      rw [result] at live
      exact TimerJob.active_of_updateAfterRun live
  | cancelled _ result =>
      rw [result] at live
      cases live

/-- An operation leaves the moment of a job before its deadline, if a result does. -/
theorem Touches.inWindow (touches : Touches op job after) (live : after.active = true)
    (inside : job.InWindow job.nextFireAt)
    (fits : ∀ success errorMessage now offset,
      op = .markJobResult job.id success errorMessage now offset →
        job.Fits success { now := now, offset := offset }) :
    after.InWindow after.nextFireAt := by
  have active := touches.active live
  refine TimerJob.InWindow.of_schedule touches.schedule ?_
  cases touches with
  | untouched same => rwa [same]
  | claimed _ _ _ _ _ result => rwa [result]
  | cancelled _ result => rwa [result]
  | marked success errorMessage now offset terminal nextFireAt error named decided result =>
      rw [result, TimerJob.updateAfterRun_nextFireAt]
      cases terminal with
      | some status => exact inside
      | none =>
          cases nextFireAt with
          | none => exact inside
          | some moment =>
              obtain ⟨goesOn, following⟩ := TimerJob.decideRun_moment decided
              exact fits success errorMessage now offset named active goesOn moment following

/-- The moments of the active jobs lie before the deadlines. -/
def InWindow (store : TimerStore) : Prop :=
  ∀ jobId job, store.get jobId = some job → job.active = true → job.InWindow job.nextFireAt

/-- Rows stay with their schedules, and their moments before the deadlines. -/
structure StaysInWindow (store next : TimerStore) : Prop where
  kept : ∀ jobId job, store.get jobId = some job →
    ∃ after, next.get jobId = some after ∧ after.schedule = job.schedule ∧
      (after.active = true → job.active = true)
  inside : store.InWindow → next.InWindow

/-- A store stays in its windows. -/
theorem StaysInWindow.refl (store : TimerStore) : StaysInWindow store store :=
  ⟨fun _ job stored => ⟨job, stored, rfl, id⟩, id⟩

/-- Staying in the windows composes. -/
theorem StaysInWindow.trans {final : TimerStore} (first : StaysInWindow store next)
    (second : StaysInWindow next final) : StaysInWindow store final := by
  refine ⟨fun jobId job stored => ?_, second.inside ∘ first.inside⟩
  obtain ⟨middle, found, same, live⟩ := first.kept jobId job stored
  obtain ⟨after, later, again, still⟩ := second.kept jobId middle found
  exact ⟨after, later, again.trans same, live ∘ still⟩

/-- An operation keeps the window when new rows and results respect it. -/
theorem staysInWindow (performed : store.perform op = some next)
    (created : ∀ jobId job, store.get jobId = none → next.get jobId = some job →
      job.InWindow job.nextFireAt)
    (fits : ∀ jobId success errorMessage now offset,
      op = .markJobResult jobId success errorMessage now offset →
        ∀ job, store.get jobId = some job → job.Fits success { now := now, offset := offset }) :
    StaysInWindow store next := by
  constructor
  · intro jobId job stored
    obtain ⟨after, found, touches⟩ := perform_get performed stored
    exact ⟨after, found, touches.schedule, touches.active⟩
  · intro inside jobId job found live
    cases stored : store.get jobId with
    | none => exact created jobId job stored found
    | some before =>
        obtain ⟨after, later, touches⟩ := perform_get performed stored
        cases later.symm.trans found
        refine touches.inWindow live (inside jobId before stored (touches.active live)) ?_
        intro success error now offset named
        have own := (get_eq_some.mp stored).2
        exact fits before.id success error now offset named before (own ▸ stored)

/-- A result that fits keeps the jobs in their windows. -/
theorem tryMark_stays {answer : MarkAnswer} {success : Bool} (stored : store.get jobId = some job)
    (fits : job.Fits success answer) (errorMessage : Option String) :
    StaysInWindow store (store.tryMark jobId success errorMessage answer).2 := by
  rw [tryMark]
  split
  · exact .refl store
  · rename_i next marked
    have stays : StaysInWindow store next := by
      have performed : store.perform (.markJobResult jobId success errorMessage answer.now
        answer.offset) = some next := marked
      refine staysInWindow performed ?_ ?_
      · intro other row missing found
        obtain ⟨_, _, _, _, named, _⟩ := perform_new performed missing found
        cases named
      · rintro _ _ _ _ _ ⟨⟩ row found
        cases stored.symm.trans found
        exact fits
    split
    · exact stays
    · exact .refl store
    · exact stays

end TimerStore

/-- Every result that working off a job may record puts it off to a moment before the deadline. A
failure is recorded in place of the success, or on top of it. -/
def TickAnswers.Fits (row : TimerJob) (answers : TickAnswers) : Prop :=
  (answers.publish = none → answers.emit = none → row.Fits true answers.success) ∧
  (answers.publish = none → answers.emit = none → row.MarkRaises true answers.success →
    row.MarkCommits true answers.success → row.succeeded.Fits false answers.failure) ∧
  (answers.publish ≠ none ∨ answers.emit ≠ none ∨
      (row.MarkRaises true answers.success ∧ ¬row.MarkCommits true answers.success) →
    row.Fits false answers.failure)

instance (row : TimerJob) (answers : TickAnswers) : Decidable (answers.Fits row) :=
  inferInstanceAs (Decidable (_ ∧ _ ∧ _))

/-- Working off a job keeps the window when the results that it records do. -/
theorem processJob_stays {store : TimerStore} {job row : TimerJob} {answers : TickAnswers}
    (stored : store.get job.id = some row) (fits : answers.Fits row) :
    store.StaysInWindow (processJob store job answers).store := by
  obtain ⟨success, committed, failure⟩ := fits
  unfold processJob
  cases published : answers.publish with
  | some error =>
      have raised : answers.publish ≠ none := by rw [published]; nofun
      exact TimerStore.tryMark_stays stored (failure (Or.inl raised)) _
  | none =>
      cases emitted : answers.emit with
      | some error =>
          have raised : answers.emit ≠ none := by rw [emitted]; nofun
          exact TimerStore.tryMark_stays stored (failure (Or.inr (Or.inl raised))) _
      | none =>
          have first := TimerStore.tryMark_stays stored (success published emitted) none
          have marked := TimerStore.tryMark_spec stored true none answers.success
          simp only
          generalize store.tryMark job.id true none answers.success = result at first marked
          obtain ⟨raised, next⟩ := result
          cases raised with
          | none => exact first
          | some error =>
              have raises := marked.raises.mp nofun
              by_cases commits : row.MarkCommits true answers.success
              · obtain ⟨after, found, counted⟩ := marked.commits commits
                obtain ⟨_, kept, schedule, live⟩ := first.kept job.id row stored
                cases found.symm.trans kept
                refine first.trans (TimerStore.tryMark_stays found ?_ _)
                have same : after.schedule = row.succeeded.schedule := schedule
                exact (committed published emitted raises commits).of_schedule same live
                  counted.runCount counted.failureCount
              · obtain rfl : next = store := marked.stays commits
                exact TimerStore.tryMark_stays stored
                  (failure (Or.inr (Or.inr ⟨raises, commits⟩))) _

/-- A tick is one of the job, at the moment of its publishing. -/
theorem processJob_moment {store : TimerStore} {job : TimerJob} {answers : TickAnswers}
    {tick : TimerTick} (ticked : (processJob store job answers).tick = some tick) :
    tick.jobId = job.id ∧ tick.moment = answers.moment ∧ answers.publish = none := by
  unfold processJob at ticked
  split at ticked
  · cases ticked
  · rename_i published
    split at ticked
    · cases ticked
      exact ⟨rfl, rfl, published⟩
    · split at ticked <;> cases ticked <;> exact ⟨rfl, rfl, published⟩

/-- The first moment of a new job and its deadline are those of the request. -/
theorem createJob_inWindow {request : TimerRequest} {ownerSessionId id : String}
    {now offset : Int} {job : TimerJob}
    (created : createJob request ownerSessionId id now offset = some (.ok job))
    (fits : ∀ mode ∈ timerModeOf (lower (strip request.mode)),
      ∀ seconds ∈ request.deadlineSeconds,
      ∀ moment ∈ (firstFireAt request mode now offset).bind Except.toOption,
        moment < now + seconds * secondMicros) : job.InWindow job.nextFireAt := by
  unfold createJob at created
  split at created
  · cases created
  · rename_i mode named
    split at created
    · cases created
    · split at created
      · cases created
      · split at created
        · cases created
        · obtain ⟨result, first, mapped⟩ := Option.map_eq_some_iff.mp created
          cases result with
          | error text => cases mapped
          | ok moment =>
              cases mapped
              intro deadline given
              obtain ⟨seconds, asked, rfl⟩ := Option.map_eq_some_iff.mp given
              exact fits mode named seconds asked moment (by rw [first]; rfl)

namespace TimerLoop

variable {state next : TimerLoop}

/-- The first moment of a created job lies before its deadline, a result that does not end the job
puts it off to a moment before the deadline, and no deadline passes between the moment of a job and
its tick. -/
def Timely (state : TimerLoop) : TimerLoopAction → Prop
  | .create request _ _ now offset => ∀ mode ∈ timerModeOf (lower (strip request.mode)),
      ∀ seconds ∈ request.deadlineSeconds,
      ∀ moment ∈ (firstFireAt request mode now offset).bind Except.toOption,
        moment < now + seconds * secondMicros
  | .work answers => ∀ job ∈ state.due.head?,
      (answers.publish = none → job.InWindow job.nextFireAt → job.InWindow answers.moment) ∧
        ∀ row ∈ state.store.get job.id, answers.Fits row
  | .cancel _ => True
  | .poll _ _ => True
  | .restart => True

instance : DecidableRel Timely
  | _, .create _ _ _ _ _ => inferInstanceAs (Decidable (∀ _ ∈ _, _))
  | _, .work _ => inferInstanceAs (Decidable (∀ _ ∈ _, _))
  | _, .cancel _ => isTrue trivial
  | _, .poll _ _ => isTrue trivial
  | _, .restart => isTrue trivial

/-- All moments of active jobs, claimed jobs and ticks lie before the deadlines. -/
structure Windowed (state : TimerLoop) : Prop where
  rows : state.store.InWindow
  due : ∀ job ∈ state.due, job.InWindow job.nextFireAt ∧
    ∃ row, state.store.get job.id = some row ∧ row.schedule = job.schedule
  ticks : ∀ tick ∈ state.ticks, ∃ row, state.store.get tick.jobId = some row ∧
    row.InWindow tick.moment

/-- A change of the store that keeps the window. -/
theorem Windowed.store (windowed : state.Windowed) {store : TimerStore}
    (stays : state.store.StaysInWindow store) :
    Windowed { state with store := store } where
  rows := stays.inside windowed.rows
  due job member := by
    obtain ⟨inside, row, stored, same⟩ := windowed.due job member
    obtain ⟨after, found, kept, _⟩ := stays.kept job.id row stored
    exact ⟨inside, after, found, kept.trans same⟩
  ticks tick member := by
    obtain ⟨row, stored, inside⟩ := windowed.ticks tick member
    obtain ⟨after, found, kept, _⟩ := stays.kept tick.jobId row stored
    exact ⟨after, found, inside.of_schedule kept⟩

/-- A timely step keeps the jobs and the ticks in their windows. -/
theorem Windowed.step (windowed : state.Windowed) {action : TimerLoopAction}
    (timely : Timely state action) (stepped : state.step action = some next) : next.Windowed := by
  cases action with
  | create request parents id now offset =>
      simp only [TimerLoop.step, Option.map_eq_some_iff] at stepped
      obtain ⟨store, performed, rfl⟩ := stepped
      refine windowed.store (TimerStore.staysInWindow performed ?_ nofun)
      intro jobId job missing found
      obtain ⟨_, _, _, _, named, created⟩ := TimerStore.perform_new performed missing found
      cases named
      exact createJob_inWindow created fun mode named seconds => timely mode named seconds
  | cancel jobId =>
      cases stepped
      have performed : state.store.perform (.cancelJob jobId) =
        some (state.store.cancelJob jobId) := rfl
      refine windowed.store (TimerStore.staysInWindow performed ?_ nofun)
      intro other job missing found
      obtain ⟨_, _, _, _, named, _⟩ := TimerStore.perform_new performed missing found
      cases named
  | poll workerId now =>
      simp only [TimerLoop.step] at stepped
      split at stepped
      · cases stepped
        have performed : state.store.perform (.claimDueJobs workerId 20 now) =
          some (state.store.claimDueJobs workerId 20 now).2 := rfl
        have stays := TimerStore.staysInWindow performed
          (fun other job missing found => by
            obtain ⟨_, _, _, _, named, _⟩ := TimerStore.perform_new performed missing found
            cases named) nofun
        obtain ⟨rows, _, ticks⟩ := windowed.store stays
        refine ⟨rows, fun job member => ?_, ticks⟩
        have stored := (state.store.claimDueJobs_rows workerId 20 now).2.2 job member
        obtain ⟨row, selected, rfl⟩ := List.mem_map.mp member
        have live := (TimerStore.due_of_mem_dueJobs selected).2.1
        exact ⟨rows _ _ stored live, _, stored, rfl⟩
      · cases stepped
  | work answers =>
      simp only [TimerLoop.step] at stepped
      split at stepped
      · rename_i job rest alive due
        cases stepped
        have first : job ∈ state.due := by rw [due]; exact List.mem_cons_self
        obtain ⟨inside, row, stored, same⟩ := windowed.due job first
        obtain ⟨early, fits⟩ := timely job (by rw [due]; rfl)
        have stays : state.store.StaysInWindow (processJob state.store job answers).store :=
          processJob_stays stored (fits row stored)
        obtain ⟨rows, pending, ticks⟩ := windowed.store stays
        refine ⟨rows, fun next member => pending next ?_, fun tick member => ?_⟩
        · rw [due]
          exact List.mem_cons_of_mem _ member
        · rcases List.mem_append.mp member with earlier | added
          · exact ticks tick earlier
          · obtain ⟨named, moment, published⟩ := processJob_moment (Option.mem_toList.mp added)
            obtain ⟨after, found, kept, _⟩ := stays.kept job.id row stored
            rw [named, moment]
            exact ⟨after, found, (early published inside).of_schedule (kept.trans same)⟩
      · cases stepped
  | restart =>
      cases stepped
      exact ⟨windowed.rows, fun job member => (nomatch member), windowed.ticks⟩

/-- Every timely run keeps the moments of jobs and ticks before the deadlines. -/
theorem reachable_windowed (reached : machine.Reachable Timely state) : state.Windowed := by
  refine reached.invariant (fun start ⟨empty, due, ticks⟩ => ?_)
    fun before action after windowed timely stepped => windowed.step timely stepped
  refine ⟨fun jobId job stored => ?_, fun job member => ?_, fun tick member => ?_⟩
  · have member := (TimerStore.get_eq_some.mp stored).1
    rw [empty] at member
    cases member
  · rw [due] at member
    cases member
  · rw [ticks] at member
    cases member

/-- In a timely run, no tick of a job is published at or after its deadline. -/
theorem ticks_in_window (reached : machine.Reachable Timely state) {tick : TimerTick}
    (published : tick ∈ state.ticks) {job : TimerJob}
    (stored : state.store.get tick.jobId = some job) {deadline : Int}
    (limited : job.deadlineAt = some deadline) : tick.moment < deadline := by
  obtain ⟨row, found, inside⟩ := (reachable_windowed reached).ticks tick published
  cases found.symm.trans stored
  exact inside deadline limited

/-- Create a heartbeat job with a deadline, and work off its first tick when it is due. -/
def firstTick (intervalSeconds deadlineSeconds : Int) : List TimerLoopAction :=
  let request : TimerRequest :=
    { creatorSessionId := "sess"
      mode := "heartbeat"
      intervalSeconds := some intervalSeconds
      deadlineSeconds := some deadlineSeconds }
  let due := intervalSeconds * secondMicros
  [.create request none "timer_1" 0 0, .poll "timer_watchdog" due,
    .work { moment := due, success := { now := due }, failure := { now := due } }]

/-- The state after the first tick. -/
def ticked (intervalSeconds deadlineSeconds : Int) : TimerLoop :=
  (machine.replay Machine.anyStep {} (firstTick intervalSeconds deadlineSeconds)).getD {}

/-- The tick of a timely run is before its deadline. -/
theorem ticks_in_window_timely : ∃ tick ∈ (ticked 5 20).ticks, tick.moment < 20 * secondMicros := by
  have start : machine.initial {} := ⟨rfl, rfl, rfl⟩
  have replayed : machine.replay Timely {} (firstTick 5 20) = some (ticked 5 20) := rfl
  refine ⟨_, List.mem_cons_self, ?_⟩
  exact ticks_in_window (.of_replay start replayed) List.mem_cons_self rfl rfl

/-- A job whose interval is longer than its time window ticks after its deadline. -/
theorem late_tick : ¬∀ state, machine.Reachable Machine.anyStep state → ∀ tick ∈ state.ticks,
    ∀ job ∈ state.store.get tick.jobId, ∀ deadline ∈ job.deadlineAt, tick.moment < deadline := by
  intro always
  have start : machine.initial {} := ⟨rfl, rfl, rfl⟩
  have replayed : machine.replay Machine.anyStep {} (firstTick 10 5) = some (ticked 10 5) := rfl
  have early := always _ (.of_replay start replayed) _ List.mem_cons_self _ rfl (5 * secondMicros) rfl
  exact absurd early (by decide)

end TimerLoop

end FairyClaw
