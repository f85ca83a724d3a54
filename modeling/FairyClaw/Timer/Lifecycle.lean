import FairyClaw.Timer.TimerStore

/-! # The lifecycle of timer jobs

Neither a result nor a cancellation looks at whether the job has ended. As long as results are
marked on active jobs and cancellations do not meet a job that ended otherwise, a job is active
exactly in the statuses pending and running, and an ended job keeps its status
(`FairyClaw.timer_lifecycle`). A result that arrives after a cancellation brings the job back to
running (`FairyClaw.timer_revived`).
-/

namespace FairyClaw

open Foundation

namespace TimerJob

/-- A job is active exactly while it is pending or running. -/
def InOrder (job : TimerJob) : Prop :=
  job.active = true ↔ job.status = .pending ∨ job.status = .running

variable {job : TimerJob}

/-- A job that has ended is neither pending nor running. -/
theorem not_live_of_isTerminal {status : TimerJobStatus} (ended : status.isTerminal = true) :
    ¬(status = .pending ∨ status = .running) := by
  rintro (rfl | rfl) <;> cases ended

/-- A job that has ended is inactive. -/
theorem InOrder.inactive (inOrder : job.InOrder) (ended : job.status.isTerminal = true) :
    job.active = false := by
  rw [← Bool.not_eq_true]
  exact fun live => not_live_of_isTerminal ended (inOrder.mp live)

/-- A claim keeps a job in order. -/
theorem InOrder.claim (inOrder : job.InOrder) (workerId : String) (now : Int) :
    (job.claim workerId now).InOrder := by
  refine Iff.trans inOrder ?_
  simp only [TimerJob.claim]
  split
  · rename_i waiting
    simp only [waiting, true_or, or_true]
  · rfl

/-- A cancelled job is in order. -/
theorem inOrder_cancel (job : TimerJob) : job.cancel.InOrder := iff_of_false nofun nofun

/-- The limits keep a job in order. -/
theorem InOrder.checkLimits (inOrder : job.InOrder) (now : Int) :
    (job.checkLimits now).InOrder := by
  rcases job.checkLimits_cases now with same | ⟨_, completed⟩
  · rw [same]
    exact inOrder
  · rw [completed]
    exact iff_of_false nofun nofun

/-- The limits lead to a terminal status. -/
theorem isTerminal_of_terminalStatus {success : Bool} {now : Int} {status : TimerJobStatus}
    (chosen : job.terminalStatus success now = some status) : status.isTerminal = true := by
  unfold terminalStatus at chosen
  simp only at chosen
  split at chosen
  · cases chosen
    rfl
  · split at chosen
    · cases chosen
      rfl
    · split at chosen
      · cases chosen
        rfl
      · cases chosen

/-- A decision is a terminal status, or a next moment. -/
theorem decideRun_cases {success : Bool} {errorMessage : Option String} {now offset : Int}
    {terminal : Option TimerJobStatus} {nextFireAt : Option Int} {error : Option String}
    (decided : job.decideRun success errorMessage now offset = some (terminal, nextFireAt, error)) :
    (∃ status, job.terminalStatus success now = some status ∧ terminal = some status) ∨
      (job.terminalStatus success now = none ∧ job.mode = .cron ∧ terminal = some .failed) ∨
      (job.terminalStatus success now = none ∧ terminal = none ∧
        ∃ moment, nextFireAt = some moment ∧ now < moment) := by
  unfold decideRun at decided
  cases chosen : job.terminalStatus success now with
  | some status =>
      rw [chosen] at decided
      cases decided
      exact Or.inl ⟨status, rfl, rfl⟩
  | none =>
      rw [chosen] at decided
      simp only at decided
      cases kind : job.mode with
      | heartbeat =>
          rw [kind] at decided
          cases decided
          refine Or.inr (Or.inr ⟨rfl, rfl, _, rfl, ?_⟩)
          have waits : (2 : Int) ≤ max 2 (if job.intervalSeconds.getD 2 = 0 then 2
            else job.intervalSeconds.getD 2) := le_max_left ..
          unfold secondMicros
          omega
      | cron =>
          rw [kind] at decided
          obtain ⟨found, scheduled, result⟩ := Option.bind_eq_some_iff.mp decided
          cases found with
          | none =>
              cases result
              exact Or.inr (Or.inl ⟨rfl, rfl, rfl⟩)
          | some moment =>
              cases result
              exact Or.inr (Or.inr ⟨rfl, rfl, moment, rfl, lt_of_nextFireAtForCron scheduled⟩)

/-- A result keeps the order of an active job. -/
theorem inOrder_updateAfterRun {success : Bool} {errorMessage : Option String} {now offset : Int}
    {terminal : Option TimerJobStatus} {nextFireAt : Option Int} {error : Option String}
    (live : job.active = true)
    (decided : job.decideRun success errorMessage now offset = some (terminal, nextFireAt, error)) :
    (job.updateAfterRun now nextFireAt success terminal error).InOrder := by
  apply InOrder.checkLimits
  rcases decideRun_cases decided with ⟨status, chosen, rfl⟩ | ⟨_, _, rfl⟩ | ⟨_, rfl, moment, rfl, _⟩
  · exact iff_of_false nofun (not_live_of_isTerminal (isTerminal_of_terminalStatus chosen))
  · exact iff_of_false nofun nofun
  · exact iff_of_true live (Or.inr rfl)

end TimerJob

/-- Results are marked on active jobs, and cancellations meet active or cancelled jobs. -/
def OnLiveJobs (store : TimerStore) : TimerOp → Prop
  | .markJobResult jobId _ _ _ _ => ∀ job ∈ store.get jobId, job.active = true
  | .cancelJob jobId => ∀ job ∈ store.get jobId, job.active = true ∨ job.status = .cancelled
  | .create .. | .claimDueJobs .. => True

instance : DecidableRel OnLiveJobs := fun store op =>
  match op with
  | .markJobResult jobId _ _ _ _ =>
      inferInstanceAs (Decidable (∀ job ∈ store.get jobId, job.active = true))
  | .cancelJob jobId => inferInstanceAs
      (Decidable (∀ job ∈ store.get jobId, job.active = true ∨ job.status = .cancelled))
  | .create .. | .claimDueJobs .. => isTrue trivial

namespace TimerStore

variable {store next : TimerStore} {op : TimerOp} {job after : TimerJob} {jobId : String}

/-- A row in order stays so under an operation that meets the condition. -/
theorem Touches.inOrder (touches : Touches op job after) (stored : store.get jobId = some job)
    (live : OnLiveJobs store op) (inOrder : job.InOrder) : after.InOrder := by
  obtain ⟨_, rfl⟩ := get_eq_some.mp stored
  cases touches with
  | untouched same => exact same ▸ inOrder
  | claimed workerId limit now _ _ result => exact result ▸ inOrder.claim workerId now
  | marked success errorMessage now offset terminal nextFireAt error named decided result =>
      subst named result
      exact TimerJob.inOrder_updateAfterRun (live job stored) decided
  | cancelled _ result => exact result ▸ job.inOrder_cancel

/-- An ended row keeps its status under an operation that meets the condition. -/
theorem Touches.ended (touches : Touches op job after) (stored : store.get jobId = some job)
    (live : OnLiveJobs store op) (inactive : job.active = false) :
    after.status = job.status ∧ after.active = false := by
  obtain ⟨_, rfl⟩ := get_eq_some.mp stored
  cases touches with
  | untouched same => exact ⟨congrArg TimerJob.status same, same ▸ inactive⟩
  | claimed _ _ _ _ due _ =>
      rw [due.1] at inactive
      cases inactive
  | marked success errorMessage now offset terminal nextFireAt error named _ _ =>
      subst named
      rw [live job stored] at inactive
      cases inactive
  | cancelled named result =>
      subst named result
      rcases live job stored with running | same
      · rw [running] at inactive
        cases inactive
      · exact ⟨same.symm, rfl⟩

/-- Every row is in order in the runs that meet the condition. -/
theorem inOrder_of_reachable (reached : timerStore.Reachable OnLiveJobs store)
    (stored : store.get jobId = some job) : job.InOrder := by
  let AllInOrder (store : TimerStore) := ∀ jobId job, store.get jobId = some job → job.InOrder
  suffices all : AllInOrder store from all jobId job stored
  apply reached.invariant
  · intro start empty jobId job stored
    rw [get, empty] at stored
    cases stored
  · intro before op after valid live stepped jobId job stored
    have performed : before.perform op = some after := stepped
    cases known : before.get jobId with
    | none =>
        obtain ⟨_, _, _, _, _, created⟩ := perform_new performed known stored
        have fresh := fresh_of_createJob created
        exact iff_of_true fresh.active (Or.inl fresh.pending)
    | some old =>
        obtain ⟨row, found, touches⟩ := perform_get performed known
        cases found.symm.trans stored
        exact touches.inOrder known live (valid jobId old known)

end TimerStore

/-- **The lifecycle of a timer job.** In every run in which results are marked on active jobs and
cancellations meet active or cancelled ones, a job is active exactly while it is pending or running,
and once it has ended it keeps its status and is never due again. -/
theorem timer_lifecycle {store : TimerStore} (reached : timerStore.Reachable OnLiveJobs store) :
    (∀ job ∈ store.jobs, job.active = true ↔ job.status = .pending ∨ job.status = .running) ∧
      ∀ jobId job later, store.get jobId = some job → job.status.isTerminal = true →
        timerStore.Steps OnLiveJobs store later →
        ∃ after, later.get jobId = some after ∧ after.status = job.status ∧
          ∀ now, ¬after.Due now := by
  constructor
  · intro job member
    exact TimerStore.inOrder_of_reachable reached (TimerStore.get_eq_some.mpr ⟨member, rfl⟩)
  · intro jobId job later stored ended steps
    let Ended (store : TimerStore) := ∃ after, store.get jobId = some after ∧
      after.status = job.status ∧ after.active = false
    have still : Ended later := by
      apply steps.invariant
      · rintro before op next ⟨row, found, same, inactive⟩ live stepped
        have performed : before.perform op = some next := stepped
        obtain ⟨after, kept, touches⟩ := TimerStore.perform_get performed found
        obtain ⟨status, unclaimable⟩ := touches.ended found live inactive
        exact ⟨after, kept, status.trans same, unclaimable⟩
      · have inOrder := TimerStore.inOrder_of_reachable reached stored
        exact ⟨job, stored, rfl, inOrder.inactive ended⟩
    obtain ⟨after, found, same, inactive⟩ := still
    refine ⟨after, found, same, fun now due => ?_⟩
    rw [due.1] at inactive
    cases inactive

/-- A heartbeat job is claimed, and cancelled before its result arrives. -/
def cancelledRun : List TimerOp :=
  [.create { creatorSessionId := "s", mode := "heartbeat", intervalSeconds := some 5 } none "timer_1"
      0 0,
    .claimDueJobs "timer_watchdog" 20 5000000, .cancelJob "timer_1"]

/-- The store after the cancellation. -/
def cancelledStore : TimerStore := (timerStore.replay OnLiveJobs {} cancelledRun).getD {}

/-- The cancellation is a run of the store. -/
theorem cancelledStore_reached : timerStore.Reachable OnLiveJobs cancelledStore := by
  have start : timerStore.initial {} := rfl
  have replayed : timerStore.replay OnLiveJobs {} cancelledRun = some cancelledStore := rfl
  exact .of_replay start replayed

/-- The job stays cancelled when it is cancelled again. -/
theorem timer_lifecycle_cancelledRun : ∃ after,
    (cancelledStore.cancelJob "timer_1").get "timer_1" = some after ∧ after.status = .cancelled ∧
      ∀ now, ¬after.Due now := by
  have again : timerStore.replay OnLiveJobs cancelledStore [.cancelJob "timer_1"] =
      some (cancelledStore.cancelJob "timer_1") := rfl
  exact (timer_lifecycle cancelledStore_reached).2 "timer_1" _ _ rfl rfl (.of_replay again)

/-- The result of the claim arrives after the cancellation: the job is running again, and it is not
active. -/
theorem timer_revived :
    timerStore.Reachable Machine.anyStep cancelledStore ∧
      (cancelledStore.get "timer_1").map TimerJob.status = some .cancelled ∧
      ∃ revived, cancelledStore.perform (.markJobResult "timer_1" true none 6000000 0) =
          some revived ∧
        (revived.get "timer_1").map (fun job => (job.status, job.active)) =
          some (.running, false) :=
  ⟨cancelledStore_reached.mono fun _ _ _ => trivial, rfl, _, rfl, rfl⟩

end FairyClaw
