import FairyClaw.Timer.Cron
import FairyClaw.Foundation.Machine
import Mathlib.Data.List.Sort

/-! # Timer jobs

`TimerRuntimeStore` keeps one row for every timer job. A job is created, claimed when it is due,
given the result of the run, and cancelled. Every operation runs under the lock of the store, so
it is one step (`FairyClaw.TimerStore.perform`); moments are microseconds since the epoch and are
read from the clock by the operation, not always under the lock. The limits on a job are tested when
a result is marked, and again when it is stored.
-/

namespace FairyClaw

open Foundation

/-- `TimerMode` -/
inductive TimerMode
  | heartbeat
  | cron
  deriving DecidableEq, Repr

/-- The stored form of a mode. -/
def TimerMode.value : TimerMode → String
  | heartbeat => "heartbeat"
  | cron => "cron"

/-- `TimerJobStatus` -/
inductive TimerJobStatus
  | pending
  | running
  | paused
  | completed
  | failed
  | cancelled
  deriving DecidableEq, Repr

/-- The statuses in which a job has ended. -/
def TimerJobStatus.isTerminal : TimerJobStatus → Bool
  | completed | failed | cancelled => true
  | pending | running | paused => false

/-- A second in microseconds. -/
def secondMicros : Int := 1000000

/-- A row of `timer_jobs`. -/
structure TimerJob where
  id : String
  ownerSessionId : String
  creatorSessionId : String
  mode : TimerMode
  cronExpr : Option String := none
  intervalSeconds : Option Int := none
  payload : String := ""
  status : TimerJobStatus := .pending
  nextFireAt : Int
  deadlineAt : Option Int := none
  maxRuns : Option Int := none
  runCount : Nat := 0
  failureCount : Nat := 0
  lastError : Option String := none
  claimedBy : Option String := none
  claimedAt : Option Int := none
  active : Bool := true
  deriving DecidableEq, Repr

/-- The arguments of `create_job`. -/
structure TimerRequest where
  creatorSessionId : String
  mode : String
  payload : Option String := none
  cronExpr : Option String := none
  intervalSeconds : Option Int := none
  startDelaySeconds : Option Int := none
  deadlineSeconds : Option Int := none
  maxRuns : Option Int := none
  deriving Repr

/-- `resolve_owner_session_id`, with the parents that the row of the session and its route name. -/
def resolveOwnerSessionId (creatorSessionId : String) : Option (String × Option String) → String
  | none => creatorSessionId
  | some (fromMeta, fromRoute) =>
      orElse (strip fromMeta) (orElse (fromRoute.getD "") creatorSessionId)

/-- The first moment of a new job, or the error text; `none` is an exception. -/
def firstFireAt (request : TimerRequest) (mode : TimerMode) (now offset : Int) :
    Option (Except String Int) :=
  let delay := max 0 (request.startDelaySeconds.getD 0)
  match mode with
  | .heartbeat =>
      let interval := request.intervalSeconds.getD 0
      if interval < 2 then some (.error "heartbeat interval_seconds must be >= 2.")
      else
        let wait := if delay = 0 then interval else delay
        some (.ok (now + max 1 wait * secondMicros))
  | .cron => do
      let expr := strip (request.cronExpr.getD "")
      match ← parseCron5 expr with
      | some error => return .error (orElse error "invalid cron expression.")
      | none =>
          match ← nextFireAtForCron expr (now + delay * secondMicros) offset with
          | some moment => return .ok moment
          | none => return .error "cron expression has no upcoming fire time in scan window."

/-- `TimerMode(text)` -/
def timerModeOf (text : String) : Option TimerMode :=
  if text = TimerMode.heartbeat.value then some .heartbeat
  else if text = TimerMode.cron.value then some .cron
  else none

/-- `create_job` up to the insertion. Only an empty creator has no owner. -/
def createJob (request : TimerRequest) (ownerSessionId id : String) (now offset : Int) :
    Option (Except String TimerJob) :=
  match timerModeOf (lower (strip request.mode)) with
  | none => some (.error "mode must be heartbeat or cron.")
  | some mode =>
      if ownerSessionId = "" then
        some (.error "Cannot resolve owner session for creator session ''.")
      else if request.deadlineSeconds.any (· ≤ 0) then
        some (.error "deadline_seconds must be > 0 when provided.")
      else if request.maxRuns.any (· ≤ 0) then
        some (.error "max_runs must be > 0 when provided.")
      else
        (firstFireAt request mode now offset).map fun result => result.map fun moment =>
          { id := id
            ownerSessionId := ownerSessionId
            creatorSessionId := request.creatorSessionId
            mode := mode
            cronExpr := if mode = .cron then some (strip (request.cronExpr.getD "")) else none
            intervalSeconds := if mode = .heartbeat then request.intervalSeconds else none
            payload := request.payload.getD ""
            nextFireAt := moment
            deadlineAt := request.deadlineSeconds.map (now + · * secondMicros)
            maxRuns := request.maxRuns }

/-- What `create_job` makes: a pending job that has not run, under limits that are positive. -/
structure TimerJob.Fresh (job : TimerJob) (id : String) : Prop where
  id : job.id = id
  active : job.active = true
  pending : job.status = .pending
  runCount : job.runCount = 0
  failureCount : job.failureCount = 0
  maxRuns : ∀ limit, job.maxRuns = some limit → 0 < limit

/-- A created job is fresh. -/
theorem fresh_of_createJob {request : TimerRequest} {ownerSessionId id : String} {now offset : Int}
    {job : TimerJob}
    (created : createJob request ownerSessionId id now offset = some (.ok job)) : job.Fresh id := by
  unfold createJob at created
  split at created
  · cases created
  · split at created
    · cases created
    · split at created
      · cases created
      · split at created
        · cases created
        · rename_i positive
          obtain ⟨result, _, mapped⟩ := Option.map_eq_some_iff.mp created
          cases result with
          | error text => cases mapped
          | ok moment =>
              cases mapped
              refine ⟨rfl, rfl, rfl, rfl, rfl, fun limit given => ?_⟩
              have asked : request.maxRuns = some limit := given
              simp only [asked, Option.any_some, decide_eq_true_eq, Int.not_le] at positive
              exact positive

namespace TimerJob

variable (job : TimerJob)

/-- The selection of `claim_due_jobs`. -/
def Due (now : Int) : Prop :=
  job.active = true ∧ (job.status = .pending ∨ job.status = .running) ∧ job.nextFireAt ≤ now ∧
    ∀ moment, job.claimedAt = some moment → moment ≤ now - max 1 120 * secondMicros

instance (now : Int) : Decidable (job.Due now) :=
  inferInstanceAs (Decidable (_ ∧ _ ∧ _ ∧ _))

/-- What `claim_due_jobs` writes to a selected row. -/
def claim (worker : String) (now : Int) : TimerJob :=
  { job with
    claimedBy := some worker
    claimedAt := some now
    status := if job.status = .pending then .running else job.status }

/-- The limits as `mark_job_result` tests them before the run is counted; a later test overrides
an earlier one. -/
def terminalStatus (success : Bool) (now : Int) : Option TimerJobStatus :=
  let onDeadline := if job.deadlineAt.any (· ≤ now) then some .completed else none
  let onRuns := if job.maxRuns.any (· ≤ (job.runCount : Int) + 1) then some .completed else onDeadline
  if !success && 3 ≤ job.failureCount + 1 then some .failed else onRuns

/-- The decision of `mark_job_result`: a terminal status, the next moment and the error text;
`none` is an exception. -/
def decideRun (success : Bool) (errorMessage : Option String) (now offset : Int) :
    Option (Option TimerJobStatus × Option Int × Option String) :=
  match job.terminalStatus success now with
  | some status => some (some status, none, errorMessage)
  | none =>
      match job.mode with
      | .heartbeat =>
          let given := job.intervalSeconds.getD 2
          let interval := max 2 (if given = 0 then 2 else given)
          some (none, some (now + interval * secondMicros), errorMessage)
      | .cron => do
          match ← nextFireAtForCron (strip (job.cronExpr.getD "")) now offset with
          | some moment => return (none, some moment, errorMessage)
          | none => return (some .failed, none,
              some (orElse (errorMessage.getD "") "cron expression has no upcoming fire time."))

/-- The first part of `update_after_run`: count the run and store the decision. -/
def recordRun (nextFireAt : Option Int) (success : Bool) (terminal : Option TimerJobStatus)
    (lastError : Option String) : TimerJob :=
  let error := strip (lastError.getD "")
  let counted := { job with
    runCount := job.runCount + 1
    failureCount := if success then 0 else job.failureCount + 1
    lastError := if error = "" then none else some error
    claimedBy := none
    claimedAt := none }
  match terminal, nextFireAt with
  | some status, _ => { counted with status := status, active := false }
  | none, none => { counted with status := .completed, active := false }
  | none, some moment => { counted with status := .running, nextFireAt := moment }

/-- The second part of `update_after_run`: the limits again, after the run is counted. -/
def checkLimits (now : Int) : TimerJob :=
  let onDeadline :=
    if job.deadlineAt.any (· ≤ now) && job.active then
      { job with status := .completed, active := false }
    else job
  if onDeadline.maxRuns.any (· ≤ (onDeadline.runCount : Int)) && onDeadline.active then
    { onDeadline with status := .completed, active := false }
  else onDeadline

/-- `update_after_run` -/
def updateAfterRun (now : Int) (nextFireAt : Option Int) (success : Bool)
    (terminal : Option TimerJobStatus) (lastError : Option String) : TimerJob :=
  (job.recordRun nextFireAt success terminal lastError).checkLimits now

/-- `cancel` -/
def cancel : TimerJob :=
  { job with status := .cancelled, active := false, claimedBy := none, claimedAt := none }

/-- The limits leave a job, or complete it. -/
theorem checkLimits_cases (job : TimerJob) (now : Int) : job.checkLimits now = job ∨
    (job.active = true ∧ job.checkLimits now = { job with status := .completed, active := false }) := by
  unfold checkLimits
  cases live : job.active with
  | false =>
      simp only [live, Bool.and_false, Bool.false_eq_true, ↓reduceIte, true_or]
  | true =>
      simp only [Bool.and_true]
      by_cases late : job.deadlineAt.any (· ≤ now) = true
      · simp only [late, ↓reduceIte, Bool.and_false, Bool.false_eq_true, true_and, or_true]
      · simp only [late, Bool.false_eq_true, ↓reduceIte, live, Bool.and_true]
        split
        · simp only [true_and, or_true]
        · simp only [true_or]

/-- A claim keeps the identifier. -/
theorem claim_id (workerId : String) (now : Int) : (job.claim workerId now).id = job.id := rfl

/-- A cancellation keeps the identifier. -/
theorem cancel_id : job.cancel.id = job.id := rfl

/-- A run keeps the identifier. -/
theorem updateAfterRun_id (now : Int) (nextFireAt : Option Int) (success : Bool)
    (terminal : Option TimerJobStatus) (lastError : Option String) :
    (job.updateAfterRun now nextFireAt success terminal lastError).id = job.id := by
  have kept : (job.recordRun nextFireAt success terminal lastError).id = job.id := by
    cases terminal <;> cases nextFireAt <;> rfl
  rw [updateAfterRun]
  rcases checkLimits_cases _ now with same | ⟨_, completed⟩
  · rw [same, kept]
  · rw [completed]
    exact kept

end TimerJob

/-- The table of timer jobs, with the job's identifier as primary key. -/
structure TimerStore where
  jobs : List TimerJob := []
  unique : (jobs.map TimerJob.id).Nodup := by exact List.nodup_nil

/-- The operations of the store, with the answers of the clock, of the system timezone and of the
session table. -/
inductive TimerOp
  | create (request : TimerRequest) (parents : Option (String × Option String)) (id : String)
      (now offset : Int)
  | claimDueJobs (workerId : String) (limit : Nat) (now : Int)
  | markJobResult (jobId : String) (success : Bool) (errorMessage : Option String)
      (now offset : Int)
  | cancelJob (jobId : String)

namespace TimerStore

variable (store : TimerStore)

/-- The job of an identifier. -/
def get (jobId : String) : Option TimerJob := store.jobs.find? fun job => job.id = jobId

/-- Write to the rows, keeping their identifiers. -/
def write (change : TimerJob → TimerJob) (kept : ∀ job, (change job).id = job.id) : TimerStore where
  jobs := store.jobs.map change
  unique := by
    have same : (store.jobs.map change).map TimerJob.id = store.jobs.map TimerJob.id := by
      rw [List.map_map]
      exact List.map_congr_left fun job _ => kept job
    rw [same]
    exact store.unique

/-- Insert a row under a new identifier. -/
def insert (job : TimerJob) (fresh : job.id ∉ store.jobs.map TimerJob.id) : TimerStore where
  jobs := store.jobs ++ [job]
  unique := by
    rw [List.map_append, List.map_singleton, List.nodup_append]
    refine ⟨store.unique, List.nodup_singleton _, ?_⟩
    rintro id member _ added rfl
    exact fresh (List.mem_singleton.mp added ▸ member)

/-- The rows that `claim_due_jobs` selects: the due ones that fire first. -/
def dueJobs (limit : Nat) (now : Int) : List TimerJob :=
  ((store.jobs.filter fun job => job.Due now).insertionSort fun first second =>
    first.nextFireAt ≤ second.nextFireAt).take (max 1 limit)

/-- Write to the row of one job. -/
def writeJob (jobId : String) (change : TimerJob → TimerJob)
    (kept : ∀ job, (change job).id = job.id) : TimerStore :=
  store.write (fun job => if job.id = jobId then change job else job) fun job => by
    split
    · exact kept job
    · rfl

/-- `claim_due_jobs`, with the claimed rows. -/
def claimDueJobs (workerId : String) (limit : Nat) (now : Int) : List TimerJob × TimerStore :=
  let rows := store.dueJobs limit now
  (rows.map (TimerJob.claim · workerId now),
    store.write (fun job => if job.id ∈ rows.map TimerJob.id then job.claim workerId now else job)
      fun job => by
        split
        · exact job.claim_id workerId now
        · rfl)

/-- `mark_job_result`; `none` is an exception. -/
def markJobResult (jobId : String) (success : Bool) (errorMessage : Option String)
    (now offset : Int) : Option TimerStore :=
  match store.get jobId with
  | none => some store
  | some job =>
      (job.decideRun success errorMessage now offset).map fun (terminal, nextFireAt, error) =>
        store.writeJob jobId (TimerJob.updateAfterRun · now nextFireAt success terminal error)
          fun job => job.updateAfterRun_id now nextFireAt success terminal error

/-- `cancel_job` -/
def cancelJob (jobId : String) : TimerStore := store.writeJob jobId TimerJob.cancel TimerJob.cancel_id

/-- Perform one operation; it is not performed when it raises. -/
def perform : TimerOp → Option TimerStore
  | .create request parents id now offset =>
      match createJob request (resolveOwnerSessionId request.creatorSessionId parents) id now
        offset with
      | some (.ok job) =>
          if fresh : job.id ∉ store.jobs.map TimerJob.id then some (store.insert job fresh) else none
      | some (.error _) => some store
      | none => none
  | .claimDueJobs workerId limit now => some (store.claimDueJobs workerId limit now).2
  | .markJobResult jobId success errorMessage now offset =>
      store.markJobResult jobId success errorMessage now offset
  | .cancelJob jobId => some (store.cancelJob jobId)

variable {store} {next : TimerStore} {op : TimerOp} {job : TimerJob} {jobId : String}

/-- A job is found exactly when it is stored. -/
theorem get_eq_some : store.get jobId = some job ↔ job ∈ store.jobs ∧ job.id = jobId := by
  have found {jobId : String} {job : TimerJob} (stored : store.get jobId = some job) :
      job ∈ store.jobs ∧ job.id = jobId := by
    have matched := List.find?_some stored
    exact ⟨List.mem_of_find?_eq_some stored, by simpa only [decide_eq_true_eq] using matched⟩
  constructor
  · exact found
  · rintro ⟨member, rfl⟩
    have present : (store.get job.id).isSome = true :=
      List.find?_isSome.mpr ⟨job, member, by simp only [decide_true]⟩
    obtain ⟨other, stored⟩ := Option.isSome_iff_exists.mp present
    obtain ⟨listed, same⟩ := found stored
    exact stored.trans (congrArg some (List.inj_on_of_nodup_map store.unique listed member same))

/-- A change of all jobs changes the one that is found. -/
theorem get_write {change : TimerJob → TimerJob} {kept : ∀ job, (change job).id = job.id} :
    (store.write change kept).get jobId = (store.get jobId).map change := by
  simp only [get, write, List.find?_map, Function.comp_def, kept]

/-- A change of one job leaves the others. -/
theorem get_writeJob {change : TimerJob → TimerJob} {kept : ∀ job, (change job).id = job.id}
    {other : String} : (store.writeJob jobId change kept).get other =
      if other = jobId then (store.get other).map change else store.get other := by
  rw [writeJob, get_write]
  cases stored : store.get other with
  | none => simp only [Option.map_none, ite_self]
  | some job =>
      obtain ⟨_, rfl⟩ := get_eq_some.mp stored
      simp only [Option.map_some]
      split <;> rfl

/-- The due jobs are stored, and are due. -/
theorem due_of_mem_dueJobs {limit : Nat} {now : Int} (member : job ∈ store.dueJobs limit now) :
    job ∈ store.jobs ∧ job.Due now := by
  have sorted := List.mem_of_mem_take member
  rw [List.mem_insertionSort, List.mem_filter, decide_eq_true_eq] at sorted
  exact sorted

/-- What an operation may do to a row: nothing, a claim when it is due, the result of a run, or a
cancellation. -/
inductive Touches (op : TimerOp) (job after : TimerJob) : Prop
  | untouched (same : after = job)
  | claimed (workerId : String) (limit : Nat) (now : Int)
      (named : op = .claimDueJobs workerId limit now) (due : job.Due now)
      (result : after = job.claim workerId now)
  | marked (success : Bool) (errorMessage : Option String) (now offset : Int)
      (terminal : Option TimerJobStatus) (nextFireAt : Option Int) (error : Option String)
      (named : op = .markJobResult job.id success errorMessage now offset)
      (decided : job.decideRun success errorMessage now offset = some (terminal, nextFireAt, error))
      (result : after = job.updateAfterRun now nextFireAt success terminal error)
  | cancelled (named : op = .cancelJob job.id) (result : after = job.cancel)

/-- Every operation keeps the rows and touches each in one of these ways. -/
theorem perform_get (performed : store.perform op = some next) (stored : store.get jobId = some job) :
    ∃ after, next.get jobId = some after ∧ Touches op job after := by
  have own := (get_eq_some.mp stored).2
  cases op with
  | create request parents id now offset =>
      simp only [perform] at performed
      split at performed
      · split at performed
        · cases performed
          refine ⟨job, ?_, .untouched rfl⟩
          have absent : store.jobs.find? (fun job => job.id = jobId) = some job := stored
          simp only [get, insert, List.find?_append, absent, Option.some_or]
        · cases performed
      · cases performed
        exact ⟨job, stored, .untouched rfl⟩
      · cases performed
  | claimDueJobs workerId limit now =>
      cases performed
      rw [claimDueJobs, get_write, stored, Option.map_some]
      refine ⟨_, rfl, ?_⟩
      split
      · rename_i selected
        obtain ⟨row, member, same⟩ := List.mem_map.mp selected
        obtain ⟨present, due⟩ := due_of_mem_dueJobs member
        have row_eq := List.inj_on_of_nodup_map store.unique present (get_eq_some.mp stored).1 same
        exact .claimed workerId limit now rfl (row_eq ▸ due) rfl
      · exact .untouched rfl
  | markJobResult target success errorMessage now offset =>
      simp only [perform, markJobResult] at performed
      split at performed
      · cases performed
        exact ⟨job, stored, .untouched rfl⟩
      · rename_i current found
        obtain ⟨⟨terminal, nextFireAt, error⟩, decided, rfl⟩ := Option.map_eq_some_iff.mp performed
        rw [get_writeJob, stored, Option.map_some]
        by_cases same : jobId = target
        · rw [if_pos same]
          rw [← same, stored] at found
          cases found
          refine ⟨_, rfl, .marked success errorMessage now offset terminal nextFireAt error ?_
            decided rfl⟩
          rw [own, same]
        · rw [if_neg same]
          exact ⟨job, rfl, .untouched rfl⟩
  | cancelJob target =>
      cases performed
      rw [cancelJob, get_writeJob, stored, Option.map_some]
      by_cases same : jobId = target
      · rw [if_pos same]
        exact ⟨_, rfl, .cancelled (by rw [own, same]) rfl⟩
      · rw [if_neg same]
        exact ⟨job, rfl, .untouched rfl⟩

/-- A new row is one that `create_job` makes. -/
theorem perform_new (performed : store.perform op = some next) (missing : store.get jobId = none)
    (stored : next.get jobId = some job) :
    ∃ request parents now offset, op = .create request parents jobId now offset ∧
      createJob request (resolveOwnerSessionId request.creatorSessionId parents) jobId now offset =
        some (.ok job) := by
  cases op with
  | create request parents id now offset =>
      simp only [perform] at performed
      split at performed
      · rename_i created made
        split at performed
        · cases performed
          have absent : store.jobs.find? (fun job => job.id = jobId) = none := missing
          simp only [get, insert, List.find?_append, absent, Option.none_or,
            List.find?_singleton, decide_eq_true_eq] at stored
          split at stored
          · rename_i own
            cases stored
            obtain rfl := (fresh_of_createJob made).id.symm.trans own
            exact ⟨request, parents, now, offset, rfl, made⟩
          · cases stored
        · cases performed
      · cases performed
        rw [missing] at stored
        cases stored
      · cases performed
  | claimDueJobs workerId limit now =>
      cases performed
      rw [claimDueJobs, get_write, missing] at stored
      cases stored
  | markJobResult target success errorMessage now offset =>
      simp only [perform, markJobResult] at performed
      split at performed
      · cases performed
        rw [missing] at stored
        cases stored
      · obtain ⟨_, _, rfl⟩ := Option.map_eq_some_iff.mp performed
        rw [get_writeJob, missing, Option.map_none, ite_self] at stored
        cases stored
  | cancelJob target =>
      cases performed
      rw [cancelJob, get_writeJob, missing, Option.map_none, ite_self] at stored
      cases stored

end TimerStore

/-- The store from the start on, under any sequence of operations. -/
def timerStore : Machine TimerStore TimerOp where
  initial := (·.jobs = [])
  step := TimerStore.perform

end FairyClaw
