import FairyClaw.Timer.Bounds

/-! # Ticks of the timer watchdog

The watchdog claims the due jobs and works them off: it publishes a tick on the bus, notifies the
gateway, and records a result. Each of these may raise. An exception is recorded as a failed run, in
the branch that handles it, and an exception raised there ends the watchdog
(`FairyClaw.processJob`).
-/

namespace FairyClaw

open Foundation

/-- A tick event on the bus. -/
structure TimerTick where
  jobId : String
  mode : TimerMode
  ownerSessionId : String
  creatorSessionId : String
  runCount : Nat
  nextFireAtMs : Int
  payload : String
  internalUserText : String
  moment : Int
  deriving DecidableEq, Repr

/-- The tick of a claimed job, published at a moment. -/
def TimerJob.tick (job : TimerJob) (moment : Int) : TimerTick :=
  let payload := strip job.payload
  let text := "[TIMER_TICK] mode=" ++ job.mode.value ++ " job_id=" ++ job.id ++ " run_index=" ++
    toString (job.runCount + 1)
  { jobId := job.id
    mode := job.mode
    ownerSessionId := job.ownerSessionId
    creatorSessionId := job.creatorSessionId
    runCount := job.runCount
    nextFireAtMs := job.nextFireAt / 1000
    payload := payload
    internalUserText := if payload = "" then text else text ++ "\n[TIMER_PAYLOAD] " ++ payload
    moment := moment }

/-- Where recording a result raises: before its commit, or after it. -/
inductive MarkFault
  | beforeCommit
  | afterCommit
  deriving DecidableEq, Repr

/-- What a recording of a result meets: the clock, the offset of the system timezone, the place
where it raises, and the text of the exception. -/
structure MarkAnswer where
  now : Int
  offset : Int := 0
  fault : Option MarkFault := none
  error : String := ""
  deriving Repr

/-- What the watchdog meets while it works off one job: the moment of the tick, the exceptions of
the bus and of the gateway, and the two possible recordings. -/
structure TickAnswers where
  moment : Int
  publish : Option String := none
  emit : Option String := none
  success : MarkAnswer
  failure : MarkAnswer
  deriving Repr

/-- What is left of one job: its tick, the exception that leaves the loop, and the store. -/
structure TickOutcome where
  tick : Option TimerTick
  raised : Option String
  store : TimerStore

/-- Record a result, or raise. -/
def TimerStore.tryMark (store : TimerStore) (jobId : String) (success : Bool)
    (errorMessage : Option String) (answer : MarkAnswer) : Option String × TimerStore :=
  match store.markJobResult jobId success errorMessage answer.now answer.offset with
  | none => (some answer.error, store)
  | some next =>
      match answer.fault with
      | none => (none, next)
      | some .beforeCommit => (some answer.error, store)
      | some .afterCommit => (some answer.error, next)

/-- The branch that handles an exception. -/
def recordFailure (store : TimerStore) (job : TimerJob) (tick : Option TimerTick) (error : String)
    (answer : MarkAnswer) : TickOutcome :=
  let (raised, next) :=
    store.tryMark job.id false (some ("timer tick processing failed: " ++ error)) answer
  { tick := tick, raised := raised, store := next }

/-- The body of the loop over the due jobs. -/
def processJob (store : TimerStore) (job : TimerJob) (answers : TickAnswers) : TickOutcome :=
  match answers.publish with
  | some error => recordFailure store job none error answers.failure
  | none =>
      let tick := job.tick answers.moment
      match answers.emit with
      | some error => recordFailure store job (some tick) error answers.failure
      | none =>
          match store.tryMark job.id true none answers.success with
          | (none, next) => { tick := some tick, raised := none, store := next }
          | (some error, next) => recordFailure next job (some tick) error answers.failure

/-- What is left of one poll: its ticks, the jobs that were not reached, the exception that ended
the watchdog, and the store. -/
structure PollOutcome where
  ticks : List TimerTick := []
  remaining : List TimerJob := []
  raised : Option String := none
  store : TimerStore

/-- The loop over the due jobs. -/
def processJobs (answers : String → TickAnswers) (store : TimerStore) :
    List TimerJob → PollOutcome
  | [] => { store := store }
  | job :: rest =>
      let outcome := processJob store job (answers job.id)
      match outcome.raised with
      | some error =>
          { ticks := outcome.tick.toList, remaining := rest, raised := some error
            store := outcome.store }
      | none =>
          let later := processJobs answers outcome.store rest
          { later with ticks := outcome.tick.toList ++ later.ticks }

/-- One round of `timer_watchdog`. A failed claim is logged, and the next round follows. -/
def pollTimers (workerId : String) (now : Int) (claimError : Option String)
    (answers : String → TickAnswers) (store : TimerStore) : PollOutcome :=
  match claimError with
  | some _ => { store := store }
  | none =>
      let (due, claimed) := store.claimDueJobs workerId 20 now
      processJobs answers claimed due

namespace TimerJob

variable {job after : TimerJob} {success : Bool}

/-- Recording a result on the row raises. -/
def MarkRaises (job : TimerJob) (success : Bool) (answer : MarkAnswer) : Prop :=
  answer.fault ≠ none ∨ job.decideRun success none answer.now answer.offset = none

/-- Recording a result on the row commits, whether or not it raises afterwards. -/
def MarkCommits (job : TimerJob) (success : Bool) (answer : MarkAnswer) : Prop :=
  answer.fault ≠ some .beforeCommit ∧ job.decideRun success none answer.now answer.offset ≠ none

instance (job : TimerJob) (success : Bool) (answer : MarkAnswer) :
    Decidable (job.MarkRaises success answer) := inferInstanceAs (Decidable (_ ∨ _))

instance (job : TimerJob) (success : Bool) (answer : MarkAnswer) :
    Decidable (job.MarkCommits success answer) := inferInstanceAs (Decidable (_ ∧ _))

/-- The row counts one more run. -/
structure Counted (job after : TimerJob) (success : Bool) : Prop where
  runCount : after.runCount = job.runCount + 1
  failureCount : after.failureCount = if success then 0 else job.failureCount + 1

/-- Whether a decision raises does not depend on the error text. -/
theorem decideRun_eq_none (errorMessage : Option String) (now offset : Int) :
    job.decideRun success errorMessage now offset = none ↔
      job.decideRun success none now offset = none := by
  unfold decideRun
  cases job.terminalStatus success now with
  | some status => exact iff_of_false nofun nofun
  | none =>
      cases job.mode with
      | heartbeat => exact iff_of_false nofun nofun
      | cron =>
          simp only [Option.bind_eq_bind]
          cases nextFireAtForCron (strip (job.cronExpr.getD "")) now offset with
          | none => exact iff_of_true rfl rfl
          | some found => cases found <;> exact iff_of_false nofun nofun

/-- The counts of a job after a run. -/
theorem counted_updateAfterRun {errorMessage : Option String} {now offset : Int}
    {terminal : Option TimerJobStatus} {nextFireAt : Option Int} {error : Option String}
    (decided : job.decideRun success errorMessage now offset = some (terminal, nextFireAt, error)) :
    job.Counted (job.updateAfterRun now nextFireAt success terminal error) success := by
  rw [updateAfterRun_eq decided]
  obtain ⟨runs, failures, _⟩ := job.recordRun_counts nextFireAt success terminal error
  exact ⟨runs, failures⟩

end TimerJob

namespace TimerStore

variable {store : TimerStore} {job : TimerJob} {jobId : String} {success : Bool}
  {errorMessage : Option String} {answer : MarkAnswer}

/-- What a recording does: it raises or not, it commits or not, and it leaves other rows alone. -/
structure TryMarked (store : TimerStore) (jobId : String) (job : TimerJob) (success : Bool)
    (answer : MarkAnswer) (raised : Option String) (next : TimerStore) : Prop where
  raises : raised ≠ none ↔ job.MarkRaises success answer
  commits : job.MarkCommits success answer →
    ∃ after, next.get jobId = some after ∧ job.Counted after success
  stays : ¬job.MarkCommits success answer → next = store
  others : ∀ other, other ≠ jobId → next.get other = store.get other

/-- Marking a result raises exactly when the decision does. -/
theorem markJobResult_eq_none (stored : store.get jobId = some job) {now offset : Int} :
    store.markJobResult jobId success errorMessage now offset = none ↔
      job.decideRun success none now offset = none := by
  rw [markJobResult, stored]
  simp only [Option.map_eq_none_iff]
  exact TimerJob.decideRun_eq_none errorMessage now offset

/-- A recorded result counts one run of the job, and concerns no other row. -/
theorem markJobResult_get (stored : store.get jobId = some job) {now offset : Int}
    {next : TimerStore}
    (marked : store.markJobResult jobId success errorMessage now offset = some next) :
    (∃ after, next.get jobId = some after ∧ job.Counted after success) ∧
      ∀ other, other ≠ jobId → next.get other = store.get other := by
  rw [markJobResult, stored] at marked
  obtain ⟨⟨terminal, nextFireAt, error⟩, decided, rfl⟩ := Option.map_eq_some_iff.mp marked
  refine ⟨⟨_, ?_, TimerJob.counted_updateAfterRun decided⟩, fun other different => ?_⟩
  · rw [get_writeJob, if_pos rfl, stored]
    rfl
  · rw [get_writeJob, if_neg different]

/-- What marking a result does to the store. -/
theorem tryMark_spec (stored : store.get jobId = some job) (success : Bool)
    (errorMessage : Option String) (answer : MarkAnswer) :
    TryMarked store jobId job success answer (store.tryMark jobId success errorMessage answer).1
      (store.tryMark jobId success errorMessage answer).2 := by
  rw [tryMark]
  cases marked : store.markJobResult jobId success errorMessage answer.now answer.offset with
  | none =>
      have raises := (markJobResult_eq_none stored).mp marked
      exact ⟨iff_of_true nofun (Or.inr raises), fun commits => absurd raises commits.2,
        fun _ => rfl, fun _ _ => rfl⟩
  | some next =>
      have fine : job.decideRun success none answer.now answer.offset ≠ none := fun raises =>
        nomatch marked.symm.trans ((markJobResult_eq_none stored).mpr raises)
      obtain ⟨counted, others⟩ := markJobResult_get stored marked
      cases fault : answer.fault with
      | none =>
          exact ⟨iff_of_false (fun raised => raised rfl) fun raises =>
              raises.elim (fun present => present fault) fine,
            fun _ => counted, fun stays => absurd ⟨by rw [fault]; nofun, fine⟩ stays, others⟩
      | some place =>
          have raises : job.MarkRaises success answer := Or.inl (by rw [fault]; nofun)
          cases place with
          | beforeCommit =>
              exact ⟨iff_of_true nofun raises, fun commits => absurd fault commits.1,
                fun _ => rfl, fun _ _ => rfl⟩
          | afterCommit =>
              exact ⟨iff_of_true nofun raises, fun _ => counted,
                fun stays => absurd ⟨by rw [fault]; nofun, fine⟩ stays, others⟩

/-- A recording that does not raise commits. -/
theorem TryMarked.counted {raised : Option String} {next : TimerStore}
    (marked : TryMarked store jobId job success answer raised next) (quiet : raised = none) :
    ∃ after, next.get jobId = some after ∧ job.Counted after success := by
  have silent : ¬job.MarkRaises success answer := fun raises => marked.raises.mpr raises quiet
  refine marked.commits ⟨fun fault => silent (Or.inl ?_), fun fails => silent (Or.inr fails)⟩
  rw [fault]
  nofun

end TimerStore

end FairyClaw
