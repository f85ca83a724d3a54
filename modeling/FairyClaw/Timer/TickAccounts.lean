import FairyClaw.Timer.Watchdog

/-! # Accounting of timer ticks

A poll goes through all claimed jobs and counts every published tick once, without a failure when
only the gateway was not notified, exactly when no handling of an exception raises, no gateway
notification fails after its tick was published, and no successful result raises after it was
committed (`FairyClaw.poll_accounts_iff`).
-/

namespace FairyClaw

open Foundation

/-- What working off a job meets keeps the accounts: without a tick, the failure is recorded; with a
tick, the gateway is notified, and the success is recorded, or the failure in its place. -/
def TickAnswers.Benign (job : TimerJob) (answers : TickAnswers) : Prop :=
  match answers.publish, answers.emit with
  | some _, _ => ¬job.MarkRaises false answers.failure
  | none, some _ => False
  | none, none => ¬job.MarkRaises true answers.success ∨
      (¬job.MarkCommits true answers.success ∧ ¬job.MarkRaises false answers.failure)

/-- The job is worked off, and its tick counts as one run, which has not failed when only the
gateway was not notified. -/
structure JobAccounts (job : TimerJob) (answers : TickAnswers) (outcome : TickOutcome) : Prop where
  survives : outcome.raised = none
  counted : outcome.tick ≠ none → ∃ after, outcome.store.get job.id = some after ∧
    after.runCount = job.runCount + 1 ∧
    (answers.emit ≠ none → after.failureCount ≤ job.failureCount)

/-- The poll reaches every job and ends, and every tick counts as one run of its job, which has not
failed when only the gateway was not notified. -/
structure PollAccounts (store : TimerStore) (answers : String → TickAnswers)
    (outcome : PollOutcome) : Prop where
  survives : outcome.raised = none ∧ outcome.remaining = []
  counted : ∀ tick ∈ outcome.ticks, ∀ job, store.get tick.jobId = some job →
    ∃ after, outcome.store.get tick.jobId = some after ∧ after.runCount = job.runCount + 1
  unfailed : ∀ tick ∈ outcome.ticks, (answers tick.jobId).emit ≠ none →
    ∀ job, store.get tick.jobId = some job →
      ∃ after, outcome.store.get tick.jobId = some after ∧ after.failureCount ≤ job.failureCount

/-! ## One job -/

section OneJob

variable {store : TimerStore} {job : TimerJob} {answers : TickAnswers}

/-- A tick is of the job that is processed. -/
theorem processJob_tick {tick : TimerTick} (ticked : (processJob store job answers).tick = some tick) :
    tick.jobId = job.id := by
  unfold processJob at ticked
  split at ticked
  · cases ticked
  · split at ticked
    · cases ticked
      rfl
    · split at ticked <;> cases ticked <;> rfl

/-- The handling of an exception, on the row that the job has by then. -/
theorem recordFailure_marked {row : TimerJob} (stored : store.get job.id = some row)
    (tick : Option TimerTick) (error : String) (answer : MarkAnswer) :
    TimerStore.TryMarked store job.id row false answer
      (recordFailure store job tick error answer).raised
      (recordFailure store job tick error answer).store :=
  TimerStore.tryMark_spec stored false _ answer

/-- After a commit of the success, the handling of an exception counts a second run. -/
theorem recordFailure_twice {row : TimerJob} (stored : store.get job.id = some row)
    (counted : job.Counted row true) (tick : TimerTick) (error : String) (answer : MarkAnswer) :
    ¬JobAccounts job answers (recordFailure store job (some tick) error answer) := by
  intro accounts
  obtain ⟨after, found, runs, _⟩ := accounts.counted nofun
  obtain ⟨second, later, again⟩ :=
    (recordFailure_marked stored (some tick) error answer).counted accounts.survives
  have same : second = after := Option.some.inj (later.symm.trans found)
  rw [← same, again.runCount, counted.runCount] at runs
  omega

/-- Processing a job touches no other job. -/
theorem processJob_others (stored : store.get job.id = some job) {other : String}
    (different : other ≠ job.id) :
    (processJob store job answers).store.get other = store.get other := by
  unfold processJob
  split
  · exact (recordFailure_marked stored _ _ _).others other different
  · split
    · exact (recordFailure_marked stored _ _ _).others other different
    · have marked := TimerStore.tryMark_spec stored true none answers.success
      split
      · rename_i next result
        rw [result] at marked
        exact marked.others other different
      · rename_i error next result
        rw [result] at marked
        obtain ⟨row, kept⟩ : ∃ row, next.get job.id = some row := by
          by_cases commits : job.MarkCommits true answers.success
          · obtain ⟨row, found, _⟩ := marked.commits commits
            exact ⟨row, found⟩
          · have same : next = store := marked.stays commits
            exact ⟨job, same ▸ stored⟩
        exact ((recordFailure_marked kept _ _ _).others other different).trans
          (marked.others other different)

/-- Without a failed notification, one recording in place of a result is a counted run. -/
theorem jobAccounts_of_marked {success : Bool} {answer : MarkAnswer} {outcome : TickOutcome}
    (marked : TimerStore.TryMarked store job.id job success answer outcome.raised outcome.store)
    (notified : answers.emit = none ∨ outcome.tick = none) :
    JobAccounts job answers outcome ↔ ¬job.MarkRaises success answer := by
  constructor
  · exact fun accounts raises => marked.raises.mpr raises accounts.survives
  · intro quiet
    have survives : outcome.raised = none := by_contra fun raised => quiet (marked.raises.mp raised)
    obtain ⟨after, found, counted⟩ := marked.counted survives
    refine ⟨survives, fun ticked => ⟨after, found, counted.runCount, fun failed => ?_⟩⟩
    exact (notified.elim failed ticked).elim

/-- The accounts of a job are right exactly when its answers are benign. -/
theorem processJob_accounts_iff (stored : store.get job.id = some job) :
    JobAccounts job answers (processJob store job answers) ↔ answers.Benign job := by
  unfold processJob TickAnswers.Benign
  cases answers.publish with
  | some error =>
      exact jobAccounts_of_marked (recordFailure_marked stored none error answers.failure)
        (Or.inr rfl)
  | none =>
      cases emitted : answers.emit with
      | some error =>
          have marked := recordFailure_marked stored (some (job.tick answers.moment)) error
            answers.failure
          refine iff_of_false (fun accounts => ?_) id
          obtain ⟨after, found, _, unfailed⟩ := accounts.counted nofun
          obtain ⟨row, later, counted⟩ := marked.counted accounts.survives
          have same : row = after := Option.some.inj (later.symm.trans found)
          have fewer := unfailed (by rw [emitted]; nofun)
          rw [← same, counted.failureCount] at fewer
          simp only [Bool.false_eq_true, ↓reduceIte] at fewer
          omega
      | none =>
          have marked := TimerStore.tryMark_spec stored true none answers.success
          simp only
          generalize store.tryMark job.id true none answers.success = result at marked ⊢
          obtain ⟨raised, next⟩ := result
          cases raised with
          | none =>
              have quiet : ¬job.MarkRaises true answers.success := fun raises =>
                marked.raises.mpr raises rfl
              refine iff_of_true ⟨rfl, fun _ => ?_⟩ (Or.inl quiet)
              obtain ⟨after, found, counted⟩ := marked.counted rfl
              exact ⟨after, found, counted.runCount, fun failed => absurd emitted failed⟩
          | some error =>
              have raises : job.MarkRaises true answers.success := marked.raises.mp nofun
              by_cases commits : job.MarkCommits true answers.success
              · obtain ⟨row, found, counted⟩ := marked.commits commits
                refine iff_of_false (recordFailure_twice found counted _ error answers.failure) ?_
                exact fun benign =>
                  benign.elim (fun quiet => quiet raises) fun late => late.1 commits
              · obtain rfl : next = store := marked.stays commits
                have again := jobAccounts_of_marked (recordFailure_marked stored
                  (some (job.tick answers.moment)) error answers.failure) (Or.inl emitted)
                exact again.trans ⟨fun quiet => Or.inr ⟨commits, quiet⟩,
                  fun benign => benign.elim (fun quiet => absurd raises quiet) And.right⟩

end OneJob

/-! ## The jobs of a poll -/

section Jobs

variable {store : TimerStore} {answers : String → TickAnswers} {jobs : List TimerJob}

/-- The ticks of a poll are of its jobs. -/
theorem processJobs_ticks : ∀ {jobs : List TimerJob} {store : TimerStore} {tick : TimerTick},
    tick ∈ (processJobs answers store jobs).ticks → tick.jobId ∈ jobs.map TimerJob.id
  | [], _, _, ticked => nomatch ticked
  | job :: rest, store, tick, ticked => by
      have own (member : tick ∈ (processJob store job (answers job.id)).tick.toList) :
          tick.jobId = job.id := processJob_tick (Option.mem_toList.mp member)
      rw [processJobs] at ticked
      split at ticked
      · exact List.mem_cons.mpr (Or.inl (own ticked))
      · rcases List.mem_append.mp ticked with first | later
        · exact List.mem_cons.mpr (Or.inl (own first))
        · exact List.mem_cons_of_mem _ (processJobs_ticks later)

/-- A poll leaves the rows of other jobs alone. -/
theorem processJobs_others : ∀ {jobs : List TimerJob} {store : TimerStore} {other : String},
    (jobs.map TimerJob.id).Nodup → (∀ job ∈ jobs, store.get job.id = some job) →
      other ∉ jobs.map TimerJob.id → (processJobs answers store jobs).store.get other = store.get other
  | [], _, _, _, _, _ => rfl
  | job :: rest, store, other, distinct, stored, outside => by
      obtain ⟨absent, distinct⟩ := List.nodup_cons.mp distinct
      obtain ⟨different, outside⟩ := not_or.mp (List.mem_cons.not.mp outside)
      have kept (other : String) (different : other ≠ job.id) :
          (processJob store job (answers job.id)).store.get other = store.get other :=
        processJob_others (stored job List.mem_cons_self) different
      rw [processJobs]
      split
      · exact kept other different
      · refine (processJobs_others distinct (fun next member => ?_) outside).trans
          (kept other different)
        rw [kept next.id fun same => absent (same ▸ List.mem_map_of_mem member)]
        exact stored next (List.mem_cons_of_mem _ member)

/-- The accounts of a poll that works off its first job are those of the job and of the rest. -/
theorem pollAccounts_cons {job : TimerJob} {outcome : TickOutcome}
    (stored : store.get job.id = some job)
    (own : ∀ tick, outcome.tick = some tick → tick.jobId = job.id)
    (others : ∀ other, other ≠ job.id → outcome.store.get other = store.get other)
    (survives : outcome.raised = none) {later : PollOutcome}
    (apart : ∀ tick ∈ later.ticks, tick.jobId ≠ job.id)
    (kept : later.store.get job.id = outcome.store.get job.id) :
    PollAccounts store answers { later with ticks := outcome.tick.toList ++ later.ticks } ↔
      JobAccounts job (answers job.id) outcome ∧ PollAccounts outcome.store answers later := by
  constructor
  · intro accounts
    refine ⟨⟨survives, fun ticked => ?_⟩, accounts.survives, ?_, ?_⟩
    · obtain ⟨tick, present⟩ := Option.ne_none_iff_exists'.mp ticked
      have named := own tick present
      have member : tick ∈ outcome.tick.toList ++ later.ticks :=
        List.mem_append_left _ (Option.mem_toList.mpr present)
      have row : store.get tick.jobId = some job := by rw [named, stored]
      obtain ⟨after, found, runs⟩ := accounts.counted tick member job row
      rw [named] at found
      refine ⟨after, kept.symm.trans found, runs, fun failed => ?_⟩
      obtain ⟨same, again, fewer⟩ :=
        accounts.unfailed tick member (by rw [named]; exact failed) job row
      rw [named] at again
      rwa [Option.some.inj (found.symm.trans again)]
    · intro tick member row present
      rw [others _ (apart tick member)] at present
      exact accounts.counted tick (List.mem_append_right _ member) row present
    · intro tick member failed row present
      rw [others _ (apart tick member)] at present
      exact accounts.unfailed tick (List.mem_append_right _ member) failed row present
  · rintro ⟨first, rest⟩
    have row {tick : TimerTick} (ticked : tick ∈ outcome.tick.toList) {job' : TimerJob}
        (present : store.get tick.jobId = some job') : job' = job ∧ tick.jobId = job.id := by
      have named := own tick (Option.mem_toList.mp ticked)
      rw [named, stored] at present
      exact ⟨(Option.some.inj present).symm, named⟩
    have nonempty {tick : TimerTick} (ticked : tick ∈ outcome.tick.toList) :
        outcome.tick ≠ none := by
      rw [Option.mem_toList.mp ticked]
      nofun
    refine ⟨rest.survives, ?_, ?_⟩
    · intro tick member job' present
      rcases List.mem_append.mp member with ticked | ticked
      · obtain ⟨rfl, named⟩ := row ticked present
        obtain ⟨after, found, runs, _⟩ := first.counted (nonempty ticked)
        exact ⟨after, by rw [named]; exact kept.trans found, runs⟩
      · rw [← others _ (apart tick ticked)] at present
        exact rest.counted tick ticked job' present
    · intro tick member failed job' present
      rcases List.mem_append.mp member with ticked | ticked
      · obtain ⟨rfl, named⟩ := row ticked present
        obtain ⟨after, found, _, fewer⟩ := first.counted (nonempty ticked)
        exact ⟨after, by rw [named]; exact kept.trans found, fewer (by rw [← named]; exact failed)⟩
      · rw [← others _ (apart tick ticked)] at present
        exact rest.unfailed tick ticked failed job' present

/-- The accounts of a poll are right exactly when all answers are benign. -/
theorem processJobs_accounts_iff : ∀ {jobs : List TimerJob} {store : TimerStore},
    (jobs.map TimerJob.id).Nodup → (∀ job ∈ jobs, store.get job.id = some job) →
      (PollAccounts store answers (processJobs answers store jobs) ↔
        ∀ job ∈ jobs, (answers job.id).Benign job)
  | [], store, _, _ => by
      refine iff_of_true ⟨⟨rfl, rfl⟩, ?_, ?_⟩ ?_
      · exact fun tick ticked => nomatch ticked
      · exact fun tick ticked => nomatch ticked
      · exact fun job member => nomatch member
  | job :: rest, store, distinct, stored => by
      obtain ⟨absent, distinct⟩ := List.nodup_cons.mp distinct
      have row := stored job List.mem_cons_self
      have first : JobAccounts job (answers job.id) (processJob store job (answers job.id)) ↔
          (answers job.id).Benign job := processJob_accounts_iff row
      have others (other : String) (different : other ≠ job.id) :
          (processJob store job (answers job.id)).store.get other = store.get other :=
        processJob_others row different
      rw [List.forall_mem_cons, ← first]
      rw [processJobs]
      split
      · rename_i error raised
        refine iff_of_false (fun accounts => nomatch accounts.survives.1) fun both => ?_
        exact nomatch raised.symm.trans both.1.survives
      · rename_i survives
        have rows (next : TimerJob) (member : next ∈ rest) :
            (processJob store job (answers job.id)).store.get next.id = some next := by
          rw [others next.id fun same => absent (same ▸ List.mem_map_of_mem member)]
          exact stored next (List.mem_cons_of_mem _ member)
        rw [pollAccounts_cons row (fun tick => processJob_tick) others survives ?_ ?_,
          processJobs_accounts_iff distinct rows]
        · exact fun tick ticked same => absent (same ▸ processJobs_ticks ticked)
        · exact processJobs_others distinct rows absent

/-- The accounts depend on the counters of the rows only. -/
theorem PollAccounts.congr {claimed : TimerStore} {outcome : PollOutcome}
    (same : ∀ jobId, (claimed.get jobId).map (fun job => (job.runCount, job.failureCount)) =
      (store.get jobId).map fun job => (job.runCount, job.failureCount))
    (accounts : PollAccounts store answers outcome) : PollAccounts claimed answers outcome := by
  have row {jobId : String} {job : TimerJob} (present : claimed.get jobId = some job) :
      ∃ before, store.get jobId = some before ∧ before.runCount = job.runCount ∧
        before.failureCount = job.failureCount := by
    have counters := same jobId
    rw [present, Option.map_some, eq_comm] at counters
    obtain ⟨before, stored, equal⟩ := Option.map_eq_some_iff.mp counters
    exact ⟨before, stored, congrArg Prod.fst equal, congrArg Prod.snd equal⟩
  refine ⟨accounts.survives, ?_, ?_⟩
  · intro tick member job present
    obtain ⟨before, stored, runs, _⟩ := row present
    rw [← runs]
    exact accounts.counted tick member before stored
  · intro tick member failed job present
    obtain ⟨before, stored, _, failures⟩ := row present
    rw [← failures]
    exact accounts.unfailed tick member failed before stored

end Jobs

/-- A claim changes no counter, and the claimed rows are stored. -/
theorem TimerStore.claimDueJobs_rows (store : TimerStore) (workerId : String) (limit : Nat)
    (now : Int) :
    (∀ jobId, ((store.claimDueJobs workerId limit now).2.get jobId).map
        (fun job => (job.runCount, job.failureCount)) =
      (store.get jobId).map fun job => (job.runCount, job.failureCount)) ∧
    ((store.claimDueJobs workerId limit now).1.map TimerJob.id).Nodup ∧
    ∀ job ∈ (store.claimDueJobs workerId limit now).1,
      (store.claimDueJobs workerId limit now).2.get job.id = some job := by
  refine ⟨fun jobId => ?_, ?_, fun job member => ?_⟩
  · rw [claimDueJobs, get_write, Option.map_map]
    refine congrArg (Option.map · (store.get jobId)) (funext fun job => ?_)
    simp only [Function.comp_apply]
    split <;> rfl
  · rw [claimDueJobs, List.map_map]
    exact store.nodup_dueJobs limit now
  · obtain ⟨row, due, rfl⟩ := List.mem_map.mp member
    have stored := get_eq_some.mpr ⟨(due_of_mem_dueJobs due).1, rfl⟩
    rw [claimDueJobs, get_write, TimerJob.claim_id, stored, Option.map_some,
      if_pos (List.mem_map_of_mem due)]

/-- **Accounts of a poll.** Whatever raises, where, and for which of the due jobs: the watchdog
goes on to the remaining jobs and to its next round, every published tick counts as one run, and
a tick whose gateway notification failed is no failure, exactly when the claim itself fails or
what every due job meets is benign. -/
theorem poll_accounts_iff (store : TimerStore) (workerId : String) (now : Int)
    (claimError : Option String) (answers : String → TickAnswers) :
    PollAccounts store answers (pollTimers workerId now claimError answers store) ↔
      claimError ≠ none ∨ ∀ job ∈ (store.claimDueJobs workerId 20 now).1,
        (answers job.id).Benign job := by
  cases claimError with
  | some error =>
      refine iff_of_true ⟨⟨rfl, rfl⟩, ?_, ?_⟩ (Or.inl nofun)
      · exact fun tick ticked => nomatch ticked
      · exact fun tick ticked => nomatch ticked
  | none =>
      obtain ⟨counters, distinct, rows⟩ := store.claimDueJobs_rows workerId 20 now
      rw [or_iff_right (fun fails => fails rfl), ← processJobs_accounts_iff distinct rows]
      exact ⟨.congr counters, .congr fun jobId => (counters jobId).symm⟩

/-- A heartbeat job that is due. -/
def dueJob : TimerJob where
  id := "timer_1"
  ownerSessionId := "sess"
  creatorSessionId := "sess"
  mode := .heartbeat
  intervalSeconds := some 5
  nextFireAt := 5000000

/-- A store with a job that is due. -/
def dueStore : TimerStore where
  jobs := [dueJob]
  unique := List.nodup_singleton _

/-- The bus takes the tick, and the gateway bridge fails. -/
def unnotified (_ : String) : TickAnswers where
  moment := 6000000
  emit := some "Cannot call send once a close message has been sent."
  success := { now := 6000000 }
  failure := { now := 6000000 }

/-- A poll in which the tick cannot be delivered. -/
def unnotifiedPoll : PollOutcome := pollTimers "timer_watchdog" 6000000 none unnotified dueStore

/-- A published tick whose notification failed counts as a failed run. -/
theorem unnotified_tick_failed :
    unnotifiedPoll.ticks.map TimerTick.jobId = ["timer_1"] ∧
    (unnotifiedPoll.store.get "timer_1").map TimerJob.failureCount = some 1 ∧
    ¬PollAccounts dueStore unnotified unnotifiedPoll := by
  have failures : (unnotifiedPoll.store.get "timer_1").map TimerJob.failureCount = some 1 := by
    decide
  refine ⟨by decide, failures, fun accounts => ?_⟩
  obtain ⟨tick, member⟩ : ∃ tick, tick ∈ unnotifiedPoll.ticks := ⟨_, List.mem_cons_self⟩
  have named : tick.jobId = "timer_1" := by
    have listed := List.mem_map_of_mem (f := TimerTick.jobId) member
    rw [show unnotifiedPoll.ticks.map TimerTick.jobId = ["timer_1"] by decide] at listed
    exact List.mem_singleton.mp listed
  obtain ⟨after, found, fewer⟩ := accounts.unfailed tick member nofun dueJob (by rw [named]; rfl)
  rw [named] at found
  rw [found, Option.map_some, Option.some.injEq] at failures
  rw [failures] at fewer
  exact absurd fewer (by decide)

end FairyClaw
