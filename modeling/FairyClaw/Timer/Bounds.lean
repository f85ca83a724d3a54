import FairyClaw.Timer.Lifecycle

/-! # Run bounds of timer jobs

A single watchdog claims the due jobs and marks one result for every claim before it claims again
(`FairyClaw.timerWatchdog`). The limits that a result may reach are tested before the run is counted
and once more afterwards; both tests agree, so the second changes nothing
(`FairyClaw.TimerJob.updateAfterRun_eq`). Over whole runs the counters are those of the results of
the job, and they decide when and how it ends (`FairyClaw.timer_run_bounds`).
-/

namespace FairyClaw

open Foundation

/-- A marked result. -/
structure TimerResult where
  jobId : String
  success : Bool
  now : Int
  deriving DecidableEq, Repr

/-- The length of the run of failures at the end of a history. -/
def failureRun (history : List TimerResult) : Nat :=
  (history.reverse.takeWhile fun result => !result.success).length

/-- The store and the watchdog between two of its steps: the claimed jobs without a result, in the
order in which they are processed, with the record of all claims and results. -/
structure WatchdogState where
  store : TimerStore := {}
  waiting : List String := []
  claims : List String := []
  results : List TimerResult := []

/-- The steps of `timer_watchdog`, and the creation of jobs by the tools. -/
inductive WatchdogAction
  | create (request : TimerRequest) (parents : Option (String × Option String)) (id : String)
      (now offset : Int)
  | claim (now : Int)
  | result (success : Bool) (errorMessage : Option String) (now offset : Int)

namespace WatchdogState

/-- A step, or `none` where there is none. -/
def step (workerId : String) (state : WatchdogState) : WatchdogAction → Option WatchdogState
  | .create request parents id now offset =>
      (state.store.perform (.create request parents id now offset)).map fun store =>
        { state with store := store }
  | .claim now =>
      if state.waiting = [] then
        let (rows, store) := state.store.claimDueJobs workerId 20 now
        some { state with
          store := store
          waiting := rows.map TimerJob.id
          claims := state.claims ++ rows.map TimerJob.id }
      else none
  | .result success errorMessage now offset =>
      match state.waiting with
      | [] => none
      | jobId :: rest =>
          (state.store.markJobResult jobId success errorMessage now offset).map fun store =>
            { state with
              store := store
              waiting := rest
              results := state.results ++ [{ jobId := jobId, success := success, now := now }] }

/-- The results of one job. -/
def history (state : WatchdogState) (jobId : String) : List TimerResult :=
  state.results.filter fun result => result.jobId = jobId

end WatchdogState

/-- The timer watchdog with its store. -/
def timerWatchdog (workerId : String) : Machine WatchdogState WatchdogAction where
  initial := fun state => state.store.jobs = [] ∧ state.waiting = [] ∧ state.claims = [] ∧
    state.results = []
  step := WatchdogState.step workerId

/-- A success ends a run of failures, and a failure makes it longer. -/
theorem failureRun_append (history : List TimerResult) (result : TimerResult) :
    failureRun (history ++ [result]) = if result.success then 0 else failureRun history + 1 := by
  unfold failureRun
  rw [List.reverse_append, List.reverse_singleton, List.singleton_append]
  cases succeeded : result.success with
  | true => rw [List.takeWhile_cons_of_neg (by simp [succeeded])]; rfl
  | false => rw [List.takeWhile_cons_of_pos (by simp [succeeded])]; rfl

namespace TimerJob

variable {job : TimerJob} {success : Bool} {errorMessage error : Option String} {now offset : Int}
  {terminal : Option TimerJobStatus} {nextFireAt : Option Int}

/-- The result reaches a limit of the job, counted with the run. -/
def Reaches (job : TimerJob) (now : Int) : Prop :=
  (∃ limit, job.maxRuns = some limit ∧ limit ≤ (job.runCount : Int) + 1) ∨
    ∃ deadline, job.deadlineAt = some deadline ∧ deadline ≤ now

/-- A bound that is reached is there. -/
theorem any_le_iff {bound : Option Int} {value : Int} :
    bound.any (· ≤ value) = true ↔ ∃ limit, bound = some limit ∧ limit ≤ value := by
  cases bound <;> simp

/-- The three limits, with their precedence. -/
theorem terminalStatus_cases (job : TimerJob) (success : Bool) (now : Int) :
    (job.terminalStatus success now = some .failed ∧ success = false ∧ 2 ≤ job.failureCount) ∨
      (job.terminalStatus success now = some .completed ∧
        (success = true ∨ job.failureCount < 2) ∧ job.Reaches now) ∨
      (job.terminalStatus success now = none ∧
        (success = true ∨ job.failureCount < 2) ∧ ¬job.Reaches now) := by
  have reaches : job.Reaches now ↔ (job.maxRuns.any (· ≤ (job.runCount : Int) + 1) = true ∨
      job.deadlineAt.any (· ≤ now) = true) := by
    rw [Reaches, any_le_iff, any_le_iff]
  rw [reaches]
  have third : (!success && decide (3 ≤ job.failureCount + 1)) = true ↔
      success = false ∧ 2 ≤ job.failureCount := by
    rw [Bool.and_eq_true, Bool.not_eq_true', decide_eq_true_eq]
    exact and_congr_right fun _ => by omega
  unfold terminalStatus
  simp only
  by_cases failing : success = false ∧ 2 ≤ job.failureCount
  · rw [if_pos (third.mpr failing)]
    exact Or.inl ⟨rfl, failing⟩
  · rw [if_neg (mt third.mp failing)]
    have fine : success = true ∨ job.failureCount < 2 := by
      rw [not_and_or, Bool.not_eq_false, Nat.not_le] at failing
      exact failing
    refine Or.inr ?_
    by_cases runs : job.maxRuns.any (· ≤ (job.runCount : Int) + 1) = true
    · rw [if_pos runs]
      exact Or.inl ⟨rfl, fine, Or.inl runs⟩
    · rw [if_neg runs]
      by_cases late : job.deadlineAt.any (· ≤ now) = true
      · rw [if_pos late]
        exact Or.inl ⟨rfl, fine, Or.inr late⟩
      · rw [if_neg late]
        exact Or.inr ⟨rfl, fine, not_or.mpr ⟨runs, late⟩⟩

/-- The second test of the limits changes nothing after the decision of `mark_job_result`. -/
theorem updateAfterRun_eq
    (decided : job.decideRun success errorMessage now offset = some (terminal, nextFireAt, error)) :
    job.updateAfterRun now nextFireAt success terminal error =
      job.recordRun nextFireAt success terminal error := by
  rw [updateAfterRun, checkLimits]
  rcases decideRun_cases decided with ⟨status, _, rfl⟩ | ⟨_, _, rfl⟩ | ⟨unlimited, rfl, moment, rfl, _⟩
  · simp only [recordRun, Bool.and_false, Bool.false_eq_true, ↓reduceIte]
  · simp only [recordRun, Bool.and_false, Bool.false_eq_true, ↓reduceIte]
  · have free : ¬job.Reaches now := by
      rcases job.terminalStatus_cases success now with ⟨chosen, _⟩ | ⟨chosen, _⟩ | ⟨_, _, free⟩
      · rw [unlimited] at chosen
        cases chosen
      · rw [unlimited] at chosen
        cases chosen
      · exact free
    obtain ⟨runs, late⟩ := not_or.mp free
    rw [← any_le_iff] at runs late
    have counted : ((job.runCount + 1 : Nat) : Int) = (job.runCount : Int) + 1 := by omega
    simp only [recordRun, late, Bool.false_and, Bool.false_eq_true, ↓reduceIte, counted, runs]

/-- The counters after a run, and what a run leaves alone. -/
theorem recordRun_counts (job : TimerJob) (nextFireAt : Option Int) (success : Bool)
    (terminal : Option TimerJobStatus) (error : Option String) :
    let after := job.recordRun nextFireAt success terminal error
    after.runCount = job.runCount + 1 ∧
      after.failureCount = (if success then 0 else job.failureCount + 1) ∧
      after.maxRuns = job.maxRuns ∧ after.deadlineAt = job.deadlineAt ∧ after.mode = job.mode := by
  cases terminal <;> cases nextFireAt <;> exact ⟨rfl, rfl, rfl, rfl, rfl⟩

/-- A history that reaches a limit of the job: it has `max_runs` results, or the last one is at or
after the deadline. -/
def LimitReached (job : TimerJob) (history : List TimerResult) : Prop :=
  (∃ limit, job.maxRuns = some limit ∧ limit ≤ (history.length : Int)) ∨
    ∃ last ∈ history.getLast?, ∃ deadline, job.deadlineAt = some deadline ∧ deadline ≤ last.now

/-- No limit is reached, and fewer than three failures are in a row. -/
def GoesOn (job : TimerJob) (history : List TimerResult) : Prop :=
  failureRun history ≤ 2 ∧ ¬job.LimitReached history

/-- A job together with its claims and results: the counters are those of the results, the limits
were not reached before the last result, an active job goes on and is due later than its last
result, and a heartbeat job ends by its third consecutive failure or, with fewer, at a limit. -/
structure Accounted (job : TimerJob) (waits : Bool) (claims : Nat) (history : List TimerResult) :
    Prop where
  inOrder : job.InOrder
  runs : job.runCount = history.length
  failures : job.failureCount = failureRun history
  claimed : claims = history.length + waits.toNat
  waiting : waits = true → job.active = true
  maxRuns : ∀ limit, job.maxRuns = some limit → (history.length : Int) ≤ limit
  before : ∀ count < history.length, job.GoesOn (history.take count)
  goesOn : job.active = true → job.GoesOn history
  later : job.active = true → ∀ last ∈ history.getLast?, last.now < job.nextFireAt
  ended : job.active = false → job.mode = .heartbeat →
    (job.status = .failed ∧ failureRun history = 3) ∨
      (job.status = .completed ∧ failureRun history ≤ 2 ∧ job.LimitReached history)

/-- The limits are fixed when the job is made. -/
theorem GoesOn.congr {after : TimerJob} {history : List TimerResult} (goesOn : job.GoesOn history)
    (maxRuns : after.maxRuns = job.maxRuns) (deadlineAt : after.deadlineAt = job.deadlineAt) :
    after.GoesOn history := by
  rw [GoesOn, LimitReached, maxRuns, deadlineAt]
  exact goesOn

/-- The limits of the next result are those that `mark_job_result` tests. -/
theorem limitReached_append {history : List TimerResult} (runs : job.runCount = history.length)
    (jobId : String) (success : Bool) (now : Int) :
    job.LimitReached (history ++ [{ jobId := jobId, success := success, now := now }]) ↔
      job.Reaches now := by
  rw [LimitReached, Reaches, List.getLast?_concat, List.length_append, runs]
  simp only [List.length_singleton, Int.natCast_succ, Option.mem_some_iff, exists_eq_left']

/-- A new job has not been claimed. -/
theorem Fresh.accounted {id : String} (fresh : job.Fresh id) : job.Accounted false 0 [] where
  inOrder := iff_of_true fresh.active (Or.inl fresh.pending)
  runs := fresh.runCount
  failures := fresh.failureCount
  claimed := rfl
  waiting := nofun
  maxRuns := fun limit given => (fresh.maxRuns limit given).le
  before := nofun
  goesOn := by
    refine fun _ => ⟨Nat.zero_le _, ?_⟩
    rintro (⟨limit, given, reached⟩ | ⟨last, isLast, _⟩)
    · have positive := fresh.maxRuns limit given
      rw [List.length_nil] at reached
      omega
    · cases isLast
  later := nofun
  ended := by
    intro inactive
    rw [fresh.active] at inactive
    cases inactive

/-- A claim keeps the accounts of a job. -/
theorem Accounted.claim {claims : Nat} {history : List TimerResult}
    (account : job.Accounted false claims history) (workerId : String) (moment : Int)
    (due : job.Due moment) : (job.claim workerId moment).Accounted true (claims + 1) history where
  inOrder := account.inOrder.claim workerId moment
  runs := account.runs
  failures := account.failures
  claimed := by
    have claimed := account.claimed
    simp only [Bool.toNat_false, Bool.toNat_true] at claimed ⊢
    omega
  waiting := fun _ => due.1
  maxRuns := account.maxRuns
  before := account.before
  goesOn := account.goesOn
  later := account.later
  ended := by
    intro inactive
    have dead : job.active = false := inactive
    rw [due.1] at dead
    cases dead

/-- The result of a claimed job. -/
theorem Accounted.result {claims : Nat} {history : List TimerResult}
    (account : job.Accounted true claims history)
    (decided : job.decideRun success errorMessage now offset = some (terminal, nextFireAt, error)) :
    (job.updateAfterRun now nextFireAt success terminal error).Accounted false claims
      (history ++ [{ jobId := job.id, success := success, now := now }]) := by
  have live := account.waiting rfl
  have order := inOrder_updateAfterRun live decided
  obtain ⟨few, free⟩ := account.goesOn live
  rw [updateAfterRun_eq decided] at order ⊢
  obtain ⟨runs, failures, maxRuns, deadlineAt, mode⟩ :=
    job.recordRun_counts nextFireAt success terminal error
  have reaches := limitReached_append account.runs job.id success now
  have failing (fine : success = true ∨ job.failureCount < 2) :
      failureRun (history ++ [{ jobId := job.id, success := success, now := now }]) ≤ 2 := by
    rw [failureRun_append, ← account.failures]
    rcases fine with succeeded | fewer
    · rw [if_pos succeeded]
      omega
    · split <;> omega
  refine ⟨order, ?_, ?_, ?_, nofun, ?_, ?_, ?_, ?_, ?_⟩
  · rw [runs, account.runs, List.length_append]
    rfl
  · rw [failures, account.failures, failureRun_append]
  · rw [account.claimed, List.length_append]
    rfl
  · intro limit given
    rw [maxRuns] at given
    rw [List.length_append, List.length_singleton]
    by_contra exceeded
    exact free (Or.inl ⟨limit, given, by omega⟩)
  · intro count short
    rw [List.length_append, List.length_singleton] at short
    rw [List.take_append_of_le_length (by omega)]
    refine GoesOn.congr ?_ maxRuns deadlineAt
    rcases (Nat.lt_succ_iff.mp short).lt_or_eq with earlier | whole
    · exact account.before count earlier
    · rw [whole, List.take_length]
      exact ⟨few, free⟩
  · intro active
    refine GoesOn.congr ?_ maxRuns deadlineAt
    rw [GoesOn, reaches]
    rcases decideRun_cases decided with ⟨_, _, rfl⟩ | ⟨_, _, rfl⟩ | ⟨unlimited, rfl, _, rfl, _⟩
    · cases active
    · cases active
    · rcases job.terminalStatus_cases success now with ⟨chosen, _⟩ | ⟨chosen, _⟩ | ⟨_, fine, below⟩
      · rw [unlimited] at chosen
        cases chosen
      · rw [unlimited] at chosen
        cases chosen
      · exact ⟨failing fine, below⟩
  · intro active last isLast
    rw [List.getLast?_concat, Option.mem_some_iff] at isLast
    subst isLast
    rcases decideRun_cases decided with ⟨_, _, rfl⟩ | ⟨_, _, rfl⟩ | ⟨_, rfl, _, rfl, after⟩
    · cases active
    · cases active
    · exact after
  · intro inactive heartbeat
    rw [mode] at heartbeat
    rcases decideRun_cases decided with ⟨status, chosen, rfl⟩ | ⟨_, cron, _⟩ | ⟨_, rfl, _, rfl, _⟩
    · rcases job.terminalStatus_cases success now with
        ⟨failed, unsuccessful, third⟩ | ⟨completed, fine, reached⟩ | ⟨none_chosen, _⟩
      · rw [chosen] at failed
        cases failed
        refine Or.inl ⟨rfl, ?_⟩
        rw [failureRun_append, if_neg (by rw [unsuccessful]; exact Bool.false_ne_true)]
        have counted := account.failures
        omega
      · rw [chosen] at completed
        cases completed
        refine Or.inr ⟨rfl, failing fine, ?_⟩
        rw [LimitReached, maxRuns, deadlineAt]
        exact reaches.mpr reached
      · rw [chosen] at none_chosen
        cases none_chosen
    · rw [heartbeat] at cron
      cases cron
    · have dead : job.active = false := inactive
      rw [live] at dead
      cases dead

end TimerJob

/-- No job is due twice. -/
theorem TimerStore.nodup_dueJobs (store : TimerStore) (limit : Nat) (now : Int) :
    ((store.dueJobs limit now).map TimerJob.id).Nodup := by
  have selected : ((store.jobs.filter fun job => job.Due now).map TimerJob.id).Nodup :=
    store.unique.sublist (List.filter_sublist.map _)
  have sorted := (((store.jobs.filter fun job => job.Due now).perm_insertionSort
    fun first second => first.nextFireAt ≤ second.nextFireAt).map TimerJob.id).nodup_iff.mpr selected
  exact sorted.sublist ((List.take_sublist ..).map _)

namespace WatchdogState

variable {state next : WatchdogState} {workerId : String}

/-- Every job is accounted for, and only jobs of the store were claimed. -/
structure Valid (state : WatchdogState) : Prop where
  accounted : ∀ jobId job, state.store.get jobId = some job →
    job.Accounted (decide (jobId ∈ state.waiting)) (state.claims.count jobId) (state.history jobId)
  nodup : state.waiting.Nodup
  waitingKnown : ∀ jobId ∈ state.waiting, (state.store.get jobId).isSome
  claimsKnown : ∀ jobId ∈ state.claims, (state.store.get jobId).isSome
  resultsKnown : ∀ result ∈ state.results, (state.store.get result.jobId).isSome

/-- A job that is not in the store has no history. -/
theorem Valid.unknown (valid : state.Valid) {jobId : String}
    (missing : state.store.get jobId = none) :
    jobId ∉ state.waiting ∧ state.claims.count jobId = 0 ∧ state.history jobId = [] := by
  have absent : ¬(state.store.get jobId).isSome := by rw [missing]; exact Bool.false_ne_true
  refine ⟨fun member => absent (valid.waitingKnown jobId member), ?_, ?_⟩
  · exact List.count_eq_zero.mpr fun member => absent (valid.claimsKnown jobId member)
  · refine List.filter_eq_nil_iff.mpr fun result member own => ?_
    exact absent (of_decide_eq_true own ▸ valid.resultsKnown result member)

/-- Creating a job keeps the accounts. -/
theorem Valid.create (valid : state.Valid) {request : TimerRequest}
    {parents : Option (String × Option String)} {id : String} {now offset : Int} {store : TimerStore}
    (performed : state.store.perform (.create request parents id now offset) = some store) :
    { state with store := store }.Valid := by
  have known {jobId : String} (present : (state.store.get jobId).isSome) :
      (store.get jobId).isSome := by
    obtain ⟨job, stored⟩ := Option.isSome_iff_exists.mp present
    obtain ⟨after, kept, _⟩ := TimerStore.perform_get performed stored
    rw [kept]
    rfl
  refine ⟨?_, valid.nodup, fun jobId member => known (valid.waitingKnown jobId member),
    fun jobId member => known (valid.claimsKnown jobId member),
    fun result member => known (valid.resultsKnown result member)⟩
  intro jobId job stored
  cases before : state.store.get jobId with
  | none =>
      obtain ⟨_, _, _, _, _, created⟩ := TimerStore.perform_new performed before stored
      obtain ⟨unclaimed, uncounted, empty⟩ := valid.unknown before
      have fresh := (fresh_of_createJob created).accounted
      rw [← uncounted, ← empty, ← decide_eq_false unclaimed] at fresh
      exact fresh
  | some old =>
      obtain ⟨after, kept, touches⟩ := TimerStore.perform_get performed before
      cases kept.symm.trans stored
      cases touches with
      | untouched same => exact same ▸ valid.accounted jobId old before
      | claimed _ _ _ named => cases named
      | marked _ _ _ _ _ _ _ named => cases named
      | cancelled named => cases named

/-- Claiming jobs keeps the accounts. -/
theorem Valid.claim (valid : state.Valid) (idle : state.waiting = []) (workerId : String)
    (now : Int) :
    { state with
      store := (state.store.claimDueJobs workerId 20 now).2
      waiting := (state.store.claimDueJobs workerId 20 now).1.map TimerJob.id
      claims := state.claims ++
        (state.store.claimDueJobs workerId 20 now).1.map TimerJob.id }.Valid := by
  have rows : (state.store.claimDueJobs workerId 20 now).1.map TimerJob.id =
      (state.store.dueJobs 20 now).map TimerJob.id := by
    rw [TimerStore.claimDueJobs, List.map_map]
    rfl
  have distinct := state.store.nodup_dueJobs 20 now
  have get (jobId : String) : (state.store.claimDueJobs workerId 20 now).2.get jobId =
      (state.store.get jobId).map fun job =>
        if job.id ∈ (state.store.dueJobs 20 now).map TimerJob.id then job.claim workerId now
        else job := by
    rw [TimerStore.claimDueJobs, TimerStore.get_write]
  have known {jobId : String} (present : (state.store.get jobId).isSome) :
      ((state.store.claimDueJobs workerId 20 now).2.get jobId).isSome := by
    rw [get, Option.isSome_map]
    exact present
  have listed {jobId : String} (member : jobId ∈ (state.store.dueJobs 20 now).map TimerJob.id) :
      (state.store.get jobId).isSome := by
    obtain ⟨row, selected, rfl⟩ := List.mem_map.mp member
    rw [TimerStore.get_eq_some.mpr ⟨(TimerStore.due_of_mem_dueJobs selected).1, rfl⟩]
    rfl
  rw [rows]
  refine ⟨?_, distinct, fun jobId member => known (listed member), ?_,
    fun result member => known (valid.resultsKnown result member)⟩
  · intro jobId job stored
    rw [get] at stored
    obtain ⟨old, present, rfl⟩ := Option.map_eq_some_iff.mp stored
    obtain ⟨placed, rfl⟩ := TimerStore.get_eq_some.mp present
    have account := valid.accounted old.id old present
    rw [idle, decide_eq_false List.not_mem_nil] at account
    show TimerJob.Accounted _ (decide (old.id ∈ (state.store.dueJobs 20 now).map TimerJob.id))
      ((state.claims ++ (state.store.dueJobs 20 now).map TimerJob.id).count old.id)
      (state.history old.id)
    rw [List.count_append]
    by_cases selected : old.id ∈ (state.store.dueJobs 20 now).map TimerJob.id
    · obtain ⟨row, chosen, same⟩ := List.mem_map.mp selected
      obtain ⟨stored, due⟩ := TimerStore.due_of_mem_dueJobs chosen
      have row_eq := List.inj_on_of_nodup_map state.store.unique stored placed same
      rw [if_pos selected, decide_eq_true selected, List.count_eq_one_of_mem distinct selected]
      exact account.claim workerId now (row_eq ▸ due)
    · rw [if_neg selected, decide_eq_false selected, List.count_eq_zero.mpr selected]
      exact account
  · intro jobId member
    rcases List.mem_append.mp member with earlier | claimed
    · exact known (valid.claimsKnown jobId earlier)
    · exact known (listed claimed)

/-- The result of a job keeps the accounts. -/
theorem Valid.result (valid : state.Valid) {jobId : String} {rest : List String} {success : Bool}
    {errorMessage : Option String} {now offset : Int} {store : TimerStore}
    (waiting : state.waiting = jobId :: rest)
    (marked : state.store.markJobResult jobId success errorMessage now offset = some store) :
    { state with
      store := store
      waiting := rest
      results := state.results ++
        [({ jobId := jobId, success := success, now := now } : TimerResult)] }.Valid := by
  have distinct := valid.nodup
  rw [waiting, List.nodup_cons] at distinct
  obtain ⟨unrepeated, others⟩ := distinct
  have claimed : jobId ∈ state.waiting := by
    rw [waiting]
    exact List.mem_cons_self
  obtain ⟨job, stored⟩ := Option.isSome_iff_exists.mp (valid.waitingKnown jobId claimed)
  have own := (TimerStore.get_eq_some.mp stored).2
  rw [TimerStore.markJobResult, stored] at marked
  obtain ⟨⟨terminal, nextFireAt, error⟩, decided, rfl⟩ := Option.map_eq_some_iff.mp marked
  have known {other : String} (present : (state.store.get other).isSome) :
      ((state.store.writeJob jobId (TimerJob.updateAfterRun · now nextFireAt success terminal error)
        fun job => job.updateAfterRun_id now nextFireAt success terminal error).get other).isSome := by
    rw [TimerStore.get_writeJob]
    split
    · rw [Option.isSome_map]
      exact present
    · exact present
  refine ⟨?_, others, fun other member => known (valid.waitingKnown other ?_),
    fun other member => known (valid.claimsKnown other member), ?_⟩
  · intro other after found
    rw [TimerStore.get_writeJob] at found
    show TimerJob.Accounted _ (decide (other ∈ rest)) (state.claims.count other)
      ((state.results ++ [_]).filter _)
    rw [List.filter_append]
    by_cases same : other = jobId
    · subst same
      rw [if_pos rfl, stored] at found
      cases found
      have account := valid.accounted other job stored
      rw [decide_eq_true claimed] at account
      have counted := account.result decided
      rw [own] at counted
      rw [decide_eq_false unrepeated, List.filter_singleton, decide_eq_true rfl]
      exact counted
    · rw [if_neg same] at found
      have account := valid.accounted other after found
      rw [waiting] at account
      rw [List.filter_singleton, decide_eq_false (Ne.symm same), cond_false, List.append_nil]
      simp only [List.mem_cons, same, false_or] at account
      exact account
  · rw [waiting]
    exact List.mem_cons_of_mem _ member
  · intro result member
    rcases List.mem_append.mp member with earlier | last
    · exact known (valid.resultsKnown result earlier)
    · rw [List.mem_singleton.mp last]
      exact known (valid.waitingKnown jobId claimed)

/-- Every step keeps the accounts. -/
theorem Valid.step {action : WatchdogAction} (valid : state.Valid)
    (stepped : state.step workerId action = some next) : next.Valid := by
  cases action with
  | create request parents id now offset =>
      simp only [WatchdogState.step] at stepped
      obtain ⟨store, performed, rfl⟩ := Option.map_eq_some_iff.mp stepped
      exact valid.create performed
  | claim now =>
      simp only [WatchdogState.step] at stepped
      split at stepped
      · rename_i idle
        cases stepped
        exact valid.claim idle workerId now
      · cases stepped
  | result success errorMessage now offset =>
      simp only [WatchdogState.step] at stepped
      split at stepped
      · cases stepped
      · rename_i waiting
        obtain ⟨store, marked, rfl⟩ := Option.map_eq_some_iff.mp stepped
        exact valid.result waiting marked

/-- The accounts are kept in every run. -/
theorem valid_of_reachable (reached : (timerWatchdog workerId).Reachable Machine.anyStep state) :
    state.Valid := by
  apply reached.invariant
  · rintro start ⟨empty, idle, unclaimed, unmarked⟩
    refine ⟨?_, ?_, ?_, ?_, ?_⟩
    · intro jobId job stored
      rw [TimerStore.get, empty] at stored
      cases stored
    · rw [idle]
      exact List.nodup_nil
    · rw [idle]
      rintro _ ⟨⟩
    · rw [unclaimed]
      rintro _ ⟨⟩
    · rw [unmarked]
      rintro _ ⟨⟩
  · intro before action after valid _ stepped
    exact valid.step stepped

end WatchdogState

/-- **The run bounds of timer jobs.** Under a single watchdog, which marks one result for every
claim, an active job is below its limits, with at most two failures in a row and its next moment
after the last result; it is claimed at most `max_runs` times; the second test of the limits
changes nothing; and a heartbeat job ends failed exactly when a third consecutive failure is marked
while no earlier result reached a limit, and completed otherwise. -/
theorem timer_run_bounds {workerId : String} {state : WatchdogState}
    (reached : (timerWatchdog workerId).Reachable Machine.anyStep state) {job : TimerJob}
    (member : job ∈ state.store.jobs) :
    let history := state.history job.id
    (job.active = true →
      (∀ limit, job.maxRuns = some limit → (job.runCount : Int) < limit) ∧
        job.failureCount ≤ 2 ∧ job.failureCount = failureRun history ∧
          ∀ last ∈ history.getLast?, last.now < job.nextFireAt) ∧
      (∀ limit, job.maxRuns = some limit → (state.claims.count job.id : Int) ≤ limit) ∧
      (∀ success errorMessage now offset terminal nextFireAt error,
        job.decideRun success errorMessage now offset = some (terminal, nextFireAt, error) →
          job.updateAfterRun now nextFireAt success terminal error =
            job.recordRun nextFireAt success terminal error) ∧
      (job.mode = .heartbeat →
        (job.status = .failed ↔ ∃ count ≤ history.length, failureRun (history.take count) = 3 ∧
          ∀ earlier < count, ¬job.LimitReached (history.take earlier)) ∧
        (job.active = false → job.status ≠ .failed → job.status = .completed)) := by
  have account := (WatchdogState.valid_of_reachable reached).accounted job.id job
    (TimerStore.get_eq_some.mpr ⟨member, rfl⟩)
  have below (active : job.active = true) (limit : Int) (given : job.maxRuns = some limit) :
      (job.runCount : Int) < limit := by
    by_contra exceeded
    refine (account.goesOn active).2 (Or.inl ⟨limit, given, ?_⟩)
    rw [← account.runs]
    exact Int.not_lt.mp exceeded
  refine ⟨fun active => ⟨below active, ?_, account.failures, account.later active⟩, ?_,
    fun _ _ _ _ _ _ _ decided => TimerJob.updateAfterRun_eq decided, ?_⟩
  · rw [account.failures]
    exact (account.goesOn active).1
  · intro limit given
    have most := account.maxRuns limit given
    rw [account.claimed]
    cases waits : decide (job.id ∈ state.waiting) with
    | false => simpa using most
    | true =>
        have room := below (account.waiting waits) limit given
        rw [account.runs] at room
        simp only [Bool.toNat_true]
        omega
  · intro heartbeat
    constructor
    · constructor
      · intro failed
        refine ⟨_, le_rfl, ?_, fun earlier before => (account.before earlier before).2⟩
        rw [List.take_length]
        cases live : job.active with
        | true =>
            have running := account.inOrder.mp live
            rw [failed] at running
            rcases running with waiting | running
            · cases waiting
            · cases running
        | false =>
            rcases account.ended live heartbeat with ⟨_, third⟩ | ⟨completed, _⟩
            · exact third
            · rw [failed] at completed
              cases completed
      · rintro ⟨count, short, third, _⟩
        rcases short.lt_or_eq with earlier | rfl
        · have few := (account.before count earlier).1
          omega
        · rw [List.take_length] at third
          cases live : job.active with
          | true =>
              have few := (account.goesOn live).1
              omega
          | false =>
              rcases account.ended live heartbeat with ⟨failed, _⟩ | ⟨_, few, _⟩
              · exact failed
              · omega
    · intro inactive unfailed
      rcases account.ended inactive heartbeat with ⟨failed, _⟩ | ⟨completed, _⟩
      · exact absurd failed unfailed
      · exact completed

/-- A heartbeat job with two runs, claimed once and failed. -/
def failedRun : List WatchdogAction :=
  [.create { creatorSessionId := "s", mode := "heartbeat", intervalSeconds := some 5,
             maxRuns := some 2 } none "timer_1" 0 0,
    .claim 5000000, .result false none 6000000 0]

/-- The state after the job has failed. -/
def failedRunState : WatchdogState :=
  ((timerWatchdog "timer_watchdog").replay Machine.anyStep {} failedRun).getD {}

/-- The job that failed once is below its limits. -/
theorem timer_run_bounds_failedRun : ∃ job ∈ failedRunState.store.jobs,
    job.runCount = 1 ∧ job.failureCount ≤ 2 ∧ job.status ≠ .failed := by
  have start : (timerWatchdog "timer_watchdog").initial {} := ⟨rfl, rfl, rfl, rfl⟩
  have replayed : (timerWatchdog "timer_watchdog").replay Machine.anyStep {} failedRun =
      some failedRunState := rfl
  have reached := Machine.Reachable.of_replay start replayed
  have stored : failedRunState.store.get "timer_1" = some _ := rfl
  obtain ⟨member, _⟩ := TimerStore.get_eq_some.mp stored
  obtain ⟨active, _, _, _⟩ := timer_run_bounds reached member
  exact ⟨_, member, rfl, (active rfl).2.1, nofun⟩

end FairyClaw
