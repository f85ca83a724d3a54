import FairyClaw.Timer.TimerStore

/-! # Claims of timer jobs

A claim is a lease: `TimerJobRepository.claim_due_jobs` stores the moment of the claim and takes a
claimed job again only when that moment is `stale_claim_after_seconds` old. The moments of the claims
never go back, so a claimed job stays with a claim for that long, whatever other claims, results and
cancellations are recorded in between (`FairyClaw.timer_claim_exclusive`). A claim takes the earliest
of the claimable jobs, at least one whatever limit is given (`FairyClaw.claim_exceeds_limit`).
-/

namespace FairyClaw

open Foundation

namespace TimerJob

variable (job : TimerJob)

/-- The selection of `TimerJobRepository.claim_due_jobs`. -/
def Claimable (staleClaimAfterSeconds now : Int) : Prop :=
  job.active = true ∧ (job.status = .pending ∨ job.status = .running) ∧ job.nextFireAt ≤ now ∧
    ∀ moment, job.claimedAt = some moment →
      moment ≤ now - max 1 staleClaimAfterSeconds * secondMicros

instance (staleClaimAfterSeconds now : Int) : Decidable (job.Claimable staleClaimAfterSeconds now) :=
  inferInstanceAs (Decidable (_ ∧ _ ∧ _ ∧ _))

/-- The job carries a claim that is not older than a moment. -/
def ClaimedSince (moment : Int) : Prop := ∃ claimed, job.claimedAt = some claimed ∧ moment ≤ claimed

variable {job}

/-- A claim is a claim since every earlier moment. -/
theorem claimedSince_claim (workerId : String) {moment now : Int} (later : moment ≤ now) :
    (job.claim workerId now).ClaimedSince moment := ⟨now, rfl, later⟩

/-- A job is not claimable while its lease runs. -/
theorem ClaimedSince.not_claimable {moment staleClaimAfterSeconds now : Int}
    (claimed : job.ClaimedSince moment)
    (early : now < moment + staleClaimAfterSeconds * secondMicros) :
    ¬job.Claimable staleClaimAfterSeconds now := by
  rintro ⟨_, _, _, stale⟩
  obtain ⟨last, stored, later⟩ := claimed
  have expired := stale last stored
  have shortest : staleClaimAfterSeconds ≤ max 1 staleClaimAfterSeconds := le_max_right ..
  unfold secondMicros at early expired
  omega

end TimerJob

namespace TimerStore

variable (store : TimerStore)

/-- The rows that `TimerJobRepository.claim_due_jobs` selects: the claimable ones that fire first. -/
def claimableJobs (limit staleClaimAfterSeconds now : Int) : List TimerJob :=
  ((store.jobs.filter fun job => job.Claimable staleClaimAfterSeconds now).insertionSort
    fun first second => first.nextFireAt ≤ second.nextFireAt).take (max 1 limit).toNat

/-- `TimerJobRepository.claim_due_jobs`, with the claimed rows. -/
def claimJobs (workerId : String) (limit staleClaimAfterSeconds now : Int) :
    List TimerJob × TimerStore :=
  let rows := store.claimableJobs limit staleClaimAfterSeconds now
  (rows.map (TimerJob.claim · workerId now),
    store.write (fun job => if job.id ∈ rows.map TimerJob.id then job.claim workerId now else job)
      fun job => by
        split
        · exact job.claim_id workerId now
        · rfl)

/-- The claims of the timer store are those of the repository with its default. -/
theorem claimDueJobs_eq (workerId : String) (limit : Nat) (now : Int) :
    store.claimDueJobs workerId limit now = store.claimJobs workerId limit 120 now := by
  have bound : (max 1 (limit : Int)).toNat = max 1 limit := by omega
  have rows : store.claimableJobs limit 120 now = store.dueJobs limit now := by
    rw [claimableJobs, bound]
    rfl
  simp only [claimJobs, rows]
  rfl

end TimerStore

/-- The operations on the jobs, where every claim brings its own limit and lease. -/
inductive TimerClaimOp
  | create (request : TimerRequest) (parents : Option (String × Option String)) (id : String)
      (now offset : Int)
  | claimDueJobs (workerId : String) (limit staleClaimAfterSeconds now : Int)
  | markJobResult (jobId : String) (success : Bool) (errorMessage : Option String)
      (now offset : Int)
  | cancelJob (jobId : String)

/-- The rows, with the moment of the last claim. -/
structure TimerClaims where
  store : TimerStore := {}
  lastClaim : Option Int := none

namespace TimerClaims

/-- Claims are performed at moments that never go back. -/
def step (state : TimerClaims) : TimerClaimOp → Option TimerClaims
  | .create request parents id now offset =>
      (state.store.perform (.create request parents id now offset)).map ({ state with store := · })
  | .claimDueJobs workerId limit staleClaimAfterSeconds now =>
      if state.lastClaim.all (· ≤ now) then
        some { store := (state.store.claimJobs workerId limit staleClaimAfterSeconds now).2
               lastClaim := some now }
      else none
  | .markJobResult jobId success errorMessage now offset =>
      (state.store.markJobResult jobId success errorMessage now offset).map
        ({ state with store := · })
  | .cancelJob jobId => some { state with store := state.store.cancelJob jobId }

end TimerClaims

/-- The table of jobs under any sequence of operations. -/
def timerClaims : Machine TimerClaims TimerClaimOp where
  initial := fun state => state.store.jobs = [] ∧ state.lastClaim = none
  step := TimerClaims.step

/-- Neither a result nor a cancellation of the job is recorded. -/
def Unsettled (jobId : String) (_ : TimerClaims) : TimerClaimOp → Prop
  | .markJobResult marked _ _ _ _ => marked ≠ jobId
  | .cancelJob cancelled => cancelled ≠ jobId
  | .create .. | .claimDueJobs .. => True

namespace TimerStore

variable {store next : TimerStore} {op : TimerOp} {job after : TimerJob} {jobId workerId : String}
  {limit staleClaimAfterSeconds now : Int}

/-- A claim touches the claimable jobs alone. -/
theorem get_claimJobs (stored : store.get jobId = some job) :
    (store.claimJobs workerId limit staleClaimAfterSeconds now).2.get jobId =
      some (if job.id ∈ (store.claimableJobs limit staleClaimAfterSeconds now).map TimerJob.id then
        job.claim workerId now else job) := by
  rw [claimJobs, get_write, stored]
  rfl

/-- The rows that a claim returns are the claimable ones. -/
theorem claimed_ids :
    (store.claimJobs workerId limit staleClaimAfterSeconds now).1.map TimerJob.id =
      (store.claimableJobs limit staleClaimAfterSeconds now).map TimerJob.id := by
  rw [claimJobs, List.map_map]
  rfl

/-- The claimable jobs are stored, and can be claimed. -/
theorem claimable_of_mem (member : job ∈ store.claimableJobs limit staleClaimAfterSeconds now) :
    job ∈ store.jobs ∧ job.Claimable staleClaimAfterSeconds now := by
  have sorted := List.mem_of_mem_take member
  rw [List.mem_insertionSort, List.mem_filter, decide_eq_true_eq] at sorted
  exact sorted

/-- No job is claimable twice. -/
theorem nodup_claimableJobs (store : TimerStore) (limit staleClaimAfterSeconds now : Int) :
    ((store.claimableJobs limit staleClaimAfterSeconds now).map TimerJob.id).Nodup := by
  have selected := store.unique.sublist
    ((List.filter_sublist (p := fun job => job.Claimable staleClaimAfterSeconds now)).map _)
  have sorted := (((store.jobs.filter fun job =>
    job.Claimable staleClaimAfterSeconds now).perm_insertionSort
      fun first second => first.nextFireAt ≤ second.nextFireAt).map TimerJob.id).nodup_iff.mpr selected
  exact sorted.sublist ((List.take_sublist ..).map _)

/-- A claimable job that is left out fires no earlier than the selected ones, which fill the
limit. -/
theorem left_out (stored : job ∈ store.jobs) (claimable : job.Claimable staleClaimAfterSeconds now)
    (left : job ∉ store.claimableJobs limit staleClaimAfterSeconds now) :
    ((store.claimableJobs limit staleClaimAfterSeconds now).length : Int) = max 1 limit ∧
      ∀ row ∈ store.claimableJobs limit staleClaimAfterSeconds now,
        row.nextFireAt ≤ job.nextFireAt := by
  let earlier := fun first second : TimerJob => first.nextFireAt ≤ second.nextFireAt
  have : Std.Total earlier := ⟨fun first second => Int.le_total ..⟩
  have : IsTrans TimerJob earlier := ⟨fun _ _ _ => Int.le_trans⟩
  let sorted := (store.jobs.filter fun job =>
    job.Claimable staleClaimAfterSeconds now).insertionSort earlier
  have split : sorted.take (max 1 limit).toNat ++ sorted.drop (max 1 limit).toNat = sorted :=
    List.take_append_drop ..
  have listed : job ∈ sorted := by
    rw [List.mem_insertionSort, List.mem_filter, decide_eq_true_eq]
    exact ⟨stored, claimable⟩
  have dropped : job ∈ sorted.drop (max 1 limit).toNat := by
    rw [← split] at listed
    exact (List.mem_append.mp listed).resolve_left left
  have ordered : sorted.Pairwise earlier := List.pairwise_insertionSort ..
  constructor
  · have longer := List.length_pos_of_mem dropped
    rw [List.length_drop] at longer
    show ((sorted.take (max 1 limit).toNat).length : Int) = max 1 limit
    rw [List.length_take]
    omega
  · intro row selected
    rw [← split] at ordered
    exact (List.pairwise_append.mp ordered).2.2 row selected job dropped

/-- An operation that is no claim and records nothing of a job leaves its row. -/
theorem Touches.unsettled (touches : Touches op job after)
    (unclaimed : ∀ workerId limit now, op ≠ .claimDueJobs workerId limit now)
    (unmarked : ∀ success errorMessage now offset,
      op ≠ .markJobResult job.id success errorMessage now offset)
    (uncancelled : op ≠ .cancelJob job.id) : after = job := by
  cases touches with
  | untouched same => exact same
  | claimed _ _ _ named => exact absurd named (unclaimed _ _ _)
  | marked _ _ _ _ _ _ _ named => exact absurd named (unmarked _ _ _ _)
  | cancelled named => exact absurd named uncancelled

end TimerStore

namespace TimerClaims

variable {state next : TimerClaims} {op : TimerClaimOp} {jobId : String} {moment : Int}

/-- A job is in the store with a claim since a moment, and so are the later claims. -/
def Leased (state : TimerClaims) (jobId : String) (moment : Int) : Prop :=
  (∃ job, state.store.get jobId = some job ∧ job.ClaimedSince moment) ∧
    ∃ last, state.lastClaim = some last ∧ moment ≤ last

/-- A lease goes on until the result or the cancellation of the job. -/
theorem Leased.step (leased : state.Leased jobId moment) (unsettled : Unsettled jobId state op)
    (stepped : state.step op = some next) : next.Leased jobId moment := by
  obtain ⟨⟨job, stored, claimed⟩, last, known, later⟩ := leased
  have own := (TimerStore.get_eq_some.mp stored).2
  cases op with
  | create request parents id now offset =>
      simp only [TimerClaims.step] at stepped
      obtain ⟨store, performed, rfl⟩ := Option.map_eq_some_iff.mp stepped
      obtain ⟨after, kept, touches⟩ := TimerStore.perform_get performed stored
      cases touches.unsettled nofun nofun nofun
      exact ⟨⟨job, kept, claimed⟩, last, known, later⟩
  | claimDueJobs workerId limit staleClaimAfterSeconds now =>
      simp only [TimerClaims.step, known, Option.all_some, decide_eq_true_eq] at stepped
      split at stepped
      · rename_i forward
        cases stepped
        refine ⟨⟨_, TimerStore.get_claimJobs stored, ?_⟩, now, rfl, Int.le_trans later forward⟩
        split
        · exact TimerJob.claimedSince_claim workerId (Int.le_trans later forward)
        · exact claimed
      · cases stepped
  | markJobResult marked success errorMessage now offset =>
      simp only [TimerClaims.step] at stepped
      obtain ⟨store, performed, rfl⟩ := Option.map_eq_some_iff.mp stepped
      have recorded : state.store.perform (.markJobResult marked success errorMessage now offset) =
        some store := performed
      obtain ⟨after, kept, touches⟩ := TimerStore.perform_get recorded stored
      have other : marked ≠ job.id := own ▸ unsettled
      cases touches.unsettled nofun (fun _ _ _ _ same => other (by cases same; rfl)) nofun
      exact ⟨⟨job, kept, claimed⟩, last, known, later⟩
  | cancelJob cancelled =>
      cases stepped
      have recorded : state.store.perform (.cancelJob cancelled) =
        some (state.store.cancelJob cancelled) := rfl
      obtain ⟨after, kept, touches⟩ := TimerStore.perform_get recorded stored
      have other : cancelled ≠ job.id := own ▸ unsettled
      cases touches.unsettled nofun nofun (fun same => other (by cases same; rfl))
      exact ⟨⟨job, kept, claimed⟩, last, known, later⟩

/-- A claimed job is leased from the moment of the claim on. -/
theorem leased_of_claim {workerId : String} {limit staleClaimAfterSeconds now : Int}
    (claimed : jobId ∈ (state.store.claimJobs workerId limit staleClaimAfterSeconds now).1.map
      TimerJob.id)
    (stepped : state.step (.claimDueJobs workerId limit staleClaimAfterSeconds now) = some next) :
    next.Leased jobId now := by
  rw [TimerStore.claimed_ids] at claimed
  obtain ⟨job, selected, rfl⟩ := List.mem_map.mp claimed
  have stored := TimerStore.get_eq_some.mpr ⟨(TimerStore.claimable_of_mem selected).1, rfl⟩
  simp only [TimerClaims.step] at stepped
  split at stepped
  · cases stepped
    refine ⟨⟨_, TimerStore.get_claimJobs stored, ?_⟩, now, rfl, Int.le_refl _⟩
    rw [if_pos claimed]
    exact TimerJob.claimedSince_claim workerId (Int.le_refl _)
  · cases stepped

/-- No claim returns a job before its lease is over. -/
theorem Leased.not_claimed (leased : state.Leased jobId moment) {workerId : String}
    {limit staleClaimAfterSeconds now : Int}
    (early : now < moment + staleClaimAfterSeconds * secondMicros) :
    jobId ∉ (state.store.claimJobs workerId limit staleClaimAfterSeconds now).1.map TimerJob.id := by
  obtain ⟨⟨job, stored, claimed⟩, _⟩ := leased
  rw [TimerStore.claimed_ids]
  rintro again
  obtain ⟨row, selected, same⟩ := List.mem_map.mp again
  obtain ⟨present, claimable⟩ := TimerStore.claimable_of_mem selected
  have row_eq : row = job := by
    have found := TimerStore.get_eq_some.mpr ⟨present, same⟩
    exact Option.some.inj (found.symm.trans stored)
  exact claimed.not_claimable early (row_eq ▸ claimable)

end TimerClaims

/-- **Claim exclusivity.** A claim returns at most the limit of jobs, and one where the limit is not
positive. They are different, active and due, and earlier than every other claimable job. Until the
result or the cancellation of a returned job is recorded, no claim returns it before it is
`stale_claim_after_seconds` old, whatever happens in between. -/
theorem timer_claim_exclusive (state : TimerClaims) (workerId : String)
    (limit staleClaimAfterSeconds now : Int) :
    let rows := (state.store.claimJobs workerId limit staleClaimAfterSeconds now).1
    (rows.length : Int) ≤ max 1 limit ∧ (rows.map TimerJob.id).Nodup ∧
      (∀ row ∈ rows, row.active = true ∧ row.nextFireAt ≤ now ∧
        ∃ job ∈ state.store.jobs, job.Claimable staleClaimAfterSeconds now ∧
          row = job.claim workerId now) ∧
      (∀ job ∈ state.store.jobs, job.Claimable staleClaimAfterSeconds now →
        job.id ∉ rows.map TimerJob.id →
          (rows.length : Int) = max 1 limit ∧ ∀ row ∈ rows, row.nextFireAt ≤ job.nextFireAt) ∧
      ∀ row ∈ rows, ∀ claimed later,
        timerClaims.step state (.claimDueJobs workerId limit staleClaimAfterSeconds now) =
          some claimed →
        timerClaims.Steps (Unsettled row.id) claimed later →
        ∀ other limit staleClaimAfterSeconds again,
          again < now + staleClaimAfterSeconds * secondMicros →
          row.id ∉ (later.store.claimJobs other limit staleClaimAfterSeconds again).1.map
            TimerJob.id := by
  intro rows
  have ids : rows.map TimerJob.id =
      (state.store.claimableJobs limit staleClaimAfterSeconds now).map TimerJob.id :=
    TimerStore.claimed_ids
  have length : rows.length =
      (state.store.claimableJobs limit staleClaimAfterSeconds now).length := by
    simpa only [List.length_map] using congrArg List.length ids
  have origin (row : TimerJob) (member : row ∈ rows) :
      ∃ job ∈ state.store.claimableJobs limit staleClaimAfterSeconds now,
        row = job.claim workerId now := by
    obtain ⟨job, selected, rfl⟩ := List.mem_map.mp member
    exact ⟨job, selected, rfl⟩
  refine ⟨?_, ?_, ?_, ?_, ?_⟩
  · rw [length, TimerStore.claimableJobs, List.length_take]
    omega
  · rw [ids]
    exact state.store.nodup_claimableJobs limit staleClaimAfterSeconds now
  · intro row member
    obtain ⟨job, selected, rfl⟩ := origin row member
    obtain ⟨stored, claimable⟩ := TimerStore.claimable_of_mem selected
    exact ⟨claimable.1, claimable.2.2.1, job, stored, claimable, rfl⟩
  · intro job stored claimable left
    rw [ids] at left
    obtain ⟨full, earliest⟩ := TimerStore.left_out stored claimable
      fun selected => left (List.mem_map_of_mem selected)
    refine ⟨by rw [length, full], ?_⟩
    intro row member
    obtain ⟨first, selected, rfl⟩ := origin row member
    exact earliest first selected
  · intro row member claimed later stepped steps other limit staleClaimAfterSeconds again early
    have leased := TimerClaims.leased_of_claim (List.mem_map_of_mem member) stepped
    have still : later.Leased row.id now := by
      apply steps.invariant _ leased
      intro before op after held unsettled moved
      exact held.step unsettled moved
    exact still.not_claimed early

/-- The creation of a heartbeat job. -/
def leaseRun : List TimerClaimOp :=
  [.create { creatorSessionId := "s", mode := "heartbeat", intervalSeconds := some 5 } none "timer_1"
      0 0]

/-- The state in which the job is created. -/
def dueState : TimerClaims := (timerClaims.replay Machine.anyStep {} leaseRun).getD {}

/-- Another worker does not get the job a minute after the claim. -/
theorem timer_claim_exclusive_leaseRun :
    (dueState.store.claimJobs "first" 20 120 5000000).1.map TimerJob.id = ["timer_1"] ∧
      "timer_1" ∉ (((dueState.step (.claimDueJobs "first" 20 120 5000000)).getD {}).store.claimJobs
        "second" 20 120 65000000).1.map TimerJob.id := by
  have selected : (dueState.store.claimJobs "first" 20 120 5000000).1.map TimerJob.id =
      ["timer_1"] := rfl
  obtain ⟨row, member, named⟩ := List.mem_map.mp (selected ▸ List.mem_singleton.mpr rfl :
    "timer_1" ∈ (dueState.store.claimJobs "first" 20 120 5000000).1.map TimerJob.id)
  refine ⟨selected, ?_⟩
  have exclusive := (timer_claim_exclusive dueState "first" 20 120 5000000).2.2.2.2 row member _ _ rfl
    (.refl _) "second" 20 120 65000000 (by decide)
  rw [named] at exclusive
  exact exclusive

/-- A claim with the limit zero returns a job. -/
theorem claim_exceeds_limit :
    timerClaims.Reachable Machine.anyStep dueState ∧
      (dueState.store.claimJobs "timer_watchdog" 0 120 5000000).1.length = 1 := by
  have start : timerClaims.initial {} := ⟨rfl, rfl⟩
  have replayed : timerClaims.replay Machine.anyStep {} leaseRun = some dueState := rfl
  exact ⟨.of_replay start replayed, rfl⟩

end FairyClaw
