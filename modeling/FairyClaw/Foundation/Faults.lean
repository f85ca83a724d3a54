import FairyClaw.Foundation.Fallible
import Mathlib.Data.List.Basic

/-! # Attempts that may fail

A computation makes attempts at named sites, and a schedule says which of them raise
(`Foundation.Fallible.attempt`). A steady computation runs under a schedule as it does when nothing
fails, as long as none of the attempts it then makes is scheduled to raise
(`Foundation.Fallible.Steady`). How much a computation gains on a measure of the state when nothing
fails (`Foundation.Fallible.Gains`) tells how much is missing when an attempt raises
(`Foundation.Fallible.Stops`). All of this is kept by the ways in which computations are put
together.
-/

namespace Foundation

/-- A state with the sites attempted so far. -/
structure Attempts (Site State : Type) where
  state : State
  attempted : List Site := []

/-- The exceptions that attempts raise. -/
abbrev Faults (Site Error : Type) := Site → Option Error

namespace Fallible

variable {Site Error State Value Result : Type}

/-- The schedule under which nothing fails. -/
def calm : Faults Site Error := fun _ => none

/-- Change the state that is not the record of attempts. -/
def update (change : State → State) : Fallible Error (Attempts Site State) PUnit :=
  modify fun start => { start with state := change start.state }

/-- The state that is not the record of attempts. -/
def current : Fallible Error (Attempts Site State) State := do return (← get).state

/-- An attempt. -/
def attempt (faults : Faults Site Error) (site : Site) :
    Fallible Error (Attempts Site State) PUnit := do
  modify fun start => { start with attempted := start.attempted ++ [site] }
  match faults site with
  | none => pure ()
  | some error => throw error

/-- Handle the exception of a computation. -/
def recover (action : Fallible Error State Value) (handler : Error → Fallible Error State Value) :
    Fallible Error State Value :=
  tryCatch action handler

/-- An update changes the state and attempts nothing. -/
@[simp] theorem exec_update (change : State → State) (start : Attempts Site State) :
    exec (update change : Fallible Error (Attempts Site State) PUnit) start =
      (.ok ⟨⟩, { start with state := change start.state }) := rfl

/-- Reading the state attempts nothing. -/
@[simp] theorem exec_current (start : Attempts Site State) :
    exec (current : Fallible Error (Attempts Site State) State) start =
      (.ok start.state, start) := rfl

/-- An attempt is noted, and raises the error of its site if there is one. -/
theorem exec_attempt (faults : Faults Site Error) (site : Site) (start : Attempts Site State) :
    exec (attempt faults site) start =
      (match faults site with
        | none => .ok ⟨⟩
        | some error => .error error,
      { start with attempted := start.attempted ++ [site] }) := by
  rw [attempt, exec_bind, exec_modify]
  cases faults site <;> rfl

/-- The handler runs only after an error, in the state that was reached. -/
theorem exec_recover (action : Fallible Error State Value)
    (handler : Error → Fallible Error State Value) (start : State) :
    exec (recover action handler) start =
      match exec action start with
      | (.ok value, after) => (.ok value, after)
      | (.error error, after) => exec (handler error) after := by
  have caught : exec (recover action handler) start =
      StateT.run (ExceptT.run action >>= fun outcome =>
        match outcome with
        | .ok value => pure (.ok value)
        | .error error => ExceptT.run (handler error)) start := rfl
  rw [caught, StateT.run_bind]
  unfold exec
  cases StateT.run (ExceptT.run action) start with
  | mk outcome after => cases outcome <;> rfl

/-- A computation that runs under a schedule as it does when nothing fails, unless an attempt it
then makes is scheduled to raise. -/
structure Steady (action : Faults Site Error → Fallible Error (Attempts Site State) Value) :
    Prop where
  grows : ∀ faults start, start.attempted ⊆ (exec (action faults) start).2.attempted
  same : ∀ faults start, (∀ site ∈ (exec (action calm) start).2.attempted, faults site = none) →
    exec (action faults) start = exec (action calm) start

/-- A value does not depend on the faults. -/
theorem steady_pure (value : Value) :
    Steady fun _ : Faults Site Error =>
      (pure value : Fallible Error (Attempts Site State) Value) where
  grows := fun _ _ => List.Subset.refl _
  same := fun _ _ _ => rfl

/-- An error that is raised in any case does not depend on the faults. -/
theorem steady_throw (error : Error) :
    Steady fun _ : Faults Site Error =>
      (throw error : Fallible Error (Attempts Site State) Value) where
  grows := fun _ _ => List.Subset.refl _
  same := fun _ _ _ => rfl

/-- A result that is known does not depend on the faults. -/
theorem steady_ofExcept (result : Except Error Value) :
    Steady fun _ : Faults Site Error =>
      (ofExcept result : Fallible Error (Attempts Site State) Value) := by
  cases result with
  | ok value => exact steady_pure value
  | error error => exact steady_throw error

/-- An update does not depend on the faults. -/
theorem steady_update (change : State → State) :
    Steady fun _ : Faults Site Error =>
      (update change : Fallible Error (Attempts Site State) PUnit) where
  grows := fun _ _ => List.Subset.refl _
  same := fun _ _ _ => rfl

/-- Reading the state does not depend on the faults. -/
theorem steady_current :
    Steady fun _ : Faults Site Error =>
      (current : Fallible Error (Attempts Site State) State) where
  grows := fun _ _ => List.Subset.refl _
  same := fun _ _ _ => rfl

/-- An attempt depends on the fault of its own site only. -/
theorem steady_attempt (site : Site) :
    Steady fun faults : Faults Site Error =>
      (attempt faults site : Fallible Error (Attempts Site State) PUnit) where
  grows := by
    intro faults start
    rw [exec_attempt]
    exact List.subset_append_left _ _
  same := by
    intro faults start fine
    simp only [exec_attempt] at fine ⊢
    rw [fine site (List.mem_append_right _ (List.mem_singleton_self site)), calm]

/-- A chain depends on the sites that its parts attempt. -/
theorem Steady.bind {action : Faults Site Error → Fallible Error (Attempts Site State) Value}
    {next : Faults Site Error → Value → Fallible Error (Attempts Site State) Result}
    (first : Steady action) (second : ∀ value, Steady fun faults => next faults value) :
    Steady fun faults => action faults >>= next faults where
  grows := by
    intro faults start
    have before := first.grows faults start
    rw [exec_bind]
    cases done : exec (action faults) start with
    | mk outcome after =>
        rw [done] at before
        cases outcome with
        | ok value => exact List.Subset.trans before ((second value).grows faults after)
        | error => exact before
  same := by
    intro faults start fine
    rw [exec_bind] at fine
    have same := first.same faults start
    rw [exec_bind, exec_bind]
    cases done : exec (action calm) start with
    | mk outcome after =>
        rw [done] at fine same
        cases outcome with
        | ok value =>
            have inside := (second value).grows calm after
            rw [same fun site member => fine site (inside member)]
            exact (second value).same faults after fine
        | error => rw [same fine]

/-- Recovery depends on the sites that the action and the handler attempt. -/
theorem Steady.recover {action : Faults Site Error → Fallible Error (Attempts Site State) Value}
    {handler : Faults Site Error → Error → Fallible Error (Attempts Site State) Value}
    (first : Steady action) (second : ∀ error, Steady fun faults => handler faults error) :
    Steady fun faults => recover (action faults) (handler faults) where
  grows := by
    intro faults start
    have before := first.grows faults start
    rw [exec_recover]
    cases done : exec (action faults) start with
    | mk outcome after =>
        rw [done] at before
        cases outcome with
        | ok value => exact before
        | error error => exact List.Subset.trans before ((second error).grows faults after)
  same := by
    intro faults start fine
    rw [exec_recover] at fine
    have same := first.same faults start
    rw [exec_recover, exec_recover]
    cases done : exec (action calm) start with
    | mk outcome after =>
        rw [done] at fine same
        cases outcome with
        | ok value => rw [same fine]
        | error error =>
            have inside := (second error).grows calm after
            rw [same fun site member => fine site (inside member)]
            exact (second error).same faults after fine

/-- A choice depends on the sites that its branches attempt. -/
theorem Steady.ite {condition : Prop} [Decidable condition]
    {first second : Faults Site Error → Fallible Error (Attempts Site State) Value}
    (yes : Steady first) (no : Steady second) :
    Steady fun faults => if condition then first faults else second faults := by
  split
  · exact yes
  · exact no

/-! ## The sites of attempts -/

/-- The sites attempted remain allowed ones. -/
def Stays (allowed : Site → Prop) (action : Fallible Error (Attempts Site State) Value) : Prop :=
  ∀ start, (∀ site ∈ start.attempted, allowed site) →
    ∀ site ∈ (exec action start).2.attempted, allowed site

variable {allowed : Site → Prop}

/-- A value attempts no site. -/
theorem stays_pure (value : Value) :
    Stays allowed (pure value : Fallible Error (Attempts Site State) Value) :=
  fun _ within => within

/-- Raising attempts no site. -/
theorem stays_throw (error : Error) :
    Stays allowed (throw error : Fallible Error (Attempts Site State) Value) :=
  fun _ within => within

/-- A result that is known attempts no site. -/
theorem stays_ofExcept (result : Except Error Value) :
    Stays allowed (ofExcept result : Fallible Error (Attempts Site State) Value) := by
  cases result with
  | ok value => exact stays_pure value
  | error error => exact stays_throw error

/-- An update attempts no site. -/
theorem stays_update (change : State → State) :
    Stays allowed (update change : Fallible Error (Attempts Site State) PUnit) :=
  fun _ within => within

/-- Reading the state attempts no site. -/
theorem stays_current :
    Stays allowed (current : Fallible Error (Attempts Site State) State) :=
  fun _ within => within

/-- Attempting an allowed site stays among the allowed sites. -/
theorem stays_attempt (faults : Faults Site Error) {site : Site} (here : allowed site) :
    Stays allowed (attempt faults site : Fallible Error (Attempts Site State) PUnit) := by
  intro start within other member
  rw [exec_attempt] at member
  rcases List.mem_append.mp member with earlier | last
  · exact within other earlier
  · exact List.mem_singleton.mp last ▸ here

/-- A chain attempts the sites of its parts. -/
theorem Stays.bind {action : Fallible Error (Attempts Site State) Value}
    {next : Value → Fallible Error (Attempts Site State) Result} (first : Stays allowed action)
    (second : ∀ value, Stays allowed (next value)) : Stays allowed (action >>= next) := by
  intro start within
  have between := first start within
  rw [exec_bind]
  cases done : exec action start with
  | mk outcome after =>
      rw [done] at between
      cases outcome with
      | ok value => exact second value after between
      | error => exact between

/-- Recovery attempts the sites of the action and of the handler. -/
theorem Stays.recover {action : Fallible Error (Attempts Site State) Value}
    {handler : Error → Fallible Error (Attempts Site State) Value} (first : Stays allowed action)
    (second : ∀ error, Stays allowed (handler error)) :
    Stays allowed (recover action handler) := by
  intro start within
  have between := first start within
  rw [exec_recover]
  cases done : exec action start with
  | mk outcome after =>
      rw [done] at between
      cases outcome with
      | ok value => exact between
      | error error => exact second error after between

/-- A choice attempts the sites of its branches. -/
theorem Stays.ite {condition : Prop} [Decidable condition]
    {first second : Fallible Error (Attempts Site State) Value} (yes : Stays allowed first)
    (no : Stays allowed second) : Stays allowed (if condition then first else second) := by
  split
  · exact yes
  · exact no

/-! ## What a raised attempt leaves out -/

variable {measure : State → Nat}

/-- The computation returns, and the measure has grown by at least so much. -/
def Gains (measure : State → Nat) (least : Nat)
    (action : Fallible Error (Attempts Site State) Value) : Prop :=
  ∀ start, ∃ value after, exec action start = (.ok value, after) ∧
    measure start.state + least ≤ measure after.state

/-- A value gains nothing. -/
theorem gains_pure (value : Value) :
    Gains measure 0 (pure value : Fallible Error (Attempts Site State) Value) :=
  fun start => ⟨value, start, rfl, Nat.le_refl _⟩

/-- An update gains what it adds in each state. -/
theorem gains_update {change : State → State} {least : Nat}
    (grows : ∀ state, measure state + least ≤ measure (change state)) :
    Gains measure least (update change : Fallible Error (Attempts Site State) PUnit) :=
  fun start => ⟨_, _, rfl, grows start.state⟩

/-- Reading the state gains nothing. -/
theorem gains_current :
    Gains measure 0 (current : Fallible Error (Attempts Site State) State) :=
  fun start => ⟨start.state, start, rfl, Nat.le_refl _⟩

/-- An attempt gains nothing. -/
theorem gains_attempt (site : Site) :
    Gains measure 0 (attempt calm site : Fallible Error (Attempts Site State) PUnit) :=
  fun start => ⟨_, _, exec_attempt calm site start, Nat.le_refl _⟩

/-- The gains of a chain add up. -/
theorem Gains.add {action : Fallible Error (Attempts Site State) Value}
    {next : Value → Fallible Error (Attempts Site State) Result} {least more : Nat}
    (first : Gains measure least action) (second : ∀ value, Gains measure more (next value)) :
    Gains measure (least + more) (action >>= next) := by
  intro start
  obtain ⟨value, between, done, grown⟩ := first start
  obtain ⟨result, after, finished, further⟩ := second value between
  refine ⟨result, after, (exec_bind_ok done next).trans finished, ?_⟩
  omega

/-- What the second part gains, the chain gains. -/
theorem Gains.bind {action : Fallible Error (Attempts Site State) Value}
    {next : Value → Fallible Error (Attempts Site State) Result} {least : Nat}
    (first : Gains measure 0 action) (second : ∀ value, Gains measure least (next value)) :
    Gains measure least (action >>= next) :=
  Nat.zero_add least ▸ first.add second

/-- What the first part gains, the chain gains. -/
theorem Gains.follow {action : Fallible Error (Attempts Site State) Value}
    {next : Value → Fallible Error (Attempts Site State) Result} {least : Nat}
    (first : Gains measure least action) (second : ∀ value, Gains measure 0 (next value)) :
    Gains measure least (action >>= next) :=
  first.add second

/-- What gains much gains less as well. -/
theorem Gains.mono {action : Fallible Error (Attempts Site State) Value} {least fewer : Nat}
    (gains : Gains measure least action) (weaker : fewer ≤ least) : Gains measure fewer action := by
  intro start
  obtain ⟨value, after, done, grown⟩ := gains start
  exact ⟨value, after, done, by omega⟩

/-- A choice gains what both of its branches gain. -/
theorem Gains.ite {condition : Prop} [Decidable condition] {least : Nat}
    {first second : Fallible Error (Attempts Site State) Value} (yes : Gains measure least first)
    (no : Gains measure least second) :
    Gains measure least (if condition then first else second) := by
  split
  · exact yes
  · exact no

/-- Started where no attempt was scheduled to raise, the computation makes no such attempt either,
or it raises and at least so much is missing of what it gains when nothing fails. -/
def Stops (measure : State → Nat) (faults : Faults Site Error) (margin : Nat)
    (action : Faults Site Error → Fallible Error (Attempts Site State) Value) : Prop :=
  ∀ start, (∀ site ∈ start.attempted, faults site = none) →
    (∀ site ∈ (exec (action calm) start).2.attempted, faults site = none) ∨
      ∃ error after, exec (action faults) start = (.error error, after) ∧
        measure after.state + margin ≤ measure (exec (action calm) start).2.state

variable {faults : Faults Site Error} {margin : Nat}

/-- A computation whose attempts are fine does not stop. -/
theorem Stays.stops {action : Faults Site Error → Fallible Error (Attempts Site State) Value}
    (stays : Stays (fun site => faults site = none) (action calm)) :
    Stops measure faults margin action :=
  fun start fine => Or.inl (stays start fine)

/-- A value attempts nothing that could stop it. -/
theorem stops_pure (value : Value) : Stops measure faults margin fun _ =>
    (pure value : Fallible Error (Attempts Site State) Value) :=
  (stays_pure value).stops

/-- A single attempt that raises stops the computation at once. -/
theorem stops_attempt (site : Site) :
    Stops measure faults 0 fun faults =>
      (attempt faults site : Fallible Error (Attempts Site State) PUnit) := by
  intro start fine
  simp only [exec_attempt]
  cases scheduled : faults site with
  | none =>
      left
      intro other member
      rcases List.mem_append.mp member with earlier | last
      · exact fine other earlier
      · exact List.mem_singleton.mp last ▸ scheduled
  | some error => exact Or.inr ⟨error, _, rfl, Nat.le_refl _⟩

/-- Where the second part gains, a stop in the first part misses that as well. -/
theorem Stops.bind {action : Faults Site Error → Fallible Error (Attempts Site State) Value}
    {next : Faults Site Error → Value → Fallible Error (Attempts Site State) Result}
    {first later least : Nat} (steady : Steady action) (returns : Gains measure 0 (action calm))
    (stops : Stops measure faults first action)
    (second : ∀ value, Stops measure faults later fun faults => next faults value)
    (gains : ∀ value, Gains measure least (next calm value))
    (early : margin ≤ first + least) (late : margin ≤ later) :
    Stops measure faults margin fun faults => action faults >>= next faults := by
  intro start fine
  obtain ⟨value, between, done, -⟩ := returns start
  have same := steady.same faults start
  have stopped := stops start fine
  simp only [done] at same stopped
  simp only [exec_bind_ok done]
  rcases stopped with clean | ⟨error, after, raised, missing⟩
  · rw [exec_bind_ok (same clean)]
    rcases second value between clean with further | ⟨error, after, raised, missing⟩
    · exact Or.inl further
    · exact Or.inr ⟨error, after, raised, Nat.le_trans (Nat.add_le_add_left late _) missing⟩
  · obtain ⟨result, final, finished, grown⟩ := gains value between
    refine Or.inr ⟨error, after, ?_, ?_⟩
    · rw [exec_bind, raised]
    · rw [finished]
      change measure after.state + margin ≤ measure final.state
      omega

/-- A first part whose attempts are fine leaves the stops to the second part. -/
theorem Stops.after {action : Faults Site Error → Fallible Error (Attempts Site State) Value}
    {next : Faults Site Error → Value → Fallible Error (Attempts Site State) Result}
    (steady : Steady action) (returns : Gains measure 0 (action calm))
    (fine : Stays (fun site => faults site = none) (action calm))
    (second : ∀ value, Stops measure faults margin fun faults => next faults value) :
    Stops measure faults margin fun faults => action faults >>= next faults := by
  intro start before
  obtain ⟨value, between, done, grown⟩ := returns start
  have clean := fine start before
  have same := steady.same faults start
  rw [done] at clean same
  simp only [exec_bind_ok done, exec_bind_ok (same clean)]
  rcases second value between clean with further | ⟨error, after, raised, missing⟩
  · exact Or.inl further
  · exact Or.inr ⟨error, after, raised, missing⟩

/-- A choice stops as its branches do. -/
theorem Stops.ite {condition : Prop} [Decidable condition]
    {first second : Faults Site Error → Fallible Error (Attempts Site State) Value}
    (yes : Stops measure faults margin first) (no : Stops measure faults margin second) :
    Stops measure faults margin fun faults =>
      if condition then first faults else second faults := by
  split
  · exact yes
  · exact no

end Fallible

end Foundation
