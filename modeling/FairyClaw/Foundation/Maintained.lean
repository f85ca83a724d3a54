import FairyClaw.Foundation.Faults

/-! # Invariants of fallible computations

A computation maintains an invariant of the state, whether it returns or raises, and what it returns
meets a condition (`Foundation.Fallible.Maintains`). The rules follow the ways in which computations
are put together.
-/

namespace Foundation.Fallible

variable {Error State Site Value Result : Type}

/-- The invariant outlives the computation, and a returned value meets the condition. -/
def Maintains (invariant : State → Prop) (post : Value → Prop)
    (action : Fallible Error State Value) : Prop :=
  ∀ state, invariant state →
    invariant (exec action state).2 ∧ ∀ value, (exec action state).1 = .ok value → post value

/-- The invariant outlives the computation. -/
abbrev Upholds (invariant : State → Prop) (action : Fallible Error State Value) : Prop :=
  Maintains invariant (fun _ => True) action

section Rules

variable {invariant : State → Prop} {post : Value → Prop} {final : Result → Prop}

/-- A value keeps the invariant. -/
theorem maintains_pure {value : Value} (holds : post value) :
    Maintains invariant post (pure value : Fallible Error State Value) := by
  refine fun state valid => ⟨valid, fun other returned => ?_⟩
  cases returned
  exact holds

/-- A value upholds the invariant. -/
theorem upholds_pure (value : Value) :
    Upholds invariant (pure value : Fallible Error State Value) := maintains_pure trivial

/-- A result that is known keeps the invariant. -/
theorem maintains_ofExcept {result : Except Error Value}
    (holds : ∀ value, result = .ok value → post value) :
    Maintains invariant post (ofExcept result : Fallible Error State Value) := by
  intro state valid
  rw [exec_ofExcept]
  exact ⟨valid, holds⟩

/-- What the first part returns the second may rely on. -/
theorem Maintains.bind {action : Fallible Error State Value}
    {next : Value → Fallible Error State Result} (first : Maintains invariant post action)
    (second : ∀ value, post value → Maintains invariant final (next value)) :
    Maintains invariant final (action >>= next) := by
  intro state valid
  obtain ⟨between, holds⟩ := first state valid
  rw [exec_bind]
  cases done : exec action state with
  | mk outcome after =>
      rw [done] at between holds
      cases outcome with
      | ok value => exact second value (holds value rfl) after between
      | error error => exact ⟨between, nofun⟩

/-- A computation whose value is not asked about. -/
theorem Upholds.bind {action : Fallible Error State Value}
    {next : Value → Fallible Error State Result} (first : Upholds invariant action)
    (second : ∀ value, Maintains invariant final (next value)) :
    Maintains invariant final (action >>= next) :=
  Maintains.bind first fun value _ => second value

/-- An invariant that holds once a computation has ended outlives what follows. -/
theorem Upholds.after {action : Fallible Error State Value}
    {next : Value → Fallible Error State Result} (second : ∀ value, Upholds invariant (next value))
    {state : State} (reached : invariant (exec action state).2) :
    invariant (exec (action >>= next) state).2 := by
  rw [exec_bind]
  cases done : exec action state with
  | mk outcome after =>
      rw [done] at reached
      cases outcome with
      | ok value => exact (second value after reached).1
      | error error => exact reached

/-- The handler starts in a state with the invariant, whatever was raised. -/
theorem Maintains.recover {action : Fallible Error State Value}
    {handler : Error → Fallible Error State Value} (first : Maintains invariant post action)
    (second : ∀ error, Maintains invariant post (handler error)) :
    Maintains invariant post (recover action handler) := by
  intro state valid
  obtain ⟨between, holds⟩ := first state valid
  rw [exec_recover]
  cases done : exec action state with
  | mk outcome after =>
      rw [done] at between holds
      cases outcome with
      | ok value => exact ⟨between, holds⟩
      | error error => exact second error after between

/-- Both branches of a choice keep the invariant. -/
theorem Maintains.ite {condition : Prop} [Decidable condition]
    {first second : Fallible Error State Value} (yes : Maintains invariant post first)
    (no : Maintains invariant post second) :
    Maintains invariant post (if condition then first else second) := by
  split
  · exact yes
  · exact no

end Rules

section Attempts

variable {property : State → Prop}

/-- An update upholds what it keeps in each state. -/
theorem upholds_update {change : State → State}
    (kept : ∀ state, property state → property (change state)) :
    Upholds (fun start => property start.state)
      (update change : Fallible Error (Attempts Site State) PUnit) :=
  fun start valid => ⟨kept start.state valid, fun _ _ => trivial⟩

/-- Reading the state upholds every property of it. -/
theorem upholds_current :
    Upholds (fun start => property start.state)
      (current : Fallible Error (Attempts Site State) State) :=
  fun _ valid => ⟨valid, fun _ _ => trivial⟩

/-- An attempt upholds every property of the state. -/
theorem upholds_attempt (faults : Faults Site Error) (site : Site) :
    Upholds (fun start => property start.state)
      (attempt faults site : Fallible Error (Attempts Site State) PUnit) := by
  refine fun start valid => ⟨?_, fun _ _ => trivial⟩
  rw [exec_attempt]
  exact valid

end Attempts

end Foundation.Fallible
