import Mathlib.Logic.Basic

/-! # Computations that keep their state when they raise

A fallible computation returns a value or raises an error, and in both cases
hands on the state it has reached (`Foundation.Fallible.exec`). An observation that
no step of a computation changes is kept by the whole (`Foundation.Fallible.Keeps`).
-/

namespace Foundation

/-- A computation that may raise, and keeps the state that it has reached then. -/
abbrev Fallible (Error State : Type) := ExceptT Error (StateM State)

namespace Fallible

variable {Error State Value Result Observed : Type}

/-- Run a computation: its outcome, and the state it has reached. -/
def exec (action : Fallible Error State Value) (state : State) : Except Error Value × State :=
  StateT.run (ExceptT.run action) state

/-- A value changes no state. -/
@[simp] theorem exec_pure (value : Value) (state : State) :
    exec (pure value : Fallible Error State Value) state = (.ok value, state) := rfl

/-- Raising changes no state. -/
@[simp] theorem exec_throw (error : Error) (state : State) :
    exec (throw error : Fallible Error State Value) state = (.error error, state) := rfl

/-- Reading gives the state. -/
@[simp] theorem exec_get (state : State) :
    exec (get : Fallible Error State State) state = (.ok state, state) := rfl

/-- A change is made to the state. -/
@[simp] theorem exec_modify (change : State → State) (state : State) :
    exec (modify change : Fallible Error State PUnit) state = (.ok ⟨⟩, change state) := rfl

/-- A result that is known changes no state. -/
@[simp] theorem exec_ofExcept (result : Except Error Value) (state : State) :
    exec (ofExcept result : Fallible Error State Value) state = (result, state) := by
  cases result <;> rfl

/-- What comes next runs in the state reached, unless an error is raised. -/
theorem exec_bind (action : Fallible Error State Value)
    (next : Value → Fallible Error State Result) (state : State) :
    exec (action >>= next) state =
      match exec action state with
      | (.ok value, after) => exec (next value) after
      | (.error error, after) => (.error error, after) := by
  unfold exec
  simp only [ExceptT.run_bind, StateT.run_bind]
  cases StateT.run (ExceptT.run action) state with
  | mk outcome after => cases outcome <;> rfl

/-- After a value, what comes next runs on it. -/
theorem exec_bind_ok {action : Fallible Error State Value} {value : Value} {state after : State}
    (done : exec action state = (.ok value, after))
    (next : Value → Fallible Error State Result) :
    exec (action >>= next) state = exec (next value) after := by
  rw [exec_bind, done]

/-- After an error, nothing else runs. -/
theorem exec_bind_error {action : Fallible Error State Value} {error : Error}
    {state after : State} (raised : exec action state = (.error error, after))
    (next : Value → Fallible Error State Result) :
    exec (action >>= next) state = (.error error, after) := by
  rw [exec_bind, raised]

/-- The computation leaves an observation of the state alone, whatever its outcome. -/
def Keeps (observe : State → Observed) (action : Fallible Error State Value) : Prop :=
  ∀ state, observe (exec action state).2 = observe state

variable {observe : State → Observed}

/-- A value keeps what is observed. -/
theorem keeps_pure (value : Value) :
    Keeps observe (pure value : Fallible Error State Value) := fun _ => rfl

/-- Raising keeps what is observed. -/
theorem keeps_throw (error : Error) :
    Keeps observe (throw error : Fallible Error State Value) := fun _ => rfl

/-- Reading keeps what is observed. -/
theorem keeps_get : Keeps observe (get : Fallible Error State State) := fun _ => rfl

/-- A change keeps what is observed if it does so in each state. -/
theorem keeps_modify {change : State → State}
    (same : ∀ state, observe (change state) = observe state) :
    Keeps observe (modify change : Fallible Error State PUnit) := same

/-- A result that is known keeps what is observed. -/
theorem keeps_ofExcept (result : Except Error Value) :
    Keeps observe (ofExcept result : Fallible Error State Value) := by
  intro state
  rw [exec_ofExcept]

/-- Two computations that keep what is observed do so in turn. -/
theorem Keeps.bind {action : Fallible Error State Value}
    {next : Value → Fallible Error State Result} (first : Keeps observe action)
    (second : ∀ value, Keeps observe (next value)) : Keeps observe (action >>= next) := by
  intro state
  have kept := first state
  rw [exec_bind]
  cases done : exec action state with
  | mk outcome after =>
      rw [done] at kept
      cases outcome with
      | ok value => exact (second value after).trans kept
      | error => exact kept

/-- A choice between computations that keep what is observed keeps it. -/
theorem Keeps.ite {condition : Prop} [Decidable condition]
    {first second : Fallible Error State Value} (yes : Keeps observe first)
    (no : Keeps observe second) : Keeps observe (if condition then first else second) := by
  split
  · exact yes
  · exact no

/-- The values that the computation returns. -/
def Returns (post : Value → Prop) (action : Fallible Error State Value) : Prop :=
  ∀ state value after, exec action state = (.ok value, after) → post value

variable {post : Result → Prop}

/-- A value that satisfies the condition is returned. -/
theorem returns_pure {value : Result} (holds : post value) :
    Returns post (pure value : Fallible Error State Result) := by
  rintro state value after ⟨rfl⟩
  exact holds

/-- What comes last decides what is returned. -/
theorem Returns.bind {action : Fallible Error State Value}
    {next : Value → Fallible Error State Result} (second : ∀ value, Returns post (next value)) :
    Returns post (action >>= next) := by
  intro state result after done
  rw [exec_bind] at done
  split at done
  · exact second _ _ _ _ done
  · cases done

/-- Both branches of a choice return such a value. -/
theorem Returns.ite {condition : Prop} [Decidable condition]
    {first second : Fallible Error State Result} (yes : Returns post first)
    (no : Returns post second) : Returns post (if condition then first else second) := by
  split
  · exact yes
  · exact no

/-! ## Errors -/

/-- Only some errors come out of a result. -/
def Raises (allowed : Error → Prop) (result : Except Error Value) : Prop :=
  ∀ error, result = .error error → allowed error

section Raises

variable {allowed : Error → Prop} {result : Except Error Value}

/-- A value raises nothing. -/
theorem raises_ok (value : Value) : Raises allowed (.ok value) := by
  intro error same
  cases same

/-- An allowed error may be raised. -/
theorem raises_error {error : Error} (fine : allowed error) :
    Raises allowed (.error error : Except Error Value) := by
  intro other same
  cases same
  exact fine

/-- A chain raises what its parts raise. -/
theorem Raises.bind {next : Value → Except Error Result} (first : Raises allowed result)
    (second : ∀ value, Raises allowed (next value)) : Raises allowed (result >>= next) := by
  cases result with
  | error error => exact raises_error (first error rfl)
  | ok value => exact second value

/-- Changing the value changes no error. -/
theorem Raises.map (change : Value → Result) (first : Raises allowed result) :
    Raises allowed (result.map change) := by
  cases result with
  | error error => exact raises_error (first error rfl)
  | ok value => exact raises_ok _

/-- Reading item by item raises what reading one item raises. -/
theorem Raises.mapM {Item : Type} {read : Item → Except Error Value}
    (reads : ∀ item, Raises allowed (read item)) (items : List Item) :
    Raises allowed (items.mapM read) := by
  induction items with
  | nil => exact raises_ok []
  | cons item items ih =>
      rw [List.mapM_cons]
      apply (reads item).bind
      intro value
      apply ih.bind
      intro values
      exact raises_ok _

end Raises
end Fallible

end Foundation
