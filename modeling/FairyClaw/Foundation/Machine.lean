import Mathlib.Logic.Function.Basic

/-! # Guarded action machines

A machine is a partial step function on states, together with its initial
states. One definition serves replay of a concrete action list
(`Foundation.Machine.replay`), reachability, and the induction principle for
invariants (`Foundation.Machine.Reachable.invariant`). Runs are taken under a
guard on the state and the action about to be performed, so that a statement
about every run and a statement about the runs meeting a condition use the same
rules. A simulation (`Foundation.Machine.Simulation`) carries reachable states
of one machine to reachable states of another, allowing silent steps. Machines
that share nothing run side by side (`Foundation.Machine.perKey`), and each
component of the product runs on its own. What happens under every schedule is
`Foundation.Machine.Inevitably`, proved by a measure.
-/

namespace Foundation

/-- A partial step function on states, driven by actions that carry every
answer of the environment. -/
structure Machine (State Action : Type*) where
  initial : State → Prop
  step : State → Action → Option State

namespace Machine

variable {State Action : Type*} (machine : Machine State Action)

/-- A condition on the state before a step and the action performed there. -/
abbrev Guard (State Action : Type*) := State → Action → Prop

/-- The guard of unrestricted runs. -/
def anyStep : Guard State Action := fun _ _ => True

instance : DecidableRel (anyStep : Guard State Action) := fun _ _ => isTrue trivial

/-- Finitely many enabled steps, each meeting the guard. -/
inductive Steps (guard : Guard State Action) : State → State → Prop
  | refl (state : State) : Steps guard state state
  | tail {start before after : State} {action : Action} :
      Steps guard start before → guard before action →
      machine.step before action = some after → Steps guard start after

/-- States reached from an initial state by steps meeting the guard. -/
def Reachable (guard : Guard State Action) (state : State) : Prop :=
  ∃ start, machine.initial start ∧ machine.Steps guard start state

/-- A run from an initial state with its moments: the states its steps were taken in, and the
actions performed there. -/
inductive Run (guard : Guard State Action) : List (State × Action) → State → Prop
  | start {state : State} : machine.initial state → Run guard [] state
  | tail {moments : List (State × Action)} {before after : State} {action : Action} :
      Run guard moments before → guard before action →
      machine.step before action = some after → Run guard (moments ++ [(before, action)]) after

/-- Perform an action list, checking the guard before every action. -/
def replay (guard : Guard State Action) [DecidableRel guard] :
    State → List Action → Option State
  | state, [] => some state
  | state, action :: rest =>
      if guard state action then (machine.step state action).bind (replay guard · rest) else none

variable {machine} {guard : Guard State Action}

namespace Steps

/-- Steps may follow each other. -/
theorem trans {first second third : State} (left : machine.Steps guard first second)
    (right : machine.Steps guard second third) : machine.Steps guard first third := by
  induction right with
  | refl => exact left
  | tail _ allowed stepped ih => exact .tail ih allowed stepped

/-- A step may come before others. -/
theorem head {first second third : State} {action : Action} (allowed : guard first action)
    (stepped : machine.step first action = some second)
    (rest : machine.Steps guard second third) : machine.Steps guard first third :=
  .trans (.tail (.refl first) allowed stepped) rest

/-- A predicate preserved by every enabled step meeting the guard is preserved
along the steps. -/
theorem invariant {property : State → Prop} {start finish : State}
    (steps : machine.Steps guard start finish)
    (preserved : ∀ before action after, property before → guard before action →
      machine.step before action = some after → property after)
    (valid : property start) : property finish := by
  induction steps with
  | refl => exact valid
  | tail _ allowed stepped ih => exact preserved _ _ _ ih allowed stepped

/-- Steps under a guard are steps under a weaker one. -/
theorem mono {weaker : Guard State Action} (implied : ∀ state action,
    guard state action → weaker state action) {start finish : State}
    (steps : machine.Steps guard start finish) : machine.Steps weaker start finish := by
  induction steps with
  | refl => exact .refl _
  | tail _ allowed stepped ih => exact .tail ih (implied _ _ allowed) stepped

/-- A successful replay performs its actions one after the other. -/
theorem of_replay [DecidableRel guard] : ∀ {actions : List Action} {start finish : State},
    machine.replay guard start actions = some finish → machine.Steps guard start finish
  | [], _, _, replayed => by
      simp only [replay, Option.some.injEq] at replayed
      exact replayed ▸ .refl _
  | action :: rest, start, finish, replayed => by
      simp only [replay] at replayed
      split at replayed
      · obtain ⟨middle, stepped, remaining⟩ := Option.bind_eq_some_iff.mp replayed
        exact .head ‹_› stepped (of_replay remaining)
      · simp at replayed

/-- A replay of actions that the guard lets pass in every state meets the guard. -/
theorem of_replay_allowed : ∀ {actions : List Action} {start finish : State},
    machine.replay anyStep start actions = some finish →
    (∀ action ∈ actions, ∀ state, guard state action) → machine.Steps guard start finish
  | [], _, _, replayed, _ => Option.some.inj replayed ▸ .refl _
  | action :: rest, start, finish, replayed, allowed => by
      obtain ⟨now, later⟩ := List.forall_mem_cons.mp allowed
      rw [replay, if_pos (show anyStep start action from trivial)] at replayed
      obtain ⟨middle, stepped, remaining⟩ := Option.bind_eq_some_iff.mp replayed
      exact .head (now start) stepped (of_replay_allowed remaining later)

end Steps

namespace Reachable

/-- An initial state is reachable. -/
theorem initial {state : State} (start : machine.initial state) :
    machine.Reachable guard state := ⟨state, start, .refl state⟩

/-- A step from a reachable state reaches a reachable one. -/
theorem tail {before after : State} {action : Action} (reached : machine.Reachable guard before)
    (allowed : guard before action) (stepped : machine.step before action = some after) :
    machine.Reachable guard after := by
  obtain ⟨start, started, steps⟩ := reached
  exact ⟨start, started, .tail steps allowed stepped⟩

/-- **Invariants.** A predicate of the initial states preserved by every step
meeting the guard holds in every state those runs reach. -/
theorem invariant {property : State → Prop} {state : State}
    (reached : machine.Reachable guard state)
    (started : ∀ start, machine.initial start → property start)
    (preserved : ∀ before action after, property before → guard before action →
      machine.step before action = some after → property after) : property state := by
  obtain ⟨start, begun, steps⟩ := reached
  exact steps.invariant preserved (started start begun)

/-- A state that is reachable under a guard is so under a weaker one. -/
theorem mono {weaker : Guard State Action} (implied : ∀ state action,
    guard state action → weaker state action) {state : State}
    (reached : machine.Reachable guard state) : machine.Reachable weaker state := by
  obtain ⟨start, begun, steps⟩ := reached
  exact ⟨start, begun, steps.mono implied⟩

/-- What a replay of allowed actions ends in is reachable. -/
theorem of_replay [DecidableRel guard] {actions : List Action} {start finish : State}
    (begun : machine.initial start) (replayed : machine.replay guard start actions = some finish) :
    machine.Reachable guard finish := ⟨start, begun, .of_replay replayed⟩

end Reachable

namespace Run

/-- A run reaches its last state. -/
theorem reachable {moments : List (State × Action)} {state : State}
    (run : machine.Run guard moments state) : machine.Reachable guard state := by
  induction run with
  | start begun => exact .initial begun
  | tail _ allowed stepped ih => exact ih.tail allowed stepped

/-- A run goes on with the steps from its last state. -/
theorem steps {moments : List (State × Action)} {before after : State}
    (run : machine.Run guard moments before) (steps : machine.Steps guard before after) :
    ∃ further, machine.Run guard (moments ++ further) after := by
  induction steps with
  | refl =>
      rw [← List.append_nil moments] at run
      exact ⟨[], run⟩
  | @tail middle _ action _ allowed stepped ih =>
      obtain ⟨further, goesOn⟩ := ih
      refine ⟨further ++ [(middle, action)], ?_⟩
      rw [← List.append_assoc]
      exact goesOn.tail allowed stepped

end Run

/-- A reachable state is the last of a run. -/
theorem Reachable.run {state : State} (reached : machine.Reachable guard state) :
    ∃ moments, machine.Run guard moments state := by
  obtain ⟨start, begun, steps⟩ := reached
  exact Run.steps (.start begun) steps

/-- A forward simulation of one machine by another. A concrete step taken in a
valid state performs the named abstract action, or leaves the abstract state
unchanged when it names none. -/
structure Simulation {Concrete Silent Abstract Visible : Type*}
    (concrete : Machine Concrete Silent) (abstract : Machine Abstract Visible)
    (valid : Concrete → Prop) where
  view : Concrete → Abstract
  shown : Concrete → Silent → Option Visible
  started : ∀ state, concrete.initial state → abstract.initial (view state)
  stepped : ∀ before action after, valid before → concrete.step before action = some after →
    match shown before action with
    | some visible => abstract.step (view before) visible = some (view after)
    | none => view after = view before

/-- A simulation whose validity predicate holds along the run carries reachable
states to reachable states. -/
theorem Simulation.reachable {Concrete Silent Abstract Visible : Type*}
    {concrete : Machine Concrete Silent} {abstract : Machine Abstract Visible}
    {valid : Concrete → Prop} (simulation : concrete.Simulation abstract valid)
    {guard : Guard Concrete Silent}
    (always : ∀ state, concrete.Reachable guard state → valid state) {state : Concrete}
    (reached : concrete.Reachable guard state) :
    abstract.Reachable anyStep (simulation.view state) := by
  obtain ⟨start, begun, steps⟩ := reached
  induction steps with
  | refl => exact .initial (simulation.started _ begun)
  | @tail before after action prior _ stepped ih =>
      have matched := simulation.stepped before action after (always before ⟨start, begun, prior⟩)
        stepped
      cases named : simulation.shown before action with
      | some visible =>
          rw [named] at matched
          exact ih.tail trivial matched
      | none =>
          rw [named] at matched
          exact matched ▸ ih

/-- Steps that keep a property under which the simulation is valid are steps of the abstract machine,
under a guard that the shown actions meet. -/
theorem Simulation.steps {Concrete Silent Abstract Visible : Type*}
    {concrete : Machine Concrete Silent} {abstract : Machine Abstract Visible}
    {valid : Concrete → Prop} (simulation : concrete.Simulation abstract valid)
    {guard : Guard Concrete Silent} {allowed : Guard Abstract Visible} {property : Concrete → Prop}
    (sound : ∀ state, property state → valid state)
    (preserved : ∀ before action after, property before → guard before action →
      concrete.step before action = some after → property after)
    (named : ∀ state action after visible, property state → guard state action →
      concrete.step state action = some after → simulation.shown state action = some visible →
      allowed (simulation.view state) visible)
    {start finish : Concrete} (steps : concrete.Steps guard start finish) (held : property start) :
    abstract.Steps allowed (simulation.view start) (simulation.view finish) := by
  suffices both : property finish ∧
      abstract.Steps allowed (simulation.view start) (simulation.view finish) from both.2
  induction steps with
  | refl => exact ⟨held, .refl _⟩
  | @tail before after action _ guarded stepped ih =>
      obtain ⟨kept, image⟩ := ih
      refine ⟨preserved _ _ _ kept guarded stepped, ?_⟩
      have matched := simulation.stepped before action after (sound before kept) stepped
      cases shown : simulation.shown before action with
      | some visible =>
          rw [shown] at matched
          exact image.tail (named _ _ _ _ kept guarded stepped shown) matched
      | none =>
          rw [shown] at matched
          exact matched ▸ image

/-- Whatever steps meeting the guard are taken, a state satisfying the goal is reached. -/
inductive Inevitably (machine : Machine State Action) (guard : Guard State Action)
    (goal : State → Prop) : State → Prop
  | now {state : State} : goal state → Inevitably machine guard goal state
  | later {state : State} :
      (∃ action after, guard state action ∧ machine.step state action = some after) →
      (∀ action after, guard state action → machine.step state action = some after →
        Inevitably machine guard goal after) → Inevitably machine guard goal state

/-- What follows from the goal is inevitable as well. -/
theorem Inevitably.mono {goal weaker : State → Prop} (implied : ∀ state, goal state → weaker state)
    {state : State} (certain : machine.Inevitably guard goal state) :
    machine.Inevitably guard weaker state := by
  induction certain with
  | now reached => exact .now (implied _ reached)
  | later possible _ ih => exact .later possible ih

/-- A measure that every step lowers, where a step is possible until the goal is reached. -/
theorem inevitably_of_measure {valid goal : State → Prop} (measure : State → Nat)
    (progress : ∀ state, valid state → goal state ∨
      ∃ action after, guard state action ∧ machine.step state action = some after)
    (preserved : ∀ before action after, valid before → guard before action →
      machine.step before action = some after → valid after ∧ measure after < measure before)
    {state : State} (start : valid state) : machine.Inevitably guard goal state := by
  induction bound : measure state using Nat.strongRecOn generalizing state with
  | _ _ ih =>
      rcases progress state start with reached | enabled
      · exact .now reached
      · apply Inevitably.later enabled
        intro action after allowed stepped
        obtain ⟨next, lower⟩ := preserved state action after start allowed stepped
        exact ih _ (bound ▸ lower) next rfl

/-- What is inevitable in the abstract machine is so in the concrete one, when no concrete step is
silent and an abstract step is possible only where a concrete one is. -/
theorem Simulation.inevitably {Concrete Silent Abstract Visible : Type*}
    {concrete : Machine Concrete Silent} {abstract : Machine Abstract Visible}
    {valid : Concrete → Prop} (simulation : concrete.Simulation abstract valid)
    {guard : Guard Concrete Silent} {allowed : Guard Abstract Visible} {goal : Abstract → Prop}
    (preserved : ∀ before action after, valid before → guard before action →
      concrete.step before action = some after → valid after)
    (named : ∀ state action after, valid state → guard state action →
      concrete.step state action = some after →
      ∃ visible, simulation.shown state action = some visible ∧
        allowed (simulation.view state) visible)
    (enabled : ∀ state, valid state → (∃ visible after, allowed (simulation.view state) visible ∧
      abstract.step (simulation.view state) visible = some after) →
      ∃ action after, guard state action ∧ concrete.step state action = some after)
    {image : Abstract} (certain : abstract.Inevitably allowed goal image) {state : Concrete}
    (viewed : simulation.view state = image) (held : valid state) :
    concrete.Inevitably guard (fun state => goal (simulation.view state)) state := by
  induction certain generalizing state with
  | now reached => exact .now (viewed ▸ reached)
  | later possible _ ih =>
      subst viewed
      refine .later (enabled state held possible) fun action after guarded stepped => ?_
      obtain ⟨visible, shown, permitted⟩ := named state action after held guarded stepped
      have matched := simulation.stepped state action after held stepped
      rw [shown] at matched
      exact ih visible _ permitted matched rfl (preserved state action after held guarded stepped)

section PerKey

variable {Key : Type*} [DecidableEq Key] (component : Key → Machine State Action)

/-- One machine for every key, a step being a step of one of them. -/
def perKey : Machine (Key → State) (Key × Action) where
  initial := fun states => ∀ key, (component key).initial (states key)
  step := fun states action =>
    ((component action.1).step (states action.1) action.2).map
      (Function.update states action.1)

variable {component}

/-- A step of the machines by key is a step of one of them. -/
theorem perKey_step_eq_some {before after : Key → State} {key : Key} {action : Action} :
    (perKey component).step before (key, action) = some after ↔
      ∃ next, (component key).step (before key) action = some next ∧
        after = Function.update before key next := by
  simp only [perKey, Option.map_eq_some_iff, eq_comm]

/-- The steps of a product are steps of every component. -/
theorem perKey_steps {guard : Guard (Key → State) (Key × Action)} {start finish : Key → State}
    (steps : (perKey component).Steps guard start finish) (key : Key) :
    (component key).Steps anyStep (start key) (finish key) := by
  induction steps with
  | refl => exact .refl _
  | @tail _ _ moved _ _ stepped ih =>
      obtain ⟨next, moves, rfl⟩ := perKey_step_eq_some.mp stepped
      by_cases same : key = moved.1
      · subst same
        rw [Function.update_self]
        exact ih.tail trivial moves
      · rw [Function.update_of_ne same]
        exact ih

/-- A component's steps are steps of the product, the others standing still, under a guard that
allows them there. -/
theorem Steps.perKey_of {key : Key} {own : Guard State Action}
    {guard : Guard (Key → State) (Key × Action)} {start finish : State}
    (steps : (component key).Steps own start finish) (states : Key → State)
    (allowed : ∀ state action, own state action →
      guard (Function.update states key state) (key, action)) :
    (Machine.perKey component).Steps guard (Function.update states key start)
      (Function.update states key finish) := by
  induction steps with
  | refl => exact .refl _
  | @tail before after action _ permitted moves ih =>
      have moved : (Machine.perKey component).step (Function.update states key before)
          (key, action) = some (Function.update states key after) := by
        apply perKey_step_eq_some.mpr
        refine ⟨after, ?_, (Function.update_idem ..).symm⟩
        rw [Function.update_self]
        exact moves
      exact ih.tail (allowed before action permitted) moved

/-- A component's steps are steps of the product, the others standing still. -/
theorem Steps.perKey {key : Key} {start finish : State}
    (steps : (component key).Steps anyStep start finish) (states : Key → State) :
    (Machine.perKey component).Steps anyStep (Function.update states key start)
      (Function.update states key finish) :=
  steps.perKey_of states fun _ _ _ => trivial

/-- Every component of a reachable product state is reachable on its own. -/
theorem perKey_reachable {guard : Guard (Key → State) (Key × Action)} {states : Key → State}
    (reached : (perKey component).Reachable guard states) (key : Key) :
    (component key).Reachable anyStep (states key) := by
  obtain ⟨start, begun, steps⟩ := reached
  exact ⟨start key, begun key, perKey_steps steps key⟩

end PerKey

end Machine

end Foundation
