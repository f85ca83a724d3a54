import FairyClaw.Hooks.Runtime

/-! # A stage as a fold

The payload that leaves a stage is the fold of the patches of its hooks. A hook that is disabled, or
that raises under a lenient policy, patches nothing; the first that raises under the policy `fail`
ends the stage (`FairyClaw.runStage_eq`).
-/

namespace FairyClaw

open Foundation Fallible

variable {Payload : Type}

/-- A hook patches the payload, if it is enabled and succeeds, and leaves what it has written. -/
def applyHook (state : Payload × HookWorld) (hook : HookDefinition × HookExecutor Payload) :
    Payload × HookWorld :=
  if hook.1.enabled then
    match exec (hook.2 state.1) state.2 with
    | (.ok output, after) => (output.handedOn state.1, after)
    | (.error _, after) => (state.1, after)
  else state

/-- The exception with which a hook ends its stage. -/
def failureOf (state : Payload × HookWorld) (hook : HookDefinition × HookExecutor Payload) :
    Option PyError :=
  if hook.1.enabled && hook.1.onError = .fail then
    match (exec (hook.2 state.1) state.2).1 with
    | .ok _ => none
    | .error error => some error
  else none

/-- The hooks before the first that ends the stage, and the exception of that one. -/
def untilFailure : List (HookDefinition × HookExecutor Payload) → Payload × HookWorld →
    List (HookDefinition × HookExecutor Payload) × Option (HookDefinition × PyError)
  | [], _ => ([], none)
  | hook :: rest, state =>
      match failureOf state hook with
      | some error => ([], some (hook.1, error))
      | none =>
          let (ran, failure) := untilFailure rest (applyHook state hook)
          (hook :: ran, failure)

/-- A hook that does not end the stage is applied. -/
theorem runStage_cons {hook : HookDefinition × HookExecutor Payload} {payload : Payload}
    {world : HookWorld} (goesOn : failureOf (payload, world) hook = none)
    (rest : List (HookDefinition × HookExecutor Payload)) :
    runStage (hook :: rest) payload world =
      runStage rest (applyHook (payload, world) hook).1 (applyHook (payload, world) hook).2 := by
  obtain ⟨definition, executor⟩ := hook
  cases enabled : definition.enabled with
  | false => simp only [runStage, applyHook, enabled, Bool.false_eq_true, ↓reduceIte]
  | true =>
      simp only [applyHook, enabled, ↓reduceIte]
      cases called : exec (executor payload) world with
      | mk outcome after =>
          cases outcome with
          | ok output => exact runStage_cons_ok enabled called rest
          | error error =>
              refine runStage_cons_error enabled (fun fails => ?_) called rest
              simp only [failureOf, enabled, fails, called, decide_true, Bool.and_self,
                ↓reduceIte, reduceCtorEq] at goesOn

/-- A hook that fails is recorded, and its policy decides about the rest. -/
theorem runStage_cons_failed {hook : HookDefinition × HookExecutor Payload} {payload : Payload}
    {world : HookWorld} {error : PyError} (failed : failureOf (payload, world) hook = some error)
    (rest : List (HookDefinition × HookExecutor Payload)) :
    (runStage (hook :: rest) payload world).1 =
      { status := .error, patchedPayload := some payload, error := some error } := by
  obtain ⟨definition, executor⟩ := hook
  unfold failureOf at failed
  split at failed
  · rename_i strict
    obtain ⟨enabled, fails⟩ := Bool.and_eq_true_iff.mp strict
    cases called : exec (executor payload) world with
    | mk outcome after =>
        simp only [called] at failed
        cases outcome with
        | ok output => cases failed
        | error raised =>
            cases failed
            rw [runStage, if_pos enabled, called]
            exact congrArg Prod.fst (if_pos (of_decide_eq_true fails))
  · cases failed

/-- **Stages.** A stage hands on the fold of the hooks before the first failure, and its status
tells whether there is one. -/
theorem runStage_eq : ∀ (hooks : List (HookDefinition × HookExecutor Payload)) (payload : Payload)
    (world : HookWorld),
    (runStage hooks payload world).1 =
      { status := if (untilFailure hooks (payload, world)).2.isSome then .error else .ok
        patchedPayload :=
          some ((untilFailure hooks (payload, world)).1.foldl applyHook (payload, world)).1
        error := (untilFailure hooks (payload, world)).2.map Prod.snd }
  | [], _, _ => rfl
  | hook :: rest, payload, world => by
      cases failed : failureOf (payload, world) hook with
      | some error =>
          rw [runStage_cons_failed failed]
          simp only [untilFailure, failed]
          rfl
      | none =>
          rw [runStage_cons failed, runStage_eq rest]
          simp only [untilFailure, failed]
          rfl

end FairyClaw
