import FairyClaw.Foundation.Faults

/-! # Repeated attempts

An attempt that fails in a way worth another one is made again after a pause, a bounded number of
times (`Foundation.Fallible.retry`). The outcomes of the attempts are a course
(`Foundation.Fallible.Course`): every one but the last is such a failure, and the last one is the
outcome of the whole. A log that every attempt and every pause writes to shows exactly this course
(`Foundation.Fallible.retry_course`).
-/

namespace Foundation

namespace Fallible

variable {Error State Value Event : Type}

/-- Attempt a computation, and again while attempts are left and the failure is worth it. The pause
before the next attempt depends on the number of the one that failed. -/
def retry (again : Error → Bool) (pause : Nat → Fallible Error State PUnit)
    (action : Fallible Error State Value) : (attempt left : Nat) → Fallible Error State Value
  | _, 0 => action
  | attempt, left + 1 => recover action fun error =>
      if again error then do
        pause attempt
        retry again pause action (attempt + 1) left
      else throw error

/-- The outcomes of attempts of which `left` may be repeated. -/
inductive Course (again : Error → Bool) : Nat → List (Except Error Value) → Prop
  | done (left : Nat) (value : Value) : Course again left [.ok value]
  | failed {left : Nat} {error : Error} : again error = false ∨ left = 0 →
      Course again left [.error error]
  | repeated {left : Nat} {error : Error} {rest : List (Except Error Value)} :
      again error = true → Course again left rest → Course again (left + 1) (.error error :: rest)

namespace Course

variable {again : Error → Bool} {left : Nat} {outcomes : List (Except Error Value)}

/-- At least one attempt is made. -/
theorem ne_nil (course : Course again left outcomes) : outcomes ≠ [] := by
  cases course with
  | done => exact List.cons_ne_nil _ _
  | failed => exact List.cons_ne_nil _ _
  | repeated => exact List.cons_ne_nil _ _

/-- There is one attempt more than retries, at most. -/
theorem length_le (course : Course again left outcomes) : outcomes.length ≤ left + 1 := by
  induction course with
  | done left value => exact Nat.le_add_left 1 left
  | failed _ => exact Nat.le_add_left 1 _
  | repeated _ _ ih => exact Nat.succ_le_succ ih

/-- A failure that is worth another attempt is the last one only when no attempt is left. -/
theorem length_of_getLast_again (course : Course again left outcomes) {error : Error}
    (last : outcomes.getLast? = some (.error error)) (worth : again error = true) :
    outcomes.length = left + 1 := by
  induction course with
  | done left value => cases last
  | failed stops =>
      cases last
      rcases stops with hopeless | rfl
      · rw [worth] at hopeless
        cases hopeless
      · rfl
  | repeated _ rest ih =>
      rw [List.getLast?_cons_of_ne_nil rest.ne_nil] at last
      rw [List.length_cons, ih last]

end Course

/-- What attempts and the pauses between them write, from some attempt on. -/
def courseEvents (asked : Except Error Value → Event) (paused : Nat → Event) :
    Nat → List (Except Error Value) → List Event
  | _, [] => []
  | _, [outcome] => [asked outcome]
  | attempt, outcome :: next :: rest =>
      asked outcome :: paused attempt :: courseEvents asked paused (attempt + 1) (next :: rest)

/-- The attempts among the events. -/
theorem countP_courseEvents {asked : Except Error Value → Event} {paused : Nat → Event}
    {isAsked : Event → Bool} (yes : ∀ outcome, isAsked (asked outcome) = true)
    (no : ∀ attempt, isAsked (paused attempt) = false) (attempt : Nat)
    (outcomes : List (Except Error Value)) :
    (courseEvents asked paused attempt outcomes).countP isAsked = outcomes.length := by
  induction outcomes generalizing attempt with
  | nil => rfl
  | cons outcome rest ih =>
      cases rest with
      | nil => exact List.countP_cons_of_pos (yes outcome)
      | cons next rest =>
          have waits : ¬isAsked (paused attempt) = true := by
            rw [no]
            exact Bool.false_ne_true
          rw [courseEvents, List.countP_cons_of_pos (yes outcome), List.countP_cons_of_neg waits,
            ih, List.length_cons, List.length_cons, List.length_cons]

variable {again : Error → Bool} {pause : Nat → Fallible Error State PUnit}
  {action : Fallible Error State Value} {log : State → List Event}
  {asked : Except Error Value → Event} {paused : Nat → Event}

/-- **Retries.** The log gains a course whose last outcome is the outcome of the whole. -/
theorem retry_course
    (asks : ∀ state, log (exec action state).2 = log state ++ [asked (exec action state).1])
    (rests : ∀ attempt state, (exec (pause attempt) state).1 = .ok ⟨⟩ ∧
      log (exec (pause attempt) state).2 = log state ++ [paused attempt])
    (left attempt : Nat) (state : State) :
    ∃ outcomes, Course again left outcomes ∧
      outcomes.getLast? = some (exec (retry again pause action attempt left) state).1 ∧
      log (exec (retry again pause action attempt left) state).2 =
        log state ++ courseEvents asked paused attempt outcomes := by
  induction left generalizing attempt state with
  | zero =>
      have written := asks state
      rw [retry]
      cases outcome : (exec action state).1 with
      | ok value =>
          rw [outcome] at written
          exact ⟨_, .done 0 value, rfl, written⟩
      | error error =>
          rw [outcome] at written
          exact ⟨_, .failed (.inr rfl), rfl, written⟩
  | succ left ih =>
      have written := asks state
      rw [retry, exec_recover]
      rcases attempted : exec action state with ⟨outcome, after⟩
      rw [attempted] at written
      cases outcome with
      | ok value => exact ⟨_, .done _ value, rfl, written⟩
      | error error =>
          simp only
          cases worth : again error with
          | false =>
              rw [if_neg Bool.false_ne_true]
              exact ⟨_, .failed (.inl worth), rfl, written⟩
          | true =>
              rw [if_pos rfl, exec_bind]
              rcases rested : exec (pause attempt) after with ⟨outcome, later⟩
              obtain ⟨fine, waited⟩ := rests attempt after
              rw [rested] at fine waited
              cases fine
              obtain ⟨outcomes, course, last, events⟩ := ih (attempt + 1) later
              refine ⟨.error error :: outcomes, .repeated worth course, ?_, ?_⟩
              · rw [List.getLast?_cons_of_ne_nil course.ne_nil, last]
              · obtain ⟨next, rest, rfl⟩ := List.exists_cons_of_ne_nil course.ne_nil
                simp only at written waited events ⊢
                rw [events, waited, written, courseEvents, List.append_assoc, List.append_assoc]
                rfl

end Fallible

end Foundation
