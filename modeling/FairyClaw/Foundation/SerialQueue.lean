import FairyClaw.Foundation.Machine
import Mathlib.Logic.Function.Basic

/-! # Serial queues per key

Items carry a key. Items of one key are handled one at a time in the order in
which they were enqueued, and different keys do not wait for each other. The
enqueued and finished items are recorded, so that the order is a statement
about one state (`Foundation.SerialQueue.ledger_of_reachable`): at every moment
the items enqueued for a key are those finished, then the one being handled,
then those waiting.
-/

namespace Foundation

variable {Key Item : Type*}

/-- Waiting items and the item being handled for every key, with the record of
everything enqueued and finished. -/
structure SerialQueue (Key Item : Type*) where
  queued : Key → List Item
  active : Key → Option Item
  enqueued : Key → List Item
  finished : Key → List Item

namespace SerialQueue

/-- Queues are equal when they agree on every key. -/
@[ext] theorem ext {left right : SerialQueue Key Item}
    (queued : ∀ key, left.queued key = right.queued key)
    (active : ∀ key, left.active key = right.active key)
    (enqueued : ∀ key, left.enqueued key = right.enqueued key)
    (finished : ∀ key, left.finished key = right.finished key) : left = right := by
  cases left
  cases right
  simp only [mk.injEq]
  exact ⟨funext queued, funext active, funext enqueued, funext finished⟩

/-- Nothing is queued, active or finished. -/
def empty : SerialQueue Key Item where
  queued := fun _ => []
  active := fun _ => none
  enqueued := fun _ => []
  finished := fun _ => []

variable [DecidableEq Key] (keyOf : Item → Key)

/-- An item comes last in the queue of its key. -/
def enqueue (queue : SerialQueue Key Item) (item : Item) : SerialQueue Key Item :=
  { queue with
    queued := Function.update queue.queued (keyOf item) (queue.queued (keyOf item) ++ [item])
    enqueued := Function.update queue.enqueued (keyOf item)
      (queue.enqueued (keyOf item) ++ [item]) }

/-- Begin handling the first waiting item of a key that handles none. -/
def start (queue : SerialQueue Key Item) (key : Key) : Option (SerialQueue Key Item) :=
  match queue.active key, queue.queued key with
  | none, item :: rest =>
      some { queue with
        queued := Function.update queue.queued key rest
        active := Function.update queue.active key (some item) }
  | _, _ => none

/-- Finish handling the active item of a key. -/
def finish (queue : SerialQueue Key Item) (key : Key) : Option (SerialQueue Key Item) :=
  match queue.active key with
  | some item =>
      some { queue with
        active := Function.update queue.active key none
        finished := Function.update queue.finished key (queue.finished key ++ [item]) }
  | none => none

/-- The first item of a queue becomes active when none is. -/
theorem start_eq_some {queue next : SerialQueue Key Item} {key : Key} :
    queue.start key = some next ↔ ∃ item rest, queue.active key = none ∧
      queue.queued key = item :: rest ∧ next = { queue with
        queued := Function.update queue.queued key rest
        active := Function.update queue.active key (some item) } := by
  unfold start
  split
  · rename_i item rest inactive waiting
    simp only [Option.some.injEq, inactive, waiting, List.cons.injEq, true_and]
    constructor
    · rintro rfl
      exact ⟨item, rest, ⟨rfl, rfl⟩, rfl⟩
    · rintro ⟨_, _, ⟨rfl, rfl⟩, rfl⟩
      rfl
  · rename_i blocked
    simp only [reduceCtorEq, false_iff, not_exists, not_and]
    intro item rest inactive waiting
    exact (blocked item rest inactive waiting).elim

/-- The active item becomes finished. -/
theorem finish_eq_some {queue next : SerialQueue Key Item} {key : Key} :
    queue.finish key = some next ↔ ∃ item, queue.active key = some item ∧ next = { queue with
        active := Function.update queue.active key none
        finished := Function.update queue.finished key (queue.finished key ++ [item]) } := by
  unfold finish
  cases active : queue.active key with
  | none => simp only [reduceCtorEq, false_and, exists_false]
  | some item => simp only [Option.some.injEq, exists_eq_left', eq_comm]

/-- What may happen to a queue. -/
inductive Action (Key Item : Type*)
  | enqueue (item : Item)
  | start (key : Key)
  | finish (key : Key)

/-- The queue with its actions, which starts empty. -/
def machine : Machine (SerialQueue Key Item) (Action Key Item) where
  initial := (· = empty)
  step := fun queue action =>
    match action with
    | .enqueue item => some (queue.enqueue keyOf item)
    | .start key => queue.start key
    | .finish key => queue.finish key

/-- Everything enqueued for a key is finished, then active, then waiting. -/
def Ledger (queue : SerialQueue Key Item) : Prop :=
  ∀ key, queue.enqueued key = queue.finished key ++ (queue.active key).toList ++ queue.queued key

/-- Every step keeps the ledger. -/
theorem Ledger.step {queue next : SerialQueue Key Item} {action : Action Key Item}
    (ledger : queue.Ledger) (stepped : (machine keyOf).step queue action = some next) :
    next.Ledger := by
  intro key
  cases action with
  | enqueue item =>
      cases stepped
      by_cases same : key = keyOf item
      · subst same
        simp only [enqueue, Function.update_self, ledger (keyOf item), List.append_assoc]
      · simp only [enqueue, Function.update_of_ne same, ledger key]
  | start started =>
      obtain ⟨item, rest, inactive, waiting, rfl⟩ := start_eq_some.mp stepped
      by_cases same : key = started
      · subst same
        rw [ledger key, inactive, waiting]
        simp only [Option.toList_none, List.append_nil, Function.update_self, Option.toList_some,
          List.append_assoc, List.singleton_append]
      · simp only [Function.update_of_ne same, ledger key]
  | finish done =>
      obtain ⟨item, active, rfl⟩ := finish_eq_some.mp stepped
      by_cases same : key = done
      · subst same
        simp only [Function.update_self, ledger key, active, Option.toList_some,
          Option.toList_none, List.append_nil]
      · simp only [Function.update_of_ne same, ledger key]

/-- **Order of handling.** No item is lost, handled twice or overtaken by a
later item of its key. -/
theorem ledger_of_reachable {guard : Machine.Guard (SerialQueue Key Item) (Action Key Item)}
    {queue : SerialQueue Key Item} (reached : (machine keyOf).Reachable guard queue) :
    queue.Ledger := by
  apply reached.invariant
  · rintro _ rfl key
    rfl
  · intro before action after ledger _ stepped
    exact ledger.step keyOf stepped

end SerialQueue

end Foundation
