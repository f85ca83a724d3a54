import Mathlib.Logic.Relation

/-! # Walks over a relation

A worklist visits what can be reached from its start: each step takes a waiting node, and lets the
successors of a new one wait. When nothing waits, the visited nodes are those that can be reached
(`Foundation.Frontier.mem_iff_reachable`). A chain follows a partial function; what comes after two
places with the same node is the same (`Foundation.chain_add_congr`).
-/

namespace Foundation

variable {Node : Type*}

/-- Items of two kinds that exclude each other are counted in what contains both. -/
theorem countP_add_le {first second whole : Node → Bool} (inside : ∀ node, first node → whole node)
    (other : ∀ node, second node → whole node ∧ first node = false) (nodes : List Node) :
    nodes.countP first + nodes.countP second ≤ nodes.countP whole := by
  induction nodes with
  | nil => exact Nat.le_refl 0
  | cons node nodes ih =>
      simp only [List.countP_cons]
      by_cases isSecond : second node
      · obtain ⟨within, apart⟩ := other node isSecond
        rw [if_pos isSecond, if_pos within, apart]
        simp only [Bool.false_eq_true, ↓reduceIte]
        omega
      · rw [if_neg isSecond]
        by_cases isFirst : first node
        · rw [if_pos isFirst, if_pos (inside node isFirst)]
          omega
        · rw [if_neg isFirst]
          omega

/-! ## Worklists -/

/-- The invariant of a worklist: all nodes of it can be reached from the start, and a successor of
a visited node is visited or waits. -/
structure Frontier (step : Node → Node → Prop) (start : Node) (visited waiting : List Node) :
    Prop where
  reached : ∀ node, node ∈ visited ∨ node ∈ waiting → Relation.ReflTransGen step start node
  started : start ∈ visited ∨ start ∈ waiting
  closed : ∀ node ∈ visited, ∀ next, step node next → next ∈ visited ∨ next ∈ waiting

namespace Frontier

variable {step : Node → Node → Prop} {start current : Node} {visited waiting children : List Node}

/-- At the start no node is visited, and the first one waits. -/
theorem init (step : Node → Node → Prop) (start : Node) : Frontier step start [] [start] where
  reached := by
    rintro node (visited | waits)
    · cases visited
    · rw [List.mem_singleton.mp waits]
  started := Or.inr (List.mem_singleton_self start)
  closed := fun _ visited => nomatch visited

/-- A waiting node that was visited before is passed over. -/
theorem skip (frontier : Frontier step start visited (current :: waiting))
    (before : current ∈ visited) : Frontier step start visited waiting := by
  have still {node : Node} (listed : node ∈ visited ∨ node ∈ current :: waiting) :
      node ∈ visited ∨ node ∈ waiting := by
    rcases listed with visited | waits
    · exact Or.inl visited
    · rcases List.mem_cons.mp waits with rfl | waits
      · exact Or.inl before
      · exact Or.inr waits
  refine ⟨?_, still frontier.started, fun node visited next follows =>
    still (frontier.closed node visited next follows)⟩
  rintro node (visited | waits)
  · exact frontier.reached node (Or.inl visited)
  · exact frontier.reached node (Or.inr (List.mem_cons_of_mem current waits))

/-- A new node is visited, and its successors wait; those that were visited need not. -/
theorem visit (frontier : Frontier step start visited (current :: waiting))
    (sound : ∀ child ∈ children, step current child)
    (complete : ∀ child, step current child → child ∈ current :: visited ∨ child ∈ children) :
    Frontier step start (current :: visited) (waiting ++ children) := by
  have reachable : Relation.ReflTransGen step start current :=
    frontier.reached current (Or.inr List.mem_cons_self)
  have still {node : Node} (listed : node ∈ visited ∨ node ∈ current :: waiting) :
      node ∈ current :: visited ∨ node ∈ waiting ++ children := by
    rcases listed with visited | waits
    · exact Or.inl (List.mem_cons_of_mem current visited)
    · rcases List.mem_cons.mp waits with rfl | waits
      · exact Or.inl List.mem_cons_self
      · exact Or.inr (List.mem_append_left children waits)
  refine ⟨?_, still frontier.started, ?_⟩
  · rintro node (visited | waits)
    · rcases List.mem_cons.mp visited with rfl | visited
      · exact reachable
      · exact frontier.reached node (Or.inl visited)
    · rcases List.mem_append.mp waits with waits | child
      · exact frontier.reached node (Or.inr (List.mem_cons_of_mem current waits))
      · exact reachable.tail (sound node child)
  · intro node visited next follows
    rcases List.mem_cons.mp visited with rfl | visited
    · exact (complete next follows).imp_right (List.mem_append_right waiting)
    · exact still (frontier.closed node visited next follows)

/-- When nothing waits, the visited nodes are those that can be reached. -/
theorem mem_iff_reachable (frontier : Frontier step start visited []) {node : Node} :
    node ∈ visited ↔ Relation.ReflTransGen step start node := by
  constructor
  · intro visited
    exact frontier.reached node (Or.inl visited)
  · intro reachable
    induction reachable with
    | refl => exact frontier.started.resolve_right List.not_mem_nil
    | tail _ follows ih => exact (frontier.closed _ ih _ follows).resolve_right List.not_mem_nil

end Frontier

/-! ## Chains -/

/-- The node after some steps of a partial function. -/
def chain (next : Node → Option Node) (start : Option Node) : Nat → Option Node
  | 0 => start
  | count + 1 => (chain next start count).bind next

variable {next : Node → Option Node} {start : Option Node}

/-- A chain ends where there is no next node. -/
theorem chain_none : ∀ count : Nat, chain next none count = none
  | 0 => rfl
  | count + 1 => by rw [chain, chain_none count, Option.bind_none]

/-- From a place on, the chain is the chain from its node. -/
theorem chain_add (count : Nat) : ∀ more : Nat,
    chain next start (count + more) = chain next (chain next start count) more
  | 0 => rfl
  | more + 1 => by rw [← Nat.add_assoc, chain, chain, chain_add count more]

/-- Two places with the same node are followed by the same nodes. -/
theorem chain_add_congr {first second : Nat}
    (same : chain next start first = chain next start second) (more : Nat) :
    chain next start (first + more) = chain next start (second + more) := by
  rw [chain_add, chain_add, same]

end Foundation
