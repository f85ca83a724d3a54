import Mathlib.Data.List.Basic

/-! # Edits of a list at given places

An edit replaces some items at a place by others, and a list of edits applies from the front to the
back (`Foundation.Applies`). The place of a block of items can be searched for instead:
`Foundation.findFrom` gives the first place at which the block stands
(`Foundation.findFrom_eq_some_iff`), which is the place of the edit when the block does not stand
earlier (`Foundation.findFrom_append`).
-/

namespace Foundation

variable {Item : Type}

/-- Some items after the first `start` ones are replaced by others. -/
structure Edit (Item : Type) where
  start : Nat
  old : List Item
  new : List Item
  deriving DecidableEq, Repr

/-- Edits turn the items from a place on into others, each at its own place. -/
inductive Applies : Nat → List (Edit Item) → List Item → List Item → Prop
  | done (place : Nat) (items : List Item) : Applies place [] items items
  | edit {place : Nat} {edit : Edit Item} {rest : List (Edit Item)}
      {before items results : List Item} : edit.start = place + before.length →
      Applies (edit.start + edit.old.length) rest items results →
      Applies place (edit :: rest) (before ++ (edit.old ++ items))
        (before ++ (edit.new ++ results))

variable [DecidableEq Item]

/-- The first place from `start` on at which a block of items stands. -/
def findFrom (items block : List Item) (start : Nat) : Option Nat :=
  (List.range' start (items.length + 1 - block.length - start)).find? fun place =>
    (items.drop place).take block.length = block

/-- The place found is the first one, from the start on, where the block stands. -/
theorem findFrom_eq_some_iff {items block : List Item} {start place : Nat} (filled : block ≠ []) :
    findFrom items block start = some place ↔ start ≤ place ∧ block <+: items.drop place ∧
      ∀ earlier, start ≤ earlier → earlier < place → ¬block <+: items.drop earlier := by
  have stands (place : Nat) : (items.drop place).take block.length = block ↔
      block <+: items.drop place := by
    rw [List.prefix_iff_eq_take, eq_comm]
  rw [findFrom, List.find?_range'_eq_some]
  simp only [decide_eq_true_eq, Bool.not_eq_true', decide_eq_false_iff_not, stands,
    List.mem_range'_1]
  constructor
  · rintro ⟨here, inside, first⟩
    exact ⟨inside.1, here, first⟩
  · rintro ⟨later, here, first⟩
    have short := here.length_le
    have positive := List.length_pos_iff.mpr filled
    rw [List.length_drop] at short
    exact ⟨here, ⟨later, by omega⟩, first⟩

/-- A block is found at the end of the items before it when it does not stand earlier. -/
theorem findFrom_append {front before block after : List Item} (filled : block ≠ [])
    (first : ∀ earlier < before.length, ¬block <+: (before ++ (block ++ after)).drop earlier) :
    findFrom (front ++ (before ++ (block ++ after))) block front.length =
      some (front.length + before.length) := by
  rw [findFrom_eq_some_iff filled]
  refine ⟨Nat.le_add_right _ _, ?_, fun earlier late soon => ?_⟩
  · rw [List.drop_length_add_append, List.drop_left]
    exact List.prefix_append block after
  · obtain ⟨place, rfl⟩ := Nat.exists_eq_add_of_le late
    rw [List.drop_length_add_append]
    exact first place (Nat.lt_of_add_lt_add_left soon)

end Foundation
