import Mathlib.Data.List.Induction

/-! # Slices of a list

The slices `items[offset : offset + size]` at the offsets `range(0, len(items), size)`, and the
dictionary of numbered slices. Joined in the order of their numbers, the slices are the list again.
-/

namespace Foundation

variable {Item : Type*}

/-- `range(0, stop, step)` -/
def rangeSteps (stop step : Nat) : List Nat :=
  (List.range ((stop + step - 1) / step)).map (· * step)

/-- The slices of some size, the last one possibly shorter. -/
def slices (size : Nat) (items : List Item) : List (List Item) :=
  (rangeSteps items.length size).map fun offset => (items.drop offset).take size

/-- The first slices make up the beginning of the list. -/
theorem flatten_take_slices (size : Nat) (items : List Item) (count : Nat) :
    ((List.range count).map fun index => (items.drop (index * size)).take size).flatten =
      items.take (count * size) := by
  induction count with
  | zero => rw [Nat.zero_mul, List.take_zero]; rfl
  | succ count ih =>
      rw [List.range_succ, List.map_append, List.flatten_append, ih, Nat.succ_mul, List.take_add,
        List.map_singleton, List.flatten_singleton]

/-- The slices together are the list. -/
theorem flatten_slices {size : Nat} (positive : 0 < size) (items : List Item) :
    (slices size items).flatten = items := by
  rw [slices, rangeSteps, List.map_map]
  refine (flatten_take_slices size items _).trans (List.take_of_length_le ?_)
  have floor := Nat.div_add_mod (items.length + size - 1) size
  have small := Nat.mod_lt (items.length + size - 1) positive
  rw [Nat.mul_comm]
  omega

/-- The empty list has no slice. -/
theorem slices_nil {size : Nat} (positive : 0 < size) : slices size ([] : List Item) = [] := by
  have none : (([] : List Item).length + size - 1) / size = 0 :=
    Nat.div_eq_of_lt (by rw [List.length_nil]; omega)
  rw [slices, rangeSteps, none]
  rfl

/-- The number of slices, when the first one is taken off. -/
theorem slice_count {length size : Nat} (positive : 0 < size) (nonempty : 0 < length) :
    (length + size - 1) / size = (length - size + size - 1) / size + 1 := by
  rw [← Nat.add_div_right _ positive]
  rcases Nat.le_total length size with short | long
  · rw [Nat.sub_eq_zero_of_le short, Nat.zero_add, Nat.div_eq_of_lt_le (k := 1) (by omega) (by omega),
      Nat.div_eq_of_lt_le (k := 1) (by omega) (by omega)]
  · rw [Nat.sub_add_cancel long, Nat.sub_add_comm nonempty]

/-- The first slice, and the slices of the rest. -/
theorem slices_cons {size : Nat} (positive : 0 < size) {items : List Item} (nonempty : items ≠ []) :
    slices size items = items.take size :: slices size (items.drop size) := by
  have count := slice_count positive (List.length_pos_iff.mpr nonempty)
  rw [slices, slices, rangeSteps, rangeSteps, count, List.length_drop, List.range_succ_eq_map,
    List.map_cons, List.map_cons, Nat.zero_mul, List.drop_zero, List.map_map, List.map_map,
    List.map_map]
  congr 1
  apply List.map_congr_left
  intro index _
  simp only [Function.comp_apply, List.drop_drop, Nat.succ_mul, Nat.add_comm]

/-- The loop of `List.toChunks` cuts what is left into slices. -/
theorem toChunks_go_eq_slices {size : Nat} (positive : 0 < size) (items : List Item)
    (piece : Array Item) (done : Array (List Item)) (some : 0 < piece.size)
    (small : piece.size ≤ size) :
    List.toChunks.go size items piece done = done.toList ++ slices size (piece.toList ++ items) := by
  have nonempty : ∀ more : List Item, piece.toList ++ more ≠ [] := by
    intro more empty
    have none := congrArg List.length empty
    rw [List.length_append, Array.length_toList, List.length_nil] at none
    omega
  induction items generalizing piece done with
  | nil =>
      rw [List.toChunks.go, slices_cons positive (nonempty []), List.append_nil,
        List.take_of_length_le small, List.drop_eq_nil_of_le small, slices_nil positive,
        Array.toList_push]
  | cons item items ih =>
      rw [List.toChunks.go]
      by_cases full : piece.size = size
      · rw [if_pos (beq_iff_eq.mpr full)]
        have next := ih #[item] (done.push piece.toList) Nat.zero_lt_one positive
          fun _ => List.cons_ne_nil _ _
        refine next.trans ?_
        rw [slices_cons positive (nonempty (item :: items)), List.take_left' full,
          List.drop_left' full, Array.toList_push, List.append_assoc]
        rfl
      · rw [if_neg fun same => full (beq_iff_eq.mp same)]
        have shifted (more : List Item) : (piece.push item).toList ++ more =
            piece.toList ++ item :: more := by
          rw [Array.toList_push, List.append_assoc, List.singleton_append]
        have next := ih (piece.push item) done (by rw [Array.size_push]; omega)
          (by rw [Array.size_push]; omega) fun more => shifted more ▸ nonempty (item :: more)
        rw [next, shifted]

/-- The slices are the chunks of the list. -/
theorem toChunks_eq_slices {size : Nat} (positive : 0 < size) (items : List Item) :
    items.toChunks size = slices size items := by
  cases items with
  | nil => rw [slices_nil positive, List.toChunks]
  | cons item items =>
      obtain ⟨less, rfl⟩ := Nat.exists_eq_succ_of_ne_zero (Nat.ne_of_gt positive)
      exact toChunks_go_eq_slices positive items #[item] #[] Nat.zero_lt_one positive

/-- Slices under their numbers. -/
def numbered (pieces : List (List Item)) : List (Int × List Item) :=
  pieces.mapIdx fun index piece => ((index : Int), piece)

/-- The last piece has the last number. -/
theorem numbered_append (pieces : List (List Item)) (piece : List Item) :
    numbered (pieces ++ [piece]) = numbered pieces ++ [((pieces.length : Int), piece)] := by
  rw [numbered, List.mapIdx_concat]
  rfl

/-- Numbering keeps the number of pieces. -/
theorem length_numbered (pieces : List (List Item)) : (numbered pieces).length = pieces.length := by
  rw [numbered, List.length_mapIdx]

/-- A number finds the piece at its place. -/
theorem lookup_numbered (pieces : List (List Item)) (index : Nat) :
    (numbered pieces).lookup (index : Int) = pieces[index]? := by
  induction pieces using List.reverseRecOn with
  | nil => rfl
  | append_singleton pieces piece ih =>
      rw [numbered_append, List.lookup_append, ih]
      rcases Nat.lt_trichotomy index pieces.length with earlier | rfl | beyond
      · rw [List.getElem?_append_left earlier, List.getElem?_eq_getElem earlier, Option.some_or]
      · rw [List.getElem?_eq_none (Nat.le_refl _), List.getElem?_concat_length, Option.none_or,
          List.lookup_cons_self]
      · have other : ((index : Int) == (pieces.length : Int)) = false := by
          rw [beq_eq_false_iff_ne]
          omega
        have outside : (pieces ++ [piece]).length ≤ index := by
          rw [List.length_append, List.length_singleton]
          exact beyond
        rw [List.getElem?_eq_none outside, List.getElem?_eq_none (Nat.le_of_lt beyond),
          Option.none_or, List.lookup_cons, other]
        rfl

/-- Joined in the order of their numbers, the slices are as they were. -/
theorem flatMap_numbered (pieces : List (List Item)) :
    ((List.range pieces.length).flatMap fun index : Nat =>
      ((numbered pieces).lookup (index : Int)).getD []) = pieces.flatten := by
  rw [List.flatMap_def]
  congr 1
  apply List.ext_getElem
  · rw [List.length_map, List.length_range]
  · intro index inside _
    rw [List.length_map, List.length_range] at inside
    rw [List.getElem_map, List.getElem_range, lookup_numbered, List.getElem?_eq_getElem inside,
      Option.getD_some]

end Foundation
