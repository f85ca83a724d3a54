import Mathlib.Logic.Basic

/-! # Checks of a list in order

A check accepts an item, refuses it with an error, or raises an exception (`none`). A list is
checked from the front up to the first item that is not accepted, so it is accepted exactly when
every item is, and the check raises exactly when it raises on an item after accepted ones
(`Foundation.checkAll_eq_none_iff`).
-/

namespace Foundation

variable {Item Error : Type}

/-- Check the items in order, up to the first that is not accepted. -/
def checkAll (check : Item → Option (Option Error)) : List Item → Option (Option Error)
  | [] => some none
  | item :: rest => (check item).bind fun
      | some error => some (some error)
      | none => checkAll check rest

variable {check : Item → Option (Option Error)} {item : Item}

/-- An accepted item leaves the verdict to the rest. -/
theorem checkAll_cons_of_accepted (accepted : check item = some none) (rest : List Item) :
    checkAll check (item :: rest) = checkAll check rest := by
  rw [checkAll, accepted, Option.bind_some]

/-- The second part is checked only when the first is accepted. -/
theorem checkAll_append (later : List Item) : ∀ items : List Item,
    checkAll check (items ++ later) = (checkAll check items).bind fun
      | some error => some (some error)
      | none => checkAll check later
  | [] => rfl
  | item :: rest => by
      rw [List.cons_append, checkAll, checkAll]
      cases check item with
      | none => rfl
      | some verdict =>
          cases verdict with
          | some error => rfl
          | none => exact checkAll_append later rest

/-- Checking each list in order is checking all of them one after the other. -/
theorem checkAll_flatMap {Group : Type} (items : Group → List Item) : ∀ groups : List Group,
    checkAll (fun group => checkAll check (items group)) groups =
      checkAll check (groups.flatMap items)
  | [] => rfl
  | group :: rest => by
      rw [List.flatMap_cons, checkAll_append, checkAll, checkAll_flatMap items rest]

/-- Checking changed items is checking the items with the changed check. -/
theorem checkAll_map {Other : Type} (change : Other → Item) : ∀ items : List Other,
    checkAll check (items.map change) = checkAll (fun item => check (change item)) items
  | [] => rfl
  | item :: rest => by rw [List.map_cons, checkAll, checkAll, checkAll_map change rest]

/-- Checks that agree on the items give one verdict. -/
theorem checkAll_congr {other : Item → Option (Option Error)} : ∀ {items : List Item},
    (∀ item ∈ items, check item = other item) → checkAll check items = checkAll other items
  | [], _ => rfl
  | item :: rest, same => by
      rw [checkAll, checkAll, same item List.mem_cons_self,
        checkAll_congr fun item member => same item (List.mem_cons_of_mem _ member)]

/-- A list is accepted exactly when every item is. -/
theorem checkAll_accepts_iff : ∀ {items : List Item},
    checkAll check items = some none ↔ ∀ item ∈ items, check item = some none
  | [] => iff_of_true rfl fun _ member => nomatch member
  | item :: rest => by
      rw [List.forall_mem_cons, ← checkAll_accepts_iff, checkAll]
      cases check item with
      | none => exact iff_of_false nofun fun both => nomatch both.1
      | some verdict =>
          cases verdict with
          | some error => exact iff_of_false nofun fun both => nomatch both.1
          | none => exact ⟨fun accepted => ⟨rfl, accepted⟩, And.right⟩

/-- A check raises exactly when it raises on an item after accepted ones. -/
theorem checkAll_eq_none_iff : ∀ {items : List Item},
    checkAll check items = none ↔ ∃ earlier item later, items = earlier ++ item :: later ∧
      (∀ before ∈ earlier, check before = some none) ∧ check item = none
  | [] => by
      refine iff_of_false nofun ?_
      rintro ⟨earlier, item, later, split, _⟩
      cases earlier <;> cases split
  | item :: rest => by
      constructor
      · intro raised
        rw [checkAll] at raised
        cases checked : check item with
        | none => exact ⟨[], item, rest, rfl, nofun, checked⟩
        | some verdict =>
            rw [checked] at raised
            cases verdict with
            | some error => cases raised
            | none =>
                obtain ⟨earlier, stop, later, rfl, accepted, stops⟩ :=
                  checkAll_eq_none_iff.mp raised
                exact ⟨item :: earlier, stop, later, rfl,
                  List.forall_mem_cons.mpr ⟨checked, accepted⟩, stops⟩
      · rintro ⟨earlier, stop, later, split, accepted, stops⟩
        cases earlier with
        | nil =>
            cases split
            rw [checkAll, stops, Option.bind_none]
        | cons first earlier =>
            cases split
            obtain ⟨first, others⟩ := List.forall_mem_cons.mp accepted
            rw [checkAll_cons_of_accepted first]
            exact checkAll_eq_none_iff.mpr ⟨earlier, stop, later, rfl, others, stops⟩

end Foundation
