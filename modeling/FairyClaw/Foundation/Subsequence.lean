import Mathlib.Data.List.Forall2

/-! # Lists derived from a subsequence of another list

The items are, in order, related to some of the source's items. Replacing an item by one
that its sources are related to, or leaving out an item, keeps the relation.
-/

namespace Foundation

variable {Source Item : Type} {relates : Source → Item → Prop} {source : List Source}

/-- The items are related, one by one, to a subsequence of the source. -/
def DerivedFrom (relates : Source → Item → Prop) (source : List Source) (items : List Item) :
    Prop :=
  ∃ kept, kept.Sublist source ∧ List.Forall₂ relates kept items

namespace DerivedFrom

variable {before after : List Item} {item : Item}

/-- Items that are related one by one are derived. -/
theorem of_forall₂ {items : List Item} (related : List.Forall₂ relates source items) :
    DerivedFrom relates source items :=
  ⟨source, List.Sublist.refl source, related⟩

/-- Every derived item has an origin. -/
theorem exists_origin {items : List Item} (derived : DerivedFrom relates source items)
    (member : item ∈ items) : ∃ origin ∈ source, relates origin item := by
  obtain ⟨kept, inside, related⟩ := derived
  suffices found : ∃ origin ∈ kept, relates origin item by
    obtain ⟨origin, isKept, isRelated⟩ := found
    exact ⟨origin, inside.subset isKept, isRelated⟩
  clear inside
  induction related with
  | nil => cases member
  | cons first rest ih =>
      rcases List.mem_cons.mp member with rfl | member
      · exact ⟨_, List.mem_cons_self, first⟩
      · obtain ⟨origin, isKept, isRelated⟩ := ih member
        exact ⟨origin, List.mem_cons_of_mem _ isKept, isRelated⟩

/-- An item may be replaced by one that has the same origins. -/
theorem replace {other : Item} (derived : DerivedFrom relates source (before ++ item :: after))
    (refined : ∀ origin, relates origin item → relates origin other) :
    DerivedFrom relates source (before ++ other :: after) := by
  obtain ⟨kept, inside, related⟩ := derived
  refine ⟨kept, inside, ?_⟩
  clear inside
  induction before generalizing kept with
  | nil =>
      cases related with
      | cons first rest => exact .cons (refined _ first) rest
  | cons head before ih =>
      cases related with
      | cons first rest => exact .cons first (ih _ rest)

/-- An item may be left out. -/
theorem erase (derived : DerivedFrom relates source (before ++ item :: after)) :
    DerivedFrom relates source (before ++ after) := by
  obtain ⟨kept, inside, related⟩ := derived
  suffices smaller : ∃ fewer, fewer.Sublist kept ∧ List.Forall₂ relates fewer (before ++ after) by
    obtain ⟨fewer, part, related⟩ := smaller
    exact ⟨fewer, part.trans inside, related⟩
  clear inside
  induction before generalizing kept with
  | nil =>
      cases related with
      | cons first rest => exact ⟨_, List.sublist_cons_self _ _, rest⟩
  | cons head before ih =>
      cases related with
      | cons first rest =>
          obtain ⟨fewer, part, related⟩ := ih _ rest
          exact ⟨_ :: fewer, part.cons_cons _, .cons first related⟩

/-- The first items may be left out. -/
theorem drop {items : List Item} (derived : DerivedFrom relates source items) (count : Nat) :
    DerivedFrom relates source (items.drop count) := by
  obtain ⟨kept, inside, related⟩ := derived
  exact ⟨kept.drop count, (List.drop_sublist _ _).trans inside, List.forall₂_drop count related⟩

end DerivedFrom

end Foundation
