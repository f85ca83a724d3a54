import Mathlib.Data.List.Basic
import Mathlib.Data.Set.Insert
import Mathlib.Order.Interval.Set.Basic

/-! # Spans of a growing list

A window shows the last elements of a list that only grows, and a span is a stretch of positions in
the list. Among spans that advance, newest first, what begins no earlier than the newest one is
covered exactly when it does not go beyond its end (`Foundation.Span.covered_iff`).
-/

namespace Foundation

/-- Positions from `first` on. -/
structure Span where
  first : Nat
  count : Nat
  deriving DecidableEq, Repr

namespace Span

/-- The first position after the span. -/
def stop (span : Span) : Nat := span.first + span.count

/-- The positions of the span. -/
def positions (span : Span) : Set Nat := Set.Ico span.first span.stop

/-- The positions of a span are those from its first up to its end. -/
@[simp] theorem mem_positions {span : Span} {position : Nat} :
    position ∈ span.positions ↔ span.first ≤ position ∧ position < span.stop := Iff.rfl

instance (span : Span) (position : Nat) : Decidable (position ∈ span.positions) :=
  inferInstanceAs (Decidable (_ ∧ _))

/-- Every position of the span is in one of these spans. -/
def Covered (span : Span) (spans : List Span) : Prop :=
  ∀ position ∈ span.positions, ∃ other ∈ spans, position ∈ other.positions

/-- The newer span neither begins nor ends before the older one. -/
def Advances (newer older : Span) : Prop := older.first ≤ newer.first ∧ older.stop ≤ newer.stop

/-- What advances over the newest span advances over all. -/
theorem pairwise_cons_cons {newer newest : Span} {older : List Span}
    (advances : newer.Advances newest) (advancing : (newest :: older).Pairwise Advances) :
    (newer :: newest :: older).Pairwise Advances := by
  refine List.pairwise_cons.mpr ⟨fun span member => ?_, advancing⟩
  rcases List.mem_cons.mp member with rfl | earlier
  · exact advances
  · obtain ⟨begins, ends⟩ := (List.pairwise_cons.mp advancing).1 span earlier
    exact ⟨begins.trans advances.1, ends.trans advances.2⟩

variable {span newest : Span} {older : List Span}

/-- **Coverage.** The newest of the advancing spans decides. -/
theorem covered_iff (advancing : (newest :: older).Pairwise Advances)
    (later : newest.first ≤ span.first) (nonempty : 0 < span.count) :
    span.Covered (newest :: older) ↔ span.stop ≤ newest.stop := by
  constructor
  · intro covered
    have last : span.stop - 1 ∈ span.positions := by
      rw [mem_positions, stop]
      omega
    obtain ⟨other, member, inside⟩ := covered _ last
    have ends : other.stop ≤ newest.stop := by
      rcases List.mem_cons.mp member with rfl | earlier
      · exact le_rfl
      · exact ((List.pairwise_cons.mp advancing).1 other earlier).2
    have before : span.stop - 1 < other.stop := (mem_positions.mp inside).2
    omega
  · intro ends position inside
    obtain ⟨begins, before⟩ := mem_positions.mp inside
    exact ⟨newest, List.mem_cons_self,
      mem_positions.mpr ⟨later.trans begins, before.trans_le ends⟩⟩

end Span

/-! ## Windows -/

section Window

variable {Row Item : Type*} (items : Row → List Item) (limit : Nat)

/-- How many items stand before the last rows. -/
def shownFrom (rows : List Row) : Nat := ((rows.take (rows.length - limit)).flatMap items).length

/-- The items of the last rows are those of all rows, without the first ones. -/
theorem flatMap_window (rows : List Row) :
    (rows.drop (rows.length - limit)).flatMap items =
      (rows.flatMap items).drop (shownFrom items limit rows) := by
  have parts : rows.flatMap items = (rows.take (rows.length - limit)).flatMap items ++
      (rows.drop (rows.length - limit)).flatMap items := by
    rw [← List.flatMap_append, List.take_append_drop]
  rw [parts, shownFrom, List.drop_left]

/-- The window moves forwards. -/
theorem shownFrom_append (rows added : List Row) :
    shownFrom items limit rows ≤ shownFrom items limit (rows ++ added) := by
  have grown : rows.take (rows.length - limit) <+:
      (rows ++ added).take ((rows ++ added).length - limit) := by
    have early : rows.take (rows.length - limit) = (rows ++ added).take (rows.length - limit) :=
      (List.take_append_of_le_length (Nat.sub_le _ _)).symm
    rw [early]
    refine List.take_prefix_take_left ?_
    rw [List.length_append]
    omega
  obtain ⟨rest, same⟩ := grown
  rw [shownFrom, shownFrom, ← same, List.flatMap_append, List.length_append]
  exact Nat.le_add_right _ _

end Window

end Foundation
