import Mathlib.Data.List.TakeWhile

/-! # Lines and logs that keep an order

Some items come before others. A line keeps this order when everything that comes before an item on
it is done or ahead of it (`Foundation.Follows`). Items that are taken from the front of such lines,
however many there are, are logged for the first time in the order (`Foundation.Logged`).
-/

namespace Foundation

variable {Item : Type*} {before older : Item → Item → Prop} {done finished : Item → Prop}

/-- Everything that comes before an item of the line is done or ahead of the item. -/
def Follows (before : Item → Item → Prop) (done : Item → Prop) : List Item → List Item → Prop
  | _, [] => True
  | ahead, item :: rest =>
      (∀ other, before other item → done other ∨ other ∈ ahead) ∧
        Follows before done (item :: ahead) rest

namespace Follows

/-- A line may be taken in two parts. -/
theorem append {line : List Item} : ∀ {ahead rest : List Item},
    Follows before done ahead (rest ++ line) ↔
      Follows before done ahead rest ∧ Follows before done (rest.reverse ++ ahead) line
  | ahead, [] => by
      rw [List.nil_append, List.reverse_nil, List.nil_append]
      exact ⟨fun follows => ⟨trivial, follows⟩, And.right⟩
  | ahead, item :: rest => by
      rw [List.cons_append, Follows, Follows, append, List.reverse_cons, List.append_assoc,
        List.singleton_append, and_assoc]

/-- More is done, and what was ahead is done or still ahead. -/
theorem mono (kept : ∀ other, done other → finished other) : ∀ {line ahead further : List Item},
    (∀ item ∈ line, ∀ other, older other item → before other item) →
    (∀ other ∈ ahead, finished other ∨ other ∈ further) →
    Follows before done ahead line → Follows older finished further line
  | [], _, _, _, _, _ => trivial
  | item :: line, ahead, further, earlier, moved, ⟨first, rest⟩ => by
      refine ⟨fun other comes => ?_, ?_⟩
      · rcases first other (earlier item List.mem_cons_self other comes) with already | inside
        · exact Or.inl (kept other already)
        · exact moved other inside
      · refine mono kept (fun next member => earlier next (List.mem_cons_of_mem _ member)) ?_ rest
        intro other member
        rcases List.mem_cons.mp member with rfl | inside
        · exact Or.inr List.mem_cons_self
        · exact (moved other inside).imp_right (List.mem_cons_of_mem _)

/-- More is ahead. -/
theorem behind {line ahead further : List Item} (more : ∀ other ∈ ahead, other ∈ further)
    (follows : Follows before done ahead line) : Follows before done further line :=
  follows.mono (fun _ => id) (fun _ _ _ => id) fun other member => Or.inr (more other member)

/-- An item that is done leaves the front. -/
theorem tail {item : Item} {line : List Item} (already : done item)
    (follows : Follows before done [] (item :: line)) : Follows before done [] line := by
  refine follows.2.mono (fun _ => id) (fun _ _ _ => id) fun other member => Or.inl ?_
  rw [List.mem_singleton] at member
  exact member ▸ already

/-- An item joins the line, with others behind it. -/
theorem insert {item : Item} {line rest : List Item}
    (ready : ∀ other, before other item → done other ∨ other ∈ line)
    (follows : Follows before done [] (line ++ rest)) :
    Follows before done [] (line ++ item :: rest) := by
  obtain ⟨first, last⟩ := append.mp follows
  refine append.mpr ⟨first, fun other comes => ?_, last.behind ?_⟩
  · rw [List.append_nil, List.mem_reverse]
    exact ready other comes
  · exact fun other member => List.mem_cons_of_mem _ member

/-- An item may follow once all before it are done or in the line. -/
theorem concat {item : Item} {line : List Item}
    (ready : ∀ other, before other item → done other ∨ other ∈ line)
    (follows : Follows before done [] line) : Follows before done [] (line ++ [item]) :=
  insert ready ((List.append_nil line).symm ▸ follows)

/-- One line behind another. -/
theorem join {line rest : List Item} (first : Follows before done [] line)
    (second : Follows before done [] rest) : Follows before done [] (line ++ rest) :=
  append.mpr ⟨first, second.behind fun _ inside => absurd inside List.not_mem_nil⟩

/-- Items that are done leave the line. -/
theorem filter {keep : Item → Bool} : ∀ {line ahead : List Item},
    (∀ item ∈ line, keep item = false → done item) → Follows before done ahead line →
    Follows before done ahead (line.filter keep)
  | [], _, _, _ => trivial
  | item :: line, ahead, left, ⟨first, rest⟩ => by
      have later := filter (fun next member => left next (List.mem_cons_of_mem _ member)) rest
      cases kept : keep item with
      | true =>
          rw [List.filter_cons_of_pos kept]
          exact ⟨first, later⟩
      | false =>
          rw [List.filter_cons_of_neg (Bool.not_eq_true _ ▸ kept)]
          refine later.mono (fun _ => id) (fun _ _ _ => id) fun other member => ?_
          rcases List.mem_cons.mp member with rfl | inside
          · exact Or.inl (left other List.mem_cons_self kept)
          · exact Or.inr inside

/-- What comes before the front is done. -/
theorem front {item : Item} {line : List Item} (follows : Follows before done [] (item :: line))
    {other : Item} (comes : before other item) : done other :=
  (follows.1 other comes).resolve_right List.not_mem_nil

end Follows

/-! ## Logs -/

variable [DecidableEq Item]

/-- Everything that comes before an item of the log is done, and is in the log before it, if at
all. -/
structure Logged (before : Item → Item → Prop) (done : Item → Prop) (log : List Item) : Prop where
  finished : ∀ second ∈ log, ∀ first, before first second → done first
  ordered : ∀ first ∈ log, ∀ second ∈ log, before first second →
    log.idxOf first < log.idxOf second

namespace Logged

variable {log : List Item} {item : Item}

omit [DecidableEq Item] in
/-- The empty log is in order. -/
theorem nil [DecidableEq Item] : Logged before done [] :=
  ⟨nofun, nofun⟩

/-- A log stays in order for fewer precedences and for more that is done. -/
theorem mono (kept : ∀ other, done other → finished other)
    (earlier : ∀ second ∈ log, ∀ first, older first second → before first second)
    (logged : Logged before done log) : Logged older finished log where
  finished second member first comes :=
    kept first (logged.finished second member first (earlier second member first comes))
  ordered first inside second member comes :=
    logged.ordered first inside second member (earlier second member first comes)

/-- An item is added when everything before it is done, and itself is not, unless it is in the
log. -/
theorem add (logged : Logged before done log) (ready : ∀ first, before first item → done first)
    (new : done item → item ∈ log) (irrefl : ¬before item item) :
    Logged before done (log ++ [item]) := by
  constructor
  · intro second member first comes
    rcases List.mem_append.mp member with inside | last
    · exact logged.finished second inside first comes
    · rw [List.mem_singleton] at last
      exact ready first (last ▸ comes)
  · intro first firstMember second secondMember comes
    by_cases firstInside : first ∈ log
    · rw [List.idxOf_append, List.idxOf_append, if_pos firstInside]
      by_cases secondInside : second ∈ log
      · rw [if_pos secondInside]
        exact logged.ordered first firstInside second secondInside comes
      · rw [if_neg secondInside]
        exact Nat.lt_add_left _ (List.idxOf_lt_length_iff.mpr firstInside)
    · have last := (List.mem_append.mp firstMember).resolve_left firstInside
      rw [List.mem_singleton] at last
      subst last
      rcases List.mem_append.mp secondMember with secondInside | same
      · exact absurd (new (logged.finished second secondInside first comes)) firstInside
      · rw [List.mem_singleton] at same
        exact absurd (same ▸ comes) irrefl

end Logged

/-! ## Items in the order of their arrival -/

section Arrival

variable {items : List Item} {first second item : Item}

/-- An item arrived before another one. -/
def ArrivedBefore (items : List Item) (first second : Item) : Prop :=
  first ∈ items.takeWhile (· ≠ second)

instance : DecidableRel (ArrivedBefore items) := fun _ _ =>
  inferInstanceAs (Decidable (_ ∈ _))

/-- Nothing arrives before itself. -/
theorem not_arrivedBefore_self : ¬ArrivedBefore items item item := by
  intro inside
  have different := List.mem_takeWhile_imp inside
  exact of_decide_eq_true different rfl

/-- What arrives before something has arrived. -/
theorem ArrivedBefore.mem (comes : ArrivedBefore items first second) : first ∈ items :=
  (List.takeWhile_sublist _).mem comes

/-- A later arrival does not change what came before. -/
theorem arrivedBefore_append (known : second ∈ items) :
    ArrivedBefore (items ++ [item]) first second ↔ ArrivedBefore items first second := by
  have stops : ¬(items.takeWhile (· ≠ second)).length = items.length := by
    intro whole
    have all := (List.takeWhile_sublist _).eq_of_length whole
    have different := List.mem_takeWhile_imp (all.symm ▸ known)
    exact of_decide_eq_true different rfl
  rw [ArrivedBefore, ArrivedBefore, List.takeWhile_append, if_neg stops]

/-- Everything comes before the last arrival. -/
theorem arrivedBefore_last (new : item ∉ items) :
    ArrivedBefore (items ++ [item]) first item ↔ first ∈ items := by
  have all : ∀ other ∈ items, decide (other ≠ item) = true := by
    intro other inside
    refine decide_eq_true ?_
    rintro rfl
    exact new inside
  have stop : [item].takeWhile (· ≠ item) = [] :=
    List.takeWhile_cons_of_neg (by rw [decide_eq_true_eq]; exact not_not_intro rfl)
  rw [ArrivedBefore, List.takeWhile_append_of_pos all, stop, List.append_nil]

end Arrival

end Foundation
