import Mathlib.Data.List.SplitBy
import Mathlib.Data.List.Chain
import Mathlib.Data.List.SplitLengths

/-! # Splitting a list into runs

`List.splitBy` cuts a list where neighbours are not related. Related neighbours share a
run (`Foundation.isChain_sameRun`), and an observation that related neighbours agree on
is constant on every run (`Foundation.constant_on_runs`).
-/

namespace Foundation

variable {Item Value : Type} {joins : Item → Item → Bool} {items : List Item}

/-- A first run is split off. -/
theorem splitBy_append {run rest : List Item} (nonempty : run ≠ [])
    (joined : run.IsChain fun first second => joins first second)
    (ends : ∀ last ∈ run.getLast?, ∀ next ∈ rest.head?, joins last next = false) :
    (run ++ rest).splitBy joins = run :: rest.splitBy joins := by
  have pieces : (run :: rest.splitBy joins).flatten = run ++ rest := by
    rw [List.flatten_cons, List.flatten_splitBy]
  rw [← pieces]
  refine List.splitBy_flatten ?_ ?_ ?_
  · simp [nonempty, List.nil_notMem_splitBy]
  · intro piece member
    rcases List.mem_cons.mp member with rfl | member
    · exact joined
    · exact List.isChain_of_mem_splitBy member
  · refine List.isChain_cons.mpr ⟨?_, List.isChain_getLast_head_splitBy joins rest⟩
    intro piece first
    have some_rest : rest ≠ [] := by
      rintro rfl
      simp at first
    have some_piece : rest.splitBy joins ≠ [] := List.splitBy_ne_nil.mpr some_rest
    have isFirst : piece = (rest.splitBy joins).head some_piece := by
      rw [List.head?_eq_some_head some_piece] at first
      exact (Option.some.inj first).symm
    have some_item : piece ≠ [] :=
      List.ne_nil_of_mem_splitBy (isFirst ▸ List.head_mem some_piece)
    refine ⟨nonempty, some_item, ends _ (List.getLast_mem_getLast? nonempty) _ ?_⟩
    subst isFirst
    rw [List.head_head_splitBy joins some_rest]
    exact List.head_mem_head? some_rest

/-- Related neighbours share a run. -/
theorem isChain_sameRun (joins : Item → Item → Bool) (items : List Item) :
    items.IsChain fun first second => joins first second →
      ∃ run ∈ items.splitBy joins, first ∈ run ∧ second ∈ run := by
  have pieces := List.isChain_flatten (R := fun first second => joins first second →
    ∃ run ∈ items.splitBy joins, first ∈ run ∧ second ∈ run) (List.nil_notMem_splitBy joins items)
  rw [List.flatten_splitBy] at pieces
  refine pieces.mpr ⟨?_, ?_⟩
  · intro run member
    refine List.Pairwise.isChain (List.pairwise_of_forall_mem_list ?_)
    intro first isFirst second isSecond _
    exact ⟨run, member, isFirst, isSecond⟩
  · refine (List.isChain_getLast_head_splitBy joins items).imp ?_
    rintro earlier later ⟨some_earlier, some_later, apart⟩ last isLast next isNext related
    rw [List.getLast?_eq_getLast_of_ne_nil some_earlier] at isLast
    rw [List.head?_eq_some_head some_later] at isNext
    cases isLast
    cases isNext
    simp [apart] at related

/-- Two neighbours stand next to each other in the list. -/
theorem infix_of_neighbours (index : Nat) {first second : Item}
    (isFirst : items[index]? = some first) (isSecond : items[index + 1]? = some second) :
    [first, second] <:+: items := by
  have pair : items.drop index = [first, second] ++ items.drop (index + 2) := by
    rw [List.drop_eq_getElem?_toList_append, isFirst, List.drop_eq_getElem?_toList_append, isSecond]
    rfl
  exact (pair ▸ List.prefix_append _ _).isInfix.trans (List.drop_suffix index items).isInfix

/-- A chain of implications takes one relation to the other. -/
theorem isChain_mp {related implied : Item → Item → Prop} (chain : items.IsChain related)
    (imply : items.IsChain fun first second => related first second → implied first second) :
    items.IsChain implied := by
  induction items with
  | nil => exact List.isChain_nil
  | cons first rest ih =>
      cases rest with
      | nil => exact List.isChain_singleton first
      | cons second rest =>
          rw [List.isChain_cons_cons] at chain imply ⊢
          exact ⟨imply.1 chain.1, ih chain.2 imply.2⟩

/-- What related neighbours agree on is constant on every run. -/
theorem constant_on_runs (observe : Item → Value)
    (agree : items.IsChain fun first second => joins first second → observe first = observe second) :
    ∀ run ∈ items.splitBy joins, ∀ first ∈ run, ∀ second ∈ run, observe first = observe second := by
  intro run member
  have joined := List.isChain_of_mem_splitBy member
  have inside : run <:+: items := by
    have part := List.infix_of_mem_flatten member
    rwa [List.flatten_splitBy] at part
  have imply := List.IsChain.infix agree inside
  have equal : run.IsChain fun first second => observe first = observe second :=
    isChain_mp joined imply
  have all : run.Pairwise fun first second => observe first = observe second :=
    have : IsTrans Item fun first second => observe first = observe second :=
      ⟨fun _ _ _ one two => one.trans two⟩
    List.isChain_iff_pairwise.mp equal
  intro first isFirst second isSecond
  have : Std.Symm fun first second => observe first = observe second :=
    ⟨fun _ _ same => same.symm⟩
  exact List.Pairwise.forall_of_forall (R := fun first second => observe first = observe second)
    (fun _ _ => rfl) all isFirst isSecond

end Foundation
