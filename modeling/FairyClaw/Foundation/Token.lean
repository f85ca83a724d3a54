import Mathlib.Data.Finset.Basic
import Mathlib.Data.List.Nodup
import Mathlib.Logic.Function.Basic

/-! # One token per marked key

A marked key has exactly one token, which waits in a list or is in the hand of
one holder. Marking a key, taking the first waiting token, giving a token back
and dropping it preserve this placement. Two holders therefore never hold the
same key.
-/

namespace Foundation

variable {Key Holder : Type*}

/-- The tokens of the marked keys, each waiting or held, once. -/
structure TokenPlacement (waiting : List Key) (held : Holder → Option Key)
    (marked : Finset Key) : Prop where
  waitingNodup : waiting.Nodup
  heldOnce : ∀ first second key, held first = some key → held second = some key → first = second
  heldNotWaiting : ∀ holder key, held holder = some key → key ∉ waiting
  markedIff : ∀ key, key ∈ marked ↔ key ∈ waiting ∨ ∃ holder, held holder = some key

namespace TokenPlacement

variable {waiting : List Key} {held : Holder → Option Key} {marked : Finset Key}

/-- Without tokens nothing is placed. -/
theorem nothing : TokenPlacement [] (fun _ : Holder => (none : Option Key)) ∅ where
  waitingNodup := List.nodup_nil
  heldOnce := by simp
  heldNotWaiting := by simp
  markedIff := by simp

/-- Mark a key that is not marked and let its token wait. -/
theorem mark [DecidableEq Key] (placed : TokenPlacement waiting held marked) {key : Key}
    (fresh : key ∉ marked) :
    TokenPlacement (waiting ++ [key]) held (insert key marked) := by
  have unplaced := (placed.markedIff key).not.mp fresh
  push Not at unplaced
  obtain ⟨notWaiting, notHeld⟩ := unplaced
  refine ⟨?_, placed.heldOnce, ?_, ?_⟩
  · rw [List.nodup_append]
    refine ⟨placed.waitingNodup, List.nodup_singleton key, ?_⟩
    rintro other member _ last rfl
    exact notWaiting (List.mem_singleton.mp last ▸ member)
  · intro holder other holds member
    rcases List.mem_append.mp member with inside | last
    · exact placed.heldNotWaiting holder other holds inside
    · exact notHeld holder (List.mem_singleton.mp last ▸ holds)
  · intro other
    rw [Finset.mem_insert, placed.markedIff other, List.mem_append, List.mem_singleton]
    tauto

/-- The number of tokens of a key among all holders: one when it is marked, none otherwise. -/
theorem count [DecidableEq Key] (placed : TokenPlacement waiting held marked)
    {holders : List Holder} (distinct : holders.Nodup) (complete : ∀ holder, holder ∈ holders)
    (key : Key) :
    waiting.count key + holders.countP (fun holder => held holder = some key) =
      if key ∈ marked then 1 else 0 := by
  classical
  by_cases inside : key ∈ waiting
  · have unheld : holders.countP (fun holder => held holder = some key) = 0 := by
      apply List.countP_eq_zero.mpr
      intro holder _ holds
      exact placed.heldNotWaiting holder key (of_decide_eq_true holds) inside
    rw [List.count_eq_one_of_mem placed.waitingNodup inside, unheld,
      if_pos ((placed.markedIff key).mpr (Or.inl inside))]
  · rw [List.count_eq_zero.mpr inside, Nat.zero_add]
    by_cases busy : ∃ holder, held holder = some key
    · obtain ⟨holder, holds⟩ := busy
      have only : holders.countP (fun other => held other = some key) = holders.count holder := by
        apply List.countP_congr
        intro other _
        rw [decide_eq_true_eq, beq_iff_eq]
        constructor
        · exact fun also => placed.heldOnce other holder key also holds
        · rintro rfl
          exact holds
      rw [only, List.count_eq_one_of_mem distinct (complete holder),
        if_pos ((placed.markedIff key).mpr (Or.inr ⟨holder, holds⟩))]
    · have unheld : holders.countP (fun holder => held holder = some key) = 0 := by
        apply List.countP_eq_zero.mpr
        intro holder _ holds
        exact busy ⟨holder, of_decide_eq_true holds⟩
      rw [unheld, if_neg (mt (placed.markedIff key).mp (not_or.mpr ⟨inside, busy⟩))]

variable [DecidableEq Holder]

/-- A holder with empty hands takes the first waiting token. -/
theorem take {key : Key} {rest : List Key} (placed : TokenPlacement (key :: rest) held marked)
    {holder : Holder} (free : held holder = none) :
    TokenPlacement rest (Function.update held holder (some key)) marked := by
  have fresh := List.nodup_cons.mp placed.waitingNodup
  have unheld (other : Holder) : held other ≠ some key := fun holds =>
    placed.heldNotWaiting other key holds List.mem_cons_self
  refine ⟨fresh.2, ?_, ?_, ?_⟩
  · intro first second other holds also
    by_cases left : first = holder <;> by_cases right : second = holder
    · exact left.trans right.symm
    · subst left
      rw [Function.update_self, Option.some.injEq] at holds
      rw [Function.update_of_ne right, ← holds] at also
      exact (unheld second also).elim
    · subst right
      rw [Function.update_self, Option.some.injEq] at also
      rw [Function.update_of_ne left, ← also] at holds
      exact (unheld first holds).elim
    · rw [Function.update_of_ne left] at holds
      rw [Function.update_of_ne right] at also
      exact placed.heldOnce first second other holds also
  · intro other token holds member
    by_cases same : other = holder
    · subst same
      rw [Function.update_self, Option.some.injEq] at holds
      exact fresh.1 (holds ▸ member)
    · rw [Function.update_of_ne same] at holds
      exact placed.heldNotWaiting other token holds (List.mem_cons_of_mem _ member)
  · intro token
    rw [placed.markedIff token, List.mem_cons]
    constructor
    · rintro ((rfl | inside) | ⟨other, holds⟩)
      · exact Or.inr ⟨holder, Function.update_self ..⟩
      · exact Or.inl inside
      · have different : other ≠ holder := by
          rintro rfl
          rw [free] at holds
          cases holds
        exact Or.inr ⟨other, by rwa [Function.update_of_ne different]⟩
    · rintro (inside | ⟨other, holds⟩)
      · exact Or.inl (Or.inr inside)
      · by_cases same : other = holder
        · subst same
          rw [Function.update_self, Option.some.injEq] at holds
          exact Or.inl (Or.inl holds.symm)
        · rw [Function.update_of_ne same] at holds
          exact Or.inr ⟨other, holds⟩

/-- After a holder lets go of its key, nobody holds that key. -/
theorem released_unheld (placed : TokenPlacement waiting held marked) {holder : Holder} {key : Key}
    (holds : held holder = some key) (other : Holder) (token : Key) :
    Function.update held holder none other = some token ↔
      held other = some token ∧ token ≠ key := by
  by_cases same : other = holder
  · subst same
    rw [Function.update_self, holds, Option.some.injEq]
    constructor
    · intro impossible
      cases impossible
    · rintro ⟨rfl, different⟩
      exact (different rfl).elim
  · rw [Function.update_of_ne same]
    refine ⟨fun still => ⟨still, ?_⟩, And.left⟩
    rintro rfl
    exact same (placed.heldOnce other holder token still holds)

/-- A holder puts its token at the end of the waiting list. -/
theorem giveBack (placed : TokenPlacement waiting held marked) {holder : Holder} {key : Key}
    (holds : held holder = some key) :
    TokenPlacement (waiting ++ [key]) (Function.update held holder none) marked := by
  refine ⟨?_, ?_, ?_, ?_⟩
  · rw [List.nodup_append]
    refine ⟨placed.waitingNodup, List.nodup_singleton key, ?_⟩
    rintro other member _ last rfl
    exact placed.heldNotWaiting holder key holds (List.mem_singleton.mp last ▸ member)
  · intro first second token left right
    exact placed.heldOnce first second token ((placed.released_unheld holds first token).mp left).1
      ((placed.released_unheld holds second token).mp right).1
  · intro other token still member
    obtain ⟨before, different⟩ := (placed.released_unheld holds other token).mp still
    rcases List.mem_append.mp member with inside | last
    · exact placed.heldNotWaiting other token before inside
    · exact different (List.mem_singleton.mp last)
  · intro token
    simp only [placed.markedIff token, List.mem_append, List.mem_singleton,
      placed.released_unheld holds]
    by_cases same : token = key
    · subst same
      simp only [or_true, true_or, iff_true]
      exact Or.inr ⟨holder, holds⟩
    · simp only [same, or_false, ne_eq, not_false_eq_true, and_true]

/-- A holder drops its token and the key is no longer marked. -/
theorem drop [DecidableEq Key] (placed : TokenPlacement waiting held marked) {holder : Holder} {key : Key}
    (holds : held holder = some key) :
    TokenPlacement waiting (Function.update held holder none) (marked.erase key) := by
  refine ⟨placed.waitingNodup, ?_, ?_, ?_⟩
  · intro first second token left right
    exact placed.heldOnce first second token ((placed.released_unheld holds first token).mp left).1
      ((placed.released_unheld holds second token).mp right).1
  · intro other token still
    exact placed.heldNotWaiting other token ((placed.released_unheld holds other token).mp still).1
  · intro token
    simp only [Finset.mem_erase, placed.markedIff token, placed.released_unheld holds]
    by_cases same : token = key
    · subst same
      have absent := placed.heldNotWaiting holder token holds
      simp only [ne_eq, not_true_eq_false, false_and, absent, and_false, exists_false, or_self]
    · simp only [ne_eq, same, not_false_eq_true, true_and, and_true]

end TokenPlacement

end Foundation
