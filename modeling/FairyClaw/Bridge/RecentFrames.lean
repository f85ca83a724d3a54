import FairyClaw.Foundation.RecentSet

/-! # Recent frame ids

`_RecentFrameSet` keeps its ids in an ordered dictionary, the oldest first, and drops the oldest
ones beyond its limit. It is the bounded set of the keys added last that the inbound path relies on
(`FairyClaw.RecentFrameSet.keys_addAll`), so an id is forgotten only after as many other ids as the
limit were added (`FairyClaw.recent_frames_exact`).
-/

namespace FairyClaw

open Foundation

/-- `_RecentFrameSet`: the limit, and the keys of `_data`, the oldest first. -/
structure RecentFrameSet where
  limit : Nat
  data : List String
  positive : 0 < limit
  unique : data.Nodup

/-- `while len(self._data) > self.limit: self._data.popitem(last=False)` -/
def popOldest (limit : Nat) : List String → List String
  | [] => []
  | oldest :: newer =>
      if limit < (oldest :: newer).length then popOldest limit newer else oldest :: newer

/-- Popping leaves as many as the limit allows. -/
theorem popOldest_eq_drop {limit : Nat} (data : List String) :
    popOldest limit data = data.drop (data.length - limit) := by
  induction data with
  | nil => exact List.drop_nil.symm
  | cons oldest newer ih =>
      rw [popOldest, List.length_cons]
      split
      · rename_i exceeds
        rw [ih, show newer.length + 1 - limit = newer.length - limit + 1 by omega,
          List.drop_succ_cons]
      · rename_i fits
        rw [Nat.sub_eq_zero_of_le (Nat.le_of_not_lt fits), List.drop_zero]

/-- The newest ids, read from the end. -/
theorem reverse_popOldest {limit : Nat} (data : List String) :
    (popOldest limit data).reverse = data.reverse.take limit := by
  rw [popOldest_eq_drop, List.reverse_drop]
  rcases Nat.le_total data.length limit with fits | exceeds
  · rw [Nat.sub_eq_zero_of_le fits, Nat.sub_zero, List.take_of_length_le (by simp),
      List.take_of_length_le (by simpa using fits)]
  · rw [Nat.sub_sub_self exceeds]

namespace RecentFrameSet

/-- `_RecentFrameSet.__init__` -/
def init (limit : Int) : RecentFrameSet where
  limit := (max 1 limit).toNat
  data := []
  positive := by omega
  unique := List.nodup_nil

/-- `_RecentFrameSet.add` -/
def add (frames : RecentFrameSet) (frameId : String) : RecentFrameSet where
  limit := frames.limit
  data := popOldest frames.limit (frames.data.erase frameId ++ [frameId])
  positive := frames.positive
  unique := by
    rw [popOldest_eq_drop]
    refine List.Nodup.sublist (List.drop_sublist _ _) (List.Nodup.append ?_ ?_ ?_)
    · exact frames.unique.erase frameId
    · exact List.nodup_singleton frameId
    · rw [List.disjoint_singleton]
      exact frames.unique.not_mem_erase

/-- `_RecentFrameSet.__contains__` -/
instance : Membership String RecentFrameSet := ⟨fun frames frameId => frameId ∈ frames.data⟩

instance (frames : RecentFrameSet) (frameId : String) : Decidable (frameId ∈ frames) :=
  inferInstanceAs (Decidable (frameId ∈ frames.data))

/-- The ids of a sequence of calls are added one after the other. -/
def addAll (frames : RecentFrameSet) (added : List String) : RecentFrameSet :=
  added.foldl add frames

/-- Adding a frame leaves the limit. -/
@[simp] theorem limit_add (frames : RecentFrameSet) (frameId : String) :
    (frames.add frameId).limit = frames.limit := rfl

/-- Read from the newest one, an added frame comes first and the surplus leaves. -/
theorem reverse_data_add (frames : RecentFrameSet) (frameId : String) :
    (frames.add frameId).data.reverse =
      (frameId :: frames.data.reverse.filter (· ≠ frameId)).take frames.limit := by
  show (popOldest frames.limit _).reverse = _
  rw [reverse_popOldest, List.reverse_append, frames.unique.erase_eq_filter, ← List.filter_reverse]
  refine congrArg (fun kept => List.take _ (frameId :: kept)) (List.filter_congr ?_)
  exact fun other _ => Bool.eq_iff_iff.mpr (by simp)

/-- An added id is the newest one. -/
theorem getLast?_add (frames : RecentFrameSet) (frameId : String) :
    (frames.add frameId).data.getLast? = some frameId := by
  rw [← List.head?_reverse, reverse_data_add, List.head?_take, if_neg frames.positive.ne',
    List.head?_cons]

/-- The set of the calls is the set of the keys added last. -/
theorem keys_addAll (limit : Int) (added : List String) :
    ((init limit).addAll added).limit = (max 1 limit).toNat ∧
      ((init limit).addAll added).data.reverse =
        (RecentSet.ofLog added.reverse : RecentSet String (max 1 limit).toNat).keys := by
  induction added using List.reverseRecOn with
  | nil => exact ⟨rfl, rfl⟩
  | append_singleton earlier frameId ih =>
      obtain ⟨bound, same⟩ := ih
      have last : (init limit).addAll (earlier ++ [frameId]) =
          ((init limit).addAll earlier).add frameId := by
        rw [addAll, List.foldl_append]
        rfl
      rw [last, List.reverse_append, List.reverse_singleton, List.singleton_append,
        RecentSet.ofLog, RecentSet.keys_add, ← same, reverse_data_add, bound]
      exact ⟨bound, rfl⟩

end RecentFrameSet

/-- The ids that were added after the last time an id was. -/
def addedSince (frameId : String) (added : List String) : Finset String :=
  (added.reverse.takeWhile (· ≠ frameId)).toFinset

/-- **Recent frames.** After any calls, the set holds the ids added last, the newest last and each
once: all of them or as many as the limit. So an id is held exactly when it was added and fewer
other ids than the limit were added after it. -/
theorem recent_frames_exact (limit : Int) (added : List String) :
    let frames := (RecentFrameSet.init limit).addAll added
    let bound := (max 1 limit).toNat
    frames.data.reverse = (recentOrder added.reverse).take bound ∧
      frames.data.Nodup ∧ frames.data.length = min bound added.toFinset.card ∧
      (∀ frameId, frameId ∈ frames ↔
        frameId ∈ added ∧ (addedSince frameId added).card < bound) ∧
      ∀ frameId, (frames.add frameId).data.getLast? = some frameId := by
  obtain ⟨-, same⟩ := RecentFrameSet.keys_addAll limit added
  rw [RecentSet.keys_ofLog] at same
  refine ⟨same, RecentFrameSet.unique _, ?_, fun frameId => ?_, RecentFrameSet.getLast?_add _⟩
  · have length := congrArg List.length same
    rwa [List.length_reverse, List.length_take, length_recentOrder, List.toFinset_reverse] at length
  · show frameId ∈ RecentFrameSet.data _ ↔ _
    rw [← List.mem_reverse, same, mem_take_iff, mem_recentOrder, List.mem_reverse,
      takeWhile_recentOrder, length_recentOrder]
    rfl

end FairyClaw
