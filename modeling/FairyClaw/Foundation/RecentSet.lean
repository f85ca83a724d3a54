import Mathlib.Data.Finset.Card

/-! # Bounded sets of recent keys

A bounded set keeps the keys added last, each key once, up to its limit. So it holds every
key since whose last addition fewer than that many distinct keys were added
(`Foundation.RecentSet.mem_ofLog`).
-/

namespace Foundation

variable {Key : Type} [DecidableEq Key]

/-- At most `limit` distinct keys, the newest first. -/
structure RecentSet (Key : Type) (limit : Nat) where
  keys : List Key
  nodup : keys.Nodup
  bounded : keys.length ≤ limit

/-- A log's keys, each once, the newest first; the log has its newest key first, too. -/
def recentOrder : List Key → List Key
  | [] => []
  | key :: older => key :: (recentOrder older).filter (· ≠ key)

/-- The keys in recent order are those of the log. -/
theorem mem_recentOrder {key : Key} {log : List Key} : key ∈ recentOrder log ↔ key ∈ log := by
  induction log with
  | nil => rfl
  | cons newest older ih =>
      by_cases same : key = newest
      · simp [recentOrder, same]
      · simp [recentOrder, same, ih]

/-- Each key comes once in recent order. -/
theorem nodup_recentOrder (log : List Key) : (recentOrder log).Nodup := by
  induction log with
  | nil => exact List.nodup_nil
  | cons newest older ih =>
      refine List.nodup_cons.mpr ⟨?_, ih.filter _⟩
      simp

/-- There are as many keys in recent order as different ones in the log. -/
theorem length_recentOrder (log : List Key) : (recentOrder log).length = log.toFinset.card := by
  rw [← List.toFinset_card_of_nodup (nodup_recentOrder log)]
  congr 1
  ext key
  simp [mem_recentOrder]

/-- Before a key stand the keys added since. -/
theorem takeWhile_recentOrder (key : Key) (log : List Key) :
    (recentOrder log).takeWhile (· ≠ key) = recentOrder (log.takeWhile (· ≠ key)) := by
  induction log with
  | nil => rfl
  | cons newest older ih =>
      by_cases same : newest = key
      · simp [recentOrder, same]
      · have kept : ((recentOrder older).filter (· ≠ newest)).takeWhile (· ≠ key) =
            ((recentOrder older).takeWhile (· ≠ key)).filter (· ≠ newest) := by
          clear ih
          induction recentOrder older with
          | nil => rfl
          | cons first rest ih =>
              by_cases isKey : first = key
              · have other : first ≠ newest := fun equal => same (equal.symm.trans isKey)
                simp [isKey, Ne.symm same]
              · by_cases isNewest : first = newest
                · simpa [isKey, isNewest, same] using ih
                · simpa [isKey, isNewest, same] using ih
        simp only [recentOrder, List.takeWhile_cons, ne_eq, same, not_false_eq_true, decide_true,
          ↓reduceIte]
        rw [kept, ih]

/-- A key is in a beginning when fewer items than its length stand before the key. -/
theorem mem_take_iff {key : Key} {list : List Key} {count : Nat} :
    key ∈ list.take count ↔ key ∈ list ∧ (list.takeWhile (· ≠ key)).length < count := by
  induction list generalizing count with
  | nil => simp
  | cons first rest ih =>
      cases count with
      | zero => simp
      | succ count =>
          by_cases same : first = key
          · simp [same]
          · simp [same, ih, Ne.symm same]

/-- Taking a key out of a beginning, or out of the whole, leaves the same beginning. -/
theorem take_filter_take {keys : List Key} (nodup : keys.Nodup) (key : Key) (count : Nat) :
    ((keys.take (count + 1)).filter (· ≠ key)).take count =
      (keys.filter (· ≠ key)).take count := by
  conv_rhs => rw [← List.take_append_drop (count + 1) keys, List.filter_append]
  rcases Nat.lt_or_ge count keys.length with more | all
  · have once : (keys.take (count + 1)).count key ≤ 1 :=
      List.nodup_iff_count_le_one.mp (nodup.sublist (List.take_sublist _ _)) key
    have parts := List.length_eq_countP_add_countP (· == key) (l := keys.take (count + 1))
    have others : (keys.take (count + 1)).countP (fun other => decide ¬(other == key) = true) =
        ((keys.take (count + 1)).filter (· ≠ key)).length := by
      simp [List.countP_eq_length_filter]
    have taken : (keys.take (count + 1)).length = count + 1 := by
      rw [List.length_take]
      omega
    rw [List.take_append_of_le_length]
    rw [taken, others] at parts
    unfold List.count at once
    omega
  · rw [List.drop_eq_nil_of_le (by omega), List.filter_nil, List.append_nil]

namespace RecentSet

variable {limit : Nat}

instance : Membership Key (RecentSet Key limit) := ⟨fun recent key => key ∈ recent.keys⟩

instance (recent : RecentSet Key limit) (key : Key) : Decidable (key ∈ recent) :=
  inferInstanceAs (Decidable (key ∈ recent.keys))

/-- The set without keys. -/
def empty : RecentSet Key limit := ⟨[], List.nodup_nil, Nat.zero_le _⟩

/-- Add a key as the newest one, and drop the oldest ones beyond the limit. -/
def add (recent : RecentSet Key limit) (key : Key) : RecentSet Key limit where
  keys := (key :: recent.keys.filter (· ≠ key)).take limit
  nodup := by
    refine (List.nodup_cons.mpr ⟨?_, recent.nodup.filter _⟩).sublist (List.take_sublist _ _)
    simp
  bounded := List.length_take_le _ _

/-- An added key comes first, and the oldest one leaves when there are too many. -/
theorem keys_add (recent : RecentSet Key limit) (key : Key) :
    (recent.add key).keys = (key :: recent.keys.filter (· ≠ key)).take limit := rfl

/-- The set after a log of additions, the newest first. -/
def ofLog : List Key → RecentSet Key limit
  | [] => empty
  | key :: older => (ofLog older).add key

/-- The set of a log holds the most recent keys of it. -/
theorem keys_ofLog (log : List Key) :
    (ofLog log : RecentSet Key limit).keys = (recentOrder log).take limit := by
  induction log with
  | nil => exact List.take_nil.symm
  | cons key older ih =>
      cases limit with
      | zero => rfl
      | succ count =>
          rw [ofLog, keys_add, ih, recentOrder, List.take_succ_cons, List.take_succ_cons,
            take_filter_take (nodup_recentOrder older)]

/-- A key is kept when fewer distinct keys than the limit were added since. -/
theorem mem_ofLog {key : Key} {log : List Key} (added : key ∈ log)
    (recent : (log.takeWhile (· ≠ key)).toFinset.card < limit) :
    key ∈ (ofLog log : RecentSet Key limit) := by
  show key ∈ (ofLog log : RecentSet Key limit).keys
  rw [keys_ofLog]
  refine mem_take_iff.mpr ⟨mem_recentOrder.mpr added, ?_⟩
  rwa [takeWhile_recentOrder, length_recentOrder]

/-- Only added keys are kept. -/
theorem mem_of_mem_ofLog {key : Key} {log : List Key}
    (inside : key ∈ (ofLog log : RecentSet Key limit)) : key ∈ log := by
  have kept : key ∈ (ofLog log : RecentSet Key limit).keys := inside
  rw [keys_ofLog] at kept
  exact mem_recentOrder.mp (List.mem_of_mem_take kept)

end RecentSet

end Foundation
