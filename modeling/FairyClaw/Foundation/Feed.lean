import FairyClaw.Foundation.Machine
import Mathlib.Data.Finset.Insert
import Mathlib.Data.Finset.Erase

/-! # A feed with late subscribers

Items are published to the subscribers of a feed, and the most recent ones are kept for those who
subscribe later. A delivery that is owed is made some time afterwards, in any order. Who subscribes
once and stays receives every item once, except those that are no longer kept when it subscribes
(`Foundation.Feed.due_eq`).
-/

namespace Foundation

/-- The subscribers, the published items in their order, and how many deliveries of an item to a
subscriber are owed and were made. -/
structure Feed (Subscriber Item : Type*) where
  subscribers : Finset Subscriber
  published : List Item
  owed : Subscriber → Item → Nat
  received : Subscriber → Item → Nat

/-- What may happen to a feed. -/
inductive FeedAction (Subscriber Item : Type*)
  | publish (item : Item)
  | subscribe (subscriber : Subscriber)
  | deliver (subscriber : Subscriber) (item : Item)
  | leave (subscriber : Subscriber)

/-- The last items of a list. -/
def recent {Item : Type*} (limit : Nat) (items : List Item) : List Item :=
  items.drop (items.length - limit)

/-- The recent images are the images of the recent items. -/
theorem recent_map {Item Image : Type*} (limit : Nat) (image : Item → Image) (items : List Item) :
    recent limit (items.map image) = (recent limit items).map image := by
  rw [recent, recent, List.length_map, List.map_drop]

/-- Items that are kept as they come are the last of all. -/
theorem recent_append {Item : Type*} (limit : Nat) (items : List Item) (item : Item) :
    recent limit (recent limit items ++ [item]) = recent limit (items ++ [item]) := by
  have front : recent limit items ++ [item] = (items ++ [item]).drop (items.length - limit) := by
    rw [recent, List.drop_append_of_le_length (Nat.sub_le _ _)]
  rw [front, recent, recent, List.drop_drop, List.length_drop, List.length_append,
    List.length_singleton]
  congr 1
  omega

namespace Feed

variable {Subscriber Item : Type*} [DecidableEq Subscriber] [DecidableEq Item] (limit : Nat)

/-- One delivery more. -/
def credit (account : Subscriber → Item → Nat) (subscriber : Subscriber) (item : Item) :
    Subscriber → Item → Nat :=
  fun each other =>
    if each = subscriber ∧ other = item then account each other + 1 else account each other

/-- One delivery less. -/
def debit (account : Subscriber → Item → Nat) (subscriber : Subscriber) (item : Item) :
    Subscriber → Item → Nat :=
  fun each other =>
    if each = subscriber ∧ other = item then account each other - 1 else account each other

/-- A step of the feed; an item is published once. -/
def step (feed : Feed Subscriber Item) :
    FeedAction Subscriber Item → Option (Feed Subscriber Item)
  | .publish item =>
      if item ∈ feed.published then none
      else some { feed with
        published := feed.published ++ [item]
        owed := fun each other =>
          feed.owed each other + if other = item ∧ each ∈ feed.subscribers then 1 else 0 }
  | .subscribe subscriber => some { feed with
      subscribers := insert subscriber feed.subscribers
      owed := fun each other => feed.owed each other +
        if each = subscriber then (recent limit feed.published).count other else 0 }
  | .deliver subscriber item =>
      if feed.owed subscriber item = 0 then none
      else some { feed with
        owed := debit feed.owed subscriber item
        received := credit feed.received subscriber item }
  | .leave subscriber => some { feed with subscribers := feed.subscribers.erase subscriber }

/-- Nothing is published yet. -/
structure Fresh (feed : Feed Subscriber Item) : Prop where
  subscribers : feed.subscribers = ∅
  published : feed.published = []
  owed : ∀ each other, feed.owed each other = 0
  received : ∀ each other, feed.received each other = 0

/-- The feed with its actions, which starts without items and subscribers. -/
def machine : Machine (Feed Subscriber Item) (FeedAction Subscriber Item) where
  initial := Fresh
  step := step limit

/-- Deliveries of an item to a subscriber, made or owed. -/
def due (feed : Feed Subscriber Item) (subscriber : Subscriber) (item : Item) : Nat :=
  feed.received subscriber item + feed.owed subscriber item

variable {limit} {feed next : Feed Subscriber Item}

/-- What each action does to the subscribers, the items and what is due. -/
theorem step_cases {action : FeedAction Subscriber Item} : feed.step limit action = some next →
    match action with
    | .publish item => item ∉ feed.published ∧ next.subscribers = feed.subscribers ∧
        next.published = feed.published ++ [item] ∧ ∀ each other, next.due each other =
          feed.due each other + if other = item ∧ each ∈ feed.subscribers then 1 else 0
    | .subscribe subscriber => next.subscribers = insert subscriber feed.subscribers ∧
        next.published = feed.published ∧ ∀ each other, next.due each other =
          feed.due each other +
            if each = subscriber then (recent limit feed.published).count other else 0
    | .deliver _ _ => next.subscribers = feed.subscribers ∧ next.published = feed.published ∧
        ∀ each other, next.due each other = feed.due each other
    | .leave subscriber => next.subscribers = feed.subscribers.erase subscriber ∧
        next.published = feed.published ∧ ∀ each other, next.due each other =
          feed.due each other := by
  intro stepped
  cases action with
  | publish item =>
      simp only [step] at stepped
      split at stepped
      · cases stepped
      · cases stepped
        exact ⟨‹_›, rfl, rfl, fun _ _ => (Nat.add_assoc _ _ _).symm⟩
  | subscribe subscriber =>
      cases stepped
      exact ⟨rfl, rfl, fun _ _ => (Nat.add_assoc _ _ _).symm⟩
  | deliver subscriber item =>
      simp only [step] at stepped
      split at stepped
      · cases stepped
      · rename_i owed
        cases stepped
        refine ⟨rfl, rfl, fun each other => ?_⟩
        simp only [due, credit, debit]
        split
        · rename_i same
          obtain ⟨rfl, rfl⟩ := same
          omega
        · rfl
  | leave subscriber =>
      cases stepped
      exact ⟨rfl, rfl, fun _ _ => rfl⟩

/-- Items are published once, and only published items are due. -/
structure Valid (feed : Feed Subscriber Item) : Prop where
  nodup : feed.published.Nodup
  published : ∀ each item, feed.due each item ≠ 0 → item ∈ feed.published

omit [DecidableEq Subscriber] [DecidableEq Item] in
/-- Nothing is due in a fresh feed. -/
theorem Fresh.due_eq (fresh : feed.Fresh) (each : Subscriber) (item : Item) :
    feed.due each item = 0 := by
  rw [due, fresh.owed, fresh.received]

/-- Every step keeps the feed valid. -/
theorem Valid.step (valid : feed.Valid) {action : FeedAction Subscriber Item}
    (stepped : feed.step limit action = some next) : next.Valid := by
  have effect := step_cases stepped
  cases action with
  | publish item =>
      obtain ⟨fresh, _, published, due⟩ := effect
      refine ⟨?_, fun each other owed => ?_⟩
      · rw [published]
        exact valid.nodup.append (List.nodup_singleton item) (by simpa using fresh)
      · rw [published, List.mem_append, List.mem_singleton]
        rw [due] at owed
        by_cases same : other = item
        · exact Or.inr same
        · rw [if_neg fun both => same both.1, Nat.add_zero] at owed
          exact Or.inl (valid.published each other owed)
  | subscribe subscriber =>
      obtain ⟨_, published, due⟩ := effect
      refine ⟨published ▸ valid.nodup, fun each other owed => ?_⟩
      rw [published]
      rw [due] at owed
      by_cases before : feed.due each other = 0
      · rw [before, Nat.zero_add] at owed
        split at owed
        · exact List.mem_of_mem_drop (List.count_pos_iff.mp (Nat.pos_of_ne_zero owed))
        · exact absurd rfl owed
      · exact valid.published each other before
  | deliver | leave =>
      obtain ⟨_, published, due⟩ := effect
      refine ⟨published ▸ valid.nodup, fun each other owed => ?_⟩
      rw [published]
      rw [due] at owed
      exact valid.published each other owed

/-- The feed is valid in every reachable state. -/
theorem reachable_valid {guard : Machine.Guard (Feed Subscriber Item) (FeedAction Subscriber Item)}
    (reached : (machine limit).Reachable guard feed) : feed.Valid := by
  refine reached.invariant (fun start fresh => ⟨?_, fun each item owed => ?_⟩)
    fun _ _ _ valid _ stepped => valid.step stepped
  · rw [fresh.published]
    exact List.nodup_nil
  · exact absurd (fresh.due_eq each item) owed

/-- A subscriber that has not subscribed. -/
structure Outside (subscriber : Subscriber) (feed : Feed Subscriber Item) : Prop where
  apart : subscriber ∉ feed.subscribers
  none : ∀ item, feed.due subscriber item = 0

/-- A subscriber that stays since it subscribed to the earlier feed. -/
structure Inside (limit : Nat) (subscriber : Subscriber) (feed before : Feed Subscriber Item) :
    Prop where
  valid : feed.Valid
  stays : subscriber ∈ feed.subscribers
  known : before.published ⊆ feed.published
  each : ∀ item ∈ feed.published, feed.due subscriber item =
    if item ∈ before.published ∧ item ∉ recent limit before.published then 0 else 1

variable {subscriber : Subscriber} {before : Feed Subscriber Item}

/-- A subscriber stays outside until it subscribes. -/
theorem Outside.step (outside : feed.Outside subscriber)
    {action : FeedAction Subscriber Item} (other : action ≠ .subscribe subscriber)
    (stepped : feed.step limit action = some next) : next.Outside subscriber := by
  have effect := step_cases stepped
  cases action with
  | publish item =>
      obtain ⟨_, same, _, due⟩ := effect
      refine ⟨same ▸ outside.apart, fun item => ?_⟩
      rw [due, outside.none, if_neg fun both => outside.apart both.2]
  | subscribe joined =>
      obtain ⟨same, _, due⟩ := effect
      have different : subscriber ≠ joined := fun equal => other (equal ▸ rfl)
      refine ⟨?_, fun item => ?_⟩
      · rw [same, Finset.mem_insert]
        exact fun either => either.elim different outside.apart
      · rw [due, outside.none, if_neg different]
  | deliver =>
      obtain ⟨same, _, due⟩ := effect
      exact ⟨same ▸ outside.apart, fun item => (due _ item).trans (outside.none item)⟩
  | leave gone =>
      obtain ⟨same, _, due⟩ := effect
      refine ⟨?_, fun item => (due _ item).trans (outside.none item)⟩
      rw [same]
      exact fun member => outside.apart (Finset.mem_of_mem_erase member)

/-- Before it subscribes, nothing is due to a subscriber. -/
theorem reachable_outside (reached : (machine limit).Reachable
    (fun _ action => action ≠ .subscribe subscriber) feed) : feed.Outside subscriber := by
  refine reached.invariant (fun start fresh => ⟨?_, fresh.due_eq subscriber⟩)
    fun _ _ _ outside other stepped => outside.step other stepped
  rw [fresh.subscribers]
  exact Finset.notMem_empty subscriber

/-- To subscribe is to be owed what is kept. -/
theorem Outside.subscribe (outside : before.Outside subscriber) (valid : before.Valid)
    (joined : before.step limit (.subscribe subscriber) = some feed) :
    feed.Inside limit subscriber before := by
  obtain ⟨subscribers, published, due⟩ := step_cases joined
  refine ⟨valid.step joined, ?_, fun _ => published ▸ id, fun item member => ?_⟩
  · rw [subscribers]
    exact Finset.mem_insert_self _ _
  · rw [due, outside.none, Nat.zero_add, if_pos rfl]
    rw [published] at member
    have once : (recent limit before.published).count item ≤ 1 :=
      List.nodup_iff_count_le_one.mp (valid.nodup.sublist (List.drop_sublist _ _)) item
    by_cases kept : item ∈ recent limit before.published
    · have positive := List.count_pos_iff.mpr kept
      rw [if_neg fun both => both.2 kept]
      omega
    · rw [if_pos ⟨member, kept⟩, List.count_eq_zero_of_not_mem kept]

/-- A subscriber stays inside until it leaves. -/
theorem Inside.step (inside : feed.Inside limit subscriber before)
    {action : FeedAction Subscriber Item} (unjoined : action ≠ .subscribe subscriber)
    (unleft : action ≠ .leave subscriber) (stepped : feed.step limit action = some next) :
    next.Inside limit subscriber before := by
  have effect := step_cases stepped
  have sound := inside.valid.step stepped
  cases action with
  | publish new =>
      obtain ⟨fresh, same, grown, owed⟩ := effect
      refine ⟨sound, same ▸ inside.stays, ?_, fun item member => ?_⟩
      · rw [grown]
        exact fun item member => List.mem_append_left _ (inside.known member)
      rw [owed]
      rw [grown] at member
      rcases List.mem_append.mp member with old | last
      · have other : item ≠ new := fun equal => fresh (equal ▸ old)
        have unchanged : (if item = new ∧ subscriber ∈ feed.subscribers then 1 else 0) = 0 :=
          if_neg fun both => other both.1
        rw [unchanged, Nat.add_zero, inside.each item old]
      · obtain rfl := List.mem_singleton.mp last
        have nothing : feed.due subscriber item = 0 := by
          by_contra owing
          exact fresh (inside.valid.published subscriber item owing)
        rw [nothing, if_pos ⟨rfl, inside.stays⟩, if_neg fun both => fresh (inside.known both.1)]
  | subscribe another =>
      obtain ⟨same, still, owed⟩ := effect
      have different : subscriber ≠ another := fun equal => unjoined (equal ▸ rfl)
      refine ⟨sound, ?_, still ▸ inside.known, fun item member => ?_⟩
      · rw [same]
        exact Finset.mem_insert_of_mem inside.stays
      · rw [owed, if_neg different, Nat.add_zero, inside.each item (still ▸ member)]
  | deliver =>
      obtain ⟨same, still, owed⟩ := effect
      exact ⟨sound, same ▸ inside.stays, still ▸ inside.known,
        fun item member => (owed _ item).trans (inside.each item (still ▸ member))⟩
  | leave another =>
      obtain ⟨same, still, owed⟩ := effect
      have different : subscriber ≠ another := fun equal => unleft (equal ▸ rfl)
      refine ⟨sound, ?_, still ▸ inside.known,
        fun item member => (owed _ item).trans (inside.each item (still ▸ member))⟩
      rw [same]
      exact Finset.mem_erase.mpr ⟨different, inside.stays⟩

/-- **Once.** To a subscriber that subscribes once and stays, every published item is due once,
except those that were published before and are not kept. -/
theorem due_eq {after final : Feed Subscriber Item}
    (reached : (machine limit).Reachable (fun _ action => action ≠ .subscribe subscriber) before)
    (joined : before.step limit (.subscribe subscriber) = some after)
    (stayed : (machine limit).Steps
      (fun _ action => action ≠ .subscribe subscriber ∧ action ≠ .leave subscriber) after final)
    {item : Item} (member : item ∈ final.published) :
    final.due subscriber item =
      if item ∈ before.published ∧ item ∉ recent limit before.published then 0 else 1 := by
  have begins := (reachable_outside reached).subscribe (reachable_valid reached) joined
  have preserved (earlier : Feed Subscriber Item) (action : FeedAction Subscriber Item)
      (later : Feed Subscriber Item) (inside : earlier.Inside limit subscriber before)
      (others : action ≠ .subscribe subscriber ∧ action ≠ .leave subscriber)
      (stepped : earlier.step limit action = some later) :
      later.Inside limit subscriber before := inside.step others.1 others.2 stepped
  have stays : final.Inside limit subscriber before := stayed.invariant preserved begins
  exact stays.each item member

end Feed

end Foundation
