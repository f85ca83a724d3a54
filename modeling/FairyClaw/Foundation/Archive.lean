import Mathlib.Data.List.Nodup

/-! # Archives with retired entries

An archive lists values under keys, and each entry is active or retired. Filing a value under a key
that is there makes the entry active again and leaves its value alone. So the values that are filed
are found again, each under its key and once, when no two of them share a key and no earlier entry
has another value under it (`Foundation.Archive.holds_fileAll`).
-/

namespace Foundation

/-- A value under a key, in use or put aside. -/
structure Filed (Key Value : Type) where
  key : Key
  value : Value
  active : Bool := true

namespace Archive

variable {Key Value : Type} [DecidableEq Key]

/-- File a value under a key. -/
def file (key : Key) (value : Value) : List (Filed Key Value) → List (Filed Key Value)
  | [] => [{ key := key, value := value }]
  | entry :: rest =>
      if entry.key = key then { entry with active := true } :: rest
      else entry :: file key value rest

/-- File values one after the other. -/
def fileAll (archive : List (Filed Key Value)) : List (Key × Value) → List (Filed Key Value)
  | [] => archive
  | (key, value) :: rest => fileAll (file key value archive) rest

/-- Retire the entries under the chosen keys. -/
def retire (chosen : Key → Bool) (archive : List (Filed Key Value)) : List (Filed Key Value) :=
  archive.map fun entry => if chosen entry.key then { entry with active := false } else entry

/-- The entries under a key. -/
def under (key : Key) (archive : List (Filed Key Value)) : List (Filed Key Value) :=
  archive.filter fun entry => entry.key = key

/-- No two entries have the same key. -/
def Distinct (archive : List (Filed Key Value)) : Prop := (archive.map Filed.key).Nodup

/-- The only entry under the key is active and has the value. -/
def Holds (archive : List (Filed Key Value)) (key : Key) (value : Value) : Prop :=
  under key archive = [{ key := key, value := value }]

/-- No entry has another value under the key. -/
def Agrees (archive : List (Filed Key Value)) (key : Key) (value : Value) : Prop :=
  ∀ entry ∈ archive, entry.key = key → entry.value = value

variable {archive : List (Filed Key Value)} {key other : Key} {value : Value}

/-- The first entry is listed under its own key. -/
theorem under_cons_self (entry : Filed Key Value) (rest : List (Filed Key Value)) :
    under entry.key (entry :: rest) = entry :: under entry.key rest :=
  List.filter_cons_of_pos (decide_eq_true rfl)

/-- The first entry is not listed under another key. -/
theorem under_cons_of_ne {entry : Filed Key Value} (rest : List (Filed Key Value))
    (different : entry.key ≠ key) : under key (entry :: rest) = under key rest :=
  List.filter_cons_of_neg fun same => different (of_decide_eq_true same)

/-- Filing under a new key adds the value; under a known key the entry is in use again. -/
theorem under_file_self : under key (file key value archive) =
    match under key archive with
    | [] => [{ key := key, value := value }]
    | entry :: rest => { entry with active := true } :: rest := by
  induction archive with
  | nil => exact under_cons_self _ _
  | cons entry rest ih =>
      by_cases same : entry.key = key
      · subst same
        rw [file, if_pos rfl, under_cons_self]
        exact under_cons_self { entry with active := true } rest
      · rw [file, if_neg same, under_cons_of_ne _ same, under_cons_of_ne _ same]
        exact ih

/-- What is filed under other keys stays. -/
theorem under_file_of_ne (different : other ≠ key) :
    under other (file key value archive) = under other archive := by
  induction archive with
  | nil => exact under_cons_of_ne _ different.symm
  | cons entry rest ih =>
      by_cases same : entry.key = key
      · have apart : entry.key ≠ other := fun here => different (here.symm.trans same)
        rw [file, if_pos same, under_cons_of_ne _ apart]
        exact under_cons_of_ne rest apart
      · rw [file, if_neg same]
        by_cases here : entry.key = other
        · subst here
          rw [under_cons_self, under_cons_self, ih]
        · rw [under_cons_of_ne _ here, under_cons_of_ne _ here, ih]

/-- Filing leaves every value where it is, and adds its own at most. -/
theorem mem_file {entry : Filed Key Value} (member : entry ∈ file key value archive) :
    (entry.key = key ∧ entry.value = value) ∨
      ∃ old ∈ archive, old.key = entry.key ∧ old.value = entry.value := by
  induction archive with
  | nil =>
      rw [file, List.mem_singleton] at member
      subst member
      exact Or.inl ⟨rfl, rfl⟩
  | cons first rest ih =>
      rw [file] at member
      split at member
      · rcases List.mem_cons.mp member with rfl | member
        · exact Or.inr ⟨first, List.mem_cons_self, rfl, rfl⟩
        · exact Or.inr ⟨entry, List.mem_cons_of_mem _ member, rfl, rfl⟩
      · rcases List.mem_cons.mp member with rfl | member
        · exact Or.inr ⟨entry, List.mem_cons_self, rfl, rfl⟩
        · refine (ih member).imp_right fun ⟨old, inside, same⟩ => ?_
          exact ⟨old, List.mem_cons_of_mem _ inside, same⟩

/-- Filing brings no key but its own. -/
theorem mem_keys_file {entry : Key} (member : entry ∈ (file key value archive).map Filed.key) :
    entry = key ∨ entry ∈ archive.map Filed.key := by
  obtain ⟨found, inside, rfl⟩ := List.mem_map.mp member
  rcases mem_file inside with ⟨same, -⟩ | ⟨old, earlier, same, -⟩
  · exact Or.inl same
  · exact Or.inr (List.mem_map.mpr ⟨old, earlier, same⟩)

/-- Filing keeps the keys apart. -/
theorem Distinct.file (distinct : Distinct archive) (key : Key) (value : Value) :
    Distinct (file key value archive) := by
  induction archive with
  | nil => exact List.nodup_singleton _
  | cons entry rest ih =>
      obtain ⟨apart, distinct⟩ := List.nodup_cons.mp distinct
      rw [Archive.file]
      split
      · exact List.nodup_cons.mpr ⟨apart, distinct⟩
      · next different =>
          refine List.nodup_cons.mpr ⟨fun inside => ?_, ih distinct⟩
          exact (mem_keys_file inside).elim different apart

/-- A value is found where it is filed unless another one is there. -/
theorem holds_file (distinct : Distinct archive) (agrees : Agrees archive key value) :
    Holds (file key value archive) key value := by
  rw [Holds, under_file_self]
  cases found : under key archive with
  | nil => rfl
  | cons entry rest =>
      have inside (other : Filed Key Value) (member : other ∈ under key archive) :
          other ∈ archive ∧ other.key = key :=
        ⟨(List.mem_filter.mp member).1, of_decide_eq_true (List.mem_filter.mp member).2⟩
      have alone : (entry :: rest).map Filed.key |>.Nodup := by
        rw [← found]
        exact distinct.sublist (List.filter_sublist.map _)
      rw [found] at inside
      obtain ⟨member, same⟩ := inside entry List.mem_cons_self
      cases rest with
      | nil =>
          obtain ⟨entryKey, entryValue, active⟩ := entry
          cases same
          rw [← agrees _ member rfl]
      | cons second rest =>
          have again := (inside second (List.mem_cons_of_mem _ List.mem_cons_self)).2
          refine absurd ?_ (List.nodup_cons.mp alone).1
          rw [same, ← again]
          exact List.mem_cons_self

/-- What the archive holds stays there, whatever is filed. -/
theorem Holds.file (holds : Holds archive other value) (key : Key) (filed : Value) :
    Holds (file key filed archive) other value := by
  by_cases same : other = key
  · subst same
    rw [Holds, under_file_self, holds]
  · rw [Holds, under_file_of_ne same]
    exact holds

/-- What the archive holds stays there, whatever values are filed. -/
theorem Holds.fileAll (values : List (Key × Value)) : ∀ {archive : List (Filed Key Value)},
    Holds archive key value → Holds (fileAll archive values) key value := by
  induction values with
  | nil => exact fun holds => holds
  | cons first rest ih => exact fun holds => ih (holds.file first.1 first.2)

/-- Filing one value more is filing it last. -/
theorem fileAll_append (values : List (Key × Value)) (key : Key) (value : Value) :
    ∀ archive : List (Filed Key Value),
      fileAll archive (values ++ [(key, value)]) = file key value (fileAll archive values) := by
  induction values with
  | nil => exact fun _ => rfl
  | cons first rest ih => exact fun archive => ih (file first.1 first.2 archive)

/-- Filing many values keeps the keys apart. -/
theorem Distinct.fileAll (values : List (Key × Value)) : ∀ {archive : List (Filed Key Value)},
    Distinct archive → Distinct (fileAll archive values) := by
  induction values with
  | nil => exact fun distinct => distinct
  | cons first rest ih => exact fun distinct => ih (distinct.file first.1 first.2)

/-- Each entry has a filed value, or the key and the value of an older entry. -/
theorem mem_fileAll (values : List (Key × Value)) : ∀ {archive : List (Filed Key Value)}
    {entry : Filed Key Value}, entry ∈ fileAll archive values →
      (entry.key, entry.value) ∈ values ∨
        ∃ old ∈ archive, old.key = entry.key ∧ old.value = entry.value := by
  induction values with
  | nil => exact fun member => Or.inr ⟨_, member, rfl, rfl⟩
  | cons first rest ih =>
      intro archive entry member
      rcases ih member with later | ⟨old, inside, sameKey, sameValue⟩
      · exact Or.inl (List.mem_cons_of_mem _ later)
      · rw [← sameKey, ← sameValue]
        refine (mem_file inside).imp_left fun ⟨isKey, isValue⟩ => ?_
        rw [isKey, isValue]
        exact List.mem_cons_self

/-- Values that do not get in each other's way are all held. -/
theorem holds_fileAll {values : List (Key × Value)} : ∀ {archive : List (Filed Key Value)},
    Distinct archive → (∀ entry ∈ values, Agrees archive entry.1 entry.2) →
    (∀ first ∈ values, ∀ second ∈ values, first.1 = second.1 → first.2 = second.2) →
    ∀ entry ∈ values, Holds (fileAll archive values) entry.1 entry.2 := by
  induction values with
  | nil => exact fun _ _ _ entry member => absurd member List.not_mem_nil
  | cons first rest ih =>
      intro archive distinct agrees apart entry member
      rcases List.mem_cons.mp member with rfl | later
      · exact (holds_file distinct (agrees entry member)).fileAll rest
      · refine ih (distinct.file _ _) (fun entry later old inside same => ?_)
          (fun one here two there => apart one (List.mem_cons_of_mem _ here) two
            (List.mem_cons_of_mem _ there)) entry later
        rcases mem_file inside with ⟨isKey, isValue⟩ | ⟨earlier, present, sameKey, sameValue⟩
        · rw [isValue]
          exact apart first List.mem_cons_self entry (List.mem_cons_of_mem _ later)
            (isKey.symm.trans same)
        · rw [← sameValue]
          exact agrees entry (List.mem_cons_of_mem _ later) earlier present (sameKey.trans same)

/-! ## Retired entries -/

/-- An entry under another key is still there. -/
theorem mem_file_of_ne {entry : Filed Key Value} (member : entry ∈ archive)
    (apart : entry.key ≠ key) : entry ∈ file key value archive := by
  induction archive with
  | nil => cases member
  | cons first rest ih =>
      rw [file]
      split
      · next same =>
          rcases List.mem_cons.mp member with rfl | later
          · exact absurd same apart
          · exact List.mem_cons_of_mem _ later
      · rcases List.mem_cons.mp member with rfl | later
        · exact List.mem_cons_self
        · exact List.mem_cons_of_mem _ (ih later)

/-- An entry whose key none of the values has is still there. -/
theorem mem_fileAll_of_not_mem (values : List (Key × Value)) : ∀ {archive : List (Filed Key Value)}
    {entry : Filed Key Value}, entry ∈ archive → entry.key ∉ values.map Prod.fst →
      entry ∈ fileAll archive values := by
  induction values with
  | nil => exact fun member _ => member
  | cons first rest ih =>
      intro archive entry member apart
      obtain ⟨here, later⟩ := not_or.mp (List.mem_cons.not.mp apart)
      exact ih (mem_file_of_ne member here) later

/-- Filing retires nothing. -/
theorem retired_of_file {entry : Filed Key Value} (member : entry ∈ file key value archive)
    (retired : entry.active = false) : entry ∈ archive := by
  induction archive with
  | nil =>
      rw [file, List.mem_singleton] at member
      subst member
      cases retired
  | cons first rest ih =>
      rw [file] at member
      split at member
      · rcases List.mem_cons.mp member with rfl | later
        · cases retired
        · exact List.mem_cons_of_mem _ later
      · rcases List.mem_cons.mp member with rfl | later
        · exact List.mem_cons_self
        · exact List.mem_cons_of_mem _ (ih later)

/-- What is filed under a key is active. -/
theorem Distinct.active_file {entry : Filed Key Value} (distinct : Distinct archive)
    (member : entry ∈ Archive.file key value archive) (same : entry.key = key) :
    entry.active = true := by
  induction archive with
  | nil =>
      rw [Archive.file, List.mem_singleton] at member
      rw [member]
  | cons first rest ih =>
      obtain ⟨alone, distinct⟩ := List.nodup_cons.mp distinct
      rw [Archive.file] at member
      split at member
      · next here =>
          rcases List.mem_cons.mp member with rfl | later
          · rfl
          · exact absurd (List.mem_map.mpr ⟨entry, later, same.trans here.symm⟩) alone
      · next apart =>
          rcases List.mem_cons.mp member with rfl | later
          · exact absurd same apart
          · exact ih distinct later

/-- An entry that is still retired was there, and nothing was filed under its key. -/
theorem Distinct.retired_fileAll (values : List (Key × Value)) :
    ∀ {archive : List (Filed Key Value)} {entry : Filed Key Value}, Distinct archive →
      entry ∈ Archive.fileAll archive values → entry.active = false →
      entry ∈ archive ∧ entry.key ∉ values.map Prod.fst := by
  induction values with
  | nil => exact fun _ member _ => ⟨member, List.not_mem_nil⟩
  | cons first rest ih =>
      intro archive entry distinct member retired
      obtain ⟨inside, later⟩ := ih (distinct.file first.1 first.2) member retired
      refine ⟨retired_of_file inside retired, fun filed => ?_⟩
      rcases List.mem_cons.mp filed with here | there
      · exact Bool.false_ne_true (retired.symm.trans (distinct.active_file inside here))
      · exact later there

/-- What is put aside after filing was put aside before. -/
theorem retired_of_fileAll (values : List (Key × Value)) :
    ∀ {archive : List (Filed Key Value)} {entry : Filed Key Value},
      entry ∈ fileAll archive values → entry.active = false → entry ∈ archive := by
  induction values with
  | nil => exact fun member _ => member
  | cons first rest ih => exact fun member retired => retired_of_file (ih member retired) retired

omit [DecidableEq Key] in
/-- Putting entries aside changes no key. -/
theorem keys_retire (chosen : Key → Bool) (archive : List (Filed Key Value)) :
    (retire chosen archive).map Filed.key = archive.map Filed.key := by
  rw [retire, List.map_map]
  refine List.map_congr_left fun entry _ => ?_
  simp only [Function.comp_apply]
  split <;> rfl

omit [DecidableEq Key] in
/-- Putting entries aside keeps the keys apart. -/
theorem Distinct.retire (distinct : Distinct archive) (chosen : Key → Bool) :
    Distinct (retire chosen archive) := by
  rw [Distinct, keys_retire]
  exact distinct

omit [DecidableEq Key] in
/-- An entry is as before, but in use only if it was and was not chosen. -/
theorem mem_retire {chosen : Key → Bool} {entry : Filed Key Value}
    (member : entry ∈ retire chosen archive) :
    ∃ old ∈ archive, old.key = entry.key ∧ old.value = entry.value ∧
      (entry.active = true → old.active = true ∧ chosen entry.key = false) := by
  obtain ⟨old, inside, rfl⟩ := List.mem_map.mp member
  refine ⟨old, inside, ?_⟩
  split
  · exact ⟨rfl, rfl, fun active => absurd active Bool.false_ne_true⟩
  · next spared => exact ⟨rfl, rfl, fun active => ⟨active, Bool.eq_false_iff.mpr spared⟩⟩

end Archive

end Foundation
