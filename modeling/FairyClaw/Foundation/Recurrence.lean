import Mathlib.Data.Int.LeastGreatest
import Mathlib.Order.Bounds.Basic

/-! # Recurring moments

A set of moments gives each moment its next one (`Foundation.nextIn`). A search that sees only a
limited distance ahead produces the same moments from a start as a set that never ends exactly when
it searches the same moments and each lies within its reach of the one before
(`Foundation.repeated_eq_iff`).
-/

namespace Foundation

/-- The members of a set after a moment. -/
def after (moments : Set Int) (now : Int) : Set Int := {moment ∈ moments | now < moment}

open Classical in
/-- The next member of a set after a moment. -/
noncomputable def nextIn (moments : Set Int) (now : Int) : Option Int :=
  if found : ∃ moment, IsLeast (after moments now) moment then some found.choose else none

/-- The moments that come from a start when a choice of the next one is repeated. -/
def repeated (next : Int → Option Int) (start : Int) : Nat → Option Int
  | 0 => some start
  | count + 1 => (repeated next start count).bind next

/-- The same for a choice that may raise an exception (the outer `none`). -/
def attempted (next : Int → Option (Option Int)) (start : Int) : Nat → Option (Option Int)
  | 0 => some (some start)
  | count + 1 => (attempted next start count).bind fun
      | none => some none
      | some last => next last

/-- A search finds the next member of a set that is within its reach. -/
def Searches (moments : Set Int) (reach : Int) (next : Int → Option Int) : Prop :=
  ∀ now moment, next now = some moment ↔
    IsLeast (after moments now) moment ∧ moment ≤ now + reach

variable {moments others : Set Int} {now moment start reach : Int}

/-- If there is a later moment there is a next one. -/
theorem exists_isLeast_after (present : (after moments now).Nonempty) :
    ∃ moment, IsLeast (after moments now) moment := by
  classical
  obtain ⟨first, member, least⟩ := Int.exists_least_of_bdd
    ⟨now, fun moment (member : moment ∈ after moments now) => Int.le_of_lt member.2⟩ present
  exact ⟨first, member, fun moment member => least moment member⟩

/-- What is found is the least later moment. -/
theorem nextIn_eq_some_iff : nextIn moments now = some moment ↔
    IsLeast (after moments now) moment := by
  unfold nextIn
  split
  · rename_i found
    rw [Option.some_inj]
    exact ⟨fun same => same ▸ found.choose_spec, found.choose_spec.unique⟩
  · rename_i missing
    exact iff_of_false nofun fun least => missing ⟨moment, least⟩

/-- Nothing is found when no moment is later. -/
theorem nextIn_eq_none_iff : nextIn moments now = none ↔ after moments now = ∅ := by
  rw [Option.eq_none_iff_forall_ne_some]
  constructor
  · intro missing
    by_contra present
    obtain ⟨moment, least⟩ := exists_isLeast_after (Set.nonempty_iff_ne_empty.mpr present)
    exact missing moment (nextIn_eq_some_iff.mpr least)
  · intro empty moment found
    have member := (nextIn_eq_some_iff.mp found).1
    rw [empty] at member
    exact member

/-- A set that has a member after every moment gives ever later moments. -/
theorem le_of_repeated_nextIn (endless : ∀ now, (after moments now).Nonempty) :
    ∀ count : Nat, ∃ moment, repeated (nextIn moments) start count = some moment ∧
      start + count ≤ moment
  | 0 => ⟨start, rfl, by simp⟩
  | count + 1 => by
      obtain ⟨last, reached, later⟩ := le_of_repeated_nextIn endless count
      obtain ⟨moment, least⟩ := exists_isLeast_after (endless last)
      refine ⟨moment, ?_, ?_⟩
      · rw [repeated, reached, Option.bind_some, nextIn_eq_some_iff.mpr least]
      · have step := least.1.2
        omega

/-- Each moment from the start on lies before the next of two consecutive repeated moments. -/
theorem exists_repeated_around (endless : ∀ now, (after moments now).Nonempty)
    (reached : start ≤ now) : ∃ (count : Nat) (last moment : Int),
      repeated (nextIn moments) start count = some last ∧
      repeated (nextIn moments) start (count + 1) = some moment ∧ last ≤ now ∧ now < moment := by
  have passed : ∃ count moment, repeated (nextIn moments) start count = some moment ∧
      now < moment := by
    obtain ⟨moment, found, later⟩ := @le_of_repeated_nextIn moments start endless
      ((now - start).toNat + 1)
    exact ⟨_, moment, found, by omega⟩
  classical
  obtain ⟨moment, found, later⟩ := Nat.find_spec passed
  cases place : Nat.find passed with
  | zero =>
      rw [place] at found
      cases found
      omega
  | succ count =>
      rw [place] at found
      obtain ⟨last, before, _⟩ := @le_of_repeated_nextIn moments start endless count
      refine ⟨count, last, moment, before, found, ?_, later⟩
      by_contra beyond
      exact Nat.find_min passed (by omega) ⟨last, before, by omega⟩

section Search

variable {next : Int → Option Int} (searches : Searches moments reach next)
include searches

/-- A search of the same moments within its reach repeats them. -/
theorem repeated_eq_of_agree
    (same : ∀ moment, start < moment → (moment ∈ moments ↔ moment ∈ others))
    (near : ∀ now, start ≤ now → ∃ moment ∈ after moments now, moment ≤ now + reach) :
    ∀ count : Nat, ∃ moment, start ≤ moment ∧ repeated next start count = some moment ∧
      repeated (nextIn others) start count = some moment
  | 0 => ⟨start, Int.le_refl _, rfl, rfl⟩
  | count + 1 => by
      obtain ⟨last, later, found, foundOther⟩ := repeated_eq_of_agree same near count
      obtain ⟨close, member, within⟩ := near last later
      obtain ⟨moment, least⟩ := exists_isLeast_after ⟨close, member⟩
      have equal : after others last = after moments last := by
        ext other
        exact and_congr_left fun after => (same other (Int.lt_of_le_of_lt later after)).symm
      have step := least.1.2
      refine ⟨moment, by omega, ?_, ?_⟩
      · rw [repeated, found, Option.bind_some, searches]
        exact ⟨least, Int.le_trans (least.2 member) within⟩
      · rw [repeated, foundOther, Option.bind_some, nextIn_eq_some_iff, equal]
        exact least

/-- A search repeats the moments of an endless set exactly when it searches the same moments and
always has one within its reach. -/
theorem repeated_eq_iff (endless : ∀ now, (after others now).Nonempty) :
    (∀ count, repeated next start count = repeated (nextIn others) start count) ↔
      (∀ moment, start < moment → (moment ∈ moments ↔ moment ∈ others)) ∧
      ∀ now, start ≤ now → ∃ moment ∈ after moments now, moment ≤ now + reach := by
  constructor
  · intro equal
    have around (now : Int) (reached : start ≤ now) : ∃ last moment, last ≤ now ∧ now < moment ∧
        IsLeast (after moments last) moment ∧ IsLeast (after others last) moment ∧
        moment ≤ last + reach := by
      obtain ⟨count, last, moment, before, found, low, high⟩ :=
        exists_repeated_around endless reached
      have searched := (equal (count + 1)).trans found
      rw [repeated, equal count, before, Option.bind_some, searches] at searched
      rw [repeated, before, Option.bind_some, nextIn_eq_some_iff] at found
      exact ⟨last, moment, low, high, searched.1, found, searched.2⟩
    constructor
    · intro moment later
      obtain ⟨last, next, low, high, least, leastOther, _⟩ := around (moment - 1) (by omega)
      have first {set : Set Int} (least : IsLeast (after set last) next) (member : moment ∈ set) :
          moment = next := by
        have bound := least.2 (show moment ∈ after set last from ⟨member, by omega⟩)
        omega
      constructor
      · exact fun member => first least member ▸ leastOther.1.1
      · exact fun member => first leastOther member ▸ least.1.1
    · intro now reached
      obtain ⟨last, moment, low, high, least, _, within⟩ := around now reached
      exact ⟨moment, ⟨least.1.1, high⟩, by omega⟩
  · rintro ⟨same, near⟩ count
    obtain ⟨moment, _, found, foundOther⟩ := repeated_eq_of_agree searches same near count
    rw [found, foundOther]

omit searches in
/-- A choice that never raises is repeated without an exception. -/
theorem attempted_eq {raising : Int → Option (Option Int)}
    (total : ∀ now, (raising now).isSome = true) : ∀ count : Nat,
      attempted raising start count = some (repeated (fun now => (raising now).join) start count)
  | 0 => rfl
  | count + 1 => by
      rw [attempted, attempted_eq total count, repeated, Option.bind_some]
      cases repeated (fun now => (raising now).join) start count with
      | none => rfl
      | some last =>
          obtain ⟨found, chosen⟩ := Option.isSome_iff_exists.mp (total last)
          dsimp only
          rw [Option.bind_some, chosen, Option.join_some]

omit searches in
/-- After the last moment there is none. -/
theorem repeated_none (missing : next start = none) :
    ∀ count : Nat, repeated next start (count + 1) = none
  | 0 => missing
  | count + 1 => by rw [repeated, repeated_none missing count, Option.bind_none]

end Search

end Foundation
