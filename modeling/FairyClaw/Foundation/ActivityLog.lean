import Mathlib.Data.List.Basic

/-! # Logs of overlapping activities

A log holds the events of several activities, the newest first. Each activity begins with
one opening event and has no event after a closing one. An activity that was closed when
another one was opened lies before it as a whole
(`Foundation.ActivityLog.precedes_of_closed`).
-/

namespace Foundation

variable {Event Key : Type} {key : Event → Key} {opens closes : Event → Prop}

/-- Every activity is opened before its other events, and none goes on after it is closed. -/
inductive ActivityLog (key : Event → Key) (opens closes : Event → Prop) : List Event → Prop
  | nil : ActivityLog key opens closes []
  | opened {event : Event} {earlier : List Event} (before : ActivityLog key opens closes earlier)
      (opening : opens event) (fresh : ∀ other ∈ earlier, key other ≠ key event) :
      ActivityLog key opens closes (event :: earlier)
  | continued {event : Event} {earlier : List Event}
      (before : ActivityLog key opens closes earlier) (inside : ¬ opens event)
      (begun : ∃ other ∈ earlier, opens other ∧ key other = key event)
      (unclosed : ∀ other ∈ earlier, key other = key event → ¬ closes other) :
      ActivityLog key opens closes (event :: earlier)

/-- Every occurrence of an event is older than every occurrence of another. -/
def Precedes (log : List Event) (first second : Event) : Prop :=
  ∀ newer older, log = newer ++ first :: older → second ∉ older

namespace ActivityLog

variable {log newer older : List Event} {event : Event}

/-- The older part of a well-formed log is well formed. -/
theorem suffix (wellFormed : ActivityLog key opens closes (newer ++ older)) :
    ActivityLog key opens closes older := by
  induction newer with
  | nil => exact wellFormed
  | cons event rest ih =>
      cases wellFormed with
      | opened before _ _ => exact ih before
      | continued before _ _ _ => exact ih before

/-- The activity of every event was opened. -/
theorem exists_opening (wellFormed : ActivityLog key opens closes log) (member : event ∈ log) :
    ∃ other ∈ log, opens other ∧ key other = key event := by
  induction wellFormed with
  | nil => cases member
  | @opened newest earlier _ opening _ ih =>
      rcases List.mem_cons.mp member with rfl | older
      · exact ⟨event, member, opening, rfl⟩
      · obtain ⟨other, inside, found⟩ := ih older
        exact ⟨other, List.mem_cons_of_mem _ inside, found⟩
  | @continued newest earlier _ _ begun _ ih =>
      rcases List.mem_cons.mp member with rfl | older
      · obtain ⟨other, inside, found⟩ := begun
        exact ⟨other, List.mem_cons_of_mem _ inside, found⟩
      · obtain ⟨other, inside, found⟩ := ih older
        exact ⟨other, List.mem_cons_of_mem _ inside, found⟩

/-- Nothing of an activity is older than its opening. -/
theorem fresh_of_opens (wellFormed : ActivityLog key opens closes (event :: older))
    (opening : opens event) : ∀ other ∈ older, key other ≠ key event := by
  cases wellFormed with
  | opened _ _ fresh => exact fresh
  | continued _ inside _ _ => exact absurd opening inside

/-- Nothing of an activity is newer than its closing. -/
theorem ne_of_closed (wellFormed : ActivityLog key opens closes (newer ++ older)) {closing : Event}
    (closed : closes closing) (member : closing ∈ older) :
    ∀ other ∈ newer, key other ≠ key closing := by
  induction newer with
  | nil => exact fun _ none => absurd none List.not_mem_nil
  | cons newest rest ih =>
      have inRest : closing ∈ rest ++ older := List.mem_append_right _ member
      intro other member
      rcases List.mem_cons.mp member with rfl | member
      · cases wellFormed with
        | opened _ _ fresh => exact Ne.symm (fresh closing inRest)
        | continued _ _ _ unclosed => exact fun same => unclosed closing inRest same.symm closed
      · have regrouped : ActivityLog key opens closes ([newest] ++ (rest ++ older)) := wellFormed
        exact ih regrouped.suffix other member

/-- An activity that is closed when another one is opened lies before it. -/
theorem precedes_of_closed
    (wellFormed : ActivityLog key opens closes (newer ++ event :: older)) (opening : opens event)
    {closing : Event} (closed : closes closing) (member : closing ∈ older) {first second : Event}
    (isFirst : key first = key closing) (isSecond : key second = key event) :
    Precedes (newer ++ event :: older) first second := by
  have regrouped : ActivityLog key opens closes ((newer ++ [event]) ++ older) := by
    simpa using wellFormed
  have noFirst := regrouped.ne_of_closed closed member
  have noSecond := fresh_of_opens (suffix wellFormed) opening
  intro newer' older' split inside
  rcases List.append_eq_append_iff.mp split with ⟨between, rfl, rest⟩ | ⟨between, rfl, rest⟩
  · cases between with
    | nil =>
        injection rest with same _
        exact noFirst event (by simp) (same ▸ isFirst)
    | cons head tail =>
        injection rest with _ rest
        exact noSecond second (by simp [rest, inside]) isSecond
  · cases between with
    | nil =>
        injection rest with same _
        exact noFirst event (by simp) (same ▸ isFirst)
    | cons head tail =>
        injection rest with same _
        exact noFirst head (by simp) (same ▸ isFirst)

end ActivityLog

end Foundation
