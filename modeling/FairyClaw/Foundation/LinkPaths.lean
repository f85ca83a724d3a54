import Mathlib.Data.List.Infix
import Mathlib.Data.List.Perm.Subperm

/-! # Paths through symbolic links

A place of a tree is the list of the names that lead to it from the root. A path is read segment by
segment; where it meets a link, the reading goes on at the link's target. `Foundation.Resolves` is
that reading as a relation. `Foundation.follow` computes it with as many nested links as the tree
has links (`Foundation.follow_eq_some_iff`), so it fails only where links run in a circle. The place
that a path leads to is settled: no link stands on the way to it, and reading it leads to itself.
-/

namespace Foundation

/-- What stands between two separators of a path. -/
inductive PathSegment (Name : Type*)
  | here
  | up
  | name (name : Name)

/-- Where a link leads, from the root or from the directory that the link is in. -/
structure LinkTarget (Name : Type*) where
  absolute : Bool
  segments : List (PathSegment Name)

/-- Where the target of a link is followed from. -/
def LinkTarget.start {Name : Type*} (target : LinkTarget Name) (directory : List Name) :
    List Name :=
  if target.absolute then [] else directory

/-- The links of a tree, with a list of the places they are at. -/
structure LinkMap (Name : Type*) where
  target : List Name → Option (LinkTarget Name)
  places : List (List Name)
  complete : ∀ place, (target place).isSome = true → place ∈ places

variable {Name : Type*} {links : LinkMap Name}

/-- From a place, the segments lead to another place, in so many steps of the reading. -/
inductive Resolves (links : LinkMap Name) :
    Nat → List Name → List (PathSegment Name) → List Name → Prop
  | done (place : List Name) : Resolves links 0 place [] place
  | here {steps : Nat} {place final : List Name} {rest : List (PathSegment Name)} :
      Resolves links steps place rest final → Resolves links (steps + 1) place (.here :: rest) final
  | up {steps : Nat} {place final : List Name} {rest : List (PathSegment Name)} :
      Resolves links steps place.dropLast rest final →
      Resolves links (steps + 1) place (.up :: rest) final
  | plain {steps : Nat} {place final : List Name} {rest : List (PathSegment Name)} {name : Name} :
      links.target (place ++ [name]) = none → Resolves links steps (place ++ [name]) rest final →
      Resolves links (steps + 1) place (.name name :: rest) final
  | link {inner steps : Nat} {place middle final : List Name} {rest : List (PathSegment Name)}
      {name : Name} {target : LinkTarget Name} :
      links.target (place ++ [name]) = some target →
      Resolves links inner (target.start place) target.segments middle →
      Resolves links steps middle rest final →
      Resolves links (inner + steps + 1) place (.name name :: rest) final

/-- From a place, the segments lead to another place. -/
def Leads (links : LinkMap Name) (place : List Name) (segments : List (PathSegment Name))
    (final : List Name) : Prop :=
  ∃ steps, Resolves links steps place segments final

/-- Read segments, with the targets of links read by `jump`. -/
def followAll (links : LinkMap Name) (jump : List Name → LinkTarget Name → Option (List Name)) :
    List Name → List (PathSegment Name) → Option (List Name)
  | place, [] => some place
  | place, .here :: rest => followAll links jump place rest
  | place, .up :: rest => followAll links jump place.dropLast rest
  | place, .name name :: rest =>
      match links.target (place ++ [name]) with
      | none => followAll links jump (place ++ [name]) rest
      | some target => (jump place target).bind (followAll links jump · rest)

/-- Read segments, with at most so many links inside one another. -/
def follow (links : LinkMap Name) : Nat → List Name → List (PathSegment Name) → Option (List Name)
  | 0 => followAll links fun _ _ => none
  | depth + 1 => followAll links fun place target =>
      follow links depth (target.start place) target.segments

/-- Following a path takes one number of steps to one place. -/
theorem Resolves.deterministic {steps others : Nat} {place final other : List Name}
    {segments : List (PathSegment Name)} (first : Resolves links steps place segments final)
    (second : Resolves links others place segments other) : steps = others ∧ final = other := by
  induction first generalizing others other with
  | done => cases second; exact ⟨rfl, rfl⟩
  | here _ ih =>
      cases second with
      | here rest =>
          obtain ⟨rfl, rfl⟩ := ih rest
          exact ⟨rfl, rfl⟩
  | up _ ih =>
      cases second with
      | up rest =>
          obtain ⟨rfl, rfl⟩ := ih rest
          exact ⟨rfl, rfl⟩
  | plain absent _ ih =>
      cases second with
      | plain _ rest =>
          obtain ⟨rfl, rfl⟩ := ih rest
          exact ⟨rfl, rfl⟩
      | link found _ _ => cases absent.symm.trans found
  | link found _ _ ihTarget ihRest =>
      cases second with
      | plain absent _ => cases absent.symm.trans found
      | link again target rest =>
          cases found.symm.trans again
          obtain ⟨rfl, rfl⟩ := ihTarget target
          obtain ⟨rfl, rfl⟩ := ihRest rest
          exact ⟨rfl, rfl⟩

/-- A path leads to one place. -/
theorem Leads.unique {place final other : List Name} {segments : List (PathSegment Name)}
    (first : Leads links place segments final) (second : Leads links place segments other) :
    final = other := by
  obtain ⟨_, first⟩ := first
  obtain ⟨_, second⟩ := second
  exact (first.deterministic second).2

/-- What `jump` reads right, the reading of a path reads right. -/
theorem leads_of_followAll {jump : List Name → LinkTarget Name → Option (List Name)}
    (sound : ∀ place target final, jump place target = some final →
      Leads links (target.start place) target.segments final) {segments : List (PathSegment Name)} :
    ∀ {place final : List Name}, followAll links jump place segments = some final →
      Leads links place segments final := by
  induction segments with
  | nil =>
      intro place final read
      cases read
      exact ⟨0, .done place⟩
  | cons segment rest ih =>
      intro place final read
      cases segment with
      | here =>
          obtain ⟨steps, resolved⟩ := ih read
          exact ⟨_, .here resolved⟩
      | up =>
          obtain ⟨steps, resolved⟩ := ih read
          exact ⟨_, .up resolved⟩
      | name name =>
          rw [followAll] at read
          cases found : links.target (place ++ [name]) with
          | none =>
              rw [found] at read
              obtain ⟨steps, resolved⟩ := ih read
              exact ⟨_, .plain found resolved⟩
          | some target =>
              rw [found] at read
              obtain ⟨middle, jumped, read⟩ := Option.bind_eq_some_iff.mp read
              obtain ⟨inner, target⟩ := sound _ _ _ jumped
              obtain ⟨steps, resolved⟩ := ih read
              exact ⟨_, .link found target resolved⟩

/-- What is found within the depth is where the path leads. -/
theorem leads_of_follow {depth : Nat} : ∀ {place final : List Name}
    {segments : List (PathSegment Name)}, follow links depth place segments = some final →
      Leads links place segments final := by
  induction depth with
  | zero =>
      intro place final segments read
      refine leads_of_followAll ?_ read
      rintro _ _ _ ⟨⟩
  | succ depth ih =>
      intro place final segments read
      exact leads_of_followAll (fun _ _ _ jumped => ih jumped) read

/-- The links being read are distinct, each longer to read than what is left, so the tree has one
more whenever another is met. -/
theorem follow_of_resolves {steps : Nat} {place final : List Name}
    {segments : List (PathSegment Name)} (resolved : Resolves links steps place segments final)
    {depth : Nat} {pending : List (List Name)} (distinct : pending.Nodup)
    (known : ∀ other ∈ pending, other ∈ links.places)
    (longer : ∀ other ∈ pending, ∀ target, links.target other = some target → ∀ inner middle,
      Resolves links inner (target.start other.dropLast) target.segments middle → steps ≤ inner)
    (room : links.places.length ≤ depth + pending.length) :
    follow links depth place segments = some final := by
  induction resolved generalizing depth pending with
  | done => cases depth <;> rfl
  | here _ ih =>
      have rest := ih distinct known (fun other member target found inner middle read =>
        (Nat.le_succ _).trans (longer other member target found inner middle read)) room
      cases depth <;> exact rest
  | up _ ih =>
      have rest := ih distinct known (fun other member target found inner middle read =>
        (Nat.le_succ _).trans (longer other member target found inner middle read)) room
      cases depth <;> exact rest
  | plain absent _ ih =>
      have rest := ih distinct known (fun other member target found inner middle read =>
        (Nat.le_succ _).trans (longer other member target found inner middle read)) room
      cases depth with
      | zero => rw [follow, followAll, absent]; exact rest
      | succ depth => rw [follow, followAll, absent]; exact rest
  | @link inner steps place middle final rest name target found read _ ihTarget ihRest =>
      have fresh : place ++ [name] ∉ pending := by
        intro member
        have bound := longer _ member target found inner middle
          (by rw [List.dropLast_concat]; exact read)
        omega
      have listed : place ++ [name] ∈ links.places :=
        links.complete _ (by rw [found]; rfl)
      have grown : ((place ++ [name]) :: pending).Nodup := List.nodup_cons.mpr ⟨fresh, distinct⟩
      have inside : ∀ other ∈ (place ++ [name]) :: pending, other ∈ links.places := by
        intro other member
        rcases List.mem_cons.mp member with rfl | old
        · exact listed
        · exact known other old
      have count := (grown.subperm inside).length_le
      rw [List.length_cons] at count
      obtain ⟨depth, rfl⟩ : ∃ less, depth = less + 1 := ⟨depth - 1, by omega⟩
      have jumped : follow links depth (target.start place) target.segments = some middle := by
        refine ihTarget grown inside ?_ (by rw [List.length_cons]; omega)
        intro other member linked reached length center again
        rcases List.mem_cons.mp member with rfl | old
        · cases found.symm.trans reached
          rw [List.dropLast_concat] at again
          exact (read.deterministic again).1.le
        · have bound := longer other old linked reached length center again
          omega
      have remaining : follow links (depth + 1) middle rest = some final := by
        refine ihRest distinct known ?_ room
        intro other member linked reached length center again
        have bound := longer other member linked reached length center again
        omega
      rw [follow, followAll, found]
      simp only [jumped, Option.bind_some]
      exact remaining

/-- The places that a path leads to are those that are computed. -/
theorem follow_eq_some_iff {place final : List Name} {segments : List (PathSegment Name)} :
    follow links links.places.length place segments = some final ↔
      Leads links place segments final := by
  constructor
  · exact leads_of_follow
  · rintro ⟨steps, resolved⟩
    refine follow_of_resolves resolved List.nodup_nil ?_ ?_ (Nat.le_add_right _ _)
    · rintro _ ⟨⟩
    · rintro _ ⟨⟩

/-! ## Settled places -/

/-- No link stands on the way to the place. -/
def Settled (links : LinkMap Name) (place : List Name) : Prop :=
  ∀ front name, front ++ [name] <+: place → links.target (front ++ [name]) = none

/-- The root is settled. -/
theorem settled_root : Settled links [] := by
  intro front name before
  exact absurd (List.prefix_nil.mp before) (List.concat_ne_nil name front)

/-- A place above a settled place is settled. -/
theorem Settled.before {place front : List Name} (settled : Settled links place)
    (before : front <+: place) : Settled links front :=
  fun first name start => settled first name (start.trans before)

/-- A name that is no link keeps a settled place settled. -/
theorem Settled.concat {place : List Name} {name : Name} (settled : Settled links place)
    (absent : links.target (place ++ [name]) = none) : Settled links (place ++ [name]) := by
  intro front last before
  rcases List.prefix_concat_iff.mp before with same | before
  · rw [same]
    exact absent
  · exact settled front last before

/-- A path leads from a settled place to a settled place. -/
theorem Leads.settled {place final : List Name} {segments : List (PathSegment Name)}
    (leads : Leads links place segments final) (settled : Settled links place) :
    Settled links final := by
  obtain ⟨steps, resolved⟩ := leads
  induction resolved with
  | done => exact settled
  | here _ ih => exact ih settled
  | up _ ih => exact ih (settled.before (List.dropLast_prefix _))
  | plain absent _ ih => exact ih (settled.concat absent)
  | @link _ _ place _ _ _ _ target _ _ _ ihTarget ihRest =>
      refine ihRest (ihTarget ?_)
      unfold LinkTarget.start
      split
      · exact settled_root
      · exact settled

/-- Reading a settled place leads to itself. -/
theorem Settled.leads {front names : List Name} (settled : Settled links (front ++ names)) :
    Leads links front (names.map .name) (front ++ names) := by
  induction names generalizing front with
  | nil =>
      rw [List.append_nil]
      exact ⟨0, .done front⟩
  | cons name rest ih =>
      rw [List.append_cons] at settled ⊢
      obtain ⟨steps, resolved⟩ := ih settled
      exact ⟨steps + 1, .plain (settled front name (List.prefix_append _ _)) resolved⟩

/-- Every link leads somewhere. -/
def Loopless (links : LinkMap Name) : Prop :=
  ∀ place name target, links.target (place ++ [name]) = some target →
    ∃ final, Leads links (target.start place) target.segments final

/-- Where every link leads somewhere, every path does. -/
theorem Loopless.leads (loopless : Loopless links) (segments : List (PathSegment Name)) :
    ∀ place : List Name, ∃ final, Leads links place segments final := by
  induction segments with
  | nil => exact fun place => ⟨place, 0, .done place⟩
  | cons segment rest ih =>
      intro place
      cases segment with
      | here =>
          obtain ⟨final, steps, resolved⟩ := ih place
          exact ⟨final, _, .here resolved⟩
      | up =>
          obtain ⟨final, steps, resolved⟩ := ih place.dropLast
          exact ⟨final, _, .up resolved⟩
      | name name =>
          cases found : links.target (place ++ [name]) with
          | none =>
              obtain ⟨final, steps, resolved⟩ := ih (place ++ [name])
              exact ⟨final, _, .plain found resolved⟩
          | some target =>
              obtain ⟨middle, inner, read⟩ := loopless place name target found
              obtain ⟨final, steps, resolved⟩ := ih middle
              exact ⟨final, _, .link found read resolved⟩

/-- A path leads to the same place in trees with the same links. -/
theorem Leads.congr {others : LinkMap Name} (same : links.target = others.target)
    {place final : List Name} {segments : List (PathSegment Name)}
    (leads : Leads links place segments final) : Leads others place segments final := by
  obtain ⟨steps, resolved⟩ := leads
  refine ⟨steps, ?_⟩
  induction resolved with
  | done place => exact .done place
  | here _ ih => exact .here ih
  | up _ ih => exact .up ih
  | plain absent _ ih => exact .plain (same ▸ absent) ih
  | link found _ _ ihTarget ihRest => exact .link (same ▸ found) ihTarget ihRest

/-- Whether links run in a circle depends on their targets only. -/
theorem Loopless.congr {others : LinkMap Name} (same : links.target = others.target)
    (loopless : Loopless links) : Loopless others := by
  intro place name target found
  obtain ⟨final, leads⟩ := loopless place name target (same ▸ found)
  exact ⟨final, leads.congr same⟩

end Foundation
