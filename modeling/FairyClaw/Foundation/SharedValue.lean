import FairyClaw.Foundation.Machine
import Mathlib.Logic.Function.Basic

/-! # Read-modify-write of a shared value

Two writers each read a whole value once and store an edited copy of what they read. An edit
touches some fields of the value and keeps the others. Whatever the order of the reads and the
writes, both updates are in the value at the end exactly when the last writer had read the first
one's value, or the first one's update had changed nothing
(`Foundation.SharedValue.contains_iff`).
-/

namespace Foundation

/-- An edit of a whole value, which may end without a value to store. -/
structure FieldEdit {Value Key Field : Type*} (field : Value → Key → Field) where
  keys : List Key
  edit : Value → Option Value
  edit_local : ∀ {value next key}, edit value = some next → key ∉ keys →
    field next key = field value key

/-- How far a writer is. It remembers what it has read, and whether the other writer has
stored a value since. -/
inductive WriterPhase (Value : Type*)
  | idle
  | holding (base : Value) (missed : Bool)
  | stored (base written : Value) (missed : Bool)
  | returned

/-- A value with its two writers. -/
structure SharedValue (Value : Type*) where
  value : Value
  phase : Bool → WriterPhase Value

/-- The actions of the two writers. -/
inductive WriterAction
  | read (writer : Bool)
  | write (writer : Bool)
  deriving DecidableEq, Repr

namespace WriterPhase

variable {Value : Type*}

/-- The other writer has stored a value. -/
def miss : WriterPhase Value → WriterPhase Value
  | holding base _ => holding base true
  | phase => phase

/-- What the writer has stored, and what it had read before. -/
def update : WriterPhase Value → Option (Value × Value)
  | stored base written _ => some (base, written)
  | _ => none

/-- The other writer stored a value between this one's read and its write. -/
def missedOther : WriterPhase Value → Bool
  | stored _ _ missed => missed
  | _ => false

end WriterPhase

namespace SharedValue

variable {Value Key Field : Type*} {field : Value → Key → Field}
  (edits : Bool → FieldEdit field) {state next : SharedValue Value} {writer : Bool}

/-- The phases after a writer changes its own, the other one seen through a function. -/
def phases (state : SharedValue Value) (writer : Bool) (own : WriterPhase Value)
    (other : WriterPhase Value → WriterPhase Value) : Bool → WriterPhase Value :=
  fun each => if each = writer then own else other (state.phase each)

/-- A step of a writer, if it is at the place for it. -/
def step (state : SharedValue Value) : WriterAction → Option (SharedValue Value)
  | .read writer =>
      match state.phase writer with
      | .idle => some { state with phase := state.phases writer (.holding state.value false) id }
      | _ => none
  | .write writer =>
      match state.phase writer with
      | .holding base missed =>
          match (edits writer).edit base with
          | none => some { state with phase := state.phases writer .returned id }
          | some written => some
              { value := written
                phase := state.phases writer (.stored base written missed) .miss }
      | _ => none

/-- The writers over a value, from before their reads on. -/
def machine : Machine (SharedValue Value) WriterAction where
  initial state := ∀ writer, state.phase writer = .idle
  step := step edits

/-- The value has what the writer put into its fields. -/
def Contains (state : SharedValue Value) (writer : Bool) : Prop :=
  ∃ base written, (state.phase writer).update = some (base, written) ∧
    ∀ key ∈ (edits writer).keys, field state.value key = field written key

/-- The writer put into its fields what it had found there. -/
def Unchanging (state : SharedValue Value) (writer : Bool) : Prop :=
  ∀ base written, (state.phase writer).update = some (base, written) →
    ∀ key ∈ (edits writer).keys, field base key = field written key

/-- One writer stored the value last, having read what the other stored or what the other
had read. -/
structure Last (value base written base' written' : Value) (missed missed' : Bool) : Prop where
  stored : written = value
  first : missed' = false
  read : base = if missed then base' else written'

/-- What the phase of a writer tells about the value, next to the phase of the other. -/
def Sees (value : Value) : WriterPhase Value → WriterPhase Value → Prop
  | .holding base missed, other =>
      if missed then other = .stored base value false else base = value
  | .stored base written missed, .stored base' written' missed' =>
      Last value base written base' written' missed missed' ∨
        Last value base' written' base written missed' missed
  | .stored _ written missed, _ => written = value ∧ missed = false
  | _, _ => True

/-- A writer that reads holds the value, and has missed nothing of the other one. -/
theorem Sees.read {value : Value} {other : WriterPhase Value} (sees : Sees value other .idle) :
    Sees value (.holding value false) other ∧ Sees value other (.holding value false) := by
  refine ⟨rfl, ?_⟩
  cases other with
  | holding base missed =>
      cases missed with
      | false => exact sees
      | true => cases sees
  | stored => exact sees
  | idle => trivial
  | returned => trivial

/-- A writer that returns without a write is no hindrance to the other one. -/
theorem Sees.return {value base : Value} {missed : Bool} {other : WriterPhase Value}
    (sees : Sees value other (.holding base missed)) :
    Sees value .returned other ∧ Sees value other .returned := by
  refine ⟨trivial, ?_⟩
  cases other with
  | holding _ missed =>
      cases missed with
      | false => exact sees
      | true => cases sees
  | stored => exact sees
  | idle => trivial
  | returned => trivial

/-- A writer that stores a value is the last one, and the other one misses it while it holds
what it has read. -/
theorem Sees.write {value base : Value} {missed : Bool} {other : WriterPhase Value}
    (own : Sees value (.holding base missed) other)
    (sees : Sees value other (.holding base missed)) (written : Value) :
    Sees written (.stored base written missed) other.miss ∧
      Sees written other.miss (.stored base written missed) := by
  cases missed with
  | true =>
      obtain rfl : other = .stored base value false := own
      have last : Last written base written base value true false := ⟨rfl, rfl, rfl⟩
      exact ⟨Or.inl last, Or.inr last⟩
  | false =>
      obtain rfl : base = value := own
      cases other with
      | idle => exact ⟨⟨rfl, rfl⟩, trivial⟩
      | returned => exact ⟨⟨rfl, rfl⟩, trivial⟩
      | holding base' missed' =>
          refine ⟨⟨rfl, rfl⟩, ?_⟩
          cases missed' with
          | false =>
              obtain rfl : base' = base := sees
              exact rfl
          | true => cases sees
      | stored base' written' missed' =>
          obtain ⟨rfl, rfl⟩ : written' = base ∧ missed' = false := sees
          have last : Last written written' written base' written' false false := ⟨rfl, rfl, rfl⟩
          exact ⟨Or.inl last, Or.inr last⟩

/-- Both writers see the value as their phases tell, and what a writer stores is its edit of
what it has read. -/
structure Paired (state : SharedValue Value) : Prop where
  sees : ∀ writer, Sees state.value (state.phase writer) (state.phase !writer)
  edited : ∀ writer base written, (state.phase writer).update = some (base, written) →
    (edits writer).edit base = some written

variable {edits}

/-- Two phases, one of a named writer, are those of all writers. -/
theorem forall_phases {property : WriterPhase Value → WriterPhase Value → Prop}
    {phase : Bool → WriterPhase Value} (writer : Bool)
    (both : property (phase writer) (phase !writer) ∧ property (phase !writer) (phase writer)) :
    ∀ each, property (phase each) (phase !each) := by
  intro each
  by_cases own : each = writer
  · exact own ▸ both.1
  · obtain rfl : each = !writer := Bool.eq_not_of_ne own
    rw [Bool.not_not]
    exact both.2

/-- The phase of the writer itself. -/
theorem phases_own (state : SharedValue Value) (writer : Bool) (own : WriterPhase Value)
    (other : WriterPhase Value → WriterPhase Value) :
    state.phases writer own other writer = own := if_pos rfl

/-- The phase of the other writer. -/
theorem phases_other (state : SharedValue Value) (writer : Bool) (own : WriterPhase Value)
    (other : WriterPhase Value → WriterPhase Value) :
    state.phases writer own other (!writer) = other (state.phase !writer) :=
  if_neg (by cases writer <;> decide)

/-- Missing a write does not change what a writer is to write. -/
theorem update_miss (phase : WriterPhase Value) : phase.miss.update = phase.update := by
  cases phase <;> rfl

/-- A step of one writer, where the other one at most misses it. -/
theorem Paired.of_phases (paired : Paired edits state) {value : Value} {own : WriterPhase Value}
    {other : WriterPhase Value → WriterPhase Value}
    (sees : Sees value own (other (state.phase !writer)) ∧
      Sees value (other (state.phase !writer)) own)
    (edited : ∀ base written, own.update = some (base, written) →
      (edits writer).edit base = some written)
    (kept : (other (state.phase !writer)).update = (state.phase !writer).update) :
    Paired edits { value := value, phase := state.phases writer own other } where
  sees := by
    refine forall_phases writer ?_
    simp only [phases_own, phases_other]
    exact sees
  edited each base written updated := by
    by_cases same : each = writer
    · subst same
      simp only [phases_own] at updated
      exact edited base written updated
    · obtain rfl : each = !writer := Bool.eq_not_of_ne same
      simp only [phases_other, kept] at updated
      exact paired.edited _ base written updated

/-- Every step keeps the writers paired. -/
theorem Paired.step (paired : Paired edits state) {action : WriterAction}
    (stepped : step edits state action = some next) : Paired edits next := by
  cases action with
  | read writer =>
      simp only [SharedValue.step] at stepped
      split at stepped
      · rename_i idle
        cases stepped
        have sees := paired.sees !writer
        rw [Bool.not_not, idle] at sees
        exact paired.of_phases sees.read nofun rfl
      · cases stepped
  | write writer =>
      simp only [SharedValue.step] at stepped
      split at stepped
      · rename_i base missed holds
        have own := paired.sees writer
        have sees := paired.sees !writer
        rw [holds] at own
        rw [Bool.not_not, holds] at sees
        split at stepped
        · cases stepped
          exact paired.of_phases sees.return nofun rfl
        · rename_i written edited
          cases stepped
          refine paired.of_phases (own.write sees written) ?_ (update_miss _)
          rintro _ _ ⟨⟩
          exact edited
      · cases stepped

/-- The writers are paired in every reachable state. -/
theorem reachable_paired {guard : Machine.Guard (SharedValue Value) WriterAction}
    (reached : (machine edits).Reachable guard state) : Paired edits state := by
  refine reached.invariant ?_ fun _ _ _ paired _ stepped => paired.step stepped
  intro start begun
  refine ⟨fun writer => ?_, fun writer base written updated => ?_⟩
  · rw [begun writer, begun !writer]
    trivial
  · rw [begun writer] at updated
    cases updated

/-- The fields of the first writer are, in the value of the last one, as the last one had
read them. -/
theorem contains_of_last {base written base' written' : Value} {missed missed' : Bool}
    (own : state.phase writer = .stored base written missed)
    (other : state.phase (!writer) = .stored base' written' missed')
    (last : Last state.value base written base' written' missed missed')
    (edited : (edits writer).edit base = some written)
    (apart : ∀ key ∈ (edits !writer).keys, key ∉ (edits writer).keys) :
    (∀ each, state.Contains edits each) ↔
      ∀ each, (state.phase each).missedOther = true → state.Unchanging edits !each := by
  have updated : (state.phase writer).update = some (base, written) := by rw [own]; rfl
  have earlier : (state.phase !writer).update = some (base', written') := by rw [other]; rfl
  have kept (key : Key) (member : key ∈ (edits !writer).keys) :
      field state.value key = field base key := by
    rw [← last.stored]
    exact (edits writer).edit_local edited (apart key member)
  constructor
  · intro contains each missing base₀ written₀ found key member
    by_cases same : each = writer
    · subst same
      have overlap : missed = true := by rwa [own] at missing
      obtain ⟨_, _, stored, holds⟩ := contains !each
      rw [earlier, Option.some.injEq, Prod.mk.injEq] at found stored
      obtain ⟨rfl, rfl⟩ := found
      obtain ⟨rfl, rfl⟩ := stored
      have read : base = base' := last.read.trans (if_pos overlap)
      rw [← read, ← kept key member]
      exact holds key member
    · obtain rfl : each = !writer := Bool.eq_not_of_ne same
      rw [other] at missing
      cases last.first.symm.trans missing
  · intro silent each
    by_cases same : each = writer
    · subst same
      refine ⟨base, written, updated, fun key _ => ?_⟩
      rw [last.stored]
    · obtain rfl : each = !writer := Bool.eq_not_of_ne same
      refine ⟨base', written', earlier, fun key member => ?_⟩
      rw [kept key member, last.read]
      cases missed with
      | false => rfl
      | true => exact silent writer (by rw [own]; rfl) base' written' earlier key member

/-- **Lost updates.** Once both writers have stored a value, both updates are in it exactly when
a writer that missed the other's value found nothing changed by it. -/
theorem contains_iff (reached : (machine edits).Reachable Machine.anyStep state)
    (apart : ∀ key ∈ (edits false).keys, key ∉ (edits true).keys)
    (both : ∀ writer, (state.phase writer).update.isSome = true) :
    (∀ writer, state.Contains edits writer) ↔
      ∀ writer, (state.phase writer).missedOther = true → state.Unchanging edits !writer := by
  have paired := reachable_paired reached
  have shape (writer : Bool) :
      ∃ base written missed, state.phase writer = .stored base written missed := by
    have done := both writer
    cases found : state.phase writer with
    | stored base written missed => exact ⟨base, written, missed, rfl⟩
    | idle => rw [found] at done; cases done
    | holding => rw [found] at done; cases done
    | returned => rw [found] at done; cases done
  obtain ⟨base, written, missed, first⟩ := shape false
  obtain ⟨base', written', missed', second⟩ := shape true
  have sees := paired.sees false
  rw [first, Bool.not_false, second] at sees
  rcases sees with last | last
  · refine contains_of_last first second last (paired.edited false base written ?_) ?_
    · rw [first]
      rfl
    · exact fun key member touched => apart key touched member
  · refine contains_of_last second first last (paired.edited true base' written' ?_) apart
    rw [second]
    rfl

end SharedValue

end Foundation
