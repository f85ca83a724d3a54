import FairyClaw.Session.GapRepair

/-! # What a reused gap-repair note covers

Over any run of turns, a note that is used again covers the slice of its turn exactly when no more
items have left the loaded window since it was stored than its stored end exceeds that of the slice
(`FairyClaw.GapSession.reused_notes_cover_iff`). The stored end is no position in the history, but
in a window that moves.
-/

namespace FairyClaw

open Foundation

/-! ## The slice of a turn -/

/-- Without the current turn, the history is a front of itself. -/
theorem stripCurrentUserTurn_front (fullHistory : List ChatHistoryItem)
    (userTurn : Option UserTurn) :
    stripCurrentUserTurn fullHistory userTurn <+: fullHistory := by
  unfold stripCurrentUserTurn
  split
  · simp only
    split
    · exact List.dropLast_prefix fullHistory
    · exact List.prefix_rfl
  · exact List.prefix_rfl

section Slice

variable {config : SessionMemoryRuntimeConfig} {history : List ChatHistoryItem}
  {turn : LlmTurnContext} {slice : List ChatHistoryItem × Nat}

/-- A slice is not empty, and lies in the beginning of the history. -/
theorem gapSlice_spec (found : gapSlice config history turn = some slice) :
    slice.1 <+: history ∧ 0 < slice.2 ∧ slice.2 ≤ slice.1.length := by
  simp only [gapSlice] at found
  split at found
  · cases found
  · split at found
    · cases found
    · split at found
      · cases found
      · cases found
        refine ⟨stripCurrentUserTurn_front _ _, ?_, Nat.min_le_left _ _⟩
        simp only
        omega

/-- What gap repair does with the stored note. -/
theorem buildGapRepairPatch_cases {chat : String → Option String} {saves : Bool}
    {state after : GapRepairState} {note : GapRepairNote}
    (built : buildGapRepairPatch config chat saves history turn state = (note, after)) :
    match note with
    | .none => after = state
    | .reused summary => after = state ∧ summary = strip state.lastSummary
    | .written summary => ∃ slice, gapSlice config history turn = some slice ∧
        ¬ (slice.2 ≤ state.lastSliceExclusiveEnd ∧ strip state.lastSummary ≠ "") ∧
        after = if saves then { lastSliceExclusiveEnd := slice.2, lastSummary := summary }
          else state := by
  unfold buildGapRepairPatch at built
  split at built
  · cases built
    rfl
  · rename_i fullHistory stop found
    split at built
    · cases built
      exact ⟨rfl, rfl⟩
    · rename_i fresh
      simp only at built
      split at built
      · cases built
        rfl
      · split at built
        · rename_i saved
          cases built
          exact ⟨_, found, fresh, (if_pos saved).symm⟩
        · rename_i lost
          cases built
          exact ⟨_, found, fresh, (if_neg lost).symm⟩

/-- When the stored note is used again. -/
theorem buildGapRepairPatch_reused_iff {chat : String → Option String} {saves : Bool}
    {state : GapRepairState} :
    (∃ summary, (buildGapRepairPatch config chat saves history turn state).1 = .reused summary) ↔
      ∃ slice, gapSlice config history turn = some slice ∧
        slice.2 ≤ state.lastSliceExclusiveEnd ∧ strip state.lastSummary ≠ "" := by
  unfold buildGapRepairPatch
  cases found : gapSlice config history turn with
  | none => exact iff_of_false (fun ⟨_, same⟩ => nomatch same) (fun ⟨_, same, _⟩ => nomatch same)
  | some slice =>
      simp only
      split
      · exact iff_of_true ⟨_, rfl⟩ ⟨slice, rfl, ‹_›⟩
      · rename_i fresh
        refine iff_of_false (fun ⟨summary, same⟩ => ?_) fun ⟨_, same, reuse⟩ => ?_
        · split at same
          · cases same
          · split at same <;> cases same
        · cases same
          exact fresh reuse

end Slice

namespace GapSession

variable {config : SessionMemoryRuntimeConfig} {str : StrOf} {session : GapSession}
  {turn : GapTurn}

/-- Items that are read row by row. -/
theorem flatten_of_mapM {Row Item : Type} {read : Row → Option (List Item)} :
    ∀ {rows : List Row} {items : List (List Item)}, rows.mapM read = some items →
      items.flatten = rows.flatMap fun row => (read row).getD []
  | [], items, parsed => by
      cases parsed
      rfl
  | row :: rest, items, parsed => by
      rw [List.mapM_cons] at parsed
      obtain ⟨first, found, parsed⟩ := Option.bind_eq_some_iff.mp parsed
      obtain ⟨others, later, same⟩ := Option.bind_eq_some_iff.mp parsed
      cases same
      rw [List.flatten_cons, flatten_of_mapM later, List.flatMap_cons, found, Option.getD_some]

/-- The items that a turn loads are the last ones of the session. -/
theorem load_eq {history : List ChatHistoryItem}
    (loaded : session.load config str turn = some history) :
    history = ((session.rows ++ turn.added).flatMap (rowItems str)).drop
      (shownFrom (rowItems str) config.compactionMaxHistoryItems (session.rows ++ turn.added)) := by
  obtain ⟨items, parsed, rfl⟩ := Option.map_eq_some_iff.mp loaded
  rw [← flatMap_window, flatten_of_mapM parsed]
  rfl

/-- The slice of a turn holds the items of its span. -/
theorem slice_items {history : List ChatHistoryItem} {slice : List ChatHistoryItem × Nat} {span : Span}
    (loaded : session.load config str turn = some history)
    (found : gapSlice config history turn.payload.turn = some slice)
    (spanned : session.span config str turn = some span) :
    slice.1.take slice.2 = (((session.rows ++ turn.added).flatMap (rowItems str)).drop
      span.first).take span.count := by
  have same : span = ⟨shownFrom (rowItems str) config.compactionMaxHistoryItems
      (session.rows ++ turn.added), slice.2⟩ := by
    rw [GapSession.span, loaded] at spanned
    simp only [Option.bind_eq_bind, Option.bind_some, found] at spanned
    exact (Option.some.inj spanned).symm
  obtain ⟨⟨rest, front⟩, _, bounded⟩ := gapSlice_spec found
  rw [same, ← load_eq loaded, ← front, List.take_append_of_le_length bounded]

/-! ## Coverage over runs -/

section Coverage

variable (config) (str) (session) (turn)

/-- When the turn uses the stored note again, every item of its slice was summarised for the note,
or for an earlier note that it was built on. -/
def Covers : Prop :=
  ∀ summary state, session.repair config str turn = some (.reused summary, state) →
    ∀ span, session.span config str turn = some span → span.Covered session.spans

/-- The first item that was loaded when the stored note was made. -/
def noteFrom : Nat := (session.spans.head?.map Span.first).getD 0

/-- When the turn asks the model and its slice ends no later than the stored end, it does so too
from where the stored end was counted. -/
def Fits : Prop :=
  turn.payload.turn.llmMessages.isEmpty = false → strip session.state.lastSummary ≠ "" →
    ∀ span, session.span config str turn = some span →
      span.count ≤ session.state.lastSliceExclusiveEnd →
        span.first - session.noteFrom + span.count ≤ session.state.lastSliceExclusiveEnd

/-- The spans of the stored note advance, the newest one ends at the stored end, and none begins
after what is loaded. -/
structure Valid : Prop where
  advancing : session.spans.Pairwise Span.Advances
  stored : strip session.state.lastSummary ≠ "" → ∃ newest older,
    session.spans = newest :: older ∧ newest.count = session.state.lastSliceExclusiveEnd
  shown : ∀ span ∈ session.spans,
    span.first ≤ shownFrom (rowItems str) config.compactionMaxHistoryItems session.rows

end Coverage

/-- What a span says about its slice. -/
theorem span_eq_some {span : Span} (spanned : session.span config str turn = some span) :
    span.first = shownFrom (rowItems str) config.compactionMaxHistoryItems
        (session.rows ++ turn.added) ∧ 0 < span.count ∧
      ∃ history slice, session.load config str turn = some history ∧
        gapSlice config history turn.payload.turn = some slice ∧ slice.2 = span.count := by
  obtain ⟨history, loaded, spanned⟩ := Option.bind_eq_some_iff.mp spanned
  obtain ⟨slice, found, spanned⟩ := Option.bind_eq_some_iff.mp spanned
  cases spanned
  exact ⟨rfl, (gapSlice_spec found).2.1, history, slice, loaded, found, rfl⟩

/-- A slice of the history has a span. -/
theorem span_of_slice {history : List ChatHistoryItem} {slice : List ChatHistoryItem × Nat}
    (loaded : session.load config str turn = some history)
    (found : gapSlice config history turn.payload.turn = some slice) :
    ∃ span, session.span config str turn = some span ∧ span.count = slice.2 := by
  refine ⟨⟨shownFrom (rowItems str) config.compactionMaxHistoryItems (session.rows ++ turn.added),
    slice.2⟩, ?_, rfl⟩
  rw [GapSession.span, loaded, Option.bind_eq_bind, Option.bind_some, found]
  rfl

/-- When the stored note is used again. -/
theorem repair_reused_iff : (∃ summary state,
    session.repair config str turn = some (.reused summary, state)) ↔
    turn.payload.turn.llmMessages.isEmpty = false ∧ strip session.state.lastSummary ≠ "" ∧
      ∃ span, session.span config str turn = some span ∧
        span.count ≤ session.state.lastSliceExclusiveEnd := by
  unfold repair
  constructor
  · rintro ⟨summary, state, repaired⟩
    split at repaired
    · cases repaired
    · rename_i asks
      obtain ⟨history, loaded, built⟩ := Option.map_eq_some_iff.mp repaired
      obtain ⟨slice, found, ends, stored⟩ :=
        buildGapRepairPatch_reused_iff.mp ⟨summary, congrArg Prod.fst built⟩
      obtain ⟨span, spanned, same⟩ := span_of_slice loaded found
      exact ⟨Bool.eq_false_iff.mpr asks, stored, span, spanned, same ▸ ends⟩
  · rintro ⟨asks, stored, span, spanned, ends⟩
    obtain ⟨_, _, history, slice, loaded, found, same⟩ := span_eq_some spanned
    obtain ⟨summary, reused⟩ := buildGapRepairPatch_reused_iff.mpr
      ⟨slice, found, same ▸ ends, stored⟩
    rw [if_neg (Bool.eq_false_iff.mp asks), loaded]
    exact ⟨summary, _, congrArg some (Prod.ext reused rfl)⟩

/-- What a turn stores. -/
theorem repair_cases {note : GapRepairNote} {state : GapRepairState}
    (repaired : session.repair config str turn = some (note, state)) :
    match note with
    | .none | .reused _ => state = session.state
    | .written summary => ∃ span, session.span config str turn = some span ∧
        ¬ (span.count ≤ session.state.lastSliceExclusiveEnd ∧
          strip session.state.lastSummary ≠ "") ∧
        state = if turn.saves then { lastSliceExclusiveEnd := span.count, lastSummary := summary }
          else session.state := by
  unfold repair at repaired
  split at repaired
  · cases repaired
    rfl
  · obtain ⟨history, loaded, built⟩ := Option.map_eq_some_iff.mp repaired
    have effect := buildGapRepairPatch_cases built
    cases note with
    | none => exact effect
    | reused => exact effect.1
    | written summary =>
        obtain ⟨slice, found, fresh, stored⟩ := effect
        obtain ⟨span, spanned, same⟩ := span_of_slice loaded found
        rw [← same] at fresh stored
        exact ⟨span, spanned, fresh, stored⟩

/-- The newest span decides what the stored note covers. -/
theorem Valid.covered_iff (valid : session.Valid config str)
    (stored : strip session.state.lastSummary ≠ "") {span : Span}
    (spanned : session.span config str turn = some span) :
    span.Covered session.spans ↔
      span.first - session.noteFrom + span.count ≤ session.state.lastSliceExclusiveEnd := by
  obtain ⟨newest, older, same, ends⟩ := valid.stored stored
  obtain ⟨first, nonempty, _⟩ := span_eq_some spanned
  have later : newest.first ≤ span.first := by
    rw [first]
    exact (valid.shown newest (same ▸ List.mem_cons_self)).trans (shownFrom_append _ _ _ _)
  have from_newest : session.noteFrom = newest.first := by
    rw [noteFrom, same]
    rfl
  rw [from_newest, ← ends, same, Span.covered_iff (same ▸ valid.advancing) later nonempty]
  unfold Span.stop
  omega

/-- The notes cover a turn exactly where they fit it. -/
theorem Valid.covers_iff (valid : session.Valid config str) :
    session.Covers config str turn ↔ session.Fits config str turn := by
  constructor
  · intro covers asks stored span spanned ends
    obtain ⟨summary, state, reused⟩ :=
      repair_reused_iff.mpr ⟨asks, stored, span, spanned, ends⟩
    exact (valid.covered_iff stored spanned).mp (covers summary state reused span spanned)
  · intro fits summary state reused span spanned
    obtain ⟨asks, stored, other, spanned', ends⟩ := repair_reused_iff.mp ⟨summary, state, reused⟩
    obtain rfl : other = span := Option.some.inj (spanned'.symm.trans spanned)
    exact (valid.covered_iff stored spanned).mpr (fits asks stored other spanned ends)

/-- The span of a new note advances over those of the stored one. -/
theorem Valid.spansWith (valid : session.Valid config str) {new : Span}
    (spanned : session.span config str turn = some new)
    (fresh : ¬ (new.count ≤ session.state.lastSliceExclusiveEnd ∧
      strip session.state.lastSummary ≠ "")) :
    (session.spansWith config str turn new).Pairwise Span.Advances ∧
      (∃ older, session.spansWith config str turn new = new :: older) ∧
      ∀ span ∈ session.spansWith config str turn new,
        span.first ≤ shownFrom (rowItems str) config.compactionMaxHistoryItems
          (session.rows ++ turn.added) := by
  have first := (span_eq_some spanned).1
  have moved := shownFrom_append (rowItems str) config.compactionMaxHistoryItems session.rows
    turn.added
  unfold GapSession.spansWith
  simp only
  split
  · rename_i built
    have stored : strip session.state.lastSummary ≠ "" := by
      intro blank
      have given := built.1
      rw [GapRepairState.previousSummary, if_pos blank] at given
      cases given
    obtain ⟨newest, older, same, ends⟩ := valid.stored stored
    have before := valid.shown newest (same ▸ List.mem_cons_self)
    have longer : session.state.lastSliceExclusiveEnd < new.count :=
      Nat.lt_of_not_le fun short => fresh ⟨short, stored⟩
    refine ⟨?_, ⟨session.spans, rfl⟩, fun span member => ?_⟩
    · rw [same]
      refine Span.pairwise_cons_cons ⟨first ▸ before.trans moved, ?_⟩ (same ▸ valid.advancing)
      unfold Span.stop
      omega
    · rcases List.mem_cons.mp member with rfl | earlier
      · exact first.le
      · exact (valid.shown span earlier).trans moved
  · refine ⟨List.pairwise_singleton _ _, ⟨[], rfl⟩, fun span member => ?_⟩
    rw [List.mem_singleton.mp member, first]

/-- A turn keeps the session valid. -/
theorem Valid.after (valid : session.Valid config str) :
    (session.after config str turn).Valid config str := by
  have moved := shownFrom_append (rowItems str) config.compactionMaxHistoryItems session.rows
    turn.added
  have kept : ({ session with rows := session.rows ++ turn.added } : GapSession).Valid config str :=
    { advancing := valid.advancing
      stored := valid.stored
      shown := fun span member => (valid.shown span member).trans moved }
  unfold GapSession.after
  split
  · exact kept
  · rename_i note state repaired
    have effect := repair_cases repaired
    cases note with
    | none | reused =>
        cases effect
        exact kept
    | written summary =>
        obtain ⟨new, spanned, fresh, stored⟩ := effect
        simp only [spanned]
        by_cases saved : turn.saves = true
        · rw [if_pos saved] at stored
          cases stored
          have built := valid.spansWith spanned fresh
          rw [if_pos saved]
          generalize session.spansWith config str turn new = spans at built ⊢
          obtain ⟨advancing, ⟨older, same⟩, shown⟩ := built
          exact ⟨advancing, fun _ => ⟨new, older, same, rfl⟩, shown⟩
        · rw [if_neg saved] at stored
          cases stored
          rw [if_neg saved]
          exact kept

/-- A session is valid after every run of turns. -/
theorem valid_run (turns : List GapTurn) : (run config str turns).Valid config str := by
  induction turns using List.reverseRecOn with
  | nil =>
      have blank : strip "" = "" := by decide
      exact ⟨List.Pairwise.nil, fun stored => absurd blank stored, fun _ member => nomatch member⟩
  | append_singleton earlier turn ih =>
      rw [run, List.foldl_append]
      exact ih.after

/-- **Coverage.** In a run every reused note covers the slice of its turn exactly when, at every
turn with a stored end that is no earlier than the end of its slice, the items that have left the
loaded window since the note was stored do not make up the difference. -/
theorem reused_notes_cover_iff (config : SessionMemoryRuntimeConfig) (str : StrOf)
    (turns : List GapTurn) :
    (∀ earlier turn, earlier ++ [turn] <+: turns →
      (run config str earlier).Covers config str turn) ↔
    ∀ earlier turn, earlier ++ [turn] <+: turns →
      (run config str earlier).Fits config str turn := by
  have each (earlier : List GapTurn) (turn : GapTurn) :
      (run config str earlier).Covers config str turn ↔
        (run config str earlier).Fits config str turn := (valid_run earlier).covers_iff
  simp only [each]

/-- More messages, and a turn whose compressed history has 20 items. -/
def messagesAndTurn (count : Nat) : GapTurn where
  added := List.replicate count
    { id := "evt"
      type := sessionEventType
      role := some "user"
      content := some (.arr [.obj [("type", .str "text"), ("text", .str "hi")]]) }
  payload :=
    { turn :=
        { llmMessages := [{ role := .system, content := .text "" }]
          historyItems := List.replicate 20 (.block { role := .user, body := .text "hi" })
          userTurn := none
          sessionId := "main"
          taskType := "general"
          isSubSession := false }
      tools := []
      tokenBudget := none }
  fileBlock := ""
  chat _ := some "note"
  saves := true

/-- A reading of stored values without texts. -/
def noTexts : StrOf := { value := fun _ => "", parts := fun _ => "" }

/-- Ten messages after the note, the slice has moved by ten items, and the note is used again. -/
theorem note_reused_beyond_its_slice :
    ¬ ∀ earlier turn, earlier ++ [turn] <+: [messagesAndTurn 120, messagesAndTurn 10] →
      (run {} noTexts earlier).Covers {} noTexts turn := by
  intro covers
  have reused : (run {} noTexts [messagesAndTurn 120]).repair {} noTexts (messagesAndTurn 10) =
      some (.reused "note", { lastSliceExclusiveEnd := 104, lastSummary := "note" }) := by
    decide +kernel
  have spanned : (run {} noTexts [messagesAndTurn 120]).span {} noTexts (messagesAndTurn 10) =
      some { first := 10, count := 104 } := by decide +kernel
  have noted : (run {} noTexts [messagesAndTurn 120]).spans = [{ first := 0, count := 104 }] := by
    decide +kernel
  have covered := covers [messagesAndTurn 120] (messagesAndTurn 10) List.prefix_rfl _ _ reused _
    spanned
  rw [noted] at covered
  obtain ⟨other, member, inside⟩ := covered 110 (by decide)
  rw [List.mem_singleton.mp member] at inside
  exact absurd inside (by decide)

end GapSession

end FairyClaw
