import Mathlib.Data.List.Perm.Subperm
import FairyClaw.Compression.Reloadable

/-! # The tool that reloads segments

The tool marks the records that it selects as restored, in one write, and then appends their
messages to the history one by one. A record without a message is passed over, and a message that
cannot be persisted ends the tool. So the records that are marked are those whose messages have been
appended exactly when nothing of this happens, and no record shares the id of a selected one
(`FairyClaw.ReloadSetting.reload_atomic_iff`).
-/

namespace FairyClaw

open Foundation

/-- The exception of `int()`. -/
def IntError.raised : IntError → PyError
  | typeOrValue message => .other message
  | overflow message => .other message

/-- What a reload finds: the store, the conversions of values other than integers, and the messages
that cannot be persisted, by their position. -/
structure ReloadSetting extends CompressionEnv where
  intOf : Json → Except IntError Int
  raises : Nat → Option PyError

/-- What the tool answers. -/
inductive ReloadAnswer
  | failed (text : String)
  | reloaded (restoredCount : Nat) (reloadedIds : List String)

/-- A run of the tool: its answer, the records that are stored afterwards, and the records whose
messages it has appended. -/
structure ReloadRun where
  answer : Except PyError ReloadAnswer
  stored : List JsonObject
  appended : List JsonObject := []

namespace ReloadSetting

variable (setting : ReloadSetting)

/-- `str(value)` -/
def str : Json → String
  | .str value => value
  | value => setting.strOf value

/-- `int(record.get("created_at_ms") or 0)` -/
def createdAt (record : JsonObject) : Except PyError Int :=
  let value := (JsonObject.get record "created_at_ms").getD .null
  if value.truthy then (pyInt setting.intOf value).mapError IntError.raised else .ok 0

/-- The records by their time, in an order. -/
def sortByTime (before : Int → Int → Bool) (active : List JsonObject) :
    Except PyError (List JsonObject) := do
  let keyed ← active.mapM fun record => (setting.createdAt record).map fun time => (time, record)
  return (keyed.mergeSort fun first second => before first.1 second.1).map Prod.snd

/-- The active records that a mode selects. -/
def select (active : List JsonObject) : ReloadMode → Except PyError (List JsonObject)
  | .all => setting.sortByTime (fun first second => first ≤ second) active
  | .ids unloadIds =>
      let wanted := (unloadIds.map strip).filter (· ≠ "")
      .ok (active.filter fun record => recordUnloadId setting.toCompressionEnv record ∈ wanted)
  | .latest limit =>
      (setting.sortByTime (fun first second => second ≤ first) active).map
        (List.take (max 1 limit).toNat)

/-- `consume_unloaded_segment_records`: the selected records, and the records stored afterwards -/
def consume (mode : ReloadMode) (records : List JsonObject) :
    Except PyError (List JsonObject × List JsonObject) :=
  match setting.readState with
  | some error => .error error
  | none => do
      let selected ← setting.select (records.filter fun record => !isRestored record) mode
      if selected = [] then return ([], records)
      else
        let selectedIds := selected.map (recordUnloadId setting.toCompressionEnv)
        let stored ← saveUnloadedSegmentsState setting.toCompressionEnv (records.map fun record =>
          if recordUnloadId setting.toCompressionEnv record ∈ selectedIds then
            restoreRecord setting.toCompressionEnv record
          else record)
        return (selected, stored)

/-- The message of a record. -/
def messageOf (record : JsonObject) : Option SessionMessageBlock :=
  restoredMessage setting.toCompressionEnv (filedRecord setting.toCompressionEnv record).value

/-- The loop over the selected records: those whose messages are appended, and the exception that
ends it. -/
def appendMessages : Nat → List JsonObject → List JsonObject × Option PyError
  | _, [] => ([], none)
  | position, record :: rest =>
      match setting.messageOf record with
      | none => appendMessages position rest
      | some _ =>
          match setting.raises position with
          | some error => ([], some error)
          | none =>
              let (appended, ended) := appendMessages (position + 1) rest
              (record :: appended, ended)

/-- `reload_unloaded_segments`, by the mode -/
def reload (mode : ReloadMode) (records : List JsonObject) : ReloadRun :=
  match setting.consume mode records with
  | .error error => { answer := .error error, stored := records }
  | .ok (selected, stored) =>
      if selected = [] then
        { answer := .ok (.failed "Error: no unloaded segments available for reload.")
          stored := stored }
      else
        let (appended, ended) := setting.appendMessages 0 selected
        { answer :=
            match ended with
            | some error => .error error
            | none =>
                if appended = [] then
                  .ok (.failed "Error: failed to reconstruct unloaded segments.")
                else
                  .ok (.reloaded appended.length
                    (appended.map (recordUnloadId setting.toCompressionEnv)))
          stored := stored
          appended := appended }

/-- `max(1, int(limit))`, or one where `int` raises a `TypeError` or a `ValueError` -/
def limitOf (args : JsonObject) : Except PyError Int :=
  match args.get "limit" with
  | none => .ok 1
  | some value =>
      match pyInt setting.intOf value with
      | .ok limit => .ok (max 1 limit)
      | .error (.typeOrValue _) => .ok 1
      | .error (.overflow message) => .error (.other message)

/-- The mode that the arguments ask for, or the answer that they are refused with. -/
def modeOf (args : JsonObject) : Except (Except PyError ReloadAnswer) ReloadMode :=
  let mode := (args.get "mode").getD .null
  let modeText := lower (strip (if mode.truthy then setting.str mode else "latest"))
  if modeText ∉ ["latest", "all", "ids"] then
    .error (.ok (.failed "Error: mode must be one of latest/all/ids."))
  else
    let unloadIds :=
      match (args.get "unload_ids").getD .null with
      | .null => some []
      | .arr unloadIds => some (unloadIds.map setting.str)
      | _ => none
    match unloadIds, setting.limitOf args with
    | none, _ => .error (.ok (.failed "Error: unload_ids must be an array of strings."))
    | some _, .error error => .error (.error error)
    | some unloadIds, .ok limit => .ok
        (if modeText = "all" then .all else if modeText = "ids" then .ids unloadIds
        else .latest limit)

/-- `execute` -/
def execute (hasMemory : Bool) (args : JsonObject) (records : List JsonObject) : ReloadRun :=
  if hasMemory then
    match setting.modeOf args with
    | .error answer => { answer := answer, stored := records }
    | .ok mode => setting.reload mode records
  else
    { answer := .ok (.failed "Error: reload_unloaded_segments requires memory context.")
      stored := records }

end ReloadSetting

/-! ## The marks and the messages -/

/-- The records that were active and are marked as restored. -/
def newlyRestored (before after : List JsonObject) : List JsonObject :=
  ((before.zip after).filter fun pair => !isRestored pair.1 && isRestored pair.2).map Prod.fst

/-- A restored record is marked. -/
theorem isRestored_restoreRecord (env : CompressionEnv) (record : JsonObject) :
    isRestored (restoreRecord env record) = true := by
  have retired : (!isRestored (restoreRecord env record)) = false :=
    congrArg Filed.active (@filedRecord_restore env record)
  rwa [Bool.not_eq_false'] at retired

/-- Marking the chosen records restores those that were active. -/
theorem newlyRestored_map (env : CompressionEnv) (chosen : JsonObject → Prop)
    [DecidablePred chosen] :
    ∀ records : List JsonObject,
      newlyRestored records
          (records.map fun record => if chosen record then restoreRecord env record else record) =
        (records.filter fun record => !isRestored record).filter chosen
  | [] => rfl
  | record :: rest => by
      have ih := newlyRestored_map env chosen rest
      unfold newlyRestored at ih ⊢
      rw [List.map_cons, List.zip_cons_cons, List.filter_cons, List.filter_cons]
      by_cases picked : chosen record
      · cases isRestored record <;> simp [picked, isRestored_restoreRecord, ih]
      · cases active : isRestored record <;> simp [picked, active, ih]

namespace ReloadSetting

variable (setting : ReloadSetting) {mode : ReloadMode}
  {records selected stored active : List JsonObject}

/-- Pairing the records with their times keeps the records. -/
theorem map_snd_of_keyed : ∀ {active : List JsonObject} {keyed : List (Int × JsonObject)},
    (active.mapM fun record => (setting.createdAt record).map fun time => (time, record)) =
      .ok keyed → keyed.map Prod.snd = active
  | [], _, made => by
      cases made
      rfl
  | record :: rest, keyed, made => by
      rw [List.mapM_cons] at made
      cases time : setting.createdAt record with
      | error error =>
          rw [time] at made
          cases made
      | ok createdAt =>
          rw [time] at made
          cases others : rest.mapM fun record =>
              (setting.createdAt record).map fun time => (time, record) with
          | error error =>
              rw [others] at made
              cases made
          | ok keyedRest =>
              rw [others] at made
              cases made
              exact congrArg (record :: ·) (map_snd_of_keyed others)

/-- Sorting loses no record. -/
theorem sortByTime_perm {before : Int → Int → Bool}
    (sorted : setting.sortByTime before active = .ok selected) : selected.Perm active := by
  unfold sortByTime at sorted
  cases made : active.mapM fun record =>
      (setting.createdAt record).map fun time => (time, record) with
  | error error =>
      rw [made] at sorted
      cases sorted
  | ok keyed =>
      rw [made] at sorted
      cases sorted
      have order := (List.mergeSort_perm keyed fun first second => before first.1 second.1).map
        Prod.snd
      rwa [setting.map_snd_of_keyed made] at order

/-- A mode selects active records, each at most as often as it is stored. -/
theorem select_subperm (chosen : setting.select active mode = .ok selected) :
    selected.Subperm active := by
  cases mode with
  | all =>
      have sorted : setting.sortByTime (fun first second => first ≤ second) active =
        .ok selected := chosen
      exact (setting.sortByTime_perm sorted).subperm
  | ids unloadIds =>
      cases chosen
      exact List.Sublist.subperm List.filter_sublist
  | latest limit =>
      unfold select at chosen
      cases sorted : setting.sortByTime (fun first second => second ≤ first) active with
      | error error =>
          rw [sorted] at chosen
          cases chosen
      | ok ordered =>
          rw [sorted] at chosen
          cases chosen
          exact (List.Sublist.subperm (List.take_sublist _ _)).trans
            (setting.sortByTime_perm sorted).subperm

/-- Records with the times that the store writes are keyed by them. -/
theorem keyed_of_times : ∀ {active : List JsonObject},
    (∀ record ∈ active, setting.createdAt record = .ok (createdAtMs record)) →
      (active.mapM fun record => (setting.createdAt record).map fun time => (time, record)) =
        .ok (active.map fun record => (createdAtMs record, record))
  | [], _ => rfl
  | record :: rest, times => by
      rw [List.mapM_cons, times record List.mem_cons_self,
        keyed_of_times fun other among => times other (List.mem_cons_of_mem _ among)]
      rfl

/-- With times that can be read the records are sorted by them. -/
theorem sortByTime_of_times {before : Int → Int → Bool}
    (times : ∀ record ∈ active, setting.createdAt record = .ok (createdAtMs record)) :
    setting.sortByTime before active = .ok
      (active.mergeSort fun first second => before (createdAtMs first) (createdAtMs second)) := by
  unfold sortByTime
  rw [setting.keyed_of_times times]
  refine congrArg Except.ok ?_
  have sorted := List.map_mergeSort (f := fun record => (createdAtMs record, record)) (l := active)
    (r := fun first second => before (createdAtMs first) (createdAtMs second))
    (s := fun first second : Int × JsonObject => before first.1 second.1) fun _ _ _ _ => rfl
  rw [← sorted, List.map_map]
  exact List.map_id _

/-- On the records of the store, the tool selects what the archive says. -/
theorem select_of_times
    (times : ∀ record ∈ active, setting.createdAt record = .ok (createdAtMs record)) :
    setting.select active mode = .ok (selectRecords setting.toCompressionEnv active mode) := by
  cases mode with
  | all =>
      have sorted := @sortByTime_of_times setting active
        (fun first second => decide (first ≤ second)) times
      exact sorted
  | ids unloadIds => rfl
  | latest limit =>
      have sorted := @sortByTime_of_times setting active
        (fun first second => decide (second ≤ first)) times
      exact congrArg (Except.map (List.take (max 1 limit).toNat)) sorted

/-- The active records under the ids of the chosen ones. -/
def underIdsOf (records selected : List JsonObject) : List JsonObject :=
  (records.filter fun record => !isRestored record).filter fun record =>
    recordUnloadId setting.toCompressionEnv record ∈
      selected.map (recordUnloadId setting.toCompressionEnv)

/-- The selected records are among those under their ids. -/
theorem subperm_underIdsOf
    (chosen : setting.select (records.filter fun record => !isRestored record) mode =
      .ok selected) :
    selected.Subperm (setting.underIdsOf records selected) := by
  have kept := List.Subperm.filter (fun record => decide
    (recordUnloadId setting.toCompressionEnv record ∈
      selected.map (recordUnloadId setting.toCompressionEnv))) (setting.select_subperm chosen)
  rwa [List.filter_eq_self.mpr fun record picked => decide_eq_true (List.mem_map_of_mem picked)]
    at kept

/-- The records with those under the ids of the selected ones marked. -/
def marked (records selected : List JsonObject) : List JsonObject :=
  records.map fun record =>
    if recordUnloadId setting.toCompressionEnv record ∈
        selected.map (recordUnloadId setting.toCompressionEnv) then
      restoreRecord setting.toCompressionEnv record
    else record

/-- The records under the ids are marked. -/
theorem newlyRestored_marked :
    newlyRestored records (setting.marked records selected) = setting.underIdsOf records selected :=
  newlyRestored_map setting.toCompressionEnv _ records

/-- Without a selection nothing is marked. -/
theorem marked_nil : setting.marked records [] = records := by
  simp [marked]

/-- The selected records are marked in one write, unless there are none. -/
theorem consume_eq_ok_iff : setting.consume mode records = .ok (selected, stored) ↔
    setting.readState = none ∧
      setting.select (records.filter fun record => !isRestored record) mode = .ok selected ∧
      (selected = [] ∨ setting.writeState = none) ∧ stored = setting.marked records selected := by
  unfold consume
  cases setting.readState with
  | some error => simp
  | none =>
      cases setting.select (records.filter fun record => !isRestored record) mode with
      | error error => simp [Bind.bind, Except.bind]
      | ok picked =>
          by_cases nothing : picked = []
          · subst nothing
            simp only [Bind.bind, Except.bind, pure, Except.pure, ↓reduceIte, Except.ok.injEq,
              Prod.mk.injEq, true_and]
            constructor
            · rintro ⟨rfl, rfl⟩
              exact ⟨rfl, .inl rfl, setting.marked_nil.symm⟩
            · rintro ⟨rfl, _, rfl⟩
              exact ⟨rfl, setting.marked_nil.symm⟩
          · have save : saveUnloadedSegmentsState setting.toCompressionEnv
                (setting.marked records picked) =
                  match setting.writeState with
                  | some error => .error error
                  | none => .ok (setting.marked records picked) := rfl
            unfold marked at save
            simp only [Bind.bind, Except.bind, nothing, ↓reduceIte, save, true_and]
            cases setting.writeState with
            | some error =>
                constructor
                · intro answered
                  cases answered
                · rintro ⟨chosen, written, _⟩
                  cases chosen
                  exact absurd written (by simp [nothing])
            | none =>
                constructor
                · intro answered
                  cases answered
                  exact ⟨rfl, .inr rfl, rfl⟩
                · rintro ⟨chosen, _, rfl⟩
                  cases chosen
                  rfl

/-! ## Whole reloads -/

/-- Only messages of selected records are appended, in their order. -/
theorem appendMessages_sublist : ∀ (position : Nat) (selected : List JsonObject),
    (setting.appendMessages position selected).1.Sublist selected
  | _, [] => .slnil
  | position, record :: rest => by
      unfold appendMessages
      cases setting.messageOf record with
      | none => exact (appendMessages_sublist position rest).cons record
      | some message =>
          cases setting.raises position with
          | some error => exact List.nil_sublist _
          | none => exact (appendMessages_sublist (position + 1) rest).cons_cons record

/-- All messages are appended when every record has one and none of them fails to be persisted. -/
theorem appendMessages_all_iff : ∀ (position : Nat) (selected : List JsonObject),
    (setting.appendMessages position selected).1 = selected ↔
      (∀ record ∈ selected, (setting.messageOf record).isSome) ∧
        ∀ index < selected.length, setting.raises (position + index) = none
  | _, [] => by simp [appendMessages]
  | position, record :: rest => by
      have ih := appendMessages_all_iff (position + 1) rest
      unfold appendMessages
      cases message : setting.messageOf record with
      | none =>
          constructor
          · intro all
            have short := (setting.appendMessages_sublist position rest).length_le
            rw [all, List.length_cons] at short
            omega
          · intro whole
            have present := whole.1 record List.mem_cons_self
            rw [message] at present
            cases present
      | some block =>
          cases raised : setting.raises position with
          | some error =>
              constructor
              · intro all
                cases all
              · intro whole
                have kept := whole.2 0 (Nat.succ_pos _)
                rw [Nat.add_zero, raised] at kept
                cases kept
          | none =>
              rw [List.cons.injEq, ih, List.forall_mem_cons, message]
              constructor
              · rintro ⟨_, present, kept⟩
                refine ⟨⟨rfl, present⟩, fun index below => ?_⟩
                cases index with
                | zero => rwa [Nat.add_zero]
                | succ index =>
                    rw [Nat.add_succ, ← Nat.succ_add]
                    exact kept index (Nat.lt_of_succ_lt_succ below)
              · rintro ⟨⟨_, present⟩, kept⟩
                refine ⟨rfl, present, fun index below => ?_⟩
                have later := kept (index + 1) (Nat.succ_lt_succ below)
                rwa [Nat.add_succ, ← Nat.succ_add] at later

/-- The records that a run marks are those whose messages it appends, and its answer is about
them. -/
def Atomic (records : List JsonObject) (run : ReloadRun) : Prop :=
  (newlyRestored records run.stored).Perm run.appended ∧
    ∀ restoredCount reloadedIds, run.answer = .ok (.reloaded restoredCount reloadedIds) →
      restoredCount = (newlyRestored records run.stored).length ∧
        reloadedIds.Perm ((newlyRestored records run.stored).map
          (recordUnloadId setting.toCompressionEnv))

/-- What a mode selects has messages, all of them can be persisted, and no other active record has
one of its ids. -/
def Restores (mode : ReloadMode) (records : List JsonObject) : Prop :=
  ∀ selected, setting.readState = none → setting.writeState = none →
    setting.select (records.filter fun record => !isRestored record) mode = .ok selected →
      ((∀ record ∈ selected, (setting.messageOf record).isSome) ∧
        ∀ position < selected.length, setting.raises position = none) ∧
        (setting.underIdsOf records selected).Perm selected

/-- Without a selection there are no records under its ids. -/
theorem underIdsOf_nil : setting.underIdsOf records [] = [] := by
  simp [underIdsOf]

/-- A run that neither marks nor appends is atomic. -/
theorem atomic_of_unchanged {answer : Except PyError ReloadAnswer}
    (failed : ∀ restoredCount reloadedIds, answer ≠ .ok (.reloaded restoredCount reloadedIds)) :
    setting.Atomic records { answer := answer, stored := records } := by
  refine ⟨?_, fun restoredCount reloadedIds answered =>
    absurd answered (failed restoredCount reloadedIds)⟩
  have marked := @newlyRestored_marked setting records []
  rw [setting.marked_nil, setting.underIdsOf_nil] at marked
  rw [marked]

/-- The marked records are those whose messages are appended when all of the selected ones are. -/
theorem underIdsOf_perm_appended_iff
    (chosen : setting.select (records.filter fun record => !isRestored record) mode =
      .ok selected) :
    (setting.underIdsOf records selected).Perm (setting.appendMessages 0 selected).1 ↔
      (setting.appendMessages 0 selected).1 = selected ∧
        (setting.underIdsOf records selected).Perm selected := by
  constructor
  · intro same
    have all : (setting.appendMessages 0 selected).1 = selected :=
      (setting.appendMessages_sublist 0 selected).eq_of_length_le <|
        same.length_eq ▸ (setting.subperm_underIdsOf chosen).length_le
    exact ⟨all, same.trans (.of_eq all)⟩
  · rintro ⟨all, same⟩
    rwa [all]

/-- A reload is atomic when each marked record has its message. -/
theorem reload_atomic_iff_restores :
    setting.Atomic records (setting.reload mode records) ↔ setting.Restores mode records := by
  unfold reload
  cases consumed : setting.consume mode records with
  | error error =>
      refine iff_of_true (setting.atomic_of_unchanged nofun) fun selected reads writes chosen => ?_
      have accepted := setting.consume_eq_ok_iff.mpr ⟨reads, chosen, .inr writes, rfl⟩
      rw [consumed] at accepted
      cases accepted
  | ok outcome =>
      obtain ⟨selected, stored⟩ := outcome
      obtain ⟨reads, chosen, written, rfl⟩ := setting.consume_eq_ok_iff.mp consumed
      by_cases nothing : selected = []
      · subst nothing
        simp only [↓reduceIte, setting.marked_nil]
        refine iff_of_true (setting.atomic_of_unchanged nofun) fun picked _ _ others => ?_
        rw [chosen] at others
        cases others
        rw [setting.underIdsOf_nil]
        exact ⟨⟨nofun, nofun⟩, .refl _⟩
      · simp only [if_neg nothing]
        have writes := written.resolve_left nothing
        rw [Atomic, newlyRestored_marked, underIdsOf_perm_appended_iff setting chosen,
          appendMessages_all_iff]
        constructor
        · rintro ⟨⟨whole, apart⟩, _⟩ picked _ _ others
          rw [chosen] at others
          cases others
          exact ⟨by simpa only [Nat.zero_add] using whole, apart⟩
        · intro restores
          obtain ⟨whole, apart⟩ := restores selected reads writes chosen
          refine ⟨⟨by simpa only [Nat.zero_add] using whole, apart⟩, ?_⟩
          have all : (setting.appendMessages 0 selected).1 = selected :=
            (setting.appendMessages_all_iff 0 selected).mpr
              (by simpa only [Nat.zero_add] using whole)
          intro restoredCount reloadedIds answered
          rw [all] at answered
          split at answered
          · cases answered
          · rw [if_neg nothing] at answered
            cases answered
            exact ⟨apart.length_eq.symm, (apart.map _).symm⟩

/-- The arguments are refused with an error. -/
theorem modeOf_refused {args : JsonObject} {answer : Except PyError ReloadAnswer}
    (refused : setting.modeOf args = .error answer) (restoredCount : Nat)
    (reloadedIds : List String) : answer ≠ .ok (.reloaded restoredCount reloadedIds) := by
  unfold modeOf at refused
  dsimp only at refused
  generalize lower _ = modeText at refused
  by_cases unknown : modeText ∉ ["latest", "all", "ids"]
  · rw [if_pos unknown] at refused
    cases refused
    nofun
  · rw [if_neg unknown] at refused
    split at refused
    · cases refused
      nofun
    · cases refused
      nofun
    · cases refused

/-- The records that a call marks are those whose messages it appends exactly when everything that
it selects can be restored. -/
theorem reload_atomic_iff (hasMemory : Bool) (args : JsonObject) (records : List JsonObject) :
    setting.Atomic records (setting.execute hasMemory args records) ↔
      (hasMemory = true → ∀ mode, setting.modeOf args = .ok mode →
        setting.Restores mode records) := by
  unfold execute
  cases hasMemory with
  | false => exact iff_of_true (setting.atomic_of_unchanged nofun) nofun
  | true =>
      cases asked : setting.modeOf args with
      | error answer =>
          exact iff_of_true (setting.atomic_of_unchanged (setting.modeOf_refused asked)) nofun
      | ok mode =>
          simp only [↓reduceIte]
          rw [reload_atomic_iff_restores]
          constructor
          · rintro restores _ _ ⟨⟩
            exact restores
          · intro restores
            exact restores trivial mode rfl

/-- Two images are unloaded, and only the first message of the reload can be persisted. -/
def brokenReload : ReloadSetting where
  toCompressionEnv := pictureEnv
  intOf _ := .error (.typeOrValue "int() argument must be a number")
  raises position := if position = 1 then some (.other "database is locked") else none

/-- The record of another picture. -/
def otherPictureRecord : JsonObject :=
  unloadedRecord pictureEnv "imgu_93a23971a914" "user" [picture.toDict] "[unloaded]"
    "history_index=3"

/-- The arguments that name both records. -/
def reloadBoth : JsonObject :=
  [("mode", .str "ids"),
    ("unload_ids", .arr [.str "imgu_c7b84abeef3f", .str "imgu_93a23971a914"])]

/-- A record is marked although its message was not appended. -/
theorem marked_without_message :
    ¬ brokenReload.Atomic [pictureRecord, otherPictureRecord]
      (brokenReload.execute true reloadBoth [pictureRecord, otherPictureRecord]) := by
  intro atomic
  have lengths := atomic.1.length_eq
  exact absurd lengths (by decide +kernel)

end ReloadSetting

end FairyClaw
