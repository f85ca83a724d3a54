import FairyClaw.Foundation.Recurrence
import FairyClaw.Timer.Calendar
import FairyClaw.Timer.CronItems
import FairyClaw.Timer.TimerStore

/-! # The next moment of a cron expression

The scan for the next moment of an accepted expression finds the first matching minute of the 366
days after a moment (`FairyClaw.searches_nextFireAt`). A job with the expression goes on exactly
when there is one (`FairyClaw.next_fire_iff`). An expression that matches some date but 29 February
on every weekday always has one (`FairyClaw.near_of_date`); an expression for 29 February does not.
-/

namespace FairyClaw

open Foundation

/-- All five fields match a moment of local time; `none` is an exception. -/
def matchesMoment (expr : String) (moment : Int) : Option Bool :=
  matchesFields ((calendarFields moment).zip ((cronParts expr).zip cronFields))

/-- The minutes that all five fields match, at an offset of the timezone. -/
def Fires (expr : String) (offset : Int) : Set Int :=
  {moment | (moment + offset) % minuteMicros = 0 ∧ matchesMoment expr (moment + offset) = some true}

/-- The distance that the scan covers. -/
def scanReach : Int := maxMinutesScan * minuteMicros

/-- The scan finds the least minute of an expression after a moment, and a run that the limits do
not end leaves a job of the expression waiting for it. -/
structure FindsNext (expr : String) (now offset : Int) : Prop where
  least : ∃ moment, nextFireAtForCron expr now offset = some (some moment) ∧
    IsLeast (after (Fires expr offset) now) moment
  waits : ∀ (job : TimerJob) (success : Bool) (errorMessage : Option String),
    job.mode = .cron → job.cronExpr.getD "" = expr → job.terminalStatus success now = none →
    ∃ moment, job.decideRun success errorMessage now offset =
      some (none, some moment, errorMessage)

/-! ## The scan -/

variable {expr : String} {now offset moment : Int}

/-- An accepted expression can be matched at every moment. -/
theorem isSome_matchesMoment (accepted : parseCron5 expr = some none) (moment : Int) :
    (matchesMoment expr moment).isSome = true := by
  have complete := length_of_accepted accepted
  rw [parseCron5, if_neg (not_not.mpr complete)] at accepted
  refine isSome_matchesFields (fun part member => ?_) accepted
  exact (mem_cronParts (List.of_mem_zip member).1).1

/-- The scan stops at a match, and goes on otherwise. -/
theorem scanMinutes_succ {matched : Bool} {cursor : Int} (count : Nat)
    (decided : matchesMoment expr cursor = some matched) :
    scanMinutes (cronParts expr) (count + 1) cursor =
      if matched then some (some cursor)
      else scanMinutes (cronParts expr) count (cursor + minuteMicros) := by
  rw [scanMinutes]
  unfold matchesMoment at decided
  rw [decided]
  rfl

/-- The scan finds the first of its minutes that matches. -/
theorem scanMinutes_eq_some_iff (accepted : parseCron5 expr = some none) :
    ∀ {count : Nat} {cursor found : Int},
      (scanMinutes (cronParts expr) count cursor).join = some found ↔
        ∃ place < count, found = cursor + place * minuteMicros ∧
          matchesMoment expr found = some true ∧
          ∀ earlier < place, matchesMoment expr (cursor + earlier * minuteMicros) ≠ some true
  | 0, cursor, found => iff_of_false nofun fun ⟨_, below, _⟩ => Nat.not_lt_zero _ below
  | count + 1, cursor, found => by
      obtain ⟨matched, decided⟩ := Option.isSome_iff_exists.mp
        (isSome_matchesMoment accepted cursor)
      rw [scanMinutes_succ count decided]
      cases matched with
      | true =>
          rw [if_pos rfl, Option.join_some, Option.some_inj]
          constructor
          · rintro rfl
            exact ⟨0, Nat.succ_pos count, by simp, decided, nofun⟩
          · rintro ⟨place, _, same, _, first⟩
            cases place with
            | zero => simpa using same.symm
            | succ place => exact absurd (by simpa using decided) (first 0 (Nat.succ_pos place))
      | false =>
          rw [if_neg Bool.false_ne_true, scanMinutes_eq_some_iff accepted]
          have shift (place : Nat) : cursor + minuteMicros + place * minuteMicros =
              cursor + (place + 1 : Nat) * minuteMicros := by
            unfold minuteMicros
            omega
          constructor
          · rintro ⟨place, below, same, matched, first⟩
            refine ⟨place + 1, Nat.succ_lt_succ below, same.trans (shift place), matched, ?_⟩
            intro earlier before
            cases earlier with
            | zero => simp [decided]
            | succ earlier =>
                rw [← shift]
                exact first earlier (Nat.lt_of_succ_lt_succ before)
          · rintro ⟨place, below, same, matched, first⟩
            cases place with
            | zero =>
                rw [same] at matched
                simp [decided] at matched
            | succ place =>
                refine ⟨place, Nat.lt_of_succ_lt_succ below, same.trans (shift place).symm,
                  matched, fun earlier before => ?_⟩
                rw [shift]
                exact first (earlier + 1) (Nat.succ_lt_succ before)

/-- The next moment as the scan finds it. -/
theorem nextFireAtForCron_eq (complete : (cronParts expr).length = 5) (now offset : Int) :
    nextFireAtForCron expr now offset = (scanMinutes (cronParts expr) maxMinutesScan
      ((now + offset) / minuteMicros * minuteMicros + minuteMicros)).map
        (Option.map (· - offset)) := by
  rw [nextFireAtForCron, if_neg (not_not.mpr complete)]
  generalize maxMinutesScan = count
  dsimp only
  generalize scanMinutes (cronParts expr) count _ = scanned
  cases scanned <;> rfl

/-- The scan from a moment finds the next minute of the expression within its reach. -/
theorem searches_nextFireAt (accepted : parseCron5 expr = some none) (offset : Int) :
    Searches (Fires expr offset) scanReach
      fun now => (nextFireAtForCron expr now offset).join := by
  intro now moment
  -- The minutes of the scan are those after the moment, at a distance below the reach.
  have minutes {found : Int} (aligned : (found + offset) % minuteMicros = 0) (later : now < found) :
      ∃ place : Nat, found + offset =
        (now + offset) / minuteMicros * minuteMicros + minuteMicros + place * minuteMicros := by
    refine ⟨((found + offset) / minuteMicros - (now + offset) / minuteMicros - 1).toNat, ?_⟩
    unfold minuteMicros at aligned ⊢
    omega
  have scheduled : (nextFireAtForCron expr now offset).join = some moment ↔
      (scanMinutes (cronParts expr) maxMinutesScan
        ((now + offset) / minuteMicros * minuteMicros + minuteMicros)).join =
          some (moment + offset) := by
    rw [nextFireAtForCron_eq (length_of_accepted accepted)]
    generalize scanMinutes (cronParts expr) maxMinutesScan _ = scanned
    cases scanned with
    | none => exact iff_of_false nofun nofun
    | some found =>
        cases found with
        | none => exact iff_of_false nofun nofun
        | some found =>
            show some (found - offset) = some moment ↔ some found = some (moment + offset)
            rw [Option.some_inj, Option.some_inj]
            omega
  rw [scheduled, scanMinutes_eq_some_iff accepted]
  constructor
  · rintro ⟨place, below, same, matched, first⟩
    have aligned : (moment + offset) % minuteMicros = 0 := by
      rw [same]
      unfold minuteMicros
      omega
    refine ⟨⟨⟨⟨aligned, matched⟩, ?_⟩, ?_⟩, ?_⟩
    · unfold minuteMicros at same
      omega
    · rintro other ⟨⟨otherAligned, otherMatched⟩, otherLater⟩
      obtain ⟨earlier, same'⟩ := minutes otherAligned otherLater
      by_contra before
      refine first earlier ?_ (same' ▸ otherMatched)
      unfold minuteMicros at same same'
      omega
    · unfold scanReach
      unfold minuteMicros at same ⊢
      omega
  · rintro ⟨⟨⟨⟨aligned, matched⟩, later⟩, least⟩, within⟩
    obtain ⟨place, same⟩ := minutes aligned later
    refine ⟨place, ?_, same, matched, ?_⟩
    · unfold scanReach at within
      unfold minuteMicros at same within
      omega
    · intro earlier before otherMatched
      have bound := least (show _ - offset ∈ after (Fires expr offset) now from
        ⟨⟨?_, by rwa [Int.sub_add_cancel]⟩, ?_⟩)
      · unfold minuteMicros at same bound
        omega
      · rw [Int.sub_add_cancel]
        unfold minuteMicros
        omega
      · unfold minuteMicros
        omega

/-- Spaces around an expression change nothing. -/
theorem nextFireAtForCron_strip (expr : String) (now offset : Int) :
    nextFireAtForCron (strip expr) now offset = nextFireAtForCron expr now offset := by
  have parts : cronParts (strip expr) = cronParts expr := by
    unfold cronParts
    rw [strip_strip]
  unfold nextFireAtForCron
  rw [parts]

/-- A job of an expression waits for the moment that the scan finds. -/
theorem decideRun_of_next {job : TimerJob} {success : Bool} {errorMessage : Option String}
    (cron : job.mode = .cron) (given : job.cronExpr.getD "" = expr)
    (open_ : job.terminalStatus success now = none)
    (found : nextFireAtForCron expr now offset = some (some moment)) :
    job.decideRun success errorMessage now offset = some (none, some moment, errorMessage) := by
  rw [TimerJob.decideRun, open_, cron, given, nextFireAtForCron_strip, found]
  rfl

/-- The scan for an accepted expression that matches some minute finds the next one, and jobs go on,
exactly when it matches one within the reach of the scan. -/
theorem next_fire_iff (accepted : parseCron5 expr = some none) (now offset : Int) :
    ((Fires expr offset).Nonempty → FindsNext expr now offset) ↔
      ((Fires expr offset).Nonempty →
        ∃ moment ∈ after (Fires expr offset) now, moment ≤ now + scanReach) := by
  refine imp_congr_right fun _ => ?_
  have searched (moment : Int) : (nextFireAtForCron expr now offset).join = some moment ↔
      IsLeast (after (Fires expr offset) now) moment ∧ moment ≤ now + scanReach :=
    searches_nextFireAt accepted offset now moment
  constructor
  · rintro ⟨⟨moment, found, least⟩, _⟩
    have within := ((searched moment).mp (by rw [found, Option.join_some])).2
    exact ⟨moment, least.1, within⟩
  · rintro ⟨close, member, within⟩
    obtain ⟨moment, least⟩ := exists_isLeast_after ⟨close, member⟩
    have found := (searched moment).mpr ⟨least, Int.le_trans (least.2 member) within⟩
    rw [Option.join_eq_some_iff] at found
    exact ⟨⟨moment, found, least⟩, fun job success errorMessage cron given open_ =>
      ⟨moment, decideRun_of_next cron given open_ found⟩⟩

/-- Every ten minutes: the scan finds the next minute from the epoch on. -/
theorem next_fire_ten_minutes : FindsNext "*/10 * * * *" 0 0 :=
  (next_fire_iff (by decide +kernel) 0 0).mpr
    (fun _ => ⟨600000000, ⟨⟨by decide +kernel, by decide +kernel⟩, by decide⟩, by decide⟩)
    ⟨600000000, by decide +kernel, by decide +kernel⟩

/-! ## The days that an expression matches -/

/-- The values that a field denotes. -/
def fieldValues (field : CronField) (token : String) : Set Int :=
  {value | ∃ items, Lists field token items ∧ value ∈ itemValues field items}

/-- The sets of values that the five fields denote. -/
structure CronSets where
  minute : Set Int
  hour : Set Int
  day : Set Int
  month : Set Int
  weekday : Set Int

/-- The sets of an expression. -/
def cronSets (expr : String) : CronSets :=
  let values (place lo hi : Nat) (name : String) : Set Int :=
    fieldValues { lo, hi, name } ((cronParts expr).getD place "")
  { minute := values 0 0 59 "minute", hour := values 1 0 23 "hour", day := values 2 1 31 "day",
    month := values 3 1 12 "month", weekday := values 4 0 6 "weekday" }

/-- The days of an expression are those of its third field. -/
theorem cronSets_day (expr : String) : (cronSets expr).day =
    fieldValues { lo := 1, hi := 31, name := "day" } ((cronParts expr).getD 2 "") := rfl

/-- The months of an expression are those of its fourth field. -/
theorem cronSets_month (expr : String) : (cronSets expr).month =
    fieldValues { lo := 1, hi := 12, name := "month" } ((cronParts expr).getD 3 "") := rfl

/-- The weekdays of an expression are those of its fifth field. -/
theorem cronSets_weekday (expr : String) : (cronSets expr).weekday =
    fieldValues { lo := 0, hi := 6, name := "weekday" } ((cronParts expr).getD 4 "") := rfl

/-- The fields for day, month and weekday match a day, Monday being zero. -/
def CronSets.Matches (sets : CronSets) (days : Int) : Prop :=
  (monthDay days).2 ∈ sets.day ∧ (monthDay days).1 ∈ sets.month ∧ (days + 3) % 7 ∈ sets.weekday

/-- The fields for hour and minute match a minute of a day. -/
def CronSets.Timed (sets : CronSets) (minutes : Int) : Prop :=
  minutes % 60 ∈ sets.minute ∧ minutes / 60 % 24 ∈ sets.hour

/-- A field matches exactly its values. -/
theorem matchesField_iff {lo hi : Nat} {name token : String} {value : Int}
    (lists : ∃ items, Lists { lo, hi, name } token items) (low : lo ≤ value) (high : value ≤ hi) :
    matchesField value token lo hi = some true ↔ value ∈ fieldValues { lo, hi, name } token := by
  have inside : value ∈ CronField.values { lo, hi, name } := ⟨low, high⟩
  constructor
  · intro matched
    obtain ⟨items, lists⟩ := lists
    obtain ⟨found, decided, exactHere⟩ := matchesField_of_lists lists value
    rw [matched] at decided
    exact ⟨items, lists, (exactHere inside).mp (Option.some.inj decided).symm⟩
  · rintro ⟨items, lists, member⟩
    obtain ⟨found, decided, exactHere⟩ := matchesField_of_lists lists value
    rw [decided, (exactHere inside).mpr member]

/-- The fields match when each of them does. -/
theorem matchesFields_cons_iff {value : Int} {token : String} {field : CronField}
    {rest : List (Int × String × CronField)} : matchesFields ((value, token, field) :: rest) =
      some true ↔ matchesField value token field.lo field.hi = some true ∧
        matchesFields rest = some true := by
  rw [matchesFields]
  cases matchesField value token field.lo field.hi with
  | none => exact iff_of_false (by rintro ⟨⟩) (by rintro ⟨⟨⟩, _⟩)
  | some found =>
      cases found with
      | false => exact iff_of_false (by rintro ⟨⟩) (by rintro ⟨⟨⟩, _⟩)
      | true => exact (and_iff_right rfl).symm

/-- An expression of five fields, one by one. -/
theorem exists_cronParts (complete : (cronParts expr).length = 5) :
    ∃ minute hour day month weekday, cronParts expr = [minute, hour, day, month, weekday] := by
  generalize cronParts expr = parts at complete
  match parts, complete with
  | [minute, hour, day, month, weekday], _ => exact ⟨minute, hour, day, month, weekday, rfl⟩

/-- An accepted expression fires at the minutes of its days that hour and minute allow. -/
theorem mem_fires_iff (accepted : parseCron5 expr = some none) :
    moment ∈ Fires expr offset ↔ (moment + offset) % minuteMicros = 0 ∧
      (cronSets expr).Timed ((moment + offset) / minuteMicros) ∧
      (cronSets expr).Matches ((moment + offset) / minuteMicros / 1440) := by
  refine and_congr_right fun _ => ?_
  have lists : ∀ part ∈ (cronParts expr).zip cronFields, ∃ items, Lists part.2 part.1 items :=
    fun part member => exists_lists_of_accepted accepted member
  have range := monthDay_range ((moment + offset) / minuteMicros / 1440)
  obtain ⟨minute, hour, day, month, weekday, parts⟩ :=
    exists_cronParts (length_of_accepted accepted)
  rw [matchesMoment, calendarFields, CronSets.Timed, CronSets.Matches, cronSets]
  rw [parts] at lists ⊢
  generalize (moment + offset) / minuteMicros = minutes at range ⊢
  simp only [cronFields, List.zip_cons_cons, List.zip_nil_right, List.forall_mem_cons] at lists ⊢
  obtain ⟨inMinute, inHour, inDay, inMonth, inWeekday, _⟩ := lists
  simp only [matchesFields_cons_iff, List.getD_cons_zero, List.getD_cons_succ]
  rw [matchesField_iff inMinute (by omega) (by omega),
    matchesField_iff inHour (by omega) (by omega),
    matchesField_iff inDay (by omega) (by omega), matchesField_iff inMonth (by omega) (by omega),
    matchesField_iff inWeekday (by omega) (by omega), matchesFields]
  simp only [and_assoc, and_true]

/-- The fields of an accepted expression denote values within their bounds. -/
theorem exists_values (accepted : parseCron5 expr = some none) :
    (∃ value ∈ (cronSets expr).minute, 0 ≤ value ∧ value ≤ 59) ∧
      (∃ value ∈ (cronSets expr).hour, 0 ≤ value ∧ value ≤ 23) ∧
      (∃ value ∈ (cronSets expr).month, 1 ≤ value ∧ value ≤ 12) ∧
      ∃ value ∈ (cronSets expr).weekday, 0 ≤ value ∧ value ≤ 6 := by
  have lists : ∀ part ∈ (cronParts expr).zip cronFields,
      ∃ value ∈ fieldValues part.2 part.1, part.2.lo ≤ value ∧ value ≤ part.2.hi := by
    intro part member
    obtain ⟨items, lists⟩ := exists_lists_of_accepted accepted member
    obtain ⟨value, inside, denoted⟩ :=
      lists.exists_mem (lo_le_hi_of_mem part.2 (List.of_mem_zip member).2)
    exact ⟨value, ⟨items, lists, denoted⟩, inside⟩
  obtain ⟨minute, hour, day, month, weekday, parts⟩ :=
    exists_cronParts (length_of_accepted accepted)
  rw [cronSets]
  rw [parts] at lists ⊢
  simp only [cronFields, List.zip_cons_cons, List.zip_nil_right, List.forall_mem_cons] at lists
  exact ⟨lists.1, lists.2.1, lists.2.2.2.1, lists.2.2.2.2.1⟩

/-- The time of day does not depend on the day. -/
theorem timed_add_days {sets : CronSets} {days time : Int} :
    sets.Timed (days * 1440 + time) ↔ sets.Timed time := by
  unfold CronSets.Timed
  rw [show (days * 1440 + time) % 60 = time % 60 by omega,
    show (days * 1440 + time) / 60 % 24 = time / 60 % 24 by omega]

/-- An accepted expression has a time of day at which it fires. -/
theorem exists_timed (accepted : parseCron5 expr = some none) :
    ∃ time, (0 ≤ time ∧ time < 1440) ∧ (cronSets expr).Timed time := by
  obtain ⟨⟨minute, inMinute, minuteRange⟩, ⟨hour, inHour, hourRange⟩, _⟩ := exists_values accepted
  refine ⟨hour * 60 + minute, by omega, ?_, ?_⟩
  · rwa [show (hour * 60 + minute) % 60 = minute by omega]
  · rwa [show (hour * 60 + minute) / 60 % 24 = hour by omega]

/-- The moment of a time of a day, at an offset of the timezone. -/
def momentOf (days time offset : Int) : Int := (days * 1440 + time) * minuteMicros - offset

/-- The minutes of a moment in the system timezone. -/
theorem momentOf_minutes (days time offset : Int) :
    (momentOf days time offset + offset) / minuteMicros = days * 1440 + time ∧
      (momentOf days time offset + offset) % minuteMicros = 0 := by
  unfold momentOf minuteMicros
  omega

/-- At a time of the expression, it fires exactly on its days. -/
theorem momentOf_mem_fires_iff (accepted : parseCron5 expr = some none) {days time : Int}
    (range : 0 ≤ time ∧ time < 1440) (timed : (cronSets expr).Timed time) :
    momentOf days time offset ∈ Fires expr offset ↔ (cronSets expr).Matches days := by
  obtain ⟨minutes, aligned⟩ := momentOf_minutes days time offset
  rw [mem_fires_iff accepted, minutes, timed_add_days, and_iff_right aligned, and_iff_right timed,
    show (days * 1440 + time) / 1440 = days by omega]

/-- An expression that matches a date but 29 February on every weekday always has a next moment
within the reach of the scan. -/
theorem near_of_date (accepted : parseCron5 expr = some none) {date : Int}
    (common : monthDay date ≠ (2, 29))
    (always : ∀ days, monthDay days = monthDay date → (cronSets expr).Matches days)
    (now offset : Int) : ∃ moment ∈ after (Fires expr offset) now, moment ≤ now + scanReach := by
  obtain ⟨time, range, timed⟩ := exists_timed accepted
  have fires {days : Int} (same : monthDay days = monthDay date) :
      momentOf days time offset ∈ Fires expr offset :=
    (momentOf_mem_fires_iff accepted range timed).mpr (always days same)
  -- The date is looked up from today, or from tomorrow when its time of day has passed.
  rcases Int.lt_or_le ((now + offset) / minuteMicros % 1440) time with ahead | passed
  · obtain ⟨days, later, soon, same⟩ :=
      exists_same_date common ((now + offset) / minuteMicros / 1440)
    refine ⟨momentOf days time offset, ⟨fires same, ?_⟩, ?_⟩
    · unfold momentOf
      unfold minuteMicros at *
      omega
    · unfold momentOf scanReach maxMinutesScan
      unfold minuteMicros at *
      omega
  · obtain ⟨days, later, soon, same⟩ :=
      exists_same_date common ((now + offset) / minuteMicros / 1440 + 1)
    refine ⟨momentOf days time offset, ⟨fires same, ?_⟩, ?_⟩
    · unfold momentOf
      unfold minuteMicros at *
      omega
    · unfold momentOf scanReach maxMinutesScan
      unfold minuteMicros at *
      omega

/-! ## 29 February -/

/-- The values of a field are those of its items. -/
theorem mem_fieldValues_iff {field : CronField} {token : String} {items : List CronItem}
    (lists : Lists field token items) {value : Int} (inside : value ∈ field.values) :
    value ∈ fieldValues field token ↔ value ∈ itemValues field items := by
  refine ⟨?_, fun member => ⟨items, lists, member⟩⟩
  rintro ⟨others, listsOther, member⟩
  obtain ⟨found, decided, exactHere⟩ := matchesField_of_lists lists value
  obtain ⟨same, decidedSame, exactOther⟩ := matchesField_of_lists listsOther value
  rw [decided] at decidedSame
  cases decidedSame
  exact (exactHere inside).mp ((exactOther inside).mpr member)

/-- A field of one number denotes the number. -/
theorem mem_fieldValues_number_iff {field : CronField} {token : String} {number : Nat}
    (single : cronChunks token = [token]) (read : readInt token = some number)
    (holds : field.Holds number) {value : Int} (inside : value ∈ field.values) :
    value ∈ fieldValues field token ↔ value = number := by
  have lists : Lists field token [⟨.value number, none⟩] := by
    rw [Lists, single]
    exact .cons (.plain (.value read holds)) .nil
  rw [mem_fieldValues_iff lists inside, itemValues]
  simp [CronItem.values]

/-- From 1 March 2025 the scan misses 29 February 2028. -/
theorem leap_day_missed : parseCron5 "0 0 29 2 *" = some none ∧
    momentOf 21243 0 0 ∈ Fires "0 0 29 2 *" 0 ∧
    ¬FindsNext "0 0 29 2 *" (momentOf 20148 0 0) 0 := by
  have accepted : parseCron5 "0 0 29 2 *" = some none := by decide +kernel
  refine ⟨accepted, ⟨by decide +kernel, by decide +kernel⟩, ?_⟩
  rintro ⟨⟨moment, found, least⟩, _⟩
  have within := ((searches_nextFireAt accepted 0 (momentOf 20148 0 0) moment).mp
    (show (nextFireAtForCron _ _ _).join = _ by rw [found, Option.join_some])).2
  obtain ⟨_, _, day, month, _⟩ := (mem_fires_iff accepted).mp least.1.1
  generalize place : (moment + 0) / minuteMicros / 1440 = days at day month
  have range := monthDay_range days
  rw [cronSets_day, show (cronParts "0 0 29 2 *").getD 2 "" = "29" by decide +kernel,
    @mem_fieldValues_number_iff _ _ 29 (by decide +kernel) (by decide +kernel) (by decide) _
      ⟨range.2.2.1, range.2.2.2⟩] at day
  rw [cronSets_month, show (cronParts "0 0 29 2 *").getD 3 "" = "2" by decide +kernel,
    @mem_fieldValues_number_iff _ _ 2 (by decide +kernel) (by decide +kernel) (by decide) _
      ⟨range.1, range.2.1⟩] at month
  have common : ∀ place : Fin 367, monthDay (20148 + (place.val : Int)) ≠ (2, 29) := by
    decide +kernel
  have later := least.1.2
  have window : 20148 ≤ days ∧ days ≤ 20514 := by
    unfold momentOf at later within
    unfold scanReach maxMinutesScan at within
    unfold minuteMicros at later within place
    omega
  refine common ⟨(days - 20148).toNat, by omega⟩ ?_
  rw [show 20148 + ((days - 20148).toNat : Int) = days by omega]
  exact Prod.ext month day

end FairyClaw
