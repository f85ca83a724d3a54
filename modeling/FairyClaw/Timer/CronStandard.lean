import FairyClaw.Timer.CronNext

/-! # Standard cron

Standard cron numbers the weekdays from Sunday, and when both day fields are restricted a day
matches if either does. `FairyClaw.nextFireAtForCron` numbers them from Monday, asks both day fields
to match, and scans 366 days. An expression fires as standard cron has it exactly when its weekday
field allows every weekday and, further, the day fields are combined alike and some date other than
29 February is allowed, or when it never fires at all (`FairyClaw.cron_standard_iff`). Which fields
count as restricted is a parameter, since manuals differ on fields such as `*/2`.
-/

namespace FairyClaw

open Foundation

section Reference

variable (restricted : String → Prop) (expr : String)

/-- Both day fields are restricted. -/
def BothRestricted : Prop :=
  restricted ((cronParts expr).getD 2 "") ∧ restricted ((cronParts expr).getD 4 "")

/-- The days of standard cron, Sunday being zero. -/
def StandardDay (days : Int) : Prop :=
  (monthDay days).1 ∈ (cronSets expr).month ∧
    (BothRestricted restricted expr →
      (monthDay days).2 ∈ (cronSets expr).day ∨ (days + 4) % 7 ∈ (cronSets expr).weekday) ∧
    (¬BothRestricted restricted expr →
      (monthDay days).2 ∈ (cronSets expr).day ∧ (days + 4) % 7 ∈ (cronSets expr).weekday)

/-- The minutes at which standard cron fires, at an offset of the timezone. -/
def StandardFires (offset : Int) : Set Int :=
  {moment | (moment + offset) % minuteMicros = 0 ∧
    (cronSets expr).Timed ((moment + offset) / minuteMicros) ∧
    StandardDay restricted expr ((moment + offset) / minuteMicros / 1440)}

/-- The start and the moments that come from iterating `next_fire_at_for_cron`, as far as it gives
one; the outer `none` is an exception. -/
def cronTimes (start offset : Int) : Nat → Option (Option Int) :=
  attempted (fun now => nextFireAtForCron expr now offset) start

/-- Iterating `next_fire_at_for_cron` gives the moments of standard cron. -/
def FollowsStandard (start offset : Int) : Prop :=
  ∀ count, cronTimes expr start offset count =
    some (repeated (nextIn (StandardFires restricted expr offset)) start count)

/-- The fields for day and month allow the date of a day. -/
def Dated (days : Int) : Prop :=
  (monthDay days).2 ∈ (cronSets expr).day ∧ (monthDay days).1 ∈ (cronSets expr).month

/-- The field for the weekday allows all of them. -/
def EveryWeekday : Prop := ∀ weekday, 0 ≤ weekday → weekday < 7 → weekday ∈ (cronSets expr).weekday

/-- The expressions on which the code is standard cron. -/
inductive StandardExpr : Prop
  | yearly (days : Int) : EveryWeekday expr → ¬BothRestricted restricted expr → Dated expr days →
      monthDay days ≠ (2, 29) → StandardExpr
  | daily : EveryWeekday expr → BothRestricted restricted expr →
      (∀ days, (monthDay days).1 ∈ (cronSets expr).month → Dated expr days) → StandardExpr
  | never : ¬BothRestricted restricted expr → (∀ days, ¬Dated expr days) → StandardExpr

end Reference

variable {restricted : String → Prop} {expr : String} {start offset : Int}

/-! ## Days -/

/-- A day matches by its date and by its weekday. -/
theorem matches_iff {days : Int} : (cronSets expr).Matches days ↔
    Dated expr days ∧ (days + 3) % 7 ∈ (cronSets expr).weekday :=
  (and_assoc).symm

/-- The code and standard cron tell days apart by date and weekday only. -/
theorem days_congr {days other : Int} (date : monthDay other = monthDay days)
    (weekday : (other + 3) % 7 = (days + 3) % 7) :
    ((cronSets expr).Matches other ↔ (cronSets expr).Matches days) ∧
      (StandardDay restricted expr other ↔ StandardDay restricted expr days) := by
  have sunday : (other + 4) % 7 = (days + 4) % 7 := by omega
  unfold CronSets.Matches StandardDay
  rw [date, weekday, sunday]
  exact ⟨Iff.rfl, Iff.rfl⟩

/-- Every kind of day comes again, as late as wanted. -/
theorem exists_same_day (days late : Int) : ∃ other, late ≤ other ∧
    monthDay other = monthDay days ∧ (other + 3) % 7 = (days + 3) % 7 :=
  exists_same_date_weekday days late (by omega) (by omega)

/-- Where every weekday is allowed, the date decides about a standard day. -/
theorem standardDay_iff_of_every (every : EveryWeekday expr) {days : Int} :
    StandardDay restricted expr days ↔ (monthDay days).1 ∈ (cronSets expr).month ∧
      (¬BothRestricted restricted expr → (monthDay days).2 ∈ (cronSets expr).day) := by
  have weekday := every ((days + 4) % 7) (by omega) (by omega)
  refine and_congr_right fun _ => ⟨fun both free => (both.2 free).1, fun dated => ?_⟩
  exact ⟨fun _ => .inr weekday, fun free => ⟨dated free, weekday⟩⟩

/-- A set of weekdays that holds the day before each of its days holds all of them. -/
theorem weekday_mem_of_closed {weekdays : Set Int} {known : Int} (member : known ∈ weekdays)
    (inside : 0 ≤ known ∧ known < 7)
    (closed : ∀ weekday, 0 ≤ weekday → weekday < 7 → (weekday + 1) % 7 ∈ weekdays →
      weekday ∈ weekdays) {weekday : Int} (first : 0 ≤ weekday) (last : weekday < 7) :
    weekday ∈ weekdays := by
  have back : ∀ count : Nat, (known - count) % 7 ∈ weekdays := by
    intro count
    induction count with
    | zero => rwa [show (known - ((0 : Nat) : Int)) % 7 = known by omega]
    | succ count ih =>
        refine closed _ (by omega) (by omega) ?_
        rwa [show ((known - ((count + 1 : Nat) : Int)) % 7 + 1) % 7 = (known - count) % 7 by omega]
  have reached := back (known - weekday + 7).toNat
  rwa [show (known - ((known - weekday + 7).toNat : Int)) % 7 = weekday by omega] at reached

/-! ## Moments -/

/-- At a time of the expression, the standard fires exactly on its days. -/
theorem momentOf_mem_standard_iff {days time : Int} (range : 0 ≤ time ∧ time < 1440)
    (timed : (cronSets expr).Timed time) :
    momentOf days time offset ∈ StandardFires restricted expr offset ↔
      StandardDay restricted expr days := by
  obtain ⟨minutes, aligned⟩ := momentOf_minutes days time offset
  show _ ∧ _ ∧ _ ↔ _
  rw [minutes, timed_add_days, and_iff_right aligned, and_iff_right timed,
    show (days * 1440 + time) / 1440 = days by omega]

/-- The moments of a later day are later. -/
theorem lt_momentOf {days time now : Int} (range : 0 ≤ time ∧ time < 1440)
    (later : (now + offset) / minuteMicros / 1440 + 1 ≤ days) :
    now < momentOf days time offset := by
  unfold momentOf
  unfold minuteMicros at *
  omega

/-- When the days are the same, so are the moments. -/
theorem fires_iff_of_days (accepted : parseCron5 expr = some none)
    (same : ∀ days, (cronSets expr).Matches days ↔ StandardDay restricted expr days)
    (moment : Int) :
    moment ∈ Fires expr offset ↔ moment ∈ StandardFires restricted expr offset := by
  rw [mem_fires_iff accepted, same]
  rfl

/-! ## Expressions on which the code is standard cron -/

/-- An expression that matches some date but 29 February, and the same days as standard cron, fires
as standard cron has it. -/
theorem follows_of_days (accepted : parseCron5 expr = some none) {date : Int}
    (common : monthDay date ≠ (2, 29))
    (always : ∀ days, monthDay days = monthDay date → (cronSets expr).Matches days)
    (same : ∀ days, (cronSets expr).Matches days ↔ StandardDay restricted expr days)
    (start offset : Int) : FollowsStandard restricted expr start offset := by
  intro count
  rw [cronTimes, attempted_eq fun now => nextFireAtForCron_isSome accepted now offset]
  obtain ⟨moment, _, found, foundOther⟩ := repeated_eq_of_agree
    (searches_nextFireAt accepted offset) (fun moment _ => fires_iff_of_days accepted same moment)
    (fun now _ => near_of_date accepted common always now offset) count
  rw [found, foundOther]

/-- Without a date that fits, neither fires, and the code follows the standard. -/
theorem follows_of_never (accepted : parseCron5 expr = some none)
    (free : ¬BothRestricted restricted expr) (never : ∀ days, ¬Dated expr days)
    (start offset : Int) : FollowsStandard restricted expr start offset := by
  intro count
  rw [cronTimes, attempted_eq fun now => nextFireAtForCron_isSome accepted now offset]
  cases count with
  | zero => rw [repeated, repeated]
  | succ count =>
      have standard : nextIn (StandardFires restricted expr offset) start = none := by
        refine nextIn_eq_none_iff.mpr (Set.eq_empty_of_forall_notMem fun moment member => ?_)
        obtain ⟨_, _, month, _, both⟩ := member.1
        exact never _ ⟨(both free).1, month⟩
      have code : (nextFireAtForCron expr start offset).join = none := by
        refine Option.eq_none_iff_forall_ne_some.mpr fun moment found => ?_
        have fires := ((searches_nextFireAt accepted offset start moment).mp found).1.1.1
        exact never _ (matches_iff.mp ((mem_fires_iff accepted).mp fires).2.2).1
      have ended := @repeated_none start (fun now => (nextFireAtForCron expr now offset).join) code
      rw [repeated_none standard, ended]

/-- Where the days are the standard ones, the code follows the standard. -/
theorem follows_of_standardExpr (accepted : parseCron5 expr = some none)
    (alike : StandardExpr restricted expr) (start offset : Int) :
    FollowsStandard restricted expr start offset := by
  cases alike with
  | yearly date every free dated common =>
      have weekday (days : Int) : (days + 3) % 7 ∈ (cronSets expr).weekday :=
        every _ (by omega) (by omega)
      refine follows_of_days accepted common (fun days same => ?_) (fun days => ?_) start offset
      · exact ⟨same ▸ dated.1, same ▸ dated.2, weekday days⟩
      · rw [standardDay_iff_of_every every, matches_iff]
        exact ⟨fun both => ⟨both.1.2, fun _ => both.1.1⟩,
          fun both => ⟨⟨both.2 free, both.1⟩, weekday days⟩⟩
  | daily every both whole =>
      have weekday (days : Int) : (days + 3) % 7 ∈ (cronSets expr).weekday :=
        every _ (by omega) (by omega)
      obtain ⟨_, _, ⟨month, allowed, range⟩, _⟩ := exists_values accepted
      obtain ⟨date, first⟩ := exists_first_of_month range.1 range.2
      have common : monthDay date ≠ (2, 29) := by
        rw [first]
        intro leap
        cases leap
      refine follows_of_days accepted common (fun days same => ?_) (fun days => ?_) start offset
      · have inMonth : (monthDay days).1 ∈ (cronSets expr).month := by
          rw [same, first]
          exact allowed
        exact matches_iff.mpr ⟨whole days inMonth, weekday days⟩
      · rw [standardDay_iff_of_every every, matches_iff]
        exact ⟨fun dated => ⟨dated.1.2, fun free => absurd both free⟩,
          fun month => ⟨whole days month.1, weekday days⟩⟩
  | never free never => exact follows_of_never accepted free never start offset

/-! ## Only those expressions -/

/-- A date that the fields allow is a day of standard cron on some weekday. -/
theorem exists_standardDay (accepted : parseCron5 expr = some none) {days : Int}
    (month : (monthDay days).1 ∈ (cronSets expr).month)
    (day : ¬BothRestricted restricted expr → (monthDay days).2 ∈ (cronSets expr).day) :
    ∃ other, StandardDay restricted expr other := by
  obtain ⟨_, _, _, weekday, allowed, range⟩ := exists_values accepted
  obtain ⟨other, _, same, onWeekday⟩ := @exists_same_date_weekday days 0 ((weekday + 6) % 7)
    (by omega) (by omega)
  have sunday : (other + 4) % 7 = weekday := by omega
  refine ⟨other, same ▸ month, fun _ => .inr (sunday ▸ allowed), fun free => ?_⟩
  exact ⟨same ▸ day free, sunday ▸ allowed⟩

/-- Without a standard day, there is no date that fits. -/
theorem never_of_no_day (accepted : parseCron5 expr = some none)
    (empty : ∀ days, ¬StandardDay restricted expr days) : StandardExpr restricted expr := by
  obtain ⟨_, _, ⟨month, allowed, range⟩, _⟩ := exists_values accepted
  obtain ⟨date, first⟩ := exists_first_of_month range.1 range.2
  have inMonth : (monthDay date).1 ∈ (cronSets expr).month := by rwa [first]
  have free : ¬BothRestricted restricted expr := by
    intro both
    obtain ⟨other, standard⟩ := exists_standardDay accepted inMonth (absurd both)
    exact empty other standard
  refine .never free fun days dated => ?_
  obtain ⟨other, standard⟩ := exists_standardDay accepted dated.2 fun _ => dated.1
  exact empty other standard

/-- When the moments from a start on are the same, so are the days. -/
theorem days_of_moments (accepted : parseCron5 expr = some none)
    (same : ∀ moment, start < moment →
      (moment ∈ Fires expr offset ↔ moment ∈ StandardFires restricted expr offset)) (days : Int) :
    (cronSets expr).Matches days ↔ StandardDay restricted expr days := by
  obtain ⟨time, range, timed⟩ := exists_timed accepted
  obtain ⟨other, late, date, weekday⟩ :=
    exists_same_day days ((start + offset) / minuteMicros / 1440 + 1)
  have moments := same _ (lt_momentOf range late)
  rw [momentOf_mem_fires_iff accepted range timed, momentOf_mem_standard_iff range timed] at moments
  have congr := @days_congr restricted expr days other date weekday
  rw [← congr.1, ← congr.2, moments]

/-- Where the days are the standard ones, every weekday is allowed. -/
theorem everyWeekday_of_days (accepted : parseCron5 expr = some none) {days : Int}
    (standard : StandardDay restricted expr days)
    (same : ∀ days, (cronSets expr).Matches days ↔ StandardDay restricted expr days) :
    EveryWeekday expr := by
  obtain ⟨_, _, _, known, allowed, range⟩ := exists_values accepted
  intro weekday first last
  refine weekday_mem_of_closed allowed (by omega) (fun weekday first last after => ?_) first last
  obtain ⟨other, _, date, onWeekday⟩ := exists_same_date_weekday days 0 first last
  have sunday : (other + 4) % 7 = (weekday + 1) % 7 := by omega
  have day : StandardDay restricted expr other := by
    refine ⟨date ▸ standard.1, fun _ => .inr (sunday ▸ after), fun free => ?_⟩
    exact ⟨date ▸ (standard.2.2 free).1, sunday ▸ after⟩
  rw [← onWeekday]
  exact (matches_iff.mp ((same other).mpr day)).2

/-- An expression for 29 February alone leaves gaps beyond the reach of the scan. -/
theorem exists_common_date (accepted : parseCron5 expr = some none)
    (near : ∀ now, start ≤ now → ∃ moment ∈ after (Fires expr offset) now,
      moment ≤ now + scanReach) : ∃ days, Dated expr days ∧ monthDay days ≠ (2, 29) := by
  obtain ⟨first, late, common⟩ := exists_common_year ((start + offset) / minuteMicros / 1440 + 1)
  have begun : start < momentOf first 0 offset := lt_momentOf (by decide) late
  obtain ⟨moment, ⟨fires, later⟩, within⟩ := near _ (Int.le_of_lt begun)
  obtain ⟨_, _, matched⟩ := (mem_fires_iff accepted).mp fires
  refine ⟨_, (matches_iff.mp matched).1, common _ ?_ ?_⟩
  · unfold momentOf at later
    unfold minuteMicros at *
    omega
  · unfold momentOf scanReach maxMinutesScan at within
    unfold minuteMicros at *
    omega

/-- The code fires as standard cron has it exactly on the expressions of `StandardExpr`. -/
theorem cron_standard_iff (restricted : String → Prop) {expr : String}
    (accepted : parseCron5 expr = some none) (start offset : Int) :
    FollowsStandard restricted expr start offset ↔ StandardExpr restricted expr := by
  refine ⟨fun follows => ?_, fun alike => follows_of_standardExpr accepted alike start offset⟩
  by_cases present : ∃ days, StandardDay restricted expr days
  · obtain ⟨date, standard⟩ := present
    obtain ⟨time, range, timed⟩ := exists_timed accepted
    have endless (now : Int) : (after (StandardFires restricted expr offset) now).Nonempty := by
      obtain ⟨other, late, same, weekday⟩ :=
        exists_same_day date ((now + offset) / minuteMicros / 1440 + 1)
      refine ⟨momentOf other time offset, ?_, lt_momentOf range late⟩
      exact (momentOf_mem_standard_iff range timed).mpr
        ((@days_congr restricted expr date other same weekday).2.mpr standard)
    have equal (count : Nat) := follows count
    simp only [cronTimes, Option.some_inj,
      attempted_eq fun now => nextFireAtForCron_isSome accepted now offset] at equal
    obtain ⟨moments, near⟩ :=
      (repeated_eq_iff (searches_nextFireAt accepted offset) endless).mp equal
    have same := days_of_moments accepted moments
    have every := everyWeekday_of_days accepted standard same
    by_cases both : BothRestricted restricted expr
    · refine .daily every both fun days month => (matches_iff.mp ((same days).mpr ?_)).1
      exact (standardDay_iff_of_every every).mpr ⟨month, absurd both⟩
    · obtain ⟨days, dated, common⟩ := exists_common_date accepted near
      exact .yearly days every both dated common
  · exact never_of_no_day accepted (not_exists.mp present)

/-- A field is restricted when it does not begin with a star. -/
def Starless (token : String) : Prop := token.toList.head? ≠ some '*'

/-- A field `*` has all values. -/
theorem mem_fieldValues_star {field : CronField} {value : Int} (inside : value ∈ field.values) :
    value ∈ fieldValues field "*" := by
  have lists : Lists field "*" [⟨.any, none⟩] := by
    rw [Lists, show cronChunks "*" = ["*"] by decide +kernel]
    exact .cons (.plain .any) .nil
  exact (mem_fieldValues_iff lists inside).mpr ⟨_, List.mem_singleton_self _, inside⟩

/-- Noon of every day is standard. -/
theorem noon_standard : FollowsStandard Starless "0 12 * * *" 0 0 := by
  refine (cron_standard_iff Starless (by decide +kernel) 0 0).mpr (.yearly 0 ?_ ?_ ?_ ?_)
  · intro weekday first last
    rw [cronSets_weekday, show (cronParts "0 12 * * *").getD 4 "" = "*" by decide +kernel]
    exact mem_fieldValues_star ⟨first, Int.lt_add_one_iff.mp last⟩
  · rintro ⟨_, weekday⟩
    rw [show (cronParts "0 12 * * *").getD 4 "" = "*" by decide +kernel] at weekday
    exact weekday (by decide)
  · refine ⟨?_, ?_⟩
    · rw [cronSets_day, show (cronParts "0 12 * * *").getD 2 "" = "*" by decide +kernel]
      exact mem_fieldValues_star ⟨by decide, by decide⟩
    · rw [cronSets_month, show (cronParts "0 12 * * *").getD 3 "" = "*" by decide +kernel]
      exact mem_fieldValues_star ⟨by decide, by decide⟩
  · decide

/-- An expression for the working days fires on a Saturday. -/
theorem saturday_fires : parseCron5 "0 9 * * 1-5" = some none ∧
    ¬FollowsStandard Starless "0 9 * * 1-5" (momentOf 20568 539 0) 0 := by
  have accepted : parseCron5 "0 9 * * 1-5" = some none := by decide +kernel
  refine ⟨accepted, fun follows => ?_⟩
  have saturday : cronTimes "0 9 * * 1-5" (momentOf 20568 539 0) 0 1 =
      some (some (momentOf 20568 540 0)) := by
    decide +kernel
  have standard := Option.some.inj (saturday.symm.trans (follows 1))
  rw [repeated, repeated, Option.bind_some, eq_comm, nextIn_eq_some_iff] at standard
  obtain ⟨_, _, _, _, both⟩ := standard.1.1
  have free : ¬BothRestricted Starless "0 9 * * 1-5" := by
    rintro ⟨day, _⟩
    rw [show (cronParts "0 9 * * 1-5").getD 2 "" = "*" by decide +kernel] at day
    exact day (by decide)
  have working := (both free).2
  have lists : Lists { lo := 0, hi := 6, name := "weekday" } "1-5" [⟨.range 1 5, none⟩] := by
    rw [Lists, show cronChunks "1-5" = ["1" ++ "-" ++ "5"] by decide +kernel]
    exact .cons (.plain (.range (by decide +kernel) (by decide +kernel) (by decide) (by decide)
      (by decide))) .nil
  rw [cronSets_weekday, show (cronParts "0 9 * * 1-5").getD 4 "" = "1-5" by decide +kernel,
    mem_fieldValues_iff lists ⟨by decide, by decide⟩] at working
  obtain ⟨item, member, between⟩ := working
  cases List.mem_singleton.mp member
  exact absurd between.2 (by decide)

end FairyClaw
