import FairyClaw.Timer.Cron

/-! # Days of the calendar

A day counted from the epoch has a place in its year, counted from the first of March, and the place
gives month and day. Every date but 29 February comes back within a year
(`FairyClaw.exists_same_date`), every date falls on every weekday at some time
(`FairyClaw.exists_same_date_weekday`), and there are years without a 29 February
(`FairyClaw.exists_common_year`).
-/

namespace FairyClaw

/-- A day's place in its cycle. -/
def dayOfEra (days : Int) : Int := (days + 719468) % 146097

/-- The year of a place in the cycle. -/
def yearOfEra (place : Int) : Int :=
  (place - place / 1460 + place / 36524 - place / 146096) / 365

/-- The place at which a year starts. -/
def yearStart (year : Nat) : Int := 365 * year + year / 4 - year / 100 + year / 400

/-- A day's place in its year. -/
def dayOfYear (days : Int) : Int :=
  dayOfEra days - (365 * yearOfEra (dayOfEra days) + yearOfEra (dayOfEra days) / 4 -
    yearOfEra (dayOfEra days) / 100)

/-- Month and day of a place in a year. -/
def dateOfPlace (place : Int) : Int × Int :=
  let shifted := (5 * place + 2) / 153
  (if shifted < 10 then shifted + 3 else shifted - 9, place - (153 * shifted + 2) / 5 + 1)

/-- The date of a day is the date of its place in the year. -/
theorem monthDay_eq (days : Int) : monthDay days = dateOfPlace (dayOfYear days) := rfl

/-! ## Years -/

/-- Later days of an era are in later years. -/
theorem yearOfEra_mono {first last : Int} (ordered : first ≤ last) (start : 0 ≤ first)
    (stop : last < 146097) : yearOfEra first ≤ yearOfEra last := by
  have quads : first - first / 1460 ≤ last - last / 1460 := by omega
  have centuries : first / 36524 - first / 146096 ≤ last / 36524 - last / 146096 := by omega
  exact Int.ediv_le_ediv (by decide) (by omega)

/-- The first and the last day of a year are in that year. -/
theorem yearOfEra_ends : ∀ year < 400, yearOfEra (yearStart year) = year ∧
    yearOfEra (yearStart (year + 1) - 1) = year := by
  decide +kernel

/-- A year has 365 or 366 days. -/
theorem yearStart_bounds {year : Nat} (inside : year < 400) :
    0 ≤ yearStart year ∧ yearStart (year + 1) ≤ 146097 ∧
      yearStart year + 365 ≤ yearStart (year + 1) ∧
      yearStart (year + 1) ≤ yearStart year + 366 := by
  unfold yearStart
  omega

/-- A place between the starts of two years is in the earlier one. -/
theorem yearOfEra_eq {year : Nat} {place : Int} (inside : year < 400)
    (begun : yearStart year ≤ place) (open_ : place < yearStart (year + 1)) :
    yearOfEra place = year := by
  obtain ⟨start, stop, _, _⟩ := yearStart_bounds inside
  obtain ⟨first, last⟩ := yearOfEra_ends year inside
  have low := yearOfEra_mono begun start (by omega)
  have high := yearOfEra_mono (show place ≤ yearStart (year + 1) - 1 by omega) (by omega) (by omega)
  omega

/-- Every day of an era is between the starts of two years. -/
theorem exists_year {place : Int} (start : 0 ≤ place) : ∀ years ≤ 400, place < yearStart years →
    ∃ year < years, yearStart year ≤ place ∧ place < yearStart (year + 1)
  | 0, _, before => absurd before (by simpa [yearStart] using start)
  | years + 1, bound, before => by
      rcases Int.lt_or_le place (yearStart years) with earlier | begun
      · obtain ⟨year, inside, around⟩ := exists_year start years (by omega) earlier
        exact ⟨year, by omega, around⟩
      · exact ⟨years, Nat.lt_succ_self years, begun, before⟩

/-- The place in the year of a place in the cycle. -/
theorem dayOfYear_eq {days : Int} {year : Nat} (inside : year < 400)
    (begun : yearStart year ≤ dayOfEra days) (open_ : dayOfEra days < yearStart (year + 1)) :
    dayOfYear days = dayOfEra days - yearStart year := by
  rw [dayOfYear, yearOfEra_eq inside begun open_, yearStart]
  omega

/-- An era has 146097 days. -/
theorem dayOfEra_range (days : Int) : 0 ≤ dayOfEra days ∧ dayOfEra days < 146097 := by
  unfold dayOfEra
  omega

/-- A day is in a year of its cycle, at its place. -/
theorem exists_dayOfYear (days : Int) : ∃ year < 400, yearStart year ≤ dayOfEra days ∧
    dayOfEra days < yearStart (year + 1) ∧ dayOfYear days = dayOfEra days - yearStart year := by
  have range := dayOfEra_range days
  obtain ⟨year, inside, begun, open_⟩ :=
    exists_year range.1 400 (Nat.le_refl _) (by simpa [yearStart] using range.2)
  exact ⟨year, inside, begun, open_, dayOfYear_eq inside begun open_⟩

/-- A day has one of 366 places in its year. -/
theorem dayOfYear_range (days : Int) : 0 ≤ dayOfYear days ∧ dayOfYear days ≤ 365 := by
  obtain ⟨year, inside, begun, open_, same⟩ := exists_dayOfYear days
  have bounds := yearStart_bounds inside
  omega

/-- The next day is the next one of the year, or the first of March after a whole year. -/
theorem dayOfYear_succ (days : Int) : dayOfYear (days + 1) = dayOfYear days + 1 ∨
    (dayOfYear (days + 1) = 0 ∧ 364 ≤ dayOfYear days) := by
  obtain ⟨year, inside, begun, open_, same⟩ := exists_dayOfYear days
  have bounds := yearStart_bounds inside
  have turn : dayOfEra (days + 1) = dayOfEra days + 1 ∨
      (dayOfEra (days + 1) = 0 ∧ dayOfEra days = 146096) := by
    unfold dayOfEra
    omega
  rcases turn with following | ⟨first, last⟩
  · rcases Int.lt_or_le (dayOfEra days + 1) (yearStart (year + 1)) with stays | turned
    · rw [dayOfYear_eq inside (by omega) (by omega)]
      omega
    · have later : year + 1 < 400 := by
        rcases Nat.lt_or_eq_of_le (Nat.succ_le_of_lt inside) with later | final
        · exact later
        · have range := dayOfEra_range (days + 1)
          have whole : yearStart 400 = 146097 := by decide
          rw [← Nat.succ_eq_add_one, final] at turned
          omega
      have bounds := yearStart_bounds later
      rw [dayOfYear_eq later (by omega) (by omega)]
      omega
  · have zero : dayOfYear (days + 1) = 0 := by
      rw [@dayOfYear_eq _ 0 (by decide) (by rw [first]; decide) (by rw [first]; decide), first]
      decide
    exact .inr ⟨zero, by omega⟩

/-- The places of days in a year follow each other. -/
theorem dayOfYear_add (days : Int) : ∀ count : Nat, dayOfYear days + count ≤ 364 →
    dayOfYear (days + count) = dayOfYear days + count
  | 0, _ => by simp
  | count + 1, within => by
      have before := dayOfYear_add days count (by omega)
      rw [show days + ((count + 1 : Nat) : Int) = days + count + 1 by omega]
      rcases dayOfYear_succ (days + count) with following | ⟨_, last⟩
      · omega
      · omega

/-- The year ends after its last day. -/
theorem exists_new_year (days : Int) : ∃ first, days < first ∧
    first ≤ days + 366 - dayOfYear days ∧ dayOfYear first = 0 := by
  have range := dayOfYear_range days
  rcases Int.lt_or_le (dayOfYear days) 365 with common | leap
  · have last := dayOfYear_add days (364 - dayOfYear days).toNat (by omega)
    generalize eve : days + ((364 - dayOfYear days).toNat : Int) = final at last
    rcases dayOfYear_succ final with leapDay | ⟨zero, _⟩
    · rcases dayOfYear_succ (final + 1) with beyond | ⟨zero, _⟩
      · have range := dayOfYear_range (final + 1 + 1)
        omega
      · exact ⟨final + 1 + 1, by omega, by omega, zero⟩
    · exact ⟨final + 1, by omega, by omega, zero⟩
  · rcases dayOfYear_succ days with beyond | ⟨zero, _⟩
    · have range := dayOfYear_range (days + 1)
      omega
    · exact ⟨days + 1, by omega, by omega, zero⟩

/-- Every place but that of 29 February comes within a year. -/
theorem exists_same_place {place : Int} (start : 0 ≤ place) (stop : place ≤ 364) (days : Int) :
    ∃ other, days ≤ other ∧ other ≤ days + 365 ∧ dayOfYear other = place := by
  have range := dayOfYear_range days
  rcases Int.lt_or_le place (dayOfYear days) with passed | ahead
  · obtain ⟨first, later, soon, zero⟩ := exists_new_year days
    have reached := dayOfYear_add first place.toNat (by omega)
    exact ⟨first + place.toNat, by omega, by omega, by omega⟩
  · have reached := dayOfYear_add days (place - dayOfYear days).toNat (by omega)
    exact ⟨days + (place - dayOfYear days).toNat, by omega, by omega, by omega⟩

/-! ## Dates -/

/-- The leap day is the last place of a year. -/
theorem dateOfPlace_eq_leap_iff {place : Int} (start : 0 ≤ place) (stop : place ≤ 365) :
    dateOfPlace place = (2, 29) ↔ place = 365 := by
  rw [dateOfPlace, Prod.mk.injEq]
  omega

/-- A day is a leap day exactly at the last place. -/
theorem monthDay_eq_leap_iff (days : Int) : monthDay days = (2, 29) ↔ dayOfYear days = 365 :=
  dateOfPlace_eq_leap_iff (dayOfYear_range days).1 (dayOfYear_range days).2

/-- Months are from 1 to 12, and days from 1 to 31. -/
theorem monthDay_range (days : Int) : 1 ≤ (monthDay days).1 ∧ (monthDay days).1 ≤ 12 ∧
    1 ≤ (monthDay days).2 ∧ (monthDay days).2 ≤ 31 := by
  have range := dayOfYear_range days
  rw [monthDay_eq, dateOfPlace]
  omega

/-- Every date but 29 February comes back within a year. -/
theorem exists_same_date {days : Int} (common : monthDay days ≠ (2, 29)) (start : Int) :
    ∃ other, start ≤ other ∧ other ≤ start + 365 ∧ monthDay other = monthDay days := by
  have range := dayOfYear_range days
  rw [Ne, monthDay_eq_leap_iff] at common
  obtain ⟨other, later, soon, same⟩ := exists_same_place range.1 (by omega) start
  exact ⟨other, later, soon, by rw [monthDay_eq, monthDay_eq, same]⟩

/-- Every month begins at some day. -/
theorem exists_first_of_month {month : Int} (start : 1 ≤ month) (stop : month ≤ 12) :
    ∃ days, monthDay days = (month, 1) := by
  have table : ∀ month : Fin 13, 1 ≤ month.val → ∃ place : Fin 365,
      dateOfPlace (place.val : Int) = ((month.val : Int), 1) := by
    decide +kernel
  obtain ⟨place, first⟩ := table ⟨month.toNat, by omega⟩ (show 1 ≤ month.toNat by omega)
  have below := place.isLt
  obtain ⟨days, _, _, same⟩ := @exists_same_place place.val (by omega) (by omega) 0
  refine ⟨days, ?_⟩
  rw [monthDay_eq, same, first, Int.toNat_of_nonneg (by omega)]

/-! ## Weekdays -/

/-- Leap years start on every weekday. -/
theorem exists_yearStart_mod : ∀ weekday < 7, ∃ year < 28,
    yearStart year % 7 = (weekday : Nat) ∧ yearStart (year + 1) = yearStart year + 366 := by
  decide +kernel

/-- Every date falls on every weekday at some time. -/
theorem exists_same_date_weekday (days start : Int) {weekday : Int} (first : 0 ≤ weekday)
    (last : weekday < 7) : ∃ other, start ≤ other ∧ monthDay other = monthDay days ∧
      (other + 3) % 7 = weekday := by
  have range := dayOfYear_range days
  obtain ⟨year, inside, residue, leap⟩ :=
    exists_yearStart_mod ((weekday - dayOfYear days - 2) % 7).toNat (by omega)
  have bounds := @yearStart_bounds year (by omega)
  have place : dayOfEra (146097 * (start.natAbs + 5) + yearStart year + dayOfYear days - 719468) =
      yearStart year + dayOfYear days := by
    unfold dayOfEra
    omega
  refine ⟨146097 * (start.natAbs + 5) + yearStart year + dayOfYear days - 719468, by omega, ?_, ?_⟩
  · have same := @dayOfYear_eq _ year (by omega) (by rw [place]; omega) (by rw [place]; omega)
    rw [monthDay_eq, monthDay_eq, same, place]
    exact congrArg dateOfPlace (by omega)
  · omega

/-- There are a year and a day without 29 February, later than any day. -/
theorem exists_common_year (start : Int) : ∃ first, start ≤ first ∧
    ∀ days, first ≤ days → days ≤ first + 366 → monthDay days ≠ (2, 29) := by
  refine ⟨146097 * (start.natAbs + 5) - 719468, by omega, fun days low high => ?_⟩
  rw [Ne, monthDay_eq_leap_iff]
  have place : dayOfEra days = days - (146097 * (start.natAbs + 5) - 719468) := by
    unfold dayOfEra
    omega
  have starts : yearStart 0 = 0 ∧ yearStart 1 = 365 ∧ yearStart 2 = 730 := by decide
  rcases Int.lt_or_le (dayOfEra days) 365 with early | late
  · rw [@dayOfYear_eq _ 0 (by decide) (by omega) (show _ < yearStart 1 by omega)]
    omega
  · rw [@dayOfYear_eq _ 1 (by decide) (by omega) (show _ < yearStart 2 by omega)]
    omega

end FairyClaw
