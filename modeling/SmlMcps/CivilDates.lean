import Mathlib.Tactic.IntervalCases
import SmlMcps.Library.Calendar
import SmlMcps.Timestamps

/-! The civil date of a day. From the epoch to the end of the year 9999 it is a date of the
Gregorian calendar, and the one that so many days after the epoch lead to. -/
namespace SmlMcps

open Calendar

def civilFields (date : Date) : Int × Nat × Nat := (date.year,date.month,date.day)

/-- The last day that is written with a year of four digits. -/
def lastDate : Date := ⟨9999,12,31,by decide,by decide⟩

variable {days : Int}

/-! ## Months from March -/

def marchStart (mp : Int) : Int := (153 * mp + 2) / 5

theorem daysOfMonths_march (year : Nat) {mp : Nat} (bound : mp ≤ 9) :
    (daysOfMonths year (mp + 2) : Int) =
      59 + (if Leap year then 1 else 0) + marchStart mp ∧
    (monthLength year (mp + 3) : Int) = marchStart (mp + 1) - marchStart mp := by
  by_cases leap : Leap year
  · interval_cases mp
    all_goals simp [daysOfMonths,monthLength,leap,marchStart]
  · interval_cases mp
    all_goals simp [daysOfMonths,monthLength,leap,marchStart]

theorem dayOfMonth_eq (doy : Int) : doy = marchStart (marchMonth doy) + dayOfMonth doy - 1 := by
  unfold marchStart dayOfMonth
  omega

/-- Before February a day is before the start of the next month. -/
theorem dayOfMonth_le {doy : Int} :
    dayOfMonth doy ≤ marchStart (marchMonth doy + 1) - marchStart (marchMonth doy) := by
  unfold marchStart dayOfMonth marchMonth
  omega

/-! ## Years from March -/

def marchYear (days : Int) : Int := yearOfEra (dayOfEra days) + (days + 719468) / 146097 * 400

theorem days_eq (days : Int) : days + 719468 = 365 * marchYear days + leaps (marchYear days) +
    marchStart (marchMonth (dayOfYear days)) + dayOfMonth (dayOfYear days) - 1 := by
  have inYear := dayOfMonth_eq (dayOfYear days)
  obtain ⟨years,-⟩ := yearOfEra_spec (dayOfEra_spec days).1 (dayOfEra_spec days).2
  have era : days + 719468 = (days + 719468) / 146097 * 146097 + dayOfEra days := by
    unfold dayOfEra
    omega
  have day : dayOfEra days = yearStart (yearOfEra (dayOfEra days)) + dayOfYear days := by
    unfold dayOfYear
    omega
  unfold marchYear leaps
  unfold yearStart at day
  generalize (days + 719468) / 146097 = whole at era ⊢
  generalize yearOfEra (dayOfEra days) = yoe at years day ⊢
  omega

/-- A year from March on ends with the February of the next year. -/
theorem dayOfYear_le (days : Int) {year : Nat} (next : (year : Int) = marchYear days + 1) :
    dayOfYear days ≤ 364 + if Leap year then 1 else 0 := by
  obtain ⟨years,-,late,ends⟩ := yearOfEra_spec (dayOfEra_spec days).1 (dayOfEra_spec days).2
  have before : dayOfYear days = dayOfEra days - yearStart (yearOfEra (dayOfEra days)) := rfl
  unfold marchYear at next
  generalize (days + 719468) / 146097 = era at next
  generalize yearOfEra (dayOfEra days) = yoe at years late ends before next
  rw [before]
  by_cases leap : Leap year
  · rw [if_pos leap]
    omega
  · -- The last year of an era ends with a leap day.
    rw [if_neg leap]
    unfold Leap at leap
    unfold yearStart at ends ⊢
    omega

/-! ## The calendar -/

theorem daysOfYears_epoch {year : Nat} (after : 1970 ≤ year) :
    (daysOfYears 1970 (year - 1970) : Int) = 365 * (year - 1970) + leaps (year - 1) - 477 := by
  have before : leaps (1970 - 1) = 477 := by decide
  have here : (1970 : Nat) + ((year - 1970 : Nat) : Int) = year := by omega
  rw [daysOfYears_eq,here,Nat.cast_sub after]
  exact congrArg (_ - ·) before

/-- The day of the month is in the month, and the months before it end where it begins. -/
theorem civil_month {year month day : Nat}
    (counted : 12 * (year : Int) + month = monthCount days + 3) (months : 1 ≤ month ∧ month ≤ 12)
    (date : (day : Int) = dayOfMonth (dayOfYear days)) :
    (1 ≤ day ∧ day ≤ monthLength year month) ∧
      days = 365 * (year - 1970) + leaps (year - 1) - 477 + (daysOfMonths year (month - 1) +
        (day - 1)) := by
  have doy := dayOfYear_spec days
  obtain ⟨mps,early,-⟩ := marchMonth_spec doy.1 doy.2
  have count : monthCount days = 12 * marchYear days + marchMonth (dayOfYear days) := rfl
  have number := days_eq days
  have short := @dayOfMonth_le (dayOfYear days)
  have inYear := dayOfMonth_eq (dayOfYear days)
  by_cases march : marchMonth (dayOfYear days) ≤ 9
  · obtain ⟨mp,same⟩ := Int.eq_ofNat_of_zero_le mps.1
    rw [same] at march count number short
    obtain ⟨before,length⟩ := daysOfMonths_march year (by omega : mp ≤ 9)
    have here : (year : Int) = marchYear days := by omega
    have third : month = mp + 3 := by omega
    have step := leaps_step year
    rw [← here] at number
    rw [third,show mp + 3 - 1 = mp + 2 from rfl]
    omega
  · -- January and February belong to the March year before.
    have next : (year : Int) = marchYear days + 1 := by omega
    have behind : leaps (year - 1) = leaps (marchYear days) := by rw [next]; congr 1; omega
    obtain january | february : marchMonth (dayOfYear days) = 10 ∨
        marchMonth (dayOfYear days) = 11 := by omega
    · have first : month = 1 := by omega
      subst first
      rw [january] at number short
      simp only [marchStart] at number short
      have none : daysOfMonths year (1 - 1) = 0 := rfl
      have length : monthLength year 1 = 31 := rfl
      rw [none,length,behind]
      omega
    · have second : month = 2 := by omega
      subst second
      have bound := dayOfYear_le days next
      rw [february] at number inYear
      simp only [marchStart] at number inYear
      have before : daysOfMonths year (2 - 1) = 31 := rfl
      have length := monthLength_february year
      rw [before,behind]
      by_cases leap : Leap year
      · rw [if_pos leap] at bound length
        omega
      · rw [if_neg leap] at bound length
        omega

theorem civilFromDays_date (start : 0 ≤ days) (bound : days ≤ 2932896) :
    ∃ date : Date, civilFromDays days = civilFields date ∧ 1970 ≤ date.year ∧
      (date.daysSince 1970 : Int) = days := by
  obtain ⟨year,month,day,fields,counted,months,-,date,-⟩ := civilFromDays_spec start bound
  obtain ⟨inside,number⟩ := civil_month counted months date
  have first := monthCount_le start
  have begins : monthCount 0 = 12 * 1970 - 2 := by decide
  have after : 1970 ≤ year := by omega
  refine ⟨⟨year,month,day,months,inside⟩,fields,after,?_⟩
  have years := daysOfYears_epoch after
  simp only [Date.daysSince]
  omega

theorem lastDate_number : lastDate.daysSince 1970 = 2932896 := by
  have years := @daysOfYears_epoch lastDate.year (by decide)
  have leap : leaps (lastDate.year - 1) = 2424 := by decide
  have months : daysOfMonths lastDate.year (lastDate.month - 1) = 334 := by decide
  have year : lastDate.year = 9999 := rfl
  have day : lastDate.day = 31 := rfl
  rw [Date.daysSince,months,day]
  generalize daysOfYears 1970 (lastDate.year - 1970) = count at years ⊢
  rw [leap,year] at years
  omega

theorem daysSince_le_lastDate {date : Date} (after : 1970 ≤ date.year)
    (before : date.year ≤ 9999) : date.daysSince 1970 ≤ lastDate.daysSince 1970 := by
  by_cases last : date = lastDate
  · rw [last]
  · rcases Date.before_total last with earlier | later
    · exact Nat.le_of_lt (Date.daysSince_lt after earlier)
    · have months := date.months.2
      have days := date.days.2
      have year : lastDate.year = 9999 := rfl
      have month : lastDate.month = 12 := rfl
      have day : lastDate.day = 31 := rfl
      have long : monthLength date.year date.month ≤ 31 := monthLength_le _ _
      unfold Date.Before at later
      omega

/-- Each day up to the end of the year 9999 has its date of the calendar, each date has its
day, and the texts of times in these years are ordered as their seconds are. -/
theorem civilFromDays_calendar :
    (∀ days : Int, 0 ≤ days → days ≤ lastDate.daysSince 1970 →
      ∃ date : Date, civilFromDays days = civilFields date ∧
        (date.daysSince 1970 : Int) = days) ∧
    (∀ date : Date, 1970 ≤ date.year → date.year ≤ 9999 →
      civilFromDays (date.daysSince 1970) = civilFields date) ∧
    ∀ first second : SystemTime, wholeSeconds first < wholeSeconds second →
      wholeSeconds second < 86400 * (lastDate.daysSince 1970 + 1) →
      iso8601 first < iso8601 second := by
  rw [lastDate_number]
  refine ⟨?_,?_,?_⟩
  · intro days start bound
    obtain ⟨date,fields,-,number⟩ := civilFromDays_date start bound
    exact ⟨date,fields,number⟩
  · intro date after before
    have bound := daysSince_le_lastDate after before
    rw [lastDate_number] at bound
    obtain ⟨same,fields,after',number⟩ :=
      @civilFromDays_date (date.daysSince 1970) (Int.natCast_nonneg _) (by omega)
    have equal : same = date := Date.daysSince_injective after' after (Int.natCast_inj.mp number)
    rw [fields,equal]
  · intro first second less bound
    apply iso8601_lt less
    exact bound

theorem civilFromDays_calendar_leap_day :
    (∃ date : Date, civilFromDays 11016 = civilFields date ∧
      (date.daysSince 1970 : Int) = 11016) ∧ civilFromDays 11016 = (2000,2,29) ∧
      iso8601 0 < iso8601 1000000000 :=
  ⟨civilFromDays_calendar.1 11016 (by decide) (by rw [lastDate_number]; decide),by decide,
    civilFromDays_calendar.2.2 0 1000000000 (by decide) (by rw [lastDate_number]; decide)⟩

end SmlMcps
