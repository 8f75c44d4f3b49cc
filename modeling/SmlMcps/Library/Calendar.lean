import Mathlib.Algebra.Order.Ring.Int

/-! The Gregorian calendar. A date is valid by construction, and its number is the count of
the days from the first day of an epoch year up to it. -/
namespace Calendar

def Leap (year : Nat) : Prop := year % 4 = 0 ∧ (year % 100 ≠ 0 ∨ year % 400 = 0)

instance : DecidablePred Leap := fun year =>
  inferInstanceAs (Decidable (year % 4 = 0 ∧ (year % 100 ≠ 0 ∨ year % 400 = 0)))

def monthLength (year month : Nat) : Nat :=
  if month = 2 then if Leap year then 29 else 28
  else if month = 4 ∨ month = 6 ∨ month = 9 ∨ month = 11 then 30
  else 31

def yearLength (year : Nat) : Nat := if Leap year then 366 else 365

@[ext]
structure Date where
  year : Nat
  month : Nat
  day : Nat
  months : 1 ≤ month ∧ month ≤ 12
  days : 1 ≤ day ∧ day ≤ monthLength year month

/-- The days of so many years from the epoch on. -/
def daysOfYears (epoch : Nat) : Nat → Nat
  | 0 => 0
  | count + 1 => daysOfYears epoch count + yearLength (epoch + count)

/-- The days of the first months of a year. -/
def daysOfMonths (year : Nat) : Nat → Nat
  | 0 => 0
  | count + 1 => daysOfMonths year count + monthLength year (count + 1)

variable {year epoch : Nat}

namespace Date

/-- The days from the first day of the epoch up to a date. -/
def daysSince (epoch : Nat) (date : Date) : Nat :=
  daysOfYears epoch (date.year - epoch) + (daysOfMonths date.year (date.month - 1) + (date.day - 1))

end Date

/-! ## Years -/

/-- The leap years up to a year, from the year 1 on. -/
def leaps (year : Int) : Int := year / 4 - year / 100 + year / 400

theorem leaps_step (year : Nat) :
    leaps year = leaps (year - 1) + if Leap year then 1 else 0 := by
  unfold leaps
  by_cases leap : Leap year
  · rw [if_pos leap]
    unfold Leap at leap
    omega
  · rw [if_neg leap]
    unfold Leap at leap
    omega

theorem daysOfYears_eq (epoch count : Nat) :
    (daysOfYears epoch count : Int) =
      365 * count + leaps (epoch + count - 1) - leaps (epoch - 1) := by
  induction count with
  | zero => simp [daysOfYears]
  | succ count ih =>
    have step := leaps_step (epoch + count)
    have length : (yearLength (epoch + count) : Int) =
        365 + if Leap (epoch + count) then 1 else 0 := by
      unfold yearLength
      split <;> rfl
    rw [daysOfYears,Nat.cast_add,ih,length]
    push_cast at step ⊢
    rw [show (epoch : Int) + (count + 1) - 1 = epoch + count by omega,step]
    omega

theorem daysOfYears_mono {first second : Nat} (le : first ≤ second) :
    daysOfYears epoch first ≤ daysOfYears epoch second := by
  induction le with
  | refl => exact Nat.le_refl _
  | step _ ih => exact ih.trans (Nat.le_add_right _ _)

/-! ## Months -/

theorem daysOfMonths_year (year : Nat) : daysOfMonths year 12 = yearLength year := by
  by_cases leap : Leap year
  · simp [daysOfMonths,monthLength,yearLength,leap]
  · simp [daysOfMonths,monthLength,yearLength,leap]

theorem daysOfMonths_mono {first second : Nat} (le : first ≤ second) :
    daysOfMonths year first ≤ daysOfMonths year second := by
  induction le with
  | refl => exact Nat.le_refl _
  | step _ ih => exact ih.trans (Nat.le_add_right _ _)

theorem monthLength_february (year : Nat) :
    monthLength year 2 = 28 + if Leap year then 1 else 0 := by
  by_cases leap : Leap year
  · simp [monthLength,leap]
  · simp [monthLength,leap]

theorem monthLength_le (year month : Nat) : monthLength year month ≤ 31 := by
  unfold monthLength
  split
  · split <;> decide
  · split <;> decide

namespace Date

/-- A date is before the end of its month. -/
theorem day_lt (date : Date) :
    daysOfMonths date.year (date.month - 1) + (date.day - 1) <
      daysOfMonths date.year date.month := by
  obtain ⟨year,month,day,months,days⟩ := date
  obtain ⟨before,rfl⟩ : ∃ before, month = before + 1 := ⟨month - 1,by omega⟩
  simp only [Nat.add_sub_cancel,daysOfMonths]
  omega

theorem day_lt_year (date : Date) :
    daysOfMonths date.year (date.month - 1) + (date.day - 1) < yearLength date.year := by
  rw [← daysOfMonths_year]
  exact date.day_lt.trans_le (daysOfMonths_mono date.months.2)

/-- A date is before another in the order of years, months and days. -/
def Before (first second : Date) : Prop :=
  first.year < second.year ∨ first.year = second.year ∧
    (first.month < second.month ∨ first.month = second.month ∧ first.day < second.day)

theorem daysSince_lt {first second : Date} (epoch_le : epoch ≤ first.year)
    (before : first.Before second) : first.daysSince epoch < second.daysSince epoch := by
  unfold daysSince
  rcases before with years | ⟨year,months | ⟨month,days⟩⟩
  · have inside := first.day_lt_year
    have whole : daysOfYears epoch (first.year - epoch + 1) =
        daysOfYears epoch (first.year - epoch) + yearLength first.year := by
      rw [daysOfYears,Nat.add_sub_cancel' epoch_le]
    have grown := @daysOfYears_mono epoch (first.year - epoch + 1) (second.year - epoch) (by omega)
    omega
  · have inside := first.day_lt
    have grown := @daysOfMonths_mono second.year first.month (second.month - 1) (by omega)
    rw [year] at inside ⊢
    omega
  · have start := first.days.1
    rw [year,month]
    omega

theorem before_total {first second : Date} (different : first ≠ second) :
    first.Before second ∨ second.Before first := by
  by_contra neither
  simp only [Before,not_or,not_and] at neither
  apply different
  ext <;> omega

/-- Dates from the epoch on are told apart by their numbers. -/
theorem daysSince_injective {first second : Date} (epoch_le : epoch ≤ first.year)
    (epoch_le' : epoch ≤ second.year)
    (same : first.daysSince epoch = second.daysSince epoch) : first = second := by
  by_contra different
  rcases before_total different with before | after
  · exact absurd same (Nat.ne_of_lt (daysSince_lt epoch_le before))
  · exact absurd same.symm (Nat.ne_of_lt (daysSince_lt epoch_le' after))

end Date

end Calendar
