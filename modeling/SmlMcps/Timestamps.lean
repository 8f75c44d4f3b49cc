import Mathlib.Data.String.Basic
import SmlMcps.Library.Decimal
import SmlMcps.Tasks

/-! The text of a time. Years are counted from March, so that the leap day comes last;
the days of a 400-year era split into centuries and four-year blocks. Up to the year
9999 the texts of two times are ordered as their whole seconds are. -/
namespace SmlMcps

/-- The whole seconds since the Unix epoch; a time before it counts as the epoch. -/
def wholeSeconds (time : SystemTime) : Int := if time < 0 then 0 else time / 1000000000

/-- The first second of the year 10000. -/
def yearTenThousand : Int := 253402300800

/-! ## Years of an era -/

/-- The days of an era before a year of it. -/
def yearStart (yoe : Int) : Int := 365 * yoe + yoe / 4 - yoe / 100

def yearOfEra (doe : Int) : Int := (doe - doe / 1460 + doe / 36524 - doe / 146096) / 365

theorem yearStart_le {first second : Int} (le : first ≤ second) :
    yearStart first ≤ yearStart second := by
  unfold yearStart
  omega

theorem yearStart_parts {century block year : Int} (blocks : 0 ≤ block ∧ block ≤ 24)
    (years : 0 ≤ year ∧ year ≤ 3) :
    yearStart (100 * century + 4 * block + year) =
      36524 * century + 1461 * block + 365 * year := by
  unfold yearStart
  have fours : (100 * century + 4 * block + year) / 4 = 25 * century + block := by omega
  have hundreds : (100 * century + 4 * block + year) / 100 = century := by omega
  rw [fours,hundreds]
  omega

/-- The next year is in the same block, the next block or the next century. -/
theorem yearStart_next (century : Int) {block year : Int} (blocks : 0 ≤ block ∧ block ≤ 24)
    (years : 0 ≤ year ∧ year ≤ 3) :
    yearStart (100 * century + 4 * block + year + 1) = 36524 * century + 1461 * block +
      if year < 3 then 365 * year + 365 else if block < 24 then 1461 else 1460 := by
  by_cases within : year < 3
  · have next := @yearStart_parts century block (year + 1) blocks (by omega)
    rw [if_pos within,Int.add_assoc (100 * century + 4 * block),next]
    omega
  · have third : year = 3 := by omega
    subst third
    rw [if_neg within]
    by_cases room : block < 24
    · have next := @yearStart_parts century (block + 1) 0 (by omega) (by decide)
      have here : 100 * century + 4 * block + 3 + 1 = 100 * century + 4 * (block + 1) + 0 := by
        omega
      rw [if_pos room,here,next]
      omega
    · have full : block = 24 := by omega
      subst full
      have next := @yearStart_parts (century + 1) 0 0 (by decide) (by decide)
      have here : 100 * century + 4 * 24 + 3 + 1 = 100 * (century + 1) + 4 * 0 + 0 := by omega
      rw [if_neg room,here,next]
      omega

/-- The year of a day inside its century and its four-year block. -/
theorem yearOfEra_parts {century block day : Int} (centuries : 0 ≤ century ∧ century ≤ 3)
    (blocks : 0 ≤ block ∧ block ≤ 24) (days : 0 ≤ day ∧ day ≤ 1460)
    (last : block = 24 → day ≤ 1459) :
    ∃ year, (0 ≤ year ∧ year ≤ 3) ∧
      yearOfEra (36524 * century + 1461 * block + day) = 100 * century + 4 * block + year ∧
      365 * year ≤ day ∧ (day < 365 * year + 365 ∨ year = 3) := by
  have whole : (36524 * century + 1461 * block + day) / 36524 = century := by omega
  have short : (36524 * century + 1461 * block + day) / 146096 = 0 := by omega
  -- The divisor 1460 is one short of a block: near a block's end one day is taken off.
  obtain ⟨off,counted,near⟩ : ∃ off,
      (36524 * century + 1461 * block + day) / 1460 = 25 * century + block + off ∧
      (off = 0 ∧ day ≤ 1459 ∨ off = 1 ∧ 1364 ≤ day) := by
    by_cases far : 24 * century + block + day < 1460
    · exact ⟨0,by omega,.inl (by omega)⟩
    · exact ⟨1,by omega,.inr (by omega)⟩
  refine ⟨(day - off) / 365,by omega,?_,by omega,by omega⟩
  unfold yearOfEra
  rw [whole,short,counted]
  omega

/-- The century, the block and the day in it of a day of the era. -/
theorem era_parts {doe : Int} (start : 0 ≤ doe) (bound : doe < 146096) :
    ∃ century block day, doe = 36524 * century + 1461 * block + day ∧
      (0 ≤ century ∧ century ≤ 3) ∧ (0 ≤ block ∧ block ≤ 24) ∧ (0 ≤ day ∧ day ≤ 1460) ∧
      (block = 24 → day ≤ 1459) := by
  refine ⟨doe / 36524,doe % 36524 / 1461,doe % 36524 % 1461,?_,?_,?_,?_,?_⟩
  all_goals omega

/-- A day of the era lies in its year. -/
theorem yearOfEra_spec {doe : Int} (start : 0 ≤ doe) (bound : doe ≤ 146096) :
    (0 ≤ yearOfEra doe ∧ yearOfEra doe ≤ 399) ∧ yearStart (yearOfEra doe) ≤ doe ∧
      doe ≤ yearStart (yearOfEra doe) + 365 ∧
      (doe < yearStart (yearOfEra doe + 1) ∨ yearOfEra doe = 399) := by
  by_cases leap : doe = 146096
  · subst leap
    decide
  · obtain ⟨century,block,day,rfl,centuries,blocks,days,last⟩ := era_parts start (by omega)
    obtain ⟨year,years,same,after,before⟩ := yearOfEra_parts centuries blocks days last
    have begins := @yearStart_parts century block year blocks years
    have next := yearStart_next century blocks years
    rw [same,begins]
    refine ⟨by omega,by omega,by omega,.inl ?_⟩
    rw [next]
    clear same begins next
    split
    · omega
    · split <;> omega

/-- A later day of the era is in a later year, or later in the same one. -/
theorem yearOfEra_le {first second : Int} (start : 0 ≤ first) (le : first ≤ second)
    (bound : second ≤ 146096) : yearOfEra first ≤ yearOfEra second := by
  obtain ⟨⟨_,top⟩,begun,_,_⟩ := yearOfEra_spec start (by omega)
  obtain ⟨_,_,_,ends⟩ := yearOfEra_spec (by omega) bound
  by_contra back
  rcases ends with ends | last
  · have after := @yearStart_le (yearOfEra second + 1) (yearOfEra first) (by omega)
    omega
  · omega

/-! ## Months and days -/

/-- The month a day of the year lies in, counted from March, and the day of the month. -/
def marchMonth (doy : Int) : Int := (5 * doy + 2) / 153

def dayOfMonth (doy : Int) : Int := doy - (153 * marchMonth doy + 2) / 5 + 1

theorem marchMonth_spec {doy : Int} (start : 0 ≤ doy) (bound : doy ≤ 365) :
    (0 ≤ marchMonth doy ∧ marchMonth doy ≤ 11) ∧ 1 ≤ dayOfMonth doy ∧ dayOfMonth doy ≤ 31 := by
  unfold dayOfMonth marchMonth
  omega

theorem marchMonth_lt {first second : Int} (less : first < second) :
    marchMonth first < marchMonth second ∨
      marchMonth first = marchMonth second ∧ dayOfMonth first < dayOfMonth second := by
  have le : marchMonth first ≤ marchMonth second := by
    unfold marchMonth
    omega
  by_cases same : marchMonth first = marchMonth second
  · refine .inr ⟨same,?_⟩
    unfold dayOfMonth
    rw [same]
    omega
  · exact .inl (by omega)

/-! ## The civil date -/

def dayOfEra (days : Int) : Int := (days + 719468) % 146097

def dayOfYear (days : Int) : Int := dayOfEra days - yearStart (yearOfEra (dayOfEra days))

/-- Months since the year zero, the first of them March. -/
def monthCount (days : Int) : Int :=
  12 * (yearOfEra (dayOfEra days) + (days + 719468) / 146097 * 400) + marchMonth (dayOfYear days)

theorem dayOfEra_spec (days : Int) : 0 ≤ dayOfEra days ∧ dayOfEra days ≤ 146096 := by
  unfold dayOfEra
  omega

theorem dayOfYear_spec (days : Int) : 0 ≤ dayOfYear days ∧ dayOfYear days ≤ 365 := by
  have spec := yearOfEra_spec (dayOfEra_spec days).1 (dayOfEra_spec days).2
  unfold dayOfYear
  omega

/-- A later day is in a later month, or later in the same one. -/
theorem monthCount_lt {first second : Int} (less : first < second) :
    monthCount first < monthCount second ∨ monthCount first = monthCount second ∧
      dayOfMonth (dayOfYear first) < dayOfMonth (dayOfYear second) := by
  have one := dayOfEra_spec first
  have two := dayOfEra_spec second
  have months := (marchMonth_spec (dayOfYear_spec first).1 (dayOfYear_spec first).2).1
  have months' := (marchMonth_spec (dayOfYear_spec second).1 (dayOfYear_spec second).2).1
  have years := (yearOfEra_spec one.1 one.2).1
  have years' := (yearOfEra_spec two.1 two.2).1
  unfold monthCount
  by_cases era : (first + 719468) / 146097 = (second + 719468) / 146097
  · have later : dayOfEra first < dayOfEra second := by
      unfold dayOfEra
      omega
    have le := yearOfEra_le one.1 (Int.le_of_lt later) two.2
    rw [era]
    by_cases year : yearOfEra (dayOfEra first) = yearOfEra (dayOfEra second)
    · have day : dayOfYear first < dayOfYear second := by
        unfold dayOfYear
        rw [year]
        omega
      rw [year]
      rcases marchMonth_lt day with month | ⟨month,date⟩
      · left
        omega
      · exact .inr ⟨by rw [month],date⟩
    · left
      omega
  · left
    have before : (first + 719468) / 146097 < (second + 719468) / 146097 := by omega
    generalize (first + 719468) / 146097 = era at before
    generalize (second + 719468) / 146097 = era' at before
    omega

theorem monthCount_le {first second : Int} (le : first ≤ second) :
    monthCount first ≤ monthCount second := by
  rcases Int.lt_or_eq_of_le le with less | rfl
  · rcases monthCount_lt less with month | ⟨month,_⟩ <;> omega
  · exact Int.le_refl _

/-- The divisions of the source truncate; from the epoch on that makes no difference. -/
theorem civilFromDays_eq {days : Int} (start : 0 ≤ days) :
    civilFromDays days =
      let year := yearOfEra (dayOfEra days) + (days + 719468) / 146097 * 400
      let mp := marchMonth (dayOfYear days)
      let month := (if mp < 10 then mp + 3 else mp - 9).toNat
      (if month ≤ 2 then year + 1 else year,month,(dayOfMonth (dayOfYear days)).toNat) := by
  have era := (dayOfEra_spec days).1
  have years := (yearOfEra_spec era (dayOfEra_spec days).2).1.1
  have doy := dayOfYear_spec days
  have months := (marchMonth_spec doy.1 doy.2).1.1
  have from0 : 0 ≤ days + 719468 := by omega
  have counted : 0 ≤ dayOfEra days - dayOfEra days / 1460 + dayOfEra days / 36524 -
      dayOfEra days / 146096 := by omega
  have inEra : days + 719468 - (days + 719468) / 146097 * 146097 = dayOfEra days := by
    unfold dayOfEra
    omega
  have inYear : dayOfEra days - (365 * yearOfEra (dayOfEra days) +
      yearOfEra (dayOfEra days) / 4 - yearOfEra (dayOfEra days) / 100) = dayOfYear days := rfl
  have year : (dayOfEra days - dayOfEra days / 1460 + dayOfEra days / 36524 -
      dayOfEra days / 146096) / 365 = yearOfEra (dayOfEra days) := rfl
  have month : (5 * dayOfYear days + 2) / 153 = marchMonth (dayOfYear days) := rfl
  have quotient {value : Int} (nonneg : 0 ≤ value) (divisor : Int) :
      value.tdiv divisor = value / divisor := Int.tdiv_eq_ediv_of_nonneg nonneg
  simp only [civilFromDays,if_pos from0,quotient from0,inEra,quotient era,quotient counted,year,
    quotient years,inYear,quotient (by omega : 0 ≤ 5 * dayOfYear days + 2),month,
    quotient (by omega : 0 ≤ 153 * marchMonth (dayOfYear days) + 2)]
  rfl

/-- From the epoch to the end of the year 9999, a date and its fields. -/
theorem civilFromDays_spec {days : Int} (start : 0 ≤ days) (bound : days ≤ 2932896) :
    ∃ year month day : Nat, civilFromDays days = ((year : Int),month,day) ∧
      12 * (year : Int) + month = monthCount days + 3 ∧ (1 ≤ month ∧ month ≤ 12) ∧
      year < 10 ^ 4 ∧ (day : Int) = dayOfMonth (dayOfYear days) ∧ day < 10 ^ 2 := by
  have doy := dayOfYear_spec days
  obtain ⟨months,dates⟩ := marchMonth_spec doy.1 doy.2
  have first := monthCount_le start
  have last := monthCount_le bound
  have begins : monthCount 0 = 12 * 1970 - 2 := by decide
  have ends : monthCount 2932896 = 12 * 9999 + 9 := by decide
  have count : monthCount days = 12 * (yearOfEra (dayOfEra days) +
      (days + 719468) / 146097 * 400) + marchMonth (dayOfYear days) := rfl
  rw [civilFromDays_eq start]
  simp only
  generalize yearOfEra (dayOfEra days) + (days + 719468) / 146097 * 400 = year at count
  generalize marchMonth (dayOfYear days) = mp at count months
  generalize dayOfMonth (dayOfYear days) = date at dates
  by_cases early : mp < 10
  · refine ⟨year.toNat,(mp + 3).toNat,date.toNat,?_,by omega,by omega,by omega,by omega,by omega⟩
    rw [if_pos early,if_neg (by omega),Int.toNat_of_nonneg (by omega)]
  · refine ⟨(year + 1).toNat,(mp - 9).toNat,date.toNat,?_,by omega,by omega,by omega,by omega,
      by omega⟩
    rw [if_neg early,if_pos (by omega),Int.toNat_of_nonneg (by omega)]

/-! ## The text -/

theorem padded_eq (width : Nat) {value : Nat} (fits : value < 10 ^ (width + 1)) :
    padded (width + 1) value = Decimal.numeral (width + 1) value :=
  Decimal.replicate_append_toDigits width fits

/-- A field with a separator after it. -/
theorem padded_append_lt_iff (width : Nat) {a b : Nat} (fits : a < 10 ^ (width + 1))
    (fits' : b < 10 ^ (width + 1)) (separator : Char) {xs ys : List Char} :
    padded (width + 1) a ++ separator :: xs < padded (width + 1) b ++ separator :: ys ↔
      a < b ∨ a = b ∧ xs < ys := by
  rw [padded_eq width fits,padded_eq width fits',Decimal.numeral_append_lt_iff _ fits fits',
    List.cons_lt_cons_iff]
  simp

/-- The text of a second from its fields. -/
theorem iso8601_text (time : SystemTime) {year month day : Nat}
    (date : civilFromDays (wholeSeconds time / 86400) = ((year : Int),month,day)) :
    (iso8601 time).toList = padded 4 year ++ '-' :: (padded 2 month ++ '-' :: (padded 2 day ++
      'T' :: (padded 2 ((wholeSeconds time % 86400).toNat / 3600) ++
      ':' :: (padded 2 ((wholeSeconds time % 86400).toNat % 3600 / 60) ++
      ':' :: (padded 2 ((wholeSeconds time % 86400).toNat % 60) ++ ['Z']))))) := by
  have seconds : (if time < 0 then 0 else time / 1000000000 : Int) = wholeSeconds time := rfl
  simp only [iso8601,seconds,date]
  simp

theorem wholeSeconds_nonneg (time : SystemTime) : 0 ≤ wholeSeconds time := by
  unfold wholeSeconds
  split
  · exact Int.le_refl 0
  · rename_i later
    exact Int.ediv_nonneg (Int.not_lt.mp later) (by decide)

/-- The text of the earlier of two seconds is the smaller one. -/
theorem iso8601_lt {first second : SystemTime} (less : wholeSeconds first < wholeSeconds second)
    (bound : wholeSeconds second < yearTenThousand) : iso8601 first < iso8601 second := by
  have one := wholeSeconds_nonneg first
  have two := wholeSeconds_nonneg second
  unfold yearTenThousand at bound
  obtain ⟨year,month,day,date,count,months,fits,dayOf,fits'⟩ :=
    @civilFromDays_spec (wholeSeconds first / 86400) (by omega) (by omega)
  obtain ⟨year',month',day',date',count',months',fits2,dayOf',fits2'⟩ :=
    @civilFromDays_spec (wholeSeconds second / 86400) (by omega) (by omega)
  rw [String.lt_iff_toList_lt,iso8601_text first date,iso8601_text second date',
    padded_append_lt_iff 3 fits fits2,padded_append_lt_iff 1 (by omega) (by omega),
    padded_append_lt_iff 1 fits' fits2',padded_append_lt_iff 1 (by omega) (by omega),
    padded_append_lt_iff 1 (by omega) (by omega),padded_append_lt_iff 1 (by omega) (by omega)]
  by_cases sameDay : wholeSeconds first / 86400 = wholeSeconds second / 86400
  · -- On one day the clock decides.
    rw [sameDay] at count dayOf
    have clock : (wholeSeconds first % 86400).toNat < (wholeSeconds second % 86400).toNat := by
      omega
    generalize (wholeSeconds first % 86400).toNat = clock at clock
    generalize (wholeSeconds second % 86400).toNat = clock' at clock
    refine .inr ⟨by omega,.inr ⟨by omega,.inr ⟨by omega,?_⟩⟩⟩
    clear count count' dayOf dayOf' sameDay
    omega
  · have earlier : wholeSeconds first / 86400 < wholeSeconds second / 86400 := by omega
    rcases monthCount_lt earlier with fewer | ⟨same,before⟩
    · by_cases sameYear : year = year'
      · exact .inr ⟨sameYear,.inl (by omega)⟩
      · exact .inl (by omega)
    · exact .inr ⟨by omega,.inr ⟨by omega,.inl (by omega)⟩⟩

theorem iso8601_congr {first second : SystemTime}
    (same : wholeSeconds first = wholeSeconds second) : iso8601 first = iso8601 second := by
  have one : (if first < 0 then 0 else first / 1000000000 : Int) = wholeSeconds first := rfl
  have two : (if second < 0 then 0 else second / 1000000000 : Int) = wholeSeconds second := rfl
  simp only [iso8601,one,two,same]

theorem iso8601_lt_iff {first second : SystemTime}
    (bound : wholeSeconds first < yearTenThousand)
    (bound' : wholeSeconds second < yearTenThousand) :
    iso8601 first < iso8601 second ↔ wholeSeconds first < wholeSeconds second := by
  constructor
  · intro less
    by_contra later
    rcases Int.lt_or_eq_of_le (Int.not_lt.mp later) with back | same
    · exact lt_asymm less (iso8601_lt back bound)
    · rw [iso8601_congr same] at less
      exact lt_irrefl _ less
  · intro less
    exact iso8601_lt less bound'

theorem iso8601_eq_iff {first second : SystemTime}
    (bound : wholeSeconds first < yearTenThousand)
    (bound' : wholeSeconds second < yearTenThousand) :
    iso8601 first = iso8601 second ↔ wholeSeconds first = wholeSeconds second := by
  constructor
  · intro same
    rcases Int.lt_trichotomy (wholeSeconds first) (wholeSeconds second) with less | equal | more
    · exact absurd same (ne_of_lt (iso8601_lt less bound'))
    · exact equal
    · exact absurd same.symm (ne_of_lt (iso8601_lt more bound))
  · exact iso8601_congr

end SmlMcps
