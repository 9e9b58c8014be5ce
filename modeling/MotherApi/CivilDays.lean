import MotherApi.Lib.Calendar
import MotherApi.Lib.Checked
import MotherApi.SimulationTime

/-!
Days and dates.

The service has two copies of the conversion from a date to a day, one for timestamps of requests
and one for simulations, and the way back for simulations only. Here the copies are written with
the range checks of their machine integers. Both number the dates of the calendar, and the way
back gives the date of the number.
-/

namespace MotherApi.CivilDays

open MotherApi.Lib.Fallible MotherApi.Lib.Calendar MotherApi.SimulationTime
open MotherApi.Lib (Checked.signed)

universe u

variable {ε : Type u}

/-! ### The two copies -/

def isLeapYear (year : ℤ) : Bool :=
  (year.tmod 4 == 0 && year.tmod 100 != 0) || year.tmod 400 == 0

/-- `common::time::days_in_month`. -/
def commonDaysInMonth (year : ℤ) (month : ℕ) : ℕ :=
  if month ∈ [1, 3, 5, 7, 8, 10, 12] then 31
  else if month ∈ [4, 6, 9, 11] then 30
  else if month = 2 ∧ isLeapYear year then 29
  else if month = 2 then 28
  else 0

/-- The era of a year, a block of four hundred years. -/
def eraOf (year : ℤ) : Except (Halt ε) ℤ :=
  if 0 ≤ year then .ok (year.tdiv 400)
  else (Checked.signed 32 (year - 399)).map fun year => year.tdiv 400

/-- The day in a year that starts in March. -/
def dayOfYear (monthPrime day : ℤ) : Except (Halt ε) ℤ := do
  let product ← Checked.signed 32 (153 * monthPrime)
  let sum ← Checked.signed 32 (product + 2)
  let days ← Checked.signed 32 (sum.tdiv 5 + day)
  Checked.signed 32 (days - 1)

/-- The day in the era. -/
def dayOfEra (yearOfEra dayOfYear : ℤ) : Except (Halt ε) ℤ := do
  let days ← Checked.signed 32 (yearOfEra * 365)
  let days ← Checked.signed 32 (days + yearOfEra.tdiv 4)
  let days ← Checked.signed 32 (days - yearOfEra.tdiv 100)
  Checked.signed 32 (days + dayOfYear)

/-- The operations of both copies; they convert the month and the day in their own ways. -/
def civilDays (year : ℤ) (month : ℕ) (monthInt dayInt : Except (Halt ε) ℤ) :
    Except (Halt ε) ℤ := do
  let adjustedYear ← Checked.signed 32 (year - if month ≤ 2 then 1 else 0)
  let era ← eraOf adjustedYear
  let eraYears ← Checked.signed 32 (era * 400)
  let yearOfEra ← Checked.signed 32 (adjustedYear - eraYears)
  let monthPrime ← Checked.signed 32 ((← monthInt) + if 2 < month then -3 else 9)
  let dayOfYear ← dayOfYear monthPrime (← dayInt)
  let dayOfEra ← dayOfEra yearOfEra dayOfYear
  let days ← Checked.signed 64 (era * 146097)
  let days ← Checked.signed 64 (days + dayOfEra)
  Checked.signed 64 (days - 719468)

/-- `common::time::days_from_civil` converts with `i32::try_from(..).unwrap()`. -/
def commonDaysFromCivil (year : ℤ) (month day : ℕ) : Except (Halt ε) ℤ :=
  civilDays year month (Checked.signed 32 month) (Checked.signed 32 day)

/-- The copy of `portfolio_simulation` converts with `as i32`, which wraps. -/
def simulationDaysFromCivil (year : ℤ) (month day : ℕ) : Except (Halt ε) ℤ :=
  civilDays year month (.ok (wrapI32 month)) (.ok (wrapI32 day))

/-! ### They number the dates -/

lemma era_eq (year : ℤ) :
    (if 0 ≤ year then year.tdiv 400 else (year - 399).tdiv 400) = year / 400 := by
  split
  · rename_i h
    exact Int.tdiv_eq_ediv_of_nonneg h
  · have hneg : year - 399 = -(399 - year) := by ring
    rw [hneg, Int.neg_tdiv, Int.tdiv_eq_ediv_of_nonneg (by omega)]
    omega

lemma monthPrime_eq (month : ℕ) : (month : ℤ) + (if 2 < month then -3 else 9) =
    marchMonth month := by
  unfold marchMonth
  split_ifs <;> omega

lemma marchMonth_nonneg (month : ℕ) : 0 ≤ marchMonth month := by
  unfold marchMonth
  split <;> omega

lemma adjustedYear_eq (year : ℤ) (month : ℕ) : year - (if month ≤ 2 then 1 else 0) =
    marchYear year month := by
  unfold marchYear
  split <;> omega

/-- The day of a date is its number in the calendar, counted from the first of January 1970. -/
lemma daysFromCivil_eq (year : ℤ) (month day : ℕ) :
    daysFromCivil year month day = dayNumber year month day - 719468 := by
  have hmonth := marchMonth_nonneg month
  unfold daysFromCivil dayNumber
  simp only [adjustedYear_eq, monthPrime_eq, era_eq]
  generalize marchYear year month = a
  rw [Int.tdiv_eq_ediv_of_nonneg (show 0 ≤ 153 * marchMonth month + 2 by omega),
    Int.tdiv_eq_ediv_of_nonneg (show 0 ≤ a - a / 400 * 400 by omega),
    Int.tdiv_eq_ediv_of_nonneg (show 0 ≤ a - a / 400 * 400 by omega)]
  unfold yearStart monthStart
  omega

/-- The dates for which nothing leaves 32 bits. -/
def InRange (year : ℤ) : Prop := -5000000 ≤ year ∧ year ≤ 5000000

lemma eraOf_eq {year : ℤ} (h : -2000000000 ≤ year) :
    (eraOf year : Except (Halt ε) ℤ) = .ok (year / 400) := by
  rw [← era_eq]
  unfold eraOf
  split
  · rfl
  · rw [Lib.Checked.signed_of_mem (by omega)]
    rfl

lemma dayOfYear_eq {monthPrime day : ℤ} (hmonth : 0 ≤ monthPrime) (hmonth' : monthPrime ≤ 11)
    (hday : 0 ≤ day) (hday' : day ≤ 31) :
    (dayOfYear monthPrime day : Except (Halt ε) ℤ) = .ok (monthStart monthPrime + day - 1) := by
  unfold dayOfYear monthStart
  rw [Lib.Checked.signed_bind (by omega), Lib.Checked.signed_bind (by omega),
    Int.tdiv_eq_ediv_of_nonneg (by omega), Lib.Checked.signed_bind (by omega)]
  exact Lib.Checked.signed_of_mem (by omega)

lemma dayOfEra_eq {yearOfEra day : ℤ} (hyear : 0 ≤ yearOfEra) (hyear' : yearOfEra ≤ 399)
    (hday : 0 ≤ day) (hday' : day ≤ 366) :
    (dayOfEra yearOfEra day : Except (Halt ε) ℤ) =
      .ok (yearOfEra * 365 + yearOfEra / 4 - yearOfEra / 100 + day) := by
  unfold dayOfEra
  rw [Lib.Checked.signed_bind (by omega), Int.tdiv_eq_ediv_of_nonneg hyear,
    Lib.Checked.signed_bind (by omega), Int.tdiv_eq_ediv_of_nonneg hyear,
    Lib.Checked.signed_bind (by omega)]
  exact Lib.Checked.signed_of_mem (by omega)

lemma civilDays_eq {year : ℤ} {month day : ℕ} {monthInt dayInt : Except (Halt ε) ℤ}
    (hdate : IsDate year month day) (hyear : InRange year) (hmonthInt : monthInt = .ok ↑month)
    (hdayInt : dayInt = .ok ↑day) :
    civilDays year month monthInt dayInt = .ok (daysFromCivil year month day) := by
  obtain ⟨hlow, hhigh⟩ := dayOfYear_mem hdate
  have hlength : (if IsLeap (marchYear year month + 1) then 366 else 365 : ℤ) ≤ 366 := by
    split <;> omega
  obtain ⟨-, hmonth, -, hday⟩ := hdate
  have hday := hday.trans (monthLength_mem _ _).2
  obtain ⟨hyear, hyear'⟩ := hyear
  have hshift : marchYear year month = year ∨ marchYear year month = year - 1 := by
    unfold marchYear
    split <;> omega
  have hmarch := marchMonth_nonneg month
  have hmarch' : marchMonth month ≤ 11 := by
    unfold marchMonth
    split <;> omega
  rw [daysFromCivil_eq, dayNumber, yearStart]
  unfold civilDays
  simp only [adjustedYear_eq]
  generalize marchYear year month = a at *
  rw [Lib.Checked.signed_bind (by omega), eraOf_eq (by omega), hmonthInt, hdayInt]
  simp only [bind_ok, monthPrime_eq]
  rw [Lib.Checked.signed_bind (by omega), Lib.Checked.signed_bind (by omega),
    Lib.Checked.signed_bind (by omega), dayOfYear_eq hmarch hmarch' (by omega) (by omega)]
  simp only [bind_ok]
  rw [dayOfEra_eq (by omega) (by omega) hlow (by omega)]
  simp only [bind_ok]
  rw [Lib.Checked.signed_bind (by omega), Lib.Checked.signed_bind (by omega),
    Lib.Checked.signed_of_mem (by omega), Except.ok.injEq]
  omega

lemma wrapI32_eq {n : ℤ} (h : -2 ^ 31 ≤ n) (h' : n < 2 ^ 31) : wrapI32 n = n := by
  unfold wrapI32
  exact Int.bmod_eq_of_le (by omega) (by omega)

/-- **The copies agree**, on every date of the range. -/
lemma copies_agree {year : ℤ} {month day : ℕ} (hdate : IsDate year month day)
    (hyear : InRange year) :
    (commonDaysFromCivil year month day : Except (Halt ε) ℤ) =
        .ok (daysFromCivil year month day) ∧
      (simulationDaysFromCivil year month day : Except (Halt ε) ℤ) =
        .ok (daysFromCivil year month day) := by
  have hmonth := hdate.2.1
  have hday := hdate.2.2.2.trans (monthLength_mem _ _).2
  refine ⟨civilDays_eq hdate hyear ?_ ?_, civilDays_eq hdate hyear ?_ ?_⟩
  · exact Lib.Checked.signed_of_mem (by omega)
  · exact Lib.Checked.signed_of_mem (by omega)
  · rw [wrapI32_eq (by omega) (by omega)]
  · rw [wrapI32_eq (by omega) (by omega)]

/-! ### The way back -/

/-- The days of an era less its leap days, by the estimate of the source. -/
def estimate (dayOfEra : ℤ) : ℤ :=
  dayOfEra - dayOfEra / 1460 + dayOfEra / 36524 - dayOfEra / 146096

lemma estimate_mono {a b : ℤ} (h : a ≤ b) : estimate a ≤ estimate b := by
  unfold estimate
  omega

/-- The estimate is right on the first and on the last day of each year of an era. -/
lemma estimate_bounds : ∀ year : ℕ, year < 400 → 365 * (year : ℤ) ≤ estimate (yearStart year) ∧
    estimate (yearStart (year + 1) - 1) < 365 * ((year : ℤ) + 1) := by
  decide +kernel

/-- The year of an era that a day lies in. -/
lemma yearOfEra_spec {day year : ℤ} (hpos : 0 ≤ day) (hlt : day ≤ 146096)
    (hyear : year = estimate day / 365) :
    0 ≤ year ∧ year ≤ 399 ∧ yearStart year ≤ day ∧ day < yearStart (year + 1) := by
  obtain ⟨hlow, hhigh⟩ : 0 ≤ year ∧ year ≤ 399 := by
    unfold estimate at hyear
    omega
  refine ⟨hlow, hhigh, ?_, ?_⟩
  · -- a day before the year has an estimate before it
    by_contra hbefore
    have hpositive : 1 ≤ year := by
      by_contra hzero
      have hstart : yearStart 0 = 0 := rfl
      rw [show year = 0 by omega, hstart] at hbefore
      omega
    obtain ⟨-, hend⟩ := estimate_bounds (year.toNat - 1) (by omega)
    have hcast : ((year.toNat - 1 : ℕ) : ℤ) = year - 1 := by omega
    rw [hcast, sub_add_cancel] at hend
    have := estimate_mono (show day ≤ yearStart year - 1 by omega)
    omega
  · by_contra hafter
    have hlast : year < 399 := by
      by_contra hlast
      have hend : yearStart (399 + 1) = 146097 := rfl
      rw [show year = 399 by omega, hend] at hafter
      omega
    obtain ⟨hstart, -⟩ := estimate_bounds (year.toNat + 1) (by omega)
    have hcast : ((year.toNat + 1 : ℕ) : ℤ) = year + 1 := by omega
    rw [hcast] at hstart
    have := estimate_mono (show yearStart (year + 1) ≤ day by omega)
    omega

lemma isDate_of_dayOfYear {year doy mp : ℤ} (hpos : 0 ≤ doy)
    (hlt : doy < if IsLeap (year + 1) then 366 else 365) (hmp : mp = (5 * doy + 2) / 153) :
    ∃ month day : ℕ, (mp + if mp < 10 then 3 else -9) = month ∧
      doy - (153 * mp + 2) / 5 + 1 = day ∧
      IsDate (year + if 10 ≤ mp then 1 else 0) month day ∧
      marchMonth month = mp ∧ marchYear (year + if 10 ≤ mp then 1 else 0) month = year := by
  have hdoy : doy ≤ 365 := by split at hlt <;> omega
  have hleap : doy = 365 → IsLeap (year + 1) := by
    intro heq
    by_contra hnot
    rw [if_neg hnot] at hlt
    omega
  have hmpl : 0 ≤ mp := by omega
  have hmpu : mp ≤ 11 := by omega
  refine ⟨(mp + if mp < 10 then 3 else -9).toNat, (doy - (153 * mp + 2) / 5 + 1).toNat, ?_, ?_, ?_,
    ?_, ?_⟩
  · split <;> omega
  · omega
  · unfold IsDate monthLength
    by_cases hyear : IsLeap (year + 1)
    · interval_cases mp <;> simp [hyear] <;> omega
    · have hshort : doy ≠ 365 := fun heq => hyear (hleap heq)
      interval_cases mp <;> simp [hyear] <;> omega
  · unfold marchMonth
    interval_cases mp <;> rfl
  · unfold marchYear
    interval_cases mp <;> simp

/-- The days from the first to the last date of the range. -/
def DayInRange (n : ℤ) : Prop :=
  daysFromCivil (-5000000) 1 1 ≤ n ∧ n ≤ daysFromCivil 5000000 12 31

lemma dayInRange_iff {n : ℤ} : DayInRange n ↔ -1826932028 ≤ n ∧ n ≤ 1825493337 := by
  have hfirst : daysFromCivil (-5000000) 1 1 = -1826932028 := by decide
  have hlast : daysFromCivil 5000000 12 31 = 1825493337 := by decide
  rw [DayInRange, hfirst, hlast]

lemma dayEra_eq (day : ℤ) :
    (if 0 ≤ day then day else day - 146096).tdiv 146097 = day / 146097 := by
  split
  · rename_i h
    exact Int.tdiv_eq_ediv_of_nonneg h
  · have hneg : day - 146096 = -(146096 - day) := by ring
    rw [hneg, Int.neg_tdiv, Int.tdiv_eq_ediv_of_nonneg (by omega)]
    omega

lemma yearStart_add_era (year era : ℤ) :
    yearStart (year + era * 400) = yearStart year + era * 146097 := by
  unfold yearStart
  omega

/-- The way back, where nothing wraps. -/
lemma civilFromDays_eq {n era doe yoe doy mp : ℤ} (h : DayInRange n)
    (hera : era = (n + 719468) / 146097) (hdoe : doe = n + 719468 - era * 146097)
    (hyoe : yoe = estimate doe / 365) (hdoy : doy = doe - yearStart yoe)
    (hmp : mp = (5 * doy + 2) / 153) :
    civilFromDays n = (yoe + era * 400 + (if 10 ≤ mp then 1 else 0),
      mp + (if mp < 10 then 3 else -9), doy - (153 * mp + 2) / 5 + 1) := by
  obtain ⟨hlow, hhigh⟩ := dayInRange_iff.mp h
  have hdoel : 0 ≤ doe := by omega
  have hdoeu : doe ≤ 146096 := by omega
  obtain ⟨hyoel, hyoeu, hstart, -⟩ := yearOfEra_spec hdoel hdoeu hyoe
  have htdiv : ∀ a b : ℤ, 0 ≤ a → a.tdiv b = a / b := fun a b => Int.tdiv_eq_ediv_of_nonneg
  have hstartyoe : yearStart yoe = 365 * yoe + yoe / 4 - yoe / 100 := by
    unfold yearStart
    omega
  unfold civilFromDays
  simp only [dayEra_eq, ← hera, ← hdoe]
  rw [htdiv doe 1460 hdoel, htdiv doe 36524 hdoel, htdiv doe 146096 hdoel, ← estimate,
    htdiv (estimate doe) 365 (by unfold estimate; omega), ← hyoe, htdiv yoe 4 hyoel,
    htdiv yoe 100 hyoel, ← hstartyoe, ← hdoy, htdiv (5 * doy + 2) 153 (by omega), ← hmp,
    htdiv (153 * mp + 2) 5 (by omega)]
  rw [wrapI32_eq (n := yoe) (by omega) (by omega), wrapI32_eq (n := era) (by omega) (by omega),
    wrapI32_eq (n := era * 400) (by omega) (by omega), wrapI32_eq (n := yoe + era * 400) (by omega)
      (by omega)]
  rw [wrapI32_eq (by split <;> omega) (by split <;> omega)]

/-- The way back gives a date, and it is the one of the day. -/
lemma civilFromDays_spec {n : ℤ} (h : DayInRange n) :
    ∃ date : Date, civilFromDays n = (date.year, ↑date.month, ↑date.day) ∧
      daysFromCivil date.year date.month date.day = n := by
  have heq := civilFromDays_eq h rfl rfl rfl rfl rfl
  generalize hera : (n + 719468) / 146097 = era at heq
  generalize hdoe : n + 719468 - era * 146097 = doe at heq
  generalize hyoe : estimate doe / 365 = yoe at heq
  generalize hdoy : doe - yearStart yoe = doy at heq
  generalize hmp : (5 * doy + 2) / 153 = mp at heq
  obtain ⟨hyoel, hyoeu, hstart, hend⟩ := yearOfEra_spec (by omega) (by omega) hyoe.symm
  have hlength : yearStart (yoe + 1) =
      yearStart yoe + if IsLeap (yoe + era * 400 + 1) then 366 else 365 := by
    have hsucc := yearStart_succ (yoe + era * 400)
    have hshift := yearStart_add_era (yoe + 1) era
    rw [add_right_comm yoe 1] at hshift
    rw [hshift, yearStart_add_era] at hsucc
    omega
  obtain ⟨month, day, hmonth, hday, hdate, hmarch, hyear⟩ :=
    @isDate_of_dayOfYear (yoe + era * 400) doy mp (by omega) (by omega) hmp.symm
  refine ⟨⟨_, month, day, hdate⟩, ?_, ?_⟩
  · rw [heq, hmonth, hday]
  · rw [daysFromCivil_eq, dayNumber]
    simp only [hyear, hmarch, yearStart_add_era, monthStart, ← hday]
    omega


lemma daysFromCivil_next (date : Date) :
    daysFromCivil date.next.year date.next.month date.next.day =
      daysFromCivil date.year date.month date.day + 1 := by
  rw [daysFromCivil_eq, daysFromCivil_eq, dayNumber_next]
  ring

lemma daysFromCivil_injective {a b : Date}
    (h : daysFromCivil a.year a.month a.day = daysFromCivil b.year b.month b.day) : a = b := by
  rw [daysFromCivil_eq, daysFromCivil_eq, sub_left_inj] at h
  exact dayNumber_injective h

/-- The first of January 1970. -/
def unixEpoch : Date := ⟨1970, 1, 1, by decide⟩

/-- The number of a date is the number of days from the first of January 1970. -/
lemma daysFrom_unixEpoch_iff {n : ℤ} {date : Date} :
    Date.DaysFrom unixEpoch n date ↔ daysFromCivil date.year date.month date.day = n :=
  Date.daysFrom_iff (c := fun date => daysFromCivil date.year date.month date.day)
    daysFromCivil_next (fun _ _ => daysFromCivil_injective) (by decide)

lemma days_lt_of_year_lt {date : Date} {year : ℤ} (h : date.year < year) :
    daysFromCivil date.year date.month date.day < daysFromCivil year 1 1 := by
  obtain ⟨hm, hm', hd, hd'⟩ := date.real
  have hd' := hd'.trans (monthLength_mem _ _).2
  have hyear := yearStart_mono (show date.year ≤ year - 1 by omega)
  have hbefore := yearStart_succ (date.year - 1)
  rw [sub_add_cancel] at hbefore
  rw [daysFromCivil_eq, daysFromCivil_eq, dayNumber, dayNumber]
  unfold marchYear marchMonth monthStart
  split_ifs at hbefore ⊢ <;> omega

lemma days_le_of_year_le {date : Date} {year : ℤ} (h : year ≤ date.year) :
    daysFromCivil year 1 1 ≤ daysFromCivil date.year date.month date.day := by
  obtain ⟨hm, hm', hd, hd'⟩ := date.real
  have hyear := yearStart_mono (show year - 1 ≤ date.year - 1 by omega)
  have hbefore := yearStart_succ (date.year - 1)
  rw [sub_add_cancel] at hbefore
  rw [daysFromCivil_eq, daysFromCivil_eq, dayNumber, dayNumber]
  unfold marchYear marchMonth monthStart
  split_ifs at hbefore ⊢ <;> omega

lemma dayInRange_of_inRange {date : Date} (h : InRange date.year) :
    DayInRange (daysFromCivil date.year date.month date.day) := by
  have hlast : daysFromCivil 5000001 1 1 = daysFromCivil 5000000 12 31 + 1 := by decide
  have hlt := days_lt_of_year_lt (show date.year < 5000001 by unfold InRange at h; omega)
  exact ⟨days_le_of_year_le h.1, by omega⟩

lemma year_mem_of_days {date : Date} {first last : ℤ}
    (hfirst : daysFromCivil first 1 1 ≤ daysFromCivil date.year date.month date.day)
    (hlast : daysFromCivil date.year date.month date.day < daysFromCivil last 1 1) :
    first ≤ date.year ∧ date.year < last := by
  constructor
  · by_contra hnot
    have := days_lt_of_year_lt (not_le.mp hnot)
    omega
  · by_contra hnot
    have := days_le_of_year_le (not_lt.mp hnot)
    omega

lemma civilFromDays_daysFromCivil {date : Date} (h : InRange date.year) :
    civilFromDays (daysFromCivil date.year date.month date.day) =
      (date.year, ↑date.month, ↑date.day) := by
  obtain ⟨date', heq, hdays⟩ := civilFromDays_spec (dayInRange_of_inRange h)
  rw [heq, daysFromCivil_injective hdays]

/-! ### The lengths of the months -/

lemma tmod_eq_zero_iff {a b : ℤ} : a.tmod b = 0 ↔ a % b = 0 := by
  rw [← Int.dvd_iff_tmod_eq_zero, Int.dvd_iff_emod_eq_zero]

lemma isLeapYear_iff {year : ℤ} : isLeapYear year = true ↔ IsLeap year := by
  unfold isLeapYear IsLeap
  simp [tmod_eq_zero_iff]

lemma daysInMonth_eq (year : ℤ) {month : ℕ} (hpos : 1 ≤ month) (hle : month ≤ 12) :
    daysInMonth year month = monthLength year month ∧
      commonDaysInMonth year month = monthLength year month := by
  have hleap : ((year.tmod 4 = 0 ∧ year.tmod 100 ≠ 0) ∨ year.tmod 400 = 0) ↔ IsLeap year := by
    rw [IsLeap, tmod_eq_zero_iff, ne_eq, tmod_eq_zero_iff, tmod_eq_zero_iff]
  unfold daysInMonth commonDaysInMonth monthLength
  simp only [hleap, isLeapYear_iff]
  interval_cases month <;> simp

end MotherApi.CivilDays
