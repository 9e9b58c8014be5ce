import Mathlib.Algebra.Order.Ring.Int
import Mathlib.Logic.Function.Iterate
import Mathlib.Tactic.IntervalCases
import Mathlib.Tactic.Ring

/-!
The proleptic Gregorian calendar.

A date carries the proof that it is one. Dates are counted by going from each to the next; a
number for every date counts them if it grows by one with the next date and no two dates share it.
The number given here puts the leap day at the end of a year that starts in March, so that the
months before it have the same lengths in every year.
-/

namespace MotherApi.Lib.Calendar

/-! ### Dates -/

/-- Every fourth year, but of the full centuries every fourth only. -/
def IsLeap (year : ℤ) : Prop := (year % 4 = 0 ∧ year % 100 ≠ 0) ∨ year % 400 = 0

instance (year : ℤ) : Decidable (IsLeap year) :=
  inferInstanceAs (Decidable ((year % 4 = 0 ∧ year % 100 ≠ 0) ∨ year % 400 = 0))

def monthLength (year : ℤ) (month : ℕ) : ℕ :=
  if month = 2 then if IsLeap year then 29 else 28
  else if month = 4 ∨ month = 6 ∨ month = 9 ∨ month = 11 then 30
  else 31

/-- There is such a day. -/
def IsDate (year : ℤ) (month day : ℕ) : Prop :=
  1 ≤ month ∧ month ≤ 12 ∧ 1 ≤ day ∧ day ≤ monthLength year month

instance (year : ℤ) (month day : ℕ) : Decidable (IsDate year month day) :=
  inferInstanceAs (Decidable (_ ∧ _ ∧ _ ∧ _))

@[ext]
structure Date where
  year : ℤ
  month : ℕ
  day : ℕ
  real : IsDate year month day

lemma monthLength_mem (year : ℤ) (month : ℕ) :
    28 ≤ monthLength year month ∧ monthLength year month ≤ 31 := by
  unfold monthLength
  split_ifs <;> omega

namespace Date

/-- The day after. -/
def next (date : Date) : Date :=
  if h : date.day + 1 ≤ monthLength date.year date.month then
    ⟨date.year, date.month, date.day + 1, date.real.1, date.real.2.1, by omega, h⟩
  else if h : date.month + 1 ≤ 12 then
    ⟨date.year, date.month + 1, 1, by omega, h, le_rfl,
      (by omega : 1 ≤ 28).trans (monthLength_mem _ _).1⟩
  else
    ⟨date.year + 1, 1, 1, le_rfl, by omega, le_rfl,
      (by omega : 1 ≤ 28).trans (monthLength_mem _ _).1⟩

/-- The date is so many days after the start, or before it. -/
def DaysFrom (start : Date) (n : ℤ) (date : Date) : Prop :=
  if 0 ≤ n then next^[n.toNat] start = date else next^[(-n).toNat] date = start

section

variable {c : Date → ℤ} (hnext : ∀ date, c date.next = c date + 1)

include hnext

lemma count_iterate_next (n : ℕ) (date : Date) : c (next^[n] date) = c date + n := by
  induction n generalizing date with
  | zero => simp
  | succ n ih =>
    rw [Function.iterate_succ_apply, ih, hnext]
    push_cast
    ring

/-- **What counts the days.** A number that grows by one from each date to the next, and is
another one for every date, is the number of days from where it is zero. -/
theorem daysFrom_iff (hinjective : Function.Injective c) {start : Date}
    (hstart : c start = 0) {n : ℤ} {date : Date} :
    DaysFrom start n date ↔ c date = n := by
  unfold DaysFrom
  split
  · rename_i hpos
    have hcount := count_iterate_next hnext n.toNat start
    rw [hstart] at hcount
    constructor
    · rintro rfl
      omega
    · intro hdate
      exact hinjective (by omega)
  · rename_i hneg
    have hcount := count_iterate_next hnext (-n).toNat date
    constructor
    · intro hdate
      rw [hdate, hstart] at hcount
      omega
    · intro hdate
      exact hinjective (by omega)

end

end Date

/-! ### The number of a date -/

/-- The days before the first of March of a year. -/
def yearStart (year : ℤ) : ℤ := 365 * year + year / 4 - year / 100 + year / 400

/-- The year that a month belongs to, where years start in March. -/
def marchYear (year : ℤ) (month : ℕ) : ℤ := if month ≤ 2 then year - 1 else year

/-- The months since March. -/
def marchMonth (month : ℕ) : ℤ := if month ≤ 2 then month + 9 else month - 3

/-- The days from the first of March to the first of the month. -/
def monthStart (month : ℤ) : ℤ := (153 * month + 2) / 5

/-- The days since the first of March of the year zero. -/
def dayNumber (year : ℤ) (month day : ℕ) : ℤ :=
  yearStart (marchYear year month) + monthStart (marchMonth month) + day - 1

lemma yearStart_succ (year : ℤ) :
    yearStart (year + 1) = yearStart year + if IsLeap (year + 1) then 366 else 365 := by
  by_cases hleap : IsLeap (year + 1)
  · rw [if_pos hleap]
    unfold IsLeap at hleap
    unfold yearStart
    omega
  · rw [if_neg hleap]
    unfold IsLeap at hleap
    unfold yearStart
    omega

lemma yearStart_mono {a b : ℤ} (h : a ≤ b) : yearStart a ≤ yearStart b := by
  unfold yearStart
  omega

/-- A year that has started and not ended is the only one. -/
lemma eq_of_yearStart {a b n : ℤ} (ha : yearStart a ≤ n) (ha' : n < yearStart (a + 1))
    (hb : yearStart b ≤ n) (hb' : n < yearStart (b + 1)) : a = b := by
  by_contra hne
  rcases lt_or_gt_of_ne hne with hlt | hlt
  · have := yearStart_mono (show a + 1 ≤ b by omega)
    omega
  · have := yearStart_mono (show b + 1 ≤ a by omega)
    omega

lemma dayNumber_month {year : ℤ} {month : ℕ} (hpos : 1 ≤ month) (hle : month + 1 ≤ 12) :
    dayNumber year (month + 1) 1 = dayNumber year month (monthLength year month) + 1 := by
  by_cases hfebruary : month = 2
  · -- the end of February is the end of the year
    subst hfebruary
    have hstart := yearStart_succ (year - 1)
    rw [sub_add_cancel] at hstart
    simp only [dayNumber, marchYear, marchMonth, monthStart, monthLength]
    by_cases hleap : IsLeap year
    · simp [hleap] at hstart ⊢
      omega
    · simp [hleap] at hstart ⊢
      omega
  · have hmonth : month < 12 := by omega
    simp only [dayNumber, marchYear, marchMonth, monthStart, monthLength]
    interval_cases month <;> simp at hfebruary ⊢ <;> ring

lemma dayNumber_year (year : ℤ) :
    dayNumber (year + 1) 1 1 = dayNumber year 12 31 + 1 := by
  simp only [dayNumber, marchYear, marchMonth, monthStart]
  norm_num
  omega

lemma dayNumber_next (date : Date) :
    dayNumber date.next.year date.next.month date.next.day =
      dayNumber date.year date.month date.day + 1 := by
  obtain ⟨year, month, day, hm, hm', hd, hd'⟩ := date
  unfold Date.next
  by_cases hday : day + 1 ≤ monthLength year month
  · simp only [hday, dif_pos]
    unfold dayNumber
    push_cast
    ring
  · have hlast : day = monthLength year month := by omega
    by_cases hmonth : month + 1 ≤ 12
    · simp only [hday, hmonth, dif_neg, dif_pos, not_false_eq_true]
      rw [dayNumber_month hm hmonth, hlast]
    · have hdecember : month = 12 := by omega
      subst hdecember
      simp only [hday, hmonth, dif_neg, not_false_eq_true]
      rw [dayNumber_year, hlast]
      rfl

/-- The day of a date in its year, which has a last day more if the year ends in a leap day. -/
lemma dayOfYear_mem {year : ℤ} {month day : ℕ} (h : IsDate year month day) :
    0 ≤ monthStart (marchMonth month) + day - 1 ∧
      monthStart (marchMonth month) + day - 1 <
        if IsLeap (marchYear year month + 1) then 366 else 365 := by
  obtain ⟨hm, hm', hd, hd'⟩ := h
  unfold monthLength at hd'
  simp only [marchYear, marchMonth, monthStart]
  interval_cases month <;> simp at hd' ⊢ <;> split_ifs at hd' ⊢ <;> omega

lemma dayNumber_mem {year : ℤ} {month day : ℕ} (h : IsDate year month day) :
    yearStart (marchYear year month) ≤ dayNumber year month day ∧
      dayNumber year month day < yearStart (marchYear year month + 1) := by
  obtain ⟨hlow, hhigh⟩ := dayOfYear_mem h
  rw [yearStart_succ]
  unfold dayNumber
  exact ⟨by omega, by omega⟩

lemma marchMonth_eq {year : ℤ} {month day : ℕ} (h : IsDate year month day) :
    (5 * (monthStart (marchMonth month) + day - 1) + 2) / 153 = marchMonth month := by
  obtain ⟨hm, hm', hd, hd'⟩ := h
  unfold monthLength at hd'
  simp only [marchMonth, monthStart]
  have hleap : (if IsLeap year then 29 else 28) ≤ 29 := by split <;> omega
  interval_cases month <;> simp at hd' ⊢ <;> omega

/-- No two dates have one number. -/
lemma dayNumber_injective {a b : Date}
    (h : dayNumber a.year a.month a.day = dayNumber b.year b.month b.day) : a = b := by
  obtain ⟨ha, ha'⟩ := dayNumber_mem a.real
  obtain ⟨hb, hb'⟩ := dayNumber_mem b.real
  have hyear := eq_of_yearStart ha ha' (h ▸ hb) (h ▸ hb')
  have hday : monthStart (marchMonth a.month) + a.day - 1 =
      monthStart (marchMonth b.month) + b.day - 1 := by
    unfold dayNumber at h
    rw [hyear] at h
    omega
  have hmonth := marchMonth_eq a.real
  rw [hday, marchMonth_eq b.real] at hmonth
  have hsame : a.month = b.month := by
    have := a.real
    have := b.real
    unfold IsDate at *
    unfold marchMonth at hmonth
    split_ifs at hmonth <;> omega
  rw [hsame] at hday hyear
  refine Date.ext ?_ hsame (by omega)
  unfold marchYear at hyear
  split_ifs at hyear <;> omega

end MotherApi.Lib.Calendar
