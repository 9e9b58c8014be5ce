import MotherApi.SimulationDates

/-!
The window of a simulation.

A window goes from the start of its first day to the end of its last, and has a timestamp for the
start of each day and one for the end. They are a grid of days, and begin with the two dates as
they were given, if the dates are spelled as the timestamps spell them and the end is not after
the last timestamp that can be read.
-/

namespace MotherApi.SimulationWindows

open MotherApi.Lib.Numerals MotherApi.Lib.Calendar MotherApi.SimulationTime MotherApi.CivilDays
open MotherApi.Timestamps MotherApi.SimulationTexts MotherApi.SimulationDates

/-! ### The code -/

def maxDays : ℤ := 366

structure SimulationWindow where
  startDate : String
  endDate : String
  startDay : ℤ
  days : ℤ
  deriving DecidableEq

def timestampForDay (days : ℤ) : String :=
  let (year, month, day) := civilFromDays days
  String.ofList (padded 4 year ++ '-' :: padded 2 month ++ '-' :: padded 2 day ++
    "T00:00:00Z".toList)

namespace SimulationWindow

/-- Nothing is `Error::InvalidDateRange`. -/
def parse (start stop : String) : Option SimulationWindow := do
  let startDay ← SimulationTime.parseDate start.toList
  let endDay ← SimulationTime.parseDate stop.toList
  let days := endDay - startDay + 1
  if ¬(1 ≤ days ∧ days ≤ maxDays) then none
  else some ⟨start, stop, startDay, days⟩

def startTimestamp (window : SimulationWindow) : String := timestampForDay window.startDay

def endTimestamp (window : SimulationWindow) : String :=
  timestampForDay (window.startDay + window.days)

def timestamps (window : SimulationWindow) : List String :=
  (List.range (window.days + 1).toNat).map fun (offset : ℕ) =>
    timestampForDay (window.startDay + offset)

end SimulationWindow

/-! ### Timestamps of days -/

lemma timestampForDay_eq (n : ℤ) : timestampForDay n = timestampForEpoch (n * 86400) := by
  have hday : n * 86400 / 86400 = n := by omega
  have hseconds : n * 86400 % 86400 = 0 := by omega
  have hmidnight : "T00:00:00Z".toList = 'T' :: padded 2 (0 / 3600) ++
      ':' :: padded 2 (0 % 3600 / 60) ++ ':' :: padded 2 (0 % 60) ++ ['Z'] := by decide
  unfold timestampForDay timestampForEpoch
  simp only [hday, hseconds, hmidnight]
  simp

/-- A day whose year has four characters is read back from its timestamp. -/
lemma parse_timestampForDay {n : ℤ} (hfirst : daysFromCivil (-999) 1 1 ≤ n)
    (hlast : n < daysFromCivil 10000 1 1) :
    parseRfc3339Epoch (timestampForDay n) = some (n * 86400) := by
  have hfirstDay : daysFromCivil (-999) 1 1 = -1084405 := by decide
  have hlastDay : daysFromCivil 10000 1 1 = 2932897 := by decide
  have hday : n * 86400 / 86400 = n := by omega
  obtain ⟨date, hlow, hhigh, hcivil, hdays⟩ :=
    exists_date (dayInRange_iff.mpr (by omega)) hfirst hlast
  rw [timestampForDay_eq]
  exact parse_timestampForEpoch ⟨hlow, by omega⟩ (by rw [hday, hcivil]) (by rw [hday, hdays])

lemma timestampForDay_text {date : Date} (h : YearFits date.year) :
    ∃ rest, (timestampForDay (daysFromCivil date.year date.month date.day)).toList =
      civilText date ++ rest := by
  have hrange : InRange date.year := by
    unfold YearFits at h
    unfold InRange
    omega
  have hday : daysFromCivil date.year date.month date.day * 86400 / 86400 =
      daysFromCivil date.year date.month date.day := by omega
  rw [timestampForDay_eq, timestampForEpoch_eq (by rw [hday, civilFromDays_daysFromCivil hrange]) h,
    String.toList_ofList]
  exact ⟨_, rfl⟩

/-! ### Dates as they are given -/

/-- No plus sign, and no minus sign before a zero. -/
def Plain (text : List Char) : Prop := '+' ∉ text ∧ ¬"-000".toList <+: text

lemma prefix_append_iff {text front rest : List Char} (hlen : text.length = front.length) :
    text <+: front ++ rest ↔ text = front := by
  constructor
  · intro h
    exact (List.prefix_of_prefix_length_le h (List.prefix_append front rest)
      hlen.le).eq_of_length hlen
  · rintro rfl
    exact List.prefix_append text rest

lemma minus_zero_iff {year : ℤ} (hlow : -999 ≤ year) : ¬"-000".toList = yearText year := by
  intro heq
  unfold yearText at heq
  split at heq
  · refine not_mem_numeral rfl 4 year.toNat (?_ : '-' ∈ _)
    rw [← heq]
    decide
  · have hzero : numeral 3 (-year).toNat = ['0', '0', '0'] := (List.cons.inj heq).2.symm
    have hnumber := @number_numeral 3 (-year).toNat (by omega)
    rw [hzero] at hnumber
    have : number ['0', '0', '0'] = 0 := rfl
    omega

lemma plain_civilText {date : Date} (h : YearFits date.year) : Plain (civilText date) := by
  refine ⟨?_, ?_⟩
  · have hyear : '+' ∉ yearText date.year := by
      unfold yearText
      split
      · exact not_mem_numeral rfl _ _
      · simp [not_mem_numeral]
    simp [civilText, hyear, not_mem_numeral]
  · intro hprefix
    exact minus_zero_iff h.1 ((prefix_append_iff (by simp)).mp hprefix)

/-- A field without a plus sign, of a number that is not negative. -/
lemma field_eq_numeral {text : List Char} {width n : ℕ} (h : Spells width n text) (hn : 1 ≤ n)
    (hplus : '+' ∉ text) : text = numeral width n := by
  rcases h with ⟨k, -, hk, rfl⟩ | ⟨k, -, -, rfl⟩ | ⟨k, -, hk, rfl⟩
  · rw [Int.natCast_inj.mp hk]
  · simp at hplus
  · omega

lemma year_eq_yearText {text : List Char} {year : ℤ} (h : Spells 4 year text)
    (hplus : '+' ∉ text) (hzero : text ≠ "-000".toList) : text = yearText year := by
  unfold yearText
  rcases h with ⟨k, -, rfl, rfl⟩ | ⟨k, -, -, rfl⟩ | ⟨k, -, rfl, rfl⟩
  · rw [if_pos (by omega), Int.toNat_natCast]
  · simp at hplus
  · have hk : k ≠ 0 := by
      rintro rfl
      exact hzero rfl
    rw [if_neg (by omega), neg_neg, Int.toNat_natCast]

/-- A date is spelled as its timestamps spell it exactly if it is plain. -/
lemma eq_civilText_iff {date : Date} {a b c : List Char} (ha : Spells 4 date.year a)
    (hb : Spells 2 date.month b) (hc : Spells 2 date.day c) :
    a ++ '-' :: (b ++ '-' :: c) = civilText date ↔ Plain (a ++ '-' :: (b ++ '-' :: c)) := by
  constructor
  · intro heq
    rw [heq]
    exact plain_civilText (yearFits_of_spells ha)
  · rintro ⟨hplus, hzero⟩
    simp only [List.mem_append, List.mem_cons, not_or] at hplus
    have hyear := year_eq_yearText ha hplus.1 fun heq => hzero ⟨'-' :: (b ++ '-' :: c), by rw [heq]⟩
    rw [civilText, ← hyear, ← field_eq_numeral hb date.real.1 hplus.2.2.1,
      ← field_eq_numeral hc date.real.2.2.1 hplus.2.2.2.2]

/-! ### The grid -/

/-- The grid of days that a window should be. -/
structure CleanGrid (window : SimulationWindow) : Prop where
  days_mem : 1 ≤ window.days ∧ window.days ≤ 366
  length_eq : (window.timestamps.length : ℤ) = window.days + 1
  epochs : ∀ (i : ℕ) timestamp, window.timestamps[i]? = some timestamp →
    parseRfc3339Epoch timestamp = some ((window.startDay + i) * 86400)
  first : window.timestamps.head? = some window.startTimestamp
  starts : window.startDate.toList <+: window.startTimestamp.toList
  last : window.timestamps.getLast? = some window.endTimestamp
  ends : ∃ timestamp, window.timestamps[window.timestamps.length - 2]? = some timestamp ∧
    window.endDate.toList <+: timestamp.toList

/-- What an accepted window consists of. -/
lemma parse_eq_some {start stop : String} {window : SimulationWindow} :
    SimulationWindow.parse start stop = some window ↔
      ∃ startDay endDay, SimulationTime.parseDate start.toList = some startDay ∧
        SimulationTime.parseDate stop.toList = some endDay ∧
        1 ≤ endDay - startDay + 1 ∧ endDay - startDay + 1 ≤ 366 ∧
        window = ⟨start, stop, startDay, endDay - startDay + 1⟩ := by
  unfold SimulationWindow.parse maxDays
  simp only [Option.bind_eq_bind, Option.bind_eq_some_iff]
  constructor
  · rintro ⟨startDay, hstart, endDay, hend, hchecks⟩
    split_ifs at hchecks with hdays
    cases hchecks
    exact ⟨startDay, endDay, hstart, hend, hdays.1, hdays.2, rfl⟩
  · rintro ⟨startDay, endDay, hstart, hend, hlow, hhigh, rfl⟩
    refine ⟨startDay, hstart, endDay, hend, ?_⟩
    rw [if_neg (not_not.mpr ⟨hlow, hhigh⟩)]

lemma timestamps_getElem? (window : SimulationWindow) (i : ℕ) :
    window.timestamps[i]? =
      if i < (window.days + 1).toNat then some (timestampForDay (window.startDay + i))
      else none := by
  unfold SimulationWindow.timestamps
  rw [List.getElem?_map]
  split
  · rename_i hlt
    rw [List.getElem?_range hlt]
    rfl
  · rename_i hle
    rw [List.getElem?_eq_none (by rw [List.length_range]; omega)]
    rfl

lemma timestamps_length (window : SimulationWindow) :
    window.timestamps.length = (window.days + 1).toNat := by
  rw [SimulationWindow.timestamps, List.length_map, List.length_range]

lemma timestamps_head? {window : SimulationWindow} (h : 1 ≤ window.days) :
    window.timestamps.head? = some window.startTimestamp := by
  rw [List.head?_eq_getElem?, timestamps_getElem?, if_pos (by omega)]
  simp [SimulationWindow.startTimestamp]

lemma timestamps_getLast? {window : SimulationWindow} (h : 1 ≤ window.days) :
    window.timestamps.getLast? = some window.endTimestamp := by
  have hoffset : (((window.days + 1).toNat - 1 : ℕ) : ℤ) = window.days := by omega
  rw [List.getLast?_eq_getElem?, timestamps_length, timestamps_getElem?, if_pos (by omega), hoffset]
  rfl

/-- The entry before the last is that of the last day. -/
lemma timestamps_before_last {window : SimulationWindow} (h : 1 ≤ window.days) :
    window.timestamps[window.timestamps.length - 2]? =
      some (timestampForDay (window.startDay + (window.days - 1))) := by
  have hoffset : (((window.days + 1).toNat - 2 : ℕ) : ℤ) = window.days - 1 := by omega
  rw [timestamps_length, timestamps_getElem?, if_pos (by omega), hoffset]

/-- The day after the last that a date can name. -/
lemma parse_last_timestamp : parseRfc3339Epoch (timestampForDay 2932897) = none := by
  decide +kernel

lemma eq_numeral_of_large {text : List Char} {width n : ℕ} (h : Spells width n text)
    (hlarge : 10 ^ (width - 1) ≤ n) : text = numeral width n := by
  rcases h with ⟨k, -, hk, rfl⟩ | ⟨k, hlt, hk, -⟩ | ⟨k, hlt, hk, -⟩
  · rw [Int.natCast_inj.mp hk]
  · omega
  · omega

lemma eq_last_date_iff {date : Date} {a b c : List Char} (ha : Spells 4 date.year a)
    (hb : Spells 2 date.month b) (hc : Spells 2 date.day c) :
    daysFromCivil date.year date.month date.day = 2932896 ↔
      a ++ '-' :: (b ++ '-' :: c) = "9999-12-31".toList := by
  constructor
  · intro hdays
    obtain rfl := @daysFromCivil_injective date ⟨9999, 12, 31, by decide⟩ (hdays.trans (by decide))
    have hyear : a = numeral 4 9999 := eq_numeral_of_large ha (by decide)
    have hmonth : b = numeral 2 12 := eq_numeral_of_large hb (by decide)
    have hday : c = numeral 2 31 := eq_numeral_of_large hc (by decide)
    rw [hyear, hmonth, hday]
    decide
  · intro htext
    have hparse : SimulationTime.parseDate "9999-12-31".toList = some 2932896 := by decide +kernel
    have hdate := SimulationDates.parseDate_eq_some.mpr ⟨date, a, b, c, rfl, ha, hb, hc, rfl⟩
    rw [htext, hparse] at hdate
    exact (Option.some.inj hdate).symm

/-- A date is the beginning of the timestamp of its day exactly if it is plain. -/
lemma prefix_timestamp_iff {date : Date} {a b c : List Char} (ha : Spells 4 date.year a)
    (hb : Spells 2 date.month b) (hc : Spells 2 date.day c) :
    a ++ '-' :: (b ++ '-' :: c) <+:
        (timestampForDay (daysFromCivil date.year date.month date.day)).toList ↔
      Plain (a ++ '-' :: (b ++ '-' :: c)) := by
  have hlen : (a ++ '-' :: (b ++ '-' :: c)).length = (civilText date).length := by
    have := spells_length (by omega) ha
    have := spells_length (by omega) hb
    have := spells_length (by omega) hc
    simp only [List.length_append, List.length_cons, civilText_length]
    omega
  obtain ⟨rest, htext⟩ := timestampForDay_text (yearFits_of_spells ha)
  rw [htext, prefix_append_iff hlen, eq_civilText_iff ha hb hc]

lemma days_mem_of_yearFits {date : Date} (h : YearFits date.year) :
    -1084405 ≤ daysFromCivil date.year date.month date.day ∧
      daysFromCivil date.year date.month date.day ≤ 2932896 := by
  have hfirst : daysFromCivil (-999) 1 1 = -1084405 := by decide
  have hlast : daysFromCivil 10000 1 1 = 2932897 := by decide
  have hlow := days_le_of_year_le h.1
  have hhigh := days_lt_of_year_lt (show date.year < 10000 from Int.lt_add_one_of_le h.2)
  omega

/-- The timestamps of a window can be read exactly if the last of them can. -/
lemma epochs_iff {window : SimulationWindow} (hstart : -1084405 ≤ window.startDay)
    (hdays : 1 ≤ window.days) (hend : window.startDay + window.days ≤ 2932897) :
    (∀ (i : ℕ) timestamp, window.timestamps[i]? = some timestamp →
        parseRfc3339Epoch timestamp = some ((window.startDay + i) * 86400)) ↔
      window.startDay + window.days ≠ 2932897 := by
  have hfirstDay : daysFromCivil (-999) 1 1 = -1084405 := by decide
  have hlastDay : daysFromCivil 10000 1 1 = 2932897 := by decide
  constructor
  · intro hepochs heq
    have hlt : window.days.toNat < (window.days + 1).toNat := by omega
    have hoffset : window.startDay + (window.days.toNat : ℤ) = 2932897 := by omega
    have hepoch := hepochs window.days.toNat (timestampForDay 2932897) (by
      rw [timestamps_getElem?, if_pos hlt, hoffset])
    rw [parse_last_timestamp] at hepoch
    cases hepoch
  · intro hne i timestamp hentry
    rw [timestamps_getElem?] at hentry
    split_ifs at hentry with hlt
    cases hentry
    exact parse_timestampForDay (by omega) (by omega)

/-- **An accepted window is a clean grid of days exactly if its dates are plain and its end is not
the last date there is.** -/
theorem cleanGrid_iff {start stop : String} {window : SimulationWindow}
    (h : SimulationWindow.parse start stop = some window) :
    CleanGrid window ↔ Plain start.toList ∧ Plain stop.toList ∧ stop ≠ "9999-12-31" := by
  obtain ⟨startDay, endDay, hstart, hend, hlow, hhigh, rfl⟩ := parse_eq_some.mp h
  obtain ⟨first, a, b, c, hstartText, ha, hb, hc, hfirst⟩ :=
    SimulationDates.parseDate_eq_some.mp hstart
  obtain ⟨final, a', b', c', hendText, ha', hb', hc', hfinal⟩ :=
    SimulationDates.parseDate_eq_some.mp hend
  have hfirstDay := (days_mem_of_yearFits (yearFits_of_spells ha)).1
  have hfinalDay := (days_mem_of_yearFits (yearFits_of_spells ha')).2
  have hdays : startDay + (endDay - startDay + 1 - 1) = endDay := by omega
  have hbefore := @timestamps_before_last ⟨start, stop, startDay, endDay - startDay + 1⟩ hlow
  rw [hdays] at hbefore
  have hstarts := prefix_timestamp_iff ha hb hc
  rw [← hfirst, ← hstartText] at hstarts
  have hends := prefix_timestamp_iff ha' hb' hc'
  rw [← hfinal, ← hendText] at hends
  have hlast : startDay + (endDay - startDay + 1) = 2932897 ↔ stop = "9999-12-31" := by
    rw [← String.toList_inj, hendText, ← eq_last_date_iff ha' hb' hc', ← hfinal]
    omega
  have hepochs := @epochs_iff ⟨start, stop, startDay, endDay - startDay + 1⟩
    (hfirst ▸ hfirstDay) hlow (by simp only; omega)
  constructor
  · intro hgrid
    obtain ⟨timestamp, hentry, hprefix⟩ := hgrid.ends
    rw [hbefore] at hentry
    cases hentry
    exact ⟨hstarts.mp hgrid.starts, hends.mp hprefix,
      fun heq => hepochs.mp hgrid.epochs (hlast.mpr heq)⟩
  · rintro ⟨hplain, hplain', hne⟩
    refine ⟨⟨hlow, hhigh⟩, ?_, hepochs.mpr fun heq => hne (hlast.mp heq),
      timestamps_head? hlow, hstarts.mpr hplain, timestamps_getLast? hlow,
      ⟨_, hbefore, hends.mpr hplain'⟩⟩
    rw [timestamps_length, Int.toNat_of_nonneg (by simp only; omega)]

theorem cleanGrid_new_year :
    CleanGrid ⟨"2024-12-31", "2025-01-01", 20088, 2⟩ :=
  (@cleanGrid_iff "2024-12-31" "2025-01-01" _ (by decide +kernel)).mpr
    ⟨⟨by decide, by decide⟩, ⟨by decide, by decide⟩, by decide⟩

/-- The last day that a date can name ends with a timestamp that has five digits of a year, and a
sign of the year is not in the timestamps. -/
theorem not_cleanGrid_of_accepted :
    (∃ window, SimulationWindow.parse "9999-12-31" "9999-12-31" = some window ∧
      ¬CleanGrid window) ∧
    ∃ window, SimulationWindow.parse "+025-01-01" "0025-01-01" = some window ∧
      ¬CleanGrid window := by
  refine ⟨⟨⟨"9999-12-31", "9999-12-31", 2932896, 1⟩, by decide +kernel, ?_⟩,
    ⟨⟨"+025-01-01", "0025-01-01", -710396, 1⟩, by decide +kernel, ?_⟩⟩
  · intro hgrid
    have hepoch := hgrid.epochs 1 "10000-01-01T00:00:00Z" (by decide +kernel)
    revert hepoch
    decide +kernel
  · intro hgrid
    have hprefix := hgrid.starts
    revert hprefix
    decide +kernel

end MotherApi.SimulationWindows
