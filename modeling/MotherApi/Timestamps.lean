import MotherApi.CivilDays
import MotherApi.Decimal
import MotherApi.Rfc3339

/-!
The grammar of timestamps.

A timestamp is a date, a time of day, the digits of a fraction, and a zone; it cannot be built
from fields out of their ranges. It has one text and one instant. The texts that the service reads
as timestamps are exactly the texts of timestamps, and what it reads is the instant.
-/

namespace MotherApi.Timestamps

open MotherApi.Lib.Numerals MotherApi.Lib.Calendar MotherApi.Strings MotherApi.SimulationTime
open MotherApi.Rfc3339 MotherApi.CivilDays

/-! ### Timestamps -/

/-- The zone of a timestamp: universal time, or hours and minutes east or west of it. -/
inductive Zone
  | utc
  | offset (east : Bool) (hours minutes : ℕ) (hours_le : hours ≤ 23) (minutes_le : minutes ≤ 59)

/-- A time of day with the digits of its fraction. -/
structure TimeOfDay where
  hour : ℕ
  minute : ℕ
  second : ℕ
  fraction : List Char
  hour_le : hour ≤ 23
  minute_le : minute ≤ 59
  second_le : second ≤ 59
  fraction_digits : AllDigits fraction

/-- A date of a year with four digits, and a time of day in a zone. -/
structure Timestamp where
  date : Date
  year_pos : 0 ≤ date.year
  year_le : date.year ≤ 9999
  time : TimeOfDay
  zone : Zone

/-- The seconds that a zone is ahead of universal time. -/
def Zone.seconds : Zone → ℤ
  | .utc => 0
  | .offset true hours minutes _ _ => hours * 3600 + minutes * 60
  | .offset false hours minutes _ _ => -(hours * 3600 + minutes * 60)

/-- The mark of a zone east or west of universal time. -/
def signMark (east : Bool) : Char := if east then '+' else '-'

def Zone.text : Zone → List Char
  | .utc => ['Z']
  | .offset east hours minutes _ _ =>
    signMark east :: (numeral 2 hours ++ ':' :: numeral 2 minutes)

/-- The digits behind a point, if there are any. -/
def fractionText (fraction : List Char) : List Char :=
  if fraction = [] then [] else '.' :: fraction

def TimeOfDay.text (time : TimeOfDay) : List Char :=
  numeral 2 time.hour ++ ':' :: (numeral 2 time.minute ++ ':' :: (numeral 2 time.second ++
    fractionText time.fraction))

def dateText (year month day : ℕ) : List Char :=
  numeral 4 year ++ '-' :: (numeral 2 month ++ '-' :: numeral 2 day)

def Timestamp.text (timestamp : Timestamp) : List Char :=
  dateText timestamp.date.year.toNat timestamp.date.month timestamp.date.day ++
    'T' :: (timestamp.time.text ++ timestamp.zone.text)

/-- The seconds from the first of January 1970 in universal time to the second of the timestamp:
those of the days in between and of the time of day, less what the zone is ahead. -/
def Timestamp.IsSeconds (timestamp : Timestamp) (seconds : ℤ) : Prop :=
  ∃ days, Date.DaysFrom unixEpoch days timestamp.date ∧
    seconds = days * 86400 + timestamp.time.hour * 3600 + timestamp.time.minute * 60 +
      timestamp.time.second - timestamp.zone.seconds

/-! ### Fields -/

lemma parseDigits_eq_some {text : List Char} {n : ℕ} :
    parseDigits text = some n ↔ text ≠ [] ∧ AllDigits text ∧ number text = n := by
  unfold parseDigits
  have hfold : text.foldl (fun value c => value * 10 + digitValue c) 0 = number text := rfl
  rw [hfold]
  split
  · rename_i h
    have hdigits : AllDigits text := by simpa [AllDigits, isAsciiDigit] using h.2
    simp [h.1, hdigits]
  · rename_i h
    simp only [reduceCtorEq, false_iff]
    rintro ⟨hne, hdigits, -⟩
    exact h ⟨hne, by simpa [AllDigits, isAsciiDigit] using hdigits⟩

/-- A field is read as a number exactly if it is the numeral of that number in its width. -/
lemma parseDigits_field {text : List Char} {width n : ℕ} (hpos : 0 < width)
    (hlen : text.length = width) :
    parseDigits text = some n ↔ text = numeral width n ∧ n < 10 ^ width := by
  rw [parseDigits_eq_some]
  constructor
  · rintro ⟨-, hdigits, rfl⟩
    rw [← hlen]
    exact ⟨(numeral_number hdigits).symm, number_lt hdigits⟩
  · rintro ⟨rfl, hlt⟩
    refine ⟨?_, allDigits_numeral _ _, number_numeral hlt⟩
    rw [← List.length_pos_iff, numeral_length]
    exact hpos

lemma parseDigits_numeral {width n : ℕ} (hpos : 0 < width) (h : n < 10 ^ width) :
    parseDigits (numeral width n) = some n :=
  (parseDigits_field hpos (numeral_length _ _)).mpr ⟨rfl, h⟩

lemma eq_of_getElem? {text : List Char} {i : ℕ} {mark : Char} (h : text[i]? = some mark) :
    text = text.take i ++ mark :: text.drop (i + 1) := by
  obtain ⟨hlt, rfl⟩ := List.getElem?_eq_some_iff.mp h
  rw [← List.drop_eq_getElem_cons hlt, List.take_append_drop]

/-- A text with two marks at known places is three parts around them. -/
lemma exists_parts {text : List Char} {i j : ℕ} {mark mark' : Char} (hfirst : text[i]? = some mark)
    (hsecond : text[i + 1 + j]? = some mark') :
    ∃ a b c, a.length = i ∧ b.length = j ∧ text = a ++ mark :: (b ++ mark' :: c) := by
  have hi := (List.getElem?_eq_some_iff.mp hfirst).1
  have hj := (List.getElem?_eq_some_iff.mp hsecond).1
  have hsecond : (text.drop (i + 1))[j]? = some mark' := by rwa [List.getElem?_drop]
  refine ⟨text.take i, (text.drop (i + 1)).take j, (text.drop (i + 1)).drop (j + 1), ?_, ?_, ?_⟩
  · rw [List.length_take]
    omega
  · rw [List.length_take, List.length_drop]
    omega
  · rw [← eq_of_getElem? hsecond]
    exact eq_of_getElem? hfirst

lemma marks_eq (a b c : List Char) (mark mark' : Char) {i j : ℕ} (ha : a.length = i)
    (hb : b.length = j) :
    (a ++ mark :: (b ++ mark' :: c))[i]? = some mark ∧
      (a ++ mark :: (b ++ mark' :: c))[i + 1 + j]? = some mark' := by
  subst ha hb
  refine ⟨by simp, ?_⟩
  rw [List.getElem?_append_right (by omega), Nat.add_assoc, Nat.add_sub_cancel_left, Nat.add_comm 1,
    List.getElem?_cons_succ, List.getElem?_append_right le_rfl]
  simp

lemma parts_eq (a b c : List Char) (mark mark' : Char) {i j : ℕ} (ha : a.length = i)
    (hb : b.length = j) :
    (a ++ mark :: (b ++ mark' :: c)).take i = a ∧
      ((a ++ mark :: (b ++ mark' :: c)).drop (i + 1)).take j = b ∧
      (a ++ mark :: (b ++ mark' :: c)).drop (i + 1 + j + 1) = c := by
  subst ha hb
  have hdrop : (a ++ mark :: (b ++ mark' :: c)).drop (a.length + 1) = b ++ mark' :: c := by
    rw [← List.drop_drop, List.drop_left]
    rfl
  refine ⟨List.take_left, ?_, ?_⟩
  · rw [hdrop, List.take_left]
  · rw [Nat.add_assoc _ b.length, ← List.drop_drop, hdrop, ← List.drop_drop, List.drop_left]
    rfl

/-! ### The parts of a timestamp -/

lemma parseDate_fields {a b c : List Char} (ha : a.length = 4) (hb : b.length = 2)
    (hc : c.length = 2) {y : ℤ} {month day : ℕ} :
    Rfc3339.parseDate (a ++ '-' :: (b ++ '-' :: c)) = some (y, month, day) ↔
      ∃ year : ℕ, y = year ∧ parseDigits a = some year ∧ parseDigits b = some month ∧
        parseDigits c = some day ∧ IsDate year month day := by
  obtain ⟨hyear, hmonth, hday⟩ := parts_eq a b c '-' '-' ha hb
  simp only [Nat.reduceAdd] at hday hmonth
  unfold Rfc3339.parseDate
  rw [if_neg (by simp [ha, hb, hc]), hyear, hmonth, hday,
    List.take_of_length_le hc.le]
  simp only [Option.bind_eq_bind, Option.bind_eq_some_iff]
  constructor
  · rintro ⟨year, hyear, month', hmonth, day', hday, hchecks⟩
    split_ifs at hchecks with hrange hexists
    simp only [Option.pure_def, Option.some.injEq, Prod.mk.injEq] at hchecks
    obtain ⟨rfl, rfl, rfl⟩ := hchecks
    refine ⟨year, rfl, hyear, hmonth, hday, ?_⟩
    rw [(daysInMonth_eq _ (by omega) (by omega)).1] at hexists
    unfold IsDate
    omega
  · rintro ⟨year, rfl, hyear, hmonth, hday, hm, hm', hd, hd'⟩
    refine ⟨year, hyear, month, hmonth, day, hday, ?_⟩
    rw [if_neg (by omega), if_neg (by rw [(daysInMonth_eq _ hm hm').1]; omega)]
    rfl

lemma parseDate_eq_some {value : List Char} {y : ℤ} {month day : ℕ} :
    Rfc3339.parseDate value = some (y, month, day) ↔
      ∃ year : ℕ, y = year ∧ year ≤ 9999 ∧ IsDate year month day ∧
        value = dateText year month day := by
  constructor
  · intro h
    obtain ⟨a, b, c, ha, hb, hc, rfl⟩ : ∃ a b c : List Char, a.length = 4 ∧ b.length = 2 ∧
        c.length = 2 ∧ value = a ++ '-' :: (b ++ '-' :: c) := by
      unfold Rfc3339.parseDate at h
      split at h
      · cases h
      · rename_i hlayout
        simp only [ne_eq, not_or, not_not] at hlayout
        obtain ⟨hlen, hmarks⟩ := hlayout
        obtain ⟨a, b, c, ha, hb, rfl⟩ := @exists_parts _ 4 2 _ _ hmarks.1 hmarks.2
        refine ⟨a, b, c, ha, hb, ?_, rfl⟩
        simp only [List.length_append, List.length_cons] at hlen
        omega
    obtain ⟨year, rfl, hyear, hmonth, hday, hdate⟩ := (parseDate_fields ha hb hc).mp h
    obtain ⟨rfl, hlt⟩ := (parseDigits_field (by omega) ha).mp hyear
    obtain ⟨rfl, -⟩ := (parseDigits_field (by omega) hb).mp hmonth
    obtain ⟨rfl, -⟩ := (parseDigits_field (by omega) hc).mp hday
    exact ⟨year, rfl, by omega, hdate, rfl⟩
  · rintro ⟨year, rfl, hyear, hdate, rfl⟩
    obtain ⟨-, hmonth, -, hday⟩ := id hdate
    have hday := hday.trans (monthLength_mem _ _).2
    refine (parseDate_fields (numeral_length _ _) (numeral_length _ _) (numeral_length _ _)).mpr
      ⟨year, rfl, ?_, ?_, ?_, hdate⟩
    · exact parseDigits_numeral (by omega) (by omega)
    · exact parseDigits_numeral (by omega) (by omega)
    · exact parseDigits_numeral (by omega) (by omega)

lemma parseSecond_eq_some {value : List Char} {second : ℕ} {fraction : List Char} :
    parseSecond value = some (second, fraction) ↔
      value = numeral 2 second ++ fractionText fraction ∧ second < 100 ∧ AllDigits fraction := by
  unfold parseSecond fractionText
  constructor
  · intro h
    split at h
    · rename_i before hspan
      obtain ⟨rfl, -⟩ := Lib.Splits.of_span_eq hspan
      split at h
      · cases h
      rename_i hlen
      obtain ⟨n, hn, hpair⟩ := Option.map_eq_some_iff.mp h
      cases hpair
      obtain ⟨rfl, hlt⟩ := (parseDigits_field (by omega) (not_not.mp hlen)).mp hn
      exact ⟨by simp, hlt, by simp [AllDigits]⟩
    · rename_i before point after hspan
      obtain ⟨rfl, -, hpoint⟩ := Lib.Splits.of_span_eq hspan
      have hpoint : point = '.' := by simpa using hpoint point rfl
      subst hpoint
      split at h
      · cases h
      rename_i hchecks
      simp only [ne_eq, List.isEmpty_iff, not_or, not_not] at hchecks
      obtain ⟨hlen, hne, hdigits⟩ := hchecks
      obtain ⟨n, hn, hpair⟩ := Option.map_eq_some_iff.mp h
      cases hpair
      obtain ⟨rfl, hlt⟩ := (parseDigits_field (by omega) hlen).mp hn
      refine ⟨by rw [if_neg hne], hlt, ?_⟩
      simpa [AllDigits, isAsciiDigit] using hdigits
  · rintro ⟨rfl, hlt, hdigits⟩
    have hsecond : parseDigits (numeral 2 second) = some second :=
      parseDigits_numeral (by omega) hlt
    obtain ⟨hpoint, hnone⟩ := Decimal.span_digits (allDigits_numeral 2 second) fraction
    by_cases hempty : fraction = []
    · rw [if_pos hempty, List.append_nil, hnone]
      simp [hsecond, hempty]
    · have hall : fraction.all isAsciiDigit = true := by
        simpa [AllDigits, isAsciiDigit] using hdigits
      rw [if_neg hempty, hpoint]
      simp [hsecond, hempty, hall]

/-- What is kept of a time of day. -/
def TimeOfDay.parsed (time : TimeOfDay) : ParsedTime :=
  ⟨time.hour, time.minute, time.second, time.fraction⟩

lemma parseTime_fields {a b c : List Char} (ha : a.length = 2) (hb : b.length = 2)
    (hc : 2 ≤ c.length) {hour minute second : ℕ} {fraction : List Char} :
    parseTime (a ++ ':' :: (b ++ ':' :: c)) = some ⟨hour, minute, second, fraction⟩ ↔
      parseDigits a = some hour ∧ parseDigits b = some minute ∧
        parseSecond c = some (second, fraction) ∧ hour ≤ 23 ∧ minute ≤ 59 ∧ second ≤ 59 := by
  obtain ⟨hhour, hminute, hsecond⟩ := parts_eq a b c ':' ':' ha hb
  simp only [Nat.reduceAdd] at hminute hsecond
  obtain ⟨hfirst, hlast⟩ := marks_eq a b c ':' ':' ha hb
  simp only [Nat.reduceAdd] at hlast
  have hlen : ¬(a ++ ':' :: (b ++ ':' :: c)).length < 8 := by
    simp only [List.length_append, List.length_cons]
    omega
  unfold parseTime
  rw [if_neg (by simp only [hlen, hfirst, hlast]; simp), hhour, hminute, hsecond]
  simp only [Option.bind_eq_bind, Option.bind_eq_some_iff]
  constructor
  · rintro ⟨hour, hhour, minute, hminute, ⟨second, fraction⟩, hsecond, hchecks⟩
    split_ifs at hchecks with hrange
    cases hchecks
    exact ⟨hhour, hminute, hsecond, by omega, by omega, by omega⟩
  · rintro ⟨hhour, hminute, hsecond, hh, hm, hs⟩
    refine ⟨_, hhour, _, hminute, _, hsecond, ?_⟩
    rw [if_neg (by omega)]
    rfl

lemma parseTime_eq_some {value : List Char} {parsed : ParsedTime} :
    parseTime value = some parsed ↔
      ∃ time : TimeOfDay, parsed = time.parsed ∧ value = time.text := by
  constructor
  · intro h
    obtain ⟨a, b, c, ha, hb, hc, rfl⟩ : ∃ a b c : List Char, a.length = 2 ∧ b.length = 2 ∧
        2 ≤ c.length ∧ value = a ++ ':' :: (b ++ ':' :: c) := by
      unfold parseTime at h
      split at h
      · cases h
      · rename_i hlayout
        simp only [ne_eq, not_or, not_not] at hlayout
        obtain ⟨hlen, hmarks⟩ := hlayout
        obtain ⟨a, b, c, ha, hb, rfl⟩ := @exists_parts _ 2 2 _ _ hmarks.1 hmarks.2
        refine ⟨a, b, c, ha, hb, ?_, rfl⟩
        simp only [List.length_append, List.length_cons] at hlen
        omega
    obtain ⟨hour, minute, second, fraction⟩ := parsed
    obtain ⟨hhour, hminute, hsecond, hh, hm, hs⟩ := (parseTime_fields ha hb hc).mp h
    obtain ⟨rfl, -⟩ := (parseDigits_field (by omega) ha).mp hhour
    obtain ⟨rfl, -⟩ := (parseDigits_field (by omega) hb).mp hminute
    obtain ⟨rfl, -, hdigits⟩ := parseSecond_eq_some.mp hsecond
    exact ⟨⟨_, _, _, _, hh, hm, hs, hdigits⟩, rfl, rfl⟩
  · rintro ⟨⟨hour, minute, second, fraction, hh, hm, hs, hdigits⟩, rfl, rfl⟩
    refine (parseTime_fields (numeral_length _ _) (numeral_length _ _) (by simp)).mpr
      ⟨?_, ?_, ?_, hh, hm, hs⟩
    · exact parseDigits_numeral (by omega) (hh.trans_lt (by omega))
    · exact parseDigits_numeral (by omega) (hm.trans_lt (by omega))
    · exact parseSecond_eq_some.mpr ⟨rfl, hs.trans_lt (by omega), hdigits⟩

/-! ### Zones -/

lemma parseSign_eq_some {mark : Option Char} {sign : ℤ} :
    parseSign mark = some sign ↔
      ∃ east, mark = some (signMark east) ∧ sign = if east then 1 else -1 := by
  constructor
  · intro h
    unfold parseSign at h
    split at h
    · exact ⟨true, rfl, by simpa using h.symm⟩
    · exact ⟨false, rfl, by simpa using h.symm⟩
    · cases h
  · rintro ⟨_ | _, rfl, rfl⟩ <;> rfl

lemma parseOffset_fields {east : Bool} {b c : List Char} (hb : b.length = 2) (hc : c.length = 2)
    {seconds : ℤ} :
    parseOffset (signMark east :: (b ++ ':' :: c)) = some seconds ↔
      ∃ hours minutes : ℕ, parseDigits b = some hours ∧ parseDigits c = some minutes ∧
        hours ≤ 23 ∧ minutes ≤ 59 ∧
        seconds = (if east then 1 else -1) * (hours * 3600 + minutes * 60) := by
  obtain ⟨-, hhours, hminutes⟩ := parts_eq [] b c (signMark east) ':' rfl hb
  have hsign : parseSign (some (signMark east)) = some (if east then 1 else -1) :=
    parseSign_eq_some.mpr ⟨east, rfl, rfl⟩
  simp only [List.nil_append, List.length_nil, Nat.reduceAdd] at hhours hminutes
  unfold parseOffset
  rw [if_neg (by simp [hb, hc]), hhours, hminutes, List.take_of_length_le hc.le]
  simp only [List.getElem?_cons_zero, hsign, Option.bind_eq_bind, Option.bind_some,
    Option.bind_eq_some_iff]
  constructor
  · rintro ⟨hours, hh, minutes, hm, hchecks⟩
    by_cases hrange : 23 < hours ∨ 59 < minutes
    · rw [if_pos hrange] at hchecks
      cases hchecks
    · rw [if_neg hrange] at hchecks
      cases hchecks
      exact ⟨hours, minutes, hh, hm, by omega, by omega, rfl⟩
  · rintro ⟨hours, minutes, hh, hm, hh', hm', rfl⟩
    refine ⟨hours, hh, minutes, hm, ?_⟩
    rw [if_neg (by omega)]
    rfl

lemma parseOffset_eq_some {value : List Char} {seconds : ℤ} :
    parseOffset value = some seconds ↔
      ∃ (east : Bool) (hours minutes : ℕ) (hh : hours ≤ 23) (hm : minutes ≤ 59),
        seconds = (Zone.offset east hours minutes hh hm).seconds ∧
        value = (Zone.offset east hours minutes hh hm).text := by
  have hseconds : ∀ (east : Bool) (n : ℤ), (if east then 1 else -1) * n =
      if east then n else -n := by
    rintro (_ | _) n <;> simp
  constructor
  · intro h
    obtain ⟨east, b, c, hb, hc, rfl⟩ : ∃ (east : Bool) (b c : List Char), b.length = 2 ∧
        c.length = 2 ∧ value = signMark east :: (b ++ ':' :: c) := by
      unfold parseOffset at h
      split at h
      · cases h
      · rename_i hlayout
        simp only [ne_eq, not_or, not_not] at hlayout
        simp only [Option.bind_eq_bind, Option.bind_eq_some_iff] at h
        obtain ⟨sign, hsign, -⟩ := h
        obtain ⟨east, hfirst, -⟩ := parseSign_eq_some.mp hsign
        obtain ⟨a, b, c, ha, hb, rfl⟩ := @exists_parts _ 0 2 _ _ hfirst hlayout.2
        obtain rfl := List.length_eq_zero_iff.mp ha
        refine ⟨east, b, c, hb, ?_, rfl⟩
        have hlen := hlayout.1
        simp only [List.length_append, List.length_cons, List.length_nil] at hlen
        omega
    obtain ⟨hours, minutes, hh, hm, hh', hm', rfl⟩ := (parseOffset_fields hb hc).mp h
    obtain ⟨rfl, -⟩ := (parseDigits_field (by omega) hb).mp hh
    obtain ⟨rfl, -⟩ := (parseDigits_field (by omega) hc).mp hm
    refine ⟨east, hours, minutes, hh', hm', ?_, rfl⟩
    rw [hseconds]
    cases east <;> rfl
  · rintro ⟨east, hours, minutes, hh, hm, rfl, rfl⟩
    refine (parseOffset_fields (numeral_length _ _) (numeral_length _ _)).mpr ⟨hours, minutes,
      parseDigits_numeral (by omega) (by omega), parseDigits_numeral (by omega) (by omega), hh, hm,
      ?_⟩
    rw [hseconds]
    cases east <;> rfl

lemma splitAtSign_eq_some {value before after : List Char} :
    splitAtSign value = some (before, after) ↔
      ∃ east rest, after = signMark east :: rest ∧ '+' ∉ rest ∧ '-' ∉ rest ∧
        value = before ++ after := by
  unfold splitAtSign
  constructor
  · intro h
    split at h
    · cases h
    · rename_i rest mark front hspan
      obtain ⟨hvalue, hrest, hmark⟩ := Lib.Splits.of_span_eq hspan
      cases h
      have hmark := hmark mark rfl
      obtain ⟨east, rfl⟩ : ∃ east, mark = signMark east := by
        simp only [Bool.and_eq_false_iff, bne_eq_false_iff_eq] at hmark
        rcases hmark with rfl | rfl
        · exact ⟨true, rfl⟩
        · exact ⟨false, rfl⟩
      refine ⟨east, rest.reverse, rfl, ?_, ?_, ?_⟩
      · intro hmem
        simpa using hrest '+' (List.mem_reverse.mp hmem)
      · intro hmem
        simpa using hrest '-' (List.mem_reverse.mp hmem)
      · have hreverse := congrArg List.reverse hvalue
        simpa using hreverse
  · rintro ⟨east, rest, rfl, hplus, hminus, rfl⟩
    have hrest : ∀ c ∈ rest.reverse, (c != '+' && c != '-') = true := by
      intro c hc
      rw [Bool.and_eq_true, bne_iff_ne, bne_iff_ne]
      refine ⟨?_, ?_⟩
      · rintro rfl
        exact hplus (List.mem_reverse.mp hc)
      · rintro rfl
        exact hminus (List.mem_reverse.mp hc)
    have hmark : (signMark east != '+' && signMark east != '-') = false := by
      cases east <;> rfl
    have hspan := @Lib.Splits.span_append _ _ _ _ before.reverse hrest hmark
    rw [List.reverse_append, List.reverse_cons, List.append_assoc, List.singleton_append, hspan]
    simp

/-! ### Whole timestamps -/

lemma not_mem_numeral {mark : Char} (h : mark.isDigit = false) (width n : ℕ) :
    mark ∉ numeral width n := by
  intro hmem
  rw [allDigits_numeral width n mark hmem] at h
  cases h

lemma not_mem_timeText {mark : Char} (h : mark.isDigit = false) (hcolon : mark ≠ ':')
    (hpoint : mark ≠ '.') (time : TimeOfDay) : mark ∉ time.text := by
  have hfraction : mark ∉ fractionText time.fraction := by
    unfold fractionText
    split
    · simp
    · intro hmem
      rcases List.mem_cons.mp hmem with hmem | hmem
      · exact hpoint hmem
      · rw [time.fraction_digits mark hmem] at h
        cases h
  simp [TimeOfDay.text, not_mem_numeral h, hcolon, hfraction]

lemma not_mem_zoneText {mark : Char} (h : mark.isDigit = false) (hcolon : mark ≠ ':')
    (hz : mark ≠ 'Z') (hsign : ∀ east, mark ≠ signMark east) (zone : Zone) :
    mark ∉ zone.text := by
  cases zone with
  | utc => simpa [Zone.text] using hz
  | offset east => simp [Zone.text, not_mem_numeral h, hcolon, hsign]

lemma getLast?_offset {east : Bool} {hours minutes : ℕ} {hh : hours ≤ 23} {hm : minutes ≤ 59}
    (front : List Char) :
    (front ++ (Zone.offset east hours minutes hh hm).text).getLast? ≠ some 'Z' := by
  intro hlast
  have hmem : 'Z' ∈ (numeral 2 minutes).getLast? := by
    simpa [Zone.text, numeral] using hlast
  exact not_mem_numeral rfl 2 minutes (List.mem_of_getLast? hmem)

lemma parseTimeAndOffset_eq_some {value : List Char} {parsed : ParsedTime} {seconds : ℤ} :
    parseTimeAndOffset value = some (parsed, seconds) ↔
      ∃ (time : TimeOfDay) (zone : Zone), parsed = time.parsed ∧ seconds = zone.seconds ∧
        value = time.text ++ zone.text := by
  unfold parseTimeAndOffset
  constructor
  · intro h
    split at h
    · rename_i hlast
      obtain ⟨parsed', htime, hpair⟩ := Option.map_eq_some_iff.mp h
      cases hpair
      obtain ⟨time, rfl, htext⟩ := parseTime_eq_some.mp htime
      refine ⟨time, .utc, rfl, rfl, ?_⟩
      rw [← htext]
      exact (List.dropLast_append_getLast? 'Z' hlast).symm
    · simp only [Option.bind_eq_bind, Option.bind_eq_some_iff] at h
      obtain ⟨⟨front, offset⟩, hsplit, seconds', hoffset, parsed', htime, hpair⟩ := h
      cases hpair
      obtain ⟨-, -, -, -, -, rfl⟩ := splitAtSign_eq_some.mp hsplit
      obtain ⟨east, hours, minutes, hh, hm, rfl, rfl⟩ := parseOffset_eq_some.mp hoffset
      obtain ⟨time, rfl, rfl⟩ := parseTime_eq_some.mp htime
      exact ⟨time, .offset east hours minutes hh hm, rfl, rfl, rfl⟩
  · rintro ⟨time, zone, rfl, rfl, rfl⟩
    have htime : parseTime time.text = some time.parsed := parseTime_eq_some.mpr ⟨time, rfl, rfl⟩
    cases zone with
    | utc =>
      rw [if_pos (by simp [Zone.text])]
      simp [Zone.text, htime, Zone.seconds]
    | offset east hours minutes hh hm =>
      have hsplit : splitAtSign (time.text ++ (Zone.offset east hours minutes hh hm).text) =
          some (time.text, (Zone.offset east hours minutes hh hm).text) :=
        splitAtSign_eq_some.mpr ⟨east, _, rfl, by simp [not_mem_numeral],
          by simp [not_mem_numeral], rfl⟩
      have hoffset := parseOffset_eq_some.mpr ⟨east, hours, minutes, hh, hm, rfl, rfl⟩
      rw [if_neg (getLast?_offset _), hsplit]
      simp only [Option.bind_eq_bind, Option.bind_some, hoffset, htime]
      rfl

lemma not_mem_dateText {mark : Char} (h : mark.isDigit = false) (hdash : mark ≠ '-')
    (year month day : ℕ) : mark ∉ dateText year month day := by
  simp [dateText, not_mem_numeral h, hdash]

/-- The number of seconds of a timestamp, from the day of its date. -/
lemma isSeconds_iff {timestamp : Timestamp} {seconds : ℤ} :
    timestamp.IsSeconds seconds ↔ seconds =
      daysFromCivil timestamp.date.year timestamp.date.month timestamp.date.day * 86400 +
        timestamp.time.hour * 3600 + timestamp.time.minute * 60 + timestamp.time.second -
        timestamp.zone.seconds := by
  unfold Timestamp.IsSeconds
  simp only [daysFrom_unixEpoch_iff]
  constructor
  · rintro ⟨days, rfl, rfl⟩
    rfl
  · rintro rfl
    exact ⟨_, rfl, rfl⟩

/-- **What is read as a timestamp is the text of one**, and it is read as its instant. -/
lemma parseRfc3339_eq_some {value : String} {parsed : ParsedRfc3339} :
    parseRfc3339 value = some parsed ↔
      ∃ timestamp : Timestamp, value.toList = timestamp.text ∧
        timestamp.IsSeconds parsed.epochSeconds ∧ parsed.fraction = timestamp.time.fraction := by
  unfold parseRfc3339
  constructor
  · intro h
    split at h
    · cases h
    rename_i front mark rest hspan
    obtain ⟨hvalue, -, hmark⟩ := Lib.Splits.of_span_eq hspan
    have hmark : mark = 'T' := by simpa using hmark mark rfl
    subst hmark
    split at h
    · cases h
    simp only [Option.bind_eq_bind, Option.bind_eq_some_iff] at h
    obtain ⟨⟨y, month, day⟩, hdate, ⟨time, seconds⟩, htime, hparsed⟩ := h
    cases hparsed
    obtain ⟨year, rfl, hyear, hreal, rfl⟩ := parseDate_eq_some.mp hdate
    obtain ⟨time, zone, rfl, rfl, rfl⟩ := parseTimeAndOffset_eq_some.mp htime
    exact ⟨⟨⟨year, month, day, hreal⟩, Int.natCast_nonneg _, by simpa using hyear, time, zone⟩,
      hvalue, isSeconds_iff.mpr rfl, rfl⟩
  · rintro ⟨⟨date, hpos, hle, time, zone⟩, htext, hseconds, hfraction⟩
    rw [isSeconds_iff] at hseconds
    have hdate : Rfc3339.parseDate (dateText date.year.toNat date.month date.day) =
        some (date.year, date.month, date.day) := by
      refine parseDate_eq_some.mpr ⟨date.year.toNat, by omega, by omega, ?_, rfl⟩
      rw [Int.toNat_of_nonneg hpos]
      exact date.real
    have htime := parseTimeAndOffset_eq_some.mpr ⟨time, zone, rfl, rfl, rfl⟩
    have hfront : ∀ c ∈ dateText date.year.toNat date.month date.day, (c != 'T') = true := by
      intro c hc
      rw [bne_iff_ne]
      rintro rfl
      exact not_mem_dateText rfl (by decide) _ _ _ hc
    have hrest : 'T' ∉ time.text ++ zone.text := by
      rw [List.mem_append, not_or]
      exact ⟨not_mem_timeText rfl (by decide) (by decide) time,
        not_mem_zoneText rfl (by decide) (by decide) (by decide) zone⟩
    rw [htext, Timestamp.text, Lib.Splits.span_append hfront rfl]
    simp only [hrest, if_false, hdate, htime, Option.bind_eq_bind, Option.bind_some]
    obtain ⟨epochSeconds, fraction⟩ := parsed
    simp only at hseconds hfraction
    rw [hseconds, hfraction]
    rfl

end MotherApi.Timestamps
