import MotherApi.Rfc3339Bytes

/-!
The dates and timestamps that simulations write.

A year is written with four characters, of which a sign is one. So the years from -999 to 9999
have texts of one layout, and what is written in them is read back. The timestamps of the years
from 0 on are also timestamps of requests.
-/

namespace MotherApi.SimulationTexts

open MotherApi.Lib.Numerals MotherApi.Lib.Calendar MotherApi.Lib.Utf8 MotherApi.SimulationTime
open MotherApi.CivilDays MotherApi.Timestamps MotherApi.Rfc3339Bytes

/-! ### Numbers -/

lemma number_repr (n : ℕ) : number (Nat.repr n).toList = n := by
  rw [Nat.toList_repr]
  have hfold : ∀ digits : List Char, Nat.ofDigitChars 10 digits 0 = number digits := by
    intro digits
    unfold Nat.ofDigitChars number digit
    congr 1
    ext value c
    rw [Nat.mul_comm]
    rfl
  rw [← hfold, Nat.ofDigitChars_ten_toDigits]

lemma allDigits_repr (n : ℕ) : AllDigits (Nat.repr n).toList := by
  rw [Nat.toList_repr]
  exact fun c hc => Nat.isDigit_of_mem_toDigits (by omega) (by omega) hc

lemma padded_eq {width n : ℕ} (hpos : 0 < width) (h : n < 10 ^ width) :
    padded width n = numeral width n := by
  have hlen : (Nat.repr n).toList.length ≤ width := by
    rw [Nat.toList_repr]
    exact (Nat.length_toDigits_le_iff (by omega) hpos).mpr h
  have hdigits : AllDigits (List.replicate (width - (Nat.repr n).toList.length) '0' ++
      (Nat.repr n).toList) :=
    Decimal.allDigits_append.mpr ⟨Decimal.allDigits_zeros _, allDigits_repr n⟩
  unfold padded
  rw [if_neg (by omega), Int.natAbs_natCast, ← numeral_number hdigits, number_zeros_append,
    number_repr, List.length_append, List.length_replicate, Nat.sub_add_cancel hlen]

lemma padded_neg {width n : ℕ} (hpos : 0 < width) (hn : 0 < n) (h : n < 10 ^ width) :
    padded (width + 1) (-(n : ℤ)) = '-' :: numeral width n := by
  have hpadded := padded_eq hpos h
  unfold padded at hpadded ⊢
  rw [if_neg (by omega), Int.natAbs_natCast] at hpadded
  rw [if_pos (by omega), Int.natAbs_neg, Int.natAbs_natCast, Nat.add_sub_cancel, hpadded]

/-- The four characters of a year. -/
def yearText (year : ℤ) : List Char :=
  if 0 ≤ year then numeral 4 year.toNat else '-' :: numeral 3 (-year).toNat

/-- The years that have four characters. -/
def YearFits (year : ℤ) : Prop := -999 ≤ year ∧ year ≤ 9999

@[simp] lemma yearText_length (year : ℤ) : (yearText year).length = 4 := by
  unfold yearText
  split <;> simp

lemma padded_year {year : ℤ} (h : YearFits year) : padded 4 year = yearText year := by
  obtain ⟨hlow, hhigh⟩ := h
  unfold yearText
  split
  · have hcast : ((year.toNat : ℕ) : ℤ) = year := by omega
    have hpadded := @padded_eq 4 year.toNat (by omega) (by omega)
    rwa [hcast] at hpadded
  · have hcast : -(((-year).toNat : ℕ) : ℤ) = year := by omega
    have hpadded := @padded_neg 3 (-year).toNat (by omega) (by omega) (by omega)
    rwa [hcast] at hpadded

lemma ascii_yearText (year : ℤ) : Ascii (yearText year) := by
  unfold yearText
  split
  · exact ascii_numeral _ _
  · exact ascii_cons (by decide) (ascii_numeral _ _)

/-! ### Reading numbers -/

/-- Digits are read as their number, by the types with a sign and by those without. -/
lemma parse_of_digits {text : List Char} (hne : text ≠ []) (h : AllDigits text) :
    parseUnsigned text = some (number text) ∧ parseSigned text = some (number text : ℤ) := by
  obtain ⟨c, rest, rfl⟩ := List.exists_cons_of_ne_nil hne
  have hdigit := h c List.mem_cons_self
  have hplus : c ≠ '+' := by
    rintro rfl
    simp at hdigit
  have hminus : c ≠ '-' := by
    rintro rfl
    simp at hdigit
  have hnumber : parseDigits (c :: rest) = some (number (c :: rest)) :=
    parseDigits_eq_some.mpr ⟨hne, h, rfl⟩
  have hunsigned : parseUnsigned (c :: rest) = some (number (c :: rest)) := by
    unfold parseUnsigned
    split
    · rename_i heq
      simp only [List.cons.injEq] at heq
      exact absurd heq.1 hplus
    · exact hnumber
  refine ⟨hunsigned, ?_⟩
  unfold parseSigned
  split
  · rename_i heq
    simp only [List.cons.injEq] at heq
    exact absurd heq.1 hminus
  · rw [hunsigned]
    rfl

lemma parse_numeral {width n : ℕ} (hpos : 0 < width) (h : n < 10 ^ width) :
    parseUnsigned (numeral width n) = some n ∧ parseSigned (numeral width n) = some (n : ℤ) := by
  have hne : numeral width n ≠ [] := by
    rw [← List.length_pos_iff, numeral_length]
    exact hpos
  have hparse := parse_of_digits hne (allDigits_numeral width n)
  rwa [number_numeral h] at hparse

lemma parseSigned_yearText {year : ℤ} (h : YearFits year) :
    parseSigned (yearText year) = some year := by
  obtain ⟨hlow, hhigh⟩ := h
  unfold yearText
  split
  · rw [(parse_numeral (by omega) (by omega)).2, Int.toNat_of_nonneg (by omega)]
  · have hdigits := @parseDigits_numeral 3 (-year).toNat (by omega) (by omega)
    have hyear : -((-year).toNat : ℤ) = year := by omega
    rw [parseSigned, hdigits]
    exact congrArg some hyear

/-! ### Dates -/

/-- The text of a date whose year has four characters. -/
def civilText (date : Date) : List Char :=
  yearText date.year ++ '-' :: (numeral 2 date.month ++ '-' :: numeral 2 date.day)

@[simp] lemma civilText_length (date : Date) : (civilText date).length = 10 := by
  simp [civilText]

lemma ascii_civilText (date : Date) : Ascii (civilText date) :=
  ascii_append (ascii_yearText _) (ascii_cons (by decide)
    (ascii_append (ascii_numeral _ _) (ascii_cons (by decide) (ascii_numeral _ _))))

lemma splitAtByte_ascii {front : List Char} {offset : ℕ} (h : Ascii front)
    (hlen : front.length = offset) (rest : List Char) :
    splitAtByte offset (front ++ rest) = some (front, rest) := by
  have hsplit := splitAtByte_append front rest
  rwa [bytes_of_ascii h, hlen] at hsplit

lemma parseDate_eq_fields {a b c : List Char} (ha : (bytes a).length = 4)
    (hb : (bytes b).length = 2) (hc : (bytes c).length = 2) :
    SimulationTime.parseDate (a ++ '-' :: (b ++ '-' :: c)) = (do
      let year ← parseSigned a
      let month ← parseUnsigned b
      let day ← parseUnsigned c
      if ¬(1 ≤ month ∧ month ≤ 12) ∨ day = 0 ∨ daysInMonth year month < day then none
      else some (daysFromCivil year month day)) := by
  have hyear := splitAtByte_append a ('-' :: (b ++ '-' :: c))
  have hmonth := splitAtByte_append b ('-' :: c)
  have hday := splitAtByte_append c []
  rw [ha] at hyear
  rw [hb] at hmonth
  rw [hc, List.append_nil] at hday
  unfold SimulationTime.parseDate
  simp only [hyear, hmonth, hday, List.head?_cons, List.tail_cons, if_true, Option.bind_eq_bind,
    Option.bind_some, ne_eq, not_true_eq_false, if_false]

lemma parseDate_fields {a b c : List Char} (ha : (bytes a).length = 4) (hb : (bytes b).length = 2)
    (hc : (bytes c).length = 2) {n : ℤ} :
    SimulationTime.parseDate (a ++ '-' :: (b ++ '-' :: c)) = some n ↔
      ∃ date : Date, parseSigned a = some date.year ∧ parseUnsigned b = some date.month ∧
        parseUnsigned c = some date.day ∧ n = daysFromCivil date.year date.month date.day := by
  rw [parseDate_eq_fields ha hb hc]
  simp only [Option.bind_eq_bind, Option.bind_eq_some_iff]
  constructor
  · rintro ⟨year, hyear, month, hmonth, day, hday, hchecks⟩
    split_ifs at hchecks with hrange
    cases hchecks
    have hm : 1 ≤ month ∧ month ≤ 12 := by
      by_contra hnot
      exact hrange (Or.inl hnot)
    rw [(daysInMonth_eq _ hm.1 hm.2).1] at hrange
    exact ⟨⟨year, month, day, hm.1, hm.2, by omega, by omega⟩, hyear, hmonth, hday, rfl⟩
  · rintro ⟨⟨year, month, day, hm, hm', hd, hd'⟩, hyear, hmonth, hday, rfl⟩
    refine ⟨year, hyear, month, hmonth, day, hday, if_neg ?_⟩
    rw [(daysInMonth_eq _ hm hm').1]
    omega

lemma bytes_numeral_length (width n : ℕ) : (bytes (numeral width n)).length = width := by
  rw [bytes_of_ascii (ascii_numeral width n), numeral_length]

lemma parseDate_civilText {date : Date} (h : YearFits date.year) :
    SimulationTime.parseDate (civilText date) =
      some (daysFromCivil date.year date.month date.day) := by
  obtain ⟨-, hmonth, -, hday⟩ := date.real
  have hday := hday.trans (monthLength_mem _ _).2
  have hyear : (bytes (yearText date.year)).length = 4 := by
    rw [bytes_of_ascii (ascii_yearText _), yearText_length]
  exact (parseDate_fields hyear (bytes_numeral_length _ _) (bytes_numeral_length _ _)).mpr
    ⟨date, parseSigned_yearText h, (parse_numeral (by omega) (by omega)).1,
      (parse_numeral (by omega) (by omega)).1, rfl⟩

/-! ### Timestamps -/

/-- The eight characters of a time of day. -/
def clockText (hours minutes seconds : ℕ) : List Char :=
  numeral 2 hours ++ ':' :: (numeral 2 minutes ++ ':' :: numeral 2 seconds)

@[simp] lemma clockText_length (hours minutes seconds : ℕ) :
    (clockText hours minutes seconds).length = 8 := by
  simp [clockText]

lemma ascii_clockText (hours minutes seconds : ℕ) : Ascii (clockText hours minutes seconds) :=
  ascii_append (ascii_numeral _ _) (ascii_cons (by decide)
    (ascii_append (ascii_numeral _ _) (ascii_cons (by decide) (ascii_numeral _ _))))

/-- In an ASCII text, parts are cut out by their places. -/
lemma splitAtByte_take {text : List Char} {offset : ℕ} (h : Ascii text)
    (hle : offset ≤ text.length) :
    splitAtByte offset text = some (text.take offset, text.drop offset) := by
  have hfront : Ascii (text.take offset) := fun c hc => h c (List.mem_of_mem_take hc)
  have hcut := splitAtByte_ascii hfront (List.length_take_of_le hle) (text.drop offset)
  rwa [List.take_append_drop] at hcut

lemma getBytes_ascii {text : List Char} {start stop : ℕ} (h : Ascii text) (hle : start ≤ stop)
    (hstop : stop ≤ text.length) :
    getBytes text start stop = some ((text.drop start).take (stop - start)) := by
  have hrest : Ascii (text.drop start) := fun c hc => h c (List.mem_of_mem_drop hc)
  unfold getBytes
  rw [splitAtByte_take h (by omega)]
  simp only [Option.bind_eq_bind, Option.bind_some]
  rw [splitAtByte_take hrest (by rw [List.length_drop]; omega)]
  rfl

/-- What is written in the layout of a timestamp is read back. -/
lemma parseRfc3339Epoch_text {date : Date} {hours minutes seconds : ℕ} (hyear : YearFits date.year)
    (hh : hours < 24) (hm : minutes < 60) (hs : seconds < 60) :
    parseRfc3339Epoch (String.ofList
      (civilText date ++ 'T' :: (clockText hours minutes seconds ++ ['Z']))) =
      some (daysFromCivil date.year date.month date.day * 86400 + hours * 3600 + minutes * 60 +
        seconds) := by
  have hascii : Ascii (civilText date ++ 'T' :: (clockText hours minutes seconds ++ ['Z'])) :=
    ascii_append (ascii_civilText date) (ascii_cons (by decide)
      (ascii_append (ascii_clockText _ _ _) (by simp [Ascii])))
  have hclock := ascii_clockText hours minutes seconds
  obtain ⟨hdate, htime, -⟩ := parts_eq (civilText date) (clockText hours minutes seconds) []
    'T' 'Z' (civilText_length date) (clockText_length _ _ _)
  obtain ⟨hhours, hminutes, hseconds⟩ := parts_eq (numeral 2 hours) (numeral 2 minutes)
    (numeral 2 seconds) ':' ':' (numeral_length _ _) (numeral_length _ _)
  rw [← clockText] at hhours hminutes hseconds
  have hzone : getBytesFrom (civilText date ++ 'T' :: (clockText hours minutes seconds ++ ['Z'])) 19
      = some ['Z'] := by
    have hsplit : civilText date ++ 'T' :: (clockText hours minutes seconds ++ ['Z']) =
        (civilText date ++ 'T' :: clockText hours minutes seconds) ++ ['Z'] := by simp
    rw [getBytesFrom, splitAtByte_take hascii (by simp), hsplit, List.drop_left' (by simp)]
    rfl
  have hthours := (@parse_numeral 2 hours (by omega) (by omega)).2
  have htminutes := (@parse_numeral 2 minutes (by omega) (by omega)).2
  have htseconds := (@parse_numeral 2 seconds (by omega) (by omega)).2
  have hrange : (hours : ℤ) < 24 ∧ (minutes : ℤ) < 60 ∧ (seconds : ℤ) < 60 := by omega
  unfold parseRfc3339Epoch
  simp only [String.toList_ofList, Option.bind_eq_bind]
  rw [getBytes_ascii hascii (by omega) (by simp), getBytes_ascii hascii (by omega) (by simp)]
  simp only [Nat.reduceAdd, Nat.reduceSub, List.drop_zero] at hdate htime hhours hminutes hseconds ⊢
  rw [hdate, htime]
  simp only [Option.bind_some, hzone, ne_eq, not_true_eq_false, if_false]
  rw [getBytes_ascii hclock (by omega) (by simp), getBytes_ascii hclock (by omega) (by simp),
    getBytes_ascii hclock (by omega) (by simp)]
  simp only [Nat.reduceSub, List.drop_zero, hhours, hminutes, hseconds, Option.bind_some, hthours,
    htminutes, List.take_of_length_le (numeral_length 2 seconds).le, htseconds, hrange, and_self,
    if_true, parseDate_civilText hyear, Option.map_some]

lemma timestampForEpoch_eq {epoch : ℤ} {date : Date}
    (hdate : civilFromDays (epoch / 86400) = (date.year, ↑date.month, ↑date.day))
    (hyear : YearFits date.year) :
    timestampForEpoch epoch = String.ofList (civilText date ++ 'T' ::
      (clockText (epoch % 86400 / 3600).toNat (epoch % 86400 % 3600 / 60).toNat
        (epoch % 86400 % 60).toNat ++ ['Z'])) := by
  obtain ⟨-, hmonth, -, hday⟩ := date.real
  have hday := hday.trans (monthLength_mem _ _).2
  have hfield : ∀ n : ℤ, 0 ≤ n → n < 100 → padded 2 n = numeral 2 n.toNat := by
    intro n hpos hlt
    have hpadded := @padded_eq 2 n.toNat (by omega) (by omega)
    rwa [Int.toNat_of_nonneg hpos] at hpadded
  unfold timestampForEpoch
  simp only [hdate]
  rw [padded_year hyear, padded_eq (by omega) (by omega), padded_eq (by omega) (by omega),
    hfield _ (by omega) (by omega), hfield _ (by omega) (by omega), hfield _ (by omega) (by omega)]
  simp [civilText, clockText]

lemma exists_date {days first last : ℤ} (hrange : DayInRange days)
    (hfirst : daysFromCivil first 1 1 ≤ days) (hlast : days < daysFromCivil last 1 1) :
    ∃ date : Date, first ≤ date.year ∧ date.year < last ∧
      civilFromDays days = (date.year, ↑date.month, ↑date.day) ∧
      daysFromCivil date.year date.month date.day = days := by
  obtain ⟨date, hcivil, rfl⟩ := civilFromDays_spec hrange
  obtain ⟨hlow, hhigh⟩ := year_mem_of_days hfirst hlast
  exact ⟨date, hlow, hhigh, hcivil, rfl⟩

/-- An instant of a year that has four characters is read back from its text. -/
lemma parse_timestampForEpoch {epoch : ℤ} {date : Date} (hyear : YearFits date.year)
    (hcivil : civilFromDays (epoch / 86400) = (date.year, ↑date.month, ↑date.day))
    (hdays : daysFromCivil date.year date.month date.day = epoch / 86400) :
    parseRfc3339Epoch (timestampForEpoch epoch) = some epoch := by
  rw [timestampForEpoch_eq hcivil hyear, parseRfc3339Epoch_text hyear (by omega) (by omega)
    (by omega), hdays, Option.some.injEq]
  omega

/-- From the year zero on, the text is also read as a timestamp of a request. -/
lemma parseRfc3339_timestampForEpoch {epoch : ℤ} {date : Date} (hpos : 0 ≤ date.year)
    (hle : date.year ≤ 9999)
    (hcivil : civilFromDays (epoch / 86400) = (date.year, ↑date.month, ↑date.day))
    (hdays : daysFromCivil date.year date.month date.day = epoch / 86400) :
    Rfc3339Bytes.parseRfc3339 (timestampForEpoch epoch) = .ok ⟨epoch, []⟩ := by
  have hfraction : AllDigits [] := by simp [AllDigits]
  rw [timestampForEpoch_eq hcivil ⟨by omega, hle⟩, Rfc3339Bytes.parseRfc3339_eq]
  refine congrArg ofOption (parseRfc3339_eq_some.mpr ⟨⟨date, hpos, hle,
    ⟨(epoch % 86400 / 3600).toNat, (epoch % 86400 % 3600 / 60).toNat, (epoch % 86400 % 60).toNat,
      [], by omega, by omega, by omega, hfraction⟩, .utc⟩, ?_, ?_, rfl⟩)
  · simp [Timestamp.text, TimeOfDay.text, Zone.text, fractionText, civilText, clockText, dateText,
      yearText, hpos]
  · rw [isSeconds_iff]
    simp only [hdays, Zone.seconds]
    omega

/-- **The calendar conversions are mutually inverse.** On the dates of ten million years the two
copies of the conversion to a day agree, count the dates from the first of January 1970, and are
inverted by the conversion back. An instant of the years from 0 to 9999 is read back from its text,
by the simulation and as a timestamp of a request. -/
theorem calendar_round_trip :
    (∀ date : Date, InRange date.year →
      (commonDaysFromCivil date.year date.month date.day : Parse ℤ) =
        .ok (daysFromCivil date.year date.month date.day) ∧
      (simulationDaysFromCivil date.year date.month date.day : Parse ℤ) =
        .ok (daysFromCivil date.year date.month date.day) ∧
      daysFromCivil date.next.year date.next.month date.next.day =
        daysFromCivil date.year date.month date.day + 1 ∧
      civilFromDays (daysFromCivil date.year date.month date.day) =
        (date.year, ↑date.month, ↑date.day)) ∧
    daysFromCivil 1970 1 1 = 0 ∧
    (∀ year month, 1 ≤ month → month ≤ 12 → daysInMonth year month = monthLength year month ∧
      commonDaysInMonth year month = monthLength year month) ∧
    (∀ n, DayInRange n → ∃ date : Date, InRange date.year ∧
      civilFromDays n = (date.year, ↑date.month, ↑date.day) ∧
      daysFromCivil date.year date.month date.day = n) ∧
    ∀ epoch, daysFromCivil 0 1 1 * 86400 ≤ epoch → epoch < daysFromCivil 10000 1 1 * 86400 →
      parseRfc3339Epoch (timestampForEpoch epoch) = some epoch ∧
      Rfc3339Bytes.parseRfc3339 (timestampForEpoch epoch) = .ok ⟨epoch, []⟩ := by
  refine ⟨?_, by decide, fun year month => daysInMonth_eq year, ?_, ?_⟩
  · intro date hyear
    obtain ⟨hcommon, hsimulation⟩ := copies_agree date.real hyear
    exact ⟨hcommon, hsimulation, daysFromCivil_next date, civilFromDays_daysFromCivil hyear⟩
  · intro n hn
    have hlast : daysFromCivil 5000001 1 1 = daysFromCivil 5000000 12 31 + 1 := by decide
    obtain ⟨date, hlow, hhigh, hcivil, hdays⟩ :=
      @exists_date n (-5000000) 5000001 hn hn.1 (by rw [hlast]; exact Int.lt_add_one_of_le hn.2)
    exact ⟨date, ⟨hlow, by omega⟩, hcivil, hdays⟩
  · intro epoch hfirst hlast
    have hfirstDay : daysFromCivil 0 1 1 = -719528 := by decide
    have hlastDay : daysFromCivil 10000 1 1 = 2932897 := by decide
    rw [hfirstDay] at hfirst
    rw [hlastDay] at hlast
    obtain ⟨date, hlow, hhigh, hcivil, hdays⟩ := @exists_date (epoch / 86400) 0 10000
      (dayInRange_iff.mpr (by omega)) (by omega) (by omega)
    exact ⟨parse_timestampForEpoch ⟨by omega, by omega⟩ hcivil hdays,
      parseRfc3339_timestampForEpoch hlow (by omega) hcivil hdays⟩

end MotherApi.SimulationTexts
