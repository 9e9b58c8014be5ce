import MotherApi.Lib.Utf8
import MotherApi.Timestamps

/-!
The timestamp parser on bytes.

The source looks at the bytes of a text, at fixed places, and cuts the text at byte offsets. It is
written here so, with every index, cut and operation that could panic. None of them does, whatever
the text; and since a timestamp is ASCII, the bytes give what the characters give.
-/

namespace MotherApi.Rfc3339Bytes

open MotherApi.Lib.Fallible MotherApi.Lib.Utf8 MotherApi.Lib.Numerals MotherApi.Strings
open MotherApi.SimulationTime MotherApi.Rfc3339 MotherApi.CivilDays MotherApi.Timestamps
open MotherApi.Lib (Checked.getAt Checked.slice Checked.signed)

/-! ### The code -/

/-- A function that returns an `Option` and may panic. -/
abbrev Parse := Except (Halt Unit)

/-- An `Option` inside such a function. -/
def ofOption {α : Type} : Option α → Parse α
  | some a => .ok a
  | none => fail ()

/-- A non-empty slice of digits is valid UTF-8; `parse` fails where the number does not fit. -/
def parseAscii (bound : ℕ) (value : List Char) : Parse ℕ :=
  if value ≠ [] ∧ value.all isAsciiDigit then
    if number value < bound then .ok (number value) else fail ()
  else fail ()

def parseAsciiU32 (value : List Char) : Parse ℕ := parseAscii (2 ^ 32) value

def parseAsciiI32 (value : List Char) : Parse ℕ := parseAscii (2 ^ 31) value

/-- `bytes[first] != mark || bytes[second] != mark`. -/
def lacksMarks (bytes : List Char) (mark : Char) (first second : ℕ) : Parse Bool := do
  if (← Checked.getAt bytes first) ≠ mark then return true
  else return (← Checked.getAt bytes second) ≠ mark

def parseDate (value : List Char) : Parse (ℤ × ℕ × ℕ) := do
  let bytes := bytes value
  if bytes.length ≠ 10 then fail ()
  else if ← lacksMarks bytes '-' 4 7 then fail ()
  else
    let year ← parseAsciiI32 (← Checked.slice bytes 0 4)
    let month ← parseAsciiU32 (← Checked.slice bytes 5 7)
    let day ← parseAsciiU32 (← Checked.slice bytes 8 10)
    if ¬(1 ≤ month ∧ month ≤ 12) then fail ()
    else
      let maxDay := commonDaysInMonth year month
      if day = 0 ∨ maxDay < day then fail ()
      else return ((year : ℤ), month, day)

/-- The seconds and the fraction, from the bytes after the minutes. -/
def parseSecond (secondsAndFraction : List Char) : Parse (ℕ × List Char) :=
  match secondsAndFraction.findIdx? (· == '.') with
  | some dotIndex => do
    if dotIndex ≠ 2 then fail ()
    else
      let second ← Checked.slice secondsAndFraction 0 dotIndex
      let fraction ← Checked.slice secondsAndFraction (dotIndex + 1) secondsAndFraction.length
      if fraction.isEmpty ∨ ¬fraction.all isAsciiDigit then fail ()
      else return (← parseAsciiU32 second, fraction)
  | none => do
    if secondsAndFraction.length ≠ 2 then fail ()
    else return (← parseAsciiU32 secondsAndFraction, [])

def parseTime (value : List Char) : Parse ParsedTime := do
  let bytes := bytes value
  if bytes.length < 8 then fail ()
  else if ← lacksMarks bytes ':' 2 5 then fail ()
  else
    let hour ← parseAsciiU32 (← Checked.slice bytes 0 2)
    let minute ← parseAsciiU32 (← Checked.slice bytes 3 5)
    let (second, fraction) ← parseSecond (← Checked.slice bytes 6 bytes.length)
    if 23 < hour ∨ 59 < minute ∨ 59 < second then fail ()
    else return ⟨hour, minute, second, fraction⟩

def parseOffset (value : List Char) : Parse ℤ := do
  let bytes := bytes value
  if bytes.length ≠ 6 then fail ()
  else if (← Checked.getAt bytes 3) ≠ ':' then fail ()
  else
    let sign ← ofOption (parseSign (some (← Checked.getAt bytes 0)))
    let hours ← parseAsciiU32 (← Checked.slice bytes 1 3)
    let minutes ← parseAsciiU32 (← Checked.slice bytes 4 6)
    if 23 < hours ∨ 59 < minutes then fail ()
    else
      let seconds ← Checked.signed 64 (hours * 3600)
      let minuteSeconds ← Checked.signed 64 (minutes * 60)
      let seconds ← Checked.signed 64 (seconds + minuteSeconds)
      Checked.signed 64 (sign * seconds)

/-- `value.rfind(['+', '-'])`: the byte offset of the last sign. -/
def rfindSign (value : List Char) : Option ℕ :=
  (splitAtSign value).map fun (before, _) => (bytes before).length

/-- `&value[..offset]` and `&value[offset..]`, which panic inside a character. -/
def cut (value : List Char) (offset : ℕ) : Parse (List Char × List Char) :=
  expect (splitAtByte offset value)

def parseTimeAndOffset (value : List Char) : Parse (ParsedTime × ℤ) :=
  if value.getLast? = some 'Z' then do
    let time ← parseTime value.dropLast
    return (time, 0)
  else do
    let offsetStart ← ofOption (rfindSign value)
    let (time, offset) ← cut value offsetStart
    let offsetSeconds ← parseOffset offset
    let time ← parseTime time
    return (time, offsetSeconds)

/-- `checked_mul`, `checked_add` and `checked_sub` of `i64`. -/
def checkedI64 (n : ℤ) : Parse ℤ := if -2 ^ 63 ≤ n ∧ n < 2 ^ 63 then .ok n else fail ()

/-- The seconds of the day, of the time and of the offset. -/
def epochSeconds (year : ℤ) (month day : ℕ) (time : ParsedTime) (offsetSeconds : ℤ) :
    Parse ℤ := do
  let days ← commonDaysFromCivil year month day
  let seconds ← checkedI64 (days * 86400)
  let seconds ← checkedI64 (seconds + (← Checked.signed 64 (time.hour * 3600)))
  let seconds ← checkedI64 (seconds + (← Checked.signed 64 (time.minute * 60)))
  let seconds ← checkedI64 (seconds + time.second)
  checkedI64 (seconds - offsetSeconds)

def parseRfc3339 (value : String) : Parse ParsedRfc3339 :=
  match value.toList.span (· != 'T') with
  | (_, []) => fail ()
  | (date, _ :: timeAndOffset) =>
    if 'T' ∈ timeAndOffset then fail ()
    else do
      let (year, month, day) ← parseDate date
      let (time, offsetSeconds) ← parseTimeAndOffset timeAndOffset
      let epochSeconds ← epochSeconds year month day time offsetSeconds
      return ⟨epochSeconds, time.fraction⟩

/-! ### No index, cut or sum is out of range -/

@[simp] lemma ofOption_some {α : Type} (a : α) : ofOption (some a) = .ok a := rfl

@[simp] lemma ofOption_none {α : Type} : (ofOption none : Parse α) = fail () := rfl

@[simp] lemma fail_bind {α β : Type} {f : α → Parse β} : (fail () >>= f) = fail () := rfl

lemma parseAscii_eq {bound : ℕ} {value : List Char} (hbound : 10 ^ 4 ≤ bound)
    (h : value.length ≤ 4) : parseAscii bound value = ofOption (parseDigits value) := by
  unfold parseAscii parseDigits
  split
  · rename_i hdigits
    have hall : AllDigits value := by simpa [AllDigits, isAsciiDigit] using hdigits.2
    have hlt : number value < 10 ^ 4 :=
      (number_lt hall).trans_le (Nat.pow_le_pow_right (by omega) h)
    rw [if_pos (by omega)]
    rfl
  · rfl

lemma parseAsciiU32_eq {value : List Char} (h : value.length ≤ 4) :
    parseAsciiU32 value = ofOption (parseDigits value) := parseAscii_eq (by omega) h

lemma parseAsciiI32_eq {value : List Char} (h : value.length ≤ 4) :
    parseAsciiI32 value = ofOption (parseDigits value) := parseAscii_eq (by omega) h

lemma lacksMarks_eq {bytes : List Char} {mark : Char} {first second : ℕ}
    (hfirst : first < bytes.length) (hsecond : second < bytes.length) :
    lacksMarks bytes mark first second =
      .ok (decide (bytes[first]? ≠ some mark ∨ bytes[second]? ≠ some mark)) := by
  unfold lacksMarks
  rw [Lib.Checked.getAt_of_lt hfirst, Lib.Checked.getAt_of_lt hsecond,
    List.getElem?_eq_getElem hfirst, List.getElem?_eq_getElem hsecond]
  by_cases hmark : bytes[first] = mark <;> simp [hmark, pure, Except.pure]

lemma parseDate_eq (value : List Char) :
    parseDate value = ofOption (Rfc3339.parseDate (bytes value)) := by
  unfold parseDate Rfc3339.parseDate
  generalize bytes value = bytes
  by_cases hlen : bytes.length = 10
  swap
  · rw [if_pos hlen, if_pos (Or.inl hlen)]
    rfl
  simp only [hlen, ne_eq, not_true_eq_false, if_false, false_or]
  rw [lacksMarks_eq (by omega) (by omega), Lib.Checked.slice_of_le (by omega) (by omega),
    Lib.Checked.slice_of_le (by omega) (by omega), Lib.Checked.slice_of_le (by omega) (by omega)]
  simp only [bind_ok, decide_eq_true_eq]
  by_cases hmarks : ¬bytes[4]? = some '-' ∨ ¬bytes[7]? = some '-'
  · rw [if_pos hmarks, if_pos hmarks]
    rfl
  rw [if_neg hmarks, if_neg hmarks,
    parseAsciiI32_eq (by simp [hlen]), parseAsciiU32_eq (by simp [hlen]),
    parseAsciiU32_eq (by simp [hlen])]
  simp only [List.drop_zero, Nat.reduceSub]
  cases parseDigits (bytes.take 4) with
  | none => rfl
  | some year =>
    cases parseDigits ((bytes.drop 5).take 2) with
    | none => rfl
    | some month =>
      cases parseDigits ((bytes.drop 8).take 2) with
      | none => rfl
      | some day =>
        simp only [ofOption_some, bind_ok, Option.bind_eq_bind, Option.bind_some]
        by_cases hmonth : 1 ≤ month ∧ month ≤ 12
        · obtain ⟨hsimulation, hcommon⟩ := daysInMonth_eq year hmonth.1 hmonth.2
          rw [if_neg (not_not.mpr hmonth), if_neg (not_not.mpr hmonth), hsimulation, hcommon]
          split_ifs <;> rfl
        · rw [if_pos hmonth, if_pos hmonth]
          rfl

/-- The index of the first point is the length of what is before it. -/
lemma findIdx?_point {before rest : List Char} (h : ∀ c ∈ before, (c != '.') = true) :
    (before ++ '.' :: rest).findIdx? (· == '.') = some before.length ∧
      before.findIdx? (· == '.') = none := by
  have hnone : before.findIdx? (· == '.') = none := by
    rw [List.findIdx?_eq_none_iff]
    exact fun c hc => by simpa using h c hc
  refine ⟨?_, hnone⟩
  rw [List.findIdx?_append, hnone, List.findIdx?_cons]
  simp

lemma parseSecond_eq (value : List Char) :
    parseSecond value = ofOption (Rfc3339.parseSecond value) := by
  unfold parseSecond Rfc3339.parseSecond
  rcases hspan : value.span (· != '.') with ⟨before, after⟩
  obtain ⟨rfl, hbefore, hpoint⟩ := Lib.Splits.of_span_eq hspan
  cases after with
  | nil =>
    rw [List.append_nil, (@findIdx?_point before [] hbefore).2]
    simp only
    by_cases hlen : before.length = 2
    · rw [if_neg (not_not.mpr hlen), if_neg (not_not.mpr hlen),
        parseAsciiU32_eq (by omega)]
      cases parseDigits before <;> rfl
    · rw [if_pos hlen, if_pos hlen]
      rfl
  | cons point fraction =>
    have hpoint : point = '.' := by simpa using hpoint point rfl
    subst hpoint
    rw [(findIdx?_point hbefore).1]
    simp only
    by_cases hlen : before.length = 2
    · have hdrop : (before ++ '.' :: fraction).drop (before.length + 1) = fraction := by
        rw [← List.drop_drop, List.drop_left]
        rfl
      have hrest : (before ++ '.' :: fraction).length - (before.length + 1) =
          fraction.length := by
        rw [List.length_append, List.length_cons]
        omega
      rw [if_neg (not_not.mpr hlen), Lib.Checked.slice_of_le (by omega) (by simp),
        Lib.Checked.slice_of_le (by simp) le_rfl, hdrop, hrest, List.drop_zero, Nat.sub_zero,
        List.take_left, List.take_length]
      simp only [bind_ok, hlen, ne_eq, not_true_eq_false, false_or]
      by_cases hfraction : fraction.isEmpty = true ∨ ¬fraction.all isAsciiDigit = true
      · rw [if_pos hfraction, if_pos hfraction]
        rfl
      · rw [if_neg hfraction, if_neg hfraction, parseAsciiU32_eq (by omega)]
        cases parseDigits before <;> rfl
    · rw [if_pos hlen, if_pos (Or.inl hlen)]
      rfl

lemma parseTime_eq (value : List Char) :
    parseTime value = ofOption (Rfc3339.parseTime (bytes value)) := by
  unfold parseTime Rfc3339.parseTime
  generalize bytes value = bytes
  by_cases hlen : bytes.length < 8
  · rw [if_pos hlen, if_pos (Or.inl hlen)]
    rfl
  simp only [hlen, if_false, ne_eq, false_or]
  rw [lacksMarks_eq (by omega) (by omega), Lib.Checked.slice_of_le (by omega) (by omega),
    Lib.Checked.slice_of_le (by omega) (by omega), Lib.Checked.slice_of_le (by omega) le_rfl]
  simp only [bind_ok, decide_eq_true_eq]
  by_cases hmarks : ¬bytes[2]? = some ':' ∨ ¬bytes[5]? = some ':'
  · rw [if_pos hmarks, if_pos hmarks]
    rfl
  have hrest : (bytes.drop 6).take (bytes.length - 6) = bytes.drop 6 :=
    List.take_of_length_le (by simp)
  rw [if_neg hmarks, if_neg hmarks, parseAsciiU32_eq (by simp),
    parseAsciiU32_eq (by simp), hrest, parseSecond_eq]
  simp only [List.drop_zero, Nat.reduceSub]
  cases parseDigits (bytes.take 2) with
  | none => rfl
  | some hour =>
    cases parseDigits ((bytes.drop 3).take 2) with
    | none => rfl
    | some minute =>
      cases Rfc3339.parseSecond (bytes.drop 6) with
      | none => rfl
      | some second =>
        simp only [ofOption_some, bind_ok, Option.bind_eq_bind, Option.bind_some]
        split_ifs <;> rfl

lemma parseOffset_eq (value : List Char) :
    parseOffset value = ofOption (Rfc3339.parseOffset (bytes value)) := by
  unfold parseOffset Rfc3339.parseOffset
  generalize bytes value = bytes
  by_cases hlen : bytes.length = 6
  swap
  · rw [if_pos hlen, if_pos (Or.inl hlen)]
    rfl
  simp only [hlen, ne_eq, not_true_eq_false, if_false, false_or]
  rw [Lib.Checked.getAt_of_lt (by omega), Lib.Checked.getAt_of_lt (by omega),
    Lib.Checked.slice_of_le (by omega) (by omega), Lib.Checked.slice_of_le (by omega) (by omega),
    List.getElem?_eq_getElem (by omega), List.getElem?_eq_getElem (by omega)]
  simp only [bind_ok, Option.some.injEq]
  by_cases hmark : bytes[3] = ':'
  swap
  · rw [if_pos hmark, if_pos hmark]
    rfl
  rw [if_neg (not_not.mpr hmark), if_neg (not_not.mpr hmark), parseAsciiU32_eq (by simp [hlen]),
    parseAsciiU32_eq (by simp [hlen])]
  simp only [Nat.reduceSub]
  cases hsign : parseSign (some bytes[0]) with
  | none => rfl
  | some sign =>
    cases parseDigits ((bytes.drop 1).take 2) with
    | none => rfl
    | some hours =>
      cases parseDigits ((bytes.drop 4).take 2) with
      | none => rfl
      | some minutes =>
        simp only [ofOption_some, bind_ok, Option.bind_eq_bind, Option.bind_some]
        by_cases hrange : 23 < hours ∨ 59 < minutes
        · rw [if_pos hrange, if_pos hrange]
          rfl
        · obtain ⟨east, -, rfl⟩ := parseSign_eq_some.mp hsign
          rw [if_neg hrange, if_neg hrange, Lib.Checked.signed_bind (by omega),
            Lib.Checked.signed_bind (by omega), Lib.Checked.signed_bind (by omega),
            Lib.Checked.signed_of_mem (by split <;> omega)]
          rfl

/-! ### The parts of a timestamp are ASCII -/

lemma ascii_of_allDigits {text : List Char} (h : AllDigits text) : Ascii text := by
  intro c hc
  have := isDigit_iff.mp (h c hc)
  omega

lemma ascii_append {a b : List Char} (ha : Ascii a) (hb : Ascii b) : Ascii (a ++ b) := by
  intro c hc
  rcases List.mem_append.mp hc with hc | hc
  · exact ha c hc
  · exact hb c hc

lemma ascii_cons {c : Char} {text : List Char} (hc : c.toNat < 128) (h : Ascii text) :
    Ascii (c :: text) := by
  intro d hd
  rcases List.mem_cons.mp hd with rfl | hd
  · exact hc
  · exact h d hd

lemma ascii_numeral (width n : ℕ) : Ascii (numeral width n) :=
  ascii_of_allDigits (allDigits_numeral width n)

lemma ascii_dateText (year month day : ℕ) : Ascii (dateText year month day) :=
  ascii_append (ascii_numeral _ _) (ascii_cons (by decide)
    (ascii_append (ascii_numeral _ _) (ascii_cons (by decide) (ascii_numeral _ _))))

lemma ascii_timeText (time : TimeOfDay) : Ascii time.text := by
  have hfraction : Ascii (fractionText time.fraction) := by
    unfold fractionText
    split
    · simp [Ascii]
    · exact ascii_cons (by decide) (ascii_of_allDigits time.fraction_digits)
  exact ascii_append (ascii_numeral _ _) (ascii_cons (by decide) (ascii_append (ascii_numeral _ _)
    (ascii_cons (by decide) (ascii_append (ascii_numeral _ _) hfraction))))

lemma ascii_offsetText (east : Bool) (hours minutes : ℕ) (hh : hours ≤ 23) (hm : minutes ≤ 59) :
    Ascii (Zone.offset east hours minutes hh hm).text :=
  ascii_cons (by cases east <;> decide)
    (ascii_append (ascii_numeral _ _) (ascii_cons (by decide) (ascii_numeral _ _)))

/-- Dates, times and offsets are the same in the bytes of a text as in the text. -/
lemma parse_bytes (value : List Char) :
    Rfc3339.parseDate (bytes value) = Rfc3339.parseDate value ∧
      Rfc3339.parseTime (bytes value) = Rfc3339.parseTime value ∧
      Rfc3339.parseOffset (bytes value) = Rfc3339.parseOffset value := by
  refine ⟨eq_of_ascii ?_ value, eq_of_ascii ?_ value, eq_of_ascii ?_ value⟩
  · rintro text ⟨y, month, day⟩ h
    obtain ⟨year, -, -, -, rfl⟩ := parseDate_eq_some.mp h
    exact ascii_dateText year month day
  · intro text parsed h
    obtain ⟨time, -, rfl⟩ := parseTime_eq_some.mp h
    exact ascii_timeText time
  · intro text seconds h
    obtain ⟨east, hours, minutes, hh, hm, -, rfl⟩ := parseOffset_eq_some.mp h
    exact ascii_offsetText east hours minutes hh hm

/-! ### The parser on bytes is the parser on characters -/

lemma splitAtByte_append (front rest : List Char) :
    splitAtByte (bytes front).length (front ++ rest) = some (front, rest) := by
  induction front with
  | nil => simp [splitAtByte]
  | cons c front ih =>
    have hpos := c.utf8Size_pos
    rw [bytes_cons, List.length_append, length_charBytes, List.cons_append]
    obtain ⟨k, hk⟩ : ∃ k, c.utf8Size + (bytes front).length = k + 1 :=
      ⟨c.utf8Size + (bytes front).length - 1, by omega⟩
    rw [hk, splitAtByte, if_pos (by omega), show k + 1 - c.utf8Size = (bytes front).length by omega,
      ih]
    rfl

lemma parseTimeAndOffset_eq (value : List Char) :
    parseTimeAndOffset value = ofOption (Rfc3339.parseTimeAndOffset value) := by
  unfold parseTimeAndOffset Rfc3339.parseTimeAndOffset
  split
  · rw [parseTime_eq, (parse_bytes _).2.1]
    cases Rfc3339.parseTime value.dropLast <;> rfl
  · unfold rfindSign
    cases hsplit : splitAtSign value with
    | none => rfl
    | some parts =>
      obtain ⟨front, offset⟩ := parts
      obtain ⟨-, -, -, -, -, rfl⟩ := splitAtSign_eq_some.mp hsplit
      simp only [Option.map_some, ofOption_some, bind_ok, cut, splitAtByte_append, expect,
        Option.bind_eq_bind, Option.bind_some]
      rw [parseOffset_eq, parseTime_eq, (parse_bytes offset).2.2, (parse_bytes front).2.1]
      cases Rfc3339.parseOffset offset with
      | none => rfl
      | some seconds => cases Rfc3339.parseTime front <;> rfl

lemma checkedI64_of_mem {n : ℤ} (h : -2 ^ 63 ≤ n ∧ n < 2 ^ 63) : checkedI64 n = .ok n := if_pos h

lemma zone_seconds_mem (zone : Zone) : -86400 < zone.seconds ∧ zone.seconds < 86400 := by
  rcases zone with _ | ⟨_ | _, hours, minutes, hh, hm⟩ <;> simp only [Zone.seconds] <;> omega

/-- The seconds of an instant fit, and so does every step to them. -/
lemma epochSeconds_eq {year month day : ℕ} (hyear : year ≤ 9999)
    (hreal : Lib.Calendar.IsDate year month day) (time : TimeOfDay) (zone : Zone) :
    epochSeconds year month day time.parsed zone.seconds =
      .ok (daysFromCivil year month day * 86400 + time.hour * 3600 + time.minute * 60 +
        time.second - zone.seconds) := by
  have hrange : InRange (year : ℤ) := ⟨by omega, by omega⟩
  have hdays := @dayInRange_of_inRange ⟨year, month, day, hreal⟩ hrange
  rw [dayInRange_iff] at hdays
  obtain ⟨hdays, hdays'⟩ := hdays
  obtain ⟨hzone, hzone'⟩ := zone_seconds_mem zone
  obtain ⟨hour, minute, second, fraction, hhour, hminute, hsecond, -⟩ := time
  unfold epochSeconds
  simp only [TimeOfDay.parsed] at hdays hdays' ⊢
  rw [(copies_agree hreal hrange).1, bind_ok, checkedI64_of_mem (by omega), bind_ok,
    Lib.Checked.signed_bind (by omega), checkedI64_of_mem (by omega), bind_ok,
    Lib.Checked.signed_bind (by omega), checkedI64_of_mem (by omega), bind_ok,
    checkedI64_of_mem (by omega), bind_ok, checkedI64_of_mem (by omega)]

lemma parseRfc3339_eq (value : String) :
    parseRfc3339 value = ofOption (Rfc3339.parseRfc3339 value) := by
  unfold parseRfc3339 Rfc3339.parseRfc3339
  rcases value.toList.span (· != 'T') with ⟨date, _ | ⟨mark, timeAndOffset⟩⟩
  · rfl
  simp only
  by_cases hmark : 'T' ∈ timeAndOffset
  · rw [if_pos hmark, if_pos hmark]
    rfl
  rw [if_neg hmark, if_neg hmark, parseDate_eq, parseTimeAndOffset_eq, (parse_bytes date).1]
  cases hdate : Rfc3339.parseDate date with
  | none => rfl
  | some parts =>
    obtain ⟨y, month, day⟩ := parts
    cases htime : Rfc3339.parseTimeAndOffset timeAndOffset with
    | none => rfl
    | some parts =>
      obtain ⟨parsed, seconds⟩ := parts
      obtain ⟨year, rfl, hyear, hreal, -⟩ := parseDate_eq_some.mp hdate
      obtain ⟨time, zone, rfl, rfl, -⟩ := parseTimeAndOffset_eq_some.mp htime
      simp only [ofOption_some, bind_ok, Option.bind_eq_bind, Option.bind_some,
        epochSeconds_eq hyear hreal]
      rfl

/-- **The timestamp parser accepts exactly its grammar.** On every text it returns without a panic
and gives what it gives on characters; that is a value exactly if the text is the text of a
timestamp, and then the seconds to its instant and the digits of its fraction. -/
theorem parseRfc3339_grammar (value : String) :
    parseRfc3339 value ≠ .error .panic ∧
    parseRfc3339 value = ofOption (Rfc3339.parseRfc3339 value) ∧
    ∀ parsed, parseRfc3339 value = .ok parsed ↔
      ∃ timestamp : Timestamp, value.toList = timestamp.text ∧
        timestamp.IsSeconds parsed.epochSeconds ∧
        parsed.fraction = timestamp.time.fraction := by
  rw [parseRfc3339_eq]
  refine ⟨?_, rfl, fun parsed => ?_⟩
  · cases Rfc3339.parseRfc3339 value <;> simp [fail]
  · rw [← parseRfc3339_eq_some]
    cases Rfc3339.parseRfc3339 value <;> simp

end MotherApi.Rfc3339Bytes
