import MotherApi.SimulationTexts

/-!
The dates that simulations accept.

A request gives the simulation its dates as texts, and the simulation reads them with a parser of
its own. It looks at the same bytes as the parser of timestamps, but reads the fields as numbers,
and numbers may have a sign. Apart from the dates that are spelled with signs, the two parsers
accept the same texts and give the same days.
-/

namespace MotherApi.SimulationDates

open MotherApi.Lib.Numerals MotherApi.Lib.Calendar MotherApi.Lib.Utf8 MotherApi.Lib.Fallible
open MotherApi.SimulationTime MotherApi.CivilDays MotherApi.Timestamps MotherApi.Rfc3339Bytes
open MotherApi.SimulationTexts

/-! ### The parser on bytes -/

/-- `&value[start..stop]`, which panics inside a character. -/
def sliceText (value : List Char) (start stop : ℕ) : Parse (List Char) :=
  expect (getBytes value start stop)

def parseDateBytes (value : List Char) : Parse ℤ := do
  let bytes := bytes value
  if bytes.length ≠ 10 then fail ()
  else if ← lacksMarks bytes '-' 4 7 then fail ()
  else
    let year ← ofOption (parseSigned (← sliceText value 0 4))
    let month ← ofOption (parseUnsigned (← sliceText value 5 7))
    let day ← ofOption (parseUnsigned (← sliceText value 8 10))
    if ¬(1 ≤ month ∧ month ≤ 12) ∨ day = 0 ∨ daysInMonth year month < day then fail ()
    else simulationDaysFromCivil year month day

/-- The layout of a date: three parts of four, two and two bytes, with dashes between them. -/
def Layout (value a b c : List Char) : Prop :=
  value = a ++ '-' :: (b ++ '-' :: c) ∧ (bytes a).length = 4 ∧ (bytes b).length = 2 ∧
    (bytes c).length = 2

lemma splitAtByte_eq_some {text front rest : List Char} {offset : ℕ}
    (h : splitAtByte offset text = some (front, rest)) :
    text = front ++ rest ∧ (bytes front).length = offset := by
  induction text generalizing offset front with
  | nil =>
    cases offset with
    | zero =>
      cases h
      exact ⟨rfl, rfl⟩
    | succ offset => cases h
  | cons c text ih =>
    cases offset with
    | zero =>
      simp only [splitAtByte, Option.some.injEq, Prod.mk.injEq] at h
      obtain ⟨rfl, rfl⟩ := h
      exact ⟨rfl, rfl⟩
    | succ offset =>
      rw [splitAtByte] at h
      split at h
      · rename_i hle
        obtain ⟨⟨front', rest'⟩, hsplit, hpair⟩ := Option.map_eq_some_iff.mp h
        cases hpair
        obtain ⟨rfl, hlen⟩ := ih hsplit
        refine ⟨rfl, ?_⟩
        rw [bytes_cons, List.length_append, length_charBytes]
        omega
      · cases h

lemma exists_layout {value : List Char} {n : ℤ} (h : SimulationTime.parseDate value = some n) :
    ∃ a b c, Layout value a b c := by
  unfold SimulationTime.parseDate at h
  simp only [Option.bind_eq_bind] at h
  obtain ⟨⟨a, rest⟩, hfirst, hyear⟩ := Option.bind_eq_some_iff.mp h
  clear h
  obtain ⟨rfl, ha⟩ := splitAtByte_eq_some hfirst
  obtain ⟨rest, rfl⟩ : ∃ rest', rest = '-' :: rest' := by
    by_cases hdash : rest.head? = some '-'
    · exact ⟨rest.tail, (List.cons_head?_tail hdash).symm⟩
    · simp [hdash] at hyear
  simp only [List.head?_cons, if_true, List.tail_cons] at hyear
  obtain ⟨⟨b, rest⟩, hsecond, hmonth⟩ := Option.bind_eq_some_iff.mp hyear
  clear hyear
  obtain ⟨rfl, hb⟩ := splitAtByte_eq_some hsecond
  obtain ⟨rest, rfl⟩ : ∃ rest', rest = '-' :: rest' := by
    by_cases hdash : rest.head? = some '-'
    · exact ⟨rest.tail, (List.cons_head?_tail hdash).symm⟩
    · simp [hdash] at hmonth
  simp only [List.head?_cons, if_true, List.tail_cons] at hmonth
  obtain ⟨⟨c, rest⟩, hthird, hday⟩ := Option.bind_eq_some_iff.mp hmonth
  clear hmonth
  obtain ⟨rfl, hc⟩ := splitAtByte_eq_some hthird
  obtain rfl : rest = [] := by
    by_contra hne
    simp [hne] at hday
  exact ⟨a, b, c, by rw [List.append_nil], ha, hb, hc⟩

lemma bytes_dash : charBytes '-' = ['-'] := charBytes_ascii (by decide)

/-- The bytes of a text with the layout of a date, and no other, have the dashes at their places. -/
lemma layout_iff {value : List Char} :
    (∃ a b c, Layout value a b c) ↔ (bytes value).length = 10 ∧ (bytes value)[4]? = some '-' ∧
      (bytes value)[7]? = some '-' := by
  constructor
  · rintro ⟨a, b, c, rfl, ha, hb, hc⟩
    have hbytes : bytes (a ++ '-' :: (b ++ '-' :: c)) =
        bytes a ++ '-' :: (bytes b ++ '-' :: bytes c) := by
      simp only [bytes_append, bytes_cons, bytes_dash, List.singleton_append]
    obtain ⟨hfirst, hsecond⟩ := marks_eq (bytes a) (bytes b) (bytes c) '-' '-' ha hb
    rw [hbytes]
    refine ⟨?_, hfirst, hsecond⟩
    simp only [List.length_append, List.length_cons]
    omega
  · rintro ⟨hlen, hfirst, hsecond⟩
    obtain ⟨a, rest, rfl, ha⟩ := exists_split_of_byte (by decide) hfirst
    have hrest : (bytes rest)[2]? = some '-' := by
      rw [bytes_append, bytes_cons, bytes_dash, List.getElem?_append_right (by omega),
        ha] at hsecond
      simpa using hsecond
    obtain ⟨b, c, rfl, hb⟩ := exists_split_of_byte (by decide) hrest
    refine ⟨a, b, c, rfl, ha, hb, ?_⟩
    simp only [bytes_append, bytes_cons, bytes_dash, List.length_append,
      List.length_singleton] at hlen
    omega

lemma getBytes_append {text front part rest : List Char} {start stop : ℕ}
    (htext : text = front ++ (part ++ rest)) (hstart : (bytes front).length = start)
    (hstop : (bytes part).length = stop - start) : getBytes text start stop = some part := by
  have hfront := splitAtByte_append front (part ++ rest)
  have hpart := splitAtByte_append part rest
  rw [hstart] at hfront
  rw [hstop] at hpart
  unfold getBytes
  rw [htext, hfront]
  simp only [Option.bind_eq_bind, Option.bind_some, hpart]
  rfl

lemma getBytes_layout {value a b c : List Char} (h : Layout value a b c) :
    getBytes value 0 4 = some a ∧ getBytes value 5 7 = some b ∧ getBytes value 8 10 = some c := by
  obtain ⟨rfl, ha, hb, hc⟩ := h
  refine ⟨?_, ?_, ?_⟩
  · exact getBytes_append (List.nil_append _).symm rfl ha
  · refine @getBytes_append _ (a ++ ['-']) b ('-' :: c) 5 7 (by simp) ?_ hb
    simp [bytes_append, bytes_cons, bytes_dash, ha]
  · refine @getBytes_append _ (a ++ '-' :: (b ++ ['-'])) c [] 8 10 (by simp) ?_ hc
    simp [bytes_append, bytes_cons, bytes_dash, ha, hb]

/-! ### The spellings of numbers -/

/-- The texts of a width that are read as a number: its numeral, or a shorter one after a sign. -/
def Spells (width : ℕ) (n : ℤ) (text : List Char) : Prop :=
  (∃ k : ℕ, k < 10 ^ width ∧ n = k ∧ text = numeral width k) ∨
    (∃ k : ℕ, k < 10 ^ (width - 1) ∧ n = k ∧ text = '+' :: numeral (width - 1) k) ∨
    ∃ k : ℕ, k < 10 ^ (width - 1) ∧ n = -k ∧ text = '-' :: numeral (width - 1) k

def HasSign (text : List Char) : Prop := text.head? = some '+' ∨ text.head? = some '-'

/-- Digits that fill the bytes of a field are the numeral of their number. -/
lemma eq_numeral {text : List Char} {width n : ℕ} (hlen : (bytes text).length = width)
    (h : parseDigits text = some n) : n < 10 ^ width ∧ text = numeral width n := by
  obtain ⟨hne, hdigits, rfl⟩ := parseDigits_eq_some.mp h
  rw [bytes_of_ascii (ascii_of_allDigits hdigits)] at hlen
  subst hlen
  exact ⟨number_lt hdigits, (numeral_number hdigits).symm⟩

lemma bytes_sign_length {sign : Char} {text : List Char} {width : ℕ} (hsign : sign.toNat < 128)
    (hlen : (bytes (sign :: text)).length = width) : (bytes text).length = width - 1 := by
  rw [bytes_cons, charBytes_ascii hsign, List.singleton_append, List.length_cons] at hlen
  omega

lemma spells_of_parseUnsigned {text : List Char} {width n : ℕ} (hlen : (bytes text).length = width)
    (h : parseUnsigned text = some n) : Spells width n text := by
  unfold parseUnsigned at h
  split at h
  · rename_i rest
    obtain ⟨hlt, rfl⟩ := eq_numeral (bytes_sign_length (by decide) hlen) h
    exact Or.inr (Or.inl ⟨n, hlt, rfl, rfl⟩)
  · obtain ⟨hlt, rfl⟩ := eq_numeral hlen h
    exact Or.inl ⟨n, hlt, rfl, rfl⟩

lemma parseSigned_minus {text : List Char} {n : ℤ} :
    parseSigned ('-' :: text) = some n ↔ ∃ k : ℕ, parseDigits text = some k ∧ n = -k := by
  rw [parseSigned]
  cases parseDigits text with
  | none => simp
  | some k => simp [eq_comm]

lemma parseSigned_other {text : List Char} (h : text.head? ≠ some '-') {n : ℤ} :
    parseSigned text = some n ↔ ∃ k : ℕ, parseUnsigned text = some k ∧ n = k := by
  unfold parseSigned
  split
  · exact absurd rfl h
  · cases parseUnsigned _ with
    | none => simp
    | some k => simp [eq_comm]

lemma spells_of_parseSigned {text : List Char} {width : ℕ} {n : ℤ}
    (hlen : (bytes text).length = width) (h : parseSigned text = some n) :
    Spells width n text := by
  by_cases hminus : text.head? = some '-'
  · rw [← List.cons_head?_tail hminus] at h hlen ⊢
    obtain ⟨k, hk, rfl⟩ := parseSigned_minus.mp h
    obtain ⟨hlt, htail⟩ := eq_numeral (bytes_sign_length (by decide) hlen) hk
    exact Or.inr (Or.inr ⟨k, hlt, rfl, by rw [htail]⟩)
  · obtain ⟨k, hk, rfl⟩ := (parseSigned_other hminus).mp h
    exact spells_of_parseUnsigned hlen hk

/-- The spellings of a number are read as it, by a type with a sign. -/
lemma parseSigned_of_spells {text : List Char} {width : ℕ} {n : ℤ} (hwidth : 1 < width)
    (h : Spells width n text) : parseSigned text = some n := by
  have hpos : 0 < width - 1 := by omega
  rcases h with ⟨k, hlt, rfl, rfl⟩ | ⟨k, hlt, rfl, rfl⟩ | ⟨k, hlt, rfl, rfl⟩
  · exact (parse_numeral (by omega) hlt).2
  · exact (parseSigned_other (by simp)).mpr ⟨k, parseDigits_numeral hpos hlt, rfl⟩
  · exact parseSigned_minus.mpr ⟨k, parseDigits_numeral hpos hlt, rfl⟩

/-- And by a type without one, if the number is not zero. -/
lemma parseUnsigned_of_spells {text : List Char} {width n : ℕ} (hwidth : 1 < width) (hn : 1 ≤ n)
    (h : Spells width n text) : parseUnsigned text = some n := by
  have hpos : 0 < width - 1 := by omega
  rcases h with ⟨k, hlt, hk, rfl⟩ | ⟨k, hlt, hk, rfl⟩ | ⟨k, hlt, hk, rfl⟩
  · rw [Int.natCast_inj.mp hk]
    exact (parse_numeral (by omega) hlt).1
  · rw [Int.natCast_inj.mp hk]
    exact parseDigits_numeral hpos hlt
  · omega

lemma bytes_length_of_spells {text : List Char} {width : ℕ} {n : ℤ} (hwidth : 0 < width)
    (h : Spells width n text) : (bytes text).length = width := by
  have hsign : ∀ sign k, sign.toNat < 128 →
      (bytes (sign :: numeral (width - 1) k)).length = width := by
    intro sign k hsign
    rw [bytes_cons, charBytes_ascii hsign, List.singleton_append, List.length_cons,
      bytes_numeral_length]
    omega
  rcases h with ⟨k, -, -, rfl⟩ | ⟨k, -, -, rfl⟩ | ⟨k, -, -, rfl⟩
  · exact bytes_numeral_length _ _
  · exact hsign '+' k (by decide)
  · exact hsign '-' k (by decide)

/-- What the simulation reads as a date, and as which day. -/
lemma parseDate_eq_some {value : List Char} {n : ℤ} :
    SimulationTime.parseDate value = some n ↔
      ∃ (date : Date) (a b c : List Char), value = a ++ '-' :: (b ++ '-' :: c) ∧
        Spells 4 date.year a ∧ Spells 2 date.month b ∧ Spells 2 date.day c ∧
        n = daysFromCivil date.year date.month date.day := by
  constructor
  · intro h
    obtain ⟨a, b, c, rfl, ha, hb, hc⟩ := exists_layout h
    obtain ⟨date, hyear, hmonth, hday, rfl⟩ :=
      (SimulationTexts.parseDate_fields ha hb hc).mp h
    exact ⟨date, a, b, c, rfl, spells_of_parseSigned ha hyear, spells_of_parseUnsigned hb hmonth,
      spells_of_parseUnsigned hc hday, rfl⟩
  · rintro ⟨date, a, b, c, rfl, hyear, hmonth, hday, rfl⟩
    exact (SimulationTexts.parseDate_fields (bytes_length_of_spells (by omega) hyear)
      (bytes_length_of_spells (by omega) hmonth) (bytes_length_of_spells (by omega) hday)).mpr
        ⟨date, parseSigned_of_spells (by omega) hyear,
          parseUnsigned_of_spells (by omega) date.real.1 hmonth,
          parseUnsigned_of_spells (by omega) date.real.2.2.1 hday, rfl⟩

lemma yearFits_of_spells {text : List Char} {year : ℤ} (h : Spells 4 year text) :
    YearFits year := by
  unfold YearFits
  rcases h with ⟨k, hlt, rfl, -⟩ | ⟨k, hlt, rfl, -⟩ | ⟨k, hlt, rfl, -⟩ <;> omega

/-! ### The checks pass -/

/-- **The simulation's parser does not panic**, and gives what it gives on characters. -/
lemma parseDateBytes_eq (value : List Char) :
    parseDateBytes value = ofOption (SimulationTime.parseDate value) := by
  by_cases hlayout : ∃ a b c, Layout value a b c
  · obtain ⟨hlen, hfirst, hsecond⟩ := layout_iff.mp hlayout
    obtain ⟨a, b, c, hlayout⟩ := hlayout
    obtain ⟨hyear, hmonth, hday⟩ := getBytes_layout hlayout
    obtain ⟨rfl, ha, hb, hc⟩ := hlayout
    unfold parseDateBytes sliceText
    rw [if_neg (not_not.mpr hlen), lacksMarks_eq (by omega) (by omega), hyear, hmonth, hday,
      parseDate_eq_fields ha hb hc]
    simp only [hfirst, hsecond, ne_eq, not_true_eq_false, or_self, decide_false, bind_ok, expect,
      Bool.false_eq_true, if_false]
    cases hyear : parseSigned a with
    | none => rfl
    | some year =>
      cases parseUnsigned b with
      | none => rfl
      | some month =>
        cases parseUnsigned c with
        | none => rfl
        | some day =>
          simp only [ofOption_some, bind_ok, Option.bind_eq_bind, Option.bind_some]
          split_ifs with hchecks
          · rfl
          · have hm : 1 ≤ month ∧ month ≤ 12 := by
              by_contra hnot
              exact hchecks (Or.inl hnot)
            rw [(daysInMonth_eq _ hm.1 hm.2).1] at hchecks
            obtain ⟨hlow, hhigh⟩ := yearFits_of_spells (spells_of_parseSigned ha hyear)
            have hdate : IsDate year month day := ⟨hm.1, hm.2, by omega, by omega⟩
            exact (copies_agree hdate ⟨by omega, by omega⟩).2
  · have hnone : SimulationTime.parseDate value = none := by
      rw [Option.eq_none_iff_forall_ne_some]
      exact fun n hn => hlayout (exists_layout hn)
    rw [hnone]
    rw [layout_iff] at hlayout
    unfold parseDateBytes
    by_cases hlen : (bytes value).length = 10
    · have hmarks : (bytes value)[4]? ≠ some '-' ∨ (bytes value)[7]? ≠ some '-' := by
        by_contra hnot
        rw [not_or, not_not, not_not] at hnot
        exact hlayout ⟨hlen, hnot⟩
      rw [if_neg (not_not.mpr hlen), lacksMarks_eq (by omega) (by omega), decide_eq_true hmarks]
      rfl
    · rw [if_pos hlen]
      rfl

/-! ### The two parsers -/

/-- A real date in the layout of one, with a sign in front of its year, its month or its day. -/
def SignedDate (value : List Char) : Prop :=
  ∃ (date : Date) (a b c : List Char), value = a ++ '-' :: (b ++ '-' :: c) ∧
    Spells 4 date.year a ∧ Spells 2 date.month b ∧ Spells 2 date.day c ∧
    (HasSign a ∨ HasSign b ∨ HasSign c)

/-- The parsers return on the text, and the simulation's has a day exactly if the other one has a
date, and then the day of that date. -/
def ParsersAgree (value : List Char) : Prop :=
  parseDateBytes value ≠ .error .panic ∧ Rfc3339Bytes.parseDate value ≠ .error .panic ∧
    ∀ n, parseDateBytes value = .ok n ↔
      ∃ y month day, Rfc3339Bytes.parseDate value = .ok (y, month, day) ∧
        n = daysFromCivil y month day

lemma not_hasSign_numeral (width n : ℕ) : ¬HasSign (numeral width n) := by
  rintro (hplus | hminus)
  · exact not_mem_numeral rfl width n (List.mem_of_mem_head? hplus)
  · exact not_mem_numeral rfl width n (List.mem_of_mem_head? hminus)

lemma spells_length {text : List Char} {width : ℕ} {n : ℤ} (hwidth : 0 < width)
    (h : Spells width n text) : text.length = width := by
  rcases h with ⟨k, -, -, rfl⟩ | ⟨k, -, -, rfl⟩ | ⟨k, -, -, rfl⟩
  · exact numeral_length _ _
  · rw [List.length_cons, numeral_length]
    omega
  · rw [List.length_cons, numeral_length]
    omega

/-- A date without signs is spelled as in a timestamp. -/
lemma eq_numeral_of_not_hasSign {text : List Char} {width : ℕ} {n : ℤ} (h : Spells width n text)
    (hsign : ¬HasSign text) : ∃ k : ℕ, k < 10 ^ width ∧ n = k ∧ text = numeral width k := by
  rcases h with h | ⟨k, -, -, rfl⟩ | ⟨k, -, -, rfl⟩
  · exact h
  · exact absurd (Or.inl rfl) hsign
  · exact absurd (Or.inr rfl) hsign

lemma ok_ofOption_iff {α : Type} {x : Option α} {a : α} : ofOption x = .ok a ↔ x = some a := by
  cases x <;> simp

lemma ofOption_ne_panic {α : Type} (x : Option α) : ofOption x ≠ .error .panic := by
  cases x <;> simp [fail]

/-- A date that the parser of timestamps accepts has no signs. -/
lemma not_signedDate_of_common {value : List Char} {y : ℤ} {month day : ℕ}
    (h : Rfc3339.parseDate value = some (y, month, day)) : ¬SignedDate value := by
  rintro ⟨date, a, b, c, rfl, ha, hb, hc, hsign⟩
  obtain ⟨year, -, -, -, htext⟩ := Timestamps.parseDate_eq_some.mp h
  have halen := spells_length (by omega) ha
  have hblen := spells_length (by omega) hb
  obtain ⟨rfl, hrest⟩ := List.append_inj htext (by rw [halen, numeral_length])
  obtain ⟨rfl, hlast⟩ := List.append_inj (List.cons.inj hrest).2 (by rw [hblen, numeral_length])
  obtain rfl := (List.cons.inj hlast).2
  rcases hsign with hsign | hsign | hsign <;> exact not_hasSign_numeral _ _ hsign

/-- **The parsers agree except on signed dates.** Neither panics on any text; and the simulation's
parser accepts what the parser of timestamps accepts, and as the same day, exactly if the text is
not a real date that is spelled with a sign. -/
theorem parsersAgree_iff (text : String) :
    ParsersAgree text.toList ↔ ¬SignedDate text.toList := by
  generalize text.toList = value
  unfold ParsersAgree
  rw [parseDateBytes_eq, Rfc3339Bytes.parseDate_eq, (parse_bytes value).1]
  simp only [ok_ofOption_iff, ne_eq, ofOption_ne_panic, not_false_eq_true, true_and]
  constructor
  · intro hagree hsigned
    obtain ⟨date, a, b, c, rfl, ha, hb, hc, -⟩ := id hsigned
    obtain ⟨y, month, day, hcommon, -⟩ :=
      (hagree _).mp (parseDate_eq_some.mpr ⟨date, a, b, c, rfl, ha, hb, hc, rfl⟩)
    exact not_signedDate_of_common hcommon hsigned
  · intro hunsigned n
    constructor
    · intro h
      obtain ⟨date, a, b, c, rfl, ha, hb, hc, rfl⟩ := parseDate_eq_some.mp h
      have hsigns : ¬HasSign a ∧ ¬HasSign b ∧ ¬HasSign c := by
        rw [← not_or, ← not_or]
        exact fun hsign => hunsigned ⟨date, a, b, c, rfl, ha, hb, hc, by tauto⟩
      obtain ⟨year, hyear, hyearDate, rfl⟩ := eq_numeral_of_not_hasSign ha hsigns.1
      obtain ⟨month, -, hmonthDate, rfl⟩ := eq_numeral_of_not_hasSign hb hsigns.2.1
      obtain ⟨day, -, hdayDate, rfl⟩ := eq_numeral_of_not_hasSign hc hsigns.2.2
      obtain rfl := Int.natCast_inj.mp hmonthDate
      obtain rfl := Int.natCast_inj.mp hdayDate
      have hreal := date.real
      rw [hyearDate] at hreal ⊢
      exact ⟨year, date.month, date.day,
        Timestamps.parseDate_eq_some.mpr ⟨year, rfl, by omega, hreal, rfl⟩, rfl⟩
    · rintro ⟨y, month, day, hcommon, rfl⟩
      obtain ⟨year, rfl, hyear, hreal, rfl⟩ := Timestamps.parseDate_eq_some.mp hcommon
      obtain ⟨-, hmonth, -, hday⟩ := id hreal
      have hday := hday.trans (monthLength_mem _ _).2
      exact parseDate_eq_some.mpr ⟨⟨year, month, day, hreal⟩, _, _, _, rfl,
        Or.inl ⟨year, by omega, rfl, rfl⟩, Or.inl ⟨month, by omega, rfl, rfl⟩,
        Or.inl ⟨day, by omega, rfl, rfl⟩, rfl⟩

/-- The simulation reads `+025-01-01` as the first day of the year 25, and the parser of timestamps
does not read it. -/
theorem parsers_disagree_on_plus : ¬ParsersAgree "+025-01-01".toList := by
  intro hagree
  have hsimulation : parseDateBytes "+025-01-01".toList = .ok (-710396) := by decide +kernel
  have hcommon : Rfc3339Bytes.parseDate "+025-01-01".toList = .error (.error ()) := by
    decide +kernel
  obtain ⟨y, month, day, hdate, -⟩ := (hagree.2.2 _).mp hsimulation
  rw [hcommon] at hdate
  cases hdate

end MotherApi.SimulationDates
