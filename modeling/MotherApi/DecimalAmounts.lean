import MotherApi.Decimal
import MotherApi.TransferSearch

/-!
The texts of amounts.

A balance is shown at the decimals of its token, with all of them; a transfer is shown without the
zeros at the end. Both texts say the raw amount, the first at its own scale, so that it can be read
back, and the second at the smallest scale there is, which makes it the shortest text that says it.
-/

namespace MotherApi.DecimalAmounts

open MotherApi.Lib.Numerals MotherApi.Decimal MotherApi.TransferSearch

/-! ### Amounts with all their decimals -/

lemma formatAmount_of_digits {rawAmount : String} (h : isUnsignedInteger rawAmount.toList = true)
    (decimals : ℕ) : ∃ text, formatAmount rawAmount decimals = .ok text ∧
      Renders text.toList (number rawAmount.toList) decimals := by
  have hok : formatAmount rawAmount decimals = .ok (String.ofList
      (formatScaledDigits (normalizeIntegerDigits rawAmount.toList) decimals)) := if_pos h
  exact ⟨_, hok, formatAmount_renders hok⟩

/-- The text is read back as the digits of the amount without their leading zeros. -/
lemma parse_formatAmount {rawAmount text : String} {decimals : ℕ}
    (h : formatAmount rawAmount decimals = .ok text) :
    parseUnsignedDecimal text.toList =
      .ok ⟨normalizeIntegerDigits rawAmount.toList, decimals⟩ := by
  have hraw : isUnsignedInteger rawAmount.toList = true := by
    by_contra hnot
    rw [formatAmount, if_neg hnot] at h
    cases h
  obtain ⟨hd, hr, hnumber⟩ := normalizeIntegerDigits_spec (isUnsignedInteger_iff.mp hraw).2
  obtain ⟨p, hp, hpnumber, hpscale⟩ := (formatAmount_renders h).parse
  obtain ⟨hpd, hpr⟩ := parseUnsignedDecimal_spec hp
  have hdigits : p.digits = normalizeIntegerDigits rawAmount.toList :=
    eq_of_reduced hpd hd hpr hr (hpnumber.trans hnumber.symm)
  rw [hp, ← hdigits, ← hpscale]

lemma formatAmount_eq_iff {left right : String} {decimals : ℕ}
    (hl : isUnsignedInteger left.toList = true) (hr : isUnsignedInteger right.toList = true) :
    formatAmount left decimals = formatAmount right decimals ↔
      number left.toList = number right.toList := by
  obtain ⟨text, htext, hrenders⟩ := formatAmount_of_digits hl decimals
  obtain ⟨text', htext', hrenders'⟩ := formatAmount_of_digits hr decimals
  rw [htext, htext', Except.ok.injEq]
  constructor
  · rintro rfl
    obtain ⟨p, hp, hnumber, -⟩ := hrenders.parse
    obtain ⟨p', hp', hnumber', -⟩ := hrenders'.parse
    rw [hp, Except.ok.injEq] at hp'
    rw [← hnumber, ← hnumber', hp']
  · intro hnumber
    rw [hnumber] at hrenders
    exact String.toList_injective (hrenders.unique hrenders')

/-! ### The shortest text of a number -/

lemma number_parts {integer fraction : List Char} {n scale : ℕ} (hf : AllDigits fraction)
    (hlen : fraction.length = scale) (hn : number integer * 10 ^ scale + number fraction = n) :
    number integer = n / 10 ^ scale ∧ number fraction = n % 10 ^ scale := by
  have hlt : number fraction < 10 ^ scale := hlen ▸ number_lt hf
  rw [← hn, Nat.mul_add_mod_of_lt hlt]
  refine ⟨?_, rfl⟩
  rw [Nat.mul_comm, Nat.mul_add_div (by positivity), Nat.div_eq_of_lt hlt, Nat.add_zero]

/-- A number that does not end in a zero is said at no smaller scale. -/
lemma scale_le_of_trimmed {n m scale scale' : ℕ} (htrimmed : scale = 0 ∨ n % 10 ≠ 0)
    (hsame : n * 10 ^ scale' = m * 10 ^ scale) :
    scale ≤ scale' ∧ m = n * 10 ^ (scale' - scale) := by
  have hle : scale ≤ scale' := by
    by_contra hlt
    rcases htrimmed with hzero | hdigit
    · omega
    · obtain ⟨k, rfl⟩ := Nat.exists_eq_add_of_lt (not_le.mp hlt)
      have hfactor : n * 10 ^ scale' = m * 10 ^ k * 10 * 10 ^ scale' := by
        rw [hsame]
        ring
      have hten : n = m * 10 ^ k * 10 := Nat.eq_of_mul_eq_mul_right (by positivity) hfactor
      omega
  refine ⟨hle, Nat.eq_of_mul_eq_mul_right (show 0 < 10 ^ scale by positivity) ?_⟩
  rw [Nat.mul_assoc, ← pow_add, Nat.sub_add_cancel hle, hsame]

/-- Without a redundant zero on either side, a text is shorter than every other one that says the
same number. -/
lemma shortest_of_trimmed {text other : List Char} {n m scale scale' : ℕ}
    (h : Renders text n scale) (htrimmed : scale = 0 ∨ n % 10 ≠ 0) (hother : Reads other m scale')
    (hsame : n * 10 ^ scale' = m * 10 ^ scale) (hne : other ≠ text) :
    text.length < other.length := by
  obtain ⟨i, f, hi, hri, hf, hlen, hn, rfl⟩ := h
  obtain ⟨i', f', hine, hi', hf', hlen', hm, rfl⟩ := hother
  obtain ⟨hle, hshift⟩ := scale_le_of_trimmed htrimmed hsame
  obtain ⟨hint, hfrac⟩ := number_parts hf hlen hn
  obtain ⟨hint', hfrac'⟩ := number_parts hf' hlen' hm
  have hinteger : number i = number i' := by
    rw [hint, hint', hshift, ← Nat.add_sub_of_le hle, pow_add, Nat.add_sub_cancel_left,
      Nat.mul_div_mul_right _ _ (by positivity)]
  have hilen := length_le_of_reduced hi hi' hri hine hinteger.le
  by_contra hshort
  -- a text that is not longer has its parts as long as these, and then it is this text
  have hsizes : i.length = i'.length ∧ scale = scale' := by
    by_cases hscale : scale = 0 <;> by_cases hscale' : scale' = 0 <;>
      simp only [hscale, hscale', if_true, if_false, List.length_append, List.length_cons] at hshort
    all_goals omega
  obtain ⟨hilen, rfl⟩ := hsizes
  rw [Nat.sub_self, pow_zero, Nat.mul_one] at hshift
  subst hshift
  have hf'f : f' = f :=
    eq_of_number_eq hf' hf (hlen'.trans hlen.symm) (hfrac'.trans hfrac.symm)
  have hi'i : i' = i := eq_of_number_eq hi' hi hilen.symm hinteger.symm
  exact hne (by rw [hf'f, hi'i])

/-! ### Amounts without the zeros at the end -/

/-- The zeros at the end of a fraction: it is all zeros, or what is left of it ends in another
digit. -/
lemma trimmed_fraction {fraction : List Char} (h : AllDigits fraction) :
    ∃ kept k, (fraction.reverse.dropWhile (· == '0')).reverse = kept ∧
      fraction = kept ++ List.replicate k '0' ∧ AllDigits kept ∧
      (kept = [] ∨ number kept % 10 ≠ 0) := by
  obtain ⟨k, hk⟩ := dropWhile_zeros fraction.reverse
  have hsplit : fraction =
      (fraction.reverse.dropWhile (· == '0')).reverse ++ List.replicate k '0' := by
    have hreverse := congrArg List.reverse hk
    rwa [List.reverse_reverse, List.reverse_append, List.reverse_replicate] at hreverse
  have hkept : AllDigits (fraction.reverse.dropWhile (· == '0')).reverse := by
    rw [hsplit] at h
    exact (allDigits_append.mp h).1
  refine ⟨_, k, rfl, hsplit, hkept, ?_⟩
  cases hdrop : fraction.reverse.dropWhile (· == '0') with
  | nil => exact Or.inl rfl
  | cons c rest =>
    rw [hdrop, List.reverse_cons] at hkept
    have hc : c.isDigit = true := hkept c (by simp)
    have hne : c ≠ '0' := by
      have hhead := List.head?_dropWhile_not (· == '0') fraction.reverse
      rw [hdrop] at hhead
      simpa using hhead
    have hpos := digit_pos hc hne
    have hlt := digit_lt hc
    right
    rw [List.reverse_cons, number_concat]
    omega

/-- Trimmed, the text says the same number at a scale where it does not end in a zero. -/
lemma trimTrailingFractionalZeros_renders {text : String} {n scale : ℕ}
    (h : Renders text.toList n scale) :
    ∃ m scale', Renders (trimTrailingFractionalZeros text).toList m scale' ∧
      m * 10 ^ scale = n * 10 ^ scale' ∧ (scale' = 0 ∨ m % 10 ≠ 0) := by
  obtain ⟨i, f, hi, hri, hf, hlen, hn, htext⟩ := id h
  obtain ⟨hpoint, hnone⟩ := span_digits hi f
  unfold trimTrailingFractionalZeros
  by_cases hscale : scale = 0
  · rw [if_pos hscale] at htext
    rw [htext, hnone]
    refine ⟨n, 0, ?_, by rw [hscale], Or.inl rfl⟩
    rwa [hscale] at h
  rw [if_neg hscale] at htext
  obtain ⟨kept, k, hkept, hsplit, hdigits, hend⟩ := trimmed_fraction hf
  have hsize : scale = kept.length + k := by
    rw [← hlen, hsplit, List.length_append, List.length_replicate]
  have hfraction : number f = number kept * 10 ^ k := by
    rw [hsplit, number_append, number_replicate_zero, List.length_replicate, Nat.add_zero]
  have hvalue : (number i * 10 ^ kept.length + number kept) * 10 ^ scale =
      n * 10 ^ kept.length := by
    rw [← hn, hfraction, hsize]
    ring
  rw [htext, hpoint]
  simp only [hkept]
  refine ⟨_, kept.length, ?_, hvalue, ?_⟩
  · rcases hend with rfl | hne
    · exact ⟨i, [], hi, hri, hdigits, rfl, rfl, by simp⟩
    · have hnonempty : kept ≠ [] := by
        rintro rfl
        exact hne rfl
      exact ⟨i, kept, hi, hri, hdigits, rfl, rfl, by simp [hnonempty]⟩
  · rcases hend with rfl | hne
    · exact Or.inl rfl
    · right
      obtain ⟨c, rest, rfl⟩ : ∃ c rest, kept = c :: rest := by
        refine List.exists_cons_of_ne_nil ?_
        rintro rfl
        exact hne rfl
      rw [List.length_cons, pow_succ, ← Nat.mul_assoc, Nat.mul_comm, Nat.mul_add_mod]
      exact hne

lemma decimalAmount_eq_some {rawAmount text : String} {decimals : ℕ} :
    decimalAmount rawAmount decimals = some text ↔
      ∃ full, formatAmount rawAmount decimals = .ok full ∧
        trimTrailingFractionalZeros full = text := by
  unfold decimalAmount
  cases formatAmount rawAmount decimals <;> simp [Except.toOption]

lemma decimalAmount_eq_none {rawAmount : String} {decimals : ℕ} :
    decimalAmount rawAmount decimals = none ↔
      ¬(rawAmount.toList ≠ [] ∧ AllDigits rawAmount.toList) := by
  rw [← isUnsignedInteger_iff]
  unfold decimalAmount formatAmount
  split <;> simp_all [Except.toOption]

/-- **Amounts are formatted so that they can be read back.** The text of a raw amount denotes it
at its decimals, with exactly that many digits after the point, and is read as the digits of the
amount; so at given decimals, amounts have one text exactly if they are one number. The text of a
transfer denotes the same number, and every other decimal that does is longer; there is none
exactly if the amount is not digits. -/
theorem formatAmount_round_trip :
    (∀ (rawAmount : String) decimals, rawAmount.toList ≠ [] → AllDigits rawAmount.toList →
      ∃ text, formatAmount rawAmount decimals = .ok text ∧
        Denotes text (number rawAmount.toList / 10 ^ decimals) decimals ∧
        parseUnsignedDecimal text.toList =
          .ok ⟨normalizeIntegerDigits rawAmount.toList, decimals⟩) ∧
    (∀ (left right : String) decimals, left.toList ≠ [] → AllDigits left.toList →
      right.toList ≠ [] → AllDigits right.toList →
      (formatAmount left decimals = formatAmount right decimals ↔
        number left.toList = number right.toList)) ∧
    (∀ rawAmount decimals, decimalAmount rawAmount decimals = none ↔
      ¬(rawAmount.toList ≠ [] ∧ AllDigits rawAmount.toList)) ∧
    ∀ rawAmount decimals text, decimalAmount rawAmount decimals = some text →
      (∃ scale, Denotes text (number rawAmount.toList / 10 ^ decimals) scale) ∧
      ∀ (other : String) m scale, Reads other.toList m scale →
        (m : ℚ) / 10 ^ scale = number rawAmount.toList / 10 ^ decimals → other ≠ text →
        text.toList.length < other.toList.length := by
  refine ⟨?_, ?_, fun _ _ => decimalAmount_eq_none, ?_⟩
  · intro rawAmount decimals hne hdigits
    obtain ⟨text, htext, hrenders⟩ :=
      formatAmount_of_digits (isUnsignedInteger_iff.mpr ⟨hne, hdigits⟩) decimals
    exact ⟨text, htext, ⟨_, hrenders, rfl⟩, parse_formatAmount htext⟩
  · intro left right decimals hlne hld hrne hrd
    exact formatAmount_eq_iff (isUnsignedInteger_iff.mpr ⟨hlne, hld⟩)
      (isUnsignedInteger_iff.mpr ⟨hrne, hrd⟩)
  · intro rawAmount decimals text htext
    obtain ⟨full, hfull, rfl⟩ := decimalAmount_eq_some.mp htext
    obtain ⟨m, scale, hrenders, hsame, htrimmed⟩ :=
      trimTrailingFractionalZeros_renders (formatAmount_renders hfull)
    have hpow : ∀ k : ℕ, (10 : ℚ) ^ k ≠ 0 := fun k => by positivity
    have hvalue : (m : ℚ) / 10 ^ scale = number rawAmount.toList / 10 ^ decimals := by
      rw [div_eq_div_iff (hpow _) (hpow _)]
      exact_mod_cast hsame
    refine ⟨⟨scale, m, hrenders, hvalue⟩, ?_⟩
    intro other m' scale' hreads hother hne
    refine shortest_of_trimmed hrenders htrimmed hreads ?_
      (fun h => hne (String.toList_injective h))
    rw [← hvalue, div_eq_div_iff (hpow _) (hpow _)] at hother
    exact_mod_cast hother.symm

end MotherApi.DecimalAmounts
