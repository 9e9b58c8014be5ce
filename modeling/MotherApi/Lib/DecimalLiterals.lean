import MotherApi.Lib.Fractions
import MotherApi.Lib.Splits
import Mathlib.Data.List.DropRight

/-!
Decimal literals: a sign, digits, more digits behind a point, and a power of ten.

A plain literal is one without a power. Every number that a literal denotes is denoted by a plain
one, whose digits are the same but for zeros in front or behind. Zeros at the end are redundant
behind a point and nowhere else.
-/

namespace MotherApi.Lib.DecimalLiterals

open MotherApi.Lib.Numerals MotherApi.Lib.Fractions

instance (cs : List Char) : Decidable (AllDigits cs) :=
  decidable_of_iff (cs.all Char.isDigit = true) List.all_eq_true

/-- `-?digits(.digits)?`. There is a point exactly if there are digits behind it. -/
@[ext]
structure Plain where
  negative : Bool
  whole : List Char
  places : List Char
  whole_ne : whole ≠ []
  allDigits_whole : AllDigits whole
  allDigits_places : AllDigits places

/-- `[eE][+-]?digits`. -/
structure Exponent where
  mark : Char
  sign : List Char
  digits : List Char
  mark_eq : mark = 'E' ∨ mark = 'e'
  sign_eq : sign = [] ∨ sign = ['+'] ∨ sign = ['-']
  digits_ne : digits ≠ []
  allDigits : AllDigits digits

/-- `-?digits(.digits)?([eE][+-]?digits)?`. -/
structure Literal where
  coefficient : Plain
  exponent : Option Exponent

/-! ### Texts and numbers -/

namespace Plain

variable (p : Plain)

def sign : List Char := if p.negative then ['-'] else []

/-- The text without the sign. -/
def unsigned : List Char := p.whole ++ if p.places = [] then [] else '.' :: p.places

def text : List Char := p.sign ++ p.unsigned

def signum : ℚ := if p.negative then -1 else 1

def value : ℚ := p.signum * (number p.whole + fraction p.places)

/-- The digits on both sides of the point. -/
def digits : List Char := p.whole ++ p.places

/-- Without the zeros at the end of the places. -/
def trimmed : Plain :=
  { p with
    places := p.places.rdropWhile (· = '0')
    allDigits_places := fun c hc => p.allDigits_places c ((List.rdropWhile_prefix _ _).subset hc) }

end Plain

namespace Exponent

variable (x : Exponent)

def text : List Char := x.sign ++ x.digits

def power : ℤ := if x.sign = ['-'] then -number x.digits else number x.digits

end Exponent

namespace Literal

variable (l : Literal)

def text : List Char := l.coefficient.text ++
  match l.exponent with
  | none => []
  | some x => x.mark :: x.text

/-- The power of ten, which is zero where it is not written. -/
def power : ℤ := l.exponent.elim 0 Exponent.power

def value : ℚ := l.coefficient.value * 10 ^ l.power

end Literal

/-- The characters, but for those at its end. -/
def trimEnd (c : Char) (text : List Char) : List Char := text.rdropWhile (· = c)

/-! ### Trimming -/

lemma trimEnd_append_cons {c d : Char} (h : d ≠ c) (before after : List Char) :
    trimEnd c (before ++ d :: after) = before ++ d :: trimEnd c after := by
  unfold trimEnd
  induction after using List.reverseRecOn with
  | nil => exact List.rdropWhile_concat_neg _ _ _ (by simpa using h)
  | append_singleton after e ih =>
    rw [← List.cons_append, ← List.append_assoc]
    by_cases he : e = c
    · rw [List.rdropWhile_concat_pos _ _ _ (by simpa using he), ih,
        List.rdropWhile_concat_pos _ _ _ (by simpa using he)]
    · rw [List.rdropWhile_concat_neg _ _ _ (by simpa using he),
        List.rdropWhile_concat_neg _ _ _ (by simpa using he), List.append_assoc, List.cons_append]

lemma trimEnd_eq_self {c : Char} {text : List Char} (h : text.getLast? ≠ some c) :
    trimEnd c text = text := by
  unfold trimEnd
  rw [List.rdropWhile_eq_self_iff]
  intro hne hlast
  rw [List.getLast?_eq_some_getLast hne] at h
  exact h (congrArg some (by simpa using hlast))

lemma getLast?_trimEnd (c : Char) (text : List Char) : (trimEnd c text).getLast? ≠ some c := by
  intro h
  have hne : text.rdropWhile (· = c) ≠ [] := by
    rintro hnil
    rw [trimEnd, hnil] at h
    cases h
  have hlast := List.rdropWhile_last_not _ _ hne
  rw [trimEnd, List.getLast?_eq_some_getLast hne, Option.some.injEq] at h
  exact hlast (by simpa using h)

lemma trimEnd_append_replicate (c : Char) (text : List Char) (k : ℕ) :
    trimEnd c (text ++ List.replicate k c) = trimEnd c text := by
  induction k with
  | zero => rw [List.replicate_zero, List.append_nil]
  | succ k ih =>
    rw [List.replicate_succ', ← List.append_assoc, trimEnd,
      List.rdropWhile_concat_pos _ _ _ (by simp)]
    exact ih

lemma exists_trimEnd (c : Char) (text : List Char) :
    ∃ k, text = trimEnd c text ++ List.replicate k c := by
  refine ⟨(text.rtakeWhile (· = c)).length, ?_⟩
  conv_lhs => rw [← List.rdropWhile_append_rtakeWhile (p := (· = c)) (l := text)]
  congr 1
  exact List.eq_replicate_of_mem fun d hd => by simpa using List.mem_rtakeWhile_imp hd

lemma mem_of_mem_trimEnd {c d : Char} {text : List Char} (h : d ∈ trimEnd c text) : d ∈ text :=
  (List.rdropWhile_prefix _ _).subset h

/-- Every zero at the end makes a number ten times as large. -/
lemma number_trimEnd_lt {cs : List Char} (h : AllDigits cs) (hlast : cs.getLast? = some '0')
    (hne : trimEnd '0' cs ≠ []) : number (trimEnd '0' cs) < number cs := by
  obtain ⟨k, hk⟩ := exists_trimEnd '0' cs
  have hkept := getLast?_trimEnd '0' cs
  have hpos : 0 < number (trimEnd '0' cs) := by
    obtain ⟨init, c, hconcat⟩ := (List.eq_nil_or_concat _).resolve_left hne
    rw [List.concat_eq_append] at hconcat
    have hc : c ≠ '0' := by
      rintro rfl
      exact hkept (by simp [hconcat])
    have hmem : c ∈ trimEnd '0' cs := hconcat ▸ List.mem_append_right _ (List.mem_singleton_self c)
    have hdigit := digit_pos (h c (mem_of_mem_trimEnd hmem)) hc
    rw [hconcat, number_concat]
    omega
  have hk0 : k ≠ 0 := by
    rintro rfl
    rw [List.replicate_zero, List.append_nil] at hk
    exact hkept (hk ▸ hlast)
  have hten : 1 < 10 ^ k := Nat.one_lt_pow hk0 (by omega)
  calc number (trimEnd '0' cs) < number (trimEnd '0' cs) * 10 ^ k := lt_mul_right hpos hten
    _ = number (trimEnd '0' cs ++ List.replicate k '0') := by
      rw [number_append, number_replicate_zero, List.length_replicate, Nat.add_zero]
    _ = number cs := by rw [← hk]

/-! ### Plain literals -/

namespace Plain

variable {p q : Plain}

lemma span_unsigned (p : Plain) :
    p.unsigned.span Char.isDigit = (p.whole, if p.places = [] then [] else '.' :: p.places) := by
  unfold unsigned
  split
  · rw [List.append_nil]
    exact Splits.span_self p.allDigits_whole
  · exact Splits.span_append p.allDigits_whole (by decide)

lemma head?_unsigned (p : Plain) : p.unsigned.head? ≠ some '-' := by
  obtain ⟨c, rest, hwhole⟩ := List.exists_cons_of_ne_nil p.whole_ne
  have hc := p.allDigits_whole c (by simp [hwhole])
  simp only [unsigned, hwhole, List.cons_append, List.head?_cons, ne_eq, Option.some.injEq]
  rintro rfl
  cases hc

lemma unsigned_injective (h : p.unsigned = q.unsigned) :
    p.whole = q.whole ∧ p.places = q.places := by
  have hspan := p.span_unsigned
  rw [h, q.span_unsigned, Prod.mk.injEq] at hspan
  refine ⟨hspan.1.symm, ?_⟩
  have hplaces := hspan.2
  split at hplaces <;> split at hplaces <;> simp_all

/-- A text is the text of one plain literal only. -/
lemma text_injective (h : p.text = q.text) : p = q := by
  have hsign : p.negative = q.negative := by
    have hp := p.head?_unsigned
    have hq := q.head?_unsigned
    have hhead := congrArg List.head? h
    unfold text sign at hhead
    cases hpn : p.negative <;> cases hqn : q.negative <;> simp_all
  have hunsigned : p.unsigned = q.unsigned := by
    unfold text sign at h
    rw [hsign] at h
    exact List.append_cancel_left h
  obtain ⟨hwhole, hplaces⟩ := unsigned_injective hunsigned
  exact Plain.ext hsign hwhole hplaces

lemma signum_ne (p : Plain) : p.signum ≠ 0 := by
  unfold signum
  split <;> norm_num

lemma value_eq (p : Plain) :
    p.value = p.signum * (number p.digits * 10 ^ (-(p.places.length : ℤ))) := by
  unfold value digits fraction
  rw [number_append, zpow_neg, zpow_natCast]
  push_cast
  field_simp

lemma value_trimmed (p : Plain) : p.trimmed.value = p.value := by
  obtain ⟨k, hk⟩ := exists_trimEnd '0' p.places
  have hfraction : fraction p.places = fraction (trimEnd '0' p.places) := by
    conv_lhs => rw [hk]
    exact fraction_append_zeros _ k
  unfold value
  rw [hfraction]
  rfl

/-- Trimming a text with a point trims the places, and then the point if none are left. -/
lemma trimEnd_text (h : p.places ≠ []) : trimEnd '.' (trimEnd '0' p.text) = p.trimmed.text := by
  have hpoint : p.text = (p.sign ++ p.whole) ++ '.' :: p.places := by
    simp [text, unsigned, h]
  have hlast : ∀ c ∈ p.whole.getLast?, c.isDigit = true := fun c hc =>
    p.allDigits_whole c (List.mem_of_getLast? hc)
  rw [hpoint, trimEnd_append_cons (by decide)]
  by_cases hplaces : trimEnd '0' p.places = []
  · have htrimmed : p.trimmed.text = p.sign ++ p.whole := by
      have : p.trimmed.places = [] := hplaces
      simp only [text, unsigned, this, if_true, List.append_nil]
      rfl
    rw [hplaces, htrimmed, trimEnd, List.rdropWhile_concat_pos _ _ _ (by simp)]
    refine trimEnd_eq_self fun hdot => ?_
    rw [List.getLast?_append_of_ne_nil _ p.whole_ne] at hdot
    cases hlast _ hdot
  · have htrimmed : p.trimmed.text = (p.sign ++ p.whole) ++ '.' :: trimEnd '0' p.places := by
      have : p.trimmed.places ≠ [] := hplaces
      simp only [text, unsigned, this, if_false, ← List.append_assoc]
      rfl
    rw [htrimmed]
    refine trimEnd_eq_self fun hdot => ?_
    rw [List.getLast?_append_of_ne_nil _ (by simp), List.getLast?_cons_of_ne_nil hplaces] at hdot
    have hmem : '.' ∈ p.places := by
      obtain ⟨k, hk⟩ := exists_trimEnd '0' p.places
      rw [hk]
      exact List.mem_append_left _ (List.mem_of_getLast? hdot)
    cases p.allDigits_places _ hmem

lemma eq_of_mem_sign {c : Char} (h : c ∈ p.sign) : c = '-' := by
  unfold sign at h
  split at h
  · exact List.mem_singleton.mp h
  · cases h

lemma trimEnd_text_of_places_nil (h : p.places = []) :
    trimEnd '.' (trimEnd '0' p.text) = p.sign ++ trimEnd '0' p.whole := by
  obtain ⟨k, hk⟩ := exists_trimEnd '0' p.whole
  have htext : p.text = (p.sign ++ trimEnd '0' p.whole) ++ List.replicate k '0' := by
    rw [List.append_assoc, ← hk]
    simp [text, unsigned, h]
  have hzeros : trimEnd '0' p.text = p.sign ++ trimEnd '0' p.whole := by
    rw [htext, trimEnd_append_replicate, trimEnd_eq_self]
    intro hzero
    rcases List.mem_append.mp (List.mem_of_getLast? hzero) with hmem | hmem
    · cases eq_of_mem_sign hmem
    · rw [List.getLast?_append_of_ne_nil _ (List.ne_nil_of_mem hmem)] at hzero
      exact getLast?_trimEnd '0' p.whole hzero
  rw [hzeros]
  refine trimEnd_eq_self fun hdot => ?_
  rcases List.mem_append.mp (List.mem_of_getLast? hdot) with hmem | hmem
  · cases eq_of_mem_sign hmem
  · cases p.allDigits_whole _ (mem_of_mem_trimEnd hmem)

/-- Without a point the zeros at the end count: no literal of the number is left. -/
lemma trimEnd_text_of_zero (hplaces : p.places = []) (hlast : p.whole.getLast? = some '0') :
    ¬∃ r : Plain, r.text = trimEnd '.' (trimEnd '0' p.text) ∧ r.value = p.value := by
  rintro ⟨r, htext, hvalue⟩
  rw [trimEnd_text_of_places_nil hplaces] at htext
  by_cases hnil : trimEnd '0' p.whole = []
  · obtain ⟨c, rest, hwhole⟩ := List.exists_cons_of_ne_nil r.whole_ne
    have hc := r.allDigits_whole c (by simp [hwhole])
    have hmem : c ∈ p.sign := by
      rw [hnil, List.append_nil] at htext
      simp [← htext, text, unsigned, hwhole]
    rw [eq_of_mem_sign hmem] at hc
    cases hc
  · let q : Plain := ⟨p.negative, trimEnd '0' p.whole, [], hnil,
      fun c hc => p.allDigits_whole c (mem_of_mem_trimEnd hc), by simp [AllDigits]⟩
    obtain rfl : r = q := text_injective (htext.trans (by simp [text, unsigned, sign, q]))
    have hnumber : p.signum * (number q.whole : ℚ) = p.signum * (number p.whole : ℚ) := by
      unfold value at hvalue
      rwa [hplaces, fraction_nil, add_zero, add_zero] at hvalue
    have hlt := number_trimEnd_lt p.allDigits_whole hlast hnil
    have heq := Nat.cast_injective (mul_left_cancel₀ p.signum_ne hnumber)
    exact absurd heq hlt.ne

/-- Trimming a text keeps its number exactly if there are places to trim, or no zero is at the
end. -/
lemma exists_trimEnd_text_iff (p : Plain) :
    (∃ r : Plain, r.text = trimEnd '.' (trimEnd '0' p.text) ∧ r.value = p.value) ↔
      p.places ≠ [] ∨ p.whole.getLast? ≠ some '0' := by
  by_cases hplaces : p.places = []
  · by_cases hlast : p.whole.getLast? = some '0'
    · simpa [hplaces, hlast] using trimEnd_text_of_zero hplaces hlast
    · refine ⟨fun _ => Or.inr hlast, fun _ => ⟨p, ?_, rfl⟩⟩
      rw [trimEnd_text_of_places_nil hplaces, trimEnd_eq_self hlast]
      simp [text, unsigned, hplaces]
  · exact ⟨fun _ => Or.inl hplaces,
      fun _ => ⟨p.trimmed, (trimEnd_text hplaces).symm, value_trimmed p⟩⟩

/-! ### Moving the point -/

section

variable (negative : Bool) {digits : List Char} (hne : digits ≠ []) (h : AllDigits digits)
  (index : ℤ)

/-- The digits with the point at an index, where zeros make up for digits that are missing. -/
def placed : Plain where
  negative := negative
  whole :=
    if index ≤ 0 then ['0']
    else digits.take index.toNat ++ List.replicate (index.toNat - digits.length) '0'
  places := if index ≤ 0 then List.replicate (-index).toNat '0' ++ digits
    else digits.drop index.toNat
  whole_ne := by
    split
    · simp
    · obtain ⟨c, rest, rfl⟩ := List.exists_cons_of_ne_nil hne
      obtain ⟨n, hn⟩ : ∃ n, index.toNat = n + 1 := ⟨index.toNat - 1, by omega⟩
      simp [hn]
  allDigits_whole := by
    intro c hc
    split at hc
    · rw [List.mem_singleton.mp hc]
      rfl
    · rcases List.mem_append.mp hc with hc | hc
      · exact h c (List.mem_of_mem_take hc)
      · rw [List.eq_of_mem_replicate hc]
        rfl
  allDigits_places := by
    intro c hc
    split at hc
    · rcases List.mem_append.mp hc with hc | hc
      · rw [List.eq_of_mem_replicate hc]
        rfl
      · exact h c hc
    · exact h c (List.mem_of_mem_drop hc)

lemma value_placed : (placed negative hne h index).value =
    (placed negative hne h index).signum * (number digits * 10 ^ (index - digits.length)) := by
  rw [value_eq]
  congr 1
  by_cases hindex : index ≤ 0
  · have hzero : Plain.digits (placed negative hne h index) =
        List.replicate ((-index).toNat + 1) '0' ++ digits := by
      simp [Plain.digits, placed, hindex, List.replicate_succ]
    have hlength : (placed negative hne h index).places.length =
        (-index).toNat + digits.length := by
      simp [placed, hindex]
    rw [hzero, number_zeros_append, hlength]
    congr 2
    push_cast
    omega
  · by_cases hlt : index.toNat < digits.length
    · have hall : Plain.digits (placed negative hne h index) = digits := by
        simp [Plain.digits, placed, hindex, Nat.sub_eq_zero_of_le hlt.le]
      have hlength : (placed negative hne h index).places.length = digits.length - index.toNat := by
        simp [placed, hindex]
      rw [hall, hlength]
      congr 2
      omega
    · have hall : Plain.digits (placed negative hne h index) =
          digits ++ List.replicate (index.toNat - digits.length) '0' := by
        simp [Plain.digits, placed, hindex, List.take_of_length_le (Nat.le_of_not_lt hlt),
          List.drop_of_length_le (Nat.le_of_not_lt hlt)]
      have hlength : (placed negative hne h index).places.length = 0 := by
        simp [placed, hindex]
        omega
      have hpower : index - digits.length = ((index.toNat - digits.length : ℕ) : ℤ) := by omega
      rw [hall, hlength, number_append, number_replicate_zero, hpower, List.length_replicate,
        zpow_natCast]
      push_cast
      ring

end

lemma digits_ne (p : Plain) : p.digits ≠ [] := by
  unfold digits
  exact List.append_ne_nil_of_left_ne_nil p.whole_ne _

lemma allDigits_digits (p : Plain) : AllDigits p.digits := by
  intro c hc
  rcases List.mem_append.mp hc with hc | hc
  · exact p.allDigits_whole c hc
  · exact p.allDigits_places c hc

/-- The point of a literal moved to an index. -/
def movedTo (p : Plain) (index : ℤ) : Plain :=
  placed p.negative p.digits_ne p.allDigits_digits index

/-- Moving the point multiplies by a power of ten. -/
lemma value_movedTo (p : Plain) (index : ℤ) :
    (p.movedTo index).value = p.value * 10 ^ (index - p.whole.length) := by
  have hpower : index - p.digits.length = -(p.places.length : ℤ) + (index - p.whole.length) := by
    unfold digits
    rw [List.length_append]
    push_cast
    ring
  have hsignum : (p.movedTo index).signum = p.signum := rfl
  rw [movedTo, value_placed, ← movedTo, hsignum, value_eq, hpower, zpow_add₀ (by norm_num)]
  ring

end Plain

namespace Literal

/-- The plain literal of the same digits and the same number. -/
def plain (l : Literal) : Plain :=
  match l.exponent with
  | none => l.coefficient
  | some x => l.coefficient.movedTo (l.coefficient.whole.length + x.power)

lemma value_plain (l : Literal) : l.plain.value = l.value := by
  unfold plain value power
  cases l.exponent with
  | none => simp
  | some x =>
    simp only [Plain.value_movedTo, Option.elim_some]
    congr 2
    ring

lemma places_plain (l : Literal) :
    l.plain.places ≠ [] ↔ l.power < l.coefficient.places.length := by
  have hwhole := List.length_pos_iff.mpr l.coefficient.whole_ne
  unfold plain power
  cases l.exponent with
  | none => simp [← List.length_pos_iff]
  | some x =>
    simp only [Plain.movedTo, Plain.placed, Plain.digits, Option.elim_some]
    split
    · simp only [ne_eq, List.append_eq_nil_iff]
      have := l.coefficient.whole_ne
      simp only [this, false_and, and_false, not_false_eq_true, true_iff]
      omega
    · rw [ne_eq, List.drop_eq_nil_iff, List.length_append]
      omega

lemma getLast?_whole_plain {l : Literal} (h : l.plain.places = []) :
    l.plain.whole.getLast? ≠ some '0' ↔
      l.power = l.coefficient.places.length ∧ l.coefficient.digits.getLast? ≠ some '0' := by
  have hpower := (not_congr (places_plain l)).mp (not_not_intro h)
  unfold plain power at *
  cases hexponent : l.exponent with
  | none =>
    simp only [hexponent] at h
    simp [Plain.digits, h]
  | some x =>
    simp only [hexponent, Option.elim_some] at hpower ⊢
    have hwhole := List.length_pos_iff.mpr l.coefficient.whole_ne
    have hlength : l.coefficient.digits.length =
        l.coefficient.whole.length + l.coefficient.places.length := List.length_append
    set index := (l.coefficient.whole.length : ℤ) + x.power
    have hall : (l.coefficient.movedTo index).whole = l.coefficient.digits ++
        List.replicate (index.toNat - l.coefficient.digits.length) '0' := by
      simp only [Plain.movedTo, Plain.placed]
      rw [if_neg (by omega), List.take_of_length_le (by omega)]
    rw [hall]
    by_cases heq : x.power = l.coefficient.places.length
    · rw [show index.toNat - l.coefficient.digits.length = 0 by omega, List.replicate_zero,
        List.append_nil]
      exact ⟨fun hlast => ⟨heq, hlast⟩, fun hlast => hlast.2⟩
    · obtain ⟨k, hk⟩ : ∃ k, index.toNat - l.coefficient.digits.length = k + 1 :=
        ⟨index.toNat - l.coefficient.digits.length - 1, by omega⟩
      rw [hk, List.replicate_succ', ← List.append_assoc]
      simp [heq]

end Literal

end MotherApi.Lib.DecimalLiterals
