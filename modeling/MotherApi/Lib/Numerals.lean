import Mathlib.Data.Nat.Digits.Lemmas
import Mathlib.Data.List.Induction

/-!
Decimal numerals: lists of digit characters, the most significant first.

A numeral denotes a number. Numerals of one length are as many as the numbers they denote, and
so are the reduced numerals, those without a leading zero; so a numeral of either kind is
determined by its number.
-/

namespace MotherApi.Lib.Numerals

/-- The digit a character stands for. -/
def digit (c : Char) : ℕ := c.toNat - 48

/-- The character of a digit. -/
def digitChar (d : ℕ) : Char := Char.ofNat (48 + d)

def AllDigits (cs : List Char) : Prop := ∀ c ∈ cs, c.isDigit = true

/-- The number a numeral denotes. -/
def number (cs : List Char) : ℕ := cs.foldl (fun n c => n * 10 + digit c) 0

/-- Not empty, and no leading zero but in the numeral of zero. -/
def Reduced (cs : List Char) : Prop := cs = ['0'] ∨ ∃ c rest, cs = c :: rest ∧ c ≠ '0'

/-! ### Digits -/

lemma isDigit_iff {c : Char} : c.isDigit = true ↔ 48 ≤ c.toNat ∧ c.toNat ≤ 57 := by
  simp only [Char.isDigit, Bool.and_eq_true, decide_eq_true_eq, ge_iff_le, UInt32.le_iff_toNat_le]
  rfl

lemma digit_lt {c : Char} (h : c.isDigit = true) : digit c < 10 := by
  have := isDigit_iff.mp h
  unfold digit
  omega

lemma toNat_digitChar {d : ℕ} (h : d < 10) : (digitChar d).toNat = 48 + d := by
  unfold digitChar
  have hv : (48 + d).isValidChar := Or.inl (by omega)
  rw [Char.ofNat, dif_pos hv]
  rfl

lemma digit_digitChar {d : ℕ} (h : d < 10) : digit (digitChar d) = d := by
  rw [digit, toNat_digitChar h]
  omega

lemma isDigit_digitChar {d : ℕ} (h : d < 10) : (digitChar d).isDigit = true := by
  rw [isDigit_iff, toNat_digitChar h]
  omega

lemma eq_of_digit_eq {c c' : Char} (h : c.isDigit = true) (h' : c'.isDigit = true)
    (heq : digit c = digit c') : c = c' := by
  have := isDigit_iff.mp h
  have := isDigit_iff.mp h'
  unfold digit at heq
  have hn : c.toNat = c'.toNat := by omega
  exact Char.ext (UInt32.toNat_inj.mp hn)

lemma digit_pos {c : Char} (h : c.isDigit = true) (hne : c ≠ '0') : 0 < digit c := by
  rw [Nat.pos_iff_ne_zero]
  intro hzero
  exact hne (eq_of_digit_eq h (by decide) (by rw [hzero]; rfl))

/-! ### Numbers -/

lemma foldl_number (n : ℕ) (cs : List Char) :
    cs.foldl (fun n c => n * 10 + digit c) n = n * 10 ^ cs.length + number cs := by
  induction cs generalizing n with
  | nil => simp [number]
  | cons c cs ih =>
    have hcons : number (c :: cs) = digit c * 10 ^ cs.length + number cs := by
      rw [number, List.foldl_cons, Nat.zero_mul, Nat.zero_add, ih]
    rw [List.foldl_cons, ih, hcons, List.length_cons]
    ring

@[simp] lemma number_nil : number [] = 0 := rfl

lemma number_append (a b : List Char) : number (a ++ b) = number a * 10 ^ b.length + number b := by
  rw [number, List.foldl_append, foldl_number]
  rfl

lemma number_cons (c : Char) (cs : List Char) :
    number (c :: cs) = digit c * 10 ^ cs.length + number cs := by
  have := number_append [c] cs
  simpa [number] using this

lemma number_concat (cs : List Char) (c : Char) :
    number (cs ++ [c]) = number cs * 10 + digit c := by
  rw [number_append]
  simp [number]

lemma number_lt {cs : List Char} (h : AllDigits cs) : number cs < 10 ^ cs.length := by
  induction cs with
  | nil => simp
  | cons c cs ih =>
    have hc := digit_lt (h c List.mem_cons_self)
    have hcs := ih fun d hd => h d (List.mem_cons_of_mem _ hd)
    rw [number_cons, List.length_cons, pow_succ]
    have : digit c * 10 ^ cs.length ≤ 9 * 10 ^ cs.length := Nat.mul_le_mul_right _ (by omega)
    omega

@[simp] lemma number_replicate_zero (n : ℕ) : number (List.replicate n '0') = 0 := by
  induction n with
  | zero => rfl
  | succ n ih =>
    rw [List.replicate_succ, number_cons, ih]
    simp [digit]

lemma number_zeros_append (n : ℕ) (cs : List Char) :
    number (List.replicate n '0' ++ cs) = number cs := by
  rw [number_append, number_replicate_zero, Nat.zero_mul, Nat.zero_add]

/-- Numerals of one length are determined by their numbers. -/
lemma eq_of_number_eq {a b : List Char} (ha : AllDigits a) (hb : AllDigits b)
    (hlen : a.length = b.length) (hn : number a = number b) : a = b := by
  induction a using List.reverseRecOn generalizing b with
  | nil => exact (List.length_eq_zero_iff.mp hlen.symm).symm
  | append_singleton a c ih =>
    obtain ⟨b, d, rfl⟩ : ∃ b' d, b = b' ++ [d] := by
      rcases List.eq_nil_or_concat b with rfl | ⟨b', d, rfl⟩
      · simp at hlen
      · exact ⟨b', d, List.concat_eq_append⟩
    have hc := digit_lt (ha c (by simp))
    have hd := digit_lt (hb d (by simp))
    rw [number_concat, number_concat] at hn
    have hrest : a = b := by
      refine ih (fun e he => ha e (by simp [he])) (fun e he => hb e (by simp [he])) ?_ (by omega)
      simpa using hlen
    have hlast : c = d := eq_of_digit_eq (ha c (by simp)) (hb d (by simp)) (by omega)
    rw [hrest, hlast]

lemma pow_le_number {c : Char} (hc : c.isDigit = true) (hne : c ≠ '0') (rest : List Char) :
    10 ^ rest.length ≤ number (c :: rest) := by
  have hpos := digit_pos hc hne
  rw [number_cons]
  calc 10 ^ rest.length = 1 * 10 ^ rest.length := (Nat.one_mul _).symm
    _ ≤ digit c * 10 ^ rest.length := Nat.mul_le_mul_right _ hpos
    _ ≤ digit c * 10 ^ rest.length + number rest := Nat.le_add_right _ _

lemma length_le_of_reduced {a b : List Char} (ha : AllDigits a) (hb : AllDigits b)
    (hra : Reduced a) (hne : b ≠ []) (hle : number a ≤ number b) : a.length ≤ b.length := by
  rcases hra with rfl | ⟨c, rest, rfl, hc⟩
  · exact List.length_pos_iff.mpr hne
  · have hlow := pow_le_number (ha c List.mem_cons_self) hc rest
    have hhigh := number_lt hb
    have := (Nat.pow_lt_pow_iff_right (show 1 < 10 by omega)).mp
      (lt_of_le_of_lt (le_trans hlow hle) hhigh)
    simpa using this

lemma Reduced.ne_nil {cs : List Char} (h : Reduced cs) : cs ≠ [] := by
  rcases h with rfl | ⟨c, rest, rfl, -⟩ <;> simp

lemma eq_of_reduced {a b : List Char} (ha : AllDigits a) (hb : AllDigits b) (hra : Reduced a)
    (hrb : Reduced b) (hn : number a = number b) : a = b := by
  have hab := length_le_of_reduced ha hb hra hrb.ne_nil (le_of_eq hn)
  have hba := length_le_of_reduced hb ha hrb hra.ne_nil (le_of_eq hn.symm)
  exact eq_of_number_eq ha hb (le_antisymm hab hba) hn

/-! ### Lists of digits, the least significant first -/

lemma allDigits_map_digitChar {ds : List ℕ} (h : ∀ d ∈ ds, d < 10) :
    AllDigits (ds.map digitChar) := by
  intro c hc
  obtain ⟨d, hd, rfl⟩ := List.mem_map.mp hc
  exact isDigit_digitChar (h d hd)

lemma number_reverse_map_digitChar {ds : List ℕ} (h : ∀ d ∈ ds, d < 10) :
    number (ds.reverse.map digitChar) = Nat.ofDigits 10 ds := by
  induction ds with
  | nil => rfl
  | cons d ds ih =>
    rw [List.reverse_cons, List.map_append, List.map_singleton, number_concat,
      ih fun e he => h e (List.mem_cons_of_mem _ he), digit_digitChar (h d List.mem_cons_self),
      Nat.ofDigits_cons]
    ring

lemma ofDigits_reverse_map_digit (cs : List Char) :
    Nat.ofDigits 10 (cs.reverse.map digit) = number cs := by
  induction cs using List.reverseRecOn with
  | nil => rfl
  | append_singleton cs c ih =>
    rw [List.reverse_append, List.reverse_singleton, List.singleton_append, List.map_cons,
      Nat.ofDigits_cons, ih, number_concat]
    ring

/-! ### Numerals of a fixed width -/

/-- The last digits of a number, with zeros in front of it. -/
def numeral : ℕ → ℕ → List Char
  | 0, _ => []
  | width + 1, n => numeral width (n / 10) ++ [digitChar (n % 10)]

@[simp] lemma numeral_length (width n : ℕ) : (numeral width n).length = width := by
  induction width generalizing n with
  | zero => rfl
  | succ width ih => simp [numeral, ih]

lemma allDigits_numeral (width n : ℕ) : AllDigits (numeral width n) := by
  induction width generalizing n with
  | zero => simp [numeral, AllDigits]
  | succ width ih =>
    intro c hc
    rcases List.mem_append.mp hc with hc | hc
    · exact ih _ c hc
    · rw [List.mem_singleton.mp hc]
      exact isDigit_digitChar (Nat.mod_lt _ (by omega))

lemma number_numeral {width n : ℕ} (h : n < 10 ^ width) : number (numeral width n) = n := by
  induction width generalizing n with
  | zero =>
    rw [pow_zero] at h
    simp only [numeral, number_nil]
    omega
  | succ width ih =>
    rw [pow_succ] at h
    rw [numeral, number_concat, ih (Nat.div_lt_of_lt_mul (by omega)),
      digit_digitChar (Nat.mod_lt _ (by omega))]
    omega

lemma numeral_number {cs : List Char} (h : AllDigits cs) : numeral cs.length (number cs) = cs :=
  eq_of_number_eq (allDigits_numeral _ _) h (numeral_length _ _) (number_numeral (number_lt h))

end MotherApi.Lib.Numerals
