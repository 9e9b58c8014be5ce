import MotherApi.Lib.Fallible
import MotherApi.Lib.Numerals
import MotherApi.Lib.Splits
import MotherApi.Strings
import Mathlib.Algebra.Order.Field.Basic
import Mathlib.Data.Rat.Defs

/-!
Exact decimal arithmetic on texts.

A decimal text is a numeral, or two numerals around a point. The functions of the service work
on the digits; what they denote is a number of units at a scale, and the text they give is the
only one of that number and that scale without a redundant leading zero.
-/

namespace MotherApi.Decimal

open MotherApi.Lib.Fallible MotherApi.Lib.Numerals MotherApi.Strings

inductive DecimalError
  | invalidUnsignedInteger | invalidUnsignedDecimal
  deriving DecidableEq

structure ParsedDecimal where
  digits : List Char
  scale : ℕ
  deriving DecidableEq

/-! ### The code -/

def isUnsignedInteger (value : List Char) : Bool := !value.isEmpty && value.all isAsciiDigit

def normalizeIntegerDigits (value : List Char) : List Char :=
  let normalized := value.dropWhile (· == '0')
  if normalized.isEmpty then ['0'] else normalized

def formatScaledDigits (digits : List Char) (scale : ℕ) : List Char :=
  if scale = 0 then digits
  else if digits.length ≤ scale then
    ['0', '.'] ++ List.replicate (scale - digits.length) '0' ++ digits
  else
    let split := digits.length - scale
    digits.take split ++ '.' :: digits.drop split

/-- The text is split at its first point. -/
def parseUnsignedDecimal (value : List Char) : Except DecimalError ParsedDecimal :=
  match value.span (· != '.') with
  | (integer, []) =>
    if isUnsignedInteger integer then .ok ⟨normalizeIntegerDigits integer, 0⟩
    else .error .invalidUnsignedDecimal
  | (integer, _ :: fraction) =>
    if isUnsignedInteger integer && isUnsignedInteger fraction then
      .ok ⟨normalizeIntegerDigits (integer ++ fraction), fraction.length⟩
    else .error .invalidUnsignedDecimal

/-- The rounds of `add_integer_digits` with one operand left, on its digits from the last to the
first. A carry is at most one, so the round after the operand has ended is the last. -/
def carryDigits : List ℕ → ℕ → List ℕ
  | [], carry => if carry = 0 then [] else [carry % 10]
  | d :: rest, carry => (d + carry) % 10 :: carryDigits rest ((d + carry) / 10)

/-- The loop of `add_integer_digits`. -/
def addDigits : List ℕ → List ℕ → ℕ → List ℕ
  | [], right, carry => carryDigits right carry
  | l :: left, [], carry => carryDigits (l :: left) carry
  | l :: left, r :: right, carry =>
    (l + r + carry) % 10 :: addDigits left right ((l + r + carry) / 10)

def addIntegerDigits (left right : List Char) : List Char :=
  (addDigits (left.reverse.map digit) (right.reverse.map digit) 0).reverse.map digitChar

/-- One row of the product: `l` times the digits of `right`, added to the cells from here on.
Cells are 32 bits wide and wrap. -/
def addRow : List ℕ → ℕ → List ℕ → List ℕ
  | cell :: cells, l, r :: right => (cell + l * r) % 2 ^ 32 :: addRow cells l right
  | cells, _, _ => cells

/-- The cells of the product; each row starts one cell after the one before. -/
def productCells : List ℕ → List ℕ → List ℕ → List ℕ
  | [], _, cells => cells
  | l :: left, right, cells =>
    match addRow cells l right with
    | [] => []
    | cell :: rest => cell :: productCells left right rest

/-- The pass over the cells, with the carry into the first of them. -/
def carryPass (carry : ℕ) : List ℕ → List ℕ
  | [] => []
  | [cell] => [(cell + carry) % 2 ^ 32]
  | cell :: next :: rest =>
    let cell := (cell + carry) % 2 ^ 32
    cell % 10 :: carryPass (cell / 10) (next :: rest)

/-- The digit of the last cell is converted with `u8::try_from(digit).expect(..)`. -/
def productDigit (cell : ℕ) : Except (Halt DecimalError) Char :=
  if cell < 256 then .ok (digitChar cell) else .error .panic

def multiplyIntegerDigits (left right : List Char) : Except (Halt DecimalError) (List Char) :=
  let left := normalizeIntegerDigits left
  let right := normalizeIntegerDigits right
  if left = ['0'] ∨ right = ['0'] then .ok ['0']
  else
    let left := left.reverse.map digit
    let right := right.reverse.map digit
    let product := productCells left right (List.replicate (left.length + right.length) 0)
    ((carryPass 0 product).reverse.dropWhile (· == 0)).mapM productDigit

def formatAmount (rawAmount : String) (decimals : ℕ) : Except DecimalError String :=
  if isUnsignedInteger rawAmount.toList then
    .ok (String.ofList (formatScaledDigits (normalizeIntegerDigits rawAmount.toList) decimals))
  else .error .invalidUnsignedInteger

/-- Trailing zeros go while the scale is above the smallest. -/
def trimScale (minimumScale : ℕ) : List Char → ℕ → List Char × ℕ
  | product, 0 => (product, 0)
  | product, scale + 1 =>
    if minimumScale < scale + 1 ∧ product.getLast? = some '0' then
      trimScale minimumScale product.dropLast scale
    else (product, scale + 1)

def multiplyAmountByPrice (rawAmount : String) (balanceDecimals : ℕ) (unitPrice : String) :
    Except (Halt DecimalError) String :=
  if isUnsignedInteger rawAmount.toList then do
    let price ← lift (parseUnsignedDecimal unitPrice.toList)
    let product ← multiplyIntegerDigits rawAmount.toList price.digits
    let (product, scale) :=
      if product = ['0'] then (product, balanceDecimals)
      else trimScale balanceDecimals product (balanceDecimals + price.scale)
    return String.ofList (formatScaledDigits product scale)
  else .error (.error .invalidUnsignedInteger)

def addUnsignedDecimals (left right : String) : Except DecimalError String := do
  let left ← parseUnsignedDecimal left.toList
  let right ← parseUnsignedDecimal right.toList
  let scale := max left.scale right.scale
  let leftDigits := left.digits ++ List.replicate (scale - left.scale) '0'
  let rightDigits := right.digits ++ List.replicate (scale - right.scale) '0'
  return String.ofList (formatScaledDigits (addIntegerDigits leftDigits rightDigits) scale)

/-! ### Texts and what they denote -/

/-- The text of `n` units at `scale`: an integer part without a redundant leading zero, and
`scale` digits after the point. -/
def Renders (text : List Char) (n scale : ℕ) : Prop :=
  ∃ integer fraction, AllDigits integer ∧ Reduced integer ∧ AllDigits fraction ∧
    fraction.length = scale ∧ number integer * 10 ^ scale + number fraction = n ∧
    text = if scale = 0 then integer else integer ++ '.' :: fraction

/-- Only one text renders a number at a scale. -/
lemma Renders.unique {text text' : List Char} {n scale : ℕ} (h : Renders text n scale)
    (h' : Renders text' n scale) : text = text' := by
  obtain ⟨i, f, hi, hri, hf, hlen, hn, rfl⟩ := h
  obtain ⟨i', f', hi', hri', hf', hlen', hn', rfl⟩ := h'
  have hmod : number f = n % 10 ^ scale := by
    rw [← hn, Nat.mul_add_mod_of_lt (by rw [← hlen]; exact number_lt hf)]
  have hmod' : number f' = n % 10 ^ scale := by
    rw [← hn', Nat.mul_add_mod_of_lt (by rw [← hlen']; exact number_lt hf')]
  have hfrac : f = f' := eq_of_number_eq hf hf' (hlen.trans hlen'.symm) (hmod.trans hmod'.symm)
  have hint : number i = number i' := by
    have hmul : number i * 10 ^ scale = number i' * 10 ^ scale := by omega
    exact Nat.eq_of_mul_eq_mul_right (by positivity) hmul
  rw [hfrac, eq_of_reduced hi hi' hri hri' hint]

lemma isUnsignedInteger_iff {value : List Char} :
    isUnsignedInteger value = true ↔ value ≠ [] ∧ AllDigits value := by
  simp [isUnsignedInteger, isAsciiDigit, AllDigits]

lemma dropWhile_zeros (value : List Char) :
    ∃ k, value = List.replicate k '0' ++ value.dropWhile (· == '0') := by
  induction value with
  | nil => exact ⟨0, rfl⟩
  | cons c value ih =>
    by_cases hc : c = '0'
    · obtain ⟨k, hk⟩ := ih
      refine ⟨k + 1, ?_⟩
      rw [List.dropWhile_cons_of_pos (by simp [hc]), List.replicate_succ, List.cons_append, ← hk,
        hc]
    · exact ⟨0, by rw [List.dropWhile_cons_of_neg (by simp [hc])]; rfl⟩

lemma normalizeIntegerDigits_spec {value : List Char} (h : AllDigits value) :
    AllDigits (normalizeIntegerDigits value) ∧ Reduced (normalizeIntegerDigits value) ∧
      number (normalizeIntegerDigits value) = number value := by
  obtain ⟨k, hk⟩ := dropWhile_zeros value
  have hnumber : number (value.dropWhile (· == '0')) = number value := by
    conv_rhs => rw [hk]
    rw [number_zeros_append]
  unfold normalizeIntegerDigits
  cases hd : value.dropWhile (· == '0') with
  | nil =>
    rw [hd] at hnumber
    refine ⟨?_, Or.inl rfl, by rw [← hnumber]; rfl⟩
    intro c hc
    rw [List.mem_singleton.mp hc]
    decide
  | cons c rest =>
    rw [hd] at hnumber
    refine ⟨?_, Or.inr ⟨c, rest, rfl, ?_⟩, hnumber⟩
    · intro d hmem
      have hmem : d ∈ value.dropWhile (· == '0') := by
        rw [hd]
        exact hmem
      exact h d ((List.dropWhile_sublist _).subset hmem)
    · intro hc
      have := List.head?_dropWhile_not (· == '0') value
      rw [hd] at this
      simp [hc] at this

lemma allDigits_append {a b : List Char} : AllDigits (a ++ b) ↔ AllDigits a ∧ AllDigits b := by
  simp [AllDigits, or_imp, forall_and]

lemma allDigits_zeros (n : ℕ) : AllDigits (List.replicate n '0') := by
  intro c hc
  rw [List.eq_of_mem_replicate hc]
  decide

/-- Digits are rendered at a scale if they are reduced, or just too short for an integer
part. -/
lemma formatScaledDigits_renders {digits : List Char} {scale : ℕ} (hd : AllDigits digits)
    (hne : digits ≠ []) (hor : Reduced digits ∨ digits.length ≤ scale + 1) :
    Renders (formatScaledDigits digits scale) (number digits) scale := by
  have hlen := List.length_pos_iff.mpr hne
  unfold formatScaledDigits
  by_cases hscale : scale = 0
  · subst hscale
    refine ⟨digits, [], hd, ?_, by simp [AllDigits], rfl, by simp, rfl⟩
    rcases hor with hred | hshort
    · exact hred
    · obtain ⟨c, rfl⟩ := List.length_eq_one_iff.mp (show digits.length = 1 by omega)
      by_cases hc : c = '0'
      · exact Or.inl (by rw [hc])
      · exact Or.inr ⟨c, [], rfl, hc⟩
  rw [if_neg hscale]
  by_cases hle : digits.length ≤ scale
  · rw [if_pos hle]
    refine ⟨['0'], List.replicate (scale - digits.length) '0' ++ digits, by simp [AllDigits],
      Or.inl rfl, allDigits_append.mpr ⟨allDigits_zeros _, hd⟩, by simp; omega, ?_, ?_⟩
    · rw [number_zeros_append, number_cons]
      simp [digit]
    · simp [hscale]
  · rw [if_neg hle]
    have hsplit : digits.take (digits.length - scale) ++ digits.drop (digits.length - scale) =
      digits := List.take_append_drop _ _
    have hboth := allDigits_append.mp (by rw [hsplit]; exact hd)
    refine ⟨digits.take (digits.length - scale), digits.drop (digits.length - scale), hboth.1, ?_,
      hboth.2, by rw [List.length_drop]; omega, ?_, by simp [hscale]⟩
    · obtain ⟨c, rest, rfl⟩ := List.exists_cons_of_ne_nil hne
      obtain ⟨k, hk⟩ : ∃ k, (c :: rest).length - scale = k + 1 :=
        ⟨(c :: rest).length - scale - 1, by omega⟩
      rw [hk, List.take_succ_cons]
      by_cases hc : c = '0'
      · -- a leading zero is only there when it is the whole integer part
        left
        rcases hor with (hred | ⟨c', rest', hcons, hne'⟩) | hshort
        · simp only [hred, List.length_singleton] at hle
          omega
        · simp only [List.cons.injEq] at hcons
          exact absurd (hcons.1 ▸ hc) hne'
        · have : k = 0 := by omega
          simp [this, hc]
      · exact Or.inr ⟨c, rest.take k, rfl, hc⟩
    · have hdrop : (digits.drop (digits.length - scale)).length = scale := by
        rw [List.length_drop]
        omega
      conv_rhs => rw [← hsplit]
      rw [number_append, hdrop]

lemma formatScaledDigits_reduced {digits : List Char} (hd : AllDigits digits)
    (hr : Reduced digits) (scale : ℕ) :
    Renders (formatScaledDigits digits scale) (number digits) scale :=
  formatScaledDigits_renders hd hr.ne_nil (Or.inl hr)

/-! ### Reading -/

lemma parseUnsignedDecimal_spec {value : List Char} {p : ParsedDecimal}
    (h : parseUnsignedDecimal value = .ok p) : AllDigits p.digits ∧ Reduced p.digits := by
  unfold parseUnsignedDecimal at h
  split at h
  · split at h
    · rename_i hd
      simp only [Except.ok.injEq] at h
      rw [← h]
      obtain ⟨h1, h2, -⟩ := normalizeIntegerDigits_spec (isUnsignedInteger_iff.mp hd).2
      exact ⟨h1, h2⟩
    · cases h
  · split at h
    · rename_i hd
      simp only [Bool.and_eq_true] at hd
      simp only [Except.ok.injEq] at h
      rw [← h]
      obtain ⟨h1, h2, -⟩ := normalizeIntegerDigits_spec (allDigits_append.mpr
        ⟨(isUnsignedInteger_iff.mp hd.1).2, (isUnsignedInteger_iff.mp hd.2).2⟩)
      exact ⟨h1, h2⟩
    · cases h

lemma span_digits {integer : List Char} (h : AllDigits integer) (rest : List Char) :
    (integer ++ '.' :: rest).span (· != '.') = (integer, '.' :: rest) ∧
      integer.span (· != '.') = (integer, []) := by
  have hne : ∀ c ∈ integer, (c != '.') = true := by
    intro c hc
    have := h c hc
    rw [bne_iff_ne]
    rintro rfl
    simp at this
  exact ⟨Lib.Splits.span_append hne rfl, Lib.Splits.span_self hne⟩

/-- Digits, or digits around a point. -/
def IsDecimal (text : List Char) : Prop :=
  (text ≠ [] ∧ AllDigits text) ∨ ∃ integer fraction, integer ≠ [] ∧ fraction ≠ [] ∧
    AllDigits integer ∧ AllDigits fraction ∧ text = integer ++ '.' :: fraction

/-- The text says `n` units at `scale`, with any number of leading zeros. -/
def Reads (text : List Char) (n scale : ℕ) : Prop :=
  ∃ integer fraction, integer ≠ [] ∧ AllDigits integer ∧ AllDigits fraction ∧
    fraction.length = scale ∧ number integer * 10 ^ scale + number fraction = n ∧
    text = if scale = 0 then integer else integer ++ '.' :: fraction

lemma Renders.reads {text : List Char} {n scale : ℕ} (h : Renders text n scale) :
    Reads text n scale := by
  obtain ⟨i, f, hi, hri, hf, hlen, hn, htext⟩ := h
  exact ⟨i, f, hri.ne_nil, hi, hf, hlen, hn, htext⟩

lemma isDecimal_iff {text : List Char} : IsDecimal text ↔ ∃ n scale, Reads text n scale := by
  constructor
  · rintro (⟨hne, hd⟩ | ⟨i, f, hi, hf, hdi, hdf, rfl⟩)
    · exact ⟨_, 0, text, [], hne, hd, by simp [AllDigits], rfl, rfl, rfl⟩
    · refine ⟨_, f.length, i, f, hi, hdi, hdf, rfl, rfl, ?_⟩
      rw [if_neg (by simpa using hf)]
  · rintro ⟨n, scale, i, f, hi, hdi, hdf, hlen, -, rfl⟩
    by_cases hscale : scale = 0
    · rw [if_pos hscale]
      exact Or.inl ⟨hi, hdi⟩
    · rw [if_neg hscale]
      refine Or.inr ⟨i, f, hi, ?_, hdi, hdf, rfl⟩
      rintro rfl
      exact hscale hlen.symm

lemma Reads.parse {text : List Char} {n scale : ℕ} (h : Reads text n scale) :
    ∃ p, parseUnsignedDecimal text = .ok p ∧ number p.digits = n ∧ p.scale = scale := by
  obtain ⟨i, f, hine, hi, hf, hlen, hn, rfl⟩ := h
  have hiu : isUnsignedInteger i = true := isUnsignedInteger_iff.mpr ⟨hine, hi⟩
  unfold parseUnsignedDecimal
  by_cases hscale : scale = 0
  · subst hscale
    rw [if_pos rfl, (span_digits hi f).2]
    simp only [hiu, if_true]
    refine ⟨_, rfl, ?_, rfl⟩
    rw [(normalizeIntegerDigits_spec hi).2.2, ← hn, List.length_eq_zero_iff.mp hlen]
    simp
  · rw [if_neg hscale, (span_digits hi f).1]
    have hfu : isUnsignedInteger f = true := by
      refine isUnsignedInteger_iff.mpr ⟨?_, hf⟩
      rintro rfl
      exact hscale hlen.symm
    simp only [hiu, hfu, Bool.and_self, if_true]
    refine ⟨_, rfl, ?_, hlen⟩
    rw [(normalizeIntegerDigits_spec (allDigits_append.mpr ⟨hi, hf⟩)).2.2, number_append, hlen, hn]

lemma Renders.parse {text : List Char} {n scale : ℕ} (h : Renders text n scale) :
    ∃ p, parseUnsignedDecimal text = .ok p ∧ number p.digits = n ∧ p.scale = scale :=
  h.reads.parse

lemma reads_of_parse {text : List Char} {p : ParsedDecimal}
    (h : parseUnsignedDecimal text = .ok p) : Reads text (number p.digits) p.scale := by
  unfold parseUnsignedDecimal at h
  split at h
  · rename_i integer heq
    obtain ⟨rfl, -⟩ := Lib.Splits.of_span_eq heq
    split at h
    · rename_i hd
      cases h
      obtain ⟨hne, hdigits⟩ := isUnsignedInteger_iff.mp hd
      refine ⟨integer, [], hne, hdigits, by simp [AllDigits], rfl, ?_, by simp⟩
      simp [(normalizeIntegerDigits_spec hdigits).2.2]
    · cases h
  · rename_i integer point fraction heq
    obtain ⟨rfl, -, hpoint⟩ := Lib.Splits.of_span_eq heq
    have hpoint : point = '.' := by simpa using hpoint point rfl
    subst hpoint
    split at h
    · rename_i hd
      cases h
      rw [Bool.and_eq_true] at hd
      obtain ⟨hine, hi⟩ := isUnsignedInteger_iff.mp hd.1
      obtain ⟨hfne, hf⟩ := isUnsignedInteger_iff.mp hd.2
      refine ⟨integer, fraction, hine, hi, hf, rfl, ?_, ?_⟩
      · rw [(normalizeIntegerDigits_spec (allDigits_append.mpr ⟨hi, hf⟩)).2.2, number_append]
      · rw [if_neg (by simpa using hfne)]
    · cases h

lemma parseUnsignedDecimal_error {text : List Char} {error : DecimalError}
    (h : parseUnsignedDecimal text = .error error) : error = .invalidUnsignedDecimal := by
  unfold parseUnsignedDecimal at h
  split at h <;> split at h <;> cases h
  · rfl
  · rfl

/-- A text is read exactly if it is a decimal. -/
lemma exists_parse_iff {text : List Char} :
    (∃ p, parseUnsignedDecimal text = .ok p) ↔ IsDecimal text := by
  rw [isDecimal_iff]
  constructor
  · rintro ⟨p, hp⟩
    exact ⟨_, _, reads_of_parse hp⟩
  · rintro ⟨n, scale, hreads⟩
    obtain ⟨p, hp, -⟩ := hreads.parse
    exact ⟨p, hp⟩

/-! ### Adding -/

lemma digitsOf_cons {s m : ℕ} {rest : List ℕ} (hrest : ∀ d ∈ rest, d < 10)
    (hlen : rest.length = m ∨ (rest.length = m + 1 ∧ 10 ^ m ≤ Nat.ofDigits 10 rest)) :
    (∀ d ∈ s % 10 :: rest, d < 10) ∧
      ((s % 10 :: rest).length = m + 1 ∨ ((s % 10 :: rest).length = m + 1 + 1 ∧
        10 ^ (m + 1) ≤ Nat.ofDigits 10 (s % 10 :: rest))) := by
  refine ⟨?_, ?_⟩
  · intro d hd
    rcases List.mem_cons.mp hd with rfl | hd
    · omega
    · exact hrest d hd
  · rcases hlen with hlen | ⟨hlen, hle⟩
    · exact Or.inl (by simp [hlen])
    · refine Or.inr ⟨by simp [hlen], ?_⟩
      rw [Nat.ofDigits_cons, pow_succ]
      omega

lemma carryDigits_spec {digits : List ℕ} {carry : ℕ} (hdigits : ∀ d ∈ digits, d < 10)
    (hc : carry ≤ 1) :
    (∀ d ∈ carryDigits digits carry, d < 10) ∧
      Nat.ofDigits 10 (carryDigits digits carry) = Nat.ofDigits 10 digits + carry ∧
      ((carryDigits digits carry).length = digits.length ∨
        ((carryDigits digits carry).length = digits.length + 1 ∧
          10 ^ digits.length ≤ Nat.ofDigits 10 (carryDigits digits carry))) := by
  fun_induction carryDigits digits carry with
  | case1 => simp
  | case2 carry hne =>
    have : carry = 1 := by omega
    simp [this]
  | case3 d rest carry ih =>
    have hd0 := hdigits d List.mem_cons_self
    obtain ⟨h1, h2, h3⟩ := ih (fun e he => hdigits e (List.mem_cons_of_mem _ he)) (by omega)
    obtain ⟨hd, hlen⟩ := digitsOf_cons (s := d + carry) h1 h3
    refine ⟨hd, ?_, by simpa using hlen⟩
    rw [Nat.ofDigits_cons, h2, Nat.ofDigits_cons]
    omega

/-- The digits of the sum, their number, and how many they are: as many as the longer operand
has, or one more that is not zero. -/
lemma addDigits_spec {left right : List ℕ} {carry : ℕ} (hl : ∀ d ∈ left, d < 10)
    (hr : ∀ d ∈ right, d < 10) (hc : carry ≤ 1) :
    (∀ d ∈ addDigits left right carry, d < 10) ∧
      Nat.ofDigits 10 (addDigits left right carry) =
        Nat.ofDigits 10 left + Nat.ofDigits 10 right + carry ∧
      ((addDigits left right carry).length = max left.length right.length ∨
        ((addDigits left right carry).length = max left.length right.length + 1 ∧
          10 ^ max left.length right.length ≤ Nat.ofDigits 10 (addDigits left right carry))) := by
  fun_induction addDigits left right carry with
  | case1 right carry => simpa using carryDigits_spec hr hc
  | case2 l left carry => simpa using carryDigits_spec hl hc
  | case3 l left r right carry ih =>
    have hl0 := hl l List.mem_cons_self
    have hr0 := hr r List.mem_cons_self
    obtain ⟨h1, h2, h3⟩ := ih (fun d hd => hl d (List.mem_cons_of_mem _ hd))
      (fun d hd => hr d (List.mem_cons_of_mem _ hd)) (by omega)
    obtain ⟨hd, hlen⟩ := digitsOf_cons (s := l + r + carry) h1 h3
    refine ⟨hd, ?_, by simpa [Nat.succ_max_succ] using hlen⟩
    rw [Nat.ofDigits_cons, h2, Nat.ofDigits_cons, Nat.ofDigits_cons]
    omega

lemma digits_lt {cs : List Char} (h : AllDigits cs) : ∀ d ∈ cs.reverse.map digit, d < 10 := by
  intro d hd
  obtain ⟨c, hc, rfl⟩ := List.mem_map.mp hd
  exact digit_lt (h c (List.mem_reverse.mp hc))

lemma reduced_of_le {cs : List Char} (hd : AllDigits cs) (hne : cs ≠ [])
    (h : 10 ^ (cs.length - 1) ≤ number cs) : Reduced cs := by
  obtain ⟨c, rest, rfl⟩ := List.exists_cons_of_ne_nil hne
  by_cases hc : c = '0'
  · subst hc
    have hlt : number rest < 10 ^ rest.length :=
      number_lt fun d hd' => hd d (List.mem_cons_of_mem _ hd')
    rw [number_cons] at h
    simp [digit] at h
    omega
  · exact Or.inr ⟨c, rest, rfl, hc⟩

lemma padded_length {digits : List Char} {scale k : ℕ} (hd : AllDigits digits)
    (hr : Reduced digits) (hk : k ≤ scale) :
    (digits ++ List.replicate k '0').length ≤ scale + 1 ∨
      10 ^ ((digits ++ List.replicate k '0').length - 1) ≤
        number (digits ++ List.replicate k '0') := by
  rcases hr with rfl | ⟨c, rest, rfl, hc⟩
  · left
    simp
    omega
  · right
    have := pow_le_number (hd c List.mem_cons_self) hc (rest ++ List.replicate k '0')
    simpa using this

lemma addIntegerDigits_renders {left right : List Char} {scale : ℕ} (hl : AllDigits left)
    (hr : AllDigits right) (hne : left ≠ [])
    (hll : left.length ≤ scale + 1 ∨ 10 ^ (left.length - 1) ≤ number left)
    (hrl : right.length ≤ scale + 1 ∨ 10 ^ (right.length - 1) ≤ number right) :
    Renders (formatScaledDigits (addIntegerDigits left right) scale)
      (number left + number right) scale := by
  obtain ⟨hd, hsum, hlen⟩ := addDigits_spec (digits_lt hl) (digits_lt hr) (Nat.zero_le 1)
  simp only [List.length_map, List.length_reverse] at hlen
  rw [ofDigits_reverse_map_digit, ofDigits_reverse_map_digit, Nat.add_zero] at hsum
  have hnumber : number (addIntegerDigits left right) = number left + number right := by
    rw [← hsum, addIntegerDigits, number_reverse_map_digitChar hd]
  have hdigits : AllDigits (addIntegerDigits left right) :=
    allDigits_map_digitChar fun d hd' => hd d (List.mem_reverse.mp hd')
  have hlength : (addIntegerDigits left right).length =
      (addDigits (left.reverse.map digit) (right.reverse.map digit) 0).length := by
    simp [addIntegerDigits]
  have hpos := List.length_pos_iff.mpr hne
  have hsne : addIntegerDigits left right ≠ [] := by
    rw [← List.length_pos_iff, hlength]
    omega
  rw [← hnumber]
  refine formatScaledDigits_renders hdigits hsne ?_
  rcases hlen with hlen | ⟨hlen, hle⟩
  · -- no digit more than the longer operand
    rw [hlen] at hlength
    rcases le_total right.length left.length with hrl' | hrl'
    · rw [max_eq_left hrl'] at hlength
      rcases hll with hshort | hbig
      · exact Or.inr (by omega)
      · refine Or.inl (reduced_of_le hdigits hsne ?_)
        rw [hlength, hnumber]
        omega
    · rw [max_eq_right hrl'] at hlength
      rcases hrl with hshort | hbig
      · exact Or.inr (by omega)
      · refine Or.inl (reduced_of_le hdigits hsne ?_)
        rw [hlength, hnumber]
        omega
  · refine Or.inl (reduced_of_le hdigits hsne ?_)
    rw [hlength, hlen, hnumber, Nat.add_sub_cancel, ← hsum]
    exact hle

/-- The sum of two decimals, as a number of units at the greater scale. -/
lemma addUnsignedDecimals_ok {left right : String} {l r : ParsedDecimal}
    (hl : parseUnsignedDecimal left.toList = .ok l)
    (hr : parseUnsignedDecimal right.toList = .ok r) :
    ∃ text, addUnsignedDecimals left right = .ok text ∧
      Renders text.toList (number l.digits * 10 ^ (max l.scale r.scale - l.scale) +
        number r.digits * 10 ^ (max l.scale r.scale - r.scale)) (max l.scale r.scale) := by
  obtain ⟨hld, hlr⟩ := parseUnsignedDecimal_spec hl
  obtain ⟨hrd, hrr⟩ := parseUnsignedDecimal_spec hr
  have hpad : ∀ digits k, number (digits ++ List.replicate k '0') = number digits * 10 ^ k := by
    intro digits k
    rw [number_append, number_replicate_zero, List.length_replicate, Nat.add_zero]
  refine ⟨_, by simp only [addUnsignedDecimals, hl, hr]; rfl, ?_⟩
  rw [String.toList_ofList, ← hpad, ← hpad]
  refine addIntegerDigits_renders (allDigits_append.mpr ⟨hld, allDigits_zeros _⟩)
    (allDigits_append.mpr ⟨hrd, allDigits_zeros _⟩) ?_ (padded_length hld hlr (by omega))
    (padded_length hrd hrr (by omega))
  simp [hlr.ne_nil]

/-- The number a decimal text denotes, if it is one. -/
def decimalValue (text : String) : Option ℚ :=
  match parseUnsignedDecimal text.toList with
  | .ok p => some (number p.digits / 10 ^ p.scale)
  | .error _ => none

/-- The digits a decimal text has after its point. -/
def decimalScale (text : String) : ℕ :=
  match parseUnsignedDecimal text.toList with
  | .ok p => p.scale
  | .error _ => 0

/-- The text denotes the number, with this many digits after the point and no redundant zero
before it. -/
def Denotes (text : String) (q : ℚ) (scale : ℕ) : Prop :=
  ∃ n : ℕ, Renders text.toList n scale ∧ (n : ℚ) / 10 ^ scale = q

lemma Denotes.unique {text text' : String} {q : ℚ} {scale : ℕ} (h : Denotes text q scale)
    (h' : Denotes text' q scale) : text = text' := by
  obtain ⟨n, hn, hq⟩ := h
  obtain ⟨n', hn', hq'⟩ := h'
  have hsame : n = n' := by
    have hpow : (10 : ℚ) ^ scale ≠ 0 := by positivity
    have : (n : ℚ) = n' := by
      rw [← div_left_inj' hpow, hq, hq']
    exact_mod_cast this
  subst hsame
  exact String.toList_injective (hn.unique hn')

lemma Denotes.reads {text : String} {q : ℚ} {scale : ℕ} (h : Denotes text q scale) :
    ∃ n : ℕ, Reads text.toList n scale ∧ (n : ℚ) / 10 ^ scale = q := by
  obtain ⟨n, hrenders, hq⟩ := h
  exact ⟨n, hrenders.reads, hq⟩

lemma Denotes.value {text : String} {q : ℚ} {scale : ℕ} (h : Denotes text q scale) :
    decimalValue text = some q ∧ decimalScale text = scale := by
  obtain ⟨n, hn, hq⟩ := h
  obtain ⟨p, hp, hnumber, hscale⟩ := hn.parse
  simp only [decimalValue, decimalScale, hp, hnumber, hscale, hq, and_self]

lemma Renders.isSome_decimalValue {text : String} {n scale : ℕ} (h : Renders text.toList n scale) :
    (decimalValue text).isSome = true := by
  have hdenotes : Denotes text ((n : ℚ) / 10 ^ scale) scale := ⟨n, h, rfl⟩
  rw [hdenotes.value.1, Option.isSome_some]

lemma denotes_zero : Denotes "0" 0 0 :=
  ⟨0, ⟨['0'], [], by simp [AllDigits], Or.inl rfl, by simp [AllDigits], rfl, rfl, rfl⟩, by simp⟩

/-- The sum of two decimals is the sum of what they denote, at the greater scale; there is none
if one of them is not a decimal. -/
lemma addUnsignedDecimals_denotes (left right : String) :
    (∃ l r text, decimalValue left = some l ∧ decimalValue right = some r ∧
        addUnsignedDecimals left right = .ok text ∧
        Denotes text (l + r) (max (decimalScale left) (decimalScale right))) ∨
      ((decimalValue left = none ∨ decimalValue right = none) ∧
        ∃ error, addUnsignedDecimals left right = .error error) := by
  unfold decimalValue decimalScale
  cases hl : parseUnsignedDecimal left.toList with
  | error error => exact Or.inr ⟨Or.inl rfl, error, by simp only [addUnsignedDecimals, hl]; rfl⟩
  | ok l =>
    cases hr : parseUnsignedDecimal right.toList with
    | error error =>
      exact Or.inr ⟨Or.inr rfl, error, by simp only [addUnsignedDecimals, hl, hr]; rfl⟩
    | ok r =>
      obtain ⟨text, htext, hrenders⟩ := addUnsignedDecimals_ok hl hr
      refine Or.inl ⟨_, _, text, rfl, rfl, htext, _, hrenders, ?_⟩
      have hshift : ∀ scale : ℕ, scale ≤ max l.scale r.scale →
          (10 : ℚ) ^ (max l.scale r.scale) =
            10 ^ (max l.scale r.scale - scale) * 10 ^ scale := by
        intro scale hle
        rw [← pow_add, Nat.sub_add_cancel hle]
      have hterm : ∀ (n scale : ℕ), scale ≤ max l.scale r.scale →
          (n : ℚ) * 10 ^ (max l.scale r.scale - scale) / 10 ^ (max l.scale r.scale) =
            n / 10 ^ scale := by
        intro n scale hle
        rw [hshift scale hle, mul_comm, mul_div_mul_left _ _ (by positivity)]
      push_cast
      rw [add_div, hterm _ _ (le_max_left _ _), hterm _ _ (le_max_right _ _)]

lemma formatAmount_renders {rawAmount text : String} {decimals : ℕ}
    (h : formatAmount rawAmount decimals = .ok text) :
    Renders text.toList (number rawAmount.toList) decimals := by
  unfold formatAmount at h
  split at h
  · rename_i hd
    obtain ⟨h1, h2, h3⟩ := normalizeIntegerDigits_spec (isUnsignedInteger_iff.mp hd).2
    simp only [Except.ok.injEq] at h
    rw [← h, String.toList_ofList, ← h3]
    exact formatScaledDigits_reduced h1 h2 decimals
  · cases h

/-! ### Multiplying -/

lemma addRow_length (cells : List ℕ) (l : ℕ) (right : List ℕ) :
    (addRow cells l right).length = cells.length := by
  fun_induction addRow cells l right with
  | case1 cell cells l r right ih => simp [ih]
  | case2 => rfl

lemma addRow_le (cells : List ℕ) (l : ℕ) (right : List ℕ) :
    Nat.ofDigits 10 (addRow cells l right) ≤
      Nat.ofDigits 10 cells + l * Nat.ofDigits 10 right := by
  fun_induction addRow cells l right with
  | case1 cell cells l r right ih =>
    have hmod := Nat.mod_le (cell + l * r) (2 ^ 32)
    simp only [Nat.ofDigits_cons]
    have : l * (r + 10 * Nat.ofDigits 10 right) = l * r + 10 * (l * Nat.ofDigits 10 right) := by
      ring
    omega
  | case2 => omega

lemma productCells_length (left right cells : List ℕ) :
    (productCells left right cells).length = cells.length := by
  fun_induction productCells left right cells with
  | case1 => rfl
  | case2 l left right cells h =>
    rw [← addRow_length cells l right, h]
  | case3 l left right cells cell rest h ih =>
    rw [List.length_cons, ih, ← addRow_length cells l right, h, List.length_cons]

lemma productCells_le (left right cells : List ℕ) :
    Nat.ofDigits 10 (productCells left right cells) ≤
      Nat.ofDigits 10 cells + Nat.ofDigits 10 left * Nat.ofDigits 10 right := by
  fun_induction productCells left right cells with
  | case1 => simp
  | case2 l left right cells h => simp
  | case3 l left right cells cell rest h ih =>
    have hrow := addRow_le cells l right
    rw [h, Nat.ofDigits_cons] at hrow
    simp only [Nat.ofDigits_cons]
    have : (l + 10 * Nat.ofDigits 10 left) * Nat.ofDigits 10 right =
      l * Nat.ofDigits 10 right + 10 * (Nat.ofDigits 10 left * Nat.ofDigits 10 right) := by ring
    omega

lemma carryPass_length (carry : ℕ) (cells : List ℕ) :
    (carryPass carry cells).length = cells.length := by
  fun_induction carryPass carry cells with
  | case1 => rfl
  | case2 => rfl
  | case3 carry cell next rest cell' ih => simpa using ih

lemma carryPass_le (carry : ℕ) (cells : List ℕ) (hne : cells ≠ []) :
    Nat.ofDigits 10 (carryPass carry cells) ≤ carry + Nat.ofDigits 10 cells := by
  fun_induction carryPass carry cells with
  | case1 => exact absurd rfl hne
  | case2 carry cell =>
    have hmod := Nat.mod_le (cell + carry) (2 ^ 32)
    simp only [Nat.ofDigits_singleton]
    omega
  | case3 carry cell next rest cell' ih =>
    have hmod := Nat.mod_le (cell + carry) (2 ^ 32)
    have hih := ih (by simp)
    simp only [Nat.ofDigits_cons] at hih ⊢
    omega

lemma carryPass_dropLast (carry : ℕ) (cells : List ℕ) :
    ∀ d ∈ (carryPass carry cells).dropLast, d < 10 := by
  fun_induction carryPass carry cells with
  | case1 => simp
  | case2 => simp
  | case3 carry cell next rest cell' ih =>
    intro d hd
    have hne : carryPass (cell' / 10) (next :: rest) ≠ [] := by
      rw [← List.length_pos_iff, carryPass_length]
      simp
    rw [List.dropLast_cons_of_ne_nil hne] at hd
    rcases List.mem_cons.mp hd with rfl | hd
    · omega
    · exact ih d hd

lemma all_lt_of_dropLast {cells : List ℕ} (h : ∀ d ∈ cells.dropLast, d < 10)
    (hlt : Nat.ofDigits 10 cells < 10 ^ cells.length) : ∀ d ∈ cells, d < 10 := by
  rcases List.eq_nil_or_concat cells with rfl | ⟨init, last, rfl⟩
  · simp
  · rw [List.concat_eq_append] at h hlt ⊢
    rw [List.dropLast_concat] at h
    rw [Nat.ofDigits_append, Nat.ofDigits_singleton, List.length_append, List.length_singleton,
      pow_succ] at hlt
    have hlast : last < 10 := by
      by_contra hge
      have := Nat.mul_le_mul_left (10 ^ init.length) (not_lt.mp hge)
      omega
    intro d hd
    rcases List.mem_append.mp hd with hd | hd
    · exact h d hd
    · rw [List.mem_singleton.mp hd]
      exact hlast

lemma addRow_append (front : List ℕ) (l : ℕ) (right : List ℕ) (cell r : ℕ) (rest : List ℕ)
    (hlen : front.length = right.length) :
    addRow (front ++ cell :: rest) l (right ++ [r]) =
      addRow front l right ++ (cell + l * r) % 2 ^ 32 :: rest := by
  induction front generalizing right with
  | nil =>
    rw [List.length_eq_zero_iff.mp hlen.symm]
    cases rest <;> simp [addRow]
  | cons c front ih =>
    obtain ⟨d, right, rfl⟩ := List.exists_cons_of_length_eq_add_one hlen.symm
    simp only [List.cons_append, addRow, ih right (by simpa using hlen)]

/-- The last product of digits stands alone in its cell, and the cell after it is free. -/
lemma productCells_top (left right front : List ℕ) (l r : ℕ) (hlen : front.length = right.length) :
    ∃ pre, productCells (left ++ [l]) (right ++ [r])
      (front ++ List.replicate (left.length + 2) 0) = pre ++ [(l * r) % 2 ^ 32, 0] := by
  induction left generalizing front with
  | nil =>
    simp only [List.nil_append, List.length_nil, Nat.zero_add, List.replicate_succ,
      List.replicate_zero, productCells]
    rw [addRow_append front l right 0 r [0] hlen, Nat.zero_add]
    cases hrow : addRow front l right with
    | nil => exact ⟨[], rfl⟩
    | cons c row => exact ⟨c :: row, rfl⟩
  | cons d left ih =>
    simp only [List.cons_append, List.length_cons, productCells]
    rw [show left.length + 1 + 2 = (left.length + 2) + 1 by omega, List.replicate_succ,
      addRow_append front d right 0 r _ hlen, Nat.zero_add]
    cases hrow : addRow front d right with
    | nil =>
      have hfront : front = [] := by
        rw [← List.length_eq_zero_iff, ← addRow_length front d right, hrow]
        rfl
      obtain ⟨pre, hpre⟩ := ih front hlen
      rw [hfront, List.nil_append] at hpre
      exact ⟨d * r % 2 ^ 32 :: pre, by simp only [List.nil_append, hpre, List.cons_append]⟩
    | cons c row =>
      have hrowlen : (row ++ [(d * r) % 2 ^ 32]).length = right.length := by
        have := addRow_length front d right
        rw [hrow] at this
        simpa using this.trans hlen
      obtain ⟨pre, hpre⟩ := ih _ hrowlen
      refine ⟨c :: pre, ?_⟩
      simp only [List.cons_append, ← hpre, List.append_assoc, List.nil_append]

/-- A cell that is not zero, with room for the carry, leaves a digit that is not zero. -/
lemma carryPass_pos (carry : ℕ) (pre : List ℕ) {top : ℕ} (hpos : 0 < top) (hsmall : top ≤ 81)
    (hcarry : carry ≤ 2 ^ 32 / 10) : ∃ d ∈ carryPass carry (pre ++ [top, 0]), d ≠ 0 := by
  induction pre generalizing carry with
  | nil =>
    simp only [List.nil_append, carryPass, List.mem_cons, List.not_mem_nil, or_false,
      exists_eq_or_imp, exists_eq_left, Nat.zero_add]
    omega
  | cons c pre ih =>
    have hlt := Nat.mod_lt (c + carry) (show 0 < 2 ^ 32 by positivity)
    obtain ⟨d, hd, hne⟩ := ih ((c + carry) % 2 ^ 32 / 10) (by omega)
    refine ⟨d, ?_, hne⟩
    cases pre <;> exact List.mem_cons_of_mem _ hd

lemma reverse_map_digit_concat {cs : List Char} (hd : AllDigits cs) (hr : Reduced cs)
    (hne : cs ≠ ['0']) :
    ∃ ds d, cs.reverse.map digit = ds ++ [d] ∧ 0 < d ∧ d < 10 := by
  rcases hr with rfl | ⟨c, rest, rfl, hc⟩
  · exact absurd rfl hne
  · exact ⟨rest.reverse.map digit, digit c, by simp, digit_pos (hd c List.mem_cons_self) hc,
      digit_lt (hd c List.mem_cons_self)⟩

lemma mapM_productDigit {cells : List ℕ} (h : ∀ d ∈ cells, d < 10) :
    cells.mapM productDigit = .ok (cells.map digitChar) := by
  refine mapM_eq_map fun d hd => ?_
  have hlt := h d hd
  rw [productDigit, if_pos (by omega)]

lemma digitChar_ne_zero {d : ℕ} (h : d < 10) (hne : d ≠ 0) : digitChar d ≠ '0' := by
  intro heq
  have := congrArg digit heq
  rw [digit_digitChar h] at this
  exact hne (by rw [this]; rfl)

/-- No cell is left with more than a digit: there are as many cells as the factors have digits. -/
lemma carryPass_productCells_lt {left right : List ℕ} (hne : left ≠ [])
    (hleft : ∀ d ∈ left, d < 10) (hright : ∀ d ∈ right, d < 10) :
    ∀ d ∈ carryPass 0 (productCells left right (List.replicate (left.length + right.length) 0)),
      d < 10 := by
  generalize hcells : productCells left right (List.replicate (left.length + right.length) 0) =
    cells
  have hlen : cells.length = left.length + right.length := by
    rw [← hcells, productCells_length, List.length_replicate]
  refine all_lt_of_dropLast (carryPass_dropLast 0 cells) ?_
  have hcellsNe : cells ≠ [] := by
    rw [← List.length_pos_iff, hlen]
    exact Nat.add_pos_left (List.length_pos_iff.mpr hne) _
  have hprod := productCells_le left right (List.replicate (left.length + right.length) 0)
  rw [hcells, Nat.ofDigits_replicate_zero, Nat.zero_add] at hprod
  rw [carryPass_length, hlen, pow_add]
  calc Nat.ofDigits 10 (carryPass 0 cells) ≤ 0 + Nat.ofDigits 10 cells :=
        carryPass_le 0 cells hcellsNe
    _ = Nat.ofDigits 10 cells := Nat.zero_add _
    _ ≤ Nat.ofDigits 10 left * Nat.ofDigits 10 right := hprod
    _ < 10 ^ left.length * 10 ^ right.length :=
      Nat.mul_lt_mul'' (Nat.ofDigits_lt_base_pow_length (by omega) fun {d} => hleft d)
        (Nat.ofDigits_lt_base_pow_length (by omega) fun {d} => hright d)

/-- The product of the leading digits reaches one of the last two cells. -/
lemma exists_ne_zero_carryPass {ls rs : List ℕ} {l r : ℕ} (hl : 0 < l) (hl10 : l < 10) (hr : 0 < r)
    (hr10 : r < 10) :
    ∃ d ∈ carryPass 0 (productCells (ls ++ [l]) (rs ++ [r])
      (List.replicate ((ls ++ [l]).length + (rs ++ [r]).length) 0)), d ≠ 0 := by
  obtain ⟨pre, hpre⟩ := productCells_top ls rs (List.replicate rs.length 0) l r (by simp)
  have hrep : List.replicate rs.length 0 ++ List.replicate (ls.length + 2) 0 =
      List.replicate ((ls ++ [l]).length + (rs ++ [r]).length) 0 := by
    rw [List.replicate_append_replicate]
    congr 1
    simp
    omega
  rw [hrep] at hpre
  have hmul : l * r ≤ 81 := by
    calc l * r ≤ 9 * 9 := Nat.mul_le_mul (by omega) (by omega)
      _ = 81 := rfl
  have hpos : 0 < l * r := Nat.mul_pos hl hr
  rw [hpre, Nat.mod_eq_of_lt (by omega)]
  exact carryPass_pos 0 pre hpos hmul (by omega)

lemma reduced_map_digitChar {cells : List ℕ} (hcells : ∀ d ∈ cells, d < 10)
    (hne : ∃ d ∈ cells, d ≠ 0) : Reduced ((cells.dropWhile (· == 0)).map digitChar) := by
  cases hdrop : cells.dropWhile (· == 0) with
  | nil =>
    obtain ⟨d, hd, hdne⟩ := hne
    rw [List.dropWhile_eq_nil_iff] at hdrop
    have := hdrop d hd
    exact absurd (by simpa using this) hdne
  | cons e rest =>
    have hhead := List.head?_dropWhile_not (· == 0) cells
    rw [hdrop] at hhead
    refine Or.inr ⟨digitChar e, rest.map digitChar, rfl,
      digitChar_ne_zero ?_ (by simpa using hhead)⟩
    exact hcells e ((List.dropWhile_sublist _).subset (hdrop ▸ List.mem_cons_self))

/-- Whatever the sizes of its operands, the product is a reduced numeral: a cell that wraps
only loses, so no cell is left with more than a digit. -/
lemma multiplyIntegerDigits_ok {left right : List Char} (hl : AllDigits left)
    (hr : AllDigits right) :
    ∃ product, multiplyIntegerDigits left right = .ok product ∧ AllDigits product ∧
      Reduced product := by
  obtain ⟨hld, hlr, -⟩ := normalizeIntegerDigits_spec hl
  obtain ⟨hrd, hrr, -⟩ := normalizeIntegerDigits_spec hr
  unfold multiplyIntegerDigits
  simp only
  split
  · exact ⟨['0'], rfl, by simp [AllDigits], Or.inl rfl⟩
  rename_i hne
  rw [not_or] at hne
  obtain ⟨ls, l, hls, hlpos, hl10⟩ := reverse_map_digit_concat hld hlr hne.1
  obtain ⟨rs, r, hrs, hrpos, hr10⟩ := reverse_map_digit_concat hrd hrr hne.2
  have hlt := digits_lt hld
  have hrt := digits_lt hrd
  rw [hls] at hlt
  rw [hrs] at hrt
  simp only [hls, hrs]
  have hdigits := carryPass_productCells_lt (by simp) hlt hrt
  have hpos := @exists_ne_zero_carryPass ls rs l r hlpos hl10 hrpos hr10
  generalize carryPass 0 (productCells (ls ++ [l]) (rs ++ [r])
    (List.replicate ((ls ++ [l]).length + (rs ++ [r]).length) 0)) = cells at hdigits hpos ⊢
  have hsub : ∀ e ∈ cells.reverse.dropWhile (· == 0), e < 10 := fun e he =>
    hdigits e (List.mem_reverse.mp ((List.dropWhile_sublist _).subset he))
  refine ⟨_, mapM_productDigit hsub, allDigits_map_digitChar hsub, reduced_map_digitChar ?_ ?_⟩
  · exact fun d hd => hdigits d (List.mem_reverse.mp hd)
  · obtain ⟨d, hd, hdne⟩ := hpos
    exact ⟨d, List.mem_reverse.mpr hd, hdne⟩

lemma trimScale_spec {product : List Char} (hd : AllDigits product) (hr : Reduced product)
    (hne : product ≠ ['0']) (minimumScale scale : ℕ) :
    AllDigits (trimScale minimumScale product scale).1 ∧
      Reduced (trimScale minimumScale product scale).1 := by
  fun_induction trimScale minimumScale product scale with
  | case1 => exact ⟨hd, hr⟩
  | case2 product scale h ih =>
    rcases hr with rfl | ⟨c, rest, rfl, hc⟩
    · exact absurd rfl hne
    · -- the zero that goes is not the first digit
      cases rest with
      | nil =>
        simp only [List.getLast?_singleton, Option.some.injEq] at h
        exact absurd h.2 hc
      | cons d rest =>
        have hdrop : (c :: d :: rest).dropLast = c :: (d :: rest).dropLast := rfl
        rw [hdrop] at ih ⊢
        refine ih ?_ (Or.inr ⟨c, _, rfl, hc⟩) (by simp [hc])
        intro e he
        rw [← hdrop] at he
        exact hd e (List.dropLast_subset _ he)
  | case3 => exact ⟨hd, hr⟩

/-- The product never panics, and what it gives is a well-formed decimal. -/
lemma multiplyAmountByPrice_spec (rawAmount : String) (decimals : ℕ) (unitPrice : String) :
    (∃ error, multiplyAmountByPrice rawAmount decimals unitPrice = .error (.error error)) ∨
      ∃ value n scale, multiplyAmountByPrice rawAmount decimals unitPrice = .ok value ∧
        Renders value.toList n scale := by
  unfold multiplyAmountByPrice
  by_cases hraw : isUnsignedInteger rawAmount.toList = true
  swap
  · exact Or.inl ⟨.invalidUnsignedInteger, if_neg hraw⟩
  rw [if_pos hraw]
  cases hprice : parseUnsignedDecimal unitPrice.toList with
  | error error => exact Or.inl ⟨error, rfl⟩
  | ok price =>
    obtain ⟨product, hproduct, hd, hr⟩ := multiplyIntegerDigits_ok
      (isUnsignedInteger_iff.mp hraw).2 (parseUnsignedDecimal_spec hprice).1
    right
    simp only [lift, bind, Except.bind, hproduct, pure, Except.pure]
    by_cases hzero : product = ['0']
    · rw [if_pos hzero]
      have hrenders := formatScaledDigits_reduced hd hr decimals
      exact ⟨_, _, _, rfl, by rwa [String.toList_ofList]⟩
    · rw [if_neg hzero]
      obtain ⟨htd, htr⟩ := trimScale_spec hd hr hzero decimals (decimals + price.scale)
      have hrenders := formatScaledDigits_reduced htd htr
        (trimScale decimals product (decimals + price.scale)).2
      exact ⟨_, _, _, rfl, by rwa [String.toList_ofList]⟩

end MotherApi.Decimal
