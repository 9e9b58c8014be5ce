import MotherApi.CanonicalDecimals

/-!
The yields that the adapter of Aave computes, as texts.

The adapter has a copy of the canonical form of the simulation, which trims the zeros at the end of
every text, also of one without a point. There they count: a yield of zero is trimmed to no text at
all, and one of ten to one.
-/

namespace MotherApi.AaveYields

open MotherApi.Lib.Fallible MotherApi.Lib.DecimalLiterals MotherApi.CanonicalDecimals

/-! ### The code -/

/-- The error of the functions below. -/
inductive Error
  | calculation
  deriving DecidableEq

/-- What is used of `fastnum`. A text is read in the default context. -/
structure D512 (δ : Type) where
  fromStr : String → Option δ
  div : δ → δ → δ
  sub : δ → δ → δ
  pow : δ → δ → δ
  display : δ → List Char

def secondsPerYear : ℕ := 31536000

def trimZeros (value : List Char) : List Char := trimEnd '.' (trimEnd '0' value)

/-- The copy of the adapter trims what it has expanded. -/
def expandExponent (coefficient exponent : List Char) : Except (Halt Empty) (Option (List Char)) :=
  (CanonicalDecimals.expandExponent .wrapping coefficient exponent).map (Option.map trimZeros)

/-- `value` is what the `D512` prints. -/
def canonicalDecimal (value : List Char) : Except (Halt Empty) (List Char) :=
  match splitExponent value with
  | some (coefficient, exponent) =>
    (expandExponent coefficient exponent).map fun expanded => expanded.getD value
  | none => .ok (trimZeros value)

section

variable {δ : Type} (D : D512 δ)

def parse (text : String) : Except Error δ :=
  match D.fromStr text with
  | some value => .ok value
  | none => .error .calculation

/-- `value` is a `BigUint`. -/
def decimal (value : ℕ) : Except Error δ := parse D (Nat.repr value)

/-- What `ratio_minus_one` prints. -/
def growth (final initial : ℕ) : Except Error δ := do
  let one ← parse D "1"
  return D.sub (D.div (← decimal D final) (← decimal D initial)) one

/-- What `annualized_apy` prints. -/
def annualGrowth (final initial elapsedSeconds : ℕ) : Except Error δ := do
  let one ← parse D "1"
  let seconds ← parse D (Nat.repr elapsedSeconds)
  let year ← parse D (Nat.repr secondsPerYear)
  return D.sub (D.pow (D.div (← decimal D final) (← decimal D initial)) (D.div year seconds)) one

/-- A panic is one whatever the errors are. -/
def panicOf : Halt Empty → Halt Error
  | .panic => .panic

def print (value : δ) : Except (Halt Error) (List Char) :=
  (canonicalDecimal (D.display value)).mapError panicOf

def ratioMinusOne (final initial : ℕ) : Except (Halt Error) (List Char) := do
  print D (← lift (growth D final initial))

def annualizedApy (final initial elapsedSeconds : ℕ) : Except (Halt Error) (List Char) := do
  print D (← lift (annualGrowth D final initial elapsedSeconds))

end

/-! ### What the texts denote -/

/-- The text is a plain literal, so neither empty nor with an exponent, of the number. -/
def Denotes {ε : Type} (rendered : Except ε (List Char)) (number : ℚ) : Prop :=
  ∃ r : Plain, rendered = .ok r.text ∧ r.value = number

/-- What a `D512` can print: its coefficient has 512 bits, so at most 155 digits. -/
structure Printable (l : Literal) : Prop where
  power : |l.power| < 2 ^ 30
  whole : l.exponent ≠ none → l.coefficient.whole.length < 2 ^ 30

/-- The last digit is behind the point once the exponent is gone, or it is that of the units and not
a zero. -/
def LastDigitCounts (l : Literal) : Prop :=
  l.power < l.coefficient.places.length ∨
    l.power = l.coefficient.places.length ∧ l.coefficient.digits.getLast? ≠ some '0'

lemma canonicalDecimal_text {l : Literal} (h : Printable l) :
    canonicalDecimal l.text = .ok (trimZeros l.plain.text) := by
  obtain ⟨hpower, hwhole⟩ := h
  obtain ⟨p, exponent⟩ := l
  rw [canonicalDecimal, splitExponent_text]
  cases exponent with
  | none => simp [Literal.text, Literal.plain]
  | some x =>
    simp only [Option.map_some, expandExponent]
    rw [expandExponent_eq keeps_wrapping p hpower (hwhole (Option.some_ne_none x))]
    rfl

lemma lastDigitCounts_iff (l : Literal) :
    LastDigitCounts l ↔ l.plain.places ≠ [] ∨ l.plain.whole.getLast? ≠ some '0' := by
  unfold LastDigitCounts
  rw [← Literal.places_plain]
  by_cases hplaces : l.plain.places = []
  · rw [Literal.getLast?_whole_plain hplaces]
  · simp [hplaces]

lemma canonicalDecimal_denotes {l : Literal} (h : Printable l) :
    Denotes (canonicalDecimal l.text) l.value ↔ LastDigitCounts l := by
  unfold Denotes
  rw [lastDigitCounts_iff, ← Plain.exists_trimEnd_text_iff, canonicalDecimal_text h,
    Literal.value_plain]
  simp only [Except.ok.injEq, eq_comm, trimZeros]

/-- The number is kept, and the copy of the simulation gives the same one. -/
def Faithful (l : Literal) : Prop :=
  Denotes (canonicalDecimal l.text) l.value ∧
    ∃ r s : Plain, canonicalDecimal l.text = .ok r.text ∧ canonical l.text = .ok s.text ∧
      r.value = s.value

lemma faithful_iff {l : Literal} (h : Printable l) : Faithful l ↔ LastDigitCounts l := by
  have hcanonical : canonical l.text = .ok l.plain.trimmed.text :=
    canonicalBy_text keeps_wrapping h.power h.whole
  rw [← canonicalDecimal_denotes h]
  refine ⟨fun hfaithful => hfaithful.1, fun hdenotes => ⟨hdenotes, ?_⟩⟩
  obtain ⟨r, hr, hvalue⟩ := hdenotes
  refine ⟨r, l.plain.trimmed, hr, hcanonical, ?_⟩
  rw [hvalue, Plain.value_trimmed, Literal.value_plain]

lemma print_denotes {δ : Type} (D : D512 δ) {x : δ} {l : Literal} (hprint : D.display x = l.text)
    (h : Printable l) : Denotes (print D x) l.value ↔ LastDigitCounts l := by
  rw [← canonicalDecimal_denotes h]
  unfold Denotes print
  rw [hprint]
  simp only [mapError_eq_ok]

/-- **The adapter keeps the number of a decimal exactly if its last digit counts**: a yield that is
a whole number is printed right exactly if it does not end in a zero. -/
theorem canonicalDecimal_faithful_iff {l : Literal} (h : Printable l) :
    (Faithful l ↔ LastDigitCounts l) ∧
    (∀ {δ : Type} (D : D512 δ) (final initial : ℕ) (x : δ), growth D final initial = .ok x →
      D.display x = l.text →
        (Denotes (ratioMinusOne D final initial) l.value ↔ LastDigitCounts l)) ∧
    ∀ {δ : Type} (D : D512 δ) (final initial elapsedSeconds : ℕ) (x : δ),
      annualGrowth D final initial elapsedSeconds = .ok x → D.display x = l.text →
        (Denotes (annualizedApy D final initial elapsedSeconds) l.value ↔ LastDigitCounts l) := by
  refine ⟨faithful_iff h, ?_, ?_⟩
  · intro δ D final initial x hgrowth hprint
    rw [ratioMinusOne, hgrowth]
    exact print_denotes D hprint h
  · intro δ D final initial elapsedSeconds x hgrowth hprint
    rw [annualizedApy, hgrowth]
    exact print_denotes D hprint h

/-- `fastnum` on numbers of at most two places, whose whole powers are taken. -/
def shortNumbers : D512 ℚ where
  fromStr text := some (Lib.Numerals.number text.toList)
  div a b := a / b
  sub a b := a - b
  pow a b := a ^ b.num.toNat
  display a :=
    let cents := (a * 100).num.toNat
    let whole := (Nat.repr (cents / 100)).toList
    if cents % 100 = 0 then whole else whole ++ '.' :: Lib.Numerals.numeral 2 (cents % 100)

/-- `0.02`, the yield between an index of a thousand and one of a thousand and twenty. -/
def twoPercent : Literal where
  coefficient := ⟨false, ['0'], ['0', '2'], by decide, by decide, by decide⟩
  exponent := none

/-- `0`, the yield between two equal indexes. -/
def noYield : Literal where
  coefficient := ⟨false, ['0'], [], by decide, by decide, by decide⟩
  exponent := none

lemma lastDigitCounts_noYield : ¬LastDigitCounts noYield := by
  unfold LastDigitCounts
  decide

theorem canonicalDecimal_twoPercent :
    Faithful twoPercent ∧ canonicalDecimal "0.02".toList = .ok "0.02".toList ∧
      Denotes (ratioMinusOne shortNumbers 1020 1000) (1 / 50) ∧
      Denotes (annualizedApy shortNumbers 1020 1000 secondsPerYear) (1 / 50) ∧
      ¬Denotes (ratioMinusOne shortNumbers 1000 1000) 0 ∧
      ratioMinusOne shortNumbers 1000 1000 = .ok [] := by
  have hvalue : twoPercent.value = 1 / 50 := by decide +kernel
  have hcounts : LastDigitCounts twoPercent := Or.inl (by decide)
  obtain ⟨hfaithful, hratio, hannual⟩ :=
    canonicalDecimal_faithful_iff (l := twoPercent) ⟨by decide, by decide⟩
  obtain ⟨-, hnone, -⟩ := canonicalDecimal_faithful_iff (l := noYield) ⟨by decide, by decide⟩
  refine ⟨hfaithful.mpr hcounts, by decide +kernel, ?_, ?_, ?_, by decide +kernel⟩
  · exact hvalue ▸ (hratio shortNumbers 1020 1000 (1 / 50) (by decide +kernel)
      (by decide +kernel)).mpr hcounts
  · exact hvalue ▸ (hannual shortNumbers 1020 1000 secondsPerYear (1 / 50) (by decide +kernel)
      (by decide +kernel)).mpr hcounts
  · have hzero : noYield.value = 0 := by decide +kernel
    exact fun h => lastDigitCounts_noYield
      ((hnone shortNumbers 1000 1000 0 (by decide +kernel) (by decide +kernel)).mp (hzero ▸ h))

/-- A yield of zero is printed as no text, and one of ten as one. The simulation prints both. -/
theorem canonicalDecimal_noYield :
    Printable noYield ∧ ¬Faithful noYield ∧ noYield.text = "0".toList ∧
      canonicalDecimal "0".toList = .ok [] ∧ canonical "0".toList = .ok "0".toList ∧
      canonicalDecimal "10".toList = .ok "1".toList ∧
      canonical "10".toList = .ok "10".toList := by
  have hprintable : Printable noYield := ⟨by decide, by decide⟩
  refine ⟨hprintable,
    fun hfaithful => lastDigitCounts_noYield ((faithful_iff hprintable).mp hfaithful), ?_⟩
  decide +kernel

end MotherApi.AaveYields
