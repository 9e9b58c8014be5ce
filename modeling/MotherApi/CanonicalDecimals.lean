import MotherApi.Lib.DecimalLiterals
import MotherApi.SimulationTexts

/-!
The decimal texts that a simulation stores.

A `D512` may print with an exponent. What is stored and digested has none: the point is moved to
where the exponent puts it, and the zeros that then stand at the end of the places are dropped. The
texts are those that a `D512` prints, so that their bytes are their characters.
-/

namespace MotherApi.CanonicalDecimals

open MotherApi.Lib MotherApi.Lib.Fallible MotherApi.Lib.Numerals MotherApi.Lib.DecimalLiterals
open MotherApi.SimulationTime

/-! ### The code -/

/-- How an index gets from one integer type into another. -/
structure Conversions where
  asI32 : ℕ → Except (Halt Empty) ℤ
  asUsize : ℤ → Except (Halt Empty) ℕ

/-- `as`, which wraps. -/
def Conversions.wrapping : Conversions where
  asI32 n := .ok (wrapI32 n)
  asUsize n := .ok (n % 2 ^ 64).toNat

/-- Conversions that panic where `as` gives another number. -/
def Conversions.checked : Conversions where
  asI32 n := Checked.signed 32 n
  asUsize n := if 0 ≤ n ∧ n < 2 ^ 64 then .ok n.toNat else .error .panic

/-- `exponent.parse::<i32>()`. -/
def parseI32 (text : List Char) : Option ℤ :=
  (parseSigned text).filter fun n => -2 ^ 31 ≤ n ∧ n < 2 ^ 31

/-- `value.split_once(['E', 'e'])`. -/
def splitExponent (value : List Char) : Option (List Char × List Char) :=
  match value.span fun c => !(c = 'E' || c = 'e') with
  | (_, []) => none
  | (coefficient, _ :: exponent) => some (coefficient, exponent)

/-- The three ways to put the point at an index of the digits. -/
def movePoint (convert : Conversions) (digits : List Char) (index : ℤ) :
    Except (Halt Empty) (List Char) :=
  if index ≤ 0 then do
    let zeros ← convert.asUsize (← Checked.signed 32 (-index))
    return ['0', '.'] ++ List.replicate zeros '0' ++ digits
  else do
    let position ← convert.asUsize index
    if digits.length ≤ position then
      let zeros ← Checked.sub position digits.length
      return digits ++ List.replicate zeros '0'
    else
      let before ← Checked.slice digits 0 position
      let after ← Checked.slice digits position digits.length
      return before ++ '.' :: after

def expandExponent (convert : Conversions) (coefficient exponent : List Char) :
    Except (Halt Empty) (Option (List Char)) :=
  match parseI32 exponent with
  | none => .ok none
  | some exponent => do
    let negative := coefficient.head? = some '-'
    let coefficient := coefficient.dropWhile (· = '-')
    let digits := coefficient.filter (· ≠ '.')
    let decimalIndex ← convert.asI32 (coefficient.findIdx (· = '.'))
    let index ← Checked.signed 32 (decimalIndex + exponent)
    let body ← movePoint convert digits index
    return some ((if negative then ['-'] else []) ++ body)

/-- The text without its exponent, if it has one that can be read. -/
def withoutExponent (convert : Conversions) (value : List Char) : Except (Halt Empty) (List Char) :=
  match splitExponent value with
  | none => .ok value
  | some (coefficient, exponent) =>
    (expandExponent convert coefficient exponent).map fun expanded => expanded.getD value

/-- `value` is what the `D512` prints. -/
def canonicalBy (convert : Conversions) (value : List Char) : Except (Halt Empty) (List Char) :=
  (withoutExponent convert value).map fun value =>
    if '.' ∈ value then trimEnd '.' (trimEnd '0' value) else value

def canonical (value : List Char) : Except (Halt Empty) (List Char) :=
  canonicalBy .wrapping value

/-! ### Reading a literal -/

lemma splitExponent_none {text : List Char} (h : ∀ c ∈ text, c ≠ 'E' ∧ c ≠ 'e') :
    splitExponent text = none := by
  have hspan := @Splits.span_self _ (fun c : Char => !(c = 'E' || c = 'e')) text fun c hc => by
    simpa using h c hc
  rw [splitExponent, hspan]

lemma splitExponent_append {coefficient exponent : List Char} {mark : Char}
    (h : ∀ c ∈ coefficient, c ≠ 'E' ∧ c ≠ 'e') (hmark : mark = 'E' ∨ mark = 'e') :
    splitExponent (coefficient ++ mark :: exponent) = some (coefficient, exponent) := by
  have hspan := @Splits.span_append _ (fun c : Char => !(c = 'E' || c = 'e')) coefficient mark
    exponent (fun c hc => by simpa using h c hc) (by rcases hmark with rfl | rfl <;> rfl)
  rw [splitExponent, hspan]

lemma mark_notMem (p : Plain) : ∀ c ∈ p.text, c ≠ 'E' ∧ c ≠ 'e' := by
  have hdigit : ∀ c : Char, c.isDigit = true → c ≠ 'E' ∧ c ≠ 'e' := by
    intro c hc
    constructor <;> rintro rfl <;> cases hc
  intro c hc
  rcases List.mem_append.mp hc with hsign | hc
  · rw [Plain.eq_of_mem_sign hsign]
    decide
  · rcases List.mem_append.mp hc with hwhole | hc
    · exact hdigit c (p.allDigits_whole c hwhole)
    · split at hc
      · cases hc
      · rcases List.mem_cons.mp hc with rfl | hplaces
        · decide
        · exact hdigit c (p.allDigits_places c hplaces)

lemma splitExponent_text (l : Literal) :
    splitExponent l.text = l.exponent.map fun x => (l.coefficient.text, x.text) := by
  obtain ⟨p, exponent⟩ := l
  cases exponent with
  | none =>
    have htext : Literal.text ⟨p, none⟩ = p.text := List.append_nil _
    rw [htext, splitExponent_none (mark_notMem p)]
    rfl
  | some x =>
    have htext : Literal.text ⟨p, some x⟩ = p.text ++ x.mark :: x.text := rfl
    rw [htext, splitExponent_append (mark_notMem p) x.mark_eq]
    rfl

lemma parseI32_text {x : Exponent} (h : |x.power| < 2 ^ 30) : parseI32 x.text = some x.power := by
  have hparse : parseSigned x.text = some x.power := by
    have hdigits := SimulationTexts.parse_of_digits x.digits_ne x.allDigits
    have hnumber : parseDigits x.digits = some (number x.digits) :=
      Timestamps.parseDigits_eq_some.mpr ⟨x.digits_ne, x.allDigits, rfl⟩
    unfold Exponent.text Exponent.power
    rcases x.sign_eq with hsign | hsign | hsign
    · rw [hsign]
      exact hdigits.2
    · rw [hsign]
      simp [parseSigned, parseUnsigned, hnumber]
    · rw [hsign]
      simp [parseSigned, hnumber]
  rw [abs_lt] at h
  rw [parseI32, hparse, Option.filter_some, if_pos]
  simp only [decide_eq_true_eq]
  omega

/-- What is left of a plain literal: its sign, its digits and where its point was. -/
lemma head?_text (p : Plain) : p.text.head? = some '-' ↔ p.negative = true := by
  have := p.head?_unsigned
  unfold Plain.text Plain.sign
  cases p.negative <;> simp [this]

lemma dropWhile_text (p : Plain) : p.text.dropWhile (· = '-') = p.unsigned := by
  have hunsigned : p.unsigned.dropWhile (· = '-') = p.unsigned := by
    rw [List.dropWhile_eq_self_iff]
    intro hlt hminus
    refine p.head?_unsigned ?_
    rw [List.head?_eq_getElem?, List.getElem?_eq_getElem hlt]
    exact congrArg some (by simpa using hminus)
  unfold Plain.text Plain.sign
  cases p.negative <;> simp [hunsigned]

lemma filter_unsigned (p : Plain) : p.unsigned.filter (· ≠ '.') = p.digits := by
  have hdigits : ∀ {cs : List Char}, AllDigits cs → cs.filter (· ≠ '.') = cs := by
    intro cs h
    refine List.filter_eq_self.mpr fun c hc => ?_
    have := h c hc
    simp only [ne_eq, decide_eq_true_eq]
    rintro rfl
    cases this
  unfold Plain.unsigned Plain.digits
  rw [List.filter_append, hdigits p.allDigits_whole]
  congr 1
  split
  · rename_i hplaces
    rw [hplaces, List.filter_nil]
  · rw [List.filter_cons_of_neg (by decide), hdigits p.allDigits_places]

lemma findIdx_unsigned (p : Plain) : p.unsigned.findIdx (· = '.') = p.whole.length := by
  have hwhole : ∀ c ∈ p.whole, ¬c = '.' := by
    rintro c hc rfl
    cases p.allDigits_whole _ hc
  have hnone : p.whole.findIdx (· = '.') = p.whole.length :=
    List.findIdx_eq_length.mpr fun c hc => by simpa using hwhole c hc
  unfold Plain.unsigned
  rw [List.findIdx_append, hnone, if_neg (lt_irrefl _)]
  split
  · simp
  · simp [List.findIdx_cons]

/-! ### Moving the point -/

/-- The conversions keep an index, whichever way it goes. -/
structure Keeps (convert : Conversions) : Prop where
  asI32 : ∀ {n : ℕ}, n < 2 ^ 31 → convert.asI32 n = .ok (n : ℤ)
  asUsize : ∀ {n : ℤ}, 0 ≤ n → n < 2 ^ 32 → convert.asUsize n = .ok n.toNat

lemma keeps_wrapping : Keeps .wrapping where
  asI32 {n} h := by
    simp only [Conversions.wrapping, CivilDays.wrapI32_eq (show -2 ^ 31 ≤ (n : ℤ) by omega)
      (by omega)]
  asUsize {n} h h' := by
    have hmod : n % 2 ^ 64 = n := Int.emod_eq_of_lt h (by omega)
    simp only [Conversions.wrapping, hmod]

lemma keeps_checked : Keeps .checked where
  asI32 {n} h := by
    simp only [Conversions.checked]
    exact Checked.signed_of_mem (by omega)
  asUsize {n} h h' := by
    simp only [Conversions.checked]
    rw [if_pos (by omega)]

section

variable {convert : Conversions} (hkeeps : Keeps convert)

/-- The exponent moves the point of the coefficient. -/
lemma expandExponent_text (convert : Conversions) (p : Plain) {x : Exponent}
    (hx : |x.power| < 2 ^ 30) :
    expandExponent convert p.text x.text = (do
      let decimalIndex ← convert.asI32 p.whole.length
      let index ← Checked.signed 32 (decimalIndex + x.power)
      let body ← movePoint convert p.digits index
      return some (p.sign ++ body)) := by
  have hsign : (if p.text.head? = some '-' then ['-'] else []) = p.sign := by
    simp only [head?_text]
    rfl
  unfold expandExponent
  rw [parseI32_text hx]
  simp only [dropWhile_text, filter_unsigned, findIdx_unsigned, hsign]

include hkeeps

/-- Every way to put the point gives the digits with the point at the index. -/
lemma movePoint_eq (p : Plain) {index : ℤ} (hlow : -2 ^ 31 < index) (hhigh : index < 2 ^ 31) :
    movePoint convert p.digits index = .ok (p.movedTo index).unsigned := by
  have hne := p.digits_ne
  unfold movePoint Plain.unsigned Plain.movedTo
  by_cases hindex : index ≤ 0
  · rw [if_pos hindex, Checked.signed_of_mem (by omega), bind_ok,
      hkeeps.asUsize (by omega) (by omega), bind_ok]
    simp [Plain.placed, hindex, hne, pure, Except.pure]
  · rw [if_neg hindex, hkeeps.asUsize (by omega) (by omega), bind_ok]
    by_cases hend : p.digits.length ≤ index.toNat
    · rw [if_pos hend, Checked.sub_of_le hend, bind_ok]
      simp [Plain.placed, hindex, hend, pure, Except.pure, List.take_of_length_le hend]
    · have hrest : p.digits.drop index.toNat ≠ [] := by
        rw [ne_eq, List.drop_eq_nil_iff]
        exact hend
      have hall : (p.digits.drop index.toNat).take (p.digits.length - index.toNat) =
          p.digits.drop index.toNat := List.take_of_length_le (by simp)
      rw [if_neg hend, Checked.slice_of_le (Nat.zero_le _) (by omega), bind_ok,
        Checked.slice_of_le (by omega) le_rfl, bind_ok]
      simp [Plain.placed, hindex, hend, pure, Except.pure, hall,
        Nat.sub_eq_zero_of_le (Nat.le_of_not_le hend)]

/-- A point that stays within the numbers of its type gets to where the exponent puts it. -/
lemma expandExponent_eq (p : Plain) {x : Exponent} (hx : |x.power| < 2 ^ 30)
    (hindex : p.whole.length < 2 ^ 30) :
    expandExponent convert p.text x.text =
      .ok (some (p.movedTo (p.whole.length + x.power)).text) := by
  obtain ⟨hlow, hhigh⟩ := abs_lt.mp hx
  rw [expandExponent_text convert p hx, hkeeps.asI32 (by omega), bind_ok,
    Checked.signed_of_mem (by omega), bind_ok, movePoint_eq hkeeps p (by omega) (by omega), bind_ok]
  rfl

lemma withoutExponent_eq {l : Literal} (hpower : |l.power| < 2 ^ 30)
    (hindex : l.exponent ≠ none → l.coefficient.whole.length < 2 ^ 30) :
    withoutExponent convert l.text = .ok l.plain.text := by
  obtain ⟨p, exponent⟩ := l
  rw [withoutExponent, splitExponent_text]
  cases exponent with
  | none => simp [Literal.text, Literal.plain]
  | some x =>
    simp only [Option.map_some]
    rw [expandExponent_eq hkeeps p hpower (hindex (Option.some_ne_none x))]
    rfl

end

/-! ### The canonical text -/

lemma point_mem_text (p : Plain) : '.' ∈ p.text ↔ p.places ≠ [] := by
  have hwhole : '.' ∉ p.whole := fun hmem => nomatch p.allDigits_whole _ hmem
  have hsign : '.' ∉ p.sign := fun hmem => nomatch Plain.eq_of_mem_sign hmem
  unfold Plain.text Plain.unsigned
  by_cases hplaces : p.places = []
  · simp [hplaces, hwhole, hsign]
  · simp [hplaces]

lemma trim_text (p : Plain) :
    (if '.' ∈ p.text then trimEnd '.' (trimEnd '0' p.text) else p.text) = p.trimmed.text := by
  by_cases hplaces : p.places = []
  · have htrimmed : p.trimmed = p := by
      refine Plain.ext rfl rfl ?_
      simp [Plain.trimmed, hplaces]
    rw [if_neg (by rw [point_mem_text]; exact not_not_intro hplaces), htrimmed]
  · rw [if_pos ((point_mem_text p).mpr hplaces), Plain.trimEnd_text hplaces]

lemma canonicalBy_text {convert : Conversions} (hkeeps : Keeps convert) {l : Literal}
    (hpower : |l.power| < 2 ^ 30)
    (hindex : l.exponent ≠ none → l.coefficient.whole.length < 2 ^ 30) :
    canonicalBy convert l.text = .ok l.plain.trimmed.text := by
  rw [canonicalBy, withoutExponent_eq hkeeps hpower hindex, ← trim_text l.plain]
  rfl

/-- What has been trimmed is left as it is. -/
lemma canonicalBy_trimmed {convert : Conversions} (p : Plain) :
    canonicalBy convert p.trimmed.text = .ok p.trimmed.text := by
  have htwice : p.trimmed.trimmed = p.trimmed := by
    refine Plain.ext rfl rfl ?_
    exact List.rdropWhile_idempotent _ _
  rw [canonicalBy, withoutExponent, splitExponent_none (mark_notMem _)]
  simp only [Except.map]
  rw [trim_text, htwice]

lemma length_whole_le (l : Literal) : l.coefficient.whole.length ≤ l.text.length := by
  unfold Literal.text Plain.text Plain.unsigned
  simp only [List.length_append]
  omega

/-- **The canonical text of a decimal literal is a plain literal of the same number**, which does
not end in a zero behind its point; nothing is out of range on the way, and the canonical text is
its own canonical text. -/
theorem canonical_literal (l : Literal) (hpower : |l.power| < 2 ^ 30)
    (hlength : l.text.length < 2 ^ 30) :
    ∃ r : Plain, canonical l.text = .ok r.text ∧ canonicalBy .checked l.text = .ok r.text ∧
      r.value = l.value ∧ r.places.getLast? ≠ some '0' ∧ canonical r.text = .ok r.text := by
  have hwhole := length_whole_le l
  refine ⟨l.plain.trimmed, ?_, ?_, ?_, ?_, ?_⟩
  · exact canonicalBy_text keeps_wrapping hpower fun _ => by omega
  · exact canonicalBy_text keeps_checked hpower fun _ => by omega
  · rw [Plain.value_trimmed, Literal.value_plain]
  · exact getLast?_trimEnd '0' _
  · exact canonicalBy_trimmed _

/-- `-12.50e-3`. -/
def fewThousandths : Literal where
  coefficient := ⟨true, ['1', '2'], ['5', '0'], by decide, by decide, by decide⟩
  exponent := some ⟨'e', ['-'], ['3'], by decide, by decide, by decide, by decide⟩

theorem canonical_fewThousandths :
    ∃ r : Plain, canonical "-12.50e-3".toList = .ok r.text ∧
      canonicalBy .checked "-12.50e-3".toList = .ok r.text ∧ r.value = fewThousandths.value ∧
      r.places.getLast? ≠ some '0' ∧ canonical r.text = .ok r.text :=
  canonical_literal fewThousandths (by decide) (by decide)

example : canonical "-12.50e-3".toList = .ok "-0.0125".toList := by decide +kernel

end MotherApi.CanonicalDecimals
