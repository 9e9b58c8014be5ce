import MotherApi.Decimal
import MotherApi.Lib.Checked

/-!
Adding decimal texts.

The loop is written here once more, index by index and with all of its checks, and shown to pass
them. What it gives is the one text of the sum at the greater scale. So adding is commutative and
associative on the texts themselves, although the operands are normalized, padded and split again
on the way.
-/

namespace MotherApi.DecimalSums

open MotherApi.Lib.Fallible MotherApi.Lib.Numerals MotherApi.Decimal
open MotherApi.Lib (Checked.getAt Checked.sub Checked.add)

/-! ### The loop with its checks -/

/-- What a round takes from an operand: `operand[operand.len() - offset - 1] - b'0'` where the
operand is long enough, and nothing after that. The bytes of digits are their characters. -/
def operandDigit (operand : List Char) (offset : ℕ) : Except (Halt DecimalError) ℕ :=
  if offset < operand.length then do
    let behind ← Checked.sub operand.length offset
    let index ← Checked.sub behind 1
    let byte ← Checked.getAt operand index
    Checked.sub byte.toNat 48
  else return 0

/-- `left_digit + right_digit + carry` in eight bits. -/
def roundSum (left right : List Char) (offset carry : ℕ) : Except (Halt DecimalError) ℕ := do
  let leftDigit ← operandDigit left offset
  let rightDigit ← operandDigit right offset
  let sum ← Checked.add 8 leftDigit rightDigit
  Checked.add 8 sum carry

lemma operandDigit_of_le {operand : List Char} {offset : ℕ} (h : operand.length ≤ offset) :
    operandDigit operand offset = .ok 0 := if_neg (by omega)

lemma roundSum_eq_ok {left right : List Char} {offset carry sum : ℕ}
    (h : roundSum left right offset carry = .ok sum) :
    ∃ l r, operandDigit left offset = .ok l ∧ operandDigit right offset = .ok r ∧
      sum = l + r + carry ∧ sum < 256 := by
  unfold roundSum at h
  obtain ⟨l, hl, h⟩ := bind_eq_ok.mp h
  obtain ⟨r, hr, h⟩ := bind_eq_ok.mp h
  obtain ⟨total, htotal, h⟩ := bind_eq_ok.mp h
  obtain ⟨rfl, -⟩ := Lib.Checked.add_eq_ok htotal
  exact ⟨l, r, hl, hr, Lib.Checked.add_eq_ok h⟩

lemma roundSum_of_le {left right : List Char} {offset carry sum : ℕ} (hl : left.length ≤ offset)
    (hr : right.length ≤ offset) (h : roundSum left right offset carry = .ok sum) :
    sum = carry := by
  obtain ⟨l, r, hleft, hright, hsum, -⟩ := roundSum_eq_ok h
  rw [operandDigit_of_le hl] at hleft
  rw [operandDigit_of_le hr] at hright
  cases hleft
  cases hright
  omega

/-- The loop of `add_integer_digits`, with the digits that were pushed so far. It ends since a
carry fits eight bits: while there are operands the offset grows, and after that the carry
shrinks. -/
def addLoop (left right : List Char) (offset carry : ℕ) (digits : List ℕ) :
    Except (Halt DecimalError) (List ℕ) :=
  if _hround : offset < left.length ∨ offset < right.length ∨ carry ≠ 0 then
    match _hsum : roundSum left right offset carry with
    | .ok sum => addLoop left right (offset + 1) (sum / 10) (digits ++ [sum % 10])
    | .error error => .error error
  else .ok digits
termination_by 256 * (max left.length right.length - offset) + carry
decreasing_by
  obtain ⟨_, _, -, -, -, hlt⟩ := roundSum_eq_ok _hsum
  by_cases hoffset : offset < max left.length right.length
  · omega
  · have hcarry := roundSum_of_le (by omega) (by omega) _hsum
    omega

/-- `b'0' + digit` in eight bits. -/
def sumDigit (digit : ℕ) : Except (Halt DecimalError) Char := do
  let byte ← Checked.add 8 48 digit
  return Char.ofNat byte

def addIntegerDigitsChecked (left right : List Char) : Except (Halt DecimalError) (List Char) := do
  let digits ← addLoop left right 0 0 []
  digits.reverse.mapM sumDigit

def addUnsignedDecimalsChecked (left right : String) : Except (Halt DecimalError) String := do
  let left ← lift (parseUnsignedDecimal left.toList)
  let right ← lift (parseUnsignedDecimal right.toList)
  let scale := max left.scale right.scale
  let leftZeros ← Checked.sub scale left.scale
  let rightZeros ← Checked.sub scale right.scale
  let leftDigits := left.digits ++ List.replicate leftZeros '0'
  let rightDigits := right.digits ++ List.replicate rightZeros '0'
  let digits ← addIntegerDigitsChecked leftDigits rightDigits
  return String.ofList (formatScaledDigits digits scale)

lemma operandDigit_eq {operand : List Char} (h : AllDigits operand) (offset : ℕ) :
    operandDigit operand offset = .ok ((operand.reverse.map digit)[offset]?.getD 0) := by
  by_cases hlt : offset < operand.length
  · have hbyte : 48 ≤ (operand[operand.length - offset - 1]).toNat :=
      (isDigit_iff.mp (h _ (List.getElem_mem _))).1
    have hdigit : (operand.reverse.map digit)[offset]?.getD 0 =
        operand[operand.length - offset - 1].toNat - 48 := by
      rw [List.getElem?_map, List.getElem?_reverse hlt, Nat.sub_right_comm,
        List.getElem?_eq_getElem (by omega)]
      rfl
    unfold operandDigit
    rw [if_pos hlt, Lib.Checked.sub_of_le hlt.le, hdigit]
    simp only [bind, Except.bind]
    rw [Lib.Checked.sub_of_le (by omega)]
    simp only
    rw [Lib.Checked.getAt_of_lt (by omega)]
    exact Lib.Checked.sub_of_le hbyte
  · rw [operandDigit_of_le (by omega), List.getElem?_eq_none (by simp; omega)]
    rfl

/-! ### The loop passes its checks -/

lemma roundDigit_lt {operand : List Char} (h : AllDigits operand) (offset : ℕ) :
    (operand.reverse.map digit)[offset]?.getD 0 < 10 := by
  cases hget : (operand.reverse.map digit)[offset]? with
  | none => simp
  | some d => exact digits_lt h d (List.mem_of_getElem? hget)

lemma roundSum_eq {left right : List Char} (hl : AllDigits left) (hr : AllDigits right)
    (offset : ℕ) {carry : ℕ} (hcarry : carry ≤ 1) :
    roundSum left right offset carry =
      .ok ((left.reverse.map digit)[offset]?.getD 0 +
        (right.reverse.map digit)[offset]?.getD 0 + carry) := by
  have hleft := roundDigit_lt hl offset
  have hright := roundDigit_lt hr offset
  unfold roundSum
  rw [operandDigit_eq hl, operandDigit_eq hr]
  simp only [bind, Except.bind]
  rw [Lib.Checked.add_of_lt (by omega)]
  exact Lib.Checked.add_of_lt (by omega)

/-- One round of the sum of two lists of digits, wherever they end. -/
lemma addDigits_round {left right : List ℕ} {carry : ℕ} (hcarry : carry ≤ 1)
    (h : left ≠ [] ∨ right ≠ [] ∨ carry ≠ 0) :
    addDigits left right carry =
      (left[0]?.getD 0 + right[0]?.getD 0 + carry) % 10 ::
        addDigits left.tail right.tail ((left[0]?.getD 0 + right[0]?.getD 0 + carry) / 10) := by
  cases left with
  | nil =>
    cases right with
    | nil =>
      have hone : carry = 1 := by simp_all; omega
      subst hone
      rfl
    | cons r right => simp [addDigits, carryDigits]
  | cons l left =>
    cases right with
    | nil => cases left <;> simp [addDigits, carryDigits]
    | cons r right => simp [addDigits]

/-- The loop returns, and what it pushes is the sum of the digits that are left. -/
lemma addLoop_eq {left right : List Char} (hl : AllDigits left) (hr : AllDigits right)
    (offset carry : ℕ) (digits : List ℕ) (hcarry : carry ≤ 1) :
    addLoop left right offset carry digits =
      .ok (digits ++ addDigits ((left.reverse.map digit).drop offset)
        ((right.reverse.map digit).drop offset) carry) := by
  fun_induction addLoop left right offset carry digits with
  | case1 offset carry digits hround sum hsum ih =>
    rw [roundSum_eq hl hr offset hcarry, Except.ok.injEq] at hsum
    have hne : (left.reverse.map digit).drop offset ≠ [] ∨
        (right.reverse.map digit).drop offset ≠ [] ∨ carry ≠ 0 := by
      simpa [List.drop_eq_nil_iff] using hround
    have hleft := roundDigit_lt hl offset
    have hright := roundDigit_lt hr offset
    rw [ih (by omega), addDigits_round hcarry hne]
    simp [← hsum, List.tail_drop]
  | case2 offset carry digits hround error hsum =>
    rw [roundSum_eq hl hr offset hcarry] at hsum
    cases hsum
  | case3 offset carry digits hround =>
    simp only [not_or, not_lt, not_not] at hround
    obtain ⟨hleft, hright, rfl⟩ := hround
    rw [List.drop_eq_nil_of_le (by simpa using hleft),
      List.drop_eq_nil_of_le (by simpa using hright)]
    simp [addDigits, carryDigits]

lemma mapM_sumDigit {digits : List ℕ} (h : ∀ d ∈ digits, d < 10) :
    digits.mapM sumDigit = .ok (digits.map digitChar) := by
  refine mapM_eq_map fun d hd => ?_
  have hlt := h d hd
  unfold sumDigit
  rw [Lib.Checked.add_of_lt (by omega)]
  rfl

lemma addIntegerDigitsChecked_eq {left right : List Char} (hl : AllDigits left)
    (hr : AllDigits right) :
    addIntegerDigitsChecked left right = .ok (addIntegerDigits left right) := by
  obtain ⟨hdigits, -, -⟩ := addDigits_spec (digits_lt hl) (digits_lt hr) (Nat.zero_le 1)
  unfold addIntegerDigitsChecked
  rw [addLoop_eq hl hr 0 0 [] (Nat.zero_le 1)]
  exact mapM_sumDigit fun d hd => hdigits d (by simpa using hd)

/-- Adding with all checks is adding: no check fails. -/
lemma addUnsignedDecimalsChecked_eq (left right : String) :
    addUnsignedDecimalsChecked left right = lift (addUnsignedDecimals left right) := by
  unfold addUnsignedDecimalsChecked addUnsignedDecimals
  cases hl : parseUnsignedDecimal left.toList with
  | error error => rfl
  | ok l =>
    cases hr : parseUnsignedDecimal right.toList with
    | error error => rfl
    | ok r =>
      have hld := (parseUnsignedDecimal_spec hl).1
      have hrd := (parseUnsignedDecimal_spec hr).1
      simp only [lift, bind, Except.bind, pure, Except.pure]
      rw [Lib.Checked.sub_of_le (le_max_left _ _)]
      simp only
      rw [Lib.Checked.sub_of_le (le_max_right _ _)]
      simp only
      rw [addIntegerDigitsChecked_eq (allDigits_append.mpr ⟨hld, allDigits_zeros _⟩)
        (allDigits_append.mpr ⟨hrd, allDigits_zeros _⟩)]

/-! ### The sum -/

/-- The sum of what two decimals say, at the greater scale. -/
lemma addUnsignedDecimals_of_reads {left right : String} {n m scale scale' : ℕ}
    (hl : Reads left.toList n scale) (hr : Reads right.toList m scale') :
    ∃ text, addUnsignedDecimals left right = .ok text ∧
      Denotes text (n / 10 ^ scale + m / 10 ^ scale') (max scale scale') := by
  obtain ⟨l, hleft, rfl, rfl⟩ := hl.parse
  obtain ⟨r, hright, rfl, rfl⟩ := hr.parse
  rcases addUnsignedDecimals_denotes left right with ⟨x, y, text, hx, hy, htext, hdenotes⟩ |
    ⟨hnone, -⟩
  · simp only [decimalValue, hleft, hright, Option.some.injEq] at hx hy
    simp only [decimalScale, hleft, hright] at hdenotes
    exact ⟨text, htext, by rwa [hx, hy]⟩
  · simp [decimalValue, hleft, hright] at hnone

lemma addUnsignedDecimals_error {left right : String}
    (h : ¬IsDecimal left.toList ∨ ¬IsDecimal right.toList) :
    addUnsignedDecimals left right = .error .invalidUnsignedDecimal := by
  rw [← exists_parse_iff, ← exists_parse_iff] at h
  unfold addUnsignedDecimals
  cases hl : parseUnsignedDecimal left.toList with
  | error error =>
    rw [parseUnsignedDecimal_error hl]
    rfl
  | ok l =>
    cases hr : parseUnsignedDecimal right.toList with
    | error error =>
      rw [parseUnsignedDecimal_error hr]
      rfl
    | ok r => simp [hl, hr] at h

/-- A sum is a decimal, and there is one exactly if both operands are decimals. -/
lemma exists_sum_iff {left right : String} :
    (∃ text, addUnsignedDecimals left right = .ok text) ↔
      IsDecimal left.toList ∧ IsDecimal right.toList := by
  constructor
  · rintro ⟨text, htext⟩
    by_contra hnot
    rw [addUnsignedDecimals_error (not_and_or.mp hnot)] at htext
    cases htext
  · rintro ⟨hl, hr⟩
    obtain ⟨n, scale, hl⟩ := isDecimal_iff.mp hl
    obtain ⟨m, scale', hr⟩ := isDecimal_iff.mp hr
    obtain ⟨text, htext, -⟩ := addUnsignedDecimals_of_reads hl hr
    exact ⟨text, htext⟩

lemma addUnsignedDecimals_comm (left right : String) :
    addUnsignedDecimals left right = addUnsignedDecimals right left := by
  by_cases h : IsDecimal left.toList ∧ IsDecimal right.toList
  · obtain ⟨n, scale, hl⟩ := isDecimal_iff.mp h.1
    obtain ⟨m, scale', hr⟩ := isDecimal_iff.mp h.2
    obtain ⟨text, htext, hdenotes⟩ := addUnsignedDecimals_of_reads hl hr
    obtain ⟨text', htext', hdenotes'⟩ := addUnsignedDecimals_of_reads hr hl
    rw [add_comm, max_comm] at hdenotes'
    rw [htext, htext', hdenotes.unique hdenotes']
  · rw [addUnsignedDecimals_error (not_and_or.mp h),
      addUnsignedDecimals_error (not_and_or.mp h).symm]

lemma addUnsignedDecimals_assoc (left middle right : String) :
    (addUnsignedDecimals left middle >>= fun sum => addUnsignedDecimals sum right) =
      (addUnsignedDecimals middle right >>= fun sum => addUnsignedDecimals left sum) := by
  by_cases h : IsDecimal left.toList ∧ IsDecimal middle.toList ∧ IsDecimal right.toList
  · obtain ⟨hl, hm, hr⟩ := h
    obtain ⟨n, scale, hl⟩ := isDecimal_iff.mp hl
    obtain ⟨m, scale', hm⟩ := isDecimal_iff.mp hm
    obtain ⟨k, scale'', hr⟩ := isDecimal_iff.mp hr
    obtain ⟨first, hfirst, hdenotes⟩ := addUnsignedDecimals_of_reads hl hm
    obtain ⟨last, hlast, hdenotes'⟩ := addUnsignedDecimals_of_reads hm hr
    obtain ⟨x, hx, hxq⟩ := hdenotes.reads
    obtain ⟨y, hy, hyq⟩ := hdenotes'.reads
    obtain ⟨text, htext, htotal⟩ := addUnsignedDecimals_of_reads hx hr
    obtain ⟨text', htext', htotal'⟩ := addUnsignedDecimals_of_reads hl hy
    rw [hxq] at htotal
    rw [hyq, ← add_assoc, ← max_assoc] at htotal'
    rw [hfirst, hlast]
    show addUnsignedDecimals first right = addUnsignedDecimals left last
    rw [htext, htext', htotal.unique htotal']
  · -- whichever it is that is no decimal, both sides fail, and with the same error
    have hleft : (addUnsignedDecimals left middle >>= fun sum => addUnsignedDecimals sum right) =
        .error .invalidUnsignedDecimal := by
      by_cases hlm : IsDecimal left.toList ∧ IsDecimal middle.toList
      · obtain ⟨sum, hsum⟩ := exists_sum_iff.mpr hlm
        have hr : ¬IsDecimal right.toList := fun hr => h ⟨hlm.1, hlm.2, hr⟩
        rw [hsum]
        exact addUnsignedDecimals_error (Or.inr hr)
      · rw [addUnsignedDecimals_error (not_and_or.mp hlm)]
        rfl
    have hright : (addUnsignedDecimals middle right >>= fun sum => addUnsignedDecimals left sum) =
        .error .invalidUnsignedDecimal := by
      by_cases hmr : IsDecimal middle.toList ∧ IsDecimal right.toList
      · obtain ⟨sum, hsum⟩ := exists_sum_iff.mpr hmr
        have hl : ¬IsDecimal left.toList := fun hl => h ⟨hl, hmr⟩
        rw [hsum]
        exact addUnsignedDecimals_error (Or.inl hl)
      · rw [addUnsignedDecimals_error (not_and_or.mp hmr)]
        rfl
    rw [hleft, hright]

lemma addUnsignedDecimals_swap (sum left right : String) :
    (addUnsignedDecimals sum left >>= fun total => addUnsignedDecimals total right) =
      (addUnsignedDecimals sum right >>= fun total => addUnsignedDecimals total left) := by
  rw [addUnsignedDecimals_assoc, addUnsignedDecimals_comm left right, ← addUnsignedDecimals_assoc]

lemma addUnsignedDecimals_zero {text : String} {q : ℚ} {scale : ℕ} (h : Denotes text q scale) :
    addUnsignedDecimals text "0" = .ok text := by
  obtain ⟨n, hreads, hq⟩ := h.reads
  obtain ⟨m, hzero, hzeroq⟩ := denotes_zero.reads
  obtain ⟨sum, hsum, hdenotes⟩ := addUnsignedDecimals_of_reads hreads hzero
  rw [hzeroq, hq, add_zero, Nat.max_zero] at hdenotes
  rw [hsum, hdenotes.unique h]

/-- **Adding decimals is exact, and the order does not show in the text.** The loop with all its
checks passes them; there is a sum exactly if both operands are decimals, and it denotes the sum
of what they say, at the greater scale and without a redundant zero; texts may be added in any
grouping and in any order, and `"0"` changes no text of that shape. -/
theorem addUnsignedDecimals_exact :
    (∀ left right,
      addUnsignedDecimalsChecked left right = lift (addUnsignedDecimals left right)) ∧
    (∀ left right, (∃ text, addUnsignedDecimals left right = .ok text) ↔
      IsDecimal left.toList ∧ IsDecimal right.toList) ∧
    (∀ left right text n m scale scale', addUnsignedDecimals left right = .ok text →
      Reads left.toList n scale → Reads right.toList m scale' →
      Denotes text (n / 10 ^ scale + m / 10 ^ scale') (max scale scale')) ∧
    (∀ left right, addUnsignedDecimals left right = addUnsignedDecimals right left) ∧
    (∀ left middle right,
      (addUnsignedDecimals left middle >>= fun sum => addUnsignedDecimals sum right) =
        (addUnsignedDecimals middle right >>= fun sum => addUnsignedDecimals left sum)) ∧
    (∀ start values values', List.Perm values values' →
      values.foldlM addUnsignedDecimals start = values'.foldlM addUnsignedDecimals start) ∧
    ∀ text q scale, Denotes text q scale → addUnsignedDecimals text "0" = .ok text := by
  refine ⟨addUnsignedDecimalsChecked_eq, fun _ _ => exists_sum_iff, ?_, addUnsignedDecimals_comm,
    addUnsignedDecimals_assoc, ?_, fun _ _ _ => addUnsignedDecimals_zero⟩
  · intro left right text n m scale scale' htext hl hr
    obtain ⟨sum, hsum, hdenotes⟩ := addUnsignedDecimals_of_reads hl hr
    rw [htext, Except.ok.injEq] at hsum
    exact hsum ▸ hdenotes
  · intro start values values' hperm
    exact foldlM_perm addUnsignedDecimals_swap hperm start

end MotherApi.DecimalSums
