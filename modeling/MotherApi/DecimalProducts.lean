import MotherApi.Decimal
import MotherApi.Lib.Checked

/-!
Multiplying decimal texts.

The loops are written here once more, index by index and with all of their checks. A cell collects
at most one product of digits from each row, and rows meet it only while it is within their reach;
so it stays below eighty-one times the length of the shorter operand, and the carries that come
into it below nine times that. Where this fits 32 bits, nothing wraps, and the product is exact.
-/

namespace MotherApi.DecimalProducts

open MotherApi.Lib.Fallible MotherApi.Lib.Numerals MotherApi.Decimal
open MotherApi.Lib (Checked.getAt Checked.sub Checked.add)

/-! ### The loops with their checks -/

abbrev Product := Except (Halt DecimalError)

/-- `product[index] += amount` in 32 bits. -/
def addAt (product : List ℕ) (index amount : ℕ) : Product (List ℕ) := do
  let cell ← Checked.getAt product index
  let cell ← Checked.add 32 cell amount
  setAt product index cell

/-- The inner loop. -/
def multiplyRow (right : List ℕ) (product : List ℕ) (leftIndex leftDigit : ℕ) :
    Product (List ℕ) :=
  right.zipIdx.foldlM (fun product (rightDigit, rightIndex) =>
    addAt product (leftIndex + rightIndex) (leftDigit * rightDigit)) product

/-- The outer loop, from cells that are zero. -/
def multiplyRows (left right : List ℕ) : Product (List ℕ) :=
  left.zipIdx.foldlM (fun product (leftDigit, leftIndex) =>
    multiplyRow right product leftIndex leftDigit)
    (List.replicate (left.length + right.length) 0)

/-- One round of the pass over the cells. -/
def carryCell (product : List ℕ) (index : ℕ) : Product (List ℕ) := do
  let cell ← Checked.getAt product index
  let product ← setAt product index (cell % 10)
  addAt product (index + 1) (cell / 10)

def carryCells (product : List ℕ) : Product (List ℕ) := do
  let last ← Checked.sub product.length 1
  (List.range last).foldlM carryCell product

/-- `byte - b'0'`. -/
def byteDigit (byte : Char) : Product ℕ := Checked.sub byte.toNat 48

/-- The cells that are left of the product of two numerals, from the first digit to the last. -/
def outputCells (left right : List Char) : Product (List ℕ) := do
  let left ← left.reverse.mapM byteDigit
  let right ← right.reverse.mapM byteDigit
  let product ← multiplyRows left right
  let product ← carryCells product
  return product.reverse.dropWhile (· == 0)

/-- `b'0' + u8::try_from(digit).expect(..)`. -/
def outputDigit (cell : ℕ) : Product Char := do
  let digit ← expect (if cell < 256 then some cell else none)
  let byte ← Checked.add 8 48 digit
  return Char.ofNat byte

def multiplyIntegerDigitsChecked (left right : List Char) : Product (List Char) :=
  let left := normalizeIntegerDigits left
  let right := normalizeIntegerDigits right
  if left = ['0'] ∨ right = ['0'] then .ok ['0']
  else do
    let cells ← outputCells left right
    cells.mapM outputDigit

def multiplyAmountByPriceChecked (rawAmount : String) (balanceDecimals : ℕ) (unitPrice : String) :
    Product String :=
  if isUnsignedInteger rawAmount.toList then do
    let price ← lift (parseUnsignedDecimal unitPrice.toList)
    let product ← multiplyIntegerDigitsChecked rawAmount.toList price.digits
    let (product, scale) :=
      if product = ['0'] then (product, balanceDecimals)
      else trimScale balanceDecimals product (balanceDecimals + price.scale)
    return String.ofList (formatScaledDigits product scale)
  else .error (.error .invalidUnsignedInteger)

/-! ### Cells below their bounds -/

/-- Every cell is at most what the bound says for its place. -/
def Below (bound : ℕ → ℕ) (cells : List ℕ) : Prop := ∀ p c, cells[p]? = some c → c ≤ bound p

lemma Below.head {bound : ℕ → ℕ} {cell : ℕ} {cells : List ℕ} (h : Below bound (cell :: cells)) :
    cell ≤ bound 0 := h 0 cell rfl

lemma Below.tail {bound : ℕ → ℕ} {cell : ℕ} {cells : List ℕ} (h : Below bound (cell :: cells)) :
    Below (fun p => bound (p + 1)) cells := fun p c hc => h (p + 1) c hc

lemma below_cons {bound : ℕ → ℕ} {cell : ℕ} {cells : List ℕ} (hcell : cell ≤ bound 0)
    (hcells : Below (fun p => bound (p + 1)) cells) : Below bound (cell :: cells) := by
  rintro (_ | p) c hc
  · cases hc
    exact hcell
  · exact hcells p c hc

lemma Below.mono {bound bound' : ℕ → ℕ} {cells : List ℕ} (h : Below bound cells)
    (hle : ∀ p, bound p ≤ bound' p) : Below bound' cells :=
  fun p c hc => (h p c hc).trans (hle p)

lemma mul_le_of_digits {l r : ℕ} (hl : l < 10) (hr : r < 10) : l * r ≤ 81 := by
  calc l * r ≤ 9 * 9 := Nat.mul_le_mul (by omega) (by omega)
    _ = 81 := rfl

lemma addRow_below {bound : ℕ → ℕ} {cells right : List ℕ} {l : ℕ} (hcells : Below bound cells)
    (hl : l < 10) (hr : ∀ r ∈ right, r < 10) :
    Below (fun p => bound p + if p < right.length then 81 else 0) (addRow cells l right) := by
  induction right generalizing bound cells with
  | nil => cases cells <;> simpa [addRow] using hcells
  | cons r right ih =>
    cases cells with
    | nil => simpa [addRow] using hcells.mono fun p => Nat.le_add_right _ _
    | cons cell cells =>
      have hmul := mul_le_of_digits hl (hr r List.mem_cons_self)
      have hmod := Nat.mod_le (cell + l * r) (2 ^ 32)
      have hhead := hcells.head
      refine below_cons (by simp; omega) ?_
      have htail := ih hcells.tail fun d hd => hr d (List.mem_cons_of_mem _ hd)
      exact htail.mono fun p => by simp

/-- Where no cell wraps, a row adds its digit times the other operand. -/
lemma addRow_exact {bound : ℕ → ℕ} {cells right : List ℕ} {l : ℕ} (hcells : Below bound cells)
    (hbound : ∀ p, p < right.length → bound p + 81 < 2 ^ 32) (hl : l < 10)
    (hr : ∀ r ∈ right, r < 10) (hlen : right.length ≤ cells.length) :
    Nat.ofDigits 10 (addRow cells l right) =
      Nat.ofDigits 10 cells + l * Nat.ofDigits 10 right := by
  induction right generalizing bound cells with
  | nil => cases cells <;> simp [addRow]
  | cons r right ih =>
    obtain ⟨cell, cells, rfl⟩ : ∃ cell rest, cells = cell :: rest :=
      List.exists_cons_of_length_pos (by simp at hlen; omega)
    have hmul := mul_le_of_digits hl (hr r List.mem_cons_self)
    have hhead := hcells.head
    have hfits := hbound 0 (by simp)
    have htail := ih hcells.tail (fun p hp => hbound (p + 1) (by simpa using hp))
      (fun d hd => hr d (List.mem_cons_of_mem _ hd)) (by simpa using hlen)
    rw [addRow, Nat.mod_eq_of_lt (by omega), Nat.ofDigits_cons, htail, Nat.ofDigits_cons,
      Nat.ofDigits_cons]
    ring

lemma addAt_append {front cells : List ℕ} {cell amount : ℕ} (h : cell + amount < 2 ^ 32) :
    addAt (front ++ cell :: cells) front.length amount =
      .ok (front ++ (cell + amount) :: cells) := by
  unfold addAt
  rw [Lib.Checked.getAt_of_lt (by simp)]
  simp only [bind, Except.bind, List.getElem_append_right, le_refl, Nat.sub_self,
    List.getElem_cons_zero]
  rw [Lib.Checked.add_of_lt h]
  simp only [setAt]
  rw [if_pos (by simp), List.set_append_right _ _ le_rfl, Nat.sub_self, List.set_cons_zero]

/-- Where no cell wraps, the inner loop passes its checks. -/
lemma multiplyRow_eq {bound : ℕ → ℕ} {cells right : List ℕ} {l leftIndex rightIndex : ℕ}
    {front : List ℕ} (hfront : front.length = leftIndex + rightIndex)
    (hcells : Below bound cells) (hbound : ∀ p, p < right.length → bound p + 81 < 2 ^ 32)
    (hl : l < 10) (hr : ∀ r ∈ right, r < 10) (hlen : right.length ≤ cells.length) :
    (right.zipIdx rightIndex).foldlM (fun product (rightDigit, rightIndex) =>
        addAt product (leftIndex + rightIndex) (l * rightDigit)) (front ++ cells) =
      .ok (front ++ addRow cells l right) := by
  induction right generalizing bound cells rightIndex front with
  | nil => cases cells <;> rfl
  | cons r right ih =>
    obtain ⟨cell, cells, rfl⟩ : ∃ cell rest, cells = cell :: rest :=
      List.exists_cons_of_length_pos (by simp at hlen; omega)
    have hmul := mul_le_of_digits hl (hr r List.mem_cons_self)
    have hhead := hcells.head
    have hfits := hbound 0 (by simp)
    have hstep : addAt (front ++ cell :: cells) (leftIndex + rightIndex) (l * r) =
        .ok (front ++ [cell + l * r] ++ cells) := by
      rw [← hfront, addAt_append (by omega), List.append_assoc, List.singleton_append]
    have htail := @ih _ cells (rightIndex + 1) (front ++ [cell + l * r]) (by simp; omega)
      hcells.tail (fun p hp => hbound (p + 1) (by simpa using hp))
      (fun d hd => hr d (List.mem_cons_of_mem _ hd)) (by simpa using hlen)
    rw [List.append_assoc front _ (addRow cells l right), List.singleton_append] at htail
    rw [List.zipIdx_cons, List.foldlM_cons, addRow, Nat.mod_eq_of_lt (by omega), ← htail]
    simp only [hstep]
    rfl

/-- Cells before row `i`: a cell has met the rows of the last few digits, and fewer the further
it is. -/
def rowBound (right : List ℕ) (i p : ℕ) : ℕ := 81 * min i (right.length - 1 - p)

/-- The outer loop: where the bound of the longest column fits, it passes its checks, and the
cells denote the product. -/
lemma multiplyRows_eq {left right cells front : List ℕ} {i bound : ℕ}
    (hl : ∀ l ∈ left, l < 10) (hr : ∀ r ∈ right, r < 10) (hfront : front.length = i)
    (hcells : Below (rowBound right i) cells) (hlen : left.length + right.length ≤ cells.length)
    (hbound : 81 * min (i + left.length) right.length ≤ bound) (hfits : bound < 2 ^ 32) :
    (left.zipIdx i).foldlM (fun product (leftDigit, leftIndex) =>
        multiplyRow right product leftIndex leftDigit) (front ++ cells) =
      .ok (front ++ productCells left right cells) ∧
    Nat.ofDigits 10 (productCells left right cells) =
      Nat.ofDigits 10 cells + Nat.ofDigits 10 left * Nat.ofDigits 10 right ∧
    ∀ c ∈ productCells left right cells, c ≤ bound := by
  induction left generalizing cells front i with
  | nil =>
    refine ⟨rfl, by simp [productCells], fun c hc => ?_⟩
    obtain ⟨p, hp⟩ := List.getElem?_of_mem hc
    have hle := hcells p c hp
    simp only [rowBound, List.length_nil, Nat.add_zero] at hle hbound
    omega
  | cons l left ih =>
    simp only [List.length_cons] at hlen hbound
    have hl0 := hl l List.mem_cons_self
    have hrow : ∀ p, p < right.length → rowBound right i p + 81 < 2 ^ 32 := by
      intro p hp
      simp only [rowBound]
      omega
    have hchecked : multiplyRow right (front ++ cells) i l = .ok (front ++ addRow cells l right) :=
      multiplyRow_eq (by omega) hcells hrow hl0 hr (by omega)
    have hexact := addRow_exact hcells hrow hl0 hr (by omega)
    have hbelow := addRow_below hcells hl0 hr
    obtain ⟨cell, rest, hcons⟩ : ∃ cell rest, addRow cells l right = cell :: rest := by
      refine List.exists_cons_of_length_pos ?_
      rw [addRow_length]
      omega
    rw [hcons] at hchecked hexact hbelow
    have hrest : Below (rowBound right (i + 1)) rest := by
      refine hbelow.tail.mono fun p => ?_
      simp only [rowBound]
      split <;> omega
    have hrestlen : left.length + right.length ≤ rest.length := by
      have := addRow_length cells l right
      rw [hcons, List.length_cons] at this
      omega
    obtain ⟨hloop, hvalue, hall⟩ := @ih rest (front ++ [cell]) (i + 1)
      (fun d hd => hl d (List.mem_cons_of_mem _ hd)) (by simp; omega) hrest hrestlen (by omega)
    have hproduct : productCells (l :: left) right cells =
        cell :: productCells left right rest := by
      rw [productCells, hcons]
    rw [hproduct]
    refine ⟨?_, ?_, ?_⟩
    · simp only [List.append_assoc, List.singleton_append] at hloop
      rw [List.zipIdx_cons, List.foldlM_cons, ← hloop]
      simp only [hchecked]
      rfl
    · rw [Nat.ofDigits_cons] at hexact
      rw [Nat.ofDigits_cons, hvalue, Nat.ofDigits_cons, Nat.add_mul, ← Nat.add_assoc, ← hexact]
      ring
    · intro c hc
      rcases List.mem_cons.mp hc with rfl | hc
      · have hhead := hbelow.head
        simp only [rowBound] at hhead
        split at hhead <;> omega
      · exact hall c hc

lemma carryCell_append {front rest : List ℕ} {cell next : ℕ} (h : next + cell / 10 < 2 ^ 32) :
    carryCell (front ++ cell :: next :: rest) front.length =
      .ok (front ++ [cell % 10] ++ (next + cell / 10) :: rest) := by
  unfold carryCell
  rw [Lib.Checked.getAt_of_lt (by simp)]
  simp only [bind, Except.bind, List.getElem_append_right, le_refl, Nat.sub_self,
    List.getElem_cons_zero, setAt]
  rw [if_pos (by simp), List.set_append_right _ _ le_rfl, Nat.sub_self, List.set_cons_zero]
  have hadd := @addAt_append (front ++ [cell % 10]) rest next (cell / 10) h
  rw [List.length_append, List.length_singleton, List.append_assoc, List.singleton_append] at hadd
  exact hadd

/-- The pass over the cells: where a cell and the carry into it fit, it passes its checks and
keeps what the cells denote. -/
lemma carryCells_eq {front rest : List ℕ} {cell carry m : ℕ} (hcell : cell ≤ 81 * m)
    (hrest : ∀ c ∈ rest, c ≤ 81 * m) (hcarry : carry ≤ 9 * m) (hfits : 90 * m < 2 ^ 32) :
    (List.range' front.length rest.length).foldlM carryCell (front ++ (cell + carry) :: rest) =
      .ok (front ++ carryPass carry (cell :: rest)) ∧
    Nat.ofDigits 10 (carryPass carry (cell :: rest)) =
      carry + Nat.ofDigits 10 (cell :: rest) := by
  induction rest generalizing front cell carry with
  | nil =>
    rw [carryPass, Nat.mod_eq_of_lt (by omega)]
    refine ⟨rfl, ?_⟩
    simp only [Nat.ofDigits_singleton]
    omega
  | cons next rest ih =>
    have hnext := hrest next List.mem_cons_self
    have hstep := @carryCell_append front rest (cell + carry) next (by omega)
    obtain ⟨hloop, hvalue⟩ := @ih (front ++ [(cell + carry) % 10]) next ((cell + carry) / 10) hnext
      (fun c hc => hrest c (List.mem_cons_of_mem _ hc)) (by omega)
    have hpass : carryPass carry (cell :: next :: rest) =
        (cell + carry) % 10 :: carryPass ((cell + carry) / 10) (next :: rest) := by
      have hfit : (cell + carry) % 2 ^ 32 = cell + carry := Nat.mod_eq_of_lt (by omega)
      rw [carryPass]
      simp only [hfit]
    rw [hpass]
    refine ⟨?_, ?_⟩
    · rw [List.length_append, List.length_singleton, List.append_assoc _ _ (carryPass _ _),
        List.singleton_append] at hloop
      rw [List.length_cons, List.range'_succ, List.foldlM_cons, hstep, ← hloop]
      rfl
    · have hcons : Nat.ofDigits 10 (cell :: next :: rest) =
          cell + 10 * Nat.ofDigits 10 (next :: rest) := Nat.ofDigits_cons
      rw [Nat.ofDigits_cons, hvalue, hcons]
      omega

/-! ### The product of two numerals -/

lemma mapM_byteDigit {cs : List Char} (h : AllDigits cs) :
    cs.mapM byteDigit = .ok (cs.map digit) :=
  mapM_eq_map fun c hc => Lib.Checked.sub_of_le (isDigit_iff.mp (h c hc)).1

lemma mapM_outputDigit {cells : List ℕ} (h : ∀ c ∈ cells, c < 10) :
    cells.mapM outputDigit = .ok (cells.map digitChar) := by
  refine mapM_eq_map fun c hc => ?_
  have hlt := h c hc
  unfold outputDigit
  rw [if_pos (by omega)]
  simp only [expect, bind, Except.bind]
  rw [Lib.Checked.add_of_lt (by omega)]
  rfl

lemma number_dropWhile_zero (cells : List ℕ) :
    number ((cells.dropWhile (· == 0)).map digitChar) = number (cells.map digitChar) := by
  induction cells with
  | nil => rfl
  | cons cell cells ih =>
    by_cases hzero : cell = 0
    · subst hzero
      rw [List.dropWhile_cons_of_pos rfl, ih, List.map_cons, number_cons]
      simp [digit, digitChar]
    · rw [List.dropWhile_cons_of_neg (by simpa using hzero)]

variable {left right : List Char}

/-- What the loops leave: the digits of the product. -/
lemma outputCells_eq (hl : AllDigits left) (hr : AllDigits right) (hne : left ≠ [])
    (hshort : 90 * min left.length right.length < 2 ^ 32) : ∃ cells,
    outputCells left right = .ok cells ∧ (∀ c ∈ cells, c < 10) ∧
      number (cells.map digitChar) = number left * number right ∧
      cells = (carryPass 0 (productCells (left.reverse.map digit) (right.reverse.map digit)
        (List.replicate (left.length + right.length) 0))).reverse.dropWhile (· == 0) := by
  have hld := digits_lt hl
  have hrd := digits_lt hr
  have hlen := List.length_pos_iff.mpr hne
  have hzeros : Below (rowBound (right.reverse.map digit) 0)
      (List.replicate (left.length + right.length) 0) := by
    intro p c hc
    rw [List.eq_of_mem_replicate (List.mem_of_getElem? hc)]
    exact Nat.zero_le _
  obtain ⟨hrows, hvalue, hbound⟩ := @multiplyRows_eq _ _ _ [] 0
    (81 * min left.length right.length) hld hrd rfl hzeros (by simp) (by simp) (by omega)
  generalize hproduct : productCells (left.reverse.map digit) (right.reverse.map digit)
    (List.replicate (left.length + right.length) 0) = product at hrows hvalue hbound ⊢
  have hproductlen : product.length = left.length + right.length := by
    rw [← hproduct, productCells_length, List.length_replicate]
  obtain ⟨cell, rest, rfl⟩ : ∃ cell rest, product = cell :: rest :=
    List.exists_cons_of_length_pos (by omega)
  obtain ⟨hcarry, hkept⟩ := @carryCells_eq [] rest cell 0 (min left.length right.length)
    (hbound cell List.mem_cons_self) (fun c hc => hbound c (List.mem_cons_of_mem _ hc))
    (Nat.zero_le _) hshort
  rw [Nat.ofDigits_replicate_zero, Nat.zero_add, ofDigits_reverse_map_digit,
    ofDigits_reverse_map_digit] at hvalue
  rw [hvalue, Nat.zero_add] at hkept
  -- the value has no more digits than there are cells, so no cell has more than one
  have hdigits : ∀ c ∈ carryPass 0 (cell :: rest), c < 10 := by
    refine all_lt_of_dropLast (carryPass_dropLast 0 (cell :: rest)) ?_
    rw [carryPass_length, hproductlen, hkept, pow_add]
    exact Nat.mul_lt_mul'' (number_lt hl) (number_lt hr)
  refine ⟨_, ?_, fun c hc => hdigits c ?_, ?_, rfl⟩
  · unfold outputCells carryCells
    rw [mapM_byteDigit fun c hc => hl c (List.mem_reverse.mp hc),
      mapM_byteDigit fun c hc => hr c (List.mem_reverse.mp hc)]
    simp only [bind, Except.bind, multiplyRows, List.length_map, List.length_reverse]
    simp only [List.nil_append, List.length_nil, Nat.add_zero] at hrows hcarry
    rw [hrows]
    simp only [List.length_cons]
    rw [Lib.Checked.sub_of_le (by omega)]
    simp only [Nat.add_sub_cancel, List.range_eq_range']
    rw [hcarry]
    rfl
  · exact List.mem_reverse.mp ((List.dropWhile_sublist _).subset hc)
  · rw [number_dropWhile_zero, number_reverse_map_digitChar hdigits, hkept]

/-- With the checks or without them, the product of two numerals is the numeral of the product. -/
lemma multiplyIntegerDigits_exact (hl : AllDigits left) (hr : AllDigits right)
    (hshort : 90 * min (normalizeIntegerDigits left).length
      (normalizeIntegerDigits right).length < 2 ^ 32) :
    ∃ product, multiplyIntegerDigitsChecked left right = .ok product ∧
      multiplyIntegerDigits left right = .ok product ∧ AllDigits product ∧ Reduced product ∧
      number product = number left * number right := by
  obtain ⟨product, hproduct, hd, hreduced⟩ := multiplyIntegerDigits_ok hl hr
  obtain ⟨hld, hlr, hln⟩ := normalizeIntegerDigits_spec hl
  obtain ⟨hrd, hrr, hrn⟩ := normalizeIntegerDigits_spec hr
  obtain ⟨cells, hcells, hdigits, hvalue, houtput⟩ := outputCells_eq hld hrd hlr.ne_nil hshort
  have hunchecked := hproduct
  unfold multiplyIntegerDigits at hunchecked
  unfold multiplyIntegerDigitsChecked
  simp only [List.length_map, List.length_reverse, ← houtput] at hunchecked ⊢
  by_cases hzero : normalizeIntegerDigits left = ['0'] ∨ normalizeIntegerDigits right = ['0']
  · rw [if_pos hzero, Except.ok.injEq] at hunchecked
    rw [if_pos hzero, hunchecked]
    refine ⟨product, rfl, hproduct, hd, hreduced, ?_⟩
    rw [← hln, ← hrn, ← hunchecked]
    rcases hzero with hzero | hzero
    · rw [hzero]
      exact (Nat.zero_mul _).symm
    · rw [hzero]
      exact (Nat.mul_zero _).symm
  · rw [if_neg hzero, mapM_productDigit hdigits, Except.ok.injEq] at hunchecked
    rw [if_neg hzero, hcells]
    refine ⟨product, ?_, hproduct, hd, hreduced, ?_⟩
    · rw [← hunchecked]
      exact mapM_outputDigit hdigits
    · rw [← hunchecked, hvalue, hln, hrn]

/-! ### The scale of the product -/

/-- Zeros go from the end of the product, and with each of them a place of the scale. What stays
is at the smallest scale, or it ends in a digit that is not zero. -/
lemma trimScale_exact (minimumScale : ℕ) (product : List Char) (scale : ℕ)
    (hle : minimumScale ≤ scale) :
    minimumScale ≤ (trimScale minimumScale product scale).2 ∧
      (trimScale minimumScale product scale).2 ≤ scale ∧
      number (trimScale minimumScale product scale).1 *
        10 ^ (scale - (trimScale minimumScale product scale).2) = number product ∧
      (minimumScale < (trimScale minimumScale product scale).2 →
        (trimScale minimumScale product scale).1.getLast? ≠ some '0') := by
  fun_induction trimScale minimumScale product scale with
  | case1 product => exact ⟨hle, le_rfl, by simp, fun h => absurd h (by omega)⟩
  | case2 product scale h ih =>
    obtain ⟨hlt, hlast⟩ := h
    obtain ⟨hmin, hscale, hnumber, hend⟩ := ih (by omega)
    refine ⟨hmin, by omega, ?_, hend⟩
    have hdrop : product = product.dropLast ++ ['0'] :=
      (List.dropLast_append_getLast? '0' hlast).symm
    have hzero : number product = number product.dropLast * 10 := by
      conv_lhs => rw [hdrop]
      exact number_concat _ _
    have hexponent : scale.succ - (trimScale minimumScale product.dropLast scale).2 =
        scale - (trimScale minimumScale product.dropLast scale).2 + 1 := by
      omega
    rw [hzero, ← hnumber, hexponent, pow_succ, Nat.mul_assoc]
  | case3 product scale h =>
    refine ⟨hle, le_rfl, by simp, fun hlt hlast => h ⟨hlt, hlast⟩⟩

lemma formatScaledDigits_getLast? {digits : List Char} {scale : ℕ} (hne : digits ≠ [])
    (hscale : 0 < scale) :
    (formatScaledDigits digits scale).getLast? = digits.getLast? := by
  unfold formatScaledDigits
  rw [if_neg (by omega)]
  split
  · rw [List.getLast?_append_of_ne_nil _ hne]
  · rename_i hlong
    have hdrop : digits.drop (digits.length - scale) ≠ [] := by
      rw [← List.length_pos_iff, List.length_drop]
      omega
    simp only
    rw [List.getLast?_append_cons, List.getLast?_cons_of_ne_nil hdrop, List.getLast?_drop,
      if_neg (by omega)]

/-! ### The product of an amount and a price -/

/-- The digits of an operand, without its point and its leading zeros. -/
def operandDigits (operand : String) : List Char :=
  normalizeIntegerDigits (operand.toList.filter (· != '.'))

lemma filter_point {cs : List Char} (h : AllDigits cs) : cs.filter (· != '.') = cs := by
  refine List.filter_eq_self.mpr fun c hc => ?_
  have hdigit := h c hc
  rw [bne_iff_ne]
  rintro rfl
  simp at hdigit

lemma normalizeIntegerDigits_of_reduced {cs : List Char} (hd : AllDigits cs) (hr : Reduced cs) :
    normalizeIntegerDigits cs = cs := by
  obtain ⟨hnd, hnr, hnumber⟩ := normalizeIntegerDigits_spec hd
  exact eq_of_reduced hnd hd hnr hr hnumber

lemma operandDigits_of_parse {operand : String} {p : ParsedDecimal}
    (h : parseUnsignedDecimal operand.toList = .ok p) : operandDigits operand = p.digits := by
  obtain ⟨hd, hr⟩ := parseUnsignedDecimal_spec h
  obtain ⟨integer, fraction, -, hi, hf, hlen, hn, htext⟩ := reads_of_parse h
  have hfilter : operand.toList.filter (· != '.') = integer ++ fraction := by
    rw [htext]
    split
    · rename_i hscale
      rw [hscale, List.length_eq_zero_iff] at hlen
      rw [hlen, filter_point hi, List.append_nil]
    · rw [List.filter_append, filter_point hi, List.filter_cons_of_neg (by simp), filter_point hf]
  obtain ⟨hnd, hnr, hnumber⟩ := normalizeIntegerDigits_spec (allDigits_append.mpr ⟨hi, hf⟩)
  unfold operandDigits
  rw [hfilter]
  refine eq_of_reduced hnd hd hnr hr ?_
  rw [hnumber, number_append, hlen, hn]

lemma quotient_eq {m raw n decimals scale scale' : ℕ} (hle : scale' ≤ decimals + scale)
    (h : m * 10 ^ (decimals + scale - scale') = raw * n) :
    (m : ℚ) / 10 ^ scale' = raw / 10 ^ decimals * (n / 10 ^ scale) := by
  have hpow : (10 : ℚ) ^ (decimals + scale) =
      10 ^ (decimals + scale - scale') * 10 ^ scale' := by
    rw [← pow_add, Nat.sub_add_cancel hle]
  have hcast : (m : ℚ) * 10 ^ (decimals + scale - scale') = raw * n := by exact_mod_cast h
  rw [div_mul_div_comm, ← pow_add, ← hcast, hpow, mul_comm, mul_div_mul_left _ _ (by positivity)]

/-- The scale of a product, and its digits at that scale. -/
def productScale (product : List Char) (decimals scale : ℕ) : List Char × ℕ :=
  if product = ['0'] then (product, decimals) else trimScale decimals product (decimals + scale)

/-- At that scale the product is the amount times the price; it is not below that of the amount,
and above it the last digit is not zero. -/
lemma productScale_denotes {product : List Char} {raw n decimals scale : ℕ}
    (hd : AllDigits product) (hr : Reduced product) (hnumber : number product = raw * n) :
    ∃ digits scale', productScale product decimals scale = (digits, scale') ∧
      decimals ≤ scale' ∧
      Denotes (String.ofList (formatScaledDigits digits scale'))
        (raw / 10 ^ decimals * (n / 10 ^ scale)) scale' ∧
      (decimals < scale' → (formatScaledDigits digits scale').getLast? ≠ some '0') := by
  unfold productScale
  by_cases hzero : product = ['0']
  · have hdigits := formatScaledDigits_reduced hd hr decimals
    refine ⟨product, decimals, if_pos hzero, le_rfl, ?_, fun h => absurd h (lt_irrefl _)⟩
    refine ⟨_, by rwa [String.toList_ofList], quotient_eq (Nat.le_add_right _ _) ?_⟩
    rw [← hnumber, hzero]
    exact Nat.zero_mul _
  · obtain ⟨htd, htr⟩ := trimScale_spec hd hr hzero decimals (decimals + scale)
    obtain ⟨hmin, hmax, hvalue, hlast⟩ :=
      trimScale_exact decimals product (decimals + scale) (Nat.le_add_right _ _)
    have hdigits := formatScaledDigits_reduced htd htr
      (trimScale decimals product (decimals + scale)).2
    refine ⟨_, _, if_neg hzero, hmin, ?_, fun h => ?_⟩
    · refine ⟨_, by rwa [String.toList_ofList], quotient_eq hmax ?_⟩
      rw [hvalue, hnumber]
    · rw [formatScaledDigits_getLast? htr.ne_nil (by omega)]
      exact hlast h

lemma multiply_of_not_digits {rawAmount : String} (decimals : ℕ) (unitPrice : String)
    (h : isUnsignedInteger rawAmount.toList ≠ true) :
    multiplyAmountByPriceChecked rawAmount decimals unitPrice =
        .error (.error .invalidUnsignedInteger) ∧
      multiplyAmountByPrice rawAmount decimals unitPrice =
        .error (.error .invalidUnsignedInteger) := ⟨if_neg h, if_neg h⟩

lemma multiply_of_not_decimal {rawAmount : String} (decimals : ℕ) {unitPrice : String}
    {error : DecimalError} (hraw : isUnsignedInteger rawAmount.toList = true)
    (h : parseUnsignedDecimal unitPrice.toList = .error error) :
    multiplyAmountByPriceChecked rawAmount decimals unitPrice = .error (.error error) ∧
      multiplyAmountByPrice rawAmount decimals unitPrice = .error (.error error) := by
  unfold multiplyAmountByPriceChecked multiplyAmountByPrice
  rw [if_pos hraw, if_pos hraw, h]
  exact ⟨rfl, rfl⟩

lemma multiply_of_decimals {rawAmount unitPrice : String} {decimals : ℕ} {price : ParsedDecimal}
    (hraw : isUnsignedInteger rawAmount.toList = true)
    (hprice : parseUnsignedDecimal unitPrice.toList = .ok price)
    (hshort : min (operandDigits rawAmount).length (operandDigits unitPrice).length < 47000000) :
    ∃ text scale', multiplyAmountByPriceChecked rawAmount decimals unitPrice = .ok text ∧
      multiplyAmountByPrice rawAmount decimals unitPrice = .ok text ∧
      decimals ≤ scale' ∧
      Denotes text (number rawAmount.toList / 10 ^ decimals *
        (number price.digits / 10 ^ price.scale)) scale' ∧
      (decimals < scale' → text.toList.getLast? ≠ some '0') := by
  obtain ⟨-, hdigits⟩ := isUnsignedInteger_iff.mp hraw
  obtain ⟨hpd, hpr⟩ := parseUnsignedDecimal_spec hprice
  rw [operandDigits_of_parse hprice, operandDigits, filter_point hdigits] at hshort
  obtain ⟨product, hchecked, hunchecked, hd, hr, hnumber⟩ :=
    @multiplyIntegerDigits_exact _ price.digits hdigits hpd
      (by rw [normalizeIntegerDigits_of_reduced hpd hpr]; omega)
  obtain ⟨digits, scale', hscale, hmin, hdenotes, hlast⟩ :=
    @productScale_denotes _ _ _ decimals price.scale hd hr hnumber
  refine ⟨_, scale', ?_, ?_, hmin, hdenotes, by rwa [String.toList_ofList]⟩
  · unfold multiplyAmountByPriceChecked
    rw [if_pos hraw, hprice]
    simp only [lift, bind, Except.bind, hchecked]
    rw [← productScale, hscale]
    rfl
  · unfold multiplyAmountByPrice
    rw [if_pos hraw, hprice]
    simp only [lift, bind, Except.bind, hunchecked]
    rw [← productScale, hscale]
    rfl

/-- **Valuation multiplies exactly.** While the shorter operand has fewer than 47,000,000 digits,
the loops with all their checks pass them. There is a product exactly if the amount is digits and
the price a decimal; the cells it is written from are digits, and it denotes the amount at its
decimals times the price, at the scale of the amount or at one above that whose last digit is not
zero. -/
theorem multiplyAmountByPrice_exact (rawAmount : String) (decimals : ℕ) (unitPrice : String)
    (hshort : min (operandDigits rawAmount).length (operandDigits unitPrice).length < 47000000) :
    multiplyAmountByPriceChecked rawAmount decimals unitPrice =
      multiplyAmountByPrice rawAmount decimals unitPrice ∧
    multiplyAmountByPrice rawAmount decimals unitPrice ≠ .error .panic ∧
    ((∃ text, multiplyAmountByPrice rawAmount decimals unitPrice = .ok text) ↔
      (rawAmount.toList ≠ [] ∧ AllDigits rawAmount.toList) ∧ IsDecimal unitPrice.toList) ∧
    ∀ text n scale, multiplyAmountByPrice rawAmount decimals unitPrice = .ok text →
      Reads unitPrice.toList n scale →
      (∃ cells, outputCells (operandDigits rawAmount) (operandDigits unitPrice) = .ok cells ∧
        ∀ c ∈ cells, c < 10) ∧
      ∃ scale', decimals ≤ scale' ∧
        Denotes text (number rawAmount.toList / 10 ^ decimals * (n / 10 ^ scale)) scale' ∧
        (decimals < scale' → text.toList.getLast? ≠ some '0') := by
  rw [← isUnsignedInteger_iff, ← exists_parse_iff]
  by_cases hraw : isUnsignedInteger rawAmount.toList = true
  swap
  · obtain ⟨hchecked, hunchecked⟩ := multiply_of_not_digits decimals unitPrice hraw
    simp [hchecked, hunchecked, hraw]
  cases hprice : parseUnsignedDecimal unitPrice.toList with
  | error error =>
    obtain ⟨hchecked, hunchecked⟩ := multiply_of_not_decimal decimals hraw hprice
    simp [hchecked, hunchecked]
  | ok price =>
    obtain ⟨text, scale', hchecked, hunchecked, hmin, hdenotes, hlast⟩ :=
      @multiply_of_decimals _ _ decimals _ hraw hprice hshort
    refine ⟨hchecked.trans hunchecked.symm, by simp [hunchecked], by simp [hunchecked, hraw], ?_⟩
    intro text' n scale htext hreads
    rw [hunchecked, Except.ok.injEq] at htext
    subst htext
    obtain ⟨p, hp, rfl, rfl⟩ := hreads.parse
    rw [hprice, Except.ok.injEq] at hp
    subst hp
    refine ⟨?_, scale', hmin, hdenotes, hlast⟩
    obtain ⟨-, hdigits⟩ := isUnsignedInteger_iff.mp hraw
    obtain ⟨hpd, hpr⟩ := parseUnsignedDecimal_spec hprice
    have hrd : AllDigits (operandDigits rawAmount) ∧ Reduced (operandDigits rawAmount) := by
      obtain ⟨hnd, hnr, -⟩ := normalizeIntegerDigits_spec hdigits
      rw [operandDigits, filter_point hdigits]
      exact ⟨hnd, hnr⟩
    rw [operandDigits_of_parse hprice] at hshort ⊢
    obtain ⟨cells, hcells, hlt, -⟩ := outputCells_eq hrd.1 hpd hrd.2.ne_nil (by omega)
    exact ⟨cells, hcells, hlt⟩

/-- One fifth at twelve and a half: the zeros go, down to the one decimal of the amount. -/
theorem multiplyAmountByPrice_one_fifth :
    min (operandDigits "2").length (operandDigits "12.50").length < 47000000 ∧
    multiplyAmountByPrice "2" 1 "12.50" = .ok "2.5" ∧
    multiplyAmountByPriceChecked "2" 1 "12.50" = .ok "2.5" := by
  have hshort : min (operandDigits "2").length (operandDigits "12.50").length < 47000000 := by
    decide +kernel
  have hproduct : multiplyAmountByPrice "2" 1 "12.50" = .ok "2.5" := by decide +kernel
  exact ⟨hshort, hproduct, (multiplyAmountByPrice_exact "2" 1 "12.50" hshort).1.trans hproduct⟩

end MotherApi.DecimalProducts
