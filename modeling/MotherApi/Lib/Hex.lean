import MotherApi.Lib.Numerals
import Mathlib.Tactic.IntervalCases

/-!
Bytes and words in lower-case hexadecimal.

A byte is two digits. The encoding is one to one, and the lists of lower-case digits of even length
are what it gives. A word is the digits of a number, as many as its width.
-/

namespace MotherApi.Lib.Hex

open MotherApi.Lib.Numerals

def isLowerHex (c : Char) : Bool := c.isDigit || (decide ('a' ≤ c) && decide (c ≤ 'f'))

def hexDigit (d : ℕ) : Char := if d < 10 then Char.ofNat (48 + d) else Char.ofNat (87 + d)

/-- The value of a lower-case digit. -/
def hexValue (c : Char) : ℕ := if c.isDigit then c.toNat - 48 else c.toNat - 87

def encodeByte (byte : UInt8) : List Char :=
  [hexDigit (byte.toNat / 16), hexDigit (byte.toNat % 16)]

def encode (bytes : List UInt8) : List Char := bytes.flatMap encodeByte

/-- The byte of two digits. -/
def byteOf (high low : Char) : UInt8 := UInt8.ofNat (16 * hexValue high + hexValue low)

variable {bytes bytes' : List UInt8} {c : Char} {d : ℕ}

lemma isLowerHex_iff : isLowerHex c = true ↔
    48 ≤ c.toNat ∧ c.toNat ≤ 57 ∨ 97 ≤ c.toNat ∧ c.toNat ≤ 102 := by
  rw [isLowerHex, Bool.or_eq_true, isDigit_iff, Bool.and_eq_true, decide_eq_true_eq,
    decide_eq_true_eq, Char.le_def, Char.le_def, UInt32.le_iff_toNat_le, UInt32.le_iff_toNat_le]
  rfl

lemma isLowerHex_hexDigit (h : d < 16) : isLowerHex (hexDigit d) = true := by
  interval_cases d <;> decide

lemma hexValue_hexDigit (h : d < 16) : hexValue (hexDigit d) = d := by
  interval_cases d <;> decide

lemma hexValue_lt (h : isLowerHex c = true) : hexValue c < 16 := by
  rw [isLowerHex_iff] at h
  unfold hexValue
  split
  · rename_i hdigit
    have hle := (isDigit_iff.mp hdigit).2
    omega
  · omega

lemma hexDigit_hexValue (h : isLowerHex c = true) : hexDigit (hexValue c) = c := by
  have hcases := isLowerHex_iff.mp h
  have hback : Char.ofNat c.toNat = c := Char.ofNat_toNat c
  unfold hexDigit hexValue
  split
  · rename_i hdigit
    obtain ⟨hge, hle⟩ := isDigit_iff.mp hdigit
    rw [if_pos (by omega), Nat.add_sub_cancel' hge, hback]
  · rename_i hdigit
    have hletter : 97 ≤ c.toNat := by
      rcases hcases with ⟨hge, hle⟩ | ⟨hge, -⟩
      · exact absurd (isDigit_iff.mpr ⟨hge, hle⟩) hdigit
      · exact hge
    rw [if_neg (by omega), Nat.add_sub_cancel' (by omega), hback]

@[simp] lemma encode_cons (byte : UInt8) (bytes : List UInt8) :
    encode (byte :: bytes) = hexDigit (byte.toNat / 16) :: hexDigit (byte.toNat % 16) ::
      encode bytes := rfl

@[simp] lemma length_encode (bytes : List UInt8) : (encode bytes).length = 2 * bytes.length := by
  induction bytes with
  | nil => rfl
  | cons byte bytes ih =>
    rw [encode_cons, List.length_cons, List.length_cons, ih, List.length_cons]
    omega

lemma isLowerHex_encode (bytes : List UInt8) : ∀ c ∈ encode bytes, isLowerHex c = true := by
  intro c hc
  obtain ⟨byte, -, hc⟩ := List.mem_flatMap.mp hc
  have hlt := byte.toNat_lt
  simp only [encodeByte, List.mem_cons, List.not_mem_nil, or_false] at hc
  rcases hc with rfl | rfl
  · exact isLowerHex_hexDigit (by omega)
  · exact isLowerHex_hexDigit (by omega)

lemma byteOf_hexDigit (byte : UInt8) :
    byteOf (hexDigit (byte.toNat / 16)) (hexDigit (byte.toNat % 16)) = byte := by
  have hlt := byte.toNat_lt
  rw [byteOf, hexValue_hexDigit (by omega), hexValue_hexDigit (by omega), Nat.div_add_mod,
    UInt8.ofNat_toNat]

/-- The encoding is one to one. -/
lemma encode_injective (h : encode bytes = encode bytes') : bytes = bytes' := by
  induction bytes generalizing bytes' with
  | nil =>
    cases bytes' with
    | nil => rfl
    | cons byte' bytes' => cases h
  | cons byte bytes ih =>
    cases bytes' with
    | nil => cases h
    | cons byte' bytes' =>
      rw [encode_cons, encode_cons, List.cons.injEq, List.cons.injEq] at h
      obtain ⟨hhigh, hlow, hrest⟩ := h
      rw [ih hrest, ← byteOf_hexDigit byte, ← byteOf_hexDigit byte', hhigh, hlow]

/-- What consists of lower-case digits is an encoding if its length is even. -/
lemma exists_encode {count : ℕ} {text : List Char} (hlength : text.length = 2 * count)
    (h : ∀ c ∈ text, isLowerHex c = true) :
    ∃ bytes : List UInt8, bytes.length = count ∧ text = encode bytes := by
  induction count generalizing text with
  | zero => exact ⟨[], rfl, List.length_eq_zero_iff.mp hlength⟩
  | succ count ih =>
    match text, hlength with
    | high :: low :: rest, hlength =>
      rw [List.forall_mem_cons, List.forall_mem_cons] at h
      obtain ⟨hhigh, hlow, hrest⟩ := h
      have hrestLength : rest.length = 2 * count := by
        rw [List.length_cons, List.length_cons] at hlength
        omega
      obtain ⟨bytes, rfl, rfl⟩ := ih hrestLength hrest
      have hhighLt := hexValue_lt hhigh
      have hlowLt := hexValue_lt hlow
      have htoNat : (byteOf high low).toNat = 16 * hexValue high + hexValue low := by
        rw [byteOf, UInt8.toNat_ofNat']
        exact Nat.mod_eq_of_lt (by omega)
      refine ⟨byteOf high low :: bytes, rfl, ?_⟩
      rw [encode_cons, htoNat, Nat.mul_add_div (by omega), Nat.mul_add_mod,
        Nat.div_eq_of_lt hlowLt, Nat.mod_eq_of_lt hlowLt, Nat.add_zero, hexDigit_hexValue hhigh,
        hexDigit_hexValue hlow]

/-! ### Words -/

/-- The value of the digits. -/
def number (cs : List Char) : ℕ := cs.foldl (fun n c => n * 16 + hexValue c) 0

/-- The last digits of a number, with zeros in front of it. -/
def word : ℕ → ℕ → List Char
  | 0, _ => []
  | width + 1, n => word width (n / 16) ++ [hexDigit (n % 16)]

variable {cs : List Char} {width n : ℕ}

lemma number_concat (cs : List Char) (c : Char) :
    number (cs ++ [c]) = number cs * 16 + hexValue c := by
  rw [number, List.foldl_append]
  rfl

@[simp] lemma length_word (width n : ℕ) : (word width n).length = width := by
  induction width generalizing n with
  | zero => rfl
  | succ width ih => simp [word, ih]

lemma isLowerHex_word (width n : ℕ) : ∀ c ∈ word width n, isLowerHex c = true := by
  induction width generalizing n with
  | zero => simp [word]
  | succ width ih =>
    intro c hc
    rcases List.mem_append.mp hc with hc | hc
    · exact ih _ c hc
    · rw [List.mem_singleton.mp hc]
      exact isLowerHex_hexDigit (Nat.mod_lt _ (by omega))

lemma number_word (h : n < 16 ^ width) : number (word width n) = n := by
  induction width generalizing n with
  | zero =>
    rw [pow_zero, Nat.lt_one_iff] at h
    rw [h]
    rfl
  | succ width ih =>
    rw [pow_succ] at h
    rw [word, number_concat, ih (Nat.div_lt_of_lt_mul (by omega)),
      hexValue_hexDigit (Nat.mod_lt _ (by omega)), Nat.div_add_mod']

lemma number_lt (h : ∀ c ∈ cs, isLowerHex c = true) : number cs < 16 ^ cs.length := by
  induction cs using List.reverseRecOn with
  | nil => simp [number]
  | append_singleton cs c ih =>
    have hlt := ih fun c hc => h c (List.mem_append_left _ hc)
    have hdigit := hexValue_lt (h c (by simp))
    rw [number_concat, List.length_append, List.length_singleton, pow_succ]
    omega

/-- Lower-case digits are the word of their number. -/
lemma word_number (h : ∀ c ∈ cs, isLowerHex c = true) : word cs.length (number cs) = cs := by
  induction cs using List.reverseRecOn with
  | nil => rfl
  | append_singleton cs c ih =>
    have hlast := h c (by simp)
    have hdigit := hexValue_lt hlast
    have hquotient : (number cs * 16 + hexValue c) / 16 = number cs := by omega
    have hremainder : (number cs * 16 + hexValue c) % 16 = hexValue c := by omega
    rw [number_concat, List.length_append, List.length_singleton, word, hquotient, hremainder,
      hexDigit_hexValue hlast, ih fun c hc => h c (List.mem_append_left _ hc)]

lemma word_add (extra : ℕ) (h : n < 16 ^ width) :
    word (extra + width) n = List.replicate extra '0' ++ word width n := by
  induction width generalizing n with
  | zero =>
    rw [pow_zero, Nat.lt_one_iff] at h
    subst h
    induction extra with
    | zero => rfl
    | succ extra ih =>
      rw [List.replicate_succ', List.append_assoc]
      exact congrArg (· ++ ['0']) (ih.trans (List.append_nil _))
  | succ width ih =>
    rw [pow_succ] at h
    rw [← Nat.add_assoc, word, ih (Nat.div_lt_of_lt_mul (by omega)), word, List.append_assoc]

end MotherApi.Lib.Hex
