import MotherApi.Lib.Numerals
import Mathlib.Algebra.Order.Field.Rat
import Mathlib.Order.Compare
import Mathlib.Tactic.FieldSimp
import Mathlib.Tactic.Linarith
import Mathlib.Tactic.Positivity
import Mathlib.Tactic.Ring

/-!
Digits behind a point.

They denote a number from zero to one, which zeros at the end do not change. Numbers with a whole
part and a fraction are in the order of their whole parts, and under one whole part in the order of
their fractions; fractions are in the order of their digits, where digits that are missing are
zeros.
-/

namespace MotherApi.Lib.Fractions

open MotherApi.Lib.Numerals

/-- The number that digits behind a point denote. -/
def fraction (cs : List Char) : ℚ := number cs / 10 ^ cs.length

@[simp] lemma fraction_nil : fraction [] = 0 := by simp [fraction]

lemma fraction_cons (c : Char) (cs : List Char) :
    fraction (c :: cs) = (digit c + fraction cs) / 10 := by
  unfold fraction
  rw [number_cons, List.length_cons, pow_succ]
  push_cast
  field_simp

lemma fraction_nonneg (cs : List Char) : 0 ≤ fraction cs := by
  unfold fraction
  positivity

lemma fraction_lt_one {cs : List Char} (h : AllDigits cs) : fraction cs < 1 := by
  unfold fraction
  rw [div_lt_one (by positivity)]
  exact_mod_cast number_lt h

lemma fraction_append_zeros (cs : List Char) (n : ℕ) :
    fraction (cs ++ List.replicate n '0') = fraction cs := by
  unfold fraction
  rw [number_append, number_replicate_zero, List.length_append, List.length_replicate, pow_add]
  push_cast
  field_simp
  ring

/-- The first digit, and zero where there is none. -/
def leading (cs : List Char) : ℕ := digit (cs.headD '0')

lemma fraction_eq (cs : List Char) : fraction cs = (leading cs + fraction cs.tail) / 10 := by
  cases cs with
  | nil => simp [leading, digit]
  | cons c cs => exact fraction_cons c cs

/-! ### The order -/

/-- What keeps the order keeps the comparison. -/
lemma compare_strictMono {α β : Type*} [LinearOrder α] [LinearOrder β] {f : α → β}
    (hf : StrictMono f) (a b : α) : compare (f a) (f b) = compare a b := by
  rw [← cmp_eq_compare, ← cmp_eq_compare, hf.cmp_map_eq]

/-- Numbers are in the order of their whole parts, and then of their fractions. -/
lemma compare_add {m n : ℤ} {x y : ℚ} (hx : 0 ≤ x) (hx' : x < 1) (hy : 0 ≤ y) (hy' : y < 1) :
    compare (m + x) (n + y) = (compare m n).then (compare x y) := by
  rcases lt_trichotomy m n with hlt | rfl | hlt
  · have hle : (m : ℚ) + 1 ≤ n := by exact_mod_cast hlt
    rw [compare_lt_iff_lt.mpr hlt, compare_lt_iff_lt.mpr (by linarith)]
    rfl
  · rw [compare_eq_iff_eq.mpr rfl, Ordering.eq_then]
    exact compare_strictMono (fun a b hab => add_lt_add_right hab (m : ℚ)) x y
  · have hle : (n : ℚ) + 1 ≤ m := by exact_mod_cast hlt
    rw [compare_gt_iff_gt.mpr hlt, compare_gt_iff_gt.mpr (by linarith)]
    rfl

/-- Fractions are in the order of their first digits, and then of what follows. -/
lemma compare_fraction {cs ds : List Char} (hc : AllDigits cs) (hd : AllDigits ds) :
    compare (fraction cs) (fraction ds) =
      (compare (leading cs) (leading ds)).then (compare (fraction cs.tail) (fraction ds.tail)) := by
  have htail : ∀ {cs : List Char}, AllDigits cs → AllDigits cs.tail := fun h c hmem =>
    h c (List.mem_of_mem_tail hmem)
  have hsplit := @compare_add (leading cs) (leading ds) _ _ (fraction_nonneg cs.tail)
    (fraction_lt_one (htail hc)) (fraction_nonneg ds.tail) (fraction_lt_one (htail hd))
  rw [compare_strictMono Nat.strictMono_cast] at hsplit
  rw [fraction_eq cs, fraction_eq ds,
    @compare_strictMono _ _ _ _ (fun x : ℚ => x / 10) (fun x y hxy => by simp only; linarith)]
  exact_mod_cast hsplit

end MotherApi.Lib.Fractions
