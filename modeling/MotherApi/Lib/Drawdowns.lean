import Mathlib.Algebra.Order.Field.Basic
import Mathlib.Algebra.Order.SuccPred.PartialSups
import Mathlib.Data.Nat.SuccPred
import Mathlib.Tactic.FieldSimp
import Mathlib.Tactic.Linarith
import Mathlib.Tactic.Ring

/-!
The worst fall of a series from a value it has had.

A series falls, at each of its members, from the highest member so far. The least of these falls is
found in one pass that keeps the highest member and the least fall. If the series is positive it is
the least of the falls from any member to any later one, so it does not change with the unit of the
series, and it is zero exactly if the series never falls.
-/

namespace MotherApi.Lib.Drawdowns

variable {K : Type*} [Field K] [LinearOrder K] {v : ℕ → K} {n : ℕ}

/-- The fall at a member from the highest member so far, as a part of it. -/
def fall (v : ℕ → K) (j : ℕ) : K := (v j - partialSups v j) / partialSups v j

/-- The highest member and the least fall, after one more member. -/
def step (state : K × K) (value : K) : K × K :=
  (max state.1 value, min state.2 ((value - max state.1 value) / max state.1 value))

/-- The falls from a member to a later one. -/
def falls (v : ℕ → K) (n : ℕ) : Set K := {x | ∃ i j, i ≤ j ∧ j ≤ n ∧ x = v j / v i - 1}

lemma partialSups_pos (h : 0 < v 0) (j : ℕ) : 0 < partialSups v j :=
  h.trans_le (le_partialSups_of_le v (Nat.zero_le j))

lemma fall_zero (v : ℕ → K) : fall v 0 = 0 := by
  unfold fall
  rw [partialSups_zero, sub_self, zero_div]

lemma fall_eq (h : 0 < v 0) (j : ℕ) : fall v j = v j / partialSups v j - 1 := by
  unfold fall
  rw [sub_div, div_self (partialSups_pos h j).ne']

/-! ### One pass -/

/-- The pass over a series keeps the highest member and the least fall. -/
lemma foldl_step (v : ℕ → K) (n : ℕ) :
    ∃ d, ((List.range (n + 1)).map v).foldl step (v 0, 0) = (partialSups v n, d) ∧
      IsLeast (Set.image (fall v) (Set.Iic n)) d := by
  induction n with
  | zero =>
    refine ⟨0, ?_, ?_⟩
    · simp [step]
    · constructor
      · exact ⟨0, Set.mem_Iic.mpr le_rfl, fall_zero v⟩
      · rintro x ⟨j, hj, rfl⟩
        obtain rfl : j = 0 := Nat.le_zero.mp hj
        exact (fall_zero v).ge
  | succ n ih =>
    obtain ⟨d, hfold, hleast⟩ := ih
    have hpeak : max (partialSups v n) (v (n + 1)) = partialSups v (n + 1) :=
      (partialSups_add_one v n).symm
    refine ⟨min d (fall v (n + 1)), ?_, ?_⟩
    · rw [List.range_succ, List.map_append, List.foldl_append, hfold]
      simp only [List.map_cons, List.map_nil, List.foldl_cons, List.foldl_nil, step, hpeak]
      rfl
    · have hsplit : Set.Iic (n + 1) = insert (n + 1) (Set.Iic n) := by
        ext j
        simp only [Set.mem_Iic, Set.mem_insert_iff]
        omega
      rw [hsplit, Set.image_insert_eq, min_comm]
      exact hleast.insert (fall v (n + 1))

/-! ### Any member and any later one -/

section

variable [IsStrictOrderedRing K]
  (hpos : ∀ j ≤ n, 0 < v j) {d : K} (hleast : IsLeast (Set.image (fall v) (Set.Iic n)) d)

include hpos hleast

/-- The least fall is the least of the falls from any member to a later one. -/
lemma isLeast_falls : IsLeast (falls v n) d := by
  have hfirst : 0 < v 0 := hpos 0 (Nat.zero_le n)
  obtain ⟨⟨j, hj, rfl⟩, hlower⟩ := hleast
  constructor
  · obtain ⟨i, hi, hpeak⟩ := exists_partialSups_eq v j
    exact ⟨i, j, hi, hj, by rw [fall_eq hfirst, hpeak]⟩
  · rintro x ⟨i, k, hik, hk, rfl⟩
    have hle : v i ≤ partialSups v k := le_partialSups_of_le v hik
    calc fall v j ≤ fall v k := hlower ⟨k, hk, rfl⟩
      _ = v k / partialSups v k - 1 := fall_eq hfirst k
      _ ≤ v k / v i - 1 :=
        sub_le_sub_right (div_le_div_of_nonneg_left (hpos k hk).le (hpos i (hik.trans hk)) hle) 1

lemma neg_one_lt : -1 < d := by
  have hfirst : 0 < v 0 := hpos 0 (Nat.zero_le n)
  obtain ⟨⟨j, hj, rfl⟩, -⟩ := hleast
  have hratio : 0 < v j / partialSups v j := div_pos (hpos j hj) (partialSups_pos hfirst j)
  rw [fall_eq hfirst]
  linarith

/-- There is no fall exactly if no member is below an earlier one. -/
lemma eq_zero_iff : d = 0 ↔ MonotoneOn v (Set.Iic n) := by
  have hpairs := isLeast_falls hpos hleast
  have hle : d ≤ 0 := by
    have hsame : v 0 / v 0 - 1 = 0 := by rw [div_self (hpos 0 (Nat.zero_le n)).ne', sub_self]
    exact hsame ▸ hpairs.2 ⟨0, 0, le_rfl, Nat.zero_le n, rfl⟩
  constructor
  · rintro rfl i hi j hj hij
    have hfall := hpairs.2 ⟨i, j, hij, hj, rfl⟩
    rw [sub_nonneg, one_le_div (hpos i hi)] at hfall
    exact hfall
  · intro hmono
    obtain ⟨⟨i, j, hij, hj, rfl⟩, -⟩ := hpairs
    refine le_antisymm hle ?_
    rw [sub_nonneg, one_le_div (hpos i (hij.trans hj))]
    exact hmono (hij.trans hj) hj hij

end

/-! ### The unit -/

variable [IsStrictOrderedRing K]

lemma partialSups_mul {c : K} (hc : 0 < c) (v : ℕ → K) (j : ℕ) :
    partialSups (fun j => c * v j) j = c * partialSups v j := by
  induction j with
  | zero => rw [partialSups_zero, partialSups_zero]
  | succ j ih =>
    rw [partialSups_add_one, partialSups_add_one, ih]
    exact (mul_max_of_nonneg _ _ hc.le).symm

lemma fall_mul {c : K} (hc : 0 < c) (v : ℕ → K) (j : ℕ) :
    fall (fun j => c * v j) j = fall v j := by
  unfold fall
  rw [partialSups_mul hc, ← mul_sub, mul_div_mul_left _ _ hc.ne']

end MotherApi.Lib.Drawdowns
