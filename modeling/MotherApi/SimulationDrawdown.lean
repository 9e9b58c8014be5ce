import MotherApi.Simulation

/-!
The maximum drawdown of a simulation.

It is the worst loss of an investor who bought at one point of the series and sold at a later one.
The code finds it in one pass, against the highest value so far.
-/

namespace MotherApi.SimulationDrawdown

open MotherApi.Lib.Fallible MotherApi.Lib.Drawdowns MotherApi.Simulation

/-- The values `v 0` to `v n`, all of them there. -/
def series (v : ℕ → ℚ) (n : ℕ) : List (Option ℚ) := (List.range (n + 1)).map fun j => some (v j)

/-- The worst loss from the highest value so far, and what follows if all values are positive. -/
structure WorstLoss (D : Decimals) (v : ℕ → ℚ) (n : ℕ) (d : ℚ) : Prop where
  least : IsLeast (Set.image (fun j => (v j - partialSups v j) / partialSups v j) (Set.Iic n)) d
  nonpos : d ≤ 0
  pairs : (∀ j ≤ n, 0 < v j) → IsLeast {x | ∃ i j, i ≤ j ∧ j ≤ n ∧ x = v j / v i - 1} d
  neg_one_lt : (∀ j ≤ n, 0 < v j) → -1 < d
  zero_iff : (∀ j ≤ n, 0 < v j) → (d = 0 ↔ MonotoneOn v (Set.Iic n))
  scaled : (∀ j ≤ n, 0 < v j) → ∀ c > 0,
    maxDrawdown D (series (fun j => c * v j) n) = .ok d

section

variable {D : Decimals} {v : ℕ → ℚ} {n : ℕ}

lemma series_getElem? : (series v n)[0]? = some (some (v 0)) := by
  simp [series]

lemma reduceOption_series : (series v n).reduceOption = (List.range (n + 1)).map v := by
  unfold series
  induction List.range (n + 1) with
  | nil => rfl
  | cons j js ih => rw [List.map_cons, List.reduceOption_cons_of_some, ih, List.map_cons]

/-- The pass over a series finds its least fall. -/
lemma exists_maxDrawdown (hD : D.Lawful) (h : 0 < v 0) :
    ∃ d, maxDrawdown D (series v n) = .ok d ∧ IsLeast (Set.image (fall v) (Set.Iic n)) d := by
  obtain ⟨d, hfold, hleast⟩ := foldl_step v n
  refine ⟨d, ?_, hleast⟩
  rw [maxDrawdown_eq hD series_getElem? h, reduceOption_series, hfold]

/-- The unit of the values does not matter. -/
lemma maxDrawdown_mul (hD : D.Lawful) (h : 0 < v 0) {c d : ℚ} (hc : 0 < c)
    (hleast : IsLeast (Set.image (fall v) (Set.Iic n)) d) :
    maxDrawdown D (series (fun j => c * v j) n) = .ok d := by
  obtain ⟨d', hd', hleast'⟩ :=
    @exists_maxDrawdown D (fun j => c * v j) n hD (mul_pos hc h)
  have hfall : fall (fun j => c * v j) = fall v := by
    ext j
    exact fall_mul hc v j
  rw [hfall] at hleast'
  rw [hd', hleast.unique hleast']

/-- **The maximum drawdown is the worst loss from a value to a later one.** -/
theorem maxDrawdown_worstLoss (hD : D.Lawful) (h : 0 < v 0) :
    ∃ d, maxDrawdown D (series v n) = .ok d ∧ WorstLoss D v n d := by
  obtain ⟨d, hd, hleast⟩ := @exists_maxDrawdown D v n hD h
  have hzero : fall v 0 = 0 := fall_zero v
  have hnonpos : d ≤ 0 := hzero ▸ hleast.2 ⟨0, Set.mem_Iic.mpr (Nat.zero_le n), rfl⟩
  exact ⟨d, hd, hleast, hnonpos, fun hpos => isLeast_falls hpos hleast,
    fun hpos => Lib.Drawdowns.neg_one_lt hpos hleast, fun hpos => eq_zero_iff hpos hleast,
    fun _ c hc => maxDrawdown_mul hD h hc hleast⟩

theorem maxDrawdown_worstLoss_dip :
    ∃ d, maxDrawdown plainDecimals (series (fun j => if j = 1 then 90 else 100) 2) = .ok d ∧
      WorstLoss plainDecimals (fun j => if j = 1 then 90 else 100) 2 d :=
  maxDrawdown_worstLoss plainDecimals_lawful (by norm_num)

end

end MotherApi.SimulationDrawdown
