import Mathlib.Data.List.Induction
import Mathlib.Data.List.Nodup
import Mathlib.Logic.Function.Basic

/-!
Tables that are read at a key.

A table built from a list of pairs by inserting them in order answers with the last pair of a
key. Where the keys of the list are distinct it answers exactly with what the list has.
-/

namespace MotherApi.Lib.Tables

variable {κ ν : Type*} [DecidableEq κ]

/-- The table after the pairs were inserted in order. -/
def ofPairs (pairs : List (κ × ν)) : κ → Option ν :=
  pairs.foldl (fun table pair => Function.update table pair.1 (some pair.2)) fun _ => none

@[simp] lemma ofPairs_nil (k : κ) : ofPairs ([] : List (κ × ν)) k = none := rfl

lemma ofPairs_concat (pairs : List (κ × ν)) (pair : κ × ν) (k : κ) :
    ofPairs (pairs ++ [pair]) k = if k = pair.1 then some pair.2 else ofPairs pairs k := by
  rw [ofPairs, List.foldl_append]
  exact Function.update_apply _ _ _ _

lemma mem_of_ofPairs {pairs : List (κ × ν)} {k : κ} {v : ν} (h : ofPairs pairs k = some v) :
    (k, v) ∈ pairs := by
  induction pairs using List.reverseRecOn with
  | nil => simp at h
  | append_singleton pairs pair ih =>
    rw [ofPairs_concat] at h
    split at h
    · rename_i hk
      simp only [Option.some.injEq] at h
      subst hk h
      simp
    · exact List.mem_append_left _ (ih h)

lemma exists_ofPairs {pairs : List (κ × ν)} {k : κ} (h : k ∈ pairs.map Prod.fst) :
    ∃ v, ofPairs pairs k = some v := by
  induction pairs using List.reverseRecOn with
  | nil => simp at h
  | append_singleton pairs pair ih =>
    rw [ofPairs_concat]
    by_cases hk : k = pair.1
    · exact ⟨pair.2, if_pos hk⟩
    · rw [if_neg hk]
      refine ih ?_
      simpa [hk] using h

lemma ofPairs_eq_some {pairs : List (κ × ν)} (hnodup : (pairs.map Prod.fst).Nodup) {k : κ} {v : ν} :
    ofPairs pairs k = some v ↔ (k, v) ∈ pairs := by
  refine ⟨mem_of_ofPairs, fun hmem => ?_⟩
  obtain ⟨v', hv'⟩ := exists_ofPairs (List.mem_map_of_mem (f := Prod.fst) hmem)
  have := List.inj_on_of_nodup_map hnodup (mem_of_ofPairs hv') hmem rfl
  simp only [Prod.mk.injEq, true_and] at this
  rw [hv', this]

/-- Where the keys are distinct, the order of the pairs does not matter. -/
lemma ofPairs_perm {pairs pairs' : List (κ × ν)} (hnodup : (pairs.map Prod.fst).Nodup)
    (hperm : pairs.Perm pairs') : ofPairs pairs = ofPairs pairs' := by
  have hnodup' : (pairs'.map Prod.fst).Nodup := (hperm.map Prod.fst).nodup_iff.mp hnodup
  funext k
  ext v
  rw [ofPairs_eq_some hnodup, ofPairs_eq_some hnodup', hperm.mem_iff]

/-! ### Tables on top of each other -/

section

variable {κ ν : Type*}

/-- The entries of the second table go before those of the first. -/
def overlay (table layer : κ → Option ν) : κ → Option ν := fun k => (layer k).or (table k)

/-- What the table at an index has at a key. -/
def entryAt (layers : List (κ → Option ν)) (i : ℕ) (k : κ) : Option ν :=
  layers[i]?.bind fun layer => layer k

lemma entryAt_concat (layers : List (κ → Option ν)) (layer : κ → Option ν) (i : ℕ) (k : κ) :
    entryAt (layers ++ [layer]) i k =
      if i = layers.length then layer k else entryAt layers i k := by
  unfold entryAt
  rcases Nat.lt_trichotomy i layers.length with hlt | rfl | hgt
  · rw [List.getElem?_append_left hlt, if_neg (by omega)]
  · simp
  · rw [if_neg (by omega), List.getElem?_eq_none (by simp; omega),
      List.getElem?_eq_none (by omega)]

lemma entryAt_of_le {layers : List (κ → Option ν)} {i : ℕ} (h : layers.length ≤ i) (k : κ) :
    entryAt layers i k = none := by
  rw [entryAt, List.getElem?_eq_none h, Option.bind_none]

lemma foldl_overlay_eq_none {layers : List (κ → Option ν)} {table : κ → Option ν} {k : κ} :
    layers.foldl overlay table k = none ↔ (∀ i, entryAt layers i k = none) ∧ table k = none := by
  induction layers using List.reverseRecOn with
  | nil => simp [entryAt]
  | append_singleton layers layer ih =>
    rw [List.foldl_append, List.foldl_cons, List.foldl_nil, overlay, Option.or_eq_none_iff, ih]
    constructor
    · rintro ⟨hlayer, hlayers, htable⟩
      refine ⟨fun i => ?_, htable⟩
      rw [entryAt_concat]
      split
      · exact hlayer
      · exact hlayers i
    · rintro ⟨hlayers, htable⟩
      refine ⟨?_, fun i => ?_, htable⟩
      · simpa [entryAt_concat] using hlayers layers.length
      · have hi := hlayers i
        rw [entryAt_concat] at hi
        split at hi
        · rename_i heq
          exact entryAt_of_le (Nat.le_of_eq heq.symm) k
        · exact hi

/-- The last table that has the key decides, and the first of all if none has. -/
lemma foldl_overlay_eq_some {layers : List (κ → Option ν)} {table : κ → Option ν} {k : κ} {v : ν} :
    layers.foldl overlay table k = some v ↔
      (∃ i, entryAt layers i k = some v ∧ ∀ j, i < j → entryAt layers j k = none) ∨
        (∀ i, entryAt layers i k = none) ∧ table k = some v := by
  induction layers using List.reverseRecOn with
  | nil => simp [entryAt]
  | append_singleton layers layer ih =>
    rw [List.foldl_append, List.foldl_cons, List.foldl_nil, overlay]
    cases hlayer : layer k with
    | some w =>
      have hlast : entryAt (layers ++ [layer]) layers.length k = some w := by
        rw [entryAt_concat, if_pos rfl, hlayer]
      simp only [Option.some_or, Option.some.injEq]
      constructor
      · rintro rfl
        refine Or.inl ⟨layers.length, hlast, fun j hj => entryAt_of_le ?_ k⟩
        rw [List.length_append, List.length_singleton]
        omega
      · rintro (⟨i, hi, hlater⟩ | ⟨hnone, -⟩)
        · rcases Nat.lt_trichotomy i layers.length with hlt | rfl | hgt
          · rw [hlater _ hlt] at hlast
            cases hlast
          · rw [hlast, Option.some.injEq] at hi
            exact hi
          · rw [entryAt_of_le (by simp; omega)] at hi
            cases hi
        · rw [hnone] at hlast
          cases hlast
    | none =>
      have hentry : ∀ i, entryAt (layers ++ [layer]) i k = entryAt layers i k := by
        intro i
        rw [entryAt_concat]
        split
        · rename_i heq
          rw [hlayer, entryAt_of_le (Nat.le_of_eq heq.symm)]
        · rfl
      simp only [Option.none_or, hentry]
      exact ih

end

end MotherApi.Lib.Tables
