import Mathlib.Data.List.Nodup

/-!
Lists without duplicates, as loops check them and as loops fill them.

A loop that compares each key with those before it passes a list without duplicates. A loop that
pushes an element only if its key was not seen before leaves the first element of every key. The
keys it leaves are those of the elements in order with later duplicates removed.
-/

namespace MotherApi.Lib.Distinct

/-! ### Checking -/

section

variable {κ : Type*} {seen l : List κ} {k : κ}

/-- The list repeats nothing, and nothing that was seen before it. -/
def Fresh (seen l : List κ) : Prop := l.Nodup ∧ ∀ k ∈ l, k ∉ seen

@[simp]
lemma fresh_nil : Fresh seen [] := ⟨List.nodup_nil, by simp⟩

lemma Fresh.cons (hnew : k ∉ seen) (h : Fresh (k :: seen) l) : Fresh seen (k :: l) := by
  obtain ⟨hnodup, hseen⟩ := h
  refine ⟨List.nodup_cons.mpr ⟨fun hmem => ?_, hnodup⟩, List.forall_mem_cons.mpr ⟨hnew, ?_⟩⟩
  · exact hseen k hmem List.mem_cons_self
  · exact fun other hother hmem => hseen other hother (List.mem_cons_of_mem _ hmem)

lemma Fresh.filterMap_cons {α : Type*} {key : α → Option κ} {a : α} {as : List α}
    (hnew : ∀ k, key a = some k → k ∉ seen)
    (h : Fresh ((key a).toList ++ seen) (as.filterMap key)) :
    Fresh seen ((a :: as).filterMap key) := by
  rw [List.filterMap_cons]
  cases hkey : key a with
  | none =>
    rw [hkey] at h
    exact h
  | some k =>
    rw [hkey] at h
    exact Fresh.cons (hnew k hkey) h

lemma nodup_map_concat {α : Type*} {key : α → κ} {as : List α} {a : α}
    (h : (as.map key).Nodup) (hnew : ∀ b ∈ as, key b ≠ key a) : ((as ++ [a]).map key).Nodup := by
  rw [List.map_append, List.map_singleton, ← List.concat_eq_append]
  refine h.concat fun hmem => ?_
  obtain ⟨b, hb, heq⟩ := List.mem_map.mp hmem
  exact hnew b hb heq

end

/-! ### Pushing -/

variable {α κ : Type*} [DecidableEq κ] {key : α → κ}

/-- The element at the end of the list, unless its key is in the list. -/
def pushUnique (key : α → κ) (l : List α) (a : α) : List α :=
  if key a ∈ l.map key then l else l ++ [a]

lemma mem_pushUnique {l : List α} {a b : α} (h : b ∈ pushUnique key l a) : b ∈ l ∨ b = a := by
  unfold pushUnique at h
  split at h
  · exact Or.inl h
  · simpa using h

lemma mem_foldl_pushUnique {l l' : List α} {b : α} (h : b ∈ l'.foldl (pushUnique key) l) :
    b ∈ l ∨ b ∈ l' := by
  induction l' generalizing l with
  | nil => exact Or.inl h
  | cons a l' ih =>
    rcases ih h with h | h
    · rcases mem_pushUnique h with h | rfl
      · exact Or.inl h
      · exact Or.inr List.mem_cons_self
    · exact Or.inr (List.mem_cons_of_mem _ h)

/-- The keys after a loop are the old ones and the first of each new one. -/
lemma map_foldl_pushUnique (l l' : List α) : (l'.foldl (pushUnique key) l).map key =
    l.map key ++ ((l'.map key).filter fun k => k ∉ l.map key).eraseDups := by
  induction l' generalizing l with
  | nil => simp
  | cons a l' ih =>
    rw [List.foldl_cons, ih, pushUnique]
    by_cases hmem : key a ∈ l.map key
    · rw [if_pos hmem, List.map_cons, List.filter_cons_of_neg (by simpa using hmem)]
    · have hrest : ((l'.map key).filter fun k => k ∉ (l ++ [a]).map key) =
          ((l'.map key).filter fun k => k ∉ l.map key).filter fun k => !k == key a := by
        rw [List.filter_filter]
        refine List.filter_congr fun k _ => ?_
        rw [List.map_append, List.map_singleton]
        by_cases hk : k = key a <;> simp [hk]
      rw [if_neg hmem, hrest, List.map_cons, List.filter_cons_of_pos (by simpa using hmem),
        List.eraseDups_cons, List.map_append, List.map_singleton, List.append_assoc,
        List.singleton_append]

lemma map_foldl_pushUnique_nil (l : List α) :
    (l.foldl (pushUnique key) []).map key = (l.map key).eraseDups := by
  rw [map_foldl_pushUnique]
  simp

end MotherApi.Lib.Distinct
