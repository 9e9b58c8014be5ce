import Mathlib.Data.List.Dedup
import Mathlib.Data.List.Forall2
import Mathlib.Data.List.Perm.Basic
import Mathlib.Data.List.Perm.Lattice
import Mathlib.Data.List.Sort

/-!
Cutting a list into groups by a key, and into chunks by a size.

A sorted map of lists, into which the elements of a list are pushed under their keys, has the
elements of a key in their order and its keys in theirs. The groups of a list are again the
elements of the list, and those of a permuted list have the same keys.
-/

namespace MotherApi.Lib.Groups

variable {κ ν : Type*}

section Groups

variable [LinearOrder κ] (f : ν → κ)

/-- The keys of the list, in order. -/
def keys (l : List ν) : List κ := (l.map f).dedup.insertionSort (· ≤ ·)

/-- The elements under their keys. -/
def groups (l : List ν) : List (κ × List ν) :=
  (keys f l).map fun k => (k, l.filter fun v => f v = k)

lemma mem_keys {l : List ν} {k : κ} : k ∈ keys f l ↔ ∃ v ∈ l, f v = k := by
  simp [keys]

lemma nodup_keys (l : List ν) : (keys f l).Nodup := by
  rw [keys, List.Perm.nodup_iff (List.perm_insertionSort _ _)]
  exact List.nodup_dedup _

lemma pairwise_lt_keys (l : List ν) : (keys f l).Pairwise (· < ·) :=
  (List.pairwise_insertionSort _ _).imp₂ (fun _ _ hle hne => lt_of_le_of_ne hle hne)
    (nodup_keys f l)

lemma map_fst_groups (l : List ν) : (groups f l).map Prod.fst = keys f l := by
  simp [groups, Function.comp_def]

lemma mem_groups {l : List ν} {group : κ × List ν} (h : group ∈ groups f l) :
    group.1 ∈ keys f l ∧ group.2 = l.filter fun v => f v = group.1 := by
  obtain ⟨k, hk, rfl⟩ := List.mem_map.mp h
  exact ⟨hk, rfl⟩

variable {f}

lemma keys_perm {l l' : List ν} (h : l.Perm l') : keys f l = keys f l' := by
  have hperm : (keys f l).Perm (keys f l') :=
    (List.perm_insertionSort _ _).trans
      (((h.map f).dedup).trans (List.perm_insertionSort _ _).symm)
  exact hperm.eq_of_pairwise' (List.pairwise_insertionSort _ _) (List.pairwise_insertionSort _ _)

/-- A permuted list has the same groups, each permuted. -/
lemma groups_perm {l l' : List ν} (h : l.Perm l') :
    List.Forall₂ (fun group group' => group.1 = group'.1 ∧ group.2.Perm group'.2)
      (groups f l) (groups f l') := by
  rw [groups, groups, keys_perm h, List.forall₂_map_left_iff, List.forall₂_map_right_iff]
  exact List.forall₂_same.mpr fun k _ => ⟨rfl, h.filter _⟩

/-- Over distinct keys that cover the list, the groups are the list. -/
lemma flatMap_filter_perm {ks : List κ} (hnodup : ks.Nodup) {l : List ν}
    (hcover : ∀ v ∈ l, f v ∈ ks) : (ks.flatMap fun k => l.filter fun v => f v = k).Perm l := by
  induction ks generalizing l with
  | nil =>
    rw [List.eq_nil_iff_forall_not_mem.mpr fun v hv => List.not_mem_nil (hcover v hv)]
    exact .refl _
  | cons k ks ih =>
    obtain ⟨hk, hnodup⟩ := List.nodup_cons.mp hnodup
    -- the elements of the other keys are those of the rest of the list
    have hrest : (ks.flatMap fun k' => l.filter fun v => f v = k') =
        ks.flatMap fun k' => (l.filter fun v => ¬f v = k).filter fun v => f v = k' := by
      refine List.flatMap_congr fun k' hk' => ?_
      rw [List.filter_filter]
      refine List.filter_congr fun v _ => ?_
      by_cases hv : f v = k'
      · have hne : k' ≠ k := fun heq => hk (heq ▸ hk')
        simp [hv, hne]
      · simp [hv]
    rw [List.flatMap_cons, hrest]
    refine ((List.Perm.refl _).append (ih hnodup ?_)).trans ?_
    · intro v hv
      obtain ⟨hv, hne⟩ := List.mem_filter.mp hv
      have hmem := hcover v hv
      simp only [decide_not, Bool.not_eq_eq_eq_not, Bool.not_true, decide_eq_false_iff_not] at hne
      exact (List.mem_cons.mp hmem).resolve_left hne
    · have hpart := List.filter_append_perm (fun v => decide (f v = k)) l
      simpa using hpart

lemma flatMap_groups_perm (l : List ν) : ((groups f l).flatMap Prod.snd).Perm l := by
  rw [groups, List.flatMap_map]
  exact flatMap_filter_perm (nodup_keys f l) fun v hv => (mem_keys f).mpr ⟨v, hv, rfl⟩

end Groups

/-! ### Sorted lists -/

section

variable [LinearOrder κ] {f : ν → κ}

lemma head_insertionSort {l : List ν} {x : ν}
    (hx : (l.insertionSort fun a b => f a ≤ f b).head? = some x) : x ∈ l ∧ ∀ y ∈ l, f x ≤ f y := by
  have hsorted := List.pairwise_insertionSort (fun a b => f a ≤ f b) l
  obtain ⟨rest, hrest⟩ := List.head?_eq_some_iff.mp hx
  have hmem (y : ν) : y ∈ l ↔ y = x ∨ y ∈ rest := by
    rw [← List.mem_insertionSort fun a b => f a ≤ f b, hrest, List.mem_cons]
  rw [hrest, List.pairwise_cons] at hsorted
  refine ⟨(hmem x).mpr (.inl rfl), ?_⟩
  intro y hy
  rcases (hmem y).mp hy with rfl | hy
  · exact le_refl _
  · exact hsorted.1 y hy

lemma exists_head_insertionSort {l : List ν} {x : ν}
    (hx : x ∈ l) : ∃ y, (l.insertionSort fun a b => f a ≤ f b).head? = some y := by
  rw [← List.mem_insertionSort fun a b => f a ≤ f b] at hx
  cases hsorted : l.insertionSort fun a b => f a ≤ f b with
  | nil => simp [hsorted] at hx
  | cons head rest => exact ⟨head, rfl⟩

lemma pairwise_lt_insertionSort {l : List ν} (hnodup : (l.map f).Nodup) :
    (l.insertionSort fun a b => f a ≤ f b).Pairwise fun a b => f a < f b := by
  have hsorted := List.pairwise_insertionSort (fun a b => f a ≤ f b) l
  have hperm := List.perm_insertionSort (fun a b => f a ≤ f b) l
  have hne : (l.insertionSort fun a b => f a ≤ f b).Pairwise fun a b => f a ≠ f b :=
    List.pairwise_map.mp ((hperm.map f).nodup_iff.mpr hnodup)
  exact hsorted.imp₂ (fun _ _ hle hne => lt_of_le_of_ne hle hne) hne

lemma eq_of_pairwise_lt {l l' : List ν} (h : l.Pairwise fun a b => f a < f b)
    (h' : l'.Pairwise fun a b => f a < f b) (hmem : ∀ x, x ∈ l ↔ x ∈ l') : l = l' := by
  have hnodup {l : List ν} (h : l.Pairwise fun a b => f a < f b) : l.Nodup := by
    refine h.imp ?_
    rintro a b hlt rfl
    exact lt_irrefl _ hlt
  refine List.Perm.eq_of_pairwise ?_ h h'
    ((List.perm_ext_iff_of_nodup (hnodup h) (hnodup h')).mpr hmem)
  intro a b _ _ hab hba
  exact (lt_asymm hab hba).elim

/-- Where the keys are distinct, the order of arrival does not matter. -/
lemma insertionSort_eq_of_perm {l l' : List ν} (hperm : l.Perm l') (hnodup : (l.map f).Nodup) :
    (l.insertionSort fun a b => f a ≤ f b) = l'.insertionSort fun a b => f a ≤ f b := by
  have hnodup' : (l'.map f).Nodup := (hperm.map f).nodup_iff.mp hnodup
  refine List.Perm.eq_of_pairwise ?_ (pairwise_lt_insertionSort hnodup)
    (pairwise_lt_insertionSort hnodup')
    ((List.perm_insertionSort _ _).trans (hperm.trans (List.perm_insertionSort _ _).symm))
  intro a b _ _ hab hba
  exact (lt_asymm hab hba).elim

end

section

variable [LinearOrder κ] {f : ν → κ}

lemma filter_insertionSort {l : List ν} (hnodup : (l.map f).Nodup) (p : ν → Bool) :
    (l.insertionSort fun a b => f a ≤ f b).filter p =
      (l.filter p).insertionSort fun a b => f a ≤ f b := by
  have hnodup' : ((l.filter p).map f).Nodup := hnodup.sublist (List.filter_sublist.map f)
  refine List.Perm.eq_of_pairwise ?_ ((pairwise_lt_insertionSort hnodup).filter p)
    (pairwise_lt_insertionSort hnodup')
    (((List.perm_insertionSort _ _).filter p).trans (List.perm_insertionSort _ _).symm)
  intro a b _ _ hab hba
  exact (lt_asymm hab hba).elim

lemma filter_lt_of_pairwise {before after : List ν} {x : ν}
    (h : (before ++ x :: after).Pairwise fun a b => f a < f b) :
    (before ++ x :: after).filter (fun y => f x < f y) = after := by
  rw [List.pairwise_append, List.pairwise_cons] at h
  obtain ⟨-, ⟨hafter, -⟩, hbefore⟩ := h
  have hnone : before.filter (fun y => f x < f y) = [] := by
    refine List.filter_eq_nil_iff.mpr fun y hy => ?_
    simpa using (hbefore y hy x List.mem_cons_self).le
  have hall : after.filter (fun y => f x < f y) = after :=
    List.filter_eq_self.mpr fun y hy => decide_eq_true (hafter y hy)
  rw [List.filter_append, hnone, List.filter_cons_of_neg (by simp), hall, List.nil_append]

end

/-- Two loops can be exchanged, up to the order. -/
lemma flatMap_comm_perm {α β γ : Type*} (as : List α) (bs : List β) (g : α → β → List γ) :
    (as.flatMap fun a => bs.flatMap fun b => g a b).Perm
      (bs.flatMap fun b => as.flatMap fun a => g a b) := by
  induction as with
  | nil => simp
  | cons a as ih =>
    simp only [List.flatMap_cons]
    exact (ih.append_left _).trans (List.flatMap_append_perm bs (g a) _)

/-! ### Chunks -/

/-- At most `fuel` chunks. -/
def chunksUpTo (size : ℕ) : ℕ → List ν → List (List ν)
  | 0, _ => []
  | fuel + 1, l => if l.isEmpty then [] else l.take size :: chunksUpTo size fuel (l.drop size)

/-- The list in chunks of the size, the last one maybe shorter. -/
def chunks (size : ℕ) (l : List ν) : List (List ν) := chunksUpTo size l.length l

lemma flatten_chunksUpTo {size : ℕ} (hsize : 0 < size) {fuel : ℕ} {l : List ν}
    (hfuel : l.length ≤ fuel) : (chunksUpTo size fuel l).flatten = l := by
  induction fuel generalizing l with
  | zero =>
    rw [List.eq_nil_of_length_eq_zero (Nat.le_zero.mp hfuel)]
    rfl
  | succ fuel ih =>
    rw [chunksUpTo]
    split
    · rename_i hempty
      rw [List.isEmpty_iff.mp hempty]
      rfl
    · rename_i hempty
      have hpos : 0 < l.length := List.length_pos_iff.mpr (by simpa using hempty)
      rw [List.flatten_cons, ih (by rw [List.length_drop]; omega), List.take_append_drop]

lemma flatten_chunks {size : ℕ} (hsize : 0 < size) (l : List ν) : (chunks size l).flatten = l :=
  flatten_chunksUpTo hsize le_rfl

/-- A loop over the chunks with a loop over each is a loop over the list. -/
lemma flatMap_chunks {γ : Type*} {size : ℕ} (hsize : 0 < size) (l : List ν) (g : ν → List γ) :
    ((chunks size l).flatMap fun chunk => chunk.flatMap g) = l.flatMap g := by
  nth_rewrite 2 [← flatten_chunks hsize l]
  rw [← List.flatMap_id, List.flatMap_assoc]
  rfl

lemma mem_chunksUpTo {size : ℕ} (hsize : 0 < size) {fuel : ℕ} {l chunk : List ν}
    (h : chunk ∈ chunksUpTo size fuel l) : chunk ≠ [] ∧ chunk.length ≤ size ∧ chunk.Sublist l := by
  induction fuel generalizing l with
  | zero => cases h
  | succ fuel ih =>
    rw [chunksUpTo] at h
    split at h
    · cases h
    · rename_i hempty
      have hpos : 0 < l.length := List.length_pos_iff.mpr (by simpa using hempty)
      rcases List.mem_cons.mp h with rfl | h
      · refine ⟨?_, List.length_take_le _ _, List.take_sublist _ _⟩
        rw [← List.length_pos_iff, List.length_take]
        omega
      · obtain ⟨hne, hlen, hsub⟩ := ih h
        exact ⟨hne, hlen, hsub.trans (List.drop_sublist _ _)⟩

lemma mem_chunks {size : ℕ} (hsize : 0 < size) {l chunk : List ν} (h : chunk ∈ chunks size l) :
    chunk ≠ [] ∧ chunk.length ≤ size ∧ chunk.Sublist l :=
  mem_chunksUpTo hsize h

/-- The chunks of a list in order are in order, and so is each of them. -/
lemma pairwise_chunks {r : ν → ν → Prop} {size : ℕ} (hsize : 0 < size) {l : List ν}
    (h : l.Pairwise r) : (∀ chunk ∈ chunks size l, chunk.Pairwise r) ∧
      (chunks size l).Pairwise fun before after => ∀ a ∈ before, ∀ b ∈ after, r a b := by
  rw [← flatten_chunks hsize l, List.pairwise_flatten] at h
  exact h

end MotherApi.Lib.Groups
