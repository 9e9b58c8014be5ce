import Mathlib.Data.List.TakeWhile
import Mathlib.Data.List.TakeDrop

/-!
Cutting a list at its first mark, and into its words.

The part before the cut has no mark; the part after it is empty, or starts with one. A cut of this
kind is the only one. The words of a list are what stands between its marks, without what is empty.
-/

namespace MotherApi.Lib.Splits

universe u

variable {α : Type u} {p : α → Bool} {text before after : List α}

/-- What a cut before the first element without the property leaves on its two sides. -/
lemma of_span_eq (h : text.span p = (before, after)) :
    text = before ++ after ∧ (∀ c ∈ before, p c = true) ∧ ∀ c ∈ after.head?, p c = false := by
  rw [List.span_eq_takeWhile_dropWhile, Prod.mk.injEq] at h
  obtain ⟨rfl, rfl⟩ := h
  refine ⟨List.takeWhile_append_dropWhile.symm, fun c hc => List.mem_takeWhile_imp hc, ?_⟩
  intro c hc
  have hhead := List.head?_dropWhile_not p text
  rw [Option.mem_def.mp hc] at hhead
  exact hhead

lemma span_append {mark : α} {rest : List α} (hbefore : ∀ c ∈ before, p c = true)
    (hmark : p mark = false) : (before ++ mark :: rest).span p = (before, mark :: rest) := by
  rw [List.span_eq_takeWhile_dropWhile, List.takeWhile_append_of_pos hbefore,
    List.dropWhile_append_of_pos hbefore, List.takeWhile_cons_of_neg (by simp [hmark]),
    List.dropWhile_cons_of_neg (by simp [hmark]), List.append_nil]

lemma span_self (h : ∀ c ∈ before, p c = true) : before.span p = (before, []) := by
  rw [List.span_eq_takeWhile_dropWhile, List.takeWhile_eq_self_iff.mpr h,
    List.dropWhile_eq_nil_iff.mpr h]

/-! ### Words -/

/-- What stands between the elements with the property, without what is empty. -/
def words (p : α → Bool) (text : List α) : List (List α) :=
  (text.splitOnP p).filter (!·.isEmpty)

lemma words_nil : words p ([] : List α) = [] := rfl

lemma words_append {mark : α} {rest : List α} (hmark : p mark = true) :
    words p (before ++ mark :: rest) = words p before ++ words p rest := by
  rw [words, List.splitOnP_append_cons before rest hmark, List.filter_append, words, words]

lemma words_word (hne : text ≠ []) (h : ∀ c ∈ text, p c = false) : words p text = [text] := by
  rw [words, List.splitOnP_eq_singleton h, List.filter_cons_of_pos, List.filter_nil]
  simpa using hne

lemma words_blank_append {blank : List α} (hblank : ∀ c ∈ blank, p c = true) :
    words p (blank ++ text) = words p text := by
  induction blank with
  | nil => rfl
  | cons c blank ih =>
    rw [List.forall_mem_cons] at hblank
    have hfirst : words p ([] ++ c :: (blank ++ text)) = words p [] ++ words p (blank ++ text) :=
      words_append hblank.1
    exact hfirst.trans (ih hblank.2)

/-- What is separated is split. -/
lemma words_append_blank_append {blank : List α} (hne : blank ≠ [])
    (hblank : ∀ c ∈ blank, p c = true) :
    words p (before ++ (blank ++ after)) = words p before ++ words p after := by
  obtain ⟨c, blank, rfl⟩ := List.exists_cons_of_ne_nil hne
  rw [List.forall_mem_cons] at hblank
  rw [List.cons_append, words_append hblank.1, words_blank_append hblank.2]

lemma words_append_blank {blank : List α} (hblank : ∀ c ∈ blank, p c = true) :
    words p (before ++ blank) = words p before := by
  rcases eq_or_ne blank [] with rfl | hne
  · rw [List.append_nil]
  · have h : words p (before ++ (blank ++ [])) = words p before ++ words p [] :=
      words_append_blank_append hne hblank
    rwa [List.append_nil, words_nil, List.append_nil] at h

end MotherApi.Lib.Splits
