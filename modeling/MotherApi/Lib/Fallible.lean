import Mathlib.Data.List.Perm.Basic

/-!
Computations that fail, with an error or by panicking.

A Rust function that returns a `Result` is an `Except`; one that can also abort on a failed
`expect` or an index out of range is an `Except` whose error says which of the two it was.
-/

namespace MotherApi.Lib.Fallible

universe u v

variable {ε : Type v} {α β : Type u}

/-- Why a computation did not return a value: it returned an error, or it panicked. -/
inductive Halt (ε : Type*)
  | panic
  | error (e : ε)
  deriving DecidableEq

/-- A `Result` inside a function that may also panic. -/
def lift : Except ε α → Except (Halt ε) α
  | .ok a => .ok a
  | .error e => .error (.error e)

/-- `Option::expect`. -/
def expect : Option α → Except (Halt ε) α
  | some a => .ok a
  | none => .error .panic

/-- `return Err(e)` in a function that may also panic. -/
def fail (e : ε) : Except (Halt ε) α := .error (.error e)

@[simp] lemma fail_ne_ok {e : ε} {a : α} : (fail e : Except (Halt ε) α) ≠ .ok a := by
  simp [fail]

@[simp] lemma lift_eq_ok {x : Except ε α} {a : α} : lift x = .ok a ↔ x = .ok a := by
  cases x <;> simp [lift]

@[simp] lemma expect_eq_ok {x : Option α} {a : α} :
    (expect x : Except (Halt ε) α) = .ok a ↔ x = some a := by
  cases x <;> simp [expect]

/-- The value of a computation that is known to return one. -/
def value (x : Except ε α) (h : x.toOption.isSome = true) : α := x.toOption.get h

lemma eq_ok_value (x : Except ε α) (h : x.toOption.isSome = true) : x = .ok (value x h) := by
  cases x with
  | error e => cases h
  | ok a => rfl

@[simp] lemma bind_ok {a : α} {f : α → Except ε β} : (Except.ok a >>= f) = f a := rfl

lemma bind_eq_ok {x : Except ε α} {f : α → Except ε β} {b : β} :
    (x >>= f) = .ok b ↔ ∃ a, x = .ok a ∧ f a = .ok b := by
  cases x <;> simp [bind, Except.bind]

lemma bind_eq_error {x : Except ε α} {f : α → Except ε β} {e : ε} :
    (x >>= f) = .error e ↔ x = .error e ∨ ∃ a, x = .ok a ∧ f a = .error e := by
  cases x <;> simp [bind, Except.bind]

lemma map_eq_ok {x : Except ε α} {f : α → β} {b : β} :
    x.map f = .ok b ↔ ∃ a, x = .ok a ∧ f a = b := by
  cases x <;> simp [Except.map]

lemma mapError_eq_ok {ε' : Type*} {f : ε → ε'} {x : Except ε α} {a : α} :
    x.mapError f = .ok a ↔ x = .ok a := by
  cases x <;> simp [Except.mapError]

/-- Every element of the list succeeds, and the results are those of the elements in order. -/
lemma mapM_eq_ok {f : α → Except ε β} {l : List α} {l' : List β} :
    l.mapM f = .ok l' ↔ List.Forall₂ (fun a b => f a = .ok b) l l' := by
  induction l generalizing l' with
  | nil => simp [pure, Except.pure, eq_comm]
  | cons a l ih =>
    rw [List.mapM_cons, bind_eq_ok]
    constructor
    · rintro ⟨b, hb, h⟩
      obtain ⟨bs, hbs, h⟩ := bind_eq_ok.mp h
      simp only [pure, Except.pure, Except.ok.injEq] at h
      exact h ▸ .cons hb (ih.mp hbs)
    · intro h
      obtain ⟨b, bs, hb, hbs, rfl⟩ := List.forall₂_cons_left_iff.mp h
      exact ⟨b, hb, bind_eq_ok.mpr ⟨bs, ih.mpr hbs, rfl⟩⟩

lemma forM_eq_ok {f : α → Except ε Unit} {l : List α} :
    l.forM f = .ok () ↔ ∀ a ∈ l, f a = .ok () := by
  induction l with
  | nil => exact ⟨fun _ _ h => absurd h List.not_mem_nil, fun _ => rfl⟩
  | cons a l ih =>
    have hloop : (a :: l).forM f = (f a >>= fun _ => l.forM f) := rfl
    rw [hloop, bind_eq_ok, List.forall_mem_cons, ← ih]
    exact ⟨fun ⟨_, ha, hl⟩ => ⟨ha, hl⟩, fun ⟨ha, hl⟩ => ⟨(), ha, hl⟩⟩

lemma mapM_eq_map {f : α → Except ε β} {g : α → β} {l : List α} (h : ∀ a ∈ l, f a = .ok (g a)) :
    l.mapM f = .ok (l.map g) := by
  rw [mapM_eq_ok, List.forall₂_map_right_iff]
  exact List.forall₂_same.mpr h

lemma mapM_eq_ok_map {f : α → Except ε β} {g : α → β} {P : α → Prop} {l : List α} {l' : List β}
    (h : ∀ a ∈ l, ∀ b, f a = .ok b ↔ P a ∧ b = g a) :
    l.mapM f = .ok l' ↔ (∀ a ∈ l, P a) ∧ l' = l.map g := by
  induction l generalizing l' with
  | nil => simp [pure, Except.pure, eq_comm]
  | cons a l ih =>
    have ih : ∀ bs : List β, l.mapM f = .ok bs ↔ (∀ c ∈ l, P c) ∧ bs = l.map g :=
      fun bs => ih fun c hc => h c (List.mem_cons_of_mem _ hc)
    rw [List.mapM_cons, bind_eq_ok]
    simp only [bind_eq_ok, h a List.mem_cons_self, ih, pure, Except.pure, Except.ok.injEq,
      List.mem_cons, forall_eq_or_imp, List.map_cons]
    constructor
    · rintro ⟨b, ⟨ha, rfl⟩, bs, ⟨hall, rfl⟩, rfl⟩
      exact ⟨⟨ha, hall⟩, rfl⟩
    · rintro ⟨⟨ha, hall⟩, rfl⟩
      exact ⟨_, ⟨ha, rfl⟩, _, ⟨hall, rfl⟩, rfl⟩

/-- A list succeeds exactly if a partial function has a value at each of its elements, where the
two agree at each of them. -/
lemma mapM_eq_ok_filterMap {f : α → Except ε β} {g : α → Option β} {l : List α} {l' : List β}
    (h : ∀ a ∈ l, ∀ b, f a = .ok b ↔ g a = some b) :
    l.mapM f = .ok l' ↔ (∀ a ∈ l, (g a).isSome = true) ∧ l' = l.filterMap g := by
  induction l generalizing l' with
  | nil =>
    refine ⟨fun hnil => ?_, ?_⟩
    · cases hnil
      simp
    · rintro ⟨-, rfl⟩
      rfl
  | cons a l ih =>
    have ih : ∀ bs : List β, l.mapM f = .ok bs ↔
        (∀ c ∈ l, (g c).isSome = true) ∧ bs = l.filterMap g :=
      fun bs => ih fun c hc => h c (List.mem_cons_of_mem _ hc)
    rw [List.mapM_cons, bind_eq_ok, List.forall_mem_cons]
    constructor
    · rintro ⟨b, hb, hrest⟩
      obtain ⟨bs, hbs, hrest⟩ := bind_eq_ok.mp hrest
      have hb := (h a List.mem_cons_self b).mp hb
      obtain ⟨hall, rfl⟩ := (ih bs).mp hbs
      cases hrest
      exact ⟨⟨by simp [hb], hall⟩, by simp [hb]⟩
    · rintro ⟨⟨ha, hall⟩, rfl⟩
      obtain ⟨b, hb⟩ := Option.isSome_iff_exists.mp ha
      refine ⟨b, (h a List.mem_cons_self b).mpr hb, bind_eq_ok.mpr ⟨_, (ih _).mpr ⟨hall, rfl⟩, ?_⟩⟩
      simp [hb, pure, Except.pure]

lemma mapM_congr {f g : α → Except ε β} {l : List α} (h : ∀ a ∈ l, f a = g a) :
    l.mapM f = l.mapM g := by
  induction l with
  | nil => rfl
  | cons a l ih =>
    rw [List.mapM_cons, List.mapM_cons, h a List.mem_cons_self,
      ih fun b hb => h b (List.mem_cons_of_mem _ hb)]

lemma exists_mapM_eq_ok {f : α → Except ε β} {l : List α} (h : ∀ a ∈ l, ∃ b, f a = .ok b) :
    ∃ l', l.mapM f = .ok l' := by
  induction l with
  | nil => exact ⟨[], rfl⟩
  | cons a l ih =>
    obtain ⟨b, hb⟩ := h a (by simp)
    obtain ⟨bs, hbs⟩ := ih fun c hc => h c (List.mem_cons_of_mem _ hc)
    exact ⟨b :: bs, mapM_eq_ok.mpr (.cons hb (mapM_eq_ok.mp hbs))⟩

lemma exists_mapM_forall₂ {f : α → Except ε β} {R : α → β → Prop} {l : List α}
    (h : ∀ a ∈ l, ∃ b, f a = .ok b ∧ R a b) : ∃ l', l.mapM f = .ok l' ∧ List.Forall₂ R l l' := by
  obtain ⟨l', hl'⟩ := exists_mapM_eq_ok fun a ha => (h a ha).imp fun _ hb => hb.1
  refine ⟨l', hl', ?_⟩
  refine ((List.forall₂_and_left l l').mpr ⟨h, mapM_eq_ok.mp hl'⟩).imp fun a b hab => ?_
  obtain ⟨⟨b', hb', hR⟩, hb⟩ := hab
  rw [hb, Except.ok.injEq] at hb'
  exact hb' ▸ hR

lemma exists_of_forall₂ {R : α → β → Prop} {l : List α} {l' : List β} (h : List.Forall₂ R l l')
    {a : α} (ha : a ∈ l) : ∃ b ∈ l', R a b := by
  induction h with
  | nil => cases ha
  | cons hab _ ih =>
    rcases List.mem_cons.mp ha with rfl | ha
    · exact ⟨_, List.mem_cons_self, hab⟩
    · obtain ⟨b, hb, hab⟩ := ih ha
      exact ⟨b, List.mem_cons_of_mem _ hb, hab⟩

lemma mem_of_mapM {f : α → Except ε β} {l : List α} {l' : List β} (h : l.mapM f = .ok l') {b : β}
    (hb : b ∈ l') : ∃ a ∈ l, f a = .ok b :=
  exists_of_forall₂ (mapM_eq_ok.mp h).flip hb

lemma exists_of_mapM {f : α → Except ε β} {l : List α} {l' : List β} (h : l.mapM f = .ok l') {a : α}
    (ha : a ∈ l) : ∃ b ∈ l', f a = .ok b :=
  exists_of_forall₂ (mapM_eq_ok.mp h) ha

/-- The results of a permuted list are the permuted results. -/
lemma mapM_perm {f : α → Except ε β} {l₁ l₂ : List α} (hperm : l₂.Perm l₁) {bs : List β}
    (h : l₁.mapM f = .ok bs) : ∃ bs', l₂.mapM f = .ok bs' ∧ bs'.Perm bs := by
  obtain ⟨bs', hbs', hperm⟩ := List.perm_comp_forall₂ hperm (mapM_eq_ok.mp h)
  exact ⟨bs', mapM_eq_ok.mpr hbs', hperm⟩

/-- What every round of a loop keeps, of the elements done and the state, holds after the loop. -/
lemma foldlM_inv {f : β → α → Except ε β} (P : List α → β → Prop) {l : List α}
    (step : ∀ done, ∀ a ∈ l, ∀ b b', P done b → f b a = .ok b' → P (done ++ [a]) b')
    {b b' : β} (h0 : P [] b) (h : l.foldlM f b = .ok b') : P l b' := by
  suffices hall : ∀ done, P done b → P (done ++ l) b' by simpa using hall [] h0
  clear h0
  induction l generalizing b with
  | nil =>
    intro done hdone
    simp only [List.foldlM_nil, pure, Except.pure, Except.ok.injEq] at h
    simpa [← h] using hdone
  | cons a l ih =>
    intro done hdone
    rw [List.foldlM_cons] at h
    obtain ⟨b₁, hb₁, h⟩ := bind_eq_ok.mp h
    have hdone := step done a List.mem_cons_self b b₁ hdone hb₁
    simpa using ih (fun done c hc => step done c (List.mem_cons_of_mem _ hc)) h (done ++ [a]) hdone

/-- A loop that fails does so in one of its rounds. -/
lemma exists_of_foldlM_eq_error {f : β → α → Except ε β} {l : List α} {b : β} {e : ε}
    (h : l.foldlM f b = .error e) : ∃ b', ∃ a ∈ l, f b' a = .error e := by
  induction l generalizing b with
  | nil => cases h
  | cons a l ih =>
    rw [List.foldlM_cons] at h
    rcases bind_eq_error.mp h with h | ⟨b', -, h⟩
    · exact ⟨b, a, List.mem_cons_self, h⟩
    · obtain ⟨b', a', ha', h⟩ := ih h
      exact ⟨b', a', List.mem_cons_of_mem _ ha', h⟩

/-! ### Guards -/

/-- `if !passes { return Err(e) }`. -/
def orReturn (passes : Bool) (e : ε) : Except ε Unit := if passes then .ok () else .error e

/-- `Option::ok_or`. -/
def okOr (x : Option α) (e : ε) : Except ε α :=
  match x with
  | some a => .ok a
  | none => .error e

@[simp] lemma okOr_eq_ok {x : Option α} {e : ε} {a : α} : okOr x e = .ok a ↔ x = some a := by
  cases x <;> simp [okOr]

@[simp] lemma orReturn_eq_ok {passes : Bool} {e : ε} {u : Unit} :
    orReturn passes e = .ok u ↔ passes = true := by
  cases passes <;> simp [orReturn]

/-! ### Allowed errors -/

/-- The computation returns a value with the property, or fails with an allowed error. -/
def Returns (allowed : ε → Prop) (Q : α → Prop) : Except ε α → Prop
  | .ok a => Q a
  | .error e => allowed e

section

variable {allowed : ε → Prop}

lemma returns_iff {Q : α → Prop} {x : Except ε α} : Returns allowed Q x ↔
    (∀ e, x = .error e → allowed e) ∧ ∀ a, x = .ok a → Q a := by
  cases x <;> simp [Returns]

lemma Returns.bind {Q : α → Prop} {Q' : β → Prop} {x : Except ε α} {f : α → Except ε β}
    (h : Returns allowed Q x) (hf : ∀ a, Q a → Returns allowed Q' (f a)) :
    Returns allowed Q' (x >>= f) := by
  cases x with
  | error e => exact h
  | ok a => exact hf a h

lemma Returns.mono {Q Q' : α → Prop} {x : Except ε α} (h : Returns allowed Q x)
    (hQ : ∀ a, Q a → Q' a) : Returns allowed Q' x := by
  cases x with
  | error e => exact h
  | ok a => exact hQ a h

lemma returns_mapM {f : α → Except ε β} {R : α → β → Prop} {l : List α}
    (h : ∀ a ∈ l, Returns allowed (R a) (f a)) :
    Returns allowed (List.Forall₂ R l) (l.mapM f) := by
  induction l with
  | nil => exact List.Forall₂.nil
  | cons a l ih =>
    rw [List.mapM_cons]
    refine (h a List.mem_cons_self).bind fun b hb => ?_
    refine (ih fun c hc => h c (List.mem_cons_of_mem _ hc)).bind fun bs hbs => ?_
    exact List.Forall₂.cons hb hbs

lemma returns_mapM_all {f : α → Except ε β} {Q : β → Prop} {l : List α}
    (h : ∀ a ∈ l, Returns allowed Q (f a)) :
    Returns allowed (fun l' => ∀ b ∈ l', Q b) (l.mapM f) := by
  refine (returns_mapM fun a ha => h a ha).mono fun l' hl' b hb => ?_
  obtain ⟨a, -, hQ⟩ := exists_of_forall₂ hl'.flip hb
  exact hQ

lemma returns_forM {f : α → Except ε Unit} {l : List α}
    (h : ∀ a ∈ l, Returns allowed (fun _ => True) (f a)) :
    Returns allowed (fun _ => True) (l.forM f) := by
  induction l with
  | nil => trivial
  | cons a l ih =>
    have hloop : (a :: l).forM f = (f a >>= fun _ => l.forM f) := rfl
    rw [hloop]
    exact (h a List.mem_cons_self).bind fun _ _ => ih fun b hb => h b (List.mem_cons_of_mem _ hb)

/-- A loop whose rounds keep the property of the elements done and the state. -/
lemma returns_foldlM {f : β → α → Except ε β} (P : List α → β → Prop) {l : List α}
    (step : ∀ done a rest, l = done ++ a :: rest → ∀ b, P done b →
      Returns allowed (P (done ++ [a])) (f b a))
    {b : β} (h0 : P [] b) : Returns allowed (P l) (l.foldlM f b) := by
  suffices hall : ∀ rest done b, l = done ++ rest → P done b →
      Returns allowed (P l) (rest.foldlM f b) from hall l [] b rfl h0
  intro rest
  induction rest with
  | nil =>
    intro done b hl hdone
    rw [List.append_nil] at hl
    exact hl ▸ hdone
  | cons a rest ih =>
    intro done b hl hdone
    rw [List.foldlM_cons]
    exact (step done a rest hl b hdone).bind fun b' hb' => ih (done ++ [a]) b' (by simp [hl]) hb'

end

/-- A loop whose rounds may be swapped ends the same in every order. -/
lemma foldlM_perm {f : β → α → Except ε β}
    (hswap : ∀ b x y, (f b x >>= fun c => f c y) = (f b y >>= fun c => f c x)) {l l' : List α}
    (h : l.Perm l') (b : β) : l.foldlM f b = l'.foldlM f b := by
  induction h generalizing b with
  | nil => rfl
  | cons x _ ih =>
    rw [List.foldlM_cons, List.foldlM_cons]
    exact bind_congr ih
  | swap x y l =>
    simp only [List.foldlM_cons, ← bind_assoc]
    rw [hswap]
  | trans _ _ ih ih' => exact (ih b).trans (ih' b)

/-- `list[i] = a`, which panics outside of the list. -/
def setAt (l : List α) (i : ℕ) (a : α) : Except (Halt ε) (List α) :=
  if i < l.length then .ok (l.set i a) else .error .panic

lemma setAt_eq_ok {l l' : List α} {i : ℕ} {a : α} (h : (setAt l i a : Except (Halt ε) _) = .ok l') :
    l'.length = l.length ∧ ∀ j b, l'[j]? = some b → l[j]? = some b ∨ j = i ∧ b = a := by
  unfold setAt at h
  split at h
  · rename_i hi
    cases h
    refine ⟨List.length_set, fun j b hb => ?_⟩
    by_cases hj : i = j
    · subst hj
      rw [List.getElem?_set_self hi, Option.some.injEq] at hb
      exact Or.inr ⟨rfl, hb.symm⟩
    · rw [List.getElem?_set_ne hj] at hb
      exact Or.inl hb
  · cases h

/-- The place is taken. -/
def Filled (results : List (Option α)) (index : ℕ) : Prop :=
  ∃ result, results[index]? = some (some result)

lemma filled_set {results : List (Option α)} {index : ℕ} (hindex : index < results.length)
    (result : α) (other : ℕ) :
    Filled (results.set index (some result)) other ↔ other = index ∨ Filled results other := by
  unfold Filled
  by_cases heq : index = other
  · subst heq
    simp [hindex]
  · rw [List.getElem?_set_ne heq]
    simp [Ne.symm heq]

/-- Results with places of their own fill these. -/
lemma foldlM_setAt {placed : List (ℕ × α)} {results : List (Option α)}
    (h : ∀ entry ∈ placed, entry.1 < results.length) :
    ∃ after, (placed.foldlM (fun results (index, result) => setAt results index (some result))
        results : Except (Halt ε) _) = .ok after ∧ after.length = results.length ∧
      ∀ index, Filled after index ↔ index ∈ placed.map Prod.fst ∨ Filled results index := by
  induction placed generalizing results with
  | nil => exact ⟨results, rfl, rfl, by simp⟩
  | cons entry placed ih =>
    obtain ⟨index, result⟩ := entry
    have hindex : index < results.length := h (index, result) List.mem_cons_self
    obtain ⟨after, hafter, hlength, hfilled⟩ := @ih (results.set index (some result))
      fun other hother => by
        rw [List.length_set]
        exact h other (List.mem_cons_of_mem _ hother)
    refine ⟨after, ?_, by rw [hlength, List.length_set], fun other => ?_⟩
    · rw [List.foldlM_cons, bind_eq_ok]
      exact ⟨_, if_pos hindex, hafter⟩
    · rw [hfilled, filled_set hindex, List.map_cons, List.mem_cons]
      tauto

end MotherApi.Lib.Fallible
