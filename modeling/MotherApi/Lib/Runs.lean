import Mathlib.Data.List.Induction

/-!
Runs of a machine whose steps may be refused.

A machine is a partial step function: `step s a` is the state after the action `a`, or
nothing when `a` is not possible in `s`. A run is a list of actions, each possible where it
is taken. What one step keeps, a run keeps; and where a step keeps it only under a condition
on the state before it, a run keeps it when every one of its steps meets the condition. A condition
may also look back, at what the run has done since a step of some kind.
-/

namespace MotherApi.Lib.Runs

variable {σ α : Type*} (step : σ → α → Option σ)

/-- The state after a list of actions, if every one of them is possible in its turn. -/
def run : σ → List α → Option σ
  | s, [] => some s
  | s, a :: as => (step s a).bind fun s' => run s' as

@[simp] lemma run_nil (s : σ) : run step s [] = some s := rfl

@[simp] lemma run_cons (s : σ) (a : α) (as : List α) :
    run step s (a :: as) = (step s a).bind fun s' => run step s' as := rfl

lemma run_append (s : σ) (as bs : List α) :
    run step s (as ++ bs) = (run step s as).bind fun s' => run step s' bs := by
  induction as generalizing s with
  | nil => rfl
  | cons a as ih => simp only [List.cons_append, run_cons, ih, Option.bind_assoc]

/-- Every step of the run meets `P`, a condition on the state before it and on the action. -/
def Along (P : σ → α → Prop) : σ → List α → Prop
  | _, [] => True
  | s, a :: as => P s a ∧ ∀ s', step s a = some s' → Along P s' as

variable {step}

lemma run_cons_eq {s t : σ} {a : α} {as : List α} (h : run step s (a :: as) = some t) :
    ∃ s', step s a = some s' ∧ run step s' as = some t := by
  rw [run_cons] at h
  exact Option.bind_eq_some_iff.mp h

/-- An invariant kept by the steps that meet `P` holds after a run of such steps. -/
theorem inv_of_along {P : σ → α → Prop} (I : σ → Prop)
    (hstep : ∀ s a s', I s → P s a → step s a = some s' → I s')
    {s t : σ} {as : List α} (h0 : I s) (hP : Along step P s as) (h : run step s as = some t) :
    I t := by
  induction as generalizing s with
  | nil =>
    simp only [run_nil, Option.some.injEq] at h
    exact h ▸ h0
  | cons a as ih =>
    obtain ⟨s', hs, hrun⟩ := run_cons_eq h
    exact ih (hstep s a s' h0 hP.1 hs) (hP.2 s' hs) hrun

lemma along_of_forall_mem {P : σ → α → Prop} {as : List α} (h : ∀ a ∈ as, ∀ s, P s a) (s : σ) :
    Along step P s as := by
  induction as generalizing s with
  | nil => trivial
  | cons a as ih =>
    exact ⟨h a List.mem_cons_self s,
      fun s' _ => ih (fun b hb => h b (List.mem_cons_of_mem _ hb)) s'⟩

/-- Conditions that are the same in the states that a run can reach hold along the same runs. -/
lemma along_iff_of_inv {P Q : σ → α → Prop} (I : σ → Prop)
    (hstep : ∀ s a s', I s → step s a = some s' → I s') (hiff : ∀ s a, I s → (P s a ↔ Q s a))
    {s : σ} {as : List α} (h0 : I s) : Along step P s as ↔ Along step Q s as := by
  induction as generalizing s with
  | nil => rfl
  | cons a as ih =>
    refine and_congr (hiff s a h0) (forall_congr' fun s' => forall_congr' fun hs' => ?_)
    exact ih (hstep s a s' h0 hs')

variable (step) in
/-- Whether every step of the run passes a check, where the run is possible. -/
def checkAlong (check : σ → α → Bool) : σ → List α → Bool
  | _, [] => true
  | s, a :: as => check s a && (step s a).all fun s' => checkAlong check s' as

/-- The check may rest on an invariant of the run. -/
lemma along_of_checkAlong_inv {P : σ → α → Prop} {check : σ → α → Bool} (I : σ → Prop)
    (hcheck : ∀ s a, I s → check s a = true → P s a)
    (hstep : ∀ s a s', I s → check s a = true → step s a = some s' → I s') {s : σ} {as : List α}
    (h0 : I s) (h : checkAlong step check s as = true) : Along step P s as := by
  induction as generalizing s with
  | nil => trivial
  | cons a as ih =>
    rw [checkAlong, Bool.and_eq_true, Option.all_eq_true] at h
    exact ⟨hcheck s a h0 h.1, fun s' hs' => ih (hstep s a s' h0 h.1 hs') (h.2 s' hs')⟩

lemma along_of_checkAlong {P : σ → α → Prop} {check : σ → α → Bool}
    (hcheck : ∀ s a, check s a = true → P s a) {s : σ} {as : List α}
    (h : checkAlong step check s as = true) : Along step P s as :=
  along_of_checkAlong_inv (fun _ => True) (fun s a _ => hcheck s a) (fun _ _ _ _ _ _ => trivial)
    trivial h

/-- An invariant kept by every step holds after every run. -/
theorem inv_of_run (I : σ → Prop) (hstep : ∀ s a s', I s → step s a = some s' → I s')
    {s t : σ} {as : List α} (h0 : I s) (h : run step s as = some t) : I t :=
  inv_of_along (P := fun _ _ => True) I (fun s a s' hs _ => hstep s a s' hs) h0
    (along_of_forall_mem (fun _ _ _ => trivial) s) h

/-! ### The past of a run -/

/-- An invariant of the state together with the actions that led to it. -/
theorem inv_of_history (I : List α → σ → Prop) {s t : σ} {as : List α} (h0 : I [] s)
    (hstep : ∀ before a rest t t', as = before ++ a :: rest → run step s before = some t →
      I before t → step t a = some t' → I (before ++ [a]) t')
    (h : run step s as = some t) : I as t := by
  induction as using List.reverseRecOn generalizing t with
  | nil => exact Option.some.inj h ▸ h0
  | append_singleton before a ih =>
    rw [run_append] at h
    obtain ⟨t', hbefore, hlast⟩ := Option.bind_eq_some_iff.mp h
    obtain ⟨u, ha, hu⟩ := run_cons_eq hlast
    rw [← Option.some.inj hu]
    refine hstep before a [] t' u rfl hbefore (ih ?_ hbefore) ha
    intro before' b rest u u' hsplit
    refine hstep before' b (rest ++ [a]) u u' ?_
    rw [hsplit, List.append_assoc, List.cons_append]

/-- A condition that every step of the run meets, wherever it is taken. -/
lemma along_of_history {P : σ → α → Prop} {s : σ} {as : List α}
    (h : ∀ before a rest t, as = before ++ a :: rest → run step s before = some t → P t a) :
    Along step P s as := by
  induction as generalizing s with
  | nil => trivial
  | cons a as ih =>
    refine ⟨h [] a as s rfl rfl, fun s' hs' => ih ?_⟩
    intro before b rest t hsplit hrun
    refine h (a :: before) b rest t (by rw [hsplit]; rfl) ?_
    rw [run_cons, hs', Option.bind_some, hrun]

lemma along_at {P : σ → α → Prop} {s t : σ} {before rest : List α} {a : α}
    (h : Along step P s (before ++ a :: rest)) (hrun : run step s before = some t) : P t a := by
  induction before generalizing s with
  | nil =>
    rw [← Option.some.inj hrun]
    exact h.1
  | cons b before ih =>
    obtain ⟨s', hs', hrun⟩ := run_cons_eq hrun
    exact ih (h.2 s' hs') hrun

lemma along_of_append {P : σ → α → Prop} {s : σ} {as bs : List α}
    (h : Along step P s (as ++ bs)) : Along step P s as := by
  induction as generalizing s with
  | nil => trivial
  | cons a as ih => exact ⟨h.1, fun s' hs' => ih (h.2 s' hs')⟩

lemma along_append {P : σ → α → Prop} {s t : σ} {as bs : List α} (h : Along step P s as)
    (hrun : run step s as = some t) (hbs : Along step P t bs) : Along step P s (as ++ bs) := by
  induction as generalizing s with
  | nil =>
    rw [List.nil_append, Option.some.inj hrun]
    exact hbs
  | cons a as ih =>
    refine ⟨h.1, fun s' hs' => ih (h.2 s' hs') ?_⟩
    rwa [run_cons, hs', Option.bind_some] at hrun

variable (step) in
/-- The run took a step of the kind `A`, and only steps of the kind `D` since. -/
def Since (A D : σ → α → Prop) (s : σ) (as : List α) : Prop :=
  ∃ before a after t t', as = before ++ a :: after ∧ run step s before = some t ∧
    step t a = some t' ∧ A t a ∧ Along step D t' after

variable {A D : σ → α → Prop} {s t t' : σ} {as : List α} {a : α}

lemma since_of_last (hrun : run step s as = some t) (hstep : step t a = some t') (ha : A t a) :
    Since step A D s (as ++ [a]) :=
  ⟨as, a, [], t, t', rfl, hrun, hstep, ha, trivial⟩

lemma Since.concat (h : Since step A D s as) (hrun : run step s as = some t) (ha : D t a) :
    Since step A D s (as ++ [a]) := by
  obtain ⟨before, b, after, u, u', rfl, hu, hb, hA, hafter⟩ := h
  rw [run_append, hu, Option.bind_some, run_cons, hb, Option.bind_some] at hrun
  refine ⟨before, b, after ++ [a], u, u', by simp, hu, hb, hA, along_append hafter hrun ?_⟩
  exact ⟨ha, fun _ _ => trivial⟩

variable (step) in
/-- The run is found to have taken such steps. -/
def checkSince (since kept : σ → α → Bool) : σ → List α → Bool
  | _, [] => false
  | s, a :: as =>
    (step s a).any fun s' =>
      (since s a && checkAlong step kept s' as) || checkSince since kept s' as

lemma checkAlong_of_along {P : σ → α → Prop} {check : σ → α → Bool}
    (hcheck : ∀ s a, P s a → check s a = true) (h : Along step P s as) :
    checkAlong step check s as = true := by
  induction as generalizing s with
  | nil => rfl
  | cons a as ih =>
    rw [checkAlong, Bool.and_eq_true, Option.all_eq_true]
    exact ⟨hcheck s a h.1, fun s' hs' => ih (h.2 s' hs')⟩

lemma checkSince_of_since {since kept : σ → α → Bool} (hsince : ∀ s a, A s a → since s a = true)
    (hkept : ∀ s a, D s a → kept s a = true) (h : Since step A D s as) :
    checkSince step since kept s as = true := by
  obtain ⟨before, a, after, t, t', rfl, hbefore, ha, hA, hafter⟩ := h
  induction before generalizing s with
  | nil =>
    obtain rfl := Option.some.inj hbefore
    rw [List.nil_append, checkSince, ha, Option.any_some, hsince _ a hA,
      checkAlong_of_along hkept hafter]
    rfl
  | cons b before ih =>
    obtain ⟨s', hb, hbefore⟩ := run_cons_eq hbefore
    rw [List.cons_append, checkSince, hb, Option.any_some, ih hbefore, Bool.or_true]

end MotherApi.Lib.Runs
