import MotherApi.Lib.Runs
import Mathlib.Logic.Function.Basic

/-!
Handlers that run side by side over shared data, one statement at a time.

A call arrives with its request and moves from point to point of its handler. Each move is one
statement, which happens at once, under an outcome that the surroundings choose. A call that is
done stays, with its answer.

What a call relies on is stable under what the statements of the others may do to the data. So an
invariant comes from three facts about single statements: they keep what holds of the data, they
change the data only as is allowed, and they leave their own call with what it relies on next.
-/

namespace MotherApi.Lib.Handlers

open MotherApi.Lib.Runs

/-- The handlers: the first point of a request, and what a statement does under an outcome. -/
structure System (Db Req Point Outcome : Type*) where
  enter : Req → Point
  advance : Db → Point → Outcome → Option (Db × Point)

structure State (Db Req Point : Type*) where
  db : Db
  calls : ℕ → Option (Req × Point)

inductive Event (Req Outcome : Type*)
  | arrive (call : ℕ) (req : Req)
  | advance (call : ℕ) (outcome : Outcome)

variable {Db Req Point Outcome : Type*}

/-- Nobody has called yet. -/
def start (db : Db) : State Db Req Point := ⟨db, fun _ => none⟩

/-- The data and the point of one call are new. -/
def State.put (s : State Db Req Point) (db : Db) (call : ℕ) (req : Req) (point : Point) :
    State Db Req Point :=
  ⟨db, Function.update s.calls call (some (req, point))⟩

/-- A call keeps its number, so a number is used once. -/
def step (S : System Db Req Point Outcome) (s : State Db Req Point) :
    Event Req Outcome → Option (State Db Req Point)
  | .arrive call req =>
    if (s.calls call).isNone then some (s.put s.db call req (S.enter req)) else none
  | .advance call outcome =>
    (s.calls call).bind fun (req, point) =>
      (S.advance s.db point outcome).map fun (db, point) => s.put db call req point

variable {S : System Db Req Point Outcome} {s s' : State Db Req Point}

@[simp] lemma put_db (db : Db) (call : ℕ) (req : Req) (point : Point) :
    (s.put db call req point).db = db := rfl

@[simp] lemma put_calls (db : Db) (call : ℕ) (req : Req) (point : Point) :
    (s.put db call req point).calls = Function.update s.calls call (some (req, point)) := rfl

lemma calls_put {db : Db} {call other : ℕ} {req req' : Req} {point point' : Point}
    (h : (s.put db call req point).calls other = some (req', point')) :
    other = call ∧ req' = req ∧ point' = point ∨
      other ≠ call ∧ s.calls other = some (req', point') := by
  by_cases heq : other = call
  · subst heq
    rw [put_calls, Function.update_self] at h
    cases h
    exact Or.inl ⟨rfl, rfl, rfl⟩
  · rw [put_calls, Function.update_of_ne heq] at h
    exact Or.inr ⟨heq, h⟩

lemma step_arrive {call : ℕ} (hfree : s.calls call = none) (req : Req) :
    step S s (.arrive call req) = some (s.put s.db call req (S.enter req)) := by
  rw [step, hfree]
  rfl

lemma step_put (db : Db) (call : ℕ) (req : Req) (point : Point) (outcome : Outcome) :
    step S (s.put db call req point) (.advance call outcome) =
      (S.advance db point outcome).map fun (db, point) => s.put db call req point := by
  rw [step, put_calls, Function.update_self, Option.bind_some, put_db]
  simp only [State.put, Function.update_idem]

/-- All that a step can do. -/
lemma step_cases {e : Event Req Outcome} (h : step S s e = some s') :
    (∃ call req, e = .arrive call req ∧ s.calls call = none ∧
      s' = s.put s.db call req (S.enter req)) ∨
    ∃ call outcome req point db point', e = .advance call outcome ∧
      s.calls call = some (req, point) ∧ S.advance s.db point outcome = some (db, point') ∧
      s' = s.put db call req point' := by
  cases e with
  | arrive call req =>
    rw [step] at h
    split at h
    · rename_i hnone
      cases h
      exact Or.inl ⟨call, req, rfl, Option.isNone_iff_eq_none.mp hnone, rfl⟩
    · cases h
  | advance call outcome =>
    obtain ⟨⟨req, point⟩, hcall, h⟩ := Option.bind_eq_some_iff.mp h
    obtain ⟨⟨db, point'⟩, hadvance, rfl⟩ := Option.map_eq_some_iff.mp h
    exact Or.inr ⟨call, outcome, req, point, db, point', rfl, hcall, hadvance, rfl⟩

lemma step_advance {call : ℕ} {outcome : Outcome} {req : Req} {point' : Point}
    (h : step S s (.advance call outcome) = some s')
    (hcall : s'.calls call = some (req, point')) :
    ∃ point, s.calls call = some (req, point) ∧
      S.advance s.db point outcome = some (s'.db, point') := by
  rcases step_cases h with ⟨_, _, hevent, -⟩ |
    ⟨_, _, req', point, db, next, hevent, hbefore, hadvance, rfl⟩
  · cases hevent
  cases hevent
  obtain ⟨-, rfl, rfl⟩ := (calls_put hcall).resolve_right fun hother => hother.1 rfl
  exact ⟨point, hbefore, hadvance⟩

/-- What holds of the data, and what every call relies on at its point. -/
structure Inv (G : Db → Prop) (L : Db → Req → Point → Prop) (s : State Db Req Point) : Prop where
  db : G s.db
  calls : ∀ call req point, s.calls call = some (req, point) → L s.db req point

/-- What is to be shown of an invariant, where `R` is what a statement may do to the data and `C`
is a condition on the requests. -/
structure Keeps (S : System Db Req Point Outcome) (C : Req → Prop) (R : Db → Db → Prop)
    (G : Db → Prop) (L : Db → Req → Point → Prop) : Prop where
  enter : ∀ db req, G db → C req → L db req (S.enter req)
  change : ∀ db req point outcome db' point', G db → L db req point →
    S.advance db point outcome = some (db', point') → G db' ∧ R db db' ∧ L db' req point'
  stable : ∀ db db' req point, R db db' → L db req point → L db' req point

/-- The condition on the request of an event. -/
def Admits (C : Req → Prop) : Event Req Outcome → Prop
  | .arrive _ req => C req
  | .advance _ _ => True

variable {C : Req → Prop} {R : Db → Db → Prop} {G : Db → Prop} {L : Db → Req → Point → Prop}

/-- A step keeps the invariant and changes the data as is allowed. -/
lemma Keeps.step (hkeeps : Keeps S C R G L) (hrefl : ∀ db, R db db) {e : Event Req Outcome}
    (h : Inv G L s) (hC : Admits C e) (hstep : step S s e = some s') :
    Inv G L s' ∧ R s.db s'.db := by
  rcases step_cases hstep with ⟨call, req, rfl, -, rfl⟩ |
    ⟨call, outcome, req, point, db, point', rfl, hcall, hadvance, rfl⟩
  · refine ⟨⟨h.db, fun other req' point' hother => ?_⟩, hrefl _⟩
    rcases calls_put hother with ⟨-, rfl, rfl⟩ | ⟨-, hother⟩
    · exact hkeeps.enter s.db _ h.db hC
    · exact h.calls other req' point' hother
  · obtain ⟨hG, hR, hL⟩ := hkeeps.change s.db req point outcome db point' h.db
      (h.calls call req point hcall) hadvance
    refine ⟨⟨hG, fun other req' point'' hother => ?_⟩, hR⟩
    rcases calls_put hother with ⟨-, rfl, rfl⟩ | ⟨-, hother⟩
    · exact hL
    · exact hkeeps.stable s.db db req' point'' hR (h.calls other req' point'' hother)

/-- **A run keeps the invariant**, and changes the data as is allowed. -/
theorem Keeps.run (hkeeps : Keeps S C R G L) (hrefl : ∀ db, R db db)
    (htrans : ∀ db db' db'', R db db' → R db' db'' → R db db'') {events : List (Event Req Outcome)}
    (h : Inv G L s) (hC : ∀ e ∈ events, Admits C e)
    (hrun : Runs.run (Handlers.step S) s events = some s') :
    Inv G L s' ∧ R s.db s'.db := by
  induction events generalizing s with
  | nil =>
    cases hrun
    exact ⟨h, hrefl _⟩
  | cons e events ih =>
    obtain ⟨next, hnext, hrun⟩ := run_cons_eq hrun
    obtain ⟨hinv, hR⟩ := Keeps.step hkeeps hrefl h (hC e List.mem_cons_self) hnext
    obtain ⟨hinv', hR'⟩ := ih hinv (fun e he => hC e (List.mem_cons_of_mem _ he)) hrun
    exact ⟨hinv', htrans _ _ _ hR hR'⟩

lemma inv_start {db : Db} (hG : G db) : Inv G L (start db : State Db Req Point) :=
  ⟨hG, fun _ _ _ h => nomatch h⟩

end MotherApi.Lib.Handlers
