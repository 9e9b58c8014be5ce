import MotherApi.Lib.Transactions

/-!
The times of requests that share a database.

A request takes the time of its transaction from the clock, and writes it later. The clock does not
go back, so that what is written is never ahead of it. This is an invariant of the state and not of
its data alone: it has a part for the committed data and one for what a request carries, and both
may only grow weaker as the clock goes on.
-/

namespace MotherApi.Lib.Transactions

open MotherApi.Lib.Runs

variable {Db Req Key : Type*} [DecidableEq Key] {P : Protocol Db Req Key}

/-- What holds of the data and of each request, at the time of the clock. -/
structure Timely (G : ℕ → Db → Prop) (Q : ℕ → Req → Prop) (s : State Db Req Key) : Prop where
  db : G s.clock s.db
  sessions : ∀ session req, s.sessions session = some req → Q s.clock req

/-- What is to be shown of it. -/
structure KeepsTime (P : Protocol Db Req Key) (G : ℕ → Db → Prop) (Q : ℕ → Req → Prop) : Prop where
  later : ∀ clock clock' db, clock ≤ clock' → G clock db → G clock' db
  later' : ∀ clock clock' req, clock ≤ clock' → Q clock req → Q clock' req
  arrive : ∀ clock req, P.isNew req = true → Q clock req
  begin : ∀ clock req next, P.next req = .begin next → Q clock (next clock)
  read : ∀ clock db req next, Q clock req → P.next req = .read next → Q clock (next db)
  access : ∀ clock db req key waits takes next, Q clock req →
    P.next req = .access key waits takes next → Q clock (next db)
  commit : ∀ clock db req write, G clock db → Q clock req → P.next req = .commit write →
    G clock (write db)
  statement : ∀ clock db req row write, G clock db → P.next req = .statement row write →
    G clock (write clock db)

variable {G : ℕ → Db → Prop} {Q : ℕ → Req → Prop} {s s' t : State Db Req Key} {session : ℕ}
  {req : Req}

omit [DecidableEq Key] in
lemma Timely.moveTo (h : Timely G Q s) (hreq : Q s.clock req) :
    Timely G Q (s.moveTo session req) := by
  refine ⟨h.db, fun other req' hother => ?_⟩
  rcases sessions_moveTo hother with ⟨-, rfl⟩ | ⟨-, hother⟩
  · exact hreq
  · exact h.sessions other req' hother

omit [DecidableEq Key] in
lemma Timely.close (h : Timely G Q s) {db : Db} (hdb : G s.clock db) :
    Timely G Q { s.close session with db := db } :=
  ⟨hdb, fun other req' hother => h.sessions other req' (sessions_close hother).2⟩

/-- **A step keeps the times.** -/
theorem KeepsTime.step (hkeeps : KeepsTime P G Q) {c : Choice Req} (h : Timely G Q s)
    (hstep : step P s c = some s') : Timely G Q s' := by
  cases c with
  | tick =>
    cases hstep
    exact ⟨hkeeps.later _ _ _ (Nat.le_succ _) h.db,
      fun session req hreq => hkeeps.later' _ _ _ (Nat.le_succ _) (h.sessions session req hreq)⟩
  | abort session =>
    cases hstep
    exact h.close h.db
  | arrive session req =>
    rw [Transactions.step] at hstep
    split at hstep
    · rename_i hnew
      cases hstep
      rw [Bool.and_eq_true] at hnew
      exact h.moveTo (hkeeps.arrive _ req hnew.2)
    · cases hstep
  | advance session =>
    obtain ⟨req, hreq, hstep⟩ := Option.bind_eq_some_iff.mp hstep
    have hlocal := h.sessions session req hreq
    cases haction : P.next req with
    | read next =>
      rw [haction, perform] at hstep
      cases hstep
      exact h.moveTo (hkeeps.read _ _ _ _ hlocal haction)
    | begin next =>
      rw [haction, perform] at hstep
      cases hstep
      exact h.moveTo (hkeeps.begin _ _ _ haction)
    | access key waits takes next =>
      rw [haction, perform] at hstep
      have hnext := hkeeps.access _ s.db _ _ _ _ _ hlocal haction
      split at hstep
      · cases hstep
      split at hstep
      · cases hstep
        have htake : Timely G Q (s.take session key) := ⟨h.db, h.sessions⟩
        exact htake.moveTo hnext
      · cases hstep
        exact h.moveTo hnext
    | commit write =>
      rw [haction, perform] at hstep
      cases hstep
      exact h.close (hkeeps.commit _ _ _ _ h.db hlocal haction)
    | statement row write =>
      rw [haction, perform] at hstep
      split at hstep
      · cases hstep
      · cases hstep
        exact h.close (hkeeps.statement _ _ _ _ _ h.db haction)
    | finish =>
      rw [haction, perform] at hstep
      cases hstep
      exact h.close h.db

/-- **A run keeps the times.** -/
theorem KeepsTime.run (hkeeps : KeepsTime P G Q) {choices : List (Choice Req)} (h : Timely G Q s)
    (hrun : run (Transactions.step P) s choices = some t) : Timely G Q t :=
  inv_of_run (Timely G Q) (fun _ _ _ hs hstep => hkeeps.step hs hstep) h hrun

omit [DecidableEq Key] in
lemma timely_start {db : Db} {clock : ℕ} (hdb : G clock db) :
    Timely G Q (start db clock : State Db Req Key) :=
  ⟨hdb, fun _ _ hreq => by cases hreq⟩

end MotherApi.Lib.Transactions
