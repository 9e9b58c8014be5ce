import MotherApi.Lib.Runs
import Mathlib.Logic.Function.Basic

/-!
Requests that share a database, at the isolation level read committed.

A request reads what has been committed, takes rows, and commits. A row that another request
has taken is waited for, and what is taken stays taken until its request commits or aborts. What
a request writes is seen by the others when it commits. A statement by itself happens at once.

An invariant of such a system has two parts: what holds of the committed data, and what each
request in flight may rely on. A request keeps the first part when it commits, and the second
part of the others, who do not hold what it holds.
-/

namespace MotherApi.Lib.Transactions

open MotherApi.Lib.Runs

/-- What a request does next. -/
inductive Action (Db Req Key : Type*)
  /-- A statement that reads and takes nothing. -/
  | read (next : Db → Req)
  /-- A transaction begins, at the time of the clock. -/
  | begin (next : ℕ → Req)
  /-- A statement on the row of the key: in a database where `waits` says so it waits for the
  row to be free, and it takes the row if `takes` says so. -/
  | access (key : Key) (waits takes : Db → Bool) (next : Db → Req)
  /-- The transaction commits with its writes, and the request is done. -/
  | commit (write : Db → Db)
  /-- A statement that is a transaction of its own, and the request is done: it waits for the row,
  if there is one. It happens at once, so after a wait it has the time at which it takes effect;
  PostgreSQL gives it the time from before the wait. -/
  | statement (row : ℕ → Db → Option Key) (write : ℕ → Db → Db)
  /-- The request is done without a write. -/
  | finish

/-- Where the action can leave the request, whatever the data and the clock. -/
def Action.Leads {Db Req Key : Type*} (action : Action Db Req Key) (req : Req) : Prop :=
  match action with
  | .read next | .access _ _ _ next => ∃ db, req = next db
  | .begin next => ∃ clock, req = next clock
  | _ => False

/-- What a request does before its transaction takes anything. -/
def Action.IsPreliminary {Db Req Key : Type*} : Action Db Req Key → Prop
  | .read _ | .begin _ | .finish => True
  | _ => False

/-- What a request does in its transaction before it commits. -/
def Action.IsInside {Db Req Key : Type*} : Action Db Req Key → Prop
  | .read _ | .access _ _ _ _ | .finish => True
  | _ => False

structure Protocol (Db Req Key : Type*) where
  isNew : Req → Bool
  next : Req → Action Db Req Key

structure State (Db Req Key : Type*) where
  db : Db
  clock : ℕ
  sessions : ℕ → Option Req
  locks : Key → Option ℕ

inductive Choice (Req : Type*)
  | tick
  | arrive (session : ℕ) (req : Req)
  | advance (session : ℕ)
  | abort (session : ℕ)

variable {Db Req Key : Type*}

/-- The session takes its next steps, so many of them. -/
def advances (session count : ℕ) : List (Choice Req) := List.replicate count (.advance session)

/-- Nobody is there, and nothing is taken. -/
def start (db : Db) (clock : ℕ) : State Db Req Key := ⟨db, clock, fun _ => none, fun _ => none⟩

namespace State

variable (s : State Db Req Key) (session : ℕ)

def holds (key : Key) : Prop := s.locks key = some session

def moveTo (req : Req) : State Db Req Key :=
  { s with sessions := Function.update s.sessions session (some req) }

/-- The session is over, and what it held is free. -/
def close : State Db Req Key :=
  { s with
    sessions := Function.update s.sessions session none
    locks := fun key => if s.locks key = some session then none else s.locks key }

def take [DecidableEq Key] (key : Key) : State Db Req Key :=
  { s with locks := Function.update s.locks key (some session) }

@[simp] lemma moveTo_db (req : Req) : (s.moveTo session req).db = s.db := rfl

@[simp] lemma moveTo_sessions (req : Req) :
    (s.moveTo session req).sessions = Function.update s.sessions session (some req) := rfl

@[simp] lemma moveTo_holds (req : Req) : (s.moveTo session req).holds = s.holds := rfl

@[simp] lemma close_db : (s.close session).db = s.db := rfl

@[simp] lemma close_sessions :
    (s.close session).sessions = Function.update s.sessions session none := rfl

@[simp] lemma take_db [DecidableEq Key] (key : Key) : (s.take session key).db = s.db := rfl

@[simp] lemma take_sessions [DecidableEq Key] (key : Key) :
    (s.take session key).sessions = s.sessions := rfl

end State

section

variable [DecidableEq Key] (P : Protocol Db Req Key)

def perform (s : State Db Req Key) (session : ℕ) :
    Action Db Req Key → Option (State Db Req Key)
  | .read next => some (s.moveTo session (next s.db))
  | .begin next => some (s.moveTo session (next s.clock))
  | .access key waits takes next =>
    if (waits s.db || takes s.db) && (s.locks key).any (· != session) then none
    else if takes s.db then some ((s.take session key).moveTo session (next s.db))
    else some (s.moveTo session (next s.db))
  | .commit write => some { s.close session with db := write s.db }
  | .statement row write =>
    if (row s.clock s.db).any fun key => (s.locks key).any (· != session) then none
    else some { s.close session with db := write s.clock s.db }
  | .finish => some (s.close session)

def step (s : State Db Req Key) : Choice Req → Option (State Db Req Key)
  | .tick => some { s with clock := s.clock + 1 }
  | .arrive session req =>
    if (s.sessions session).isNone && P.isNew req then some (s.moveTo session req) else none
  | .advance session => (s.sessions session).bind fun req => perform s session (P.next req)
  | .abort session => some (s.close session)

/-! ### Invariants -/

/-- What holds of the committed data, what a request in flight relies on, given the rows that it
holds, and that only requests in flight hold rows. -/
structure Inv (G : Db → Prop) (L : Db → (Key → Prop) → Req → Prop) (s : State Db Req Key) :
    Prop where
  db : G s.db
  sessions : ∀ session req, s.sessions session = some req → L s.db (s.holds session) req
  held : ∀ key session, s.holds session key → (s.sessions session).isSome = true

/-- What is to be shown of an invariant, where `C` is a condition on the steps. -/
structure Keeps (C : State Db Req Key → Choice Req → Prop) (G : Db → Prop)
    (L : Db → (Key → Prop) → Req → Prop) : Prop where
  arrive : ∀ db req, G db → P.isNew req = true → L db (fun _ => False) req
  read : ∀ db held req next, G db → L db held req → P.next req = .read next →
    L db held (next db)
  begin : ∀ db held req next clock, G db → L db held req → P.next req = .begin next →
    L db held (next clock)
  take : ∀ db held req key waits takes next, G db → L db held req →
    P.next req = .access key waits takes next → takes db = true →
      L db (fun other => other = key ∨ held other) (next db)
  pass : ∀ db held req key waits takes next, G db → L db held req →
    P.next req = .access key waits takes next → takes db = false → L db held (next db)
  commit : ∀ s session req write, Inv G L s → C s (.advance session) →
    s.sessions session = some req → P.next req = .commit write → G (write s.db)
  others : ∀ s session req write, Inv G L s → C s (.advance session) →
    s.sessions session = some req → P.next req = .commit write →
      ∀ other req', other ≠ session → s.sessions other = some req' →
        L (write s.db) (s.holds other) req'
  statement : ∀ s session req row write, Inv G L s → C s (.advance session) →
    s.sessions session = some req → P.next req = .statement row write → G (write s.clock s.db)
  others' : ∀ s session req row write, Inv G L s → C s (.advance session) →
    s.sessions session = some req → P.next req = .statement row write →
      ∀ other req', other ≠ session → s.sessions other = some req' →
        L (write s.clock s.db) (s.holds other) req'

end

section

variable {s s' : State Db Req Key} {session other : ℕ} {req req' : Req}

lemma sessions_moveTo (h : (s.moveTo session req).sessions other = some req') :
    other = session ∧ req' = req ∨ other ≠ session ∧ s.sessions other = some req' := by
  by_cases heq : other = session
  · subst heq
    rw [State.moveTo_sessions, Function.update_self, Option.some.injEq] at h
    exact .inl ⟨rfl, h.symm⟩
  · rw [State.moveTo_sessions, Function.update_of_ne heq] at h
    exact .inr ⟨heq, h⟩

lemma isSome_moveTo (h : (s.sessions other).isSome = true ∨ other = session) :
    ((s.moveTo session req).sessions other).isSome = true := by
  by_cases heq : other = session
  · subst heq
    rw [State.moveTo_sessions, Function.update_self]
    rfl
  · rw [State.moveTo_sessions, Function.update_of_ne heq]
    exact h.resolve_right heq

lemma sessions_close (h : (s.close session).sessions other = some req') :
    other ≠ session ∧ s.sessions other = some req' := by
  by_cases heq : other = session
  · subst heq
    rw [State.close_sessions, Function.update_self] at h
    cases h
  · rw [State.close_sessions, Function.update_of_ne heq] at h
    exact ⟨heq, h⟩

lemma holds_close {key : Key} :
    (s.close session).holds other key ↔ other ≠ session ∧ s.holds other key := by
  simp only [State.holds, State.close]
  split
  · rename_i hsession
    simp [hsession, eq_comm]
  · rename_i hsession
    constructor
    · intro h
      refine ⟨?_, h⟩
      rintro rfl
      exact hsession h
    · exact fun h => h.2

lemma holds_close_of_ne (hne : other ≠ session) :
    (s.close session).holds other = s.holds other := by
  funext key
  exact propext ⟨fun h => (holds_close.mp h).2, fun h => holds_close.mpr ⟨hne, h⟩⟩

variable [DecidableEq Key] {key : Key}

lemma holds_take_self :
    (s.take session key).holds session = fun other => other = key ∨ s.holds session other := by
  funext other
  simp only [State.holds, State.take, Function.update_apply]
  split
  · rename_i heq
    simp [heq]
  · rename_i hne
    simp [hne]

lemma holds_take_of_ne (hfree : (s.locks key).any (· != session) = false) (hne : other ≠ session) :
    (s.take session key).holds other = s.holds other := by
  funext row
  simp only [State.holds, State.take, Function.update_apply]
  split
  · rename_i heq
    subst heq
    refine propext ⟨fun h => absurd (Option.some.inj h).symm hne, fun h => ?_⟩
    simp only [h, Option.any_some, bne_eq_false_iff_eq] at hfree
    exact absurd hfree hne
  · rfl

end

section

variable [DecidableEq Key] {P : Protocol Db Req Key} {C : State Db Req Key → Choice Req → Prop}
  {G : Db → Prop} {L : Db → (Key → Prop) → Req → Prop}
  {s s' : State Db Req Key} {session : ℕ} {req req' : Req}

omit [DecidableEq Key] in
/-- A request that moves on, and relies on nothing new, keeps the invariant. -/
lemma Inv.moveTo (h : Inv G L s) (hreq : L s.db (s.holds session) req) :
    Inv G L (s.moveTo session req) := by
  refine ⟨h.db, ?_, ?_⟩
  · intro other req' hother
    rcases sessions_moveTo hother with ⟨rfl, rfl⟩ | ⟨-, hother⟩
    · exact hreq
    · exact h.sessions other req' hother
  · intro key other hkey
    exact isSome_moveTo (.inl (h.held key other hkey))

lemma Inv.take {key : Key} (h : Inv G L s) (hfree : (s.locks key).any (· != session) = false)
    (hreq : L s.db (fun other => other = key ∨ s.holds session other) req) :
    Inv G L ((s.take session key).moveTo session req) := by
  refine ⟨h.db, ?_, ?_⟩
  · intro other req' hother
    rcases sessions_moveTo hother with ⟨rfl, rfl⟩ | ⟨hne, hother⟩
    · rw [State.moveTo_holds, holds_take_self]
      exact hreq
    · rw [State.moveTo_holds, holds_take_of_ne hfree hne]
      exact h.sessions other req' hother
  · intro row other hrow
    by_cases heq : other = session
    · exact isSome_moveTo (.inr heq)
    · refine isSome_moveTo (.inl (h.held row other ?_))
      rw [← holds_take_of_ne hfree heq]
      exact hrow

omit [DecidableEq Key] in
lemma Inv.close (h : Inv G L s) {db : Db} (hdb : G db)
    (hothers : ∀ other req', other ≠ session → s.sessions other = some req' →
      L db (s.holds other) req') :
    Inv G L { s.close session with db := db } := by
  refine ⟨hdb, ?_, ?_⟩
  · intro other req' hother
    obtain ⟨hne, hother⟩ := sessions_close hother
    have hholds := holds_close_of_ne (s := s) hne
    exact hholds ▸ hothers other req' hne hother
  · intro key other hkey
    obtain ⟨hne, hkey⟩ := holds_close.mp hkey
    have hsome := h.held key other hkey
    rw [← Function.update_of_ne hne none s.sessions] at hsome
    exact hsome

omit [DecidableEq Key] in
lemma Inv.imp {L' : Db → (Key → Prop) → Req → Prop} (h : Inv G L s)
    (himp : ∀ db held req, L db held req → L' db held req) : Inv G L' s :=
  ⟨h.db, fun session req hreq => himp _ _ _ (h.sessions session req hreq), h.held⟩

/-- Only a request that commits changes the committed data. -/
lemma db_of_step {c : Choice Req} (hstep : step P s c = some s') : s'.db = s.db ∨
    ∃ session req, c = .advance session ∧ s.sessions session = some req ∧
      ((∃ write, P.next req = .commit write ∧ s'.db = write s.db) ∨
        ∃ row write, P.next req = .statement row write ∧ s'.db = write s.clock s.db) := by
  cases c with
  | tick =>
    cases hstep
    exact .inl rfl
  | abort session =>
    cases hstep
    exact .inl rfl
  | arrive session req =>
    rw [step] at hstep
    split at hstep
    · cases hstep
      exact .inl rfl
    · cases hstep
  | advance session =>
    obtain ⟨req, hreq, hstep⟩ := Option.bind_eq_some_iff.mp hstep
    cases haction : P.next req with
    | commit write =>
      rw [haction, perform] at hstep
      cases hstep
      exact .inr ⟨session, req, rfl, hreq, .inl ⟨write, haction, rfl⟩⟩
    | statement row write =>
      rw [haction, perform] at hstep
      split at hstep
      · cases hstep
      · cases hstep
        exact .inr ⟨session, req, rfl, hreq, .inr ⟨row, write, haction, rfl⟩⟩
    | access key waits takes next =>
      rw [haction, perform] at hstep
      split at hstep
      · cases hstep
      split at hstep
      · cases hstep
        exact .inl rfl
      · cases hstep
        exact .inl rfl
    | _ =>
      rw [haction, perform] at hstep
      cases hstep
      exact .inl rfl

/-- A request in flight was there before, or it has just come in, or it has taken a step, which
leaves the committed data. -/
lemma session_of_step {c : Choice Req} (hstep : step P s c = some s')
    (hreq' : s'.sessions session = some req') : s.sessions session = some req' ∨
      c = .arrive session req' ∧ P.isNew req' = true ∨
      ∃ req, c = .advance session ∧ s.sessions session = some req ∧ (P.next req).Leads req' ∧
        s'.db = s.db ∧ ∀ next, P.next req = .read next → req' = next s.db := by
  cases c with
  | tick =>
    cases hstep
    exact .inl hreq'
  | abort other =>
    cases hstep
    exact .inl (sessions_close hreq').2
  | arrive other req =>
    rw [step] at hstep
    split at hstep
    · rename_i hnew
      cases hstep
      rcases sessions_moveTo hreq' with ⟨rfl, rfl⟩ | ⟨-, hreq'⟩
      · exact .inr (.inl ⟨rfl, (Bool.and_eq_true_iff.mp hnew).2⟩)
      · exact .inl hreq'
    · cases hstep
  | advance other =>
    obtain ⟨req, hreq, hstep⟩ := Option.bind_eq_some_iff.mp hstep
    -- where the step moves the request on
    have hmove {t : State Db Req Key} {next : Req} (hsessions : t.sessions = s.sessions)
        (hdb : t.db = s.db) (hleads : (P.next req).Leads next)
        (hread : ∀ read, P.next req = .read read → next = read s.db)
        (hs' : t.moveTo other next = s') : s.sessions session = some req' ∨
          .advance other = Choice.arrive session req' ∧ P.isNew req' = true ∨
          ∃ req, (.advance other : Choice Req) = .advance session ∧
            s.sessions session = some req ∧ (P.next req).Leads req' ∧ s'.db = s.db ∧
            ∀ read, P.next req = .read read → req' = read s.db := by
      subst hs'
      rcases sessions_moveTo hreq' with ⟨rfl, rfl⟩ | ⟨-, hreq'⟩
      · exact .inr (.inr ⟨req, rfl, hreq, hleads, hdb, hread⟩)
      · exact .inl (hsessions ▸ hreq')
    cases haction : P.next req with
    | read next =>
      rw [haction, perform] at hstep
      refine hmove rfl rfl (haction ▸ ⟨s.db, rfl⟩) ?_ (Option.some.inj hstep)
      intro read hread
      cases haction.symm.trans hread
      rfl
    | begin next =>
      rw [haction, perform] at hstep
      exact hmove rfl rfl (haction ▸ ⟨s.clock, rfl⟩) (by simp [haction]) (Option.some.inj hstep)
    | access key waits takes next =>
      rw [haction, perform] at hstep
      split at hstep
      · cases hstep
      split at hstep
      · exact hmove (State.take_sessions s other key) rfl (haction ▸ ⟨s.db, rfl⟩)
          (by simp [haction]) (Option.some.inj hstep)
      · exact hmove rfl rfl (haction ▸ ⟨s.db, rfl⟩) (by simp [haction]) (Option.some.inj hstep)
    | statement row write =>
      rw [haction, perform] at hstep
      split at hstep
      · cases hstep
      · cases hstep
        exact .inl (sessions_close hreq').2
    | commit write | finish =>
      rw [haction, perform] at hstep
      cases hstep
      exact .inl (sessions_close hreq').2

/-- No other request comes in under the number of the session. -/
def Stays (session : ℕ) (_ : State Db Req Key) : Choice Req → Prop
  | .arrive other _ => other ≠ session
  | _ => True

/-- A number is not given to another request while its request is there. -/
lemma stays_of_step {c : Choice Req} (hstep : step P s c = some s')
    (hreq : s.sessions session = some req) : Stays session s c := by
  cases c with
  | arrive other req' =>
    rintro rfl
    rw [step, hreq] at hstep
    cases hstep
  | _ => trivial

/-- Of every request that rests on a fact about the data: the fact still holds, or it has been
broken since. -/
def KeptOrBroken (P : Protocol Db Req Key) (rests : Req → Prop) (fact : Db → Prop)
    (Breaks : ℕ → State Db Req Key → Choice Req → Prop) (s₀ : State Db Req Key)
    (choices : List (Choice Req)) (s : State Db Req Key) : Prop :=
  ∀ session req, s.sessions session = some req → rests req →
    fact s.db ∨ Since (step P) (Breaks session) (Stays session) s₀ choices

/-- **A fact that was read** is kept or broken by every step, if a request rests on it only from
where it finds it, and if whatever does not break it for a request leaves it. -/
lemma KeptOrBroken.after_step {rests : Req → Prop} {fact : Db → Prop}
    {Breaks : ℕ → State Db Req Key → Choice Req → Prop} {s₀ : State Db Req Key}
    {choices : List (Choice Req)} (h : KeptOrBroken P rests fact Breaks s₀ choices s)
    (hrun : run (step P) s₀ choices = some s) {c : Choice Req} (hstep : step P s c = some s')
    (hnew : ∀ req, P.isNew req = true → ¬rests req)
    (hfinds : ∀ req req', (P.next req).Leads req' → rests req' → rests req ∨
      ∀ db, (∀ next, P.next req = .read next → req' = next db) → fact db)
    (hleaves : ∀ session req, s.sessions session = some req → rests req → fact s.db →
      fact s'.db ∨ Breaks session s c) :
    KeptOrBroken P rests fact Breaks s₀ (choices ++ [c]) s' := by
  intro session req' hreq' hrests
  -- what was so of the request before the step
  have hbefore {req : Req} (hreq : s.sessions session = some req) (hrests : rests req) :
      fact s.db ∨ Since (step P) (Breaks session) (Stays session) s₀ (choices ++ [c]) :=
    (h session req hreq hrests).imp_right fun hsince =>
      hsince.concat hrun (stays_of_step hstep hreq)
  rcases session_of_step hstep hreq' with hreq | ⟨-, hisNew⟩ | ⟨req, -, hreq, hleads, hdb, hread⟩
  · rcases hbefore hreq hrests with hfact | hsince
    · exact (hleaves session req' hreq hrests hfact).imp_right (since_of_last hrun hstep)
    · exact .inr hsince
  · exact absurd hrests (hnew req' hisNew)
  · rw [hdb]
    rcases hfinds req req' hleads hrests with hrested | hfinds
    · exact hbefore hreq hrested
    · exact .inl (hfinds s.db hread)

lemma clock_le_of_step {c : Choice Req} (hstep : step P s c = some s') : s.clock ≤ s'.clock := by
  cases c with
  | tick =>
    cases hstep
    exact Nat.le_succ _
  | abort session =>
    cases hstep
    exact Nat.le_refl _
  | arrive session req =>
    rw [step] at hstep
    split at hstep <;> cases hstep
    exact Nat.le_refl _
  | advance session =>
    obtain ⟨req, hreq, hstep⟩ := Option.bind_eq_some_iff.mp hstep
    cases haction : P.next req with
    | access key waits takes next =>
      rw [haction, perform] at hstep
      repeat' split at hstep
      all_goals cases hstep
      all_goals exact Nat.le_refl _
    | statement row write =>
      rw [haction, perform] at hstep
      split at hstep <;> cases hstep
      exact Nat.le_refl _
    | _ =>
      rw [haction, perform] at hstep
      cases hstep
      exact Nat.le_refl _

/-- **A step keeps the invariant** if it meets the condition. -/
theorem Keeps.step (hkeeps : Keeps P C G L) (c : Choice Req) (h : Inv G L s) (hc : C s c)
    (hstep : step P s c = some s') : Inv G L s' := by
  have hclose : ∀ session, Inv G L (s.close session) := fun session =>
    h.close h.db fun other req' _ hother => h.sessions other req' hother
  cases c with
  | tick =>
    cases hstep
    exact ⟨h.db, h.sessions, h.held⟩
  | abort session =>
    cases hstep
    exact hclose session
  | arrive session req =>
    rw [Transactions.step] at hstep
    split at hstep
    · rename_i hnew
      simp only [Bool.and_eq_true, Option.isNone_iff_eq_none] at hnew
      cases hstep
      have hholds : s.holds session = fun _ => False := by
        funext key
        refine propext ⟨fun hkey => ?_, False.elim⟩
        have hsome := h.held key session hkey
        rw [hnew.1] at hsome
        cases hsome
      exact h.moveTo (hholds ▸ hkeeps.arrive s.db req h.db hnew.2)
    · cases hstep
  | advance session =>
    obtain ⟨req, hreq, hstep⟩ := Option.bind_eq_some_iff.mp hstep
    have hlocal := h.sessions session req hreq
    cases haction : P.next req with
    | read next =>
      rw [haction, perform] at hstep
      cases hstep
      exact h.moveTo (hkeeps.read _ _ _ _ h.db hlocal haction)
    | begin next =>
      rw [haction, perform] at hstep
      cases hstep
      exact h.moveTo (hkeeps.begin _ _ _ _ _ h.db hlocal haction)
    | access key waits takes next =>
      rw [haction, perform] at hstep
      split at hstep
      · cases hstep
      rename_i hfree
      split at hstep
      · rename_i htakes
        cases hstep
        simp only [htakes, Bool.or_true, Bool.true_and, Bool.not_eq_true] at hfree
        exact h.take hfree (hkeeps.take _ _ _ _ _ _ _ h.db hlocal haction htakes)
      · rename_i htakes
        cases hstep
        exact h.moveTo (hkeeps.pass _ _ _ _ _ _ _ h.db hlocal haction (by simpa using htakes))
    | commit write =>
      rw [haction, perform] at hstep
      cases hstep
      exact h.close (hkeeps.commit _ _ _ _ h hc hreq haction)
        (hkeeps.others _ _ _ _ h hc hreq haction)
    | statement row write =>
      rw [haction, perform] at hstep
      split at hstep
      · cases hstep
      · cases hstep
        exact h.close (hkeeps.statement _ _ _ _ _ h hc hreq haction)
          (hkeeps.others' _ _ _ _ _ h hc hreq haction)
    | finish =>
      rw [haction, perform] at hstep
      cases hstep
      exact hclose session

omit [DecidableEq Key] in
lemma inv_start {db : Db} (hdb : G db) (clock : ℕ) :
    Inv G L (start db clock : State Db Req Key) := by
  refine ⟨hdb, ?_, ?_⟩
  · rintro session req ⟨⟩
  · rintro key session ⟨⟩

omit [DecidableEq Key] in
/-- What a request keeps to by itself. -/
lemma keeps_of_leads {Q : Req → Prop} (hnew : ∀ req, P.isNew req = true → Q req)
    (hleads : ∀ req req', Q req → (P.next req).Leads req' → Q req') :
    Keeps P C (fun _ => True) fun _ _ req => Q req where
  arrive _ req _ := hnew req
  read db _ req _ _ h haction := hleads req _ h (haction ▸ ⟨db, rfl⟩)
  begin _ _ req _ clock _ h haction := hleads req _ h (haction ▸ ⟨clock, rfl⟩)
  take db _ req _ _ _ _ _ h haction _ := hleads req _ h (haction ▸ ⟨db, rfl⟩)
  pass db _ req _ _ _ _ _ h haction _ := hleads req _ h (haction ▸ ⟨db, rfl⟩)
  commit _ _ _ _ _ _ _ _ := trivial
  others _ _ _ _ h _ _ _ other req' _ hother := h.sessions other req' hother
  statement _ _ _ _ _ _ _ _ _ := trivial
  others' _ _ _ _ _ h _ _ _ other req' _ hother := h.sessions other req' hother

/-- **A run keeps the invariant** if its steps meet the condition. -/
theorem Keeps.run (hkeeps : Keeps P C G L) {choices : List (Choice Req)} (h : Inv G L s)
    (hC : Along (Transactions.step P) C s choices)
    (hrun : run (Transactions.step P) s choices = some s') : Inv G L s' :=
  inv_of_along (Inv G L) (fun _ c _ hs hc hstep => hkeeps.step c hs hc hstep) h hC hrun

/-! ### Runs of a few sessions -/

/-- The sessions of the state are below the bound. -/
def Below (bound : ℕ) (s : State Db Req Key) : Prop :=
  ∀ session, bound ≤ session → s.sessions session = none

/-- No session at or above the bound comes in. -/
def arrivesBelow (bound : ℕ) : Choice Req → Bool
  | .arrive session _ => session < bound
  | _ => true

omit [DecidableEq Key] in
lemma below_moveTo {bound : ℕ} (h : Below bound s) (hsession : session < bound) :
    Below bound (s.moveTo session req) := by
  intro other hother
  rw [State.moveTo_sessions, Function.update_of_ne (by omega)]
  exact h other hother

omit [DecidableEq Key] in
lemma below_close {bound : ℕ} (h : Below bound s) : Below bound (s.close session) := by
  intro other hother
  rw [State.close_sessions, Function.update_apply]
  split
  · rfl
  · exact h other hother

lemma below_step {bound : ℕ} {c : Choice Req} (h : Below bound s)
    (hc : arrivesBelow bound c = true) (hstep : step P s c = some s') : Below bound s' := by
  cases c with
  | tick =>
    cases hstep
    exact h
  | abort session =>
    cases hstep
    exact below_close h
  | arrive session req =>
    rw [step] at hstep
    split at hstep
    · cases hstep
      exact below_moveTo h (of_decide_eq_true hc)
    · cases hstep
  | advance session =>
    obtain ⟨req, hreq, hstep⟩ := Option.bind_eq_some_iff.mp hstep
    have hsession : session < bound := by
      by_contra hnot
      rw [h session (Nat.le_of_not_lt hnot)] at hreq
      cases hreq
    cases haction : P.next req with
    | read next | begin next =>
      rw [haction, perform] at hstep
      cases hstep
      exact below_moveTo h hsession
    | access key waits takes next =>
      rw [haction, perform] at hstep
      split at hstep
      · cases hstep
      split at hstep
      · cases hstep
        exact below_moveTo (s := s.take session key) h hsession
      · cases hstep
        exact below_moveTo h hsession
    | statement row write =>
      rw [haction, perform] at hstep
      split at hstep
      · cases hstep
      · cases hstep
        exact below_close h
    | commit write | finish =>
      rw [haction, perform] at hstep
      cases hstep
      exact below_close h

lemma below_run {bound : ℕ} {choices : List (Choice Req)}
    (hc : ∀ c ∈ choices, arrivesBelow bound c = true) (h : Below bound s)
    (hrun : run (Transactions.step P) s choices = some s') : Below bound s' :=
  inv_of_along (Below bound) (fun _ _ _ hbelow hc hstep => below_step hbelow hc hstep) h
    (along_of_forall_mem (fun c hmem _ => hc c hmem) s) hrun

/-! ### One request at a time -/

/-- Nobody is there, and nothing is taken. -/
structure Idle (s : State Db Req Key) : Prop where
  sessions : ∀ session, s.sessions session = none
  locks : ∀ key, s.locks key = none

variable (P) in
/-- What a request commits when it is alone, if it is done in so many steps. -/
def alone (clock : ℕ) : ℕ → Db → Req → Option Db
  | 0, _, _ => none
  | fuel + 1, db, req =>
    match P.next req with
    | .read next | .access _ _ _ next => alone clock fuel db (next db)
    | .begin next => alone clock fuel db (next clock)
    | .commit write => some (write db)
    | .statement _ write => some (write clock db)
    | .finish => some db

/-- The session is the only one, and holds whatever is taken. -/
structure IsAlone (s : State Db Req Key) (session : ℕ) (req : Req) : Prop where
  self : s.sessions session = some req
  others : ∀ other, other ≠ session → s.sessions other = none
  locks : ∀ key holder, s.locks key = some holder → holder = session

omit [DecidableEq Key] in
lemma IsAlone.moveTo (h : IsAlone s session req) :
    IsAlone (s.moveTo session req') session req' where
  self := Function.update_self ..
  others other hne := by
    rw [State.moveTo_sessions, Function.update_of_ne hne]
    exact h.others other hne
  locks := h.locks

lemma IsAlone.take {key : Key} (h : IsAlone s session req) :
    IsAlone ((s.take session key).moveTo session req') session req' := by
  have htake : IsAlone (s.take session key) session req := by
    refine ⟨h.self, h.others, fun row holder hrow => ?_⟩
    simp only [State.take, Function.update_apply] at hrow
    split at hrow
    · exact (Option.some.inj hrow).symm
    · exact h.locks row holder hrow
  exact htake.moveTo

omit [DecidableEq Key] in
lemma IsAlone.close (h : IsAlone s session req) (db : Db) :
    Idle { s.close session with db := db } := by
  refine ⟨fun other => ?_, fun key => ?_⟩
  · change Function.update s.sessions session none other = none
    by_cases hne : other = session
    · rw [hne, Function.update_self]
    · rw [Function.update_of_ne hne]
      exact h.others other hne
  · change (if s.locks key = some session then none else s.locks key) = none
    split
    · rfl
    · rename_i hkey
      cases hlocks : s.locks key with
      | none => rfl
      | some holder => exact absurd (h.locks key holder hlocks ▸ hlocks) hkey

omit [DecidableEq Key] in
lemma IsAlone.free (h : IsAlone s session req) (key : Key) :
    (s.locks key).any (· != session) = false := by
  cases hlocks : s.locks key with
  | none => rfl
  | some holder => simp [h.locks key holder hlocks]

/-- A request that is alone waits for nobody. -/
lemma run_of_isAlone {fuel : ℕ} {db : Db} (h : IsAlone s session req)
    (halone : alone P s.clock fuel s.db req = some db) :
    ∃ count t, run (step P) s (advances session count) = some t ∧ Idle t ∧ t.db = db ∧
      t.clock = s.clock := by
  induction fuel generalizing s req with
  | zero => cases halone
  | succ fuel ih =>
    have hself := h.self
    -- one step of the request, and then what is left of it
    have hthen {t : State Db Req Key} {req' : Req} (ht : step P s (.advance session) = some t)
        (hreq' : IsAlone t session req') (hclock : t.clock = s.clock)
        (hleft : alone P t.clock fuel t.db req' = some db) :
        ∃ count u, run (step P) s (advances session count) = some u ∧ Idle u ∧ u.db = db ∧
          u.clock = s.clock := by
      obtain ⟨count, u, hrun, hidle, hdb, hu⟩ := ih hreq' hleft
      refine ⟨count + 1, u, ?_, hidle, hdb, hu.trans hclock⟩
      rw [advances, List.replicate_succ, run_cons, ht]
      exact hrun
    have hdone {t : State Db Req Key} (ht : step P s (.advance session) = some t) (hidle : Idle t)
        (hdb : t.db = db) (hclock : t.clock = s.clock) :
        ∃ count u, run (step P) s (advances session count) = some u ∧ Idle u ∧ u.db = db ∧
          u.clock = s.clock :=
      ⟨1, t, by rw [advances, List.replicate_one, run_cons, ht]; rfl, hidle, hdb, hclock⟩
    rw [alone] at halone
    have hstep : step P s (.advance session) = perform s session (P.next req) := by
      rw [step, hself, Option.bind_some]
    cases haction : P.next req with
    | read next =>
      rw [haction] at halone hstep
      exact hthen hstep h.moveTo rfl halone
    | begin next =>
      rw [haction] at halone hstep
      exact hthen hstep h.moveTo rfl halone
    | access key waits takes next =>
      rw [haction] at halone hstep
      rw [perform, h.free key, Bool.and_false, if_neg Bool.false_ne_true] at hstep
      split at hstep
      · exact hthen hstep h.take rfl halone
      · exact hthen hstep h.moveTo rfl halone
    | commit write =>
      rw [haction] at halone hstep
      exact hdone hstep (h.close _) (Option.some.inj halone) rfl
    | statement row write =>
      rw [haction] at halone hstep
      have hfree :
          ((row s.clock s.db).any fun key => (s.locks key).any (· != session)) = false := by
        cases row s.clock s.db with
        | none => rfl
        | some key => exact h.free key
      rw [perform, hfree, if_neg Bool.false_ne_true] at hstep
      exact hdone hstep (h.close _) (Option.some.inj halone) rfl
    | finish =>
      rw [haction] at halone hstep
      exact hdone hstep (h.close s.db) (Option.some.inj halone) rfl

/-- **One request at a time**: what a request commits when it is alone is committed by a run. -/
theorem exists_run_alone {fuel : ℕ} {db : Db} (h : Idle s) (hnew : P.isNew req = true)
    (halone : alone P s.clock fuel s.db req = some db) :
    ∃ choices t, run (step P) s choices = some t ∧ Idle t ∧ t.db = db ∧ t.clock = s.clock := by
  have harrive : step P s (.arrive 0 req) = some (s.moveTo 0 req) := by
    rw [step, h.sessions 0, hnew]
    rfl
  have hisAlone : IsAlone (s.moveTo 0 req) 0 req := by
    refine ⟨?_, fun other hne => ?_, fun key holder hkey => ?_⟩
    · rw [State.moveTo_sessions, Function.update_self]
    · rw [State.moveTo_sessions, Function.update_of_ne hne]
      exact h.sessions other
    · have hnone : (s.moveTo 0 req).locks key = none := h.locks key
      rw [hnone] at hkey
      cases hkey
  obtain ⟨count, t, hrun, ht⟩ := run_of_isAlone hisAlone halone
  refine ⟨.arrive 0 req :: advances 0 count, t, ?_, ht⟩
  rw [run_cons, harrive]
  exact hrun

omit [DecidableEq Key] in
/-- No two requests hold a row. -/
lemma holds_unique {other : ℕ} {key : Key} (h : s.holds session key) (hother : s.holds other key) :
    session = other :=
  Option.some.inj (h.symm.trans hother)

end

end MotherApi.Lib.Transactions
