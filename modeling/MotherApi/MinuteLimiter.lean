import MotherApi.Lib.Runs
import Mathlib.Algebra.Order.Group.Nat
import Mathlib.Data.List.Sort
import Mathlib.Logic.Function.Basic
import Mathlib.Tactic.Linarith

/-!
The in-process per-minute limiter of API keys.

A key has at most one stored window: the instant it was opened and the slots used in it. A
window is named by that instant only, and a reservation for any key throws away the expired
windows of all keys, so a slot may be given back long after its window is gone.

The bookkeeping of `Ledger` is what the limiter is for: it numbers the windows of a key and
keeps every reservation granted and not given back, with the number of its window.
-/

namespace MotherApi.MinuteLimiter

open MotherApi.Lib.Runs

/-- Sixty seconds. Instants of the monotonic clock are counted in nanoseconds. -/
def WINDOW : ℕ := 60 * 10 ^ 9

structure MinuteReservation (κ : Type*) where
  apiKeyId : κ
  windowStartedAt : ℕ
  deriving DecidableEq

structure MinuteWindow where
  startedAt : ℕ
  used : ℕ
  deriving DecidableEq

/-- The map of the limiter; it is only ever read and written at a key. -/
abbrev Windows (κ : Type*) := κ → Option MinuteWindow

variable {κ : Type*} [DecidableEq κ]

def release (windows : Windows κ) (reservation : MinuteReservation κ) : Windows κ :=
  match windows reservation.apiKeyId with
  | none => windows
  | some window =>
    if window.startedAt = reservation.windowStartedAt ∧ 0 < window.used then
      Function.update windows reservation.apiKeyId
        (some { window with used := window.used - 1 })
    else windows

/-- Keep the windows that have not run out at `now`, of all keys. -/
def retain (windows : Windows κ) (now : ℕ) : Windows κ :=
  fun key => (windows key).filter fun window => decide (now - window.startedAt < WINDOW)

/-- `now - startedAt` saturates, as `saturating_duration_since` does. The limit is an `i32`:
a negative one fails the conversion to `u32` before the lock is taken. -/
def reserveAt (windows : Windows κ) (apiKeyId : κ) (requestsPerMinute : ℤ) (now : ℕ) :
    Windows κ × Option (MinuteReservation κ) :=
  if requestsPerMinute < 0 then (windows, none)
  else
    let limit := requestsPerMinute.toNat
    if limit = 0 then (windows, none)
    else
      let windows := retain windows now
      let window := (windows apiKeyId).getD ⟨now, 0⟩
      let window := if WINDOW ≤ now - window.startedAt then ⟨now, 0⟩ else window
      if limit ≤ window.used then
        (Function.update windows apiKeyId (some window), none)
      else
        (Function.update windows apiKeyId (some { window with used := window.used + 1 }),
          some ⟨apiKeyId, window.startedAt⟩)

/-! ### What one call does -/

lemma WINDOW_pos : 0 < WINDOW := by decide

omit [DecidableEq κ] in
lemma retain_eq_some {windows : Windows κ} {now : ℕ} {key : κ} {window : MinuteWindow} :
    retain windows now key = some window ↔
      windows key = some window ∧ now - window.startedAt < WINDOW := by
  simp [retain, Option.filter_eq_some_iff]

omit [DecidableEq κ] in
lemma retain_eq_none {windows : Windows κ} {now : ℕ} {key : κ}
    (h : retain windows now key = none) :
    windows key = none ∨ ∃ window, windows key = some window ∧
      window.startedAt + WINDOW ≤ now := by
  cases hw : windows key with
  | none => exact Or.inl rfl
  | some window =>
    refine Or.inr ⟨window, rfl, ?_⟩
    have hlt : ¬ now - window.startedAt < WINDOW := fun hlt =>
      absurd (retain_eq_some.mpr ⟨hw, hlt⟩) (by simp [h])
    have := WINDOW_pos
    omega

/-- The window a reservation of `key` at `now` works on. -/
def current (windows : Windows κ) (key : κ) (now : ℕ) : MinuteWindow :=
  (retain windows now key).getD ⟨now, 0⟩

lemma reserveAt_of_nonpos (windows : Windows κ) (key : κ) {limit : ℤ} (now : ℕ)
    (h : limit ≤ 0) : reserveAt windows key limit now = (windows, none) := by
  unfold reserveAt
  split
  · rfl
  · rw [if_pos (by omega)]

/-- The check for an expired window after the eviction never fires. -/
lemma reserveAt_of_pos (windows : Windows κ) (key : κ) {limit : ℤ} (now : ℕ)
    (h : 0 < limit) :
    reserveAt windows key limit now =
      if limit.toNat ≤ (current windows key now).used then
        (Function.update (retain windows now) key (some (current windows key now)), none)
      else
        (Function.update (retain windows now) key
            (some { current windows key now with used := (current windows key now).used + 1 }),
          some ⟨key, (current windows key now).startedAt⟩) := by
  have hfresh : ¬ WINDOW ≤ now - (current windows key now).startedAt := by
    unfold current
    cases hr : retain windows now key with
    | none => simp [WINDOW]
    | some window =>
      have := (retain_eq_some.mp hr).2
      simp only [Option.getD_some]
      omega
  unfold reserveAt
  rw [if_neg (by omega), if_neg (by omega)]
  unfold current at hfresh ⊢
  simp only [hfresh, if_false]

/-! ### The ledger -/

/-- A reservation granted and not given back: the number of its window among the windows of
its key, and the instant of the call. -/
structure Grant (κ : Type*) where
  reservation : MinuteReservation κ
  generation : ℕ
  grantedAt : ℕ
  deriving DecidableEq

/-- The limiter together with what has happened to it. -/
structure Ledger (κ : Type*) where
  windows : Windows κ
  clock : ℕ
  generation : κ → ℕ
  live : List (Grant κ)

def Ledger.init : Ledger κ := ⟨fun _ => none, 0, fun _ => 0, []⟩

inductive Action (κ : Type*)
  | reserve (apiKeyId : κ) (now : ℕ)
  | release (grant : Grant κ)

namespace Ledger

/-- The clock moves to `now` and the expired windows go. -/
def evict (l : Ledger κ) (now : ℕ) : Ledger κ :=
  { l with windows := retain l.windows now, clock := now }

/-- A key without a window gets its next one. -/
def opened (l : Ledger κ) (key : κ) : Ledger κ :=
  match l.windows key with
  | some _ => l
  | none =>
    { l with
      windows := Function.update l.windows key (some ⟨l.clock, 0⟩)
      generation := Function.update l.generation key (l.generation key + 1) }

/-- One more slot of the window `window` of `key` is used. -/
def grant (l : Ledger κ) (key : κ) (window : MinuteWindow) : Ledger κ :=
  { l with
    windows := Function.update l.windows key (some { window with used := window.used + 1 })
    live := ⟨⟨key, window.startedAt⟩, l.generation key, l.clock⟩ :: l.live }

/-- One call of the limiter. The instants of the calls never decrease, and only a
reservation that is still held can be given back. The limiter's own part is `reserveAt` and
`release`; the numbering of windows is not visible to it. -/
def step (limit : κ → ℤ) (l : Ledger κ) : Action κ → Option (Ledger κ)
  | .reserve key now =>
    if l.clock ≤ now then
      let result := reserveAt l.windows key (limit key) now
      let generation :=
        if 0 < limit key ∧ retain l.windows now key = none then
          Function.update l.generation key (l.generation key + 1)
        else l.generation
      match result.2 with
      | none => some ⟨result.1, now, generation, l.live⟩
      | some reservation =>
        some ⟨result.1, now, generation, ⟨reservation, generation key, now⟩ :: l.live⟩
    else none
  | .release g =>
    if g ∈ l.live then
      some { l with windows := release l.windows g.reservation, live := l.live.erase g }
    else none

/-- What a call can do: with no limit only the clock moves; otherwise the expired windows
go, the key has a window, and one more slot of it is used exactly if one was free. -/
lemma step_reserve {limit : κ → ℤ} {l l' : Ledger κ} {key : κ} {now : ℕ}
    (h : l.step limit (.reserve key now) = some l') :
    l.clock ≤ now ∧
      ((limit key ≤ 0 ∧ l' = { l with clock := now }) ∨
        (0 < limit key ∧ ∃ window, ((l.evict now).opened key).windows key = some window ∧
          (((limit key).toNat ≤ window.used ∧ l' = (l.evict now).opened key) ∨
            (window.used < (limit key).toNat ∧
              l' = ((l.evict now).opened key).grant key window)))) := by
  by_cases hclock : l.clock ≤ now
  swap
  · simp [step, hclock] at h
  refine ⟨hclock, ?_⟩
  simp only [step, hclock, if_true] at h
  rcases le_or_gt (limit key) 0 with hl | hl
  · simp only [reserveAt_of_nonpos _ _ _ hl, not_lt.mpr hl, false_and, if_false,
      Option.some.injEq] at h
    exact Or.inl ⟨hl, h.symm⟩
  · refine Or.inr ⟨hl, current l.windows key now, ?_⟩
    simp only [reserveAt_of_pos _ _ _ hl, hl, true_and] at h
    cases hr : retain l.windows now key with
    | none =>
      have hc : current l.windows key now = ⟨now, 0⟩ := by simp [current, hr]
      have hpos : ¬ (limit key).toNat ≤ 0 := by omega
      simp only [hc, hpos, if_false, hr, if_true, Option.some.injEq] at h
      refine ⟨by simp [opened, evict, hr, hc], Or.inr ⟨by rw [hc]; simp only; omega, ?_⟩⟩
      rw [← h, hc]
      simp [opened, evict, grant, hr]
    | some window =>
      have hc : current l.windows key now = window := by simp [current, hr]
      have hself : Function.update (retain l.windows now) key (some window)
          = retain l.windows now := by rw [← hr, Function.update_eq_self]
      simp only [hc, hr, reduceCtorEq, if_false] at h
      refine ⟨by simp [opened, evict, hr, hc], ?_⟩
      split at h
      · rename_i heq
        split at heq
        · rename_i hfull
          simp only [Option.some.injEq, hfull, if_true, hself] at h
          exact Or.inl ⟨by rw [hc]; exact hfull, by rw [← h]; simp [opened, evict, hr]⟩
        · cases heq
      · rename_i r heq
        split at heq
        · cases heq
        · rename_i hfree
          simp only [Option.some.injEq] at heq
          simp only [Option.some.injEq, hfree, if_false] at h
          refine Or.inr ⟨by rw [hc]; omega, ?_⟩
          rw [← h, ← heq, hc]
          simp [opened, evict, grant, hr]

lemma step_release {limit : κ → ℤ} {l l' : Ledger κ} {g : Grant κ}
    (h : l.step limit (.release g) = some l') :
    g ∈ l.live ∧
      l' = { l with windows := release l.windows g.reservation, live := l.live.erase g } := by
  by_cases hg : g ∈ l.live
  · simp only [step, hg, if_true, Option.some.injEq] at h
    exact ⟨hg, h.symm⟩
  · simp [step, hg] at h

/-! ### The invariant -/

/-- The grants held in window number `n` of `key`. -/
def held (l : Ledger κ) (key : κ) (n : ℕ) : ℕ :=
  l.live.countP fun g => g.reservation.apiKeyId = key ∧ g.generation = n

/-- The counter of a stored window is the number of grants held in it; grants of one window
carry its instant, and windows of one key lie at least a window's length apart. -/
structure Good (limit : κ → ℤ) (l : Ledger κ) : Prop where
  used : ∀ key window, l.windows key = some window →
    window.used = l.held key (l.generation key) ∧ window.startedAt ≤ l.clock ∧ 0 < limit key
  newest : ∀ g ∈ l.live, ∀ window, l.windows g.reservation.apiKeyId = some window →
    g.generation = l.generation g.reservation.apiKeyId →
      g.reservation.windowStartedAt = window.startedAt
  older : ∀ g ∈ l.live, ∀ window, l.windows g.reservation.apiKeyId = some window →
    g.generation ≠ l.generation g.reservation.apiKeyId →
      g.reservation.windowStartedAt + WINDOW ≤ window.startedAt
  evicted : ∀ g ∈ l.live, l.windows g.reservation.apiKeyId = none →
    g.reservation.windowStartedAt + WINDOW ≤ l.clock
  numbered : ∀ g ∈ l.live, g.generation ≤ l.generation g.reservation.apiKeyId
  span : ∀ g ∈ l.live, g.reservation.windowStartedAt ≤ g.grantedAt ∧
    g.grantedAt < g.reservation.windowStartedAt + WINDOW
  apart : ∀ g ∈ l.live, ∀ g' ∈ l.live, g.reservation.apiKeyId = g'.reservation.apiKeyId →
    g.generation < g'.generation →
      g.reservation.windowStartedAt + WINDOW ≤ g'.reservation.windowStartedAt
  cap : ∀ key n, l.held key n ≤ (limit key).toNat

variable {limit : κ → ℤ} {l : Ledger κ}

lemma good_init : Good limit (init : Ledger κ) := by
  constructor <;> simp [init, held]

lemma Good.evict (hg : Good limit l) {now : ℕ} (hnow : l.clock ≤ now) :
    Good limit (l.evict now) where
  used key window hw := by
    obtain ⟨hw, -⟩ := retain_eq_some.mp hw
    obtain ⟨h1, h2, h3⟩ := hg.used key window hw
    exact ⟨h1, by simp only [Ledger.evict]; omega, h3⟩
  newest g hm window hw := hg.newest g hm window (retain_eq_some.mp hw).1
  older g hm window hw := hg.older g hm window (retain_eq_some.mp hw).1
  evicted g hm hw := by
    show _ ≤ now
    rcases retain_eq_none hw with hn | ⟨window, hw, hend⟩
    · have := hg.evicted g hm hn
      omega
    · -- the window goes now: its own grants end with it, older ones ended before
      by_cases hgen : g.generation = l.generation g.reservation.apiKeyId
      · rw [hg.newest g hm window hw hgen]
        exact hend
      · have := hg.older g hm window hw hgen
        omega
  numbered := hg.numbered
  span := hg.span
  apart := hg.apart
  cap := hg.cap

lemma held_eq_zero (hg : Good limit l) {key : κ} {n : ℕ} (h : l.generation key < n) :
    l.held key n = 0 := by
  unfold held
  rw [List.countP_eq_zero]
  intro g hm
  simp only [decide_eq_true_eq, not_and]
  rintro rfl rfl
  exact absurd (hg.numbered g hm) (by omega)

lemma Good.opened (hg : Good limit l) {key : κ} (hl : 0 < limit key) :
    Good limit (l.opened key) := by
  unfold Ledger.opened
  cases hw : l.windows key with
  | some _ => exact hg
  | none =>
    refine ⟨?_, ?_, ?_, ?_, ?_, hg.span, hg.apart, hg.cap⟩
    · intro k window hk
      by_cases h : k = key
      · subst h
        simp only [Function.update_self, Option.some.injEq] at hk ⊢
        subst hk
        exact ⟨(held_eq_zero hg (by omega)).symm, le_rfl, hl⟩
      · simp only [Function.update_of_ne h] at hk ⊢
        exact hg.used k window hk
    · intro g hm window hk hgen
      by_cases h : g.reservation.apiKeyId = key
      · simp only [h, Function.update_self] at hgen
        have := hg.numbered g hm
        rw [h] at this
        omega
      · simp only [Function.update_of_ne h] at hk hgen
        exact hg.newest g hm window hk hgen
    · intro g hm window hk hgen
      by_cases h : g.reservation.apiKeyId = key
      · simp only [h, Function.update_self, Option.some.injEq] at hk
        subst hk
        exact hg.evicted g hm (by rw [h]; exact hw)
      · simp only [Function.update_of_ne h] at hk hgen
        exact hg.older g hm window hk hgen
    · intro g hm hk
      by_cases h : g.reservation.apiKeyId = key
      · simp [h] at hk
      · simp only [Function.update_of_ne h] at hk
        exact hg.evicted g hm hk
    · intro g hm
      have := hg.numbered g hm
      by_cases h : g.reservation.apiKeyId = key
      · simp only [h, Function.update_self] at this ⊢
        omega
      · simpa only [Function.update_of_ne h] using this

lemma held_grant (key : κ) (window : MinuteWindow) (k : κ) (n : ℕ) :
    (l.grant key window).held k n =
      l.held k n + if key = k ∧ l.generation key = n then 1 else 0 := by
  simp [held, Ledger.grant, List.countP_cons]

lemma windows_grant {key : κ} {window : MinuteWindow} (hw : l.windows key = some window) {k : κ}
    {after : MinuteWindow} (hk : (l.grant key window).windows k = some after) :
    ∃ before, l.windows k = some before ∧ after.startedAt = before.startedAt ∧
      after.used = before.used + if key = k then 1 else 0 := by
  by_cases h : k = key
  · subst h
    simp only [Ledger.grant, Function.update_self, Option.some.injEq] at hk
    subst hk
    exact ⟨window, hw, rfl, by simp⟩
  · simp only [Ledger.grant, Function.update_of_ne h] at hk
    exact ⟨after, hk, rfl, by simp [Ne.symm h]⟩

lemma windows_grant_none {key : κ} {window : MinuteWindow} {k : κ}
    (hk : (l.grant key window).windows k = none) : l.windows k = none := by
  by_cases h : k = key
  · subst h
    simp [Ledger.grant] at hk
  · simpa only [Ledger.grant, Function.update_of_ne h] using hk

lemma Good.grant (hg : Good limit l) {key : κ} {window : MinuteWindow}
    (hw : l.windows key = some window) (hfree : window.used < (limit key).toNat)
    (hfresh : l.clock < window.startedAt + WINDOW) : Good limit (l.grant key window) where
  used k after hk := by
    obtain ⟨before, hbefore, hstarted, hcount⟩ := windows_grant hw hk
    obtain ⟨hused, hstart, hl⟩ := hg.used k before hbefore
    refine ⟨?_, hstarted ▸ hstart, hl⟩
    rw [held_grant, hcount, hused]
    by_cases h : key = k
    · subst h
      simp [Ledger.grant]
    · simp [Ledger.grant, h]
  newest g hm after hk hgen := by
    obtain ⟨before, hbefore, hstarted, -⟩ := windows_grant hw hk
    rw [hstarted]
    rcases List.mem_cons.mp hm with rfl | hm
    · exact congrArg MinuteWindow.startedAt (Option.some.inj (hw.symm.trans hbefore))
    · exact hg.newest g hm before hbefore hgen
  older g hm after hk hgen := by
    obtain ⟨before, hbefore, hstarted, -⟩ := windows_grant hw hk
    rw [hstarted]
    rcases List.mem_cons.mp hm with rfl | hm
    · exact absurd rfl hgen
    · exact hg.older g hm before hbefore hgen
  evicted g hm hk := by
    rcases List.mem_cons.mp hm with rfl | hm
    · simp [Ledger.grant] at hk
    · exact hg.evicted g hm (windows_grant_none hk)
  numbered g hm := by
    rcases List.mem_cons.mp hm with rfl | hm
    · exact le_rfl
    · exact hg.numbered g hm
  span g hm := by
    rcases List.mem_cons.mp hm with rfl | hm
    · exact ⟨(hg.used key window hw).2.1, hfresh⟩
    · exact hg.span g hm
  apart g hm g' hm' hkey hlt := by
    rcases List.mem_cons.mp hm with rfl | hm <;> rcases List.mem_cons.mp hm' with rfl | hm'
    · exact absurd hlt (lt_irrefl _)
    · -- the new grant is of the newest window
      have := hg.numbered g' hm'
      simp only at hkey hlt
      rw [← hkey] at this
      omega
    · simp only at hkey hlt
      exact hg.older g hm window (by rw [hkey]; exact hw) (by rw [hkey]; omega)
    · exact hg.apart g hm g' hm' hkey hlt
  cap k n := by
    obtain ⟨hused, -, -⟩ := hg.used key window hw
    rw [held_grant]
    split
    · rename_i h
      obtain ⟨rfl, rfl⟩ := h
      omega
    · exact hg.cap k n

/-- A grant of a window that is no longer stored names no stored window. -/
lemma Good.release_stale (hg : Good limit l) {g : Grant κ} (hm : g ∈ l.live)
    (h : l.windows g.reservation.apiKeyId = none ∨
      g.generation ≠ l.generation g.reservation.apiKeyId) :
    release l.windows g.reservation = l.windows := by
  unfold MinuteLimiter.release
  cases hw : l.windows g.reservation.apiKeyId with
  | none => rfl
  | some window =>
    have hgen : g.generation ≠ l.generation g.reservation.apiKeyId := by
      simpa [hw] using h
    have hlt := hg.older g hm window hw hgen
    have := WINDOW_pos
    exact if_neg fun h => by omega

lemma Good.release_newest (hg : Good limit l) {g : Grant κ} (hm : g ∈ l.live)
    {window : MinuteWindow} (hw : l.windows g.reservation.apiKeyId = some window)
    (hgen : g.generation = l.generation g.reservation.apiKeyId) :
    0 < window.used ∧ release l.windows g.reservation =
      Function.update l.windows g.reservation.apiKeyId
        (some { window with used := window.used - 1 }) := by
  have hpos : 0 < window.used := by
    rw [(hg.used _ window hw).1]
    exact List.countP_pos_iff.mpr ⟨g, hm, by simp [hgen]⟩
  refine ⟨hpos, ?_⟩
  unfold MinuteLimiter.release
  simp only [hw]
  exact if_pos ⟨(hg.newest g hm window hw hgen).symm, hpos⟩

/-- Giving a grant back takes it off the ledger and off the counter of its window. -/
def giveBack (l : Ledger κ) (g : Grant κ) : Ledger κ :=
  { l with windows := release l.windows g.reservation, live := l.live.erase g }

lemma held_giveBack {g : Grant κ} (hm : g ∈ l.live) (k : κ) (n : ℕ) :
    (l.giveBack g).held k n =
      l.held k n - if g.reservation.apiKeyId = k ∧ g.generation = n then 1 else 0 := by
  have h := (List.perm_cons_erase hm).countP_eq
    fun g => decide (g.reservation.apiKeyId = k ∧ g.generation = n)
  rw [List.countP_cons] at h
  simp only [held, giveBack, decide_eq_true_eq] at h ⊢
  omega

lemma windows_giveBack (hg : Good limit l) {g : Grant κ} (hm : g ∈ l.live) {k : κ}
    {window : MinuteWindow} (hk : (l.giveBack g).windows k = some window) :
    ∃ before, l.windows k = some before ∧ window.startedAt = before.startedAt ∧
      window.used = before.used -
        if g.reservation.apiKeyId = k ∧ g.generation = l.generation k then 1 else 0 := by
  by_cases h : l.windows g.reservation.apiKeyId = none ∨
      g.generation ≠ l.generation g.reservation.apiKeyId
  · simp only [giveBack, hg.release_stale hm h] at hk
    refine ⟨window, hk, rfl, ?_⟩
    rw [if_neg]
    · omega
    · rintro ⟨rfl, hgen⟩
      simp [hk, hgen] at h
  · simp only [not_or, Decidable.not_not] at h
    obtain ⟨hsome, hgen⟩ := h
    obtain ⟨before, hb⟩ := Option.ne_none_iff_exists'.mp hsome
    obtain ⟨hpos, hrel⟩ := hg.release_newest hm hb hgen
    simp only [giveBack, hrel] at hk
    by_cases hkey : k = g.reservation.apiKeyId
    · subst hkey
      simp only [Function.update_self, Option.some.injEq] at hk
      subst hk
      exact ⟨before, hb, rfl, by simp [hgen]⟩
    · simp only [Function.update_of_ne hkey] at hk
      exact ⟨window, hk, rfl, by simp [Ne.symm hkey]⟩

lemma windows_giveBack_none (hg : Good limit l) {g : Grant κ} (hm : g ∈ l.live) {k : κ}
    (hk : (l.giveBack g).windows k = none) : l.windows k = none := by
  by_cases h : l.windows g.reservation.apiKeyId = none ∨
      g.generation ≠ l.generation g.reservation.apiKeyId
  · simpa only [giveBack, hg.release_stale hm h] using hk
  · simp only [not_or, Decidable.not_not] at h
    obtain ⟨before, hb⟩ := Option.ne_none_iff_exists'.mp h.1
    obtain ⟨-, hrel⟩ := hg.release_newest hm hb h.2
    simp only [giveBack, hrel] at hk
    by_cases hkey : k = g.reservation.apiKeyId
    · subst hkey
      simp at hk
    · simpa only [Function.update_of_ne hkey] using hk

lemma Good.giveBack (hg : Good limit l) {g : Grant κ} (hm : g ∈ l.live) :
    Good limit (l.giveBack g) := by
  have hsub : ∀ g' ∈ (l.giveBack g).live, g' ∈ l.live := fun g' h => List.mem_of_mem_erase h
  refine ⟨?_, ?_, ?_, ?_, fun g' h => hg.numbered g' (hsub g' h),
    fun g' h => hg.span g' (hsub g' h),
    fun g' h g'' h' => hg.apart g' (hsub g' h) g'' (hsub g'' h'), ?_⟩
  · intro k window hk
    obtain ⟨before, hb, hs, hu⟩ := windows_giveBack hg hm hk
    obtain ⟨h1, h2⟩ := hg.used k before hb
    rw [held_giveBack hm, hu, hs, h1]
    exact ⟨rfl, h2⟩
  · intro g' h window hk hgen
    obtain ⟨before, hb, hs, -⟩ := windows_giveBack hg hm hk
    rw [hs]
    exact hg.newest g' (hsub g' h) before hb hgen
  · intro g' h window hk hgen
    obtain ⟨before, hb, hs, -⟩ := windows_giveBack hg hm hk
    rw [hs]
    exact hg.older g' (hsub g' h) before hb hgen
  · intro g' h hk
    exact hg.evicted g' (hsub g' h) (windows_giveBack_none hg hm hk)
  · intro k n
    rw [held_giveBack hm]
    have := hg.cap k n
    omega

lemma opened_fresh {key : κ} {now : ℕ} {window : MinuteWindow}
    (hw : ((l.evict now).opened key).windows key = some window) :
    ((l.evict now).opened key).clock < window.startedAt + WINDOW := by
  unfold Ledger.opened Ledger.evict at hw ⊢
  cases hr : retain l.windows now key with
  | none =>
    simp only [hr, Function.update_self, Option.some.injEq] at hw ⊢
    subst hw
    have := WINDOW_pos
    simp only
    omega
  | some stored =>
    simp only [hr, Option.some.injEq] at hw ⊢
    subst hw
    have := (retain_eq_some.mp hr).2
    omega

/-- **One call keeps the books.** -/
theorem step_good {l' : Ledger κ} {a : Action κ} (hg : Good limit l)
    (h : l.step limit a = some l') : Good limit l' := by
  cases a with
  | reserve key now =>
    obtain ⟨hclock, ⟨-, rfl⟩ | ⟨hl, window, hw, ⟨-, rfl⟩ | ⟨hfree, rfl⟩⟩⟩ := step_reserve h
    · refine ⟨fun k w hk => ?_, hg.newest, hg.older,
        fun g hm hk => le_trans (hg.evicted g hm hk) hclock, hg.numbered, hg.span,
        hg.apart, hg.cap⟩
      obtain ⟨h1, h2, h3⟩ := hg.used k w hk
      exact ⟨h1, le_trans h2 hclock, h3⟩
    · exact (hg.evict hclock).opened hl
    · exact ((hg.evict hclock).opened hl).grant hw hfree (opened_fresh hw)
  | release g =>
    obtain ⟨hm, rfl⟩ := step_release h
    exact hg.giveBack hm

theorem run_good {l' : Ledger κ} {actions : List (Action κ)}
    (h : run (step limit) (init : Ledger κ) actions = some l') : Good limit l' :=
  inv_of_run (Good limit) (fun _ _ _ hg hs => step_good hg hs) good_init h

/-! ### Any sixty seconds -/

/-- The grants of `key` held that were given in the half-open minute from `t`. -/
def givenIn (l : Ledger κ) (key : κ) (t : ℕ) : ℕ :=
  l.live.countP fun g =>
    g.reservation.apiKeyId = key ∧ t ≤ g.grantedAt ∧ g.grantedAt < t + WINDOW

lemma Good.apart_or (hg : Good limit l) {g g' : Grant κ} (hm : g ∈ l.live) (hm' : g' ∈ l.live)
    (hkey : g.reservation.apiKeyId = g'.reservation.apiKeyId)
    (hne : g.generation ≠ g'.generation) :
    g.reservation.windowStartedAt + WINDOW ≤ g'.reservation.windowStartedAt ∨
      g'.reservation.windowStartedAt + WINDOW ≤ g.reservation.windowStartedAt := by
  rcases lt_or_gt_of_ne hne with h | h
  · exact Or.inl (hg.apart g hm g' hm' hkey h)
  · exact Or.inr (hg.apart g' hm' g hm hkey.symm h)

lemma countP_le_add {α : Type*} {p q r : α → Bool} (l : List α)
    (h : ∀ a ∈ l, p a = true → q a = true ∨ r a = true) :
    l.countP p ≤ l.countP q + l.countP r := by
  induction l with
  | nil => simp
  | cons a l ih =>
    have ih := ih fun b hb => h b (List.mem_cons_of_mem _ hb)
    have hone : (if p a = true then 1 else 0) ≤
        (if q a = true then 1 else 0) + if r a = true then 1 else 0 := by
      by_cases hp : p a = true
      · rcases h a List.mem_cons_self hp with hq | hr
        · simp [hp, hq]
        · simp [hp, hr]
      · simp [hp]
    simp only [List.countP_cons]
    omega

/-- A half-open minute meets at most two windows of a key: three instants pairwise a window
apart do not fit in it. -/
lemma Good.givenIn_le (hg : Good limit l) (key : κ) (t : ℕ) :
    l.givenIn key t ≤ 2 * (limit key).toNat := by
  by_cases h1 : ∃ g ∈ l.live, g.reservation.apiKeyId = key ∧ t ≤ g.grantedAt ∧
      g.grantedAt < t + WINDOW
  swap
  · have h0 : l.givenIn key t = 0 := by
      unfold givenIn
      rw [List.countP_eq_zero]
      intro g hm hp
      exact h1 ⟨g, hm, by simpa using hp⟩
    omega
  obtain ⟨g, hm, hk, hlo, hhi⟩ := h1
  by_cases h2 : ∃ g' ∈ l.live, (g'.reservation.apiKeyId = key ∧ t ≤ g'.grantedAt ∧
      g'.grantedAt < t + WINDOW) ∧ g'.generation ≠ g.generation
  · obtain ⟨g', hm', ⟨hk', hlo', hhi'⟩, hne⟩ := h2
    have hle : l.givenIn key t ≤ l.held key g.generation + l.held key g'.generation := by
      refine countP_le_add l.live fun g'' hm'' hp => ?_
      simp only [decide_eq_true_eq] at hp ⊢
      obtain ⟨hk'', hlo'', hhi''⟩ := hp
      simp only [hk'', true_and]
      by_contra hc
      simp only [not_or] at hc
      have s := hg.span g hm
      have s' := hg.span g' hm'
      have s'' := hg.span g'' hm''
      have a := hg.apart_or hm hm' (hk.trans hk'.symm) (Ne.symm hne)
      have b := hg.apart_or hm'' hm (hk''.trans hk.symm) hc.1
      have c := hg.apart_or hm'' hm' (hk''.trans hk'.symm) hc.2
      omega
    have := hg.cap key g.generation
    have := hg.cap key g'.generation
    omega
  · have hle : l.givenIn key t ≤ l.held key g.generation := by
      refine List.countP_mono_left fun g'' hm'' hp => ?_
      simp only [decide_eq_true_eq] at hp ⊢
      refine ⟨hp.1, ?_⟩
      by_contra hc
      exact h2 ⟨g'', hm'', hp, hc⟩
    have := hg.cap key g.generation
    omega

end Ledger

/-! ### Other keys -/

/-- A call of the limiter, as it is made. -/
inductive Call (κ : Type*)
  | reserve (apiKeyId : κ) (now : ℕ)
  | release (reservation : MinuteReservation κ)

def Call.key : Call κ → κ
  | .reserve apiKeyId _ => apiKeyId
  | .release reservation => reservation.apiKeyId

omit [DecidableEq κ] in
@[simp] lemma Call.key_reserve (apiKeyId : κ) (now : ℕ) :
    (Call.reserve apiKeyId now).key = apiKeyId := rfl

omit [DecidableEq κ] in
@[simp] lemma Call.key_release (reservation : MinuteReservation κ) :
    (Call.release reservation).key = reservation.apiKeyId := rfl

def Call.instant? : Call κ → Option ℕ
  | .reserve _ now => some now
  | .release _ => none

/-- The answers to the reservations of a list of calls, each with its key. -/
def answers (limit : κ → ℤ) : Windows κ → List (Call κ) →
    List (κ × Option (MinuteReservation κ))
  | _, [] => []
  | windows, .reserve key now :: calls =>
    let result := reserveAt windows key (limit key) now
    (key, result.2) :: answers limit result.1 calls
  | windows, .release reservation :: calls => answers limit (release windows reservation) calls

/-- Two limiters differ at `key` at most by a window that has run out at `t`. -/
def AgreeAt (key : κ) (t : ℕ) (windows windows' : Windows κ) : Prop :=
  windows key = windows' key ∨
    (windows key = none ∧ ∃ window, windows' key = some window ∧ window.startedAt + WINDOW ≤ t)

variable {limit : κ → ℤ} {key : κ} {t : ℕ} {windows windows' : Windows κ}

omit [DecidableEq κ] in
lemma AgreeAt.retain (h : AgreeAt key t windows windows') {now : ℕ} (hnow : t ≤ now) :
    retain windows now key = retain windows' now key := by
  rcases h with h | ⟨hn, window, hw, hend⟩
  · simp [MinuteLimiter.retain, h]
  · have := WINDOW_pos
    have hexp : ¬ now - window.startedAt < WINDOW := by omega
    simp [MinuteLimiter.retain, hn, hw, Option.filter, hexp]

lemma AgreeAt.reserve_same (limit : κ → ℤ) (h : AgreeAt key t windows windows') {now : ℕ}
    (hnow : t ≤ now) :
    (reserveAt windows key (limit key) now).2 = (reserveAt windows' key (limit key) now).2 ∧
      AgreeAt key now (reserveAt windows key (limit key) now).1
        (reserveAt windows' key (limit key) now).1 := by
  rcases le_or_gt (limit key) 0 with hl | hl
  · simp only [reserveAt_of_nonpos _ _ _ hl, true_and]
    rcases h with h | ⟨hn, window, hw, hend⟩
    · exact Or.inl h
    · exact Or.inr ⟨hn, window, hw, le_trans hend hnow⟩
  · have hc : current windows key now = current windows' key now := by
      simp [current, h.retain hnow]
    simp only [reserveAt_of_pos _ _ _ hl, hc]
    split
    · exact ⟨rfl, Or.inl (by simp)⟩
    · exact ⟨rfl, Or.inl (by simp)⟩

lemma AgreeAt.reserve_other (h : AgreeAt key t windows windows') {other : κ} (hne : other ≠ key)
    {now : ℕ} (hnow : t ≤ now) :
    AgreeAt key now (reserveAt windows other (limit other) now).1 windows' := by
  have hkeep : AgreeAt key now windows windows' := by
    rcases h with h | ⟨hn, window, hw, hend⟩
    · exact Or.inl h
    · exact Or.inr ⟨hn, window, hw, le_trans hend hnow⟩
  have hret : AgreeAt key now (MinuteLimiter.retain windows now) windows' := by
    cases hr : MinuteLimiter.retain windows now key with
    | some window =>
      have hr' := h.retain hnow ▸ hr
      exact Or.inl (by rw [hr, (retain_eq_some.mp hr').1])
    | none =>
      rcases retain_eq_none hr with hn | ⟨window, hw, hend⟩
      · rcases hkeep with h | ⟨-, h⟩
        · exact Or.inl (by rw [hr, ← h, hn])
        · exact Or.inr ⟨hr, h⟩
      · rcases hkeep with h | ⟨hn, -⟩
        · exact Or.inr ⟨hr, window, by rw [← h, hw], hend⟩
        · rw [hn] at hw
          cases hw
  rcases le_or_gt (limit other) 0 with hl | hl
  · rw [reserveAt_of_nonpos _ _ _ hl]
    exact hkeep
  · rw [reserveAt_of_pos _ _ _ hl]
    split <;> simpa [AgreeAt, Function.update_of_ne (Ne.symm hne)] using hret

lemma release_of_ne {reservation : MinuteReservation κ} (hne : reservation.apiKeyId ≠ key) :
    release windows reservation key = windows key := by
  unfold release
  cases windows reservation.apiKeyId with
  | none => rfl
  | some window =>
    simp only
    split
    · exact Function.update_of_ne (Ne.symm hne) _ _
    · rfl

lemma release_startedAt (reservation : MinuteReservation κ) {window : MinuteWindow}
    (hw : windows key = some window) :
    ∃ after, release windows reservation key = some after ∧
      after.startedAt = window.startedAt := by
  by_cases hne : reservation.apiKeyId = key
  · subst hne
    simp only [release, hw]
    split
    · exact ⟨{ window with used := window.used - 1 }, by simp, rfl⟩
    · exact ⟨window, hw, rfl⟩
  · exact ⟨window, by rw [release_of_ne hne, hw], rfl⟩

lemma AgreeAt.release_same (h : AgreeAt key t windows windows')
    {reservation : MinuteReservation κ} (hkey : reservation.apiKeyId = key) :
    AgreeAt key t (release windows reservation) (release windows' reservation) := by
  subst hkey
  rcases h with h | ⟨hn, window, hw, hend⟩
  · refine Or.inl ?_
    unfold release
    rw [← h]
    cases hw : windows reservation.apiKeyId with
    | none => simp only [hw, ← h]
    | some window =>
      simp only
      split
      · simp
      · rw [hw, ← h, hw]
  · obtain ⟨after, ha, hs⟩ := release_startedAt reservation hw
    exact Or.inr ⟨by simp [release, hn], after, ha, by rw [hs]; exact hend⟩

lemma answers_agree (calls : List (Call κ)) (h : AgreeAt key t windows windows')
    (hmono : (calls.filterMap Call.instant?).Pairwise (· ≤ ·))
    (hfrom : ∀ now ∈ calls.filterMap Call.instant?, t ≤ now) :
    (answers limit windows calls).filter (fun a => a.1 = key) =
      answers limit windows' (calls.filter fun c => c.key = key) := by
  induction calls generalizing t windows windows' with
  | nil => rfl
  | cons call calls ih =>
    cases call with
    | reserve other now =>
      simp only [List.filterMap_cons, Call.instant?, List.pairwise_cons,
        List.mem_cons, forall_eq_or_imp] at hmono hfrom
      by_cases hk : other = key
      · subst hk
        obtain ⟨hsame, hnext⟩ := h.reserve_same limit hfrom.1
        simp only [answers, Call.key_reserve, List.filter_cons, decide_true, if_true, hsame]
        rw [ih hnext hmono.2 hmono.1]
      · simp only [answers, Call.key_reserve, List.filter_cons, hk, decide_false,
          Bool.false_eq_true, if_false]
        exact ih (h.reserve_other hk hfrom.1) hmono.2 hmono.1
    | release reservation =>
      simp only [List.filterMap_cons, Call.instant?] at hmono hfrom
      by_cases hk : reservation.apiKeyId = key
      · simp only [answers, Call.key_release, List.filter_cons, hk, decide_true, if_true]
        exact ih (h.release_same hk) hmono hfrom
      · simp only [answers, Call.key_release, List.filter_cons, hk, decide_false,
          Bool.false_eq_true, if_false]
        refine ih ?_ hmono hfrom
        simpa only [AgreeAt, release_of_ne hk] using h

/-! ### The limiter over whole runs -/

/-- **The limiter is exact.** Along any run of calls whose instants do not decrease and which
gives back each grant at most once: the counter of a stored window is the number of grants
held in it and stays within the limit; giving back a grant of a window that was replaced or
evicted changes no counter; a key's limit of zero or less grants nothing; no half-open minute
has more than twice the limit of grants held; and the answers a key gets are those it would
get if the calls for other keys were not made. -/
theorem limiter_exact (limit : κ → ℤ) :
    (∀ (actions : List (Action κ)) (l : Ledger κ),
      run (Ledger.step limit) Ledger.init actions = some l →
        (∀ key window, l.windows key = some window →
          window.used = l.held key (l.generation key) ∧ (window.used : ℤ) ≤ limit key) ∧
        (∀ g ∈ l.live, (l.windows g.reservation.apiKeyId = none ∨
            g.generation ≠ l.generation g.reservation.apiKeyId) →
          release l.windows g.reservation = l.windows) ∧
        (∀ key t, l.givenIn key t ≤ 2 * (limit key).toNat)) ∧
      (∀ (windows : Windows κ) key now, limit key ≤ 0 →
        (reserveAt windows key (limit key) now).2 = none) ∧
      (∀ (calls : List (Call κ)) key, (calls.filterMap Call.instant?).Pairwise (· ≤ ·) →
        (answers limit (fun _ => none) calls).filter (fun a => a.1 = key) =
          answers limit (fun _ => none) (calls.filter fun c => c.key = key)) := by
  refine ⟨fun actions l h => ?_, fun windows key now h => ?_, fun calls key hmono => ?_⟩
  · have hg := Ledger.run_good h
    refine ⟨fun key window hw => ?_, fun g hm h => hg.release_stale hm h, hg.givenIn_le⟩
    obtain ⟨hused, -, hl⟩ := hg.used key window hw
    have := hg.cap key (l.generation key)
    exact ⟨hused, by omega⟩
  · rw [reserveAt_of_nonpos _ _ _ h]
  · exact answers_agree calls (Or.inl rfl) hmono fun now _ => Nat.zero_le now

/-- A window evicted by another key's traffic and replaced: its slot, given back late, is not
taken off the new window. -/
theorem limiter_exact_late_release : ∃ l : Ledger Bool,
    run (Ledger.step fun _ => 1) Ledger.init
      [.reserve true 0, .reserve false WINDOW, .reserve true (2 * WINDOW)] = some l ∧
    l.windows true = some ⟨2 * WINDOW, 1⟩ ∧ (1 : ℕ) = l.held true 2 ∧
    release l.windows ⟨true, 0⟩ = l.windows ∧ l.givenIn true 0 ≤ 2 := by
  obtain ⟨hrun, -, -⟩ := limiter_exact fun _ : Bool => 1
  refine ⟨_, rfl, rfl, ?_⟩
  obtain ⟨hused, hstale, hgiven⟩ := hrun
    [.reserve true 0, .reserve false WINDOW, .reserve true (2 * WINDOW)] _ rfl
  refine ⟨(hused true ⟨2 * WINDOW, 1⟩ rfl).1, ?_, hgiven true 0⟩
  exact hstale ⟨⟨true, 0⟩, 1, 0⟩ (by decide) (by decide)

end MotherApi.MinuteLimiter
