import MotherApi.RequestAdmission
import Mathlib.Algebra.Order.BigOperators.Group.List

/-!
The two quotas of a key under any interleaving of its requests.

A request takes a slot of the minute first and then one of the day; when the day refuses it,
the slot of the minute is given back. The limiter's ledger follows along: the grants it holds
are the slots of the requests that have taken one and not given it back. So once no request
is between the two, the counter of the minute is the number of the requests accepted in it.
-/

namespace MotherApi.QuotaAdmission

open MotherApi.Capabilities MotherApi.MinuteLimiter MotherApi.RequestAdmission MotherApi.Lib.Runs

section Points

variable {κ : Type*}

/-- The next step is the update of a counter. -/
def countsNext : Phase κ → Bool
  | .incrementDailyAccepted _ => true
  | .recordResponseClass _ => true
  | .recordRateLimited => true
  | _ => false

/-- Between the slot of the minute and the end of the branch that the day decides. -/
def settling : Phase κ → Bool
  | .incrementDailyAccepted _ => true
  | .release _ _ => true
  | _ => false

/-- No policy changes and no update of a counter fails. -/
def Steady (s : State κ) : Label κ → Prop
  | .setPolicy _ _ => False
  | .act index .fail => ∀ r, s.requests[index]? = some r → countsNext r.phase = false
  | _ => True

/-- The daily increment of the request returned `accepted`. -/
def wasAccepted (log : List (Event κ)) : Bool :=
  log.any fun
    | .daily .accepted _ => true
    | _ => false

/-- The request was refused with `rate_limited`. -/
def wasRateLimited : Phase κ → Bool
  | .answered (.refused .rateLimited) => true
  | _ => false

/-- The dates on which the request was counted as rate limited. -/
def rateLimitedDates (log : List (Event κ)) : List ℕ :=
  log.filterMap fun
    | .rateLimited date => some date
    | _ => none

end Points

variable {κ : Type*} [DecidableEq κ]

/-- The slot a request with this log holds. -/
def slot : List (Event κ) → Option (MinuteReservation κ)
  | .reserved reservation :: rest => if .released ∈ rest then none else some reservation
  | _ => none

/-- The slots held by the requests. -/
def slots (s : State κ) : List (MinuteReservation κ) :=
  s.requests.filterMap fun r => slot r.log

def minuteLimit (policies : κ → Option ApiKeyPolicy) (key : κ) : ℤ :=
  (policies key).elim 0 ApiKeyPolicy.requestsPerMinute

/-- What holds of every request of a steady run. -/
structure Sound (policies : κ → Option ApiKeyPolicy) (r : Request κ) : Prop where
  trace : Trace r.phase r.log
  policy : ∀ p, r.phase = .findGrants p ∨ r.phase = .reserve p → policies r.key = some p
  own : ∀ reservation, .reserved reservation ∈ r.log → reservation.apiKeyId = r.key
  counted : .counterFailed ∉ r.log

variable {policies : κ → Option ApiKeyPolicy} {s s' : State κ} {r : Request κ} {input : Input}
  {m : Move κ} {others : List (Request κ) × List (Request κ)} {label : Label κ}

lemma reserveAt_own {windows windows' : Windows κ} {key : κ} {limit : ℤ} {now : ℕ}
    {reservation : MinuteReservation κ}
    (h : reserveAt windows key limit now = (windows', some reservation)) :
    reservation.apiKeyId = key := by
  rcases le_or_gt limit 0 with hl | hl
  · rw [reserveAt_of_nonpos _ _ _ hl] at h
    simp at h
  · rw [reserveAt_of_pos _ _ _ hl] at h
    split at h
    · simp at h
    · simp only [Prod.mk.injEq, Option.some.injEq] at h
      rw [← h.2]

lemma Sound.move (hr : Sound policies r) (hpolicies : s.policies = policies)
    (hm : Moves s r input m) (hfail : input = .fail → countsNext r.phase = false) :
    Sound policies (r.move m) where
  trace := hr.trace.move hm
  policy := by
    have := hr.policy
    cases hm with
    | released reservation rateLimited hp =>
      intro p h
      cases rateLimited <;> simp [Request.move] at h
    | _ => simp_all [Request.move]
  own := by
    intro reservation hmem
    rcases List.mem_append.mp hmem with hmem | hmem
    · exact hr.own reservation hmem
    · cases hm with
      | minuteReserved policy windows reservation' hp h =>
        simp only [List.mem_singleton, Event.reserved.injEq] at hmem
        rw [hmem]
        exact reserveAt_own h
      | _ => simp at hmem
  counted := by
    intro hmem
    rcases List.mem_append.mp hmem with hmem | hmem
    · exact hr.counted hmem
    · cases hm with
      | dailyFailed reservation hp | countFailed status hp | rateLimitedFailed hp =>
        simp [hp, countsNext] at hfail
      | _ => simp at hmem

lemma sound_step (hpolicies : s.policies = policies) (hs : ∀ r ∈ s.requests, Sound policies r)
    (hsteady : Steady s label) (h : step s label = some s') :
    s'.policies = policies ∧ ∀ r ∈ s'.requests, Sound policies r := by
  constructor
  · obtain ⟨clock, date, -, -, -, rfl⟩ | ⟨key, policy, rfl, rfl⟩ | ⟨key, capability, -, rfl⟩ |
      ⟨input, others, r, m, hl, hs, hm, rfl⟩ := step_cases h
    · exact hpolicies
    · exact hsteady.elim
    · exact hpolicies
    · exact hpolicies
  · refine forall_requests_step (fun key capability => ?_)
      (fun index input r m hl hr hsound hm => ?_) h hs
    · exact ⟨.authenticate, by simp, by simp, by simp⟩
    · refine hsound.move hpolicies hm ?_
      rintro rfl
      subst hl
      exact hsteady r hr

/-! ### The ledger follows -/

/-- The ledger has the windows of the limiter, and holds the slots of the requests. -/
structure Follows (policies : κ → Option ApiKeyPolicy) (s : State κ) (l : Ledger κ) : Prop where
  good : l.Good (minuteLimit policies)
  windows : l.windows = s.windows
  clock : l.clock ≤ s.clock
  live : (l.live.map Grant.reservation).Perm (slots s)

lemma slot_append {log events : List (Event κ)}
    (h : ∀ event ∈ events, event ≠ .released ∧ ∀ reservation, event ≠ .reserved reservation) :
    slot (log ++ events) = slot log := by
  cases log with
  | nil =>
    cases events with
    | nil => rfl
    | cons event events =>
      have := (h event (by simp)).2
      cases event <;> simp_all [slot]
  | cons event log =>
    have hrel : Event.released ∉ events := fun hmem => (h _ hmem).1 rfl
    cases event <;> simp [slot, hrel]

/-- The slots before and after a step differ in those of its request. -/
lemma slots_after (hs : s.requests = others.1 ++ r :: others.2) (m : Move κ) :
    ∃ rest, (slots s).Perm ((slot r.log).toList ++ rest) ∧
      (slots (s.after others r m)).Perm ((slot (r.move m).log).toList ++ rest) := by
  refine ⟨(others.1 ++ others.2).filterMap fun r => slot r.log, ?_, ?_⟩
  · cases hslot : slot r.log <;> simp [slots, hs, hslot]
  · cases hslot : slot (r.move m).log <;> simp [slots, State.after, hslot]

lemma Follows.keep {l : Ledger κ} (hl : Follows policies s l)
    (hs : s.requests = others.1 ++ r :: others.2) (hwindows : m.windows = s.windows)
    (hevents : ∀ event ∈ m.events,
      event ≠ .released ∧ ∀ reservation, event ≠ .reserved reservation) :
    Follows policies (s.after others r m) l := by
  obtain ⟨rest, hbefore, hafter⟩ := slots_after hs m
  rw [show (r.move m).log = r.log ++ m.events from rfl, slot_append hevents] at hafter
  exact ⟨hl.good, hl.windows.trans hwindows.symm, hl.clock,
    hl.live.trans (hbefore.trans hafter.symm)⟩

lemma slot_release {reservation : MinuteReservation κ} {rateLimited : Bool}
    {log : List (Event κ)} (ht : Trace (.release reservation rateLimited) log) :
    slot log = some reservation ∧ slot (log ++ [.released]) = none := by
  cases ht with
  | exceeded => simp [slot]
  | undone _ event h => rcases h with rfl | ⟨date, rfl⟩ <;> simp [slot]

lemma ledger_reserve {limit : κ → ℤ} {l : Ledger κ} {key : κ} {now : ℕ} {windows : Windows κ}
    {answer : Option (MinuteReservation κ)} (hclock : l.clock ≤ now)
    (h : reserveAt l.windows key (limit key) now = (windows, answer)) :
    ∃ l', l.step limit (.reserve key now) = some l' ∧ l'.windows = windows ∧ l'.clock = now ∧
      l'.live.map Grant.reservation = answer.toList ++ l.live.map Grant.reservation := by
  simp only [Ledger.step, hclock, if_true, h]
  cases answer with
  | none => exact ⟨_, rfl, rfl, rfl, rfl⟩
  | some reservation => exact ⟨_, rfl, rfl, rfl, rfl⟩

lemma Follows.reserve {l : Ledger κ} (hl : Follows policies s l) {key : κ} {windows : Windows κ}
    {answer : Option (MinuteReservation κ)} {p : ApiKeyPolicy} (hp : policies key = some p)
    (h : reserveAt s.windows key p.requestsPerMinute s.clock = (windows, answer)) {t : State κ}
    (hwindows : t.windows = windows) (hclock : t.clock = s.clock)
    (hslots : (slots t).Perm (answer.toList ++ slots s)) : ∃ l', Follows policies t l' := by
  have hlimit : minuteLimit policies key = p.requestsPerMinute := by simp [minuteLimit, hp]
  rw [← hl.windows, ← hlimit] at h
  obtain ⟨l', hstep, hw, hc, hlive⟩ := ledger_reserve hl.clock h
  refine ⟨l', Ledger.step_good hl.good hstep, by rw [hw, hwindows], by rw [hc, hclock], ?_⟩
  rw [hlive]
  exact (hl.live.append_left _).trans hslots.symm

lemma follows_move {l : Ledger κ} (hl : Follows policies s l) (hsound : Sound policies r)
    (hs : s.requests = others.1 ++ r :: others.2) (hm : Moves s r input m) :
    ∃ l', Follows policies (s.after others r m) l' := by
  obtain ⟨rest, hbefore, hafter⟩ := slots_after hs m
  have ht := hsound.trace
  cases hm with
  | minuteRefused policy windows hp h =>
    refine hl.reserve (hsound.policy policy (Or.inr hp)) h rfl rfl ?_
    rw [show (r.move _).log = r.log ++ _ from rfl, slot_append (by simp)] at hafter
    exact hafter.trans hbefore.symm
  | minuteReserved policy windows reservation hp h =>
    refine hl.reserve (hsound.policy policy (Or.inr hp)) h rfl rfl ?_
    generalize hlog : r.log = log at ht
    rw [hp] at ht
    cases ht
    simp only [Request.move, hlog] at hbefore hafter
    exact hafter.trans (hbefore.symm.append_left _)
  | released reservation rateLimited hp =>
    rw [hp] at ht
    obtain ⟨hslot, hnone⟩ := slot_release ht
    simp only [Request.move, hslot, hnone, Option.toList_some, Option.toList_none,
      List.nil_append, List.singleton_append] at hbefore hafter
    -- one of the grants is the slot
    have hmem : reservation ∈ l.live.map Grant.reservation :=
      (hl.live.trans hbefore).symm.subset List.mem_cons_self
    obtain ⟨g, hg, rfl⟩ := List.mem_map.mp hmem
    have hstep : l.step (minuteLimit policies) (.release g) = some
        { l with windows := release l.windows g.reservation, live := l.live.erase g } := by
      simp [Ledger.step, hg]
    refine ⟨_, Ledger.step_good hl.good hstep, ?_, hl.clock, ?_⟩
    · simp [hl.windows, State.after]
    · have hperm := (List.perm_cons_erase hg).map Grant.reservation
      have := (hperm.symm.trans (hl.live.trans hbefore)).cons_inv
      exact this.trans hafter.symm
  | _ => exact ⟨l, hl.keep hs rfl (by simp)⟩

/-- The invariant of a steady run. -/
structure Steadily (policies : κ → Option ApiKeyPolicy) (s : State κ) : Prop where
  policies_eq : s.policies = policies
  sound : ∀ r ∈ s.requests, Sound policies r
  follows : ∃ l, Follows policies s l
  daily : ∀ key date p, policies key = some p →
    ((s.row key date).acceptedRequests : ℤ) ≤ p.requestsPerDay

lemma steadily_init : Steadily policies (State.init policies) where
  policies_eq := rfl
  sound := by simp [State.init]
  follows := ⟨Ledger.init, Ledger.good_init, rfl, le_rfl, List.Perm.refl _⟩
  daily := fun _ _ p _ => by simpa [State.init, State.row] using p.per_day_nonneg

/-- Only an accepted increment touches the accepted requests, and it stays within the day's
quota. -/
lemma accepted_after (others : List (Request κ) × List (Request κ)) (hm : Moves s r input m)
    (key : κ) (date : ℕ) :
    ((s.after others r m).row key date).acceptedRequests = (s.row key date).acceptedRequests ∨
      ∃ p, s.policies key = some p ∧
        (((s.after others r m).row key date).acceptedRequests : ℤ) ≤ p.requestsPerDay := by
  cases hm with
  | accepted reservation row hp h =>
    obtain ⟨hrow, p, hpolicy, hlt⟩ := incrementDailyAccepted_accepted h
    rw [row_after_setRow, hrow]
    split
    · rename_i hkey
      refine Or.inr ⟨p, by rw [hkey.1]; exact hpolicy, ?_⟩
      push_cast
      omega
    · exact Or.inl rfl
  | counted status counter hp =>
    have := (others_incrementResponseCounter counter (s.usage r.key s.date)).1
    rw [row_after_setRow]
    split
    · rename_i hkey
      simp only [hkey, State.row, Option.getD_some, this, true_or]
    · exact Or.inl rfl
  | rateLimited hp =>
    rw [row_after_setRow]
    split
    · rename_i hkey
      simp only [hkey, State.row, Option.getD_some, incrementDailyRateLimited, true_or]
    · exact Or.inl rfl
  | _ => exact Or.inl rfl

lemma steadily_step (hi : Steadily policies s) (hsteady : Steady s label)
    (h : step s label = some s') : Steadily policies s' := by
  obtain ⟨hp, hsound⟩ := sound_step hi.policies_eq hi.sound hsteady h
  obtain ⟨l, hl⟩ := hi.follows
  refine ⟨hp, hsound, ?_, ?_⟩
  · obtain ⟨clock, date, -, hle, -, rfl⟩ | ⟨key, policy, rfl, rfl⟩ | ⟨key, capability, -, rfl⟩ |
      ⟨input, others, r, m, hlabel, hs, hm, rfl⟩ := step_cases h
    · exact ⟨l, hl.good, hl.windows, le_trans hl.clock hle, hl.live⟩
    · exact hsteady.elim
    · exact ⟨l, hl.good, hl.windows, hl.clock, by simpa [slots, slot] using hl.live⟩
    · exact follows_move hl (hi.sound r (by simp [hs])) hs hm
  · intro key date p hkey
    have hbefore := hi.daily key date p hkey
    obtain ⟨clock, date, -, hle, -, rfl⟩ | ⟨key, policy, rfl, rfl⟩ | ⟨key, capability, -, rfl⟩ |
      ⟨input, others, r, m, hlabel, hs, hm, rfl⟩ := step_cases h
    · exact hbefore
    · exact hsteady.elim
    · exact hbefore
    · rcases accepted_after others hm key date with heq | ⟨p', hp', hle⟩
      · rw [heq]
        exact hbefore
      · rw [hi.policies_eq, hkey, Option.some.injEq] at hp'
        rwa [hp']

lemma steadily_run {labels : List (Label κ)}
    (hsteady : Along step Steady (State.init policies) labels)
    (h : run step (State.init policies) labels = some s) : Steadily policies s :=
  inv_of_along (Steadily policies) (fun _ _ _ hi hl hs => steadily_step hi hl hs) steadily_init
    hsteady h

/-! ### What the invariant says -/

lemma held_eq_count {limit : κ → ℤ} {l : Ledger κ} (hg : l.Good limit) {key : κ}
    {window : MinuteWindow} (hw : l.windows key = some window) :
    l.held key (l.generation key) =
      (l.live.map Grant.reservation).count ⟨key, window.startedAt⟩ := by
  rw [Ledger.held, List.count, List.countP_map]
  refine List.countP_congr fun g hm => ?_
  simp only [decide_eq_true_eq, Function.comp_apply, beq_iff_eq]
  constructor
  · rintro ⟨rfl, hgen⟩
    have := hg.newest g hm window hw hgen
    rw [← this]
  · intro hres
    have hkey : g.reservation.apiKeyId = key := by rw [hres]
    refine ⟨hkey, ?_⟩
    subst hkey
    by_contra hgen
    have hold := hg.older g hm window hw hgen
    rw [show g.reservation.windowStartedAt = window.startedAt by rw [hres]] at hold
    have := WINDOW_pos
    omega

/-- Once the day has decided, the slots held are those of the accepted requests. -/
lemma slot_of_settled {phase : Phase κ} {log : List (Event κ)} (ht : Trace phase log)
    (hsettled : settling phase = false) (reservation : MinuteReservation κ) :
    slot log = some reservation ↔ wasAccepted log ∧ .reserved reservation ∈ log := by
  cases ht with
  | served reservation date status last hlast =>
    rcases hlast with rfl | rfl | ⟨_, _, rfl⟩ <;> simp [slot, wasAccepted, eq_comm]
  | limited log last hlog hlast =>
    cases hlog <;> rcases hlast with rfl | ⟨_, rfl⟩ <;> simp [slot, wasAccepted]
  | closed reservation event h => rcases h with rfl | ⟨_, rfl⟩ <;> simp [slot, wasAccepted]
  | undone reservation event h => simp [settling] at hsettled
  | reserved | exceeded => simp [settling] at hsettled
  | _ => simp [slot, wasAccepted, eq_comm]

lemma handled_of_trace {phase : Phase κ} {log : List (Event κ)} (ht : Trace phase log) :
    log.count .handled ≤ 1 ∧ (.handled ∈ log ↔ wasAccepted log ∧ phase ≠ .runHandler) := by
  cases ht with
  | served reservation date status last hlast =>
    rcases hlast with rfl | rfl | ⟨_, _, rfl⟩ <;> simp [wasAccepted]
  | limited log last hlog hlast =>
    cases hlog <;> rcases hlast with rfl | ⟨_, rfl⟩ <;> simp [wasAccepted]
  | closed reservation event h | undone reservation event h =>
    rcases h with rfl | ⟨_, rfl⟩ <;> simp [wasAccepted]
  | _ => simp [wasAccepted]

omit [DecidableEq κ] in
lemma rateLimitedDates_of_trace {phase : Phase κ} {log : List (Event κ)} (ht : Trace phase log)
    (hcounted : .counterFailed ∉ log) :
    (rateLimitedDates log).length = if wasRateLimited phase then 1 else 0 := by
  cases ht with
  | served reservation date status last hlast =>
    rcases hlast with rfl | rfl | ⟨_, _, rfl⟩ <;> simp [rateLimitedDates, wasRateLimited]
  | limited log last hlog hlast =>
    rcases hlast with rfl | ⟨_, rfl⟩
    · simp at hcounted
    · cases hlog <;> simp [rateLimitedDates, wasRateLimited]
  | closed reservation event h | undone reservation event h =>
    rcases h with rfl | ⟨_, rfl⟩ <;> simp [rateLimitedDates, wasRateLimited]
  | turnedAway error h => cases error <;> simp_all [rateLimitedDates, wasRateLimited]
  | _ => simp [rateLimitedDates, wasRateLimited]

lemma count_rateLimitedDates (log : List (Event κ)) (date : ℕ) :
    (rateLimitedDates log).count date = log.count (.rateLimited date) := by
  induction log with
  | nil => rfl
  | cons event log ih =>
    cases event <;> simp_all [rateLimitedDates, List.count_cons]

/-- The dates on which the requests of a key were counted as rate limited. -/
def refusalDates (s : State κ) (key : κ) : List ℕ :=
  (s.requests.filter fun r => r.key = key).flatMap fun r => rateLimitedDates r.log

lemma count_refusalDates (s : State κ) (key : κ) (date : ℕ) :
    (refusalDates s key).count date = s.total key (.rateLimited date) := by
  unfold refusalDates State.total
  induction s.requests with
  | nil => rfl
  | cons r rs ih =>
    by_cases hk : r.key = key
    · simp [hk, ih, count_rateLimitedDates]
    · simp [hk, ih]

/-- The daily increment of a request accepts it at most once. -/
lemma count_accepted_of_trace {phase : Phase κ} {log : List (Event κ)} (ht : Trace phase log)
    (date : ℕ) : log.count (.daily .accepted date) =
      if .daily .accepted date ∈ log then 1 else 0 := by
  have hle : log.count (.daily .accepted date) ≤ 1 := by
    cases ht with
    | served reservation date' status last hlast =>
      rcases hlast with rfl | rfl | ⟨_, _, rfl⟩ <;> simp [List.count_cons] <;> split <;> omega
    | limited log last hlog hlast =>
      cases hlog <;> rcases hlast with rfl | ⟨_, rfl⟩ <;> simp
    | closed reservation event h | undone reservation event h =>
      rcases h with rfl | ⟨_, rfl⟩ <;> simp
    | admitted | handled => simp [List.count_cons] <;> split <;> omega
    | _ => simp
  split
  · rename_i hmem
    have hpos := List.count_pos_iff.mpr hmem
    omega
  · rename_i hmem
    exact List.count_eq_zero.mpr hmem

/-- The books of a day count the requests that were accepted on it. -/
lemma total_accepted (htrace : ∀ r ∈ s.requests, Trace r.phase r.log) (key : κ) (date : ℕ) :
    s.total key (.daily .accepted date) =
      s.requests.countP fun r => r.key = key ∧ .daily .accepted date ∈ r.log := by
  unfold State.total
  generalize s.requests = requests at htrace
  induction requests with
  | nil => rfl
  | cons r rs ih =>
    rw [List.forall_mem_cons] at htrace
    rw [List.map_cons, List.sum_cons, List.countP_cons, ih htrace.2,
      count_accepted_of_trace htrace.1 date]
    by_cases hkey : r.key = key <;> by_cases hmem : .daily .accepted date ∈ r.log <;>
      simp [hkey, hmem, Nat.add_comm]

lemma used_eq (hi : Steadily policies s) {key : κ} {window : MinuteWindow}
    (hw : s.windows key = some window)
    (hsettled : ∀ r ∈ s.requests, r.key = key → settling r.phase = false) :
    window.used = s.requests.countP fun r =>
      r.key = key ∧ wasAccepted r.log ∧ .reserved ⟨key, window.startedAt⟩ ∈ r.log := by
  obtain ⟨l, hl⟩ := hi.follows
  rw [← hl.windows] at hw
  rw [(hl.good.used key window hw).1, held_eq_count hl.good hw, hl.live.count_eq, slots,
    List.count, List.countP_filterMap]
  refine List.countP_congr fun r hr => ?_
  have hsound := hi.sound r hr
  have hslot : slot r.log = some ⟨key, window.startedAt⟩ → r.key = key := by
    intro h
    cases hlog : r.log with
    | nil => simp [slot, hlog] at h
    | cons event log =>
      cases event <;> simp [slot, hlog] at h
      rw [← hsound.own _ (by rw [hlog]; exact List.mem_cons_self), h.2]
  have hany : ((slot r.log).map (· == (⟨key, window.startedAt⟩ : MinuteReservation κ))).getD
      false = true ↔ slot r.log = some ⟨key, window.startedAt⟩ := by
    cases slot r.log <;> simp
  rw [hany, decide_eq_true_eq]
  constructor
  · intro h
    have hkey := hslot h
    exact ⟨hkey, (slot_of_settled hsound.trace (hsettled r hr hkey) _).mp h⟩
  · rintro ⟨hkey, h⟩
    exact (slot_of_settled hsound.trace (hsettled r hr hkey) _).mpr h

/-- A request that was denied has changed nothing. -/
lemma denied_changes_nothing {labels₁ labels₂ : List (Label κ)} {s₁ s₂ : State κ} {index : ℕ}
    (h₁ : run step (State.init policies) labels₁ = some s₁)
    (h : step s₁ (.act index input) = some s₂) (h₂ : run step s₂ labels₂ = some s)
    (hr : s.requests[index]? = some r)
    (hdenied : r.phase = .answered (.refused .capabilityNotGranted)) :
    s₂.windows = s₁.windows ∧ s₂.usage = s₁.usage := by
  have hrun : run step (State.init policies) (labels₁ ++ .act index input :: labels₂) = some s := by
    rw [run_append, h₁, Option.bind_some, run_cons, h, Option.bind_some, h₂]
  have ht := trace_run hrun r (List.mem_of_getElem? hr)
  rw [hdenied] at ht
  obtain ⟨others, r₁, m, hs, rfl, hm, rfl⟩ := step_act h
  have hmoved : (s₁.after others r₁ m).requests[others.1.length]? = some (r₁.move m) := by
    simp [State.after]
  obtain ⟨r', hr', hlog⟩ := log_run h₂ hmoved
  rw [hr, Option.some.injEq] at hr'
  subst hr'
  have hevents : ∀ event ∈ m.events, event = .denied := by
    intro event hmem
    have := hlog.subset (List.mem_append_right r₁.log hmem)
    generalize r.log = log at ht this
    cases ht with
    | denied => simpa using this
    | turnedAway _ _ hne => exact absurd rfl hne
  cases hm with
  | minuteRefused | minuteReserved | accepted | counted | released | rateLimited =>
    simp at hevents
  | _ => exact ⟨rfl, rfl⟩

/-- **Admission is exact under interleaving.** In a run in which no policy changes and no update
of a counter fails: the accepted requests of a day stay within the quota of the day, and they are
the requests whose daily increment accepted them on that day; the handler runs at most once, for
the requests that were accepted and no others; once no request of a key is between its slot of the
minute and the end of the branch the day decides, the counter of the key's window is the number of
requests accepted in that window; and a request refused as rate limited is counted once, any other
never, so that the counters of a key's rows are the numbers of its refusals on each date. In every
run a request that is denied for its capability has changed no window and no counter in any of its
steps. -/
theorem admission_exact (policies : κ → Option ApiKeyPolicy) :
    (∀ (labels : List (Label κ)) (s : State κ),
      Along step Steady (State.init policies) labels →
      run step (State.init policies) labels = some s →
        (∀ key date p, policies key = some p →
          ((s.row key date).acceptedRequests : ℤ) ≤ p.requestsPerDay) ∧
        (∀ key date, (s.row key date).acceptedRequests =
          s.requests.countP fun r => r.key = key ∧ .daily .accepted date ∈ r.log) ∧
        (∀ r ∈ s.requests, r.log.count .handled ≤ 1 ∧
          (.handled ∈ r.log ↔ wasAccepted r.log ∧ r.phase ≠ .runHandler)) ∧
        (∀ key window, s.windows key = some window →
          (∀ r ∈ s.requests, r.key = key → settling r.phase = false) →
          window.used = s.requests.countP fun r =>
            r.key = key ∧ wasAccepted r.log ∧ .reserved ⟨key, window.startedAt⟩ ∈ r.log) ∧
        (∀ r ∈ s.requests,
          (rateLimitedDates r.log).length = if wasRateLimited r.phase then 1 else 0) ∧
        (∀ key date,
          (s.row key date).rateLimitedRequests = (refusalDates s key).count date)) ∧
      (∀ (labels₁ labels₂ : List (Label κ)) (index : ℕ) (input : Input) (s₁ s₂ s : State κ)
        (r : Request κ), run step (State.init policies) labels₁ = some s₁ →
        step s₁ (.act index input) = some s₂ → run step s₂ labels₂ = some s →
        s.requests[index]? = some r →
        r.phase = .answered (.refused .capabilityNotGranted) →
          s₂.windows = s₁.windows ∧ s₂.usage = s₁.usage) := by
  refine ⟨fun labels s hsteady h => ?_, fun _ _ _ _ _ _ _ _ h₁ h h₂ hr hd =>
    denied_changes_nothing h₁ h h₂ hr hd⟩
  have hi := steadily_run hsteady h
  refine ⟨hi.daily, ?_, fun r hr => handled_of_trace (hi.sound r hr).trace,
    fun key window hw hsettled => used_eq hi hw hsettled, ?_, ?_⟩
  · intro key date
    rw [← total_accepted fun r hr => (hi.sound r hr).trace]
    exact books_run h key (.daily .accepted date) rfl
  · intro r hr
    exact rateLimitedDates_of_trace (hi.sound r hr).trace (hi.sound r hr).counted
  · intro key date
    rw [count_refusalDates]
    exact books_run h key (.rateLimited date) trivial

/-- The steps of a request from its arrival to where the day decides. -/
def untilTheDay (index : ℕ) : List (Label Unit) :=
  [.arrive () .pricesRead,
    .act index .done,
    .act index .done,
    .act index
      (.grants ⟨[⟨.pricesRead, .any, .active⟩], [⟨.pricesRead, .any, .active⟩], none⟩),
    .act index .done,
    .act index .done]

/-- Two requests of a key with one request a day. The first is served, and the second refused. -/
def servedThenRefused : List (Label Unit) :=
  untilTheDay 0 ++ [.act 0 (.respond 200), .act 0 .done] ++
    (untilTheDay 1 ++ [.act 1 .done, .act 1 .done])

/-- The slot of the second request is free again, and its refusal is counted. -/
theorem admission_exact_served_then_refused :
    ∃ s, run step (State.init fun _ : Unit => some ⟨10, 1, by decide, by decide⟩)
        servedThenRefused = some s ∧
      s.windows () = some ⟨0, 1⟩ ∧
      s.row () 0 =
        { acceptedRequests := 1, rateLimitedRequests := 1, successfulResponses := 1 } ∧
      1 = s.requests.countP (fun r => r.key = () ∧ .daily .accepted 0 ∈ r.log) ∧
      1 = s.requests.countP (fun r => r.key = () ∧ wasAccepted r.log ∧
        .reserved ⟨(), 0⟩ ∈ r.log) ∧
      1 = (refusalDates s ()).count 0 := by
  obtain ⟨hrun, -⟩ := admission_exact fun _ : Unit => some ⟨10, 1, by decide, by decide⟩
  obtain ⟨-, haccepted, -, hused, -, hlimited⟩ := hrun servedThenRefused _
    (along_of_forall_mem (by simp [servedThenRefused, untilTheDay, Steady]) _) rfl
  refine ⟨_, rfl, rfl, rfl, haccepted () 0, hused () ⟨0, 1⟩ rfl ?_, hlimited () 0⟩
  intro r hr _
  rcases List.mem_cons.mp hr with rfl | hr
  · rfl
  · rw [List.mem_singleton.mp hr]
    rfl

end MotherApi.QuotaAdmission
