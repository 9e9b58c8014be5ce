import MotherApi.Capabilities
import MotherApi.MinuteLimiter

/-!
Requests on their way through `require_api_key_for`.

A request is at one of the points between two awaits of the middleware; what it does next is
one step, and steps of different requests come in any order while the clocks go on. The
requests share the in-process limiter and the rows of `api_key_usage_daily`, whose statements
are atomic and take their date from the database clock when they run.

Each request carries the list of what it has done to the shared state, so that the counters
can be compared with it.
-/

namespace MotherApi.RequestAdmission

open MotherApi.Capabilities MotherApi.MinuteLimiter MotherApi.Lib.Runs

/-- A row of `api_key_policy`, with the checks of its table. -/
structure ApiKeyPolicy where
  requestsPerMinute : ℤ
  requestsPerDay : ℤ
  per_minute_nonneg : 0 ≤ requestsPerMinute
  per_day_nonneg : 0 ≤ requestsPerDay

/-- A row of `api_key_usage_daily`; a new row has zeros. -/
structure UsageRow where
  acceptedRequests : ℕ := 0
  rateLimitedRequests : ℕ := 0
  successfulResponses : ℕ := 0
  clientErrorResponses : ℕ := 0
  serverErrorResponses : ℕ := 0
  deriving DecidableEq

inductive DailyAcceptedOutcome
  | accepted | limitExceeded | missingPolicy
  deriving DecidableEq

inductive UsageResponseClass
  | successful | clientError | serverError
  deriving DecidableEq

/-! ### The statements -/

/-- The row of the day after the statement, and its answer. The policy row references the row
of the key, so `key_update` finds a row whenever `accepted_update` did. -/
def incrementDailyAccepted (policy : Option ApiKeyPolicy) (row : Option UsageRow) :
    Option UsageRow × DailyAcceptedOutcome :=
  match policy with
  | none => (row, .missingPolicy)
  | some policy =>
    -- nothing is selected for insertion
    if policy.requestsPerDay ≤ 0 then (row, .limitExceeded)
    else match row with
      | none => (some { acceptedRequests := 1 }, .accepted)
      | some row =>
        if (row.acceptedRequests : ℤ) < policy.requestsPerDay then
          (some { row with acceptedRequests := row.acceptedRequests + 1 }, .accepted)
        else (some row, .limitExceeded)

def incrementDailyRateLimited (row : Option UsageRow) : UsageRow :=
  let row := row.getD {}
  { row with rateLimitedRequests := row.rateLimitedRequests + 1 }

def incrementResponseCounter (counter : UsageResponseClass) (row : Option UsageRow) : UsageRow :=
  let row := row.getD {}
  match counter with
  | .successful => { row with successfulResponses := row.successfulResponses + 1 }
  | .clientError => { row with clientErrorResponses := row.clientErrorResponses + 1 }
  | .serverError => { row with serverErrorResponses := row.serverErrorResponses + 1 }

/-- The counter a response is put under; informational responses are not counted. -/
def responseClass (status : ℕ) : Option UsageResponseClass :=
  if 200 ≤ status ∧ status < 400 then some .successful
  else if 400 ≤ status ∧ status < 500 then some .clientError
  else if 500 ≤ status ∧ status < 600 then some .serverError
  else none

/-! ### The middleware -/

/-- What the client is told. -/
inductive Answer
  | refused (error : ApiError)
  | handled (status : ℕ)
  deriving DecidableEq

/-- Where a request stands: the step it takes next. -/
inductive Phase (κ : Type*)
  | authenticate
  | findPolicy
  | findGrants (policy : ApiKeyPolicy)
  | reserve (policy : ApiKeyPolicy)
  | incrementDailyAccepted (reservation : MinuteReservation κ)
  | runHandler
  | recordResponseClass (status : ℕ)
  -- the slot is given back; a request over its daily limit is then counted as rate limited
  | release (reservation : MinuteReservation κ) (rateLimited : Bool)
  | recordRateLimited
  | answered (answer : Answer)

/-- What a request did to the shared state, or learned from it. Dates are those of the
statements. -/
inductive Event (κ : Type*)
  | denied
  | minuteLimited
  | reserved (reservation : MinuteReservation κ)
  | daily (outcome : DailyAcceptedOutcome) (date : ℕ)
  | handled
  | counted (counter : UsageResponseClass) (date : ℕ)
  | released
  | rateLimited (date : ℕ)
  | counterFailed
  deriving DecidableEq

structure Request (κ : Type*) where
  key : κ
  capability : Capability
  phase : Phase κ
  log : List (Event κ)

abbrev Usage (κ : Type*) := κ → ℕ → Option UsageRow

structure State (κ : Type*) where
  clock : ℕ
  date : ℕ
  policies : κ → Option ApiKeyPolicy
  windows : Windows κ
  usage : Usage κ
  requests : List (Request κ)

def State.init {κ : Type*} (policies : κ → Option ApiKeyPolicy) : State κ where
  clock := 0
  date := 0
  policies := policies
  windows := fun _ => none
  usage := fun _ _ => none
  requests := []

inductive AuthError
  | unauthorized | databaseUnavailable

def AuthError.answer : AuthError → ApiError
  | .unauthorized => .unauthorized
  | .databaseUnavailable => .databaseUnavailableForAuth

/-- How the outside answers a step: a statement or a call succeeds, or it fails; the
credential is refused; the grants of the key are read; the handler responds. -/
inductive Input
  | done
  | fail
  | refuse (error : AuthError)
  | grants (grants : ApiKeyAuthorizationGrants)
  | respond (status : ℕ)

/-- The shared state after a step of a request, the request's next point, and what it did. -/
structure Move (κ : Type*) where
  windows : Windows κ
  usage : Usage κ
  phase : Phase κ
  events : List (Event κ)

variable {κ : Type*} [DecidableEq κ]

/-- The row of `key` on `date` becomes `row`. -/
def Usage.setRow (usage : Usage κ) (key : κ) (date : ℕ) (row : Option UsageRow) : Usage κ :=
  Function.update usage key (Function.update (usage key) date row)

/-- One step of `require_api_key_for`. -/
def advance (s : State κ) (r : Request κ) (input : Input) : Option (Move κ) :=
  let stay (phase : Phase κ) (events : List (Event κ)) : Option (Move κ) :=
    some ⟨s.windows, s.usage, phase, events⟩
  match r.phase, input with
  | .authenticate, .done => stay .findPolicy []
  | .authenticate, .refuse error => stay (.answered (.refused error.answer)) []
  | .findPolicy, .done =>
    match s.policies r.key with
    | some policy => stay (.findGrants policy) []
    | none => stay (.answered (.refused .databaseUnavailableForAuth)) []
  | .findPolicy, .fail => stay (.answered (.refused .databaseUnavailableForAuth)) []
  | .findGrants policy, .grants grants =>
    if isAuthorizedForRoute grants r.capability then stay (.reserve policy) []
    else stay (.answered (.refused .capabilityNotGranted)) [.denied]
  | .findGrants _, .fail => stay (.answered (.refused .databaseUnavailableForAuth)) []
  | .reserve policy, .done =>
    let result := reserveAt s.windows r.key policy.requestsPerMinute s.clock
    match result.2 with
    | none => some ⟨result.1, s.usage, .recordRateLimited, [.minuteLimited]⟩
    | some reservation =>
      some ⟨result.1, s.usage, .incrementDailyAccepted reservation, [.reserved reservation]⟩
  | .incrementDailyAccepted reservation, .done =>
    let result := incrementDailyAccepted (s.policies r.key) (s.usage r.key s.date)
    let phase : Phase κ := match result.2 with
      | .accepted => .runHandler
      | .limitExceeded => .release reservation true
      | .missingPolicy => .release reservation false
    some ⟨s.windows, s.usage.setRow r.key s.date result.1, phase, [.daily result.2 s.date]⟩
  | .incrementDailyAccepted reservation, .fail =>
    stay (.release reservation false) [.counterFailed]
  | .runHandler, .respond status => stay (.recordResponseClass status) [.handled]
  | .recordResponseClass status, .done =>
    match responseClass status with
    | none => stay (.answered (.handled status)) []
    | some counter =>
      some ⟨s.windows,
        s.usage.setRow r.key s.date
          (some (incrementResponseCounter counter (s.usage r.key s.date))),
        .answered (.handled status), [.counted counter s.date]⟩
  -- a failed counter update is only logged
  | .recordResponseClass status, .fail => stay (.answered (.handled status)) [.counterFailed]
  | .release reservation rateLimited, .done =>
    some ⟨release s.windows reservation, s.usage,
      if rateLimited then .recordRateLimited
      else .answered (.refused .databaseUnavailableForAuth), [.released]⟩
  | .recordRateLimited, .done =>
    some ⟨s.windows,
      s.usage.setRow r.key s.date (some (incrementDailyRateLimited (s.usage r.key s.date))),
      .answered (.refused .rateLimited), [.rateLimited s.date]⟩
  | .recordRateLimited, .fail => stay (.answered (.refused .rateLimited)) [.counterFailed]
  | _, _ => none

inductive Label (κ : Type*)
  /-- Time passes, on the monotonic clock and on the database's calendar. -/
  | tick (clock date : ℕ)
  /-- An operator changes or removes a policy. -/
  | setPolicy (key : κ) (policy : Option ApiKeyPolicy)
  | arrive (key : κ) (capability : Capability)
  /-- The request of this number takes its next step. -/
  | act (index : ℕ) (input : Input)

def Request.move (r : Request κ) (m : Move κ) : Request κ :=
  { r with phase := m.phase, log := r.log ++ m.events }

def step (s : State κ) : Label κ → Option (State κ)
  | .tick clock date =>
    if s.clock ≤ clock ∧ s.date ≤ date then some { s with clock := clock, date := date } else none
  | .setPolicy key policy =>
    some { s with policies := Function.update s.policies key policy }
  | .arrive key capability =>
    some { s with requests := s.requests ++ [⟨key, capability, .authenticate, []⟩] }
  | .act index input =>
    (s.requests[index]?).bind fun r =>
      (advance s r input).map fun m =>
        { s with
          windows := m.windows
          usage := m.usage
          requests := s.requests.set index (r.move m) }

/-! ### What a step of a request can do -/

/-- The steps of a request, one constructor for each way through the middleware. -/
inductive Moves (s : State κ) (r : Request κ) : Input → Move κ → Prop
  | authenticated : r.phase = .authenticate → Moves s r .done ⟨s.windows, s.usage, .findPolicy, []⟩
  | refused (error : AuthError) : r.phase = .authenticate →
      Moves s r (.refuse error) ⟨s.windows, s.usage, .answered (.refused error.answer), []⟩
  | policyFound (policy : ApiKeyPolicy) : r.phase = .findPolicy → s.policies r.key = some policy →
      Moves s r .done ⟨s.windows, s.usage, .findGrants policy, []⟩
  | policyMissing (input : Input) : r.phase = .findPolicy →
      Moves s r input ⟨s.windows, s.usage, .answered (.refused .databaseUnavailableForAuth), []⟩
  | allowed (grants : ApiKeyAuthorizationGrants) (policy : ApiKeyPolicy) :
      r.phase = .findGrants policy →
      Moves s r (.grants grants) ⟨s.windows, s.usage, .reserve policy, []⟩
  | denied (grants : ApiKeyAuthorizationGrants) (policy : ApiKeyPolicy) :
      r.phase = .findGrants policy →
      Moves s r (.grants grants)
        ⟨s.windows, s.usage, .answered (.refused .capabilityNotGranted), [.denied]⟩
  | grantsFailed (policy : ApiKeyPolicy) : r.phase = .findGrants policy →
      Moves s r .fail ⟨s.windows, s.usage, .answered (.refused .databaseUnavailableForAuth), []⟩
  | minuteRefused (policy : ApiKeyPolicy) (windows : Windows κ) : r.phase = .reserve policy →
      reserveAt s.windows r.key policy.requestsPerMinute s.clock = (windows, none) →
      Moves s r .done ⟨windows, s.usage, .recordRateLimited, [.minuteLimited]⟩
  | minuteReserved (policy : ApiKeyPolicy) (windows : Windows κ)
      (reservation : MinuteReservation κ) : r.phase = .reserve policy →
      reserveAt s.windows r.key policy.requestsPerMinute s.clock = (windows, some reservation) →
      Moves s r .done
        ⟨windows, s.usage, .incrementDailyAccepted reservation, [.reserved reservation]⟩
  | accepted (reservation : MinuteReservation κ) (row : Option UsageRow) :
      r.phase = .incrementDailyAccepted reservation →
      incrementDailyAccepted (s.policies r.key) (s.usage r.key s.date) = (row, .accepted) →
      Moves s r .done
        ⟨s.windows, s.usage.setRow r.key s.date row, .runHandler, [.daily .accepted s.date]⟩
  | notAccepted (reservation : MinuteReservation κ) (outcome : DailyAcceptedOutcome) :
      r.phase = .incrementDailyAccepted reservation → outcome ≠ .accepted →
      Moves s r .done ⟨s.windows, s.usage,
        .release reservation (decide (outcome = .limitExceeded)), [.daily outcome s.date]⟩
  | dailyFailed (reservation : MinuteReservation κ) :
      r.phase = .incrementDailyAccepted reservation →
      Moves s r .fail ⟨s.windows, s.usage, .release reservation false, [.counterFailed]⟩
  | handled (status : ℕ) : r.phase = .runHandler →
      Moves s r (.respond status) ⟨s.windows, s.usage, .recordResponseClass status, [.handled]⟩
  | counted (status : ℕ) (counter : UsageResponseClass) : r.phase = .recordResponseClass status →
      responseClass status = some counter → Moves s r .done ⟨s.windows,
        s.usage.setRow r.key s.date
          (some (incrementResponseCounter counter (s.usage r.key s.date))),
        .answered (.handled status), [.counted counter s.date]⟩
  | uncounted (status : ℕ) : r.phase = .recordResponseClass status →
      Moves s r .done ⟨s.windows, s.usage, .answered (.handled status), []⟩
  | countFailed (status : ℕ) : r.phase = .recordResponseClass status →
      Moves s r .fail ⟨s.windows, s.usage, .answered (.handled status), [.counterFailed]⟩
  | released (reservation : MinuteReservation κ) (rateLimited : Bool) :
      r.phase = .release reservation rateLimited →
      Moves s r .done ⟨release s.windows reservation, s.usage,
        if rateLimited then .recordRateLimited
        else .answered (.refused .databaseUnavailableForAuth), [.released]⟩
  | rateLimited : r.phase = .recordRateLimited →
      Moves s r .done ⟨s.windows,
        s.usage.setRow r.key s.date (some (incrementDailyRateLimited (s.usage r.key s.date))),
        .answered (.refused .rateLimited), [.rateLimited s.date]⟩
  | rateLimitedFailed : r.phase = .recordRateLimited →
      Moves s r .fail ⟨s.windows, s.usage, .answered (.refused .rateLimited), [.counterFailed]⟩

@[simp] lemma setRow_self (usage : Usage κ) (key : κ) (date : ℕ) :
    usage.setRow key date (usage key date) = usage := by
  simp [Usage.setRow]

lemma setRow_apply (usage : Usage κ) (key key' : κ) (date date' : ℕ) (row : Option UsageRow) :
    usage.setRow key date row key' date' =
      if key' = key ∧ date' = date then row else usage key' date' := by
  unfold Usage.setRow
  by_cases hk : key' = key
  · subst hk
    by_cases hd : date' = date
    · subst hd
      simp
    · simp [hd]
  · simp [hk]

lemma incrementDailyAccepted_row {policy : Option ApiKeyPolicy} {row : Option UsageRow}
    (h : (incrementDailyAccepted policy row).2 ≠ .accepted) :
    (incrementDailyAccepted policy row).1 = row := by
  unfold incrementDailyAccepted at h ⊢
  split
  · rfl
  · split
    · rfl
    · split <;> grind

lemma advance_moves {s : State κ} {r : Request κ} {input : Input} {m : Move κ}
    (h : advance s r input = some m) : Moves s r input m := by
  unfold advance at h
  cases hp : r.phase with
  | authenticate =>
    cases input <;> simp only [hp, reduceCtorEq, Option.some.injEq] at h <;> subst h
    · exact .authenticated hp
    · exact .refused _ hp
  | findPolicy =>
    cases input <;> simp only [hp, reduceCtorEq, Option.some.injEq] at h
    · split at h <;> simp only [Option.some.injEq] at h <;> subst h
      · exact .policyFound _ hp ‹_›
      · exact .policyMissing _ hp
    · subst h
      exact .policyMissing _ hp
  | findGrants policy =>
    cases input <;> simp only [hp, reduceCtorEq, Option.some.injEq] at h
    · subst h
      exact .grantsFailed policy hp
    · split at h <;> simp only [Option.some.injEq] at h <;> subst h
      · exact .allowed _ policy hp
      · exact .denied _ policy hp
  | reserve policy =>
    cases input <;> simp only [hp, reduceCtorEq] at h
    split at h <;> simp only [Option.some.injEq] at h <;> subst h <;> rename_i hr
    · exact .minuteRefused policy _ hp (Prod.ext rfl hr)
    · exact .minuteReserved policy _ _ hp (Prod.ext rfl hr)
  | incrementDailyAccepted reservation =>
    cases input <;> simp only [hp, reduceCtorEq, Option.some.injEq] at h <;> subst h
    · cases ho : (incrementDailyAccepted (s.policies r.key) (s.usage r.key s.date)).2 with
      | accepted => exact .accepted reservation _ hp (Prod.ext rfl ho)
      | limitExceeded =>
        rw [incrementDailyAccepted_row (by rw [ho]; decide), setRow_self]
        exact .notAccepted reservation .limitExceeded hp (by decide)
      | missingPolicy =>
        rw [incrementDailyAccepted_row (by rw [ho]; decide), setRow_self]
        exact .notAccepted reservation .missingPolicy hp (by decide)
    · exact .dailyFailed reservation hp
  | runHandler =>
    cases input <;> simp only [hp, reduceCtorEq, Option.some.injEq] at h
    subst h
    exact .handled _ hp
  | recordResponseClass status =>
    cases input <;> simp only [hp, reduceCtorEq, Option.some.injEq] at h
    · split at h <;> simp only [Option.some.injEq] at h <;> subst h
      · exact .uncounted status hp
      · rename_i hclass
        exact .counted status _ hp hclass
    · subst h
      exact .countFailed status hp
  | release reservation rateLimited =>
    cases input <;> simp only [hp, reduceCtorEq, Option.some.injEq] at h
    subst h
    exact .released reservation rateLimited hp
  | recordRateLimited =>
    cases input <;> simp only [hp, reduceCtorEq, Option.some.injEq] at h <;> subst h
    · exact .rateLimited hp
    · exact .rateLimitedFailed hp
  | answered answer => cases input <;> simp [hp] at h

/-- The state after a step of the request `r`, which stands between the others. -/
def State.after (s : State κ) (others : List (Request κ) × List (Request κ)) (r : Request κ)
    (m : Move κ) : State κ :=
  { s with
    windows := m.windows, usage := m.usage, requests := others.1 ++ r.move m :: others.2 }

/-- A request's step touches that request only, and the shared state as `Moves` says. -/
lemma step_act {s s' : State κ} {index : ℕ} {input : Input}
    (h : step s (.act index input) = some s') :
    ∃ others r m, s.requests = others.1 ++ r :: others.2 ∧ others.1.length = index ∧
      Moves s r input m ∧ s' = s.after others r m := by
  obtain ⟨r, hr, h⟩ := Option.bind_eq_some_iff.mp h
  obtain ⟨m, hm, rfl⟩ := Option.map_eq_some_iff.mp h
  obtain ⟨hlt, hget⟩ := List.getElem?_eq_some_iff.mp hr
  refine ⟨(s.requests.take index, s.requests.drop (index + 1)), r, m, ?_, by simp; omega,
    advance_moves hm, ?_⟩
  · rw [← hget, ← List.drop_eq_getElem_cons hlt, List.take_append_drop]
  · rw [List.set_eq_take_append_cons_drop, if_pos hlt]
    rfl

lemma step_cases {s s' : State κ} {label : Label κ} (h : step s label = some s') :
    (∃ clock date, label = .tick clock date ∧ s.clock ≤ clock ∧ s.date ≤ date ∧
      s' = { s with clock := clock, date := date }) ∨
    (∃ key policy, label = .setPolicy key policy ∧
      s' = { s with policies := Function.update s.policies key policy }) ∨
    (∃ key capability, label = .arrive key capability ∧
      s' = { s with requests := s.requests ++ [⟨key, capability, .authenticate, []⟩] }) ∨
    (∃ input others r m, label = .act others.1.length input ∧
      s.requests = others.1 ++ r :: others.2 ∧ Moves s r input m ∧ s' = s.after others r m) := by
  cases label with
  | tick clock date =>
    simp only [step] at h
    split at h <;> simp only [reduceCtorEq, Option.some.injEq] at h
    rename_i hle
    exact Or.inl ⟨clock, date, rfl, hle.1, hle.2, h.symm⟩
  | setPolicy key policy =>
    simp only [step, Option.some.injEq] at h
    exact Or.inr (Or.inl ⟨key, policy, rfl, h.symm⟩)
  | arrive key capability =>
    simp only [step, Option.some.injEq] at h
    exact Or.inr (Or.inr (Or.inl ⟨key, capability, rfl, h.symm⟩))
  | act index input =>
    obtain ⟨others, r, m, hs, rfl, hm, h⟩ := step_act h
    exact Or.inr (Or.inr (Or.inr ⟨input, others, r, m, rfl, hs, hm, h⟩))

lemma log_step {s s' : State κ} {label : Label κ} (h : step s label = some s') {index : ℕ}
    {r : Request κ} (hr : s.requests[index]? = some r) :
    ∃ r', s'.requests[index]? = some r' ∧ r.log <+: r'.log := by
  obtain ⟨clock, date, -, -, -, rfl⟩ | ⟨key, policy, -, rfl⟩ | ⟨key, capability, -, rfl⟩ |
    ⟨input, others, r', m, -, hs, -, rfl⟩ := step_cases h
  · exact ⟨r, hr, List.prefix_rfl⟩
  · exact ⟨r, hr, List.prefix_rfl⟩
  · have hlt := (List.getElem?_eq_some_iff.mp hr).1
    exact ⟨r, by rw [List.getElem?_append_left hlt, hr], List.prefix_rfl⟩
  · rw [hs] at hr
    by_cases hi : index = others.1.length
    · subst hi
      simp only [List.getElem?_append_right le_rfl, Nat.sub_self, List.getElem?_cons_zero,
        Option.some.injEq] at hr
      subst hr
      exact ⟨r'.move m, by simp [State.after], List.prefix_append _ _⟩
    · refine ⟨r, ?_, List.prefix_rfl⟩
      rw [← hr]
      simp only [State.after, List.getElem?_append]
      split
      · rfl
      · obtain ⟨k, hk⟩ : ∃ k, index - others.1.length = k + 1 :=
          ⟨index - others.1.length - 1, by omega⟩
        simp [hk]

lemma log_run {s t : State κ} {labels : List (Label κ)} (h : run step s labels = some t)
    {index : ℕ} {r : Request κ} (hr : s.requests[index]? = some r) :
    ∃ r', t.requests[index]? = some r' ∧ r.log <+: r'.log := by
  refine inv_of_run (fun t : State κ => ∃ r', t.requests[index]? = some r' ∧ r.log <+: r'.log) ?_
    ⟨r, hr, List.prefix_rfl⟩ h
  rintro u label v ⟨r', hr', hlog⟩ hstep
  obtain ⟨r'', hr'', hlog'⟩ := log_step hstep hr'
  exact ⟨r'', hr'', hlog.trans hlog'⟩

/-- A property of single requests that new requests have and that moves keep. -/
lemma forall_requests_step {P : Request κ → Prop} {s s' : State κ} {label : Label κ}
    (hnew : ∀ key capability, P ⟨key, capability, .authenticate, []⟩)
    (hmove : ∀ index input r m, label = .act index input → s.requests[index]? = some r →
      P r → Moves s r input m → P (r.move m))
    (h : step s label = some s') (hP : ∀ r ∈ s.requests, P r) : ∀ r ∈ s'.requests, P r := by
  obtain ⟨clock, date, -, -, -, rfl⟩ | ⟨key, policy, -, rfl⟩ | ⟨key, capability, -, rfl⟩ |
    ⟨input, others, r, m, hl, hs, hm, rfl⟩ := step_cases h
  · exact hP
  · exact hP
  · intro r hr
    rcases List.mem_append.mp hr with hr | hr
    · exact hP r hr
    · rw [List.mem_singleton.mp hr]
      exact hnew key capability
  · rw [hs] at hP
    simp only [State.after, List.forall_mem_append, List.forall_mem_cons] at hP ⊢
    exact ⟨hP.1, hmove _ input r m hl (by simp [hs]) hP.2.1 hm, hP.2.2⟩

/-! ### The books -/

/-- How often the requests of `key` did `event`. -/
def State.total (s : State κ) (key : κ) (event : Event κ) : ℕ :=
  (s.requests.map fun r => if r.key = key then r.log.count event else 0).sum

def UsageRow.responses (row : UsageRow) : UsageResponseClass → ℕ
  | .successful => row.successfulResponses
  | .clientError => row.clientErrorResponses
  | .serverError => row.serverErrorResponses

/-- The row of a key's day; a day without a row counts nothing. -/
def State.row (s : State κ) (key : κ) (date : ℕ) : UsageRow := (s.usage key date).getD {}

/-- The events that have a counter in the rows. -/
def Event.booked : Event κ → Prop
  | .daily outcome _ => outcome = .accepted
  | .counted _ _ => True
  | .rateLimited _ => True
  | _ => False

/-- The counter of an event. -/
def State.counter (s : State κ) (key : κ) : Event κ → ℕ
  | .daily _ date => (s.row key date).acceptedRequests
  | .counted counter date => (s.row key date).responses counter
  | .rateLimited date => (s.row key date).rateLimitedRequests
  | _ => 0

/-- Every counter is the number of the statements that counted there. -/
def Books (s : State κ) : Prop :=
  ∀ key event, Event.booked event → s.counter key event = s.total key event

variable {s : State κ} {r : Request κ} {input : Input} {m : Move κ}
  {others : List (Request κ) × List (Request κ)}

lemma total_after (hs : s.requests = others.1 ++ r :: others.2) (key : κ) (event : Event κ) :
    (s.after others r m).total key event =
      s.total key event + if r.key = key then m.events.count event else 0 := by
  simp only [State.total, State.after, hs, List.map_append, List.map_cons, List.sum_append,
    List.sum_cons, Request.move, List.count_append]
  split <;> omega

lemma row_after_setRow (others : List (Request κ) × List (Request κ)) (windows : Windows κ)
    (key key' : κ) (date date' : ℕ) (row : Option UsageRow) (phase : Phase κ)
    (events : List (Event κ)) :
    (s.after others r ⟨windows, s.usage.setRow key date row, phase, events⟩).row key' date' =
      if key' = key ∧ date' = date then row.getD {} else s.row key' date' := by
  simp only [State.row, State.after, setRow_apply]
  split <;> rfl

lemma incrementDailyAccepted_accepted {policy : Option ApiKeyPolicy} {row row' : Option UsageRow}
    (h : incrementDailyAccepted policy row = (row', .accepted)) :
    row'.getD {} = { row.getD {} with acceptedRequests := (row.getD {}).acceptedRequests + 1 } ∧
      ∃ p, policy = some p ∧ ((row.getD {}).acceptedRequests : ℤ) < p.requestsPerDay := by
  unfold incrementDailyAccepted at h
  split at h
  · simp at h
  · rename_i p
    split at h
    · simp at h
    · rename_i hpos
      cases row with
      | none =>
        simp only [Prod.mk.injEq, and_true] at h
        subst h
        exact ⟨rfl, p, rfl, by simpa using hpos⟩
      | some row =>
        simp only at h
        split at h
        · rename_i hlt
          simp only [Prod.mk.injEq, and_true] at h
          subst h
          exact ⟨rfl, p, rfl, hlt⟩
        · simp at h

lemma responses_incrementResponseCounter (counter counter' : UsageResponseClass)
    (row : Option UsageRow) :
    (incrementResponseCounter counter row).responses counter' =
      (row.getD {}).responses counter' + if counter = counter' then 1 else 0 := by
  cases counter <;> cases counter' <;> rfl

lemma others_incrementResponseCounter (counter : UsageResponseClass) (row : Option UsageRow) :
    (incrementResponseCounter counter row).acceptedRequests = (row.getD {}).acceptedRequests ∧
      (incrementResponseCounter counter row).rateLimitedRequests =
        (row.getD {}).rateLimitedRequests := by
  cases counter <;> exact ⟨rfl, rfl⟩

lemma responses_incrementDailyRateLimited (counter : UsageResponseClass)
    (row : Option UsageRow) :
    (incrementDailyRateLimited row).responses counter = (row.getD {}).responses counter := by
  cases counter <;> rfl

/-- The day whose row counts an event. -/
def Event.day : Event κ → ℕ
  | .daily _ date | .counted _ date | .rateLimited date => date
  | _ => 0

/-- What a row counts of an event. -/
def UsageRow.counter (row : UsageRow) : Event κ → ℕ
  | .daily _ _ => row.acceptedRequests
  | .counted counter _ => row.responses counter
  | .rateLimited _ => row.rateLimitedRequests
  | _ => 0

omit [DecidableEq κ] in
lemma counter_eq (s : State κ) (key : κ) (event : Event κ) :
    s.counter key event = (s.row key event.day).counter event := by
  cases event <;> rfl

/-- A new row for the day, which counts one event more, moves the counters by that event. -/
lemma counter_after_setRow {windows : Windows κ} {row : Option UsageRow} {phase : Phase κ}
    {done : Event κ} (hday : done.day = s.date)
    (hrow : ∀ event : Event κ, Event.booked event → event.day = s.date →
      (row.getD {}).counter event =
        (s.row r.key s.date).counter event + if event = done then 1 else 0)
    (key : κ) {event : Event κ} (he : Event.booked event) :
    (s.after others r ⟨windows, s.usage.setRow r.key s.date row, phase, [done]⟩).counter key event =
      s.counter key event + if r.key = key then [done].count event else 0 := by
  rw [counter_eq, counter_eq, row_after_setRow, List.count_singleton]
  by_cases hkey : r.key = key
  · subst hkey
    by_cases hdate : event.day = s.date
    · rw [if_pos ⟨rfl, hdate⟩, hrow event he hdate, hdate, if_pos rfl]
      simp [eq_comm (a := done)]
    · have hne : done ≠ event := fun h => hdate (h ▸ hday)
      rw [if_neg fun h => hdate h.2]
      simp [hne]
  · rw [if_neg fun h => hkey h.1.symm, if_neg hkey, Nat.add_zero]

/-- A counter moves by the number of times the step did what is counted there. -/
lemma counter_after (hm : Moves s r input m) (key : κ) {event : Event κ}
    (he : Event.booked event) :
    (s.after others r m).counter key event =
      s.counter key event + if r.key = key then m.events.count event else 0 := by
  cases hm with
  | accepted reservation row hp h =>
    obtain ⟨hrow, -⟩ := incrementDailyAccepted_accepted h
    refine counter_after_setRow rfl (fun event he hday => ?_) key he
    rw [hrow]
    cases event <;>
      simp_all [Event.booked, Event.day, UsageRow.counter, UsageRow.responses, State.row]
  | counted status counter hp =>
    obtain ⟨haccepted, hlimited⟩ := others_incrementResponseCounter counter (s.usage r.key s.date)
    refine counter_after_setRow rfl (fun event he hday => ?_) key he
    cases event <;> simp_all [Event.booked, Event.day, UsageRow.counter, State.row,
      responses_incrementResponseCounter, eq_comm]
  | rateLimited hp =>
    refine counter_after_setRow rfl (fun event he hday => ?_) key he
    cases event with
    | counted counter date =>
      exact responses_incrementDailyRateLimited counter (s.usage r.key s.date)
    | _ =>
      simp_all [Event.booked, Event.day, UsageRow.counter, State.row, incrementDailyRateLimited]
  | _ => cases event <;> simp_all [Event.booked, State.counter, State.row, State.after]

/-- The books stay in order, whatever the requests, the clocks and the operators do. -/
lemma books_step {s s' : State κ} {label : Label κ} (hb : Books s)
    (h : step s label = some s') : Books s' := by
  obtain ⟨clock, date, -, -, -, rfl⟩ | ⟨key, policy, -, rfl⟩ | ⟨key, capability, -, rfl⟩ |
    ⟨input, others, r, m, -, hs, hm, rfl⟩ := step_cases h
  · exact hb
  · exact hb
  · intro key event he
    have := hb key event he
    simpa [State.total, State.counter, State.row] using this
  · intro key event he
    rw [counter_after hm key he, total_after hs, hb key event he]

lemma books_run {policies : κ → Option ApiKeyPolicy} {labels : List (Label κ)}
    (h : run step (State.init policies) labels = some s) : Books s := by
  refine inv_of_run Books (fun _ _ _ => books_step) ?_ h
  rintro key (_ | _ | _ | _ | _ | ⟨counter, _⟩ | _ | _ | _) -
  all_goals first | rfl | (cases counter <;> rfl)

/-! ### The way of one request -/

/-- What a request has done by the time it stands at a point. -/
inductive Trace : Phase κ → List (Event κ) → Prop
  | authenticate : Trace .authenticate []
  | findPolicy : Trace .findPolicy []
  | findGrants (policy : ApiKeyPolicy) : Trace (.findGrants policy) []
  | reserve (policy : ApiKeyPolicy) : Trace (.reserve policy) []
  | turnedAway (error : ApiError) : error ≠ .rateLimited → error ≠ .capabilityNotGranted →
      Trace (.answered (.refused error)) []
  | denied : Trace (.answered (.refused .capabilityNotGranted)) [.denied]
  | minuteLimited : Trace .recordRateLimited [.minuteLimited]
  | reserved (reservation : MinuteReservation κ) :
      Trace (.incrementDailyAccepted reservation) [.reserved reservation]
  | admitted (reservation : MinuteReservation κ) (date : ℕ) :
      Trace .runHandler [.reserved reservation, .daily .accepted date]
  | handled (reservation : MinuteReservation κ) (date status : ℕ) :
      Trace (.recordResponseClass status)
        [.reserved reservation, .daily .accepted date, .handled]
  | served (reservation : MinuteReservation κ) (date status : ℕ) (last : List (Event κ)) :
      (last = [] ∨ last = [.counterFailed] ∨ ∃ counter date', last = [.counted counter date']) →
      Trace (.answered (.handled status))
        (.reserved reservation :: .daily .accepted date :: .handled :: last)
  | exceeded (reservation : MinuteReservation κ) (date : ℕ) :
      Trace (.release reservation true) [.reserved reservation, .daily .limitExceeded date]
  | dailyLimited (reservation : MinuteReservation κ) (date : ℕ) :
      Trace .recordRateLimited
        [.reserved reservation, .daily .limitExceeded date, .released]
  | undone (reservation : MinuteReservation κ) (event : Event κ) :
      (event = .counterFailed ∨ ∃ date, event = .daily .missingPolicy date) →
      Trace (.release reservation false) [.reserved reservation, event]
  | closed (reservation : MinuteReservation κ) (event : Event κ) :
      (event = .counterFailed ∨ ∃ date, event = .daily .missingPolicy date) →
      Trace (.answered (.refused .databaseUnavailableForAuth))
        [.reserved reservation, event, .released]
  | limited (log : List (Event κ)) (last : Event κ) : Trace .recordRateLimited log →
      (last = .counterFailed ∨ ∃ date, last = .rateLimited date) →
      Trace (.answered (.refused .rateLimited)) (log ++ [last])

omit [DecidableEq κ] in
lemma AuthError.answer_ne (error : AuthError) :
    error.answer ≠ .rateLimited ∧ error.answer ≠ .capabilityNotGranted := by
  cases error <;> exact ⟨by decide, by decide⟩

lemma Trace.move (ht : Trace r.phase r.log) (hm : Moves s r input m) :
    Trace (r.move m).phase (r.move m).log := by
  obtain ⟨key, capability, phase, log⟩ := r
  simp only [Request.move] at ht ⊢
  cases hm with
  | authenticated hp =>
    subst hp
    cases ht
    exact .findPolicy
  | refused error hp =>
    subst hp
    cases ht
    exact .turnedAway _ error.answer_ne.1 error.answer_ne.2
  | policyFound policy hp =>
    subst hp
    cases ht
    exact .findGrants policy
  | policyMissing input hp =>
    subst hp
    cases ht
    exact .turnedAway _ (by decide) (by decide)
  | allowed grants policy hp =>
    subst hp
    cases ht
    exact .reserve policy
  | denied grants policy hp =>
    subst hp
    cases ht
    exact .denied
  | grantsFailed policy hp =>
    subst hp
    cases ht
    exact .turnedAway _ (by decide) (by decide)
  | minuteRefused policy windows hp =>
    subst hp
    cases ht
    exact .minuteLimited
  | minuteReserved policy windows reservation hp =>
    subst hp
    cases ht
    exact .reserved reservation
  | accepted reservation row hp =>
    subst hp
    cases ht
    exact .admitted reservation s.date
  | notAccepted reservation outcome hp hne =>
    subst hp
    cases ht
    cases outcome with
    | accepted => exact absurd rfl hne
    | limitExceeded => exact .exceeded reservation s.date
    | missingPolicy => exact .undone reservation _ (Or.inr ⟨s.date, rfl⟩)
  | dailyFailed reservation hp =>
    subst hp
    cases ht
    exact .undone reservation _ (Or.inl rfl)
  | handled status hp =>
    subst hp
    cases ht
    exact .handled _ _ status
  | counted status counter hp =>
    subst hp
    cases ht
    exact .served _ _ status _ (Or.inr (Or.inr ⟨counter, s.date, rfl⟩))
  | uncounted status hp =>
    subst hp
    cases ht
    exact .served _ _ status _ (Or.inl rfl)
  | countFailed status hp =>
    subst hp
    cases ht
    exact .served _ _ status _ (Or.inr (Or.inl rfl))
  | released reservation rateLimited hp =>
    subst hp
    cases ht with
    | exceeded _ date => exact .dailyLimited reservation date
    | undone _ event h => exact .closed reservation event h
  | rateLimited hp =>
    subst hp
    exact .limited log _ ht (Or.inr ⟨s.date, rfl⟩)
  | rateLimitedFailed hp =>
    subst hp
    exact .limited log _ ht (Or.inl rfl)

lemma trace_run {policies : κ → Option ApiKeyPolicy} {labels : List (Label κ)}
    (h : run step (State.init policies) labels = some s) :
    ∀ r ∈ s.requests, Trace r.phase r.log := by
  refine inv_of_run (fun s => ∀ r ∈ s.requests, Trace r.phase r.log) ?_ (by simp [State.init]) h
  intro s label s' hs hstep
  exact forall_requests_step (fun _ _ => .authenticate)
    (fun _ _ _ _ _ _ ht hm => ht.move hm) hstep hs

end MotherApi.RequestAdmission
