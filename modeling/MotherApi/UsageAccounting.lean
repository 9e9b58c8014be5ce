import MotherApi.RequestAdmission
import Mathlib.Algebra.Order.BigOperators.Group.List

/-!
The responses counted in a row of `api_key_usage_daily`, against the requests accepted there.

The request is counted by one statement and its response by another, each under the date on
which it runs. The two dates are the same unless midnight falls between them, and then the
response is counted in a row that has no request for it.
-/

namespace MotherApi.UsageAccounting

open MotherApi.Capabilities MotherApi.RequestAdmission MotherApi.Lib.Runs

variable {κ : Type*} [DecidableEq κ]

/-- A response that is counted is counted on the date on which its request was accepted. -/
def SameDay (s : State κ) : Label κ → Prop
  | .act index .done => ∀ r, s.requests[index]? = some r → ∀ status,
      r.phase = .recordResponseClass status → responseClass status ≠ none →
        .daily .accepted s.date ∈ r.log
  | _ => True

/-- Where the request counted a response, it counted itself. -/
def CountedWhereAccepted (log : List (Event κ)) : Prop :=
  ∀ counter date, .counted counter date ∈ log → .daily .accepted date ∈ log

/-- The responses a request counted in the row of `date`. -/
def responses (log : List (Event κ)) (date : ℕ) : ℕ :=
  log.count (.counted .successful date) + log.count (.counted .clientError date) +
    log.count (.counted .serverError date)

lemma responses_le_of_trace {phase : Phase κ} {log : List (Event κ)} (ht : Trace phase log)
    (hc : CountedWhereAccepted log) (date : ℕ) :
    responses log date ≤ log.count (.daily .accepted date) := by
  cases ht with
  | served reservation date' status last hlast =>
    rcases hlast with rfl | rfl | ⟨counter, date'', rfl⟩
    · simp [responses, List.count_cons]
    · simp [responses, List.count_cons]
    · have hd := hc counter date'' (by simp)
      simp only [List.mem_cons, reduceCtorEq, false_or, List.not_mem_nil, or_false,
        Event.daily.injEq, true_and] at hd
      subst hd
      cases counter <;> simp [responses, List.count_cons]
  | limited log last hlog hlast =>
    have hout : ∀ counter, Event.counted counter date ∉ log ++ [last] := by
      intro counter
      cases hlog <;> rcases hlast with rfl | ⟨_, rfl⟩ <;> simp
    simp [responses, List.count_eq_zero.mpr (hout _)]
  | undone reservation event h => rcases h with rfl | ⟨_, rfl⟩ <;> simp [responses]
  | closed reservation event h => rcases h with rfl | ⟨_, rfl⟩ <;> simp [responses]
  | _ => simp [responses, List.count_cons]

lemma countedWhereAccepted_move {s : State κ} {r : Request κ} {input : Input} {m : Move κ}
    (hm : Moves s r input m) (hc : CountedWhereAccepted r.log)
    (hday : input = .done → ∀ status, r.phase = .recordResponseClass status →
      responseClass status ≠ none → .daily .accepted s.date ∈ r.log) :
    CountedWhereAccepted (r.move m).log := by
  intro counter date hmem
  rcases List.mem_append.mp hmem with hmem | hmem
  · exact List.mem_append_left _ (hc counter date hmem)
  · cases hm with
    | counted status counter' hp hclass =>
      simp only [List.mem_singleton, Event.counted.injEq] at hmem
      rw [hmem.2]
      exact List.mem_append_left _ (hday rfl status hp (by simp [hclass]))
    | _ => simp at hmem

lemma countedWhereAccepted_run {policies : κ → Option ApiKeyPolicy} {labels : List (Label κ)}
    {s : State κ} (hday : Along step SameDay (State.init policies) labels)
    (h : run step (State.init policies) labels = some s) :
    ∀ r ∈ s.requests, CountedWhereAccepted r.log := by
  refine inv_of_along (fun s => ∀ r ∈ s.requests, CountedWhereAccepted r.log) ?_
    (by simp [State.init]) hday h
  intro s label s' hs hlabel hstep
  refine forall_requests_step (fun _ _ => by simp [CountedWhereAccepted]) ?_ hstep hs
  intro index input r m hl hr hc hm
  refine countedWhereAccepted_move hm hc ?_
  rintro rfl
  subst hl
  exact hlabel r hr

/-- **Every row counts at most as many responses as requests, as long as no response is counted
on another date than its request.** This holds after every run of arriving and moving requests,
of clocks that go on and policies that change. -/
theorem responses_le_accepted (policies : κ → Option ApiKeyPolicy) (labels : List (Label κ))
    (s : State κ) (hday : Along step SameDay (State.init policies) labels)
    (h : run step (State.init policies) labels = some s) (key : κ) (date : ℕ) :
    (s.row key date).successfulResponses + (s.row key date).clientErrorResponses +
      (s.row key date).serverErrorResponses ≤ (s.row key date).acceptedRequests := by
  have hbooks := books_run h
  have h1 := hbooks key (.counted .successful date) trivial
  have h2 := hbooks key (.counted .clientError date) trivial
  have h3 := hbooks key (.counted .serverError date) trivial
  have h4 := hbooks key (.daily .accepted date) rfl
  simp only [State.counter, UsageRow.responses] at h1 h2 h3 h4
  rw [h1, h2, h3, h4]
  have htrace := trace_run h
  have hcounted := countedWhereAccepted_run hday h
  simp only [State.total, ← List.sum_map_add]
  refine List.sum_le_sum fun r hr => ?_
  split
  · exact responses_le_of_trace (htrace r hr) (hcounted r hr) date
  · simp

/-- One request, from its arrival to its answer; its last statement ends as `last` on `date`. -/
def servedUntil (index date : ℕ) (last : Input) : List (Label Unit) :=
  [.arrive () .pricesRead,
    .act index .done,
    .act index .done,
    .act index
      (.grants ⟨[⟨.pricesRead, .any, .active⟩], [⟨.pricesRead, .any, .active⟩], none⟩),
    .act index .done,
    .act index .done,
    .act index (.respond 200),
    .tick 0 date,
    .act index last]

/-- A key of ten requests a minute and a hundred a day. -/
def onePolicy : Unit → Option ApiKeyPolicy := fun _ => some ⟨10, 100, by decide, by decide⟩

/-- Whether a response that is counted is counted on the date of its request. -/
def sameDay (s : State Unit) : Label Unit → Bool
  | .act index .done => (s.requests[index]?).all fun r => match r.phase with
    | .recordResponseClass status =>
      (responseClass status).isNone || r.log.contains (.daily .accepted s.date)
    | _ => true
  | _ => true

lemma sameDay_sound (s : State Unit) (label : Label Unit) (h : sameDay s label = true) :
    SameDay s label := by
  cases label with
  | act index input =>
    cases input with
    | done =>
      intro r hr status hphase hclass
      rw [sameDay, hr, Option.all_some, hphase, Bool.or_eq_true, Option.isNone_iff_eq_none] at h
      exact List.contains_iff_mem.mp (h.resolve_left hclass)
    | _ => trivial
  | _ => trivial

/-- A request is served within one day, and the counter of the next one fails after midnight. -/
def servedAndFailed : List (Label Unit) :=
  servedUntil 0 0 .done ++ servedUntil 1 1 .fail

lemma servedAndFailed_sameDay :
    checkAlong step sameDay (State.init onePolicy) servedAndFailed = true := by
  decide

theorem responses_le_accepted_one_day :
    ∃ s, run step (State.init onePolicy) servedAndFailed = some s ∧
      s.row () 0 = { acceptedRequests := 2, successfulResponses := 1 } ∧ s.row () 1 = {} ∧
      (s.row () 0).successfulResponses + (s.row () 0).clientErrorResponses +
        (s.row () 0).serverErrorResponses ≤ (s.row () 0).acceptedRequests :=
  ⟨_, rfl, rfl, rfl, responses_le_accepted onePolicy servedAndFailed _
    (along_of_checkAlong sameDay_sound servedAndFailed_sameDay) rfl () 0⟩

/-- Midnight before the response is counted: the new day has a response and no request. -/
theorem response_after_midnight :
    ∃ s, run step (State.init onePolicy) (servedUntil 0 1 .done) = some s ∧
      s.row () 1 = { acceptedRequests := 0, successfulResponses := 1 } ∧
      ¬ (s.row () 1).successfulResponses + (s.row () 1).clientErrorResponses +
        (s.row () 1).serverErrorResponses ≤ (s.row () 1).acceptedRequests :=
  ⟨_, rfl, rfl, by decide⟩

end MotherApi.UsageAccounting
