import MotherApi.ReportIdempotency

/-!
Delivering a failure twice.

A delivery of a report that changed no row reads the report again before it answers. A delivery of
a failure answers by what it read before its update. Between the two another delivery of the same
failure can be committed, and then the answer is not what the report says.
-/

namespace MotherApi.ReportFailures

open MotherApi.Lib.JsonTrees MotherApi.Lib.Handlers MotherApi.Lib.Runs MotherApi.CanonicalJson
open MotherApi.AsyncReports MotherApi.ReportLifecycle MotherApi.ReportIdempotency Relation

variable {ν δ : Type}

/-- The report has failed. -/
def Failed (reports : Table ν δ) (reportId : String) : Prop :=
  ∃ report ∈ reports, report.publicId = reportId ∧ report.progress.isFailed = true

section

variable [DecidableEq δ] (P : Parameters ν δ)

/-- If the step is the last of a failure in order, and the database had no error, the answer says
whether the report has failed. -/
def Answered (s : World ν δ) (event : Step ν) : Prop :=
  ∀ i outcome s' callback payload answer, event = .advance i outcome →
    step (system P) s event = some s' →
    s'.calls i = some (.fail callback, .done answer) →
    failurePayload callback = .ok payload →
    (∀ report ∈ s'.db, report.publicId = callback.reportId →
      terminalIdentityMatches P report payload = true) →
    answer ≠ .error .databaseUnavailable →
    (answer = .ok (.failed callback.reportId) ↔ Failed s'.db callback.reportId)

/-- If the step is the update of a failure, no other failure came between it and what the call
read. -/
def Undisturbed (s : World ν δ) (event : Step ν) : Prop :=
  ∀ i req reportId existing, event = .advance i .done →
    s.calls i = some (req, .failReport reportId existing) → Failed s.db reportId →
    existing.progress.isFailed = true

end

variable {P : Parameters ν δ} {T : Set (List Char)}

/-! ### One update -/

lemma not_isOpen_of_isFailed {progress : Progress ν δ} (h : progress.isFailed = true) :
    progress.isOpen = false := by
  cases progress with
  | failed => rfl
  | _ => cases h

lemma fail_updated_iff {reports : Table ν δ} (hok : TableOk P T reports) {reportId : String} :
    (AsyncReports.fail reports reportId).2 = true ↔
      ∃ report ∈ reports, report.publicId = reportId ∧ report.progress.isOpen = true := by
  have hone : (updateWhere reports reportId Progress.isOpen (.failed "execution_failed")).2 = 1 ↔
      ∃ report ∈ reports, report.publicId = reportId ∧ report.progress.isOpen = true :=
    updateWhere_snd_eq_one hok.ids
  rw [← hone]
  exact beq_iff_eq

lemma not_failed_of_updated {reports : Table ν δ} (hok : TableOk P T reports) {reportId : String}
    (h : (AsyncReports.fail reports reportId).2 = true) : ¬Failed reports reportId := by
  obtain ⟨report, hmem, hid, hopen⟩ := (fail_updated_iff hok).mp h
  rintro ⟨report', hmem', hid', hfailed⟩
  rw [eq_of_publicId hok hmem' hmem (hid'.trans hid.symm)] at hfailed
  rw [not_isOpen_of_isFailed hfailed] at hopen
  cases hopen

/-- After the update the report has failed exactly if it was open or had failed. -/
lemma failed_fail_iff {reports : Table ν δ} (hok : TableOk P T reports) {reportId : String} :
    Failed (AsyncReports.fail reports reportId).1 reportId ↔
      (AsyncReports.fail reports reportId).2 = true ∨ Failed reports reportId := by
  constructor
  · rintro ⟨report, hmem, hid, hfailed⟩
    obtain ⟨before, hbefore, ⟨rfl, -⟩ | ⟨-, hid', hopen⟩⟩ := mem_updateWhere hmem
    · exact Or.inr ⟨report, hbefore, hid, hfailed⟩
    · exact Or.inl ((fail_updated_iff hok).mpr ⟨before, hbefore, hid', hopen⟩)
  · rintro (hupdated | ⟨report, hmem, hid, hfailed⟩)
    · obtain ⟨report, hmem, hid, hopen⟩ := (fail_updated_iff hok).mp hupdated
      exact ⟨_, mem_updateWhere_of_matching hmem hid hopen, hid, rfl⟩
    · obtain ⟨progress, hmoves, hmem'⟩ := later_fail reports reportId report hmem
      rw [eq_of_not_isOpen (not_isOpen_of_isFailed hfailed) hmoves] at hmem'
      exact ⟨report, hmem', hid, hfailed⟩

/-! ### The last statement of a failure -/

lemma failed_of_existing {s : World ν δ} (h : Reached P T s) {i : ℕ} {callback : Callback ν}
    {reportId : String} {existing : AsyncReport ν δ}
    (hcall : s.calls i = some (.fail callback, .failReport reportId existing))
    (hfailed : existing.progress.isFailed = true) : Failed s.db reportId := by
  obtain ⟨-, hid, -, progress, hmoves, hmem⟩ := (h.calls i _ _ hcall).2
  rw [eq_of_not_isOpen (not_isOpen_of_isFailed hfailed) hmoves] at hmem
  exact ⟨existing, hmem, hid, hfailed⟩

section

variable [DecidableEq δ]

/-- The last statement of a failure, by the point it was at. -/
lemma failure_cases {s s' : World ν δ} (h : Reached P T s) {i : ℕ} {outcome : Outcome}
    (hstep : step (system P) s (.advance i outcome) = some s') {callback : Callback ν}
    {answer : Except ApiError Answer}
    (hdone : s'.calls i = some (.fail callback, .done answer)) {payload : JsonObject ν}
    (hpayload : failurePayload callback = .ok payload) :
    answer = .error .databaseUnavailable ∨
    (s'.db = s.db ∧ afterFindToFail P callback.reportId payload
      (find s.db callback.reportId) = .done answer) ∨
    ∃ existing, outcome = .done ∧
      s.calls i = some (.fail callback, .failReport callback.reportId existing) ∧
      s'.db = (AsyncReports.fail s.db callback.reportId).1 ∧
      (answer = .ok (.failed callback.reportId) ↔
        (AsyncReports.fail s.db callback.reportId).2 = true ∨
          existing.progress.isFailed = true) := by
  obtain ⟨point, hcall, hadvance⟩ := step_advance hstep hdone
  have hrelies : FailRelies P s.db callback point := (h.calls i _ _ hcall).2
  have hadvance : advance P s.db point outcome = some (s'.db, .done answer) := hadvance
  cases point with
  | findToFail reportId payload' =>
    obtain ⟨rfl, hpayload'⟩ := hrelies
    rw [hpayload] at hpayload'
    cases hpayload'
    cases outcome <;> simp only [advance, databaseError, Option.some.injEq, Prod.mk.injEq,
      Point.done.injEq] at hadvance
    · exact Or.inr (Or.inl ⟨hadvance.1.symm, hadvance.2⟩)
    · exact Or.inl hadvance.2.symm
    · exact Or.inl hadvance.2.symm
  | failReport reportId existing =>
    obtain ⟨rfl, -⟩ := hrelies
    cases outcome <;> simp only [advance, databaseError, Option.some.injEq, Prod.mk.injEq,
      Point.done.injEq] at hadvance
    · obtain ⟨hdb, hanswer⟩ := hadvance
      refine Or.inr (Or.inr ⟨existing, rfl, hcall, hdb.symm, ?_⟩)
      rw [← Bool.or_eq_true]
      split at hanswer
      · rename_i hcondition
        cases hanswer
        exact iff_of_true rfl hcondition
      · rename_i hcondition
        cases hanswer
        exact iff_of_false (by simp) hcondition
    · exact Or.inl hadvance.2.symm
    · exact Or.inl hadvance.2.symm
  | done => cases hadvance
  | _ => cases hrelies

/-- The answer of the update is what the report says if no failure came in between. -/
lemma answered_of_undisturbed {s : World ν δ} (h : Reached P T s) {event : Step ν}
    (hevent : Undisturbed s event) : Answered P s event := by
  rintro i outcome s' callback payload answer rfl hstep hdone hpayload hmatches hdatabase
  rcases failure_cases h hstep hdone hpayload with hanswer | ⟨hsame, hanswer⟩ |
    ⟨existing, rfl, hcall, hdb, hanswer⟩
  · exact absurd hanswer hdatabase
  · rw [hsame] at hmatches ⊢
    rw [Failed, exists_publicId_iff h.db]
    unfold afterFindToFail at hanswer
    split at hanswer
    · rename_i hnone
      cases hanswer
      simp [hnone]
    · rename_i existing hfound
      obtain ⟨hmem, hid⟩ := find_eq_some hfound
      rw [if_pos (hmatches existing hmem hid)] at hanswer
      cases hanswer
  · rw [hdb, failed_fail_iff h.db, hanswer]
    refine or_congr_right ⟨failed_of_existing h hcall, fun hfailed => ?_⟩
    exact hevent i _ callback.reportId existing rfl hcall hfailed

/-- If a failure came in between, the update changes no row, and its answer is a conflict. -/
lemma undisturbed_of_answered {s : World ν δ} (h : Reached P T s) {event : Step ν}
    (hevent : Answered P s event) : Undisturbed s event := by
  rintro i req reportId existing rfl hcall hfailed
  have hrelies := (h.calls i _ _ hcall).2
  cases req with
  | create call =>
    have hrelies : Relies P s.db (.create call) (.failReport reportId existing) := hrelies
    cases hcommand : createCommand P call with
    | ok request => simp [Relies, hcommand, CreateRelies] at hrelies
    | error error => simp [Relies, hcommand] at hrelies
  | complete callback => cases hrelies
  | fail callback =>
    obtain ⟨rfl, hid, ⟨payload, hpayload, hmatches⟩, progress, -, hmem⟩ := hrelies
    by_contra hexisting
    have hnot : (AsyncReports.fail s.db callback.reportId).2 ≠ true :=
      fun hupdated => not_failed_of_updated h.db hupdated hfailed
    have hstep : step (system P) s (.advance i .done) =
        some (s.put (AsyncReports.fail s.db callback.reportId).1 i (.fail callback)
          (.done (.error .idempotencyConflict))) := by
      simp [step, hcall, system, advance, hnot, hexisting]
    have hiff := hevent i .done _ callback payload (.error .idempotencyConflict) rfl hstep
      (by simp) hpayload (fun report hreport hreportId => ?_) (by simp)
    · have hafter : Failed (AsyncReports.fail s.db callback.reportId).1 callback.reportId :=
        (failed_fail_iff h.db).mpr (Or.inr hfailed)
      cases hiff.mpr hafter
    · obtain ⟨progress', -, hmem'⟩ := later_fail s.db callback.reportId _ hmem
      have hafter : Reached P T _ := ((keeps P T).step later_refl h
        (e := .advance i .done) trivial hstep).1
      rw [eq_of_publicId hafter.db hreport hmem' (hreportId.trans hid.symm)]
      exact hmatches

/-- **A failure is answered by what the report says exactly if nothing came in between**: in every
run, every failure in order that meets no error of the database answers that the report has failed
if and only if it has, exactly if no update of a failure finds a report failed that the call read
when it had not. -/
theorem failures_answered_iff (P : Parameters ν δ) (events : List (Step ν)) :
    Along (step (system P)) (Answered P) (start []) events ↔
      Along (step (system P)) Undisturbed (start []) events := by
  refine along_iff_of_inv (Reached P Set.univ) (fun s event s' h hstep => ?_)
    (fun s event h => ⟨undisturbed_of_answered h, answered_of_undisturbed h⟩)
    (inv_start tableOk_nil)
  refine ((keeps P Set.univ).step later_refl h ?_ hstep).1
  cases event <;> simp [Admits]

end

/-! ### A failure that is delivered twice at once -/

def sampleFailurePayload : JsonObject ℕ :=
  ⟨[("report_type", .string "activity"), ("report_version", .number 1),
    ("failure_code", .string "execution_failed")], by simp [DistinctKeys]⟩

def sampleFailure : Callback ℕ where
  reportId := "rpt_1"
  contentType := .text "application/json"
  body := ⟨80, some ⟨.object sampleFailurePayload.1, sampleFailurePayload.2⟩⟩

/-- Both deliveries read the report before the first of them updates it. -/
def duplicateFailures : List (Step ℕ) :=
  [.arrive 0 (.create sampleCreate), .advance 0 .done, .arrive 1 (.fail sampleFailure),
    .arrive 2 (.fail sampleFailure), .advance 1 .done, .advance 2 .done, .advance 1 .done]

theorem duplicate_failure_conflicts :
    ∃ s s', run (step (system sampleParameters)) (start []) duplicateFailures = some s ∧
      step (system sampleParameters) s (.advance 2 .done) = some s' ∧
      s'.calls 1 = some (.fail sampleFailure, .done (.ok (.failed "rpt_1"))) ∧
      s'.calls 2 = some (.fail sampleFailure, .done (.error .idempotencyConflict)) ∧
      Failed s'.db "rpt_1" ∧ ¬Answered sampleParameters s (.advance 2 .done) := by
  refine ⟨_, _, rfl, rfl, rfl, rfl, ⟨_, List.mem_singleton.mpr rfl, rfl, rfl⟩, fun hanswered => ?_⟩
  have hiff := hanswered 2 .done _ sampleFailure sampleFailurePayload _ rfl rfl rfl rfl
    (fun report hmem _ => by rw [List.mem_singleton.mp hmem]; rfl) (by simp)
  have hfailed := hiff.mpr ⟨_, List.mem_singleton.mpr rfl, rfl, rfl⟩
  cases hfailed

end MotherApi.ReportFailures
