import MotherApi.ReportLifecycle

/-!
Asking for a report twice, and delivering it twice.

The key of a request finds the report that was stored first, and the digest tells whether it was
stored for the same request. A report that is delivered is compared by its digest with the one
that is there. Both comparisons are made on rows that others may have written since, and hold
because rows only move forward.
-/

namespace MotherApi.ReportIdempotency

open MotherApi.Lib.JsonTrees MotherApi.Lib.Handlers MotherApi.Lib.Runs MotherApi.CanonicalJson
open MotherApi.AsyncReports MotherApi.ReportLifecycle Relation

variable {ν δ : Type}

/-- The row was stored for the request, up to the order of keys in its input. -/
def SameRequest (report : AsyncReport ν δ) (request : CreateAsyncReport ν δ) : Prop :=
  report.reportType = request.reportType ∧ report.reportVersion = request.reportVersion ∧
    SameUpToOrder report.input request.input

section

variable (P : Parameters ν δ)

abbrev World (ν δ : Type) := State (Table ν δ) (Request ν) (Point ν δ)

abbrev Step (ν : Type) := Event (Request ν) Outcome

/-- The texts of JSON values that are hashed in a run. -/
def hashedTexts (events : List (Step ν)) : Set (List Char) :=
  { text | ∃ call req, Event.arrive call req ∈ events ∧ text ∈ texts P req }

/-- The calls for reports that are done, and the table. -/
structure Idempotent (s : World ν δ) : Prop where
  oneReport : (s.db.map fun report => (report.accountId, report.idempotencyKeyHash)).Nodup
  stored : ∀ i call answer, s.calls i = some (.create call, .done (.ok answer)) →
    ∃ request, createCommand P call = .ok request ∧ ∃ report ∈ s.db,
      answer = .accepted report.publicId ∧ SameKey report request ∧ SameRequest report request
  sameReport : ∀ i j call call' request request' publicId publicId',
    s.calls i = some (.create call, .done (.ok (.accepted publicId))) →
    s.calls j = some (.create call', .done (.ok (.accepted publicId'))) →
    createCommand P call = .ok request → createCommand P call' = .ok request' →
    request.accountId = request'.accountId → call.idempotencyKey = call'.idempotencyKey →
    publicId = publicId' ∧ request.reportType = request'.reportType ∧
      request.reportVersion = request'.reportVersion ∧
      SameUpToOrder request.input request'.input
  conflict : ∀ i call request answer, s.calls i = some (.create call, .done answer) →
    createCommand P call = .ok request →
    (∃ report ∈ s.db, SameKey report request ∧ ¬SameRequest report request) →
    answer = .error .idempotencyConflict ∨ answer = .error .databaseUnavailable

/-- The report is of the type and version of the payload, and the catalog accepts what is
delivered for it. -/
def WellFormed (report : AsyncReport ν δ) (payload : JsonObject ν) (value : Value ν) : Prop :=
  terminalIdentityMatches P report payload = true ∧
    ∃ definition, P.lookup report.reportType report.reportVersion = some definition ∧
      P.validateReport definition value = true

/-- The report is completed with the value, up to the order of keys, under its digest. -/
def CompletedWith (report : AsyncReport ν δ) (value : Value ν) : Prop :=
  ∃ stored, report.progress = .completed stored (sha256Json P value) ∧ SameUpToOrder stored value

/-- The database is said to be unavailable only where a statement went wrong, or where the public id
that was drawn for a report is that of another. -/
def BlamesDatabase [DecidableEq δ] (s : World ν δ) : Prop :=
  ∀ i outcome s' req, step (system P) s (.advance i outcome) = some s' →
    s'.calls i = some (req, .done (.error .databaseUnavailable)) →
      outcome ≠ .done ∨ ∃ call request, req = .create call ∧ createCommand P call = .ok request ∧
        ∃ report ∈ s.db, report.publicId = request.publicId ∧ ¬SameKey report request

/-- A delivery in order completes an open report if nothing comes between its statements. -/
def TakesDelivery [DecidableEq δ] (s : World ν δ) : Prop :=
  ∀ i callback payload value, s.calls i = none →
    completionPayload callback = .ok (payload, value) →
    ∀ report ∈ s.db, report.publicId = callback.reportId → report.progress.isOpen = true →
      WellFormed P report payload value → ∃ t,
        run (step (system P)) s [.arrive i (.complete callback), .advance i .done,
          .advance i .done] = some t ∧
        t.calls i = some (.complete callback, .done (.ok (.completed callback.reportId))) ∧
        { report with progress := .completed value (sha256Json P value) } ∈ t.db

/-- Reports only move forward, and those that are over stay as they are. -/
structure Forward (reports reports' : Table ν δ) : Prop where
  later : Later reports reports'
  terminal : ∀ report ∈ reports, report.progress.isOpen = false →
    ∀ report' ∈ reports', report'.publicId = report.publicId → report' = report

end

variable {P : Parameters ν δ}

lemma sameRequest_of_sameUpToOrder (hP : P.Lawful) {reportType reportType' : String}
    {version version' : ReportVersion} {input input' : Value ν}
    (h : SameUpToOrder (requestJson P reportType version input)
      (requestJson P reportType' version' input')) :
    reportType = reportType' ∧ version = version' ∧ SameUpToOrder input input' := by
  cases h with
  | object _ hsame =>
    have htype := hsame "report_type" (.string reportType) (.string reportType') (by simp) (by simp)
    have hversion := hsame "report_version" (.number (P.ofI32 version))
      (.number (P.ofI32 version')) (by simp) (by simp)
    refine ⟨by cases htype; rfl, ?_, hsame "input" input input' (by simp) (by simp)⟩
    refine hP.ofI32 version version' ?_
    generalize P.ofI32 version = n at hversion
    generalize P.ofI32 version' = n' at hversion
    cases hversion
    rfl

variable {T : Set (List Char)}

lemma sameUpToOrder_of_digest (hP : P.Lawful) (hsha : Set.InjOn P.sha256 T) {v w : Value ν}
    {digest : δ} (hv : Hashed P T v digest) (hw : Hashed P T w digest) : SameUpToOrder v w := by
  have htexts : Reports.canonicalJson P.encoding v = Reports.canonicalJson P.encoding w :=
    hsha hv.text hw.text (hv.digest.symm.trans hw.digest)
  exact (Reports.canonicalJson_eq_iff hP.encoding hv.distinct hw.distinct).mp htexts

lemma hashed_request {call : CreateReport ν} {request : CreateAsyncReport ν δ}
    (hcommand : createCommand P call = .ok request)
    (htexts : ∀ text ∈ texts P (.create call), text ∈ T) :
    Hashed P T (requestJson P request.reportType request.reportVersion request.input)
      request.requestDigest := by
  obtain ⟨hdistinct, hdigest, -⟩ := createCommand_ok hcommand
  exact ⟨distinctKeys_requestJson.mpr hdistinct, htexts _ (by simp [texts, hcommand]), hdigest⟩

/-- A row with the digest of the request was stored for the request. -/
lemma sameRequest_of_digest (hP : P.Lawful) (hsha : Set.InjOn P.sha256 T) {reports : Table ν δ}
    (hok : TableOk P T reports) {report : AsyncReport ν δ} (hmem : report ∈ reports)
    {call : CreateReport ν} {request : CreateAsyncReport ν δ}
    (hcommand : createCommand P call = .ok request)
    (htexts : ∀ text ∈ texts P (.create call), text ∈ T)
    (hdigest : report.requestDigest = request.requestDigest) : SameRequest report request :=
  sameRequest_of_sameUpToOrder hP (sameUpToOrder_of_digest hP hsha
    (hdigest ▸ hok.requests report hmem) (hashed_request hcommand htexts))

lemma eq_of_sameKey {reports : Table ν δ} (hok : TableOk P T reports)
    {report report' : AsyncReport ν δ} (hmem : report ∈ reports) (hmem' : report' ∈ reports)
    {request : CreateAsyncReport ν δ} (hkey : SameKey report request)
    (hkey' : SameKey report' request) : report = report' :=
  List.inj_on_of_nodup_map hok.keys hmem hmem'
    (Prod.ext (hkey.1.trans hkey'.1.symm) (hkey.2.trans hkey'.2.symm))

/-! ### Calls for reports -/

/-- The invariant, in the states that a run reaches. -/
abbrev Reached (P : Parameters ν δ) (T : Set (List Char)) (s : World ν δ) : Prop :=
  Inv (TableOk P T) (fun reports req point =>
    (∀ text ∈ texts P req, text ∈ T) ∧ Relies P reports req point) s

lemma admits_of_mem {events : List (Step ν)} {event : Step ν} (hmem : event ∈ events) :
    Admits (fun req => ∀ text ∈ texts P req, text ∈ hashedTexts P events) event := by
  cases event with
  | arrive call req => exact fun text htext => ⟨call, req, hmem, htext⟩
  | advance call outcome => trivial

lemma Reached.univ {s : World ν δ} (h : Reached P T s) : Reached P Set.univ s := by
  refine ⟨⟨h.db.keys, h.db.ids, ?_, ?_⟩, fun call req point hcall => ⟨?_, ?_⟩⟩
  · intro report hmem
    obtain ⟨hdistinct, -, hdigest⟩ := h.db.requests report hmem
    exact ⟨hdistinct, trivial, hdigest⟩
  · intro report hmem value digest hcompleted
    obtain ⟨hdistinct, -, hdigest⟩ := h.db.completed report hmem value digest hcompleted
    exact ⟨hdistinct, trivial, hdigest⟩
  · exact fun _ _ => trivial
  · exact (h.calls call req point hcall).2

/-- What is behind the answer of a call for a report. -/
lemma justified_of_done {s : World ν δ} (h : Reached P T s) {i : ℕ} {call : CreateReport ν}
    {answer : Except ApiError Answer} (hcall : s.calls i = some (.create call, .done answer))
    {request : CreateAsyncReport ν δ} (hcommand : createCommand P call = .ok request) :
    Justified s.db request answer := by
  have hrelies := (h.calls i _ _ hcall).2
  simpa [Relies, hcommand, CreateRelies] using hrelies

lemma exists_request {s : World ν δ} (h : Reached P T s) {i : ℕ} {call : CreateReport ν}
    {answer : Answer} (hcall : s.calls i = some (.create call, .done (.ok answer))) :
    ∃ request, createCommand P call = .ok request := by
  have hrelies := (h.calls i _ _ hcall).2
  cases hcommand : createCommand P call with
  | ok request => exact ⟨request, rfl⟩
  | error error =>
    simp only [Relies, hcommand] at hrelies
    cases hrelies

lemma idempotent_of_reached (hP : P.Lawful) (hsha : Set.InjOn P.sha256 T) {s : World ν δ}
    (h : Reached P T s) : Idempotent P s where
  oneReport := h.db.keys
  stored := by
    intro i call answer hcall
    obtain ⟨request, hcommand⟩ := exists_request h hcall
    have hjustified := justified_of_done h hcall hcommand
    cases answer with
    | accepted publicId =>
      obtain ⟨report, hmem, rfl, hkey, hdigest⟩ := hjustified
      exact ⟨request, hcommand, report, hmem, rfl, hkey, sameRequest_of_digest hP hsha h.db hmem
        hcommand (h.calls i _ _ hcall).1 hdigest⟩
    | _ => cases hjustified
  sameReport := by
    intro i j call call' request request' publicId publicId' hcall hcall' hcommand hcommand'
      haccount hkeys
    obtain ⟨report, hmem, rfl, hkey, hdigest⟩ := justified_of_done h hcall hcommand
    obtain ⟨report', hmem', rfl, hkey', hdigest'⟩ := justified_of_done h hcall' hcommand'
    obtain ⟨-, -, key, hof, hhash⟩ := createCommand_ok hcommand
    obtain ⟨-, -, key', hof', hhash'⟩ := createCommand_ok hcommand'
    -- one key has one hash, and one row is under it
    rw [hkeys, hof', Except.ok.injEq] at hof
    subst hof
    have hsame : report = report' := eq_of_sameKey h.db hmem hmem' hkey
      ⟨hkey'.1.trans haccount.symm, hkey'.2.trans (hhash'.trans hhash.symm)⟩
    subst hsame
    refine ⟨rfl, sameRequest_of_sameUpToOrder hP (sameUpToOrder_of_digest hP hsha
      (hashed_request hcommand (h.calls i _ _ hcall).1) ?_)⟩
    rw [← hdigest, hdigest']
    exact hashed_request hcommand' (h.calls j _ _ hcall').1
  conflict := by
    rintro i call request answer hcall hcommand ⟨report, hmem, hkey, hdiffers⟩
    have hjustified := justified_of_done h hcall hcommand
    have hnot : ∀ publicId, ¬Owns s.db request publicId := by
      rintro publicId ⟨report', hmem', -, hkey', hdigest⟩
      have hsame := eq_of_sameKey h.db hmem hmem' hkey hkey'
      subst hsame
      exact hdiffers (sameRequest_of_digest hP hsha h.db hmem hcommand
        (h.calls i _ _ hcall).1 hdigest)
    unfold Justified at hjustified
    split at hjustified
    · exact absurd hjustified (hnot _)
    · cases hjustified
    · exact Or.inl rfl
    · obtain ⟨publicId, howns⟩ := hjustified
      exact absurd howns (hnot publicId)
    · exact Or.inr rfl
    · cases hjustified

/-! ### Deliveries -/

lemma eq_of_publicId {reports : Table ν δ} (hok : TableOk P T reports)
    {report report' : AsyncReport ν δ} (hmem : report ∈ reports) (hmem' : report' ∈ reports)
    (hid : report.publicId = report'.publicId) : report = report' :=
  List.inj_on_of_nodup_map hok.ids hmem hmem' hid

lemma exists_publicId_iff {reports : Table ν δ} (hok : TableOk P T reports) {reportId : String}
    {Q : AsyncReport ν δ → Prop} :
    (∃ report ∈ reports, report.publicId = reportId ∧ Q report) ↔
      ∃ report, find reports reportId = some report ∧ Q report := by
  constructor
  · rintro ⟨report, hmem, hid, hQ⟩
    cases hfound : find reports reportId with
    | none => exact absurd hid (find_eq_none.mp hfound report hmem)
    | some current =>
      obtain ⟨hmem', hid'⟩ := find_eq_some hfound
      exact ⟨current, rfl, eq_of_publicId hok hmem hmem' (hid.trans hid'.symm) ▸ hQ⟩
  · rintro ⟨report, hfound, hQ⟩
    obtain ⟨hmem, hid⟩ := find_eq_some hfound
    exact ⟨report, hmem, hid, hQ⟩

lemma complete_updated {reports : Table ν δ} (hok : TableOk P T reports) {publicId : String}
    {value : Value ν} {digest : δ}
    (h : (AsyncReports.complete reports publicId value digest).2 = true) :
    ∃ report ∈ (AsyncReports.complete reports publicId value digest).1,
      report.publicId = publicId ∧ report.progress = .completed value digest := by
  have hone : (updateWhere reports publicId Progress.isOpen (.completed value digest)).2 = 1 :=
    beq_iff_eq.mp h
  obtain ⟨report, hmem, hid, hopen⟩ := (updateWhere_snd_eq_one hok.ids).mp hone
  exact ⟨_, mem_updateWhere_of_matching hmem hid hopen, hid, rfl⟩

section

variable [DecidableEq δ]

lemma reached_of_run {events : List (Step ν)} {s : World ν δ}
    (hrun : run (step (system P)) (start []) events = some s) :
    Reached P (hashedTexts P events) s :=
  ((keeps P (hashedTexts P events)).run later_refl later_trans (inv_start tableOk_nil)
    (fun _ => admits_of_mem) hrun).1

/-- A run changes the table as its statements may, whatever is hashed. -/
lemma later_of_run {events : List (Step ν)} {s t : World ν δ} (hs : Reached P Set.univ s)
    (hrun : run (step (system P)) s events = some t) :
    Reached P Set.univ t ∧ Later s.db t.db := by
  refine (keeps P Set.univ).run later_refl later_trans hs (fun event _ => ?_) hrun
  cases event <;> simp [Admits]

/-- The last statement of a delivery, by the point it was at. -/
lemma delivery_cases {s s' : World ν δ} (h : Reached P T s) {i : ℕ} {outcome : Outcome}
    (hstep : step (system P) s (.advance i outcome) = some s') {callback : Callback ν}
    {answer : Except ApiError Answer}
    (hdone : s'.calls i = some (.complete callback, .done answer)) {payload : JsonObject ν}
    {value : Value ν} (hpayload : completionPayload callback = .ok (payload, value)) :
    answer = .error .databaseUnavailable ∨
    (s'.db = s.db ∧ afterFindToComplete P callback.reportId payload value
      (find s.db callback.reportId) = .done answer) ∨
    (answer = .ok (.completed callback.reportId) ∧
      (AsyncReports.complete s.db callback.reportId value (sha256Json P value)).2 = true ∧
      s'.db = (AsyncReports.complete s.db callback.reportId value (sha256Json P value)).1) ∨
    (s'.db = s.db ∧ afterFindCompleted callback.reportId (sha256Json P value)
      (find s.db callback.reportId) = .done answer) := by
  obtain ⟨point, hcall, hadvance⟩ := step_advance hstep hdone
  have hrelies : CompleteRelies P callback point := (h.calls i _ _ hcall).2
  have hadvance : advance P s.db point outcome = some (s'.db, .done answer) := hadvance
  cases point with
  | findToComplete reportId payload' value' =>
    obtain ⟨rfl, hpayload'⟩ := hrelies
    rw [hpayload] at hpayload'
    cases hpayload'
    cases outcome <;> simp only [advance, databaseError, Option.some.injEq, Prod.mk.injEq,
      Point.done.injEq] at hadvance
    · exact Or.inr (Or.inl ⟨hadvance.1.symm, hadvance.2⟩)
    · exact Or.inl hadvance.2.symm
    · exact Or.inl hadvance.2.symm
  | completeReport reportId value' digest =>
    obtain ⟨rfl, rfl, payload', hpayload'⟩ := hrelies
    rw [hpayload] at hpayload'
    cases hpayload'
    cases outcome <;> simp only [advance, databaseError, Option.some.injEq, Prod.mk.injEq,
      Point.done.injEq] at hadvance
    · obtain ⟨hdb, hanswer⟩ := hadvance
      split at hanswer
      · rename_i hupdated
        cases hanswer
        exact Or.inr (Or.inr (Or.inl ⟨rfl, hupdated, hdb.symm⟩))
      · cases hanswer
    · exact Or.inl hadvance.2.symm
    · exact Or.inl hadvance.2.symm
  | findCompleted reportId digest =>
    obtain ⟨rfl, payload', value', hpayload', rfl⟩ := hrelies
    rw [hpayload] at hpayload'
    cases hpayload'
    cases outcome <;> simp only [advance, databaseError, Option.some.injEq, Prod.mk.injEq,
      Point.done.injEq] at hadvance
    · exact Or.inr (Or.inr (Or.inr ⟨hadvance.1.symm, hadvance.2⟩))
    · exact Or.inl hadvance.2.symm
    · exact Or.inl hadvance.2.symm
  | done => cases hadvance
  | _ => cases hrelies

omit [DecidableEq δ] in
lemma afterFindToComplete_of_wellFormed {report : AsyncReport ν δ} {payload : JsonObject ν}
    {value : Value ν} (hwell : WellFormed P report payload value) (reportId : String) :
    afterFindToComplete P reportId payload value (some report) =
      .completeReport reportId value (sha256Json P value) := by
  obtain ⟨hmatches, definition, hlookup, hvalid⟩ := hwell
  have haccepted : (P.lookup report.reportType report.reportVersion).filter
      (P.validateReport · value) = some definition :=
    Option.filter_eq_some_iff.mpr ⟨hlookup, hvalid⟩
  simp [afterFindToComplete, hmatches, haccepted]

omit [DecidableEq δ] in
/-- A delivery in order is not refused at its first read unless there is no report. -/
lemma find_eq_none_of_refused {reports : Table ν δ} {reportId : String} {payload : JsonObject ν}
    {value : Value ν} {answer : Except ApiError Answer}
    (hwell : ∀ report ∈ reports, report.publicId = reportId → WellFormed P report payload value)
    (hanswer : afterFindToComplete P reportId payload value (find reports reportId) =
      .done answer) : find reports reportId = none ∧ answer = .error .reportNotFound := by
  cases hfound : find reports reportId with
  | none =>
    rw [hfound] at hanswer
    cases hanswer
    exact ⟨rfl, rfl⟩
  | some existing =>
    obtain ⟨hmem, hid⟩ := find_eq_some hfound
    rw [hfound, afterFindToComplete_of_wellFormed (hwell existing hmem hid)] at hanswer
    cases hanswer

lemma afterFindCompleted_ok_iff (hP : P.Lawful) (hsha : Set.InjOn P.sha256 T)
    {reports : Table ν δ} (hok : TableOk P T reports) {reportId : String} {value : Value ν}
    (hvalue : Hashed P T value (sha256Json P value)) {answer : Except ApiError Answer}
    (hanswer : afterFindCompleted reportId (sha256Json P value) (find reports reportId) =
      .done answer) :
    answer = .ok (.completed reportId) ↔
      ∃ report ∈ reports, report.publicId = reportId ∧ CompletedWith P report value := by
  rw [exists_publicId_iff hok]
  unfold afterFindCompleted completedAnswer at hanswer
  split at hanswer
  · rename_i hnone
    cases hanswer
    simp [hnone]
  · rename_i current hfound
    simp only [hfound, Option.some.injEq, exists_eq_left']
    split at hanswer
    · rename_i stored digest hprogress
      split at hanswer
      · rename_i hdigest
        cases hanswer
        refine iff_of_true rfl ⟨stored, by rw [hprogress, hdigest], ?_⟩
        have hstored := hok.completed current (find_eq_some hfound).1 stored digest hprogress
        exact sameUpToOrder_of_digest hP hsha (hdigest ▸ hstored) hvalue
      · rename_i hdigest
        cases hanswer
        refine iff_of_false (by simp) ?_
        rintro ⟨stored', hprogress', -⟩
        rw [hprogress] at hprogress'
        cases hprogress'
        exact hdigest rfl
    · rename_i hprogress
      cases hanswer
      refine iff_of_false (by simp) ?_
      rintro ⟨stored, hcompleted, -⟩
      exact hprogress stored _ hcompleted

/-- A delivery in order succeeds exactly if the report is then completed with what it delivers. -/
lemma delivery_ok_iff (hP : P.Lawful) (hsha : Set.InjOn P.sha256 T) {s s' : World ν δ}
    (h : Reached P T s) {i : ℕ} {outcome : Outcome}
    (hstep : step (system P) s (.advance i outcome) = some s') {callback : Callback ν}
    {answer : Except ApiError Answer}
    (hdone : s'.calls i = some (.complete callback, .done answer)) {payload : JsonObject ν}
    {value : Value ν} (hpayload : completionPayload callback = .ok (payload, value))
    (hwell : ∀ report ∈ s'.db, report.publicId = callback.reportId →
      WellFormed P report payload value)
    (hdatabase : answer ≠ .error .databaseUnavailable) :
    answer = .ok (.completed callback.reportId) ↔
      ∃ report ∈ s'.db, report.publicId = callback.reportId ∧ CompletedWith P report value := by
  have hafter : Reached P T s' := ((keeps P T).step later_refl h
    (e := .advance i outcome) trivial hstep).1
  have htexts := (hafter.calls i _ _ hdone).1
  have hvalue : Hashed P T value (sha256Json P value) :=
    ⟨completionPayload_ok hpayload, htexts _ (by simp [texts, hpayload]), rfl⟩
  rcases delivery_cases h hstep hdone hpayload with hanswer | ⟨hsame, hanswer⟩ |
    ⟨rfl, hupdated, hdb⟩ | ⟨hsame, hanswer⟩
  · exact absurd hanswer hdatabase
  · rw [hsame] at hwell ⊢
    obtain ⟨hnone, rfl⟩ := find_eq_none_of_refused hwell hanswer
    rw [exists_publicId_iff h.db]
    simp [hnone]
  · refine iff_of_true rfl ?_
    obtain ⟨report, hmem, hid, hprogress⟩ := complete_updated h.db hupdated
    rw [hdb]
    exact ⟨report, hmem, hid, value, hprogress,
      (inOrder_eq_iff hvalue.distinct hvalue.distinct).mp rfl⟩
  · rw [hsame]
    exact afterFindCompleted_ok_iff hP hsha h.db hvalue hanswer

lemma resume_ne_databaseError (request : CreateAsyncReport ν δ) (report : AsyncReport ν δ)
    (created : Bool) : resume request report created ≠ databaseError := by
  unfold resume databaseError
  split
  · simp
  · split <;> simp

/-- A call for a report whose statement is done finds the public id taken, or blames nothing. -/
lemma create_blames {reports reports' : Table ν δ} {request : CreateAsyncReport ν δ}
    {point : Point ν δ} (hrelies : CreateRelies reports request point)
    (hadvance : advance P reports point .done = some (reports', databaseError)) :
    ∃ report ∈ reports, report.publicId = request.publicId ∧ ¬SameKey report request := by
  cases point with
  | insertReport request' =>
    obtain rfl : request' = request := hrelies
    have hpoint : afterInsert request' (insertRow reports request').2 = databaseError :=
      (Prod.mk.inj (Option.some.inj hadvance)).2
    rcases insertRow_cases reports request' with ⟨heq, -⟩ | ⟨-, hclash⟩ | ⟨heq, -⟩
    · rw [heq] at hpoint
      cases hpoint
    · exact hclash
    · rw [heq] at hpoint
      exact absurd hpoint (resume_ne_databaseError _ _ _)
  | selectReport request' =>
    obtain ⟨rfl, report, hmem, hkey⟩ := hrelies
    have hpoint : afterSelect request' (findByKey reports request'.accountId
        request'.idempotencyKeyHash) = databaseError :=
      (Prod.mk.inj (Option.some.inj hadvance)).2
    cases hfound : findByKey reports request'.accountId request'.idempotencyKeyHash with
    | none => exact absurd hkey (findByKey_eq_none.mp hfound report hmem)
    | some found =>
      rw [hfound] at hpoint
      exact absurd hpoint (resume_ne_databaseError _ _ _)
  | handOff | markRunning | done => cases hadvance
  | _ => cases hrelies

/-- A call back whose statement is done does not blame the database. -/
lemma complete_blames_not {reports reports' : Table ν δ} {callback : Callback ν} {point : Point ν δ}
    (hrelies : CompleteRelies P callback point) :
    advance P reports point .done ≠ some (reports', databaseError) := by
  intro hadvance
  cases point with
  | findToComplete reportId payload report =>
    have hpoint : afterFindToComplete P reportId payload report (find reports reportId) =
        databaseError := (Prod.mk.inj (Option.some.inj hadvance)).2
    unfold afterFindToComplete at hpoint
    repeat' split at hpoint
    all_goals cases hpoint
  | completeReport reportId report digest =>
    have hpoint : (if (AsyncReports.complete reports reportId report digest).2 then
        completedAnswer reportId else .findCompleted reportId digest) = databaseError :=
      (Prod.mk.inj (Option.some.inj hadvance)).2
    split at hpoint <;> cases hpoint
  | findCompleted reportId digest =>
    have hpoint : afterFindCompleted reportId digest (find reports reportId) = databaseError :=
      (Prod.mk.inj (Option.some.inj hadvance)).2
    unfold afterFindCompleted completedAnswer at hpoint
    repeat' split at hpoint
    all_goals cases hpoint
  | done => cases hadvance
  | _ => cases hrelies

lemma fail_blames_not {reports reports' : Table ν δ} {callback : Callback ν} {point : Point ν δ}
    (hrelies : FailRelies P reports callback point) :
    advance P reports point .done ≠ some (reports', databaseError) := by
  intro hadvance
  cases point with
  | findToFail reportId payload =>
    have hpoint : afterFindToFail P reportId payload (find reports reportId) = databaseError :=
      (Prod.mk.inj (Option.some.inj hadvance)).2
    unfold afterFindToFail at hpoint
    repeat' split at hpoint
    all_goals cases hpoint
  | failReport reportId existing =>
    have hpoint : (if (AsyncReports.fail reports reportId).2 || existing.progress.isFailed then
        .done (.ok (.failed reportId)) else .done (.error .idempotencyConflict)) = databaseError :=
      (Prod.mk.inj (Option.some.inj hadvance)).2
    split at hpoint <;> cases hpoint
  | done => cases hadvance
  | _ => cases hrelies

/-- **The database is blamed** for its errors only. -/
lemma blamesDatabase {s : World ν δ} (h : Reached P T s) : BlamesDatabase P s := by
  intro i outcome s' req hstep hdone
  obtain ⟨point, hcall, hadvance⟩ := step_advance hstep hdone
  have hrelies := (h.calls i _ _ hcall).2
  have hadvance : advance P s.db point outcome = some (s'.db, databaseError) := hadvance
  cases outcome with
  | notDone | lost => exact .inl (by simp)
  | done =>
    cases req with
    | create call =>
      cases hcommand : createCommand P call with
      | error error =>
        simp only [Relies, hcommand] at hrelies
        subst hrelies
        cases hadvance
      | ok request =>
        simp only [Relies, hcommand] at hrelies
        exact .inr ⟨call, request, rfl, hcommand, create_blames hrelies hadvance⟩
    | complete callback => exact absurd hadvance (complete_blames_not hrelies)
    | fail callback => exact absurd hadvance (fail_blames_not hrelies)

/-- **An open report takes a delivery in order.** -/
lemma takesDelivery {s : World ν δ} (h : Reached P T s) : TakesDelivery P s := by
  intro i callback payload value hfree hpayload report hmem hid hopen hwell
  obtain ⟨found, hfound, rfl⟩ :=
    (exists_publicId_iff (Q := (· = report)) h.db).mp ⟨report, hmem, hid, rfl⟩
  have hone : (updateWhere s.db callback.reportId Progress.isOpen
      (.completed value (sha256Json P value))).2 = 1 :=
    (updateWhere_snd_eq_one h.db.ids).mpr ⟨found, hmem, hid, hopen⟩
  have harrive : enter P (.complete callback) =
      .findToComplete callback.reportId payload value := by
    rw [enter, hpayload]
  have hfind : advance P s.db (.findToComplete callback.reportId payload value) .done =
      some (s.db, .completeReport callback.reportId value (sha256Json P value)) := by
    rw [advance, hfound, afterFindToComplete_of_wellFormed hwell]
  have hcomplete : advance P s.db (.completeReport callback.reportId value (sha256Json P value))
      .done = some ((AsyncReports.complete s.db callback.reportId value (sha256Json P value)).1,
        completedAnswer callback.reportId) := by
    have hupdated : (AsyncReports.complete s.db callback.reportId value
        (sha256Json P value)).2 = true := beq_iff_eq.mpr hone
    simp only [advance, hupdated, if_true]
  refine ⟨s.put (AsyncReports.complete s.db callback.reportId value (sha256Json P value)).1 i
    (.complete callback) (completedAnswer callback.reportId), ?_, ?_, ?_⟩
  · rw [run_cons, step_arrive hfree, Option.bind_some, run_cons, step_put]
    change ((advance P s.db (enter P (.complete callback)) .done).map _).bind _ = _
    rw [harrive, hfind, Option.map_some, Option.bind_some, run_cons, step_put]
    change ((advance P s.db (.completeReport callback.reportId value (sha256Json P value))
      .done).map _).bind _ = _
    rw [hcomplete]
    rfl
  · rw [put_calls, Function.update_self]
    rfl
  · exact mem_updateWhere_of_matching hmem hid hopen

lemma forward_of_run {s t : World ν δ} {events : List (Step ν)} (h : Reached P T s)
    (hrun : run (step (system P)) s events = some t) : Forward s.db t.db := by
  obtain ⟨hreached, hlater⟩ := later_of_run h.univ hrun
  refine ⟨hlater, fun report hmem hover report' hmem' hid => ?_⟩
  obtain ⟨progress, hmoves, hkept⟩ := hlater report hmem
  rw [eq_of_not_isOpen hover hmoves] at hkept
  exact eq_of_publicId hreached.db hmem' hkept hid

/-- **Reports are idempotent and final**: whatever the order of the statements of all calls, and
however the handoffs and the database go, there is one report for an account and a key; calls
that succeed for one key name one report and asked for the same, and a call that asked for
something else is told so; reports only move forward and stay as they are once they are over; a
delivery in order succeeds exactly if the report is then completed with what it delivers, and it
completes an open report if nothing comes between; and the database is blamed for nothing but its
errors. -/
theorem reports_idempotent (hP : P.Lawful) {events : List (Step ν)} {s : World ν δ}
    (hrun : run (step (system P)) (start []) events = some s)
    (hsha : Set.InjOn P.sha256 (hashedTexts P events)) :
    Idempotent P s ∧
    (∀ events' t, run (step (system P)) s events' = some t → Forward s.db t.db) ∧
    (∀ i outcome s', step (system P) s (.advance i outcome) = some s' →
      ∀ callback answer payload value,
        s'.calls i = some (.complete callback, .done answer) →
        completionPayload callback = .ok (payload, value) →
        (∀ report ∈ s'.db, report.publicId = callback.reportId →
          WellFormed P report payload value) →
        answer ≠ .error .databaseUnavailable →
        (answer = .ok (.completed callback.reportId) ↔
          ∃ report ∈ s'.db, report.publicId = callback.reportId ∧
            CompletedWith P report value)) ∧
    TakesDelivery P s ∧ BlamesDatabase P s := by
  have h := reached_of_run hrun
  refine ⟨idempotent_of_reached hP hsha h, fun events' t => forward_of_run h, ?_, takesDelivery h,
    blamesDatabase h⟩
  intro i outcome s' hstep callback answer payload value hdone hpayload hwell hdatabase
  exact delivery_ok_iff hP hsha h hstep hdone hpayload hwell hdatabase

end

/-! ### A report that is asked for and delivered -/

def isObject : Value ℕ → Bool
  | .object _ => true
  | _ => false

def sampleRequestText : List Char :=
  "\x7b\"input\":\x7b\"wallet\":\"0xabc\"\x7d,".toList ++
    "\"report_type\":\"activity\",\"report_version\":1\x7d".toList

def sampleReportText : List Char := "\x7b\"total\":5\x7d".toList

/-- The digests of the texts that are hashed for the report. -/
def sampleSha256 (text : List Char) : String :=
  if text = sampleRequestText then
    "fa8a05ed7ded9d32d738e3bff80435c34b92f6c0d31dbc8d9e05aa58c3637943"
  else if text = sampleReportText then
    "02411c8580becc96ce51076945bc40c2619c7b41b89dd4589e52122dbee45b96"
  else if text = "k-1".toList then
    "7c35c5a1785d20704e44d5de4beb81c1fce91b6fe48ed7c3159af6f7f832078b"
  else ""

def sampleParameters : Parameters ℕ String where
  encoding := plainEncoding
  asI64 n := some n
  ofI32 := Int.toNat
  lookup reportType version :=
    if reportType = "activity" ∧ version = 1 then some ⟨"activity", 1⟩ else none
  validateInput _ := isObject
  validateReport _ := isObject
  sha256 := sampleSha256

lemma sampleParameters_lawful : sampleParameters.Lawful where
  encoding := plainEncoding_lawful
  ofI32 := by
    rintro ⟨v, hv⟩ ⟨w, hw⟩ heq
    have heq : v.toNat = w.toNat := heq
    have hvw : v = w := by omega
    subst hvw
    rfl

def sampleInput : Value ℕ := .object [("wallet", .string "0xabc")]

def sampleReport : Value ℕ := .object [("total", .number 5)]

def sampleCreate : CreateReport ℕ where
  keyKind := "account"
  ibAccountId := some 7
  reportType := "activity"
  contentType := .text "application/json"
  idempotencyKey := .text "k-1"
  body := ⟨64, some ⟨.object [("report_version", .number 1), ("input", sampleInput)],
    by simp [DistinctKeys, sampleInput]⟩⟩
  publicId := "rpt_1"

def sampleDelivery : Callback ℕ where
  reportId := "rpt_1"
  contentType := .text "application/json"
  body := ⟨71, some ⟨.object [("report_type", .string "activity"), ("report_version", .number 1),
    ("report", sampleReport)], by simp [DistinctKeys, sampleReport]⟩⟩

/-- The delivery overtakes the mark that the report is running, and then the request comes again. -/
def sampleEvents : List (Step ℕ) :=
  [.arrive 0 (.create sampleCreate), .advance 0 .done, .advance 0 .done,
    .arrive 1 (.complete sampleDelivery), .advance 1 .done, .advance 1 .done, .advance 0 .done,
    .arrive 2 (.create sampleCreate), .advance 2 .done, .advance 2 .done]

lemma sample_run :
    (run (step (system sampleParameters)) (start []) sampleEvents).isSome = true := by
  decide +kernel

lemma texts_sampleCreate : texts sampleParameters (.create sampleCreate) = [sampleRequestText] := by
  decide +kernel

lemma texts_sampleDelivery :
    texts sampleParameters (.complete sampleDelivery) = [sampleReportText] := by
  decide +kernel

theorem reports_idempotent_sample :
    ∃ s, run (step (system sampleParameters)) (start []) sampleEvents = some s ∧
      Idempotent sampleParameters s ∧ TakesDelivery sampleParameters s ∧
      BlamesDatabase sampleParameters s := by
  obtain ⟨s, hs⟩ := Option.isSome_iff_exists.mp sample_run
  have htexts :
      hashedTexts sampleParameters sampleEvents ⊆ {sampleRequestText, sampleReportText} := by
    rintro text ⟨call, req, harrive, htext⟩
    simp only [sampleEvents, List.mem_cons, Event.arrive.injEq, List.not_mem_nil, reduceCtorEq,
      or_false, false_or] at harrive
    rcases harrive with ⟨-, rfl⟩ | ⟨-, rfl⟩ | ⟨-, rfl⟩
    · rw [texts_sampleCreate, List.mem_singleton] at htext
      exact Or.inl htext
    · rw [texts_sampleDelivery, List.mem_singleton] at htext
      exact Or.inr htext
    · rw [texts_sampleCreate, List.mem_singleton] at htext
      exact Or.inl htext
  have hdigests : sampleSha256 sampleRequestText ≠ sampleSha256 sampleReportText := by
    decide +kernel
  have hsha : Set.InjOn sampleParameters.sha256 (hashedTexts sampleParameters sampleEvents) := by
    refine Set.InjOn.mono htexts ?_
    rintro text (rfl | rfl) text' (rfl | rfl) heq
    · rfl
    · exact absurd heq hdigests
    · exact absurd heq.symm hdigests
    · rfl
  obtain ⟨hidempotent, -, -, htakes, hblames⟩ := reports_idempotent sampleParameters_lawful hs hsha
  exact ⟨s, hs, hidempotent, htakes, hblames⟩

end MotherApi.ReportIdempotency
