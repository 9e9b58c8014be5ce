import MotherApi.AsyncReports
import MotherApi.Lib.Distinct
import MotherApi.Lib.Fallible
import Mathlib.Data.Set.Function
import Mathlib.Logic.Relation

/-!
What happens to a report between its statements.

A row that is there stays there, and only its progress changes, forward. So a call can rely on
what it read: the row still has the request it had, and a report that was over is still over as
it was.
-/

namespace MotherApi.ReportLifecycle

open MotherApi.Lib.Distinct MotherApi.Lib.JsonTrees MotherApi.Lib.Handlers MotherApi.Lib.Fallible
open MotherApi.CanonicalJson MotherApi.AsyncReports Relation

variable {ν δ : Type}

/-! ### Progress -/

/-- One move of a report: it starts, or while it is open it is completed or fails. -/
inductive Move : Progress ν δ → Progress ν δ → Prop
  | start : Move .accepted .running
  | complete {progress : Progress ν δ} (isOpen : progress.isOpen = true) (report : Value ν)
      (digest : δ) : Move progress (.completed report digest)
  | fail {progress : Progress ν δ} (isOpen : progress.isOpen = true) (code : String) :
      Move progress (.failed code)

lemma eq_of_not_isOpen {progress progress' : Progress ν δ} (hover : progress.isOpen = false)
    (hmoves : ReflTransGen Move progress progress') : progress' = progress := by
  induction hmoves with
  | refl => rfl
  | tail _ hmove ih =>
    subst ih
    cases hmove with
    | start => cases hover
    | complete hopen => rw [hover] at hopen; cases hopen
    | fail hopen => rw [hover] at hopen; cases hopen

/-- The rows that were there are there, each moved on. -/
def Later (reports reports' : Table ν δ) : Prop :=
  ∀ report ∈ reports, ∃ progress, ReflTransGen Move report.progress progress ∧
    { report with progress := progress } ∈ reports'

lemma later_refl (reports : Table ν δ) : Later reports reports :=
  fun report hmem => ⟨report.progress, .refl, hmem⟩

lemma later_trans (reports reports' reports'' : Table ν δ) (h : Later reports reports')
    (h' : Later reports' reports'') : Later reports reports'' := by
  intro report hmem
  obtain ⟨progress, hmoves, hmem'⟩ := h report hmem
  obtain ⟨progress', hmoves', hmem''⟩ := h' _ hmem'
  exact ⟨progress', hmoves.trans hmoves', hmem''⟩

/-! ### Statements -/

section Update

variable {reports : Table ν δ} {publicId : String} {matching : Progress ν δ → Bool}
  {progress : Progress ν δ}

lemma later_updateWhere (hmoves : ∀ before, matching before = true → Move before progress) :
    Later reports (updateWhere reports publicId matching progress).1 := by
  intro report hmem
  by_cases hmatch : (report.publicId == publicId && matching report.progress) = true
  · refine ⟨progress, .single (hmoves _ (Bool.and_eq_true_iff.mp hmatch).2), ?_⟩
    exact List.mem_map.mpr ⟨report, hmem, by rw [if_pos hmatch]⟩
  · exact ⟨report.progress, .refl, List.mem_map.mpr ⟨report, hmem, by rw [if_neg hmatch]⟩⟩

/-- An updated row is a row of before, as it was or with the new progress. -/
lemma mem_updateWhere {report : AsyncReport ν δ}
    (h : report ∈ (updateWhere reports publicId matching progress).1) :
    ∃ before ∈ reports, (report = before ∧
        ¬(before.publicId = publicId ∧ matching before.progress = true)) ∨
      (report = { before with progress := progress } ∧ before.publicId = publicId ∧
        matching before.progress = true) := by
  obtain ⟨before, hmem, rfl⟩ := List.mem_map.mp h
  refine ⟨before, hmem, ?_⟩
  by_cases hmatch : (before.publicId == publicId && matching before.progress) = true
  · rw [if_pos hmatch]
    rw [Bool.and_eq_true, beq_iff_eq] at hmatch
    exact Or.inr ⟨rfl, hmatch⟩
  · rw [if_neg hmatch]
    rw [Bool.and_eq_true, beq_iff_eq] at hmatch
    exact Or.inl ⟨rfl, hmatch⟩

lemma map_updateWhere {α : Type*} (f : AsyncReport ν δ → α)
    (hf : ∀ report progress, f { report with progress := progress } = f report) :
    (updateWhere reports publicId matching progress).1.map f = reports.map f := by
  rw [updateWhere, List.map_map]
  refine List.map_congr_left fun report _ => ?_
  rw [Function.comp_apply]
  split
  · exact hf report progress
  · rfl

lemma updateWhere_snd_le (hids : (reports.map (·.publicId)).Nodup) :
    (updateWhere reports publicId matching progress).2 ≤ 1 := by
  have hcount : reports.countP (fun report => report.publicId == publicId &&
      matching report.progress) ≤ (reports.map (·.publicId)).count publicId := by
    rw [List.count, List.countP_map]
    refine List.countP_mono_left fun report _ hmatch => ?_
    exact (Bool.and_eq_true_iff.mp hmatch).1
  exact hcount.trans (List.nodup_iff_count_le_one.mp hids publicId)

lemma updateWhere_snd_eq_zero :
    (updateWhere reports publicId matching progress).2 = 0 ↔
      ∀ report ∈ reports, report.publicId = publicId → matching report.progress = false := by
  rw [updateWhere, List.countP_eq_zero]
  simp

/-- Under distinct public ids an update counts one row exactly if there is one to update. -/
lemma updateWhere_snd_eq_one (hids : (reports.map (·.publicId)).Nodup) :
    (updateWhere reports publicId matching progress).2 = 1 ↔
      ∃ report ∈ reports, report.publicId = publicId ∧ matching report.progress = true := by
  have hle : (updateWhere reports publicId matching progress).2 ≤ 1 := updateWhere_snd_le hids
  have hzero : (updateWhere reports publicId matching progress).2 ≠ 0 ↔
      ∃ report ∈ reports, report.publicId = publicId ∧ matching report.progress = true := by
    rw [ne_eq, updateWhere_snd_eq_zero]
    simp
  rw [← hzero]
  omega

lemma mem_updateWhere_of_matching {report : AsyncReport ν δ} (hmem : report ∈ reports)
    (hid : report.publicId = publicId) (hmatch : matching report.progress = true) :
    { report with progress := progress } ∈
      (updateWhere reports publicId matching progress).1 := by
  refine List.mem_map.mpr ⟨report, hmem, ?_⟩
  rw [if_pos (by simp [hid, hmatch])]

end Update

lemma find_eq_some {reports : Table ν δ} {publicId : String} {report : AsyncReport ν δ}
    (h : find reports publicId = some report) : report ∈ reports ∧ report.publicId = publicId :=
  ⟨List.mem_of_find?_eq_some h, by simpa using List.find?_some h⟩

lemma find_eq_none {reports : Table ν δ} {publicId : String} :
    find reports publicId = none ↔ ∀ report ∈ reports, report.publicId ≠ publicId := by
  rw [find, List.find?_eq_none]
  simp

/-- The row has the account and the key of the request. -/
def SameKey (report : AsyncReport ν δ) (request : CreateAsyncReport ν δ) : Prop :=
  report.accountId = request.accountId ∧ report.idempotencyKeyHash = request.idempotencyKeyHash

section

variable [DecidableEq δ]

lemma findByKey_eq_some {reports : Table ν δ} {request : CreateAsyncReport ν δ}
    {report : AsyncReport ν δ}
    (h : findByKey reports request.accountId request.idempotencyKeyHash = some report) :
    report ∈ reports ∧ SameKey report request :=
  ⟨List.mem_of_find?_eq_some h, by simpa [SameKey] using List.find?_some h⟩

lemma findByKey_eq_none {reports : Table ν δ} {request : CreateAsyncReport ν δ} :
    findByKey reports request.accountId request.idempotencyKeyHash = none ↔
      ∀ report ∈ reports, ¬SameKey report request := by
  rw [findByKey, List.find?_eq_none]
  simp [SameKey]

lemma insertRow_cases (reports : Table ν δ) (request : CreateAsyncReport ν δ) :
    insertRow reports request = (reports, .conflict) ∧
      (∃ report ∈ reports, SameKey report request) ∨
    insertRow reports request = (reports, .violation) ∧
      (∃ report ∈ reports, report.publicId = request.publicId ∧ ¬SameKey report request) ∨
    insertRow reports request = (reports ++ [request.row], .row request.row) ∧
      (∀ report ∈ reports, ¬SameKey report request) ∧
      ∀ report ∈ reports, report.publicId ≠ request.publicId := by
  unfold insertRow
  split
  · rename_i hkey
    obtain ⟨report, hfound⟩ := Option.isSome_iff_exists.mp hkey
    exact Or.inl ⟨rfl, report, findByKey_eq_some hfound⟩
  · rename_i hkey
    rw [Option.not_isSome_iff_eq_none] at hkey
    split
    · rename_i hid
      obtain ⟨report, hfound⟩ := Option.isSome_iff_exists.mp hid
      obtain ⟨hmem, hid⟩ := find_eq_some hfound
      exact Or.inr (Or.inl ⟨rfl, report, hmem, hid, findByKey_eq_none.mp hkey report hmem⟩)
    · rename_i hid
      rw [Option.not_isSome_iff_eq_none] at hid
      exact Or.inr (Or.inr ⟨rfl, findByKey_eq_none.mp hkey, find_eq_none.mp hid⟩)

end

/-! ### What the requests bring -/

section

variable (P : Parameters ν δ)

/-- The texts of JSON values that are hashed for a request. -/
def texts : Request ν → List (List Char)
  | .create call =>
    match createCommand P call with
    | .ok request => [Reports.canonicalJson P.encoding
        (requestJson P request.reportType request.reportVersion request.input)]
    | .error _ => []
  | .complete callback =>
    match completionPayload callback with
    | .ok (_, report) => [Reports.canonicalJson P.encoding report]
    | .error _ => []
  | .fail _ => []

/-- A value that was hashed: its objects are maps, and its text is one of the texts. -/
structure Hashed (T : Set (List Char)) (value : Value ν) (digest : δ) : Prop where
  distinct : DistinctKeys value
  text : Reports.canonicalJson P.encoding value ∈ T
  digest : digest = sha256Json P value

end

lemma distinctKeys_of_get {object : JsonObject ν} {field : String} {value : Value ν}
    (h : get object field = some value) : DistinctKeys value := by
  obtain ⟨entry, hentry, rfl⟩ := Option.map_eq_some_iff.mp h
  have hdistinct := object.2
  rw [DistinctKeys] at hdistinct
  exact hdistinct.2 entry (List.mem_of_find?_eq_some hentry)

lemma orElse_eq_ok {α : Type} {error : ApiError} {x : Option α} {a : α} :
    orElse error x = .ok a ↔ x = some a := by
  cases x <;> simp [orElse]

variable {P : Parameters ν δ}

lemma distinctKeys_requestJson {reportType : String} {reportVersion : ReportVersion}
    {input : Value ν} :
    DistinctKeys (requestJson P reportType reportVersion input) ↔ DistinctKeys input := by
  simp [requestJson, DistinctKeys]

lemma createCommand_ok {call : CreateReport ν} {request : CreateAsyncReport ν δ}
    (h : createCommand P call = .ok request) : DistinctKeys request.input ∧
      request.requestDigest =
        sha256Json P (requestJson P request.reportType request.reportVersion request.input) ∧
      ∃ key, idempotencyKey call.idempotencyKey = .ok key ∧
        request.idempotencyKeyHash = P.sha256 key.toList := by
  unfold createCommand at h
  obtain ⟨accountId, -, h⟩ := bind_eq_ok.mp h
  obtain ⟨-, -, h⟩ := bind_eq_ok.mp h
  obtain ⟨key, hkey, h⟩ := bind_eq_ok.mp h
  obtain ⟨object, -, h⟩ := bind_eq_ok.mp h
  obtain ⟨-, -, h⟩ := bind_eq_ok.mp h
  obtain ⟨reportVersion, -, h⟩ := bind_eq_ok.mp h
  obtain ⟨input, hinput, h⟩ := bind_eq_ok.mp h
  obtain ⟨definition, -, h⟩ := bind_eq_ok.mp h
  cases h
  exact ⟨distinctKeys_of_get (orElse_eq_ok.mp hinput), rfl, key, hkey, rfl⟩

lemma completionPayload_ok {callback : Callback ν} {payload : JsonObject ν} {report : Value ν}
    (h : completionPayload callback = .ok (payload, report)) : DistinctKeys report := by
  unfold completionPayload at h
  obtain ⟨-, -, h⟩ := bind_eq_ok.mp h
  obtain ⟨-, -, h⟩ := bind_eq_ok.mp h
  obtain ⟨payload', -, h⟩ := bind_eq_ok.mp h
  obtain ⟨-, -, h⟩ := bind_eq_ok.mp h
  obtain ⟨report', hreport, h⟩ := bind_eq_ok.mp h
  cases h
  exact distinctKeys_of_get (orElse_eq_ok.mp hreport)

/-! ### The invariant -/

section

variable (P) (T : Set (List Char))

/-- One report for an account and a key, and every digest is that of what is stored with it. -/
structure TableOk (reports : Table ν δ) : Prop where
  keys : (reports.map fun report => (report.accountId, report.idempotencyKeyHash)).Nodup
  ids : (reports.map (·.publicId)).Nodup
  requests : ∀ report ∈ reports, Hashed P T
    (requestJson P report.reportType report.reportVersion report.input) report.requestDigest
  completed : ∀ report ∈ reports, ∀ value digest, report.progress = .completed value digest →
    Hashed P T value digest

variable {P T}

lemma tableOk_nil : TableOk P T [] :=
  ⟨List.nodup_nil, List.nodup_nil, by simp, by simp⟩

lemma TableOk.updateWhere {reports : Table ν δ} (h : TableOk P T reports) {publicId : String}
    {matching : Progress ν δ → Bool} {progress : Progress ν δ}
    (hprogress : ∀ value digest, progress = .completed value digest → Hashed P T value digest) :
    TableOk P T (updateWhere reports publicId matching progress).1 := by
  refine ⟨?_, ?_, ?_, ?_⟩
  · rw [map_updateWhere _ fun _ _ => rfl]
    exact h.keys
  · rw [map_updateWhere _ fun _ _ => rfl]
    exact h.ids
  · intro report hmem
    obtain ⟨before, hbefore, ⟨rfl, -⟩ | ⟨rfl, -⟩⟩ := mem_updateWhere hmem
    · exact h.requests _ hbefore
    · exact h.requests before hbefore
  · intro report hmem value digest hcompleted
    obtain ⟨before, hbefore, ⟨rfl, -⟩ | ⟨rfl, -⟩⟩ := mem_updateWhere hmem
    · exact h.completed _ hbefore value digest hcompleted
    · exact hprogress value digest hcompleted

lemma TableOk.append {reports : Table ν δ} (h : TableOk P T reports)
    {request : CreateAsyncReport ν δ} (hkey : ∀ report ∈ reports, ¬SameKey report request)
    (hid : ∀ report ∈ reports, report.publicId ≠ request.publicId)
    (hrequest : Hashed P T (requestJson P request.reportType request.reportVersion request.input)
      request.requestDigest) : TableOk P T (reports ++ [request.row]) := by
  refine ⟨?_, ?_, ?_, ?_⟩
  · refine nodup_map_concat h.keys fun report hreport heq => ?_
    exact hkey report hreport (Prod.ext_iff.mp heq)
  · exact nodup_map_concat h.ids hid
  · intro report hmem
    rcases List.mem_append.mp hmem with hmem | hmem
    · exact h.requests report hmem
    · rw [List.mem_singleton.mp hmem]
      exact hrequest
  · intro report hmem value digest hcompleted
    rcases List.mem_append.mp hmem with hmem | hmem
    · exact h.completed report hmem value digest hcompleted
    · rw [List.mem_singleton.mp hmem] at hcompleted
      cases hcompleted

lemma later_append (reports : Table ν δ) (report : AsyncReport ν δ) :
    Later reports (reports ++ [report]) :=
  fun before hmem => ⟨before.progress, .refl, List.mem_append_left _ hmem⟩

/-! ### What a call relies on -/

/-- The report of the id is stored under the key of the request, and for this request. -/
def Owns (reports : Table ν δ) (request : CreateAsyncReport ν δ) (publicId : String) : Prop :=
  ∃ report ∈ reports, report.publicId = publicId ∧ SameKey report request ∧
    report.requestDigest = request.requestDigest

/-- A report is stored under the key of the request for another request. -/
def Differs (reports : Table ν δ) (request : CreateAsyncReport ν δ) : Prop :=
  ∃ report ∈ reports, SameKey report request ∧ report.requestDigest ≠ request.requestDigest

/-- What is behind the answer to a request that was in order. -/
def Justified (reports : Table ν δ) (request : CreateAsyncReport ν δ) :
    Except ApiError Answer → Prop
  | .ok (.accepted publicId) => Owns reports request publicId
  | .ok _ => False
  | .error .idempotencyConflict => Differs reports request
  | .error .reportExecutionUnavailable => ∃ publicId, Owns reports request publicId
  | .error .databaseUnavailable => True
  | .error _ => False

def CreateRelies (reports : Table ν δ) (request : CreateAsyncReport ν δ) : Point ν δ → Prop
  | .insertReport request' => request' = request
  | .selectReport request' => request' = request ∧ ∃ report ∈ reports, SameKey report request
  | .handOff report | .markRunning report => Owns reports request report.publicId
  | .done answer => Justified reports request answer
  | _ => False

variable (P) in
def CompleteRelies (callback : Callback ν) : Point ν δ → Prop
  | .findToComplete reportId payload report =>
    reportId = callback.reportId ∧ completionPayload callback = .ok (payload, report)
  | .completeReport reportId report digest => reportId = callback.reportId ∧
    digest = sha256Json P report ∧ ∃ payload, completionPayload callback = .ok (payload, report)
  | .findCompleted reportId digest => reportId = callback.reportId ∧ ∃ payload report,
    completionPayload callback = .ok (payload, report) ∧ digest = sha256Json P report
  | .done _ => True
  | _ => False

variable (P) in
def FailRelies (reports : Table ν δ) (callback : Callback ν) : Point ν δ → Prop
  | .findToFail reportId payload =>
    reportId = callback.reportId ∧ failurePayload callback = .ok payload
  | .failReport reportId existing => reportId = callback.reportId ∧
    existing.publicId = reportId ∧
    (∃ payload, failurePayload callback = .ok payload ∧
      terminalIdentityMatches P existing payload = true) ∧
    ∃ progress, ReflTransGen Move existing.progress progress ∧
      { existing with progress := progress } ∈ reports
  | .done _ => True
  | _ => False

variable (P) in
def Relies (reports : Table ν δ) (req : Request ν) (point : Point ν δ) : Prop :=
  match req with
  | .create call =>
    match createCommand P call with
    | .ok request => CreateRelies reports request point
    | .error error => point = .done (.error error)
  | .complete callback => CompleteRelies P callback point
  | .fail callback => FailRelies P reports callback point

lemma Owns.later {reports reports' : Table ν δ} {request : CreateAsyncReport ν δ}
    {publicId : String} (hlater : Later reports reports') (h : Owns reports request publicId) :
    Owns reports' request publicId := by
  obtain ⟨report, hmem, hid, hkey, hdigest⟩ := h
  obtain ⟨progress, -, hmem'⟩ := hlater report hmem
  exact ⟨_, hmem', hid, hkey, hdigest⟩

lemma Differs.later {reports reports' : Table ν δ} {request : CreateAsyncReport ν δ}
    (hlater : Later reports reports') (h : Differs reports request) :
    Differs reports' request := by
  obtain ⟨report, hmem, hkey, hdigest⟩ := h
  obtain ⟨progress, -, hmem'⟩ := hlater report hmem
  exact ⟨_, hmem', hkey, hdigest⟩

lemma Justified.later {reports reports' : Table ν δ} {request : CreateAsyncReport ν δ}
    {answer : Except ApiError Answer} (hlater : Later reports reports')
    (h : Justified reports request answer) : Justified reports' request answer := by
  unfold Justified at h ⊢
  split at h
  · exact Owns.later hlater h
  · exact h
  · exact Differs.later hlater h
  · obtain ⟨publicId, h⟩ := h
    exact ⟨publicId, h.later hlater⟩
  · trivial
  · exact h

/-- What a call relies on stays true, whatever the others do. -/
lemma Relies.later {reports reports' : Table ν δ} {req : Request ν} {point : Point ν δ}
    (hlater : Later reports reports') (h : Relies P reports req point) :
    Relies P reports' req point := by
  unfold Relies at h ⊢
  cases req with
  | create call =>
    cases hcommand : createCommand P call with
    | error error => simpa [hcommand] using h
    | ok request =>
      simp only [hcommand] at h ⊢
      unfold CreateRelies at h ⊢
      split at h
      · exact h
      · obtain ⟨heq, report, hmem, hkey⟩ := h
        obtain ⟨progress, -, hmem'⟩ := hlater report hmem
        exact ⟨heq, _, hmem', hkey⟩
      · exact h.later hlater
      · exact h.later hlater
      · exact h.later hlater
      · exact h
  | complete callback => exact h
  | fail callback =>
    simp only at h ⊢
    unfold FailRelies at h ⊢
    split at h
    · exact h
    · obtain ⟨hid, hexisting, hpayload, progress, hmoves, hmem⟩ := h
      obtain ⟨progress', hmoves', hmem'⟩ := hlater _ hmem
      exact ⟨hid, hexisting, hpayload, progress', hmoves.trans hmoves', hmem'⟩
    · trivial
    · exact h

end

/-! ### What a statement does -/

lemma enter_relies (reports : Table ν δ) (req : Request ν) :
    Relies P reports req (enter P req) := by
  unfold Relies enter
  cases req with
  | create call =>
    cases hcommand : createCommand P call with
    | ok request => simp [hcommand, CreateRelies]
    | error error => simp [hcommand]
  | complete callback =>
    simp only
    split
    · rename_i payload report hpayload
      exact ⟨rfl, hpayload⟩
    · trivial
  | fail callback =>
    simp only
    split
    · rename_i payload hpayload
      exact ⟨rfl, hpayload⟩
    · trivial

lemma later_markRunning (reports : Table ν δ) (publicId : String) :
    Later reports (AsyncReports.markRunning reports publicId) := by
  refine later_updateWhere fun before hbefore => ?_
  cases before with
  | accepted => exact .start
  | _ => cases hbefore

lemma later_complete (reports : Table ν δ) (publicId : String) (report : Value ν) (digest : δ) :
    Later reports (AsyncReports.complete reports publicId report digest).1 :=
  later_updateWhere fun _ hbefore => .complete hbefore report digest

lemma later_fail (reports : Table ν δ) (publicId : String) :
    Later reports (AsyncReports.fail reports publicId).1 :=
  later_updateWhere fun _ hbefore => .fail hbefore _

section

variable [DecidableEq δ] {T : Set (List Char)}

/-- What the row that was created or found leads to is justified by it. -/
lemma resume_relies {reports : Table ν δ} {request : CreateAsyncReport ν δ}
    {report : AsyncReport ν δ} {created : Bool} (hmem : report ∈ reports)
    (hkey : SameKey report request)
    (hcreated : created = true → report.requestDigest = request.requestDigest) :
    CreateRelies reports request (resume request report created) := by
  unfold resume
  split
  · rename_i hconflict
    simp only [Bool.and_eq_true, Bool.not_eq_eq_eq_not, Bool.not_true, bne_iff_ne, ne_eq]
      at hconflict
    exact ⟨report, hmem, hkey, hconflict.2⟩
  · rename_i hsame
    have hdigest : report.requestDigest = request.requestDigest := by
      cases created with
      | true => exact hcreated rfl
      | false => simpa using hsame
    split
    · exact ⟨report, hmem, rfl, hkey, hdigest⟩
    · exact ⟨report, hmem, rfl, hkey, hdigest⟩

/-- What holds after a statement: the table is in order, its rows are there, moved on, and the
call may rely on what it needs next. -/
structure After (P : Parameters ν δ) (T : Set (List Char)) (reports : Table ν δ) (req : Request ν)
    (reports' : Table ν δ) (point' : Point ν δ) : Prop where
  ok : TableOk P T reports'
  later : Later reports reports'
  relies : Relies P reports' req point'

lemma create_after {reports reports' : Table ν δ} {call : CreateReport ν}
    {point point' : Point ν δ} {outcome : Outcome} (hok : TableOk P T reports)
    (htexts : ∀ text ∈ texts P (.create call), text ∈ T)
    (h : Relies P reports (.create call) point)
    (hadvance : advance P reports point outcome = some (reports', point')) :
    After P T reports (.create call) reports' point' := by
  cases hcommand : createCommand P call with
  | error error =>
    simp only [Relies, hcommand] at h
    subst h
    cases hadvance
  | ok request =>
    have hrelies : ∀ reports point, CreateRelies reports request point →
        Relies P reports (.create call) point := by
      intro reports point hcreate
      simpa [Relies, hcommand] using hcreate
    have hdatabase : ∀ reports, CreateRelies reports request (databaseError : Point ν δ) :=
      fun _ => trivial
    obtain ⟨hdistinct, hdigest, -⟩ := createCommand_ok hcommand
    have hhashed : Hashed P T (requestJson P request.reportType request.reportVersion
        request.input) request.requestDigest :=
      ⟨distinctKeys_requestJson.mpr hdistinct, htexts _ (by simp [texts, hcommand]), hdigest⟩
    simp only [Relies, hcommand] at h
    have hinsert : TableOk P T (insertRow reports request).1 ∧
        Later reports (insertRow reports request).1 ∧
        CreateRelies (insertRow reports request).1 request
          (afterInsert request (insertRow reports request).2) := by
      rcases insertRow_cases reports request with ⟨heq, hthere⟩ | ⟨heq, -⟩ | ⟨heq, hkey, hid⟩ <;>
        rw [heq]
      · exact ⟨hok, later_refl _, rfl, hthere⟩
      · exact ⟨hok, later_refl _, hdatabase _⟩
      · exact ⟨hok.append hkey hid hhashed, later_append _ _,
          resume_relies (by simp) ⟨rfl, rfl⟩ fun _ => rfl⟩
    cases point with
    | insertReport request' =>
      obtain rfl : request' = request := h
      cases outcome <;> cases hadvance
      · exact ⟨hinsert.1, hinsert.2.1, hrelies _ _ hinsert.2.2⟩
      · exact ⟨hok, later_refl _, hrelies _ _ (hdatabase _)⟩
      · exact ⟨hinsert.1, hinsert.2.1, hrelies _ _ (hdatabase _)⟩
    | selectReport request' =>
      obtain rfl : request' = request := h.1
      cases outcome <;> cases hadvance
      · refine ⟨hok, later_refl _, hrelies _ _ ?_⟩
        unfold afterSelect
        split
        · rename_i report hfound
          obtain ⟨hmem, hkey⟩ := findByKey_eq_some hfound
          exact resume_relies hmem hkey nofun
        · exact hdatabase _
      · exact ⟨hok, later_refl _, hrelies _ _ (hdatabase _)⟩
      · exact ⟨hok, later_refl _, hrelies _ _ (hdatabase _)⟩
    | handOff report =>
      cases outcome <;> cases hadvance
      · exact ⟨hok, later_refl _, hrelies _ _ h⟩
      · exact ⟨hok, later_refl _, hrelies _ _ ⟨_, h⟩⟩
      · exact ⟨hok, later_refl _, hrelies _ _ ⟨_, h⟩⟩
    | markRunning report =>
      have hmarked : TableOk P T (AsyncReports.markRunning reports report.publicId) :=
        hok.updateWhere nofun
      have hlater := later_markRunning reports report.publicId
      cases outcome <;> cases hadvance
      · exact ⟨hmarked, hlater, hrelies _ _ (Owns.later hlater h)⟩
      · exact ⟨hok, later_refl _, hrelies _ _ (hdatabase _)⟩
      · exact ⟨hmarked, hlater, hrelies _ _ (hdatabase _)⟩
    | done answer => cases hadvance
    | _ => cases h

lemma complete_after {reports reports' : Table ν δ} {callback : Callback ν}
    {point point' : Point ν δ} {outcome : Outcome} (hok : TableOk P T reports)
    (htexts : ∀ text ∈ texts P (.complete callback), text ∈ T)
    (h : Relies P reports (.complete callback) point)
    (hadvance : advance P reports point outcome = some (reports', point')) :
    After P T reports (.complete callback) reports' point' := by
  have hdatabase : CompleteRelies P callback (databaseError : Point ν δ) := trivial
  have h : CompleteRelies P callback point := h
  cases point with
  | findToComplete reportId payload report =>
    obtain ⟨hid, hpayload⟩ := h
    cases outcome <;> cases hadvance
    · refine ⟨hok, later_refl _, ?_⟩
      show CompleteRelies P callback _
      unfold afterFindToComplete
      split
      · trivial
      split
      · trivial
      split
      · trivial
      · exact ⟨hid, rfl, payload, hpayload⟩
    · exact ⟨hok, later_refl _, hdatabase⟩
    · exact ⟨hok, later_refl _, hdatabase⟩
  | completeReport reportId report digest =>
    obtain ⟨hid, hdigest, payload, hpayload⟩ := h
    have hcompleted : TableOk P T (AsyncReports.complete reports reportId report digest).1 := by
      refine hok.updateWhere fun value digest' heq => ?_
      cases heq
      exact ⟨completionPayload_ok hpayload, htexts _ (by simp [texts, hpayload]), hdigest⟩
    have hlater := later_complete reports reportId report digest
    cases outcome <;> cases hadvance
    · refine ⟨hcompleted, hlater, ?_⟩
      show CompleteRelies P callback _
      split
      · trivial
      · exact ⟨hid, payload, report, hpayload, hdigest⟩
    · exact ⟨hok, later_refl _, hdatabase⟩
    · exact ⟨hcompleted, hlater, hdatabase⟩
  | findCompleted reportId digest =>
    cases outcome <;> cases hadvance
    · refine ⟨hok, later_refl _, ?_⟩
      show CompleteRelies P callback _
      unfold afterFindCompleted completedAnswer
      split
      · trivial
      split
      · split <;> trivial
      · trivial
    · exact ⟨hok, later_refl _, hdatabase⟩
    · exact ⟨hok, later_refl _, hdatabase⟩
  | done answer => cases hadvance
  | _ => cases h

lemma fail_after {reports reports' : Table ν δ} {callback : Callback ν}
    {point point' : Point ν δ} {outcome : Outcome} (hok : TableOk P T reports)
    (h : Relies P reports (.fail callback) point)
    (hadvance : advance P reports point outcome = some (reports', point')) :
    After P T reports (.fail callback) reports' point' := by
  have hdatabase : ∀ reports, FailRelies P reports callback (databaseError : Point ν δ) :=
    fun _ => trivial
  have h : FailRelies P reports callback point := h
  cases point with
  | findToFail reportId payload =>
    obtain ⟨hid, hpayload⟩ := h
    cases outcome <;> cases hadvance
    · refine ⟨hok, later_refl _, ?_⟩
      show FailRelies P reports callback _
      unfold afterFindToFail
      split
      · trivial
      · rename_i existing hfound
        obtain ⟨hmem, hexisting⟩ := find_eq_some hfound
        split
        · rename_i hmatches
          exact ⟨hid, hexisting, ⟨payload, hpayload, hmatches⟩, existing.progress, .refl, hmem⟩
        · trivial
    · exact ⟨hok, later_refl _, hdatabase reports⟩
    · exact ⟨hok, later_refl _, hdatabase reports⟩
  | failReport reportId existing =>
    have hfailed : TableOk P T (AsyncReports.fail reports reportId).1 := hok.updateWhere nofun
    have hlater := later_fail reports reportId
    cases outcome <;> cases hadvance
    · refine ⟨hfailed, hlater, ?_⟩
      show FailRelies P _ callback _
      split <;> trivial
    · exact ⟨hok, later_refl _, hdatabase reports⟩
    · exact ⟨hfailed, hlater, hdatabase (AsyncReports.fail reports reportId).1⟩
  | done answer => cases hadvance
  | _ => cases h

/-- The invariant of the reports, for the texts that are hashed. -/
lemma keeps (P : Parameters ν δ) (T : Set (List Char)) :
    Keeps (system P) (fun req => ∀ text ∈ texts P req, text ∈ T) Later (TableOk P T)
      fun reports req point => (∀ text ∈ texts P req, text ∈ T) ∧ Relies P reports req point where
  enter reports req _ htexts := ⟨htexts, enter_relies reports req⟩
  change reports req point outcome reports' point' hok h hadvance := by
    obtain ⟨htexts, h⟩ := h
    have hafter : After P T reports req reports' point' := by
      cases req with
      | create call => exact create_after hok htexts h hadvance
      | complete callback => exact complete_after hok htexts h hadvance
      | fail callback => exact fail_after hok h hadvance
    exact ⟨hafter.ok, hafter.later, htexts, hafter.relies⟩
  stable _ _ _ _ hlater h := ⟨h.1, h.2.later hlater⟩

end

end MotherApi.ReportLifecycle
