import MotherApi.CanonicalJson
import MotherApi.Lib.Handlers
import MotherApi.Strings

/-!
Reports that are produced elsewhere and delivered later.

A request for a report is stored under the account and the hash of its idempotency key, handed to
Bigwig, and marked as running. Bigwig calls back with the report or with a failure. Every
statement on the table is by itself, so between two statements of a call anything can happen to
the report, the call back of the same report included.

The catalog of report types, the hash, the numbers of the JSON library and the way it writes them
are parameters.
-/

namespace MotherApi.AsyncReports

open MotherApi.Lib.JsonTrees MotherApi.CanonicalJson MotherApi.Strings

inductive ApiError
  | capabilityNotGranted | invalidJson | idempotencyKeyRequired | invalidIdempotencyKey
  | unknownField | invalidRequest | unsupportedReportType | databaseUnavailable
  | idempotencyConflict | reportExecutionUnavailable | reportTooLarge | reportNotFound
  deriving DecidableEq

structure ReportDefinition where
  reportType : String
  version : ℤ
  deriving DecidableEq

/-- What the reports rest on: the JSON numbers and how they are written, the catalog of report
types with its checks, and the hash. -/
structure Parameters (ν δ : Type) where
  encoding : Encoding ν
  asI64 : ν → Option ℤ
  ofI32 : ℤ → ν
  lookup : String → ℤ → Option ReportDefinition
  validateInput : ReportDefinition → Value ν → Bool
  validateReport : ReportDefinition → Value ν → Bool
  sha256 : List Char → δ

/-- A version is an `i32` above zero. -/
abbrev ReportVersion := { version : ℤ // 0 < version ∧ version < 2 ^ 31 }

/-- `i32::try_from`, and the test that follows it. -/
def toReportVersion (n : ℤ) : Option ReportVersion :=
  if h : 0 < n ∧ n < 2 ^ 31 then some ⟨n, h⟩ else none

/-- JSON is written one to one, and numbers that are versions are different for different
versions. -/
structure Parameters.Lawful {ν δ : Type} (P : Parameters ν δ) : Prop where
  encoding : P.encoding.Lawful
  ofI32 : ∀ v w : ReportVersion, P.ofI32 v = P.ofI32 w → v = w

/-! ### The table -/

/-- Where a report stands, with what is stored of it there. -/
inductive Progress (ν δ : Type)
  | accepted
  | running
  | completed (report : Value ν) (reportDigest : δ)
  | failed (failureCode : String)

variable {ν δ : Type}

/-- `status in ('accepted', 'running')`. -/
def Progress.isOpen : Progress ν δ → Bool
  | .accepted | .running => true
  | _ => false

def Progress.isAccepted : Progress ν δ → Bool
  | .accepted => true
  | _ => false

def Progress.isFailed : Progress ν δ → Bool
  | .failed _ => true
  | _ => false

structure AsyncReport (ν δ : Type) where
  publicId : String
  accountId : ℕ
  idempotencyKeyHash : δ
  reportType : String
  reportVersion : ReportVersion
  input : Value ν
  requestDigest : δ
  progress : Progress ν δ

structure CreateAsyncReport (ν δ : Type) where
  publicId : String
  accountId : ℕ
  reportType : String
  reportVersion : ReportVersion
  input : Value ν
  idempotencyKeyHash : δ
  requestDigest : δ

abbrev Table (ν δ : Type) := List (AsyncReport ν δ)

def CreateAsyncReport.row (request : CreateAsyncReport ν δ) : AsyncReport ν δ where
  publicId := request.publicId
  accountId := request.accountId
  idempotencyKeyHash := request.idempotencyKeyHash
  reportType := request.reportType
  reportVersion := request.reportVersion
  input := request.input
  requestDigest := request.requestDigest
  progress := .accepted

def find (reports : Table ν δ) (publicId : String) : Option (AsyncReport ν δ) :=
  reports.find? (·.publicId == publicId)

def findByKey [DecidableEq δ] (reports : Table ν δ) (accountId : ℕ) (idempotencyKeyHash : δ) :
    Option (AsyncReport ν δ) :=
  reports.find? fun report =>
    report.accountId == accountId && report.idempotencyKeyHash == idempotencyKeyHash

/-- What the insertion of a report answers: the row, nothing on a conflict of the key, or an
error of the database on a conflict of the public id. -/
inductive Inserted (ν δ : Type)
  | row (report : AsyncReport ν δ)
  | conflict
  | violation

def insertRow [DecidableEq δ] (reports : Table ν δ) (request : CreateAsyncReport ν δ) :
    Table ν δ × Inserted ν δ :=
  if (findByKey reports request.accountId request.idempotencyKeyHash).isSome then
    (reports, .conflict)
  else if (find reports request.publicId).isSome then (reports, .violation)
  else (reports ++ [request.row], .row request.row)

/-- An update of the rows of a public id whose progress is as asked, and how many there were. -/
def updateWhere (reports : Table ν δ) (publicId : String) (matching : Progress ν δ → Bool)
    (progress : Progress ν δ) : Table ν δ × ℕ :=
  (reports.map fun report =>
    if report.publicId == publicId && matching report.progress then
      { report with progress := progress } else report,
    reports.countP fun report => report.publicId == publicId && matching report.progress)

def markRunning (reports : Table ν δ) (publicId : String) : Table ν δ :=
  (updateWhere reports publicId Progress.isAccepted .running).1

def complete (reports : Table ν δ) (publicId : String) (report : Value ν) (digest : δ) :
    Table ν δ × Bool :=
  let (reports, rowsAffected) :=
    updateWhere reports publicId Progress.isOpen (.completed report digest)
  (reports, rowsAffected == 1)

def fail (reports : Table ν δ) (publicId : String) : Table ν δ × Bool :=
  let (reports, rowsAffected) :=
    updateWhere reports publicId Progress.isOpen (.failed "execution_failed")
  (reports, rowsAffected == 1)

/-! ### Requests -/

def refuseIf (condition : Bool) (error : ApiError) : Except ApiError Unit :=
  if condition then .error error else .ok ()

def orElse {α : Type} (error : ApiError) : Option α → Except ApiError α
  | some a => .ok a
  | none => .error error

/-- A header: it is missing, it is not text, or it is. -/
inductive Header
  | missing
  | notText
  | text (value : String)
  deriving DecidableEq

/-- A body by its length in bytes and the JSON value that it is, if it is one. -/
structure Body (ν : Type) where
  bytes : ℕ
  json : Option (Json ν)

/-- A call for a report. The public id is the one that is drawn for it. -/
structure CreateReport (ν : Type) where
  keyKind : String
  ibAccountId : Option ℕ
  reportType : String
  contentType : Header
  idempotencyKey : Header
  body : Body ν
  publicId : String

/-- A call back about a report. -/
structure Callback (ν : Type) where
  reportId : String
  contentType : Header
  body : Body ν

def isJsonContentType (value : String) : Bool :=
  let mime := (toAsciiLowercase (trim (String.ofList (value.toList.takeWhile (· != ';'))))).toList
  let subtype := mime.drop 12
  mime.take 12 == "application/".toList &&
    (subtype == "json".toList || "+json".toList.isSuffixOf subtype)

def ensureJsonContentType : Header → Except ApiError Unit
  | .text value => if isJsonContentType value then .ok () else .error .invalidJson
  | _ => .error .invalidJson

abbrev JsonObject (ν : Type) :=
  { entries : List (String × Value ν) // DistinctKeys (.object entries) }

def parseJsonObjectBody (body : Body ν) : Except ApiError (JsonObject ν) :=
  match body.json with
  | some ⟨.object entries, distinct⟩ => .ok ⟨entries, distinct⟩
  | _ => .error .invalidJson

def rejectUnknownFields (object : JsonObject ν) (allowedFields : List String) :
    Except ApiError Unit :=
  refuseIf (object.1.any fun entry => !allowedFields.contains entry.1) .unknownField

def get (object : JsonObject ν) (field : String) : Option (Value ν) :=
  (object.1.find? (·.1 == field)).map Prod.snd

def accountPrincipal (keyKind : String) (ibAccountId : Option ℕ) : Except ApiError ℕ :=
  if keyKind = "account" ∨ keyKind = "agent" then
    match ibAccountId with
    | some accountId => .ok accountId
    | none => .error .capabilityNotGranted
  else .error .capabilityNotGranted

def idempotencyKey : Header → Except ApiError String
  | .missing => .error .idempotencyKeyRequired
  | .notText => .error .invalidIdempotencyKey
  | .text value =>
    if value.isEmpty ∨ value.length > 255 then .error .invalidIdempotencyKey else .ok value

section

variable (P : Parameters ν δ)

def valueAsI64 : Value ν → Option ℤ
  | .number n => P.asI64 n
  | _ => none

def valueAsStr : Value ν → Option String
  | .string s => some s
  | _ => none

/-- The JSON value of a request that is hashed. -/
def requestJson (reportType : String) (reportVersion : ReportVersion) (input : Value ν) :
    Value ν :=
  .object [("report_type", .string reportType), ("report_version", .number (P.ofI32 reportVersion)),
    ("input", input)]

def sha256Json (value : Value ν) : δ := P.sha256 (Reports.canonicalJson P.encoding value)

/-- What a call for a report checks before it asks the database. -/
def createCommand (call : CreateReport ν) : Except ApiError (CreateAsyncReport ν δ) := do
  let accountId ← accountPrincipal call.keyKind call.ibAccountId
  ensureJsonContentType call.contentType
  let key ← idempotencyKey call.idempotencyKey
  let request ← parseJsonObjectBody call.body
  rejectUnknownFields request ["report_version", "input"]
  let reportVersion ← orElse .invalidRequest
    (((get request "report_version").bind (valueAsI64 P)).bind toReportVersion)
  let input ← orElse .invalidRequest (get request "input")
  let definition ← orElse .unsupportedReportType
    ((P.lookup call.reportType reportVersion).filter (P.validateInput · input))
  return {
    publicId := call.publicId
    accountId := accountId
    reportType := definition.reportType
    reportVersion := reportVersion
    input := input
    idempotencyKeyHash := P.sha256 key.toList
    requestDigest := sha256Json P (requestJson P definition.reportType reportVersion input) }

def maxReportBytes : ℕ := 1024 * 1024

/-- The payload of a completion and the report in it. -/
def completionPayload (callback : Callback ν) : Except ApiError (JsonObject ν × Value ν) := do
  ensureJsonContentType callback.contentType
  refuseIf (callback.body.bytes > maxReportBytes) .reportTooLarge
  let payload ← parseJsonObjectBody callback.body
  rejectUnknownFields payload ["report_type", "report_version", "report"]
  let report ← orElse .invalidRequest (get payload "report")
  return (payload, report)

def failurePayload (callback : Callback ν) : Except ApiError (JsonObject ν) := do
  ensureJsonContentType callback.contentType
  let payload ← parseJsonObjectBody callback.body
  rejectUnknownFields payload ["report_type", "report_version", "failure_code"]
  refuseIf ((get payload "failure_code").bind valueAsStr != some "execution_failed") .invalidRequest
  return payload

def terminalIdentityMatches (existing : AsyncReport ν δ) (payload : JsonObject ν) : Bool :=
  (get payload "report_type").bind valueAsStr == some existing.reportType &&
    (get payload "report_version").bind (valueAsI64 P) == some existing.reportVersion.1

/-! ### The handlers, statement by statement -/

inductive Request (ν : Type)
  | create (call : CreateReport ν)
  | complete (callback : Callback ν)
  | fail (callback : Callback ν)

/-- What a call that succeeds says about the report. -/
inductive Answer
  | accepted (reportId : String)
  | completed (reportId : String)
  | failed (reportId : String)
  deriving DecidableEq

/-- The statement that a call comes to next, with what the handler has at hand there. -/
inductive Point (ν δ : Type)
  | insertReport (request : CreateAsyncReport ν δ)
  | selectReport (request : CreateAsyncReport ν δ)
  | handOff (report : AsyncReport ν δ)
  | markRunning (report : AsyncReport ν δ)
  | findToComplete (reportId : String) (payload : JsonObject ν) (report : Value ν)
  | completeReport (reportId : String) (report : Value ν) (digest : δ)
  | findCompleted (reportId : String) (digest : δ)
  | findToFail (reportId : String) (payload : JsonObject ν)
  | failReport (reportId : String) (existing : AsyncReport ν δ)
  | done (answer : Except ApiError Answer)

/-- How a statement or the handoff to Bigwig goes: it is done, it is not done and answers with an
error, or it is done but answers with an error. -/
inductive Outcome
  | done | notDone | lost
  deriving DecidableEq

def enter : Request ν → Point ν δ
  | .create call =>
    match createCommand P call with
    | .ok request => .insertReport request
    | .error error => .done (.error error)
  | .complete callback =>
    match completionPayload callback with
    | .ok (payload, report) => .findToComplete callback.reportId payload report
    | .error error => .done (.error error)
  | .fail callback =>
    match failurePayload callback with
    | .ok payload => .findToFail callback.reportId payload
    | .error error => .done (.error error)

variable [DecidableEq δ]

/-- What a call for a report does with the report it created or found. -/
def resume (request : CreateAsyncReport ν δ) (report : AsyncReport ν δ) (created : Bool) :
    Point ν δ :=
  if !created && report.requestDigest != request.requestDigest then
    .done (.error .idempotencyConflict)
  else if created || report.progress.isAccepted then .handOff report
  else .done (.ok (.accepted report.publicId))

def afterInsert (request : CreateAsyncReport ν δ) : Inserted ν δ → Point ν δ
  | .row report => resume request report true
  | .conflict => .selectReport request
  | .violation => .done (.error .databaseUnavailable)

def afterSelect (request : CreateAsyncReport ν δ) : Option (AsyncReport ν δ) → Point ν δ
  | some report => resume request report false
  | none => .done (.error .databaseUnavailable)

def afterFindToComplete (reportId : String) (payload : JsonObject ν) (report : Value ν) :
    Option (AsyncReport ν δ) → Point ν δ
  | none => .done (.error .reportNotFound)
  | some existing =>
    if !terminalIdentityMatches P existing payload then .done (.error .invalidRequest)
    else
      match (P.lookup existing.reportType existing.reportVersion).filter
          (P.validateReport · report) with
      | none => .done (.error .unsupportedReportType)
      | some _ => .completeReport reportId report (sha256Json P report)

def completedAnswer (reportId : String) : Point ν δ := .done (.ok (.completed reportId))

def afterFindCompleted (reportId : String) (digest : δ) : Option (AsyncReport ν δ) → Point ν δ
  | none => .done (.error .reportNotFound)
  | some current =>
    match current.progress with
    | .completed _ reportDigest =>
      if reportDigest = digest then completedAnswer reportId
      else .done (.error .idempotencyConflict)
    | _ => .done (.error .idempotencyConflict)

def afterFindToFail (reportId : String) (payload : JsonObject ν) :
    Option (AsyncReport ν δ) → Point ν δ
  | none => .done (.error .reportNotFound)
  | some existing =>
    if terminalIdentityMatches P existing payload then .failReport reportId existing
    else .done (.error .invalidRequest)

def databaseError : Point ν δ := .done (.error .databaseUnavailable)

/-- One statement. A query that fails or whose rows are lost changes nothing. -/
def advance (reports : Table ν δ) : Point ν δ → Outcome → Option (Table ν δ × Point ν δ)
  | .insertReport request, .done =>
    let (reports, inserted) := insertRow reports request
    some (reports, afterInsert request inserted)
  | .insertReport request, .lost => some ((insertRow reports request).1, databaseError)
  | .selectReport request, .done =>
    some (reports, afterSelect request
      (findByKey reports request.accountId request.idempotencyKeyHash))
  | .handOff report, .done => some (reports, .markRunning report)
  | .handOff _, _ => some (reports, .done (.error .reportExecutionUnavailable))
  | .markRunning report, .done =>
    some (AsyncReports.markRunning reports report.publicId,
      .done (.ok (.accepted report.publicId)))
  | .markRunning report, .lost =>
    some (AsyncReports.markRunning reports report.publicId, databaseError)
  | .findToComplete reportId payload report, .done =>
    some (reports, afterFindToComplete P reportId payload report (find reports reportId))
  | .completeReport reportId report digest, .done =>
    let (reports, updated) := AsyncReports.complete reports reportId report digest
    some (reports, if updated then completedAnswer reportId else .findCompleted reportId digest)
  | .completeReport reportId report digest, .lost =>
    some ((AsyncReports.complete reports reportId report digest).1, databaseError)
  | .findCompleted reportId digest, .done =>
    some (reports, afterFindCompleted reportId digest (find reports reportId))
  | .findToFail reportId payload, .done =>
    some (reports, afterFindToFail P reportId payload (find reports reportId))
  | .failReport reportId existing, .done =>
    let (reports, updated) := AsyncReports.fail reports reportId
    some (reports, if updated || existing.progress.isFailed then .done (.ok (.failed reportId))
      else .done (.error .idempotencyConflict))
  | .failReport reportId _, .lost => some ((AsyncReports.fail reports reportId).1, databaseError)
  | .done _, _ => none
  | _, _ => some (reports, databaseError)

def system : Lib.Handlers.System (Table ν δ) (Request ν) (Point ν δ) Outcome :=
  ⟨enter P, advance P⟩

end

end MotherApi.AsyncReports
