import MotherApi.Lib.Transactions

/-!
Browser sessions, and the requests that make, extend and end them.

A session is made by a signup or a login, in the transaction that revokes the other sessions of the
account. It is looked up and revoked by its hash, in one statement, and an operator who changes the
status of an account revokes its sessions. The time of a transaction is that of its beginning.

Ids and hashes are numbers. The rows of the unrevoked sessions of an account are taken together. A
login is modelled from where its password has been verified, for whatever identity. The grants and
the workspace of a new account are left out, and so are the columns that nothing here reads.
-/

namespace MotherApi.BrowserSessions

open MotherApi.Lib.Transactions

def SESSION_ABSOLUTE_TTL_SECONDS : ℕ := 8 * 60 * 60
def SESSION_IDLE_TTL_SECONDS : ℕ := 30 * 60

/-! ### The tables -/

inductive AccountStatus
  | pendingVerification | active | suspended | closed
  deriving DecidableEq

inductive IdentityStatus
  | pendingVerification | verified | disabled
  deriving DecidableEq

structure AccountIdentity where
  accountId : ℕ
  status : IdentityStatus
  passwordHash : Option String
  deriving DecidableEq

structure BrowserSession where
  accountId : ℕ
  identityId : ℕ
  sessionHash : ℕ
  csrfHash : ℕ
  createdAt : ℕ
  expiresAt : ℕ
  idleExpiresAt : ℕ
  revokedAt : Option ℕ
  deriving DecidableEq

/-- The accounts and the identities by their ids, the index on the email of an identity, and the
sessions in the order of their commits. -/
structure Db where
  accounts : ℕ → Option AccountStatus
  identities : ℕ → Option AccountIdentity
  emails : ℕ → Option ℕ
  sessions : List BrowserSession

def isUnrevoked (accountId : ℕ) (session : BrowserSession) : Bool :=
  session.accountId == accountId && session.revokedAt.isNone

namespace Db

variable (db : Db)

def unrevoked (accountId : ℕ) : List BrowserSession := db.sessions.filter (isUnrevoked accountId)

def hasHash (sessionHash : ℕ) : Bool := db.sessions.any (·.sessionHash == sessionHash)

def mapSessions (change : BrowserSession → BrowserSession) : Db :=
  { db with sessions := db.sessions.map change }

end Db

/-! ### Statements -/

/-- No session is revoked before it was created. -/
def revocable (which : BrowserSession → Bool) (now : ℕ) (db : Db) : Bool :=
  (db.sessions.filter which).all fun session => session.createdAt ≤ now

def revoke (which : BrowserSession → Bool) (now : ℕ) (db : Db) : Db :=
  db.mapSessions fun session =>
    if which session then { session with revokedAt := some now } else session

def hasUnrevokedHash (sessionHash : ℕ) (session : BrowserSession) : Bool :=
  session.sessionHash == sessionHash && session.revokedAt.isNone

def revokeSession (sessionHash now : ℕ) (db : Db) : Db :=
  if revocable (hasUnrevokedHash sessionHash) now db then
    revoke (hasUnrevokedHash sessionHash) now db
  else db

structure BrowserSessionLookup where
  accountId : ℕ
  csrfHash : ℕ
  deriving DecidableEq

/-- The condition of the lookup. -/
def isCurrent (db : Db) (sessionHash now : ℕ) (session : BrowserSession) : Bool :=
  session.sessionHash == sessionHash && session.revokedAt.isNone && now < session.expiresAt &&
    now < session.idleExpiresAt && db.accounts session.accountId == some .active &&
    (db.identities session.identityId).any (·.status != .disabled)

/-- The lookup extends the session that it finds. -/
def findSession (sessionHash now : ℕ) (db : Db) : Db × Option BrowserSessionLookup :=
  let extended := db.mapSessions fun session =>
    if isCurrent db sessionHash now session then
      { session with idleExpiresAt := min session.expiresAt (now + SESSION_IDLE_TTL_SECONDS) }
    else session
  (extended, (db.sessions.find? (isCurrent db sessionHash now)).map fun session =>
    ⟨session.accountId, session.csrfHash⟩)

/-- The row that is inserted for a session. -/
def newSession (now accountId identityId sessionHash csrfHash : ℕ) : BrowserSession where
  accountId := accountId
  identityId := identityId
  sessionHash := sessionHash
  csrfHash := csrfHash
  createdAt := now
  expiresAt := now + SESSION_ABSOLUTE_TTL_SECONDS
  idleExpiresAt := now + SESSION_IDLE_TTL_SECONDS
  revokedAt := none

def createSession (now accountId identityId sessionHash csrfHash : ℕ) (db : Db) : Db :=
  let db := revoke (isUnrevoked accountId) now db
  { db with
    sessions := db.sessions ++ [newSession now accountId identityId sessionHash csrfHash] }

/-- The account that an identity may log in to. -/
def loginAccount (db : Db) (identityId : ℕ) : Option ℕ := do
  let identity ← db.identities identityId
  if identity.status ≠ .disabled ∧ identity.passwordHash.isSome ∧
      db.accounts identity.accountId = some .active then
    some identity.accountId
  else none

/-! ### Requests -/

/-- A request carries the ids and hashes that are drawn for its rows. -/
inductive Request
  | signup (email accountId identityId : ℕ) (passwordHash : String) (sessionHash csrfHash : ℕ)
  | login (identityId sessionHash csrfHash : ℕ)
  | findSession (sessionHash : ℕ)
  | revokeSession (sessionHash : ℕ)
  | setAccountStatus (accountId : ℕ) (status : AccountStatus)
  deriving DecidableEq

/-- What the transaction of a request on an account writes. -/
def Request.apply (now accountId : ℕ) (db : Db) : Request → Db
  | .signup email _ identityId passwordHash sessionHash csrfHash =>
    createSession now accountId identityId sessionHash csrfHash
      { db with
        accounts := Function.update db.accounts accountId (some .active)
        identities := Function.update db.identities identityId
          (some ⟨accountId, .pendingVerification, some passwordHash⟩)
        emails := Function.update db.emails email (some identityId) }
  | .login identityId sessionHash csrfHash =>
    createSession now accountId identityId sessionHash csrfHash db
  | .setAccountStatus _ status =>
    revoke (isUnrevoked accountId) now
      { db with accounts := Function.update db.accounts accountId (some status) }
  | _ => db

/-- What a request has done so far, with the time at which its transaction began. -/
inductive Phase
  | arrived
  | begun (now : ℕ)
  | existing (identityId : ℕ)
  | vacant (now : ℕ)
  | accountInserted (now accountId : ℕ)
  | identityInserted (now accountId : ℕ)
  | identityLocked (now accountId : ℕ)
  | accountLocked (now accountId : ℕ)
  | revoked (now accountId : ℕ)
  | inserted (now accountId : ℕ)
  | refused
  deriving DecidableEq

/-- What is locked: rows, and entries of unique indexes. -/
inductive Key
  | account (accountId : ℕ)
  | identity (identityId : ℕ)
  | email (email : ℕ)
  | sessions (accountId : ℕ)
  | sessionHash (sessionHash : ℕ)
  deriving DecidableEq

/-- A request in flight. -/
structure Call where
  request : Request
  phase : Phase
  deriving DecidableEq

namespace Call

variable (call : Call)

def enter (phase : Phase) : Call := { call with phase }

/-- The insertion of a row with the key: it waits for others who insert the key, and fails if the
key is there. -/
def insert (key : Key) (isThere : Db → Bool) (phase : Phase) : Action Db Call Key :=
  .access key (fun _ => true) (fun db => !isThere db) fun db =>
    call.enter (if isThere db then .refused else phase)

/-- A statement on the rows for which the condition holds. -/
def lock (key : Key) (found : Db → Bool) (phase : Phase) : Action Db Call Key :=
  .access key found found fun db => call.enter (if found db then phase else .refused)

/-- The first statement. -/
def start : Action Db Call Key :=
  match call.request with
  | .findSession hash =>
    .statement (fun now db => (db.sessions.find? (isCurrent db hash now)).map fun session =>
        .sessions session.accountId)
      fun now db => (BrowserSessions.findSession hash now db).1
  | .revokeSession hash =>
    .statement (fun _ db => (db.sessions.find? (hasUnrevokedHash hash)).map fun session =>
        .sessions session.accountId)
      (BrowserSessions.revokeSession hash)
  | _ => .begin fun now => call.enter (.begun now)

/-- The statement after `begin`. -/
def firstStatement (now : ℕ) : Action Db Call Key :=
  match call.request with
  | .signup email _ _ _ _ _ =>
    .read fun db => call.enter ((db.emails email).elim (.vacant now) .existing)
  | .login identityId _ _ =>
    let found (db : Db) : Bool := (loginAccount db identityId).isSome
    .access (.identity identityId) found found fun db =>
      call.enter ((loginAccount db identityId).elim .refused (.identityLocked now))
  | .setAccountStatus accountId _ =>
    call.lock (.account accountId) (fun db => (db.accounts accountId).any (· != .closed))
      (.accountLocked now accountId)
  | _ => .finish

/-- What follows the revocation of the sessions of the account. -/
def lastStatement (now accountId : ℕ) : Action Db Call Key :=
  match call.request with
  | .signup _ _ _ _ hash _ | .login _ hash _ =>
    call.insert (.sessionHash hash) (·.hasHash hash) (.inserted now accountId)
  | .setAccountStatus _ _ => .commit fun db => call.request.apply now accountId db
  | _ => .finish

def next : Action Db Call Key :=
  match call.phase with
  | .arrived => call.start
  | .begun now => call.firstStatement now
  -- the row of the identity is taken before the rollback
  | .existing identityId => call.lock (.identity identityId) (fun _ => true) .refused
  | .vacant now =>
    match call.request with
    | .signup _ accountId _ _ _ _ =>
      call.insert (.account accountId) (fun db => (db.accounts accountId).isSome)
        (.accountInserted now accountId)
    | _ => .finish
  | .accountInserted now accountId =>
    match call.request with
    | .signup _ _ identityId _ _ _ =>
      call.insert (.identity identityId) (fun db => (db.identities identityId).isSome)
        (.identityInserted now accountId)
    | _ => .finish
  | .identityInserted now accountId =>
    match call.request with
    | .signup email _ _ _ _ _ =>
      call.insert (.email email) (fun db => (db.emails email).isSome) (.accountLocked now accountId)
    | _ => .finish
  | .identityLocked now accountId =>
    match call.request with
    | .login identityId _ _ =>
      call.lock (.account accountId) (fun db => loginAccount db identityId == some accountId)
        (.accountLocked now accountId)
    | _ => .finish
  | .accountLocked now accountId =>
    let found (db : Db) : Bool := !(db.unrevoked accountId).isEmpty
    .access (.sessions accountId) found found fun db => call.enter <|
      if revocable (isUnrevoked accountId) now db then .revoked now accountId else .refused
  | .revoked now accountId => call.lastStatement now accountId
  | .inserted now accountId => .commit fun db => call.request.apply now accountId db
  | .refused => .finish

end Call

/-- The requests on accounts and their sessions. -/
def protocol : Protocol Db Call Key where
  isNew call := call.phase == .arrived
  next := Call.next

end MotherApi.BrowserSessions
