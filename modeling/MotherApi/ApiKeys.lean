import MotherApi.ApiKeyTexts
import MotherApi.BrowserSessions
import MotherApi.CapabilityDoors
import MotherApi.RequestAdmission

/-!
API keys: how they are issued, looked up and revoked, while requests run side by side.

A key belongs to a consumer, to an account, to a client of an account, or to nobody, when it is a
demo key that was issued for an intent. Who issues a key holds the row of its owner, or of the
intent, and then inserts the key, whose id, prefix and hash are unique; the limits and the grants
are inserted in the same transaction. A revocation is one statement. Accounts are made by a signup,
and an operator suspends or closes them. No code makes the key of a client.

Ids and hashes are numbers. A consumer is identified by its slug, which nothing changes. A row that
references another is only inserted where that is. The browser sessions of an account, its identity
and its workspace are left out, and so are the columns that nothing here reads.
-/

namespace MotherApi.ApiKeys

open MotherApi.Strings MotherApi.Capabilities MotherApi.CapabilityDoors
  MotherApi.RequestAdmission MotherApi.BrowserSessions MotherApi.ApiKeyTexts
  MotherApi.Lib.Transactions

def DEMO_INTENT_TTL_SECONDS : ℕ := 10 * 60
def DEMO_KEY_TTL_SECONDS : ℕ := 24 * 60 * 60

def ACCOUNT_BASELINE : List Capability :=
  [.balancesRead, .erc20TransfersRead, .workspaceActivityRead]

def DATALAB_BROWSER_BASELINE : List Capability :=
  [.catalogRead, .pricesRead, .scanRead, .labRead, .treasuryRead, .treasurySnapshotWrite]

/-! ### The tables -/

inductive ConsumerStatus
  | active | disabled | archived
  deriving DecidableEq

structure ApiConsumer where
  displayName : String
  category : String
  status : ConsumerStatus
  deriving DecidableEq

inductive ClientStatus
  | active | revoked
  deriving DecidableEq

structure IbClient where
  accountId : ℕ
  status : ClientStatus
  deriving DecidableEq

/-- The kind of a key, with the owner that the table requires for it. -/
inductive Owner
  | legacy (consumerSlug : String)
  | account (accountId : ℕ)
  | anonymousDemo
  | agent (clientId : ℕ)
  deriving DecidableEq

def Owner.kind : Owner → KeyKind
  | .legacy _ => .legacy
  | .account _ => .account
  | .anonymousDemo => .anonymousDemo
  | .agent _ => .agent

inductive KeyStatus
  | active | disabled | revoked
  deriving DecidableEq

structure ApiKey where
  apiKeyId : ℕ
  owner : Owner
  label : String
  keyPrefix : String
  keyHash : ℕ
  status : KeyStatus
  expiresAt : Option ℕ
  revokedAt : Option ℕ
  createdAt : ℕ
  deriving DecidableEq

structure DemoIntent where
  secretHash : ℕ
  apiKeyId : Option ℕ
  expiresAt : ℕ
  consumedAt : Option ℕ
  createdAt : ℕ
  deriving DecidableEq

/-- Accounts, clients and consumers by their keys, with their grants; the keys and the intents in
the order of their commits. -/
structure Db where
  accounts : ℕ → Option AccountStatus
  clients : ℕ → Option IbClient
  consumers : String → Option ApiConsumer
  accountGrants : ℕ → List AccountGrantRow
  clientGrants : ℕ → List AccountGrantRow
  consumerGrants : String → List AccountGrantRow
  keys : List ApiKey
  policies : ℕ → Option ApiKeyPolicy
  keyGrants : ℕ → List AccountGrantRow
  intents : List DemoIntent

/-! ### Lookups -/

structure ApiKeyLookup where
  key : ApiKey
  ownerIsActive : Bool
  isExpired : Bool

/-- What `consumer_status` is compared with: the status of the consumer, or that of the account,
or both those of a client and of its account. -/
def Db.ownerIsActive (db : Db) : Owner → Bool
  | .legacy slug => (db.consumers slug).any (·.status == .active)
  | .account accountId => db.accounts accountId == some .active
  | .anonymousDemo => true
  | .agent clientId => (db.clients clientId).any fun client =>
      db.accounts client.accountId == some .active && client.status == .active

def ApiKey.isExpired (key : ApiKey) (now : ℕ) : Bool := key.expiresAt.any (· ≤ now)

def findKeyByPrefixAndHash (keyPrefix : String) (keyHash now : ℕ) (db : Db) :
    Option ApiKeyLookup :=
  (db.keys.find? fun key => key.keyPrefix == keyPrefix && key.keyHash == keyHash).map fun key =>
    ⟨key, db.ownerIsActive key.owner, key.isExpired now⟩

structure ApiKeyPrincipal where
  apiKeyId : ℕ
  owner : Owner
  keyPrefix : String
  keyLabel : String
  deriving DecidableEq

def ApiKey.principal (key : ApiKey) : ApiKeyPrincipal :=
  ⟨key.apiKeyId, key.owner, key.keyPrefix, key.label⟩

/-- The algorithm of every hash is that of the check of its column. -/
def principalFromLookup (lookup : ApiKeyLookup) : Except AuthError ApiKeyPrincipal :=
  if lookup.key.status ≠ .active || !lookup.ownerIsActive || lookup.isExpired then
    .error .unauthorized
  else .ok lookup.key.principal

/-- The digest of a text is a parameter. -/
def authenticate (sha256 : String → ℕ) (authorization : List (Option String)) (now : ℕ) (db : Db) :
    Except AuthError ApiKeyPrincipal := do
  let (presented, parsed) ← presentedKey authorization
  match findKeyByPrefixAndHash parsed.keyPrefix (sha256 presented) now db with
  | none => .error .unauthorized
  | some lookup => principalFromLookup lookup

/-- The rows of the first query, by the kind of the key. -/
def Db.ownerGrants (db : Db) : Owner → List AccountGrantRow
  | .legacy slug => db.consumerGrants slug
  | .account accountId => db.accountGrants accountId
  | .anonymousDemo => []
  | .agent clientId => (db.clients clientId).elim [] fun client =>
      db.accountGrants client.accountId

def Db.ownerClientGrants (db : Db) : Owner → List AccountGrantRow
  | .agent clientId => db.clientGrants clientId
  | _ => []

def Db.grantsOf (db : Db) (key : ApiKey) (now : ℕ) :
    Except RepositoryError ApiKeyAuthorizationGrants :=
  let rows (grants : List AccountGrantRow) := grants.map (·.toRow (now : ℤ))
  findAuthorizationGrants key.owner.kind (rows (db.ownerGrants key.owner))
    (rows (db.ownerClientGrants key.owner)) (rows (db.keyGrants key.apiKeyId))

/-! ### Statements -/

lemma active_valid : ("active" = "revoked" ∧ (none : Option ℤ) ≠ none) ∨
    ("active" = "active" ∧ (none : Option ℤ) = none) := .inr ⟨rfl, rfl⟩

/-- The row of an active grant. -/
def newGrant (capability : Capability) (scope : { text : String // text = "*" ∨
    isAssetSlug text = true }) : AccountGrantRow where
  capabilityId := capability.id
  networkScope := scope.val
  status := "active"
  expiresAt := none
  revokedAt := none
  network_scope_valid := scope.property
  revocation_valid := active_valid

def newGrants (capabilities : List Capability) (scope : { text : String // text = "*" ∨
    isAssetSlug text = true }) : List AccountGrantRow :=
  capabilities.map (newGrant · scope)

def everyNetwork : { text : String // text = "*" ∨ isAssetSlug text = true } := ⟨"*", .inl rfl⟩

lemma ethMainnet_valid : "eth-mainnet" = "*" ∨ isAssetSlug "eth-mainnet" = true :=
  .inr (by decide)

def ethMainnet : { text : String // text = "*" ∨ isAssetSlug text = true } :=
  ⟨"eth-mainnet", ethMainnet_valid⟩

/-- `on conflict do nothing`, on the primary key of the grants of one owner. -/
def insertGrant (rows : List AccountGrantRow) (row : AccountGrantRow) : List AccountGrantRow :=
  if rows.any fun other => other.capabilityId == row.capabilityId &&
      other.networkScope == row.networkScope then rows
  else rows ++ [row]

def insertGrants (rows new : List AccountGrantRow) : List AccountGrantRow :=
  new.foldl insertGrant rows

def revokeByPrefix (keyPrefix : String) (now : ℕ) (db : Db) : Db :=
  let which (key : ApiKey) : Bool := key.keyPrefix == keyPrefix
  -- a key is not revoked before it was created
  if (db.keys.filter which).all fun key => (key.revokedAt.getD now) ≥ key.createdAt then
    { db with keys := db.keys.map fun key => if which key then
        { key with status := .revoked, revokedAt := some (key.revokedAt.getD now) } else key }
  else db

def createDemoIntent (secretHash now : ℕ) (db : Db) : Db :=
  if db.intents.any (·.secretHash == secretHash) then db
  else { db with intents := db.intents ++
    [⟨secretHash, none, now + DEMO_INTENT_TTL_SECONDS, none, now⟩] }

/-! ### Requests -/

/-- What is drawn and given for a key. -/
structure NewKey where
  apiKeyId : ℕ
  label : String
  keyPrefix : String
  keyHash : ℕ
  requestsPerMinute : ℤ
  requestsPerDay : ℤ
  expiresAt : Option ℕ
  deriving DecidableEq

inductive Request
  | issueApiKey (consumerSlug displayName category : String) (key : NewKey)
  | issueAccountApiKey (accountId : ℕ) (key : NewKey)
  | createDemoIntent (secretHash : ℕ)
  | consumeDemoIntentAndIssueKey (secretHash apiKeyId : ℕ) (keyPrefix : String) (keyHash : ℕ)
  | revokeByPrefix (keyPrefix : String)
  | signup (accountId : ℕ)
  | setAccountStatus (accountId : ℕ) (status : AccountStatus)
  deriving DecidableEq

/-- The key that a request inserts at a time, and its owner. -/
def Request.newKey (now : ℕ) : Request → Option (Owner × NewKey)
  | .issueApiKey slug _ _ key => some (.legacy slug, key)
  | .issueAccountApiKey accountId key => some (.account accountId, key)
  | .consumeDemoIntentAndIssueKey _ apiKeyId keyPrefix keyHash =>
    some (.anonymousDemo, ⟨apiKeyId, "anonymous demo", keyPrefix, keyHash, 10, 100,
      some (now + DEMO_KEY_TTL_SECONDS)⟩)
  | _ => none

/-- The checks of the table on the key. -/
def NewKey.isValid (key : NewKey) (now : ℕ) : Bool :=
  key.label.toList.any (· ≠ ' ') && isKeyPrefixNormalized key.keyPrefix.toList &&
    key.expiresAt.all (now < ·)

/-- The row of the limits, if they pass its checks. -/
def NewKey.policy (key : NewKey) : Option ApiKeyPolicy :=
  if h : 0 ≤ key.requestsPerMinute ∧ 0 ≤ key.requestsPerDay then
    some ⟨key.requestsPerMinute, key.requestsPerDay, h.1, h.2⟩
  else none

/-- The checks of the table on a consumer. -/
def isValidConsumer (slug displayName category : String) : Bool :=
  isAssetSlug slug && displayName.toList.any (· ≠ ' ') &&
    ["friend", "partner", "public", "internal"].contains category

def newApiKey (now : ℕ) (owner : Owner) (key : NewKey) : ApiKey where
  apiKeyId := key.apiKeyId
  owner := owner
  label := key.label
  keyPrefix := key.keyPrefix
  keyHash := key.keyHash
  status := .active
  expiresAt := key.expiresAt
  revokedAt := none
  createdAt := now

/-- The grants that are inserted for a new key. -/
def Owner.keyGrants : Owner → List AccountGrantRow
  | .legacy _ => newGrants legacyBaseline everyNetwork
  | .account _ => newGrants ACCOUNT_BASELINE everyNetwork
  | .anonymousDemo => newGrants legacyBaseline ethMainnet
  | .agent _ => []

/-- The key, its limits and its grants. -/
def insertKey (now : ℕ) (owner : Owner) (key : NewKey) (db : Db) : Db :=
  { db with
    keys := db.keys ++ [newApiKey now owner key]
    policies := Function.update db.policies key.apiKeyId key.policy
    keyGrants := Function.update db.keyGrants key.apiKeyId
      (insertGrants (db.keyGrants key.apiKeyId) owner.keyGrants) }

/-- What the transaction of a request writes. -/
def Request.apply (now : ℕ) (db : Db) : Request → Db
  | .issueApiKey slug displayName category key =>
    insertKey now (.legacy slug) key
      { db with
        consumers := Function.update db.consumers slug
          (some ((db.consumers slug).getD ⟨displayName, category, .active⟩))
        consumerGrants := Function.update db.consumerGrants slug
          (insertGrants (db.consumerGrants slug) (newGrants legacyBaseline everyNetwork)) }
  | .issueAccountApiKey accountId key => insertKey now (.account accountId) key db
  | .consumeDemoIntentAndIssueKey secretHash apiKeyId keyPrefix keyHash =>
    insertKey now .anonymousDemo
      ⟨apiKeyId, "anonymous demo", keyPrefix, keyHash, 10, 100, some (now + DEMO_KEY_TTL_SECONDS)⟩
      { db with intents := db.intents.map fun intent =>
          if intent.secretHash == secretHash then
            { intent with consumedAt := some now, apiKeyId := some apiKeyId }
          else intent }
  | .signup accountId =>
    { db with
      accounts := Function.update db.accounts accountId (some .active)
      accountGrants := Function.update db.accountGrants accountId
        (insertGrants (db.accountGrants accountId)
          (newGrants (ACCOUNT_BASELINE ++ DATALAB_BROWSER_BASELINE) everyNetwork)) }
  | .setAccountStatus accountId status =>
    { db with accounts := Function.update db.accounts accountId (some status) }
  | _ => db

/-- What a request has done so far, with the time at which its transaction began. -/
inductive Phase
  | arrived
  | begun (now : ℕ)
  | conflicted (now : ℕ)
  | inserting (now count : ℕ)
  | completed (now : ℕ)
  | refused
  deriving DecidableEq

/-- What is locked: rows, and entries of unique indexes. -/
inductive Key
  | account (accountId : ℕ)
  | consumer (slug : String)
  | intent (secretHash : ℕ)
  | apiKeyId (apiKeyId : ℕ)
  | keyPrefix (keyPrefix : String)
  | keyHash (keyHash : ℕ)
  deriving DecidableEq

/-- Whether the row is there, or the entry. -/
def Db.has (db : Db) : Key → Bool
  | .account accountId => (db.accounts accountId).isSome
  | .consumer slug => (db.consumers slug).isSome
  | .intent secretHash => db.intents.any (·.secretHash == secretHash)
  | .apiKeyId apiKeyId => db.keys.any (·.apiKeyId == apiKeyId)
  | .keyPrefix keyPrefix => db.keys.any (·.keyPrefix == keyPrefix)
  | .keyHash keyHash => db.keys.any (·.keyHash == keyHash)

/-- The unique entries that a request inserts, in the order of the indexes. -/
def Request.entries : Request → List Key
  | .signup accountId => [.account accountId]
  | .issueApiKey _ _ _ key | .issueAccountApiKey _ key =>
    [.apiKeyId key.apiKeyId, .keyPrefix key.keyPrefix, .keyHash key.keyHash]
  | .consumeDemoIntentAndIssueKey _ apiKeyId keyPrefix keyHash =>
    [.apiKeyId apiKeyId, .keyPrefix keyPrefix, .keyHash keyHash]
  | _ => []

/-- A request in flight. -/
structure Call where
  request : Request
  phase : Phase
  deriving DecidableEq

/-- The condition under which an intent is locked. -/
def DemoIntent.isOpen (secretHash now : ℕ) (intent : DemoIntent) : Bool :=
  intent.secretHash == secretHash && intent.consumedAt.isNone && now < intent.expiresAt

/-- The check on the time of the consumption. -/
def Db.mayConsume (db : Db) (secretHash now : ℕ) : Bool :=
  (db.intents.filter (·.secretHash == secretHash)).all (·.createdAt ≤ now)

namespace Call

variable (call : Call)

def enter (phase : Phase) : Call := { call with phase }

/-- A statement on the row of the key, for which the condition holds or not. -/
def lock (key : Key) (found : Db → Bool) (phase : Phase) : Action Db Call Key :=
  .access key found found fun db => call.enter (if found db then phase else .refused)

/-- The insertion of a unique entry: it waits for others who insert it, and fails if it is there. -/
def insert (key : Key) (phase : Phase) : Action Db Call Key :=
  .access key (fun _ => true) (fun db => !db.has key) fun db =>
    call.enter (if db.has key then .refused else phase)

/-- The first statement. -/
def start : Action Db Call Key :=
  match call.request with
  | .createDemoIntent secretHash =>
    .statement (fun _ _ => none) (ApiKeys.createDemoIntent secretHash)
  | .revokeByPrefix keyPrefix => .statement (fun _ _ => none) (ApiKeys.revokeByPrefix keyPrefix)
  | _ => .begin fun now => call.enter (.begun now)

/-- The statement after `begin`, which takes the row of the owner. -/
def firstStatement (now : ℕ) : Action Db Call Key :=
  match call.request with
  | .issueApiKey slug displayName category _ =>
    -- the checks come before the conflict, and a row that is there is not touched
    let valid := isValidConsumer slug displayName category
    .access (.consumer slug) (fun _ => valid) (fun db => valid && !db.has (.consumer slug))
      fun db => call.enter <|
        if !valid then .refused
        else if db.has (.consumer slug) then .conflicted now else .inserting now 0
  | .issueAccountApiKey accountId _ =>
    call.lock (.account accountId) (fun db => db.accounts accountId == some .active)
      (.inserting now 0)
  | .consumeDemoIntentAndIssueKey secretHash _ _ _ =>
    call.lock (.intent secretHash) (fun db => db.intents.any (·.isOpen secretHash now))
      (.inserting now 0)
  | .setAccountStatus accountId _ =>
    call.lock (.account accountId) (fun db => (db.accounts accountId).any (· != .closed))
      (.inserting now 0)
  -- no identity is found for the email
  | .signup _ => .read fun _ => call.enter (.inserting now 0)
  | _ => .finish

/-- `select … for update`, and the comparison of what is found. -/
def reload (now : ℕ) : Action Db Call Key :=
  match call.request with
  | .issueApiKey slug displayName category _ =>
    .access (.consumer slug) (·.has (.consumer slug)) (·.has (.consumer slug)) fun db =>
      call.enter <| match db.consumers slug with
        | some existing =>
          if existing.displayName ≠ displayName || existing.category ≠ category then .refused
          else .inserting now 0
        | none => .refused
  | _ => .finish

/-- What follows the insertion of the entries. -/
def lastStatement (now : ℕ) : Action Db Call Key :=
  match call.request with
  | .consumeDemoIntentAndIssueKey secretHash _ _ _ =>
    .access (.intent secretHash) (fun _ => true) (fun _ => true) fun db =>
      call.enter (if db.mayConsume secretHash now then .completed now else .refused)
  | .issueApiKey _ _ _ key | .issueAccountApiKey _ key =>
    if key.policy.isSome then .commit fun db => call.request.apply now db else .finish
  | _ => .commit fun db => call.request.apply now db

def next : Action Db Call Key :=
  match call.phase with
  | .arrived => call.start
  | .begun now => call.firstStatement now
  | .conflicted now => call.reload now
  | .inserting now count =>
    if (call.request.newKey now).any fun (_, key) => !key.isValid now then .finish
    else match call.request.entries[count]? with
      | some key => call.insert key (.inserting now (count + 1))
      | none => call.lastStatement now
  | .completed now => .commit fun db => call.request.apply now db
  | .refused => .finish

end Call

/-- What the operator's commands set an account to. -/
def Request.isAdministrative : Request → Bool
  | .setAccountStatus _ status => status == .suspended || status == .closed
  | _ => true

/-- The requests on keys and their owners. -/
def protocol : Protocol Db Call Key where
  isNew call := call.phase == .arrived && call.request.isAdministrative
  next := Call.next

end MotherApi.ApiKeys
