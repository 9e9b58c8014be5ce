import MotherApi.Lib.Transactions
import MotherApi.Strings

/-!
A workspace and the requests of its owner.

Every mutation of a workspace is a request of a few statements: some read what was committed,
one takes a row or an entry of a unique index, and one appends an event to the activity log in
the same transaction. The requests on one workspace run side by side.

What the database does with a locked row is in `Lib.Transactions`. The locks of foreign keys
are left out, so that more can happen here than in the database. `lower` is the case folding of
the database, by which the labels of a member are distinct.
-/

namespace MotherApi.Workspaces

open MotherApi.Lib.Transactions MotherApi.Strings

def BALANCE_NETWORKS : List String := ["eth-mainnet", "base-mainnet"]

def MAX_WORKSPACE_ADDRESSES : ℕ := 100
def MAX_ADDRESS_LABELS : ℕ := 20

/-! ### The tables -/

inductive WorkspaceStatus
  | active | archived
  deriving DecidableEq

structure Workspace where
  name : String
  description : Option String
  status : WorkspaceStatus
  deriving DecidableEq

/-- The public id is made of the primary key, so it stands for both. -/
structure MemberAddress where
  publicId : String
  networkSlug : String
  address : String
  clientRef : Option String
  deriving DecidableEq

structure MemberLabel where
  memberId : String
  label : String
  deriving DecidableEq

inductive ActivityPayload
  | created (name : String) (description : Option String)
  | renamed (name : String)
  | archived
  | restored
  | memberAdded (member : MemberAddress)
  | labelAdded (memberId label : String)
  | labelRemoved (memberId label : String)
  deriving DecidableEq

structure ActivityEvent where
  publicId : String
  occurredAt : ℕ
  payload : ActivityPayload
  deriving DecidableEq

/-- What is stored of one workspace. Rows are kept in the order of their commits. -/
structure Db where
  workspace : Option Workspace
  members : List MemberAddress
  labels : List MemberLabel
  events : List ActivityEvent
  deriving DecidableEq

def noWorkspace : Db := ⟨none, [], [], []⟩

namespace Db

variable (db : Db)

def status : Option WorkspaceStatus := db.workspace.map (·.status)

def hasMember (memberId : String) : Bool := db.members.any (·.publicId == memberId)

def hasAddress (networkSlug address : String) : Bool :=
  db.members.any fun member => member.networkSlug == networkSlug && member.address == address

def labelsOf (memberId : String) : List String :=
  (db.labels.filter (·.memberId == memberId)).map (·.label)

def hasEvent (publicId : String) : Bool := db.events.any (·.publicId == publicId)

/-- The rows that are equal to the label up to case. -/
def folded (lower : String → String) (memberId label : String) : List MemberLabel :=
  db.labels.filter fun row => row.memberId == memberId && lower row.label == lower label

end Db

/-! ### The checks of the service -/

def normalizeRequired (value : String) (maximum : ℕ) : Option String :=
  let trimmed := trim value
  if trimmed ≠ "" ∧ trimmed.toList.length ≤ maximum then some trimmed else none

/-- Nothing where the value is too long. -/
def normalizeOptional (value : Option String) (maximum : ℕ) : Option (Option String) :=
  match (value.map trim).filter (· != "") with
  | some value => if value.toList.length ≤ maximum then some (some value) else none
  | none => some none

/-- The row of a member, if the service accepts it. -/
def memberRow (networkSlug address : String) (clientRef : Option String) (publicId : String) :
    Option MemberAddress := do
  let address := toAsciiLowercase (trim address)
  if networkSlug ∉ BALANCE_NETWORKS then none
  else if ¬isEvmAddress address then none
  else
    let clientRef ← normalizeOptional clientRef 120
    return ⟨publicId, networkSlug, address, clientRef⟩

/-- There is room for the label, or it is there. -/
def labelFits (labels : List String) (label : String) : Bool :=
  labels.any (eqIgnoreAsciiCase · label) || labels.length < MAX_ADDRESS_LABELS

/-! ### Writes -/

inductive Write
  | create (workspace : Workspace)
  | rename (name : String)
  | setStatus (status : WorkspaceStatus)
  | addMember (member : MemberAddress)
  | addLabel (memberId label : String)
  | removeLabel (memberId label : String)
  deriving DecidableEq

def Write.payload : Write → ActivityPayload
  | .create workspace => .created workspace.name workspace.description
  | .rename name => .renamed name
  | .setStatus .archived => .archived
  | .setStatus .active => .restored
  | .addMember member => .memberAdded member
  | .addLabel memberId label => .labelAdded memberId label
  | .removeLabel memberId label => .labelRemoved memberId label

/-- What a row of a unique index, or the row of the workspace, is locked by. -/
inductive Key
  | workspace
  | member (publicId : String)
  | address (networkSlug address : String)
  | label (memberId folded : String)
  | event (publicId : String)
  deriving DecidableEq

section

variable (lower : String → String)

def Write.apply (db : Db) : Write → Db
  | .create workspace => { db with workspace := some workspace }
  | .rename name =>
    { db with workspace := db.workspace.map fun workspace => { workspace with name } }
  | .setStatus status =>
    { db with workspace := db.workspace.map fun workspace => { workspace with status } }
  | .addMember member => { db with members := db.members ++ [member] }
  | .addLabel memberId label => { db with labels := db.labels ++ [⟨memberId, label⟩] }
  | .removeLabel memberId label =>
    { db with labels := db.labels.filter fun row =>
        !(row.memberId == memberId && lower row.label == lower label) }

/-- A write and the event for it are committed together. -/
def commitWrite (write : Write) (event : Option ActivityEvent) (db : Db) : Db :=
  let db := write.apply lower db
  { db with events := db.events ++ event.toList }

end

/-! ### Requests -/

/-- The request carries the public id that is drawn for its member. -/
inductive Request
  | create (name : String) (description : Option String)
  | rename (name : String)
  | setArchived (archived : Bool)
  | addMember (networkSlug address : String) (clientRef : Option String) (memberId : String)
  | addLabel (memberId label : String)
  | removeLabel (memberId label : String)
  deriving DecidableEq

inductive AddMemberOutcome
  | added | alreadyPresent | inactive | limitReached
  deriving DecidableEq

inductive Outcome
  | noRow
  | member (outcome : AddMemberOutcome)
  deriving DecidableEq

/-- What a request has done so far, with the time at which its transaction began. -/
inductive Phase
  | arrived
  | sawWorkspace (status : WorkspaceStatus)
  | checked
  | begun (now : ℕ)
  | locked (now : ℕ) (member : MemberAddress)
  | absent (now : ℕ) (member : MemberAddress)
  | counted (now : ℕ) (member : MemberAddress)
  | identified (now : ℕ) (member : MemberAddress)
  | located (now : ℕ)
  | wrote (now : ℕ) (write : Write)
  | logged (write : Write) (event : Option ActivityEvent)
  | unchanged (outcome : Outcome)
  | refused
  deriving DecidableEq

/-- A request in flight, with the public id that is drawn for its event. -/
structure Session where
  request : Request
  eventId : String
  phase : Phase
  deriving DecidableEq

namespace Session

def target (archived : Bool) : WorkspaceStatus := if archived then .archived else .active

section

variable (lower : String → String) (session : Session)

def enter (phase : Phase) : Session := { session with phase }

/-- What the handler and the service do before the transaction. -/
def prepare : Action Db Session Key :=
  match session.request with
  | .create name description =>
    if (normalizeRequired name 120).isSome ∧ (normalizeOptional description 1000).isSome then
      .begin fun now => session.enter (.begun now)
    else .finish
  | .rename name =>
    if (normalizeRequired name 120).isSome then .begin fun now => session.enter (.begun now)
    else .finish
  | .setArchived _ => .begin fun now => session.enter (.begun now)
  | .addMember _ _ _ _ | .addLabel _ _ | .removeLabel _ _ =>
    .read fun db => session.enter (db.status.elim .refused .sawWorkspace)

/-- What follows the reading of the workspace. The status is that of an earlier statement. -/
def check (status : WorkspaceStatus) : Action Db Session Key :=
  match session.request with
  | .addMember networkSlug address clientRef memberId =>
    if (memberRow networkSlug address clientRef memberId).isSome then
      .begin fun now => session.enter (.begun now)
    else .finish
  | .addLabel memberId label =>
    .read fun db => session.enter <|
      match normalizeRequired label 64 with
      | some label =>
        if db.hasMember memberId ∧ status = .active ∧ labelFits (db.labelsOf memberId) label then
          .checked
        else .refused
      | none => .refused
  | .removeLabel memberId label =>
    .read fun db => session.enter <|
      if db.hasMember memberId ∧ status = .active ∧ (normalizeRequired label 64).isSome then
        .checked
      else .refused
  | _ => .finish

/-- The statement after `begin`. -/
def firstStatement (now : ℕ) : Action Db Session Key :=
  match session.request with
  | .create name description =>
    match normalizeRequired name 120, normalizeOptional description 1000 with
    | some name, some description =>
      .access .workspace (fun _ => true) (fun db => db.workspace.isNone) fun db => session.enter <|
        if db.workspace.isNone then .wrote now (.create ⟨name, description, .active⟩) else .refused
    | _, _ => .finish
  | .rename name =>
    match normalizeRequired name 120 with
    | some name =>
      let active (db : Db) : Bool := db.status == some .active
      .access .workspace active active fun db => session.enter <|
        if active db then .wrote now (.rename name) else .unchanged .noRow
    | none => .finish
  | .setArchived archived =>
    let differs (db : Db) : Bool := db.status.any (· != target archived)
    .access .workspace differs differs fun db => session.enter <|
      if differs db then .wrote now (.setStatus (target archived)) else .unchanged .noRow
  | .addMember networkSlug address clientRef memberId =>
    match memberRow networkSlug address clientRef memberId with
    | some member =>
      let exists_ (db : Db) : Bool := db.workspace.isSome
      .access .workspace exists_ exists_ fun db => session.enter <|
        if db.status = some .active then .locked now member else .unchanged (.member .inactive)
    | none => .finish
  | .addLabel memberId _ | .removeLabel memberId _ =>
    .read fun db => session.enter <| if db.hasMember memberId then .located now else .refused

/-- The statement of a label. -/
def labelStatement (now : ℕ) : Action Db Session Key :=
  match session.request with
  | .addLabel memberId label =>
    match normalizeRequired label 64 with
    | some label =>
      let isNew (db : Db) : Bool := (db.folded lower memberId label).isEmpty
      .access (.label memberId (lower label)) (fun _ => true) isNew fun db => session.enter <|
        if isNew db then .wrote now (.addLabel memberId label) else .unchanged .noRow
    | none => .finish
  | .removeLabel memberId label =>
    match normalizeRequired label 64 with
    | some label =>
      let isThere (db : Db) : Bool := !(db.folded lower memberId label).isEmpty
      .access (.label memberId (lower label)) isThere isThere fun db => session.enter <|
        match (db.folded lower memberId label).length with
        | 0 => .unchanged .noRow
        | 1 => .wrote now (.removeLabel memberId label)
        -- more rows are deleted without an event
        | _ => .logged (.removeLabel memberId label) none
    | none => .finish
  | _ => .finish

def next : Action Db Session Key :=
  match session.phase with
  | .arrived => session.prepare
  | .sawWorkspace status => session.check status
  | .checked => .begin fun now => session.enter (.begun now)
  | .begun now => session.firstStatement now
  | .locked now member =>
    .read fun db => session.enter <|
      if db.hasAddress member.networkSlug member.address then .unchanged (.member .alreadyPresent)
      else .absent now member
  | .absent now member =>
    .read fun db => session.enter <|
      if db.members.length ≥ MAX_WORKSPACE_ADDRESSES then .unchanged (.member .limitReached)
      else .counted now member
  -- the insert fails on a public id that is there, and does nothing on an address that is
  | .counted now member =>
    .access (.member member.publicId) (fun _ => true) (fun db => !db.hasMember member.publicId)
      fun db => session.enter <|
        if db.hasMember member.publicId then .refused else .identified now member
  | .identified now member =>
    let isNew (db : Db) : Bool := !db.hasAddress member.networkSlug member.address
    .access (.address member.networkSlug member.address) (fun _ => true) isNew fun db =>
      session.enter <|
        if isNew db then .wrote now (.addMember member) else .unchanged (.member .alreadyPresent)
  | .located now => session.labelStatement lower now
  | .wrote now write =>
    .access (.event session.eventId) (fun _ => true) (fun db => !db.hasEvent session.eventId)
      fun db => session.enter <|
        if db.hasEvent session.eventId then .refused
        else .logged write (some ⟨session.eventId, now, write.payload⟩)
  | .logged write event => .commit (commitWrite lower write event)
  | .unchanged _ => .commit fun db => db
  | .refused => .finish

end

end Session

/-- The requests on a workspace. -/
def protocol (lower : String → String) : Protocol Db Session Key where
  isNew session := session.phase == .arrived
  next := Session.next lower

/-- A request comes in. -/
def arrival (session : ℕ) (request : Request) (eventId : String) : Choice Session :=
  .arrive session ⟨request, eventId, .arrived⟩

/-- A workspace with one member. -/
def setup : List (Choice Session) := List.flatten
  [[arrival 0 (.create "T" none) "c"], advances 0 4,
    [arrival 0
      (.addMember "eth-mainnet" "0xaa11111111111111111111111111111111111111" none "m") "d"],
    advances 0 9]

end MotherApi.Workspaces
