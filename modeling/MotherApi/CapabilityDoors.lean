import MotherApi.Capabilities
import MotherApi.Lib.Fallible

/-!
The two doors of the private exports that name no network.

The treasury, catalog, price and lab exports are served to API keys, behind the route check,
and to browser sessions, behind a query for a grant of scope `*`. Both read the rows of
`ib_account_capability_grant`: the first through Rust values, the second in SQL.
-/

namespace MotherApi.CapabilityDoors

open MotherApi.Strings MotherApi.Capabilities MotherApi.Lib.Fallible

/-- A row of `ib_account_capability_grant` of one account, with the checks of its table.
Times are those of the database. -/
structure AccountGrantRow where
  capabilityId : String
  networkScope : String
  status : String
  expiresAt : Option ℤ
  revokedAt : Option ℤ
  network_scope_valid : networkScope = "*" ∨ isAssetSlug networkScope = true
  revocation_valid :
    (status = "revoked" ∧ revokedAt ≠ none) ∨ (status = "active" ∧ revokedAt = none)

/-- A grant row as the lookup of an API key reads it. -/
structure CapabilityGrantRow where
  capabilityId : String
  networkScope : String
  status : String
  isExpired : Bool

inductive RepositoryError
  | unknownCapabilityId (capabilityId : String)
  | invalidNetworkScope (networkScope : String)
  | invalidGrantStatus (status : String)

def CapabilityGrantRow.intoDomain (row : CapabilityGrantRow) :
    Except RepositoryError CapabilityGrant := do
  let capability ← match Capability.parse row.capabilityId with
    | some capability => .ok capability
    | none => .error (.unknownCapabilityId row.capabilityId)
  let networkScope ← match NetworkScope.parse row.networkScope with
    | some scope => .ok scope
    | none => .error (.invalidNetworkScope row.networkScope)
  let status ←
    if row.isExpired then .ok GrantStatus.expired
    else if row.status = "active" then .ok .active
    else if row.status = "revoked" then .ok .revoked
    else .error (.invalidGrantStatus row.status)
  .ok ⟨capability, networkScope, status⟩

inductive KeyKind
  | legacy | account | anonymousDemo | agent
  deriving DecidableEq

/-- The capabilities an anonymous demo key is limited to. -/
def legacyBaseline : List Capability := [.balancesRead, .erc20TransfersRead]

/-- The rows are what the three queries select for the key: the grants of its owner, of its
client when it is an agent's, and its own. -/
def findAuthorizationGrants (kind : KeyKind)
    (ownerRows clientRows keyRows : List CapabilityGrantRow) :
    Except RepositoryError ApiKeyAuthorizationGrants := do
  let ownerGrants ←
    if kind = .anonymousDemo then
      .ok (legacyBaseline.map fun capability => ⟨capability, .exact "eth-mainnet", .active⟩)
    else ownerRows.mapM CapabilityGrantRow.intoDomain
  let keyGrants ← keyRows.mapM CapabilityGrantRow.intoDomain
  let clientGrants ←
    if kind = .agent then (clientRows.mapM CapabilityGrantRow.intoDomain).map some
    else .ok none
  .ok ⟨ownerGrants, keyGrants, clientGrants⟩

namespace AccountGrantRow

/-- `expires_at is not null and expires_at <= now()`. -/
def isExpired (row : AccountGrantRow) (now : ℤ) : Bool :=
  row.expiresAt.any fun t => decide (t ≤ now)

def toRow (now : ℤ) (row : AccountGrantRow) : CapabilityGrantRow :=
  ⟨row.capabilityId, row.networkScope, row.status, row.isExpired now⟩

/-- The row grants `c` at `now`, on some network. -/
def Grants (row : AccountGrantRow) (now : ℤ) (c : Capability) : Prop :=
  row.capabilityId = c.id ∧ row.status = "active" ∧ row.isExpired now = false

end AccountGrantRow

def hasActiveCapability (rows : List AccountGrantRow) (now : ℤ) (capability : Capability)
    (networkSlug : String) : Bool :=
  rows.any fun row =>
    row.capabilityId == capability.id && row.status == "active" && row.revokedAt.isNone
      && row.expiresAt.all (fun t => decide (now < t))
      && (row.networkScope == "*" || row.networkScope == networkSlug)

/-- Whatever the key's own grants, a request the route check lets pass for a key of the
account is one the browser check lets pass. -/
def DoorsAgree (rows : List AccountGrantRow) (now : ℤ) (c : Capability) : Prop :=
  ∀ keyRows grants,
    findAuthorizationGrants .account (rows.map (·.toRow now)) [] keyRows = .ok grants →
      isAuthorizedForRoute grants c = true → hasActiveCapability rows now c "*" = true

/-! ### Reading the rows -/

lemma parse_networkScope (row : AccountGrantRow) :
    ∃ scope, NetworkScope.parse row.networkScope = some scope := by
  unfold NetworkScope.parse
  split
  · exact ⟨_, rfl⟩
  · split
    · rename_i h h'
      have := row.network_scope_valid
      rw [h'] at this
      exact absurd this (by decide)
    · exact ⟨_, rfl⟩

lemma intoDomain_toRow (row : AccountGrantRow) (now : ℤ) {grant : CapabilityGrant} :
    (row.toRow now).intoDomain = .ok grant ↔
      row.capabilityId = grant.capability.id ∧
        (NetworkScope.parse row.networkScope = some grant.networkScope) ∧
        grant.status = if row.isExpired now then .expired
          else if row.status = "active" then .active else .revoked := by
  obtain ⟨scope, hscope⟩ := parse_networkScope row
  have hstatus : row.status = "revoked" ∨ row.status = "active" :=
    row.revocation_valid.imp And.left And.left
  obtain ⟨capability, networkScope, status⟩ := grant
  simp only [← Capability.parse_eq_some, CapabilityGrantRow.intoDomain, AccountGrantRow.toRow,
    hscope, bind, Except.bind]
  cases Capability.parse row.capabilityId with
  | none => simp
  | some c =>
    simp only
    by_cases hx : row.isExpired now = true
    · simp [hx, eq_comm]
    · rcases hstatus with hs | hs
      · simp [hx, hs, eq_comm]
      · simp [hx, hs, eq_comm]

lemma exists_intoDomain (row : AccountGrantRow) (now : ℤ) :
    (∃ grant, (row.toRow now).intoDomain = .ok grant) ↔
      ∃ c : Capability, row.capabilityId = c.id := by
  constructor
  · rintro ⟨grant, h⟩
    exact ⟨grant.capability, ((intoDomain_toRow row now).mp h).1⟩
  · rintro ⟨c, hc⟩
    obtain ⟨scope, hscope⟩ := parse_networkScope row
    exact ⟨⟨c, scope, if row.isExpired now then .expired
      else if row.status = "active" then .active else .revoked⟩,
      (intoDomain_toRow row now).mpr ⟨hc, hscope, rfl⟩⟩

/-- A row grants `c` when, read as a grant, it is an active grant of `c`. -/
lemma grants_iff {row : AccountGrantRow} {now : ℤ} {grant : CapabilityGrant}
    (h : (row.toRow now).intoDomain = .ok grant) (c : Capability) :
    row.Grants now c ↔ grant.status = .active ∧ grant.capability = c := by
  obtain ⟨hid, -, hstatus⟩ := (intoDomain_toRow row now).mp h
  have hinj : row.capabilityId = c.id ↔ grant.capability = c := by
    rw [← Capability.parse_eq_some, Capability.parse_eq_some.mpr hid, Option.some.injEq]
  rw [AccountGrantRow.Grants, hinj, hstatus]
  by_cases hx : row.isExpired now = true <;> by_cases hs : row.status = "active" <;>
    simp [hx, hs, and_comm]

lemma hasActiveCapability_star {rows : List AccountGrantRow} {now : ℤ} {c : Capability} :
    hasActiveCapability rows now c "*" = true ↔
      ∃ row ∈ rows, row.Grants now c ∧ row.networkScope = "*" := by
  unfold hasActiveCapability
  rw [List.any_eq_true]
  refine exists_congr fun row => and_congr_right fun _ => ?_
  have hrev : row.status = "active" → row.revokedAt = none := by
    rcases row.revocation_valid with ⟨h, -⟩ | ⟨-, h⟩
    · intro h'
      rw [h] at h'
      exact absurd h' (by decide)
    · exact fun _ => h
  have hexp : row.expiresAt.all (fun t => decide (now < t)) = true ↔ row.isExpired now = false := by
    unfold AccountGrantRow.isExpired
    cases row.expiresAt <;> simp
  simp only [Bool.and_eq_true, beq_iff_eq, Option.isNone_iff_eq_none, Bool.or_self, hexp,
    AccountGrantRow.Grants]
  constructor
  · rintro ⟨⟨⟨⟨hid, hs⟩, -⟩, hx⟩, hn⟩
    exact ⟨⟨hid, hs, hx⟩, hn⟩
  · rintro ⟨⟨hid, hs, hx⟩, hn⟩
    exact ⟨⟨⟨⟨hid, hs⟩, hrev hs⟩, hx⟩, hn⟩

lemma findAuthorizationGrants_account {ownerRows keyRows : List CapabilityGrantRow}
    {grants : ApiKeyAuthorizationGrants} :
    findAuthorizationGrants .account ownerRows [] keyRows = .ok grants ↔
      ∃ owner key, ownerRows.mapM CapabilityGrantRow.intoDomain = .ok owner ∧
        keyRows.mapM CapabilityGrantRow.intoDomain = .ok key ∧ grants = ⟨owner, key, none⟩ := by
  simp only [findAuthorizationGrants, reduceCtorEq, if_false, bind_eq_ok, Except.ok.injEq]
  constructor
  · rintro ⟨owner, ho, key, hk, _, rfl, rfl⟩
    exact ⟨owner, key, ho, hk, rfl⟩
  · rintro ⟨owner, key, ho, hk, rfl⟩
    exact ⟨owner, ho, key, hk, none, rfl, rfl⟩

/-- The route check accepts some key of the account exactly when every row of the account can
be read and one of them grants the capability, on whatever network. -/
lemma exists_accepted {rows : List AccountGrantRow} {now : ℤ} {c : Capability} :
    (∃ keyRows grants,
      findAuthorizationGrants .account (rows.map (·.toRow now)) [] keyRows = .ok grants ∧
        isAuthorizedForRoute grants c = true) ↔
      (∀ row ∈ rows, ∃ c' : Capability, row.capabilityId = c'.id) ∧
        ∃ row ∈ rows, row.Grants now c := by
  simp only [isAuthorizedForRoute, beq_iff_eq, evaluateAuthorization_allow, List.any_eq_true,
    permits_route]
  constructor
  · rintro ⟨keyRows, grants, hfind, ⟨grant, hgrant, hpermits⟩, -⟩
    obtain ⟨owner, key, ho, -, rfl⟩ := findAuthorizationGrants_account.mp hfind
    refine ⟨fun row hrow => ?_, ?_⟩
    · obtain ⟨g, -, hg⟩ := exists_of_mapM ho (List.mem_map_of_mem hrow)
      exact (exists_intoDomain row now).mp ⟨g, hg⟩
    · obtain ⟨_, hmem, hg⟩ := mem_of_mapM ho hgrant
      obtain ⟨row, hrow, rfl⟩ := List.mem_map.mp hmem
      exact ⟨row, hrow, (grants_iff hg c).mpr hpermits⟩
  · rintro ⟨hknown, row, hrow, hgrants⟩
    obtain ⟨owner, ho⟩ := exists_mapM_eq_ok (f := CapabilityGrantRow.intoDomain)
      (l := rows.map (·.toRow now)) (by
        intro r hr
        obtain ⟨row, hrow, rfl⟩ := List.mem_map.mp hr
        exact (exists_intoDomain row now).mpr (hknown row hrow))
    obtain ⟨grant, hmem, hg⟩ := exists_of_mapM ho (List.mem_map_of_mem hrow)
    have hpermits := (grants_iff hg c).mp hgrants
    -- the owner's own grant, given to the key as well
    have hkey : [row.toRow now].mapM CapabilityGrantRow.intoDomain = .ok [grant] :=
      mapM_eq_ok.mpr (.cons hg .nil)
    exact ⟨_, _, findAuthorizationGrants_account.mpr ⟨owner, [grant], ho, hkey, rfl⟩,
      ⟨grant, hmem, hpermits⟩, ⟨grant, by simp, hpermits⟩, by simp⟩

/-! ### When the doors agree -/

/-- **The two doors agree on the owner's capability exactly when** the owner holds it for
every network, or does not hold it at all; or when a row of the account names an unknown
capability, so that no key of the account is let in. -/
theorem doorsAgree_iff (rows : List AccountGrantRow) (now : ℤ) (c : Capability) :
    DoorsAgree rows now c ↔
      (∃ row ∈ rows, row.Grants now c ∧ row.networkScope = "*") ∨
        (∀ row ∈ rows, ¬ row.Grants now c) ∨
        (∃ row ∈ rows, ∀ c' : Capability, row.capabilityId ≠ c'.id) := by
  have hagree : DoorsAgree rows now c ↔
      ((∀ row ∈ rows, ∃ c' : Capability, row.capabilityId = c'.id) ∧
        ∃ row ∈ rows, row.Grants now c) → hasActiveCapability rows now c "*" = true := by
    rw [← exists_accepted]
    constructor
    · rintro h ⟨keyRows, grants, hfind, hauth⟩
      exact h keyRows grants hfind hauth
    · exact fun h keyRows grants hfind hauth => h ⟨keyRows, grants, hfind, hauth⟩
  rw [hagree, hasActiveCapability_star]
  constructor
  · intro h
    by_cases hknown : ∀ row ∈ rows, ∃ c' : Capability, row.capabilityId = c'.id
    · by_cases hgrants : ∃ row ∈ rows, row.Grants now c
      · exact Or.inl (h ⟨hknown, hgrants⟩)
      · exact Or.inr (Or.inl fun row hrow hg => hgrants ⟨row, hrow, hg⟩)
    · push Not at hknown
      exact Or.inr (Or.inr hknown)
  · rintro (h | h | ⟨row, hrow, hne⟩) ⟨hknown, row', hrow', hg⟩
    · exact h
    · exact absurd hg (h row' hrow')
    · obtain ⟨c', hc'⟩ := hknown row hrow
      exact absurd hc' (hne c')

/-- An owner holding the treasury capability on one network only. -/
def exactTreasuryRow : AccountGrantRow where
  capabilityId := "treasury.read"
  networkScope := "eth-mainnet"
  status := "active"
  expiresAt := none
  revokedAt := none
  network_scope_valid := Or.inr (by decide)
  revocation_valid := Or.inr ⟨rfl, rfl⟩

/-- The key of that owner is let in where the owner's own browser session is refused. -/
theorem doors_disagree_exact_scope : ¬ DoorsAgree [exactTreasuryRow] 0 .treasuryRead := by
  intro h
  have := h [⟨"treasury.read", "*", "active", false⟩]
    ⟨[⟨.treasuryRead, .exact "eth-mainnet", .active⟩], [⟨.treasuryRead, .any, .active⟩], none⟩
    rfl (by decide)
  exact absurd this (by decide)

end MotherApi.CapabilityDoors
