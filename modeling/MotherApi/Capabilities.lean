import MotherApi.Strings
import Mathlib.Data.List.Basic

/-!
Capability grants and the two places that evaluate them for an API key.

The route check runs before the body of a request is read and lets a grant for one network
pass; the check of the networks named by the body runs after it. Together they are an
intersection of the owner's, the key's and, for an agent key, the client's grants.
-/

namespace MotherApi.Capabilities

open MotherApi.Strings

inductive Capability
  | balancesRead | erc20TransfersRead | workspaceActivityRead | catalogRead | pricesRead
  | scanRead | labRead | treasuryRead | treasurySnapshotWrite | reportsRead | reportsWrite
  deriving DecidableEq

namespace Capability

def all : List Capability :=
  [balancesRead, erc20TransfersRead, workspaceActivityRead, catalogRead, pricesRead, scanRead,
    labRead, treasuryRead, treasurySnapshotWrite, reportsRead, reportsWrite]

def id : Capability → String
  | balancesRead => "balances.read"
  | erc20TransfersRead => "transfers.read"
  | workspaceActivityRead => "workspace.activity.read"
  | catalogRead => "catalog.read"
  | pricesRead => "prices.read"
  | scanRead => "scan.read"
  | labRead => "lab.read"
  | treasuryRead => "treasury.read"
  | treasurySnapshotWrite => "treasury.snapshot.write"
  | reportsRead => "reports.read"
  | reportsWrite => "reports.write"

def parse (value : String) : Option Capability := all.find? fun capability => capability.id == value

lemma parse_eq_some {value : String} {c : Capability} : parse value = some c ↔ value = c.id := by
  constructor
  · intro h
    have := List.find?_some h
    exact (beq_iff_eq.mp this).symm
  · rintro rfl
    cases c <;> decide

end Capability

inductive NetworkScope
  | any
  | exact (networkSlug : String)
  deriving DecidableEq

namespace NetworkScope

def parse (value : String) : Option NetworkScope :=
  if value = "*" then some .any
  else if value = "" then none
  else some (.exact value)

/-- A request for a route names no network yet; an exact scope lets it pass, and the network
is checked once the body is read. -/
def permits : NetworkScope → Option String → Bool
  | .any, _ => true
  | .exact _, none => true
  | .exact granted, some requested => granted == requested

end NetworkScope

inductive GrantStatus
  | active | expired | revoked
  deriving DecidableEq

structure AuthorizationRequest where
  capability : Capability
  networkSlug : Option String

def AuthorizationRequest.route (capability : Capability) : AuthorizationRequest :=
  ⟨capability, none⟩

def AuthorizationRequest.network (capability : Capability) (networkSlug : String) :
    AuthorizationRequest :=
  ⟨capability, some networkSlug⟩

structure CapabilityGrant where
  capability : Capability
  networkScope : NetworkScope
  status : GrantStatus
  deriving DecidableEq

def CapabilityGrant.permits (grant : CapabilityGrant) (request : AuthorizationRequest) : Bool :=
  grant.status == .active && grant.capability == request.capability
    && grant.networkScope.permits request.networkSlug

/-- The grant lists an API key is judged by. The client's list is there for agent keys only. -/
structure ApiKeyAuthorizationGrants where
  ownerGrants : List CapabilityGrant
  keyGrants : List CapabilityGrant
  clientGrants : Option (List CapabilityGrant)

inductive AuthorizationDeny
  | owner | client | key
  deriving DecidableEq

inductive AuthorizationDecision
  | allow
  | deny (reason : AuthorizationDeny)
  deriving DecidableEq

def evaluateAuthorization (context : ApiKeyAuthorizationGrants) (request : AuthorizationRequest) :
    AuthorizationDecision :=
  if !context.ownerGrants.any (·.permits request) then .deny .owner
  else if context.clientGrants.any fun grants => !grants.any (·.permits request) then
    .deny .client
  else if !context.keyGrants.any (·.permits request) then .deny .key
  else .allow

def isAuthorizedForRoute (grants : ApiKeyAuthorizationGrants) (required : Capability) : Bool :=
  evaluateAuthorization grants (.route required) == .allow

/-- The answers of the API that the authorization code gives. -/
inductive ApiError
  | unauthorized | databaseUnavailableForAuth | capabilityNotGranted | rateLimited
  deriving DecidableEq

/-- The grants of a key, as the repository answers: none when it has no database, an error
when the lookup fails. -/
abbrev GrantLookup := Option (Except Unit ApiKeyAuthorizationGrants)

/-- A request without a principal is on a surface that asks for no key. -/
def requireNetworkScopes (hasPrincipal : Bool) (lookup : GrantLookup) (capability : Capability)
    (networkSlugs : List String) : Except ApiError Unit :=
  if !hasPrincipal then .ok ()
  else match lookup with
    | none => .error .databaseUnavailableForAuth
    | some (.error _) => .error .databaseUnavailableForAuth
    | some (.ok grants) =>
      networkSlugs.forM fun networkSlug =>
        if evaluateAuthorization grants (.network capability networkSlug) != .allow then
          .error .capabilityNotGranted
        else .ok ()

/-! ### The intersection -/

/-- An active grant of `c` for every network or for the network `n`. -/
def Covers (grants : List CapabilityGrant) (c : Capability) (n : String) : Prop :=
  ∃ grant ∈ grants, grant.status = .active ∧ grant.capability = c ∧
    (grant.networkScope = .any ∨ grant.networkScope = .exact n)

/-- Every list of the key covers `c` on `n`. -/
def ApiKeyAuthorizationGrants.Cover (grants : ApiKeyAuthorizationGrants) (c : Capability)
    (n : String) : Prop :=
  Covers grants.ownerGrants c n ∧ Covers grants.keyGrants c n ∧
    ∀ client ∈ grants.clientGrants, Covers client c n

/-- Both checks of a request for `c` on the networks `ns` let it pass. -/
def Passes (grants : ApiKeyAuthorizationGrants) (c : Capability) (ns : List String) : Prop :=
  isAuthorizedForRoute grants c = true ∧
    requireNetworkScopes true (some (.ok grants)) c ns = .ok ()

lemma evaluateAuthorization_allow {context : ApiKeyAuthorizationGrants}
    {request : AuthorizationRequest} :
    evaluateAuthorization context request = .allow ↔
      context.ownerGrants.any (·.permits request) = true ∧
        context.keyGrants.any (·.permits request) = true ∧
        ∀ client ∈ context.clientGrants, client.any (·.permits request) = true := by
  unfold evaluateAuthorization
  cases context.ownerGrants.any (·.permits request)
  · simp
  cases hc : context.clientGrants with
  | none => cases context.keyGrants.any (·.permits request) <;> simp
  | some client =>
    simp only [Option.any_some, Option.mem_def, Option.some.injEq, forall_eq']
    by_cases hp : client.any (·.permits request) = true
    · simp only [hp]
      cases context.keyGrants.any (·.permits request) <;> simp
    · simp only [Bool.not_eq_true] at hp
      simp [hp]

lemma any_permits_network {grants : List CapabilityGrant} {c : Capability} {n : String} :
    grants.any (·.permits (.network c n)) = true ↔ Covers grants c n := by
  simp only [List.any_eq_true, Covers]
  refine exists_congr fun grant => and_congr_right fun _ => ?_
  simp only [CapabilityGrant.permits, AuthorizationRequest.network, Bool.and_eq_true, beq_iff_eq,
    and_assoc]
  refine and_congr_right fun _ => and_congr_right fun _ => ?_
  cases grant.networkScope <;> simp [NetworkScope.permits]

@[simp] lemma permits_route (grant : CapabilityGrant) (c : Capability) :
    grant.permits (.route c) = true ↔ grant.status = .active ∧ grant.capability = c := by
  cases hn : grant.networkScope <;>
    simp [CapabilityGrant.permits, AuthorizationRequest.route, NetworkScope.permits, hn]

lemma any_permits_route {grants : List CapabilityGrant} {c : Capability} {n : String}
    (h : Covers grants c n) : grants.any (·.permits (.route c)) = true := by
  obtain ⟨grant, hmem, hs, hc, -⟩ := h
  exact List.any_eq_true.mpr ⟨grant, hmem, (permits_route grant c).mpr ⟨hs, hc⟩⟩

lemma allow_network {grants : ApiKeyAuthorizationGrants} {c : Capability} {n : String} :
    evaluateAuthorization grants (.network c n) = .allow ↔ grants.Cover c n := by
  rw [evaluateAuthorization_allow, ApiKeyAuthorizationGrants.Cover, any_permits_network,
    any_permits_network]
  exact and_congr_right fun _ => and_congr_right fun _ =>
    forall₂_congr fun _ _ => any_permits_network

lemma allow_route {grants : ApiKeyAuthorizationGrants} {c : Capability} {n : String}
    (h : grants.Cover c n) : isAuthorizedForRoute grants c = true := by
  unfold isAuthorizedForRoute
  rw [beq_iff_eq, evaluateAuthorization_allow]
  exact ⟨any_permits_route h.1, any_permits_route h.2.1,
    fun client hc => any_permits_route (h.2.2 client hc)⟩

lemma requireNetworkScopes_ok {grants : ApiKeyAuthorizationGrants} {c : Capability}
    {ns : List String} :
    requireNetworkScopes true (some (.ok grants)) c ns = .ok () ↔ ∀ n ∈ ns, grants.Cover c n := by
  unfold requireNetworkScopes
  simp only [Bool.not_true, Bool.false_eq_true, if_false]
  induction ns with
  | nil => simp [List.forM, pure, Except.pure]
  | cons n ns ih =>
    simp only [List.mem_cons, forall_eq_or_imp, ← allow_network (n := n), ← ih]
    by_cases h : evaluateAuthorization grants (.network c n) = .allow
    · simp [h, bind, Except.bind]
    · simp [h, bind, Except.bind]

/-- One key's lists allow no more than another's: grants were removed from its lists, or it
is an agent key where the other is not. -/
structure Restricts (fewer more : ApiKeyAuthorizationGrants) : Prop where
  owner : fewer.ownerGrants.Sublist more.ownerGrants
  key : fewer.keyGrants.Sublist more.keyGrants
  client : ∀ list ∈ more.clientGrants, ∃ list' ∈ fewer.clientGrants, list'.Sublist list

lemma Covers.mono {fewer more : List CapabilityGrant} (h : fewer.Sublist more) {c : Capability}
    {n : String} (hc : Covers fewer c n) : Covers more c n := by
  obtain ⟨grant, hmem, hrest⟩ := hc
  exact ⟨grant, h.subset hmem, hrest⟩

lemma Restricts.cover {fewer more : ApiKeyAuthorizationGrants} (h : Restricts fewer more)
    {c : Capability} {n : String} (hc : fewer.Cover c n) : more.Cover c n := by
  refine ⟨hc.1.mono h.owner, hc.2.1.mono h.key, fun list hl => ?_⟩
  obtain ⟨list', hl', hsub⟩ := h.client list hl
  exact (hc.2.2 list' hl').mono hsub

lemma passes_iff {grants : ApiKeyAuthorizationGrants} {c : Capability} {ns : List String}
    (hne : ns ≠ []) : Passes grants c ns ↔ ∀ n ∈ ns, grants.Cover c n := by
  unfold Passes
  rw [requireNetworkScopes_ok]
  refine ⟨fun h => h.2, fun h => ⟨?_, h⟩⟩
  obtain ⟨n, hn⟩ := List.exists_mem_of_ne_nil ns hne
  exact allow_route (h n hn)

/-- **The two checks are an intersection.** A request that passes both is covered by every
list on every network it names; one that is covered, and names a network, passes both; and
no pair of a capability and a network becomes allowed by adding a client list or by removing
grants. -/
theorem two_stage_intersection (grants : ApiKeyAuthorizationGrants) (c : Capability)
    (ns : List String) :
    (Passes grants c ns → ∀ n ∈ ns, grants.Cover c n) ∧
      (ns ≠ [] → (∀ n ∈ ns, grants.Cover c n) → Passes grants c ns) ∧
      (∀ fewer n, Restricts fewer grants → ¬ Passes grants c [n] → ¬ Passes fewer c [n]) := by
  refine ⟨fun h => requireNetworkScopes_ok.mp h.2, fun hne h => (passes_iff hne).mpr h,
    fun fewer n hr hdenied hpass => hdenied ?_⟩
  rw [passes_iff (by simp)] at hpass ⊢
  exact fun m hm => hr.cover (hpass m hm)

/-- An agent key whose client holds the capability on one network is refused on another, and
dropping the owner's grant does not help. -/
theorem two_stage_intersection_agent :
    Passes
        ⟨[⟨.balancesRead, .any, .active⟩], [⟨.balancesRead, .exact "eth-mainnet", .active⟩],
          some [⟨.balancesRead, .exact "eth-mainnet", .active⟩]⟩
        .balancesRead ["eth-mainnet"] ∧
      ¬ Passes
        ⟨[], [⟨.balancesRead, .exact "eth-mainnet", .active⟩],
          some [⟨.balancesRead, .exact "eth-mainnet", .active⟩]⟩
        .balancesRead ["base-mainnet"] := by
  obtain ⟨-, hpass, hmono⟩ := two_stage_intersection
    ⟨[⟨.balancesRead, .any, .active⟩], [⟨.balancesRead, .exact "eth-mainnet", .active⟩],
      some [⟨.balancesRead, .exact "eth-mainnet", .active⟩]⟩ .balancesRead ["eth-mainnet"]
  refine ⟨hpass (by simp) (by simp [ApiKeyAuthorizationGrants.Cover, Covers]), hmono _ _ ?_ ?_⟩
  · exact ⟨List.nil_sublist _, List.Sublist.refl _,
      fun list hl => ⟨list, hl, List.Sublist.refl _⟩⟩
  · rw [passes_iff (by simp)]
    simp [ApiKeyAuthorizationGrants.Cover, Covers]

end MotherApi.Capabilities
