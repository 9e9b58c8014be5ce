import MotherApi.BalanceCompletion
import MotherApi.BalancePresenter
import MotherApi.BalanceRequests
import MotherApi.Capabilities

/-!
The two routes for balances, from the body of a request to the answer.

A body is read as a request and the request as a command; the networks of the command are held
against the grants of the caller before anything is asked of the provider; then the command is
resolved and the result presented. Both routes do this, one for a single account.
-/

namespace MotherApi.BalanceEndpoints

open MotherApi.Lib.Fallible MotherApi.Lib.JsonTrees MotherApi.Strings MotherApi.Registry
open MotherApi.BalanceCommand MotherApi.BalancePlan MotherApi.BalanceService
open MotherApi.BalancePresenter MotherApi.BalanceRequests MotherApi.BalanceCompletion
open MotherApi.PlanSafety (IsUnsupported)
open MotherApi.OnchainWindows (ApiError JsonObject get)
open MotherApi.Capabilities (GrantLookup requireNetworkScopes requireNetworkScopes_ok)

/-! ### The answers -/

def unauthorized : ApiError :=
  ⟨401, "unauthorized", "The request lacks a valid active API key."⟩

def rateLimited : ApiError :=
  ⟨429, "rate_limited", "The valid API key exceeded a request limit."⟩

def capabilityNotGranted : ApiError :=
  ⟨403, "capability_not_granted", "The API key is not authorized for this operation."⟩

def databaseUnavailableForAuth : ApiError :=
  ⟨503, "database_unavailable", "API-key authentication is temporarily unavailable."⟩

def invalidAccount : ApiError := ⟨400, "invalid_account", "Account address is invalid."⟩

def unsupportedAsset : ApiError := ⟨400, "unsupported_asset", "Asset is not supported."⟩

def unsupportedQuoteCurrency : ApiError :=
  ⟨400, "unsupported_quote_currency", "Quote currency is not supported."⟩

def unsupportedAsOf : ApiError :=
  ⟨400, "unsupported_as_of", "Balance as_of kind is not supported."⟩

def emptyAccounts : ApiError := ⟨400, "empty_accounts", "At least one account is required."⟩

def duplicateAccount : ApiError :=
  ⟨400, "duplicate_account", "Each network-scoped account must be unique."⟩

def duplicateAsset : ApiError := ⟨400, "duplicate_asset", "Each asset slug must be unique."⟩

def requestTooLarge : ApiError :=
  ⟨413, "request_too_large", "Balance request exceeds the public limits."⟩

def internalError : ApiError :=
  ⟨500, "internal_error", "Mother API encountered an unexpected error."⟩

def authErrorToApiError : Capabilities.ApiError → ApiError
  | .unauthorized => unauthorized
  | .databaseUnavailableForAuth => databaseUnavailableForAuth
  | .capabilityNotGranted => capabilityNotGranted
  | .rateLimited => rateLimited

def commandErrorToApiError : GetBalancesCommandError → ApiError
  | .emptyAccounts => emptyAccounts
  | .emptyTokens => emptyTokens
  | .requestTooLarge => requestTooLarge
  | .unsupportedQuoteCurrency => unsupportedQuoteCurrency
  | .invalidAccount => invalidAccount
  | .duplicateAccount => duplicateAccount
  | .duplicateAsset => duplicateAsset

def balanceServiceErrorToApiError : BalanceSnapshotServiceError → ApiError
  | .unsupportedNetwork _ => unsupportedNetwork
  | .unsupportedAsset _ _ => unsupportedAsset
  | .requestTooLarge _ => requestTooLarge
  | .invalidPlan _ _ | .executionTaskFailed => internalError

def balanceAssemblerErrorToApiError (_ : BalancesResponsePresenterError) : ApiError := internalError

/-! ### From a request to a command -/

/-- `AsOf::try_from`. -/
def asOfTryFrom (asOf : AsOfRequest) : Except ApiError AsOf :=
  match asOf.kind, asOf.timestamp, asOf.blockNumber with
  | "latest", none, none => .ok .latest
  | "timestamp", some timestamp, none =>
    if (Rfc3339.parseRfc3339 timestamp).isNone then .error invalidRequest
    else .ok (.timestamp timestamp)
  | "block_number", none, some blockNumber =>
    if blockNumber.toList.all isAsciiDigit then .ok (.blockNumber blockNumber)
    else .error invalidRequest
  | "latest", _, _ | "timestamp", _, _ | "block_number", _, _ => .error invalidRequest
  | _, _, _ => .error unsupportedAsOf

def commandFromRequestParts (asOf : AsOfRequest) (accounts : List OnchainAccountRequest)
    (quoteCurrency : String) (tokens : TokenSelectorRequest) :
    Except ApiError GetBalancesCommand := do
  let asOf ← asOfTryFrom asOf
  let accounts := accounts.map fun account =>
    ({ networkSlug := account.networkSlug
       address := account.address
       clientRef := account.clientRef } : OnchainAccount)
  (tryNew asOf accounts quoteCurrency ⟨tokens.assetSlugs, tokens.contractAddresses⟩).mapError
    commandErrorToApiError

def commandFromSingle (request : SingleBalanceRequest) : Except ApiError GetBalancesCommand :=
  commandFromRequestParts request.asOf [request.account] request.quoteCurrency request.tokens

def commandFromBulk (request : BulkBalanceRequest) : Except ApiError GetBalancesCommand :=
  commandFromRequestParts request.asOf request.accounts request.quoteCurrency request.tokens

/-! ### The routes -/

/-- Who asks: with a principal, if the route is protected, and the grants of its key as the
repository answers. -/
structure Caller where
  hasPrincipal : Bool
  grants : GrantLookup

abbrev Answer := Except (Halt ApiError)

def haltToApiError : Halt BalanceSnapshotServiceError → Halt ApiError
  | .panic => .panic
  | .error error => .error (balanceServiceErrorToApiError error)

section

variable {ν ρ : Type} (registry : CanonicalRegistry) (env : Environment) (caller : Caller)

def resolveBalances (command : GetBalancesCommand) : Answer GetBalancesResult :=
  (resolve registry env command).mapError haltToApiError

/-- What both routes do with a command that was read, and with its result. -/
def answer (read : Except ApiError GetBalancesCommand)
    (present : GetBalancesResult → Except BalancesResponsePresenterError ρ) : Answer ρ := do
  let command ← lift read
  let networkSlugs := command.accounts.map (·.networkSlug)
  lift ((requireNetworkScopes caller.hasPrincipal caller.grants .balancesRead
    networkSlugs).mapError authErrorToApiError)
  let result ← resolveBalances registry env command
  lift ((present result).mapError balanceAssemblerErrorToApiError)

def readSingle (contentType : AsyncReports.Header) (body : Option (Value ν)) :
    Except ApiError GetBalancesCommand := do
  commandFromSingle (← SingleBalanceRequest.tryFromBody contentType body)

def readBulk (contentType : AsyncReports.Header) (body : Option (Value ν)) :
    Except ApiError GetBalancesCommand := do
  commandFromBulk (← BulkBalanceRequest.tryFromBody contentType body)

def resolveSingleBalance (contentType : AsyncReports.Header) (body : Option (Value ν)) :
    Answer SingleBalanceResponse :=
  answer registry env caller (readSingle contentType body) single

def resolveBulkBalances (contentType : AsyncReports.Header) (body : Option (Value ν)) :
    Answer BulkBalanceResponse :=
  answer registry env caller (readBulk contentType body) fun result => .ok (bulk result)

end

/-! ### What is read -/

/-- The errors of a body that is not a request, or not one that is allowed. -/
def Malformed (error : ApiError) : Prop := error.status = 400 ∨ error.status = 413

/-- The names of the request are written as the catalog writes them. -/
structure Canonical (command : GetBalancesCommand) : Prop where
  networks : ∀ account ∈ command.accounts, account.networkSlug ∈ supportedBalanceNetworkSlugs
  assets : ∀ slug ∈ command.tokens.assetSlugs, isAssetSlug slug = true

section

variable {ν : Type}

lemma rejectReservedAliasFields_returns (value : Value ν) :
    Returns (· = invalidRequest) (fun _ => True) (rejectReservedAliasFields value) := by
  induction value using Value.induct with
  | array values ih =>
    rw [rejectReservedAliasFields]
    exact returns_forM fun value _ => ih value.1 value.2
  | object entries ih =>
    rw [rejectReservedAliasFields, rejectReservedAliasFieldsInObject]
    split
    · exact rfl
    · exact returns_forM fun entry _ => ih entry.1 entry.2
  | _ =>
    rw [rejectReservedAliasFields] <;> simp [Returns]

lemma rejectReservedAliasFieldsInObject_error {object : JsonObject ν} {error : ApiError}
    (h : rejectReservedAliasFieldsInObject object = .error error) : error = invalidRequest := by
  have hreturns := rejectReservedAliasFields_returns (.object object)
  rw [rejectReservedAliasFields, h] at hreturns
  exact hreturns

lemma rejectReservedAliasFieldsInObject_returns (object : JsonObject ν) :
    Returns Malformed (fun _ => True) (rejectReservedAliasFieldsInObject object) :=
  returns_iff.mpr ⟨fun _ h => rejectReservedAliasFieldsInObject_error h ▸ Or.inl rfl,
    fun _ _ => trivial⟩

lemma rejectUnknownFields_returns (object : JsonObject ν) (allowedFields : List String) :
    Returns Malformed (fun _ => True) (rejectUnknownFields object allowedFields) := by
  unfold rejectUnknownFields
  split
  · exact Or.inl rfl
  · trivial

lemma validateRequiredString_returns (value : Option (Value ν)) :
    Returns Malformed (fun _ => True) (validateRequiredString value) := by
  unfold validateRequiredString
  split
  · split
    · exact Or.inl rfl
    · trivial
  · exact Or.inl rfl

lemma validateOptionalString_returns (value : Option (Value ν)) :
    Returns Malformed (fun _ => True) (validateOptionalString value) := by
  unfold validateOptionalString
  split
  · trivial
  · split
    · exact Or.inl rfl
    · trivial
  · exact Or.inl rfl

lemma validateAsOfObject_returns (value : Option (Value ν)) :
    Returns Malformed (fun _ => True) (validateAsOfObject value) := by
  unfold validateAsOfObject
  split
  · refine (rejectUnknownFields_returns _ _).bind fun _ _ => ?_
    refine (validateRequiredString_returns _).bind fun _ _ => ?_
    refine (validateOptionalString_returns _).bind fun _ _ => ?_
    exact (validateOptionalString_returns _).bind fun _ _ => trivial
  · exact Or.inl rfl

lemma validateAccountNetworkSlug_returns (supported : List String) (value : Option (Value ν)) :
    Returns Malformed (· ∈ supported) (validateAccountNetworkSlug supported value) := by
  unfold validateAccountNetworkSlug
  split
  · split
    · exact Or.inl rfl
    · split
      · assumption
      · exact Or.inl rfl
  · exact Or.inl rfl

lemma validateAddress_returns (value : Option (Value ν)) :
    Returns Malformed (fun _ => True) (validateAddress value) := by
  unfold validateAddress
  split
  · split
    · exact Or.inl rfl
    · trivial
  · exact Or.inl rfl

lemma validateClientRef_returns (value : Option (Value ν)) :
    Returns Malformed (fun _ => True) (validateClientRef value) := by
  unfold validateClientRef
  split
  · trivial
  · trivial
  · trivial
  · exact Or.inl rfl

lemma validateAccountObject_returns (supported : List String) (value : Option (Value ν)) :
    Returns Malformed (fun account => account.networkSlug ∈ supported)
      (validateAccountObject supported value) := by
  unfold validateAccountObject
  split
  · refine (rejectUnknownFields_returns _ _).bind fun _ _ => ?_
    refine (validateAccountNetworkSlug_returns _ _).bind fun networkSlug hslug => ?_
    refine (validateAddress_returns _).bind fun _ _ => ?_
    exact (validateClientRef_returns _).bind fun _ _ => hslug
  · exact Or.inl rfl

lemma validateAccountArray_returns (supported : List String) (value : Option (Value ν)) :
    Returns Malformed (fun accounts => ∀ account ∈ accounts, account.networkSlug ∈ supported)
      (validateAccountArray supported value) := by
  unfold validateAccountArray
  split
  · exact returns_mapM_all fun account _ => validateAccountObject_returns supported (some account)
  · exact Or.inl rfl

lemma validateStrings_returns {error : ApiError} (herror : Malformed error) (passes : String → Bool)
    (keep : String → String) (value : Option (Value ν)) :
    Returns Malformed (fun kept => ∀ s ∈ kept, ∃ value, passes value = true ∧ s = keep value)
      (validateStrings error passes keep value) := by
  unfold validateStrings
  split
  · exact fun s hs => absurd hs List.not_mem_nil
  · refine returns_mapM_all fun value _ => ?_
    split
    · rename_i text _
      split
      · exact ⟨text, ‹_›, rfl⟩
      · exact herror
    · exact herror
  · exact herror

lemma validateRequiredNonEmptyTokensObject_returns (value : Option (Value ν)) :
    Returns Malformed (fun tokens => ∀ slug ∈ tokens.assetSlugs, isAssetSlug slug = true)
      (validateRequiredNonEmptyTokensObject value) := by
  unfold validateRequiredNonEmptyTokensObject
  split
  · exact Or.inl rfl
  · refine (rejectUnknownFields_returns _ _).bind fun _ _ => ?_
    refine (validateStrings_returns (Or.inl rfl) _ _ _).bind fun slugs hslugs => ?_
    refine (validateStrings_returns (Or.inl rfl) _ _ _).bind fun _ _ => ?_
    split
    · exact Or.inl rfl
    · intro slug hslug
      obtain ⟨value, hvalue, rfl⟩ := hslugs slug hslug
      exact hvalue
  · exact Or.inl rfl

lemma bodyObject_returns (contentType : AsyncReports.Header) (body : Option (Value ν)) :
    Returns Malformed (fun _ => True) (bodyObject contentType body) := by
  unfold bodyObject
  split
  · trivial
  · exact Or.inl rfl

lemma asOfTryFrom_returns (asOf : AsOfRequest) :
    Returns Malformed (fun _ => True) (asOfTryFrom asOf) := by
  unfold asOfTryFrom
  split
  · trivial
  · split
    · exact Or.inl rfl
    · trivial
  · split
    · trivial
    · exact Or.inl rfl
  all_goals exact Or.inl rfl

lemma commandError_malformed (error : GetBalancesCommandError) :
    Malformed (commandErrorToApiError error) := by
  cases error <;> simp [Malformed, commandErrorToApiError, emptyAccounts, emptyTokens,
    requestTooLarge, unsupportedQuoteCurrency, invalidAccount, duplicateAccount, duplicateAsset]

lemma commandFromRequestParts_returns {accounts : List OnchainAccountRequest}
    {tokens : TokenSelectorRequest} (asOf : AsOfRequest) (quoteCurrency : String)
    (haccounts : ∀ account ∈ accounts, account.networkSlug ∈ supportedBalanceNetworkSlugs)
    (htokens : ∀ slug ∈ tokens.assetSlugs, isAssetSlug slug = true) :
    Returns Malformed
      (fun command => Canonical command ∧ command.accounts.length = accounts.length)
      (commandFromRequestParts asOf accounts quoteCurrency tokens) := by
  refine (asOfTryFrom_returns asOf).bind fun asOf _ => ?_
  simp only
  generalize hcommand : tryNew asOf _ quoteCurrency _ = command
  cases command with
  | error error => exact commandError_malformed error
  | ok command =>
    obtain ⟨-, hcommandAccounts, hassets, -⟩ := tryNew_ok hcommand
    refine ⟨⟨?_, by rw [hassets]; exact htokens⟩, by rw [hcommandAccounts, List.length_map]⟩
    rw [hcommandAccounts]
    intro account haccount
    obtain ⟨requested, hrequested, rfl⟩ := List.mem_map.mp haccount
    exact haccounts requested hrequested

/-- A body is refused as malformed, or read as a command for a single account. -/
lemma readSingle_returns (contentType : AsyncReports.Header) (body : Option (Value ν)) :
    Returns Malformed (fun command => Canonical command ∧ command.accounts.length = 1)
      (readSingle contentType body) := by
  unfold readSingle SingleBalanceRequest.tryFromBody SingleBalanceRequest.tryFrom
  simp only [bind_assoc, pure_bind]
  refine (bodyObject_returns _ _).bind fun object _ => ?_
  refine (rejectReservedAliasFieldsInObject_returns _).bind fun _ _ => ?_
  refine (rejectUnknownFields_returns _ _).bind fun _ _ => ?_
  refine (validateAsOfObject_returns _).bind fun asOf _ => ?_
  refine (validateAccountObject_returns _ _).bind fun account haccount => ?_
  refine (validateRequiredString_returns _).bind fun quoteCurrency _ => ?_
  refine (validateRequiredNonEmptyTokensObject_returns _).bind fun tokens htokens => ?_
  exact commandFromRequestParts_returns asOf quoteCurrency (by simpa using haccount) htokens

lemma readBulk_returns (contentType : AsyncReports.Header) (body : Option (Value ν)) :
    Returns Malformed Canonical (readBulk contentType body) := by
  unfold readBulk BulkBalanceRequest.tryFromBody BulkBalanceRequest.tryFrom
  simp only [bind_assoc, pure_bind]
  refine (bodyObject_returns _ _).bind fun object _ => ?_
  refine (rejectReservedAliasFieldsInObject_returns _).bind fun _ _ => ?_
  refine (rejectUnknownFields_returns _ _).bind fun _ _ => ?_
  refine (validateAsOfObject_returns _).bind fun asOf _ => ?_
  refine (validateAccountArray_returns _ _).bind fun accounts haccounts => ?_
  refine (validateRequiredString_returns _).bind fun quoteCurrency _ => ?_
  refine (validateRequiredNonEmptyTokensObject_returns _).bind fun tokens htokens => ?_
  exact (commandFromRequestParts_returns asOf quoteCurrency haccounts htokens).mono fun _ h => h.1

end

/-! ### How a request ends -/

/-- The caller may ask for balances on the network. -/
def Granted (caller : Caller) (networkSlug : String) : Prop :=
  caller.hasPrincipal = true → ∃ grants, caller.grants = some (.ok grants) ∧
    grants.Cover .balancesRead networkSlug

lemma requireNetworkScopes_grants {grants : Capabilities.ApiKeyAuthorizationGrants}
    (networkSlugs : List String) :
    Returns (fun error => error = .capabilityNotGranted ∧
        ¬∀ networkSlug ∈ networkSlugs, grants.Cover .balancesRead networkSlug)
      (fun _ => ∀ networkSlug ∈ networkSlugs, grants.Cover .balancesRead networkSlug)
      (requireNetworkScopes true (some (.ok grants)) .balancesRead networkSlugs) := by
  have hok := @requireNetworkScopes_ok grants .balancesRead networkSlugs
  have herror : Returns (· = .capabilityNotGranted) (fun _ => True)
      (requireNetworkScopes true (some (.ok grants)) .balancesRead networkSlugs) := by
    refine returns_forM fun networkSlug _ => ?_
    split
    · exact rfl
    · trivial
  cases hrequire : requireNetworkScopes true (some (.ok grants)) .balancesRead networkSlugs with
  | ok _ => exact hok.mp hrequire
  | error error =>
    rw [hrequire] at herror hok
    exact ⟨herror, fun hall => by cases hok.mpr hall⟩

lemma requireNetworkScopes_returns (caller : Caller) {networkSlugs : List String}
    (hnonempty : networkSlugs ≠ []) :
    Returns (fun error => (error = capabilityNotGranted ∨ error = databaseUnavailableForAuth) ∧
        ¬∀ networkSlug ∈ networkSlugs, Granted caller networkSlug)
      (fun _ => ∀ networkSlug ∈ networkSlugs, Granted caller networkSlug)
      ((requireNetworkScopes caller.hasPrincipal caller.grants .balancesRead
        networkSlugs).mapError authErrorToApiError) := by
  obtain ⟨networkSlug, hmem⟩ := List.exists_mem_of_ne_nil _ hnonempty
  obtain ⟨hasPrincipal, lookup⟩ := caller
  cases hasPrincipal with
  | false => exact fun _ _ h => by cases h
  | true =>
    have hunknown (h : ∀ grants, lookup ≠ some (.ok grants)) :
        ¬∀ networkSlug ∈ networkSlugs, Granted ⟨true, lookup⟩ networkSlug := fun hall => by
      obtain ⟨grants, hgrants, -⟩ := hall networkSlug hmem rfl
      exact h grants hgrants
    match lookup, hunknown with
    | none, hunknown => exact ⟨Or.inr rfl, hunknown (by simp)⟩
    | some (.error _), hunknown => exact ⟨Or.inr rfl, hunknown (by simp)⟩
    | some (.ok grants), _ =>
      have hgrants := @requireNetworkScopes_grants grants networkSlugs
      simp only
      cases hrequire : requireNetworkScopes true (some (.ok grants)) .balancesRead networkSlugs with
      | ok _ =>
        rw [hrequire] at hgrants
        exact fun other hother _ => ⟨grants, rfl, hgrants other hother⟩
      | error error =>
        rw [hrequire] at hgrants
        obtain ⟨rfl, hnot⟩ := hgrants
        refine ⟨Or.inl rfl, fun hall => hnot fun other hother => ?_⟩
        obtain ⟨grants', hgrants', hcover⟩ := hall other hother rfl
        cases hgrants'
        exact hcover

section

variable {ρ : Type} (registry : CanonicalRegistry) (env : Environment) (caller : Caller)
  (read : Except ApiError GetBalancesCommand)
  (present : GetBalancesResult → Except BalancesResponsePresenterError ρ)

/-- How a request ends. Nothing is asked of the provider unless every network is granted, and the
only internal error is that of a lost task. -/
inductive Outcome : Answer ρ → Prop
  | malformed (error : ApiError) (malformed : Malformed error) (unread : read = .error error) :
    Outcome (.error (.error error))
  | ungranted (command : GetBalancesCommand) (read : read = .ok command) (error : ApiError)
    (refused : error = capabilityNotGranted ∨ error = databaseUnavailableForAuth)
    (ungranted : ∃ account ∈ command.accounts, ¬Granted caller account.networkSlug) :
    Outcome (.error (.error error))
  | unsupported (command : GetBalancesCommand) (read : read = .ok command)
    (granted : ∀ account ∈ command.accounts, Granted caller account.networkSlug)
    (error : ApiError) (refused : error = unsupportedNetwork ∨ error = unsupportedAsset)
    (unplanned : ∀ plans, planGroups registry command ≠ .ok plans) :
    Outcome (.error (.error error))
  | lost (command : GetBalancesCommand) (read : read = .ok command)
    (granted : ∀ account ∈ command.accounts, Granted caller account.networkSlug)
    (plans : List NetworkGroupPlan) (planned : planGroups registry command = .ok plans)
    (lost : ∃ plan ∈ plans, Lost env plan) : Outcome (.error (.error internalError))
  | answered (command : GetBalancesCommand) (read : read = .ok command)
    (granted : ∀ account ∈ command.accounts, Granted caller account.networkSlug)
    (plans : List NetworkGroupPlan) (planned : planGroups registry command = .ok plans)
    (kept : ∀ plan ∈ plans, ¬Lost env plan) (result : GetBalancesResult)
    (resolved : resolve registry env command = .ok result)
    (accounts : result.accounts.map (·.account) = command.accounts) (response : ρ)
    (presented : present result = .ok response) : Outcome (.ok response)

end

section

variable {ρ : Type} {catalog : Catalog} {registry : CanonicalRegistry}
  {read : Except ApiError GetBalancesCommand}
  {present : GetBalancesResult → Except BalancesResponsePresenterError ρ}

lemma lowercase_of_canonical {command : GetBalancesCommand} (h : Canonical command) :
    (∀ account ∈ command.accounts, toAsciiLowercase account.networkSlug = account.networkSlug) ∧
      ∀ slug ∈ command.tokens.assetSlugs, toAsciiLowercase slug = slug := by
  refine ⟨fun account haccount => ?_,
    fun slug hslug => toAsciiLowercase_of_slug (h.assets slug hslug)⟩
  have hmem := h.networks account haccount
  have hlower : ∀ slug ∈ supportedBalanceNetworkSlugs, toAsciiLowercase slug = slug := by decide
  exact hlower _ hmem

lemma serviceError_of_unsupported {error : Halt BalanceSnapshotServiceError}
    (h : IsUnsupported error) : ∃ error', haltToApiError error = .error error' ∧
      (error' = unsupportedNetwork ∨ error' = unsupportedAsset) := by
  cases h with
  | network => exact ⟨_, rfl, Or.inl rfl⟩
  | asset => exact ⟨_, rfl, Or.inr rfl⟩

/-- Whatever is read and however it is presented, a request ends in one of these ways. -/
lemma answer_outcome (hregistry : fromCatalog catalog = .ok registry) (env : Environment)
    (caller : Caller)
    (hread : Returns Malformed (fun command => Canonical command ∧
      ∀ result, result.accounts.map (·.account) = command.accounts →
        ∃ response, present result = .ok response) read) :
    Outcome registry env caller read present (answer registry env caller read present) := by
  cases hcommand : read with
  | error error =>
    rw [hcommand] at hread
    exact .malformed error hread rfl
  | ok command =>
    rw [hcommand] at hread
    obtain ⟨hcanonical, hpresent⟩ := hread
    have hscopes := requireNetworkScopes_returns caller (mt List.map_eq_nil_iff.mp
      command.accountsNonempty : command.accounts.map (·.networkSlug) ≠ [])
    unfold answer
    simp only [lift, bind_ok]
    cases hrequire : (requireNetworkScopes caller.hasPrincipal caller.grants .balancesRead
        (command.accounts.map (·.networkSlug))).mapError authErrorToApiError with
    | error error =>
      rw [hrequire] at hscopes
      refine .ungranted command rfl error hscopes.1 ?_
      have hnot := hscopes.2
      simp only [List.forall_mem_map, not_forall] at hnot
      obtain ⟨account, haccount, hnot⟩ := hnot
      exact ⟨account, haccount, hnot⟩
    | ok _ =>
      rw [hrequire] at hscopes
      have hgranted : ∀ account ∈ command.accounts, Granted caller account.networkSlug :=
        List.forall_mem_map.mp hscopes
      obtain ⟨hnetworks, hassets⟩ := lowercase_of_canonical hcanonical
      simp only [bind_ok, resolveBalances]
      cases ends hregistry env command hnetworks hassets with
      | refused error unsupported planned resolved =>
        obtain ⟨error', herror, hrefused⟩ := serviceError_of_unsupported unsupported
        rw [resolved]
        simp only [Except.mapError, herror]
        refine .unsupported command rfl hgranted error' hrefused fun plans hplans => ?_
        rw [planned] at hplans
        cases hplans
      | lost plans planned lost resolved =>
        rw [resolved]
        exact .lost command rfl hgranted plans planned lost
      | answered plans planned kept result resolved =>
        obtain ⟨plans', hplans', hresolution⟩ :=
          BalanceAttribution.resolve_ok (fromCatalog_indexed hregistry) resolved
        obtain ⟨response, hresponse⟩ := hpresent result hresolution.accounts
        rw [resolved]
        simp only [Except.mapError, bind_ok, hresponse]
        exact .answered command rfl hgranted plans planned kept result resolved
          hresolution.accounts response hresponse

end

lemma exists_single {result : GetBalancesResult}
    (h : (result.accounts.map (·.account)).length = 1) :
    ∃ response, single result = .ok response := by
  rw [List.length_map] at h
  obtain ⟨account, haccount⟩ := List.length_eq_one_iff.mp h
  unfold single
  rw [haccount]
  exact ⟨_, rfl⟩

/-- **A balance request ends as documented.** For every registry, provider, caller, header and
body, on both routes: the body is refused as malformed; or a network of it is not granted; or the
catalog does not support what it names; or a task is lost; or it is answered. There is no panic,
and a single account is always presented. -/
theorem balances_end {ν : Type} {catalog : Catalog} {registry : CanonicalRegistry}
    (hregistry : fromCatalog catalog = .ok registry) (env : Environment) (caller : Caller)
    (contentType : AsyncReports.Header) (body : Option (Value ν)) :
    Outcome registry env caller (readSingle contentType body) single
        (resolveSingleBalance registry env caller contentType body) ∧
      Outcome registry env caller (readBulk contentType body) (fun result => .ok (bulk result))
        (resolveBulkBalances registry env caller contentType body) := by
  refine ⟨answer_outcome hregistry env caller ?_, answer_outcome hregistry env caller ?_⟩
  · refine (readSingle_returns contentType body).mono fun command h => ⟨h.1, ?_⟩
    exact fun result haccounts => exists_single (haccounts ▸ h.2)
  · exact (readBulk_returns contentType body).mono fun command h => ⟨h, fun _ _ => ⟨_, rfl⟩⟩

def jsonHeader : AsyncReports.Header := .text "application/json"

/-- What a body says beside the accounts. -/
def sampleFields : JsonObject ℕ :=
  [("as_of", .object [("kind", .string "latest")]), ("quote_currency", .string "usd"),
    ("tokens", .object [("asset_slugs", .array [.string "ethereum"])])]

def sampleAccount (networkSlug : String) : Value ℕ :=
  .object [("network_slug", .string networkSlug),
    ("address", .string "0x1111111111111111111111111111111111111111")]

/-- A body for two networks. -/
def twinBody : JsonObject ℕ :=
  ("accounts", .array [sampleAccount "base-mainnet", sampleAccount "eth-mainnet"]) :: sampleFields

/-- A body for one account. -/
def singleBody : JsonObject ℕ := ("account", sampleAccount "eth-mainnet") :: sampleFields

theorem balances_end_twin :
    (resolveBulkBalances twinRegistry twinEnvironment ⟨false, none⟩ jsonHeader
        (some (.object twinBody))).toOption.isSome = true ∧
      Outcome twinRegistry twinEnvironment ⟨false, none⟩
        (readBulk jsonHeader (some (.object twinBody))) (fun result => .ok (bulk result))
        (resolveBulkBalances twinRegistry twinEnvironment ⟨false, none⟩ jsonHeader
          (some (.object twinBody))) :=
  ⟨by decide +kernel, (balances_end fromCatalog_twinCatalog twinEnvironment
    ⟨false, none⟩ jsonHeader (some (.object twinBody))).2⟩

/-! ### What a caller learns of -/

section

variable {registry : CanonicalRegistry} {caller : Caller} {env env' : Environment}

lemma exists_account_of_plan (hindexed : Indexed registry) {request : GetBalancesCommand}
    {plans : List NetworkGroupPlan} (hplans : planGroups registry request = .ok plans)
    {plan : NetworkGroupPlan} (hplan : plan ∈ plans) :
    ∃ account ∈ request.accounts, account.networkSlug = plan.networkSlug := by
  obtain ⟨group, hgroup, hof⟩ := exists_of_forall₂ (planGroups_planOf hindexed hplans).flip hplan
  have hgrouped := groupAccounts_grouped request.accounts
  obtain ⟨entry, hentry⟩ :=
    List.exists_mem_of_ne_nil _ (PlanSafety.groupAccounts_nonempty request.accounts group hgroup)
  have hmem := (hgrouped.sublist group hgroup).subset (List.mem_map_of_mem hentry)
  refine ⟨entry.account, (List.mem_zipIdx hmem).2.2 ▸ List.getElem_mem _, ?_⟩
  rw [hof.networkSlug]
  exact hgrouped.slug group hgroup entry hentry

variable (caller env env') in
/-- The environments differ at most in what the provider says of networks that the caller has no
grant for, and in the order in which calls end. -/
structure SameFor : Prop where
  prices : env.priceQuoteReader = env'.priceQuoteReader
  configured : env.client.isSome = env'.client.isSome
  calls : ∀ client ∈ env.client, ∀ client' ∈ env'.client,
    ∀ request, Granted caller request.networkSlug → client request = client' request

lemma SameFor.execution_eq (h : SameFor caller env env') {plan : NetworkGroupPlan}
    (hgranted : Granted caller plan.networkSlug) : execution env plan = execution env' plan := by
  unfold execution
  have hconfigured := h.configured
  cases hclient : env.client with
  | none =>
    cases hclient' : env'.client with
    | none => rfl
    | some client' =>
      rw [hclient, hclient'] at hconfigured
      cases hconfigured
  | some client =>
    cases hclient' : env'.client with
    | none =>
      rw [hclient, hclient'] at hconfigured
      cases hconfigured
    | some client' =>
      have hcall := h.calls client hclient client' hclient' (BalanceResponse.bigwigRequest plan)
        hgranted
      simp only [hcall]

lemma bind_congr_ok {ε α β : Type} {x : Except ε α} {f g : α → Except ε β}
    (h : ∀ a, x = .ok a → f a = g a) : (x >>= f) = (x >>= g) := by
  cases x with
  | error e => rfl
  | ok a => exact h a rfl

lemma SameFor.answer_eq {ρ : Type} (hindexed : Indexed registry) (h : SameFor caller env env')
    (read : Except ApiError GetBalancesCommand)
    (present : GetBalancesResult → Except BalancesResponsePresenterError ρ) :
    answer registry env caller read present = answer registry env' caller read present := by
  unfold answer
  refine bind_congr_ok fun command _ => bind_congr_ok fun _ hrequire => ?_
  rw [lift_eq_ok] at hrequire
  have hscopes := requireNetworkScopes_returns caller (mt List.map_eq_nil_iff.mp
    command.accountsNonempty : command.accounts.map (·.networkSlug) ≠ [])
  rw [hrequire] at hscopes
  have hgranted : ∀ account ∈ command.accounts, Granted caller account.networkSlug :=
    List.forall_mem_map.mp hscopes
  have hresolve : resolve registry env command = resolve registry env' command := by
    refine resolve_congr h.prices fun plans hplans plan hplan => h.execution_eq ?_
    obtain ⟨account, haccount, hslug⟩ := exists_account_of_plan hindexed hplans hplan
    exact hslug ▸ hgranted account haccount
  rw [resolveBalances, resolveBalances, hresolve]

end

/-- **A caller learns nothing of networks it has no grant for.** If two providers say the same of
the networks that are granted, then whatever they say of others, and in whichever order their
answers come, both routes give the caller the same answer to every body. -/
theorem balances_confined {ν : Type} {catalog : Catalog} {registry : CanonicalRegistry}
    (hregistry : fromCatalog catalog = .ok registry) {caller : Caller} {env env' : Environment}
    (hsame : SameFor caller env env') (contentType : AsyncReports.Header)
    (body : Option (Value ν)) :
    resolveSingleBalance registry env caller contentType body =
        resolveSingleBalance registry env' caller contentType body ∧
      resolveBulkBalances registry env caller contentType body =
        resolveBulkBalances registry env' caller contentType body :=
  ⟨hsame.answer_eq (fromCatalog_indexed hregistry) _ _,
    hsame.answer_eq (fromCatalog_indexed hregistry) _ _⟩

/-- A caller with a grant for one of the two networks. -/
def mainnetCaller : Caller where
  hasPrincipal := true
  grants := some (.ok {
    ownerGrants := [⟨.balancesRead, .any, .active⟩]
    keyGrants := [⟨.balancesRead, .exact "eth-mainnet", .active⟩]
    clientGrants := none })

/-- The provider of the two networks without an answer for the other one. -/
def silentEnvironment : Environment where
  client := some fun request =>
    if request.networkSlug = "eth-mainnet" then .finished (.error .timeout) else .failed
  completion := id
  completion_perm := .refl
  priceQuoteReader := none

lemma granted_mainnetCaller {networkSlug : String} (h : Granted mainnetCaller networkSlug) :
    networkSlug = "eth-mainnet" := by
  obtain ⟨grants, hgrants, -, ⟨grant, hgrant, -, -, hscope⟩, -⟩ := h rfl
  cases hgrants
  rw [List.mem_singleton] at hgrant
  subst hgrant
  simpa [eq_comm] using hscope

theorem balances_confined_twin :
    (resolveSingleBalance twinRegistry silentEnvironment mainnetCaller jsonHeader
        (some (.object singleBody))).toOption.isSome = true ∧
      resolveSingleBalance twinRegistry twinEnvironment mainnetCaller jsonHeader
          (some (.object singleBody)) =
        resolveSingleBalance twinRegistry silentEnvironment mainnetCaller jsonHeader
          (some (.object singleBody)) ∧
      resolveBulkBalances twinRegistry twinEnvironment mainnetCaller jsonHeader
          (some (.object twinBody)) =
        resolveBulkBalances twinRegistry silentEnvironment mainnetCaller jsonHeader
          (some (.object twinBody)) := by
  have hsame : SameFor mainnetCaller twinEnvironment silentEnvironment := by
    refine ⟨rfl, rfl, fun client hclient client' hclient' request hgranted => ?_⟩
    cases hclient
    cases hclient'
    simp only [if_pos (granted_mainnetCaller hgranted)]
  exact ⟨by decide +kernel,
    (balances_confined fromCatalog_twinCatalog hsame jsonHeader (some (.object singleBody))).1,
    (balances_confined fromCatalog_twinCatalog hsame jsonHeader (some (.object twinBody))).2⟩

/-! ### The two routes -/

section

variable {ν : Type}

/-- A field of a request for one account, as it is in a request for many. -/
def wrapAccount : String × Value ν → String × Value ν
  | (field, value) => if field = "account" then ("accounts", .array [value]) else (field, value)

lemma get_wrapAccount {object : JsonObject ν} {field : String} (haccount : field ≠ "account")
    (haccounts : field ≠ "accounts") :
    get (object.map wrapAccount) field = get object field := by
  unfold OnchainWindows.get
  induction object with
  | nil => rfl
  | cons entry object ih =>
    obtain ⟨key, value⟩ := entry
    simp only [List.map_cons, wrapAccount]
    by_cases hkey : key = "account"
    · subst hkey
      rw [if_pos rfl, List.find?_cons_of_neg (by simpa using Ne.symm haccounts),
        List.find?_cons_of_neg (by simpa using Ne.symm haccount)]
      exact ih
    · rw [if_neg hkey]
      by_cases hfield : key = field
      · rw [List.find?_cons_of_pos (by simpa using hfield),
          List.find?_cons_of_pos (by simpa using hfield)]
      · rw [List.find?_cons_of_neg (by simpa using hfield),
          List.find?_cons_of_neg (by simpa using hfield)]
        exact ih

lemma get_accounts {object : JsonObject ν} (hno : "accounts" ∉ object.map Prod.fst) :
    get (object.map wrapAccount) "accounts" =
      (get object "account").map fun value => .array [value] := by
  unfold OnchainWindows.get
  induction object with
  | nil => rfl
  | cons entry object ih =>
    obtain ⟨key, value⟩ := entry
    simp only [List.map_cons, List.mem_cons, not_or] at hno
    simp only [List.map_cons, wrapAccount]
    by_cases hkey : key = "account"
    · subst hkey
      rw [if_pos rfl, List.find?_cons_of_pos (by simp), List.find?_cons_of_pos (by simp)]
      rfl
    · rw [if_neg hkey, List.find?_cons_of_neg (by simpa using Ne.symm hno.1),
        List.find?_cons_of_neg (by simpa using hkey)]
      exact ih hno.2

lemma rejectUnknownFields_wrap {object : JsonObject ν} (hno : "accounts" ∉ object.map Prod.fst) :
    rejectUnknownFields (object.map wrapAccount) bulkBalanceFields =
      rejectUnknownFields object singleBalanceFields := by
  have hany : ((object.map wrapAccount).any fun entry => !bulkBalanceFields.contains entry.1) =
      object.any fun entry => !singleBalanceFields.contains entry.1 := by
    rw [List.any_map, Bool.eq_iff_iff, List.any_eq_true, List.any_eq_true]
    refine exists_congr fun ⟨key, value⟩ => and_congr_right fun hmem => ?_
    have hkey : key ≠ "accounts" := fun heq => hno (heq ▸ List.mem_map_of_mem hmem)
    by_cases haccount : key = "account"
    · subst haccount
      simp [wrapAccount, bulkBalanceFields, singleBalanceFields]
    · simp [wrapAccount, haccount, hkey, bulkBalanceFields, singleBalanceFields]
  unfold rejectUnknownFields
  rw [hany]

lemma withoutKeys_wrap {object : JsonObject ν} :
    WithoutKeys reservedNetworkAliasFields (.object (object.map wrapAccount)) ↔
      WithoutKeys reservedNetworkAliasFields (.object object) := by
  rw [withoutKeys_object, withoutKeys_object, List.forall_mem_map]
  refine and_congr (forall₂_congr fun reserved hreserved => not_congr ?_)
    (forall₂_congr fun ⟨key, value⟩ _ => ?_)
  · rw [List.map_map, List.mem_map, List.mem_map]
    refine exists_congr fun ⟨key, value⟩ => and_congr_right fun _ => ?_
    simp only [Function.comp_apply, wrapAccount]
    by_cases hkey : key = "account"
    · -- neither name of the field is reserved
      have hreserved : "account" ≠ reserved ∧ "accounts" ≠ reserved := by
        revert hreserved
        revert reserved
        decide
      rw [if_pos hkey, hkey]
      exact iff_of_false hreserved.2 hreserved.1
    · rw [if_neg hkey]
  · simp only [wrapAccount]
    by_cases hkey : key = "account"
    · rw [if_pos hkey, withoutKeys_array]
      simp
    · rw [if_neg hkey]

lemma rejectReservedAliasFieldsInObject_wrap {object : JsonObject ν} :
    rejectReservedAliasFieldsInObject (object.map wrapAccount) =
      rejectReservedAliasFieldsInObject object := by
  have hiff := @withoutKeys_wrap ν object
  rw [← rejectReservedAliasFieldsInObject_iff, ← rejectReservedAliasFieldsInObject_iff] at hiff
  cases hwrapped : rejectReservedAliasFieldsInObject (object.map wrapAccount) with
  | ok _ => rw [hiff.mp hwrapped]
  | error error =>
    cases hobject : rejectReservedAliasFieldsInObject object with
    | ok _ =>
      rw [hiff.mpr hobject] at hwrapped
      cases hwrapped
    | error error' =>
      rw [rejectReservedAliasFieldsInObject_error hwrapped,
        rejectReservedAliasFieldsInObject_error hobject]

lemma validateAccountArray_wrap (supported : List String) (account : Option (Value ν)) :
    validateAccountArray supported (account.map fun value => .array [value]) =
      (validateAccountObject supported account).map fun account => [account] := by
  cases account with
  | none => rfl
  | some account =>
    rw [Option.map_some, validateAccountArray, List.mapM_cons, List.mapM_nil]
    cases validateAccountObject supported (some account) <;> rfl

/-- Both routes read the same command. -/
lemma readBulk_wrap (contentType : AsyncReports.Header) {object : JsonObject ν}
    (hno : "accounts" ∉ object.map Prod.fst) :
    readBulk contentType (some (.object (object.map wrapAccount))) =
      readSingle contentType (some (.object object)) := by
  unfold readBulk readSingle BulkBalanceRequest.tryFromBody SingleBalanceRequest.tryFromBody
    bodyObject
  cases AsyncReports.ensureJsonContentType contentType with
  | error error => rfl
  | ok _ =>
    simp only [bind_ok, BulkBalanceRequest.tryFrom, SingleBalanceRequest.tryFrom, bind_assoc,
      pure_bind]
    have hget : ∀ field ∈ ["as_of", "quote_currency", "tokens"],
        get (object.map wrapAccount) field = get object field := fun field hfield =>
      get_wrapAccount (by rintro rfl; revert hfield; decide) (by rintro rfl; revert hfield; decide)
    rw [rejectReservedAliasFieldsInObject_wrap, rejectUnknownFields_wrap hno,
      hget "as_of" (by simp), hget "quote_currency" (by simp), hget "tokens" (by simp),
      get_accounts hno, validateAccountArray_wrap]
    refine bind_congr fun _ => bind_congr fun _ => bind_congr fun asOf => ?_
    cases validateAccountObject supportedBalanceNetworkSlugs (get object "account") <;> rfl

end

/-- The response for many accounts says of its only one what the response for one account says,
but for the time of its evidence, which is told with the account. -/
structure Agrees (one : SingleBalanceResponse) (many : BulkBalanceResponse) : Prop where
  account : ∃ payload, many.accounts = [payload] ∧ SaysSame one payload
  status : many.status = one.status
  quoteCurrency : many.quoteCurrency = one.quoteCurrency
  asOf : many.asOf = { one.asOf with observedAt := none }
  errors : many.errors = []

lemma agrees_of_single {result : GetBalancesResult} {one : SingleBalanceResponse}
    (h : single result = .ok one) : Agrees one (bulk result) := by
  unfold single at h
  split at h
  · rename_i account haccount
    cases h
    refine ⟨⟨(presentAccount account).payload, ?_, rfl, rfl, rfl, rfl, rfl, rfl⟩,
      bulk_status_single result haccount, rfl, ?_, rfl⟩
    · rw [bulk_accounts, haccount]
      rfl
    · unfold bulk presentAsOf
      cases result.asOf <;> rfl
  · cases h

/-- The answers of the routes correspond: one error, or responses that agree. -/
inductive Corresponds : Answer SingleBalanceResponse → Answer BulkBalanceResponse → Prop
  | error (error : Halt ApiError) : Corresponds (.error error) (.error error)
  | ok (one : SingleBalanceResponse) (many : BulkBalanceResponse) (agrees : Agrees one many) :
    Corresponds (.ok one) (.ok many)

/-- **The two routes agree on one account.** A request for one account, and the request for many
with that account alone, are refused with the same error or answered with the same content. -/
theorem routes_correspond {ν : Type} {catalog : Catalog} {registry : CanonicalRegistry}
    (hregistry : fromCatalog catalog = .ok registry) (env : Environment) (caller : Caller)
    (contentType : AsyncReports.Header) {object : JsonObject ν}
    (hno : "accounts" ∉ object.map Prod.fst) :
    Corresponds (resolveSingleBalance registry env caller contentType (some (.object object)))
      (resolveBulkBalances registry env caller contentType
        (some (.object (object.map wrapAccount)))) := by
  have hread := readSingle_returns contentType (some (.object object))
  unfold resolveSingleBalance resolveBulkBalances answer
  rw [readBulk_wrap contentType hno]
  cases hcommand : readSingle contentType (some (.object object)) with
  | error error => exact .error _
  | ok command =>
    rw [hcommand] at hread
    simp only [lift, bind_ok]
    cases (requireNetworkScopes caller.hasPrincipal caller.grants .balancesRead
        (command.accounts.map (·.networkSlug))).mapError authErrorToApiError with
    | error error => exact .error _
    | ok _ =>
      simp only [bind_ok, resolveBalances]
      cases hresolved : resolve registry env command with
      | error error => exact .error _
      | ok result =>
        obtain ⟨plans, -, hresolution⟩ :=
          BalanceAttribution.resolve_ok (fromCatalog_indexed hregistry) hresolved
        obtain ⟨one, hone⟩ := exists_single (hresolution.accounts ▸ hread.2 :
          (result.accounts.map (·.account)).length = 1)
        simp only [Except.mapError, bind_ok, hone]
        exact .ok one _ (agrees_of_single hone)

/-- The balance of the account is reported, and there is a price for it. -/
def answeringEnvironment : Environment where
  client := some fun _ => .finished (.ok {
    primitive := .evmBalances
    status := .complete
    network := ⟨"eth-mainnet", 1⟩
    requestedAsOf := .latest
    resolvedEvidence := ⟨.observedHead, "25000000", "0xab", "2026-06-17T12:00:00Z"⟩
    items := [.resolved "0x1111111111111111111111111111111111111111" .native
      "1500000000000000000"] })
  completion := id
  completion_perm := .refl
  priceQuoteReader := some fun _ _ => .ok fun _ =>
    some (.available "2000.5" "USD" "2026-06-17T12:00:00Z")

theorem routes_correspond_sample :
    "accounts" ∉ singleBody.map Prod.fst ∧
      (resolveSingleBalance twinRegistry answeringEnvironment mainnetCaller jsonHeader
          (some (.object singleBody))).toOption.map (fun one =>
        one.positions.map fun position => (position.balance.amount, position.quote.value)) =
          some [(some "1.500000000000000000", some "3000.750000000000000000")] ∧
      Corresponds
        (resolveSingleBalance twinRegistry answeringEnvironment mainnetCaller jsonHeader
          (some (.object singleBody)))
        (resolveBulkBalances twinRegistry answeringEnvironment mainnetCaller jsonHeader
          (some (.object (singleBody.map wrapAccount)))) :=
  ⟨by decide, by decide +kernel, routes_correspond fromCatalog_twinCatalog answeringEnvironment
    mainnetCaller jsonHeader (by decide)⟩

end MotherApi.BalanceEndpoints
