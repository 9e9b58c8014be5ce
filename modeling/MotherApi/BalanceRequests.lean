import MotherApi.AsyncReports
import MotherApi.OnchainWindows

/-!
The requests for balances, as they are read from JSON.

A network is named by its slug. Other names that a client might give a chain are refused wherever
they stand in a request, before any field is read: the check goes into every object and every array.
-/

namespace MotherApi.BalanceRequests

open MotherApi.Lib.Fallible MotherApi.Lib.JsonTrees MotherApi.Strings
open MotherApi.OnchainWindows (ApiError JsonObject containsKey get)

/-! ### The code -/

def invalidRequest : ApiError := ⟨400, "invalid_request", "Request parameters are invalid."⟩

def missingNetworkSlug : ApiError := ⟨400, "missing_network_slug", "Network slug is required."⟩

def unsupportedNetwork : ApiError := ⟨400, "unsupported_network", "Network is not supported."⟩

def invalidAddress : ApiError := ⟨400, "invalid_address", "Wallet address is invalid."⟩

def invalidAssetSlug : ApiError := ⟨400, "invalid_asset_slug", "Asset slug is invalid."⟩

def invalidContractAddress : ApiError :=
  ⟨400, "invalid_contract_address", "Contract address is invalid."⟩

def emptyTokens : ApiError := ⟨400, "empty_tokens", "At least one token selector is required."⟩

structure AsOfRequest where
  kind : String
  timestamp : Option String
  blockNumber : Option String
  deriving DecidableEq

structure OnchainAccountRequest where
  networkSlug : String
  address : String
  clientRef : Option String
  deriving DecidableEq

structure TokenSelectorRequest where
  assetSlugs : List String
  contractAddresses : List String
  deriving DecidableEq

structure SingleBalanceRequest where
  asOf : AsOfRequest
  account : OnchainAccountRequest
  quoteCurrency : String
  tokens : TokenSelectorRequest
  deriving DecidableEq

structure BulkBalanceRequest where
  asOf : AsOfRequest
  accounts : List OnchainAccountRequest
  quoteCurrency : String
  tokens : TokenSelectorRequest
  deriving DecidableEq

def reservedNetworkAliasFields : List String := ["chain", "chain_id", "chain_slug"]
def supportedBalanceNetworkSlugs : List String := ["eth-mainnet", "base-mainnet"]
def singleBalanceFields : List String := ["as_of", "account", "quote_currency", "tokens"]
def bulkBalanceFields : List String := ["as_of", "accounts", "quote_currency", "tokens"]
def asOfFields : List String := ["kind", "timestamp", "block_number"]
def accountFields : List String := ["network_slug", "address", "client_ref"]
def tokenFields : List String := ["asset_slugs", "contract_addresses"]

section

variable {ν : Type}

mutual

def rejectReservedAliasFieldsInObject (object : JsonObject ν) : Except ApiError Unit :=
  if reservedNetworkAliasFields.any (containsKey object) then .error invalidRequest
  else object.attach.forM fun entry => rejectReservedAliasFields entry.1.2
termination_by sizeOf object
decreasing_by
  have hlt := List.sizeOf_lt_of_mem entry.2
  have hentry : sizeOf entry.1 = 1 + sizeOf entry.1.1 + sizeOf entry.1.2 := rfl
  omega

def rejectReservedAliasFields : Value ν → Except ApiError Unit
  | .object object => rejectReservedAliasFieldsInObject object
  | .array values => values.attach.forM fun value => rejectReservedAliasFields value.1
  | _ => .ok ()
termination_by value => sizeOf value
decreasing_by
  · simp
  · exact sizeOf_lt_array value.2

end

def rejectUnknownFields (object : JsonObject ν) (allowedFields : List String) :
    Except ApiError Unit :=
  if object.any fun entry => !allowedFields.contains entry.1 then .error .unknownField else .ok ()

def validateRequiredString : Option (Value ν) → Except ApiError String
  | some (.string s) => if trim s = "" then .error invalidRequest else .ok (trim s)
  | _ => .error invalidRequest

def validateOptionalString : Option (Value ν) → Except ApiError (Option String)
  | none => .ok none
  | some (.string s) => if trim s = "" then .error invalidRequest else .ok (some (trim s))
  | some _ => .error invalidRequest

def validateAsOfObject : Option (Value ν) → Except ApiError AsOfRequest
  | some (.object asOf) => do
    rejectUnknownFields asOf asOfFields
    return {
      kind := ← validateRequiredString (get asOf "kind")
      timestamp := ← validateOptionalString (get asOf "timestamp")
      blockNumber := ← validateOptionalString (get asOf "block_number") }
  | _ => .error invalidRequest

def validateAccountNetworkSlug (supportedNetworkSlugs : List String) :
    Option (Value ν) → Except ApiError String
  | some (.string networkSlug) =>
    if trim networkSlug = "" then .error missingNetworkSlug
    else if trim networkSlug ∈ supportedNetworkSlugs then .ok (trim networkSlug)
    else .error unsupportedNetwork
  | _ => .error missingNetworkSlug

def validateAddress : Option (Value ν) → Except ApiError String
  | some (.string address) =>
    if trim address = "" ∨ isEvmAddress address = false then .error invalidAddress
    else .ok (toAsciiLowercase address)
  | _ => .error invalidAddress

def validateClientRef : Option (Value ν) → Except ApiError (Option String)
  | none | some .null => .ok none
  | some (.string clientRef) => .ok (some clientRef)
  | some _ => .error invalidRequest

def validateAccountObject (supportedNetworkSlugs : List String) :
    Option (Value ν) → Except ApiError OnchainAccountRequest
  | some (.object account) => do
    rejectUnknownFields account accountFields
    return {
      networkSlug :=
        ← validateAccountNetworkSlug supportedNetworkSlugs (get account "network_slug")
      address := ← validateAddress (get account "address")
      clientRef := ← validateClientRef (get account "client_ref") }
  | _ => .error invalidRequest

def validateAccountArray (supportedNetworkSlugs : List String) :
    Option (Value ν) → Except ApiError (List OnchainAccountRequest)
  | some (.array accounts) =>
    accounts.mapM fun account => validateAccountObject supportedNetworkSlugs (some account)
  | _ => .error invalidRequest

/-- A list of strings that pass a check, each of them as it is kept. -/
def validateStrings (error : ApiError) (passes : String → Bool) (keep : String → String) :
    Option (Value ν) → Except ApiError (List String)
  | none => .ok []
  | some (.array values) => values.mapM fun
    | .string value => if passes value then .ok (keep value) else .error error
    | _ => .error error
  | some _ => .error error

def validateAssetSlugs : Option (Value ν) → Except ApiError (List String) :=
  validateStrings invalidAssetSlug isAssetSlug id

def validateContractAddresses : Option (Value ν) → Except ApiError (List String) :=
  validateStrings invalidContractAddress isEvmAddress toAsciiLowercase

def validateRequiredNonEmptyTokensObject :
    Option (Value ν) → Except ApiError TokenSelectorRequest
  | none => .error emptyTokens
  | some (.object tokens) => do
    rejectUnknownFields tokens tokenFields
    let assetSlugs ← validateAssetSlugs (get tokens "asset_slugs")
    let contractAddresses ← validateContractAddresses (get tokens "contract_addresses")
    if assetSlugs = [] ∧ contractAddresses = [] then .error emptyTokens
    else .ok ⟨assetSlugs, contractAddresses⟩
  | some _ => .error invalidRequest

/-- `SingleBalanceRequest::try_from`. -/
def SingleBalanceRequest.tryFrom (request : JsonObject ν) :
    Except ApiError SingleBalanceRequest := do
  rejectReservedAliasFieldsInObject request
  rejectUnknownFields request singleBalanceFields
  return {
    asOf := ← validateAsOfObject (get request "as_of")
    account := ← validateAccountObject supportedBalanceNetworkSlugs (get request "account")
    quoteCurrency := ← validateRequiredString (get request "quote_currency")
    tokens := ← validateRequiredNonEmptyTokensObject (get request "tokens") }

/-- `BulkBalanceRequest::try_from`. -/
def BulkBalanceRequest.tryFrom (request : JsonObject ν) :
    Except ApiError BulkBalanceRequest := do
  rejectReservedAliasFieldsInObject request
  rejectUnknownFields request bulkBalanceFields
  return {
    asOf := ← validateAsOfObject (get request "as_of")
    accounts := ← validateAccountArray supportedBalanceNetworkSlugs (get request "accounts")
    quoteCurrency := ← validateRequiredString (get request "quote_currency")
    tokens := ← validateRequiredNonEmptyTokensObject (get request "tokens") }

/-- The object that a body is, if it is JSON by its header and by its text. -/
def bodyObject (contentType : AsyncReports.Header) (body : Option (Value ν)) :
    Except ApiError (JsonObject ν) :=
  match AsyncReports.ensureJsonContentType contentType, body with
  | .ok (), some (.object object) => .ok object
  | _, _ => .error invalidRequest

def SingleBalanceRequest.tryFromBody (contentType : AsyncReports.Header)
    (body : Option (Value ν)) : Except ApiError SingleBalanceRequest := do
  SingleBalanceRequest.tryFrom (← bodyObject contentType body)

def BulkBalanceRequest.tryFromBody (contentType : AsyncReports.Header)
    (body : Option (Value ν)) : Except ApiError BulkBalanceRequest := do
  BulkBalanceRequest.tryFrom (← bodyObject contentType body)

/-! ### The names of chains -/

lemma containsKey_iff {object : JsonObject ν} {field : String} :
    containsKey object field = true ↔ field ∈ object.map Prod.fst := by
  simp [containsKey, List.any_eq_true]

lemma rejectReservedAliasFieldsInObject_eq_ok {object : JsonObject ν} :
    rejectReservedAliasFieldsInObject object = .ok () ↔
      (∀ key ∈ reservedNetworkAliasFields, key ∉ object.map Prod.fst) ∧
        ∀ entry ∈ object, rejectReservedAliasFields entry.2 = .ok () := by
  rw [rejectReservedAliasFieldsInObject]
  split
  · rename_i hany
    obtain ⟨key, hkey, hcontains⟩ := List.any_eq_true.mp hany
    simp only [reduceCtorEq, false_iff]
    exact fun h => h.1 key hkey (containsKey_iff.mp hcontains)
  · rename_i hnone
    rw [forM_eq_ok]
    constructor
    · refine fun h => ⟨fun key hkey hmem => hnone ?_, fun entry hmem => ?_⟩
      · exact List.any_eq_true.mpr ⟨key, hkey, containsKey_iff.mpr hmem⟩
      · exact h ⟨entry, hmem⟩ (List.mem_attach _ _)
    · exact fun h entry _ => h.2 entry.1 entry.2

lemma rejectReservedAliasFields_array {values : List (Value ν)} :
    rejectReservedAliasFields (.array values) = .ok () ↔
      ∀ value ∈ values, rejectReservedAliasFields value = .ok () := by
  rw [rejectReservedAliasFields, forM_eq_ok]
  exact ⟨fun h value hmem => h ⟨value, hmem⟩ (List.mem_attach _ _),
    fun h value _ => h value.1 value.2⟩

/-- The check visits every object of a tree. -/
lemma rejectReservedAliasFields_eq_ok {value : Value ν} :
    rejectReservedAliasFields value = .ok () ↔ WithoutKeys reservedNetworkAliasFields value := by
  induction value using Value.induct with
  | array values ih =>
    rw [rejectReservedAliasFields_array, withoutKeys_array]
    exact forall₂_congr ih
  | object entries ih =>
    rw [rejectReservedAliasFields, rejectReservedAliasFieldsInObject_eq_ok, withoutKeys_object]
    exact and_congr Iff.rfl (forall₂_congr ih)
  | _ =>
    rw [rejectReservedAliasFields] <;>
      simp [withoutKeys_scalar]

lemma rejectReservedAliasFieldsInObject_iff {object : JsonObject ν} :
    rejectReservedAliasFieldsInObject object = .ok () ↔
      WithoutKeys reservedNetworkAliasFields (.object object) := by
  rw [← rejectReservedAliasFields_eq_ok, rejectReservedAliasFields]

lemma bodyObject_eq_ok {contentType : AsyncReports.Header} {body : Option (Value ν)}
    {object : JsonObject ν} (h : bodyObject contentType body = .ok object) :
    body = some (.object object) := by
  unfold bodyObject at h
  split at h
  · cases h
    rfl
  · cases h

lemma withoutKeys_of_bind {α : Type} {object : JsonObject ν} {rest : Unit → Except ApiError α}
    {a : α} (h : (rejectReservedAliasFieldsInObject object >>= rest) = .ok a) :
    WithoutKeys reservedNetworkAliasFields (.object object) := by
  obtain ⟨_, hreject, -⟩ := bind_eq_ok.mp h
  exact rejectReservedAliasFieldsInObject_iff.mp hreject

lemma exists_object_of_body {α : Type} {contentType : AsyncReports.Header}
    {body : Option (Value ν)} {tryFrom : JsonObject ν → Except ApiError α} {a : α}
    (h : (bodyObject contentType body >>= tryFrom) = .ok a) :
    ∃ object, body = some (.object object) ∧ tryFrom object = .ok a := by
  obtain ⟨object, hbody, h⟩ := bind_eq_ok.mp h
  exact ⟨object, bodyObject_eq_ok hbody, h⟩

end

/-- **The other names of a chain are refused wherever they are keys**: the check passes exactly if
no object in the request has one of them, so no request that is parsed has one anywhere. -/
theorem rejectReservedAliasFields_everywhere {ν : Type} :
    (∀ object : JsonObject ν, rejectReservedAliasFieldsInObject object = .ok () ↔
      WithoutKeys reservedNetworkAliasFields (.object object)) ∧
    (∀ (object : JsonObject ν) (parsed : SingleBalanceRequest),
      SingleBalanceRequest.tryFrom object = .ok parsed →
        WithoutKeys reservedNetworkAliasFields (.object object)) ∧
    (∀ (object : JsonObject ν) (parsed : BulkBalanceRequest),
      BulkBalanceRequest.tryFrom object = .ok parsed →
        WithoutKeys reservedNetworkAliasFields (.object object)) ∧
    ∀ (contentType : AsyncReports.Header) (body : Option (Value ν)),
      (∃ parsed, SingleBalanceRequest.tryFromBody contentType body = .ok parsed) ∨
        (∃ parsed, BulkBalanceRequest.tryFromBody contentType body = .ok parsed) →
      ∃ object, body = some (.object object) ∧
        WithoutKeys reservedNetworkAliasFields (.object object) := by
  refine ⟨fun _ => rejectReservedAliasFieldsInObject_iff, fun _ _ => withoutKeys_of_bind,
    fun _ _ => withoutKeys_of_bind, fun contentType body => ?_⟩
  rintro (⟨parsed, h⟩ | ⟨parsed, h⟩)
  · obtain ⟨object, hbody, h⟩ := exists_object_of_body h
    exact ⟨object, hbody, withoutKeys_of_bind h⟩
  · obtain ⟨object, hbody, h⟩ := exists_object_of_body h
    exact ⟨object, hbody, withoutKeys_of_bind h⟩

example : rejectReservedAliasFieldsInObject
    [("tokens", .object [("asset_slugs", .array [.string "chain", .array [.object
      [("chain_id", .number 1)]]])])] = .error invalidRequest := by
  decide +kernel

end MotherApi.BalanceRequests
