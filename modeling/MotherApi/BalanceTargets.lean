import MotherApi.BalanceCommand
import MotherApi.Registry

/-!
Which on-chain balance a token selector stands for on a network, by the canonical registry.

An asset slug stands for the asset's mapping on the network, a contract address for the
ERC-20 contract there, known to the registry or not.
-/

namespace MotherApi.BalanceTargets

open MotherApi.Strings MotherApi.Registry MotherApi.BalanceCommand

inductive BalanceTargetKind
  | native
  | erc20 (contractAddress : String)
  deriving DecidableEq

def BalanceTargetKind.isErc20 : BalanceTargetKind → Bool
  | .native => false
  | .erc20 _ => true

structure BalanceTarget where
  networkSlug : String
  chainId : ℤ
  assetSlug : String
  symbol : String
  name : String
  decimals : ℕ
  pricingAssetSlug : String
  kind : BalanceTargetKind
  deriving DecidableEq

inductive BalanceTargetResolution
  | resolved (target : BalanceTarget)
  | unsupportedNetwork (networkSlug assetSlug : String)
  | unsupportedAsset (networkSlug assetSlug : String)
  | unsupportedPair (networkSlug assetSlug : String)
  | unsupportedTokenStandard (networkSlug assetSlug : String)
  deriving DecidableEq

structure BalanceNetworkResolution where
  networkSlug : String
  chainId : ℤ
  deriving DecidableEq

inductive ContractBalanceTargetResolution
  | resolved (target : BalanceTarget)
  | unknown (networkSlug : String) (chainId : ℤ) (contractAddress : String)
  deriving DecidableEq

/-- `u8::try_from`. -/
def toU8 (n : ℤ) : Option ℕ := if 0 ≤ n ∧ n < 256 then some n.toNat else none

def kindFromMapping (mapping : CanonicalAssetChainMap) : Option BalanceTargetKind :=
  if mapping.isNative ∧ mapping.tokenStandard = "native" then some .native
  else if ¬mapping.isNative ∧ mapping.tokenStandard = "erc20" then
    mapping.deploymentAddress.map .erc20
  else none

def targetFromMapping (networkSlug : String) (chainId : Option ℤ) (asset : CanonicalAsset)
    (mapping : CanonicalAssetChainMap) : Option BalanceTarget := do
  let chainId ← chainId.filter fun id => 0 < id
  let decimals ← mapping.decimals.bind toU8
  let kind ← kindFromMapping mapping
  return {
    networkSlug := networkSlug
    chainId := chainId
    assetSlug := asset.slug
    symbol := asset.symbol
    name := asset.name
    decimals := decimals
    pricingAssetSlug := asset.slug
    kind := kind }

section Resolver

variable (registry : CanonicalRegistry)

def resolveTarget (networkSlug : String) (target : CanonicalRegistry.CanonicalBalanceTarget) :
    BalanceTargetResolution :=
  let assetSlug := target.requestedAssetSlug
  match target.network, target.asset, target.mapping with
  | none, _, _ => .unsupportedNetwork networkSlug assetSlug
  | _, none, _ => .unsupportedAsset networkSlug assetSlug
  | _, _, none => .unsupportedPair networkSlug assetSlug
  | some network, some asset, some mapping =>
    if network.family ≠ "evm" then .unsupportedNetwork networkSlug assetSlug
    else
      match targetFromMapping network.slug network.chainId asset mapping with
      | some target => .resolved target
      | none => .unsupportedTokenStandard networkSlug assetSlug

def resolveAsset (networkSlug assetSlug : String) : BalanceTargetResolution :=
  resolveTarget networkSlug
    (registry.balanceTarget (registry.activeNetworkBySlug networkSlug) assetSlug)

def resolveNetwork (networkSlug : String) (orderedAssetSlugs : List String) :
    List BalanceTargetResolution :=
  (registry.orderedBalanceTargets networkSlug orderedAssetSlugs).map (resolveTarget networkSlug)

def resolveEvmNetwork (networkSlug : String) : Option BalanceNetworkResolution := do
  let network ← registry.networkBySlug networkSlug
  if network.status ≠ "active" ∨ network.family ≠ "evm" then none
  else
    let chainId ← network.chainId.filter fun id => 0 < id
    return ⟨network.slug, chainId⟩

def resolveErc20Contract (network : BalanceNetworkResolution) (address : String) :
    ContractBalanceTargetResolution :=
  let address := toAsciiLowercase address
  let target := do
    let metadata ← registry.erc20Metadata network.networkSlug address
    if metadata.network.chainId = some network.chainId then
      targetFromMapping network.networkSlug metadata.network.chainId metadata.asset metadata.mapping
    else none
  match target with
  | some target => .resolved target
  | none => .unknown network.networkSlug network.chainId address

def resolveErc20Contracts (network : BalanceNetworkResolution)
    (orderedContractAddresses : List String) : List ContractBalanceTargetResolution :=
  orderedContractAddresses.map (resolveErc20Contract registry network)

end Resolver

/-! ### Targets of a selector -/

inductive BalanceTokenSelector
  | assetSlug (assetSlug : String)
  | contractAddress (contractAddress : String)
  deriving DecidableEq

def BalanceTokenSelector.isAssetSlug : BalanceTokenSelector → Bool
  | .assetSlug _ => true
  | .contractAddress _ => false

structure ResolvedBalanceTarget where
  selector : BalanceTokenSelector
  networkSlug : String
  chainId : ℤ
  assetSlug : Option String
  symbol : Option String
  name : Option String
  decimals : Option ℕ
  pricingAssetSlug : Option String
  kind : BalanceTargetKind
  deriving DecidableEq

def resolvedTarget (selector : BalanceTokenSelector) (target : BalanceTarget) :
    ResolvedBalanceTarget where
  selector := selector
  networkSlug := target.networkSlug
  chainId := target.chainId
  assetSlug := some target.assetSlug
  symbol := some target.symbol
  name := some target.name
  decimals := some target.decimals
  pricingAssetSlug := some target.pricingAssetSlug
  kind := target.kind

def resolvedTargetFromAssetSelector (requestedAssetSlug : String) (target : BalanceTarget) :
    ResolvedBalanceTarget :=
  resolvedTarget (.assetSlug requestedAssetSlug) target

def resolvedTargetFromContractSelector (requestedContractAddress : String)
    (target : BalanceTarget) : ResolvedBalanceTarget :=
  resolvedTarget (.contractAddress (toAsciiLowercase requestedContractAddress)) target

def unresolvedContractTarget (networkSlug : String) (chainId : ℤ) (contractAddress : String) :
    ResolvedBalanceTarget where
  selector := .contractAddress contractAddress
  networkSlug := networkSlug
  chainId := chainId
  assetSlug := none
  symbol := none
  name := none
  decimals := none
  pricingAssetSlug := none
  kind := .erc20 contractAddress

/-- The selectors of a request, in the order of the items of an account. -/
def selectors (tokens : TokenSelector) : List BalanceTokenSelector :=
  tokens.assetSlugs.map .assetSlug ++ tokens.contractAddresses.map .contractAddress

@[simp] lemma length_selectors (tokens : TokenSelector) :
    (selectors tokens).length = tokens.len := by
  simp [selectors, TokenSelector.len]

section

variable (registry : CanonicalRegistry)

/-- What a selector stands for on a network, if it stands for a balance there. -/
def targetOf (networkSlug : String) : BalanceTokenSelector → Option ResolvedBalanceTarget
  | .assetSlug assetSlug =>
    match resolveAsset registry networkSlug assetSlug with
    | .resolved target => some (resolvedTargetFromAssetSelector assetSlug target)
    | _ => none
  | .contractAddress contractAddress => do
    let network ← resolveEvmNetwork registry networkSlug
    match resolveErc20Contract registry network contractAddress with
    | .resolved target => some (resolvedTargetFromContractSelector contractAddress target)
    | .unknown networkSlug chainId contractAddress =>
      some (unresolvedContractTarget networkSlug chainId contractAddress)

lemma resolveNetwork_eq (networkSlug : String) (assetSlugs : List String) :
    resolveNetwork registry networkSlug assetSlugs =
      assetSlugs.map (resolveAsset registry networkSlug) := by
  simp [resolveNetwork, CanonicalRegistry.orderedBalanceTargets, resolveAsset, Function.comp_def]

variable {registry}

lemma targetFromMapping_ok {networkSlug : String} {chainId : Option ℤ} {asset : CanonicalAsset}
    {mapping : CanonicalAssetChainMap} {target : BalanceTarget}
    (h : targetFromMapping networkSlug chainId asset mapping = some target) :
    target.networkSlug = networkSlug ∧ 0 < target.chainId ∧ target.assetSlug = asset.slug ∧
      target.pricingAssetSlug = asset.slug ∧
      (mapping.tokenStandard = "erc20" → ∃ address, mapping.deploymentAddress = some address ∧
        target.kind = .erc20 address) := by
  unfold targetFromMapping at h
  simp only [Option.bind_eq_bind, Option.bind_eq_some_iff] at h
  obtain ⟨id, hid, decimals, -, kind, hkind, h⟩ := h
  simp only [Option.pure_def, Option.some.injEq] at h
  subst h
  refine ⟨rfl, by simpa using (Option.filter_eq_some_iff.mp hid).2, rfl, rfl, ?_⟩
  intro hstandard
  rw [kindFromMapping, if_neg (by simp [hstandard])] at hkind
  split at hkind
  · obtain ⟨address, haddress, rfl⟩ := Option.map_eq_some_iff.mp hkind
    exact ⟨address, haddress, rfl⟩
  · cases hkind

lemma resolveEvmNetwork_ok {networkSlug : String} {network : BalanceNetworkResolution}
    (h : resolveEvmNetwork registry networkSlug = some network) : 0 < network.chainId := by
  unfold resolveEvmNetwork at h
  simp only [Option.bind_eq_bind, Option.bind_eq_some_iff] at h
  obtain ⟨canonical, -, h⟩ := h
  split at h
  · cases h
  · obtain ⟨id, hid, h⟩ := Option.bind_eq_some_iff.mp h
    simp only [Option.pure_def, Option.some.injEq] at h
    subst h
    simpa using (Option.filter_eq_some_iff.mp hid).2

lemma resolveErc20Contract_resolved (hindexed : Indexed registry)
    {network : BalanceNetworkResolution} {address : String} {target : BalanceTarget}
    (h : resolveErc20Contract registry network address = .resolved target) :
    0 < target.chainId ∧ target.kind = .erc20 (toAsciiLowercase address) := by
  unfold resolveErc20Contract at h
  simp only at h
  split at h
  · rename_i found hfound
    cases h
    simp only [Option.bind_eq_bind, Option.bind_eq_some_iff] at hfound
    obtain ⟨metadata, hmetadata, hfound⟩ := hfound
    split at hfound
    · obtain ⟨-, hid, -, -, hkind⟩ := targetFromMapping_ok hfound
      unfold CanonicalRegistry.erc20Metadata at hmetadata
      simp only [Option.bind_eq_bind, Option.bind_eq_some_iff] at hmetadata
      obtain ⟨index, hindex, asset, -, network, -, hmetadata⟩ := hmetadata
      simp only [Option.pure_def, Option.some.injEq] at hmetadata
      subst hmetadata
      obtain ⟨-, haddress, hstandard⟩ := hindexed.erc20 _ index hindex
      obtain ⟨found, hfound, hkind⟩ := hkind hstandard
      rw [haddress, Option.some.injEq] at hfound
      subst hfound
      simp only [toAsciiLowercase_idem] at hkind
      exact ⟨hid, hkind⟩
    · cases hfound
  · cases h

lemma resolveErc20Contract_unknown {network : BalanceNetworkResolution} {address : String}
    {networkSlug contractAddress : String} {chainId : ℤ}
    (h : resolveErc20Contract registry network address =
      .unknown networkSlug chainId contractAddress) :
    networkSlug = network.networkSlug ∧ chainId = network.chainId ∧
      contractAddress = toAsciiLowercase address := by
  unfold resolveErc20Contract at h
  simp only at h
  split at h
  · cases h
  · cases h
    exact ⟨rfl, rfl, rfl⟩

/-- An asset that has a target on a network has one of a positive chain id, under the slug that
was asked for or its lower case. -/
lemma resolveAsset_resolved {networkSlug assetSlug : String} {target : BalanceTarget}
    (h : resolveAsset registry networkSlug assetSlug = .resolved target) :
    0 < target.chainId ∧ target.pricingAssetSlug = target.assetSlug ∧
      ∃ asset, registry.assetBySlug assetSlug = some asset ∧ target.assetSlug = asset.slug := by
  unfold resolveAsset resolveTarget at h
  simp only at h
  split at h
  · cases h
  · cases h
  · cases h
  · rename_i network asset mapping _ hasset _
    split at h
    · cases h
    · split at h
      · rename_i found hfound
        cases h
        obtain ⟨-, hid, hslug, hpricing, -⟩ := targetFromMapping_ok hfound
        have hasset := (Option.filter_eq_some_iff.mp hasset).1
        exact ⟨hid, hpricing.trans hslug.symm, asset, hasset, hslug⟩
      · cases h

lemma targetOf_selector {networkSlug : String} {selector : BalanceTokenSelector}
    {target : ResolvedBalanceTarget} (h : targetOf registry networkSlug selector = some target)
    (hlower : ∀ address, selector = .contractAddress address →
      toAsciiLowercase address = address) : target.selector = selector := by
  cases selector with
  | assetSlug assetSlug =>
    rw [targetOf] at h
    split at h
    · cases h
      rfl
    · cases h
  | contractAddress address =>
    obtain ⟨network, -, h⟩ := Option.bind_eq_some_iff.mp h
    split at h
    · cases h
      simp only [resolvedTargetFromContractSelector, resolvedTarget, hlower address rfl]
    · rename_i hunknown
      cases h
      simp only [unresolvedContractTarget, (resolveErc20Contract_unknown hunknown).2.2,
        hlower address rfl]

lemma targetOf_contract (hindexed : Indexed registry) {networkSlug address : String}
    {target : ResolvedBalanceTarget}
    (h : targetOf registry networkSlug (.contractAddress address) = some target) :
    target.kind = .erc20 (toAsciiLowercase address) := by
  obtain ⟨network, -, h⟩ := Option.bind_eq_some_iff.mp h
  split at h
  · rename_i hres
    cases h
    exact (resolveErc20Contract_resolved hindexed hres).2
  · rename_i hres
    cases h
    simp only [unresolvedContractTarget, (resolveErc20Contract_unknown hres).2.2]

end

end MotherApi.BalanceTargets
