import MotherApi.BalanceTargets
import MotherApi.RegistryAnswers

/-!
The two ways to name a token name the same tokens.

A slug goes to its mapping by the pair of slugs, a contract address goes to a mapping by the
table of addresses. On a registry that was built from a catalog both arrive at one mapping, and
no other slug or address arrives there.
-/

namespace MotherApi.TokenSelectors

open MotherApi.Lib.Fallible MotherApi.Strings MotherApi.Registry
open MotherApi.Registry.CanonicalRegistry
open MotherApi.BalanceTargets MotherApi.RegistryValidation MotherApi.RegistryAnswers

lemma eq_of_nodup_filterMap {α κ : Type*} {f : α → Option κ} {l : List α}
    (hnodup : (l.filterMap f).Nodup) {a b : α} (ha : a ∈ l) (hb : b ∈ l) {k : κ}
    (hka : f a = some k) (hkb : f b = some k) : a = b := by
  induction l with
  | nil => cases ha
  | cons c l ih =>
    rw [List.filterMap_cons] at hnodup
    have hrest (hk : f c = some k) {d : α} (hd : d ∈ l) (hkd : f d = some k) : False := by
      rw [hk] at hnodup
      exact (List.nodup_cons.mp hnodup).1 (List.mem_filterMap.mpr ⟨d, hd, hkd⟩)
    rcases List.mem_cons.mp ha with rfl | ha' <;> rcases List.mem_cons.mp hb with rfl | hb'
    · rfl
    · exact (hrest hka hb' hkb).elim
    · exact (hrest hkb ha' hka).elim
    · refine ih ?_ ha' hb'
      split at hnodup
      · exact hnodup
      · exact (List.nodup_cons.mp hnodup).2

/-! ### Slugs -/

/-- What a slug that resolves on a network resolves by. -/
structure ResolvedBy (registry : CanonicalRegistry) (networkSlug assetSlug : String)
    (target : BalanceTarget) (network : CanonicalNetwork) (asset : CanonicalAsset)
    (mapping : CanonicalAssetChainMap) : Prop where
  onNetwork : registry.activeNetworkBySlug networkSlug = some network
  ofAsset : registry.assetBySlug assetSlug = some asset ∧ isActive asset.status = true
  byMapping : registry.mapping asset.slug network.slug = some mapping ∧
    isActive mapping.status = true
  isEvm : network.family = "evm"
  isTarget : targetFromMapping network.slug network.chainId asset mapping = some target

lemma resolveAsset_iff {registry : CanonicalRegistry} {networkSlug assetSlug : String}
    {target : BalanceTarget} : resolveAsset registry networkSlug assetSlug = .resolved target ↔
      ∃ network asset mapping,
        ResolvedBy registry networkSlug assetSlug target network asset mapping := by
  constructor
  · intro h
    unfold resolveAsset resolveTarget balanceTarget at h
    simp only at h
    split at h
    · cases h
    · cases h
    · cases h
    rename_i network asset mapping hnetwork hasset hmapping
    rw [hnetwork, hasset] at hmapping
    split at h
    · cases h
    rename_i hfamily
    split at h
    · rename_i found hfound
      cases h
      exact ⟨network, asset, mapping, hnetwork, Option.filter_eq_some_iff.mp hasset,
        Option.filter_eq_some_iff.mp hmapping, not_not.mp hfamily, hfound⟩
    · cases h
  · rintro ⟨network, asset, mapping, h⟩
    have hasset : ((registry.assetBySlug assetSlug).filter fun asset => isActive asset.status) =
        some asset := Option.filter_eq_some_iff.mpr h.ofAsset
    have hmapping : ((registry.mapping asset.slug network.slug).filter fun mapping =>
        isActive mapping.status) = some mapping := Option.filter_eq_some_iff.mpr h.byMapping
    simp [resolveAsset, resolveTarget, balanceTarget, h.onNetwork, hasset, hmapping, h.isEvm,
      h.isTarget]

lemma targetFromMapping_kind {networkSlug : String} {chainId : Option ℤ} {asset : CanonicalAsset}
    {mapping : CanonicalAssetChainMap} {target : BalanceTarget}
    (h : targetFromMapping networkSlug chainId asset mapping = some target) :
    kindFromMapping mapping = some target.kind := by
  unfold targetFromMapping at h
  simp only [Option.bind_eq_bind, Option.bind_eq_some_iff, Option.pure_def,
    Option.some.injEq] at h
  obtain ⟨-, -, -, -, kind, hkind, rfl⟩ := h
  exact hkind

lemma kindFromMapping_native {mapping : CanonicalAssetChainMap}
    (h : kindFromMapping mapping = some .native) : mapping.isNative = true := by
  unfold kindFromMapping at h
  split at h
  · rename_i hnative
    exact hnative.1
  · split at h
    · cases haddress : mapping.deploymentAddress <;> simp [haddress] at h
    · cases h

lemma kindFromMapping_erc20 {mapping : CanonicalAssetChainMap} {address : String}
    (h : kindFromMapping mapping = some (.erc20 address)) :
    mapping.tokenStandard = "erc20" ∧ mapping.deploymentAddress = some address := by
  unfold kindFromMapping at h
  split at h
  · cases h
  · split at h
    · rename_i herc20
      cases haddress : mapping.deploymentAddress <;> simp [haddress] at h
      exact ⟨herc20.2, by rw [h]⟩
    · cases h

section

variable {catalog : Catalog} {registry : CanonicalRegistry} (h : BuiltFrom catalog registry)

include h

lemma activeNetworkBySlug_iff {slug : String} {network : CanonicalNetwork} :
    registry.activeNetworkBySlug slug = some network ↔ network ∈ catalog.networks ∧
      network.slug = toAsciiLowercase slug ∧ isActive network.status = true := by
  rw [activeNetworkBySlug_eq_some h.built, h.networks]

lemma ResolvedBy.mem {networkSlug assetSlug : String} {target : BalanceTarget}
    {network : CanonicalNetwork} {asset : CanonicalAsset} {mapping : CanonicalAssetChainMap}
    (hby : ResolvedBy registry networkSlug assetSlug target network asset mapping) :
    mapping ∈ catalog.assetChainMaps ∧ mapping.assetSlug = toAsciiLowercase assetSlug ∧
      mapping.networkSlug = toAsciiLowercase networkSlug := by
  obtain ⟨hasset, hslug⟩ := (assetBySlug_iff h _ _).mp hby.ofAsset.1
  obtain ⟨hnetwork, hnetworkSlug, -⟩ := (activeNetworkBySlug_iff h).mp hby.onNetwork
  obtain ⟨hmem, hmappingAsset, hmappingNetwork⟩ := (mapping_iff h _ _ _).mp hby.byMapping.1
  rw [asset_slug_lower h hasset] at hmappingAsset
  rw [network_slug_lower h hnetwork] at hmappingNetwork
  exact ⟨hmem, hmappingAsset.trans hslug, hmappingNetwork.trans hnetworkSlug⟩

/-- **A balance has one slug**: two slugs that stand for the native balance of a network, or for
one contract on it, are the same up to case. -/
theorem resolveAsset_kind_inj {networkSlug slug slug' : String} {target target' : BalanceTarget}
    (hslug : resolveAsset registry networkSlug slug = .resolved target)
    (hslug' : resolveAsset registry networkSlug slug' = .resolved target')
    (hkind : target.kind = target'.kind) : toAsciiLowercase slug = toAsciiLowercase slug' := by
  obtain ⟨network, asset, mapping, hby⟩ := resolveAsset_iff.mp hslug
  obtain ⟨network', asset', mapping', hby'⟩ := resolveAsset_iff.mp hslug'
  obtain ⟨hmem, hasset, hnetwork⟩ := hby.mem h
  obtain ⟨hmem', hasset', hnetwork'⟩ := hby'.mem h
  have hof := targetFromMapping_kind hby.isTarget
  have hof' := targetFromMapping_kind hby'.isTarget
  have hsame : mapping = mapping' := by
    cases hcase : target.kind with
    | native =>
      rw [hcase] at hof hkind
      rw [← hkind] at hof'
      refine eq_of_nodup_filterMap h.valid.natives hmem hmem' (k := mapping.networkSlug) ?_ ?_
      · exact activeNative_eq_some.mpr ⟨by simp [hby.byMapping.2, kindFromMapping_native hof], rfl⟩
      · exact activeNative_eq_some.mpr ⟨by simp [hby'.byMapping.2, kindFromMapping_native hof'],
          hnetwork'.trans hnetwork.symm⟩
    | erc20 address =>
      rw [hcase] at hof hkind
      rw [← hkind] at hof'
      refine eq_of_nodup_filterMap h.valid.addresses hmem hmem'
        (k := (mapping.networkSlug, address)) ?_ ?_
      · simp [activeAddress, hby.byMapping.2, (kindFromMapping_erc20 hof).2]
      · simp [activeAddress, hby'.byMapping.2, (kindFromMapping_erc20 hof').2, hnetwork, hnetwork']
  rw [← hasset, hsame, hasset']

/-! ### Contracts -/

lemma resolveEvmNetwork_of_active {network : CanonicalNetwork}
    (hnetwork : network ∈ catalog.networks) (hactive : isActive network.status = true)
    (hfamily : network.family = "evm") : ∃ chainId, network.chainId = some chainId ∧ 0 < chainId ∧
      resolveEvmNetwork registry network.slug = some ⟨network.slug, chainId⟩ := by
  have hcheck := h.valid.networks network hnetwork
  obtain ⟨chainId, hchainId⟩ : ∃ chainId, (network.chainId.filter fun chainId => 0 < chainId) =
      some chainId := by
    unfold validateNetwork at hcheck
    iterate 7 obtain ⟨-, hcheck⟩ := check_bind.mp hcheck
    rw [if_pos hfamily] at hcheck
    split at hcheck
    · cases hcheck
    · rename_i chainId hchainId
      exact ⟨chainId, hchainId⟩
  obtain ⟨hsome, hpositive⟩ := Option.filter_eq_some_iff.mp hchainId
  refine ⟨chainId, hsome, by simpa using hpositive, ?_⟩
  have hfound : registry.networkBySlug network.slug = some network :=
    (networkBySlug_iff h _ _).mpr ⟨hnetwork, (network_slug_lower h hnetwork).symm⟩
  have hstatus : network.status = "active" := by simpa [isActive] using hactive
  simp [resolveEvmNetwork, hfound, hstatus, hfamily, hchainId]

omit h in
lemma resolveErc20Contract_resolved_iff {network : BalanceNetworkResolution} {address : String}
    {target : BalanceTarget} :
    resolveErc20Contract registry network address = .resolved target ↔
      ∃ metadata, registry.erc20Metadata network.networkSlug (toAsciiLowercase address) =
          some metadata ∧ metadata.network.chainId = some network.chainId ∧
        targetFromMapping network.networkSlug metadata.network.chainId metadata.asset
          metadata.mapping = some target := by
  constructor
  · intro hresolved
    unfold resolveErc20Contract at hresolved
    simp only at hresolved
    split at hresolved
    · rename_i found hfound
      cases hresolved
      obtain ⟨metadata, hmetadata, hfound⟩ := Option.bind_eq_some_iff.mp hfound
      split at hfound
      · rename_i hid
        exact ⟨metadata, hmetadata, hid, hfound⟩
      · cases hfound
    · cases hresolved
  · rintro ⟨metadata, hmetadata, hid, htarget⟩
    simp only [resolveErc20Contract, hmetadata, Option.bind_eq_bind, Option.bind_some, if_pos hid,
      htarget]

/-- The resolution of a contract on an active network, by its mapping. -/
lemma resolveErc20Contract_iff {network : CanonicalNetwork} (hnetwork : network ∈ catalog.networks)
    {chainId : ℤ} (hchainId : network.chainId = some chainId) {address : String}
    {target : BalanceTarget} :
    resolveErc20Contract registry ⟨network.slug, chainId⟩ address = .resolved target ↔
      ∃ asset mapping, IsErc20 catalog network.slug address ⟨asset, network, mapping⟩ ∧
        targetFromMapping network.slug network.chainId asset mapping = some target := by
  have hmetadata (metadata : CanonicalErc20Metadata) :
      registry.erc20Metadata network.slug (toAsciiLowercase address) = some metadata ↔
        IsErc20 catalog network.slug address metadata := by
    rw [erc20Metadata_iff h]
    constructor
    · rintro ⟨hmapping, hasset, hnetwork, hstandard, hslug, haddress⟩
      exact ⟨hmapping, hasset, hnetwork, hstandard, hslug, by simpa using haddress⟩
    · rintro ⟨hmapping, hasset, hnetwork, hstandard, hslug, haddress⟩
      exact ⟨hmapping, hasset, hnetwork, hstandard, hslug, by simpa using haddress⟩
  rw [resolveErc20Contract_resolved_iff]
  simp only [hmetadata]
  constructor
  · rintro ⟨⟨asset, other, mapping⟩, hfound, -, htarget⟩
    -- the network of the mapping is the one the address was looked up on
    obtain rfl : other = network := by
      refine network_unique h hfound.network.1 hnetwork ?_
      rw [hfound.network.2.2, hfound.networkSlug, network_slug_lower h hnetwork]
    exact ⟨asset, mapping, hfound, htarget⟩
  · rintro ⟨asset, mapping, hfound, htarget⟩
    exact ⟨_, hfound, hchainId, htarget⟩

/-- The mapping that an address finds is the one that the slug of its asset finds. -/
lemma exists_slug_iff {network : CanonicalNetwork} (hnetwork : network ∈ catalog.networks)
    (hactive : isActive network.status = true) (hfamily : network.family = "evm")
    {address : String} {target : BalanceTarget} :
    (∃ asset mapping, IsErc20 catalog network.slug address ⟨asset, network, mapping⟩ ∧
        targetFromMapping network.slug network.chainId asset mapping = some target) ↔
      ∃ assetSlug, toAsciiLowercase assetSlug = assetSlug ∧
        resolveAsset registry network.slug assetSlug = .resolved target ∧
        target.kind = .erc20 (toAsciiLowercase address) := by
  have hfound : registry.activeNetworkBySlug network.slug = some network :=
    (activeNetworkBySlug_iff h).mpr ⟨hnetwork, (network_slug_lower h hnetwork).symm, hactive⟩
  constructor
  · rintro ⟨asset, mapping, herc20, htarget⟩
    obtain ⟨⟨hmapping, hmappingActive⟩, ⟨hasset, hassetActive, hslug⟩, ⟨-, -, hnetworkSlug⟩,
      hstandard, -, haddress⟩ := herc20
    simp only at hmapping hmappingActive hasset hassetActive hslug hnetworkSlug hstandard haddress
    have hlower := asset_slug_lower h hasset
    refine ⟨asset.slug, hlower, resolveAsset_iff.mpr ⟨network, asset, mapping, hfound,
      ⟨(assetBySlug_iff h _ _).mpr ⟨hasset, hlower.symm⟩, hassetActive⟩,
      ⟨(mapping_iff h _ _ _).mpr ⟨hmapping, ?_, ?_⟩, hmappingActive⟩, hfamily, htarget⟩, ?_⟩
    · rw [hlower, hslug]
    · rw [network_slug_lower h hnetwork, hnetworkSlug]
    · obtain ⟨-, -, -, -, hkind⟩ := targetFromMapping_ok htarget
      obtain ⟨found, hdeployed, hkind⟩ := hkind hstandard
      rw [haddress, Option.some.injEq] at hdeployed
      rw [hkind, hdeployed]
  · rintro ⟨assetSlug, -, hresolved, hkind⟩
    obtain ⟨other, asset, mapping, hby⟩ := resolveAsset_iff.mp hresolved
    obtain rfl : network = other := by
      rw [← Option.some.injEq, ← hfound, hby.onNetwork]
    have hof := targetFromMapping_kind hby.isTarget
    rw [hkind] at hof
    obtain ⟨hstandard, haddress⟩ := kindFromMapping_erc20 hof
    obtain ⟨hmem, hmappingAsset, hmappingNetwork⟩ := hby.mem h
    obtain ⟨hasset, hslug⟩ := (assetBySlug_iff h _ _).mp hby.ofAsset.1
    rw [network_slug_lower h hnetwork] at hmappingNetwork
    refine ⟨asset, mapping, ⟨⟨hmem, hby.byMapping.2⟩, ⟨hasset, hby.ofAsset.2, ?_⟩,
      ⟨hnetwork, hactive, hmappingNetwork.symm⟩, hstandard, ?_, haddress⟩, hby.isTarget⟩
    · exact hslug.trans hmappingAsset.symm
    · rw [network_slug_lower h hnetwork]
      exact hmappingNetwork

end

/-- **Slugs and contracts name the same tokens**: on an active EVM network of a registry that was
built, an address resolves to a target exactly if a slug in lower case does whose target is the
contract there; the slug is the only one, and an address that does not resolve is unknown under
the network's chain id. -/
theorem resolveErc20Contracts_iff {catalog : Catalog} {registry : CanonicalRegistry}
    (hregistry : fromCatalog catalog = .ok registry) {network : CanonicalNetwork}
    (hnetwork : network ∈ registry.networks) (hactive : isActive network.status = true)
    (hfamily : network.family = "evm") (address : String) :
    ∃ chainId, network.chainId = some chainId ∧
      resolveEvmNetwork registry network.slug = some ⟨network.slug, chainId⟩ ∧
      (∀ target, resolveErc20Contracts registry ⟨network.slug, chainId⟩ [address] =
          [.resolved target] ↔
        ∃ assetSlug, toAsciiLowercase assetSlug = assetSlug ∧
          resolveNetwork registry network.slug [assetSlug] = [.resolved target] ∧
          target.kind = .erc20 (toAsciiLowercase address)) ∧
      (∀ assetSlug assetSlug' target target',
        toAsciiLowercase assetSlug = assetSlug → toAsciiLowercase assetSlug' = assetSlug' →
        resolveNetwork registry network.slug [assetSlug] = [.resolved target] →
        resolveNetwork registry network.slug [assetSlug'] = [.resolved target'] →
        target.kind = .erc20 (toAsciiLowercase address) →
        target'.kind = .erc20 (toAsciiLowercase address) →
        assetSlug = assetSlug' ∧ target = target') ∧
      ((∀ target, resolveErc20Contracts registry ⟨network.slug, chainId⟩ [address] ≠
          [.resolved target]) →
        resolveErc20Contracts registry ⟨network.slug, chainId⟩ [address] =
          [.unknown network.slug chainId (toAsciiLowercase address)]) := by
  have h := fromCatalog_builtFrom hregistry
  rw [h.networks] at hnetwork
  obtain ⟨chainId, hchainId, -, hevm⟩ := resolveEvmNetwork_of_active h hnetwork hactive hfamily
  refine ⟨chainId, hchainId, hevm, ?_⟩
  simp only [resolveErc20Contracts, resolveNetwork_eq, List.map_cons, List.map_nil,
    List.cons.injEq, and_true, ne_eq]
  refine ⟨?_, ?_, ?_⟩
  · intro target
    rw [resolveErc20Contract_iff h hnetwork hchainId,
      exists_slug_iff h hnetwork hactive hfamily]
  · intro slug slug' target target' hlower hlower' hslug hslug' hkind hkind'
    have hsame := resolveAsset_kind_inj h hslug hslug' (hkind.trans hkind'.symm)
    rw [hlower, hlower'] at hsame
    subst hsame
    rw [hslug, BalanceTargetResolution.resolved.injEq] at hslug'
    exact ⟨rfl, hslug'⟩
  · intro hnone
    cases hcase : resolveErc20Contract registry ⟨network.slug, chainId⟩ address with
    | resolved target => exact (hnone target hcase).elim
    | unknown networkSlug id contractAddress =>
      obtain ⟨rfl, rfl, rfl⟩ := resolveErc20Contract_unknown hcase
      rfl

/-- The sample catalog with a token on its network. -/
def tokenCatalog : Catalog where
  version := 3
  assets := [{
    slug := "usd-coin", symbol := "USDC", name := "USD Coin", assetKind := "stablecoin"
    category := none, canonicalPath := "/assets/usd-coin", aliases := []
    metadata := .object, status := "active", sortOrder := 2 }]
  networks := sampleCatalog.networks
  assetChainMaps := [{
    assetSlug := "usd-coin", networkSlug := "eth-mainnet", isNative := false
    deploymentAddress := some "0xa0b86991c6218b36c1d19d4a2e9eb0ce3606eb48"
    deploymentBlock := some 6082465, decimals := some 6
    tokenStandard := "erc20", metadata := .object, status := "active", sortOrder := 1 }]

lemma tokenCatalog_accepted : (fromCatalog tokenCatalog).toOption.isSome = true := by
  decide +kernel

def tokenRegistry : CanonicalRegistry := value (fromCatalog tokenCatalog) tokenCatalog_accepted

def tokenNetwork : CanonicalNetwork where
  slug := "eth-mainnet"
  name := "Ethereum"
  family := "evm"
  chainId := some 1
  caip2 := some "eip155:1"
  metadata := .object
  status := "active"
  sortOrder := 1

theorem resolveErc20Contracts_iff_token :
    tokenNetwork ∈ tokenRegistry.networks ∧ ∃ target assetSlug,
      toAsciiLowercase assetSlug = assetSlug ∧
      resolveNetwork tokenRegistry "eth-mainnet" [assetSlug] = [.resolved target] ∧
      target.kind = .erc20 "0xa0b86991c6218b36c1d19d4a2e9eb0ce3606eb48" := by
  have hnetwork : tokenNetwork ∈ tokenRegistry.networks := by decide +kernel
  refine ⟨hnetwork, ?_⟩
  obtain ⟨chainId, hchainId, -, hresolved, -⟩ := resolveErc20Contracts_iff (eq_ok_value _ _)
    hnetwork rfl rfl "0xA0b86991c6218b36c1d19d4a2e9eb0ce3606eb48"
  obtain rfl : 1 = chainId := by simpa [tokenNetwork] using hchainId
  obtain ⟨assetSlug, hslug⟩ := (hresolved {
    networkSlug := "eth-mainnet", chainId := 1, assetSlug := "usd-coin", symbol := "USDC"
    name := "USD Coin", decimals := 6, pricingAssetSlug := "usd-coin"
    kind := .erc20 "0xa0b86991c6218b36c1d19d4a2e9eb0ce3606eb48" }).mp (by decide +kernel)
  exact ⟨_, assetSlug, hslug⟩

end MotherApi.TokenSelectors
