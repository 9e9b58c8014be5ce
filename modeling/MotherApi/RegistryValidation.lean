import MotherApi.Registry

/-!
What a checked catalog satisfies, said of its lists.

The checks are loops with sets of what was seen. What they leave is that slugs, identities and
active addresses do not repeat, that an alias has one asset, and that every mapping is about an
asset and a network of the catalog.
-/

namespace MotherApi.RegistryValidation

open MotherApi.Lib.Distinct MotherApi.Lib.Fallible MotherApi.Lib.Tables MotherApi.Strings
open MotherApi.Registry

def identity (mapping : CanonicalAssetChainMap) : String × String :=
  (mapping.assetSlug, mapping.networkSlug)

/-- The address an active mapping is deployed at, with its network. -/
def activeAddress (mapping : CanonicalAssetChainMap) : Option (String × String) :=
  if isActive mapping.status then
    mapping.deploymentAddress.map fun address => (mapping.networkSlug, address)
  else none

/-- The network an active native mapping is on. -/
def activeNative (mapping : CanonicalAssetChainMap) : Option String :=
  if isActive mapping.status && mapping.isNative then some mapping.networkSlug else none

structure ValidMapping (assetSlugs : List String) (networks : List CanonicalNetwork)
    (mapping : CanonicalAssetChainMap) : Prop where
  assetSlug : isAssetSlug mapping.assetSlug = true
  networkSlug : isAssetSlug mapping.networkSlug = true
  asset : mapping.assetSlug ∈ assetSlugs
  network : ∃ network ∈ networks, network.slug = mapping.networkSlug ∧
    validateMapping mapping network = .ok ()

structure Valid (catalog : Catalog) : Prop where
  assets : ∀ asset ∈ catalog.assets, validateAsset asset = .ok ()
  assetSlugs : (catalog.assets.map (·.slug)).Nodup
  aliases : ∀ asset ∈ catalog.assets, ∀ other ∈ catalog.assets, ∀ aliasName,
    aliasName ∈ asset.aliases → aliasName ∈ other.aliases → asset.slug = other.slug
  networks : ∀ network ∈ catalog.networks, validateNetwork network = .ok ()
  networkSlugs : (catalog.networks.map (·.slug)).Nodup
  mappings : ∀ mapping ∈ catalog.assetChainMaps,
    ValidMapping (catalog.assets.map (·.slug)) catalog.networks mapping
  identities : (catalog.assetChainMaps.map identity).Nodup
  addresses : (catalog.assetChainMaps.filterMap activeAddress).Nodup
  natives : (catalog.assetChainMaps.filterMap activeNative).Nodup

/-! ### Aliases -/

/-- The table of owners has the owner of every alias met. -/
def Owned (owners : String → Option String) (assets : List CanonicalAsset) : Prop :=
  ∀ asset ∈ assets, ∀ aliasName ∈ asset.aliases, owners aliasName = some asset.slug

lemma validateSharedAliases_ok {assetSlugs aliases : List String} {asset : CanonicalAsset}
    {owners owners' : String → Option String}
    (h : validateSharedAliases assetSlugs asset owners aliases = .ok owners') :
    (∀ aliasName ∈ aliases, owners' aliasName = some asset.slug) ∧
      ∀ aliasName slug, owners aliasName = some slug → owners' aliasName = some slug := by
  induction aliases generalizing owners with
  | nil =>
    cases h
    exact ⟨by simp, fun _ _ howner => howner⟩
  | cons aliasName aliases ih =>
    obtain ⟨-, -, h⟩ := bind_eq_ok.mp h
    -- whoever had the alias before is this asset
    obtain ⟨hprevious, h⟩ : (∀ slug, owners aliasName = some slug → slug = asset.slug) ∧
        validateSharedAliases assetSlugs asset
          (Function.update owners aliasName (some asset.slug)) aliases = .ok owners' := by
      simp only at h
      split at h
      · rename_i hnone
        exact ⟨fun slug hslug => by simp [hnone] at hslug, h⟩
      · rename_i previous hprevious
        obtain ⟨⟨⟩, hsame, h⟩ := bind_eq_ok.mp h
        refine ⟨fun slug hslug => ?_, h⟩
        rw [hprevious, Option.some.injEq] at hslug
        rw [← hslug]
        simpa using ensure_eq_ok.mp hsame
    obtain ⟨hall, hkeep⟩ := ih h
    refine ⟨?_, ?_⟩
    · intro other hother
      rcases List.mem_cons.mp hother with rfl | hother
      · exact hkeep other asset.slug (Function.update_self _ _ _)
      · exact hall other hother
    · intro other slug hslug
      refine hkeep other slug ?_
      by_cases heq : other = aliasName
      · subst heq
        rw [Function.update_self, hprevious slug hslug]
      · rw [Function.update_of_ne heq, hslug]

lemma foldlM_validateSharedAliases_ok {assetSlugs : List String} {assets : List CanonicalAsset}
    {owners : String → Option String}
    (h : assets.foldlM (fun owners asset =>
      validateSharedAliases assetSlugs asset owners asset.aliases) (fun _ => none) = .ok owners) :
    Owned owners assets := by
  refine foldlM_inv (fun done owners => Owned owners done) ?_ (fun _ h => by cases h) h
  intro done asset _ owners owners' howned hstep
  obtain ⟨hall, hkeep⟩ := validateSharedAliases_ok hstep
  intro other hother aliasName halias
  rcases List.mem_append.mp hother with hother | hother
  · exact hkeep aliasName other.slug (howned other hother aliasName halias)
  · rw [List.mem_singleton] at hother
    subst hother
    exact hall aliasName halias

/-! ### Mappings -/

lemma activeAddresses_eq (mapping : CanonicalAssetChainMap) :
    ((if isActive mapping.status then mapping.deploymentAddress.toList else []).map
      fun address => (mapping.networkSlug, address)) = (activeAddress mapping).toList := by
  unfold activeAddress
  split
  · cases mapping.deploymentAddress <;> rfl
  · rfl

lemma activeNative_eq_some {mapping : CanonicalAssetChainMap} {network : String} :
    activeNative mapping = some network ↔
      (isActive mapping.status && mapping.isNative) = true ∧ mapping.networkSlug = network := by
  simp [activeNative]

lemma validateMappings_ok {assetSlugs : List String} {networks : List CanonicalNetwork}
    {seen : SeenMappings} {mappings : List CanonicalAssetChainMap}
    (h : validateMappings assetSlugs networks seen mappings = .ok ()) :
    (∀ mapping ∈ mappings, ValidMapping assetSlugs networks mapping) ∧
      Fresh seen.keys (mappings.map identity) ∧
      Fresh seen.activeNetworkAddresses (mappings.filterMap activeAddress) ∧
      Fresh seen.activeNativeNetworks (mappings.filterMap activeNative) := by
  induction mappings generalizing seen with
  | nil => simp
  | cons mapping mappings ih =>
    rw [validateMappings] at h
    obtain ⟨hasset, h⟩ := check_bind.mp h
    obtain ⟨hnetwork, h⟩ := check_bind.mp h
    obtain ⟨-, h⟩ := check_bind.mp h
    obtain ⟨-, h⟩ := check_bind.mp h
    obtain ⟨-, h⟩ := check_bind.mp h
    obtain ⟨hdeclared, h⟩ := check_bind.mp h
    simp only at h
    split at h
    · cases h
    rename_i network hfound
    obtain ⟨hmapping, h⟩ := check_bind.mp h
    obtain ⟨hkey, h⟩ := check_bind.mp h
    obtain ⟨hnative, h⟩ := check_bind.mp h
    obtain ⟨haddress, h⟩ := check_bind.mp h
    obtain ⟨hvalid, hkeys, haddresses, hnatives⟩ := ih h
    refine ⟨List.forall_mem_cons.mpr ⟨?_, hvalid⟩, Fresh.cons ?_ hkeys,
      Fresh.filterMap_cons ?_ ?_, Fresh.filterMap_cons ?_ ?_⟩
    · exact ⟨ensure_eq_ok.mp hasset, ensure_eq_ok.mp hnetwork,
        by simpa using ensure_eq_ok.mp hdeclared, network, List.mem_of_find?_eq_some hfound,
        by simpa using List.find?_some hfound, hmapping⟩
    · simpa [identity] using ensure_eq_ok.mp hkey
    · intro address hactive
      rw [activeAddresses_eq, hactive] at haddress
      obtain ⟨⟨⟩, hnew, -⟩ := bind_eq_ok.mp haddress
      simpa using ensure_eq_ok.mp (check_bind.mp hnew).1
    · rw [← activeAddresses_eq]
      exact haddresses
    · intro network' hactive
      obtain ⟨hif, rfl⟩ := activeNative_eq_some.mp hactive
      simpa [hif] using ensure_eq_ok.mp hnative
    · have hnext : (activeNative mapping).toList ++ seen.activeNativeNetworks =
          if isActive mapping.status && mapping.isNative then
            mapping.networkSlug :: seen.activeNativeNetworks
          else seen.activeNativeNetworks := by
        unfold activeNative
        split <;> rfl
      rw [hnext]
      exact hnatives

/-- **A catalog that passes the checks is valid.** -/
theorem validateCatalog_valid {catalog : Catalog} (h : validateCatalog catalog = .ok ()) :
    Valid catalog := by
  obtain ⟨-, h⟩ := check_bind.mp h
  obtain ⟨hassets, h⟩ := check_bind.mp h
  obtain ⟨hassets, hslugs, -⟩ := validateAssets_ok hassets
  obtain ⟨owners, howners, h⟩ := bind_eq_ok.mp h
  obtain ⟨hnetworks, h⟩ := check_bind.mp h
  obtain ⟨hnetworks, hnetworkSlugs, -⟩ := validateNetworks_ok hnetworks
  obtain ⟨hmappings, ⟨hidentities, -⟩, ⟨haddresses, -⟩, hnatives, -⟩ := validateMappings_ok h
  have howned := foldlM_validateSharedAliases_ok howners
  refine ⟨hassets, hslugs, ?_, hnetworks, hnetworkSlugs, hmappings, hidentities, haddresses,
    hnatives⟩
  intro asset hasset other hother aliasName halias halias'
  have hsame := howned asset hasset aliasName halias
  rw [howned other hother aliasName halias', Option.some.injEq] at hsame
  exact hsame.symm

/-! ### One mapping -/

/-- What the checks of a mapping leave, for the results that need more than its keys. -/
structure CheckedMapping (mapping : CanonicalAssetChainMap) (network : CanonicalNetwork) :
    Prop where
  decimals : ∃ decimals, mapping.decimals = some decimals ∧ 0 ≤ decimals ∧ decimals ≤ 255
  native : mapping.isNative = true → mapping.tokenStandard = "native"
  deployed : mapping.isNative = false → mapping.tokenStandard ≠ "native" ∧
    ∃ address, mapping.deploymentAddress = some address ∧ toAsciiLowercase address = address ∧
      (mapping.tokenStandard = "erc20" → network.family = "evm" ∧ isEvmAddress address = true)

lemma validateMapping_checked {mapping : CanonicalAssetChainMap} {network : CanonicalNetwork}
    (h : validateMapping mapping network = .ok ()) : CheckedMapping mapping network := by
  unfold validateMapping at h
  simp only at h
  split at h
  · cases h
  rename_i decimals hdecimals
  obtain ⟨hrange, h⟩ := check_bind.mp h
  have hrange := ensure_eq_ok.mp hrange
  simp only [Bool.and_eq_true, decide_eq_true_eq] at hrange
  split at h
  · rename_i hnative
    obtain ⟨-, h⟩ := check_bind.mp h
    obtain ⟨-, h⟩ := check_bind.mp h
    have hstandard := ensure_eq_ok.mp h
    refine ⟨⟨decimals, hdecimals, hrange⟩, fun _ => by simpa using hstandard, fun hnot => ?_⟩
    rw [hnative] at hnot
    cases hnot
  · rename_i hnative
    obtain ⟨-, h⟩ := check_bind.mp h
    obtain ⟨hstandard, h⟩ := check_bind.mp h
    have hstandard := ensure_eq_ok.mp hstandard
    split at h
    · cases h
    rename_i address haddress
    obtain ⟨-, h⟩ := check_bind.mp h
    obtain ⟨hlower, h⟩ := check_bind.mp h
    obtain ⟨-, h⟩ := check_bind.mp h
    have hlower := ensure_eq_ok.mp hlower
    simp only [beq_iff_eq] at hlower
    refine ⟨⟨decimals, hdecimals, hrange⟩, fun hyes => absurd hyes hnative, fun _ =>
      ⟨by simpa using hstandard, address, haddress, hlower.symm, fun herc20 => ?_⟩⟩
    rw [if_pos herc20] at h
    obtain ⟨hfamily, h⟩ := check_bind.mp h
    obtain ⟨hevm, -⟩ := check_bind.mp h
    exact ⟨by simpa using ensure_eq_ok.mp hfamily, ensure_eq_ok.mp hevm⟩

end MotherApi.RegistryValidation
