import MotherApi.Lib.Groups
import MotherApi.RegistryIndexes

/-!
What a registry answers, against the catalog it was built from.

Every query has a plain reading over the lists of the catalog: the entry of a key in lower case,
the active entries in their order, the best match. A registry is built exactly from the catalogs
that pass the checks, and it answers every query as the plain reading does.
-/

namespace MotherApi.RegistryAnswers

open MotherApi.Lib.Fallible MotherApi.Lib.Groups MotherApi.Lib.Tables MotherApi.Strings
open MotherApi.Registry
open MotherApi.Registry.CanonicalRegistry MotherApi.RegistryValidation MotherApi.RegistryIndexes

/-! ### The plain readings -/

section

variable (catalog : Catalog)

def activeInOrder : List CanonicalAsset :=
  (catalog.assets.filter fun asset => isActive asset.status).insertionSort
    fun left right => assetKey left ≤ assetKey right

/-- The live mappings of an asset, in their order. -/
def liveMappings (assetSlug : String) : List CanonicalAssetChainMap :=
  (catalog.assetChainMaps.filter fun mapping => isLive catalog.assets catalog.networks mapping
    && mapping.assetSlug == assetSlug).insertionSort fun left right =>
      mappingKey left ≤ mappingKey right

/-- The asset has an active mapping to the network. -/
def isMappedTo (networkSlug : String) (asset : CanonicalAsset) : Bool :=
  catalog.assetChainMaps.any fun mapping => mapping.assetSlug == asset.slug
    && mapping.networkSlug == networkSlug && isActive mapping.status

/-- How a query finds an asset: by slug, else by symbol, else by name, else by alias. -/
def foundBy (query : String) (asset : CanonicalAsset) : Option CanonicalMatchConfidence :=
  if asset.slug = toAsciiLowercase query then some .slug
  else if toAsciiLowercase asset.symbol = toAsciiLowercase query then some .symbol
  else if toAsciiLowercase asset.name = toAsciiLowercase query then some .name
  else if toAsciiLowercase query ∈ asset.aliases then some .aliasName
  else none

/-- An active asset that the query finds. -/
def IsCandidate (query : String) (found : CanonicalAssetMatch) : Prop :=
  found.asset ∈ catalog.assets ∧ isActive found.asset.status = true ∧
    foundBy query found.asset = some found.confidence

/-- The active ERC-20 mapping of the address, with its active asset and network. -/
structure IsErc20 (networkSlug contractAddress : String) (found : CanonicalErc20Metadata) :
    Prop where
  mapping : found.mapping ∈ catalog.assetChainMaps ∧ isActive found.mapping.status = true
  asset : found.asset ∈ catalog.assets ∧ isActive found.asset.status = true ∧
    found.asset.slug = found.mapping.assetSlug
  network : found.network ∈ catalog.networks ∧ isActive found.network.status = true ∧
    found.network.slug = found.mapping.networkSlug
  standard : found.mapping.tokenStandard = "erc20"
  networkSlug : found.mapping.networkSlug = toAsciiLowercase networkSlug
  address : found.mapping.deploymentAddress = some (toAsciiLowercase contractAddress)

structure Answers (registry : CanonicalRegistry) : Prop where
  assetBySlug : ∀ slug asset, registry.assetBySlug slug = some asset ↔
    asset ∈ catalog.assets ∧ asset.slug = toAsciiLowercase slug
  networkBySlug : ∀ slug network, registry.networkBySlug slug = some network ↔
    network ∈ catalog.networks ∧ network.slug = toAsciiLowercase slug
  mapping : ∀ assetSlug networkSlug mapping, registry.mapping assetSlug networkSlug = some mapping ↔
    mapping ∈ catalog.assetChainMaps ∧ mapping.assetSlug = toAsciiLowercase assetSlug ∧
      mapping.networkSlug = toAsciiLowercase networkSlug
  erc20Metadata : ∀ networkSlug contractAddress found,
    registry.erc20Metadata networkSlug contractAddress = some found ↔
      IsErc20 catalog networkSlug contractAddress found
  activeAssets : ∀ limit, registry.activeAssets limit = (activeInOrder catalog).take limit
  assetDetail : ∀ slug, registry.assetDetail slug =
    (catalog.assets.find? fun asset => asset.slug = toAsciiLowercase slug
      && isActive asset.status).map fun asset => ⟨asset, liveMappings catalog asset.slug⟩
  mappedSlugs : ∀ networkSlug, registry.activeAssetSlugsMappedToNetwork networkSlug =
    if ∃ network ∈ catalog.networks, network.slug = toAsciiLowercase networkSlug ∧
        isActive network.status = true then
      ((activeInOrder catalog).filter (isMappedTo catalog (toAsciiLowercase networkSlug))).map
        (·.slug)
    else []
  confident : ∀ query found, registry.findConfidentAsset query = some found ↔
    IsCandidate catalog query found ∧ ∀ other, IsCandidate catalog query other →
      matchKey found ≤ matchKey other
  notConfident : ∀ query, registry.findConfidentAsset query = none ↔
    ∀ found, ¬IsCandidate catalog query found

end

/-! ### Lookups -/

section

variable {catalog : Catalog} {registry : CanonicalRegistry}

lemma map_get_eq_some {α κ : Type*} {l : List α} {f : α → κ} {table : κ → Option (Fin l.length)}
    (htable : ∀ key index, table key = some index ↔ f (l.get index) = key) {key : κ} {entry : α} :
    (table key).map l.get = some entry ↔ entry ∈ l ∧ f entry = key := by
  rw [Option.map_eq_some_iff]
  constructor
  · rintro ⟨index, hindex, rfl⟩
    exact ⟨List.get_mem _ _, (htable key index).mp hindex⟩
  · rintro ⟨hmem, rfl⟩
    obtain ⟨index, rfl⟩ := List.get_of_mem hmem
    exact ⟨index, (htable _ index).mpr rfl, rfl⟩

variable (hbuilt : Built registry)

include hbuilt

lemma assetBySlug_eq_some {slug : String} {asset : CanonicalAsset} :
    registry.assetBySlug slug = some asset ↔
      asset ∈ registry.assets ∧ asset.slug = toAsciiLowercase slug :=
  map_get_eq_some hbuilt.asset

lemma networkBySlug_eq_some {slug : String} {network : CanonicalNetwork} :
    registry.networkBySlug slug = some network ↔
      network ∈ registry.networks ∧ network.slug = toAsciiLowercase slug :=
  map_get_eq_some hbuilt.network

lemma mapping_eq_some {assetSlug networkSlug : String} {mapping : CanonicalAssetChainMap} :
    registry.mapping assetSlug networkSlug = some mapping ↔
      mapping ∈ registry.mappings ∧ mapping.assetSlug = toAsciiLowercase assetSlug ∧
        mapping.networkSlug = toAsciiLowercase networkSlug := by
  rw [CanonicalRegistry.mapping, map_get_eq_some hbuilt.mapping, identity, Prod.mk.injEq]

lemma activeNetworkBySlug_eq_some {slug : String} {network : CanonicalNetwork} :
    registry.activeNetworkBySlug slug = some network ↔ network ∈ registry.networks ∧
      network.slug = toAsciiLowercase slug ∧ isActive network.status = true := by
  rw [activeNetworkBySlug, Option.filter_eq_some_iff, networkBySlug_eq_some hbuilt, and_assoc]

lemma activeAssets_eq (limit : ℕ) : registry.activeAssets limit =
    ((registry.assets.filter fun asset => isActive asset.status).insertionSort
      fun left right => assetKey left ≤ assetKey right).take limit := by
  rw [activeAssets, List.map_take, hbuilt.activeAssets]

end

section

variable {catalog : Catalog} {registry : CanonicalRegistry}

lemma isLive_eq_true {assets : List CanonicalAsset} {networks : List CanonicalNetwork}
    {mapping : CanonicalAssetChainMap} :
    isLive assets networks mapping = true ↔ isActive mapping.status = true ∧
      (∃ asset ∈ assets, asset.slug = mapping.assetSlug ∧ isActive asset.status = true) ∧
      ∃ network ∈ networks, network.slug = mapping.networkSlug ∧
        isActive network.status = true := by
  simp [isLive, and_assoc]

/-- The registry was built from the catalog, which passed the checks. -/
structure BuiltFrom (catalog : Catalog) (registry : CanonicalRegistry) : Prop where
  valid : Valid catalog
  assets : registry.assets = catalog.assets
  networks : registry.networks = catalog.networks
  mappings : registry.mappings = catalog.assetChainMaps
  built : Built registry

lemma fromCatalog_builtFrom (h : fromCatalog catalog = .ok registry) :
    BuiltFrom catalog registry := by
  obtain ⟨⟨⟩, hcheck, -⟩ := bind_eq_ok.mp h
  have hcheck := lift_eq_ok.mp hcheck
  obtain ⟨built, hbuilt, hassets, hnetworks, hmappings, hindexes⟩ :=
    exists_fromCatalog (validateCatalog_valid hcheck) hcheck
  rw [h, Except.ok.injEq] at hbuilt
  subst hbuilt
  exact ⟨validateCatalog_valid hcheck, hassets, hnetworks, hmappings, hindexes⟩

variable (h : BuiltFrom catalog registry)

include h

lemma asset_slug_lower {asset : CanonicalAsset} (hasset : asset ∈ catalog.assets) :
    toAsciiLowercase asset.slug = asset.slug :=
  toAsciiLowercase_of_slug (validateAsset_slug (h.valid.assets asset hasset))

lemma network_slug_lower {network : CanonicalNetwork} (hnetwork : network ∈ catalog.networks) :
    toAsciiLowercase network.slug = network.slug :=
  toAsciiLowercase_of_slug (validateNetwork_slug (h.valid.networks network hnetwork))

lemma asset_unique {asset other : CanonicalAsset} (hasset : asset ∈ catalog.assets)
    (hother : other ∈ catalog.assets) (heq : asset.slug = other.slug) : asset = other :=
  List.inj_on_of_nodup_map h.valid.assetSlugs hasset hother heq

lemma network_unique {network other : CanonicalNetwork} (hnetwork : network ∈ catalog.networks)
    (hother : other ∈ catalog.networks) (heq : network.slug = other.slug) : network = other :=
  List.inj_on_of_nodup_map h.valid.networkSlugs hnetwork hother heq

lemma assetBySlug_iff (slug : String) (asset : CanonicalAsset) :
    registry.assetBySlug slug = some asset ↔
      asset ∈ catalog.assets ∧ asset.slug = toAsciiLowercase slug := by
  rw [assetBySlug_eq_some h.built, h.assets]

lemma networkBySlug_iff (slug : String) (network : CanonicalNetwork) :
    registry.networkBySlug slug = some network ↔
      network ∈ catalog.networks ∧ network.slug = toAsciiLowercase slug := by
  rw [networkBySlug_eq_some h.built, h.networks]

lemma mapping_iff (assetSlug networkSlug : String) (mapping : CanonicalAssetChainMap) :
    registry.mapping assetSlug networkSlug = some mapping ↔ mapping ∈ catalog.assetChainMaps ∧
      mapping.assetSlug = toAsciiLowercase assetSlug ∧
        mapping.networkSlug = toAsciiLowercase networkSlug := by
  rw [mapping_eq_some h.built, h.mappings]

lemma erc20Index_iff (networkSlug contractAddress : String) (mapping : CanonicalAssetChainMap) :
    (registry.erc20IndexByNetworkAddress (networkSlug, contractAddress)).map registry.mappings.get =
        some mapping ↔
      mapping ∈ catalog.assetChainMaps ∧
        isLive catalog.assets catalog.networks mapping = true ∧ mapping.tokenStandard = "erc20" ∧
        mapping.networkSlug = networkSlug ∧ mapping.deploymentAddress = some contractAddress := by
  have herc20 := h.built.erc20
  rw [h.assets, h.networks] at herc20
  rw [Option.map_eq_some_iff, ← h.mappings]
  constructor
  · rintro ⟨index, hindex, rfl⟩
    exact ⟨List.get_mem _ _, (herc20 _ index).mp hindex⟩
  · rintro ⟨hmem, hrest⟩
    obtain ⟨index, rfl⟩ := List.get_of_mem hmem
    exact ⟨index, (herc20 _ index).mpr hrest, rfl⟩

lemma erc20Metadata_iff (networkSlug contractAddress : String) (found : CanonicalErc20Metadata) :
    registry.erc20Metadata networkSlug contractAddress = some found ↔
      IsErc20 catalog networkSlug contractAddress found := by
  have hdef : registry.erc20Metadata networkSlug contractAddress = some found ↔
      (registry.erc20IndexByNetworkAddress (toAsciiLowercase networkSlug,
          toAsciiLowercase contractAddress)).map registry.mappings.get = some found.mapping ∧
        registry.assetBySlug found.mapping.assetSlug = some found.asset ∧
        registry.networkBySlug found.mapping.networkSlug = some found.network := by
    obtain ⟨asset, network, mapping⟩ := found
    simp only [CanonicalRegistry.erc20Metadata, Option.bind_eq_bind, Option.bind_eq_some_iff,
      Option.pure_def, Option.some.injEq, CanonicalErc20Metadata.mk.injEq, Option.map_eq_some_iff]
    constructor
    · rintro ⟨index, hindex, asset, hasset, network, hnetwork, rfl, rfl, rfl⟩
      exact ⟨⟨index, hindex, rfl⟩, hasset, hnetwork⟩
    · rintro ⟨⟨index, hindex, rfl⟩, hasset, hnetwork⟩
      exact ⟨index, hindex, asset, hasset, network, hnetwork, rfl, rfl, rfl⟩
  rw [hdef, erc20Index_iff h, isLive_eq_true, assetBySlug_iff h, networkBySlug_iff h]
  constructor
  · rintro ⟨⟨hmapping, ⟨hactive, ⟨asset, hasset, hslug, hassetActive⟩, network, hnetwork,
      hnetworkSlug, hnetworkActive⟩, hstandard, hkey, haddress⟩, ⟨hfound, hfoundSlug⟩,
      hfoundNetwork, hfoundNetworkSlug⟩
    have hlowerAsset : toAsciiLowercase found.mapping.assetSlug = found.mapping.assetSlug := by
      rw [← hslug]
      exact asset_slug_lower h hasset
    have hlowerNetwork : toAsciiLowercase found.mapping.networkSlug =
        found.mapping.networkSlug := by
      rw [← hnetworkSlug]
      exact network_slug_lower h hnetwork
    rw [hlowerAsset] at hfoundSlug
    rw [hlowerNetwork] at hfoundNetworkSlug
    have hassetEq := asset_unique h hasset hfound (hslug.trans hfoundSlug.symm)
    have hnetworkEq := network_unique h hnetwork hfoundNetwork
      (hnetworkSlug.trans hfoundNetworkSlug.symm)
    exact ⟨⟨hmapping, hactive⟩, ⟨hfound, hassetEq ▸ hassetActive, hfoundSlug⟩,
      ⟨hfoundNetwork, hnetworkEq ▸ hnetworkActive, hfoundNetworkSlug⟩, hstandard, hkey, haddress⟩
  · intro hfound
    obtain ⟨⟨hmapping, hactive⟩, ⟨hasset, hassetActive, hslug⟩, ⟨hnetwork, hnetworkActive,
      hnetworkSlug⟩, hstandard, hkey, haddress⟩ := hfound
    refine ⟨⟨hmapping, ⟨hactive, ⟨_, hasset, hslug, hassetActive⟩, _, hnetwork, hnetworkSlug,
      hnetworkActive⟩, hstandard, hkey, haddress⟩, ⟨hasset, ?_⟩, hnetwork, ?_⟩
    · rw [← hslug, asset_slug_lower h hasset]
    · rw [← hnetworkSlug, network_slug_lower h hnetwork]

lemma activeInOrder_eq : registry.activeAssetIndexes.map registry.assets.get =
    activeInOrder catalog := by
  rw [h.built.activeAssets, h.assets, activeInOrder]

lemma liveMappings_eq (slug : String) :
    (registry.activeMappingIndexesByAsset slug).map registry.mappings.get =
      liveMappings catalog slug := by
  rw [h.built.activeMappings slug, h.assets, h.networks, h.mappings, liveMappings]

lemma assetDetail_eq (slug : String) : registry.assetDetail slug =
    (catalog.assets.find? fun asset => asset.slug = toAsciiLowercase slug
      && isActive asset.status).map fun asset => ⟨asset, liveMappings catalog asset.slug⟩ := by
  have hdef : registry.assetDetail slug = ((registry.assetBySlug slug).filter fun asset =>
      isActive asset.status).map fun asset => ⟨asset, liveMappings catalog asset.slug⟩ := by
    unfold CanonicalRegistry.assetDetail CanonicalRegistry.assetBySlug
    cases registry.assetIndexBySlug (toAsciiLowercase slug) with
    | none => rfl
    | some index =>
      simp only [Option.bind_eq_bind, Option.bind_some, Option.map_some, Option.filter_some,
        liveMappings_eq h, Option.pure_def]
      split <;> rfl
  rw [hdef]
  congr 1
  ext asset
  rw [Option.filter_eq_some_iff, assetBySlug_iff h, and_assoc]
  constructor
  · rintro ⟨hasset, hslug, hactive⟩
    have hfound : (catalog.assets.find? fun asset => asset.slug = toAsciiLowercase slug
        && isActive asset.status).isSome := by
      rw [List.find?_isSome]
      exact ⟨asset, hasset, by simp [hslug, hactive]⟩
    obtain ⟨found, hfound⟩ := Option.isSome_iff_exists.mp hfound
    have hfoundSlug := List.find?_some hfound
    simp only [Bool.and_eq_true, decide_eq_true_eq] at hfoundSlug
    rw [hfound, asset_unique h (List.mem_of_find?_eq_some hfound) hasset
      (hfoundSlug.1.trans hslug.symm)]
  · intro hfound
    have hslug := List.find?_some hfound
    simp only [Bool.and_eq_true, decide_eq_true_eq] at hslug
    exact ⟨List.mem_of_find?_eq_some hfound, hslug⟩

lemma isMappedTo_eq {network : CanonicalNetwork} (hnetwork : network ∈ catalog.networks)
    {asset : CanonicalAsset} (hasset : asset ∈ catalog.assets) :
    ((registry.mapping asset.slug network.slug).any fun mapping => isActive mapping.status) =
      isMappedTo catalog network.slug asset := by
  rw [Bool.eq_iff_iff, Option.any_eq_true, isMappedTo, List.any_eq_true]
  simp only [mapping_iff h, asset_slug_lower h hasset, network_slug_lower h hnetwork,
    Bool.and_eq_true, beq_iff_eq, and_assoc]

lemma mappedSlugs_eq (networkSlug : String) :
    registry.activeAssetSlugsMappedToNetwork networkSlug =
      if ∃ network ∈ catalog.networks, network.slug = toAsciiLowercase networkSlug ∧
          isActive network.status = true then
        ((activeInOrder catalog).filter (isMappedTo catalog (toAsciiLowercase networkSlug))).map
          (·.slug)
      else [] := by
  unfold CanonicalRegistry.activeAssetSlugsMappedToNetwork
  rw [activeInOrder_eq h]
  cases hnetwork : registry.activeNetworkBySlug networkSlug with
  | none =>
    rw [if_neg]
    rintro ⟨network, hmem, hslug, hactive⟩
    rw [← h.networks] at hmem
    have hfound := (activeNetworkBySlug_eq_some h.built).mpr ⟨hmem, hslug, hactive⟩
    rw [hnetwork] at hfound
    contradiction
  | some network =>
    obtain ⟨hmem, hslug, hactive⟩ := (activeNetworkBySlug_eq_some h.built).mp hnetwork
    rw [h.networks] at hmem
    rw [if_pos ⟨network, hmem, hslug, hactive⟩]
    refine congrArg _ (List.filter_congr ?_)
    intro asset hasset
    have hasset : asset ∈ catalog.assets := by
      rw [activeInOrder, List.mem_insertionSort, List.mem_filter] at hasset
      exact hasset.1
    rw [isMappedTo_eq h hmem hasset, hslug]

/-! ### The best match -/

/-- The comparisons without regard to case are with the query in lower case. -/
lemma confidenceOf_eq (query : String) (index : Fin registry.assets.length) :
    registry.confidenceOf (toAsciiLowercase query) index =
      foundBy query (registry.assets.get index) := by
  have hmem : registry.assets.get index ∈ catalog.assets := by
    rw [← h.assets]
    exact List.get_mem _ _
  simp only [CanonicalRegistry.confidenceOf, foundBy, eqIgnoreAsciiCase, h.built.aliasName,
    toAsciiLowercase_idem, asset_slug_lower h hmem, beq_iff_eq]

lemma mem_candidates (query : String) (found : CanonicalAssetMatch) :
    (found ∈ registry.activeAssetIndexes.filterMap fun index =>
      (registry.confidenceOf (toAsciiLowercase query) index).map fun confidence =>
        (⟨registry.assets.get index, confidence⟩ : CanonicalAssetMatch)) ↔
      IsCandidate catalog query found := by
  have hactive (asset : CanonicalAsset) :
      asset ∈ registry.activeAssetIndexes.map registry.assets.get ↔
        asset ∈ catalog.assets ∧ isActive asset.status = true := by
    rw [activeInOrder_eq h, activeInOrder, List.mem_insertionSort, List.mem_filter]
  obtain ⟨asset, confidence⟩ := found
  simp only [List.mem_filterMap, confidenceOf_eq h, Option.map_eq_some_iff,
    CanonicalAssetMatch.mk.injEq, IsCandidate]
  rw [← and_assoc, ← hactive, List.mem_map]
  constructor
  · rintro ⟨index, hindex, confidence, hfound, rfl, rfl⟩
    exact ⟨⟨index, hindex, rfl⟩, hfound⟩
  · rintro ⟨⟨index, hindex, rfl⟩, hfound⟩
    exact ⟨index, hindex, confidence, hfound, rfl, rfl⟩

/-- Slugs are part of the order, so no two candidates share a place in it. -/
lemma matchKey_inj {query : String} {found other : CanonicalAssetMatch}
    (hfound : IsCandidate catalog query found) (hother : IsCandidate catalog query other)
    (heq : matchKey found = matchKey other) : found = other := by
  obtain ⟨asset, confidence⟩ := found
  obtain ⟨otherAsset, otherConfidence⟩ := other
  have hkey : assetKey asset = assetKey otherAsset := congrArg (·.2) heq
  have hslug : asset.slug = otherAsset.slug := congrArg (·.2.2) hkey
  obtain ⟨hasset, -, hconfidence⟩ := hfound
  obtain ⟨hotherAsset, -, hotherConfidence⟩ := hother
  obtain rfl : asset = otherAsset := asset_unique h hasset hotherAsset hslug
  have hsame : some confidence = some otherConfidence := hconfidence.symm.trans hotherConfidence
  rw [Option.some.inj hsame]

lemma findConfidentAsset_iff (query : String) (found : CanonicalAssetMatch) :
    registry.findConfidentAsset query = some found ↔ IsCandidate catalog query found ∧
      ∀ other, IsCandidate catalog query other → matchKey found ≤ matchKey other := by
  unfold CanonicalRegistry.findConfidentAsset
  simp only [← mem_candidates h]
  constructor
  · exact head_insertionSort
  · rintro ⟨hfound, hleast⟩
    obtain ⟨head, hhead⟩ := exists_head_insertionSort (f := matchKey) hfound
    obtain ⟨hmem, hle⟩ := head_insertionSort hhead
    rw [hhead, matchKey_inj h ((mem_candidates h query head).mp hmem)
      ((mem_candidates h query found).mp hfound)
      (le_antisymm (hle found hfound) (hleast head hmem))]

lemma findConfidentAsset_eq_none (query : String) :
    registry.findConfidentAsset query = none ↔ ∀ found, ¬IsCandidate catalog query found := by
  constructor
  · intro hnone found hfound
    obtain ⟨head, hhead⟩ :=
      exists_head_insertionSort (f := matchKey) ((mem_candidates h query found).mpr hfound)
    rw [CanonicalRegistry.findConfidentAsset, hhead] at hnone
    contradiction
  · intro hno
    rw [Option.eq_none_iff_forall_ne_some]
    intro found hfound
    exact hno found ((findConfidentAsset_iff h query found).mp hfound).1

lemma BuiltFrom.answers : Answers catalog registry where
  assetBySlug := assetBySlug_iff h
  networkBySlug := networkBySlug_iff h
  mapping := mapping_iff h
  erc20Metadata := erc20Metadata_iff h
  activeAssets limit := by rw [activeAssets_eq h.built, h.assets, activeInOrder]
  assetDetail := assetDetail_eq h
  mappedSlugs := mappedSlugs_eq h
  confident := findConfidentAsset_iff h
  notConfident := findConfidentAsset_eq_none h

end

/-- **The registry says what the catalog says**: it is built exactly from the catalogs that pass
the checks, without a panic, and it answers every query as the catalog's lists do. -/
theorem fromCatalog_answers (catalog : Catalog) :
    ((∃ registry, fromCatalog catalog = .ok registry) ↔ validateCatalog catalog = .ok ()) ∧
      fromCatalog catalog ≠ .error .panic ∧
      ∀ registry, fromCatalog catalog = .ok registry → Answers catalog registry := by
  refine ⟨⟨?_, ?_⟩, ?_, fun registry h => (fromCatalog_builtFrom h).answers⟩
  · rintro ⟨registry, h⟩
    obtain ⟨⟨⟩, hcheck, -⟩ := bind_eq_ok.mp h
    exact lift_eq_ok.mp hcheck
  · intro hcheck
    obtain ⟨registry, h, -⟩ := exists_fromCatalog (validateCatalog_valid hcheck) hcheck
    exact ⟨registry, h⟩
  · intro hpanic
    cases hcheck : validateCatalog catalog with
    | ok _ =>
      obtain ⟨registry, h, -⟩ := exists_fromCatalog (validateCatalog_valid hcheck) hcheck
      rw [h] at hpanic
      contradiction
    | error issue =>
      have hrefused : fromCatalog catalog = .error (.error issue) := by
        rw [fromCatalog, hcheck]
        rfl
      rw [hrefused] at hpanic
      cases hpanic

theorem fromCatalog_answers_several :
    ∃ registry, fromCatalog severalCatalog = .ok registry ∧ Answers severalCatalog registry ∧
      (registry.assetBySlug "USD-Coin").map (·.symbol) = some "USDC" ∧
      registry.activeAssetSlugsMappedToNetwork "base-mainnet" = ["ethereum"] ∧
      (registry.erc20Metadata "eth-mainnet" "0xA0b86991c6218b36c1d19d4a2e9eb0ce3606eb48").map
        (·.asset.slug) = some "usd-coin" :=
  ⟨severalRegistry, fromCatalog_severalCatalog,
    (fromCatalog_answers severalCatalog).2.2 _ fromCatalog_severalCatalog,
    by decide +kernel, by decide +kernel, by decide +kernel⟩

end MotherApi.RegistryAnswers
